/-
Partings: what is left when something that kept nothing is over.

`Host.parted` is all that `Host.passing` does besides what it runs: nothing of that
is in hand any longer, and records that nobody has are let go. No record can keep
others from being let go (`letGo_run`), so what is let go in passing never stops a
run that did not stop before (`passing_run_ok`).
-/
import Lifecycle.Proofs.Ends
import Lifecycle.Run.Farewell

namespace Lifecycle

namespace Host

variable {h : Host}

theorem letGoOf_run (n : Nat) (waiting : List RecordId) (l : Live) :
    (h.letGoOf n waiting).run l = .ok () ((h.letGoOf n waiting).final l) := by
  suffices answers : ∃ l', (h.letGoOf n waiting).run l = .ok () l' by
    obtain ⟨l', answered⟩ := answers
    rw [Run.final_of_ok answered, answered]
  have bids (id : RecordId) (l : Live) : ∃ l', (h.bidFarewell id).run l = .ok () l' := by
    unfold bidFarewell
    cases asked : (do let _ ← h.ask farewellName (.record id) [] : Run Unit).run l with
    | ok _ m => exact ⟨_, Run.run_bind_ok (Run.run_tryCatch_ok asked _) _⟩
    | error stop m => exact ⟨_, Run.run_bind_ok (Run.run_tryCatch_error asked _) _⟩
  induction n generalizing waiting l with
  | zero => exact ⟨l, rfl⟩
  | succ n ih =>
    rw [letGoOf, Run.run_bind_ok (Run.run_get l)]
    dsimp only
    split
    · exact ⟨l, rfl⟩
    · next id rest _ =>
      obtain ⟨m, bid⟩ := bids id { l with held := (id :: rest).map Value.record ++ l.held }
      obtain ⟨l', left⟩ := ih rest { m with held := l.held }
      exact ⟨l', (Run.run_bind_ok bid _).trans left⟩

theorem letGo_run (l : Live) : h.letGo.run l = .ok () (h.letGo.final l) := by
  suffices answers : ∃ l', h.letGo.run l = .ok () l' by
    obtain ⟨l', answered⟩ := answers
    rw [Run.final_of_ok answered, answered]
  rw [letGo, Run.run_bind_ok (Run.run_get l)]
  split
  · exact ⟨_, letGoOf_run _ _ _⟩
  · exact ⟨l, rfl⟩

/-- What is left when something is over that began at `l` and came to `m`: nothing of it is in hand
any longer, and records that nobody has are let go. -/
def parted (h : Host) (l m : Live) : Live :=
  if l.hasFarewells then h.letGo.final { m with held := l.held } else m

variable {α : Type} {act : Run α} {l m : Live}

theorem passing_run_ok {a : α} (acted : act.run l = .ok a m) :
    (h.passing act).run l = .ok a (h.parted l m) := by
  rw [passing, inHand, Run.run_bind_ok (Run.run_get l), parted]
  split
  · refine (Run.run_bind_ok acted _).trans ?_
    exact Run.run_bind_ok (letGo_run { m with held := l.held }) _
  · exact acted

theorem passing_run_error {stop : Stop} (acted : act.run l = .error stop m) :
    (h.passing act).run l = .error stop m := by
  rw [passing, inHand, Run.run_bind_ok (Run.run_get l)]
  split
  · exact Run.run_bind_error acted _
  · exact acted

/-- What partings keep is kept in passing. -/
theorem passing_keeps {P : Live → Live → Prop} [IsPreorder Live P]
    (partings : ∀ l m, P m (h.parted l m)) (acts : Run.Keeps P act) :
    Run.Keeps P (h.passing act) := by
  intro l
  have acted := acts l
  cases run : act.run l with
  | ok a m =>
    rw [Run.final_of_ok run] at acted
    rw [Run.final_of_ok (passing_run_ok run)]
    exact trans_of P acted (partings l m)
  | error stop m =>
    rw [Run.final_of_error run] at acted
    rwa [Run.final_of_error (passing_run_error run)]

/-- So is a world. -/
theorem passing_behaves {W : Live → Prop} {S : Stop → Prop}
    (partings : ∀ l m, W m → W (h.parted l m)) (acts : Run.Behaves W W S act) :
    Run.Behaves W W S (h.passing act) := by
  intro l w
  have acted := acts l w
  cases run : act.run l with
  | ok a m =>
    rw [Run.Ends, run] at acted
    rw [Run.Ends, passing_run_ok run]
    exact .ok (partings l m acted.world)
  | error stop m =>
    rw [Run.Ends, run] at acted
    rwa [Run.Ends, passing_run_error run]

/-- Where no class has anything for the end of its records, nothing happens at a parting. -/
theorem parted_eq {l m : Live} (hm : m.hasFarewells = false) :
    ∃ held, h.parted l m = { m with held } := by
  rw [parted]
  split
  · have none : ({ m with held := l.held } : Live).hasFarewells = false := hm
    have idle : h.letGo.run { m with held := l.held } = .ok () { m with held := l.held } := by
      rw [letGo, Run.run_bind_ok (Run.run_get _), none]
      rfl
    exact ⟨l.held, Run.final_of_ok idle⟩
  · exact ⟨m.held, rfl⟩

end Host

end Lifecycle
