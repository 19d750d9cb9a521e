/-
Quiet worlds: no class has a say in how its records are written, and none has
anything for their end.

What stands in a column is then shown without a change (`asState_idle`), if it is
not a number that is too long for that (`asState_behaves`), and what a column
shows is compared without asking anyone (`differ_run`). A class may still decide
on what is equal to its records or counts as true: neither is asked where only
texts are compared.
-/
import Lifecycle.Proofs.Plain

namespace Lifecycle

/-- Whether a value is what a column can show: null or a text. -/
def Value.isState : Value → Bool
  | .null | .str _ | .textOf _ => true
  | _ => false

@[simp] theorem Value.isState_asText (v : Value) : v.asText.isState = true := by
  rcases asText_cases v with ⟨s, h⟩ | ⟨w, h⟩ <;> simp [h, isState]

theorem Value.isInert_of_isState {v : Value} (h : v.isState = true) : v.isInert = true := by
  cases v with
  | null => exact isInert_null
  | str s => exact isInert_str s
  | textOf w => simp [isInert, any, isRecord]
  | _ => cases h

theorem Live.settle_of_isState {l : Live} {v : Value} (h : v.isState = true) :
    l.settle v = v := by
  cases v with
  | null => exact l.settle_null
  | str s => exact l.settle_str s
  | textOf w => exact l.settle_textOf w
  | _ => cases h

/-- A number is too long to be written. -/
def Stop.IsTooLong (stop : Stop) : Prop := stop = .fault .digitsExceeded

namespace Live

/-- No class defines a method of this name. -/
def Mute (l : Live) (name : String) : Prop := ∀ v, (l.lineage v).defined? name = .none

structure Quiet (l : Live) : Prop where
  shown : l.Mute "__str__"
  written : l.Mute "__repr__"
  lasting : l.hasFarewells = false

end Live

namespace Host

open Run (Behaves)

variable {h : Host} {l : Live} {W : Live → Prop}

/-! ## Asking -/

theorem special?_run {name : String} (hm : l.Mute name) (v : Value) :
    (h.special? name v).run l = .ok .none l := by
  cases v with
  | record id =>
    rw [special?, Run.run_bind_ok (Run.run_get l)]
    simp only [hm (.record id)]
    rfl
  | _ => rfl

theorem ask_run {name : String} (hm : l.Mute name) (v : Value) (args : List Value) :
    (h.ask name v args).run l = .ok .none l := by
  rw [ask, Run.run_bind_ok (special?_run hm v)]
  rfl

/-! ## Writing -/

/-- Where no record is written in its own way, only numbers can be too long to be written. -/
theorem spell_behaves (mute : ∀ l, W l → l.Mute "__repr__") :
    ∀ v, Behaves W W Stop.IsTooLong (h.spell v)
  | .int n => by
    rw [spell]
    split
    · exact Behaves.throw rfl
    · exact Behaves.pure _
  | .record id => by
    rw [spell]
    exact Behaves.bind_answer (fun l w => ask_run (mute l w) _ _) (Behaves.pure _)
  | .cls id => by
    rw [spell]
    exact Behaves.bind_answers (fun l _ => ⟨l, rfl⟩) fun _ => Behaves.pure _
  | .routine owner name layers => by
    rw [spell]
    split <;> exact Behaves.pure _
  | .method of owner name layers => by
    rw [spell]
    split
    · exact Behaves.pure _
    · refine (spell_behaves mute of).bind fun shown => ?_
      refine Behaves.bind_answers (fun l _ => ⟨l, rfl⟩) fun l => ?_
      dsimp only
      split <;> exact Behaves.pure _
  | .transition source target guard => by
    rw [spell]
    refine (spell_behaves mute source).bind fun _ => ?_
    refine (spell_behaves mute target).bind fun _ => ?_
    exact (spell_behaves mute guard).bind fun _ => Behaves.pure _
  | .list items => by
    rw [spell]
    exact (spellAll_behaves mute items).bind fun _ => Behaves.pure _
  | .tuple items => by
    rw [spell]
    exact (spellAll_behaves mute items).bind fun _ => Behaves.pure _
  | .obj entries => by
    rw [spell]
    exact (spellEntries_behaves mute entries).bind fun _ => Behaves.pure _
  | .null | .bool _ | .decimal _ _ | .str _ | .shared _ _ | .listAt _ | .walker _ _ | .moment _
  | .day _ | .machine _ | .function | .sealed _ | .undecided | .textOf _ | .verbatim _ => by
    rw [spell] <;> first | exact Behaves.pure _ | simp
where
  spellAll_behaves (mute : ∀ l, W l → l.Mute "__repr__") :
      ∀ vs, Behaves W W Stop.IsTooLong (h.spellAll vs)
    | [] => Behaves.pure _
    | v :: vs => by
      rw [spellAll]
      refine (spell_behaves mute v).bind fun _ => ?_
      exact (spellAll_behaves mute vs).bind fun _ => Behaves.pure _
  spellEntries_behaves (mute : ∀ l, W l → l.Mute "__repr__") :
      ∀ es, Behaves W W Stop.IsTooLong (h.spellEntries es)
    | [] => Behaves.pure _
    | (name, v) :: es => by
      rw [spellEntries]
      refine (spell_behaves mute v).bind fun _ => ?_
      exact (spellEntries_behaves mute es).bind fun _ => Behaves.pure _

section Quiet

variable (quiet : ∀ {l}, W l → l.Quiet)
include quiet

theorem spelled_behaves (v : Value) : Behaves W W Stop.IsTooLong (h.spelled v) :=
  Behaves.bind_answers (fun l _ => ⟨l.settle v, rfl⟩) fun w =>
    spell_behaves (fun _ w => (quiet w).written) w

theorem asText_behaves (v : Value) : Behaves W W Stop.IsTooLong (h.asText v) := by
  rw [asText]
  refine Behaves.bind_answer (fun l w => ask_run (quiet w).shown _ _) ?_
  refine Behaves.bind_answer (fun l w => ask_run (quiet w).written _ _) ?_
  exact (spelled_behaves quiet v).bind fun _ => Behaves.pure _

theorem asState_behaves (v : Value) : Behaves W W Stop.IsTooLong (h.asState v) := by
  rw [asState]
  split
  · exact Behaves.pure _
  · exact asText_behaves quiet v

/-- What was raised is asked for its text without any effect. -/
theorem message_behaves (stop : Stop) : Behaves W W Stop.IsTooLong (h.message stop) := by
  cases stop with
  | exhausted => exact Behaves.pure _
  | fault f =>
    rw [message]
    split
    · exact Behaves.pure _
    · exact (asText_behaves quiet _).bind fun _ => Behaves.pure _
    · exact (spelled_behaves quiet _).bind fun _ => Behaves.pure _

end Quiet

theorem asState_idle (hq : l.Quiet) (v : Value) : (h.asState v).Idle l :=
  (asState_behaves (W := (· = l)) (fun at_ => at_ ▸ hq) v).idle

theorem message_idle (hq : l.Quiet) (stop : Stop) : (h.message stop).Idle l :=
  (message_behaves (W := (· = l)) (fun at_ => at_ ▸ hq) stop).idle

/-- A text is what a column can show. -/
theorem isState_of_asText {v w : Value} {l' : Live}
    (hv : (h.asText v).run l = .ok w l') : w.isState = true := by
  have of_textFrom {name : String} {answer : Value} {m : Live}
      (ht : (textFrom name answer).run m = .ok w l') : w.isState = true := by
    cases answer with
    | str s | textOf v => cases ht; rfl
    | _ => cases ht
  obtain ⟨answer, m, -, hv⟩ := Run.run_bind_eq_ok.mp hv
  cases answer with
  | some a => exact of_textFrom hv
  | none =>
    obtain ⟨answer, m, -, hv⟩ := Run.run_bind_eq_ok.mp hv
    cases answer with
    | some a => exact of_textFrom hv
    | none =>
      obtain ⟨x, m, -, hx⟩ := Run.run_bind_eq_ok.mp hv
      cases hx
      exact Value.isState_asText x

/-- A column shows null or a text. -/
theorem isState_of_asState {v w : Value} {l' : Live} (hv : (h.asState v).run l = .ok w l') :
    w.isState = true := by
  rw [asState] at hv
  split at hv
  · cases hv
    rfl
  · exact isState_of_asText hv

/-! ## Comparing -/

/-- A value of which nobody else says whether it is true is looked at itself. -/
theorem truth_run {v : Value} (asked : (h.ask "__bool__" v []).run l = .ok .none l)
    (measured : (h.length? v).run l = .ok .none l) :
    (h.truth v).run l = .ok (l.settle v).truthy l := by
  rw [truth, Run.run_bind_ok asked]
  dsimp only
  rw [Run.run_bind_ok measured]
  rfl

theorem truth_run_bool (b : Bool) : (h.truth (.bool b)).run l = .ok b l := by
  have settled : l.settle (.bool b) = .bool b := by simp [Live.settle, Shelf.settle, Shelf.settleIn]
  rw [truth_run rfl rfl, settled]
  rfl

theorem truth_run_str (s : String) : (h.truth (.str s)).run l = .ok (Value.str s).truthy l := by
  rw [truth_run rfl rfl, l.settle_str]

/-- Values without records that stand for themselves are compared as they are. -/
theorem compare_run {r : Relation} {a b : Value} (sa : l.settle a = a) (sb : l.settle b = b)
    (ia : a.isInert = true) (ib : b.isInert = true) : (h.compare r a b).run l
      = (do return .bool (← Run.lift (r.check a b)) : Run Value).run l := by
  rw [compare_of_inert, sa, sb]
  · rwa [sa]
  · rwa [sb]

/-- What columns show is compared by its text. -/
theorem differ_run {a b : Value} (ha : a.isState = true) (hb : b.isState = true) :
    (h.differ a b).run l = .ok (!a.same b) l := by
  have sa := Live.settle_of_isState (l := l) ha
  have sb := Live.settle_of_isState (l := l) hb
  have compared : (h.compare .different a b).run l = .ok (.bool !(a.same b)) l :=
    compare_run sa sb (Value.isInert_of_isState ha) (Value.isInert_of_isState hb)
  rw [differ, Run.run_bind_ok compared, truth_run_bool]

/-! ### Where no class has a say in it -/

section Mute

variable (equal : l.Mute "__eq__") (different : l.Mute "__ne__")
include equal different

/-- A value and another one have nothing to say of each other, unless they are the same record. -/
theorem verdict_run_undecided {a b : Value} (apart : a.isSelfsame b = false) :
    (h.verdict .different a b).run l = .ok .undecided l := by
  have asked : (h.ask Relation.different.method a [b]).run l = .ok .none l := ask_run different a _
  have innate : (h.ask Relation.equal.method a [b]).run l = .ok .none l := ask_run equal a _
  rw [verdict, Run.run_bind_ok asked]
  dsimp only
  rw [innateVerdict, Run.run_bind_ok innate, apart]
  rfl

/-- So they differ. -/
theorem compareRecords_run {a b : Value} (apart : a.isSelfsame b = false)
    (reverse : b.isSelfsame a = false) :
    (h.compareRecords .different a b).run l = .ok (.bool true) l := by
  have direct := verdict_run_undecided (h := h) equal different apart
  have back := verdict_run_undecided (h := h) equal different reverse
  rw [compareRecords, Run.run_bind_ok (Run.run_get l)]
  cases l.isBelow b a with
  | true =>
    rw [if_pos rfl, if_pos rfl]
    simp only [Relation.swapped]
    rw [Run.run_bind_ok back]
    dsimp only
    rw [Run.run_bind_ok direct, apart]
    rfl
  | false =>
    rw [if_neg Bool.false_ne_true, if_neg Bool.false_ne_true, Run.run_bind_ok direct]
    simp only [Relation.swapped]
    rw [Run.run_bind_ok back, apart]
    rfl

/-- What a column shows can be compared with anything. -/
theorem differ_answers {v : Value} (hv : v.isState = true) (c : Value) :
    ∃ b, (h.differ v c).run l = .ok b l := by
  have alone : ∀ w : Value, ∃ b, (h.compareAlone .different v w).run l = .ok (.bool b) l := by
    intro w
    have apart : v.isSelfsame w = false ∧ w.isSelfsame v = false := by
      cases v with
      | null | str s | textOf u => cases w <;> exact ⟨rfl, rfl⟩
      | _ => cases hv
    rw [compareAlone]
    split
    · exact ⟨true, compareRecords_run equal different apart.1 apart.2⟩
    · exact ⟨_, rfl⟩
  have compared : ∃ b, (h.compare .different v c).run l = .ok (.bool b) l := by
    rw [compare, Run.run_bind_ok (Run.run_get l), Live.settle_of_isState hv]
    dsimp only
    split
    · exact ⟨_, rfl⟩
    · have single : h.compareIn .different v (l.settle c)
          = h.compareAlone .different v (l.settle c) := by
        cases v with
        | null | str s | textOf u => rw [compareIn] <;> simp
        | _ => cases hv
      rw [single]
      exact alone _
  obtain ⟨b, compared⟩ := compared
  exact ⟨b, by rw [differ, Run.run_bind_ok compared, truth_run_bool]⟩

end Mute

end Host

end Lifecycle
