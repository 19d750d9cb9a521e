/-
Interleavings of two machines on one record.

In any interleaving (`Setting.Interleaved`) an operation of one machine leaves the
column of the other as it was, and a fire that fails leaves its own column as it
was if and only if that is level (`Setting.columns_apart`). So the columns stay
apart as long as a fire fails only where its column is level: a machine that has
committed nothing since the other one did so puts a state of the other one into
its own column when it fails (`Live.crossed`).
-/
import Lifecycle.Proofs.Columns
import Lifecycle.Proofs.Scripts
import Mathlib.Logic.Function.Basic

namespace Lifecycle

open Run (Keeps)

/-- What holds of one side and of the other holds of both. -/
theorem forall_sides {P : Bool → Prop} (side : Bool) (h : P side) (h' : P (!side)) :
    ∀ b, P b := by
  intro b
  cases side <;> cases b <;> assumption

namespace Live

/-- The attributes that two machines write, as the machine of one side sees them. -/
abbrev sharedNames (column : Bool → String) (side : Bool) : List String :=
  column (!side) :: stateNames (column side)

/-- The states of two machines. -/
abbrev eitherStates (m : Bool → Machine) : List State := (m false).states ++ (m true).states

/-- What is true of the record of two machines in any case: each state that it holds or that was
committed on it is one of either machine. -/
structure Mingles (W : Live → Prop) (m : Bool → Machine) (id : RecordId) (column : Bool → String)
    (l : Live) : Prop where
  world : W l
  held : ∀ side, l.Holds id (column side) (eitherStates m)
  committed : l.value? id committedAttribute = .none
    ∨ ∃ s ∈ eitherStates m, l.value? id committedAttribute = .some (.str s.name)

variable {W : Live → Prop} {m : Bool → Machine} {id : RecordId} {column : Bool → String}
  {l l' : Live} {side : Bool}

theorem mem_eitherStates {s : State} (h : s ∈ (m side).states) : s ∈ eitherStates m := by
  cases side
  · exact List.mem_append_left _ h
  · exact List.mem_append_right _ h

theorem Mingles.legible (h : l.Mingles W m id column) : l.IsLegible id := by
  rcases h.committed with hnone | ⟨s, _, hv⟩
  · exact .inl hnone
  · exact .inr ⟨s.name, hv⟩

theorem Mingles.spared (h : l.Mingles W m id column)
    (hs : Spares W id (sharedNames column side) l l') : l'.Mingles W m id column := by
  obtain ⟨w, same⟩ := hs h.world
  refine ⟨w, forall_sides side ?_ ?_, ?_⟩
  · exact (h.held side).congr (same _ (by simp))
  · exact (h.held (!side)).congr (same _ (by simp))
  · rw [same committedAttribute (by simp)]
    exact h.committed

theorem Mingles.settles (h : l.Mingles W m id column)
    (settled : l'.IsSettled W (m side) id (column side))
    (same : l'.value? id (column (!side)) = l.value? id (column (!side))) :
    l'.Mingles W m id column := by
  refine ⟨settled.world, forall_sides side ?_ ?_, ?_⟩
  · exact settled.holds.mono fun _ hs => mem_eitherStates hs
  · exact (h.held (!side)).congr same
  · obtain ⟨s, hs, at_⟩ := settled
    exact .inr ⟨s, mem_eitherStates hs, at_.committed⟩

/-- What was committed last through each of two machines, before and after an operation of one of
them: the operation has left the state as it was, or it has committed the one that the record is in
after it. -/
inductive Notes (W : Live → Prop) (m : Bool → Machine) (id : RecordId) (column : Bool → String)
    (side : Bool) (l l' : Live) (last : Bool → Option Value) : (Bool → Option Value) → Prop where
  | nothing (same : ∀ name ∈ stateNames (column side), l'.value? id name = l.value? id name) :
    Notes W m id column side l l' last last
  | commit (settled : l'.IsSettled W (m side) id (column side)) :
    Notes W m id column side l l' last
      (Function.update last side (l'.value? id committedAttribute))

end Live

namespace Engine

variable {m : Bool → Machine} {W : Live → Prop} {id : RecordId} {column : Bool → String}
  {side : Bool} {l l' : Live} {r : Except Stop Bool}
  (out : Outcome W (m side) id (column side) (column (!side)) l r l')
include out

theorem Outcome.mingles (mingled : l.Mingles W m id column) :
    l'.Mingles W m id column ∧ l'.value? id (column (!side)) = l.value? id (column (!side)) := by
  cases out with
  | stays spared hr => exact ⟨mingled.spared spared, (spared mingled.world).2 _ (by simp)⟩
  | settles settled same hr => exact ⟨mingled.settles settled same, same⟩

/-- Every operation can be noted. -/
theorem Outcome.noted (w : W l) (last : Bool → Option Value) :
    ∃ last', Live.Notes W m id column side l l' last last' := by
  cases out with
  | stays spared hr => exact ⟨last, .nothing fun name hn => (spared w).2 name (.tail _ hn)⟩
  | settles settled same hr => exact ⟨_, .commit settled⟩

theorem Outcome.columns (mingled : l.Mingles W m id column) {last last' : Bool → Option Value}
    (notes : Live.Notes W m id column side l l' last last')
    (before : ∀ b, l.Holds id (column b) (m b).states ∧ l.value? id (column b) = last b) :
    ∀ b, l'.Holds id (column b) (m b).states ∧ l'.value? id (column b) = last' b := by
  have others := (out.mingles mingled).2
  have heldOther := (before (!side)).1.congr others
  cases notes with
  | nothing same =>
    have own := same (column side) (by simp)
    refine forall_sides side ⟨?_, own.trans (before side).2⟩ ⟨heldOther, ?_⟩
    · exact (before side).1.congr own
    · exact others.trans (before (!side)).2
  | commit settled =>
    refine forall_sides side ⟨settled.holds, ?_⟩ ⟨heldOther, ?_⟩
    · obtain ⟨s, _, at_⟩ := settled
      rw [Function.update_self, at_.shown, at_.committed]
    · rw [Function.update_of_ne (by simp), others]
      exact (before (!side)).2

end Engine

namespace Setting

variable {s : Setting} {m : Bool → Machine} {W : Live → Prop} {id : RecordId}
  {column : Bool → String} {G : Bool → Callback → Prop}

/-- Some starts and fires of two machines on one record, which nobody has committed before. `last`
is what was committed last through each machine, or what its column held at first. Fires fail only
where they `may`. -/
inductive Interleaved (s : Setting) (m : Bool → Machine) (W : Live → Prop) (id : RecordId)
    (column : Bool → String) (may : Bool → Live → Prop) : (Bool → Option Value) → Live → Prop where
  | fresh {l : Live} (w : W l) (uncommitted : l.value? id committedAttribute = .none)
    (held : ∀ side, l.Holds id (column side) (m side).states) :
    Interleaved s m W id column may (fun side => l.value? id (column side)) l
  | start (side : Bool) (n : Nat) {last last' : Bool → Option Value} {l : Live}
    (before : Interleaved s m W id column may last l)
    (notes : Live.Notes W m id column side l ((s.engineAt (m side) n).start.final l) last last') :
    Interleaved s m W id column may last' ((s.engineAt (m side) n).start.final l)
  | fire (side : Bool) (n : Nat) (event : String) {last last' : Bool → Option Value} {l : Live}
    (before : Interleaved s m W id column may last l)
    (h : ∀ l', ((s.engineAt (m side) n).fire (.str event)).run l ≠ .ok false l')
    (notes : Live.Notes W m id column side l
      (((s.engineAt (m side) n).fire (.str event)).final l) last last') :
    Interleaved s m W id column may last' (((s.engineAt (m side) n).fire (.str event)).final l)
  | fail (side : Bool) (n : Nat) (event : String) {last : Bool → Option Value} {l l' : Live}
    (before : Interleaved s m W id column may last l) (allowed : may side l)
    (h : ((s.engineAt (m side) n).fire (.str event)).run l = .ok false l') :
    Interleaved s m W id column may last l'
  | aside (side : Bool) {last : Bool → Option Value} {l l' : Live}
    (before : Interleaved s m W id column may last l)
    (h : Live.Spares W id (Live.sharedNames column side) l l') :
    Interleaved s m W id column may last l'

section Pair

variable (beside : ∀ side n, Live.Beside W (s.engineAt (m side) n) id (column side) (column (!side)))
  (choice : ∀ side n, (s.engineAt (m side) n).ChoiceKeeps (G side)
    (Live.Spares W id (Live.sharedNames column side)))
  (effect : ∀ side n, (s.engineAt (m side) n).EffectKeeps
    (s.Conduct (m side) W id (Live.sharedNames column side) n))
include beside choice effect

/-- What user code fires after a commit leaves the record settled. -/
theorem effect_settled (side : Bool) (n : Nat) : (s.engineAt (m side) n).EffectKeeps
    (Live.StaysSettled W (m side) id (column side) (column (!side))) := by
  have spares (l l' : Live) (h : Live.Spares W id (Live.sharedNames column side) l l') :
      Live.StaysSettled W (m side) id (column side) (column (!side)) l l' := h.staysSettled
  have own (n : Nat) : (s.engineAt (m side) n).OwnKeeps
      (Live.StaysSettled W (m side) id (column side) (column (!side))) :=
    Engine.ownKeeps_staysSettled (beside side n)
  have users (n : Nat) : (s.engineAt (m side) n).UserKeeps (G side)
      (s.Conduct (m side) W id (Live.sharedNames column side) n) :=
    { (choice side n).mono fun _ _ h => Conduct.aside h with
      toEffectKeeps := effect side n }
  exact (userKeeps_of_conduct own spares users n).toEffectKeeps

theorem start_ends (side : Bool) (n : Nat) {l : Live} (w : W l) :
    (s.engineAt (m side) n).start.Ends l
      (Engine.Outcome W (m side) id (column side) (column (!side)) l) :=
  Engine.start_outcome (beside side n) (choice side n)
    (effect_settled beside choice effect side n) w

theorem fire_ends (side : Bool) (n : Nat) (event : String) {l : Live}
    (mingled : l.Mingles W m id column) :
    ((s.engineAt (m side) n).fire (.str event)).Ends l fun r l' =>
      r ≠ .ok false ∧ Engine.Outcome W (m side) id (column side) (column (!side)) l r l'
        ∨ r = .ok false ∧ ∃ l₁, Live.Spares W id (Live.sharedNames column side) l l₁
          ∧ (s.engineAt (m side) n).rollback.run l₁ = .ok () l' :=
  Engine.fire_outcome (beside side n) (choice side n)
    (effect_settled beside choice effect side n) event mingled.world mingled.legible

/-- A fire that fails leaves its column as it was if and only if that is level, and the column of the
other machine in any case. -/
theorem fail_ends {side : Bool} {n : Nat} {event : String} {l l' : Live}
    (mingled : l.Mingles W m id column)
    (h : ((s.engineAt (m side) n).fire (.str event)).run l = .ok false l') :
    l'.Mingles W m id column ∧ l'.value? id (column (!side)) = l.value? id (column (!side))
      ∧ (l'.value? id (column side) = l.value? id (column side) ↔ l.IsLevel id (column side)) := by
  rcases (fire_ends beside choice effect side n event mingled).of_ok h with
    ⟨hne, _⟩ | ⟨_, l₁, spared, hback⟩
  · exact absurd rfl hne
  have mingled₁ := mingled.spared spared
  obtain ⟨_, same⟩ := spared mingled.world
  have own : l₁.value? id (column side) = l.value? id (column side) := same _ (by simp)
  have other : l₁.value? id (column (!side)) = l.value? id (column (!side)) := same _ (by simp)
  have level : l₁.IsLevel id (column side) ↔ l.IsLevel id (column side) := by
    rw [Live.IsLevel, Live.IsLevel, own, same committedAttribute (by simp)]
  obtain ⟨w', kept, put, hiff⟩ := Engine.rollback_column_iff (beside side n) mingled₁.world
    (mingled₁.held side) mingled₁.legible hback
  have apart := (beside side n).apart
  simp only [List.mem_cons, List.not_mem_nil, or_false, not_or] at apart
  have uncommitted : committedAttribute ≠ column side := by
    have apart' := (beside (!side) n).apart
    simp only [Bool.not_not, List.mem_cons, List.not_mem_nil, or_false, not_or] at apart'
    exact Ne.symm apart'.2
  refine ⟨⟨w', forall_sides side ?_ ?_, ?_⟩, ?_, ?_⟩
  · rcases put with hv | hv
    · exact (mingled₁.held side).congr hv
    · rcases mingled₁.committed with hnone | ⟨st, hst, hsome⟩
      · exact .inl (hv.trans hnone)
      · exact .inr (.inr ⟨st, hst, hv.trans hsome⟩)
  · exact (mingled₁.held (!side)).congr (kept _ apart.1)
  · rw [kept _ uncommitted]
    exact mingled₁.committed
  · exact (kept _ apart.1).trans other
  · rw [← level, ← hiff, own]

theorem Interleaved.mingles {may : Bool → Live → Prop} {last : Bool → Option Value} {l : Live}
    (run : s.Interleaved m W id column may last l) : l.Mingles W m id column := by
  induction run with
  | fresh w uncommitted held =>
    exact ⟨w, fun side => (held side).mono fun _ hs => Live.mem_eitherStates hs, .inl uncommitted⟩
  | start side n before notes mingled =>
    obtain ⟨r, out, _⟩ := (start_ends beside choice effect side n mingled.world).final
    exact (out.mingles mingled).1
  | fire side n event before hne notes mingled =>
    obtain ⟨r, out, hr⟩ := (fire_ends beside choice effect side n event mingled).final
    rcases out with ⟨_, out⟩ | ⟨hfalse, _⟩
    · exact (out.mingles mingled).1
    · exact absurd (hr _ hfalse) (hne _)
  | fail side n event before allowed h mingled =>
    exact (fail_ends beside choice effect mingled h).1
  | aside side before spared mingled => exact mingled.spared spared

/-- As long as fires fail only where their column is level, each column holds what its own machine
has left there. -/
theorem Interleaved.columns {may : Bool → Live → Prop}
    (orderly : ∀ side l, may side l → l.IsLevel id (column side)) {last : Bool → Option Value}
    {l : Live} (run : s.Interleaved m W id column may last l) :
    ∀ side, l.Holds id (column side) (m side).states ∧ l.value? id (column side) = last side := by
  induction run with
  | fresh w uncommitted held => exact fun side => ⟨held side, rfl⟩
  | start side n before notes ih =>
    have mingled := before.mingles beside choice effect
    obtain ⟨r, out, _⟩ := (start_ends beside choice effect side n mingled.world).final
    exact out.columns mingled notes ih
  | fire side n event before hne notes ih =>
    have mingled := before.mingles beside choice effect
    obtain ⟨r, out, hr⟩ := (fire_ends beside choice effect side n event mingled).final
    rcases out with ⟨_, out⟩ | ⟨hfalse, _⟩
    · exact out.columns mingled notes ih
    · exact absurd (hr _ hfalse) (hne _)
  | fail side n event before allowed h ih =>
    have mingled := before.mingles beside choice effect
    obtain ⟨_, others, hiff⟩ := fail_ends beside choice effect mingled h
    have own := hiff.mpr (orderly side _ allowed)
    refine forall_sides side ⟨?_, own.trans (ih side).2⟩ ⟨?_, others.trans (ih (!side)).2⟩
    · exact (ih side).1.congr own
    · exact (ih (!side)).1.congr others
  | aside side before spared ih =>
    obtain ⟨_, same⟩ := spared (before.mingles beside choice effect).world
    have own := same (column side) (by simp)
    have others := same (column (!side)) (by simp)
    refine forall_sides side ⟨?_, own.trans (ih side).2⟩ ⟨?_, others.trans (ih (!side)).2⟩
    · exact (ih side).1.congr own
    · exact (ih (!side)).1.congr others

/-- An interleaving can go on with any start. -/
theorem Interleaved.started {may : Bool → Live → Prop} {last : Bool → Option Value} {l : Live}
    (run : s.Interleaved m W id column may last l) (side : Bool) (n : Nat) :
    ∃ last', s.Interleaved m W id column may last' ((s.engineAt (m side) n).start.final l) := by
  have w := (run.mingles beside choice effect).world
  obtain ⟨r, out, _⟩ := (start_ends beside choice effect side n w).final
  obtain ⟨last', notes⟩ := out.noted w last
  exact ⟨last', .start side n run notes⟩

/-- It can go on with any fire, if that may fail where it does. -/
theorem Interleaved.fired {may : Bool → Live → Prop} {last : Bool → Option Value} {l : Live}
    (run : s.Interleaved m W id column may last l) (side : Bool) (n : Nat) (event : String)
    (allowed : may side l) : ∃ last', s.Interleaved m W id column may last'
      (((s.engineAt (m side) n).fire (.str event)).final l) := by
  by_cases hfail : ∃ l', ((s.engineAt (m side) n).fire (.str event)).run l = .ok false l'
  · obtain ⟨l', h⟩ := hfail
    rw [Run.final_of_ok h]
    exact ⟨last, .fail side n event run allowed h⟩
  · have mingled := run.mingles beside choice effect
    have moved := not_exists.mp hfail
    obtain ⟨r, out, hr⟩ := (fire_ends beside choice effect side n event mingled).final
    rcases out with ⟨_, out⟩ | ⟨hfalse, _⟩
    · obtain ⟨last', notes⟩ := out.noted mingled.world last
      exact ⟨last', .fire side n event run moved notes⟩
    · exact absurd (hr _ hfalse) (moved _)

end Pair

/-- Whatever two machines with columns of their own have done on one record, an operation of one does
not touch the column of the other, and what the columns hold is a state of either. A fire that fails
leaves its column as it was if and only if this is level with what was committed last. If fires fail
only there, each column holds null or a state of its own machine, the one that was committed last
through this machine. -/
theorem columns_apart
    (beside : ∀ side n, Live.Beside W (s.engineAt (m side) n) id (column side) (column (!side)))
    (choice : ∀ side n, (s.engineAt (m side) n).ChoiceKeeps (G side)
      (Live.Spares W id (Live.sharedNames column side)))
    (effect : ∀ side n, (s.engineAt (m side) n).EffectKeeps
      (s.Conduct (m side) W id (Live.sharedNames column side) n))
    {may : Bool → Live → Prop} {last : Bool → Option Value} {l : Live}
    (run : s.Interleaved m W id column may last l) :
    (∀ side n, let e := s.engineAt (m side) n
      (e.start.final l).value? id (column (!side)) = l.value? id (column (!side))
        ∧ (∀ event, ((e.fire (.str event)).final l).value? id (column (!side))
          = l.value? id (column (!side)))
        ∧ ∀ event l', (e.fire (.str event)).run l = .ok false l' →
          (l'.value? id (column side) = l.value? id (column side) ↔ l.IsLevel id (column side)))
      ∧ (∀ side, l.Holds id (column side) (Live.eitherStates m))
      ∧ ((∀ side l, may side l → l.IsLevel id (column side)) →
        ∀ side, l.Holds id (column side) (m side).states
          ∧ l.value? id (column side) = last side) := by
  have mingled := run.mingles beside choice effect
  refine ⟨fun side n => ⟨?_, fun event => ?_, fun event l' h => ?_⟩, mingled.held,
    fun orderly => run.columns beside choice effect orderly⟩
  · obtain ⟨r, out, _⟩ := (start_ends beside choice effect side n mingled.world).final
    exact (out.mingles mingled).2
  · obtain ⟨r, out, hr⟩ := (fire_ends beside choice effect side n event mingled).final
    rcases out with ⟨_, out⟩ | ⟨hfalse, _⟩
    · exact (out.mingles mingled).2
    · exact (fail_ends beside choice effect mingled (hr _ hfalse)).2.1
  · exact (fail_ends beside choice effect mingled h).2.2

end Setting

/-! ## A state that crosses over -/

/-- Two machines with columns of their own. The left one has an event that leads nowhere, the right
one fires an event as soon as the record has come to its second state. -/
def Machine.apart (side : Bool) : Machine :=
  if side then {
    config := { column := .str "right", initial := "q" }
    states := [{ name := "q" },
      { name := "r", after := [.script (.step (.eval (.fire "right" "wait")) .done)] }]
    events := [{ name := "go", transitions := [{ source := "q", target := "r" }] },
      { name := "wait" }]
    registry := .standard }
  else {
    config := { column := .str "left", initial := "p" }
    states := [{ name := "p" }]
    events := [{ name := "stay" }]
    registry := .standard }

def Machine.apartColumn (side : Bool) : String := if side then "right" else "left"

def Scene.apart (side : Bool) : Scene :=
  .plain {
      machine? := fun id =>
        if id = 0 then .some (.apart false) else if id = 1 then .some (.apart true) else .none
      named? := fun name =>
        if name = "left" then .some 0 else if name = "right" then .some 1 else .none }
    (.apart side) (if side then 1 else 0) (Live.sharedNames Machine.apartColumn side)

theorem Scene.apart_isFit (side : Bool) : (Scene.apart side).IsFit := by
  cases side with
  | false => exact Scene.plain_isFit rfl fun h => absurd (Value.str.inj h) (by decide)
  | true => exact Scene.plain_isFit rfl fun h => absurd (Value.str.inj h) (by decide)

theorem Scene.apart_isTame (side : Bool) : (Machine.apart side).IsTame (Scene.apart side) := by
  cases side with
  | false => exact ⟨by decide, by decide, by decide, by decide, rfl⟩
  | true => exact ⟨by decide, by decide, by decide, by decide, rfl⟩

theorem Scene.apart_beside (side : Bool) (n : Nat) : Live.Beside (Scene.apart side).World
    ((Scene.apart side).setting.engineAt (.apart side) n) 0 (Machine.apartColumn side)
    (Machine.apartColumn (!side)) where
  toRoom := Scene.plain_room (Scene.apart_isFit side) (by cases side <;> rfl)
    (by cases side <;> decide) (by cases side <;> rfl) n
  apart := by cases side <;> decide
  unstampedOther := by
    have unstamped : ∀ s ∈ (Machine.apart side).states,
        Machine.apartColumn (!side) ∉ s.stampFields := by cases side <;> decide
    exact unstamped

/-- The record after both machines have started on it. -/
def Live.crossed : Live :=
  ((Scene.apart true).setting.engineAt (.apart true) 3).start.final
    (((Scene.apart false).setting.engineAt (.apart false) 3).start.final Live.blank)

/-- Each column holds a state of its own machine then, but an event of the left machine that fails
puts a state of the right one there. -/
theorem columns_apart_crossed :
    (∀ side, Live.crossed.Holds 0 (Machine.apartColumn side) (Machine.apart side).states)
      ∧ ∀ l', (((Scene.apart false).setting.engineAt (.apart false) 3).fire (.str "stay")).run
          Live.crossed = .ok false l' →
        l'.value? 0 "left" ≠ Live.crossed.value? 0 "left" := by
  have held (side : Bool) :
      Live.blank.Holds 0 (Machine.apartColumn side) (Machine.apart side).states :=
    .inl (by cases side <;> rfl)
  have choice (side : Bool) (n : Nat) := Scene.choice (Scene.apart_isFit side) (.head _)
    (by cases side <;> rfl) (by cases side <;> decide) (by cases side <;> decide) n
    (Live.sharedNames Machine.apartColumn side)
  have effect (side : Bool) (n : Nat) := (Scene.users (Scene.apart_isFit side) (.head _)
    (Scene.apart_isTame side) n).toEffectKeeps
  have fresh : (Scene.apart false).setting.Interleaved Machine.apart (Scene.apart false).World 0
      Machine.apartColumn (fun side l => l.IsLevel 0 (Machine.apartColumn side)) _ Live.blank :=
    .fresh Scene.blank_plain (by rfl) held
  obtain ⟨_, left⟩ := fresh.started Scene.apart_beside choice effect false 3
  obtain ⟨_, run⟩ := left.started Scene.apart_beside choice effect true 3
  have apart := Setting.columns_apart Scene.apart_beside choice effect run
  refine ⟨fun side => (apart.2.2 (fun _ _ h => h) side).1, fun l' h same => ?_⟩
  rcases ((apart.1 false 3).2.2 "stay" l' h).mp same with level | level
  · cases level
  · have shown : Option.some (Value.str "q") = .some (.str "p") := level
    exact absurd shown (by simp)

end Lifecycle
