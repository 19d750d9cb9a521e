/-
Rooms: worlds in which a machine can write the state of the record.

In a room a commit always ends well, and puts the record into a state
(`Live.IsAt`): the column shows it, and it is the one that was committed
(`Engine.commit_isAt`). There the state can be read off (`currentState_run_of_isAt`)
and there is nothing to put back (`rollback_spares_of_isAt`).

A plot is a room but for reading. Where nobody else writes the state of the record,
it has nothing for it but texts (`Live.Textual`), and these are read without any
effect, whatever classes there are (`Live.Plot.room`).
-/
import Lifecycle.Proofs.World

namespace Lifecycle

namespace Live

/-- A ground on which the machine can write the state of the record, and puts no stamp there. -/
structure Plot (W : Live → Prop) (m : Machine) (id : RecordId) (column : String) : Prop
    extends Ground W m id where
  held : m.config.column = .str column
  unstamped : ∀ s ∈ m.states, column ∉ s.stampFields
  openColumn : ∀ {l}, W l → l.IsOpen id column
  openCommitted : ∀ {l}, W l → l.IsOpen id committedAttribute

/-- A world in which the machine can write the state of the record, and puts no stamp there. -/
structure Room (W : Live → Prop) (e : Engine) (id : RecordId) (column : String) : Prop
    extends Plot W e.machine id column, World W e id

/-- The record is in a state and was committed in it. -/
structure IsAt (W : Live → Prop) (id : RecordId) (column : String) (c : String) (l : Live) :
    Prop where
  world : W l
  shown : l.value? id column = .some (.str c)
  committed : l.value? id committedAttribute = .some (.str c)

/-- The attributes that hold the state of a record. -/
abbrev stateNames (column : String) : List String := [column, committedAttribute]

theorem IsAt.spared {W : Live → Prop} {id : RecordId} {column : String} {l l' : Live} {c : String}
    (h : l.IsAt W id column c) (hs : Spares W id (stateNames column) l l') :
    l'.IsAt W id column c := by
  obtain ⟨w, same⟩ := hs h.world
  exact ⟨w, (same _ (by simp)).trans h.shown, (same _ (by simp)).trans h.committed⟩

end Live

namespace Engine

variable {e : Engine} {W : Live → Prop} {id : RecordId} {column : String}

section Plot

variable (plot : Live.Plot W e.machine id column)
include plot

theorem currentState_run_of_isAt {l : Live} {c : String} (h : l.IsAt W id column c) :
    e.currentState.run l = .ok (.str c) l := by
  have ordinary : l.IsOrdinary id column := (plot.openColumn h.world).isOrdinary
  exact currentState_run (plot.plain h.world) ordinary plot.held h.shown

theorem nextTransitions_run_of_isAt {l : Live} {c : String} (h : l.IsAt W id column c)
    (ev : Event) : (e.nextTransitions ev).run l = .ok (ev.leaving (.str c)) l := by
  rw [nextTransitions, Run.run_bind_ok (currentState_run_of_isAt plot h)]
  rfl

/-- A commit puts the record into a state, and touches nothing else. -/
theorem commit_isAt {l : Live} (w : W l) (c : String) :
    ∃ l', (e.commit (.str c)).run l = .ok () l' ∧ l'.IsAt W id column c
      ∧ ∀ name ∉ Live.stateNames column, l'.value? id name = l.value? id name := by
  obtain ⟨log, watched⟩ := watch_run e (.commit (.str c)) l
  have w₀ : W { l with log } := plot.noted log w
  have w₁ := plot.written w₀ (.column plot.held c) (plot.openColumn w₀)
  have first := Host.setAttr_run_open (h := e.host) (plot.plain w₀) (plot.openColumn w₀) (.str c)
  have second := Host.setAttr_run_open (h := e.host) (plot.plain w₁) (plot.openCommitted w₁) (.str c)
  refine ⟨_, ?_, ⟨plot.written w₁ (.committed c) (plot.openCommitted w₁), ?_, ?_⟩, ?_⟩
  · rw [commit, Run.run_bind_ok watched, plot.held, Run.run_bind_ok first]
    exact second
  · by_cases hname : column = committedAttribute
    · rw [hname, Live.value?_assign_self]
    · rw [Live.value?_assign_other hname, Live.value?_assign_self]
  · rw [Live.value?_assign_self]
  · intro name hname
    simp only [List.mem_cons, List.not_mem_nil, or_false, not_or] at hname
    rw [Live.value?_assign_other hname.2, Live.value?_assign_other hname.1]
    rfl

/-- A record without a state is committed in the initial one; what is left of a start are the
actions of that state. -/
theorem start_final_of_fresh {l : Live} (w : W l) (fresh : e.currentState.run l = .ok .null l)
    {s : State} (hs : e.machine.stateAt (.str e.machine.config.initial) = .ok s) :
    ∃ m, m.IsAt W id column s.name ∧ e.start.final l
      = (do e.entering .null s; e.entered .null s; return true : Run Bool).final m := by
  obtain ⟨m, hcommit, at_, -⟩ := commit_isAt plot w s.name
  have read : e.declaredState.run l = .ok .null l := by
    rw [declaredState, Run.run_bind_ok fresh]
    rfl
  refine ⟨m, at_, ?_⟩
  rw [start, Run.final_bind_ok read]
  simp only [hs]
  rw [Run.final_bind_ok (Run.run_lift_ok s l), Run.final_bind_ok hcommit]

end Plot

/-- Where the column shows the committed state there is nothing to put back. -/
theorem rollback_spares_of_isAt (room : Live.Room W e id column) {l : Live} {c : String}
    (h : l.IsAt W id column c)
    (names : List String) : Live.Spares W id names l (e.rollback.final l) := by
  intro _
  obtain ⟨l₀, w₀, same, hrun⟩ := rollback_run_some room.toWorld h.world h.committed
  have at₀ : l₀.IsAt W id column c :=
    ⟨w₀, (same _).trans h.shown, (same _).trans h.committed⟩
  rcases hrun with ⟨-, hrun⟩ | ⟨_, v, -, -, shown, hne, -⟩ | ⟨stop, hrun⟩
  · rw [Run.final_of_ok hrun]
    exact ⟨w₀, fun name _ => same name⟩
  · cases (currentState_run_of_isAt room.toPlot at₀).symm.trans shown
    exact absurd rfl hne
  · rw [Run.final_of_error hrun]
    exact ⟨w₀, fun name _ => same name⟩

end Engine

/-! ## Nothing but texts -/

/-- What a column can show is read off without asking anyone. -/
theorem Host.asState_idle_of_isState {h : Host} {l : Live} {v : Value} (state : v.isState = true) :
    (h.asState v).Idle l := by
  cases v with
  | null => rfl
  | str s => rw [asState_str]; rfl
  | textOf w =>
    have written : (h.spelled (.textOf w)).run l = .ok (.textOf w) l := by
      have stands : (Run.settle (.textOf w)).run l = .ok (.textOf w) l :=
        congrArg (EStateM.Result.ok · l) (l.settle_textOf w)
      rw [spelled, Run.run_bind_ok stands, spell]
      · rfl
      all_goals simp
    exact Run.final_of_ok (Run.run_bind_ok written _)
  | _ => cases state

namespace Live

/-- What the record has for its state, if anything, is what a column can show. -/
def Textual (W : Live → Prop) (id : RecordId) (column : String) (l : Live) : Prop :=
  W l ∧ ∀ name ∈ stateNames column, ∀ v, l.value? id name = .some v → v.isState = true

variable {W : Live → Prop} {m : Machine} {id : RecordId} {column : String} {l l' : Live}

theorem Textual.assign (h : l.Textual W id column) {name : String} {v : Value}
    (w : W (l.assign id name v)) (fits : name ∈ stateNames column → v.isState = true) :
    (l.assign id name v).Textual W id column := by
  refine ⟨w, fun other among u found => ?_⟩
  by_cases same : other = name
  · rw [same, value?_assign_self] at found
    cases found
    exact fits (same ▸ among)
  · rw [value?_assign_other same] at found
    exact h.2 other among u found

/-- Who spares the state of the record leaves it textual. -/
theorem Spares.textual (h : Spares W id (stateNames column) l l') :
    Spares (Textual W id column) id (stateNames column) l l' := by
  rintro ⟨w, texts⟩
  obtain ⟨w', same⟩ := h w
  exact ⟨⟨w', fun name among v found => texts name among v ((same name among).symm.trans found)⟩,
    same⟩

theorem IsAt.textual {c : String} (h : l.IsAt W id column c) :
    l.IsAt (Textual W id column) id column c := by
  refine ⟨⟨h.world, fun name among v found => ?_⟩, h.shown, h.committed⟩
  rcases List.mem_cons.mp among with rfl | among
  · cases h.shown.symm.trans found
    rfl
  · rw [List.mem_singleton.mp among] at found
    cases h.committed.symm.trans found
    rfl

theorem IsAt.of_textual {c : String} (h : l.IsAt (Textual W id column) id column c) :
    l.IsAt W id column c :=
  ⟨h.world.1, h.shown, h.committed⟩

namespace Plot

theorem textual (plot : Plot W m id column) : Plot (Textual W id column) m id column where
  plain w := plot.plain w.1
  noted log w := ⟨plot.noted log w.1, w.2⟩
  ticked reads w := ⟨plot.ticked reads w.1, w.2⟩
  written w puts ho := w.assign (plot.written w.1 puts ho) fun among => by
    cases puts with
    | committed | column => rfl
    | stamp hs hf =>
      rcases List.mem_cons.mp among with rfl | among
      · exact absurd hf (plot.unstamped _ hs)
      · exact absurd (List.mem_singleton.mp among) (State.stampField_ne_committed hf)
  restored w was w' held ho :=
    w'.assign (plot.restored w.1 was w'.1 held ho) fun _ => w.2 _ (by simp) _ was
  held := plot.held
  unstamped := plot.unstamped
  openColumn w := plot.openColumn w.1
  openCommitted w := plot.openCommitted w.1

/-- With nothing but texts for the state of the record, a plot is a room for every engine of the
machine. -/
theorem room {e : Engine} (plot : Plot W e.machine id column) :
    Room (Textual W id column) e id column where
  toPlot := plot.textual
  reads {l} w := by
    have ordinary : l.IsOrdinary id column := (plot.openColumn w.1).isOrdinary
    have read := Host.attr_run_ordinary (h := e.host) (plot.plain w.1) ordinary
    rw [Engine.currentState, plot.held, Run.Idle, Run.final_bind_ok read]
    refine Host.asState_idle_of_isState ?_
    cases found : l.value? id column with
    | none => rfl
    | some v => exact w.2 column (by simp) v found

end Plot

end Live

end Lifecycle
