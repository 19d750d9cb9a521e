/-
Two machines on one record, each with a column of its own.

An operation of one machine ends in one of three ways (`Engine.Outcome`,
`Engine.fire_outcome`): all is as it was before, or the record is settled in a
state of that machine, or a fire that did not move the record has rolled it back.
None of them touches the other column. But the two machines share the committed
attribute, and a rollback goes by that alone: it leaves the column as it was if
and only if the column is level with what was committed last, by whichever
machine (`Engine.rollback_column_iff`).
-/
import Lifecycle.Proofs.Room

namespace Lifecycle

open Run (Keeps)

namespace Live

/-- Under a name the record holds nothing, null, or one of some states. -/
def Holds (l : Live) (id : RecordId) (name : String) (states : List State) : Prop :=
  l.value? id name = .none ∨ l.value? id name = .some .null
    ∨ ∃ s ∈ states, l.value? id name = .some (.str s.name)

/-- Nothing was committed on the record, or what the column shows. -/
def IsLevel (l : Live) (id : RecordId) (column : String) : Prop :=
  l.value? id committedAttribute = .none
    ∨ l.value? id committedAttribute = l.value? id column

/-- What was committed on the record, if anything was, is a text. -/
def IsLegible (l : Live) (id : RecordId) : Prop :=
  l.value? id committedAttribute = .none
    ∨ ∃ c : String, l.value? id committedAttribute = .some (.str c)

theorem IsLegible.congr {l l' : Live} {id : RecordId} (h : l.IsLegible id)
    (hv : l'.value? id committedAttribute = l.value? id committedAttribute) :
    l'.IsLegible id := by
  unfold IsLegible
  rw [hv]
  exact h

/-- A room for a machine, and an attribute beside its column that it does not write. -/
structure Beside (W : Live → Prop) (e : Engine) (id : RecordId) (column other : String) : Prop
    extends Room W e id column where
  apart : other ∉ stateNames column
  unstampedOther : ∀ s ∈ e.machine.states, other ∉ s.stampFields

/-- The record is in a state that the machine declares, and was committed in it. -/
def IsSettled (W : Live → Prop) (m : Machine) (id : RecordId) (column : String) (l : Live) : Prop :=
  ∃ s ∈ m.states, l.IsAt W id column s.name

/-- A record that is settled before is so after, and has the same under another name. -/
def StaysSettled (W : Live → Prop) (m : Machine) (id : RecordId) (column other : String)
    (l l' : Live) : Prop :=
  l.IsSettled W m id column → l'.IsSettled W m id column ∧ l'.value? id other = l.value? id other

variable {W : Live → Prop} {m : Machine} {id : RecordId} {column other : String} {l l' : Live}

instance : IsPreorder Live (StaysSettled W m id column other) where
  refl _ h := ⟨h, rfl⟩
  trans _ _ _ h₁ h₂ h := by
    obtain ⟨settled₁, same₁⟩ := h₁ h
    obtain ⟨settled₂, same₂⟩ := h₂ settled₁
    exact ⟨settled₂, same₂.trans same₁⟩

theorem Holds.congr {name : String} {states : List State} (h : l.Holds id name states)
    (hv : l'.value? id name = l.value? id name) : l'.Holds id name states := by
  unfold Holds
  rw [hv]
  exact h

theorem Holds.mono {name : String} {states more : List State} (h : l.Holds id name states)
    (hsub : ∀ s ∈ states, s ∈ more) : l.Holds id name more := by
  rcases h with hnone | hnull | ⟨s, hs, hv⟩
  · exact .inl hnone
  · exact .inr (.inl hnull)
  · exact .inr (.inr ⟨s, hsub s hs, hv⟩)

theorem IsSettled.world (h : l.IsSettled W m id column) : W l := by
  obtain ⟨s, _, at_⟩ := h
  exact at_.world

theorem IsSettled.holds (h : l.IsSettled W m id column) : l.Holds id column m.states := by
  obtain ⟨s, hs, at_⟩ := h
  exact .inr (.inr ⟨s, hs, at_.shown⟩)

theorem Spares.staysSettled (h : Spares W id (other :: stateNames column) l l') :
    StaysSettled W m id column other l l' := by
  rintro ⟨s, hs, at_⟩
  have spared := at_.spared (h.mono fun _ hn => .tail _ hn)
  exact ⟨⟨s, hs, spared⟩, (h at_.world).2 _ (.head _)⟩

end Live

namespace Engine

variable {e : Engine} {W : Live → Prop} {id : RecordId} {column other : String}
  (beside : Live.Beside W e id column other)
include beside

/-! ## The engine's own steps -/

theorem quietKeeps_spares_beside :
    e.QuietKeeps (Live.Spares W id (other :: Live.stateNames column)) :=
  quietKeeps_spares beside.toWorld fun s hs field hf hmem => by
    rcases List.mem_cons.mp hmem with rfl | hmem
    · exact beside.unstampedOther s hs hf
    rcases List.mem_cons.mp hmem with rfl | hmem
    · exact beside.unstamped s hs hf
    · exact State.stampField_ne_committed hf (List.mem_singleton.mp hmem)

theorem commit_settles {l : Live} (w : W l) {s : State} (hs : s ∈ e.machine.states) :
    ∃ l', (e.commit (.str s.name)).run l = .ok () l' ∧ l'.IsSettled W e.machine id column
      ∧ l'.value? id other = l.value? id other := by
  obtain ⟨l', hrun, at_, same⟩ := commit_isAt beside.toPlot w s.name
  exact ⟨l', hrun, ⟨s, hs, at_⟩, same other beside.apart⟩

theorem ownKeeps_staysSettled :
    e.OwnKeeps (Live.StaysSettled W e.machine id column other) := by
  have quiet := quietKeeps_spares_beside beside
  exact {
    notes entry l := (quiet.notes entry l).staysSettled
    reads l := (quiet.reads l).staysSettled
    stamps s hs l := (quiet.stamps s hs l).staysSettled
    commits s hs l settled := by
      obtain ⟨l', hrun, done⟩ := commit_settles beside settled.world hs
      rw [Run.final_of_ok hrun]
      exact done
    rollbacks l settled := by
      obtain ⟨s, hs, at_⟩ := settled
      exact (rollback_spares_of_isAt beside.toRoom at_ _).staysSettled ⟨s, hs, at_⟩ }

/-- Where the state of a record can be read as a text, that text is in the column. -/
theorem value?_of_currentState {l : Live} (w : W l) {states : List State}
    (held : l.Holds id column states) {c : String} (h : e.currentState.run l = .ok (.str c) l) :
    l.value? id column = .some (.str c) := by
  have ordinary : l.IsOrdinary id column := (beside.openColumn w).isOrdinary
  have read := Host.attr_run_ordinary (h := e.host) (beside.plain w) ordinary
  rcases held with hnone | hnull | ⟨s, -, hv⟩
  · rw [hnone] at read
    rw [currentState, beside.held, Run.run_bind_ok read] at h
    cases h
  · rw [hnull] at read
    rw [currentState, beside.held, Run.run_bind_ok read] at h
    cases h
  · have shown := currentState_run (beside.plain w) ordinary beside.held hv
    cases shown.symm.trans h
    exact hv

/-- A rollback that stops has changed nothing. -/
theorem rollback_spares_of_error {l l' : Live} {names : List String} (legible : l.IsLegible id)
    {stop : Stop} (h : e.rollback.run l = .error stop l') : Live.Spares W id names l l' := by
  intro w
  rcases legible with hnone | ⟨c, hsome⟩
  · obtain ⟨log, hrun⟩ := rollback_run_none beside.toGround w hnone
    cases hrun.symm.trans h
  · obtain ⟨l₀, w₀, same, hrun⟩ := rollback_run_some beside.toWorld w hsome
    rcases hrun with ⟨-, hrun⟩ | ⟨_, _, -, -, -, -, hrun⟩ | ⟨_, hrun⟩
    · cases hrun.symm.trans h
    · cases hrun.symm.trans h
    · cases hrun.symm.trans h
      exact ⟨w₀, fun name _ => same name⟩

/-- What a rollback leaves in the column, and that it leaves all else. -/
theorem rollback_column_iff {l l' : Live} (w : W l) {states : List State}
    (held : l.Holds id column states) (sound : l.IsLegible id)
    (h : e.rollback.run l = .ok () l') :
    W l' ∧ (∀ name, name ≠ column → l'.value? id name = l.value? id name)
      ∧ (l'.value? id column = l.value? id column
        ∨ l'.value? id column = l.value? id committedAttribute)
      ∧ (l'.value? id column = l.value? id column ↔ l.IsLevel id column) := by
  rcases sound with hnone | ⟨c, hsome⟩
  · obtain ⟨log, hrun⟩ := rollback_run_none beside.toGround w hnone
    cases hrun.symm.trans h
    have same : ∀ name, ({ l with log } : Live).value? id name = l.value? id name := fun _ => rfl
    exact ⟨beside.noted log w, fun _ _ => rfl, .inl (same _), fun _ => .inl hnone, fun _ => rfl⟩
  · obtain ⟨l₀, w₀, same, hrun⟩ := rollback_run_some beside.toWorld w hsome
    rcases hrun with ⟨shown, hrun⟩ | ⟨name, v, hc, ho, -, -, hrun⟩ | ⟨stop, hrun⟩
    · cases hrun.symm.trans h
      have hv := value?_of_currentState beside w₀ (held.congr (same _)) shown
      have level : l.IsLevel id column := .inr (by rw [hsome, ← same column, hv])
      exact ⟨w₀, fun name _ => same name, .inl (same _), fun _ => level, fun _ => same _⟩
    · cases hrun.symm.trans h
      have hname : name = column := Value.str.inj (hc.symm.trans beside.held)
      subst hname
      have put : (l₀.assign id name (.str c)).value? id name
          = l.value? id committedAttribute := by rw [Live.value?_assign_self, hsome]
      refine ⟨beside.written w₀ (.column hc c) ho, fun other hne => ?_, .inr put, ?_⟩
      · rw [Live.value?_assign_other hne, same]
      · rw [put, Live.IsLevel, hsome]
        simp
    · cases hrun.symm.trans h

omit beside in
/-- How an operation ends that was begun at `l` and does not roll back: all is as it was before and
the operation has moved nothing, or it has put the record into a state. -/
inductive Outcome (W : Live → Prop) (m : Machine) (id : RecordId) (column other : String)
    (l : Live) : Except Stop Bool → Live → Prop where
  | stays {r : Except Stop Bool} {l' : Live}
    (h : Live.Spares W id (other :: Live.stateNames column) l l') (hr : r ≠ .ok true) :
    Outcome W m id column other l r l'
  | settles {r : Except Stop Bool} {l' : Live} (h : l'.IsSettled W m id column)
    (same : l'.value? id other = l.value? id other) (hr : r ≠ .ok false) :
    Outcome W m id column other l r l'

/-! ## Operations -/

section Operations

variable {G : Callback → Prop}
  (choice : e.ChoiceKeeps G (Live.Spares W id (other :: Live.stateNames column)))
  (effect : e.EffectKeeps (Live.StaysSettled W e.machine id column other))
include choice effect

theorem performFirst_outcome {ev : Event} (hev : ev ∈ e.machine.events) (event : Value) :
    ∀ (ts : List Transition) (l : Live), (∀ t ∈ ts, t ∈ ev.transitions) → W l →
      (e.performFirst event ts).Ends l (Outcome W e.machine id column other l)
  | [], l, _, _ => .stays (refl_of _ l) (by simp)
  | t :: ts, l, hts, w => by
    have quiet := quietKeeps_spares_beside beside
    have prepared : Live.Spares W id _ l ((e.prepare event t).final l) :=
      prepare_keeps quiet choice event (fun g hg =>
        choice.covers ev hev g (Event.guard_mem (hts t (.head _)) hg)) l
    rw [performFirst, perform_eq, bind_assoc]
    cases hprep : (e.prepare event t).run l with
    | error stop m =>
      rw [Run.final_of_error hprep] at prepared
      exact Run.Ends.bind_error hprep (.stays prepared (by simp))
    | ok d m =>
      rw [Run.final_of_ok hprep] at prepared
      obtain ⟨wm, same⟩ := prepared w
      refine Run.Ends.bind_ok hprep ?_
      cases d with
      | none =>
        have rest := performFirst_outcome hev event ts m (fun u hu => hts u (.tail _ hu)) wm
        refine Run.Ends.mono rest fun r l' out => ?_
        cases out with
        | stays h hr => exact .stays (trans_of _ prepared h) hr
        | settles h hsame hr => exact .settles h (hsame.trans (same _ (.head _))) hr
      | some d =>
        obtain ⟨hnext, htarget, hold, -⟩ := prepare_eq_some hprep
        obtain ⟨m', hcommit, settled, hsame⟩ := commit_settles beside wm hnext
        have finished := (finish_keeps effect event t hnext hold).ends_bind_pure true m'
        simp only [bind_assoc, pure_bind, if_true]
        rw [htarget]
        refine Run.Ends.bind_ok hcommit (Run.Ends.mono finished fun r l' ended => ?_)
        obtain ⟨kept, only⟩ := ended
        obtain ⟨settled', hsame'⟩ := kept settled
        refine .settles settled' ?_ fun hr => absurd (only _ hr) (by decide)
        exact (hsame'.trans hsame).trans (same _ (.head _))

theorem fireEvent_outcome {ev : Event} (hev : ev ∈ e.machine.events) {l : Live} (w : W l) :
    (e.fireEvent ev).Ends l (Outcome W e.machine id column other l) := by
  have read : (e.nextTransitions ev).Idle l :=
    (beside.reads w).bind fun _ => rfl
  refine Run.Ends.bind_idle read (fun _ => .stays (refl_of _ l) (by simp)) fun ts hts => ?_
  obtain ⟨current, _, -, h⟩ := Run.run_bind_eq_ok.mp hts
  cases h
  exact performFirst_outcome beside choice effect hev _ _ l
    (fun t ht => (Event.mem_of_leaving ht).1) w

/-- A fire that answers false has done no more than to roll the record back. -/
theorem fire_outcome (name : String) {l : Live} (w : W l) (sound : l.IsLegible id) :
    (e.fire (.str name)).Ends l fun r l' =>
      r ≠ .ok false ∧ Outcome W e.machine id column other l r l'
        ∨ r = .ok false ∧ ∃ m, Live.Spares W id (other :: Live.stateNames column) l m
            ∧ e.rollback.run m = .ok () l' := by
  rw [fire_eq]
  cases hev : e.machine.eventNamed (.str name) with
  | error fault => exact .inl ⟨by simp, .stays (refl_of _ l) (by simp)⟩
  | ok ev =>
    have fired := fireEvent_outcome beside choice effect (Definition.eventNamed_eq_ok hev) w
    refine Run.Ends.bind_ok (Run.run_lift_ok ev l) ?_
    refine Run.Ends.bind_idle (beside.reads w)
      (fun _ => .inl ⟨by simp, .stays (refl_of _ l) (by simp)⟩) ?_
    intro old _
    cases hfired : (e.fireEvent ev).run l with
    | error stop l' =>
      rw [Run.Ends, hfired] at fired
      exact Run.Ends.bind_error hfired (.inl ⟨by simp, fired⟩)
    | ok moved m =>
      rw [Run.Ends, hfired] at fired
      refine Run.Ends.bind_ok hfired ?_
      cases fired with
      | settles settled same hr =>
        cases moved with
        | false => exact absurd rfl hr
        | true =>
          have own := ownKeeps_staysSettled beside
          have told : Keeps (Live.StaysSettled W e.machine id column other)
              (do e.notify [.str ev.name, old, ← e.currentState] e.machine.observers) :=
            own.reads.bind fun _ => notify_keeps own.notes effect _ _ fun _ ho => ho
          rw [if_pos rfl, ← bind_assoc]
          refine Run.Ends.mono (told.ends_bind_pure true m) fun r l' ended => .inl ?_
          obtain ⟨kept, only⟩ := ended
          obtain ⟨settled', same'⟩ := kept settled
          have hne : r ≠ .ok false := fun hr => absurd (only _ hr) (by decide)
          exact ⟨hne, .settles settled' (same'.trans same) hne⟩
      | stays spared hr =>
        cases moved with
        | true => exact absurd rfl hr
        | false =>
          rw [if_neg (by decide)]
          cases hback : e.rollback.run m with
          | ok _ l' => exact Run.Ends.bind_ok hback (.inr ⟨rfl, m, spared, hback⟩)
          | error stop l' =>
            have legible := sound.congr ((spared w).2 committedAttribute (by simp))
            have undone := trans_of _ spared (rollback_spares_of_error beside legible hback)
            exact Run.Ends.bind_error hback (.inl ⟨by simp, .stays undone (by simp)⟩)

/-- A start never rolls back. -/
theorem start_outcome {l : Live} (w : W l) :
    e.start.Ends l (Outcome W e.machine id column other l) := by
  have read : e.declaredState.Idle l := declaredState_idle (beside.reads w)
  refine Run.Ends.bind_idle read (fun _ => .stays (refl_of _ l) (by simp)) fun current hread => ?_
  rcases mem_of_declaredState hread with rfl | ⟨s, -, rfl⟩
  · cases hinitial : e.machine.stateAt (.str e.machine.config.initial) with
    | error fault => exact .stays (refl_of _ l) (by simp)
    | ok s =>
      have hs := (Definition.stateAt_eq_ok hinitial).1
      obtain ⟨m, hcommit, settled, same⟩ := commit_settles beside w hs
      have entering : Keeps (Live.StaysSettled W e.machine id column other) (e.entering .null s) :=
        entering_keeps (choice.mono fun _ _ h => h.staysSettled) .null hs
      have acted := entering.bind fun _ => entered_keeps effect .null hs
      refine Run.Ends.bind_ok (Run.run_lift_ok s l) (Run.Ends.bind_ok hcommit ?_)
      rw [← bind_assoc]
      refine Run.Ends.mono (acted.ends_bind_pure true m) fun r l' ended => ?_
      obtain ⟨kept, only⟩ := ended
      obtain ⟨settled', same'⟩ := kept settled
      exact .settles settled' (same'.trans same) fun hr => absurd (only _ hr) (by decide)
  · exact .stays (refl_of _ l) (by simp)

end Operations

end Engine

end Lifecycle
