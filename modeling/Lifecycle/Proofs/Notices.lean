/-
Notices: what the observers of a machine learn, and how it agrees with where the
record has been.

A fire first makes an attempt (`Engine.attempt`), in which the observers have no
part (`attempt_withObservers`); only when that has moved the record are they told,
each once and in order (`Engine.Hears`), the event and the states before and after.
Where user code leaves the state alone, `Engine.Concludes` says of each end of a
fire where the record is then, and the events that the observers were told of are
a trail in the graph of the machine (`Setting.notices_agree`). A class may also
take no notice of what is written to its records (`notices_agree_deaf`).
-/
import Lifecycle.Proofs.Declarations
import Lifecycle.Proofs.Edges
import Lifecycle.Proofs.Observers
import Lifecycle.Proofs.Validity

namespace Lifecycle

open Run (Keeps)

namespace Engine

/-! ## What comes before the observers -/

/-- What a fire does before it tells the observers, and what they are to be told if the record has
moved. -/
def attempt (e : Engine) (name : Value) : Run (Option (List Value)) := do
  let event ← e.eventNamed name
  let old ← e.currentState
  if ← e.fireEvent event then
    let new ← e.currentState
    return .some [.str event.name, old, new]
  else
    e.rollback
    return .none

theorem fire_eq_attempt (e : Engine) (name : Value) : e.fire name = (do
    match ← e.attempt name with
    | .some args => do
      e.notify args e.machine.observers
      return true
    | .none => return false) := by
  unfold fire attempt
  simp only [bind_assoc]
  refine bind_congr fun event => bind_congr fun old => bind_congr fun moved => ?_
  cases moved with
  | true => simp
  | false => simp

/-- The same engine for a machine with other observers. -/
def withObservers (e : Engine) (os : List Callback) : Engine :=
  { e with machine := { e.machine with observers := os } }

section WithObservers

variable (e : Engine) (os : List Callback) (event : Value)

theorem runActions_withObservers (actions : List Callback) :
    (e.withObservers os).runActions event actions = e.runActions event actions := by
  induction actions with
  | nil => rfl
  | cons action rest ih =>
    have same : (e.withObservers os).runAction event action = e.runAction event action := rfl
    rw [runActions, runActions, ih, same]

theorem check_withObservers : (e.withObservers os).check event = e.check event := by
  have same : (e.withObservers os).host = e.host := rfl
  rw [check, check, errors_of_host same rfl]
  rfl

theorem performFirst_withObservers (ts : List Transition) :
    (e.withObservers os).performFirst event ts = e.performFirst event ts := by
  induction ts with
  | nil => rfl
  | cons t ts ih =>
    have first : (e.withObservers os).perform event t = e.perform event t := by
      unfold perform allows isValid entering entered exited
      simp only [check_withObservers, runActions_withObservers]
      rfl
    rw [performFirst, performFirst, ih, first]

/-- The observers have no part in an attempt. -/
theorem attempt_withObservers (name : Value) :
    (e.withObservers os).attempt name = e.attempt name := by
  unfold attempt fireEvent
  simp only [performFirst_withObservers]
  rfl

end WithObservers

/-- A fire that ends otherwise than with a move ends in its attempt. -/
theorem fire_withObservers {e : Engine} {name : Value} {l l' : Live} (os : List Callback)
    (h : (e.attempt name).run l = .ok .none l') :
    ((e.withObservers os).fire name).run l = .ok false l' := by
  rw [fire_eq_attempt, attempt_withObservers, Run.run_bind_ok h]
  rfl

theorem fire_withObservers_error {e : Engine} {name : Value} {l l' : Live} {stop : Stop}
    (os : List Callback) (h : (e.attempt name).run l = .error stop l') :
    ((e.withObservers os).fire name).run l = .error stop l' := by
  rw [fire_eq_attempt, attempt_withObservers, Run.run_bind_error h]

/-! ## Telling the observers -/

/-- All observers are told, if what they do leaves the record in its world. -/
theorem notify_told {e : Engine} {W : Live → Prop} {id : RecordId} {names : List String}
    (ground : Live.Ground W e.machine id) (effect : e.EffectKeeps (Live.Spares W id names))
    (ordinary : e.HasOrdinaryObservers W) (answers : e.host.IsSteady) (args : List Value)
    {l : Live} (w : W l) : ∃ l' texts, (e.notify args e.machine.observers).run l = .ok () l'
      ∧ e.Hears (.record id) args e.machine.observers l texts (.ok ()) l' := by
  obtain ⟨texts, ended⟩ := notify_hears answers e.machine.observers (ground.plain w).self
  have whole {r : Except Stop Unit} {l' : Live}
      (heard : e.Hears (.record id) args e.machine.observers l texts r l') : r = .ok () :=
    heard.answers ordinary (fun o ho l w => (effect.observers args o ho l w).1)
      (fun stop isOrdinary l w => (effect.reports stop isOrdinary l w).1)
      (fun l text w => ground.noted _ w) (fun l m w => (effect.partings l m w).1)
      (fun _ ho => ho) w
  cases told : (e.notify args e.machine.observers).run l with
  | ok _ l' =>
    rw [Run.Ends, told] at ended
    exact ⟨l', texts, rfl, ended⟩
  | error stop l' =>
    rw [Run.Ends, told] at ended
    cases whole ended

/-! ## Where a fire ends -/

end Engine

/-- Whether an event has a transition between two states, of which the second is declared. -/
def Event.Leads (ev : Event) (m : Machine) (a b : String) : Prop :=
  (∃ t ∈ ev.transitions, t.source = .str a ∧ t.target = .str b) ∧ m.declares b = true

namespace Engine

variable {e : Engine} {W : Live → Prop} {id : RecordId} {column : String} {G : Callback → Prop}

/-- How the candidates of an event end that leave a state: the record is still in that state, or one
of the transitions has taken it to another. -/
inductive Moved (W : Live → Prop) (m : Machine) (id : RecordId) (column : String) (ev : Event)
    (c : String) : Except Stop Bool → Live → Prop where
  | stays {r : Except Stop Bool} {l' : Live} (h : l'.IsAt W id column c) (hr : r ≠ .ok true) :
    Moved W m id column ev c r l'
  | moves {r : Except Stop Bool} {l' : Live} {b : String} (leads : ev.Leads m c b)
    (h : l'.IsAt W id column b) (hr : r ≠ .ok false) : Moved W m id column ev c r l'

/-- How a fire ends that finds the record in a state. -/
inductive Concludes (e : Engine) (W : Live → Prop) (id : RecordId) (column : String) (ev : Event)
    (c : String) (l : Live) : Except Stop Bool → Live → Prop where
  /-- The record has moved along a transition of the event, and all observers were told so. -/
  | moved {b : String} {m l' : Live} (leads : ev.Leads e.machine c b)
    (attempted : (e.attempt (.str ev.name)).run l
      = .ok (.some [.str ev.name, .str c, .str b]) m) (came : m.IsAt W id column b)
    (told : ∃ texts, e.Hears (.record id) [.str ev.name, .str c, .str b] e.machine.observers m
      texts (.ok ()) l')
    (stays : l'.IsAt W id column b) : Concludes e W id column ev c l (.ok true) l'
  /-- The record is where it was, and no observer was called: any others would have led to the
  same. -/
  | stayed {l' : Live}
    (untold : ∀ os, ((e.withObservers os).fire (.str ev.name)).run l = .ok false l')
    (stays : l'.IsAt W id column c) : Concludes e W id column ev c l (.ok false) l'
  /-- The same of a fire that stops, which may have moved the record before. -/
  | stopped {stop : Stop} {l' : Live}
    (untold : ∀ os, ((e.withObservers os).fire (.str ev.name)).run l = .error stop l')
    (at_ : l'.IsAt W id column c ∨ ∃ b, ev.Leads e.machine c b ∧ l'.IsAt W id column b) :
    Concludes e W id column ev c l (.error stop) l'

/-- What is true of the record then besides is left out. -/
theorem Concludes.mono {V : Live → Prop} (forget : ∀ l, W l → V l) {ev : Event} {c : String}
    {l l' : Live} {r : Except Stop Bool} (h : e.Concludes W id column ev c l r l') :
    e.Concludes V id column ev c l r l' := by
  have still {b : String} {k : Live} (at_ : k.IsAt W id column b) : k.IsAt V id column b :=
    ⟨forget k at_.world, at_.shown, at_.committed⟩
  cases h with
  | moved leads attempted came told stays =>
    exact .moved leads attempted (still came) told (still stays)
  | stayed untold stays => exact .stayed untold (still stays)
  | stopped untold where_ =>
    refine .stopped untold (where_.imp still ?_)
    rintro ⟨b, leads, came⟩
    exact ⟨b, leads, still came⟩

section Fires

variable (room : Live.Room W e id column)
  (choice : e.ChoiceKeeps G (Live.Spares W id (Live.stateNames column)))
  (effect : e.EffectKeeps (Live.Spares W id (Live.stateNames column)))
include room choice effect

theorem performFirst_moved {ev : Event} (hev : ev ∈ e.machine.events) (event : Value) {c : String} :
    ∀ (ts : List Transition) (l : Live), (∀ t ∈ ts, t ∈ ev.transitions ∧ t.source = .str c) →
      l.IsAt W id column c → (e.performFirst event ts).Ends l (Moved W e.machine id column ev c)
  | [], l, _, at_ => .stays at_ (by simp)
  | t :: ts, l, hts, at_ => by
    obtain ⟨ht, hsource⟩ := hts t (.head _)
    have prepared := prepare_spares room choice hev ht event l
    rw [performFirst, perform_eq, bind_assoc]
    cases hprep : (e.prepare event t).run l with
    | error stop m =>
      rw [Run.final_of_error hprep] at prepared
      exact Run.Ends.bind_error hprep (.stays (at_.spared prepared) (by simp))
    | ok d m =>
      rw [Run.final_of_ok hprep] at prepared
      have at_m := at_.spared prepared
      refine Run.Ends.bind_ok hprep ?_
      cases d with
      | none => exact performFirst_moved hev event ts m (fun u hu => hts u (.tail _ hu)) at_m
      | some d =>
        obtain ⟨hnext, htarget, hold, -⟩ := prepare_eq_some hprep
        obtain ⟨m', hcommit, at_b, -⟩ := commit_isAt room.toPlot at_m.world d.next.name
        have leads : ev.Leads e.machine c d.next.name :=
          ⟨⟨t, ht, hsource, htarget⟩, Definition.declares_of_mem hnext⟩
        have finished := (finish_keeps effect event t hnext hold).ends_bind_pure true m'
        simp only [bind_assoc, pure_bind, if_true]
        rw [htarget]
        refine Run.Ends.bind_ok hcommit (finished.mono fun r l' ended => ?_)
        obtain ⟨kept, only⟩ := ended
        exact .moves leads (at_b.spared kept) fun hr => absurd (only _ hr) (by decide)

theorem fireEvent_moved {ev : Event} (hev : ev ∈ e.machine.events) {l : Live} {c : String}
    (at_ : l.IsAt W id column c) :
    (e.fireEvent ev).Ends l (Moved W e.machine id column ev c) :=
  Run.Ends.bind_ok (nextTransitions_run_of_isAt room.toPlot at_ ev)
    (performFirst_moved room choice effect hev _ _ l (fun _ ht => Event.mem_of_leaving_str ht) at_)

/-- An attempt tells of exactly the move that it has made. -/
theorem attempt_ends {ev : Event} (found : e.machine.event? ev.name = .some ev) {l : Live}
    {c : String} (at_ : l.IsAt W id column c) :
    (e.attempt (.str ev.name)).Ends l fun r l' =>
      (∃ b, r = .ok (.some [.str ev.name, .str c, .str b]) ∧ ev.Leads e.machine c b
          ∧ l'.IsAt W id column b)
        ∨ (r = .ok .none ∧ l'.IsAt W id column c)
        ∨ ∃ stop, r = .error stop ∧ (l'.IsAt W id column c
          ∨ ∃ b, ev.Leads e.machine c b ∧ l'.IsAt W id column b) := by
  have hev : ev ∈ e.machine.events := List.mem_of_find?_eq_some found
  have named : (e.eventNamed (.str ev.name)).run l = .ok ev l := by
    rw [eventNamed, Host.asText_str, pure_bind, Definition.eventNamed_of_some found]
    rfl
  have fired := fireEvent_moved room choice effect hev at_
  refine Run.Ends.bind_ok named (Run.Ends.bind_ok (currentState_run_of_isAt room.toPlot at_) ?_)
  cases hfired : (e.fireEvent ev).run l with
  | error stop l' =>
    rw [Run.Ends, hfired] at fired
    refine Run.Ends.bind_error hfired (.inr (.inr ⟨stop, rfl, ?_⟩))
    cases fired with
    | stays h => exact .inl h
    | moves leads h => exact .inr ⟨_, leads, h⟩
  | ok moved m =>
    rw [Run.Ends, hfired] at fired
    refine Run.Ends.bind_ok hfired ?_
    cases fired with
    | stays h hr =>
      cases moved with
      | true => exact absurd rfl hr
      | false =>
        rw [if_neg (by decide)]
        have back := h.spared (rollback_spares_of_isAt room h _)
        cases hback : e.rollback.run m with
        | ok _ l' =>
          rw [Run.final_of_ok hback] at back
          exact Run.Ends.bind_ok hback (.inr (.inl ⟨rfl, back⟩))
        | error stop l' =>
          rw [Run.final_of_error hback] at back
          exact Run.Ends.bind_error hback (.inr (.inr ⟨stop, rfl, .inl back⟩))
    | moves leads h hr =>
      cases moved with
      | false => exact absurd rfl hr
      | true =>
        rw [if_pos rfl]
        exact Run.Ends.bind_ok (currentState_run_of_isAt room.toPlot h) (.inl ⟨_, rfl, leads, h⟩)

theorem fire_concludes (ordinary : e.HasOrdinaryObservers W) (answers : e.host.IsSteady) {ev : Event}
    (found : e.machine.event? ev.name = .some ev) {l : Live} {c : String}
    (at_ : l.IsAt W id column c) :
    (e.fire (.str ev.name)).Ends l (Concludes e W id column ev c l) := by
  have ended := attempt_ends room choice effect found at_
  rw [Run.Ends] at ended
  cases hatt : (e.attempt (.str ev.name)).run l with
  | error stop l' =>
    rw [hatt] at ended
    have untold := fun os => fire_withObservers_error os hatt
    have ends : (e.fire (.str ev.name)).run l = .error stop l' := untold e.machine.observers
    rw [Run.Ends, ends]
    rcases ended with ⟨b, h, -⟩ | ⟨h, -⟩ | ⟨_, -, where_⟩
    · cases h
    · cases h
    · exact .stopped untold where_
  | ok told m =>
    rw [hatt] at ended
    rcases ended with ⟨b, h, leads, came⟩ | ⟨h, at_m⟩ | ⟨_, h, -⟩
    · cases h
      obtain ⟨l', texts, hnotify, told⟩ := notify_told room.toGround effect ordinary answers
        [.str ev.name, .str c, .str b] came.world
      have kept := notify_keeps (quietKeeps_spares_state room).notes effect
        [.str ev.name, .str c, .str b] e.machine.observers (fun _ ho => ho) m
      rw [Run.final_of_ok hnotify] at kept
      have ends : (e.fire (.str ev.name)).run l = .ok true l' := by
        rw [fire_eq_attempt, Run.run_bind_ok hatt]
        exact Run.run_bind_ok hnotify _
      rw [Run.Ends, ends]
      exact .moved leads hatt came ⟨texts, told⟩ (came.spared kept)
    · cases h
      have untold := fun os => fire_withObservers os hatt
      have ends : (e.fire (.str ev.name)).run l = .ok false m := untold e.machine.observers
      rw [Run.Ends, ends]
      exact .stayed untold at_m
    · cases h

omit room in
/-- A record without a state is in the initial one after a start. -/
theorem start_isAt (plot : Live.Plot W e.machine id column) {l : Live} (w : W l)
    (fresh : e.currentState.run l = .ok .null l) {s : State}
    (hs : e.machine.stateAt (.str e.machine.config.initial) = .ok s) :
    (e.start.final l).IsAt W id column s.name := by
  have hmem := (Definition.stateAt_eq_ok hs).1
  obtain ⟨m, at_, left⟩ := start_final_of_fresh plot w fresh hs
  have rest := (entering_keeps choice .null hmem).bind fun _ =>
    (entered_keeps effect .null hmem).bind fun _ => Keeps.pure true
  rw [left]
  exact at_.spared (rest m)

end Fires

end Engine

/-! ## Runs -/

/-- What observers are told on a way through the graph of a machine: each move begins where the one
before it ended. -/
inductive Machine.Trail (m : Machine) (a : String) : List (List Value) → String → Prop where
  | nil : Trail m a [] a
  | snoc {told : List (List Value)} {b c : String} {ev : Event} (before : Trail m a told b)
    (h : ev ∈ m.events) (leads : ev.Leads m b c) :
    Trail m a (told ++ [[.str ev.name, .str b, .str c]]) c

namespace Setting

variable {s : Setting} {m : Machine} {W : Live → Prop} {id : RecordId} {column : String}
  {G : Callback → Prop}

/-- Declared events that are fired one after the other, where no fire stops, and what the observers
were told on the way. -/
inductive History (s : Setting) (m : Machine) (l₀ : Live) : List (List Value) → Live → Prop where
  | begin : History s m l₀ [] l₀
  | told {told : List (List Value)} {l l₁ l' : Live} {n : Nat} {ev : Event} {args : List Value}
    (before : History s m l₀ told l) (found : m.event? ev.name = .some ev)
    (attempted : ((s.engineAt m n).attempt (.str ev.name)).run l = .ok (.some args) l₁)
    (ended : ((s.engineAt m n).fire (.str ev.name)).run l = .ok true l') :
    History s m l₀ (told ++ [args]) l'
  | untold {told : List (List Value)} {l l' : Live} {n : Nat} {ev : Event}
    (before : History s m l₀ told l) (found : m.event? ev.name = .some ev)
    (ended : ((s.engineAt m n).fire (.str ev.name)).run l = .ok false l') :
    History s m l₀ told l'

section Runs

variable (room : ∀ n, Live.Room W (s.engineAt m n) id column)
  (choice : ∀ n, (s.engineAt m n).ChoiceKeeps G (Live.Spares W id (Live.stateNames column)))
  (effect : ∀ n, (s.engineAt m n).EffectKeeps (Live.Spares W id (Live.stateNames column)))
  (ordinary : ∀ n, (s.engineAt m n).HasOrdinaryObservers W)
include room choice effect ordinary

/-- No fire takes a record out of the declared states. -/
theorem fire_declared (n : Nat) (name : String) {l : Live} {c : String}
    (at_ : l.IsAt W id column c) (declared : m.declares c = true) :
    ∃ c', (((s.engineAt m n).fire (.str name)).final l).IsAt W id column c'
      ∧ m.declares c' = true := by
  cases found : m.event? name with
  | none =>
    have unknown : ((s.engineAt m n).fire (.str name)).final l = l := by
      rw [Engine.fire_eq, show (s.engineAt m n).machine.eventNamed (.str name) = _ from
        Definition.eventNamed_of_none found]
      rfl
    rw [unknown]
    exact ⟨c, at_, declared⟩
  | some ev =>
    obtain rfl : ev.name = name := by simpa using List.find?_some found
    obtain ⟨r, ended, -⟩ := (Engine.fire_concludes (room n) (choice n) (effect n) (ordinary n)
      (s.answer_steady n) found at_).final
    cases ended with
    | moved leads _ _ _ stays => exact ⟨_, stays, leads.2⟩
    | stayed _ stays => exact ⟨c, stays, declared⟩
    | stopped _ where_ =>
      rcases where_ with stays | ⟨b, leads, came⟩
      · exact ⟨c, stays, declared⟩
      · exact ⟨b, came, leads.2⟩

theorem fires_declared {l l' : Live} (fires : s.Fires m l l') {c : String}
    (at_ : l.IsAt W id column c) (declared : m.declares c = true) :
    ∃ c', l'.IsAt W id column c' ∧ m.declares c' = true := by
  induction fires with
  | refl => exact ⟨c, at_, declared⟩
  | tail _ step ih =>
    obtain ⟨n, name, rfl⟩ := step
    obtain ⟨c', at', declared'⟩ := ih
    exact fire_declared room choice effect ordinary n name at' declared'

theorem history_trail {l l' : Live} {told : List (List Value)} (history : s.History m l told l')
    {a : String} (at_ : l.IsAt W id column a) :
    ∃ c, l'.IsAt W id column c ∧ m.Trail a told c := by
  induction history with
  | begin => exact ⟨a, at_, .nil⟩
  | @told _ _ _ _ n ev _ _ found attempted ended ih =>
    obtain ⟨c, at_c, trail⟩ := ih
    have concluded := (Engine.fire_concludes (room n) (choice n) (effect n) (ordinary n)
      (s.answer_steady n) found at_c).of_ok ended
    cases concluded with
    | moved leads attempted' _ _ stays =>
      cases attempted.symm.trans attempted'
      exact ⟨_, stays, trail.snoc (List.mem_of_find?_eq_some found) leads⟩
  | @untold _ _ _ n ev _ found ended ih =>
    obtain ⟨c, at_c, trail⟩ := ih
    have concluded := (Engine.fire_concludes (room n) (choice n) (effect n) (ordinary n)
      (s.answer_steady n) found at_c).of_ok ended
    cases concluded with
    | stayed _ stays => exact ⟨c, stays, trail⟩

end Runs

/-- In a run of fires, any of which may stop, the record is always in a declared state, in which it
was committed, and the next fire ends as `Engine.Concludes` says. Where none stops, what the
observers were told is a trail from the initial state to the current one. -/
theorem notices_agree (plot : Live.Plot W m id column)
    (choice : ∀ n, (s.engineAt m n).ChoiceKeeps G (Live.Spares W id (Live.stateNames column)))
    (effect : ∀ n, (s.engineAt m n).EffectKeeps (Live.Spares W id (Live.stateNames column)))
    (ordinary : ∀ n, (s.engineAt m n).HasOrdinaryObservers W) {st : State}
    (hst : m.stateAt (.str m.config.initial) = .ok st) {n : Nat} {l₀ : Live} (w : W l₀)
    (fresh : (s.engineAt m n).currentState.run l₀ = .ok .null l₀) :
    let l₁ := (s.engineAt m n).start.final l₀
    (∀ l, s.Fires m l₁ l → ∃ c, l.IsAt W id column c ∧ m.declares c = true
        ∧ ∀ k ev, m.event? ev.name = .some ev →
          ((s.engineAt m k).fire (.str ev.name)).Ends l
            (Engine.Concludes (s.engineAt m k) W id column ev c l))
      ∧ ∀ told l, s.History m l₁ told l → ∃ c, l.IsAt W id column c ∧ m.Trail st.name told c := by
  have hmem := (Definition.stateAt_eq_ok hst).1
  have begun := (Engine.start_isAt (choice n) (effect n) plot w fresh hst).textual
  -- Nobody but the machine writes the state from here on, and it writes nothing but texts.
  have room (n : Nat) : Live.Room (Live.Textual W id column) (s.engineAt m n) id column := plot.room
  have choice (n : Nat) := (choice n).mono fun _ _ => Live.Spares.textual
  have effect (n : Nat) := (effect n).mono fun _ _ => Live.Spares.textual
  have ordinary (n : Nat) : (s.engineAt m n).HasOrdinaryObservers (Live.Textual W id column) :=
    fun args o ho l w => ordinary n args o ho l w.1
  refine ⟨fun l fires => ?_, fun told l history => ?_⟩
  · obtain ⟨c, at_, declared⟩ := fires_declared room choice effect ordinary fires begun
      (Definition.declares_of_mem hmem)
    refine ⟨c, at_.of_textual, declared, fun k ev found => ?_⟩
    exact (Engine.fire_concludes (room k) (choice k) (effect k) (ordinary k) (s.answer_steady k)
      found at_).mono fun _ _ => Engine.Concludes.mono fun _ w => w.1
  · obtain ⟨c, at_, trail⟩ := history_trail room choice effect ordinary history begun
    exact ⟨c, at_.of_textual, trail⟩

end Setting

/-! ## Two observers -/

/-- A machine with two observers, of which one notes the new state and the other one raises. -/
def Machine.heeded : Machine where
  config := { initial := "a" }
  states := [{ name := "a" },
    { name := "b", after := [.script (.step (.set "reached" (.lit (.bool true))) .done)] }]
  events := [{ name := "go", transitions := [{ source := "a", target := "b" }] }]
  observers := [.script (.step (.log (.arg 2)) .done), .script (.step (.raise .boom "no") .done)]
  registry := .standard

def Scene.heeded : Scene :=
  .plain { machine? := fun id => if id = 0 then .some Machine.heeded else .none } .heeded 0
    (Live.stateNames "state")

theorem Scene.heeded_isFit : Scene.heeded.IsFit :=
  Scene.plain_isFit rfl fun h => absurd (Value.str.inj h) (by decide)

theorem Scene.heeded_isTame : Machine.heeded.IsTame Scene.heeded where
  enters := by decide
  acts := by decide
  guards := by decide
  observers := by decide
  rules := rfl

/-- The first observer never stops, and the second one always does, with what it raises. -/
theorem Scene.heeded_ordinary (n : Nat) :
    (Scene.heeded.setting.engineAt .heeded n).HasOrdinaryObservers Scene.heeded.World := by
  intro args o ho l w stop l' h
  have lasting := lasting_of_fit heeded_isFit w
  have called : ∀ body : Script, ((Callback.script body).call
      (Scene.heeded.setting.engineAt .heeded n).host args).run l
        = (body.call (Scene.heeded.setting.engineAt .heeded n).host args).run l :=
    fun body => Host.working_run lasting args _
  simp only [Setting.engineAt, Machine.heeded, List.mem_cons, List.not_mem_nil, or_false] at ho
  rcases ho with rfl | rfl
  · have given : (Expr.arg 2).eval (Scene.heeded.setting.engineAt .heeded n).host args
        = pure (args[2]?.getD .null) := by rw [Expr.eval]
    have noted := Step.log_run lasting given
    rw [called, Script.call, Script.run, bind_assoc, Run.run_bind_ok noted] at h
    cases h
  · rw [called] at h
    cases h
    exact ⟨rfl, "no", _, congrArg (EStateM.run · l) (Host.message_of_text _ rfl)⟩

theorem notices_agree_heeded :
    let e := Scene.heeded.setting.engineAt .heeded 3
    let l₁ := e.start.final Live.blank
    (∃ c, ((e.fire "go").final l₁).IsAt Scene.heeded.World 0 "state" c
        ∧ Machine.heeded.declares c = true)
      ∧ ∀ told l, Scene.heeded.setting.History .heeded l₁ told l →
          ∃ c, l.IsAt Scene.heeded.World 0 "state" c ∧ Machine.heeded.Trail "a" told c := by
  intro e l₁
  have users (n : Nat) := Scene.bystanders Scene.heeded_isFit (by decide) Scene.heeded_isTame
    (fun _ => nofun) n
  have plot : Live.Plot Scene.heeded.World .heeded 0 "state" :=
    (Scene.plain_room Scene.heeded_isFit rfl (by decide) rfl 3).toPlot
  have initial : Machine.heeded.stateAt "a" = .ok { name := "a" } := rfl
  obtain ⟨always, trails⟩ := Setting.notices_agree plot (fun n => (users n).toChoiceKeeps)
    (fun n => (users n).toEffectKeeps) Scene.heeded_ordinary initial (n := 3) Scene.blank_plain
    (by rfl)
  obtain ⟨c, at_, declared, -⟩ := always _ (.single ⟨3, "go", rfl⟩)
  exact ⟨⟨c, at_, declared⟩, trails⟩

/-! ## A class that takes nothing -/

/-- A class whose records take no notice of what is written to them. -/
def Class.deaf : ClassBody :=
  Class.top [(Hook.write.name, .method .star .done), ("state", .value .null)]

def Event.onward : Event := { name := "go", transitions := [{ source := "a", target := "b" }] }

def Draft.Call.onward : List Draft.Call := [
  .declareState "a" .none .none .none .none,
  .declareState "b" .none .none .none .none,
  .openEvent "go" ∅,
  .addEdges 0 { target := "b", sources := .ok ["a"] },
  .leaveBlock 0 false,
  .build]

def Machine.onward : Machine where
  config := { initial := "a" }
  states := [{ name := "a" }, { name := "b" }]
  events := [.onward]
  registry := .standard

/-- Such a record is initialized and still has no state, and no event moves it. -/
theorem notices_agree_deaf :
    let e := ({ machine? := fun id => if id = 0 then .some .onward else .none }
      : Setting).engineAt .onward 3
    let l := Live.newOf Class.deaf
    (Draft.afterAll Draft.Call.onward { config := { initial := "a" } }).machine?
        = .some e.machine
      ∧ e.start.run l = .ok true l
      ∧ (e.fire "go").run l = .ok false l
      ∧ e.currentState.run l = .ok .null l
      ∧ (e.host.hasAttr (.str committedAttribute)).run l = .ok false l := by
  intro e l
  have shown : e.currentState.run l = .ok .null l := rfl
  refine ⟨rfl, rfl, ?_, shown, rfl⟩
  have found : e.machine.event? "go" = .some .onward := rfl
  have stays : (e.fireEvent .onward).run l = .ok false l := rfl
  have back : e.rollback.run l = .ok () l := rfl
  rw [Engine.fire_eq, Definition.eventNamed_of_some found, Run.run_bind_ok (Run.run_lift_ok _ _),
    Engine.fireFound, Run.run_bind_ok shown, Run.run_bind_ok stays, if_neg Bool.false_ne_true,
    Run.run_bind_ok back]
  rfl

end Lifecycle
