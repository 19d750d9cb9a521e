/-
What the engine keeps: a relation that its own steps keep, and user code with
them, is kept by every operation of the engine.

`Engine.OwnKeeps` is about the steps of the engine itself: notes, reads of the
state, stamps, commits and rollbacks. `Engine.UserKeeps` is about the places
where it leaves the word to others: validity checks, guards and enter actions
before a commit, the other actions and the observers after it, what their
exceptions say of themselves, and the end of records. Both together give
`fire_keeps`, `perform_keeps` and `start_keeps`, however the operation ends.

A transition is one commit between what comes before and what comes after it
(`perform_eq`).
-/
import Lifecycle.Proofs.Parting
import Lifecycle.Class.Call

namespace Lifecycle

open Run (Keeps)

/-! ## The parts of a machine -/

/-- The guards of an event. -/
def Event.guards (ev : Event) : List Callback := ev.transitions.filterMap (·.guard)

namespace Definition

variable {d : Definition}

theorem state?_eq_some {name : String} {s : State} (h : d.state? name = .some s) :
    s ∈ d.states ∧ s.name = name := by
  rw [state?] at h
  exact ⟨List.mem_of_find?_eq_some h, by simpa using List.find?_some h⟩

/-- What is found under a key is declared, and the key is its name. -/
theorem stateAt_eq_ok {key : Value} {s : State} (h : d.stateAt key = .ok s) :
    s ∈ d.states ∧ key = .str s.name := by
  unfold stateAt at h
  split at h
  · cases h
  · split at h
    · split at h
      · next hs =>
        cases h
        obtain ⟨hmem, hname⟩ := state?_eq_some hs
        exact ⟨hmem, by rw [hname]⟩
      · cases h
    · cases h

theorem mem_of_knows {v : Value} (h : d.knows v = true) : ∃ s ∈ d.states, v = .str s.name := by
  unfold knows at h
  split at h
  · next name =>
    rw [declares] at h
    obtain ⟨s, hs⟩ := Option.isSome_iff_exists.mp h
    obtain ⟨hmem, hname⟩ := state?_eq_some hs
    exact ⟨s, hmem, by rw [hname]⟩
  · cases h

/-- A state that passes is null or declared. -/
theorem checkCurrent_eq_ok {v w : Value} (h : d.checkCurrent v = .ok w) :
    w = v ∧ (v = .null ∨ ∃ s ∈ d.states, v = .str s.name) := by
  unfold checkCurrent at h
  split at h
  · next passes =>
    cases h
    refine ⟨rfl, ?_⟩
    rcases (Bool.or_eq_true ..).mp passes with hnull | hknown
    · cases v <;> first | exact .inl rfl | cases hnull
    · exact .inr (mem_of_knows hknown)
  · cases h

theorem declares_of_mem {s : State} (h : s ∈ d.states) : d.declares s.name = true := by
  rw [declares, state?, List.find?_isSome]
  exact ⟨s, h, beq_self_eq_true _⟩

theorem eventNamed_of_some {name : String} {ev : Event} (h : d.event? name = .some ev) :
    d.eventNamed (.str name) = .ok ev := by
  have fits : (Value.str name).checkText = .ok () := by
    simp [Value.checkText, Value.isTooLong_str]
  rw [eventNamed, fits, Value.asText_str]
  simp only [h]
  rfl

theorem eventNamed_of_none {name : String} (h : d.event? name = .none) :
    d.eventNamed (.str name) = .error (.unknownKey (.str name)) := by
  have fits : (Value.str name).checkText = .ok () := by
    simp [Value.checkText, Value.isTooLong_str]
  rw [eventNamed, fits, Value.asText_str]
  simp only [h]
  rfl

theorem eventNamed_eq_ok {name : String} {ev : Event} (h : d.eventNamed (.str name) = .ok ev) :
    ev ∈ d.events := by
  cases he : d.event? name with
  | none => cases (eventNamed_of_none he).symm.trans h
  | some e =>
    cases (eventNamed_of_some he).symm.trans h
    exact List.mem_of_find?_eq_some he

end Definition

theorem Event.guard_mem {ev : Event} {t : Transition} (ht : t ∈ ev.transitions) {g : Callback}
    (hg : t.guard = .some g) : g ∈ ev.guards :=
  List.mem_filterMap.mpr ⟨t, ht, hg⟩

theorem Event.mem_of_leaving {ev : Event} {current : Value} {t : Transition}
    (h : t ∈ ev.leaving current) : t ∈ ev.transitions ∧ t.source.same current = true :=
  List.mem_filter.mp h

/-- A transition that is about to be made: where the record is, and the states it goes between. -/
structure Departure where
  current : Value
  next : State
  old : State

namespace Engine

/-! ## A transition in parts -/

/-- What others do before the commit of a transition; nothing where the record stays. -/
def approach (e : Engine) (event : Value) (t : Transition) (current : Value) (next : State) :
    Run Unit :=
  if current.same t.target then pure () else e.entering event next

/-- What runs before the commit of a transition, if the transition is allowed. -/
def prepare (e : Engine) (event : Value) (t : Transition) : Run (Option Departure) := do
  if ← e.allows event t then
    let current ← e.currentState
    let next ← Run.lift (e.machine.stateAt t.target)
    let old ← Run.lift (e.machine.stateAt current)
    e.stampExit old.name
    e.approach event t current next
    return .some { current, next, old }
  else return .none

/-- What runs after the commit of a transition. -/
def finish (e : Engine) (event : Value) (t : Transition) (d : Departure) : Run Unit := do
  if d.current.same t.target then pure ()
  else
    e.entered event d.next
    e.exited event d.old

/-- A transition is one commit between what runs before and what runs after it. -/
theorem perform_eq (e : Engine) (event : Value) (t : Transition) :
    e.perform event t = (do
      match ← e.prepare event t with
      | .some d => do
        e.commit t.target
        e.finish event t d
        return true
      | .none => return false) := by
  unfold perform prepare approach finish
  rw [bind_assoc]
  refine bind_congr fun allowed => ?_
  cases allowed with
  | false => rfl
  | true =>
    simp only [if_true, bind_assoc]
    refine bind_congr fun current => bind_congr fun next => bind_congr fun old =>
      bind_congr fun _ => ?_
    by_cases loop : current.same t.target = true <;> simp [loop]

/-- A transition is made between declared states. -/
theorem prepare_eq_some {e : Engine} {event : Value} {t : Transition} {d : Departure}
    {l l' : Live} (h : (e.prepare event t).run l = .ok (.some d) l') :
    d.next ∈ e.machine.states ∧ t.target = .str d.next.name ∧ d.old ∈ e.machine.states
      ∧ d.current = .str d.old.name := by
  obtain ⟨allowed, _, -, h⟩ := Run.run_bind_eq_ok.mp h
  cases allowed with
  | false => cases h
  | true =>
    obtain ⟨current, _, -, h⟩ := Run.run_bind_eq_ok.mp h
    obtain ⟨next, _, hnext, h⟩ := Run.run_bind_eq_ok.mp h
    obtain ⟨old, _, hold, h⟩ := Run.run_bind_eq_ok.mp h
    obtain ⟨_, _, -, h⟩ := Run.run_bind_eq_ok.mp h
    obtain ⟨_, _, -, h⟩ := Run.run_bind_eq_ok.mp h
    cases h
    obtain ⟨hn, htarget⟩ := Definition.stateAt_eq_ok (Run.lift_eq_ok hnext)
    obtain ⟨ho, hcurrent⟩ := Definition.stateAt_eq_ok (Run.lift_eq_ok hold)
    exact ⟨hn, htarget, ho, hcurrent⟩

/-! ## What is kept -/

/-- The steps that the engine takes by itself without a commit stay within `P`. -/
structure QuietKeeps (e : Engine) (P : Live → Live → Prop) : Prop where
  notes : ∀ entry, Keeps P (Run.note entry)
  reads : Keeps P e.currentState
  stamps : ∀ s ∈ e.machine.states, Keeps P (e.stampExit s.name)

/-- All steps that the engine takes by itself stay within `P`. -/
structure OwnKeeps (e : Engine) (P : Live → Live → Prop) : Prop extends e.QuietKeeps P where
  commits : ∀ s ∈ e.machine.states, Keeps P (e.commit (.str s.name))
  rollbacks : Keeps P e.rollback

/-- What others do before a commit stays within `P`; `G` are the guards that count. -/
structure ChoiceKeeps (e : Engine) (G : Callback → Prop) (P : Live → Live → Prop) : Prop where
  covers : ∀ ev ∈ e.machine.events, ∀ g ∈ ev.guards, G g
  checks : ∀ event, Keeps P (e.check event)
  guards : ∀ event g, G g → Keeps P (do e.host.truth (← e.runAction event g))
  enters : ∀ event, ∀ s ∈ e.machine.states, ∀ a, s.enter = .some a → Keeps P (e.runAction event a)

/-- What others do after a commit stays within `P`. -/
structure EffectKeeps (e : Engine) (P : Live → Live → Prop) : Prop where
  acts : ∀ event, ∀ s ∈ e.machine.states, ∀ a ∈ s.after ++ s.exit.toList,
    Keeps P (e.runAction event a)
  observers : ∀ args, ∀ o ∈ e.machine.observers, Keeps P (o.call e.host args)
  /-- What an observer stops with is asked what it says. -/
  reports : ∀ stop, stop.isOrdinary = true → Keeps P (e.host.message stop)
  /-- Records that an observer leaves to nobody are let go. -/
  partings : ∀ l m, P m (e.host.parted l m)

/-- All that others do for the engine stays within `P`. -/
structure UserKeeps (e : Engine) (G : Callback → Prop) (P : Live → Live → Prop) : Prop
    extends e.ChoiceKeeps G P, e.EffectKeeps P

section Mono

variable {e : Engine} {G : Callback → Prop} {P Q : Live → Live → Prop}
  (hPQ : ∀ l l', P l l' → Q l l')
include hPQ

theorem EffectKeeps.mono (h : e.EffectKeeps P) : e.EffectKeeps Q where
  acts event s hs a ha l := hPQ _ _ (h.acts event s hs a ha l)
  observers args o ho l := hPQ _ _ (h.observers args o ho l)
  reports stop ordinary l := hPQ _ _ (h.reports stop ordinary l)
  partings l m := hPQ _ _ (h.partings l m)

theorem ChoiceKeeps.mono (h : e.ChoiceKeeps G P) : e.ChoiceKeeps G Q where
  covers := h.covers
  checks event l := hPQ _ _ (h.checks event l)
  guards event g hg l := hPQ _ _ (h.guards event g hg l)
  enters event s hs a ha l := hPQ _ _ (h.enters event s hs a ha l)

theorem UserKeeps.mono (h : e.UserKeeps G P) : e.UserKeeps G Q where
  toChoiceKeeps := h.toChoiceKeeps.mono hPQ
  toEffectKeeps := h.toEffectKeeps.mono hPQ

end Mono

/-- A step that the engine takes by itself, in the middle of an operation. -/
inductive OwnStep (e : Engine) : Live → Live → Prop where
  | note (entry : Entry) (l : Live) : OwnStep e l ((Run.note entry).final l)
  | stamp {s : State} (h : s ∈ e.machine.states) (l : Live) :
    OwnStep e l ((e.stampExit s.name).final l)
  | commit {s : State} (h : s ∈ e.machine.states) (l : Live) :
    OwnStep e l ((e.commit (.str s.name)).final l)
  | rollback (l : Live) : OwnStep e l (e.rollback.final l)

theorem OwnKeeps.step {e : Engine} {P : Live → Live → Prop} (own : e.OwnKeeps P) {l l' : Live}
    (h : e.OwnStep l l') : P l l' := by
  cases h with
  | note entry => exact own.notes entry l
  | stamp hs => exact own.stamps _ hs l
  | commit hs => exact own.commits _ hs l
  | rollback => exact own.rollbacks l

variable {e : Engine} {G : Callback → Prop} {P : Live → Live → Prop} [IsPreorder Live P]

theorem watch_keeps (notes : ∀ entry, Keeps P (Run.note entry)) (entry : Entry) :
    Keeps P (e.watch entry) := by
  rw [watch]
  split
  · exact notes entry
  · exact Keeps.pure ()

/-! ## Choosing -/

theorem isValid_keeps (notes : ∀ entry, Keeps P (Run.note entry)) {event : Value}
    (check : Keeps P (e.check event)) : Keeps P (e.isValid event) :=
  check.bind fun result => (watch_keeps notes _).bind fun _ => Keeps.pure result

theorem allows_keeps (own : e.QuietKeeps P) (choice : e.ChoiceKeeps G P) (event : Value)
    {t : Transition} (ht : ∀ g, t.guard = .some g → G g) : Keeps P (e.allows event t) := by
  refine (isValid_keeps own.notes (choice.checks event)).bind fun isValid => ?_
  split
  · cases hg : t.guard with
    | none => exact Keeps.pure true
    | some g => exact choice.guards event g (ht g hg)
  · exact Keeps.pure false

theorem runActions_keeps {event : Value} :
    ∀ as : List Callback, (∀ a ∈ as, Keeps P (e.runAction event a)) →
      Keeps P (e.runActions event as)
  | [], _ => Keeps.pure ()
  | a :: as, h =>
    (h a (.head _)).bind fun _ => runActions_keeps as fun b hb => h b (.tail _ hb)

theorem entering_keeps (choice : e.ChoiceKeeps G P) (event : Value) {s : State}
    (hs : s ∈ e.machine.states) : Keeps P (e.entering event s) :=
  runActions_keeps _ fun a ha => choice.enters event s hs a (Option.mem_toList.mp ha)

/-- What follows the look-up of a state has to stay within the relation for declared ones only. -/
theorem lift_stateAt_keeps {α : Type} {key : Value} {f : State → Run α}
    (hf : ∀ s ∈ e.machine.states, key = .str s.name → Keeps P (f s)) :
    Keeps P (Run.lift (e.machine.stateAt key) >>= f) := by
  cases h : e.machine.stateAt key with
  | error fault => exact Keeps.throw _
  | ok s =>
    obtain ⟨hs, hkey⟩ := Definition.stateAt_eq_ok h
    exact hf s hs hkey

theorem prepare_keeps (own : e.QuietKeeps P) (choice : e.ChoiceKeeps G P) (event : Value)
    {t : Transition} (ht : ∀ g, t.guard = .some g → G g) : Keeps P (e.prepare event t) := by
  refine (allows_keeps own choice event ht).bind fun allowed => ?_
  split
  · refine own.reads.bind fun current => lift_stateAt_keeps fun next hnext _ => ?_
    refine lift_stateAt_keeps fun old hold _ => ?_
    refine (own.stamps old hold).bind fun _ => ?_
    have approached : Keeps P (e.approach event t current next) := by
      rw [approach]
      split
      · exact Keeps.pure ()
      · exact entering_keeps choice event hnext
    exact approached.bind fun _ => Keeps.pure _
  · exact Keeps.pure _

/-! ## Moving -/

theorem entered_keeps (effect : e.EffectKeeps P) (event : Value) {s : State}
    (hs : s ∈ e.machine.states) : Keeps P (e.entered event s) :=
  runActions_keeps _ fun a ha => effect.acts event s hs a (List.mem_append_left _ ha)

theorem exited_keeps (effect : e.EffectKeeps P) (event : Value) {s : State}
    (hs : s ∈ e.machine.states) : Keeps P (e.exited event s) :=
  runActions_keeps _ fun a ha => effect.acts event s hs a (List.mem_append_right _ ha)

theorem finish_keeps (effect : e.EffectKeeps P) (event : Value) (t : Transition) {d : Departure}
    (hnext : d.next ∈ e.machine.states) (hold : d.old ∈ e.machine.states) :
    Keeps P (e.finish event t d) := by
  rw [finish]
  split
  · exact Keeps.pure ()
  · exact (entered_keeps effect event hnext).bind fun _ => exited_keeps effect event hold

theorem perform_keeps (own : e.OwnKeeps P) (users : e.UserKeeps G P) (event : Value)
    {t : Transition} (ht : ∀ g, t.guard = .some g → G g) : Keeps P (e.perform event t) := by
  have prepared := prepare_keeps own.toQuietKeeps users.toChoiceKeeps event ht
  rw [perform_eq]
  refine Keeps.bind_of prepared fun d l l' h => ?_
  have begun : P l l' := Run.final_of_ok h ▸ prepared l
  cases d with
  | none => exact begun
  | some d =>
    obtain ⟨hnext, htarget, hold, -⟩ := prepare_eq_some h
    have committed : Keeps P (e.commit t.target) := htarget ▸ own.commits d.next hnext
    have finished := finish_keeps users.toEffectKeeps event t hnext hold
    have rest := committed.bind fun _ => finished.bind fun _ => Keeps.pure true
    exact trans_of P begun (rest l')

theorem performFirst_keeps (own : e.OwnKeeps P) (users : e.UserKeeps G P) (event : Value) :
    ∀ ts : List Transition, (∀ t ∈ ts, ∀ g, t.guard = .some g → G g) →
      Keeps P (e.performFirst event ts)
  | [], _ => Keeps.pure false
  | t :: ts, h => by
    refine (perform_keeps own users event (h t (.head _))).bind fun moved => ?_
    split
    · exact Keeps.pure true
    · exact performFirst_keeps own users event ts fun u hu => h u (.tail _ hu)

/-! ## Events -/

theorem fireEvent_keeps (own : e.OwnKeeps P) (users : e.UserKeeps G P) {ev : Event}
    (hev : ∀ g ∈ ev.guards, G g) : Keeps P (e.fireEvent ev) := by
  have candidates : Keeps P (e.nextTransitions ev) := own.reads.bind fun _ => Keeps.pure _
  refine Keeps.bind_of candidates fun ts l l' h => ?_
  obtain ⟨current, m, -, hts⟩ := Run.run_bind_eq_ok.mp h
  cases hts
  have guarded : ∀ t ∈ ev.leaving current, ∀ g, t.guard = .some g → G g := fun t ht g hg =>
    hev g (Event.guard_mem (Event.mem_of_leaving ht).1 hg)
  have begun : P l l' := Run.final_of_ok h ▸ candidates l
  exact trans_of P begun (performFirst_keeps own users _ _ guarded l')

section Notify

variable (notes : ∀ entry, Keeps P (Run.note entry)) (effect : e.EffectKeeps P) (args : List Value)
include notes effect

theorem notifyOne_keeps {o : Callback} (ho : o ∈ e.machine.observers) :
    Keeps P (e.notifyOne args o) := by
  have called := (effect.observers args o ho).bind fun _ => Keeps.pure ()
  refine Host.passing_keeps effect.partings (called.tryCatch fun stop => ?_)
  split
  · next ordinary => exact (effect.reports stop ordinary).bind fun _ => notes _
  · exact Keeps.throw _

theorem notify_keeps : ∀ os : List Callback, (∀ o ∈ os, o ∈ e.machine.observers) →
    Keeps P (e.notify args os)
  | [], _ => Keeps.pure ()
  | _ :: os, hos =>
    (notifyOne_keeps notes effect args (hos _ (.head _))).bind fun _ =>
      notify_keeps os fun o ho => hos o (.tail _ ho)

end Notify

/-- What a fire does once its event was found. -/
def fireFound (e : Engine) (ev : Event) : Run Bool := do
  let old ← e.currentState
  if ← e.fireEvent ev then
    let new ← e.currentState
    e.notify [.str ev.name, old, new] e.machine.observers
    return true
  else
    e.rollback
    return false

theorem fire_eq (e : Engine) (name : String) :
    e.fire (.str name) = Run.lift (e.machine.eventNamed (.str name)) >>= e.fireFound := by
  rw [fire, eventNamed, Host.asText_str, pure_bind]
  rfl

/-- A fire that answers has fired an event of the machine. -/
theorem fire_eq_ok {name : String} {l l' : Live} {moved : Bool}
    (h : (e.fire (.str name)).run l = .ok moved l') :
    ∃ ev ∈ e.machine.events, (e.fireFound ev).run l = .ok moved l' := by
  rw [fire_eq] at h
  obtain ⟨ev, m, hev, h⟩ := Run.run_bind_eq_ok.mp h
  have found := Run.lift_eq_ok hev
  rw [found] at hev
  cases hev
  exact ⟨ev, Definition.eventNamed_eq_ok found, h⟩

/-- A fire stays within a relation if what its events do does, and the steps after them. -/
theorem fire_keeps_of_events (own : e.QuietKeeps P) (rollbacks : Keeps P e.rollback)
    (effect : e.EffectKeeps P) (events : ∀ ev ∈ e.machine.events, Keeps P (e.fireEvent ev))
    (name : String) : Keeps P (e.fire (.str name)) := by
  rw [fire_eq]
  cases hev : e.machine.eventNamed (.str name) with
  | error fault => exact Keeps.throw _
  | ok ev =>
    have found := events ev (Definition.eventNamed_eq_ok hev)
    refine own.reads.bind fun old => found.bind fun moved => ?_
    split
    · refine own.reads.bind fun new => ?_
      exact (notify_keeps own.notes effect _ _ fun _ ho => ho).bind fun _ => Keeps.pure true
    · exact rollbacks.bind fun _ => Keeps.pure false

theorem fire_keeps (own : e.OwnKeeps P) (users : e.UserKeeps G P) (name : String) :
    Keeps P (e.fire (.str name)) :=
  fire_keeps_of_events own.toQuietKeeps own.rollbacks users.toEffectKeeps
    (fun ev hev => fireEvent_keeps own users (users.covers ev hev)) name

theorem start_keeps (own : e.OwnKeeps P) (users : e.UserKeeps G P) : Keeps P e.start := by
  have declared : Keeps P e.declaredState := own.reads.bind fun _ => Keeps.lift _
  refine declared.bind fun current => ?_
  split
  · refine lift_stateAt_keeps fun s hs hname => ?_
    refine (own.commits s hs).bind fun _ => ?_
    refine (entering_keeps users.toChoiceKeeps _ hs).bind fun _ => ?_
    exact (entered_keeps users.toEffectKeeps _ hs).bind fun _ => Keeps.pure true
  · exact Keeps.pure false

end Engine

end Lifecycle
