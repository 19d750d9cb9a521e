/-
Moves along edges: when the committed state of a record is the source of the
transition that is about to be committed.

A fire reads the state of the record once, and chooses its candidates by it. So
the source of what it comes to commit is the state at that time; whether it still
is the committed state then, is up to what runs in between: the validity check,
the guard and the enter action (`Engine.ComesTo.source_iff`). Where these fire
nothing and leave the state alone, every commit departs from the source of its
transition, even if all other actions and the observers fire events in turn
(`Setting.CommitsIn.departs`), and the committed states of a record are a path in
the graph of the machine.
-/
import Lifecycle.Proofs.Room
import Lifecycle.Proofs.Scripts

namespace Lifecycle

open Run (Keeps)

/-- Whether some event has a transition between two states. -/
def Machine.Edge (m : Machine) (a b : String) : Prop :=
  ∃ ev ∈ m.events, ∃ t ∈ ev.transitions, t.source = .str a ∧ t.target = .str b

theorem Value.eq_str_of_same {v : Value} {s : String} (h : v.same (.str s) = true) : v = .str s := by
  cases v with
  | str t => simpa using h
  | null | bool _ | int _ | decimal _ _ => cases h
  | _ => simp [same] at h

/-- What leaves a state that has a name is a transition from there. -/
theorem Event.mem_of_leaving_str {ev : Event} {c : String} {t : Transition}
    (h : t ∈ ev.leaving (.str c)) : t ∈ ev.transitions ∧ t.source = .str c := by
  obtain ⟨hmem, hsame⟩ := Event.mem_of_leaving h
  exact ⟨hmem, Value.eq_str_of_same hsame⟩

namespace Live

/-- Where a record is in its committed state before, it is so after, and has got there along
edges. -/
def Travels (W : Live → Prop) (m : Machine) (id : RecordId) (column : String) (l l' : Live) : Prop :=
  ∀ c, l.IsAt W id column c → ∃ c', l'.IsAt W id column c' ∧ Relation.ReflTransGen m.Edge c c'

variable {W : Live → Prop} {m : Machine} {id : RecordId} {column : String}

instance : IsPreorder Live (Travels W m id column) where
  refl _ c h := ⟨c, h, .refl⟩
  trans _ _ _ h₁ h₂ c h := by
    obtain ⟨c₁, at₁, path₁⟩ := h₁ c h
    obtain ⟨c₂, at₂, path₂⟩ := h₂ c₁ at₁
    exact ⟨c₂, at₂, path₁.trans path₂⟩

theorem Spares.travels {l l' : Live} (hs : Spares W id (stateNames column) l l') :
    Travels W m id column l l' := fun c h => ⟨c, h.spared hs, .refl⟩

end Live

namespace Engine

variable {e : Engine} {W : Live → Prop} {id : RecordId} {column : String}

/-! ## The engine's own steps -/

section Own

variable (room : Live.Room W e id column)
include room

theorem quietKeeps_spares_state : e.QuietKeeps (Live.Spares W id (Live.stateNames column)) :=
  quietKeeps_spares room.toWorld fun s hs field hf hmem => by
    rcases List.mem_cons.mp hmem with rfl | hmem
    · exact room.unstamped s hs hf
    · exact State.stampField_ne_committed hf (List.mem_singleton.mp hmem)

theorem quietKeeps_travels : e.QuietKeeps (Live.Travels W e.machine id column) where
  notes entry l := ((quietKeeps_spares_state room).notes entry l).travels
  reads l := ((quietKeeps_spares_state room).reads l).travels
  stamps s hs l := ((quietKeeps_spares_state room).stamps s hs l).travels

end Own

/-! ## Commits -/

/-- Of some candidates, the engine comes to commit `t` and has reached `l'` by then; those before it
were not allowed. -/
inductive Picks (e : Engine) (event : Value) :
    List Transition → Live → Transition → Departure → Live → Prop where
  | here {t : Transition} {ts : List Transition} {d : Departure} {l l' : Live}
    (h : (e.prepare event t).run l = .ok (.some d) l') : Picks e event (t :: ts) l t d l'
  | later {t u : Transition} {ts : List Transition} {d : Departure} {l l₁ l' : Live}
    (h : (e.prepare event t).run l = .ok .none l₁) (h' : Picks e event ts l₁ u d l') :
    Picks e event (t :: ts) l u d l'

/-- What moves a record was picked. -/
theorem picks_of_performFirst {event : Value} {l' : Live} : ∀ (ts : List Transition) (l : Live),
    (e.performFirst event ts).run l = .ok true l' → ∃ t d m, e.Picks event ts l t d m
  | [], _, h => by cases h
  | t :: ts, l, h => by
    rw [performFirst, perform_eq, bind_assoc] at h
    obtain ⟨d, m, hprep, h⟩ := Run.run_bind_eq_ok.mp h
    cases d with
    | some d => exact ⟨t, d, m, .here hprep⟩
    | none =>
      obtain ⟨u, d, m', hpicks⟩ := picks_of_performFirst ts m h
      exact ⟨u, d, m', .later hprep hpicks⟩

theorem Picks.mem {event : Value} {ts : List Transition} {t : Transition} {d : Departure}
    {l l' : Live} (h : e.Picks event ts l t d l') : t ∈ ts := by
  induction h with
  | here => exact .head _
  | later _ _ ih => exact .tail _ ih

theorem Picks.prepared {event : Value} {ts : List Transition} {t : Transition} {d : Departure}
    {l l' : Live} (h : e.Picks event ts l t d l') :
    ∃ m, (e.prepare event t).run m = .ok (.some d) l' := by
  induction h with
  | here h => exact ⟨_, h⟩
  | later _ _ ih => exact ih

/-- The firing of an event comes to commit `t` and has reached `l'` by then. -/
def ComesTo (e : Engine) (ev : Event) (l : Live) (t : Transition) (l' : Live) : Prop :=
  ∃ old l₁ ts l₂ d, e.currentState.run l = .ok old l₁ ∧ (e.nextTransitions ev).run l₁ = .ok ts l₂
    ∧ e.Picks (.str ev.name) ts l₂ t d l'

section Commits

variable {G : Callback → Prop} (room : Live.Room W e id column)
include room

/-- What the firing of an event comes to commit leaves the state in which it began. -/
theorem ComesTo.picks {ev : Event} {l l' : Live} {t : Transition} {c : String}
    (at_ : l.IsAt W id column c) (h : e.ComesTo ev l t l') :
    ∃ d, e.Picks (.str ev.name) (ev.leaving (.str c)) l t d l' := by
  obtain ⟨old, l₁, ts, l₂, d, hold, hts, hpicks⟩ := h
  cases (currentState_run_of_isAt room.toPlot at_).symm.trans hold
  cases (nextTransitions_run_of_isAt room.toPlot at_ ev).symm.trans hts
  exact ⟨d, hpicks⟩

theorem ComesTo.source {ev : Event} {l l' : Live} {t : Transition} {c : String}
    (at_ : l.IsAt W id column c) (h : e.ComesTo ev l t l') :
    t ∈ ev.transitions ∧ t.source = .str c := by
  obtain ⟨d, hpicks⟩ := h.picks room at_
  exact Event.mem_of_leaving_str hpicks.mem

/-- A commit departs from the source of its transition if and only if nothing has moved the record
since the transition was chosen. -/
theorem ComesTo.source_iff {ev : Event} {l l' : Live} {t : Transition} {c : String}
    (at_ : l.IsAt W id column c) (h : e.ComesTo ev l t l') :
    l'.value? id committedAttribute = .some t.source
      ↔ l'.value? id committedAttribute = l.value? id committedAttribute := by
  rw [at_.committed, (h.source room at_).2]

variable (choice : e.ChoiceKeeps G (Live.Spares W id (Live.stateNames column)))
include choice

theorem prepare_spares {ev : Event} (hev : ev ∈ e.machine.events) {t : Transition}
    (ht : t ∈ ev.transitions) (event : Value) :
    Keeps (Live.Spares W id (Live.stateNames column)) (e.prepare event t) :=
  prepare_keeps (quietKeeps_spares_state room) choice event fun g hg =>
    choice.covers ev hev g (Event.guard_mem ht hg)

theorem Picks.isAt {ev : Event} (hev : ev ∈ e.machine.events) {event : Value}
    {ts : List Transition} {l l' : Live} {t : Transition} {d : Departure} {c : String}
    (hts : ∀ u ∈ ts, u ∈ ev.transitions) (at_ : l.IsAt W id column c)
    (h : e.Picks event ts l t d l') : l'.IsAt W id column c := by
  induction h with
  | here h =>
    have spared := prepare_spares room choice hev (hts _ (.head _)) event
    exact at_.spared (Run.final_of_ok h ▸ spared _)
  | later h _ ih =>
    have spared := prepare_spares room choice hev (hts _ (.head _)) event
    exact ih (fun u hu => hts u (.tail _ hu)) (at_.spared (Run.final_of_ok h ▸ spared _))

/-- Where nothing moves the record before a commit, the commit departs from the source of its
transition. -/
theorem ComesTo.isAt {ev : Event} (hev : ev ∈ e.machine.events) {l l' : Live} {t : Transition}
    {c : String} (at_ : l.IsAt W id column c) (h : e.ComesTo ev l t l') :
    l'.IsAt W id column c := by
  obtain ⟨d, hpicks⟩ := h.picks room at_
  exact hpicks.isAt room choice hev (fun u hu => (Event.mem_of_leaving hu).1) at_

variable (effect : e.EffectKeeps (Live.Travels W e.machine id column))
include effect

/-- A transition takes the record along its edge, and on along those of what its actions fire. -/
theorem performFirst_travels {ev : Event} (hev : ev ∈ e.machine.events) {event : Value}
    {c : String} : ∀ (ts : List Transition) (l : Live),
    (∀ t ∈ ts, t ∈ ev.transitions ∧ t.source = .str c) → l.IsAt W id column c →
      ∃ c', ((e.performFirst event ts).final l).IsAt W id column c'
        ∧ Relation.ReflTransGen e.machine.Edge c c'
  | [], l, _, at_ => ⟨c, at_, .refl⟩
  | t :: ts, l, hts, at_ => by
    obtain ⟨ht, hsource⟩ := hts t (.head _)
    have spared := prepare_spares room choice hev ht event l
    rw [performFirst, perform_eq, bind_assoc]
    cases hprep : (e.prepare event t).run l with
    | error stop m =>
      rw [Run.final_bind_error hprep]
      exact ⟨c, at_.spared (Run.final_of_error hprep ▸ spared), .refl⟩
    | ok d m =>
      have at_m : m.IsAt W id column c := at_.spared (Run.final_of_ok hprep ▸ spared)
      rw [Run.final_bind_ok hprep]
      cases d with
      | none => exact performFirst_travels hev ts m (fun u hu => hts u (.tail _ hu)) at_m
      | some d =>
        obtain ⟨hnext, htarget, hold, -⟩ := prepare_eq_some hprep
        obtain ⟨m', hcommit, at_m', -⟩ := commit_isAt room.toPlot at_m.world d.next.name
        have edge : e.machine.Edge c d.next.name := ⟨ev, hev, t, ht, hsource, htarget⟩
        have finished := (finish_keeps effect event t hnext hold).bind fun _ => Keeps.pure true
        obtain ⟨c', at_', path⟩ := finished m' _ at_m'
        refine ⟨c', ?_, path.head edge⟩
        simp only [bind_assoc, pure_bind, if_true]
        rw [htarget, Run.final_bind_ok hcommit]
        exact at_'

theorem fire_travels (name : String) :
    Keeps (Live.Travels W e.machine id column) (e.fire (.str name)) := by
  have quiet := quietKeeps_travels room
  have rollbacks : Keeps (Live.Travels W e.machine id column) e.rollback :=
    fun l c at_ => ⟨c, at_.spared (rollback_spares_of_isAt room at_ _), .refl⟩
  refine fire_keeps_of_events quiet rollbacks effect (fun ev hev l c at_ => ?_) name
  rw [fireEvent, Run.final_bind_ok (nextTransitions_run_of_isAt room.toPlot at_ ev)]
  exact performFirst_travels room choice effect hev _ l
    (fun _ ht => Event.mem_of_leaving_str ht) at_

omit choice effect in
/-- A record without a state is committed in the initial one, and moves on from there. -/
theorem start_travels (enters : ∀ event, ∀ s ∈ e.machine.states, ∀ a, s.enter = .some a →
      Keeps (Live.Travels W e.machine id column) (e.runAction event a))
    (effect : e.EffectKeeps (Live.Travels W e.machine id column)) {l : Live} (w : W l)
    (fresh : e.currentState.run l = .ok .null l) {s : State}
    (hs : e.machine.stateAt (.str e.machine.config.initial) = .ok s) :
    ∃ c', (e.start.final l).IsAt W id column c'
      ∧ Relation.ReflTransGen e.machine.Edge s.name c' := by
  have hmem := (Definition.stateAt_eq_ok hs).1
  obtain ⟨m, at_, left⟩ := start_final_of_fresh room.toPlot w fresh hs
  have entered : Keeps (Live.Travels W e.machine id column) (e.entering .null s) :=
    runActions_keeps _ fun a ha => enters .null s hmem a (Option.mem_toList.mp ha)
  have rest := entered.bind fun _ =>
    (entered_keeps effect .null hmem).bind fun _ => Keeps.pure true
  rw [left]
  exact rest m _ at_

end Commits

end Engine

/-! ## Runs -/

namespace Setting

variable {s : Setting} {m : Machine} {W : Live → Prop} {id : RecordId} {column : String}
  {G : Callback → Prop}

/-- A fire on an engine that lets `n` requests wait comes to commit `t`, and has reached `l'` by
then: either by itself, or user code that it called after a commit of its own fired an event that
does. -/
inductive CommitsIn (s : Setting) (m : Machine) (W : Live → Prop) (id : RecordId)
    (column : String) : Nat → Live → Transition → Live → Prop where
  | own {n : Nat} {ev : Event} {l l' : Live} {t : Transition} (hev : ev ∈ m.events)
    (h : (s.engineAt m n).ComesTo ev l t l') : CommitsIn s m W id column n l t l'
  | nested {n k : Nat} {ev : Event} {l l₁ l₂ l' : Live} {u t : Transition} (hev : ev ∈ m.events)
    (h : (s.engineAt m n).ComesTo ev l u l₁)
    (after : s.Conduct m W id (Live.stateNames column) n
      (((s.engineAt m n).commit u.target).final l₁) l₂)
    (hk : k < n) (inner : CommitsIn s m W id column k l₂ t l') : CommitsIn s m W id column n l t l'

/-- Some events that are fired one after the other, on engines that let any number of requests
wait. -/
def Fires (s : Setting) (m : Machine) : Live → Live → Prop :=
  Relation.ReflTransGen fun l l' => ∃ n, ∃ event : String,
    l' = ((s.engineAt m n).fire (.str event)).final l

section Users

variable (room : ∀ n, Live.Room W (s.engineAt m n) id column)
  (choice : ∀ n, (s.engineAt m n).ChoiceKeeps G (Live.Spares W id (Live.stateNames column)))
  (effect : ∀ n, (s.engineAt m n).EffectKeeps (s.Conduct m W id (Live.stateNames column) n))
include room choice effect

theorem effect_travels (n : Nat) : (s.engineAt m n).EffectKeeps (Live.Travels W m id column) := by
  induction n using Nat.strongRecOn with
  | ind n before =>
    have fires : ∀ k < n, ∀ event : String,
        Keeps (Live.Travels W m id column) ((s.engineAt m k).fire (.str event)) :=
      fun k hk event => Engine.fire_travels (room k) (choice k) (before k hk) event
    exact (effect n).mono fun _ _ h => h.within (fun _ _ hs => hs.travels) fires

theorem conduct_travels {n : Nat} {l l' : Live}
    (h : s.Conduct m W id (Live.stateNames column) n l l') : Live.Travels W m id column l l' :=
  h.within (fun _ _ hs => hs.travels) fun k _ event =>
    Engine.fire_travels (room k) (choice k) (effect_travels room choice effect k) event

/-- Wherever a commit happens, it departs from the source of its transition. -/
theorem CommitsIn.departs {n : Nat} {l l' : Live} {t : Transition}
    (h : s.CommitsIn m W id column n l t l') :
    ∀ c, l.IsAt W id column c → l'.value? id committedAttribute = .some t.source := by
  induction h with
  | own hev h =>
    intro c at_
    rw [(h.source (room _) at_).2]
    exact (h.isAt (room _) (choice _) hev at_).committed
  | @nested n _ _ _ _ _ _ _ _ hev h after hk _ ih =>
    intro c at_
    have at₁ := h.isAt (room n) (choice _) hev at_
    obtain ⟨d, hpicks⟩ := h.picks (room n) at_
    obtain ⟨_, hprep⟩ := hpicks.prepared
    obtain ⟨-, htarget, -, -⟩ := Engine.prepare_eq_some hprep
    obtain ⟨m', hcommit, at₂, -⟩ :=
      Engine.commit_isAt (room n).toPlot at₁.world d.next.name
    rw [htarget, Run.final_of_ok hcommit] at after
    obtain ⟨c', at₃, -⟩ := conduct_travels room choice effect after _ at₂
    exact ih c' at₃

theorem fires_travel {l l' : Live} (h : s.Fires m l l') : Live.Travels W m id column l l' := by
  induction h with
  | refl => exact refl_of _ l
  | tail _ step before =>
    obtain ⟨n, event, rfl⟩ := step
    have fired := Engine.fire_travels (room n) (choice n) (effect_travels room choice effect n) event
    exact trans_of _ before (fired _)

end Users

/-- What a fire comes to commit departs from the source of its transition if and only if nothing has
moved the record since its state was read. If user code does nothing before a commit that touches the
state, this is always so, in all events that are fired and in those that they fire, and a record
that was initialized moves along the edges of the machine. -/
theorem commits_along_edges (room : ∀ n, Live.Room W (s.engineAt m n) id column) :
    (∀ n ev c l t l', l.IsAt W id column c → (s.engineAt m n).ComesTo ev l t l' →
      (l'.value? id committedAttribute = .some t.source
        ↔ l'.value? id committedAttribute = l.value? id committedAttribute))
    ∧ ((∀ n, (s.engineAt m n).ChoiceKeeps G (Live.Spares W id (Live.stateNames column))) →
      (∀ n, (s.engineAt m n).EffectKeeps (s.Conduct m W id (Live.stateNames column) n)) →
      ∀ n st l₀ l, m.stateAt (.str m.config.initial) = .ok st → W l₀ →
        (s.engineAt m n).currentState.run l₀ = .ok .null l₀ →
        s.Fires m ((s.engineAt m n).start.final l₀) l →
          (∃ c, l.IsAt W id column c ∧ Relation.ReflTransGen m.Edge st.name c)
            ∧ ∀ k t l', s.CommitsIn m W id column k l t l' →
              l'.value? id committedAttribute = .some t.source) := by
  refine ⟨fun n ev c l t l' at_ h => h.source_iff (room n) at_, fun choice effect => ?_⟩
  intro n st l₀ l hst w fresh fires
  have travels := effect_travels room choice effect n
  have enters : ∀ event, ∀ s' ∈ m.states, ∀ a, s'.enter = .some a →
      Keeps (Live.Travels W m id column) ((s.engineAt m n).runAction event a) :=
    fun event s' hs a ha l => ((choice n).enters event s' hs a ha l).travels
  obtain ⟨c₁, at₁, path₁⟩ := Engine.start_travels (room n) enters travels w fresh hst
  obtain ⟨c, at_, path⟩ := fires_travel room choice effect fires c₁ at₁
  exact ⟨⟨c, at_, path₁.trans path⟩, fun k t l' h => h.departs room choice effect c at_⟩

end Setting

/-! ## A chain of events -/

/-- A machine that fires a second event as soon as the record has come to its second state. -/
def Machine.chained : Machine where
  config := { initial := "a" }
  states := [{ name := "a" },
    { name := "b", after := [.script (.step (.eval (.fire "m" "next")) .done)] }, { name := "c" }]
  events := [{ name := "go", transitions := [{ source := "a", target := "b" }] },
    { name := "next", transitions := [{ source := "b", target := "c" }] }]
  registry := .standard

def Scene.chained : Scene :=
  .plain {
      machine? := fun id => if id = 0 then .some Machine.chained else .none
      named? := fun name => if name = "m" then .some 0 else .none }
    .chained 0 (Live.stateNames "state")

theorem Scene.chained_isFit : Scene.chained.IsFit :=
  Scene.plain_isFit rfl fun h => absurd (Value.str.inj h) (by decide)

theorem Scene.chained_isTame : Machine.chained.IsTame Scene.chained where
  enters := by decide
  acts := by decide
  guards := by decide
  observers := by decide
  rules := rfl

theorem Scene.chained_room (n : Nat) :
    Live.Room Scene.chained.World (Scene.chained.setting.engineAt .chained n) 0 "state" :=
  Scene.plain_room Scene.chained_isFit rfl (by decide) rfl n

theorem commits_along_edges_chained :
    let e := Scene.chained.setting.engineAt .chained 3
    let l := (e.fire "go").final (e.start.final Live.blank)
    (∃ c, l.IsAt Scene.chained.World 0 "state" c ∧ Relation.ReflTransGen Machine.chained.Edge "a" c)
      ∧ ∀ k t l', Scene.chained.setting.CommitsIn .chained Scene.chained.World 0 "state" k l t l' →
        l'.value? 0 committedAttribute = .some t.source :=
  (Setting.commits_along_edges Scene.chained_room).2
    (fun n => Scene.choice Scene.chained_isFit (by decide) rfl (by decide) (by decide) n _)
    (fun n => (Scene.users Scene.chained_isFit (by decide) Scene.chained_isTame n).toEffectKeeps)
    3 { name := "a" } Live.blank _ rfl Scene.blank_plain (by rfl) (.single ⟨3, "go", rfl⟩)

end Lifecycle
