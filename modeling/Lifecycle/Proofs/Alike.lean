/-
Alike runs: what two engines do that nobody can tell apart.

Two runs are alike under a relation between their starts if they end alike: with
the same answer or the same stop, and with what they leave in the relation again
(`Run.Alike`). This passes from the parts of runs to the whole. Two engines whose
definitions answer every look-up alike (`Definition.Agrees`), and for which their
own steps (`Engine.OwnAlike`) and all that others do for them
(`Engine.UsersAlike`) are alike, fire and start alike, whatever sequence of turns
they take (`Engine.turns_alike`).

User code may fire events in turn. That it is alike then follows by induction on
how many requests may wait (`Setting.take_alike_of_before`).
-/
import Lifecycle.Proofs.Conduct
import Lifecycle.Proofs.Firable
import Lifecycle.Proofs.Observers

namespace Lifecycle

namespace Run

variable {α β : Type} {R : Live → Live → Prop}

/-- Two runs ended alike. -/
inductive EndAlike (R : Live → Live → Prop) :
    EStateM.Result Stop Live α → EStateM.Result Stop Live α → Prop where
  | ok {a : α} {l l' : Live} (h : R l l') : EndAlike R (.ok a l) (.ok a l')
  | error {stop : Stop} {l l' : Live} (h : R l l') : EndAlike R (.error stop l) (.error stop l')

theorem EndAlike.refl (h : ∀ l, R l l) : ∀ r : EStateM.Result Stop Live α, EndAlike R r r
  | .ok _ l => .ok (h l)
  | .error _ l => .error (h l)

/-- How a run ends. -/
def ending (c : Run α) (l : Live) : Except Stop α :=
  match c.run l with
  | .ok a _ => .ok a
  | .error stop _ => .error stop

theorem ending_of_ok {x : Run α} {a : α} {l l' : Live} (h : x.run l = .ok a l') :
    x.ending l = .ok a := by
  rw [ending, h]

theorem EndAlike.ending {x y : Run α} {l l' : Live} (h : EndAlike R (x.run l) (y.run l')) :
    x.ending l = y.ending l' := by
  unfold Run.ending
  generalize x.run l = r, y.run l' = r' at h ⊢
  cases h <;> rfl

theorem EndAlike.final {x y : Run α} {l l' : Live} (h : EndAlike R (x.run l) (y.run l')) :
    R (x.final l) (y.final l') := by
  unfold Run.final
  generalize x.run l = r, y.run l' = r' at h ⊢
  cases h <;> assumption

/-- From starts that are related two runs end alike. -/
def Alike (R : Live → Live → Prop) (x y : Run α) : Prop :=
  ∀ l l', R l l' → EndAlike R (x.run l) (y.run l')

variable {x y : Run α} {f g : α → Run β}

theorem EndAlike.bind_of {l l' : Live} (hx : EndAlike R (x.run l) (y.run l'))
    (hf : ∀ a m, x.run l = .ok a m → Alike R (f a) (g a)) :
    EndAlike R ((x >>= f).run l) ((y >>= g).run l') := by
  generalize hl : x.run l = r, hl' : y.run l' = r' at hx
  cases hx with
  | ok h =>
    rw [run_bind_ok hl, run_bind_ok hl']
    exact hf _ _ hl _ _ h
  | error h =>
    rw [run_bind_error hl, run_bind_error hl']
    exact .error h

namespace Alike

theorem pure (a : α) : Alike R (pure a : Run α) (pure a) := fun _ _ h => .ok h

theorem throw (stop : Stop) : Alike R (throw stop : Run α) (throw stop) := fun _ _ h => .error h

theorem fail (f : Fault) : Alike R (Run.fail f : Run α) (Run.fail f) := .throw _

theorem lift {r r' : Except Fault α} (same : r = r') : Alike R (Run.lift r) (Run.lift r') := by
  subst same
  cases r with
  | ok a => exact .pure a
  | error f => exact .fail f

/-- What follows has to be alike only for the answers that the first part can give. -/
theorem bind_of (hx : Alike R x y)
    (hf : ∀ l a m, x.run l = .ok a m → Alike R (f a) (g a)) : Alike R (x >>= f) (y >>= g) :=
  fun l l' h => (hx l l' h).bind_of (hf l)

theorem bind (hx : Alike R x y) (hf : ∀ a, Alike R (f a) (g a)) : Alike R (x >>= f) (y >>= g) :=
  hx.bind_of fun _ a _ _ => hf a

/-- A condition that is the same for both decides between what is alike. -/
theorem ite {p : Prop} [Decidable p] {x' y' : Run α} (yes : Alike R x y) (no : Alike R x' y') :
    Alike R (if p then x else x') (if p then y else y') := by
  split
  · exact yes
  · exact no

end Alike

end Run

open Run (Alike EndAlike)

/-- Two definitions answer every look-up alike, and have one configuration and the same
observers. -/
structure Definition.Agrees (d d' : Definition) : Prop where
  config : d.config = d'.config
  states : ∀ name, d.state? name = d'.state? name
  events : ∀ name, d.event? name = d'.event? name
  observers : d.observers = d'.observers

namespace Definition.Agrees

variable {d d' : Definition}

theorem refl (d : Definition) : d.Agrees d := ⟨rfl, fun _ => rfl, fun _ => rfl, rfl⟩

theorem stateAt (h : d.Agrees d') (key : Value) : d.stateAt key = d'.stateAt key := by
  cases key with
  | str name => simp only [Definition.stateAt, h.states]
  | _ => rfl

theorem eventNamed (h : d.Agrees d') (name : Value) : d.eventNamed name = d'.eventNamed name := by
  simp only [Definition.eventNamed, h.events]

theorem knows (h : d.Agrees d') (v : Value) : d.knows v = d'.knows v := by
  cases v with
  | str name => simp only [Definition.knows, declares, h.states]
  | _ => rfl

theorem checkCurrent (h : d.Agrees d') (v : Value) : d.checkCurrent v = d'.checkCurrent v := by
  simp only [Definition.checkCurrent, h.knows]

end Definition.Agrees

namespace Engine

/-- What two engines do by themselves is alike. -/
structure OwnAlike (R : Live → Live → Prop) (e e' : Engine) : Prop where
  watches : ∀ entry, Alike R (e.watch entry) (e'.watch entry)
  reads : Alike R e.currentState e'.currentState
  stamps : ∀ s ∈ e.machine.states, Alike R (e.stampExit s.name) (e'.stampExit s.name)
  commits : ∀ s ∈ e.machine.states, Alike R (e.commit (.str s.name)) (e'.commit (.str s.name))
  rollbacks : Alike R e.rollback e'.rollback
  notifies : ∀ args, ∀ o ∈ e.machine.observers, Alike R (e.heed args o) (e'.heed args o) →
    Alike R (e.notifyOne args o) (e'.notifyOne args o)

/-- The single steps of which that is made are alike. -/
structure StepsAlike (R : Live → Live → Prop) (e e' : Engine) : Prop where
  config : e.machine.config = e'.machine.config
  watches : ∀ entry, Alike R (e.watch entry) (e'.watch entry)
  reads : Alike R e.currentState e'.currentState
  shows : ∀ s ∈ e.machine.states, Alike R (e.host.setAttr e.machine.config.column (.str s.name))
    (e'.host.setAttr e.machine.config.column (.str s.name))
  remembers : ∀ s ∈ e.machine.states,
    Alike R (e.host.setAttr (.str committedAttribute) (.str s.name))
      (e'.host.setAttr (.str committedAttribute) (.str s.name))
  sets : ∀ s ∈ e.machine.states, ∀ field ∈ s.stampFields, ∀ v,
    Alike R (e.host.setAttr (.str field) v) (e'.host.setAttr (.str field) v)
  has : ∀ s ∈ e.machine.states, ∀ field ∈ s.stampFields,
    Alike R (e.host.hasAttr (.str field)) (e'.host.hasAttr (.str field))
  lacks : ∀ s ∈ e.machine.states, ∀ field ∈ s.stampFields,
    Alike R (do return (← e.host.require (.str field)).isNull)
      (do return (← e'.host.require (.str field)).isNull)
  ticks : ∀ field, Alike R (e.stamp field) (e'.stamp field)
  rollbacks : Alike R e.rollback e'.rollback
  notifies : ∀ args, ∀ o ∈ e.machine.observers, Alike R (e.heed args o) (e'.heed args o) →
    Alike R (e.notifyOne args o) (e'.notifyOne args o)

/-- What others do for two engines is alike. -/
structure UsersAlike (R : Live → Live → Prop) (e e' : Engine) : Prop where
  checks : ∀ ev ∈ e.machine.events, Alike R (e.check (.str ev.name)) (e'.check (.str ev.name))
  guards : ∀ ev ∈ e.machine.events, ∀ g ∈ ev.guards, Alike R
    (do e.host.truth (← e.runAction (.str ev.name) g))
    (do e'.host.truth (← e'.runAction (.str ev.name) g))
  acts : ∀ event, ∀ s ∈ e.machine.states, ∀ a ∈ s.enter.toList ++ (s.after ++ s.exit.toList),
    Alike R (e.runAction event a) (e'.runAction event a)
  observers : ∀ args, (∀ v ∈ args, v.isState = true) → ∀ o ∈ e.machine.observers,
    Alike R (e.heed args o) (e'.heed args o)

variable {R : Live → Live → Prop} {e e' : Engine}

/-! ## Own steps -/

/-- An observer that answers is heeded alike if it is called alike. -/
theorem heed_alike_of_answers {args : List Value} {o : Callback} {l l' : Live}
    (called : EndAlike R ((o.call e.host args).run l) ((o.call e'.host args).run l'))
    (answers : ∃ v m, (o.call e.host args).run l = .ok v m) :
    EndAlike R ((e.heed args o).run l) ((e'.heed args o).run l') := by
  obtain ⟨v, m, answered⟩ := answers
  rw [answered] at called
  generalize other : (o.call e'.host args).run l' = r at called
  cases called with
  | ok h =>
    rw [heed_run_answered answered, heed_run_answered other]
    exact .ok h

namespace StepsAlike

variable (steps : e.StepsAlike R e')
include steps

theorem commit {s : State} (hs : s ∈ e.machine.states) :
    Alike R (e.commit (.str s.name)) (e'.commit (.str s.name)) := by
  rw [Engine.commit, Engine.commit, ← steps.config]
  exact (steps.watches _).bind fun _ => (steps.shows s hs).bind fun _ => steps.remembers s hs

section Stamps

variable {s : State} (hs : s ∈ e.machine.states) {field : String} (hf : field ∈ s.stampFields)
include hs hf

theorem stampField : Alike R (do let v ← e.stamp (.str field); e.host.setAttr (.str field) v)
    (do let v ← e'.stamp (.str field); e'.host.setAttr (.str field) v) :=
  (steps.ticks _).bind fun v => steps.sets s hs field hf v

theorem stampAlways : Alike R (e.stampAlways (.str field)) (e'.stampAlways (.str field)) := by
  refine (steps.watches _).bind fun _ => (steps.has s hs field hf).bind fun _ => ?_
  exact .ite (steps.stampField hs hf) (.pure ())

theorem stampAbsent : Alike R (e.stampAbsent (.str field)) (e'.stampAbsent (.str field)) := by
  refine (steps.watches _).bind fun _ => (steps.has s hs field hf).bind fun _ => ?_
  refine .ite ?_ (.pure ())
  have filled := (steps.lacks s hs field hf).bind fun isNull =>
    (steps.stampField hs hf).ite (p := isNull = true) (.pure ())
  simpa only [bind_assoc, pure_bind] using filled

omit hf in
theorem stampExit : Alike R (e.stampExit s.name) (e'.stampExit s.name) := by
  rw [Engine.stampExit, Engine.stampExit, ← steps.config]
  refine .ite ?_ (.pure ())
  refine (steps.stampAbsent hs (by simp [State.stampFields])).bind fun _ => ?_
  refine (steps.stampAbsent hs (by simp [State.stampFields])).bind fun _ => ?_
  refine (steps.stampAlways hs (by simp [State.stampFields])).bind fun _ => ?_
  exact steps.stampAlways hs (by simp [State.stampFields])

end Stamps

theorem ownAlike : e.OwnAlike R e' where
  watches := steps.watches
  reads := steps.reads
  stamps _ hs := steps.stampExit hs
  commits _ hs := steps.commit hs
  rollbacks := steps.rollbacks
  notifies := steps.notifies

end StepsAlike

variable (own : e.OwnAlike R e')
  (agrees : e.machine.Agrees e'.machine.toDefinition) (users : e.UsersAlike R e')

/-! ## Transitions -/

section Transitions

variable {ev : Event} (hev : ev ∈ e.machine.events)

include own users hev in
theorem allows_alike {t : Transition} (ht : t ∈ ev.transitions) :
    Alike R (e.allows (.str ev.name) t) (e'.allows (.str ev.name) t) := by
  have valid : Alike R (e.isValid (.str ev.name)) (e'.isValid (.str ev.name)) :=
    (users.checks ev hev).bind fun result => (own.watches _).bind fun _ => .pure result
  refine valid.bind fun isValid => .ite ?_ (.pure false)
  cases hg : t.guard with
  | none => exact .pure true
  | some g => exact users.guards ev hev g (Event.guard_mem ht hg)

include users in
theorem runActions_alike {s : State} (hs : s ∈ e.machine.states) (event : Value) :
    ∀ as : List Callback, (∀ a ∈ as, a ∈ s.enter.toList ++ (s.after ++ s.exit.toList)) →
      Alike R (e.runActions event as) (e'.runActions event as)
  | [], _ => .pure ()
  | a :: as, h =>
    (users.acts event s hs a (h a (.head _))).bind fun _ =>
      runActions_alike hs event as fun b hb => h b (.tail _ hb)

include agrees in
/-- What follows the look-up of a state has to be alike for declared states only. -/
theorem lift_stateAt_alike {α : Type} {key : Value} {f g : State → Run α}
    (hf : ∀ s ∈ e.machine.states, key = .str s.name → Alike R (f s) (g s)) :
    Alike R (Run.lift (e.machine.stateAt key) >>= f) (Run.lift (e'.machine.stateAt key) >>= g) := by
  rw [← agrees.stateAt]
  cases h : e.machine.stateAt key with
  | error fault => exact .fail fault
  | ok s =>
    obtain ⟨hs, hkey⟩ := Definition.stateAt_eq_ok h
    exact hf s hs hkey

include own agrees users in
theorem move_alike (event : Value) (t : Transition) :
    Alike R (e.move event t) (e'.move event t) := by
  refine own.reads.bind fun current => lift_stateAt_alike agrees fun next hnext target => ?_
  refine lift_stateAt_alike agrees fun old hold _ => (own.stamps old hold).bind fun _ => ?_
  have commits := own.commits next hnext
  rw [← target] at commits
  refine .ite commits ?_
  refine (runActions_alike users hnext event _ fun a ha => by simp [ha]).bind fun _ => ?_
  refine commits.bind fun _ => ?_
  refine (runActions_alike users hnext event _ fun a ha => by simp [ha]).bind fun _ => ?_
  exact runActions_alike users hold event _ fun a ha => by simp [ha]

include own agrees users hev in
theorem performFirst_alike : ∀ ts : List Transition, (∀ t ∈ ts, t ∈ ev.transitions) →
    Alike R (e.performFirst (.str ev.name) ts) (e'.performFirst (.str ev.name) ts)
  | [], _ => .pure false
  | t :: ts, h => by
    rw [performFirst_cons, performFirst_cons]
    refine (allows_alike own users hev (h t (.head _))).bind fun allowed => .ite ?_ ?_
    · exact (move_alike own agrees users _ t).bind fun _ => .pure true
    · exact performFirst_alike ts fun u hu => h u (.tail _ hu)

end Transitions

/-! ## Events -/

include own in
theorem nextTransitions_alike (ev : Event) :
    Alike R (e.nextTransitions ev) (e'.nextTransitions ev) :=
  own.reads.bind fun _ => .pure _

include own agrees users

theorem fireEvent_alike {ev : Event} (hev : ev ∈ e.machine.events) :
    Alike R (e.fireEvent ev) (e'.fireEvent ev) := by
  refine (nextTransitions_alike own ev).bind_of fun l candidates m h => ?_
  obtain ⟨current, _, -, hts⟩ := Run.run_bind_eq_ok.mp h
  cases hts
  exact performFirst_alike own agrees users hev _ fun t ht => (Event.mem_of_leaving ht).1

omit agrees in
theorem notify_alike {args : List Value} (states : ∀ v ∈ args, v.isState = true) :
    ∀ os : List Callback, (∀ o ∈ os, o ∈ e.machine.observers) →
      Alike R (e.notify args os) (e'.notify args os)
  | [], _ => .pure ()
  | o :: os, h =>
    (own.notifies args o (h o (.head _)) (users.observers args states o (h o (.head _)))).bind
      fun _ => notify_alike states os fun p hp => h p (.tail _ hp)

theorem fire_alike (name : String) : Alike R (e.fire (.str name)) (e'.fire (.str name)) := by
  rw [fire_eq, fire_eq, ← agrees.eventNamed]
  cases found : e.machine.eventNamed (.str name) with
  | error fault => exact .fail fault
  | ok ev =>
    have hev := Definition.eventNamed_eq_ok found
    refine own.reads.bind_of fun _ old _ hold =>
      (fireEvent_alike own agrees users hev).bind fun moved => ?_
    refine .ite (own.reads.bind_of fun _ new _ hnew => ?_) (own.rollbacks.bind fun _ => .pure false)
    have states : ∀ v ∈ [.str ev.name, old, new], v.isState = true := by
      intro v hv
      rcases List.mem_cons.mp hv with rfl | hv
      · rfl
      rcases List.mem_cons.mp hv with rfl | hv
      · exact isState_of_currentState hold
      · exact List.mem_singleton.mp hv ▸ isState_of_currentState hnew
    rw [← agrees.observers]
    exact (notify_alike own users states _ fun _ ho => ho).bind fun _ => .pure true

omit users in
theorem declaredState_alike : Alike R e.declaredState e'.declaredState :=
  own.reads.bind fun current => .lift (agrees.checkCurrent current)

theorem start_alike : Alike R e.start e'.start := by
  refine (declaredState_alike own agrees).bind fun current => ?_
  cases current with
  | null =>
    dsimp only
    rw [← agrees.config]
    refine lift_stateAt_alike agrees fun s hs _ => ?_
    refine (own.commits s hs).bind fun _ => ?_
    refine (runActions_alike users hs _ _ fun a ha => by simp [ha]).bind fun _ => ?_
    exact (runActions_alike users hs _ _ fun a ha => by simp [ha]).bind fun _ => .pure true
  | _ => exact .pure false

end Engine

/-! ## Turns -/

/-- What an engine can be asked to do with a record. -/
inductive Turn where
  | start
  | fire (event : String)
  deriving Repr, DecidableEq, Inhabited

namespace Engine

def take (e : Engine) : Turn → Run Bool
  | .start => e.start
  | .fire event => e.fire (.str event)

/-- How some turns end, each taken whatever became of those before it. -/
def endings (e : Engine) : List Turn → Live → List (Except Stop Bool)
  | [], _ => []
  | t :: ts, l => (e.take t).ending l :: e.endings ts ((e.take t).final l)

/-- What they leave. -/
def afterTurns (e : Engine) (ts : List Turn) (l : Live) : Live :=
  ts.foldl (fun l t => (e.take t).final l) l

variable {R : Live → Live → Prop} {e e' : Engine}

/-- Where each turn is alike, so are any number of them. -/
theorem turns_alike (turns : ∀ t, Alike R (e.take t) (e'.take t)) :
    ∀ (ts : List Turn) {l l' : Live}, R l l' →
      e.endings ts l = e'.endings ts l' ∧ R (e.afterTurns ts l) (e'.afterTurns ts l')
  | [], _, _, h => ⟨rfl, h⟩
  | t :: ts, l, l', h => by
    have first := turns t l l' h
    obtain ⟨rest, last⟩ := turns_alike turns ts first.final
    exact ⟨congrArg₂ List.cons first.ending rest, last⟩

theorem take_alike (own : e.OwnAlike R e') (agrees : e.machine.Agrees e'.machine.toDefinition)
    (users : e.UsersAlike R e') : ∀ t, Alike R (e.take t) (e'.take t)
  | .start => start_alike own agrees users
  | .fire event => fire_alike own agrees users event

end Engine

namespace Setting

variable {R : Live → Live → Prop} {s s' : Setting} {m m' : Machine}

/-- What is alike as long as the turns are that it asks for is alike however deep these are nested,
and so are all turns. -/
theorem take_alike_of_before (agrees : m.Agrees m'.toDefinition)
    (alike : ∀ n, (∀ k < n, ∀ t, Alike R ((s.engineAt m k).take t) ((s'.engineAt m' k).take t)) →
      (s.engineAt m n).OwnAlike R (s'.engineAt m' n)
        ∧ (s.engineAt m n).UsersAlike R (s'.engineAt m' n)) (n : Nat) :
    ∀ t, Alike R ((s.engineAt m n).take t) ((s'.engineAt m' n).take t) := by
  induction n using Nat.strongRecOn with
  | ind n before => exact Engine.take_alike (alike n before).1 agrees (alike n before).2

end Setting

end Lifecycle
