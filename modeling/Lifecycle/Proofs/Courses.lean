/-
Courses: how a fire goes, for any relation that all others keep.

Where others keep a preorder, in what they do for the engine and in what they say of
what it reads (`Engine.OthersKeep`), the fire has left things related to what it found
when its candidates have come to something (`Engine.fire_cases`), and what follows
depends on that alone. If one has passed, the engine reads where the record is and takes
the steps of the move (`Engine.move_cases`): first those on the way to the commit, then
the commit and those behind it (`Machine.strides_eq`).
-/
import Lifecycle.Proofs.Choosing

namespace Lifecycle

open Run (Keeps)

namespace Machine

/-- The steps of a transition before its commit. -/
def approachStrides (m : Machine) (old next : State) : List Stride :=
  m.stampStrides old ++ if old.name = next.name then [] else next.enter.toList.map .act

/-- The steps behind it. -/
def departStrides (old next : State) : List Stride :=
  if old.name = next.name then [] else (next.after ++ old.exit.toList).map .act

theorem strides_eq (m : Machine) (old next : State) : m.strides old next
    = m.approachStrides old next ++ (commitStrides next.name ++ departStrides old next) := by
  rw [strides, moveStrides, approachStrides, departStrides]
  split <;> simp

end Machine

namespace Engine

theorem walk_keeps {e : Engine} {P : Live → Live → Prop} [IsPreorder Live P] {event : Value} :
    ∀ {ss : List Stride}, (∀ s ∈ ss, Keeps P (e.stride event s)) → Keeps P (e.walk event ss)
  | [], _ => Keeps.pure ()
  | _ :: _, each =>
    (each _ (.head _)).bind fun _ => walk_keeps fun s hs => each s (.tail _ hs)

/-- Where the way breaks off before some steps, it does with them. -/
theorem Trips.append_right {e : Engine} {event : Value} {ss : List Stride} {l l' : Live}
    {stop : Stop} (h : e.Trips event ss l stop l') (more : List Stride) :
    e.Trips event (ss ++ more) l stop l' := by
  obtain ⟨done, s, rest, m, rfl, walks, stops⟩ := h
  exact ⟨done, s, rest ++ more, m, by simp, walks, stops⟩

/-- A move reads where the record is and takes its steps, or it stops before the first. -/
theorem move_cases (e : Engine) (event : Value) (t : Transition) (l : Live) :
    (∃ stop, (e.move event t).run l = .error stop (e.currentState.final l))
      ∨ ∃ current m old next, e.currentState.run l = .ok current m
        ∧ e.machine.stateAt current = .ok old ∧ e.machine.stateAt t.target = .ok next
        ∧ (e.move event t).run l = (e.walk event (e.machine.strides old next)).run m := by
  cases read : e.currentState.run l with
  | error stop m =>
    rw [Run.final_of_error read]
    exact .inl ⟨stop, Run.run_bind_error read _⟩
  | ok current m =>
    cases target : e.machine.stateAt t.target with
    | error f =>
      refine .inl ⟨.fault f, ?_⟩
      rw [Run.final_of_ok read, move, Run.run_bind_ok read, target]
      rfl
    | ok next =>
      cases source : e.machine.stateAt current with
      | error f =>
        refine .inl ⟨.fault f, ?_⟩
        rw [Run.final_of_ok read, move, Run.run_bind_ok read, target, source]
        rfl
      | ok old => exact .inr ⟨current, m, old, next, rfl, source, rfl, move_run read source target⟩

/-- What others do for the engine stays within `P`, where they are asked for a text of what the
column holds too. -/
structure OthersKeep (e : Engine) (P : Live → Live → Prop) : Prop
    extends e.UserKeeps (fun g => ∃ ev ∈ e.machine.events, g ∈ ev.guards) P where
  reads : Keeps P e.currentState

section Others

variable {e : Engine} {P : Live → Live → Prop} [IsPreorder Live P] (others : e.OthersKeep P)
include others

omit [IsPreorder Live P] in
theorem OthersKeep.act {s : State} (hs : s ∈ e.machine.states) {a : Callback}
    (ha : a ∈ s.enter.toList ++ (s.after ++ s.exit.toList)) (event : Value) :
    Keeps P (e.runAction event a) := by
  obtain enter | behind := List.mem_append.mp ha
  · exact others.enters event s hs a (Option.mem_toList.mp enter)
  · exact others.acts event s hs a behind

variable (notes : ∀ entry, Keeps P (Run.note entry)) {ev : Event}
include notes

theorem OthersKeep.considers (hev : ev ∈ e.machine.events) {event v : Value} {l l' : Live}
    {r : Except Stop (Option Transition)} (h : e.Considers event (ev.leaving v) l r l') :
    P l l' := by
  refine h.keeps (isValid_keeps notes (others.checks event)) fun t mem => ?_
  rw [guardPasses]
  cases guard : t.guard with
  | none => exact Keeps.pure true
  | some g =>
    have among := Event.guard_mem (Event.mem_of_leaving mem).1 guard
    exact others.guards event g ⟨ev, hev, among⟩

/-- What follows a move. -/
theorem OthersKeep.tells (name old : Value) : Keeps P (do
    let new ← e.currentState
    e.notify [name, old, new] e.machine.observers
    return true : Run Bool) :=
  others.reads.bind fun _ =>
    (notify_keeps notes others.toEffectKeeps _ _ fun _ ho => ho).bind fun _ => Keeps.pure true

/-- A fire stops where the record cannot be read, or it comes to what its candidates come to. -/
theorem fire_cases {name : String} (found : e.machine.event? name = .some ev) (l : Live) :
    (∃ stop m, (e.fire (.str name)).run l = .error stop m ∧ P l m)
      ∨ ∃ old v m n r k, e.currentState.run l = .ok old m ∧ e.currentState.run m = .ok v n
        ∧ e.Considers (.str ev.name) (ev.leaving v) n r k ∧ P l k
        ∧ (e.fire (.str name)).run l = (e.conclude ev old r).run k := by
  have fired : (e.fire (.str name)).run l = (e.fireFound ev).run l := by
    rw [fire_eq, Definition.eventNamed_of_some found]
    exact Run.run_bind_ok (Run.run_lift_ok ev l) _
  have first := others.reads l
  cases before : e.currentState.run l with
  | error stop m =>
    rw [Run.final_of_error before] at first
    exact .inl ⟨stop, m, fired.trans (Run.run_bind_error before _), first⟩
  | ok old m =>
    rw [Run.final_of_ok before] at first
    have second := others.reads m
    cases shown : e.currentState.run m with
    | error stop n =>
      rw [Run.final_of_error shown] at second
      refine .inl ⟨stop, n, fired.trans ((Run.run_bind_ok before _).trans ?_),
        trans_of P first second⟩
      exact Run.run_bind_error (Run.run_bind_error (Run.run_bind_error shown _) _) _
    | ok v n =>
      rw [Run.final_of_ok shown] at second
      obtain ⟨r, k, considered⟩ := considers_total e (.str ev.name) (ev.leaving v) n
      have chosen := others.considers notes (List.mem_of_find?_eq_some found) considered
      exact .inr ⟨old, v, m, n, r, k, rfl, shown, considered,
        trans_of P (trans_of P first second) chosen,
        fire_of_considers found before shown considered⟩

end Others

/-- Where others change nothing in a quiet world, they keep all that is kept by that, whatever is in
hand. -/
theorem OthersKeep.of_idle {e : Engine} {P : Live → Live → Prop} {W : Live → Prop} {id : RecordId}
    (ground : Live.Ground W e.machine id) (quiet : ∀ {l}, W l → l.Quiet)
    (free : ∀ {l l' : Live}, (W l → ∃ held, l' = { l with held }) → P l l')
    (checks : ∀ event l, W l → (e.check event).Idle l)
    (guards : ∀ ev ∈ e.machine.events, ∀ g ∈ ev.guards, ∀ event l, W l →
      (do e.host.truth (← e.runAction event g) : Run Bool).Idle l)
    (acts : ∀ s ∈ e.machine.states, ∀ a ∈ s.enter.toList ++ (s.after ++ s.exit.toList), ∀ event l,
      W l → (e.runAction event a).Idle l)
    (observers : ∀ args, ∀ o ∈ e.machine.observers, ∀ l, W l → (o.call e.host args).Idle l) :
    e.OthersKeep P := by
  have idle {l l' : Live} (same : W l → l' = l) : P l l' := free fun w => ⟨l.held, same w⟩
  exact {
    covers ev hev g hg := ⟨ev, hev, hg⟩
    checks event l := idle (checks event l)
    guards event g among l := by
      obtain ⟨ev, hev, hg⟩ := among
      exact idle (guards ev hev g hg event l)
    enters event s hs a ha l := idle (acts s hs a (by simp [ha]) event l)
    acts event s hs a ha l := idle (acts s hs a (List.mem_append_right _ ha) event l)
    observers args o ho l := idle (observers args o ho l)
    reports stop _ l := idle fun w => Host.message_idle (quiet w) stop
    partings l m := free fun w => Host.parted_eq (quiet w).lasting
    reads l := idle fun w => currentState_idle (ground.plain w) (quiet w) }

/-- So it is with a machine whose one guard refuses. -/
theorem picky_others {P : Live → Live → Prop}
    (free : ∀ {l l' : Live}, ((Scene.picky []).World l → ∃ held, l' = { l with held }) → P l l') :
    (picky []).OthersKeep P := by
  refine .of_idle (Scene.picky_room []).toGround (Scene.quiet_of_fit (Scene.picky_isFit [])) free
    (fun event l w => ?_)
    (fun ev hev g hg event l w => ?_) (fun s hs a ha => ?_) (fun args o ho => by cases ho)
  · exact Run.final_of_ok (Scene.check_run (Scene.picky_isFit []) (.head _) rfl 3 event w)
  · obtain rfl : g = .refuse := by
      obtain rfl | hev := List.mem_cons.mp hev
      · exact List.mem_singleton.mp hg
      · obtain rfl := List.mem_singleton.mp hev
        cases hg
    exact Run.final_of_ok (picky_refuses [] (picky_lasting [] w) event "a" "a")
  · have none : ∀ s ∈ (Machine.picky []).states,
        s.enter.toList ++ (s.after ++ s.exit.toList) = [] := by decide
    rw [none s hs] at ha
    cases ha

end Engine

end Lifecycle
