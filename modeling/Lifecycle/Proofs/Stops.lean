/-
Stops: in what ways the engine can stop.

The engine itself has few ways to stop (`Engine.OwnStop`): the column holds
something that is not written, which is a number with too many digits unless some
class has a say in it, the record refuses a write, or the clock has no reading.
Its steps stop in no other way, and neither does anything that it does for others
that they do not stop (`Engine.UsersBehave`).
-/
import Lifecycle.Proofs.World

namespace Lifecycle

namespace Live

/-- A world in which the record itself holds the machine's column. -/
structure Home (W : Live → Prop) (e : Engine) (id : RecordId) (column : String) : Prop
    extends World W e id where
  held : e.machine.config.column = .str column
  own : ∀ {l}, W l → l.IsOrdinary id column

end Live

namespace Engine

open Run (Behaves)

/-- The ways in which the engine itself can stop. -/
inductive OwnStop (e : Engine) (W : Live → Prop) : Stop → Prop where
  /-- The column holds something that is not written. -/
  | unreadable {l : Live} {stop : Stop} (w : W l)
    (h : e.currentState.run l = .error stop l) : OwnStop e W stop
  /-- The record refuses a value under a name that the machine writes. -/
  | refused {l : Live} {name : String} {v : Value} {f : Fault} (w : W l)
    (writes : e.machine.Writes name)
    (h : (e.host.setAttr (.str name) v).run l = .error (.fault f) l) : OwnStop e W (.fault f)
  | clockless {reads : Nat}
    (h : e.clock.reading? e.machine.config.utc.truthy reads = .none) :
    OwnStop e W (.fault .positionMissing)

/-- Where all that the machine writes is open and the clock has readings, the engine stops only
where the column cannot be read. -/
theorem OwnStop.unread_of_open {e : Engine} {W : Live → Prop} {id : RecordId}
    (ground : Live.Ground W e.machine id)
    (isOpen : ∀ l name, W l → e.machine.Writes name → l.IsOpen id name)
    (clock : ∀ reads, (e.clock.reading? e.machine.config.utc.truthy reads).isSome = true)
    {stop : Stop} (h : e.OwnStop W stop) : ∃ l, W l ∧ e.currentState.run l = .error stop l := by
  cases h with
  | unreadable w h => exact ⟨_, w, h⟩
  | @refused l name v f w writes h =>
    have done := Host.setAttr_run_open (h := e.host) (ground.plain w) (isOpen l name w writes) v
    cases done.symm.trans h
  | @clockless reads h =>
    have reading := clock reads
    rw [h] at reading
    cases reading

/-! ## The engine's own steps -/

section Own

variable {e : Engine} {W : Live → Prop} {id : RecordId} {column : String}
  (home : Live.Home W e id column)
include home

theorem watch_behaves (entry : Entry) : Behaves W W (e.OwnStop W) (e.watch entry) := by
  intro l w
  obtain ⟨log, watched⟩ := watch_run e entry l
  rw [Run.Ends, watched]
  exact .ok (home.noted log w)

theorem currentState_behaves : Behaves W W (e.OwnStop W) e.currentState := by
  intro l w
  have idle : e.currentState.Idle l := home.reads w
  cases h : e.currentState.run l with
  | ok v l' =>
    obtain rfl : l' = l := idle.eq_of_ok h
    rw [Run.Ends, h]
    exact .ok w
  | error stop l' =>
    obtain rfl : l' = l := (Run.final_of_error h).symm.trans idle
    rw [Run.Ends, h]
    exact .error w (.unreadable w h)

/-- Where no class has a say in how values are written, only numbers are not written. -/
theorem stop_of_currentState {l : Live} (w : W l) (quiet : l.Quiet) {stop : Stop} {l' : Live}
    (h : e.currentState.run l = .error stop l') : stop = .fault .digitsExceeded := by
  have read := Host.attr_run_ordinary (h := e.host) (home.plain w) (home.own w)
  have shown (v : Value) : Behaves (· = l) (· = l) Stop.IsTooLong (e.host.asState v) :=
    Host.asState_behaves (W := (· = l)) (fun at_ => at_ ▸ quiet) v
  rw [currentState, home.held, Run.run_bind_ok read] at h
  have ended := shown ((l.value? id column).getD .null) l rfl
  rw [Run.Ends, h] at ended
  exact ended.stops

theorem hasAttr_answers {name : String} (ordinary : ∀ l, W l → l.IsOrdinary id name) :
    ∀ l, W l → ∃ b, (e.host.hasAttr (.str name)).run l = .ok b l :=
  fun l w => ⟨_, Host.hasAttr_run_ordinary (home.plain w) (ordinary l w)⟩

theorem setAttr_ends {name : String} {v : Value} {l : Live} (w : W l)
    (ordinary : l.IsOrdinary id name) (puts : e.machine.Puts name v) :
    (e.host.setAttr (.str name) v).Ends l (Run.Behaved W (e.OwnStop W)) := by
  rcases Host.setAttr_run_ordinary (h := e.host) (home.plain w) ordinary v with ⟨ho, h⟩ | ⟨f, h⟩
  · rw [Run.Ends, h]
    exact .ok (home.written w puts ho)
  · rw [Run.Ends, h]
    exact .error w (.refused w puts.writes h)

theorem commit_behaves (s : String) : Behaves W W (e.OwnStop W) (e.commit (.str s)) := by
  have names (l : Live) (w : W l) := (home.plain w).names _ committedAttribute_not_taken
  refine (watch_behaves home _).bind fun _ => ?_
  have column : Behaves W W (e.OwnStop W) (e.host.setAttr e.machine.config.column (.str s)) := by
    rw [home.held]
    exact fun l w => setAttr_ends home w (home.own w) (.column home.held s)
  exact column.bind fun _ l w => setAttr_ends home w (names l w) (.committed s)

section Stamps

variable {s : State} (hs : s ∈ e.machine.states)
include hs

theorem stamp_behaves {field : String} (hf : field ∈ s.stampFields) :
    Behaves W W (e.OwnStop W) (do
      let v ← e.stamp (.str field)
      e.host.setAttr (.str field) v) := by
  have names (l : Live) (w : W l) := (home.plain w).names _ (State.stampField_not_taken hf)
  have read : Behaves W W (e.OwnStop W) (e.stamp (.str field)) := by
    intro l w
    refine Run.Ends.bind_ok (Run.run_get l) ?_
    split
    · next h => exact .error w (.clockless h)
    · exact .ok (home.ticked _ w)
  exact read.bind fun v l w => setAttr_ends home w (names l w) (.stamp hs hf v)

theorem stampAbsent_behaves {field : String} (hf : field ∈ s.stampFields) :
    Behaves W W (e.OwnStop W) (e.stampAbsent (.str field)) := by
  have names (l : Live) (w : W l) := (home.plain w).names _ (State.stampField_not_taken hf)
  refine (watch_behaves home _).bind fun _ l w => ?_
  have has := Host.hasAttr_run_ordinary (h := e.host) (home.plain w) (names l w)
  have required := Host.require_run_ordinary (h := e.host) (home.plain w) (names l w)
  cases hv : l.value? id field with
  | none =>
    rw [hv] at has
    exact Run.Ends.bind_ok has (.ok w)
  | some held =>
    rw [hv] at has required
    refine Run.Ends.bind_ok has (Run.Ends.bind_ok required ?_)
    split
    · exact stamp_behaves home hs hf l w
    · exact .ok w

theorem stampAlways_behaves {field : String} (hf : field ∈ s.stampFields) :
    Behaves W W (e.OwnStop W) (e.stampAlways (.str field)) := by
  have names (l : Live) (w : W l) := (home.plain w).names _ (State.stampField_not_taken hf)
  refine (watch_behaves home _).bind fun _ => ?_
  refine Behaves.bind_answers (hasAttr_answers home names) fun has => ?_
  split
  · exact stamp_behaves home hs hf
  · exact Behaves.pure _

theorem stampExit_behaves : Behaves W W (e.OwnStop W) (e.stampExit s.name) := by
  rw [stampExit]
  split
  · refine (stampAbsent_behaves home hs (by simp [State.stampFields])).bind fun _ => ?_
    refine (stampAbsent_behaves home hs (by simp [State.stampFields])).bind fun _ => ?_
    refine (stampAlways_behaves home hs (by simp [State.stampFields])).bind fun _ => ?_
    exact stampAlways_behaves home hs (by simp [State.stampFields])
  · exact Behaves.pure _

end Stamps

end Own

/-! ## What others do -/

/-- The column shows a state. -/
def Shows (e : Engine) (W : Live → Prop) (v : Value) (l : Live) : Prop :=
  W l ∧ e.currentState.run l = .ok v l

/-- What observers may stop in: in an ordinary way, if what is to be said of that can be taken, or
else as all others. -/
def Tolerates (e : Engine) (W : Live → Prop) (S : Stop → Prop) (stop : Stop) : Prop :=
  if stop.isOrdinary then Behaves W W S (e.host.message stop) else S stop

/-- What others do for the engine leaves it in its world and stops only in the ways `S`; validity
checks and guards leave what the column shows as it is. Observers may stop in ordinary ways
besides. -/
structure UsersBehave (e : Engine) (W : Live → Prop) (S : Stop → Prop) : Prop where
  checks : ∀ event v, Behaves (e.Shows W v) (e.Shows W v) S (e.check event)
  guards : ∀ ev ∈ e.machine.events, ∀ g ∈ ev.guards, ∀ event v,
    Behaves (e.Shows W v) (e.Shows W v) S (do e.host.truth (← e.runAction event g))
  acts : ∀ s ∈ e.machine.states, ∀ a ∈ s.enter.toList ++ (s.after ++ s.exit.toList), ∀ event,
    Behaves W W S (e.runAction event a)
  observers : ∀ args, ∀ o ∈ e.machine.observers,
    Behaves W W (e.Tolerates W S) (o.call e.host args)
  partings : ∀ l m, W m → W (e.host.parted l m)
  compares : ∀ v c, v.isState = true → Behaves W W S (e.host.differ v c)

/-- The ways in which an operation can stop: those of others, and those of the engine itself. -/
def MayStop (e : Engine) (W : Live → Prop) (S : Stop → Prop) (stop : Stop) : Prop :=
  S stop ∨ e.OwnStop W stop

section MayStop

variable {α : Type} {e : Engine} {I J W : Live → Prop} {S : Stop → Prop} {x : Run α}

theorem behaves_of_own (h : Behaves I J (e.OwnStop W) x) : Behaves I J (e.MayStop W S) x :=
  h.mono fun _ hs => .inr hs

theorem behaves_of_users (h : Behaves I J S x) : Behaves I J (e.MayStop W S) x :=
  h.mono fun _ hs => .inl hs

end MayStop

section Users

variable {e : Engine} {W : Live → Prop} {S : Stop → Prop} {id : RecordId} {column : String}
  (home : Live.Home W e id column) (users : e.UsersBehave W S)
include users

theorem runActions_behaves {s : State} (hs : s ∈ e.machine.states) (event : Value) :
    ∀ as : List Callback, (∀ a ∈ as, a ∈ s.enter.toList ++ (s.after ++ s.exit.toList)) →
      Behaves W W (e.MayStop W S) (e.runActions event as)
  | [], _ => Behaves.pure ()
  | a :: as, h => by
    have first : Behaves W W (e.MayStop W S) (e.runAction event a) :=
      behaves_of_users (users.acts s hs a (h a (.head _)) event)
    exact first.bind fun _ => runActions_behaves hs event as fun b hb => h b (.tail _ hb)

/-- Only where the engine is not watched does a check leave nothing behind. -/
theorem allows_behaves (unwatched : e.watched = false) {ev : Event} (hev : ev ∈ e.machine.events)
    {t : Transition} (ht : t ∈ ev.transitions) (event v : Value) :
    Behaves (e.Shows W v) (e.Shows W v) (e.MayStop W S) (e.allows event t) := by
  have quiet : ∀ entry, e.watch entry = pure () := fun entry => by
    rw [watch, unwatched]
    rfl
  have valid : Behaves (e.Shows W v) (e.Shows W v) (e.MayStop W S) (e.isValid event) := by
    refine (behaves_of_users (users.checks event v)).bind fun result => ?_
    rw [quiet]
    exact Behaves.pure result
  refine valid.bind fun isValid => ?_
  split
  · cases hg : t.guard with
    | none => exact Behaves.pure true
    | some g => exact behaves_of_users (users.guards ev hev g (Event.guard_mem ht hg) event v)
  · exact Behaves.pure false

include home

/-- What stops an observer in an ordinary way is reported. -/
theorem notifyOne_behaves (args : List Value) {o : Callback} (ho : o ∈ e.machine.observers) :
    Behaves W W (e.MayStop W S) (e.notifyOne args o) := by
  have called : Behaves W W (e.Tolerates W S) (do let _ ← o.call e.host args) :=
    (users.observers args o ho).bind fun _ => Behaves.pure ()
  have noted (entry : Entry) : Behaves W W S (Run.note entry) := fun l w => .ok (home.noted _ w)
  refine Host.passing_behaves users.partings (called.tryCatch fun stop tolerated => ?_)
  rw [Tolerates] at tolerated
  split
  · next ordinary =>
    rw [if_pos ordinary] at tolerated
    exact behaves_of_users (tolerated.bind fun _ => noted _)
  · next grave =>
    rw [if_neg grave] at tolerated
    exact Behaves.throw (.inl tolerated)

theorem notify_behaves (args : List Value) : ∀ os : List Callback,
    (∀ o ∈ os, o ∈ e.machine.observers) → Behaves W W (e.MayStop W S) (e.notify args os)
  | [], _ => Behaves.pure ()
  | _ :: os, h =>
    (notifyOne_behaves home users args (h _ (.head _))).bind fun _ =>
      notify_behaves args os fun p hp => h p (.tail _ hp)

theorem rollback_behaves : Behaves W W (e.MayStop W S) e.rollback := by
  have names (l : Live) (w : W l) := (home.plain w).names _ committedAttribute_not_taken
  refine (behaves_of_own (watch_behaves home _)).bind fun _ l w => ?_
  have has := Host.hasAttr_run_ordinary (h := e.host) (home.plain w) (names l w)
  have read := Host.attr_run_ordinary (h := e.host) (home.plain w) (names l w)
  cases was : l.value? id committedAttribute with
  | none =>
    rw [was] at has
    exact Run.Ends.bind_ok has (.ok w)
  | some committed =>
    rw [was] at has read
    refine Run.Ends.bind_ok has (Run.Ends.bind_ok read ?_)
    have restored : Behaves W W (e.MayStop W S) (e.host.setAttr e.machine.config.column
        committed) := by
      rw [home.held]
      intro m wm
      rcases Host.setAttr_run_ordinary (h := e.host) (home.plain wm) (home.own wm) committed with
        ⟨ho, h⟩ | ⟨f, h⟩
      · rw [Run.Ends, h]
        exact .ok (home.restored w was wm home.held ho)
      · rw [Run.Ends, h]
        exact .error wm (.inr (.refused wm (.inr (.inl home.held)) h))
    have reads : Behaves W W (e.MayStop W S) e.currentState :=
      behaves_of_own (currentState_behaves home)
    refine reads.bind_run (fun _ w => w) (fun l v m w h wm => ?_) l w
    refine (behaves_of_users (users.compares v committed (isState_of_currentState h))).bind
      (fun differs => ?_) m wm
    split
    · exact restored
    · exact Behaves.pure _

end Users

end Engine

end Lifecycle
