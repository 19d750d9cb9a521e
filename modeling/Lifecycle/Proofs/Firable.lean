/-
Firable machines: what a fire relies on was checked when the machine was built.

All that a draft is built into is closed: its transitions lead from declared
states to declared ones (`Draft.isClosed_of_machine?`), whatever calls have made
it. So where neither checks nor guards move the record, the states that a
transition goes between are found when it is its turn (`Engine.ends_found`), and
a fire stops only where others stop it or where the engine cannot read or write
the record (`Engine.fire_behaves`).
-/
import Lifecycle.Proofs.Declarations
import Lifecycle.Proofs.Scripts
import Lifecycle.Proofs.Stops

namespace Lifecycle

open Run (Behaves)

theorem Value.eq_of_str_same {v : Value} {s : String} (h : (Value.str s).same v = true) :
    v = .str s := by
  cases v with
  | str t => simpa using (by simpa using h : s = t).symm
  | _ => simp [same] at h

/-! ## What was checked -/

namespace Definition

variable {d : Definition}

/-- Every transition leads from a declared state to a declared one. -/
def IsClosed (d : Definition) : Prop :=
  ∀ ev ∈ d.events, ∀ t ∈ ev.transitions, d.knows t.source = true ∧ d.knows t.target = true

theorem stateAt_of_knows {v : Value} (h : d.knows v = true) :
    ∃ s ∈ d.states, d.stateAt v = .ok s ∧ v = .str s.name := by
  cases v with
  | str name =>
    obtain ⟨s, hs⟩ := Option.isSome_iff_exists.mp (show (d.state? name).isSome = true from h)
    obtain ⟨hmem, hname⟩ := state?_eq_some hs
    have found : d.stateAt (.str name) = .ok s := by
      simp [stateAt, Value.unhashable?, hs]
    exact ⟨s, hmem, found, by rw [hname]⟩
  | _ => cases h

end Definition

namespace Draft

theorem knows_of_undeclaredEnd? {d : Definition} {t : Transition}
    (h : undeclaredEnd? d t = .none) : d.knows t.source = true ∧ d.knows t.target = true := by
  have known : ∀ v ∈ [t.source, t.target], d.knows v = true := fun v hv => by
    have passed := List.find?_eq_none.mp h v hv
    cases v with
    | str name => simpa [Definition.knows] using passed
    | _ => exact absurd rfl passed
  exact ⟨known _ (.head _), known _ (.tail _ (.head _))⟩

theorem isClosed_of_firstFault? {d : Definition} (h : firstFault? d = .none) : d.IsClosed := by
  intro ev hev t ht
  rw [firstFault?] at h
  split at h
  · have passed := List.findSome?_eq_none_iff.mp (List.findSome?_eq_none_iff.mp h ev hev) t ht
    exact knows_of_undeclaredEnd? (Option.map_eq_none_iff.mp passed)
  · cases h

/-- What a draft is built into by some calls is closed. -/
theorem isClosed_of_machine? {config : Option (Table Value)} {options : Table Value} {d : Draft}
    (begun : Draft.start config options = .ok d) {calls : List Call} {m : Machine}
    (made : (afterAll calls d).machine? = .some m) : m.IsClosed := by
  have sound : ∀ definition, (afterAll calls d).built = .some definition →
      firstFault? definition = .none := by
    refine afterAll_induction (P := fun d => ∀ definition, d.built = .some definition →
      firstFault? definition = .none) (fun c _ d d' change kept => ?_) ?_
    · cases change with
      | built isOpen sound => exact fun definition h => Option.some.inj h ▸ sound
      | _ => exact kept
    · obtain ⟨config, rfl⟩ := start_eq_ok begun
      exact nofun
  obtain ⟨definition, built, rfl⟩ := Option.map_eq_some_iff.mp made
  exact isClosed_of_firstFault? (sound definition built)

end Draft

namespace Engine

/-! ## Choosing -/

/-- Of some candidates, `t` is the first that is allowed, and `l'` is what was left by finding that
out. -/
inductive Allowed (e : Engine) (event : Value) :
    List Transition → Live → Transition → Live → Prop where
  | here {t : Transition} {ts : List Transition} {l l' : Live}
    (h : (e.allows event t).run l = .ok true l') : Allowed e event (t :: ts) l t l'
  | later {t u : Transition} {ts : List Transition} {l m l' : Live}
    (refused : (e.allows event t).run l = .ok false m) (rest : Allowed e event ts m u l') :
    Allowed e event (t :: ts) l u l'

/-- What is done for a transition that is allowed. -/
def move (e : Engine) (event : Value) (t : Transition) : Run Unit := do
  let current ← e.currentState
  let next ← Run.lift (e.machine.stateAt t.target)
  let old ← Run.lift (e.machine.stateAt current)
  e.stampExit old.name
  if current.same t.target then
    e.commit t.target
  else
    e.entering event next
    e.commit t.target
    e.entered event next
    e.exited event old

/-- A transition is a move, if it is allowed. -/
theorem perform_eq_move (e : Engine) (event : Value) (t : Transition) :
    e.perform event t = (do
      if ← e.allows event t then
        e.move event t
        return true
      else return false) := by
  rw [perform]
  refine bind_congr fun allowed => ?_
  cases allowed with
  | false => rfl
  | true =>
    simp only [move, if_true, bind_assoc]
    refine bind_congr fun current => bind_congr fun next => bind_congr fun old =>
      bind_congr fun _ => ?_
    by_cases loop : current.same t.target = true <;> simp [loop]

theorem performFirst_cons (e : Engine) (event : Value) (t : Transition) (ts : List Transition) :
    e.performFirst event (t :: ts) = (do
      if ← e.allows event t then
        e.move event t
        return true
      else e.performFirst event ts) := by
  rw [performFirst, perform_eq_move, bind_assoc]
  refine bind_congr fun allowed => ?_
  cases allowed <;> simp

variable {e : Engine} {W : Live → Prop} {S : Stop → Prop} {id : RecordId} {column : String}

section Found

variable (closed : e.machine.IsClosed) {ev : Event} (hev : ev ∈ e.machine.events)
include closed hev

/-- Where the record is at the source of a transition, both its ends are found. -/
theorem ends_found {t : Transition} (ht : t ∈ ev.transitions) {l : Live}
    (at_ : e.Shows W t.source l) : ∃ next old, next ∈ e.machine.states ∧ old ∈ e.machine.states
      ∧ e.currentState.run l = .ok t.source l ∧ e.machine.stateAt t.target = .ok next
      ∧ e.machine.stateAt t.source = .ok old := by
  obtain ⟨knownSource, knownTarget⟩ := closed ev hev t ht
  obtain ⟨old, hold, source, -⟩ := Definition.stateAt_of_knows knownSource
  obtain ⟨next, hnext, target, -⟩ := Definition.stateAt_of_knows knownTarget
  exact ⟨next, old, hnext, hold, at_.2, target, source⟩

/-- A candidate leaves the state that the column shows. -/
theorem source_of_leaving {v : Value} {t : Transition} (ht : t ∈ ev.leaving v) :
    t ∈ ev.transitions ∧ t.source = v := by
  obtain ⟨hmem, hsame⟩ := Event.mem_of_leaving ht
  obtain ⟨old, -, -, source⟩ := Definition.stateAt_of_knows (closed ev hev t hmem).1
  rw [source] at hsame ⊢
  exact ⟨hmem, (Value.eq_of_str_same hsame).symm⟩

end Found

section Behaves

variable (closed : e.machine.IsClosed) (home : Live.Home W e id column)
  (users : e.UsersBehave W S)
include closed home users

/-- Whatever is done for a transition that is allowed, the states it goes between are found. -/
theorem move_behaves (event : Value) {ev : Event} (hev : ev ∈ e.machine.events) {t : Transition}
    (ht : t ∈ ev.transitions) :
    Behaves (e.Shows W t.source) W (e.MayStop W S) (e.move event t) := by
  intro l at_
  obtain ⟨next, old, hnext, hold, shown, target, source⟩ := ends_found closed hev ht at_
  have acting {s : State} (hs : s ∈ e.machine.states) (as : List Callback)
      (h : ∀ a ∈ as, a ∈ s.enter.toList ++ (s.after ++ s.exit.toList)) :
      Behaves W W (e.MayStop W S) (e.runActions event as) :=
    runActions_behaves users hs event as h
  have commits : Behaves W W (e.MayStop W S) (e.commit t.target) := by
    rw [(Definition.stateAt_eq_ok target).2]
    exact behaves_of_own (commit_behaves home next.name)
  have rest : Behaves W W (e.MayStop W S) (do
      e.stampExit old.name
      if t.source.same t.target then e.commit t.target
      else
        e.entering event next
        e.commit t.target
        e.entered event next
        e.exited event old) := by
    refine (behaves_of_own (stampExit_behaves home hold)).bind fun _ => ?_
    split
    · exact commits
    · refine (acting hnext _ fun a ha => by simp [ha]).bind fun _ => ?_
      refine commits.bind fun _ => ?_
      refine (acting hnext _ fun a ha => by simp [ha]).bind fun _ => ?_
      exact acting hold _ fun a ha => by simp [ha]
  -- what is read as the current state is the source, so both look-ups answer
  rw [move]
  refine Run.Ends.bind_ok shown ?_
  rw [target, source]
  exact rest l at_.1

omit closed home in
/-- By the time a candidate is found to be allowed, the column still shows what it did. -/
theorem Allowed.shows (unwatched : e.watched = false) {event : Value} {ev : Event}
    (hev : ev ∈ e.machine.events) {v : Value} {ts : List Transition} {t : Transition} {l l' : Live}
    (h : e.Allowed event ts l t l') (hts : ∀ u ∈ ts, u ∈ ev.transitions) (at_ : e.Shows W v l) :
    t ∈ ts ∧ e.Shows W v l' := by
  induction h with
  | here h =>
    exact ⟨.head _, (allows_behaves users unwatched hev (hts _ (.head _)) event v).of_ok at_ h⟩
  | later refused _ ih =>
    have at_m :=
      (allows_behaves users unwatched hev (hts _ (.head _)) event v).of_ok at_ refused
    obtain ⟨mem, shown⟩ := ih (fun u hu => hts u (.tail _ hu)) at_m
    exact ⟨.tail _ mem, shown⟩

theorem performFirst_behaves (unwatched : e.watched = false) (event : Value) {ev : Event}
    (hev : ev ∈ e.machine.events) (v : Value) : ∀ ts : List Transition,
    (∀ t ∈ ts, t ∈ ev.transitions ∧ t.source = v) →
      Behaves (e.Shows W v) W (e.MayStop W S) (e.performFirst event ts)
  | [], _ => (Behaves.pure false).of_start fun _ at_ => at_.1
  | t :: ts, hts => by
    obtain ⟨ht, hsource⟩ := hts t (.head _)
    rw [performFirst_cons]
    refine (allows_behaves users unwatched hev ht event v).bind_of (fun _ at_ => at_.1)
      fun allowed => ?_
    cases allowed with
    | true =>
      have moved := move_behaves closed home users event hev ht
      rw [hsource] at moved
      exact moved.bind_of (fun _ w => w) fun _ => Behaves.pure true
    | false =>
      -- a refusal has left the column as it was, so the next candidate still leaves its state
      exact performFirst_behaves unwatched event hev v ts fun u hu => hts u (.tail _ hu)

omit closed users in
/-- What follows a read of the column may rely on what was read. -/
theorem currentState_bind_behaves {α : Type} {f : Value → Run α}
    (hf : ∀ v, Behaves (e.Shows W v) W (e.MayStop W S) (f v)) :
    Behaves W W (e.MayStop W S) (e.currentState >>= f) := by
  intro l w
  have read := currentState_behaves home l w
  cases hv : e.currentState.run l with
  | error stop l' =>
    rw [Run.Ends, hv] at read
    exact Run.Ends.bind_error hv (.error read.world (.inr read.stops))
  | ok v l' =>
    obtain rfl : l' = l := (home.reads w).eq_of_ok hv
    exact Run.Ends.bind_ok hv (hf v l' ⟨w, hv⟩)

theorem fireEvent_behaves (unwatched : e.watched = false) {ev : Event}
    (hev : ev ∈ e.machine.events) : Behaves W W (e.MayStop W S) (e.fireEvent ev) := by
  rw [fireEvent, nextTransitions, bind_assoc]
  refine currentState_bind_behaves home fun v => ?_
  exact performFirst_behaves closed home users unwatched _ hev v _ fun t ht =>
    source_of_leaving closed hev ht

/-- Whatever the column holds, the engine finds its way. -/
theorem fire_behaves (unwatched : e.watched = false) {name : String} {ev : Event}
    (found : e.machine.event? name = .some ev) :
    Behaves W W (e.MayStop W S) (e.fire (.str name)) := by
  have hev : ev ∈ e.machine.events := List.mem_of_find?_eq_some found
  have read : Behaves W W (e.MayStop W S) e.currentState :=
    behaves_of_own (currentState_behaves home)
  rw [fire_eq, Definition.eventNamed_of_some found]
  refine Behaves.bind_answer (fun l _ => Run.run_lift_ok ev l) (read.bind fun old => ?_)
  refine (fireEvent_behaves closed home users unwatched hev).bind fun moved => ?_
  split
  · refine read.bind fun new => ?_
    exact (notify_behaves home users _ _ fun _ ho => ho).bind fun _ => Behaves.pure true
  · exact (rollback_behaves home users).bind fun _ => Behaves.pure false

end Behaves

/-- A number that is too long to be written is no state, not even an unknown one. -/
theorem currentState_run_long {l : Live} (hp : l.Plain id)
    (ho : l.IsOrdinary id column) (hc : e.machine.config.column = .str column) {n : Int}
    (hv : l.value? id column = .some (.int n)) (long : (Value.int n).isLong = true) :
    e.currentState.run l = .error (.fault .digitsExceeded) l := by
  have settled : l.settle (.int n) = .int n := by simp [Live.settle, Shelf.settle, Shelf.settleIn]
  have spelled : (e.host.spelled (.int n)).run l = .error (.fault .digitsExceeded) l := by
    have taken : (Run.settle (.int n)).run l = .ok (.int n) l :=
      congrArg (EStateM.Result.ok · l) settled
    rw [Host.spelled, Run.run_bind_ok taken, Host.spell, if_pos long]
    rfl
  rw [currentState, hc, Run.run_bind_ok (Host.attr_run_ordinary hp ho), hv]
  change (e.host.asState (.int n)).run l = _
  rw [Host.asState, if_neg (by simp [Value.isNull])]
  -- nobody has a say in how a number is written
  exact Run.run_bind_error spelled _

/-- A machine that a draft was built into can always be fired. A transition that is allowed finds
its states, and a fire stops only where others stop it or for what `OwnStop` lists: where all that
the machine writes is open and the clock has readings, only where the column holds something that is
not written, which is a number with too many digits unless some class has a say in it. Such a number
does stop it. An undeclared event is refused, and nothing changes. -/
theorem fires_of_built {config : Option (Table Value)} {options : Table Value} {d : Draft}
    {calls : List Draft.Call} (begun : Draft.start config options = .ok d)
    (made : (Draft.afterAll calls d).machine? = .some e.machine) (unwatched : e.watched = false)
    (home : Live.Home W e id column) (users : e.UsersBehave W S) :
    (∀ name ev, e.machine.event? name = .some ev →
      Behaves W W (e.MayStop W S) (e.fire (.str name))
        ∧ (∀ l v t l', W l → e.currentState.run l = .ok v l →
            e.Allowed (.str ev.name) (ev.leaving v) l t l' → ∃ next old,
              e.currentState.run l' = .ok v l' ∧ e.machine.stateAt t.target = .ok next
                ∧ e.machine.stateAt v = .ok old)
        ∧ ∀ l n, W l → l.value? id column = .some (.int n) → (Value.int n).isLong = true →
            (e.fire (.str name)).run l = .error (.fault .digitsExceeded) l)
      ∧ ((∀ l name, W l → e.machine.Writes name → l.IsOpen id name) →
          (∀ reads, (e.clock.reading? e.machine.config.utc.truthy reads).isSome = true) →
          ∀ stop, e.OwnStop W stop → ∃ l, W l ∧ e.currentState.run l = .error stop l
            ∧ (l.Quiet → stop = .fault .digitsExceeded))
      ∧ ∀ name, e.machine.event? name = .none → ∀ l,
          (e.fire (.str name)).run l = .error (.fault (.unknownKey (.str name))) l := by
  have closed := Draft.isClosed_of_machine? begun made
  refine ⟨fun name ev found => ⟨?_, ?_, ?_⟩, fun isOpen clock stop h => ?_,
    fun name unknown l => ?_⟩
  · exact fire_behaves closed home users unwatched found
  · intro l v t l' w shown allowed
    have hev : ev ∈ e.machine.events := List.mem_of_find?_eq_some found
    obtain ⟨leaves, shown'⟩ := allowed.shows users unwatched hev
      (fun u hu => (Event.mem_of_leaving hu).1) ⟨w, shown⟩
    obtain ⟨ht, rfl⟩ := source_of_leaving closed hev leaves
    obtain ⟨next, old, -, -, at_, target, source⟩ := ends_found closed hev ht shown'
    exact ⟨next, old, at_, target, source⟩
  · intro l n w held long
    have unread := currentState_run_long (home.plain w) (home.own w) home.held held long
    rw [fire_eq, Definition.eventNamed_of_some found, Run.run_bind_ok (Run.run_lift_ok ev l)]
    exact Run.run_bind_error unread _
  · obtain ⟨l, w, unread⟩ := h.unread_of_open home.toGround isOpen clock
    exact ⟨l, w, unread, fun quiet => stop_of_currentState home w quiet unread⟩
  · rw [fire_eq, Definition.eventNamed_of_none unknown]
    rfl

end Engine

/-! ## A guard that raises -/

/-- A draft with an event whose guard raises, declared before its target. -/
def Draft.Call.barred : List Draft.Call := [
  .openEvent "go" ∅,
  .declareState "a" .none .none .none .none,
  .addEdges 0 { target := "b", sources := .ok ["a"],
                guard := .some (.script (.step (.raise .boom "no") .done)) },
  .declareState "b" .none .none .none .none,
  .leaveBlock 0 false,
  .build]

def Machine.barred : Machine where
  config := { initial := "a" }
  states := [{ name := "a" }, { name := "b" }]
  events := [{ name := "go", transitions := [{
    source := "a", target := "b", guard := .some (.script (.step (.raise .boom "no") .done)) }] }]
  registry := .standard

def Scene.barred : Scene :=
  .plain { machine? := fun id => if id = 0 then .some Machine.barred else .none } .barred 0
    (Live.stateNames "state")

theorem Scene.barred_isFit : Scene.barred.IsFit :=
  Scene.plain_isFit rfl fun h => absurd (Value.str.inj h) (by decide)

theorem Scene.barred_room (n : Nat) :
    Live.Room Scene.barred.World (Scene.barred.setting.engineAt .barred n) 0 "state" :=
  Scene.plain_room barred_isFit rfl (by decide) rfl n

theorem Scene.barred_home (n : Nat) :
    Live.Home Scene.barred.World (Scene.barred.setting.engineAt .barred n) 0 "state" where
  toWorld := (barred_room n).toWorld
  held := rfl
  own w := ((barred_room n).openColumn w).isOrdinary

/-- The guard stops every attempt. -/
theorem Scene.barred_users (n : Nat) : (Scene.barred.setting.engineAt .barred n).UsersBehave
    Scene.barred.World (· = .fault (.raised .boom "no")) where
  checks event v := Behaves.of_answers fun l at_ =>
    ⟨true, Scene.check_run barred_isFit (.head _) rfl n event at_.1⟩
  guards ev hev g hg event v l at_ := by
    obtain rfl := List.mem_singleton.mp hev
    obtain rfl := List.mem_singleton.mp hg
    have lasting := Scene.lasting_of_fit barred_isFit at_.1
    exact Run.Ends.bind_error ((Host.working_run lasting [] _).trans rfl) (.error at_ rfl)
  acts s hs a ha := by
    have idle : ∀ s ∈ Machine.barred.states, s.enter.toList ++ (s.after ++ s.exit.toList) = [] := by
      decide
    rw [idle s hs] at ha
    cases ha
  observers _ o ho := nomatch ho
  partings l m w := by
    obtain ⟨held, same⟩ := Host.parted_eq (h := (Scene.barred.setting.engineAt .barred n).host)
      (l := l) (Scene.lasting_of_fit barred_isFit w)
    rw [same]
    exact w.inHand held
  compares v c hv := Behaves.of_answers fun l w =>
    Host.differ_answers (w.mute_of_innate (by decide)) (w.mute_of_innate (by decide)) hv c

/-- Everything that the machine writes is open. -/
theorem Scene.barred_isOpen (l : Live) (name : String) (w : Scene.barred.World l)
    (writes : Machine.barred.Writes name) : l.IsOpen 0 name := by
  rcases writes with rfl | held | ⟨s, hs, stamp⟩
  · exact (barred_room 0).openCommitted w
  · obtain rfl := Value.str.inj held
    exact (barred_room 0).openColumn w
  · have unsaid : ∀ s ∈ Machine.barred.states, ∀ field ∈ s.stampFields,
        (Lineage.ofClass Class.plainOnly 3).member? field = .none := by
      decide
    exact Live.Stands.isOpen w rfl (unsaid s hs name stamp)

/-- A record whose state is a number with too many digits. -/
def Live.overlong : Live :=
  Live.blank.assign 0 "state" (.int (.ofNat (Nat.pow 10 Value.digitsBound)))

theorem Engine.fires_of_built_barred :
    let e := Scene.barred.setting.engineAt .barred 3
    Behaves Scene.barred.World Scene.barred.World
        (fun stop => stop = .fault (.raised .boom "no") ∨ stop = .fault .digitsExceeded)
        (e.fire "go")
      ∧ (e.fire "go").run Live.overlong = .error (.fault .digitsExceeded) Live.overlong
      ∧ (e.fire "come").run Live.blank = .error (.fault (.unknownKey "come")) Live.blank := by
  intro e
  have begun : Draft.start .none ⟨[("initial", "a")]⟩ = .ok { config := { initial := "a" } } := rfl
  have made : (Draft.afterAll Draft.Call.barred { config := { initial := "a" } }).machine?
      = .some e.machine := rfl
  obtain ⟨declared, own, undeclared⟩ := fires_of_built begun made rfl (Scene.barred_home 3)
    (Scene.barred_users 3)
  obtain ⟨behaves, -, unreadable⟩ := declared "go" _ rfl
  have stands : Scene.barred.World Live.overlong :=
    Live.Stands.assign Scene.blank_plain (by decide) _
  refine ⟨behaves.mono fun stop h => ?_, ?_, undeclared "come" rfl Live.blank⟩
  · refine h.imp id fun h => ?_
    obtain ⟨l, w, -, digits⟩ := own Scene.barred_isOpen (fun _ => rfl) stop h
    exact digits (Scene.quiet_of_fit Scene.barred_isFit w)
  · exact unreadable Live.overlong _ stands rfl (by decide +kernel)

end Lifecycle
