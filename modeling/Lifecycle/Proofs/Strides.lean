/-
Strides: a transition, one step at a time.

What the engine does for a transition that is allowed is settled by the two
states that it finds (`Machine.strides`): the stamps, the enter action, the two
writes of a commit, the after actions and the exit action, of which a loop keeps
only stamps and writes. The engine takes these steps in their order, and where
one of them stops, the transition ends (`Engine.perform_strides`). So what stands
in the column and in the committed attribute can be read off the steps that were
taken (`Engine.Walks.written`).
-/
import Lifecycle.Proofs.Edges
import Lifecycle.Proofs.Firable

namespace Lifecycle

open Run (Keeps)

/-- A step of a transition that is allowed. -/
inductive Stride where
  | stampAbsent (field : String)
  | stampAlways (field : String)
  | act (action : Callback)
  /-- The state is written to the column. -/
  | column (state : String)
  /-- The state is written to the committed attribute. -/
  | committed (state : String)

/-- The attribute to which a step writes the state. -/
def Stride.written? (column : String) : Stride → Option String
  | .column _ => .some column
  | .committed _ => .some committedAttribute
  | _ => .none

namespace Machine

/-- The stamps that are put when a state is left. -/
def stampStrides (m : Machine) (old : State) : List Stride :=
  if m.config.timestamps.truthy then [
    .stampAbsent (old.name ++ "_created_at"), .stampAbsent (old.name ++ "_created_on"),
    .stampAlways (old.name ++ "_updated_at"), .stampAlways (old.name ++ "_updated_on")]
  else []

def commitStrides (state : String) : List Stride := [.column state, .committed state]

/-- The steps behind the stamps; a loop runs no action. -/
def moveStrides (old next : State) : List Stride :=
  if old.name = next.name then commitStrides next.name
  else next.enter.toList.map .act ++ commitStrides next.name
    ++ (next.after ++ old.exit.toList).map .act

/-- All steps of a transition from one state to another, in order. -/
def strides (m : Machine) (old next : State) : List Stride :=
  m.stampStrides old ++ moveStrides old next

end Machine

namespace Engine

/-- Takes one step. -/
def stride (e : Engine) (event : Value) : Stride → Run Unit
  | .stampAbsent field => e.stampAbsent (.str field)
  | .stampAlways field => e.stampAlways (.str field)
  | .act action => do let _ ← e.runAction event action
  | .column state => do
    e.watch (.commit (.str state))
    e.host.setAttr e.machine.config.column (.str state)
  | .committed state => e.host.setAttr (.str committedAttribute) (.str state)

/-- Takes some steps, up to the first that stops. -/
def walk (e : Engine) (event : Value) : List Stride → Run Unit
  | [] => pure ()
  | s :: ss => do
    e.stride event s
    e.walk event ss

/-- Some steps were taken, and none of them has stopped. -/
inductive Walks (e : Engine) (event : Value) : List Stride → Live → Live → Prop where
  | stay (l : Live) : Walks e event [] l l
  | on {s : Stride} {ss : List Stride} {l m l' : Live} (h : (e.stride event s).run l = .ok () m)
    (rest : Walks e event ss m l') : Walks e event (s :: ss) l l'

/-- Some steps were to be taken, and one of them has stopped when those before it were taken. -/
def Trips (e : Engine) (event : Value) (ss : List Stride) (l : Live) (stop : Stop) (l' : Live) :
    Prop :=
  ∃ done s rest m, ss = done ++ s :: rest ∧ e.Walks event done l m
    ∧ (e.stride event s).run m = .error stop l'

section Walk

variable {e : Engine} {event : Value} {ss : List Stride} {l l' : Live}

theorem walk_append (xs ys : List Stride) :
    e.walk event (xs ++ ys) = (do e.walk event xs; e.walk event ys) := by
  induction xs with
  | nil => rfl
  | cons s xs ih => simp only [List.cons_append, walk, ih, bind_assoc]

theorem walk_acts (as : List Callback) : e.walk event (as.map .act) = e.runActions event as := by
  induction as with
  | nil => rfl
  | cons a as ih => simp only [List.map_cons, walk, stride, runActions, ih, bind_assoc, pure_bind]

theorem walk_commit (state : String) :
    e.walk event (Machine.commitStrides state) = e.commit (.str state) := by
  simp only [Machine.commitStrides, walk, stride, commit, bind_assoc, bind_pure_unit]

theorem walk_stamps (old : State) :
    e.walk event (e.machine.stampStrides old) = e.stampExit old.name := by
  rw [Machine.stampStrides, stampExit]
  split
  · simp only [walk, stride, bind_pure_unit]
  · rfl

theorem walk_eq_ok : ∀ {ss : List Stride} {l l' : Live},
    (e.walk event ss).run l = .ok () l' ↔ e.Walks event ss l l'
  | [], l, l' => by
    constructor
    · rintro ⟨⟩
      exact .stay l
    · rintro ⟨⟩
      rfl
  | s :: ss, l, l' => by
    rw [walk, Run.run_bind_eq_ok]
    constructor
    · rintro ⟨_, m, h, rest⟩
      exact .on h (walk_eq_ok.mp rest)
    · rintro (_ | ⟨h, rest⟩)
      exact ⟨(), _, h, walk_eq_ok.mpr rest⟩

theorem walk_eq_error {stop : Stop} : ∀ {ss : List Stride} {l : Live},
    (e.walk event ss).run l = .error stop l' ↔ e.Trips event ss l stop l'
  | [], l => by
    constructor
    · rintro ⟨⟩
    · rintro ⟨done, s, rest, m, split, -⟩
      simp at split
  | s :: ss, l => by
    rw [walk]
    cases h : (e.stride event s).run l with
    | ok u m =>
      rw [Run.run_bind_ok h, walk_eq_error]
      constructor
      · rintro ⟨done, s', rest, n, rfl, walks, stops⟩
        exact ⟨s :: done, s', rest, n, rfl, .on h walks, stops⟩
      · rintro ⟨done, s', rest, n, split, walks, stops⟩
        cases walks with
        | stay =>
          cases split
          cases h.symm.trans stops
        | on h' walks =>
          cases split
          cases h.symm.trans h'
          exact ⟨_, s', rest, n, rfl, walks, stops⟩
    | error stop' m =>
      rw [Run.run_bind_error h]
      constructor
      · rintro ⟨⟩
        exact ⟨[], s, ss, l, rfl, .stay l, h⟩
      · rintro ⟨done, s', rest, n, split, walks, stops⟩
        cases walks with
        | stay =>
          cases split
          exact h.symm.trans stops
        | on h' walks =>
          cases split
          cases h.symm.trans h'

end Walk

theorem Walks.of_append {e : Engine} {event : Value} : ∀ {xs ys : List Stride} {l l' : Live},
    e.Walks event (xs ++ ys) l l' → ∃ m, e.Walks event xs l m ∧ e.Walks event ys m l'
  | [], _, l, _, h => ⟨l, .stay l, h⟩
  | _ :: _, _, _, _, .on h rest => by
    obtain ⟨m, first, second⟩ := rest.of_append
    exact ⟨m, .on h first, second⟩

theorem Walks.append {e : Engine} {event : Value} {xs ys : List Stride} {l m l' : Live}
    (h : e.Walks event xs l m) (h' : e.Walks event ys m l') : e.Walks event (xs ++ ys) l l' := by
  induction h with
  | stay => exact h'
  | on h _ ih => exact .on h (ih h')

theorem Walks.keeps {e : Engine} {event : Value} {P : Live → Live → Prop} [IsPreorder Live P]
    {ss : List Stride} {l l' : Live} (h : e.Walks event ss l l')
    (each : ∀ s ∈ ss, Keeps P (e.stride event s)) : P l l' := by
  induction h with
  | stay l => exact refl_of P l
  | on h _ ih =>
    have first := Run.final_of_ok h ▸ each _ (.head _) _
    exact trans_of P first (ih fun s hs => each s (.tail _ hs))

/-- What is done for a transition that is allowed is to take its steps. -/
theorem move_run {e : Engine} {event : Value} {t : Transition} {l l' : Live} {current : Value}
    {old next : State} (read : e.currentState.run l = .ok current l')
    (source : e.machine.stateAt current = .ok old)
    (target : e.machine.stateAt t.target = .ok next) :
    (e.move event t).run l = (e.walk event (e.machine.strides old next)).run l' := by
  obtain ⟨-, rfl⟩ := Definition.stateAt_eq_ok source
  obtain ⟨-, named⟩ := Definition.stateAt_eq_ok target
  rw [move, Run.run_bind_ok read, target, source, named]
  rw [Run.run_bind_ok (Run.run_lift_ok next l'), Run.run_bind_ok (Run.run_lift_ok old l')]
  rw [Machine.strides, Machine.moveStrides, Value.same_str]
  by_cases loop : old.name = next.name
  · simp [loop, walk_append, walk_stamps, walk_commit]
  · simp [loop, walk_append, walk_stamps, walk_commit, walk_acts, entering, entered, exited]

end Engine

/-! ## What the steps write -/

namespace Machine

variable {m : Machine} {old next : State}

theorem mem_stampStrides {s : Stride} (mem : s ∈ m.stampStrides old) :
    ∃ field ∈ old.stampFields, s = .stampAbsent field ∨ s = .stampAlways field := by
  rw [stampStrides] at mem
  split at mem
  · simp only [List.mem_cons, List.not_mem_nil, or_false] at mem
    rcases mem with rfl | rfl | rfl | rfl <;> simp [State.stampFields]
  · cases mem

theorem mem_moveStrides {s : Stride} (mem : s ∈ moveStrides old next) :
    (∃ a ∈ next.enter.toList ++ (next.after ++ old.exit.toList), s = .act a)
      ∨ s = .column next.name ∨ s = .committed next.name := by
  rw [moveStrides] at mem
  split at mem
  · simp only [commitStrides, List.mem_cons, List.not_mem_nil, or_false] at mem
    exact .inr mem
  · simp only [commitStrides, List.mem_append, List.mem_cons, List.not_mem_nil, or_false,
      List.mem_map] at mem
    rcases mem with (⟨a, ha, rfl⟩ | writes) | ⟨a, ha, rfl⟩
    · exact .inl ⟨a, by simp [ha], rfl⟩
    · exact .inr writes
    · exact .inl ⟨a, List.mem_append_right _ (List.mem_append.mpr ha), rfl⟩

theorem mem_moveStrides_of_commit {s : Stride} (mem : s ∈ commitStrides next.name) :
    s ∈ moveStrides old next := by
  rw [moveStrides]
  split
  · exact mem
  · simp [mem]

end Machine

namespace Live

/-- Of the attributes for the state, those to which some steps write it hold `c`, and the others
what they did. -/
def Written (W : Live → Prop) (id : RecordId) (column c : String) (ss : List Stride)
    (l l' : Live) : Prop :=
  W l' ∧ ∀ name ∈ stateNames column, l'.value? id name
    = if name ∈ ss.filterMap (·.written? column) then .some (.str c) else l.value? id name

namespace Written

variable {W : Live → Prop} {id : RecordId} {column c : String} {ss more : List Stride}
  {l m l' : Live}

theorem refl (w : W l) : Written W id column c [] l l := ⟨w, fun _ _ => rfl⟩

theorem trans (h : Written W id column c ss l m) (h' : Written W id column c more m l') :
    Written W id column c (ss ++ more) l l' := by
  refine ⟨h'.1, fun name hn => ?_⟩
  rw [h'.2 name hn, h.2 name hn, List.filterMap_append]
  by_cases later : name ∈ more.filterMap (·.written? column) <;> simp [later]

/-- A step that writes to one attribute. -/
theorem of_assign {s : Stride} {name : String} (written : s.written? column = .some name)
    (w : W (l.assign id name (.str c))) :
    Written W id column c [s] l (l.assign id name (.str c)) := by
  refine ⟨w, fun other _ => ?_⟩
  by_cases same : other = name
  · simp [same, written]
  · rw [value?_assign_other same]
    simp [written, same]

end Written

end Live

namespace Engine

/-- A step that is taken writes the state where it is to, and one that stops writes it nowhere. -/
def Marks (e : Engine) (W : Live → Prop) (id : RecordId) (column c : String) (event : Value)
    (s : Stride) : Prop :=
  ∀ l, W l → (e.stride event s).Ends l fun r l' =>
    Live.Written W id column c (if r.toBool then [s] else []) l l'

section Written

variable {e : Engine} {W : Live → Prop} {id : RecordId} {column c : String} {event : Value}
  {old next : State}

/-- So does one that is to write it nowhere, and leaves it alone. -/
theorem Marks.of_spares {s : Stride} (none : s.written? column = .none)
    (keeps : Keeps (Live.Spares W id (Live.stateNames column)) (e.stride event s)) :
    e.Marks W id column c event s := by
  intro l w
  have spared := keeps l w
  cases h : (e.stride event s).run l with
  | ok _ l' =>
    rw [Run.final_of_ok h] at spared
    rw [Run.Ends, h]
    simpa [Live.Written, none, Except.toBool] using spared
  | error stop l' =>
    rw [Run.final_of_error h] at spared
    rw [Run.Ends, h]
    simpa [Live.Written, Except.toBool] using spared

/-- After some steps, the attributes to which they write the state hold it. -/
theorem Walks.written {ss : List Stride} {l l' : Live} (h : e.Walks event ss l l') (w : W l)
    (marks : ∀ s ∈ ss, e.Marks W id column c event s) :
    Live.Written W id column c ss l l' := by
  induction h with
  | stay l => exact .refl w
  | on h _ ih =>
    have first := (marks _ (.head _) _ w).of_ok h
    exact first.trans (ih first.1 fun s hs => marks s (.tail _ hs))

variable (ground : Live.Ground W e.machine id)
include ground

theorem marks_of_stamp (hold : old ∈ e.machine.states) (unstamped : column ∉ old.stampFields)
    {s : Stride} (mem : s ∈ e.machine.stampStrides old) : e.Marks W id column c event s := by
  obtain ⟨field, hf, is⟩ := Machine.mem_stampStrides mem
  have quiet : field ∉ Live.stateNames column := by
    have ne := State.stampField_ne_committed hf
    have ne' : field ≠ column := fun same => unstamped (same ▸ hf)
    simp [ne, ne']
  obtain rfl | rfl := is
  · exact .of_spares rfl (stampAbsent_spares ground hold hf quiet)
  · exact .of_spares rfl (stampAlways_spares ground hold hf quiet)

variable (held : e.machine.config.column = .str column)
  (acts : ∀ a ∈ next.enter.toList ++ (next.after ++ old.exit.toList),
    Keeps (Live.Spares W id (Live.stateNames column)) (e.runAction event a))
include held acts

theorem marks_of_move {s : Stride} (mem : s ∈ Machine.moveStrides old next) :
    e.Marks W id column next.name event s := by
  intro l w
  have write {name : String} (written : s.written? column = .some name)
      (puts : e.machine.Puts name (.str next.name)) {l : Live} (w : W l) :
      (e.host.setAttr (.str name) (.str next.name)).Ends l fun r l' =>
        Live.Written W id column next.name (if r.toBool then [s] else []) l l' := by
    obtain ⟨isOpen, h⟩ | ⟨f, h⟩ :=
      @Host.setAttr_run_text e.host l id name (ground.plain w) next.name
    · rw [Run.Ends, h]
      exact .of_assign written (ground.written w puts isOpen)
    · rw [Run.Ends, h]
      exact .refl w
  obtain ⟨a, ha, rfl⟩ | rfl | rfl := Machine.mem_moveStrides mem
  · exact Marks.of_spares rfl ((acts a ha).bind fun _ => Keeps.pure ()) l w
  · obtain ⟨log, watched⟩ := watch_run e (.commit (.str next.name)) l
    have noted : Live.Written W id column next.name [] l { l with log } :=
      ⟨ground.noted log w, fun _ _ => rfl⟩
    have put := write rfl (.column held _) noted.1
    exact Run.Ends.bind_ok watched (held ▸ put.mono fun r l' => noted.trans)
  · exact write rfl (.committed _) w

/-- Behind the stamps, all steps together write the state wherever it is held. -/
theorem Walks.moved {l l' : Live} (h : e.Walks event (Machine.moveStrides old next) l l')
    (w : W l) : W l' ∧ ∀ name ∈ Live.stateNames column,
      l'.value? id name = .some (.str next.name) := by
  obtain ⟨w', written⟩ := h.written w fun s hs => marks_of_move ground held acts hs
  refine ⟨w', fun name hn => ?_⟩
  -- both writes of the commit are among the steps
  have among : name ∈ (Machine.moveStrides old next).filterMap (·.written? column) := by
    simp only [List.mem_cons, List.not_mem_nil, or_false] at hn
    obtain rfl | rfl := hn
    · exact List.mem_filterMap.mpr
        ⟨.column next.name, Machine.mem_moveStrides_of_commit (.head _), rfl⟩
    · exact List.mem_filterMap.mpr
        ⟨.committed next.name, Machine.mem_moveStrides_of_commit (.tail _ (.head _)), rfl⟩
  rw [written name hn, if_pos among]

theorem marks_of_stride (hold : old ∈ e.machine.states) (unstamped : column ∉ old.stampFields)
    {s : Stride} (mem : s ∈ e.machine.strides old next) :
    e.Marks W id column next.name event s := by
  obtain mem | mem := List.mem_append.mp mem
  · exact marks_of_stamp ground hold unstamped mem
  · exact marks_of_move ground held acts mem

end Written

/-- A transition that is allowed takes its steps in order, and answers when all of them are taken;
it stops where one of them stops, and as that does. Where the actions leave the state alone, the
column and the committed attribute then show it if they were reached, and are else as they were. -/
theorem perform_strides {e : Engine} {event current : Value} {t : Transition} {l m m' : Live}
    {old next : State} (allowed : (e.allows event t).run l = .ok true m)
    (read : e.currentState.run m = .ok current m')
    (source : e.machine.stateAt current = .ok old)
    (target : e.machine.stateAt t.target = .ok next) :
    (∀ moved l', (e.perform event t).run l = .ok moved l' ↔
        moved = true ∧ e.Walks event (e.machine.strides old next) m' l')
      ∧ (∀ stop l', (e.perform event t).run l = .error stop l' ↔
        e.Trips event (e.machine.strides old next) m' stop l')
      ∧ ∀ {W : Live → Prop} {id : RecordId} {column : String}, Live.Ground W e.machine id →
        e.machine.config.column = .str column → column ∉ old.stampFields →
        (∀ a ∈ next.enter.toList ++ (next.after ++ old.exit.toList),
          Keeps (Live.Spares W id (Live.stateNames column)) (e.runAction event a)) → W m' →
        ∀ done rest n, e.machine.strides old next = done ++ rest → e.Walks event done m' n →
          Live.Written W id column next.name done m' n
            ∧ ∀ s ss stop l', rest = s :: ss → (e.stride event s).run n = .error stop l' →
              Live.Written W id column next.name done m' l' := by
  have performed : (e.perform event t).run l
      = (do e.walk event (e.machine.strides old next); return true).run m' := by
    rw [perform_eq_move, Run.run_bind_ok allowed, if_pos rfl]
    exact Run.run_bind_congr (move_run read source target) _
  refine ⟨fun moved l' => ?_, fun stop l' => ?_, ?_⟩
  · rw [performed, Run.run_bind_eq_ok]
    constructor
    · rintro ⟨_, n, walked, answer⟩
      cases answer
      exact ⟨rfl, walk_eq_ok.mp walked⟩
    · rintro ⟨rfl, walks⟩
      exact ⟨(), l', walk_eq_ok.mpr walks, rfl⟩
  · rw [performed, ← walk_eq_error]
    cases walked : (e.walk event (e.machine.strides old next)).run m' with
    | ok _ n =>
      rw [Run.run_bind_ok walked]
      constructor <;> rintro ⟨⟩
    | error stop' n =>
      rw [Run.run_bind_error walked]
      constructor <;> rintro ⟨⟩ <;> rfl
  · intro W id column ground held unstamped acts w done rest n split walks
    obtain ⟨hold, -⟩ := Definition.stateAt_eq_ok source
    have marks (s : Stride) (hs : s ∈ done ++ rest) :=
      marks_of_stride ground held acts hold unstamped (split ▸ hs)
    have walked := walks.written w fun s hs => marks s (List.mem_append_left _ hs)
    refine ⟨walked, ?_⟩
    rintro s ss stop l' rfl stops
    have ended := marks s (List.mem_append_right _ (.head _)) n walked.1
    rw [Run.Ends, stops] at ended
    exact List.append_nil done ▸ walked.trans ended

end Engine

/-! ## An after action that raises -/

/-- A machine with two after actions, of which the second one raises, and an exit action. -/
def Machine.stumbling : Machine where
  config := { initial := "a" }
  states := [{ name := "a", exit := .some (.script (.step (.log (.lit "left")) .done)) },
    { name := "b", after := [.script (.step (.set "reached" (.lit (.bool true))) .done),
        .script (.step (.raise .boom "no") .done)] }]
  events := [{ name := "go", transitions := [{ source := "a", target := "b" }] }]
  registry := .standard

def Scene.stumbling : Scene :=
  .plain { machine? := fun id => if id = 0 then .some Machine.stumbling else .none } .stumbling 0
    (Live.stateNames "state")

theorem Scene.stumbling_isFit : Scene.stumbling.IsFit :=
  Scene.plain_isFit rfl fun h => absurd (Value.str.inj h) (by decide)

/-- Everything before the second after action has happened, the commit too, and nothing after it. -/
theorem Engine.perform_strides_stumbling :
    let e := Scene.stumbling.setting.engineAt .stumbling 3
    let l := Live.blank.assign 0 "state" "a"
    ∃ l', (e.perform "go" { source := "a", target := "b" }).run l
        = .error (.fault (.raised .boom "no")) l'
      ∧ l'.value? 0 "state" = .some "b" ∧ l'.value? 0 committedAttribute = .some "b"
      ∧ l'.value? 0 "reached" = .some (.bool true) ∧ l'.log = [] := by
  intro e l
  let l' := ((l.assign 0 "state" "b").assign 0 committedAttribute "b").assign 0 "reached"
    (.bool true)
  let first : List Stride := [.stampAbsent "a_created_at", .stampAbsent "a_created_on",
    .stampAlways "a_updated_at", .stampAlways "a_updated_on", .column "b", .committed "b",
    .act (.script (.step (.set "reached" (.lit (.bool true))) .done))]
  have w : Scene.stumbling.World l := Live.Stands.assign Scene.blank_plain (by decide) _
  have room : Live.Room Scene.stumbling.World e 0 "state" :=
    Scene.plain_room Scene.stumbling_isFit rfl (by decide) rfl 3
  have read : e.currentState.run l = .ok "a" l :=
    currentState_run (room.plain w) (room.openColumn w).isOrdinary rfl rfl
  have allowed : (e.allows "go" { source := "a", target := "b" }).run l = .ok true l := rfl
  obtain ⟨-, trips, written⟩ := perform_strides allowed read rfl rfl
  have walks : e.Walks "go" first l l' :=
    .on rfl (.on rfl (.on rfl (.on rfl (.on rfl (.on rfl (.on rfl (.stay l')))))))
  have stops : (e.stride "go" (.act (.script (.step (.raise .boom "no") .done)))).run l'
      = .error (.fault (.raised .boom "no")) l' := rfl
  have tame : ∀ a ∈ [Callback.script (.step (.set "reached" (.lit (.bool true))) .done),
      .script (.step (.raise .boom "no") .done), .script (.step (.log (.lit "left")) .done)],
      a.isTame Scene.stumbling = true := by decide
  obtain ⟨-, stopped⟩ := written room.toGround rfl (by decide)
    (fun a ha => Callback.runAction_keeps (Scene.allows_spares (c := Scene.stumbling)
      (fun _ => nofun) 3) Scene.stumbling_isFit _ (tame a ha)) w first _ l' rfl walks
  obtain ⟨-, shown⟩ := stopped _ _ _ l' rfl stops
  have column : l'.value? 0 "state" = .some "b" := by
    simpa [first, Stride.written?] using shown "state" (.head _)
  have committed : l'.value? 0 committedAttribute = .some "b" := by
    simpa [first, Stride.written?] using shown committedAttribute (.tail _ (.head _))
  exact ⟨l', (trips _ _).mpr ⟨first, _, _, l', rfl, walks, stops⟩, column, committed,
    Live.value?_assign_self .., by simp [l', l, Live.blank]⟩

end Lifecycle
