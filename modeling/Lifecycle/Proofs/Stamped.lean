/-
Stamps: what the clock leaves on a record that leaves a state.

Each stamp asks the clock anew, and only where it is put (`Engine.Stamps`). So
the moment and the day of one state come from two requests, one right after the
other (`Engine.DatedFrom`), and the day is the day of the moment where the clock
shows one day at both of them and nowhere else (`Engine.dates_of_perform`).
-/
import Lifecycle.Proofs.Strides

namespace Lifecycle

open Run (Keeps)

/-! ## One stamp -/

/-- What a field takes from a reading. -/
def Reading.stamp (r : Reading) (field : String) : Value :=
  if "_on".toList.isSuffixOf field.toList then .day r else .moment r

/-- Whether a field is there and null. -/
def Live.isDue (l : Live) (id : RecordId) (field : String) : Bool :=
  match l.value? id field with
  | .some held => held.isNull
  | .none => false

theorem Live.isSome_of_isDue {l : Live} {id : RecordId} {field : String}
    (h : l.isDue id field = true) : (l.value? id field).isSome = true := by
  rw [isDue] at h
  cases held : l.value? id field with
  | none => simp [held] at h
  | some _ => rfl

namespace Engine

/-- What the clock shows at request number `k`. -/
def reading? (e : Engine) (k : Nat) : Option Reading :=
  e.clock.reading? e.machine.config.utc.truthy k

/-- A field has taken what the clock shows, if it was to; besides, only the log has changed. -/
def Stamps (e : Engine) (id : RecordId) (field : String) (due : Bool) (l l' : Live) : Prop :=
  ∃ log, if due then ∃ r, e.reading? l.reads = .some r
      ∧ l' = ({ l with log, reads := l.reads + 1 } : Live).assign id field (r.stamp field)
    else l' = { l with log }

namespace Stamps

variable {e : Engine} {id : RecordId} {field other : String} {due : Bool} {l l' : Live}

theorem reads (h : e.Stamps id field due l l') : l'.reads = l.reads + due.toNat := by
  obtain ⟨log, h⟩ := h
  cases due with
  | true =>
    obtain ⟨r, -, rfl⟩ := h
    exact Live.reads_assign ..
  | false =>
    cases h
    rfl

theorem value?_other (h : e.Stamps id field due l l') (ne : other ≠ field) :
    l'.value? id other = l.value? id other := by
  obtain ⟨log, h⟩ := h
  cases due with
  | true =>
    obtain ⟨r, -, rfl⟩ := h
    exact Live.value?_assign_other ne ..
  | false =>
    cases h
    rfl

theorem value?_self (h : e.Stamps id field true l l') :
    ∃ r, e.reading? l.reads = .some r ∧ l'.value? id field = .some (r.stamp field) := by
  obtain ⟨log, r, shown, rfl⟩ := h
  exact ⟨r, shown, Live.value?_assign_self ..⟩

theorem isDue_other (h : e.Stamps id field due l l') (ne : other ≠ field) :
    l'.isDue id other = l.isDue id other := by
  rw [Live.isDue, Live.isDue, h.value?_other ne]

end Stamps

/-- Puts a stamp on a field. -/
def putStamp (e : Engine) (field : String) : Run Unit := do
  let v ← e.stamp (.str field)
  e.host.setAttr (.str field) v

/-- A stamp that is put asks the clock once. -/
theorem putStamp_run (e : Engine) (field : String) (l : Live) :
    (e.putStamp field).run l = match e.reading? l.reads with
      | .some r => (e.host.setAttr (.str field) (r.stamp field)).run
          { l with reads := l.reads + 1 }
      | .none => .error (.fault .positionMissing) l := by
  have asked : (e.stamp (.str field)).run l = match e.reading? l.reads with
      | .some r => .ok (r.stamp field) { l with reads := l.reads + 1 }
      | .none => .error (.fault .positionMissing) l := by
    rw [stamp, Run.run_bind_ok (Run.run_get l), reading?]
    cases e.clock.reading? e.machine.config.utc.truthy l.reads <;> rfl
  cases h : e.reading? l.reads with
  | some r =>
    rw [h] at asked
    exact Run.run_bind_ok asked _
  | none =>
    rw [h] at asked
    exact Run.run_bind_error asked _

section World

variable {e : Engine} {W : Live → Prop} {id : RecordId} (ground : Live.Ground W e.machine id)
  {s : State} (hs : s ∈ e.machine.states) {field : String} (hf : field ∈ s.stampFields) {l : Live}
include ground hs hf

omit hs in
theorem stampAbsent_run (w : W l) : ∃ log, (e.stampAbsent (.str field)).run l
    = if l.isDue id field then (e.putStamp field).run { l with log }
      else .ok () { l with log } := by
  obtain ⟨log, watched⟩ := watch_run e (.stampAbsent (.str field)) l
  have plain := ground.plain (ground.noted log w)
  have ordinary := plain.names field (State.stampField_not_taken hf)
  have has := Host.hasAttr_run_ordinary (h := e.host) plain ordinary
  have required := Host.require_run_ordinary (h := e.host) plain ordinary
  have same : ({ l with log } : Live).value? id field = l.value? id field := rfl
  rw [same] at has required
  refine ⟨log, ?_⟩
  rw [stampAbsent, Run.run_bind_ok watched, Live.isDue]
  cases hv : l.value? id field with
  | none =>
    rw [hv] at has
    exact Run.run_bind_ok has _
  | some held =>
    rw [hv] at has required
    rw [Run.run_bind_ok has, Option.isSome_some, if_pos rfl, Run.run_bind_ok required]
    by_cases null : held.isNull = true
    · rw [if_pos null, if_pos null]
      rfl
    · rw [if_neg null, if_neg null]
      rfl

omit hs in
theorem stampAlways_run (w : W l) : ∃ log, (e.stampAlways (.str field)).run l
    = if (l.value? id field).isSome then (e.putStamp field).run { l with log }
      else .ok () { l with log } := by
  obtain ⟨log, watched⟩ := watch_run e (.stampAlways (.str field)) l
  have plain := ground.plain (ground.noted log w)
  have ordinary := plain.names field (State.stampField_not_taken hf)
  have has := Host.hasAttr_run_ordinary (h := e.host) plain ordinary
  have same : ({ l with log } : Live).value? id field = l.value? id field := rfl
  rw [same] at has
  refine ⟨log, ?_⟩
  rw [stampAlways, Run.run_bind_ok watched, Run.run_bind_ok has]
  cases (l.value? id field).isSome <;> rfl

/-- What a stamp has done that was put where it was due. -/
theorem stamps_of_run {x : Run Unit} {due : Bool} (w : W l)
    (is : ∃ log, x.run l
      = if due then (e.putStamp field).run { l with log } else .ok () { l with log })
    {l' : Live} (h : x.run l = .ok () l') : W l' ∧ e.Stamps id field due l l' := by
  obtain ⟨log, is⟩ := is
  rw [is] at h
  cases due with
  | false =>
    cases h
    exact ⟨ground.noted log w, log, rfl⟩
  | true =>
    rw [if_pos rfl, putStamp_run] at h
    cases shown : e.reading? l.reads with
    | none =>
      rw [shown] at h
      cases h
    | some r =>
      rw [shown] at h
      have w' : W { l with log, reads := l.reads + 1 } := ground.ticked _ (ground.noted log w)
      have plain := ground.plain w'
      obtain ⟨isOpen, put⟩ | ⟨f, refused⟩ := Host.setAttr_run_ordinary (h := e.host) plain
        (plain.names field (State.stampField_not_taken hf)) (r.stamp field)
      · cases put.symm.trans h
        exact ⟨ground.written w' (.stamp hs hf _) isOpen, log, r, shown, rfl⟩
      · cases refused.symm.trans h

omit hs hf in
/-- Where the clock has a reading and the field is open, a stamp can be put. -/
theorem answers_of_run {x : Run Unit} {due : Bool} (w : W l)
    (is : ∃ log, x.run l
      = if due then (e.putStamp field).run { l with log } else .ok () { l with log })
    (isOpen : due = true → l.IsOpen id field) (readable : (e.reading? l.reads).isSome = true) :
    ∃ l', x.run l = .ok () l' := by
  obtain ⟨log, is⟩ := is
  rw [is]
  cases due with
  | false => exact ⟨_, rfl⟩
  | true =>
    obtain ⟨r, shown⟩ := Option.isSome_iff_exists.mp readable
    have w' : W { l with log, reads := l.reads + 1 } := ground.ticked _ (ground.noted log w)
    have isOpen' : ({ l with log, reads := l.reads + 1 } : Live).IsOpen id field := isOpen rfl
    rw [if_pos rfl, putStamp_run, show e.reading? ({ l with log } : Live).reads = _ from shown]
    exact ⟨_, Host.setAttr_run_open (ground.plain w') isOpen' _⟩

end World

end Engine

/-! ## The stamps of one state -/

/-- One field holds a moment, and another the day of that moment. -/
def Live.HasDate (l : Live) (id : RecordId) (time day : String) : Prop :=
  ∃ r r', l.value? id time = .some (.moment r) ∧ l.value? id day = .some (.day r')
    ∧ r'.sameDay r = true

namespace Engine

/-- The clock shows one day at a request and at the next. -/
def KeepsDay (e : Engine) (k : Nat) : Prop :=
  ∃ r r', e.reading? k = .some r ∧ e.reading? (k + 1) = .some r' ∧ r'.sameDay r = true

/-- One field holds what the clock shows at a request, and another the day of the next. -/
def DatedFrom (e : Engine) (k : Nat) (id : RecordId) (time day : String) (l : Live) : Prop :=
  ∃ r r', e.reading? k = .some r ∧ e.reading? (k + 1) = .some r'
    ∧ l.value? id time = .some (.moment r) ∧ l.value? id day = .some (.day r')

theorem DatedFrom.hasDate_iff {e : Engine} {k : Nat} {id : RecordId} {time day : String} {l : Live}
    (h : e.DatedFrom k id time day l) : l.HasDate id time day ↔ e.KeepsDay k := by
  obtain ⟨r, r', shown, shown', moment, date⟩ := h
  constructor
  · rintro ⟨q, q', moment', date', same⟩
    cases moment.symm.trans moment'
    cases date.symm.trans date'
    exact ⟨r, r', shown, shown', same⟩
  · rintro ⟨q, q', first, second, same⟩
    cases shown.symm.trans first
    cases shown'.symm.trans second
    exact ⟨r, r', moment, date, same⟩

/-- Two stamps that are put, one right after the other. -/
theorem DatedFrom.of_stamps {e : Engine} {id : RecordId} {time day : String} {l m l' : Live}
    (first : e.Stamps id time true l m) (second : e.Stamps id day true m l') (ne : time ≠ day)
    (isTime : ∀ r : Reading, r.stamp time = .moment r)
    (isDay : ∀ r : Reading, r.stamp day = .day r) :
    e.DatedFrom l.reads id time day l' := by
  obtain ⟨r, shown, moment⟩ := first.value?_self
  obtain ⟨r', shown', date⟩ := second.value?_self
  rw [first.reads] at shown'
  exact ⟨r, r', shown, shown', (second.value?_other ne).trans (isTime r ▸ moment), isDay r' ▸ date⟩

theorem DatedFrom.congr {e : Engine} {k : Nat} {id : RecordId} {time day : String} {l l' : Live}
    (h : e.DatedFrom k id time day l) (hTime : l'.value? id time = l.value? id time)
    (hDay : l'.value? id day = l.value? id day) : e.DatedFrom k id time day l' := by
  rwa [DatedFrom, hTime, hDay]

section Perform

variable {e : Engine} {W : Live → Prop} {id : RecordId} {column : String} {event : Value}
  {old next : State} (ground : Live.Ground W e.machine id) (hold : old ∈ e.machine.states)
include ground hold

/-- What the stamps of a state leave: those that are put follow one another on the clock. -/
theorem dates_of_stamps (stamping : e.machine.config.timestamps.truthy = true) {l l' : Live}
    (w : W l) (h : e.Walks event (e.machine.stampStrides old) l l') :
    W l'
      ∧ (l.isDue id (old.name ++ "_created_at") = true →
        l.isDue id (old.name ++ "_created_on") = true →
        e.DatedFrom l.reads id (old.name ++ "_created_at") (old.name ++ "_created_on") l')
      ∧ ((l.value? id (old.name ++ "_updated_at")).isSome = true →
        (l.value? id (old.name ++ "_updated_on")).isSome = true →
        e.DatedFrom (l.reads + (l.isDue id (old.name ++ "_created_at")).toNat
            + (l.isDue id (old.name ++ "_created_on")).toNat) id
          (old.name ++ "_updated_at") (old.name ++ "_updated_on") l') := by
  have createdAt : old.name ++ "_created_at" ∈ old.stampFields := by simp [State.stampFields]
  have createdOn : old.name ++ "_created_on" ∈ old.stampFields := by simp [State.stampFields]
  have updatedAt : old.name ++ "_updated_at" ∈ old.stampFields := by simp [State.stampFields]
  have updatedOn : old.name ++ "_updated_on" ∈ old.stampFields := by simp [State.stampFields]
  rw [Machine.stampStrides, if_pos stamping] at h
  obtain _ | ⟨h₁, _ | ⟨h₂, _ | ⟨h₃, _ | ⟨h₄, ⟨⟩⟩⟩⟩⟩ := h
  obtain ⟨w₁, s₁⟩ := stamps_of_run ground hold createdAt w (stampAbsent_run ground createdAt w) h₁
  obtain ⟨w₂, s₂⟩ := stamps_of_run ground hold createdOn w₁ (stampAbsent_run ground createdOn w₁) h₂
  obtain ⟨w₃, s₃⟩ := stamps_of_run ground hold updatedAt w₂ (stampAlways_run ground updatedAt w₂) h₃
  obtain ⟨w₄, s₄⟩ := stamps_of_run ground hold updatedOn w₃ (stampAlways_run ground updatedOn w₃) h₄
  -- No stamp has a part in whether a later one is due.
  rw [s₁.isDue_other (by simp)] at s₂
  rw [s₂.value?_other (by simp), s₁.value?_other (by simp)] at s₃
  rw [s₃.value?_other (by simp), s₂.value?_other (by simp), s₁.value?_other (by simp)] at s₄
  refine ⟨w₄, fun due due' => ?_, fun there there' => ?_⟩
  · rw [due] at s₁
    rw [due'] at s₂
    have dated := DatedFrom.of_stamps s₁ s₂ (by simp) (by simp [Reading.stamp, List.isSuffixOf])
      (by simp [Reading.stamp, List.isSuffixOf])
    refine dated.congr ?_ ?_
    · rw [s₄.value?_other (by simp), s₃.value?_other (by simp)]
    · rw [s₄.value?_other (by simp), s₃.value?_other (by simp)]
  · rw [there] at s₃
    rw [there'] at s₄
    have dated := DatedFrom.of_stamps s₃ s₄ (by simp) (by simp [Reading.stamp, List.isSuffixOf])
      (by simp [Reading.stamp, List.isSuffixOf])
    rwa [s₂.reads, s₁.reads] at dated

omit hold in
/-- What follows the stamps leaves them as they are, if the actions do. -/
theorem moveStrides_spares (held : e.machine.config.column = .str column)
    (unstamped : column ∉ old.stampFields)
    (acts : ∀ a ∈ next.enter.toList ++ (next.after ++ old.exit.toList),
      Keeps (Live.Spares W id old.stampFields) (e.runAction event a))
    {s : Stride} (mem : s ∈ Machine.moveStrides old next) :
    Keeps (Live.Spares W id old.stampFields) (e.stride event s) := by
  have write {name : String} (apart : name ∉ old.stampFields)
      (puts : e.machine.Puts name (.str next.name)) :
      Keeps (Live.Spares W id old.stampFields)
        (e.host.setAttr (.str name) (.str next.name)) := by
    intro l w
    obtain ⟨isOpen, h⟩ | ⟨f, h⟩ :=
      @Host.setAttr_run_text e.host l id name (ground.plain w) next.name
    · rw [Run.final_of_ok h]
      refine ⟨ground.written w puts isOpen, fun other hother => ?_⟩
      exact Live.value?_assign_other (fun same : other = name => apart (same ▸ hother)) ..
    · rw [Run.final_of_error h]
      exact ⟨w, fun _ _ => rfl⟩
  obtain ⟨a, ha, rfl⟩ | rfl | rfl := Machine.mem_moveStrides mem
  · exact (acts a ha).bind fun _ => Keeps.pure ()
  · refine (watch_spares ground _).bind fun _ => ?_
    rw [held]
    exact write unstamped (.column held _)
  · exact write (fun mem => State.stampField_ne_committed mem rfl) (.committed _)

end Perform

/-- A transition that is made with stamps leaves the moment and the day of two requests to the
clock, one right after the other: those after what was read before, if both fields for the creation
were null, and those after that, if both for the update are there. The day is the day of the moment
if the clock shows one day at both requests, and only then. -/
theorem dates_of_perform {e : Engine} {W : Live → Prop} {id : RecordId} {column : String}
    {event current : Value} {t : Transition} {old next : State} {l m m' l' : Live}
    (ground : Live.Ground W e.machine id) (held : e.machine.config.column = .str column)
    (stamping : e.machine.config.timestamps.truthy = true) (unstamped : column ∉ old.stampFields)
    (acts : ∀ a ∈ next.enter.toList ++ (next.after ++ old.exit.toList),
      Keeps (Live.Spares W id old.stampFields) (e.runAction event a))
    (allowed : (e.allows event t).run l = .ok true m)
    (read : e.currentState.run m = .ok current m') (w : W m')
    (source : e.machine.stateAt current = .ok old)
    (target : e.machine.stateAt t.target = .ok next)
    (performed : (e.perform event t).run l = .ok true l') :
    let created := (old.name ++ "_created_at", old.name ++ "_created_on")
    let updated := (old.name ++ "_updated_at", old.name ++ "_updated_on")
    let k := m'.reads
    let k' := k + (m'.isDue id created.1).toNat + (m'.isDue id created.2).toNat
    (m'.isDue id created.1 = true → m'.isDue id created.2 = true →
        e.DatedFrom k id created.1 created.2 l'
          ∧ (l'.HasDate id created.1 created.2 ↔ e.KeepsDay k))
      ∧ ((m'.value? id updated.1).isSome = true → (m'.value? id updated.2).isSome = true →
        e.DatedFrom k' id updated.1 updated.2 l'
          ∧ (l'.HasDate id updated.1 updated.2 ↔ e.KeepsDay k')) := by
  intro created updated k k'
  obtain ⟨hold, -⟩ := Definition.stateAt_eq_ok source
  obtain ⟨answers, -, -⟩ := perform_strides allowed read source target
  obtain ⟨-, walks⟩ := (answers true l').mp performed
  obtain ⟨n, stamps, moves⟩ := walks.of_append
  obtain ⟨wn, createds, updateds⟩ := dates_of_stamps ground hold stamping w stamps
  have spared := moves.keeps fun s hs => moveStrides_spares ground held unstamped acts hs
  have same (suffix : String) (hs : old.name ++ suffix ∈ old.stampFields) := (spared wn).2 _ hs
  refine ⟨fun due due' => ?_, fun there there' => ?_⟩
  · have dated := (createds due due').congr (same _ (by simp [State.stampFields]))
      (same _ (by simp [State.stampFields]))
    exact ⟨dated, dated.hasDate_iff⟩
  · have dated := (updateds there there').congr (same _ (by simp [State.stampFields]))
      (same _ (by simp [State.stampFields]))
    exact ⟨dated, dated.hasDate_iff⟩

end Engine

/-! ## A state that is left at midnight -/

def Machine.overnight : Machine where
  config := { initial := "a" }
  states := [{ name := "a" }, { name := "b" }]
  events := [{ name := "go", transitions := [{ source := "a", target := "b" }] }]
  registry := .standard

/-- The clock shows the last second of a day and then the first of the next. -/
def Scene.overnight : Scene :=
  .plain {
    machine? := fun id => if id = 0 then .some Machine.overnight else .none
    clockOf := fun _ => .scripted [
      { year := 2024, month := 1, day := 1, hour := 23, minute := 59, second := 59,
        offset := .some 0 },
      { year := 2024, month := 1, day := 2, second := 1, offset := .some 0 }] } .overnight 0
    (Live.stateNames "state")

theorem Scene.overnight_isFit : Scene.overnight.IsFit :=
  Scene.plain_isFit rfl fun h => absurd (Value.str.inj h) (by decide)

/-- The day is not the one of the moment. -/
theorem Engine.dates_of_perform_overnight :
    let e := Scene.overnight.setting.engineAt .overnight 3
    let l := ((Live.blank.assign 0 "state" "a").assign 0 "a_updated_at" .null).assign 0
      "a_updated_on" .null
    ∃ l', (e.perform "go" { source := "a", target := "b" }).run l = .ok true l'
      ∧ e.DatedFrom 0 0 "a_updated_at" "a_updated_on" l'
      ∧ ¬ l'.HasDate 0 "a_updated_at" "a_updated_on" := by
  intro e l
  have w : Scene.overnight.World l := by
    refine Live.Stands.assign (Live.Stands.assign (Live.Stands.assign Scene.blank_plain ?_ _) ?_ _)
      ?_ _ <;> decide
  have room : Live.Room Scene.overnight.World e 0 "state" :=
    Scene.plain_room Scene.overnight_isFit rfl (by decide) rfl 3
  have read : e.currentState.run l = .ok "a" l :=
    currentState_run (room.plain w) (room.openColumn w).isOrdinary rfl rfl
  have allowed : (e.allows "go" { source := "a", target := "b" }).run l = .ok true l := rfl
  obtain ⟨answers, -, -⟩ := perform_strides allowed read rfl rfl
  have walks : ∃ l', e.Walks "go" (e.machine.strides { name := "a" } { name := "b" }) l l' :=
    ⟨_, .on rfl (.on rfl (.on rfl (.on rfl (.on rfl (.on rfl (.stay _))))))⟩
  obtain ⟨l', walks⟩ := walks
  have performed := (answers true l').mpr ⟨rfl, walks⟩
  obtain ⟨-, dates⟩ := dates_of_perform room.toGround rfl rfl (by decide)
    (by intro _ none; cases none) allowed read w rfl rfl performed
  obtain ⟨dated, same⟩ := dates rfl rfl
  refine ⟨l', performed, dated, fun h => ?_⟩
  obtain ⟨r, r', first, second, sameDay⟩ := same.mp h
  cases first
  cases second
  exact absurd sameDay (by decide)

end Lifecycle
