/-
Filtering: what the filters of a machine make of some records, and that it agrees
with what the machine says of each of them.

A filter reads the column of a record from outside, and a query reads it on the
record. Where both come to the same text (`Engine.Legible`), as they do with data in
a column that nobody answers for (`Engine.legible_of_plain`), the filters split the
records by what the queries say (`Engine.filters_agree`): of a record in a state that
is not declared, queries say nothing and stop, and the filters put it on the side of
those that are in none of the states. What has no text of its own may keep a filter
from answering (`Engine.shy_unfiltered`).
-/
import Lifecycle.Proofs.Hearing
import Lifecycle.Proofs.Texts

namespace Lifecycle

/-! ## Data -/

namespace Value

/-- A value that is written out: it has a text, in which nobody has a say. -/
inductive IsData : Value → Prop where
  | null : IsData .null
  | bool (b : Bool) : IsData (.bool b)
  | int {n : Int} (short : (Value.int n).isLong = false) : IsData (.int n)
  | decimal (m : Int) (p : Nat) : IsData (.decimal m p)
  | str (s : String) : IsData (.str s)
  | list {vs : List Value} (items : ∀ v ∈ vs, IsData v) : IsData (.list vs)
  | tuple {vs : List Value} (items : ∀ v ∈ vs, IsData v) : IsData (.tuple vs)
  | obj {es : List (String × Value)} (items : ∀ entry ∈ es, IsData entry.2) : IsData (.obj es)

theorem anyItem_eq (p : Value → Bool) : ∀ vs, anyItem p vs = vs.any (any p)
  | [] => rfl
  | v :: vs => by rw [anyItem, List.any_cons, anyItem_eq p vs]

theorem anyEntry_eq (p : Value → Bool) : ∀ es, anyEntry p es = es.any fun entry => any p entry.2
  | [] => rfl
  | (_, v) :: es => by rw [anyEntry, List.any_cons, anyEntry_eq p es]

variable {v : Value}

theorem IsData.isFixed (data : v.IsData) : v.isFixed = true := by
  suffices v.any lacksText = false by rw [Value.isFixed, this]; rfl
  induction data with
  | list items ih | tuple items ih =>
    simpa [any, anyItem_eq, lacksText] using ih
  | obj items ih => simpa [any, anyEntry_eq, lacksText] using fun a b mem => ih (a, b) mem
  | _ => simp [any, lacksText]

theorem IsData.isTooLong (data : v.IsData) : v.isTooLong = false := by
  rw [Value.isTooLong]
  induction data with
  | int short => rwa [any] <;> simp
  | list items ih | tuple items ih => simpa [any, anyItem_eq, isLong] using ih
  | obj items ih => simpa [any, anyEntry_eq, isLong] using fun a b mem => ih (a, b) mem
  | _ => simp [any, isLong]

theorem IsData.asText (data : v.IsData) : v.asText = .str v.text := by
  have fixed := data.isFixed
  cases data with
  | _ =>
    rw [Value.asText, if_pos fixed]
    simp

theorem IsData.settleIn (data : v.IsData) (s : Shelf) (room : Nat) (around : List Identity) :
    s.settleIn room around v = v := by
  induction data with
  | @list vs items ih | @tuple vs items ih =>
    have settled : s.settleItems room around vs = vs := by
      clear items
      induction vs with
      | nil => rw [Shelf.settleItems]
      | cons v vs rest =>
        rw [Shelf.settleItems, ih v (.head _), rest fun w mem => ih w (.tail _ mem)]
    rw [Shelf.settleIn, settled]
  | @obj es items ih =>
    have settled : s.settleEntries room around es = es := by
      clear items
      induction es with
      | nil => rw [Shelf.settleEntries]
      | cons entry es rest =>
        rw [Shelf.settleEntries, ih entry (.head _), rest fun w mem => ih w (.tail _ mem)]
    rw [Shelf.settleIn, settled]
  | _ => rw [Shelf.settleIn] <;> simp

end Value

namespace Host

variable (h : Host) {v : Value}

theorem spell_of_isData (data : v.IsData) : h.spell v = pure v := by
  induction data with
  | int short => rw [spell, short, if_neg Bool.false_ne_true]
  | @list vs items ih | @tuple vs items ih =>
    have spelled : h.spellAll vs = pure vs := by
      clear items
      induction vs with
      | nil => rfl
      | cons v vs rest =>
        rw [spellAll, ih v (.head _), rest fun w mem => ih w (.tail _ mem)]
        rfl
    rw [spell, spelled, pure_bind]
  | @obj es items ih =>
    have spelled : h.spellEntries es = pure es := by
      clear items
      induction es with
      | nil => rfl
      | cons entry es rest =>
        rw [spellEntries, ih entry (.head _), rest fun w mem => ih w (.tail _ mem)]
        rfl
    rw [spell, spelled, pure_bind]
  | _ => rw [spell] <;> simp

theorem asText_of_isData (data : v.IsData) : h.asText v = pure v.asText := by
  have unasked (name : String) : h.ask name v [] = pure .none := by
    cases data <;> rfl
  have spelled : h.spelled v = pure v := by
    funext l
    change h.spell (l.settle v) l = _
    rw [show l.settle v = v from data.settleIn _ _ _, spell_of_isData h data]
  rw [asText, unasked, pure_bind, unasked, pure_bind, spelled]
  rfl

theorem asTexts_of_isData : ∀ {names : List Value}, (∀ name ∈ names, name.IsData) →
    h.asTexts names = pure (names.map Value.asText)
  | [], _ => rfl
  | name :: names, data => by
    rw [asTexts, asText_of_isData h (data name (.head _)),
      asTexts_of_isData fun other mem => data other (.tail _ mem)]
    rfl

/-- What a column with data shows. -/
theorem asState_of_isData (data : v.IsData) : h.asState v = pure v.asState := by
  rw [asState, Value.asState, asText_of_isData h data]
  split <;> rfl

end Host

/-! ## Names -/

/-- Whether a state is one of some names. -/
def Value.isAmong (v : Value) (names : List Value) : Bool :=
  (names.map Value.asText).any (v.same ·)

namespace Definition

variable {d : Definition} {names : List Value}

/-- The texts of those names that are not declared. -/
def undeclared (d : Definition) (names : List Value) : List Value :=
  (names.map Value.asText).filter (!d.knows ·)

theorem knows_of_undeclared (declared : d.undeclared names = []) {name : Value}
    (mem : name ∈ names) : d.knows name.asText = true := by
  have listed : name.asText ∈ names.map Value.asText := List.mem_map_of_mem mem
  simpa using List.filter_eq_nil_iff.mp declared _ listed

theorem checkStates_of_isData (data : ∀ name ∈ names, name.IsData) :
    d.checkStates names = match d.undeclared names with
      | [] => .ok (names.map Value.asText)
      | unknown => .error (.unknownStates unknown) := by
  have short : (Value.list names).checkText = .ok () := by
    rw [Value.checkText, (Value.IsData.list data).isTooLong]
    rfl
  rw [checkStates, short]
  rfl

/-- A state that is not declared is none of those that are. -/
theorem isAmong_of_not_knows (declared : d.undeclared names = []) {v : Value}
    (unknown : d.knows v = false) : v.isAmong names = false := by
  rw [Value.isAmong, List.any_eq_false]
  intro text mem same
  obtain ⟨name, listed, rfl⟩ := List.mem_map.mp mem
  have known := knows_of_undeclared declared listed
  cases text : name.asText with
  | str s =>
    rw [text] at same known
    cases v with
    | str t =>
      obtain rfl : t = s := by simpa using same
      exact Bool.false_ne_true (unknown.symm.trans known)
    | _ => simp [Value.same, Value.isNull, Value.numberIs] at same
  | _ =>
    rw [text] at known
    cases known

/-- Texts are their own texts. -/
theorem checkStates_texts (data : ∀ name ∈ names, name.IsData) :
    d.checkStates (names.map Value.asText) = d.checkStates names := by
  have texts : ∀ text ∈ names.map Value.asText, text.IsData := fun text mem => by
    obtain ⟨name, listed, rfl⟩ := List.mem_map.mp mem
    exact (data name listed).asText ▸ .str _
  rw [checkStates_of_isData texts, checkStates_of_isData data, undeclared, undeclared,
    List.map_map, show Value.asText ∘ Value.asText = Value.asText from funext Value.asText_asText]

end Definition

/-! ## Reading -/

/-- The same on a record. -/
def Live.on (l : Live) (id : RecordId) : Live := { l with self := .record id }

namespace Host

variable {α β : Type} {visit : Value → Run α}

/-- Where each visit answers and nothing happens, so does the whole way. -/
theorem walkItems_run {l : Live} {value : β → Value} {answer : β → α} : ∀ {bs : List β},
    (∀ b ∈ bs, (visit (value b)).run l = .ok (answer b) l) →
      (walkItems visit (bs.map value)).run l = .ok (bs.map answer) l
  | [], _ => rfl
  | b :: bs, visits => by
    rw [List.map_cons, walkItems, Run.run_bind_ok (visits b (.head _)),
      Run.run_bind_ok (walkItems_run fun c mem => visits c (.tail _ mem))]
    rfl

end Host

namespace Engine

/-- The column of a record can be read and written as a text without anything else being done, on
the record as well as from outside. -/
structure Legible (e : Engine) (l : Live) (id : RecordId) (state : Value) : Prop where
  inside : e.currentState.run (l.on id) = .ok state (l.on id)
  outside : (e.stateOf (.record id)).run l = .ok state l

/-- So can a column that holds data, or that is missing, where no class has a say in reading it. -/
theorem legible_of_plain {e : Engine} {l : Live} {id : RecordId} {column : String}
    (plain : (l.on id).Plain id) (held : e.machine.config.column = .str column)
    (ordinary : (l.on id).IsOrdinary id column)
    (data : (((l.on id).value? id column).getD .null).IsData) :
    e.Legible l id (((l.on id).value? id column).getD .null).asState := by
  have read := Host.attr_run_ordinary (h := e.host) plain ordinary
  constructor
  · rw [currentState, held, Run.run_bind_ok read, Host.asState_of_isData _ data]
    rfl
  · rw [stateOf, held, Host.attrOf, Run.run_bind_ok (Run.as_run_ok read),
      Host.asState_of_isData _ data]
    rfl

variable {e : Engine} {l : Live} {ids : List RecordId} {names : List Value}
  {state : RecordId → Value}

/-! ## Filters -/

theorem selectValues_refused (data : ∀ name ∈ names, name.IsData)
    (unknown : e.machine.undeclared names ≠ []) (among : Bool) (values : Value) :
    (e.selectValues among values names).run l
      = .error (.fault (.unknownStates (e.machine.undeclared names))) l := by
  have checked : e.machine.checkStates (names.map Value.asText)
      = .error (.unknownStates (e.machine.undeclared names)) := by
    rw [Definition.checkStates_texts data, Definition.checkStates_of_isData data]
    split
    · next declared => exact absurd declared unknown
    · rfl
  rw [selectValues, Host.asTexts_of_isData _ data, pure_bind, checked]
  rfl

/-- A filter keeps the records whose state is one of some names, or the others. -/
theorem selectValues_run (legible : ∀ id ∈ ids, e.Legible l id (state id))
    (data : ∀ name ∈ names, name.IsData) (declared : e.machine.undeclared names = [])
    (among : Bool) : (e.selectValues among (Command.listOf ids) names).run l
      = .ok (Command.listOf (ids.filter fun id => (state id).isAmong names == among)) l := by
  have checked : e.machine.checkStates (names.map Value.asText)
      = .ok (names.map Value.asText) := by
    rw [Definition.checkStates_texts data, Definition.checkStates_of_isData data, declared]
  have walked : (Host.walkItems (fun v => do
        let state ← e.stateOf v
        return (v, state)) (ids.map .record)).run l
      = .ok (ids.map fun id => (.record id, state id)) l :=
    Host.walkItems_run fun id listed => Run.run_bind_ok (legible id listed).outside _
  rw [selectValues, Host.asTexts_of_isData _ data, pure_bind, checked,
    Run.run_bind_ok (Run.run_lift_ok _ l), walk_records, Run.run_bind_ok walked]
  refine congrArg (EStateM.Result.ok · l) (congrArg Value.list ?_)
  rw [Definition.select, List.filter_map, List.map_map]
  rfl

/-! ## Queries -/

variable {id : RecordId} {v name : Value}

theorem declaredState_run (legible : e.Legible l id v) : e.declaredState.run (l.on id)
    = (Run.lift (e.machine.checkCurrent v)).run (l.on id) :=
  Run.run_bind_ok legible.inside _

/-- A record is asked for its state only if the name is declared. -/
theorem isInState_run (legible : e.Legible l id v) (data : name.IsData)
    (declared : e.machine.knows name.asText = true) : (e.isInState name).run (l.on id)
      = (do return (← Run.lift (e.machine.checkCurrent v)).same name.asText).run (l.on id) := by
  have checked : e.machine.checkStates [name] = .ok [name.asText] := by
    rw [Definition.checkStates_of_isData (List.forall_mem_singleton.mpr data)]
    simp [Definition.undeclared, declared]
  rw [isInState, checked, Run.run_bind_ok (Run.run_lift_ok _ _)]
  exact Run.run_bind_congr (declaredState_run legible) _

theorem isInState_run_of_known (legible : e.Legible l id v) (data : name.IsData)
    (declared : e.machine.knows name.asText = true)
    (known : (v.isNull || e.machine.knows v) = true) :
    (e.isInState name).run (l.on id) = .ok (v.same name.asText) (l.on id) := by
  rw [isInState_run legible data declared, Definition.checkCurrent, if_pos known]
  rfl

theorem isInState_run_of_unknown (legible : e.Legible l id v) (data : name.IsData)
    (declared : e.machine.knows name.asText = true)
    (unknown : (v.isNull || e.machine.knows v) = false) :
    (e.isInState name).run (l.on id) = .error (.fault (.unknownStates [v])) (l.on id) := by
  rw [isInState_run legible data declared, Definition.checkCurrent, if_neg (by simp [unknown])]
  rfl

/-- In a state that is not set or declared, a record is asked for by name. -/
theorem isAmong_iff (legible : e.Legible l id v) (data : ∀ name ∈ names, name.IsData)
    (declared : e.machine.undeclared names = [])
    (known : (v.isNull || e.machine.knows v) = true) :
    v.isAmong names = true
      ↔ ∃ name ∈ names, (e.isInState name).run (l.on id) = .ok true (l.on id) := by
  have said : ∀ name ∈ names, (e.isInState name).run (l.on id)
      = .ok (v.same name.asText) (l.on id) := fun name listed =>
    isInState_run_of_known legible (data name listed)
      (Definition.knows_of_undeclared declared listed) known
  rw [Value.isAmong, List.any_map, List.any_eq_true]
  constructor
  · rintro ⟨name, listed, same⟩
    have same : v.same name.asText = true := same
    exact ⟨name, listed, (said name listed).trans (by rw [same])⟩
  · rintro ⟨name, listed, answered⟩
    rw [said name listed] at answered
    exact ⟨name, listed, (EStateM.Result.ok.inj answered).1⟩

/-- A record in a declared state is in this state alone. -/
theorem existsUnique_isInState (legible : e.Legible l id v) (known : e.machine.knows v = true) :
    ∃! s : String, e.machine.declares s = true
      ∧ (e.isInState (.str s)).run (l.on id) = .ok true (l.on id) := by
  cases v with
  | str s =>
    have said (t : String) (declared : e.machine.declares t = true) :
        (e.isInState (.str t)).run (l.on id) = .ok (s == t) (l.on id) := by
      have answered := isInState_run_of_known legible (.str t) (by rwa [Value.asText_str])
        (by rw [known, Bool.or_true])
      simpa using answered
    refine ⟨s, ⟨known, by simpa using said s known⟩, ?_⟩
    rintro t ⟨declared, answered⟩
    rw [said t declared] at answered
    have same : (s == t) = true := (EStateM.Result.ok.inj answered).1
    exact (beq_iff_eq.mp same).symm
  | _ => cases known

/-! ## Agreement -/

/-- The filters refuse names that are not declared, whatever the records are, and else split the
records: each is among some names if it answers for one of them that it is in it. A record that has
no state is in none and one in a declared state in just that; in any other it does not answer. -/
theorem filters_agree (legible : ∀ id ∈ ids, e.Legible l id (state id))
    (data : ∀ name ∈ names, name.IsData) :
    (e.machine.undeclared names ≠ [] → ∀ among values,
        (e.selectValues among values names).run l
          = .error (.fault (.unknownStates (e.machine.undeclared names))) l)
      ∧ (e.machine.undeclared names = [] →
        (∀ among, (e.selectValues among (Command.listOf ids) names).run l
          = .ok (Command.listOf (ids.filter fun id => (state id).isAmong names == among)) l)
        ∧ ∀ id ∈ ids,
          (e.machine.knows (state id) = false → (state id).isAmong names = false)
          ∧ (((state id).isNull || e.machine.knows (state id)) = true →
            ((state id).isAmong names = true
              ↔ ∃ name ∈ names, (e.isInState name).run (l.on id) = .ok true (l.on id))))
      ∧ ∀ id ∈ ids,
        (state id = .null → ∀ s, e.machine.declares s = true →
          (e.isInState (.str s)).run (l.on id) = .ok false (l.on id))
        ∧ (e.machine.knows (state id) = true → ∃! s : String, e.machine.declares s = true
          ∧ (e.isInState (.str s)).run (l.on id) = .ok true (l.on id))
        ∧ (((state id).isNull || e.machine.knows (state id)) = false →
          e.declaredState.run (l.on id) = .error (.fault (.unknownStates [state id])) (l.on id)
          ∧ ∀ s, e.machine.declares s = true → (e.isInState (.str s)).run (l.on id)
            = .error (.fault (.unknownStates [state id])) (l.on id)) := by
  refine ⟨fun unknown among values => selectValues_refused data unknown among values,
    fun declared => ⟨selectValues_run legible data declared, fun id mem => ?_⟩, fun id mem => ?_⟩
  · exact ⟨Definition.isAmong_of_not_knows declared, isAmong_iff (legible id mem) data declared⟩
  · refine ⟨fun unset s declared => ?_, existsUnique_isInState (legible id mem), fun unknown => ?_⟩
    · have answered := isInState_run_of_known (legible id mem) (.str s) (by rwa [Value.asText_str])
        (by rw [unset]; rfl)
      rw [unset] at answered
      simpa [Value.isNull] using answered
    · refine ⟨?_, fun s declared =>
        isInState_run_of_unknown (legible id mem) (.str s) (by rwa [Value.asText_str]) unknown⟩
      rw [declaredState_run (legible id mem), Definition.checkCurrent, if_neg (by simp [unknown])]
      rfl

end Engine

/-- Four records: without a state, with null, in a declared state, and in one that is not. -/
def Live.quartet : Live :=
  let bare : Live := {
    classes := Class.plainOnly
    records := (List.range 4).map fun i => { cls := 3, sheet := .attributes i }
    shelf := { taken := 4 } }
  ((bare.assign 1 "state" .null).assign 2 "state" "a").assign 3 "state" "z"

theorem Live.quartet_stands : ∀ {id : RecordId}, id < 4 →
    (Live.quartet.on id).Stands Class.plainOnly 3 id []
  | 0, _ | 1, _ | 2, _ | 3, _ => ⟨rfl, rfl, rfl, nofun⟩
  | id + 4, known => absurd known (Nat.not_lt.mpr (Nat.le_add_left 4 id))

namespace Engine

theorem filters_agree_quartet :
    let e := picky []
    let l := Live.quartet
    let records := Command.listOf [3, 2, 0, 2, 1]
    (e.selectValues true records ["b", "a"]).run l = .ok (Command.listOf [2, 2]) l
      ∧ (e.selectValues false records ["b", "a"]).run l = .ok (Command.listOf [3, 0, 1]) l
      ∧ (e.selectValues true records ["b", "c", "a", "d"]).run l
        = .error (.fault (.unknownStates ["c", "d"])) l
      ∧ e.declaredState.run (l.on 3) = .error (.fault (.unknownStates ["z"])) (l.on 3) := by
  intro e l records
  let held (id : RecordId) : Value := ((l.on id).value? id "state").getD .null
  have data : ∀ id, (held id).IsData
    | 0 | 1 => .null
    | 2 => .str "a"
    | 3 => .str "z"
    | _ + 4 => .null
  have legible : ∀ id ∈ [3, 2, 0, 2, 1], e.Legible l id (held id).asState := by
    intro id mem
    have known : id < 4 := (by decide : ∀ id ∈ [3, 2, 0, 2, 1], id < 4) id mem
    have plain := (Live.quartet_stands known).plain Class.plainOnly_isSimple
    exact legible_of_plain plain rfl (plain.names "state" (by decide)) (data id)
  have texts (names : List String) : ∀ name ∈ names.map Value.str, name.IsData := fun name mem => by
    obtain ⟨s, -, rfl⟩ := List.mem_map.mp mem
    exact .str s
  obtain ⟨-, answers, queries⟩ := filters_agree legible (texts ["b", "a"])
  obtain ⟨refuses, -⟩ := filters_agree legible (texts ["b", "c", "a", "d"])
  obtain ⟨splits, -⟩ := answers rfl
  refine ⟨splits true, splits false, refuses (by decide) true records, ?_⟩
  exact ((queries 3 (.head _)).2.2 rfl).1

/-- Where the column holds what its record will not have written, there is no telling whether it is
one of the declared states. -/
theorem shy_unfiltered :
    (Draft.afterAll Draft.Call.shy { config := { initial := "a" } }).machine? = .some shy.machine
      ∧ shy.machine.undeclared ["a"] = []
      ∧ (shy.selectValues true (Command.listOf [0]) ["a"]).run shyEnd
        = .error (.fault (.raised .boom "no")) shyEnd
      ∧ (shy.isInState "a").run shyEnd = .error (.fault (.raised .boom "no")) shyEnd := by
  have declared : shy.machine.checkStates ["a"] = .ok ["a"] := rfl
  obtain ⟨read, unshown⟩ := shy_hidden
  have visited : (shy.stateOf (.record 0)).run shyEnd
      = .error (.fault (.raised .boom "no")) shyEnd :=
    (Run.run_bind_ok (Run.run_as_ok rfl read) _).trans unshown
  refine ⟨rfl, rfl, ?_, ?_⟩
  · have data : ∀ name ∈ [(.str "a" : Value)], name.IsData :=
      List.forall_mem_singleton.mpr (.str "a")
    rw [selectValues, Host.asTexts_of_isData _ data, pure_bind]
    refine (Run.run_bind_ok (Run.run_lift_ok _ _) _).trans ?_
    rw [walk_records]
    exact Run.run_bind_error (Run.run_bind_error (Run.run_bind_error visited _) _) _
  · rw [isInState, declared, Run.run_bind_ok (Run.run_lift_ok _ _)]
    exact Run.run_bind_error (Run.run_bind_error shy_ends _) _

end Engine

end Lifecycle
