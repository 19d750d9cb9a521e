/-
Plain records: records whose classes leave the use of attributes to the library.

`Live.value?` is what such a record holds under a name, and `Live.assign` what
it is after one of its attributes was set. Reading an ordinary attribute answers
with the first (`attr?_run_ordinary`), setting one leads to the second or is
refused and changes nothing (`setAttr_run_ordinary`), and the two fit together:
`value?_assign_self`, `value?_assign_other`.
-/
import Lifecycle.Engine
import Lifecycle.Proofs.Ends

namespace Lifecycle

namespace Live

variable {l : Live} {id : RecordId}

/-- The names under which others than the record itself may answer. -/
def takenNames : List String :=
  [Generated.currentState.name, attributesAttribute, classAttribute, referencesAttribute]

/-- Under an ordinary name a record holds a value of its own, among its attributes or in a place
made for it. -/
def IsOrdinary (l : Live) (id : RecordId) (name : String) : Prop :=
  l.reserved? id name = .none ∨ l.reserved? id name = .some .slot

/-- Under an open name the record can be given any value. -/
def IsOpen (l : Live) (id : RecordId) (name : String) : Prop :=
  l.reserved? id name = .some .slot
    ∨ l.reserved? id name = .none ∧ l.refusal? id name = .none

theorem IsOpen.isOrdinary {l : Live} {id : RecordId} {name : String} (h : l.IsOpen id name) :
    l.IsOrdinary id name :=
  h.elim .inr fun unreserved => .inl unreserved.1

/-- What is found under an ordinary name. -/
def value? (l : Live) (id : RecordId) (name : String) : Option Value :=
  if l.reserved? id name = .some .slot then (l.slotsOf id).get? name else l.stored? id name

/-- The record with another value under an ordinary name. -/
def assign (l : Live) (id : RecordId) (name : String) (v : Value) : Live :=
  if l.reserved? id name = .some .slot then l.withSlots id ((l.slotsOf id).set name v)
  else l.withAttrs id ((l.attrsOf id).set name v)

/-- The run is on this record, and no class of it takes the use of attributes over. -/
structure Plain (l : Live) (id : RecordId) : Prop where
  self : l.self = .record id
  hooks : ∀ use, l.hook? id use = .none
  names : ∀ name, name ∉ takenNames → l.IsOrdinary id name

theorem Plain.hooksReads (h : l.Plain id) : l.hooksReads id = false := by
  have read := h.hooks .read
  have missing := h.hooks .missing
  simp only [hook?, Option.map_eq_none_iff] at read missing
  simp [Live.hooksReads, read, missing]

/-! ## What an assignment leaves as it is -/

theorem classOf?_withSlots (l : Live) (id : RecordId) (t : Table Value) (w : Value) :
    (l.withSlots id t).classOf? w = l.classOf? w := by
  cases w with
  | record other =>
    simp only [classOf?, withSlots, List.getElem?_modify]
    cases l.records[other]? with
    | none => rfl
    | some r => by_cases h : id = other <;> simp [h]
  | _ => rfl

theorem attrsOf_withSlots (l : Live) (id : RecordId) (t : Table Value) :
    (l.withSlots id t).attrsOf id = l.attrsOf id := by
  simp only [attrsOf, sheetOf, withSlots, List.getElem?_modify_eq]
  cases l.records[id]? <;> rfl

theorem slotsOf_withSlots (l : Live) {id : RecordId} (t : Table Value) (h : id < l.records.length) :
    (l.withSlots id t).slotsOf id = t := by
  simp [slotsOf, withSlots, List.getElem?_eq_getElem h]

theorem classOf?_assign (l : Live) (id : RecordId) (name : String) (v w : Value) :
    (l.assign id name v).classOf? w = l.classOf? w := by
  unfold assign
  split
  · exact classOf?_withSlots l id _ w
  · rfl

@[simp] theorem classes_assign (l : Live) (id : RecordId) (name : String) (v : Value) :
    (l.assign id name v).classes = l.classes := by
  unfold assign
  split <;> rfl

@[simp] theorem self_assign (l : Live) (id : RecordId) (name : String) (v : Value) :
    (l.assign id name v).self = l.self := by
  unfold assign
  split <;> rfl

@[simp] theorem log_assign (l : Live) (id : RecordId) (name : String) (v : Value) :
    (l.assign id name v).log = l.log := by
  unfold assign
  split <;> rfl

@[simp] theorem reads_assign (l : Live) (id : RecordId) (name : String) (v : Value) :
    (l.assign id name v).reads = l.reads := by
  unfold assign
  split <;> rfl

@[simp] theorem lineage_assign (l : Live) (id : RecordId) (name : String) (v w : Value) :
    (l.assign id name v).lineage w = l.lineage w := by
  simp only [lineage, lineageOf, classOf?_assign, classes_assign]

@[simp] theorem owner_assign (l : Live) (id : RecordId) (name : String) (v w : Value) :
    (l.assign id name v).owner w = l.owner w := by
  simp only [owner, classOf?_assign]

@[simp] theorem reserved?_assign (l : Live) (id : RecordId) (name : String) (v : Value)
    (other : RecordId) (n : String) :
    (l.assign id name v).reserved? other n = l.reserved? other n := by
  simp only [reserved?, lineage_assign]

@[simp] theorem refusal?_assign (l : Live) (id : RecordId) (name : String) (v : Value)
    (other : RecordId) (n : String) :
    (l.assign id name v).refusal? other n = l.refusal? other n := by
  simp only [refusal?, lineage_assign]

@[simp] theorem hook?_assign (l : Live) (id : RecordId) (name : String) (v : Value)
    (other : RecordId) (use : Hook) :
    (l.assign id name v).hook? other use = l.hook? other use := by
  simp only [hook?, lineage_assign, owner_assign]

@[simp] theorem inherited?_assign (l : Live) (id : RecordId) (name : String) (v w : Value)
    (n : String) : (l.assign id name v).inherited? w n = l.inherited? w n := by
  simp only [inherited?, lineage_assign, owner_assign]

@[simp] theorem isOrdinary_assign (l : Live) (id : RecordId) (name : String) (v : Value)
    (other : RecordId) (n : String) :
    (l.assign id name v).IsOrdinary other n ↔ l.IsOrdinary other n := by
  simp only [IsOrdinary, reserved?_assign]

@[simp] theorem isOpen_assign (l : Live) (id : RecordId) (name : String) (v : Value)
    (other : RecordId) (n : String) : (l.assign id name v).IsOpen other n ↔ l.IsOpen other n := by
  simp only [IsOpen, reserved?_assign, refusal?_assign]

theorem Plain.assign (h : l.Plain id) (name : String) (v : Value) :
    (l.assign id name v).Plain id where
  self := by rw [self_assign, h.self]
  hooks use := by rw [hook?_assign, h.hooks]
  names n hn := (isOrdinary_assign l id name v id n).mpr (h.names n hn)

/-! ## What is found after an assignment -/

/-- Only a record that is there has places for single attributes. -/
theorem lt_of_reserved {r : Reserved} {name : String} (h : l.reserved? id name = .some r) :
    id < l.records.length := by
  rcases Nat.lt_or_ge id l.records.length with hlt | hge
  · exact hlt
  · have hnone : l.records[id]? = .none := List.getElem?_eq_none hge
    simp [reserved?, lineage, classOf?, hnone, Lineage.member?] at h

@[simp] theorem value?_assign_self {name : String} (l : Live) (id : RecordId) (v : Value) :
    (l.assign id name v).value? id name = .some v := by
  simp only [value?, reserved?_assign]
  split
  · next h =>
    simp only [Live.assign, h, if_true, slotsOf_withSlots l _ (lt_of_reserved h),
      Table.get?_set_self]
  · next h =>
    simp only [Live.assign, h, if_false, stored?, attrsOf_withAttrs_self, Table.get?_set_self]

theorem value?_assign_other {name other : String} (hne : other ≠ name) (l : Live) (id : RecordId)
    (v : Value) : (l.assign id name v).value? id other = l.value? id other := by
  simp only [value?, reserved?_assign, stored?, inherited?_assign]
  by_cases hslot : l.reserved? id name = .some .slot
  · have slots : (l.assign id name v).slotsOf id = (l.slotsOf id).set name v := by
      rw [Live.assign, if_pos hslot, slotsOf_withSlots l _ (lt_of_reserved hslot)]
    have attrs : (l.assign id name v).attrsOf id = l.attrsOf id := by
      rw [Live.assign, if_pos hslot, attrsOf_withSlots]
    rw [slots, attrs, Table.get?_set_other _ _ hne]
  · have slots : (l.assign id name v).slotsOf id = l.slotsOf id := by
      rw [Live.assign, if_neg hslot]
      rfl
    have attrs : (l.assign id name v).attrsOf id = (l.attrsOf id).set name v := by
      rw [Live.assign, if_neg hslot, attrsOf_withAttrs_self]
    rw [slots, attrs, Table.get?_set_other _ _ hne]

/-- The attributes that a record has of its own are the same but for the one that is assigned. -/
theorem attrsOf_assign_other {name other : String} (hne : other ≠ name) (l : Live) (id : RecordId)
    (v : Value) : ((l.assign id name v).attrsOf id).get? other = (l.attrsOf id).get? other := by
  unfold assign
  split
  · rw [attrsOf_withSlots]
  · rw [attrsOf_withAttrs_self, Table.get?_set_other _ _ hne]

/-! ## What an erasure leaves -/

/-- The record without a value of its own under an ordinary name. -/
def discarded (l : Live) (id : RecordId) (name : String) : Live :=
  if l.reserved? id name = .some .slot then l.withSlots id ((l.slotsOf id).erase name)
  else l.withAttrs id ((l.attrsOf id).erase name)

theorem classOf?_discarded (l : Live) (id : RecordId) (name : String) (w : Value) :
    (l.discarded id name).classOf? w = l.classOf? w := by
  unfold discarded
  split
  · exact classOf?_withSlots l id _ w
  · rfl

@[simp] theorem classes_discarded (l : Live) (id : RecordId) (name : String) :
    (l.discarded id name).classes = l.classes := by
  unfold discarded
  split <;> rfl

@[simp] theorem self_discarded (l : Live) (id : RecordId) (name : String) :
    (l.discarded id name).self = l.self := by
  unfold discarded
  split <;> rfl

theorem value?_discarded_other {name other : String} (hne : other ≠ name) (l : Live)
    (id : RecordId) : (l.discarded id name).value? id other = l.value? id other := by
  have lines (w : Value) : (l.discarded id name).lineage w = l.lineage w := by
    simp only [lineage, lineageOf, classOf?_discarded, classes_discarded]
  have owners (w : Value) : (l.discarded id name).owner w = l.owner w := by
    simp only [owner, classOf?_discarded]
  have reserved (n : String) : (l.discarded id name).reserved? id n = l.reserved? id n := by
    simp only [reserved?, lines]
  have inherited (w : Value) (n : String) :
      (l.discarded id name).inherited? w n = l.inherited? w n := by
    simp only [inherited?, lines, owners]
  simp only [value?, reserved, stored?, inherited]
  by_cases hslot : l.reserved? id name = .some .slot
  · have slots : (l.discarded id name).slotsOf id = (l.slotsOf id).erase name := by
      rw [discarded, if_pos hslot, slotsOf_withSlots l _ (lt_of_reserved hslot)]
    have attrs : (l.discarded id name).attrsOf id = l.attrsOf id := by
      rw [discarded, if_pos hslot, attrsOf_withSlots]
    rw [slots, attrs, Table.get?_erase_other _ hne]
  · have slots : (l.discarded id name).slotsOf id = l.slotsOf id := by
      rw [discarded, if_neg hslot]
      rfl
    have attrs : (l.discarded id name).attrsOf id = (l.attrsOf id).erase name := by
      rw [discarded, if_neg hslot, attrsOf_withAttrs_self]
    rw [slots, attrs, Table.get?_erase_other _ hne]

end Live

namespace Host

variable {h : Host} {l : Live} {id : RecordId} {name : String}

/-! ## Reading -/

theorem attr?_run_ordinary (hp : l.Plain id) (ho : l.IsOrdinary id name) :
    (h.attr? (.str name)).run l = .ok (l.value? id name) l := by
  rcases ho with hr | hr
  · rw [attr?_run hp.self hp.hooksReads hr, Live.value?, if_neg (by simp [hr])]
  · have own : (h.recordOwn? id name).run l = .ok ((l.slotsOf id).get? name) l := by
      rw [recordOwn?, Run.run_bind_ok (Run.run_get l)]
      simp only [hr]
      rw [plain?, Run.run_bind_ok (Run.run_get l)]
      simp only [hr]
      rfl
    rw [attr?, Run.run_bind_ok (Run.run_get l)]
    simp only [hp.self]
    rw [look?_run hp.hooksReads, own, Live.value?, if_pos hr]

theorem attr_run_ordinary (hp : l.Plain id) (ho : l.IsOrdinary id name) :
    (h.attr (.str name)).run l = .ok ((l.value? id name).getD .null) l := by
  rw [attr, Run.run_bind_ok (attr?_run_ordinary hp ho)]
  rfl

theorem hasAttr_run_ordinary (hp : l.Plain id) (ho : l.IsOrdinary id name) :
    (h.hasAttr (.str name)).run l = .ok (l.value? id name).isSome l := by
  rw [hasAttr, Run.run_bind_ok (attr?_run_ordinary hp ho)]
  rfl

/-! ## Writing -/

theorem hookNow?_run (hp : l.Plain id) (use : Hook) : (h.hookNow? use).run l = .ok .none l := by
  rw [hookNow?, Run.run_bind_ok (Run.run_get l)]
  simp only [hp.self, hp.hooks]
  rfl

theorem setAttr_run_plain (hp : l.Plain id) (v : Value) :
    (h.setAttr (.str name) v).run l = (h.storeOn id name v).run l := by
  rw [setAttr, Run.run_bind_ok (hookNow?_run hp _)]
  unfold store
  rw [Run.run_bind_ok (Run.run_get l)]
  simp only [hp.self]

theorem delAttr_run_plain (hp : l.Plain id) :
    (h.delAttr (.str name)).run l = (h.discardOn id name).run l := by
  rw [delAttr, Run.run_bind_ok (hookNow?_run hp _), discard, Run.run_bind_ok (Run.run_get l)]
  simp only [hp.self]

/-- Where nothing stands against it, an assignment under an ordinary name is carried out. -/
theorem setAttr_run_open (hp : l.Plain id) (ho : l.IsOpen id name) (v : Value) :
    (h.setAttr (.str name) v).run l = .ok () (l.assign id name v) := by
  rw [setAttr_run_plain hp, storeOn, Run.run_bind_ok (Run.run_get l)]
  rcases ho with hr | ⟨hr, hf⟩
  · simp only [hr, Live.assign, if_true]
    rfl
  · simp only [hr, hf, Live.assign]
    rfl

/-- What no view of a record takes goes to an ordinary attribute, or nothing happens but a fault. -/
theorem setAttr_run_of_unviewed (hp : l.Plain id) {v : Value}
    (unviewed : ∀ what : View, ∃ f, (what.write id v).run l = .error (.fault f) l) :
    (l.IsOpen id name ∧ (h.setAttr (.str name) v).run l = .ok () (l.assign id name v))
      ∨ ∃ f, (h.setAttr (.str name) v).run l = .error (.fault f) l := by
  by_cases ho : l.IsOpen id name
  · exact .inl ⟨ho, setAttr_run_open hp ho _⟩
  · right
    rw [setAttr_run_plain hp, storeOn, Run.run_bind_ok (Run.run_get l)]
    cases hr : l.reserved? id name with
    | none =>
      cases hf : l.refusal? id name with
      | none => exact absurd (.inr ⟨hr, hf⟩) ho
      | some f => exact ⟨f, rfl⟩
    | some r =>
      cases r with
      | state machine => exact ⟨_, rfl⟩
      | slot => exact absurd (.inl hr) ho
      | view what => exact unviewed what

/-- A text that is assigned goes to an ordinary attribute, or nothing happens but a fault. -/
theorem setAttr_run_text (hp : l.Plain id) (s : String) :
    (l.IsOpen id name ∧ (h.setAttr (.str name) (.str s)).run l = .ok () (l.assign id name (.str s)))
      ∨ ∃ f, (h.setAttr (.str name) (.str s)).run l = .error (.fault f) l :=
  setAttr_run_of_unviewed hp fun what => by cases what <;> exact ⟨_, rfl⟩

/-- What a record refuses under an ordinary name it refuses whoever asks for it. -/
theorem setAttr_run_refused (hp : l.Plain id) (ho : l.IsOrdinary id name)
    (closed : ¬ l.IsOpen id name) (v : Value) :
    ∃ f, l.refusal? id name = .some f
      ∧ (h.setAttr (.str name) v).run l = .error (.fault f) l := by
  rw [setAttr_run_plain hp, storeOn, Run.run_bind_ok (Run.run_get l)]
  rcases ho with hr | hr
  · cases hf : l.refusal? id name with
    | none => exact absurd (.inr ⟨hr, hf⟩) closed
    | some f => exact ⟨f, rfl, by simp only [hr]; rfl⟩
  · exact absurd (.inl hr) closed

/-- A value under an ordinary name is assigned, or nothing happens but a fault. -/
theorem setAttr_run_ordinary (hp : l.Plain id) (ho : l.IsOrdinary id name) (v : Value) :
    (l.IsOpen id name ∧ (h.setAttr (.str name) v).run l = .ok () (l.assign id name v))
      ∨ ∃ f, (h.setAttr (.str name) v).run l = .error (.fault f) l := by
  by_cases hopen : l.IsOpen id name
  · exact .inl ⟨hopen, setAttr_run_open hp hopen v⟩
  · obtain ⟨f, -, refused⟩ := setAttr_run_refused (h := h) hp ho hopen v
    exact .inr ⟨f, refused⟩

/-- An attribute under an ordinary name is erased, or nothing happens but a fault. -/
theorem delAttr_run_ordinary (hp : l.Plain id) (ho : l.IsOrdinary id name) :
    (h.delAttr (.str name)).run l = .ok () (l.discarded id name)
      ∨ ∃ f, (h.delAttr (.str name)).run l = .error (.fault f) l := by
  rw [delAttr_run_plain hp, discardOn, Run.run_bind_ok (Run.run_get l)]
  rcases ho with hr | hr
  · simp only [hr, Live.discarded]
    by_cases hc : (l.attrsOf id).contains name = true
    · rw [if_pos hc]
      exact .inl rfl
    · rw [if_neg hc]
      exact .inr ⟨_, rfl⟩
  · simp only [hr, Live.discarded, if_true]
    by_cases hc : (l.slotsOf id).contains name = true
    · rw [if_pos hc]
      exact .inl rfl
    · rw [if_neg hc]
      exact .inr ⟨_, rfl⟩

end Host

end Lifecycle
