/-
Twins: two runs that go on in one place, but for what stands in one column.

Two states of a run are twins if they are the same, or the same but for the value
that the record has in a column, where the two values have one text
(`Live.Twins`). The engine reads the column as text, and what it writes there makes
the two the same. So all that it does by itself it does alike on twins
(`Engine.stepsAlike_of_twins`).
-/
import Lifecycle.Proofs.Alike
import Lifecycle.Proofs.Stops

namespace Lifecycle

/-! ## Assignments one after the other -/

namespace Table

variable {α : Type}

theorem set_set (t : Table α) (key : String) (v w : α) : (t.set key v).set key w = t.set key w := by
  obtain ⟨es⟩ := t
  simp only [set]
  congr 1
  induction es with
  | nil => simp [setEntries]
  | cons e es ih =>
    obtain ⟨k, a⟩ := e
    by_cases h : key = k
    · simp [setEntries, h]
    · simp [setEntries, h, ih]

/-- Where a key is present already, it does not matter whether it or another one is set first. -/
theorem set_comm {t : Table α} {key other : String} (present : (t.get? key).isSome = true)
    (hne : other ≠ key) (v w : α) : (t.set key v).set other w = (t.set other w).set key v := by
  obtain ⟨es⟩ := t
  simp only [set, get?] at present ⊢
  congr 1
  induction es with
  | nil => cases present
  | cons e es ih =>
    obtain ⟨k, a⟩ := e
    by_cases h : key = k
    · subst h
      simp [setEntries, hne]
    · have hb : (key == k) = false := by simpa using h
      rw [List.lookup_cons, hb] at present
      by_cases h' : other = k
      · simp [setEntries, h, h']
      · simp [setEntries, h, h', ih present]

end Table

theorem Shelf.put_put (s : Shelf) (id : Identity) (t u : Table Value) :
    (s.put id t).put id u = s.put id u := by
  obtain ⟨objects, lists, walkers, taken⟩ := s
  simp only [put]
  congr 1
  induction objects with
  | nil => simp [putIn]
  | cons e es ih =>
    obtain ⟨i, a⟩ := e
    by_cases h : id = i
    · simp [putIn, h]
    · simp [putIn, h, ih]

namespace Live

variable {l : Live} {id : RecordId}

/-- What a record itself holds under an ordinary name, its classes aside. -/
def own? (l : Live) (id : RecordId) (name : String) : Option Value :=
  if l.reserved? id name = .some .slot then (l.slotsOf id).get? name else (l.attrsOf id).get? name

theorem value?_of_own {name : String} {v : Value} (h : l.own? id name = .some v) :
    l.value? id name = .some v := by
  unfold own? at h
  unfold value?
  split
  · next slot => rwa [if_pos slot] at h
  · next slot =>
    rw [if_neg slot] at h
    rw [stored?, h]

theorem withSlots_withSlots (l : Live) (id : RecordId) (t u : Table Value) :
    (l.withSlots id t).withSlots id u = l.withSlots id u := by
  simp only [withSlots, List.modify_modify_eq]
  rfl

theorem withAttrs_withAttrs (l : Live) (id : RecordId) (t u : Table Value) :
    (l.withAttrs id t).withAttrs id u = l.withAttrs id u := by
  simp only [withAttrs]
  exact congrArg (fun shelf => ({ l with shelf } : Live)) (Shelf.put_put ..)

theorem sheetOf_withSlots (l : Live) (id : RecordId) (t : Table Value) (other : RecordId) :
    (l.withSlots id t).sheetOf other = l.sheetOf other := by
  simp only [sheetOf, withSlots, List.getElem?_modify]
  cases l.records[other]? with
  | none => rfl
  | some r => by_cases h : id = other <;> simp [h]

/-- Attributes and places for single ones are apart. -/
theorem withSlots_withAttrs (l : Live) (id : RecordId) (t u : Table Value) :
    (l.withSlots id t).withAttrs id u = (l.withAttrs id u).withSlots id t := by
  simp only [withAttrs, sheetOf_withSlots]
  rfl

theorem assign_of_slot {name : String} (slot : l.reserved? id name = .some .slot) (v : Value) :
    l.assign id name v = l.withSlots id ((l.slotsOf id).set name v) := if_pos slot

theorem assign_of_attr {name : String} (free : l.reserved? id name ≠ .some .slot) (v : Value) :
    l.assign id name v = l.withAttrs id ((l.attrsOf id).set name v) := if_neg free

theorem assign_assign (l : Live) (id : RecordId) (name : String) (v u : Value) :
    (l.assign id name v).assign id name u = l.assign id name u := by
  have same := reserved?_assign l id name v id name
  by_cases slot : l.reserved? id name = .some .slot
  · rw [assign_of_slot (same ▸ slot), assign_of_slot slot, assign_of_slot slot,
      slotsOf_withSlots l _ (lt_of_reserved slot), Table.set_set, withSlots_withSlots]
  · rw [assign_of_attr (same ▸ slot), assign_of_attr slot, assign_of_attr slot,
      attrsOf_withAttrs_self, Table.set_set, withAttrs_withAttrs]

/-- Where a record holds something under a name already, it does not matter whether that name or
another one is assigned first. -/
theorem assign_comm {name other : String} (own : (l.own? id name).isSome = true)
    (hne : other ≠ name) (v u : Value) :
    (l.assign id name v).assign id other u = (l.assign id other u).assign id name v := by
  have first := reserved?_assign l id name v id other
  have second := reserved?_assign l id other u id name
  unfold own? at own
  by_cases slot : l.reserved? id name = .some .slot
  · rw [if_pos slot] at own
    rw [assign_of_slot (l := l.assign id other u) (second ▸ slot)]
    by_cases slot' : l.reserved? id other = .some .slot
    · have inside := lt_of_reserved slot
      rw [assign_of_slot (l := l.assign id name v) (first ▸ slot'), assign_of_slot slot,
        assign_of_slot slot', slotsOf_withSlots l _ inside, slotsOf_withSlots l _ inside,
        withSlots_withSlots, withSlots_withSlots, Table.set_comm own hne]
    · rw [assign_of_attr (l := l.assign id name v) (first ▸ slot'), assign_of_slot slot,
        assign_of_attr slot', attrsOf_withSlots, withSlots_withAttrs]
      rfl
  · rw [if_neg slot] at own
    rw [assign_of_attr (l := l.assign id other u) (second ▸ slot)]
    by_cases slot' : l.reserved? id other = .some .slot
    · rw [assign_of_slot (l := l.assign id name v) (first ▸ slot'), assign_of_attr slot,
        assign_of_slot slot', attrsOf_withSlots, withSlots_withAttrs]
      rfl
    · rw [assign_of_attr (l := l.assign id name v) (first ▸ slot'), assign_of_attr slot,
        assign_of_attr slot', attrsOf_withAttrs_self, attrsOf_withAttrs_self, withAttrs_withAttrs,
        withAttrs_withAttrs, Table.set_comm own hne]

/-- Neither the log nor the clock matters for an assignment. -/
theorem assign_log_reads (l : Live) (id : RecordId) (name : String) (v : Value) (log : List Entry)
    (reads : Nat) :
    ({ l with log, reads } : Live).assign id name v = { l.assign id name v with log, reads } := by
  by_cases slot : l.reserved? id name = .some .slot
  · rw [assign_of_slot slot, assign_of_slot (l := { l with log, reads }) slot]
    rfl
  · rw [assign_of_attr slot, assign_of_attr (l := { l with log, reads }) slot]
    rfl

theorem own?_assign_other {name other : String} (hne : other ≠ name) (l : Live) (id : RecordId)
    (v : Value) : (l.assign id name v).own? id other = l.own? id other := by
  simp only [own?, reserved?_assign]
  split
  · by_cases slot : l.reserved? id name = .some .slot
    · rw [assign, if_pos slot, slotsOf_withSlots l _ (lt_of_reserved slot),
        Table.get?_set_other _ _ hne]
    · rw [assign, if_neg slot]
      rfl
  · exact attrsOf_assign_other hne l id v

end Live

/-! ## Texts -/

/-- A value is there, and where `W` holds its text is `t`, whoever is asked for it; to ask changes
nothing. -/
def Value.HasText (v : Value) (W : Live → Prop) (t : Value) : Prop :=
  v.isNull = false ∧ ∀ (h : Host) (l : Live), W l → (h.asText v).run l = .ok t l

theorem Value.hasText_str (W : Live → Prop) (s : String) : (Value.str s).HasText W (.str s) :=
  ⟨rfl, fun h l _ => congrArg (EStateM.run · l) (h.asText_str s)⟩

/-- What nobody else has a say in is written as it is. -/
theorem Value.hasText_of_spelled {W : Live → Prop} {v : Value} (there : v.isNull = false)
    (settled : ∀ l : Live, l.settle v = v)
    (unasked : ∀ (h : Host) name, h.ask name v [] = pure .none)
    (spelled : ∀ h : Host, h.spell v = pure v) : v.HasText W v.asText := by
  refine ⟨there, fun h l _ => ?_⟩
  have written : (h.spelled v).run l = .ok v l := by
    have stands : (Run.settle v).run l = .ok v l := congrArg (EStateM.Result.ok · l) (settled l)
    rw [Host.spelled, Run.run_bind_ok stands, spelled]
    rfl
  rw [Host.asText, unasked, unasked]
  exact Run.run_bind_ok written _

theorem Value.hasText_int {W : Live → Prop} {n : Int} (short : (Value.int n).isLong = false) :
    (Value.int n).HasText W (Value.int n).asText := by
  refine hasText_of_spelled rfl (fun l => ?_) (fun _ _ => rfl) fun h => ?_
  · simp [Live.settle, Shelf.settle, Shelf.settleIn]
  · rw [Host.spell, short, if_neg Bool.false_ne_true]

theorem Value.HasText.asState_run {v t : Value} {W : Live → Prop} (text : v.HasText W t) {l : Live}
    (w : W l) (h : Host) : (h.asState v).run l = .ok t l := by
  rw [Host.asState, text.1, if_neg Bool.false_ne_true]
  exact text.2 h l w

/-! ## Twins -/

namespace Live

variable {W : Live → Prop} {id : RecordId} {column : String} {l l' : Live}

/-- Two states of a run are the same, or they are the same but for what the record itself has in a
column: two values with one text. -/
inductive Twins (W : Live → Prop) (id : RecordId) (column : String) : Live → Live → Prop where
  | same (l : Live) : Twins W id column l l
  | apart {l : Live} {v u t : Value} (w : W l) (w' : W (l.assign id column u))
    (own : l.own? id column = .some v) (text : v.HasText W t) (text' : u.HasText W t) :
    Twins W id column l (l.assign id column u)

namespace Twins

/-- What changes the one like the other leaves them twins. -/
theorem map (h : Twins W id column l l') {f : Live → Live} (w : W l → W (f l))
    (w' : W l' → W (f l')) (own : (f l).own? id column = l.own? id column)
    (comm : (l.own? id column).isSome = true → ∀ u,
      (f l).assign id column u = f (l.assign id column u)) :
    Twins W id column (f l) (f l') := by
  cases h with
  | same => exact .same _
  | apart at_ at_' has text text' =>
    have moved := comm (by rw [has]; rfl)
    have there := w' at_'
    rw [← moved] at there ⊢
    exact .apart (w at_) there (own.trans has) text text'

theorem noted {log : List Entry} (h : Twins W id column l l') (w : W l → W { l with log })
    (w' : W l' → W { l' with log }) :
    Twins W id column { l with log } { l' with log } := by
  refine h.map (f := fun l => { l with log }) w w' rfl fun _ u => ?_
  rw [assign_log_reads, reads_assign]

theorem ticked {reads : Nat} (h : Twins W id column l l') (w : W l → W { l with reads })
    (w' : W l' → W { l' with reads }) :
    Twins W id column { l with reads } { l' with reads } := by
  refine h.map (f := fun l => { l with reads }) w w' rfl fun _ u => ?_
  rw [assign_log_reads, log_assign]

/-- To give both the same under one name leaves them twins; under the column, it makes them the
same. -/
theorem assign (h : Twins W id column l l') {name : String} {v : Value}
    (w : W l → W (l.assign id name v)) (w' : W l' → W (l'.assign id name v)) :
    Twins W id column (l.assign id name v) (l'.assign id name v) := by
  by_cases hname : name = column
  · subst hname
    cases h with
    | same => exact .same _
    | apart =>
      rw [assign_assign]
      exact .same _
  · refine h.map (f := (·.assign id name v)) w w' (own?_assign_other (Ne.symm hname) _ _ _) ?_
    exact fun own u => (assign_comm own hname u v).symm

theorem log_eq (h : Twins W id column l l') : l'.log = l.log := by
  cases h with
  | same => rfl
  | apart => exact log_assign ..

end Twins

/-- A world in which the record is plain and holds the machine's column itself, and where nothing is
done for the end of records. -/
structure Seat (W : Live → Prop) (m : Machine) (id : RecordId) (column : String) : Prop where
  plain : ∀ {l}, W l → l.Plain id
  lasting : ∀ {l}, W l → l.hasFarewells = false
  held : m.config.column = .str column
  own : ∀ {l}, W l → l.IsOrdinary id column
  noted : ∀ {l} log, W l → W { l with log }
  ticked : ∀ {l} reads, W l → W { l with reads }
  written : ∀ {l name} v, W l → m.Writes name → (name = committedAttribute → v.isState = true) →
    l.IsOpen id name → W (l.assign id name v)

theorem Seat.ordinary {m : Machine} (seat : Seat W m id column) {name : String}
    (writes : m.Writes name) (w : W l) : l.IsOrdinary id name := by
  rcases writes with rfl | held | ⟨s, -, hf⟩
  · exact (seat.plain w).names _ committedAttribute_not_taken
  · cases seat.held.symm.trans held
    exact seat.own w
  · exact (seat.plain w).names _ (State.stampField_not_taken hf)

end Live

open Run (Alike EndAlike)
open Live (Twins)

variable {W : Live → Prop} {id : RecordId} {column : String}

/-- What begins alike where only the texts in the column are the same does alike on twins. -/
theorem Live.Twins.alike {α : Type} {x : Run α}
    (h : ∀ l v u t, W l → W (l.assign id column u) → l.own? id column = .some v →
      v.HasText W t → u.HasText W t →
      EndAlike (Twins W id column) (x.run l) (x.run (l.assign id column u))) :
    Alike (Twins W id column) x x := by
  intro l l' twins
  cases twins with
  | same => exact .refl .same _
  | apart w w' own text text' => exact h _ _ _ _ w w' own text text'

namespace Engine

/-- What a column shows compares alike with what was committed. -/
def CompareAlike (e e' : Engine) (R : Live → Live → Prop) (id : RecordId) : Prop :=
  ∀ {l l' : Live} {v : Value}, R l l' → v.isState = true →
    EndAlike R ((e.host.differ v ((l.value? id committedAttribute).getD .null)).run l)
      ((e'.host.differ v ((l.value? id committedAttribute).getD .null)).run l')

variable {e : Engine} (seat : Live.Seat W e.machine id column)
include seat

/-- What stands for itself is logged alike. -/
theorem note_alike {entry : Entry} (fixed : ∀ l : Live, entry.map l.settle = entry) :
    Alike (Twins W id column) (Run.note entry) (Run.note entry) := by
  intro l l' twins
  have noted (l : Live) : (Run.note entry).run l = .ok () { l with log := l.log ++ [entry] } := by
    change EStateM.Result.ok () { l with log := l.log ++ [entry.map l.settle] } = _
    rw [fixed]
  rw [noted, noted, twins.log_eq]
  exact .ok (twins.noted (seat.noted _) (seat.noted _))

/-- Where nothing is done for the end of records, what is in hand meanwhile does not matter. -/
theorem inHand_alike {α : Type} (h : Host) (vs : List Value) (kept : α → List Value) {act : Run α}
    (ha : Alike (Twins W id column) act act) :
    Alike (Twins W id column) (h.inHand vs kept act) (h.inHand vs kept act) := by
  refine Twins.alike fun l _ u _ w w' own text text' => ?_
  rw [Host.inHand_run (seat.lasting w), Host.inHand_run (seat.lasting w')]
  exact ha _ _ (.apart w w' own text text')

theorem setAttr_alike {name : String} (writes : e.machine.Writes name) {v : Value}
    (fits : name = committedAttribute → v.isState = true) :
    Alike (Twins W id column) (e.host.setAttr (.str name) v) (e.host.setAttr (.str name) v) := by
  refine Twins.alike fun l _ u _ w w' own text text' => ?_
  have twins : Twins W id column l (l.assign id column u) := .apart w w' own text text'
  by_cases ho : l.IsOpen id name
  · have ho' := (Live.isOpen_assign l id column u id name).mpr ho
    rw [Host.setAttr_run_open (seat.plain w) ho, Host.setAttr_run_open (seat.plain w') ho']
    exact .ok (twins.assign (fun w => seat.written v w writes fits ho)
      (fun w' => seat.written v w' writes fits ho'))
  · have closed := mt (Live.isOpen_assign l id column u id name).mp ho
    obtain ⟨f, hf, refused⟩ :=
      Host.setAttr_run_refused (h := e.host) (seat.plain w) (seat.ordinary writes w) ho v
    obtain ⟨f', hf', refused'⟩ :=
      Host.setAttr_run_refused (h := e.host) (seat.plain w') (seat.ordinary writes w') closed v
    rw [Live.refusal?_assign, hf] at hf'
    cases hf'
    rw [refused, refused']
    exact .error twins

theorem hasAttr_alike {name : String} (writes : e.machine.Writes name) :
    Alike (Twins W id column) (e.host.hasAttr (.str name)) (e.host.hasAttr (.str name)) := by
  refine Twins.alike fun l _ u _ w w' own text text' => ?_
  have same : ((l.assign id column u).value? id name).isSome = (l.value? id name).isSome := by
    by_cases hname : name = column
    · rw [hname, Live.value?_assign_self, Live.value?_of_own own]
      rfl
    · rw [Live.value?_assign_other hname]
  rw [Host.hasAttr_run_ordinary (seat.plain w) (seat.ordinary writes w),
    Host.hasAttr_run_ordinary (seat.plain w') (seat.ordinary writes w'), same]
  exact .ok (.apart w w' own text text')

/-- A field with a stamp that is the column itself is filled for both. -/
theorem lacks_alike {name : String} (writes : e.machine.Writes name) :
    Alike (Twins W id column) (do return (← e.host.require (.str name)).isNull)
      (do return (← e.host.require (.str name)).isNull) := by
  refine Twins.alike fun l v u _ w w' own text text' => ?_
  have twins : Twins W id column l (l.assign id column u) := .apart w w' own text text'
  have required := Host.require_run_ordinary (h := e.host) (seat.plain w) (seat.ordinary writes w)
  have required' :=
    Host.require_run_ordinary (h := e.host) (seat.plain w') (seat.ordinary writes w')
  by_cases hname : name = column
  · subst hname
    rw [Live.value?_of_own own] at required
    rw [Live.value?_assign_self] at required'
    rw [Run.run_bind_ok required, Run.run_bind_ok required', text.1, text'.1]
    exact .ok twins
  · rw [Live.value?_assign_other hname] at required'
    cases h : l.value? id name with
    | none =>
      rw [h] at required required'
      rw [Run.run_bind_error required, Run.run_bind_error required']
      exact .error twins
    | some held =>
      rw [h] at required required'
      rw [Run.run_bind_ok required, Run.run_bind_ok required']
      exact .ok twins

theorem stamp_alike (field : Value) :
    Alike (Twins W id column) (e.stamp field) (e.stamp field) := by
  refine Twins.alike fun l _ u _ w w' own text text' => ?_
  have twins : Twins W id column l (l.assign id column u) := .apart w w' own text text'
  rw [stamp, Run.run_bind_ok (Run.run_get _), Run.run_bind_ok (Run.run_get _), Live.reads_assign]
  cases e.clock.reading? e.machine.config.utc.truthy l.reads with
  | none => exact .error twins
  | some reading => exact .ok (twins.ticked (seat.ticked _) (seat.ticked _))

/-- The column shows the text of what it holds. -/
theorem currentState_run_text {l : Live} {v t : Value} (w : W l)
    (held : l.value? id column = .some v) (text : v.HasText W t) :
    e.currentState.run l = .ok t l := by
  rw [currentState, seat.held, Run.run_bind_ok (Host.attr_run_ordinary (seat.plain w) (seat.own w)),
    held]
  exact text.asState_run w e.host

/-- So it shows the same state of twins. -/
theorem currentState_alike : Alike (Twins W id column) e.currentState e.currentState := by
  refine Twins.alike fun l _ u _ w w' own text text' => ?_
  rw [currentState_run_text seat w (Live.value?_of_own own) text,
    currentState_run_text seat w' (Live.value?_assign_self ..) text']
  exact .ok (.apart w w' own text text')

/-- A rollback finds both in one state, and puts back the same. -/
theorem rollback_alike (unwatched : e.watched = false) (apart : column ≠ committedAttribute)
    (compares : e.CompareAlike e (Twins W id column) id) :
    Alike (Twins W id column) e.rollback e.rollback := by
  have silent : e.watch .rollback = pure () := by
    rw [watch, unwatched]
    rfl
  rw [rollback, silent]
  refine (Alike.pure ()).bind fun _ => (hasAttr_alike seat (.inl rfl)).bind fun has => ?_
  refine .ite (Twins.alike fun l _ u _ w w' own text text' => ?_) (.pure ())
  have twins : Twins W id column l (l.assign id column u) := .apart w w' own text text'
  have ordinary {l : Live} (w : W l) := seat.ordinary (.inl rfl : e.machine.Writes _) w
  have read : e.committed.run l = _ := Host.attr_run_ordinary (seat.plain w) (ordinary w)
  have read' : e.committed.run (l.assign id column u) = _ :=
    Host.attr_run_ordinary (seat.plain w') (ordinary w')
  rw [Live.value?_assign_other apart.symm] at read'
  rw [Run.run_bind_ok read, Run.run_bind_ok read',
    Run.run_bind_ok (currentState_run_text seat w (Live.value?_of_own own) text),
    Run.run_bind_ok (currentState_run_text seat w' (Live.value?_assign_self ..) text')]
  have state := Host.isState_of_asText (text.2 e.host l w)
  refine (compares twins state).bind_of fun differs _ _ => .ite ?_ (.pure ())
  rw [seat.held]
  exact setAttr_alike seat (.inr (.inl seat.held)) fun same => absurd same apart

/-- All that an engine does by itself it does alike on twins. -/
theorem stepsAlike_of_twins (unwatched : e.watched = false) (apart : column ≠ committedAttribute)
    (compares : e.CompareAlike e (Twins W id column) id) : e.StepsAlike (Twins W id column) e where
  config := rfl
  watches entry := by
    rw [watch, unwatched]
    exact .pure ()
  reads := currentState_alike seat
  shows s _ := by
    rw [seat.held]
    exact setAttr_alike seat (.inr (.inl seat.held)) fun _ => rfl
  remembers s _ := setAttr_alike seat (.inl rfl) fun _ => rfl
  sets s hs _ hf _ := setAttr_alike seat (.inr (.inr ⟨s, hs, hf⟩))
    fun committed => absurd committed (State.stampField_ne_committed hf)
  has s hs _ hf := hasAttr_alike seat (.inr (.inr ⟨s, hs, hf⟩))
  lacks s hs _ hf := lacks_alike seat (.inr (.inr ⟨s, hs, hf⟩))
  ticks := stamp_alike seat
  rollbacks := rollback_alike seat unwatched apart compares
  notifies _ _ _ heeded := inHand_alike seat _ _ _ heeded

end Engine

end Lifecycle
