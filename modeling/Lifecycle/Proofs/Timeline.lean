/-
Timelines: the stamps that a record takes over any number of fires.

`Engine.Took` says for which fields the clock was asked, in which order and whether the
record took the answer; it passes from parts to the whole (`Took.append`). A fire that
moves the record asks for the fields that are due of the state that the record leaves, up
to the first that cannot be put, and any other fire asks for none (`Engine.fire_takes`).
So a field for the creation is taken once and before the fields for the update
(`Engine.Orderly`), and where the clock does not go back it holds no later reading than
these (`Engine.stamps_of_fires`). A record that takes no stamp of its own stops the fire
(`Engine.sealed_undated`).
-/
import Lifecycle.Proofs.Courses

namespace Lifecycle

open Run (Keeps)

/-! ## Fields -/

namespace State

def createdFields (s : State) : List String := [s.name ++ "_created_at", s.name ++ "_created_on"]

def updatedFields (s : State) : List String := [s.name ++ "_updated_at", s.name ++ "_updated_on"]

variable {s s' : State} {field : String}

/-- The parts of a name with a stamp can be told from each other. -/
theorem append_inj_of_length {a b x y : String} (same : a ++ x = b ++ y)
    (long : x.toList.length = y.toList.length) : a = b ∧ x = y := by
  have lists : a.toList ++ x.toList = b.toList ++ y.toList := by
    rw [← String.toList_append, ← String.toList_append, same]
  obtain ⟨front, back⟩ := List.append_inj' lists long
  exact ⟨String.toList_injective front, String.toList_injective back⟩

/-- No two states share a field. -/
theorem name_eq_of_stampField (h : field ∈ s.stampFields) (h' : field ∈ s'.stampFields) :
    s.name = s'.name := by
  simp only [stampFields, List.mem_cons, List.not_mem_nil, or_false] at h h'
  rcases h with rfl | rfl | rfl | rfl <;> rcases h' with h' | h' | h' | h' <;>
    exact (append_inj_of_length h' (by decide)).1

/-- So what a field is for does not depend on whose it is. -/
theorem created_of_stampField (hf : field ∈ s'.createdFields) (h : field ∈ s.stampFields) :
    field ∈ s.createdFields := by
  rwa [createdFields, name_eq_of_stampField (List.mem_append_left s'.updatedFields hf) h] at hf

theorem updated_of_stampField (hf : field ∈ s'.updatedFields) (h : field ∈ s.stampFields) :
    field ∈ s.updatedFields := by
  rwa [updatedFields, name_eq_of_stampField (List.mem_append_right s'.createdFields hf) h] at hf

/-- And no state uses one for both. -/
theorem not_updated_of_created (h : field ∈ s.createdFields) : field ∉ s.updatedFields := by
  intro h'
  simp only [createdFields, updatedFields, List.mem_cons, List.not_mem_nil, or_false] at h h'
  rcases h with rfl | rfl <;> rcases h' with h' | h' <;>
    exact absurd (append_inj_of_length h' (by decide)).2 (by decide)

end State

/-- All fields with stamps. -/
def Machine.stampFields (m : Machine) : List String := m.states.flatMap (·.stampFields)

theorem Machine.mem_stampFields {m : Machine} {s : State} (hs : s ∈ m.states) {field : String}
    (hf : field ∈ s.stampFields) : field ∈ m.stampFields :=
  List.mem_flatMap.mpr ⟨s, hs, hf⟩

/-- The fields that are to be stamped when a record leaves a state: those for the creation that it
has and that are null, and those for the update that it has. -/
def Machine.dues (m : Machine) (l : Live) (id : RecordId) (s : State) : List String :=
  if m.config.timestamps.truthy then
    s.createdFields.filter (l.isDue id ·)
      ++ s.updatedFields.filter fun field => (l.value? id field).isSome
  else []

/-- Nobody asks the clock, and some fields hold what they did. -/
def Live.Undated (W : Live → Prop) (id : RecordId) (fields : List String) (l l' : Live) : Prop :=
  W l → W l' ∧ l'.reads = l.reads ∧ ∀ field ∈ fields, l'.value? id field = l.value? id field

instance (W : Live → Prop) (id : RecordId) (fields : List String) :
    IsPreorder Live (Live.Undated W id fields) where
  refl _ w := ⟨w, rfl, fun _ _ => rfl⟩
  trans _ _ _ h h' w := by
    obtain ⟨w₁, reads, same⟩ := h w
    obtain ⟨w₂, reads', same'⟩ := h' w₁
    exact ⟨w₂, reads'.trans reads, fun f hf => (same' f hf).trans (same f hf)⟩

/-- A list can be split where something stands in it last. -/
theorem exists_last_of_mem {α : Type} {a : α} {as : List α} (mem : a ∈ as) :
    ∃ before after, as = before ++ a :: after ∧ a ∉ after := by
  obtain ⟨behind, front, split, absent⟩ := List.eq_append_cons_of_mem (List.mem_reverse.mpr mem)
  refine ⟨front.reverse, behind.reverse, ?_, by simpa using absent⟩
  rw [← List.reverse_reverse as, split]
  simp

/-- Two things in order stand in one part of a list, or in two. -/
theorem pair_sublist_append {α : Type} {a b : α} {as bs : List α}
    (h : [a, b].Sublist (as ++ bs)) :
    [a, b].Sublist as ∨ (a ∈ as ∧ b ∈ bs) ∨ [a, b].Sublist bs := by
  obtain ⟨front, back, split, before, behind⟩ := List.sublist_append_iff.mp h
  obtain ⟨rfl, rfl⟩ | ⟨rest, rfl, second⟩ := List.cons_eq_append_iff.mp split
  · exact .inr (.inr behind)
  · obtain ⟨rfl, rfl⟩ | ⟨rest, rfl, third⟩ := List.cons_eq_append_iff.mp second
    · exact .inr (.inl ⟨before.subset (.head _), behind.subset (.head _)⟩)
    · obtain ⟨rfl, rfl⟩ := List.append_eq_nil_iff.mp third.symm
      exact .inl before

namespace Engine

/-! ## What was asked and taken -/

/-- Between two moments the clock was asked once for each of some fields, in this order. Each is
marked with whether the record took the answer. All fields hold what they took last. -/
structure Took (e : Engine) (id : RecordId) (fields : List String) (asked : List (String × Bool))
    (l l' : Live) : Prop where
  among : ∀ entry ∈ asked, entry.1 ∈ fields
  reads : l'.reads = l.reads + asked.length
  put : ∀ {before field after}, asked = before ++ (field, true) :: after → (field, true) ∉ after →
    ∃ r, e.reading? (l.reads + before.length) = .some r
      ∧ l'.value? id field = .some (r.stamp field)
  kept : ∀ field ∈ fields, (field, true) ∉ asked → l'.value? id field = l.value? id field

namespace Took

variable {e : Engine} {id : RecordId} {fields : List String} {asked more : List (String × Bool)}
  {W : Live → Prop} {l m l' : Live} {field : String}

theorem of_undated (h : Live.Undated W id fields l l') (w : W l) : e.Took id fields [] l l' where
  among := nofun
  reads := (h w).2.1
  put split := by simp at split
  kept field hf _ := (h w).2.2 field hf

theorem of_stamps (mem : field ∈ fields) (h : e.Stamps id field true l l') :
    e.Took id fields [(field, true)] l l' where
  among _ he := List.mem_singleton.mp he ▸ mem
  reads := h.reads
  put split _ := by
    obtain ⟨rfl, last⟩ | ⟨_, inside⟩ := List.singleton_eq_append_iff.mp split
    · cases last
      exact h.value?_self
    · cases inside
  kept other _ absent := h.value?_other fun same => absent (same ▸ .head _)

/-- The clock was asked, and the record did not take the answer. -/
theorem of_refused (mem : field ∈ fields) (reads : l'.reads = l.reads + 1)
    (same : ∀ other, l'.value? id other = l.value? id other) :
    e.Took id fields [(field, false)] l l' where
  among _ he := List.mem_singleton.mp he ▸ mem
  reads := reads
  put split _ := by
    obtain ⟨rfl, last⟩ | ⟨_, inside⟩ := List.singleton_eq_append_iff.mp split
    · cases last
    · cases inside
  kept other _ _ := same other

theorem append (h : e.Took id fields asked l m) (h' : e.Took id fields more m l') :
    e.Took id fields (asked ++ more) l l' where
  among entry he := (List.mem_append.mp he).elim (h.among entry) (h'.among entry)
  reads := by rw [h'.reads, h.reads, List.length_append, Nat.add_assoc]
  put {before field after} split last := by
    obtain ⟨between, rfl, later⟩ | ⟨between, earlier, rest⟩ := List.append_eq_append_iff.mp split
    · -- It was last taken in the second part.
      have := h'.put later last
      rwa [h.reads, Nat.add_assoc, ← List.length_append] at this
    · cases between with
      | nil =>
        have := h'.put (rest.symm.trans (List.nil_append _).symm) last
        rw [earlier, List.append_nil] at h
        rwa [h.reads] at this
      | cons entry between =>
        obtain ⟨rfl, rfl⟩ := List.cons.inj rest
        change (field, true) ∉ between ++ more at last
        rw [List.mem_append, not_or] at last
        obtain ⟨r, shown, held⟩ := h.put earlier last.1
        have mem : field ∈ fields := h.among (field, true) (by simp [earlier])
        exact ⟨r, shown, (h'.kept field mem last.2).trans held⟩
  kept field hf absent := by
    rw [List.mem_append, not_or] at absent
    exact (h'.kept field hf absent.2).trans (h.kept field hf absent.1)

theorem trans_undated (h : e.Took id fields asked l m) (rest : Live.Undated W id fields m l')
    (w : W m) : e.Took id fields asked l l' :=
  List.append_nil asked ▸ h.append (.of_undated rest w)

/-- What was taken at all was taken last somewhere. -/
theorem held (h : e.Took id fields asked l l') (mem : (field, true) ∈ asked) :
    ∃ r : Reading, l'.value? id field = .some (r.stamp field) := by
  obtain ⟨before, after, rfl, last⟩ := exists_last_of_mem mem
  obtain ⟨r, -, held⟩ := h.put rfl last
  exact ⟨r, held⟩

end Took

/-! ## One state is left -/

/-- How the stamps come out that are due. All of them are put, or one is not, which the record
refuses or for which the clock shows nothing, and then none behind it is asked for. -/
inductive Dates (e : Engine) (W : Live → Prop) (id : RecordId) :
    List String → List (String × Bool) → Except Stop Unit → Prop where
  | none : Dates e W id [] [] (.ok ())
  | put {field : String} {due : List String} {asked : List (String × Bool)}
    {r : Except Stop Unit} (rest : Dates e W id due asked r) :
    Dates e W id (field :: due) ((field, true) :: asked) r
  | refused {field : String} {due : List String} {k : Live} {f : Fault} (w : W k)
    (there : (k.value? id field).isSome = true) (closed : ¬ k.IsOpen id field) :
    Dates e W id (field :: due) [(field, false)] (.error (.fault f))
  | clockless {field : String} {due : List String} {k : Nat} (h : e.reading? k = .none) :
    Dates e W id (field :: due) [] (.error (.fault .positionMissing))

/-- The record takes the stamps for which it has a field, and the clock has readings. -/
structure Stampable (e : Engine) (W : Live → Prop) (id : RecordId) : Prop where
  isOpen : ∀ {l}, W l → ∀ field ∈ e.machine.stampFields, (l.value? id field).isSome = true →
    l.IsOpen id field
  readable : ∀ k, (e.reading? k).isSome = true

namespace Dates

variable {e : Engine} {W : Live → Prop} {id : RecordId} {due later : List String}
  {asked : List (String × Bool)} {r : Except Stop Unit}

theorem all (stampable : e.Stampable W id) (among : ∀ field ∈ due, field ∈ e.machine.stampFields)
    (h : e.Dates W id due asked r) : asked = due.map (·, true) ∧ r = .ok () := by
  induction h with
  | none => exact ⟨rfl, rfl⟩
  | put _ ih =>
    obtain ⟨rfl, rfl⟩ := ih fun field hf => among field (.tail _ hf)
    exact ⟨rfl, rfl⟩
  | refused w there closed => exact absurd (stampable.isOpen w _ (among _ (.head _)) there) closed
  | @clockless _ _ k h =>
    have shown := stampable.readable k
    rw [h] at shown
    cases shown

/-- Nothing is asked for but what is due, once each and in order. -/
theorem sublist (h : e.Dates W id due asked r) : (asked.map (·.1)).Sublist due := by
  induction h with
  | none => exact .slnil
  | put _ ih => exact ih.cons_cons _
  | refused => exact (List.nil_sublist _).cons_cons _
  | clockless => exact List.nil_sublist _

theorem mem (h : e.Dates W id due asked r) {entry : String × Bool} (he : entry ∈ asked) :
    entry.1 ∈ due :=
  h.sublist.subset (List.mem_map_of_mem he)

/-- What is due later is asked for when all before it was put. -/
theorem of_append (h : e.Dates W id (due ++ later) asked r) : e.Dates W id due asked r
    ∨ ∃ more, asked = due.map (·, true) ++ more ∧ e.Dates W id later more r := by
  induction due generalizing asked with
  | nil => exact .inr ⟨asked, rfl, h⟩
  | cons field due ih =>
    cases h with
    | put rest =>
      obtain early | ⟨more, rfl, late⟩ := ih rest
      · exact .inl (.put early)
      · exact .inr ⟨more, rfl, late⟩
    | refused w there closed => exact .inl (.refused w there closed)
    | clockless h => exact .inl (.clockless h)

/-- And if any of it was asked for, all before it was put. -/
theorem of_append_of_mem (h : e.Dates W id (due ++ later) asked r) {entry : String × Bool}
    (mem : entry ∈ asked) (late : entry.1 ∉ due) :
    ∃ more, asked = due.map (·, true) ++ more ∧ e.Dates W id later more r :=
  h.of_append.resolve_left fun early => late (early.mem mem)

theorem append_ok {more : List (String × Bool)} (h : e.Dates W id due asked (.ok ()))
    (h' : e.Dates W id later more r) : e.Dates W id (due ++ later) (asked ++ more) r := by
  generalize done : (Except.ok () : Except Stop Unit) = r₀ at h
  induction h with
  | none => exact h'
  | put _ ih => exact .put (ih done)
  | refused | clockless => cases done

theorem append_error {stop : Stop} (h : e.Dates W id due asked (.error stop)) :
    e.Dates W id (due ++ later) asked (.error stop) := by
  generalize stopped : (Except.error stop : Except Stop Unit) = r₀ at h ⊢
  induction h with
  | none => cases stopped
  | put _ ih => exact .put (ih stopped)
  | refused w there closed => exact .refused w there closed
  | clockless h => exact .clockless h

end Dates

section Leave

variable {e : Engine} {W : Live → Prop} {id : RecordId} (ground : Live.Ground W e.machine id)
  {old : State} (hold : old ∈ e.machine.states) {event : Value} {l : Live}

/-- The field that a step is to stamp. -/
def due? (l : Live) (id : RecordId) : Stride → Option String
  | .stampAbsent field => if l.isDue id field then .some field else .none
  | .stampAlways field => if (l.value? id field).isSome then .some field else .none
  | _ => .none

/-- The field that a step may stamp. -/
def stamped? : Stride → Option String
  | .stampAbsent field | .stampAlways field => .some field
  | _ => .none

theorem stamped?_of_due? {s : Stride} {field : String} (h : due? l id s = .some field) :
    stamped? s = .some field := by
  cases s with
  | stampAbsent | stampAlways =>
    rw [due?] at h
    split at h
    · exact h
    · cases h
  | _ => cases h

theorem mem_of_stamped? {m : Machine} {s : Stride} (mem : s ∈ m.stampStrides old) {field : String}
    (h : stamped? s = .some field) : field ∈ old.stampFields := by
  obtain ⟨field', hf, rfl | rfl⟩ := Machine.mem_stampStrides mem <;>
    exact Option.some.inj h ▸ hf

theorem due?_congr {m : Live} {s : Stride}
    (same : ∀ field, stamped? s = .some field → m.value? id field = l.value? id field) :
    due? m id s = due? l id s := by
  cases s with
  | stampAbsent field => rw [due?, due?, Live.isDue, Live.isDue, same field rfl]
  | stampAlways field => rw [due?, due?, same field rfl]
  | _ => rfl

theorem dues_eq (m : Machine) (l : Live) (id : RecordId) (s : State) :
    m.dues l id s = (m.stampStrides s).filterMap (due? l id) := by
  have created : due? l id ∘ Stride.stampAbsent = Option.guard (l.isDue id) := rfl
  have updated : due? l id ∘ Stride.stampAlways
      = Option.guard fun field => (l.value? id field).isSome := rfl
  rw [Machine.dues, Machine.stampStrides]
  split
  · change _ = (s.createdFields.map Stride.stampAbsent
      ++ s.updatedFields.map Stride.stampAlways).filterMap (due? l id)
    rw [List.filterMap_append, List.filterMap_map, List.filterMap_map, created, updated,
      List.filterMap_eq_filter, List.filterMap_eq_filter]
  · rfl

theorem dues_congr {m : Live} (hold : old ∈ e.machine.states)
    (same : ∀ field ∈ e.machine.stampFields, m.value? id field = l.value? id field) :
    e.machine.dues m id old = e.machine.dues l id old := by
  rw [dues_eq, dues_eq]
  exact List.filterMap_congr fun s mem => due?_congr fun field is =>
    same field (Machine.mem_stampFields hold (mem_of_stamped? mem is))

include ground hold

/-- A stamp that is put, or not, or not due. -/
theorem stride_dates {s : Stride} (mem : s ∈ e.machine.stampStrides old) (w : W l) :
    (e.stride event s).Ends l fun r l' => W l' ∧ ∃ asked,
      e.Took id e.machine.stampFields asked l l' ∧ e.Dates W id (due? l id s).toList asked r := by
  have put {x : Run Unit} {due : Bool} {field : String} (hf : field ∈ old.stampFields)
      (is : ∃ log, x.run l
        = if due then (e.putStamp field).run { l with log } else .ok () { l with log })
      (there : due = true → (l.value? id field).isSome = true) :
      x.Ends l fun r l' => W l' ∧ ∃ asked, e.Took id e.machine.stampFields asked l l'
        ∧ e.Dates W id (if due then .some field else .none : Option String).toList asked r := by
    obtain ⟨log, is⟩ := is
    have noted : W { l with log } := ground.noted log w
    have idle : e.Took id e.machine.stampFields [] l { l with log } :=
      .of_undated (fun _ => ⟨noted, rfl, fun _ _ => rfl⟩) w
    have mem := Machine.mem_stampFields hold hf
    cases due with
    | false =>
      rw [Run.Ends, is]
      exact ⟨noted, [], idle, .none⟩
    | true =>
      rw [Run.Ends, is, if_pos rfl, putStamp_run]
      cases shown : e.reading? ({ l with log } : Live).reads with
      | none => exact ⟨noted, [], idle, .clockless shown⟩
      | some r =>
        have ticked : W { l with log, reads := l.reads + 1 } := ground.ticked _ noted
        have plain := ground.plain ticked
        by_cases isOpen : ({ l with log, reads := l.reads + 1 } : Live).IsOpen id field
        · have stamps : e.Stamps id field true l
              (({ l with log, reads := l.reads + 1 } : Live).assign id field (r.stamp field)) :=
            ⟨log, r, shown, rfl⟩
          dsimp only
          rw [Host.setAttr_run_open plain isOpen]
          exact ⟨ground.written ticked (.stamp hold hf _) isOpen, _,
            .of_stamps mem stamps, .put .none⟩
        · have ordinary := plain.names field (State.stampField_not_taken hf)
          obtain ⟨f, -, refused⟩ := Host.setAttr_run_refused (h := e.host) plain ordinary isOpen
            (r.stamp field)
          dsimp only
          rw [refused]
          exact ⟨ticked, _, .of_refused mem rfl fun _ => rfl, .refused ticked (there rfl) isOpen⟩
  obtain ⟨field, hf, rfl | rfl⟩ := Machine.mem_stampStrides mem
  · exact put hf (stampAbsent_run ground hf w) Live.isSome_of_isDue
  · exact put hf (stampAlways_run ground hf w) (·)

/-- The stamps of a state are put one after the other. None has a part in whether a later one is
due. -/
theorem walk_dates : ∀ {ss : List Stride}, (∀ s ∈ ss, s ∈ e.machine.stampStrides old) →
    (ss.map stamped?).Nodup → ∀ {l : Live}, W l → (e.walk event ss).Ends l fun r l' =>
      W l' ∧ ∃ asked, e.Took id e.machine.stampFields asked l l'
        ∧ e.Dates W id (ss.filterMap (due? l id)) asked r
  | [], _, _, l, w => ⟨w, [], .of_undated (refl_of (Live.Undated W id _) l) w, .none⟩
  | s :: ss, mem, unlike, l, w => by
    have due : (s :: ss).filterMap (due? l id)
        = (due? l id s).toList ++ ss.filterMap (due? l id) := by
      rw [List.filterMap_cons]
      cases due? l id s <;> rfl
    have first : (e.stride event s).Ends l _ := stride_dates ground hold (mem s (.head _)) w
    rw [due]
    cases taken : (e.stride event s).run l with
    | error stop m =>
      rw [Run.Ends, taken] at first
      obtain ⟨wm, asked, took, dates⟩ := first
      exact Run.Ends.bind_error taken ⟨wm, asked, took, dates.append_error⟩
    | ok _ m =>
      rw [Run.Ends, taken] at first
      obtain ⟨wm, asked, took, dates⟩ := first
      obtain ⟨own, apart⟩ := List.nodup_cons.mp unlike
      have same : ss.filterMap (due? m id) = ss.filterMap (due? l id) := by
        refine List.filterMap_congr fun t ht => due?_congr fun field is => ?_
        have hf := mem_of_stamped? (mem t (.tail _ ht)) is
        refine took.kept field (Machine.mem_stampFields hold hf) fun asked => own ?_
        have here := Option.mem_toList.mp (dates.mem asked)
        exact List.mem_map.mpr ⟨t, ht, is.trans (stamped?_of_due? here).symm⟩
      have rest := walk_dates (fun t ht => mem t (.tail _ ht)) apart wm
      rw [same] at rest
      refine Run.Ends.bind_ok taken (rest.mono fun r l' others => ?_)
      obtain ⟨w', more, took', dates'⟩ := others
      exact ⟨w', asked ++ more, took.append took', dates.append_ok dates'⟩

end Leave

/-! ## One fire -/

/-- A fire comes to move a record which then shows a state. -/
def Departs (e : Engine) (ev : Event) (l : Live) (s : State) : Prop :=
  ∃ old v m n t k k', e.currentState.run l = .ok old m ∧ e.currentState.run m = .ok v n
    ∧ e.Considers (.str ev.name) (ev.leaving v) n (.ok (.some t)) k
    ∧ e.currentState.run k = .ok (.str s.name) k' ∧ e.machine.stateAt (.str s.name) = .ok s

theorem Departs.unique {e : Engine} {ev : Event} {l : Live} {s s' : State} (h : e.Departs ev l s)
    (h' : e.Departs ev l s') : s' = s := by
  obtain ⟨_, _, _, _, _, _, _, before, shown, passed, read, source⟩ := h
  obtain ⟨_, _, _, _, _, _, _, before', shown', passed', read', source'⟩ := h'
  cases before.symm.trans before'
  cases shown.symm.trans shown'
  obtain ⟨-, rfl⟩ := passed.unique passed'
  have named : s.name = s'.name :=
    Value.str.inj (EStateM.Result.ok.inj (read.symm.trans read')).1
  rw [named] at source
  exact Except.ok.inj (source'.symm.trans source)

section Fire

variable {e : Engine} {W : Live → Prop} {id : RecordId} {column : String} {l l' : Live}
  (ground : Live.Ground W e.machine id) (held : e.machine.config.column = .str column)
  (unstamped : column ∉ e.machine.stampFields)
  (others : e.OthersKeep (Live.Undated W id e.machine.stampFields))
include ground

theorem note_undated (entry : Entry) :
    Keeps (Live.Undated W id e.machine.stampFields) (Run.note entry) :=
  fun _ w => ⟨ground.noted _ w, rfl, fun _ _ => rfl⟩

omit ground in
/-- To write another attribute is no matter of stamps. -/
theorem setAttr_undated {name : String} {v : Value} (apart : name ∉ e.machine.stampFields)
    (taken : ∀ {l}, W l → l.IsOpen id name → W (l.assign id name v))
    (set : ∀ {l}, W l →
      (l.IsOpen id name
        ∧ (e.host.setAttr (.str name) v).run l = .ok () (l.assign id name v))
      ∨ ∃ f, (e.host.setAttr (.str name) v).run l = .error (.fault f) l) :
    Keeps (Live.Undated W id e.machine.stampFields) (e.host.setAttr (.str name) v) := by
  intro l w
  obtain ⟨isOpen, h⟩ | ⟨f, h⟩ := set w
  · rw [Run.final_of_ok h]
    refine ⟨taken w isOpen, Live.reads_assign .., fun field hf => ?_⟩
    exact Live.value?_assign_other (fun same : field = name => apart (same ▸ hf)) ..
  · rw [Run.final_of_error h]
    exact ⟨w, rfl, fun _ _ => rfl⟩

omit ground in
theorem committedAttribute_not_stamped (m : Machine) : committedAttribute ∉ m.stampFields := by
  intro mem
  obtain ⟨s, -, hf⟩ := List.mem_flatMap.mp mem
  exact State.stampField_ne_committed hf rfl

include held unstamped others

/-- Nothing is stamped behind the stamps. -/
theorem moves_undated {old next : State} (hold : old ∈ e.machine.states)
    (hnext : next ∈ e.machine.states) {event : Value} {s : Stride}
    (mem : s ∈ Machine.moveStrides old next) :
    Keeps (Live.Undated W id e.machine.stampFields) (e.stride event s) := by
  obtain ⟨a, ha, rfl⟩ | rfl | rfl := Machine.mem_moveStrides mem
  · obtain ⟨s, hs, ha⟩ := mem_acts_of_move hold hnext ha
    exact (others.act hs ha event).bind fun _ => Keeps.pure ()
  · refine (watch_keeps (note_undated ground) _).bind fun _ => ?_
    rw [held]
    exact setAttr_undated unstamped (ground.written · (.column held _)) fun w =>
      Host.setAttr_run_text (ground.plain w) _
  · exact setAttr_undated (committedAttribute_not_stamped _) (ground.written · (.committed _))
      fun w => Host.setAttr_run_text (ground.plain w) _

theorem walk_takes {old next : State} (hold : old ∈ e.machine.states)
    (hnext : next ∈ e.machine.states) {event : Value} (w : W l) :
    (e.walk event (e.machine.strides old next)).Ends l fun r l' => W l' ∧ ∃ asked q,
      e.Took id e.machine.stampFields asked l l' ∧ e.Dates W id (e.machine.dues l id old) asked q
        ∧ ∀ stop, q = .error stop → r = .error stop := by
  have unlike : ((e.machine.stampStrides old).map stamped?).Nodup := by
    rw [Machine.stampStrides]
    split <;> simp [stamped?]
  have stamps : (e.walk event (e.machine.stampStrides old)).Ends l _ :=
    walk_dates ground hold (fun _ hs => hs) unlike w
  rw [← dues_eq] at stamps
  rw [Machine.strides, walk_append]
  cases walked : (e.walk event (e.machine.stampStrides old)).run l with
  | error stop m =>
    rw [Run.Ends, walked] at stamps
    obtain ⟨wm, asked, took, dates⟩ := stamps
    exact Run.Ends.bind_error walked
      ⟨wm, asked, .error stop, took, dates, fun _ same => Except.error.inj same ▸ rfl⟩
  | ok _ m =>
    rw [Run.Ends, walked] at stamps
    obtain ⟨wm, asked, took, dates⟩ := stamps
    have moves : Keeps _ (e.walk event _) := walk_keeps fun _ hs =>
      moves_undated ground held unstamped others hold hnext hs
    refine Run.Ends.bind_ok walked ?_
    have rest := moves m
    cases moved : (e.walk event (Machine.moveStrides old next)).run m with
    | error stop l' | ok _ l' =>
      rw [Run.final, moved] at rest
      rw [Run.Ends, moved]
      exact ⟨(rest wm).1, asked, .ok (), took.trans_undated rest wm, dates,
        fun _ same => by cases same⟩

/-- A fire that comes to move the record asks for what is due of the state that it shows then, up to
the first that cannot be put, which stops the fire. -/
theorem Departs.takes {s : State} {name : String} {ev : Event} (departs : e.Departs ev l s)
    (closed : e.machine.IsClosed) (found : e.machine.event? name = .some ev) (w : W l) :
    let fire := e.fire (.str name)
    W (fire.final l) ∧ ∃ asked r, e.Took id e.machine.stampFields asked l (fire.final l)
      ∧ e.Dates W id (e.machine.dues l id s) asked r
      ∧ ∀ stop, r = .error stop → fire.run l = .error stop (fire.final l) := by
  intro fire
  have hev := List.mem_of_find?_eq_some found
  have notes : ∀ entry, Keeps (Live.Undated W id e.machine.stampFields) (Run.note entry) :=
    note_undated ground
  have reads {l : Live} {v : Value} {m : Live} (read : e.currentState.run l = .ok v m) :
      Live.Undated W id e.machine.stampFields l m := Run.final_of_ok read ▸ others.reads l
  obtain ⟨old, v, m, n, t, k, k', before, shown, passed, read, source⟩ := departs
  have same := trans_of (Live.Undated W id _) (trans_of (Live.Undated W id _)
    (trans_of (Live.Undated W id _) (reads before) (reads shown))
    (others.considers notes hev passed)) (reads read)
  obtain ⟨-, next, -, target⟩ := ends_of_leaving closed hev (passed.mem rfl)
  obtain ⟨hold, -⟩ := Definition.stateAt_eq_ok source
  obtain ⟨hnext, -⟩ := Definition.stateAt_eq_ok target
  have fired : fire.run l = (e.conclude ev old (.ok (.some t))).run k :=
    fire_of_considers found before shown passed
  have took : e.Took id e.machine.stampFields [] l k' := .of_undated same w
  have walks : (e.walk (.str ev.name) (e.machine.strides s next)).Ends k' _ :=
    walk_takes ground held unstamped others hold hnext (same w).1
  rw [dues_congr hold (same w).2.2] at walks
  rw [conclude] at fired
  cases walked : (e.walk (.str ev.name) (e.machine.strides s next)).run k' with
  | error stop l' =>
    have moved := (move_run read source target).trans walked
    have ended := fired.trans (Run.run_bind_error moved _)
    rw [Run.Ends, walked] at walks
    obtain ⟨w', asked, r, took', dates, stops⟩ := walks
    rw [Run.final_of_error ended]
    refine ⟨w', asked, r, took.append took', dates, fun stop' is => ?_⟩
    cases stops stop' is
    exact ended
  | ok _ l' =>
    have moved := (move_run read source target).trans walked
    have told := others.tells notes (.str ev.name) old l'
    rw [Run.Ends, walked] at walks
    obtain ⟨w', asked, r, took', dates, stops⟩ := walks
    rw [Run.final_congr (fired.trans (Run.run_bind_ok moved _))]
    refine ⟨(told w').1, asked, r, (took.append took').trans_undated told w', dates,
      fun stop is => ?_⟩
    cases stops stop is

variable (own : ∀ {l}, W l → l.IsOrdinary id column)
  (compares : ∀ v c, v.isState = true →
    Keeps (Live.Undated W id e.machine.stampFields) (e.host.differ v c))
include own compares

theorem rollback_undated : Keeps (Live.Undated W id e.machine.stampFields) e.rollback := by
  have names {l : Live} (w : W l) := (ground.plain w).names _ committedAttribute_not_taken
  refine (watch_keeps (note_undated ground) _).bind fun _ l w => ?_
  have has := Host.hasAttr_run_ordinary (h := e.host) (ground.plain w) (names w)
  have read := Host.attr_run_ordinary (h := e.host) (ground.plain w) (names w)
  cases was : l.value? id committedAttribute with
  | none =>
    rw [was] at has
    rw [Run.final_congr (Run.run_bind_ok has _)]
    exact ⟨w, rfl, fun _ _ => rfl⟩
  | some committed =>
    rw [was] at has read
    rw [Run.final_congr ((Run.run_bind_ok has _).trans (Run.run_bind_ok read _))]
    refine Keeps.bind_of (P := Live.Undated W id e.machine.stampFields) others.reads
      (fun v l m shown => ?_) l w
    refine trans_of (Live.Undated W id _) (Run.final_of_ok shown ▸ others.reads l) ?_
    refine (compares v committed (isState_of_currentState shown)).bind (fun differs => ?_) m
    split
    · rw [held]
      exact setAttr_undated unstamped
        (fun w' isOpen => ground.restored w was w' held isOpen)
        fun w => Host.setAttr_run_ordinary (ground.plain w) (own w) committed
    · exact Keeps.pure ()

/-- A fire that does not come to move the record asks for nothing. -/
theorem fire_undated {name : String} {ev : Event} (found : e.machine.event? name = .some ev)
    (stays : ∀ s, ¬ e.Departs ev l s) :
    Live.Undated W id e.machine.stampFields l ((e.fire (.str name)).final l) := by
  obtain ⟨stop, m, fired, same⟩ | ⟨old, v, m, n, r, k, before, shown, considered, same, fired⟩ :=
    fire_cases others (note_undated ground) found l
  · rwa [Run.final_of_error fired]
  · rw [Run.final_congr fired]
    refine trans_of (Live.Undated W id _) same ?_
    rcases r with stop | _ | t
    · exact refl_of (Live.Undated W id _) k
    · rw [conclude, Run.final_bind_pure _ fun _ => false]
      exact rollback_undated ground held unstamped others own compares k
    · obtain ⟨stop, moved⟩ | ⟨current, k', s, next, read, source, -⟩ :=
        move_cases e (.str ev.name) t k
      · rw [conclude, Run.final_bind_error moved]
        exact others.reads k
      · obtain ⟨-, rfl⟩ := Definition.stateAt_eq_ok source
        exact absurd ⟨old, v, m, n, t, k, k', before, shown, considered, read, source⟩ (stays s)

/-- A fire asks for what is due of the state that it comes to move the record from, or for
nothing. -/
theorem fire_takes (closed : e.machine.IsClosed) {name : String} {ev : Event}
    (found : e.machine.event? name = .some ev) (w : W l) :
    let fire := e.fire (.str name)
    W (fire.final l) ∧ ∃ asked, e.Took id e.machine.stampFields asked l (fire.final l)
      ∧ ((∀ s, ¬ e.Departs ev l s) → asked = [])
      ∧ ∀ s, e.Departs ev l s → ∃ r, e.Dates W id (e.machine.dues l id s) asked r
        ∧ ∀ stop, r = .error stop → fire.run l = .error stop (fire.final l) := by
  intro fire
  by_cases departs : ∃ s, e.Departs ev l s
  · obtain ⟨s, departs⟩ := departs
    obtain ⟨w', asked, r, took, dates, stops⟩ :=
      departs.takes ground held unstamped others closed found w
    refine ⟨w', asked, took, fun none => absurd departs (none s), fun s' h => ?_⟩
    obtain rfl := departs.unique h
    exact ⟨r, dates, stops⟩
  · have same := fire_undated ground held unstamped others own compares found fun s h =>
      departs ⟨s, h⟩
    exact ⟨(same w).1, [], .of_undated same w, fun _ => rfl, fun s h => absurd ⟨s, h⟩ departs⟩

end Fire

/-! ## Many fires -/

/-- Of what the clock was asked for, the record has every field. One for the creation was null, was
taken once, and before any for the update of the same state: when one of these is taken, the others
can no more be null. -/
structure Orderly (e : Engine) (id : RecordId) (asked : List (String × Bool)) (l l' : Live) :
    Prop where
  present : ∀ entry ∈ asked, (l.value? id entry.1).isSome = true
  due : ∀ s ∈ e.machine.states, ∀ c ∈ s.createdFields, (c, true) ∈ asked → l.isDue id c = true
  once : ∀ s ∈ e.machine.states, ∀ c ∈ s.createdFields, asked.count (c, true) ≤ 1
  first : ∀ s ∈ e.machine.states, ∀ c ∈ s.createdFields, ∀ u ∈ s.updatedFields,
    ¬ [(u, true), (c, true)].Sublist asked
  settled : ∀ s ∈ e.machine.states, ∀ c ∈ s.createdFields, ∀ u ∈ s.updatedFields,
    (u, true) ∈ asked → l'.isDue id c = false

theorem isDue_of_stamp {l : Live} {id : RecordId} {field : String} {r : Reading}
    (h : l.value? id field = .some (r.stamp field)) : l.isDue id field = false := by
  rw [Live.isDue, h, Reading.stamp]
  cases "_on".toList.isSuffixOf field.toList <;> rfl

namespace Orderly

variable {e : Engine} {W : Live → Prop} {id : RecordId} {asked more : List (String × Bool)}
  {l m l' : Live}

theorem nil : e.Orderly id [] l l' where
  present := nofun
  due _ _ _ _ mem := nomatch mem
  once _ _ _ _ := Nat.zero_le 1
  first _ _ _ _ _ _ sub := nomatch List.sublist_nil.mp sub
  settled _ _ _ _ _ _ mem := nomatch mem

/-- What is due of one state: first the fields for the creation that are null, and those for the
update when all of these were put. -/
theorem of_dates {s : State} (hs : s ∈ e.machine.states) {r : Except Stop Unit}
    (took : e.Took id e.machine.stampFields asked l l')
    (dates : e.Dates W id (e.machine.dues l id s) asked r) : e.Orderly id asked l l' := by
  rw [Machine.dues] at dates
  split at dates
  · have asks {entry : String × Bool} (mem : entry ∈ asked) :
        entry.1 ∈ s.createdFields ∧ l.isDue id entry.1 = true
          ∨ entry.1 ∈ s.updatedFields ∧ (l.value? id entry.1).isSome = true := by
      simpa only [List.mem_append, List.mem_filter] using dates.mem mem
    have stamp {entry : String × Bool} (mem : entry ∈ asked) : entry.1 ∈ s.stampFields :=
      List.mem_append.mpr ((asks mem).imp (·.1) (·.1))
    -- No other state has a part in this.
    have created {s' : State} {c : String} (hc : c ∈ s'.createdFields) {b : Bool}
        (mem : (c, b) ∈ asked) : c ∈ s.createdFields ∧ l.isDue id c = true :=
      (asks mem).resolve_right fun h =>
        State.not_updated_of_created (State.created_of_stampField hc (stamp mem)) h.1
    have updated {s' : State} {u : String} (hu : u ∈ s'.updatedFields)
        (mem : (u, true) ∈ asked) : u ∉ s.createdFields.filter (l.isDue id ·) := fun early =>
      State.not_updated_of_created (List.mem_filter.mp early).1
        (State.updated_of_stampField hu (stamp mem))
    refine ⟨fun entry mem => ?_, fun s' _ c hc mem => (created hc mem).2, fun s' _ c hc => ?_,
      fun s' _ c hc u hu sub => ?_, fun s' _ c hc u hu mem => ?_⟩
    · exact (asks mem).elim (fun h => Live.isSome_of_isDue h.2) (·.2)
    · have unlike : s.stampFields.Nodup := by simp [State.stampFields]
      have fields : (asked.map (·.1)).Sublist s.stampFields :=
        dates.sublist.trans (List.filter_sublist.append List.filter_sublist)
      calc asked.count (c, true) ≤ (asked.map (·.1)).count ((c, true) : String × Bool).1 :=
            List.count_le_count_map
        _ ≤ 1 := List.nodup_iff_count_le_one.mp (unlike.sublist fields) c
    · have both := (created hc (sub.subset (.tail _ (.head _)))).1
      have last := updated hu (sub.subset (.head _))
      obtain ⟨more, rfl, late⟩ := dates.of_append_of_mem (sub.subset (.head _)) last
      have put {u : String} (mem : (u, true) ∈ (s.createdFields.filter (l.isDue id ·)).map
          (·, true)) : u ∈ s.createdFields.filter (l.isDue id ·) := by
        obtain ⟨_, mem, is⟩ := List.mem_map.mp mem
        cases is
        exact mem
      obtain before | ⟨before, -⟩ | behind := pair_sublist_append sub
      · exact last (put (before.subset (.head _)))
      · exact last (put before)
      · have mem := late.mem (behind.subset (.tail _ (.head _)))
        exact State.not_updated_of_created both (List.mem_filter.mp mem).1
    · by_cases taken : (c, true) ∈ asked
      · obtain ⟨r, held⟩ := took.held taken
        exact isDue_of_stamp held
      · have same := State.name_eq_of_stampField (List.mem_append_right s'.createdFields hu)
          (stamp mem)
        have own : c ∈ s.createdFields := by rwa [State.createdFields, ← same]
        have field := Machine.mem_stampFields hs (List.mem_append_left s.updatedFields own)
        rw [Live.isDue, took.kept c field taken]
        obtain ⟨more, rfl, -⟩ := dates.of_append_of_mem mem (updated hu mem)
        by_contra due
        refine taken (List.mem_append_left _ (List.mem_map_of_mem ?_))
        exact List.mem_filter.mpr ⟨own, by simpa [Live.isDue] using due⟩
  · have none : asked = [] := List.map_eq_nil_iff.mp (List.sublist_nil.mp dates.sublist)
    subst none
    exact .nil

theorem append (took : e.Took id e.machine.stampFields asked l m) (h : e.Orderly id asked l m)
    (took' : e.Took id e.machine.stampFields more m l') (h' : e.Orderly id more m l') :
    e.Orderly id (asked ++ more) l l' := by
  have field {s : State} (hs : s ∈ e.machine.states) {c : String} (hc : c ∈ s.createdFields) :
      c ∈ e.machine.stampFields :=
    Machine.mem_stampFields hs (List.mem_append_left s.updatedFields hc)
  have once {c : String} (taken : (c, true) ∈ asked) : m.isDue id c = false := by
    obtain ⟨r, held⟩ := took.held taken
    exact isDue_of_stamp held
  -- What is taken later was null until then, so it was not taken before.
  have fresh {s : State} (hs : s ∈ e.machine.states) {c : String} (hc : c ∈ s.createdFields)
      (mem : (c, true) ∈ more) : (c, true) ∉ asked := fun taken => by
    cases (once taken).symm.trans (h'.due s hs c hc mem)
  refine ⟨fun entry mem => ?_, fun s hs c hc mem => ?_, fun s hs c hc => ?_,
    fun s hs c hc u hu sub => ?_, fun s hs c hc u hu mem => ?_⟩
  · obtain mem | mem := List.mem_append.mp mem
    · exact h.present entry mem
    · by_cases taken : (entry.1, true) ∈ asked
      · exact h.present (entry.1, true) taken
      · exact took.kept _ (took'.among entry mem) taken ▸ h'.present entry mem
  · obtain mem | mem := List.mem_append.mp mem
    · exact h.due s hs c hc mem
    · have due := h'.due s hs c hc mem
      rwa [Live.isDue, took.kept c (field hs hc) (fresh hs hc mem)] at due
  · rw [List.count_append]
    by_cases mem : (c, true) ∈ more
    · rw [List.count_eq_zero_of_not_mem (fresh hs hc mem), Nat.zero_add]
      exact h'.once s hs c hc
    · rw [List.count_eq_zero_of_not_mem mem]
      exact h.once s hs c hc
  · obtain before | ⟨before, behind⟩ | behind := pair_sublist_append sub
    · exact h.first s hs c hc u hu before
    · have settled := h.settled s hs c hc u hu before
      cases settled.symm.trans (h'.due s hs c hc behind)
    · exact h'.first s hs c hc u hu behind
  · obtain mem | mem := List.mem_append.mp mem
    · have settled := h.settled s hs c hc u hu mem
      by_cases taken : (c, true) ∈ more
      · cases settled.symm.trans (h'.due s hs c hc taken)
      · rwa [Live.isDue, took'.kept c (field hs hc) taken]
    · exact h'.settled s hs c hc u hu mem

end Orderly

/-- What some fires leave, one after the other, whatever each of them comes to. -/
def fires (e : Engine) : List String → Live → Live
  | [], l => l
  | name :: names, l => e.fires names ((e.fire (.str name)).final l)

theorem dues_subset {e : Engine} {l : Live} {id : RecordId} {s : State}
    (hs : s ∈ e.machine.states) : ∀ field ∈ e.machine.dues l id s, field ∈ s.stampFields
      ∧ field ∈ e.machine.stampFields := by
  intro field mem
  rw [dues_eq] at mem
  obtain ⟨t, ht, due⟩ := List.mem_filterMap.mp mem
  have hf := mem_of_stamped? ht (stamped?_of_due? due)
  exact ⟨hf, Machine.mem_stampFields hs hf⟩

section Fires

variable {e : Engine} {W : Live → Prop} {id : RecordId} {column : String} {l : Live}
  (ground : Live.Ground W e.machine id) (held : e.machine.config.column = .str column)
  (unstamped : column ∉ e.machine.stampFields) (own : ∀ {l}, W l → l.IsOrdinary id column)
  (others : e.OthersKeep (Live.Undated W id e.machine.stampFields))
  (compares : ∀ v c, v.isState = true →
    Keeps (Live.Undated W id e.machine.stampFields) (e.host.differ v c))
  (closed : e.machine.IsClosed)
include ground held unstamped own others compares closed

theorem fires_takes : ∀ (names : List String) {l : Live}, W l → W (e.fires names l) ∧ ∃ asked,
    e.Took id e.machine.stampFields asked l (e.fires names l)
      ∧ e.Orderly id asked l (e.fires names l)
      ∧ (e.Stampable W id → ∀ entry ∈ asked, entry.2 = true)
  | [], l, w => ⟨w, [], .of_undated (refl_of (Live.Undated W id _) l) w, .nil, fun _ => nofun⟩
  | name :: names, l, w => by
    have one : W ((e.fire (.str name)).final l) ∧ ∃ asked,
        e.Took id e.machine.stampFields asked l ((e.fire (.str name)).final l)
          ∧ e.Orderly id asked l ((e.fire (.str name)).final l)
          ∧ (e.Stampable W id → ∀ entry ∈ asked, entry.2 = true) := by
      cases found : e.machine.event? name with
      | none =>
        have stopped : (e.fire (.str name)).final l = l := by
          rw [fire_eq, Definition.eventNamed_of_none found]
          rfl
        rw [stopped]
        exact ⟨w, [], .of_undated (refl_of (Live.Undated W id _) l) w, .nil, fun _ => nofun⟩
      | some ev =>
        obtain ⟨w', asked, took, none, leaves⟩ :=
          fire_takes ground held unstamped others own compares closed found w
        refine ⟨w', asked, took, ?_⟩
        by_cases departs : ∃ s, e.Departs ev l s
        · obtain ⟨s, departs⟩ := departs
          obtain ⟨r, dates, -⟩ := leaves s departs
          obtain ⟨_, _, _, _, _, _, _, -, -, -, -, source⟩ := departs
          obtain ⟨hs, -⟩ := Definition.stateAt_eq_ok source
          refine ⟨.of_dates hs took dates, fun stampable entry mem => ?_⟩
          obtain ⟨rfl, -⟩ := dates.all stampable fun field hf => (dues_subset hs field hf).2
          obtain ⟨_, -, rfl⟩ := List.mem_map.mp mem
          rfl
        · obtain rfl := none fun s h => departs ⟨s, h⟩
          exact ⟨.nil, fun _ => nofun⟩
    obtain ⟨w₁, asked, took, orderly, all⟩ := one
    obtain ⟨w', more, took', orderly', all'⟩ := fires_takes names w₁
    refine ⟨w', asked ++ more, took.append took', .append took orderly took' orderly',
      fun stampable entry mem => ?_⟩
    exact (List.mem_append.mp mem).elim (all stampable entry) (all' stampable entry)

end Fires

/-- What was taken for the creation was read before what was taken last for an update. -/
theorem Orderly.readings {e : Engine} {id : RecordId} {asked : List (String × Bool)} {l l' : Live}
    (h : e.Orderly id asked l l') (took : e.Took id e.machine.stampFields asked l l') {s : State}
    (hs : s ∈ e.machine.states) {c u : String} (hc : c ∈ s.createdFields)
    (hu : u ∈ s.updatedFields) (created : (c, true) ∈ asked) (updated : (u, true) ∈ asked) :
    ∃ i j r r', i < j ∧ e.reading? i = .some r ∧ e.reading? j = .some r'
      ∧ l'.value? id c = .some (r.stamp c) ∧ l'.value? id u = .some (r'.stamp u) := by
  obtain ⟨before, after, rfl, last⟩ := exists_last_of_mem created
  have behind : (u, true) ∈ after := by
    obtain early | late := List.mem_append.mp updated
    · have ordered : [(u, true), (c, true)].Sublist (before ++ (c, true) :: after) :=
        (List.singleton_sublist.mpr early).append ((List.nil_sublist after).cons_cons _)
      exact absurd ordered (h.first s hs c hc u hu)
    · refine (List.mem_cons.mp late).resolve_left fun same => ?_
      cases same
      exact State.not_updated_of_created hc hu
  obtain ⟨between, rest, rfl, last'⟩ := exists_last_of_mem behind
  obtain ⟨r, shown, creation⟩ := took.put rfl last
  have split : before ++ (c, true) :: (between ++ (u, true) :: rest)
      = (before ++ (c, true) :: between) ++ (u, true) :: rest := by simp
  obtain ⟨r', shown', update⟩ := took.put split last'
  refine ⟨_, _, r, r', ?_, shown, shown', creation, update⟩
  rw [List.length_append, List.length_cons]
  omega

/-- Where others put no stamps, the engine dates those that are due when a record leaves a state, in
order and with one reading each, and no others. A record that cannot take one stops the fire there.
So over any number of fires a field for the creation takes one reading at most, if it is there and
null at first; a field that is not there does not come; and where the clock does not go back, no
creation is later than an update. -/
theorem stamps_of_fires {config : Option (Table Value)} {options : Table Value} {d : Draft}
    {calls : List Draft.Call} {e : Engine} {W : Live → Prop} {id : RecordId} {column : String}
    (begun : Draft.start config options = .ok d)
    (made : (Draft.afterAll calls d).machine? = .some e.machine)
    (ground : Live.Ground W e.machine id) (held : e.machine.config.column = .str column)
    (unstamped : column ∉ e.machine.stampFields) (own : ∀ {l}, W l → l.IsOrdinary id column)
    (others : e.OthersKeep (Live.Undated W id e.machine.stampFields))
    (compares : ∀ v c, v.isState = true →
      Keeps (Live.Undated W id e.machine.stampFields) (e.host.differ v c)) :
    (∀ {l : Live} {name : String} {ev : Event}, W l → e.machine.event? name = .some ev →
        let fires := (e.fire (.str name)).run l
        let l' := (e.fire (.str name)).final l
        ∃ asked, e.Took id e.machine.stampFields asked l l'
          ∧ ((∀ s, ¬ e.Departs ev l s) → asked = [])
          ∧ (e.machine.config.timestamps.truthy = false → asked = [])
          ∧ ∀ s, e.Departs ev l s →
            (∃ r, e.Dates W id (e.machine.dues l id s) asked r
              ∧ ∀ stop, r = .error stop → fires = .error stop l')
            ∧ (e.Stampable W id → asked = (e.machine.dues l id s).map (·, true))
            ∧ ∀ s' ∈ e.machine.states, s'.name ≠ s.name → ∀ field ∈ s'.stampFields,
              l'.value? id field = l.value? id field)
      ∧ ∀ {l : Live} (names : List String), W l →
        let l' := e.fires names l
        ∃ asked, e.Took id e.machine.stampFields asked l l'
          ∧ (e.Stampable W id → ∀ entry ∈ asked, entry.2 = true)
          ∧ (∀ field ∈ e.machine.stampFields,
            l.value? id field = .none → l'.value? id field = .none)
          ∧ ∀ s ∈ e.machine.states, ∀ c ∈ s.createdFields,
            (l.isDue id c = false → l'.value? id c = l.value? id c)
            ∧ asked.count (c, true) ≤ 1
            ∧ ∀ u ∈ s.updatedFields, (c, true) ∈ asked → (u, true) ∈ asked →
              ∀ R : Reading → Reading → Prop, (∀ i j r r', i ≤ j → e.reading? i = .some r →
                e.reading? j = .some r' → R r r') →
              ∃ r r', l'.value? id c = .some (r.stamp c) ∧ l'.value? id u = .some (r'.stamp u)
                ∧ R r r' := by
  have closed := Draft.isClosed_of_machine? begun made
  refine ⟨fun {l name ev} w found => ?_, fun {l} names w => ?_⟩
  · obtain ⟨-, asked, took, none, leaves⟩ :=
      fire_takes ground held unstamped others own compares closed found w
    refine ⟨asked, took, none, fun off => ?_, fun s departs => ?_⟩
    · by_cases departs : ∃ s, e.Departs ev l s
      · obtain ⟨s, departs⟩ := departs
        obtain ⟨r, dates, -⟩ := leaves s departs
        rw [Machine.dues, off] at dates
        exact List.map_eq_nil_iff.mp (List.sublist_nil.mp dates.sublist)
      · exact none fun s h => departs ⟨s, h⟩
    · obtain ⟨r, dates, stops⟩ := leaves s departs
      obtain ⟨_, _, _, _, _, _, _, -, -, -, -, source⟩ := departs
      obtain ⟨hs, -⟩ := Definition.stateAt_eq_ok source
      refine ⟨⟨r, dates, stops⟩, fun stampable =>
        (dates.all stampable fun field hf => (dues_subset hs field hf).2).1,
        fun s' hs' unlike field hf => ?_⟩
      refine took.kept field (Machine.mem_stampFields hs' hf) fun mem => unlike ?_
      exact State.name_eq_of_stampField hf (dues_subset hs field (dates.mem mem)).1
  · obtain ⟨-, asked, took, orderly, all⟩ :=
      fires_takes ground held unstamped own others compares closed names w
    refine ⟨asked, took, all, fun field hf absent => ?_, fun s hs c hc => ⟨fun undue => ?_,
      orderly.once s hs c hc, fun u hu created updated R forward => ?_⟩⟩
    · rw [took.kept field hf fun mem => ?_, absent]
      have there := orderly.present _ mem
      rw [absent] at there
      cases there
    · have field := Machine.mem_stampFields hs (List.mem_append_left s.updatedFields hc)
      refine took.kept c field fun mem => ?_
      cases undue.symm.trans (orderly.due s hs c hc mem)
    · obtain ⟨i, j, r, r', before, shown, shown', creation, update⟩ :=
        orderly.readings took hs hc hu created updated
      exact ⟨r, r', creation, update, forward i j r r' (Nat.le_of_lt before) shown shown'⟩

/-- A record that is moved once, with a clock that runs. -/
theorem stamps_of_fires_picky :
    let e := picky []
    let l := (pickyStart.assign 0 "a_created_at" .null).assign 0 "a_updated_at" .null
    let l' := e.fires ["go"] l
    l'.reads = 2 ∧ ∃ r r', r.moment.micros ≤ r'.moment.micros
      ∧ l'.value? 0 "a_created_at" = .some (.moment r)
      ∧ l'.value? 0 "a_updated_at" = .some (.moment r') := by
  intro e l l'
  let W := (Scene.picky []).World
  have room := Scene.picky_room []
  have w : W l := picky_assign [] (picky_assign [] (picky_shows []).1 (by decide) _) (by decide) _
  have begun : Draft.start .none ⟨[("initial", "a")]⟩ = .ok { config := { initial := "a" } } := rfl
  have made : (Draft.afterAll (Draft.Call.picky [])
      { config := { initial := "a" } }).machine? = .some e.machine := rfl
  have others : e.OthersKeep (Live.Undated W 0 e.machine.stampFields) :=
    picky_others fun same w => by
      obtain ⟨held, rfl⟩ := same w
      exact ⟨w.inHand held, rfl, fun _ _ => rfl⟩
  have compares (v c : Value) (state : v.isState = true) :
      Keeps (Live.Undated W 0 e.machine.stampFields) (e.host.differ v c) := fun l w => by
    obtain ⟨b, answered⟩ := Host.differ_answers (h := e.host) (l := l)
      (Live.Stands.mute_of_innate w (by decide)) (Live.Stands.mute_of_innate w (by decide)) state c
    rw [Run.final_of_ok answered]
    exact ⟨w, rfl, fun _ _ => rfl⟩
  have stampable : e.Stampable W 0 := by
    have unsaid : ∀ field ∈ (Machine.picky []).stampFields,
        (Lineage.ofClass Class.plainOnly 3).member? field = .none := by decide
    exact ⟨fun w field hf _ => Live.Stands.isOpen w rfl (unsaid field hf), fun _ => rfl⟩
  obtain ⟨one, all⟩ := stamps_of_fires begun made room.toGround rfl (by decide)
    (fun w => (room.openColumn w).isOrdinary) others compares
  have shown : e.currentState.run l = .ok "a" l :=
    currentState_run (room.plain w) (room.openColumn w).isOrdinary rfl rfl
  have departs : e.Departs pickyEvent l { name := "a" } :=
    ⟨_, _, _, _, _, _, _, shown, shown,
      picky_considers [] (picky_lasting [] w) (picky_valid [] w "go"), shown, rfl⟩
  obtain ⟨asked, took, -, -, leaves⟩ := one w (rfl : e.machine.event? "go" = .some pickyEvent)
  obtain ⟨-, put, -⟩ := leaves _ departs
  obtain rfl : asked = [("a_created_at", true), ("a_updated_at", true)] := put stampable
  obtain ⟨asked', took', -, -, dated⟩ := all ["go"] w
  -- What was null and is not was taken.
  have taken {field : String} (hf : field ∈ e.machine.stampFields) (null : l.isDue 0 field = true)
      (mem : (field, true) ∈ [("a_created_at", true), ("a_updated_at", true)]) :
      (field, true) ∈ asked' := by
    by_contra untaken
    have kept : ((e.fire "go").final l).value? 0 field = l.value? 0 field :=
      took'.kept field hf untaken
    obtain ⟨r, held⟩ := took.held mem
    have undue := isDue_of_stamp held
    rw [Live.isDue, kept] at undue
    cases undue.symm.trans null
  obtain ⟨-, -, later⟩ := dated { name := "a" } (.head _) "a_created_at" (.head _)
  obtain ⟨r, r', creation, update, le⟩ := later "a_updated_at" (.head _)
    (taken (by decide) rfl (.head _)) (taken (by decide) rfl (.tail _ (.head _)))
    (·.moment.micros ≤ ·.moment.micros) fun i j r r' le shown shown' => by
      cases shown
      cases shown'
      exact le
  exact ⟨took.reads, r, r', le, creation, update⟩

/-- A state is left, and its null stamp, which comes with the class, stays null: the class refuses
every write. -/
theorem sealed_undated :
    let e := picky []
    let l := Live.newOf (Class.stubborn [("a_created_at", .value .null)])
    let l' : Live := { l with reads := 1 }
    (Draft.afterAll (Draft.Call.picky []) { config := { initial := "a" } }).machine?
        = .some e.machine
      ∧ l.isDue 0 "a_created_at" = true ∧ e.Departs pickyEvent l { name := "a" }
      ∧ (e.fire "go").run l = .error (.fault (.raised .boom "no")) l'
      ∧ l'.value? 0 "a_created_at" = .some .null := by
  intro e l l'
  have shown : e.currentState.run l = .ok "a" l := currentState_run_of_attr rfl
  have found : e.machine.event? "go" = .some pickyEvent := rfl
  have considered := picky_considers [] (l := l) rfl rfl
  have trips : e.Trips "go" (e.machine.strides { name := "a" } { name := "b" }) l
      (.fault (.raised .boom "no")) l' :=
    ⟨[], .stampAbsent "a_created_at", _, l, rfl, .stay l, rfl⟩
  have moved : (e.move "go" { source := "a", target := "b" }).run l
      = .error (.fault (.raised .boom "no")) l' :=
    (move_run shown rfl rfl).trans (walk_eq_error.mpr trips)
  refine ⟨rfl, rfl, ⟨_, _, _, _, _, _, _, shown, shown, considered, shown, rfl⟩, ?_, rfl⟩
  rw [fire_of_considers found shown shown considered, conclude]
  exact Run.run_bind_error moved _

end Engine

end Lifecycle
