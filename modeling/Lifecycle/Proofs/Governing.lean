/-
What a machine gives to a class: a name that the class has itself stays as it is,
and any other goes to the first of the machine's members that bears it
(`Class.govern_get?`).

The names of states and events are up to whoever writes a machine, and come
before those of the members for validity. So a state `valid` answers for
`is_valid`, and events can take this name and `validation_errors` too
(`Definition.validMember`, `Definition.errorsMember`).

Where the names that a machine offers are distinct and none of them is one that
classes use for themselves (`Definition.IsClear`), a class refuses none
(`Class.govern_completes`), and each goes to the member that is meant
(`Class.offers_lookup_of_mem`).
-/
import Lifecycle.Class
import Mathlib.Data.List.Nodup

namespace Lifecycle

/-- The member that answers for `is_valid` on the records of a machine. -/
def Definition.validMember (d : Definition) : Generated :=
  if d.declares "valid" then .isState "valid"
  else if (d.event? "is_valid").isSome then .fire "is_valid"
  else .valid

/-- The member that answers for `validation_errors`. -/
def Definition.errorsMember (d : Definition) : Generated :=
  if (d.event? "validation_errors").isSome then .fire "validation_errors" else .errors

namespace Class

variable {id : MachineId} {d : Definition} {clock : Option ClockId} {name : String}

/-- A class keeps what it has under a name, and is given the first offer if it has nothing. -/
theorem installAll_get? : ∀ {offers : List (String × Member)} {t t' : Table Member},
    installAll offers t = (t', .none) → t'.get? name = (t.get? name).or (offers.lookup name)
  | [], t, t', h => by
    cases h
    simp
  | (other, m) :: rest, t, t', h => by
    rw [installAll] at h
    split at h
    · next has =>
      rw [installAll_get? h]
      by_cases hname : name = other
      · subst hname
        obtain ⟨own, hown⟩ := Option.isSome_iff_exists.mp has
        simp [hown]
      · have hb : (name == other) = false := by simpa using hname
        rw [List.lookup_cons, hb]
    · next hasnt =>
      split at h
      · cases h
      · rw [installAll_get? h]
        by_cases hname : name = other
        · subst hname
          have hnone : t.get? name = .none := by
            simpa [Table.contains] using hasnt
          simp [hnone]
        · have hb : (name == other) = false := by simpa using hname
          rw [Table.get?_set_other _ _ hname, List.lookup_cons, hb]

/-- The members of a governed class, but for its constructor and what names the machine. -/
theorem govern_get? {owner : ClassId} {members t : Table Member} {bases : Lineage}
    (h : govern id d clock owner members bases = (t, .none)) (hc : name ≠ constructorName)
    (hm : name ≠ machineAttribute) :
    t.get? name = (members.get? name).or ((offers id d clock).lookup name) := by
  unfold govern at h
  split at h
  · cases h
  · next named hnamed =>
    cases h
    rw [withConstructor, Table.get?_set_other _ _ hc, installAll_get? hnamed,
      Table.get?_set_other _ _ hm]

/-- A governed class names its machine, and its constructor is wrapped for it. -/
theorem govern_wraps {owner : ClassId} {members t : Table Member} {bases : Lineage}
    (h : govern id d clock owner members bases = (t, .none)) :
    t.get? machineAttribute = .some (.value (.machine id))
      ∧ ∃ inner source, t.get? constructorName = .some (.governed inner source id) := by
  unfold govern at h
  split at h
  · cases h
  · next named hnamed =>
    cases h
    refine ⟨?_, _, _, Table.get?_set_self ..⟩
    have ne : machineAttribute ≠ constructorName := by decide
    rw [withConstructor, Table.get?_set_other _ _ ne, installAll_get? hnamed, Table.get?_set_self]
    rfl

/-! ## What is offered -/

theorem lookup_map_generated (whats : List Generated) :
    (whats.map fun what => (what.name, Member.generated what id clock)).lookup name
      = (whats.find? (·.name == name)).map (.generated · id clock) := by
  induction whats with
  | nil => rfl
  | cons what whats ih =>
    rw [List.map_cons, List.lookup_cons, List.find?_cons]
    by_cases hname : what.name = name
    · simp [hname]
    · have hb : (name == what.name) = false := by simpa using Ne.symm hname
      have hb' : (what.name == name) = false := by simpa using hname
      rw [hb, hb']
      exact ih

/-- Under the name of a member that it offers, a machine offers some member. -/
theorem offers_lookup_generated {what : Generated} (hm : what.name ≠ "state_machine")
    (offered : (what.name, .generated what id clock) ∈ offers id d clock) :
    ∃ what', (offers id d clock).lookup what.name = .some (.generated what' id clock) := by
  have hm' : (what.name == "state_machine") = false := by simpa using hm
  rw [offers, List.mem_cons] at offered
  obtain same | mem := offered
  · exact absurd (Prod.mk.inj same).1 hm
  · rw [offers, List.lookup_cons, hm']
    dsimp only
    rw [lookup_map_generated]
    obtain ⟨what', there, same⟩ := List.mem_map.mp mem
    have named : what'.name = what.name := (Prod.mk.inj same).1
    have found := List.find?_isSome (p := (·.name == what.name)).mpr
      ⟨what', there, beq_iff_eq.mpr named⟩
    obtain ⟨first, hfirst⟩ := Option.isSome_iff_exists.mp found
    exact ⟨first, by rw [hfirst]; rfl⟩

/-- Who gets a name that a machine offers: predicates for states before events before all others. -/
theorem offers_lookup (hm : name ≠ "state_machine") (hs : name ≠ "current_state") :
    (offers id d clock).lookup name
      = ((((d.states.find? fun s => "is_" ++ s.name == name).map (Generated.isState ·.name)).or
          ((d.event? name).map (Generated.fire ·.name))).or
        ([.nextTransitions, .nextTarget, .errors, .valid, .inState, .notInState].find?
          (Generated.name · == name))).map (.generated · id clock) := by
  have hm' : (name == "state_machine") = false := by simpa using hm
  have hs' : (Generated.currentState.name == name) = false := beq_eq_false_iff_ne.mpr (Ne.symm hs)
  rw [offers, List.lookup_cons, hm']
  dsimp only
  rw [lookup_map_generated, List.find?_append, List.find?_append, List.find?_append,
    List.find?_map, List.find?_map, List.find?_cons, hs']
  rfl

theorem isState_name_eq {s : State} : ("is_" ++ s.name == "is_valid") = (s.name == "valid") := by
  have split : ("is_valid" : String) = "is_" ++ "valid" := by decide
  rw [split, Bool.eq_iff_iff, beq_iff_eq, beq_iff_eq, String.append_right_inj]

theorem offers_lookup_valid :
    (offers id d clock).lookup "is_valid" = .some (.generated d.validMember id clock) := by
  have states : (d.states.find? fun s => "is_" ++ s.name == "is_valid") = d.state? "valid" := by
    simp only [isState_name_eq, Definition.state?]
  rw [offers_lookup (by decide) (by decide), states, Definition.validMember, Definition.declares]
  cases hstate : d.state? "valid" with
  | some s =>
    have hname : s.name = "valid" := by simpa using List.find?_some hstate
    simp [hname]
  | none =>
    cases hevent : d.event? "is_valid" with
    | some ev =>
      have hname : ev.name = "is_valid" := by simpa using List.find?_some hevent
      simp [hname]
    | none => rfl

theorem offers_lookup_errors :
    (offers id d clock).lookup "validation_errors"
      = .some (.generated d.errorsMember id clock) := by
  have states : (d.states.find? fun s => "is_" ++ s.name == "validation_errors") = .none := by
    rw [List.find?_eq_none]
    intro s _ hname
    have heads := congrArg (·.toList.head?) (beq_iff_eq.mp hname)
    simp at heads
  rw [offers_lookup (by decide) (by decide), states, Definition.errorsMember]
  cases hevent : d.event? "validation_errors" with
  | some ev =>
    have hname : ev.name = "validation_errors" := by simpa using List.find?_some hevent
    simp [hname]
  | none => rfl

end Class

/-! ## Clear names -/

namespace Definition

/-- The members that a machine generates for a class, in the order in which names are taken. -/
def generated (d : Definition) : List Generated :=
  [.currentState] ++ d.states.map (.isState ·.name) ++ d.events.map (.fire ·.name)
    ++ [.nextTransitions, .nextTarget, .errors, .valid, .inState, .notInState]

/-- All names that it offers. -/
def surface (d : Definition) : List String := "state_machine" :: d.generated.map Generated.name

end Definition

/-- Whether a name stands between double underscores. -/
def isUnderlined (name : String) : Bool :=
  "__".toList.isPrefixOf name.toList && "__".toList.isSuffixOf name.toList && 4 < name.length

/-- The names that a machine offers are distinct, and a class uses none of them for itself. -/
structure Definition.IsClear (d : Definition) : Prop where
  distinct : d.surface.Nodup
  underlined : ∀ name ∈ d.surface, isUnderlined name = false
  unnamed : machineAttribute ∉ d.surface

namespace Class

variable {id : MachineId} {d : Definition} {clock : Option ClockId} {name : String}

theorem offers_eq : offers id d clock = ("state_machine", .value (.machine id))
    :: d.generated.map fun what => (what.name, .generated what id clock) := rfl

theorem mem_surface_of_offers {m : Member} (h : (name, m) ∈ offers id d clock) :
    name ∈ d.surface := by
  rw [offers_eq, List.mem_cons, List.mem_map] at h
  obtain same | ⟨what, mem, same⟩ := h
  · exact List.mem_cons.mpr (.inl (Prod.mk.inj same).1)
  · obtain ⟨rfl, -⟩ := Prod.mk.inj same
    exact List.mem_cons_of_mem _ (List.mem_map_of_mem mem)

/-- Only names between double underscores are refused. -/
theorem refusal?_of_not_underlined (h : isUnderlined name = false) (v : Value) :
    refusal? name v = .none := by
  have ne : ∀ other, isUnderlined other = true → name ≠ other := by
    rintro other there rfl
    exact Bool.false_ne_true (h.symm.trans there)
  have free : isKept name = false := by
    have kept : ∀ other ∈ ["__base__", "__basicsize__", "__dict__", "__dictoffset__", "__flags__",
        "__itemsize__", "__mro__", "__text_signature__", "__weakrefoffset__"],
        isUnderlined other = true := by decide
    rw [isKept, ← Bool.not_eq_true, List.contains_iff_mem]
    exact fun mem => ne name (kept name mem) rfl
  have cls : name ≠ "__class__" := ne _ (by decide)
  have own : name ≠ "__name__" := ne _ (by decide)
  have written : name ≠ "__qualname__" := ne _ (by decide)
  have bases : name ≠ "__bases__" := ne _ (by decide)
  simp [refusal?, free, cls, own, written, bases]

theorem installAll_completes : ∀ {offers : List (String × Member)} {t : Table Member},
    (∀ offer ∈ offers, isUnderlined offer.1 = false) → (installAll offers t).2 = .none
  | [], _, _ => rfl
  | (name, m) :: rest, t, clear => by
    have others : ∀ offer ∈ rest, isUnderlined offer.1 = false := fun o mem => clear o (.tail _ mem)
    rw [installAll, refusal?_of_not_underlined (clear _ (.head _))]
    split
    · exact installAll_completes others
    · exact installAll_completes others

/-- A machine whose names are clear is refused nothing. -/
theorem govern_completes (clear : d.IsClear) (owner : ClassId) (members : Table Member)
    (bases : Lineage) : (govern id d clock owner members bases).2 = .none := by
  have done : (installAll (offers id d clock)
      (members.set machineAttribute (.value (.machine id)))).2 = .none :=
    installAll_completes fun (name, _) mem => clear.underlined name (mem_surface_of_offers mem)
  rw [govern]
  cases h : installAll (offers id d clock)
      (members.set machineAttribute (.value (.machine id))) with
  | mk named refused =>
    rw [h] at done
    cases done
    rfl

/-- What a class has after some offers it had before or was offered. -/
theorem installAll_source : ∀ {offers : List (String × Member)} {t : Table Member} {m : Member},
    (installAll offers t).1.get? name = .some m → t.get? name = .some m ∨ (name, m) ∈ offers
  | [], _, _, h => .inl h
  | (other, m') :: rest, t, m, h => by
    rw [installAll] at h
    split at h
    · exact (installAll_source h).imp_right (.tail _)
    · split at h
      · exact .inl h
      · obtain there | mem := installAll_source h
        · by_cases same : name = other
          · subst same
            rw [Table.get?_set_self] at there
            cases there
            exact .inr (.head _)
          · rw [Table.get?_set_other _ _ same] at there
            exact .inl there
        · exact .inr (.tail _ mem)

/-- Each clear name goes to the member that is meant. -/
theorem offers_lookup_of_mem (clear : d.IsClear) {what : Generated} (mem : what ∈ d.generated) :
    (offers id d clock).lookup what.name = .some (.generated what id clock) := by
  obtain ⟨unlike, distinct⟩ := List.nodup_cons.mp clear.distinct
  have ne : (what.name == "state_machine") = false := by
    rw [beq_eq_false_iff_ne]
    exact fun same => unlike (same ▸ List.mem_map_of_mem mem)
  rw [offers_eq, List.lookup_cons, ne]
  dsimp only
  rw [lookup_map_generated]
  obtain ⟨what', found⟩ := Option.isSome_iff_exists.mp
    (List.find?_isSome (p := (·.name == what.name)).mpr ⟨what, mem, beq_self_eq_true _⟩)
  have same : what' = what := List.inj_on_of_nodup_map distinct (List.mem_of_find?_eq_some found)
    mem (by simpa using List.find?_some found)
  rw [found, same]
  rfl

end Class

end Lifecycle
