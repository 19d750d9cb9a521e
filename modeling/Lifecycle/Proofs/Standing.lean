/-
Standing records: records of classes that leave everything to the library.

Whether classes do so (`Class.IsSimple`) can be seen from what they define. A
record of such a class, among such classes, has a world for every machine
(`Live.Stands.world`), whatever attributes it has; only that some are missing,
such as a check of its own, can be asked for besides.
-/
import Lifecycle.Proofs.Conduct

namespace Lifecycle

/-- The methods by which a class can have its say where values are written or count as true. -/
def Class.speakers : List String := ["__str__", "__repr__", "__bool__", "__len__"]

/-- Whether a member leaves a name to the record. -/
def Member.isForRecords : Member → Bool
  | .generated .currentState _ _ | .view _ => false
  | _ => true

/-- The records of a class, among others, leave the use of attributes to the library, and no class
has a say in what is written, what counts as true, or what ends. -/
structure Class.IsSimple (classes : List Class) (cls : ClassId) : Prop where
  hooks : ∀ use : Hook, (Lineage.ofClass classes cls).defined? use.name = .none
  names : ∀ layer ∈ Lineage.ofClass classes cls, ∀ entry ∈ layer.members.entries,
    entry.1 ∈ Live.takenNames ∨ entry.2.isForRecords = true
  mute : ∀ c ∈ classes, ∀ name ∈ Class.speakers,
    ((c.members.get? name).all (·.isInnate)) = true
  lasting : ∀ c ∈ classes, c.members.contains farewellName = false

theorem Table.mem_of_get? {α : Type} {t : Table α} {key : String} {a : α}
    (h : t.get? key = .some a) : (key, a) ∈ t.entries := by
  obtain ⟨entries⟩ := t
  simp only [get?] at h ⊢
  induction entries with
  | nil => cases h
  | cons e es ih =>
    obtain ⟨k, b⟩ := e
    by_cases hk : key = k
    · subst hk
      simp only [List.lookup_cons, beq_self_eq_true] at h
      cases h
      exact .head _
    · have hb : (key == k) = false := by simpa using hk
      rw [List.lookup_cons, hb] at h
      exact .tail _ (ih h)

namespace Lineage

/-- A class is the nearest one of its own line. -/
theorem ofClass_eq_cons {classes : List Class} {cls : ClassId} {c : Class}
    (h : classes[cls]? = .some c) :
    ∃ rest, ofClass classes cls = { toClassBody := c.toClassBody, owner := cls } :: rest := by
  simp only [ofClass, h, List.filterMap_cons, Option.map_some]
  exact ⟨_, rfl⟩

theorem mem_of_member? {line : Lineage} {name : String} {owner : ClassId} {m : Member}
    (h : line.member? name = .some (owner, m)) :
    ∃ layer ∈ line, layer.members.get? name = .some m := by
  obtain ⟨layer, hmem, hfound⟩ := List.exists_of_findSome?_eq_some h
  obtain ⟨m', hget, heq⟩ := Option.map_eq_some_iff.mp hfound
  cases heq
  exact ⟨layer, hmem, hget⟩

theorem mem_of_ofClass {classes : List Class} {cls : ClassId} {layer : Layer}
    (h : layer ∈ ofClass classes cls) : ∃ c ∈ classes, layer.members = c.members := by
  unfold ofClass at h
  split at h
  · cases h
  · obtain ⟨owner, -, hlayer⟩ := List.mem_filterMap.mp h
    obtain ⟨c, hc, rfl⟩ := Option.map_eq_some_iff.mp hlayer
    exact ⟨c, List.mem_of_getElem? hc, rfl⟩

/-- What no class defines but innately, no line does. -/
theorem defined?_eq_none {classes : List Class} {cls : ClassId} {name : String}
    (h : ∀ c ∈ classes, ((c.members.get? name).all (·.isInnate)) = true) :
    (ofClass classes cls).defined? name = .none := by
  unfold defined?
  split
  · rfl
  · next other =>
    cases hm : (ofClass classes cls).member? name with
    | none => rfl
    | some found =>
      obtain ⟨owner, m⟩ := found
      obtain ⟨layer, hlayer, hget⟩ := mem_of_member? hm
      obtain ⟨c, hc, hmembers⟩ := mem_of_ofClass hlayer
      have innate := h c hc
      rw [← hmembers, hget, Option.all_some] at innate
      cases m with
      | innate what => exact (other _ _ hm).elim
      | _ => cases innate

end Lineage

namespace Live

/-- The run is on a record of a class among others that stay as they are, and some attributes are
missing. -/
structure Stands (classes : List Class) (cls : ClassId) (id : RecordId) (missing : List String)
    (l : Live) : Prop where
  self : l.self = .record id
  classes : l.classes = classes
  cls : l.classOf? (.record id) = .some cls
  missing : ∀ name ∈ missing, l.value? id name = .none

variable {classes : List Class} {cls : ClassId} {id : RecordId} {missing : List String} {l : Live}

theorem Stands.lineage (h : l.Stands classes cls id missing) :
    l.lineage (.record id) = Lineage.ofClass classes cls := by
  simp only [Live.lineage, h.cls, lineageOf, h.classes]

/-- Where there is room, all names are open of which the classes say nothing. -/
theorem Stands.isOpen (h : l.Stands classes cls id missing) {name : String}
    (roomy : (Lineage.ofClass classes cls).isRoomy = true)
    (unsaid : (Lineage.ofClass classes cls).member? name = .none) : l.IsOpen id name := by
  rw [IsOpen, reserved?, refusal?, h.lineage, unsaid, if_pos roomy]
  exact .inr ⟨rfl, rfl⟩

/-- What a class says of its records when they are written does not matter to their attributes. -/
theorem Stands.plain_of_names (h : l.Stands classes cls id missing)
    (hooks : ∀ use : Hook, (Lineage.ofClass classes cls).defined? use.name = .none)
    (names : ∀ layer ∈ Lineage.ofClass classes cls, ∀ entry ∈ layer.members.entries,
      entry.1 ∈ takenNames ∨ entry.2.isForRecords = true) : l.Plain id where
  self := h.self
  hooks use := by rw [hook?, h.lineage, hooks]; rfl
  names name hname := by
    rw [IsOrdinary, reserved?, h.lineage]
    cases hm : (Lineage.ofClass classes cls).member? name with
    | none => exact .inl rfl
    | some found =>
      obtain ⟨owner, m⟩ := found
      obtain ⟨layer, hlayer, hget⟩ := Lineage.mem_of_member? hm
      have left := (names layer hlayer _ (Table.mem_of_get? hget)).resolve_left hname
      cases m with
      | generated what machine =>
        cases what with
        | currentState => cases left
        | _ => exact .inl rfl
      | view what => cases left
      | slot => exact .inr rfl
      | _ => exact .inl rfl

theorem Stands.plain (h : l.Stands classes cls id missing) (simple : Class.IsSimple classes cls) :
    l.Plain id :=
  h.plain_of_names simple.hooks simple.names

theorem Stands.mute_of_innate (h : l.Stands classes cls id missing) {name : String}
    (innate : ∀ c ∈ classes, ((c.members.get? name).all (·.isInnate)) = true) : l.Mute name := by
  intro v
  rw [Live.lineage]
  split
  · rw [lineageOf, h.classes]
    exact Lineage.defined?_eq_none innate
  · rfl

theorem Stands.mute (h : l.Stands classes cls id missing) (simple : Class.IsSimple classes cls)
    {name : String} (hname : name ∈ Class.speakers) : l.Mute name :=
  h.mute_of_innate fun c hc => simple.mute c hc name hname

theorem Stands.quiet (h : l.Stands classes cls id missing) (simple : Class.IsSimple classes cls) :
    l.Quiet where
  shown := h.mute simple (by decide)
  written := h.mute simple (by decide)
  lasting := by
    rw [hasFarewells, h.classes, List.any_eq_false]
    intro c hc
    rw [simple.lasting c hc]
    decide

/-- What is in hand does not matter. -/
theorem Stands.inHand (h : l.Stands classes cls id missing) (held : List Value) :
    ({ l with held } : Live).Stands classes cls id missing :=
  ⟨h.self, h.classes, h.cls, h.missing⟩

theorem Stands.assign (h : l.Stands classes cls id missing) {name : String}
    (hname : name ∉ missing) (v : Value) : (l.assign id name v).Stands classes cls id missing where
  self := by rw [self_assign, h.self]
  classes := by rw [classes_assign, h.classes]
  cls := by rw [classOf?_assign, h.cls]
  missing other ho := by
    have hne : other ≠ name := fun heq => hname (heq ▸ ho)
    rw [value?_assign_other hne, h.missing other ho]

theorem Stands.discarded (h : l.Stands classes cls id missing) {name : String}
    (hname : name ∉ missing) : (l.discarded id name).Stands classes cls id missing where
  self := by rw [self_discarded, h.self]
  classes := by rw [classes_discarded, h.classes]
  cls := by rw [classOf?_discarded, h.cls]
  missing other ho := by
    have hne : other ≠ name := fun heq => hname (heq ▸ ho)
    rw [value?_discarded_other hne, h.missing other ho]

/-- Standing is the ground for every machine that writes none of the missing attributes. -/
theorem Stands.ground {m : Machine} (simple : Class.IsSimple classes cls)
    (hm : ∀ name ∈ missing, ¬ m.Writes name) : Ground (Stands classes cls id missing) m id where
  plain h := h.plain simple
  noted _ h := ⟨h.self, h.classes, h.cls, h.missing⟩
  ticked _ h := ⟨h.self, h.classes, h.cls, h.missing⟩
  written h puts _ := h.assign (fun hmem => hm _ hmem puts.writes) _
  restored _ _ h held _ := h.assign (fun hmem => hm _ hmem (.inr (.inl held))) _

/-- It is a world for every engine of such a machine. -/
theorem Stands.world {e : Engine} (simple : Class.IsSimple classes cls)
    (hm : ∀ name ∈ missing, ¬ e.machine.Writes name) :
    World (Stands classes cls id missing) e id :=
  Engine.world_of_quiet (Stands.ground simple hm) fun h => h.quiet simple

/-- The record stands, and does not have some attributes itself, whether or not its classes do. -/
structure StandsBare (classes : List Class) (cls : ClassId) (id : RecordId) (names : List String)
    (l : Live) : Prop extends Stands classes cls id [] l where
  bare : ∀ name ∈ names, (l.attrsOf id).get? name = .none

theorem StandsBare.assign {names : List String} (h : l.StandsBare classes cls id names)
    {name : String} (hname : name ∉ names) (v : Value) :
    (l.assign id name v).StandsBare classes cls id names where
  toStands := h.toStands.assign (by simp) v
  bare other ho := by
    have hne : other ≠ name := fun heq => hname (heq ▸ ho)
    rw [attrsOf_assign_other hne, h.bare other ho]

theorem StandsBare.ground {m : Machine} {names : List String} (simple : Class.IsSimple classes cls)
    (hm : ∀ name ∈ names, ¬ m.Writes name) : Ground (StandsBare classes cls id names) m id where
  plain h := h.plain simple
  noted _ h := ⟨⟨h.self, h.classes, h.cls, nofun⟩, h.bare⟩
  ticked _ h := ⟨⟨h.self, h.classes, h.cls, nofun⟩, h.bare⟩
  written h puts _ := h.assign (fun hmem => hm _ hmem puts.writes) _
  restored _ _ h held _ := h.assign (fun hmem => hm _ hmem (.inr (.inl held))) _

end Live

/-! ## Plain classes -/

/-- A class that defines nothing but what every class has of its own. -/
def Class.plain : ClassBody where
  members := ⟨[("__module__", .value (.str "__main__")), (attributesAttribute, .view .attributes),
    (referencesAttribute, .view .references), ("__doc__", .value .null)]⟩

example : Class.ofBody [Class.root] ∅ = .ok Class.plain := by cbv

/-- What a class defines besides. -/
def Class.top (own : List (String × Member)) : ClassBody where
  members := ⟨own ++ Class.plain.members.entries⟩

/-- One such class after those that are there before all others. -/
def Class.plainOnly : List Class := Class.first ++ [{ toClassBody := Class.plain }]

theorem Class.plainOnly_isSimple : Class.IsSimple Class.plainOnly 3 where
  hooks use := by cases use <;> rfl
  names := by decide
  mute := by decide
  lasting := by decide

/-- A new record of the plain class, which has nothing yet. -/
def Live.blank : Live where
  self := .record 0
  classes := Class.plainOnly
  records := [{ cls := 3, sheet := .attributes 0 }]
  shelf := { taken := 1 }

/-- A new record of a class that comes after those that are there before all others. -/
def Live.newOf (c : ClassBody) : Live where
  self := .record 0
  classes := Class.first ++ [{ toClassBody := c }]
  records := [{ cls := 3, sheet := .attributes 0 }]
  shelf := { taken := 1 }

/-! ## Logging -/

/-- A step that logs what its expression gives does nothing else. -/
theorem Step.log_run {h : Host} {args : List Value} {e : Expr} {v : Value} {l : Live}
    (lasting : l.hasFarewells = false) (given : e.eval h args = pure v) :
    ((Step.log e).run h args).run l = .ok () { l with log := l.log ++ [.note (l.settle v)] } := by
  rw [run, Host.passing_run lasting, given]
  rfl

/-! ## Truth -/

theorem Host.truth_idle {h : Host} {l : Live} (hb : l.Mute "__bool__") (hl : l.Mute "__len__")
    (v : Value) : (h.truth v).Idle l := by
  have measured : (h.length? v).run l = .ok .none l := by
    rw [length?, Run.run_bind_ok (ask_run hl v _)]
    rfl
  rw [truth, Run.Idle, Run.final_bind_ok (ask_run hb v _)]
  dsimp only
  rw [Run.final_bind_ok measured]
  rfl

end Lifecycle
