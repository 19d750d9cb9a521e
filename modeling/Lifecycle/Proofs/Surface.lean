/-
The surface of a machine: what stands under the names that it offers to a class.

A class that is decorated once keeps what its body has and reaches the machine by
every other name (`Decorated.surface`): records fire its events and ask for its
states, its successors and its errors, the class itself filters. What is fired
in this way is stamped by the clock that came with the machine. What classes
above have under these names is covered, even by another machine. A record
whose class takes over reading shows what that class wants to show.

Classes that are not below the decorated one stay as they are, and so does all
that a record of theirs finds (`Live.Sees.of_apart`).
-/
import Lifecycle.Proofs.Decorating
import Lifecycle.Proofs.Validity

namespace Lifecycle

open Lifecycle.Class (Edit made edited)

/-! ## Decorated once -/

/-- Whether a machine generated a member. -/
def Member.isGenerated : Member → Bool
  | .generated _ _ _ => true
  | _ => false

/-- Of the classes that some edits lead to, `owner` is one that came as `c` and that one machine was
to govern, once, with a clock. It is on the line of `cls`, and the classes before it have nothing
under the names that the machine offers. No class comes with members that a machine would
generate. -/
structure Decorated (edits : List Edit) (cls owner : ClassId) (machine : MachineId)
    (d : Definition) (clock : Option ClockId) (c : Class) : Prop where
  once : ∃ before between later,
    edits = before ++ .add c :: (between ++ .govern owner machine d clock :: later)
      ∧ (made before).length = owner ∧ ∀ e ∈ between ++ later, e.governs? owner = .none
  line : ∃ k below above, (made edits)[cls]? = .some k ∧ cls :: k.bases = below ++ owner :: above
    ∧ ∀ b ∈ below, ∀ c, (made edits)[b]? = .some c → ∀ name ∈ d.surface,
      c.members.get? name = .none
  written : ∀ c, .add c ∈ edits → ∀ entry ∈ c.members.entries, entry.2.isGenerated = false

theorem Lineage.memberOf?_self {classes : List Class} {owner : ClassId} {name : String} :
    (ofClass classes owner).memberOf? owner name
      = classes[owner]?.bind (·.members.get? name) := by
  cases there : classes[owner]? with
  | none => rw [ofClass, there]; rfl
  | some c =>
    obtain ⟨rest, line⟩ := ofClass_eq_cons there
    rw [line, memberOf?, List.find?_cons]
    simp

namespace Class

/-- The view of a machine on a record's state stands under its name only. -/
def KeepsState (c : Class) : Prop :=
  ∀ name machine clock, c.members.get? name = .some (.generated .currentState machine clock) →
    name = Generated.currentState.name

theorem keepsState_of_written {c : Class}
    (h : ∀ entry ∈ c.members.entries, entry.2.isGenerated = false) : c.KeepsState :=
  fun _ _ _ there => Bool.noConfusion (h _ (Table.mem_of_get? there))

theorem first_keepsState (c : Class) (h : c ∈ first) : c.KeepsState := by
  have written : ∀ c ∈ first, ∀ entry ∈ c.members.entries, entry.2.isGenerated = false := by decide
  exact keepsState_of_written (written c h)

/-- To be governed changes nothing of that. -/
theorem KeepsState.given {c : Class} (h : c.KeepsState) (classes : List Class) (cls : ClassId)
    (machine : MachineId) (d : Definition) (clock : Option ClockId) :
    KeepsState { c with members := (Edit.given classes cls machine d clock c).1 } := by
  intro name other timer there
  have installed {t : Table Member} {refused : Option Fault}
      (result : installAll (offers machine d clock) (c.members.set machineAttribute
        (.value (.machine machine))) = (t, refused))
      (there : t.get? name = .some (.generated .currentState other timer)) :
      name = Generated.currentState.name := by
    obtain before | mem := installAll_source (by rw [result]; exact there)
    · by_cases same : name = machineAttribute
      · rw [same, Table.get?_set_self] at before
        cases before
      · rw [Table.get?_set_other _ _ same] at before
        exact h name other timer before
    · rw [offers_eq, List.mem_cons, List.mem_map] at mem
      obtain same | ⟨what, -, same⟩ := mem
      · cases (Prod.mk.inj same).2
      · obtain ⟨rfl, generated⟩ := Prod.mk.inj same
        cases generated
        rfl
  change (Edit.given classes cls machine d clock c).1.get? name = _ at there
  rw [Edit.given, Class.govern] at there
  split at there
  · next result => exact installed result there
  · next named result =>
    rw [withConstructor] at there
    by_cases same : name = constructorName
    · rw [same] at there
      simp at there
    · exact installed result (by simpa [Table.get?_set_other _ _ same] using there)

theorem edited_keepsState : ∀ {edits : List Edit} {classes : List Class},
    (∀ c, .add c ∈ edits → c.KeepsState) → (∀ c ∈ classes, c.KeepsState) →
      ∀ c ∈ edited classes edits, c.KeepsState
  | [], _, _, start => start
  | e :: edits, classes, added, start => by
    refine @edited_keepsState edits _ (fun c mem => added c (.tail _ mem)) fun c mem => ?_
    cases e with
    | add new =>
      obtain old | last := List.mem_append.mp mem
      · exact start c old
      · rw [List.mem_singleton.mp last]
        exact added new (.head _)
    | govern cls machine d clock =>
      rw [Edit.on] at mem
      split at mem
      · exact start c mem
      · next c₀ there =>
        obtain old | rfl := List.mem_or_eq_of_mem_set mem
        · exact start c old
        · exact KeepsState.given (start c₀ (List.mem_of_getElem? there)) classes cls machine d clock

end Class

namespace Decorated

variable {edits : List Edit} {cls owner : ClassId} {machine : MachineId} {d : Definition}
  {clock : Option ClockId} {c : Class} (h : Decorated edits cls owner machine d clock c)
include h

/-- The decorated class keeps what its body has and takes all else that is offered. -/
theorem owned (clear : d.IsClear) : ∃ c', (made edits)[owner]? = .some c'
    ∧ ∀ name, name ≠ constructorName → name ≠ machineAttribute →
      c'.members.get? name
        = (c.members.get? name).or ((Class.offers machine d clock).lookup name) := by
  obtain ⟨before, between, later, rfl, length, others⟩ := h.once
  have added : (Edit.on (made before) (.add c))[owner]? = .some c := by
    rw [← length, Edit.on, List.getElem?_append_right (Nat.le_refl _), Nat.sub_self]
    rfl
  have there : (edited (Edit.on (made before) (.add c)) between)[owner]? = .some c :=
    Class.edited_get? (fun e mem => others e (List.mem_append_left _ mem)) added
  have done : (Edit.govern owner machine d clock).Completes
      (edited (Edit.on (made before) (.add c)) between) :=
    ⟨c, there, Class.govern_completes clear ..⟩
  obtain ⟨c₀, c', there₀, there', -, given⟩ := done.get?
  cases there.symm.trans there₀
  refine ⟨c', ?_, given⟩
  have after := Class.edited_get? (fun e mem => others e (List.mem_append_right _ mem)) there'
  rw [made, Class.edited_append]
  change (edited (Edit.on (made before) (.add c)) _)[_]? = _
  rwa [Class.edited_append]

theorem keepsState {k : Class} (mem : k ∈ made edits) : k.KeepsState :=
  Class.edited_keepsState (fun c added => Class.keepsState_of_written (h.written c added))
    Class.first_keepsState k mem

/-- What is offered under a name that the body leaves free is found on the line, before anything
that stands above. -/
theorem member? (clear : d.IsClear) {name : String} (mem : name ∈ d.surface)
    (free : c.members.get? name = .none) {m : Member}
    (offered : (Class.offers machine d clock).lookup name = .some m) :
    (Lineage.ofClass (made edits) cls).member? name = .some (owner, m)
      ∧ (Lineage.ofClass (made edits) owner).memberOf? owner name = .some m := by
  obtain ⟨c', there, given⟩ := h.owned clear
  obtain ⟨k, below, above, there', split, free'⟩ := h.line
  have unlike : name ≠ constructorName := by
    rintro rfl
    cases clear.underlined _ mem
  have own : c'.members.get? name = .some m := by
    rw [given name unlike (fun same => clear.unnamed (same ▸ mem)), free, offered]
    rfl
  constructor
  · rw [Lineage.ofClass, there']
    dsimp only
    rw [split, List.filterMap_append, Lineage.member?, List.findSome?_append,
      List.filterMap_cons_some (by rw [there]; rfl), List.findSome?_cons]
    have passed : (below.filterMap fun b => (made edits)[b]?.map fun c =>
        ({ toClassBody := c.toClassBody, owner := b } : Layer)).findSome?
          (fun layer => (layer.members.get? name).map (layer.owner, ·)) = .none := by
      rw [List.findSome?_eq_none_iff]
      intro layer hlayer
      obtain ⟨b, inBelow, found⟩ := List.mem_filterMap.mp hlayer
      obtain ⟨c₁, there₁, rfl⟩ := Option.map_eq_some_iff.mp found
      dsimp only
      rw [free' b inBelow c₁ there₁ name mem]
      rfl
    rw [passed]
    dsimp only
    rw [own]
    rfl
  · rw [Lineage.memberOf?_self, there]
    exact own

end Decorated

/-! ## Other classes -/

namespace Lineage

/-- A class that is not on a line can be governed without a change to the line. -/
theorem ofClass_of_apart {classes : List Class} {cls k : ClassId} (machine : MachineId)
    (d : Definition) (clock : Option ClockId) (apart : (ofClass classes k).has cls = false) :
    ofClass ((Edit.govern cls machine d clock).on classes) k = ofClass classes k := by
  rw [Edit.on]
  cases there : classes[cls]? with
  | none => rfl
  | some c =>
    -- What stands on the line are other classes, since the governed one is there to be found.
    have others (kc : Class) (hk : classes[k]? = .some kc) : ∀ owner ∈ k :: kc.bases,
        cls ≠ owner := by
      rintro owner mem rfl
      rw [ofClass, hk] at apart
      have found : (({ toClassBody := c.toClassBody, owner := cls } : Layer) ∈
          (k :: kc.bases).filterMap fun owner => classes[owner]?.map fun c =>
            ({ toClassBody := c.toClassBody, owner } : Layer)) :=
        List.mem_filterMap.mpr ⟨cls, mem, by rw [there]; rfl⟩
      exact Bool.false_ne_true (apart.symm.trans
        (List.any_eq_true.mpr ⟨_, found, beq_self_eq_true cls⟩))
    dsimp only
    cases hk : classes[k]? with
    | none =>
      have gone : (classes.set cls
          { c with members := (Edit.given classes cls machine d clock c).1 })[k]? = .none := by
        rw [List.getElem?_eq_none_iff, List.length_set]
        exact List.getElem?_eq_none_iff.mp hk
      rw [ofClass, ofClass, gone, hk]
    | some kc =>
      rw [ofClass, ofClass, List.getElem?_set_ne (others kc hk k (.head _)), hk]
      refine List.filterMap_congr fun owner mem => ?_
      rw [List.getElem?_set_ne (others kc hk owner mem)]

end Lineage

/-- A record finds the same in two states: the same classes with the same functions, and under every
name the same. -/
structure Live.Sees (l l' : Live) (id : RecordId) : Prop where
  lineage : l'.lineage (.record id) = l.lineage (.record id)
  stored : ∀ name, l'.stored? id name = l.stored? id name
  reserved : ∀ name, l'.reserved? id name = l.reserved? id name
  refused : ∀ name, l'.refusal? id name = l.refusal? id name
  hooks : ∀ use, l'.hook? id use = l.hook? id use
  functions : ∀ layer ∈ l.lineage (.record id), ∀ name layers,
    l'.function? layer.owner name layers = l.function? layer.owner name layers

/-- Records of classes that are not below a class find the same after it is governed. -/
theorem Live.Sees.of_apart {l : Live} {id : RecordId} {cls : ClassId} (machine : MachineId)
    (d : Definition) (clock : Option ClockId)
    (apart : (l.lineage (.record id)).has cls = false) :
    l.Sees { l with classes := (Edit.govern cls machine d clock).on l.classes } id := by
  have lineage : ({ l with
      classes := (Edit.govern cls machine d clock).on l.classes } : Live).lineage (.record id)
      = l.lineage (.record id) := by
    have same : ({ l with
        classes := (Edit.govern cls machine d clock).on l.classes } : Live).classOf? (.record id)
        = l.classOf? (.record id) := rfl
    cases hk : l.classOf? (.record id) with
    | none => simp only [Live.lineage, same, hk]
    | some k =>
      simp only [Live.lineage, hk] at apart
      simp only [Live.lineage, same, hk]
      exact Lineage.ofClass_of_apart machine d clock apart
  have owner : ({ l with
      classes := (Edit.govern cls machine d clock).on l.classes } : Live).owner (.record id)
      = l.owner (.record id) := rfl
  have attrs : ({ l with
      classes := (Edit.govern cls machine d clock).on l.classes } : Live).attrsOf id
      = l.attrsOf id := rfl
  refine ⟨lineage, fun name => ?_, fun name => ?_, fun name => ?_, fun use => ?_,
    fun layer mem name layers => ?_⟩
  · rw [stored?, stored?, inherited?, inherited?, lineage, attrs, owner]
  · rw [reserved?, reserved?, lineage]
  · rw [refusal?, refusal?, lineage]
  · rw [hook?, hook?, lineage, owner]
  · have ne : cls ≠ layer.owner := by
      rintro rfl
      exact Bool.false_ne_true (apart.symm.trans
        (List.any_eq_true.mpr ⟨layer, mem, beq_self_eq_true _⟩))
    rw [function?, function?, lineageOf, lineageOf, Lineage.function?, Lineage.function?,
      Lineage.memberOf?_self, Lineage.memberOf?_self]
    dsimp only
    rw [Edit.on]
    split
    · rfl
    · rw [List.getElem?_set_ne ne]

/-! ## The state in the view of a machine -/

namespace Host

variable {h : Host} {m : Machine} {l : Live} {id : RecordId} (unhooked : l.hooksReads id = false)
include unhooked

/-- A machine whose column is itself the view of a machine on the state does not find one, so that
its column can be read as if nobody answered for it. -/
theorem recordOwn?_run_of_column {column : String} (hc : m.config.column = .str column)
    (alone : ∀ other, l.reserved? id column = .some (.state other) → h.machineAt other = .ok m) :
    (h.recordOwn? id column).run l = (h.plain? id column).run l := by
  rw [recordOwn?, Run.run_bind_ok (Run.run_get l)]
  cases reserved : l.reserved? id column with
  | none => rfl
  | some who =>
    cases who with
    | view what => rfl
    | slot => rfl
    | state other =>
      have endless : (h.plain? id column).run l = .error .exhausted l := by
        rw [plain?, Run.run_bind_ok (Run.run_get l), reserved]
        rfl
      have stated : (h.stateFor id m).run l = .error .exhausted l := by
        rw [stateFor, hc]
        exact Run.run_bind_error ((look?_run unhooked _ _).trans endless) _
      have found : (Run.liftStop (h.machineAt other)).run l = .ok m l := by
        rw [alone other reserved]
        rfl
      dsimp only
      rw [Run.run_bind_ok found, Run.run_bind_error stated, endless]

/-- What a machine shows of a record's state is what its engine reads. -/
theorem stateFor_run (self : l.self = .record id)
    (alone : ∀ column other, m.config.column = .str column →
      l.reserved? id column = .some (.state other) → h.machineAt other = .ok m) :
    (h.stateFor id m).run l
      = (Engine.declaredState { host := h, machine := m }).run l := by
  rw [Engine.declaredState, Engine.currentState, bind_assoc]
  cases hc : m.config.column with
  | str column =>
    have read : (h.attr? (.str column)).run l = (h.look? id (h.plain? id column) column).run l := by
      rw [attr?, Run.run_bind_ok (Run.run_get l)]
      simp only [self]
      rw [look?_run unhooked, look?_run unhooked]
      exact recordOwn?_run_of_column unhooked hc fun other => alone column other hc
    rw [stateFor, hc]
    dsimp only
    rw [attr, bind_assoc]
    exact (Run.run_bind_congr read _).symm
  | _ =>
    rw [stateFor, hc]
    rfl

end Host

/-! ## Reading -/

namespace Live

/-- The run is on a record of one of some classes, which has no attributes of some names by itself
and whose classes leave reading to the library. -/
structure IsOf (l : Live) (classes : List Class) (cls : ClassId) (id : RecordId)
    (names : List String) : Prop where
  self : l.self = .record id
  classes : l.classes = classes
  cls : l.classOf? (.record id) = .some cls
  bare : ∀ name ∈ names, (l.attrsOf id).get? name = .none
  unread : l.hook? id .read = .none

theorem IsOf.lineage {l : Live} {classes : List Class} {cls : ClassId} {id : RecordId}
    {names : List String} (h : l.IsOf classes cls id names) :
    l.lineage (.record id) = Lineage.ofClass classes cls := by
  rw [Live.lineage, h.cls]
  dsimp only
  rw [lineageOf, h.classes]

end Live

namespace Setting

/-- What stands under a name on what the run is on is called with some arguments, and what that does
is `act`. -/
def Calls (s : Setting) (n : Nat) (l : Live) (name : String) (args : List Value)
    (act : Run Value) : Prop :=
  ∃ target, ((s.hostAt (n + 1)).require (.str name)).run l = .ok target l
    ∧ ((s.hostAt (n + 1)).callNamed name args).run l
      = ((s.hostAt n).working (target :: args) (Run.as l.self act)).run l

end Setting

/-- Whether the errors of what the run is on are empty, in the words of its class. -/
def Host.hasNoErrors (h : Host) (event : Value) : Run Value := do
  let errors ← h.callNamed "validation_errors" [event]
  return .bool !(← h.truth errors)

theorem Engine.validByErrors_eq (e : Engine) (event : Value) :
    e.validByErrors event = e.host.hasNoErrors event := by
  rw [validByErrors, Host.hasNoErrors, Host.callNamed, bind_assoc]

namespace Setting

/-- By the names that a body leaves free the record that the run is on reaches a machine. To fire is
all that takes time, and this by the clock that came with the machine. -/
structure Surface (s : Setting) (m : Machine) (machine : MachineId) (clock : Option ClockId)
    (n : Nat) (l : Live) (id : RecordId) (body : Table Member) : Prop where
  machine : body.get? "state_machine" = .none →
    ((s.hostAt (n + 1)).require (.str "state_machine")).run l = .ok (.machine machine) l
  state : body.get? "current_state" = .none → l.hook? id .missing = .none →
    ((s.hostAt (n + 1)).require (.str "current_state")).run l
      = (s.engineAt m (n + 1)).declaredState.run l
  fires : ∀ ev ∈ m.events, body.get? ev.name = .none →
    s.Calls n l ev.name []
      (do return .bool (← ((s.engineAt m n).timed clock).fire (.str ev.name)))
  asks : ∀ st ∈ m.states, body.get? ("is_" ++ st.name) = .none →
    s.Calls n l ("is_" ++ st.name) []
      (do return .bool (← (s.engineAt m n).isInState (.str st.name)))
  transitions : body.get? "next_states_for_event" = .none → ∀ event,
    s.Calls n l "next_states_for_event" [event] (do
      return .list ((← (s.engineAt m n).nextTransitionsFor event).map Transition.toValue))
  target : body.get? "next_state_for_event" = .none → ∀ event,
    s.Calls n l "next_state_for_event" [event] ((s.engineAt m n).nextTargetFor event)
  errors : body.get? "validation_errors" = .none →
    s.Calls n l "validation_errors" [] (do return .list (← (s.engineAt m n).errors .null))
      ∧ ∀ event, s.Calls n l "validation_errors" [event]
        (do return .list (← (s.engineAt m n).errors event))
  valid : body.get? "is_valid" = .none →
    s.Calls n l "is_valid" [] ((s.hostAt n).hasNoErrors .null)
      ∧ ∀ event, s.Calls n l "is_valid" [event] ((s.hostAt n).hasNoErrors event)

/-- By the names that a body leaves free the class that the run is on filters records. -/
structure Filters (s : Setting) (m : Machine) (n : Nat) (l : Live) (body : Table Member) :
    Prop where
  inState : body.get? "in_state" = .none → ∀ records names,
    s.Calls n l "in_state" (records :: names) ((s.engineAt m n).selectValues true records names)
  notInState : body.get? "not_in_state" = .none → ∀ records names,
    s.Calls n l "not_in_state" (records :: names)
      ((s.engineAt m n).selectValues false records names)

end Setting

namespace Decorated

section Record

variable {edits : List Edit} {cls owner : ClassId} {machine : MachineId} {m : Machine}
  {clock : Option ClockId} {c : Class}
  (h : Decorated edits cls owner machine m.toDefinition clock c) (clear : m.toDefinition.IsClear)
  {s : Setting} (hm : s.machine? machine = .some m) (n : Nat) {l : Live} {id : RecordId}
  (there : l.IsOf (made edits) cls id m.toDefinition.surface)
include h clear hm there

/-- The function behind a generated name is called on the record. -/
theorem calls (what : Generated) (mem : what ∈ m.toDefinition.generated)
    (bound : what.isBound = true) (free : c.members.get? what.name = .none) (args : List Value) :
    s.Calls n l what.name args (((s.engineAt m n).timed clock).callGenerated what args) := by
  have inSurface : what.name ∈ m.toDefinition.surface :=
    List.mem_cons_of_mem _ (List.mem_map_of_mem mem)
  obtain ⟨member, own⟩ := h.member? clear inSurface free (Class.offers_lookup_of_mem clear mem)
  have unmade : what.name ≠ makerName := by
    intro same
    have plain := clear.underlined _ inSurface
    rw [same] at plain
    cases plain
  have read : ((s.hostAt (n + 1)).require (.str what.name)).run l
      = .ok (.method (.record id) owner what.name 0) l := by
    rw [Host.require, Run.run_bind_ok (Run.run_get l)]
    simp only [there.self]
    refine Host.readBy_run_of_found there.unread (Host.recordOwn?_run_of_member _
      (by rw [there.lineage]; exact member) bound unmade (there.bare _ inSurface))
  have function : l.function? owner what.name 0 = .some (.generated what machine clock) := by
    rw [Live.function?, Live.lineageOf, there.classes, Lineage.function?, own]
    rfl
  refine ⟨_, read, ?_⟩
  rw [Host.callNamed, Run.run_bind_ok read, there.self]
  exact Setting.answer_run_of_generated hm n function _ args

omit hm in
theorem shows_machine (free : c.members.get? "state_machine" = .none) :
    ((s.hostAt (n + 1)).require (.str "state_machine")).run l = .ok (.machine machine) l := by
  have inSurface : "state_machine" ∈ m.toDefinition.surface := .head _
  obtain ⟨member, -⟩ := h.member? clear inSurface free (m := .value (.machine machine)) rfl
  have found : l.stored? id "state_machine" = .some (.machine machine) := by
    rw [Live.stored?, there.bare _ inSurface, Live.inherited?, there.lineage, member]
    rfl
  have unreserved : l.reserved? id "state_machine" = .none := by
    rw [Live.reserved?, there.lineage, member]
  rw [Host.require, Run.run_bind_ok (Run.run_get l)]
  simp only [there.self]
  refine Host.readBy_run_of_found there.unread ?_
  rw [Host.recordOwn?_run _ unreserved, found]

/-- The state in the view of the machine is what an engine of it reads. -/
theorem shows_state (free : c.members.get? "current_state" = .none)
    (unmissed : l.hook? id .missing = .none) :
    ((s.hostAt (n + 1)).require (.str "current_state")).run l
      = (s.engineAt m (n + 1)).declaredState.run l := by
  have mem : Generated.currentState ∈ m.toDefinition.generated := by simp [Definition.generated]
  obtain ⟨member, -⟩ := h.member? clear (List.mem_cons_of_mem _ (List.mem_map_of_mem mem)) free
    (Class.offers_lookup_of_mem clear mem)
  have found : (s.hostAt (n + 1)).machineAt machine = .ok m := by
    change s.machineAt machine = _
    rw [Setting.machineAt, hm]
  have reserved : l.reserved? id "current_state" = .some (.state machine) := by
    rw [Live.reserved?, there.lineage]
    rw [show (Lineage.ofClass (made edits) cls).member? "current_state" = _ from member]
  -- No other machine's view of the state can be the column of this one.
  have alone (column : String) (other : MachineId)
      (at_ : l.reserved? id column = .some (.state other)) : column = "current_state" := by
    rw [Live.reserved?, there.lineage] at at_
    split at at_
    · next owner' machine' clock' member' =>
      obtain ⟨layer, inLine, held⟩ := Lineage.mem_of_member? member'
      obtain ⟨k, inMade, same⟩ := Lineage.mem_of_ofClass inLine
      exact h.keepsState inMade column machine' clock' (same ▸ held)
    all_goals cases at_
  have view : ∀ column other, m.config.column = .str column →
      l.reserved? id column = .some (.state other) → (s.hostAt (n + 1)).machineAt other = .ok m := by
    intro column other _ at_
    rw [alone column other at_, reserved] at at_
    cases at_
    exact found
  have unhooked : l.hooksReads id = false := by
    have read := Option.map_eq_none_iff.mp there.unread
    have missing := Option.map_eq_none_iff.mp unmissed
    simp [Live.hooksReads, read, missing]
  have own : ((s.hostAt (n + 1)).recordOwn? id "current_state").run l
      = (do return .some (← (s.hostAt (n + 1)).stateFor id m) : Run (Option Value)).run l := by
    rw [Host.recordOwn?, Run.run_bind_ok (Run.run_get l), reserved]
    dsimp only
    rw [found]
    rfl
  rw [Host.require, Run.run_bind_ok (Run.run_get l)]
  simp only [there.self]
  rw [Host.readBy, Run.run_bind_ok (Run.run_get l)]
  simp only [there.unread, unmissed]
  rw [Run.run_bind_congr own, bind_assoc]
  change _ = (Engine.declaredState { host := s.hostAt (n + 1), machine := m }).run l
  rw [← Host.stateFor_run unhooked there.self view]
  change ((s.hostAt (n + 1)).stateFor id m >>= pure).run l = _
  rw [bind_pure]

/-- A record reaches the machine by all names that the body leaves free. -/
theorem surface_of_record : s.Surface m machine clock n l id c.members where
  machine free := h.shows_machine clear n there free
  state free unmissed := h.shows_state clear hm n there free unmissed
  fires ev mem free := by
    refine h.calls clear hm n there (.fire ev.name) ?_ rfl free []
    have := List.mem_map_of_mem (f := fun ev : Event => Generated.fire ev.name) mem
    simp only [Definition.generated, List.mem_append]
    exact .inl (.inr this)
  asks st mem free := by
    refine h.calls clear hm n there (.isState st.name) ?_ rfl free []
    have := List.mem_map_of_mem (f := fun st : State => Generated.isState st.name) mem
    simp only [Definition.generated, List.mem_append]
    exact .inl (.inl (.inr this))
  transitions free event := h.calls clear hm n there .nextTransitions
    (by simp [Definition.generated]) rfl free [event]
  target free event := h.calls clear hm n there .nextTarget
    (by simp [Definition.generated]) rfl free [event]
  errors free :=
    have calls := h.calls clear hm n there .errors (by simp [Definition.generated]) rfl free
    ⟨(s.engineAt m n).errors_timed clock .null ▸ calls [],
      fun event => (s.engineAt m n).errors_timed clock event ▸ calls [event]⟩
  valid free := by
    have calls := h.calls clear hm n there .valid (by simp [Definition.generated]) rfl free
    have same (event : Value) := Engine.validByErrors_eq (s.engineAt m n) event
    exact ⟨same .null ▸ calls [], fun event => same event ▸ calls [event]⟩

end Record

section Filter

variable {edits : List Edit} {cls owner : ClassId} {machine : MachineId} {m : Machine}
  {clock : Option ClockId} {c : Class}
  (h : Decorated edits cls owner machine m.toDefinition clock c) (clear : m.toDefinition.IsClear)
  {s : Setting} (hm : s.machine? machine = .some m) (n : Nat) {l : Live}
  (self : l.self = .cls cls) (classes : l.classes = made edits)
include h clear hm self classes

/-- The function behind the name of a filter is called on the class. -/
theorem filter_calls (what : Generated) (is : what = .inState ∨ what = .notInState)
    (free : c.members.get? what.name = .none) (args : List Value) :
    s.Calls n l what.name args (((s.engineAt m n).timed clock).callGenerated what args) := by
  have mem : what ∈ m.toDefinition.generated := by
    rcases is with rfl | rfl <;> simp [Definition.generated]
  obtain ⟨member, own⟩ := h.member? clear (List.mem_cons_of_mem _ (List.mem_map_of_mem mem)) free
    (Class.offers_lookup_of_mem clear mem)
  have found : l.classAttr? cls what.name = .some (.method (.cls cls) owner what.name 0) := by
    have unseen : l.classView? cls what.name = .none := by
      rcases is with rfl | rfl <;> rfl
    rw [Live.classAttr?, unseen, Live.lineageOf, classes, member]
    rcases is with rfl | rfl <;> rfl
  have own? : ((s.hostAt (n + 1)).own? what.name).run l
      = .ok (.some (.method (.cls cls) owner what.name 0)) l := by
    rw [Host.own?, Run.run_bind_ok (Run.run_get l)]
    simp only [self]
    rw [found]
    rfl
  have read : ((s.hostAt (n + 1)).require (.str what.name)).run l
      = .ok (.method (.cls cls) owner what.name 0) l := by
    rw [Host.require, Run.run_bind_ok (Run.run_get l)]
    simp only [self]
    rw [Host.requireOwn, Run.run_bind_ok own?]
    rfl
  have function : l.function? owner what.name 0 = .some (.generated what machine clock) := by
    rw [Live.function?, Live.lineageOf, classes, Lineage.function?, own]
    rfl
  refine ⟨_, read, ?_⟩
  rw [Host.callNamed, Run.run_bind_ok read, self]
  exact Setting.answer_run_of_generated hm n function _ args

theorem surface_of_class : s.Filters m n l c.members where
  inState free records names :=
    h.filter_calls clear hm n self classes .inState (.inl rfl) free (records :: names)
  notInState free records names :=
    h.filter_calls clear hm n self classes .notInState (.inr rfl) free (records :: names)

end Filter

/-- A class that is decorated once keeps what its body has. By all other names of the surface its
records and the class itself reach the machine. For records of classes that are not below the
decorated one nothing changes. -/
theorem surface {edits : List Edit} {cls owner : ClassId} {machine : MachineId} {m : Machine}
    {clock : Option ClockId} {c : Class}
    (h : Decorated edits cls owner machine m.toDefinition clock c)
    (clear : m.toDefinition.IsClear) {s : Setting} (hm : s.machine? machine = .some m) (n : Nat) :
    (∃ c', (made edits)[owner]? = .some c' ∧ ∀ name own, name ≠ constructorName →
        name ≠ machineAttribute → c.members.get? name = .some own →
          c'.members.get? name = .some own)
      ∧ (∀ l id, l.IsOf (made edits) cls id m.toDefinition.surface →
        s.Surface m machine clock n l id c.members)
      ∧ (∀ l, l.self = .cls cls → l.classes = made edits → s.Filters m n l c.members)
      ∧ ∀ (l : Live) id, (l.lineage (.record id)).has owner = false →
        l.Sees { l with
          classes := (Edit.govern owner machine m.toDefinition clock).on l.classes } id := by
  refine ⟨?_, fun l id there => h.surface_of_record clear hm n there,
    fun l self classes => h.surface_of_class clear hm n self classes,
    fun l id apart => Live.Sees.of_apart machine _ clock apart⟩
  obtain ⟨c', there, given⟩ := h.owned clear
  refine ⟨c', there, fun name own hc hn held => ?_⟩
  rw [given name hc hn, held]
  rfl

end Decorated

/-! ## An heir with a machine of its own -/

def Event.flip : Event where
  name := "flip"
  transitions := [{ source := .str "off", target := .str "on" }]

/-- A machine for lamps. -/
def Machine.lamp : Machine where
  config := { initial := "off" }
  states := [{ name := "off" }, { name := "on" }]
  events := [.flip]
  registry := Registry.standard

theorem Machine.lamp_isClear : Machine.lamp.toDefinition.IsClear :=
  ⟨by decide, by decide, by decide⟩

/-- One clock stands still. -/
def Setting.lamps : Setting where
  machine? := fun id => if id = 0 then .some Machine.titled else .some Machine.lamp
  clockOf := fun clock =>
    if clock.isSome then .scripted [{ year := 2024, month := 1, day := 1 }] else .system

/-- A class that one machine governs, and one below it that another machine governs and whose body
has something of its own under a name that is offered. The other machine comes with a clock. -/
def Class.lamps : List Edit := [
  .add { toClassBody := Class.plain },
  .govern 3 0 Machine.titled.toDefinition .none,
  .add { members := ⟨[("is_on", .value (.str "who knows"))]⟩, bases := [3, 0] },
  .govern 4 1 Machine.lamp.toDefinition (.some 0)]

/-- A new record of the class below. -/
def Live.lamp : Live where
  self := .record 0
  classes := made Class.lamps
  records := [{ cls := 4, sheet := .attributes 0 }]
  shelf := { taken := 1 }

theorem Class.lamps_decorated : Decorated Class.lamps 4 4 1 Machine.lamp.toDefinition (.some 0)
    { members := ⟨[("is_on", .value (.str "who knows"))]⟩, bases := [3, 0] } where
  once := ⟨Class.lamps.take 2, [], [], rfl, rfl, by simp⟩
  line := ⟨_, [], [3, 0], rfl, rfl, by simp⟩
  written c mem := by
    simp only [Class.lamps, List.mem_cons, Edit.add.injEq, reduceCtorEq, List.not_mem_nil, or_false,
      false_or] at mem
    obtain rfl | rfl := mem <;> decide

theorem Live.lamp_isOf : Live.lamp.IsOf (made Class.lamps) 4 0 Machine.lamp.surface where
  self := rfl
  classes := rfl
  cls := rfl
  bare := by decide
  unread := by rfl

/-- What the body of the heir has is kept, and all else leads to its own machine. -/
theorem Decorated.surface_lamps :
    (∃ c', (made Class.lamps)[4]? = .some c'
        ∧ c'.members.get? "is_on" = .some (.value (.str "who knows")))
      ∧ ((Setting.lamps.hostAt 4).require (.str "state_machine")).run Live.lamp
        = .ok (.machine 1) Live.lamp
      ∧ ((Setting.lamps.hostAt 4).require (.str "current_state")).run Live.lamp
        = (Setting.lamps.engineAt .lamp 4).declaredState.run Live.lamp
      ∧ Setting.lamps.Calls 3 Live.lamp "flip" []
        (do return .bool (← ((Setting.lamps.engineAt .lamp 3).timed (.some 0)).fire
          (.str "flip"))) := by
  have found : Setting.lamps.machine? 1 = .some Machine.lamp := rfl
  obtain ⟨⟨c', there, kept⟩, shown, -, -⟩ :=
    Decorated.surface (m := .lamp) Class.lamps_decorated Machine.lamp_isClear found 3
  have record := shown Live.lamp 0 Live.lamp_isOf
  have unmissed : Live.lamp.hook? 0 .missing = .none := by rfl
  exact ⟨⟨c', there, kept "is_on" _ (by decide) (by decide) rfl⟩, record.machine rfl,
    record.state rfl unmissed, record.fires .flip (.head _) rfl⟩

/-! ## A class that takes over reading -/

/-- A body that has a constructor, and whose records show an empty object under every name. -/
def Class.veil : Class where
  members := ⟨[(constructorName, .method .star .done),
    (Hook.read.name, .method .required (.give (.lit (.obj []))))]⟩

def Class.veiled : List Edit := [
  .add Class.veil,
  .govern 3 1 Machine.lamp.toDefinition .none]

/-- A new record of it. -/
def Live.veiled : Live where
  self := .record 0
  classes := made Class.veiled
  records := [{ cls := 3, sheet := .attributes 0 }]
  shelf := { taken := 1 }

/-- Its records do not reach the machine, though no body has anything under the names that are
offered; and its constructor is not the one that the body has. -/
theorem Decorated.surface_veiled :
    let l := Live.veiled
    Decorated Class.veiled 3 3 1 Machine.lamp.toDefinition .none Class.veil
      ∧ Machine.lamp.toDefinition.IsClear
      ∧ (∀ name ∈ Machine.lamp.surface, (l.attrsOf 0).get? name = .none
        ∧ Class.veil.members.get? name = .none)
      ∧ ((Setting.lamps.hostAt 4).callNamed "validation_errors" []).run l
        = .error (.fault (.misuse (.notCallable (.obj [])))) l
      ∧ ((Setting.lamps.engineAt .lamp 3).errors .null).run l = .ok [] l
      ∧ Class.veil.members.get? constructorName = .some (.method .star .done)
      ∧ ∃ c', (made Class.veiled)[3]? = .some c'
        ∧ c'.members.get? constructorName = .some (.governed (.method .star .done) 3 1) := by
  intro l
  refine ⟨⟨⟨[], [], [], rfl, rfl, by simp⟩, ⟨_, [], [0], rfl, rfl, by simp⟩, fun c mem => ?_⟩,
    Machine.lamp_isClear, by decide, rfl, rfl, rfl, _, rfl, rfl⟩
  simp only [Class.veiled, List.mem_cons, Edit.add.injEq, reduceCtorEq, List.not_mem_nil,
    or_false] at mem
  subst mem
  decide

end Lifecycle
