/-
The validity check of governed records: when it agrees with the machine's rules.

The engine asks a record for its `is_valid` by name, and so does that method for
`validation_errors`. What answers there is what the machine has given to the
class of the record (`Class.govern_get?`), which is not always what is meant: a
state or an event may have taken the name. If none has, the check is that there
are no errors; if one has, the check is to ask for that state, or to fire that
event (`Setting.check_of_governed`).
-/
import Lifecycle.Proofs.Governing
import Lifecycle.Proofs.Standing

namespace Lifecycle

namespace Engine

/-! ## What errors depend on -/

section Host

variable {e e' : Engine} (same : e'.host = e.host)
include same

/-- A condition is asked for by way of the host alone. -/
theorem holds_of_host (event : Value) : ∀ condition : Condition,
    e'.holds event condition = e.holds event condition
  | .always => rfl
  | .callback _ => by rw [holds, holds, same]
  | .scoped scope inner => by rw [holds, holds, holds_of_host event inner, covered, covered, same]

theorem attrsWith_of_host (blank : Bool) (names : List Value) :
    e'.attrsWith blank names = e.attrsWith blank names := by
  induction names with
  | nil => rfl
  | cons name names ih => rw [attrsWith, attrsWith, ih, same]

/-- And so is a validator. -/
theorem validate_of_host (args : List Value) (v : Validator) :
    e'.validate args v = e.validate args v := by
  cases v with
  | presence | absence => rw [validate, validate, attrsWith_of_host same]
  | custom c => rw [validate, validate, same]

variable (registry : e'.machine.registry = e.machine.registry)
include registry

theorem ruleErrors_of_host (event : Value) (rule : Rule) :
    e'.ruleErrors event rule = e.ruleErrors event rule := by
  rw [ruleErrors, ruleErrors, holds_of_host same, registry]
  simp only [validate_of_host same]

/-- The errors are up to the host and the rules. -/
theorem errors_of_host (event : Value) : e'.errors event = e.errors event := by
  rw [errors, errors, registry]
  induction e.machine.registry.rules with
  | nil => rfl
  | cons rule rules ih => rw [errorsOf, errorsOf, ih, ruleErrors_of_host same registry]

end Host

/-- To ask for errors takes no time. -/
theorem errors_timed (e : Engine) (clock : Option ClockId) (event : Value) :
    (e.timed clock).errors event = e.errors event := by
  have same : (e.timed clock).host = e.host := rfl
  exact errors_of_host same rfl event

end Engine

/-- Whether a member is a function that is bound to records. -/
def Generated.isBound : Generated → Bool
  | currentState | inState | notInState => false
  | _ => true

theorem Definition.validMember_isBound (d : Definition) : d.validMember.isBound = true := by
  unfold validMember
  split
  · rfl
  · split <;> rfl

theorem Definition.errorsMember_isBound (d : Definition) : d.errorsMember.isBound = true := by
  unfold errorsMember
  split <;> rfl

theorem Member.seen_of_isBound {what : Generated} (h : what.isBound = true) {id : RecordId}
    {cls owner : ClassId} {name : String} (hn : name ≠ makerName) {machine : MachineId}
    {clock : Option ClockId} :
    (Member.generated what machine clock).seen (.record id) cls owner name
      = .method (.record id) owner name 0 := by
  cases what with
  | currentState => cases h
  | inState => cases h
  | notInState => cases h
  | _ => simp [seen, isForClasses, isFree, layers, Value.boundTo, hn]

/-- Neither a state nor an event of the machine takes a name by which a record is asked about its
validity. -/
def Definition.LeavesCheck (d : Definition) : Prop :=
  d.declares "valid" = false ∧ d.event? "is_valid" = .none ∧ d.event? "validation_errors" = .none

namespace Live

/-- The names under which a record is asked about its validity. -/
def checkNames : List String := ["is_valid", "validation_errors"]

/-- The run is on a record of a class that a machine governs and that leaves the validity check to
it, as do the record itself and the classes `below` that one. No class is asked when attributes are
read, and none has anything for the end of its records. -/
structure Governed (l : Live) (id : RecordId) (machine : MachineId) (d : Definition)
    (clock : Option ClockId) : Prop where
  self : l.self = .record id
  unread : l.hook? id .read = .none
  lasting : l.hasFarewells = false
  bare : ∀ name ∈ checkNames, (l.attrsOf id).get? name = .none
  governed : ∃ (below above bases : Lineage) (owner : ClassId) (c : Class) (members : Table Member),
    l.lineage (.record id) = below ++ { toClassBody := c.toClassBody, owner } :: above
      ∧ (∀ layer ∈ below, ∀ name ∈ checkNames, layer.members.get? name = .none)
      ∧ l.classes[owner]? = .some c
      ∧ Class.govern machine d clock owner members bases = (c.members, .none)
      ∧ ∀ name ∈ checkNames, members.get? name = .none

variable {l : Live} {id : RecordId} {machine : MachineId} {d : Definition} {clock : Option ClockId}

/-- What such a record has under a name that its machine has offered. -/
theorem Governed.member (g : l.Governed id machine d clock) {name : String}
    (hname : name ∈ checkNames) {what : Generated}
    (h : (Class.offers machine d clock).lookup name = .some (.generated what machine clock)) :
    ∃ owner, (l.lineage (.record id)).member? name = .some (owner, .generated what machine clock)
      ∧ l.function? owner name 0 = .some (.generated what machine clock) := by
  obtain ⟨below, above, bases, owner, c, members, hline, hbelow, hc, hgovern, hbare⟩ := g.governed
  have others : ∀ n ∈ checkNames, n ≠ constructorName ∧ n ≠ machineAttribute := by decide
  obtain ⟨hne, hne'⟩ := others name hname
  have given := Class.govern_get? hgovern hne hne'
  rw [hbare name hname, h] at given
  refine ⟨owner, ?_, ?_⟩
  · have passed : below.findSome? (fun layer => (layer.members.get? name).map (layer.owner, ·))
        = .none := by
      rw [List.findSome?_eq_none_iff]
      intro layer hlayer
      rw [hbelow layer hlayer name hname]
      rfl
    rw [hline, Lineage.member?, List.findSome?_append, passed, List.findSome?_cons]
    dsimp only
    rw [given]
    rfl
  · obtain ⟨rest, hown⟩ := Lineage.ofClass_eq_cons hc
    rw [function?, lineageOf, hown, Lineage.function?, Lineage.memberOf?, List.find?_cons]
    simp [given, Member.within]

end Live

theorem Run.as_congr {α : Type} {x y : Run α} {v : Value} {l : Live}
    (h : x.run { l with self := v } = y.run { l with self := v }) :
    (Run.as v x).run l = (Run.as v y).run l := by
  have same : x { l with self := v } = y { l with self := v } := h
  simp only [Run.as, EStateM.run, same]

namespace Run

/-! ## Going over to what the run is on already -/

variable {α β : Type} {x : Run α} {l l' : Live} {v : Value} (hs : l.self = v)
include hs

theorem run_as_ok {a : α} (h : x.run l = .ok a l') :
    (Run.as v x).run l = .ok a { l' with self := v } := by
  subst hs
  exact as_run_ok h

theorem run_as_error {s : Stop} (h : x.run l = .error s l') :
    (Run.as v x).run l = .error s { l' with self := v } := by
  subst hs
  exact as_run_error h

/-- What follows can be done there as well, if it leaves all as it is. -/
theorem as_bind_run {γ : Type} {w : α → β} {f : β → Run γ} {g : α → γ}
    (hf : ∀ a m, (f (w a)).run m = .ok (g a) m) :
    (Run.as v (do return w (← x)) >>= f).run l = (Run.as v (do return g (← x))).run l := by
  cases h : x.run l with
  | ok a l' =>
    have first : (do return w (← x) : Run β).run l = .ok (w a) l' := run_bind_ok h _
    have both : (do return g (← x) : Run γ).run l = .ok (g a) l' := run_bind_ok h _
    rw [run_bind_ok (run_as_ok hs first), hf, run_as_ok hs both]
  | error s l' =>
    have first : (do return w (← x) : Run β).run l = .error s l' := run_bind_error h _
    have both : (do return g (← x) : Run γ).run l = .error s l' := run_bind_error h _
    rw [run_bind_error (run_as_error hs first), run_as_error hs both]

theorem as_as_run : (Run.as v (Run.as v x)).run l = (Run.as v x).run l := by
  cases h : x.run l with
  | ok a l' => rw [run_as_ok hs (run_as_ok hs h), run_as_ok hs h]
  | error s l' => rw [run_as_error hs (run_as_error hs h), run_as_error hs h]

theorem as_run_congr {y : Run α} (h : x.run l = y.run l) :
    (Run.as v x).run l = (Run.as v y).run l := by
  cases hx : x.run l with
  | ok a l' => rw [run_as_ok hs hx, run_as_ok hs (h ▸ hx)]
  | error s l' => rw [run_as_error hs hx, run_as_error hs (h ▸ hx)]

end Run

namespace Host

variable {h : Host} {l : Live} {id : RecordId} {name : String} {own : Run (Option Value)} {v : Value}
  (unread : l.hook? id .read = .none) (found : own.run l = .ok (.some v) l)
include unread found

/-! ## Reading -/

/-- What is found is read, whatever a class does where nothing is. -/
theorem readBy_run_of_found : (h.readBy id own name).run l = .ok v l := by
  rw [readBy, Run.run_bind_ok (Run.run_get l)]
  simp only [unread]
  cases l.hook? id .missing with
  | none => exact Run.run_bind_ok found _
  | some hook =>
    refine Run.run_tryCatch_ok ?_ _
    rw [Run.run_bind_ok found]
    rfl

theorem look?_run_of_found : (h.look? id own name).run l = .ok (.some v) l := by
  rw [look?, Run.run_bind_ok (Run.run_get l)]
  split
  · have read : (do return .some (← h.readBy id own name) : Run (Option Value)).run l
        = .ok (.some v) l := by
      rw [Run.run_bind_ok (readBy_run_of_found unread found)]
      rfl
    exact Run.run_tryCatch_ok read _
  · exact found

end Host

namespace Host

variable {l : Live} {id : RecordId} {name : String}

/-- Where nobody else answers for an attribute, it is what the record or its classes hold. -/
theorem recordOwn?_run (h : Host) (unreserved : l.reserved? id name = .none) :
    (h.recordOwn? id name).run l = .ok (l.stored? id name) l := by
  have plain : (h.plain? id name).run l = .ok (l.stored? id name) l := by
    rw [plain?, Run.run_bind_ok (Run.run_get l), unreserved]
    rfl
  rw [recordOwn?, Run.run_bind_ok (Run.run_get l), unreserved]
  exact plain

/-- A member that a machine generated is a function that is bound to the record. -/
theorem recordOwn?_run_of_member (h : Host) {what : Generated} {owner : ClassId}
    {machine : MachineId} {clock : Option ClockId}
    (member : (l.lineage (.record id)).member? name = .some (owner, .generated what machine clock))
    (bound : what.isBound = true) (unmade : name ≠ makerName)
    (bare : (l.attrsOf id).get? name = .none) :
    (h.recordOwn? id name).run l = .ok (.some (.method (.record id) owner name 0)) l := by
  have unreserved : l.reserved? id name = .none := by
    rw [Live.reserved?, member]
    cases what with
    | currentState => cases bound
    | _ => rfl
  rw [h.recordOwn?_run unreserved, Live.stored?, bare, Live.inherited?, member]
  exact congrArg (EStateM.Result.ok · l) (congrArg Option.some (Member.seen_of_isBound bound unmade))

/-- What is run in hand matters only by what it does, whatever else is in hand. -/
theorem inHand_congr {α : Type} {h : Host} {vs : List Value} {kept : α → List Value}
    {act act' : Run α} (same : ∀ held, act.run { l with held } = act'.run { l with held }) :
    (h.inHand vs kept act).run l = (h.inHand vs kept act').run l := by
  rw [inHand, inHand, Run.run_bind_ok (Run.run_get l), Run.run_bind_ok (Run.run_get l)]
  split
  · have taken : (set { l with held := vs ++ l.held } : Run Unit).run l
        = .ok () { l with held := vs ++ l.held } := rfl
    rw [Run.run_bind_ok taken, Run.run_bind_ok taken]
    exact Run.run_bind_congr (same _) _
  · exact same l.held

end Host

/-- Calling a function that a machine gave to a class goes to an engine of that machine. -/
theorem Setting.answer_run_of_generated {s : Setting} {m : Machine} {machine : MachineId}
    (hm : s.machine? machine = .some m) (n : Nat) {l : Live} {cls : ClassId} {name : String}
    {what : Generated} {clock : Option ClockId}
    (hfunction : l.function? cls name 0 = .some (.generated what machine clock))
    (of : Value) (args : List Value) :
    (s.answer (n + 1) (.call (.method of cls name 0) args)).run l
      = ((s.hostAt n).working (.method of cls name 0 :: args)
          (Run.as of (((s.engineAt m n).timed clock).callGenerated what args))).run l := by
  refine Host.inHand_congr fun held => ?_
  have called (l' : Live) : ((s.hostAt n).callMember cls name { positional := args }
      (.generated what machine clock)).run l'
        = (((s.engineAt m n).timed clock).callGenerated what args).run l' := by
    rw [Host.callMember, Run.run_bind_ok (Run.run_get l')]
    dsimp only
    rw [Member.call]
    exact Run.run_bind_ok (engine_run hm n l') _
  have found : ({ l with held } : Live).function? cls name 0
      = .some (.generated what machine clock) := hfunction
  rw [Host.call, Run.run_bind_ok (Run.run_get _)]
  simp only [found]
  exact Run.as_congr (called _)

theorem Host.truth_run_list {h : Host} {l : Live} (vs : List Value) :
    (h.truth (.list vs)).run l = .ok (!vs.isEmpty) l := by
  have settled : (l.settle (.list vs)).truthy = !vs.isEmpty := by
    cases vs <;> simp [Live.settle, Shelf.settle, Shelf.settleIn, Shelf.settleItems, Value.truthy]
  rw [truth_run rfl rfl, settled]

namespace Live.Governed

variable {s : Setting} {m : Machine} {machine : MachineId} {l : Live} {id : RecordId}
  {clock : Option ClockId} (g : l.Governed id machine m.toDefinition clock)
include g

/-! ## Asking a record -/

theorem at_record : ({ l with self := .record id } : Live) = l := by
  rw [← g.self]

/-- Calling a function that a machine gave to the class goes to an engine of that machine. -/
theorem answer_run (hm : s.machine? machine = .some m) (n : Nat) {cls : ClassId} {name : String}
    {what : Generated} (hfunction : l.function? cls name 0 = .some (.generated what machine clock))
    (args : List Value) :
    (s.answer (n + 1) (.call (.method (.record id) cls name 0) args)).run l
      = (Run.as (.record id) (((s.engineAt m n).timed clock).callGenerated what args)).run l := by
  rw [Setting.answer_run_of_generated hm n hfunction, Host.working_run g.lasting]

omit g in
/-- Whether such a function takes the event can be seen of it. -/
theorem takesEvent_run (h : Host) (id : RecordId) {cls : ClassId} {name : String} {what : Generated}
    (hfunction : l.function? cls name 0 = .some (.generated what machine clock)) :
    (h.takesEvent (.method (.record id) cls name 0)).run l
      = .ok (Member.generated what machine clock).takesEvent l := by
  have seen : (h.lookForEvent (2 * l.records.length + 4) (.method (.record id) cls name 0)).run l
      = .ok (Member.generated what machine clock).takesEvent l := by
    rw [Host.lookForEvent, Run.run_bind_ok (Run.run_get l), Live.takesEvent, hfunction]
    · rfl
    · exact nofun
    · exact nofun
  rw [Host.takesEvent, Run.run_bind_ok (Run.run_get l)]
  exact Run.run_tryCatch_ok seen _

section Member

variable {name : String} (hname : name ∈ checkNames) {what : Generated}
  (hwhat : what.isBound = true)
  (offered : (Class.offers machine m.toDefinition clock).lookup name
    = .some (.generated what machine clock))
include hname hwhat offered

/-- A record is asked about its validity by a function of its class. -/
theorem recordOwn?_run (h : Host) : ∃ cls,
    (h.recordOwn? id name).run l = .ok (.some (.method (.record id) cls name 0)) l
      ∧ l.function? cls name 0 = .some (.generated what machine clock) := by
  obtain ⟨cls, hmember, hfunction⟩ := g.member hname offered
  have unmade : ∀ n ∈ checkNames, n ≠ makerName := by decide
  exact ⟨cls, h.recordOwn?_run_of_member hmember hwhat (unmade name hname) (g.bare name hname),
    hfunction⟩

theorem require_run (h : Host) : ∃ cls,
    (h.require (.str name)).run l = .ok (.method (.record id) cls name 0) l
      ∧ l.function? cls name 0 = .some (.generated what machine clock) := by
  obtain ⟨cls, found, hfunction⟩ := g.recordOwn?_run hname hwhat offered h
  refine ⟨cls, ?_, hfunction⟩
  rw [Host.require, Run.run_bind_ok (Run.run_get l)]
  simp only [g.self]
  exact Host.readBy_run_of_found g.unread found

theorem attr_run (h : Host) : ∃ cls,
    (h.attr (.str name)).run l = .ok (.method (.record id) cls name 0) l
      ∧ l.function? cls name 0 = .some (.generated what machine clock) := by
  obtain ⟨cls, found, hfunction⟩ := g.recordOwn?_run hname hwhat offered h
  have looked : (h.attr? (.str name)).run l = .ok (.some (.method (.record id) cls name 0)) l := by
    rw [Host.attr?, Run.run_bind_ok (Run.run_get l)]
    simp only [g.self]
    exact Host.look?_run_of_found g.unread found
  exact ⟨cls, Run.run_bind_ok looked _, hfunction⟩

end Member

/-- The check of a record is what its machine has given to the class for that. -/
theorem check_run (hm : s.machine? machine = .some m) (n : Nat) (event : Value) :
    ((s.engineAt m (n + 1)).check event).run l
      = (do
          let v ← Run.as (.record id) (((s.engineAt m n).timed clock).callGenerated m.validMember
            (if (Member.generated m.validMember machine clock).takesEvent then [event] else []))
          (s.hostAt (n + 1)).truth v).run l := by
  obtain ⟨cls, read, hfunction⟩ := g.attr_run (by decide) m.validMember_isBound
    Class.offers_lookup_valid (s.engineAt m (n + 1)).host
  have takes := takesEvent_run (s.engineAt m (n + 1)).host id hfunction
  have answered := g.answer_run hm n hfunction
    (if (Member.generated m.validMember machine clock).takesEvent then [event] else [])
  have present : (Value.method (.record id) cls "is_valid" 0).isNull = false := rfl
  rw [Engine.check, Run.run_bind_ok read]
  simp only [present, Bool.false_eq_true, if_false]
  rw [Run.run_bind_ok takes]
  exact Run.run_bind_congr answered _

/-- In words of the class, the check is that there are no errors. -/
theorem validByErrors_run (hm : s.machine? machine = .some m) (n : Nat) (event : Value)
    (unnamed : m.event? "validation_errors" = .none) :
    ((s.engineAt m (n + 1)).validByErrors event).run l
      = (Run.as (.record id) (do
          return Value.bool (← (s.engineAt m n).errors event).isEmpty)).run l := by
  rw [← (s.engineAt m n).errors_timed clock event]
  have what : m.errorsMember = .errors := by rw [Definition.errorsMember, unnamed]; rfl
  obtain ⟨cls, read, hfunction⟩ := g.require_run (by decide) m.errorsMember_isBound
    Class.offers_lookup_errors (s.engineAt m (n + 1)).host
  rw [what] at hfunction
  have answered := g.answer_run hm n hfunction [event]
  rw [Engine.validByErrors, Run.run_bind_ok read]
  refine (Run.run_bind_congr answered _).trans (Run.as_bind_run g.self fun es m' => ?_)
  rw [Run.run_bind_ok (Host.truth_run_list es), Bool.not_not]
  rfl

/-- If an event has taken the name for the errors, it is not to be called with another event. -/
theorem validByErrors_run_of_named (hm : s.machine? machine = .some m) (n : Nat) (event : Value)
    (named : (m.event? "validation_errors").isSome = true) :
    ((s.engineAt m (n + 1)).validByErrors event).run l
      = .error (.fault (.misuse ((Generated.fire "validation_errors").misuse 1))) l := by
  have what : m.errorsMember = .fire "validation_errors" := by
    rw [Definition.errorsMember, named]
    rfl
  obtain ⟨cls, read, hfunction⟩ := g.require_run (by decide) m.errorsMember_isBound
    Class.offers_lookup_errors (s.engineAt m (n + 1)).host
  rw [what] at hfunction
  have answered := g.answer_run hm n hfunction [event]
  have refused : (((s.engineAt m n).timed clock).callGenerated (.fire "validation_errors")
      [event]).run l
      = .error (.fault (.misuse ((Generated.fire "validation_errors").misuse 1))) l := rfl
  rw [Run.run_as_error g.self refused, g.at_record] at answered
  rw [Engine.validByErrors, Run.run_bind_ok read]
  exact Run.run_bind_error answered _

/-! ## The check -/

section Check

variable (hm : s.machine? machine = .some m) (n : Nat) (event : Value)
include hm

/-- Where no name is taken, a record is valid if and only if no rule fails. -/
theorem check_run_of_leaves (leaves : m.LeavesCheck) :
    ((s.engineAt m (n + 2)).check event).run l
      = (Run.as (.record id) (do return (← (s.engineAt m n).errors event).isEmpty)).run l := by
  obtain ⟨undeclared, unnamed, unnamed'⟩ := leaves
  have what : m.validMember = .valid := by
    rw [Definition.validMember, undeclared, unnamed]
    rfl
  have asked := g.check_run hm (n + 1) event
  rw [what] at asked
  have words : (Run.as (.record id) ((s.engineAt m (n + 1)).validByErrors event)).run l
      = (Run.as (.record id) (do
          return Value.bool (← (s.engineAt m n).errors event).isEmpty)).run l := by
    rw [Run.as_run_congr g.self (g.validByErrors_run hm n event unnamed'), Run.as_as_run g.self]
  refine asked.trans ((Run.run_bind_congr words _).trans ?_)
  exact Run.as_bind_run g.self fun es _ => Host.truth_run_bool es.isEmpty

/-- Where there are no rules besides, every record is valid. -/
theorem check_run_of_ruleless (leaves : m.LeavesCheck) (ruleless : m.registry.rules = []) :
    ((s.engineAt m (n + 2)).check event).run l = .ok true l := by
  have none : ((s.engineAt m n).errors event).run l = .ok [] l := by
    rw [Engine.errors, show (s.engineAt m n).machine.registry.rules = [] from ruleless]
    rfl
  have empty : (do return (← (s.engineAt m n).errors event).isEmpty : Run Bool).run l
      = .ok true l := by
    rw [Run.run_bind_ok none]
    rfl
  rw [g.check_run_of_leaves hm n event leaves, Run.run_as_ok g.self empty, g.at_record]

/-- If a state has taken the name, a record is valid in that state. -/
theorem check_run_of_declared (declared : m.declares "valid" = true) :
    ((s.engineAt m (n + 1)).check event).run l
      = (Run.as (.record id) ((s.engineAt m n).isInState (.str "valid"))).run l := by
  have what : m.validMember = .isState "valid" := by
    rw [Definition.validMember, declared]
    rfl
  have asked := g.check_run hm n event
  rw [what] at asked
  refine asked.trans ((Run.as_bind_run g.self fun b _ => Host.truth_run_bool b).trans ?_)
  rw [bind_pure]
  rfl

/-- If an event has taken it, a record is valid if the event moves it. -/
theorem check_run_of_named (undeclared : m.declares "valid" = false)
    (named : (m.event? "is_valid").isSome = true) :
    ((s.engineAt m (n + 1)).check event).run l
      = (Run.as (.record id) (((s.engineAt m n).timed clock).fire (.str "is_valid"))).run l := by
  have what : m.validMember = .fire "is_valid" := by
    rw [Definition.validMember, undeclared, named]
    rfl
  have asked := g.check_run hm n event
  rw [what] at asked
  refine asked.trans ((Run.as_bind_run g.self fun b _ => Host.truth_run_bool b).trans ?_)
  rw [bind_pure]

/-- If an event has taken the name for the errors alone, there is no answer. -/
theorem check_run_of_named_errors (undeclared : m.declares "valid" = false)
    (unnamed : m.event? "is_valid" = .none)
    (named : (m.event? "validation_errors").isSome = true) :
    ∃ f, ((s.engineAt m (n + 2)).check event).run l = .error (.fault f) l := by
  have what : m.validMember = .valid := by
    rw [Definition.validMember, undeclared, unnamed]
    rfl
  have asked := g.check_run hm (n + 1) event
  rw [what] at asked
  have stopped := Run.run_as_error g.self (g.validByErrors_run_of_named hm n event named)
  rw [g.at_record] at stopped
  exact ⟨_, asked.trans (Run.run_bind_error stopped _)⟩

end Check

end Live.Governed

/-- Whether the guard of a transition passes, if it has one. -/
def Engine.guardPasses (e : Engine) (event : Value) (t : Transition) : Run Bool :=
  match t.guard with
  | .none => return true
  | .some guard => do
    let v ← e.runAction event guard
    e.host.truth v

/-- The check of a governed record is that none of the rules of its machine fails, and a transition
is allowed if its guard passes besides, as long as no state and no event has taken the names by which
a record is asked for that. Else the check is whether the record is in that state, or whether that
event moves it, or it does not answer. -/
theorem Setting.check_of_governed {s : Setting} {m : Machine} {machine : MachineId} {l : Live}
    {id : RecordId} {clock : Option ClockId} (hm : s.machine? machine = .some m)
    (g : l.Governed id machine m.toDefinition clock) (n : Nat) (event : Value) :
    let e := s.engineAt m (n + 2)
    (m.LeavesCheck →
      (e.check event).run l
          = (Run.as (.record id) (do return (← (s.engineAt m n).errors event).isEmpty)).run l
        ∧ ∀ t, (e.allows event t).run l
          = (do
              if ← Run.as (.record id) (do return (← (s.engineAt m n).errors event).isEmpty) then
                e.guardPasses event t
              else return false : Run Bool).run l)
      ∧ (m.declares "valid" = true → (e.check event).run l
          = (Run.as (.record id) ((s.engineAt m (n + 1)).isInState (.str "valid"))).run l)
      ∧ (m.declares "valid" = false → (m.event? "is_valid").isSome = true → (e.check event).run l
          = (Run.as (.record id) (((s.engineAt m (n + 1)).timed clock).fire
            (.str "is_valid"))).run l)
      ∧ (m.declares "valid" = false → m.event? "is_valid" = .none →
          (m.event? "validation_errors").isSome = true →
            ∃ f, (e.check event).run l = .error (.fault f) l) := by
  intro e
  refine ⟨fun leaves => ?_, g.check_run_of_declared hm (n + 1) event,
    g.check_run_of_named hm (n + 1) event, g.check_run_of_named_errors hm n event⟩
  have checked := g.check_run_of_leaves hm n event leaves
  refine ⟨checked, fun t => ?_⟩
  have valid : e.isValid event = e.check event := bind_pure _
  rw [Engine.allows, valid]
  exact Run.run_bind_congr checked _

/-! ## A governed class -/

/-- A machine that wants its records to have a title. -/
def Machine.titled : Machine where
  config := { initial := "draft" }
  states := [{ name := "draft" }, { name := "done" }]
  events := [{ name := "finish", transitions := [{ source := "draft", target := "done" }] }]
  registry := { Registry.standard with
    rules := [{
      validator := .str "presence"
      args := [.str "title"]
      condition := .always
      message := .null }] }

def Setting.titled : Setting where
  machine? := fun id => if id = 0 then .some Machine.titled else .none

/-- A plain class that this machine governs. -/
def Class.titled : Class where
  toClassBody := { Class.plain with
    members :=
      (Class.govern 0 Machine.titled.toDefinition .none 3 Class.plain.members [Class.root]).1 }

/-- A new record of it. -/
def Live.titled : Live where
  self := .record 0
  classes := Class.first ++ [Class.titled]
  records := [{ cls := 3, sheet := .attributes 0 }]
  shelf := { taken := 1 }

theorem Live.titled_governed : Live.titled.Governed 0 0 Machine.titled.toDefinition .none where
  self := rfl
  unread := by rfl
  lasting := by rfl
  bare := by decide
  governed := ⟨[], [Class.root], [Class.root], 3, Class.titled, Class.plain.members, by rfl,
    by simp, rfl, by rfl, by decide⟩

theorem check_of_governed_titled :
    ((Setting.titled.engineAt .titled 7).check (.str "finish")).run Live.titled
      = (Run.as (.record 0) (do
          return (← (Setting.titled.engineAt .titled 5).errors (.str "finish")).isEmpty)).run
            Live.titled :=
  ((Setting.check_of_governed rfl Live.titled_governed 5 (.str "finish")).1
    ⟨by rfl, by rfl, by rfl⟩).1

end Lifecycle
