/-
Texts: state columns are compared by their text, everywhere.

A run overlooks a column if it does alike on twins, that is if it takes no notice
of which of two values with one text stands there (`Live.Overlooks`). The engine
does so by itself. If whoever it calls does so too (`Engine.UsersOverlook`), and all
that rules ask for but their scopes over the column, then so do all queries
(`Engine.QueriesOverlook`), and the engine goes through any number of turns with
the one record as it does with the other (`Setting.texts_decide`).

What is no text in the column is found out by those who look at the value itself:
a rule for its presence, for one (`texts_decide_blank`), or a column that is
called as a check.
-/
import Lifecycle.Proofs.Declarations
import Lifecycle.Proofs.Twins
import Lifecycle.Proofs.Scripts
import Lifecycle.Proofs.Validity
import Lifecycle.Command

namespace Lifecycle

open Run (Alike EndAlike)
open Live (Twins)

/-- A run takes no notice of which of two values with one text stands in a column. -/
def Live.Overlooks {α : Type} (W : Live → Prop) (id : RecordId) (column : String) (x : Run α) :
    Prop :=
  Alike (Twins W id column) x x

open Live (Overlooks)

/-- How a record finds out by a check of its own whether it is valid. -/
def Engine.ownCheck (e : Engine) (event own : Value) : Run Bool := do
  let takesEvent ← e.host.takesEvent own
  let v ← e.host.answer (.call own (if takesEvent then [event] else []))
  e.host.truth v

/-- The attribute that a check of its own stands in. -/
def checkAttribute : String := "is_valid"

theorem Engine.check_eq (e : Engine) (event : Value) :
    e.check event = (do
      let own ← e.host.attr (.str checkAttribute)
      if own.isNull then return (← e.errors event).isEmpty else e.ownCheck event own) := rfl

/-! ## Rules -/

/-- A condition overlooks a column but for its scopes, which show its text. -/
def Condition.Overlooks (e : Engine) (W : Live → Prop) (id : RecordId) (column : String)
    (event : Value) : Condition → Prop
  | .always => True
  | .callback c => Live.Overlooks W id column (do e.host.truth (← c.call e.host [event]))
  | .scoped scope inner =>
    (scope.column ≠ .str column →
        Live.Overlooks W id column (do e.host.asState (← e.host.attr scope.column)))
      ∧ Live.Overlooks W id column (e.host.differ event scope.event)
      ∧ inner.Overlooks e W id column event

/-- A rule overlooks a column but for its scopes. -/
structure Rule.Overlooks (rule : Rule) (e : Engine) (W : Live → Prop) (id : RecordId)
    (column : String) (event : Value) : Prop where
  condition : rule.condition.Overlooks e W id column event
  validator : ∀ v, e.machine.registry.validator? rule.validator = .some v →
    Live.Overlooks W id column (e.validate rule.args v)

/-- Whoever an engine calls overlooks a column. -/
structure Engine.UsersOverlook (e : Engine) (W : Live → Prop) (id : RecordId) (column : String) :
    Prop where
  rules : ∀ event, event.isState = true → ∀ rule ∈ e.machine.registry.rules,
    rule.Overlooks e W id column event
  checks : ∀ {event l l' own}, event.isState = true → Twins W id column l l' →
    l.value? id checkAttribute = .some own → own.isNull = false →
      EndAlike (Twins W id column) ((e.ownCheck event own).run l) ((e.ownCheck event own).run l')
  guards : ∀ ev ∈ e.machine.events, ∀ g ∈ ev.guards,
    Overlooks W id column (do e.host.truth (← e.runAction (.str ev.name) g))
  acts : ∀ event, ∀ s ∈ e.machine.states, ∀ a ∈ s.enter.toList ++ (s.after ++ s.exit.toList),
    Overlooks W id column (e.runAction event a)
  observers : ∀ args, (∀ v ∈ args, v.isState = true) → ∀ o ∈ e.machine.observers,
    Overlooks W id column (e.heed args o)
  compares : e.CompareAlike e (Twins W id column) id

/-- All queries overlook a column. -/
structure Engine.QueriesOverlook (e : Engine) (W : Live → Prop) (id : RecordId) (column : String) :
    Prop where
  shown : Overlooks W id column e.currentState
  declared : Overlooks W id column e.declaredState
  isIn : ∀ name, Overlooks W id column (e.isInState name)
  candidates : ∀ event : String, Overlooks W id column (e.nextTransitionsFor (.str event))
  target : ∀ event : String, Overlooks W id column (e.nextTargetFor (.str event))
  scopes : ∀ event scope, scope.column = .str column →
    Overlooks W id column (e.host.differ event scope.event) →
      Overlooks W id column (e.covered event scope)
  errors : ∀ event, event.isState = true → Overlooks W id column (e.errors event)
  /-- The record may be filtered together with others. -/
  filters : ∀ among (records : List RecordId) (names : List String),
    (∀ r ∈ records, r ≠ id → Overlooks W id column (e.stateOf (.record r))) →
      Overlooks W id column (e.selectValues among (Command.listOf records) (names.map .str))

namespace Engine

variable {e : Engine} {W : Live → Prop} {id : RecordId} {column : String} {event : Value}
  (seat : Live.Seat W e.machine id column)

section Rules

include seat

theorem covered_overlooks {scope : Scope}
    (read : scope.column ≠ .str column →
      Overlooks W id column (do e.host.asState (← e.host.attr scope.column)))
    (compares : Overlooks W id column (e.host.differ event scope.event)) :
    Overlooks W id column (e.covered event scope) := by
  have shown : Overlooks W id column (do e.host.asState (← e.host.attr scope.column)) := by
    by_cases own : scope.column = .str column
    · rw [own, ← seat.held]
      exact currentState_alike seat
    · exact read own
  have decided : Overlooks W id column (do
      let current ← (do e.host.asState (← e.host.attr scope.column))
      if !scope.isAt current then return false
      else if scope.event.isNull then return true
      else return !(← e.host.differ event scope.event)) :=
    shown.bind fun current => .ite (.pure _) (.ite (.pure _) (compares.bind fun _ => .pure _))
  rwa [bind_assoc] at decided

theorem holds_overlooks : ∀ {c : Condition}, c.Overlooks e W id column event →
    Overlooks W id column (e.holds event c)
  | .always, _ => .pure true
  | .callback _, h => h
  | .scoped _ _, ⟨read, compares, inner⟩ =>
    (covered_overlooks seat read compares).bind fun _ => .ite (holds_overlooks inner) (.pure false)

theorem ruleErrors_overlooks {rule : Rule} (h : rule.Overlooks e W id column event) :
    Overlooks W id column (e.ruleErrors event rule) := by
  refine (holds_overlooks seat h.condition).bind fun _ => .ite ?_ (.pure [])
  cases known : e.machine.registry.validator? rule.validator with
  | none => exact .fail _
  | some v => exact (h.validator v known).bind fun _ => .pure _

theorem errorsOf_overlooks : ∀ {rules : List Rule},
    (∀ rule ∈ rules, rule.Overlooks e W id column event) →
      Overlooks W id column (e.errorsOf event rules)
  | [], _ => .pure []
  | rule :: _, h =>
    (ruleErrors_overlooks seat (h rule (.head _))).bind fun _ =>
      (errorsOf_overlooks fun r mem => h r (.tail _ mem)).bind fun _ => .pure _

end Rules

section Users

variable (users : e.UsersOverlook W id column)
include seat users

theorem errors_overlooks (hevent : event.isState = true) :
    Overlooks W id column (e.errors event) :=
  errorsOf_overlooks seat (users.rules event hevent)

/-- Twins have the same check of their own, or none. -/
theorem check_overlooks (unchecked : column ≠ checkAttribute) (hevent : event.isState = true) :
    Overlooks W id column (e.check event) := by
  refine Twins.alike fun l _ u _ w w' own text text' => ?_
  have twins : Twins W id column l (l.assign id column u) := .apart w w' own text text'
  have ordinary {l : Live} (w : W l) := (seat.plain w).names checkAttribute (by decide)
  have read := Host.attr_run_ordinary (h := e.host) (seat.plain w) (ordinary w)
  have read' := Host.attr_run_ordinary (h := e.host) (seat.plain w') (ordinary w')
  rw [Live.value?_assign_other unchecked.symm] at read'
  rw [check_eq, Run.run_bind_ok read, Run.run_bind_ok read']
  have byRules := (errors_overlooks seat users hevent).bind (f := fun errors =>
    Pure.pure errors.isEmpty) (g := fun errors => Pure.pure errors.isEmpty) fun _ => .pure _
  cases held : l.value? id checkAttribute with
  | none => exact byRules _ _ twins
  | some check =>
    rw [Option.getD_some]
    cases null : check.isNull with
    | true => exact byRules _ _ twins
    | false => exact users.checks hevent twins held null

theorem usersAlike_of_overlook (unchecked : column ≠ checkAttribute) :
    e.UsersAlike (Twins W id column) e where
  checks _ _ := check_overlooks seat users unchecked rfl
  guards := users.guards
  acts := users.acts
  observers := users.observers

end Users

/-! ## Queries -/

theorem eventNamed_overlooks (name : String) :
    Overlooks W id column (e.eventNamed (.str name)) := by
  rw [eventNamed, Host.asText_str]
  exact (Alike.pure _).bind fun _ => .lift rfl

theorem asTexts_overlooks (h : Host) : ∀ names : List String,
    Overlooks W id column (h.asTexts (names.map .str))
  | [] => .pure []
  | name :: names => by
    rw [List.map_cons, Host.asTexts, Host.asText_str]
    exact (Alike.pure _).bind fun _ => (asTexts_overlooks h names).bind fun _ => .pure _

theorem walkItems_overlooks {α : Type} {visit : Value → Run α} : ∀ {vs : List Value},
    (∀ v ∈ vs, Overlooks W id column (visit v)) →
      Overlooks W id column (Host.walkItems visit vs)
  | [], _ => .pure []
  | v :: _, h =>
    (h v (.head _)).bind fun _ =>
      (walkItems_overlooks fun w mem => h w (.tail _ mem)).bind fun _ => .pure _

theorem settle_listOf (l : Live) (records : List RecordId) :
    l.settle (Command.listOf records) = Command.listOf records := by
  rw [Live.settle, Shelf.settle, Command.listOf, Shelf.settleIn]
  congr 1
  induction records with
  | nil => rw [List.map_nil, Shelf.settleItems]
  | cons r rs ih => rw [List.map_cons, Shelf.settleItems, Shelf.settleIn, ih] <;> simp

/-- To go through some records is to go through them one by one. -/
theorem walk_records (h : Host) {α : Type} (visit : Value → Run α) (records : List RecordId) :
    h.walk (Command.listOf records) (pure ()) visit
      = Host.walkItems visit (records.map .record) := by
  funext l
  have unnamed (name : String) :
      (h.special? name (Command.listOf records)).run l = .ok .none l := rfl
  have stands : (Run.settle (Command.listOf records)).run l = .ok (Command.listOf records) l :=
    congrArg (EStateM.Result.ok · l) (settle_listOf l records)
  change (h.walk (Command.listOf records) (pure ()) visit).run l = EStateM.run _ l
  rw [Host.walk, Run.run_bind_ok (unnamed _)]
  dsimp only
  rw [Run.run_bind_ok (unnamed _)]
  dsimp only
  rw [Run.run_bind_ok stands]
  rfl

section Queries

include seat

/-- A filter reads the column as the adapter of the record does. -/
theorem stateOf_overlooks : Overlooks W id column (e.stateOf (.record id)) := by
  refine Twins.alike fun l v u t w w' own text text' => ?_
  have shown {l : Live} {v : Value} (w : W l) (held : l.value? id column = .some v)
      (text : v.HasText W t) : (e.stateOf (.record id)).run l = .ok t l := by
    have self := (seat.plain w).self
    have read := Host.attr_run_ordinary (h := e.host) (seat.plain w) (seat.own w)
    have there : ({ l with self := .record id } : Live) = l := by rw [← self]
    have went := Run.run_as_ok self read
    rw [there, held] at went
    rw [stateOf, Host.attrOf, seat.held, Run.run_bind_ok went]
    exact text.asState_run w e.host
  rw [shown w (Live.value?_of_own own) text, shown w' (Live.value?_assign_self ..) text']
  exact .ok (.apart w w' own text text')

theorem selectValues_overlooks (among : Bool) (records : List RecordId) (names : List String)
    (others : ∀ r ∈ records, r ≠ id → Overlooks W id column (e.stateOf (.record r))) :
    Overlooks W id column
      (e.selectValues among (Command.listOf records) (names.map .str)) := by
  refine (asTexts_overlooks e.host names).bind fun texts => ?_
  refine Alike.bind (.lift rfl) fun wanted => ?_
  rw [walk_records]
  refine (walkItems_overlooks fun v mem => ?_).bind fun held => .pure _
  obtain ⟨r, listed, rfl⟩ := List.mem_map.mp mem
  have read : Overlooks W id column (e.stateOf (.record r)) := by
    by_cases at_ : r = id
    · rw [at_]
      exact stateOf_overlooks seat
    · exact others r listed at_
  exact read.bind fun _ => .pure _

/-- Queries see nothing but the text in the column, if nobody does whom they ask. -/
theorem queriesOverlook (users : e.UsersOverlook W id column) : e.QueriesOverlook W id column where
  shown := currentState_alike seat
  declared := (currentState_alike seat).bind fun _ => .lift rfl
  isIn name :=
    Alike.bind (.lift rfl) fun _ => ((currentState_alike seat).bind fun _ => .lift rfl).bind
      fun _ => .pure _
  candidates event := (eventNamed_overlooks event).bind fun _ =>
    (currentState_alike seat).bind fun _ => .pure _
  target event := by
    have found : Overlooks W id column (e.nextTransitionsFor (.str event)) :=
      (eventNamed_overlooks event).bind fun _ => (currentState_alike seat).bind fun _ => .pure _
    refine found.bind fun candidates => ?_
    cases candidates <;> exact .pure _
  scopes event scope own compares :=
    covered_overlooks seat (fun other => absurd own other) compares
  errors event hevent := errors_overlooks seat users hevent
  filters := selectValues_overlooks seat

end Queries

end Engine

/-! ## The whole engine -/

namespace Setting

variable {s : Setting} {m : Machine} {W : Live → Prop} {id : RecordId} {column : String}

/-- State columns are compared by text, everywhere. If two records are the same but for two values
with one text in the column, and nobody else looks at the column as long as the engine does not,
then all queries find the same of them, and the engine goes through any turns with both alike: each
ends in the same way, and what is left is the same again, log and all, but perhaps for two values
with one text in the column. -/
theorem texts_decide (seat : Live.Seat W m id column) (apart : column ≠ committedAttribute)
    (unchecked : column ≠ checkAttribute)
    (users : ∀ n, (∀ k < n, ∀ t, Overlooks W id column ((s.engineAt m k).take t)) →
      (s.engineAt m n).UsersOverlook W id column) (n : Nat) :
    (s.engineAt m n).QueriesOverlook W id column
      ∧ ∀ (ts : List Turn) {l l' : Live}, Twins W id column l l' →
        (s.engineAt m n).endings ts l = (s.engineAt m n).endings ts l'
          ∧ Twins W id column ((s.engineAt m n).afterTurns ts l)
            ((s.engineAt m n).afterTurns ts l') := by
  have turns (n : Nat) : ∀ t, Overlooks W id column ((s.engineAt m n).take t) := by
    refine take_alike_of_before (.refl _) (fun n before => ?_) n
    have overlook := users n before
    have steps := Engine.stepsAlike_of_twins seat rfl apart overlook.compares
    exact ⟨steps.ownAlike, Engine.usersAlike_of_overlook seat overlook unchecked⟩
  exact ⟨Engine.queriesOverlook seat (users n fun k _ => turns k),
    fun ts _ _ twins => Engine.turns_alike (turns n) ts twins⟩

end Setting

/-! ## Blind scripts -/

/-- A step that reads nothing of the record: it logs a text or an argument, raises, or asks for an
event of the machine to be fired. -/
def Step.isBlind (c : Scene) : Step → Bool
  | log (.lit v) => v.isState
  | log (.arg _) => true
  | eval (.fire ref (.str _)) => c.setting.named? ref == .some c.known
  | raise _ _ => true
  | _ => false

def Script.isBlind (c : Scene) : Script → Bool
  | done => true
  | give (.lit _) => true
  | step st rest => st.isBlind c && rest.isBlind c
  | _ => false

def Callback.isBlind (c : Scene) : Callback → Bool
  | .script body => body.isBlind c
  | _ => false

/-- A condition that asks for nothing but states in a column. -/
def Condition.isBlind (column : String) : Condition → Bool
  | .always => true
  | .callback _ => false
  | .scoped scope inner =>
    (match scope.column with | .str name => name == column | _ => false)
      && scope.event.isState && inner.isBlind column

/-- A machine without guards, all of whose other callbacks are blind. -/
structure Machine.IsBlind (m : Machine) (c : Scene) (column : String) : Prop where
  unguarded : ∀ ev ∈ m.events, ev.guards = []
  acts : ∀ s ∈ m.states, ∀ a ∈ s.enter.toList ++ (s.after ++ s.exit.toList), a.isBlind c = true
  observers : ∀ o ∈ m.observers, o.isBlind c = true
  conditions : ∀ rule ∈ m.registry.rules, rule.condition.isBlind column = true
  arguments : ∀ rule ∈ m.registry.rules, ∀ v ∈ rule.args, v.isState = true
  validators : ∀ rule ∈ m.registry.rules, ∀ v,
    m.registry.validator? rule.validator = .some v → ∃ f, v = .custom f ∧ f.isBlind c = true

section Blind

variable {c : Scene} {W : Live → Prop} {column : String}
  (seat : Live.Seat W c.machine c.record column) {n : Nat}

/-- A request to fire an event overlooks the column if the fire does. -/
theorem Setting.fire_overlooks {s : Setting} {m : Machine} {known : MachineId} {id : RecordId}
    (seat : Live.Seat W m id column) (bound : s.machine? known = .some m)
    (before : ∀ k < n, ∀ t, Overlooks W id column ((s.engineAt m k).take t)) (event : String) :
    Overlooks W id column (s.answer n (.fire known (.str event))) := by
  cases n with
  | zero => exact .throw _
  | succ k =>
    refine Engine.inHand_alike (e := s.engineAt m k) seat _ _ _ fun l l' twins => ?_
    have engine (l : Live) : (Host.engine { toSetting := s, answer := s.answer k } known).run l
        = .ok (s.engineAt m k) l := Setting.engine_run bound k l
    rw [Run.run_bind_ok (engine l), Run.run_bind_ok (engine l')]
    exact (Alike.bind (before k (Nat.lt_succ_self k) (.fire event)) fun _ => .pure _) l l' twins

variable (bound : c.setting.machine? c.known = .some c.machine)
  (before : ∀ k < n, ∀ t, Overlooks W c.record column ((c.setting.engineAt c.machine k).take t))
include seat bound before

theorem Step.run_overlooks {args : List Value} (states : ∀ v ∈ args, v.isState = true) :
    ∀ st : Step, st.isBlind c = true →
      Overlooks W c.record column (st.run (c.setting.hostAt n) args)
  | .log (.lit v), h => by
    have logged : Overlooks W c.record column (Run.note (.note v)) :=
      Engine.note_alike (e := c.setting.engineAt c.machine n) seat fun l =>
        congrArg Entry.note (Live.settle_of_isState h)
    rw [Step.run, Expr.eval, pure_bind]
    exact Engine.inHand_alike (e := c.setting.engineAt c.machine n) seat _ _ _ logged
  | .log (.arg i), _ => by
    have state : ((args[i]?).getD .null).isState = true := by
      cases h : args[i]? with
      | none => rfl
      | some v => exact states v (List.mem_of_getElem? h)
    have logged : Overlooks W c.record column (Run.note (.note ((args[i]?).getD .null))) :=
      Engine.note_alike (e := c.setting.engineAt c.machine n) seat fun l =>
        congrArg Entry.note (Live.settle_of_isState state)
    rw [Step.run, Expr.eval, pure_bind]
    exact Engine.inHand_alike (e := c.setting.engineAt c.machine n) seat _ _ _ logged
  | .eval (.fire ref (.str event)), h => by
    have named : c.setting.named? ref = .some c.known := by simpa [isBlind] using h
    have found : (c.setting.hostAt n).machineNamed ref = pure c.known := by
      unfold Host.machineNamed
      rw [show (c.setting.hostAt n).named? ref = .some c.known from named]
    have fired := Setting.fire_overlooks seat bound before event
    rw [Step.run, Expr.eval, found, pure_bind]
    exact Engine.inHand_alike (e := c.setting.engineAt c.machine n) seat _ _ _
      (fired.bind fun _ => .pure ())
  | .raise kind reason, _ => .fail _

theorem Script.run_overlooks {args : List Value} (states : ∀ v ∈ args, v.isState = true) :
    ∀ body : Script, body.isBlind c = true →
      Overlooks W c.record column (body.run (c.setting.hostAt n) args)
  | .done, _ => .pure _
  | .give (.lit v), _ => by
    rw [Script.run, Expr.eval]
    exact (Alike.pure v).bind fun _ => .pure _
  | .step st rest, h => by
    obtain ⟨first, after⟩ := (Bool.and_eq_true ..).mp h
    exact (Step.run_overlooks seat bound before states st first).bind fun _ =>
      Script.run_overlooks states rest after

theorem Callback.call_overlooks {args : List Value} (states : ∀ v ∈ args, v.isState = true)
    {callback : Callback} (h : callback.isBlind c = true) :
    Overlooks W c.record column (callback.call (c.setting.hostAt n) args) := by
  cases callback with
  | script body =>
    exact Engine.inHand_alike (e := c.setting.engineAt c.machine n) seat _ _ _
      ((Script.run_overlooks seat bound before states body h).bind fun _ => .pure _)
  | _ => cases h

omit seat bound before in
theorem Condition.overlooks_of_isBlind {event : Value} (hevent : event.isState = true) :
    ∀ {condition : Condition}, condition.isBlind column = true →
      condition.Overlooks (c.setting.engineAt c.machine n) W c.record column event
  | .always, _ => trivial
  | .scoped scope inner, h => by
    simp only [isBlind, Bool.and_eq_true] at h
    obtain ⟨⟨own, state⟩, blind⟩ := h
    refine ⟨fun other => ?_, fun l l' twins => ?_, overlooks_of_isBlind hevent blind⟩
    · split at own
      · next name held => exact absurd (held.trans (congrArg Value.str (beq_iff_eq.mp own))) other
      · cases own
    · rw [Host.differ_run hevent state, Host.differ_run hevent state]
      exact .ok twins

/-- Blind users overlook the column of a record that has no check of its own, if what is committed
is always a state and no observer stops. -/
theorem Machine.IsBlind.usersOverlook (blind : c.machine.IsBlind c column)
    (unchecked : ∀ {l}, W l → l.value? c.record checkAttribute = .none)
    (committed : ∀ {l v}, W l → l.value? c.record committedAttribute = .some v →
      v.isState = true)
    (answers : ∀ args, ∀ o ∈ c.machine.observers, ∀ {l}, W l →
      ∃ v m, (o.call (c.setting.hostAt n) args).run l = .ok v m) :
    (c.setting.engineAt c.machine n).UsersOverlook W c.record column where
  rules event hevent rule mem := by
    refine ⟨Condition.overlooks_of_isBlind hevent (blind.conditions rule mem), fun v known => ?_⟩
    obtain ⟨f, rfl, hf⟩ := blind.validators rule mem v known
    exact Callback.call_overlooks seat bound before (blind.arguments rule mem) hf
  checks _ twins found null := by
    cases twins with
    | same => exact .refl .same _
    | apart w =>
      rw [unchecked w] at found
      cases found
  guards ev hev g hg := by
    rw [blind.unguarded ev hev] at hg
    cases hg
  acts event s hs a ha := by
    have none : ∀ v ∈ ([] : List Value), v.isState = true := nofun
    have called := Callback.call_overlooks seat bound before none (blind.acts s hs a ha)
    cases a with
    | script body => exact (Alike.pure ()).bind fun _ => called
    | _ => cases blind.acts s hs _ ha
  observers args states o ho := Twins.alike fun _ _ _ _ w w' own text text' =>
    Engine.heed_alike_of_answers (Callback.call_overlooks seat bound before states
      (blind.observers o ho) _ _ (.apart w w' own text text')) (answers args o ho w)
  compares {l l' v} twins state := by
    cases twins with
    | same => exact .refl .same _
    | apart w w' own text text' =>
      have other : ((l.value? c.record committedAttribute).getD .null).isState = true := by
        cases h : l.value? c.record committedAttribute with
        | none => rfl
        | some v => exact committed w h
      rw [Host.differ_run state other, Host.differ_run state other]
      exact .ok (.apart w w' own text text')

end Blind

/-! ## A record that counts -/

/-- What is committed is always a state. -/
def Scene.Committing (c : Scene) (l : Live) : Prop :=
  c.World l ∧ ∀ v, l.value? c.record committedAttribute = .some v → v.isState = true

theorem Scene.committing_seat {c : Scene} (fit : c.IsFit) {column : String}
    (held : c.machine.config.column = .str column) (ht : column ∉ Live.takenNames) :
    Live.Seat c.Committing c.machine c.record column where
  plain w := (ground_of_fit fit).plain w.1
  lasting w := lasting_of_fit fit w.1
  held
  own w := ((ground_of_fit fit).plain w.1).names column ht
  noted log w := ⟨(ground_of_fit fit).noted log w.1, w.2⟩
  ticked reads w := ⟨(ground_of_fit fit).ticked reads w.1, w.2⟩
  written {l name} v w writes fits _ := by
    have stands := Live.Stands.assign w.1 (fun hmem => fit.unwritten _ hmem writes) v
    refine ⟨stands, fun u found => ?_⟩
    by_cases hname : name = committedAttribute
    · rw [hname, Live.value?_assign_self] at found
      cases found
      exact fits hname
    · rw [Live.value?_assign_other (Ne.symm hname)] at found
      exact w.2 u found

/-- From `1` to `2`, where nothing is valid. On the way events are fired from inside, and what the
observers are told is logged. -/
def Machine.counting : Machine where
  config := { initial := "1" }
  states := [
    { name := "1", exit := .some (.script (.step (.log (.lit "left")) .done)) },
    { name := "2", after := [.script (.step (.eval (.fire "m" "back")) .done)] }]
  events := [{ name := "go", transitions := [{ source := "1", target := "2" }] },
    { name := "back", transitions := [{ source := "2", target := "1" }] }]
  observers := [
    .script (.step (.log (.arg 0)) (.step (.log (.arg 1)) (.step (.log (.arg 2)) .done)))]
  registry := {
    validators := Registry.standard.validators ++ [(.str "never",
      .custom (.script (.step (.log (.lit "asked")) (.give (.lit "never")))))]
    rules := [{
      validator := .str "never"
      args := []
      condition := .scoped { state := "2" } .always
      message := .null }] }

def Scene.counting : Scene :=
  .plain {
    machine? := fun id => if id = 0 then .some Machine.counting else .none
    named? := fun ref => if ref = "m" then .some 0 else .none } .counting 0 []

theorem Scene.counting_isFit : Scene.counting.IsFit :=
  Scene.plain_isFit rfl fun h => absurd (Value.str.inj h) (by decide)

theorem Scene.counting_seat :
    Live.Seat Scene.counting.Committing .counting 0 "state" :=
  Scene.committing_seat Scene.counting_isFit rfl (by decide)

theorem Machine.counting_isBlind : Machine.counting.IsBlind Scene.counting "state" where
  unguarded := by decide
  acts := by decide
  observers := by decide
  conditions := by decide
  arguments := by decide
  validators rule mem v known := by
    obtain rfl := List.mem_singleton.mp mem
    cases known
    exact ⟨_, rfl, by decide⟩

/-- The observer logs what it is called with, and does not stop. -/
theorem Scene.counting_answers (h : Host) (args : List Value) : ∀ o ∈ Machine.counting.observers,
    ∀ {l}, Scene.counting.Committing l → ∃ v m, (o.call h args).run l = .ok v m := by
  intro o ho l w
  obtain rfl := List.mem_singleton.mp ho
  have lasting := Scene.counting_seat.lasting w
  have given (i : Nat) : (Expr.arg i).eval h args = pure (args[i]?.getD .null) := by rw [Expr.eval]
  have logged (i : Nat) (log : List Entry) :=
    Step.log_run (l := { l with log }) lasting (given i)
  rw [Callback.call, Host.working_run lasting, Script.call, Script.run, bind_assoc,
    Run.run_bind_ok (logged 0 l.log), Script.run, bind_assoc, Run.run_bind_ok (logged 1 _),
    Script.run, bind_assoc, Run.run_bind_ok (logged 2 _)]
  exact ⟨_, _, rfl⟩

theorem Scene.counting_users {n : Nat}
    (before : ∀ k < n, ∀ t, Overlooks Scene.counting.Committing 0 "state"
      ((Scene.counting.setting.engineAt .counting k).take t)) :
    (Scene.counting.setting.engineAt .counting n).UsersOverlook Scene.counting.Committing 0
      "state" :=
  Machine.IsBlind.usersOverlook (c := Scene.counting) Scene.counting_seat rfl before
    Machine.counting_isBlind (fun w => Live.Stands.missing w.1 _ (.head _)) (fun w => w.2 _)
    (Scene.counting_answers _)

/-- A record of the plain class that has nothing but a value in its column. -/
theorem Scene.counting_from (v : Value) :
    Scene.counting.Committing (Live.blank.assign 0 "state" v) :=
  Scene.counting_seat.written v ⟨Scene.blank_plain, nofun⟩ (.inr (.inl rfl))
    (fun h => absurd h (by decide)) (.inr ⟨rfl, rfl⟩)

/-- The number 1 in the column does as well as the text. -/
theorem Setting.texts_decide_counting :
    let e := Scene.counting.setting.engineAt .counting 5
    let l := Live.blank.assign 0 "state" (.int 1)
    let l' := l.assign 0 "state" "1"
    let turns := [.start, .fire "go", .fire "go"]
    e.endings turns l = e.endings turns l'
      ∧ (e.afterTurns turns l).log = (e.afterTurns turns l').log := by
  intro e l l' turns
  have decided := texts_decide Scene.counting_seat (by decide) (by decide)
    (fun _ => Scene.counting_users) 5
  have w' : Scene.counting.Committing l' := by
    rw [show l' = Live.blank.assign 0 "state" "1" from Live.assign_assign ..]
    exact Scene.counting_from "1"
  have twins : Live.Twins Scene.counting.Committing 0 "state" l l' :=
    .apart (Scene.counting_from (.int 1)) w' rfl (Value.hasText_int (by decide +kernel))
      (Value.hasText_str _ "1")
  obtain ⟨same, left⟩ := decided.2 turns twins
  exact ⟨same, left.log_eq.symm⟩

/-! ## What is no text -/

theorem Host.isBlank_run {h : Host} {v : Value} {l : Live}
    (known : (h.askClass v).run l = .ok () l)
    (unmeasured : (h.special? "__len__" v).run l = .ok .none l) (settled : l.settle v = v) :
    (h.isBlank v).run l = .ok v.isBlank l := by
  have stands : (Run.settle v).run l = .ok v l := congrArg (EStateM.Result.ok · l) settled
  rw [isBlank, Run.run_bind_ok known, Run.run_bind_ok unmeasured]
  dsimp only
  rw [Run.run_bind_ok stands]
  rfl

/-- A draft with a rule for the presence of its own column. -/
def Draft.Call.demanding : List Draft.Call := [
  .addRule { validator := "presence", args := ["state"] },
  .declareState "[]" .none .none .none .none,
  .build]

def Machine.demanding : Machine where
  config := { initial := "[]" }
  states := [{ name := "[]" }]
  registry := {
    validators := Registry.standard.validators
    rules := [{
      validator := "presence"
      args := ["state"]
      condition := .always
      message := .null }] }

/-- A draft whose column is what records are checked by. -/
def Draft.Call.selfish : List Draft.Call := [
  .declareState "5" .none .none .none .none,
  .openEvent "go" ∅,
  .addEdges 0 { target := "5", sources := .ok ["5"] },
  .leaveBlock 0 false,
  .build]

def Machine.selfish : Machine where
  config := { initial := "5", column := .str checkAttribute }
  states := [{ name := "5" }]
  events := [{ name := "go", transitions := [{ source := "5", target := "5" }] }]
  registry := Registry.standard

/-- An engine of the only machine there is. -/
def Engine.sole (m : Machine) : Engine := Setting.engineAt { machine? := fun _ => .some m } m 5

theorem Engine.demanding_errors {v : Value} {blank : Bool} {l : Live}
    (held : ((sole .demanding).host.attr "state").run l = .ok v l)
    (seen : ((sole .demanding).host.isBlank v).run l = .ok blank l) :
    ((sole .demanding).errors "go").run l
      = .ok (if blank then ["state can't be blank"] else []) l := by
  have names : ((sole .demanding).attrsWith true ["state"]).run l
      = .ok (if blank then ["state"] else []) l := by
    rw [attrsWith, Run.run_bind_ok held, Run.run_bind_ok seen]
    cases blank <;> rfl
  have asked : ((sole .demanding).validate ["state"] .presence).run l
      = .ok (if blank then "state can't be blank" else .null) l := by
    rw [validate, Run.run_bind_ok names]
    cases blank <;> rfl
  have rule : ((sole .demanding).ruleErrors "go" Machine.demanding.registry.rules.head!).run l
      = .ok (if blank then ["state can't be blank"] else []) l := by
    refine (Run.run_bind_ok asked _).trans ?_
    cases blank <;> rfl
  refine (Run.run_bind_ok rule _).trans ?_
  cases blank <;> rfl

/-- A check that stops a fire does so before anything else happens. -/
theorem Engine.selfish_fire {f : Fault} {l : Live}
    (shown : (sole .selfish).currentState.run l = .ok "5" l)
    (refused : ((sole .selfish).check "go").run l = .error (.fault f) l) :
    ((sole .selfish).fire "go").run l = .error (.fault f) l := by
  have found : (sole .selfish).machine.event? "go" = Machine.selfish.events.head? := rfl
  have candidates : ((sole .selfish).nextTransitions Machine.selfish.events.head!).run l
      = .ok [{ source := "5", target := "5" }] l := Run.run_bind_ok shown _
  have valid : ((sole .selfish).isValid "go").run l = .error (.fault f) l :=
    Run.run_bind_error refused _
  have allowed : ((sole .selfish).allows "go" { source := "5", target := "5" }).run l
      = .error (.fault f) l := Run.run_bind_error valid _
  have performed : ((sole .selfish).performFirst "go" [{ source := "5", target := "5" }]).run l
      = .error (.fault f) l := by
    rw [performFirst_cons]
    exact Run.run_bind_error allowed _
  have fired : ((sole .selfish).fireEvent Machine.selfish.events.head!).run l
      = .error (.fault f) l := (Run.run_bind_ok candidates _).trans performed
  rw [fire_eq, Definition.eventNamed_of_some found, Run.run_bind_ok (Run.run_lift_ok _ _),
    fireFound, Run.run_bind_ok shown]
  exact Run.run_bind_error fired _

/-- An empty list has the text `[]`, but it is blank and the text is not. And where the column is
the check of the record itself, a number cannot be called in another way than its text. -/
theorem Setting.texts_decide_blank :
    let l := Live.blank.assign 0 "state" (.list [])
    let l' := Live.blank.assign 0 "state" "[]"
    let k := Live.blank.assign 0 checkAttribute (.int 5)
    let k' := Live.blank.assign 0 checkAttribute "5"
    ((Draft.afterAll Draft.Call.demanding { config := Machine.demanding.config }).machine?
          = .some .demanding
        ∧ (Value.list []).HasText (fun _ => True) "[]"
        ∧ ((Engine.sole .demanding).errors "go").run l = .ok ["state can't be blank"] l
        ∧ ((Engine.sole .demanding).errors "go").run l' = .ok [] l')
      ∧ (Draft.afterAll Draft.Call.selfish { config := Machine.selfish.config }).machine?
          = .some .selfish
        ∧ (Value.int 5).HasText (fun _ => True) "5"
        ∧ ((Engine.sole .selfish).fire "go").run k
          = .error (.fault (.misuse (.notCallable (.int 5)))) k
        ∧ ((Engine.sole .selfish).fire "go").run k'
          = .error (.fault (.misuse (.notCallable "5"))) k' := by
  intro l l' k k'
  have empty (l : Live) : l.settle (.list []) = .list [] := Engine.settle_listOf l []
  have text : (Value.list []).HasText (fun _ => True) "[]" :=
    Value.hasText_of_spelled rfl empty (fun _ _ => rfl) fun h => by
      rw [Host.spell, Host.spellAll, pure_bind]
  have five : (Value.int 5).HasText (fun _ => True) "5" := Value.hasText_int (by decide +kernel)
  refine ⟨⟨rfl, text, ?_, ?_⟩, rfl, five, ?_, ?_⟩
  · have seen : ((Engine.sole .demanding).host.isBlank (.list [])).run l = .ok true l :=
      Host.isBlank_run rfl rfl (empty l)
    exact Engine.demanding_errors rfl seen
  · have seen : ((Engine.sole .demanding).host.isBlank "[]").run l' = .ok false l' :=
      Host.isBlank_run rfl rfl (l'.settle_str "[]")
    exact Engine.demanding_errors rfl seen
  · refine Engine.selfish_fire ?_ rfl
    exact five.asState_run trivial _
  · refine Engine.selfish_fire ?_ rfl
    exact (Value.hasText_str (fun _ => True) "5").asState_run trivial _

end Lifecycle
