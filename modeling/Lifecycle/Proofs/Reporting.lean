/-
Reporting: what a registry lists after some calls on it, and which errors it reports.

A registry is called to define validators and to add rules, and some of the calls
are refused (`Registry.Call`). It lists the rules that were accepted, in order, and
has a validator for each; what is in force under a text is what was defined for it
last (`Draft.validator?_called`).

Asked for the errors of a record, it goes through its rules (`Engine.Judges`). For
each it asks the condition, and calls the validator in force only where that
holds. It stops just where one of these does (`Engine.Stumbles`), so never because
a validator is not there (`Registry.reports_of_calls`).
-/
import Lifecycle.Proofs.Confining
import Lifecycle.Proofs.Parts

namespace Lifecycle

open Declare (after)

/-! ## Calls on a registry -/

/-- The answer of a declaration, if it does not fail. -/
def Declare.answer? {α : Type} (x : Declare α) (d : Draft) : Option α :=
  match x.run d with
  | .ok a _ => .some a
  | .error _ _ => .none

/-- A rule with what a call asks for. -/
def RuleCall.rule (w : RuleCall) : Rule :=
  ⟨w.validator, w.args, w.options.condition, w.options.message⟩

/-- A call with no other options than a condition and a message, and a name that can be looked
up. -/
structure RuleCall.IsProper (w : RuleCall) : Prop where
  options : ∀ name ∈ w.options.others.keys, name = "message"
  name : w.validator.unhashable? = .none

namespace Registry

/-- A call on a registry. -/
inductive Call where
  | define (name : Value) (validator : Validator)
  | add (wanted : RuleCall)
  | addWithin (scope : Scope) (wanted : RuleCall)
  deriving Inhabited

namespace Call

/-- The same call on the draft that has the registry. -/
def onDraft : Call → Draft.Call
  | define name validator => .define name validator
  | add wanted => .addRule wanted
  | addWithin scope wanted => .addRuleWithin scope wanted

/-- The validator that a call puts in force under a text. -/
def puts? (name : String) : Call → Option Validator
  | define key validator => if key.same (.str name) then .some validator else .none
  | _ => .none

/-- The rule that a call is answered with, if it asks for one and is accepted. -/
def answer? (d : Draft) : Call → Option Rule
  | define .. => .none
  | add wanted => Declare.answer? (Draft.addRule wanted) d
  | addWithin scope wanted => Declare.answer? (Draft.addRuleWithin scope wanted) d

/-- The rules that some calls are answered with, one after the other. -/
def answers : List Call → Draft → List Rule
  | [], _ => []
  | c :: calls, d => (c.answer? d).toList ++ answers calls (after c.onDraft.run d)

end Call

end Registry

namespace Draft

/-- A draft after some calls on its registry, each made whatever became of those before it. -/
def called (calls : List Registry.Call) (d : Draft) : Draft := afterAll (calls.map (·.onDraft)) d

/-! ### Rules -/

theorem answer?_addRule (w : RuleCall) (d : Draft) :
    (Declare.answer? (addRule w) d).toList = d.registry.accepted [w] := by
  rw [Declare.answer?, addRule_run, Registry.accepted]
  cases d.registry.rule w <;> rfl

theorem rules_of_call (c : Registry.Call) (d : Draft) :
    (after c.onDraft.run d).registry.rules = d.registry.rules ++ (c.answer? d).toList := by
  cases c with
  | define name v => exact (define_sparesRules name v).trans (List.append_nil _).symm
  | add w =>
    rw [Registry.Call.answer?, answer?_addRule, Registry.Call.onDraft, Call.run, after_discard]
    exact addRule_rules w d
  | addWithin s w =>
    have answered := answer?_addRule (w.within s) d
    rw [Registry.Call.onDraft, Call.run, after_discard]
    exact answered ▸ addRule_rules (w.within s) d

/-- The rules that were accepted are listed in the order in which they were asked for. -/
theorem rules_called : ∀ (calls : List Registry.Call) (d : Draft),
    (called calls d).registry.rules = d.registry.rules ++ Registry.Call.answers calls d
  | [], d => (List.append_nil _).symm
  | c :: calls, d => by
    have rest := rules_called calls (after c.onDraft.run d)
    rw [rules_of_call, List.append_assoc] at rest
    exact rest

theorem known_called (config : MachineConfig) (calls : List Registry.Call) :
    (called calls { config }).registry.IsKnown := by
  have begun : Sound { config } := ⟨⟨List.nodup_nil, List.nodup_nil⟩, nofun⟩
  exact (afterAll_induction (P := Sound) (fun _ _ _ _ => Sound.of_change) begun).known

end Draft

/-! ### Validators -/

theorem Value.same_str_eq_true {v : Value} {s : String} : v.same (.str s) = true ↔ v = .str s :=
  ⟨Value.eq_str_of_same, fun h => by simp [h]⟩

theorem Value.eq_null_of_isNull {v : Value} (h : v.isNull = true) : v = .null := by
  cases v with
  | null => rfl
  | _ => cases h

namespace Registry

/-- What is set for a text is found under it, and nothing else is found under another. -/
theorem find?_setValidator (key : Value) (v : Validator) (name : String) :
    ∀ vs : List (Value × Validator),
      ((setValidator key v vs).find? (·.1.same (.str name))).map (·.2)
        = if key.same (.str name) then .some v else (vs.find? (·.1.same (.str name))).map (·.2)
  | [] => by
    rw [setValidator, List.find?_cons]
    cases key.same (.str name) <;> rfl
  | (n, w) :: rest => by
    rw [setValidator]
    cases replaced : n.same key with
    | true =>
      -- the entry keeps its own name, which is the text just if the new one is
      have either : n.same (.str name) = key.same (.str name) := by
        rw [Bool.eq_iff_iff, Value.same_str_eq_true, Value.same_str_eq_true]
        constructor
        · rintro rfl
          exact Value.eq_of_str_same replaced
        · rintro rfl
          exact Value.same_str_eq_true.mp replaced
      rw [if_pos rfl, List.find?_cons, List.find?_cons, either]
      cases key.same (.str name) <;> rfl
    | false =>
      rw [if_neg Bool.false_ne_true, List.find?_cons, List.find?_cons]
      cases here : n.same (.str name) with
      | true =>
        have other : key.same (.str name) = false := by
          rw [← Bool.not_eq_true, Value.same_str_eq_true]
          rintro rfl
          cases here.symm.trans replaced
        rw [other]
        rfl
      | false => exact find?_setValidator key v name rest

end Registry

namespace Draft

theorem validator?_of_call (c : Registry.Call) (name : String) (d : Draft) :
    (after c.onDraft.run d).registry.validator? (.str name)
      = (c.puts? name).or (d.registry.validator? (.str name)) := by
  cases c with
  | define key v =>
    have run := define_run key v d
    change (after (Draft.define key v) d).registry.validator? (.str name)
      = (if key.same (.str name) then .some v else .none : Option Validator).or _
    cases hashed : key.unhashable? with
    | none =>
      rw [hashed] at run
      rw [Declare.after_of_ok run, Registry.validator?, Registry.find?_setValidator]
      cases key.same (.str name) <;> rfl
    | some u =>
      have other : key.same (.str name) = false := by
        rw [← Bool.not_eq_true, Value.same_str_eq_true]
        rintro rfl
        cases hashed
      rw [hashed] at run
      rw [Declare.after_of_error run, other]
      rfl
  | add w =>
    rw [Registry.Call.onDraft, Call.run, after_discard, (addRule_effect w d).1]
    rfl
  | addWithin s w =>
    rw [Registry.Call.onDraft, Call.run, after_discard, (addRuleWithin_effect s w d).1]
    rfl

/-- In force under a text is what was defined for it last, if anything was. -/
theorem validator?_called (name : String) : ∀ (calls : List Registry.Call) (d : Draft),
    (called calls d).registry.validator? (.str name)
      = (calls.reverse.findSome? (·.puts? name)).or (d.registry.validator? (.str name))
  | [], d => rfl
  | c :: calls, d => by
    have rest := validator?_called name calls (after c.onDraft.run d)
    rw [validator?_of_call, ← Option.or_assoc] at rest
    rw [List.reverse_cons, List.findSome?_append, List.findSome?_singleton]
    exact rest

end Draft

/-! ### Answers -/

theorem Registry.rule_of_proper (r : Registry) {w : RuleCall} (proper : w.IsProper) : r.rule w =
    if (r.validator? w.validator).isSome then .ok w.rule else .error (.unknownKey w.validator) := by
  have usual : w.options.others.keys.find? (· ≠ "message") = .none :=
    List.find?_eq_none.mpr fun name mem => by simp [proper.options name mem]
  rw [Registry.rule, usual, Registry.has, Registry.checkName, proper.name]
  cases r.validator? w.validator <;> rfl

namespace Draft

/-- Whether a call for a rule is accepted is settled by whether its validator is there. -/
theorem addRule_of_proper {w : RuleCall} (proper : w.IsProper) (d : Draft) : (addRule w).run d =
    if (d.registry.validator? w.validator).isSome then .ok w.rule (d.withRules d.scopes [w.rule])
    else .error (.unknownKey w.validator) d := by
  rw [addRule_run, Registry.rule_of_proper _ proper]
  cases (d.registry.validator? w.validator).isSome <;> rfl

end Draft

/-! ## The errors of a record -/

/-- What is found about a rule when a record is asked for its errors. -/
inductive Finding where
  /-- The condition does not hold. -/
  | passedOver
  | satisfied
  | failed (error : Value)

namespace Finding

/-- What is reported of a rule: its own message if that is any, and else what its validator has
answered. -/
def message? (rule : Rule) : Finding → Option Value
  | failed error => .some (if rule.message.truthy then rule.message else error)
  | _ => .none

def reported (found : List (Rule × Finding)) : List Value :=
  found.filterMap fun p => p.2.message? p.1

theorem reported_cons (rule : Rule) (finding : Finding) (found : List (Rule × Finding)) :
    reported ((rule, finding) :: found) = (finding.message? rule).toList ++ reported found := by
  rw [reported, List.filterMap_cons]
  cases finding.message? rule <;> rfl

end Finding

open Finding (reported reported_cons)

namespace Engine

/-- How something is found about a rule: its condition is asked, and the validator in force is
called where that holds, and nowhere else. -/
inductive Judged (e : Engine) (event : Value) (rule : Rule) : Finding → Live → Live → Prop where
  | passedOver {l l' : Live} (condition : (e.holds event rule.condition).run l = .ok false l') :
    Judged e event rule .passedOver l l'
  | satisfied {l m l' : Live} {v : Validator}
    (condition : (e.holds event rule.condition).run l = .ok true m)
    (inForce : e.machine.registry.validator? rule.validator = .some v)
    (called : (e.validate rule.args v).run m = .ok .null l') :
    Judged e event rule .satisfied l l'
  | failed {l m l' : Live} {v : Validator} {error : Value}
    (condition : (e.holds event rule.condition).run l = .ok true m)
    (inForce : e.machine.registry.validator? rule.validator = .some v)
    (called : (e.validate rule.args v).run m = .ok error l') (given : error.isNull = false) :
    Judged e event rule (.failed error) l l'

/-- What is found about some rules, one after the other. -/
inductive Judges (e : Engine) (event : Value) : List (Rule × Finding) → Live → Live → Prop where
  | nil (l : Live) : Judges e event [] l l
  | cons {rule : Rule} {finding : Finding} {found : List (Rule × Finding)} {l m l' : Live}
    (first : e.Judged event rule finding l m) (rest : Judges e event found m l') :
    Judges e event ((rule, finding) :: found) l l'

/-- How a rule stops a run: its condition does, or the validator in force. -/
inductive Stumbles (e : Engine) (event : Value) (rule : Rule) (l : Live) (stop : Stop) (l' : Live) :
    Prop where
  | condition (asked : (e.holds event rule.condition).run l = .error stop l')
  | validator {m : Live} {v : Validator}
    (condition : (e.holds event rule.condition).run l = .ok true m)
    (inForce : e.machine.registry.validator? rule.validator = .some v)
    (called : (e.validate rule.args v).run m = .error stop l')

variable {e : Engine} {event : Value} {rule : Rule} {l l' : Live}

/-- The messages of a rule whose condition holds. -/
def verdict (e : Engine) (rule : Rule) : Run (List Value) :=
  match e.machine.registry.validator? rule.validator with
  | .none => Run.fail (.unknownKey rule.validator)
  | .some validator => do
    let error ← e.validate rule.args validator
    return if error.isNull then [] else [if rule.message.truthy then rule.message else error]

theorem ruleErrors_eq (e : Engine) (event : Value) (rule : Rule) : e.ruleErrors event rule = (do
    if ← e.holds event rule.condition then e.verdict rule else return []) := rfl

theorem ruleErrors_eq_ok {messages : List Value} :
    (e.ruleErrors event rule).run l = .ok messages l' ↔
      ∃ finding, e.Judged event rule finding l l' ∧ messages = (finding.message? rule).toList := by
  rw [ruleErrors_eq, Run.run_bind_eq_ok]
  constructor
  · rintro ⟨applies, m, condition, h⟩
    cases applies with
    | false =>
      cases h
      exact ⟨.passedOver, .passedOver condition, rfl⟩
    | true =>
      rw [if_pos rfl, verdict] at h
      cases inForce : e.machine.registry.validator? rule.validator with
      | none =>
        rw [inForce] at h
        cases h
      | some v =>
        rw [inForce] at h
        obtain ⟨error, n, called, h⟩ := Run.run_bind_eq_ok.mp h
        cases given : error.isNull with
        | true =>
          cases Value.eq_null_of_isNull given
          cases h
          exact ⟨.satisfied, .satisfied condition inForce called, rfl⟩
        | false =>
          rw [given] at h
          cases h
          exact ⟨.failed error, .failed condition inForce called given, rfl⟩
  · rintro ⟨finding, judged, rfl⟩
    cases judged with
    | passedOver condition => exact ⟨_, _, condition, rfl⟩
    | satisfied condition inForce called =>
      refine ⟨_, _, condition, ?_⟩
      rw [if_pos rfl, verdict, inForce]
      exact Run.run_bind_ok called _
    | failed condition inForce called given =>
      refine ⟨_, _, condition, ?_⟩
      rw [if_pos rfl, verdict, inForce]
      refine (Run.run_bind_ok called _).trans ?_
      rw [given]
      rfl

theorem ruleErrors_eq_error {stop : Stop}
    (known : (e.machine.registry.validator? rule.validator).isSome = true) :
    (e.ruleErrors event rule).run l = .error stop l' ↔ e.Stumbles event rule l stop l' := by
  obtain ⟨v, inForce⟩ := Option.isSome_iff_exists.mp known
  rw [ruleErrors_eq, Run.run_bind_eq_error]
  constructor
  · rintro (asked | ⟨applies, m, condition, h⟩)
    · exact .condition asked
    · cases applies with
      | false => cases h
      | true =>
        rw [if_pos rfl, verdict, inForce] at h
        obtain called | ⟨error, n, -, h⟩ := Run.run_bind_eq_error.mp h
        · exact .validator condition inForce called
        · cases h
  · rintro (asked | ⟨condition, inForce, called⟩)
    · exact .inl asked
    · refine .inr ⟨true, _, condition, ?_⟩
      rw [if_pos rfl, verdict, inForce]
      exact Run.run_bind_error called _

theorem errorsOf_eq_ok {rules : List Rule} {messages : List Value} :
    (e.errorsOf event rules).run l = .ok messages l' ↔
      ∃ found, found.map (·.1) = rules ∧ e.Judges event found l l' ∧ messages = reported found := by
  induction rules generalizing l messages with
  | nil =>
    constructor
    · intro h
      cases h
      exact ⟨[], rfl, .nil _, rfl⟩
    · rintro ⟨found, none, judges, rfl⟩
      cases List.map_eq_nil_iff.mp none
      cases judges
      rfl
  | cons rule rules ih =>
    rw [errorsOf, Run.run_bind_eq_ok]
    constructor
    · rintro ⟨first, m, asked, h⟩
      obtain ⟨rest, n, others, h⟩ := Run.run_bind_eq_ok.mp h
      cases h
      obtain ⟨finding, judged, rfl⟩ := ruleErrors_eq_ok.mp asked
      obtain ⟨found, rfl, judges, rfl⟩ := ih.mp others
      exact ⟨(rule, finding) :: found, rfl, .cons judged judges, (reported_cons ..).symm⟩
    · rintro ⟨found, all, judges, rfl⟩
      cases judges with
      | nil => cases all
      | cons judged judges =>
        cases all
        have others := ih.mpr ⟨_, rfl, judges, rfl⟩
        refine ⟨_, _, ruleErrors_eq_ok.mpr ⟨_, judged, rfl⟩, ?_⟩
        rw [Run.run_bind_ok others, reported_cons]
        rfl

/-- Rules that all have a validator are asked up to the first that stops. -/
theorem errorsOf_eq_error {rules : List Rule} {stop : Stop}
    (known : ∀ rule ∈ rules, (e.machine.registry.validator? rule.validator).isSome = true) :
    (e.errorsOf event rules).run l = .error stop l' ↔
      ∃ found rule rest m, rules = found.map (·.1) ++ rule :: rest
        ∧ e.Judges event found l m ∧ e.Stumbles event rule m stop l' := by
  induction rules generalizing l with
  | nil =>
    constructor
    · rintro ⟨⟩
    · rintro ⟨found, rule, rest, m, none, -⟩
      cases (List.append_eq_nil_iff.mp none.symm).2
  | cons rule rules ih =>
    have first {m : Live} :
        (e.ruleErrors event rule).run m = .error stop l' ↔ e.Stumbles event rule m stop l' :=
      ruleErrors_eq_error (known rule (.head _))
    have others {m : Live} := ih (l := m) fun r mem => known r (.tail _ mem)
    rw [errorsOf, Run.run_bind_eq_error]
    constructor
    · rintro (stops | ⟨_, m, asked, h⟩)
      · exact ⟨[], rule, rules, l, rfl, .nil l, first.mp stops⟩
      · obtain ⟨finding, judged, rfl⟩ := ruleErrors_eq_ok.mp asked
        obtain stops | ⟨_, n, -, h⟩ := Run.run_bind_eq_error.mp h
        · obtain ⟨found, r, rest, n, rfl, judges, stumbles⟩ := others.mp stops
          exact ⟨(rule, finding) :: found, r, rest, n, rfl, .cons judged judges, stumbles⟩
        · cases h
    · rintro ⟨found, r, rest, m, split, judges, stumbles⟩
      cases judges with
      | nil =>
        cases split
        exact .inl (first.mpr stumbles)
      | cons judged judges =>
        cases split
        have stops := others.mpr ⟨_, _, _, _, rfl, judges, stumbles⟩
        exact .inr ⟨_, _, ruleErrors_eq_ok.mpr ⟨_, judged, rfl⟩, Run.run_bind_error stops _⟩

/-! ### Rules that are passed over -/

/-- The same engine with another registry. -/
def withRegistry (e : Engine) (r : Registry) : Engine :=
  { e with machine := { e.machine with registry := r } }

/-- What is found does not depend on the validators of the rules that are passed over. -/
theorem Judges.withRegistry {r : Registry} {found : List (Rule × Finding)}
    (judges : e.Judges event found l l')
    (same : ∀ p ∈ found, p.2 ≠ .passedOver →
      r.validator? p.1.validator = e.machine.registry.validator? p.1.validator) :
    (e.withRegistry r).Judges event found l l' := by
  have host : (e.withRegistry r).host = e.host := rfl
  induction judges with
  | nil l => exact .nil l
  | cons judged _ ih =>
    refine .cons ?_ (ih fun p mem => same p (.tail _ mem))
    have there := same _ (.head _)
    cases judged with
    | passedOver condition =>
      exact .passedOver (by rwa [holds_of_host host])
    | satisfied condition inForce called =>
      exact .satisfied (by rwa [holds_of_host host]) ((there nofun).trans inForce)
        (by rwa [validate_of_host host])
    | failed condition inForce called given =>
      exact .failed (by rwa [holds_of_host host]) ((there nofun).trans inForce)
        (by rwa [validate_of_host host]) given

end Engine

/-! ## What a registry reports -/

/-- After any calls, a registry lists the rules that were accepted, in order, and each has a
validator; a rule whose validator is not there is refused and changes nothing. Asked for the errors
of a record, it finds of each rule in turn that it is passed over, satisfied or failed, and reports
those that failed; it stops only where a condition or a validator does, and the validators of the
rules that it passes over do not matter. -/
theorem Registry.reports_of_calls (config : MachineConfig) (calls : List Registry.Call) :
    let d := Draft.called calls { config }
    d.registry.rules = Registry.Call.answers calls { config }
    ∧ d.registry.IsKnown
    ∧ (∀ name, d.registry.validator? (.str name)
        = (calls.reverse.findSome? (·.puts? name)).or (Registry.standard.validator? (.str name)))
    ∧ (∀ w : RuleCall, w.IsProper → ∀ scope : Scope,
        if (d.registry.validator? w.validator).isSome then
          (Draft.addRule w).run d = .ok w.rule (d.withRules d.scopes [w.rule])
          ∧ (Draft.addRuleWithin scope w).run d
            = .ok (w.rule.within scope) (d.withRules d.scopes [w.rule.within scope])
        else
          (Draft.addRule w).run d = .error (.unknownKey w.validator) d
          ∧ (Draft.addRuleWithin scope w).run d = .error (.unknownKey w.validator) d)
    ∧ (∀ e : Engine, e.machine.registry = d.registry → ∀ event l,
        (∀ messages l', (e.errors event).run l = .ok messages l' ↔
          ∃ found, found.map (·.1) = d.registry.rules ∧ e.Judges event found l l'
            ∧ messages = reported found)
        ∧ (∀ stop l', (e.errors event).run l = .error stop l' ↔
          ∃ found rule rest m, d.registry.rules = found.map (·.1) ++ rule :: rest
            ∧ e.Judges event found l m ∧ e.Stumbles event rule m stop l')
        ∧ ((∀ rule ∈ d.registry.rules, ∀ m stop l', ¬ e.Stumbles event rule m stop l') →
          ∃ messages l', (e.errors event).run l = .ok messages l')
        ∧ ∀ found l' r, e.Judges event found l l' → found.map (·.1) = d.registry.rules →
          r.rules = d.registry.rules →
          (∀ p ∈ found, p.2 ≠ .passedOver →
            r.validator? p.1.validator = d.registry.validator? p.1.validator) →
          ((e.withRegistry r).errors event).run l = (e.errors event).run l)
    ∧ ∀ (w : Workspace) (of : Workspace.Source) (record : String) (event : Value),
      (∃ messages w',
        (Command.errors of record event).run.run w = .ok (.value (.list messages)) w'
        ∧ (Command.isValid of record event).run.run w = .ok (.ofBool messages.isEmpty) w')
      ∨ ∃ stop w', (Command.errors of record event).run.run w = .error stop w'
        ∧ (Command.isValid of record event).run.run w = .error stop w' := by
  intro d
  have listed : d.registry.rules = Registry.Call.answers calls { config } :=
    Draft.rules_called calls { config }
  have known : d.registry.IsKnown := Draft.known_called config calls
  refine ⟨listed, known, fun name => Draft.validator?_called name calls { config }, ?_, ?_,
    Command.isValid_errors⟩
  · intro w proper scope
    have proper' : (w.within scope).IsProper := ⟨proper.options, proper.name⟩
    have added := Draft.addRule_of_proper proper d
    have added' : (Draft.addRuleWithin scope w).run d = _ := Draft.addRule_of_proper proper' d
    rw [added, added']
    by_cases there : (d.registry.validator? w.validator).isSome = true
    · rw [if_pos there]
      exact ⟨if_pos there, if_pos there⟩
    · rw [if_neg there]
      exact ⟨if_neg there, if_neg there⟩
  · intro e same event l
    rw [← same] at known ⊢
    refine ⟨fun messages l' => Engine.errorsOf_eq_ok, fun stop l' => Engine.errorsOf_eq_error known,
      fun smooth => ?_, fun found l' r judges all rules passedOver => ?_⟩
    · cases asked : (e.errors event).run l with
      | ok messages l' => exact ⟨messages, l', rfl⟩
      | error stop l' =>
        obtain ⟨found, rule, rest, m, split, -, stumbles⟩ :=
          (Engine.errorsOf_eq_error known).mp asked
        have listed : rule ∈ e.machine.registry.rules :=
          split ▸ List.mem_append_right _ (.head rest)
        exact absurd stumbles (smooth rule listed m stop l')
    · have answered := Engine.errorsOf_eq_ok.mpr ⟨found, all, judges, rfl⟩
      have other := Engine.errorsOf_eq_ok.mpr
        ⟨found, all.trans rules.symm, judges.withRegistry passedOver, rfl⟩
      exact other.trans answered.symm

/-- Calls of which the first is refused and the last replaces what a rule has been added for. -/
def Registry.Call.revised : List Registry.Call := [
  .add { validator := "stern" },
  .define "stern" .absence,
  .add { validator := "stern", options := { others := (∅ : Table Value).set "message" "" } },
  .addWithin { state := "b" } { validator := "presence", args := ["subject"] },
  .addWithin { state := "a" } {
    validator := "presence", args := ["subject"]
    options := { others := (∅ : Table Value).set "message" "needs a subject" } },
  .define "stern" (.custom .stern)]

namespace Engine

/-- What the validator that was defined last says is reported where the message of its rule is
empty, and the rule of another state is passed over. -/
theorem reports_of_calls_revised :
    let config : MachineConfig := { initial := "a" }
    let d := Draft.called Registry.Call.revised { config }
    let e : Engine := { picky [] with machine := { config, registry := d.registry } }
    d.registry.rules.map (·.validator) = ["stern", "presence", "presence"]
      ∧ d.registry.validator? "stern" = .some (.custom .stern)
      ∧ (Draft.addRule { validator := "strict" }).run d = .error (.unknownKey "strict") d
      ∧ (e.errors "go").run phased
        = .ok ["never", "needs a subject"] { phased with log := [.note "asked"] } := by
  intro config d e
  obtain ⟨listed, -, inForce, adds, reports, -⟩ :=
    Registry.reports_of_calls config Registry.Call.revised
  have strict : ({ validator := "strict" } : RuleCall).IsProper := ⟨nofun, rfl⟩
  refine ⟨congrArg (List.map (·.validator)) listed, inForce "stern", (adds _ strict default).1, ?_⟩
  let asked : Live := { phased with log := [.note "asked"] }
  have stands : asked.Stands Class.plainOnly 3 0 [] := ⟨rfl, rfl, rfl, nofun⟩
  have plain := stands.plain Class.plainOnly_isSimple
  have lasting : phased.hasFarewells = false := by decide
  have stern : (e.validate [] (.custom .stern)).run phased = .ok "never" asked :=
    Callback.stern_logs lasting [] []
  have inB : (e.covered "go" { state := "b" }).run asked = .ok false asked :=
    covered_run_of_plain plain rfl (plain.names "state" (by decide)) (.str "a") rfl rfl
  have inA : (e.covered "go" { state := "a" }).run asked = .ok true asked :=
    covered_run_of_plain plain rfl (plain.names "state" (by decide)) (.str "a") rfl rfl
  have missing : (e.attrsWith true ["subject"]).run asked = .ok ["subject"] asked := by
    have read := Host.attr_run_ordinary (h := e.host) plain (plain.names "subject" (by decide))
    have blank : (e.host.isBlank .null).run asked = .ok true asked :=
      Host.isBlank_run rfl rfl asked.settle_null
    rw [attrsWith, Run.run_bind_ok read]
    exact (Run.run_bind_ok blank _).trans rfl
  have unnamed : (e.validate ["subject"] .presence).run asked
      = .ok "subject can't be blank" asked := (Run.run_bind_ok missing _).trans rfl
  let found : List (Rule × Finding) := [
    (⟨"stern", [], .always, ""⟩, .failed "never"),
    (⟨"presence", ["subject"], .scoped { state := "b" } .always, .null⟩, .passedOver),
    (⟨"presence", ["subject"], .scoped { state := "a" } .always, "needs a subject"⟩,
      .failed "subject can't be blank")]
  have judges : e.Judges "go" found phased asked :=
    .cons (.failed rfl rfl stern rfl) (.cons (.passedOver (Run.andAlso_of_false inB))
      (.cons (.failed (Run.andAlso_of_true inA) rfl unnamed rfl) (.nil asked)))
  exact ((reports e rfl "go" phased).1 _ _).mpr ⟨found, rfl, judges, rfl⟩

end Engine

end Lifecycle
