/-
Where the rules of a machine come from and where they apply.

A rule is asked for by a call on the registry, or in the validation block of a
state or of a transition, and applies everywhere, in that state, or while that
event leaves that state (`Reach`). What a call asks for can be read off the call
and the draft that it is made on (`Draft.Call.asks`). The rules of a machine are
what its calls asked for, in this order and each within its reach, but for what
was refused (`Draft.rules_of_machine?`).
-/
import Lifecycle.Proofs.Aborted
import Lifecycle.Proofs.Declared

namespace Lifecycle

/-! ## Reaches -/

/-- Where a rule applies: everywhere, in a state, or while an event leaves a state. -/
inductive Reach where
  | everywhere
  | state (name : String)
  | edge (source event : String)
  deriving Repr, DecidableEq, Inhabited

namespace Reach

/-- The scope that confines a rule to its reach, if it is confined at all. -/
def scope? (column : Value) : Reach → Option Scope
  | everywhere => .none
  | state name => .some { state := .str name, column }
  | edge source event => .some ⟨.str source, .str event, column⟩

/-- Whether a rule applies while an event is fired in a state. -/
def covers (s event : String) : Reach → Bool
  | everywhere => true
  | state name => s == name
  | edge source name => s == source && event == name

end Reach

/-- A rule that is confined to a scope. -/
def Rule.within (r : Rule) (s : Scope) : Rule := { r with condition := .scoped s r.condition }

/-- A rule as it was meant, and where it applies. -/
structure PlacedRule where
  reach : Reach
  own : Rule
  deriving Repr, Inhabited

/-- The rule that stands in the registry of a machine with some column. -/
def PlacedRule.rule (column : Value) (p : PlacedRule) : Rule :=
  match p.reach.scope? column with
  | .none => p.own
  | .some s => p.own.within s

/-- What a call asks for: a rule, and where it is to apply. -/
structure Ask where
  reach : Reach
  wanted : RuleCall
  deriving Inhabited

/-- The request that the registry is given. -/
def Ask.call (column : Value) (a : Ask) : RuleCall :=
  match a.reach.scope? column with
  | .none => a.wanted
  | .some s => a.wanted.within s

namespace Registry

/-- The rules that are made of some requests, up to the first that is refused. -/
def placed (r : Registry) : List Ask → List PlacedRule
  | [] => []
  | a :: as =>
    match r.rule a.wanted with
    | .ok own => ⟨a.reach, own⟩ :: r.placed as
    | .error _ => []

/-- To confine a rule changes neither whether it is accepted nor what it is besides. -/
theorem rule_within (r : Registry) (w : RuleCall) (s : Scope) :
    r.rule (w.within s) = (r.rule w).map (·.within s) := by
  simp only [rule, RuleCall.within, RuleOptions.within_others]
  split
  · rfl
  · cases r.has w.validator with
    | error f => rfl
    | ok known => cases known <;> rfl

theorem rule_call (r : Registry) (column : Value) (a : Ask) :
    r.rule (a.call column) = (r.rule a.wanted).map fun own =>
      (⟨a.reach, own⟩ : PlacedRule).rule column := by
  rw [Ask.call]
  simp only [PlacedRule.rule]
  cases a.reach.scope? column with
  | none => cases r.rule a.wanted <;> rfl
  | some s => exact rule_within r a.wanted s

theorem accepted_calls (r : Registry) (column : Value) (as : List Ask) :
    r.accepted (as.map (·.call column)) = (r.placed as).map (·.rule column) := by
  induction as with
  | nil => rfl
  | cons a as ih =>
    rw [List.map_cons, accepted, placed, rule_call]
    cases r.rule a.wanted with
    | error f => rfl
    | ok own => exact congrArg _ ih

end Registry

/-! ## What calls ask for -/

namespace Draft

open Declare (after)

/-- What a validation block asks for within a reach. -/
def asksWithin (reach : Reach) (validate : Option (List RuleCall)) : List Ask :=
  (validate.getD []).map (⟨reach, ·⟩)

/-- What a call asks for, if it comes to that. A scope that was handed out counts as a part of the
rule that is asked for with it. -/
def Call.asks (d : Draft) : Call → List Ask
  | addRule wanted => [⟨.everywhere, wanted⟩]
  | addRuleWithin scope wanted => [⟨.everywhere, wanted.within scope⟩]
  | declareState name _ after _ validate =>
    match d.built, name, actions after with
    | .none, .ok name, .ok _ =>
      if d.declares name then [] else asksWithin (.state name) validate
    | _, _, _ => []
  | addEdges place edges =>
    match d.blocks[place]? with
    | .none => []
    | .some b =>
      match b.event, edges.sources with
      | .none, .ok from_ =>
        (edges.texts from_).flatMap fun source =>
          asksWithin (.edge source b.name) edges.validate
      | _, _ => []
  | _ => []

/-- The rules that some calls make on a draft, in order. -/
def placed : List Call → Draft → List PlacedRule
  | [], _ => []
  | c :: calls, d => d.registry.placed (c.asks d) ++ placed calls (after c.run d)

/-! ### Calls that ask for nothing -/

/-- A declaration leaves the rules of a draft as they are. -/
def SparesRules {α : Type} (x : Declare α) (d : Draft) : Prop :=
  (after x d).registry.rules = d.registry.rules

namespace SparesRules

variable {α β : Type} {d : Draft}

theorem pure (a : α) : SparesRules (pure a : Declare α) d := rfl

theorem throw (f : Fault) : SparesRules (throw f : Declare α) d := rfl

theorem bind {x : Declare α} {f : α → Declare β} (hx : SparesRules x d)
    (hf : ∀ a d', x.run d = .ok a d' → SparesRules (f a) d') : SparesRules (x >>= f) d := by
  cases h : x.run d with
  | ok a d' =>
    rw [SparesRules, Declare.after_of_ok h] at hx
    rw [SparesRules, Declare.after_bind_ok h, hf a d' h, hx]
  | error e d' =>
    rw [SparesRules, Declare.after_of_error h] at hx
    rw [SparesRules, Declare.after_bind_error h, hx]

theorem get_bind {f : Draft → Declare β} (hf : SparesRules (f d) d) :
    SparesRules (get >>= f) d := by
  rw [SparesRules, Declare.after_bind_ok (Declare.run_get d)]
  exact hf

/-- What only asks before the rest may be passed over. -/
theorem ask_bind {x : Declare α} {f : α → Declare β} (asks : after x d = d)
    (hf : ∀ a, SparesRules (f a) d) : SparesRules (x >>= f) d := by
  refine bind (by rw [SparesRules, asks]) fun a d' h => ?_
  rw [Declare.after_of_ok h] at asks
  exact asks ▸ hf a

end SparesRules

section Spares

variable {d : Draft}

theorem define_sparesRules (name : Value) (v : Validator) :
    SparesRules (Draft.define name v) d := by
  have run := define_run name v d
  cases hashed : name.unhashable? with
  | none =>
    rw [hashed] at run
    rw [SparesRules, Declare.after_of_ok run]
  | some u =>
    rw [hashed] at run
    rw [SparesRules, Declare.after_of_error run]

theorem observe_sparesRules (o : Callback) : SparesRules (observe o) d :=
  .ask_bind after_checkOpen fun _ => rfl

theorem openEvent_sparesRules (name : Wording) (options : Table Value) :
    SparesRules (openEvent name options) d := by
  refine .ask_bind (after_liftFault _) fun _ => .ask_bind after_checkOpen fun _ => ?_
  refine .ask_bind (after_liftFault _) fun _ => .get_bind ?_
  split
  · exact .throw _
  · exact .get_bind rfl

theorem enterBlock_sparesRules (i : Nat) : SparesRules (enterBlock i) d :=
  .ask_bind (after_block i) fun b => by rw [SparesRules, after_checkUnfrozen]

theorem leaveBlock_sparesRules (i : Nat) (failed : Bool) :
    SparesRules (leaveBlock i failed) d := by
  refine .ask_bind (after_block i) fun b => ?_
  cases failed with
  | true => exact .pure ()
  | false =>
    refine .bind rfl fun _ d' _ => .ask_bind after_checkOpen fun _ => .get_bind ?_
    split
    · exact .throw _
    · rfl

theorem build_sparesRules : SparesRules build d := by
  refine .get_bind ?_
  split
  · exact .pure _
  · split
    · exact .throw _
    · rfl

end Spares

/-! ### Calls that ask for rules -/

theorem addRule_rules (w : RuleCall) (d : Draft) :
    (after (addRule w) d).registry.rules = d.registry.rules ++ d.registry.accepted [w] := by
  rw [(addRule_effect w d).1]
  rfl

theorem declareState_rules (name : Wording) (enter after_ exit : Option Callback)
    (validate : Option (List RuleCall)) (d : Draft) :
    (after (declareState name enter after_ exit validate) d).registry.rules = d.registry.rules
      ++ d.registry.accepted (((Call.declareState name enter after_ exit validate).asks d).map
        (·.call d.config.column)) := by
  obtain refused | ⟨s, acts, rfl, isOpen, fresh, listed⟩ := declareState_cases name after_ d
  · obtain ⟨f, fails⟩ := declareState_refused refused enter exit validate
    have nothing : (Call.declareState name enter after_ exit validate).asks d = [] := by
      simp only [Call.asks]
      split
      · next s acts isOpen listed =>
        obtain built | ⟨f, ⟨⟩⟩ | ⟨s', ⟨⟩, declared⟩ | ⟨f, unlisted⟩ := refused
        · rw [isOpen] at built
          cases built
        · exact if_pos declared
        · rw [listed] at unlisted
          cases unlisted
      · rfl
    rw [Declare.after_of_error fails, nothing, List.map_nil, Registry.accepted, List.append_nil]
  · obtain ⟨scopes, left, -⟩ := declareState_effect isOpen fresh listed enter exit validate
    have asked : ((Call.declareState s enter after_ exit validate).asks d).map
        (·.call d.config.column) = (validate.getD []).map
          (·.within { state := .str s, column := d.config.column }) := by
      simp only [Call.asks, isOpen, listed, fresh, Bool.false_eq_true, if_false, asksWithin,
        List.map_map]
      rfl
    rw [left, asked]
    rfl

theorem addEdges_rules (place : Nat) (edges : Edges) (d : Draft) :
    (after (addEdges place edges) d).registry.rules = d.registry.rules
      ++ d.registry.accepted (((Call.addEdges place edges).asks d).map
        (·.call d.config.column)) := by
  rw [Call.asks]
  cases there : d.blocks[place]? with
  | none =>
    have fails : (addEdges place edges).run d = .error (.unbound (toString place)) d :=
      Run.run_bind_error (block_run_none there) _
    rw [Declare.after_of_error fails]
    exact (List.append_nil _).symm
  | some b =>
    cases unfrozen : b.event with
    | some e =>
      have frozen : (checkUnfrozen b).run d = .error (.eventFrozen b.name) d := by
        rw [checkUnfrozen, unfrozen]
        rfl
      have fails : (addEdges place edges).run d = .error (.eventFrozen b.name) d := by
        rw [addEdges, Run.run_bind_ok (block_run there), Run.run_bind_error frozen]
      rw [Declare.after_of_error fails]
      simp only [unfrozen]
      exact (List.append_nil _).symm
    | none =>
      obtain ⟨b', scopes, left, -⟩ := addEdges_effect there unfrozen edges
      rw [left, Edges.rules]
      cases edges.sources with
      | error f => simp only [unfrozen]; rfl
      | ok from_ =>
        have asked : ((edges.texts from_).flatMap fun source =>
            asksWithin (.edge source b.name) edges.validate).map (·.call d.config.column)
              = edges.wanted b.name d.config.column from_ := by
          simp only [List.map_flatMap, asksWithin, List.map_map]
          rfl
        simp only [unfrozen]
        rw [asked]
        rfl

/-- A call adds the rules that it asks for, each within its reach, up to the first that is
refused. -/
theorem rules_after (c : Call) (d : Draft) :
    (after c.run d).registry.rules = d.registry.rules
      ++ (d.registry.placed (c.asks d)).map (·.rule d.config.column) := by
  rw [← Registry.accepted_calls]
  cases c with
  | define name v => exact (define_sparesRules name v).trans (List.append_nil _).symm
  | addRule wanted =>
    rw [Call.run, after_discard]
    exact addRule_rules wanted d
  | addRuleWithin scope wanted =>
    rw [Call.run, after_discard, (addRuleWithin_effect scope wanted d).1]
    rfl
  | declareState name enter after_ exit validate =>
    rw [Call.run, after_discard]
    exact declareState_rules name enter after_ exit validate d
  | observe o => exact (observe_sparesRules o).trans (List.append_nil _).symm
  | openEvent name options =>
    rw [Call.run, after_discard]
    exact (openEvent_sparesRules name options).trans (List.append_nil _).symm
  | enterBlock i => exact (enterBlock_sparesRules i).trans (List.append_nil _).symm
  | addEdges i edges => exact addEdges_rules i edges d
  | leaveBlock i failed => exact (leaveBlock_sparesRules i failed).trans (List.append_nil _).symm
  | build =>
    rw [Call.run, after_discard]
    exact build_sparesRules.trans (List.append_nil _).symm

theorem config_after (c : Call) (d : Draft) : (after c.run d).config = d.config :=
  after_keeps (P := fun d' => d'.config = d.config)
    (fun _ _ change same => by cases change <;> exact same) rfl

theorem rules_afterAll : ∀ (calls : List Call) (d : Draft),
    (afterAll calls d).registry.rules
      = d.registry.rules ++ (placed calls d).map (·.rule d.config.column)
  | [], d => (List.append_nil _).symm
  | c :: calls, d => by
    rw [afterAll_cons, rules_afterAll calls, rules_after, config_after, placed, List.map_append,
      List.append_assoc]

/-- The rules of a machine are those that the calls on its draft asked for. -/
theorem rules_of_machine? {config : Option (Table Value)} {options : Table Value} {d : Draft}
    (begun : start config options = .ok d) {calls : List Call} {m : Machine}
    (made : (afterAll calls d).machine? = .some m) :
    m.registry.rules = (placed calls d).map (·.rule m.config.column) := by
  obtain ⟨definition, built, rfl⟩ := Option.map_eq_some_iff.mp made
  obtain ⟨c, rfl⟩ := start_eq_ok begun
  have config : ∀ definition, (afterAll calls { config := c }).built = .some definition →
      definition.config = c := by
    refine (afterAll_induction (P := fun d => d.config = c ∧ ∀ definition,
      d.built = .some definition → definition.config = c) (fun _ _ d d' change kept => ?_) ?_).2
    · obtain ⟨same, built⟩ := kept
      cases change with
      | built isOpen sound => exact ⟨same, fun definition h => Option.some.inj h ▸ same⟩
      | _ => exact ⟨same, built⟩
    · exact ⟨rfl, nofun⟩
  change (afterAll calls { config := c }).registry.rules
    = (placed calls { config := c }).map (·.rule definition.config.column)
  rw [rules_afterAll, config definition built]
  rfl

end Draft

end Lifecycle
