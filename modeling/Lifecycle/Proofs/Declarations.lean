/-
Declarations one after the other: what the calls on a draft and on its blocks
change in it.

`Draft.Call` is any such call, and `Draft.afterAll` what is left of a draft after
some calls, of which any may have failed. All that a call does to a draft it does
by small changes, each where some condition holds (`Draft.Call.Changes`,
`Draft.Call.changes`). What such a change keeps is kept by every sequence of
calls (`Draft.afterAll_induction`).
-/
import Lifecycle.Draft
import Lifecycle.Proofs.Ends
import Mathlib.Logic.Relation

namespace Lifecycle

namespace Declare

variable {α β : Type}

/-- What a declaration leaves, whether it answers or fails. -/
def after (x : Declare α) (d : Draft) : Draft :=
  match x.run d with
  | .ok _ d' | .error _ d' => d'

theorem after_of_ok {x : Declare α} {d d' : Draft} {a : α} (h : x.run d = .ok a d') :
    after x d = d' := by
  rw [after, h]

theorem after_of_error {x : Declare α} {d d' : Draft} {f : Fault} (h : x.run d = .error f d') :
    after x d = d' := by
  rw [after, h]

theorem after_bind_ok {x : Declare α} {d d' : Draft} {a : α} (h : x.run d = .ok a d')
    (f : α → Declare β) : after (x >>= f) d = after (f a) d' := by
  simp only [after, Run.run_bind_ok h]

theorem after_bind_error {x : Declare α} {d d' : Draft} {e : Fault} (h : x.run d = .error e d')
    (f : α → Declare β) : after (x >>= f) d = d' := by
  rw [after, Run.run_bind_error h]

theorem run_get (d : Draft) : (get : Declare Draft).run d = .ok d d := rfl

/-- Whether a declaration answers. -/
def isAnswered (x : Declare α) (d : Draft) : Bool :=
  match x.run d with
  | .ok _ _ => true
  | .error _ _ => false

theorem run_of_isAnswered {x : Declare α} {d : Draft} (h : isAnswered x d = true) :
    ∃ a, x.run d = .ok a (after x d) := by
  cases hx : x.run d with
  | ok a d' => exact ⟨a, by rw [after_of_ok hx]⟩
  | error e d' =>
    rw [isAnswered, hx] at h
    cases h

theorem after_seq (x : Declare α) (y : Declare β) (d : Draft) :
    after (x >>= fun _ => y) d = if isAnswered x d then after y (after x d) else after x d := by
  cases h : x.run d with
  | ok a d' =>
    rw [after_bind_ok h, after_of_ok h, isAnswered, h]
    rfl
  | error e d' =>
    rw [after_bind_error h, after_of_error h, isAnswered, h]
    rfl

theorem isAnswered_seq (x : Declare α) (y : Declare β) (d : Draft) :
    isAnswered (x >>= fun _ => y) d = (isAnswered x d && isAnswered y (after x d)) := by
  cases h : x.run d with
  | ok a d' =>
    rw [after_of_ok h, isAnswered, isAnswered, Run.run_bind_ok h, h]
    rfl
  | error e d' =>
    rw [isAnswered, isAnswered, Run.run_bind_error h, h]
    rfl

end Declare

/-- What becomes of a block that is left. -/
def EventBlock.toEvent (b : EventBlock) : Event := ⟨b.name, b.transitions, b.options⟩

def EventBlock.frozen (b : EventBlock) : EventBlock := { b with event := .some b.toEvent }

/-- Both ends of a transition are texts. -/
def Transition.IsNamed (t : Transition) : Prop :=
  ∃ source target, t.source = .str source ∧ t.target = .str target

namespace Draft

open Declare (after)

/-! ## Calls -/

/-- A call on a draft, or on one of its blocks, which is known by its place. -/
inductive Call where
  | define (name : Value) (validator : Validator)
  | addRule (wanted : RuleCall)
  | addRuleWithin (scope : Scope) (wanted : RuleCall)
  | declareState (name : Wording) (enter after exit : Option Callback)
    (validate : Option (List RuleCall))
  | observe (observer : Callback)
  | openEvent (name : Wording) (options : Table Value)
  | enterBlock (place : Nat)
  | addEdges (place : Nat) (edges : Edges)
  | leaveBlock (place : Nat) (failed : Bool)
  | build
  deriving Inhabited

namespace Call

/-- A call, its answer aside. -/
def run : Call → Declare Unit
  | define name validator => Draft.define name validator
  | addRule wanted => discard (Draft.addRule wanted)
  | addRuleWithin scope wanted => discard (Draft.addRuleWithin scope wanted)
  | declareState name enter after exit validate =>
    discard (Draft.declareState name enter after exit validate)
  | observe observer => Draft.observe observer
  | openEvent name options => discard (Draft.openEvent name options)
  | enterBlock place => Draft.enterBlock place
  | addEdges place edges => Draft.addEdges place edges
  | leaveBlock place failed => Draft.leaveBlock place failed
  | build => discard Draft.build

end Call

/-- A draft after some calls, each made whatever became of those before it. -/
def afterAll (calls : List Call) (d : Draft) : Draft := calls.foldl (fun d c => after c.run d) d

@[simp] theorem afterAll_nil (d : Draft) : afterAll [] d = d := rfl

@[simp] theorem afterAll_cons (c : Call) (calls : List Call) (d : Draft) :
    afterAll (c :: calls) d = afterAll calls (after c.run d) := rfl

theorem afterAll_append (calls more : List Call) (d : Draft) :
    afterAll (calls ++ more) d = afterAll more (afterAll calls d) := List.foldl_append

/-- One thing that a call changes in a draft. -/
inductive Call.Changes (c : Call) (d : Draft) : Draft → Prop where
  | validator (name : Value) (v : Validator) :
    Changes c d { d with registry :=
      { d.registry with validators := Registry.setValidator name v d.registry.validators } }
  | rule (r : Rule) (known : (d.registry.validator? r.validator).isSome = true) :
    Changes c d { d with registry := { d.registry with rules := d.registry.rules ++ [r] } }
  | scope (s : Scope) : Changes c d { d with scopes := d.scopes ++ [s] }
  | state (s : State) (isOpen : d.built = .none) (fresh : d.declares s.name = false) :
    Changes c d { d with states := d.states ++ [s] }
  | observer (o : Callback) (isOpen : d.built = .none) :
    Changes c d { d with observers := d.observers ++ [o] }
  | opened (name : String) (options : Table Value) (isOpen : d.built = .none)
    (fresh : d.event? name = .none) :
    Changes c d { d with blocks := d.blocks ++ [{ name, options }] }
  | edge {place : Nat} {b : EventBlock} (t : Transition) (there : d.blocks[place]? = .some b)
    (unfrozen : b.event = .none) (named : t.IsNamed) :
    Changes c d { d with
      blocks := d.blocks.set place { b with transitions := b.transitions ++ [t] } }
  /-- A block is frozen whose event is refused. -/
  | refused {place : Nat} {b : EventBlock} (left : c = .leaveBlock place false)
    (there : d.blocks[place]? = .some b)
    (taken : d.built.isSome = true ∨ (d.event? b.name).isSome = true) :
    Changes c d { d with blocks := d.blocks.set place b.frozen }
  | registered {place : Nat} {b : EventBlock} (left : c = .leaveBlock place false)
    (there : d.blocks[place]? = .some b) (isOpen : d.built = .none)
    (fresh : d.event? b.name = .none) :
    Changes c d { d with
      blocks := d.blocks.set place b.frozen, events := d.events ++ [b.toEvent] }
  | built (isOpen : d.built = .none) (sound : firstFault? d.toDefinition = .none) :
    Changes c d { d with built := .some d.toDefinition }

/-! ## What calls change -/

/-- All that a declaration does to a draft it does by such changes. -/
def Makes {α : Type} (c : Call) (x : Declare α) (d : Draft) : Prop :=
  Relation.ReflTransGen c.Changes d (after x d)

namespace Makes

variable {c : Call} {d : Draft} {α β : Type}

theorem pure (a : α) : Makes c (pure a : Declare α) d := .refl

theorem throw (f : Fault) : Makes c (throw f : Declare α) d := .refl

theorem bind {x : Declare α} {f : α → Declare β} (hx : Makes c x d)
    (hf : ∀ a d', x.run d = .ok a d' → Makes c (f a) d') : Makes c (x >>= f) d := by
  cases h : x.run d with
  | ok a d' =>
    rw [Makes, Declare.after_of_ok h] at hx
    rw [Makes, Declare.after_bind_ok h]
    exact hx.trans (hf a d' h)
  | error e d' =>
    rw [Makes, Declare.after_of_error h] at hx
    rw [Makes, Declare.after_bind_error h]
    exact hx

theorem get_bind {f : Draft → Declare β} (hf : Makes c (f d) d) : Makes c (get >>= f) d := by
  rw [Makes, Declare.after_bind_ok (Declare.run_get d)]
  exact hf

theorem discard {x : Declare α} (h : Makes c x d) : Makes c (discard x) d :=
  h.bind fun _ _ _ => pure ()

theorem liftFault (r : Except Fault α) : Makes c (liftFault r) d := by
  cases r with
  | ok a => exact pure a
  | error f => exact throw f

end Makes

theorem liftFault_eq_ok {α : Type} {r : Except Fault α} {d d' : Draft} {a : α}
    (h : (liftFault r).run d = .ok a d') : r = .ok a ∧ d' = d := by
  cases r with
  | ok b =>
    cases h
    exact ⟨rfl, rfl⟩
  | error f => cases h

theorem checkOpen_eq_ok {d d' : Draft} (h : checkOpen.run d = .ok () d') :
    d' = d ∧ d.built = .none := by
  rw [checkOpen, Run.run_bind_ok (Declare.run_get d)] at h
  cases hb : d.built with
  | none =>
    rw [hb] at h
    cases h
    exact ⟨rfl, rfl⟩
  | some definition =>
    rw [hb] at h
    cases h

/-- An open draft goes on, and any other is refused. -/
theorem Makes.checkOpen_bind {β : Type} {c : Call} {d : Draft} {f : Unit → Declare β}
    (hf : d.built = .none → Makes c (f ()) d) : Makes c (checkOpen >>= f) d := by
  refine Makes.bind (Makes.get_bind ?_) fun _ d' h => ?_
  · cases d.built <;> exact .refl
  · obtain ⟨rfl, isOpen⟩ := checkOpen_eq_ok h
    exact hf isOpen

/-! ### Rules -/

end Draft

theorem Registry.add_eq_ok {r r' : Registry} {wanted : RuleCall} {rule : Rule}
    (h : r.add wanted = .ok (rule, r')) :
    r.rule wanted = .ok rule ∧ r' = { r with rules := r.rules ++ [rule] } := by
  cases hr : r.rule wanted with
  | error f =>
    rw [add, hr] at h
    cases h
  | ok made =>
    rw [add, hr] at h
    cases h
    exact ⟨rfl, rfl⟩

/-- A rule is only made for a validator that is there, and holds what was asked for. -/
theorem Registry.rule_eq_ok {r : Registry} {wanted : RuleCall} {rule : Rule}
    (h : r.rule wanted = .ok rule) : (r.validator? wanted.validator).isSome = true
      ∧ rule = ⟨wanted.validator, wanted.args, wanted.options.condition, wanted.options.message⟩ := by
  unfold Registry.rule at h
  split at h
  · cases h
  · cases hc : checkName wanted.validator with
    | error f =>
      rw [has, hc] at h
      cases h
    | ok _ =>
      rw [has, hc] at h
      cases hv : r.validator? wanted.validator with
      | none =>
        rw [hv] at h
        cases h
      | some v =>
        rw [hv] at h
        cases h
        exact ⟨rfl, rfl⟩

namespace Draft

section Makes

variable {c : Call} {d : Draft}

theorem makes_of_add {wanted : RuleCall} {d : Draft} :
    Makes c (do
      let (rule, registry) ← liftFault (d.registry.add wanted)
      modify ({ · with registry })
      return rule) d := by
  refine (Makes.liftFault _).bind fun a d' h => ?_
  obtain ⟨added, rfl⟩ := liftFault_eq_ok h
  obtain ⟨made, hr⟩ := Registry.add_eq_ok added
  obtain ⟨known, same⟩ := Registry.rule_eq_ok made
  have change := Call.Changes.rule (c := c) (d := d') a.1 (by rwa [same])
  rw [← hr] at change
  exact .single change

theorem addRule_makes (wanted : RuleCall) : Makes c (addRule wanted) d :=
  Makes.get_bind makes_of_add

theorem addRuleWithin_makes (s : Scope) (wanted : RuleCall) :
    Makes c (addRuleWithin s wanted) d :=
  Makes.get_bind makes_of_add

theorem addRulesWithin_makes (s : Scope) : ∀ (wanted : List RuleCall) (d : Draft),
    Makes c (addRulesWithin s wanted) d
  | [], _ => Makes.pure ()
  | w :: rest, _ =>
    (addRuleWithin_makes s w).bind fun _ d' _ => addRulesWithin_makes s rest d'

theorem validateWithin_makes (s : Scope) : ∀ validate : Option (List RuleCall),
    Makes c (validateWithin s validate) d
  | .none => Makes.pure ()
  | .some wanted => by
    have handed : Makes c (modify fun d => { d with scopes := d.scopes ++ [s] }) d :=
      .single (.scope s)
    exact handed.bind fun _ d' _ => addRulesWithin_makes s wanted d'

/-- A name that cannot be looked up is refused. -/
theorem define_run (name : Value) (v : Validator) (d : Draft) : (Draft.define name v).run d =
    match name.unhashable? with
    | .some u => .error (.misuse (.unhashable u)) d
    | .none => .ok () { d with registry := { d.registry with
        validators := Registry.setValidator name v d.registry.validators } } := by
  have reached : (Draft.define name v).run d = (do
      let registry ← liftFault (d.registry.define name v)
      modify ({ · with registry }) : Declare Unit).run d := Run.run_bind_ok (Declare.run_get d) _
  rw [reached, Registry.define, Registry.checkName]
  cases name.unhashable? with
  | none => rfl
  | some u => rfl

theorem define_makes (name : Value) (v : Validator) : Makes c (Draft.define name v) d := by
  have run := define_run name v d
  cases hashed : name.unhashable? with
  | none =>
    rw [hashed] at run
    rw [Makes, Declare.after_of_ok run]
    exact .single (.validator name v)
  | some u =>
    rw [hashed] at run
    rw [Makes, Declare.after_of_error run]

/-! ### States, observers and events -/

theorem declareState_makes (name : Wording) (enter after exit : Option Callback)
    (validate : Option (List RuleCall)) :
    Makes c (declareState name enter after exit validate) d := by
  refine Makes.checkOpen_bind fun isOpen => (Makes.liftFault _).bind fun s d₀ called => ?_
  obtain ⟨-, rfl⟩ := liftFault_eq_ok called
  refine Makes.get_bind ?_
  split
  · exact Makes.throw _
  · next undeclared =>
    refine (Makes.liftFault _).bind fun acts d' h => ?_
    obtain ⟨-, rfl⟩ := liftFault_eq_ok h
    have declared : Makes c (modify fun d => { d with
        states := d.states ++ [{ name := s, enter, after := acts, exit }] }) d' :=
      .single (.state _ isOpen (by simpa using undeclared))
    refine declared.bind fun _ d₁ _ => Makes.get_bind ?_
    exact (validateWithin_makes _ _).bind fun _ _ _ => Makes.pure _

theorem observe_makes (o : Callback) : Makes c (observe o) d :=
  Makes.checkOpen_bind fun isOpen => .single (.observer o isOpen)

theorem openEvent_makes (name : Wording) (options : Table Value) :
    Makes c (openEvent name options) d := by
  refine (Makes.liftFault _).bind fun _ d' h => ?_
  obtain ⟨-, rfl⟩ := liftFault_eq_ok h
  refine Makes.checkOpen_bind fun isOpen => (Makes.liftFault _).bind fun s d₀ called => ?_
  obtain ⟨-, rfl⟩ := liftFault_eq_ok called
  refine Makes.get_bind ?_
  split
  · exact Makes.throw _
  · next free =>
    have fresh : d₀.event? s = .none := by simpa using free
    have opened : Makes c (modify fun d => { d with
        blocks := d.blocks ++ [{ name := s, options }] }) d₀ :=
      .single (.opened s options isOpen fresh)
    exact Makes.get_bind (opened.bind fun _ _ _ => Makes.pure _)

theorem build_makes : Makes c build d := by
  refine Makes.get_bind ?_
  split
  · exact Makes.pure _
  · next isOpen =>
    split
    · exact Makes.throw _
    · next sound =>
      have built : Makes c (set { d with built := .some d.toDefinition }) d :=
        .single (.built isOpen sound)
      exact built.bind fun _ _ _ => Makes.pure _

/-! ### Blocks -/

theorem block_eq_ok {i : Nat} {d d' : Draft} {b : EventBlock}
    (h : (block i).run d = .ok b d') : d' = d ∧ d.blocks[i]? = .some b := by
  rw [block, Run.run_bind_ok (Declare.run_get d)] at h
  split at h
  · next hb =>
    cases h
    exact ⟨rfl, hb⟩
  · cases h

/-- What follows the look-up of a block need only be looked at where there is one. -/
theorem Makes.block_bind {β : Type} {i : Nat} {f : EventBlock → Declare β}
    (hf : ∀ b, d.blocks[i]? = .some b → Makes c (f b) d) : Makes c (block i >>= f) d := by
  refine Makes.bind (Makes.get_bind ?_) fun b d' h => ?_
  · split
    · exact Makes.pure _
    · exact Makes.throw _
  · obtain ⟨rfl, there⟩ := block_eq_ok h
    exact hf b there

theorem checkUnfrozen_eq_ok {b : EventBlock} {d d' : Draft}
    (h : (checkUnfrozen b).run d = .ok () d') : d' = d ∧ b.event = .none := by
  rw [checkUnfrozen] at h
  cases hb : b.event with
  | none =>
    rw [hb] at h
    cases h
    exact ⟨rfl, rfl⟩
  | some e =>
    rw [hb] at h
    cases h

theorem Makes.checkUnfrozen_bind {β : Type} {b : EventBlock} {f : Unit → Declare β}
    (hf : b.event = .none → Makes c (f ()) d) : Makes c (checkUnfrozen b >>= f) d := by
  refine Makes.bind ?_ fun _ d' h => ?_
  · rw [checkUnfrozen]
    split
    · exact Makes.throw _
    · exact Makes.pure _
  · obtain ⟨rfl, unfrozen⟩ := checkUnfrozen_eq_ok h
    exact hf unfrozen

theorem enterBlock_makes (i : Nat) : Makes c (enterBlock i) d := by
  refine Makes.block_bind fun b _ => ?_
  have checked := Makes.checkUnfrozen_bind (c := c) (d := d) (b := b) (f := Pure.pure)
    fun _ => Makes.pure ()
  rwa [bind_pure] at checked

end Makes

end Draft

/-! ## What a call that names transitions leaves -/

/-- A call for a rule that is confined to a scope. -/
def RuleCall.within (wanted : RuleCall) (s : Scope) : RuleCall :=
  { wanted with options := wanted.options.within s }

namespace Registry

/-- The rules that are made one after the other, up to the first that is refused. -/
def accepted (r : Registry) : List RuleCall → List Rule
  | [] => []
  | w :: ws =>
    match r.rule w with
    | .ok rule => rule :: r.accepted ws
    | .error _ => []

/-- Whether none of some rules is refused. -/
def accepts (r : Registry) : List RuleCall → Bool
  | [] => true
  | w :: ws =>
    match r.rule w with
    | .ok _ => r.accepts ws
    | .error _ => false

theorem accepted_append (r : Registry) (ws more : List RuleCall) :
    r.accepted (ws ++ more) = r.accepted ws ++ if r.accepts ws then r.accepted more else [] := by
  induction ws with
  | nil => rfl
  | cons w ws ih =>
    rw [List.cons_append, accepted, accepted, accepts]
    cases r.rule w with
    | ok rule => simp only [ih, List.cons_append]
    | error f => rfl

theorem accepts_append (r : Registry) (ws more : List RuleCall) :
    r.accepts (ws ++ more) = (r.accepts ws && r.accepts more) := by
  induction ws with
  | nil => rfl
  | cons w ws ih =>
    rw [List.cons_append, accepts, accepts]
    cases r.rule w with
    | ok rule => simp only [ih]
    | error f => rfl

/-- Which rules are accepted does not depend on those that are there. -/
theorem accepted_congr (r : Registry) (rules : List Rule) (ws : List RuleCall) :
    ({ r with rules } : Registry).accepted ws = r.accepted ws := by
  induction ws with
  | nil => rfl
  | cons w ws ih =>
    have made : ({ r with rules } : Registry).rule w = r.rule w := rfl
    rw [accepted, accepted, made]
    cases r.rule w with
    | ok rule => simp only [ih]
    | error f => rfl

theorem accepts_congr (r : Registry) (rules : List Rule) (ws : List RuleCall) :
    ({ r with rules } : Registry).accepts ws = r.accepts ws := by
  induction ws with
  | nil => rfl
  | cons w ws ih =>
    have made : ({ r with rules } : Registry).rule w = r.rule w := rfl
    rw [accepts, accepts, made]
    cases r.rule w with
    | ok rule => simp only [ih]
    | error f => rfl

end Registry

namespace Edges

/-- The text of a source, where the target has one as well. -/
def named? (e : Edges) (source : Wording) : Option String :=
  match source, e.target with
  | .ok source, .ok _ => .some source
  | _, _ => .none

/-- The sources that become transitions: those before the first that has no text. -/
def texts (e : Edges) : List Wording → List String
  | [] => []
  | source :: rest =>
    match e.named? source with
    | .some source => source :: e.texts rest
    | .none => []

/-- Whether all of some sources become transitions. -/
def hasTexts (e : Edges) (from_ : List Wording) : Bool := from_.all (e.named? · |>.isSome)

/-- The transition that a call names for one source, where its target has a text. -/
def transition (e : Edges) (source : String) : Transition :=
  ⟨.str source, .str (e.target.toOption.getD ""), e.guard⟩

/-- The rules that a call for transitions asks for within the scope of one source. -/
def asked (e : Edges) (event : String) (column : Value) (source : String) : List RuleCall :=
  (e.validate.getD []).map (·.within ⟨.str source, .str event, column⟩)

/-- The rules that it asks for one source after the other. -/
def wanted (e : Edges) (event : String) (column : Value) (from_ : List Wording) : List RuleCall :=
  (e.texts from_).flatMap (e.asked event column)

end Edges

namespace Draft

open Declare (after isAnswered)

/-- A draft with more rules, and other scopes that were handed out. -/
def withRules (d : Draft) (scopes : List Scope) (rules : List Rule) : Draft :=
  { d with scopes, registry := { d.registry with rules := d.registry.rules ++ rules } }

/-- A rule comes in at the end; one that is refused leaves the draft as it was. -/
theorem addRule_run (w : RuleCall) (d : Draft) : (addRule w).run d =
    match d.registry.rule w with
    | .ok rule => .ok rule (d.withRules d.scopes [rule])
    | .error f => .error f d := by
  have reached : (addRule w).run d = (do
      let (rule, registry) ← liftFault (d.registry.add w)
      modify ({ · with registry })
      return rule : Declare Rule).run d := Run.run_bind_ok (Declare.run_get d) _
  rw [reached, Registry.add]
  cases d.registry.rule w with
  | error f => rfl
  | ok rule => rfl

theorem addRule_effect (w : RuleCall) (d : Draft) :
    after (addRule w) d = d.withRules d.scopes (d.registry.accepted [w])
      ∧ isAnswered (addRule w) d = d.registry.accepts [w] := by
  have run := addRule_run w d
  cases hr : d.registry.rule w with
  | error f =>
    have refused : (addRule w).run d = .error f d := by rw [run, hr]
    have none : d.withRules d.scopes [] = d := by simp [withRules]
    rw [Declare.after_of_error refused, isAnswered, refused, Registry.accepted, Registry.accepts, hr]
    exact ⟨none.symm, rfl⟩
  | ok rule =>
    have added : (addRule w).run d = .ok rule (d.withRules d.scopes [rule]) := by rw [run, hr]
    rw [Declare.after_of_ok added, isAnswered, added, Registry.accepted, Registry.accepts, hr]
    exact ⟨rfl, rfl⟩

theorem addRuleWithin_effect (s : Scope) (w : RuleCall) (d : Draft) :
    after (addRuleWithin s w) d = d.withRules d.scopes (d.registry.accepted [w.within s])
      ∧ isAnswered (addRuleWithin s w) d = d.registry.accepts [w.within s] :=
  addRule_effect (w.within s) d

@[simp] theorem withRules_withRules (d : Draft) (scopes more : List Scope)
    (rules others : List Rule) :
    (d.withRules scopes rules).withRules more others = d.withRules more (rules ++ others) := by
  simp [withRules]

@[simp] theorem accepted_withRules (d : Draft) (scopes : List Scope) (rules : List Rule)
    (ws : List RuleCall) :
    (d.withRules scopes rules).registry.accepted ws = d.registry.accepted ws :=
  Registry.accepted_congr ..

@[simp] theorem accepts_withRules (d : Draft) (scopes : List Scope) (rules : List Rule)
    (ws : List RuleCall) :
    (d.withRules scopes rules).registry.accepts ws = d.registry.accepts ws :=
  Registry.accepts_congr ..

theorem addRulesWithin_effect (s : Scope) : ∀ (ws : List RuleCall) (d : Draft),
    after (addRulesWithin s ws) d
        = d.withRules d.scopes (d.registry.accepted (ws.map (·.within s)))
      ∧ isAnswered (addRulesWithin s ws) d = d.registry.accepts (ws.map (·.within s))
  | [], d => ⟨by simp [addRulesWithin, after, withRules, Registry.accepted], rfl⟩
  | w :: ws, d => by
    obtain ⟨left, answered⟩ := addRuleWithin_effect s w d
    obtain ⟨left', answered'⟩ := addRulesWithin_effect s ws (after (addRuleWithin s w) d)
    rw [addRulesWithin, Declare.after_seq, Declare.isAnswered_seq, answered, answered', left', left]
    have scopes : (d.withRules d.scopes (d.registry.accepted [w.within s])).scopes = d.scopes := rfl
    have rules := d.registry.accepted_append [w.within s] (ws.map (·.within s))
    have none := d.registry.accepts_append [w.within s] (ws.map (·.within s))
    rw [List.singleton_append] at rules none
    rw [List.map_cons, rules, none, scopes, accepted_withRules, accepts_withRules,
      withRules_withRules]
    cases d.registry.accepts [w.within s] <;> simp

theorem validateWithin_effect (s : Scope) (validate : Option (List RuleCall)) (d : Draft) :
    ∃ scopes, after (validateWithin s validate) d
        = d.withRules scopes (d.registry.accepted ((validate.getD []).map (·.within s)))
      ∧ isAnswered (validateWithin s validate) d
        = d.registry.accepts ((validate.getD []).map (·.within s)) := by
  cases validate with
  | none => exact ⟨d.scopes, by simp [validateWithin, after, withRules, Registry.accepted], rfl⟩
  | some ws =>
    let handed : Draft := { d with scopes := d.scopes ++ [s] }
    obtain ⟨left, answered⟩ := addRulesWithin_effect s ws handed
    exact ⟨handed.scopes, left, answered⟩

/-! ### Transitions -/

/-- A draft where a block was put in its place, with more rules and other scopes handed out. -/
def grown (d : Draft) (i : Nat) (b : EventBlock) (scopes : List Scope) (rules : List Rule) :
    Draft :=
  { d.withRules scopes rules with blocks := d.blocks.set i b }

theorem block_run {d : Draft} {i : Nat} {b : EventBlock} (there : d.blocks[i]? = .some b) :
    (block i).run d = .ok b d := by
  rw [block, Run.run_bind_ok (Declare.run_get d), there]
  rfl

theorem block_run_none {d : Draft} {i : Nat} (absent : d.blocks[i]? = .none) :
    (block i).run d = .error (.unbound (toString i)) d := by
  rw [block, Run.run_bind_ok (Declare.run_get d), absent]
  rfl

theorem there_grown {d : Draft} {i : Nat} {b : EventBlock} (there : d.blocks[i]? = .some b)
    (b' : EventBlock) (scopes : List Scope) (rules : List Rule) :
    (d.grown i b' scopes rules).blocks[i]? = .some b' := by
  obtain ⟨inside, -⟩ := List.getElem?_eq_some_iff.mp there
  rw [grown, List.getElem?_set_self inside]

@[simp] theorem accepted_grown (d : Draft) (i : Nat) (b : EventBlock) (scopes : List Scope)
    (rules : List Rule) (ws : List RuleCall) :
    (d.grown i b scopes rules).registry.accepted ws = d.registry.accepted ws :=
  Registry.accepted_congr ..

@[simp] theorem accepts_grown (d : Draft) (i : Nat) (b : EventBlock) (scopes : List Scope)
    (rules : List Rule) (ws : List RuleCall) :
    (d.grown i b scopes rules).registry.accepts ws = d.registry.accepts ws :=
  Registry.accepts_congr ..

theorem set_there {d : Draft} {i : Nat} {b : EventBlock} (there : d.blocks[i]? = .some b) :
    d.blocks.set i b = d.blocks := by
  obtain ⟨inside, here⟩ := List.getElem?_eq_some_iff.mp there
  rw [← here, List.set_getElem_self]

theorem grown_self {d : Draft} {i : Nat} {b : EventBlock} (there : d.blocks[i]? = .some b) :
    d.grown i b d.scopes [] = d := by
  simp [grown, withRules, set_there there]

theorem grown_grown (d : Draft) (i : Nat) (b b' : EventBlock) (scopes more : List Scope)
    (rules others : List Rule) :
    (d.grown i b scopes rules).grown i b' more others = d.grown i b' more (rules ++ others) := by
  simp [grown, withRules]

/-- A source that has a text, as has the target, is added with its transition. -/
theorem addEdge_run {d : Draft} {i : Nat} {b : EventBlock} (there : d.blocks[i]? = .some b)
    {source : Wording} {edges : Edges} {s : String} (named : edges.named? source = .some s) :
    (addEdge i source edges).run d
      = (validateWithin ⟨.str s, .str b.name, d.config.column⟩ edges.validate).run
          { d with blocks :=
              d.blocks.set i { b with transitions := b.transitions ++ [edges.transition s] } } := by
  rw [addEdge, Run.run_bind_ok (block_run there)]
  unfold Edges.named? at named
  split at named
  · next called =>
    cases named
    rw [Edges.transition, called]
    rfl
  · cases named

theorem addEdge_refused {d : Draft} {i : Nat} {b : EventBlock} (there : d.blocks[i]? = .some b)
    {source : Wording} {edges : Edges} (unnamed : edges.named? source = .none) :
    ∃ f, (addEdge i source edges).run d = .error f d := by
  rw [addEdge, Run.run_bind_ok (block_run there)]
  cases source with
  | error f => exact ⟨f, rfl⟩
  | ok source =>
    cases called : edges.target with
    | error f => exact ⟨f, rfl⟩
    | ok target =>
      have named : edges.named? (.ok source) = .some source := by
        unfold Edges.named?
        rw [called]
      rw [named] at unnamed
      cases unnamed

theorem addEdge_effect {d : Draft} {i : Nat} {b : EventBlock} (there : d.blocks[i]? = .some b)
    {source : Wording} {edges : Edges} {s : String} (named : edges.named? source = .some s) :
    ∃ scopes,
      after (addEdge i source edges) d
          = d.grown i { b with transitions := b.transitions ++ [edges.transition s] } scopes
              (d.registry.accepted (edges.asked b.name d.config.column s))
        ∧ isAnswered (addEdge i source edges) d
          = d.registry.accepts (edges.asked b.name d.config.column s) := by
  let b' : EventBlock := { b with transitions := b.transitions ++ [edges.transition s] }
  let scope : Scope := ⟨.str s, .str b.name, d.config.column⟩
  let d' : Draft := { d with blocks := d.blocks.set i b' }
  have reached : (addEdge i source edges).run d = (validateWithin scope edges.validate).run d' :=
    addEdge_run there named
  obtain ⟨scopes, left, answered⟩ := validateWithin_effect scope edges.validate d'
  refine ⟨scopes, ?_, ?_⟩
  · rw [after, reached]
    exact left
  · rw [isAnswered, reached]
    exact answered

/-- Each source has its transition, and the rules that are wanted for it, until one has no text or
one of the rules is refused. -/
theorem addEdgesFrom_effect (i : Nat) (edges : Edges) : ∀ (from_ : List Wording) {d : Draft}
    {b : EventBlock}, d.blocks[i]? = .some b → ∃ ts scopes,
      after (addEdgesFrom i edges from_) d
          = d.grown i { b with transitions := b.transitions ++ ts } scopes
              (d.registry.accepted (edges.wanted b.name d.config.column from_))
        ∧ isAnswered (addEdgesFrom i edges from_) d
          = (d.registry.accepts (edges.wanted b.name d.config.column from_)
              && edges.hasTexts from_)
        ∧ (d.registry.accepts (edges.wanted b.name d.config.column from_) = true →
            ts = (edges.texts from_).map edges.transition)
  | [], d, b, there => by
    refine ⟨[], d.scopes, ?_, rfl, fun _ => rfl⟩
    rw [List.append_nil]
    exact (grown_self there).symm
  | source :: rest, d, b, there => by
    rw [Edges.wanted, Edges.hasTexts, Edges.texts, List.all_cons]
    cases named : edges.named? source with
    | none =>
      obtain ⟨f, refused⟩ := addEdge_refused there named
      refine ⟨[], d.scopes, ?_, ?_, fun _ => rfl⟩
      · rw [addEdgesFrom, Declare.after_bind_error refused, List.append_nil]
        exact (grown_self there).symm
      · rw [addEdgesFrom, isAnswered, Run.run_bind_error refused, Option.isSome_none,
          Bool.false_and, Bool.and_false]
    | some s =>
      obtain ⟨scopes, left, answered⟩ := addEdge_effect there named
      let t := edges.transition s
      let b₁ : EventBlock := { b with transitions := b.transitions ++ [t] }
      let asked := edges.asked b.name d.config.column s
      rw [addEdgesFrom, Declare.after_seq, Declare.isAnswered_seq, answered, left,
        List.flatMap_cons, Registry.accepted_append, Registry.accepts_append, Option.isSome_some,
        Bool.true_and]
      cases accepted : d.registry.accepts asked with
      | true =>
        obtain ⟨ts, more, left', answered', listed⟩ := addEdgesFrom_effect i edges rest
          (there_grown there b₁ scopes (d.registry.accepted asked))
        have grouped : { b₁ with transitions := b₁.transitions ++ ts }
            = { b with transitions := b.transitions ++ t :: ts } := by simp [b₁]
        refine ⟨t :: ts, more, ?_, ?_, fun h => ?_⟩
        · rw [if_pos rfl, left', grouped, grown_grown, accepted_grown]
          rfl
        · rw [answered', accepts_grown]
          rfl
        · rw [Bool.true_and] at h
          rw [accepts_grown] at listed
          rw [listed h]
          rfl
      | false =>
        refine ⟨[t], scopes, ?_, rfl, nofun⟩
        rw [if_neg Bool.false_ne_true, if_neg Bool.false_ne_true, List.append_nil]

theorem checkUnfrozen_run {b : EventBlock} (unfrozen : b.event = .none) (d : Draft) :
    (checkUnfrozen b).run d = .ok () d := by
  rw [checkUnfrozen, unfrozen]
  rfl

theorem enterBlock_run {d : Draft} {i : Nat} {b : EventBlock} (there : d.blocks[i]? = .some b)
    (unfrozen : b.event = .none) : (enterBlock i).run d = .ok () d := by
  rw [enterBlock, Run.run_bind_ok (block_run there), checkUnfrozen_run unfrozen]

theorem addEdges_run {d : Draft} {i : Nat} {b : EventBlock} (there : d.blocks[i]? = .some b)
    (unfrozen : b.event = .none) {edges : Edges} {from_ : List Wording}
    (named : edges.sources = .ok from_) :
    (addEdges i edges).run d = (addEdgesFrom i edges from_).run d := by
  rw [addEdges, Run.run_bind_ok (block_run there), Run.run_bind_ok (checkUnfrozen_run unfrozen d),
    named]
  rfl

theorem addEdges_run_of_no_sources {d : Draft} {i : Nat} {b : EventBlock}
    (there : d.blocks[i]? = .some b) (unfrozen : b.event = .none) {edges : Edges} {f : Fault}
    (named : edges.sources = .error f) : (addEdges i edges).run d = .error f d := by
  rw [addEdges, Run.run_bind_ok (block_run there), Run.run_bind_ok (checkUnfrozen_run unfrozen d),
    named]
  rfl

theorem leaveBlock_failed (i : Nat) (d : Draft) : after (leaveBlock i true) d = d := by
  rw [leaveBlock]
  cases there : d.blocks[i]? with
  | some b =>
    rw [Declare.after_bind_ok (block_run there)]
    rfl
  | none => rw [Declare.after_bind_error (block_run_none there)]

theorem checkOpen_run {d : Draft} (isOpen : d.built = .none) : checkOpen.run d = .ok () d := by
  rw [checkOpen, Run.run_bind_ok (Declare.run_get d), isOpen]
  rfl

theorem checkOpen_run_of_built {d : Draft} (built : d.built.isSome = true) :
    checkOpen.run d = .error .alreadyBuilt d := by
  rw [checkOpen, Run.run_bind_ok (Declare.run_get d), built]
  rfl

/-- What is still to be done for an event when its block is frozen. -/
def register (event : Event) : Declare Unit := do
  checkOpen
  if ((← get).event? event.name).isSome then throw (.eventRedeclared event.name)
  modify fun d => { d with events := d.events ++ [event] }

theorem register_of_built {d : Draft} (built : d.built.isSome = true) (event : Event) :
    (register event).run d = .error .alreadyBuilt d :=
  Run.run_bind_error (checkOpen_run_of_built built) _

theorem register_of_taken {d : Draft} (isOpen : d.built = .none) {event : Event}
    (taken : (d.event? event.name).isSome = true) :
    (register event).run d = .error (.eventRedeclared event.name) d := by
  rw [register, Run.run_bind_ok (checkOpen_run isOpen), Run.run_bind_ok (Declare.run_get d), taken]
  rfl

theorem register_refused {d : Draft} {event : Event}
    (taken : d.built.isSome = true ∨ (d.event? event.name).isSome = true) :
    ∃ f, (register event).run d = .error f d := by
  by_cases built : d.built.isSome = true
  · exact ⟨_, register_of_built built event⟩
  · exact ⟨_, register_of_taken (by simpa using built) (taken.resolve_left built)⟩

theorem register_run {d : Draft} {event : Event} (isOpen : d.built = .none)
    (fresh : d.event? event.name = .none) :
    (register event).run d = .ok () { d with events := d.events ++ [event] } := by
  rw [register, Run.run_bind_ok (checkOpen_run isOpen), Run.run_bind_ok (Declare.run_get d), fresh]
  rfl

theorem leaveBlock_run {d : Draft} {i : Nat} {b : EventBlock} (there : d.blocks[i]? = .some b) :
    (leaveBlock i false).run d
      = (register b.toEvent).run { d with blocks := d.blocks.set i b.frozen } :=
  Run.run_bind_ok (block_run there) _

/-- A block that is left is frozen, even where its event is refused. -/
theorem leaveBlock_refused {d : Draft} {i : Nat} {b : EventBlock} (there : d.blocks[i]? = .some b)
    (taken : d.built.isSome = true ∨ (d.event? b.name).isSome = true) :
    ∃ f, (leaveBlock i false).run d
      = .error f { d with blocks := d.blocks.set i b.frozen } := by
  rw [leaveBlock_run there]
  exact register_refused taken

theorem leaveBlock_registered {d : Draft} {i : Nat} {b : EventBlock}
    (there : d.blocks[i]? = .some b) (isOpen : d.built = .none) (fresh : d.event? b.name = .none) :
    (leaveBlock i false).run d = .ok ()
      { d with blocks := d.blocks.set i b.frozen, events := d.events ++ [b.toEvent] } := by
  rw [leaveBlock_run there]
  exact register_run isOpen fresh

theorem openEvent_eq_ok {d d₁ : Draft} {i : Nat} {name : Wording} {options : Table Value}
    (opened : (openEvent name options).run d = .ok i d₁) : i = d.blocks.length
      ∧ ∃ s, name = .ok s ∧ d₁ = { d with blocks := d.blocks ++ [{ name := s, options }] } := by
  rw [openEvent] at opened
  obtain ⟨_, d₂, checked, opens⟩ := Run.run_bind_eq_ok.mp opened
  obtain ⟨-, rfl⟩ := liftFault_eq_ok checked
  obtain ⟨_, d₃, isOpen, names⟩ := Run.run_bind_eq_ok.mp opens
  obtain ⟨rfl, -⟩ := checkOpen_eq_ok isOpen
  obtain ⟨s, d₄, called, adds⟩ := Run.run_bind_eq_ok.mp names
  obtain ⟨rfl, rfl⟩ := liftFault_eq_ok called
  rw [Run.run_bind_ok (Declare.run_get d₄)] at adds
  split at adds
  · cases adds
  · cases adds
    exact ⟨rfl, s, rfl, rfl⟩

/-! ## Beginning -/

/-- A draft begins with nothing declared. -/
theorem start_eq_ok {config : Option (Table Value)} {options : Table Value} {d : Draft}
    (h : start config options = .ok d) : ∃ config, d = { config } := by
  simp only [start, bind, Except.bind, pure, Except.pure] at h
  repeat' split at h
  all_goals cases h
  all_goals exact ⟨_, rfl⟩

/-! ## What every call changes -/

section Makes

variable {c : Call} {d : Draft}

theorem addEdge_makes {i : Nat} {b : EventBlock} (there : d.blocks[i]? = .some b)
    (unfrozen : b.event = .none) (source : Wording) (edges : Edges) :
    Makes c (addEdge i source edges) d := by
  refine Makes.block_bind fun b' there' => ?_
  obtain rfl : b' = b := Option.some.inj (there'.symm.trans there)
  refine (Makes.liftFault _).bind fun s d₁ called => ?_
  obtain ⟨-, rfl⟩ := liftFault_eq_ok called
  refine (Makes.liftFault _).bind fun target d₂ called => ?_
  obtain ⟨-, rfl⟩ := liftFault_eq_ok called
  have added : Makes c (setBlock i
      { b' with transitions := b'.transitions ++ [⟨.str s, .str target, edges.guard⟩] }) d₂ :=
    .single (.edge _ there unfrozen ⟨_, _, rfl, rfl⟩)
  exact added.bind fun _ _ _ => Makes.get_bind (validateWithin_makes _ _)

theorem addEdgesFrom_makes (i : Nat) (edges : Edges) : ∀ (from_ : List Wording) {d : Draft}
    {b : EventBlock}, d.blocks[i]? = .some b → b.event = .none →
    Makes c (addEdgesFrom i edges from_) d
  | [], _, _, _, _ => Makes.pure ()
  | source :: rest, d, b, there, unfrozen => by
    refine (addEdge_makes there unfrozen source edges).bind fun _ d' h => ?_
    cases named : edges.named? source with
    | none =>
      obtain ⟨f, refused⟩ := addEdge_refused there named
      rw [refused] at h
      cases h
    | some s =>
      obtain ⟨scopes, left, -⟩ := addEdge_effect there named
      rw [Declare.after_of_ok h] at left
      rw [left]
      exact addEdgesFrom_makes i edges rest (there_grown there _ _ _) unfrozen

theorem addEdges_makes (i : Nat) (edges : Edges) : Makes c (addEdges i edges) d := by
  refine Makes.block_bind fun b there => Makes.checkUnfrozen_bind fun unfrozen => ?_
  refine (Makes.liftFault _).bind fun from_ d' h => ?_
  obtain ⟨-, rfl⟩ := liftFault_eq_ok h
  exact addEdgesFrom_makes i edges from_ there unfrozen

theorem leaveBlock_makes (i : Nat) (failed : Bool) (left : c = .leaveBlock i failed) :
    Makes c (leaveBlock i failed) d := by
  cases failed with
  | true =>
    rw [Makes, leaveBlock_failed]
  | false =>
    cases there : d.blocks[i]? with
    | none =>
      rw [Makes, leaveBlock, Declare.after_bind_error (block_run_none there)]
    | some b =>
      by_cases taken : d.built.isSome = true ∨ (d.event? b.name).isSome = true
      · obtain ⟨f, refused⟩ := leaveBlock_refused there taken
        rw [Makes, Declare.after_of_error refused]
        exact .single (.refused left there taken)
      · have isOpen : d.built = .none := by simpa using fun h => taken (.inl h)
        have fresh : d.event? b.name = .none := by simpa using fun h => taken (.inr h)
        rw [Makes, Declare.after_of_ok (leaveBlock_registered there isOpen fresh)]
        exact .single (.registered left there isOpen fresh)

end Makes

/-- All that a call does it does by the changes listed. -/
theorem Call.changes (c : Call) (d : Draft) :
    Relation.ReflTransGen c.Changes d (after c.run d) := by
  cases c with
  | define name v => exact define_makes name v
  | addRule wanted => exact (addRule_makes wanted).discard
  | addRuleWithin s wanted => exact (addRuleWithin_makes s wanted).discard
  | declareState name enter after exit validate =>
    exact (declareState_makes name enter after exit validate).discard
  | observe o => exact observe_makes o
  | openEvent name options => exact (openEvent_makes name options).discard
  | enterBlock i => exact enterBlock_makes i
  | addEdges i edges => exact addEdges_makes i edges
  | leaveBlock i failed => exact leaveBlock_makes i failed rfl
  | build => exact build_makes.discard

theorem after_keeps {P : Draft → Prop} {c : Call} (step : ∀ d d', c.Changes d d' → P d → P d')
    {d : Draft} (start : P d) : P (after c.run d) := by
  have keeps : ∀ d', Relation.ReflTransGen c.Changes d d' → P d' := fun d' changes => by
    induction changes with
    | refl => exact start
    | tail _ change ih => exact step _ _ change ih
  exact keeps _ (c.changes d)

/-- What every change by some calls keeps is kept by all of them. -/
theorem afterAll_induction {P : Draft → Prop} {calls : List Call}
    (step : ∀ c ∈ calls, ∀ d d', c.Changes d d' → P d → P d') {d : Draft} (start : P d) :
    P (afterAll calls d) := by
  induction calls generalizing d with
  | nil => exact start
  | cons c calls ih =>
    exact ih (fun c' mem => step c' (.tail _ mem)) (after_keeps (step c (.head _)) start)

end Draft

end Lifecycle
