/-
Event blocks that are given up.

A block that fails keeps its event out of the draft, but not the rules of its
validation blocks: they were added when they were asked for. `Edges.rules` says
which rules those are; each is confined to the event of the block, and holds
again once another block declares an event of that name.

`Draft.Extra` relates a draft with such a block to the draft without it. Every
call does the same to both (`Draft.Call.alike`), so that whatever is declared
later, both are built into the same machine but for those rules
(`Draft.aborted_keeps_rules`).
-/
import Lifecycle.Proofs.Declarations

namespace Lifecycle

/-! ## Declarations on two drafts -/

namespace Declare

variable {α β γ δ : Type} {R : Draft → Draft → Prop} {A : α → β → Prop} {B : γ → δ → Prop}

/-- Two declarations that both answer, in ways that belong together, or both fail, and leave drafts
that belong together. -/
def Alike (R : Draft → Draft → Prop) (A : α → β → Prop) (x : Declare α) (y : Declare β)
    (d e : Draft) : Prop :=
  match x.run d, y.run e with
  | .ok a d', .ok b e' => A a b ∧ R d' e'
  | .error _ d', .error _ e' => R d' e'
  | _, _ => False

namespace Alike

variable {d e : Draft}

theorem pure {a : α} {b : β} (answers : A a b) (h : R d e) :
    Alike R A (pure a : Declare α) (pure b : Declare β) d e := ⟨answers, h⟩

theorem throw (f g : Fault) (h : R d e) :
    Alike R A (throw f : Declare α) (throw g : Declare β) d e := h

theorem ends {x : Declare α} {y : Declare β} (h : Alike R A x y d e) :
    (∃ a b d' e', x.run d = .ok a d' ∧ y.run e = .ok b e' ∧ A a b ∧ R d' e')
      ∨ ∃ f g d' e', x.run d = .error f d' ∧ y.run e = .error g e' ∧ R d' e' := by
  rw [Alike] at h
  cases hx : x.run d with
  | ok a d' =>
    cases hy : y.run e with
    | ok b e' =>
      rw [hx, hy] at h
      exact .inl ⟨a, b, d', e', rfl, rfl, h⟩
    | error g e' =>
      rw [hx, hy] at h
      exact h.elim
  | error f d' =>
    cases hy : y.run e with
    | ok b e' =>
      rw [hx, hy] at h
      exact h.elim
    | error g e' =>
      rw [hx, hy] at h
      exact .inr ⟨f, g, d', e', rfl, rfl, h⟩

theorem bind {x : Declare α} {y : Declare β} {f : α → Declare γ} {g : β → Declare δ}
    (hx : Alike R A x y d e)
    (hf : ∀ a b d' e', A a b → R d' e' → Alike R B (f a) (g b) d' e') :
    Alike R B (x >>= f) (y >>= g) d e := by
  obtain ⟨a, b, d', e', hxd, hye, answers, h⟩ | ⟨f', g', d', e', hxd, hye, h⟩ := hx.ends
  · rw [Alike, Run.run_bind_ok hxd, Run.run_bind_ok hye]
    exact hf a b d' e' answers h
  · rw [Alike, Run.run_bind_error hxd, Run.run_bind_error hye]
    exact h

theorem get_bind {f : Draft → Declare γ} {g : Draft → Declare δ} (h : Alike R B (f d) (g e) d e) :
    Alike R B (get >>= f) (get >>= g) d e := by
  rw [Alike, Run.run_bind_ok (run_get d), Run.run_bind_ok (run_get e)]
  exact h

theorem modify {f g : Draft → Draft} (h : R (f d) (g e)) :
    Alike R Eq (modify f : Declare Unit) (modify g) d e := ⟨rfl, h⟩

theorem liftFault (r : Except Fault α) (h : R d e) :
    Alike R Eq (Draft.liftFault r) (Draft.liftFault r) d e := by
  cases r with
  | ok a => exact pure rfl h
  | error f => exact throw f f h

/-- Answers that are dropped need not belong together. -/
theorem discard {x : Declare α} {y : Declare β} (h : Alike R A x y d e) :
    Alike R Eq (discard x) (discard y) d e :=
  h.bind fun _ _ _ _ _ left => pure rfl left

theorem after {x : Declare α} {y : Declare β} (h : Alike R A x y d e) :
    R (after x d) (after y e) := by
  obtain ⟨a, b, d', e', hx, hy, -, h⟩ | ⟨f, g, d', e', hx, hy, h⟩ := h.ends
  · rwa [after_of_ok hx, after_of_ok hy]
  · rwa [after_of_error hx, after_of_error hy]

theorem isAnswered {x : Declare α} {y : Declare β} (h : Alike R A x y d e) :
    isAnswered x d = isAnswered y e := by
  obtain ⟨a, b, d', e', hx, hy, -⟩ | ⟨f, g, d', e', hx, hy, -⟩ := h.ends
  · rw [Declare.isAnswered, Declare.isAnswered, hx, hy]
  · rw [Declare.isAnswered, Declare.isAnswered, hx, hy]

end Alike

end Declare

namespace Draft

open Declare (after isAnswered Alike)

/-! ## A block and rules that only one of two drafts has -/

/-- The first draft is the second with one more block, at the place `k`, and with the rules `left`
where the second has those of `earlier` behind it. -/
structure Extra (k : Nat) (earlier left : List Rule) (d e : Draft) : Prop where
  definition : d.toDefinition = e.toDefinition
  built : d.built = e.built
  validators : d.registry.validators = e.registry.validators
  rules : ∃ later, d.registry.rules = earlier ++ left ++ later ∧ e.registry.rules = earlier ++ later
  inside : k < d.blocks.length
  blocks : e.blocks = d.blocks.eraseIdx k

/-- A place where there is one more block, at the place `k`. -/
def beyond (k j : Nat) : Nat := if j < k then j else j + 1

namespace Extra

variable {k : Nat} {earlier left : List Rule} {d e : Draft}

theorem there (h : Extra k earlier left d e) (j : Nat) :
    d.blocks[beyond k j]? = e.blocks[j]? := by
  rw [h.blocks, List.getElem?_eraseIdx, beyond]
  split <;> rfl

theorem rule (h : Extra k earlier left d e) (w : RuleCall) :
    d.registry.rule w = e.registry.rule w := by
  have validator? : d.registry.validator? = e.registry.validator? := by
    funext name
    rw [Registry.validator?, h.validators]
    rfl
  simp only [Registry.rule, Registry.has, validator?]

theorem setBlock (h : Extra k earlier left d e) (j : Nat) (b : EventBlock) :
    Alike (Extra k earlier left) Eq (setBlock (beyond k j) b) (setBlock j b) d e := by
  refine Alike.modify ⟨h.definition, h.built, h.validators, h.rules, ?_, ?_⟩
  · rw [List.length_set]
    exact h.inside
  · rw [h.blocks, beyond]
    split
    · next before => exact (List.eraseIdx_set_gt before).symm
    · next behind => exact List.set_eraseIdx_le (Nat.le_of_not_lt behind)

theorem add (h : Extra k earlier left d e) (w : RuleCall) :
    Alike (Extra k earlier left) Eq
      (do
        let (rule, registry) ← liftFault (d.registry.add w)
        modify ({ · with registry })
        return rule)
      (do
        let (rule, registry) ← liftFault (e.registry.add w)
        modify ({ · with registry })
        return rule) d e := by
  rw [Registry.add, Registry.add, h.rule w]
  cases e.registry.rule w with
  | error f => exact Alike.throw f f h
  | ok rule =>
    obtain ⟨later, here, there⟩ := h.rules
    have added : Extra k earlier left
        { d with registry := { d.registry with rules := d.registry.rules ++ [rule] } }
        { e with registry := { e.registry with rules := e.registry.rules ++ [rule] } } := by
      refine ⟨h.definition, h.built, h.validators, ⟨later ++ [rule], ?_, ?_⟩, h.inside, h.blocks⟩
      · simp only [here, List.append_assoc]
      · simp only [there, List.append_assoc]
    exact Alike.pure rfl added

theorem addRule (h : Extra k earlier left d e) (w : RuleCall) :
    Alike (Extra k earlier left) Eq (addRule w) (addRule w) d e :=
  Alike.get_bind (h.add w)

theorem addRuleWithin (h : Extra k earlier left d e) (s : Scope) (w : RuleCall) :
    Alike (Extra k earlier left) Eq (addRuleWithin s w) (addRuleWithin s w) d e :=
  Alike.get_bind (h.add (w.within s))

theorem addRulesWithin (s : Scope) : ∀ (ws : List RuleCall) {d e : Draft},
    Extra k earlier left d e →
    Alike (Extra k earlier left) Eq (addRulesWithin s ws) (addRulesWithin s ws) d e
  | [], _, _, h => Alike.pure rfl h
  | w :: ws, _, _, h => (h.addRuleWithin s w).bind fun _ _ _ _ _ h => addRulesWithin s ws h

theorem validateWithin (h : Extra k earlier left d e) (s : Scope)
    (validate : Option (List RuleCall)) :
    Alike (Extra k earlier left) Eq (validateWithin s validate) (validateWithin s validate) d e := by
  cases validate with
  | none => exact Alike.pure rfl h
  | some ws =>
    have handed : Alike (Extra k earlier left) Eq
        (modify fun d => { d with scopes := d.scopes ++ [s] })
        (modify fun e => { e with scopes := e.scopes ++ [s] }) d e :=
      Alike.modify ⟨h.definition, h.built, h.validators, h.rules, h.inside, h.blocks⟩
    exact handed.bind fun _ _ _ _ _ h => addRulesWithin s ws h

theorem define (h : Extra k earlier left d e) (name : Value) (v : Validator) :
    Alike (Extra k earlier left) Eq (define name v) (define name v) d e := by
  refine Alike.get_bind ?_
  rw [Registry.define, Registry.define]
  cases Registry.checkName name with
  | error f => exact Alike.throw f f h
  | ok _ =>
    have defined : Registry.setValidator name v d.registry.validators
        = Registry.setValidator name v e.registry.validators := by rw [h.validators]
    exact Alike.pure rfl ⟨h.definition, h.built, defined, h.rules, h.inside, h.blocks⟩

/-! ### States, observers and events -/

/-- What is declared in both is declared in the same definition. -/
theorem declared (h : Extra k earlier left d e) (f : Definition → Definition) :
    Extra k earlier left { d with toDefinition := f d.toDefinition }
      { e with toDefinition := f e.toDefinition } :=
  ⟨congrArg f h.definition, h.built, h.validators, h.rules, h.inside, h.blocks⟩

theorem checkOpen (h : Extra k earlier left d e) :
    Alike (Extra k earlier left) Eq checkOpen checkOpen d e := by
  refine Alike.get_bind ?_
  rw [h.built]
  cases e.built with
  | none => exact Alike.pure rfl h
  | some _ => exact Alike.throw _ _ h

theorem declareState (h : Extra k earlier left d e) (name : Wording)
    (enter after exit : Option Callback) (validate : Option (List RuleCall)) :
    Alike (Extra k earlier left) Eq (declareState name enter after exit validate)
      (declareState name enter after exit validate) d e := by
  refine h.checkOpen.bind fun _ _ _ _ _ h => (Alike.liftFault name h).bind fun s _ d e same h => ?_
  subst same
  refine Alike.get_bind ?_
  rw [h.definition]
  split
  · exact Alike.throw _ _ h
  · refine (Alike.liftFault _ h).bind fun acts _ d e same h => ?_
    subst same
    have declared := h.declared fun D =>
      { D with states := D.states ++ [{ name := s, enter, after := acts, exit }] }
    refine (Alike.modify declared).bind fun _ _ d e _ h => Alike.get_bind ?_
    rw [h.definition]
    exact (h.validateWithin _ validate).bind fun _ _ _ _ _ h => Alike.pure rfl h

theorem observe (h : Extra k earlier left d e) (o : Callback) :
    Alike (Extra k earlier left) Eq (observe o) (observe o) d e :=
  h.checkOpen.bind fun _ _ _ _ _ h =>
    Alike.modify (h.declared fun D => { D with observers := D.observers ++ [o] })

theorem openEvent (h : Extra k earlier left d e) (name : Wording) (options : Table Value) :
    Alike (Extra k earlier left) (fun _ _ => True) (openEvent name options)
      (openEvent name options) d e := by
  refine (Alike.liftFault _ h).bind fun _ _ _ _ _ h => ?_
  refine h.checkOpen.bind fun _ _ _ _ _ h => (Alike.liftFault name h).bind fun s _ d e same h => ?_
  subst same
  refine Alike.get_bind ?_
  rw [h.definition]
  split
  · exact Alike.throw _ _ h
  · refine Alike.get_bind ?_
    have opened : Extra k earlier left
        { d with blocks := d.blocks ++ [{ name := s, options }] }
        { e with blocks := e.blocks ++ [{ name := s, options }] } := by
      refine ⟨h.definition, h.built, h.validators, h.rules, ?_, ?_⟩
      · rw [List.length_append]
        exact Nat.lt_add_right 1 h.inside
      · rw [h.blocks, List.eraseIdx_append_of_lt_length h.inside]
    exact (Alike.modify opened).bind fun _ _ _ _ _ h => Alike.pure trivial h

theorem build (h : Extra k earlier left d e) :
    Alike (Extra k earlier left) Eq build build d e := by
  refine Alike.get_bind ?_
  rw [h.built, h.definition]
  split
  · exact Alike.pure rfl h
  · split
    · exact Alike.throw _ _ h
    · have built : Extra k earlier left
          { d with toDefinition := e.toDefinition, built := .some e.toDefinition }
          { e with built := .some e.toDefinition } :=
        ⟨rfl, rfl, h.validators, h.rules, h.inside, h.blocks⟩
      exact Alike.pure rfl built

/-! ### Blocks -/

theorem block (h : Extra k earlier left d e) (j : Nat) :
    Alike (Extra k earlier left) Eq (block (beyond k j)) (block j) d e := by
  refine Alike.get_bind ?_
  rw [h.there]
  cases e.blocks[j]? with
  | some b => exact Alike.pure rfl h
  | none => exact Alike.throw _ _ h

theorem checkUnfrozen (h : Extra k earlier left d e) (b : EventBlock) :
    Alike (Extra k earlier left) Eq (checkUnfrozen b) (checkUnfrozen b) d e := by
  rw [Draft.checkUnfrozen]
  split
  · exact Alike.throw _ _ h
  · exact Alike.pure rfl h

theorem enterBlock (h : Extra k earlier left d e) (j : Nat) :
    Alike (Extra k earlier left) Eq (enterBlock (beyond k j)) (enterBlock j) d e :=
  (h.block j).bind fun b _ _ _ same h => same ▸ h.checkUnfrozen b

theorem addEdge (h : Extra k earlier left d e) (j : Nat) (source : Wording) (edges : Edges) :
    Alike (Extra k earlier left) Eq (addEdge (beyond k j) source edges) (addEdge j source edges)
      d e := by
  refine (h.block j).bind fun b _ _ _ same h => ?_
  subst same
  refine (Alike.liftFault source h).bind fun s _ _ _ same h => ?_
  subst same
  refine (Alike.liftFault edges.target h).bind fun target _ _ _ same h => ?_
  subst same
  refine (h.setBlock j _).bind fun _ _ d e _ h => Alike.get_bind ?_
  rw [h.definition]
  exact h.validateWithin _ edges.validate

theorem addEdgesFrom (j : Nat) (edges : Edges) : ∀ (from_ : List Wording) {d e : Draft},
    Extra k earlier left d e →
    Alike (Extra k earlier left) Eq (addEdgesFrom (beyond k j) edges from_)
      (addEdgesFrom j edges from_) d e
  | [], _, _, h => Alike.pure rfl h
  | source :: rest, _, _, h =>
    (h.addEdge j source edges).bind fun _ _ _ _ _ h => addEdgesFrom j edges rest h

theorem addEdges (h : Extra k earlier left d e) (j : Nat) (edges : Edges) :
    Alike (Extra k earlier left) Eq (addEdges (beyond k j) edges) (addEdges j edges) d e := by
  refine (h.block j).bind fun b _ _ _ same h => ?_
  subst same
  refine (h.checkUnfrozen b).bind fun _ _ _ _ _ h => ?_
  exact (Alike.liftFault _ h).bind fun from_ _ _ _ same h => same ▸ addEdgesFrom j edges from_ h

theorem leaveBlock (h : Extra k earlier left d e) (j : Nat) (failed : Bool) :
    Alike (Extra k earlier left) Eq (leaveBlock (beyond k j) failed) (leaveBlock j failed)
      d e := by
  refine (h.block j).bind fun b _ _ _ same h => ?_
  subst same
  cases failed with
  | true => exact Alike.pure rfl h
  | false =>
    refine (h.setBlock j _).bind fun _ _ _ _ _ h => ?_
    refine h.checkOpen.bind fun _ _ d e _ h => Alike.get_bind ?_
    rw [h.definition]
    split
    · exact Alike.throw _ _ h
    · exact Alike.modify (h.declared fun D => { D with events := D.events ++ [b.toEvent] })

end Extra

/-! ## Every sequence of calls -/

/-- A call where there is one more block, at the place `k`. -/
def Call.beyond (k : Nat) : Call → Call
  | enterBlock j => enterBlock (Draft.beyond k j)
  | addEdges j edges => addEdges (Draft.beyond k j) edges
  | leaveBlock j failed => leaveBlock (Draft.beyond k j) failed
  | call => call

/-- Which of some calls answer, each made whatever became of those before it. -/
def answers : List Call → Draft → List Bool
  | [], _ => []
  | c :: calls, d => isAnswered c.run d :: answers calls (after c.run d)

namespace Extra

variable {k : Nat} {earlier left : List Rule} {d e : Draft}

/-- Every call does the same to both drafts. -/
theorem call (h : Extra k earlier left d e) (c : Call) :
    Alike (Extra k earlier left) Eq (c.beyond k).run c.run d e := by
  cases c with
  | define name v => exact h.define name v
  | addRule w => exact (h.addRule w).discard
  | addRuleWithin s w => exact (h.addRuleWithin s w).discard
  | declareState name enter after exit validate =>
    exact (h.declareState name enter after exit validate).discard
  | observe o => exact h.observe o
  | openEvent name options => exact (h.openEvent name options).discard
  | enterBlock j => exact h.enterBlock j
  | addEdges j edges => exact h.addEdges j edges
  | leaveBlock j failed => exact h.leaveBlock j failed
  | build => exact h.build.discard

theorem calls (h : Extra k earlier left d e) (calls : List Call) :
    Extra k earlier left (afterAll (calls.map (·.beyond k)) d) (afterAll calls e)
      ∧ answers (calls.map (·.beyond k)) d = answers calls e := by
  induction calls generalizing d e with
  | nil => exact ⟨h, rfl⟩
  | cons c calls ih =>
    obtain ⟨extra, same⟩ := ih (h.call c).after
    exact ⟨extra, congrArg₂ List.cons (h.call c).isAnswered same⟩

end Extra

/-! ## What an aborted block leaves -/

end Draft

/-- The rules that a call for transitions adds within an event. -/
def Edges.rules (e : Edges) (r : Registry) (event : String) (column : Value) : List Rule :=
  match e.sources with
  | .ok from_ => r.accepted (e.wanted event column from_)
  | .error _ => []

/-- A machine with more rules behind its first ones. -/
def Machine.insertRules (m : Machine) (earlier : Nat) (rules : List Rule) : Machine :=
  { m with registry := { m.registry with
      rules := m.registry.rules.take earlier ++ rules ++ m.registry.rules.drop earlier } }

@[simp] theorem Machine.insertRules_nil (m : Machine) (earlier : Nat) :
    m.insertRules earlier [] = m := by
  simp [insertRules]

namespace Draft

open Declare (after)

theorem Extra.machine? {k : Nat} {earlier left : List Rule} {d e : Draft}
    (h : Extra k earlier left d e) :
    d.machine? = e.machine?.map (·.insertRules earlier.length left) := by
  obtain ⟨later, here, there⟩ := h.rules
  have rules : d.registry.rules = e.registry.rules.take earlier.length ++ left
      ++ e.registry.rules.drop earlier.length := by
    rw [here, there, List.take_left, List.drop_left]
  have registry : d.registry = { e.registry with
      rules := e.registry.rules.take earlier.length ++ left
        ++ e.registry.rules.drop earlier.length } := by
    simp only [← rules, ← h.validators]
  rw [Draft.machine?, Draft.machine?, h.built, Option.map_map, registry]
  rfl

theorem rules_grown (edges : Edges) (d : Draft) (i : Nat) (b : EventBlock) (scopes : List Scope)
    (rules : List Rule) :
    edges.rules (d.grown i b scopes rules).registry = edges.rules d.registry := by
  funext event column
  rw [Edges.rules, Edges.rules]
  simp only [accepted_grown]

theorem addEdges_effect {d : Draft} {i : Nat} {b : EventBlock} (there : d.blocks[i]? = .some b)
    (unfrozen : b.event = .none) (edges : Edges) : ∃ b' scopes,
      after (addEdges i edges) d
          = d.grown i b' scopes (edges.rules d.registry b.name d.config.column)
        ∧ b'.name = b.name ∧ b'.event = .none := by
  rw [Edges.rules]
  cases named : edges.sources with
  | ok from_ =>
    obtain ⟨ts, scopes, left, -⟩ := addEdgesFrom_effect i edges from_ there
    refine ⟨{ b with transitions := b.transitions ++ ts }, scopes, ?_, rfl, unfrozen⟩
    rw [after, addEdges_run there unfrozen named]
    exact left
  | error f =>
    refine ⟨b, d.scopes, ?_, rfl, unfrozen⟩
    rw [Declare.after_of_error (addEdges_run_of_no_sources there unfrozen named)]
    exact (grown_self there).symm

theorem afterAll_addEdges (i : Nat) : ∀ (calls : List Edges) {d : Draft} {b : EventBlock},
    d.blocks[i]? = .some b → b.event = .none → ∃ b' scopes,
      afterAll (calls.map (.addEdges i)) d
          = d.grown i b' scopes (calls.flatMap (·.rules d.registry b.name d.config.column))
        ∧ b'.name = b.name ∧ b'.event = .none
  | [], d, b, there, unfrozen => ⟨b, d.scopes, (grown_self there).symm, rfl, unfrozen⟩
  | edges :: calls, d, b, there, unfrozen => by
    obtain ⟨b₁, scopes, left, named₁, unfrozen₁⟩ := addEdges_effect there unfrozen edges
    let rules := edges.rules d.registry b.name d.config.column
    obtain ⟨b', more, left', named', unfrozen'⟩ :=
      afterAll_addEdges i calls (there_grown there b₁ scopes rules) unfrozen₁
    refine ⟨b', more, ?_, named'.trans named₁, unfrozen'⟩
    have config : (d.grown i b₁ scopes rules).config = d.config := rfl
    rw [List.map_cons, afterAll_cons, Call.run, left, left', grown_grown, named₁, config]
    simp only [rules_grown]
    rfl

theorem mem_accepted {r : Registry} {rule : Rule} {ws : List RuleCall}
    (added : rule ∈ r.accepted ws) : ∃ w ∈ ws, r.rule w = .ok rule := by
  induction ws with
  | nil => cases added
  | cons w ws ih =>
    rw [Registry.accepted] at added
    cases hw : r.rule w with
    | error f =>
      rw [hw] at added
      cases added
    | ok made =>
      rw [hw] at added
      rcases List.mem_cons.mp added with rfl | more
      · exact ⟨w, .head _, hw⟩
      · obtain ⟨w', mem, made'⟩ := ih more
        exact ⟨w', .tail _ mem, made'⟩

/-- A rule of a validation block is confined to the event of the block. -/
theorem rule_scoped {r : Registry} {event : String} {column : Value} {edges : Edges} {rule : Rule}
    (added : rule ∈ edges.rules r event column) : ∃ source inner,
      rule.condition = .scoped ⟨.str source, .str event, column⟩ inner := by
  rw [Edges.rules] at added
  split at added
  · obtain ⟨w, wanted, made⟩ := mem_accepted added
    obtain ⟨source, -, asked⟩ := List.mem_flatMap.mp wanted
    obtain ⟨w', -, rfl⟩ := List.mem_map.mp asked
    obtain ⟨-, rfl⟩ := Registry.rule_eq_ok made
    exact ⟨source, w'.options.condition, rfl⟩
  · cases added

/-- A block that fails leaves just the rules that its validation blocks added, which are confined to
its event. Whatever is declared later answers as it would without the block, and makes the same
machine but for those rules. -/
theorem aborted_keeps_rules {d d₁ : Draft} {i : Nat} {name : String} {options : Table Value}
    (opened : (openEvent name options).run d = .ok i d₁) (calls : List Edges) :
    let left := calls.flatMap (·.rules d.registry name d.config.column)
    let aborted := afterAll (.enterBlock i :: calls.map (.addEdges i) ++ [.leaveBlock i true]) d₁
    aborted.toDefinition = d.toDefinition
      ∧ aborted.registry = { d.registry with rules := d.registry.rules ++ left }
      ∧ (∀ rule ∈ left, ∃ source inner,
          rule.condition = .scoped ⟨.str source, .str name, d.config.column⟩ inner)
      ∧ ∀ later : List Call,
          let goes := afterAll (later.map (·.beyond i)) aborted
          let without := afterAll later d
          answers (later.map (·.beyond i)) aborted = answers later d
            ∧ goes.machine? = without.machine?.map (·.insertRules d.registry.rules.length left)
            ∧ (left = [] → goes.machine? = without.machine?) := by
  intro left aborted
  obtain ⟨rfl, _, ⟨⟩, rfl⟩ := openEvent_eq_ok opened
  let d₁ : Draft := { d with blocks := d.blocks ++ [{ name, options }] }
  have there : d₁.blocks[d.blocks.length]? = .some { name, options } :=
    List.getElem?_concat_length
  obtain ⟨b', scopes, leaves, -⟩ := afterAll_addEdges d.blocks.length calls there rfl
  have entered : after (enterBlock d.blocks.length) d₁ = d₁ :=
    Declare.after_of_ok (enterBlock_run there rfl)
  have ends : aborted = d₁.grown d.blocks.length b' scopes left := by
    simp only [aborted]
    rw [List.cons_append, afterAll_cons, afterAll_append, Call.run, entered, leaves]
    exact leaveBlock_failed _ _
  have extra : Extra d.blocks.length d.registry.rules left aborted d := by
    rw [ends]
    refine ⟨rfl, rfl, rfl, ⟨[], by simp [grown, withRules, d₁], by simp⟩, ?_, ?_⟩
    · simp [grown, d₁]
    · simp [grown, d₁, List.eraseIdx_append_of_length_le]
  refine ⟨extra.definition, by rw [ends]; rfl, fun rule mem => ?_, fun later => ?_⟩
  · obtain ⟨edges, -, added⟩ := List.mem_flatMap.mp mem
    exact rule_scoped added
  · obtain ⟨extra', same⟩ := extra.calls later
    refine ⟨same, extra'.machine?, fun none => ?_⟩
    rw [extra'.machine?, none]
    simp

/-- The rule of a validation block outlasts the block. -/
theorem aborted_keeps_rules_presence :
    let d : Draft := { config := { initial := "a" } }
    let edges : Edges := {
      target := "b", sources := .ok ["a"]
      validate := .some [{ validator := .str "presence", args := [.str "x"] }] }
    ∃ d₁, (openEvent "go" ∅).run d = .ok 0 d₁
      ∧ (afterAll [.enterBlock 0, .addEdges 0 edges, .leaveBlock 0 true] d₁).registry.rules
        = [⟨.str "presence", [.str "x"],
            .scoped ⟨.str "a", .str "go", .str "state"⟩ .always, .null⟩] := by
  intro d edges
  have opened : (openEvent "go" ∅).run d
      = .ok 0 { d with blocks := [{ name := "go" }] } := rfl
  obtain ⟨-, registry, -⟩ := aborted_keeps_rules opened [edges]
  exact ⟨_, opened, congrArg Registry.rules registry⟩

end Draft

end Lifecycle
