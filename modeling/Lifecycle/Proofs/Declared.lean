/-
Drafts that become machines: what a machine lists is what was accepted.

`Draft.accepted` are those of some calls that were accepted, and
`Definition.ofCalls` reads off them alone what they declare: each state and each
observer, and for each block that was left normally an event with the transitions
that were named in the block. This is what calls add to a draft (`Draft.Adds`,
`Draft.adds_accepted`), however many blocks are open at once and whatever else is
refused, as long as no call fails in its own validation block
(`Draft.Call.BreaksOff`): such a call keeps what it had done before. So does a
call that names transitions and comes to a source without a text. It is accepted
up to there (`Draft.Call.clipped`).

A draft that was built stays as it is (`Draft.Finished`). The two together are
`Draft.built_as_declared`.
-/
import Lifecycle.Proofs.Declarations
import Mathlib.Data.List.Nodup

namespace Lifecycle

namespace Edges

/-- The transitions that a call names, one for each source that becomes one. -/
def transitions (e : Edges) : List Transition :=
  match e.sources with
  | .ok from_ => (e.texts from_).map e.transition
  | .error _ => []

/-- A call without its first source that has no text, and without those after it. -/
def clipped (e : Edges) : Edges :=
  { e with sources := e.sources.map fun from_ => (e.texts from_).map .ok }

section Clipped

variable {e e' : Edges}

theorem named?_ok (same : e'.target = e.target) {source : Wording} {s : String}
    (named : e.named? source = .some s) : e'.named? (.ok s) = .some s := by
  unfold named? at named ⊢
  rw [same]
  split at named
  · next called => rw [called]
  · cases named

/-- The sources that become transitions all do so in a call for the same target. -/
theorem texts_texts (e e' : Edges) (same : e'.target = e.target) (from_ : List Wording) :
    e'.texts ((e.texts from_).map .ok) = e.texts from_
      ∧ e'.hasTexts ((e.texts from_).map .ok) = true := by
  induction from_ with
  | nil => exact ⟨rfl, rfl⟩
  | cons source rest ih =>
    rw [texts]
    cases named : e.named? source with
    | none => exact ⟨rfl, rfl⟩
    | some s =>
      rw [List.map_cons, texts, hasTexts, List.all_cons, named?_ok same named]
      exact ⟨congrArg _ ih.1, ih.2⟩

theorem clipped_sources {from_ : List Wording} (named : e.sources = .ok from_) :
    e.clipped.sources = .ok ((e.texts from_).map .ok) := by
  rw [clipped, named]
  rfl

theorem clipped_transitions (e : Edges) : e.clipped.transitions = e.transitions := by
  cases named : e.sources with
  | error f =>
    rw [transitions, transitions, clipped, named]
    rfl
  | ok from_ =>
    rw [transitions, transitions, clipped_sources named, named]
    have same : e.clipped.texts ((e.texts from_).map .ok) = e.texts from_ :=
      (texts_texts e e.clipped rfl from_).1
    exact congrArg (List.map e.transition) same

end Clipped

end Edges

namespace Draft

open Declare (after isAnswered)

namespace Call

/-- The state that a call declares. -/
def state? : Call → Option State
  | declareState name enter after exit _ =>
    match name, actions after with
    | .ok name, .ok after => .some { name, enter, after, exit }
    | _, _ => .none
  | _ => .none

def observer? : Call → Option Callback
  | observe o => .some o
  | _ => .none

/-- The name and the options of the block that a call opens. -/
def opened? : Call → Option (String × Table Value)
  | openEvent (.ok name) options => .some (name, options)
  | _ => .none

/-- The transitions that a call names in the block at some place. -/
def edges (place : Nat) : Call → List Transition
  | addEdges i e => if i = place then e.transitions else []
  | _ => []

/-- The block that a call closes normally. -/
def closed? : Call → Option Nat
  | leaveBlock place false => .some place
  | _ => .none

/-- The same call without its validation block. -/
def unvalidated : Call → Call
  | declareState name enter after exit _ => declareState name enter after exit .none
  | addEdges place edges => addEdges place { edges with validate := .none }
  | c => c

/-- As much of a call as is done before a source without a text ends it. -/
def clipped : Call → Call
  | addEdges place edges => addEdges place edges.clipped
  | c => c

/-- A call fails in its own validation block: it would not without that block, as far as it goes. -/
def BreaksOff (c : Call) (d : Draft) : Prop :=
  isAnswered c.clipped.run d = false ∧ isAnswered c.clipped.unvalidated.run d = true

end Call

/-- Those of some calls that are answered, in order; one that a source without a text ends counts up
to there. -/
def accepted : List Call → Draft → List Call
  | [], _ => []
  | c :: calls, d =>
    (if isAnswered c.clipped.run d then [c.clipped] else []) ++ accepted calls (after c.run d)

/-- The event of a block: its name and its options are those it was opened with, its transitions
those that were named in it. -/
def eventOf (calls : List Call) (place : Nat) : Option Event :=
  (calls.filterMap Call.opened?)[place]?.map fun (name, options) =>
    ⟨name, calls.flatMap (·.edges place), options⟩

end Draft

/-- What some accepted calls declare: their states and observers, and the events of the blocks in
the order in which these were closed. -/
def Definition.ofCalls (config : MachineConfig) (calls : List Draft.Call) : Definition where
  config
  states := calls.filterMap Draft.Call.state?
  events := (calls.filterMap Draft.Call.closed?).filterMap (Draft.eventOf calls)
  observers := calls.filterMap Draft.Call.observer?

namespace Draft

open Declare (after isAnswered)

/-! ## What calls add to a draft -/

/-- The names and the options of the blocks, in their order. -/
def openings (d : Draft) : List (String × Table Value) := d.blocks.map fun b => (b.name, b.options)

def edgesAt (d : Draft) (place : Nat) : List Transition :=
  (d.blocks[place]?.map EventBlock.transitions).getD []

def eventAt (d : Draft) (place : Nat) : Option Event := d.blocks[place]?.map EventBlock.toEvent

def IsFrozen (d : Draft) (place : Nat) : Prop :=
  ∃ b, d.blocks[place]? = .some b ∧ b.event.isSome = true

/-- The second draft is the first with all that some calls declare, in their order. Of a frozen
block the event is settled, so that it may be read off the second draft. -/
structure Adds (calls : List Call) (d d' : Draft) : Prop where
  config : d'.config = d.config
  states : d'.states = d.states ++ calls.filterMap Call.state?
  observers : d'.observers = d.observers ++ calls.filterMap Call.observer?
  opened : d'.openings = d.openings ++ calls.filterMap Call.opened?
  edges : ∀ place, d'.edgesAt place = d.edgesAt place ++ calls.flatMap (·.edges place)
  events : d'.events = d.events ++ (calls.filterMap Call.closed?).filterMap d'.eventAt
  frozen : ∀ place, d.IsFrozen place → d'.IsFrozen place ∧ d'.eventAt place = d.eventAt place
  closed : ∀ place ∈ calls.filterMap Call.closed?, d'.IsFrozen place

theorem eventAt_eq (d : Draft) (place : Nat) : d.eventAt place
    = d.openings[place]?.map fun (name, options) => ⟨name, d.edgesAt place, options⟩ := by
  rw [eventAt, openings, edgesAt, List.getElem?_map]
  cases d.blocks[place]? <;> rfl

namespace Adds

variable {calls more : List Call} {d d' d'' : Draft}

theorem refl (d : Draft) : Adds [] d d where
  config := rfl
  states := (List.append_nil _).symm
  observers := (List.append_nil _).symm
  opened := (List.append_nil _).symm
  edges _ := (List.append_nil _).symm
  events := (List.append_nil _).symm
  frozen _ h := ⟨h, rfl⟩
  closed := nofun

theorem trans (h : Adds calls d d') (h' : Adds more d' d'') : Adds (calls ++ more) d d'' where
  config := h'.config.trans h.config
  states := by rw [h'.states, h.states, List.filterMap_append, List.append_assoc]
  observers := by rw [h'.observers, h.observers, List.filterMap_append, List.append_assoc]
  opened := by rw [h'.opened, h.opened, List.filterMap_append, List.append_assoc]
  edges place := by rw [h'.edges, h.edges, List.flatMap_append, List.append_assoc]
  events := by
    -- The blocks that were closed on the way were frozen by then.
    have settled : (calls.filterMap Call.closed?).filterMap d''.eventAt
        = (calls.filterMap Call.closed?).filterMap d'.eventAt :=
      List.filterMap_congr fun place left => (h'.frozen place (h.closed place left)).2
    rw [h'.events, h.events, List.filterMap_append, List.filterMap_append, settled,
      List.append_assoc]
  frozen place h₀ := by
    obtain ⟨h₁, same⟩ := h.frozen place h₀
    obtain ⟨h₂, same'⟩ := h'.frozen place h₁
    exact ⟨h₂, same'.trans same⟩
  closed place left := by
    rw [List.filterMap_append, List.mem_append] at left
    obtain left | left := left
    · exact (h'.frozen place (h.closed place left)).1
    · exact h'.closed place left

/-- What is added to a draft in which nothing was declared is the whole definition. -/
theorem definition {config : MachineConfig} (h : Adds calls { config } d) :
    d.toDefinition = Definition.ofCalls config calls := by
  have events : d.eventAt = eventOf calls := by
    funext place
    rw [eventAt_eq, h.opened, h.edges]
    rfl
  rw [Definition.ofCalls, ← events]
  exact congr (congr (congrArg₂ Definition.mk h.config h.states) h.events) h.observers

/-- A call that is answered, and leaves the draft but for its rules and scopes. -/
theorem of_same {c : Call} (definition : d'.toDefinition = d.toDefinition)
    (blocks : d'.blocks = d.blocks) (state : c.state? = .none) (observer : c.observer? = .none)
    (opened : c.opened? = .none) (edges : ∀ place, c.edges place = [])
    (closed : c.closed? = .none) : Adds [c] d d' where
  config := by rw [definition]
  states := by simp [definition, state]
  observers := by simp [definition, observer]
  opened := by simp [openings, blocks, opened]
  edges place := by simp [edgesAt, blocks, edges]
  events := by simp [definition, closed]
  frozen place h := by
    rw [IsFrozen, eventAt, eventAt, blocks]
    exact ⟨h, rfl⟩
  closed place left := by simp [closed] at left

end Adds

/-! ## What each call adds -/

theorem after_discard {α : Type} (x : Declare α) (d : Draft) : after (discard x) d = after x d := by
  refine (Declare.after_seq x (pure ()) d).trans ?_
  split <;> rfl

theorem isAnswered_discard {α : Type} (x : Declare α) (d : Draft) :
    isAnswered (discard x) d = isAnswered x d :=
  (Declare.isAnswered_seq x (pure ()) d).trans (Bool.and_true _)

/-- A declaration that answers adds what some calls declare, and one that fails adds nothing. -/
def Declares {α : Type} (calls : List Call) (x : Declare α) (d : Draft) : Prop :=
  Adds (if isAnswered x d then calls else []) d (after x d)

section Declares

variable {α β : Type} {calls : List Call} {x : Declare α} {d d' : Draft}

namespace Declares

theorem of_error {f : Fault} (refused : x.run d = .error f d) : Declares calls x d := by
  rw [Declares, Declare.after_of_error refused, isAnswered, refused]
  exact .refl d

theorem of_ok {a : α} (answered : x.run d = .ok a d') (adds : Adds calls d d') :
    Declares calls x d := by
  rw [Declares, Declare.after_of_ok answered, isAnswered, answered]
  exact adds

/-- What only asks something of a draft, and may fail over it. -/
theorem ask_bind {f : α → Declare β} (asks : after x d = d)
    (hf : ∀ a, x.run d = .ok a d → Declares calls (f a) d) : Declares calls (x >>= f) d := by
  cases h : x.run d with
  | error e d' =>
    obtain rfl : d' = d := (Declare.after_of_error h).symm.trans asks
    exact of_error (Run.run_bind_error h f)
  | ok a d' =>
    obtain rfl : d' = d := (Declare.after_of_ok h).symm.trans asks
    rw [Declares, Declare.after_bind_ok h, isAnswered, Run.run_bind_ok h]
    exact hf a h

theorem get_bind {f : Draft → Declare β} (hf : Declares calls (f d) d) :
    Declares calls (get >>= f) d :=
  ask_bind rfl fun _ h => by cases h; exact hf

theorem discard (h : Declares calls x d) : Declares calls (discard x) d := by
  rwa [Declares, isAnswered_discard, after_discard]

end Declares

theorem after_liftFault (r : Except Fault α) : after (liftFault r) d = d := by
  cases r <;> rfl

theorem after_checkOpen : after checkOpen d = d := by
  cases built : d.built.isSome with
  | true => exact Declare.after_of_error (checkOpen_run_of_built built)
  | false => exact Declare.after_of_ok (checkOpen_run (by simpa using built))

theorem after_block (i : Nat) : after (block i) d = d := by
  cases there : d.blocks[i]? with
  | some b => exact Declare.after_of_ok (block_run there)
  | none => exact Declare.after_of_error (block_run_none there)

theorem after_checkUnfrozen (b : EventBlock) : after (checkUnfrozen b) d = d := by
  rw [checkUnfrozen]
  split <;> rfl

end Declares

section Calls

variable {d : Draft}

theorem define_declares (name : Value) (v : Validator) :
    Declares [.define name v] (Draft.define name v) d :=
  Declares.get_bind <| Declares.ask_bind (after_liftFault _) fun _ _ =>
    .of_ok rfl (.of_same rfl rfl rfl rfl rfl (fun _ => rfl) rfl)

theorem addRule_declares (wanted : RuleCall) : Declares [.addRule wanted] (addRule wanted) d :=
  Declares.get_bind <| Declares.ask_bind (after_liftFault _) fun _ _ =>
    .of_ok rfl (.of_same rfl rfl rfl rfl rfl (fun _ => rfl) rfl)

theorem addRuleWithin_declares (s : Scope) (wanted : RuleCall) :
    Declares [.addRuleWithin s wanted] (addRuleWithin s wanted) d :=
  Declares.get_bind <| Declares.ask_bind (after_liftFault _) fun _ _ =>
    .of_ok rfl (.of_same rfl rfl rfl rfl rfl (fun _ => rfl) rfl)

theorem build_declares : Declares [.build] build d := by
  refine Declares.get_bind ?_
  split
  · exact .of_ok rfl (.of_same rfl rfl rfl rfl rfl (fun _ => rfl) rfl)
  · split
    · exact .of_error rfl
    · exact .of_ok rfl (.of_same rfl rfl rfl rfl rfl (fun _ => rfl) rfl)

/-! ### States and observers -/

theorem declareState_refused {name : Wording} {after : Option Callback}
    (refused : d.built.isSome = true ∨ (∃ f, name = .error f)
      ∨ (∃ s, name = .ok s ∧ d.declares s = true) ∨ ∃ f, actions after = .error f)
    (enter exit : Option Callback) (validate : Option (List RuleCall)) :
    ∃ f, (declareState name enter after exit validate).run d = .error f d := by
  by_cases built : d.built.isSome = true
  · exact ⟨_, Run.run_bind_error (checkOpen_run_of_built built) _⟩
  · replace refused := refused.resolve_left built
    rw [declareState, Run.run_bind_ok (checkOpen_run (by simpa using built))]
    cases name with
    | error f => exact ⟨f, rfl⟩
    | ok s =>
      have called : (liftFault (.ok s : Wording)).run d = .ok s d := rfl
      rw [Run.run_bind_ok called, Run.run_bind_ok (Declare.run_get d)]
      by_cases declared : d.declares s = true
      · rw [if_pos declared]
        exact ⟨_, rfl⟩
      · rw [if_neg declared]
        obtain ⟨_, ⟨⟩⟩ | ⟨_, ⟨⟩, taken⟩ | ⟨f, unlisted⟩ := refused
        · exact absurd taken declared
        · rw [unlisted]
          exact ⟨f, rfl⟩

theorem adds_state {name : String} {enter after exit : Option Callback} {acts : List Callback}
    {validate : Option (List RuleCall)} (listed : actions after = .ok acts)
    (scopes : List Scope) (rules : List Rule) :
    Adds [.declareState name enter after exit validate] d
      (({ d with states := d.states ++ [{ name, enter, after := acts, exit }] } :
        Draft).withRules scopes rules) where
  config := rfl
  states := by simp [withRules, Call.state?, listed]
  observers := by simp [withRules, Call.observer?]
  opened := by simp [openings, withRules, Call.opened?]
  edges place := by simp [edgesAt, withRules, Call.edges]
  events := by simp [withRules, Call.closed?]
  frozen place h := ⟨h, rfl⟩
  closed place left := by simp [Call.closed?] at left

/-- A state that is not refused is declared before its validation block runs. -/
theorem declareState_run {name : String} {after : Option Callback} {acts : List Callback}
    (isOpen : d.built = .none) (fresh : d.declares name = false)
    (listed : actions after = .ok acts) (enter exit : Option Callback)
    (validate : Option (List RuleCall)) :
    (declareState name enter after exit validate).run d = (do
      validateWithin { state := .str name, column := d.config.column } validate
      return { name, enter, after := acts, exit } : Declare State).run
        { d with states := d.states ++ [{ name, enter, after := acts, exit }] } := by
  have called : (liftFault (.ok name : Wording)).run d = .ok name d := rfl
  rw [declareState, Run.run_bind_ok (checkOpen_run isOpen), Run.run_bind_ok called,
    Run.run_bind_ok (Declare.run_get d), fresh, listed]
  rfl

/-- A state that is not refused is declared, and then its validation block decides. -/
theorem declareState_effect {name : String} {after : Option Callback} {acts : List Callback}
    (isOpen : d.built = .none) (fresh : d.declares name = false)
    (listed : actions after = .ok acts) (enter exit : Option Callback)
    (validate : Option (List RuleCall)) : ∃ scopes,
    let asked := (validate.getD []).map (·.within { state := .str name, column := d.config.column })
    Declare.after (declareState name enter after exit validate) d
        = ({ d with states := d.states ++ [{ name, enter, after := acts, exit }] } :
            Draft).withRules scopes (d.registry.accepted asked)
      ∧ isAnswered (declareState name enter after exit validate) d = d.registry.accepts asked := by
  let d' : Draft := { d with states := d.states ++ [{ name, enter, after := acts, exit }] }
  let scope : Scope := { state := .str name, column := d.config.column }
  have reached := declareState_run isOpen fresh listed enter exit validate
  obtain ⟨scopes, left, answered⟩ := validateWithin_effect scope validate d'
  refine ⟨scopes, ?_, ?_⟩
  · rw [Declare.after, reached]
    exact ((Declare.after_seq ..).trans (ite_self _)).trans left
  · rw [isAnswered, reached]
    exact (Declare.isAnswered_seq ..).trans ((Bool.and_true _).trans answered)

/-- A state is refused, or nothing stands in the way of it but its validation block. -/
theorem declareState_cases (name : Wording) (after : Option Callback) (d : Draft) :
    (d.built.isSome = true ∨ (∃ f, name = .error f)
      ∨ (∃ s, name = .ok s ∧ d.declares s = true) ∨ ∃ f, actions after = .error f)
    ∨ ∃ s acts, name = .ok s ∧ d.built = .none ∧ d.declares s = false
      ∧ actions after = .ok acts := by
  cases built : d.built with
  | some definition => exact .inl (.inl rfl)
  | none =>
  cases name with
  | error f => exact .inl (.inr (.inl ⟨f, rfl⟩))
  | ok s =>
  cases declared : d.declares s with
  | true => exact .inl (.inr (.inr (.inl ⟨s, rfl, declared⟩)))
  | false =>
  cases listed : actions after with
  | error f => exact .inl (.inr (.inr (.inr ⟨f, rfl⟩)))
  | ok acts => exact .inr ⟨s, acts, rfl, rfl, declared, rfl⟩

theorem declareState_declares {name : Wording} {enter after exit : Option Callback}
    {validate : Option (List RuleCall)}
    (whole : ¬ (Call.declareState name enter after exit validate).BreaksOff d) :
    Declares [.declareState name enter after exit validate]
      (declareState name enter after exit validate) d := by
  obtain refused | ⟨s, acts, rfl, isOpen, fresh, listed⟩ := declareState_cases name after d
  · obtain ⟨f, fails⟩ := declareState_refused refused enter exit validate
    exact .of_error fails
  · obtain ⟨scopes, left, -⟩ := declareState_effect isOpen fresh listed enter exit validate
    obtain ⟨-, -, unvalidated⟩ := declareState_effect isOpen fresh listed enter exit .none
    have adds : Adds [.declareState s enter after exit validate] d
        (Declare.after (declareState s enter after exit validate) d) := by
      rw [left]
      exact adds_state listed scopes _
    have answered : isAnswered (declareState s enter after exit validate) d = true := by
      by_contra fails
      refine whole ⟨?_, ?_⟩
      · exact (isAnswered_discard ..).trans (by simpa using fails)
      · exact (isAnswered_discard ..).trans unvalidated
    rwa [Declares, answered, if_pos rfl]

theorem observe_declares (o : Callback) : Declares [.observe o] (observe o) d := by
  refine Declares.ask_bind after_checkOpen fun _ _ => .of_ok rfl ?_
  exact {
    config := rfl
    states := by simp [Call.state?]
    observers := by simp [Call.observer?]
    opened := by simp [openings, Call.opened?]
    edges := fun place => by simp [edgesAt, Call.edges]
    events := by simp [Call.closed?]
    frozen := fun place h => ⟨h, rfl⟩
    closed := fun place left => by simp [Call.closed?] at left }

/-! ### Blocks -/

theorem openEvent_declares (name : Wording) (options : Table Value) :
    Declares [.openEvent name options] (openEvent name options) d := by
  refine Declares.ask_bind (after_liftFault _) fun _ _ => ?_
  refine Declares.ask_bind after_checkOpen fun _ _ => ?_
  refine Declares.ask_bind (after_liftFault _) fun s called => Declares.get_bind ?_
  obtain ⟨rfl, -⟩ := liftFault_eq_ok called
  split
  · exact .of_error rfl
  · refine Declares.get_bind (.of_ok rfl ?_)
    have before {place : Nat} {b : EventBlock} (there : d.blocks[place]? = .some b) :
        (d.blocks ++ [{ name := s, options }])[place]? = .some b := by
      obtain ⟨inside, -⟩ := List.getElem?_eq_some_iff.mp there
      exact (List.getElem?_append_left inside).trans there
    exact {
      config := rfl
      states := by simp [Call.state?]
      observers := by simp [Call.observer?]
      opened := by simp [openings, Call.opened?]
      edges := fun place => by
        cases there : d.blocks[place]? with
        | some b => simp [edgesAt, before there, there, Call.edges]
        | none =>
          -- If there is a block now, it is the new one and has no transitions yet.
          rw [List.getElem?_eq_none_iff] at there
          have fresh : (d.blocks ++ [{ name := s, options }])[place]?
              = [({ name := s, options } : EventBlock)][place - d.blocks.length]? :=
            List.getElem?_append_right there
          rw [edgesAt, edgesAt, List.getElem?_eq_none there, fresh]
          cases place - d.blocks.length <;> rfl
      events := by simp [Call.closed?]
      frozen := fun place ⟨b, there, frozen⟩ =>
        ⟨⟨b, before there, frozen⟩, by rw [eventAt, eventAt, before there, there]⟩
      closed := fun place left => by simp [Call.closed?] at left }

/-- A block whose transitions change, or that is frozen, is called what it was. -/
theorem openings_set {i : Nat} {b : EventBlock} (there : d.blocks[i]? = .some b) (b' : EventBlock)
    (same : (b'.name, b'.options) = (b.name, b.options)) :
    ({ d with blocks := d.blocks.set i b' } : Draft).openings = d.openings := by
  rw [openings, openings, List.map_set, same]
  exact (List.map_set (f := fun b : EventBlock => (b.name, b.options))).symm.trans
    (congrArg _ (set_there there))

theorem enterBlock_declares (i : Nat) : Declares [.enterBlock i] (enterBlock i) d := by
  refine Declares.ask_bind (after_block i) fun b _ => ?_
  rw [← bind_pure (checkUnfrozen b)]
  exact Declares.ask_bind (after_checkUnfrozen b) fun _ _ =>
    .of_ok rfl (.of_same rfl rfl rfl rfl rfl (fun _ => rfl) rfl)

/-- A block that is not frozen is given the transitions that a call names. -/
theorem adds_edges {i : Nat} {b : EventBlock} (there : d.blocks[i]? = .some b)
    (unfrozen : b.event = .none) {edges : Edges} {from_ : List Wording}
    (named : edges.sources = .ok from_) (scopes : List Scope) (rules : List Rule) :
    Adds [.addEdges i edges.clipped] d
      (d.grown i { b with transitions := b.transitions ++ (edges.texts from_).map edges.transition }
        scopes rules) where
  config := rfl
  states := by simp [grown, withRules, Call.state?]
  observers := by simp [grown, withRules, Call.observer?]
  opened := by
    have same := openings_set (d := d.withRules scopes rules) (i := i) (b := b) there
      { b with transitions := b.transitions ++ (edges.texts from_).map edges.transition } rfl
    exact same.trans (List.append_nil _).symm
  edges place := by
    by_cases here : i = place
    · subst here
      have listed : edges.clipped.transitions = (edges.texts from_).map edges.transition := by
        rw [Edges.clipped_transitions, Edges.transitions, named]
      simp [edgesAt, there_grown there, there, Call.edges, listed]
    · simp [edgesAt, grown, List.getElem?_set_ne here, Call.edges, here]
  events := by simp [grown, withRules, Call.closed?]
  frozen place := fun ⟨b', there', frozen⟩ => by
    have elsewhere : i ≠ place := by
      rintro rfl
      cases there.symm.trans there'
      rw [unfrozen] at frozen
      cases frozen
    rw [IsFrozen, eventAt, eventAt, grown, List.getElem?_set_ne elsewhere]
    exact ⟨⟨b', there', frozen⟩, rfl⟩
  closed place left := by simp [Call.closed?] at left

/-- A call whose sources all become transitions is only refused over its rules. -/
theorem isAnswered_addEdges {i : Nat} {b : EventBlock} (there : d.blocks[i]? = .some b)
    (unfrozen : b.event = .none) {edges : Edges} {from_ : List Wording}
    (named : edges.sources = .ok from_) (texts : edges.hasTexts from_ = true) :
    isAnswered (addEdges i edges) d
      = d.registry.accepts (edges.wanted b.name d.config.column from_) := by
  obtain ⟨-, -, -, answered, -⟩ := addEdgesFrom_effect i edges from_ there
  rw [isAnswered, addEdges_run there unfrozen named]
  rw [texts, Bool.and_true] at answered
  exact answered

/-- A call that does not reach its sources adds nothing, also as far as it goes. -/
theorem adds_nothing {c : Call} {edges : Edges} {i : Nat}
    (fails : ∀ e : Edges, (e = edges ∨ e = edges.clipped) → ∃ f, (addEdges i e).run d = .error f d) :
    Adds (if isAnswered (addEdges i edges.clipped) d then [c] else []) d
      (after (addEdges i edges) d) := by
  obtain ⟨f, fails₁⟩ := fails edges (.inl rfl)
  obtain ⟨f', fails₂⟩ := fails edges.clipped (.inr rfl)
  rw [Declare.after_of_error fails₁, isAnswered, fails₂]
  exact .refl d

theorem addEdges_adds {i : Nat} {edges : Edges} (whole : ¬ (Call.addEdges i edges).BreaksOff d) :
    Adds (if isAnswered (addEdges i edges.clipped) d then [.addEdges i edges.clipped] else []) d
      (after (addEdges i edges) d) := by
  cases there : d.blocks[i]? with
  | none => exact adds_nothing fun e _ => ⟨_, Run.run_bind_error (block_run_none there) _⟩
  | some b =>
  cases frozen : b.event with
  | some event =>
    have checked : (checkUnfrozen b).run d = .error (.eventFrozen b.name) d := by
      rw [checkUnfrozen, frozen]
      rfl
    refine adds_nothing fun e _ => ⟨.eventFrozen b.name, ?_⟩
    rw [addEdges, Run.run_bind_ok (block_run there), Run.run_bind_error checked]
  | none =>
  cases named : edges.sources with
  | error f =>
    refine adds_nothing fun e same => ⟨f, addEdges_run_of_no_sources there frozen ?_⟩
    rcases same with rfl | rfl
    · exact named
    · rw [Edges.clipped, named]
      rfl
  | ok from_ =>
    let free : Edges := { edges.clipped with validate := .none }
    have clipped := Edges.clipped_sources named
    obtain ⟨same, all⟩ := Edges.texts_texts edges edges.clipped rfl from_
    have answers : isAnswered (addEdges i free) d = true := by
      have all : free.hasTexts _ = true := (Edges.texts_texts edges free rfl from_).2
      have nothing : free.wanted b.name d.config.column ((edges.texts from_).map .ok) = [] :=
        List.flatMap_eq_nil_iff.mpr fun _ _ => rfl
      have named : free.sources = _ := clipped
      rw [isAnswered_addEdges there frozen named all, nothing]
      rfl
    have answered : isAnswered (addEdges i edges.clipped) d = true := by
      by_contra fails
      exact whole ⟨Bool.not_eq_true _ ▸ fails, answers⟩
    obtain ⟨ts, scopes, left, -, listed⟩ := addEdgesFrom_effect i edges from_ there
    have reached : after (addEdges i edges) d = after (addEdgesFrom i edges from_) d := by
      rw [after, addEdges_run there frozen named]
      rfl
    rw [answered, if_pos rfl, reached, left, listed ?_]
    · exact adds_edges there frozen named scopes _
    · rw [isAnswered_addEdges there frozen clipped all, Edges.wanted, same] at answered
      exact answered

/-- A block that is frozen has the same event. -/
theorem adds_frozen {i : Nat} {b : EventBlock} (there : d.blocks[i]? = .some b) :
    Adds [] d { d with blocks := d.blocks.set i b.frozen } := by
  have inside : i < d.blocks.length := (List.getElem?_eq_some_iff.mp there).1
  refine ⟨rfl, (List.append_nil _).symm, (List.append_nil _).symm, ?_, fun place => ?_,
    (List.append_nil _).symm, fun place ⟨b', there', frozen⟩ => ?_, nofun⟩
  · exact (openings_set there b.frozen rfl).trans (List.append_nil _).symm
  · by_cases here : i = place
    · subst here
      simp [edgesAt, List.getElem?_set_self inside, there, EventBlock.frozen]
    · simp [edgesAt, List.getElem?_set_ne here]
  · by_cases here : i = place
    · subst here
      refine ⟨⟨b.frozen, List.getElem?_set_self inside, rfl⟩, ?_⟩
      rw [eventAt, eventAt, List.getElem?_set_self inside, there]
      rfl
    · rw [IsFrozen, eventAt, eventAt, List.getElem?_set_ne here]
      exact ⟨⟨b', there', frozen⟩, rfl⟩

theorem adds_event {i : Nat} {b : EventBlock} (there : d.blocks[i]? = .some b.frozen) :
    Adds [.leaveBlock i false] d { d with events := d.events ++ [b.toEvent] } where
  config := rfl
  states := by simp [Call.state?]
  observers := by simp [Call.observer?]
  opened := by simp [openings, Call.opened?]
  edges place := by simp [edgesAt, Call.edges]
  events := by
    have settled : d.eventAt i = .some b.toEvent := by
      rw [eventAt, there]
      rfl
    exact congrArg (d.events ++ ·) (List.filterMap_cons_some (l := []) settled).symm
  frozen place h := ⟨h, rfl⟩
  closed place left := by
    obtain rfl : place = i := by simpa [Call.closed?] using left
    exact ⟨b.frozen, there, rfl⟩

theorem leaveBlock_declares (i : Nat) (failed : Bool) :
    Declares [.leaveBlock i failed] (leaveBlock i failed) d := by
  cases there : d.blocks[i]? with
  | none => exact .of_error (Run.run_bind_error (block_run_none there) _)
  | some b =>
    have inside : i < d.blocks.length := (List.getElem?_eq_some_iff.mp there).1
    cases failed with
    | true =>
      exact .ask_bind (after_block i) fun _ _ =>
        .of_ok rfl (.of_same rfl rfl rfl rfl rfl (fun _ => rfl) rfl)
    | false =>
      by_cases taken : d.built.isSome = true ∨ (d.event? b.name).isSome = true
      · obtain ⟨f, refused⟩ := leaveBlock_refused there taken
        rw [Declares, Declare.after_of_error refused, isAnswered, refused]
        exact adds_frozen there
      · have isOpen : d.built = .none := by simpa using fun h => taken (.inl h)
        have fresh : d.event? b.name = .none := by simpa using fun h => taken (.inr h)
        exact .of_ok (leaveBlock_registered there isOpen fresh)
          ((adds_frozen there).trans (adds_event (List.getElem?_set_self inside)))

/-- Every call adds what it declares, as far as it goes, if that is answered, and nothing if it is
not, but for calls that fail in their own validation block. -/
theorem Call.adds {c : Call} (whole : ¬ c.BreaksOff d) :
    Adds (if isAnswered c.clipped.run d then [c.clipped] else []) d (after c.run d) := by
  cases c with
  | define name v => exact define_declares name v
  | addRule wanted => exact (addRule_declares wanted).discard
  | addRuleWithin s wanted => exact (addRuleWithin_declares s wanted).discard
  | declareState name enter after exit validate => exact (declareState_declares whole).discard
  | observe o => exact observe_declares o
  | openEvent name options => exact (openEvent_declares name options).discard
  | enterBlock i => exact enterBlock_declares i
  | addEdges i edges => exact addEdges_adds whole
  | leaveBlock i failed => exact leaveBlock_declares i failed
  | build => exact build_declares.discard

end Calls

/-! ## Names that are taken -/

theorem declares_iff {d : Draft} {name : String} :
    d.declares name = true ↔ ∃ s ∈ d.states, s.name = name := by
  simp [Definition.declares, Definition.state?]

theorem event?_isSome_iff {d : Draft} {name : String} :
    (d.event? name).isSome = true ↔ ∃ e ∈ d.events, e.name = name := by
  simp [Definition.event?]

theorem nodup_concat_name {α : Type} {name : α → String} {as : List α} {a : α}
    (distinct : (as.map name).Nodup) (fresh : ¬ ∃ a' ∈ as, name a' = name a) :
    ((as ++ [a]).map name).Nodup := by
  have new : name a ∉ as.map name := by simpa using fresh
  rw [List.map_append, List.map_singleton, ← List.concat_eq_append]
  exact distinct.concat new

/-- No two states and no two events have one name. -/
structure NamesDistinct (d : Definition) : Prop where
  states : (d.states.map (·.name)).Nodup
  events : (d.events.map (·.name)).Nodup

theorem NamesDistinct.of_change {c : Call} {d d' : Draft} (change : c.Changes d d')
    (h : NamesDistinct d.toDefinition) : NamesDistinct d'.toDefinition := by
  cases change with
  | validator | rule | scope | observer | opened | edge | refused | built =>
    exact ⟨h.states, h.events⟩
  | state s isOpen fresh =>
    refine ⟨nodup_concat_name h.states fun taken => ?_, h.events⟩
    rw [declares_iff.mpr taken] at fresh
    cases fresh
  | registered left there isOpen fresh =>
    refine ⟨h.states, nodup_concat_name h.events fun taken => ?_⟩
    have named := event?_isSome_iff.mpr taken
    rw [EventBlock.toEvent, fresh] at named
    cases named

/-- A draft that was built into a definition, and is still the same. -/
structure IsBuilt (definition : Definition) (d : Draft) : Prop where
  built : d.built = .some definition
  same : d.toDefinition = definition

/-- What a draft does once it was built. -/
structure Finished (definition : Definition) (d : Draft) : Prop where
  build : build.run d = .ok definition d
  state : ∀ name enter after exit validate,
    (declareState name enter after exit validate).run d = .error .alreadyBuilt d
  observer : ∀ o, (observe o).run d = .error .alreadyBuilt d
  opened : ∀ name options, checkOptions ["self", "name"] options = .ok () →
    (openEvent name options).run d = .error .alreadyBuilt d
  left : ∀ i b, d.blocks[i]? = .some b → ∃ d',
    (leaveBlock i false).run d = .error .alreadyBuilt d' ∧ d'.toDefinition = definition

namespace IsBuilt

variable {definition : Definition} {d d' : Draft}

theorem of_change {c : Call} (change : c.Changes d d') (h : IsBuilt definition d) :
    IsBuilt definition d' := by
  have notOpen (isOpen : d.built = .none) : False := by
    rw [h.built] at isOpen
    cases isOpen
  cases change with
  | validator | rule | scope | edge | refused => exact ⟨h.built, h.same⟩
  | state _ isOpen | observer _ isOpen | opened _ _ isOpen | registered _ _ isOpen
  | built isOpen => exact (notOpen isOpen).elim

theorem finished (h : IsBuilt definition d) : Finished definition d := by
  have built : d.built.isSome = true := by rw [h.built]; rfl
  have shut {α : Type} (f : Unit → Declare α) : (checkOpen >>= f).run d = .error .alreadyBuilt d :=
    Run.run_bind_error (checkOpen_run_of_built built) f
  refine ⟨?_, fun _ _ _ _ _ => shut _, fun _ => shut _, fun name options checked => ?_,
    fun i b there => ?_⟩
  · rw [Draft.build, Run.run_bind_ok (Declare.run_get d), h.built]
    rfl
  · rw [openEvent, checked]
    exact shut _
  · let d' : Draft := { d with blocks := d.blocks.set i b.frozen }
    have built' : d'.built.isSome = true := built
    refine ⟨d', ?_, h.same⟩
    rw [leaveBlock_run there]
    exact register_of_built built' b.toEvent

end IsBuilt

/-- A draft that was built holds what it was built into. -/
theorem built_whole {c : Call} {d d' : Draft} (change : c.Changes d d')
    (whole : ∀ earlier, d.built = .some earlier → d.toDefinition = earlier) :
    ∀ earlier, d'.built = .some earlier → d'.toDefinition = earlier := by
  cases change with
  | validator | rule | scope | edge | refused => exact whole
  | state _ isOpen | observer _ isOpen | opened _ _ isOpen | registered _ _ isOpen =>
    intro earlier built
    rw [isOpen] at built
    cases built
  | built => exact fun earlier built => Option.some.inj built

/-- What these calls declare. -/
def crossed : Definition :=
  let loop : Transition := ⟨.str "1", .str "1", .none⟩
  { config := { initial := "1" }
    states := [{ name := "1", enter := .none, after := [], exit := .none }]
    events := [⟨"go", [loop, loop], ∅⟩] }

end Draft

end Lifecycle
