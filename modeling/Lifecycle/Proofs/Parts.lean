/-
Parts: declarations that stand on their own, whatever their order.

A part is a state with its actions and rules, a whole event block, an observer or
a rule (`Draft.Part`). What an accepted part adds to a draft does not depend on
those before it (`Draft.Gains`). So two drafts to which the same parts were added
in different orders declare the same states and events and hold the same rules,
but for their order (`Draft.Shuffled`): either both of them can be built or neither
can (`Shuffled.build`), and the two machines answer every look-up alike
(`Shuffled.agrees`).
-/
import Lifecycle.Proofs.Aborted
import Lifecycle.Proofs.Alike
import Lifecycle.Proofs.Declared

namespace Lifecycle

namespace Draft

open Declare (after isAnswered)

/-- A declaration that stands on its own. -/
inductive Part where
  | state (name : String) (enter after exit : Option Callback) (validate : Option (List RuleCall))
  /-- A whole event block. -/
  | event (name : String) (options : Table Value) (edges : List Edges)
  | observer (observer : Callback)
  | rule (wanted : RuleCall)
  deriving Inhabited

namespace Part

def declare : Part → Declare Unit
  | state name enter after exit validate => discard (declareState name enter after exit validate)
  | event name options edges => discard (declareEvent name options edges .none)
  | observer o => observe o
  | rule wanted => discard (addRule wanted)

/-! ## What a part adds -/

def states : Part → List State
  | state name enter after exit _ =>
    match actions after with
    | .ok after => [{ name, enter, after, exit }]
    | .error _ => []
  | _ => []

def events : Part → List Event
  | event name options edges => [⟨name, edges.flatMap (·.transitions), options⟩]
  | _ => []

def observers : Part → List Callback
  | observer o => [o]
  | _ => []

/-- The rules that a part adds, where there are some validators already. -/
def rules (r : Registry) (column : Value) : Part → List Rule
  | state name _ _ _ validate =>
    r.accepted ((validate.getD []).map (·.within { state := .str name, column }))
  | event name _ edges => edges.flatMap (·.rules r name column)
  | rule wanted => r.accepted [wanted]
  | observer _ => []

end Part

/-- Declares some parts one after the other. -/
def declareAll : List Part → Declare Unit
  | [] => pure ()
  | p :: ps => do
    p.declare
    declareAll ps

/-- A draft with all that some parts add, in order. -/
structure Gains (ps : List Part) (d d' : Draft) : Prop where
  config : d'.config = d.config
  built : d'.built = d.built
  validators : d'.registry.validators = d.registry.validators
  states : d'.states = d.states ++ ps.flatMap (·.states)
  events : d'.events = d.events ++ ps.flatMap (·.events)
  observers : d'.observers = d.observers ++ ps.flatMap (·.observers)
  rules : d'.registry.rules
    = d.registry.rules ++ ps.flatMap (·.rules d.registry d.config.column)
  distinct : NamesDistinct d.toDefinition → NamesDistinct d'.toDefinition

/-- What only the validators decide stays the same with other rules. -/
theorem Part.rules_congr {r r' : Registry} (same : r'.validators = r.validators) (column : Value)
    (p : Part) : p.rules r' column = p.rules r column := by
  have accepted : r'.accepted = r.accepted := by
    funext ws
    obtain ⟨validators, rules⟩ := r'
    subst same
    exact Registry.accepted_congr ..
  cases p <;> simp only [Part.rules, Edges.rules, accepted]

namespace Gains

variable {ps qs : List Part} {d d' d'' : Draft}

theorem nil (d : Draft) : Gains [] d d where
  config := rfl
  built := rfl
  validators := rfl
  states := (List.append_nil _).symm
  events := (List.append_nil _).symm
  observers := (List.append_nil _).symm
  rules := (List.append_nil _).symm
  distinct h := h

theorem append (h : Gains ps d d') (h' : Gains qs d' d'') : Gains (ps ++ qs) d d'' where
  config := h'.config.trans h.config
  built := h'.built.trans h.built
  validators := h'.validators.trans h.validators
  states := by rw [h'.states, h.states, List.flatMap_append, List.append_assoc]
  events := by rw [h'.events, h.events, List.flatMap_append, List.append_assoc]
  observers := by rw [h'.observers, h.observers, List.flatMap_append, List.append_assoc]
  rules := by
    have same : (fun p : Part => p.rules d'.registry d'.config.column)
        = (·.rules d.registry d.config.column) :=
      funext fun p => by rw [p.rules_congr h.validators, h.config]
    rw [h'.rules, h.rules, List.flatMap_append, List.append_assoc, same]
  distinct := h'.distinct ∘ h.distinct

end Gains

/-! ## What accepted parts add -/

section Accepted

variable {d d' : Draft}

/-- A declaration whose answer is dropped has answered all the same. -/
theorem answered_of_discard {α : Type} {x : Declare α} (h : (discard x).run d = .ok () d') :
    isAnswered x d = true ∧ after x d = d' := by
  constructor
  · rw [← isAnswered_discard, isAnswered, h]
  · rw [← after_discard, Declare.after_of_ok h]

theorem declareState_gains {name : String} {enter after_ exit : Option Callback}
    {validate : Option (List RuleCall)}
    (answered : isAnswered (declareState name enter after_ exit validate) d = true) :
    Gains [.state name enter after_ exit validate] d
      (after (declareState name enter after_ exit validate) d) := by
  obtain refused | ⟨_, acts, ⟨⟩, isOpen, fresh, listed⟩ := declareState_cases name after_ d
  · obtain ⟨f, fails⟩ := declareState_refused refused enter exit validate
    rw [isAnswered, fails] at answered
    cases answered
  · obtain ⟨scopes, left, -⟩ := declareState_effect isOpen fresh listed enter exit validate
    rw [left]
    exact {
      config := rfl
      built := rfl
      validators := rfl
      states := by simp [withRules, Part.states, listed]
      events := (List.append_nil _).symm
      observers := (List.append_nil _).symm
      rules := by simp [withRules, Part.rules]
      distinct := fun h => by
        refine ⟨nodup_concat_name h.states fun taken => ?_, h.events⟩
        rw [declares_iff.mpr taken] at fresh
        cases fresh }

theorem observe_gains {o : Callback} (answered : (observe o).run d = .ok () d') :
    Gains [.observer o] d d' := by
  by_cases built : d.built.isSome = true
  · rw [observe, Run.run_bind_error (checkOpen_run_of_built built)] at answered
    cases answered
  · rw [observe, Run.run_bind_ok (checkOpen_run (by simpa using built))] at answered
    cases answered
    exact {
      config := rfl
      built := rfl
      validators := rfl
      states := (List.append_nil _).symm
      events := (List.append_nil _).symm
      observers := rfl
      rules := (List.append_nil _).symm
      distinct := fun h => ⟨h.states, h.events⟩ }

theorem addRule_gains (w : RuleCall) : Gains [.rule w] d (after (addRule w) d) := by
  rw [(addRule_effect w d).1]
  exact {
    config := rfl
    built := rfl
    validators := rfl
    states := (List.append_nil _).symm
    events := (List.append_nil _).symm
    observers := (List.append_nil _).symm
    rules := by simp [Part.rules, withRules]
    distinct := id }

/-- The transitions and the rules of all calls in a block. -/
theorem addAllEdges_effect (i : Nat) : ∀ (calls : List Edges) {d : Draft} {b : EventBlock},
    d.blocks[i]? = .some b → b.event = .none → isAnswered (addAllEdges i calls) d = true →
      ∃ scopes, after (addAllEdges i calls) d
        = d.grown i { b with transitions := b.transitions ++ calls.flatMap (·.transitions) } scopes
            (calls.flatMap (·.rules d.registry b.name d.config.column))
  | [], d, b, there, _, _ => by
    refine ⟨d.scopes, ?_⟩
    rw [List.flatMap_nil, List.append_nil]
    exact (grown_self there).symm
  | edges :: calls, d, b, there, unfrozen, answered => by
    rw [addAllEdges, Declare.isAnswered_seq, Bool.and_eq_true] at answered
    obtain ⟨first, rest⟩ := answered
    cases named : edges.sources with
    | error f =>
      rw [isAnswered, addEdges_run_of_no_sources there unfrozen named] at first
      cases first
    | ok from_ =>
      have reached := addEdges_run there unfrozen named
      obtain ⟨ts, scopes, left, answers, all⟩ := addEdgesFrom_effect i edges from_ there
      have accepts : d.registry.accepts (edges.wanted b.name d.config.column from_) = true := by
        rw [isAnswered, ← reached] at answers
        exact (Bool.and_eq_true_iff.mp (answers.symm.trans first)).1
      have transitions : edges.transitions = ts := by
        rw [Edges.transitions, named, all accepts]
      have rules : edges.rules d.registry b.name d.config.column
          = d.registry.accepted (edges.wanted b.name d.config.column from_) := by
        rw [Edges.rules, named]
      have here : after (addEdges i edges) d
          = d.grown i { b with transitions := b.transitions ++ edges.transitions } scopes
              (edges.rules d.registry b.name d.config.column) := by
        rw [transitions, rules, ← left, after, after, reached]
      let b₁ : EventBlock := { b with transitions := b.transitions ++ edges.transitions }
      let added := edges.rules d.registry b.name d.config.column
      rw [here] at rest
      obtain ⟨more, left'⟩ :=
        addAllEdges_effect i calls (there_grown there b₁ scopes added) unfrozen rest
      have grouped : { b₁ with transitions := b₁.transitions ++ calls.flatMap Edges.transitions }
          = { b with transitions
              := b.transitions ++ (edges :: calls).flatMap Edges.transitions } := by simp [b₁]
      refine ⟨more, ?_⟩
      rw [addAllEdges, Declare.after_seq, first, if_pos rfl, here, left', grouped, grown_grown]
      simp only [rules_grown]
      rfl

/-- A block that is left in good order registers an event that was not there. -/
theorem leaveBlock_of_answered {i : Nat} {b : EventBlock} (there : d.blocks[i]? = .some b)
    (answered : isAnswered (leaveBlock i false) d = true) :
    d.event? b.name = .none ∧ (leaveBlock i false).run d = .ok ()
      { d with blocks := d.blocks.set i b.frozen, events := d.events ++ [b.toEvent] } := by
  by_cases taken : d.built.isSome = true ∨ (d.event? b.name).isSome = true
  · obtain ⟨f, refused⟩ := leaveBlock_refused there taken
    rw [isAnswered, refused] at answered
    cases answered
  · have isOpen : d.built = .none := by simpa using fun h => taken (.inl h)
    have fresh : d.event? b.name = .none := by simpa using fun h => taken (.inr h)
    exact ⟨fresh, leaveBlock_registered there isOpen fresh⟩

/-- What a whole event block does once it is entered. -/
def fillBlock (i : Nat) (edges : List Edges) : Declare Event := do
  addAllEdges i edges
  leaveBlock i false
  let b ← block i
  return b.event.getD ⟨b.name, b.transitions, b.options⟩

/-- A block that is filled has its transitions and rules, and its event is registered. -/
theorem fillBlock_effect {i : Nat} {b : EventBlock} {edges : List Edges}
    (there : d.blocks[i]? = .some b) (unfrozen : b.event = .none)
    (answered : isAnswered (fillBlock i edges) d = true) :
    let full : EventBlock := { b with transitions := b.transitions ++ edges.flatMap (·.transitions) }
    d.event? b.name = .none ∧ ∃ blocks scopes, after (fillBlock i edges) d
      = { d.withRules scopes (edges.flatMap (·.rules d.registry b.name d.config.column)) with
          blocks, events := d.events ++ [full.toEvent] } := by
  intro full
  rw [fillBlock, Declare.isAnswered_seq, Bool.and_eq_true] at answered
  obtain ⟨filled, closes⟩ := answered
  obtain ⟨scopes, left⟩ := addAllEdges_effect i edges there unfrozen filled
  let rules := edges.flatMap (·.rules d.registry b.name d.config.column)
  let d₁ := d.grown i full scopes rules
  have there₁ : d₁.blocks[i]? = .some full := there_grown there full scopes rules
  have left : after (addAllEdges i edges) d = d₁ := left
  rw [left, Declare.isAnswered_seq, Bool.and_eq_true] at closes
  obtain ⟨closed, -⟩ := closes
  obtain ⟨fresh, registered⟩ := leaveBlock_of_answered there₁ closed
  refine ⟨fresh, d₁.blocks.set i full.frozen, scopes, ?_⟩
  have frozen : (d₁.blocks.set i full.frozen)[i]? = .some full.frozen :=
    List.getElem?_set_self (List.getElem?_eq_some_iff.mp there₁).1
  rw [fillBlock, Declare.after_seq, if_pos filled, left, Declare.after_seq, if_pos closed,
    Declare.after_of_ok registered]
  exact Declare.after_bind_ok (block_run frozen) _

theorem declareEvent_gains {name : String} {options : Table Value} {edges : List Edges}
    (answered : isAnswered (declareEvent name options edges .none) d = true) :
    Gains [.event name options edges] d (after (declareEvent name options edges .none) d) := by
  cases opened : (openEvent name options).run d with
  | error f d₁ =>
    rw [declareEvent, isAnswered, Run.run_bind_error opened] at answered
    cases answered
  | ok i d₁ =>
    obtain ⟨rfl, _, ⟨⟩, rfl⟩ := openEvent_eq_ok opened
    let b : EventBlock := { name, options }
    have there : (d.blocks ++ [b])[d.blocks.length]? = .some b := List.getElem?_concat_length
    have entered : (declareEvent name options edges .none).run d
        = (fillBlock d.blocks.length edges).run { d with blocks := d.blocks ++ [b] } :=
      (Run.run_bind_ok opened _).trans (Run.run_bind_ok (enterBlock_run there rfl) _)
    rw [isAnswered, entered] at answered
    obtain ⟨fresh, blocks, scopes, left⟩ := fillBlock_effect there rfl answered
    have same : after (declareEvent name options edges .none) d
        = after (fillBlock d.blocks.length edges) { d with blocks := d.blocks ++ [b] } := by
      rw [after, after, entered]
    rw [same, left]
    exact {
      config := rfl
      built := rfl
      validators := rfl
      states := (List.append_nil _).symm
      events := rfl
      observers := (List.append_nil _).symm
      rules := by simp [withRules, Part.rules, b]
      distinct := fun h => by
        refine ⟨h.states, nodup_concat_name h.events fun taken => ?_⟩
        have named : (d.event? name).isSome = true := event?_isSome_iff.mpr taken
        have unnamed : d.event? name = .none := fresh
        rw [unnamed] at named
        cases named }

/-- A part that is accepted adds what it declares. -/
theorem Part.gains {p : Part} (accepted : p.declare.run d = .ok () d') : Gains [p] d d' := by
  cases p with
  | state =>
    obtain ⟨answered, rfl⟩ := answered_of_discard accepted
    exact declareState_gains answered
  | event =>
    obtain ⟨answered, rfl⟩ := answered_of_discard accepted
    exact declareEvent_gains answered
  | observer => exact observe_gains accepted
  | rule =>
    obtain ⟨-, rfl⟩ := answered_of_discard accepted
    exact addRule_gains _

theorem declareAll_gains : ∀ (ps : List Part) {d d' : Draft},
    (declareAll ps).run d = .ok () d' → Gains ps d d'
  | [], d, d', accepted => by
    cases accepted
    exact .nil d
  | p :: ps, d, d', accepted => by
    rw [declareAll] at accepted
    cases first : p.declare.run d with
    | error f d₁ =>
      rw [Run.run_bind_error first] at accepted
      cases accepted
    | ok _ d₁ =>
      rw [Run.run_bind_ok first] at accepted
      exact (Part.gains first).append (declareAll_gains ps accepted)

end Accepted

end Draft

namespace Registry

/-- Each rule has a validator. -/
def IsKnown (r : Registry) : Prop := ∀ rule ∈ r.rules, (r.validator? rule.validator).isSome = true

theorem known_of_accepted {r : Registry} {ws : List RuleCall} {rule : Rule}
    (added : rule ∈ r.accepted ws) : (r.validator? rule.validator).isSome = true := by
  obtain ⟨w, -, made⟩ := Draft.mem_accepted added
  obtain ⟨known, rfl⟩ := rule_eq_ok made
  exact known

/-- A validator that is there may be replaced, but stays there. -/
theorem any_setValidator {p : Value → Bool} (name : Value) (v : Validator) :
    ∀ {vs : List (Value × Validator)}, vs.any (p ·.1) = true →
      (setValidator name v vs).any (p ·.1) = true
  | [], h => by cases h
  | (n, w) :: rest, h => by
    rw [setValidator]
    split
    · exact h
    · rw [List.any_cons, Bool.or_eq_true] at h ⊢
      exact h.imp_right (any_setValidator name v)

theorem validator?_isSome {r : Registry} {key : Value} :
    (r.validator? key).isSome = r.validators.any (·.1.same key) := by
  rw [validator?, Option.isSome_map, Bool.eq_iff_iff, List.find?_isSome, List.any_eq_true]

end Registry

namespace Draft

open Declare (after isAnswered)

theorem Part.rules_known {p : Part} {r : Registry} {column : Value} {rule : Rule}
    (added : rule ∈ p.rules r column) : (r.validator? rule.validator).isSome = true := by
  cases p with
  | state | rule => exact Registry.known_of_accepted added
  | event name options edges =>
    obtain ⟨e, -, added⟩ := List.mem_flatMap.mp added
    rw [Edges.rules] at added
    split at added
    · exact Registry.known_of_accepted added
    · cases added
  | observer => cases added

/-- What holds of every draft: its names are distinct, and its rules have their validators. -/
structure Sound (d : Draft) : Prop where
  distinct : NamesDistinct d.toDefinition
  known : d.registry.IsKnown

theorem Sound.of_change {c : Call} {d d' : Draft} (change : c.Changes d d') (h : d.Sound) :
    d'.Sound := by
  refine ⟨h.distinct.of_change change, ?_⟩
  cases change with
  | validator name v =>
    intro rule mem
    have known := h.known rule mem
    rw [Registry.validator?_isSome] at known ⊢
    exact Registry.any_setValidator (p := (·.same rule.validator)) name v known
  | rule r known =>
    intro rule mem
    rcases List.mem_append.mp mem with mem | mem
    · exact h.known rule mem
    · exact List.mem_singleton.mp mem ▸ known
  | _ => exact h.known

theorem sound_afterAll {config : Option (Table Value)} {options : Table Value} {d : Draft}
    (begun : start config options = .ok d) (calls : List Call) : (afterAll calls d).Sound := by
  obtain ⟨config, rfl⟩ := start_eq_ok begun
  exact afterAll_induction (P := Sound) (fun _ _ _ _ => Sound.of_change)
    ⟨⟨List.nodup_nil, List.nodup_nil⟩, nofun⟩

theorem Gains.sound {ps : List Part} {d d' : Draft} (h : Gains ps d d') (sound : d.Sound) :
    d'.Sound := by
  refine ⟨h.distinct sound.distinct, fun rule mem => ?_⟩
  rw [Registry.validator?, h.validators]
  rw [h.rules, List.mem_append] at mem
  rcases mem with mem | mem
  · exact sound.known rule mem
  · obtain ⟨p, -, added⟩ := List.mem_flatMap.mp mem
    exact p.rules_known added

/-! ## The same parts in another order -/

/-- Two drafts that differ only in the order of their states, of their events and of their rules. -/
structure Shuffled (d d' : Draft) : Prop where
  config : d'.config = d.config
  built : d'.built = d.built
  validators : d'.registry.validators = d.registry.validators
  observers : d'.observers = d.observers
  states : d.states.Perm d'.states
  events : d.events.Perm d'.events
  rules : d.registry.rules.Perm d'.registry.rules
  sound : d.Sound

/-- The same parts, observers in the same order, make drafts that differ only in order. -/
theorem Gains.shuffled {ps ps' : List Part} {d₀ d d' : Draft} (h : Gains ps d₀ d)
    (h' : Gains ps' d₀ d') (sound : d₀.Sound) (perm : ps.Perm ps')
    (observers : ps.flatMap (·.observers) = ps'.flatMap (·.observers)) : Shuffled d d' where
  config := h'.config.trans h.config.symm
  built := h'.built.trans h.built.symm
  validators := h'.validators.trans h.validators.symm
  observers := by rw [h'.observers, h.observers, observers]
  states := by
    rw [h'.states, h.states]
    exact (perm.flatMap_right _).append_left _
  events := by
    rw [h'.events, h.events]
    exact (perm.flatMap_right _).append_left _
  rules := by
    rw [h'.rules, h.rules]
    exact (perm.flatMap_right _).append_left _
  sound := h.sound sound

/-- Where no two elements have one name, their order does not matter to finding one by it. -/
theorem find?_name_perm {α : Type} {name : α → String} {as bs : List α} (perm : as.Perm bs)
    (distinct : (as.map name).Nodup) (n : String) :
    as.find? (name · == n) = bs.find? (name · == n) := by
  induction perm with
  | nil => rfl
  | cons a _ ih =>
    rw [List.map_cons, List.nodup_cons] at distinct
    rw [List.find?_cons, List.find?_cons, ih distinct.2]
  | swap a b as =>
    have apart : name b ≠ name a := by
      rw [List.map_cons, List.nodup_cons] at distinct
      exact fun same => distinct.1 (same ▸ List.mem_cons_self ..)
    by_cases first : name a = n
    · have second : name b ≠ n := first ▸ apart
      simp [first, second]
    · simp [List.find?_cons, first]
  | trans perm _ ih ih' =>
    exact (ih distinct).trans (ih' ((perm.map name).nodup_iff.mp distinct))

namespace Shuffled

variable {d d' : Draft}

theorem state? (h : Shuffled d d') (name : String) : d'.state? name = d.state? name :=
  (find?_name_perm h.states h.sound.distinct.states name).symm

theorem event? (h : Shuffled d d') (name : String) : d'.event? name = d.event? name :=
  (find?_name_perm h.events h.sound.distinct.events name).symm

theorem agrees (h : Shuffled d d') : d.toDefinition.Agrees d'.toDefinition where
  config := h.config.symm
  states name := (h.state? name).symm
  events name := (h.event? name).symm
  observers := h.observers.symm

theorem declares (h : Shuffled d d') (name : String) : d'.declares name = d.declares name := by
  rw [Definition.declares, Definition.declares, h.state?]

end Shuffled

theorem undeclaredEnd?_congr {d d' : Definition} (same : ∀ name, d'.declares name = d.declares name)
    (t : Transition) : undeclaredEnd? d' t = undeclaredEnd? d t := by
  simp only [undeclaredEnd?, same]

/-- Nothing is wrong with a definition whose initial state is declared and each end of whose
transitions is. -/
theorem firstFault?_eq_none {d : Definition} : firstFault? d = .none ↔
    d.declares d.config.initial = true
      ∧ ∀ e ∈ d.events, ∀ t ∈ e.transitions, undeclaredEnd? d t = .none := by
  rw [firstFault?]
  split
  · next initial => simp [undeclared?, initial]
  · next initial => simp [initial]

namespace Shuffled

variable {d d' : Draft}

theorem firstFault? (h : Shuffled d d') :
    firstFault? d'.toDefinition = .none ↔ firstFault? d.toDefinition = .none := by
  simp only [firstFault?_eq_none, h.declares, h.config, undeclaredEnd?_congr h.declares,
    ← h.events.mem_iff]

end Shuffled

/-- A draft that is still open is built if nothing is wrong with it. -/
theorem build_run {d : Draft} (isOpen : d.built = .none) : build.run d
    = match Draft.firstFault? d.toDefinition with
      | .some f => .error f d
      | .none => .ok d.toDefinition { d with built := .some d.toDefinition } := by
  rw [build, Run.run_bind_ok (Declare.run_get d), isOpen]
  dsimp only
  cases Draft.firstFault? d.toDefinition <;> rfl

theorem build_isAnswered {d : Draft} (isOpen : d.built = .none) :
    isAnswered build d = true ↔ Draft.firstFault? d.toDefinition = .none := by
  rw [isAnswered, build_run isOpen]
  cases Draft.firstFault? d.toDefinition <;> simp

/-- The machine that an open draft is built into is what it holds. -/
theorem machine?_build {d : Draft} (isOpen : d.built = .none) {m : Machine}
    (made : (after build d).machine? = .some m) :
    m = { toDefinition := d.toDefinition, registry := d.registry } := by
  rw [after, build_run isOpen] at made
  cases sound : Draft.firstFault? d.toDefinition with
  | some f =>
    rw [sound, machine?, isOpen] at made
    cases made
  | none =>
    rw [sound] at made
    exact (Option.some.inj made).symm

end Draft

/-- Two machines that differ only in the order of their states, of their events and of their
rules. -/
structure Machine.Shuffled (m m' : Machine) : Prop where
  agrees : m.Agrees m'.toDefinition
  validators : m'.registry.validators = m.registry.validators
  rules : m.registry.rules.Perm m'.registry.rules
  known : m.registry.IsKnown

namespace Draft.Shuffled

open Declare (after isAnswered)

variable {d d' : Draft}

/-- Either both drafts can be built or neither can. -/
theorem build (h : Shuffled d d') (isOpen : d.built = .none) :
    isAnswered Draft.build d' = isAnswered Draft.build d := by
  rw [Bool.eq_iff_iff, build_isAnswered (h.built.trans isOpen), build_isAnswered isOpen,
    h.firstFault?]

theorem machine (h : Shuffled d d') (isOpen : d.built = .none) {m m' : Machine}
    (made : (after Draft.build d).machine? = .some m)
    (made' : (after Draft.build d').machine? = .some m') : m.Shuffled m' := by
  cases machine?_build isOpen made
  cases machine?_build (h.built.trans isOpen) made'
  exact ⟨h.agrees, h.validators, h.rules, h.sound.known⟩

end Draft.Shuffled

end Lifecycle
