/-
Building: what is asked of a draft, once, before it becomes a machine.

A definition is complete if its initial state and all that its transitions refer
to are declared. `Draft.build` looks for what is not: for the initial state, and
then along `Definition.references`, which lists the sources and the targets in
the order in which they were declared. What it finds first is its answer
(`Draft.firstFault?_eq_some`), and the draft stays as it was.

Calls that register no event refer to nothing new (`Draft.Extends`). As every
reference of a draft is a text (`Draft.named_afterAll`), a state can be declared
for each one that was missing, and then the draft can be built
(`Draft.build_decides`).
-/
import Lifecycle.Proofs.Firable
import Lifecycle.Proofs.Parts

namespace Lifecycle

namespace Definition

/-- What the transitions of each event refer to: events and transitions in their order, and of each
transition the source before the target. -/
def references (d : Definition) : List (String × Value) :=
  d.events.flatMap fun ev => ev.transitions.flatMap fun t =>
    [(ev.name, t.source), (ev.name, t.target)]

/-- The initial state is declared, and so is all that transitions refer to. -/
structure IsComplete (d : Definition) : Prop where
  initial : d.declares d.config.initial = true
  closed : d.IsClosed

/-- What an event refers to as the first of all references that are not declared. -/
def FirstUndeclared (d : Definition) (event : String) (v : Value) : Prop :=
  ∃ before after, d.references = before ++ (event, v) :: after
    ∧ (∀ r ∈ before, d.knows r.2 = true) ∧ d.knows v = false

/-- What is wrong with a definition that is not complete: the initial state, or else the first
reference. -/
inductive Lacks (d : Definition) : Fault → Prop where
  | initial (undeclared : d.declares d.config.initial = false) :
    Lacks d (.initialUndeclared d.config.initial)
  | reference {event : String} {v : Value} (initial : d.declares d.config.initial = true)
    (first : d.FirstUndeclared event v) : Lacks d (.undeclaredReference (.str event) v)

/-- A name that is used for a state and not declared. -/
def Misses (d : Definition) (name : String) : Prop :=
  d.declares name = false
    ∧ (name = d.config.initial ∨ ∃ event, (event, .str name) ∈ d.references)

variable {d : Definition}

theorem mem_references {r : String × Value} : r ∈ d.references ↔
    ∃ ev ∈ d.events, ∃ t ∈ ev.transitions, r = (ev.name, t.source) ∨ r = (ev.name, t.target) := by
  simp [references]

theorem isClosed_iff : d.IsClosed ↔ ∀ r ∈ d.references, d.knows r.2 = true := by
  constructor
  · intro closed r hr
    obtain ⟨ev, hev, t, ht, rfl | rfl⟩ := mem_references.mp hr
    · exact (closed ev hev t ht).1
    · exact (closed ev hev t ht).2
  · intro known ev hev t ht
    exact ⟨known _ (mem_references.mpr ⟨ev, hev, t, ht, .inl rfl⟩),
      known _ (mem_references.mpr ⟨ev, hev, t, ht, .inr rfl⟩)⟩

end Definition

namespace Draft

open Declare (after)

/-! ## The search -/

section Search

variable {d : Definition}

theorem undeclaredEnd?_eq (t : Transition) :
    undeclaredEnd? d t = [t.source, t.target].find? (!d.knows ·) := by
  refine congrArg ([t.source, t.target].find? ·) (funext fun v => ?_)
  cases v <;> rfl

/-- Going through events, transitions and ends is going through the references. -/
theorem undeclared?_eq : undeclared? d = (d.references.find? fun r => !d.knows r.2).map
    fun r => .undeclaredReference (.str r.1) r.2 := by
  have one (name : String) (t : Transition) :
      (undeclaredEnd? d t).map (Fault.undeclaredReference (.str name))
        = ([(name, t.source), (name, t.target)].find? fun r => !d.knows r.2).map
            fun r => .undeclaredReference (.str r.1) r.2 := by
    rw [undeclaredEnd?_eq]
    cases h : d.knows t.source <;> cases h' : d.knows t.target <;> simp [h, h']
  simp only [undeclared?, one, Definition.references, List.find?_flatMap, List.map_findSome?,
    Function.comp_def]

theorem undeclared?_none_iff : undeclared? d = .none ↔ d.IsClosed := by
  rw [undeclared?_eq, Option.map_eq_none_iff, List.find?_eq_none, Definition.isClosed_iff]
  simp only [Bool.not_eq_true', Bool.not_eq_false]

theorem firstFault?_none_iff : firstFault? d = .none ↔ d.IsComplete := by
  rw [firstFault?]
  split
  · next initial =>
    exact undeclared?_none_iff.trans (Iff.intro (.mk initial) fun complete => complete.closed)
  · next undeclared =>
    refine Iff.intro (fun h => ?_) fun complete => absurd complete.initial undeclared
    cases h

/-- The search ends at the initial state, or else at the first reference. -/
theorem firstFault?_eq_some {f : Fault} : firstFault? d = .some f ↔ d.Lacks f := by
  rw [firstFault?]
  split
  · next initial =>
    rw [undeclared?_eq, Option.map_eq_some_iff]
    constructor
    · rintro ⟨⟨event, v⟩, found, rfl⟩
      obtain ⟨unknown, before, later, split, passed⟩ := List.find?_eq_some_iff_append.mp found
      exact .reference initial ⟨before, later, split, by simpa using passed, by simpa using unknown⟩
    · intro lacks
      cases lacks with
      | initial undeclared => rw [initial] at undeclared; cases undeclared
      | @reference event v _ first =>
        obtain ⟨before, later, split, passed, unknown⟩ := first
        refine ⟨(event, v), List.find?_eq_some_iff_append.mpr ⟨?_, before, later, split, ?_⟩, rfl⟩
        · simp [unknown]
        · simpa using passed
  · next undeclared =>
    constructor
    · rintro ⟨⟩
      exact .initial (by simpa using undeclared)
    · rintro (_ | ⟨initial, _⟩)
      · rfl
      · exact absurd initial undeclared

end Search

/-! ## What calls refer to -/

/-- A draft that some calls have made. -/
def IsReached (d : Draft) : Prop :=
  ∃ config options d₀ calls, start config options = .ok d₀ ∧ d = afterAll calls d₀

/-- Whatever a draft refers to is a text. -/
structure Named (d : Draft) : Prop where
  blocks : ∀ b ∈ d.blocks, ∀ t ∈ b.transitions, t.IsNamed
  events : ∀ ev ∈ d.events, ∀ t ∈ ev.transitions, t.IsNamed

section Changes

variable {c : Call} {d d' : Draft}

theorem Named.of_change (change : c.Changes d d') (h : d.Named) : d'.Named := by
  have put {place : Nat} {b : EventBlock} (hb : ∀ t ∈ b.transitions, t.IsNamed) :
      ∀ b' ∈ d.blocks.set place b, ∀ t ∈ b'.transitions, t.IsNamed := fun b' mem => by
    obtain mem | rfl := List.mem_or_eq_of_mem_set mem
    · exact h.blocks b' mem
    · exact hb
  cases change with
  | validator | rule | scope | state | observer | built => exact ⟨h.blocks, h.events⟩
  | opened name options =>
    refine ⟨fun b mem => ?_, h.events⟩
    obtain mem | mem := List.mem_append.mp mem
    · exact h.blocks b mem
    · rw [List.mem_singleton.mp mem]
      exact nofun
  | edge t there unfrozen named =>
    refine ⟨put fun u mem => ?_, h.events⟩
    obtain mem | mem := List.mem_append.mp mem
    · exact h.blocks _ (List.mem_of_getElem? there) u mem
    · exact List.mem_singleton.mp mem ▸ named
  | @refused place b left there =>
    exact ⟨put (h.blocks b (List.mem_of_getElem? there)), h.events⟩
  | @registered place b left there =>
    have texts := h.blocks b (List.mem_of_getElem? there)
    refine ⟨put texts, fun ev mem => ?_⟩
    obtain mem | mem := List.mem_append.mp mem
    · exact h.events ev mem
    · exact List.mem_singleton.mp mem ▸ texts

/-- The second draft declares and holds all that the first one does, and refers to nothing else. -/
structure Extends (d d' : Draft) : Prop where
  config : d'.config = d.config
  events : d'.events = d.events
  states : d.states <+: d'.states
  observers : d.observers <+: d'.observers
  rules : d.registry.rules <+: d'.registry.rules

theorem Extends.refl (d : Draft) : Extends d d :=
  ⟨rfl, rfl, List.prefix_rfl, List.prefix_rfl, List.prefix_rfl⟩

/-- Only a block that is left may bring a new event. -/
theorem Extends.of_change {d₀ : Draft} (registers : c.closed? = .none) (change : c.Changes d d')
    (h : Extends d₀ d) : Extends d₀ d' := by
  cases change with
  | validator | scope | opened | edge | built =>
    exact ⟨h.config, h.events, h.states, h.observers, h.rules⟩
  | rule r =>
    exact ⟨h.config, h.events, h.states, h.observers, h.rules.trans (List.prefix_append ..)⟩
  | state s =>
    exact ⟨h.config, h.events, h.states.trans (List.prefix_append ..), h.observers, h.rules⟩
  | observer o =>
    exact ⟨h.config, h.events, h.states, h.observers.trans (List.prefix_append ..), h.rules⟩
  | refused left | registered left =>
    rw [left] at registers
    cases registers

theorem open_of_change (change : c.Changes d d') (isOpen : d'.built = .none) :
    d.built = .none := by
  cases change with
  | built => cases isOpen
  | _ => exact isOpen

theorem declares_of_change {name : String} (change : c.Changes d d')
    (declared : d.declares name = true) : d'.declares name = true := by
  cases change with
  | state s =>
    obtain ⟨s', mem, named⟩ := declares_iff.mp declared
    exact declares_iff.mpr ⟨s', List.mem_append_left _ mem, named⟩
  | _ => exact declared

end Changes

theorem named_afterAll {d : Draft} (reached : d.IsReached) : d.Named := by
  obtain ⟨config, options, d₀, calls, begun, rfl⟩ := reached
  obtain ⟨config, rfl⟩ := start_eq_ok begun
  exact afterAll_induction (P := Named) (fun _ _ _ _ => Named.of_change) ⟨nofun, nofun⟩

section More

variable {d : Draft} {more : List Call}

theorem Extends.afterAll (registers : ∀ c ∈ more, c.closed? = .none) :
    Extends d (afterAll more d) :=
  afterAll_induction (P := Extends d) (fun c mem _ _ => Extends.of_change (registers c mem))
    (.refl d)

theorem open_of_afterAll (isOpen : (afterAll more d).built = .none) : d.built = .none :=
  afterAll_induction (P := fun d' => d'.built = .none → d.built = .none)
    (fun _ _ _ _ change ih still => ih (open_of_change change still)) id isOpen

theorem declares_afterAll {name : String} (declared : d.declares name = true) :
    (afterAll more d).declares name = true :=
  afterAll_induction (P := fun d => d.declares name = true)
    (fun _ _ _ _ => declares_of_change) declared

/-- Once a state was declared, its name is: a call that is refused is refused for its name, and one
that fails later on has declared the state before. -/
theorem declares_of_state? {c : Call} {s : State} (states : c.state? = .some s)
    (isOpen : d.built = .none) : (after c.run d).declares s.name = true := by
  cases c with
  | declareState name enter after exit validate =>
    simp only [Call.state?] at states
    split at states
    · next s acts listed =>
      cases states
      rw [Call.run, after_discard]
      by_cases fresh : d.declares s = false
      · obtain ⟨scopes, left, -⟩ := declareState_effect isOpen fresh listed enter exit validate
        rw [left]
        exact declares_iff.mpr ⟨_, List.mem_append_right _ (.head _), rfl⟩
      · have taken : d.declares s = true := by simpa using fresh
        obtain ⟨f, refused⟩ :=
          declareState_refused (.inr (.inr (.inl ⟨s, rfl, taken⟩))) enter exit validate
        rwa [Declare.after_of_error refused]
    · cases states
  | _ => cases states

theorem declares_of_mem {c : Call} {s : State} (mem : c ∈ more) (states : c.state? = .some s)
    (isOpen : (afterAll more d).built = .none) : (afterAll more d).declares s.name = true := by
  obtain ⟨before, later, rfl⟩ := List.append_of_mem mem
  rw [afterAll_append] at isOpen ⊢
  rw [afterAll_cons]
  exact declares_afterAll (declares_of_state? states (open_of_afterAll isOpen))

/-- Once a state is declared for every name that was missing, nothing is. -/
theorem isComplete_afterAll (reached : d.IsReached) (registers : ∀ c ∈ more, c.closed? = .none)
    (declared : ∀ name, d.Misses name → ∃ c ∈ more, ∃ s, c.state? = .some s ∧ s.name = name)
    (isOpen : (afterAll more d).built = .none) : (afterAll more d).IsComplete := by
  have extends_ := Extends.afterAll (d := d) registers
  have there {name : String} (used : name = d.config.initial
      ∨ ∃ event, (event, .str name) ∈ d.references) : (afterAll more d).declares name = true := by
    cases before : d.declares name with
    | true => exact declares_afterAll before
    | false =>
      obtain ⟨c, mem, s, states, rfl⟩ := declared name ⟨before, used⟩
      exact declares_of_mem mem states isOpen
  refine ⟨extends_.config ▸ there (.inl rfl), Definition.isClosed_iff.mpr fun r mem => ?_⟩
  have mem' : r ∈ d.references := by
    rw [Definition.references, extends_.events] at mem
    exact mem
  obtain ⟨ev, hev, t, ht, is⟩ := Definition.mem_references.mp mem'
  obtain ⟨source, target, hsource, htarget⟩ := (named_afterAll reached).events ev hev t ht
  rcases is with rfl | rfl
  · rw [hsource] at mem' ⊢
    exact there (.inr ⟨_, mem'⟩)
  · rw [htarget] at mem' ⊢
    exact there (.inr ⟨_, mem'⟩)

end More

/-! ## Building -/

/-- What a reached draft was built into is what it holds, and was complete. -/
theorem built_of_reached {d : Draft} (reached : d.IsReached) {definition : Definition}
    (built : d.built = .some definition) : d.toDefinition = definition := by
  obtain ⟨config, options, d₀, calls, begun, rfl⟩ := reached
  obtain ⟨config, rfl⟩ := start_eq_ok begun
  have held : ∀ earlier, (Draft.afterAll calls { config }).built = .some earlier →
      (Draft.afterAll calls { config }).toDefinition = earlier :=
    afterAll_induction (P := fun d => ∀ earlier, d.built = .some earlier → d.toDefinition = earlier)
      (fun _ _ _ _ => built_whole) nofun
  exact held definition built

theorem IsReached.afterAll {d : Draft} (reached : d.IsReached) (more : List Call) :
    (afterAll more d).IsReached := by
  obtain ⟨config, options, d₀, calls, begun, rfl⟩ := reached
  exact ⟨config, options, d₀, calls ++ more, begun, (afterAll_append ..).symm⟩

/-- Building a draft that is open answers with what it holds, if that is complete, and otherwise
with the first thing that it lacks, and then the draft is as it was. Once its missing states are
declared, whatever else is called but for new events, it is built with all that it held. -/
theorem build_decides {d : Draft} (reached : d.IsReached) (isOpen : d.built = .none) :
    (∀ definition d', build.run d = .ok definition d' ↔ d.IsComplete
        ∧ definition = d.toDefinition ∧ d' = { d with built := .some d.toDefinition })
      ∧ (∀ f d', build.run d = .error f d' ↔ d.Lacks f ∧ d' = d)
      ∧ ∀ more : List Call, (∀ c ∈ more, c.closed? = .none) →
          (∀ name, d.Misses name → ∃ c ∈ more, ∃ s, c.state? = .some s ∧ s.name = name) →
          ∃ d', d' = afterAll more d ∧ Extends d d'
            ∧ build.run d' = .ok d'.toDefinition { d' with built := .some d'.toDefinition } := by
  have answers {d : Draft} (isOpen : d.built = .none) (complete : d.IsComplete) :
      build.run d = .ok d.toDefinition { d with built := .some d.toDefinition } := by
    rw [build_run isOpen, firstFault?_none_iff.mpr complete]
  have refuses {f : Fault} (lacks : d.Lacks f) : build.run d = .error f d := by
    rw [build_run isOpen, firstFault?_eq_some.mpr lacks]
  have decides : d.IsComplete ∨ ∃ f, d.Lacks f := by
    cases h : firstFault? d.toDefinition with
    | none => exact .inl (firstFault?_none_iff.mp h)
    | some f => exact .inr ⟨f, firstFault?_eq_some.mp h⟩
  refine ⟨fun definition d' => ⟨fun answered => ?_, ?_⟩, fun f d' => ⟨fun refused => ?_, ?_⟩,
    fun more registers declared => ⟨_, rfl, .afterAll registers, ?_⟩⟩
  · obtain complete | ⟨f, lacks⟩ := decides
    · cases (answers isOpen complete).symm.trans answered
      exact ⟨complete, rfl, rfl⟩
    · cases (refuses lacks).symm.trans answered
  · rintro ⟨complete, rfl, rfl⟩
    exact answers isOpen complete
  · obtain complete | ⟨f, lacks⟩ := decides
    · cases (answers isOpen complete).symm.trans refused
    · cases (refuses lacks).symm.trans refused
      exact ⟨lacks, rfl⟩
  · rintro ⟨lacks, rfl⟩
    exact refuses lacks
  · cases built : (afterAll more d).built with
    | none => exact answers built (isComplete_afterAll reached registers declared built)
    | some definition =>
      -- It was built on the way, and is still the same.
      have same := built_of_reached (reached.afterAll more) built
      have whole : { afterAll more d with built := .some (afterAll more d).toDefinition }
          = afterAll more d := by rw [same, ← built]
      rw [whole, same]
      exact (IsBuilt.mk built same).finished.build

/-- An event that leads from a declared state to two that are not. -/
def Call.dangling : List Call := [
  .declareState "a" .none .none .none .none,
  .openEvent "go" ∅,
  .addEdges 0 { target := "b", sources := .ok ["a"] },
  .addEdges 0 { target := "c", sources := .ok ["b"] },
  .leaveBlock 0 false]

def dangling : Draft := afterAll Call.dangling { config := { initial := "a" } }

/-- The states that it lacks are declared after a first try, one of them by a call that fails in
its validation block. -/
def Call.mending : List Call := [
  .build,
  .declareState "c" .none .none .none .none,
  .declareState "a" .none .none .none .none,
  .declareState "b" .none .none .none (.some [{ validator := "unheard" }])]

theorem dangling_references : dangling.references
    = [("go", .str "a"), ("go", .str "b"), ("go", .str "b"), ("go", .str "c")] := rfl

theorem build_decides_dangling :
    build.run dangling = .error (.undeclaredReference "go" "b") dangling
      ∧ ∃ d', d' = afterAll Call.mending dangling ∧ Extends dangling d'
        ∧ build.run d' = .ok d'.toDefinition { d' with built := .some d'.toDefinition } := by
  have reached : dangling.IsReached := ⟨.none, ⟨[("initial", "a")]⟩, _, Call.dangling, rfl, rfl⟩
  obtain ⟨-, refuses, mends⟩ := build_decides reached rfl
  have first : dangling.FirstUndeclared "go" "b" :=
    ⟨[("go", .str "a")], [("go", .str "b"), ("go", .str "c")], dangling_references,
      by decide, by decide⟩
  refine ⟨(refuses _ _).mpr ⟨.reference (by decide) first, rfl⟩, mends Call.mending ?_ ?_⟩
  · simp [Call.mending, Call.closed?]
  · rintro name ⟨undeclared, rfl | ⟨event, mem⟩⟩
    · exact absurd undeclared (by decide)
    · rw [dangling_references] at mem
      have one : name = "a" ∨ name = "b" ∨ name = "c" := by simp at mem; tauto
      rcases one with rfl | rfl | rfl
      · exact absurd undeclared (by decide)
      · exact ⟨_, .tail _ (.tail _ (.tail _ (.head _))), _, rfl, rfl⟩
      · exact ⟨_, .tail _ (.head _), _, rfl, rfl⟩

end Draft

end Lifecycle
