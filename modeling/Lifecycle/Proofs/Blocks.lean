/-
Event blocks that were left.

A block that was left without a failure is closed: it is frozen, and its event
cannot be registered again, because it was registered, or was refused and still
would be (`Draft.Closed`). No call opens it again (`Draft.Closed.of_change`), and
every further use of it is refused and changes nothing (`Draft.Closed.shut`).
A block that was only left after failures is no different from one that was not
left at all (`Draft.StillOpen`). The two together are
`Draft.shut_unless_only_failed`.
-/
import Lifecycle.Proofs.Declarations

namespace Lifecycle.Draft

open Declare (after isAnswered)

/-- A frozen block whose event is refused. -/
structure Closed (d : Draft) (i : Nat) (b : EventBlock) : Prop where
  there : d.blocks[i]? = .some b
  frozen : b.event = .some b.toEvent
  refused : d.built.isSome = true ∨ (d.event? b.name).isSome = true

/-- What is left of a closed block: its uses fail, and none of them changes the draft. -/
structure Shut (d : Draft) (i : Nat) (name : String) : Prop where
  enter : (enterBlock i).run d = .error (.eventFrozen name) d
  edges : ∀ edges, (addEdges i edges).run d = .error (.eventFrozen name) d
  leave : ∀ failed, after (leaveBlock i failed) d = d

/-- A block that can be entered and added to, and whose event can be registered. -/
structure StillOpen (d : Draft) (i : Nat) (b : EventBlock) : Prop where
  enter : (enterBlock i).run d = .ok () d
  edges : ∀ edges from_, edges.sources = .ok from_ → edges.hasTexts from_ = true →
    d.registry.accepts (edges.wanted b.name d.config.column from_) = true → ∃ scopes,
      (addEdges i edges).run d = .ok ()
        (d.grown i
          { b with transitions := b.transitions ++ (edges.texts from_).map edges.transition }
          scopes (d.registry.accepted (edges.wanted b.name d.config.column from_)))
  leaveFailed : (leaveBlock i true).run d = .ok () d
  leave : d.built = .none → d.event? b.name = .none → (leaveBlock i false).run d = .ok ()
    { d with blocks := d.blocks.set i b.frozen, events := d.events ++ [b.toEvent] }

/-! ## Blocks that stay closed -/

/-- A name that is taken stays so with more events. -/
theorem event?_append {d : Draft} {name : String} (taken : (d.event? name).isSome = true)
    (more : List Event) :
    (({ d with events := d.events ++ more } : Draft).event? name).isSome = true := by
  rw [Definition.event?, List.find?_append, Option.isSome_or]
  exact Bool.or_eq_true_iff.mpr (.inl taken)

namespace Closed

variable {d d' : Draft} {i : Nat} {b : EventBlock}

/-- To freeze a closed block again changes nothing. -/
theorem frozen_self (h : Closed d i b) : b.frozen = b := by
  rw [EventBlock.frozen, ← h.frozen]

theorem eq_of_there {b' : EventBlock} (h : Closed d i b) (there : d.blocks[i]? = .some b') :
    b' = b :=
  Option.some.inj (there.symm.trans h.there)

/-- Where any other block is put, a closed one is found in its place. -/
theorem there_set (h : Closed d i b) {place : Nat} {put : EventBlock} (kept : place = i → put = b) :
    (d.blocks.set place put)[i]? = .some b := by
  by_cases here : place = i
  · rw [here, kept here, set_there h.there, h.there]
  · rw [List.getElem?_set_ne here, h.there]

theorem of_change {c : Call} (h : Closed d i b) (change : c.Changes d d') : Closed d' i b := by
  cases change with
  | validator | rule | scope | state | observer => exact ⟨h.there, h.frozen, h.refused⟩
  | opened =>
    obtain ⟨inside, -⟩ := List.getElem?_eq_some_iff.mp h.there
    exact ⟨(List.getElem?_append_left inside).trans h.there, h.frozen, h.refused⟩
  | edge t there unfrozen =>
    refine ⟨h.there_set ?_, h.frozen, h.refused⟩
    rintro rfl
    cases h.eq_of_there there
    cases unfrozen.symm.trans h.frozen
  | refused left there taken =>
    refine ⟨h.there_set ?_, h.frozen, h.refused⟩
    rintro rfl
    cases h.eq_of_there there
    exact h.frozen_self
  | registered left there isOpen fresh =>
    refine ⟨h.there_set ?_, h.frozen, h.refused.imp id fun taken => event?_append taken _⟩
    rintro rfl
    cases h.eq_of_there there
    have refused := h.refused
    simp [isOpen, fresh] at refused
  | built => exact ⟨h.there, h.frozen, .inl rfl⟩

/-- No use of a closed block answers, and none changes anything. -/
theorem shut (h : Closed d i b) : Shut d i b.name := by
  have check : (checkUnfrozen b).run d = .error (.eventFrozen b.name) d := by
    rw [checkUnfrozen, h.frozen]
    rfl
  refine ⟨?_, fun edges => ?_, fun failed => ?_⟩
  · rw [enterBlock, Run.run_bind_ok (block_run h.there), check]
  · rw [addEdges, Run.run_bind_ok (block_run h.there), Run.run_bind_error check]
  · cases failed with
    | true => exact leaveBlock_failed i d
    | false =>
      obtain ⟨f, refused⟩ := leaveBlock_refused h.there h.refused
      rw [Declare.after_of_error refused, h.frozen_self, set_there h.there]

end Closed

/-! ## Blocks that stay open -/

/-- A block that is not frozen is closed when it is left without a failure. -/
theorem closed_of_leaveBlock {d : Draft} {i : Nat} {b : EventBlock}
    (there : d.blocks[i]? = .some b) : Closed (after (leaveBlock i false) d) i b.frozen := by
  obtain ⟨inside, -⟩ := List.getElem?_eq_some_iff.mp there
  have put : (d.blocks.set i b.frozen)[i]? = .some b.frozen := List.getElem?_set_self inside
  by_cases refused : d.built.isSome = true ∨ (d.event? b.name).isSome = true
  · obtain ⟨f, left⟩ := leaveBlock_refused there refused
    rw [Declare.after_of_error left]
    exact ⟨put, rfl, refused⟩
  · have isOpen : d.built = .none := by simpa using fun h => refused (.inl h)
    have fresh : d.event? b.name = .none := by simpa using fun h => refused (.inr h)
    rw [Declare.after_of_ok (leaveBlock_registered there isOpen fresh)]
    refine ⟨put, rfl, .inr ?_⟩
    simp [Definition.event?, EventBlock.toEvent, EventBlock.frozen]

/-- There is a block of some name that was not frozen. -/
def HasOpen (d : Draft) (i : Nat) (name : String) : Prop :=
  ∃ b, d.blocks[i]? = .some b ∧ b.name = name ∧ b.event = .none

namespace HasOpen

variable {d d' : Draft} {i : Nat} {name : String}

/-- Only leaving a block without a failure freezes it. -/
theorem of_change {c : Call} (h : HasOpen d i name) (kept : c ≠ .leaveBlock i false)
    (change : c.Changes d d') : HasOpen d' i name := by
  obtain ⟨b, there, named, unfrozen⟩ := h
  cases change with
  | validator | rule | scope | state | observer | built => exact ⟨b, there, named, unfrozen⟩
  | opened =>
    obtain ⟨inside, -⟩ := List.getElem?_eq_some_iff.mp there
    exact ⟨b, (List.getElem?_append_left inside).trans there, named, unfrozen⟩
  | @edge place b' t there' unfrozen' =>
    by_cases here : place = i
    · subst here
      cases Option.some.inj (there.symm.trans there')
      obtain ⟨inside, -⟩ := List.getElem?_eq_some_iff.mp there
      exact ⟨_, List.getElem?_set_self inside, named, unfrozen⟩
    · exact ⟨b, (List.getElem?_set_ne here).trans there, named, unfrozen⟩
  | @refused place b' left there' taken | @registered place b' left there' isOpen fresh =>
    have elsewhere : place ≠ i := fun here => kept (here ▸ left)
    exact ⟨b, (List.getElem?_set_ne elsewhere).trans there, named, unfrozen⟩

theorem afterAll {calls : List Call} (h : HasOpen d i name)
    (kept : Call.leaveBlock i false ∉ calls) : HasOpen (afterAll calls d) i name := by
  refine afterAll_induction (P := (HasOpen · i name)) (fun c mem _ _ change h => ?_) h
  exact h.of_change (fun left => kept (left ▸ mem)) change

end HasOpen

theorem stillOpen {d : Draft} {i : Nat} {b : EventBlock} (there : d.blocks[i]? = .some b)
    (unfrozen : b.event = .none) : StillOpen d i b where
  enter := enterBlock_run there unfrozen
  edges edges from_ named texts accepted := by
    obtain ⟨ts, scopes, left, answered, all⟩ := addEdgesFrom_effect i edges from_ there
    rw [accepted, texts] at answered
    obtain ⟨_, ran⟩ := Declare.run_of_isAnswered answered
    rw [left, all accepted] at ran
    exact ⟨scopes, (addEdges_run there unfrozen named).trans ran⟩
  leaveFailed := Run.run_bind_ok (block_run there) _
  leave := leaveBlock_registered there

/-! ## Every sequence of calls -/

/-- A block that is left without a failure, after whatever else and before whatever else, is shut. -/
theorem shut_of_left {d : Draft} {i : Nat} {name : String} (h : HasOpen d i name)
    {calls : List Call} (left : .leaveBlock i false ∈ calls) : Shut (afterAll calls d) i name := by
  obtain ⟨before, later, rfl, first⟩ := List.eq_append_cons_of_mem left
  obtain ⟨b, there, rfl, -⟩ := h.afterAll first
  have closed := closed_of_leaveBlock there
  rw [afterAll_append, afterAll_cons]
  exact (afterAll_induction (P := (Closed · i b.frozen))
    (fun c _ _ _ change h => h.of_change change) closed).shut

/-- Where leaving a block without a failure is among the calls, the block is shut for good; where it
was only left after failures, or not at all, everything can still be done with it. -/
theorem shut_unless_only_failed {d : Draft} {i : Nat} {b : EventBlock}
    (there : d.blocks[i]? = .some b) (unfrozen : b.event = .none) (calls : List Call) :
    (.leaveBlock i false ∈ calls → Shut (afterAll calls d) i b.name)
      ∧ (.leaveBlock i false ∉ calls →
          ∃ b', b'.name = b.name ∧ StillOpen (afterAll calls d) i b') := by
  have isOpen : HasOpen d i b.name := ⟨b, there, rfl, unfrozen⟩
  refine ⟨shut_of_left isOpen, fun never => ?_⟩
  obtain ⟨b', there', named, unfrozen'⟩ := isOpen.afterAll never
  exact ⟨b', named, stillOpen there' unfrozen'⟩

/-- The block of an event that was entered, left after a failure and then used again. -/
theorem shut_unless_only_failed_reused :
    let d : Draft := { config := { initial := "a" }, blocks := [{ name := "go" }] }
    let calls : List Call := [.enterBlock 0, .leaveBlock 0 true]
    let more : List Call := calls ++ [.enterBlock 0, .leaveBlock 0 false, .leaveBlock 0 true]
    (∃ b', b'.name = "go" ∧ StillOpen (afterAll calls d) 0 b') ∧ Shut (afterAll more d) 0 "go" := by
  intro d calls more
  have entry : d.blocks[0]? = .some { name := "go" } := rfl
  obtain ⟨-, goes⟩ := shut_unless_only_failed entry rfl calls
  obtain ⟨ends, -⟩ := shut_unless_only_failed entry rfl more
  exact ⟨goes (by simp [calls]), ends (by simp [more])⟩

end Lifecycle.Draft
