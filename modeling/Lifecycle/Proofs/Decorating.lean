/-
Decorated classes: what becomes of classes that are made and given to machines,
one after the other.

`Class.Edit` adds a class or lets a machine govern one, and `Class.made` are the
classes that some edits lead to. An edit that does not let a machine govern a
class leaves that class as it is (`Class.Edit.on_get?`). So a class has what its
own decorations gave it: the wrapped constructor and the machine that it names are those
of the last one (`Heritage.isGovernedBy`), and the other members those of the
first (`Class.first_shows_last_initializes`).
-/
import Lifecycle.Proofs.Construction
import Lifecycle.Proofs.Governing
import Lifecycle.Proofs.Standing

namespace Lifecycle

namespace Class

/-- One step in which classes come about. -/
inductive Edit where
  | add (c : Class)
  | govern (cls : ClassId) (machine : MachineId) (definition : Definition) (clock : Option ClockId)

namespace Edit

/-- What a class is given, and what stands against it if anything does. -/
def given (classes : List Class) (cls : ClassId) (machine : MachineId) (d : Definition)
    (clock : Option ClockId) (c : Class) : Table Member × Option Fault :=
  Class.govern machine d clock cls c.members ((Lineage.ofClass classes cls).drop 1)

/-- The classes after an edit. -/
def on (classes : List Class) : Edit → List Class
  | add c => classes ++ [c]
  | govern cls machine d clock =>
    match classes[cls]? with
    | .none => classes
    | .some c => classes.set cls { c with members := (given classes cls machine d clock c).1 }

/-- The machine that an edit lets govern a class. -/
def governs? (cls : ClassId) : Edit → Option MachineId
  | add _ => .none
  | govern other machine _ _ => if other = cls then .some machine else .none

/-- Nothing stands against an edit. -/
def Completes (classes : List Class) : Edit → Prop
  | add _ => True
  | govern cls machine d clock =>
    ∃ c, classes[cls]? = .some c ∧ (given classes cls machine d clock c).2 = .none

variable {classes : List Class} {cls : ClassId}

theorem eq_govern {e : Edit} {machine : MachineId} (h : e.governs? cls = .some machine) :
    ∃ d clock, e = .govern cls machine d clock := by
  cases e with
  | add c => cases h
  | govern other machine' d clock =>
    by_cases same : other = cls
    · rw [governs?, if_pos same] at h
      cases h
      exact ⟨d, clock, by rw [same]⟩
    · rw [governs?, if_neg same] at h
      cases h

theorem on_get? {e : Edit} (others : e.governs? cls = .none) {c : Class}
    (there : classes[cls]? = .some c) : (e.on classes)[cls]? = .some c := by
  cases e with
  | add c' =>
    obtain ⟨inside, -⟩ := List.getElem?_eq_some_iff.mp there
    exact (List.getElem?_append_left inside).trans there
  | govern other machine d clock =>
    have ne : other ≠ cls := by
      rintro rfl
      simp [governs?] at others
    rw [on]
    split
    · exact there
    · exact (List.getElem?_set_ne ne).trans there

end Edit

/-- Some classes after some edits. -/
def edited (classes : List Class) (edits : List Edit) : List Class := edits.foldl Edit.on classes

/-- The classes that some edits lead to, from those that are there before all others. -/
def made (edits : List Edit) : List Class := edited first edits

theorem edited_append (classes : List Class) (edits more : List Edit) :
    edited classes (edits ++ more) = edited (edited classes edits) more := List.foldl_append

/-- Others' edits leave a class as it is. -/
theorem edited_get? : ∀ {edits : List Edit} {classes : List Class} {cls : ClassId} {c : Class},
    (∀ e ∈ edits, e.governs? cls = .none) → classes[cls]? = .some c →
      (edited classes edits)[cls]? = .some c
  | [], _, _, _, _, there => there
  | e :: edits, classes, cls, c, others, there => by
    change (edited (e.on classes) edits)[cls]? = .some c
    exact edited_get? (fun e' mem => others e' (.tail _ mem)) (e.on_get? (others e (.head _)) there)

/-- What holds of every class that is added holds of a class until a machine is to govern it. -/
theorem edited_ungoverned {P : Class → Prop} {cls : ClassId} : ∀ {edits : List Edit}
    {classes : List Class}, (∀ e ∈ edits, e.governs? cls = .none) →
    (∀ before c later, edits = before ++ .add c :: later →
      (edited classes before).length = cls → P c) →
    (∀ c, classes[cls]? = .some c → P c) → ∀ c, (edited classes edits)[cls]? = .some c → P c
  | [], _, _, _, start, c, there => start c there
  | e :: edits, classes, others, added, start, c, there => by
    change (edited (e.on classes) edits)[cls]? = .some c at there
    refine edited_ungoverned (fun e' mem => others e' (.tail _ mem))
      (fun before c' later split => added (e :: before) c' later (by rw [split, List.cons_append]))
      (fun c' there' => ?_) c there
    cases e with
    | add new =>
      rw [Edit.on] at there'
      by_cases inside : cls < classes.length
      · rw [List.getElem?_append_left inside] at there'
        exact start c' there'
      · rw [List.getElem?_append_right (Nat.not_lt.mp inside)] at there'
        obtain ⟨here, rfl⟩ : cls - classes.length = 0 ∧ new = c' := by
          cases place : cls - classes.length with
          | zero =>
            rw [place] at there'
            exact ⟨rfl, Option.some.inj there'⟩
          | succ n =>
            rw [place] at there'
            cases there'
        exact added [] new edits rfl (Nat.le_antisymm (Nat.not_lt.mp inside)
          (Nat.sub_eq_zero_iff_le.mp here))
    | govern other machine d clock =>
      have ne : other ≠ cls := by
        rintro rfl
        have governs := others _ (.head _)
        simp [Edit.governs?] at governs
      rw [Edit.on] at there'
      split at there'
      · exact start c' there'
      · rw [List.getElem?_set_ne ne] at there'
        exact start c' there'

/-- A class that names a machine and whose constructor is wrapped for it. -/
def WrappedFor (c : Class) (machine : MachineId) : Prop :=
  c.members.get? machineAttribute = .some (.value (.machine machine))
    ∧ ∃ inner source, c.members.get? constructorName = .some (.governed inner source machine)

/-- What becomes of a class that is governed where nothing stands against it. -/
theorem Edit.Completes.get? {classes : List Class} {cls : ClassId} {machine : MachineId}
    {d : Definition} {clock : Option ClockId}
    (h : (Edit.govern cls machine d clock).Completes classes) :
    ∃ c c', classes[cls]? = .some c
      ∧ ((Edit.govern cls machine d clock).on classes)[cls]? = .some c'
      ∧ c'.WrappedFor machine
      ∧ ∀ name, name ≠ constructorName → name ≠ machineAttribute →
        c'.members.get? name = (c.members.get? name).or ((offers machine d clock).lookup name) := by
  obtain ⟨c, there, done⟩ := h
  obtain ⟨inside, -⟩ := List.getElem?_eq_some_iff.mp there
  have governed : Class.govern machine d clock cls c.members ((Lineage.ofClass classes cls).drop 1)
      = ((given classes cls machine d clock c).1, .none) := by
    rw [← done]
    rfl
  refine ⟨c, { c with members := (given classes cls machine d clock c).1 }, there, ?_,
    govern_wraps governed, fun name hc hm => govern_get? governed hc hm⟩
  rw [on, there]
  exact List.getElem?_set_self inside

end Class

/-! ## The nearest decorated class -/

open Lifecycle.Class (Edit made edited)

/-- Of the classes that some edits lead to, `nearest` is the nearest one of the line of `cls` that a
machine was to govern, and `machine` the last one that was. The constructors of the classes before
it go to the one above them, and no body names a machine. -/
structure Heritage (edits : List Edit) (cls nearest : ClassId) (machine : MachineId) : Prop where
  decorated : ∃ earlier d clock later, edits = earlier ++ .govern nearest machine d clock :: later
    ∧ (Edit.govern nearest machine d clock).Completes (made earlier)
    ∧ ∀ e ∈ later, e.governs? nearest = .none
  line : ∃ c below above, (made edits)[cls]? = .some c ∧ cls :: c.bases = below ++ nearest :: above
    ∧ ∀ b ∈ below, (∀ e ∈ edits, e.governs? b = .none)
      ∧ ∀ c, (made edits)[b]? = .some c →
        (c.members.get? constructorName).all (·.callsBase) = true
  unnamed : ∀ c, .add c ∈ edits → c.members.get? machineAttribute = .none

namespace Heritage

variable {edits : List Edit} {cls nearest : ClassId} {machine : MachineId}

theorem wrapped (h : Heritage edits cls nearest machine) :
    ∃ c, (made edits)[nearest]? = .some c ∧ c.WrappedFor machine := by
  obtain ⟨earlier, d, clock, later, rfl, done, others⟩ := h.decorated
  obtain ⟨_, c, -, there, wrapped, -⟩ := done.get?
  rw [made, Class.edited_append]
  have kept := Class.edited_get? others there
  exact ⟨c, kept, wrapped⟩

/-- The machine of the nearest decorated class governs the line. -/
theorem isGovernedBy (h : Heritage edits cls nearest machine) :
    (Lineage.ofClass (made edits) cls).IsGovernedBy machine := by
  obtain ⟨c, there, named, inner, source, constructs⟩ := h.wrapped
  obtain ⟨c₀, below, above, there₀, split, free⟩ := h.line
  let layer (owner : ClassId) : Option Layer :=
    (made edits)[owner]?.map fun c => { toClassBody := c.toClassBody, owner }
  have layers : Lineage.ofClass (made edits) cls
      = below.filterMap layer ++ { toClassBody := c.toClassBody, owner := nearest }
        :: above.filterMap layer := by
    have here : layer nearest = .some { toClassBody := c.toClassBody, owner := nearest } := by
      simp only [layer, there, Option.map_some]
    rw [Lineage.ofClass, there₀]
    dsimp only
    rw [split, List.filterMap_append]
    exact congrArg _ (List.filterMap_cons_some here)
  refine ⟨_, _, _, inner, source, layers, fun l mem => ?_, named, constructs⟩
  obtain ⟨b, inBelow, found⟩ := List.mem_filterMap.mp mem
  obtain ⟨c', there', rfl⟩ := Option.map_eq_some_iff.mp found
  obtain ⟨undecorated, leaves⟩ := free b inBelow
  have none : c'.members.get? machineAttribute = .none := Class.edited_ungoverned
    (P := fun c => c.members.get? machineAttribute = .none) undecorated
    (fun before c later split _ => h.unnamed c (by rw [split]; simp))
    (fun c first => ?_) c' there'
  · exact ⟨none, leaves c' there'⟩
  · have unnamed : ∀ c ∈ Class.first, c.members.get? machineAttribute = .none := by decide
    exact unnamed c (List.mem_of_getElem? first)

end Heritage

/-! ## Several decorations -/

namespace Class

/-- The members besides the events, the states and the successors by which a class shows its
machine. -/
def helpers : List Generated := [.currentState, .errors, .valid, .inState, .notInState]

/-- A class shows a machine to its records and to itself. -/
structure Shows (c : Class) (machine : MachineId) : Prop where
  own : c.members.get? "state_machine" = .some (.value (.machine machine))
  helpers : ∀ what ∈ helpers, ∃ what' clock,
    c.members.get? what.name = .some (.generated what' machine clock)

/-- A class without any of these names. -/
structure IsBare (c : Class) : Prop where
  own : c.members.get? "state_machine" = .none
  helpers : ∀ what ∈ helpers, c.members.get? what.name = .none

theorem first_isBare (c : Class) (h : c ∈ first) : c.IsBare := by
  have own : ∀ c ∈ first, c.members.get? "state_machine" = .none := by decide
  have named : ∀ c ∈ first, ∀ what ∈ Class.helpers, c.members.get? what.name = .none := by decide
  exact ⟨own c h, named c h⟩

theorem Shows.unique {c : Class} {machine other : MachineId} (h : c.Shows machine)
    (h' : c.Shows other) : machine = other := by
  have same := h.own.symm.trans h'.own
  simpa using same

theorem helper_ne {what : Generated} (h : what ∈ helpers) :
    what.name ≠ constructorName ∧ what.name ≠ machineAttribute ∧ what.name ≠ "state_machine" := by
  revert what
  decide

/-- A bare class that is governed shows its machine. -/
theorem IsBare.shows {c c' : Class} {machine : MachineId} {d : Definition}
    {clock : Option ClockId} (bare : c.IsBare)
    (given : ∀ name, name ≠ constructorName → name ≠ machineAttribute →
      c'.members.get? name = (c.members.get? name).or ((offers machine d clock).lookup name)) :
    c'.Shows machine where
  own := by
    rw [given _ (by decide) (by decide), bare.own]
    rfl
  helpers what hw := by
    obtain ⟨hc, hm, hs⟩ := helper_ne hw
    have offered : (what.name, .generated what machine clock) ∈ offers machine d clock := by
      refine List.mem_cons_of_mem _ (List.mem_map.mpr ⟨what, ?_, rfl⟩)
      simp only [Class.helpers, List.mem_cons, List.not_mem_nil, or_false] at hw
      rcases hw with rfl | rfl | rfl | rfl | rfl <;> simp
    obtain ⟨what', found⟩ := offers_lookup_generated hs offered
    exact ⟨what', clock, by rw [given _ hc hm, bare.helpers what hw, found]; rfl⟩

/-- A class that shows a machine goes on to show it when it is governed again. -/
theorem Shows.kept {c c' : Class} {machine other : MachineId} {d : Definition}
    {clock : Option ClockId} (h : c.Shows machine)
    (given : ∀ name, name ≠ constructorName → name ≠ machineAttribute →
      c'.members.get? name = (c.members.get? name).or ((offers other d clock).lookup name)) :
    c'.Shows machine where
  own := by
    rw [given _ (by decide) (by decide), h.own]
    rfl
  helpers what hw := by
    obtain ⟨hc, hm, -⟩ := helper_ne hw
    obtain ⟨what', clock', found⟩ := h.helpers what hw
    exact ⟨what', clock', by rw [given _ hc hm, found]; rfl⟩

/-- Once a class shows a machine it goes on to do so, and its constructor is wrapped for the machine
that was the last one to govern it. -/
theorem edited_shows {cls : ClassId} {first : MachineId} : ∀ {edits : List Edit}
    {classes : List Class} {c : Class} {last : MachineId}, classes[cls]? = .some c →
    c.Shows first → c.WrappedFor last →
    (∀ before e later, edits = before ++ e :: later → (e.governs? cls).isSome = true →
      e.Completes (edited classes before)) →
    ∃ c', (edited classes edits)[cls]? = .some c' ∧ c'.Shows first
      ∧ c'.WrappedFor ((edits.filterMap (·.governs? cls)).getLastD last)
  | [], _, c, _, there, shows, wrapped, _ => ⟨c, there, shows, wrapped⟩
  | e :: edits, classes, c, last, there, shows, wrapped, done => by
    have rest : ∀ before e' later, edits = before ++ e' :: later →
        (e'.governs? cls).isSome = true → e'.Completes (edited (e.on classes) before) :=
      fun before e' later split => done (e :: before) e' later (by rw [split, List.cons_append])
    cases governs : e.governs? cls with
    | none =>
      rw [List.filterMap_cons_none governs]
      exact edited_shows (e.on_get? governs there) shows wrapped rest
    | some machine =>
      rw [List.filterMap_cons_some governs, List.getLastD_cons]
      obtain ⟨d, clock, rfl⟩ := Edit.eq_govern governs
      obtain ⟨c₀, c', there₀, there', wrapped', given⟩ :=
        (done [] _ edits rfl (by rw [governs]; rfl)).get?
      cases there.symm.trans there₀
      exact edited_shows there' (shows.kept given) wrapped' rest

/-- After any edits, a class that was bare shows the first machine that it was given to, and its
constructor is wrapped for the last one. -/
theorem made_shows {edits : List Edit} {cls : ClassId} {first : MachineId} {more : List MachineId}
    (bare : ∀ before c later, edits = before ++ .add c :: later → (made before).length = cls →
      c.IsBare)
    (done : ∀ before e later, edits = before ++ e :: later → (e.governs? cls).isSome = true →
      e.Completes (made before))
    (decorated : edits.filterMap (·.governs? cls) = first :: more) :
    ∃ c, (made edits)[cls]? = .some c ∧ c.Shows first ∧ c.WrappedFor (more.getLastD first) := by
  obtain ⟨before, e, later, rfl, others, governs, rest⟩ := List.filterMap_eq_cons_iff.mp decorated
  obtain ⟨d, clock, rfl⟩ := Edit.eq_govern governs
  obtain ⟨c₀, c₁, there₀, there₁, wrapped, given⟩ :=
    (done before _ later rfl (by rw [governs]; rfl)).get?
  -- Until then nothing was installed in the class, whatever became of the others.
  have bare₀ : c₀.IsBare := by
    refine edited_ungoverned (P := IsBare) others (fun before' c later' split length => ?_)
      (fun c there => ?_) c₀ there₀
    · exact bare before' c (later' ++ .govern cls first d clock :: later)
        (by rw [split, List.append_assoc, List.cons_append]) length
    · exact first_isBare c (List.mem_of_getElem? there)
  have done' (before' : List Edit) (e' : Edit) (later' : List Edit)
      (split : later = before' ++ e' :: later') (governs' : (e'.governs? cls).isSome = true) :
      e'.Completes (edited ((Edit.govern cls first d clock).on (made before)) before') := by
    have whole := done (before ++ .govern cls first d clock :: before') e' later'
      (by rw [split, List.append_assoc, List.cons_append]) governs'
    rwa [made, edited_append] at whole
  rw [made, edited_append, ← rest]
  exact edited_shows there₁ (bare₀.shows given) wrapped done'

end Class

/-- New records of a line are settled for a machine. -/
def Lineage.Initializes (line : Lineage) (machine : MachineId) : Prop :=
  line.machine? = .some machine ∧ ∀ h args, .settle machine ∈ line.deeds h args .none

/-- A class whose constructor is wrapped for a machine has its new records settled for this one
alone. -/
theorem Class.WrappedFor.initializes_iff {classes : List Class} {cls : ClassId} {c : Class}
    (there : classes[cls]? = .some c) {last machine : MachineId} (wrapped : c.WrappedFor last) :
    (Lineage.ofClass classes cls).Initializes machine ↔ machine = last := by
  obtain ⟨named, inner, source, constructs⟩ := wrapped
  obtain ⟨rest, line⟩ := Lineage.ofClass_eq_cons there
  have governed : (Lineage.ofClass classes cls).machine? = .some last := by
    rw [line, Lineage.machine?, Lineage.member?, List.findSome?_cons, named]
    rfl
  constructor
  · rintro ⟨same, -⟩
    exact Option.some.inj (same.symm.trans governed)
  · rintro rfl
    refine ⟨governed, fun h args => ?_⟩
    rw [line, Lineage.deeds, constructs]
    exact List.mem_append_right _ (.head _)

/-- After any edits, a class that was bare shows the first machine that was given it to govern, and
initializes its records for the last one. So these are the same machine only if the first and the
last one are. -/
theorem Class.first_shows_last_initializes {edits : List Edit} {cls : ClassId}
    {first : MachineId} {more : List MachineId}
    (bare : ∀ before c later, edits = before ++ .add c :: later → (made before).length = cls →
      c.IsBare)
    (done : ∀ before e later, edits = before ++ e :: later → (e.governs? cls).isSome = true →
      e.Completes (made before))
    (decorated : edits.filterMap (·.governs? cls) = first :: more) :
    let line := Lineage.ofClass (made edits) cls
    let last := more.getLastD first
    ∃ c, (made edits)[cls]? = .some c ∧ (∀ machine, c.Shows machine ↔ machine = first)
      ∧ (∀ machine, line.Initializes machine ↔ machine = last)
      ∧ ((∃ machine, c.Shows machine ∧ line.Initializes machine) ↔ first = last) := by
  intro line last
  obtain ⟨c, there, shows, wrapped⟩ := made_shows bare done decorated
  have shown (machine : MachineId) : c.Shows machine ↔ machine = first :=
    ⟨fun h => h.unique shows, fun h => h ▸ shows⟩
  have initialized (machine : MachineId) : line.Initializes machine ↔ machine = last :=
    wrapped.initializes_iff there
  refine ⟨c, there, shown, initialized, ?_⟩
  constructor
  · rintro ⟨machine, h, h'⟩
    exact ((shown machine).mp h).symm.trans ((initialized machine).mp h')
  · intro same
    exact ⟨first, shows, (initialized first).mpr same⟩

/-- A plain class that one machine governs and then another one. -/
def Class.twice : List Class.Edit := [
  .add { toClassBody := Class.plain },
  .govern 3 0 { config := { initial := "a" }, states := [{ name := "a" }] } .none,
  .govern 3 1 { config := { initial := "b" }, states := [{ name := "b" }] } .none]

/-- It shows the one, and the other initializes its records. -/
theorem Class.first_shows_last_initializes_twice :
    let line := Lineage.ofClass (made Class.twice) 3
    ∃ c, (made Class.twice)[3]? = .some c ∧ c.Shows 0 ∧ line.Initializes 1
      ∧ ¬ ∃ machine, c.Shows machine ∧ line.Initializes machine := by
  intro line
  have bare : ∀ before c later, Class.twice = before ++ .add c :: later →
      (made before).length = 3 → c.IsBare := by
    rintro (_ | ⟨e, _ | ⟨e', _ | ⟨e'', before⟩⟩⟩) c later split length
    · cases split
      exact ⟨by decide, by decide⟩
    · cases split
    · cases split
    · simp [Class.twice] at split
  have done : ∀ before e later, Class.twice = before ++ e :: later →
      (e.governs? 3).isSome = true → e.Completes (made before) := by
    rintro (_ | ⟨e, _ | ⟨e', _ | ⟨e'', before⟩⟩⟩) c later split governs
    · cases split
      exact trivial
    · cases split
      exact ⟨{ toClassBody := Class.plain }, rfl, by decide⟩
    · cases split
      exact ⟨_, rfl, by decide⟩
    · simp [Class.twice] at split
  have decorated : Class.twice.filterMap (·.governs? 3) = [0, 1] := rfl
  obtain ⟨c, there, shows, initializes, agree⟩ :=
    Class.first_shows_last_initializes bare done decorated
  have differ : ¬ ∃ machine, c.Shows machine ∧ line.Initializes machine := fun same =>
    absurd (agree.mp same) (by decide)
  exact ⟨c, there, (shows 0).mpr rfl, (initializes 1).mpr rfl, differ⟩

end Lifecycle
