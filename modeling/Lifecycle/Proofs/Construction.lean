/-
Constructions: what the constructors of a line of inheritance do, one thing after
the other.

`Lineage.deeds` lists it: the work of each constructor, and at the end of each one
that a machine governs the attempt to settle the record for that machine. To
construct a record is to do these in their order (`Host.construct_run`), and the
list does not depend on how the record is by then. What the work of constructors
keeps that do nothing but assign attributes, be it before or after they go to the
one above them, can be seen from what they assign (`Lineage.deeds_keep`).

A line is governed by a machine if its nearest class with one has this one, and
all constructors nearer than that go to the one above them
(`Lineage.IsGovernedBy`). Then the last thing that is settled is the record for this
machine, and what follows is work of those nearer constructors
(`Lineage.IsGovernedBy.outermost`).
-/
import Lifecycle.Class.Call
import Lifecycle.Proofs.Standing

namespace Lifecycle

open Run (Keeps)

/-- One thing that happens while a record is constructed. -/
inductive Deed where
  /-- What a constructor does by itself. -/
  | work (act : Run Unit)
  /-- A constructor that a machine governs is done with the one that it wraps. -/
  | settle (machine : MachineId)

namespace Deed

def run (h : Host) : Deed → Run Unit
  | work act => act
  | settle machine => h.settle machine

/-- Some deeds one after the other. -/
def runAll (h : Host) : List Deed → Run Unit
  | [] => pure ()
  | d :: ds => do
    d.run h
    runAll h ds

theorem runAll_append (h : Host) (ds more : List Deed) :
    runAll h (ds ++ more) = (do runAll h ds; runAll h more) := by
  induction ds with
  | nil => rfl
  | cons d ds ih => simp only [List.cons_append, runAll, ih, bind_assoc]

theorem runAll_single (h : Host) (d : Deed) : runAll h [d] = d.run h :=
  bind_pure (d.run h)

end Deed

/-- Goes on unless something stands against it. -/
def Run.check (stopped : Bool) (f : Fault) : Run Unit := if stopped then Run.fail f else pure ()

theorem Run.check_bind {α : Type} (stopped : Bool) (f : Fault) (x : Run α) :
    (do Run.check stopped f; x) = if stopped then Run.fail f else x := by
  cases stopped <;> rfl

/-! ## The deeds of constructors -/

/-- What a constructor of the class `owner` comes down to; `base` is what that of the class above a
given one does. -/
def Member.deeds (h : Host) (args : Arguments) (base : ClassId → List Deed) (owner : ClassId) :
    Member → List Deed
  | .governed inner source machine =>
    .work (Run.check (args.named.contains selfName) (.misuse (.repeatedOption selfName)))
      :: inner.deeds h args base source ++ [.settle machine]
  | .keywords true sets =>
    .work (Run.check (!args.positional.isEmpty) (.misuse (.arguments constructorName)))
      :: base owner ++ [.work (h.setAttrs sets.entries)]
  | .around before after =>
    .work (discard (before.call h args.positional))
      :: base owner ++ [.work (discard (after.call h args.positional))]
  | m => [.work (discard (m.call h constructorName args (fun _ => return .null) owner))]

/-- What the nearest constructor of a line does, or that of the class above `above`. -/
def Lineage.deeds (h : Host) (args : Arguments) : Lineage → Option ClassId → List Deed
  | [], _ => [.work (discard (h.constructPlainly args))]
  | layer :: rest, .some above =>
    Lineage.deeds h args rest (if layer.owner == above then .none else .some above)
  | layer :: rest, .none =>
    match layer.members.get? constructorName with
    | .none => Lineage.deeds h args rest .none
    | .some m =>
      let base (owner : ClassId) :=
        Lineage.deeds h args rest (if layer.owner == owner then .none else .some owner)
      m.deeds h args base layer.owner

section Deeds

variable {h : Host} {args : Arguments}

theorem discard_eq {α : Type} (x : Run α) : discard x = (do let _ ← x; pure ()) := rfl

theorem Member.call_deeds {base : ClassId → Run Value} {above : ClassId → List Deed}
    (based : ∀ owner, discard (base owner) = Deed.runAll h (above owner)) (m : Member)
    (owner : ClassId) : discard (m.call h constructorName args base owner)
      = Deed.runAll h (m.deeds h args above owner) := by
  induction m generalizing owner with
  | governed inner source machine wrapped =>
    have called := wrapped source
    rw [discard_eq] at called
    rw [Member.deeds, List.cons_append, Deed.runAll, Deed.runAll_append, ← called,
      Deed.runAll_single, Deed.run, Run.check_bind, Member.call]
    cases args.named.contains selfName with
    | true => rfl
    | false =>
      simp only [Bool.false_eq_true, if_false, discard_eq, bind_assoc, pure_bind, bind_pure_unit]
      rfl
  | keywords callsBase sets =>
    cases callsBase with
    | false =>
      rw [Member.deeds, Deed.runAll_single, Deed.run]
      · rfl
      all_goals nofun
    | true =>
      have called := based owner
      rw [discard_eq] at called
      rw [Member.deeds, List.cons_append, Deed.runAll, Deed.runAll_append, ← called,
        Deed.runAll_single, Deed.run, Run.check_bind, Member.call]
      cases !args.positional.isEmpty with
      | true => rfl
      | false =>
        simp only [Bool.false_eq_true, if_false, if_true, discard_eq, bind_assoc, pure_bind,
          bind_pure_unit]
        rfl
  | around before after =>
    have called := based owner
    rw [discard_eq] at called
    rw [Member.deeds, List.cons_append, Deed.runAll, Deed.runAll_append, ← called,
      Deed.runAll_single, Deed.run, Deed.run, Member.call]
    simp only [discard_eq, bind_assoc, pure_bind]
  | innate what =>
    rw [Member.deeds, Deed.runAll_single, Deed.run]
    · cases what <;> rfl
    all_goals nofun
  | _ =>
    rw [Member.deeds, Deed.runAll_single, Deed.run]
    · rfl
    all_goals nofun

/-- To construct by a line is to do its deeds. -/
theorem Lineage.construct_deeds : ∀ (line : Lineage) (above : Option ClassId),
    discard (line.construct h args above) = Deed.runAll h (line.deeds h args above)
  | [], above => by
    rw [construct, deeds, Deed.runAll_single]
    · rfl
  | layer :: rest, .some above => construct_deeds rest _
  | layer :: rest, .none => by
    rw [construct, deeds]
    cases layer.members.get? constructorName with
    | none => exact construct_deeds rest .none
    | some m => exact Member.call_deeds (fun owner => construct_deeds rest _) m layer.owner

/-- Whether a constructor never answers with a value. -/
def Member.isSilent : Member → Bool
  | keywords _ _ | around _ _ | governed _ _ _ => true
  | _ => false

theorem Member.call_of_isSilent {m : Member} (silent : m.isSilent = true) (h : Host)
    (args : Arguments) (base : ClassId → Run Value) (owner : ClassId) :
    m.call h constructorName args base owner
      = (do discard (m.call h constructorName args base owner); return .null) := by
  cases m with
  | governed inner source machine =>
    rw [Member.call]
    cases args.named.contains selfName with
    | true => rfl
    | false => simp only [Bool.false_eq_true, if_false, discard_eq, bind_assoc, pure_bind]
  | keywords callsBase sets =>
    rw [Member.call]
    cases !args.positional.isEmpty with
    | true => rfl
    | false =>
      cases callsBase <;>
        simp only [Bool.false_eq_true, if_false, if_true, discard_eq, bind_assoc, pure_bind]
  | around before after =>
    rw [Member.call]
    simp only [discard_eq, bind_assoc, pure_bind]
  | _ => cases silent

theorem Lineage.construct_of_isSilent : ∀ {line : Lineage} {owner : ClassId} {m : Member},
    line.member? constructorName = .some (owner, m) → m.isSilent = true →
    line.construct h args .none = (do Deed.runAll h (line.deeds h args .none); return .null)
  | [], _, _, found, _ => nomatch found
  | layer :: rest, owner, m, found, silent => by
    rw [← construct_deeds, construct]
    cases own : layer.members.get? constructorName with
    | none =>
      have above : member? rest constructorName = .some (owner, m) := by
        rw [← found, member?, member?, List.findSome?_cons, own]
        rfl
      have answers := construct_of_isSilent above silent
      rwa [← construct_deeds] at answers
    | some m' =>
      rw [member?, List.findSome?_cons, own] at found
      cases found
      exact Member.call_of_isSilent silent ..

/-- Where the nearest constructor answers with nothing, to construct a record is to do the deeds of
its line. -/
theorem Host.construct_run {l : Live} {owner : ClassId} {m : Member}
    (found : l.line.member? constructorName = .some (owner, m)) (silent : m.isSilent = true) :
    (h.construct args).run l = (Deed.runAll h (l.line.deeds h args .none)).run l := by
  rw [construct, Run.run_bind_ok (Run.run_get l), Lineage.construct_of_isSilent found silent,
    bind_assoc]
  simp only [pure_bind, Value.isNull, if_true]
  exact congrArg (EStateM.run · l) (bind_pure _)

end Deeds

/-! ## What constructors assign -/

/-- Whether a script does nothing but to assign some attributes, with values that are free for
them. -/
def Script.assigns (free : String → Value → Bool) : Script → Bool
  | done => true
  | step (.set (.str name) (.lit v)) rest => free name v && rest.assigns free
  | _ => false

/-- Whether a constructor does nothing by itself but that. -/
def Member.assigns (args : Arguments) (free : String → Value → Bool) : Member → Bool
  | governed inner _ _ => inner.assigns args free
  | around before after => before.assigns free && after.assigns free
  | keywords callsBase sets =>
    (if callsBase then sets else sets.merge args.named).entries.all fun entry =>
      free entry.1 entry.2
  | innate .construct => true
  | _ => false

section Assigns

variable {h : Host} {args : Arguments} {P : Live → Live → Prop} [IsPreorder Live P]
  {free : String → Value → Bool}
  (sets : ∀ name v, free name v = true → Keeps P (h.setAttr (.str name) v))

theorem Run.check_keeps (stopped : Bool) (f : Fault) : Keeps P (Run.check stopped f) := by
  cases stopped with
  | true => exact Keeps.fail f
  | false => exact Keeps.pure ()

theorem Host.constructPlainly_keeps : Keeps P (h.constructPlainly args) := by
  refine Keeps.of_idle fun l => ?_
  rw [constructPlainly, Run.Idle, Run.final_bind_ok (Run.run_get l)]
  dsimp only
  split
  · rfl
  · split
    · rfl
    · split <;> rfl

include sets

theorem Host.setAttrs_keeps : ∀ {entries : List (String × Value)},
    (entries.all fun entry => free entry.1 entry.2) = true → Keeps P (h.setAttrs entries)
  | [], _ => Keeps.pure ()
  | (name, v) :: entries, all => by
    obtain ⟨here, rest⟩ := (Bool.and_eq_true ..).mp all
    exact (sets name v here).bind fun _ => setAttrs_keeps rest

variable (partings : ∀ l m, P m (h.parted l m))
include partings

theorem Script.run_assigns_keeps {vs : List Value} : ∀ {s : Script}, s.assigns free = true →
    Keeps P (s.run h vs)
  | .done, _ => Keeps.pure _
  | .step (.set (.str name) (.lit v)) rest, assigns => by
    obtain ⟨here, later⟩ := (Bool.and_eq_true ..).mp assigns
    have assigned : Keeps P ((Step.set (.str name) (.lit v)).run h vs) :=
      Host.passing_keeps partings (sets name v here)
    exact assigned.bind fun _ => run_assigns_keeps later

theorem Member.deeds_keep {base : ClassId → List Deed}
    (above : ∀ owner act, .work act ∈ base owner → Keeps P act) {m : Member} {owner : ClassId}
    (assigns : m.assigns args free = true) {act : Run Unit}
    (mem : .work act ∈ m.deeds h args base owner) : Keeps P act := by
  induction m generalizing owner with
  | governed inner source machine wrapped =>
    simp only [deeds, List.cons_append, List.mem_cons, Deed.work.injEq, List.mem_append,
      reduceCtorEq, List.not_mem_nil, or_false] at mem
    obtain rfl | mem := mem
    · exact Run.check_keeps _ _
    · exact wrapped assigns mem
  | keywords callsBase values =>
    cases callsBase with
    | true =>
      simp only [deeds, List.cons_append, List.mem_cons, Deed.work.injEq, List.mem_append,
        List.not_mem_nil, or_false] at mem
      obtain rfl | mem | rfl := mem
      · exact Run.check_keeps _ _
      · exact above owner act mem
      · exact Host.setAttrs_keeps sets assigns
    | false =>
      simp only [deeds, List.mem_singleton, Deed.work.injEq] at mem
      rw [mem, discard_eq, call, if_neg Bool.false_ne_true]
      split
      · exact (Keeps.fail _).bind fun _ => Keeps.pure ()
      · exact ((Host.setAttrs_keeps sets assigns).bind fun _ => Keeps.pure _).bind
          fun _ => Keeps.pure ()
  | around before after =>
    obtain ⟨first, last⟩ := (Bool.and_eq_true ..).mp assigns
    have script {s : Script} (assigns : s.assigns free = true) :
        Keeps P (discard (s.call h args.positional)) :=
      ((Script.run_assigns_keeps sets partings assigns).bind fun _ => Keeps.pure _).bind
        fun _ => Keeps.pure ()
    simp only [deeds, List.cons_append, List.mem_cons, Deed.work.injEq, List.mem_append,
      List.not_mem_nil, or_false] at mem
    obtain rfl | mem | rfl := mem
    · exact script first
    · exact above owner act mem
    · exact script last
  | innate what =>
    cases what with
    | construct =>
      simp only [deeds, List.mem_singleton, Deed.work.injEq] at mem
      rw [mem, discard_eq, call]
      exact Host.constructPlainly_keeps.bind fun _ => Keeps.pure ()
    | _ => cases assigns
  | _ => cases assigns

/-- Where the constructors of a line only assign, the work of all of them keeps what an assignment
keeps. -/
theorem Lineage.deeds_keep : ∀ {line : Lineage} {above : Option ClassId},
    (∀ layer ∈ line, (layer.members.get? constructorName).all (·.assigns args free) = true) →
    ∀ act, .work act ∈ line.deeds h args above → Keeps P act
  | [], above, _, act, mem => by
    rw [deeds, List.mem_singleton, Deed.work.injEq] at mem
    rw [mem, discard_eq]
    exact Host.constructPlainly_keeps.bind fun _ => Keeps.pure ()
  | layer :: rest, .some above, assigns, act, mem =>
    deeds_keep (fun l inside => assigns l (.tail _ inside)) act mem
  | layer :: rest, .none, assigns, act, mem => by
    have later (above : Option ClassId) : ∀ act, .work act ∈ Lineage.deeds h args rest above →
        Keeps P act := deeds_keep fun l inside => assigns l (.tail _ inside)
    have here := assigns layer (.head _)
    rw [deeds] at mem
    cases own : layer.members.get? constructorName with
    | none =>
      rw [own] at mem
      exact later .none act mem
    | some m =>
      rw [own] at mem here
      exact Member.deeds_keep sets partings (fun owner => later _) here mem

end Assigns

/-! ## Governed lines -/

namespace Member

/-- Whether a constructor goes to the one above it, before or after what else it does. -/
def callsBase : Member → Bool
  | keywords callsBase _ => callsBase
  | around _ _ => true
  | _ => false

theorem isSilent_of_callsBase {m : Member} (calls : m.callsBase = true) : m.isSilent = true := by
  cases m with
  | keywords | around => rfl
  | _ => cases calls

theorem deeds_of_callsBase {m : Member} (calls : m.callsBase = true) (h : Host) (args : Arguments)
    (base : ClassId → List Deed) (owner : ClassId) :
    ∃ first last, m.deeds h args base owner = .work first :: base owner ++ [.work last] := by
  cases m with
  | keywords callsBase sets =>
    obtain rfl : callsBase = true := calls
    exact ⟨_, _, rfl⟩
  | around before after => exact ⟨_, _, rfl⟩
  | _ => cases calls

end Member

namespace Lineage

/-- The nearest class of a line with a machine has this one, and those nearer leave what they do not
do by themselves to it. -/
def IsGovernedBy (line : Lineage) (machine : MachineId) : Prop :=
  ∃ below nearest above inner source, line = below ++ nearest :: above
    ∧ (∀ layer ∈ below, layer.members.get? machineAttribute = .none
        ∧ (layer.members.get? constructorName).all (·.callsBase) = true)
    ∧ nearest.members.get? machineAttribute = .some (.value (.machine machine))
    ∧ nearest.members.get? constructorName = .some (.governed inner source machine)

namespace IsGovernedBy

variable {line : Lineage} {machine : MachineId}

theorem machine? (g : line.IsGovernedBy machine) : line.machine? = .some machine := by
  obtain ⟨below, nearest, above, inner, source, rfl, free, named, -⟩ := g
  have found : Lineage.member? (below ++ nearest :: above) machineAttribute
      = .some (nearest.owner, .value (.machine machine)) := by
    have none : below.findSome? (fun layer =>
        (layer.members.get? machineAttribute).map (layer.owner, ·)) = .none := by
      rw [List.findSome?_eq_none_iff]
      intro layer mem
      rw [(free layer mem).1]
      rfl
    rw [member?, List.findSome?_append, none, List.findSome?_cons, named]
    rfl
  rw [Lineage.machine?, found]

/-- The nearest constructor answers with nothing. -/
theorem silent (g : line.IsGovernedBy machine) :
    ∃ owner m, line.member? constructorName = .some (owner, m) ∧ m.isSilent = true := by
  obtain ⟨below, nearest, above, inner, source, rfl, free, -, wrapped⟩ := g
  induction below with
  | nil =>
    refine ⟨nearest.owner, .governed inner source machine, ?_, rfl⟩
    rw [member?, List.nil_append, List.findSome?_cons, wrapped]
    rfl
  | cons layer below ih =>
    obtain ⟨-, calls⟩ := free layer (.head _)
    rw [List.cons_append, member?, List.findSome?_cons]
    cases own : layer.members.get? constructorName with
    | none => exact ih fun layer mem => free layer (.tail _ mem)
    | some m =>
      rw [own] at calls
      exact ⟨layer.owner, m, rfl, Member.isSilent_of_callsBase calls⟩

/-- The last thing that is settled is the record for the machine of the line. -/
theorem outermost (g : line.IsGovernedBy machine) (h : Host) (args : Arguments) :
    ∃ before, ∃ works : List (Run Unit), line.deeds h args .none
      = before ++ .settle machine :: works.map Deed.work := by
  obtain ⟨below, nearest, above, inner, source, rfl, free, -, wrapped⟩ := g
  induction below with
  | nil =>
    rw [List.nil_append, deeds, wrapped]
    exact ⟨_, [], rfl⟩
  | cons layer below ih =>
    obtain ⟨before, works, deeds_eq⟩ := ih fun layer mem => free layer (.tail _ mem)
    obtain ⟨-, calls⟩ := free layer (.head _)
    rw [List.cons_append, deeds]
    cases own : layer.members.get? constructorName with
    | none => exact ⟨before, works, deeds_eq⟩
    | some m =>
      rw [own] at calls
      obtain ⟨first, last, parts⟩ := Member.deeds_of_callsBase calls h args (fun owner =>
        Lineage.deeds h args (below ++ nearest :: above)
          (if layer.owner == owner then .none else .some owner)) layer.owner
      dsimp only
      rw [parts, beq_self_eq_true, if_pos rfl, deeds_eq]
      exact ⟨.work first :: before, works ++ [last], by simp⟩

end IsGovernedBy

end Lineage

end Lifecycle
