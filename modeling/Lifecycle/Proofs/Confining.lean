/-
Confining: rules that are put inside several scopes, one scope after the other.

The scope that was put around the others last is asked first. The condition that
was there before is asked for when all of them cover the record, and not at all
if one does not (`Engine.holds_withinAll`), so that what comes out is their
conjunction. Where asking the scopes changes nothing, it matters neither in which
order they were put around the rule, nor how often (`Engine.scopes_conjoin`).
-/
import Lifecycle.Proofs.Commands
import Lifecycle.Proofs.Filtering

namespace Lifecycle

/-! ## Questions one after the other -/

namespace Run

variable {x y z : Run Bool} {l l' : Live}

/-- The second question is only asked if the answer to the first is yes. -/
def andAlso (x y : Run Bool) : Run Bool := do
  if ← x then y else return false

theorem pure_andAlso (y : Run Bool) : andAlso (pure true) y = y := rfl

theorem andAlso_assoc (x y z : Run Bool) : (x.andAlso y).andAlso z = x.andAlso (y.andAlso z) := by
  rw [andAlso, andAlso, bind_assoc]
  refine bind_congr fun yes => ?_
  cases yes <;> rfl

theorem andAlso_of_true {m : Live} (asked : x.run l = .ok true m) :
    (x.andAlso y).run l = y.run m := run_bind_ok asked _

theorem andAlso_of_false (asked : x.run l = .ok false l') :
    (x.andAlso y).run l = .ok false l' := run_bind_ok asked _

theorem andAlso_eq_true : (x.andAlso y).run l = .ok true l' ↔
    ∃ m, x.run l = .ok true m ∧ y.run m = .ok true l' := by
  rw [andAlso, run_bind_eq_ok]
  constructor
  · rintro ⟨yes, m, asked, rest⟩
    cases yes with
    | true => exact ⟨m, asked, rest⟩
    | false => cases rest
  · rintro ⟨m, asked, rest⟩
    exact ⟨true, m, asked, rest⟩

theorem andAlso_eq_false : (x.andAlso y).run l = .ok false l' ↔
    x.run l = .ok false l' ∨ ∃ m, x.run l = .ok true m ∧ y.run m = .ok false l' := by
  rw [andAlso, run_bind_eq_ok]
  constructor
  · rintro ⟨yes, m, asked, rest⟩
    cases yes with
    | true => exact .inr ⟨m, asked, rest⟩
    | false =>
      cases rest
      exact .inl asked
  · rintro (asked | ⟨m, asked, rest⟩)
    · exact ⟨false, l', asked, rfl⟩
    · exact ⟨true, m, asked, rest⟩

end Run

open Run (andAlso)

/-! ## Scopes one after the other -/

namespace RuleOptions

/-- The options of the same rule with some scopes put around it, one after the other. -/
def withinAll (o : RuleOptions) (scopes : List Scope) : RuleOptions := scopes.foldl within o

theorem withinAll_cons (o : RuleOptions) (s : Scope) (scopes : List Scope) :
    o.withinAll (s :: scopes) = (o.within s).withinAll scopes := rfl

theorem withinAll_others (scopes : List Scope) (o : RuleOptions) :
    (o.withinAll scopes).others = o.others := by
  induction scopes generalizing o with
  | nil => rfl
  | cons s scopes ih => rw [withinAll_cons, ih, within_others]

end RuleOptions

namespace Engine

variable {e : Engine} {event : Value} {l l' : Live} {scopes : List Scope}

/-- Whether a record is in all of some scopes, which are asked up to the first that it is not in. -/
def coveredByAll (e : Engine) (event : Value) : List Scope → Run Bool
  | [] => return true
  | s :: rest => do
    if ← e.covered event s then e.coveredByAll event rest else return false

/-- Some scopes, each asked where the one before has left off, all cover the record. -/
inductive Covers (e : Engine) (event : Value) : List Scope → Live → Live → Prop where
  | nil (l : Live) : Covers e event [] l l
  | cons {s : Scope} {rest : List Scope} {l m l' : Live}
    (active : (e.covered event s).run l = .ok true m) (others : Covers e event rest m l') :
    Covers e event (s :: rest) l l'

theorem coveredByAll_cons (e : Engine) (event : Value) (s : Scope) (rest : List Scope) :
    e.coveredByAll event (s :: rest)
      = (e.covered event s).andAlso (e.coveredByAll event rest) := rfl

theorem coveredByAll_append (e : Engine) (event : Value) (scopes more : List Scope) :
    e.coveredByAll event (scopes ++ more)
      = (e.coveredByAll event scopes).andAlso (e.coveredByAll event more) := by
  induction scopes with
  | nil => rfl
  | cons s scopes ih =>
    rw [List.cons_append, coveredByAll_cons, coveredByAll_cons, ih, Run.andAlso_assoc]

theorem holds_scoped (e : Engine) (event : Value) (s : Scope) (c : Condition) :
    e.holds event (.scoped s c) = (e.covered event s).andAlso (e.holds event c) := rfl

/-- All scopes are asked before the condition that was there, and that is asked once at most. -/
theorem holds_withinAll (e : Engine) (event : Value) (scopes : List Scope) (o : RuleOptions) :
    e.holds event (o.withinAll scopes).condition
      = (e.coveredByAll event scopes.reverse).andAlso (e.holds event o.condition) := by
  induction scopes generalizing o with
  | nil => rfl
  | cons s scopes ih =>
    -- the scope that came first is the innermost, so it is asked last
    rw [RuleOptions.withinAll_cons, ih, RuleOptions.within_condition, holds_scoped,
      List.reverse_cons, coveredByAll_append, coveredByAll_cons, coveredByAll,
      Run.andAlso_assoc, Run.andAlso_assoc, Run.pure_andAlso]

theorem coveredByAll_eq_true :
    (e.coveredByAll event scopes).run l = .ok true l' ↔ e.Covers event scopes l l' := by
  induction scopes generalizing l with
  | nil =>
    constructor
    · rintro ⟨⟩
      exact .nil _
    · rintro ⟨⟩
      rfl
  | cons s scopes ih =>
    rw [coveredByAll_cons, Run.andAlso_eq_true]
    constructor
    · rintro ⟨m, active, others⟩
      exact .cons active (ih.mp others)
    · rintro (_ | ⟨active, others⟩)
      exact ⟨_, active, ih.mpr others⟩

theorem coveredByAll_eq_false : (e.coveredByAll event scopes).run l = .ok false l' ↔
    ∃ before s rest m, scopes = before ++ s :: rest ∧ e.Covers event before l m
      ∧ (e.covered event s).run m = .ok false l' := by
  induction scopes generalizing l with
  | nil =>
    constructor
    · rintro ⟨⟩
    · rintro ⟨before, s, rest, m, none, -⟩
      cases (List.append_eq_nil_iff.mp none.symm).2
  | cons s scopes ih =>
    rw [coveredByAll_cons, Run.andAlso_eq_false]
    constructor
    · rintro (inactive | ⟨m, active, others⟩)
      · exact ⟨[], s, scopes, l, rfl, .nil l, inactive⟩
      · obtain ⟨before, t, rest, n, rfl, covers, inactive⟩ := ih.mp others
        exact ⟨s :: before, t, rest, n, rfl, .cons active covers, inactive⟩
    · rintro ⟨before, t, rest, m, split, covers, inactive⟩
      cases covers with
      | nil =>
        cases split
        exact .inl inactive
      | cons active covers =>
        cases split
        exact .inr ⟨_, active, ih.mpr ⟨_, _, _, _, rfl, covers, inactive⟩⟩

/-! ### Scopes that are asked without effect -/

theorem coveredByAll_run {active : Scope → Bool}
    (answers : ∀ s ∈ scopes, (e.covered event s).run l = .ok (active s) l) :
    (e.coveredByAll event scopes).run l = .ok (scopes.all active) l := by
  induction scopes with
  | nil => rfl
  | cons s scopes ih =>
    have first := answers s (.head _)
    have others := ih fun t mem => answers t (.tail _ mem)
    rw [coveredByAll_cons, List.all_cons]
    cases isActive : active s with
    | true => rw [Run.andAlso_of_true (isActive ▸ first), others, Bool.true_and]
    | false => rw [Run.andAlso_of_false (isActive ▸ first), Bool.false_and]

/-- Where scopes cover a record and asking them changes nothing, each of them covers it there. -/
theorem Covers.of_idle (covers : e.Covers event scopes l l')
    (idle : ∀ s ∈ scopes, (e.covered event s).Idle l) :
    l' = l ∧ ∀ s ∈ scopes, (e.covered event s).run l = .ok true l := by
  induction covers with
  | nil l => exact ⟨rfl, nofun⟩
  | cons active _ ih =>
    obtain rfl := (idle _ (.head _)).eq_of_ok active
    obtain ⟨rfl, others⟩ := ih fun t mem => idle t (.tail _ mem)
    exact ⟨rfl, List.forall_mem_cons.mpr ⟨active, others⟩⟩

/-- And where one does not, there is one that does not. -/
theorem inactive_of_idle (refused : (e.coveredByAll event scopes).run l = .ok false l')
    (idle : ∀ s ∈ scopes, (e.covered event s).Idle l) :
    l' = l ∧ ∃ s ∈ scopes, (e.covered event s).run l = .ok false l := by
  obtain ⟨before, s, rest, m, rfl, covers, inactive⟩ := coveredByAll_eq_false.mp refused
  obtain ⟨rfl, -⟩ := covers.of_idle fun t mem => idle t (List.mem_append_left _ mem)
  have among : s ∈ before ++ s :: rest := List.mem_append_right _ (.head _)
  obtain rfl := (idle s among).eq_of_ok inactive
  exact ⟨rfl, s, among, inactive⟩

/-- So if there is an answer, all scopes cover the record and it is that of the condition that was
there, or one of them does not and it is no. -/
theorem holds_withinAll_of_idle {o : RuleOptions} {b : Bool}
    (idle : ∀ s ∈ scopes, (e.covered event s).Idle l)
    (answered : (e.holds event (o.withinAll scopes).condition).run l = .ok b l') :
    ((∀ s ∈ scopes, (e.covered event s).run l = .ok true l)
        ∧ (e.holds event o.condition).run l = .ok b l')
      ∨ (∃ s ∈ scopes, (e.covered event s).run l = .ok false l) ∧ b = false ∧ l' = l := by
  rw [holds_withinAll, andAlso, Run.run_bind_eq_ok] at answered
  obtain ⟨yes, m, asked, answered⟩ := answered
  have idle' : ∀ s ∈ scopes.reverse, (e.covered event s).Idle l := fun s mem =>
    idle s (List.mem_reverse.mp mem)
  cases yes with
  | true =>
    obtain ⟨rfl, active⟩ := (coveredByAll_eq_true.mp asked).of_idle idle'
    exact .inl ⟨fun s mem => active s (List.mem_reverse.mpr mem), answered⟩
  | false =>
    obtain ⟨rfl, s, mem, inactive⟩ := inactive_of_idle asked idle'
    cases answered
    exact .inr ⟨⟨s, List.mem_reverse.mp mem, inactive⟩, rfl, rfl⟩

/-- What a scope says of a record whose column holds data, where no class has a say in reading
it. -/
theorem covered_run_of_plain {s : Scope} {id : RecordId} {column : String} (plain : l.Plain id)
    (held : s.column = .str column) (ordinary : l.IsOrdinary id column)
    (data : ((l.value? id column).getD .null).IsData) (named : event.isState = true)
    (named' : s.event.isState = true) : (e.covered event s).run l = .ok
      (s.isAt ((l.value? id column).getD .null).asState && (s.event.isNull || event.same s.event))
      l := by
  have read := Host.attr_run_ordinary (h := e.host) plain ordinary
  rw [covered, held, Run.run_bind_ok read, Host.asState_of_isData _ data, pure_bind]
  cases s.isAt ((l.value? id column).getD .null).asState with
  | false => rfl
  | true =>
    cases null : s.event.isNull with
    | true => rfl
    | false =>
      refine (Run.run_bind_ok (Host.differ_run named named') _).trans ?_
      rw [Bool.not_not]
      rfl

end Engine

namespace Engine

/-- Scopes are put around a rule by conjunction. What comes out holds where all of them cover the
record and then the condition holds that was there before, which is asked once at most and only
then; no other option changes, and of a workspace only what is under way. Where asking the scopes
changes nothing, neither their order matters nor how often each is among them. -/
theorem scopes_conjoin (e : Engine) (event : Value) (scopes : List Scope) (o : RuleOptions) :
    (o.withinAll scopes).others = o.others
    ∧ e.holds event (o.withinAll scopes).condition = (do
        if ← e.coveredByAll event scopes.reverse then e.holds event o.condition else return false)
    ∧ (∀ l l', (e.holds event (o.withinAll scopes).condition).run l = .ok true l' ↔
        ∃ m, e.Covers event scopes.reverse l m ∧ (e.holds event o.condition).run m = .ok true l')
    ∧ (∀ l l', (e.holds event (o.withinAll scopes).condition).run l = .ok false l' ↔
        (∃ before s rest m, scopes.reverse = before ++ s :: rest ∧ e.Covers event before l m
          ∧ (e.covered event s).run m = .ok false l')
        ∨ ∃ m, e.Covers event scopes.reverse l m ∧ (e.holds event o.condition).run m = .ok false l')
    ∧ (∀ l active, (∀ s ∈ scopes, (e.covered event s).run l = .ok (active s) l) →
        ∀ scopes' : List Scope, (∀ s, s ∈ scopes' ↔ s ∈ scopes) →
          (e.holds event (o.withinAll scopes').condition).run l
            = if scopes.all active then (e.holds event o.condition).run l else .ok false l)
    ∧ (∀ l, (∀ s ∈ scopes, (e.covered event s).Idle l) →
        ∀ scopes' : List Scope, (∀ s, s ∈ scopes' ↔ s ∈ scopes) → ∀ b b' m m',
          (e.holds event (o.withinAll scopes).condition).run l = .ok b m →
          (e.holds event (o.withinAll scopes').condition).run l = .ok b' m' → b' = b ∧ m' = m)
    ∧ ∀ (w : Workspace) (id record : String), ∃ live,
        (∃ d s holds, w.scopeIds.get? id = .some (d, s)
          ∧ (Command.scopeOptions id record event o).run.run w
            = .ok (.options (o.within s) holds) { w with live })
        ∨ ∃ stop, (Command.scopeOptions id record event o).run.run w
          = .error stop { w with live } := by
  refine ⟨RuleOptions.withinAll_others scopes o, holds_withinAll e event scopes o, ?_, ?_, ?_, ?_,
    fun w id record => Command.scopeOptions_run w id record event o⟩
  · intro l l'
    rw [holds_withinAll, Run.andAlso_eq_true]
    simp only [coveredByAll_eq_true]
  · intro l l'
    rw [holds_withinAll, Run.andAlso_eq_false, coveredByAll_eq_false]
    simp only [coveredByAll_eq_true]
  · intro l active answers scopes' same
    have asked : (e.coveredByAll event scopes'.reverse).run l
        = .ok (scopes'.reverse.all active) l :=
      coveredByAll_run fun s mem => answers s ((same s).mp (List.mem_reverse.mp mem))
    have all : scopes'.reverse.all active = scopes.all active := by
      rw [List.all_reverse, Bool.eq_iff_iff, List.all_eq_true, List.all_eq_true]
      exact forall_congr' fun s => by rw [same]
    rw [holds_withinAll]
    cases covers : scopes.all active with
    | true => exact Run.andAlso_of_true (all.trans covers ▸ asked)
    | false => exact Run.andAlso_of_false (all.trans covers ▸ asked)
  · intro l idle scopes' same b b' m m' answered answered'
    have idle' : ∀ s ∈ scopes', (e.covered event s).Idle l := fun s mem => idle s ((same s).mp mem)
    obtain ⟨active, asked⟩ | ⟨⟨s, mem, inactive⟩, rfl, rfl⟩ := holds_withinAll_of_idle idle answered
    · obtain ⟨-, asked'⟩ | ⟨⟨s, mem, inactive⟩, -⟩ := holds_withinAll_of_idle idle' answered'
      · cases asked.symm.trans asked'
        exact ⟨rfl, rfl⟩
      · cases (active s ((same s).mp mem)).symm.trans inactive
    · obtain ⟨active, -⟩ | ⟨-, rfl, rfl⟩ := holds_withinAll_of_idle idle' answered'
      · cases (active s ((same s).mpr mem)).symm.trans inactive
      · exact ⟨rfl, rfl⟩

/-- A record in the state `a`, and in a phase. -/
def phased : Live := (Live.blank.assign 0 "state" "a").assign 0 "phase" "x"

/-- A condition that says in the log that it was asked, and one of another column around it. -/
theorem scopes_conjoin_phased :
    let e := picky []
    let inState : Scope := { state := "a" }
    let inPhase : Scope := { state := "x", event := "go", column := "phase" }
    let o : RuleOptions :=
      { condition := .callback .stern, others := (∅ : Table Value).set "message" "no" }
    let twice := o.withinAll [inState, inPhase, inState]
    let once := o.withinAll [inPhase, inState]
    twice.others = o.others
      ∧ (e.holds "go" once.condition).run phased
        = .ok true { phased with log := [.note "asked"] }
      ∧ (e.holds "go" twice.condition).run phased
        = .ok true { phased with log := [.note "asked"] }
      ∧ (e.holds "stop" once.condition).run phased = .ok false phased := by
  intro e inState inPhase o twice once
  have stands : phased.Stands Class.plainOnly 3 0 [] := ⟨rfl, rfl, rfl, nofun⟩
  have plain := stands.plain Class.plainOnly_isSimple
  have state (event : String) : (e.covered event inState).run phased = .ok true phased :=
    covered_run_of_plain plain rfl (plain.names "state" (by decide)) (.str "a") rfl rfl
  have phase (event : String) : (e.covered event inPhase).run phased
      = .ok (event == "go") phased := by
    have asked : (e.covered (.str event) inPhase).run phased = _ :=
      covered_run_of_plain plain rfl (plain.names "phase" (by decide)) (.str "x") rfl rfl
    rw [Value.same_str] at asked
    exact asked
  have lasting : phased.hasFarewells = false := by decide
  have condition : (e.holds "go" o.condition).run phased
      = .ok true { phased with log := [.note "asked"] } :=
    (Run.run_bind_ok (Callback.stern_logs lasting ["go"] []) _).trans (Host.truth_run_str "never")
  have answers (event : String) : ∀ s ∈ [inPhase, inState], (e.covered event s).run phased
      = .ok (s.event.isNull || event == "go") phased := by
    refine List.forall_mem_cons.mpr ⟨?_, List.forall_mem_singleton.mpr (state event)⟩
    exact phase event
  have same : ∀ s, s ∈ [inState, inPhase, inState] ↔ s ∈ [inPhase, inState] := fun s => by
    simp only [List.mem_cons, List.not_mem_nil, or_false]
    tauto
  obtain ⟨-, -, -, -, go, -⟩ := scopes_conjoin e "go" [inPhase, inState] o
  obtain ⟨-, -, -, -, stop, -⟩ := scopes_conjoin e "stop" [inPhase, inState] o
  refine ⟨(scopes_conjoin e "go" [inState, inPhase, inState] o).1, ?_, ?_, ?_⟩
  · exact (go _ _ (answers "go") _ fun s => .rfl).trans condition
  · exact (go _ _ (answers "go") _ same).trans condition
  · exact stop _ _ (answers "stop") _ fun s => .rfl

end Engine

end Lifecycle
