/-
All that runs is steady: lists, scripts, engines and calls, and so every answer to a
request.

Each lemma follows the definition that it is about. What a call does depends on
requests in turn, so the last step is an induction on how many of them may wait for
one another (`Setting.answer_steady`).
-/
import Lifecycle.Proofs.Onward

namespace Lifecycle

open Run (Steady)

namespace Host

variable {h : Host}

/-! ## Signatures -/

section Signature

variable (answers : h.IsSteady)
include answers

@[grind ←] theorem askClasses_steady (v : Value) (n : Nat) : Steady (h.askClasses v n) := by
  induction n with
  | zero => exact Steady.pure _
  | succ n ih =>
    rw [askClasses]
    grind

@[grind ←] theorem readAll_steady (v : Value) (names : List String) :
    Steady (h.readAll v names) := by
  induction names with
  | nil => exact Steady.pure _
  | cons name rest ih =>
    rw [readAll]
    grind

@[grind ←] theorem unwrapped?_steady (n : Nat) (id : RecordId) (seen : List RecordId) :
    Steady (h.unwrapped? id n seen) := by
  induction n generalizing id seen with
  | zero => exact Steady.pure _
  | succ n ih =>
    rw [unwrapped?]
    grind

@[grind ←] theorem passesForInnate_steady (v : Value) : Steady (h.passesForInnate v) := by
  unfold passesForInnate
  grind

omit answers in
@[grind ←] theorem makingTakesEvent_steady (id : ClassId) : Steady (h.makingTakesEvent id) := by
  unfold makingTakesEvent
  grind

/-- What is wrapped is passed over, and then what it is called by is looked into. -/
theorem lookPast_steady {n : Nat} (looks : ∀ v, Steady (h.lookForEvent n v)) (id : RecordId) :
    Steady (do
      if ← h.passesForInnate (.record id) then
        let _ ← h.passesForInnate (.record id)
        h.readAll (.record id) ["__text_signature__"]
        return true
      else
        h.askClasses (.record id) 2
        match ← h.special? "__call__" (.record id) with
        | .none | .some .null => return true
        | .some w => h.lookForEvent n w : Run Bool) := by
  grind

theorem lookForEvent_steady (n : Nat) :
    (∀ v, Steady (h.lookForEvent n v)) ∧ ∀ v, Steady (h.lookInside n v) := by
  induction n with
  | zero => exact ⟨fun _ => Steady.pure _, fun _ => Steady.pure _⟩
  | succ n ih =>
    obtain ⟨looks, inside⟩ := ih
    constructor
    · intro v
      rw [lookForEvent.eq_def]
      dsimp only
      split
      · refine Steady.get.bind fun l => ?_
        split
        · exact Steady.pure _
        · grind
      · exact makingTakesEvent_steady _
      · grind
    · intro v
      cases v with
      | record id =>
        have passes := lookPast_steady answers looks id
        rw [lookInside]
        refine (attrOf_steady answers _ _).bind fun claimed => ?_
        split
        · grind
        · refine (attrOf_steady answers _ _).bind fun part => ?_
          refine (askClass_steady answers _).bind fun _ => ?_
          refine (askClass_steady answers _).bind fun _ => Steady.get.bind fun l => ?_
          dsimp only
          split
          · refine (askClass_steady answers _).bind fun _ => ?_
            exact (readAll_steady answers _ _).bind fun _ => passes
          · exact passes
      | _ => exact looks _

@[grind ←] theorem takesEvent_steady (v : Value) : Steady (h.takesEvent v) := by
  have := fun n => (lookForEvent_steady answers n).1
  unfold takesEvent
  grind

end Signature

end Host

/-! ## Lists -/

namespace ListMethod

variable {h : Host}

@[grind ←] theorem itemsAt_steady (n : Nat) : Steady (itemsAt n) := by
  unfold itemsAt
  grind

@[grind ←] theorem put_steady (n : Nat) (items : List Value) : Steady (put n items) :=
  Steady.alter (fun _ => rfl) fun _ => rfl

@[grind ←] theorem clearAll_steady (n : Nat) : Steady (clearAll n) :=
  Steady.alter (fun _ => rfl) fun _ => rfl

@[grind ←] theorem more_steady (n : Nat) (items : List Value) : Steady (more n items) :=
  Steady.alter (fun _ => rfl) fun _ => rfl

variable (answers : h.IsSteady)
include answers

@[grind ←] theorem number?_steady (v : Value) : Steady (number? h v) := by
  unfold number?
  grind

@[grind ←] theorem placeAt_steady (n : Nat) (v : Value) : Steady (placeAt h n v) := by
  unfold placeAt
  grind

@[grind ←] theorem bound_steady (n : Nat) (v : Value) : Steady (bound h n v) := by
  unfold bound
  grind

@[grind ←] theorem find?_steady (v : Value) (ws : List Value) : Steady (find? h v ws) := by
  induction ws with
  | nil => exact Steady.pure _
  | cons w ws ih =>
    rw [find?]
    grind

@[grind ←] theorem countOf_steady (v : Value) (ws : List Value) : Steady (countOf h v ws) := by
  induction ws with
  | nil => exact Steady.pure _
  | cons w ws ih =>
    rw [countOf]
    grind

@[grind ←] theorem search_steady (n : Nat) (v : Value) (start stop : Nat) :
    Steady (search h n v start stop) := by
  unfold search
  grind

@[grind ←] theorem isLess_steady (a b : Value) : Steady (isLess h a b) := by
  unfold isLess
  grind

@[grind ←] theorem stretch_steady (falls : Bool) (last : Value) (vs : List Value) :
    Steady (stretch h falls last vs) := by
  induction vs generalizing last with
  | nil => exact Steady.pure _
  | cons v vs ih =>
    rw [stretch]
    grind

@[grind ←] theorem placeFor_steady (sorted : List Value) (v : Value) (low high : Nat) :
    Steady (placeFor h sorted v low high) := by
  fun_induction placeFor with
  | case1 => grind
  | case2 => exact Steady.pure _

@[grind ←] theorem insertAll_steady (sorted vs : List Value) : Steady (insertAll h sorted vs) := by
  induction vs generalizing sorted with
  | nil => exact Steady.pure _
  | cons v vs ih =>
    rw [insertAll]
    grind

@[grind ←] theorem sorted_steady (vs : List Value) : Steady (sorted h vs) := by
  unfold sorted
  grind

@[grind ←] theorem text_steady (n : Nat) : Steady (text h n) := by
  unfold text
  grind

@[grind ←] theorem run_steady (n : Nat) (m : ListMethod) (args : List Value) :
    Steady (m.run h n args) := by
  unfold run
  refine (itemsAt_steady n).bind fun items => ?_
  dsimp only
  split <;> grind

end ListMethod

/-! ## Scripts -/

section Scripts

variable {h : Host} (answers : h.IsSteady)
include answers

omit answers in
@[grind ←] theorem Host.machineNamed_steady (id : String) : Steady (h.machineNamed id) := by
  unfold machineNamed
  grind

theorem Expr.eval_steady (args : List Value) : ∀ e : Expr, Steady (e.eval h args)
  | .lit _ | .arg _ | .argc | .attr _ | .fire _ _ => by
    rw [eval]
    grind
  | .not a | .errors _ a => by
    have := eval_steady args a
    rw [eval]
    grind
  | .eq a b => by
    have := eval_steady args a
    have := eval_steady args b
    rw [eval]
    grind
  | .inc _ => by
    rw [eval]
    grind
  | .call _ es => by
    have := evalAll_steady es
    rw [eval]
    grind
where
  evalAll_steady : ∀ es, Steady (Expr.evalAll h args es)
    | [] => Steady.pure _
    | e :: es => by
      have := eval_steady args e
      have := evalAll_steady es
      rw [Expr.evalAll]
      grind

@[grind ←] theorem Step.run_steady (args : List Value) (s : Step) : Steady (s.run h args) := by
  have := Expr.eval_steady answers args
  unfold Step.run
  grind

theorem Script.run_steady (args : List Value) : ∀ s : Script, Steady (s.run h args)
  | .done => Steady.pure _
  | .give e => by
    have := Expr.eval_steady answers args
    rw [Script.run]
    grind
  | .step s rest => by
    have := run_steady args rest
    rw [Script.run]
    grind
  | .branch test yes no rest => by
    have := Expr.eval_steady answers args
    have := run_steady args yes
    have := run_steady args no
    have := run_steady args rest
    rw [Script.run]
    grind

@[grind ←] theorem Script.call_steady (args : List Value) (s : Script) :
    Steady (s.call h args) := by
  have := Script.run_steady answers args
  unfold Script.call
  grind

@[grind ←] theorem Callback.call_steady (args : List Value) (c : Callback) :
    Steady (c.call h args) := by
  unfold Callback.call
  grind

end Scripts

/-! ## Engines -/

namespace Engine

variable {e : Engine}

@[grind ←] theorem watch_steady (entry : Entry) : Steady (e.watch entry) := by
  unfold watch
  grind

@[grind ←] theorem stamp_steady (field : Value) : Steady (e.stamp field) := by
  unfold stamp
  refine Steady.get_bind fun l => ?_
  split
  · exact Steady.fail _ l
  · exact ⟨rfl, List.prefix_rfl⟩

variable (answers : e.host.IsSteady)
include answers

@[grind ←] theorem currentState_steady : Steady e.currentState := by
  unfold currentState
  grind

@[grind ←] theorem declaredState_steady : Steady e.declaredState := by
  unfold declaredState
  grind

@[grind ←] theorem isInState_steady (name : Value) : Steady (e.isInState name) := by
  unfold isInState
  grind

@[grind ←] theorem committed_steady : Steady e.committed := by
  unfold committed
  grind

@[grind ←] theorem commit_steady (state : Value) : Steady (e.commit state) := by
  unfold commit
  grind

@[grind ←] theorem rollback_steady : Steady e.rollback := by
  unfold rollback
  grind

@[grind ←] theorem runAction_steady (event : Value) (action : Callback) :
    Steady (e.runAction event action) := by
  unfold runAction
  grind

@[grind ←] theorem runActions_steady (event : Value) (actions : List Callback) :
    Steady (e.runActions event actions) := by
  induction actions with
  | nil => exact Steady.pure _
  | cons action rest ih =>
    rw [runActions]
    grind

@[grind ←] theorem entering_steady (event : Value) (s : State) : Steady (e.entering event s) :=
  runActions_steady answers _ _

@[grind ←] theorem entered_steady (event : Value) (s : State) : Steady (e.entered event s) :=
  runActions_steady answers _ _

@[grind ←] theorem exited_steady (event : Value) (s : State) : Steady (e.exited event s) :=
  runActions_steady answers _ _

@[grind ←] theorem covered_steady (event : Value) (scope : Scope) :
    Steady (e.covered event scope) := by
  unfold covered
  grind

theorem holds_steady (event : Value) : ∀ c : Condition, Steady (e.holds event c)
  | .always => Steady.pure _
  | .callback c => by
    rw [holds]
    grind
  | .scoped scope inner => by
    have := holds_steady event inner
    rw [holds]
    grind

@[grind ←] theorem attrsWith_steady (blank : Bool) (names : List Value) :
    Steady (e.attrsWith blank names) := by
  induction names with
  | nil => exact Steady.pure _
  | cons name names ih =>
    rw [attrsWith]
    grind

@[grind ←] theorem validate_steady (args : List Value) (v : Validator) :
    Steady (e.validate args v) := by
  unfold validate
  grind

@[grind ←] theorem ruleErrors_steady (event : Value) (rule : Rule) :
    Steady (e.ruleErrors event rule) := by
  have := holds_steady answers event
  unfold ruleErrors
  grind

@[grind ←] theorem errorsOf_steady (event : Value) (rules : List Rule) :
    Steady (e.errorsOf event rules) := by
  induction rules with
  | nil => exact Steady.pure _
  | cons rule rules ih =>
    rw [errorsOf]
    grind

@[grind ←] theorem errors_steady (event : Value) : Steady (e.errors event) :=
  errorsOf_steady answers _ _

@[grind ←] theorem check_steady (event : Value) : Steady (e.check event) := by
  unfold check
  grind

@[grind ←] theorem isValid_steady (event : Value) : Steady (e.isValid event) := by
  unfold isValid
  grind

@[grind ←] theorem stampAbsent_steady (field : Value) : Steady (e.stampAbsent field) := by
  unfold stampAbsent
  grind

@[grind ←] theorem stampAlways_steady (field : Value) : Steady (e.stampAlways field) := by
  unfold stampAlways
  grind

@[grind ←] theorem stampExit_steady (state : String) : Steady (e.stampExit state) := by
  unfold stampExit
  grind

@[grind ←] theorem allows_steady (event : Value) (t : Transition) : Steady (e.allows event t) := by
  unfold allows
  grind

@[grind ←] theorem perform_steady (event : Value) (t : Transition) :
    Steady (e.perform event t) := by
  unfold perform
  refine (allows_steady answers _ _).bind fun allowed => ?_
  split
  · refine (currentState_steady answers).bind fun current => (Steady.lift _).bind fun next => ?_
    refine (Steady.lift _).bind fun old => (stampExit_steady answers _).bind fun _ => ?_
    grind
  · exact Steady.pure false

@[grind ←] theorem performFirst_steady (event : Value) (ts : List Transition) :
    Steady (e.performFirst event ts) := by
  induction ts with
  | nil => exact Steady.pure _
  | cons t ts ih =>
    rw [performFirst]
    grind

@[grind ←] theorem eventNamed_steady (name : Value) : Steady (e.eventNamed name) := by
  unfold eventNamed
  grind

@[grind ←] theorem nextTransitions_steady (event : Event) : Steady (e.nextTransitions event) := by
  unfold nextTransitions
  grind

@[grind ←] theorem fireEvent_steady (event : Event) : Steady (e.fireEvent event) := by
  unfold fireEvent
  grind

@[grind ←] theorem report_steady (stop : Stop) : Steady (e.report stop) := by
  unfold report
  grind

@[grind ←] theorem notifyOne_steady (args : List Value) (o : Callback) :
    Steady (e.notifyOne args o) := by
  have called : Steady (do let _ ← o.call e.host args : Run Unit) :=
    (Callback.call_steady answers args o).bind fun _ => Steady.pure _
  unfold notifyOne
  grind

@[grind ←] theorem notify_steady (args : List Value) (os : List Callback) :
    Steady (e.notify args os) := by
  induction os with
  | nil => exact Steady.pure _
  | cons o os ih =>
    rw [notify]
    grind

@[grind ←] theorem fire_steady (name : Value) : Steady (e.fire name) := by
  unfold fire
  grind

@[grind ←] theorem start_steady : Steady e.start := by
  unfold start
  grind

@[grind ←] theorem nextTransitionsFor_steady (name : Value) :
    Steady (e.nextTransitionsFor name) := by
  unfold nextTransitionsFor
  grind

@[grind ←] theorem nextTargetFor_steady (name : Value) : Steady (e.nextTargetFor name) := by
  unfold nextTargetFor
  grind

@[grind ←] theorem settle_steady : Steady e.settle := by
  unfold settle
  grind

@[grind ←] theorem validByErrors_steady (event : Value) : Steady (e.validByErrors event) := by
  unfold validByErrors
  grind

@[grind ←] theorem stateOf_steady (v : Value) : Steady (e.stateOf v) := by
  unfold stateOf
  grind

@[grind ←] theorem selectValues_steady (among : Bool) (values : Value) (names : List Value) :
    Steady (e.selectValues among values names) := by
  unfold selectValues
  grind

@[grind ←] theorem callGenerated_steady (what : Generated) (args : List Value) :
    Steady (e.callGenerated what args) := by
  unfold callGenerated
  split <;> grind

end Engine

/-! ## Calls -/

section Calls

variable {h : Host} (answers : h.IsSteady)
include answers

omit answers in
/-- An engine asks the host that it is made for. -/
theorem Host.engine_bind {α : Type} {f : Engine → Run α} (hf : ∀ e, e.host = h → Steady (f e))
    (id : MachineId) : Steady (h.engine id >>= f) := by
  unfold engine
  rw [bind_assoc]
  exact (Steady.liftStop _).bind fun m => hf { host := h, machine := m } rfl

namespace Host

@[grind ←] theorem settle_steady (id : MachineId) : Steady (h.settle id) := by
  have settles := engine_bind (f := Engine.settle)
    (fun e he => Engine.settle_steady (he ▸ answers)) id
  unfold settle
  grind

@[grind ←] theorem callNamed_steady (name : String) (args : List Value) :
    Steady (h.callNamed name args) := by
  unfold callNamed
  grind

@[grind ←] theorem parts_steady : Steady h.parts := by
  unfold parts
  refine Steady.get.bind fun l => ?_
  grind

@[grind ←] theorem laterParts_steady : Steady h.laterParts := by
  unfold laterParts
  grind

@[grind ←] theorem partsBy_steady (version : Int) : Steady (h.partsBy version) := by
  unfold partsBy
  grind

@[grind ←] theorem present_steady (names : List String) : Steady (h.present names) := by
  induction names with
  | nil => exact Steady.pure _
  | cons name rest ih =>
    rw [present]
    grind

@[grind ←] theorem ownState_steady : Steady h.ownState := by
  unfold ownState
  grind

@[grind ←] theorem written_steady : Steady h.written := by
  unfold written
  grind

@[grind ←] theorem names_steady : Steady h.names := by
  unfold names
  grind

@[grind ←] theorem newRecord_steady (cls : ClassId) : Steady (h.newRecord cls) := by
  unfold newRecord
  grind

@[grind ←] theorem make_steady (owner : ClassId) (args : List Value) :
    Steady (h.make owner args) := by
  unfold make
  grind

omit answers in
@[grind ←] theorem constructPlainly_steady (args : Arguments) :
    Steady (h.constructPlainly args) := by
  unfold constructPlainly
  grind

omit answers in
@[grind ←] theorem below_steady : Steady h.below := by
  unfold below
  grind

@[grind ←] theorem isOfClass_steady (v : Value) : Steady (h.isOfClass v) := by
  unfold isOfClass
  grind

@[grind ←] theorem innate_call_steady (owner : ClassId) (name : String) (what : Innate)
    (args : List Value) : Steady (what.call h owner name args) := by
  unfold Innate.call
  split <;> grind

theorem member_call_steady {base : ClassId → Run Value} (bases : ∀ c, Steady (base c))
    (name : String) (owner : ClassId) (m : Member) (args : Arguments) :
    Steady (m.call h name args base owner) := by
  induction m generalizing args owner with
  | governed inner source id ih =>
    rw [Member.call]
    grind
  | generated what id clock =>
    rw [Member.call]
    split
    · refine engine_bind (fun e he => Engine.callGenerated_steady ?_ _ _) id
      exact he ▸ answers
    · exact Steady.fail _
  | _ =>
    unfold Member.call
    grind

theorem construct_steady (args : Arguments) (line : Lineage) (above : Option ClassId) :
    Steady (line.construct h args above) := by
  induction line generalizing above with
  | nil => exact member_call_steady answers (fun _ => Steady.pure _) _ _ _ _
  | cons layer rest ih =>
    cases above with
    | some above => exact ih _
    | none =>
      rw [Lineage.construct]
      split
      · exact ih _
      · exact member_call_steady answers (fun _ => ih _) _ _ _ _

@[grind ←] theorem callMember_steady (owner : ClassId) (name : String) (args : Arguments)
    (m : Member) : Steady (h.callMember owner name args m) := by
  unfold callMember
  refine Steady.get.bind fun l => member_call_steady answers (fun above => ?_) _ _ _ _
  exact construct_steady answers _ _ _

@[grind ←] theorem callFree_steady (owner : ClassId) (name : String) (args : Arguments)
    (m : Member) : Steady (h.callFree owner name args m) := by
  unfold callFree
  split <;> grind

@[grind ←] theorem constructs_steady (args : Arguments) : Steady (h.construct args) := by
  have := construct_steady answers
  unfold construct
  grind

@[grind ←] theorem create_steady (cls : ClassId) (args : Arguments) :
    Steady (h.create cls args) := by
  unfold create
  grind

@[grind ←] theorem listOf_steady (args : List Value) : Steady (h.listOf args) := by
  unfold listOf
  grind

omit answers in
@[grind ←] theorem classOf_steady (args : List Value) : Steady (h.classOf args) := by
  unfold classOf
  grind

@[grind ←] theorem callClass_steady (cls : ClassId) (args : Arguments) :
    Steady (h.callClass cls args) := by
  unfold callClass
  grind

@[grind ←] theorem call_steady (target : Value) (args : List Value) :
    Steady (h.call target args) := by
  unfold call
  grind

theorem serve_steady (r : Request) : Steady (h.serve r) := by
  cases r with
  | call target args => exact working_steady answers (call_steady answers _ _) _
  | fire id event =>
    refine working_steady answers (engine_bind (fun e he => ?_) id) _
    exact (Engine.fire_steady (he ▸ answers) event).bind fun _ => Steady.pure _
  | errors id event =>
    refine working_steady answers (engine_bind (fun e he => ?_) id) _
    exact (Engine.errors_steady (he ▸ answers) event).bind fun _ => Steady.pure _

end Host

end Calls

/-- However many requests may wait for one another, nothing that runs undoes anything. -/
theorem Setting.answer_steady (s : Setting) (n : Nat) (r : Request) : Steady (s.answer n r) := by
  induction n generalizing r with
  | zero => exact Steady.throw _
  | succ n ih => exact Host.serve_steady (h := { toSetting := s, answer := s.answer n }) ih r

end Lifecycle
