/-
Gates: which rules a fire asks for, and what comes of those that fail.

While a record shows a state and an event is fired, the rules of a machine count
only where their reach covers both, and then as if they were not confined
(`errorsOf_placed`). All that a fire finds out about validity it finds out by
these rules (`Engine.fireBy`). If they do no more than log (`Run.Logs`), a fire
where one of them fails does no more than log either: it is refused by every
candidate, for the same reason (`Engine.rules_gate_fires`).

A guard may move the record by hand before it refuses. The next candidate is
then looked at in the other state (`rules_gate_fires_moved`).
-/
import Lifecycle.Proofs.Firable
import Lifecycle.Proofs.Placement
import Lifecycle.Proofs.Validity

namespace Lifecycle

/-! ## Runs that log -/

namespace Run

variable {α β : Type} {l : Live}

/-- Whatever was logged before, a run answers with `a`, adds the entries `es` and changes nothing
else. -/
def Logs (x : Run α) (l : Live) (a : α) (es : List Entry) : Prop :=
  ∀ log, x.run { l with log } = .ok a { l with log := log ++ es }

namespace Logs

theorem pure (a : α) : (pure a : Run α).Logs l a [] := fun log => by
  rw [List.append_nil]
  rfl

theorem bind {x : Run α} {f : α → Run β} {a : α} {b : β} {es es' : List Entry}
    (hx : x.Logs l a es) (hf : (f a).Logs l b es') : (x >>= f).Logs l b (es ++ es') := fun log => by
  rw [run_bind_ok (hx log), hf, List.append_assoc]

theorem of_idle {x : Run α} {a : α} (h : ∀ log, x.run { l with log } = .ok a { l with log }) :
    x.Logs l a [] := fun log => by
  rw [List.append_nil]
  exact h log

theorem run_silent {x : Run α} {a : α} (h : x.Logs l a []) (log : List Entry) :
    x.run { l with log } = .ok a { l with log } := by
  rw [h, List.append_nil]

theorem unique {x : Run α} {a b : α} {es es' : List Entry} (h : x.Logs l a es)
    (h' : x.Logs l b es') : a = b ∧ es = es' := by
  have same := (h []).symm.trans (h' [])
  injection same with answers left
  exact ⟨answers, congrArg Live.log left⟩

end Logs

end Run

open Run (Logs)

namespace Engine

/-- What is logged where the engine is watched. -/
def seen (e : Engine) (l : Live) (entry : Entry) : List Entry :=
  if e.watched then [entry.map l.settle] else []

theorem watch_logs (e : Engine) (entry : Entry) (l : Live) :
    (e.watch entry).Logs l () (e.seen l entry) := by
  rw [watch, seen]
  split
  · exact fun _ => rfl
  · exact .pure ()

/-! ## Rules -/

/-- A rule does no more than log: neither does its condition, nor its validator. -/
structure OnlyLogs (e : Engine) (event : Value) (rule : Rule) (l : Live) : Prop where
  condition : ∃ applies es, (e.holds event rule.condition).Logs l applies es
  validator : ∃ v, e.machine.registry.validator? rule.validator = .some v
    ∧ ∃ error es, (e.validate rule.args v).Logs l error es

/-- A rule that does no more than log applies and is not satisfied. -/
structure Fails (e : Engine) (event : Value) (rule : Rule) (l : Live) : Prop where
  condition : ∃ es, (e.holds event rule.condition).Logs l true es
  validator : ∃ v, e.machine.registry.validator? rule.validator = .some v
    ∧ ∃ error es, (e.validate rule.args v).Logs l error es ∧ error.isNull = false

variable {e : Engine} {event : Value} {l : Live}

/-- A rule that applies has a message if its validator has one. -/
theorem ruleErrors_logs {rule : Rule} {es es' : List Entry} {v : Validator} {error : Value}
    (holds : (e.holds event rule.condition).Logs l true es)
    (known : e.machine.registry.validator? rule.validator = .some v)
    (validates : (e.validate rule.args v).Logs l error es') :
    (e.ruleErrors event rule).Logs l
      (if error.isNull then [] else [if rule.message.truthy then rule.message else error])
      (es ++ es') := by
  intro log
  rw [ruleErrors, Run.run_bind_ok (holds log)]
  simp only [known, if_true]
  rw [Run.run_bind_ok (validates _), List.append_assoc]
  rfl

theorem OnlyLogs.errors {rule : Rule} (h : e.OnlyLogs event rule l) :
    ∃ messages es, (e.ruleErrors event rule).Logs l messages es := by
  obtain ⟨applies, es, holds⟩ := h.condition
  obtain ⟨v, known, error, es', validates⟩ := h.validator
  cases applies with
  | false => exact ⟨[], _, holds.bind (.pure [])⟩
  | true => exact ⟨_, _, ruleErrors_logs holds known validates⟩

theorem Fails.errors {rule : Rule} (h : e.Fails event rule l) :
    ∃ messages es, (e.ruleErrors event rule).Logs l messages es ∧ messages ≠ [] := by
  obtain ⟨es, holds⟩ := h.condition
  obtain ⟨v, known, error, es', validates, given⟩ := h.validator
  refine ⟨_, _, ruleErrors_logs holds known validates, ?_⟩
  rw [given]
  exact List.cons_ne_nil _ _

theorem errorsOf_cons_logs {rule : Rule} {rules : List Rule} {first rest : List Value}
    {es es' : List Entry} (hfirst : (e.ruleErrors event rule).Logs l first es)
    (hrest : (e.errorsOf event rules).Logs l rest es') :
    (e.errorsOf event (rule :: rules)).Logs l (first ++ rest) (es ++ es') := by
  have logs : (e.errorsOf event (rule :: rules)).Logs l (first ++ rest) (es ++ (es' ++ [])) :=
    hfirst.bind (hrest.bind (.pure _))
  rwa [List.append_nil] at logs

theorem errorsOf_logs : ∀ {rules : List Rule}, (∀ rule ∈ rules, e.OnlyLogs event rule l) →
    ∃ messages es, (e.errorsOf event rules).Logs l messages es
  | [], _ => ⟨[], [], .pure []⟩
  | rule :: rules, logs => by
    obtain ⟨first, es, hfirst⟩ := (logs rule (.head _)).errors
    obtain ⟨rest, es', hrest⟩ := errorsOf_logs fun r mem => logs r (.tail _ mem)
    exact ⟨_, _, errorsOf_cons_logs hfirst hrest⟩

/-- Where one of some rules fails there is a message. -/
theorem errorsOf_ne_nil {rules : List Rule} (logs : ∀ rule ∈ rules, e.OnlyLogs event rule l)
    {rule : Rule} (mem : rule ∈ rules) (fails : e.Fails event rule l) {messages : List Value}
    {es : List Entry} (h : (e.errorsOf event rules).Logs l messages es) : messages ≠ [] := by
  induction rules generalizing messages es with
  | nil => cases mem
  | cons r rules ih =>
    obtain ⟨first, es₁, hfirst⟩ := (logs r (.head _)).errors
    obtain ⟨rest, es₂, hrest⟩ := errorsOf_logs fun r mem => logs r (.tail _ mem)
    have all : messages = first ++ rest := (h.unique (errorsOf_cons_logs hfirst hrest)).1
    rw [all]
    rcases List.mem_cons.mp mem with rfl | later
    · obtain ⟨failed, es₃, hfailed, given⟩ := fails.errors
      rw [(hfirst.unique hfailed).1]
      exact List.append_ne_nil_of_left_ne_nil given _
    · exact List.append_ne_nil_of_right_ne_nil _
        (ih (fun r mem => logs r (.tail _ mem)) later hrest)

/-! ## Reaches -/

section Reach

variable {s event : String} (shown : ∀ log, e.currentState.run { l with log }
  = .ok (.str s) { l with log })
include shown

theorem covered_logs (t : String) (of : Value) (covers : Bool)
    (decides : of.isNull = true ∧ covers = true ∨ ∃ name, of = .str name
      ∧ covers = (event == name)) :
    (e.covered (.str event) ⟨.str t, of, e.machine.config.column⟩).Logs l (s == t && covers) [] := by
  refine .of_idle fun log => ?_
  have read : (e.covered (.str event) ⟨.str t, of, e.machine.config.column⟩)
      = e.currentState >>= fun current =>
        if !Scope.isAt ⟨.str t, of, e.machine.config.column⟩ current then return false
        else if of.isNull then return true
        else return !(← e.host.differ (.str event) of) := by
    rw [covered, currentState, bind_assoc]
  have at_ : Scope.isAt ⟨.str t, of, e.machine.config.column⟩ (.str s) = (s == t) := by
    simp [Scope.isAt, Value.isNull]
  rw [read, Run.run_bind_ok (shown log), at_]
  cases s == t with
  | false => rfl
  | true =>
    rcases decides with ⟨null, rfl⟩ | ⟨name, rfl, rfl⟩
    · rw [null]
      rfl
    · have differs := Host.differ_run (h := e.host) (l := { l with log }) (a := .str event)
        (b := .str name) rfl rfl
      change (e.host.differ (.str event) (.str name) >>= fun b => pure !b).run { l with log } = _
      rw [Run.run_bind_ok differs]
      simp [Value.same]

/-- A rule counts where its reach covers the state and the event, and then as it was meant. -/
theorem ruleErrors_placed (event : String) (p : PlacedRule) (log : List Entry) :
    (e.ruleErrors (.str event) (p.rule e.machine.config.column)).run { l with log }
      = if p.reach.covers s event then (e.ruleErrors (.str event) p.own).run { l with log }
        else .ok [] { l with log } := by
  obtain ⟨reach, own⟩ := p
  have confined (t : String) (of : Value) (covers : Bool)
      (decides : of.isNull = true ∧ covers = true ∨ ∃ name, of = .str name
        ∧ covers = (event == name)) :
      (e.ruleErrors (.str event) (own.within ⟨.str t, of, e.machine.config.column⟩)).run
          { l with log }
        = if s == t && covers then (e.ruleErrors (.str event) own).run { l with log }
          else .ok [] { l with log } := by
    have silent := (covered_logs shown t of covers decides).run_silent log
    rw [ruleErrors, Rule.within]
    dsimp only
    rw [holds, bind_assoc, Run.run_bind_ok silent]
    cases s == t && covers <;> rfl
  cases reach with
  | everywhere => rfl
  | state t =>
    have count := confined t .null true (.inl ⟨rfl, rfl⟩)
    rwa [Bool.and_true] at count
  | edge t name => exact confined t (.str name) _ (.inr ⟨name, rfl, rfl⟩)

/-- What the rules of a machine find is what those find whose reaches cover the state and the event,
in the same order. -/
theorem errorsOf_placed : ∀ {placed : List PlacedRule},
    (∀ p ∈ placed, p.reach.covers s event = true → e.OnlyLogs (.str event) p.own l) →
    ∀ log, (e.errorsOf (.str event) (placed.map (·.rule e.machine.config.column))).run { l with log }
      = (e.errorsOf (.str event) ((placed.filter (·.reach.covers s event)).map (·.own))).run
        { l with log }
  | [], _, _ => rfl
  | p :: placed, logs, log => by
    have rest := errorsOf_placed fun p mem => logs p (.tail _ mem)
    have first := ruleErrors_placed shown event p log
    rw [List.map_cons, errorsOf]
    cases covers : p.reach.covers s event with
    | false =>
      rw [covers, if_neg Bool.false_ne_true] at first
      rw [List.filter_cons_of_neg (by simp [covers]), Run.run_bind_ok first]
      simp only [List.nil_append, bind_pure]
      exact rest log
    | true =>
      obtain ⟨messages, es, found⟩ := (logs p (.head _) covers).errors
      rw [covers, if_pos rfl] at first
      rw [List.filter_cons_of_pos (by simpa using covers), List.map_cons, errorsOf,
        Run.run_bind_ok (first.trans (found log)), Run.run_bind_ok (found log)]
      exact Run.run_bind_congr (rest _) _

end Reach

/-! ## Checks -/

/-- Where `W` holds, the record that `e` asks has no check of its own. Neither it nor its class has
one, and `e` asks its rules itself; or its class has the one that the machine gave it, and the rules
are asked by an engine that lets two requests less wait. -/
inductive ChecksBy (W : Live → Prop) : Engine → Engine → Prop where
  | bare {e : Engine} (unchecked : ∀ l, W l → (e.host.attr (.str "is_valid")).run l = .ok .null l) :
    ChecksBy W e e
  | governed {s : Setting} {m : Machine} {machine : MachineId} {id : RecordId}
    {clock : Option ClockId} {n : Nat}
    (hm : s.machine? machine = .some m) (leaves : m.LeavesCheck)
    (governed : ∀ l, W l → l.Governed id machine m.toDefinition clock) :
    ChecksBy W (s.engineAt m (n + 2)) (s.engineAt m n)

section Check

variable {W : Live → Prop} {e r : Engine} {event : Value} {l : Live} {messages : List Value}
  {es : List Entry}

theorem ChecksBy.machine (h : ChecksBy W e r) : r.machine = e.machine := by
  cases h <;> rfl

/-- The record is valid if its rules have no message. -/
theorem ChecksBy.check_logs (h : ChecksBy W e r) (w : ∀ log, W { l with log })
    (errors : (r.errors event).Logs l messages es) :
    (e.check event).Logs l messages.isEmpty es := by
  intro log
  cases h with
  | bare unchecked =>
    rw [check, Run.run_bind_ok (unchecked _ (w log))]
    simp only [Value.isNull, if_true]
    rw [Run.run_bind_ok (errors log)]
    rfl
  | governed hm leaves governed =>
    have g := governed _ (w log)
    have answered := Run.run_bind_ok (errors log)
      fun messages => (return messages.isEmpty : Run Bool)
    rw [g.check_run_of_leaves hm _ event leaves, Run.run_as_ok g.self answered]
    exact congrArg (EStateM.Result.ok _)
      (governed _ (w (log ++ es))).at_record

end Check

/-! ## Fires by a check -/

/-- Whether a transition is allowed, if validity is found out by `check`. -/
def allowsBy (e : Engine) (check : Run Bool) (event : Value) (t : Transition) : Run Bool := do
  let result ← check
  e.watch (.valid event result)
  if result then e.guardPasses event t else return false

/-- Moves the record along the first transition that is allowed, if validity is found out by
`check`. -/
def chooseBy (e : Engine) (check : Run Bool) (event : Value) : List Transition → Run Bool
  | [] => return false
  | t :: ts => do
    if ← e.allowsBy check event t then
      e.move event t
      return true
    else e.chooseBy check event ts

/-- Fires an event, if validity is found out by `check`. -/
def fireBy (e : Engine) (check : Run Bool) (ev : Event) : Run Bool := do
  let old ← e.currentState
  let candidates ← e.nextTransitions ev
  if ← e.chooseBy check (.str ev.name) candidates then
    let new ← e.currentState
    e.notify [.str ev.name, old, new] e.machine.observers
    return true
  else
    e.rollback
    return false

theorem allows_eq (e : Engine) (event : Value) (t : Transition) :
    e.allows event t = e.allowsBy (e.check event) event t := by
  rw [allows, isValid, bind_assoc]
  refine bind_congr fun result => ?_
  rw [bind_assoc]
  rfl

theorem performFirst_eq (e : Engine) (event : Value) : ∀ ts : List Transition,
    e.performFirst event ts = e.chooseBy (e.check event) event ts
  | [] => rfl
  | t :: ts => by
    rw [performFirst_cons, chooseBy, allows_eq, performFirst_eq e event ts]

/-- A fire finds out about validity by the check of the record. -/
theorem fireFound_eq (e : Engine) (ev : Event) :
    e.fireFound ev = e.fireBy (e.check (.str ev.name)) ev := by
  simp only [fireFound, fireBy, fireEvent, bind_assoc, performFirst_eq]

section FireBy

variable {e : Engine} {W : Live → Prop} {check check' : Run Bool} {event : Value} {l : Live}

/-- As long as the guards that refuse stay where `W` holds, the check matters only there. -/
theorem chooseBy_congr (noted : ∀ l log, W l → W { l with log })
    (same : ∀ l, W l → check.run l = check'.run l)
    (kept : ∀ l b l', W l → check'.run l = .ok b l' → W l') : ∀ ts : List Transition,
    (∀ t ∈ ts, ∀ l l', W l → (e.guardPasses event t).run l = .ok false l' → W l') →
      ∀ l, W l → (e.chooseBy check event ts).run l = (e.chooseBy check' event ts).run l
  | [], _, _, _ => rfl
  | t :: ts, guards, l, w => by
    have asked : (e.allowsBy check event t).run l = (e.allowsBy check' event t).run l :=
      Run.run_bind_congr (same l w) _
    rw [chooseBy, chooseBy]
    refine (Run.run_bind_congr asked _).trans (Run.run_bind_congr_right fun allowed m h => ?_)
    cases allowed with
    | true => rfl
    | false =>
      -- whether it was the check that refused or the guard, it is there that the rest is tried
      refine chooseBy_congr noted same kept ts (fun u mem => guards u (.tail _ mem)) m ?_
      obtain ⟨valid, l₁, checked, h⟩ := Run.run_bind_eq_ok.mp h
      obtain ⟨log, watched⟩ := watch_run e (.valid event valid) l₁
      rw [Run.run_bind_ok watched] at h
      have w₁ := noted l₁ log (kept l valid l₁ w checked)
      cases valid with
      | true => exact guards t (.head _) _ _ w₁ h
      | false =>
        cases h
        exact w₁

/-- Where the check says no, every candidate is refused for that. -/
theorem chooseBy_logs {es : List Entry} (refuses : check.Logs l false es) :
    ∀ ts : List Transition, (e.chooseBy check event ts).Logs l false
      (List.replicate ts.length (es ++ e.seen l (.valid event false))).flatten
  | [] => .pure false
  | t :: ts => by
    have refused : (e.allowsBy check event t).Logs l false
        (es ++ (e.seen l (.valid event false) ++ [])) :=
      refuses.bind ((watch_logs e _ l).bind (.pure false))
    rw [List.append_nil] at refused
    rw [List.length_cons, List.replicate_succ, List.flatten_cons]
    exact refused.bind (chooseBy_logs refuses ts)

/-- What was committed last, if anything, is the state `s`. -/
def IsCommitted (e : Engine) (s : String) (l : Live) : Prop :=
  (e.host.hasAttr (.str committedAttribute)).Logs l false []
    ∨ (e.host.hasAttr (.str committedAttribute)).Logs l true [] ∧ e.committed.Logs l (.str s) []

variable {s : String} (shown : e.currentState.Logs l (.str s) []) (kept : e.IsCommitted s l)
include shown kept

/-- There is nothing to put back where the column shows what was committed. -/
theorem rollback_logs : e.rollback.Logs l () (e.seen l .rollback) := by
  have rest : (do
      if ← e.host.hasAttr (.str committedAttribute) then
        let committed ← e.committed
        let current ← e.currentState
        if ← e.host.differ current committed then
          e.host.setAttr e.machine.config.column committed
        else pure ()
      else pure () : Run Unit).Logs l () [] := by
    rcases kept with missing | ⟨has, read⟩
    · exact missing.bind (.pure ())
    · have alike : (e.host.differ (.str s) (.str s)).Logs l false [] := .of_idle fun log => by
        rw [Host.differ_run rfl rfl]
        simp
      exact has.bind (read.bind (shown.bind (alike.bind (.pure ()))))
  have all : e.rollback.Logs l () (e.seen l .rollback ++ []) :=
    (watch_logs e .rollback l).bind rest
  rwa [List.append_nil] at all

theorem fireBy_logs {ev : Event} {es : List Entry} (refuses : check.Logs l false es) :
    (e.fireBy check ev).Logs l false
      ((List.replicate (ev.leaving (.str s)).length
        (es ++ e.seen l (.valid (.str ev.name) false))).flatten ++ e.seen l .rollback) := by
  have candidates : (e.nextTransitions ev).Logs l (ev.leaving (.str s)) [] :=
    shown.bind (.pure _)
  have back : (do e.rollback; return false : Run Bool).Logs l false
      (e.seen l .rollback ++ []) :=
    (rollback_logs shown kept).bind (.pure false)
  rw [List.append_nil] at back
  exact shown.bind (candidates.bind ((chooseBy_logs refuses _).bind back))

end FireBy

end Engine

/-! ## Rules as gates -/

/-- The rules that count while a record shows a state and an event is fired, as they were meant and
in the order in which they were added. -/
def Draft.counting (calls : List Draft.Call) (d : Draft) (s event : String) : List Rule :=
  ((placed calls d).filter (·.reach.covers s event)).map (·.own)

namespace Engine

section Gates

variable {config : Option (Table Value)} {options : Table Value} {d : Draft}
  {calls : List Draft.Call} {e r : Engine} {W : Live → Prop} {s event : String} {l : Live}
  (begun : Draft.start config options = .ok d)
  (made : (Draft.afterAll calls d).machine? = .some e.machine)
  (noted : ∀ l log, W l → W { l with log })
  (checks : ChecksBy W e r)
  (shown : ∀ l, W l → r.currentState.run l = .ok (.str s) l)
  (asks : ∀ l, W l → ∀ p ∈ Draft.placed calls d, p.reach.covers s event = true →
    r.OnlyLogs (.str event) p.own l)
include asks

theorem onlyLogs_of_counting (w : W l) :
    ∀ rule ∈ Draft.counting calls d s event, r.OnlyLogs (.str event) rule l := by
  intro rule counts
  obtain ⟨p, mem, rfl⟩ := List.mem_map.mp counts
  obtain ⟨there, covers⟩ := List.mem_filter.mp mem
  exact asks l w p there covers

include begun made noted checks shown

/-- The check of a record asks the rules that count, in order. -/
theorem check_logs_of_counting (w : W l) : ∃ messages es,
    (r.errorsOf (.str event) (Draft.counting calls d s event)).Logs l messages es
      ∧ (e.check (.str event)).Logs l messages.isEmpty es := by
  have at_ : ∀ log, W { l with log } := fun log => noted l log w
  obtain ⟨messages, es, found⟩ := errorsOf_logs (onlyLogs_of_counting asks w)
  refine ⟨messages, es, found, checks.check_logs at_ fun log => ?_⟩
  have placed : r.machine.registry.rules
      = (Draft.placed calls d).map (·.rule r.machine.config.column) := by
    rw [checks.machine]
    exact Draft.rules_of_machine? begun made
  rw [errors, placed, errorsOf_placed (fun log => shown _ (at_ log)) (asks l w) log]
  exact found log

/-- What a fire finds out about validity is what the rules that count find. -/
theorem fireBy_run_of_counting {ev : Event}
    (shown' : ∀ l, W l → e.currentState.run l = .ok (.str s) l)
    (guards : ∀ t ∈ ev.leaving (.str s), ∀ l l', W l →
      (e.guardPasses (.str event) t).run l = .ok false l' → W l')
    (name : ev.name = event) (w : W l) :
    (e.fireBy (e.check (.str event)) ev).run l
      = (e.fireBy (do return (← r.errorsOf (.str event) (Draft.counting calls d s event)).isEmpty)
        ev).run l := by
  have check (l : Live) (w : W l) : ∃ b es, (e.check (.str event)).run l
      = .ok b { l with log := l.log ++ es }
      ∧ (do return (← r.errorsOf (.str event) (Draft.counting calls d s event)).isEmpty
        : Run Bool).run l = .ok b { l with log := l.log ++ es } := by
    obtain ⟨messages, es, counted, checked⟩ :=
      check_logs_of_counting begun made noted checks shown asks w
    exact ⟨messages.isEmpty, es, checked l.log, Run.run_bind_ok (counted l.log) _⟩
  have candidates : (e.nextTransitions ev).run l = .ok (ev.leaving (.str s)) l :=
    Run.run_bind_ok (shown' l w) _
  rw [fireBy, fireBy, Run.run_bind_ok (shown' l w), Run.run_bind_ok (shown' l w),
    Run.run_bind_ok candidates, Run.run_bind_ok candidates, name]
  refine Run.run_bind_congr (chooseBy_congr noted (fun l w => ?_) (fun l b l' w h => ?_) _
    guards l w) _
  · obtain ⟨b, es, checked, counted⟩ := check l w
    rw [checked, counted]
  · obtain ⟨b', es, -, counted⟩ := check l w
    cases counted.symm.trans h
    exact noted _ _ w

/-- The rules of a machine that was built gate the fires that they are placed for. While a record
shows a state and has no check of its own, what a fire finds out about validity is what the rules
find whose reaches cover the state and the event, asked in the order in which they were added as if
they were not confined; no other rule is asked for anything. If one of them fails where the fire
starts and the state is what was committed, the fire is refused, and all that happens is what these
rules log for each candidate. Guards may do what they like where they pass; where they refuse they
leave the record in its state and without a check. -/
theorem rules_gate_fires {ev : Event} (found : e.machine.event? event = .some ev)
    (shown' : ∀ l, W l → e.currentState.run l = .ok (.str s) l)
    (guards : ∀ t ∈ ev.leaving (.str s), ∀ l l', W l →
      (e.guardPasses (.str event) t).run l = .ok false l' → W l') (w : W l) :
    let rules := Draft.counting calls d s event
    (e.fire (.str event)).run l
        = (e.fireBy (do return (← r.errorsOf (.str event) rules).isEmpty) ev).run l
      ∧ ∃ messages es, (r.errorsOf (.str event) rules).Logs l messages es
        ∧ (e.check (.str event)).Logs l messages.isEmpty es
        ∧ ((∃ rule ∈ rules, r.Fails (.str event) rule l) → e.IsCommitted s l →
          (e.fire (.str event)).Logs l false
            ((List.replicate (ev.leaving (.str s)).length
              (es ++ e.seen l (.valid (.str event) false))).flatten ++ e.seen l .rollback)) := by
  intro rules
  have name : ev.name = event := by simpa using List.find?_some found
  have fires (l : Live) : (e.fire (.str event)).run l
      = (e.fireBy (e.check (.str event)) ev).run l := by
    rw [fire_eq, Definition.eventNamed_of_some found, Run.run_bind_ok (Run.run_lift_ok ev l),
      fireFound_eq, name]
  obtain ⟨messages, es, counted, checked⟩ :=
    check_logs_of_counting begun made noted checks shown asks w
  refine ⟨?_, messages, es, counted, checked, fun ⟨rule, mem, fails⟩ kept log => ?_⟩
  · rw [fires, fireBy_run_of_counting begun made noted checks shown asks shown' guards name w]
  · have given : messages ≠ [] :=
      errorsOf_ne_nil (onlyLogs_of_counting asks w) mem fails counted
    have refuses : messages.isEmpty = false := by
      simpa using given
    rw [refuses, ← name] at checked
    have at_ : e.currentState.Logs l (.str s) [] := .of_idle fun log => shown' _ (noted l log w)
    rw [fires, ← name]
    exact fireBy_logs at_ kept checked log

end Gates

end Engine

/-! ## A guard that moves the record -/

/-- A validator that is never satisfied and says in the log that it was asked. -/
def Callback.stern : Callback := .script (.step (.log (.lit "asked")) (.give (.lit "never")))

theorem Callback.stern_logs {h : Host} {l : Live} (lasting : l.hasFarewells = false)
    (args : List Value) : (Callback.stern.call h args).Logs l "never" [.note "asked"] := by
  intro log
  have lasting' : ({ l with log } : Live).hasFarewells = false := lasting
  have logged : (Step.run h args (.log (.lit "asked"))).run { l with log }
      = .ok () { l with log := log ++ [.note "asked"] } := by
    rw [Step.log_run lasting' (by rw [Expr.eval]), Live.settle_str]
  have given : (Script.call h args (.step (.log (.lit "asked")) (.give (.lit "never")))).run
      { l with log } = .ok (.str "never") { l with log := log ++ [.note "asked"] } := by
    rw [Script.call, Script.run, bind_assoc, Run.run_bind_ok logged]
    rfl
  exact (Host.working_run lasting' args _).trans given

/-- A guard that moves the record to `b` by hand and refuses. -/
def Callback.shove : Callback :=
  .script (.step (.set "state" (.lit "b")) (.give (.lit (.bool false))))

/-- A draft with a rule for `b` alone, and with a way into `b` and one out of it. -/
def Draft.Call.shoved : List Draft.Call := [
  .define "stern" (.custom .stern),
  .openEvent "go" ∅,
  .declareState "a" .none .none .none .none,
  .declareState "b" .none .none .none (.some [{ validator := "stern" }]),
  .addEdges 0 { target := "b", sources := .ok ["a"], guard := .some .shove },
  .addEdges 0 { target := "b", sources := .ok ["a"] },
  .addEdges 0 { target := "a", sources := .ok ["b"] },
  .leaveBlock 0 false,
  .build]

def Machine.shoved : Machine where
  config := { initial := "a" }
  states := [{ name := "a" }, { name := "b" }]
  events := [{ name := "go", transitions := [
    { source := "a", target := "b", guard := .some .shove }, { source := "a", target := "b" },
    { source := "b", target := "a" }] }]
  registry := {
    validators := Registry.standard.validators ++ [(.str "stern", .custom .stern)]
    rules := [{
      validator := .str "stern"
      args := []
      condition := .scoped { state := "b" } .always
      message := .null }] }

def Scene.shoved : Scene :=
  .plain { machine? := fun id => if id = 0 then .some Machine.shoved else .none } .shoved 0
    (Live.stateNames "state")

theorem Scene.shoved_isFit : Scene.shoved.IsFit :=
  Scene.plain_isFit rfl fun h => absurd (Value.str.inj h) (by decide)

/-- The record stands there and shows a state. -/
def Scene.shovedAt (s : String) (l : Live) : Prop :=
  Scene.shoved.World l ∧ l.value? 0 "state" = .some (.str s)

namespace Engine

/-- An engine of this machine. -/
def shoved : Engine := Scene.shoved.setting.engineAt .shoved 3

theorem shoved_shown {s : String} {l : Live} (at_ : Scene.shovedAt s l) :
    shoved.currentState.run l = .ok (.str s) l := by
  have plain := (Scene.ground_of_fit Scene.shoved_isFit).plain at_.1
  exact currentState_run plain (plain.names "state" (by decide)) rfl at_.2

theorem shoved_unchecked {s : String} {l : Live} (at_ : Scene.shovedAt s l) :
    (shoved.host.attr (.str "is_valid")).run l = .ok .null l := by
  have plain := (Scene.ground_of_fit Scene.shoved_isFit).plain at_.1
  have read := Host.attr_run_ordinary (h := shoved.host) plain (plain.names "is_valid" (by decide))
  rw [Live.Stands.missing at_.1 _ (.head _)] at read
  exact read

theorem shoved_asked {s : String} {l : Live} (at_ : Scene.shovedAt s l) :
    (shoved.validate [] (.custom .stern)).Logs l "never" [.note "asked"] :=
  Callback.stern_logs (Scene.lasting_of_fit Scene.shoved_isFit at_.1) []

/-- The rule of the machine. -/
def shovedRule : Rule :=
  { validator := "stern", args := [], condition := .always, message := .null }

/-- What its draft starts from. -/
def shovedDraft : Draft := { config := { initial := "a" } }

theorem shoved_begun : Draft.start .none ⟨[("initial", "a")]⟩ = .ok shovedDraft := rfl

theorem shoved_made :
    (Draft.afterAll Draft.Call.shoved shovedDraft).machine? = .some shoved.machine := rfl

theorem shoved_onlyLogs {s : String} {l : Live} (at_ : Scene.shovedAt s l) :
    ∀ p ∈ Draft.placed Draft.Call.shoved shovedDraft,
      p.reach.covers s "go" = true → shoved.OnlyLogs "go" p.own l := by
  have placed : Draft.placed Draft.Call.shoved shovedDraft
      = [⟨.state "b", shovedRule⟩] := rfl
  intro p mem _
  obtain rfl := List.mem_singleton.mp (placed ▸ mem)
  exact ⟨⟨true, _, .pure true⟩, _, rfl, _, _, shoved_asked at_⟩

theorem shoved_errors {l : Live} (at_ : Scene.shovedAt "b" l) :
    (shoved.errorsOf "go" [shovedRule]).Logs l ["never"] [.note "asked"] := by
  have holds : (shoved.holds "go" shovedRule.condition).Logs l true [] := .pure true
  have asked : (shoved.ruleErrors "go" shovedRule).Logs l ["never"] [.note "asked"] :=
    ruleErrors_logs holds rfl (shoved_asked at_)
  exact errorsOf_cons_logs asked (.pure [])

theorem shoved_noted (s : String) (l : Live) (log : List Entry) (at_ : Scene.shovedAt s l) :
    Scene.shovedAt s { l with log } :=
  ⟨(Scene.ground_of_fit Scene.shoved_isFit).noted log at_.1, at_.2⟩

/-- What the record is valid by in each state. -/
theorem shoved_check (s : String) {l : Live} (at_ : Scene.shovedAt s l) : ∃ messages es,
    (shoved.errorsOf "go" (Draft.counting Draft.Call.shoved shovedDraft s "go")).Logs l messages es
      ∧ (shoved.check "go").Logs l messages.isEmpty es :=
  check_logs_of_counting shoved_begun shoved_made (shoved_noted s) (.bare fun _ => shoved_unchecked)
    (fun _ => shoved_shown) (fun _ => shoved_onlyLogs) at_

/-- A record in `s` that was never committed. -/
def shovedFrom (s : String) : Live := Live.blank.assign 0 "state" (.str s)

theorem shovedFrom_at (s : String) : Scene.shovedAt s (shovedFrom s) :=
  ⟨Live.Stands.assign Scene.blank_plain (by decide) _, rfl⟩

/-- In `b` the rule counts, and what it logs is all that a fire leaves. -/
theorem rules_gate_fires_shoved :
    (shoved.fire "go").Logs (shovedFrom "b") false [.note "asked"] := by
  have at_ := shovedFrom_at "b"
  obtain ⟨-, messages, es, counted, -, refused⟩ := rules_gate_fires shoved_begun shoved_made
    (shoved_noted "b") (.bare fun _ => shoved_unchecked) (fun _ => shoved_shown)
    (fun _ => shoved_onlyLogs) (show shoved.machine.event? "go" = .some _ from rfl)
    (fun _ => shoved_shown)
    (fun t mem l l' _ h => by
      obtain rfl := List.mem_singleton.mp mem
      cases h) at_
  rw [(counted.unique (shoved_errors at_)).2] at refused
  refine refused ⟨shovedRule, .head _, ⟨_, .pure true⟩, _, rfl, _, _, shoved_asked at_, rfl⟩
    (.inl (.of_idle fun log => ?_))
  rfl

/-- In `a` it does not count. All the same it is asked, once the first guard has moved the record to
`b`, and refuses what the second candidate would do. -/
theorem rules_gate_fires_moved :
    Draft.counting Draft.Call.shoved shovedDraft "a" "go" = []
      ∧ (shoved.check "go").Logs (shovedFrom "a") true []
      ∧ (shoved.fire "go").run (shovedFrom "a")
        = .ok false { (shovedFrom "a").assign 0 "state" "b" with log := [.note "asked"] } := by
  have valid : (shoved.check "go").Logs (shovedFrom "a") true [] := by
    obtain ⟨messages, es, counted, checked⟩ := shoved_check "a" (shovedFrom_at "a")
    obtain ⟨rfl, rfl⟩ := counted.unique (.pure [])
    exact checked
  refine ⟨rfl, valid, ?_⟩
  have moved : Scene.shovedAt "b" ((shovedFrom "a").assign 0 "state" "b") :=
    ⟨Live.Stands.assign (shovedFrom_at "a").1 (by decide) _, rfl⟩
  have invalid : (shoved.check "go").Logs ((shovedFrom "a").assign 0 "state" "b") false
      [.note "asked"] := by
    obtain ⟨messages, es, counted, checked⟩ := shoved_check "b" moved
    obtain ⟨rfl, rfl⟩ := counted.unique (shoved_errors moved)
    exact checked
  let shoves : Transition := { source := "a", target := "b", guard := .some .shove }
  let follows : Transition := { source := "a", target := "b" }
  have refused : (shoved.allowsBy (shoved.check "go") "go" shoves).run (shovedFrom "a")
      = .ok false ((shovedFrom "a").assign 0 "state" "b") := by
    have answered : (shoved.runAction "go" .shove).run (shovedFrom "a")
        = .ok (.bool false) ((shovedFrom "a").assign 0 "state" "b") := rfl
    refine (Run.run_bind_ok (valid []) _).trans ?_
    exact (Run.run_bind_ok answered _).trans (Host.truth_run_bool false)
  have chosen : (shoved.chooseBy (shoved.check "go") "go" [shoves, follows]).run (shovedFrom "a")
      = .ok false { (shovedFrom "a").assign 0 "state" "b" with log := [.note "asked"] } :=
    (Run.run_bind_ok refused _).trans (chooseBy_logs invalid [follows] [])
  have found : shoved.machine.event? "go" = Machine.shoved.events.head? := rfl
  have shown := shoved_shown (shovedFrom_at "a")
  rw [fire_eq, Definition.eventNamed_of_some found, Run.run_bind_ok (Run.run_lift_ok _ _),
    fireFound_eq, fireBy, Run.run_bind_ok shown, nextTransitions, bind_assoc, Run.run_bind_ok shown]
  exact Run.run_bind_ok chosen _

end Engine

end Lifecycle
