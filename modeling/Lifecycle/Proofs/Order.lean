/-
Order: the order in which parts are declared does not matter.

Two drafts with the same parts in different orders can both be built or neither
can, and the two machines do the same with every record, as long as whoever they
call cannot tell them apart (`Draft.order_of_parts`).

What complaints there are is listed in the order of the rules. A validator that
reads the list can tell (`Draft.order_of_parts_curious`).
-/
import Lifecycle.Proofs.Gating
import Lifecycle.Proofs.Shuffled

namespace Lifecycle

open Run (Alike Logs)
open Live (Same)

/-- The same surroundings, where a machine is known by an id. -/
def Setting.withMachine (s : Setting) (known : MachineId) (m : Machine) : Setting :=
  { s with machine? := fun id => if id = known then .some m else s.machine? id }

namespace Draft

open Declare (after isAnswered)

/-- The order in which parts are declared does not matter. Whatever was declared before, if the same
parts are accepted in two orders, observers in the same order in both, then either both drafts can
be built or neither can. And the two machines go through any turns with any record alike that has no
check of its own, by any clock: each turn ends in the same way and leaves the same, log and all. For
that conditions and validators have to find the same for both, and change nothing; others who are
called, the methods of the record among them, may do what they like as long as it is the same for
both if the turns are that they ask for. -/
theorem order_of_parts {config : Option (Table Value)} {options : Table Value} {d₀ : Draft}
    (begun : start config options = .ok d₀) {before : List Call}
    (isOpen : (afterAll before d₀).built = .none) {ps ps' : List Part} (perm : ps.Perm ps')
    (observers : ps.flatMap (·.observers) = ps'.flatMap (·.observers)) {d d' : Draft}
    (accepted : (declareAll ps).run (afterAll before d₀) = .ok () d)
    (accepted' : (declareAll ps').run (afterAll before d₀) = .ok () d') :
    isAnswered build d = isAnswered build d'
      ∧ ∀ m m', (after build d).machine? = .some m → (after build d').machine? = .some m' →
        ∀ (s : Setting) (known : MachineId) (W : Live → Prop),
          let e := (s.withMachine known m).engineAt m
          let e' := (s.withMachine known m').engineAt m'
          (∀ n, (∀ k < n, ∀ t, Alike (Same W) ((e k).take t) ((e' k).take t)) →
            (e n).UsersAgree (e' n) W) →
          ∀ n ts l, W l → (e n).endings ts l = (e' n).endings ts l
            ∧ (e n).afterTurns ts l = (e' n).afterTurns ts l := by
  have gains := declareAll_gains ps accepted
  have shuffled := gains.shuffled (declareAll_gains ps' accepted') (sound_afterAll begun before)
    perm observers
  have isOpen : d.built = .none := gains.built.trans isOpen
  refine ⟨(shuffled.build isOpen).symm, ?_⟩
  intro m m' made made' s known W e e' users n ts l w
  have same := shuffled.machine isOpen made made'
  have clock : (s.withMachine known m').clockOf = (s.withMachine known m).clockOf := rfl
  have alike : ∀ t, Alike (Same W) ((e n).take t) ((e' n).take t) :=
    Setting.take_alike_of_shuffled same clock users n
  obtain ⟨same, left⟩ := Engine.turns_alike alike ts ⟨rfl, w⟩
  exact ⟨same, left.1⟩

end Draft

/-! ## Parts in the opposite order -/

/-- A script that logs something. -/
def Callback.telling (e : Expr) : Callback := .script (.step (.log e) .done)

/-- A validator that is always satisfied. -/
def Validator.content : Validator := .custom (.script (.give (.lit .null)))

namespace Draft

/-- Two states with a rule each, and a way from either to the other. -/
def Part.content : List Part := [
  .state "a" .none .none (.some (.telling (.lit "left"))) (.some [{ validator := "content" }]),
  .event "go" ∅ [{ target := "b", sources := .ok ["a"] }],
  .observer (.telling (.arg 2)),
  .event "back" ∅ [{ target := "a", sources := .ok ["b"] }],
  .state "b" .none .none .none (.some [{ validator := "content" }])]

end Draft

/-- A rule that is always satisfied. -/
def Rule.content (state : Value) : Rule where
  validator := "content"
  args := []
  condition := .scoped { state } .always
  message := .null

def Machine.content : Machine where
  config := { initial := "a" }
  states := [{ name := "a", exit := .some (.telling (.lit "left")) }, { name := "b" }]
  events := [{ name := "go", transitions := [{ source := "a", target := "b" }] },
    { name := "back", transitions := [{ source := "b", target := "a" }] }]
  observers := [.telling (.arg 2)]
  registry := {
    validators := Registry.standard.validators ++ [(.str "content", .content)]
    rules := [.content "a", .content "b"] }

/-- What the same parts make in the opposite order. -/
def Machine.contentReversed : Machine where
  config := Machine.content.config
  states := Machine.content.states.reverse
  events := Machine.content.events.reverse
  observers := Machine.content.observers
  registry := { Machine.content.registry with rules := Machine.content.registry.rules.reverse }

def Scene.content : Scene := .plain (Setting.withMachine {} 0 .content) .content 0 []

theorem Scene.content_isFit : Scene.content.IsFit :=
  Scene.plain_isFit rfl fun h => absurd (Value.str.inj h) (by decide)

theorem Scene.content_blank : Scene.content.World Live.blank := Scene.blank_plain

theorem Scene.content_seat : Live.Seat Scene.content.Committing .content 0 "state" :=
  Scene.committing_seat Scene.content_isFit rfl (by decide)

theorem Callback.telling_run {h : Host} {e : Expr} {args : List Value} {v : Value} {l : Live}
    (lasting : l.hasFarewells = false) (given : e.eval h args = pure v) :
    ((telling e).call h args).run l
      = .ok .null { l with log := l.log ++ [.note (l.settle v)] } := by
  rw [telling, Callback.call, Host.working_run lasting, Script.call, Script.run, bind_assoc,
    Run.run_bind_ok (Step.log_run lasting given)]
  rfl

/-- A script that only logs does so alike for all hosts. -/
theorem Callback.telling_alike {W : Live → Prop} (lasting : ∀ {l}, W l → l.hasFarewells = false)
    (noted : ∀ {l} log, W l → W { l with log }) (h h' : Host) {e : Expr} {args : List Value}
    {v : Value} (given : ∀ h : Host, e.eval h args = pure v) :
    Alike (Same W) ((telling e).call h args) ((telling e).call h' args) := by
  have told (h : Host) {l : Live} (w : W l) := telling_run (lasting w) (given h)
  refine .of_same (fun l w => ?_) fun l w => ?_
  · rw [told h w, told h' w]
  · rw [Run.final_of_ok (told h w)]
    exact noted _ w

theorem Scene.content_users (n : Nat) :
    ((Setting.withMachine {} 0 .content).engineAt .content n).UsersAgree
      ((Setting.withMachine {} 0 .contentReversed).engineAt .contentReversed n)
      Scene.content.Committing := by
  have seat := Scene.content_seat
  have quiet {l : Live} (w : Scene.content.Committing l) : l.Quiet :=
    Scene.quiet_of_fit Scene.content_isFit w.1
  have unchecked (h : Host) {l : Live} (w : Scene.content.Committing l) :
      (h.attr (.str checkAttribute)).run l = .ok .null l := by
    have ordinary := (seat.plain w).names checkAttribute (by decide)
    have missing : l.value? 0 checkAttribute = .none := Live.Stands.missing w.1 _ (.head _)
    rw [Host.attr_run_ordinary (seat.plain w) ordinary, missing]
    rfl
  have satisfied (h : Host) {l : Live} (w : Scene.content.Committing l) :
      ((Callback.script (.give (.lit .null))).call h []).run l = .ok .null l := by
    rw [Callback.call, Host.working_run (seat.lasting w)]
    rfl
  let e := (Setting.withMachine {} 0 .content).engineAt .content n
  let e' := (Setting.withMachine {} 0 .contentReversed).engineAt .contentReversed n
  have shown := Engine.shown_findAlike (e := e) seat quiet e'
  exact {
    record := Engine.recordAlike_of_seat seat (fun w => w.2 _) quiet _
    unchecked := fun l w => ⟨unchecked _ w, unchecked _ w⟩
    rules := fun ev _ rule mem => by
      have placed : ∃ state, rule = Rule.content state := by
        rcases List.mem_cons.mp mem with rfl | mem
        · exact ⟨_, rfl⟩
        · exact ⟨_, List.mem_singleton.mp mem⟩
      obtain ⟨state, rfl⟩ := placed
      have seen : ¬ Value.null.isState = false := by decide
      refine ⟨⟨shown, fun unseen => absurd unseen seen, trivial⟩, fun v known l w => ?_⟩
      cases known
      have found := satisfied e.host w
      have found' := satisfied e'.host w
      exact ⟨.inl ⟨_, found⟩, found'.trans found.symm⟩
    guards := fun ev mem g guarded => by
      have none : ∀ ev ∈ Machine.content.events, ev.guards = [] := by decide
      rw [none ev mem] at guarded
      cases guarded
    acts := fun event s mem a among => by
      have telling : ∀ s ∈ Machine.content.states,
          ∀ a ∈ s.enter.toList ++ (s.after ++ s.exit.toList), a = .telling (.lit "left") := by
        intro s mem a among
        simp only [Machine.content, List.mem_cons, List.not_mem_nil, or_false] at mem
        rcases mem with rfl | rfl
        · exact List.mem_singleton.mp among
        · cases among
      obtain rfl := telling s mem a among
      refine (Alike.pure ()).bind fun _ => ?_
      exact Callback.telling_alike seat.lasting seat.noted _ _ fun _ => by rw [Expr.eval]
    observers := fun args _ o mem => by
      obtain rfl := List.mem_singleton.mp mem
      rintro l _ ⟨rfl, w⟩
      have given (h : Host) : (Expr.arg 2).eval h args = pure ((args[2]?).getD .null) := by
        rw [Expr.eval]
      exact Engine.heed_alike_of_answers
        (Callback.telling_alike seat.lasting seat.noted _ _ given l l ⟨rfl, w⟩)
        ⟨_, _, Callback.telling_run (seat.lasting w) (given e.host)⟩ }

namespace Draft

open Declare (after isAnswered)

/-- Two states with their rules, two events and an observer, declared in the opposite order. -/
theorem order_of_parts_reversed :
    let e := (Setting.withMachine {} 0 .content).engineAt .content 5
    let e' := (Setting.withMachine {} 0 .contentReversed).engineAt .contentReversed 5
    let turns := [.start, .fire "go", .fire "back"]
    e.endings turns Live.blank = e'.endings turns Live.blank
      ∧ e.afterTurns turns Live.blank = e'.afterTurns turns Live.blank := by
  intro e e' turns
  have begun : start .none ⟨[("initial", "a")]⟩ = .ok { config := { initial := "a" } } := rfl
  obtain ⟨d₁, defined, isOpen⟩ : ∃ d₁,
      afterAll [.define "content" .content] { config := { initial := "a" } } = d₁
        ∧ d₁.built = .none := ⟨_, rfl, rfl⟩
  obtain ⟨d, accepted, made⟩ : ∃ d, (declareAll Part.content).run d₁ = .ok () d
      ∧ (after build d).machine? = .some .content := by
    subst defined
    exact ⟨_, rfl, rfl⟩
  obtain ⟨d', accepted', made'⟩ : ∃ d', (declareAll Part.content.reverse).run d₁ = .ok () d'
      ∧ (after build d').machine? = .some .contentReversed := by
    subst defined
    exact ⟨_, rfl, rfl⟩
  have perm : Part.content.Perm Part.content.reverse := (List.reverse_perm _).symm
  have observers : Part.content.flatMap (·.observers)
      = Part.content.reverse.flatMap (·.observers) := rfl
  subst defined
  obtain ⟨-, alike⟩ := order_of_parts begun isOpen perm observers accepted accepted'
  have users (n : Nat) := Scene.content_users n
  exact alike _ _ made made' {} 0 Scene.content.Committing (fun n _ => users n) 5
    turns Live.blank ⟨Scene.content_blank, nofun⟩

end Draft

/-! ## A validator that reads complaints -/

/-- A condition that holds for one event alone. -/
def Callback.isFor (event : String) : Callback :=
  .script (.give (.eq (.arg 0) (.lit (.str event))))

/-- A validator that is satisfied if another event has these complaints, in this order. -/
def Callback.curious : Callback := .script (
  .branch (.eq (.errors "m" (.lit "go")) (.lit (.list ["P", "Q"])))
    (.give (.lit .null)) .done (.give (.lit "never")))

namespace Draft

open Declare (after)

/-- Two parts with a rule each that fails for `go`. -/
def Part.curious : List Part := [
  .state "a" .none .none .none (.some [{
    validator := "presence"
    args := ["x"]
    options := { condition := .callback (.isFor "go"), others := ⟨[("message", "P")]⟩ } }]),
  .event "go" ∅ [{
    target := "b"
    sources := .ok ["a"]
    validate := .some [{
      validator := "presence", args := ["x"], options := { others := ⟨[("message", "Q")]⟩ } }] }]]

/-- And two more, where `ask` is valid if the curious validator is satisfied. -/
def Part.asking : List Part := [
  .event "ask" ∅ [{
    target := "b", sources := .ok ["a"], validate := .some [{ validator := "curious" }] }],
  .state "b" .none .none .none .none]

/-- A draft that knows the curious validator. -/
def curious : Draft := {
  config := { initial := "a", timestamps := .bool false }
  registry := {
    validators := Registry.standard.validators ++ [(.str "curious", .custom .curious)] } }

end Draft

namespace Rule

/-- A rule that complains about what nobody has. -/
def absent (condition : Condition) (message : Value) : Rule where
  validator := "presence"
  args := ["x"]
  condition
  message

def ofState : Rule := absent (.scoped { state := "a" } (.callback (.isFor "go"))) "P"

def ofEvent : Rule := absent (.scoped { state := "a", event := "go" } .always) "Q"

def asking : Rule where
  validator := "curious"
  args := []
  condition := .scoped { state := "a", event := "ask" } .always
  message := .null

end Rule

/-- What the parts are built into, but for the order of the rules. -/
def Machine.curious (rules : List Rule) : Machine where
  config := Draft.curious.config
  states := [{ name := "a" }, { name := "b" }]
  events := [{ name := "go", transitions := [{ source := "a", target := "b" }] },
    { name := "ask", transitions := [{ source := "a", target := "b" }] }]
  registry := { Draft.curious.registry with rules }

namespace Engine

def curious (rules : List Rule) : Nat → Engine :=
  (Setting.withMachine { named? := fun _ => .some 0 } 0 (.curious rules)).engineAt (.curious rules)

/-- A record in `a` that has nothing else. -/
def fromA : Live := Live.blank.assign 0 "state" "a"

variable {rules : List Rule} {n : Nat}

theorem curious_shown (log : List Entry) :
    (curious rules n).currentState.run { fromA with log } = .ok "a" { fromA with log } := by
  have read : ((curious rules n).host.attr "state").run { fromA with log }
      = .ok "a" { fromA with log } := rfl
  rw [currentState]
  refine (Run.run_bind_ok read _).trans ?_
  exact congrArg (EStateM.run · _) (Host.asState_str _ "a")

theorem curious_lasting (log : List Entry) : ({ fromA with log } : Live).hasFarewells = false :=
  rfl

theorem curious_blank :
    ((curious rules n).validate ["x"] .presence).Logs fromA "x can't be blank" [] := by
  refine .of_idle fun log => ?_
  have read : ((curious rules n).host.attr "x").run { fromA with log }
      = .ok .null { fromA with log } := rfl
  have blank : ((curious rules n).host.isBlank .null).run { fromA with log }
      = .ok true { fromA with log } := Host.isBlank_run rfl rfl (Live.settle_null _)
  have names : ((curious rules n).attrsWith true ["x"]).run { fromA with log }
      = .ok ["x"] { fromA with log } := by
    rw [attrsWith, Run.run_bind_ok read, Run.run_bind_ok blank]
    rfl
  exact Run.run_bind_ok names _

theorem isFor_logs (event : String) : (do
    let v ← (Callback.isFor "go").call (curious rules n).host [.str event]
    (curious rules n).host.truth v).Logs fromA (event == "go") [] := by
  refine .of_idle fun log => ?_
  let h := (curious rules n).host
  let l : Live := { fromA with log }
  have compared : (h.compare .equal (.str event) "go").run l = .ok (.bool (event == "go")) l := by
    rw [Host.compare_run (l.settle_str _) (l.settle_str _) (by simp) (by simp), Relation.check,
      Value.same_str]
    rfl
  have evaluated : ((Expr.eq (.arg 0) (.lit "go")).eval h [.str event]).run l
      = .ok (.bool (event == "go")) l := by
    rw [Expr.eval, Host.working_run (curious_lasting log), Expr.eval, Expr.eval]
    exact compared
  have called : ((Callback.isFor "go").call h [.str event]).run l
      = .ok (.bool (event == "go")) l := by
    rw [Callback.isFor, Callback.call, Host.working_run (curious_lasting log), Script.call,
      Script.run, bind_assoc]
    exact Run.run_bind_ok evaluated _
  exact (Run.run_bind_ok called _).trans (Host.truth_run_bool _)

/-- A rule for an event of the state that the record is in. -/
theorem covered_fromA (event : String) (of : Value) (covers : Bool)
    (decides : of.isNull = true ∧ covers = true ∨ ∃ name, of = .str name
      ∧ covers = (event == name)) :
    ((curious rules n).covered event { state := "a", event := of }).Logs fromA covers [] :=
  covered_logs curious_shown "a" of covers decides

theorem absent_logs {rule : Rule} (presence : rule.validator = "presence" ∧ rule.args = ["x"])
    (own : rule.message.truthy = true) {event : Value} {applies : Bool}
    (holds : ((curious rules n).holds event rule.condition).Logs fromA applies []) :
    ((curious rules n).ruleErrors event rule).Logs fromA
      (if applies then [rule.message] else []) [] := by
  cases applies with
  | true =>
    have known : (curious rules n).machine.registry.validator? rule.validator
        = .some .presence := by
      rw [presence.1]
      rfl
    have asked : ((curious rules n).validate rule.args .presence).Logs fromA
        "x can't be blank" [] := presence.2 ▸ curious_blank
    have complains := ruleErrors_logs holds known asked
    rw [own] at complains
    exact complains
  | false => exact holds.bind (.pure [])

theorem ofState_logs (event : String) : ((curious rules n).ruleErrors event .ofState).Logs fromA
    (if event == "go" then ["P"] else []) [] := by
  have covers : ((curious rules n).covered event { state := "a" }).Logs fromA true [] :=
    covered_fromA event .null true (.inl ⟨rfl, rfl⟩)
  exact absent_logs ⟨rfl, rfl⟩ rfl (covers.bind (isFor_logs event))

theorem ofEvent_logs (event : String) : ((curious rules n).ruleErrors event .ofEvent).Logs fromA
    (if event == "go" then ["Q"] else []) [] := by
  have covers : ((curious rules n).covered event { state := "a", event := "go" }).Logs fromA
      (event == "go") [] := covered_fromA event "go" _ (.inr ⟨"go", rfl, rfl⟩)
  cases go : event == "go" with
  | true =>
    rw [go] at covers
    exact absent_logs ⟨rfl, rfl⟩ rfl (covers.bind (.pure true))
  | false =>
    rw [go] at covers
    exact absent_logs ⟨rfl, rfl⟩ rfl (covers.bind (.pure false))

theorem asking_logs_go : ((curious rules n).ruleErrors "go" .asking).Logs fromA [] [] := by
  have holds : ((curious rules n).holds "go" Rule.asking.condition).Logs fromA false [] :=
    (covered_fromA "go" "ask" false (.inr ⟨"ask", rfl, rfl⟩)).bind (.pure false)
  exact holds.bind (.pure [])

theorem settle_pair (l : Live) (s t : String) :
    l.settle (.list [.str s, .str t]) = .list [.str s, .str t] := by
  simp [Live.settle, Shelf.settle, Shelf.settleIn, Shelf.settleItems]

/-- What the curious validator reads decides. -/
theorem curious_logs {s t : String}
    (read : ((curious rules n).errors "go").Logs fromA [.str s, .str t] []) :
    ((curious rules (n + 1)).validate [] (.custom .curious)).Logs fromA
      (if s == "P" && t == "Q" then .null else "never") [] := by
  refine .of_idle fun log => ?_
  let h := (curious rules (n + 1)).host
  let l : Live := { fromA with log }
  have lasting := curious_lasting log
  have engine : ((curious rules n).host.engine 0).run l = .ok (curious rules n) l :=
    Setting.engine_run rfl n l
  have asked : (h.answer (.errors 0 "go")).run l = .ok (.list [.str s, .str t]) l := by
    change ((curious rules n).host.serve (.errors 0 "go")).run l = _
    rw [Host.serve, Host.working_run lasting, Run.run_bind_ok engine,
      Run.run_bind_ok (read.run_silent log)]
    rfl
  have compared : (h.compare .equal (.list [.str s, .str t]) (.list ["P", "Q"])).run l
      = .ok (.bool (s == "P" && t == "Q")) l := by
    have same : (Value.list [.str s, .str t]).same (.list ["P", "Q"]) = (s == "P" && t == "Q") := by
      simp [Value.same, Value.sameItems]
    rw [Host.compare_run (settle_pair l s t) (settle_pair l "P" "Q") rfl rfl, Relation.check, same]
    rfl
  have reads : ((Expr.errors "m" (.lit "go")).eval h []).run l
      = .ok (.list [.str s, .str t]) l := by
    rw [Expr.eval, Expr.eval]
    exact asked
  have evaluated : ((Expr.eq (.errors "m" (.lit "go")) (.lit (.list ["P", "Q"]))).eval h []).run l
      = .ok (.bool (s == "P" && t == "Q")) l := by
    rw [Expr.eval, Host.working_run lasting, Run.run_bind_ok reads, Expr.eval]
    exact compared
  have tested : (h.passing do
      let v ← (Expr.eq (.errors "m" (.lit "go")) (.lit (.list ["P", "Q"]))).eval h []
      h.truth v).run l = .ok (s == "P" && t == "Q") l := by
    rw [Host.passing_run lasting, Run.run_bind_ok evaluated]
    exact Host.truth_run_bool _
  rw [validate, Callback.curious, Callback.call, Host.working_run lasting, Script.call, Script.run,
    bind_assoc, Run.run_bind_ok tested]
  cases s == "P" && t == "Q" <;> rfl

theorem asking_logs {s t : String}
    (read : ((curious rules n).errors "go").Logs fromA [.str s, .str t] []) :
    ((curious rules (n + 1)).ruleErrors "ask" .asking).Logs fromA
      (if s == "P" && t == "Q" then [] else ["never"]) [] := by
  have holds : ((curious rules (n + 1)).holds "ask" Rule.asking.condition).Logs fromA true [] :=
    (covered_fromA "ask" "ask" true (.inr ⟨"ask", rfl, rfl⟩)).bind (.pure true)
  have asked := ruleErrors_logs holds rfl (curious_logs read)
  cases h : s == "P" && t == "Q" with
  | true =>
    rw [h] at asked
    exact asked
  | false =>
    rw [h] at asked
    exact asked

/-- Where the rule of the state comes first, its complaint does. -/
theorem errors_go : ((curious [.ofState, .ofEvent, .asking] n).errors "go").Logs fromA
    ["P", "Q"] [] :=
  errorsOf_cons_logs (ofState_logs "go") (errorsOf_cons_logs (ofEvent_logs "go")
    (errorsOf_cons_logs asking_logs_go (.pure [])))

theorem errors_go_swapped : ((curious [.ofEvent, .ofState, .asking] n).errors "go").Logs fromA
    ["Q", "P"] [] :=
  errorsOf_cons_logs (ofEvent_logs "go") (errorsOf_cons_logs (ofState_logs "go")
    (errorsOf_cons_logs asking_logs_go (.pure [])))

theorem curious_check {messages : List Value}
    (errors : ((curious rules n).errors "ask").Logs fromA messages []) :
    ((curious rules n).check "ask").Logs fromA messages.isEmpty [] := by
  have bare : ChecksBy (fun l => ∃ log, l = { fromA with log }) (curious rules n)
      (curious rules n) := .bare fun l => by
    rintro ⟨log, rfl⟩
    rfl
  exact bare.check_logs (fun log => ⟨log, rfl⟩) errors

/-- The event whose rule is the curious one. -/
def asks : Event := { name := "ask", transitions := [{ source := "a", target := "b" }] }

theorem curious_fire : (curious rules n).fire "ask"
    = (curious rules n).fireBy ((curious rules n).check "ask") asks := by
  have found : (curious rules n).machine.event? "ask" = .some asks := rfl
  rw [fire_eq, Definition.eventNamed_of_some found]
  exact (pure_bind _ _).trans (fireFound_eq _ _)

/-- Where the curious validator complains, nothing moves. -/
theorem curious_fire_refused (refuses : ((curious rules n).check "ask").Logs fromA false []) :
    ((curious rules n).fire "ask").ending fromA = .ok false := by
  have shown : (curious rules n).currentState.Logs fromA "a" [] := .of_idle curious_shown
  have kept : (curious rules n).IsCommitted "a" fromA := .inl (.of_idle fun _ => rfl)
  have refused : ((curious rules n).fireBy ((curious rules n).check "ask") asks).Logs fromA false
      _ := fireBy_logs shown kept refuses
  rw [curious_fire]
  exact Run.ending_of_ok (refused fromA.log)

/-- And where it does not, the record moves. -/
theorem curious_fire_allowed (allows : ((curious rules n).check "ask").Logs fromA true []) :
    ((curious rules n).fire "ask").ending fromA = .ok true := by
  let e := curious rules n
  let t : Transition := { source := "a", target := "b" }
  let left : Live := (fromA.assign 0 "state" "b").assign 0 committedAttribute "b"
  have shown : e.currentState.run fromA = .ok "a" fromA := curious_shown fromA.log
  have candidates : (e.nextTransitions asks).run fromA = .ok [t] fromA := Run.run_bind_ok shown _
  have allowed : (e.allowsBy (e.check "ask") "ask" t).run fromA = .ok true fromA :=
    Run.run_bind_ok (allows.run_silent fromA.log) _
  have moved : (e.move "ask" t).run fromA = .ok () left := Run.run_bind_ok shown _
  have chosen : (e.chooseBy (e.check "ask") "ask" [t]).run fromA = .ok true left :=
    (Run.run_bind_ok allowed _).trans (Run.run_bind_ok moved _)
  have blank : Live.blank.Stands Class.plainOnly 3 0 ["is_valid"] := Scene.content_blank
  have there : fromA.Stands Class.plainOnly 3 0 ["is_valid"] := blank.assign (by decide) "a"
  have stands : left.Stands Class.plainOnly 3 0 ["is_valid"] :=
    (there.assign (by decide) "b").assign (by decide) "b"
  have plain := stands.plain Class.plainOnly_isSimple
  have held : left.value? 0 "state" = .some "b" := by
    rw [Live.value?_assign_other (by decide), Live.value?_assign_self]
  have after : e.currentState.run left = .ok "b" left :=
    currentState_run plain (plain.names "state" (by decide)) rfl held
  have fired : (e.fireBy (e.check "ask") asks).run fromA = .ok true left := by
    rw [fireBy, Run.run_bind_ok shown, Run.run_bind_ok candidates]
    exact (Run.run_bind_ok chosen _).trans (Run.run_bind_ok after _)
  rw [curious_fire]
  exact Run.ending_of_ok fired

end Engine

namespace Draft

open Declare (after)

/-- A state and an event whose rules complain about one thing each, in either order. All that is
asked for is found, with nothing logged and nothing changed; still the curious validator lets the
record move in one order and not in the other. -/
theorem order_of_parts_curious :
    let before : List Call := [.define "curious" (.custom .curious)]
    let ps := Part.curious ++ Part.asking
    let ps' := Part.curious.reverse ++ Part.asking
    let rules := [Rule.ofState, .ofEvent, .asking]
    let rules' := [Rule.ofEvent, .ofState, .asking]
    ps.Perm ps' ∧ ps.flatMap (·.observers) = ps'.flatMap (·.observers)
      ∧ (∃ d₀, start .none ⟨[("initial", "a"), ("record_state_timestamps", .bool false)]⟩ = .ok d₀
        ∧ ∃ d d', (declareAll ps).run (afterAll before d₀) = .ok () d
          ∧ (declareAll ps').run (afterAll before d₀) = .ok () d'
          ∧ (after build d).machine? = .some (.curious rules)
          ∧ (after build d').machine? = .some (.curious rules'))
      ∧ (∀ order ∈ [rules, rules'], ∀ rule ∈ order, ∀ event ∈ ["go", "ask"],
        ∃ messages, ((Engine.curious order 5).ruleErrors (.str event) rule).Logs Engine.fromA
          messages [])
      ∧ ((Engine.curious rules 5).fire "ask").ending Engine.fromA = .ok true
      ∧ ((Engine.curious rules' 5).fire "ask").ending Engine.fromA = .ok false := by
  intro before ps ps' rules rules'
  have defined : afterAll before { config := Draft.curious.config } = .curious := rfl
  obtain ⟨d, accepted, made⟩ : ∃ d, (declareAll ps).run .curious = .ok () d
      ∧ (after build d).machine? = .some (.curious rules) := ⟨_, rfl, rfl⟩
  obtain ⟨d', accepted', made'⟩ : ∃ d', (declareAll ps').run .curious = .ok () d'
      ∧ (after build d').machine? = .some (.curious rules') := ⟨_, rfl, rfl⟩
  rw [← defined] at accepted accepted'
  have begun : start .none ⟨[("initial", "a"), ("record_state_timestamps", .bool false)]⟩
      = .ok { config := Draft.curious.config } := rfl
  have perm : ps.Perm ps' := (List.reverse_perm Part.curious).symm.append_right _
  have observers : ps.flatMap (·.observers) = ps'.flatMap (·.observers) := rfl
  refine ⟨perm, observers, ⟨_, begun, d, d', accepted, accepted', made, made'⟩, ?_, ?_, ?_⟩
  · have asks {order : List Rule} {s t : String}
        (read : ((Engine.curious order 4).errors "go").Logs Engine.fromA [.str s, .str t] []) :
        ∀ rule ∈ [Rule.ofState, .ofEvent, .asking], ∀ event ∈ ["go", "ask"],
          ∃ messages, ((Engine.curious order 5).ruleErrors (.str event) rule).Logs Engine.fromA
            messages [] := by
      intro rule mem event among
      simp only [List.mem_cons, List.not_mem_nil, or_false] at mem among
      rcases mem with rfl | rfl | rfl
      · exact ⟨_, Engine.ofState_logs event⟩
      · exact ⟨_, Engine.ofEvent_logs event⟩
      · rcases among with rfl | rfl
        · exact ⟨_, Engine.asking_logs_go⟩
        · exact ⟨_, Engine.asking_logs read⟩
    intro order among rule mem
    simp only [List.mem_cons, List.not_mem_nil, or_false] at among
    rcases among with rfl | rfl
    · exact asks Engine.errors_go rule mem
    · exact asks Engine.errors_go_swapped rule ((List.Perm.swap _ _ _).mem_iff.mp mem)
  · have errors : ((Engine.curious rules 5).errors "ask").Logs Engine.fromA [] [] :=
      Engine.errorsOf_cons_logs (Engine.ofState_logs "ask") <|
        Engine.errorsOf_cons_logs (Engine.ofEvent_logs "ask") <|
          Engine.errorsOf_cons_logs (Engine.asking_logs Engine.errors_go) (.pure [])
    exact Engine.curious_fire_allowed (Engine.curious_check errors)
  · have errors : ((Engine.curious rules' 5).errors "ask").Logs Engine.fromA ["never"] [] :=
      Engine.errorsOf_cons_logs (Engine.ofEvent_logs "ask") <|
        Engine.errorsOf_cons_logs (Engine.ofState_logs "ask") <|
          Engine.errorsOf_cons_logs (Engine.asking_logs Engine.errors_go_swapped) (.pure [])
    exact Engine.curious_fire_refused (Engine.curious_check errors)

end Draft

end Lifecycle
