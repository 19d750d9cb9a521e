/-
Scripts as user code: scripts that read what they like, log, raise, set and erase
attributes that are left to them, and fire events of one machine.

A scene is all that has to be known to say so: a machine, a record that stands
among some classes, and the attributes that are not left to scripts. A relation
that holds of what is done beside the machine there, and of each request to fire
an event (`Scene.Allows`), holds of whatever a tame script does (`Script.run_keeps`):
by induction on the script. One such relation is a conduct in the sense of
`Setting.Conduct`, so that the users of a machine of such callbacks and without
rules conduct themselves (`Scene.users`); where no script knows the machine by a
name, another is to spare what is not left to scripts (`Scene.bystanders`).
-/
import Lifecycle.Proofs.Room
import Lifecycle.Proofs.Standing

namespace Lifecycle

open Run (Keeps)

/-- A machine and a record in some surroundings. -/
structure Scene where
  setting : Setting
  machine : Machine
  /-- The id of the machine. -/
  known : MachineId
  classes : List Class
  /-- The class of the record. -/
  cls : ClassId
  record : RecordId
  /-- What the record does not have. -/
  missing : List String
  /-- What scripts leave alone. -/
  spared : List String

namespace Scene

/-- Scripts can be left to themselves in this scene. -/
structure IsFit (c : Scene) : Prop where
  simple : Class.IsSimple c.classes c.cls
  bound : c.setting.machine? c.known = .some c.machine
  unwritten : ∀ name ∈ c.missing, ¬ c.machine.Writes name

/-- The record stands there. -/
def World (c : Scene) : Live → Prop := Live.Stands c.classes c.cls c.record c.missing

/-- What user code does there where at most `n` requests may wait. -/
def Conduct (c : Scene) (n : Nat) : Live → Live → Prop :=
  c.setting.Conduct c.machine c.World c.record c.spared n

instance (c : Scene) (n : Nat) : IsPreorder Live (c.Conduct n) :=
  inferInstanceAs (IsPreorder Live (c.setting.Conduct c.machine c.World c.record c.spared n))

/-- Whether an attribute is left to scripts. -/
def isFree (c : Scene) (name : String) : Bool :=
  !(Live.takenNames ++ c.spared ++ c.missing).contains name

section Fit

variable {c : Scene} (fit : c.IsFit)
include fit

theorem ground_of_fit : Live.Ground c.World c.machine c.record :=
  Live.Stands.ground fit.simple fit.unwritten

theorem quiet_of_fit {l : Live} (w : c.World l) : l.Quiet := w.quiet fit.simple

theorem lasting_of_fit {l : Live} (w : c.World l) : l.hasFarewells = false :=
  (quiet_of_fit fit w).lasting

theorem world_of_fit (n : Nat) :
    Live.World c.World (c.setting.engineAt c.machine n) c.record :=
  Live.Stands.world fit.simple fit.unwritten

end Fit

variable {c : Scene} {n : Nat}

theorem not_taken_of_free {name : String} (h : c.isFree name = true) :
    name ∉ Live.takenNames ∧ name ∉ c.spared ∧ name ∉ c.missing := by
  simp only [isFree, List.contains_eq_mem, List.mem_append, not_or, Bool.not_eq_true',
    decide_eq_false_iff_not] at h
  exact ⟨h.1.1, h.1.2, h.2⟩

/-! ## What a script can do -/

/-- A relation that holds of what is done beside the machine, and of what a script gets that asks for
an event of the machine to be fired, where at most `n` requests may wait. -/
structure Allows (c : Scene) (n : Nat) (P : Live → Live → Prop) : Prop where
  aside : ∀ l l', Live.Spares c.World c.record c.spared l l' → P l l'
  fires : ∀ ref, c.setting.named? ref = .some c.known → ∀ event : String,
    Keeps P (c.setting.answer n (.fire c.known (.str event)))

section Allows

variable {P : Live → Live → Prop} [IsPreorder Live P] (allows : c.Allows n P) {α : Type}
include allows

omit [IsPreorder Live P] in
/-- Only where the record stands is there anything to show. -/
theorem keeps_of_world {x : Run α} (h : ∀ l, c.World l → P l (x.final l)) : Keeps P x := by
  intro l
  by_cases w : c.World l
  · exact h l w
  · exact allows.aside _ _ fun w' => absurd w' w

theorem keeps_of_idle {x : Run α} (h : ∀ l, c.World l → x.Idle l) : Keeps P x :=
  keeps_of_world allows fun l w => by
    rw [h l w]
    exact refl_of _ l

variable (fit : c.IsFit)
include fit

omit [IsPreorder Live P] in
theorem note_keeps (entry : Entry) : Keeps P (Run.note entry) := fun l =>
  allows.aside _ _
    (Engine.note_spares (e := c.setting.engineAt c.machine n) (ground_of_fit fit) entry l)

theorem attr_keeps (h : Host) (name : Value) : Keeps P (h.attr name) :=
  keeps_of_idle allows fun _ w =>
    (Host.attr?_idle ((ground_of_fit fit).plain w) (quiet_of_fit fit w) name).bind fun _ => rfl

theorem truth_keeps (h : Host) (v : Value) : Keeps P (h.truth v) :=
  keeps_of_idle allows fun _ w =>
    Host.truth_idle (Live.Stands.mute w fit.simple (by decide))
      (Live.Stands.mute w fit.simple (by decide)) v

omit [IsPreorder Live P] in
theorem setAttr_keeps (h : Host) {name : String} (free : c.isFree name = true) (v : Value) :
    Keeps P (h.setAttr (.str name) v) := by
  intro l
  obtain ⟨untaken, unspared, present⟩ := not_taken_of_free free
  exact allows.aside _ _ (Host.setAttr_spares (ground_of_fit fit).plain untaken unspared
    (fun w _ => Live.Stands.assign w present v) l)

omit [IsPreorder Live P] in
theorem delAttr_keeps (h : Host) {name : String} (free : c.isFree name = true) :
    Keeps P (h.delAttr (.str name)) := by
  intro l
  obtain ⟨untaken, unspared, present⟩ := not_taken_of_free free
  exact allows.aside _ _ (Host.delAttr_spares (ground_of_fit fit).plain untaken unspared
    (fun w => Live.Stands.discarded w present) l)

omit [IsPreorder Live P] in
theorem working_keeps (h : Host) (vs : List Value) {act : Run Value} (ha : Keeps P act) :
    Keeps P (h.working vs act) :=
  keeps_of_world allows fun l w => by
    rw [Run.final_congr (Host.working_run (lasting_of_fit fit w) vs act)]
    exact ha l

omit [IsPreorder Live P] in
theorem passing_keeps (h : Host) {act : Run α} (ha : Keeps P act) : Keeps P (h.passing act) :=
  keeps_of_world allows fun l w => by
    rw [Run.final_congr (Host.passing_run (lasting_of_fit fit w) act)]
    exact ha l

/-- What was raised is asked for its text, and nobody learns of that. -/
theorem message_keeps (h : Host) (stop : Stop) : Keeps P (h.message stop) :=
  keeps_of_idle allows fun _ w => Host.message_idle (quiet_of_fit fit w) stop

omit [IsPreorder Live P] in
/-- There is nobody who could do anything at a parting. -/
theorem parted_keeps (h : Host) (l m : Live) : P m (h.parted l m) := by
  by_cases w : c.World m
  · obtain ⟨held, same⟩ := Host.parted_eq (h := h) (l := l) (lasting_of_fit fit w)
    rw [same]
    exact allows.aside _ _ fun w => ⟨w.inHand held, fun _ _ => rfl⟩
  · exact allows.aside _ _ fun w' => absurd w' w

end Allows

/-- A request to fire an event is a step of a conduct. -/
theorem allows_conduct (fit : c.IsFit) (n : Nat) : c.Allows n (c.Conduct n) where
  aside _ _ h := .aside h
  fires ref _ event := by
    cases n with
    | zero => exact Keeps.throw _
    | succ k =>
      intro l
      by_cases w : c.World l
      · have served : ((c.setting.answer (k + 1) (.fire c.known (.str event))).final l)
            = ((c.setting.engineAt c.machine k).fire (.str event)).final l := by
          rw [Setting.answer, Host.serve]
          rw [Run.final_congr (Host.working_run (lasting_of_fit fit w) _ _)]
          have engine : (Host.engine { toSetting := c.setting, answer := c.setting.answer k }
              c.known).run l = .ok (c.setting.engineAt c.machine k) l :=
            Setting.engine_run fit.bound k l
          rw [Run.final_bind_ok engine]
          exact Run.final_bind_pure _ _ l
        rw [served]
        exact .single (.fire (Nat.lt_succ_self k) event l)
      · exact .aside fun w' => absurd w' w

/-- Where no script knows the machine, there is nothing but what is done beside it. -/
theorem allows_spares (unnamed : ∀ ref, c.setting.named? ref ≠ .some c.known) (n : Nat) :
    c.Allows n (Live.Spares c.World c.record c.spared) where
  aside _ _ h := h
  fires ref named := absurd named (unnamed ref)

end Scene

/-! ## Tame scripts -/

/-- An expression that reads, and fires events of the machine. -/
def Expr.isTame (c : Scene) : Expr → Bool
  | lit _ | attr _ | arg _ | argc => true
  | not a => a.isTame c
  | fire ref (.str _) => c.setting.named? ref == .some c.known
  | _ => false

/-- A step that leaves alone what is not left to it. -/
def Step.isTame (c : Scene) : Step → Bool
  | log e | eval e => e.isTame c
  | set (.str name) e => c.isFree name && e.isTame c
  | del (.str name) => c.isFree name
  | raise _ _ => true
  | _ => false

def Script.isTame (c : Scene) : Script → Bool
  | done => true
  | give e => e.isTame c
  | step st rest => st.isTame c && rest.isTame c
  | branch test yes no rest => test.isTame c && yes.isTame c && no.isTame c && rest.isTame c

/-- Only scripts are tame: what a text names on a record is up to the record. -/
def Callback.isTame (c : Scene) : Callback → Bool
  | .script body => body.isTame c
  | _ => false

section Tame

variable {c : Scene} {n : Nat} {P : Live → Live → Prop} [IsPreorder Live P]
  (allows : c.Allows n P) (fit : c.IsFit)
include allows fit

theorem Expr.eval_keeps (args : List Value) : ∀ e : Expr, e.isTame c = true →
    Keeps P (e.eval (c.setting.hostAt n) args)
  | .lit v, _ => by
    rw [eval]
    exact Keeps.pure _
  | .attr name, _ => by
    rw [eval]
    exact Scene.working_keeps allows fit _ _ (Scene.attr_keeps allows fit _ name)
  | .arg i, _ => by
    rw [eval]
    exact Keeps.pure _
  | .argc, _ => by
    rw [eval]
    exact Keeps.pure _
  | .not a, h => by
    rw [eval]
    refine Scene.working_keeps allows fit _ _ ?_
    refine (Expr.eval_keeps args a (by simpa [isTame] using h)).bind fun x => ?_
    exact (Scene.truth_keeps allows fit _ x).bind fun _ => Keeps.pure _
  | .fire ref (.str event), h => by
    rw [eval]
    have bound : c.setting.named? ref = .some c.known := by simpa [isTame] using h
    have found : (c.setting.hostAt n).machineNamed ref = pure c.known := by
      unfold Host.machineNamed
      rw [show (c.setting.hostAt n).named? ref = .some c.known from bound]
    rw [found, pure_bind]
    exact allows.fires ref bound event

theorem Step.run_keeps (args : List Value) : ∀ st : Step, st.isTame c = true →
    Keeps P (st.run (c.setting.hostAt n) args)
  | .log e, h =>
    Scene.passing_keeps allows fit _
      ((Expr.eval_keeps allows fit args e h).bind fun v => Scene.note_keeps allows fit (.note v))
  | .set (.str name) e, h => by
    obtain ⟨free, tame⟩ := (Bool.and_eq_true ..).mp h
    exact Scene.passing_keeps allows fit _
      ((Expr.eval_keeps allows fit args e tame).bind fun v =>
        Scene.setAttr_keeps allows fit _ free v)
  | .del (.str name), h => Scene.passing_keeps allows fit _ (Scene.delAttr_keeps allows fit _ h)
  | .eval e, h =>
    Scene.passing_keeps allows fit _
      ((Expr.eval_keeps allows fit args e h).bind fun _ => Keeps.pure ())
  | .raise kind reason, _ => Keeps.fail _

theorem Script.run_keeps (args : List Value) : ∀ body : Script, body.isTame c = true →
    Keeps P (body.run (c.setting.hostAt n) args)
  | .done, _ => Keeps.pure _
  | .give e, h => (Expr.eval_keeps allows fit args e h).bind fun _ => Keeps.pure _
  | .step st rest, h => by
    obtain ⟨first, after⟩ := (Bool.and_eq_true ..).mp h
    exact (Step.run_keeps allows fit args st first).bind fun _ => Script.run_keeps args rest after
  | .branch test yes no rest, h => by
    simp only [isTame, Bool.and_eq_true] at h
    obtain ⟨⟨⟨htest, hyes⟩, hno⟩, hrest⟩ := h
    have tested := (Expr.eval_keeps allows fit args test htest).bind
      fun v => Scene.truth_keeps allows fit (c.setting.hostAt n) v
    refine (Scene.passing_keeps allows fit _ tested).bind fun holds => ?_
    cases holds with
    | true =>
      refine (Script.run_keeps args yes hyes).bind fun given => ?_
      cases given with
      | some v => exact Keeps.pure _
      | none => exact Script.run_keeps args rest hrest
    | false =>
      refine (Script.run_keeps args no hno).bind fun given => ?_
      cases given with
      | some v => exact Keeps.pure _
      | none => exact Script.run_keeps args rest hrest

theorem Callback.call_keeps (args : List Value) {callback : Callback}
    (h : callback.isTame c = true) :
    Keeps P (callback.call (c.setting.hostAt n) args) := by
  cases callback with
  | script body =>
    exact Scene.working_keeps allows fit _ _
      ((Script.run_keeps allows fit args body h).bind fun _ => Keeps.pure _)
  | _ => cases h

theorem Callback.runAction_keeps (event : Value) {action : Callback}
    (h : action.isTame c = true) :
    Keeps P ((c.setting.engineAt c.machine n).runAction event action) := by
  cases action with
  | script body => exact (Keeps.pure ()).bind fun _ => Callback.call_keeps allows fit [] h
  | _ => cases h

end Tame

/-- All callbacks of a machine are tame, and it has no rules. -/
structure Machine.IsTame (m : Machine) (c : Scene) : Prop where
  enters : ∀ s ∈ m.states, ∀ a ∈ s.enter.toList, a.isTame c = true
  acts : ∀ s ∈ m.states, ∀ a ∈ s.after ++ s.exit.toList, a.isTame c = true
  guards : ∀ ev ∈ m.events, ∀ g ∈ ev.guards, g.isTame c = true
  observers : ∀ o ∈ m.observers, o.isTame c = true
  rules : m.registry.rules = []

/-- Where the record has no check of its own, and the machine no rules, everything is valid. -/
theorem Scene.check_run {c : Scene} (fit : c.IsFit) (hm : "is_valid" ∈ c.missing)
    (hr : c.machine.registry.rules = []) (n : Nat) (event : Value) {l : Live} (w : c.World l) :
    ((c.setting.engineAt c.machine n).check event).run l = .ok true l := by
  have plain := (ground_of_fit fit).plain w
  have own := Host.attr_run_ordinary (h := (c.setting.engineAt c.machine n).host) plain
    (plain.names "is_valid" (by decide))
  rw [Live.Stands.missing w _ hm] at own
  rw [Engine.check, Run.run_bind_ok own]
  have none : (c.setting.engineAt c.machine n).machine.registry.rules = [] := hr
  simp only [Option.getD_none, Value.isNull, if_true]
  rw [Engine.errors, none]
  rfl

/-- A machine without guards, enter actions and rules has nothing to ask before a commit. -/
theorem Scene.choice {c : Scene} (fit : c.IsFit) (hm : "is_valid" ∈ c.missing)
    (hr : c.machine.registry.rules = []) (unguarded : ∀ ev ∈ c.machine.events, ev.guards = [])
    (unentered : ∀ s ∈ c.machine.states, s.enter = .none) (n : Nat) (names : List String) :
    (c.setting.engineAt c.machine n).ChoiceKeeps (fun _ => False)
      (Live.Spares c.World c.record names) where
  covers ev hev g hg := by
    rw [unguarded ev hev] at hg
    cases hg
  checks event := Live.Spares.of_idle fun _ w => Run.final_of_ok (check_run fit hm hr n event w)
  guards _ _ h := h.elim
  enters event s hs a ha := by
    rw [unentered s hs] at ha
    cases ha

/-- The callbacks of a tame machine stay within what is allowed in the scene. -/
theorem Scene.users_of_allows {c : Scene} {n : Nat} {P : Live → Live → Prop} [IsPreorder Live P]
    (allows : c.Allows n P) (fit : c.IsFit) (hm : "is_valid" ∈ c.missing)
    (tame : c.machine.IsTame c) :
    (c.setting.engineAt c.machine n).UserKeeps (·.isTame c = true) P where
  covers := tame.guards
  checks event := keeps_of_idle allows fun _ w =>
    Run.final_of_ok (check_run fit hm tame.rules n event w)
  guards event _ hg :=
    (Callback.runAction_keeps allows fit event hg).bind fun v => Scene.truth_keeps allows fit _ v
  enters event st hs a ha :=
    Callback.runAction_keeps allows fit event (tame.enters st hs a (Option.mem_toList.mpr ha))
  acts event st hs a ha := Callback.runAction_keeps allows fit event (tame.acts st hs a ha)
  observers args o ho := Callback.call_keeps allows fit args (tame.observers o ho)
  reports stop _ := message_keeps allows fit _ stop
  partings := parted_keeps allows fit _

/-- They conduct themselves. -/
theorem Scene.users {c : Scene} (fit : c.IsFit) (hm : "is_valid" ∈ c.missing)
    (tame : c.machine.IsTame c) (n : Nat) :
    (c.setting.engineAt c.machine n).UserKeeps (·.isTame c = true) (c.Conduct n) :=
  users_of_allows (allows_conduct fit n) fit hm tame

/-- Where they do not know the machine, they touch nothing that is not left to them. -/
theorem Scene.bystanders {c : Scene} (fit : c.IsFit) (hm : "is_valid" ∈ c.missing)
    (tame : c.machine.IsTame c) (unnamed : ∀ ref, c.setting.named? ref ≠ .some c.known) (n : Nat) :
    (c.setting.engineAt c.machine n).UserKeeps (·.isTame c = true)
      (Live.Spares c.World c.record c.spared) :=
  users_of_allows (allows_spares unnamed n) fit hm tame

/-! ## Plain scenes -/

/-- A scene with a record of the plain class, which has no check of its own. -/
def Scene.plain (setting : Setting) (machine : Machine) (known : MachineId)
    (spared : List String) : Scene where
  setting
  machine
  known
  classes := Class.plainOnly
  cls := 3
  record := 0
  missing := ["is_valid"]
  spared

section Plain

variable {setting : Setting} {machine : Machine} {known : MachineId} {spared : List String}

theorem Scene.plain_isFit (bound : setting.machine? known = .some machine)
    (hcol : machine.config.column ≠ .str "is_valid") :
    (Scene.plain setting machine known spared).IsFit where
  simple := Class.plainOnly_isSimple
  bound
  unwritten name hname := by
    have hvalid : name = "is_valid" := List.mem_singleton.mp hname
    subst hvalid
    exact Machine.not_writes (by decide) hcol (by decide)

theorem Scene.plain_room {column : String} (fit : (Scene.plain setting machine known spared).IsFit)
    (held : machine.config.column = .str column)
    (unstamped : ∀ s ∈ machine.states, column ∉ s.stampFields)
    (unsaid : (Lineage.ofClass Class.plainOnly 3).member? column = .none) (n : Nat) :
    Live.Room (Scene.plain setting machine known spared).World (setting.engineAt machine n) 0
      column where
  toWorld := Scene.world_of_fit fit n
  held
  unstamped
  openColumn w := Live.Stands.isOpen w rfl unsaid
  openCommitted w := Live.Stands.isOpen w rfl rfl

theorem Scene.blank_plain : (Scene.plain setting machine known spared).World Live.blank where
  self := rfl
  classes := rfl
  cls := rfl
  missing := by
    have missing : ∀ name ∈ ["is_valid"], Live.blank.value? 0 name = .none := by decide
    exact missing

end Plain

end Lifecycle
