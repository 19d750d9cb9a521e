/-
New records: in which state they are once they are constructed.

A `Nursery` is where records of a class are constructed, below a class that was
given to a machine. A record that its constructors leave without a state is
started there once and by this machine alone, however many constructors that
some machine governs take part (`Nursery.starts_once`). Where they give it a
state, it is committed in the one that it has when the constructor of the
nearest decorated class is done (`Nursery.commits_given`); what constructors
below that one assign later is no different from what anybody else does.
-/
import Lifecycle.Proofs.Committed
import Lifecycle.Proofs.Decorating
import Lifecycle.Proofs.Settling
import Lifecycle.Proofs.Validity

namespace Lifecycle

open Lifecycle.Class (Edit made)
open Run (Keeps)

/-- Where the records of a class are constructed: the classes that some edits lead to, the machine
that was the last one given to the nearest decorated class of its line, and a world in which this
machine can read and write the state of a record of the class. -/
structure Nursery (edits : List Edit) (cls nearest : ClassId) (machine : MachineId) (h : Host)
    (m : Machine) (W : Live → Prop) (id : RecordId) (column : String) : Prop where
  heritage : Heritage edits cls nearest machine
  bound : h.machine? machine = .some m
  site : Live.Site W m id column
  lined : ∀ {l}, W l → l.lineage (.record id) = Lineage.ofClass (made edits) cls

namespace Nursery

variable {edits : List Edit} {cls nearest : ClassId} {machine : MachineId} {h : Host} {m : Machine}
  {W : Live → Prop} {id : RecordId} {column : String}
  (nursery : Nursery edits cls nearest machine h m W id column)
include nursery

theorem line {l : Live} (w : W l) : l.line = Lineage.ofClass (made edits) cls := by
  rw [Live.line, (nursery.site.plain w).self, nursery.lined w]

theorem machine? {l : Live} (w : W l) : l.line.machine? = .some machine := by
  rw [nursery.line w]
  exact nursery.heritage.isGovernedBy.machine?

/-- To construct a record is to do the deeds of its line. -/
theorem construct_run (args : Arguments) {l : Live} (w : W l) :
    (h.construct args).run l
      = (Deed.runAll h ((Lineage.ofClass (made edits) cls).deeds h args .none)).run l := by
  obtain ⟨owner, constructor', found, silent⟩ := nursery.heritage.isGovernedBy.silent
  rw [← nursery.line w] at found
  rw [Host.construct_run found silent, nursery.line w]

/-- Once the record has a declared state, it is committed in it where it is settled next. -/
theorem construct_run_of_hasState {args : Arguments} {before after : List Deed}
    (split : (Lineage.ofClass (made edits) cls).deeds h args .none
      = before ++ .settle machine :: after)
    {l l₁ : Live} (w : W l) (reached : (Deed.runAll h before).run l = .ok () l₁) (w₁ : W l₁)
    {s : State} (hs : s ∈ m.states) (shown : l₁.value? id column = .some (.str s.name)) :
    (h.construct args).run l = (do
      ({ host := h, machine := m } : Engine).commit (.str s.name)
      Deed.runAll h after : Run Unit).run l₁ := by
  have settled := Deed.settle_run nursery.bound nursery.machine? w₁
  have committed := settled.trans (Engine.settle_run_of_hasState nursery.site w₁ hs shown)
  rw [nursery.construct_run args w, split, Deed.runAll_append, Run.run_bind_ok reached,
    Deed.runAll, Deed.run, Run.run_bind_congr committed]

end Nursery

variable {edits : List Edit} {cls nearest : ClassId} {machine : MachineId} {h : Host} {m : Machine}
  {W : Live → Prop} {id : RecordId} {column : String}

/-! ## Records that are given no state -/

/-- A record without a state is constructed by the work of its constructors and by one start in the
initial state of the machine of the nearest decorated class. If all of that is done, the record is
in this state. -/
theorem Nursery.starts_once (nursery : Nursery edits cls nearest machine h m W id column)
    {s : State} (initial : m.stateAt (.str m.config.initial) = .ok s)
    (acts : ∀ a ∈ s.enter.toList ++ s.after, Keeps (Live.Spares W id (Live.stateNames column))
      (({ host := h, machine := m } : Engine).runAction .null a))
    {args : Arguments}
    (works : ∀ act, .work act ∈ (Lineage.ofClass (made edits) cls).deeds h args .none →
      Keeps (Live.Spares W id (Live.stateNames column)) act)
    {l : Live} (w : W l) (stateless : l.Stateless id column) :
    let e : Engine := { host := h, machine := m }
    ∃ before after, (Lineage.ofClass (made edits) cls).deeds h args .none
        = before ++ .settle machine :: after ∧ .settle machine ∉ before
      ∧ (h.construct args).run l = (do
          Deed.commitAll e machine before
          e.startIn s
          Deed.commitAll e machine after : Run Unit).run l
      ∧ ∀ l', (h.construct args).run l = .ok () l' → l'.IsAt W id column s.name := by
  intro e
  have constructs := nursery.construct_run args w
  have governed {l : Live} (w : W l) := nursery.machine? w
  obtain ⟨heritage, bound, site, -⟩ := nursery
  obtain ⟨_, _, settles⟩ := heritage.isGovernedBy.outermost h args
  -- The outermost wrapper settles the record, but one of the same machine may do so before it.
  have mem : .settle machine ∈ (Lineage.ofClass (made edits) cls).deeds h args .none := by
    rw [settles]
    simp
  obtain ⟨before, after, deeds, absent⟩ := List.eq_append_cons_of_mem mem
  rw [deeds] at works constructs
  rw [constructs]
  exact ⟨before, after, deeds, absent,
    Deed.runAll_of_stateless bound site governed initial acts absent works w stateless,
    fun _ => Deed.isAt_of_runAll bound site governed initial acts absent works w stateless⟩

/-! ### Orders -/

/-- What a class under others defines, besides what every class has of its own. -/
def Class.heir (own : List (String × Member)) : ClassBody where
  members := ⟨own ++ [("__module__", .value (.str "__main__")), ("__doc__", .value .null)]⟩
  isRoomy := false
  isReferable := false

/-- A constructor that goes to the one above it and then assigns a text. -/
def Member.assigning (name text : String) : String × Member :=
  (constructorName, .keywords true ⟨[(name, .str text)]⟩)

example : Class.ofBody [{ toClassBody := Class.plain, owner := 3 }, Class.root]
    ⟨[Member.assigning "size" "small"]⟩
      = .ok (Class.heir [Member.assigning "size" "small"]) := by cbv

/-- A script that logs a text. -/
def Callback.logging (text : String) : Callback := .script (.step (.log (.lit (.str text))) .done)

/-- The state in which orders begin. -/
def Machine.opening : State where
  name := "open"
  enter := .some (.logging "opens")
  after := [.logging "opened"]

def Machine.order : Machine where
  config := { initial := "open" }
  states := [opening, { name := "closed" }, { name := "held" }]
  events := [{ name := "wait" }]
  registry := .standard

def Machine.ticket : Machine where
  config := { initial := "new", column := "stage" }
  states := [{ name := "new", enter := .some (.logging "numbered") }]
  registry := .standard

def Setting.orders : Setting where
  machine? id := if id = 0 then .some .order else if id = 1 then .some .ticket else .none

/-- The first record, of a class that leaves the validity check to its machine. -/
def Live.IsOrder (edits : List Edit) (cls : ClassId) : Live → Prop :=
  StandsBare (made edits) cls 0 checkNames

/-- A new record of a class, which is the first one. -/
def Live.newborn (edits : List Edit) (cls : ClassId) : Live :=
  { ({ classes := made edits } : Live).withNew cls with self := .record 0 }

theorem Live.newborn_isOrder (edits : List Edit) (cls : ClassId) :
    (Live.newborn edits cls).IsOrder edits cls where
  self := rfl
  classes := rfl
  cls := rfl
  missing := nofun
  bare _ _ := rfl

section Orders

variable (simple : Class.IsSimple (made edits) cls)
include simple

theorem Live.isOrder_ground : Live.Ground (Live.IsOrder edits cls) .order 0 :=
  StandsBare.ground simple fun name mem => by
    obtain ⟨uncommitted, other, last⟩ : name ≠ committedAttribute ∧ name ≠ "state"
        ∧ name.toList.getLast? ≠ .some 't' ∧ name.toList.getLast? ≠ .some 'n' := by
      revert name
      decide
    exact Machine.not_writes uncommitted (fun h => other (Value.str.inj h).symm) last

theorem Live.isOrder_lasting {l : Live} (w : l.IsOrder edits cls) : l.hasFarewells = false :=
  (w.quiet simple).lasting

/-- Nobody does anything at a parting. -/
theorem Live.isOrder_parted (h : Host) (names : List String) (l m : Live) :
    Live.Spares (Live.IsOrder edits cls) 0 names m (h.parted l m) := by
  intro w
  obtain ⟨held, same⟩ := Host.parted_eq (h := h) (l := l) (Live.isOrder_lasting simple w)
  rw [same]
  exact ⟨⟨w.toStands.inHand held, w.bare⟩, fun _ _ => rfl⟩

theorem Nursery.of_orders (heritage : Heritage edits cls nearest 0) (n : Nat) :
    Nursery edits cls nearest 0 (Setting.orders.hostAt n) .order (Live.IsOrder edits cls) 0
      "state" where
  heritage
  bound := rfl
  site := (Live.isOrder_ground simple).site rfl fun w =>
    ((Live.isOrder_ground simple).plain w).names "state" (by decide)
  lined w := w.lineage

/-- Entries in the log leave the record as it is. -/
theorem Callback.logging_keeps (text : String) {e : Engine} (unwatched : e.watched = false)
    (event : Value) (names : List String) :
    Keeps (Live.Spares (Live.IsOrder edits cls) 0 names) (e.runAction event (.logging text)) := by
  intro l w
  have lasting := Live.isOrder_lasting simple w
  have silent : (e.watch (.action (Callback.logging text).toValue event)).run l = .ok () l := by
    rw [Engine.watch, unwatched]
    rfl
  let noted : Live := { l with log := l.log ++ [(Entry.note (.str text)).map l.settle] }
  have logged : ((Step.log (.lit (.str text))).run e.host []).run l = .ok () noted :=
    Step.log_run lasting (by rw [Expr.eval])
  have called : ((Callback.logging text).call e.host []).run l = .ok .null noted := by
    refine (Host.working_run lasting [] _).trans ?_
    rw [Script.call, Script.run, bind_assoc, Run.run_bind_ok logged]
    rfl
  have acted : (e.runAction event (.logging text)).run l = .ok .null noted :=
    (Run.run_bind_ok silent _).trans called
  rw [Run.final_of_ok acted]
  exact ⟨(Live.isOrder_ground simple).noted _ w, fun _ _ => rfl⟩

theorem Machine.order_acts {e : Engine} (unwatched : e.watched = false) (event : Value)
    (names : List String) : ∀ s ∈ Machine.order.states, ∀ a ∈ s.enter.toList ++ s.after,
      Keeps (Live.Spares (Live.IsOrder edits cls) 0 names) (e.runAction event a) := by
  have logging (text : String) := Callback.logging_keeps simple text unwatched event names
  intro s hs a ha
  simp only [order, List.mem_cons, List.not_mem_nil, or_false] at hs
  obtain rfl | rfl | rfl := hs
  · obtain rfl | rfl : a = .logging "opens" ∨ a = .logging "opened" := by
      simpa [opening] using ha
    · exact logging "opens"
    · exact logging "opened"
  · cases ha
  · cases ha

end Orders

/-- A class that one machine governs, one below it that another one does, one below that for the
first machine again, and one that none does. -/
def Class.alternating : List Edit := [
  .add { toClassBody := Class.plain }, .govern 3 0 Machine.order.toDefinition .none,
  .add { toClassBody := Class.heir [], bases := [3, 0] },
  .govern 4 1 Machine.ticket.toDefinition .none,
  .add { toClassBody := Class.heir [], bases := [4, 3, 0] },
  .govern 5 0 Machine.order.toDefinition .none,
  .add { toClassBody := Class.heir [Member.assigning "size" "small"], bases := [5, 4, 3, 0] }]

theorem Class.alternating_isSimple : Class.IsSimple (made Class.alternating) 6 where
  hooks use := by cases use <;> rfl
  names := by decide
  mute := by decide
  lasting := by decide

theorem Class.alternating_heritage : Heritage Class.alternating 6 5 0 where
  decorated := ⟨Class.alternating.take 5, _, _, Class.alternating.drop 6, rfl, ⟨_, rfl, by decide⟩,
    by decide⟩
  line := by
    refine ⟨_, [6], [4, 3, 0], rfl, rfl, fun b mem => ?_⟩
    cases List.mem_singleton.mp mem
    refine ⟨by decide, fun c there => ?_⟩
    cases there
    rfl
  unnamed c mem := by
    simp only [Class.alternating, List.mem_cons, Edit.add.injEq, reduceCtorEq, List.not_mem_nil,
      false_or, or_false] at mem
    rcases mem with rfl | rfl | rfl | rfl <;> rfl

/-- What is done before a record of the last class is settled for the first machine again. -/
def Class.alternatingFirst (h : Host) : List Deed := [
  .work (.check false (.misuse (.arguments constructorName))),
  .work (.check false (.misuse (.repeatedOption selfName))),
  .work (.check false (.misuse (.repeatedOption selfName))),
  .work (.check false (.misuse (.repeatedOption selfName))),
  .work (discard (h.constructPlainly {})), .settle 0, .settle 1]

theorem Class.alternating_deeds (h : Host) :
    (Lineage.ofClass (made Class.alternating) 6).deeds h {} .none
      = Class.alternatingFirst h ++ [.settle 0, .work (h.setAttrs [("size", .str "small")])] := by
  rfl

theorem Class.alternating_first : ∃ l₁,
    (Deed.runAll (Setting.orders.hostAt 3) (Class.alternatingFirst (Setting.orders.hostAt 3))).run
        (Live.newborn Class.alternating 6) = .ok () l₁
      ∧ l₁.value? 0 "state" = .some (.str "open") ∧ l₁.IsOrder Class.alternating 6
      ∧ ∃ l', (do
          (Setting.orders.engineAt .order 3).commit (.str "open")
          Deed.runAll (Setting.orders.hostAt 3)
            [.work ((Setting.orders.hostAt 3).setAttrs [("size", .str "small")])] : Run Unit).run l₁
        = .ok () l' :=
  ⟨_, rfl, by rfl, ⟨⟨by rfl, by rfl, by rfl, nofun⟩, by decide⟩, _, by rfl⟩

theorem Nursery.starts_once_alternating :
    let h := Setting.orders.hostAt 3
    let e : Engine := { host := h, machine := .order }
    let l := Live.newborn Class.alternating 6
    ∃ before after, (Lineage.ofClass (made Class.alternating) 6).deeds h {} .none
        = before ++ .settle 0 :: after ∧ .settle 0 ∉ before
      ∧ (h.construct {}).run l = (do
          Deed.commitAll e 0 before
          e.startIn Machine.opening
          Deed.commitAll e 0 after : Run Unit).run l
      ∧ ∃ l', (h.construct {}).run l = .ok () l'
        ∧ l'.IsAt (Live.IsOrder Class.alternating 6) 0 "state" "open" := by
  intro h e l
  have simple := Class.alternating_isSimple
  have ground := Live.isOrder_ground simple
  have nursery := Nursery.of_orders simple Class.alternating_heritage 3
  have initial : Machine.order.stateAt (.str Machine.order.config.initial) = .ok Machine.opening :=
    rfl
  have sizes (name : String) (v : Value) (free : (name == "size") = true) :
      Keeps (Live.Spares (Live.IsOrder Class.alternating 6) 0 (Live.stateNames "state"))
        (h.setAttr (.str name) v) := by
    cases beq_iff_eq.mp free
    exact Host.setAttr_spares ground.plain (by decide) (by decide) fun w _ => w.assign (by decide) v
  have assigns : ∀ layer ∈ Lineage.ofClass (made Class.alternating) 6,
      (layer.members.get? constructorName).all
        (·.assigns {} fun name _ => name == "size") = true := by decide
  obtain ⟨before, after, deeds, absent, whole, ends⟩ :=
    Nursery.starts_once nursery initial (Machine.order_acts simple rfl _ _ _ (.head _))
      (Lineage.deeds_keep sizes (Live.isOrder_parted simple h _) assigns)
      (Live.newborn_isOrder Class.alternating 6) (.inl rfl)
  obtain ⟨l₁, first, shown, w₁, l', rest⟩ := Class.alternating_first
  have done := (nursery.construct_run_of_hasState (Class.alternating_deeds h)
    (Live.newborn_isOrder _ _) first w₁ (.head _) shown).trans rest
  exact ⟨before, after, deeds, absent, whole, l', done, ends l' done⟩

/-- A class that a machine governs and one below it, with some members of their own. -/
def Class.pair (own below : List (String × Member)) : List Edit := [
  .add { toClassBody := Class.top own }, .govern 3 0 Machine.order.toDefinition .none,
  .add { toClassBody := Class.heir below, bases := [3, 0] }]

theorem Class.pair_heritage {own below : List (String × Member)}
    (governs : (Edit.govern 3 0 Machine.order.toDefinition .none).Completes
      (made [.add { toClassBody := Class.top own }]))
    (calls : ((Class.heir below).members.get? constructorName).all (·.callsBase) = true)
    (unnamed : (Class.top own).members.get? machineAttribute = .none
      ∧ (Class.heir below).members.get? machineAttribute = .none) :
    Heritage (Class.pair own below) 4 3 0 where
  decorated := ⟨[_], _, _, [_], rfl, governs, by simp [Edit.governs?]⟩
  line := by
    let c : Class := { toClassBody := Class.heir below, bases := [3, 0] }
    refine ⟨c, [4], [0], rfl, rfl, fun b mem => ?_⟩
    cases List.mem_singleton.mp mem
    refine ⟨by simp [pair, Edit.governs?], fun c there => ?_⟩
    cases there
    exact calls
  unnamed c mem := by
    simp only [pair, List.mem_cons, Edit.add.injEq, reduceCtorEq, List.not_mem_nil, false_or,
      or_false] at mem
    obtain rfl | rfl := mem
    · exact unnamed.1
    · exact unnamed.2

/-- What becomes of it when the lower class is called. -/
def Class.called (own below : List (String × Member)) : EStateM.Result Stop Live Value :=
  ((Setting.orders.hostAt 3).callClass 4 {}).run { classes := made (Class.pair own below) }

/-- A constructor that assigns what is committed. -/
def Class.forging : List (String × Member) := [Member.assigning committedAttribute "elsewhere"]

/-- An attribute by which a class names no machine. -/
def Class.naming : List (String × Member) := [(machineAttribute, .value .null)]

/-- A method that takes over the assignment of attributes and does nothing. -/
def Class.ignoring : List (String × Member) := [(Hook.write.name, .method .star .done)]

/-- Where a constructor assigns what is committed, that is what is committed in the end, although
no constructor assigns the column; and nothing is initialized where a body names another machine or
none, or takes over the assignment of attributes. -/
theorem Nursery.starts_once_evaded :
    Heritage (Class.pair [] Class.forging) 4 3 0
      ∧ (∀ layer ∈ Lineage.ofClass (made (Class.pair [] Class.forging)) 4,
        layer.members.get? "state" = .none ∧ (layer.members.get? constructorName).all
          (·.assigns {} fun name _ => name != "state") = true)
      ∧ (∃ l, Class.called [] Class.forging = .ok (.record 0) l
        ∧ l.value? 0 "state" = .some (.str "open")
        ∧ l.value? 0 committedAttribute = .some (.str "elsewhere"))
      ∧ (∃ l, Class.called [] Class.naming = .ok (.record 0) l ∧ l.value? 0 "state" = .none)
      ∧ ∃ l, Class.called Class.ignoring [] = .ok (.record 0) l ∧ l.value? 0 "state" = .none := by
  refine ⟨?heritage, ?assigns, ⟨_, rfl, ?shown, ?committed⟩, ⟨_, rfl, ?named⟩, ⟨_, rfl, ?ignored⟩⟩
  case heritage => exact Class.pair_heritage ⟨_, rfl, by decide⟩ rfl ⟨rfl, rfl⟩
  case assigns => decide
  all_goals rfl

/-! ## Records that are given a state -/

/-- A fire that does not move the record leaves it in this state, if nothing that is asked before a
commit touches the committed one. -/
def Live.FallsBack (W : Live → Prop) (m : Machine) (id : RecordId) (l : Live) (s : State) : Prop :=
  ∀ (e : Engine) (G : Callback → Prop) (name : String) (l' : Live), e.machine = m →
    Live.World W e id → e.ChoiceKeeps G (Live.Spares W id [committedAttribute]) →
    (e.fire (.str name)).run l = .ok false l' →
      l'.value? id committedAttribute = .some (.str s.name)
        ∧ e.currentState.run l' = .ok (.str s.name) l'

/-- A record is constructed in the state that it was given when the constructor of the nearest
decorated class was done, or in the initial one if it was given none: this is committed, and what
the constructors below assign to the column after that is not. A fire that does not move the record
leaves it in the committed state. No action of a state runs if the record was given a state by the
time that it is settled for the first time. -/
theorem Nursery.commits_given (nursery : Nursery edits cls nearest machine h m W id column)
    (acts : ∀ s, m.stateAt (.str m.config.initial) = .ok s → ∀ a ∈ s.enter.toList ++ s.after,
      Keeps (Live.Spares W id (Live.stateNames column))
        (({ host := h, machine := m } : Engine).runAction .null a))
    {args : Arguments}
    (works : ∀ act, .work act ∈ (Lineage.ofClass (made edits) cls).deeds h args .none →
      Keeps (Live.Gives W m id column) act ∧ Keeps (Live.Spares W id [committedAttribute]) act)
    {l : Live} (w : W l) (fit : l.Stateless id column ∨ l.HasState m id column) :
    let deeds := (Lineage.ofClass (made edits) cls).deeds h args .none
    (∃ before, ∃ below : List (Run Unit), deeds = before ++ .settle machine :: below.map .work
      ∧ ∀ l', (h.construct args).run l = .ok () l' → ∃ l₁ l₂ s,
        (Deed.runAll h before).run l = .ok () l₁ ∧ l₁.Due m id column s
        ∧ l₂.IsAt W id column s.name ∧ (Deed.runAll h (below.map .work)).run l₂ = .ok () l'
        ∧ l'.value? id committedAttribute = .some (.str s.name)
        ∧ ((∀ act ∈ below, Keeps (Live.Spares W id [column]) act) → l'.IsAt W id column s.name)
        ∧ ∀ l₃, Live.Spares W id [committedAttribute] l' l₃ → l₃.FallsBack W m id s)
    ∧ ∀ before after, deeds = before ++ .settle machine :: after → .settle machine ∉ before →
      ∀ l₁, (Deed.runAll h before).run l = .ok () l₁ → l₁.HasState m id column →
        (h.construct args).run l
          = (Deed.commitAll { host := h, machine := m } machine deeds).run l := by
  intro deeds
  have governed {l : Live} (w : W l) := nursery.machine? w
  have constructs : (h.construct args).run l = (Deed.runAll h deeds).run l :=
    nursery.construct_run args w
  obtain ⟨heritage, bound, site, -⟩ := nursery
  have gives (act : Run Unit) (mem : .work act ∈ deeds) := (works act mem).1
  have spares (act : Run Unit) (mem : .work act ∈ deeds) := (works act mem).2
  refine ⟨?_, fun before after split absent l₁ ran given => ?_⟩
  · obtain ⟨before, below, split⟩ := heritage.isGovernedBy.outermost h args
    rw [show deeds = _ from split] at constructs gives spares
    refine ⟨before, below, split, fun l' ran => ?_⟩
    rw [constructs, Deed.runAll_append] at ran
    obtain ⟨_, l₁, first, ran⟩ := Run.run_bind_eq_ok.mp ran
    obtain ⟨_, l₂, second, third⟩ := Run.run_bind_eq_ok.mp ran
    -- The record can be settled when it comes to the outermost wrapper, and only work comes after.
    obtain ⟨w₁, fit₁⟩ := Deed.runAll_fit bound site governed acts w fit
      (fun act mem => gives act (List.mem_append_left _ mem)) first
    have settled : ({ host := h, machine := m } : Engine).settle.run l₁ = .ok () l₂ :=
      (Deed.settle_run bound governed w₁).symm.trans second
    obtain ⟨s, due, at₂⟩ := Engine.isAt_of_settle site rfl acts w₁ fit₁ settled
    obtain ⟨w', committed, isAt⟩ := Deed.runAll_works_of_isAt
      (fun act mem => spares act (List.mem_append_right _ (.tail _ (List.mem_map_of_mem mem))))
      at₂ third
    refine ⟨l₁, l₂, s, first, due, at₂, third, committed, isAt, fun l₃ aside => ?_⟩
    rintro e G name l₄ rfl world choice fired
    obtain ⟨w₃, same⟩ := aside w'
    exact Engine.fire_false_stays world choice w₃ due.1 ((same _ (.head _)).trans committed) fired
  · rw [split] at constructs gives
    rw [constructs, split]
    exact Deed.runAll_of_hasState bound site governed acts absent gives w fit ran given

/-- A script that assigns a text. -/
def Script.assigning (name text : String) : Script :=
  .step (.set (.str name) (.lit (.str text))) .done

/-- A class that a machine governs, and one below it whose constructor gives the record one state
before it goes to the one above and another one after that. -/
def Class.late : List Edit := Class.pair [] [
  (constructorName, .around (.assigning "state" "closed") (.assigning "state" "held"))]

theorem Class.late_isSimple : Class.IsSimple (made Class.late) 4 where
  hooks use := by cases use <;> rfl
  names := by decide
  mute := by decide
  lasting := by decide

theorem Class.late_heritage : Heritage Class.late 4 3 0 :=
  Class.pair_heritage ⟨_, rfl, by decide⟩ rfl ⟨rfl, rfl⟩

/-- What is done before the record is settled. -/
def Class.lateFirst (h : Host) : List Deed := [
  .work (discard ((Script.assigning "state" "closed").call h [])),
  .work (.check false (.misuse (.repeatedOption selfName))),
  .work (discard (h.constructPlainly {}))]

/-- What is done after it is settled. -/
def Class.lateLast (h : Host) : Run Unit :=
  discard ((Script.assigning "state" "held").call h [])

theorem Class.late_deeds (h : Host) :
    (Lineage.ofClass (made Class.late) 4).deeds h {} .none
      = Class.lateFirst h ++ [.settle 0, .work (Class.lateLast h)] := by
  rfl

theorem Class.late_first : ∃ l₁,
    (Deed.runAll (Setting.orders.hostAt 3) (Class.lateFirst (Setting.orders.hostAt 3))).run
        (Live.newborn Class.late 4) = .ok () l₁
      ∧ l₁.value? 0 "state" = .some (.str "closed") ∧ l₁.IsOrder Class.late 4
      ∧ ∃ l', (do
          (Setting.orders.engineAt .order 3).commit (.str "closed")
          Deed.runAll (Setting.orders.hostAt 3)
            [.work (Class.lateLast (Setting.orders.hostAt 3))] : Run Unit).run l₁
        = .ok () l' ∧ l'.value? 0 "state" = .some (.str "held")
          ∧ l'.value? 0 committedAttribute = .some (.str "closed") :=
  ⟨_, rfl, by rfl, ⟨⟨by rfl, by rfl, by rfl, nofun⟩, by decide⟩, _, by rfl, by rfl, by rfl⟩

/-- Nothing that is asked before a commit touches the record. -/
theorem Class.late_choice (n : Nat) : (Setting.orders.engineAt .order (n + 2)).ChoiceKeeps
    (fun _ => False) (Live.Spares (Live.IsOrder Class.late 4) 0 [committedAttribute]) where
  covers := by simp [Setting.engineAt, Machine.order, Event.guards]
  checks event := Live.Spares.of_idle fun l w => by
    have plain := (Live.isOrder_ground Class.late_isSimple).plain w
    have governed : l.Governed 0 0 Machine.order.toDefinition .none := {
      self := w.self
      unread := plain.hooks .read
      lasting := Live.isOrder_lasting Class.late_isSimple w
      bare := w.bare
      governed := ⟨[_], _, [Class.root], 3, _,
        (Class.top []).members, w.lineage.trans rfl, by decide,
        by rw [w.classes]; rfl, by rfl, by decide⟩ }
    exact Run.final_of_ok
      (governed.check_run_of_ruleless rfl n event ⟨by rfl, by rfl, by rfl⟩ rfl)
  guards _ _ h := h.elim
  enters event s hs a ha := Machine.order_acts Class.late_isSimple rfl event _ s hs a (by simp [ha])

/-- The constructors give the record declared states, and commit none. -/
theorem Class.late_works (h : Host) (act : Run Unit)
    (mem : .work act ∈ (Lineage.ofClass (made Class.late) 4).deeds h {} .none) :
    Keeps (Live.Gives (Live.IsOrder Class.late 4) .order 0 "state") act
      ∧ Keeps (Live.Spares (Live.IsOrder Class.late 4) 0 [committedAttribute]) act := by
  have ground := Live.isOrder_ground Class.late_isSimple
  have parted := Live.isOrder_parted Class.late_isSimple h
  have site := (Nursery.of_orders Class.late_isSimple Class.late_heritage 0).site
  have assigns : ∀ layer ∈ Lineage.ofClass (made Class.late) 4,
      (layer.members.get? constructorName).all
        (·.assigns {} (Machine.order.givesState "state")) = true := by decide
  refine ⟨Lineage.deeds_keep (fun _ _ gives => site.setAttr_gives h gives)
      (fun l m => (parted _ l m).gives) assigns act mem,
    Lineage.deeds_keep (fun name v gives => ?_) (parted _) assigns act mem⟩
  obtain ⟨rfl, -⟩ := Machine.givesState_eq_true gives
  exact Host.setAttr_spares ground.plain (by decide) (by decide) fun w _ => w.assign (by decide) v

/-- It is committed in the first of the two, and back there after a fire that does not move it. -/
theorem Nursery.commits_given_late :
    let h := Setting.orders.hostAt 3
    let l := Live.newborn Class.late 4
    ∃ l', (h.construct {}).run l = .ok () l'
      ∧ l'.value? 0 "state" = .some (.str "held")
      ∧ l'.value? 0 committedAttribute = .some (.str "closed")
      ∧ (h.construct {}).run l = (Deed.commitAll { host := h, machine := .order } 0
          ((Lineage.ofClass (made Class.late) 4).deeds h {} .none)).run l
      ∧ ∀ n l₄, let e := Setting.orders.engineAt .order (n + 2)
        (e.fire (.str "wait")).run l' = .ok false l₄ →
          l₄.value? 0 committedAttribute = .some (.str "closed")
            ∧ e.currentState.run l₄ = .ok (.str "closed") l₄ := by
  intro h l
  have simple := Class.late_isSimple
  have nursery := Nursery.of_orders simple Class.late_heritage 3
  have w : l.IsOrder Class.late 4 := Live.newborn_isOrder _ _
  obtain ⟨l₁, first, shown, w₁, l', rest, held, closed⟩ := Class.late_first
  have done := (nursery.construct_run_of_hasState (Class.late_deeds h) w first w₁
    (.tail _ (.head _)) shown).trans rest
  have acts (s : State) (initial : Machine.order.stateAt (.str "open") = .ok s) :=
    Machine.order_acts (e := Setting.orders.engineAt .order 3) simple rfl .null
      (Live.stateNames "state") s (Definition.stateAt_eq_ok initial).1
  obtain ⟨⟨before, below, split, outcome⟩, quiet⟩ :=
    Nursery.commits_given nursery acts (Class.late_works h) w (.inl (.inl rfl))
  refine ⟨l', done, held, closed, ?_, fun n l₄ fired => ?_⟩
  · exact quiet (Class.lateFirst h) [.work (Class.lateLast h)]
      (Class.late_deeds h) (by simp [Class.lateFirst]) l₁ first ⟨_, .tail _ (.head _), shown⟩
  · obtain ⟨_, _, s, -, -, -, -, committed, -, stays⟩ := outcome l' done
    have name : s.name = "closed" := by
      have same := committed.symm.trans closed
      simpa using same
    have world := Engine.world_of_quiet (e := Setting.orders.engineAt .order (n + 2))
      (Live.isOrder_ground simple) fun w => w.quiet simple
    have fire := stays l' (refl_of _ _) _ _ _ _ rfl world (Class.late_choice n) fired
    rwa [name] at fire

/-- What a constructor below the decorated class assigns is not committed. -/
theorem Nursery.commits_given_overwritten :
    let closing := [Member.assigning "state" "closed"]
    Heritage (Class.pair [] closing) 4 3 0
      ∧ (∀ layer ∈ Lineage.ofClass (made (Class.pair [] closing)) 4,
        (layer.members.get? constructorName).all
          (·.assigns {} (Machine.order.givesState "state")) = true)
      ∧ ∃ l, Class.called [] closing = .ok (.record 0) l
        ∧ l.value? 0 "state" = .some (.str "closed")
        ∧ l.value? 0 committedAttribute = .some (.str "open") :=
  ⟨Class.pair_heritage ⟨_, rfl, by decide⟩ rfl ⟨rfl, rfl⟩, by decide, _, rfl, by rfl, by rfl⟩

end Lifecycle
