/-
Settling: in which state a record is once the deeds of a construction are done.

In a `Live.Site` a commit that ends well puts the record into a state. To settle
the record there comes down to this: a record with a declared state is committed
in it, and one without any is committed in the initial state, whose actions then
run (`Engine.settle_run_of_hasState`, `Engine.settle_run_of_stateless`).

So of all deeds of a construction only the first that settles the record for the
machine of its line can run actions of a machine, and only where the record has
no state by then (`Deed.runAll_of_stateless`). All others come down to
`Deed.commitAll`, which are the deeds without these actions (`Deed.runAll_run`).
-/
import Lifecycle.Proofs.Construction
import Lifecycle.Proofs.Room

namespace Lifecycle

open Run (Keeps)

/-- Whether to assign a value under a name gives a record a state that the machine declares. -/
def Machine.givesState (m : Machine) (column name : String) : Value → Bool
  | .str s => name == column && m.declares s
  | _ => false

theorem Machine.givesState_eq_true {m : Machine} {column name : String} {v : Value}
    (h : m.givesState column name v = true) :
    name = column ∧ ∃ s ∈ m.states, v = .str s.name := by
  cases v with
  | str text =>
    obtain ⟨same, declared⟩ := (Bool.and_eq_true ..).mp h
    obtain ⟨s, found⟩ := Option.isSome_iff_exists.mp declared
    have named : s.name = text := by simpa using List.find?_some found
    exact ⟨beq_iff_eq.mp same, s, List.mem_of_find?_eq_some found, by rw [named]⟩
  | _ => cases h

namespace Live

/-- A world in which the library reads and writes the state of the record. -/
structure Site (W : Live → Prop) (m : Machine) (id : RecordId) (column : String) : Prop where
  plain : ∀ {l}, W l → l.Plain id
  held : m.config.column = .str column
  ordinary : ∀ {l}, W l → l.IsOrdinary id column
  written : ∀ {l name} (s : String), W l → name ∈ stateNames column → l.IsOpen id name →
    W (l.assign id name (.str s))

/-- The record was not given a state. -/
def Stateless (l : Live) (id : RecordId) (column : String) : Prop :=
  l.value? id column = .none ∨ l.value? id column = .some .null

/-- The record was given a state that the machine declares. -/
def HasState (l : Live) (m : Machine) (id : RecordId) (column : String) : Prop :=
  ∃ s ∈ m.states, l.value? id column = .some (.str s.name)

/-- The state in which a record is to be committed: the declared one that it was given, or the
initial one if it was given none. -/
def Due (l : Live) (m : Machine) (id : RecordId) (column : String) (s : State) : Prop :=
  s ∈ m.states ∧ (l.value? id column = .some (.str s.name)
    ∨ l.Stateless id column ∧ m.stateAt (.str m.config.initial) = .ok s)

/-- The world stays, and the record has in its column what it had, or a declared state. -/
def Gives (W : Live → Prop) (m : Machine) (id : RecordId) (column : String) (l l' : Live) : Prop :=
  W l → W l' ∧ (l'.value? id column = l.value? id column ∨ l'.HasState m id column)

section

variable {W : Live → Prop} {m : Machine} {id : RecordId} {column : String} {l l' : Live}

theorem Ground.site (ground : Ground W m id) (held : m.config.column = .str column)
    (ordinary : ∀ {l}, W l → l.IsOrdinary id column) : Site W m id column where
  plain := ground.plain
  held
  ordinary
  written s w among isOpen := by
    obtain rfl | rfl : _ = column ∨ _ = committedAttribute := by simpa using among
    · exact ground.written w (.column held s) isOpen
    · exact ground.written w (.committed s) isOpen

theorem Stateless.congr (h : l.Stateless id column)
    (same : l'.value? id column = l.value? id column) : l'.Stateless id column := by
  rwa [Stateless, same]

theorem HasState.congr (h : l.HasState m id column)
    (same : l'.value? id column = l.value? id column) : l'.HasState m id column := by
  rwa [HasState, same]

instance (W : Live → Prop) (m : Machine) (id : RecordId) (column : String) :
    IsPreorder Live (Gives W m id column) where
  refl _ w := ⟨w, .inl rfl⟩
  trans _ _ _ h₁ h₂ w := by
    obtain ⟨w₁, first⟩ := h₁ w
    obtain ⟨w₂, same | given⟩ := h₂ w₁
    · exact ⟨w₂, first.imp same.trans (·.congr same)⟩
    · exact ⟨w₂, .inr given⟩

theorem Gives.hasState (gives : Gives W m id column l l') (w : W l) (h : l.HasState m id column) :
    l'.HasState m id column :=
  (gives w).2.elim h.congr fun given => given

/-- What spares the state gives none. -/
theorem Spares.gives (h : Spares W id (stateNames column) l l') : Gives W m id column l l' :=
  fun w => ⟨(h w).1, .inl ((h w).2 column (.head _))⟩

/-- To assign a declared state gives the record this state. -/
theorem Site.setAttr_gives (site : Site W m id column) (h : Host) {name : String} {v : Value}
    (gives : m.givesState column name v = true) :
    Keeps (Gives W m id column) (h.setAttr (.str name) v) := by
  obtain ⟨rfl, s, hs, rfl⟩ := Machine.givesState_eq_true gives
  intro l w
  obtain ⟨ho, ran⟩ | ⟨f, ran⟩ := Host.setAttr_run_text (h := h) (site.plain w) s.name
  · rw [Run.final_of_ok ran]
    exact ⟨site.written s.name w (.head _) ho, .inr ⟨s, hs, value?_assign_self ..⟩⟩
  · rw [Run.final_of_error ran]
    exact ⟨w, .inl rfl⟩

end

end Live

/-! ## Settling -/

namespace Engine

/-- To start a record in a state is to commit it there and then to run the actions of this state. -/
def startIn (e : Engine) (s : State) : Run Unit := do
  e.commit (.str s.name)
  e.entering .null s
  e.entered .null s

variable {e : Engine} {W : Live → Prop} {id : RecordId} {column : String}
  (site : Live.Site W e.machine id column)
include site

theorem currentState_run_of_value {l : Live} (w : W l) {v : Value}
    (found : (l.value? id column).getD .null = v) :
    e.currentState.run l = (e.host.asState v).run l := by
  have read := Host.attr_run_ordinary (h := e.host) (site.plain w) (site.ordinary w)
  rw [currentState, site.held, Run.run_bind_ok read, found]

theorem declaredState_run_of_stateless {l : Live} (w : W l) (h : l.Stateless id column) :
    e.declaredState.run l = .ok .null l := by
  have found : (l.value? id column).getD .null = .null := by
    obtain none | null := h
    · rw [none]
      rfl
    · rw [null]
      rfl
  rw [declaredState, Run.run_bind_ok (currentState_run_of_value site w found)]
  rfl

theorem declaredState_run_of_hasState {l : Live} (w : W l) {s : State} (hs : s ∈ e.machine.states)
    (h : l.value? id column = .some (.str s.name)) :
    e.declaredState.run l = .ok (.str s.name) l := by
  have found : (l.value? id column).getD .null = .str s.name := by
    rw [h]
    rfl
  have shown : e.currentState.run l = .ok (.str s.name) l := by
    rw [currentState_run_of_value site w found, Host.asState_str]
    rfl
  have known : e.machine.checkCurrent (.str s.name) = .ok (.str s.name) := by
    rw [Definition.checkCurrent, Definition.knows, Definition.declares_of_mem hs]
    rfl
  rw [declaredState, Run.run_bind_ok shown, known]
  rfl

variable (unwatched : e.watched = false)
include unwatched

/-- A commit that ends well puts the record into a state, and touches nothing else. -/
theorem isAt_of_commit {l l' : Live} (w : W l) {c : String}
    (h : (e.commit (.str c)).run l = .ok () l') : l'.IsAt W id column c
      ∧ ∀ name ∉ Live.stateNames column, l'.value? id name = l.value? id name := by
  have silent : (e.watch (.commit (.str c))).run l = .ok () l := by
    rw [watch, unwatched]
    rfl
  rw [commit, Run.run_bind_ok silent, site.held] at h
  obtain ⟨ho, first⟩ | ⟨f, first⟩ := Host.setAttr_run_text (h := e.host) (site.plain w) c
  · rw [Run.run_bind_ok first] at h
    have w₁ := site.written c w (by simp) ho
    have written := @Host.setAttr_run_text e.host _ _ committedAttribute (site.plain w₁) c
    obtain ⟨ho₁, second⟩ | ⟨f, second⟩ := written
    · cases second.symm.trans h
      refine ⟨⟨site.written c w₁ (by simp) ho₁, ?_, Live.value?_assign_self ..⟩, ?_⟩
      · by_cases hname : column = committedAttribute
        · rw [hname, Live.value?_assign_self]
        · rw [Live.value?_assign_other hname, Live.value?_assign_self]
      · intro name hname
        simp only [List.mem_cons, List.not_mem_nil, or_false, not_or] at hname
        rw [Live.value?_assign_other hname.2, Live.value?_assign_other hname.1]
    · cases second.symm.trans h
  · rw [Run.run_bind_error first] at h
    cases h

omit unwatched in
/-- A record with a declared state is committed in it. -/
theorem settle_run_of_hasState {l : Live} (w : W l) {s : State} (hs : s ∈ e.machine.states)
    (h : l.value? id column = .some (.str s.name)) :
    e.settle.run l = (e.commit (.str s.name)).run l := by
  have read := declaredState_run_of_hasState site w hs h
  have started : e.start.run l = .ok false l := by
    rw [start, Run.run_bind_ok read]
    rfl
  rw [settle, Run.run_bind_ok started, if_neg (by decide), Run.run_bind_ok read]

omit unwatched in
/-- A record without a state is started in the initial one. -/
theorem settle_run_of_stateless {l : Live} (w : W l) (h : l.Stateless id column) {s : State}
    (initial : e.machine.stateAt (.str e.machine.config.initial) = .ok s) :
    e.settle.run l = (e.startIn s).run l := by
  have read := declaredState_run_of_stateless site w h
  have started : e.start.run l = (do
      e.commit (.str s.name)
      e.entering .null s
      e.entered .null s
      return true : Run Bool).run l := by
    rw [start, Run.run_bind_ok read]
    simp only [initial]
    rw [Run.run_bind_ok (Run.run_lift_ok s l)]
  rw [settle, Run.run_bind_congr started, startIn]
  simp only [bind_assoc, pure_bind, if_true, bind_pure_unit]

/-- A record that is started in a state is in it where the actions leave it there. -/
theorem isAt_of_startIn {s : State}
    (acts : ∀ a ∈ s.enter.toList ++ s.after,
      Keeps (Live.Spares W id (Live.stateNames column)) (e.runAction .null a))
    {l l' : Live} (w : W l) (h : (e.startIn s).run l = .ok () l') :
    l'.IsAt W id column s.name := by
  obtain ⟨_, l₁, committed, h⟩ := Run.run_bind_eq_ok.mp h
  obtain ⟨at₁, -⟩ := isAt_of_commit site unwatched w committed
  have entering : Keeps (Live.Spares W id (Live.stateNames column)) (e.entering .null s) :=
    runActions_keeps _ fun a ha => acts a (List.mem_append_left _ ha)
  have entered : Keeps (Live.Spares W id (Live.stateNames column)) (e.entered .null s) :=
    runActions_keeps _ fun a ha => acts a (List.mem_append_right _ ha)
  have spared := (entering.bind fun _ => entered) l₁
  rw [Run.final_of_ok h] at spared
  exact at₁.spared spared

/-- To settle a record that has no state, or a declared one, puts it into a state. -/
theorem isAt_of_settle
    (acts : ∀ s, e.machine.stateAt (.str e.machine.config.initial) = .ok s →
      ∀ a ∈ s.enter.toList ++ s.after,
        Keeps (Live.Spares W id (Live.stateNames column)) (e.runAction .null a))
    {l l' : Live} (w : W l) (fit : l.Stateless id column ∨ l.HasState e.machine id column)
    (h : e.settle.run l = .ok () l') :
    ∃ s, l.Due e.machine id column s ∧ l'.IsAt W id column s.name := by
  obtain stateless | ⟨s, hs, given⟩ := fit
  · cases initial : e.machine.stateAt (.str e.machine.config.initial) with
    | error f =>
      have failed : e.start.run l = .error (.fault f) l := by
        rw [start, Run.run_bind_ok (declaredState_run_of_stateless site w stateless)]
        simp only [initial]
        rfl
      rw [settle, Run.run_bind_error failed] at h
      cases h
    | ok s =>
      rw [settle_run_of_stateless site w stateless initial] at h
      exact ⟨s, ⟨(Definition.stateAt_eq_ok initial).1, .inr ⟨stateless, initial⟩⟩,
        isAt_of_startIn site unwatched (acts s initial) w h⟩
  · rw [settle_run_of_hasState site w hs given] at h
    exact ⟨s, ⟨hs, .inl given⟩, (isAt_of_commit site unwatched w h).1⟩

end Engine

/-! ## Deeds -/

namespace Deed

/-- A deed where to settle the record is no more than to commit the state that it has. -/
def commit (e : Engine) (machine : MachineId) : Deed → Run Unit
  | work act => act
  | settle id => if id = machine then do e.commit (← e.declaredState) else pure ()

def commitAll (e : Engine) (machine : MachineId) : List Deed → Run Unit
  | [] => pure ()
  | d :: ds => do
    d.commit e machine
    commitAll e machine ds

theorem commitAll_append (e : Engine) (machine : MachineId) (ds more : List Deed) :
    commitAll e machine (ds ++ more)
      = (do commitAll e machine ds; commitAll e machine more) := by
  induction ds with
  | nil => rfl
  | cons d ds ih => simp only [List.cons_append, commitAll, ih, bind_assoc]

theorem runAll_works_keeps {h : Host} {P : Live → Live → Prop} [IsPreorder Live P] :
    ∀ {works : List (Run Unit)}, (∀ act ∈ works, Keeps P act) →
      Keeps P (runAll h (works.map .work))
  | [], _ => Keeps.pure ()
  | act :: _, keeps =>
    (keeps act (.head _)).bind fun _ => runAll_works_keeps fun act' mem => keeps act' (.tail _ mem)

/-- Work that commits nothing leaves a record committed where it was; and it leaves it there
altogether if it does not touch the column. -/
theorem runAll_works_of_isAt {h : Host} {W : Live → Prop} {id : RecordId} {column c : String}
    {works : List (Run Unit)}
    (keeps : ∀ act ∈ works, Keeps (Live.Spares W id [committedAttribute]) act) {l l' : Live}
    (at_ : l.IsAt W id column c) (ran : (runAll h (works.map .work)).run l = .ok () l') :
    W l' ∧ l'.value? id committedAttribute = .some (.str c)
      ∧ ((∀ act ∈ works, Keeps (Live.Spares W id [column]) act) → l'.IsAt W id column c) := by
  have spared := runAll_works_keeps (h := h) keeps l
  rw [Run.final_of_ok ran] at spared
  obtain ⟨w', same⟩ := spared at_.world
  have committed := (same _ (.head _)).trans at_.committed
  refine ⟨w', committed, fun untouched => ?_⟩
  have shown := runAll_works_keeps (h := h) untouched l
  rw [Run.final_of_ok ran] at shown
  exact ⟨w', ((shown at_.world).2 _ (.head _)).trans at_.shown, committed⟩

section

variable {h : Host} {m : Machine} {machine : MachineId} (bound : h.machine? machine = .some m)
  {W : Live → Prop} {id : RecordId} {column : String} (site : Live.Site W m id column)
  (governed : ∀ {l}, W l → l.line.machine? = .some machine)
include governed

theorem settle_run_of_ne {l : Live} (w : W l) {other : MachineId} (ne : other ≠ machine) :
    (h.settle other).run l = .ok () l := by
  have differs : (l.line.machine? == .some other) = false := by
    rw [governed w]
    simpa using ne.symm
  rw [Host.settle, Run.run_bind_ok (Run.run_get l), differs]
  rfl

include bound

theorem settle_run {l : Live} (w : W l) :
    (h.settle machine).run l = ({ host := h, machine := m } : Engine).settle.run l := by
  have same : (l.line.machine? == .some machine) = true := by
    rw [governed w]
    exact beq_self_eq_true _
  have found : (h.engine machine).run l = .ok { host := h, machine := m } l := by
    rw [Host.engine, Setting.machineAt, bound]
    rfl
  rw [Host.settle, Run.run_bind_ok (Run.run_get l), same, if_pos rfl, Run.run_bind_ok found]

include site

/-- Of a record that has a declared state, and wherever the record is not settled for the machine of
its line, all that is done is to commit the state that it has. -/
theorem runAll_run : ∀ {ds : List Deed} {l : Live}, W l →
    l.HasState m id column ∨ settle machine ∉ ds →
    (∀ act, work act ∈ ds → Keeps (Live.Gives W m id column) act) →
    (runAll h ds).run l = (commitAll { host := h, machine := m } machine ds).run l
  | [], _, _, _, _ => rfl
  | work act :: ds, l, w, fit, works => by
    refine Run.run_bind_congr_right fun _ l' ran => ?_
    have gives := works act (.head _) l
    rw [Run.final_of_ok (c := act) ran] at gives
    exact runAll_run (gives w).1 (fit.imp (gives.hasState w) fun absent mem => absent (.tail _ mem))
      fun act mem => works act (.tail _ mem)
  | settle other :: ds, l, w, fit, works => by
    let e : Engine := { host := h, machine := m }
    have rest := fun act (mem : work act ∈ ds) => works act (.tail _ mem)
    rw [runAll, commitAll, run]
    by_cases ours : other = machine
    · have settles : settle machine ∈ settle other :: ds := ours ▸ .head _
      obtain ⟨s, hs, given⟩ := fit.resolve_right fun absent => absent settles
      have left : (h.settle other).run l = (e.commit (.str s.name)).run l := by
        rw [ours, settle_run bound governed w]
        exact Engine.settle_run_of_hasState site w hs given
      have right : ((settle other).commit e machine).run l = (e.commit (.str s.name)).run l := by
        rw [commit, if_pos ours,
          Run.run_bind_ok (Engine.declaredState_run_of_hasState site w hs given)]
      rw [Run.run_bind_congr left, Run.run_bind_congr right]
      refine Run.run_bind_congr_right fun _ l' committed => ?_
      obtain ⟨at_, -⟩ := Engine.isAt_of_commit site rfl w committed
      exact runAll_run at_.world (.inl ⟨s, hs, at_.shown⟩) rest
    · rw [commit, if_neg ours, Run.run_bind_ok (settle_run_of_ne governed w ours), pure_bind]
      exact runAll_run w (fit.imp_right fun absent mem => absent (.tail _ mem)) rest

variable (acts : ∀ s, m.stateAt (.str m.config.initial) = .ok s → ∀ a ∈ s.enter.toList ++ s.after,
  Keeps (Live.Spares W id (Live.stateNames column))
    (({ host := h, machine := m } : Engine).runAction .null a))
include acts

/-- Some deeds that are done leave a record that has no state, or a declared one. -/
theorem runAll_fit : ∀ {ds : List Deed} {l l' : Live}, W l →
    l.Stateless id column ∨ l.HasState m id column →
    (∀ act, work act ∈ ds → Keeps (Live.Gives W m id column) act) →
    (runAll h ds).run l = .ok () l' →
    W l' ∧ (l'.Stateless id column ∨ l'.HasState m id column)
  | [], l, l', w, fit, _, ran => by
    cases ran
    exact ⟨w, fit⟩
  | work act :: ds, l, l', w, fit, works, ran => by
    obtain ⟨_, l₁, first, rest⟩ := Run.run_bind_eq_ok.mp ran
    have gives := works act (.head _) l
    rw [Run.final_of_ok (c := act) first] at gives
    obtain ⟨w₁, same | given⟩ := gives w
    · exact runAll_fit w₁ (fit.imp (·.congr same) (·.congr same))
        (fun act mem => works act (.tail _ mem)) rest
    · exact runAll_fit w₁ (.inr given) (fun act mem => works act (.tail _ mem)) rest
  | settle other :: ds, l, l', w, fit, works, ran => by
    have works' := fun act (mem : work act ∈ ds) => works act (.tail _ mem)
    obtain ⟨_, l₁, first, rest⟩ := Run.run_bind_eq_ok.mp ran
    rw [run] at first
    by_cases ours : other = machine
    · rw [ours, settle_run bound governed w] at first
      obtain ⟨s, ⟨hs, -⟩, at_⟩ := Engine.isAt_of_settle site rfl acts w fit first
      exact runAll_fit at_.world (.inr ⟨s, hs, at_.shown⟩) works' rest
    · cases first.symm.trans (settle_run_of_ne governed w ours)
      exact runAll_fit w fit works' rest

/-- If a record has a state by the time that it is settled for the first time, all that is done from
the beginning is to commit the state that it has. -/
theorem runAll_of_hasState {before after : List Deed} (absent : settle machine ∉ before)
    (works : ∀ act, work act ∈ before ++ settle machine :: after →
      Keeps (Live.Gives W m id column) act)
    {l l₁ : Live} (w : W l) (fit : l.Stateless id column ∨ l.HasState m id column)
    (reached : (runAll h before).run l = .ok () l₁) (given : l₁.HasState m id column) :
    let deeds := before ++ settle machine :: after
    (runAll h deeds).run l
      = (commitAll { host := h, machine := m } machine deeds).run l := by
  intro deeds
  have worksBefore := fun act (mem : work act ∈ before) => works act (List.mem_append_left _ mem)
  -- No action runs before the record is settled, and none after since it has a state by then.
  have first := runAll_run bound site governed w (.inr absent) worksBefore
  obtain ⟨w₁, -⟩ := runAll_fit bound site governed acts w fit worksBefore reached
  rw [runAll_append, commitAll_append, Run.run_bind_congr first]
  refine Run.run_bind_congr_right fun _ l₂ committed => ?_
  cases (first.symm.trans reached).symm.trans committed
  exact runAll_run bound site governed w₁ (.inl given)
    fun act mem => works act (List.mem_append_right _ mem)

end

section

variable {e : Engine} {machine : MachineId} {W : Live → Prop} {id : RecordId}

/-- Where the record is not settled for the machine there is nothing but the work. -/
theorem commitAll_spares {names : List String} : ∀ {ds : List Deed}, settle machine ∉ ds →
    (∀ act, work act ∈ ds → Keeps (Live.Spares W id names) act) →
    Keeps (Live.Spares W id names) (commitAll e machine ds)
  | [], _, _ => Keeps.pure ()
  | d :: ds, absent, works => by
    have rest := commitAll_spares (fun mem => absent (.tail _ mem))
      fun act mem => works act (.tail _ mem)
    refine Keeps.bind ?_ fun _ => rest
    cases d with
    | work act => exact works act (.head _)
    | settle other =>
      have ne : other ≠ machine := fun same => absent (same ▸ .head _)
      rw [commit, if_neg ne]
      exact Keeps.pure ()

/-- A record in a state is left in it where the work leaves it there. -/
theorem isAt_of_commitAll {column : String} (site : Live.Site W e.machine id column)
    (unwatched : e.watched = false) {s : State} (hs : s ∈ e.machine.states) :
    ∀ {ds : List Deed} {l l' : Live},
      (∀ act, work act ∈ ds → Keeps (Live.Spares W id (Live.stateNames column)) act) →
      l.IsAt W id column s.name → (commitAll e machine ds).run l = .ok () l' →
      l'.IsAt W id column s.name
  | [], l, l', _, at_, ran => by
    cases ran
    exact at_
  | d :: ds, l, l', works, at_, ran => by
    obtain ⟨_, l₁, first, rest⟩ := Run.run_bind_eq_ok.mp ran
    refine isAt_of_commitAll site unwatched hs (fun act mem => works act (.tail _ mem)) ?_ rest
    cases d with
    | work act =>
      have spared := works act (.head _) l
      rw [Run.final_of_ok (c := act) first] at spared
      exact at_.spared spared
    | settle other =>
      rw [commit] at first
      split at first
      · have read := Engine.declaredState_run_of_hasState site at_.world hs at_.shown
        rw [Run.run_bind_ok read] at first
        exact (Engine.isAt_of_commit site unwatched at_.world first).1
      · cases first
        exact at_

end

section

variable {h : Host} {m : Machine} {machine : MachineId} (bound : h.machine? machine = .some m)
  {W : Live → Prop} {id : RecordId} {column : String} (site : Live.Site W m id column)
  (governed : ∀ {l}, W l → l.line.machine? = .some machine) {s : State}
  (initial : m.stateAt (.str m.config.initial) = .ok s)
  (acts : ∀ a ∈ s.enter.toList ++ s.after, Keeps (Live.Spares W id (Live.stateNames column))
    (({ host := h, machine := m } : Engine).runAction .null a))
  {before after : List Deed} (absent : settle machine ∉ before)
  (works : ∀ act, work act ∈ before ++ settle machine :: after →
    Keeps (Live.Spares W id (Live.stateNames column)) act)
  {l : Live} (w : W l) (stateless : l.Stateless id column)

include absent works w stateless in
/-- Up to the first time that it is settled a record that was given no state has none. -/
theorem stateless_of_commitAll {e : Engine} {l' : Live}
    (ran : (commitAll e machine before).run l = .ok () l') : W l' ∧ l'.Stateless id column := by
  have spared := commitAll_spares (e := e) absent
    (fun act mem => works act (List.mem_append_left _ mem)) l
  rw [Run.final_of_ok ran] at spared
  obtain ⟨w', same⟩ := spared w
  exact ⟨w', stateless.congr (same column (.head _))⟩

include bound site governed initial acts absent works w stateless

/-- Of a record that has no state the deeds come down to one start in the initial state. -/
theorem runAll_of_stateless :
    let e : Engine := { host := h, machine := m }
    (runAll h (before ++ settle machine :: after)).run l = (do
      commitAll e machine before
      e.startIn s
      commitAll e machine after : Run Unit).run l := by
  intro e
  have first := runAll_run bound site governed w (.inr absent)
    fun act mem l => (works act (List.mem_append_left _ mem) l).gives
  rw [runAll_append, Run.run_bind_congr first]
  refine Run.run_bind_congr_right fun _ l₁ ran => ?_
  obtain ⟨w₁, stateless₁⟩ := stateless_of_commitAll absent works w stateless ran
  have second : (h.settle machine).run l₁ = (e.startIn s).run l₁ :=
    (settle_run bound governed w₁).trans
      (Engine.settle_run_of_stateless site w₁ stateless₁ initial)
  rw [runAll, run, Run.run_bind_congr second]
  refine Run.run_bind_congr_right fun _ l₂ ran => ?_
  have at_ := Engine.isAt_of_startIn (e := e) site rfl acts w₁ ran
  exact runAll_run bound site governed at_.world
    (.inl ⟨s, (Definition.stateAt_eq_ok initial).1, at_.shown⟩)
    fun act mem l => (works act (List.mem_append_right _ (.tail _ mem)) l).gives

/-- And this is where it is if all of them are done. -/
theorem isAt_of_runAll {l' : Live}
    (ran : (runAll h (before ++ settle machine :: after)).run l = .ok () l') :
    l'.IsAt W id column s.name := by
  let e : Engine := { host := h, machine := m }
  rw [runAll_of_stateless bound site governed initial acts absent works w stateless] at ran
  obtain ⟨_, l₁, first, ran⟩ := Run.run_bind_eq_ok.mp ran
  obtain ⟨_, l₂, second, third⟩ := Run.run_bind_eq_ok.mp ran
  obtain ⟨w₁, -⟩ := stateless_of_commitAll absent works w stateless first
  have at_ := Engine.isAt_of_startIn (e := e) site rfl acts w₁ second
  exact isAt_of_commitAll (e := e) site rfl (Definition.stateAt_eq_ok initial).1
    (fun act mem => works act (List.mem_append_right _ (.tail _ mem))) at_ third

end

end Deed

end Lifecycle
