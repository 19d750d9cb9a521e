/-
The committed state of a record: whatever user code does with all other
attributes, it is a state that the machine declares, and a fire that does not
move the record leaves it in that state.

There are four places that commit: the start, a transition, the constructor of a
governed class for a record that was given a state, and none of them commits a
state without having looked it up (`commit_tidy`, `settle_tidy`). What is put
back by a rollback is what was committed, so the same holds after it
(`rollback_tidy`), and the column shows it then (`rollback_shows`).

All this is about classes that leave the attributes of their records alone. One that
answers for what is not there can make up a committed state as well
(`Setting.committed_of_acts_haunted`).
-/
import Lifecycle.Proofs.Declarations
import Lifecycle.Proofs.Scripts

namespace Lifecycle

open Run (Keeps)

namespace Live

/-- A record has no committed state, or one that is declared. -/
def IsSound (l : Live) (m : Machine) (id : RecordId) : Prop :=
  l.value? id committedAttribute = .none
    ∨ ∃ s ∈ m.states, l.value? id committedAttribute = .some (.str s.name)

theorem IsSound.congr {l l' : Live} {m : Machine} {id : RecordId} (h : l.IsSound m id)
    (hv : l'.value? id committedAttribute = l.value? id committedAttribute) :
    l'.IsSound m id := by
  unfold IsSound
  rw [hv]
  exact h

/-- A world in which the committed state is declared, if there is one. -/
def Tidy (W : Live → Prop) (m : Machine) (id : RecordId) (l : Live) : Prop := W l ∧ l.IsSound m id

theorem Spares.tidy {W : Live → Prop} {m : Machine} {id : RecordId} {names : List String}
    (hc : committedAttribute ∈ names) {l l' : Live} (h : Spares W id names l l') :
    Along (Tidy W m id) l l' := by
  rintro ⟨w, sound⟩
  obtain ⟨w', same⟩ := h w
  exact ⟨w', sound.congr (same _ hc)⟩

end Live

namespace Engine

variable {e : Engine} {id : RecordId} {W : Live → Prop} {G : Callback → Prop}
  (world : Live.World W e id)
include world

/-- To write a declared state to the column or beside it leaves a tidy world. -/
theorem assign_tidy {l : Live} (t : Live.Tidy W e.machine id l) {name : String} {s : State}
    (hs : s ∈ e.machine.states) (puts : e.machine.Puts name (.str s.name))
    (ho : l.IsOpen id name) : Live.Tidy W e.machine id (l.assign id name (.str s.name)) := by
  refine ⟨world.written t.1 puts ho, ?_⟩
  by_cases hname : committedAttribute = name
  · right
    refine ⟨s, hs, ?_⟩
    rw [hname, Live.value?_assign_self]
  · exact t.2.congr (Live.value?_assign_other hname l id _)

theorem commit_tidy {s : State} (hs : s ∈ e.machine.states) :
    Keeps (Live.Along (Live.Tidy W e.machine id)) (e.commit (.str s.name)) := by
  intro l t
  obtain ⟨l₀, w₀, same, h⟩ := commit_run world.toGround t.1 s.name
  have t₀ : Live.Tidy W e.machine id l₀ := ⟨w₀, t.2.congr (same _)⟩
  rcases h with ⟨column, hc, ho, ho', h⟩ | ⟨column, f, hc, ho, h⟩ | ⟨f, h⟩
  · rw [Run.final_of_ok h]
    have t₁ := assign_tidy world t₀ hs (.column hc _) ho
    exact assign_tidy world t₁ hs (.committed _) (by simpa using ho')
  · rw [Run.final_of_error h]
    exact assign_tidy world t₀ hs (.column hc _) ho
  · rw [Run.final_of_error h]
    exact t₀

theorem rollback_tidy : Keeps (Live.Along (Live.Tidy W e.machine id)) e.rollback := by
  intro l t
  rcases t.2 with hnone | ⟨s, hs, hsome⟩
  · obtain ⟨log, h⟩ := rollback_run_none world.toGround t.1 hnone
    rw [Run.final_of_ok h]
    exact ⟨world.noted log t.1, t.2⟩
  · obtain ⟨l₀, w₀, same, h⟩ := rollback_run_some world t.1 hsome
    have t₀ : Live.Tidy W e.machine id l₀ := ⟨w₀, t.2.congr (same _)⟩
    rcases h with ⟨-, h⟩ | ⟨column, v, hc, ho, -, -, h⟩ | ⟨stop, h⟩
    · rw [Run.final_of_ok h]
      exact t₀
    · rw [Run.final_of_ok h]
      exact assign_tidy world t₀ hs (.column hc _) ho
    · rw [Run.final_of_error h]
      exact t₀

/-- A rollback that ends well leaves a committed record in its committed state. -/
theorem rollback_shows {l l' : Live} (t : Live.Tidy W e.machine id l)
    (h : e.rollback.run l = .ok () l') {v : Value}
    (hv : l'.value? id committedAttribute = .some v) :
    (∃ s ∈ e.machine.states, v = .str s.name) ∧ e.currentState.run l' = .ok v l' := by
  rcases t.2 with hnone | ⟨s, hs, hsome⟩
  · obtain ⟨log, hrun⟩ := rollback_run_none world.toGround t.1 hnone
    cases hrun.symm.trans h
    cases hnone.symm.trans hv
  · obtain ⟨l₀, w₀, same, hrun⟩ := rollback_run_some world t.1 hsome
    rcases hrun with ⟨shown, hrun⟩ | ⟨column, u, hc, ho, -, -, hrun⟩ | ⟨stop, hrun⟩
    · cases hrun.symm.trans h
      rw [same, hsome] at hv
      cases hv
      exact ⟨⟨s, hs, rfl⟩, shown⟩
    · cases hrun.symm.trans h
      have still : (l₀.assign id column (.str s.name)).value? id committedAttribute
          = .some (.str s.name) := by
        by_cases hname : committedAttribute = column
        · rw [hname, Live.value?_assign_self]
        · rw [Live.value?_assign_other hname, same, hsome]
      rw [still] at hv
      cases hv
      have ordinary : l₀.IsOrdinary id column := ho.isOrdinary
      exact ⟨⟨s, hs, rfl⟩, currentState_run ((world.plain w₀).assign _ _) (by simpa using ordinary)
        hc (Live.value?_assign_self ..)⟩
    · cases hrun.symm.trans h

theorem ownKeeps_tidy : e.OwnKeeps (Live.Along (Live.Tidy W e.machine id)) := by
  have quiet : e.QuietKeeps (Live.Spares W id [committedAttribute]) :=
    quietKeeps_spares world fun s _ field hf => by simpa using State.stampField_ne_committed hf
  exact {
    notes entry l := (quiet.notes entry l).tidy (.head _)
    reads l := (quiet.reads l).tidy (.head _)
    stamps s hs l := (quiet.stamps s hs l).tidy (.head _)
    commits s hs := commit_tidy world hs
    rollbacks := rollback_tidy world }

/-- A fire that does not move a committed record leaves it in its committed state. -/
theorem fire_false (users : e.UserKeeps G (Live.Along (Live.Tidy W e.machine id))) {name : String}
    {l l' : Live} (t : Live.Tidy W e.machine id l)
    (h : (e.fire (.str name)).run l = .ok false l') {v : Value}
    (hv : l'.value? id committedAttribute = .some v) :
    (∃ s ∈ e.machine.states, v = .str s.name) ∧ e.currentState.run l' = .ok v l' := by
  have own := ownKeeps_tidy world
  obtain ⟨ev, hev, h⟩ := fire_eq_ok h
  obtain ⟨old, l₁, hread, h⟩ := Run.run_bind_eq_ok.mp h
  have t₁ : Live.Tidy W e.machine id l₁ := Run.final_of_ok hread ▸ own.reads l t
  obtain ⟨moved, l₂, hfired, h⟩ := Run.run_bind_eq_ok.mp h
  have t₂ : Live.Tidy W e.machine id l₂ :=
    Run.final_of_ok hfired ▸ fireEvent_keeps own users (users.covers ev hev) l₁ t₁
  cases moved with
  | true =>
    obtain ⟨new, _, -, h⟩ := Run.run_bind_eq_ok.mp h
    obtain ⟨_, _, -, h⟩ := Run.run_bind_eq_ok.mp h
    cases h
  | false =>
    obtain ⟨_, l₃, hback, h⟩ := Run.run_bind_eq_ok.mp h
    cases h
    exact rollback_shows world t₂ hback hv

omit world in
/-- Candidates of which none moves the record were only looked at. -/
theorem performFirst_false {P : Live → Live → Prop} [IsPreorder Live P] (own : e.QuietKeeps P)
    (choice : e.ChoiceKeeps G P) {event : Value} : ∀ {ts : List Transition} {l l' : Live},
    (∀ t ∈ ts, ∀ g, t.guard = .some g → G g) →
    (e.performFirst event ts).run l = .ok false l' → P l l'
  | [], l, l', _, h => by
    cases h
    exact refl_of P l
  | t :: ts, l, l', guarded, h => by
    have prepared := prepare_keeps own choice event (guarded t (.head _)) l
    rw [performFirst, perform_eq, bind_assoc] at h
    obtain ⟨d, l₁, hprep, h⟩ := Run.run_bind_eq_ok.mp h
    rw [Run.final_of_ok hprep] at prepared
    cases d with
    | some d =>
      simp only [bind_assoc, pure_bind, if_true] at h
      obtain ⟨_, _, -, h⟩ := Run.run_bind_eq_ok.mp h
      obtain ⟨_, _, -, h⟩ := Run.run_bind_eq_ok.mp h
      cases h
    | none =>
      exact trans_of P prepared
        (performFirst_false own choice (fun u hu => guarded u (.tail _ hu)) h)

/-- A rollback leaves the committed state as it is. -/
theorem rollback_committed {l l' : Live} (w : W l) {c : String}
    (hc : l.value? id committedAttribute = .some (.str c)) (h : e.rollback.run l = .ok () l') :
    l'.value? id committedAttribute = .some (.str c) := by
  obtain ⟨l₀, w₀, same, ⟨-, hrun⟩ | ⟨column, v, -, -, -, -, hrun⟩ | ⟨stop, hrun⟩⟩ :=
    rollback_run_some world w hc
  · cases hrun.symm.trans h
    rw [same, hc]
  · cases hrun.symm.trans h
    by_cases hname : committedAttribute = column
    · rw [hname, Live.value?_assign_self]
    · rw [Live.value?_assign_other hname, same, hc]
  · cases hrun.symm.trans h

/-- A fire that does not move a committed record leaves it in the state in which it was committed,
where nothing that is asked before a commit touches that. -/
theorem fire_false_stays
    (choice : e.ChoiceKeeps G (Live.Spares W id [committedAttribute])) {name : String}
    {l l' : Live} (w : W l) {s : State} (hs : s ∈ e.machine.states)
    (hc : l.value? id committedAttribute = .some (.str s.name))
    (h : (e.fire (.str name)).run l = .ok false l') :
    l'.value? id committedAttribute = .some (.str s.name)
      ∧ e.currentState.run l' = .ok (.str s.name) l' := by
  have quiet : e.QuietKeeps (Live.Spares W id [committedAttribute]) :=
    quietKeeps_spares world fun s _ field hf => by simpa using State.stampField_ne_committed hf
  obtain ⟨ev, hev, found⟩ := fire_eq_ok h
  obtain ⟨old, l₁, hread, rest⟩ := Run.run_bind_eq_ok.mp found
  have same₁ : l₁ = l := (world.reads w).eq_of_ok hread
  rw [same₁] at rest
  obtain ⟨moved, l₂, hfired, rest⟩ := Run.run_bind_eq_ok.mp rest
  cases moved with
  | true =>
    obtain ⟨new, _, -, rest⟩ := Run.run_bind_eq_ok.mp rest
    obtain ⟨_, _, -, rest⟩ := Run.run_bind_eq_ok.mp rest
    cases rest
  | false =>
    obtain ⟨_, l₃, hback, rest⟩ := Run.run_bind_eq_ok.mp rest
    cases rest
    obtain ⟨ts, l₄, hts, hfired⟩ := Run.run_bind_eq_ok.mp hfired
    obtain ⟨current, l₅, hcurrent, hts⟩ := Run.run_bind_eq_ok.mp hts
    cases hts
    have same₄ : l₄ = l := (world.reads w).eq_of_ok hcurrent
    rw [same₄] at hfired
    have spared : Live.Spares W id [committedAttribute] l l₂ :=
      performFirst_false quiet choice (fun t ht g hg =>
        choice.covers ev hev g (Event.guard_mem (Event.mem_of_leaving ht).1 hg)) hfired
    obtain ⟨w₂, same⟩ := spared w
    have hc₂ := (same _ (.head _)).trans hc
    have hc₃ := rollback_committed world w₂ hc₂ hback
    exact ⟨hc₃, (rollback_shows world ⟨w₂, .inr ⟨s, hs, hc₂⟩⟩ hback hc₃).2⟩

/-- The constructor of a governed class commits the state that a record was given. -/
theorem settle_tidy (users : e.UserKeeps G (Live.Along (Live.Tidy W e.machine id))) :
    Keeps (Live.Along (Live.Tidy W e.machine id)) e.settle := by
  have own := ownKeeps_tidy world
  refine Keeps.bind_of (start_keeps own users) fun started l l' h t => ?_
  have t' : Live.Tidy W e.machine id l' := Run.final_of_ok h ▸ start_keeps own users l t
  cases started with
  | true => exact t'
  | false =>
    obtain ⟨rfl, s, hs, hread⟩ := start_false (world.reads t.1) h
    rw [if_neg (by decide), Run.final_bind_ok hread]
    exact commit_tidy world hs l' t

end Engine

/-! ## Runs -/

namespace Setting

variable {s : Setting} {m : Machine} {machine : MachineId} {W : Live → Prop} {id : RecordId}
  {G : Callback → Prop}

/-- One step of a run on a record: an operation of the machine, on an engine that lets any number of
requests wait, the construction of the record by a class that the machine governs, or something that
is done beside the machine, such as to set or to erase another attribute (`Host.setAttr_spares`,
`Host.delAttr_spares`). What the engine does by itself in the middle of an operation is a step as
well: a run may end where user code fires an event. -/
inductive Act (s : Setting) (m : Machine) (machine : MachineId) (W : Live → Prop) (id : RecordId)
    (G : Callback → Prop) : Live → Live → Prop where
  | construct {n : Nat} {inner : Member} {source owner : ClassId} {name : String}
    {args : Arguments} {base : ClassId → Run Value}
    (h : Keeps (s.Conduct m W id [committedAttribute] n)
      (inner.call (s.hostAt n) name args base source)) (l : Live) :
    Act s m machine W id G l
      (((Member.governed inner source machine).call (s.hostAt n) name args base owner).final l)
  | start (n : Nat) (l : Live) : Act s m machine W id G l ((s.engineAt m n).start.final l)
  | fire (n : Nat) (event : String) (l : Live) :
    Act s m machine W id G l (((s.engineAt m n).fire (.str event)).final l)
  | fireEvent (n : Nat) {ev : Event} (h : ∀ g ∈ ev.guards, G g) (l : Live) :
    Act s m machine W id G l (((s.engineAt m n).fireEvent ev).final l)
  | perform (n : Nat) (event : Value) {t : Transition} (h : ∀ g, t.guard = .some g → G g)
    (l : Live) : Act s m machine W id G l (((s.engineAt m n).perform event t).final l)
  | own {n : Nat} {l l' : Live} (h : (s.engineAt m n).OwnStep l l') : Act s m machine W id G l l'
  | aside {l l' : Live} (h : Live.Spares W id [committedAttribute] l l') :
    Act s m machine W id G l l'

/-- The constructor of a governed class keeps what the one that it wraps keeps, and settles. -/
theorem governed_keeps {P : Live → Live → Prop} [IsPreorder Live P]
    (hm : s.machine? machine = .some m) {n : Nat} {inner : Member} {source owner : ClassId}
    {name : String} {args : Arguments} {base : ClassId → Run Value}
    (hi : Keeps P (inner.call (s.hostAt n) name args base source))
    (hs : Keeps P (s.engineAt m n).settle) :
    Keeps P ((Member.governed inner source machine).call (s.hostAt n) name args base owner) := by
  have settled : Keeps P ((s.hostAt n).settle machine) := fun l => by
    rw [Host.settle, Run.final_bind_ok (Run.run_get l)]
    split
    · rw [Run.final_bind_ok (engine_run hm n l)]
      exact hs l
    · exact refl_of P l
  rw [Member.call]
  split
  · exact Keeps.fail _
  · exact hi.bind fun _ => settled.bind fun _ => Keeps.pure _

/-- After every run the committed state is declared, if there is one; and if a fire does not move a
record then that is committed in the end, the record is in its committed state. -/
theorem committed_of_acts (hm : s.machine? machine = .some m)
    (world : ∀ n, Live.World W (s.engineAt m n) id)
    (users : ∀ n, (s.engineAt m n).UserKeeps G (s.Conduct m W id [committedAttribute] n))
    {l₀ l : Live} (w : W l₀) (fresh : l₀.value? id committedAttribute = .none)
    (run : Relation.ReflTransGen (s.Act m machine W id G) l₀ l) :
    l.IsSound m id ∧ ∀ n event l' v, ((s.engineAt m n).fire (.str event)).run l = .ok false l' →
      l'.value? id committedAttribute = .some v →
        (∃ st ∈ m.states, v = .str st.name)
          ∧ (s.engineAt m n).currentState.run l' = .ok v l' := by
  have own (n : Nat) : (s.engineAt m n).OwnKeeps (Live.Along (Live.Tidy W m id)) :=
    Engine.ownKeeps_tidy (world n)
  have spares (l l' : Live) (h : Live.Spares W id [committedAttribute] l l') :
      Live.Along (Live.Tidy W m id) l l' := h.tidy (.head _)
  have keeps := userKeeps_of_conduct own spares users
  have fires (n : Nat) (event : String) := Engine.fire_keeps (own n) (keeps n) event
  have tidy : Live.Tidy W m id l := by
    induction run with
    | refl => exact ⟨w, .inl fresh⟩
    | tail _ act t =>
      cases act with
      | construct h =>
        have inner := fun l => (h l).within spares fun k _ event => fires k event
        exact governed_keeps hm inner (Engine.settle_tidy (world _) (keeps _)) _ t
      | start n => exact Engine.start_keeps (own n) (keeps n) _ t
      | fire n event => exact fires n event _ t
      | fireEvent n h => exact Engine.fireEvent_keeps (own n) (keeps n) h _ t
      | perform n event h => exact Engine.perform_keeps (own n) (keeps n) event h _ t
      | own h => exact (own _).step h t
      | aside h => exact spares _ _ h t
  exact ⟨tidy.2, fun n event l' v h hv => Engine.fire_false (world n) (keeps n) tidy h hv⟩

end Setting

/-! ## A meddling guard -/

/-- A machine whose guard fires an event, puts the record into a state that nobody declared, and
then does not allow its own transition. -/
def Machine.meddled : Machine where
  config := { initial := "a" }
  states := [{ name := "a" }, { name := "b" }, { name := "c" }]
  events := [
    { name := "side", transitions := [{ source := "a", target := "c" }] },
    { name := "go", transitions := [{
      source := "a"
      target := "b"
      guard := .some (.script
        (.step (.eval (.fire "m" "side"))
          (.step (.set "state" (.lit "nowhere")) (.give (.lit (.bool false)))))) }] }]
  registry := .standard

def Scene.meddled : Scene :=
  .plain {
      machine? := fun id => if id = 0 then .some Machine.meddled else .none
      named? := fun name => if name = "m" then .some 0 else .none }
    .meddled 0 [committedAttribute]

theorem Scene.meddled_isFit : Scene.meddled.IsFit :=
  Scene.plain_isFit rfl fun h => absurd (Value.str.inj h) (by decide)

theorem Scene.meddled_isTame : Machine.meddled.IsTame Scene.meddled where
  enters := by decide
  acts := by decide
  guards := by decide
  observers := by decide
  rules := rfl

/-- Even so, the record is in its committed state in the end. -/
theorem committed_of_acts_meddled :
    let e := Scene.meddled.setting.engineAt .meddled 3
    let l := (e.fire "go").final (e.start.final Live.blank)
    l.IsSound .meddled 0 ∧ ∀ n event l' v,
      ((Scene.meddled.setting.engineAt .meddled n).fire (.str event)).run l = .ok false l' →
        l'.value? 0 committedAttribute = .some v →
          (∃ st ∈ Machine.meddled.states, v = .str st.name)
            ∧ (Scene.meddled.setting.engineAt .meddled n).currentState.run l' = .ok v l' :=
  Setting.committed_of_acts Scene.meddled_isFit.bound (Scene.world_of_fit Scene.meddled_isFit)
    (Scene.users Scene.meddled_isFit (by decide) Scene.meddled_isTame) Scene.blank_plain
    (by decide)
    ((Relation.ReflTransGen.single (.start 3 Live.blank)).tail (.fire 3 "go" _))

/-! ## A class that answers for what is not there -/

/-- A guard that raises a flag on the record, and does not pass. -/
def Callback.flagging : Callback := .script (.step (.set "flag" (.lit (.bool true))) .done)

/-- The way from `a` to `b` that it keeps shut. -/
def Transition.flagged : Transition := { source := "a", target := "b", guard := .some .flagging }

def Event.flagged : Event := { name := "go", transitions := [.flagged] }

def Draft.Call.flagged : List Draft.Call := [
  .declareState "a" .none .none .none .none,
  .declareState "b" .none .none .none .none,
  .openEvent "go" ∅,
  .addEdges 0 { target := "b", sources := .ok ["a"], guard := .some .flagging },
  .leaveBlock 0 false,
  .build]

def Machine.flagged : Machine where
  config := { initial := "a" }
  states := [{ name := "a" }, { name := "b" }]
  events := [.flagged]
  registry := .standard

/-- A method that says `nowhere` once the flag is raised, and before that that there is nothing. -/
def Script.haunting : Script :=
  .branch (.attr "flag") (.give (.lit "nowhere")) .done (.step (.raise .attribute "none") .done)

/-- A class that asks this method for all that its records do not have. -/
def Class.haunted : ClassBody := Class.top [(Hook.missing.name, .method .required .haunting)]

/-- A record of it, with a flag and a state. -/
def Live.haunted (flag : Bool) (state : Value) : Live :=
  ((Live.newOf Class.haunted).assign 0 "flag" (.bool flag)).assign 0 "state" state

/-! A class may answer for what a record does not have. -/

namespace Host

variable {h : Host} {id : RecordId} {own : Run (Option Value)} {name : String} {l l' : Live}

theorem readBy_run_of_missing {hook : Value} (unread : l.hook? id .read = .none)
    (asks : l.hook? id .missing = .some hook) (absent : own.run l = .ok .none l) :
    (h.readBy id own name).run l = (h.answer (.call hook [.str name])).run l := by
  rw [readBy, Run.run_bind_ok (Run.run_get l)]
  simp only [unread, asks]
  rw [Run.run_tryCatch_error (Run.run_bind_ok absent _)]
  rfl

theorem look?_run_of_answered {v : Value} (hooked : l.hooksReads id = true)
    (read : (h.readBy id own name).run l = .ok v l') :
    (h.look? id own name).run l = .ok (.some v) l' := by
  rw [look?, Run.run_bind_ok (Run.run_get l), if_pos hooked]
  refine Run.run_tryCatch_ok ?_ _
  rw [Run.run_bind_ok read]
  rfl

theorem look?_run_of_missing {stop : Stop} (hooked : l.hooksReads id = true)
    (missing : stop.isMissing = true) (stops : (h.readBy id own name).run l = .error stop l') :
    (h.look? id own name).run l = .ok .none l' := by
  rw [look?, Run.run_bind_ok (Run.run_get l), if_pos hooked,
    Run.run_tryCatch_error (Run.run_bind_error stops _), if_pos missing]
  rfl

end Host

namespace Engine

def flagged : Engine :=
  ({ machine? := fun id => if id = 0 then .some .flagged else .none } : Setting).engineAt .flagged 3

/-- What the record answers for what it does not have, as the engine sees it. -/
theorem haunted_look (flag : Bool) {state : Value} {name : String}
    (missing : (flagged.host.recordOwn? 0 name).run (Live.haunted flag state)
      = .ok .none (Live.haunted flag state)) :
    (flagged.host.attr? (.str name)).run (Live.haunted flag state)
      = .ok (if flag then .some "nowhere" else .none) (Live.haunted flag state) := by
  let l := Live.haunted flag state
  have lasting : l.hasFarewells = false := rfl
  let hook : Value := .method (.record 0) 3 Hook.missing.name 0
  let h : Host := { toSetting := flagged.host.toSetting, answer := flagged.host.toSetting.answer 2 }
  have tested : (h.passing do
      let v ← (Expr.attr "flag").eval h [.str name]
      h.truth v).run l = .ok flag l := by
    have read : (h.attr "flag").run l = .ok (.bool flag) l := rfl
    rw [Host.passing_run lasting, Expr.eval,
      Run.run_bind_ok ((Host.working_run lasting [] _).trans read)]
    exact Host.truth_run_bool flag
  have served : (flagged.host.answer (.call hook [.str name])).run l
      = (h.call hook [.str name]).run l := Host.working_run lasting _ _
  have asked : (flagged.host.readBy 0 (flagged.host.recordOwn? 0 name) name).run l
      = (Run.as (.record 0) (Script.haunting.call h [.str name])).run l :=
    (Host.readBy_run_of_missing rfl rfl missing).trans served
  cases flag with
  | true =>
    have called : (Script.haunting.call h [.str name]).run l = .ok "nowhere" l := by
      rw [Script.haunting, Script.call, Script.run, bind_assoc, Run.run_bind_ok tested, if_pos rfl,
        Script.run, Expr.eval]
      rfl
    exact Host.look?_run_of_answered rfl (asked.trans (Run.as_run_ok called))
  | false =>
    have called : (Script.haunting.call h [.str name]).run l
        = .error (.fault (.raised .attribute "none")) l := by
      rw [Script.haunting, Script.call, Script.run, bind_assoc, Run.run_bind_ok tested]
      rfl
    exact Host.look?_run_of_missing rfl rfl (asked.trans (Run.as_run_error called))

/-- The guard raises the flag. -/
theorem haunted_stays : (flagged.fireEvent .flagged).run (Live.haunted false "a")
    = .ok false (Live.haunted true "a") := by
  have lasting : (Live.haunted false "a").hasFarewells = false := rfl
  have shown : flagged.currentState.run (Live.haunted false "a")
      = .ok "a" (Live.haunted false "a") := currentState_run_of_attr rfl
  have unchecked : (flagged.host.attr (.str "is_valid")).run (Live.haunted false "a")
      = .ok .null (Live.haunted false "a") := Run.run_bind_ok (haunted_look false rfl) _
  have checked : (flagged.check "go").run (Live.haunted false "a")
      = .ok true (Live.haunted false "a") := Run.run_bind_ok unchecked _
  have valid : (flagged.isValid "go").run (Live.haunted false "a")
      = .ok true (Live.haunted false "a") := Run.run_bind_ok checked _
  have raised : ((Step.set "flag" (.lit (.bool true))).run flagged.host []).run
      (Live.haunted false "a") = .ok () (Live.haunted true "a") := by
    rw [Step.run, Host.passing_run lasting, Expr.eval]
    rfl
  have guarded : (flagged.runAction "go" .flagging).run (Live.haunted false "a")
      = .ok .null (Live.haunted true "a") := by
    refine (Host.working_run lasting [] _).trans ?_
    rw [Script.call, Script.run, bind_assoc, Run.run_bind_ok raised]
    rfl
  have refused : (flagged.allows "go" .flagged).run (Live.haunted false "a")
      = .ok false (Live.haunted true "a") := by
    have weighed : (flagged.host.truth .null).run (Live.haunted true "a")
        = .ok false (Live.haunted true "a") :=
      (Host.truth_run rfl rfl).trans (by rw [Live.settle_null]; rfl)
    exact (Run.run_bind_ok valid _).trans ((Run.run_bind_ok guarded _).trans weighed)
  have idle : (flagged.perform "go" .flagged).run (Live.haunted false "a")
      = .ok false (Live.haunted true "a") := Run.run_bind_ok refused _
  have candidates : (flagged.nextTransitions .flagged).run (Live.haunted false "a")
      = .ok [.flagged] (Live.haunted false "a") := Run.run_bind_ok shown _
  exact (Run.run_bind_ok candidates _).trans (Run.run_bind_ok idle _)

/-- Then the record says that it was committed, and is put into a state that nobody declared. -/
theorem haunted_fire : (flagged.fire "go").run (Live.haunted false "a")
    = .ok false (Live.haunted true "nowhere") := by
  have shown (flag : Bool) : flagged.currentState.run (Live.haunted flag "a")
      = .ok "a" (Live.haunted flag "a") := currentState_run_of_attr rfl
  have found : flagged.machine.event? "go" = .some .flagged := rfl
  have has : (flagged.host.hasAttr (.str committedAttribute)).run (Live.haunted true "a")
      = .ok true (Live.haunted true "a") := Run.run_bind_ok (haunted_look true rfl) _
  have committed : flagged.committed.run (Live.haunted true "a")
      = .ok "nowhere" (Live.haunted true "a") := Run.run_bind_ok (haunted_look true rfl) _
  have back : flagged.rollback.run (Live.haunted true "a")
      = .ok () (Live.haunted true "nowhere") := by
    rw [rollback, show flagged.watch .rollback = pure () from rfl, pure_bind,
      Run.run_bind_ok has, if_pos rfl, Run.run_bind_ok committed, Run.run_bind_ok (shown true),
      Run.run_bind_ok (Host.differ_run rfl rfl), if_pos (by rfl)]
    rfl
  rw [fire_eq, Definition.eventNamed_of_some found, Run.run_bind_ok (Run.run_lift_ok _ _),
    fireFound, Run.run_bind_ok (shown false), Run.run_bind_ok haunted_stays,
    if_neg Bool.false_ne_true, Run.run_bind_ok back]
  rfl

end Engine

/-- A record has no committed state, and gets one that is not declared, though nobody writes it: its
class makes it up, or it comes with all attributes at once. -/
theorem Setting.committed_of_acts_haunted :
    let e := Engine.flagged
    let l := Live.haunted false "a"
    let l' := Live.haunted true "nowhere"
    (Draft.afterAll Draft.Call.flagged { config := { initial := "a" } }).machine? = .some e.machine
      ∧ (e.host.hasAttr (.str committedAttribute)).run l = .ok false l
      ∧ (e.fire "go").run l = .ok false l'
      ∧ (e.host.attr (.str committedAttribute)).run l' = .ok "nowhere" l'
      ∧ (∃ l'', (e.host.setAttr "__dict__" (.obj [(committedAttribute, "nowhere")])).run Live.blank
          = .ok () l'' ∧ l''.value? 0 committedAttribute = .some "nowhere")
      ∧ e.machine.declares "nowhere" = false := by
  intro e l l'
  exact ⟨rfl, Run.run_bind_ok (Engine.haunted_look false rfl) _, Engine.haunted_fire,
    Run.run_bind_ok (Engine.haunted_look true rfl) _, ⟨_, rfl, rfl⟩, rfl⟩

end Lifecycle
