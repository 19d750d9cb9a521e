/-
Worlds: what is true of everything around a record, and what the engine does in
one by its own steps.

A predicate `W` is the ground for a machine and a record (`Live.Ground`) if the
record is plain and `W` stays true under what the machine itself writes
(`Machine.Puts`). What else it says is left open: `W` is also the place for what
user code keeps true of the record. It is a world for an engine (`Live.World`)
if the engine can besides read the state without any effect: this is so where
the column never has anything but texts, whatever classes there are, and where
no class has a say in how values are written (`Engine.world_of_quiet`).

Stamps stay within their fields (`stampExit_spares`), a commit within the column
and the committed attribute (`commit_run`), and so does a rollback, which ends
with the column showing the committed state if it ends well
(`rollback_run_some`).
-/
import Lifecycle.Proofs.Keeping
import Lifecycle.Proofs.Quiet

namespace Lifecycle

open Run (Keeps)

/-! ## What a machine writes -/

/-- The fields that are stamped when a state is left. -/
def State.stampFields (s : State) : List String :=
  [s.name ++ "_created_at", s.name ++ "_created_on", s.name ++ "_updated_at",
    s.name ++ "_updated_on"]

/-- Whether an attribute is one of those that a machine writes. -/
def Machine.Writes (m : Machine) (name : String) : Prop :=
  name = committedAttribute ∨ m.config.column = .str name ∨ ∃ s ∈ m.states, name ∈ s.stampFields

theorem committedAttribute_not_taken : committedAttribute ∉ Live.takenNames := by decide

/-- What tells the fields with stamps from all other attributes of a record that anybody knows. -/
theorem State.stampField_getLast? {s : State} {field : String} (h : field ∈ s.stampFields) :
    field.toList.getLast? = .some 't' ∨ field.toList.getLast? = .some 'n' := by
  have last (suffix : String) (c : Char) (hc : suffix.toList.getLast? = .some c) :
      (s.name ++ suffix).toList.getLast? = .some c := by
    rw [String.toList_append, List.getLast?_append, hc]
    rfl
  simp only [stampFields, List.mem_cons, List.not_mem_nil, or_false] at h
  rcases h with rfl | rfl | rfl | rfl
  · exact .inl (last _ _ (by decide))
  · exact .inr (last _ _ (by decide))
  · exact .inl (last _ _ (by decide))
  · exact .inr (last _ _ (by decide))

/-- Nobody but the record answers for a field with a stamp. -/
theorem State.stampField_not_taken {s : State} {field : String} (h : field ∈ s.stampFields) :
    field ∉ Live.takenNames := by
  intro hmem
  have others : ∀ name ∈ Live.takenNames,
      name.toList.getLast? ≠ .some 't' ∧ name.toList.getLast? ≠ .some 'n' := by decide
  obtain ⟨ht, hn⟩ := others field hmem
  exact (stampField_getLast? h).elim ht hn

theorem State.stampField_ne_committed {s : State} {field : String} (h : field ∈ s.stampFields) :
    field ≠ committedAttribute := by
  rintro rfl
  have other : committedAttribute.toList.getLast? ≠ .some 't'
      ∧ committedAttribute.toList.getLast? ≠ .some 'n' := by decide
  exact (stampField_getLast? h).elim other.1 other.2

/-- A machine writes no attribute but its column that does not end like a stamp. -/
theorem Machine.not_writes {m : Machine} {name : String} (hc : name ≠ committedAttribute)
    (hcol : m.config.column ≠ .str name)
    (hlast : name.toList.getLast? ≠ .some 't' ∧ name.toList.getLast? ≠ .some 'n') :
    ¬ m.Writes name := by
  rintro (h | h | ⟨s, -, h⟩)
  · exact hc h
  · exact hcol h
  · exact (State.stampField_getLast? h).elim hlast.1 hlast.2

/-- What a machine writes to a record by itself, and where: states, and the time at which one was
left. -/
inductive Machine.Puts (m : Machine) : String → Value → Prop where
  | committed (s : String) : Puts m committedAttribute (.str s)
  | column {column : String} (held : m.config.column = .str column) (s : String) :
    Puts m column (.str s)
  | stamp {s : State} {field : String} (hs : s ∈ m.states) (hf : field ∈ s.stampFields)
    (v : Value) : Puts m field v

theorem Machine.Puts.writes {m : Machine} {name : String} {v : Value} (h : m.Puts name v) :
    m.Writes name := by
  cases h with
  | committed => exact .inl rfl
  | column held => exact .inr (.inl held)
  | stamp hs hf => exact .inr (.inr ⟨_, hs, hf⟩)

/-! ## Worlds -/

namespace Live

/-- Classes leave the use of the record's attributes to the library, and what the machine writes
changes nothing else. -/
structure Ground (W : Live → Prop) (m : Machine) (id : RecordId) : Prop where
  plain : ∀ {l}, W l → l.Plain id
  noted : ∀ {l} log, W l → W { l with log }
  ticked : ∀ {l} reads, W l → W { l with reads }
  written : ∀ {l name v}, W l → m.Puts name v → l.IsOpen id name → W (l.assign id name v)
  /-- What was committed once can be put back, whatever has happened since. -/
  restored : ∀ {l l' column v}, W l → l.value? id committedAttribute = .some v → W l' →
    m.config.column = .str column → l'.IsOpen id column → W (l'.assign id column v)

/-- The engine can besides read the state of the record without any effect. -/
structure World (W : Live → Prop) (e : Engine) (id : RecordId) : Prop
    extends Ground W e.machine id where
  reads : ∀ {l}, W l → e.currentState.Idle l

/-- The world stays as it is, and so does what the record has under some names. -/
def Spares (W : Live → Prop) (id : RecordId) (names : List String) (l l' : Live) : Prop :=
  W l → W l' ∧ ∀ name ∈ names, l'.value? id name = l.value? id name

instance (W : Live → Prop) (id : RecordId) (names : List String) :
    IsPreorder Live (Spares W id names) where
  refl _ h := ⟨h, fun _ _ => rfl⟩
  trans _ _ _ h₁ h₂ h := by
    obtain ⟨w₁, same₁⟩ := h₁ h
    obtain ⟨w₂, same₂⟩ := h₂ w₁
    exact ⟨w₂, fun name hn => (same₂ name hn).trans (same₁ name hn)⟩

/-- What changes nothing in a world spares everything. -/
theorem Spares.of_idle {α : Type} {W : Live → Prop} {id : RecordId} {names : List String}
    {x : Run α} (h : ∀ l, W l → x.Idle l) : Keeps (Spares W id names) x := by
  intro l w
  rw [h l w]
  exact ⟨w, fun _ _ => rfl⟩

theorem Spares.mono {W : Live → Prop} {id : RecordId} {names fewer : List String} {l l' : Live}
    (h : Spares W id names l l') (hsub : ∀ name ∈ fewer, name ∈ names) :
    Spares W id fewer l l' := fun w =>
  ⟨(h w).1, fun name hn => (h w).2 name (hsub name hn)⟩

end Live

namespace Host

variable {h : Host} {l : Live} {id : RecordId}

/-! ## Reading -/

theorem plain?_idle (name : String) : (h.plain? id name).Idle l := by
  rw [plain?, Run.Idle, Run.final_bind_ok (Run.run_get l)]
  split <;> rfl

theorem stateFor_idle (hp : l.Plain id) (hq : l.Quiet) (m : Machine) :
    (h.stateFor id m).Idle l := by
  rw [stateFor]
  split
  · next column _ =>
    have looked : (h.look? id (h.plain? id column) column).Idle l :=
      (Run.final_congr (look?_run hp.hooksReads _ _)).trans (plain?_idle column)
    refine looked.bind fun v => ?_
    refine (asState_idle hq _).bind fun w => ?_
    cases m.checkCurrent w <;> rfl
  · rfl

theorem attr?_idle (hp : l.Plain id) (hq : l.Quiet) (name : Value) : (h.attr? name).Idle l := by
  cases name with
  | str name =>
    have own : (h.recordOwn? id name).Idle l := by
      rw [recordOwn?, Run.Idle, Run.final_bind_ok (Run.run_get l)]
      split
      · next machine _ =>
        have found : (Run.liftStop (h.machineAt machine)).Idle l := by
          cases h.machineAt machine <;> rfl
        exact found.bind fun m => (stateFor_idle hp hq m).bind fun _ => rfl
      · exact plain?_idle name
    rw [attr?, Run.Idle, Run.final_bind_ok (Run.run_get l)]
    simp only [hp.self]
    exact (Run.final_congr (look?_run hp.hooksReads _ _)).trans own
  | _ => rfl

theorem require_run_ordinary {name : String} (hp : l.Plain id) (ho : l.IsOrdinary id name) :
    (h.require (.str name)).run l = match l.value? id name with
      | .some v => .ok v l
      | .none => .error (.fault (.attributeMissing (.record id) name)) l := by
  have own : (h.recordOwn? id name).run l = .ok (l.value? id name) l := by
    have found := attr?_run_ordinary (h := h) hp ho
    rw [attr?, Run.run_bind_ok (Run.run_get l)] at found
    simp only [hp.self] at found
    rw [look?_run hp.hooksReads] at found
    exact found
  rw [require, Run.run_bind_ok (Run.run_get l)]
  simp only [hp.self]
  rw [readBy, Run.run_bind_ok (Run.run_get l)]
  simp only [hp.hooks]
  rw [Run.run_bind_ok own]
  cases l.value? id name <;> rfl

end Host

namespace Host

/-! ## Writing -/

variable {h : Host} {W : Live → Prop} {id : RecordId} {names : List String} {name : String}
  (plain : ∀ {l}, W l → l.Plain id) (ht : name ∉ Live.takenNames) (hn : name ∉ names)
include plain ht hn

/-- To set another attribute spares those that are named, where the world allows it. -/
theorem setAttr_spares {v : Value}
    (kept : ∀ {l}, W l → l.IsOpen id name → W (l.assign id name v)) :
    Keeps (Live.Spares W id names) (h.setAttr (.str name) v) := by
  intro l w
  rcases setAttr_run_ordinary (h := h) (plain w) ((plain w).names name ht) v with ⟨ho, hr⟩ | ⟨f, hr⟩
  · rw [Run.final_of_ok hr]
    refine ⟨kept w ho, fun other ho => ?_⟩
    exact Live.value?_assign_other (fun heq : other = name => hn (heq ▸ ho)) l id v
  · rw [Run.final_of_error hr]
    exact ⟨w, fun _ _ => rfl⟩

/-- The same of erasing one. -/
theorem delAttr_spares (kept : ∀ {l}, W l → W (l.discarded id name)) :
    Keeps (Live.Spares W id names) (h.delAttr (.str name)) := by
  intro l w
  rcases delAttr_run_ordinary (h := h) (plain w) ((plain w).names name ht) with hr | ⟨f, hr⟩
  · rw [Run.final_of_ok hr]
    refine ⟨kept w, fun other ho => ?_⟩
    exact Live.value?_discarded_other (fun heq : other = name => hn (heq ▸ ho)) l id
  · rw [Run.final_of_error hr]
    exact ⟨w, fun _ _ => rfl⟩

end Host

namespace Engine

variable {e : Engine} {l : Live} {id : RecordId}

theorem currentState_idle (hp : l.Plain id) (hq : l.Quiet) : e.currentState.Idle l := by
  have read : (e.host.attr e.machine.config.column).Idle l :=
    (Host.attr?_idle hp hq _).bind fun _ => rfl
  exact read.bind fun v => Host.asState_idle hq v

/-- Where no class has a say in how values are written, the state is read without any effect. -/
theorem world_of_quiet {W : Live → Prop}
    (ground : Live.Ground W e.machine id) (quiet : ∀ {l}, W l → l.Quiet) : Live.World W e id where
  toGround := ground
  reads w := currentState_idle (ground.plain w) (quiet w)

theorem isState_of_currentState {v : Value} {l' : Live} (h : e.currentState.run l = .ok v l') :
    v.isState = true := by
  obtain ⟨held, m, -, hshow⟩ := Run.run_bind_eq_ok.mp h
  exact Host.isState_of_asState hshow

theorem currentState_run_of_attr {s : String} {l' : Live}
    (read : (e.host.attr e.machine.config.column).run l = .ok (.str s) l') :
    e.currentState.run l = .ok (.str s) l' := by
  rw [currentState, Run.run_bind_ok read, Host.asState_str]
  rfl

/-- A text in the column is the state of the record. -/
theorem currentState_run {column s : String} (hp : l.Plain id) (ho : l.IsOrdinary id column)
    (hc : e.machine.config.column = .str column) (hv : l.value? id column = .some (.str s)) :
    e.currentState.run l = .ok (.str s) l := by
  refine currentState_run_of_attr ?_
  rw [hc, Host.attr_run_ordinary hp ho, hv]
  rfl

theorem declaredState_idle (read : e.currentState.Idle l) : e.declaredState.Idle l :=
  read.bind fun v => by
    cases e.machine.checkCurrent v <;> rfl

theorem mem_of_declaredState {v : Value} {l' : Live} (h : e.declaredState.run l = .ok v l') :
    v = .null ∨ ∃ s ∈ e.machine.states, v = .str s.name := by
  obtain ⟨current, m, -, hchecked⟩ := Run.run_bind_eq_ok.mp h
  obtain ⟨rfl, known⟩ := Definition.checkCurrent_eq_ok (Run.lift_eq_ok hchecked)
  exact known

/-- A start that does nothing has found the record in a declared state. -/
theorem start_false (read : e.currentState.Idle l) {l' : Live}
    (h : e.start.run l = .ok false l') :
    l' = l ∧ ∃ s ∈ e.machine.states, e.declaredState.run l = .ok (.str s.name) l := by
  obtain ⟨current, m, hread, h⟩ := Run.run_bind_eq_ok.mp h
  have same : m = l := (declaredState_idle read).eq_of_ok hread
  subst same
  rcases mem_of_declaredState hread with rfl | ⟨s, hs, rfl⟩
  · obtain ⟨_, _, -, h⟩ := Run.run_bind_eq_ok.mp h
    obtain ⟨_, _, -, h⟩ := Run.run_bind_eq_ok.mp h
    obtain ⟨_, _, -, h⟩ := Run.run_bind_eq_ok.mp h
    obtain ⟨_, _, -, h⟩ := Run.run_bind_eq_ok.mp h
    cases h
  · cases h
    exact ⟨rfl, s, hs, hread⟩

/-! ## Stamping -/

theorem watch_run (e : Engine) (entry : Entry) (l : Live) :
    ∃ log, (e.watch entry).run l = .ok () { l with log } := by
  rw [watch]
  split
  · exact ⟨_, rfl⟩
  · exact ⟨l.log, rfl⟩

section Stamps

variable {W : Live → Prop} {names : List String} (ground : Live.Ground W e.machine id)
include ground

theorem note_spares (entry : Entry) : Keeps (Live.Spares W id names) (Run.note entry) :=
  fun _ w => ⟨ground.noted _ w, fun _ _ => rfl⟩

theorem watch_spares (entry : Entry) : Keeps (Live.Spares W id names) (e.watch entry) := by
  rw [watch]
  split
  · exact note_spares ground entry
  · exact Keeps.pure ()

theorem stamp_spares (field : Value) : Keeps (Live.Spares W id names) (e.stamp field) := by
  intro l w
  rw [stamp, Run.final_bind_ok (Run.run_get l)]
  split
  · exact ⟨w, fun _ _ => rfl⟩
  · exact ⟨ground.ticked _ w, fun _ _ => rfl⟩

variable {s : State} (hs : s ∈ e.machine.states) {field : String} (hf : field ∈ s.stampFields)
include hs hf

theorem setStamp_spares (hn : field ∉ names) (v : Value) :
    Keeps (Live.Spares W id names) (e.host.setAttr (.str field) v) :=
  Host.setAttr_spares ground.plain (State.stampField_not_taken hf) hn fun w ho =>
    ground.written w (.stamp hs hf v) ho

omit hs in
theorem hasAttr_spares : Keeps (Live.Spares W id names) (e.host.hasAttr (.str field)) :=
  Live.Spares.of_idle fun _ w => Run.final_of_ok (Host.hasAttr_run_ordinary (ground.plain w)
    ((ground.plain w).names _ (State.stampField_not_taken hf)))

theorem stampAbsent_spares (hn : field ∉ names) :
    Keeps (Live.Spares W id names) (e.stampAbsent (.str field)) := by
  refine (watch_spares ground _).bind fun _ => (hasAttr_spares ground hf).bind fun has => ?_
  split
  · have required : Keeps (Live.Spares W id names) (e.host.require (.str field)) :=
      Live.Spares.of_idle fun l w => by
        have ordinary := (ground.plain w).names field (State.stampField_not_taken hf)
        rw [Run.Idle, Run.final, Host.require_run_ordinary (ground.plain w) ordinary]
        cases l.value? id field <;> rfl
    refine required.bind fun held => ?_
    split
    · exact (stamp_spares ground _).bind fun v => setStamp_spares ground hs hf hn v
    · exact Keeps.pure ()
  · exact Keeps.pure ()

theorem stampAlways_spares (hn : field ∉ names) :
    Keeps (Live.Spares W id names) (e.stampAlways (.str field)) := by
  refine (watch_spares ground _).bind fun _ => (hasAttr_spares ground hf).bind fun has => ?_
  split
  · exact (stamp_spares ground _).bind fun v => setStamp_spares ground hs hf hn v
  · exact Keeps.pure ()

omit hf in
/-- Leaving a state changes nothing but the fields for its stamps. -/
theorem stampExit_spares (hn : ∀ field ∈ s.stampFields, field ∉ names) :
    Keeps (Live.Spares W id names) (e.stampExit s.name) := by
  have created : ∀ field ∈ s.stampFields, _ := fun field hf =>
    stampAbsent_spares ground hs hf (hn field hf)
  have updated : ∀ field ∈ s.stampFields, _ := fun field hf =>
    stampAlways_spares ground hs hf (hn field hf)
  rw [stampExit]
  split
  · refine (created _ (by simp [State.stampFields])).bind fun _ => ?_
    refine (created _ (by simp [State.stampFields])).bind fun _ => ?_
    refine (updated _ (by simp [State.stampFields])).bind fun _ => ?_
    exact updated _ (by simp [State.stampFields])
  · exact Keeps.pure ()

end Stamps

/-- Where no field with a stamp is named, nothing but commits and rollbacks touches what is. -/
theorem quietKeeps_spares {W : Live → Prop} {names : List String}
    (world : Live.World W e id)
    (unstamped : ∀ s ∈ e.machine.states, ∀ field ∈ s.stampFields, field ∉ names) :
    e.QuietKeeps (Live.Spares W id names) where
  notes := note_spares world.toGround
  reads := Live.Spares.of_idle fun _ w => world.reads w
  stamps s hs := stampExit_spares world.toGround hs (unstamped s hs)

/-! ## Committing -/

/-- A text goes to the column, or nothing happens but a fault. -/
theorem setColumn_run (hp : l.Plain id) (s : String) :
    (∃ column, e.machine.config.column = .str column ∧ l.IsOpen id column
        ∧ (e.host.setAttr e.machine.config.column (.str s)).run l
          = .ok () (l.assign id column (.str s)))
      ∨ ∃ f, (e.host.setAttr e.machine.config.column (.str s)).run l = .error (.fault f) l := by
  cases hc : e.machine.config.column with
  | str column =>
    rcases Host.setAttr_run_text (h := e.host) hp s with ⟨ho, h⟩ | ⟨f, h⟩
    · exact .inl ⟨column, rfl, ho, h⟩
    · exact .inr ⟨f, h⟩
  | _ => exact .inr ⟨_, rfl⟩

/-- A commit is done, or stops after the column was written, or does nothing. -/
theorem commit_run {W : Live → Prop} (ground : Live.Ground W e.machine id) (w : W l) (s : String) :
    ∃ l₀, W l₀ ∧ (∀ name, l₀.value? id name = l.value? id name)
      ∧ ((∃ column, e.machine.config.column = .str column ∧ l₀.IsOpen id column
            ∧ l₀.IsOpen id committedAttribute
            ∧ (e.commit (.str s)).run l
              = .ok () ((l₀.assign id column (.str s)).assign id committedAttribute (.str s)))
          ∨ (∃ column f, e.machine.config.column = .str column ∧ l₀.IsOpen id column
            ∧ (e.commit (.str s)).run l = .error (.fault f) (l₀.assign id column (.str s)))
          ∨ ∃ f, (e.commit (.str s)).run l = .error (.fault f) l₀) := by
  obtain ⟨log, watched⟩ := watch_run e (.commit (.str s)) l
  have w₀ : W { l with log } := ground.noted log w
  refine ⟨{ l with log }, w₀, fun _ => rfl, ?_⟩
  rw [commit, Run.run_bind_ok watched]
  rcases setColumn_run (e := e) (ground.plain w₀) s with ⟨column, hc, ho, h⟩ | ⟨f, h⟩
  · rw [Run.run_bind_ok h]
    have w₁ := ground.written w₀ (.column hc s) ho
    have ordinary := (ground.plain w₁).names _ committedAttribute_not_taken
    rcases Host.setAttr_run_ordinary (h := e.host) (ground.plain w₁) ordinary (.str s) with
      ⟨ho', h'⟩ | ⟨f, h'⟩
    · exact .inl ⟨column, hc, ho, by simpa using ho', h'⟩
    · exact .inr (.inl ⟨column, f, hc, ho, h'⟩)
  · rw [Run.run_bind_error h]
    exact .inr (.inr ⟨f, rfl⟩)

/-- A rollback leaves a record alone that was never committed. -/
theorem rollback_run_none {W : Live → Prop} (ground : Live.Ground W e.machine id) (w : W l)
    (hc : l.value? id committedAttribute = .none) :
    ∃ log, e.rollback.run l = .ok () { l with log } := by
  obtain ⟨log, watched⟩ := watch_run e .rollback l
  have w₀ : W { l with log } := ground.noted log w
  have ordinary := (ground.plain w₀).names _ committedAttribute_not_taken
  have missing := Host.hasAttr_run_ordinary (h := e.host) (ground.plain w₀) ordinary
  have hc₀ : ({ l with log } : Live).value? id committedAttribute = .none := hc
  rw [hc₀] at missing
  exact ⟨log, by rw [rollback, Run.run_bind_ok watched, Run.run_bind_ok missing]; rfl⟩

/-- A rollback of a committed record ends with the column showing the committed state: it did so
before, or the state was put back. Else it stops and changes nothing. -/
theorem rollback_run_some {W : Live → Prop} (world : Live.World W e id) (w : W l)
    {s : String} (hc : l.value? id committedAttribute = .some (.str s)) :
    ∃ l₀, W l₀ ∧ (∀ name, l₀.value? id name = l.value? id name)
      ∧ ((e.currentState.run l₀ = .ok (.str s) l₀ ∧ e.rollback.run l = .ok () l₀)
          ∨ (∃ column v, e.machine.config.column = .str column ∧ l₀.IsOpen id column
            ∧ e.currentState.run l₀ = .ok v l₀ ∧ v ≠ .str s
            ∧ e.rollback.run l = .ok () (l₀.assign id column (.str s)))
          ∨ ∃ stop, e.rollback.run l = .error stop l₀) := by
  obtain ⟨log, watched⟩ := watch_run e .rollback l
  have w₀ : W { l with log } := world.noted log w
  refine ⟨{ l with log }, w₀, fun _ => rfl, ?_⟩
  have plain := world.plain w₀
  have unchanged := world.reads w₀
  have ordinary := plain.names _ committedAttribute_not_taken
  have hc₀ : ({ l with log } : Live).value? id committedAttribute = .some (.str s) := hc
  have has := Host.hasAttr_run_ordinary (h := e.host) plain ordinary
  have read := Host.attr_run_ordinary (h := e.host) plain ordinary
  rw [hc₀] at has read
  have committed : e.committed.run { l with log } = .ok (.str s) { l with log } := read
  rw [rollback, Run.run_bind_ok watched, Run.run_bind_ok has]
  dsimp only [Option.isSome, if_true]
  rw [if_pos rfl, Run.run_bind_ok committed]
  cases hv : e.currentState.run { l with log } with
  | error stop l' =>
    rw [Run.run_bind_error hv]
    have same : l' = { l with log } :=
      (Run.final_of_error hv).symm.trans unchanged
    exact .inr (.inr ⟨stop, by rw [same]⟩)
  | ok v l' =>
    have same : l' = { l with log } := unchanged.eq_of_ok hv
    subst same
    have shown := isState_of_currentState hv
    rw [Run.run_bind_ok hv, Run.run_bind_ok (Host.differ_run shown rfl)]
    by_cases heq : v.same (.str s) = true
    · left
      have hvs : v = .str s := by
        cases v with
        | str t => simpa using heq
        | null => cases heq
        | textOf w => simp [Value.same] at heq
        | _ => cases shown
      subst hvs
      exact ⟨rfl, by rw [heq]; rfl⟩
    · right
      have hne : v ≠ .str s := fun hvs => heq (by rw [hvs]; simp)
      rw [Bool.not_eq_true] at heq
      rw [heq]
      rcases setColumn_run (e := e) plain s with ⟨column, hcol, ho, h⟩ | ⟨f, h⟩
      · exact .inl ⟨column, v, hcol, ho, rfl, hne, h⟩
      · exact .inr ⟨_, h⟩

end Engine

end Lifecycle
