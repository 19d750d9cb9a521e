/-
Footprints: what a fire may write to its record, and what it has written when it is
over.

`Live.Within` says that a record has under all names what it had, but for some. Where
others write none of its attributes (`Engine.OthersKeep`), each step of the engine stays
within few names: a stamp within its field, if the record has that, and a commit within
the column and the committed attribute. So what a fire leaves is settled by how far it
came (`Engine.fire_footprint`): if it stopped before the commit, the state is as it was;
if it did not move the record, so is all the rest, and the column where that showed what
was committed. This takes for granted that a text was committed, or nothing; of anything
else the column does not show more than the text (`Engine.numbered_rewritten`).
-/
import Lifecycle.Proofs.Courses
import Lifecycle.Proofs.Twins

namespace Lifecycle

open Run (Keeps)

namespace Live

/-- The world stays as it is, and under all names but some a record has what it had, of its own and
by its classes. -/
def Within (W : Live → Prop) (id : RecordId) (names : List String) (l l' : Live) : Prop :=
  W l → W l' ∧ ∀ name ∉ names,
    l'.own? id name = l.own? id name ∧ l'.value? id name = l.value? id name

instance (W : Live → Prop) (id : RecordId) (names : List String) :
    IsPreorder Live (Within W id names) where
  refl _ w := ⟨w, fun _ _ => ⟨rfl, rfl⟩⟩
  trans _ _ _ h h' w := by
    obtain ⟨w₁, same⟩ := h w
    obtain ⟨w₂, same'⟩ := h' w₁
    exact ⟨w₂, fun name hn => ⟨(same' name hn).1.trans (same name hn).1,
      (same' name hn).2.trans (same name hn).2⟩⟩

namespace Within

variable {W : Live → Prop} {id : RecordId} {names more : List String} {l m l' : Live}

theorem mono (h : Within W id names l l') (sub : ∀ name ∈ names, name ∈ more) :
    Within W id more l l' := fun w =>
  ⟨(h w).1, fun name hn => (h w).2 name fun mem => hn (sub name mem)⟩

theorem of_none (h : Within W id [] l l') : Within W id names l l' :=
  h.mono nofun

theorem of_assign {name : String} {v : Value} (mem : name ∈ names) (w : W (l.assign id name v)) :
    Within W id names l (l.assign id name v) := fun _ =>
  ⟨w, fun other hn => have ne : other ≠ name := fun same => hn (same ▸ mem)
    ⟨own?_assign_other ne l id v, value?_assign_other ne l id v⟩⟩

/-- What else a live holds is no attribute. -/
theorem of_rest {log : List Entry} {reads : Nat} (w : W { l with log, reads }) :
    Within W id names l { l with log, reads } := fun _ => ⟨w, fun _ _ => ⟨rfl, rfl⟩⟩

theorem spares (h : Within W id [] l l') : Spares W id names l l' := fun w =>
  ⟨(h w).1, fun name _ => ((h w).2 name nofun).2⟩

end Within

end Live

/-- What a column can show goes to an ordinary attribute, or nothing happens but a fault. -/
theorem Host.setAttr_run_state {h : Host} {l : Live} {id : RecordId} (name : String) {v : Value}
    (plain : l.Plain id) (state : v.isState = true) :
    (l.IsOpen id name ∧ (h.setAttr (.str name) v).run l = .ok () (l.assign id name v))
      ∨ ∃ f, (h.setAttr (.str name) v).run l = .error (.fault f) l :=
  setAttr_run_of_unviewed plain fun what => by
    cases v <;> first | cases what <;> exact ⟨_, rfl⟩ | cases state

namespace Engine

/-- The record shows a state, with all attributes as they are in `l`. -/
def ShowsIn (e : Engine) (W : Live → Prop) (id : RecordId) (v : Value) (l : Live) : Prop :=
  ∃ m n, Live.Within W id [] l m ∧ e.currentState.run m = .ok v n

/-! ## Single steps -/

section Steps

variable {e : Engine} {W : Live → Prop} {id : RecordId} {names : List String} {l : Live}
  (ground : Live.Ground W e.machine id)
include ground

theorem note_within (entry : Entry) : Keeps (Live.Within W id names) (Run.note entry) :=
  fun _ w => Live.Within.of_rest (ground.noted _ w) w

/-- A write that a record takes or refuses. -/
theorem within_of_set {name : String} {v : Value} (mem : name ∈ names)
    (puts : e.machine.Puts name v) (w : W l)
    (set : (l.IsOpen id name
        ∧ (e.host.setAttr (.str name) v).run l = .ok () (l.assign id name v))
      ∨ ∃ f, (e.host.setAttr (.str name) v).run l = .error (.fault f) l) :
    Live.Within W id names l ((e.host.setAttr (.str name) v).final l) := by
  obtain ⟨isOpen, h⟩ | ⟨f, h⟩ := set
  · rw [Run.final_of_ok h]
    exact .of_assign mem (ground.written w puts isOpen)
  · rw [Run.final_of_error h]
    exact refl_of (Live.Within W id names) l

/-- What commits write. -/
theorem setAttr_within {name s : String} (mem : name ∈ names) (puts : e.machine.Puts name (.str s)) :
    Keeps (Live.Within W id names) (e.host.setAttr (.str name) (.str s)) := fun _ w =>
  within_of_set ground mem puts w (Host.setAttr_run_text (ground.plain w) s) w

variable {old next : State} {event : Value} {m : Live}

/-- A stamp writes to its field at most, and only if the record has it. -/
theorem stamps_within (hold : old ∈ e.machine.states) (wm : W m)
    (covers : ∀ field ∈ old.stampFields, (m.value? id field).isSome = true → field ∈ names)
    {s : Stride} (mem : s ∈ e.machine.stampStrides old) :
    Keeps (Live.Along (Live.Within W id names m)) (e.stride event s) := by
  intro l within
  have w := (within wm).1
  have put {x : Run Unit} {due : Bool} {field : String} (hf : field ∈ old.stampFields)
      (is : ∃ log, x.run l
        = if due then (e.putStamp field).run { l with log } else .ok () { l with log })
      (there : due = true → (l.value? id field).isSome = true) :
      Live.Within W id names l (x.final l) := by
    obtain ⟨log, is⟩ := is
    have noted : W { l with log } := ground.noted log w
    cases due with
    | false =>
      rw [Run.final_of_ok is]
      exact .of_rest noted
    | true =>
      have mem : field ∈ names := by
        by_contra unnamed
        have same := ((within wm).2 field unnamed).2
        exact unnamed (covers field hf (same ▸ there rfl))
      rw [Run.final_congr (is.trans (if_pos rfl)), Run.final, putStamp_run]
      cases e.reading? ({ l with log } : Live).reads with
      | none => exact .of_rest noted
      | some r =>
        have w' : W { l with log, reads := l.reads + 1 } := ground.ticked _ noted
        have set := Host.setAttr_run_ordinary (h := e.host) (ground.plain w')
          ((ground.plain w').names field (State.stampField_not_taken hf)) (r.stamp field)
        have stamped := within_of_set ground mem (.stamp hold hf _) w' set
        exact trans_of (Live.Within W id names) (.of_rest w') stamped
  obtain ⟨field, hf, rfl | rfl⟩ := Machine.mem_stampStrides mem
  · exact trans_of (Live.Within W id names) within
      (put hf (stampAbsent_run ground hf w) Live.isSome_of_isDue)
  · exact trans_of (Live.Within W id names) within (put hf (stampAlways_run ground hf w) (·))

/-- A commit writes to the column and to the committed attribute. -/
theorem commits_within {column : String} (held : e.machine.config.column = .str column)
    (shown : column ∈ names) (committed : committedAttribute ∈ names) {state : String} {s : Stride}
    (mem : s ∈ Machine.commitStrides state) :
    Keeps (Live.Within W id names) (e.stride event s) := by
  simp only [Machine.commitStrides, List.mem_cons, List.not_mem_nil, or_false] at mem
  obtain rfl | rfl := mem
  · refine (watch_keeps (note_within ground) _).bind fun _ => ?_
    rw [held]
    exact setAttr_within ground shown (.column held state)
  · exact setAttr_within ground committed (.committed state)

end Steps

section Others

variable {e : Engine} {W : Live → Prop} {id : RecordId} {column : String} {names : List String}
  (ground : Live.Ground W e.machine id) (held : e.machine.config.column = .str column)
  (others : e.OthersKeep (Live.Within W id [])) {old next : State} (hold : old ∈ e.machine.states)
  (hnext : next ∈ e.machine.states) {event : Value} {l m l' : Live}

section Strides

include others

theorem act_within {s : State} (hs : s ∈ e.machine.states) {a : Callback}
    (ha : a ∈ s.enter.toList ++ (s.after ++ s.exit.toList)) :
    Keeps (Live.Within W id names) (e.runAction event a) := fun l =>
  (others.act hs ha event l).of_none

include hnext

theorem depart_within {s : Stride} (hold : old ∈ e.machine.states)
    (mem : s ∈ Machine.departStrides old next) :
    Keeps (Live.Within W id names) (e.stride event s) := by
  rw [Machine.departStrides] at mem
  split at mem
  · cases mem
  · obtain ⟨a, ha, rfl⟩ := List.mem_map.mp mem
    have acted : Keeps (Live.Within W id names) (e.runAction event a) := by
      obtain after | exit := List.mem_append.mp ha
      · exact act_within others hnext (by simp [after])
      · exact act_within others hold (by simp [exit])
    exact acted.bind fun _ => Keeps.pure ()

include ground hold

/-- Before its commit, a transition writes stamps at most. -/
theorem approach_within (wm : W m)
    (covers : ∀ field ∈ old.stampFields, (m.value? id field).isSome = true → field ∈ names) :
    Keeps (Live.Along (Live.Within W id names m))
      (e.walk event (e.machine.approachStrides old next)) := by
  refine walk_keeps fun s mem => ?_
  obtain stamp | enter := List.mem_append.mp mem
  · exact stamps_within ground hold wm covers stamp
  · split at enter
    · cases enter
    · obtain ⟨a, ha, rfl⟩ := List.mem_map.mp enter
      have acted : Keeps (Live.Within W id names) (e.runAction event a) :=
        act_within others hnext (by simp [ha])
      have taken : Keeps (Live.Within W id names) (e.stride event (.act a)) :=
        acted.bind fun _ => Keeps.pure ()
      exact fun l within => trans_of (Live.Within W id names) within (taken l)

include held

theorem strides_within (wm : W m) (shown : column ∈ names) (committed : committedAttribute ∈ names)
    (covers : ∀ field ∈ old.stampFields, (m.value? id field).isSome = true → field ∈ names) :
    Keeps (Live.Along (Live.Within W id names m))
      (e.walk event (e.machine.strides old next)) := by
  have rest : Keeps (Live.Within W id names)
      (e.walk event (Machine.commitStrides next.name ++ Machine.departStrides old next)) :=
    walk_keeps fun s mem => by
      obtain commit | depart := List.mem_append.mp mem
      · exact commits_within ground held shown committed commit
      · exact depart_within others hnext hold depart
  rw [Machine.strides_eq, walk_append]
  refine (approach_within ground others hold hnext wm covers).bind fun _ l within => ?_
  exact trans_of (Live.Within W id names) within (rest l)

end Strides

/-! ## Rolling back -/

/-- What a rollback leaves that answers: the column shows what was committed, or that was put
there. -/
inductive PutsBack (e : Engine) (W : Live → Prop) (id : RecordId) (column : String) (l l' : Live) :
    Prop where
  | never (none : l.value? id committedAttribute = .none) (same : Live.Within W id [] l l')
  | shown {v c : Value} (committed : l.value? id committedAttribute = .some c)
    (shows : e.ShowsIn W id v l) (alike : v.same c = true) (same : Live.Within W id [] l l')
  | put {v c : Value} (committed : l.value? id committedAttribute = .some c)
    (shows : e.ShowsIn W id v l) (differs : v.same c = false)
    (now : l'.value? id column = .some c) (within : Live.Within W id [column] l l')

theorem ShowsIn.of_within {v : Value} (same : Live.Within W id [] l m) (h : e.ShowsIn W id v m) :
    e.ShowsIn W id v l := by
  obtain ⟨k, n, within, shown⟩ := h
  exact ⟨k, n, trans_of (Live.Within W id []) same within, shown⟩

namespace PutsBack

theorem within (h : e.PutsBack W id column l l') : Live.Within W id [column] l l' := by
  cases h with
  | never _ same | shown _ _ _ same => exact same.of_none
  | put _ _ _ _ within => exact within

theorem of_within (w : W l) (same : Live.Within W id [] l m) (h : e.PutsBack W id column m l') :
    e.PutsBack W id column l l' := by
  have found : m.value? id committedAttribute = l.value? id committedAttribute :=
    ((same w).2 _ nofun).2
  cases h with
  | never none rest => exact .never (found ▸ none) (trans_of (Live.Within W id []) same rest)
  | shown committed shows alike rest =>
    exact .shown (found ▸ committed) (shows.of_within same) alike
      (trans_of (Live.Within W id []) same rest)
  | put committed shows differs now rest =>
    exact .put (found ▸ committed) (shows.of_within same) differs now
      (trans_of (Live.Within W id [column]) same.of_none rest)

end PutsBack

include ground held others in
theorem rollback_within (w : W l)
    (textual : ∀ c, l.value? id committedAttribute = .some c → c.isState = true) :
    e.rollback.Ends l fun r l' => match r with
      | .ok _ => e.PutsBack W id column l l'
      | .error _ => Live.Within W id [] l l' := by
  obtain ⟨log, watched⟩ := watch_run e .rollback l
  have noted : W { l with log } := ground.noted log w
  have start : Live.Within W id [] l { l with log } := .of_rest noted
  have plain := ground.plain noted
  have ordinary := plain.names _ committedAttribute_not_taken
  have has := Host.hasAttr_run_ordinary (h := e.host) plain ordinary
  have kept := Host.attr_run_ordinary (h := e.host) plain ordinary
  have same : ({ l with log } : Live).value? id committedAttribute
      = l.value? id committedAttribute := rfl
  rw [same] at has kept
  refine Run.Ends.bind_ok watched (Run.Ends.bind_ok has ?_)
  cases committed : l.value? id committedAttribute with
  | none => exact .never committed start
  | some c =>
    rw [committed] at kept
    have known : e.committed.run { l with log } = .ok c { l with log } := kept
    refine Run.Ends.bind_ok known ?_
    have reads := others.reads { l with log }
    cases read : e.currentState.run { l with log } with
    | error stop n =>
      rw [Run.final_of_error read] at reads
      exact Run.Ends.bind_error read (trans_of (Live.Within W id []) start reads)
    | ok v n =>
      rw [Run.final_of_ok read] at reads
      have came := trans_of (Live.Within W id []) start reads
      have shows : e.ShowsIn W id v l := ⟨_, n, start, read⟩
      have differs := Host.differ_run (h := e.host) (l := n) (isState_of_currentState read)
        (textual c committed)
      refine Run.Ends.bind_ok read (Run.Ends.bind_ok differs ?_)
      cases alike : v.same c with
      | true => exact .shown committed shows alike came
      | false =>
        have wn := (came w).1
        rw [held]
        obtain ⟨isOpen, put⟩ | ⟨f, refused⟩ := Host.setAttr_run_state (h := e.host)
          column (ground.plain wn) (textual c committed)
        · have assigned : Live.Within W id [column] n (n.assign id column c) :=
            .of_assign (.head _) (ground.restored w committed wn held isOpen)
          rw [if_pos (by rfl), Run.Ends, put]
          exact .put committed shows alike (Live.value?_assign_self ..)
            (trans_of (Live.Within W id [column]) came.of_none assigned)
        · rw [if_pos (by rfl), Run.Ends, refused]
          exact came

/-! ## Firing -/

/-- The fields with stamps of a state that a record has. -/
def stampsOf (l : Live) (id : RecordId) (s : State) : List String :=
  s.stampFields.filter fun field => (l.value? id field).isSome

/-- What a fire writes at most: the state where the record leaves none, and the stamps of the one
that it leaves besides. -/
def Treads (e : Engine) (W : Live → Prop) (id : RecordId) (column : String) (l l' : Live) : Prop :=
  Live.Within W id (Live.stateNames column) l l'
    ∨ ∃ s ∈ e.machine.states, e.ShowsIn W id (.str s.name) l
      ∧ Live.Within W id (Live.stateNames column ++ stampsOf l id s) l l'

theorem stampsOf_of_within (w : W l) (same : Live.Within W id [] l m) (s : State) :
    stampsOf m id s = stampsOf l id s := by
  refine List.filter_congr fun field _ => ?_
  rw [((same w).2 field nofun).2]

theorem Treads.of_within (w : W l) (same : Live.Within W id [] l m)
    (h : e.Treads W id column m l') : e.Treads W id column l l' := by
  obtain within | ⟨s, hs, shows, within⟩ := h
  · exact .inl (trans_of (Live.Within W id _) same.of_none within)
  · rw [stampsOf_of_within w same s] at within
    exact .inr ⟨s, hs, shows.of_within same, trans_of (Live.Within W id _) same.of_none within⟩

theorem Treads.then (h : e.Treads W id column l m) (same : Live.Within W id [] m l') :
    e.Treads W id column l l' := by
  obtain within | ⟨s, hs, shows, within⟩ := h
  · exact .inl (trans_of (Live.Within W id _) within same.of_none)
  · exact .inr ⟨s, hs, shows, trans_of (Live.Within W id _) within same.of_none⟩

section Fire

variable {event : Value} {t : Transition}

include ground others

include held

theorem move_treads (w : W l) : e.Treads W id column l ((e.move event t).final l) := by
  have reads := others.reads l
  obtain ⟨stop, moved⟩ | ⟨current, m, old, next, read, source, target, moved⟩ :=
    move_cases e event t l
  · rw [Run.final_of_error moved]
    exact .inl reads.of_none
  · obtain ⟨hold, rfl⟩ := Definition.stateAt_eq_ok source
    obtain ⟨hnext, -⟩ := Definition.stateAt_eq_ok target
    rw [Run.final_of_ok read] at reads
    have covers : ∀ field ∈ old.stampFields, (m.value? id field).isSome = true →
        field ∈ Live.stateNames column ++ stampsOf m id old := fun field hf there =>
      List.mem_append_right _ (List.mem_filter.mpr ⟨hf, there⟩)
    have walked := (strides_within ground held others hold hnext (reads w).1
      (List.mem_append_left _ (.head _)) (List.mem_append_left _ (.tail _ (.head _))) covers :
      Keeps _ (e.walk event _)) m (refl_of (Live.Within W id _) m)
    rw [stampsOf_of_within w reads] at walked
    rw [Run.final_congr moved]
    exact .inr ⟨old, hold, ⟨l, m, refl_of (Live.Within W id []) l, read⟩,
      trans_of (Live.Within W id _) reads.of_none walked⟩

theorem conclude_treads {ev : Event} {v : Value} {r : Except Stop (Option Transition)} (w : W l)
    (textual : ∀ c, l.value? id committedAttribute = .some c → c.isState = true) :
    e.Treads W id column l ((e.conclude ev v r).final l) := by
  rcases r with stop | _ | t
  · exact .inl (refl_of (Live.Within W id _) l)
  · have back : Live.Within W id [column] l (e.rollback.final l) := by
      obtain ⟨r, ended, -⟩ := (rollback_within ground held others w textual).final
      cases r with
      | ok _ => exact ended.within
      | error _ => exact ended.of_none
    rw [conclude, Run.final_bind_pure _ fun _ => false]
    exact .inl (back.mono fun name mem => List.mem_singleton.mp mem ▸ .head _)
  · have moved : e.Treads W id column l ((e.move (.str ev.name) t).final l) :=
      move_treads ground held others w
    cases ran : (e.move (.str ev.name) t).run l with
    | error stop m =>
      rw [Run.final_of_error ran] at moved
      rwa [conclude, Run.final_bind_error ran]
    | ok _ m =>
      rw [Run.final_of_ok ran] at moved
      rw [conclude, Run.final_bind_ok ran]
      exact moved.then (others.tells (note_within ground) (.str ev.name) v m)

section Exits

variable {name : String} {ev : Event} (found : e.machine.event? name = .some ev) (w : W l)
  (textual : ∀ c, l.value? id committedAttribute = .some c → c.isState = true)
include found w textual

theorem fire_treads : e.Treads W id column l ((e.fire (.str name)).final l) := by
  obtain ⟨stop, m, fired, same⟩ | ⟨old, v, _, _, r, k, -, -, -, same, fired⟩ :=
    fire_cases others (note_within ground) found l
  · rw [Run.final_of_error fired]
    exact .inl same.of_none
  · have found : k.value? id committedAttribute = l.value? id committedAttribute :=
      ((same w).2 _ nofun).2
    rw [Run.final_congr fired]
    exact (conclude_treads ground held others (same w).1 (found ▸ textual)).of_within w same

theorem fire_putsBack (fired : (e.fire (.str name)).run l = .ok false l') :
    e.PutsBack W id column l l' := by
  obtain ⟨stop, m, stopped, -⟩ | ⟨old, v, _, _, r, k, -, -, -, same, concluded⟩ :=
    fire_cases others (note_within ground) found l
  · cases stopped.symm.trans fired
  · have found : k.value? id committedAttribute = l.value? id committedAttribute :=
      ((same w).2 _ nofun).2
    have answered := concluded.symm.trans fired
    rcases r with stop | _ | t
    · cases answered
    · obtain ⟨_, m, back, answer⟩ := Run.run_bind_eq_ok.mp answered
      cases answer
      have put := (rollback_within ground held others (same w).1 (found ▸ textual)).of_ok back
      exact put.of_within w same
    · obtain ⟨_, _, -, answered⟩ := Run.run_bind_eq_ok.mp answered
      obtain ⟨_, _, -, answered⟩ := Run.run_bind_eq_ok.mp answered
      obtain ⟨_, _, -, answered⟩ := Run.run_bind_eq_ok.mp answered
      cases answered

omit textual in
theorem fire_commits (fired : (e.fire (.str name)).run l = .ok true l') :
    ∃ t ∈ ev.transitions, ∃ c, t.target = .str c
      ∧ ∀ a ∈ Live.stateNames column, l'.value? id a = .some (.str c) := by
  obtain ⟨stop, m, stopped, -⟩ | ⟨old, v, _, n, r, k, -, -, considered, same, concluded⟩ :=
    fire_cases others (note_within ground) found l
  · cases stopped.symm.trans fired
  · have answered := concluded.symm.trans fired
    rcases r with stop | _ | t
    · cases answered
    · obtain ⟨_, _, -, answer⟩ := Run.run_bind_eq_ok.mp answered
      cases answer
    · obtain ⟨_, m, moved, answered⟩ := Run.run_bind_eq_ok.mp answered
      have told := others.tells (note_within ground) (.str ev.name) old m
      rw [Run.final_of_ok answered] at told
      obtain ⟨stop, stopped⟩ | ⟨current, k', s, next, read, source, target, walked⟩ :=
        move_cases e (.str ev.name) t k
      · cases stopped.symm.trans moved
      · obtain ⟨hold, -⟩ := Definition.stateAt_eq_ok source
        obtain ⟨hnext, named⟩ := Definition.stateAt_eq_ok target
        have wk' := (Run.final_of_ok read ▸ others.reads k : Live.Within W id [] k k') (same w).1
        obtain ⟨n', stamps, moves⟩ := (walk_eq_ok.mp (walked.symm.trans moved)).of_append
        have stamped := stamps.keeps fun _ hs =>
          (stamps_within ground hold wk'.1 (fun _ hf _ => hf) hs :
            Keeps (Live.Along (Live.Within W id s.stampFields k')) _)
        have wn' := (stamped (refl_of (Live.Within W id _) k') wk'.1).1
        have acts : ∀ a ∈ next.enter.toList ++ (next.after ++ s.exit.toList),
            Keeps (Live.Spares W id (Live.stateNames column)) (e.runAction (.str ev.name) a) :=
          fun a ha l => by
            obtain ⟨s, hs, ha⟩ := mem_acts_of_move hold hnext ha
            exact (act_within others hs ha l).spares
        obtain ⟨wm, shows⟩ := moves.moved ground held acts wn'
        refine ⟨t, (Event.mem_of_leaving (considered.mem rfl)).1, next.name, named, fun a ha => ?_⟩
        rw [((told wm).2 a nofun).2, shows a ha]

/-- A fire stops before the commit: when it asks its candidates, or on the way to the commit of the
one that has passed. -/
inductive StopsShort (e : Engine) (ev : Event) (l : Live) (stop : Stop) (l' : Live) : Prop where
  | asking {old v : Value} {m n : Live} (before : e.currentState.run l = .ok old m)
    (shown : e.currentState.run m = .ok v n)
    (stopped : e.Considers (.str ev.name) (ev.leaving v) n (.error stop) l')
  | approaching {old v current : Value} {m n k k' : Live} {t : Transition} {left next : State}
    (before : e.currentState.run l = .ok old m) (shown : e.currentState.run m = .ok v n)
    (passed : e.Considers (.str ev.name) (ev.leaving v) n (.ok (.some t)) k)
    (read : e.currentState.run k = .ok current k')
    (source : e.machine.stateAt current = .ok left)
    (target : e.machine.stateAt t.target = .ok next)
    (trips : e.Trips (.str ev.name) (e.machine.approachStrides left next) k' stop l')

omit textual held in
theorem fire_stopsShort (unstamped : ∀ s ∈ e.machine.states, column ∉ s.stampFields) {stop : Stop}
    (h : e.StopsShort ev l stop l') :
    (e.fire (.str name)).run l = .error stop l' ∧ ∀ a ∈ Live.stateNames column,
      l'.own? id a = l.own? id a ∧ l'.value? id a = l.value? id a := by
  have hev := List.mem_of_find?_eq_some found
  have reads {l : Live} {v : Value} {m : Live} (read : e.currentState.run l = .ok v m) :
      Live.Within W id [] l m := Run.final_of_ok read ▸ others.reads l
  cases h with
  | asking before shown stopped =>
    have same := trans_of (Live.Within W id [])
      (trans_of (Live.Within W id []) (reads before) (reads shown))
      (others.considers (note_within ground) hev stopped)
    exact ⟨fire_of_considers found before shown stopped, fun a _ => (same w).2 a nofun⟩
  | @approaching old v current m n k k' t left next before shown passed read source target trips =>
    obtain ⟨hold, -⟩ := Definition.stateAt_eq_ok source
    obtain ⟨hnext, -⟩ := Definition.stateAt_eq_ok target
    have same := trans_of (Live.Within W id []) (trans_of (Live.Within W id [])
      (trans_of (Live.Within W id []) (reads before) (reads shown))
      (others.considers (note_within ground) hev passed)) (reads read)
    have approach := (approach_within ground others hold hnext (same w).1 (fun _ hf _ => hf) :
      Keeps (Live.Along (Live.Within W id left.stampFields k')) (e.walk (.str ev.name) _)) k'
        (refl_of (Live.Within W id _) k')
    rw [Run.final_of_error (walk_eq_error.mpr trips)] at approach
    have tripped : e.Trips (.str ev.name) (e.machine.strides left next) k' stop l' := by
      rw [Machine.strides_eq]
      exact trips.append_right _
    have moved : (e.move (.str ev.name) t).run k = .error stop l' :=
      (move_run read source target).trans (walk_eq_error.mpr tripped)
    refine ⟨(fire_of_considers found before shown passed).trans (Run.run_bind_error moved _), ?_⟩
    intro a ha
    have unmarked : a ∉ left.stampFields := by
      simp only [List.mem_cons, List.not_mem_nil, or_false] at ha
      obtain rfl | rfl := ha
      · exact unstamped left hold
      · exact fun mem => State.stampField_ne_committed mem rfl
    exact (trans_of (Live.Within W id _) same.of_none approach w).2 a unmarked

end Exits

end Fire

end Others

/-- Where nobody else writes an attribute of the record, a fire leaves all of them as they are but
the state and, of the state that it leaves, those stamps that the record has. If it answers that it
has not moved the record, it has put back what was committed, unless the column shows that, and if
it has, both hold the target. If it stops before the commit, both are as they were. -/
theorem fire_footprint {e : Engine} {W : Live → Prop} {id : RecordId} {column name : String}
    {ev : Event} {l : Live} (ground : Live.Ground W e.machine id)
    (held : e.machine.config.column = .str column)
    (unstamped : ∀ s ∈ e.machine.states, column ∉ s.stampFields)
    (others : e.OthersKeep (Live.Within W id []))
    (found : e.machine.event? name = .some ev) (w : W l)
    (textual : ∀ c, l.value? id committedAttribute = .some c → c.isState = true) :
    let fires := (e.fire (.str name)).run l
    e.Treads W id column l ((e.fire (.str name)).final l)
      ∧ (∀ l', fires = .ok false l' → e.PutsBack W id column l l')
      ∧ (∀ l', fires = .ok true l' → ∃ t ∈ ev.transitions, ∃ c, t.target = .str c
        ∧ ∀ a ∈ Live.stateNames column, l'.value? id a = .some (.str c))
      ∧ ∀ stop l', e.StopsShort ev l stop l' →
        fires = .error stop l' ∧ ∀ a ∈ Live.stateNames column,
          l'.own? id a = l.own? id a ∧ l'.value? id a = l.value? id a :=
  ⟨fire_treads ground held others found w textual,
    fun _ => fire_putsBack ground held others found w textual,
    fun _ => fire_commits ground held others found w,
    fun _ _ => fire_stopsShort ground others found w unstamped⟩

/-- What was assigned without being committed is put back. -/
theorem fire_footprint_picky :
    let e := picky []
    let W := (Scene.picky []).World
    let l := (Live.blank.assign 0 committedAttribute "a").assign 0 "state" "b"
    let l' := l.assign 0 "state" "a"
    (e.fire "halt").run l = .ok false l' ∧ e.PutsBack W 0 "state" l l'
      ∧ ∀ name ≠ "state", l'.own? 0 name = l.own? 0 name := by
  intro e W l l'
  have room := Scene.picky_room []
  have w : W l := picky_assign [] (picky_assign [] Scene.blank_plain (by decide) _) (by decide) _
  have others : e.OthersKeep (Live.Within W 0 []) :=
    picky_others fun same w => by
      obtain ⟨held, rfl⟩ := same w
      exact ⟨w.inHand held, fun _ _ => ⟨rfl, rfl⟩⟩
  have found : e.machine.event? "halt" = .some { name := "halt" } := rfl
  have shown : e.currentState.run l = .ok "b" l :=
    currentState_run (room.plain w) (room.openColumn w).isOrdinary rfl rfl
  have considered : e.Considers "halt" [] l (.ok .none) l := .none l
  have textual (c : Value) (held : l.value? 0 committedAttribute = .some c) : c.isState = true :=
    Option.some.inj held ▸ rfl
  have fired : (e.fire "halt").run l = .ok false l' := by
    have back : e.rollback.run l = .ok () l' := by
      rw [rollback_run_of_shown rfl (room.plain w) shown textual]
      exact Host.setAttr_run_open (room.plain w) (room.openColumn w) _
    rw [fire_of_considers found shown shown considered, conclude, Run.run_bind_ok back]
    rfl
  obtain ⟨-, putBack, -, -⟩ := fire_footprint room.toGround rfl (by decide)
    others found w textual
  have back := putBack l' fired
  exact ⟨fired, back, fun name ne => ((back.within w).2 name (by simpa using ne)).1⟩

/-- What was committed that is no text is put back even where the column shows its text. -/
theorem numbered_rewritten :
    let e := picky []
    let l := (Live.blank.assign 0 committedAttribute (.int 5)).assign 0 "state" "5"
    (Draft.afterAll (Draft.Call.picky []) { config := { initial := "a" } }).machine?
        = .some e.machine
      ∧ (Value.int 5).asText = "5" ∧ l.value? 0 "state" = .some "5"
      ∧ (e.fire "halt").run l = .ok false (l.assign 0 "state" (.int 5)) := by
  intro e l
  refine ⟨rfl, rfl, rfl, ?_⟩
  have room := Scene.picky_room []
  have w : (Scene.picky []).World l :=
    picky_assign [] (picky_assign [] Scene.blank_plain (by decide) _) (by decide) _
  have found : e.machine.event? "halt" = .some { name := "halt" } := rfl
  have shown : e.currentState.run l = .ok "5" l :=
    currentState_run (room.plain w) (room.openColumn w).isOrdinary rfl rfl
  have considered : e.Considers "halt" [] l (.ok .none) l := .none l
  have compared : (e.host.differ "5" (.int 5)).run l = .ok true l := by
    have settled : l.settle (.int 5) = .int 5 := by simp [Live.settle, Shelf.settle, Shelf.settleIn]
    have unlike : (e.host.compare .different "5" (.int 5)).run l = .ok (.bool true) l :=
      (Host.compare_run (l.settle_str "5") settled (by simp) (by decide +kernel)).trans rfl
    rw [Host.differ, Run.run_bind_ok unlike, Host.truth_run_bool]
  have back : e.rollback.run l = .ok () (l.assign 0 "state" (.int 5)) := by
    rw [rollback_run_of_differ rfl (room.plain w) shown rfl compared]
    exact Host.setAttr_run_open (room.plain w) (room.openColumn w) _
  rw [fire_of_considers found shown shown considered, conclude, Run.run_bind_ok back]
  rfl

end Engine

end Lifecycle
