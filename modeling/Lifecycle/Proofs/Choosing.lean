/-
Choosing: which of its candidates a fire performs, and what it asks on the way.

The candidates are the transitions that leave the state of the record. For each
one in turn the engine asks for validity, and for the guard if that is given; it
ends with the first that passes and asks no more (`Engine.Considers`). What a
fire does then is settled by how that has come out (`Engine.fire_of_considers`).

Where the checks change nothing and nobody hinders the engine
(`Engine.Unhindered`), a fire answers that it has moved the record just if a
candidate passes, and the record is then in the target of the first that does
(`Engine.fire_first_eligible`).
-/
import Lifecycle.Proofs.Gating
import Lifecycle.Proofs.Notices
import Lifecycle.Proofs.Stamped

namespace Lifecycle

open Run (Keeps)

namespace Engine

/-! ## Asking the candidates -/

/-- What some candidates come to, asked one after the other: the first that passes, or none, or a
stop. A guard is only asked where the record is valid, and nothing behind what has passed. -/
inductive Considers (e : Engine) (event : Value) :
    List Transition → Live → Except Stop (Option Transition) → Live → Prop where
  | none (l : Live) : Considers e event [] l (.ok .none) l
  | invalid {t : Transition} {ts : List Transition} {l m l' : Live}
    {r : Except Stop (Option Transition)} (valid : (e.isValid event).run l = .ok false m)
    (rest : Considers e event ts m r l') : Considers e event (t :: ts) l r l'
  | refused {t : Transition} {ts : List Transition} {l m n l' : Live}
    {r : Except Stop (Option Transition)} (valid : (e.isValid event).run l = .ok true m)
    (guard : (e.guardPasses event t).run m = .ok false n) (rest : Considers e event ts n r l') :
    Considers e event (t :: ts) l r l'
  | passed {t : Transition} {ts : List Transition} {l m n : Live}
    (valid : (e.isValid event).run l = .ok true m)
    (guard : (e.guardPasses event t).run m = .ok true n) :
    Considers e event (t :: ts) l (.ok (.some t)) n
  | unchecked {t : Transition} {ts : List Transition} {l m : Live} {stop : Stop}
    (valid : (e.isValid event).run l = .error stop m) :
    Considers e event (t :: ts) l (.error stop) m
  | unguarded {t : Transition} {ts : List Transition} {l m n : Live} {stop : Stop}
    (valid : (e.isValid event).run l = .ok true m)
    (guard : (e.guardPasses event t).run m = .error stop n) :
    Considers e event (t :: ts) l (.error stop) n

section Considers

variable {e : Engine} {event : Value} {t : Transition} {ts : List Transition} {l l' : Live}
  {r : Except Stop (Option Transition)}

theorem allows_eq_guardPasses (e : Engine) (event : Value) (t : Transition) :
    e.allows event t = (do
      if ← e.isValid event then e.guardPasses event t else return false) := rfl

/-- However the questions are answered, they come to something. -/
theorem considers_total (e : Engine) (event : Value) : ∀ (ts : List Transition) (l : Live),
    ∃ r l', e.Considers event ts l r l'
  | [], l => ⟨_, l, .none l⟩
  | t :: ts, l => by
    cases valid : (e.isValid event).run l with
    | error stop m => exact ⟨_, m, .unchecked valid⟩
    | ok isValid m =>
      cases isValid with
      | false =>
        obtain ⟨r, l', rest⟩ := considers_total e event ts m
        exact ⟨r, l', .invalid valid rest⟩
      | true =>
        cases guard : (e.guardPasses event t).run m with
        | error stop n => exact ⟨_, n, .unguarded valid guard⟩
        | ok passes n =>
          cases passes with
          | true => exact ⟨_, n, .passed valid guard⟩
          | false =>
            obtain ⟨r, l', rest⟩ := considers_total e event ts n
            exact ⟨r, l', .refused valid guard rest⟩

/-- What is done about what some candidates have come to. -/
def resume (e : Engine) (event : Value) : Except Stop (Option Transition) → Run Bool
  | .error stop => throw stop
  | .ok .none => return false
  | .ok (.some t) => do
    e.move event t
    return true

/-- The candidate that has passed is performed, and nothing is where none has. -/
theorem Considers.performFirst_run (h : e.Considers event ts l r l') :
    (e.performFirst event ts).run l = (e.resume event r).run l' := by
  induction h with
  | none l => rfl
  | invalid valid _ ih =>
    rw [performFirst_cons, allows_eq_guardPasses, bind_assoc, Run.run_bind_ok valid, ← ih]
    rfl
  | refused valid guard _ ih =>
    rw [performFirst_cons, allows_eq_guardPasses, bind_assoc, Run.run_bind_ok valid, if_pos rfl,
      Run.run_bind_ok guard, ← ih]
    rfl
  | passed valid guard =>
    rw [performFirst_cons, allows_eq_guardPasses, bind_assoc, Run.run_bind_ok valid, if_pos rfl,
      Run.run_bind_ok guard]
    rfl
  | unchecked valid =>
    rw [performFirst_cons, allows_eq_guardPasses, bind_assoc, Run.run_bind_error valid]
    rfl
  | unguarded valid guard =>
    rw [performFirst_cons, allows_eq_guardPasses, bind_assoc, Run.run_bind_ok valid, if_pos rfl,
      Run.run_bind_error guard]
    rfl

/-- And they come to one thing only. -/
theorem Considers.unique {n : Live} {q : Except Stop (Option Transition)}
    (h : e.Considers event ts l r l') (h' : e.Considers event ts l q n) : q = r ∧ n = l' := by
  induction h with
  | none l =>
    cases h'
    exact ⟨rfl, rfl⟩
  | invalid valid _ ih =>
    cases h' with
    | invalid valid' rest =>
      cases valid.symm.trans valid'
      exact ih rest
    | refused valid' | passed valid' | unchecked valid' | unguarded valid' =>
      cases valid.symm.trans valid'
  | refused valid guard _ ih =>
    cases h' with
    | refused valid' guard' rest =>
      cases valid.symm.trans valid'
      cases guard.symm.trans guard'
      exact ih rest
    | passed valid' guard' | unguarded valid' guard' =>
      cases valid.symm.trans valid'
      cases guard.symm.trans guard'
    | invalid valid' | unchecked valid' => cases valid.symm.trans valid'
  | passed valid guard =>
    cases h' with
    | passed valid' guard' =>
      cases valid.symm.trans valid'
      cases guard.symm.trans guard'
      exact ⟨rfl, rfl⟩
    | refused valid' guard' | unguarded valid' guard' =>
      cases valid.symm.trans valid'
      cases guard.symm.trans guard'
    | invalid valid' | unchecked valid' => cases valid.symm.trans valid'
  | unchecked valid =>
    cases h' with
    | unchecked valid' =>
      cases valid.symm.trans valid'
      exact ⟨rfl, rfl⟩
    | invalid valid' | refused valid' | passed valid' | unguarded valid' =>
      cases valid.symm.trans valid'
  | unguarded valid guard =>
    cases h' with
    | unguarded valid' guard' =>
      cases valid.symm.trans valid'
      cases guard.symm.trans guard'
      exact ⟨rfl, rfl⟩
    | refused valid' guard' | passed valid' guard' =>
      cases valid.symm.trans valid'
      cases guard.symm.trans guard'
    | invalid valid' | unchecked valid' => cases valid.symm.trans valid'

theorem Considers.mem (h : e.Considers event ts l r l') (passed : r = .ok (.some t)) : t ∈ ts := by
  induction h with
  | none | unchecked | unguarded => cases passed
  | invalid _ _ ih | refused _ _ _ ih => exact .tail _ (ih passed)
  | passed =>
    cases passed
    exact .head _

/-! ### By single answers -/

theorem allows_of_unguarded (unguarded : t.guard = .none)
    (valid : (e.isValid event).run l = .ok true l') : (e.allows event t).run l = .ok true l' := by
  rw [allows_eq_guardPasses, Run.run_bind_ok valid, if_pos rfl, guardPasses, unguarded]
  rfl

theorem Considers.of_refused {m : Live} (refused : (e.allows event t).run l = .ok false m)
    (rest : e.Considers event ts m r l') : e.Considers event (t :: ts) l r l' := by
  rw [allows_eq_guardPasses, Run.run_bind_eq_ok] at refused
  obtain ⟨isValid, n, valid, refused⟩ := refused
  cases isValid with
  | false =>
    cases refused
    exact .invalid valid rest
  | true => exact .refused valid refused rest

theorem Considers.of_allowed (allowed : (e.allows event t).run l = .ok true l') :
    e.Considers event (t :: ts) l (.ok (.some t)) l' := by
  rw [allows_eq_guardPasses, Run.run_bind_eq_ok] at allowed
  obtain ⟨isValid, n, valid, allowed⟩ := allowed
  cases isValid with
  | false => cases allowed
  | true => exact .passed valid allowed

/-- Where candidates are refused and nothing changes, the rest matters alone. -/
theorem Considers.of_front {before after : List Transition}
    (refused : ∀ u ∈ before, (e.allows event u).run l = .ok false l)
    (rest : e.Considers event after l r l') : e.Considers event (before ++ after) l r l' := by
  induction before with
  | nil => exact rest
  | cons u before ih =>
    exact .of_refused (refused u (.head _)) (ih fun v hv => refused v (.tail _ hv))

theorem Considers.of_all_refused (refused : ∀ u ∈ ts, (e.allows event u).run l = .ok false l) :
    e.Considers event ts l (.ok .none) l := by
  have all : e.Considers event (ts ++ []) l (.ok .none) l := .of_front refused (.none l)
  rwa [List.append_nil] at all

/-- Of candidates that all answer and change nothing, one is the first that passes, or none does. -/
theorem first_of_answers {ts : List Transition}
    (answers : ∀ t ∈ ts, ∃ b, (e.allows event t).run l = .ok b l) :
    (∃ before t after, ts = before ++ t :: after
        ∧ (∀ u ∈ before, (e.allows event u).run l = .ok false l)
        ∧ (e.allows event t).run l = .ok true l)
      ∨ ∀ t ∈ ts, (e.allows event t).run l = .ok false l := by
  induction ts with
  | nil => exact .inr nofun
  | cons t ts ih =>
    obtain ⟨passes, asked⟩ := answers t (.head _)
    cases passes with
    | true => exact .inl ⟨[], t, ts, rfl, nofun, asked⟩
    | false =>
      obtain ⟨before, u, after, rfl, refused, allowed⟩ | refused :=
        ih fun u hu => answers u (.tail _ hu)
      · exact .inl ⟨t :: before, u, after, rfl, List.forall_mem_cons.mpr ⟨asked, refused⟩, allowed⟩
      · exact .inr (List.forall_mem_cons.mpr ⟨asked, refused⟩)

end Considers

/-! ## Where the state stays -/

/-- Neither the validity check nor the guards have a part in what state the record shows. -/
structure ChecksStand (e : Engine) (W : Live → Prop) (ev : Event) (v : Value) : Prop where
  checks : Keeps (Live.Along (e.Shows W v)) (e.isValid (.str ev.name))
  guards : ∀ t ∈ ev.leaving v, Keeps (Live.Along (e.Shows W v)) (e.guardPasses (.str ev.name) t)

/-- What a fire does about what its candidates have come to, where the record was in `old`. -/
def conclude (e : Engine) (ev : Event) (old : Value) : Except Stop (Option Transition) → Run Bool
  | .error stop => throw stop
  | .ok .none => do
    e.rollback
    return false
  | .ok (.some t) => do
    e.move (.str ev.name) t
    let new ← e.currentState
    e.notify [.str ev.name, old, new] e.machine.observers
    return true

section Fire

variable {e : Engine} {W : Live → Prop} {ev : Event} {v : Value} {l l' : Live}
  {r : Except Stop (Option Transition)}

/-- What a check and the guards of some candidates keep is kept by asking them. -/
theorem Considers.keeps {P : Live → Live → Prop} [IsPreorder Live P] {event : Value}
    {ts : List Transition} (h : e.Considers event ts l r l') (checks : Keeps P (e.isValid event))
    (guards : ∀ t ∈ ts, Keeps P (e.guardPasses event t)) : P l l' := by
  induction h with
  | none l => exact refl_of P l
  | invalid valid _ ih =>
    have checked := Run.final_of_ok valid ▸ checks _
    exact trans_of P checked (ih fun t ht => guards t (.tail _ ht))
  | refused valid guard _ ih =>
    have checked := Run.final_of_ok valid ▸ checks _
    have guarded := Run.final_of_ok guard ▸ guards _ (.head _) _
    exact trans_of P checked (trans_of P guarded (ih fun t ht => guards t (.tail _ ht)))
  | passed valid guard =>
    have checked := Run.final_of_ok valid ▸ checks _
    exact trans_of P checked (Run.final_of_ok guard ▸ guards _ (.head _) _)
  | unchecked valid => exact Run.final_of_error valid ▸ checks _
  | unguarded valid guard =>
    have checked := Run.final_of_ok valid ▸ checks _
    exact trans_of P checked (Run.final_of_error guard ▸ guards _ (.head _) _)

/-- In a closed machine, the candidates are the transitions from the state of the record. -/
theorem mem_leaving_iff {t : Transition} (closed : e.machine.IsClosed)
    (hev : ev ∈ e.machine.events) :
    t ∈ ev.leaving v ↔ t ∈ ev.transitions ∧ t.source = v := by
  refine ⟨source_of_leaving closed hev, ?_⟩
  rintro ⟨ht, rfl⟩
  obtain ⟨old, -, -, source⟩ := Definition.stateAt_of_knows (closed ev hev t ht).1
  exact List.mem_filter.mpr ⟨ht, by simp [source]⟩

/-- And both ends of each are found. -/
theorem ends_of_leaving {t : Transition} (closed : e.machine.IsClosed)
    (hev : ev ∈ e.machine.events) (mem : t ∈ ev.leaving v) :
    ∃ old next, e.machine.stateAt v = .ok old ∧ e.machine.stateAt t.target = .ok next := by
  obtain ⟨ht, rfl⟩ := source_of_leaving closed hev mem
  obtain ⟨knownSource, knownTarget⟩ := closed ev hev t ht
  obtain ⟨old, -, source, -⟩ := Definition.stateAt_of_knows knownSource
  obtain ⟨next, -, target, -⟩ := Definition.stateAt_of_knows knownTarget
  exact ⟨old, next, source, target⟩

/-- The candidates can be asked for. -/
theorem nextTransitionsFor_run {name : String} (found : e.machine.event? name = .some ev)
    (shown : e.currentState.run l = .ok v l) :
    (e.nextTransitionsFor (.str name)).run l = .ok (ev.leaving v) l := by
  rw [nextTransitionsFor, eventNamed, Host.asText_str, pure_bind,
    Definition.eventNamed_of_some found, Run.run_bind_ok (Run.run_lift_ok ev l), nextTransitions,
    Run.run_bind_ok shown]
  rfl

theorem fireEvent_of_considers {m : Live} (shown : e.currentState.run l = .ok v m)
    (h : e.Considers (.str ev.name) (ev.leaving v) m r l') :
    (e.fireEvent ev).run l = (e.resume (.str ev.name) r).run l' := by
  rw [fireEvent, nextTransitions, bind_assoc, Run.run_bind_ok shown]
  exact h.performFirst_run

/-- A fire asks the transitions that leave the state of the record. -/
theorem fire_of_considers {name : String} {old : Value} {m n : Live}
    (found : e.machine.event? name = .some ev) (before : e.currentState.run l = .ok old m)
    (shown : e.currentState.run m = .ok v n)
    (h : e.Considers (.str ev.name) (ev.leaving v) n r l') :
    (e.fire (.str name)).run l = (e.conclude ev old r).run l' := by
  rw [fire_eq, Definition.eventNamed_of_some found, Run.run_bind_ok (Run.run_lift_ok ev l),
    fireFound, Run.run_bind_ok before, Run.run_bind_congr (fireEvent_of_considers shown h)]
  cases r with
  | error stop => rfl
  | ok passed =>
    cases passed with
    | none => rfl
    | some t =>
      rw [resume, bind_assoc]
      rfl

end Fire

/-! ## Where nobody hinders the engine -/

/-- Where `W` holds, a run answers and leaves the state of the record alone. -/
def Obliges {α : Type} (W : Live → Prop) (id : RecordId) (column : String) (x : Run α) : Prop :=
  ∀ l, W l → ∃ a l', x.run l = .ok a l' ∧ Live.Spares W id (Live.stateNames column) l l'

theorem Obliges.keeps {α : Type} {W : Live → Prop} {id : RecordId} {column : String} {x : Run α}
    (h : Obliges W id column x) : Keeps (Live.Spares W id (Live.stateNames column)) x := by
  intro l w
  obtain ⟨a, l', answered, spared⟩ := h l w
  rw [Run.final_of_ok answered]
  exact spared w

/-- Nobody watches. The record takes what the engine writes, the clock has readings, and actions
answer and leave the state alone. Observers leave it alone too, and come to an end for the engine:
they answer, or it reports what they raise. -/
structure Unhindered (e : Engine) (W : Live → Prop) (id : RecordId) (column : String) : Prop
    extends Live.Ground W e.machine id where
  unwatched : e.watched = false
  held : e.machine.config.column = .str column
  openColumn : ∀ {l}, W l → l.IsOpen id column
  openCommitted : ∀ {l}, W l → l.IsOpen id committedAttribute
  openStamps : ∀ {l}, W l → ∀ s ∈ e.machine.states, ∀ field ∈ s.stampFields,
    (l.value? id field).isSome = true → l.IsOpen id field
  readable : ∀ k, (e.reading? k).isSome = true
  acts : ∀ s ∈ e.machine.states, ∀ a ∈ s.enter.toList ++ (s.after ++ s.exit.toList), ∀ event,
    Obliges W id column (e.runAction event a)
  observers : ∀ args, ∀ o ∈ e.machine.observers, Obliges W id column (e.notifyOne args o)

section Rollback

variable {e : Engine} {id : RecordId} {v : Value} {l : Live} (unwatched : e.watched = false)
  (plain : l.Plain id) (shown : e.currentState.run l = .ok v l)
include unwatched plain shown

/-- A rollback writes what was committed to the column if that shows anything else. -/
theorem rollback_run_of_differ {c : Value} {differs : Bool}
    (held : l.value? id committedAttribute = .some c)
    (compared : (e.host.differ v c).run l = .ok differs l) :
    e.rollback.run l = if differs then (e.host.setAttr e.machine.config.column c).run l
      else .ok () l := by
  have ordinary := plain.names _ committedAttribute_not_taken
  have has := Host.hasAttr_run_ordinary (h := e.host) plain ordinary
  have read := Host.attr_run_ordinary (h := e.host) plain ordinary
  have quiet : e.watch .rollback = pure () := by
    rw [watch, unwatched]
    rfl
  rw [held] at has read
  have committed : e.committed.run l = .ok c l := read
  rw [rollback, quiet, pure_bind, Run.run_bind_ok has, Option.isSome_some, if_pos rfl,
    Run.run_bind_ok committed, Run.run_bind_ok shown, Run.run_bind_ok compared]
  cases differs <;> rfl

theorem rollback_run_of_shown
    (textual : ∀ c, l.value? id committedAttribute = .some c → c.isState = true) :
    e.rollback.run l = match l.value? id committedAttribute with
      | .none => .ok () l
      | .some c => if v.same c then .ok () l
        else (e.host.setAttr e.machine.config.column c).run l := by
  cases held : l.value? id committedAttribute with
  | none =>
    have has := Host.hasAttr_run_ordinary (h := e.host) plain
      (plain.names _ committedAttribute_not_taken)
    rw [held] at has
    rw [rollback, watch, unwatched]
    exact Run.run_bind_ok has _
  | some c =>
    have compared := Host.differ_run (h := e.host) (l := l) (isState_of_currentState shown)
      (textual c held)
    rw [rollback_run_of_differ unwatched plain shown held compared]
    dsimp only
    cases v.same c <;> rfl

end Rollback

/-- What runs on a move runs for one of its two states. -/
theorem mem_acts_of_move {m : Machine} {old next : State} (hold : old ∈ m.states)
    (hnext : next ∈ m.states) {a : Callback}
    (ha : a ∈ next.enter.toList ++ (next.after ++ old.exit.toList)) :
    ∃ s ∈ m.states, a ∈ s.enter.toList ++ (s.after ++ s.exit.toList) := by
  simp only [List.mem_append] at ha
  obtain enter | after | exit := ha
  · exact ⟨next, hnext, by simp [enter]⟩
  · exact ⟨next, hnext, by simp [after]⟩
  · exact ⟨old, hold, by simp [exit]⟩

/-- Steps that all answer are all taken. -/
theorem exists_walks {e : Engine} {W : Live → Prop} {event : Value} : ∀ {ss : List Stride},
    (∀ s ∈ ss, ∀ l, W l → ∃ l', (e.stride event s).run l = .ok () l' ∧ W l') →
      ∀ {l}, W l → ∃ l', e.Walks event ss l l' ∧ W l'
  | [], _, l, w => ⟨l, .stay l, w⟩
  | s :: ss, each, l, w => by
    obtain ⟨m, h, wm⟩ := each s (.head _) l w
    obtain ⟨l', walks, w'⟩ := exists_walks (fun s hs => each s (.tail _ hs)) wm
    exact ⟨l', .on h walks, w'⟩

namespace Unhindered

variable {e : Engine} {W : Live → Prop} {id : RecordId} {column : String} {event : Value}
  {old next : State} (free : e.Unhindered W id column)
include free

theorem stamps_answer (hold : old ∈ e.machine.states) {s : Stride}
    (mem : s ∈ e.machine.stampStrides old) {l : Live} (w : W l) :
    ∃ l', (e.stride event s).run l = .ok () l' ∧ W l' := by
  obtain ⟨field, hf, rfl | rfl⟩ := Machine.mem_stampStrides mem
  · have is := stampAbsent_run free.toGround hf w
    have isOpen (due : l.isDue id field = true) : l.IsOpen id field :=
      free.openStamps w old hold field hf (Live.isSome_of_isDue due)
    obtain ⟨l', h⟩ := answers_of_run free.toGround w is isOpen (free.readable _)
    exact ⟨l', h, (stamps_of_run free.toGround hold hf w is h).1⟩
  · have is := stampAlways_run free.toGround hf w
    have isOpen := free.openStamps w old hold field hf
    obtain ⟨l', h⟩ := answers_of_run free.toGround w is isOpen (free.readable _)
    exact ⟨l', h, (stamps_of_run free.toGround hold hf w is h).1⟩

theorem moves_answer (hold : old ∈ e.machine.states) (hnext : next ∈ e.machine.states) {s : Stride}
    (mem : s ∈ Machine.moveStrides old next) {l : Live} (w : W l) :
    ∃ l', (e.stride event s).run l = .ok () l' ∧ W l' := by
  obtain ⟨a, ha, rfl⟩ | rfl | rfl := Machine.mem_moveStrides mem
  · obtain ⟨s, hs, ha⟩ := mem_acts_of_move hold hnext ha
    obtain ⟨v, l', h, spared⟩ := free.acts s hs a ha event l w
    exact ⟨l', Run.run_bind_ok h _, (spared w).1⟩
  · obtain ⟨log, watched⟩ := watch_run e (.commit (.str next.name)) l
    have w₀ : W { l with log } := free.noted log w
    refine ⟨_, ?_, free.written w₀ (.column free.held next.name) (free.openColumn w₀)⟩
    rw [stride, Run.run_bind_ok watched, free.held]
    exact Host.setAttr_run_open (free.plain w₀) (free.openColumn w₀) _
  · exact ⟨_, Host.setAttr_run_open (free.plain w) (free.openCommitted w) _,
      free.written w (.committed next.name) (free.openCommitted w)⟩

/-- All steps of a move are taken, and lead to its target. -/
theorem move_isAt {t : Transition} {current : Value} {l m : Live}
    (read : e.currentState.run l = .ok current m) (w : W m)
    (source : e.machine.stateAt current = .ok old)
    (target : e.machine.stateAt t.target = .ok next) :
    ∃ l', (e.move event t).run l = .ok () l' ∧ l'.IsAt W id column next.name := by
  obtain ⟨hold, -⟩ := Definition.stateAt_eq_ok source
  obtain ⟨hnext, -⟩ := Definition.stateAt_eq_ok target
  obtain ⟨n, stamps, wn⟩ := @exists_walks e W event _
    (fun s hs l w => free.stamps_answer hold hs w) m w
  obtain ⟨l', moves, -⟩ := @exists_walks e W event _
    (fun s hs l w => free.moves_answer hold hnext hs w) n wn
  obtain ⟨w', shows⟩ := moves.moved free.toGround free.held (fun a ha => by
    obtain ⟨s, hs, ha⟩ := mem_acts_of_move hold hnext ha
    exact (free.acts s hs a ha event).keeps) wn
  refine ⟨l', ?_, w', shows _ (.head _), shows _ (.tail _ (.head _))⟩
  rw [move_run read source target]
  exact walk_eq_ok.mpr (stamps.append moves)

/-- All observers are told, and the record stays where it is. -/
theorem notify_isAt {c : String} (args : List Value) : ∀ (os : List Callback) {l : Live},
    (∀ o ∈ os, o ∈ e.machine.observers) → l.IsAt W id column c →
      ∃ l', (e.notify args os).run l = .ok () l' ∧ l'.IsAt W id column c
  | [], l, _, at_ => ⟨l, rfl, at_⟩
  | o :: os, l, each, at_ => by
    obtain ⟨_, m, told, spared⟩ := free.observers args o (each o (.head _)) l at_.world
    obtain ⟨l', notified, stays⟩ :=
      notify_isAt args os (fun p hp => each p (.tail _ hp)) (at_.spared spared)
    exact ⟨l', (Run.run_bind_ok told _).trans notified, stays⟩

/-- Where a candidate has passed, the fire moves the record to its target. -/
theorem conclude_isAt {ev : Event} {v : Value} {t : Transition} {l : Live} (at_ : e.Shows W v l)
    (source : e.machine.stateAt v = .ok old) (target : e.machine.stateAt t.target = .ok next) :
    ∃ l', (e.conclude ev v (.ok (.some t))).run l = .ok true l'
      ∧ l'.IsAt W id column next.name := by
  obtain ⟨m, moved, came⟩ := free.move_isAt at_.2 at_.1 source target
  have read : e.currentState.run m = .ok (.str next.name) m :=
    currentState_run (free.plain came.world) (free.openColumn came.world).isOrdinary free.held
      came.shown
  obtain ⟨l', notified, stays⟩ := free.notify_isAt [.str ev.name, v, .str next.name]
    e.machine.observers (fun _ ho => ho) came
  refine ⟨l', ?_, stays⟩
  rw [conclude, Run.run_bind_ok moved, Run.run_bind_ok read, Run.run_bind_ok notified]
  rfl

/-- Where none has, it answers that it has not, if what was committed can be compared. -/
theorem conclude_none {ev : Event} {v : Value} {l : Live} (at_ : e.Shows W v l)
    (textual : ∀ c, l.value? id committedAttribute = .some c → c.isState = true) :
    ∃ l', (e.conclude ev v (.ok .none)).run l = .ok false l' := by
  have plain := free.plain at_.1
  have back : ∃ l', e.rollback.run l = .ok () l' := by
    rw [rollback_run_of_shown free.unwatched plain at_.2 textual, free.held]
    split
    · exact ⟨l, rfl⟩
    · split
      · exact ⟨l, rfl⟩
      · exact ⟨_, Host.setAttr_run_open plain (free.openColumn at_.1) _⟩
  obtain ⟨l', back⟩ := back
  exact ⟨l', Run.run_bind_ok back _⟩

section Fire

variable {name : String} {ev : Event} {v : Value} {l : Live} (closed : e.machine.IsClosed)
  (found : e.machine.event? name = .some ev) (at_ : e.Shows W v l)
include closed found at_

/-- Where the candidates before it change nothing, the first that passes is taken. -/
theorem fire_isAt {before after : List Transition} {t : Transition}
    (split : ev.leaving v = before ++ t :: after)
    (refused : ∀ u ∈ before, (e.allows (.str ev.name) u).run l = .ok false l)
    (allowed : (e.allows (.str ev.name) t).run l = .ok true l) :
    ∃ c l', t.target = .str c ∧ (e.fire (.str name)).run l = .ok true l'
      ∧ l'.IsAt W id column c := by
  have passed : e.Considers (.str ev.name) (ev.leaving v) l (.ok (.some t)) l := by
    rw [split]
    exact .of_front refused (.of_allowed allowed)
  obtain ⟨old, next, source, target⟩ :=
    ends_of_leaving closed (List.mem_of_find?_eq_some found) (passed.mem rfl)
  obtain ⟨l', concluded, stays⟩ := free.conclude_isAt at_ source target
  exact ⟨next.name, l', (Definition.stateAt_eq_ok target).2,
    (fire_of_considers found at_.2 at_.2 passed).trans concluded, stays⟩

/-- Where the candidates change nothing, the record is moved if and only if one passes. -/
theorem fire_true_iff
    (answers : ∀ t ∈ ev.leaving v, ∃ b, (e.allows (.str ev.name) t).run l = .ok b l) :
    (∃ l', (e.fire (.str name)).run l = .ok true l')
      ↔ ∃ t ∈ ev.leaving v, (e.allows (.str ev.name) t).run l = .ok true l := by
  obtain ⟨before, t, after, split, refused, allowed⟩ | refused := first_of_answers answers
  · obtain ⟨_, l', -, fired, -⟩ := free.fire_isAt closed found at_ split refused allowed
    exact iff_of_true ⟨l', fired⟩ ⟨t, split ▸ List.mem_append_cons_self, allowed⟩
  · have concluded := fire_of_considers found at_.2 at_.2 (.of_all_refused refused)
    refine iff_of_false (fun ⟨l', fired⟩ => ?_) fun ⟨t, ht, allowed⟩ => ?_
    · obtain ⟨_, _, -, answer⟩ := Run.run_bind_eq_ok.mp (concluded.symm.trans fired)
      cases answer
    · cases (refused t ht).symm.trans allowed

end Fire

end Unhindered

/-- A fire asks the transitions that leave the state of the record, those that can be asked for
before, in the order in which they were declared. It asks each for validity, and for the guard only
where the record is valid, and ends with the first that passes; of that one it takes the steps. If
none passes it does nothing but roll back. Where nobody hinders the engine it then answers that it
has not moved the record; and where the checks change nothing besides, it answers that it has if and
only if a candidate passes, and the record is then in the target of the first that does. If the
record is valid and the first candidate has no guard, that is the target that can be asked for
before. -/
theorem fire_first_eligible {config : Option (Table Value)} {options : Table Value} {d : Draft}
    {calls : List Draft.Call} {e : Engine} {name : String} {ev : Event} {W : Live → Prop}
    {v : Value} {l : Live} (begun : Draft.start config options = .ok d)
    (made : (Draft.afterAll calls d).machine? = .some e.machine)
    (found : e.machine.event? name = .some ev) (at_ : e.Shows W v l)
    (stand : e.ChecksStand W ev v) :
    let considers := e.Considers (.str ev.name) (ev.leaving v) l
    let fires := (e.fire (.str name)).run l
    let allows := fun t b => (e.allows (.str ev.name) t).run l = .ok b l
    ((ev.leaving v).Sublist ev.transitions
        ∧ ∀ t, t ∈ ev.leaving v ↔ t ∈ ev.transitions ∧ t.source = v)
      ∧ (e.nextTransitionsFor (.str name)).run l = .ok (ev.leaving v) l
      ∧ (∃ r l', considers r l')
      ∧ (∀ r l', considers r l' → fires = (e.conclude ev v r).run l')
      ∧ (∀ t l', considers (.ok (.some t)) l' → t ∈ ev.leaving v ∧ ∃ old next,
          e.machine.stateAt v = .ok old ∧ e.machine.stateAt t.target = .ok next
            ∧ (e.move (.str ev.name) t).run l'
              = (e.walk (.str ev.name) (e.machine.strides old next)).run l')
      ∧ ∀ {id : RecordId} {column : String}, e.Unhindered W id column →
          (∀ l', considers (.ok .none) l' →
            (∀ c, l'.value? id committedAttribute = .some c → c.isState = true) →
            ∃ l'', fires = .ok false l'')
          ∧ ((∀ t ∈ ev.leaving v, ∃ b, allows t b) →
            (∀ before t after, ev.leaving v = before ++ t :: after →
              (∀ u ∈ before, allows u false) → allows t true →
              ∃ c l', t.target = .str c ∧ fires = .ok true l' ∧ l'.IsAt W id column c)
            ∧ ((∃ l', fires = .ok true l') ↔ ∃ t ∈ ev.leaving v, allows t true)
            ∧ ∀ t ts, ev.leaving v = t :: ts → t.guard = .none →
              (e.isValid (.str ev.name)).run l = .ok true l →
              ∃ c l', (e.nextTargetFor (.str name)).run l = .ok (.str c) l
                ∧ fires = .ok true l' ∧ l'.IsAt W id column c) := by
  intro considers fires allows
  have closed := Draft.isClosed_of_machine? begun made
  have hev : ev ∈ e.machine.events := List.mem_of_find?_eq_some found
  have ordered : (ev.leaving v).Sublist ev.transitions := List.filter_sublist
  have candidates := nextTransitionsFor_run found at_.2
  have concludes (r : Except Stop (Option Transition)) (l' : Live) (h : considers r l') :
      fires = (e.conclude ev v r).run l' := fire_of_considers found at_.2 at_.2 h
  have shows {r : Except Stop (Option Transition)} {l' : Live} (h : considers r l') :
      e.Shows W v l' := h.keeps stand.checks stand.guards at_
  refine ⟨⟨ordered, fun t => mem_leaving_iff closed hev⟩, candidates, considers_total e _ _ l,
    concludes, fun t l' h => ?_, fun {id column} free => ?_⟩
  · have mem := h.mem rfl
    obtain ⟨old, next, source, target⟩ := ends_of_leaving closed hev mem
    exact ⟨mem, old, next, source, target, move_run (shows h).2 source target⟩
  · refine ⟨fun l' h textual => ?_, fun answers => ⟨fun before t after split refused allowed =>
      free.fire_isAt closed found at_ split refused allowed,
      free.fire_true_iff closed found at_ answers, fun t ts first guard valid => ?_⟩⟩
    · obtain ⟨l'', concluded⟩ := free.conclude_none (shows h) textual
      exact ⟨l'', (concludes _ _ h).trans concluded⟩
    · have allowed : allows t true := allows_of_unguarded guard valid
      have front : ev.leaving v = [] ++ t :: ts := first
      obtain ⟨c, l', target, fired, stays⟩ := free.fire_isAt closed found at_ front nofun allowed
      refine ⟨c, l', ?_, fired, stays⟩
      rw [nextTargetFor, Run.run_bind_ok candidates, first, ← target]
      rfl

end Engine

/-! ## Two candidates -/

/-- A guard that refuses. -/
def Callback.refuse : Callback := .script (.give (.lit (.bool false)))

/-- A draft for an event with two candidates, of which the first is refused, and for one without. -/
def Draft.Call.picky (observers : List Callback) : List Draft.Call := [
  .declareState "a" .none .none .none .none,
  .declareState "b" .none .none .none .none,
  .openEvent "go" ∅,
  .addEdges 0 { target := "a", sources := .ok ["a"], guard := .some .refuse },
  .addEdges 0 { target := "b", sources := .ok ["a"] },
  .leaveBlock 0 false,
  .openEvent "halt" ∅,
  .leaveBlock 1 false] ++ observers.map .observe ++ [.build]

def Machine.picky (observers : List Callback) : Machine where
  config := { initial := "a" }
  states := [{ name := "a" }, { name := "b" }]
  events := [{ name := "go", transitions := [
      { source := "a", target := "a", guard := .some .refuse }, { source := "a", target := "b" }] },
    { name := "halt" }]
  observers
  registry := .standard

def Scene.picky (observers : List Callback) : Scene :=
  .plain { machine? := fun id => if id = 0 then .some (Machine.picky observers) else .none }
    (.picky observers) 0 (Live.stateNames "state")

theorem Scene.picky_isFit (observers : List Callback) : (Scene.picky observers).IsFit :=
  Scene.plain_isFit rfl fun h => absurd (Value.str.inj h) (by decide)

theorem Scene.picky_room (observers : List Callback) :
    Live.Room (Scene.picky observers).World
      ((Scene.picky observers).setting.engineAt (.picky observers) 3) 0 "state" := by
  have unstamped : ∀ s ∈ (Machine.picky []).states, "state" ∉ s.stampFields := by decide
  exact Scene.plain_room (picky_isFit observers) rfl unstamped rfl 3

namespace Engine

/-- An engine of this machine. -/
def picky (observers : List Callback) : Engine :=
  (Scene.picky observers).setting.engineAt (.picky observers) 3

def pickyEvent : Event where
  name := "go"
  transitions := [{ source := "a", target := "a", guard := .some .refuse },
    { source := "a", target := "b" }]

/-- A record in `a`. -/
def pickyStart : Live := Live.blank.assign 0 "state" "a"

variable (observers : List Callback)

theorem picky_assign {l : Live} (w : (Scene.picky observers).World l) {name : String}
    (other : name ≠ "is_valid") (v : Value) : (Scene.picky observers).World (l.assign 0 name v) :=
  Live.Stands.assign w (fun mem => other (List.mem_singleton.mp mem)) v

theorem picky_shows : (picky observers).Shows (Scene.picky observers).World "a" pickyStart := by
  have w : (Scene.picky observers).World pickyStart :=
    picky_assign observers Scene.blank_plain (by decide) _
  have room := Scene.picky_room observers
  exact ⟨w, currentState_run (room.plain w) (room.openColumn w).isOrdinary rfl rfl⟩

theorem picky_valid {l : Live} (w : (Scene.picky observers).World l) (event : Value) :
    ((picky observers).isValid event).run l = .ok true l :=
  Run.run_bind_ok (Scene.check_run (Scene.picky_isFit observers) (.head _) rfl 3 event w) _

theorem picky_refuses {l : Live} (lasting : l.hasFarewells = false) (event s t : Value) :
    ((picky observers).guardPasses event
      { source := s, target := t, guard := .some .refuse }).run l = .ok false l := by
  have answered : ((picky observers).runAction event .refuse).run l = .ok (.bool false) l :=
    (Host.working_run lasting [] _).trans rfl
  exact (Run.run_bind_ok answered _).trans (Host.truth_run_bool false)

theorem picky_lasting {l : Live} (w : (Scene.picky observers).World l) :
    l.hasFarewells = false :=
  Scene.lasting_of_fit (Scene.picky_isFit observers) w

/-- Where the record is valid, the second candidate is the first that passes. -/
theorem picky_considers {l : Live} (lasting : l.hasFarewells = false)
    (valid : ((picky observers).isValid "go").run l = .ok true l) :
    (picky observers).Considers "go" pickyEvent.transitions l
      (.ok (.some { source := "a", target := "b" })) l :=
  .refused valid (picky_refuses observers lasting "go" "a" "a") (.passed valid rfl)

theorem picky_stands :
    (picky observers).ChecksStand (Scene.picky observers).World pickyEvent "a" where
  checks l at_ := by
    rw [Run.final_of_ok (picky_valid observers at_.1 _)]
    exact at_
  guards t ht l at_ := by
    have candidates : pickyEvent.leaving "a" = pickyEvent.transitions := rfl
    rw [candidates] at ht
    obtain rfl | ht := List.mem_cons.mp ht
    · rw [Run.final_of_ok (picky_refuses observers (picky_lasting observers at_.1) _ _ _)]
      exact at_
    · obtain rfl := List.mem_singleton.mp ht
      exact at_

/-- An observer that raises. -/
def pickyObserver : Callback := .script (.step (.raise .boom "no") .done)

theorem picky_free : (picky [pickyObserver]).Unhindered (Scene.picky [pickyObserver]).World 0
    "state" where
  toGround := (Scene.picky_room _).toGround
  unwatched := rfl
  held := rfl
  openColumn := (Scene.picky_room _).openColumn
  openCommitted := (Scene.picky_room _).openCommitted
  openStamps w s hs field hf _ := by
    have unsaid : ∀ s ∈ (Machine.picky []).states, ∀ field ∈ s.stampFields,
        (Lineage.ofClass Class.plainOnly 3).member? field = .none := by
      decide
    exact Live.Stands.isOpen w rfl (unsaid s hs field hf)
  readable _ := rfl
  acts s hs a ha := by
    have idle : ∀ s ∈ (Machine.picky []).states,
        s.enter.toList ++ (s.after ++ s.exit.toList) = [] := by
      decide
    rw [idle s hs] at ha
    cases ha
  observers args o ho l w := by
    obtain rfl := List.mem_singleton.mp ho
    have lasting := picky_lasting _ w
    have raised : (pickyObserver.call (picky [pickyObserver]).host args).run l
        = .error (.fault (.raised .boom "no")) l := (Host.working_run lasting args _).trans rfl
    have said : ((picky [pickyObserver]).host.message (.fault (.raised .boom "no"))).run l
        = .ok "no" l := congrArg (EStateM.run · l) (Host.message_of_text _ rfl)
    have told := notifyOne_run_reported raised rfl said
    have left : (picky [pickyObserver]).host.parted l (l.reporting "no") = l.reporting "no" := by
      rw [Host.parted, lasting]
      rfl
    rw [left] at told
    exact ⟨(), _, told, fun w => ⟨(Scene.picky_room _).noted _ w, fun _ _ => rfl⟩⟩

/-- The second candidate is taken, whatever becomes of the observer. -/
theorem fire_first_eligible_picky :
    let e := picky [pickyObserver]
    ∃ l', (e.fire "go").run pickyStart = .ok true l'
      ∧ l'.IsAt (Scene.picky [pickyObserver]).World 0 "state" "b" := by
  intro e
  have begun : Draft.start .none ⟨[("initial", "a")]⟩ = .ok { config := { initial := "a" } } := rfl
  have made : (Draft.afterAll (Draft.Call.picky [pickyObserver])
      { config := { initial := "a" } }).machine? = .some e.machine := rfl
  have found : e.machine.event? "go" = .some pickyEvent := rfl
  have at_ := picky_shows [pickyObserver]
  have valid := picky_valid _ at_.1 "go"
  have refused := picky_refuses [pickyObserver] (picky_lasting _ at_.1) "go" "a" "a"
  have first : (e.allows "go" { source := "a", target := "a", guard := .some .refuse }).run
      pickyStart = .ok false pickyStart := (Run.run_bind_ok valid _).trans refused
  have second : (e.allows "go" { source := "a", target := "b" }).run pickyStart
      = .ok true pickyStart := Run.run_bind_ok valid _
  obtain ⟨-, -, -, -, -, unhindered⟩ := fire_first_eligible begun made found at_ (picky_stands _)
  obtain ⟨-, decides⟩ := unhindered picky_free
  obtain ⟨moves, -, -⟩ := decides (List.forall_mem_cons.mpr
    ⟨⟨false, first⟩, List.forall_mem_singleton.mpr ⟨true, second⟩⟩)
  obtain ⟨c, l', target, fired, stays⟩ :=
    moves [_] _ [] rfl (List.forall_mem_singleton.mpr first) second
  cases target
  exact ⟨l', fired, stays⟩

/-! ## What can be in the way -/

/-- What a fire leaves before the observers are told. -/
def pickyEnd : Live := (pickyStart.assign 0 "state" "b").assign 0 committedAttribute "b"

/-- Nothing is in the way of the second candidate. -/
theorem picky_moves : ((picky observers).fireEvent pickyEvent).run pickyStart
    = .ok true pickyEnd := by
  let e := picky observers
  have at_ := picky_shows observers
  have passed := picky_considers observers (picky_lasting observers at_.1)
    (picky_valid observers at_.1 "go")
  have walks : e.Walks "go" (e.machine.strides { name := "a" } { name := "b" })
      pickyStart pickyEnd :=
    .on rfl (.on rfl (.on rfl (.on rfl (.on rfl (.on rfl (.stay _))))))
  have moved : (e.move "go" { source := "a", target := "b" }).run pickyStart = .ok () pickyEnd :=
    (move_run at_.2 rfl rfl).trans (walk_eq_ok.mpr walks)
  exact (fireEvent_of_considers at_.2 passed).trans (Run.run_bind_ok moved _)

theorem picky_ends : (picky observers).currentState.run pickyEnd = .ok "b" pickyEnd := by
  have room := Scene.picky_room observers
  have at_ := picky_shows observers
  have w : (Scene.picky observers).World pickyEnd :=
    picky_assign observers (picky_assign observers at_.1 (by decide) _) (by decide) _
  exact currentState_run (room.plain w) (room.openColumn w).isOrdinary rfl rfl

theorem picky_fire : ((picky observers).fire "go").run pickyStart = (do
    (picky observers).notify ["go", "a", "b"] observers
    return true : Run Bool).run pickyEnd := by
  have found : (picky observers).machine.event? "go" = .some pickyEvent := rfl
  rw [fire_eq, Definition.eventNamed_of_some found, Run.run_bind_ok (Run.run_lift_ok _ _),
    fireFound, Run.run_bind_ok (picky_shows observers).2, Run.run_bind_ok (picky_moves observers)]
  exact Run.run_bind_ok (picky_ends observers) _

end Engine

/-- A class whose records take no value for any attribute, and have a state and perhaps a committed
one from their class. -/
def Class.stubborn (own : List (String × Member)) : ClassBody :=
  Class.top ([(Hook.write.name, .method .star (.step (.raise .boom "no") .done)),
    ("state", .value (.str "a"))] ++ own)

/-- What such a class has for the committed state. -/
def Member.committing : String × Member := (committedAttribute, .value (.str "b"))

namespace Engine

/-- Such a record takes no other state. -/
theorem stubborn_fire :
    let l := Live.newOf (Class.stubborn [])
    ((picky []).fire "go").run l = .error (.fault (.raised .boom "no")) l := by
  intro l
  have shown : (picky []).currentState.run l = .ok "a" l := currentState_run_of_attr rfl
  have found : (picky []).machine.event? "go" = .some pickyEvent := rfl
  have trips : (picky []).Trips "go" ((picky []).machine.strides { name := "a" } { name := "b" })
      l (.fault (.raised .boom "no")) l :=
    ⟨_, .column "b", _, _, rfl, .on rfl (.on rfl (.on rfl (.on rfl (.stay _)))), rfl⟩
  rw [fire_of_considers found shown shown (picky_considers [] rfl rfl), conclude]
  exact Run.run_bind_error ((move_run shown rfl rfl).trans (walk_eq_error.mpr trips)) _

/-- Nor is one put back that its class gives as the committed one. -/
theorem stubborn_halt :
    let l := Live.newOf (Class.stubborn [Member.committing])
    ((picky []).nextTransitionsFor "halt").run l = .ok [] l
      ∧ ((picky []).fire "halt").run l = .error (.fault (.raised .boom "no")) l := by
  intro l
  have shown : (picky []).currentState.run l = .ok "a" l := currentState_run_of_attr rfl
  have found : (picky []).machine.event? "halt" = .some { name := "halt" } := rfl
  have considered : (picky []).Considers "halt" [] l (.ok .none) l := .none l
  have has : ((picky []).host.hasAttr (.str committedAttribute)).run l = .ok true l := rfl
  have committed : (picky []).committed.run l = .ok "b" l := rfl
  have differ : ((picky []).host.differ "a" "b").run l = .ok true l := Host.differ_run rfl rfl
  have back : (picky []).rollback.run l = .error (.fault (.raised .boom "no")) l := by
    rw [rollback, show (picky []).watch .rollback = pure () from rfl, pure_bind,
      Run.run_bind_ok has, if_pos rfl, Run.run_bind_ok committed, Run.run_bind_ok shown,
      Run.run_bind_ok differ, if_pos rfl]
    rfl
  refine ⟨nextTransitionsFor_run found shown, ?_⟩
  rw [fire_of_considers found shown shown considered, conclude]
  exact Run.run_bind_error back _

/-- Even where checks and actions do nothing, a fire for which a candidate passes may raise, or
leave the record committed elsewhere, and one for which none passes may raise: an observer may stop
it with a fault that is not ordinary, or commit the record anew, and the class of a record may refuse
what is written. -/
theorem picky_hindered :
    let passes := fun (e : Engine) (l : Live) =>
      (e.allows "go" { source := "a", target := "b" }).run l = .ok true l
    let fatal : Callback := .script (.step (.raise .fatal "no") .done)
    let meddling : Callback := .script (.step (.set committedAttribute (.lit "a")) .done)
    let stubborn := Live.newOf (Class.stubborn [])
    let committed := Live.newOf (Class.stubborn [Member.committing])
    (∀ os ∈ [[], [fatal], [meddling]],
        (Draft.afterAll (Draft.Call.picky os) { config := { initial := "a" } }).machine?
          = .some (picky os).machine)
      ∧ (passes (picky [fatal]) pickyStart ∧ ((picky [fatal]).fire "go").run pickyStart
        = .error (.fault (.raised .fatal "no")) pickyEnd)
      ∧ (passes (picky [meddling]) pickyStart ∧ ∃ l',
        ((picky [meddling]).fire "go").run pickyStart = .ok true l'
          ∧ l'.value? 0 committedAttribute = .some "a")
      ∧ (passes (picky []) stubborn
        ∧ ((picky []).fire "go").run stubborn = .error (.fault (.raised .boom "no")) stubborn)
      ∧ ((picky []).nextTransitionsFor "halt").run committed = .ok [] committed
      ∧ ((picky []).fire "halt").run committed
        = .error (.fault (.raised .boom "no")) committed := by
  intro passes fatal meddling stubborn committed
  refine ⟨?_, ⟨rfl, ?_⟩, ⟨rfl, ?_⟩, ⟨rfl, stubborn_fire⟩, stubborn_halt⟩
  · intro os mem
    simp only [List.mem_cons, List.not_mem_nil, or_false] at mem
    obtain rfl | rfl | rfl := mem <;> rfl
  · rw [picky_fire]
    rfl
  · rw [picky_fire]
    exact ⟨_, rfl, rfl⟩

end Engine

end Lifecycle
