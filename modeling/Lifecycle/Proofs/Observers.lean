/-
Observers: what becomes of the observers of a machine, one by one.

`Engine.Hears` follows them, whatever they do: each is called on the record of the
fire and with the same arguments, where the one before it left off. What stops one
in an ordinary way is asked for its text and costs one line on the error output;
any other stop ends the fire there, and so does a text that cannot be taken.
Nothing else is done between two observers, so that what all of them keep, and
reports and farewells do, is kept to the end (`Engine.Hears.keeps`). Where all
observers stop in ordinary ways that have a text, all are told
(`Engine.Hears.answers`).
-/
import Lifecycle.Proofs.Parting
import Lifecycle.Proofs.Steady

namespace Lifecycle

open Run (Keeps)

/-- The line that tells of what stopped an observer. -/
def Entry.mishap (text : String) : Entry :=
  .report ("record-fsm: on_transition callback error: " ++ text)

/-- With what stopped an observer told of. -/
def Live.reporting (l : Live) (text : String) : Live := { l with log := l.log ++ [.mishap text] }

/-- What was raised with a text says this text. -/
theorem Host.message_of_text (h : Host) {f : Fault} {text : String}
    (saying : f.saying = .value (.str text)) : h.message (.fault f) = pure text := by
  rw [message]
  simp only [saying]
  rw [asText_str]
  rfl

namespace Engine

/-! ## One observer -/

/-- Calls an observer, and reports what stops it in an ordinary way, which is asked for its text. -/
def heed (e : Engine) (args : List Value) (observer : Callback) : Run Unit :=
  tryCatch (do let _ ← observer.call e.host args) fun stop =>
    if stop.isOrdinary then e.report stop else throw stop

section One

variable {e : Engine} {args : List Value} {o : Callback} {l m : Live}

theorem heed_run_answered {v : Value} (called : (o.call e.host args).run l = .ok v m) :
    (e.heed args o).run l = .ok () m := by
  have answered : (do let _ ← o.call e.host args : Run Unit).run l = .ok () m :=
    Run.run_bind_ok called _
  exact Run.run_tryCatch_ok answered _

theorem heed_run_error {stop : Stop} (called : (o.call e.host args).run l = .error stop m) :
    (e.heed args o).run l
      = (if stop.isOrdinary then e.report stop else throw stop : Run Unit).run m := by
  have stopped : (do let _ ← o.call e.host args : Run Unit).run l = .error stop m :=
    Run.run_bind_error called _
  exact Run.run_tryCatch_error stopped _

theorem notifyOne_run_answered {v : Value} (called : (o.call e.host args).run l = .ok v m) :
    (e.notifyOne args o).run l = .ok () (e.host.parted l m) :=
  Host.passing_run_ok (heed_run_answered called)

variable {stop : Stop} (called : (o.call e.host args).run l = .error stop m)
include called

theorem notifyOne_run_reported (ordinary : stop.isOrdinary = true) {text : String} {k : Live}
    (said : (e.host.message stop).run m = .ok text k) :
    (e.notifyOne args o).run l = .ok () (e.host.parted l (k.reporting text)) := by
  refine Host.passing_run_ok ((heed_run_error called).trans ?_)
  rw [if_pos ordinary]
  exact Run.run_bind_ok said _

theorem notifyOne_run_speechless (ordinary : stop.isOrdinary = true) {again : Stop} {k : Live}
    (unsaid : (e.host.message stop).run m = .error again k) :
    (e.notifyOne args o).run l = .error again k := by
  refine Host.passing_run_error ((heed_run_error called).trans ?_)
  rw [if_pos ordinary]
  exact Run.run_bind_error unsaid _

theorem notifyOne_run_stopped (grave : stop.isOrdinary = false) :
    (e.notifyOne args o).run l = .error stop m := by
  refine Host.passing_run_error ((heed_run_error called).trans ?_)
  rw [if_neg (by rw [grave]; exact Bool.false_ne_true)]
  rfl

end One

/-! ## All observers -/

/-- Observers are called on `self` one after the other, each once and with the same arguments. Those
that stop in ordinary ways are reported, with these texts in this order; one that stops in any other
way is the last, and so is one of which nothing can be said. -/
inductive Hears (e : Engine) (self : Value) (args : List Value) :
    List Callback → Live → List String → Except Stop Unit → Live → Prop
  | all {l : Live} (on : l.self = self) : Hears e self args [] l [] (.ok ()) l
  | answered {o : Callback} {os : List Callback} {l m l' : Live} {v : Value} {texts : List String}
    {r : Except Stop Unit} (on : l.self = self) (called : (o.call e.host args).run l = .ok v m)
    (rest : Hears e self args os (e.host.parted l m) texts r l') :
    Hears e self args (o :: os) l texts r l'
  | reported {o : Callback} {os : List Callback} {l m k l' : Live} {stop : Stop} {text : String}
    {texts : List String} {r : Except Stop Unit} (on : l.self = self)
    (called : (o.call e.host args).run l = .error stop m) (ordinary : stop.isOrdinary = true)
    (said : (e.host.message stop).run m = .ok text k)
    (rest : Hears e self args os (e.host.parted l (k.reporting text)) texts r l') :
    Hears e self args (o :: os) l (text :: texts) r l'
  | speechless {o : Callback} {os : List Callback} {l m k : Live} {stop again : Stop}
    (on : l.self = self) (called : (o.call e.host args).run l = .error stop m)
    (ordinary : stop.isOrdinary = true) (unsaid : (e.host.message stop).run m = .error again k) :
    Hears e self args (o :: os) l [] (.error again) k
  | stopped {o : Callback} {os : List Callback} {l m : Live} {stop : Stop} (on : l.self = self)
    (called : (o.call e.host args).run l = .error stop m) (grave : stop.isOrdinary = false) :
    Hears e self args (o :: os) l [] (.error stop) m

variable {e : Engine} {self : Value} {args : List Value}

/-- To notify is to let all observers hear. -/
theorem notify_hears (answers : e.host.IsSteady) : ∀ (os : List Callback) {l : Live},
    l.self = self → ∃ texts, (e.notify args os).Ends l (e.Hears self args os l texts)
  | [], l, on => ⟨[], .all on⟩
  | o :: os, l, on => by
    -- Each observer leaves the run on the value that it was on, so the next one is called on it.
    have rest : ∀ m, (e.notifyOne args o).run l = .ok () m → ∃ texts,
        (e.notify args os).Ends m (e.Hears self args os m texts) := fun m told => by
      have onward := notifyOne_steady answers args o l
      rw [Run.final_of_ok told] at onward
      exact notify_hears answers os (onward.self.trans on)
    cases called : (o.call e.host args).run l with
    | ok v m =>
      have told := notifyOne_run_answered called
      obtain ⟨texts, ended⟩ := rest _ told
      exact ⟨texts, .bind_ok told (ended.mono fun r l' heard => .answered on called heard)⟩
    | error stop m =>
      cases ordinary : stop.isOrdinary with
      | false =>
        exact ⟨[], .bind_error (notifyOne_run_stopped called ordinary)
          (.stopped on called ordinary)⟩
      | true =>
        cases said : (e.host.message stop).run m with
        | error again k =>
          exact ⟨[], .bind_error (notifyOne_run_speechless called ordinary said)
            (.speechless on called ordinary said)⟩
        | ok text k =>
          have told := notifyOne_run_reported called ordinary said
          obtain ⟨texts, ended⟩ := rest _ told
          exact ⟨text :: texts, .bind_ok told (ended.mono fun r l' heard =>
            .reported on called ordinary said heard)⟩

/-- Observers that stop do so in ordinary ways of which something can be said. -/
def HasOrdinaryObservers (e : Engine) (W : Live → Prop) : Prop :=
  ∀ args, ∀ o ∈ e.machine.observers, ∀ l, W l → ∀ stop l',
    (o.call e.host args).run l = .error stop l' → stop.isOrdinary = true
      ∧ ∃ text m, (e.host.message stop).run l' = .ok text m

namespace Hears

variable {os : List Callback} {l l' : Live} {texts : List String} {r : Except Stop Unit}

/-- The fire itself does nothing to the record any longer. -/
theorem keeps {P : Live → Live → Prop} [IsPreorder Live P]
    (calls : ∀ o ∈ os, Keeps P (o.call e.host args))
    (messages : ∀ stop, stop.isOrdinary = true → Keeps P (e.host.message stop))
    (reports : ∀ l text, P l (l.reporting text)) (partings : ∀ l m, P m (e.host.parted l m))
    (h : e.Hears self args os l texts r l') : P l l' := by
  induction h with
  | all on => exact refl_of P _
  | @answered o os l m l' v texts r on called _ ih =>
    have call : P l m := Run.final_of_ok called ▸ calls o (.head _) l
    have rest := ih fun o ho => calls o (.tail _ ho)
    exact trans_of P call (trans_of P (partings l m) rest)
  | @reported o os l m k l' stop text texts r on called ordinary said _ ih =>
    have call : P l m := Run.final_of_error called ▸ calls o (.head _) l
    have asked : P m k := Run.final_of_ok said ▸ messages stop ordinary m
    have rest := ih fun o ho => calls o (.tail _ ho)
    have told : P k _ := trans_of P (reports k text) (trans_of P (partings l _) rest)
    exact trans_of P call (trans_of P asked told)
  | @speechless o os l m k stop again on called ordinary unsaid =>
    have call : P l m := Run.final_of_error called ▸ calls o (.head _) l
    exact trans_of P call (Run.final_of_error unsaid ▸ messages stop ordinary m)
  | @stopped o os l m stop on called _ =>
    exact Run.final_of_error called ▸ calls o (.head _) l

/-- Where all observers stop in ordinary ways of which something can be said, all of them hear. -/
theorem answers {W : Live → Prop} (ordinary : e.HasOrdinaryObservers W)
    (calls : ∀ o ∈ e.machine.observers, ∀ l, W l → W ((o.call e.host args).final l))
    (messages : ∀ stop, stop.isOrdinary = true → ∀ l, W l → W ((e.host.message stop).final l))
    (reports : ∀ l text, W l → W (l.reporting text)) (partings : ∀ l m, W m → W (e.host.parted l m))
    (among : ∀ o ∈ os, o ∈ e.machine.observers) (w : W l)
    (h : e.Hears self args os l texts r l') : r = .ok () := by
  induction h with
  | all => rfl
  | @answered o os l m l' v texts r on called _ ih =>
    have called' : W m := Run.final_of_ok called ▸ calls o (among o (.head _)) l w
    exact ih (fun o ho => among o (.tail _ ho)) (partings l m called')
  | @reported o os l m k l' stop text texts r on called isOrdinary said _ ih =>
    have called' : W m := Run.final_of_error called ▸ calls o (among o (.head _)) l w
    have asked : W k := Run.final_of_ok said ▸ messages stop isOrdinary m called'
    exact ih (fun o ho => among o (.tail _ ho)) (partings l _ (reports k text asked))
  | @speechless o os l m k stop again on called _ unsaid =>
    obtain ⟨-, text, k', said⟩ := ordinary args o (among o (.head _)) l w stop m called
    cases said.symm.trans unsaid
  | @stopped o os l m stop on called grave =>
    have isOrdinary := (ordinary args o (among o (.head _)) l w stop m called).1
    cases grave.symm.trans isOrdinary

theorem parted_onward (answers : e.host.IsSteady) (l m : Live) : m.Onward (e.host.parted l m) := by
  rw [Host.parted]
  split
  · have let_go := Host.letGo_steady answers { m with held := l.held }
    exact ⟨let_go.self, let_go.log⟩
  · exact refl_of Live.Onward m

/-- What was in the log stays there, and behind it there is a line for each text, in order. -/
theorem log (answers : e.host.IsSteady) (h : e.Hears self args os l texts r l') :
    ∃ news, l'.log = l.log ++ news ∧ (texts.map Entry.mishap).Sublist news := by
  induction h with
  | all on => exact ⟨[], (List.append_nil _).symm, .slnil⟩
  | @answered o os l m l' v texts r on called _ ih =>
    obtain ⟨later, left, lines⟩ := ih
    have call : l.Onward m := Run.final_of_ok called ▸ Callback.call_steady answers args o l
    obtain ⟨own, grown⟩ := (trans_of Live.Onward call (parted_onward answers l m)).log
    refine ⟨own ++ later, ?_, lines.trans (List.sublist_append_right own later)⟩
    rw [left, ← grown, List.append_assoc]
  | @reported o os l m k l' stop text texts r on called _ said _ ih =>
    obtain ⟨later, left, lines⟩ := ih
    have call : l.Onward m := Run.final_of_error called ▸ Callback.call_steady answers args o l
    have asked : m.Onward k := Run.final_of_ok said ▸ Host.message_steady answers stop m
    obtain ⟨own, grown⟩ := (trans_of Live.Onward call asked).log
    obtain ⟨gone, parted⟩ := (parted_onward answers l (k.reporting text)).log
    refine ⟨own ++ ([.mishap text] ++ (gone ++ later)), ?_, ?_⟩
    · rw [left, ← parted, Live.reporting, ← grown]
      simp only [List.append_assoc]
    · have behind := lines.trans (List.sublist_append_right gone later)
      exact (List.Sublist.cons_cons (Entry.mishap text) behind).trans
        (List.sublist_append_right own _)
  | @speechless o os l m k stop again on called _ unsaid =>
    have call : l.Onward m := Run.final_of_error called ▸ Callback.call_steady answers args o l
    have asked : m.Onward k := Run.final_of_error unsaid ▸ Host.message_steady answers stop m
    obtain ⟨own, grown⟩ := (trans_of Live.Onward call asked).log
    exact ⟨own, grown.symm, List.nil_sublist own⟩
  | @stopped o os l m stop on called _ =>
    obtain ⟨own, grown⟩ := (Run.final_of_error called ▸ Callback.call_steady answers args o l :
      l.Onward m).log
    exact ⟨own, grown.symm, List.nil_sublist own⟩

end Hears

end Engine

end Lifecycle
