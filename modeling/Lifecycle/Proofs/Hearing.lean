/-
Hearing: what becomes of a fire once the record has moved and its observers are told.

Every fire that has moved the record ends with its observers, followed one by one by
`Engine.Hears` (`Setting.fire_hears`): it does nothing to the record any longer. It
needs to read the state to tell of, which the record itself may prevent
(`Engine.shy_unheard`).
-/
import Lifecycle.Proofs.Choosing
import Lifecycle.Proofs.Observers

namespace Lifecycle

open Run (Keeps)

namespace Setting

/-- A fire that has moved the record, and can read where to, tells the observers and does nothing
more: it answers true when all were called, or stops with the first that stops otherwise than in an
ordinary way, or of which nothing can be said. -/
theorem fire_hears (s : Setting) (m : Machine) (n : Nat) (name : Value) {l l₁ l₂ l₃ l₄ : Live}
    {ev : Event} {old new : Value} (named : ((s.engineAt m n).eventNamed name).run l = .ok ev l₁)
    (before : (s.engineAt m n).currentState.run l₁ = .ok old l₂)
    (moved : ((s.engineAt m n).fireEvent ev).run l₂ = .ok true l₃)
    (after : (s.engineAt m n).currentState.run l₃ = .ok new l₄) :
    let e := s.engineAt m n
    let args := [.str ev.name, old, new]
    ∃ texts r l', e.Hears l.self args m.observers l₄ texts r l'
      ∧ (e.fire name).run l = (match r with | .ok _ => .ok true l' | .error stop => .error stop l')
      ∧ (∃ news, l'.log = l₄.log ++ news ∧ (texts.map Entry.mishap).Sublist news)
      ∧ ∀ (P : Live → Live → Prop) [IsPreorder Live P],
        (∀ o ∈ m.observers, Keeps P (o.call e.host args)) →
          (∀ stop, stop.isOrdinary = true → Keeps P (e.host.message stop)) →
            (∀ l text, P l (l.reporting text)) → (∀ l k, P k (e.host.parted l k)) → P l₄ l' := by
  intro e args
  have answers : e.host.IsSteady := s.answer_steady n
  have on : l₄.self = l.self := by
    have first := Run.final_of_ok named ▸ Engine.eventNamed_steady answers name l
    have second := Run.final_of_ok before ▸ Engine.currentState_steady answers l₁
    have third := Run.final_of_ok moved ▸ Engine.fireEvent_steady answers ev l₂
    have fourth := Run.final_of_ok after ▸ Engine.currentState_steady answers l₃
    exact fourth.self.trans (third.self.trans (second.self.trans first.self))
  have fired : (e.fire name).run l = (do
      e.notify args m.observers
      return true : Run Bool).run l₄ := by
    rw [Engine.fire, Run.run_bind_ok named, Run.run_bind_ok before, Run.run_bind_ok moved,
      if_pos rfl, Run.run_bind_ok after]
    rfl
  obtain ⟨texts, ended⟩ : ∃ texts,
      (e.notify args m.observers).Ends l₄ (e.Hears l.self args m.observers l₄ texts) :=
    Engine.notify_hears answers _ on
  cases told : (e.notify args m.observers).run l₄ with
  | ok _ l' =>
    rw [Run.Ends, told] at ended
    exact ⟨texts, _, l', ended, fired.trans (Run.run_bind_ok told _), ended.log answers,
      fun P _ calls messages reports partings => ended.keeps calls messages reports partings⟩
  | error stop l' =>
    rw [Run.Ends, told] at ended
    exact ⟨texts, _, l', ended, fired.trans (Run.run_bind_error told _), ended.log answers,
      fun P _ calls messages reports partings => ended.keeps calls messages reports partings⟩

/-- Of three observers, the first is reported and the second ends the fire, so that the third is not
called. -/
theorem fire_hears_picky :
    let raise (kind : Raised) : Callback := .script (.step (.raise kind "no") .done)
    let e := Engine.picky [raise .boom, raise .fatal, raise .boom]
    (e.fire "go").run Engine.pickyStart = .error (.fault (.raised .fatal "no"))
      (Engine.pickyEnd.reporting "no") := by
  intro raise e
  let os := [raise .boom, raise .fatal, raise .boom]
  have named : (e.eventNamed "go").run Engine.pickyStart
      = .ok Engine.pickyEvent Engine.pickyStart := by
    rw [Engine.eventNamed, Host.asText_str]
    rfl
  obtain ⟨texts, r, l', heard, ended, -⟩ := fire_hears (Scene.picky os).setting (.picky os) 3 "go"
    named (Engine.picky_shows os).2 (Engine.picky_moves os) (Engine.picky_ends os)
  have first : ((raise .boom).call e.host ["go", "a", "b"]).run Engine.pickyEnd
      = .error (.fault (.raised .boom "no")) Engine.pickyEnd := rfl
  have spoken : (e.host.message (.fault (.raised .boom "no"))).run Engine.pickyEnd
      = .ok "no" Engine.pickyEnd := congrArg (EStateM.run · _) (e.host.message_of_text rfl)
  have second : ((raise .fatal).call e.host ["go", "a", "b"]).run (Engine.pickyEnd.reporting "no")
      = .error (.fault (.raised .fatal "no")) (Engine.pickyEnd.reporting "no") := rfl
  change e.Hears _ _ [raise .boom, raise .fatal, raise .boom] _ _ _ _ at heard
  cases heard with
  | answered _ called => cases first.symm.trans called
  | stopped _ called grave =>
    cases first.symm.trans called
    cases grave
  | speechless _ called _ unsaid =>
    cases first.symm.trans called
    cases spoken.symm.trans unsaid
  | reported _ called _ said rest =>
    cases first.symm.trans called
    cases spoken.symm.trans said
    have left : e.host.parted Engine.pickyEnd (Engine.pickyEnd.reporting "no")
        = Engine.pickyEnd.reporting "no" := rfl
    rw [left] at rest
    cases rest with
    | answered _ called => cases second.symm.trans called
    | reported _ called ordinary | speechless _ called ordinary =>
      cases second.symm.trans called
      cases ordinary
    | stopped _ called =>
      cases second.symm.trans called
      exact ended

end Setting

namespace Engine

/-! ## A state that cannot be told of -/

/-- An exit action that leaves a method of the record in its column. -/
def shyExit : Callback := .script (.step (.set "state" (.attr "__repr__")) .done)

/-- An observer that notes that it was told. -/
def shyObserver : Callback := .script (.step (.log (.lit "told")) .done)

def shyEvent : Event where
  name := "go"
  transitions := [{ source := "a", target := "b" }]

end Engine

def Draft.Call.shy : List Draft.Call := [
  .declareState "a" .none .none (.some Engine.shyExit) .none,
  .declareState "b" .none .none .none .none,
  .openEvent "go" ∅,
  .addEdges 0 { target := "b", sources := .ok ["a"] },
  .leaveBlock 0 false,
  .observe Engine.shyObserver,
  .build]

def Machine.shy : Machine where
  config := { initial := "a" }
  states := [{ name := "a", exit := .some Engine.shyExit }, { name := "b" }]
  events := [Engine.shyEvent]
  observers := [Engine.shyObserver]
  registry := .standard

/-- A class whose records raise when they are to be written. -/
def Class.shy : ClassBody where
  members := Class.plain.members.set "__repr__" (.method .none (.step (.raise .boom "no") .done))

/-- A record of it in `a`. -/
def Live.shy : Live := (Live.newOf Class.shy).assign 0 "state" "a"

theorem Live.shy_plain : Live.shy.Plain 0 := by
  have stands : Live.shy.Stands (Class.first ++ [{ toClassBody := Class.shy }]) 3 0 [] :=
    ⟨rfl, rfl, rfl, nofun⟩
  exact stands.plain_of_names (fun use => by cases use <;> rfl) (by decide)

namespace Engine

def shy : Engine :=
  ({ machine? := fun id => if id = 0 then .some Machine.shy else .none } : Setting).engineAt .shy 3

/-- What the move leaves. -/
def shyEnd : Live :=
  ((Live.shy.assign 0 "state" "b").assign 0 committedAttribute "b").assign 0 "state"
    (.method (.record 0) 3 "__repr__" 0)

theorem shy_moves : shy.currentState.run Live.shy = .ok "a" Live.shy
    ∧ (shy.fireEvent shyEvent).run Live.shy = .ok true shyEnd := by
  have shown : shy.currentState.run Live.shy = .ok "a" Live.shy :=
    currentState_run Live.shy_plain (.inl rfl) rfl rfl
  have passed : shy.Considers "go" (shyEvent.leaving "a") Live.shy
      (.ok (.some { source := "a", target := "b" })) Live.shy := .passed rfl rfl
  have walks : shy.Walks "go" (shy.machine.strides { name := "a", exit := .some shyExit }
      { name := "b" }) Live.shy shyEnd :=
    .on rfl (.on rfl (.on rfl (.on rfl (.on rfl (.on rfl (.on rfl (.stay _)))))))
  have moved : (shy.move "go" { source := "a", target := "b" }).run Live.shy = .ok () shyEnd :=
    (move_run shown rfl rfl).trans (walk_eq_ok.mpr walks)
  exact ⟨shown, (fireEvent_of_considers shown passed).trans (Run.run_bind_ok moved _)⟩

/-- What the column holds then: to write the method is to write the record that it is bound to. -/
theorem shy_hidden :
    (shy.host.attr (.str "state")).run shyEnd = .ok (.method (.record 0) 3 "__repr__" 0) shyEnd
      ∧ (shy.host.asState (.method (.record 0) 3 "__repr__" 0)).run shyEnd
        = .error (.fault (.raised .boom "no")) shyEnd := by
  have plain : shyEnd.Plain 0 := ((Live.shy_plain.assign _ _).assign _ _).assign _ _
  have read := Host.attr_run_ordinary (h := shy.host) plain (.inl rfl : shyEnd.IsOrdinary 0 "state")
  have settled : shyEnd.settle (.method (.record 0) 3 "__repr__" 0)
      = .method (.record 0) 3 "__repr__" 0 := by simp [Live.settle, Shelf.settle, Shelf.settleIn]
  have asked : (shy.host.ask "__repr__" (.record 0) []).run shyEnd
      = .error (.fault (.raised .boom "no")) shyEnd := rfl
  have written : (shy.host.spell (.record 0)).run shyEnd
      = .error (.fault (.raised .boom "no")) shyEnd := by
    rw [Host.spell, Run.run_bind_error asked]
  have spelled : (shy.host.spelled (.method (.record 0) 3 "__repr__" 0)).run shyEnd
      = .error (.fault (.raised .boom "no")) shyEnd := by
    change (shy.host.spell (shyEnd.settle _)).run shyEnd = _
    rw [settled, Host.spell, if_neg (by decide), Run.run_bind_error written]
  exact ⟨read, Run.run_bind_error spelled _⟩

theorem shy_ends : shy.currentState.run shyEnd = .error (.fault (.raised .boom "no")) shyEnd := by
  obtain ⟨read, unshown⟩ := shy_hidden
  exact (Run.run_bind_ok read _).trans unshown

/-- The transition is performed, and its observer learns nothing of it. -/
theorem shy_unheard :
    (Draft.afterAll Draft.Call.shy { config := { initial := "a" } }).machine? = .some shy.machine
      ∧ shy.machine.event? "go" = .some shyEvent
      ∧ (shy.fireEvent shyEvent).run Live.shy = .ok true shyEnd
      ∧ (shy.fire "go").run Live.shy = .error (.fault (.raised .boom "no")) shyEnd
      ∧ shyEnd.log = [] := by
  refine ⟨rfl, rfl, shy_moves.2, ?_, rfl⟩
  have found : shy.machine.event? "go" = .some shyEvent := rfl
  rw [fire_eq, Definition.eventNamed_of_some found, Run.run_bind_ok (Run.run_lift_ok _ _),
    fireFound, Run.run_bind_ok shy_moves.1, Run.run_bind_ok shy_moves.2]
  exact Run.run_bind_error shy_ends _

end Engine

end Lifecycle
