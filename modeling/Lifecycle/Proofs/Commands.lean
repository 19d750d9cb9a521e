/-
Commands: what becomes of a workspace that is asked something.

What an engine does to a workspace, it does to what is under way there, and to
nothing else (`Workspace.onEngine_run`). So to put options inside a scope leaves that
scope and every registry as they were (`Command.scopeOptions_run`), and to ask for
validity is to ask for the errors (`Command.isValid_errors`).
-/
import Lifecycle.Command
import Lifecycle.Proofs.Ends

namespace Lifecycle

namespace Workspace

theorem lookUp_of_some {α : Type} {t : Table α} {id : String} {a : α} (there : t.get? id = .some a)
    (w : Workspace) : (lookUp t id).run w = .ok a w := by
  rw [lookUp, there]
  rfl

theorem lookUp_of_none {α : Type} {t : Table α} {id : String} (absent : t.get? id = .none)
    (w : Workspace) : (lookUp t id).run w = .error (.fault (.unbound id)) w := by
  rw [lookUp, absent]
  rfl

/-- What is asked of a draft changes nothing. -/
theorem provisional_run (id : MachineId) (w : Workspace) :
    (∃ m, (provisional id).run w = .ok m w) ∨ ∃ stop, (provisional id).run w = .error stop w := by
  have reached : (provisional id).run w = (found w.drafts[id]? >>= fun d =>
      return { toDefinition := d.toDefinition, registry := d.registry }).run w := rfl
  rw [reached]
  cases w.drafts[id]? with
  | none => exact .inr ⟨_, rfl⟩
  | some d => exact .inl ⟨_, rfl⟩

/-- What an engine does to a workspace it does to what is under way there. -/
theorem onEngine_run {α : Type} (m : Machine) (record : String) (watched : Bool)
    (run : Engine → Run α) (w : Workspace) : ∃ live,
      (∃ a, (onEngine m record watched run).run w = .ok a { w with live })
      ∨ ∃ stop, (onEngine m record watched run).run w = .error stop { w with live } := by
  have reached : (onEngine m record watched run).run w = (lookUp w.recordIds record >>= fun r =>
      onRecord r fun host => run { host, machine := m, watched }).run w := rfl
  rw [reached]
  cases there : w.recordIds.get? record with
  | none => exact ⟨w.live, .inr ⟨_, Run.run_bind_error (lookUp_of_none there w) _⟩⟩
  | some r =>
    rw [Run.run_bind_ok (lookUp_of_some there w)]
    cases ran : run { host := w.setting.host, machine := m, watched }
        { w.live with self := .record r } with
    | ok a l => exact ⟨l, .inl ⟨a, by simp only [onRecord, onValue, EStateM.run, ran]⟩⟩
    | error stop l => exact ⟨l, .inr ⟨stop, by simp only [onRecord, onValue, EStateM.run, ran]⟩⟩

end Workspace

namespace Command

/-- To put options inside a scope changes neither that scope nor a registry; only asking the new
condition can leave anything. -/
theorem scopeOptions_run (w : Workspace) (id record : String) (event : Value)
    (o : RuleOptions) : ∃ live,
      (∃ d s holds, w.scopeIds.get? id = .some (d, s)
        ∧ (scopeOptions id record event o).run.run w
          = .ok (.options (o.within s) holds) { w with live })
      ∨ ∃ stop, (scopeOptions id record event o).run.run w = .error stop { w with live } := by
  have reached : (scopeOptions id record event o).run.run w
      = (Workspace.lookUp w.scopeIds id >>= fun bound => do
          let holds ← Workspace.onEngine (← Workspace.provisional bound.1) record false
            (·.holds event (o.within bound.2).condition)
          return .options (o.within bound.2) holds).run w := by
    rw [Command.run]
    rfl
  rw [reached]
  cases there : w.scopeIds.get? id with
  | none => exact ⟨w.live, .inr ⟨_, Run.run_bind_error (Workspace.lookUp_of_none there w) _⟩⟩
  | some bound =>
    rw [Run.run_bind_ok (Workspace.lookUp_of_some there w)]
    obtain ⟨m, asked⟩ | ⟨stop, asked⟩ := Workspace.provisional_run bound.1 w
    · rw [Run.run_bind_ok asked]
      obtain ⟨live, ⟨holds, ran⟩ | ⟨stop, ran⟩⟩ := Workspace.onEngine_run m record false
        (·.holds event (o.within bound.2).condition) w
      · exact ⟨live, .inl ⟨bound.1, bound.2, holds, rfl, Run.run_bind_ok ran _⟩⟩
      · exact ⟨live, .inr ⟨stop, Run.run_bind_error ran _⟩⟩
    · exact ⟨w.live, .inr ⟨stop, Run.run_bind_error asked _⟩⟩

/-- The errors of a record. -/
def findErrors (of : Workspace.Source) (record : String) (event : Value) : Act (List Value) := do
  let m ← Workspace.provisional (← Workspace.idOfSource of)
  Workspace.onEngine m record false (·.errors event)

theorem errors_eq (of : Workspace.Source) (record : String) (event : Value) :
    (errors of record event).run = (do return .value (.list (← findErrors of record event))) := by
  simp only [Command.run, findErrors, bind_assoc]

theorem isValid_eq (of : Workspace.Source) (record : String) (event : Value) :
    (isValid of record event).run = (do return .ofBool (← findErrors of record event).isEmpty) := by
  simp only [Command.run, findErrors, bind_assoc]

/-- Whoever asks for validity does to a workspace what asking for the errors does, and learns
whether there are none. -/
theorem isValid_errors (w : Workspace) (of : Workspace.Source) (record : String) (event : Value) :
    (∃ messages w', (errors of record event).run.run w = .ok (.value (.list messages)) w'
        ∧ (isValid of record event).run.run w = .ok (.ofBool messages.isEmpty) w')
      ∨ ∃ stop w', (errors of record event).run.run w = .error stop w'
        ∧ (isValid of record event).run.run w = .error stop w' := by
  rw [errors_eq, isValid_eq]
  cases found : (findErrors of record event).run w with
  | ok messages w' => exact .inl ⟨messages, w', Run.run_bind_ok found _, Run.run_bind_ok found _⟩
  | error stop w' => exact .inr ⟨stop, w', Run.run_bind_error found _, Run.run_bind_error found _⟩

end Command

end Lifecycle
