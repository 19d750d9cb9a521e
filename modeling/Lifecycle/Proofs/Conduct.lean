/-
The conduct of user code: what it may do between two steps of the engine.

User code does things beside the machine, and fires events of the machine on the
record (`Setting.Does`); those fires let fewer requests wait than the engine that
called it. A relation that the engine's own steps keep, and that holds of
whatever is done beside the machine, is therefore kept by all user code of this
conduct, however deep its fires are nested: by induction on how many requests may
wait (`userKeeps_of_conduct`).
-/
import Lifecycle.Host
import Lifecycle.Proofs.World
import Mathlib.Logic.Relation

namespace Lifecycle

open Run (Keeps)

namespace Setting

/-- A host that lets at most `n` requests wait. -/
def hostAt (s : Setting) (n : Nat) : Host := { toSetting := s, answer := s.answer n }

/-- An engine on such a host that was given no clock. It is as general as one that was: requests are
counted over all clocks, so that one can show in a run what several do. -/
def engineAt (s : Setting) (m : Machine) (n : Nat) : Engine := { host := s.hostAt n, machine := m }

example (s : Setting) : s.hostAt depth = s.host := rfl

theorem engine_run {s : Setting} {m : Machine} {machine : MachineId}
    (hm : s.machine? machine = .some m) (n : Nat) (l : Live) :
    ((s.hostAt n).engine machine).run l = .ok (s.engineAt m n) l := by
  have found : (s.hostAt n).machineAt machine = .ok m := by
    change s.machineAt machine = _
    rw [machineAt, hm]
  rw [Host.engine, found]
  rfl

/-- One thing that user code does where at most `n` requests may wait: something beside the machine
that spares some attributes of the record, or the firing of an event. -/
inductive Does (s : Setting) (m : Machine) (W : Live → Prop) (id : RecordId) (names : List String)
    (n : Nat) : Live → Live → Prop where
  | aside {l l' : Live} (h : Live.Spares W id names l l') : Does s m W id names n l l'
  | fire {k : Nat} (h : k < n) (event : String) (l : Live) :
    Does s m W id names n l (((s.engineAt m k).fire (.str event)).final l)

/-- Any number of such things, one after the other. -/
def Conduct (s : Setting) (m : Machine) (W : Live → Prop) (id : RecordId) (names : List String)
    (n : Nat) : Live → Live → Prop :=
  Relation.ReflTransGen (s.Does m W id names n)

variable {s : Setting} {m : Machine} {W : Live → Prop} {id : RecordId} {names : List String}
  {n : Nat}

instance : IsPreorder Live (s.Conduct m W id names n) where
  refl _ := .refl
  trans _ _ _ h₁ h₂ := h₁.trans h₂

theorem Conduct.aside {l l' : Live} (h : Live.Spares W id names l l') :
    s.Conduct m W id names n l l' :=
  .single (.aside h)

/-- Where all that is done stays within a relation, a whole conduct does. -/
theorem Conduct.within {P : Live → Live → Prop} [IsPreorder Live P]
    (spares : ∀ l l', Live.Spares W id names l l' → P l l')
    (fires : ∀ k < n, ∀ event : String, Keeps P ((s.engineAt m k).fire (.str event)))
    {l l' : Live} (h : s.Conduct m W id names n l l') : P l l' := by
  induction h with
  | refl => exact refl_of P l
  | tail _ step before =>
    cases step with
    | aside h => exact trans_of P before (spares _ _ h)
    | fire hk event => exact trans_of P before (fires _ hk event _)

/-- What the engine's own steps keep, user code keeps that does nothing else but fire events. -/
theorem userKeeps_of_conduct {P : Live → Live → Prop} [IsPreorder Live P] {G : Callback → Prop}
    (own : ∀ n, (s.engineAt m n).OwnKeeps P)
    (spares : ∀ l l', Live.Spares W id names l l' → P l l')
    (users : ∀ n, (s.engineAt m n).UserKeeps G (s.Conduct m W id names n)) :
    ∀ n, (s.engineAt m n).UserKeeps G P := by
  intro n
  induction n using Nat.strongRecOn with
  | ind n before =>
    have fires : ∀ k < n, ∀ event : String, Keeps P ((s.engineAt m k).fire (.str event)) :=
      fun k hk event => Engine.fire_keeps (own k) (before k hk) event
    exact (users n).mono fun _ _ h => h.within spares fires

end Setting

end Lifecycle
