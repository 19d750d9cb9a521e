/-
How runs end: what a run leaves behind whether it answers or stops, and what
follows for runs that are put together from others.

`Run.final` is what a run leaves. `Run.Keeps P` says that the run stays within
the relation `P`, wherever it begins and however it ends; for a preorder this
passes from the parts of a run to the whole (`Keeps.bind`, `Keeps.tryCatch`).
`Run.Ends` says of one start how the run ends there. A run that changes nothing
from a given start on is `Run.Idle` there. `Run.Behaves I W S` says that a run
which begins where `I` holds leads to where `W` holds, and in what ways it may
stop; this too passes from the parts to the whole (`Behaves.bind_run`).
-/
import Lifecycle.Run
import Mathlib.Order.Defs.Unbundled

namespace Lifecycle

namespace Run

variable {α β : Type}

/-- What a run leaves, whether it answers or stops. -/
def final (c : Run α) (l : Live) : Live :=
  match c.run l with
  | .ok _ l' | .error _ l' => l'

/-- Where `l` is the start, the run ends so that `Q` holds of how it ended and of what it left. -/
def Ends (c : Run α) (l : Live) (Q : Except Stop α → Live → Prop) : Prop :=
  match c.run l with
  | .ok a l' => Q (.ok a) l'
  | .error s l' => Q (.error s) l'

/-- What a run leaves is in the relation `P` to what it found. -/
def Keeps (P : Live → Live → Prop) (c : Run α) : Prop := ∀ l, P l (c.final l)

/-- From `l` on, a run changes nothing. -/
def Idle (c : Run α) (l : Live) : Prop := c.final l = l

/-! ## Single steps -/

theorem final_of_ok {c : Run α} {l l' : Live} {a : α} (h : c.run l = .ok a l') :
    c.final l = l' := by
  rw [final, h]

theorem final_of_error {c : Run α} {l l' : Live} {s : Stop} (h : c.run l = .error s l') :
    c.final l = l' := by
  rw [final, h]

theorem run_get (l : Live) : (get : Run Live).run l = .ok l l := rfl

theorem as_run_ok {c : Run α} {v : Value} {l m : Live} {a : α}
    (h : c.run { l with self := v } = .ok a m) :
    (as v c).run l = .ok a { m with self := l.self } := by
  have there : c { l with self := v } = .ok a m := h
  simp only [as, EStateM.run, there]

theorem as_run_error {c : Run α} {v : Value} {l m : Live} {s : Stop}
    (h : c.run { l with self := v } = .error s m) :
    (as v c).run l = .error s { m with self := l.self } := by
  have there : c { l with self := v } = .error s m := h
  simp only [as, EStateM.run, there]

theorem run_lift_ok (a : α) (l : Live) : (lift (.ok a) : Run α).run l = .ok a l := rfl

theorem lift_eq_ok {r : Except Fault α} {l l' : Live} {a : α} (h : (lift r).run l = .ok a l') :
    r = .ok a := by
  cases r with
  | ok b =>
    cases h
    rfl
  | error f => cases h

/-! ## Runs one after the other -/

section Bind

variable {ε σ : Type} {x : EStateM ε σ α} {s s' : σ}

theorem run_bind_ok {a : α} (h : x.run s = .ok a s') (f : α → EStateM ε σ β) :
    (x >>= f).run s = (f a).run s' := by
  change EStateM.bind x f s = _
  rw [EStateM.bind, show x s = .ok a s' from h]
  rfl

theorem run_bind_error {e : ε} (h : x.run s = .error e s') (f : α → EStateM ε σ β) :
    (x >>= f).run s = .error e s' := by
  change EStateM.bind x f s = _
  rw [EStateM.bind, show x s = .error e s' from h]

/-- A run that answers did so in both of its parts. -/
theorem run_bind_eq_ok {f : α → EStateM ε σ β} {b : β} :
    (x >>= f).run s = .ok b s' ↔ ∃ a m, x.run s = .ok a m ∧ (f a).run m = .ok b s' := by
  cases h : x.run s with
  | ok a m =>
    rw [run_bind_ok h]
    constructor
    · intro hb
      exact ⟨a, m, rfl, hb⟩
    · rintro ⟨a', m', heq, hb⟩
      cases heq
      exact hb
  | error s m =>
    rw [run_bind_error h]
    constructor
    · intro hb
      cases hb
    · rintro ⟨a', m', heq, -⟩
      cases heq

end Bind

theorem run_bind_congr {x y : Run α} {l l' : Live} (h : x.run l = y.run l') (f : α → Run β) :
    (x >>= f).run l = (y >>= f).run l' := by
  cases hy : y.run l' with
  | ok a m => rw [run_bind_ok (h.trans hy), run_bind_ok hy]
  | error s m => rw [run_bind_error (h.trans hy), run_bind_error hy]

/-- What follows has to do the same only where the first part can lead to it. -/
theorem run_bind_congr_right {x : Run α} {f g : α → Run β} {l : Live}
    (h : ∀ a m, x.run l = .ok a m → (f a).run m = (g a).run m) :
    (x >>= f).run l = (x >>= g).run l := by
  cases hx : x.run l with
  | ok a m => rw [run_bind_ok hx, run_bind_ok hx, h a m hx]
  | error s m => rw [run_bind_error hx, run_bind_error hx]

theorem run_tryCatch_ok {x : Run α} {l l' : Live} {a : α} (h : x.run l = .ok a l')
    (handler : Stop → Run α) : (tryCatch x handler).run l = .ok a l' := by
  have hx : x l = .ok a l' := h
  change EStateM.tryCatch x handler l = _
  delta EStateM.tryCatch
  rw [hx]

theorem run_tryCatch_error {x : Run α} {l l' : Live} {s : Stop} (h : x.run l = .error s l')
    (handler : Stop → Run α) : (tryCatch x handler).run l = (handler s).run l' := by
  have hx : x l = .error s l' := h
  change EStateM.tryCatch x handler l = _
  delta EStateM.tryCatch
  rw [hx]
  rfl

/-- One that stops did so in one of them. -/
theorem run_bind_eq_error {x : Run α} {f : α → Run β} {l l' : Live} {stop : Stop} :
    (x >>= f).run l = .error stop l' ↔
      x.run l = .error stop l' ∨ ∃ a m, x.run l = .ok a m ∧ (f a).run m = .error stop l' := by
  cases h : x.run l with
  | ok a m =>
    rw [run_bind_ok h]
    constructor
    · intro hf
      exact .inr ⟨a, m, rfl, hf⟩
    · rintro (heq | ⟨a', m', heq, hf⟩)
      · cases heq
      · cases heq
        exact hf
  | error s m =>
    rw [run_bind_error h]
    constructor
    · intro hs
      cases hs
      exact .inl rfl
    · rintro (heq | ⟨a', m', heq, -⟩)
      · cases heq
        rfl
      · cases heq

/-- How a run ended, and what it left. -/
theorem Ends.final {c : Run α} {l : Live} {Q : Except Stop α → Live → Prop} (h : c.Ends l Q) :
    ∃ r, Q r (c.final l) ∧ ∀ a, r = .ok a → c.run l = .ok a (c.final l) := by
  unfold Ends at h
  unfold Run.final
  split at h
  · next a l' hc =>
    refine ⟨.ok a, h, fun b hb => ?_⟩
    cases hb
    exact hc
  · next s l' hc =>
    refine ⟨.error s, h, fun b hb => ?_⟩
    cases hb

theorem Ends.of_ok {c : Run α} {l l' : Live} {Q : Except Stop α → Live → Prop} {a : α}
    (h : c.Ends l Q) (hr : c.run l = .ok a l') : Q (.ok a) l' := by
  unfold Ends at h
  rw [hr] at h
  exact h

theorem Ends.bind_ok {x : Run α} {f : α → Run β} {l m : Live} {a : α}
    {Q : Except Stop β → Live → Prop} (h : x.run l = .ok a m) (hf : (f a).Ends m Q) :
    (x >>= f).Ends l Q := by
  rw [Ends, run_bind_ok h]
  exact hf

theorem Ends.bind_error {x : Run α} {f : α → Run β} {l m : Live} {s : Stop}
    {Q : Except Stop β → Live → Prop} (h : x.run l = .error s m) (hs : Q (.error s) m) :
    (x >>= f).Ends l Q := by
  rw [Ends, run_bind_error h]
  exact hs

theorem Ends.mono {c : Run α} {l : Live} {Q R : Except Stop α → Live → Prop} (h : c.Ends l Q)
    (hQR : ∀ r m, Q r m → R r m) : c.Ends l R := by
  unfold Ends at h ⊢
  cases hc : c.run l with
  | ok a m => rw [hc] at h; exact hQR _ _ h
  | error s m => rw [hc] at h; exact hQR _ _ h

/-! ## What a run leaves -/

theorem final_bind_ok {x : Run α} {l l' : Live} {a : α} (h : x.run l = .ok a l') (f : α → Run β) :
    (x >>= f).final l = (f a).final l' := by
  simp only [final, run_bind_ok h]

theorem final_bind_error {x : Run α} {l l' : Live} {s : Stop} (h : x.run l = .error s l')
    (f : α → Run β) : (x >>= f).final l = l' := by
  rw [final, run_bind_error h]

/-- To answer something else changes nothing. -/
theorem final_bind_pure (x : Run α) (g : α → β) (l : Live) :
    (x >>= fun a => pure (g a)).final l = x.final l := by
  cases h : x.run l with
  | ok a m =>
    rw [final_bind_ok h, final_of_ok h]
    rfl
  | error s m => rw [final_bind_error h, final_of_error h]

theorem final_congr {x y : Run α} {l l' : Live} (h : x.run l = y.run l') :
    x.final l = y.final l' := by
  simp only [final, h]

theorem Idle.bind {x : Run α} {f : α → Run β} {l : Live} (hx : x.Idle l)
    (hf : ∀ a, (f a).Idle l) : (x >>= f).Idle l := by
  cases h : x.run l with
  | ok a m =>
    have hm : m = l := (final_of_ok h).symm.trans hx
    subst hm
    exact (final_bind_ok h f).trans (hf a)
  | error s m =>
    have hm : m = l := (final_of_error h).symm.trans hx
    exact (final_bind_error h f).trans hm

/-- An idle run that answers leaves what it found. -/
theorem Idle.eq_of_ok {x : Run α} {l l' : Live} {a : α} (hx : x.Idle l) (h : x.run l = .ok a l') :
    l' = l :=
  (final_of_ok h).symm.trans hx

/-- Where nothing changes at first, the rest is to end so from the same start. -/
theorem Ends.bind_idle {x : Run α} {f : α → Run β} {l : Live} {Q : Except Stop β → Live → Prop}
    (hx : x.Idle l) (hs : ∀ s, Q (.error s) l) (hf : ∀ a, x.run l = .ok a l → (f a).Ends l Q) :
    (x >>= f).Ends l Q := by
  cases h : x.run l with
  | ok a m =>
    have same : m = l := hx.eq_of_ok h
    subst same
    exact Ends.bind_ok h (hf a h)
  | error s m =>
    have same : m = l := (final_of_error h).symm.trans hx
    subst same
    exact Ends.bind_error h (hs s)

/-! ## Relations that runs keep -/

section Keeps

variable {P : Live → Live → Prop} {x : Run α} {f : α → Run β}

/-- What follows has to stay within the relation only where the first part can lead to it. -/
theorem Keeps.bind_of (hx : Keeps P x)
    (hf : ∀ a l l', x.run l = .ok a l' → P l ((f a).final l')) : Keeps P (x >>= f) := by
  intro l
  cases h : x.run l with
  | ok a m =>
    rw [final_bind_ok h]
    exact hf a l m h
  | error s m =>
    rw [final_bind_error h, ← final_of_error h]
    exact hx l

variable [IsPreorder Live P]

theorem Keeps.of_idle (h : ∀ l, x.Idle l) : Keeps P x := by
  intro l
  rw [h l]
  exact refl_of P l

theorem Keeps.pure (a : α) : Keeps P (pure a : Run α) := fun l => refl_of P l

theorem Keeps.throw (s : Stop) : Keeps P (throw s : Run α) := fun l => refl_of P l

theorem Keeps.fail (f : Fault) : Keeps P (Run.fail f : Run α) := Keeps.throw _

theorem Keeps.lift (r : Except Fault α) : Keeps P (Run.lift r) := by
  cases r with
  | ok a => exact Keeps.pure a
  | error f => exact Keeps.throw _

theorem Keeps.bind (hx : Keeps P x) (hf : ∀ a, Keeps P (f a)) : Keeps P (x >>= f) :=
  Keeps.bind_of hx fun a l m h => by
    have first : P l m := final_of_ok h ▸ hx l
    exact trans_of P first (hf a m)

theorem Keeps.tryCatch {handler : Stop → Run α} (hx : Keeps P x)
    (hh : ∀ s, Keeps P (handler s)) : Keeps P (tryCatch x handler) := by
  intro l
  cases h : x.run l with
  | ok a m =>
    rw [final_of_ok (run_tryCatch_ok h handler), ← final_of_ok h]
    exact hx l
  | error s m =>
    have first : P l m := final_of_error h ▸ hx l
    rw [final_congr (run_tryCatch_error h handler)]
    exact trans_of P first (hh s m)

omit [IsPreorder Live P] in
/-- With a fixed answer a run stays within what it keeps, and gives no other answer. -/
theorem Keeps.ends_bind_pure (hx : Keeps P x) (b : β) (l : Live) :
    (do let _ ← x; return b : Run β).Ends l fun r l' => P l l' ∧ ∀ b', r = .ok b' → b' = b := by
  have kept : P l (x.final l) := hx l
  cases h : x.run l with
  | ok a m =>
    rw [final_of_ok h] at kept
    rw [Ends, run_bind_ok h]
    exact ⟨kept, fun b' hb => (Except.ok.inj hb).symm⟩
  | error s m =>
    rw [final_of_error h] at kept
    rw [Ends, run_bind_error h]
    exact ⟨kept, fun b' hb => by cases hb⟩

end Keeps

/-! ## In what ways runs stop -/

section Behaving

/-- A run has ended where `W` holds, and if it stopped, then in one of the ways `S`. -/
inductive Behaved {α : Type} (W : Live → Prop) (S : Stop → Prop) :
    Except Stop α → Live → Prop where
  | ok {a : α} {l : Live} (w : W l) : Behaved W S (.ok a) l
  | error {stop : Stop} {l : Live} (w : W l) (h : S stop) : Behaved W S (.error stop) l

/-- From where `I` holds, a run leads to where `W` holds, and stops only in the ways `S`. -/
def Behaves {α : Type} (I W : Live → Prop) (S : Stop → Prop) (x : Run α) : Prop :=
  ∀ l, I l → x.Ends l (Behaved W S)

variable {α β : Type} {I J W : Live → Prop} {S T : Stop → Prop} {x : Run α} {f : α → Run β}

namespace Behaved

variable {r : Except Stop α} {l : Live}

theorem world (h : Behaved W S r l) : W l := by
  cases h with
  | ok w => exact w
  | error w _ => exact w

theorem stops {stop : Stop} (h : Behaved (α := α) W S (.error stop) l) : S stop := by
  cases h with
  | error _ hs => exact hs

theorem mono (h : Behaved W S r l) (hST : ∀ stop, S stop → T stop) : Behaved W T r l := by
  cases h with
  | ok w => exact .ok w
  | error w hs => exact .error w (hST _ hs)

end Behaved

namespace Behaves

theorem pure (a : α) : Behaves W W S (pure a : Run α) := fun _ w => .ok w

theorem throw {stop : Stop} (h : S stop) : Behaves W W S (throw stop : Run α) :=
  fun _ w => .error w h

theorem mono (h : Behaves I W S x) (hST : ∀ stop, S stop → T stop) : Behaves I W T x :=
  fun l hl => (h l hl).mono fun _ _ ended => ended.mono hST

theorem of_start (h : Behaves W W S x) (hIW : ∀ l, I l → W l) : Behaves I W S x :=
  fun l hl => h l (hIW l hl)

/-- What leads from one place to no other changes nothing there. -/
theorem idle {l : Live} (h : Behaves (· = l) (· = l) S x) : x.Idle l := by
  obtain ⟨_, ended, -⟩ := (h l rfl).final
  exact ended.world

theorem of_answers (hx : ∀ l, W l → ∃ a, x.run l = .ok a l) : Behaves W W S x := fun l w => by
  obtain ⟨a, answered⟩ := hx l w
  rw [Ends, answered]
  exact .ok w

/-- Where a run that behaves has answered. -/
theorem of_ok (hx : Behaves I W S x) {l l' : Live} {a : α} (hl : I l) (h : x.run l = .ok a l') :
    W l' :=
  ((hx l hl).of_ok h).world

/-- What follows may rely on where the first part has led to, and on how it has answered. -/
theorem bind_run (hx : Behaves I J S x) (hJW : ∀ l, J l → W l)
    (hf : ∀ l a m, I l → x.run l = .ok a m → J m → (f a).Ends m (Behaved W S)) :
    Behaves I W S (x >>= f) := by
  intro l hl
  have first := hx l hl
  cases h : x.run l with
  | ok a m =>
    rw [Ends, h] at first
    exact Ends.bind_ok h (hf l a m hl h first.world)
  | error stop m =>
    rw [Ends, h] at first
    exact Ends.bind_error h (.error (hJW m first.world) first.stops)

theorem bind_of (hx : Behaves I J S x) (hJW : ∀ l, J l → W l) (hf : ∀ a, Behaves J W S (f a)) :
    Behaves I W S (x >>= f) :=
  hx.bind_run hJW fun _ a m _ _ hm => hf a m hm

theorem bind (hx : Behaves I W S x) (hf : ∀ a, Behaves W W S (f a)) : Behaves I W S (x >>= f) :=
  hx.bind_of (fun _ w => w) hf

/-- A first part with a known answer that changes nothing can be passed over. -/
theorem bind_answer {a : α} (hx : ∀ l, I l → x.run l = .ok a l) (hf : Behaves I W S (f a)) :
    Behaves I W S (x >>= f) := fun l hl => Ends.bind_ok (hx l hl) (hf l hl)

/-- A first part that always answers and changes nothing can be passed over. -/
theorem bind_answers (hx : ∀ l, I l → ∃ a, x.run l = .ok a l) (hf : ∀ a, Behaves I W S (f a)) :
    Behaves I W S (x >>= f) := fun l hl => by
  obtain ⟨a, answered⟩ := hx l hl
  exact Ends.bind_ok answered (hf a l hl)

theorem tryCatch {handler : Stop → Run α} (hx : Behaves I W T x)
    (hh : ∀ stop, T stop → Behaves W W S (handler stop)) :
    Behaves I W S (tryCatch x handler) := by
  intro l hl
  have first := hx l hl
  cases h : x.run l with
  | ok a m =>
    rw [Ends, h] at first
    rw [Ends, run_tryCatch_ok h]
    exact .ok first.world
  | error stop m =>
    rw [Ends, h] at first
    rw [Ends, run_tryCatch_error h]
    exact hh stop first.stops m first.world

end Behaves

end Behaving

end Run

namespace Live

/-- What held before holds after. -/
def Along (I : Live → Prop) (l l' : Live) : Prop := I l → I l'

instance (I : Live → Prop) : IsPreorder Live (Along I) where
  refl _ h := h
  trans _ _ _ h₁ h₂ h := h₂ (h₁ h)

end Live

end Lifecycle
