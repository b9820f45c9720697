import Mathlib

/-! Fallible computations and guarded writes.

    A service call is a chain of reads, checks and guarded writes that either runs to the end or
    fails and changes nothing. `bind_ok` peels one such chain apart. `Writes` is the trace of the
    writes a call performed: each one passed the store's own guard and satisfied a predicate `P` on
    the state before it, so that a fact about single writes becomes a fact about whole calls. -/

namespace Schemes

section Except

variable {ε α β : Type}

theorem bind_ok {x : Except ε α} {f : α → Except ε β} {b : β} (h : (x >>= f) = .ok b) :
    ∃ a, x = .ok a ∧ f a = .ok b := by
  cases x with
  | error e => cases h
  | ok a => exact ⟨a, rfl, h⟩

/-- A sequence succeeds when its parts do. -/
theorem bind_succeeds {x : Except ε α} {f : α → Except ε β} (hx : ∃ a, x = .ok a)
    (hf : ∀ a, x = .ok a → ∃ b, f a = .ok b) : ∃ b, (x >>= f) = .ok b := by
  obtain ⟨a, rfl⟩ := hx
  exact hf a rfl

@[simp] theorem ok_bind (a : α) (f : α → Except ε β) : ((.ok a : Except ε α) >>= f) = f a := rfl

@[simp] theorem error_bind (e : ε) (f : α → Except ε β) :
    ((.error e : Except ε α) >>= f) = .error e := rfl

@[simp] theorem pure_eq_ok (a : α) : (pure a : Except ε α) = .ok a := rfl

/-- Fails with `e` unless the condition holds. -/
def require (c : Prop) [Decidable c] (e : ε) : Except ε Unit :=
  if c then .ok () else .error e

@[simp] theorem require_eq_ok {c : Prop} [Decidable c] {e : ε} {u : Unit} :
    require c e = .ok u ↔ c := by
  unfold require
  by_cases hc : c
  · simp [hc]
  · simp [hc]

theorem require_bind_ok {c : Prop} [Decidable c] {e : ε} {f : Unit → Except ε β} {b : β}
    (h : (require c e >>= f) = .ok b) : c ∧ f () = .ok b := by
  obtain ⟨_, hc, hf⟩ := bind_ok h
  exact ⟨require_eq_ok.mp hc, hf⟩

/-- The row a lookup must find. -/
def need (o : Option α) (e : ε) : Except ε α :=
  match o with
  | some a => .ok a
  | none => .error e

@[simp] theorem need_eq_ok {o : Option α} {e : ε} {a : α} : need o e = .ok a ↔ o = some a := by
  cases o with
  | none => simp [need]
  | some b => simp [need]

theorem need_bind_ok {o : Option α} {e : ε} {f : α → Except ε β} {b : β}
    (h : (need o e >>= f) = .ok b) : ∃ a, o = some a ∧ f a = .ok b := by
  obtain ⟨a, ha, hf⟩ := bind_ok h
  exact ⟨a, need_eq_ok.mp ha, hf⟩

end Except

section Writes

variable {σ ω ε : Type}

/-- `Writes write P s s'`: some sequence of accepted writes leads from `s` to `s'`, and `P` held of
    each write in the state it was made in. -/
inductive Writes (write : σ → ω → Except ε σ) (P : σ → ω → Prop) : σ → σ → Prop
  | refl (s : σ) : Writes write P s s
  | head {s s₁ s' : σ} (w : ω) (hP : P s w) (hw : write s w = .ok s₁)
      (rest : Writes write P s₁ s') : Writes write P s s'

variable {write : σ → ω → Except ε σ} {P Q : σ → ω → Prop}

theorem Writes.single {s s' : σ} (w : ω) (hP : P s w) (hw : write s w = .ok s') :
    Writes write P s s' := .head w hP hw (.refl s')

theorem Writes.trans {s₁ s₂ s₃ : σ} (h₁ : Writes write P s₁ s₂) (h₂ : Writes write P s₂ s₃) :
    Writes write P s₁ s₃ := by
  induction h₁ with
  | refl _ => exact h₂
  | head w hP hw _ ih => exact .head w hP hw (ih h₂)

theorem Writes.mono (hPQ : ∀ s w, P s w → Q s w) {s s' : σ} (h : Writes write P s s') :
    Writes write Q s s' := by
  induction h with
  | refl s => exact .refl s
  | head w hP hw _ ih => exact .head w (hPQ _ w hP) hw ih

/-- What every single write relates, a whole call relates. -/
theorem Writes.relates {R : σ → σ → Prop} (hrefl : ∀ s, R s s)
    (htrans : ∀ {a b c}, R a b → R b c → R a c)
    (hstep : ∀ {s w s'}, P s w → write s w = .ok s' → R s s')
    {s s' : σ} (h : Writes write P s s') : R s s' := by
  induction h with
  | refl s => exact hrefl s
  | head w hP hw _ ih => exact htrans (hstep hP hw) ih

/-- What every single write preserves, a whole call preserves. -/
theorem Writes.invariant {I : σ → Prop}
    (hstep : ∀ {s w s'}, P s w → write s w = .ok s' → I s → I s')
    {s s' : σ} (h : Writes write P s s') (hI : I s) : I s' := by
  induction h with
  | refl s => exact hI
  | head w hP hw _ ih => exact ih (hstep hP hw hI)

end Writes

end Schemes
