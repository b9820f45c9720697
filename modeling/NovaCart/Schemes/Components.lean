import NovaCart.Schemes.Run

/-! Components of a system.

    Each step of the larger system is a step of the component, or leaves it as it is. A run of the system then
    contains a run of the component, and what is known of those holds in it. -/

namespace Schemes

variable {σ τ ℓ κ : Type} {step : σ → ℓ → Option σ} {big : τ → κ → Option τ}
variable {part : τ → σ} {own : κ → Option ℓ}

/-- `part` is the component's state, and `own` the label of its step where a step of the system is one. -/
structure Component (step : σ → ℓ → Option σ) (big : τ → κ → Option τ) (part : τ → σ) (own : κ → Option ℓ) : Prop where
  moved : ∀ {t t' : τ} {m : κ} {l : ℓ}, big t m = some t' → own m = some l → step (part t) l = some (part t')
  kept : ∀ {t t' : τ} {m : κ}, big t m = some t' → own m = none → part t' = part t

/-- The component's step that a step of the system is. -/
def Taken.inPart (part : τ → σ) (own : κ → Option ℓ) (x : Taken τ κ) : Option (Taken σ ℓ) :=
  (own x.label).map fun l => ⟨part x.pre, l, part x.post⟩

/-- A run of the system contains a run of the component. -/
theorem Exec.component (hc : Component step big part own) {t₀ t : τ} {tr : List (Taken τ κ)}
    (h : Exec big t₀ tr t) : Exec step (part t₀) (tr.filterMap (Taken.inPart part own)) (part t) := by
  induction h with
  | nil => exact .nil
  | cons run hs ih =>
    rename_i tr t t' m
    cases hown : own m with
    | none =>
      rw [List.filterMap_cons_none (by simp [Taken.inPart, hown]), hc.kept hs hown]
      exact ih
    | some l =>
      have hpart : Taken.inPart part own ⟨t, m, t'⟩ = some ⟨part t, l, part t'⟩ := by simp [Taken.inPart, hown]
      rw [List.filterMap_cons_some hpart]
      exact .cons ih (hc.moved hs hown)

/-- What one of the component's steps led to, the system's step led to. -/
theorem Taken.mem_inPart {tr : List (Taken τ κ)} {y : Taken σ ℓ} (h : y ∈ tr.filterMap (Taken.inPart part own)) :
    ∃ x ∈ tr, part x.pre = y.pre ∧ part x.post = y.post := by
  obtain ⟨x, hx, hpart⟩ := List.mem_filterMap.mp h
  obtain ⟨l, _, rfl⟩ := Option.map_eq_some_iff.mp hpart
  exact ⟨x, hx, rfl, rfl⟩

end Schemes
