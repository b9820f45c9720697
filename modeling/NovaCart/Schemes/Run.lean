import Mathlib

/-! Runs of a labelled system.

    A system is a partial step function: `step s l = none` means that `l` is not enabled in `s`. A
    run is the list of the steps taken, newest first, so that a claim about what happened earlier
    reads the tail of the list. -/

namespace Schemes

variable {σ ℓ : Type}

/-- One committed step: the state before, the label, the state after. -/
structure Taken (σ ℓ : Type) where
  pre : σ
  label : ℓ
  post : σ

/-- `Exec step s₀ tr s`: the steps of `tr`, oldest last, lead from `s₀` to `s`. -/
inductive Exec (step : σ → ℓ → Option σ) (s₀ : σ) : List (Taken σ ℓ) → σ → Prop
  | nil : Exec step s₀ [] s₀
  | cons {tr : List (Taken σ ℓ)} {s s' : σ} {l : ℓ} (run : Exec step s₀ tr s)
      (hstep : step s l = some s') : Exec step s₀ (⟨s, l, s'⟩ :: tr) s'

variable {step : σ → ℓ → Option σ} {s₀ s : σ} {tr : List (Taken σ ℓ)}

/-- A state is reachable when some run leads to it. -/
def Reachable (step : σ → ℓ → Option σ) (s₀ s : σ) : Prop := ∃ tr, Exec step s₀ tr s

theorem Exec.reachable (h : Exec step s₀ tr s) : Reachable step s₀ s := ⟨tr, h⟩

/-- An invariant of the initial state that every step keeps holds at the end of every run. -/
theorem Exec.invariant {I : σ → Prop} (h₀ : I s₀)
    (hstep : ∀ {s l s'}, step s l = some s' → I s → I s') (h : Exec step s₀ tr s) : I s := by
  induction h with
  | nil => exact h₀
  | cons _ hs ih => exact hstep hs ih

/-- The same for an invariant that also reads the steps taken so far. -/
theorem Exec.history {I : List (Taken σ ℓ) → σ → Prop} (h₀ : I [] s₀)
    (hstep : ∀ {tr s l s'}, Exec step s₀ tr s → step s l = some s' → I tr s →
      I (⟨s, l, s'⟩ :: tr) s')
    (h : Exec step s₀ tr s) : I tr s := by
  induction h with
  | nil => exact h₀
  | cons run hs ih => exact hstep run hs ih

/-- Every step of a run was taken in a reachable state. -/
theorem Exec.taken (h : Exec step s₀ tr s) {t : Taken σ ℓ} (ht : t ∈ tr) :
    (∃ before, Exec step s₀ before t.pre) ∧ step t.pre t.label = some t.post := by
  induction h with
  | nil => cases ht
  | cons run hs ih =>
    rcases List.mem_cons.mp ht with rfl | hold
    · exact ⟨⟨_, run⟩, hs⟩
    · exact ih hold

/-- The steps before one of the steps of a run are steps of it. -/
theorem Exec.before (h : Exec step s₀ tr s) {t : Taken σ ℓ} (ht : t ∈ tr) :
    ∃ before, Exec step s₀ before t.pre ∧ before ⊆ tr := by
  induction h with
  | nil => cases ht
  | cons run hs ih =>
    rcases List.mem_cons.mp ht with rfl | hold
    · exact ⟨_, run, List.subset_cons_self ..⟩
    · obtain ⟨before, hbefore, hsub⟩ := ih hold
      exact ⟨before, hbefore, List.subset_cons_of_subset _ hsub⟩

/-- A run is the run up to one of its steps, the step and the run that goes on from there. -/
theorem Exec.split {later earlier : List (Taken σ ℓ)} {x : Taken σ ℓ}
    (h : Exec step s₀ (later ++ x :: earlier) s) :
    Exec step s₀ earlier x.pre ∧ step x.pre x.label = some x.post ∧ Exec step x.post later s := by
  induction later generalizing s with
  | nil =>
    rw [List.nil_append] at h
    cases h with
    | cons run hs => exact ⟨run, hs, .nil⟩
  | cons y later ih =>
    rw [List.cons_append] at h
    cases h with
    | cons run hs =>
      obtain ⟨hbefore, hx, hafter⟩ := ih run
      exact ⟨hbefore, hx, .cons hafter hs⟩

/-- A run goes on from where another one led. -/
theorem Exec.append {tr₀ : List (Taken σ ℓ)} {s₁ : σ} (h₀ : Exec step s₀ tr₀ s₁) (h : Exec step s₁ tr s) :
    Exec step s₀ (tr ++ tr₀) s := by
  induction h with
  | nil => exact h₀
  | cons _ hs ih => exact .cons ih hs

/-- The run that takes the given labels in order, from a state reached by the steps `tr`. -/
def follow (step : σ → ℓ → Option σ) :
    List (Taken σ ℓ) → σ → List ℓ → Option (List (Taken σ ℓ) × σ)
  | tr, s, [] => some (tr, s)
  | tr, s, l :: ls => (step s l).bind fun s' => follow step (⟨s, l, s'⟩ :: tr) s' ls

theorem follow_exec : ∀ {ls : List ℓ} {tr tr' : List (Taken σ ℓ)} {s s' : σ}, Exec step s₀ tr s →
    follow step tr s ls = some (tr', s') → Exec step s₀ tr' s'
  | [], _, _, _, _, h, hf => by cases hf; exact h
  | _ :: _, _, _, _, _, h, hf => by
      obtain ⟨_, hs, hf⟩ := Option.bind_eq_some_iff.mp hf
      exact follow_exec (.cons h hs) hf

/-- A run with a given property, from the labels it takes. -/
theorem exists_exec (step : σ → ℓ → Option σ) (s₀ : σ) {P : List (Taken σ ℓ) → σ → Prop}
    (ls : List ℓ) (h : ∃ r ∈ follow step [] s₀ ls, P r.1 r.2) : ∃ tr s, Exec step s₀ tr s ∧ P tr s := by
  obtain ⟨⟨tr, s⟩, hfollow, hP⟩ := h
  exact ⟨tr, s, follow_exec .nil hfollow, hP⟩

end Schemes
