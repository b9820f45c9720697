import Mathlib

/-! A list of transactions, one after the other.

    Each item is handled in a transaction of its own; one that fails leaves the state as it was. What
    holds after a whole list is proved item by item, with the items handled so far at hand, and a result
    that reads them only as a set holds for every order and every repetition of them. -/

namespace Schemes

variable {σ α ε : Type}

/-- One transaction: its result, or the state it started from. -/
def commit (f : σ → α → Except ε σ) (s : σ) (x : α) : σ :=
  match f s x with
  | .ok s' => s'
  | .error _ => s

theorem commit_of_ok {f : σ → α → Except ε σ} {s s' : σ} {x : α} (h : f s x = .ok s') :
    commit f s x = s' := by
  simp [commit, h]

theorem commit_cases (f : σ → α → Except ε σ) (s : σ) (x : α) :
    f s x = .ok (commit f s x) ∨ commit f s x = s := by
  unfold commit
  cases f s x with
  | ok s' => exact .inl rfl
  | error _ => exact .inr rfl

/-- The transactions of a list, in its order. -/
def commitAll (f : σ → α → Except ε σ) (s : σ) (xs : List α) : σ := xs.foldl (commit f) s

@[simp] theorem commitAll_nil (f : σ → α → Except ε σ) (s : σ) : commitAll f s [] = s := rfl

@[simp] theorem commitAll_cons (f : σ → α → Except ε σ) (s : σ) (x : α) (xs : List α) :
    commitAll f s (x :: xs) = commitAll f (commit f s x) xs := rfl

theorem commitAll_append (f : σ → α → Except ε σ) (s : σ) (xs ys : List α) :
    commitAll f s (xs ++ ys) = commitAll f (commitAll f s xs) ys := List.foldl_append ..

/-- What each transaction takes from the items handled so far to those and its own item holds of the
    whole list at the end. -/
theorem commitAll_invariant {f : σ → α → Except ε σ} {I : List α → σ → Prop} {s : σ} (xs : List α)
    (h₀ : I [] s)
    (hstep : ∀ done s, ∀ x ∈ xs, I done s → I (done ++ [x]) (commit f s x)) :
    I xs (commitAll f s xs) := by
  induction xs using List.reverseRecOn with
  | nil => exact h₀
  | append_singleton xs x ih =>
    have hxs := ih fun done s y hy => hstep done s y (List.mem_append_left _ hy)
    rw [commitAll_append]
    exact hstep xs _ x (by simp) hxs

/-! ### Items that settle the state -/

/-- Items of two sorts, as they act on `s`. One that `ends` settles the state for good; the others may
    be repeated, and an item that ends does the same before and after them. -/
structure Absorbs (f : σ → α → Except ε σ) (ends : α → Bool) (s : σ) (xs : List α) : Prop where
  repeated : ∀ x ∈ xs, ∀ y ∈ xs, ∀ s₁, ends x = false → ends y = false → f s x = .ok s₁ →
    commit f s₁ y = s₁
  passed : ∀ x ∈ xs, ∀ y ∈ xs, ∀ s₁, ends x = false → ends y = true → f s x = .ok s₁ → f s₁ y = f s y
  closed : ∀ x ∈ xs, ∀ y ∈ xs, ∀ s₁, ends x = true → f s x = .ok s₁ → commit f s₁ y = s₁

/-- The item never commits from the state. -/
def Refused (f : σ → α → Except ε σ) (s : σ) (x : α) : Prop := ∀ s', f s x ≠ .ok s'

/-- The state is what one of the items makes of `s`: one that ends, if any of those commits. -/
def SettledBy (f : σ → α → Except ε σ) (ends : α → Bool) (s : σ) (xs : List α) (s' : σ) : Prop :=
  (∃ x ∈ xs, ends x = true ∧ f s x = .ok s') ∨
    ((∀ x ∈ xs, ends x = true → Refused f s x) ∧
      ((∃ x ∈ xs, ends x = false ∧ f s x = .ok s') ∨
        ((∀ x ∈ xs, ends x = false → Refused f s x) ∧ s' = s)))

theorem refused_or_ok (f : σ → α → Except ε σ) (s : σ) (x : α) :
    Refused f s x ∨ ∃ s', f s x = .ok s' := by
  cases h : f s x with
  | ok s' => exact .inr ⟨s', rfl⟩
  | error e => exact .inl fun s' hs' => by rw [h] at hs'; cases hs'

theorem Refused.commit {f : σ → α → Except ε σ} {s : σ} {x : α} (h : Refused f s x) :
    commit f s x = s := by
  rcases commit_cases f s x with hok | hsame
  · exact absurd hok (h _)
  · exact hsame

/-- A whole list leaves what one of its items would have left alone. -/
theorem Absorbs.settledBy {f : σ → α → Except ε σ} {ends : α → Bool} {s : σ} {xs : List α}
    (h : Absorbs f ends s xs) : SettledBy f ends s xs (commitAll f s xs) := by
  have hall : (∀ x ∈ xs, x ∈ xs) ∧ SettledBy f ends s xs (commitAll f s xs) := by
    refine commitAll_invariant (I := fun done s' => (∀ x ∈ done, x ∈ xs) ∧ SettledBy f ends s done s') xs
      ⟨by simp, .inr ⟨by simp, .inr ⟨by simp, rfl⟩⟩⟩ fun done s' x hx ⟨hsub, hI⟩ => ⟨?_, ?_⟩
    · exact List.forall_mem_append.mpr ⟨hsub, by simpa using hx⟩
    have hmore : ∀ {b}, (∀ y ∈ done, ends y = b → Refused f s y) → (ends x = b → Refused f s x) →
        ∀ y ∈ done ++ [x], ends y = b → Refused f s y :=
      fun hold hnew => List.forall_mem_append.mpr ⟨hold, by simpa using hnew⟩
    have hlast : x ∈ done ++ [x] := by simp
    have hno : ∀ {b}, ends x = !b → ends x = b → Refused f s x := by
      intro b hb hb'
      rw [hb] at hb'
      cases b <;> cases hb'
    rcases hI with ⟨y, hy, hends, hok⟩ | ⟨hrefused, ⟨y, hy, hsoft, hok⟩ | ⟨hsofts, hsame⟩⟩
    · -- settled already
      rw [h.closed y (hsub y hy) x hx s' hends hok]
      exact .inl ⟨y, List.mem_append_left _ hy, hends, hok⟩
    · have hy' : y ∈ done ++ [x] := List.mem_append_left _ hy
      cases hends : ends x with
      | false =>
        rw [h.repeated y (hsub y hy) x hx s' hsoft hends hok]
        exact .inr ⟨hmore hrefused (hno hends), .inl ⟨y, hy', hsoft, hok⟩⟩
      | true =>
        have hpassed := h.passed y (hsub y hy) x hx s' hsoft hends hok
        rcases refused_or_ok f s x with hrefuse | ⟨s₁, hs₁⟩
        · have hrefuse' : Refused f s' x := fun s₂ hs₂ => hrefuse s₂ (hpassed.symm.trans hs₂)
          rw [hrefuse'.commit]
          exact .inr ⟨hmore hrefused fun _ => hrefuse, .inl ⟨y, hy', hsoft, hok⟩⟩
        · rw [commit_of_ok (hpassed.trans hs₁)]
          exact .inl ⟨x, hlast, hends, hs₁⟩
    · rw [hsame]
      rcases refused_or_ok f s x with hrefuse | ⟨s₁, hs₁⟩
      · rw [hrefuse.commit]
        exact .inr ⟨hmore hrefused fun _ => hrefuse, .inr ⟨hmore hsofts fun _ => hrefuse, rfl⟩⟩
      · rw [commit_of_ok hs₁]
        cases hends : ends x with
        | true => exact .inl ⟨x, hlast, hends, hs₁⟩
        | false => exact .inr ⟨hmore hrefused (hno hends), .inl ⟨x, hlast, hends, hs₁⟩⟩
  exact hall.2

/-- Some item of the second list commits whenever the given one does. -/
def Answers (f : σ → α → Except ε σ) (ends : α → Bool) (s : σ) (x : α) (ys : List α) : Prop :=
  ∃ y ∈ ys, ends y = ends x ∧ ∀ a, f s x = .ok a → ∃ b, f s y = .ok b

/-- Two lists whose items answer each other leave related states. -/
theorem SettledBy.agree {f : σ → α → Except ε σ} {ends : α → Bool} {R : σ → σ → Prop} {s s₁ s₂ : σ}
    {xs ys : List α} (hrefl : R s s) (hxy : ∀ x ∈ xs, Answers f ends s x ys)
    (hyx : ∀ y ∈ ys, Answers f ends s y xs)
    (hR : ∀ x ∈ xs, ∀ y ∈ ys, ∀ a b, ends x = ends y → f s x = .ok a → f s y = .ok b → R a b)
    (h₁ : SettledBy f ends s xs s₁) (h₂ : SettledBy f ends s ys s₂) : R s₁ s₂ := by
  -- what one list commits, the other commits too
  have hclash : ∀ {xs ys : List α} {x : α} {a : σ}, (∀ x ∈ xs, Answers f ends s x ys) → x ∈ xs →
      f s x = .ok a → (∀ y ∈ ys, ends y = ends x → Refused f s y) → False := by
    intro xs ys x a hans hx hok hrefused
    obtain ⟨y, hy, hends, hcommits⟩ := hans x hx
    obtain ⟨b, hb⟩ := hcommits a hok
    exact hrefused y hy hends b hb
  rcases h₁ with ⟨x, hx, hends, hok⟩ | ⟨hrefused, hsoft⟩
  · rcases h₂ with ⟨y, hy, hends', hok'⟩ | ⟨hrefused', _⟩
    · exact hR x hx y hy s₁ s₂ (hends.trans hends'.symm) hok hok'
    · exact (hclash hxy hx hok fun y hy hy' => hrefused' y hy (hy'.trans hends)).elim
  · rcases h₂ with ⟨y, hy, hends', hok'⟩ | ⟨_, hsoft'⟩
    · exact (hclash hyx hy hok' fun x hx hx' => hrefused x hx (hx'.trans hends')).elim
    · rcases hsoft with ⟨x, hx, hends, hok⟩ | ⟨hnone, rfl⟩
      · rcases hsoft' with ⟨y, hy, hends', hok'⟩ | ⟨hnone', _⟩
        · exact hR x hx y hy s₁ s₂ (hends.trans hends'.symm) hok hok'
        · exact (hclash hxy hx hok fun y hy hy' => hnone' y hy (hy'.trans hends)).elim
      · rcases hsoft' with ⟨y, hy, hends', hok'⟩ | ⟨_, rfl⟩
        · exact (hclash hyx hy hok' fun x hx hx' => hnone x hx (hx'.trans hends')).elim
        · exact hrefl

end Schemes
