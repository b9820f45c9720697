import Mathlib

/-! Texts: trimming, and runs of one kind of character made one.

    `squeeze` leaves no two neighbours of the kind, `trim` none at the ends; both leave a text that is already so as
    it is. The kind is a parameter, and so is the alphabet. -/

namespace Schemes

variable {α : Type} {p q : α → Bool} {c x : α} {l : List α}

/-- The text without the characters of the kind at its ends. -/
def trim (p : α → Bool) (l : List α) : List α := (l.dropWhile p).rdropWhile p

/-- Every run of characters of the kind becomes one `c`. -/
def squeeze (p : α → Bool) (c : α) : List α → List α
  | [] => []
  | x :: l => if p x then if l.head?.any p then squeeze p c l else c :: squeeze p c l else x :: squeeze p c l

/-- No two neighbours are of the kind. -/
def Apart (p : α → Bool) (l : List α) : Prop := l.IsChain fun x y => ¬(p x = true ∧ p y = true)

/-- Neither the first nor the last character is of the kind. -/
structure Trimmed (p : α → Bool) (l : List α) : Prop where
  head : ∀ x ∈ l.head?, p x = false
  last : ∀ x ∈ l.getLast?, p x = false

/-! ### Runs made one -/

theorem squeeze_length_le : (squeeze p c l).length ≤ l.length := by
  induction l with
  | nil => exact le_rfl
  | cons x l ih =>
    unfold squeeze
    split
    · split
      · exact Nat.le_succ_of_le ih
      · exact Nat.succ_le_succ ih
    · exact Nat.succ_le_succ ih

theorem mem_squeeze (h : x ∈ squeeze p c l) : x = c ∨ x ∈ l ∧ p x = false := by
  induction l with
  | nil => cases h
  | cons y l ih =>
    have hrest : x ∈ squeeze p c l → x = c ∨ x ∈ y :: l ∧ p x = false := fun hx =>
      (ih hx).imp_right fun hold => ⟨List.mem_cons_of_mem _ hold.1, hold.2⟩
    unfold squeeze at h
    split at h
    · split at h
      · exact hrest h
      · rcases List.mem_cons.mp h with rfl | hold
        · exact .inl rfl
        · exact hrest hold
    · rename_i hy
      rcases List.mem_cons.mp h with rfl | hold
      · exact .inr ⟨List.mem_cons_self, by simpa using hy⟩
      · exact hrest hold

/-- The text begins with the kind exactly when it did. -/
theorem squeeze_head (hc : p c = true) : (squeeze p c l).head?.any p = l.head?.any p := by
  induction l with
  | nil => rfl
  | cons x l ih =>
    unfold squeeze
    split
    · rename_i hx
      split
      · rename_i hl
        rw [ih, hl]
        simp [hx]
      · simp [hx, hc]
    · rfl

theorem squeeze_apart (hc : p c = true) : Apart p (squeeze p c l) := by
  induction l with
  | nil => exact .nil
  | cons x l ih =>
    unfold squeeze
    split
    · split
      · exact ih
      · rename_i hl
        refine List.isChain_cons.mpr ⟨fun y hy hboth => hl ?_, ih⟩
        rw [← squeeze_head hc, hy]
        exact hboth.2
    · rename_i hx
      exact List.isChain_cons.mpr ⟨fun y _ hboth => hx hboth.1, ih⟩

theorem squeeze_eq_self (hc : ∀ x ∈ l, p x = true → x = c) (h : Apart p l) : squeeze p c l = l := by
  induction l with
  | nil => rfl
  | cons x l ih =>
    have hrest : squeeze p c l = l := ih (fun y hy => hc y (List.mem_cons_of_mem _ hy)) h.tail
    unfold squeeze
    rw [hrest]
    split
    · rename_i hx
      rw [← hc x List.mem_cons_self hx, if_neg]
      intro hl
      obtain ⟨y, hy, hpy⟩ := (Option.any_eq_true _ _).mp hl
      exact (List.isChain_cons.mp h).1 y hy ⟨hx, hpy⟩
    · rfl

/-! ### Trimming -/

theorem trim_inside : trim p l <:+: l :=
  (List.rdropWhile_prefix p _).isInfix.trans (List.dropWhile_suffix p).isInfix

theorem trim_trimmed : Trimmed p (trim p l) where
  head x hx := by
    -- the cut at the end does not reach the first character that stays
    obtain ⟨r, hr⟩ : trim p l <+: l.dropWhile p := List.rdropWhile_prefix p _
    obtain ⟨ys, hys⟩ := List.head?_eq_some_iff.mp hx
    have hfirst := List.head?_dropWhile_not p l
    rw [← hr, hys] at hfirst
    exact hfirst
  last x hx := by
    have hne : (l.dropWhile p).rdropWhile p ≠ [] := by
      intro hnil
      rw [trim, hnil] at hx
      cases hx
    rw [trim, List.getLast?_eq_some_getLast hne] at hx
    cases hx
    simpa using List.rdropWhile_last_not p _ hne

theorem trim_eq_self (h : Trimmed p l) : trim p l = l := by
  have hhead : l.dropWhile p = l := by
    cases l with
    | nil => rfl
    | cons x l => exact List.dropWhile_cons_of_neg (by simpa using h.head x rfl)
  unfold trim
  rw [hhead, List.rdropWhile_eq_self_iff]
  intro hne
  simpa using h.last _ (List.getLast?_eq_some_getLast hne)

end Schemes
