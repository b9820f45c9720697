import Mathlib

/-! Tables with a primary key.

    A table is a list of rows, newest first, that carries the proof that no two rows share a key.
    `insert?` refuses a key that is taken and `replace` keeps every key, so a table with a duplicate
    cannot be built. Lookups, inserts and updates are related by the `get?` and `mem` lemmas;
    `total` sums a weight over the rows and says how each write moves it. `Kept` and `Stems` compare a
    table with a later one: what became of each row, and where each row comes from. -/

namespace Schemes

/-- The primary key of a row. -/
class Keyed (α : Type) (κ : outParam Type) where
  key : α → κ

open Keyed (key)

/-- Rows with pairwise distinct keys. -/
@[ext] structure Table (α : Type) {κ : Type} [Keyed α κ] where
  rows : List α
  nodup : (rows.map key).Nodup

namespace Table

variable {α κ : Type} [Keyed α κ]

/-- The table without rows. -/
def empty : Table α := ⟨[], List.nodup_nil⟩

instance : Inhabited (Table α) := ⟨empty⟩

@[simp] theorem rows_empty : (empty : Table α).rows = [] := rfl

theorem eq_of_key_eq (t : Table α) {r r' : α} (hr : r ∈ t.rows) (hr' : r' ∈ t.rows)
    (h : key r = key r') : r = r' :=
  List.inj_on_of_nodup_map t.nodup hr hr' h

variable [DecidableEq κ]

/-- The row with key `k`. -/
def get? (t : Table α) (k : κ) : Option α := t.rows.find? fun r => key r = k

/-- Adds a row in front, unless its key is taken. -/
def insert? (t : Table α) (r : α) : Option (Table α) :=
  if h : key r ∈ t.rows.map key then none
  else some ⟨r :: t.rows, List.nodup_cons.mpr ⟨h, t.nodup⟩⟩

/-- Puts `r` in the place of the row that has its key. -/
def replace (t : Table α) (r : α) : Table α where
  rows := t.rows.map fun x => if key x = key r then r else x
  nodup := by
    have hkeys : (t.rows.map fun x => if key x = key r then r else x).map key = t.rows.map key := by
      rw [List.map_map]
      refine List.map_congr_left fun x _ => ?_
      by_cases h : key x = key r
      · simp [h]
      · simp [h]
    rw [hkeys]
    exact t.nodup

/-- Changes every row in its place. -/
def map (t : Table α) (f : α → α) (hf : ∀ r, key (f r) = key r) : Table α where
  rows := t.rows.map f
  nodup := by
    have hkeys : (t.rows.map f).map key = t.rows.map key := by
      rw [List.map_map]
      exact List.map_congr_left fun r _ => hf r
    rw [hkeys]
    exact t.nodup

/-- Drops the row with key `k`. -/
def erase (t : Table α) (k : κ) : Table α where
  rows := t.rows.filter fun x => key x ≠ k
  nodup := (List.filter_sublist.map key).nodup t.nodup

/-- Drops the rows that do not satisfy `p`. -/
def keep (t : Table α) (p : α → Bool) : Table α where
  rows := t.rows.filter p
  nodup := (List.filter_sublist.map key).nodup t.nodup

/-! ### Lookups -/

theorem get?_eq_some {t : Table α} {k : κ} {r : α} :
    t.get? k = some r ↔ r ∈ t.rows ∧ key r = k := by
  constructor
  · intro h
    exact ⟨List.mem_of_find?_eq_some h, by simpa using List.find?_some h⟩
  · rintro ⟨hr, hk⟩
    cases hfind : t.get? k with
    | none =>
      have := List.find?_eq_none.mp hfind r hr
      simp [hk] at this
    | some r' =>
      have hr' : r' ∈ t.rows := List.mem_of_find?_eq_some hfind
      have hk' : key r' = k := by simpa using List.find?_some hfind
      rw [t.eq_of_key_eq hr' hr (hk'.trans hk.symm)]

theorem get?_eq_none {t : Table α} {k : κ} : t.get? k = none ↔ ∀ r ∈ t.rows, key r ≠ k := by
  simp [get?]

theorem mem_of_get? {t : Table α} {k : κ} {r : α} (h : t.get? k = some r) : r ∈ t.rows :=
  (get?_eq_some.mp h).1

theorem key_of_get? {t : Table α} {k : κ} {r : α} (h : t.get? k = some r) : key r = k :=
  (get?_eq_some.mp h).2

theorem get?_of_mem {t : Table α} {r : α} (h : r ∈ t.rows) : t.get? (key r) = some r :=
  get?_eq_some.mpr ⟨h, rfl⟩

@[simp] theorem get?_empty (k : κ) : (empty : Table α).get? k = none := rfl

/-! ### Inserts -/

theorem insert?_eq_some {t t' : Table α} {r : α} :
    t.insert? r = some t' ↔ t.get? (key r) = none ∧ t'.rows = r :: t.rows := by
  have hnone : t.get? (key r) = none ↔ key r ∉ t.rows.map key := by
    rw [get?_eq_none]; simp
  rw [hnone]
  unfold insert?
  by_cases h : key r ∈ t.rows.map key
  · simp only [h, ↓reduceDIte, reduceCtorEq, not_true_eq_false, false_and]
  · simp only [h, ↓reduceDIte, Option.some.injEq, not_false_eq_true, true_and]
    constructor
    · rintro rfl; rfl
    · intro hrows; exact Table.ext hrows.symm

theorem insert?_eq_none {t : Table α} {r : α} : t.insert? r = none ↔ t.get? (key r) ≠ none := by
  rw [ne_eq, get?_eq_none]
  simp [insert?]

theorem rows_of_insert? {t t' : Table α} {r : α} (h : t.insert? r = some t') :
    t'.rows = r :: t.rows := (insert?_eq_some.mp h).2

theorem mem_insert? {t t' : Table α} {r x : α} (h : t.insert? r = some t') :
    x ∈ t'.rows ↔ x = r ∨ x ∈ t.rows := by
  rw [rows_of_insert? h, List.mem_cons]

/-- A new row that excludes no other. -/
theorem pairs_insert? {P : α → α → Prop} {t t' : Table α} {r : α} (h : t.insert? r = some t')
    (hold : ∀ x ∈ t.rows, ∀ y ∈ t.rows, P x y → key x = key y) (hnew : ∀ x ∈ t.rows, ¬P x r ∧ ¬P r x) :
    ∀ x ∈ t'.rows, ∀ y ∈ t'.rows, P x y → key x = key y := by
  intro x hx y hy hxy
  rcases (mem_insert? h).mp hx with rfl | hxs
  · rcases (mem_insert? h).mp hy with rfl | hys
    · rfl
    · exact absurd hxy (hnew y hys).2
  · rcases (mem_insert? h).mp hy with rfl | hys
    · exact absurd hxy (hnew x hxs).1
    · exact hold x hxs y hys hxy

theorem get?_insert? {t t' : Table α} {r : α} {k : κ} (h : t.insert? r = some t') :
    t'.get? k = if key r = k then some r else t.get? k := by
  by_cases hk : key r = k
  · simp [get?, rows_of_insert? h, hk]
  · simp [get?, rows_of_insert? h, hk]

/-- A row already there is still found after an insert. -/
theorem get?_insert?_of_some {t t' : Table α} {r x : α} {k : κ} (h : t.insert? r = some t')
    (hx : t.get? k = some x) : t'.get? k = some x := by
  have hfree := (insert?_eq_some.mp h).1
  rw [get?_insert? h]
  by_cases hk : key r = k
  · rw [hk, hx] at hfree
    cases hfree
  · simp [hk, hx]

/-! ### Updates -/

theorem mem_replace {t : Table α} {r q x : α} (h : t.get? (key q) = some r) :
    x ∈ (t.replace q).rows ↔ x = q ∨ (x ∈ t.rows ∧ key x ≠ key q) := by
  obtain ⟨hr, hk⟩ := get?_eq_some.mp h
  simp only [replace, List.mem_map]
  constructor
  · rintro ⟨y, hy, rfl⟩
    by_cases hyk : key y = key q
    · exact .inl (by simp [hyk])
    · exact .inr (by simpa [hyk] using hy)
  · rintro (rfl | ⟨hx, hxk⟩)
    · exact ⟨r, hr, by simp [hk]⟩
    · exact ⟨x, hx, by simp [hxk]⟩

/-- Rows that exclude each other still do when one of them is replaced. -/
theorem pairs_replace {P : α → α → Prop} {t : Table α} {r q : α} (h : t.get? (key q) = some r)
    (hold : ∀ x ∈ t.rows, ∀ y ∈ t.rows, P x y → key x = key y)
    (hnew : ∀ x ∈ t.rows, key x ≠ key q → ¬P x q ∧ ¬P q x) :
    ∀ x ∈ (t.replace q).rows, ∀ y ∈ (t.replace q).rows, P x y → key x = key y := by
  intro x hx y hy hxy
  rcases (mem_replace h).mp hx with rfl | ⟨hxs, hxne⟩
  · rcases (mem_replace h).mp hy with rfl | ⟨hys, hyne⟩
    · rfl
    · exact absurd hxy (hnew y hys hyne).2
  · rcases (mem_replace h).mp hy with rfl | ⟨hys, _⟩
    · exact absurd hxy (hnew x hxs hxne).1
    · exact hold x hxs y hys hxy

theorem get?_replace (t : Table α) (r : α) (k : κ) :
    (t.replace r).get? k = if k = key r then (t.get? k).map fun _ => r else t.get? k := by
  have hcomp : (fun x => decide (key x = k)) ∘ (fun x => if key x = key r then r else x)
      = fun x => decide (key x = k) := by
    funext x
    by_cases h : key x = key r
    · simp [h]
    · simp [h]
  unfold get? replace
  rw [List.find?_map, hcomp]
  cases hfind : t.rows.find? fun x => decide (key x = k) with
  | none => simp
  | some x =>
    have hk : key x = k := by simpa using List.find?_some hfind
    by_cases h : k = key r
    · simp [h, hk]
    · simp [h, hk]

theorem get?_replace_self {t : Table α} {r q : α} (h : t.get? (key q) = some r) :
    (t.replace q).get? (key q) = some q := by
  rw [get?_replace, if_pos rfl, h]; rfl

theorem get?_replace_of_ne {t : Table α} {q : α} {k : κ} (hk : k ≠ key q) :
    (t.replace q).get? k = t.get? k := by
  rw [get?_replace, if_neg hk]

theorem get?_replace_eq_none {t : Table α} {r : α} {k : κ} :
    (t.replace r).get? k = none ↔ t.get? k = none := by
  rw [get?_replace]
  by_cases h : k = key r
  · simp [h]
  · simp [h]

/-- A search that does not tell the new row from the old one finds the same place. -/
theorem find?_replace {t : Table α} {r q : α} {f : α → Bool} (h : t.get? (key q) = some r)
    (hf : f q = f r) :
    (t.replace q).rows.find? f
      = (t.rows.find? f).map fun x => if key x = key q then q else x := by
  unfold replace
  rw [List.find?_map]
  congr 1
  refine List.find?_congr fun x hx => ?_
  by_cases hk : key x = key q
  · have hxr : x = r := t.eq_of_key_eq hx (mem_of_get? h) (hk.trans (key_of_get? h).symm)
    rw [Function.comp_apply, if_pos hk, hf, hxr]
  · simp [hk]

/-- Writing a row that is there changes nothing. -/
theorem replace_replace (t : Table α) {r₁ r₂ : α} (h : key r₁ = key r₂) :
    (t.replace r₁).replace r₂ = t.replace r₂ := by
  ext1
  refine (List.map_map ..).trans (List.map_congr_left fun x _ => ?_)
  by_cases hx : key x = key r₂
  · simp [hx, h]
  · simp [hx, h]

theorem replace_of_get? {t : Table α} {r : α} (h : t.get? (key r) = some r) : t.replace r = t := by
  ext1
  refine (List.map_congr_left fun x hx => ?_).trans (List.map_id _)
  by_cases hk : key x = key r
  · rw [if_pos hk]
    exact (t.eq_of_key_eq hx (mem_of_get? h) hk).symm
  · rw [if_neg hk]; rfl

omit [DecidableEq κ] in
theorem mem_map {t : Table α} {f : α → α} {hf : ∀ r, key (f r) = key r} {x : α} :
    x ∈ (t.map f hf).rows ↔ ∃ r ∈ t.rows, f r = x := List.mem_map

theorem get?_map (t : Table α) (f : α → α) (hf : ∀ r, key (f r) = key r) (k : κ) :
    (t.map f hf).get? k = (t.get? k).map f := by
  have hcomp : (fun x => decide (key x = k)) ∘ f = fun x => decide (key x = k) := by
    funext x
    simp [hf x]
  unfold get? map
  rw [List.find?_map, hcomp]

omit [DecidableEq κ] in
theorem mem_keep {t : Table α} {p : α → Bool} {x : α} : x ∈ (t.keep p).rows ↔ x ∈ t.rows ∧ p x = true :=
  List.mem_filter

theorem mem_erase {t : Table α} {k : κ} {x : α} :
    x ∈ (t.erase k).rows ↔ x ∈ t.rows ∧ key x ≠ k := by
  simp [erase]

theorem get?_erase (t : Table α) (k k' : κ) :
    (t.erase k).get? k' = if k' = k then none else t.get? k' := by
  by_cases h : k' = k
  · rw [if_pos h, get?_eq_none]
    intro r hr
    rw [h]
    exact (mem_erase.mp hr).2
  · rw [if_neg h]
    cases hget : t.get? k' with
    | none =>
      rw [get?_eq_none] at hget ⊢
      exact fun r hr => hget r (mem_erase.mp hr).1
    | some r =>
      obtain ⟨hr, hk⟩ := get?_eq_some.mp hget
      exact get?_eq_some.mpr ⟨mem_erase.mpr ⟨hr, by rw [hk]; exact h⟩, hk⟩

/-! ### Rows over others -/

/-- The table with `r` for whatever row has its key. -/
def put (t : Table α) (r : α) : Table α where
  rows := r :: (t.erase (key r)).rows
  nodup := by
    refine List.nodup_cons.mpr ⟨fun h => ?_, (t.erase (key r)).nodup⟩
    obtain ⟨x, hx, hk⟩ := List.mem_map.mp h
    exact (mem_erase.mp hx).2 hk

theorem mem_put {t : Table α} {r x : α} : x ∈ (t.put r).rows ↔ x = r ∨ (x ∈ t.rows ∧ key x ≠ key r) := by
  simp [put, mem_erase]

theorem get?_put (t : Table α) (r : α) (k : κ) : (t.put r).get? k = if k = key r then some r else t.get? k := by
  by_cases h : k = key r
  · rw [if_pos h, h]
    exact get?_eq_some.mpr ⟨mem_put.mpr (.inl rfl), rfl⟩
  · rw [if_neg h]
    have hcons : (t.put r).get? k = (t.erase (key r)).get? k := List.find?_cons_of_neg (by simpa using Ne.symm h)
    rw [hcons, get?_erase, if_neg h]

/-- The rows of `own`, and those of the table that they leave and that are not gone. -/
def merge (t own : Table α) (gone : List κ) : Table α where
  rows := own.rows ++ t.rows.filter fun r => (own.get? (key r)).isNone ∧ key r ∉ gone
  nodup := by
    rw [List.map_append, List.nodup_append]
    refine ⟨own.nodup, t.nodup.sublist (List.filter_sublist.map _), fun k hk k' hk' heq => ?_⟩
    obtain ⟨r, hr, rfl⟩ := List.mem_map.mp hk
    obtain ⟨r', hr', rfl⟩ := List.mem_map.mp hk'
    have hnone := (List.mem_filter.mp hr').2
    rw [← heq, get?_of_mem hr] at hnone
    simp at hnone

theorem mem_merge {t own : Table α} {gone : List κ} {x : α} :
    x ∈ (t.merge own gone).rows ↔ x ∈ own.rows ∨ (x ∈ t.rows ∧ own.get? (key x) = none ∧ key x ∉ gone) := by
  simp [merge]

/-! ### Totals -/

/-- The sum of a weight over all rows. -/
def total (t : Table α) (g : α → ℤ) : ℤ := (t.rows.map g).sum

omit [DecidableEq κ] in
@[simp] theorem total_empty (g : α → ℤ) : (empty : Table α).total g = 0 := rfl

theorem total_insert? {t t' : Table α} {r : α} (h : t.insert? r = some t') (g : α → ℤ) :
    t'.total g = g r + t.total g := by
  simp [total, rows_of_insert? h]

/-- Replacing the row `r` moves the total by the change of its weight. -/
theorem total_replace {t : Table α} {r q : α} (h : t.get? (key q) = some r) (g : α → ℤ) :
    (t.replace q).total g = t.total g + (g q - g r) := by
  obtain ⟨hr, hk⟩ := get?_eq_some.mp h
  obtain ⟨l₁, l₂, hsplit⟩ := List.append_of_mem hr
  -- the keys around `r` differ from its own, so only `r` itself is replaced
  have hnd := t.nodup
  rw [hsplit, List.map_append, List.map_cons] at hnd
  have hout : ∀ x ∈ l₁ ++ l₂, key x ≠ key q := by
    intro x hx heq
    rw [← hk] at heq
    have hmem : key r ∈ l₁.map key ++ l₂.map key := by
      rw [← List.map_append, ← heq]; exact List.mem_map_of_mem hx
    exact (List.nodup_cons.mp (List.nodup_middle.mp hnd)).1 hmem
  have hkeep : ∀ l : List α, (∀ x ∈ l, key x ≠ key q) →
      l.map (fun x => if key x = key q then q else x) = l := fun l hl =>
    (List.map_congr_left fun x hx => by simp [hl x hx]).trans (List.map_id l)
  simp only [total, replace]
  rw [hsplit, List.map_append, List.map_cons, hkeep l₁ fun x hx => hout x (by simp [hx]),
    hkeep l₂ fun x hx => hout x (by simp [hx])]
  simp only [hk, ↓reduceIte, List.map_append, List.map_cons, List.sum_append, List.sum_cons]
  ring

omit [DecidableEq κ] in
theorem total_congr {t : Table α} {g g' : α → ℤ} (h : ∀ r ∈ t.rows, g r = g' r) :
    t.total g = t.total g' := congrArg List.sum (List.map_congr_left h)

omit [DecidableEq κ] in
theorem total_mono {t : Table α} {g g' : α → ℤ} (h : ∀ r ∈ t.rows, g r ≤ g' r) :
    t.total g ≤ t.total g' := List.sum_le_sum h

/-- The total over all rows but the one with key `k`. -/
theorem total_without {t : Table α} {k : κ} {r : α} (h : t.get? k = some r) (g : α → ℤ) :
    t.total (fun x => if key x = k then 0 else g x) = t.total g - g r := by
  obtain ⟨hr, hk⟩ := get?_eq_some.mp h
  have hlist : ∀ l : List α, (l.map key).Nodup → r ∈ l →
      (l.map fun x => if key x = k then 0 else g x).sum = (l.map g).sum - g r := by
    intro l
    induction l with
    | nil => intro _ hmem; cases hmem
    | cons x xs ih =>
      intro hnd hmem
      obtain ⟨hx, hxs⟩ := List.nodup_cons.mp hnd
      rw [List.map_cons, List.map_cons, List.sum_cons, List.sum_cons]
      rcases List.mem_cons.mp hmem with rfl | hmem
      · have hrest : (xs.map fun y => if key y = k then 0 else g y) = xs.map g := by
          refine List.map_congr_left fun y hy => if_neg fun hyk => hx ?_
          rw [hk, ← hyk]
          exact List.mem_map_of_mem hy
        rw [if_pos hk, hrest]
        ring
      · have hne : key x ≠ k := by
          intro hxk
          rw [hxk, ← hk] at hx
          exact hx (List.mem_map_of_mem hmem)
        rw [if_neg hne, ih hxs hmem]
        ring
  exact hlist t.rows t.nodup hr

/-! ### Earlier and later tables -/

/-- Every row of `t` is still there in `t'`, changed only as `R` allows. -/
def Kept (R : α → α → Prop) (t t' : Table α) : Prop :=
  ∀ k r, t.get? k = some r → ∃ r', t'.get? k = some r' ∧ R r r'

/-- Every row of `t'` comes from a row of `t`, changed only as `R` allows. -/
def Stems (R : α → α → Prop) (t t' : Table α) : Prop :=
  ∀ r' ∈ t'.rows, ∃ r ∈ t.rows, R r r'

variable {R : α → α → Prop}

theorem Kept.refl (hR : ∀ r, R r r) (t : Table α) : Kept R t t := fun _ r h => ⟨r, h, hR r⟩

theorem Kept.trans (hR : ∀ {a b c}, R a b → R b c → R a c) {t₁ t₂ t₃ : Table α}
    (h₁ : Kept R t₁ t₂) (h₂ : Kept R t₂ t₃) : Kept R t₁ t₃ := by
  intro k r hr
  obtain ⟨r₂, hr₂, hR₂⟩ := h₁ k r hr
  obtain ⟨r₃, hr₃, hR₃⟩ := h₂ k r₂ hr₂
  exact ⟨r₃, hr₃, hR hR₂ hR₃⟩

theorem Kept.mono {R' : α → α → Prop} (hRR' : ∀ {r r'}, R r r' → R' r r') {t t' : Table α} (h : Kept R t t') :
    Kept R' t t' := by
  intro k r hr
  obtain ⟨r', hr', hR⟩ := h k r hr
  exact ⟨r', hr', hRR' hR⟩

theorem kept_insert? (hR : ∀ r, R r r) {t t' : Table α} {r : α} (h : t.insert? r = some t') :
    Kept R t t' := fun _ x hx => ⟨x, get?_insert?_of_some h hx, hR x⟩

theorem kept_replace (hR : ∀ r, R r r) {t : Table α} {r r' : α} (h : t.get? (key r') = some r)
    (hr : R r r') : Kept R t (t.replace r') := by
  intro k x hx
  by_cases hk : k = key r'
  · subst hk
    rw [h] at hx
    cases hx
    exact ⟨r', get?_replace_self h, hr⟩
  · exact ⟨x, by rw [get?_replace_of_ne hk]; exact hx, hR x⟩

omit [DecidableEq κ] in
theorem Stems.refl (hR : ∀ r, R r r) (t : Table α) : Stems R t t := fun r h => ⟨r, h, hR r⟩

omit [DecidableEq κ] in
theorem Stems.trans (hR : ∀ {a b c}, R a b → R b c → R a c) {t₁ t₂ t₃ : Table α}
    (h₁ : Stems R t₁ t₂) (h₂ : Stems R t₂ t₃) : Stems R t₁ t₃ := by
  intro r₃ hr₃
  obtain ⟨r₂, hr₂, hR₂⟩ := h₂ r₃ hr₃
  obtain ⟨r₁, hr₁, hR₁⟩ := h₁ r₂ hr₂
  exact ⟨r₁, hr₁, hR hR₁ hR₂⟩

theorem stems_replace (hR : ∀ r, R r r) {t : Table α} {r r' : α} (h : t.get? (key r') = some r)
    (hr : R r r') : Stems R t (t.replace r') := by
  intro x hx
  rcases (mem_replace h).mp hx with rfl | ⟨hold, _⟩
  · exact ⟨r, mem_of_get? h, hr⟩
  · exact ⟨x, hold, hR x⟩

theorem kept_map {t : Table α} {f : α → α} (hf : ∀ r, key (f r) = key r) (hR : ∀ r, R r (f r)) :
    Kept R t (t.map f hf) := fun k r h => ⟨f r, by rw [get?_map, h]; rfl, hR r⟩

omit [DecidableEq κ] in
theorem stems_map {t : Table α} {f : α → α} (hf : ∀ r, key (f r) = key r) (hR : ∀ r, R r (f r)) :
    Stems R t (t.map f hf) := by
  intro x hx
  obtain ⟨r, hr, rfl⟩ := mem_map.mp hx
  exact ⟨r, hr, hR r⟩

end Table

end Schemes
