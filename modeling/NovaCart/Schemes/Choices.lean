import Mathlib.Algebra.BigOperators.Group.List.Basic
import Mathlib.Data.List.Forall2
import Mathlib.Data.List.Nodup

/-! One element from each list of a list of lists, and values entered under keys, where a later entry replaces an
    earlier one. -/

namespace Schemes

section Choices

variable {α β : Type*}

/-- One element of each list; the last list varies fastest. -/
def choices : List (List α) → List (List α)
  | [] => [[]]
  | l :: ls => l.flatMap fun a => (choices ls).map (a :: ·)

theorem mem_choices {ls : List (List α)} {c : List α} : c ∈ choices ls ↔ List.Forall₂ (· ∈ ·) c ls := by
  induction ls generalizing c with
  | nil => simp [choices]
  | cons l ls ih =>
    simp only [choices, List.mem_flatMap, List.mem_map]
    constructor
    · rintro ⟨a, ha, c, hc, rfl⟩
      exact .cons ha (ih.mp hc)
    · intro h
      cases h with
      | cons ha hc => exact ⟨_, ha, _, ih.mpr hc, rfl⟩

theorem length_of_mem_choices {ls : List (List α)} {c : List α} (h : c ∈ choices ls) : c.length = ls.length :=
  (mem_choices.mp h).length_eq

theorem length_choices (ls : List (List α)) : (choices ls).length = (ls.map List.length).prod := by
  induction ls with
  | nil => rfl
  | cons l ls ih =>
    simp only [choices, List.length_flatMap, List.length_map, List.map_cons, List.prod_cons, ih]
    simp

theorem nodup_choices {ls : List (List α)} (h : ∀ l ∈ ls, l.Nodup) : (choices ls).Nodup := by
  induction ls with
  | nil => simp [choices]
  | cons l ls ih =>
    have hrest : (choices ls).Nodup := ih fun l' hl' => h l' (List.mem_cons_of_mem _ hl')
    refine List.nodup_flatMap.mpr ⟨fun a _ => hrest.map (List.cons_injective), ?_⟩
    refine (h l List.mem_cons_self).imp fun hne c hc hc' => hne ?_
    obtain ⟨_, _, rfl⟩ := List.mem_map.mp hc
    obtain ⟨_, _, heq⟩ := List.mem_map.mp hc'
    exact (List.cons.inj heq).1.symm

/-- Going through the choices is going through the first list, and for each of its elements through the rest. -/
theorem foldl_choices_cons (f : β → List α → β) (b : β) (l : List α) (ls : List (List α)) :
    (choices (l :: ls)).foldl f b = l.foldl (fun b a => (choices ls).foldl (fun b c => f b (a :: c)) b) b := by
  simp only [choices, List.foldl_flatMap, List.foldl_map]

end Choices

section Entries

variable {κ ν : Type*} [DecidableEq κ]

/-- What stands under a key: the last entry with it. -/
def dictGet? (d : List (κ × ν)) (k : κ) : Option ν := (d.filter fun e => e.1 = k).getLast?.map Prod.snd

theorem mem_of_dictGet? {d : List (κ × ν)} {k : κ} {v : ν} (h : dictGet? d k = some v) : (k, v) ∈ d := by
  obtain ⟨e, he, rfl⟩ := Option.map_eq_some_iff.mp h
  have hmem := List.mem_filter.mp (List.mem_of_getLast? he)
  have hkey : e.1 = k := by simpa using hmem.2
  exact hkey ▸ hmem.1

theorem dictGet?_isSome {d : List (κ × ν)} {k : κ} : (dictGet? d k).isSome ↔ k ∈ d.map Prod.fst := by
  simp only [dictGet?, Option.isSome_map, List.getLast?_isSome, ne_eq, List.filter_eq_nil_iff, decide_eq_true_eq,
    not_forall, List.mem_map, not_not, exists_prop]

theorem dictGet?_eq_some_of_mem {d : List (κ × ν)} (hd : (d.map Prod.fst).Nodup) {k : κ} {v : ν} (h : (k, v) ∈ d) :
    dictGet? d k = some v := by
  obtain ⟨v', hv'⟩ := Option.isSome_iff_exists.mp (dictGet?_isSome.mpr (List.mem_map_of_mem (f := Prod.fst) h))
  have heq : ((k, v') : κ × ν) = (k, v) := List.inj_on_of_nodup_map hd (mem_of_dictGet? hv') h rfl
  rw [hv', (Prod.mk.inj heq).2]

theorem dictGet?_map {α : Type*} (l : List α) (key : α → κ) (value : α → ν) (k : κ) :
    dictGet? (l.map fun a => (key a, value a)) k = (l.filter fun a => key a = k).getLast?.map value := by
  rw [dictGet?, List.filter_map, List.getLast?_map, Option.map_map]
  rfl

/-- An entry is written where its key stands, or at the end. -/
def setEntry (d : List (κ × ν)) (k : κ) (v : ν) : List (κ × ν) :=
  if k ∈ d.map Prod.fst then d.map fun e => if e.1 = k then (k, v) else e else d ++ [(k, v)]

/-- The entries one after the other. -/
def entriesOf (l : List (κ × ν)) : List (κ × ν) := l.foldl (fun d e => setEntry d e.1 e.2) []

theorem map_fst_setEntry (d : List (κ × ν)) (k : κ) (v : ν) :
    (setEntry d k v).map Prod.fst = if k ∈ d.map Prod.fst then d.map Prod.fst else d.map Prod.fst ++ [k] := by
  unfold setEntry
  split_ifs with h
  · rw [List.map_map]
    refine List.map_congr_left fun e _ => ?_
    rw [Function.comp_apply]
    split_ifs with he
    · exact he.symm
    · rfl
  · rw [List.map_append, List.map_singleton]

theorem nodup_setEntry {d : List (κ × ν)} (h : (d.map Prod.fst).Nodup) (k : κ) (v : ν) :
    ((setEntry d k v).map Prod.fst).Nodup := by
  rw [map_fst_setEntry]
  split_ifs with hk
  · exact h
  · exact List.Nodup.append h (List.nodup_singleton k) (List.disjoint_singleton.mpr hk)

theorem nodup_entriesOf (l : List (κ × ν)) : ((entriesOf l).map Prod.fst).Nodup := by
  have h : ∀ d : List (κ × ν), (d.map Prod.fst).Nodup →
      ((l.foldl (fun d e => setEntry d e.1 e.2) d).map Prod.fst).Nodup := by
    induction l with
    | nil => exact fun d hd => hd
    | cons e l ih => exact fun d hd => ih _ (nodup_setEntry hd e.1 e.2)
  exact h [] List.nodup_nil

/-- Every key that is left was entered. -/
theorem forall_key_entriesOf {P : κ → Prop} {l : List (κ × ν)} (h : ∀ e ∈ l, P e.1) : ∀ e ∈ entriesOf l, P e.1 := by
  have hfold : ∀ d : List (κ × ν), (∀ k ∈ d.map Prod.fst, P k) →
      ∀ k ∈ (l.foldl (fun d e => setEntry d e.1 e.2) d).map Prod.fst, P k := by
    induction l with
    | nil => exact fun d hd => hd
    | cons e l ih =>
      intro d hd
      refine ih (fun e' he' => h e' (List.mem_cons_of_mem _ he')) _ fun k hk => ?_
      rw [map_fst_setEntry] at hk
      split_ifs at hk with hin
      · exact hd k hk
      · rcases List.mem_append.mp hk with hold | hnew
        · exact hd k hold
        · exact List.mem_singleton.mp hnew ▸ h e List.mem_cons_self
  exact fun e he => hfold [] (by simp) e.1 (List.mem_map_of_mem he)

/-- An entry stands unless a later one has its key. -/
theorem dictGet?_cons {d : List (κ × ν)} (e : κ × ν) (k : κ) :
    dictGet? (e :: d) k = (dictGet? d k).or (if e.1 = k then some e.2 else none) := by
  unfold dictGet?
  by_cases h : e.1 = k
  · rw [List.filter_cons_of_pos (by simpa using h)]
    cases hd : d.filter fun e => decide (e.1 = k) with
    | nil => simp [h]
    | cons e' d' => simp [List.getLast?_cons]
  · rw [List.filter_cons_of_neg (by simpa using h)]
    simp [h]

end Entries

end Schemes
