import NovaCart.Schemes.Texts

/-! Plain text as it is stored: white space, control characters, the cleaning of what customers write. -/

namespace NovaCart

open Schemes

/-- The characters that `str.strip` drops, the `\s` of a regular expression. -/
def isSpace (c : Char) : Bool :=
  (9 ≤ c.toNat ∧ c.toNat ≤ 13) ∨ (28 ≤ c.toNat ∧ c.toNat ≤ 32) ∨ (8192 ≤ c.toNat ∧ c.toNat ≤ 8202)
    ∨ c.toNat ∈ [133, 160, 5760, 8232, 8233, 8239, 8287, 12288]

/-- `_CONTROL`: newlines and tabs are none. -/
def isControl (c : Char) : Bool :=
  c.toNat ≤ 8 ∨ c.toNat = 11 ∨ c.toNat = 12 ∨ (14 ≤ c.toNat ∧ c.toNat ≤ 31) ∨ c.toNat = 127

/-- What becomes one blank: all white space of a single line, else blanks and tabs. -/
def gap (singleLine : Bool) (c : Char) : Bool := if singleLine then isSpace c else c = ' ' ∨ c = '\t'

/-- `_clean`: empty text counts as none. -/
def clean (singleLine : Bool) (value : String) : Option String :=
  let text := trim isSpace (squeeze (gap singleLine) ' ' (value.toList.filter fun c => !isControl c))
  if text = [] then none else some (String.ofList text)

/-- Text as `_clean` leaves it. -/
structure Clean (singleLine : Bool) (limit : Nat) (s : String) : Prop where
  nonempty : s.toList ≠ []
  length : s.toList.length ≤ limit
  plain : ∀ c ∈ s.toList, isControl c = false
  trimmed : Trimmed isSpace s.toList
  apart : Apart (gap singleLine) s.toList
  blank : ∀ c ∈ s.toList, gap singleLine c = true → c = ' '

variable {singleLine : Bool} {limit : Nat} {value s : String}

theorem gap_blank : gap singleLine ' ' = true := by
  cases singleLine
  · decide
  · decide

theorem clean_some (h : clean singleLine value = some s) (hlength : value.toList.length ≤ limit) :
    Clean singleLine limit s := by
  unfold clean at h
  dsimp only at h
  split at h
  · cases h
  rename_i hne
  cases h
  have hinside := trim_inside (p := isSpace)
    (l := squeeze (gap singleLine) ' ' (value.toList.filter fun c => !isControl c))
  have hmem := fun c (hc : c ∈ trim isSpace _) => mem_squeeze (hinside.subset hc)
  constructor
  · simpa using hne
  · simp only [String.toList_ofList]
    calc _ ≤ _ := hinside.length_le
      _ ≤ _ := squeeze_length_le
      _ ≤ value.toList.length := List.length_filter_le _ _
      _ ≤ limit := hlength
  · intro c hc
    rcases hmem c (by simpa using hc) with rfl | ⟨hold, _⟩
    · decide
    · simpa using (List.mem_filter.mp hold).2
  · simpa using trim_trimmed
  · simpa [Apart] using List.IsChain.infix (squeeze_apart gap_blank) hinside
  · intro c hc hgap
    rcases hmem c (by simpa using hc) with rfl | ⟨_, hnot⟩
    · rfl
    · rw [hnot] at hgap
      cases hgap

/-- Saving what is shown changes nothing. -/
theorem clean_of_clean (h : Clean singleLine limit s) : clean singleLine s = some s := by
  have hkept : (s.toList.filter fun c => !isControl c) = s.toList :=
    List.filter_eq_self.mpr fun c hc => by simp [h.plain c hc]
  unfold clean
  dsimp only
  rw [hkept, squeeze_eq_self h.blank h.apart, trim_eq_self h.trimmed, if_neg h.nonempty, String.ofList_toList]

end NovaCart
