import Mathlib.Data.List.Forall2
import Mathlib.Data.List.Basic
import Mathlib.Tactic.IntervalCases
import Mathlib.Data.Nat.Notation

/-! An amount in words, Indian style, as printed on invoices, and a reader that gets the amount back. -/

namespace NovaCart.Words

def ones : List String :=
  ["", "One", "Two", "Three", "Four", "Five", "Six", "Seven", "Eight", "Nine", "Ten", "Eleven", "Twelve", "Thirteen",
    "Fourteen", "Fifteen", "Sixteen", "Seventeen", "Eighteen", "Nineteen"]

def tens : List String := ["", "", "Twenty", "Thirty", "Forty", "Fifty", "Sixty", "Seventy", "Eighty", "Ninety"]

/-! ### Writing

`none` is an index outside of its table. -/

def belowHundred (n : ℕ) : Option String :=
  if n < 20 then ones[n]?
  else do
    let ten ← tens[n / 10]?
    if n % 10 ≠ 0 then
      let one ← ones[n % 10]?
      some (ten ++ " " ++ one)
    else some ten

def belowThousand (n : ℕ) : Option String := do
  let hundreds ← if 100 ≤ n then ones[n / 100]?.map fun one => [one ++ " Hundred"] else some []
  let n := if 100 ≤ n then n % 100 else n
  let rest ← if n ≠ 0 then (belowHundred n).map fun text => [text] else some []
  some (" ".intercalate (hundreds ++ rest))

def groups : List (String × ℕ) := [("Crore", 10000000), ("Lakh", 100000), ("Thousand", 1000)]

/-- One turn of the loop over the groups: the parts so far and what is left of the number. -/
def writeGroup (state : List String × ℕ) (group : String × ℕ) : Option (List String × ℕ) :=
  if group.2 ≤ state.2 then do
    let part ←
      if 1000 < group.2 ∨ state.2 / group.2 < 100 then belowHundred (state.2 / group.2)
      else belowThousand (state.2 / group.2)
    some (state.1 ++ [part ++ " " ++ group.1], state.2 % group.2)
  else some state

def numberInWords (n : ℕ) : Option String :=
  if n = 0 then some "Zero"
  else do
    let (parts, n) ← groups.foldlM writeGroup ([], n)
    let rest ← if n ≠ 0 then (belowThousand n).map fun text => [text] else some []
    some (" ".intercalate (parts ++ rest))

def amountInWords (paise : ℕ) (currency : String) : Option String :=
  if currency.toUpper ≠ "INR" then some ""
  else do
    let rupees ← numberInWords (paise / 100)
    let paisa ← if paise % 100 ≠ 0 then (numberInWords (paise % 100)).map fun text => " and " ++ text ++ " Paise" else some ""
    some ("Rupees " ++ rupees ++ paisa ++ " Only")

/-! ### Reading -/

/-- What a word does to the number that is read. -/
inductive Meaning
  | add (n : ℕ)
  | hundred
  | group (size : ℕ)
  deriving DecidableEq, Repr

def meaning (word : String) : Option Meaning :=
  if word = "Zero" then some (.add 0)
  else if word = "Hundred" then some .hundred
  else if (groups.map Prod.fst).contains word then (groups.lookup word).map .group
  else if word ≠ "" ∧ ones.contains word then some (.add (ones.idxOf word))
  else if word ≠ "" ∧ tens.contains word then some (.add (10 * tens.idxOf word))
  else none

/-- The groups that are complete, and the number before the next group. -/
abbrev Partial := ℕ × ℕ

def Meaning.apply : Meaning → Partial → Partial
  | .add n, s => (s.1, s.2 + n)
  | .hundred, s => (s.1, s.2 * 100)
  | .group size, s => (s.1 + s.2 * size, 0)

def readWord (s : Partial) (word : String) : Option Partial := (meaning word).map fun m => m.apply s

def readWords (words : List String) : Option ℕ := (words.foldlM readWord (0, 0)).map fun s => s.1 + s.2

def wordsOf (text : String) : List String := (text.toList.splitOn ' ').map String.ofList

def readNumber (text : String) : Option ℕ := readWords (wordsOf text)

/-- `Rupees ... Only` or `Rupees ... and ... Paise Only` -/
def readAmount (text : String) : Option ℕ := do
  let words := (wordsOf text).tail
  let rupees ← readWords (words.takeWhile fun w => (meaning w).isSome)
  match words.dropWhile fun w => (meaning w).isSome with
  | "and" :: rest => do
    let paisa ← readWords (rest.takeWhile fun w => (meaning w).isSome)
    some (rupees * 100 + paisa)
  | _ => some (rupees * 100)

example : (amountInWords 1234550 "inr").bind readAmount = some 1234550 := by decide +kernel

/-! ### Texts and their words -/

/-- The words of a text, with one blank between two of them. -/
structure Spells (words : List String) (text : String) : Prop where
  text_eq : text = " ".intercalate words
  ne_nil : words ≠ []
  noBlank : ∀ w ∈ words, ' ' ∉ w.toList

theorem Spells.single {w : String} (h : ' ' ∉ w.toList) : Spells [w] w :=
  ⟨by simp, List.cons_ne_nil _ _, fun _ hv => List.mem_singleton.mp hv ▸ h⟩

theorem Spells.append {ws vs : List String} {s t : String} (hs : Spells ws s) (ht : Spells vs t) :
    Spells (ws ++ vs) (s ++ " " ++ t) := by
  refine ⟨?_, List.append_ne_nil_of_left_ne_nil hs.ne_nil _, fun w hw => ?_⟩
  · rw [hs.text_eq, ht.text_eq, String.intercalate_append_of_ne_nil hs.ne_nil ht.ne_nil]
  · rcases List.mem_append.mp hw with h | h
    · exact hs.noBlank w h
    · exact ht.noBlank w h

theorem Spells.wordsOf {ws : List String} {s : String} (h : Spells ws s) : wordsOf s = ws := by
  have hblank : ∀ cs ∈ ws.map String.toList, ' ' ∉ cs := by
    intro cs hcs
    obtain ⟨w, hw, rfl⟩ := List.mem_map.mp hcs
    exact h.noBlank w hw
  have hsplit : s.toList.splitOn ' ' = ws.map String.toList := by
    rw [h.text_eq, String.toList_intercalate]
    exact List.splitOn_intercalate ' ' hblank (by simpa using h.ne_nil)
  rw [Words.wordsOf, hsplit, List.map_map]
  exact (List.map_congr_left fun w _ => String.ofList_toList).trans (List.map_id ws)

theorem spells_intercalate {wss : List (List String)} {parts : List String} (h : List.Forall₂ Spells wss parts)
    (hne : parts ≠ []) : Spells wss.flatten (" ".intercalate parts) := by
  induction h with
  | nil => exact absurd rfl hne
  | @cons ws part wss parts hhead _ ih =>
    rcases eq_or_ne parts [] with rfl | hrest
    · cases ‹List.Forall₂ Spells wss []›
      simpa using hhead
    · rw [String.intercalate_cons_of_ne_nil hrest]
      exact hhead.append (ih hrest)

/-- Reading the text leads from the one number to the other. -/
def Says (text : String) (s s' : Partial) : Prop := ∃ words, Spells words text ∧ words.foldlM readWord s = some s'

theorem Says.word {w : String} {m : Meaning} (hblank : ' ' ∉ w.toList) (h : meaning w = some m) (s : Partial) :
    Says w s (m.apply s) :=
  ⟨[w], .single hblank, by simp [readWord, h]⟩

theorem Says.append {t u : String} {s s' s'' : Partial} (ht : Says t s s') (hu : Says u s' s'') :
    Says (t ++ " " ++ u) s s'' := by
  obtain ⟨ws, hws, hread⟩ := ht
  obtain ⟨vs, hvs, hread'⟩ := hu
  exact ⟨ws ++ vs, hws.append hvs, by rw [List.foldlM_append, hread]; exact hread'⟩

/-- The same for the parts of a text. -/
def SaysAll (parts : List String) (s s' : Partial) : Prop :=
  ∃ wss, List.Forall₂ Spells wss parts ∧ wss.flatten.foldlM readWord s = some s'

theorem SaysAll.nil (s : Partial) : SaysAll [] s s := ⟨[], .nil, rfl⟩

theorem SaysAll.concat {parts : List String} {t : String} {s s' s'' : Partial} (h : SaysAll parts s s')
    (ht : Says t s' s'') : SaysAll (parts ++ [t]) s s'' := by
  obtain ⟨wss, hwss, hread⟩ := h
  obtain ⟨ws, hws, hread'⟩ := ht
  refine ⟨wss ++ [ws], List.rel_append hwss (.cons hws .nil), ?_⟩
  rw [List.flatten_append, List.foldlM_append, hread]
  simpa using hread'

theorem SaysAll.said {parts : List String} {s s' : Partial} (h : SaysAll parts s s') (hne : parts ≠ []) :
    Says (" ".intercalate parts) s s' := by
  obtain ⟨wss, hwss, hread⟩ := h
  exact ⟨wss.flatten, spells_intercalate hwss hne, hread⟩

theorem Says.readNumber {text : String} {s : Partial} (h : Says text (0, 0) s) :
    readNumber text = some (s.1 + s.2) := by
  obtain ⟨words, hspells, hread⟩ := h
  rw [Words.readNumber, hspells.wordsOf, readWords, hread]
  rfl

/-! ### The tables -/

theorem ones_said {n : ℕ} (h0 : 0 < n) (h : n < 20) :
    ∃ text, ones[n]? = some text ∧ ∀ s : Partial, Says text s (s.1, s.2 + n) := by
  have hword : ∃ text, ones[n]? = some text ∧ ' ' ∉ text.toList ∧ meaning text = some (.add n) := by
    interval_cases n <;> exact ⟨_, rfl, by decide, by decide⟩
  obtain ⟨text, hget, hblank, hmeaning⟩ := hword
  exact ⟨text, hget, .word hblank hmeaning⟩

theorem tens_said {d : ℕ} (h2 : 2 ≤ d) (h : d < 10) :
    ∃ text, tens[d]? = some text ∧ ∀ s : Partial, Says text s (s.1, s.2 + 10 * d) := by
  have hword : ∃ text, tens[d]? = some text ∧ ' ' ∉ text.toList ∧ meaning text = some (.add (10 * d)) := by
    interval_cases d <;> exact ⟨_, rfl, by decide, by decide⟩
  obtain ⟨text, hget, hblank, hmeaning⟩ := hword
  exact ⟨text, hget, .word hblank hmeaning⟩

theorem hundred_said (s : Partial) : Says "Hundred" s (s.1, s.2 * 100) :=
  Says.word (m := .hundred) (by decide) (by decide) s

theorem group_said {group : String × ℕ} (h : group ∈ groups) (s : Partial) :
    Says group.1 s (s.1 + s.2 * group.2, 0) := by
  have hword : ∀ g ∈ groups, ' ' ∉ g.1.toList ∧ meaning g.1 = some (.group g.2) := by decide
  exact .word (hword group h).1 (hword group h).2 s

/-! ### Numbers -/

theorem belowHundred_said {n : ℕ} (h0 : 0 < n) (h : n < 100) :
    ∃ text, belowHundred n = some text ∧ ∀ s : Partial, Says text s (s.1, s.2 + n) := by
  by_cases h20 : n < 20
  · obtain ⟨text, htext, hsaid⟩ := ones_said h0 h20
    exact ⟨text, by simp [belowHundred, h20, htext], hsaid⟩
  obtain ⟨ten, hten, hsaid⟩ := tens_said (d := n / 10) (by omega) (by omega)
  by_cases hrest : n % 10 = 0
  · refine ⟨ten, by simp [belowHundred, h20, hten, hrest], fun s => ?_⟩
    have hn : n = 10 * (n / 10) := by omega
    rw [hn]
    simpa using hsaid s
  · obtain ⟨one, hone, hsaid'⟩ := ones_said (n := n % 10) (by omega) (by omega)
    refine ⟨ten ++ " " ++ one, by simp [belowHundred, h20, hten, hone, hrest], fun s => ?_⟩
    have hn : s.2 + n = s.2 + 10 * (n / 10) + n % 10 := by omega
    rw [hn]
    exact (hsaid s).append (hsaid' _)

theorem belowThousand_said {n : ℕ} (h0 : 0 < n) (h : n < 1000) :
    ∃ text, belowThousand n = some text ∧ ∀ t : ℕ, Says text (t, 0) (t, n) := by
  by_cases h100 : 100 ≤ n
  · obtain ⟨one, hone, hsaid⟩ := ones_said (n := n / 100) (by omega) (by omega)
    have hhundreds : ∀ t : ℕ, SaysAll [one ++ " Hundred"] (t, 0) (t, n / 100 * 100) := by
      intro t
      have htext : one ++ " Hundred" = one ++ " " ++ "Hundred" := by rw [String.append_assoc]; rfl
      have := (hsaid (t, 0)).append (hundred_said _)
      rw [← htext] at this
      simpa using (SaysAll.nil _).concat this
    by_cases hrest : n % 100 = 0
    · refine ⟨" ".intercalate [one ++ " Hundred"], by simp [belowThousand, h100, hone, hrest], fun t => ?_⟩
      have hn : n / 100 * 100 = n := by omega
      have := (hhundreds t).said (List.cons_ne_nil _ _)
      rwa [hn] at this
    · obtain ⟨text, htext, hsaid'⟩ := belowHundred_said (n := n % 100) (by omega) (by omega)
      refine ⟨" ".intercalate [one ++ " Hundred", text], by simp [belowThousand, h100, hone, hrest, htext], fun t => ?_⟩
      have hn : n / 100 * 100 + n % 100 = n := by omega
      have := ((hhundreds t).concat (hsaid' _)).said (by simp)
      rwa [hn] at this
  · obtain ⟨text, htext, hsaid⟩ := belowHundred_said h0 (by omega : n < 100)
    exact ⟨text, by simp [belowThousand, h100, h0.ne', htext], fun t => by simpa using hsaid (t, 0)⟩

/-- The parts that are written say what has been taken from the number. -/
theorem writeGroup_said {parts : List String} {n t : ℕ} {group : String × ℕ} (hgroup : group ∈ groups)
    (hlt : n < 100 * group.2) (hsaid : SaysAll parts (0, 0) (t, 0)) :
    ∃ parts' t', writeGroup (parts, n) group = some (parts', n % group.2) ∧ SaysAll parts' (0, 0) (t', 0) ∧
      t' + n % group.2 = t + n := by
  by_cases hle : group.2 ≤ n
  · have hpos : 0 < group.2 := (by decide : ∀ g ∈ groups, 0 < g.2) group hgroup
    have hquot : n / group.2 < 100 := Nat.div_lt_of_lt_mul (by rwa [Nat.mul_comm])
    obtain ⟨text, htext, hpart⟩ := belowHundred_said (Nat.div_pos hle hpos) hquot
    refine ⟨parts ++ [text ++ " " ++ group.1], t + n / group.2 * group.2, by simp [writeGroup, hle, hquot, htext], ?_, ?_⟩
    · have := hsaid.concat ((hpart (t, 0)).append (group_said hgroup _))
      simpa using this
    · have := Nat.div_add_mod n group.2
      rw [Nat.mul_comm] at this
      omega
  · have hmod : n % group.2 = n := Nat.mod_eq_of_lt (by omega)
    exact ⟨parts, t, by simp [writeGroup, hle, hmod], hsaid, by rw [hmod]⟩

theorem writeGroups_said {n : ℕ} (h : n < 10 ^ 9) :
    ∃ parts rest t, groups.foldlM writeGroup ([], n) = some (parts, rest) ∧ SaysAll parts (0, 0) (t, 0) ∧ t + rest = n ∧
      rest < 1000 := by
  obtain ⟨parts₁, t₁, hw₁, hs₁, hsum₁⟩ := @writeGroup_said _ n 0 ("Crore", 10000000) (by decide)
    (by simpa using (by omega : n < 100 * 10000000)) (SaysAll.nil (0, 0))
  obtain ⟨parts₂, t₂, hw₂, hs₂, hsum₂⟩ := @writeGroup_said _ (n % 10000000) _ ("Lakh", 100000) (by decide)
    (by simpa using (by omega : n % 10000000 < 100 * 100000)) hs₁
  obtain ⟨parts₃, t₃, hw₃, hs₃, hsum₃⟩ := @writeGroup_said _ (n % 10000000 % 100000) _ ("Thousand", 1000)
    (by decide) (by simpa using (by omega : n % 10000000 % 100000 < 100 * 1000)) hs₂
  refine ⟨parts₃, n % 10000000 % 100000 % 1000, t₃, ?_, hs₃, by simp only at hsum₁ hsum₂ hsum₃; omega,
    Nat.mod_lt _ (by norm_num)⟩
  simp only [groups, List.foldlM_cons, List.foldlM_nil, hw₁, hw₂, hw₃, Option.bind_eq_bind, Option.bind_some]
  rfl

theorem numberInWords_said {n : ℕ} (h : n < 10 ^ 9) :
    ∃ text s, numberInWords n = some text ∧ Says text (0, 0) s ∧ s.1 + s.2 = n := by
  rcases Nat.eq_zero_or_pos n with rfl | h0
  · exact ⟨"Zero", (0, 0), rfl, Says.word (m := .add 0) (by decide) (by decide) (0, 0), rfl⟩
  obtain ⟨parts, rest, t, hloop, hsaid, hsum, hlt⟩ := writeGroups_said h
  by_cases hrest : rest = 0
  · have hne : parts ≠ [] := by
      rintro rfl
      obtain ⟨_, hnil, hread⟩ := hsaid
      cases hnil
      have : t = 0 := by simpa using hread.symm
      omega
    exact ⟨" ".intercalate parts, (t, 0), by simp [numberInWords, h0.ne', hloop, hrest], hsaid.said hne, by simp only; omega⟩
  · obtain ⟨text, htext, hlast⟩ := belowThousand_said (by omega : 0 < rest) hlt
    exact ⟨" ".intercalate (parts ++ [text]), (t, rest), by simp [numberInWords, h0.ne', hloop, hrest, htext],
      (hsaid.concat (hlast t)).said (by simp), hsum⟩

/-- What is written is read back. -/
theorem readNumber_numberInWords {n : ℕ} (h : n < 10 ^ 9) :
    ∃ text, numberInWords n = some text ∧ readNumber text = some n := by
  obtain ⟨text, s, htext, hsaid, hsum⟩ := numberInWords_said h
  exact ⟨text, htext, by rw [hsaid.readNumber, hsum]⟩

/-! ### Amounts -/

theorem isSome_of_foldlM {words : List String} {s s' : Partial} (h : words.foldlM readWord s = some s') :
    ∀ w ∈ words, (meaning w).isSome := by
  induction words generalizing s with
  | nil => simp
  | cons w words ih =>
    rw [List.foldlM_cons] at h
    obtain ⟨s₁, hword, hrest⟩ := Option.bind_eq_some_iff.mp h
    intro v hv
    rcases List.mem_cons.mp hv with rfl | hmem
    · simpa [readWord] using Option.isSome_of_eq_some hword
    · exact ih hrest v hmem

/-- The words of a number end where a word without a meaning stands. -/
theorem span_words {words rest : List String} {w : String} (hall : ∀ v ∈ words, (meaning v).isSome)
    (hw : meaning w = none) :
    (words ++ w :: rest).takeWhile (fun v => (meaning v).isSome) = words ∧
      (words ++ w :: rest).dropWhile (fun v => (meaning v).isSome) = w :: rest := by
  constructor
  · rw [List.takeWhile_append_of_pos hall, List.takeWhile_cons_of_neg (by simp [hw]), List.append_nil]
  · rw [List.dropWhile_append_of_pos hall, List.dropWhile_cons_of_neg (by simp [hw])]

theorem readAmount_amountInWords {paise : ℕ} (h : paise < 10 ^ 11) {currency : String} (hinr : currency.toUpper = "INR") :
    ∃ text, amountInWords paise currency = some text ∧ readAmount text = some paise := by
  obtain ⟨rupees, s, hrupees, ⟨words, hspells, hread⟩, hsum⟩ := numberInWords_said (n := paise / 100) (by omega)
  have hall := isSome_of_foldlM hread
  have hvalue : readWords words = some (paise / 100) := by rw [readWords, hread, Option.map_some, hsum]
  have hfirst : Spells ["Rupees"] "Rupees" := .single (by decide)
  have hlast : Spells ["Only"] "Only" := .single (by decide)
  by_cases hpaise : paise % 100 = 0
  · have htext : "Rupees " ++ rupees ++ " Only" = "Rupees" ++ " " ++ rupees ++ " " ++ "Only" := by
      simp only [← String.toList_inj, String.toList_append, List.append_assoc]
      rfl
    refine ⟨"Rupees " ++ rupees ++ " Only", by simp [amountInWords, hinr, hrupees, hpaise], ?_⟩
    have hwords : (wordsOf ("Rupees " ++ rupees ++ " Only")).tail = words ++ ["Only"] := by
      rw [htext, ((hfirst.append hspells).append hlast).wordsOf]
      rfl
    obtain ⟨htake, hdrop⟩ := @span_words words [] _ hall (by decide : meaning "Only" = none)
    have hwhole : paise / 100 * 100 = paise := by omega
    simp [readAmount, hwords, htake, hdrop, hvalue, hwhole]
  · obtain ⟨paisa, s', hpaisa, ⟨words', hspells', hread'⟩, hsum'⟩ := numberInWords_said (n := paise % 100) (by omega)
    have hall' := isSome_of_foldlM hread'
    have hvalue' : readWords words' = some (paise % 100) := by rw [readWords, hread', Option.map_some, hsum']
    have htext : "Rupees " ++ rupees ++ (" and " ++ paisa ++ " Paise") ++ " Only"
        = "Rupees" ++ " " ++ rupees ++ " " ++ "and" ++ " " ++ paisa ++ " " ++ "Paise" ++ " " ++ "Only" := by
      simp only [← String.toList_inj, String.toList_append, List.append_assoc]
      rfl
    refine ⟨"Rupees " ++ rupees ++ (" and " ++ paisa ++ " Paise") ++ " Only",
      by simp [amountInWords, hinr, hrupees, hpaise, hpaisa], ?_⟩
    have hand : Spells ["and"] "and" := .single (by decide)
    have hunit : Spells ["Paise"] "Paise" := .single (by decide)
    have hwords : (wordsOf ("Rupees " ++ rupees ++ (" and " ++ paisa ++ " Paise") ++ " Only")).tail
        = words ++ "and" :: (words' ++ ["Paise", "Only"]) := by
      rw [htext, (((((hfirst.append hspells).append hand).append hspells').append hunit).append hlast).wordsOf]
      simp
    obtain ⟨htake, hdrop⟩ := @span_words words (words' ++ ["Paise", "Only"]) _ hall (by decide : meaning "and" = none)
    obtain ⟨htake', -⟩ := @span_words words' ["Only"] _ hall' (by decide : meaning "Paise" = none)
    simp only [readAmount, hwords, htake, hdrop, hvalue, htake', hvalue', Option.bind_eq_bind, Option.bind_some,
      Option.some.injEq]
    omega

/-- A reader of the Indian system gets every number below one hundred crore back from its words, and the words of an
    amount that fits its column determine the amount. -/
theorem words_determine :
    (∀ n < 10 ^ 9, ∃ text, numberInWords n = some text ∧ readNumber text = some n) ∧
      (∀ m < 10 ^ 9, ∀ n < 10 ^ 9, numberInWords m = numberInWords n → m = n) ∧
      ∀ currency : String, currency.toUpper = "INR" →
        (∀ paise < 2 ^ 31, ∃ text, amountInWords paise currency = some text ∧ readAmount text = some paise) ∧
          ∀ p < 2 ^ 31, ∀ q < 2 ^ 31, amountInWords p currency = amountInWords q currency → p = q := by
  refine ⟨fun n => readNumber_numberInWords, fun m hm n hn heq => ?_, fun currency hinr => ⟨fun paise hp => ?_, ?_⟩⟩
  · obtain ⟨text, htext, hread⟩ := readNumber_numberInWords hm
    obtain ⟨text', htext', hread'⟩ := readNumber_numberInWords hn
    rw [heq, htext', Option.some.injEq] at htext
    subst htext
    exact Option.some.inj (hread.symm.trans hread')
  · exact readAmount_amountInWords (by omega) hinr
  · intro p hp q hq heq
    obtain ⟨text, htext, hread⟩ := @readAmount_amountInWords p (by omega) _ hinr
    obtain ⟨text', htext', hread'⟩ := @readAmount_amountInWords q (by omega) _ hinr
    rw [heq, htext', Option.some.injEq] at htext
    subst htext
    exact Option.some.inj (hread.symm.trans hread')

end NovaCart.Words
