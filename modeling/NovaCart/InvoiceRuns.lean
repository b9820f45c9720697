import NovaCart.Invoicing

/-! The numbers of invoices and credit notes. -/

namespace NovaCart

open Schemes

/-! ### Printed numbers -/

theorem sixDigits_value (n : Nat) : Nat.ofDigitChars 10 (sixDigits n) 0 = n := by
  rw [sixDigits, Nat.ofDigitChars_append, Nat.ofDigitChars_replicate_zero, Nat.mul_zero, Nat.ofDigitChars_ten_toDigits]

theorem sixDigits_length (n : Nat) : (sixDigits n).length = max 6 (Nat.toDigits 10 n).length := by
  rw [sixDigits, List.length_append, List.length_replicate]
  omega

theorem isDigit_toDigits {n : Nat} {c : Char} (h : c ∈ Nat.toDigits 10 n) : c.isDigit :=
  Nat.isDigit_of_mem_toDigits (by decide) (by decide) h

theorem slash_sixDigits (n : Nat) : '/' ∉ sixDigits n := by
  intro h
  rcases List.mem_append.mp h with h | h
  · exact absurd (List.eq_of_mem_replicate h) (by decide)
  · have hdigit := isDigit_toDigits h
    revert hdigit; decide

theorem chars_no_slash (p : InvoicePrefix) : '/' ∉ p.chars := by
  intro h
  have hallowed := p.allowed.2 _ h
  revert hallowed; decide

theorem fiscalYear_chars {d : Day} {c : Char} (h : c ∈ fiscalYear d) : c.isDigit ∨ c = '-' := by
  rw [fiscalYear, List.mem_append, List.mem_cons] at h
  rcases h with h | h | h
  · exact .inl (isDigit_toDigits h)
  · exact .inr h
  · exact .inl (isDigit_toDigits (List.mem_of_mem_drop h))

theorem slash_printedYear (d : Day) : '/' ∉ printedYear (fiscalYear d) := by
  intro h
  have hmem : '/' ∈ fiscalYear d := by
    rcases List.mem_append.mp h with h | h
    · exact List.mem_of_mem_drop (List.mem_of_mem_take h)
    · exact List.mem_of_mem_drop (List.mem_of_mem_take h)
  have hchar := fiscalYear_chars hmem
  revert hchar; decide

theorem fiscalStart_bounds (d : Day) : 1000 ≤ d.fiscalStart ∧ d.fiscalStart + 1 ≤ 9999 := by
  have hyear := d.fourDigits
  rw [Day.fiscalStart]
  split <;> omega

theorem toDigits_length_four {n : Nat} (h₁ : 1000 ≤ n) (h₂ : n ≤ 9999) : (Nat.toDigits 10 n).length = 4 := by
  have hle := (Nat.length_toDigits_le_iff (n := n) (k := 4) (b := 10) (by decide) (by decide)).mpr (by omega)
  have hnot := (Nat.length_toDigits_le_iff (n := n) (k := 3) (b := 10) (by decide) (by decide)).not.mpr (by omega)
  omega

theorem printedYear_length (d : Day) : (printedYear (fiscalYear d)).length = 4 := by
  obtain ⟨h₁, h₂⟩ := fiscalStart_bounds d
  have hstart := toDigits_length_four h₁ (by omega)
  have hend := toDigits_length_four (n := d.fiscalStart + 1) (by omega) h₂
  simp only [printedYear, fiscalYear, List.length_append, List.length_take, List.length_drop, List.length_cons, hstart, hend]
  decide

/-- A printed number tells what stands before the slash, and the sequence number. -/
theorem formatNumber_inj {p p' : InvoicePrefix} {d d' : Day} {n n' : Nat}
    (h : formatNumber p (fiscalYear d) n = formatNumber p' (fiscalYear d') n') :
    p.chars = p'.chars ∧ printedYear (fiscalYear d) = printedYear (fiscalYear d') ∧ n = n' := by
  have hslash (p : InvoicePrefix) (d : Day) : '/' ∉ p.chars ++ printedYear (fiscalYear d) := by
    rw [List.mem_append, not_or]; exact ⟨chars_no_slash p, slash_printedYear d⟩
  rw [formatNumber, formatNumber, List.append_cons_inj_of_notMem (hslash p d) (slash_sixDigits n)] at h
  obtain ⟨hhead, _, htail⟩ := h
  obtain ⟨hp, hy⟩ := List.append_inj' hhead (by rw [printedYear_length, printedYear_length])
  refine ⟨hp, hy, ?_⟩
  rw [← sixDigits_value n, htail, sixDigits_value]

theorem formatNumber_length (p : InvoicePrefix) (d : Day) (n : Nat) :
    (formatNumber p (fiscalYear d) n).length = p.chars.length + 5 + max 6 (Nat.toDigits 10 n).length := by
  rw [formatNumber, List.length_append, List.length_append, List.length_cons, printedYear_length, sixDigits_length]
  omega

/-! ### What is kept -/

section

variable {s₀ s s' : Invoicing} {l : InvoicingLabel} {tr : List (Taken Invoicing InvoicingLabel)} {tx : IssueTx}

/-- The last number of a series as the transaction sees it. -/
def Invoicing.lastSeen (s : Invoicing) (tx : IssueTx) (σ : Series) : Nat := (tx.sequences σ).getD (s.sequences σ)

/-- A document is printed with the number of its series and sequence. -/
def IssuedDocument.Printed (d : IssuedDocument) : Prop :=
  ∃ p day, d.series.fy = fiscalYear day ∧ d.number = formatNumber p (fiscalYear day) d.sequence
    ∧ (d.series.docType = .creditNote → p = creditNotePrefix) ∧ d.number.length ≤ 16

/-- The documents of a transaction go on where those that are committed end, and no one else issues in its series. -/
structure NumberingInv (s : Invoicing) : Prop where
  committed : ∀ σ, seriesNumbers s.documents σ = (List.range' 1 (s.sequences σ)).reverse
  grows : ∀ tx ∈ s.txs.rows, ∀ σ, s.sequences σ ≤ s.lastSeen tx σ
  open_ : ∀ tx ∈ s.txs.rows, ∀ σ,
    seriesNumbers tx.documents σ = (List.range' (s.sequences σ + 1) (s.lastSeen tx σ - s.sequences σ)).reverse
  apart : ∀ tx ∈ s.txs.rows, ∀ tx' ∈ s.txs.rows, ∀ σ, tx.sequences σ ≠ none → tx'.sequences σ ≠ none → tx.id = tx'.id
  distinct : (s.documents.map IssuedDocument.number).Nodup
  distinctSeen : ∀ tx ∈ s.txs.rows, ((s.seenBy tx).map IssuedDocument.number).Nodup
  distinctOpen : ∀ tx ∈ s.txs.rows, ∀ tx' ∈ s.txs.rows, tx.id ≠ tx'.id → ∀ d ∈ tx.documents, ∀ d' ∈ tx'.documents,
    d.number ≠ d'.number
  printed : ∀ d ∈ s.documents, d.Printed
  printedOpen : ∀ tx ∈ s.txs.rows, ∀ d ∈ tx.documents, d.Printed

theorem seriesNumbers_append (ds ds' : List IssuedDocument) (σ : Series) :
    seriesNumbers (ds ++ ds') σ = seriesNumbers ds σ ++ seriesNumbers ds' σ := by
  rw [seriesNumbers, List.filter_append, List.map_append]; rfl

/-- All the numbers of a series that a transaction sees. -/
theorem seriesNumbers_seen (hinv : NumberingInv s) (htx : tx ∈ s.txs.rows) (σ : Series) :
    seriesNumbers (s.seenBy tx) σ = (List.range' 1 (s.lastSeen tx σ)).reverse := by
  have hle := hinv.grows tx htx σ
  rw [Invoicing.seenBy, seriesNumbers_append, hinv.open_ tx htx σ, hinv.committed σ, ← List.reverse_append]
  rw [show s.sequences σ + 1 = 1 + s.sequences σ by omega, List.range'_append_1]
  congr 2; omega

theorem sequence_seen (hinv : NumberingInv s) (htx : tx ∈ s.txs.rows) {d : IssuedDocument} (hd : d ∈ s.seenBy tx) :
    d.sequence ≤ s.lastSeen tx d.series := by
  have hmem : d.sequence ∈ seriesNumbers (s.seenBy tx) d.series :=
    List.mem_map.mpr ⟨d, List.mem_filter.mpr ⟨hd, by simp⟩, rfl⟩
  rw [seriesNumbers_seen hinv htx, List.mem_reverse, List.mem_range'_1] at hmem
  omega

theorem printed_seen (hinv : NumberingInv s) (htx : tx ∈ s.txs.rows) {d : IssuedDocument} (hd : d ∈ s.seenBy tx) :
    d.Printed := by
  rcases List.mem_append.mp hd with hd | hd
  · exact hinv.printedOpen tx htx d hd
  · exact hinv.printed d hd

/-- Within a series no number is printed twice. -/
theorem fresh_in_series (hinv : NumberingInv s) (htx : tx ∈ s.txs.rows) {d : IssuedDocument} (hd : d ∈ s.seenBy tx)
    {p : InvoicePrefix} {day : Day} {σ : Series} (hσ : d.series = σ) :
    d.number ≠ formatNumber p (fiscalYear day) (s.nextSequence tx σ) := by
  intro heq
  obtain ⟨p', day', hfy', hnumber, _⟩ := printed_seen hinv htx hd
  have hsequence := (formatNumber_inj (hnumber.symm.trans heq)).2.2
  have hle := sequence_seen hinv htx hd
  rw [hσ] at hle
  rw [Invoicing.nextSequence] at hsequence
  rw [Invoicing.lastSeen] at hle
  omega

/-- A document is refused for its number exactly when the number does not fit. -/
theorem issue_fails_iff (hinv : NumberingInv s) (htx : tx ∈ s.txs.rows) {docType : DocType} {day : Day}
    {r : Except IssueError IssueTx} (h : s.issue tx docType day = some r) :
    (r = .error .numberTaken ∨ r = .error .numberTooLong) ↔ ¬NumberFits s tx docType day := by
  cases hstarts : tx.invoicePrefix with
  | none =>
    simp only [Invoicing.issue, hstarts] at h
    cases h
    refine ⟨fun hr => (by rcases hr with hr | hr <;> cases hr), fun hfits => absurd (fun p hp => ?_) hfits⟩
    rw [hstarts] at hp; cases hp
  | some p =>
    simp only [Invoicing.issue, hstarts, Option.ite_none_left_eq_some] at h
    obtain ⟨_, h⟩ := h
    have hfits : NumberFits s tx docType day ↔
        (∀ d ∈ s.seenBy tx, d.series ≠ ⟨docType, fiscalYear day⟩ → d.number ≠
          formatNumber (Invoicing.prefixFor docType p) (fiscalYear day) (s.nextSequence tx ⟨docType, fiscalYear day⟩))
        ∧ (Invoicing.prefixFor docType p).chars.length + 5
          + max 6 (Nat.toDigits 10 (s.nextSequence tx ⟨docType, fiscalYear day⟩)).length ≤ 16 := by
      simp only [NumberFits, hstarts, Option.mem_def, Option.some.injEq, forall_eq']
    rw [hfits]
    by_cases htaken : ∃ d ∈ s.seenBy tx, d.number =
        formatNumber (Invoicing.prefixFor docType p) (fiscalYear day) (s.nextSequence tx ⟨docType, fiscalYear day⟩)
    · rw [if_pos htaken] at h
      cases h
      obtain ⟨d, hd, hnumber⟩ := htaken
      refine ⟨fun _ hok => ?_, fun _ => .inl rfl⟩
      by_cases hσ : d.series = ⟨docType, fiscalYear day⟩
      · exact fresh_in_series hinv htx hd hσ hnumber
      · exact hok.1 d hd hσ hnumber
    · rw [if_neg htaken, formatNumber_length] at h
      by_cases hlong : 16 < (Invoicing.prefixFor docType p).chars.length + 5
          + max 6 (Nat.toDigits 10 (s.nextSequence tx ⟨docType, fiscalYear day⟩)).length
      · rw [if_pos hlong] at h
        cases h
        exact ⟨fun _ hok => absurd hok.2 (by omega), fun _ => .inr rfl⟩
      · rw [if_neg hlong] at h
        cases h
        refine ⟨fun hr => (by rcases hr with hr | hr <;> cases hr), fun hnot => absurd ⟨?_, by omega⟩ hnot⟩
        exact fun d hd _ hnumber => htaken ⟨d, hd, hnumber⟩

/-- Fewer transactions, and nothing else. -/
theorem NumberingInv.fewer (hinv : NumberingInv s) (htxs : s'.txs.rows ⊆ s.txs.rows)
    (hsequences : s'.sequences = s.sequences) (hdocuments : s'.documents = s.documents) : NumberingInv s' := by
  obtain ⟨p, sequences, documents, txs, next⟩ := s'
  obtain rfl : sequences = s.sequences := hsequences
  obtain rfl : documents = s.documents := hdocuments
  exact ⟨hinv.committed, fun x hx => hinv.grows x (htxs hx), fun x hx => hinv.open_ x (htxs hx),
    fun x hx x' hx' => hinv.apart x (htxs hx) x' (htxs hx'), hinv.distinct, fun x hx => hinv.distinctSeen x (htxs hx),
    fun x hx x' hx' => hinv.distinctOpen x (htxs hx) x' (htxs hx'), hinv.printed, fun x hx => hinv.printedOpen x (htxs hx)⟩

/-- A transaction with no document yet. -/
theorem NumberingInv.begin (hinv : NumberingInv s) {txs : Table IssueTx} {id : Nat}
    (hins : s.txs.insert? ⟨id, none, fun _ => none, []⟩ = some txs) {next : Nat} :
    NumberingInv { s with txs := txs, next := next } := by
  have hmem {x : IssueTx} := Table.mem_insert? (x := x) hins
  refine ⟨hinv.committed, ?_, ?_, ?_, hinv.distinct, ?_, ?_, hinv.printed, ?_⟩
  · intro x hx σ
    rcases hmem.mp hx with rfl | hx
    · exact Nat.le_refl _
    · exact hinv.grows x hx σ
  · intro x hx σ
    rcases hmem.mp hx with rfl | hx
    · simp [seriesNumbers, Invoicing.lastSeen]
    · exact hinv.open_ x hx σ
  · intro x hx x' hx' σ hsome hsome'
    rcases hmem.mp hx with rfl | hx
    · exact absurd rfl hsome
    · rcases hmem.mp hx' with rfl | hx'
      · exact absurd rfl hsome'
      · exact hinv.apart x hx x' hx' σ hsome hsome'
  · intro x hx
    rcases hmem.mp hx with rfl | hx
    · exact hinv.distinct
    · exact hinv.distinctSeen x hx
  · intro x hx x' hx' hne d hd d' hd'
    rcases hmem.mp hx with rfl | hx
    · cases hd
    · rcases hmem.mp hx' with rfl | hx'
      · cases hd'
      · exact hinv.distinctOpen x hx x' hx' hne d hd d' hd'
  · intro x hx
    rcases hmem.mp hx with rfl | hx
    · intro d hd; cases hd
    · exact hinv.printedOpen x hx

/-- A transaction that goes on, apart from the others. -/
theorem NumberingInv.replace {tx' : IssueTx} (hinv : NumberingInv s) (htx : s.txs.get? tx.id = some tx)
    (hid : tx'.id = tx.id) (hgrows : ∀ σ, s.sequences σ ≤ s.lastSeen tx' σ)
    (hopen : ∀ σ, seriesNumbers tx'.documents σ = (List.range' (s.sequences σ + 1) (s.lastSeen tx' σ - s.sequences σ)).reverse)
    (hapart : ∀ x ∈ s.txs.rows, x.id ≠ tx.id → ∀ σ, tx'.sequences σ ≠ none → x.sequences σ = none)
    (hseen : ((s.seenBy tx').map IssuedDocument.number).Nodup)
    (hothers : ∀ x ∈ s.txs.rows, x.id ≠ tx.id → ∀ d ∈ tx'.documents, ∀ d' ∈ x.documents, d.number ≠ d'.number)
    (hprinted : ∀ d ∈ tx'.documents, d.Printed) : NumberingInv { s with txs := s.txs.replace tx' } := by
  have hget : s.txs.get? (Keyed.key tx') = some tx := by
    rw [show (Keyed.key tx' : Nat) = tx.id from hid]; exact htx
  have hcases {x : IssueTx} (hx : x ∈ (s.txs.replace tx').rows) : x = tx' ∨ (x ∈ s.txs.rows ∧ x.id ≠ tx.id) := by
    rcases (Table.mem_replace hget).mp hx with rfl | ⟨hx, hne⟩
    · exact .inl rfl
    · exact .inr ⟨hx, by rwa [← hid]⟩
  refine ⟨hinv.committed, ?_, ?_, ?_, hinv.distinct, ?_, ?_, hinv.printed, ?_⟩
  · intro x hx
    rcases hcases hx with rfl | ⟨hx, _⟩
    · exact hgrows
    · exact hinv.grows x hx
  · intro x hx
    rcases hcases hx with rfl | ⟨hx, _⟩
    · exact hopen
    · exact hinv.open_ x hx
  · intro x hx x' hx' σ hsome hsome'
    rcases hcases hx with rfl | ⟨hold, hne⟩ <;> rcases hcases hx' with rfl | ⟨hold', hne'⟩
    · rfl
    · exact absurd (hapart x' hold' hne' σ hsome) hsome'
    · exact absurd (hapart x hold hne σ hsome') hsome
    · exact hinv.apart x hold x' hold' σ hsome hsome'
  · intro x hx
    rcases hcases hx with rfl | ⟨hx, _⟩
    · exact hseen
    · exact hinv.distinctSeen x hx
  · intro x hx x' hx' hxx' d hd d' hd'
    rcases hcases hx with rfl | ⟨hold, hne⟩ <;> rcases hcases hx' with rfl | ⟨hold', hne'⟩
    · exact absurd rfl hxx'
    · exact hothers x' hold' hne' d hd d' hd'
    · exact (hothers x hold hne d' hd' d hd).symm
    · exact hinv.distinctOpen x hold x' hold' hxx' d hd d' hd'
  · intro x hx
    rcases hcases hx with rfl | ⟨hx, _⟩
    · exact hprinted
    · exact hinv.printedOpen x hx

theorem NumberingInv.readProfile (hinv : NumberingInv s) (htx : s.txs.get? tx.id = some tx) (p : Option InvoicePrefix) :
    NumberingInv { s with txs := s.txs.replace { tx with invoicePrefix := p } } := by
  have hmem := Table.mem_of_get? htx
  refine @NumberingInv.replace _ _ { tx with invoicePrefix := p } hinv htx rfl (hinv.grows tx hmem) (hinv.open_ tx hmem) ?_
    (hinv.distinctSeen tx hmem) ?_ (hinv.printedOpen tx hmem)
  · intro x hx hne σ hsome
    by_contra hx'
    exact hne (hinv.apart x hx tx hmem σ hx' hsome)
  · intro x hx hne d hd d' hd'
    exact hinv.distinctOpen tx hmem x hx hne.symm d hd d' hd'

/-- What a stored document is. -/
theorem issue_spec {docType : DocType} {day : Day} {tx' : IssueTx} (h : s.issue tx docType day = some (.ok tx')) :
    ∃ p ∈ tx.invoicePrefix, ∃ d : IssuedDocument, d.series = ⟨docType, fiscalYear day⟩
      ∧ d.sequence = s.nextSequence tx d.series
      ∧ d.number = formatNumber (Invoicing.prefixFor docType p) (fiscalYear day) d.sequence
      ∧ ¬s.mustWait tx d.series d.number ∧ (∀ d' ∈ s.seenBy tx, d'.number ≠ d.number) ∧ d.number.length ≤ 16
      ∧ tx' = { tx with
          sequences := Function.update tx.sequences d.series (some d.sequence), documents := d :: tx.documents } := by
  cases hstarts : tx.invoicePrefix with
  | none => simp only [Invoicing.issue, hstarts] at h; cases h
  | some p =>
    simp only [Invoicing.issue, hstarts, Option.ite_none_left_eq_some] at h
    obtain ⟨hwait, h⟩ := h
    refine ⟨p, rfl, ⟨⟨docType, fiscalYear day⟩, s.nextSequence tx ⟨docType, fiscalYear day⟩, _⟩, rfl, rfl, rfl, hwait, ?_⟩
    split at h
    · cases h
    · next htaken =>
      split at h
      · cases h
      · next hlong =>
        cases h
        exact ⟨fun d' hd' heq => htaken ⟨d', hd', heq⟩, Nat.not_lt.mp hlong, rfl⟩

theorem NumberingInv.issue {docType : DocType} {day : Day} {tx' : IssueTx} (hinv : NumberingInv s)
    (htx : s.txs.get? tx.id = some tx) (h : s.issue tx docType day = some (.ok tx')) :
    NumberingInv { s with txs := s.txs.replace tx' } := by
  have hmem := Table.mem_of_get? htx
  obtain ⟨p, _, d, hσ, hsequence, hnumber, hwait, hfree, hlength, rfl⟩ := issue_spec h
  have hnext : d.sequence = s.lastSeen tx d.series + 1 := hsequence
  have hother {x : IssueTx} (hx : x ∈ s.txs.rows) (hne : x.id ≠ tx.id) :
      x.sequences d.series = none ∧ ∀ d' ∈ x.documents, d'.number ≠ d.number := by
    refine ⟨?_, fun d' hd' heq => hwait ⟨x, hx, hne, .inr ⟨d', hd', heq⟩⟩⟩
    by_contra hsome
    exact hwait ⟨x, hx, hne, .inl hsome⟩
  have hlast (σ : Series) : s.lastSeen { tx with
      sequences := Function.update tx.sequences d.series (some d.sequence), documents := d :: tx.documents } σ
      = if σ = d.series then d.sequence else s.lastSeen tx σ := by
    rcases eq_or_ne σ d.series with rfl | hne
    · simp [Invoicing.lastSeen]
    · simp [Invoicing.lastSeen, hne]
  refine hinv.replace htx rfl (fun σ => ?_) (fun σ => ?_) ?_ ?_ ?_ ?_
  · have hle := hinv.grows tx hmem σ
    rw [hlast]
    split
    · next heq => subst heq; omega
    · exact hle
  · have hle := hinv.grows tx hmem σ
    rw [hlast]
    rcases eq_or_ne σ d.series with rfl | hne
    · rw [if_pos rfl, hnext]
      have hcount : s.lastSeen tx d.series + 1 - s.sequences d.series
          = s.lastSeen tx d.series - s.sequences d.series + 1 := by omega
      rw [hcount, List.range'_1_concat, List.reverse_append, ← hinv.open_ tx hmem]
      have hhead : d.sequence = s.sequences d.series + 1 + (s.lastSeen tx d.series - s.sequences d.series) := by omega
      rw [← hhead]
      simp [seriesNumbers]
    · rw [if_neg hne, ← hinv.open_ tx hmem σ]
      simp [seriesNumbers, hne.symm]
  · intro x hx hne σ hsome
    rcases eq_or_ne σ d.series with rfl | hσne
    · exact (hother hx hne).1
    · by_contra hx'
      have hsome : tx.sequences σ ≠ none := by simpa [hσne] using hsome
      exact hne (hinv.apart x hx tx hmem σ hx' hsome)
  · refine List.nodup_cons.mpr ⟨fun hin => ?_, hinv.distinctSeen tx hmem⟩
    obtain ⟨d', hd', heq⟩ := List.mem_map.mp hin
    exact hfree d' hd' heq
  · intro x hx hne d₁ hd₁ d' hd'
    rcases List.mem_cons.mp hd₁ with rfl | hd₁
    · exact fun heq => (hother hx hne).2 d' hd' heq.symm
    · exact hinv.distinctOpen tx hmem x hx hne.symm d₁ hd₁ d' hd'
  · intro d₁ hd₁
    rcases List.mem_cons.mp hd₁ with rfl | hd₁
    · refine ⟨_, day, by rw [hσ], hnumber, fun hcredit => ?_, hlength⟩
      rw [hσ] at hcredit
      obtain rfl : docType = .creditNote := hcredit
      rfl
    · exact hinv.printedOpen tx hmem d₁ hd₁

theorem NumberingInv.commit (hinv : NumberingInv s) (htx : s.txs.get? tx.id = some tx) :
    NumberingInv { s with
      sequences := fun σ => (tx.sequences σ).getD (s.sequences σ), documents := s.seenBy tx, txs := s.txs.erase tx.id } := by
  have hmem := Table.mem_of_get? htx
  have hothers {x : IssueTx} (hx : x ∈ (s.txs.erase tx.id).rows) : x ∈ s.txs.rows ∧ x.id ≠ tx.id := Table.mem_erase.mp hx
  -- the rows that another transaction has written are not those that this one has written
  have hsame {x : IssueTx} (hx : x ∈ s.txs.rows) (hne : x.id ≠ tx.id) {σ : Series} (hwritten : x.sequences σ ≠ none) :
      (tx.sequences σ).getD (s.sequences σ) = s.sequences σ := by
    cases hσ : tx.sequences σ with
    | none => rfl
    | some v => exact absurd (hinv.apart x hx tx hmem σ hwritten (by rw [hσ]; nofun)) hne
  refine ⟨seriesNumbers_seen hinv hmem, ?_, ?_, ?_, hinv.distinctSeen tx hmem, ?_, ?_, ?_, ?_⟩
  · intro x hx σ
    obtain ⟨hx, hne⟩ := hothers hx
    show (tx.sequences σ).getD (s.sequences σ) ≤ (x.sequences σ).getD ((tx.sequences σ).getD (s.sequences σ))
    cases hσ : x.sequences σ with
    | none => exact Nat.le_refl _
    | some v =>
      have hle := hinv.grows x hx σ
      rw [Invoicing.lastSeen, hσ] at hle
      rw [hsame hx hne (by rw [hσ]; nofun)]
      exact hle
  · intro x hx σ
    obtain ⟨hx, hne⟩ := hothers hx
    have hopen := hinv.open_ x hx σ
    show seriesNumbers x.documents σ = (List.range' ((tx.sequences σ).getD (s.sequences σ) + 1)
      ((x.sequences σ).getD ((tx.sequences σ).getD (s.sequences σ)) - (tx.sequences σ).getD (s.sequences σ))).reverse
    cases hσ : x.sequences σ with
    | none =>
      rw [Invoicing.lastSeen, hσ] at hopen
      simpa using hopen
    | some v =>
      rw [Invoicing.lastSeen, hσ] at hopen
      rw [hsame hx hne (by rw [hσ]; nofun)]
      exact hopen
  · intro x hx x' hx'
    exact hinv.apart x (hothers hx).1 x' (hothers hx').1
  · intro x hx
    obtain ⟨hx, hne⟩ := hothers hx
    show ((x.documents ++ s.seenBy tx).map IssuedDocument.number).Nodup
    have hx_seen := hinv.distinctSeen x hx
    rw [Invoicing.seenBy, List.map_append, List.nodup_append] at hx_seen
    rw [List.map_append, List.nodup_append]
    refine ⟨hx_seen.1, hinv.distinctSeen tx hmem, fun n hn n' hn' => ?_⟩
    obtain ⟨d, hd, rfl⟩ := List.mem_map.mp hn
    obtain ⟨d', hd', rfl⟩ := List.mem_map.mp hn'
    rcases List.mem_append.mp hd' with hd' | hd'
    · exact hinv.distinctOpen x hx tx hmem hne d hd d' hd'
    · exact hx_seen.2.2 _ hn _ (List.mem_map_of_mem hd')
  · intro x hx x' hx'
    exact hinv.distinctOpen x (hothers hx).1 x' (hothers hx').1
  · intro d hd
    exact printed_seen hinv hmem hd
  · intro x hx
    exact hinv.printedOpen x (hothers hx).1

theorem NumberingInv.step (hinv : NumberingInv s) (h : invoicingStep s l = some s') : NumberingInv s' := by
  obtain ⟨⟨_, out⟩, hround, rfl⟩ := Option.map_eq_some_iff.mp h
  cases l with
  | setProfile p => cases hround; exact hinv.fewer (List.Subset.refl _) rfl rfl
  | begin =>
    obtain ⟨txs, hins, hs⟩ := Option.bind_eq_some_iff.mp hround
    cases hs; exact hinv.begin hins
  | readProfile id =>
    obtain ⟨tx, htx, hs⟩ := Option.bind_eq_some_iff.mp hround
    obtain rfl := Table.key_of_get? htx
    cases hs; exact hinv.readProfile htx _
  | issue id docType day =>
    obtain ⟨tx, htx, hs⟩ := Option.bind_eq_some_iff.mp hround
    obtain ⟨r, hr, hs⟩ := Option.bind_eq_some_iff.mp hs
    obtain rfl := Table.key_of_get? htx
    cases r with
    | ok tx' => cases hs; exact hinv.issue htx hr
    | error e => cases hs; exact hinv.fewer (fun _ hx => (Table.mem_erase.mp hx).1) rfl rfl
  | commit id =>
    obtain ⟨tx, htx, hs⟩ := Option.bind_eq_some_iff.mp hround
    obtain rfl := Table.key_of_get? htx
    cases hs; exact hinv.commit htx
  | rollback id => cases hround; exact hinv.fewer (fun _ hx => (Table.mem_erase.mp hx).1) rfl rfl

theorem Invoicing.Initial.inv (h₀ : s₀.Initial) : NumberingInv s₀ := by
  have htxs : s₀.txs.rows = [] := by rw [h₀.txs]; rfl
  refine ⟨?_, ?_, ?_, ?_, ?_, ?_, ?_, ?_, ?_⟩
  · intro σ; rw [h₀.documents, h₀.sequences]; rfl
  · intro x hx; rw [htxs] at hx; cases hx
  · intro x hx; rw [htxs] at hx; cases hx
  · intro x hx; rw [htxs] at hx; cases hx
  · rw [h₀.documents]; exact List.nodup_nil
  · intro x hx; rw [htxs] at hx; cases hx
  · intro x hx; rw [htxs] at hx; cases hx
  · intro d hd; rw [h₀.documents] at hd; cases hd
  · intro x hx; rw [htxs] at hx; cases hx

theorem InvoicingRun.inv (h₀ : s₀.Initial) (run : InvoicingRun s₀ tr s) : NumberingInv s :=
  Exec.invariant h₀.inv (fun hstep hinv => hinv.step hstep) run

/-- The numbers of every series are consecutive from 1, no number is printed twice and none is too long; a document
    is refused for its number exactly when another series has printed that number or the number is too long. -/
theorem invoice_numbering (h₀ : s₀.Initial) (run : InvoicingRun s₀ tr s) :
    (∀ σ, seriesNumbers s.documents σ = (List.range' 1 (s.sequences σ)).reverse)
    ∧ (s.documents.map IssuedDocument.number).Nodup ∧ (∀ d ∈ s.documents, d.number.length ≤ 16)
    ∧ (∀ t ∈ tr, ∀ id docType day tx, t.label = .issue id docType day → t.pre.txs.get? id = some tx →
        ((issueError t = some .numberTaken ∨ issueError t = some .numberTooLong) ↔ ¬NumberFits t.pre tx docType day)) := by
  have hinv := InvoicingRun.inv h₀ run
  refine ⟨hinv.committed, hinv.distinct, fun d hd => ?_, ?_⟩
  · obtain ⟨_, _, _, _, _, hlength⟩ := hinv.printed d hd
    exact hlength
  · intro t ht id docType day tx hlabel htx
    obtain ⟨⟨_, hbefore⟩, hstep⟩ := run.taken ht
    have hpre := InvoicingRun.inv h₀ hbefore
    obtain ⟨⟨_, out⟩, hround, _⟩ := Option.map_eq_some_iff.mp hstep
    have hout : issueError t = out := by rw [issueError, hround]; rfl
    rw [hlabel] at hround
    obtain ⟨x, hx, hs⟩ := Option.bind_eq_some_iff.mp hround
    rw [htx] at hx
    cases hx
    obtain ⟨r, hr, hs⟩ := Option.bind_eq_some_iff.mp hs
    rw [← issue_fails_iff hpre (Table.mem_of_get? htx) hr, hout]
    cases r with
    | ok tx' =>
      cases hs
      exact ⟨fun h => (by rcases h with h | h <;> cases h), fun h => (by rcases h with h | h <;> cases h)⟩
    | error e =>
      cases hs
      rw [Option.some.injEq, Option.some.injEq, Except.error.injEq, Except.error.injEq]

end

/-! ### Two types of documents with one prefix -/

def newBooks : Invoicing := ⟨none, fun _ => 0, [], .empty, 0⟩

theorem newBooks_initial : newBooks.Initial := ⟨rfl, fun _ => rfl, rfl, rfl⟩

def august : Day := ⟨2026, 8, by decide⟩

def prefixINV : InvoicePrefix := ⟨['I', 'N', 'V'], by simp⟩

/-- An invoice and its credit note. -/
def invoiceAndCreditNote (p : InvoicePrefix) : List InvoicingLabel :=
  [.setProfile p, .begin, .readProfile 0, .issue 0 .invoice august, .commit 0,
   .begin, .readProfile 1, .issue 1 .creditNote august]

theorem invoice_and_credit_note : ∃ tr s, InvoicingRun newBooks tr s ∧ s.documents.length = 2
    ∧ (s.documents.map IssuedDocument.number).Nodup := by
  obtain ⟨tr, s, run, hlength⟩ := exists_exec invoicingStep newBooks (P := fun _ s => s.documents.length = 2)
    (invoiceAndCreditNote prefixINV ++ [.commit 1]) (by decide)
  exact ⟨tr, s, run, hlength, (invoice_numbering newBooks_initial run).2.1⟩

/-- With the prefix of the credit notes for the invoices, the first credit note has the number of the first invoice. -/
theorem credit_note_number_taken : newBooks.Initial ∧ ∃ tr s, InvoicingRun newBooks tr s
    ∧ ∃ t ∈ tr, issueError t = some .numberTaken :=
  ⟨newBooks_initial, exists_exec invoicingStep newBooks (P := fun tr _ => ∃ t ∈ tr, issueError t = some .numberTaken)
    (invoiceAndCreditNote creditNotePrefix) (by decide)⟩

end NovaCart
