import NovaCart.Categories
import NovaCart.CheckoutRuns
import NovaCart.Footprints

/-! Categories over whole runs: no two share a name or a slug, and a slug is made of a name.

    A row that is written but not committed is held, and no other request writes one that collides with it or with
    what it was. So the row that a commit puts in place was checked against every row that is there by then. -/

namespace NovaCart

open Schemes

variable {env : CatalogueEnv} {s s' s₀ : Catalogue} {tr : List (Taken Catalogue CatalogueLabel)}

/-! ### What a step does -/

inductive CatalogueMove (env : CatalogueEnv) (s s' : Catalogue) : CatalogueLabel → Prop
  | begun {pid : Id} {r : CategoryRequest} {p : CategoryProc} {procs : Table CategoryEntry}
    (hp : s.prepare env r = .ok p) (hprocs : s.procs.insert? ⟨pid, p⟩ = some procs)
    (hs' : s' = { s with procs := procs }) : CatalogueMove env s s' (.begin_ pid r)
  | refused {pid : Id} {r : CategoryRequest} (hs' : s' = s) : CatalogueMove env s s' (.begin_ pid r)
  | looked {pid : Id} {n : Naming} {suffix : Nat} (hproc : s.proc? pid = some (.naming n suffix))
    (hs' : s' = s.goOn pid (.naming n (suffix + 1))) : CatalogueMove env s s' (.look pid)
  | found {pid : Id} {n : Naming} {suffix : Nat} (hproc : s.proc? pid = some (.naming n suffix)) (hpos : suffix ≠ 0)
    (hs' : s' = s.goOn pid (.writing (n.write (candidate (slugify env.lower n.name) suffix)))) :
    CatalogueMove env s s' (.look pid)
  | uploaded {pid : Id} {c : Category} {image : Image} {extension uuid : String} {files : Table StoredFile}
    (hproc : s.proc? pid = some (.uploading c image extension))
    (hfresh : picturePath c uuid extension ∉ s.drawn)
    (hfiles : s.files.insert? ⟨picturePath c uuid extension,
      image.contentType.getD "application/octet-stream", image.content⟩ = some files)
    (hs' : s' = { s.goOn pid (.writing (.update c { c with imagePath := some (picturePath c uuid extension) })) with
      files := files, drawn := picturePath c uuid extension :: s.drawn }) : CatalogueMove env s s' (.upload pid uuid)
  | wrote {pid : Id} {w : CategoryWrite} {row : Category} (hproc : s.proc? pid = some (.writing w))
    (hrow : s.rowOf w = some row) (hwaits : s.waits pid row = false)
    (hfree : ∀ c ∈ s.categories.rows, c.id ≠ row.id → c.collides row = false)
    (hs' : s' = { s.goOn pid (.written w row w.oldFile) with lastId := s.lastId + w.draws }) :
    CatalogueMove env s s' (.flush pid)
  | dropped {pid : Id} {w : CategoryWrite} {row : Category} {path : String}
    (hproc : s.proc? pid = some (.written w row (some path)))
    (hs' : s' = { s.goOn pid (.written w row none) with files := s.files.erase path }) :
    CatalogueMove env s s' (.drop pid)
  | inserted {pid : Id} {name slug : String} {description : Option String} {row : Category}
    {categories : Table Category} (hproc : s.proc? pid = some (.written (.insert name slug description) row none))
    (hrow : s.categories.insert? row = some categories) (hs' : s' = { s.end_ pid with categories := categories }) :
    CatalogueMove env s s' (.commit pid)
  | updated {pid : Id} {loaded edited row : Category}
    (hproc : s.proc? pid = some (.written (.update loaded edited) row none))
    (hs' : s' = { s.end_ pid with categories := s.categories.replace row }) : CatalogueMove env s s' (.commit pid)
  | failed {pid : Id} {w : CategoryWrite} {n : Nat} {l : CatalogueLabel} (hproc : s.proc? pid = some (.writing w))
    (hs' : s' = { s with lastId := s.lastId + n }.fail pid w) : CatalogueMove env s s' l
  | ended {pid : Id} {l : CatalogueLabel} (hl : l = .abort pid ∨ l = .look pid ∨ l = .flush pid)
    (hs' : s' = s.end_ pid) : CatalogueMove env s s' l

theorem flush_move {pid : Id} {w : CategoryWrite} (hproc : s.proc? pid = some (.writing w))
    (h : s.flush pid w = some s') : CatalogueMove env s s' (.flush pid) := by
  unfold Catalogue.flush at h
  split at h
  · cases h
    exact .failed (n := 0) hproc rfl
  rename_i row hrow
  split at h
  · cases h
    exact .ended (.inr (.inr rfl)) rfl
  split at h
  · cases h
  rename_i hwaits
  dsimp only at h
  split at h
  · cases h
    exact .failed hproc rfl
  · rename_i hfree
    cases h
    refine .wrote hproc hrow (by simpa using hwaits) (fun c hc hne => ?_) rfl
    by_contra hcollides
    exact hfree ⟨c, hc, hne, by simpa using hcollides⟩

theorem catalogueStep_move {l : CatalogueLabel} (h : catalogueStep env s l = some s') : CatalogueMove env s s' l := by
  cases l with
  | begin_ pid r =>
    simp only [catalogueStep] at h
    split at h
    · rename_i p hp
      obtain ⟨procs, hprocs, rfl⟩ := Option.map_eq_some_iff.mp h
      exact .begun hp hprocs rfl
    · cases h
      exact .refused rfl
  | look pid =>
    simp only [catalogueStep] at h
    split at h
    · rename_i n suffix hproc
      cases h
      unfold Catalogue.look
      split
      · rename_i hzero
        subst hzero
        split
        · exact .ended (.inr (.inl rfl)) rfl
        · exact .looked hproc rfl
      · rename_i hpos
        dsimp only
        split
        · exact .looked hproc rfl
        · exact .found hproc hpos rfl
    · cases h
  | upload pid uuid =>
    simp only [catalogueStep] at h
    split at h
    · rename_i c image extension hproc
      unfold Catalogue.upload at h
      dsimp only at h
      split at h
      · cases h
      rename_i hfresh
      obtain ⟨files, hfiles, rfl⟩ := Option.map_eq_some_iff.mp h
      exact .uploaded hproc hfresh hfiles rfl
    · cases h
  | flush pid =>
    simp only [catalogueStep] at h
    split at h
    · rename_i w hproc
      exact flush_move hproc h
    · cases h
  | flushFails pid =>
    simp only [catalogueStep] at h
    split at h
    · rename_i w hproc
      cases h
      exact .failed (n := 0) hproc rfl
    · cases h
  | drop pid =>
    simp only [catalogueStep] at h
    split at h
    · rename_i w row path hproc
      cases h
      exact .dropped hproc rfl
    · cases h
  | commit pid =>
    simp only [catalogueStep] at h
    split at h
    · rename_i name slug description row hproc
      obtain ⟨categories, hrow, rfl⟩ := Option.map_eq_some_iff.mp h
      exact .inserted hproc hrow rfl
    · rename_i loaded edited row hproc
      cases h
      exact .updated hproc rfl
    · cases h
  | abort pid =>
    cases h
    exact .ended (.inl rfl) rfl

/-! ### Open requests -/

theorem Catalogue.proc?_end {pid q : Id} : (s.end_ pid).proc? q = if q = pid then none else s.proc? q := by
  unfold Catalogue.proc? Catalogue.end_
  rw [Table.get?_erase]
  split
  · rfl
  · rfl

theorem Catalogue.proc?_goOn {pid q : Id} {p p' : CategoryProc} (h : (s.goOn pid p).proc? q = some p') :
    q = pid ∧ p' = p ∨ q ≠ pid ∧ s.proc? q = some p' := by
  unfold Catalogue.proc? Catalogue.goOn at h
  rw [Table.get?_replace] at h
  split at h
  · rename_i hq
    refine .inl ⟨hq, ?_⟩
    cases hget : s.procs.get? q with
    | none =>
      rw [hget] at h
      cases h
    | some e =>
      rw [hget] at h
      cases h
      rfl
  · rename_i hq
    exact .inr ⟨hq, h⟩

theorem Catalogue.proc?_mem {pid : Id} {p : CategoryProc} (h : s.proc? pid = some p) : ⟨pid, p⟩ ∈ s.procs.rows := by
  obtain ⟨e, he, rfl⟩ := Option.map_eq_some_iff.mp h
  have hkey : e.pid = pid := Table.key_of_get? he
  rw [← hkey]
  exact Table.mem_of_get? he

/-- The request has written its row, and not committed it. -/
def Holds (s : Catalogue) (pid : Id) (w : CategoryWrite) (row : Category) : Prop :=
  ∃ oldFile, s.proc? pid = some (.written w row oldFile)

theorem fail_eq {pid : Id} {w : CategoryWrite} : (s.fail pid w).categories = s.categories ∧
    (s.fail pid w).procs = (s.end_ pid).procs ∧ (s.fail pid w).lastId = s.lastId ∧ (s.fail pid w).drawn = s.drawn := by
  unfold Catalogue.fail
  split
  · exact ⟨rfl, rfl, rfl, rfl⟩
  · exact ⟨rfl, rfl, rfl, rfl⟩

theorem Catalogue.proc?_congr {pid : Id} (h : s'.procs = s.procs) : s'.proc? pid = s.proc? pid := by
  unfold Catalogue.proc?
  rw [h]

theorem proc?_begun {pid q : Id} {p p' : CategoryProc} {procs : Table CategoryEntry}
    (hprocs : s.procs.insert? ⟨pid, p⟩ = some procs) (h : Catalogue.proc? { s with procs := procs } q = some p') :
    q = pid ∧ p' = p ∨ s.proc? q = some p' := by
  unfold Catalogue.proc? at h ⊢
  rw [Table.get?_insert? hprocs] at h
  split at h
  · rename_i hkey
    cases h
    exact .inl ⟨hkey.symm, rfl⟩
  · exact .inr h

/-- What a request is in the next state: what it was, or what the step made of it. -/
inductive CatalogueMove.Became (env : CatalogueEnv) (s : Catalogue) (q : Id) : CategoryProc → Prop
  | same {p : CategoryProc} (h : s.proc? q = some p) : Became env s q p
  | begun {r : CategoryRequest} {p : CategoryProc} (h : s.prepare env r = .ok p) : Became env s q p
  | looked {n : Naming} {suffix : Nat} (h : s.proc? q = some (.naming n suffix)) : Became env s q (.naming n (suffix + 1))
  | found {n : Naming} {suffix : Nat} (h : s.proc? q = some (.naming n suffix)) (hpos : suffix ≠ 0) :
    Became env s q (.writing (n.write (candidate (slugify env.lower n.name) suffix)))
  | uploaded {c : Category} {image : Image} {extension uuid : String}
    (h : s.proc? q = some (.uploading c image extension)) (hfresh : picturePath c uuid extension ∉ s.drawn) :
    Became env s q (.writing (.update c { c with imagePath := some (picturePath c uuid extension) }))
  | wrote {w : CategoryWrite} {row : Category} (h : s.proc? q = some (.writing w)) (hrow : s.rowOf w = some row) :
    Became env s q (.written w row w.oldFile)
  | dropped {w : CategoryWrite} {row : Category} {path : String}
    (h : s.proc? q = some (.written w row (some path))) : Became env s q (.written w row none)

theorem CatalogueMove.became {l : CatalogueLabel} (h : CatalogueMove env s s' l) {q : Id} {p : CategoryProc}
    (hq : s'.proc? q = some p) : Became env s q p := by
  cases h with
  | begun hp hprocs hs' =>
    subst hs'
    rcases proc?_begun hprocs hq with ⟨rfl, rfl⟩ | hold
    · exact .begun hp
    · exact .same hold
  | refused hs' =>
    subst hs'
    exact .same hq
  | looked hproc hs' =>
    subst hs'
    rcases Catalogue.proc?_goOn hq with ⟨rfl, rfl⟩ | ⟨_, hold⟩
    · exact .looked hproc
    · exact .same hold
  | found hproc hpos hs' =>
    subst hs'
    rcases Catalogue.proc?_goOn hq with ⟨rfl, rfl⟩ | ⟨_, hold⟩
    · exact .found hproc hpos
    · exact .same hold
  | uploaded hproc hfresh _ hs' =>
    subst hs'
    rcases Catalogue.proc?_goOn hq with ⟨rfl, rfl⟩ | ⟨_, hold⟩
    · exact .uploaded hproc hfresh
    · exact .same hold
  | wrote hproc hrow _ _ hs' =>
    subst hs'
    rcases Catalogue.proc?_goOn hq with ⟨rfl, rfl⟩ | ⟨_, hold⟩
    · exact .wrote hproc hrow
    · exact .same hold
  | dropped hproc hs' =>
    subst hs'
    rcases Catalogue.proc?_goOn hq with ⟨rfl, rfl⟩ | ⟨_, hold⟩
    · exact .dropped hproc
    · exact .same hold
  | inserted _ _ hs' =>
    subst hs'
    have hq : (s.end_ _).proc? q = some p := hq
    rw [Catalogue.proc?_end] at hq
    split at hq
    · cases hq
    · exact .same hq
  | updated _ hs' =>
    subst hs'
    have hq : (s.end_ _).proc? q = some p := hq
    rw [Catalogue.proc?_end] at hq
    split at hq
    · cases hq
    · exact .same hq
  | failed _ hs' =>
    subst hs'
    rw [Catalogue.proc?_congr fail_eq.2.1, Catalogue.proc?_end] at hq
    split at hq
    · cases hq
    · exact .same hq
  | ended _ hs' =>
    subst hs'
    rw [Catalogue.proc?_end] at hq
    split at hq
    · cases hq
    · exact .same hq

/-- No request begins with a row that is written. -/
theorem prepare_unwritten (r : CategoryRequest) {w : CategoryWrite} {row : Category} {oldFile : Option String} :
    s.prepare env r ≠ .ok (.written w row oldFile) := by
  intro h
  cases r with
  | create name description => cases h
  | update categoryId name description isActive =>
    simp only [Catalogue.prepare] at h
    split at h
    · cases h
    · split at h
      · cases h
      · cases h
  | deactivate categoryId =>
    simp only [Catalogue.prepare] at h
    split at h
    · cases h
    · cases h
  | uploadImage categoryId image =>
    simp only [Catalogue.prepare] at h
    split at h
    · cases h
    · split at h
      · cases h
      · cases h
  | deleteImage categoryId =>
    simp only [Catalogue.prepare] at h
    split at h
    · cases h
    · cases h

theorem CatalogueMove.holds {l : CatalogueLabel} (h : CatalogueMove env s s' l) {q : Id} {w : CategoryWrite}
    {row : Category} (hq : Holds s' q w row) :
    Holds s q w row ∨ s.proc? q = some (.writing w) ∧ s.rowOf w = some row := by
  obtain ⟨oldFile, hq⟩ := hq
  have hbecame := h.became hq
  generalize hp : CategoryProc.written w row oldFile = p at hbecame
  cases hbecame with
  | same hold => exact .inl ⟨oldFile, hp ▸ hold⟩
  | begun hprep =>
    rename_i r
    subst hp
    exact absurd hprep (prepare_unwritten r)
  | looked => cases hp
  | found => cases hp
  | uploaded => cases hp
  | wrote hproc hrow =>
    cases hp
    exact .inr ⟨hproc, hrow⟩
  | dropped hproc =>
    cases hp
    exact .inl ⟨_, hproc⟩

/-! ### What every step keeps -/

/-- No two rows collide, and no row that is written but not committed collides with what is there by now. -/
structure CategoryInv (s : Catalogue) : Prop where
  unique : ∀ c ∈ s.categories.rows, ∀ c' ∈ s.categories.rows, c.collides c' = true → c.id = c'.id
  numbers : ∀ c ∈ s.categories.rows, c.id ≤ s.lastId
  edited : ∀ {pid loaded edited row}, Holds s pid (.update loaded edited) row →
    ∃ current, s.categories.get? row.id = some current ∧ row = loaded.updated edited current
  inserted : ∀ {pid name slug description row}, Holds s pid (.insert name slug description) row →
    s.categories.get? row.id = none ∧ row.id ≤ s.lastId ∧ row.name = name ∧ row.slug = slug ∧ row.imagePath = none
  free : ∀ {pid w row}, Holds s pid w row → ∀ c ∈ s.categories.rows, c.id ≠ row.id → c.collides row = false
  apart : ∀ {pid pid' w w' row row'}, Holds s pid w row → Holds s pid' w' row' → pid ≠ pid' →
    row.id ≠ row'.id ∧ row.collides row' = false

theorem collides_comm (c c' : Category) : c.collides c' = c'.collides c := by
  simp only [Category.collides, eq_comm]

theorem rowOf_update {loaded edited row : Category} (h : s.rowOf (.update loaded edited) = some row) :
    ∃ current, s.categories.get? row.id = some current ∧ row = loaded.updated edited current := by
  obtain ⟨current, hcurrent, rfl⟩ := Option.map_eq_some_iff.mp h
  refine ⟨current, ?_, rfl⟩
  rw [show (loaded.updated edited current).id = loaded.id from Table.key_of_get? hcurrent]
  exact hcurrent

/-- A step that writes no row and moves nobody's. -/
theorem CategoryInv.calm (hinv : CategoryInv s) (hcategories : s'.categories = s.categories)
    (hlast : s.lastId ≤ s'.lastId) (hholds : ∀ {pid w row}, Holds s' pid w row → Holds s pid w row) :
    CategoryInv s' := by
  constructor
  · rw [hcategories]
    exact hinv.unique
  · rw [hcategories]
    exact fun c hc => (hinv.numbers c hc).trans hlast
  · intro pid loaded edited row h
    rw [hcategories]
    exact hinv.edited (hholds h)
  · intro pid name slug description row h
    rw [hcategories]
    obtain ⟨hnone, hid, hrest⟩ := hinv.inserted (hholds h)
    exact ⟨hnone, hid.trans hlast, hrest⟩
  · intro pid w row h
    rw [hcategories]
    exact hinv.free (hholds h)
  · exact fun h h' => hinv.apart (hholds h) (hholds h')

/-- A request that has not to wait collides with nobody's row. -/
theorem waits_false {pid pid' : Id} {row row' : Category} {w' : CategoryWrite} (h : s.waits pid row = false)
    (hholds : Holds s pid' w' row') (hne : pid' ≠ pid) : row'.id ≠ row.id ∧ row'.collides row = false := by
  obtain ⟨oldFile, hproc⟩ := hholds
  have hentry := List.any_eq_false.mp h _ (Catalogue.proc?_mem hproc)
  simp only [hne, ne_eq, not_false_eq_true, decide_true, Bool.true_and] at hentry
  simp only [Catalogue.conflicts, decide_eq_true_eq, not_or] at hentry
  exact ⟨hentry.1, by simpa using hentry.2.1⟩

theorem CategoryInv.wrote (hinv : CategoryInv s) {pid : Id} {w : CategoryWrite} {row : Category}
    (hproc : s.proc? pid = some (.writing w)) (hrow : s.rowOf w = some row) (hwaits : s.waits pid row = false)
    (hfree : ∀ c ∈ s.categories.rows, c.id ≠ row.id → c.collides row = false)
    (hs' : s' = { s.goOn pid (.written w row w.oldFile) with lastId := s.lastId + w.draws }) : CategoryInv s' := by
  have hcategories : s'.categories = s.categories := by rw [hs']; rfl
  have hlast : s.lastId ≤ s'.lastId := by rw [hs']; exact Nat.le_add_right _ _
  -- the request's own row, or one that was held before
  have hcases : ∀ {q w' row'}, Holds s' q w' row' → q = pid ∧ w' = w ∧ row' = row ∨ q ≠ pid ∧ Holds s q w' row' := by
    rintro q w' row' ⟨oldFile, hq⟩
    rw [hs'] at hq
    rcases Catalogue.proc?_goOn (s := s) hq with ⟨rfl, hp⟩ | ⟨hne, hold⟩
    · cases hp
      exact .inl ⟨rfl, rfl, rfl⟩
    · exact .inr ⟨hne, oldFile, hold⟩
  constructor
  · rw [hcategories]
    exact hinv.unique
  · rw [hcategories]
    exact fun c hc => (hinv.numbers c hc).trans hlast
  · intro q loaded edited row' hq
    rw [hcategories]
    rcases hcases hq with ⟨rfl, rfl, rfl⟩ | ⟨_, hold⟩
    · exact rowOf_update hrow
    · exact hinv.edited hold
  · intro q name slug description row' hq
    rw [hcategories]
    rcases hcases hq with ⟨rfl, rfl, rfl⟩ | ⟨_, hold⟩
    · cases hrow
      refine ⟨?_, ?_, rfl, rfl, rfl⟩
      · cases hget : s.categories.get? (s.lastId + 1) with
        | none => rfl
        | some c =>
          have hid : c.id = s.lastId + 1 := Table.key_of_get? hget
          exact absurd (hid ▸ hinv.numbers c (Table.mem_of_get? hget)) (Nat.not_succ_le_self _)
      · rw [hs']
        exact le_rfl
    · obtain ⟨hnone, hid, hrest⟩ := hinv.inserted hold
      exact ⟨hnone, hid.trans hlast, hrest⟩
  · intro q w' row' hq
    rw [hcategories]
    rcases hcases hq with ⟨rfl, rfl, rfl⟩ | ⟨_, hold⟩
    · exact hfree
    · exact hinv.free hold
  · intro q q' w₁ w₂ row₁ row₂ hq hq' hne
    rcases hcases hq with ⟨rfl, rfl, rfl⟩ | ⟨hq₁, hold⟩
    · rcases hcases hq' with ⟨rfl, _, _⟩ | ⟨hq₂, hold'⟩
      · exact absurd rfl hne
      · obtain ⟨hid, hcollides⟩ := waits_false hwaits hold' hq₂
        exact ⟨Ne.symm hid, by rw [collides_comm]; exact hcollides⟩
    · rcases hcases hq' with ⟨rfl, rfl, rfl⟩ | ⟨_, hold'⟩
      · exact waits_false hwaits hold hq₁
      · exact hinv.apart hold hold' hne

/-- The commit of a new row. -/
theorem CategoryInv.insert (hinv : CategoryInv s) {pid : Id} {name slug : String} {description : Option String}
    {row : Category} {categories : Table Category}
    (hproc : Holds s pid (.insert name slug description) row) (hrow : s.categories.insert? row = some categories)
    (hcategories : s'.categories = categories) (hlast : s'.lastId = s.lastId)
    (hholds : ∀ {q w row'}, Holds s' q w row' → q ≠ pid ∧ Holds s q w row') : CategoryInv s' := by
  obtain ⟨hnone, hnumber, _⟩ := hinv.inserted hproc
  have hne : ∀ c ∈ s.categories.rows, c.id ≠ row.id := fun c hc hid => by
    rw [← hid, show s.categories.get? c.id = some c from Table.get?_of_mem hc] at hnone
    cases hnone
  have hfree := fun c hc => hinv.free hproc c hc (hne c hc)
  constructor
  · rw [hcategories]
    refine Table.pairs_insert? (P := fun c c' : Category => c.collides c' = true) hrow hinv.unique fun c hc => ⟨?_, ?_⟩
    · rw [hfree c hc]
      exact Bool.false_ne_true
    · rw [collides_comm, hfree c hc]
      exact Bool.false_ne_true
  · intro c hc
    rw [hcategories] at hc
    rw [hlast]
    rcases (Table.mem_insert? hrow).mp hc with rfl | hold
    · exact hnumber
    · exact hinv.numbers c hold
  · intro q loaded edited row' hq
    obtain ⟨current, hcurrent, hrest⟩ := hinv.edited (hholds hq).2
    rw [hcategories]
    exact ⟨current, Table.get?_insert?_of_some hrow hcurrent, hrest⟩
  · intro q name' slug' description' row' hq
    obtain ⟨hq, hold⟩ := hholds hq
    obtain ⟨hnone', hnumber', hrest⟩ := hinv.inserted hold
    have hother : Keyed.key row ≠ row'.id := (hinv.apart hold hproc hq).1.symm
    rw [hcategories, hlast]
    refine ⟨?_, hnumber', hrest⟩
    rw [Table.get?_insert? hrow, if_neg hother]
    exact hnone'
  · intro q w row' hq c hc hid
    obtain ⟨hq, hold⟩ := hholds hq
    rw [hcategories] at hc
    rcases (Table.mem_insert? hrow).mp hc with rfl | hc
    · exact (hinv.apart hproc hold hq.symm).2
    · exact hinv.free hold c hc hid
  · exact fun hq hq' => hinv.apart (hholds hq).2 (hholds hq').2

/-- The commit of an edited row. -/
theorem CategoryInv.update (hinv : CategoryInv s) {pid : Id} {loaded edited row : Category}
    (hproc : Holds s pid (.update loaded edited) row) (hcategories : s'.categories = s.categories.replace row)
    (hlast : s'.lastId = s.lastId)
    (hholds : ∀ {q w row'}, Holds s' q w row' → q ≠ pid ∧ Holds s q w row') : CategoryInv s' := by
  obtain ⟨current, hcurrent, -⟩ := hinv.edited hproc
  have hcurrent : s.categories.get? (Keyed.key row) = some current := hcurrent
  have hkey : current.id = row.id := Table.key_of_get? hcurrent
  have hfree := hinv.free hproc
  constructor
  · rw [hcategories]
    refine Table.pairs_replace (P := fun c c' : Category => c.collides c' = true) hcurrent hinv.unique
      fun c hc hid => ⟨?_, ?_⟩
    · rw [hfree c hc hid]
      exact Bool.false_ne_true
    · rw [collides_comm, hfree c hc hid]
      exact Bool.false_ne_true
  · intro c hc
    rw [hcategories] at hc
    rw [hlast]
    rcases (Table.mem_replace hcurrent).mp hc with rfl | ⟨hold, _⟩
    · exact hkey ▸ hinv.numbers current (Table.mem_of_get? hcurrent)
    · exact hinv.numbers c hold
  · intro q loaded' edited' row' hq
    obtain ⟨hq, hold⟩ := hholds hq
    obtain ⟨current', hcurrent', hrest⟩ := hinv.edited hold
    refine ⟨current', ?_, hrest⟩
    rw [hcategories, Table.get?_replace_of_ne (hinv.apart hold hproc hq).1]
    exact hcurrent'
  · intro q name slug description row' hq
    obtain ⟨hnone, hnumber, hrest⟩ := hinv.inserted (hholds hq).2
    rw [hcategories, hlast]
    exact ⟨Table.get?_replace_eq_none.mpr hnone, hnumber, hrest⟩
  · intro q w row' hq c hc hid
    obtain ⟨hq, hold⟩ := hholds hq
    rw [hcategories] at hc
    rcases (Table.mem_replace hcurrent).mp hc with rfl | ⟨hc, _⟩
    · exact (hinv.apart hproc hold hq.symm).2
    · exact hinv.free hold c hc hid
  · exact fun hq hq' => hinv.apart (hholds hq).2 (hholds hq').2

/-- Whoever holds a row after a request ended held it before, and is another one. -/
theorem holds_end {pid q : Id} {w : CategoryWrite} {row : Category} (hprocs : s'.procs = (s.end_ pid).procs)
    (h : Holds s' q w row) : q ≠ pid ∧ Holds s q w row := by
  obtain ⟨oldFile, h⟩ := h
  rw [Catalogue.proc?_congr hprocs, Catalogue.proc?_end] at h
  split at h
  · cases h
  · rename_i hne
    exact ⟨hne, oldFile, h⟩

/-- A request that goes on to something else than a written row. -/
theorem holds_goOn {pid q : Id} {p : CategoryProc} {w : CategoryWrite} {row : Category}
    (hprocs : s'.procs = (s.goOn pid p).procs) (hp : ∀ w row oldFile, p = .written w row oldFile → Holds s pid w row)
    (h : Holds s' q w row) : Holds s q w row := by
  obtain ⟨oldFile, h⟩ := h
  rw [Catalogue.proc?_congr hprocs] at h
  rcases Catalogue.proc?_goOn h with ⟨rfl, heq⟩ | ⟨_, hold⟩
  · exact hp w row oldFile heq.symm
  · exact ⟨oldFile, hold⟩

theorem CategoryInv.step (hinv : CategoryInv s) {l : CatalogueLabel} (h : CatalogueMove env s s' l) :
    CategoryInv s' := by
  cases h with
  | begun hp hprocs hs' =>
    subst hs'
    refine hinv.calm rfl le_rfl fun hq => ?_
    obtain ⟨oldFile, hq⟩ := hq
    rcases proc?_begun hprocs hq with ⟨rfl, rfl⟩ | hold
    · exact absurd hp (prepare_unwritten _)
    · exact ⟨oldFile, hold⟩
  | refused hs' =>
    subst hs'
    exact hinv
  | looked _ hs' =>
    subst hs'
    exact hinv.calm rfl le_rfl (holds_goOn rfl (by simp))
  | found _ _ hs' =>
    subst hs'
    exact hinv.calm rfl le_rfl (holds_goOn rfl (by simp))
  | uploaded _ _ _ hs' =>
    subst hs'
    exact hinv.calm rfl le_rfl (holds_goOn rfl (by simp))
  | wrote hproc hrow hwaits hfree hs' => exact hinv.wrote hproc hrow hwaits hfree hs'
  | dropped hproc hs' =>
    subst hs'
    refine hinv.calm rfl le_rfl (holds_goOn rfl fun w row oldFile heq => ?_)
    cases heq
    exact ⟨_, hproc⟩
  | inserted hproc hrow hs' =>
    subst hs'
    exact hinv.insert ⟨_, hproc⟩ hrow rfl rfl (holds_end rfl)
  | updated hproc hs' =>
    subst hs'
    exact hinv.update ⟨_, hproc⟩ rfl rfl (holds_end rfl)
  | failed _ hs' =>
    subst hs'
    refine hinv.calm fail_eq.1 ?_ fun hq => (holds_end fail_eq.2.1 hq).2
    rw [fail_eq.2.2.1]
    exact Nat.le_add_right _ _
  | ended _ hs' =>
    subst hs'
    exact hinv.calm rfl le_rfl fun hq => (holds_end rfl hq).2

/-- A shop before its first category. -/
structure Uncategorised (s : Catalogue) : Prop where
  categories : s.categories = .empty
  files : s.files = .empty
  procs : s.procs = .empty

theorem Uncategorised.proc? (h₀ : Uncategorised s) (pid : Id) : s.proc? pid = none := by
  unfold Catalogue.proc?
  rw [h₀.procs]
  rfl

theorem Uncategorised.inv (h₀ : Uncategorised s) : CategoryInv s := by
  have hnobody : ∀ {pid w row}, ¬Holds s pid w row := by
    rintro pid w row ⟨oldFile, h⟩
    rw [h₀.proc?] at h
    cases h
  have hnone : ∀ c, c ∉ s.categories.rows := by
    intro c hc
    rw [h₀.categories] at hc
    cases hc
  exact ⟨fun c hc => absurd hc (hnone c), fun c hc => absurd hc (hnone c), fun h => absurd h hnobody,
    fun h => absurd h hnobody, fun h => absurd h hnobody, fun h => absurd h hnobody⟩

theorem categoryInv_of_run (h₀ : Uncategorised s₀) (h : CatalogueRun env s₀ tr s) : CategoryInv s :=
  h.invariant h₀.inv fun hs hinv => hinv.step (catalogueStep_move hs)

end NovaCart
