import NovaCart.ProductReviews

/-! Reviews over whole runs: each one is a customer's own, of a product they paid for.

    What a request is about to write was checked when it began; the store only moves on from there, so the check still
    stands when the request commits. -/

namespace NovaCart

open Schemes

variable {cfg : Settings} {s s' s₀ : RatedShop} {tr : List (Taken RatedShop RatedLabel)}
variable {db db' : Db} {userId productId : Id}

/-! ### Purchases -/

/-- An order of the customer that was paid, whatever became of it, with a line of the product. -/
structure Purchase (db : Db) (userId productId : Id) (o : Order) : Prop where
  order : o ∈ db.orders.rows
  customer : o.userId = some userId
  settled : o.status.settled = true
  line : ∃ i ∈ db.stock.items.rows, i.orderId = o.id ∧ i.productId = productId

theorem bought_purchase (h : db.bought userId productId = true) : ∃ o, Purchase db userId productId o := by
  obtain ⟨i, hi, hboth⟩ := List.any_eq_true.mp h
  obtain ⟨hproduct, horder⟩ := of_decide_eq_true hboth
  obtain ⟨o, ho, hrest⟩ := (Option.any_eq_true _ _).mp horder
  obtain ⟨hcustomer, hstatus⟩ := of_decide_eq_true hrest
  refine ⟨o, Table.mem_of_get? ho, hcustomer, ?_, i, hi, (Table.key_of_get? ho).symm, hproduct⟩
  rcases List.mem_cons.mp hstatus with heq | hstatus
  · rw [heq]
    rfl
  · rw [List.mem_singleton.mp hstatus]
    rfl

/-- No statement gives an order to another customer. -/
theorem Within.customers {K : List WriteKind} (h : Within K db db') :
    Table.Kept (fun o o' : Order => o'.userId = o.userId) db.orders db'.orders := by
  have hrefl : ∀ o : Order, o.userId = o.userId := fun _ => rfl
  refine Writes.relates (R := fun a b : Db =>
      Table.Kept (fun o o' : Order => o'.userId = o.userId) a.orders b.orders)
    (fun a => .refl hrefl a.orders) (fun h₁ h₂ => .trans (fun h h' => h'.trans h) h₁ h₂) (fun _ hw => ?_) h
  rcases write_orders hw with heq | ⟨row, _, ht⟩ | ⟨id, c, old, _, hold, _, heq⟩
  · rw [heq]
    exact .refl hrefl _
  · exact Table.kept_insert? hrefl ht
  · rw [heq]
    exact Table.kept_replace hrefl (r := old) (Table.get?_of_mem (Table.mem_of_get? hold)) rfl

/-- Once bought, a product stays bought. -/
theorem Purchase.step {sys sys' : Sys} {l : Label} {o : Order} (h : Purchase sys.db userId productId o)
    (hs : NovaCart.step cfg sys l = some sys') : ∃ o', Purchase sys'.db userId productId o' := by
  obtain ⟨K, hK⟩ := (step_change hs).within
  have hget : sys.db.orders.get? o.id = some o := Table.get?_of_mem h.order
  obtain ⟨o', ho', hcustomer⟩ := hK.customers _ o hget
  obtain ⟨o'', ho'', hleads⟩ := hK.leads _ o hget
  rw [ho'] at ho''
  cases ho''
  obtain ⟨i, hi, horder, hproduct⟩ := h.line
  obtain ⟨i', hi', hsame, _⟩ := (step_evolves hs).stock.items i.id i (Table.get?_of_mem hi)
  refine ⟨o', Table.mem_of_get? ho', hcustomer.trans h.customer, hleads.settled h.settled, i', Table.mem_of_get? hi',
    ?_, hsame.productId.trans hproduct⟩
  rw [hsame.orderId, horder]
  exact (Table.key_of_get? ho').symm

/-! ### What a request does -/

/-- A reason as `moderate` stores it. -/
structure Reason (v : String) : Prop where
  long : 3 ≤ v.toList.length
  trimmed : Trimmed isSpace v.toList

/-- The text columns of a review. -/
def ProductReview.text (r : ProductReview) : Rating × Option ReviewTitle × Option ReviewBody :=
  (r.rating, r.title, r.body)

/-- The columns of a moderation. -/
def ProductReview.moderation (r : ProductReview) : ReviewStatus × Option String × Option Id :=
  (r.status, r.hiddenReason, r.hiddenByUserId)

/-- What a request is about to write, and what it found. -/
inductive Prepared (s : RatedShop) : ReviewRequest → ReviewProc → Prop
  | insert {userId productId : Id} {payload : ReviewCreate} (hbought : s.sys.db.bought userId productId = true) :
    Prepared s (.create userId productId payload) (.insert userId productId payload)
  | edit {userId productId : Id} {payload : ReviewUpdate} {loaded edited : ProductReview}
    (hmine : s.mine userId productId = .ok loaded) (hpublished : loaded.status = .published)
    (hkept : edited.moderation = loaded.moderation) :
    Prepared s (.updateMine userId productId payload) (.edit loaded edited)
  | moderate {reviewId admin : Id} {status : ReviewStatus} {reason : Option String} {loaded edited : ProductReview}
    (hloaded : s.reviews.get? reviewId = some loaded) (hkept : edited.text = loaded.text)
    (hreason : ∀ v, edited.hiddenReason = some v → Reason v) :
    Prepared s (.moderate reviewId status reason admin) (.moderate loaded edited)
  | deleteMine {userId productId : Id} {r : ProductReview} (hmine : s.mine userId productId = .ok r) :
    Prepared s (.deleteMine userId productId) (.delete r.id)
  | adminDelete {reviewId : Id} {r : ProductReview} (hr : s.reviews.get? reviewId = some r) :
    Prepared s (.adminDelete reviewId) (.delete r.id)

theorem prepare_ok {r : ReviewRequest} {p : ReviewProc} (h : s.prepare r = .ok p) : Prepared s r p := by
  cases r with
  | create userId productId payload =>
    simp only [RatedShop.prepare] at h
    split at h
    · cases h
    split at h
    · cases h
    rename_i hbought
    cases h
    exact .insert (by simpa using hbought)
  | updateMine userId productId payload =>
    simp only [RatedShop.prepare] at h
    cases hmine : s.mine userId productId with
    | error e =>
      rw [hmine] at h
      cases h
    | ok review =>
      rw [hmine] at h
      dsimp only [Except.bind] at h
      split at h
      · cases h
      rename_i hstatus
      split at h
      · cases h
      cases h
      refine .edit hmine ?_ rfl
      cases hcase : review.status with
      | published => rfl
      | hidden => exact absurd hcase hstatus
  | deleteMine userId productId =>
    simp only [RatedShop.prepare] at h
    cases hmine : s.mine userId productId with
    | error e =>
      rw [hmine] at h
      cases h
    | ok review =>
      rw [hmine] at h
      cases h
      exact .deleteMine hmine
  | moderate reviewId status reason admin =>
    simp only [RatedShop.prepare] at h
    split at h
    · cases h
    rename_i review hloaded
    cases status with
    | published =>
      cases h
      exact .moderate hloaded rfl (fun v hv => by cases hv)
    | hidden =>
      dsimp only at h
      split at h
      · cases h
      rename_i hlong
      cases h
      refine .moderate hloaded rfl fun v hv => ?_
      cases hv
      constructor
      · simpa using hlong
      · simpa using trim_trimmed
  | adminDelete reviewId =>
    simp only [RatedShop.prepare] at h
    split at h
    · cases h
    rename_i review hr
    cases h
    exact .adminDelete hr

/-- What a commit does to the reviews. -/
inductive Written (s : RatedShop) : ReviewProc → Table ProductReview → Prop
  | insert {userId productId : Id} {payload : ReviewCreate} {row : ProductReview} {reviews : Table ProductReview}
    (hid : row.id = s.lastId + 1) (hproduct : row.productId = productId) (hcustomer : row.userId = userId)
    (hreason : row.hiddenReason = none)
    (hfree : ∀ r ∈ s.reviews.rows, ¬(r.productId = productId ∧ r.userId = userId))
    (h : s.reviews.insert? row = some reviews) : Written s (.insert userId productId payload) reviews
  | edit {loaded edited current : ProductReview} (hcurrent : s.reviews.get? loaded.id = some current) :
    Written s (.edit loaded edited) (s.reviews.replace (loaded.updated edited current))
  | moderate {loaded edited current : ProductReview} (hcurrent : s.reviews.get? loaded.id = some current) :
    Written s (.moderate loaded edited) (s.reviews.replace (loaded.updated edited current))
  | delete {id : Id} : Written s (.delete id) (s.reviews.erase id)

theorem update_ok {loaded edited : ProductReview} {reviews : Table ProductReview}
    (h : s.update loaded edited = .ok reviews) : ∃ current, s.reviews.get? loaded.id = some current ∧
      reviews = s.reviews.replace (loaded.updated edited current) := by
  unfold RatedShop.update at h
  split at h
  · cases h
  rename_i current hcurrent
  split at h
  · cases h
    exact ⟨current, hcurrent, rfl⟩
  · cases h

theorem write_ok {p : ReviewProc} {reviews : Table ProductReview} (h : s.write p = .ok reviews) :
    Written s p reviews := by
  cases p with
  | insert userId productId payload =>
    simp only [RatedShop.write] at h
    split at h
    · cases h
    rename_i hfree
    split at h
    · rename_i reviews' hinsert
      cases h
      exact .insert rfl rfl rfl rfl (fun r hr hboth => hfree (.inr ⟨r, hr, hboth⟩)) hinsert
    · cases h
  | edit loaded edited =>
    obtain ⟨current, hcurrent, rfl⟩ := update_ok h
    exact .edit hcurrent
  | moderate loaded edited =>
    obtain ⟨current, hcurrent, rfl⟩ := update_ok h
    exact .moderate hcurrent
  | delete id =>
    cases h
    exact .delete

/-- What a step does: the store moves, a request begins, one writes, or one goes. -/
inductive RatedMove (cfg : Settings) (s s' : RatedShop) : RatedLabel → Prop
  | store {l : Label} {sys : Sys} (h : step cfg s.sys l = some sys) (hs' : s' = { s with sys := sys }) :
    RatedMove cfg s s' (.store l)
  | begun {pid : Id} {r : ReviewRequest} {p : ReviewProc} {procs : Table ReviewEntry} (hp : s.prepare r = .ok p)
    (hprocs : s.procs.insert? ⟨pid, p⟩ = some procs) (hs' : s' = { s with procs := procs }) :
    RatedMove cfg s s' (.begin_ pid r)
  | refused {pid : Id} {r : ReviewRequest} (hs' : s' = s) : RatedMove cfg s s' (.begin_ pid r)
  | written {pid : Id} {p : ReviewProc} {reviews : Table ProductReview} (hproc : s.proc? pid = some p)
    (hw : Written s p reviews)
    (hs' : s' = { s with reviews := reviews, lastId := s.lastId + p.draws, procs := s.procs.erase pid }) :
    RatedMove cfg s s' (.commit pid)
  | gone {pid : Id} {n : Nat} {l : RatedLabel} (hl : l.store? = none)
    (hs' : s' = { s with lastId := s.lastId + n, procs := s.procs.erase pid }) : RatedMove cfg s s' l

theorem ratedStep_move {l : RatedLabel} (h : ratedStep cfg s l = some s') : RatedMove cfg s s' l := by
  cases l with
  | store l =>
    obtain ⟨sys, hs, rfl⟩ := Option.map_eq_some_iff.mp h
    exact .store hs rfl
  | begin_ pid r =>
    simp only [ratedStep] at h
    split at h
    · rename_i p hp
      obtain ⟨procs, hprocs, rfl⟩ := Option.map_eq_some_iff.mp h
      exact .begun hp hprocs rfl
    · cases h
      exact .refused rfl
  | commit pid =>
    obtain ⟨p, hproc, hs'⟩ := Option.map_eq_some_iff.mp h
    split at hs'
    · rename_i reviews hw
      exact .written hproc (write_ok hw) hs'.symm
    · exact .gone rfl hs'.symm
  | abort pid =>
    cases h
    exact .gone (n := 0) rfl rfl

theorem mine_some {r : ProductReview} (h : s.mine userId productId = .ok r) :
    r ∈ s.reviews.rows ∧ r.productId = productId ∧ r.userId = userId := by
  unfold RatedShop.mine at h
  split at h
  · rename_i found hfound
    cases h
    exact ⟨List.mem_of_find?_eq_some hfound, by simpa using List.find?_some hfound⟩
  · cases h

/-- A row after a commit is as it was, or the commit updated it. -/
theorem Written.row {p : ReviewProc} {reviews : Table ProductReview} (h : Written s p reviews) {r r' : ProductReview}
    (hr : r ∈ s.reviews.rows) (hr' : reviews.get? r.id = some r') : r' = r ∨ ∃ loaded edited,
      (p = .edit loaded edited ∨ p = .moderate loaded edited) ∧ loaded.id = r.id ∧ r' = loaded.updated edited r := by
  have hget : s.reviews.get? r.id = some r := Table.get?_of_mem hr
  have hupdated : ∀ {loaded edited current : ProductReview}, s.reviews.get? loaded.id = some current →
      (s.reviews.replace (loaded.updated edited current)).get? r.id = some r' →
        r' = r ∨ loaded.id = r.id ∧ r' = loaded.updated edited r := by
    intro loaded edited current hcurrent hafter
    have hid : current.id = loaded.id := Table.key_of_get? hcurrent
    rw [Table.get?_replace] at hafter
    split at hafter
    · rename_i hkey
      have hsame : loaded.id = r.id := hid.symm.trans hkey.symm
      rw [hsame, hget] at hcurrent
      cases hcurrent
      rw [hget] at hafter
      cases hafter
      exact .inr ⟨hsame, rfl⟩
    · rw [hget] at hafter
      cases hafter
      exact .inl rfl
  cases h with
  | insert _ _ _ _ _ hinsert =>
    rw [Table.get?_insert?_of_some hinsert hget] at hr'
    cases hr'
    exact .inl rfl
  | edit hcurrent => exact (hupdated hcurrent hr').imp_right fun h => ⟨_, _, .inl rfl, h⟩
  | moderate hcurrent => exact (hupdated hcurrent hr').imp_right fun h => ⟨_, _, .inr rfl, h⟩
  | delete =>
    rw [Table.get?_erase] at hr'
    split at hr'
    · cases hr'
    · rw [hget] at hr'
      cases hr'
      exact .inl rfl

/-! ### Requests and rows over a run -/

/-- Every open request was prepared in an earlier state. -/
def Begun (tr : List (Taken RatedShop RatedLabel)) (s : RatedShop) : Prop :=
  ∀ pid p, s.proc? pid = some p → ∃ x ∈ tr, ∃ r, x.label = .begin_ pid r ∧ Prepared x.pre r p

theorem proc?_erased {s' : RatedShop} {pid q : Id} {p : ReviewProc} (hs' : s'.procs = s.procs.erase pid)
    (h : s'.proc? q = some p) : s.proc? q = some p := by
  unfold RatedShop.proc? at h ⊢
  rw [hs', Table.get?_erase] at h
  split at h
  · cases h
  · exact h

theorem proc?_inserted {s' : RatedShop} {pid q : Id} {p p' : ReviewProc}
    (hs' : s.procs.insert? ⟨pid, p⟩ = some s'.procs) (h : s'.proc? q = some p') : q = pid ∧ p' = p ∨ s.proc? q = some p' := by
  unfold RatedShop.proc? at h ⊢
  rw [Table.get?_insert? hs'] at h
  split at h
  · rename_i hkey
    cases h
    exact .inl ⟨hkey.symm, rfl⟩
  · exact .inr h

/-- An open request of the new state is one of the old state, or the step prepared it. -/
theorem RatedMove.proc {l : RatedLabel} (h : RatedMove cfg s s' l) {q : Id} {p : ReviewProc}
    (hproc : s'.proc? q = some p) : s.proc? q = some p ∨ ∃ r, l = .begin_ q r ∧ Prepared s r p := by
  cases h with
  | store _ hs' =>
    subst hs'
    exact .inl hproc
  | begun hp hprocs hs' =>
    subst hs'
    rcases proc?_inserted hprocs hproc with ⟨rfl, rfl⟩ | hold
    · exact .inr ⟨_, rfl, prepare_ok hp⟩
    · exact .inl hold
  | refused hs' =>
    subst hs'
    exact .inl hproc
  | written _ _ hs' =>
    subst hs'
    exact .inl (proc?_erased rfl hproc)
  | gone _ hs' =>
    subst hs'
    exact .inl (proc?_erased rfl hproc)

theorem begun_of_run (h₀ : s₀.procs = .empty) (h : RatedRun cfg s₀ tr s) : Begun tr s := by
  induction h with
  | nil =>
    intro pid p hproc
    unfold RatedShop.proc? at hproc
    rw [h₀] at hproc
    cases hproc
  | cons run hs ih =>
    intro pid p hproc
    rcases (ratedStep_move hs).proc hproc with hold | ⟨r, rfl, hp⟩
    · obtain ⟨x, hx, r, hlabel, hp⟩ := ih pid p hold
      exact ⟨x, List.mem_cons_of_mem _ hx, r, hlabel, hp⟩
    · exact ⟨_, List.mem_cons_self, r, rfl, hp⟩

/-- No commit moves a review to another product or customer, and its number is one that was drawn. -/
structure Drawn (s s' : RatedShop) : Prop where
  drawn : s.lastId ≤ s'.lastId
  rows : ∀ r' ∈ s'.reviews.rows, s.lastId < r'.id ∧ r'.id ≤ s'.lastId ∨
    ∃ r ∈ s.reviews.rows, r.id = r'.id ∧ r.productId = r'.productId ∧ r.userId = r'.userId

theorem Drawn.refl {s' : RatedShop} (hreviews : s'.reviews = s.reviews) (hdrawn : s.lastId ≤ s'.lastId) :
    Drawn s s' where
  drawn := hdrawn
  rows r hr := .inr ⟨r, hreviews ▸ hr, rfl, rfl, rfl⟩

theorem Drawn.trans {s₁ s₂ s₃ : RatedShop} (h₁ : Drawn s₁ s₂) (h₂ : Drawn s₂ s₃) : Drawn s₁ s₃ where
  drawn := h₁.drawn.trans h₂.drawn
  rows r₃ hr₃ := by
    rcases h₂.rows r₃ hr₃ with ⟨hlow, hhigh⟩ | ⟨r₂, hr₂, hid, hproduct, hcustomer⟩
    · exact .inl ⟨h₁.drawn.trans_lt hlow, hhigh⟩
    rcases h₁.rows r₂ hr₂ with ⟨hlow, hhigh⟩ | ⟨r₁, hr₁, hid', hproduct', hcustomer'⟩
    · exact .inl ⟨hid ▸ hlow, hid ▸ hhigh.trans h₂.drawn⟩
    · exact .inr ⟨r₁, hr₁, hid'.trans hid, hproduct'.trans hproduct, hcustomer'.trans hcustomer⟩

theorem Written.numbered {p : ReviewProc} {reviews : Table ProductReview} (h : Written s p reviews) :
    Drawn s { s with reviews := reviews, lastId := s.lastId + p.draws, procs := s.procs.erase pid } where
  drawn := Nat.le_add_right _ _
  rows r' hr' := by
    have hrow : ∀ r ∈ s.reviews.rows, r.id = r'.id → r.productId = r'.productId ∧ r.userId = r'.userId := by
      intro r hr hid
      have hget : reviews.get? r.id = some r' := by
        rw [hid]
        exact Table.get?_of_mem hr'
      rcases h.row hr hget with rfl | ⟨_, _, _, _, rfl⟩
      · exact ⟨rfl, rfl⟩
      · exact ⟨rfl, rfl⟩
    by_cases hold : ∃ r ∈ s.reviews.rows, r.id = r'.id
    · obtain ⟨r, hr, hid⟩ := hold
      exact .inr ⟨r, hr, hid, hrow r hr hid⟩
    have hupdated : ∀ {loaded edited current : ProductReview}, s.reviews.get? loaded.id = some current →
        r' ∉ (s.reviews.replace (loaded.updated edited current)).rows := by
      intro loaded edited current hcurrent hmem
      have hkey : s.reviews.get? (Keyed.key (loaded.updated edited current)) = some current := by
        rw [← Table.key_of_get? hcurrent] at hcurrent
        exact hcurrent
      rcases (Table.mem_replace hkey).mp hmem with rfl | ⟨hmem, _⟩
      · exact hold ⟨current, Table.mem_of_get? hcurrent, rfl⟩
      · exact hold ⟨r', hmem, rfl⟩
    cases h with
    | insert hid _ _ _ _ hinsert =>
      rcases (Table.mem_insert? hinsert).mp hr' with rfl | hmem
      · refine .inl ⟨?_, ?_⟩
        · rw [hid]
          exact Nat.lt_succ_self _
        · rw [hid]
          exact le_rfl
      · exact absurd ⟨r', hmem, rfl⟩ hold
    | edit hcurrent => exact absurd hr' (hupdated hcurrent)
    | moderate hcurrent => exact absurd hr' (hupdated hcurrent)
    | delete => exact absurd ⟨r', (Table.mem_erase.mp hr').1, rfl⟩ hold

theorem RatedMove.numbered {l : RatedLabel} (h : RatedMove cfg s s' l) : Drawn s s' := by
  cases h with
  | store _ hs' =>
    subst hs'
    exact .refl rfl le_rfl
  | begun _ _ hs' =>
    subst hs'
    exact .refl rfl le_rfl
  | refused hs' =>
    subst hs'
    exact .refl rfl le_rfl
  | written _ hw hs' =>
    subst hs'
    exact hw.numbered
  | gone _ hs' =>
    subst hs'
    exact .refl rfl (Nat.le_add_right _ _)

/-- Numbers are drawn once, so a row with a number that was there before is the same customer's review of the same
    product. -/
theorem numbered_of_run (h₀ : s₀.reviews = .empty) (h : RatedRun cfg s₀ tr s) :
    (∀ r ∈ s.reviews.rows, r.id ≤ s.lastId) ∧ ∀ x ∈ tr, Drawn x.pre s := by
  induction h with
  | nil =>
    refine ⟨fun r hr => ?_, fun x hx => by cases hx⟩
    rw [h₀] at hr
    cases hr
  | cons run hs ih =>
    have hnow := (ratedStep_move hs).numbered
    refine ⟨fun r hr => ?_, fun x hx => ?_⟩
    · rcases hnow.rows r hr with ⟨_, hhigh⟩ | ⟨r₀, hr₀, hid, _⟩
      · exact hhigh
      · exact hid ▸ (ih.1 r₀ hr₀).trans hnow.drawn
    · rcases List.mem_cons.mp hx with rfl | hold
      · exact hnow
      · exact (ih.2 x hold).trans hnow

/-- The same review, seen earlier and now. -/
theorem same_review (h₀ : s₀.reviews = .empty) (h : RatedRun cfg s₀ tr s) {x : Taken RatedShop RatedLabel} (hx : x ∈ tr)
    {r r' : ProductReview} (hr : r ∈ x.pre.reviews.rows) (hr' : r' ∈ s.reviews.rows) (hid : r.id = r'.id) :
    r.productId = r'.productId ∧ r.userId = r'.userId := by
  obtain ⟨before, hbefore, _⟩ := h.before hx
  have hdrawn := (numbered_of_run h₀ hbefore).1 r hr
  rcases ((numbered_of_run h₀ h).2 x hx).rows r' hr' with ⟨hlow, _⟩ | ⟨r₁, hr₁, hid₁, hsame⟩
  · exact absurd (hid ▸ hdrawn) (Nat.not_le.mpr hlow)
  · rw [x.pre.reviews.eq_of_key_eq hr hr₁ (hid.trans hid₁.symm)]
    exact hsame

/-! ### What every step keeps -/

/-- The reviews of the table, each by a customer with a purchase, one a customer and product. -/
structure Owned (db : Db) (reviews : Table ProductReview) : Prop where
  single : ∀ r ∈ reviews.rows, ∀ r' ∈ reviews.rows, r.productId = r'.productId ∧ r.userId = r'.userId → r.id = r'.id
  bought : ∀ r ∈ reviews.rows, ∃ o, Purchase db r.userId r.productId o
  reasons : ∀ r ∈ reviews.rows, ∀ v, r.hiddenReason = some v → Reason v

structure RatedInv (s : RatedShop) : Prop where
  owned : Owned s.sys.db s.reviews
  inserting : ∀ {pid userId productId payload}, s.proc? pid = some (.insert userId productId payload) →
    ∃ o, Purchase s.sys.db userId productId o

/-- An update keeps product and customer; the reason it leaves must be one. -/
theorem Owned.updated (h : Owned db s.reviews) {loaded edited current : ProductReview}
    (hcurrent : s.reviews.get? loaded.id = some current)
    (hreason : ∀ v, (loaded.updated edited current).hiddenReason = some v → Reason v) :
    Owned db (s.reviews.replace (loaded.updated edited current)) := by
  have hmem : current ∈ s.reviews.rows := Table.mem_of_get? hcurrent
  have hkey : s.reviews.get? (Keyed.key (loaded.updated edited current)) = some current := Table.get?_of_mem hmem
  constructor
  · refine Table.pairs_replace hkey h.single fun x hx hne => ⟨fun hsame => hne ?_, fun hsame => hne ?_⟩
    · exact h.single x hx current hmem hsame
    · exact (h.single current hmem x hx hsame).symm
  · intro r hr
    rcases (Table.mem_replace hkey).mp hr with rfl | ⟨hold, _⟩
    · exact h.bought current hmem
    · exact h.bought r hold
  · intro r hr
    rcases (Table.mem_replace hkey).mp hr with rfl | ⟨hold, _⟩
    · exact hreason
    · exact h.reasons r hold

/-- What an update leaves as the reason is one. -/
theorem RatedInv.reason (hinv : RatedInv s) (hbegun : Begun tr s) {pid : Id} {loaded edited current : ProductReview}
    (hproc : s.proc? pid = some (.edit loaded edited) ∨ s.proc? pid = some (.moderate loaded edited))
    (hcurrent : s.reviews.get? loaded.id = some current) :
    ∀ v, (loaded.updated edited current).hiddenReason = some v → Reason v := by
  have hold := hinv.owned.reasons current (Table.mem_of_get? hcurrent)
  rcases hproc with hproc | hproc
  · obtain ⟨x, _, req, _, hprepared⟩ := hbegun pid _ hproc
    cases hprepared with
    | edit _ _ hkept =>
      intro v hv
      refine hold v ?_
      rw [← hv]
      exact (column_self (congrArg (·.2.1) hkept) _).symm
  · obtain ⟨x, _, req, _, hprepared⟩ := hbegun pid _ hproc
    cases hprepared with
    | moderate _ _ hreason =>
      intro v hv
      rcases column_cases loaded.hiddenReason edited.hiddenReason current.hiddenReason with heq | heq
      · exact hold v (heq ▸ hv)
      · exact hreason v (heq ▸ hv)

theorem RatedInv.written (hinv : RatedInv s) (hbegun : Begun tr s) {pid : Id} {p : ReviewProc}
    {reviews : Table ProductReview} (hproc : s.proc? pid = some p) (hw : Written s p reviews) :
    Owned s.sys.db reviews := by
  cases hw with
  | insert _ hproduct hcustomer hreason hfree hinsert =>
    constructor
    · refine Table.pairs_insert? hinsert hinv.owned.single fun r hr =>
        ⟨fun hsame => hfree r hr ?_, fun hsame => hfree r hr ?_⟩
      · exact ⟨hsame.1.trans hproduct, hsame.2.trans hcustomer⟩
      · exact ⟨hsame.1.symm.trans hproduct, hsame.2.symm.trans hcustomer⟩
    · intro r hr
      rcases (Table.mem_insert? hinsert).mp hr with rfl | hold
      · rw [hproduct, hcustomer]
        exact hinv.inserting hproc
      · exact hinv.owned.bought r hold
    · intro r hr
      rcases (Table.mem_insert? hinsert).mp hr with rfl | hold
      · intro v hv
        rw [hreason] at hv
        cases hv
      · exact hinv.owned.reasons r hold
  | edit hcurrent => exact hinv.owned.updated hcurrent (hinv.reason hbegun (.inl hproc) hcurrent)
  | moderate hcurrent => exact hinv.owned.updated hcurrent (hinv.reason hbegun (.inr hproc) hcurrent)
  | delete =>
    rename_i id
    have hsub : ∀ r ∈ (s.reviews.erase id).rows, r ∈ s.reviews.rows := fun r hr => (Table.mem_erase.mp hr).1
    exact ⟨fun r hr r' hr' => hinv.owned.single r (hsub r hr) r' (hsub r' hr'),
      fun r hr => hinv.owned.bought r (hsub r hr), fun r hr => hinv.owned.reasons r (hsub r hr)⟩

theorem RatedInv.step (hinv : RatedInv s) (hbegun : Begun tr s) {l : RatedLabel} (h : RatedMove cfg s s' l) :
    RatedInv s' := by
  have hinserting : ∀ {pid userId productId payload}, s'.sys = s.sys →
      s'.proc? pid = some (.insert userId productId payload) → ∃ o, Purchase s'.sys.db userId productId o := by
    intro pid userId productId payload hsys hproc
    rw [hsys]
    rcases h.proc hproc with hold | ⟨r, _, hp⟩
    · exact hinv.inserting hold
    · cases hp with
      | insert hbought => exact bought_purchase hbought
  cases h with
  | store hs hs' =>
    rename_i sys
    subst hs'
    have hstep : ∀ {userId productId}, (∃ o, Purchase s.sys.db userId productId o) →
        ∃ o, Purchase sys.db userId productId o := by
      rintro userId productId ⟨o, ho⟩
      exact ho.step hs
    exact ⟨⟨hinv.owned.single, fun r hr => hstep (hinv.owned.bought r hr), hinv.owned.reasons⟩,
      fun hproc => hstep (hinv.inserting hproc)⟩
  | begun _ _ hs' =>
    subst hs'
    exact ⟨hinv.owned, hinserting rfl⟩
  | refused hs' =>
    subst hs'
    exact hinv
  | written hproc hw hs' =>
    subst hs'
    exact ⟨hinv.written hbegun hproc hw, hinserting rfl⟩
  | gone _ hs' =>
    subst hs'
    exact ⟨hinv.owned, hinserting rfl⟩

/-! ### Runs -/

/-- A new store, and nothing said about it yet. -/
structure Unrated (s : RatedShop) : Prop where
  initial : Initial s.sys
  reviews : s.reviews = .empty
  procs : s.procs = .empty

theorem ratedInv_of_run (h₀ : Unrated s₀) (h : RatedRun cfg s₀ tr s) : RatedInv s := by
  induction h with
  | nil =>
    refine ⟨⟨fun r hr => ?_, fun r hr => ?_, fun r hr => ?_⟩, fun hproc => ?_⟩
    · rw [h₀.reviews] at hr
      cases hr
    · rw [h₀.reviews] at hr
      cases hr
    · rw [h₀.reviews] at hr
      cases hr
    · unfold RatedShop.proc? at hproc
      rw [h₀.procs] at hproc
      cases hproc
  | cons run hs ih => exact ih.step (begun_of_run h₀.procs run) (ratedStep_move hs)

theorem rated_component : Component (step cfg) (ratedStep cfg) RatedShop.sys RatedLabel.store? where
  moved h hown := by
    cases ratedStep_move h with
    | store hs hs' =>
      cases hown
      rw [hs']
      exact hs
    | begun => cases hown
    | refused => cases hown
    | written => cases hown
    | gone hl =>
      rw [hl] at hown
      cases hown
  kept h hown := by
    cases ratedStep_move h with
    | store => cases hown
    | begun _ _ hs' => rw [hs']
    | refused hs' => rw [hs']
    | written _ _ hs' => rw [hs']
    | gone _ hs' => rw [hs']

/-! ### The checks of the table -/

theorem btrimmed_of_trimmed {n : Nat} {v : String} (h : Trimmed isSpace v.toList) (hn : n ≤ v.toList.length) :
    btrimmed n (some v) = true := by
  have hblank : Trimmed (· = ' ') v.toList := by
    constructor
    · intro c hc
      have := h.head c hc
      by_contra hne
      simp only [Bool.not_eq_false, decide_eq_true_eq] at hne
      rw [hne] at this
      exact absurd this (by decide)
    · intro c hc
      have := h.last c hc
      by_contra hne
      simp only [Bool.not_eq_false, decide_eq_true_eq] at hne
      rw [hne] at this
      exact absurd this (by decide)
  simp only [btrimmed, Option.all_some, trim_eq_self hblank, hn, decide_true]

theorem checks_of_reason {r : ProductReview} (h : ∀ v, r.hiddenReason = some v → Reason v) : r.checks = true := by
  have htitle : btrimmed 1 (r.title.map (·.val)) = true ∧ r.title.all (fun t => t.val.toList.length ≤ 100) = true := by
    cases r.title with
    | none => exact ⟨rfl, rfl⟩
    | some t =>
      exact ⟨btrimmed_of_trimmed t.2.trimmed (List.length_pos_of_ne_nil t.2.nonempty), by simpa using t.2.length⟩
  have hbody : btrimmed 1 (r.body.map (·.val)) = true ∧ r.body.all (fun b => b.val.toList.length ≤ 2000) = true := by
    cases r.body with
    | none => exact ⟨rfl, rfl⟩
    | some b =>
      exact ⟨btrimmed_of_trimmed b.2.trimmed (List.length_pos_of_ne_nil b.2.nonempty), by simpa using b.2.length⟩
  have hreason : btrimmed 3 r.hiddenReason = true := by
    cases hr : r.hiddenReason with
    | none => rfl
    | some v => exact btrimmed_of_trimmed (h v hr).trimmed (h v hr).long
  simp only [ProductReview.checks, htitle, hbody, hreason, implies_true, and_self, decide_true]

/-- No check of the table refuses what a request is about to write. -/
theorem RatedInv.unrefused (hinv : RatedInv s) (hbegun : Begun tr s) {pid : Id} {p : ReviewProc}
    (hproc : s.proc? pid = some p) : s.write p ≠ .error .integrity := by
  have hupdate : ∀ {loaded edited : ProductReview}, (p = .edit loaded edited ∨ p = .moderate loaded edited) →
      s.update loaded edited ≠ .error .integrity := by
    intro loaded edited hp hfail
    unfold RatedShop.update at hfail
    split at hfail
    · cases hfail
    rename_i current hcurrent
    have hopen : s.proc? pid = some (.edit loaded edited) ∨ s.proc? pid = some (.moderate loaded edited) := by
      rcases hp with rfl | rfl
      · exact .inl hproc
      · exact .inr hproc
    rw [if_pos (checks_of_reason (hinv.reason hbegun hopen hcurrent))] at hfail
    cases hfail
  cases p with
  | insert userId productId payload =>
    simp only [RatedShop.write]
    split
    · simp
    · split <;> simp
  | edit loaded edited => exact hupdate (.inl rfl)
  | moderate loaded edited => exact hupdate (.inr rfl)
  | delete id => simp [RatedShop.write]

/-! ### The summary -/

theorem sum_stars (l : List ProductReview) :
    (RatedShop.stars.map fun n => l.countP fun r => r.rating = n).sum = l.length := by
  induction l with
  | nil => rfl
  | cons r l ih =>
    simp only [List.countP_cons, List.length_cons, ← ih]
    rw [List.sum_map_add]
    congr 1
    obtain ⟨n, hlow, hhigh⟩ := r.rating
    interval_cases n
    all_goals rfl

/-- A product counts its customers, whatever they did. -/
theorem Owned.counted (h : Owned db s.reviews) (productId : Id) : (s.summary productId).count
    = ((s.published productId).map (·.userId)).toFinset.card := by
  have hmem : ∀ r ∈ s.published productId, r ∈ s.reviews.rows ∧ r.productId = productId := fun r hr => by
    obtain ⟨hrow, hrest⟩ := List.mem_filter.mp hr
    exact ⟨hrow, (of_decide_eq_true hrest).1⟩
  have hnodup : ((s.published productId).map (·.userId)).Nodup := by
    refine List.Nodup.map_on (fun r hr r' hr' hcustomer => ?_) (s.reviews.nodup.of_map.filter _)
    have hid := h.single r (hmem r hr).1 r' (hmem r' hr').1 ⟨(hmem r hr).2.trans (hmem r' hr').2.symm, hcustomer⟩
    exact s.reviews.eq_of_key_eq (hmem r hr).1 (hmem r' hr').1 hid
  rw [List.toFinset_card_of_nodup hnodup, List.length_map]
  exact sum_stars _

/-! ### Who does what -/

/-- The columns a request did not touch stay as they are. -/
theorem updated_moderation {loaded edited : ProductReview} (h : edited.moderation = loaded.moderation)
    (r : ProductReview) : (loaded.updated edited r).moderation = r.moderation := by
  have hstatus : edited.status = loaded.status := congrArg (·.1) h
  have hreason : edited.hiddenReason = loaded.hiddenReason := congrArg (·.2.1) h
  have hadmin : edited.hiddenByUserId = loaded.hiddenByUserId := congrArg (·.2.2) h
  simp only [ProductReview.moderation, ProductReview.updated, column_self hstatus, column_self hreason,
    column_self hadmin]

theorem updated_text {loaded edited : ProductReview} (h : edited.text = loaded.text) (r : ProductReview) :
    (loaded.updated edited r).text = r.text := by
  have hrating : edited.rating = loaded.rating := congrArg (·.1) h
  have htitle : edited.title = loaded.title := congrArg (·.2.1) h
  have hbody : edited.body = loaded.body := congrArg (·.2.2) h
  simp only [ProductReview.text, ProductReview.updated, column_self hrating, column_self htitle, column_self hbody]

/-- The step commits a request that began as `r`, when the shop was in `s`. -/
def CommitsAs (tr : List (Taken RatedShop RatedLabel)) (l : RatedLabel) (P : RatedShop → ReviewRequest → Prop) : Prop :=
  ∃ pid, l = .commit pid ∧ ∃ x ∈ tr, ∃ r, x.label = .begin_ pid r ∧ P x.pre r

/-- Each change of a review is the act of somebody who may make it. -/
structure Supervised (tr : List (Taken RatedShop RatedLabel)) (t : Taken RatedShop RatedLabel) : Prop where
  /-- its customer wrote it, having bought the product -/
  created : ∀ r ∈ t.post.reviews.rows, t.pre.reviews.get? r.id = none → CommitsAs tr t.label fun s req =>
    ∃ payload, req = .create r.userId r.productId payload ∧ s.sys.db.bought r.userId r.productId = true
  /-- its customer edited it, and found it published -/
  edited : ∀ r ∈ t.pre.reviews.rows, ∀ r', t.post.reviews.get? r.id = some r' → r'.text ≠ r.text →
    CommitsAs tr t.label fun s req => ∃ payload, req = .updateMine r.userId r.productId payload ∧
      ∃ loaded ∈ s.reviews.rows, loaded.id = r.id ∧ loaded.status = .published
  /-- an administrator moderated it -/
  moderated : ∀ r ∈ t.pre.reviews.rows, ∀ r', t.post.reviews.get? r.id = some r' → r'.moderation ≠ r.moderation →
    CommitsAs tr t.label fun _ req => ∃ status reason admin, req = .moderate r.id status reason admin
  /-- an administrator or its customer deleted it -/
  deleted : ∀ r ∈ t.pre.reviews.rows, t.post.reviews.get? r.id = none → CommitsAs tr t.label fun _ req =>
    req = .adminDelete r.id ∨ req = .deleteMine r.userId r.productId

theorem Written.gone {p : ReviewProc} {reviews : Table ProductReview} (h : Written s p reviews) {r : ProductReview}
    (hr : r ∈ s.reviews.rows) (hgone : reviews.get? r.id = none) : p = .delete r.id := by
  have hget : s.reviews.get? r.id = some r := Table.get?_of_mem hr
  cases h with
  | insert _ _ _ _ _ hinsert =>
    rw [Table.get?_insert?_of_some hinsert hget] at hgone
    cases hgone
  | edit =>
    rw [Table.get?_replace_eq_none, hget] at hgone
    cases hgone
  | moderate =>
    rw [Table.get?_replace_eq_none, hget] at hgone
    cases hgone
  | delete =>
    rw [Table.get?_erase] at hgone
    split at hgone
    · rename_i hid
      rw [hid]
    · rw [hget] at hgone
      cases hgone

theorem Written.new {p : ReviewProc} {reviews : Table ProductReview} (h : Written s p reviews) {r : ProductReview}
    (hr : r ∈ reviews.rows) (hnew : s.reviews.get? r.id = none) :
    ∃ payload, p = .insert r.userId r.productId payload := by
  have hupdated : ∀ {loaded edited current : ProductReview}, s.reviews.get? loaded.id = some current →
      r ∉ (s.reviews.replace (loaded.updated edited current)).rows := by
    intro loaded edited current hcurrent hmem
    have hfound : (s.reviews.replace (loaded.updated edited current)).get? r.id = some r := Table.get?_of_mem hmem
    rw [Table.get?_replace_eq_none.mpr hnew] at hfound
    cases hfound
  cases h with
  | insert _ hproduct hcustomer _ _ hinsert =>
    rcases (Table.mem_insert? hinsert).mp hr with rfl | hold
    · exact ⟨_, by rw [hproduct, hcustomer]⟩
    · rw [show s.reviews.get? r.id = some r from Table.get?_of_mem hold] at hnew
      cases hnew
  | edit hcurrent => exact absurd hr (hupdated hcurrent)
  | moderate hcurrent => exact absurd hr (hupdated hcurrent)
  | delete =>
    have hold : r ∈ s.reviews.rows := (Table.mem_erase.mp hr).1
    rw [show s.reviews.get? r.id = some r from Table.get?_of_mem hold] at hnew
    cases hnew

/-- A step that leaves the reviews alone needs nobody's leave. -/
theorem Supervised.still {t : Taken RatedShop RatedLabel} (h : t.post.reviews = t.pre.reviews) : Supervised tr t := by
  have hget : ∀ r ∈ t.pre.reviews.rows, t.post.reviews.get? r.id = some r := fun r hr => by
    rw [h]
    exact Table.get?_of_mem hr
  constructor
  · intro r hr hnew
    rw [h] at hr
    rw [show t.pre.reviews.get? r.id = some r from Table.get?_of_mem hr] at hnew
    cases hnew
  · intro r hr r' hr' hne
    rw [hget r hr] at hr'
    cases hr'
    exact absurd rfl hne
  · intro r hr r' hr' hne
    rw [hget r hr] at hr'
    cases hr'
    exact absurd rfl hne
  · intro r hr hgone
    rw [hget r hr] at hgone
    cases hgone

theorem supervised_of_run (h₀ : s₀.reviews = .empty) (hprocs : s₀.procs = .empty) (h : RatedRun cfg s₀ tr s)
    {t : Taken RatedShop RatedLabel} (ht : t ∈ tr) : Supervised tr t := by
  obtain ⟨before, hbefore, hsub⟩ := h.before ht
  have hmove := ratedStep_move (h.taken ht).2
  obtain ⟨pre, l, post⟩ := t
  cases hmove with
  | store _ hs' => exact .still (by rw [hs'])
  | begun _ _ hs' => exact .still (by rw [hs'])
  | refused hs' => exact .still (by rw [hs'])
  | gone _ hs' => exact .still (by rw [hs'])
  | written hproc hw hs' =>
    rename_i pid p reviews
    have hpost : post.reviews = reviews := congrArg RatedShop.reviews hs'
    obtain ⟨x, hx, req, hlabel, hprepared⟩ := begun_of_run hprocs hbefore pid p hproc
    have hcommits : ∀ {P : RatedShop → ReviewRequest → Prop}, P x.pre req → CommitsAs tr (.commit pid) P :=
      fun hP => ⟨pid, rfl, x, hsub hx, req, hlabel, hP⟩
    constructor
    · intro r hr hnew
      obtain ⟨payload, rfl⟩ := hw.new (hpost ▸ hr) hnew
      cases hprepared with
      | insert hbought => exact hcommits ⟨payload, rfl, hbought⟩
    · intro r hr r' hr' hne
      rcases hw.row hr (hpost ▸ hr') with rfl | ⟨loaded, edited, rfl | rfl, hid, rfl⟩
      · exact absurd rfl hne
      · cases hprepared with
        | edit hmine hpublished hkept =>
          rename_i userId productId payload
          obtain ⟨hloaded, hproduct, hcustomer⟩ := mine_some hmine
          obtain ⟨hproduct', hcustomer'⟩ := same_review h₀ hbefore hx hloaded hr hid
          refine hcommits ⟨payload, ?_, loaded, hloaded, hid, hpublished⟩
          rw [← hproduct, ← hcustomer, hproduct', hcustomer']
      · cases hprepared with
        | moderate _ hkept _ => exact absurd (updated_text hkept r) hne
    · intro r hr r' hr' hne
      rcases hw.row hr (hpost ▸ hr') with rfl | ⟨loaded, edited, rfl | rfl, hid, rfl⟩
      · exact absurd rfl hne
      · cases hprepared with
        | edit _ _ hkept => exact absurd (updated_moderation hkept r) hne
      · cases hprepared with
        | moderate hloaded hkept hreason =>
          rename_i reviewId admin status reason
          have hkey : loaded.id = reviewId := Table.key_of_get? hloaded
          exact hcommits ⟨status, reason, admin, by rw [← hid, hkey]⟩
    · intro r hr hgone
      have hp : p = .delete r.id := hw.gone hr (hpost ▸ hgone)
      cases hprepared with
      | insert => cases hp
      | edit => cases hp
      | moderate => cases hp
      | deleteMine hmine =>
        rename_i userId productId loaded
        have hid : loaded.id = r.id := by
          injection hp
        obtain ⟨hloaded, hproduct, hcustomer⟩ := mine_some hmine
        obtain ⟨hproduct', hcustomer'⟩ := same_review h₀ hbefore hx hloaded hr hid
        refine hcommits (.inr ?_)
        rw [← hproduct, ← hcustomer, hproduct', hcustomer']
      | adminDelete hloaded =>
        rename_i reviewId loaded
        have hid : loaded.id = r.id := by
          injection hp
        have hkey : loaded.id = reviewId := Table.key_of_get? hloaded
        exact hcommits (.inl (by rw [← hid, hkey]))

/-- The reviews at the end of a run. -/
structure HonestReviews (tr : List (Taken RatedShop RatedLabel)) (s : RatedShop) : Prop where
  single : ∀ r ∈ s.reviews.rows, ∀ r' ∈ s.reviews.rows, r.productId = r'.productId → r.userId = r'.userId → r = r'
  /-- the customer has an order with the product, and paid it in full -/
  purchased : ∀ r ∈ s.reviews.rows, ∃ o, Purchase s.sys.db r.userId r.productId o ∧
    ∃ t ∈ tr, t.post.sys.db.paidInFull o
  reasons : ∀ r ∈ s.reviews.rows, ∀ v, r.hiddenReason = some v → Reason v
  counted : ∀ productId, (s.summary productId).count = ((s.published productId).map (·.userId)).toFinset.card
  /-- no check of the table stands in the way of an open request -/
  unrefused : ∀ pid p, s.proc? pid = some p → s.write p ≠ .error .integrity

/-- In every run of the store with its customers' reviews and their moderation, in which nobody sets the status
    `refunded` by name: a review is its customer's only one of a product they paid for, the counts are of customers, and
    each change was made by somebody who may. -/
theorem reviews_honest (h₀ : Unrated s₀) (h : RatedRun cfg s₀ tr s)
    (hroute : ∀ t ∈ tr.filterMap (Taken.inPart RatedShop.sys RatedLabel.store?), namesRefunded t = false) :
    HonestReviews tr s ∧ ∀ t ∈ tr, Supervised tr t := by
  have hinv := ratedInv_of_run h₀ h
  have hbegun := begun_of_run h₀.procs h
  refine ⟨⟨?_, ?_, hinv.owned.reasons, hinv.owned.counted, fun pid p hproc => hinv.unrefused hbegun hproc⟩,
    fun t ht => supervised_of_run h₀.reviews h₀.procs h ht⟩
  · intro r hr r' hr' hproduct hcustomer
    exact s.reviews.eq_of_key_eq hr hr' (hinv.owned.single r hr r' hr' ⟨hproduct, hcustomer⟩)
  · intro r hr
    obtain ⟨o, ho⟩ := hinv.owned.bought r hr
    have hlife : Lifecycle _ s.sys := .of_run h₀.initial (h.component rated_component) hroute
    have hpending : o.status ≠ .pending := by
      intro heq
      have := ho.settled
      rw [heq] at this
      cases this
    have hcancelled : o.status ≠ .cancelled := by
      intro heq
      have := ho.settled
      rw [heq] at this
      cases this
    obtain ⟨y, hy, hpaid⟩ := hlife.paid o ho.order hpending hcancelled
    obtain ⟨x, hx, _, hpost⟩ := Taken.mem_inPart hy
    exact ⟨o, ho, x, hx, hpost ▸ hpaid⟩

def smallRatedShop : RatedShop := ⟨smallShop, .empty, 0, .empty⟩

/-- Five stars and a text. -/
def praise : ReviewCreate :=
  ⟨.ofFin 4, none,
    some ⟨"Fine", clean_some (by decide +kernel : clean false " Fine\x00" = some "Fine") (by decide)⟩⟩

/-- One star less. -/
def regret : ReviewUpdate := ⟨some (some (.ofFin 3)), none, none⟩

/-- The customer of the paid order reviews the product, another one may not. The review is hidden while its customer
    takes a star back: both changes stand. -/
theorem reviews_honest_hidden : ∃ tr s, RatedRun smallSettings smallRatedShop tr s ∧
    (HonestReviews tr s ∧ ∀ t ∈ tr, Supervised tr t) ∧
      s.reviews.rows.map (fun r => (r.userId, r.rating.val)) = [(1, 4)] ∧
        s.reviews.rows.map (·.hiddenReason) = [some "spam"] := by
  obtain ⟨tr, s, hrun, hroute, hrows, hreasons⟩ := exists_exec (ratedStep smallSettings) smallRatedShop
    (P := fun tr s => (∀ t ∈ tr.filterMap (Taken.inPart RatedShop.sys RatedLabel.store?), namesRefunded t = false) ∧
      s.reviews.rows.map (fun r => (r.userId, r.rating.val)) = [(1, 4)] ∧
        s.reviews.rows.map (·.hiddenReason) = [some "spam"])
    (paidOrder.map .store ++ [.begin_ 1 (.create 2 1 praise), .begin_ 2 (.create 1 1 praise),
      .begin_ 3 (.create 1 1 praise), .commit 2, .commit 3, .begin_ 4 (.updateMine 1 1 regret),
      .begin_ 5 (.moderate 1 .hidden (some " spam ") 9), .commit 5, .commit 4, .begin_ 6 (.updateMine 1 1 regret)])
    (by decide +kernel)
  exact ⟨tr, s, hrun, reviews_honest ⟨smallShop_initial, rfl, rfl⟩ hrun hroute, hrows, hreasons⟩

end NovaCart
