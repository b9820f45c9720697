import NovaCart.PlainText
import NovaCart.ReceivedMoney
import NovaCart.Schemes.Columns
import NovaCart.Schemes.Components

/-! Product reviews (`ReviewService`): who may write one, who may change it, who hides it.

    A request reads first and writes when it commits; requests of customers and of administrators interleave with
    each other and with the steps of the store. The write of a request touches the columns that the request changed,
    on the row as it is by then. -/

namespace NovaCart

open Schemes

/-! ### Rows and requests -/

inductive ReviewStatus
  | published | hidden
  deriving DecidableEq, Repr

/-- `ge=1, le=5`, and `ck_product_reviews_rating`. -/
abbrev Rating := { rating : ℤ // 1 ≤ rating ∧ rating ≤ 5 }

/-- One star, two stars and so on. -/
def Rating.ofFin (n : Fin 5) : Rating := ⟨n + 1, by omega⟩

abbrev ReviewTitle := { title : String // Clean true 100 title }

abbrev ReviewBody := { body : String // Clean false 2000 body }

/-- A row of `product_reviews`. -/
structure ProductReview where
  id : Id
  productId : Id
  userId : Id
  rating : Rating
  title : Option ReviewTitle
  body : Option ReviewBody
  status : ReviewStatus
  hiddenReason : Option String
  hiddenByUserId : Option Id
  deriving DecidableEq

instance : Keyed ProductReview Id := ⟨ProductReview.id⟩

/-- `length(btrim(value)) ≥ n`, which a null passes. -/
def btrimmed (n : Nat) (value : Option String) : Bool :=
  value.all fun v => n ≤ (trim (· = ' ') v.toList).length

/-- `ck_product_reviews_title`, `_body` and `_hidden_reason`. -/
def ProductReview.checks (r : ProductReview) : Bool :=
  (btrimmed 1 (r.title.map (·.val)) ∧ r.title.all fun t => t.val.toList.length ≤ 100) ∧
    (btrimmed 1 (r.body.map (·.val)) ∧ r.body.all fun b => b.val.toList.length ≤ 2000) ∧
      (r.status = .hidden → btrimmed 3 r.hiddenReason)

structure ReviewCreate where
  rating : Rating
  title : Option ReviewTitle
  body : Option ReviewBody

/-- The fields that were sent; a null is sent as `some none`. -/
structure ReviewUpdate where
  rating : Option (Option Rating)
  title : Option (Option ReviewTitle)
  body : Option (Option ReviewBody)

inductive ReviewRequest
  | create (userId productId : Id) (payload : ReviewCreate)
  | updateMine (userId productId : Id) (payload : ReviewUpdate)
  | deleteMine (userId productId : Id)
  | moderate (reviewId : Id) (status : ReviewStatus) (reason : Option String) (adminUserId : Id)
  | adminDelete (reviewId : Id)

inductive ProductReviewError
  | productNotFound (productId : Id)
  | reviewNotFound
  | reviewRequiresPurchase
  | alreadyReviewed
  | reviewHidden
  | invalidReview (why : String)
  | integrity
  /-- the row is gone when it is updated -/
  | staleData
  deriving DecidableEq, Repr

/-- What a request that has read is about to write. -/
inductive ReviewProc
  | insert (userId productId : Id) (payload : ReviewCreate)
  | edit (loaded edited : ProductReview)
  | moderate (loaded edited : ProductReview)
  | delete (id : Id)

structure ReviewEntry where
  pid : Id
  proc : ReviewProc

instance : Keyed ReviewEntry Id := ⟨ReviewEntry.pid⟩

/-- The row takes a number, also if the insert fails. -/
def ReviewProc.draws : ReviewProc → Nat
  | .insert .. => 1
  | _ => 0

/-- The store, its reviews and the requests about them. -/
structure RatedShop where
  sys : Sys
  reviews : Table ProductReview
  /-- the last number that was drawn for a review -/
  lastId : Id
  procs : Table ReviewEntry

/-! ### Requests -/

/-- `_bought`: a paid or fulfilled order of the customer with a line of the product. -/
def Db.bought (db : Db) (userId productId : Id) : Bool :=
  db.stock.items.rows.any fun i => i.productId = productId ∧
    (db.orders.get? i.orderId).any fun o => o.userId = some userId ∧ o.status ∈ [.paid, .fulfilled]

/-- The update of `update_mine`. -/
def ReviewUpdate.apply (payload : ReviewUpdate) (r : ProductReview) : ProductReview :=
  { r with
    rating := (payload.rating.bind id).getD r.rating
    title := payload.title.getD r.title
    body := payload.body.getD r.body }

/-- The `UPDATE` of a row that was loaded and edited, on the row as it is by now. -/
def ProductReview.updated (loaded edited current : ProductReview) : ProductReview :=
  { current with
    rating := column loaded.rating edited.rating current.rating
    title := column loaded.title edited.title current.title
    body := column loaded.body edited.body current.body
    status := column loaded.status edited.status current.status
    hiddenReason := column loaded.hiddenReason edited.hiddenReason current.hiddenReason
    hiddenByUserId := column loaded.hiddenByUserId edited.hiddenByUserId current.hiddenByUserId }

namespace RatedShop

/-- `_mine`. -/
def mine (s : RatedShop) (userId productId : Id) : Except ProductReviewError ProductReview :=
  match s.reviews.rows.find? fun r => r.productId = productId ∧ r.userId = userId with
  | some r => .ok r
  | none => .error .reviewNotFound

/-- What a request does before its write. -/
def prepare (s : RatedShop) : ReviewRequest → Except ProductReviewError ReviewProc
  | .create userId productId payload =>
    if s.sys.db.stock.products.get? productId = none then .error (.productNotFound productId)
    else if ¬s.sys.db.bought userId productId then .error .reviewRequiresPurchase
    else .ok (.insert userId productId payload)
  | .updateMine userId productId payload =>
    (s.mine userId productId).bind fun r =>
      if r.status = .hidden then .error .reviewHidden
      else if payload.rating = some none then .error (.invalidReview "a review needs a rating")
      else .ok (.edit r (payload.apply r))
  | .deleteMine userId productId => (s.mine userId productId).map fun r => .delete r.id
  | .moderate reviewId status reason adminUserId =>
    match s.reviews.get? reviewId with
    | none => .error .reviewNotFound
    | some r =>
      match status with
      | .hidden =>
        let reason := trim isSpace (reason.getD "").toList
        if reason.length < 3 then
          .error (.invalidReview "hiding a review needs a reason (at least 3 characters)")
        else .ok (.moderate r { r with
          status := .hidden, hiddenReason := some (String.ofList reason), hiddenByUserId := some adminUserId })
      | .published =>
        .ok (.moderate r { r with status := .published, hiddenReason := none, hiddenByUserId := none })
  | .adminDelete reviewId =>
    match s.reviews.get? reviewId with
    | none => .error .reviewNotFound
    | some r => .ok (.delete r.id)

/-- The flush of an edited row. -/
def update (s : RatedShop) (loaded edited : ProductReview) : Except ProductReviewError (Table ProductReview) :=
  match s.reviews.get? loaded.id with
  | none => .error .staleData
  | some current =>
    if (loaded.updated edited current).checks then .ok (s.reviews.replace (loaded.updated edited current))
    else .error .integrity

/-- The write of a request; every integrity error of an insert is reported as `AlreadyReviewedError`. -/
def write (s : RatedShop) : ReviewProc → Except ProductReviewError (Table ProductReview)
  | .insert userId productId payload =>
    let row : ProductReview :=
      ⟨s.lastId + 1, productId, userId, payload.rating, payload.title, payload.body, .published, none, none⟩
    if ¬row.checks ∨ ∃ r ∈ s.reviews.rows, r.productId = productId ∧ r.userId = userId then .error .alreadyReviewed
    else match s.reviews.insert? row with
      | some reviews => .ok reviews
      | none => .error .alreadyReviewed
  | .edit loaded edited => s.update loaded edited
  | .moderate loaded edited => s.update loaded edited
  | .delete id => .ok (s.reviews.erase id)

def proc? (s : RatedShop) (pid : Id) : Option ReviewProc := (s.procs.get? pid).map (·.proc)

end RatedShop

inductive RatedLabel
  | store (l : Label)
  | begin_ (pid : Id) (r : ReviewRequest)
  | commit (pid : Id)
  | abort (pid : Id)

/-- A request that is refused, or whose write fails, leaves no trace. -/
def ratedStep (cfg : Settings) (s : RatedShop) : RatedLabel → Option RatedShop
  | .store l => (step cfg s.sys l).map fun sys => { s with sys := sys }
  | .begin_ pid r =>
    match s.prepare r with
    | .ok p => (s.procs.insert? ⟨pid, p⟩).map fun procs => { s with procs := procs }
    | .error _ => some s
  | .commit pid =>
    (s.proc? pid).map fun p =>
      match s.write p with
      | .ok reviews => { s with reviews := reviews, lastId := s.lastId + p.draws, procs := s.procs.erase pid }
      | .error _ => { s with lastId := s.lastId + p.draws, procs := s.procs.erase pid }
  | .abort pid => some { s with procs := s.procs.erase pid }

/-- The step of the store that a step is. -/
def RatedLabel.store? : RatedLabel → Option Label
  | .store l => some l
  | _ => none

abbrev RatedRun (cfg : Settings) (s₀ : RatedShop) (tr : List (Taken RatedShop RatedLabel)) (s : RatedShop) : Prop :=
  Exec (ratedStep cfg) s₀ tr s

/-! ### The summary of a product -/

structure ReviewSummary where
  productId : Id
  count : Nat
  distribution : Rating → Nat

namespace RatedShop

/-- The published reviews of a product. -/
def published (s : RatedShop) (productId : Id) : List ProductReview :=
  s.reviews.rows.filter fun r => r.productId = productId ∧ r.status = .published

/-- `range(1, 6)`. -/
def stars : List Rating := (List.finRange 5).map Rating.ofFin

/-- `summaries`, for one product. -/
def summary (s : RatedShop) (productId : Id) : ReviewSummary :=
  let distribution (n : Rating) := (s.published productId).countP (·.rating = n)
  ⟨productId, (stars.map distribution).sum, distribution⟩

end RatedShop

end NovaCart
