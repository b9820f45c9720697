import NovaCart.Coupons

/-! The limits of a coupon at the commit of every checkout. -/

namespace NovaCart

open Schemes

section

variable {L : Lowering} {s₀ s s' : CouponStore} {l : CouponLabel} {tr : List (Taken CouponStore CouponLabel)}
  {tx tx' : CouponTx} {coupon : Coupon} {customer : Customer}

/-- Another order may be placed with the coupon. -/
def UnderTotal (s : CouponStore) (coupon : Coupon) : Prop :=
  ∀ m ∈ coupon.terms.maxUsesTotal, s.uses coupon.id < m

/-- The customer may place another order with the coupon. -/
def UnderCustomer (L : Lowering) (s : CouponStore) (coupon : Coupon) (customer : Customer) : Prop :=
  ∀ m ∈ coupon.terms.maxUsesPerCustomer, s.usesWhere coupon.id (L.same customer) < m

/-- What an open transaction has locked and counted. -/
structure CouponTx.Fits (L : Lowering) (s : CouponStore) (tx : CouponTx) : Prop where
  locked : ∀ c, tx.stage = .locked c ∨ tx.stage = .totalCounted c ∨ tx.stage = .checked (some c) →
    tx.locks = some c.id ∧ s.coupons.get? c.id = some c
  known : tx.stage ≠ .start → ∀ customer code a b, tx.call = .checkout customer code a b → customer ≠ .guest ""
  total : ∀ c, tx.stage = .totalCounted c ∨ tx.stage = .checked (some c) → UnderTotal s c
  customer : ∀ c customer code a b, tx.stage = .checked (some c) → tx.call = .checkout customer code a b →
    UnderCustomer L s c customer
  blank : tx.stage ≠ .done → tx.order = none ∧ tx.coupon = none ∧ tx.deletes = none
  edits : ∀ c, tx.coupon = some c → tx.locks = some c.id
  deletes : ∀ cid, tx.deletes = some cid → tx.locks = some cid
  order : ∀ o, tx.order = some o → tx.coupon = none ∧ tx.deletes = none ∧ ∀ cid, o.couponId = some cid →
    tx.locks = some cid ∧ ∃ c, s.coupons.get? cid = some c ∧ UnderTotal s c ∧ UnderCustomer L s c o.customer

structure CouponInv (L : Lowering) (s : CouponStore) : Prop where
  lock : ∀ x ∈ s.txs.rows, ∀ y ∈ s.txs.rows, ∀ cid, x.locks = some cid → y.locks = some cid → x.id = y.id
  fits : ∀ x ∈ s.txs.rows, x.Fits L s

/-- A count that is no more, of a coupon that is still the same. -/
theorem CouponTx.Fits.mono (h : tx.Fits L s)
    (hrows : ∀ cid c, tx.locks = some cid → s.coupons.get? cid = some c → s'.coupons.get? cid = some c)
    (huses : ∀ cid p, tx.locks = some cid → s'.usesWhere cid p ≤ s.usesWhere cid p) : tx.Fits L s' := by
  have htotal {c : Coupon} (hlock : tx.locks = some c.id) (hc : UnderTotal s c) : UnderTotal s' c :=
    fun m hm => (huses c.id _ hlock).trans_lt (hc m hm)
  have hcustomer {c : Coupon} {customer : Customer} (hlock : tx.locks = some c.id) (hc : UnderCustomer L s c customer) :
      UnderCustomer L s' c customer := fun m hm => (huses c.id _ hlock).trans_lt (hc m hm)
  refine ⟨fun c hstage => ?_, h.known, fun c hstage => ?_, fun c customer code a b hstage hcall => ?_, h.blank, h.edits,
    h.deletes, fun o ho => ?_⟩
  · obtain ⟨hlock, hget⟩ := h.locked c hstage
    exact ⟨hlock, hrows _ _ hlock hget⟩
  · exact htotal (h.locked c (.inr hstage)).1 (h.total c hstage)
  · exact hcustomer (h.locked c (.inr (.inr hstage))).1 (h.customer c customer code a b hstage hcall)
  · obtain ⟨hnone, hkept, hcoupon⟩ := h.order o ho
    refine ⟨hnone, hkept, fun cid hcid => ?_⟩
    obtain ⟨hlock, c, hget, ht, hc⟩ := hcoupon cid hcid
    obtain rfl : c.id = cid := Table.key_of_get? hget
    exact ⟨hlock, c, hrows _ _ hlock hget, htotal hlock ht, hcustomer hlock hc⟩

/-! ### Statements -/

/-- The count of a guest's uses sees every live order of the same email in any case. -/
def SeesSameEmail (L : Lowering) (t : Taken CouponStore CouponLabel) : Prop :=
  ∀ id now newId, t.label = .statement id now newId → ∀ tx ∈ t.pre.txs.get? id, ∀ coupon email code a b,
    tx.stage = .totalCounted coupon → tx.call = .checkout (.guest email) code a b → coupon.terms.maxUsesPerCustomer ≠ none →
    ∀ o ∈ t.pre.orders.rows, o.couponId = some coupon.id → o.status ∈ aliveStatuses →
    ∀ email', o.customer = .guest email' → L.python email' = L.python email → L.database email' = L.python email

theorem usesWhere_mono {cid : Id} {p q : Customer → Bool}
    (h : ∀ o ∈ s.orders.rows, o.couponId = some cid → o.status ∈ aliveStatuses → p o.customer = true → q o.customer = true) :
    s.usesWhere cid p ≤ s.usesWhere cid q := by
  refine Table.total_mono fun o ho => ?_
  by_cases hp : o.couponId = some cid ∧ o.status ∈ aliveStatuses ∧ p o.customer = true
  · rw [if_pos hp, if_pos ⟨hp.1, hp.2.1, h o ho hp.1 hp.2.1 hp.2.2⟩]
  · rw [if_neg hp]
    split <;> decide

/-- What a statement comes to. -/
inductive CouponTx.Advances (L : Lowering) (s : CouponStore) (tx : CouponTx) : CouponTx → Prop
  | plain (hcall : ∀ customer code a b, tx.call = .checkout customer code a b → customer ≠ .guest "") :
      tx.Advances L s { tx with stage := .checked none }
  | lock (coupon : Coupon) (hget : s.coupons.get? coupon.id = some coupon)
      (hfree : ∀ x ∈ s.txs.rows, x.id ≠ tx.id → x.locks ≠ some coupon.id)
      (hcall : ∀ customer code a b, tx.call = .checkout customer code a b → customer ≠ .guest "") :
      tx.Advances L s { tx with locks := some coupon.id, stage := .locked coupon }
  | total (coupon : Coupon) (hwas : tx.stage = .locked coupon) (htotal : UnderTotal s coupon) :
      tx.Advances L s { tx with stage := .totalCounted coupon }
  | customer (coupon : Coupon) (hwas : tx.stage = .totalCounted coupon)
      (hcustomer : ∀ customer code a b, tx.call = .checkout customer code a b → UnderCustomer L s coupon customer) :
      tx.Advances L s { tx with stage := .checked (some coupon) }
  | order (o : CouponOrder) (coupon : Option Coupon) (hwas : tx.stage = .checked coupon)
      (hcoupon : o.couponId = coupon.map Coupon.id) (hcall : ∃ code a b, tx.call = .checkout o.customer code a b) :
      tx.Advances L s { tx with stage := .done, order := some o }
  | edit (c : Coupon) (hwas : tx.stage ≠ .start) (hlock : tx.locks = some c.id) :
      tx.Advances L s { tx with stage := .done, coupon := some c }
  | delete (cid : Id) (hwas : tx.stage ≠ .start) (hlock : tx.locks = some cid) :
      tx.Advances L s { tx with stage := .done, deletes := some cid }

theorem lockCoupon_advances (hget : s.coupons.get? coupon.id = some coupon)
    (hcall : ∀ customer code a b, tx.call = .checkout customer code a b → customer ≠ .guest "")
    (h : s.lockCoupon tx coupon = some tx') : tx.Advances L s tx' := by
  rw [CouponStore.lockCoupon] at h
  by_cases hbusy : ∃ x ∈ s.txs.rows, x.id ≠ tx.id ∧ x.locks = some coupon.id
  · rw [if_pos hbusy] at h; cases h
  rw [if_neg hbusy] at h
  cases h
  exact .lock coupon hget (fun x hx hne hlock => hbusy ⟨x, hx, hne, hlock⟩) hcall

theorem get?_of_findByCode {code : String} (h : s.findByCode code = some coupon) : s.coupons.get? coupon.id = some coupon :=
  Table.get?_of_mem (List.mem_of_find?_eq_some h)

theorem checkTotal_ok {subtotalCents : ℤ} {now : Time} (h : s.checkTotal coupon subtotalCents now = .ok ()) :
    UnderTotal s coupon := by
  obtain ⟨_, h⟩ := require_bind_ok h
  obtain ⟨_, h⟩ := require_bind_ok h
  have hlimit := require_eq_ok.mp h
  exact hlimit

/-- The count of the customer's uses is the count of the same customer's uses. -/
theorem checkCustomer_ok {discount : Discount} {a b : ℤ} (hknown : customer ≠ .guest "")
    (hsees : ∀ email, customer = .guest email → coupon.terms.maxUsesPerCustomer ≠ none →
      ∀ o ∈ s.orders.rows, o.couponId = some coupon.id → o.status ∈ aliveStatuses →
      ∀ email', o.customer = .guest email' → L.python email' = L.python email → L.database email' = L.python email)
    (h : s.checkCustomer L coupon customer a b = .ok discount) : UnderCustomer L s coupon customer := by
  obtain ⟨hlimit, _⟩ := require_bind_ok h
  intro m hm
  refine lt_of_le_of_lt (usesWhere_mono fun o ho hcid hlive hsame => ?_) (hlimit m hm hknown)
  cases hc : customer with
  | account userId =>
    cases ho' : o.customer with
    | account userId' => rw [hc, ho'] at hsame; exact hsame
    | guest email' => rw [hc, ho'] at hsame; cases hsame
  | guest email =>
    cases ho' : o.customer with
    | account userId' => rw [hc, ho'] at hsame; cases hsame
    | guest email' =>
      rw [hc, ho'] at hsame
      refine decide_eq_true (hsees email hc ?_ o ho hcid hlive email' ho' (of_decide_eq_true hsame))
      rw [hm]
      exact Option.some_ne_none m

theorem coupon_advance_cases (hfits : tx.Fits L s)
    (hsees : ∀ coupon email code a b, tx.stage = .totalCounted coupon → tx.call = .checkout (.guest email) code a b →
      coupon.terms.maxUsesPerCustomer ≠ none → ∀ o ∈ s.orders.rows, o.couponId = some coupon.id → o.status ∈ aliveStatuses →
      ∀ email', o.customer = .guest email' → L.python email' = L.python email → L.database email' = L.python email)
    {now : Time} {newId : Id} (h : s.advance L tx now newId = some tx') : tx.stage ≠ .done ∧ tx.Advances L s tx' := by
  rw [CouponStore.advance] at h
  cases hcall : tx.call with
  | checkout customer code a b =>
    have hcustomer (hne : customer ≠ .guest "") : ∀ customer' code' a' b', tx.call = .checkout customer' code' a' b' →
        customer' ≠ .guest "" := by
      intro customer' code' a' b' hc
      rw [hcall] at hc
      cases hc
      exact hne
    cases hstage : tx.stage with
    | start =>
      rw [hcall, hstage] at h
      refine ⟨by decide, ?_⟩
      dsimp only at h
      by_cases hne : customer = .guest ""
      · rw [if_pos hne] at h; cases h
      rw [if_neg hne] at h
      cases code with
      | none =>
        cases h
        rw [← hcall]
        exact .plain (hcustomer hne)
      | some code =>
        obtain ⟨coupon, hfind, h⟩ := Option.bind_eq_some_iff.mp h
        exact lockCoupon_advances (get?_of_findByCode hfind) (hcustomer hne) h
    | locked coupon =>
      rw [hcall, hstage] at h
      refine ⟨by simp, ?_⟩
      dsimp only at h
      cases hcheck : s.checkTotal coupon a now with
      | error e => rw [hcheck] at h; cases h
      | ok u =>
        rw [hcheck] at h
        cases h
        rw [← hcall]
        exact .total coupon hstage (checkTotal_ok hcheck)
    | totalCounted coupon =>
      rw [hcall, hstage] at h
      refine ⟨by simp, ?_⟩
      dsimp only at h
      cases hcheck : s.checkCustomer L coupon customer a b with
      | error e => rw [hcheck] at h; cases h
      | ok discount =>
        rw [hcheck] at h
        cases h
        rw [← hcall]
        refine .customer coupon hstage fun customer' code' a' b' hc => ?_
        rw [hcall] at hc
        cases hc
        refine checkCustomer_ok (hfits.known (by rw [hstage]; simp) _ _ _ _ hcall) (fun email he => ?_) hcheck
        exact hsees coupon email code a b hstage (he ▸ hcall)
    | checked coupon =>
      rw [hcall, hstage] at h
      cases h
      refine ⟨by simp, ?_⟩
      rw [← hcall]
      exact .order _ coupon hstage rfl ⟨code, a, b, hcall⟩
    | done => rw [hcall, hstage] at h; cases h
  | edit couponId terms kind =>
    have hnone : ∀ customer code a b, tx.call = .checkout customer code a b → customer ≠ .guest "" := by
      intro _ _ _ _ hc; rw [hcall] at hc; cases hc
    cases hstage : tx.stage with
    | start =>
      rw [hcall, hstage] at h
      obtain ⟨coupon, hget, h⟩ := Option.bind_eq_some_iff.mp h
      exact ⟨by decide, lockCoupon_advances (Table.get?_of_mem (Table.mem_of_get? hget)) hnone h⟩
    | locked coupon =>
      rw [hcall, hstage] at h
      dsimp only at h
      split at h
      · cases h
      · cases h
        refine ⟨by simp, ?_⟩
        rw [← hcall]
        exact .edit _ (by rw [hstage]; simp) (hfits.locked coupon (.inl hstage)).1
    | totalCounted | checked | done => rw [hcall, hstage] at h; cases h
  | delete couponId =>
    have hnone : ∀ customer code a b, tx.call = .checkout customer code a b → customer ≠ .guest "" := by
      intro _ _ _ _ hc; rw [hcall] at hc; cases hc
    cases hstage : tx.stage with
    | start =>
      rw [hcall, hstage] at h
      obtain ⟨coupon, hget, h⟩ := Option.bind_eq_some_iff.mp h
      exact ⟨by decide, lockCoupon_advances (Table.get?_of_mem (Table.mem_of_get? hget)) hnone h⟩
    | locked coupon =>
      rw [hcall, hstage] at h
      dsimp only at h
      split at h
      · cases h
      · cases h
        refine ⟨by simp, ?_⟩
        rw [← hcall]
        exact .delete _ (by rw [hstage]; simp) (hfits.locked coupon (.inl hstage)).1
    | totalCounted | checked | done => rw [hcall, hstage] at h; cases h

theorem CouponTx.Advances.id (hadv : tx.Advances L s tx') : tx'.id = tx.id := by cases hadv <;> rfl

/-- A statement leaves the transaction fitting. -/
theorem CouponTx.Advances.fits (hadv : tx.Advances L s tx') (hstage : tx.stage ≠ .done) (hfits : tx.Fits L s) :
    tx'.Fits L s := by
  obtain ⟨horder, hcoupon, hdeletes⟩ := hfits.blank hstage
  cases hadv with
  | plain hcall =>
    refine ⟨(by rintro c (h | h | h) <;> cases h), fun _ => hcall, (by rintro c (h | h) <;> cases h), by rintro _ _ _ _ _ ⟨⟩,
      fun _ => ⟨horder, hcoupon, hdeletes⟩, hfits.edits, hfits.deletes, hfits.order⟩
  | lock coupon hget _ hcall =>
    refine ⟨?_, fun _ => hcall, (by rintro c (h | h) <;> cases h), by rintro _ _ _ _ _ ⟨⟩,
      fun _ => ⟨horder, hcoupon, hdeletes⟩, fun c hc => ?_, fun cid hc => ?_, fun o ho => ?_⟩
    · rintro c (h | h | h)
      · cases h; exact ⟨rfl, hget⟩
      · cases h
      · cases h
    · rw [show tx.coupon = some c from hc] at hcoupon; cases hcoupon
    · rw [show tx.deletes = some cid from hc] at hdeletes; cases hdeletes
    · rw [show tx.order = some o from ho] at horder; cases horder
  | total coupon hwas htotal =>
    refine ⟨?_, fun _ => hfits.known (by rw [hwas]; simp), ?_, by rintro _ _ _ _ _ ⟨⟩,
      fun _ => ⟨horder, hcoupon, hdeletes⟩, hfits.edits, hfits.deletes, hfits.order⟩
    · rintro c (h | h | h)
      · cases h
      · cases h; exact hfits.locked coupon (.inl hwas)
      · cases h
    · rintro c (h | h)
      · cases h; exact htotal
      · cases h
  | customer coupon hwas hcustomer =>
    refine ⟨?_, fun _ => hfits.known (by rw [hwas]; simp), ?_, ?_,
      fun _ => ⟨horder, hcoupon, hdeletes⟩, hfits.edits, hfits.deletes, hfits.order⟩
    · rintro c (h | h | h)
      · cases h
      · cases h
      · cases h; exact hfits.locked coupon (.inr (.inl hwas))
    · rintro c (h | h)
      · cases h
      · cases h; exact hfits.total coupon (.inl hwas)
    · rintro c customer code a b h hcall
      cases h
      exact hcustomer customer code a b hcall
  | order o coupon hwas hcid hcall =>
    refine ⟨(by rintro c (h | h | h) <;> cases h), fun _ => hfits.known (by rw [hwas]; simp), (by rintro c (h | h) <;> cases h),
      by rintro _ _ _ _ _ ⟨⟩, fun h => absurd rfl h, hfits.edits, hfits.deletes, ?_⟩
    rintro _ ⟨⟩
    refine ⟨hcoupon, hdeletes, fun cid hsome => ?_⟩
    obtain ⟨code, a, b, hcall⟩ := hcall
    cases coupon with
    | none => rw [hcid] at hsome; cases hsome
    | some c =>
      rw [hcid] at hsome
      cases hsome
      obtain ⟨hlock, hget⟩ := hfits.locked c (.inr (.inr hwas))
      exact ⟨hlock, c, hget, hfits.total c (.inr hwas), hfits.customer c _ _ _ _ hwas hcall⟩
  | edit c hwas hlock =>
    refine ⟨(by rintro c (h | h | h) <;> cases h), fun _ => hfits.known hwas, (by rintro c (h | h) <;> cases h), by rintro _ _ _ _ _ ⟨⟩,
      fun h => absurd rfl h, ?_, hfits.deletes, fun o ho => ?_⟩
    · rintro _ ⟨⟩; exact hlock
    · rw [show tx.order = some o from ho] at horder; cases horder
  | delete cid hwas hlock =>
    refine ⟨(by rintro c (h | h | h) <;> cases h), fun _ => hfits.known hwas, (by rintro c (h | h) <;> cases h), by rintro _ _ _ _ _ ⟨⟩,
      fun h => absurd rfl h, hfits.edits, ?_, fun o ho => ?_⟩
    · rintro _ ⟨⟩; exact hlock
    · rw [show tx.order = some o from ho] at horder; cases horder

theorem CouponInv.statement (hinv : CouponInv L s) (htx : s.txs.get? tx.id = some tx) (hadv : tx.Advances L s tx')
    (hstage : tx.stage ≠ .done) : CouponInv L { s with txs := s.txs.replace tx' } := by
  have hmem := Table.mem_of_get? htx
  have hid := hadv.id
  have hget : s.txs.get? tx'.id = some tx := hid.symm ▸ htx
  have hsame {x : CouponTx} (h : x.Fits L s) : x.Fits L { s with txs := s.txs.replace tx' } :=
    h.mono (fun _ _ _ h => h) fun _ _ _ => le_refl _
  refine ⟨fun x hx y hy cid hxl hyl => ?_, fun x hx => ?_⟩
  · refine Table.pairs_replace (P := fun x y => x.locks = some cid ∧ y.locks = some cid) hget
      (fun x hx y hy h => hinv.lock x hx y hy cid h.1 h.2) (fun z hz hne => ?_) x hx y hy ⟨hxl, hyl⟩
    have hother : ¬(z.locks = some cid ∧ tx'.locks = some cid) := by
      rintro ⟨hz', h'⟩
      have hne' : z.id ≠ tx.id := fun h => hne (h.trans hid.symm)
      cases hadv with
      | lock coupon _ hfree _ => cases h'; exact hfree z hz hne' hz'
      | plain | total | customer | order | edit | delete => exact hne' (hinv.lock z hz tx hmem cid hz' h')
    exact ⟨hother, fun h => hother h.symm⟩
  · rcases (Table.mem_replace (r := tx) hget).mp hx with rfl | ⟨hxs, _⟩
    · exact hsame (hadv.fits hstage (hinv.fits tx hmem))
    · exact hsame (hinv.fits x hxs)

/-! ### Commits -/

theorem usesWhere_insert? {o : CouponOrder} {orders : Table CouponOrder} (h : s.orders.insert? o = some orders) (cid : Id)
    (p : Customer → Bool) (hs' : s'.orders = orders) : s'.usesWhere cid p
      = (if o.couponId = some cid ∧ o.status ∈ aliveStatuses ∧ p o.customer = true then 1 else 0) + s.usesWhere cid p := by
  rw [CouponStore.usesWhere, hs', Table.total_insert? h]
  rfl

/-- What a transaction writes concerns no coupon that another has locked. -/
theorem apply_others (hinv : CouponInv L s) (htx : tx ∈ s.txs.rows) (h : s.apply tx = some s') :
    (∀ x ∈ s.txs.rows, x.id ≠ tx.id → x.Fits L s') ∧ s'.txs = s.txs.erase tx.id := by
  obtain ⟨orders, horders, hs⟩ := Option.bind_eq_some_iff.mp h
  cases hs
  refine ⟨fun x hx hne => ?_, rfl⟩
  have hfits := hinv.fits tx htx
  have hother {cid : Id} (hlock : x.locks = some cid) (hmine : tx.locks = some cid) : False :=
    hne (hinv.lock x hx tx htx cid hlock hmine)
  refine (hinv.fits x hx).mono (fun cid c hlock hget => ?_) fun cid p hlock => ?_
  · show (s.couponsWith tx).get? cid = some c
    have hedited : ∀ coupon, tx.coupon = some coupon → (s.coupons.replace coupon).get? cid = some c := by
      intro coupon hcoupon
      refine (Table.get?_replace_of_ne ?_).trans hget
      rintro rfl
      exact hother hlock (hfits.edits coupon hcoupon)
    have hkept : ∀ cid', tx.deletes = some cid' → cid ≠ cid' := by
      rintro cid' hdeletes rfl
      exact hother hlock (hfits.deletes _ hdeletes)
    rw [CouponStore.couponsWith]
    cases hcoupon : tx.coupon with
    | none =>
      cases hdeletes : tx.deletes with
      | none => exact hget
      | some cid' => exact (Table.get?_erase ..).trans ((if_neg (hkept cid' hdeletes)).trans hget)
    | some coupon =>
      cases hdeletes : tx.deletes with
      | none => exact hedited coupon hcoupon
      | some cid' => exact (Table.get?_erase ..).trans ((if_neg (hkept cid' hdeletes)).trans (hedited coupon hcoupon))
  · rw [CouponStore.ordersWith] at horders
    cases horder : tx.order with
    | none =>
      rw [horder] at horders
      cases horders
      exact le_refl _
    | some o =>
      rw [horder] at horders
      rw [usesWhere_insert? horders cid p rfl, if_neg, zero_add]
      rintro ⟨hcid, _⟩
      exact hother hlock ((hfits.order o horder).2.2 cid hcid).1

theorem CouponInv.step (hinv : CouponInv L s) (hsees : SeesSameEmail L ⟨s, l, s'⟩) (h : couponStep L s l = some s') :
    CouponInv L s' := by
  cases l with
  | begin call =>
    obtain ⟨txs, hins, hs⟩ := Option.bind_eq_some_iff.mp h
    cases hs
    have hnew : CouponTx.Fits L s ⟨s.next, call, .start, none, none, none, none⟩ := by
      refine ⟨(by rintro c (h | h | h) <;> cases h), fun h => absurd rfl h, (by rintro c (h | h) <;> cases h),
        by rintro _ _ _ _ _ ⟨⟩, fun _ => ⟨rfl, rfl, rfl⟩, by rintro _ ⟨⟩, by rintro _ ⟨⟩, by rintro _ ⟨⟩⟩
    refine ⟨fun x hx y hy cid hxl hyl => ?_, fun x hx => ?_⟩
    · refine Table.pairs_insert? (P := fun x y => x.locks = some cid ∧ y.locks = some cid) hins
        (fun x hx y hy h => hinv.lock x hx y hy cid h.1 h.2) (fun z _ => ⟨?_, ?_⟩) x hx y hy ⟨hxl, hyl⟩
      · rintro ⟨_, ⟨⟩⟩
      · rintro ⟨⟨⟩, _⟩
    · have hsame {x : CouponTx} (h : x.Fits L s) : x.Fits L { s with txs := txs, next := s.next + 1 } :=
        h.mono (fun _ _ _ h => h) fun _ _ _ => le_refl _
      rcases (Table.mem_insert? hins).mp hx with rfl | hx
      · exact hsame hnew
      · exact hsame (hinv.fits x hx)
  | statement id now newId =>
    obtain ⟨tx, htx, hs⟩ := Option.bind_eq_some_iff.mp h
    obtain ⟨tx', hadvance, hs⟩ := Option.bind_eq_some_iff.mp hs
    cases hs
    obtain rfl : tx.id = id := Table.key_of_get? htx
    obtain ⟨hstage, hadv⟩ := coupon_advance_cases (hinv.fits tx (Table.mem_of_get? htx)) (hsees _ _ _ rfl tx htx) hadvance
    exact hinv.statement htx hadv hstage
  | commit id =>
    obtain ⟨tx, htx, hs⟩ := Option.bind_eq_some_iff.mp h
    obtain rfl : tx.id = id := Table.key_of_get? htx
    by_cases hdone : tx.stage = .done
    · rw [if_pos hdone] at hs
      obtain ⟨hothers, htxs⟩ := apply_others hinv (Table.mem_of_get? htx) hs
      have hstay : ∀ x ∈ s'.txs.rows, x ∈ s.txs.rows ∧ x.id ≠ tx.id := fun x hx => Table.mem_erase.mp (htxs ▸ hx)
      exact ⟨fun x hx y hy => hinv.lock x (hstay x hx).1 y (hstay y hy).1,
        fun x hx => hothers x (hstay x hx).1 (hstay x hx).2⟩
    · rw [if_neg hdone] at hs; cases hs
  | rollback id =>
    cases h
    have hstay : ∀ x ∈ (s.txs.erase id).rows, x ∈ s.txs.rows := fun x hx => (Table.mem_erase.mp hx).1
    exact ⟨fun x hx y hy => hinv.lock x (hstay x hx) y (hstay y hy),
      fun x hx => (hinv.fits x (hstay x hx)).mono (fun _ _ _ h => h) fun _ _ _ => le_refl _⟩
  | createCoupon coupon =>
    rw [couponStep] at h
    split at h
    · cases h
    · obtain ⟨coupons, hins, hs⟩ := Option.bind_eq_some_iff.mp h
      cases hs
      exact ⟨hinv.lock, fun x hx => (hinv.fits x hx).mono (fun _ _ _ h => Table.get?_insert?_of_some hins h)
        fun _ _ _ => le_refl _⟩
  | orderStatus orderId status =>
    obtain ⟨o, ho, hs⟩ := Option.bind_eq_some_iff.mp h
    split at hs
    · rename_i hallowed
      cases hs
      obtain rfl : o.id = orderId := Table.key_of_get? ho
      refine ⟨hinv.lock, fun x hx => (hinv.fits x hx).mono (fun _ _ _ h => h) fun cid p _ => ?_⟩
      -- no transition makes an order live again
      have halive : status ∈ aliveStatuses → o.status ∈ aliveStatuses := by
        revert hallowed
        cases o.status <;> cases status <;> decide
      have hget : s.orders.get? (Keyed.key { o with status := status }) = some o := ho
      rw [CouponStore.usesWhere, CouponStore.usesWhere]
      refine (Table.total_replace hget _).trans_le ?_
      have hle : (if o.couponId = some cid ∧ status ∈ aliveStatuses ∧ p o.customer = true then (1 : ℤ) else 0)
          ≤ if o.couponId = some cid ∧ o.status ∈ aliveStatuses ∧ p o.customer = true then 1 else 0 := by
        by_cases hnew : o.couponId = some cid ∧ status ∈ aliveStatuses ∧ p o.customer = true
        · rw [if_pos hnew, if_pos ⟨hnew.1, halive hnew.2.1, hnew.2.2⟩]
        · rw [if_neg hnew]
          split <;> decide
      dsimp only
      omega
    · cases hs

theorem coupons_run (h₀ : s₀.txs = .empty) (run : CouponRun L s₀ tr s) (hsees : ∀ t ∈ tr, SeesSameEmail L t) :
    CouponInv L s := by
  induction run with
  | nil =>
    refine ⟨?_, ?_⟩
    · rw [h₀]; rintro x ⟨⟩
    · rw [h₀]; rintro x ⟨⟩
  | cons run hstep ih =>
    exact (ih fun t ht => hsees t (List.mem_cons_of_mem _ ht)).step (hsees _ List.mem_cons_self) hstep

/-- The step commits a checkout with this order. -/
def PlacesOrder (t : Taken CouponStore CouponLabel) (o : CouponOrder) : Prop :=
  ∃ id, t.label = .commit id ∧ ∃ tx ∈ t.pre.txs.get? id, tx.order = some o

/-- The limits in force for the order's coupon, with the order counted. -/
def WithinLimits (L : Lowering) (s : CouponStore) (o : CouponOrder) : Prop :=
  ∀ cid, o.couponId = some cid → ∃ c ∈ s.coupons.get? cid,
    (∀ m ∈ c.terms.maxUsesTotal, s.uses cid ≤ m)
    ∧ ∀ m ∈ c.terms.maxUsesPerCustomer, s.usesWhere cid (L.same o.customer) ≤ m

theorem within_of_places (hinv : CouponInv L s) (h : couponStep L s l = some s') {o : CouponOrder}
    (hplaces : PlacesOrder ⟨s, l, s'⟩ o) : WithinLimits L s' o := by
  obtain ⟨id, rfl, tx, htx, horder⟩ := hplaces
  obtain ⟨tx', htx', hs⟩ := Option.bind_eq_some_iff.mp h
  obtain rfl : tx = tx' := Option.some.inj ((Option.mem_def.mp htx).symm.trans htx')
  by_cases hdone : tx.stage = .done
  swap
  · rw [if_neg hdone] at hs; cases hs
  rw [if_pos hdone] at hs
  obtain ⟨orders, horders, hs⟩ := Option.bind_eq_some_iff.mp hs
  rw [CouponStore.ordersWith, horder] at horders
  obtain ⟨hcoupon, hdeletes, hfits⟩ := (hinv.fits tx (Table.mem_of_get? htx')).order o horder
  cases hs
  intro cid hcid
  obtain ⟨_, c, hget, htotal, hcustomer⟩ := hfits cid hcid
  obtain rfl : c.id = cid := Table.key_of_get? hget
  -- the order counts once, whatever the customer
  have hone (p : Customer → Bool) {s' : CouponStore} (hs' : s'.orders = orders) :
      s'.usesWhere c.id p ≤ 1 + s.usesWhere c.id p := by
    rw [usesWhere_insert? horders c.id p hs']
    split <;> omega
  refine ⟨c, ?_, fun m hm => ?_, fun m hm => ?_⟩
  · show (s.couponsWith tx).get? c.id = some c
    rw [CouponStore.couponsWith, hcoupon, hdeletes]
    exact hget
  · refine (hone _ rfl).trans ?_
    have hlt := htotal m hm
    rw [CouponStore.uses] at hlt
    omega
  · refine (hone _ rfl).trans ?_
    have hlt := hcustomer m hm
    omega

/-- A checkout commits within the limits that its coupon has then. -/
theorem coupon_limits (h₀ : s₀.txs = .empty) (run : CouponRun L s₀ tr s) (hsees : ∀ t ∈ tr, SeesSameEmail L t) :
    ∀ t ∈ tr, ∀ o, PlacesOrder t o → WithinLimits L t.post o := by
  intro t ht o hplaces
  obtain ⟨before, hbefore, hsub⟩ := run.before ht
  exact within_of_places (coupons_run h₀ hbefore fun u hu => hsees u (hsub hu)) (run.taken ht).2 hplaces

end

/-- A coupon that each customer may use once. -/
def welcome : Coupon := ⟨1, "WELCOME", .fixed 500, ⟨true, none, none, 0, some 10, some 1⟩⟩

def welcomeStore : CouponStore := ⟨⟨[welcome], by decide⟩, .empty, .empty, 0⟩

/-- How both write emails in small letters, for the emails used here: `str.lower` ends a word in a final sigma. -/
def greekLowering : Lowering where
  python := fun email => if email = "ΝΙΚΟΣ@example.gr" then "νικος@example.gr" else email
  database := fun email => if email = "ΝΙΚΟΣ@example.gr" then "νικοσ@example.gr" else email

def guestCheckout (email : String) (tx : Nat) (orderId : Id) : List CouponLabel :=
  [.begin (.checkout (.guest email) (some "WELCOME") 5000 0), .statement tx 0 orderId, .statement tx 0 orderId,
   .statement tx 0 orderId, .statement tx 0 orderId, .commit tx]

theorem welcome_used : ∃ tr s, CouponRun greekLowering welcomeStore tr s
    ∧ (∃ t ∈ tr, PlacesOrder t ⟨50, .guest "nikos@example.gr", .pending, some 1⟩)
    ∧ ∀ t ∈ tr, ∀ o, PlacesOrder t o → WithinLimits greekLowering t.post o := by
  obtain ⟨tr, s, run, ⟨t, ht, hl, hplaces⟩, hempty⟩ := exists_exec (couponStep greekLowering) welcomeStore
    (P := fun tr s => (∃ t ∈ tr, t.label = .commit 0
      ∧ ∃ tx ∈ t.pre.txs.get? 0, tx.order = some ⟨50, .guest "nikos@example.gr", .pending, some 1⟩)
      ∧ ∀ t ∈ tr, t.pre.orders.rows = []) (guestCheckout "nikos@example.gr" 0 50) (by decide)
  refine ⟨tr, s, run, ⟨t, ht, 0, hl, hplaces⟩, coupon_limits rfl run ?_⟩
  intro t ht id now newId _ tx _ coupon email code a b _ _ _ o ho
  rw [hempty t ht] at ho
  cases ho

/-- The same guest uses the coupon twice: the count does not see the first order. -/
theorem welcome_used_twice : ∃ tr s, CouponRun greekLowering welcomeStore tr s
    ∧ ∃ t ∈ tr, PlacesOrder t ⟨51, .guest "ΝΙΚΟΣ@example.gr", .pending, some 1⟩
      ∧ ¬WithinLimits greekLowering t.post ⟨51, .guest "ΝΙΚΟΣ@example.gr", .pending, some 1⟩ := by
  obtain ⟨tr, s, run, t, ht, hl, hplaces, hcoupon, htwice⟩ := exists_exec (couponStep greekLowering) welcomeStore
    (P := fun tr s => ∃ t ∈ tr, t.label = .commit 1
      ∧ (∃ tx ∈ t.pre.txs.get? 1, tx.order = some ⟨51, .guest "ΝΙΚΟΣ@example.gr", .pending, some 1⟩)
      ∧ t.post.coupons.get? 1 = some welcome
      ∧ t.post.usesWhere 1 (greekLowering.same (.guest "ΝΙΚΟΣ@example.gr")) = 2)
    (guestCheckout "ΝΙΚΟΣ@example.gr" 0 50 ++ guestCheckout "ΝΙΚΟΣ@example.gr" 1 51) (by decide)
  refine ⟨tr, s, run, t, ht, ⟨1, hl, hplaces⟩, fun hwithin => ?_⟩
  obtain ⟨c, hc, _, hlimit⟩ := hwithin 1 rfl
  obtain rfl : c = welcome := Option.some.inj ((Option.mem_def.mp hc).symm.trans hcoupon)
  have hle := hlimit 1 rfl
  rw [htwice] at hle
  omega

end NovaCart
