import NovaCart.Payouts
import NovaCart.Overlap

/-! Which refund row a provider refund is credited to.

    The provider has refunds the store asked for, each under an idempotency key, and refunds made
    outside it. An event whose refund id no row carries yet is matched to whatever refund of the
    payment is in flight. `Credited` is what holds as long as no refund made outside the store arrives
    in that window: every row carries the id of its own refund, and of no other. -/

namespace NovaCart

open Schemes

variable {cfg : Settings} {s s' s₀ : Sys} {l : Label} {tr : List (Taken Sys Label)}
variable {db db' seen : Db} {e : WebhookEvent}

/-- The provider's refunds: the key each was asked for under, none if it was made outside the store.
    A key is answered with the same refund every time. -/
structure Origins where
  keyOf : String → Option String
  unique : ∀ {x y k}, keyOf x = some k → keyOf y = some k → x = y

/-- The payment an event names, by the provider's payment id or else by its reference. -/
def eventPayment (seen : Db) (e : WebhookEvent) : Option Payment :=
  if e.providerPaymentId ≠ "" then seen.byProviderPaymentId e.providerPaymentId e.provider
  else (truthy e.providerReference).bind fun reference =>
    match seen.byProviderReference reference e.provider with
    | .ok p => p
    | .error _ => none

namespace Origins

variable (o : Origins)

/-- The event does not name its refund; or the store asked for that refund, but it was not handed to
    the provider yet or is not of the payment the event names. -/
def vague (seen : Db) (e : WebhookEvent) : Bool :=
  match e.eventType, truthy e.providerRefundId with
  | .refund _, none => true
  | .refund _, some x =>
    match o.keyOf x with
    | none => false
    | some k => !seen.refunds.rows.any fun r => r.origin = .requested ∧ r.idempotencyKey = k ∧
        0 < r.attempts ∧ (eventPayment seen e).all fun p => p.id = r.paymentId
  | _, _ => false

/-- The provider speaks about its own refunds: the answer to a call names the refund of the call's
    key, and an event is not vague. -/
def truthful (s : Sys) (l : Label) : Bool :=
  match l with
  | .refundAnswer pid report _ =>
    match s.proc? pid with
    | some (.refund a) => (truthy report.providerRefundId).any fun x => o.keyOf x = some a.idempotencyKey
    | _ => true
  | l => !onEvent (fun seen _ e => o.vague seen e) s l

/-- A refund made outside the store, whose id no row carries, is reported while the payment it names
    has a refund of the store in flight. -/
def strays (s : Sys) (l : Label) : Bool :=
  onEvent (fun seen _ e => match e.eventType, truthy e.providerRefundId with
    | .refund _, some x => o.keyOf x = none && (seen.refunds.rows.all fun r => r.providerRefundId ≠ some x) &&
        (eventPayment seen e).any fun p => (seen.activeForPayment p.id).isSome
    | _, _ => false) s l

end Origins

/-- Every refund row is credited with its own provider refund. -/
structure Credited (o : Origins) (db : Db) : Prop where
  own : ∀ r ∈ db.refunds.rows, r.origin = .requested → ∀ x, r.providerRefundId = some x →
    o.keyOf x = some r.idempotencyKey
  foreign : ∀ r ∈ db.refunds.rows, r.origin = .provider → ∃ x, r.providerRefundId = some x ∧
    o.keyOf x = none ∧ r.idempotencyKey = "provider:" ++ x ∧ r.status = .succeeded ∧ r.attempts = 0
  named : ∀ r ∈ db.refunds.rows, r.status.final = true → r.providerRefundId = none →
    r.attempts = 0 ∧ r.status = .failed

/-- A provider refund is on one row at most. -/
theorem Credited.unique {o : Origins} (hc : Credited o db) (hd : Distinct db) {r q : Refund} {x : String}
    (hr : r ∈ db.refunds.rows) (hq : q ∈ db.refunds.rows) (hrx : r.providerRefundId = some x)
    (hqx : q.providerRefundId = some x) : r = q := by
  have hkey : ∀ {r : Refund}, r ∈ db.refunds.rows → r.providerRefundId = some x →
      r.idempotencyKey = (o.keyOf x).getD ("provider:" ++ x) := by
    intro r hr hrx
    cases hro : r.origin with
    | requested => rw [hc.own r hr hro x hrx, Option.getD_some]
    | provider =>
      obtain ⟨y, hy, hnone, hk, _⟩ := hc.foreign r hr hro
      rw [hrx] at hy
      cases hy
      rw [hnone, Option.getD_none, hk]
  exact hd.keys r hr q hq ((hkey hr hrx).trans (hkey hq hqx).symm)

/-! ### The target of an event -/

theorem truthy_eq_some {word : Option String} {x : String} (h : truthy word = some x) : word = some x := by
  unfold truthy at h
  split at h
  · split at h
    · cases h
    · exact h
  · cases h

theorem byProviderRefundId_none {x : String} (h : db.byProviderRefundId x = .ok none) :
    ∀ r ∈ db.refunds.rows, r.providerRefundId ≠ some x := by
  unfold Db.byProviderRefundId at h
  split at h
  · rename_i hrows
    intro r hr hx
    have hmem : r ∈ db.refunds.rows.filter fun r => r.providerRefundId = some x :=
      List.mem_filter.mpr ⟨hr, decide_eq_true hx⟩
    rw [hrows] at hmem
    cases hmem
  · cases h
  · cases h

/-- An event with an id no refund carries goes to the refund in flight of the payment it names; without
    such a payment it is recorded on none. -/
theorem refundTarget_unknown {target : RefundTarget} (h : refundTarget seen e = .ok target)
    (hunknown : ∀ x, truthy e.providerRefundId = some x → seen.byProviderRefundId x = .ok none) :
    (target.refund = (eventPayment seen e).bind fun p => seen.activeForPayment p.id) ∧
      (eventPayment seen e = none → externalTarget seen e target.providerPaymentId = none) := by
  rw [refundTarget_of_unknown hunknown] at h
  simp only [refundTarget, truthy] at h
  obtain ⟨_, hnone, h⟩ := bind_ok h
  cases hnone
  unfold eventPayment
  dsimp only at h
  split at h
  · rename_i hppid
    rw [if_pos hppid]
    cases hp : seen.byProviderPaymentId e.providerPaymentId e.provider with
    | none =>
      rw [hp] at h
      cases h
      exact ⟨rfl, fun _ => by simp [externalTarget, hp]⟩
    | some p =>
      rw [hp] at h
      cases h
      exact ⟨rfl, fun hno => by cases hno⟩
  · rename_i hppid
    rw [if_neg hppid]
    have hempty : externalTarget seen e e.providerPaymentId = none := by
      unfold externalTarget
      exact if_neg fun hc => hppid hc.2
    split at h
    · rename_i hnone
      rw [show truthy e.providerReference = none from hnone]
      cases h
      exact ⟨rfl, fun _ => hempty⟩
    · rename_i reference href
      rw [show truthy e.providerReference = some reference from href, Option.bind_some]
      obtain ⟨found, hfound, h⟩ := bind_ok h
      rw [hfound]
      cases found with
      | none =>
        cases h
        exact ⟨rfl, fun _ => hempty⟩
      | some p =>
        cases h
        exact ⟨rfl, fun hno => by cases hno⟩

theorem activeForPayment_of_inFlight (hd : Distinct db) {r : Refund} (hr : r ∈ db.refunds.rows)
    (horigin : r.origin = .requested) (hflight : r.status.inFlight = true) :
    db.activeForPayment r.paymentId = some r := by
  obtain ⟨q, hq⟩ : ∃ q, db.activeForPayment r.paymentId = some q := by
    refine Option.isSome_iff_exists.mp (List.find?_isSome.mpr ⟨r, hr, ?_⟩)
    simp [horigin, hflight]
  have hmem := List.mem_of_find?_eq_some hq
  have hfound := List.find?_some hq
  rw [decide_eq_true_eq] at hfound
  obtain ⟨hpid, hqo, hqs⟩ := hfound
  rw [hq, hd.inFlight q hmem r hr hpid hqo horigin hqs hflight]

/-- An event about a refund the store asked for reaches that refund, unless the store knows neither the
    id nor a payment the event names. -/
theorem Credited.target {o : Origins} (hc : Credited o seen) (hd : Distinct seen) {target : RefundTarget}
    {x : String} {r : Refund} (h : refundTarget seen e = .ok target)
    (hx : truthy e.providerRefundId = some x) (hr : r ∈ seen.refunds.rows)
    (horigin : r.origin = .requested) (hkey : o.keyOf x = some r.idempotencyKey)
    (hcount : 0 < r.attempts) (hpid : ∀ p, eventPayment seen e = some p → p.id = r.paymentId) :
    target.refund = some r ∨ (target.refund = none ∧ eventPayment seen e = none ∧
      externalTarget seen e target.providerPaymentId = none) := by
  rcases refundTarget_ok h with ⟨y, q, hy, hknown, rfl⟩ | ⟨hunknown, _⟩
  · -- the id is known: it is on the refund of its key
    rw [hx] at hy
    cases hy
    obtain ⟨hq, hqx⟩ := byProviderRefundId_some hknown
    have hqo : q.origin = .requested := by
      cases hqo : q.origin with
      | requested => rfl
      | provider =>
        obtain ⟨z, hz, hnone, _⟩ := hc.foreign q hq hqo
        rw [hqx] at hz
        cases hz
        rw [hkey] at hnone
        cases hnone
    have hqk := hc.own q hq hqo x hqx
    rw [hkey] at hqk
    rw [hd.keys r hr q hq (Option.some.inj hqk)]
    exact .inl rfl
  obtain ⟨hrefund, hext⟩ := refundTarget_unknown h hunknown
  cases hp : eventPayment seen e with
  | none => exact .inr ⟨by rw [hrefund, hp]; rfl, rfl, hext hp⟩
  | some p =>
    -- nobody carries the id: the refund has none yet, so it is not final and in flight
    have hrx : r.providerRefundId = none := by
      cases hrp : r.providerRefundId with
      | none => rfl
      | some y =>
        have hyx := o.unique (hc.own r hr horigin y hrp) hkey
        rw [hyx] at hrp
        exact absurd hrp (byProviderRefundId_none (hunknown x hx) r hr)
    have hflight : r.status.inFlight = true := by
      cases hst : r.status with
      | requested => rfl
      | pending => rfl
      | uncertain => rfl
      | succeeded => exact absurd (hc.named r hr (by rw [hst]; rfl) hrx).1 hcount.ne'
      | failed => exact absurd (hc.named r hr (by rw [hst]; rfl) hrx).1 hcount.ne'
    left
    rw [hrefund, hp, Option.bind_some, hpid p hp]
    exact activeForPayment_of_inFlight hd hr horigin hflight

theorem refundTarget_mem {target : RefundTarget} {refund : Refund} (h : refundTarget seen e = .ok target)
    (hrefund : target.refund = some refund) : refund ∈ seen.refunds.rows := by
  rcases refundTarget_ok h with ⟨_, q, _, hknown, rfl⟩ | ⟨_, rfl | ⟨p, _, _, rfl⟩⟩
  · cases hrefund
    exact (byProviderRefundId_some hknown).1
  · cases hrefund
  · exact List.mem_of_find?_eq_some hrefund

/-! ### What a report is about -/

variable {o : Origins} {suffix : String}

theorem truthful_event (hh : Handling s l e seen) (htype : e.eventType = .refund suffix)
    (ht : o.truthful s l = true) : ∃ x, truthy e.providerRefundId = some x ∧
      ∀ k, o.keyOf x = some k → ∃ r ∈ seen.refunds.rows, r.origin = .requested ∧
        r.idempotencyKey = k ∧ 0 < r.attempts ∧ ∀ p, eventPayment seen e = some p → p.id = r.paymentId := by
  have hno : onEvent (fun seen _ e => o.vague seen e) s l = false := by
    rcases hh with ⟨pid, newId, now, rfl, _⟩ | ⟨pid, newId, now, row, rfl, _, _⟩
    · simpa [Origins.truthful] using ht
    · simpa [Origins.truthful] using ht
  rw [hh.onEvent] at hno
  unfold Origins.vague at hno
  rw [htype] at hno
  cases hx : truthy e.providerRefundId with
  | none => simp [hx] at hno
  | some x =>
    refine ⟨x, rfl, fun k hk => ?_⟩
    simp only [hx, hk, Bool.not_eq_false', List.any_eq_true, decide_eq_true_eq] at hno
    obtain ⟨r, hr, horigin, hkey, hcount, hall⟩ := hno
    refine ⟨r, hr, horigin, hkey, hcount, fun p hp => ?_⟩
    simpa [hp] using hall

theorem not_strays (hh : Handling s l e seen) (htype : e.eventType = .refund suffix)
    (hs : o.strays s l = false) {x : String} (hx : truthy e.providerRefundId = some x)
    (hnone : o.keyOf x = none) {target : RefundTarget} {r : Refund}
    (htarget : refundTarget seen e = .ok target) (hr : target.refund = some r) :
    r.providerRefundId = some x := by
  rcases refundTarget_ok htarget with ⟨y, q, hy, hknown, rfl⟩ | ⟨hunknown, _⟩
  · rw [hx] at hy
    cases hy
    cases hr
    exact (byProviderRefundId_some hknown).2
  · -- the id is on no row, so the payment has nothing in flight
    rw [(refundTarget_unknown htarget hunknown).1] at hr
    obtain ⟨p, hp, hactive⟩ := Option.bind_eq_some_iff.mp hr
    have hall : (seen.refunds.rows.all fun r => decide (r.providerRefundId ≠ some x)) = true :=
      List.all_eq_true.mpr fun q hq => decide_eq_true (byProviderRefundId_none (hunknown x hx) q hq)
    unfold Origins.strays at hs
    rw [hh.onEvent] at hs
    simp only [htype, hx, hnone, hall, hp, hactive, decide_true, Bool.true_and, Option.any_some,
      Option.isSome_some] at hs
    cases hs

/-- What the handlers of a step rely on: the states they read were credited, and their refunds are
    still there. -/
structure Sighted (o : Origins) (s : Sys) (l : Label) : Prop where
  credited : ∀ e seen, Handling s l e seen → Credited o seen
  distinct : ∀ e seen, Handling s l e seen → Distinct seen
  grown : ∀ e seen, Handling s l e seen → Table.Kept Refund.Grows seen.refunds s.db.refunds
  calls : ∀ pid a, s.proc? pid = some (.refund a) → a.Of s.db

/-- A report that is applied to a refund of the store is about that refund. -/
theorem reported_id (hsight : Sighted o s l) (htrue : o.truthful s l = true)
    (hstray : o.strays s l = false) {r : Refund} {t : RefundReport} (hr : r ∈ s.db.refunds.rows)
    (hcause : Reports s l r.id t) : ∃ x, truthy t.providerRefundId = some x ∧
      (r.origin = .requested → o.keyOf x = some r.idempotencyKey) := by
  have hget : s.db.refunds.get? r.id = some r := Table.get?_of_mem hr
  cases hcause with
  | answer hl hproc hid =>
    rename_i pid now a
    obtain ⟨r', hr', _, hkey, _⟩ := hsight.calls pid a hproc
    rw [hid, hget] at hr'
    cases hr'
    subst hl
    have hany : ((truthy t.providerRefundId).any fun x => o.keyOf x = some a.idempotencyKey) = true := by
      simpa [Origins.truthful, hproc] using htrue
    obtain ⟨x, hx, hk⟩ := (Option.any_eq_true _ _).mp hany
    exact ⟨x, hx, fun _ => by rw [of_decide_eq_true hk, hkey]⟩
  | event hh htype htarget hrefund hid ht =>
    rename_i e seen suffix target refund
    subst ht
    obtain ⟨x, hx, hown⟩ := truthful_event hh htype htrue
    refine ⟨x, hx, fun horigin => ?_⟩
    have hmem := refundTarget_mem htarget hrefund
    obtain ⟨r', hr', hgrows⟩ := hsight.grown e seen hh refund.id refund (Table.get?_of_mem hmem)
    rw [hid, hget] at hr'
    cases hr'
    have hc := hsight.credited e seen hh
    cases hk : o.keyOf x with
    | none =>
      have hrx := not_strays hh htype hstray hx hk htarget hrefund
      have horigin' : refund.origin = .requested := hgrows.origin.symm.trans horigin
      rw [hc.own refund hmem horigin' x hrx] at hk
      cases hk
    | some k =>
      obtain ⟨q, hq, hqo, hqk, hcount, hpid⟩ := hown k hk
      rcases hc.target (hsight.distinct e seen hh) htarget hx hq hqo (by rw [hqk]; exact hk)
        hcount hpid with hsame | ⟨hnone, _⟩
      · rw [hrefund] at hsame
        cases hsame
        rw [hgrows.idempotencyKey, hqk]
      · rw [hrefund] at hnone
        cases hnone

theorem RefundReport.named {t : RefundReport} {r : Refund} {c : RefundPatch}
    (hc : c.providerRefundId = t.newRefundId r) :
    (r.patch c).providerRefundId = r.providerRefundId.or (truthy t.providerRefundId) := by
  cases hrp : r.providerRefundId with
  | none => simp [Refund.patch, hc, RefundReport.newRefundId, hrp]
  | some x => simp [Refund.patch, hc, RefundReport.newRefundId, hrp]

/-- Where the id on a refund comes from after a move. -/
theorem RefundMove.id_cases {r r' : Refund} (h : RefundMove cfg s l r r') :
    r'.providerRefundId = r.providerRefundId ∨ ∃ t, Reports s l r.id t ∧
      r'.providerRefundId = r.providerRefundId.or (truthy t.providerRefundId) := by
  cases h with
  | same h => exact .inl (by rw [h])
  | attempted _ _ _ h => exact .inl (by rw [h]; rfl)
  | blocked _ _ _ _ h => exact .inl (by rw [h]; rfl)
  | uncertain _ _ _ _ _ h => exact .inl (by rw [h]; rfl)
  | saved hcause _ hprid _ h =>
    rw [h]
    exact .inr ⟨_, hcause, RefundReport.named hprid⟩
  | confirmed hcause _ _ h =>
    rw [h]
    exact .inr ⟨_, hcause, RefundReport.named rfl⟩

/-- A refund becomes final through a report, or fails before it was ever handed out. -/
theorem RefundMove.final_cases {r r' : Refund} (h : RefundMove cfg s l r r')
    (hfinal : r'.status.final = true) :
    (r.status.final = true ∧ r'.status = r.status) ∨
      (r.attempts = 0 ∧ r'.attempts = 0 ∧ r'.status = .failed) ∨
      ∃ t, Reports s l r.id t ∧
        r'.providerRefundId = r.providerRefundId.or (truthy t.providerRefundId) ∧
        (r'.status = .succeeded ∧ t.status = some "succeeded" ∨
          r'.status = .failed ∧ t.saysFailed = true) := by
  cases h with
  | same h =>
    rw [h] at hfinal ⊢
    exact .inl ⟨hfinal, rfl⟩
  | attempted _ _ _ h =>
    rw [h] at hfinal ⊢
    exact .inl ⟨hfinal, rfl⟩
  | blocked _ _ _ hfirst h =>
    rw [h]
    exact .inr (.inl ⟨hfirst, hfirst, rfl⟩)
  | uncertain _ _ _ _ _ h =>
    rw [h] at hfinal
    cases hfinal
  | saved hcause hstatus hprid hattempts h =>
    rename_i t c
    rw [h] at hfinal ⊢
    rcases hstatus with hnone | ⟨hopen, ⟨hc, hword⟩ | ⟨hc, _⟩⟩
    · have hsame : (r.patch c).status = r.status := by simp [Refund.patch, hnone]
      rw [hsame] at hfinal ⊢
      exact .inl ⟨hfinal, rfl⟩
    · exact .inr (.inr ⟨t, hcause, RefundReport.named hprid,
        .inr ⟨by simp [Refund.patch, hc], decide_eq_true hword⟩⟩)
    · simp [Refund.patch, hc, RefundStatus.final] at hfinal
  | confirmed hcause hopen hs h =>
    rw [h]
    exact .inr (.inr ⟨_, hcause, RefundReport.named rfl, .inl ⟨rfl, hs⟩⟩)

/-- An event that reaches no refund and names a payment is about a refund made outside the store. -/
theorem external_foreign (hsight : Sighted o s l) (htrue : o.truthful s l = true)
    (hh : Handling s l e seen) (htype : e.eventType = .refund suffix) {target : RefundTarget}
    (htarget : refundTarget seen e = .ok target) (hnone : target.refund = none) {p : Payment} {x : String}
    (hext : externalTarget seen e target.providerPaymentId = some (p, x)) : o.keyOf x = none := by
  obtain ⟨y, hy, hown⟩ := truthful_event hh htype htrue
  have hx := (externalTarget_some hext).2.2
  rw [hy] at hx
  cases hx
  cases hk : o.keyOf x with
  | none => rfl
  | some k =>
    obtain ⟨q, hq, hqo, hqk, hcount, hpid⟩ := hown k hk
    rcases (hsight.credited e seen hh).target (hsight.distinct e seen hh) htarget hy hq hqo
      (by rw [hqk]; exact hk) hcount hpid with hsame | ⟨_, _, hno⟩
    · rw [hsame] at hnone
      cases hnone
    · rw [hno] at hext
      cases hext

/-- A refund recorded in a step was made outside the store. -/
theorem Recorded.foreign {r : Refund} {p : Payment} {x : String} (h : Recorded s l r e p x)
    (hsight : Sighted o s l) (htrue : o.truthful s l = true) : o.keyOf x = none := by
  obtain ⟨seen, target, suffix, hh, htype, htarget, hnone, hext⟩ := h.handling
  exact external_foreign hsight htrue hh htype htarget hnone hext

theorem step_credited (h : step cfg s l = some s') (hc : Credited o s.db) (hsight : Sighted o s l)
    (htrue : o.truthful s l = true) (hstray : o.strays s l = false) : Credited o s'.db := by
  refine ⟨fun r' hr' horigin x hx => ?_, fun r' hr' horigin => ?_, fun r' hr' hfinal hnone => ?_⟩
  · rcases step_refund h hr' with ⟨r, hr, _, hmove⟩ | ⟨_, hreq | ⟨_, _, _, hrec⟩⟩
    · have hgrows := hmove.grows
      have horigin' : r.origin = .requested := hgrows.origin.symm.trans horigin
      rw [hgrows.idempotencyKey]
      rcases hmove.id_cases with hsame | ⟨t, hcause, hid⟩
      · exact hc.own r hr horigin' x (hsame ▸ hx)
      · cases hrp : r.providerRefundId with
        | some y =>
          rw [hid, hrp] at hx
          exact hc.own r hr horigin' x (hrp.trans hx)
        | none =>
          obtain ⟨y, hy, hown⟩ := reported_id hsight htrue hstray hr hcause
          rw [hid, hrp, hy] at hx
          cases hx
          exact hown horigin'
    · rw [hreq.providerRefundId] at hx
      cases hx
    · obtain ⟨_, hrow⟩ := hrec.row
      rw [hrow.origin] at horigin
      cases horigin
  · rcases step_refund h hr' with ⟨r, hr, _, hmove⟩ | ⟨_, hreq | ⟨_, _, prid, hrec⟩⟩
    · obtain ⟨x, hx, hnone, hkey, hst, hzero⟩ := hc.foreign r hr (hmove.grows.origin.symm.trans horigin)
      refine ⟨x, hmove.grows.named x hx, hnone, hmove.grows.idempotencyKey.trans hkey, ?_, ?_⟩
      swap
      · rcases hmove.counts with hcount | ⟨_, hreq, _⟩
        · rw [hcount, hzero]
        · rw [hst] at hreq
          cases hreq
      obtain ⟨r'', hr'', hsame⟩ := (step_evolves h).refunds r.id r (Table.get?_of_mem hr)
      have hget : s'.db.refunds.get? r'.id = some r' := Table.get?_of_mem hr'
      rw [hmove.grows.id, hr''] at hget
      cases hget
      rw [hsame.final (by rw [hst]; rfl), hst]
    · rw [hreq.origin] at horigin
      cases horigin
    · obtain ⟨_, hrow⟩ := hrec.row
      exact ⟨prid, hrow.providerRefundId, hrec.foreign hsight htrue, hrow.idempotencyKey, hrow.status,
        hrow.attempts⟩
  · rcases step_refund h hr' with ⟨r, hr, _, hmove⟩ | ⟨_, hreq | ⟨_, _, _, hrec⟩⟩
    · rcases hmove.final_cases hfinal with ⟨hbefore, hst⟩ | ⟨_, hzero, hst⟩ | ⟨t, hcause, hid, _⟩
      · have hrp : r.providerRefundId = none := by
          cases hrp : r.providerRefundId with
          | none => rfl
          | some x =>
            rw [hmove.grows.named x hrp] at hnone
            cases hnone
        obtain ⟨hzero, hfailed⟩ := hc.named r hr hbefore hrp
        refine ⟨?_, hst.trans hfailed⟩
        rcases hmove.counts with hcount | ⟨_, hreq, _⟩
        · rw [hcount, hzero]
        · rw [hreq] at hfailed
          cases hfailed
      · exact ⟨hzero, hst⟩
      · obtain ⟨y, hy, _⟩ := reported_id hsight htrue hstray hr hcause
        rw [hid, hy] at hnone
        cases hrp : r.providerRefundId with
        | none => rw [hrp] at hnone; cases hnone
        | some z => rw [hrp] at hnone; cases hnone
    · rw [hreq.status] at hfinal
      cases hfinal
    · obtain ⟨_, hrow⟩ := hrec.row
      rw [hrow.providerRefundId] at hnone
      cases hnone

/-! ### What a handled report leaves behind -/

variable {now : Time}

/-- The records that stand for a refund the store cannot put on a row. -/
def refundRecordKeys (x : String) : List DedupeKey :=
  [⟨.externalRefundInvalid, x⟩, ⟨.externalRefundExceeds, x⟩, unknownRefundKey (some x)]

/-- A row carries the refund and has come to an end. -/
def Db.holdsRefund (db : Db) (x : String) : Prop :=
  ∃ r ∈ db.refunds.rows, r.providerRefundId = some x ∧ r.status.final = true

/-- A report of success ends the refund it is applied to, and names it. -/
theorem applyRefundState_succeeded {r : Refund} {t : RefundReport} {loaded : Option Payment}
    (hr : db.refunds.get? r.id = some r) (h : applyRefundState db r t loaded now = .ok db')
    (hs : t.status = some "succeeded") :
    ∃ r' ∈ db'.refunds.rows, r'.providerRefundId = r.providerRefundId.or (truthy t.providerRefundId) ∧
      r'.status.final = true := by
  have hr₁ : (afterMismatch db r t).refunds.get? r.id = some r := by
    rw [afterMismatch_refunds]
    exact hr
  have hmem : ∀ {c : RefundPatch} {db' : Db}, saveRefund (afterMismatch db r t) r c = .ok db' →
      r.patch c ∈ db'.refunds.rows := by
    intro c db' hsave
    rw [saveRefund_refunds hr₁ hsave]
    exact Table.mem_of_get? (Table.get?_replace_self hr₁)
  unfold applyRefundState at h
  dsimp only at h
  split at h
  · rename_i hfinal
    exact ⟨_, hmem h, RefundReport.named rfl, hfinal⟩
  · obtain ⟨db₁, hsave, hconfirm⟩ := bind_ok h
    obtain ⟨_, _, _, _, _, href⟩ := confirmRefund_money hconfirm
    rw [href]
    exact ⟨_, hmem hsave, RefundReport.named rfl, rfl⟩

/-- Whether the transaction of the step applies its event. -/
def commits (cfg : Settings) (s : Sys) : Label → Bool
  | .process pid newId now =>
    match s.proc? pid with
    | some (.delivery e seen) =>
      (processWebhookEvent cfg seen (markWebhookVerified s.db e.configId) e newId now).isOk
    | _ => false
  | .recoverCommit pid newId now =>
    match s.proc? pid with
    | some (.recovery row seen) =>
      (seen.byProviderPaymentId row.providerPaymentId row.provider).isSome &&
        (applyDeferredEvent cfg seen s.db row.rebuild newId now).isOk
    | _ => false
  | _ => false

/-- The handler of refund events ran between the two databases. -/
structure HandledRefund (cfg : Settings) (seen : Db) (e : WebhookEvent) (a b db db' : Db) (newId : Id)
    (now : Time) : Prop where
  run : handleRefundEvent cfg seen a e newId now = .ok b
  refundsBefore : a.refunds = db.refunds
  ordersBefore : a.orders = db.orders
  refundsAfter : db'.refunds = b.refunds
  ordersAfter : db'.orders = b.orders
  filed : ∀ k, b.filed k → db'.filed k

theorem Handling.commits_cases (hh : Handling s l e seen) (htype : e.eventType = .refund suffix)
    (h : step cfg s l = some s') :
    (commits cfg s l = true ∧ ∃ a b newId now, HandledRefund cfg seen e a b s.db s'.db newId now) ∨
      (commits cfg s l = false ∧ s'.db.orders = s.db.orders) := by
  rcases hh with ⟨pid, newId, now, rfl, hproc⟩ | ⟨pid, newId, now, row, rfl, hproc, rfl⟩
  · simp only [step, hproc, Option.some.injEq] at h
    simp only [commits, hproc]
    unfold process at h
    cases hok : processWebhookEvent cfg seen (markWebhookVerified s.db e.configId) e newId now with
    | error err =>
      rw [hok] at h
      subst h
      exact .inr ⟨rfl, rfl⟩
    | ok db' =>
      rw [hok] at h
      subst h
      obtain ⟨db₁, h₁, hfinish⟩ := processWebhookEvent_ok hok
      have hmark := markWebhookVerified_within s.db e.configId
      have hwrite : Within [.event] db₁ db' := Within.one hfinish (by simp)
      unfold handleEvent at h₁
      rw [htype] at h₁
      exact .inl ⟨rfl, _, db₁, newId, now, h₁, hmark.refunds (by simp) (by simp),
        hmark.orders (by simp) (by simp) (by simp), hwrite.refunds (by simp) (by simp),
        hwrite.orders (by simp) (by simp) (by simp), fun k hk => filed_of_kept (Within.records_kept hwrite) hk⟩
  · simp only [step, hproc, Option.some.injEq] at h
    subst h
    simp only [commits, hproc, recoverRow]
    cases hpay : seen.byProviderPaymentId row.providerPaymentId row.provider with
    | none => exact .inr ⟨rfl, rfl⟩
    | some p =>
      cases hok : applyDeferredEvent cfg seen s.db row.rebuild newId now with
      | error err => exact .inr ⟨rfl, rfl⟩
      | ok db₁ =>
        have hres := resolveRecovered_within (recoveredKeys row) { db₁ with
          deferred := db₁.deferred.replace
            { row with attempts := row.attempts + 1, status := .recovered } }
        unfold applyDeferredEvent at hok
        rw [htype] at hok
        exact .inl ⟨rfl, s.db, db₁, newId, now, hok, rfl, rfl, hres.refunds (by simp) (by simp),
          hres.orders (by simp) (by simp) (by simp), fun k hk => filed_of_kept hres.records_kept hk⟩

/-- The refund an event reaches carries no other refund's id. -/
theorem reached_unnamed (hc : Credited o s.db) (hsight : Sighted o s l) (htrue : o.truthful s l = true)
    (hstray : o.strays s l = false) (hh : Handling s l e seen) (htype : e.eventType = .refund suffix)
    {x : String} (hx : truthy e.providerRefundId = some x) {target : RefundTarget} {refund r : Refund}
    (htarget : refundTarget seen e = .ok target) (hrefund : target.refund = some refund)
    (hr : s.db.refunds.get? refund.id = some r) : r.providerRefundId.or (some x) = some x := by
  cases hrp : r.providerRefundId with
  | none => rfl
  | some y =>
    have hid : r.id = refund.id := Table.key_of_get? hr
    have hmem := Table.mem_of_get? hr
    obtain ⟨z, hz, hown⟩ := reported_id hsight htrue hstray hmem
      (.event hh htype htarget hrefund hid.symm rfl)
    have hzx : truthy e.providerRefundId = some z := hz
    rw [hx] at hzx
    cases hzx
    cases horigin : r.origin with
    | requested => rw [Option.some_or, o.unique (hc.own r hmem horigin y hrp) (hown horigin)]
    | provider =>
      -- a row the provider made is reached by its id only
      have hseen := refundTarget_mem htarget hrefund
      obtain ⟨r', hr', hgrows⟩ := hsight.grown e seen hh refund.id refund (Table.get?_of_mem hseen)
      rw [hr] at hr'
      cases hr'
      rcases refundTarget_ok htarget with ⟨w, q, hw, hknown, rfl⟩ | ⟨_, rfl | ⟨p, _, _, rfl⟩⟩
      · rw [hx] at hw
        cases hw
        cases hrefund
        have hnamed := hgrows.named x (byProviderRefundId_some hknown).2
        rw [hrp] at hnamed
        rw [Option.some_or, hnamed]
      · cases hrefund
      · have hactive := List.find?_some hrefund
        rw [decide_eq_true_eq] at hactive
        rw [hgrows.origin, hactive.2.1] at horigin
        cases horigin

/-- Nothing tells the store which payment the event is about. -/
def unplaced (s : Sys) (l : Label) : Bool := onEvent (fun seen _ e => (eventPayment seen e).isNone) s l

/-- A committed report of a succeeded refund ends on a row or, unless it is about a refund of the store
    on a payment the event names, on a record. -/
theorem event_accounted (hc : Credited o s.db) (hsight : Sighted o s l) (htrue : o.truthful s l = true)
    (hstray : o.strays s l = false) (h : step cfg s l = some s') (hh : Handling s l e seen)
    (htype : e.eventType = .refund suffix) (hcommit : commits cfg s l = true)
    (hs : e.refundStatus = some "succeeded") {x : String} (hx : truthy e.providerRefundId = some x) :
    s'.db.holdsRefund x ∨ ((o.keyOf x = none ∨ unplaced s l = true) ∧
      ∃ k ∈ refundRecordKeys x, s'.db.filed k) := by
  rcases hh.commits_cases htype h with ⟨_, a, b, newId, now, hrun⟩ | ⟨hno, _⟩
  swap
  · rw [hcommit] at hno
    cases hno
  have hholds : b.holdsRefund x → s'.db.holdsRefund x := by
    unfold Db.holdsRefund
    rw [hrun.refundsAfter]
    exact id
  obtain ⟨target, htarget, ⟨refund, locked, hrefund, hlocked, happly⟩ | ⟨hnone, p, prid, hext, hrecord⟩ |
    ⟨hnone, hext, hb⟩⟩ := handleRefundEvent_ok hrun.run
  · have hid : locked.id = refund.id := Table.key_of_get? hlocked
    obtain ⟨r', hr', hnamed, hfinal⟩ := applyRefundState_succeeded (by rw [hid]; exact hlocked) happly hs
    rw [hrun.refundsBefore] at hlocked
    refine .inl (hholds ⟨r', hr', ?_, hfinal⟩)
    rw [hnamed, show truthy e.report.providerRefundId = some x from hx]
    exact reached_unnamed hc hsight htrue hstray hh htype hx htarget hrefund hlocked
  · have hprid := (externalTarget_some hext).2.2
    rw [hx] at hprid
    cases hprid
    have hforeign := external_foreign hsight htrue hh htype htarget hnone hext
    obtain ⟨known, hknown, ⟨hne, rfl⟩ | ⟨_, tag, htag, rfl⟩ | ⟨_, _, row, db₁, db₂, h₁, hrow, h₂, rfl⟩⟩ :=
      recordExternalRefund_ok hrecord
    · -- it is on a row already, which cannot be one of the store's own
      obtain ⟨r, rfl⟩ := Option.ne_none_iff_exists'.mp hne
      obtain ⟨hr, hrx⟩ := byProviderRefundId_some hknown
      refine .inl (hholds ⟨r, hr, hrx, ?_⟩)
      rw [hrun.refundsBefore] at hr
      cases horigin : r.origin with
      | requested =>
        rw [hc.own r hr horigin x hrx] at hforeign
        cases hforeign
      | provider =>
        obtain ⟨_, _, _, _, hst, _⟩ := hc.foreign r hr horigin
        rw [hst]
        rfl
    · refine .inr ⟨.inl hforeign, ⟨tag, x⟩, ?_, hrun.filed _ ((record_filed _ _).mpr (.inr rfl))⟩
      rcases htag with rfl | rfl <;> simp [refundRecordKeys]
    · refine .inl (hholds ⟨row, ?_, hrow.providerRefundId, by rw [hrow.status]; rfl⟩)
      obtain ⟨_, _, _, _, _, t, ht, rfl⟩ := insertRefund_ok h₁
      obtain ⟨old, hold, _, rfl⟩ := updatePayment_ok h₂
      simp only [reconcile, record_refunds]
      exact (Table.mem_insert? ht).mpr (.inl rfl)
  · refine .inr ⟨?_, unknownRefundKey (some x), by simp [refundRecordKeys], hrun.filed _ ?_⟩
    · cases hk : o.keyOf x with
      | none => exact .inl rfl
      | some k =>
        obtain ⟨y, hy, hown⟩ := truthful_event hh htype htrue
        rw [hx] at hy
        cases hy
        obtain ⟨q, hq, hqo, hqk, hcount, hpid⟩ := hown k hk
        rcases (hsight.credited e seen hh).target (hsight.distinct e seen hh) htarget hx hq hqo
          (by rw [hqk]; exact hk) hcount hpid with hsame | ⟨_, hno, _⟩
        · rw [hsame] at hnone
          cases hnone
        · right
          unfold unplaced
          rw [hh.onEvent, hno]
          rfl
    · rw [hb, truthy_eq_some hx]
      exact (record_filed _ _).mpr (.inr rfl)

theorem answer_accounted (hc : Credited o s.db) (hsight : Sighted o s l) (htrue : o.truthful s l = true)
    (hstray : o.strays s l = false) {pid : Id} {report : RefundReport} {a : RefundAttempt}
    (hl : l = .refundAnswer pid report now) (hproc : s.proc? pid = some (.refund a))
    (hok : finishRefund s.db a.refundId report now = .ok db') (hs : report.status = some "succeeded")
    {x : String} (hx : truthy report.providerRefundId = some x) : db'.holdsRefund x := by
  obtain ⟨r, hr, hcount, _⟩ := hsight.calls pid a hproc
  have hid : r.id = a.refundId := Table.key_of_get? hr
  have hmem := Table.mem_of_get? hr
  unfold finishRefund at hok
  rw [hr] at hok
  obtain ⟨r', hr', hnamed, hfinal⟩ := applyRefundState_succeeded (by rw [hid]; exact hr) hok hs
  refine ⟨r', hr', ?_, hfinal⟩
  rw [hnamed, hx]
  cases hrp : r.providerRefundId with
  | none => rfl
  | some y =>
    obtain ⟨z, hz, hown⟩ := reported_id hsight htrue hstray hmem (.answer hl hproc hid.symm)
    rw [hx] at hz
    cases hz
    cases horigin : r.origin with
    | requested => rw [Option.some_or, o.unique (hc.own r hmem horigin y hrp) (hown horigin)]
    | provider =>
      obtain ⟨_, _, _, _, _, hzero⟩ := hc.foreign r hmem horigin
      exact absurd hzero hcount.ne'

/-- An event about a refund made outside the store moves no order. -/
theorem foreign_orders (hc : Credited o s.db) (hsight : Sighted o s l) (hstray : o.strays s l = false)
    (h : step cfg s l = some s') (hh : Handling s l e seen) (htype : e.eventType = .refund suffix)
    {x : String} (hx : truthy e.providerRefundId = some x) (hnone : o.keyOf x = none) :
    s'.db.orders = s.db.orders := by
  rcases hh.commits_cases htype h with ⟨_, a, b, newId, now, hrun⟩ | ⟨_, hsame⟩
  swap
  · exact hsame
  rw [hrun.ordersAfter, ← hrun.ordersBefore]
  obtain ⟨target, htarget, ⟨refund, locked, hrefund, hlocked, happly⟩ | ⟨_, p, prid, hext, hrecord⟩ |
    ⟨_, _, rfl⟩⟩ := handleRefundEvent_ok hrun.run
  · -- the row carries the id, so it is a recorded one, which is final
    have hseen := refundTarget_mem htarget hrefund
    have hrx := not_strays hh htype hstray hx hnone htarget hrefund
    obtain ⟨r', hr', hgrows⟩ := hsight.grown e seen hh refund.id refund (Table.get?_of_mem hseen)
    rw [hrun.refundsBefore] at hlocked
    obtain rfl : r' = locked := Option.some.inj (hr'.symm.trans hlocked)
    have hmem := Table.mem_of_get? hr'
    have hnamed := hgrows.named x hrx
    have hfinal : r'.status.final = true := by
      cases horigin : r'.origin with
      | requested =>
        rw [hc.own r' hmem horigin x hnamed] at hnone
        cases hnone
      | provider =>
        obtain ⟨_, _, _, _, hst, _⟩ := hc.foreign r' hmem horigin
        rw [hst]
        rfl
    unfold applyRefundState at happly
    simp only [hfinal, if_true] at happly
    have hsave := (saveRefund_within happly).orders (by simp) (by simp) (by simp)
    rw [hsave]
    exact (reconcileIf_within (by decide) (by rfl) ..).orders (by simp) (by simp) (by simp)
  · exact (recordExternalRefund_within hrecord).orders (by simp) (by simp) (by simp)
  · have hdefer := deferIfPaymentUnknown_within cfg a
      { e with providerPaymentId := target.providerPaymentId } now
    exact (reconcile_within (by decide) (by rfl) ..).orders (by simp) (by simp) (by simp) |>.trans
      (hdefer.orders (by simp) (by simp) (by simp))

/-! ### Runs -/

/-- Every step of the run is one the provider speaks the truth in, and none lets a refund made outside
    the store meet one in flight. -/
structure Origins.Kept (o : Origins) (tr : List (Taken Sys Label)) : Prop where
  truthful : ∀ t ∈ tr, o.truthful t.pre t.label = true
  apart : ∀ t ∈ tr, o.strays t.pre t.label = false

theorem sighted_of_run (h₀ : Initial s₀) (h : Run cfg s₀ tr s)
    (hall : ∀ t ∈ tr, Credited o t.pre.db) : Sighted o s l where
  credited e seen hh := by
    obtain ⟨t, ht, rfl⟩ := hh.taken h₀ h
    exact hall t ht
  distinct e seen hh := by
    obtain ⟨t, ht, rfl⟩ := hh.taken h₀ h
    obtain ⟨⟨before, hbefore⟩, _⟩ := h.taken ht
    exact distinct_of_run h₀ hbefore
  grown e seen hh := by
    obtain ⟨t, ht, rfl⟩ := hh.taken h₀ h
    exact run_refunds_grow h t ht
  calls pid a hproc := call_of_run h₀ h hproc

theorem credited_of_run (h₀ : Initial s₀) (h : Run cfg s₀ tr s) (hk : o.Kept tr) :
    Credited o s.db ∧ ∀ t ∈ tr, Credited o t.pre.db := by
  induction h with
  | nil =>
    refine ⟨⟨?_, ?_, ?_⟩, fun t ht => by cases ht⟩
    all_goals
      intro r hr
      rw [h₀.refunds] at hr
      cases hr
  | cons run hs ih =>
    have htrue := List.forall_mem_cons.mp hk.truthful
    have happart := List.forall_mem_cons.mp hk.apart
    obtain ⟨hc, hall⟩ := ih ⟨htrue.2, happart.2⟩
    exact ⟨step_credited hs hc (sighted_of_run h₀ run hall) htrue.1 happart.1,
      List.forall_mem_cons.mpr ⟨hc, hall⟩⟩

/-- The step commits the provider's word that the refund with this id succeeded. -/
inductive Hears (cfg : Settings) (s : Sys) (l : Label) (x : String) : Prop
  | answer {pid : Id} {now : Time} {report : RefundReport} {a : RefundAttempt} {db' : Db}
      (hl : l = .refundAnswer pid report now) (hproc : s.proc? pid = some (.refund a))
      (hok : finishRefund s.db a.refundId report now = .ok db')
      (hs : report.status = some "succeeded") (hx : truthy report.providerRefundId = some x)
  | event {e : WebhookEvent} {seen : Db} {suffix : String} (hh : Handling s l e seen)
      (htype : e.eventType = .refund suffix) (hcommit : commits cfg s l = true)
      (hs : e.refundStatus = some "succeeded") (hx : truthy e.providerRefundId = some x)

/-- The refund is on a row that has ended or, unless it is the store's own on a payment the event names,
    on a record. -/
def Origins.Accounted (o : Origins) (t : Taken Sys Label) (db : Db) (x : String) : Prop :=
  db.holdsRefund x ∨ ((o.keyOf x = none ∨ unplaced t.pre t.label = true) ∧
    ∃ k ∈ refundRecordKeys x, db.filed k)

theorem Origins.Accounted.step {t : Taken Sys Label} {x : String} (h : step cfg s l = some s')
    (ha : o.Accounted t s.db x) : o.Accounted t s'.db x := by
  rcases ha with ⟨r, hr, hrx, hfinal⟩ | ⟨hwhy, k, hk, hfiled⟩
  · obtain ⟨r', hr', hmove⟩ := step_refund_kept h hr
    obtain ⟨r'', hr'', hsame⟩ := (step_evolves h).refunds r.id r (Table.get?_of_mem hr)
    rw [hr'] at hr''
    cases hr''
    exact .inl ⟨r', Table.mem_of_get? hr', hmove.grows.named x hrx, by rw [hsame.final hfinal, hfinal]⟩
  · exact .inr ⟨hwhy, k, hk, filed_of_kept (step_records_kept h) hfiled⟩

theorem accounted_of_run (h₀ : Initial s₀) (h : Run cfg s₀ tr s) (hk : o.Kept tr) :
    ∀ t ∈ tr, ∀ x, Hears cfg t.pre t.label x → o.Accounted t s.db x := by
  induction h with
  | nil =>
    intro t ht
    cases ht
  | cons run hs ih =>
    rename_i tr s s' l
    have htrue := List.forall_mem_cons.mp hk.truthful
    have happart := List.forall_mem_cons.mp hk.apart
    have hkept : o.Kept tr := ⟨htrue.2, happart.2⟩
    obtain ⟨hc, hall⟩ := credited_of_run h₀ run hkept
    have hsight : Sighted o s l := sighted_of_run h₀ run hall
    intro t ht x hx
    rcases List.mem_cons.mp ht with rfl | hold
    · cases hx with
      | answer hl hproc hok hsucc hx =>
        have hdb := answer_accounted hc hsight htrue.1 happart.1 hl hproc hok hsucc hx
        left
        subst hl
        simp only [step, hproc, hok, Option.some.injEq] at hs
        rw [← hs]
        exact hdb
      | event hh htype hcommit hsucc hx =>
        exact event_accounted hc hsight htrue.1 happart.1 hs hh htype hcommit hsucc hx
    · exact (ih hkept t hold x hx).step hs

/-- Each provider refund is credited once, and to the right record. In every run in which the provider
    speaks the truth about its own refunds, and no refund made outside the store is reported while the
    payment has one of the store's in flight: a row carries its own refund and no other; no two rows
    carry the same one; every refund heard of as succeeded is on a row that has ended or, if it cannot be
    recorded, on a record; a refund of the store succeeds only by the word about itself; and the word
    about somebody else's refund moves no order. -/
theorem provider_refunds_credited (o : Origins) (h₀ : Initial s₀) (h : Run cfg s₀ tr s)
    (hk : o.Kept tr) :
    Credited o s.db ∧
    (∀ r ∈ s.db.refunds.rows, ∀ q ∈ s.db.refunds.rows, ∀ x, r.providerRefundId = some x →
      q.providerRefundId = some x → r = q) ∧
    (∀ t ∈ tr, ∀ x, Hears cfg t.pre t.label x → o.Accounted t s.db x) ∧
    (∀ t ∈ tr, ∀ r ∈ t.pre.db.refunds.rows, ∀ r' ∈ t.post.db.refunds.rows, r'.id = r.id →
      r.origin = .requested → r.status ≠ .succeeded → r'.status = .succeeded →
      ∃ report x, Reports t.pre t.label r.id report ∧ report.status = some "succeeded" ∧
        truthy report.providerRefundId = some x ∧ o.keyOf x = some r.idempotencyKey) ∧
    ∀ t ∈ tr, ∀ e seen suffix x, Handling t.pre t.label e seen → e.eventType = .refund suffix →
      truthy e.providerRefundId = some x → o.keyOf x = none → t.post.db.orders = t.pre.db.orders := by
  obtain ⟨hc, hall⟩ := credited_of_run h₀ h hk
  have hsight : ∀ t ∈ tr, Sighted o t.pre t.label := by
    intro t ht
    obtain ⟨before, hbefore, hsub⟩ := h.before ht
    exact sighted_of_run h₀ hbefore fun u hu => hall u (hsub hu)
  refine ⟨hc, fun r hr q hq x hrx hqx => hc.unique (distinct_of_run h₀ h) hr hq hrx hqx,
    accounted_of_run h₀ h hk, fun t ht r hr r' hr' hid horigin hopen hdone => ?_,
    fun t ht e seen suffix x hh htype hx hnone => ?_⟩
  · obtain ⟨r'', hr'', hmove⟩ := step_refund_kept (h.taken ht).2 hr
    have hget : t.post.db.refunds.get? r'.id = some r' := Table.get?_of_mem hr'
    rw [hid, hr''] at hget
    cases hget
    rcases hmove.final_cases (by rw [hdone]; rfl) with ⟨_, hst⟩ | ⟨_, _, hst⟩ | ⟨report, hcause, _, hst⟩
    · exact absurd (hst.symm.trans hdone) hopen
    · rw [hdone] at hst
      cases hst
    · obtain ⟨x, hx, hown⟩ := reported_id (hsight t ht) (hk.truthful t ht) (hk.apart t ht) hr hcause
      rcases hst with ⟨_, hword⟩ | ⟨hst, _⟩
      · exact ⟨report, x, hcause, hword, hx, hown horigin⟩
      · rw [hdone] at hst
        cases hst
  · exact foreign_orders (hall t ht) (hsight t ht) (hk.apart t ht) (h.taken ht).2 hh htype hx hnone

/-- The provider made the refund `own` for the key of refund 1, and every other one outside the store. -/
def onlyOwn (own : String) : Origins where
  keyOf x := if x = own then some "refund:1:0" else none
  unique {x y k} hx hy := by
    split at hx
    · split at hy
      · rename_i hxo hyo
        rw [hxo, hyo]
      · cases hy
    · cases hx

/-- The event about the store's refund comes before the answer; a dashboard refund comes last and is
    only recorded for review. -/
theorem provider_refunds_credited_once : ∃ tr s, Run smallSettings smallShop tr s ∧
    (∃ r ∈ s.db.refunds.rows, r.id = 1 ∧ r.status = .succeeded ∧ r.providerRefundId = some "re_1") ∧
    s.db.refunds.rows.length = 1 ∧ Credited (onlyOwn "re_1") s.db := by
  obtain ⟨tr, s, hrun, hrow, hone, htrue, hapart⟩ := exists_exec (step smallSettings) smallShop
    (P := fun tr s => (∃ r ∈ s.db.refunds.rows,
        r.id = 1 ∧ r.status = .succeeded ∧ r.providerRefundId = some "re_1") ∧
      s.db.refunds.rows.length = 1 ∧
      (∀ t ∈ tr, (onlyOwn "re_1").truthful t.pre t.label = true) ∧
      ∀ t ∈ tr, (onlyOwn "re_1").strays t.pre t.label = false)
    (paidOrder ++ submittedRefund ++
      [.deliver 2 { dashboardRefund "evt_2" "re_1" with amount := some 200 }, .process 2 0 0,
       .refundAnswer 1 refundSucceeded 0, .deliver 2 (dashboardRefund "evt_3" "re_x"), .process 2 7 0])
    (by decide)
  exact ⟨tr, s, hrun, hrow, hone,
    (provider_refunds_credited (onlyOwn "re_1") smallShop_initial hrun ⟨htrue, hapart⟩).1⟩

/-- A dashboard refund of half the payment is reported while the store's own refund is in flight: the
    store takes it for its own, which has succeeded then with somebody else's id. The real answer finds
    it final and is dropped. -/
theorem foreign_refund_confirms_own : ∃ tr s, Run smallSettings smallShop tr s ∧
    (∀ t ∈ tr, (onlyOwn "re_1").truthful t.pre t.label = true) ∧
    ∃ r ∈ s.db.refunds.rows, r.origin = .requested ∧ r.status = .succeeded ∧ r.amountCents = 200 ∧
      r.providerRefundId = some "re_x" ∧ (onlyOwn "re_1").keyOf "re_x" = none ∧
      ∀ q ∈ s.db.refunds.rows, q.providerRefundId ≠ some "re_1" :=
  exists_exec (step smallSettings) smallShop
    (P := fun tr s => (∀ t ∈ tr, (onlyOwn "re_1").truthful t.pre t.label = true) ∧
      ∃ r ∈ s.db.refunds.rows, r.origin = .requested ∧ r.status = .succeeded ∧ r.amountCents = 200 ∧
        r.providerRefundId = some "re_x" ∧ (onlyOwn "re_1").keyOf "re_x" = none ∧
        ∀ q ∈ s.db.refunds.rows, q.providerRefundId ≠ some "re_1")
    (paidOrder ++ submittedRefund ++ [.deliver 2 (dashboardRefund "evt_2" "re_x"), .process 2 0 0,
      .refundAnswer 1 refundSucceeded 0]) (by decide)

end NovaCart
