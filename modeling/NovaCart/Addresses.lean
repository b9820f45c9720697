import NovaCart.Catalogue
import NovaCart.Schemes.Run

/-! The saved addresses of users and which of them is the default (`AddressService`, `AddressRepository`). -/

namespace NovaCart

open Schemes Table
open Keyed (key)

structure Address where
  id : Id
  userId : Id
  recipientName : String
  line1 : String
  line2 : Option String
  city : String
  state : String
  postalCode : String
  country : String
  isDefault : Bool
  createdAt : ℕ
  deriving DecidableEq, Repr

instance : Keyed Address Id := ⟨Address.id⟩

structure AddressCreate where
  recipientName : String
  line1 : String
  line2 : Option String
  city : String
  state : String
  postalCode : String
  country : String
  isDefault : Bool
  deriving DecidableEq, Repr

/-- What is absent stays as it is. -/
structure AddressUpdate where
  recipientName : Option String
  line1 : Option String
  line2 : Option String
  city : Option String
  state : Option String
  postalCode : Option String
  country : Option String
  isDefault : Option Bool
  deriving DecidableEq, Repr

inductive AddressError
  | addressNotFound (addressId : Id)
  | addressLimitReached (limit : Nat)
  deriving DecidableEq, Repr

def maxAddressesPerUser : Nat := 20

/-- The fields that an update sets, the flag apart. -/
def AddressUpdate.fields (u : AddressUpdate) (address : Address) : Address :=
  { address with
    recipientName := u.recipientName.getD address.recipientName
    line1 := u.line1.getD address.line1
    line2 := u.line2.or address.line2
    city := u.city.getD address.city
    state := u.state.getD address.state
    postalCode := u.postalCode.getD address.postalCode
    country := u.country.getD address.country }

/-- The table with the next id of its sequence. -/
structure AddressBook where
  addresses : Table Address
  next : Nat
  fresh : ∀ a ∈ addresses.rows, a.id < next

namespace AddressBook

def empty : AddressBook := ⟨.empty, 0, fun _ h => absurd h List.not_mem_nil⟩

/-! ### Repository -/

/-- The default first, then the newest. -/
def listForUser (b : AddressBook) (userId : Id) : List Address :=
  (b.addresses.rows.filter fun a => a.userId = userId).insertionSort fun a a' =>
    a'.isDefault < a.isDefault ∨ a'.isDefault = a.isDefault ∧ a'.createdAt ≤ a.createdAt

def create (b : AddressBook) (userId : Id) (payload : AddressCreate) (isDefault : Bool) (now : ℕ) : AddressBook where
  addresses := b.addresses.put ⟨b.next, userId, payload.recipientName, payload.line1, payload.line2, payload.city,
    payload.state, payload.postalCode, payload.country, isDefault, now⟩
  next := b.next + 1
  fresh a ha := by
    rcases mem_put.mp ha with rfl | ⟨hold, _⟩
    · exact Nat.lt_succ_self _
    · exact Nat.lt_succ_of_lt (b.fresh a hold)

def update (b : AddressBook) (address : Address) : AddressBook where
  addresses := b.addresses.replace address
  next := b.next
  fresh a ha := by
    obtain ⟨old, hold, rfl⟩ := List.mem_map.mp ha
    split
    · rename_i hkey
      exact (show old.id = address.id from hkey) ▸ b.fresh old hold
    · exact b.fresh old hold

def delete (b : AddressBook) (address : Address) : AddressBook where
  addresses := b.addresses.erase address.id
  next := b.next
  fresh a ha := b.fresh a (mem_erase.mp ha).1

def clearDefaultForUser (b : AddressBook) (userId : Id) : AddressBook where
  addresses := b.addresses.map (fun a => if a.userId = userId then { a with isDefault := false } else a) fun a => by
    split
    · rfl
    · rfl
  next := b.next
  fresh a ha := by
    obtain ⟨old, hold, rfl⟩ := mem_map.mp ha
    split
    · exact b.fresh old hold
    · exact b.fresh old hold

/-! ### Service -/

/-- `_get_owned` -/
def getOwned (b : AddressBook) (addressId userId : Id) : Except AddressError Address :=
  match b.addresses.get? addressId with
  | none => .error (.addressNotFound addressId)
  | some address => if address.userId ≠ userId then .error (.addressNotFound addressId) else .ok address

def createAddress (b : AddressBook) (userId : Id) (payload : AddressCreate) (now : ℕ) : Except AddressError AddressBook :=
  let existing := b.listForUser userId
  if maxAddressesPerUser ≤ existing.length then .error (.addressLimitReached maxAddressesPerUser)
  else
    let makeDefault := payload.isDefault || existing.isEmpty
    let b := if makeDefault && !existing.isEmpty then b.clearDefaultForUser userId else b
    .ok (b.create userId payload makeDefault now)

def updateAddress (b : AddressBook) (addressId userId : Id) (payload : AddressUpdate) : Except AddressError AddressBook :=
  match b.getOwned addressId userId with
  | .error e => .error e
  | .ok address =>
    let updated := payload.fields address
    if payload.isDefault = some true ∧ address.isDefault = false then
      .ok ((b.clearDefaultForUser userId).update { updated with isDefault := true })
    else if payload.isDefault = some false ∧ address.isDefault = true ∧ 1 < (b.listForUser userId).length then
      .ok (b.update { updated with isDefault := false })
    else .ok (b.update updated)

def deleteAddress (b : AddressBook) (addressId userId : Id) : Except AddressError AddressBook :=
  match b.getOwned addressId userId with
  | .error e => .error e
  | .ok address =>
    let b := b.delete address
    if address.isDefault then
      match b.listForUser userId with
      | first :: _ => .ok (b.update { first with isDefault := true })
      | [] => .ok b
    else .ok b

end AddressBook

inductive AddressRequest
  | create (userId : Id) (payload : AddressCreate) (now : ℕ)
  | update (addressId userId : Id) (payload : AddressUpdate)
  | delete (addressId userId : Id)
  deriving DecidableEq, Repr

def AddressRequest.perform (b : AddressBook) : AddressRequest → Except AddressError AddressBook
  | .create userId payload now => b.createAddress userId payload now
  | .update addressId userId payload => b.updateAddress addressId userId payload
  | .delete addressId userId => b.deleteAddress addressId userId

/-- A request that is refused changes nothing. -/
def addressStep (b : AddressBook) (request : AddressRequest) : Option AddressBook :=
  some (match request.perform b with
    | .ok b' => b'
    | .error _ => b)

abbrev AddressRun (tr : List (Taken AddressBook AddressRequest)) (b : AddressBook) : Prop := Exec addressStep .empty tr b

/-! ### One default -/

variable {b b' : AddressBook} {userId userId' : Id} {q : Address}

/-- A user without addresses, or with one that is the only default. -/
def OneDefault (b : AddressBook) (userId : Id) : Prop :=
  (∀ a ∈ b.addresses.rows, a.userId ≠ userId) ∨
    ∃ d ∈ b.addresses.rows, d.userId = userId ∧ d.isDefault = true ∧
      ∀ a ∈ b.addresses.rows, a.userId = userId → a.isDefault = true → a = d

theorem mem_listForUser {a : Address} : a ∈ b.listForUser userId ↔ a ∈ b.addresses.rows ∧ a.userId = userId := by
  rw [AddressBook.listForUser, List.mem_insertionSort, List.mem_filter, decide_eq_true_eq]

theorem OneDefault.length (h : OneDefault b userId) :
    ((b.listForUser userId).filter (·.isDefault)).length = if (b.listForUser userId).isEmpty then 0 else 1 := by
  rcases h with hnone | ⟨d, hd, huser, hdefault, hone⟩
  · have hnil : b.listForUser userId = [] :=
      List.eq_nil_iff_forall_not_mem.mpr fun a ha => hnone a (mem_listForUser.mp ha).1 (mem_listForUser.mp ha).2
    rw [hnil]
    rfl
  · have hlisted : d ∈ b.listForUser userId := mem_listForUser.mpr ⟨hd, huser⟩
    have hnodup : ((b.listForUser userId).filter (·.isDefault)).Nodup := by
      refine List.Nodup.filter _ ((List.perm_insertionSort _ _).nodup_iff.mpr (List.Nodup.filter _ ?_))
      exact List.Nodup.of_map _ b.addresses.nodup
    have hsingle : (b.listForUser userId).filter (·.isDefault) = [d] := by
      refine List.perm_singleton.mp ((List.perm_ext_iff_of_nodup hnodup (List.nodup_singleton d)).mpr fun a => ?_)
      rw [List.mem_filter, mem_listForUser, List.mem_singleton]
      constructor
      · rintro ⟨⟨ha, hauser⟩, hadefault⟩
        exact hone a ha hauser hadefault
      · rintro rfl
        exact ⟨⟨hd, huser⟩, hdefault⟩
    rw [hsingle, if_neg (by simpa using List.ne_nil_of_mem hlisted)]
    rfl

/-- What is another user's stays. -/
theorem OneDefault.congr (h : OneDefault b userId)
    (hsame : ∀ a, a.userId = userId → (a ∈ b'.addresses.rows ↔ a ∈ b.addresses.rows)) : OneDefault b' userId := by
  rcases h with hnone | ⟨d, hd, huser, hdefault, hone⟩
  · exact .inl fun a ha huser => hnone a ((hsame a huser).mp ha) huser
  · exact .inr ⟨d, (hsame d huser).mpr hd, huser, hdefault, fun a ha hauser => hone a ((hsame a hauser).mp ha) hauser⟩

/-- A row that is written as the default, where there is no other one. -/
theorem OneDefault.of_written (huser : q.userId = userId) (hdefault : q.isDefault = true)
    (hrows : ∀ a, a ∈ b'.addresses.rows ↔ a = q ∨ (a ∈ b.addresses.rows ∧ a.id ≠ q.id))
    (hothers : ∀ a ∈ b.addresses.rows, a.userId = userId → a.id ≠ q.id → a.isDefault = false) : OneDefault b' userId := by
  refine .inr ⟨q, (hrows q).mpr (.inl rfl), huser, hdefault, fun a ha hauser hadefault => ?_⟩
  rcases (hrows a).mp ha with rfl | ⟨hold, hne⟩
  · rfl
  · rw [hothers a hold hauser hne] at hadefault
    cases hadefault

theorem mem_clearDefault {a : Address} : a ∈ (b.clearDefaultForUser userId).addresses.rows ↔
    ∃ old ∈ b.addresses.rows, (if old.userId = userId then { old with isDefault := false } else old) = a :=
  List.mem_map

theorem isDefault_of_cleared {a : Address} (h : a ∈ (b.clearDefaultForUser userId).addresses.rows) (huser : a.userId = userId) :
    a.isDefault = false := by
  obtain ⟨old, _, rfl⟩ := mem_clearDefault.mp h
  split
  · rfl
  · rename_i hne
    rw [if_neg hne] at huser
    exact absurd huser hne

theorem mem_cleared_of_ne {a : Address} (hne : a.userId ≠ userId) :
    a ∈ (b.clearDefaultForUser userId).addresses.rows ↔ a ∈ b.addresses.rows := by
  rw [mem_clearDefault]
  constructor
  · rintro ⟨old, hold, rfl⟩
    split
    · rename_i huser
      rw [if_pos huser] at hne
      exact absurd huser hne
    · exact hold
  · exact fun h => ⟨a, h, if_neg hne⟩

theorem mem_rows_update {old a : Address} (h : b.addresses.get? q.id = some old) :
    a ∈ (b.update q).addresses.rows ↔ a = q ∨ (a ∈ b.addresses.rows ∧ a.id ≠ q.id) :=
  mem_replace (q := q) h

/-- Where the defaults are the same ones, there still is one. -/
theorem OneDefault.of_same (h : OneDefault b userId) (hsome : ∃ a ∈ b.addresses.rows, a.userId = userId)
    (hsame : ∀ a, a.userId = userId → a.isDefault = true → (a ∈ b'.addresses.rows ↔ a ∈ b.addresses.rows)) :
    OneDefault b' userId := by
  rcases h with hnone | ⟨d, hd, huser, hdefault, hone⟩
  · obtain ⟨a, ha, huser⟩ := hsome
    exact absurd huser (hnone a ha)
  · exact .inr ⟨d, (hsame d huser hdefault).mpr hd, huser, hdefault,
      fun a ha hauser hadefault => hone a ((hsame a hauser hadefault).mp ha) hauser hadefault⟩

/-- `existing` is empty when the user has no address. -/
theorem listForUser_isEmpty : (b.listForUser userId).isEmpty = true ↔ ∀ a ∈ b.addresses.rows, a.userId ≠ userId := by
  rw [List.isEmpty_iff, List.eq_nil_iff_forall_not_mem]
  exact forall_congr' fun a => by rw [mem_listForUser, not_and]

theorem OneDefault.create {payload : AddressCreate} {now : ℕ} (h : OneDefault b userId)
    (hb : b.createAddress userId' payload now = .ok b') : OneDefault b' userId := by
  unfold AddressBook.createAddress at hb
  dsimp only at hb
  split at hb
  · cases hb
  · by_cases huser : userId' = userId
    · subst huser
      cases hempty : (b.listForUser userId').isEmpty with
      | true =>
        rw [hempty, Bool.or_true, Bool.not_true, Bool.and_false, if_neg Bool.false_ne_true] at hb
        cases hb
        exact .of_written rfl rfl (fun a => mem_put) fun a ha hauser => absurd hauser (listForUser_isEmpty.mp hempty a ha)
      | false =>
        rw [hempty, Bool.or_false, Bool.not_false, Bool.and_true] at hb
        cases hdefault : payload.isDefault with
        | true =>
          rw [hdefault, if_pos rfl] at hb
          cases hb
          exact .of_written rfl rfl (fun a => mem_put) fun a ha hauser _ => isDefault_of_cleared ha hauser
        | false =>
          rw [hdefault, if_neg Bool.false_ne_true] at hb
          cases hb
          have hsome : ∃ a ∈ b.addresses.rows, a.userId = userId' := by
            by_contra hnone
            push Not at hnone
            rw [listForUser_isEmpty.mpr hnone] at hempty
            cases hempty
          refine h.of_same hsome fun a _ hadefault => mem_put.trans ?_
          constructor
          · rintro (rfl | ⟨hold, _⟩)
            · cases hadefault
            · exact hold
          · exact fun hold => .inr ⟨hold, (b.fresh a hold).ne⟩
    · obtain ⟨before, hbefore, isDefault, rfl⟩ : ∃ before, (before = b.clearDefaultForUser userId' ∨ before = b) ∧
          ∃ isDefault, b' = before.create userId' payload isDefault now :=
        ⟨_, ite_eq_or_eq _ _ _, _, (Except.ok.inj hb).symm⟩
      have hrows : ∀ a, a.userId ≠ userId' → (a ∈ before.addresses.rows ↔ a ∈ b.addresses.rows) := by
        rcases hbefore with rfl | rfl
        · exact fun a hne => mem_cleared_of_ne hne
        · exact fun _ _ => Iff.rfl
      refine h.congr fun a hauser => mem_put.trans ?_
      have hne : a.userId ≠ userId' := fun h => huser (h.symm.trans hauser)
      constructor
      · rintro (rfl | ⟨hold, _⟩)
        · exact absurd rfl hne
        · exact (hrows a hne).mp hold
      · intro hold
        have hmem := (hrows a hne).mpr hold
        exact .inr ⟨hmem, (before.fresh a hmem).ne⟩

theorem of_getOwned {addressId : Id} {address : Address} (h : b.getOwned addressId userId = .ok address) :
    b.addresses.get? addressId = some address ∧ address ∈ b.addresses.rows ∧ address.userId = userId := by
  unfold AddressBook.getOwned at h
  split at h
  · cases h
  · rename_i found hget
    split at h
    · cases h
    · rename_i huser
      cases h
      exact ⟨hget, mem_of_get? hget, not_not.mp huser⟩

/-- The default is unset while there are other addresses. -/
def AddressRequest.UnsetsDefault (b : AddressBook) : AddressRequest → Prop
  | .update addressId userId payload => payload.isDefault = some false ∧
    (∃ a ∈ b.addresses.get? addressId, a.userId = userId ∧ a.isDefault = true) ∧ 1 < (b.listForUser userId).length
  | _ => False

instance (b : AddressBook) : DecidablePred (AddressRequest.UnsetsDefault b)
  | .update .. => inferInstanceAs (Decidable (_ ∧ _ ∧ _))
  | .create .. | .delete .. => isFalse id

/-- A write to one address does not touch the addresses of the others. -/
theorem OneDefault.of_other {old : Address} (h : OneDefault b userId) (hget : b.addresses.get? q.id = some old)
    (hold : old.userId ≠ userId) (hq : q.userId ≠ userId) : OneDefault (b.update q) userId := by
  refine h.congr fun a huser => (mem_rows_update hget).trans ?_
  constructor
  · rintro (rfl | ⟨ha, _⟩)
    · exact absurd huser hq
    · exact ha
  · refine fun ha => .inr ⟨ha, fun hid => hold ?_⟩
    rw [← b.addresses.eq_of_key_eq ha (mem_of_get? hget) (hid.trans (key_of_get? hget).symm)]
    exact huser

theorem OneDefault.update {addressId : Id} {payload : AddressUpdate} (h : OneDefault b userId)
    (hkeeps : ¬ (AddressRequest.update addressId userId' payload).UnsetsDefault b)
    (hb : b.updateAddress addressId userId' payload = .ok b') : OneDefault b' userId := by
  unfold AddressBook.updateAddress at hb
  split at hb
  · cases hb
  · rename_i address howned
    obtain ⟨hget, hmem, howner⟩ := of_getOwned howned
    obtain rfl : address.id = addressId := key_of_get? hget
    have hcleared : (b.clearDefaultForUser userId').addresses.get? address.id = some { address with isDefault := false } :=
      get?_of_mem (r := { address with isDefault := false }) (mem_clearDefault.mpr ⟨address, hmem, if_pos howner⟩)
    by_cases huser : userId' = userId
    · subst huser
      dsimp only at hb
      split at hb
      · cases hb
        exact .of_written (q := { payload.fields address with isDefault := true }) howner rfl
          (fun a => mem_rows_update (q := { payload.fields address with isDefault := true }) hcleared) fun a ha hauser _ => isDefault_of_cleared ha hauser
      · split at hb
        · rename_i hunsets
          exact absurd ⟨hunsets.1, ⟨address, hget, howner, hunsets.2.1⟩, hunsets.2.2⟩ hkeeps
        · cases hb
          have hrows : ∀ a, a ∈ (b.update (payload.fields address)).addresses.rows ↔
              a = payload.fields address ∨ (a ∈ b.addresses.rows ∧ a.id ≠ address.id) :=
            fun a => mem_rows_update (q := payload.fields address) hget
          by_cases hdefault : address.isDefault = true
          · refine .of_written (q := payload.fields address) howner hdefault hrows fun a ha hauser hne => ?_
            rcases h with hnone | ⟨d, hd, hduser, hddefault, hone⟩
            · exact absurd howner (hnone address hmem)
            · have hid : address = d := hone address hmem howner hdefault
              by_contra hadefault
              rw [Bool.not_eq_false] at hadefault
              have hsame : a.id = address.id := congrArg Address.id ((hone a ha hauser hadefault).trans hid.symm)
              exact hne hsame
          · refine h.of_same ⟨address, hmem, howner⟩ fun a hauser hadefault => (hrows a).trans ?_
            constructor
            · rintro (rfl | ⟨hold, _⟩)
              · exact absurd hadefault hdefault
              · exact hold
            · refine fun hold => .inr ⟨hold, fun hid => hdefault ?_⟩
              rw [← b.addresses.eq_of_key_eq hold hmem hid]
              exact hadefault
    · have hne : address.userId ≠ userId := fun h => huser (howner.symm.trans h)
      dsimp only at hb
      split at hb
      · cases hb
        have hall : OneDefault (b.clearDefaultForUser userId') userId :=
          h.congr fun a hauser => mem_cleared_of_ne fun hsame => huser (hsame.symm.trans hauser)
        exact hall.of_other (q := { payload.fields address with isDefault := true }) hcleared hne hne
      · split at hb
        · cases hb
          exact h.of_other (q := { payload.fields address with isDefault := false }) hget hne hne
        · cases hb
          exact h.of_other (q := payload.fields address) hget hne hne

theorem OneDefault.delete {addressId : Id} (h : OneDefault b userId) (hb : b.deleteAddress addressId userId' = .ok b') :
    OneDefault b' userId := by
  unfold AddressBook.deleteAddress at hb
  split at hb
  · cases hb
  · rename_i address howned
    obtain ⟨hget, hmem, howner⟩ := of_getOwned howned
    have hrows : ∀ a, a ∈ (b.delete address).addresses.rows ↔ a ∈ b.addresses.rows ∧ a.id ≠ address.id := fun a => mem_erase
    by_cases huser : userId' = userId
    · subst huser
      dsimp only at hb
      split at hb
      · rename_i hdefault
        -- the default is gone, and no other address is one
        have hothers : ∀ a ∈ (b.delete address).addresses.rows, a.userId = userId' → a.isDefault = false := by
          intro a ha hauser
          obtain ⟨hold, hne⟩ := (hrows a).mp ha
          rcases h with hnone | ⟨d, hd, hduser, hddefault, hone⟩
          · exact absurd howner (hnone address hmem)
          · by_contra hadefault
            rw [Bool.not_eq_false] at hadefault
            exact hne (congrArg Address.id ((hone a hold hauser hadefault).trans (hone address hmem howner hdefault).symm))
        split at hb
        · rename_i first rest hlist
          cases hb
          obtain ⟨hfirst, hfirstUser⟩ := mem_listForUser.mp (hlist ▸ List.mem_cons_self)
          have hgetFirst : (b.delete address).addresses.get? first.id = some first := get?_of_mem hfirst
          exact .of_written (q := { first with isDefault := true }) hfirstUser rfl
            (fun a => mem_rows_update (q := { first with isDefault := true }) hgetFirst)
            fun a ha hauser _ => hothers a ha hauser
        · rename_i hlist
          cases hb
          exact .inl fun a ha hauser => by
            have hlisted := mem_listForUser.mpr ⟨ha, hauser⟩
            rw [hlist] at hlisted
            cases hlisted
      · rename_i hdefault
        cases hb
        refine h.of_same ⟨address, hmem, howner⟩ fun a hauser hadefault => (hrows a).trans ?_
        refine ⟨And.left, fun hold => ⟨hold, fun hid => hdefault ?_⟩⟩
        rw [← b.addresses.eq_of_key_eq hold hmem hid]
        exact hadefault
    · have hne : address.userId ≠ userId := fun h => huser (howner.symm.trans h)
      have hdeleted : OneDefault (b.delete address) userId := by
        refine h.congr fun a hauser => (hrows a).trans ⟨And.left, fun hold => ⟨hold, fun hid => hne ?_⟩⟩
        rw [← b.addresses.eq_of_key_eq hold hmem hid]
        exact hauser
      dsimp only at hb
      split at hb
      · split at hb
        · rename_i first rest hlist
          cases hb
          obtain ⟨hfirst, hfirstUser⟩ := mem_listForUser.mp (hlist ▸ List.mem_cons_self)
          have hfirstNe : first.userId ≠ userId := fun h => huser (hfirstUser.symm.trans h)
          have hgetFirst : (b.delete address).addresses.get? first.id = some first := get?_of_mem hfirst
          exact hdeleted.of_other (q := { first with isDefault := true }) hgetFirst hfirstNe hfirstNe
        · cases hb
          exact hdeleted
      · cases hb
        exact hdeleted

/-- Each user has one default address or no address, in every run in which no default is unset beside other addresses. -/
theorem one_default {tr : List (Taken AddressBook AddressRequest)} (run : AddressRun tr b)
    (hkeeps : ∀ t ∈ tr, ¬ t.label.UnsetsDefault t.pre) (userId : Id) :
    ((b.listForUser userId).filter (·.isDefault)).length = if (b.listForUser userId).isEmpty then 0 else 1 := by
  refine OneDefault.length ?_
  induction run with
  | nil => exact .inl fun a ha => absurd ha List.not_mem_nil
  | @cons tr b b' request run hstep ih =>
    have hbefore := ih fun t ht => hkeeps t (List.mem_cons_of_mem _ ht)
    have hnow : ¬ request.UnsetsDefault b := hkeeps _ List.mem_cons_self
    cases hstep
    split
    · rename_i b' hb
      cases request with
      | create userId' payload now => exact hbefore.create hb
      | update addressId userId' payload => exact hbefore.update hnow hb
      | delete addressId userId' => exact hbefore.delete hb
    · exact hbefore

/-- An address of which only the flag is of interest. -/
def someAddress (isDefault : Bool) : AddressCreate := ⟨"Ada", "1 Main St", none, "Springfield", "IL", "62701", "US", isDefault⟩

def setDefault (isDefault : Bool) : AddressUpdate := ⟨none, none, none, none, none, none, none, some isDefault⟩

/-- Two addresses, the first of which is the default until it is updated to be none. -/
theorem default_unset : ∃ tr b, AddressRun tr b ∧ (b.listForUser 1).length = 2 ∧ (b.listForUser 1).filter (·.isDefault) = [] :=
  exists_exec addressStep .empty (P := fun _ b => (b.listForUser 1).length = 2 ∧ (b.listForUser 1).filter (·.isDefault) = [])
    [.create 1 (someAddress false) 0, .create 1 (someAddress false) 1, .update 0 1 (setDefault false)]
    (by decide +kernel)

/-- The default moves to a new address and back, and then its address is deleted. -/
theorem one_default_moves : ∃ tr b, AddressRun tr b ∧ ((b.listForUser 1).filter (·.isDefault)).length = 1 := by
  obtain ⟨tr, b, run, hsome, hkeeps⟩ := exists_exec addressStep .empty
    (P := fun tr b => (b.listForUser 1).isEmpty = false ∧ ∀ t ∈ tr, ¬ t.label.UnsetsDefault t.pre)
    [.create 1 (someAddress false) 0, .create 1 (someAddress true) 1, .update 0 1 (setDefault true), .delete 0 1]
    (by decide +kernel)
  refine ⟨tr, b, run, ?_⟩
  rw [one_default run hkeeps 1, hsome]
  rfl

end NovaCart
