import Mathlib.Data.List.TakeWhile
import NovaCart.Schemes.Choices

/-! The encryption of stored credentials under a current key and the previous ones (`SecretCipher`, `get_cipher`). -/

namespace NovaCart.Secrets

open Schemes

/-- What `Fernet` offers: a key is read from its text, a token depends on what the library draws for it (its time and its
    initialisation vector), and a token that was not made with the key is refused. -/
structure Fernet (κ : Type) where
  key : String → Option κ
  encrypt : κ → ℕ → String → String
  decrypt : κ → String → Option String

/-- An ideal authenticated cipher. -/
structure Fernet.Ideal {κ : Type} (f : Fernet κ) : Prop where
  decrypt_encrypt : ∀ k drawn s, f.decrypt k (f.encrypt k drawn s) = some s
  decrypt_other : ∀ k k' drawn s, k ≠ k' → f.decrypt k' (f.encrypt k drawn s) = none

/-- The settings under `provider_secrets_`. -/
structure SecretSettings where
  key : Option String
  keyId : String
  previousKeys : String
  deriving DecidableEq, Repr

inductive SecretError
  | storageNotConfigured
  | unreadable
  /-- `ValueError` of `Fernet` -/
  | invalidKey
  deriving DecidableEq, Repr

/-! ### Texts -/

/-- `str.isspace` -/
def isSpace (c : Char) : Bool :=
  c.val ∈ [0x20, 0x85, 0xa0, 0x1680, 0x2028, 0x2029, 0x202f, 0x205f, 0x3000] ∨ 0x09 ≤ c.val ∧ c.val ≤ 0x0d ∨
    0x1c ≤ c.val ∧ c.val ≤ 0x1f ∨ 0x2000 ≤ c.val ∧ c.val ≤ 0x200a

/-- `str.strip` -/
def strip (cs : List Char) : List Char := ((cs.dropWhile isSpace).reverse.dropWhile isSpace).reverse

/-- What stands before the first colon and what stands behind it. -/
def partition (cs : List Char) : List Char × List Char :=
  (cs.takeWhile (· ≠ ':'), (cs.dropWhile (· ≠ ':')).drop 1)

theorem partition_append {id : List Char} (h : ':' ∉ id) (rest : List Char) :
    partition (id ++ ':' :: rest) = (id, rest) := by
  have hall : ∀ c ∈ id, decide (c ≠ ':') = true := fun c hc => by
    simp only [decide_eq_true_eq]
    exact fun heq => h (heq ▸ hc)
  rw [partition, List.takeWhile_append_of_pos hall, List.dropWhile_append_of_pos hall]
  simp

theorem notMem_partition (cs : List Char) : ':' ∉ (partition cs).1 := fun h => by
  simpa using List.mem_takeWhile_imp h

/-- `parse_previous_keys` -/
def parsePreviousKeys (raw : String) : List (String × String) :=
  let pairs := ((raw.toList.splitOn ',').map strip).filter (· ≠ [])
  entriesOf ((pairs.filter (':' ∈ ·)).map fun p => (String.ofList (partition p).1, String.ofList (partition p).2))

example : parsePreviousKeys "k1:abc, k2:def" = [("k1", "abc"), ("k2", "def")] := by decide +kernel

/-! ### The cipher -/

structure SecretCipher (κ : Type) where
  currentId : String
  fernets : List (String × κ)
  deriving DecidableEq

variable {κ : Type} (f : Fernet κ)

/-- `Fernet(key.encode())` -/
def fernet (key : String) : Except SecretError κ :=
  match f.key key with
  | none => .error .invalidKey
  | some k => .ok k

/-- The previous keys are entered after the current one. -/
def secretCipher (currentId currentKey : String) (previous : List (String × String)) :
    Except SecretError (SecretCipher κ) := do
  let current ← fernet f currentKey
  let others ← previous.mapM fun e => (fernet f e.2).map fun k => (e.1, k)
  .ok ⟨currentId, (currentId, current) :: others⟩

def getCipher (settings : SecretSettings) : Except SecretError (SecretCipher κ) :=
  match settings.key with
  | none => .error .storageNotConfigured
  | some key => secretCipher f settings.keyId key (parsePreviousKeys settings.previousKeys)

/-- The blob, for what the library draws; there is always an entry under the current id. -/
def SecretCipher.encrypt (cipher : SecretCipher κ) (drawn : ℕ) (plaintext : String) : Option String :=
  (dictGet? cipher.fernets cipher.currentId).map fun k => cipher.currentId ++ ":" ++ f.encrypt k drawn plaintext

def SecretCipher.decrypt (cipher : SecretCipher κ) (blob : String) : Except SecretError String :=
  let parts := partition blob.toList
  match dictGet? cipher.fernets (String.ofList parts.1) with
  | none => .error .unreadable
  | some k =>
    match f.decrypt k (String.ofList parts.2) with
    | none => .error .unreadable
    | some plaintext => .ok plaintext

/-! ### Reading blobs back -/

/-- The id and the key of a blob stand in the settings. -/
inductive Listed (settings : SecretSettings) : String → String → Prop
  | current {key : String} (h : settings.key = some key) : Listed settings settings.keyId key
  | previous {id key : String} (h : (id, key) ∈ parsePreviousKeys settings.previousKeys) : Listed settings id key

/-- What a rotation of keys must keep: new blobs are under the current key, and blobs under listed keys can be read. -/
structure SafeRotation (settings : SecretSettings) (cipher : SecretCipher κ) : Prop where
  current : ∀ key k, settings.key = some key → f.key key = some k → ∀ drawn s,
    cipher.encrypt f drawn s = some (settings.keyId ++ ":" ++ f.encrypt k drawn s)
  roundTrip : ∀ drawn s, ∃ blob, cipher.encrypt f drawn s = some blob ∧ cipher.decrypt f blob = .ok s
  listed : ∀ id key k, Listed settings id key → f.key key = some k → ∀ drawn s,
    cipher.decrypt f (id ++ ":" ++ f.encrypt k drawn s) = .ok s

variable {f}

theorem decrypt_blob {cipher : SecretCipher κ} {id : String} (hid : ':' ∉ id.toList) {k : κ}
    (hentry : dictGet? cipher.fernets id = some k) (token : String) :
    cipher.decrypt f (id ++ ":" ++ token) =
      match f.decrypt k token with
      | none => .error .unreadable
      | some plaintext => .ok plaintext := by
  have hparts : partition (id ++ ":" ++ token).toList = (id.toList, token.toList) := by
    rw [String.toList_append, String.toList_append, List.append_assoc]
    exact partition_append hid token.toList
  simp only [SecretCipher.decrypt, hparts, String.ofList_toList, hentry]

theorem notMem_of_parsePreviousKeys {raw id key : String} (h : (id, key) ∈ parsePreviousKeys raw) : ':' ∉ id.toList := by
  refine forall_key_entriesOf (P := fun id => ':' ∉ id.toList) ?_ (id, key) h
  intro e he
  obtain ⟨p, -, rfl⟩ := List.mem_map.mp he
  rw [String.toList_ofList]
  exact notMem_partition p

/-! ### What stands under an id -/

theorem fernet_eq_ok {key : String} {k : κ} : fernet f key = .ok k ↔ f.key key = some k := by
  unfold fernet
  split <;> rename_i h <;> simp [h]

theorem mapM_fernet {previous : List (String × String)} {others : List (String × κ)}
    (h : (previous.mapM fun e => (fernet f e.2).map fun k => (e.1, k)) = .ok others) :
    List.Forall₂ (fun e o => o.1 = e.1 ∧ f.key e.2 = some o.2) previous others := by
  induction previous generalizing others with
  | nil =>
    cases h
    exact .nil
  | cons e previous ih =>
    rw [List.mapM_cons] at h
    cases hk : fernet f e.2 with
    | error err =>
      rw [hk] at h
      cases h
    | ok k =>
      rw [hk] at h
      cases hrest : previous.mapM fun e => (fernet f e.2).map fun k => (e.1, k) with
      | error err =>
        rw [hrest] at h
        cases h
      | ok rest =>
        rw [hrest] at h
        cases h
        exact .cons ⟨rfl, fernet_eq_ok.mp hk⟩ (ih hrest)

/-- A configured cipher: the current entry first, then one for each previous key. -/
theorem getCipher_eq_ok {settings : SecretSettings} {cipher : SecretCipher κ} (h : getCipher f settings = .ok cipher) :
    ∃ key k others, settings.key = some key ∧ f.key key = some k ∧
      cipher = ⟨settings.keyId, (settings.keyId, k) :: others⟩ ∧
      List.Forall₂ (fun e o => o.1 = e.1 ∧ f.key e.2 = some o.2) (parsePreviousKeys settings.previousKeys) others := by
  unfold getCipher at h
  cases hkey : settings.key with
  | none =>
    rw [hkey] at h
    cases h
  | some key =>
    rw [hkey] at h
    simp only [secretCipher] at h
    cases hk : fernet f key with
    | error err =>
      rw [hk] at h
      cases h
    | ok k =>
      rw [hk] at h
      cases hrest : (parsePreviousKeys settings.previousKeys).mapM fun e => (fernet f e.2).map fun k => (e.1, k) with
      | error err =>
        rw [hrest] at h
        cases h
      | ok others =>
        rw [hrest] at h
        cases h
        exact ⟨key, k, others, rfl, fernet_eq_ok.mp hk, rfl, mapM_fernet hrest⟩

section Configured

variable {settings : SecretSettings} {k : κ} {others : List (String × κ)}
  (hothers : List.Forall₂ (fun e o => o.1 = e.1 ∧ f.key e.2 = some o.2) (parsePreviousKeys settings.previousKeys) others)
include hothers

theorem nodup_others : (others.map Prod.fst).Nodup := by
  have hkeys : others.map Prod.fst = (parsePreviousKeys settings.previousKeys).map Prod.fst := by
    refine List.ext_getElem (by simpa using hothers.length_eq.symm) fun i h₁ h₂ => ?_
    simpa using (List.forall₂_iff_get.mp hothers).2 i (by simpa using h₂) (by simpa using h₁) |>.1
  rw [hkeys]
  exact nodup_entriesOf _

/-- A previous key stands under its id. -/
theorem dictGet?_previous {id key : String} (h : (id, key) ∈ parsePreviousKeys settings.previousKeys) :
    ∃ k', f.key key = some k' ∧ dictGet? ((settings.keyId, k) :: others) id = some k' := by
  obtain ⟨i, hi, hget⟩ := List.getElem_of_mem h
  obtain ⟨hlen, hall⟩ := List.forall₂_iff_get.mp hothers
  have hi' : i < others.length := hlen ▸ hi
  obtain ⟨hid, hkey⟩ := hall i hi hi'
  simp only [List.get_eq_getElem, hget] at hid hkey
  refine ⟨others[i].2, hkey, ?_⟩
  have hmem : (id, others[i].2) ∈ others := hid ▸ List.getElem_mem hi'
  rw [dictGet?_cons, dictGet?_eq_some_of_mem (nodup_others hothers) hmem, Option.some_or]

/-- The current key stands under its id when no previous one takes its place. -/
theorem dictGet?_current (hkeeps : ∀ key, (settings.keyId, key) ∈ parsePreviousKeys settings.previousKeys →
      f.key key = some k) :
    dictGet? ((settings.keyId, k) :: others) settings.keyId = some k := by
  by_cases hin : settings.keyId ∈ (parsePreviousKeys settings.previousKeys).map Prod.fst
  · obtain ⟨e, he, hid⟩ := List.mem_map.mp hin
    have hmem : (settings.keyId, e.2) ∈ parsePreviousKeys settings.previousKeys := hid ▸ he
    obtain ⟨k', hk', hentry⟩ := dictGet?_previous (k := k) hothers hmem
    rw [hentry, ← hk', hkeeps e.2 hmem]
  · have hnone : dictGet? others settings.keyId = none := by
      rw [← Option.not_isSome_iff_eq_none, dictGet?_isSome]
      intro hmem
      obtain ⟨o, ho, hid⟩ := List.mem_map.mp hmem
      obtain ⟨i, hi, rfl⟩ := List.getElem_of_mem ho
      obtain ⟨hlen, hall⟩ := List.forall₂_iff_get.mp hothers
      have hi' : i < (parsePreviousKeys settings.previousKeys).length := hlen ▸ hi
      have := (hall i hi' hi).1
      simp only [List.get_eq_getElem] at this
      exact hin (List.mem_map.mpr ⟨_, List.getElem_mem hi', by rw [← this, hid]⟩)
    rw [dictGet?_cons, hnone, Option.none_or, if_pos rfl]

end Configured

/-- No previous key stands under the current id, unless it is the current key. -/
def KeepsCurrent (f : Fernet κ) (settings : SecretSettings) : Prop :=
  ∀ key previous, settings.key = some key → (settings.keyId, previous) ∈ parsePreviousKeys settings.previousKeys →
    f.key previous = f.key key

/-- A rotation is safe exactly when the previous keys leave the current id alone. -/
theorem safeRotation_iff (hideal : f.Ideal) {settings : SecretSettings} (hid : ':' ∉ settings.keyId.toList)
    {cipher : SecretCipher κ} (h : getCipher f settings = .ok cipher) :
    SafeRotation f settings cipher ↔ KeepsCurrent f settings := by
  obtain ⟨key, k, others, hkey, hk, rfl, hothers⟩ := getCipher_eq_ok h
  constructor
  · intro hsafe key' previous hkey' hmem
    obtain rfl := Option.some.inj (hkey.symm.trans hkey')
    obtain ⟨k', hk', hentry⟩ := dictGet?_previous (k := k) hothers hmem
    rw [hk', hk, Option.some.injEq]
    by_contra hne
    have hread := hsafe.listed settings.keyId key k (.current hkey) hk 0 ""
    rw [decrypt_blob hid hentry, hideal.decrypt_other k k' 0 "" (Ne.symm hne)] at hread
    cases hread
  · intro hkeeps
    have hentry : dictGet? ((settings.keyId, k) :: others) settings.keyId = some k :=
      dictGet?_current hothers fun previous hmem => (hkeeps key previous hkey hmem).trans hk
    have hblob : ∀ drawn s, SecretCipher.encrypt f ⟨settings.keyId, (settings.keyId, k) :: others⟩ drawn s
        = some (settings.keyId ++ ":" ++ f.encrypt k drawn s) := fun drawn s => by
      simp only [SecretCipher.encrypt, hentry, Option.map_some]
    refine ⟨fun key' k' hkey' hk' drawn s => ?_, fun drawn s => ⟨_, hblob drawn s, ?_⟩, ?_⟩
    · obtain rfl := Option.some.inj (hkey.symm.trans hkey')
      obtain rfl := Option.some.inj (hk.symm.trans hk')
      exact hblob drawn s
    · rw [decrypt_blob hid hentry, hideal.decrypt_encrypt]
    · intro id key' k' hlisted hk' drawn s
      cases hlisted with
      | current hkey' =>
        obtain rfl := Option.some.inj (hkey.symm.trans hkey')
        obtain rfl := Option.some.inj (hk.symm.trans hk')
        rw [decrypt_blob hid hentry, hideal.decrypt_encrypt]
      | previous hmem =>
        obtain ⟨k'', hk'', hentry'⟩ := dictGet?_previous (k := k) hothers hmem
        obtain rfl := Option.some.inj (hk''.symm.trans hk')
        rw [decrypt_blob (notMem_of_parsePreviousKeys hmem) hentry', hideal.decrypt_encrypt]

/-! ### A key that is replaced under its id -/

/-- A cipher that only marks its tokens with the key. -/
def markingFernet : Fernet {cs : List Char // ':' ∉ cs} where
  key text := if h : text.length = 44 ∧ ':' ∉ text.toList then some ⟨text.toList, h.2⟩ else none
  encrypt k _ s := String.ofList (k.1 ++ ':' :: s.toList)
  decrypt k token :=
    if (partition token.toList).1 = k.1 then some (String.ofList (partition token.toList).2) else none

theorem markingFernet_ideal : markingFernet.Ideal where
  decrypt_encrypt k drawn s := by
    simp [markingFernet, partition_append k.2]
  decrypt_other k k' drawn s hne := by
    have : k.1 ≠ k'.1 := fun heq => hne (Subtype.ext heq)
    simp [markingFernet, partition_append k.2, this]

/-- The new key has the id of the old one, which is kept among the previous keys. -/
def sameIdSettings : SecretSettings where
  key := some "bmV3LWtleS1uZXcta2V5LW5ldy1rZXktbmV3LWtleS0="
  keyId := "k1"
  previousKeys := "k1:b2xkLWtleS1vbGQta2V5LW9sZC1rZXktb2xkLWtleS0="

def newKey : {cs : List Char // ':' ∉ cs} := ⟨"bmV3LWtleS1uZXcta2V5LW5ldy1rZXktbmV3LWtleS0=".toList, by decide +kernel⟩

def oldKey : {cs : List Char // ':' ∉ cs} := ⟨"b2xkLWtleS1vbGQta2V5LW9sZC1rZXktb2xkLWtleS0=".toList, by decide +kernel⟩

theorem ok_of_toOption {α : Type} {e : Except SecretError α} {a : α} (h : e.toOption = some a) : e = .ok a := by
  cases e with
  | error err => cases h
  | ok b => exact congrArg Except.ok (Option.some.inj h)

theorem getCipher_sameId :
    getCipher markingFernet sameIdSettings = .ok ⟨"k1", [("k1", newKey), ("k1", oldKey)]⟩ :=
  ok_of_toOption (by decide +kernel)

/-- New blobs are under the old key. -/
theorem not_safeRotation :
    ¬∀ (settings : SecretSettings) (cipher : SecretCipher {cs : List Char // ':' ∉ cs}), ':' ∉ settings.keyId.toList →
      getCipher markingFernet settings = .ok cipher → SafeRotation markingFernet settings cipher := by
  intro h
  have hsafe := (h sameIdSettings _ (by decide +kernel) getCipher_sameId).current _ newKey rfl (by decide +kernel) 0 "s"
  exact absurd hsafe (by decide +kernel)

/-- With an id of its own, the new key is the current one and the old one is still read. -/
theorem safeRotation_iff_newId :
    ∃ cipher, getCipher markingFernet { sameIdSettings with keyId := "k2" } = .ok cipher ∧
      (SafeRotation markingFernet { sameIdSettings with keyId := "k2" } cipher ↔
        KeepsCurrent markingFernet { sameIdSettings with keyId := "k2" }) := by
  have hcipher : getCipher markingFernet { sameIdSettings with keyId := "k2" }
      = .ok ⟨"k2", [("k2", newKey), ("k1", oldKey)]⟩ := ok_of_toOption (by decide +kernel)
  exact ⟨_, hcipher, safeRotation_iff markingFernet_ideal (by decide +kernel) hcipher⟩

end NovaCart.Secrets
