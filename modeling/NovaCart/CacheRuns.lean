import NovaCart.Caching

/-! No lookup that starts after an invalidation returns what was loaded before it.

    Every INCR of an invalidation makes a version that nothing carries yet. So whatever carries that version or a later
    one was loaded after the commits the invalidation covers, and a lookup that starts later reads no earlier version. -/

namespace NovaCart

open Schemes

variable {s s' s₀ : CacheSys} {c : CacheCall} {ns : Namespace} {key : EntryKey} {n v since loadedAt : Nat}
  {tr : List (Taken CacheSys CacheLabel)}

/-! ### Stored values -/

theorem takeWhile_tagged (v : Nat) (rest : List Char) :
    (Nat.toDigits 10 v ++ '|' :: rest).takeWhile (fun x => x ≠ '|') = Nat.toDigits 10 v := by
  rw [List.takeWhile_append_of_pos]
  · simp
  · intro x hx
    have hdigit := Nat.isDigit_of_mem_toDigits (by decide) (by decide) hx
    simp only [ne_eq, decide_not, Bool.not_eq_eq_eq_not, Bool.not_true, decide_eq_false_iff_not]
    rintro rfl
    revert hdigit
    decide

/-- A stored value passes the test of its own version only. -/
theorem payloadFor_tagged {x : Nat} {p q : Payload} (h : payloadFor v (tagged x p) = some q) : v = x ∧ q = p := by
  rw [payloadFor, Option.ite_none_right_eq_some] at h
  obtain ⟨hstart, hdrop⟩ := h
  obtain ⟨rest, hrest⟩ := List.isPrefixOf_iff_prefix.mp hstart
  have hraw : Nat.toDigits 10 v ++ '|' :: rest = tagged x p := by rw [← hrest, List.append_assoc]; rfl
  have hdigits : Nat.toDigits 10 v = Nat.toDigits 10 x := by
    rw [← takeWhile_tagged v rest, hraw, tagged, takeWhile_tagged]
  have hv : v = x := by rw [← Nat.ofDigitChars_ten_toDigits (n := v), hdigits, Nat.ofDigitChars_ten_toDigits]
  subst hv
  have hpayload := List.append_cancel_left hraw
  rw [← hrest, List.drop_left] at hdrop
  cases hpayload
  exact ⟨rfl, (Option.some.inj hdrop).symm⟩

/-! ### What versions tell -/

/-- Versions from `v` on cover `n` commits of the namespace. -/
def Covers (s : CacheSys) (ns : Namespace) (n v : Nat) : Prop :=
  n = 0 ∨ ∃ b ∈ s.bumps, b.ns = ns ∧ n ≤ b.commits ∧ b.version ≤ v

/-- What carries version `v` was loaded after every commit that the version covers. -/
def Carries (s : CacheSys) (ns : Namespace) (v loadedAt : Nat) : Prop :=
  v ≤ s.top ns ∧ ∀ b ∈ s.bumps, b.ns = ns → b.version ≤ v → b.commits ≤ loadedAt

theorem Carries.fresh (h : Carries s ns v loadedAt) (hcovers : Covers s ns n v) : n ≤ loadedAt := by
  rcases hcovers with rfl | ⟨b, hb, hns, hn, hv⟩
  · exact Nat.zero_le _
  · have hloaded := h.2 b hb hns hv
    omega

/-- The namespaces a call has still to bump. -/
def CacheStage.pending : CacheStage → List Namespace
  | .replaying todo .ack => todo.tail
  | .replaying todo _ => todo
  | _ => []

/-- What a lookup holds is good for its answer. -/
def CacheStage.Serves (s : CacheSys) (key : EntryKey) (since : Nat) : CacheStage → Prop
  | .found v hit => v ≤ s.top key.ns ∧ Covers s key.ns since v ∧ ∀ h ∈ hit, Carries s key.ns v h.2
  | .leading id | .following id => ∃ f, s.flights.get? id = some f ∧ f.key = key ∧ Covers s key.ns since f.version
  | .loading loadedAt => since ≤ loadedAt
  | .storing v _ loadedAt => since ≤ loadedAt ∧ Carries s key.ns v loadedAt
  | _ => True

def CacheCall.Fits (s : CacheSys) (c : CacheCall) : Prop :=
  match c.task with
  | .invalidate covered => ∀ e ∈ covered, e.2 ≤ s.commits e.1 ∧
      (e.1 ∈ c.stage.pending ∨ Covers s e.1 e.2 (s.top e.1))
  | .lookup key since => since ≤ s.commits key.ns ∧ Covers s key.ns since (s.top key.ns) ∧ c.stage.Serves s key since

structure CacheInv (s : CacheSys) : Prop where
  version : ∀ ns, ∀ v ∈ s.version ns, v = s.top ns
  bumps : ∀ b ∈ s.bumps, b.version ≤ s.top b.ns ∧ b.commits ≤ s.commits b.ns
  completed : ∀ ns, Covers s ns (s.completed ns) (s.top ns)
  entries : ∀ key, ∀ e ∈ s.entries key, ∃ v p, e.raw = tagged v p ∧ Carries s key.ns v e.loadedAt
  flights : ∀ f ∈ s.flights.rows, Carries s f.key.ns f.version f.loadedAt
  calls : ∀ c ∈ s.calls.rows, c.Fits s
  answers : ∀ a ∈ s.answers, a.since ≤ a.loadedAt

/-! ### What grows -/

/-- Versions and commits only grow, and a new bump makes a version larger than all before. -/
structure Extends (s s' : CacheSys) : Prop where
  top : ∀ ns, s.top ns ≤ s'.top ns
  commits : ∀ ns, s.commits ns ≤ s'.commits ns
  bumps : ∀ b ∈ s.bumps, b ∈ s'.bumps
  newer : ∀ b ∈ s'.bumps, b ∈ s.bumps ∨ s.top b.ns < b.version
  flights : ∀ id f, s.flights.get? id = some f →
    ∃ f', s'.flights.get? id = some f' ∧ f'.key = f.key ∧ f'.version = f.version

theorem Covers.mono (h : Extends s s') {w : Nat} (hw : v ≤ w) (hcovers : Covers s ns n v) : Covers s' ns n w := by
  rcases hcovers with h0 | ⟨b, hb, hns, hn, hv⟩
  · exact .inl h0
  · exact .inr ⟨b, h.bumps b hb, hns, hn, hv.trans hw⟩

theorem Carries.mono (h : Extends s s') (hcarries : Carries s ns v loadedAt) : Carries s' ns v loadedAt := by
  refine ⟨hcarries.1.trans (h.top ns), fun b hb hns hv => ?_⟩
  rcases h.newer b hb with hold | hnew
  · exact hcarries.2 b hold hns hv
  · -- a bump made since has a version that nothing carried
    have hle := hcarries.1
    rw [hns] at hnew
    omega

theorem CacheStage.Serves.mono (h : Extends s s') {stage : CacheStage} (hserves : stage.Serves s key since) :
    stage.Serves s' key since := by
  cases stage with
  | replaying | invalidated | reading | initialising | fetching => trivial
  | loading => exact hserves
  | found v hit =>
    obtain ⟨hv, hcovers, hhit⟩ := hserves
    exact ⟨hv.trans (h.top _), hcovers.mono h (Nat.le_refl _), fun x hx => (hhit x hx).mono h⟩
  | leading id | following id =>
    obtain ⟨f, hget, hkey, hcovers⟩ := hserves
    obtain ⟨f', hget', hkey', hversion⟩ := h.flights id f hget
    exact ⟨f', hget', hkey'.trans hkey, hcovers.mono h (Nat.le_of_eq hversion.symm)⟩
  | storing v p loadedAt => exact ⟨hserves.1, hserves.2.mono h⟩

theorem CacheCall.Fits.mono (h : Extends s s') (hfits : c.Fits s) : c.Fits s' := by
  unfold CacheCall.Fits at hfits ⊢
  cases htask : c.task with
  | invalidate covered =>
    rw [htask] at hfits
    intro e he
    obtain ⟨hcommits, hone⟩ := hfits e he
    exact ⟨hcommits.trans (h.commits _), hone.imp_right fun hcovers => hcovers.mono h (h.top _)⟩
  | lookup key since =>
    rw [htask] at hfits
    exact ⟨hfits.1.trans (h.commits _), hfits.2.1.mono h (h.top _), hfits.2.2.mono h⟩

theorem Extends.of_bumps (hbumps : s'.bumps = s.bumps) (htop : ∀ ns, s.top ns ≤ s'.top ns)
    (hcommits : ∀ ns, s.commits ns ≤ s'.commits ns) (hflights : s'.flights = s.flights) : Extends s s' where
  top := htop
  commits := hcommits
  bumps _ hb := hbumps ▸ hb
  newer _ hb := .inl (hbumps ▸ hb)
  flights _ f hget := ⟨f, hflights ▸ hget, rfl, rfl⟩

theorem inflight_some {process : Nat} {f : Flight} (h : s.inflight process key v = some f) :
    f ∈ s.flights.rows ∧ f.key = key ∧ f.version = v := by
  have hall := List.find?_some (p := fun f : Flight =>
    decide (f.process = process ∧ f.key = key ∧ f.version = v ∧ f.result = none)) h
  have hof := of_decide_eq_true hall
  exact ⟨List.mem_of_find?_eq_some h, hof.2.1, hof.2.2.1⟩

/-! ### Keeping the invariant -/

namespace CacheInv

theorem goOn (hinv : CacheInv s) (hc : c ∈ s.calls.rows) {stage : CacheStage}
    (hfits : CacheCall.Fits s { c with stage := stage }) : CacheInv (s.goOn c stage) where
  version := hinv.version
  bumps := hinv.bumps
  completed := hinv.completed
  entries := hinv.entries
  flights := hinv.flights
  calls x hx := by
    have hget : s.calls.get? c.id = some c := Table.get?_of_mem hc
    rcases (Table.mem_replace (q := { c with stage := stage }) hget).mp hx with rfl | ⟨hold, _⟩
    · exact hfits
    · exact hinv.calls x hold
  answers := hinv.answers

theorem end_ (hinv : CacheInv s) (c : CacheCall) : CacheInv (s.end_ c) where
  version := hinv.version
  bumps := hinv.bumps
  completed := hinv.completed
  entries := hinv.entries
  flights := hinv.flights
  calls x hx := hinv.calls x (Table.mem_erase.mp hx).1
  answers := hinv.answers

theorem answer (hinv : CacheInv s) (c : CacheCall) {payload : Payload} (hfresh : since ≤ loadedAt) :
    CacheInv (s.answer c key since payload loadedAt) where
  version := hinv.version
  bumps := hinv.bumps
  completed := hinv.completed
  entries := hinv.entries
  flights := hinv.flights
  calls := (hinv.end_ c).calls
  answers a ha := by
    rcases List.mem_cons.mp ha with rfl | hold
    · exact hfresh
    · exact hinv.answers a hold

theorem begin_ (hinv : CacheInv s) {process : Nat} {task : CacheTask} {stage : CacheStage}
    (hfits : CacheCall.Fits s ⟨s.next, process, task, stage⟩) (h : s.begin_ process task stage = some s') :
    CacheInv s' := by
  obtain ⟨calls, hinsert, h⟩ := Option.bind_eq_some_iff.mp h
  cases h
  refine ⟨hinv.version, hinv.bumps, hinv.completed, hinv.entries, hinv.flights, fun x hx => ?_, hinv.answers⟩
  rcases (Table.mem_insert? hinsert).mp hx with rfl | hold
  · exact hfits
  · exact hinv.calls x hold

/-- A step that leaves entries, flights and answers alone, and has no call but the old ones. -/
theorem grow (hinv : CacheInv s) (hext : Extends s s') (hversion : ∀ ns, ∀ v ∈ s'.version ns, v = s'.top ns)
    (hbumps : ∀ b ∈ s'.bumps, b.version ≤ s'.top b.ns ∧ b.commits ≤ s'.commits b.ns)
    (hcompleted : s'.completed = s.completed) (hentries : ∀ key, ∀ e ∈ s'.entries key, e ∈ s.entries key)
    (hflights : s'.flights = s.flights) (hcalls : s'.calls = s.calls) (hanswers : s'.answers = s.answers) :
    CacheInv s' where
  version := hversion
  bumps := hbumps
  completed ns := by
    rw [hcompleted]
    exact (hinv.completed ns).mono hext (hext.top ns)
  entries key e he := by
    obtain ⟨v, p, hraw, hcarries⟩ := hinv.entries key e (hentries key e he)
    exact ⟨v, p, hraw, hcarries.mono hext⟩
  flights f hf := (hinv.flights f (hflights ▸ hf)).mono hext
  calls c hc := (hinv.calls c (hcalls ▸ hc)).mono hext
  answers a ha := hinv.answers a (hanswers ▸ ha)

theorem commit (hinv : CacheInv s) (namespaces : List Namespace) : CacheInv { s with
    commits := fun ns => if ns ∈ namespaces then s.commits ns + 1 else s.commits ns } := by
  have hcommits : ∀ ns, s.commits ns ≤ if ns ∈ namespaces then s.commits ns + 1 else s.commits ns := by
    intro ns
    split <;> omega
  refine hinv.grow (.of_bumps rfl (fun _ => Nat.le_refl _) hcommits rfl) hinv.version (fun b hb => ?_) rfl
    (fun _ _ he => he) rfl rfl rfl
  exact ⟨(hinv.bumps b hb).1, (hinv.bumps b hb).2.trans (hcommits b.ns)⟩

/-- A version key vanishes; the largest version is remembered. -/
theorem loseVersion (hinv : CacheInv s) (ns : Namespace) :
    CacheInv { s with version := Function.update s.version ns none } := by
  refine hinv.grow (.of_bumps rfl (fun _ => Nat.le_refl _) (fun _ => Nat.le_refl _) rfl) (fun m v hv => ?_) hinv.bumps
    rfl (fun _ _ he => he) rfl rfl rfl
  replace hv : v ∈ Function.update s.version ns none m := hv
  rw [Function.update_apply] at hv
  split at hv
  · cases hv
  · exact hinv.version m v hv

theorem dropEntry (hinv : CacheInv s) (key : EntryKey) :
    CacheInv { s with entries := Function.update s.entries key none } := by
  refine hinv.grow (.of_bumps rfl (fun _ => Nat.le_refl _) (fun _ => Nat.le_refl _) rfl) hinv.version hinv.bumps
    rfl (fun k e he => ?_) rfl rfl rfl
  replace he : e ∈ Function.update s.entries key none k := he
  rw [Function.update_apply] at he
  split at he
  · cases he
  · exact he

/-! ### Versions -/

/-- A key gets a version that it never had; bumps that make this version may come with it. -/
theorem newVersion (hinv : CacheInv s) (hv : s.top ns < v) (bumps : List Bump)
    (hnew : ∀ b ∈ bumps, b.ns = ns ∧ b.version = v ∧ b.commits ≤ s.commits ns) :
    Extends s { s.putVersion ns v with bumps := bumps ++ s.bumps } ∧
      CacheInv { s.putVersion ns v with bumps := bumps ++ s.bumps } := by
  have htop : ∀ m, (s.putVersion ns v).top m = if m = ns then v else s.top m := by
    intro m
    show Function.update s.top ns (max v (s.top ns)) m = _
    rw [Function.update_apply]
    split
    · omega
    · rfl
  have hle : ∀ m, s.top m ≤ (s.putVersion ns v).top m := by
    intro m
    rw [htop]
    split
    · subst m; omega
    · exact Nat.le_refl _
  have hext : Extends s { s.putVersion ns v with bumps := bumps ++ s.bumps } := {
    top := hle
    commits := fun _ => Nat.le_refl _
    bumps := fun b hb => List.mem_append_right _ hb
    newer := fun b hb => by
      rcases List.mem_append.mp hb with hb | hb
      · obtain ⟨hns, hversion, _⟩ := hnew b hb
        rw [hns, hversion]
        exact .inr hv
      · exact .inl hb
    flights := fun _ f hget => ⟨f, hget, rfl, rfl⟩ }
  refine ⟨hext, hinv.grow hext (fun m w hw => ?_) (fun b hb => ?_) rfl (fun _ _ he => he) rfl rfl rfl⟩
  · replace hw : w ∈ Function.update s.version ns (some v) m := hw
    show w = (s.putVersion ns v).top m
    rw [Function.update_apply] at hw
    rw [htop]
    split at hw
    · rw [if_pos ‹_›]
      exact (Option.some.inj hw).symm
    · rw [if_neg ‹_›]
      exact hinv.version m w hw
  · show b.version ≤ (s.putVersion ns v).top b.ns ∧ b.commits ≤ s.commits b.ns
    rcases List.mem_append.mp hb with hb | hb
    · obtain ⟨hns, hversion, hcommits⟩ := hnew b hb
      rw [htop, if_pos hns, hns]
      exact ⟨Nat.le_of_eq hversion, hcommits⟩
    · exact ⟨(hinv.bumps b hb).1.trans (hle b.ns), (hinv.bumps b hb).2⟩

theorem setVersionNx (hinv : CacheInv s) (hv : s.version ns = none → s.top ns < v) :
    Extends s (s.setVersionNx ns v) ∧ CacheInv (s.setVersionNx ns v) := by
  unfold CacheSys.setVersionNx
  cases hversion : s.version ns with
  | none => exact hinv.newVersion (hv hversion) [] fun b hb => by cases hb
  | some w =>
    exact ⟨.of_bumps rfl (fun _ => Nat.le_refl _) (fun _ => Nat.le_refl _) rfl, hinv⟩

/-- After the INCR the call has covered what it was to cover of this namespace. -/
theorem incr (hinv : CacheInv s) (hc : c ∈ s.calls.rows)
    (hv : s.version ns = none → s.top ns < 1) :
    Extends s (s.incr c ns) ∧ CacheInv (s.incr c ns) := by
  have hnext : s.top ns < (s.version ns).getD 0 + 1 := by
    cases hversion : s.version ns with
    | none => exact hv hversion
    | some w =>
      have htop := hinv.version ns w hversion
      rw [Option.getD_some]
      omega
  refine hinv.newVersion hnext _ fun b hb => ?_
  have hfits := hinv.calls c hc
  unfold CacheCall.Fits at hfits
  cases htask : c.task with
  | lookup key since =>
    rw [htask] at hb
    cases hb
  | invalidate covered =>
    rw [htask] at hb hfits
    obtain ⟨e, he, rfl⟩ := List.mem_map.mp hb
    obtain ⟨hmem, hns⟩ := List.mem_filter.mp he
    refine ⟨rfl, rfl, ?_⟩
    have hcommits := (hfits e hmem).1
    rwa [of_decide_eq_true hns] at hcommits

/-! ### Landing and storing -/

/-- A future has its result. -/
theorem land (hinv : CacheInv s) {f : Flight} (hf : f ∈ s.flights.rows) (result : Option Payload) :
    Extends s (s.land f result) ∧ CacheInv (s.land f result) := by
  have hget : s.flights.get? f.id = some f := Table.get?_of_mem hf
  have hself : (s.land f result).flights.get? f.id = some { f with result := some result } :=
    @Table.get?_replace_self _ _ _ _ s.flights _ { f with result := some result } hget
  have hkeep {id : Nat} (hid : id ≠ f.id) : (s.land f result).flights.get? id = s.flights.get? id :=
    @Table.get?_replace_of_ne _ _ _ _ s.flights { f with result := some result } _ hid
  have hext : Extends s (s.land f result) := {
    top := fun _ => Nat.le_refl _
    commits := fun _ => Nat.le_refl _
    bumps := fun _ hb => hb
    newer := fun _ hb => .inl hb
    flights := fun id g hg => by
      by_cases hid : id = f.id
      · subst hid
        obtain rfl := Option.some.inj (hg.symm.trans hget)
        exact ⟨_, hself, rfl, rfl⟩
      · exact ⟨g, (hkeep hid).trans hg, rfl, rfl⟩ }
  refine ⟨hext, hinv.version, hinv.bumps, hinv.completed, hinv.entries, fun g hg => ?_, fun x hx => ?_, hinv.answers⟩
  · rcases (Table.mem_replace (q := { f with result := some result }) hget).mp hg with rfl | ⟨hold, _⟩
    · exact hinv.flights f hf
    · exact hinv.flights g hold
  · exact (hinv.calls x hx).mono hext

theorem store (hinv : CacheInv s) (c : CacheCall) {payload : Payload} (hfresh : since ≤ loadedAt)
    (hcarries : Carries s key.ns v loadedAt) : CacheInv (s.store c key since v payload loadedAt) := by
  have hinv' := @answer _ key _ _ hinv c payload hfresh
  refine ⟨hinv'.version, hinv'.bumps, hinv'.completed, fun k e he => ?_, hinv'.flights, hinv'.calls, hinv'.answers⟩
  replace he : e ∈ Function.update s.entries key (some ⟨tagged v payload, loadedAt⟩) k := he
  rw [Function.update_apply] at he
  split at he
  · obtain rfl := Option.some.inj he
    subst k
    exact ⟨v, payload, rfl, hcarries⟩
  · exact hinv.entries k e he

/-! ### Steps of the calls -/

/-- What the invariant says of a lookup. -/
theorem fits_lookup (hinv : CacheInv s) (hc : c ∈ s.calls.rows) (htask : c.task = .lookup key since) :
    since ≤ s.commits key.ns ∧ Covers s key.ns since (s.top key.ns) ∧ c.stage.Serves s key since := by
  have hfits := hinv.calls c hc
  unfold CacheCall.Fits at hfits
  rwa [htask] at hfits

/-- The next stage of a lookup owes only what it serves. -/
theorem goOn_lookup (hinv : CacheInv s) (hc : c ∈ s.calls.rows) (htask : c.task = .lookup key since) {stage : CacheStage}
    (hserves : stage.Serves s key since) : CacheInv (s.goOn c stage) := by
  obtain ⟨hsince, hcovers, _⟩ := hinv.fits_lookup hc htask
  refine hinv.goOn hc ?_
  unfold CacheCall.Fits
  rw [show ({ c with stage := stage } : CacheCall).task = .lookup key since from htask]
  exact ⟨hsince, hcovers, hserves⟩

/-- A stage with the same namespaces to bump, and nothing held for an answer. -/
theorem goOn_replay (hinv : CacheInv s) (hc : c ∈ s.calls.rows) {stage : CacheStage}
    (hpending : ∀ covered, c.task = .invalidate covered → ∀ e ∈ covered, e.1 ∈ c.stage.pending →
      e.1 ∈ stage.pending ∨ Covers s e.1 e.2 (s.top e.1))
    (hserves : ∀ key since, c.task = .lookup key since → stage.Serves s key since) : CacheInv (s.goOn c stage) := by
  cases htask : c.task with
  | lookup key since => exact hinv.goOn_lookup hc htask (hserves key since htask)
  | invalidate covered =>
    have hfits := hinv.calls c hc
    unfold CacheCall.Fits at hfits
    rw [htask] at hfits
    refine hinv.goOn hc ?_
    unfold CacheCall.Fits
    rw [show ({ c with stage := stage } : CacheCall).task = .invalidate covered from htask]
    intro e he
    obtain ⟨hcommits, hone⟩ := hfits e he
    refine ⟨hcommits, ?_⟩
    rcases hone with hpend | hcovers
    · exact hpending covered htask e he hpend
    · exact .inr hcovers

theorem ack (hinv : CacheInv s) (hc : c ∈ s.calls.rows) {todo : List Namespace}
    (hstage : c.stage = .replaying (ns :: todo) .ack) : CacheInv (s.ack c ns todo) := by
  have hmissed : CacheInv { s with missed := s.missed.filter (· ≠ (c.process, ns)) } :=
    ⟨hinv.version, hinv.bumps, hinv.completed, hinv.entries, hinv.flights, hinv.calls, hinv.answers⟩
  refine hmissed.goOn_replay hc (fun covered htask e he hpend => ?_) (fun key since htask => ?_)
  · rw [hstage] at hpend
    by_cases htodo : todo = []
    · subst htodo
      cases hpend
    · rw [if_neg htodo]
      exact .inl hpend
  · rw [htask]
    by_cases htodo : todo = []
    · rw [if_pos htodo]; trivial
    · rw [if_neg htodo]; trivial

theorem finish (hinv : CacheInv s) (hc : c ∈ s.calls.rows) {covered : List (Namespace × Nat)}
    (hstage : c.stage = .invalidated) (htask : c.task = .invalidate covered) : CacheInv (s.finish c covered) := by
  have hend := hinv.end_ c
  refine ⟨hend.version, hend.bumps, fun ns => ?_, hend.entries, hend.flights, hend.calls, hend.answers⟩
  have hfits := hinv.calls c hc
  unfold CacheCall.Fits at hfits
  rw [htask, hstage] at hfits
  have hall : ∀ n ∈ (covered.filter fun x => x.1 = ns).map (·.2), Covers s ns n (s.top ns) := by
    intro n hn
    obtain ⟨e, he, rfl⟩ := List.mem_map.mp hn
    obtain ⟨hmem, hns⟩ := List.mem_filter.mp he
    obtain rfl := of_decide_eq_true hns
    rcases (hfits e hmem).2 with hpend | hcovers
    · cases hpend
    · exact hcovers
  have hmax : ∀ (l : List Nat) (m : Nat), Covers s ns m (s.top ns) → (∀ n ∈ l, Covers s ns n (s.top ns)) →
      Covers s ns (l.foldl max m) (s.top ns) := by
    intro l
    induction l with
    | nil => exact fun _ hm _ => hm
    | cons n l ih =>
      intro m hm hl
      refine ih (max m n) ?_ fun k hk => hl k (List.mem_cons_of_mem _ hk)
      rcases Nat.le_total m n with hle | hle
      · rw [Nat.max_eq_right hle]
        exact hl n List.mem_cons_self
      · rw [Nat.max_eq_left hle]
        exact hm
  exact hmax _ _ (hinv.completed ns) hall

theorem read (hinv : CacheInv s) (hc : c ∈ s.calls.rows) (htask : c.task = .lookup key since) : CacheInv (s.read c key) := by
  unfold CacheSys.read
  cases hversion : s.version key.ns with
  | none => exact hinv.goOn_lookup hc htask trivial
  | some v =>
    refine hinv.goOn_lookup hc htask ?_
    obtain rfl := hinv.version key.ns v hversion
    refine ⟨Nat.le_refl _, (hinv.fits_lookup hc htask).2.1, fun h hh => ?_⟩
    obtain ⟨e, he, hh⟩ := Option.bind_eq_some_iff.mp hh
    obtain ⟨p, hp, rfl⟩ := Option.map_eq_some_iff.mp hh
    obtain ⟨v, q, hraw, hcarries⟩ := hinv.entries key e he
    rw [hraw] at hp
    rw [(payloadFor_tagged hp).1]
    exact hcarries

theorem fetch (hinv : CacheInv s) (hc : c ∈ s.calls.rows) (htask : c.task = .lookup key since) :
    CacheInv (s.fetch c key) := by
  unfold CacheSys.fetch
  cases hversion : s.version key.ns with
  | none => exact hinv.end_ c
  | some v =>
    refine hinv.goOn_lookup hc htask ?_
    obtain rfl := hinv.version key.ns v hversion
    exact ⟨Nat.le_refl _, (hinv.fits_lookup hc htask).2.1, fun h hh => by cases hh⟩

/-- A query that is joined carries the version that the lookup found; one that starts is loaded after everything. -/
theorem proceed (hinv : CacheInv s) (hc : c ∈ s.calls.rows) (htask : c.task = .lookup key since)
    {hit : Option (Payload × Nat)} (hstage : c.stage = .found v hit) (h : s.proceed c key since v hit = some s') :
    CacheInv s' := by
  obtain ⟨hsince, _, hserves⟩ := hinv.fits_lookup hc htask
  rw [hstage] at hserves
  obtain ⟨hv, hcovers, hhit⟩ := hserves
  unfold CacheSys.proceed at h
  cases hit with
  | some x =>
    cases h
    exact hinv.answer c ((hhit x rfl).fresh hcovers)
  | none =>
    cases hflight : s.inflight c.process key v with
    | some f =>
      rw [hflight] at h
      cases h
      obtain ⟨hf, hkey, hversion⟩ := inflight_some hflight
      refine hinv.goOn_lookup hc htask ⟨f, Table.get?_of_mem hf, hkey, ?_⟩
      rw [hversion]
      exact hcovers
    | none =>
      rw [hflight] at h
      obtain ⟨flights, hinsert, h⟩ := Option.bind_eq_some_iff.mp h
      cases h
      have hext : Extends s { s with flights := flights, next := s.next + 1 } := {
        top := fun _ => Nat.le_refl _
        commits := fun _ => Nat.le_refl _
        bumps := fun _ hb => hb
        newer := fun _ hb => .inl hb
        flights := fun id f hget => ⟨f, Table.get?_insert?_of_some hinsert hget, rfl, rfl⟩ }
      have hinv' : CacheInv { s with flights := flights, next := s.next + 1 } := by
        refine ⟨hinv.version, hinv.bumps, hinv.completed, hinv.entries, fun f hf => ?_, fun x hx => ?_, hinv.answers⟩
        · rcases (Table.mem_insert? hinsert).mp hf with rfl | hold
          · refine ⟨hv, fun b hb hns _ => ?_⟩
            have hcommits := (hinv.bumps b hb).2
            rwa [hns] at hcommits
          · exact hinv.flights f hold
        · exact (hinv.calls x hx).mono hext
      have hnew : flights.get? s.next = some ⟨s.next, c.process, key, v, s.commits key.ns, none⟩ :=
        Table.get?_of_mem ((Table.mem_insert? hinsert).mpr (.inl rfl))
      exact hinv'.goOn_lookup hc htask ⟨_, hnew, rfl, hcovers⟩

theorem loaded (hinv : CacheInv s) (hc : c ∈ s.calls.rows) (htask : c.task = .lookup key since) {payload : Payload}
    (h : s.loaded c key since payload = some s') : CacheInv s' := by
  have hserves := (hinv.fits_lookup hc htask).2.2
  unfold CacheSys.loaded at h
  cases hstage : c.stage with
  | loading loadedAt =>
    rw [hstage] at h hserves
    cases h
    exact hinv.answer c hserves
  | leading id =>
    rw [hstage] at h hserves
    obtain ⟨f, hget, h⟩ := Option.bind_eq_some_iff.mp h
    cases h
    obtain ⟨f', hget', hkey, hcovers⟩ := hserves
    obtain rfl := Option.some.inj (hget'.symm.trans hget)
    have hf := Table.mem_of_get? hget
    have hcarries := hinv.flights f' hf
    rw [hkey] at hcarries
    obtain ⟨hext, hinv'⟩ := hinv.land hf (some payload)
    exact hinv'.goOn_lookup hc htask ⟨hcarries.fresh hcovers, hcarries.mono hext⟩
  | replaying | invalidated | reading | initialising | fetching | found | following | storing =>
    rw [hstage] at h
    cases h

theorem share (hinv : CacheInv s) (hc : c ∈ s.calls.rows) (htask : c.task = .lookup key since) {flight : Nat}
    (hstage : c.stage = .following flight) (h : s.share c key since flight = some s') : CacheInv s' := by
  obtain ⟨hsince, _, hserves⟩ := hinv.fits_lookup hc htask
  rw [hstage] at hserves
  obtain ⟨f, hget, hkey, hcovers⟩ := hserves
  obtain ⟨f', hget', h⟩ := Option.bind_eq_some_iff.mp h
  obtain rfl := Option.some.inj (hget.symm.trans hget')
  have hcarries := hinv.flights f (Table.mem_of_get? hget)
  rw [hkey] at hcarries
  cases hresult : f.result with
  | none => rw [hresult] at h; cases h
  | some result =>
    rw [hresult] at h
    cases result with
    | some payload =>
      cases h
      exact hinv.answer c (hcarries.fresh hcovers)
    | none =>
      cases h
      exact hinv.goOn_lookup hc htask hsince

theorem fail (hinv : CacheInv s) (c : CacheCall) : CacheInv (s.fail c) := by
  unfold CacheSys.fail
  cases hstage : c.stage with
  | leading id =>
    cases hget : s.flights.get? id with
    | none => simpa [hget] using hinv.end_ c
    | some f => simpa [hget] using (hinv.land (Table.mem_of_get? hget) none).2.end_ c
  | replaying | invalidated | reading | initialising | fetching | found | following | loading | storing =>
    exact hinv.end_ c

/-- The call that a label names takes its step. -/
theorem call (hinv : CacheInv s) (hc : c ∈ s.calls.rows) {l : CacheLabel} (h : c.step s l = some s')
    (hre : Reinitialises ⟨s, l, s'⟩) : CacheInv s' := by
  cases l with
  | commit | invalidate | lookup | loseVersion | dropEntry => cases h
  | setNx id v =>
    simp only [CacheCall.step] at h
    split at h
    · rename_i ns todo hstage
      cases h
      have hlarger : s.version ns = none → s.top ns < v := fun hnone => hre ns hnone v (by
        simp [CacheSys.setVersionNx, CacheSys.goOn, CacheSys.putVersion, hnone])
      obtain ⟨hext, hinv'⟩ := hinv.setVersionNx hlarger
      have hc' : c ∈ (s.setVersionNx ns v).calls.rows := by
        unfold CacheSys.setVersionNx
        cases s.version ns <;> exact hc
      refine hinv'.goOn_replay hc' (fun covered _ e _ hpend => .inl ?_) fun _ _ _ => trivial
      rwa [hstage] at hpend
    · rename_i key since hstage htask
      cases h
      have hlarger : s.version key.ns = none → s.top key.ns < v := fun hnone => hre key.ns hnone v (by
        simp [CacheSys.setVersionNx, CacheSys.goOn, CacheSys.putVersion, hnone])
      obtain ⟨hext, hinv'⟩ := hinv.setVersionNx hlarger
      have hc' : c ∈ (s.setVersionNx key.ns v).calls.rows := by
        unfold CacheSys.setVersionNx
        cases s.version key.ns <;> exact hc
      exact hinv'.goOn_lookup hc' htask trivial
    · cases h
  | incr id =>
    simp only [CacheCall.step] at h
    split at h
    · rename_i ns todo hstage
      cases h
      have hlarger : s.version ns = none → s.top ns < 1 := fun hnone => hre ns hnone 1 (by
        simp [CacheSys.incr, CacheSys.goOn, CacheSys.putVersion, hnone])
      obtain ⟨hext, hinv'⟩ := hinv.incr hc hlarger
      refine hinv'.goOn_replay hc (fun covered htask e he hpend => ?_) fun _ _ _ => trivial
      rw [hstage] at hpend
      rcases List.mem_cons.mp hpend with rfl | htodo
      · refine .inr (.inr ⟨⟨e.1, e.2, (s.version e.1).getD 0 + 1⟩, ?_, rfl, Nat.le_refl _, ?_⟩)
        · refine List.mem_append_left _ ?_
          rw [htask]
          exact List.mem_map.mpr ⟨e, List.mem_filter.mpr ⟨he, decide_eq_true rfl⟩, rfl⟩
        · show _ ≤ Function.update s.top e.1 _ e.1
          rw [Function.update_self]
          exact Nat.le_max_left _ _
      · exact .inl htodo
    · cases h
  | ack id =>
    simp only [CacheCall.step] at h
    split at h
    · rename_i ns todo hstage
      cases h
      exact hinv.ack hc hstage
    · cases h
  | finish id =>
    simp only [CacheCall.step] at h
    split at h
    · rename_i covered hstage htask
      cases h
      exact hinv.finish hc hstage htask
    · cases h
  | read id =>
    simp only [CacheCall.step] at h
    split at h
    · rename_i key since hstage htask
      cases h
      exact hinv.read hc htask
    · cases h
  | fetch id =>
    simp only [CacheCall.step] at h
    split at h
    · rename_i key since hstage htask
      cases h
      exact hinv.fetch hc htask
    · cases h
  | proceed id =>
    simp only [CacheCall.step] at h
    split at h
    · rename_i v hit key since hstage htask
      exact hinv.proceed hc htask hstage h
    · cases h
  | loaded id payload =>
    simp only [CacheCall.step] at h
    split at h
    · rename_i key since htask
      exact hinv.loaded hc htask h
    · cases h
  | share id =>
    simp only [CacheCall.step] at h
    split at h
    · rename_i flight key since hstage htask
      exact hinv.share hc htask hstage h
    · cases h
  | store id =>
    simp only [CacheCall.step] at h
    split at h
    · rename_i v payload loadedAt key since hstage htask
      cases h
      have hserves := (hinv.fits_lookup hc htask).2.2
      rw [hstage] at hserves
      exact hinv.store c hserves.1 hserves.2
    · cases h
  | fail id =>
    cases h
    exact hinv.fail c

theorem invalidate (hinv : CacheInv s) {process : Nat} {namespaces order : List Namespace}
    (h : s.invalidate process namespaces order = some s') : CacheInv s' := by
  obtain ⟨⟨_, horder⟩, h⟩ := Option.ite_none_right_eq_some.mp h
  have hmissed : CacheInv { s with missed := s.missed ∪ namespaces.map fun ns => (process, ns) } :=
    ⟨hinv.version, hinv.bumps, hinv.completed, hinv.entries, hinv.flights, hinv.calls, hinv.answers⟩
  refine hmissed.begin_ ?_ h
  intro e he
  obtain ⟨ns, hns, rfl⟩ := List.mem_map.mp he
  refine ⟨Nat.le_refl _, .inl (horder.mem_iff.mpr ?_)⟩
  refine List.mem_map.mpr ⟨(process, ns), List.mem_filter.mpr ⟨?_, decide_eq_true rfl⟩, rfl⟩
  exact List.mem_union_iff.mpr (.inr (List.mem_map.mpr ⟨ns, hns, rfl⟩))

theorem lookup (hinv : CacheInv s) {process : Nat} {cacheable : Bool} {order : List Namespace}
    (h : s.lookup process key cacheable order = some s') : CacheInv s' := by
  obtain ⟨_, h⟩ := Option.ite_none_right_eq_some.mp h
  refine hinv.begin_ ?_ h
  have hcovers := hinv.completed key.ns
  have hsince : s.completed key.ns ≤ s.commits key.ns := by
    rcases hcovers with h0 | ⟨b, hb, hns, hle, _⟩
    · omega
    · have hcommits := (hinv.bumps b hb).2
      rw [hns] at hcommits
      omega
  refine ⟨hsince, hcovers, ?_⟩
  split
  · exact hsince
  · split <;> trivial

theorem step (hinv : CacheInv s) {l : CacheLabel} (h : cacheStep s l = some s') (hre : Reinitialises ⟨s, l, s'⟩) :
    CacheInv s' := by
  cases l with
  | commit namespaces => cases h; exact hinv.commit namespaces
  | loseVersion ns => cases h; exact hinv.loseVersion ns
  | dropEntry key => cases h; exact hinv.dropEntry key
  | invalidate process namespaces order => exact hinv.invalidate h
  | lookup process key cacheable order => exact hinv.lookup h
  | setNx | incr | ack | finish | read | fetch | proceed | loaded | share | store | fail =>
    obtain ⟨c, hget, h⟩ := Option.bind_eq_some_iff.mp h
    exact hinv.call (Table.mem_of_get? hget) h hre

end CacheInv

theorem CacheSys.Initial.inv (h₀ : s₀.Initial) : CacheInv s₀ := by
  refine ⟨fun ns v hv => ?_, fun b hb => ?_, fun ns => .inl (h₀.completed ns), fun key e he => ?_, fun f hf => ?_,
    fun c hc => ?_, fun a ha => ?_⟩
  · rw [h₀.version] at hv; cases hv
  · rw [h₀.bumps] at hb; cases hb
  · rw [h₀.entries] at he; cases he
  · rw [h₀.flights] at hf; cases hf
  · rw [h₀.calls] at hc; cases hc
  · rw [h₀.answers] at ha; cases ha

theorem cache_run (h₀ : s₀.Initial) (h : CacheRun s₀ tr s) (hre : ∀ t ∈ tr, Reinitialises t) : CacheInv s := by
  induction h with
  | nil => exact h₀.inv
  | cons run hstep ih =>
    exact (ih fun t ht => hre t (List.mem_cons_of_mem _ ht)).step hstep (hre _ List.mem_cons_self)

/-! ### Freshness -/

/-- What a lookup returns was loaded after every commit that an invalidation completed before the lookup covers. -/
theorem lookups_fresh (h₀ : s₀.Initial) (h : CacheRun s₀ tr s) (hre : ∀ t ∈ tr, Reinitialises t) :
    ∀ a ∈ s.answers, a.since ≤ a.loadedAt :=
  (cache_run h₀ h hre).answers

/-- A Redis that was just started. -/
def emptyCache : CacheSys where
  version := fun _ => none
  entries := fun _ => none
  missed := []
  flights := .empty
  calls := .empty
  next := 0
  commits := fun _ => 0
  completed := fun _ => 0
  top := fun _ => 0
  bumps := []
  answers := []

theorem emptyCache_initial : emptyCache.Initial := by
  constructor
  all_goals first | rfl | exact fun _ => rfl

/-- A slow lookup stores what it loaded before a commit. The lookup after the invalidation loads again, and the one after
    the loss of the version key does too. -/
theorem lookups_fresh_slow_reader : ∃ tr s, CacheRun emptyCache tr s ∧
    (∃ a ∈ s.answers, a.payload = ['n', 'e', 'w'] ∧ a.since = 1) ∧ ∀ a ∈ s.answers, a.since ≤ a.loadedAt := by
  let key : EntryKey := ⟨.products, "page=1"⟩
  obtain ⟨tr, s, h, hanswered, hre⟩ := exists_exec cacheStep emptyCache
    (P := fun tr s => (∃ a ∈ s.answers, a.payload = ['n', 'e', 'w'] ∧ a.since = 1) ∧ ∀ t ∈ tr, Reinitialises t)
    [.lookup 1 key true [], .read 0, .setNx 0 5, .fetch 0, .proceed 0, .commit [.products],
      .invalidate 2 [.products] [.products], .setNx 2 9, .incr 2, .ack 2, .finish 2,
      .loaded 0 ['o', 'l', 'd'], .store 0, .lookup 1 key true [], .read 3, .proceed 3, .loaded 3 ['n', 'e', 'w'],
      .store 3, .loseVersion .products, .lookup 1 key true [], .read 5, .setNx 5 8, .fetch 5, .proceed 5,
      .loaded 5 ['n', 'e', 'w'], .store 5]
    (by decide)
  exact ⟨tr, s, h, hanswered, lookups_fresh emptyCache_initial h hre⟩

end NovaCart
