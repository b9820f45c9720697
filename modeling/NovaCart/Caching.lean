import NovaCart.Schemes.Run
import NovaCart.Schemes.Table

/-! The response cache (`Cache`): any number of processes over one Redis that answers.

    A step is one command at Redis, or one stretch of a process between two of its awaits. What a command answered is
    held by the call that sent it until the process goes on. Of the catalogue only the number of commits of each
    namespace is kept, and a payload carries how many there were when its loader started. -/

namespace NovaCart

open Schemes

inductive Namespace
  | categories | products
  deriving DecidableEq, Repr

instance : Fintype Namespace := ⟨{.categories, .products}, fun ns => by cases ns <;> decide⟩

/-- `_entry_key`: the namespace and a digest of the parameters. -/
structure EntryKey where
  ns : Namespace
  digest : String
  deriving DecidableEq, Repr

abbrev Payload := List Char

/-- What is stored: `f"{version}|{payload}"`. -/
def tagged (version : Nat) (payload : Payload) : List Char := Nat.toDigits 10 version ++ '|' :: payload

/-- The test of `_read` on a stored value: its payload, if it starts with this version. -/
def payloadFor (version : Nat) (raw : List Char) : Option Payload :=
  let start := Nat.toDigits 10 version ++ ['|']
  if start.isPrefixOf raw then some (raw.drop start.length) else none

structure CachedEntry where
  raw : List Char
  loadedAt : Nat
  deriving DecidableEq, Repr

/-- A future of `_inflight`, kept after it has its result for the calls that await it. -/
structure Flight where
  id : Nat
  process : Nat
  key : EntryKey
  version : Nat
  loadedAt : Nat
  /-- the payload, or none when the leader failed -/
  result : Option (Option Payload)
  deriving DecidableEq, Repr

instance : Keyed Flight Nat := ⟨Flight.id⟩

/-- What `_replay_missed` does next for the first of its namespaces. -/
inductive ReplayPhase
  | setNx | incr
  /-- the answer of the pipeline is to be read -/
  | ack
  deriving DecidableEq, Repr

inductive CacheTask
  /-- `invalidate`; with each of its namespaces the commits there were when it was called -/
  | invalidate (covered : List (Namespace × Nat))
  /-- `get_or_set`; the commits of the namespace that completed invalidations covered when it was called -/
  | lookup (key : EntryKey) (since : Nat)
  deriving DecidableEq, Repr

inductive CacheStage
  | replaying (todo : List Namespace) (phase : ReplayPhase)
  /-- `invalidate` is about to return -/
  | invalidated
  /-- the MGET of `_read` is next -/
  | reading
  /-- the version key was missing -/
  | initialising
  | fetching
  /-- the version `_read` returns, and the payload it found -/
  | found (version : Nat) (hit : Option (Payload × Nat))
  | leading (flight : Nat)
  | following (flight : Nat)
  /-- its own query, shared with nobody -/
  | loading (loadedAt : Nat)
  | storing (version : Nat) (payload : Payload) (loadedAt : Nat)
  deriving DecidableEq, Repr

structure CacheCall where
  id : Nat
  process : Nat
  task : CacheTask
  stage : CacheStage
  deriving DecidableEq, Repr

instance : Keyed CacheCall Nat := ⟨CacheCall.id⟩

/-- What a `get_or_set` call returned. -/
structure CacheAnswer where
  key : EntryKey
  payload : Payload
  since : Nat
  loadedAt : Nat
  deriving DecidableEq, Repr

/-- An INCR of an invalidation: the commits it covers and the version it made. -/
structure Bump where
  ns : Namespace
  commits : Nat
  version : Nat
  deriving DecidableEq, Repr

structure CacheSys where
  /-- the version keys at Redis -/
  version : Namespace → Option Nat
  entries : EntryKey → Option CachedEntry
  /-- `_missed` of each process -/
  missed : List (Nat × Namespace)
  flights : Table Flight
  calls : Table CacheCall
  next : Nat
  /-- the commits of each namespace so far -/
  commits : Namespace → Nat
  /-- of these, the ones that a completed invalidation covers -/
  completed : Namespace → Nat
  /-- the largest version each namespace has had -/
  top : Namespace → Nat
  bumps : List Bump
  answers : List CacheAnswer

inductive CacheLabel
  /-- a transaction commits that changed rows of these namespaces -/
  | commit (namespaces : List Namespace)
  | invalidate (process : Nat) (namespaces order : List Namespace)
  | lookup (process : Nat) (key : EntryKey) (cacheable : Bool) (order : List Namespace)
  /-- SET NX, with `_initial_version()` -/
  | setNx (callId : Nat) (initialVersion : Nat)
  | incr (callId : Nat)
  | ack (callId : Nat)
  | finish (callId : Nat)
  | read (callId : Nat)
  | fetch (callId : Nat)
  | proceed (callId : Nat)
  | loaded (callId : Nat) (payload : Payload)
  | share (callId : Nat)
  | store (callId : Nat)
  /-- its loader raises, or the request is cancelled -/
  | fail (callId : Nat)
  | loseVersion (ns : Namespace)
  | dropEntry (key : EntryKey)
  deriving DecidableEq, Repr

namespace CacheSys

def missedBy (s : CacheSys) (process : Nat) : List Namespace :=
  (s.missed.filter fun m => m.1 = process).map (·.2)

def begin_ (s : CacheSys) (process : Nat) (task : CacheTask) (stage : CacheStage) : Option CacheSys := do
  let calls ← s.calls.insert? ⟨s.next, process, task, stage⟩
  some { s with calls := calls, next := s.next + 1 }

def goOn (s : CacheSys) (c : CacheCall) (stage : CacheStage) : CacheSys :=
  { s with calls := s.calls.replace { c with stage := stage } }

def end_ (s : CacheSys) (c : CacheCall) : CacheSys := { s with calls := s.calls.erase c.id }

def answer (s : CacheSys) (c : CacheCall) (key : EntryKey) (since : Nat) (payload : Payload) (loadedAt : Nat) : CacheSys :=
  { s.end_ c with answers := ⟨key, payload, since, loadedAt⟩ :: s.answers }

/-- `invalidate` adds its namespaces to `_missed` and replays what it finds there, in the order of the set. -/
def invalidate (s : CacheSys) (process : Nat) (namespaces order : List Namespace) : Option CacheSys :=
  let s := { s with missed := s.missed ∪ namespaces.map fun ns => (process, ns) }
  if namespaces ≠ [] ∧ order.Perm (s.missedBy process) then
    s.begin_ process (.invalidate (namespaces.map fun ns => (ns, s.commits ns))) (.replaying order .setNx)
  else none

/-- `get_or_set` up to its first await. -/
def lookup (s : CacheSys) (process : Nat) (key : EntryKey) (cacheable : Bool) (order : List Namespace) :
    Option CacheSys :=
  if order.Perm (s.missedBy process) then
    s.begin_ process (.lookup key (s.completed key.ns))
      (if cacheable = false then .loading (s.commits key.ns)
        else if order = [] then .reading
        else .replaying order .setNx)
  else none

/-- A version key gets a value. -/
def putVersion (s : CacheSys) (ns : Namespace) (v : Nat) : CacheSys :=
  { s with
    version := Function.update s.version ns (some v)
    top := Function.update s.top ns (max v (s.top ns)) }

def setVersionNx (s : CacheSys) (ns : Namespace) (v : Nat) : CacheSys :=
  match s.version ns with
  | none => s.putVersion ns v
  | some _ => s

/-- The commits that this call covers with an INCR. -/
def CacheTask.bumps (ns : Namespace) (version : Nat) : CacheTask → List Bump
  | .invalidate covered => (covered.filter fun x => x.1 = ns).map fun x => ⟨ns, x.2, version⟩
  | .lookup .. => []

/-- INCR; a missing key counts from zero. -/
def incr (s : CacheSys) (c : CacheCall) (ns : Namespace) : CacheSys :=
  let v := (s.version ns).getD 0 + 1
  { s.putVersion ns v with bumps := CacheTask.bumps ns v c.task ++ s.bumps }

/-- The pipeline for the first namespace has its answer. -/
def ack (s : CacheSys) (c : CacheCall) (ns : Namespace) (todo : List Namespace) : CacheSys :=
  let s := { s with missed := s.missed.filter (· ≠ (c.process, ns)) }
  s.goOn c (if todo = [] then match c.task with
    | .invalidate _ => .invalidated
    | .lookup .. => .reading
  else .replaying todo .setNx)

def finish (s : CacheSys) (c : CacheCall) (covered : List (Namespace × Nat)) : CacheSys :=
  { s.end_ c with
    completed := fun ns => ((covered.filter fun x => x.1 = ns).map (·.2)).foldl max (s.completed ns) }

/-- The MGET of `_read`. -/
def read (s : CacheSys) (c : CacheCall) (key : EntryKey) : CacheSys :=
  match s.version key.ns with
  | none => s.goOn c .initialising
  | some v => s.goOn c (.found v ((s.entries key).bind fun e => (payloadFor v e.raw).map fun p => (p, e.loadedAt)))

/-- The GET of `_read`; without a value `int(None)` raises. -/
def fetch (s : CacheSys) (c : CacheCall) (key : EntryKey) : CacheSys :=
  match s.version key.ns with
  | none => s.end_ c
  | some v => s.goOn c (.found v none)

/-- `_inflight.get(flight_key)`. -/
def inflight (s : CacheSys) (process : Nat) (key : EntryKey) (version : Nat) : Option Flight :=
  s.flights.rows.find? fun f => f.process = process ∧ f.key = key ∧ f.version = version ∧ f.result = none

/-- A hit is returned; a miss joins the query that is in flight for its version, or starts it. -/
def proceed (s : CacheSys) (c : CacheCall) (key : EntryKey) (since version : Nat) (hit : Option (Payload × Nat)) :
    Option CacheSys :=
  match hit with
  | some (payload, loadedAt) => some (s.answer c key since payload loadedAt)
  | none =>
    match s.inflight c.process key version with
    | some f => some (s.goOn c (.following f.id))
    | none => do
      let flights ← s.flights.insert? ⟨s.next, c.process, key, version, s.commits key.ns, none⟩
      some { s.goOn c (.leading s.next) with flights := flights, next := s.next + 1 }

/-- `set_result`, with which the future leaves `_inflight`. -/
def land (s : CacheSys) (f : Flight) (result : Option Payload) : CacheSys :=
  { s with flights := s.flights.replace { f with result := some result } }

/-- The loader of a leader has returned, or that of a call on its own. -/
def loaded (s : CacheSys) (c : CacheCall) (key : EntryKey) (since : Nat) (payload : Payload) : Option CacheSys :=
  match c.stage with
  | .loading loadedAt => some (s.answer c key since payload loadedAt)
  | .leading id => do
    let f ← s.flights.get? id
    some ((s.land f (some payload)).goOn c (.storing f.version payload f.loadedAt))
  | _ => none

/-- A follower takes the shared payload, or runs its own query when the leader failed. -/
def share (s : CacheSys) (c : CacheCall) (key : EntryKey) (since flight : Nat) : Option CacheSys := do
  let f ← s.flights.get? flight
  match f.result with
  | none => none
  | some (some payload) => some (s.answer c key since payload f.loadedAt)
  | some none => some (s.goOn c (.loading (s.commits key.ns)))

/-- The SET of the entry, however late. -/
def store (s : CacheSys) (c : CacheCall) (key : EntryKey) (since version : Nat) (payload : Payload) (loadedAt : Nat) :
    CacheSys :=
  { s.answer c key since payload loadedAt with
    entries := Function.update s.entries key (some ⟨tagged version payload, loadedAt⟩) }

def fail (s : CacheSys) (c : CacheCall) : CacheSys :=
  match c.stage with
  | .leading id =>
    match s.flights.get? id with
    | some f => (s.land f none).end_ c
    | none => s.end_ c
  | _ => s.end_ c

end CacheSys

/-- What a label does to the call it names. -/
def CacheCall.step (s : CacheSys) (c : CacheCall) : CacheLabel → Option CacheSys
  | .setNx _ v =>
    match c.stage, c.task with
    | .replaying (ns :: todo) .setNx, _ => some ((s.setVersionNx ns v).goOn c (.replaying (ns :: todo) .incr))
    | .initialising, .lookup key _ => some ((s.setVersionNx key.ns v).goOn c .fetching)
    | _, _ => none
  | .incr _ =>
    match c.stage with
    | .replaying (ns :: todo) .incr => some ((s.incr c ns).goOn c (.replaying (ns :: todo) .ack))
    | _ => none
  | .ack _ =>
    match c.stage with
    | .replaying (ns :: todo) .ack => some (s.ack c ns todo)
    | _ => none
  | .finish _ =>
    match c.stage, c.task with
    | .invalidated, .invalidate covered => some (s.finish c covered)
    | _, _ => none
  | .read _ =>
    match c.stage, c.task with
    | .reading, .lookup key _ => some (s.read c key)
    | _, _ => none
  | .fetch _ =>
    match c.stage, c.task with
    | .fetching, .lookup key _ => some (s.fetch c key)
    | _, _ => none
  | .proceed _ =>
    match c.stage, c.task with
    | .found v hit, .lookup key since => s.proceed c key since v hit
    | _, _ => none
  | .loaded _ payload =>
    match c.task with
    | .lookup key since => s.loaded c key since payload
    | _ => none
  | .share _ =>
    match c.stage, c.task with
    | .following f, .lookup key since => s.share c key since f
    | _, _ => none
  | .store _ =>
    match c.stage, c.task with
    | .storing v payload loadedAt, .lookup key since => some (s.store c key since v payload loadedAt)
    | _, _ => none
  | .fail _ => some (s.fail c)
  | _ => none

def CacheLabel.call : CacheLabel → Option Nat
  | .setNx id _ | .incr id | .ack id | .finish id | .read id | .fetch id | .proceed id | .loaded id _ | .share id
  | .store id | .fail id => some id
  | _ => none

def cacheStep (s : CacheSys) (l : CacheLabel) : Option CacheSys :=
  match l with
  | .commit namespaces =>
    some { s with commits := fun ns => if ns ∈ namespaces then s.commits ns + 1 else s.commits ns }
  | .invalidate process namespaces order => s.invalidate process namespaces order
  | .lookup process key cacheable order => s.lookup process key cacheable order
  | .loseVersion ns => some { s with version := Function.update s.version ns none }
  | .dropEntry key => some { s with entries := Function.update s.entries key none }
  | l => do
    let c ← s.calls.get? (← l.call)
    c.step s l

/-- An empty Redis, and processes that have done nothing. -/
structure CacheSys.Initial (s : CacheSys) : Prop where
  version : ∀ ns, s.version ns = none
  entries : ∀ key, s.entries key = none
  flights : s.flights = .empty
  calls : s.calls = .empty
  completed : ∀ ns, s.completed ns = 0
  bumps : s.bumps = []
  answers : s.answers = []

abbrev CacheRun (s₀ : CacheSys) (tr : List (Taken CacheSys CacheLabel)) (s : CacheSys) : Prop :=
  Exec cacheStep s₀ tr s

/-- A version key that was missing comes back with a version larger than every earlier one. -/
def Reinitialises (t : Taken CacheSys CacheLabel) : Prop :=
  ∀ ns, t.pre.version ns = none → ∀ v ∈ t.post.version ns, t.pre.top ns < v

instance (t : Taken CacheSys CacheLabel) : Decidable (Reinitialises t) :=
  inferInstanceAs (Decidable (∀ ns, t.pre.version ns = none → ∀ v ∈ t.post.version ns, t.pre.top ns < v))

end NovaCart
