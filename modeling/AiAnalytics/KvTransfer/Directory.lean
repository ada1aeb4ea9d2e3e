import AiAnalytics.KvTransfer.Identity
import AiAnalytics.Lib.OrderedDict
import Mathlib.Algebra.Order.Ring.Rat

/-!
# The directory of KV locations

Where blocks of a prefix are believed to be: a bounded dictionary of records in the order of their
last use, with a time to live, a stale mark and the generation of the worker that reported them.
`clock` gives the readings of the clock in the order in which the directory takes them.
-/

namespace AiAnalytics.KvTransfer

open Lib

section Results

inductive LookupOutcome where
  | present | remote | missing | partialHit | stale | incompatible
deriving DecidableEq

inductive ConfirmOutcome where
  | available | missing | stale
deriving DecidableEq

inductive InvalidateOutcome where
  | invalidated | missing
deriving DecidableEq

structure LookupResult where
  outcome : LookupOutcome
  prefixIdentity : PrefixIdentity
  destination : String
  sourceOrStore : Option String := none
  reusableTokens : Int := 0
  storedBytes : Int := 0
  detail : Option String := none
  metadataOnly : Bool := false
deriving DecidableEq

structure ConfirmResult where
  outcome : ConfirmOutcome
  prefixIdentity : PrefixIdentity
  destination : String
  reusableTokens : Int := 0
  availableBytes : Int := 0
  detail : Option String := none
  metadataOnly : Bool := false
deriving DecidableEq

structure InvalidateResult where
  outcome : InvalidateOutcome
  prefixIdentity : PrefixIdentity
  location : String
  reason : String
deriving DecidableEq

def LookupResult.Valid (result : LookupResult) : Prop :=
  0 ≤ result.reusableTokens ∧ 0 ≤ result.storedBytes

def ConfirmResult.Valid (result : ConfirmResult) : Prop :=
  0 ≤ result.reusableTokens ∧ 0 ≤ result.availableBytes ∧
    (result.outcome = .available → 0 < result.reusableTokens ∧ 0 < result.availableBytes)

end Results

structure DirectoryRecord where
  prefixIdentity : PrefixIdentity
  location : String
  workerGeneration : String
  reusableTokens : Int
  storedBytes : Int
  complete : Bool
  observedAt : ℚ
  lastAccessedAt : ℚ
  staleReason : Option String
deriving DecidableEq

def DirectoryRecord.key (record : DirectoryRecord) : PrefixIdentity × String :=
  (record.prefixIdentity, record.location)

structure DirectoryLimits where
  capacity : Nat
  ttlSeconds : ℚ
  capacity_pos : 0 < capacity
  ttlSeconds_pos : 0 < ttlSeconds

structure MetadataDirectory where
  limits : DirectoryLimits
  records : OrderedDict (PrefixIdentity × String) DirectoryRecord
  workerGenerations : String → Option String
  capacityEvictions : Nat
  ttlEvictions : Nat
  /-- How often the clock has been read. -/
  readings : Nat

def emptyDirectory (limits : DirectoryLimits) : MetadataDirectory where
  limits := limits
  records := .empty
  workerGenerations := fun _ => none
  capacityEvictions := 0
  ttlEvictions := 0
  readings := 0

def requireText (name value : String) : Option String :=
  if strip value.toList = [] then some (name ++ " must be a non-empty string") else none

section Records

variable (clock : Nat → ℚ)

def MetadataDirectory.now (directory : MetadataDirectory) : ℚ := clock directory.readings

def MetadataDirectory.tick (directory : MetadataDirectory) : MetadataDirectory :=
  { directory with readings := directory.readings + 1 }

def MetadataDirectory.markStale (directory : MetadataDirectory) (predicate : DirectoryRecord → Bool)
    (reason : String) : Nat × MetadataDirectory :=
  let marks (record : DirectoryRecord) : Bool := predicate record && record.staleReason.isNone
  (directory.records.values.countP marks,
    { directory with
      records := directory.records.mapValues fun record =>
        if marks record then { record with staleReason := some reason } else record })

def MetadataDirectory.recordOutcome (directory : MetadataDirectory) (record : DirectoryRecord) :
    LookupOutcome × MetadataDirectory :=
  if record.staleReason ≠ none then (.stale, directory)
  else if directory.now clock - record.observedAt ≥ directory.limits.ttlSeconds then
    (.stale, { directory.tick with ttlEvictions := directory.ttlEvictions + 1 })
  else if directory.workerGenerations record.location ≠ some record.workerGeneration then
    (.stale, directory.tick)
  else if record.complete then (.present, directory.tick)
  else (.partialHit, directory.tick)

def MetadataDirectory.touch (directory : MetadataDirectory) (record : DirectoryRecord) :
    MetadataDirectory :=
  match directory.records.get? record.key with
  | none => directory
  | some current =>
      let touched := { current with lastAccessedAt := directory.now clock }
      { directory.tick with
        records := (directory.records.set record.key touched).moveToEnd record.key }

/-- `self._records.pop((record.prefix_identity, record.location), None)` -/
def MetadataDirectory.popRecord (directory : MetadataDirectory) (record : DirectoryRecord) :
    MetadataDirectory :=
  { directory with records := directory.records.pop record.key }

def lookupResult (record : DirectoryRecord) (destination : String) (outcome : LookupOutcome) :
    LookupResult where
  outcome := outcome
  prefixIdentity := record.prefixIdentity
  destination := destination
  sourceOrStore := some record.location
  reusableTokens := record.reusableTokens
  storedBytes := record.storedBytes
  detail := if outcome = .stale ∧ record.staleReason = none then some "ttl_expired"
    else record.staleReason
  metadataOnly := true

/-- The `while` loop of `upsert`: the records that were not used for longest go. -/
def MetadataDirectory.evict (directory : MetadataDirectory) : Nat → MetadataDirectory
  | 0 => directory
  | excess + 1 =>
      MetadataDirectory.evict
        { directory with
          records := directory.records.popFirst
          capacityEvictions := directory.capacityEvictions + 1 }
        excess

end Records

section Operations

variable (clock : Nat → ℚ)

def MetadataDirectory.observeWorker (directory : MetadataDirectory) (location generation : String) :
    Except String Nat × MetadataDirectory :=
  match requireText "location" location <|> requireText "generation" generation with
  | some error => (.error error, directory)
  | none =>
      let previous := directory.workerGenerations location
      let directory := { directory with
        workerGenerations :=
          Function.update directory.workerGenerations location (some generation) }
      if previous = none ∨ previous = some generation then (.ok 0, directory)
      else
        let (count, directory) :=
          directory.markStale (fun record => record.location = location) "worker_generation_changed"
        (.ok count, directory)

def MetadataDirectory.upsertError (directory : MetadataDirectory) (prefixIdentity : PrefixIdentity)
    (location workerGeneration : String) (reusableTokens storedBytes : Int) : Option String :=
  (requireText "location" location <|> requireText "worker_generation" workerGeneration) <|>
    if reusableTokens ≤ 0 ∨ reusableTokens > prefixIdentity.tokenCount then
      some "reusable_tokens must be positive and no larger than token_count"
    else if storedBytes ≤ 0 then some "stored_bytes must be positive"
    else match directory.workerGenerations location with
      | none => some "worker generation must be observed before recording metadata"
      | some current =>
          if current ≠ workerGeneration then
            some "worker_generation does not match the observed worker" else none

def MetadataDirectory.upsert (directory : MetadataDirectory) (prefixIdentity : PrefixIdentity)
    (location workerGeneration : String) (reusableTokens storedBytes : Int) (complete : Bool) :
    Except String DirectoryRecord × MetadataDirectory :=
  match directory.upsertError prefixIdentity location workerGeneration reusableTokens
    storedBytes with
  | some error => (.error error, directory)
  | none =>
      let now := directory.now clock
      let record : DirectoryRecord :=
        ⟨prefixIdentity, location, workerGeneration, reusableTokens, storedBytes, complete, now,
          now, none⟩
      let grown :=
        { directory.tick with
          records := (directory.records.set record.key record).moveToEnd record.key }
      (.ok record, grown.evict (grown.records.size - grown.limits.capacity))

def MetadataDirectory.lookupRemote (prefixIdentity : PrefixIdentity) (destination : String) :
    List DirectoryRecord → Option DirectoryRecord → MetadataDirectory →
      LookupResult × MetadataDirectory
  | [], some staleRemote, directory => (lookupResult staleRemote destination .stale, directory)
  | [], none, directory =>
      ({ outcome := .missing, prefixIdentity := prefixIdentity, destination := destination,
         metadataOnly := true },
        directory)
  | record :: records, staleRemote, directory =>
      if record.prefixIdentity ≠ prefixIdentity then
        MetadataDirectory.lookupRemote prefixIdentity destination records staleRemote directory
      else
        let (outcome, directory) := directory.recordOutcome clock record
        if outcome = .stale then
          MetadataDirectory.lookupRemote prefixIdentity destination records (some record)
            (if record.staleReason = none then directory.popRecord record else directory)
        else
          let remoteOutcome := if outcome = .present then .remote else outcome
          (lookupResult record destination remoteOutcome, directory.touch clock record)

def MetadataDirectory.lookup (directory : MetadataDirectory) (prefixIdentity : PrefixIdentity)
    (destination compatibilityNamespace : String) : LookupResult × MetadataDirectory :=
  if compatibilityNamespace ≠ prefixIdentity.compatibilityNamespace then
    ({ outcome := .incompatible, prefixIdentity := prefixIdentity, destination := destination,
       detail := some "compatibility_namespace_mismatch", metadataOnly := true }, directory)
  else match directory.records.get? (prefixIdentity, destination) with
    | some own =>
        let (outcome, directory) := directory.recordOutcome clock own
        let directory :=
          if outcome = .stale ∧ own.staleReason = none then directory.popRecord own
          else directory.touch clock own
        (lookupResult own destination outcome, directory)
    | none =>
        MetadataDirectory.lookupRemote clock prefixIdentity destination
          directory.records.values.reverse none directory

def MetadataDirectory.confirm (directory : MetadataDirectory) (prefixIdentity : PrefixIdentity)
    (destination : String) : ConfirmResult × MetadataDirectory :=
  match directory.records.get? (prefixIdentity, destination) with
  | none =>
      ({ outcome := .missing, prefixIdentity := prefixIdentity, destination := destination,
         metadataOnly := true },
        directory)
  | some record =>
      let (outcome, directory) := directory.recordOutcome clock record
      if outcome = .stale then
        ({ outcome := .stale, prefixIdentity := prefixIdentity, destination := destination,
           detail := some (record.staleReason.getD "ttl_expired"), metadataOnly := true },
          if record.staleReason = none then directory.popRecord record else directory)
      else
        ({ outcome := if outcome = .partialHit then .missing else .available
           prefixIdentity := prefixIdentity, destination := destination,
           reusableTokens := record.reusableTokens, availableBytes := record.storedBytes,
           detail := if outcome = .partialHit then some "partial" else none, metadataOnly := true },
          directory.touch clock record)

def MetadataDirectory.invalidate (directory : MetadataDirectory) (prefixIdentity : PrefixIdentity)
    (location reason : String) : Except String InvalidateResult × MetadataDirectory :=
  match requireText "reason" reason with
  | some error => (.error error, directory)
  | none =>
      let removed := directory.records.get? (prefixIdentity, location)
      (.ok ⟨if removed = none then .missing else .invalidated, prefixIdentity, location, reason⟩,
        { directory with records := directory.records.pop (prefixIdentity, location) })

def MetadataDirectory.invalidateNamespace (directory : MetadataDirectory)
    (compatibilityNamespace reason : String) : Except String Nat × MetadataDirectory :=
  match requireText "compatibility_namespace" compatibilityNamespace <|> requireText "reason"
    reason with
  | some error => (.error error, directory)
  | none =>
      let (count, directory) := directory.markStale
        (fun record => record.prefixIdentity.compatibilityNamespace = compatibilityNamespace) reason
      (.ok count, directory)

end Operations

section Calls

inductive DirectoryCall where
  | observeWorker (location generation : String)
  | upsert (prefixIdentity : PrefixIdentity) (location workerGeneration : String)
      (reusableTokens storedBytes : Int) (complete : Bool)
  | lookup (prefixIdentity : PrefixIdentity) (destination compatibilityNamespace : String)
  | confirm (prefixIdentity : PrefixIdentity) (destination : String)
  | invalidate (prefixIdentity : PrefixIdentity) (location reason : String)
  | invalidateNamespace (compatibilityNamespace reason : String)

inductive DirectoryReply where
  | raised (error : String)
  | staled (count : Nat)
  | stored (record : DirectoryRecord)
  | found (result : LookupResult)
  | confirmed (result : ConfirmResult)
  | invalidated (result : InvalidateResult)

def replied {Value : Type} (reply : Value → DirectoryReply) : Except String Value → DirectoryReply
  | .ok value => reply value
  | .error error => .raised error

variable (clock : Nat → ℚ)

def MetadataDirectory.serve (directory : MetadataDirectory) :
    DirectoryCall → DirectoryReply × MetadataDirectory
  | .observeWorker location generation =>
      (directory.observeWorker location generation).map (replied .staled) id
  | .upsert prefixIdentity location workerGeneration reusableTokens storedBytes complete =>
      (directory.upsert clock prefixIdentity location workerGeneration reusableTokens storedBytes
        complete).map (replied .stored) id
  | .lookup prefixIdentity destination compatibilityNamespace =>
      (directory.lookup clock prefixIdentity destination compatibilityNamespace).map .found id
  | .confirm prefixIdentity destination =>
    (directory.confirm clock prefixIdentity destination).map .confirmed id
  | .invalidate prefixIdentity location reason =>
      (directory.invalidate prefixIdentity location reason).map (replied .invalidated) id
  | .invalidateNamespace compatibilityNamespace reason =>
      (directory.invalidateNamespace compatibilityNamespace reason).map (replied .staled) id

structure DirectoryEvent where
  call : DirectoryCall
  reply : DirectoryReply
  reading : Nat

structure DirectoryLedger where
  directory : MetadataDirectory
  history : List DirectoryEvent

def DirectoryLedger.serve (ledger : DirectoryLedger) (call : DirectoryCall) : DirectoryLedger where
  directory := (ledger.directory.serve clock call).2
  history :=
    ledger.history ++ [⟨call, (ledger.directory.serve clock call).1, ledger.directory.readings⟩]

def ledgerAfter (limits : DirectoryLimits) (calls : List DirectoryCall) : DirectoryLedger :=
  calls.foldl (DirectoryLedger.serve clock) ⟨emptyDirectory limits, []⟩

end Calls

end AiAnalytics.KvTransfer
