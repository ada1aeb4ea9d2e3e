import AiAnalytics.Lib.Machine
import Mathlib.Data.Rat.Floor

/-!
# Tenant quotas

The gateway's `TenantQuota`: per bucket a sliding window of committed tokens and a cap on the leases
held at once. Neither `acquire` nor `Lease.release` suspends, so a run is a list of such calls. The
machine keeps every lease ever granted, in the order of the grants; a lease's id is its index.

Time stamps are exact rationals.
-/

namespace AiAnalytics.Gateway

abbrev WindowEntry := ℚ × Int

structure Bucket where
  window : List WindowEntry := []
  tokens : Int := 0
  active : Int := 0
deriving DecidableEq

structure Shed (Reason Inputs : Type) where
  code : Nat
  reason : Reason
  retryAfterSeconds : Int
  inputs : Inputs
  neverOverflow : Bool := false
deriving DecidableEq

inductive QuotaReason where
  | tenantTokens
  | tenantConcurrency
deriving DecidableEq, Repr

structure QuotaInputs where
  tenantBucket : String
  windowTokens : Int
  active : Int
deriving DecidableEq

abbrev QuotaShed := Shed QuotaReason QuotaInputs

/-- A granted lease. `released` says that its bucket reference was dropped; `refunded` records that
a release took its entry out of the window again. -/
structure Lease where
  bucket : String
  entry : WindowEntry
  released : Bool := false
  refunded : Bool := false
deriving DecidableEq

structure QuotaConfig where
  allowlist : List String := []
  tokenBudget : Int := 200000
  windowS : ℚ := 60
  maxConcurrency : Int := 4

structure TenantQuota where
  buckets : String → Bucket
  leases : List Lease

def TenantQuota.empty : TenantQuota :=
  { buckets := fun _ => {}
    leases := [] }

def other : String := "other"

def QuotaConfig.bucketName (cfg : QuotaConfig) : Option String → String
  | some tenant => if tenant ∈ cfg.allowlist then tenant else other
  | none => other

def pruneWindow (cutoff : ℚ) : List WindowEntry → Int → List WindowEntry × Int
  | [], tokens => ([], tokens)
  | entry :: rest, tokens =>
      if entry.1 ≤ cutoff then pruneWindow cutoff rest (tokens - entry.2)
      else (entry :: rest, tokens)

def Bucket.prune (bucket : Bucket) (cutoff : ℚ) : Bucket :=
  { bucket with
    window := (pruneWindow cutoff bucket.window bucket.tokens).1
    tokens := (pruneWindow cutoff bucket.window bucket.tokens).2 }

def Bucket.commit (bucket : Bucket) (entry : WindowEntry) : Bucket :=
  { window := bucket.window ++ [entry]
    tokens := bucket.tokens + entry.2
    active := bucket.active + 1 }

def QuotaConfig.decision (cfg : QuotaConfig) (name : String) (bucket : Bucket) (tokens : Int)
    (now : ℚ) : Except QuotaShed Lease :=
  let inputs := { tenantBucket := name, windowTokens := bucket.tokens, active := bucket.active }
  if cfg.maxConcurrency ≤ bucket.active then
    .error { code := 429, reason := .tenantConcurrency, retryAfterSeconds := 1, inputs,
             neverOverflow := true }
  else if cfg.tokenBudget < bucket.tokens + tokens then
    let wait := match bucket.window with
      | [] => 1
      | oldest :: _ => ⌈oldest.1 + cfg.windowS - now⌉
    .error { code := 429, reason := .tenantTokens, retryAfterSeconds := max wait 1, inputs,
             neverOverflow := true }
  else .ok { bucket := name, entry := (now, tokens) }

def TenantQuota.acquire (cfg : QuotaConfig) (quota : TenantQuota) (tenant : Option String)
    (tokens : Int) (now : ℚ) : Except QuotaShed Lease × TenantQuota :=
  let name := cfg.bucketName tenant
  let bucket := (quota.buckets name).prune (now - cfg.windowS)
  match cfg.decision name bucket tokens now with
  | .error shed =>
    (.error shed, { quota with buckets := Function.update quota.buckets name bucket })
  | .ok lease =>
      (.ok lease,
        { buckets := Function.update quota.buckets name (bucket.commit lease.entry)
          leases := quota.leases ++ [lease] })

def Bucket.giveBack (bucket : Bucket) (entry : WindowEntry) (refund : Bool) : Bucket :=
  if refund ∧ entry ∈ bucket.window then
    { window := bucket.window.erase entry
      tokens := bucket.tokens - entry.2
      active := bucket.active - 1 }
  else { bucket with active := bucket.active - 1 }

def Lease.close (refunded : Bool) (lease : Lease) : Lease :=
  { lease with released := true, refunded := refunded }

def TenantQuota.release (quota : TenantQuota) (id : Nat) (refund : Bool) : Option TenantQuota :=
  match quota.leases[id]? with
  | none => none
  | some lease =>
      if lease.released then some quota
      else
        let bucket := quota.buckets lease.bucket
        some
          { buckets := Function.update quota.buckets lease.bucket
              (bucket.giveBack lease.entry refund)
            leases := quota.leases.modify id
              (Lease.close (refund && decide (lease.entry ∈ bucket.window))) }

inductive QuotaEvent where
  | acquire (tenant : Option String) (tokens : Int) (now : ℚ)
  | release (id : Nat) (refund : Bool)
deriving DecidableEq

def quotaStep (cfg : QuotaConfig) (quota : TenantQuota) : QuotaEvent → Option TenantQuota
  | .acquire tenant tokens now => some (quota.acquire cfg tenant tokens now).2
  | .release id refund => quota.release id refund

def quotaMachine (cfg : QuotaConfig) : Lib.Machine TenantQuota QuotaEvent :=
  { step := quotaStep cfg }

end AiAnalytics.Gateway
