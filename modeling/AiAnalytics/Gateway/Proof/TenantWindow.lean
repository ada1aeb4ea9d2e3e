import AiAnalytics.Gateway.Tenants
import AiAnalytics.Lib.Counting
import Mathlib.Algebra.Order.BigOperators.Group.List
import Mathlib.Tactic.Linarith

/-!
# The tenant quota holds over every run

The window of a bucket is, up to order, the entries of its leases that were not refunded and are
younger than the cutoff of the last pruning. From this the running counter is the sum of the window,
a refund takes out an entry that stands for the lease it belongs to, and at the moment of a grant
the counter is the total of the whole budget window.
-/

namespace AiAnalytics.Gateway

open Lib

def Lease.Live (name : String) (cutoff : ℚ) (lease : Lease) : Prop :=
  lease.bucket = name ∧ lease.refunded = false ∧ cutoff < lease.entry.1

instance (name : String) (cutoff : ℚ) (lease : Lease) : Decidable (lease.Live name cutoff) :=
  inferInstanceAs (Decidable (_ ∧ _ ∧ _))

def Lease.tokensWithin (name : String) (lo hi : ℚ) (lease : Lease) : Int :=
  if lease.Live name lo ∧ lease.entry.1 ≤ hi then lease.entry.2 else 0

def TenantQuota.committed (quota : TenantQuota) (name : String) (lo hi : ℚ) : Int :=
  (quota.leases.map (·.tokensWithin name lo hi)).sum

def TenantQuota.unreleased (quota : TenantQuota) (name : String) : Nat :=
  quota.leases.countP fun lease => lease.bucket = name ∧ lease.released = false

@[simp]
theorem Lease.close_entry (refunded : Bool) (lease : Lease) :
    (lease.close refunded).entry = lease.entry := rfl

section Pruning

theorem pruneWindow_eq (cutoff : ℚ) (window : List WindowEntry) (tokens : Int) :
    pruneWindow cutoff window tokens =
      (window.dropWhile (·.1 ≤ cutoff),
        tokens - ((window.takeWhile (·.1 ≤ cutoff)).map Prod.snd).sum) := by
  induction window generalizing tokens with
  | nil => simp [pruneWindow]
  | cons entry rest ih =>
      by_cases hold : entry.1 ≤ cutoff
      · simp [pruneWindow, hold, ih, sub_sub]
      · simp [pruneWindow, hold]

theorem tokens_prune {bucket : Bucket} {cutoff : ℚ}
    (htokens : bucket.tokens = (bucket.window.map Prod.snd).sum) :
    (bucket.prune cutoff).tokens = ((bucket.prune cutoff).window.map Prod.snd).sum := by
  have hsplit : (bucket.window.map Prod.snd).sum =
      ((bucket.window.takeWhile (·.1 ≤ cutoff)).map Prod.snd).sum +
        ((bucket.window.dropWhile (·.1 ≤ cutoff)).map Prod.snd).sum := by
    rw [← List.sum_append, ← List.map_append, List.takeWhile_append_dropWhile]
  simp only [Bucket.prune, pruneWindow_eq, htokens]
  omega

theorem prune_window_eq_filter {bucket : Bucket} {cutoff : ℚ}
    (hsorted : bucket.window.Pairwise (·.1 ≤ ·.1)) :
    (bucket.prune cutoff).window = bucket.window.filter (cutoff < ·.1) := by
  simp only [Bucket.prune, pruneWindow_eq]
  generalize bucket.window = window at hsorted
  induction window with
  | nil => rfl
  | cons entry rest ih =>
      rw [List.pairwise_cons] at hsorted
      by_cases hold : entry.1 ≤ cutoff
      · simp [hold, ih hsorted.2]
      · have hyoung : ∀ e ∈ rest, cutoff < e.1 := fun e hmem =>
          lt_of_lt_of_le (not_le.mp hold) (hsorted.1 e hmem)
        simp only [List.dropWhile_cons, hold, decide_false, Bool.false_eq_true, ↓reduceIte,
          List.filter_cons, not_le.mp hold, decide_true]
        rw [List.filter_eq_self.mpr fun e hmem => decide_eq_true (hyoung e hmem)]

end Pruning

/-- What ties a bucket to the leases granted so far; `last` is the latest reading of the clock. With
a window of no width a grant prunes what was stamped at the same reading, and nothing ties the
window to the leases. -/
structure BucketInv (cfg : QuotaConfig) (last : ℚ) (leases : List Lease) (name : String)
    (bucket : Bucket) : Prop where
  sorted : bucket.window.Pairwise (·.1 ≤ ·.1)
  recent : ∀ entry ∈ bucket.window, entry.1 ≤ last
  window : 0 < cfg.windowS → ∃ cutoff ≤ last - cfg.windowS, ∀ entry, bucket.window.count entry =
    leases.countP fun lease => lease.Live name cutoff ∧ lease.entry = entry
  tokens : bucket.tokens = (bucket.window.map Prod.snd).sum
  active : bucket.active = leases.countP fun lease => lease.bucket = name ∧ lease.released = false
  capped : bucket.active ≤ max 0 cfg.maxConcurrency

structure QuotaInv (cfg : QuotaConfig) (last : ℚ) (quota : TenantQuota) : Prop where
  stamped : ∀ lease ∈ quota.leases, lease.entry.1 ≤ last ∧ 0 ≤ lease.entry.2
  kept : ∀ lease ∈ quota.leases, lease.released = false → lease.refunded = false
  bucket : ∀ name, BucketInv cfg last quota.leases name (quota.buckets name)
  budget : ∀ name t, quota.committed name (t - cfg.windowS) t ≤ max 0 cfg.tokenBudget

section Buckets

variable {cfg : QuotaConfig} {last now cutoff : ℚ} {leases : List Lease} {name : String}
  {bucket : Bucket}

theorem sum_window_eq
    (hwindow : ∀ entry, bucket.window.count entry =
      leases.countP fun lease => lease.Live name cutoff ∧ lease.entry = entry) :
    (bucket.window.map Prod.snd).sum =
      (leases.map fun lease => if lease.Live name cutoff then lease.entry.2 else 0).sum := by
  have hperm : bucket.window.Perm ((leases.filter (·.Live name cutoff)).map Lease.entry) := by
    rw [List.perm_iff_count]
    intro entry
    rw [hwindow, List.count, List.countP_map, List.countP_filter]
    refine List.countP_congr fun lease _ => ?_
    simp [and_comm]
  rw [(hperm.map Prod.snd).sum_eq, List.map_map]
  exact (sum_map_filter _ _ _).trans (by simp)

theorem countP_live_congr {cutoff' : ℚ} {entry : WindowEntry} (hcutoff : cutoff < entry.1)
    (hcutoff' : cutoff' < entry.1) :
    (leases.countP fun lease => lease.Live name cutoff ∧ lease.entry = entry) =
      leases.countP fun lease => lease.Live name cutoff' ∧ lease.entry = entry := by
  refine List.countP_congr fun lease _ => ?_
  rw [decide_eq_true_iff, decide_eq_true_iff]
  constructor
  · rintro ⟨⟨hname, hrefund, -⟩, rfl⟩
    exact ⟨⟨hname, hrefund, hcutoff'⟩, rfl⟩
  · rintro ⟨⟨hname, hrefund, -⟩, rfl⟩
    exact ⟨⟨hname, hrefund, hcutoff⟩, rfl⟩

theorem BucketInv.count_prune (hinv : BucketInv cfg last leases name bucket) (hlast : last ≤ now)
    (hwidth : 0 < cfg.windowS) (entry : WindowEntry) :
    (bucket.prune (now - cfg.windowS)).window.count entry =
      leases.countP fun lease => lease.Live name (now - cfg.windowS) ∧ lease.entry = entry := by
  obtain ⟨cutoff, hcutoff, hwindow⟩ := hinv.window hwidth
  rw [prune_window_eq_filter hinv.sorted]
  by_cases hyoung : now - cfg.windowS < entry.1
  · have hold : cutoff < entry.1 := by linarith
    rw [List.count_filter (by simpa using hyoung), hwindow]
    exact countP_live_congr hold hyoung
  · rw [List.count_eq_zero.mpr (by simp [hyoung]), eq_comm, List.countP_eq_zero]
    rintro lease - hlive
    obtain ⟨⟨-, -, hlt⟩, rfl⟩ := of_decide_eq_true hlive
    exact hyoung hlt

theorem BucketInv.prune (hinv : BucketInv cfg last leases name bucket) (hlast : last ≤ now) :
    BucketInv cfg now leases name (bucket.prune (now - cfg.windowS)) where
  sorted := by
    rw [prune_window_eq_filter hinv.sorted]
    exact hinv.sorted.filter _
  recent := by
    rw [prune_window_eq_filter hinv.sorted]
    exact fun entry hmem => (hinv.recent entry (List.mem_of_mem_filter hmem)).trans hlast
  window := fun hwidth => ⟨_, le_rfl, hinv.count_prune hlast hwidth⟩
  tokens := tokens_prune hinv.tokens
  active := hinv.active
  capped := hinv.capped

theorem BucketInv.mono (hinv : BucketInv cfg last leases name bucket) (hlast : last ≤ now) :
    BucketInv cfg now leases name bucket where
  sorted := hinv.sorted
  recent := fun entry hmem => (hinv.recent entry hmem).trans hlast
  window := fun hwidth => by
    obtain ⟨cutoff, hcutoff, hwindow⟩ := hinv.window hwidth
    exact ⟨cutoff, by linarith, hwindow⟩
  tokens := hinv.tokens
  active := hinv.active
  capped := hinv.capped

theorem BucketInv.of_countP_eq {leases' : List Lease} (hinv : BucketInv cfg last leases name bucket)
    (heq : ∀ p : Lease → Bool, (∀ lease, p lease → lease.bucket = name) →
      leases'.countP p = leases.countP p) :
    BucketInv cfg last leases' name bucket where
  sorted := hinv.sorted
  recent := hinv.recent
  window := fun hwidth => by
    obtain ⟨cutoff, hcutoff, hwindow⟩ := hinv.window hwidth
    refine ⟨cutoff, hcutoff, fun entry => ?_⟩
    rw [hwindow]
    exact (heq _ fun lease hp => (of_decide_eq_true hp).1.1).symm
  tokens := hinv.tokens
  active := by
    rw [hinv.active]
    exact congrArg _ (heq _ fun lease hp => (of_decide_eq_true hp).1).symm
  capped := hinv.capped

theorem BucketInv.commit {tokens : Int} (hinv : BucketInv cfg now leases name bucket)
    (hcount : 0 < cfg.windowS → ∀ entry, bucket.window.count entry =
      leases.countP fun lease => lease.Live name (now - cfg.windowS) ∧ lease.entry = entry)
    (hslot : bucket.active < cfg.maxConcurrency) :
    BucketInv cfg now (leases ++ [{ bucket := name, entry := (now, tokens) }]) name
      (bucket.commit (now, tokens)) where
  sorted := by
    refine List.pairwise_append.mpr ⟨hinv.sorted, List.pairwise_singleton _ _, ?_⟩
    intro entry hmem new hnew
    rw [List.mem_singleton.mp hnew]
    exact hinv.recent entry hmem
  recent := by
    intro entry hmem
    rcases List.mem_append.mp hmem with hmem | hmem
    · exact hinv.recent entry hmem
    · rw [List.mem_singleton.mp hmem]
  window := fun hwidth => by
    refine ⟨now - cfg.windowS, le_rfl, fun entry => ?_⟩
    have hfresh : now - cfg.windowS < now := by linarith
    simp only [Bucket.commit, List.count_append, List.countP_append, hcount hwidth,
      List.count_singleton, List.countP_singleton, Lease.Live, hfresh, beq_iff_eq,
      decide_eq_true_eq,
      true_and]
  tokens := by simp [Bucket.commit, hinv.tokens]
  active := by simp [Bucket.commit, hinv.active]
  capped := (Int.add_one_le_of_lt hslot).trans (le_max_right _ _)

theorem cutoff_lt_of_mem {entry : WindowEntry}
    (hwindow : ∀ entry, bucket.window.count entry =
      leases.countP fun lease => lease.Live name cutoff ∧ lease.entry = entry)
    (hmem : entry ∈ bucket.window) : cutoff < entry.1 := by
  have hpos := List.count_pos_iff.mpr hmem
  rw [hwindow, List.countP_pos_iff] at hpos
  obtain ⟨lease, -, hlive⟩ := hpos
  obtain ⟨⟨-, -, hlt⟩, rfl⟩ := of_decide_eq_true hlive
  exact hlt

theorem BucketInv.giveBack {id : Nat} {lease : Lease} {refund : Bool}
    (hinv : BucketInv cfg last leases lease.bucket bucket) (hget : leases[id]? = some lease)
    (hheld : lease.released = false) (hkept : lease.refunded = false) :
    BucketInv cfg last
      (leases.modify id (Lease.close (refund && decide (lease.entry ∈ bucket.window))))
      lease.bucket (bucket.giveBack lease.entry refund) := by
  have hactive := countP_modify_of_getElem?
    (p := fun l => l.bucket = lease.bucket ∧ l.released = false)
    (f := Lease.close (refund && decide (lease.entry ∈ bucket.window))) hget
  simp only [hheld, Lease.close, and_self, decide_true, ↓reduceIte, Bool.true_eq_false, and_false,
    decide_false, Bool.false_eq_true, add_zero] at hactive
  have hcapped : bucket.active - 1 ≤ max 0 cfg.maxConcurrency := by
    have := hinv.capped
    omega
  have hlive := fun cutoff entry => countP_modify_of_getElem?
    (p := fun l => l.Live lease.bucket cutoff ∧ l.entry = entry)
    (f := Lease.close (refund && decide (lease.entry ∈ bucket.window))) hget
  by_cases hrefund : refund = true ∧ lease.entry ∈ bucket.window
  · rw [Bucket.giveBack, if_pos hrefund]
    refine ⟨hinv.sorted.erase _, fun entry hmem => hinv.recent entry (List.mem_of_mem_erase hmem),
      ?_, ?_, by rw [hactive, hinv.active], hcapped⟩
    · intro hwidth
      obtain ⟨cutoff, hcutoff, hwindow⟩ := hinv.window hwidth
      refine ⟨cutoff, hcutoff, fun entry => ?_⟩
      have hbefore : lease.Live lease.bucket cutoff :=
        ⟨rfl, hkept, cutoff_lt_of_mem hwindow hrefund.2⟩
      have hafter : ¬ (lease.close (refund && decide (lease.entry ∈ bucket.window))).Live
          lease.bucket cutoff := by
        simp [Lease.Live, Lease.close, hrefund]
      have hcount := hlive cutoff entry
      simp only [hbefore, hafter, true_and, false_and, decide_false, Bool.false_eq_true, ↓reduceIte,
        add_zero, decide_eq_true_eq] at hcount
      rw [← hwindow] at hcount
      have hpos := List.count_pos_iff.mpr hrefund.2
      rw [List.count_erase]
      by_cases heq : lease.entry = entry
      · rw [if_pos heq] at hcount
        rw [heq] at hpos
        rw [if_pos (by simpa using heq)]
        omega
      · rw [if_neg heq] at hcount
        rw [if_neg (by simpa using heq)]
        omega
    · have hsum := (List.perm_cons_erase hrefund.2).map Prod.snd |>.sum_eq
      simp only [List.map_cons, List.sum_cons] at hsum
      simp only [hinv.tokens]
      omega
  · rw [Bucket.giveBack, if_neg hrefund]
    refine ⟨hinv.sorted, hinv.recent, ?_, hinv.tokens, by rw [hactive, hinv.active], hcapped⟩
    intro hwidth
    obtain ⟨cutoff, hcutoff, hwindow⟩ := hinv.window hwidth
    refine ⟨cutoff, hcutoff, fun entry => ?_⟩
    have hflag : (refund && decide (lease.entry ∈ bucket.window)) = false := by
      simpa using hrefund
    have hsame : (lease.close (refund && decide (lease.entry ∈ bucket.window))).Live
        lease.bucket cutoff ↔ lease.Live lease.bucket cutoff := by
      rw [hflag, Lease.Live, Lease.Live, hkept]
      rfl
    have hcount := hlive cutoff entry
    simp only [hsame, Lease.close_entry, sub_add_cancel] at hcount
    rw [hwindow]
    exact (Int.ofNat_inj.mp hcount).symm

end Buckets

section Steps

variable {cfg : QuotaConfig} {last now : ℚ} {quota : TenantQuota} {name : String}

theorem decision_eq_ok_iff {bucket : Bucket} {tokens : Int} {lease : Lease} :
    cfg.decision name bucket tokens now = .ok lease ↔
      bucket.active < cfg.maxConcurrency ∧ bucket.tokens + tokens ≤ cfg.tokenBudget ∧
        { bucket := name, entry := (now, tokens) } = lease := by
  unfold QuotaConfig.decision
  by_cases hactive : cfg.maxConcurrency ≤ bucket.active
  · simp [hactive]
  · by_cases htokens : cfg.tokenBudget < bucket.tokens + tokens
    · simp [hactive, htokens]
    · simp [hactive, htokens, not_le.mp hactive, not_lt.mp htokens]

theorem quotaInv_empty (cfg : QuotaConfig) (last : ℚ) : QuotaInv cfg last .empty where
  stamped := by simp [TenantQuota.empty]
  kept := by simp [TenantQuota.empty]
  bucket := fun _ =>
    { sorted := List.Pairwise.nil
      recent := by simp [TenantQuota.empty]
      window := fun _ => ⟨_, le_rfl, by simp [TenantQuota.empty]⟩
      tokens := rfl
      active := rfl
      capped := le_max_left _ _ }
  budget := fun _ _ => le_max_left _ _

theorem committed_le_tokens_prune (name : String) (hinv : QuotaInv cfg last quota)
    (hlast : last ≤ now) (hwidth : 0 < cfg.windowS) {t : ℚ} (ht : now ≤ t) :
    quota.committed name (t - cfg.windowS) t ≤
      ((quota.buckets name).prune (now - cfg.windowS)).tokens := by
  rw [((hinv.bucket name).prune hlast).tokens,
    sum_window_eq ((hinv.bucket name).count_prune hlast hwidth)]
  refine List.sum_le_sum fun lease hmem => ?_
  have hnonneg := (hinv.stamped lease hmem).2
  unfold Lease.tokensWithin
  split
  case isTrue hwithin =>
    obtain ⟨⟨hname, hrefund, hlt⟩, -⟩ := hwithin
    have hlive : lease.Live name (now - cfg.windowS) := ⟨hname, hrefund, by linarith⟩
    rw [if_pos hlive]
  case isFalse => split <;> omega

theorem quotaInv_prune (hinv : QuotaInv cfg last quota) (hlast : last ≤ now) :
    QuotaInv cfg now { quota with
      buckets := Function.update quota.buckets name
        ((quota.buckets name).prune (now - cfg.windowS)) } where
  stamped := fun lease hmem =>
    ⟨(hinv.stamped lease hmem).1.trans hlast, (hinv.stamped lease hmem).2⟩
  kept := hinv.kept
  bucket := (Function.forall_update_iff _ fun name bucket => BucketInv cfg now _ name bucket).mpr
    ⟨(hinv.bucket name).prune hlast, fun other _ => (hinv.bucket other).mono hlast⟩
  budget := hinv.budget

theorem quotaInv_grant {tokens : Int} (hinv : QuotaInv cfg last quota) (hlast : last ≤ now)
    (hnonneg : 0 ≤ tokens)
    (hslot : ((quota.buckets name).prune (now - cfg.windowS)).active < cfg.maxConcurrency)
    (hfits : ((quota.buckets name).prune (now - cfg.windowS)).tokens + tokens ≤ cfg.tokenBudget) :
    QuotaInv cfg now
      { buckets := Function.update quota.buckets name
          (((quota.buckets name).prune (now - cfg.windowS)).commit (now, tokens))
        leases := quota.leases ++ [{ bucket := name, entry := (now, tokens) }] } where
  stamped := by
    intro lease hmem
    rcases List.mem_append.mp hmem with hmem | hmem
    · exact ⟨(hinv.stamped lease hmem).1.trans hlast, (hinv.stamped lease hmem).2⟩
    · rw [List.mem_singleton.mp hmem]
      exact ⟨le_rfl, hnonneg⟩
  kept := by
    intro lease hmem hheld
    rcases List.mem_append.mp hmem with hmem | hmem
    · exact hinv.kept lease hmem hheld
    · rw [List.mem_singleton.mp hmem]
  bucket := by
    refine (Function.forall_update_iff _ fun name bucket => BucketInv cfg now _ name bucket).mpr
      ⟨((hinv.bucket name).prune hlast).commit ((hinv.bucket name).count_prune hlast) hslot, ?_⟩
    intro other hne
    refine ((hinv.bucket other).mono hlast).of_countP_eq fun p hp => ?_
    have hnew : p { bucket := name, entry := (now, tokens) } = false :=
      Bool.eq_false_iff.mpr fun h => hne (hp _ h).symm
    simp [hnew]
  budget := by
    intro other t
    have hold := hinv.budget other t
    simp only [TenantQuota.committed, List.map_append, List.map_singleton, List.sum_append,
      List.sum_singleton, Lease.tokensWithin] at hold ⊢
    split
    case isTrue hwithin =>
      obtain ⟨⟨rfl, -, hlt⟩, ht⟩ := hwithin
      have hwidth : 0 < cfg.windowS := by
        have : now ≤ t := ht
        have : t - cfg.windowS < now := hlt
        linarith
      have hle := committed_le_tokens_prune name hinv hlast hwidth ht
      simp only [TenantQuota.committed, Lease.tokensWithin] at hle
      exact (Int.add_le_add_right hle tokens).trans (hfits.trans (le_max_right _ _))
    case isFalse => simpa using hold

theorem quotaInv_acquire (tenant : Option String) {tokens : Int} (hinv : QuotaInv cfg last quota)
    (hlast : last ≤ now) (hnonneg : 0 ≤ tokens) :
    QuotaInv cfg now (quota.acquire cfg tenant tokens now).2 := by
  unfold TenantQuota.acquire
  simp only
  split
  case h_1 => exact quotaInv_prune hinv hlast
  case h_2 lease hok =>
    obtain ⟨hslot, hfits, rfl⟩ := decision_eq_ok_iff.mp hok
    exact quotaInv_grant hinv hlast hnonneg hslot hfits

theorem release_cases {id : Nat} {refund : Bool} {next : TenantQuota}
    (hstep : quota.release id refund = some next) :
    ∃ lease, quota.leases[id]? = some lease ∧
      (lease.released = true ∧ next = quota ∨
        lease.released = false ∧ next =
          { buckets := Function.update quota.buckets lease.bucket
              ((quota.buckets lease.bucket).giveBack lease.entry refund)
            leases := quota.leases.modify id (Lease.close
              (refund && decide (lease.entry ∈ (quota.buckets lease.bucket).window))) }) := by
  unfold TenantQuota.release at hstep
  split at hstep
  case h_1 => cases hstep
  case h_2 lease hget =>
    refine ⟨lease, hget, ?_⟩
    split at hstep
    case isTrue hreleased => exact .inl ⟨hreleased, (Option.some.inj hstep).symm⟩
    case isFalse hheld =>
      exact .inr ⟨Bool.eq_false_iff.mpr hheld, (Option.some.inj hstep).symm⟩

theorem tokensWithin_close_le {lease : Lease} (name : String) (lo hi : ℚ) (refunded : Bool)
    (hkept : lease.refunded = false) (hnonneg : 0 ≤ lease.entry.2) :
    (lease.close refunded).tokensWithin name lo hi ≤ lease.tokensWithin name lo hi := by
  rw [Lease.tokensWithin, Lease.tokensWithin, Lease.close_entry]
  by_cases hwithin : (lease.close refunded).Live name lo ∧ lease.entry.1 ≤ hi
  · obtain ⟨⟨hname, -, hlt⟩, hle⟩ := hwithin
    have hlive : lease.Live name lo := ⟨hname, hkept, hlt⟩
    rw [if_pos (⟨hlive, hle⟩ : lease.Live name lo ∧ lease.entry.1 ≤ hi)]
    split <;> omega
  · rw [if_neg hwithin]
    split <;> omega

theorem quotaInv_release {id : Nat} {refund : Bool} {next : TenantQuota}
    (hinv : QuotaInv cfg last quota) (hstep : quota.release id refund = some next) :
    QuotaInv cfg last next := by
  obtain ⟨lease, hget, ⟨-, rfl⟩ | ⟨hheld, rfl⟩⟩ := release_cases hstep
  · exact hinv
  have hmem := List.mem_of_getElem? hget
  have hkept := hinv.kept lease hmem hheld
  refine ⟨?_, ?_, ?_, ?_⟩
  · intro other hother
    obtain ⟨before, hbefore, rfl | rfl⟩ := exists_mem_of_mem_modify hother
    · exact hinv.stamped _ hbefore
    · exact hinv.stamped before hbefore
  · intro other hother
    obtain ⟨before, hbefore, rfl | rfl⟩ := exists_mem_of_mem_modify hother
    · exact hinv.kept _ hbefore
    · simp [Lease.close]
  · refine (Function.forall_update_iff _ fun name bucket => BucketInv cfg last _ name bucket).mpr
      ⟨(hinv.bucket lease.bucket).giveBack hget hheld hkept, ?_⟩
    intro other hne
    refine (hinv.bucket other).of_countP_eq fun p hp => ?_
    have hforeign : ∀ l : Lease, l.bucket = lease.bucket → p l = false := fun l hbucket =>
      Bool.eq_false_iff.mpr fun h => hne ((hp l h).symm.trans hbucket)
    have hcount := countP_modify_of_getElem? (p := p) (f := Lease.close
      (refund && decide (lease.entry ∈ (quota.buckets lease.bucket).window))) hget
    rw [hforeign lease rfl, hforeign (lease.close _) rfl] at hcount
    simpa using hcount
  · intro name t
    refine le_trans ?_ (hinv.budget name t)
    rw [TenantQuota.committed, sum_map_modify_of_getElem? hget, TenantQuota.committed]
    have hle := tokensWithin_close_le name (t - cfg.windowS) t
      (refund && decide (lease.entry ∈ (quota.buckets lease.bucket).window)) hkept
        (hinv.stamped lease hmem).2
    omega

end Steps

def QuotaEvent.reading : QuotaEvent → Option ℚ
  | .acquire _ _ now => some now
  | .release _ _ => none

theorem quotaInv_run {cfg : QuotaConfig} {last : ℚ} {events : List QuotaEvent}
    {quota final : TenantQuota} (hinv : QuotaInv cfg last quota)
    (hordered : (last :: events.filterMap QuotaEvent.reading).Pairwise (· ≤ ·))
    (htokens : ∀ tenant tokens now, .acquire tenant tokens now ∈ events → 0 ≤ tokens)
    (hrun : (quotaMachine cfg).run quota events = some final) :
    ∃ last, QuotaInv cfg last final := by
  induction events generalizing last quota with
  | nil => exact ⟨last, Option.some.inj hrun ▸ hinv⟩
  | cons event events ih =>
      obtain ⟨next, hstep, hrest⟩ := Machine.run_cons_eq_some_iff.mp hrun
      have htail : ∀ tenant tokens now, .acquire tenant tokens now ∈ events → 0 ≤ tokens :=
        fun tenant tokens now hmem => htokens tenant tokens now (List.mem_cons_of_mem _ hmem)
      cases event with
      | acquire tenant tokens now =>
          have hnext := Option.some.inj hstep
          have hreading : (QuotaEvent.acquire tenant tokens now).reading = some now := rfl
          rw [List.filterMap_cons_some hreading, List.pairwise_cons] at hordered
          have hgrant := quotaInv_acquire tenant hinv (hordered.1 now List.mem_cons_self)
            (htokens tenant tokens now List.mem_cons_self)
          exact ih (hnext ▸ hgrant) hordered.2 htail hrest
      | release id refund =>
          rw [List.filterMap_cons_none rfl] at hordered
          exact ih (quotaInv_release hinv hstep) hordered htail hrest

def TenantQuota.Released (quota : TenantQuota) (id : Nat) : Prop :=
  ∃ lease, quota.leases[id]? = some lease ∧ lease.released = true

theorem released_release {quota mid : TenantQuota} {id : Nat} {refund : Bool}
    (hstep : quota.release id refund = some mid) : mid.Released id := by
  obtain ⟨lease, hget, ⟨hreleased, rfl⟩ | ⟨-, rfl⟩⟩ := release_cases hstep
  · exact ⟨lease, hget, hreleased⟩
  · refine ⟨lease.close (refund && decide (lease.entry ∈ (quota.buckets lease.bucket).window)), ?_,
      rfl⟩
    simp [hget]

theorem TenantQuota.Released.step {cfg : QuotaConfig} {quota next : TenantQuota} {id : Nat}
    {event : QuotaEvent} (h : quota.Released id) (hstep : quotaStep cfg quota event = some next) :
    next.Released id := by
  obtain ⟨lease, hget, hreleased⟩ := h
  cases event with
  | acquire tenant tokens now =>
      obtain rfl := Option.some.inj hstep
      unfold TenantQuota.acquire
      dsimp only
      split
      · exact ⟨lease, hget, hreleased⟩
      · have hbound := (List.getElem?_eq_some_iff.mp hget).1
        exact ⟨lease, (List.getElem?_append_left hbound).trans hget, hreleased⟩
  | release other refund =>
      obtain ⟨closed, hother, ⟨-, rfl⟩ | ⟨-, rfl⟩⟩ := release_cases hstep
      · exact ⟨lease, hget, hreleased⟩
      · by_cases hsame : other = id
        · subst hsame
          exact released_release hstep
        · exact ⟨lease, by simp [hsame, hget], hreleased⟩

/-- A release of a lease that was released before changes nothing, however much later it comes. -/
theorem release_later {cfg : QuotaConfig} {quota mid later : TenantQuota} {id : Nat} {refund : Bool}
    {events : List QuotaEvent} (again : Bool) (hstep : quota.release id refund = some mid)
    (hrun : (quotaMachine cfg).run mid events = some later) :
    later.release id again = some later := by
  have hstays : ∀ state event next, TenantQuota.Released state id →
      (quotaMachine cfg).step state event = some next → next.Released id :=
    fun _ _ _ h hnext => h.step hnext
  obtain ⟨lease, hget, hreleased⟩ := Machine.run_invariant hstays (released_release hstep) hrun
  simp [TenantQuota.release, hget, hreleased]

/-- **The tenant quota.** In every state a run reaches, each bucket's counter is the sum of its
window, `active` is the number of its leases not yet released and at most `max_concurrency`, a
second release changes nothing at any later time, and no budget window `(t - window_s, t]` holds
more than `token_budget` tokens of granted and not refunded requests. A negative bound counts as
zero: the bucket it refuses everything from is empty. -/
theorem tenant_quota_holds (cfg : QuotaConfig) (events : List QuotaEvent) (quota : TenantQuota)
    (hordered : (events.filterMap QuotaEvent.reading).Pairwise (· ≤ ·))
    (htokens : ∀ tenant tokens now, .acquire tenant tokens now ∈ events → 0 ≤ tokens)
    (hrun : (quotaMachine cfg).run .empty events = some quota) :
    (∀ name, (quota.buckets name).tokens = ((quota.buckets name).window.map Prod.snd).sum ∧
      (quota.buckets name).active = quota.unreleased name ∧
      (quota.buckets name).active ≤ max 0 cfg.maxConcurrency) ∧
    (∀ id refund again mid events later,
      (quotaMachine cfg).step quota (.release id refund) = some mid →
      (quotaMachine cfg).run mid events = some later →
      (quotaMachine cfg).step later (.release id again) = some later) ∧
    ∀ name t, quota.committed name (t - cfg.windowS) t ≤ max 0 cfg.tokenBudget := by
  have hstart : ∃ last, (last :: events.filterMap QuotaEvent.reading).Pairwise (· ≤ ·) := by
    cases hreadings : events.filterMap QuotaEvent.reading with
    | nil => exact ⟨0, List.pairwise_singleton _ _⟩
    | cons first rest =>
        rw [hreadings] at hordered
        refine ⟨first, List.pairwise_cons.mpr ⟨?_, hordered⟩⟩
        rintro now (_ | ⟨_, hmem⟩)
        · exact le_rfl
        · exact (List.pairwise_cons.mp hordered).1 now hmem
  obtain ⟨first, hfirst⟩ := hstart
  obtain ⟨last, hinv⟩ := quotaInv_run (quotaInv_empty cfg first) hfirst htokens hrun
  exact ⟨fun name => ⟨(hinv.bucket name).tokens, (hinv.bucket name).active,
    (hinv.bucket name).capped⟩,
    fun id refund again mid events later hstep hlater => release_later again hstep hlater,
    hinv.budget⟩

/-! Two requests of one tenant with the same stamp and the same tokens: the refund of the first
takes one of the two equal entries out. -/

def smallBudget : QuotaConfig :=
  { allowlist := ["a"], tokenBudget := 100, windowS := 10, maxConcurrency := 2 }

def equalEntries : List QuotaEvent :=
  [.acquire (some "a") 40 0, .acquire (some "a") 40 0, .release 0 true, .release 0 true,
    .acquire (some "a") 60 5]

theorem tenant_quota_equalEntries :
    ∃ quota, (quotaMachine smallBudget).run .empty equalEntries = some quota ∧
      (quota.buckets "a").tokens = 100 ∧ (quota.buckets "a").active = 2 ∧
      ((∀ name, (quota.buckets name).tokens = ((quota.buckets name).window.map Prod.snd).sum ∧
        (quota.buckets name).active = quota.unreleased name ∧
        (quota.buckets name).active ≤ max 0 smallBudget.maxConcurrency) ∧
      (∀ id refund again mid events later,
        (quotaMachine smallBudget).step quota (.release id refund) = some mid →
        (quotaMachine smallBudget).run mid events = some later →
        (quotaMachine smallBudget).step later (.release id again) = some later) ∧
      ∀ name t, quota.committed name (t - smallBudget.windowS) t ≤
      max 0 smallBudget.tokenBudget) := by
  have hfinal : ((quotaMachine smallBudget).run .empty equalEntries).map
      (fun quota => ((quota.buckets "a").tokens, (quota.buckets "a").active)) = some (100, 2) := by
    decide +kernel
  obtain ⟨quota, hrun, hbucket⟩ := Option.map_eq_some_iff.mp hfinal
  obtain ⟨htokens, hactive⟩ := Prod.mk.inj hbucket
  refine ⟨quota, hrun, htokens, hactive,
    tenant_quota_holds smallBudget equalEntries quota (by decide) ?_ hrun⟩
  intro tenant tokens now hmem
  simp only [equalEntries, List.mem_cons, List.not_mem_nil, or_false, false_or,
    QuotaEvent.acquire.injEq, reduceCtorEq] at hmem
  obtain ⟨-, rfl, -⟩ | ⟨-, rfl, -⟩ | ⟨-, rfl, -⟩ := hmem <;> decide

/-- With a negative cap every request is refused, and the empty bucket is above its cap. -/
theorem negative_cap_exceeded :
    ∃ quota, (quotaMachine { maxConcurrency := -1 }).run .empty [.acquire none 0 0] = some quota ∧
      ¬ (quota.buckets other).active ≤ -1 := by
  have hfinal : ((quotaMachine { maxConcurrency := -1 }).run .empty [.acquire none 0 0]).map
      (fun quota => (quota.buckets other).active) = some 0 := by
    decide
  obtain ⟨quota, hrun, hactive⟩ := Option.map_eq_some_iff.mp hfinal
  exact ⟨quota, hrun, by omega⟩

end AiAnalytics.Gateway
