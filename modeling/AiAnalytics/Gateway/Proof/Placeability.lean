import AiAnalytics.Gateway.Placement
import Mathlib.Data.Rat.Floor

/-!
# What admission says about placement

Admission has seen a healthy worker with a recent snapshot, so placement finds one too, prefers
those with room in their caches and goes by the policy among them. Only the limit on batch work can
leave none: admission asks whether some worker is below it, placement whether one of those it
prefers is. -/

namespace AiAnalytics.Gateway

open Lib

variable {Float : Type} {ops : FloatOps Float} {rng : Rng} {settings : PlacementSettings Float}
  {request : PlacementRequest} {workers : List (WorkerSnapshot Float)} {now : Float}

section Admission

variable {admitRequest : AdmitRequest} {cfg : AdmitConfig Float} {inputs : AdmitInputs Float}

theorem exists_fresh_of_admitted
    (h : shouldShed ops admitRequest workers now cfg = some (.ok inputs)) :
    ∃ worker ∈ workers, worker.fresh ops now cfg.staleAfterS = true := by
  by_contra hnone
  push Not at hnone
  have hempty : workers.filter (WorkerSnapshot.fresh ops now cfg.staleAfterS) = [] :=
    List.filter_eq_nil_iff.mpr hnone
  rw [shouldShed, hempty] at h
  cases h

end Admission

section Eligibility

variable {healthy recent : Pool (Candidate Float)}

def Candidate.fresh (ops : FloatOps Float) (settings : PlacementSettings Float) (now : Float)
    (candidate : Candidate Float) : Bool :=
  candidate.1.fresh ops now settings.staleAfter

theorem freshOrHealthy_eq (hhealthy : healthy.toList =
      workers.zipIdx.filter fun candidate => candidate.1.healthy)
    (hfresh : ∃ worker ∈ workers, worker.fresh ops now settings.staleAfter = true) :
    ∃ recent, freshOrHealthy ops settings now healthy = (recent, none) ∧
      recent.toList = workers.zipIdx.filter (Candidate.fresh ops settings now) := by
  have hlist : (healthy.toList.filter fun candidate =>
      !candidate.1.isStale ops settings.staleAfter now) =
        workers.zipIdx.filter (Candidate.fresh ops settings now) := by
    rw [hhealthy, List.filter_filter]
    apply List.filter_congr
    intro candidate _
    exact Bool.and_comm ..
  have hne : workers.zipIdx.filter (Candidate.fresh ops settings now) ≠ [] := by
    obtain ⟨worker, hmem, hworker⟩ := hfresh
    obtain ⟨i, hi⟩ := List.mem_iff_getElem?.mp hmem
    have hplace : (worker, i) ∈ workers.zipIdx := List.mem_zipIdx_iff_getElem?.mpr hi
    exact List.ne_nil_of_mem (List.mem_filter.mpr ⟨hplace, hworker⟩)
  obtain ⟨recent, hrecent, htoList⟩ := Pool.exists_ofList hne
  exact ⟨recent, by rw [freshOrHealthy, hlist, hrecent], htoList⟩

def Preferred (ops : FloatOps Float) (settings : PlacementSettings Float) (now : Float)
    (workers : List (WorkerSnapshot Float)) (worker : WorkerSnapshot Float) : Prop :=
  worker.fresh ops now settings.staleAfter = true ∧
    (ops.le settings.minKvFree worker.kvFreeRatio = true ∨
      ∀ other ∈ workers, other.fresh ops now settings.staleAfter = true →
        ops.le settings.minKvFree other.kvFreeRatio = false)

def HasBatchRoom (ops : FloatOps Float) (settings : PlacementSettings Float) (now : Float)
    (workers : List (WorkerSnapshot Float)) (limit : Int) : Prop :=
  ∃ worker ∈ workers, Preferred ops settings now workers worker ∧ worker.occupied ops < limit

theorem preferred_of_mem_prefer
    (hrecent : recent.toList = workers.zipIdx.filter (Candidate.fresh ops settings now))
    (candidate : Candidate Float) :
    candidate ∈ (recent.prefer fun candidate =>
        ops.le settings.minKvFree candidate.1.kvFreeRatio).toList ↔
      candidate ∈ workers.zipIdx ∧ Preferred ops settings now workers candidate.1 := by
  rw [Pool.mem_prefer, hrecent, List.mem_filter, Preferred, Candidate.fresh]
  have hothers : (∀ other ∈ workers.zipIdx.filter (Candidate.fresh ops settings now),
        ops.le settings.minKvFree other.1.kvFreeRatio = false) ↔
      ∀ other ∈ workers, other.fresh ops now settings.staleAfter = true →
        ops.le settings.minKvFree other.kvFreeRatio = false := by
    constructor
    · intro hall other hmem hother
      obtain ⟨i, hi⟩ := List.mem_iff_getElem?.mp hmem
      exact hall (other, i)
        (List.mem_filter.mpr ⟨List.mem_zipIdx_iff_getElem?.mpr hi, hother⟩)
    · intro hall other hmem
      obtain ⟨hmem, hother⟩ := List.mem_filter.mp hmem
      exact hall other.1 (List.fst_mem_of_mem_zipIdx hmem) hother
  rw [hothers, and_assoc]

theorem withBatchRoom_isSome_iff {limit : Int} (hlimit : settings.batchSlotLimit = some limit)
    (hrecent : recent.toList = workers.zipIdx.filter (Candidate.fresh ops settings now)) :
    (withBatchRoom ops settings request (recent.prefer fun candidate =>
        ops.le settings.minKvFree candidate.1.kvFreeRatio)).isSome ↔
      (request.workloadClass = .batch → HasBatchRoom ops settings now workers limit) := by
  cases hclass : request.workloadClass with
  | interactive =>
      rw [withBatchRoom, hclass]
      exact iff_of_true rfl nofun
  | batch =>
      rw [withBatchRoom, hclass, hlimit]
      simp only [forall_const]
      rw [Option.isSome_iff_ne_none, ne_eq, Pool.ofList_eq_none_iff, List.filter_eq_nil_iff]
      push Not
      constructor
      · rintro ⟨candidate, hmem, hroom⟩
        obtain ⟨hplace, hpreferred⟩ := (preferred_of_mem_prefer hrecent candidate).mp hmem
        exact ⟨candidate.1, List.fst_mem_of_mem_zipIdx hplace, hpreferred, of_decide_eq_true hroom⟩
      · rintro ⟨worker, hmem, hpreferred, hroom⟩
        obtain ⟨i, hi⟩ := List.mem_iff_getElem?.mp hmem
        refine ⟨(worker, i), (preferred_of_mem_prefer hrecent _).mpr ⟨?_, hpreferred⟩,
          decide_eq_true hroom⟩
        exact List.mem_zipIdx_iff_getElem?.mpr hi

end Eligibility

section Policies

variable {eligible : Pool (Candidate Float)}

theorem p2c_mem : p2c rng eligible ∈ eligible.toList := by
  rw [p2c]
  by_cases htwo : 1 < eligible.toList.length
  · rw [dif_pos htwo]
    have hmem :=
      Pool.best_mem (fun candidate front : Candidate Float => load candidate.1 < load front.1)
      { head := eligible.get (rng.sample _ htwo).1.1,
        tail := [eligible.get (rng.sample _ htwo).1.2] }
    rcases List.mem_pair.mp hmem with hfirst | hsecond
    · rw [leastLoaded, hfirst]
      exact Pool.get_mem _
    · rw [leastLoaded, hsecond]
      exact Pool.get_mem _
  · rw [dif_neg htwo]
    exact List.mem_cons_self

theorem anyLeastLoaded_mem : anyLeastLoaded rng eligible ∈ eligible.toList :=
  (Pool.mem_prefer.mp (Pool.get_mem _)).1

theorem prefixThenLoad_mem :
    ∃ candidate ∈ eligible.toList, candidate.2 =
      (prefixThenLoad ops rng settings request workers eligible).1.2 := by
  rw [prefixThenLoad]
  cases priorOwner ops request workers with
  | none => exact ⟨_, p2c_mem, rfl⟩
  | some owner =>
      by_cases howner : owner.2 ∉ eligible.toList.map Prod.snd
      · simp only [if_pos howner]
        exact ⟨_, p2c_mem, rfl⟩
      · simp only [if_neg howner]
        have hsticky : ∃ candidate ∈ eligible.toList, candidate.2 = owner.2 := by
          obtain ⟨candidate, hmem, hplace⟩ := List.mem_map.mp (not_not.mp howner)
          exact ⟨candidate, hmem, hplace⟩
        split
        · rename_i others why hothers _
          split_ifs
          · refine ⟨leastLoaded others, ?_, rfl⟩
            have hmem := Pool.best_mem
              (fun candidate front : Candidate Float => load candidate.1 < load front.1) others
            rw [Pool.toList_of_ofList hothers] at hmem
            exact List.mem_of_mem_filter hmem
          · exact hsticky
        · exact hsticky

theorem choose_mem {policy : String} (h : policy ∈ policies) :
    ∃ chosen reason, choose ops rng settings request workers eligible policy = some
      (chosen, reason) ∧ ∃ candidate ∈ eligible.toList, candidate.2 = chosen.2 := by
  simp only [policies, List.mem_cons, List.not_mem_nil, or_false] at h
  rcases h with rfl | rfl | rfl | rfl
  · exact ⟨_, _, rfl, _, Pool.get_mem _, rfl⟩
  · exact ⟨_, _, rfl, _, anyLeastLoaded_mem, rfl⟩
  · exact ⟨_, _, rfl, _, p2c_mem, rfl⟩
  · exact ⟨_, _, rfl, prefixThenLoad_mem⟩

end Policies

section Placement

variable {policy : String} {limit : Int}

theorem pickEligible_known {fallback : Option String} (h : policy ∈ policies)
    (eligible : Pool (Candidate Float)) :
    ∃ decision, pickEligible ops rng settings request workers now policy fallback (some eligible) =
      .ok decision := by
  obtain ⟨chosen, reason, hchoose, -⟩ := choose_mem h
  exact ⟨_, by rw [pickEligible, hchoose]⟩

theorem pick_of_fresh (hfresh : ∃ worker ∈ workers, worker.fresh ops now settings.staleAfter = true)
    (hforced : given request.forcedWorker = none) (hpolicy : policy ∈ policies)
    (hlimit : settings.batchSlotLimit = some limit) :
    ((request.workloadClass = .batch → HasBatchRoom ops settings now workers limit) →
      ∃ decision, pick ops rng settings request workers now policy = .ok decision) ∧
    (¬(request.workloadClass = .batch → HasBatchRoom ops settings now workers limit) →
      pick ops rng settings request workers now policy = .error .batchSlotCap) := by
  have hne : workers.zipIdx.filter (fun candidate => candidate.1.healthy) ≠ [] := by
    obtain ⟨worker, hmem, hworker⟩ := hfresh
    obtain ⟨i, hi⟩ := List.mem_iff_getElem?.mp hmem
    have hhealthy : worker.healthy = true := (Bool.and_eq_true_iff.mp hworker).1
    have hplace : (worker, i) ∈ workers.zipIdx := List.mem_zipIdx_iff_getElem?.mpr hi
    exact List.ne_nil_of_mem (List.mem_filter.mpr ⟨hplace, hhealthy⟩)
  obtain ⟨healthy, hhealthy, hlist⟩ := Pool.exists_ofList hne
  obtain ⟨recent, hrecent, htoList⟩ := freshOrHealthy_eq hlist hfresh
  have hpick : pick ops rng settings request workers now policy =
      pickEligible ops rng settings request workers now policy none
        (withBatchRoom ops settings request (recent.prefer fun candidate =>
          ops.le settings.minKvFree candidate.1.kvFreeRatio)) := by
    rw [pick, hforced, hhealthy]
    simp only [hrecent]
  rw [hpick, ← withBatchRoom_isSome_iff hlimit htoList]
  constructor
  · intro hsome
    obtain ⟨eligible, heligible⟩ := Option.isSome_iff_exists.mp hsome
    rw [heligible]
    exact pickEligible_known hpolicy eligible
  · intro hnone
    rw [Option.not_isSome_iff_eq_none.mp hnone]
    rfl

/-- **Admission and placement.** What admission lets in can be placed, except for batch work when
none of the workers that placement prefers is below the batch limit. -/
theorem admitted_placed_iff {admitRequest : AdmitRequest} {cfg : AdmitConfig Float}
    {inputs : AdmitInputs Float}
    (hadmitted : shouldShed ops admitRequest workers now cfg = some (.ok inputs))
    (hlimit : cfg.slotLimit ops .batch = some limit)
    (hclass : request.workloadClass = admitRequest.workloadClass)
    (hstale : settings.staleAfter = cfg.staleAfterS)
    (hbatch : settings.batchSlotLimit = cfg.slotLimit ops .batch)
    (hforced : given request.forcedWorker = none) (hpolicy : policy ∈ policies) :
    ((∃ decision, pick ops rng settings request workers now policy = .ok decision) ↔
      (admitRequest.workloadClass = .batch → HasBatchRoom ops settings now workers limit)) ∧
    ∀ error, pick ops rng settings request workers now policy = .error error →
      error = .batchSlotCap := by
  have hfresh := exists_fresh_of_admitted hadmitted
  rw [← hstale] at hfresh
  obtain ⟨hplaced, hrefused⟩ := pick_of_fresh hfresh hforced hpolicy (hbatch.trans hlimit)
  rw [hclass] at hplaced hrefused
  by_cases hroom : admitRequest.workloadClass = .batch → HasBatchRoom ops settings now workers limit
  · obtain ⟨decision, hdecision⟩ := hplaced hroom
    refine ⟨iff_of_true ⟨decision, hdecision⟩ hroom, ?_⟩
    intro error herror
    rw [hdecision] at herror
    cases herror
  · have herror := hrefused hroom
    refine ⟨iff_of_false ?_ hroom, ?_⟩
    · rintro ⟨decision, hdecision⟩
      rw [herror] at hdecision
      cases hdecision
    · intro error herror'
      rw [herror] at herror'
      cases herror'
      rfl

end Placement

section Samples

def exactFloats : FloatOps ℚ where
  ofInt n := some n
  zero := 0
  isZero x := x = 0
  isPositive x := 0 < x
  add := (· + ·)
  sub := (· - ·)
  mul := (· * ·)
  div := (· / ·)
  one := 1
  infinity := 10 ^ 9
  negInfinity := -10 ^ 9
  eq x y := x = y
  lt x y := x < y
  le x y := x ≤ y
  trueDiv m n := some (m / n)
  ceil x := some ⌈x⌉
  round3 x := ⌊1000 * x + 1 / 2⌋ / 1000

def firstOnly : Rng where
  choice _ h := ⟨0, h⟩
  sample _ h := ⟨(⟨0, by omega⟩, ⟨1, h⟩), by simp⟩

def sampleConfig : AdmitConfig ℚ :=
  { kvFreeMin := 1 / 10, prefillTokensPerS := 4000, queueWaitPerWaitingS := 1 / 4, staleAfterS := 5
    batchReserve := 1 / 4 }

def sampleSettings : PlacementSettings ℚ :=
  { staleAfter := 5, kvUsedMax := 7 / 10, minKvFree := 1 / 5, batchSlotLimit := some 24 }

def crowdedWorkers : List (WorkerSnapshot ℚ) :=
  [{ id := "worker_a", observedAt := some 10, running := 24, kvFreeRatio := 1 / 2, healthy := true
     dispatchGraceS := 2 },
    { id := "worker_b", observedAt := some 10, kvFreeRatio := 3 / 20, healthy := true
      dispatchGraceS := 2 }]

def batchRequest : PlacementRequest := { workloadClass := .batch }

theorem crowded_admitted : shouldShed exactFloats { workloadClass := .batch } crowdedWorkers 11
    sampleConfig =
      some (.ok (admitInputs exactFloats { workloadClass := .batch } crowdedWorkers 11)) := by
  decide +kernel

theorem sampleConfig_batchLimit : sampleConfig.slotLimit exactFloats .batch = some 24 := by
  decide +kernel

/-- Batch work that is admitted and finds no worker. -/
theorem admitted_batch_refused :
    (∃ inputs, shouldShed exactFloats { workloadClass := .batch } crowdedWorkers 11 sampleConfig =
      some (.ok inputs)) ∧
    sampleSettings.batchSlotLimit = sampleConfig.slotLimit exactFloats .batch ∧
    pick exactFloats firstOnly sampleSettings batchRequest crowdedWorkers 11 "prefix_then_load" =
      .error .batchSlotCap :=
  ⟨⟨_, crowded_admitted⟩, sampleConfig_batchLimit.symm, by decide +kernel⟩

theorem admitted_placed_iff_crowded :
    ((∃ decision, pick exactFloats firstOnly sampleSettings batchRequest crowdedWorkers 11
        "prefix_then_load" = .ok decision) ↔
      (WorkloadClass.batch = .batch → HasBatchRoom exactFloats sampleSettings 11 crowdedWorkers 24))
      ∧
    ∀ error, pick exactFloats firstOnly sampleSettings batchRequest crowdedWorkers 11
      "prefix_then_load" = .error error → error = .batchSlotCap := by
  have hbatch : sampleSettings.batchSlotLimit = sampleConfig.slotLimit exactFloats .batch :=
    sampleConfig_batchLimit.symm
  have hpolicy : "prefix_then_load" ∈ policies := by decide
  exact admitted_placed_iff crowded_admitted sampleConfig_batchLimit rfl rfl hbatch rfl hpolicy

end Samples

end AiAnalytics.Gateway
