import AiAnalytics.Gateway.Proof.LoadCounts
import AiAnalytics.Gateway.Proof.RampPacing
import AiAnalytics.Gateway.Proof.SoundPlacement

/-!
# The cap of a ramping worker

`serving_snapshots` compares the cap with the requests that are dispatched and those whose item is
in the queue. A request that was granted a slot and has not resumed is neither, so that more of them
may be placed on the worker than its cap allows.
-/

namespace AiAnalytics.Gateway

open Lib

variable {Float : Type}

section Names

variable {cfg : SlotConfig Float} {slots next : SlotState Float} {worker : String}

def Named (slots : SlotState Float) : Prop := ∀ worker, (slots.snapshots worker).id = worker

theorem Named.setSnapshot (h : Named slots) {snap : WorkerSnapshot Float}
    (hid : snap.id = (slots.snapshots worker).id) : Named (slots.setSnapshot worker snap) := by
  intro other
  by_cases hother : other = worker
  · simp [SlotState.setSnapshot, hother, hid, h worker]
  · simp [SlotState.setSnapshot, hother, h other]

theorem Named.dispatch (h : Named slots) (id : Nat) (request : PlacedRequest) (worker : String)
    (now : Float) : Named (slots.dispatch cfg id request worker now) := by
  intro other
  by_cases hother : other = worker
  · simp [SlotState.dispatch, hother, WorkerSnapshot.noteDispatch, WorkerSnapshot.addInflight,
      h worker]
  · simp [SlotState.dispatch, hother, h other]

theorem Named.enqueue (h : Named slots) (worker : String) (arrival : Arrival Float) :
    Named (slots.enqueue cfg worker arrival) := by
  unfold SlotState.enqueue
  simp only
  split
  · split
    · refine Named.dispatch ?_ _ _ _ _
      exact h
    · exact h
  · exact h.setSnapshot rfl
  · exact h

theorem Named.arrive (h : Named slots) (arrival : Arrival Float) :
    Named (slots.arrive cfg arrival) := by
  have hcounted : Named slots.countQueued := h
  unfold SlotState.arrive
  simp only
  split
  · exact hcounted
  · split
    · exact hcounted
    · exact (hcounted.setSnapshot (recordPrefix_id ..)).enqueue _ arrival

theorem Named.step (h : Named slots) {label : SlotLabel Float}
    (hstep : (slotMachine cfg).step slots label = some next) : Named next := by
  cases label with
  | arrive arrival => exact Option.some.inj hstep ▸ h.arrive arrival
  | timerFires id =>
      obtain ⟨queues, -, rfl⟩ := Option.map_eq_some_iff.mp hstep
      exact h
  | cancelTask id =>
      obtain ⟨queues, -, rfl⟩ := Option.map_eq_some_iff.mp hstep
      exact h
  | resume id outcome clock dispatchedAt prepared =>
      simp only [slotMachine] at hstep
      split at hstep
      · rename_i call request queues _ _ _
        obtain rfl := Option.some.inj hstep
        have hpending : Named (({ slots with queues } : SlotState Float).setSnapshot call.worker
            ((slots.snapshots call.worker).addPending (-1))) := Named.setSnapshot h rfl
        unfold SlotState.resumed
        simp only
        split
        · exact hpending.dispatch _ _ _ _
        · exact hpending
      · cases hstep
  | complete id clock =>
      simp only [slotMachine] at hstep
      split at hstep
      · obtain ⟨token, -, rfl⟩ := Option.map_eq_some_iff.mp hstep
        exact Named.setSnapshot h rfl
      · cases hstep
  | scraped worker gauges =>
      obtain rfl := Option.some.inj hstep
      exact h.setSnapshot rfl
  | scrapeFailed worker =>
      obtain rfl := Option.some.inj hstep
      exact h.setSnapshot rfl

end Names

section Runs

variable {cfg : GatewayConfig Float} {state next : GatewayState Float} {worker : String}

structure GatewayInv (cfg : GatewayConfig Float) (state : GatewayState Float) : Prop where
  ramp : RampInv cfg.settings state.gate
  load : LoadInv state.load
  named : Named state.load.slots

theorem GatewayInv.start (cfg : GatewayConfig Float) (kvFreeRatio dispatchGraceS : Float) :
    GatewayInv cfg (GatewayState.start kvFreeRatio dispatchGraceS) :=
  ⟨RampInv.start cfg.settings, LoadInv.start kvFreeRatio dispatchGraceS, fun _ => rfl⟩

theorem named_loadStep {load after : LoadState Float} (h : Named load.slots)
    {label : LoadLabel Float} (hstep : (loadMachine cfg.slots).step load label = some after) :
    Named after.slots := by
  cases label with
  | slot label =>
      simp only [loadMachine] at hstep
      split_ifs at hstep
      obtain ⟨slots, hslots, rfl⟩ := Option.map_eq_some_iff.mp hstep
      exact h.step hslots
  | abandon id =>
      simp only [loadMachine] at hstep
      split_ifs at hstep
      obtain rfl := Option.some.inj hstep
      exact h

theorem GatewayInv.step (h : GatewayInv cfg state) {label : GatewayLabel Float}
    (hstep : (gatewayMachine cfg).step state label = some next) : GatewayInv cfg next := by
  cases label with
  | scrapeOk worker values gauges =>
      simp only [gatewayMachine, Option.bind_eq_some_iff, Option.map_eq_some_iff] at hstep
      obtain ⟨gate, hgate, load, hload, rfl⟩ := hstep
      exact ⟨h.ramp.step hgate, h.load.step hload, named_loadStep h.named hload⟩
  | scrapeFailed worker =>
      simp only [gatewayMachine, Option.bind_eq_some_iff, Option.map_eq_some_iff] at hstep
      obtain ⟨gate, hgate, load, hload, rfl⟩ := hstep
      exact ⟨h.ramp.step hgate, h.load.step hload, named_loadStep h.named hload⟩
  | gate label =>
      obtain ⟨gate, hgate, rfl⟩ := Option.map_eq_some_iff.mp hstep
      exact ⟨h.ramp.step hgate, h.load, h.named⟩
  | load label =>
      obtain ⟨load, hload, rfl⟩ := Option.map_eq_some_iff.mp hstep
      exact ⟨h.ramp, h.load.step hload, named_loadStep h.named hload⟩

theorem mem_serving_of_placement (hnamed : Named state.load.slots) {arrival : Arrival Float}
    (hunforced : given arrival.request.forcedWorker = none ∨ arrival.allowForced = false)
    (hplaced : state.placement cfg arrival = some worker) :
    worker ∈ state.counted.servingSnapshots cfg := by
  obtain ⟨limit, -, hpick⟩ := Option.bind_eq_some_iff.mp hplaced
  split at hpick
  · rename_i decision hdecision
    obtain rfl := Option.some.inj hpick
    obtain ⟨chosen, hchosen⟩ := placed_of_pick _ _ hunforced hdecision
    obtain ⟨id, hid, rfl⟩ := List.mem_map.mp hchosen.given
    have hname : (state.counted.load.slots.snapshots id).id = id := hnamed id
    rw [hchosen.named, hname]
    exact hid
  · cases hpick

theorem room_of_serving (hramp : RampInv cfg.settings state.gate) {cap : Int}
    (hcap : (state.gate.snapshots worker).rampCap = some cap)
    (hopen : ∃ other ∈ state.warm cfg, state.isOpen other = true)
    (hserved : worker ∈ state.servingSnapshots cfg) :
    (state.load.slots.snapshots worker).inflight + (state.load.slots.snapshots worker).queued <
      cap := by
  have hsteps : cfg.settings.rampSteps ≠ [] := by
    intro hnil
    have hstage := (hramp.ramping worker (by simp [hcap])).stage
    rw [hnil] at hstage
    exact absurd hstage (Nat.not_lt_zero _)
  have hmem : worker ∈ (state.warm cfg).filter state.isOpen := by
    unfold GatewayState.servingSnapshots at hserved
    rw [if_neg hsteps] at hserved
    obtain ⟨other, hother, hfree⟩ := hopen
    have hnonempty : (state.warm cfg).filter state.isOpen ≠ [] :=
      List.ne_nil_of_mem (List.mem_filter.mpr ⟨hother, hfree⟩)
    split at hserved
    · rename_i hnone
      exact absurd hnone hnonempty
    · exact hserved
  have hworker := List.of_mem_filter hmem
  rw [GatewayState.isOpen, hcap, Option.all_some] at hworker
  exact of_decide_eq_true hworker

/-- An unforced placement on a worker under a cap, while another one is open: the check leaves room
for the request, and the cap is kept exactly if the requests in transit, which the check does not
see, fit in as well. -/
theorem ramp_cap_kept_iff {kvFreeRatio dispatchGraceS : Float} {labels : List (GatewayLabel Float)}
    (hrun : (gatewayMachine cfg).run (GatewayState.start kvFreeRatio dispatchGraceS) labels =
      some state)
    {arrival : Arrival Float}
    (hunforced : given arrival.request.forcedWorker = none ∨ arrival.allowForced = false)
    (hplaced : state.placement cfg arrival = some worker) {cap : Int}
    (hcap : (state.gate.snapshots worker).rampCap = some cap)
    (hopen : ∃ other ∈ state.counted.warm cfg, other ≠ worker ∧ state.counted.isOpen other = true) :
    let counted := (state.load.slots.snapshots worker).inflight + state.load.slots.queues.depth
      worker none
    counted < cap ∧ ((state.load.outstanding worker : Int) + 1 ≤ cap ↔
      (state.load.inTransit worker : Int) < cap - counted + state.load.count worker
        .abandoned) := by
  intro counted
  have hinv : GatewayInv cfg state :=
    Machine.run_invariant (fun _ _ _ hinv hstep => hinv.step hstep)
    (GatewayInv.start cfg kvFreeRatio dispatchGraceS) hrun
  obtain ⟨other, hwarm, -, hfree⟩ := hopen
  have hramp : RampInv cfg.settings state.counted.gate := hinv.ramp
  have hroom : counted < cap :=
    room_of_serving hramp hcap ⟨other, hwarm, hfree⟩
      (mem_serving_of_placement hinv.named hunforced hplaced)
  have hinflight := (hinv.load.tallied worker).1
  have hwaiting := hinv.load.count_waiting worker
  refine ⟨hroom, ?_⟩
  simp only [counted, hinflight, LoadState.outstanding, hwaiting]
  push_cast
  omega

end Runs

section Sample

def returnGateway : GatewayConfig ℚ where
  workers := ["worker-a", "worker-b"]
  settings := ⟨true, 1, [2], 30, 1 / 5⟩
  slots := { loadSample with queue := { maxInflight := 1 } }

def warmUp (worker : String) (task : Nat) (now : ℚ) : List (GatewayLabel ℚ) :=
  [.scrapeOk worker (calmScrape now) ⟨0, 0, 0, now⟩, .gate (.probeBegins task),
    .gate (.probeEnds task .ok now now)]

def turnArrival (rrIndex : Int) (now : ℚ) : Arrival ℚ :=
  { request := { estTokens := 100 }, serving := [], policy := "round_robin", rng := firstOnly
    rrIndex, pickedAt := now, enqueuedAt := now, dispatchedAt := now }

def arrives (rrIndex : Int) (now : ℚ) : GatewayLabel ℚ :=
  .load (.slot (.arrive (turnArrival rrIndex now)))

def cappedRun : List (GatewayLabel ℚ) :=
  warmUp "worker-a" 0 0 ++ warmUp "worker-b" 1 0 ++ [.scrapeFailed "worker-a"] ++
    warmUp "worker-a" 2 1 ++ [arrives 0 2, arrives 1 2, arrives 2 2]

def transitRun : List (GatewayLabel ℚ) :=
  cappedRun ++ [.load (.slot (.complete 0 fun _ => 3)), arrives 3 3, arrives 4 3, arrives 5 3]

def GatewayState.atNext (state : GatewayState ℚ) (rrIndex : Int) :
    Option String × Option Int × Bool × Nat :=
  (state.placement returnGateway (turnArrival rrIndex 3), (state.gate.snapshots "worker-a").rampCap,
    (state.counted.warm returnGateway).contains "worker-b" && state.counted.isOpen "worker-b",
    state.load.outstanding "worker-a")

theorem transitRun_atNext :
    ((gatewayMachine returnGateway).run (GatewayState.start 1 2) transitRun).map (·.atNext 6) =
      some (some "worker-a", some 2, true, 2) := by
  decide +kernel

/-- Request 2 is in transit: request 6 is placed although there would be three. -/
theorem ramp_cap_exceeded :
    ¬ ∀ labels state, (gatewayMachine returnGateway).run (GatewayState.start 1 2) labels = some
      state →
      ∀ arrival worker cap, (given arrival.request.forcedWorker = none ∨
      arrival.allowForced = false) →
        state.placement returnGateway arrival = some worker →
        (state.gate.snapshots worker).rampCap = some cap →
        (∃ other ∈ state.counted.warm returnGateway, other ≠ worker ∧
        state.counted.isOpen other = true) →
        (state.load.outstanding worker : Int) + 1 ≤ cap := by
  intro hclaim
  obtain ⟨state, hrun, hnext⟩ := Option.map_eq_some_iff.mp transitRun_atNext
  simp only [GatewayState.atNext, Prod.mk.injEq, Bool.and_eq_true, List.contains_iff_mem] at hnext
  obtain ⟨hplaced, hcap, ⟨hwarm, hopen⟩, houtstanding⟩ := hnext
  have hkept := hclaim transitRun state hrun (turnArrival 6 3) "worker-a" 2 (.inl rfl) hplaced hcap
    ⟨"worker-b", hwarm, by decide, hopen⟩
  rw [houtstanding] at hkept
  exact absurd hkept (by decide)

theorem singleRun_atNext :
    ((gatewayMachine returnGateway).run (GatewayState.start 1 2) (cappedRun.take 12)).map
      (fun state =>
      (state.atNext 2, state.load.inTransit "worker-a", state.load.count "worker-a" .abandoned)) =
      some ((some "worker-a", some 2, true, 1), 0, 0) := by
  decide +kernel

theorem ramp_cap_kept_iff_example :
    ∃ state, (gatewayMachine returnGateway).run (GatewayState.start 1 2) (cappedRun.take 12) = some
      state ∧ state.placement returnGateway (turnArrival 2 3) = some "worker-a" ∧
      (state.load.outstanding "worker-a" : Int) + 1 ≤ 2 := by
  obtain ⟨state, hrun, hnext⟩ := Option.map_eq_some_iff.mp singleRun_atNext
  simp only [GatewayState.atNext, Prod.mk.injEq, Bool.and_eq_true, List.contains_iff_mem] at hnext
  obtain ⟨⟨hplaced, hcap, ⟨hwarm, hopen⟩, -⟩, htransit, habandoned⟩ := hnext
  obtain ⟨hroom, hkept⟩ :=
    ramp_cap_kept_iff hrun (.inl rfl) hplaced hcap ⟨"worker-b", hwarm, by decide, hopen⟩
  refine ⟨state, hrun, hplaced, hkept.mpr ?_⟩
  rw [htransit, habandoned]
  push_cast
  omega

end Sample

end AiAnalytics.Gateway
