import AiAnalytics.Gateway.Proof.WarmedWorkers
import Mathlib.Tactic.Linarith
import Mathlib.Tactic.Ring

/-!
# The pace of a ramp

While a cap stands, `ramp_next_at` lies at least one interval per stage, and one more, after the
probe that brought the worker back. A due scrape is the only thing that moves the stage, and a fault
takes the cap away. -/

namespace AiAnalytics.Gateway

open Lib

section Snapshots

variable {settings : GateSettings} {snap new : GateSnapshot} {values : ScrapeValues}

inductive RampMove (settings : GateSettings) (snap : GateSnapshot) (values : ScrapeValues)
    (new : GateSnapshot) : Prop
  | kept (hcap : new.rampCap = snap.rampCap) (hstage : new.rampStage = snap.rampStage)
      (hnext : new.rampNextAt = snap.rampNextAt)
  | held (hcapped : snap.rampCap ≠ none) (hdue : snap.rampNextAt ≤ values.rampNow)
      (hcap : new.rampCap = snap.rampCap) (hstage : new.rampStage = snap.rampStage)
      (hnext : new.rampNextAt = values.rampThen + settings.rampStepS)
  | raised (hcapped : snap.rampCap ≠ none) (hdue : snap.rampNextAt ≤ values.rampNow)
      (hwaiting : new.waiting ≤ 0) (hfree : settings.rampMinKvFree ≤ new.kvFreeRatio)
      (hcap : new.rampCap = settings.rampSteps[snap.rampStage + 1]?)
        (hstage : new.rampStage = snap.rampStage + 1)
      (hnext : new.rampNextAt = values.rampThen + settings.rampStepS)

theorem rampMove_advanceRamp (settings : GateSettings) (snap : GateSnapshot)
    (values : ScrapeValues) :
    RampMove settings snap values (snap.advanceRamp settings values.rampNow values.rampThen) := by
  simp only [GateSnapshot.advanceRamp]
  split_ifs with hidle hpressure
  · exact .kept rfl rfl rfl
  · rw [not_or, not_lt] at hidle
    exact .held hidle.1 hidle.2 rfl rfl rfl
  · rw [not_or, not_lt] at hidle
    rw [not_or, not_lt, not_lt] at hpressure
    exact .raised hidle.1 hidle.2 hpressure.1 hpressure.2 rfl rfl rfl

theorem rampMove_scraped (settings : GateSettings) (snap : GateSnapshot) (values : ScrapeValues) :
    RampMove settings snap values (snap.scraped settings values) := by
  have hmove := rampMove_advanceRamp settings
    { snap with
      running := values.running
      waiting := values.waiting
      kvFreeRatio := max 0 (1 - values.kvUsed)
      observedAt := some values.observedAt
      healthy := true
      healthyStreak := snap.healthyStreak + 1 } values
  simp only [GateSnapshot.scraped]
  split_ifs <;> cases hmove with
  | kept hcap hstage hnext => exact .kept hcap hstage hnext
  | held hcapped hdue hcap hstage hnext => exact .held hcapped hdue hcap hstage hnext
  | raised hcapped hdue hwaiting hfree hcap hstage hnext =>
      exact .raised hcapped hdue hwaiting hfree hcap hstage hnext

theorem advanceRamp_warmth (settings : GateSettings) (snap : GateSnapshot) (now then_ : ℚ) :
    (snap.advanceRamp settings now then_).warm = snap.warm ∧
      (snap.advanceRamp settings now then_).warmCount = snap.warmCount := by
  simp only [GateSnapshot.advanceRamp]
  split_ifs <;> exact ⟨rfl, rfl⟩

theorem scraped_warmth (settings : GateSettings) (snap : GateSnapshot) (values : ScrapeValues)
    (hwarm : snap.warm = true) :
    (snap.scraped settings values).warm = true ∧
      (snap.scraped settings values).warmCount = snap.warmCount := by
  obtain ⟨hkept, hcount⟩ := advanceRamp_warmth settings
    { snap with
      running := values.running
      waiting := values.waiting
      kvFreeRatio := max 0 (1 - values.kvUsed)
      observedAt := some values.observedAt
      healthy := true
      healthyStreak := snap.healthyStreak + 1 } values.rampNow values.rampThen
  simp only [GateSnapshot.scraped]
  split_ifs
  · exact ⟨rfl, hcount⟩
  · exact ⟨hkept.trans hwarm, hcount⟩

@[simp]
theorem rampCap_scrapeFailed : (snap.scrapeFailed settings).rampCap = none := rfl

structure Ramping (settings : GateSettings) (snap : GateSnapshot) : Prop where
  gated : settings.requireWarm = true
  warm : snap.warm = true
  returned : 1 < snap.warmCount
  stage : snap.rampStage < settings.rampSteps.length
  cap : snap.rampCap = some settings.rampSteps[snap.rampStage]

theorem Ramping.scraped (h : Ramping settings snap) (values : ScrapeValues)
    (hcap : (snap.scraped settings values).rampCap ≠ none) :
    Ramping settings (snap.scraped settings values) := by
  obtain ⟨hwarm, hcount⟩ := scraped_warmth settings snap values h.warm
  have hreturned : 1 < (snap.scraped settings values).warmCount := hcount ▸ h.returned
  have hkept (hstage : (snap.scraped settings values).rampStage = snap.rampStage)
      (hcap : (snap.scraped settings values).rampCap = snap.rampCap) :
      Ramping settings (snap.scraped settings values) := by
    have hbound : (snap.scraped settings values).rampStage < settings.rampSteps.length :=
      hstage ▸ h.stage
    refine ⟨h.gated, hwarm, hreturned, hbound, ?_⟩
    rw [hcap, h.cap]
    simp only [hstage]
  cases rampMove_scraped settings snap values with
  | kept hcap hstage hnext => exact hkept hstage hcap
  | held hcapped hdue hcap hstage hnext => exact hkept hstage hcap
  | raised hcapped hdue hwaiting hfree hraised hstage hnext =>
      have hbound : snap.rampStage + 1 < settings.rampSteps.length := by
        by_contra hlast
        rw [hraised, List.getElem?_eq_none (Nat.le_of_not_lt hlast)] at hcap
        exact hcap rfl
      refine ⟨h.gated, hwarm, hreturned, hstage ▸ hbound, ?_⟩
      rw [hraised, List.getElem?_eq_getElem hbound]
      simp only [hstage]

inductive RampStart (settings : GateSettings) (snap : GateSnapshot) (rampNow : ℚ)
    (new : GateSnapshot) : Prop
  | kept (hidle : settings.rampSteps = [] ∨ new.warmCount ≤ 1) (hcap : new.rampCap = snap.rampCap)
      (hstage : new.rampStage = snap.rampStage)
      (hnext : new.rampNextAt = snap.rampNextAt)
  | started (cap : Int) (hcap : new.rampCap = some cap) (hsteps : settings.rampSteps[0]? = some cap)
      (hreturned : 1 < new.warmCount) (hstage : new.rampStage = 0)
      (hnext : new.rampNextAt = rampNow + settings.rampStepS)

theorem rampStart_warmed (settings : GateSettings) (snap : GateSnapshot) (warmedAt rampNow : ℚ) :
    RampStart settings snap rampNow (snap.warmed settings warmedAt rampNow) := by
  simp only [GateSnapshot.warmed, GateSnapshot.startRamp]
  split
  · rename_i hsteps
    exact .kept (.inl hsteps) rfl rfl rfl
  · rename_i cap rest hsteps
    split_ifs with hreturned
    · exact .started cap rfl (by rw [hsteps, List.getElem?_cons_zero]) hreturned rfl rfl
    · exact .kept (.inr (Nat.le_of_not_lt hreturned)) rfl rfl rfl

theorem warmed_warmth (settings : GateSettings) (snap : GateSnapshot) (warmedAt rampNow : ℚ) :
    (snap.warmed settings warmedAt rampNow).warm = true ∧
      (snap.warmed settings warmedAt rampNow).warmCount = snap.warmCount + 1 := by
  simp only [GateSnapshot.warmed, GateSnapshot.startRamp]
  split
  · exact ⟨rfl, rfl⟩
  · split_ifs <;> exact ⟨rfl, rfl⟩

theorem Ramping.warmed (hgated : settings.requireWarm = true)
    (h : snap.rampCap ≠ none → Ramping settings snap) (warmedAt rampNow : ℚ)
    (hcap : (snap.warmed settings warmedAt rampNow).rampCap ≠ none) :
    Ramping settings (snap.warmed settings warmedAt rampNow) := by
  obtain ⟨hwarm, hcount⟩ := warmed_warmth settings snap warmedAt rampNow
  cases rampStart_warmed settings snap warmedAt rampNow with
  | kept hidle hkept hstage hnext =>
      have hramping : Ramping settings snap := h (hkept ▸ hcap)
      have hbound : (snap.warmed settings warmedAt rampNow).rampStage < settings.rampSteps.length :=
        hstage ▸ hramping.stage
      refine ⟨hgated, hwarm, ?_, hbound, ?_⟩
      · rw [hcount]
        exact Nat.lt_succ_of_lt hramping.returned
      · rw [hkept, hramping.cap]
        simp only [hstage]
  | started cap hstarted hsteps hreturned hstage hnext =>
      obtain ⟨hbound, hfirst⟩ := List.getElem?_eq_some_iff.mp hsteps
      refine ⟨hgated, hwarm, hreturned, hstage ▸ hbound, ?_⟩
      rw [hstarted, ← hfirst]
      simp only [hstage]

theorem rampCap_markCold (h : snap.rampCap ≠ none → Ramping settings snap) :
    (snap.markCold settings).rampCap = none := by
  by_cases hcap : snap.rampCap = none
  · simp only [GateSnapshot.markCold]
    split_ifs
    · rfl
    · exact hcap
  · have hramping := h hcap
    simp [GateSnapshot.markCold, hramping.gated, hramping.warm]

end Snapshots

section Steps

variable {Worker : Type} [DecidableEq Worker] {settings : GateSettings}
  {registry next : WarmRegistry Worker} {label : GateLabel Worker} {worker : Worker}

structure Warms (settings : GateSettings) (registry : WarmRegistry Worker) (worker : Worker)
    (task : Nat) (post : PostResult) : Prop where
  posted : ∃ epoch, registry.tasks task = some ⟨worker, .posted epoch⟩ ∧
    probeResult settings (registry.snapshots worker) epoch post = .ok

inductive SnapshotStep (settings : GateSettings) (registry : WarmRegistry Worker)
    (worker : Worker) : GateLabel Worker → GateSnapshot → Prop
  | same (label : GateLabel Worker) : SnapshotStep settings registry worker label
    (registry.snapshots worker)
  | scrapeOk (values : ScrapeValues) :
      SnapshotStep settings registry worker (.scrapeOk worker values)
        ((registry.snapshots worker).scraped settings values)
  | scrapeFailed :
      SnapshotStep settings registry worker (.scrapeFailed worker)
        ((registry.snapshots worker).scrapeFailed settings)
  | markCold :
      SnapshotStep settings registry worker (.markCold worker)
        ((registry.snapshots worker).markCold settings)
  | warmed (task : Nat) (post : PostResult) (warmedAt rampNow : ℚ)
      (hwarms : Warms settings registry worker task post) :
      SnapshotStep settings registry worker (.probeEnds task post warmedAt rampNow)
        ((registry.snapshots worker).warmed settings warmedAt rampNow)

@[simp]
theorem snapshots_startProbe (registry : WarmRegistry Worker) (worker : Worker) :
    (registry.startProbe worker).snapshots = registry.snapshots := by
  unfold WarmRegistry.startProbe
  split_ifs <;> rfl

theorem SnapshotStep.update {other : Worker} {new : GateSnapshot}
    (hnew : other = worker → SnapshotStep settings registry worker label new) :
    SnapshotStep settings registry worker label
      (Function.update registry.snapshots other new worker) := by
  by_cases heq : other = worker
  · rw [heq, Function.update_self]
    exact hnew heq
  · rw [Function.update_of_ne (Ne.symm heq)]
    exact .same label

theorem snapshotStep (hstep : (warmGate settings).step registry label = some next)
    (worker : Worker) : SnapshotStep settings registry worker label (next.snapshots worker) := by
  cases label with
  | scrapeOk other values =>
      obtain rfl := Option.some.inj hstep
      have hupdate : SnapshotStep settings registry worker (.scrapeOk other values)
          (Function.update registry.snapshots other
            ((registry.snapshots other).scraped settings values) worker) := by
        refine .update fun heq => ?_
        subst heq
        exact .scrapeOk values
      split_ifs
      · rw [snapshots_startProbe]
        exact hupdate
      · exact hupdate
  | scrapeFailed other =>
      obtain rfl := Option.some.inj hstep
      refine .update fun heq => ?_
      subst heq
      exact .scrapeFailed
  | scrapeRaised other =>
      obtain rfl := Option.some.inj hstep
      exact .same _
  | markCold other =>
      obtain rfl := Option.some.inj hstep
      refine .update fun heq => ?_
      subst heq
      exact .markCold
  | probeBegins task =>
      simp only [warmGate] at hstep
      split at hstep
      · obtain rfl := Option.some.inj hstep
        exact .same _
      · cases hstep
  | probeEnds task post warmedAt rampNow =>
      simp only [warmGate] at hstep
      split at hstep
      · rename_i other epoch htask
        obtain rfl := Option.some.inj hstep
        split_ifs with hok
        · refine .update fun heq => ?_
          subst heq
          exact .warmed task post warmedAt rampNow ⟨epoch, htask, hok⟩
        · exact .same _
      · split at hstep
        · obtain rfl := Option.some.inj hstep
          exact .same _
        · cases hstep
      · cases hstep

theorem gated_of_task (hstep : (warmGate settings).step registry label = some next)
    (h : ∀ task, registry.tasks task ≠ none → settings.requireWarm = true) (task : Nat)
    (htask : next.tasks task ≠ none) : settings.requireWarm = true := by
  by_contra hgate
  have hnone (other : Nat) : registry.tasks other = none := by
    by_contra hother
    exact hgate (h other hother)
  apply htask
  cases label with
  | scrapeOk worker values =>
      obtain rfl := Option.some.inj hstep
      have hprobe (snap : GateSnapshot) : snap.wantsProbe settings = false := by
        simp [GateSnapshot.wantsProbe, Bool.eq_false_iff.mpr hgate]
      rw [hprobe]
      exact hnone task
  | scrapeFailed worker =>
      obtain rfl := Option.some.inj hstep
      exact hnone task
  | scrapeRaised worker =>
      obtain rfl := Option.some.inj hstep
      exact hnone task
  | markCold worker =>
      obtain rfl := Option.some.inj hstep
      exact hnone task
  | probeBegins other => simp [warmGate, hnone] at hstep
  | probeEnds other post warmedAt rampNow => simp [warmGate, hnone] at hstep

structure RampInv (settings : GateSettings) (registry : WarmRegistry Worker) : Prop where
  gated : ∀ task, registry.tasks task ≠ none → settings.requireWarm = true
  ramping : ∀ worker, (registry.snapshots worker).rampCap ≠ none →
    Ramping settings (registry.snapshots worker)

omit [DecidableEq Worker] in
theorem RampInv.start (settings : GateSettings) :
    RampInv settings (WarmRegistry.start : WarmRegistry Worker) :=
  ⟨fun _ htask => absurd rfl htask, fun _ hcap => absurd rfl hcap⟩

theorem RampInv.step (h : RampInv settings registry)
    (hstep : (warmGate settings).step registry label = some next) : RampInv settings next := by
  refine ⟨gated_of_task hstep h.gated, fun worker hcap => ?_⟩
  have hsnapshot := snapshotStep hstep worker
  generalize next.snapshots worker = new at hcap hsnapshot
  cases hsnapshot with
  | same => exact h.ramping worker hcap
  | scrapeOk values =>
      have hcapped : (registry.snapshots worker).rampCap ≠ none := by
        cases rampMove_scraped settings (registry.snapshots worker) values with
        | kept hkept hstage hnext => exact hkept ▸ hcap
        | held hcapped hdue hkept hstage hnext => exact hcapped
        | raised hcapped hdue hwaiting hfree hraised hstage hnext => exact hcapped
      exact (h.ramping worker hcapped).scraped values hcap
  | scrapeFailed => exact absurd rampCap_scrapeFailed hcap
  | markCold => exact absurd (rampCap_markCold (h.ramping worker)) hcap
  | warmed task post warmedAt rampNow hwarms =>
      obtain ⟨epoch, htask, hok⟩ := hwarms.posted
      have hgated : settings.requireWarm = true :=
        h.gated task (by rw [htask]; exact Option.some_ne_none _)
      exact Ramping.warmed hgated (h.ramping worker) warmedAt rampNow hcap

end Steps

section Pacing

variable {Worker : Type} [DecidableEq Worker] {settings : GateSettings}
  {registry next : WarmRegistry Worker} {label : GateLabel Worker} {worker : Worker}

def GateLabel.readings : GateLabel Worker → List ℚ
  | .scrapeOk _ values => [values.rampNow, values.rampThen]
  | .probeEnds _ _ _ rampNow => [rampNow]
  | _ => []

def OrderedReadings (labels : List (GateLabel Worker)) : Prop :=
  (labels.flatMap GateLabel.readings).Pairwise (· ≤ ·)

def Paced (since : ℚ) (pace : Nat → ℚ) (worker : Worker) (registry : WarmRegistry Worker) : Prop :=
  (registry.snapshots worker).rampCap ≠ none →
    since + pace (registry.snapshots worker).rampStage ≤ (registry.snapshots worker).rampNextAt

theorem Paced.step {since : ℚ} {pace : Nat → ℚ} (hzero : pace 0 ≤ settings.rampStepS)
    (hsucc : ∀ stage, pace (stage + 1) ≤ pace stage + settings.rampStepS)
    (hstepS : 0 ≤ settings.rampStepS)
    (h : Paced since pace worker registry) (hinv : RampInv settings registry)
    (hsince : ∀ reading ∈ label.readings, since ≤ reading)
    (hclock : label.readings.Pairwise (· ≤ ·))
    (hstep : (warmGate settings).step registry label = some next) :
    Paced since pace worker next := by
  intro hcap
  have hsnapshot := snapshotStep hstep worker
  generalize next.snapshots worker = new at hcap hsnapshot ⊢
  cases hsnapshot with
  | same => exact h hcap
  | scrapeOk values =>
      have hthen : values.rampNow ≤ values.rampThen := by
        simpa [GateLabel.readings] using hclock
      cases rampMove_scraped settings (registry.snapshots worker) values with
      | kept hkept hstage hnext =>
          rw [hstage, hnext]
          exact h (hkept ▸ hcap)
      | held hcapped hdue hkept hstage hnext =>
          have hpaced := h hcapped
          rw [hstage, hnext]
          linarith
      | raised hcapped hdue hwaiting hfree hraised hstage hnext =>
          have hpaced := h hcapped
          have hgrowth := hsucc (registry.snapshots worker).rampStage
          rw [hstage, hnext]
          linarith
  | scrapeFailed => exact absurd rampCap_scrapeFailed hcap
  | markCold => exact absurd (rampCap_markCold (hinv.ramping worker)) hcap
  | warmed task post warmedAt rampNow hwarms =>
      cases rampStart_warmed settings (registry.snapshots worker) warmedAt rampNow with
      | kept hidle hkept hstage hnext =>
          rw [hstage, hnext]
          exact h (hkept ▸ hcap)
      | started cap hstarted hsteps hreturned hstage hnext =>
          have hnow : since ≤ rampNow := hsince rampNow (by simp [GateLabel.readings])
          rw [hstage, hnext]
          linarith

omit [DecidableEq Worker] in
theorem OrderedReadings.cons {labels : List (GateLabel Worker)}
    (h : OrderedReadings (label :: labels)) :
    label.readings.Pairwise (· ≤ ·) ∧ OrderedReadings labels ∧
      ∀ earlier ∈ label.readings, ∀ other ∈ labels, ∀ later ∈ other.readings, earlier ≤ later := by
  rw [OrderedReadings, List.flatMap_cons, List.pairwise_append] at h
  obtain ⟨hhead, htail, hacross⟩ := h
  refine ⟨hhead, htail, fun earlier hearlier other hother later hlater => ?_⟩
  exact hacross earlier hearlier later (List.mem_flatMap.mpr ⟨other, hother, hlater⟩)

omit [DecidableEq Worker] in
theorem OrderedReadings.of_append {before after : List (GateLabel Worker)}
    (h : OrderedReadings (before ++ after)) : OrderedReadings after := by
  rw [OrderedReadings, List.flatMap_append, List.pairwise_append] at h
  exact h.2.1

theorem Paced.run {since : ℚ} {pace : Nat → ℚ} (hzero : pace 0 ≤ settings.rampStepS)
    (hsucc : ∀ stage, pace (stage + 1) ≤ pace stage + settings.rampStepS)
    (hstepS : 0 ≤ settings.rampStepS)
    {labels : List (GateLabel Worker)} (hclock : OrderedReadings labels)
    (hsince : ∀ label ∈ labels, ∀ reading ∈ label.readings, since ≤ reading)
    (h : Paced since pace worker registry) (hinv : RampInv settings registry)
    (hrun : (warmGate settings).run registry labels = some next) :
    Paced since pace worker next := by
  induction labels generalizing registry with
  | nil =>
      obtain rfl : registry = next := Option.some.inj hrun
      exact h
  | cons label labels ih =>
      obtain ⟨mid, hstep, hrest⟩ := Machine.run_cons_eq_some_iff.mp hrun
      obtain ⟨hhead, htail, -⟩ := hclock.cons
      have hmid : Paced since pace worker mid :=
        h.step hzero hsucc hstepS hinv (hsince label List.mem_cons_self) hhead hstep
      exact ih htail (fun other hother => hsince other (List.mem_cons_of_mem _ hother)) hmid
        (hinv.step hstep) hrest

end Pacing

section Runs

variable {Worker : Type} [DecidableEq Worker] {settings : GateSettings}
  {registry next : WarmRegistry Worker} {before middle : List (GateLabel Worker)}
  {label : GateLabel Worker} {worker : Worker}

structure StepAfter (settings : GateSettings) (before : List (GateLabel Worker))
    (label : GateLabel Worker) (registry next : WarmRegistry Worker) : Prop where
  run : (warmGate settings).run WarmRegistry.start before = some registry
  step : (warmGate settings).step registry label = some next

theorem StepAfter.inv (h : StepAfter settings before label registry next) :
    RampInv settings registry :=
  Machine.run_invariant (fun _ _ _ hinv hstep => hinv.step hstep) (RampInv.start settings) h.run

theorem StepAfter.rest (h : StepAfter settings before label registry next)
    {final : WarmRegistry Worker}
    (hrun : (warmGate settings).run WarmRegistry.start (before ++ label :: middle) = some final) :
    (warmGate settings).run next middle = some final := by
  obtain ⟨mid, hbefore, hrest⟩ := Machine.run_append_eq_some_iff.mp hrun
  obtain rfl : registry = mid := Option.some.inj (h.run.symm.trans hbefore)
  obtain ⟨other, hstep, hmiddle⟩ := Machine.run_cons_eq_some_iff.mp hrest
  obtain rfl : next = other := Option.some.inj (h.step.symm.trans hstep)
  exact hmiddle

def Rises (settings : GateSettings) (before : List (GateLabel Worker)) (worker : Worker)
    (values : ScrapeValues) : Prop :=
  ∃ registry next, StepAfter settings before (.scrapeOk worker values) registry next ∧
    (registry.snapshots worker).rampStage < (next.snapshots worker).rampStage

def Rewarms (settings : GateSettings) (before : List (GateLabel Worker)) (worker : Worker)
    (task : Nat) (post : PostResult) (warmedAt rampNow : ℚ) : Prop :=
  ∃ registry next, StepAfter settings before (.probeEnds task post warmedAt rampNow) registry next ∧
    Warms settings registry worker task post

theorem snapshots_of_warms {task : Nat} {post : PostResult} {warmedAt rampNow : ℚ}
    (hstep : (warmGate settings).step registry (.probeEnds task post warmedAt rampNow) = some next)
    (hwarms : Warms settings registry worker task post) :
    next.snapshots worker = (registry.snapshots worker).warmed settings warmedAt rampNow := by
  obtain ⟨epoch, htask, hok⟩ := hwarms.posted
  simp only [warmGate, htask, hok, if_true, Option.some_inj] at hstep
  rw [← hstep]
  exact Function.update_self _ _ _

theorem rampStage_markCold (settings : GateSettings) (snap : GateSnapshot) :
    (snap.markCold settings).rampStage = snap.rampStage := by
  simp only [GateSnapshot.markCold]
  split_ifs <;> rfl

theorem rampStage_scrapeFailed (settings : GateSettings) (snap : GateSnapshot) :
    (snap.scrapeFailed settings).rampStage = snap.rampStage := by
  simp only [GateSnapshot.scrapeFailed]
  split_ifs <;> rfl

theorem raised_of_rise (hstep : (warmGate settings).step registry label = some next)
    (hrise : (registry.snapshots worker).rampStage < (next.snapshots worker).rampStage) :
    ∃ values, label = .scrapeOk worker values ∧ (registry.snapshots worker).rampCap ≠ none ∧
      (registry.snapshots worker).rampNextAt ≤ values.rampNow ∧
      (next.snapshots worker).rampStage = (registry.snapshots worker).rampStage + 1 ∧
      (next.snapshots worker).waiting ≤ 0 ∧ settings.rampMinKvFree ≤
      (next.snapshots worker).kvFreeRatio ∧
      (next.snapshots worker).rampNextAt = values.rampThen + settings.rampStepS := by
  have hsnapshot := snapshotStep hstep worker
  generalize next.snapshots worker = new at hrise hsnapshot ⊢
  cases hsnapshot with
  | same => exact absurd hrise (Nat.lt_irrefl _)
  | scrapeOk values =>
      cases rampMove_scraped settings (registry.snapshots worker) values with
      | kept hcap hstage hnext => exact absurd hrise (hstage ▸ Nat.lt_irrefl _)
      | held hcapped hdue hcap hstage hnext => exact absurd hrise (hstage ▸ Nat.lt_irrefl _)
      | raised hcapped hdue hwaiting hfree hcap hstage hnext =>
          exact ⟨values, rfl, hcapped, hdue, hstage, hwaiting, hfree, hnext⟩
  | scrapeFailed => exact absurd hrise (rampStage_scrapeFailed settings _ ▸ Nat.lt_irrefl _)
  | markCold => exact absurd hrise (rampStage_markCold settings _ ▸ Nat.lt_irrefl _)
  | warmed task post warmedAt rampNow hwarms =>
      cases rampStart_warmed settings (registry.snapshots worker) warmedAt rampNow with
      | kept hidle hcap hstage hnext => exact absurd hrise (hstage ▸ Nat.lt_irrefl _)
      | started cap hcap hsteps hreturned hstage hnext =>
        exact absurd hrise (hstage ▸ Nat.not_lt_zero _)

theorem last_of_lift (hinv : RampInv settings registry)
    (hstep : (warmGate settings).step registry label = some next)
    (hcapped : (registry.snapshots worker).rampCap ≠ none)
    (hlifted : (next.snapshots worker).rampCap = none)
    (hwarm : (next.snapshots worker).warm = true) :
    ∃ values, label = .scrapeOk worker values ∧ (registry.snapshots worker).rampNextAt ≤
      values.rampNow ∧ (registry.snapshots worker).rampStage + 1 = settings.rampSteps.length := by
  have hramping := hinv.ramping worker hcapped
  have hsnapshot := snapshotStep hstep worker
  generalize next.snapshots worker = new at hlifted hwarm hsnapshot
  cases hsnapshot with
  | same => exact absurd hlifted hcapped
  | scrapeOk values =>
      cases rampMove_scraped settings (registry.snapshots worker) values with
      | kept hcap hstage hnext => exact absurd (hcap.symm.trans hlifted) hcapped
      | held hcapped hdue hcap hstage hnext => exact absurd (hcap.symm.trans hlifted) hcapped
      | raised hcapped hdue hwaiting hfree hcap hstage hnext =>
          have hlast : settings.rampSteps.length ≤ (registry.snapshots worker).rampStage + 1 :=
            List.getElem?_eq_none_iff.mp (hcap.symm.trans hlifted)
          exact ⟨values, rfl, hdue, Nat.le_antisymm hramping.stage hlast⟩
  | scrapeFailed =>
      obtain ⟨-, -, hcold⟩ :=
        scrapeFailed_fields settings (registry.snapshots worker) hramping.gated
      rw [hcold] at hwarm
      cases hwarm
  | markCold =>
      obtain ⟨-, -, hcold⟩ := markCold_fields settings (registry.snapshots worker) hramping.gated
      rw [hcold] at hwarm
      cases hwarm
  | warmed task post warmedAt rampNow hwarms =>
      cases rampStart_warmed settings (registry.snapshots worker) warmedAt rampNow with
      | kept hidle hcap hstage hnext => exact absurd (hcap.symm.trans hlifted) hcapped
      | started cap hcap hsteps hreturned hstage hnext =>
        exact absurd (hcap.symm.trans hlifted) (by simp)

theorem StepAfter.paced {since : ℚ} {pace : Nat → ℚ}
    (h : StepAfter settings before label registry next) (hzero : pace 0 ≤ settings.rampStepS)
    (hsucc : ∀ stage, pace (stage + 1) ≤ pace stage + settings.rampStepS)
    (hstepS : 0 ≤ settings.rampStepS) (hreading : since ∈ label.readings) {last : GateLabel Worker}
    (hclock : OrderedReadings (before ++ label :: (middle ++ [last])))
    (hnext : Paced since pace worker next)
    {final : WarmRegistry Worker}
    (hrun : (warmGate settings).run WarmRegistry.start (before ++ label :: middle) = some final) :
    Paced since pace worker final := by
  obtain ⟨-, hmiddle, hlater⟩ := hclock.of_append.cons
  rw [OrderedReadings, List.flatMap_append, List.pairwise_append] at hmiddle
  refine Paced.run hzero hsucc hstepS hmiddle.1 (fun other hother => ?_) hnext (h.inv.step h.step)
    (h.rest hrun)
  exact hlater since hreading other (List.mem_append_left _ hother)

theorem rises_apart (hstepS : 0 ≤ settings.rampStepS) {values values' : ScrapeValues}
    (hclock :
      OrderedReadings (before ++ .scrapeOk worker values :: (middle ++ [.scrapeOk worker values'])))
    (hfirst : Rises settings before worker values)
    (hsecond : Rises settings (before ++ .scrapeOk worker values :: middle) worker values') :
    values.rampNow + settings.rampStepS ≤ values'.rampNow := by
  obtain ⟨registry, next, hstep, hrise⟩ := hfirst
  obtain ⟨mid, final, hlater, hagain⟩ := hsecond
  have hnext : Paced values.rampNow (fun _ => settings.rampStepS) worker next := by
    intro _
    obtain ⟨scrape, hlabel, -, -, -, -, -, hdue⟩ := raised_of_rise hstep.step hrise
    injection hlabel with _ hvalues
    have hthen : values.rampNow ≤ values.rampThen := by
      simpa [GateLabel.readings] using hclock.of_append.cons.1
    rw [hdue, ← hvalues]
    linarith
  have hpaced : Paced values.rampNow (fun _ => settings.rampStepS) worker mid :=
    hstep.paced le_rfl (fun _ => by linarith) hstepS (by simp [GateLabel.readings]) hclock hnext
      hlater.run
  obtain ⟨scrape, hlabel, hcapped, hdue, -⟩ := raised_of_rise hlater.step hagain
  injection hlabel with _ hvalues
  calc
    values.rampNow + settings.rampStepS ≤ (mid.snapshots worker).rampNextAt := hpaced hcapped
    _ ≤ values'.rampNow := by
      rw [hvalues]
      exact hdue

def Lifts (settings : GateSettings) (before : List (GateLabel Worker)) (worker : Worker)
    (label : GateLabel Worker) : Prop :=
  ∃ registry next, StepAfter settings before label registry next ∧
    (registry.snapshots worker).rampCap ≠ none ∧
    (next.snapshots worker).rampCap = none ∧ (next.snapshots worker).warm = true

theorem lift_apart (hstepS : 0 ≤ settings.rampStepS) {task : Nat} {post : PostResult}
    {warmedAt rampNow : ℚ} {values : ScrapeValues}
    (hclock : OrderedReadings
      (before ++ .probeEnds task post warmedAt rampNow :: (middle ++ [.scrapeOk worker values])))
    (hback : Rewarms settings before worker task post warmedAt rampNow)
    (hlift : Lifts settings (before ++ .probeEnds task post warmedAt rampNow :: middle) worker
      (.scrapeOk worker values)) :
    rampNow + settings.rampSteps.length * settings.rampStepS ≤ values.rampNow := by
  obtain ⟨registry, next, hstep, hwarms⟩ := hback
  obtain ⟨mid, final, hlater, hcapped, hlifted, hwarm⟩ := hlift
  have hnext : Paced rampNow (fun stage => (stage + 1) * settings.rampStepS) worker next := by
    intro hcap
    have hramping := (hstep.inv.step hstep.step).ramping worker hcap
    have hsnapshot := snapshots_of_warms hstep.step hwarms
    cases rampStart_warmed settings (registry.snapshots worker) warmedAt rampNow with
    | kept hidle hkept hstage hdue =>
        rw [← hsnapshot] at hidle
        rcases hidle with hsteps | hfirst
        · have hstage := hramping.stage
          rw [hsteps] at hstage
          exact absurd hstage (Nat.not_lt_zero _)
        · exact absurd hramping.returned (Nat.not_lt.mpr hfirst)
    | started cap hcap hsteps hreturned hstage hdue =>
        rw [hsnapshot, hstage, hdue]
        push_cast
        linarith
  have hpaced : Paced rampNow (fun stage => (stage + 1) * settings.rampStepS) worker mid := by
    refine hstep.paced ?_ (fun stage => ?_) hstepS (by simp [GateLabel.readings]) hclock hnext
      hlater.run
    · push_cast
      linarith
    · push_cast
      linarith
  obtain ⟨scrape, hlabel, hdue, hlast⟩ := last_of_lift hlater.inv hlater.step hcapped hlifted hwarm
  injection hlabel with _ hvalues
  have hlength : (settings.rampSteps.length : ℚ) = (mid.snapshots worker).rampStage + 1 := by
    rw [← hlast]
    push_cast
    rfl
  calc
    rampNow + settings.rampSteps.length * settings.rampStepS =
        rampNow + ((mid.snapshots worker).rampStage + 1) * settings.rampStepS := by rw [hlength]
    _ ≤ (mid.snapshots worker).rampNextAt := hpaced hcapped
    _ ≤ values.rampNow := by
      rw [hvalues]
      exact hdue

structure RampStep (settings : GateSettings) (before : List (GateLabel Worker))
    (label : GateLabel Worker) (registry next : WarmRegistry Worker) (worker : Worker) : Prop where
  /-- The stage rises by one, on a scrape that finds no pressure, an interval after any rise before
  it. -/
  raised : (registry.snapshots worker).rampStage < (next.snapshots worker).rampStage →
    (next.snapshots worker).rampStage = (registry.snapshots worker).rampStage + 1 ∧
      (next.snapshots worker).waiting ≤ 0 ∧
      (0 ≤ (next.snapshots worker).waiting → (next.snapshots worker).waiting = 0) ∧
      settings.rampMinKvFree ≤ (next.snapshots worker).kvFreeRatio ∧
      ∃ values, label = .scrapeOk worker values ∧
        ∀ earlier values' middle, before = earlier ++ .scrapeOk worker values' :: middle →
          Rises settings earlier worker values' → values'.rampNow + settings.rampStepS ≤
            values.rampNow
  /-- A worker that stays warm loses its cap on a scrape, an interval for each step after it came
  back. -/
  lifted : (registry.snapshots worker).rampCap ≠ none → (next.snapshots worker).rampCap = none →
    (next.snapshots worker).warm = true →
    ∃ values, label = .scrapeOk worker values ∧
      ∀ earlier task post warmedAt rampNow middle,
        before = earlier ++ .probeEnds task post warmedAt rampNow :: middle →
        Rewarms settings earlier worker task post warmedAt rampNow →
        rampNow + settings.rampSteps.length * settings.rampStepS ≤ values.rampNow
  /-- A failed scrape or `mark_cold` takes the cap away. -/
  cleared : label = .scrapeFailed worker ∨ label = .scrapeRaised worker ∨ label = .markCold worker →
    (next.snapshots worker).rampCap = none

/-- A scrape of the worker raises at most where no cap stands. -/
def RaisesUncapped (worker : Worker) (registry : WarmRegistry Worker) (label : GateLabel Worker) :
    Prop :=
  label = .scrapeRaised worker → (registry.snapshots worker).rampCap = none

theorem snapshots_scrapeRaised
    (hstep : (warmGate settings).step registry (.scrapeRaised worker) = some next) :
    next.snapshots = registry.snapshots := by
  obtain rfl := Option.some.inj hstep
  rfl

theorem StepAfter.cleared (h : StepAfter settings before label registry next) (worker : Worker)
    (hraised : RaisesUncapped worker registry label)
    (hfault : label = .scrapeFailed worker ∨ label = .scrapeRaised worker ∨
      label = .markCold worker) :
    (next.snapshots worker).rampCap = none := by
  have hstep := h.step
  rcases hfault with rfl | rfl | rfl
  · obtain rfl := Option.some.inj hstep
    simp [WarmRegistry.setSnapshot, WarmRegistry.record]
  · rw [snapshots_scrapeRaised hstep]
    exact hraised rfl
  · obtain rfl := Option.some.inj hstep
    simp only [WarmRegistry.setSnapshot, WarmRegistry.record, Function.update_self]
    exact rampCap_markCold (h.inv.ramping worker)

theorem StepAfter.rampStep (hstepS : 0 ≤ settings.rampStepS)
    (hclock : OrderedReadings (before ++ [label]))
    (h : StepAfter settings before label registry next) (worker : Worker)
    (hraised : RaisesUncapped worker registry label) :
    RampStep settings before label registry next worker := by
  refine ⟨fun hrise => ?_, fun hcapped hlifted hwarm => ?_, h.cleared worker hraised⟩
  · obtain ⟨values, hlabel, -, -, hstage, hwaiting, hfree, -⟩ := raised_of_rise h.step hrise
    refine ⟨hstage, hwaiting, fun hcount => le_antisymm hwaiting hcount, hfree, values, hlabel, ?_⟩
    rintro earlier values' middle rfl hfirst
    rw [hlabel, List.append_assoc, List.cons_append] at hclock
    exact rises_apart hstepS hclock hfirst ⟨registry, next, hlabel ▸ h, hrise⟩
  · obtain ⟨values, hlabel, -⟩ := last_of_lift h.inv h.step hcapped hlifted hwarm
    refine ⟨values, hlabel, ?_⟩
    rintro earlier task post warmedAt rampNow middle rfl hback
    rw [hlabel, List.append_assoc, List.cons_append] at hclock
    exact lift_apart hstepS hclock hback ⟨registry, next, hlabel ▸ h, hcapped, hlifted, hwarm⟩

/-- Whatever the order of scrapes, probes and faults: a capped worker is a warm one that came back,
at the cap of its stage, and every step that was taken moved its ramp as it should, exactly if no
scrape of the worker has raised under a cap. -/
theorem ramp_paced_iff (settings : GateSettings) (hstepS : 0 ≤ settings.rampStepS)
    (labels : List (GateLabel Worker)) (hclock : OrderedReadings labels)
    (registry : WarmRegistry Worker)
    (hrun : (warmGate settings).run WarmRegistry.start labels = some registry) (worker : Worker) :
    (((registry.snapshots worker).rampCap ≠ none → Ramping settings (registry.snapshots worker)) ∧
        ∀ before label after, labels = before ++ label :: after →
          ∃ earlier later, StepAfter settings before label earlier later ∧
            RampStep settings before label earlier later worker) ↔
      (warmGate settings).Meets (RaisesUncapped worker) WarmRegistry.start labels := by
  rw [Machine.meets_iff_forall_split]
  constructor
  · rintro ⟨-, hsteps⟩ before label after mid hsplit hbefore rfl
    obtain ⟨earlier, later, hafter, hramp⟩ := hsteps before _ after hsplit
    obtain rfl : earlier = mid := Option.some.inj (hafter.run.symm.trans hbefore)
    rw [← snapshots_scrapeRaised hafter.step]
    exact hramp.cleared (.inr (.inl rfl))
  intro hraised
  have hinv : RampInv settings registry :=
    Machine.run_invariant (fun _ _ _ hinv hstep => hinv.step hstep) (RampInv.start settings) hrun
  refine ⟨hinv.ramping worker, ?_⟩
  rintro before label after rfl
  obtain ⟨earlier, hbefore, hrest⟩ := Machine.run_append_eq_some_iff.mp hrun
  obtain ⟨later, hstep, -⟩ := Machine.run_cons_eq_some_iff.mp hrest
  have hafter : StepAfter settings before label earlier later := ⟨hbefore, hstep⟩
  have hbeforeClock : OrderedReadings (before ++ [label]) := by
    rw [OrderedReadings, ← List.singleton_append, ← List.append_assoc, List.flatMap_append,
      List.pairwise_append] at hclock
    exact hclock.1
  refine ⟨earlier, later, hafter, hafter.rampStep hstepS hbeforeClock worker ?_⟩
  exact hraised before label after earlier rfl hbefore

def returnSettings : GateSettings := ⟨true, 1, [2, 4], 30, 1 / 5⟩

def calmScrape (now : ℚ) : ScrapeValues := ⟨0, 0, 0, now, now, now, now⟩

def returnRun : List (GateLabel Unit) :=
  [.scrapeOk () (calmScrape 0), .probeBegins 0, .probeEnds 0 .ok 0 0, .scrapeFailed (),
    .scrapeOk () (calmScrape 5), .probeBegins 1, .probeEnds 1 .ok 10 10]

theorem ramp_paced_example :
    ∃ registry, (warmGate returnSettings).run WarmRegistry.start
        (returnRun ++ [.scrapeOk () (calmScrape 40)]) = some registry ∧
      (registry.snapshots ()).rampCap = some 4 ∧ Ramping returnSettings (registry.snapshots ()) ∧
      ∃ earlier later,
        StepAfter returnSettings returnRun (.scrapeOk () (calmScrape 40)) earlier later ∧
          RampStep returnSettings returnRun (.scrapeOk () (calmScrape 40)) earlier later () := by
  have hsome : ((warmGate returnSettings).run WarmRegistry.start
      (returnRun ++ [.scrapeOk () (calmScrape 40)])).isSome = true := by decide +kernel
  obtain ⟨registry, hrun⟩ := Option.isSome_iff_exists.mp hsome
  have hcap : ((warmGate returnSettings).run WarmRegistry.start
      (returnRun ++ [.scrapeOk () (calmScrape 40)])).map
        (fun final => (final.snapshots ()).rampCap) = some (some 4) := by decide +kernel
  rw [hrun, Option.map_some, Option.some_inj] at hcap
  have hclock : OrderedReadings (returnRun ++ [.scrapeOk () (calmScrape 40)]) := by
    unfold OrderedReadings
    decide +kernel
  have hstepS : 0 ≤ returnSettings.rampStepS := by decide +kernel
  have hraised : (warmGate returnSettings).Meets (RaisesUncapped ()) WarmRegistry.start
      (returnRun ++ [.scrapeOk () (calmScrape 40)]) := by
    refine Machine.meets_of_forall_mem fun label hlabel _ heq => ?_
    simp [heq, returnRun] at hlabel
  obtain ⟨hramping, hsteps⟩ :=
    (ramp_paced_iff returnSettings hstepS _ hclock registry hrun ()).mpr hraised
  refine ⟨registry, hrun, hcap, hramping ?_, hsteps returnRun _ [] rfl⟩
  rw [hcap]
  exact Option.some_ne_none _

/-- A scrape that raises leaves the cap of the worker that came back. -/
theorem raised_scrape_keeps_cap :
    ∃ earlier later, StepAfter returnSettings returnRun (.scrapeRaised ()) earlier later ∧
      (later.snapshots ()).rampCap = some 2 ∧
      ¬ RampStep returnSettings returnRun (.scrapeRaised ()) earlier later () := by
  have hrun : ((warmGate returnSettings).run WarmRegistry.start returnRun).map
      (fun registry => (registry.snapshots ()).rampCap) = some (some 2) := by decide +kernel
  obtain ⟨earlier, hearlier, hcap⟩ := Option.map_eq_some_iff.mp hrun
  refine ⟨earlier, _, ⟨hearlier, rfl⟩, hcap, fun hramp => ?_⟩
  have hcleared : (earlier.snapshots ()).rampCap = none := hramp.cleared (.inr (.inl rfl))
  rw [hcap] at hcleared
  cases hcleared

end Runs

end AiAnalytics.Gateway
