import AiAnalytics.Gateway.WarmGate
import Mathlib.Data.List.DropRight
import Mathlib.Tactic.Common

/-!
# A warm worker has qualified since its last fault

The streak of a snapshot counts the successful scrapes since the worker's last fault and the epoch
counts its faults. A probe that finds the epoch it began in unchanged has therefore begun after the
last fault. -/

namespace AiAnalytics.Gateway

open Lib

section Snapshots

variable (settings : GateSettings) (snap : GateSnapshot)

theorem advanceRamp_fields (now then_ : ℚ) :
    (snap.advanceRamp settings now then_).healthyStreak = snap.healthyStreak ∧
      (snap.advanceRamp settings now then_).healthEpoch = snap.healthEpoch ∧
      (snap.advanceRamp settings now then_).warm = snap.warm := by
  simp only [GateSnapshot.advanceRamp]
  split_ifs <;> exact ⟨rfl, rfl, rfl⟩

theorem warmed_fields (warmedAt rampNow : ℚ) :
    (snap.warmed settings warmedAt rampNow).healthyStreak = snap.healthyStreak ∧
      (snap.warmed settings warmedAt rampNow).healthEpoch = snap.healthEpoch := by
  simp only [GateSnapshot.warmed, GateSnapshot.startRamp]
  split
  · exact ⟨rfl, rfl⟩
  · split_ifs <;> exact ⟨rfl, rfl⟩

theorem scraped_fields (hrequire : settings.requireWarm = true) (values : ScrapeValues) :
    (snap.scraped settings values).healthyStreak = snap.healthyStreak + 1 ∧
      (snap.scraped settings values).healthEpoch = snap.healthEpoch ∧
      (snap.scraped settings values).warm = snap.warm := by
  simp only [GateSnapshot.scraped, hrequire, not_true_eq_false, false_and, if_false]
  exact advanceRamp_fields settings _ _ _

theorem scrapeFailed_fields (hrequire : settings.requireWarm = true) :
    (snap.scrapeFailed settings).healthyStreak = 0 ∧
      (snap.scrapeFailed settings).healthEpoch = snap.healthEpoch + 1 ∧
      (snap.scrapeFailed settings).warm = false := by
  cases hwarm : snap.warm <;> simp [GateSnapshot.scrapeFailed, hrequire, hwarm]

theorem markCold_fields (hrequire : settings.requireWarm = true) :
    (snap.markCold settings).healthyStreak = 0 ∧ (snap.markCold settings).healthEpoch =
      snap.healthEpoch + 1 ∧ (snap.markCold settings).warm = false := by
  cases hwarm : snap.warm <;> simp [GateSnapshot.markCold, hrequire, hwarm]

end Snapshots

section Faults

variable {Worker : Type} [DecidableEq Worker] {worker : Worker} {log : List (GateEntry Worker)}
  {entry : GateEntry Worker}

def GateEntry.isFault (worker : Worker) : GateEntry Worker → Bool
  | .scraped worker' succeeded => worker' = worker && !succeeded
  | .markedCold worker' => worker' = worker
  | _ => false

def GateEntry.isSuccess (worker : Worker) : GateEntry Worker → Bool
  | .scraped worker' succeeded => worker' = worker && succeeded
  | _ => false

def sinceFault (worker : Worker) (log : List (GateEntry Worker)) : List (GateEntry Worker) :=
  log.rtakeWhile fun entry => !entry.isFault worker

theorem sinceFault_fault (h : entry.isFault worker = true) (log : List (GateEntry Worker)) :
    sinceFault worker (log ++ [entry]) = [] := by
  rw [sinceFault, List.rtakeWhile_concat_neg]
  simp [h]

theorem sinceFault_snoc (h : entry.isFault worker = false) (log : List (GateEntry Worker)) :
    sinceFault worker (log ++ [entry]) = sinceFault worker log ++ [entry] := by
  rw [sinceFault, List.rtakeWhile_concat_pos]
  · rfl
  · simp [h]

theorem sinceFault_append {after : List (GateEntry Worker)}
    (h : after.countP (GateEntry.isFault worker) = 0) (before : List (GateEntry Worker)) :
    sinceFault worker (before ++ after) = sinceFault worker before ++ after := by
  induction after using List.reverseRecOn with
  | nil => simp
  | append_singleton after entry ih =>
      rw [List.countP_append, Nat.add_eq_zero_iff] at h
      have hentry : entry.isFault worker = false := by simpa using h.2
      rw [← List.append_assoc, sinceFault_snoc hentry, ih h.1, List.append_assoc]

/-- Since its last fault the worker has had enough successful scrapes, and a probe that began after
the fault and succeeded. -/
def Qualified (settings : GateSettings) (worker : Worker) (log : List (GateEntry Worker)) : Prop :=
  settings.minScrapes ≤ (sinceFault worker log).countP (GateEntry.isSuccess worker) ∧
    ∃ task before middle after,
      sinceFault worker log =
        before ++ .probeBegan task worker :: middle ++ .probeEnded task worker .ok :: after

theorem Qualified.snoc {settings : GateSettings} (h : Qualified settings worker log)
    (hentry : entry.isFault worker = false) : Qualified settings worker (log ++ [entry]) := by
  obtain ⟨hscrapes, task, before, middle, after, hsince⟩ := h
  rw [Qualified, sinceFault_snoc hentry]
  refine ⟨?_, task, before, middle, after ++ [entry], by simp [hsince]⟩
  rw [List.countP_append]
  omega

end Faults

section Invariant

variable {Worker : Type} [DecidableEq Worker]

structure Counted (clean : Worker → Prop) (settings : GateSettings)
    (snapshots : Worker → GateSnapshot) (log : List (GateEntry Worker)) : Prop where
  streak : ∀ worker, clean worker →
    (snapshots worker).healthyStreak = (sinceFault worker log).countP (GateEntry.isSuccess worker)
  epoch : ∀ worker, clean worker → (snapshots worker).healthEpoch = log.countP
    (GateEntry.isFault worker)
  warm : ∀ worker, clean worker → (snapshots worker).warm = true → Qualified settings worker log

structure Tracked (clean : Worker → Prop) (registry : WarmRegistry Worker) : Prop where
  posted : ∀ task worker epoch, clean worker → registry.tasks task = some ⟨worker, .posted epoch⟩ →
    ∃ before after, registry.log = before ++ .probeBegan task worker :: after ∧
      epoch = before.countP (GateEntry.isFault worker)
  inFlight : ∀ task probe, registry.tasks task = some probe → probe.stage ≠ .done →
    registry.probes probe.worker = some task
  fresh : ∀ task, registry.created ≤ task → registry.tasks task = none

variable {clean : Worker → Prop} {settings : GateSettings} {snapshots : Worker → GateSnapshot}
  {log : List (GateEntry Worker)} {registry next : WarmRegistry Worker} {label : GateLabel Worker}

theorem Counted.snoc (h : Counted clean settings snapshots log) {entry : GateEntry Worker}
    {worker : Worker} {snap : GateSnapshot}
    (hother : ∀ other, other ≠ worker →
      entry.isFault other = false ∧ entry.isSuccess other = false)
    (hstreak : clean worker → snap.healthyStreak =
      (sinceFault worker (log ++ [entry])).countP (GateEntry.isSuccess worker))
    (hepoch : clean worker →
      snap.healthEpoch = (log ++ [entry]).countP (GateEntry.isFault worker))
    (hwarm : clean worker → snap.warm = true → Qualified settings worker (log ++ [entry])) :
    Counted clean settings (Function.update snapshots worker snap) (log ++ [entry]) := by
  refine ⟨fun other hclean => ?_, fun other hclean => ?_, fun other hclean hsnap => ?_⟩
  · by_cases heq : other = worker
    · subst heq
      rw [Function.update_self, hstreak hclean]
    · obtain ⟨hfault, hsuccess⟩ := hother other heq
      rw [Function.update_of_ne heq, sinceFault_snoc hfault, List.countP_append,
        h.streak other hclean]
      simp [hsuccess]
  · by_cases heq : other = worker
    · subst heq
      rw [Function.update_self, hepoch hclean]
    · obtain ⟨hfault, -⟩ := hother other heq
      rw [Function.update_of_ne heq, List.countP_append, h.epoch other hclean]
      simp [hfault]
  · by_cases heq : other = worker
    · subst heq
      rw [Function.update_self] at hsnap
      exact hwarm hclean hsnap
    · rw [Function.update_of_ne heq] at hsnap
      exact (h.warm other hclean hsnap).snoc (hother other heq).1

theorem Counted.scrapeOk (h : Counted clean settings snapshots log)
    (hrequire : settings.requireWarm = true) (worker : Worker) (values : ScrapeValues) :
    Counted clean settings
      (Function.update snapshots worker ((snapshots worker).scraped settings values))
      (log ++ [.scraped worker true]) := by
  obtain ⟨hstreak, hepoch, hwarm⟩ := scraped_fields settings (snapshots worker) hrequire values
  have hfault : (GateEntry.scraped worker true).isFault worker = false := by
    simp [GateEntry.isFault]
  refine h.snoc (fun other hother => ?_) (fun hclean => ?_) (fun hclean => ?_) fun hclean hsnap =>
    ?_
  · simp [GateEntry.isFault, GateEntry.isSuccess, hother.symm]
  · rw [hstreak, sinceFault_snoc hfault, List.countP_append, h.streak worker hclean]
    simp [GateEntry.isSuccess]
  · rw [hepoch, List.countP_append, h.epoch worker hclean]
    simp [GateEntry.isFault]
  · exact (h.warm worker hclean (hwarm ▸ hsnap)).snoc hfault

theorem Counted.raised (h : Counted clean settings snapshots log) {worker : Worker}
    (hworker : ¬ clean worker) :
    Counted clean settings snapshots (log ++ [.scraped worker false]) := by
  have hother (hclean : clean worker) : False := hworker hclean
  rw [← Function.update_eq_self worker snapshots]
  refine h.snoc (fun other hne => ?_) (fun hclean => (hother hclean).elim)
    (fun hclean => (hother hclean).elim) fun hclean => (hother hclean).elim
  simp [GateEntry.isFault, GateEntry.isSuccess, hne.symm]

theorem Counted.fault (h : Counted clean settings snapshots log) {entry : GateEntry Worker}
    {worker : Worker} {snap : GateSnapshot} (hfault : entry.isFault worker = true)
    (hother : ∀ other, other ≠ worker → entry.isFault other = false ∧ entry.isSuccess other = false)
    (hfields : snap.healthyStreak = 0 ∧ snap.healthEpoch = (snapshots worker).healthEpoch + 1 ∧
      snap.warm = false) :
    Counted clean settings (Function.update snapshots worker snap) (log ++ [entry]) := by
  obtain ⟨hstreak, hepoch, hcold⟩ := hfields
  refine h.snoc hother (fun _ => ?_) (fun hclean => ?_) fun _ hwarm => ?_
  · rw [hstreak, sinceFault_fault hfault]
    rfl
  · rw [hepoch, List.countP_append, h.epoch worker hclean]
    simp [hfault]
  · rw [hcold] at hwarm
    cases hwarm

theorem Counted.probe (h : Counted clean settings snapshots log) {entry : GateEntry Worker}
    (hentry : ∀ worker, entry.isFault worker = false ∧ entry.isSuccess worker = false) :
    Counted clean settings snapshots (log ++ [entry]) := by
  refine ⟨fun worker hclean => ?_, fun worker hclean => ?_, fun worker hclean hwarm => ?_⟩
  · rw [sinceFault_snoc (hentry worker).1, List.countP_append, h.streak worker hclean]
    simp [(hentry worker).2]
  · rw [List.countP_append, h.epoch worker hclean]
    simp [(hentry worker).1]
  · exact (h.warm worker hclean hwarm).snoc (hentry worker).1

theorem qualified_of_probe {before after : List (GateEntry Worker)} {task : Nat} {worker : Worker}
    (hlog : log = before ++ .probeBegan task worker :: after)
    (hepoch : log.countP (GateEntry.isFault worker) = before.countP (GateEntry.isFault worker))
    (hscrapes : settings.minScrapes ≤ (sinceFault worker log).countP (GateEntry.isSuccess worker)) :
    Qualified settings worker (log ++ [.probeEnded task worker .ok]) := by
  have hquiet : (GateEntry.probeBegan task worker :: after).countP (GateEntry.isFault worker) =
      0 := by
    rw [hlog, List.countP_append] at hepoch
    omega
  have hsince : sinceFault worker log = sinceFault worker before ++ .probeBegan task
      worker :: after := by
    rw [hlog, sinceFault_append hquiet]
  have hended : (GateEntry.probeEnded task worker .ok).isFault worker = false := rfl
  rw [Qualified, sinceFault_snoc hended]
  refine ⟨?_, task, sinceFault worker before, after, [], by simp [hsince]⟩
  rw [List.countP_append]
  omega

theorem Tracked.record (h : Tracked clean registry) (entry : GateEntry Worker) :
    Tracked clean (registry.record entry) where
  posted task worker epoch hclean htask := by
    obtain ⟨before, after, hlog, hepoch⟩ := h.posted task worker epoch hclean htask
    exact ⟨before, after ++ [entry], by simp [WarmRegistry.record, hlog], hepoch⟩
  inFlight := h.inFlight
  fresh := h.fresh

theorem Tracked.setSnapshot (h : Tracked clean registry) (worker : Worker) (snap : GateSnapshot) :
    Tracked clean (registry.setSnapshot worker snap) :=
  ⟨h.posted, h.inFlight, h.fresh⟩

theorem probing_of_inFlight (h : Tracked clean registry) {task : Nat} {probe : ProbeTask Worker}
    (htask : registry.tasks task = some probe) (hstage : probe.stage ≠ .done) :
    registry.probing probe.worker = true := by
  simp [WarmRegistry.probing, h.inFlight task probe htask hstage, htask, hstage]

theorem Tracked.startProbe (h : Tracked clean registry) (worker : Worker) :
    Tracked clean (registry.startProbe worker) := by
  unfold WarmRegistry.startProbe
  split_ifs with hprobing
  · exact h
  have hnew : registry.tasks registry.created = none := h.fresh registry.created (Nat.le_refl _)
  refine ⟨fun task worker' epoch hclean htask => ?_, fun task probe htask hstage => ?_,
    fun task htask => ?_⟩
  · by_cases heq : task = registry.created
    · simp [heq] at htask
    · simp only [Function.update_of_ne heq] at htask
      exact h.posted task worker' epoch hclean htask
  · by_cases heq : task = registry.created
    · subst heq
      simp only [Function.update_self, Option.some_inj] at htask
      obtain rfl := htask
      exact Function.update_self _ _ _
    · simp only [Function.update_of_ne heq] at htask
      have hworker : probe.worker ≠ worker := by
        rintro rfl
        exact hprobing (probing_of_inFlight h htask hstage)
      simp only [Function.update_of_ne hworker]
      exact h.inFlight task probe htask hstage
  · have heq : task ≠ registry.created := by
      simp only at htask
      omega
    simp only [Function.update_of_ne heq]
    exact h.fresh task (by simp only at htask; omega)

theorem Tracked.setStage (h : Tracked clean registry) {task : Nat} {worker : Worker}
    {stage : ProbeStage} (htask : registry.tasks task = some ⟨worker, stage⟩)
    (hstage : stage ≠ .done) {new : ProbeStage}
    (hposted : ∀ epoch, clean worker → new = .posted epoch → ∃ before after,
      registry.log = before ++ .probeBegan task worker :: after ∧
        epoch = before.countP (GateEntry.isFault worker)) :
    Tracked clean (registry.setStage task worker new) := by
  refine ⟨fun other worker' epoch hclean hother => ?_, fun other probe hother hnew => ?_,
    fun other hother => ?_⟩
  · by_cases heq : other = task
    · subst heq
      simp only [WarmRegistry.setStage, Function.update_self, Option.some_inj,
        ProbeTask.mk.injEq] at hother
      obtain ⟨rfl, rfl⟩ := hother
      exact hposted epoch hclean rfl
    · simp only [WarmRegistry.setStage, Function.update_of_ne heq] at hother
      exact h.posted other worker' epoch hclean hother
  · by_cases heq : other = task
    · subst heq
      simp only [WarmRegistry.setStage, Function.update_self, Option.some_inj] at hother
      obtain rfl := hother
      exact h.inFlight other ⟨worker, stage⟩ htask hstage
    · simp only [WarmRegistry.setStage, Function.update_of_ne heq] at hother
      exact h.inFlight other probe hother hnew
  · have heq : other ≠ task := by
      rintro rfl
      rw [h.fresh other hother] at htask
      cases htask
    simp only [WarmRegistry.setStage, Function.update_of_ne heq]
    exact h.fresh other hother

theorem current_of_ok {snap : GateSnapshot} {epoch : Nat} {post : PostResult}
    (h : probeResult settings snap epoch post = .ok) :
    snap.healthEpoch = epoch ∧ settings.minScrapes ≤ snap.healthyStreak := by
  cases post with
  | ok =>
      simp only [probeResult] at h
      split_ifs at h with hstale
      simp only [not_or, not_not, Nat.not_lt] at hstale
      exact hstale.2
  | httpError => simp [probeResult] at h
  | crashed => simp [probeResult] at h

def GateInv (clean : Worker → Prop) (settings : GateSettings) (registry : WarmRegistry Worker) :
    Prop :=
  Counted clean settings registry.snapshots registry.log ∧ Tracked clean registry

theorem gateInv_start (clean : Worker → Prop) (settings : GateSettings) :
    GateInv clean settings (WarmRegistry.start : WarmRegistry Worker) := by
  refine ⟨⟨fun _ _ => rfl, fun _ _ => rfl, nofun⟩, ⟨nofun, nofun, fun _ _ => rfl⟩⟩

theorem gateInv_probeEnds (h : GateInv clean settings registry) {task : Nat}
    {post : PostResult} {warmedAt rampNow : ℚ}
    (hstep : (warmGate settings).step registry (.probeEnds task post warmedAt rampNow) =
      some next) :
    GateInv clean settings next := by
  obtain ⟨hcounted, htracked⟩ := h
  simp only [warmGate] at hstep
  split at hstep
  · rename_i worker epoch htask
    have hdone : Tracked clean (registry.setStage task worker .done) :=
      htracked.setStage htask (by simp) (by simp)
    set result := probeResult settings (registry.snapshots worker) epoch post with hresult
    have hprobe : Counted clean settings registry.snapshots
        (registry.log ++ [.probeEnded task worker result]) :=
      hcounted.probe fun _ => ⟨rfl, rfl⟩
    split_ifs at hstep with hok
    · obtain rfl := Option.some.inj hstep
      refine ⟨?_, (hdone.record _).setSnapshot worker _⟩
      obtain ⟨hstreak, hepoch⟩ :=
        warmed_fields settings (registry.snapshots worker) warmedAt rampNow
      obtain ⟨hcurrent, hscrapes⟩ := current_of_ok hok
      have hended : (GateEntry.probeEnded task worker ProbeResult.ok).isFault worker = false := rfl
      rw [hok]
      refine hcounted.snoc (fun other _ => ⟨rfl, rfl⟩) (fun hclean => ?_) (fun hclean => ?_)
        fun hclean _ => ?_
      · rw [hstreak, sinceFault_snoc hended, List.countP_append, hcounted.streak worker hclean]
        simp [GateEntry.isSuccess]
      · rw [hepoch, List.countP_append, hcounted.epoch worker hclean]
        simp [GateEntry.isFault]
      · obtain ⟨before, after, hlog, hbegan⟩ := htracked.posted task worker epoch hclean htask
        refine qualified_of_probe hlog ?_ ?_
        · rw [← hcounted.epoch worker hclean, hcurrent, hbegan]
        · rw [← hcounted.streak worker hclean]
          exact hscrapes
    · obtain rfl := Option.some.inj hstep
      exact ⟨hprobe, hdone.record _⟩
  · rename_i worker htask
    split at hstep
    · obtain rfl := Option.some.inj hstep
      exact ⟨hcounted, htracked.setStage htask (by simp) (by simp)⟩
    · cases hstep
  · cases hstep

theorem gateInv_step (hrequire : settings.requireWarm = true)
    (hclean : ∀ worker, label = .scrapeRaised worker → ¬ clean worker)
    (h : GateInv clean settings registry)
    (hstep : (warmGate settings).step registry label = some next) :
    GateInv clean settings next := by
  obtain ⟨hcounted, htracked⟩ := h
  cases label with
  | scrapeOk worker values =>
      obtain rfl := Option.some.inj hstep
      have hscraped := hcounted.scrapeOk hrequire worker values
      have hrecorded :=
        (htracked.setSnapshot worker ((registry.snapshots worker).scraped settings values)).record
        (.scraped worker true)
      split_ifs
      · refine ⟨?_, hrecorded.startProbe worker⟩
        unfold WarmRegistry.startProbe
        split_ifs <;> exact hscraped
      · exact ⟨hscraped, hrecorded⟩
  | scrapeFailed worker =>
      obtain rfl := Option.some.inj hstep
      refine ⟨?_, (htracked.setSnapshot worker _).record _⟩
      refine hcounted.fault (by simp [GateEntry.isFault]) (fun other hother => ?_)
        (scrapeFailed_fields settings _ hrequire)
      simp [GateEntry.isFault, GateEntry.isSuccess, hother.symm]
  | scrapeRaised worker =>
      obtain rfl := Option.some.inj hstep
      exact ⟨hcounted.raised (hclean worker rfl), htracked.record _⟩
  | markCold worker =>
      obtain rfl := Option.some.inj hstep
      refine ⟨?_, (htracked.setSnapshot worker _).record _⟩
      refine hcounted.fault (by simp [GateEntry.isFault]) (fun other hother => ?_)
        (markCold_fields settings _ hrequire)
      simp [GateEntry.isFault, GateEntry.isSuccess, hother.symm]
  | probeBegins task =>
      simp only [warmGate] at hstep
      split at hstep
      · rename_i worker htask
        obtain rfl := Option.some.inj hstep
        refine ⟨hcounted.probe fun _ => ⟨rfl, rfl⟩, ?_⟩
        have hrecorded : Tracked clean (registry.record (.probeBegan task worker)) :=
          htracked.record _
        refine hrecorded.setStage htask (by simp) fun epoch hworker hposted => ?_
        injection hposted with hepoch
        exact ⟨registry.log, [], rfl, hepoch ▸ hcounted.epoch worker hworker⟩
      · cases hstep
  | probeEnds task post warmedAt rampNow => exact gateInv_probeEnds ⟨hcounted, htracked⟩ hstep

end Invariant

section Runs

variable {Worker : Type} [DecidableEq Worker]

def WarmRegistry.InFlight (registry : WarmRegistry Worker) (task : Nat) (worker : Worker) : Prop :=
  ∃ stage, registry.tasks task = some ⟨worker, stage⟩ ∧ stage ≠ .done

/-- Whatever the order of scrapes, probes and faults, a warm worker none of whose scrapes has raised
has qualified since its last fault, and no worker has two probes in flight. -/
theorem warm_qualified (settings : GateSettings) (hrequire : settings.requireWarm = true)
    (labels : List (GateLabel Worker)) (registry : WarmRegistry Worker)
    (hrun : (warmGate settings).run WarmRegistry.start labels = some registry) :
    (∀ worker, .scrapeRaised worker ∉ labels → (registry.snapshots worker).warm = true →
        Qualified settings worker registry.log) ∧
      ∀ worker task other,
        registry.InFlight task worker → registry.InFlight other worker → task = other := by
  have hmeets : (warmGate settings).Meets
      (fun _ label => ∀ worker, label = .scrapeRaised worker → ¬ .scrapeRaised worker ∉ labels)
      WarmRegistry.start labels := by
    refine Machine.meets_of_forall_mem fun label hlabel _ worker heq => ?_
    exact not_not_intro (heq ▸ hlabel)
  have hinv : GateInv (fun worker => .scrapeRaised worker ∉ labels) settings registry :=
    Machine.run_invariant_of_meets
      (fun _ _ _ hinv hclean hstep => gateInv_step hrequire hclean hinv hstep)
      (gateInv_start _ settings) hmeets hrun
  obtain ⟨hcounted, htracked⟩ := hinv
  refine ⟨hcounted.warm, ?_⟩
  rintro worker task other ⟨stage, htask, hstage⟩ ⟨stage', hother, hstage'⟩
  have hfirst : registry.probes worker = some task := htracked.inFlight task _ htask hstage
  have hsecond : registry.probes worker = some other := htracked.inFlight other _ hother hstage'
  rw [hfirst] at hsecond
  exact Option.some.inj hsecond

def outageSettings : GateSettings := ⟨true, 1, [], 0, 0⟩

def outageValues : ScrapeValues := ⟨0, 0, 0, 0, 0, 0, 0⟩

def outageRun : List (GateLabel Unit) :=
  [.scrapeOk () outageValues, .probeBegins 0, .scrapeFailed (), .probeEnds 0 .ok 0 0,
    .scrapeOk () outageValues, .probeBegins 1, .probeEnds 1 .ok 0 0]

def outageLog : List (GateEntry Unit) :=
  [.scraped () true, .probeBegan 0 (), .scraped () false, .probeEnded 0 () .stale,
    .scraped () true, .probeBegan 1 (), .probeEnded 1 () .ok]

theorem warm_qualified_example :
    ∃ registry, (warmGate outageSettings).run WarmRegistry.start outageRun = some registry ∧
      (registry.snapshots ()).warm = true ∧ registry.log = outageLog ∧
      Qualified outageSettings () registry.log := by
  have hrun : (warmGate outageSettings).run WarmRegistry.start outageRun ≠ none := by decide
  obtain ⟨registry, hregistry⟩ := Option.ne_none_iff_exists'.mp hrun
  have hfacts : ∀ final, (warmGate outageSettings).run WarmRegistry.start outageRun = some final →
      (final.snapshots ()).warm = true ∧ final.log = outageLog := by
    rintro final hfinal
    obtain rfl := Option.some.inj hfinal
    decide
  obtain ⟨hwarm, hlog⟩ := hfacts registry hregistry
  refine ⟨registry, hregistry, hwarm, hlog, ?_⟩
  have hfinite : GateLabel.scrapeRaised () ∉ outageRun := by simp [outageRun]
  exact (warm_qualified outageSettings rfl outageRun registry hregistry).1 () hfinite hwarm

def raisingRun : List (GateLabel Unit) :=
  [.scrapeOk () outageValues, .probeBegins 0, .probeEnds 0 .ok 0 0, .scrapeRaised ()]

theorem raised_scrape_stays_warm :
    ∃ registry, (warmGate outageSettings).run WarmRegistry.start raisingRun = some registry ∧
      (registry.snapshots ()).warm = true ∧ ¬ Qualified outageSettings () registry.log := by
  refine ⟨_, rfl, rfl, ?_⟩
  rintro ⟨hscrapes, -⟩
  revert hscrapes
  decide

end Runs

end AiAnalytics.Gateway
