import AiAnalytics.App.Jobs.Proof.JobInvariant

/-!
# Whether a job's status regresses

A worker only writes to a job that nobody has a final status of, and hands the metadata on. The
write of a status request is the one that can put an older status back, and it always clears the
metadata. -/

namespace AiAnalytics.App.Jobs

open Lib

variable {Json : Type} {system next : JobSystem Json} {step : JobStep Json}

section Outcomes

structure Job.Continues (job later : Job Json) : Prop where
  metadata : later.metadata = job.metadata
  outcome : job.status.Terminal →
    later.status = job.status ∧ later.result = job.result ∧ later.error = job.error

/-- The copy has the status and the outcome of the job. -/
structure JobCopy.Agrees (copy : JobCopy Json) (job : Job Json) : Prop where
  status : job.status = copy.status
  result : job.result = copy.result
  error : job.error = copy.error

variable {job later : Job Json} {copy : JobCopy Json}

theorem Job.Continues.refl (job : Job Json) : job.Continues job where
  metadata := rfl
  outcome := fun _ => ⟨rfl, rfl, rfl⟩

theorem Job.Continues.trans {last : Job Json} (h : job.Continues later)
    (hlast : later.Continues last) : job.Continues last where
  metadata := hlast.metadata.trans h.metadata
  outcome := by
    intro hterminal
    obtain ⟨hstatus, hresult, herror⟩ := h.outcome hterminal
    obtain ⟨hstatusLast, hresultLast, herrorLast⟩ := hlast.outcome (hstatus ▸ hterminal)
    exact ⟨hstatusLast.trans hstatus, hresultLast.trans hresult, herrorLast.trans herror⟩

theorem Job.agrees_copy (job : Job Json) : job.copy.Agrees job where
  status := rfl
  result := rfl
  error := rfl

theorem Job.Continues.agrees (h : job.Continues later) (hcopy : copy.Agrees job)
    (hterminal : copy.status.Terminal) : copy.Agrees later := by
  obtain ⟨hstatus, hresult, herror⟩ := h.outcome (hcopy.status ▸ hterminal)
  exact ⟨hstatus.trans hcopy.status, hresult.trans hcopy.result, herror.trans hcopy.error⟩

theorem Job.metadata_finished (jobId startedAt : String) (outcome : Outcome Json) :
    (job.finished jobId startedAt outcome).metadata = job.metadata := by
  cases outcome <;> rfl

end Outcomes

section Consistency

def Stage.begun : Stage Json → Option (Job Json)
  | .create _ | .copyFinal _ | .ack => none
  | .start job | .copyRunning job _ | .work job _ => some job

structure Consistent (system : JobSystem Json) : Prop where
  redis : ∀ jobId copy, system.redis jobId = some copy → copy.status.Terminal →
    ∃ job, system.repo jobId = some job ∧ copy.Agrees job
  readers : ∀ number jobId found copy, system.readers number = some ⟨jobId, found, some copy⟩ →
    copy.status.Terminal → ∃ job, system.repo jobId = some job ∧ copy.Agrees job
  final : ∀ name jobId job batch, system.workers name = some ⟨some (jobId, .copyFinal job), batch⟩ →
    job.status.Terminal ∧ ∃ stored, system.repo jobId = some stored ∧ job.copy.Agrees stored
  metadata : ∀ name jobId stage batch job stored,
    system.workers name = some ⟨some (jobId, stage), batch⟩ → stage.begun = some job →
    system.repo jobId = some stored → stored.metadata = job.metadata

variable [EmptyCollection Json]

/-- The step stores no other status, result or error for a finished job, and keeps the metadata. -/
def JobSystem.Keeps (system : JobSystem Json) (step : JobStep Json) : Prop :=
  ∀ next, jobStep system step = some next → ∀ jobId job, system.repo jobId = some job →
    ∃ later, next.repo jobId = some later ∧ job.Continues later

/-- No status request writes an unfinished copy over a finished job, or any copy over a job with
metadata. -/
def JobSystem.WritesCurrent (system : JobSystem Json) : JobStep Json → Prop
  | .writeRepo number => ∀ jobId copy stored,
      system.readers number = some ⟨jobId, true, some copy⟩ → system.repo jobId = some stored →
      (stored.status.Terminal → copy.status.Terminal) ∧ stored.metadata = ∅
  | _ => True

omit [EmptyCollection Json] in
theorem Stage.begun_of_moves {jobId : String} {before stage : Stage Json}
    {job : Job Json} (h : StageMoves system next step jobId before stage)
    (hbegun : stage.begun = some job) : before.begun = some job ∨ ∃ job, before = .create job := by
  cases h with
  | @create created => exact .inr ⟨created, rfl⟩
  | start | copyRunning => exact .inl hbegun
  | work | copyFinal => cases hbegun

theorem consistent_step (hjobs : JobInv system) (h : Consistent system)
    (hstep : jobStep system step = some next) (hkeeps : system.Keeps step) : Consistent next := by
  have hmoves := moves_of_step hstep
  have hlater {jobId : String} {copy : JobCopy Json} (hterminal : copy.status.Terminal)
      (hbefore : ∃ job, system.repo jobId = some job ∧ copy.Agrees job) :
      ∃ job, next.repo jobId = some job ∧ copy.Agrees job := by
    obtain ⟨job, hrepo, hagrees⟩ := hbefore
    obtain ⟨later, hnext, hcontinues⟩ := hkeeps next hstep jobId job hrepo
    exact ⟨later, hnext, hcontinues.agrees hagrees hterminal⟩
  refine ⟨?_, ?_, ?_, ?_⟩
  · intro jobId copy hcopy hterminal
    refine hlater hterminal ?_
    rcases redis_step hmoves with hsame | ⟨other, hgone⟩ | ⟨other, put, hput, hcase⟩
    · exact h.redis jobId copy (hsame ▸ hcopy) hterminal
    · by_cases hother : jobId = other
      · rw [hgone, hother, Function.update_self] at hcopy
        cases hcopy
      · rw [hgone, Function.update_of_ne hother] at hcopy
        exact h.redis jobId copy hcopy hterminal
    · by_cases hother : jobId = other
      · subst hother
        rw [hput, Function.update_self] at hcopy
        obtain rfl := Option.some.inj hcopy
        rcases hcase with ⟨job, hqueued, rfl⟩ | ⟨name, batch, stage, hworker, hstage⟩
        · have hpending : job.copy.status = .pending := hjobs.known.pending jobId job _ hqueued
          rw [hpending] at hterminal
          exact absurd hterminal (by decide)
        · rcases hstage with ⟨job, startedAt, -, rfl⟩ | ⟨job, rfl, rfl, -⟩
          · exact absurd hterminal (by decide : ¬ JobStatus.running.Terminal)
          · exact (h.final name jobId job batch hworker).2
      · rw [hput, Function.update_of_ne hother] at hcopy
        exact h.redis jobId copy hcopy hterminal
  · intro number jobId found copy hreader hterminal
    refine hlater hterminal ?_
    rcases readers_step hmoves with hsame | ⟨other, put, hput, hread⟩
    · exact h.readers number jobId found copy (hsame ▸ hreader) hterminal
    · by_cases hother : number = other
      · rw [hput, hother, Function.update_self] at hreader
        exact h.redis jobId copy (hread _ copy hreader rfl) hterminal
      · rw [hput, Function.update_of_ne hother] at hreader
        exact h.readers number jobId found copy hreader hterminal
  · intro name jobId job batch hworker
    rcases current_step hmoves hworker with hold | ⟨message, -, hbegin, -⟩
      | ⟨before, hbefore, hmove⟩
    · obtain ⟨hterminal, hstored⟩ := h.final name jobId job batch hold
      exact ⟨hterminal, hlater hterminal hstored⟩
    · rw [beginStage] at hbegin
      split at hbegin
      · cases hbegin
      · split_ifs at hbegin
    · generalize hafter : Stage.copyFinal job = after at hmove
      cases hmove with
      | create => split_ifs at hafter
      | start | copyRunning | copyFinal => cases hafter
      | @work begun startedAt outcome hstored =>
          obtain rfl : job = begun.finished jobId startedAt outcome := by simpa using hafter
          exact ⟨Job.terminal_finished jobId startedAt outcome, _, hstored, Job.agrees_copy _⟩
  · intro name jobId stage batch job stored hworker hbegun hnext
    rcases current_step hmoves hworker with hold | ⟨message, hbefore, hbegin, hrepo⟩ |
      ⟨before, hbefore, hmove⟩
    · obtain ⟨earlier, hearlier⟩ := hjobs.stored hold
      obtain ⟨later, hsame, hcontinues⟩ := hkeeps next hstep jobId earlier hearlier
      obtain rfl : later = stored := Option.some.inj (hsame.symm.trans hnext)
      exact hcontinues.metadata.trans
        (h.metadata name jobId stage batch job earlier hold hbegun hearlier)
    · rw [hrepo] at hnext
      rw [beginStage_of_stored hnext] at hbegin
      split_ifs at hbegin
      · rw [hbegin] at hbegun
        cases hbegun
      · rw [hbegin] at hbegun
        obtain rfl : stored = job := Option.some.inj hbegun
        rfl
    · obtain ⟨earlier, hearlier⟩ := hjobs.stored hbefore
      obtain ⟨later, hsame, hcontinues⟩ := hkeeps next hstep jobId earlier hearlier
      obtain rfl : later = stored := Option.some.inj (hsame.symm.trans hnext)
      rcases Stage.begun_of_moves hmove hbegun with hbegunBefore | ⟨created, rfl⟩
      · exact hcontinues.metadata.trans
          (h.metadata name jobId before batch job earlier hbefore hbegunBefore hearlier)
      · exact absurd hbefore (hjobs.found name jobId created batch)

theorem keeps_of_writesCurrent (hjobs : JobInv system) (h : Consistent system)
    (hwrites : system.WritesCurrent step) : system.Keeps step := by
  intro next hstep jobId job hrepo
  have hsame (hunchanged : next.repo jobId = system.repo jobId) :
      ∃ later, next.repo jobId = some later ∧ job.Continues later :=
    ⟨job, hunchanged.trans hrepo, Job.Continues.refl job⟩
  rcases repo_step (moves_of_step hstep) with hunchanged | ⟨other, put, hput, hcase⟩
  · exact hsame (congrFun hunchanged jobId)
  by_cases hother : jobId = other
  · subst hother
    refine ⟨put, by rw [hput, Function.update_self], ?_⟩
    rcases hcase with ⟨-, -, hnew⟩ | ⟨name, batch, stage, hworker, hstage⟩ |
      ⟨number, found, copy, rfl, hreader, rfl, hfound⟩
    · rw [hnew] at hrepo
      cases hrepo
    · have hunfinished (hearly : stage.Early) : ¬ job.status.Terminal :=
        (hjobs.early jobId (.held hworker (.inr ⟨stage, rfl, hearly⟩))).repo job hrepo
      have hmetadata {begun : Job Json} (hbegun : stage.begun = some begun) :
          begun.metadata = job.metadata :=
        (h.metadata name jobId stage batch begun job hworker hbegun hrepo).symm
      rcases hstage with rfl | ⟨begun, startedAt, rfl, rfl⟩
        | ⟨begun, startedAt, outcome, rfl, rfl, -⟩
      · exact absurd hworker (hjobs.found name jobId put batch)
      · have hrunning : begun.metadata = job.metadata := hmetadata rfl
        exact ⟨hrunning, fun hterminal => absurd hterminal (hunfinished trivial)⟩
      · refine ⟨?_, fun hterminal => absurd hterminal (hunfinished trivial)⟩
        rw [Job.metadata_finished]
        exact hmetadata rfl
    · rw [hrepo] at hfound
      obtain rfl : found = true := hfound
      obtain ⟨hcurrent, hempty⟩ := hwrites jobId copy job hreader hrepo
      refine ⟨hempty.symm, fun hterminal => ?_⟩
      -- a finished copy has the outcome that the repository has
      obtain ⟨stored, hstored, hagrees⟩ :=
        h.readers number jobId true copy hreader (hcurrent hterminal)
      obtain rfl : job = stored := Option.some.inj (hrepo.symm.trans hstored)
      exact ⟨hagrees.status.symm, hagrees.result.symm, hagrees.error.symm⟩
  · refine hsame ?_
    rw [hput, Function.update_of_ne hother]

theorem writesCurrent_of_keeps (hkeeps : system.Keeps step) : system.WritesCurrent step := by
  cases step with
  | writeRepo number =>
      intro jobId copy stored hreader hstored
      have hstep : jobStep system (.writeRepo number) =
          some ((system.putJob jobId copy.job).putReader number none) := by
        simp only [jobStep, hreader, writeBack, hstored]
      obtain ⟨later, hnext, hcontinues⟩ := hkeeps _ hstep jobId stored hstored
      have hput : Function.update system.repo jobId (some copy.job) jobId = some later := hnext
      rw [Function.update_self] at hput
      obtain rfl : copy.job = later := Option.some.inj hput
      refine ⟨fun hterminal => ?_, hcontinues.metadata.symm⟩
      have hstatus : copy.status = stored.status := (hcontinues.outcome hterminal).1
      rw [hstatus]
      exact hterminal
  | _ => trivial

omit [EmptyCollection Json] in
theorem consistent_start : Consistent ({} : JobSystem Json) where
  redis := by rintro _ _ ⟨⟩
  readers := by rintro _ _ _ _ ⟨⟩
  final := by rintro _ _ _ _ ⟨⟩
  metadata := by rintro _ _ _ _ _ _ ⟨⟩

/-- Every step of a run keeps statuses, outcomes and metadata exactly when every write of a status
request is of a current copy, to a job without metadata. -/
theorem keeps_iff_writesCurrent (labels : List (JobStep Json)) :
    jobMachine.Meets JobSystem.Keeps {} labels ↔
      jobMachine.Meets JobSystem.WritesCurrent {} labels := by
  have hagree (system : JobSystem Json) (step : JobStep Json)
      (hinv : JobInv system ∧ Consistent system) :
      system.Keeps step ↔ system.WritesCurrent step :=
    ⟨writesCurrent_of_keeps, keeps_of_writesCurrent hinv.1 hinv.2⟩
  refine Machine.meets_congr hagree ?_ ⟨jobInv_start, consistent_start⟩
  rintro system step next ⟨hjobs, hconsistent⟩ hkeeps hstep
  exact ⟨jobInv_step hjobs (moves_of_step hstep), consistent_step hjobs hconsistent hstep hkeeps⟩

theorem continues_of_run {labels : List (JobStep Json)} {jobId : String} {job : Job Json}
    (hkeeps : jobMachine.Meets JobSystem.Keeps system labels)
    (hrun : jobMachine.run system labels = some next) (hjob : system.repo jobId = some job) :
    ∃ later, next.repo jobId = some later ∧ job.Continues later := by
  have hpreserve (state : JobSystem Json) (label : JobStep Json) (after : JobSystem Json)
      (hstate : ∃ later, state.repo jobId = some later ∧ job.Continues later)
      (hkeep : state.Keeps label) (hstep : jobMachine.step state label = some after) :
      ∃ later, after.repo jobId = some later ∧ job.Continues later := by
    obtain ⟨later, hlater, hcontinues⟩ := hstate
    obtain ⟨last, hlast, hagain⟩ := hkeep after hstep jobId later hlater
    exact ⟨last, hlast, hcontinues.trans hagain⟩
  have hlast := Machine.run_invariant_of_meets hpreserve ⟨job, hjob, Job.Continues.refl job⟩ hkeeps
    hrun
  exact hlast

def completedMeanwhile : List (JobStep (List String)) :=
  [.submit "j" (submittedJob "create_full_report" "t0" []), .xadd "j" true, .setCopy "j" true,
    .startWorker "w", .readJobs "w", .begin "w", .storeRunning "w" "t1", .copyRunning "w" true,
    .readRepo 0 "j", .readCopy 0, .storeFinal "w" (.reported "t2" ["report"])]

/-- The request then writes the running job back. -/
theorem finished_job_runs_again :
    ((jobMachine.run {} completedMeanwhile).bind fun system =>
        (system.repo "j").map fun job => (job.status, job.result)) =
      some (.completed, some ["report"]) ∧
    ((jobMachine.run {} (completedMeanwhile ++ [.writeRepo 0])).bind fun system =>
        (system.repo "j").map fun job => (job.status, job.result)) = some (.running, none) ∧
    ¬ jobMachine.Meets JobSystem.Keeps {} (completedMeanwhile ++ [.writeRepo 0]) := by
  have hcompleted : ((jobMachine.run {} completedMeanwhile).bind fun system =>
      (system.repo "j").map fun job => (job.status, job.result)) =
      some (.completed, some ["report"]) := by decide
  have hrunning : ((jobMachine.run {} (completedMeanwhile ++ [.writeRepo 0])).bind fun system =>
      (system.repo "j").map fun job => (job.status, job.result)) = some (.running, none) := by
    decide
  refine ⟨hcompleted, hrunning, fun hkeeps => ?_⟩
  obtain ⟨mid, hmid, hjob⟩ := Option.bind_eq_some_iff.mp hcompleted
  obtain ⟨final, hfinal, hlater⟩ := Option.bind_eq_some_iff.mp hrunning
  obtain ⟨job, hrepo, hstatus⟩ := Option.map_eq_some_iff.mp hjob
  have hlast : jobMachine.run mid [.writeRepo 0] = some final := by
    rw [Machine.run_append, hmid] at hfinal
    exact hfinal
  have hmeets := ((Machine.meets_append_of_run hmid).mp hkeeps).2
  obtain ⟨later, hstored, hcontinues⟩ := continues_of_run hmeets hlast hrepo
  rw [hstored] at hlater
  have hbefore : job.status = .completed := congrArg Prod.fst hstatus
  have hafter : later.status = .running := congrArg Prod.fst (Option.some.inj hlater)
  have hsame : later.status = job.status := (hcontinues.outcome (.inl hbefore)).1
  rw [hbefore, hafter] at hsame
  cases hsame

end Consistency

end AiAnalytics.App.Jobs
