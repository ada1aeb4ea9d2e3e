import AiAnalytics.App.Jobs.Proof.JobInvariant

/-!
# Whether a job is stranded

While Redis takes every call, a job that has been queued is still to be delivered, or with a worker
that has not finished it, or its copy is final. It leaves all three places when a worker dies with
it, and when the copy that its own submission writes comes after the final one.
-/

namespace AiAnalytics.App.Jobs

open Lib

variable {Json : Type} {system next : JobSystem Json} {step : JobStep Json}

section Places

def JobStep.Reached : JobStep Json → Prop
  | .xadd _ reached | .setCopy _ reached | .copyRunning _ reached | .copyFinal _ reached =>
      reached = true
  | _ => True

def Stage.Unfinished : Stage Json → Prop
  | .ack => False
  | _ => True

def Worker.Unfinished (worker : Worker Json) (jobId : String) : Prop :=
  jobId ∈ worker.batch.map Prod.fst ∨
    ∃ stage, worker.current = some (jobId, stage) ∧ stage.Unfinished

def JobSystem.Finished (system : JobSystem Json) (jobId : String) : Prop :=
  ∃ copy, system.redis jobId = some copy ∧ copy.status.Terminal

/-- The job is not stranded. -/
inductive JobSystem.Accounted (system : JobSystem Json) (jobId : String) : Prop
  | finished (h : system.Finished jobId)
  | held {name worker} (h : system.workers name = some worker)
    (hunfinished : worker.Unfinished jobId)
  | undelivered (h : jobId ∈ system.group.undelivered)

/-- No worker dies with a job it has not finished, no submission writes its copy over a final one,
and no final copy expires. -/
def JobSystem.Settles (system : JobSystem Json) : JobStep Json → Prop
  | .crash name => ∀ worker jobId, system.workers name = some worker → ¬ worker.Unfinished jobId
  | .setCopy jobId _ | .expire jobId => ¬ system.Finished jobId
  | _ => True

theorem worker_unique (h : system.group.Exclusive) {name other jobId : String}
    {stage otherStage : Stage Json} {batch otherBatch : List (String × JobMessage Json)}
    (hworker : system.workers name = some ⟨some (jobId, stage), batch⟩)
    (hother : system.workers other = some ⟨some (jobId, otherStage), otherBatch⟩) :
    name = other := by
  by_contra hne
  refine h.apart name other hne jobId ?_ ?_
  · rw [held_of_worker hworker]
    exact List.mem_cons_self
  · rw [held_of_worker hother]
    exact List.mem_cons_self

end Places

section Tracking

structure Tracked (system : JobSystem Json) : Prop where
  jobs : JobInv system
  queued : ∀ jobId job stage, system.submissions jobId = some (job, stage) → stage ≠ .created →
    jobId ∈ system.group.entries
  accounted : ∀ jobId ∈ system.group.entries, system.Accounted jobId
  final : ∀ name jobId job batch, system.workers name = some ⟨some (jobId, .copyFinal job), batch⟩ →
    job.status.Terminal ∧ ¬ system.Finished jobId

theorem JobInv.not_finished (h : JobInv system) {jobId : String} (hearly : system.Early jobId) :
    ¬ system.Finished jobId := by
  rintro ⟨copy, hcopy, hterminal⟩
  exact (h.early jobId hearly).redis copy hcopy hterminal

variable [EmptyCollection Json]

theorem copy_step (h : Tracked system) (hmoves : Moves system step next)
    (hsettles : system.Settles step) {jobId : String} {copy : JobCopy Json}
    (hcopy : system.redis jobId = some copy) (hterminal : copy.status.Terminal) :
    ∃ later, next.redis jobId = some later ∧ later.status = copy.status := by
  have hfinished : system.Finished jobId := ⟨copy, hcopy, hterminal⟩
  have hput {other : String} {put : JobCopy Json} {reached : Bool} (hother : jobId ≠ other) :
      ∃ later, (system.putCopy other put reached).redis jobId = some later ∧
        later.status = copy.status := by
    refine ⟨copy, ?_, rfl⟩
    cases reached with
    | false => exact hcopy
    | true => exact (Function.update_of_ne hother _ _).trans hcopy
  cases hmoves with
  | @setCopy other job reached =>
      have hother : jobId ≠ other := by
        rintro rfl
        exact hsettles hfinished
      exact hput hother
  | @copyRunning name batch other job startedAt reached hworker =>
      have hother : jobId ≠ other := by
        rintro rfl
        exact h.jobs.not_finished (.held hworker (.inr ⟨_, rfl, trivial⟩)) hfinished
      exact hput hother
  | @copyFinal name batch other job reached hworker =>
      have hother : jobId ≠ other := by
        rintro rfl
        exact (h.final name jobId job batch hworker).2 hfinished
      exact hput hother
  | @expire other =>
      have hother : jobId ≠ other := by
        rintro rfl
        exact hsettles hfinished
      exact ⟨copy, (Function.update_of_ne hother _ _).trans hcopy, rfl⟩
  | @writeRepo number other found read =>
      have hredis : (writeBack system ⟨other, found, some read⟩ read).redis = system.redis := by
        rw [writeBack]
        split <;> rfl
      exact ⟨copy, (congrFun hredis jobId).trans hcopy, rfl⟩
  | _ => exact ⟨copy, hcopy, rfl⟩

theorem finished_step (h : Tracked system) (hmoves : Moves system step next)
    (hsettles : system.Settles step) {jobId : String} (hfinished : system.Finished jobId) :
    next.Finished jobId := by
  obtain ⟨copy, hcopy, hterminal⟩ := hfinished
  obtain ⟨later, hlater, hstatus⟩ := copy_step h hmoves hsettles hcopy hterminal
  exact ⟨later, hlater, hstatus ▸ hterminal⟩

theorem undelivered_accounted (h : Tracked system) (hmoves : Moves system step next)
    {jobId : String} (hlater : jobId ∈ system.group.undelivered) : next.Accounted jobId := by
  cases hmoves with
  | @xadd queued job hcreated =>
      refine .undelivered ?_
      rw [group_xadd, h.jobs.exclusive.undelivered_add]
      exact List.mem_append_left _ hlater
  | @readJobs name hworker =>
      rw [← List.take_append_drop readCount system.group.undelivered] at hlater
      rcases List.mem_append.mp hlater with htaken | hleft
      · refine .held (Function.update_self name _ system.workers) (.inl ?_)
        rw [List.map_take, List.map_drop]
        exact htaken
      · refine .undelivered ?_
        rw [group_readJobs hworker, ConsumerGroup.undelivered_read]
        exact hleft
  | @setCopy _ _ reached | @copyRunning _ _ _ _ _ reached | @copyFinal _ _ _ _ reached =>
      cases reached <;> exact .undelivered hlater
  | @writeRepo number other found copy =>
      have hgroup : (writeBack system ⟨other, found, some copy⟩ copy).group = system.group :=
        group_writeBack
      refine .undelivered ?_
      show jobId ∈ (writeBack system ⟨other, found, some copy⟩ copy).group.undelivered
      rw [hgroup]
      exact hlater
  | _ => exact .undelivered hlater

theorem held_accounted (h : Tracked system) (hmoves : Moves system step next)
    (hreached : step.Reached) (hsettles : system.Settles step) {name jobId : String}
    {worker : Worker Json} (hworker : system.workers name = some worker)
    (hunfinished : worker.Unfinished jobId) : next.Accounted jobId := by
  have hkept (hnext : next.workers name = system.workers name) : next.Accounted jobId :=
    .held (hnext.trans hworker) hunfinished
  have hadvance {current : String} {stage later : Stage Json}
      {batch : List (String × JobMessage Json)}
      (hbefore : system.workers name = some ⟨some (current, stage), batch⟩)
      (hafter : next.workers name = some ⟨some (current, later), batch⟩)
      (hlater : later.Unfinished) : next.Accounted jobId := by
    obtain rfl : worker = ⟨some (current, stage), batch⟩ :=
      Option.some.inj (hworker.symm.trans hbefore)
    rcases hunfinished with hbatch | ⟨reading, hcurrent, -⟩
    · exact .held hafter (.inl hbatch)
    · obtain ⟨rfl, -⟩ : current = jobId ∧ stage = reading := by simpa using hcurrent
      exact .held hafter (.inr ⟨later, rfl, hlater⟩)
  cases hmoves with
  | submit | xadd | xaddLost | readFinal | readRepo | readNothing | readCopy | expire =>
      exact hkept rfl
  | @setCopy other job reached => exact hkept (congrFun workers_putCopy name)
  | @writeRepo number other found copy =>
      refine hkept ?_
      show (writeBack system ⟨other, found, some copy⟩ copy).workers name = system.workers name
      rw [writeBack]
      split <;> rfl
  | @startWorker other hnone =>
      have hne : name ≠ other := by
        rintro rfl
        rw [hnone] at hworker
        cases hworker
      exact hkept (Function.update_of_ne hne _ _)
  | @crash other =>
      have hne : name ≠ other := by
        rintro rfl
        exact hsettles worker jobId hworker hunfinished
      exact hkept (Function.update_of_ne hne _ _)
  | @readJobs other hidle =>
      have hne : name ≠ other := by
        rintro rfl
        obtain rfl : worker = ⟨none, []⟩ := Option.some.inj (hworker.symm.trans hidle)
        rcases hunfinished with hbatch | ⟨stage, hcurrent, -⟩
        · cases hbatch
        · cases hcurrent
      exact hkept (Function.update_of_ne hne _ _)
  | @begin other current message batch hbefore =>
      by_cases hne : name = other
      · subst hne
        obtain rfl : worker = ⟨none, (current, message) :: batch⟩ :=
          Option.some.inj (hworker.symm.trans hbefore)
        have hafter :
            (system.advance name { batch } current (beginStage system current message)).workers
            name = some ⟨some (current, beginStage system current message), batch⟩ :=
          Function.update_self _ _ _
        rcases hunfinished with hbatch | ⟨stage, hcurrent, -⟩
        · rcases List.mem_cons.mp hbatch with rfl | htail
          · refine .held hafter (.inr ⟨_, rfl, ?_⟩)
            -- the job is early, so the repository has it unfinished
            have hopen := h.jobs.early _ (.held hbefore (.inl List.mem_cons_self))
            rw [beginStage]
            split
            · trivial
            · rename_i job hstored
              rw [if_neg (hopen.repo job hstored)]
              trivial
          · exact .held hafter (.inl htail)
        · cases hcurrent
      · exact hkept (Function.update_of_ne hne _ _)
  | createTaken hbefore | createJob hbefore => exact absurd hbefore (h.jobs.found _ _ _ _)
  | storeRunningMissing hbefore hmissing | storeFinalMissing hbefore hmissing =>
      obtain ⟨job, hstored⟩ := h.jobs.stored hbefore
      rw [hmissing] at hstored
      cases hstored
  | @storeRunning other _ _ _ _ _ hbefore | @storeFinal other _ _ _ _ _ _ hbefore =>
      by_cases hne : name = other
      · subst hne
        exact hadvance hbefore (Function.update_self _ _ _) trivial
      · exact hkept (Function.update_of_ne hne _ _)
  | @copyRunning other _ _ _ _ _ hbefore =>
      by_cases hne : name = other
      · subst hne
        exact hadvance hbefore (Function.update_self _ _ _) trivial
      · exact hkept ((Function.update_of_ne hne _ _).trans (congrFun workers_putCopy name))
  | @copyFinal other batch current job reached hbefore =>
      by_cases hne : name = other
      · subst hne
        obtain rfl : worker = ⟨some (current, .copyFinal job), batch⟩ :=
          Option.some.inj (hworker.symm.trans hbefore)
        rcases hunfinished with hbatch | ⟨stage, hcurrent, -⟩
        · exact .held (Function.update_self _ _ _) (.inl hbatch)
        · obtain ⟨rfl, -⟩ : current = jobId ∧ Stage.copyFinal job = stage := by simpa using hcurrent
          obtain rfl : reached = true := hreached
          exact .finished ⟨job.copy, Function.update_self _ _ _,
            (h.final name current job batch hbefore).1⟩
      · exact hkept ((Function.update_of_ne hne _ _).trans (congrFun workers_putCopy name))
  | @ack other batch current hbefore =>
      by_cases hne : name = other
      · subst hne
        obtain rfl : worker = ⟨some (current, .ack), batch⟩ :=
          Option.some.inj (hworker.symm.trans hbefore)
        rcases hunfinished with hbatch | ⟨stage, hcurrent, hstage⟩
        · exact .held (Function.update_self _ _ _) (.inl hbatch)
        · obtain ⟨-, rfl⟩ : current = jobId ∧ Stage.ack = stage := by simpa using hcurrent
          exact hstage.elim
      · exact hkept (Function.update_of_ne hne _ _)

theorem accounted_step (h : Tracked system) (hmoves : Moves system step next)
    (hreached : step.Reached) (hsettles : system.Settles step) {jobId : String}
    (hentry : jobId ∈ next.group.entries) : next.Accounted jobId := by
  have hold (hbefore : jobId ∈ system.group.entries) : next.Accounted jobId := by
    cases h.accounted jobId hbefore with
    | finished hfinished => exact .finished (finished_step h hmoves hsettles hfinished)
    | held hworker hunfinished =>
        exact held_accounted h hmoves hreached hsettles hworker hunfinished
    | undelivered hlater => exact undelivered_accounted h hmoves hlater
  rcases entries_step hmoves with hsame | ⟨other, job, hcreated, hqueued, hadded⟩
  · exact hold (hsame ▸ hentry)
  · rw [hadded] at hentry
    rcases List.mem_append.mp hentry with hbefore | hnew
    · exact hold hbefore
    · obtain rfl := List.mem_singleton.mp hnew
      refine .undelivered ?_
      rw [hadded, h.jobs.exclusive.undelivered_add]
      exact List.mem_append_right _ hnew

theorem not_finished_step (h : Tracked system) (hmoves : Moves system step next)
    (hexclusive : next.group.Exclusive) {name jobId : String} {stage : Stage Json}
    {batch : List (String × JobMessage Json)} (hstage : stage.Unfinished)
    (hworker : next.workers name = some ⟨some (jobId, stage), batch⟩)
    (hbefore : ¬ system.Finished jobId) : ¬ next.Finished jobId := by
  rintro ⟨copy, hcopy, hterminal⟩
  rcases redis_step hmoves with hsame | ⟨other, hgone⟩ | ⟨other, put, hput, hcase⟩
  · exact hbefore ⟨copy, hsame ▸ hcopy, hterminal⟩
  · by_cases hother : jobId = other
    · rw [hgone, hother, Function.update_self] at hcopy
      cases hcopy
    · rw [hgone, Function.update_of_ne hother] at hcopy
      exact hbefore ⟨copy, hcopy, hterminal⟩
  · by_cases hother : jobId = other
    · subst hother
      rw [hput, Function.update_self] at hcopy
      obtain rfl := Option.some.inj hcopy
      rcases hcase with ⟨job, hqueued, rfl⟩ | ⟨writer, writing, before, -, hwrites⟩
      · have hpending : job.copy.status = .pending := h.jobs.known.pending jobId job _ hqueued
        rw [hpending] at hterminal
        exact absurd hterminal (by decide)
      · rcases hwrites with ⟨job, startedAt, -, rfl⟩ | ⟨job, -, -, hafter⟩
        · exact absurd hterminal (by decide : ¬ JobStatus.running.Terminal)
        · obtain rfl := worker_unique hexclusive hworker hafter
          rw [hworker] at hafter
          obtain ⟨rfl, -⟩ : stage = .ack ∧ batch = writing := by simpa using hafter
          exact hstage
    · rw [hput, Function.update_of_ne hother] at hcopy
      exact hbefore ⟨copy, hcopy, hterminal⟩

theorem tracked_step (h : Tracked system) (hmoves : Moves system step next)
    (hreached : step.Reached) (hsettles : system.Settles step) : Tracked next := by
  have hjobs := jobInv_step h.jobs hmoves
  refine ⟨hjobs, ?_, fun _ hentry => accounted_step h hmoves hreached hsettles hentry, ?_⟩
  · intro jobId job stage hsubmission hstage
    have hkept (hbefore : jobId ∈ system.group.entries) : jobId ∈ next.group.entries := by
      rcases entries_step hmoves with hsame | ⟨other, put, -, -, hadded⟩
      · exact hsame ▸ hbefore
      · rw [hadded]
        exact List.mem_append_left _ hbefore
    rcases submissions_step hmoves with hsame | ⟨other, put, putStage, hput, hcase⟩
    · exact hkept (h.queued jobId job stage (hsame ▸ hsubmission) hstage)
    · by_cases hother : jobId = other
      · subst hother
        rw [hput, Function.update_self] at hsubmission
        cases hsubmission
        rcases hcase with ⟨hcreated, -⟩ | ⟨-, before, hbefore, hentry⟩
        · exact absurd hcreated hstage
        · by_cases hcreated : before = .created
          · rcases hentry hcreated with hmem | rfl
            · exact hmem
            · cases hreached
          · exact hkept (h.queued jobId job before hbefore hcreated)
      · rw [hput, Function.update_of_ne hother] at hsubmission
        exact hkept (h.queued jobId job stage hsubmission hstage)
  · intro name jobId job batch hworker
    have hstage : (Stage.copyFinal job).Unfinished := trivial
    have hunfinished (hbefore : ¬ system.Finished jobId) : ¬ next.Finished jobId :=
      not_finished_step h hmoves hjobs.exclusive hstage hworker hbefore
    rcases current_step hmoves hworker with hold | ⟨message, -, hbegin, -⟩
      | ⟨before, hbefore, hmove⟩
    · obtain ⟨hterminal, hnone⟩ := h.final name jobId job batch hold
      exact ⟨hterminal, hunfinished hnone⟩
    · rw [beginStage] at hbegin
      split at hbegin
      · cases hbegin
      · split_ifs at hbegin
    · generalize hafter : Stage.copyFinal job = after at hmove
      cases hmove with
      | create => split_ifs at hafter
      | start | copyRunning | copyFinal => cases hafter
      | @work begun startedAt outcome hstored =>
          obtain rfl : job = begun.finished jobId startedAt outcome := by simpa using hafter
          refine ⟨Job.terminal_finished jobId startedAt outcome, hunfinished ?_⟩
          exact h.jobs.not_finished (.held hbefore (.inr ⟨_, rfl, trivial⟩))

omit [EmptyCollection Json] in
theorem tracked_start : Tracked ({} : JobSystem Json) where
  jobs := jobInv_start
  queued := by rintro _ _ _ ⟨⟩
  accounted := fun _ hentry => absurd hentry List.not_mem_nil
  final := by rintro _ _ _ _ ⟨⟩

def JobSystem.Steady (system : JobSystem Json) (step : JobStep Json) : Prop :=
  step.Reached ∧ system.Settles step

theorem tracked_run {labels : List (JobStep Json)} (h : Tracked system)
    (hsteady : jobMachine.Meets JobSystem.Steady system labels)
    (hrun : jobMachine.run system labels = some next) : Tracked next := by
  refine Machine.run_invariant_of_meets ?_ h hsteady hrun
  rintro state label after hstate ⟨hreached, hsettles⟩ hstep
  exact tracked_step hstate (moves_of_step hstep) hreached hsettles

theorem copy_run {labels : List (JobStep Json)} (h : Tracked system)
    (hsteady : jobMachine.Meets JobSystem.Steady system labels)
    (hrun : jobMachine.run system labels = some next) {jobId : String} {copy : JobCopy Json}
    (hcopy : system.redis jobId = some copy) (hterminal : copy.status.Terminal) :
    ∃ later, next.redis jobId = some later ∧ later.status = copy.status := by
  have hpreserve (state : JobSystem Json) (label : JobStep Json) (after : JobSystem Json)
      (hstate : Tracked state ∧ ∃ later, state.redis jobId = some later ∧
        later.status = copy.status)
      (hsteadily : state.Steady label) (hstep : jobMachine.step state label = some after) :
      Tracked after ∧ ∃ later, after.redis jobId = some later ∧ later.status = copy.status := by
    obtain ⟨htracked, later, hlater, hstatus⟩ := hstate
    obtain ⟨hreached, hsettles⟩ := hsteadily
    have hmoves := moves_of_step hstep
    obtain ⟨last, hlast, hsame⟩ := copy_step htracked hmoves hsettles hlater (hstatus ▸ hterminal)
    exact ⟨tracked_step htracked hmoves hreached hsettles, last, hlast, hsame.trans hstatus⟩
  have hlast := Machine.run_invariant_of_meets hpreserve ⟨h, copy, hcopy, rfl⟩ hsteady hrun
  exact hlast.2

end Tracking

section Runs

variable [EmptyCollection Json]

/-- In a steady run every job whose submission has returned is accounted for, and its final copy
keeps its status however the run goes on. -/
theorem accepted_accounted {labels : List (JobStep Json)}
    (hsteady : jobMachine.Meets JobSystem.Steady {} labels)
    (hrun : jobMachine.run {} labels = some system) :
    (∀ jobId job, system.submissions jobId = some (job, .returned) → system.Accounted jobId) ∧
      ∀ after, jobMachine.Meets JobSystem.Steady system after →
        jobMachine.run system after = some next → ∀ jobId copy,
          system.redis jobId = some copy → copy.status.Terminal →
            ∃ later, next.redis jobId = some later ∧ later.status = copy.status := by
  have htracked : Tracked system := tracked_run tracked_start hsteady hrun
  constructor
  · intro jobId job hreturned
    exact htracked.accounted jobId (htracked.queued jobId job .returned hreturned (by decide))
  · intro after hafter hfinal jobId copy hcopy hterminal
    exact copy_run htracked hafter hfinal hcopy hterminal

def settledJob : List (JobStep (List String)) :=
  [.submit "j" (submittedJob "create_full_report" "t0" []), .xadd "j" true, .setCopy "j" true,
    .startWorker "w", .readJobs "w", .begin "w", .storeRunning "w" "t1", .copyRunning "w" true,
    .storeFinal "w" (.reported "t2" ["report"]), .copyFinal "w" true]

theorem settledJob_steady : jobMachine.Meets JobSystem.Steady {} settledJob := by
  have hnone (jobId : String) (system : JobSystem (List String)) (h : system.redis jobId = none) :
      ¬ system.Finished jobId := by
    rintro ⟨copy, hcopy, -⟩
    rw [h] at hcopy
    cases hcopy
  refine (Machine.meets_cons_of_step rfl).mpr ⟨⟨trivial, trivial⟩, ?_⟩
  refine (Machine.meets_cons_of_step rfl).mpr ⟨⟨rfl, trivial⟩, ?_⟩
  refine (Machine.meets_cons_of_step rfl).mpr ⟨⟨rfl, hnone _ _ rfl⟩, ?_⟩
  refine (Machine.meets_cons_of_step rfl).mpr ⟨⟨trivial, trivial⟩, ?_⟩
  refine (Machine.meets_cons_of_step rfl).mpr ⟨⟨trivial, trivial⟩, ?_⟩
  refine (Machine.meets_cons_of_step rfl).mpr ⟨⟨trivial, trivial⟩, ?_⟩
  refine (Machine.meets_cons_of_step rfl).mpr ⟨⟨trivial, trivial⟩, ?_⟩
  refine (Machine.meets_cons_of_step rfl).mpr ⟨⟨rfl, trivial⟩, ?_⟩
  refine (Machine.meets_cons_of_step rfl).mpr ⟨⟨trivial, trivial⟩, ?_⟩
  exact (Machine.meets_cons_of_step rfl).mpr ⟨⟨rfl, trivial⟩, Machine.meets_nil⟩

theorem accepted_accounted_settled : ∃ system next : JobSystem (List String),
    jobMachine.run {} settledJob = some system ∧ jobMachine.run system [.ack "w"] = some next ∧
      system.Accounted "j" ∧ ∃ later, next.redis "j" = some later ∧ later.status = .completed := by
  have hrun : ∃ system, jobMachine.run {} settledJob = some system := ⟨_, rfl⟩
  have hlast : ((jobMachine.run {} settledJob).bind fun system =>
      jobMachine.run system [.ack "w"]).isSome := by decide
  have hreturned : ((jobMachine.run {} settledJob).bind fun system =>
      (system.submissions "j").map Prod.snd) = some .returned := by decide
  have hcompleted : ((jobMachine.run {} settledJob).bind fun system =>
      (system.redis "j").map JobCopy.status) = some .completed := by decide
  obtain ⟨system, hsystem⟩ := hrun
  rw [hsystem] at hlast hreturned hcompleted
  obtain ⟨next, hnext⟩ := Option.isSome_iff_exists.mp hlast
  obtain ⟨⟨job, stage⟩, hsubmission, rfl⟩ := Option.map_eq_some_iff.mp hreturned
  obtain ⟨copy, hcopy, hstatus⟩ := Option.map_eq_some_iff.mp hcompleted
  have hack : jobMachine.Meets JobSystem.Steady system [.ack "w"] :=
    ⟨⟨trivial, trivial⟩, fun _ _ => Machine.meets_nil⟩
  obtain ⟨haccounted, hkept⟩ := accepted_accounted settledJob_steady hsystem
  obtain ⟨later, hlater, hsame⟩ := hkept [.ack "w"] hack hnext "j" copy hcopy (.inl hstatus)
  exact ⟨system, next, hsystem, hnext, haccounted "j" job hsubmission, later, hlater,
    hsame.trans hstatus⟩

def deadWorker : List (JobStep (List String)) :=
  [.submit "j" (submittedJob "create_full_report" "t0" []), .xadd "j" true, .setCopy "j" true,
    .startWorker "w", .readJobs "w", .crash "w"]

def lateCopy : List (JobStep (List String)) :=
  [.submit "j" (submittedJob "create_full_report" "t0" []), .xadd "j" true,
    .startWorker "w", .readJobs "w", .begin "w", .storeRunning "w" "t1", .copyRunning "w" true,
    .storeFinal "w" (.reported "t2" ["report"]), .copyFinal "w" true]

/-- Nobody goes on with the first job, and the final copy of the second is overwritten. -/
theorem job_stranded :
    (∃ system : JobSystem (List String), jobMachine.run {} deadWorker = some system ∧
      (∃ job, system.submissions "j" = some (job, .returned)) ∧ ¬ system.Accounted "j") ∧
    ((jobMachine.run {} lateCopy).bind fun system => (system.redis "j").map JobCopy.status) =
      some .completed ∧
    ((jobMachine.run {} (lateCopy ++ [.setCopy "j" true])).bind fun system =>
      (system.redis "j").map JobCopy.status) = some .pending := by
  refine ⟨⟨_, rfl, ⟨_, rfl⟩, fun haccounted => ?_⟩, by decide, by decide⟩
  cases haccounted with
  | finished hfinished =>
      obtain ⟨copy, hcopy, hterminal⟩ := hfinished
      obtain rfl := Option.some.inj hcopy
      exact absurd hterminal (by decide)
  | @held name worker hworker =>
      by_cases hname : name = "w"
      · subst hname
        cases hworker
      · have hnone :
            Function.update (Function.update (Function.update (fun _ => none) "w" (some {}))
            "w" _) "w" none name = some worker := hworker
        rw [Function.update_of_ne hname, Function.update_of_ne hname, Function.update_of_ne hname]
          at hnone
        cases hnone
  | undelivered hlater => exact absurd hlater List.not_mem_nil

end Runs

end AiAnalytics.App.Jobs
