import AiAnalytics.App.Jobs.Proof.JobDelivery

/-!
# What every run keeps

A job is early while no worker has stored its final status and one may still do so. Until then
neither store nor any status request has a terminal status for it.
-/

namespace AiAnalytics.App.Jobs

open Lib

variable {Json : Type} {system next : JobSystem Json} {step : JobStep Json}

section Early

theorem Job.terminal_finished {job : Job Json} (jobId startedAt : String) (outcome : Outcome Json) :
    (job.finished jobId startedAt outcome).status.Terminal := by
  cases outcome with
  | reported => exact .inl rfl
  | raised => exact .inr rfl

theorem Stage.not_early_ack : ¬ (Stage.ack : Stage Json).Early := id

theorem Stage.not_early_copyFinal {job : Job Json} : ¬ (Stage.copyFinal job).Early := id

theorem not_early_of_current (hexclusive : system.group.Exclusive)
    (hcreated : ∀ jobId job, system.submissions jobId = some (job, .created) →
      jobId ∉ system.group.entries)
    {name jobId : String} {stage : Stage Json} {batch : List (String × JobMessage Json)}
    (hworker : system.workers name = some ⟨some (jobId, stage), batch⟩) (hstage : ¬ stage.Early) :
    ¬ system.Early jobId := by
  have hheld : system.group.held name = jobId :: batch.map Prod.fst := held_of_worker hworker
  have hmem : jobId ∈ system.group.held name := by
    rw [hheld]
    exact List.mem_cons_self
  intro hearly
  cases hearly with
  | submitted hsubmission =>
      exact hcreated _ _ hsubmission
        (List.mem_of_mem_take (hexclusive.held_delivered name jobId hmem))
  | undelivered hlater => exact hexclusive.not_mem_undelivered hmem hlater
  | @held other worker hother hworkerEarly =>
      by_cases hsame : other = name
      · subst hsame
        obtain rfl : worker = ⟨some (jobId, stage), batch⟩ :=
          Option.some.inj (hother.symm.trans hworker)
        rcases hworkerEarly with hbatch | ⟨early, hcurrent, hearlyStage⟩
        · have hnodup := hexclusive.held_nodup other
          rw [hheld] at hnodup
          exact (List.nodup_cons.mp hnodup).1 hbatch
        · obtain ⟨-, rfl⟩ : jobId = jobId ∧ stage = early := by simpa using hcurrent
          exact hstage hearlyStage
      · refine hexclusive.apart other name hsame jobId ?_ hmem
        rw [held_of_worker hother]
        exact Worker.mem_ids_of_early hworkerEarly

variable [EmptyCollection Json]

theorem undelivered_step (hmoves : Moves system step next) {jobId : String}
    (h : jobId ∈ next.group.undelivered) :
    jobId ∈ system.group.undelivered ∨ ∃ job, system.submissions jobId = some (job, .created) := by
  cases hmoves with
  | @xadd queued job hcreated =>
      have hlog : jobId ∈ ((system.stream ++ [(queued, job.message)]).map Prod.fst).drop
          system.delivered := h
      rw [List.map_append, List.drop_append] at hlog
      rcases List.mem_append.mp hlog with hold | hnew
      · exact .inl hold
      · obtain rfl := List.mem_singleton.mp (List.mem_of_mem_drop hnew)
        exact .inr ⟨job, hcreated⟩
  | readJobs hworker =>
      rw [group_readJobs hworker, ConsumerGroup.undelivered_read] at h
      exact .inl (List.mem_of_mem_drop h)
  | @setCopy _ _ reached | @copyRunning _ _ _ _ _ reached | @copyFinal _ _ _ _ reached =>
      cases reached <;> exact .inl h
  | @writeRepo number other found copy =>
      have hgroup : (writeBack system ⟨other, found, some copy⟩ copy).group = system.group :=
        group_writeBack
      have hbefore : jobId ∈ (writeBack system ⟨other, found, some copy⟩ copy).group.undelivered :=
        h
      rw [hgroup] at hbefore
      exact .inl hbefore
  | _ => exact .inl h

omit [EmptyCollection Json] in
theorem Stage.early_of_moves {jobId : String} {before stage : Stage Json}
    (h : StageMoves system next step jobId before stage) (hstage : stage.Early) : before.Early := by
  cases h with
  | create | start | copyRunning => trivial
  | work => exact absurd hstage Stage.not_early_copyFinal
  | copyFinal => exact absurd hstage Stage.not_early_ack

theorem early_step (hmoves : Moves system step next) {jobId : String} (h : next.Early jobId) :
    system.Early jobId ∨ ∃ job, step = .submit jobId job := by
  cases h with
  | @submitted job hsubmission =>
      rcases submissions_step hmoves with hsame | ⟨other, put, stage, hput, hcase⟩
      · exact .inl (.submitted (hsame ▸ hsubmission))
      · by_cases hother : jobId = other
        · subst hother
          rw [hput, Function.update_self] at hsubmission
          cases hsubmission
          rcases hcase with ⟨-, hstep, -⟩ | ⟨hstage, -⟩
          · exact .inr ⟨job, hstep⟩
          · exact absurd rfl hstage
        · rw [hput, Function.update_of_ne hother] at hsubmission
          exact .inl (.submitted hsubmission)
  | undelivered hlater =>
      rcases undelivered_step hmoves hlater with hold | ⟨job, hcreated⟩
      · exact .inl (.undelivered hold)
      · exact .inl (.submitted hcreated)
  | @held name worker hworker hearly =>
      rcases hearly with hbatch | ⟨stage, hcurrent, hstage⟩
      · rcases batch_step hmoves hworker hbatch with hlater | ⟨before, hbefore, hmem⟩
        · exact .inl (.undelivered hlater)
        · exact .inl (.held hbefore (.inl hmem))
      · obtain ⟨current, batch⟩ := worker
        obtain rfl : current = some (jobId, stage) := hcurrent
        rcases current_step hmoves hworker with hold | ⟨message, hbefore, -, -⟩
          | ⟨before, hbefore, hmove⟩
        · exact .inl (.held hold (.inr ⟨stage, rfl, hstage⟩))
        · exact .inl (.held hbefore (.inl List.mem_cons_self))
        · exact .inl (.held hbefore (.inr ⟨before, rfl, Stage.early_of_moves hmove hstage⟩))

end Early

section Invariant

variable [EmptyCollection Json]

omit [EmptyCollection Json] in
theorem Known.open_of_new (h : Known system) {jobId : String} (hnew : system.repo jobId = none) :
    system.Open jobId where
  repo := by
    intro job hjob
    rw [hnew] at hjob
    cases hjob
  redis := by
    intro copy hcopy
    have hstored := h.copied jobId copy hcopy
    rw [hnew] at hstored
    cases hstored
  readers := by
    rintro number reader copy hreader rfl hcopy
    have hstored := h.read number reader copy hreader hcopy
    rw [hnew] at hstored
    cases hstored

theorem beginStage_of_stored {jobId : String} {job : Job Json}
    {message : JobMessage Json} (hstored : system.repo jobId = some job) :
    beginStage system jobId message = if job.status.Terminal then .ack else .start job := by
  rw [beginStage, hstored]

def JobSystem.Found (system : JobSystem Json) : Prop :=
  ∀ name jobId job batch, system.workers name ≠ some ⟨some (jobId, .create job), batch⟩

theorem found_step (h : system.Found) (hknown : Known system) (hexclusive : system.group.Exclusive)
    (hmoves : Moves system step next) : next.Found := by
  intro name jobId job batch hworker
  rcases current_step hmoves hworker with hold | ⟨message, hbefore, hbegin, -⟩ | ⟨before, -, hmove⟩
  · exact h name jobId job batch hold
  · have hheld : jobId ∈ system.group.held name := by
      rw [held_of_worker hbefore]
      exact List.mem_cons_self
    have hstored := hknown.queued jobId
      (List.mem_of_mem_take (hexclusive.held_delivered name jobId hheld))
    obtain ⟨stored, hrepo⟩ := Option.isSome_iff_exists.mp hstored
    rw [beginStage_of_stored hrepo] at hbegin
    split_ifs at hbegin
  · generalize hafter : Stage.create job = after at hmove
    cases hmove with
    | create => split_ifs at hafter
    | start | copyRunning | work | copyFinal => cases hafter

structure JobInv (system : JobSystem Json) : Prop where
  exclusive : system.group.Exclusive
  known : Known system
  found : system.Found
  early : ∀ jobId, system.Early jobId → system.Open jobId

omit [EmptyCollection Json] in
theorem JobInv.not_early (h : JobInv system) {name jobId : String} {stage : Stage Json}
    {batch : List (String × JobMessage Json)}
    (hworker : system.workers name = some ⟨some (jobId, stage), batch⟩) (hstage : ¬ stage.Early) :
    ¬ system.Early jobId :=
  not_early_of_current h.exclusive h.known.created hworker hstage

omit [EmptyCollection Json] in
theorem JobInv.stored (h : JobInv system) {name jobId : String} {stage : Stage Json}
    {batch : List (String × JobMessage Json)}
    (hworker : system.workers name = some ⟨some (jobId, stage), batch⟩) :
    ∃ job, system.repo jobId = some job :=
  Option.isSome_iff_exists.mp (h.known.held h.exclusive hworker)

theorem open_step (h : JobInv system) (hmoves : Moves system step next)
    (hexclusive : next.group.Exclusive) (hknown : Known next) {jobId : String}
    (hearly : next.Early jobId) : next.Open jobId := by
  have hbefore : system.Open jobId := by
    rcases early_step hmoves hearly with hsystem | ⟨job, rfl⟩
    · exact h.early jobId hsystem
    · cases hmoves with
      | submit _ hnew => exact h.known.open_of_new hnew
  refine ⟨?_, ?_, ?_⟩
  · intro job hjob
    rcases repo_step hmoves with hsame | ⟨other, put, hput, hcase⟩
    · exact hbefore.repo job (hsame ▸ hjob)
    · by_cases hother : jobId = other
      · subst hother
        rw [hput, Function.update_self] at hjob
        obtain rfl := Option.some.inj hjob
        rcases hcase with ⟨-, hpending, -⟩ | ⟨name, batch, stage, hworker, hstage⟩ |
          ⟨number, found, copy, -, hreader, rfl, -⟩
        · rw [hpending]
          decide
        · rcases hstage with rfl | ⟨before, startedAt, -, rfl⟩
            | ⟨before, startedAt, outcome, -, -, hfinal⟩
          · exact absurd hworker (h.found name jobId _ batch)
          · exact (by decide : ¬ JobStatus.running.Terminal)
          · exact absurd hearly
              (not_early_of_current hexclusive hknown.created hfinal Stage.not_early_copyFinal)
        · exact hbefore.readers number _ copy hreader rfl rfl
      · rw [hput, Function.update_of_ne hother] at hjob
        exact hbefore.repo job hjob
  · intro copy hcopy
    rcases redis_step hmoves with hsame | ⟨other, hgone⟩ | ⟨other, put, hput, hcase⟩
    · exact hbefore.redis copy (hsame ▸ hcopy)
    · by_cases hother : jobId = other
      · rw [hgone, hother, Function.update_self] at hcopy
        cases hcopy
      · rw [hgone, Function.update_of_ne hother] at hcopy
        exact hbefore.redis copy hcopy
    · by_cases hother : jobId = other
      · subst hother
        rw [hput, Function.update_self] at hcopy
        obtain rfl := Option.some.inj hcopy
        rcases hcase with ⟨job, hqueued, rfl⟩ | ⟨name, batch, stage, hworker, hstage⟩
        · show ¬ job.status.Terminal
          rw [h.known.pending jobId job _ hqueued]
          decide
        · rcases hstage with ⟨job, startedAt, -, rfl⟩ | ⟨job, rfl, rfl, -⟩
          · exact (by decide : ¬ JobStatus.running.Terminal)
          · have hlate := h.not_early hworker Stage.not_early_copyFinal
            rcases early_step hmoves hearly with hsystem | ⟨submitted, rfl⟩
            · exact absurd hsystem hlate
            · obtain ⟨stored, hstored⟩ := h.stored hworker
              cases hmoves with
              | submit _ hnew =>
                  rw [hnew] at hstored
                  cases hstored
      · rw [hput, Function.update_of_ne hother] at hcopy
        exact hbefore.redis copy hcopy
  · rintro number reader copy hreader rfl hcopy
    rcases readers_step hmoves with hsame | ⟨other, put, hput, hread⟩
    · exact hbefore.readers number reader copy (hsame ▸ hreader) rfl hcopy
    · by_cases hother : number = other
      · rw [hput, hother, Function.update_self] at hreader
        exact hbefore.redis copy (hread reader copy hreader hcopy)
      · rw [hput, Function.update_of_ne hother] at hreader
        exact hbefore.readers number reader copy hreader rfl hcopy

theorem jobInv_step (h : JobInv system) (hmoves : Moves system step next) : JobInv next := by
  have hexclusive := exclusive_step h.exclusive h.known.created hmoves
  have hknown := known_step h.known h.exclusive hmoves
  exact {
    exclusive := hexclusive
    known := hknown
    found := found_step h.found h.known h.exclusive hmoves
    early := fun _ hearly => open_step h hmoves hexclusive hknown hearly }

omit [EmptyCollection Json] in
theorem jobInv_start : JobInv ({} : JobSystem Json) where
  exclusive := {
    entries := List.nodup_nil
    delivered_le := Nat.le_refl 0
    held_nodup := fun _ => List.nodup_nil
    held_delivered := fun _ _ hheld => absurd hheld List.not_mem_nil
    apart := fun _ _ _ _ hheld => absurd hheld List.not_mem_nil }
  known := {
    submitted := by rintro _ _ ⟨⟩
    pending := by rintro _ _ _ ⟨⟩
    queued := fun _ hentry => absurd hentry List.not_mem_nil
    copied := by rintro _ _ ⟨⟩
    read := by rintro _ _ _ ⟨⟩
    created := by rintro _ _ ⟨⟩ }
  found := by rintro _ _ _ _ ⟨⟩
  early := by
    intro jobId _
    exact ⟨by rintro _ ⟨⟩, by rintro _ ⟨⟩, by rintro _ _ _ ⟨⟩⟩

end Invariant

end AiAnalytics.App.Jobs
