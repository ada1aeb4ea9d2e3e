import AiAnalytics.App.Jobs.JobSystem
import AiAnalytics.Lib.ConsumerGroup
import Mathlib.Tactic.Common

/-!
# Where a job is

What each step can do, and what holds of every run of the job system: a message is in at most one
place, and until a worker stores the final status of a job, neither store nor any status request has
a terminal status for it.
-/

namespace AiAnalytics.App.Jobs

open Lib

variable {Json : Type}

section Steps

variable [EmptyCollection Json]

inductive Moves (system : JobSystem Json) : JobStep Json → JobSystem Json → Prop
  | submit {jobId job} (hpending : job.status = .pending) (hnew : system.repo jobId = none) :
      Moves system (.submit jobId job)
        ((system.putJob jobId job).putSubmission jobId job .created)
  | xadd {jobId job} (hcreated : system.submissions jobId = some (job, .created)) :
      Moves system (.xadd jobId true)
        { system.putSubmission jobId job .queued with
          stream := system.stream ++ [(jobId, job.message)] }
  | xaddLost {jobId job} (hcreated : system.submissions jobId = some (job, .created)) :
      Moves system (.xadd jobId false) (system.putSubmission jobId job .returned)
  | setCopy {jobId job reached} (hqueued : system.submissions jobId = some (job, .queued)) :
      Moves system (.setCopy jobId reached)
        ((system.putCopy jobId job.copy reached).putSubmission jobId job .returned)
  | startWorker {name} (hnone : system.workers name = none) :
      Moves system (.startWorker name) (system.putWorker name (some {}))
  | crash {name worker} (hworker : system.workers name = some worker) :
      Moves system (.crash name) (system.putWorker name none)
  | readJobs {name} (hworker : system.workers name = some ⟨none, []⟩) :
      Moves system (.readJobs name)
        { system.putWorker name
            (some { batch := (system.stream.drop system.delivered).take readCount }) with
          delivered := system.delivered +
            ((system.stream.drop system.delivered).take readCount).length }
  | begin {name jobId message batch}
      (hworker : system.workers name = some ⟨none, (jobId, message) :: batch⟩) :
      Moves system (.begin name)
        (system.advance name { batch } jobId (beginStage system jobId message))
  | createTaken {name batch jobId job stored}
      (hworker : system.workers name = some ⟨some (jobId, .create job), batch⟩)
      (hstored : system.repo jobId = some stored) :
      Moves system (.createJob name) (system.putWorker name none)
  | createJob {name batch jobId job}
      (hworker : system.workers name = some ⟨some (jobId, .create job), batch⟩)
      (hnew : system.repo jobId = none) :
      Moves system (.createJob name)
        ((system.putJob jobId job).advance name ⟨some (jobId, .create job), batch⟩ jobId
          (if job.status.Terminal then .ack else .start job))
  | storeRunningMissing {name batch jobId job startedAt}
      (hworker : system.workers name = some ⟨some (jobId, .start job), batch⟩)
      (hmissing : system.repo jobId = none) :
      Moves system (.storeRunning name startedAt) (system.putWorker name none)
  | storeRunning {name batch jobId job startedAt stored}
      (hworker : system.workers name = some ⟨some (jobId, .start job), batch⟩)
      (hstored : system.repo jobId = some stored) :
      Moves system (.storeRunning name startedAt)
        ((system.putJob jobId (job.running startedAt)).advance name
          ⟨some (jobId, .start job), batch⟩ jobId (.copyRunning job startedAt))
  | copyRunning {name batch jobId job startedAt reached}
      (hworker : system.workers name = some ⟨some (jobId, .copyRunning job startedAt), batch⟩) :
      Moves system (.copyRunning name reached)
        ((system.putCopy jobId (job.running startedAt).copy reached).advance name
          ⟨some (jobId, .copyRunning job startedAt), batch⟩ jobId (.work job startedAt))
  | storeFinalMissing {name batch jobId job startedAt outcome}
      (hworker : system.workers name = some ⟨some (jobId, .work job startedAt), batch⟩)
      (hmissing : system.repo jobId = none) :
      Moves system (.storeFinal name outcome) (system.putWorker name none)
  | storeFinal {name batch jobId job startedAt outcome stored}
      (hworker : system.workers name = some ⟨some (jobId, .work job startedAt), batch⟩)
      (hstored : system.repo jobId = some stored) :
      Moves system (.storeFinal name outcome)
        ((system.putJob jobId (job.finished jobId startedAt outcome)).advance name
          ⟨some (jobId, .work job startedAt), batch⟩ jobId
          (.copyFinal (job.finished jobId startedAt outcome)))
  | copyFinal {name batch jobId job reached}
      (hworker : system.workers name = some ⟨some (jobId, .copyFinal job), batch⟩) :
      Moves system (.copyFinal name reached)
        ((system.putCopy jobId job.copy reached).advance name
          ⟨some (jobId, .copyFinal job), batch⟩ jobId .ack)
  | ack {name batch jobId} (hworker : system.workers name = some ⟨some (jobId, .ack), batch⟩) :
      Moves system (.ack name) (system.putWorker name (some { batch }))
  | readFinal {number jobId} : Moves system (.readRepo number jobId) system
  | readRepo {number jobId found} (hfree : system.readers number = none) :
      Moves system (.readRepo number jobId) (system.putReader number (some { jobId, found }))
  | readNothing {number reader} (hreader : system.readers number = some reader) :
      Moves system (.readCopy number) (system.putReader number none)
  | readCopy {number jobId found copy} (hreader : system.readers number = some ⟨jobId, found, none⟩)
      (hcopy : system.redis jobId = some copy) :
      Moves system (.readCopy number)
        (system.putReader number (some { jobId, found, copy := some copy }))
  | writeRepo {number jobId found copy}
      (hreader : system.readers number = some ⟨jobId, found, some copy⟩) :
      Moves system (.writeRepo number)
        ((writeBack system ⟨jobId, found, some copy⟩ copy).putReader number none)
  | expire {jobId} :
      Moves system (.expire jobId)
        { system with redis := Function.update system.redis jobId none }

variable {system next : JobSystem Json} {step : JobStep Json}

theorem moves_of_stageStep {name jobId : String} {stage : Stage Json}
    {batch : List (String × JobMessage Json)} (hname : step.worker = some name)
    (hworker : system.workers name = some ⟨some (jobId, stage), batch⟩)
    (h : stageStep system name ⟨some (jobId, stage), batch⟩ jobId stage step = some next) :
    Moves system step next := by
  cases stage with
  | create job =>
      cases step <;> simp only [stageStep, reduceCtorEq] at h
      obtain rfl := Option.some.inj hname
      cases hrepo : system.repo jobId with
      | none =>
          simp only [hrepo] at h
          obtain rfl := Option.some.inj h
          exact .createJob hworker hrepo
      | some stored =>
          simp only [hrepo] at h
          obtain rfl := Option.some.inj h
          exact .createTaken hworker hrepo
  | start job =>
      cases step <;> simp only [stageStep, reduceCtorEq] at h
      obtain rfl := Option.some.inj hname
      cases hrepo : system.repo jobId with
      | none =>
          simp only [hrepo] at h
          obtain rfl := Option.some.inj h
          exact .storeRunningMissing hworker hrepo
      | some stored =>
          simp only [hrepo] at h
          obtain rfl := Option.some.inj h
          exact .storeRunning hworker hrepo
  | copyRunning job startedAt =>
      cases step <;> simp only [stageStep, reduceCtorEq] at h
      obtain rfl := Option.some.inj hname
      obtain rfl := Option.some.inj h
      exact .copyRunning hworker
  | work job startedAt =>
      cases step <;> simp only [stageStep, reduceCtorEq] at h
      obtain rfl := Option.some.inj hname
      split_ifs at h
      cases hrepo : system.repo jobId with
      | none =>
          simp only [hrepo] at h
          obtain rfl := Option.some.inj h
          exact .storeFinalMissing hworker hrepo
      | some stored =>
          simp only [hrepo] at h
          obtain rfl := Option.some.inj h
          exact .storeFinal hworker hrepo
  | copyFinal job =>
      cases step <;> simp only [stageStep, reduceCtorEq] at h
      obtain rfl := Option.some.inj hname
      obtain rfl := Option.some.inj h
      exact .copyFinal hworker
  | ack =>
      cases step <;> simp only [stageStep, reduceCtorEq] at h
      obtain rfl := Option.some.inj hname
      obtain rfl := Option.some.inj h
      exact .ack hworker

theorem moves_of_worker {name : String} (hname : step.worker = some name)
    (h : (do
      let name ← step.worker
      let worker ← system.workers name
      let (jobId, stage) ← worker.current
      stageStep system name worker jobId stage step) = some next) : Moves system step next := by
  rw [hname, Option.bind_eq_bind, Option.bind_some, Option.bind_eq_bind,
    Option.bind_eq_some_iff] at h
  obtain ⟨⟨current, batch⟩, hworker, h⟩ := h
  rw [Option.bind_eq_bind, Option.bind_eq_some_iff] at h
  obtain ⟨⟨jobId, stage⟩, hcurrent, h⟩ := h
  obtain rfl : current = some (jobId, stage) := hcurrent
  exact moves_of_stageStep hname hworker h

theorem moves_of_step (h : jobStep system step = some next) : Moves system step next := by
  cases step with
  | submit jobId job =>
      simp only [jobStep] at h
      split_ifs at h with hnew
      obtain rfl := Option.some.inj h
      exact .submit hnew.1 hnew.2
  | xadd jobId reached =>
      simp only [jobStep] at h
      split at h
      · rename_i job hcreated
        cases reached with
        | true =>
            obtain rfl := Option.some.inj h
            exact .xadd hcreated
        | false =>
            obtain rfl := Option.some.inj h
            exact .xaddLost hcreated
      · cases h
  | setCopy jobId reached =>
      simp only [jobStep] at h
      split at h
      · rename_i job hqueued
        obtain rfl := Option.some.inj h
        exact .setCopy hqueued
      · cases h
  | startWorker name =>
      simp only [jobStep] at h
      split at h
      · rename_i hnone
        obtain rfl := Option.some.inj h
        exact .startWorker hnone
      · cases h
  | crash name =>
      obtain ⟨worker, hworker, rfl⟩ := Option.map_eq_some_iff.mp h
      exact .crash hworker
  | readJobs name =>
      simp only [jobStep] at h
      split at h
      · rename_i hworker
        obtain rfl := Option.some.inj h
        exact .readJobs hworker
      · cases h
  | begin name =>
      simp only [jobStep] at h
      split at h
      · rename_i jobId message batch hworker
        obtain rfl := Option.some.inj h
        exact .begin hworker
      · cases h
  | readRepo number jobId =>
      simp only [jobStep] at h
      split at h
      · rename_i job hfree hstored
        split_ifs at h with hterminal
        · obtain rfl := Option.some.inj h
          exact .readFinal
        · obtain rfl := Option.some.inj h
          exact .readRepo hfree
      · rename_i hfree hmissing
        obtain rfl := Option.some.inj h
        exact .readRepo hfree
      · cases h
  | readCopy number =>
      simp only [jobStep] at h
      split at h
      · rename_i jobId found hreader
        split at h
        · obtain rfl := Option.some.inj h
          exact .readNothing hreader
        · rename_i copy hcopy
          obtain rfl := Option.some.inj h
          exact .readCopy hreader hcopy
      · cases h
  | writeRepo number =>
      simp only [jobStep] at h
      split at h
      · rename_i jobId found copy hreader
        obtain rfl := Option.some.inj h
        exact .writeRepo hreader
      · cases h
  | expire jobId =>
      obtain rfl := Option.some.inj h
      exact .expire
  | createJob name => exact moves_of_worker rfl h
  | storeRunning name startedAt => exact moves_of_worker rfl h
  | copyRunning name reached => exact moves_of_worker rfl h
  | storeFinal name outcome => exact moves_of_worker rfl h
  | copyFinal name reached => exact moves_of_worker rfl h
  | ack name => exact moves_of_worker rfl h

end Steps

section Places

def Stage.Early : Stage Json → Prop
  | .create _ | .start _ | .copyRunning .. | .work .. => True
  | .copyFinal _ | .ack => False

def Worker.ids (worker : Worker Json) : List String :=
  (worker.current.map Prod.fst).toList ++ worker.batch.map Prod.fst

def Worker.Early (worker : Worker Json) (jobId : String) : Prop :=
  jobId ∈ worker.batch.map Prod.fst ∨ ∃ stage, worker.current = some (jobId, stage) ∧ stage.Early

def JobSystem.group (system : JobSystem Json) : ConsumerGroup String String where
  entries := system.stream.map Prod.fst
  delivered := system.delivered
  held := fun name => ((system.workers name).map Worker.ids).getD []

inductive JobSystem.Early (system : JobSystem Json) (jobId : String) : Prop
  | submitted {job} (h : system.submissions jobId = some (job, .created))
  | undelivered (h : jobId ∈ system.group.undelivered)
  | held {name worker} (h : system.workers name = some worker) (hearly : worker.Early jobId)

structure JobSystem.Open (system : JobSystem Json) (jobId : String) : Prop where
  repo : ∀ job, system.repo jobId = some job → ¬ job.status.Terminal
  redis : ∀ copy, system.redis jobId = some copy → ¬ copy.status.Terminal
  readers : ∀ number reader copy, system.readers number = some reader → reader.jobId = jobId →
    reader.copy = some copy → ¬ copy.status.Terminal

variable {system : JobSystem Json} {name jobId : String} {worker : Worker Json}

theorem Worker.mem_ids_of_early (h : worker.Early jobId) : jobId ∈ worker.ids := by
  rcases h with hbatch | ⟨stage, hcurrent, -⟩
  · exact List.mem_append_right _ hbatch
  · rw [Worker.ids, hcurrent]
    exact List.mem_append_left _ (List.mem_singleton_self jobId)

theorem held_of_worker (hworker : system.workers name = some worker) :
    system.group.held name = worker.ids := by
  show ((system.workers name).map Worker.ids).getD [] = worker.ids
  rw [hworker]
  rfl

theorem exclusive_putWorker {worker : Option (Worker Json)} (h : system.group.Exclusive)
    (hids : ((worker.map Worker.ids).getD []).Sublist (system.group.held name)) :
    (system.putWorker name worker).group.Exclusive := by
  refine h.shrink rfl rfl fun consumer => ?_
  show (((Function.update system.workers name worker consumer).map Worker.ids).getD []).Sublist _
  by_cases hconsumer : consumer = name
  · rw [hconsumer, Function.update_self]
    exact hids
  · rw [Function.update_of_ne hconsumer]
    exact List.Sublist.refl _

theorem exclusive_gone (h : system.group.Exclusive) :
    (system.putWorker name none).group.Exclusive :=
  exclusive_putWorker h (List.nil_sublist _)

theorem exclusive_advance {stage next : Stage Json} {batch : List (String × JobMessage Json)}
    (h : system.group.Exclusive)
    (hworker : system.workers name = some ⟨some (jobId, stage), batch⟩) :
    (system.advance name ⟨some (jobId, stage), batch⟩ jobId next).group.Exclusive := by
  refine exclusive_putWorker h ?_
  rw [held_of_worker hworker]
  exact List.Sublist.refl _

@[simp]
theorem group_putCopy {copy : JobCopy Json} {reached : Bool} :
    (system.putCopy jobId copy reached).group = system.group := by
  cases reached <;> rfl

@[simp]
theorem workers_putCopy {copy : JobCopy Json} {reached : Bool} :
    (system.putCopy jobId copy reached).workers = system.workers := by
  cases reached <;> rfl

theorem group_xadd {job : Job Json} {stage : Submitting} :
    ({ system.putSubmission jobId job stage with
      stream := system.stream ++ [(jobId, job.message)] } : JobSystem Json).group =
      system.group.add jobId := by
  rw [ConsumerGroup.add, JobSystem.group, List.map_append]
  rfl

theorem group_readJobs (hworker : system.workers name = some ⟨none, []⟩) :
    ({ system.putWorker name
        (some { batch := (system.stream.drop system.delivered).take readCount }) with
      delivered := system.delivered +
        ((system.stream.drop system.delivered).take readCount).length } : JobSystem Json).group =
      system.group.read name readCount := by
  have htaken : ((system.stream.drop system.delivered).take readCount).map Prod.fst =
      system.group.undelivered.take readCount := by
    rw [List.map_take, List.map_drop]
    rfl
  have hidle : system.group.held name = [] := held_of_worker hworker
  have hcount : ((system.stream.drop system.delivered).take readCount).length =
      (system.group.undelivered.take readCount).length := by rw [← htaken, List.length_map]
  have hheld : (fun consumer => ((Function.update system.workers name
      (some { batch := (system.stream.drop system.delivered).take readCount }) consumer).map
        Worker.ids).getD []) =
      Function.update system.group.held name
        (system.group.held name ++ system.group.undelivered.take readCount) := by
    funext consumer
    by_cases hconsumer : consumer = name
    · rw [hconsumer, Function.update_self, Function.update_self, hidle, ← htaken]
      rfl
    · rw [Function.update_of_ne hconsumer, Function.update_of_ne hconsumer]
      rfl
  rw [ConsumerGroup.read, ← hheld, ← hcount]
  rfl

end Places

section Invariant

variable [EmptyCollection Json] {system next : JobSystem Json} {step : JobStep Json}

@[simp]
theorem group_writeBack {reader : Reader Json} {copy : JobCopy Json} :
    (writeBack system reader copy).group = system.group := by
  rw [writeBack]
  split <;> rfl

theorem exclusive_step (h : system.group.Exclusive)
    (hcreated : ∀ jobId job, system.submissions jobId = some (job, .created) →
      jobId ∉ system.group.entries)
    (hmoves : Moves system step next) : next.group.Exclusive := by
  cases hmoves with
  | submit | xaddLost | readFinal | readRepo | readNothing | readCopy | expire => exact h
  | @xadd jobId job hsubmission =>
      rw [group_xadd]
      exact h.add (hcreated jobId job hsubmission)
  | @setCopy jobId job reached =>
      show (system.putCopy jobId job.copy reached).group.Exclusive
      rw [group_putCopy]
      exact h
  | startWorker => exact exclusive_putWorker h (List.nil_sublist _)
  | crash => exact exclusive_gone h
  | readJobs hworker =>
      rw [group_readJobs hworker]
      exact h.read _ readCount
  | begin hworker =>
      refine exclusive_putWorker h ?_
      rw [held_of_worker hworker]
      exact List.Sublist.refl _
  | createTaken | storeRunningMissing | storeFinalMissing => exact exclusive_gone h
  | createJob hworker => exact exclusive_advance h hworker
  | storeRunning hworker => exact exclusive_advance h hworker
  | storeFinal hworker => exact exclusive_advance h hworker
  | @copyRunning name batch jobId job startedAt reached hworker =>
      refine exclusive_advance ?_ ?_
      · rw [group_putCopy]
        exact h
      · rw [workers_putCopy]
        exact hworker
  | @copyFinal name batch jobId job reached hworker =>
      refine exclusive_advance ?_ ?_
      · rw [group_putCopy]
        exact h
      · rw [workers_putCopy]
        exact hworker
  | ack hworker =>
      refine exclusive_putWorker h ?_
      rw [held_of_worker hworker]
      exact List.sublist_append_right _ _
  | @writeRepo number jobId found copy =>
      show (writeBack system ⟨jobId, found, some copy⟩ copy).group.Exclusive
      rw [group_writeBack]
      exact h

theorem repo_isSome_step {jobId : String} (hmoves : Moves system step next)
    (h : (system.repo jobId).isSome) : (next.repo jobId).isSome := by
  have hput (other : String) (job : Job Json) : ((system.putJob other job).repo jobId).isSome := by
    show (Function.update system.repo other (some job) jobId).isSome
    by_cases hsame : jobId = other
    · rw [hsame, Function.update_self]
      rfl
    · rwa [Function.update_of_ne hsame]
  cases hmoves with
  | submit | createJob | storeRunning | storeFinal => exact hput _ _
  | @setCopy _ _ reached | @copyRunning _ _ _ _ _ reached | @copyFinal _ _ _ _ reached =>
      cases reached <;> exact h
  | @writeRepo _ other found copy =>
      show ((writeBack system ⟨other, found, some copy⟩ copy).repo jobId).isSome
      rw [writeBack]
      split
      · exact hput _ _
      · exact hput _ _
      · exact h
  | _ => exact h

theorem submissions_step (hmoves : Moves system step next) :
    next.submissions = system.submissions ∨
      ∃ jobId job stage,
        next.submissions = Function.update system.submissions jobId (some (job, stage)) ∧
        ((stage = .created ∧ step = .submit jobId job ∧ system.repo jobId = none ∧
            next.repo jobId = some job ∧ job.status = .pending) ∨
          (stage ≠ .created ∧ ∃ before, system.submissions jobId = some (job, before) ∧
            (before = .created → jobId ∈ next.group.entries ∨ step = .xadd jobId false))) := by
  cases hmoves with
  | @submit jobId job hpending hnew =>
      exact .inr ⟨jobId, job, .created, rfl, .inl ⟨rfl, rfl, hnew,
        Function.update_self _ _ _, hpending⟩⟩
  | @xadd jobId job hcreated =>
      refine .inr ⟨jobId, job, .queued, rfl, .inr ⟨by decide, _, hcreated, fun _ => .inl ?_⟩⟩
      rw [group_xadd]
      exact List.mem_append_right _ (List.mem_singleton_self jobId)
  | @xaddLost jobId job hcreated =>
      exact .inr ⟨jobId, job, .returned, rfl, .inr ⟨by decide, _, hcreated, fun _ => .inr rfl⟩⟩
  | @setCopy jobId job reached hqueued =>
      refine .inr ⟨jobId, job, .returned, ?_, .inr ⟨by decide, _, hqueued, by rintro ⟨⟩⟩⟩
      cases reached <;> rfl
  | @copyRunning _ _ _ _ _ reached | @copyFinal _ _ _ _ reached => cases reached <;> exact .inl rfl
  | @writeRepo =>
      refine .inl ?_
      rw [writeBack]
      split <;> rfl
  | _ => exact .inl rfl

theorem entries_step (hmoves : Moves system step next) :
    next.group.entries = system.group.entries ∨
      ∃ jobId job, system.submissions jobId = some (job, .created) ∧
        next.submissions jobId = some (job, .queued) ∧ next.group = system.group.add jobId := by
  cases hmoves with
  | @xadd jobId job hcreated =>
      exact .inr ⟨jobId, job, hcreated, Function.update_self _ _ _, group_xadd⟩
  | @setCopy _ _ reached | @copyRunning _ _ _ _ _ reached | @copyFinal _ _ _ _ reached =>
      cases reached <;> exact .inl rfl
  | @writeRepo _ jobId found copy =>
      have hgroup : (writeBack system ⟨jobId, found, some copy⟩ copy).group = system.group :=
        group_writeBack
      exact .inl (congrArg ConsumerGroup.entries hgroup)
  | _ => exact .inl rfl

theorem redis_step (hmoves : Moves system step next) :
    next.redis = system.redis ∨ (∃ jobId, next.redis = Function.update system.redis jobId none) ∨
      ∃ jobId copy, next.redis = Function.update system.redis jobId (some copy) ∧
        ((∃ job, system.submissions jobId = some (job, .queued) ∧ copy = job.copy) ∨
          ∃ name batch stage, system.workers name = some ⟨some (jobId, stage), batch⟩ ∧
            ((∃ job startedAt, stage = .copyRunning job startedAt ∧
                copy = (job.running startedAt).copy) ∨
              ∃ job, stage = .copyFinal job ∧ copy = job.copy ∧
                next.workers name = some ⟨some (jobId, .ack), batch⟩)) := by
  cases hmoves with
  | @setCopy jobId job reached hqueued =>
      cases reached with
      | false => exact .inl rfl
      | true => exact .inr (.inr ⟨jobId, job.copy, rfl, .inl ⟨job, hqueued, rfl⟩⟩)
  | @copyRunning name batch jobId job startedAt reached hworker =>
      cases reached with
      | false => exact .inl rfl
      | true =>
        exact .inr (.inr ⟨jobId, _, rfl, .inr ⟨name, batch, _, hworker, .inl ⟨job, _, rfl, rfl⟩⟩⟩)
  | @copyFinal name batch jobId job reached hworker =>
      cases reached with
      | false => exact .inl rfl
      | true =>
          have hafter : Function.update system.workers name (some ⟨some (jobId, .ack), batch⟩)
              name = some ⟨some (jobId, .ack), batch⟩ := Function.update_self _ _ _
          exact .inr (.inr ⟨jobId, _, rfl,
            .inr ⟨name, batch, _, hworker, .inr ⟨job, rfl, rfl, hafter⟩⟩⟩)
  | @expire jobId => exact .inr (.inl ⟨jobId, rfl⟩)
  | @writeRepo =>
      refine .inl ?_
      rw [writeBack]
      split <;> rfl
  | _ => exact .inl rfl

theorem readers_step (hmoves : Moves system step next) :
    next.readers = system.readers ∨ ∃ number reader,
      next.readers = Function.update system.readers number reader ∧
        ∀ read copy, reader = some read → read.copy = some copy →
          system.redis read.jobId = some copy := by
  cases hmoves with
  | @readRepo number jobId found =>
      refine .inr ⟨number, _, rfl, ?_⟩
      rintro _ copy ⟨⟩ hcopy
      cases hcopy
  | @readNothing number => exact .inr ⟨number, none, rfl, by rintro _ _ ⟨⟩⟩
  | @readCopy number jobId found copy hreader hcopy =>
      refine .inr ⟨number, _, rfl, ?_⟩
      rintro _ _ ⟨⟩ ⟨⟩
      exact hcopy
  | @writeRepo number jobId found copy =>
      refine .inr ⟨number, none, ?_, by rintro _ _ ⟨⟩⟩
      rw [writeBack]
      split <;> rfl
  | @setCopy _ _ reached | @copyRunning _ _ _ _ _ reached | @copyFinal _ _ _ _ reached =>
      cases reached <;> exact .inl rfl
  | _ => exact .inl rfl

structure Known (system : JobSystem Json) : Prop where
  submitted : ∀ jobId entry, system.submissions jobId = some entry → (system.repo jobId).isSome
  pending : ∀ jobId job stage, system.submissions jobId = some (job, stage) → job.status = .pending
  queued : ∀ jobId ∈ system.group.entries, (system.repo jobId).isSome
  copied : ∀ jobId copy, system.redis jobId = some copy → (system.repo jobId).isSome
  read : ∀ number reader copy, system.readers number = some reader → reader.copy = some copy →
    (system.repo reader.jobId).isSome
  created : ∀ jobId job, system.submissions jobId = some (job, .created) →
    jobId ∉ system.group.entries

omit [EmptyCollection Json] in
theorem Known.held (h : Known system) (hexclusive : system.group.Exclusive) {name jobId : String}
    {stage : Stage Json} {batch : List (String × JobMessage Json)}
    (hworker : system.workers name = some ⟨some (jobId, stage), batch⟩) :
    (system.repo jobId).isSome := by
  refine h.queued jobId (List.mem_of_mem_take (hexclusive.held_delivered name jobId ?_))
  rw [held_of_worker hworker]
  exact List.mem_cons_self

theorem known_step (h : Known system) (hexclusive : system.group.Exclusive)
    (hmoves : Moves system step next) : Known next where
  submitted := by
    intro jobId entry hentry
    rcases submissions_step hmoves with hsame | ⟨other, job, stage, hput, hcase⟩
    · exact repo_isSome_step hmoves (h.submitted jobId entry (hsame ▸ hentry))
    · by_cases hother : jobId = other
      · subst hother
        rcases hcase with ⟨-, -, -, hstored, -⟩ | ⟨-, before, hbefore, -⟩
        · exact Option.isSome_of_eq_some hstored
        · exact repo_isSome_step hmoves (h.submitted jobId _ hbefore)
      · rw [hput, Function.update_of_ne hother] at hentry
        exact repo_isSome_step hmoves (h.submitted jobId entry hentry)
  pending := by
    intro jobId job stage hentry
    rcases submissions_step hmoves with hsame | ⟨other, put, putStage, hput, hcase⟩
    · exact h.pending jobId job stage (hsame ▸ hentry)
    · by_cases hother : jobId = other
      · subst hother
        rw [hput, Function.update_self] at hentry
        cases hentry
        rcases hcase with ⟨-, -, -, -, hpending⟩ | ⟨-, before, hbefore, -⟩
        · exact hpending
        · exact h.pending jobId _ before hbefore
      · rw [hput, Function.update_of_ne hother] at hentry
        exact h.pending jobId job stage hentry
  queued := by
    intro jobId hmem
    rcases entries_step hmoves with hsame | ⟨other, job, hcreated, -, hadded⟩
    · exact repo_isSome_step hmoves (h.queued jobId (hsame ▸ hmem))
    · rw [hadded] at hmem
      rcases List.mem_append.mp hmem with hold | hnew
      · exact repo_isSome_step hmoves (h.queued jobId hold)
      · obtain rfl := List.mem_singleton.mp hnew
        exact repo_isSome_step hmoves (h.submitted jobId _ hcreated)
  copied := by
    intro jobId copy hcopy
    refine repo_isSome_step hmoves ?_
    rcases redis_step hmoves with hsame | ⟨other, hgone⟩ | ⟨other, written, hput, hcase⟩
    · exact h.copied jobId copy (hsame ▸ hcopy)
    · by_cases hother : jobId = other
      · rw [hgone, hother, Function.update_self] at hcopy
        cases hcopy
      · rw [hgone, Function.update_of_ne hother] at hcopy
        exact h.copied jobId copy hcopy
    · by_cases hother : jobId = other
      · subst hother
        rcases hcase with ⟨job, hqueued, -⟩ | ⟨name, batch, stage, hworker, -⟩
        · exact h.submitted jobId _ hqueued
        · exact h.held hexclusive hworker
      · rw [hput, Function.update_of_ne hother] at hcopy
        exact h.copied jobId copy hcopy
  read := by
    intro number reader copy hreader hcopy
    refine repo_isSome_step hmoves ?_
    rcases readers_step hmoves with hsame | ⟨other, put, hput, hread⟩
    · exact h.read number reader copy (hsame ▸ hreader) hcopy
    · by_cases hother : number = other
      · rw [hput, hother, Function.update_self] at hreader
        exact h.copied _ copy (hread reader copy hreader hcopy)
      · rw [hput, Function.update_of_ne hother] at hreader
        exact h.read number reader copy hreader hcopy
  created := by
    intro jobId job hcreated hmem
    have hbefore : system.submissions jobId = some (job, .created) ∨ system.repo jobId = none := by
      rcases submissions_step hmoves with hsame | ⟨other, put, stage, hput, hcase⟩
      · exact .inl (hsame ▸ hcreated)
      · by_cases hother : jobId = other
        · subst hother
          rcases hcase with ⟨-, -, hnew, -⟩ | ⟨hstage, -⟩
          · exact .inr hnew
          · rw [hput, Function.update_self] at hcreated
            cases hcreated
            exact absurd rfl hstage
        · rw [hput, Function.update_of_ne hother] at hcreated
          exact .inl hcreated
    have hold : jobId ∈ system.group.entries := by
      rcases entries_step hmoves with hsame | ⟨other, put, -, hqueued, hadded⟩
      · exact hsame ▸ hmem
      · rw [hadded] at hmem
        rcases List.mem_append.mp hmem with hold | hnew
        · exact hold
        · obtain rfl := List.mem_singleton.mp hnew
          rw [hqueued] at hcreated
          cases hcreated
    rcases hbefore with hcreated | hmissing
    · exact h.created jobId job hcreated hold
    · have hstored := h.queued jobId hold
      rw [hmissing] at hstored
      cases hstored

theorem repo_step (hmoves : Moves system step next) :
    next.repo = system.repo ∨ ∃ jobId job, next.repo = Function.update system.repo jobId
      (some job) ∧ ((step = .submit jobId job ∧ job.status = .pending ∧ system.repo jobId = none) ∨
        (∃ name batch stage, system.workers name = some ⟨some (jobId, stage), batch⟩ ∧
          (stage = .create job ∨
            (∃ before startedAt, stage = .start before ∧ job = before.running startedAt) ∨
            ∃ before startedAt outcome, stage = .work before startedAt ∧
              job = before.finished jobId startedAt outcome ∧
              next.workers name = some ⟨some (jobId, .copyFinal job), batch⟩)) ∨
        ∃ number found copy, step = .writeRepo number ∧
          system.readers number = some ⟨jobId, found, some copy⟩ ∧ job = copy.job ∧
          found = (system.repo jobId).isSome) := by
  cases hmoves with
  | @submit jobId job hpending hnew => exact .inr ⟨jobId, job, rfl, .inl ⟨rfl, hpending, hnew⟩⟩
  | @createJob name batch jobId job hworker =>
      exact .inr ⟨jobId, job, rfl, .inr (.inl ⟨name, batch, _, hworker, .inl rfl⟩)⟩
  | @storeRunning name batch jobId job startedAt stored hworker =>
      exact .inr ⟨jobId, _, rfl,
        .inr (.inl ⟨name, batch, _, hworker, .inr (.inl ⟨job, startedAt, rfl, rfl⟩)⟩)⟩
  | @storeFinal name batch jobId job startedAt outcome stored hworker =>
      exact .inr ⟨jobId, _, rfl, .inr (.inl ⟨name, batch, _, hworker,
        .inr (.inr ⟨job, startedAt, outcome, rfl, rfl, Function.update_self _ _ _⟩)⟩)⟩
  | @setCopy _ _ reached | @copyRunning _ _ _ _ _ reached | @copyFinal _ _ _ _ reached =>
      cases reached <;> exact .inl rfl
  | @writeRepo number jobId found copy hreader =>
      cases found with
      | true =>
          cases hrepo : system.repo jobId with
          | none =>
              refine .inl ?_
              simp only [writeBack, hrepo]
              rfl
          | some stored =>
              refine .inr ⟨jobId, copy.job, ?_,
                .inr (.inr ⟨number, true, copy, rfl, hreader, rfl, ?_⟩)⟩
              · simp only [writeBack, hrepo]
                rfl
              · rw [hrepo]
                rfl
      | false =>
          cases hrepo : system.repo jobId with
          | some stored =>
              refine .inl ?_
              simp only [writeBack, hrepo]
              rfl
          | none =>
              refine .inr ⟨jobId, copy.job, ?_,
                .inr (.inr ⟨number, false, copy, rfl, hreader, rfl, ?_⟩)⟩
              · simp only [writeBack, hrepo]
                rfl
              · rw [hrepo]
                rfl
  | _ => exact .inl rfl

inductive StageMoves (system next : JobSystem Json) (step : JobStep Json) (jobId : String) :
    Stage Json → Stage Json → Prop
  | create {job} (hnew : system.repo jobId = none) :
      StageMoves system next step jobId (.create job)
        (if job.status.Terminal then .ack else .start job)
  | start {job startedAt} (hstored : next.repo jobId = some (job.running startedAt)) :
      StageMoves system next step jobId (.start job) (.copyRunning job startedAt)
  | copyRunning {job startedAt} :
      StageMoves system next step jobId (.copyRunning job startedAt) (.work job startedAt)
  | work {job startedAt outcome}
      (hstored : next.repo jobId = some (job.finished jobId startedAt outcome)) :
      StageMoves system next step jobId (.work job startedAt)
        (.copyFinal (job.finished jobId startedAt outcome))
  | copyFinal {job name reached} (hstep : step = .copyFinal name reached)
      (hcopied : reached = true → next.redis jobId = some job.copy) :
      StageMoves system next step jobId (.copyFinal job) .ack

theorem current_step (hmoves : Moves system step next) {name jobId : String} {stage : Stage Json}
    {batch : List (String × JobMessage Json)}
    (hworker : next.workers name = some ⟨some (jobId, stage), batch⟩) :
    system.workers name = some ⟨some (jobId, stage), batch⟩ ∨
      (∃ message, system.workers name = some ⟨none, (jobId, message) :: batch⟩ ∧
        stage = beginStage system jobId message ∧ next.repo = system.repo) ∨
      ∃ before, system.workers name = some ⟨some (jobId, before), batch⟩ ∧
        StageMoves system next step jobId before stage := by
  have hput {other : String} {worker : Option (Worker Json)}
      (hafter : Function.update system.workers other worker name =
        some ⟨some (jobId, stage), batch⟩) :
      system.workers name = some ⟨some (jobId, stage), batch⟩ ∨
        name = other ∧ worker = some ⟨some (jobId, stage), batch⟩ := by
    by_cases hother : name = other
    · rw [hother, Function.update_self] at hafter
      exact .inr ⟨hother, hafter⟩
    · rw [Function.update_of_ne hother] at hafter
      exact .inl hafter
  cases hmoves with
  | startWorker | crash | createTaken | storeRunningMissing | storeFinalMissing | readJobs | ack =>
      rcases hput hworker with hold | ⟨-, hnew⟩
      · exact .inl hold
      · cases hnew
  | begin hbefore =>
      rcases hput hworker with hold | ⟨rfl, hnew⟩
      · exact .inl hold
      · cases hnew
        exact .inr (.inl ⟨_, hbefore, rfl, rfl⟩)
  | createJob hbefore hrepo =>
      rcases hput hworker with hold | ⟨rfl, hnew⟩
      · exact .inl hold
      · cases hnew
        exact .inr (.inr ⟨_, hbefore, .create hrepo⟩)
  | storeRunning hbefore =>
      rcases hput hworker with hold | ⟨rfl, hnew⟩
      · exact .inl hold
      · cases hnew
        exact .inr (.inr ⟨_, hbefore, .start (Function.update_self _ _ _)⟩)
  | storeFinal hbefore =>
      rcases hput hworker with hold | ⟨rfl, hnew⟩
      · exact .inl hold
      · cases hnew
        exact .inr (.inr ⟨_, hbefore, .work (Function.update_self _ _ _)⟩)
  | @copyRunning _ _ _ _ _ reached hbefore =>
      have hafter := hput (by cases reached <;> exact hworker)
      rcases hafter with hold | ⟨rfl, hnew⟩
      · exact .inl hold
      · cases hnew
        exact .inr (.inr ⟨_, hbefore, .copyRunning⟩)
  | @copyFinal _ _ _ job reached hbefore =>
      have hafter := hput (by cases reached <;> exact hworker)
      rcases hafter with hold | ⟨rfl, hnew⟩
      · exact .inl hold
      · cases hnew
        refine .inr (.inr ⟨_, hbefore, .copyFinal rfl fun hreached => ?_⟩)
        subst hreached
        exact Function.update_self _ _ _
  | @setCopy _ _ reached =>
      cases reached <;> exact .inl hworker
  | @writeRepo _ other found copy =>
      refine .inl ?_
      have hworkers : (writeBack system ⟨other, found, some copy⟩ copy).workers =
          system.workers := by
        rw [writeBack]
        split <;> rfl
      exact hworkers ▸ hworker
  | _ => exact .inl hworker

theorem batch_step (hmoves : Moves system step next) {name jobId : String} {worker : Worker Json}
    (hworker : next.workers name = some worker) (hbatch : jobId ∈ worker.batch.map Prod.fst) :
    jobId ∈ system.group.undelivered ∨
      ∃ before, system.workers name = some before ∧ jobId ∈ before.batch.map Prod.fst := by
  have hput {other : String} {put : Option (Worker Json)}
      (hafter : Function.update system.workers other put name = some worker) :
      (∃ before, system.workers name = some before ∧ jobId ∈ before.batch.map Prod.fst) ∨
        name = other ∧ put = some worker := by
    by_cases hother : name = other
    · rw [hother, Function.update_self] at hafter
      exact .inr ⟨hother, hafter⟩
    · rw [Function.update_of_ne hother] at hafter
      exact .inl ⟨worker, hafter, hbatch⟩
  cases hmoves with
  | crash | createTaken | storeRunningMissing | storeFinalMissing =>
      rcases hput hworker with hold | ⟨-, hnew⟩
      · exact .inr hold
      · cases hnew
  | startWorker =>
      rcases hput hworker with hold | ⟨-, hnew⟩
      · exact .inr hold
      · cases hnew
        cases hbatch
  | readJobs =>
      rcases hput hworker with hold | ⟨-, hnew⟩
      · exact .inr hold
      · cases hnew
        refine .inl ?_
        rw [List.map_take, List.map_drop] at hbatch
        exact List.mem_of_mem_take hbatch
  | begin hbefore =>
      rcases hput hworker with hold | ⟨rfl, hnew⟩
      · exact .inr hold
      · cases hnew
        exact .inr ⟨_, hbefore, List.mem_cons_of_mem _ hbatch⟩
  | createJob hbefore | storeRunning hbefore | storeFinal hbefore | ack hbefore =>
      rcases hput hworker with hold | ⟨rfl, hnew⟩
      · exact .inr hold
      · cases hnew
        exact .inr ⟨_, hbefore, hbatch⟩
  | @copyRunning _ _ _ _ _ reached hbefore | @copyFinal _ _ _ _ reached hbefore =>
      have hafter := hput (by cases reached <;> exact hworker)
      rcases hafter with hold | ⟨rfl, hnew⟩
      · exact .inr hold
      · cases hnew
        exact .inr ⟨_, hbefore, hbatch⟩
  | @setCopy _ _ reached =>
      cases reached <;> exact .inr ⟨worker, hworker, hbatch⟩
  | @writeRepo _ other found copy =>
      have hworkers : (writeBack system ⟨other, found, some copy⟩ copy).workers =
          system.workers := by
        rw [writeBack]
        split <;> rfl
      exact .inr ⟨worker, hworkers ▸ hworker, hbatch⟩
  | _ => exact .inr ⟨worker, hworker, hbatch⟩

end Invariant

end AiAnalytics.App.Jobs
