import AiAnalytics.App.Jobs.Worker

/-!
# Which messages a worker brings to an end

Everything that can go wrong with the report is inside the `try` block, whose handler marks the job
as failed and acknowledges the message. Two steps stand before it: the decoding of a message's
parameters and the first read of them. A message that fails there is not acknowledged, and the
exception ends the loop over the messages that came with it.
-/

namespace AiAnalytics.App.JobWorker

open Lib Lib.Prog
open App.Loop (Dict PyFault)

variable {Float : Type}

section Conditions

variable {α : Type}

/-- The message is acknowledged once, and its job has an end. -/
structure Settled (messageId jobId : String) (before final : WorkerState Float)
    (result : Except PyFault α) : Prop where
  returned : ∃ a, result = .ok a
  acked : final.acked = before.acked ++ [messageId]
  terminal : ∃ job, final.jobs jobId = some job ∧ job.Terminal

/-- What a worker makes of the job is left to its status, or its parameters are an object. -/
def Processable (cfg : WorkerConfig Float) (message : JobMessage Float) : Option (Job Float) → Prop
  | some job => job.Terminal ∨ job.params.IsDict
  | none => ∃ params, decodeParams cfg message = .ok params ∧
      ((message.status = some "COMPLETED" ∨ message.status = some "FAILED") ∨ params.IsDict)

def InStore (jobId : String) (acked : List String) (_ : WorkerLog Float)
    (state : WorkerState Float) : Prop :=
  (state.jobs jobId).isSome ∧ state.acked = acked

def StoresJob (jobId : String) (job : Job Float) (acked : List String) (_ : WorkerLog Float)
    (state : WorkerState Float) : Prop :=
  state.jobs jobId = some job ∧ state.acked = acked

def Ended (jobId : String) (acked : List String) (_ : WorkerLog Float)
    (state : WorkerState Float) : Prop :=
  (∃ job, state.jobs jobId = some job ∧ job.Terminal) ∧ state.acked = acked

def Finds (jobId : String) (stored : Option (Job Float)) (acked : List String)
    (_ : WorkerLog Float) (state : WorkerState Float) : Prop :=
  state.jobs jobId = stored ∧ state.acked = acked

theorem isDict_iff_entriesOf {value : PyValue Float} :
    value.IsDict ↔ ∃ entries, entriesOf value = .ok entries := by
  cases value with
  | dict entries => exact iff_of_true trivial ⟨entries, rfl⟩
  | _ => exact ⟨nofun, nofun⟩

end Conditions

section Steps

variable (cfg : WorkerConfig Float) {α : Type} {messageId jobId : String} {acked : List String}
  {job : Job Float} {pre : WorkerLog Float → WorkerState Float → Prop}
  {err : PyFault → WorkerLog Float → WorkerState Float → Prop}

theorem ensures_of_fact {p : Prop} {m : WorkerM Float α}
    {post : α → WorkerLog Float → WorkerState Float → Prop} (hm : p → Ensures pre m post err) :
    Ensures (fun history state => p ∧ pre history state) m post err :=
  fun history state hstate => hm hstate.1 history state hstate.2

theorem ensures_orRaise {outcome : Except PyFault α}
    {post : α → WorkerLog Float → WorkerState Float → Prop}
    (hok : ∀ a, outcome = .ok a → ∀ history state, pre history state → post a history state)
    (herr : ∀ fault, outcome = .error fault → ∀ history state, pre history state →
      err fault history state) :
    Ensures pre (orRaise outcome) post err := by
  cases outcome with
  | ok a => exact ensures_pure (hok a rfl)
  | error fault => exact ensures_throw (herr fault rfl)

theorem ensures_updateJob :
    Ensures (InStore jobId acked) (updateJob jobId job)
      (fun _ => StoresJob jobId job acked) err := by
  have hget : Ensures (InStore jobId acked) (get : WorkerM Float (WorkerState Float))
      (fun seen history state => (seen.jobs jobId).isSome ∧ InStore jobId acked history state)
        err := by
    apply ensures_get
    intro history state hstore
    exact ⟨hstore.1, hstore⟩
  apply ensures_bind hget
  intro seen
  have hcheck : Ensures
      (fun history state => (seen.jobs jobId).isSome ∧ InStore jobId acked history state)
      (raiseIf ((seen.jobs jobId).isNone = true)
        ⟨"EntityNotFoundError", "Job " ++ jobId ++ " not found"⟩ : WorkerM Float Unit)
      (fun _ => InStore jobId acked) err := by
    apply ensures_raiseIf
    · exact fun _ _ _ hstore => hstore.2
    · intro hnone _ _ hstore
      rw [Option.isNone_iff_eq_none] at hnone
      rw [hnone] at hstore
      cases hstore.1
  apply ensures_bind hcheck
  intro _
  apply ensures_modify
  intro history state hstore
  exact ⟨Function.update_self .., hstore.2⟩

theorem ensures_updateJobAndCopy :
    Ensures (InStore jobId acked) (updateJobAndCopy cfg jobId job)
      (fun _ => StoresJob jobId job acked) err := by
  apply ensures_bind ensures_updateJob
  intro _
  apply ensures_ite
  · intro _
    apply ensures_bind (keeps_ask fun _ _ _ hstate => hstate)
    intro _
    exact keeps_pure
  · intro _
    exact keeps_pure

theorem keeps_publish {inv : WorkerLog Float → WorkerState Float → Prop} {event : JobEvent Float}
    (hinv : ∀ history state events, inv history state → inv history { state with events }) :
    Keeps inv err (publish cfg event) :=
  keeps_modify fun _ _ hstate => hinv _ _ _ hstate

theorem ensures_ack (hterminal : job.Terminal) :
    Ensures (StoresJob jobId job acked) (ack messageId : WorkerM Float PUnit)
      (fun _ => Ended jobId (acked ++ [messageId])) err := by
  apply ensures_modify
  intro history state hstate
  exact ⟨⟨job, hstate.1, hterminal⟩, congrArg (· ++ [messageId]) hstate.2⟩

theorem ensures_closeJob (hterminal : job.Terminal) (event : JobEvent Float) :
    Ensures (InStore jobId acked)
      (do updateJobAndCopy cfg jobId job
          publish cfg event
          ack messageId
          pure (some job))
      (fun _ => Ended jobId (acked ++ [messageId])) err := by
  apply ensures_bind (ensures_updateJobAndCopy cfg)
  intro _
  apply ensures_bind (keeps_publish cfg fun _ _ _ hstate => hstate)
  intro _
  apply ensures_bind (ensures_ack hterminal)
  intro _
  exact ensures_pure fun _ _ hended => hended

theorem ensures_makeReport (startedAt : String) (conversationId : PyValue Float) :
    Ensures (InStore jobId acked) (makeReport cfg messageId jobId job startedAt conversationId)
      (fun _ => Ended jobId (acked ++ [messageId])) (fun _ => InStore jobId acked) := by
  apply ensures_ite
  · intro _
    apply ensures_bind (keeps_ask fun _ _ _ hstore => hstore)
    intro reply
    apply ensures_bind (ensures_orRaise (fun _ _ _ _ hstore => hstore) fun _ _ _ _ hstore => hstore)
    intro profile
    apply ensures_bind (keeps_ask fun _ _ _ hstore => hstore)
    intro reportId
    apply ensures_bind (keeps_ask fun _ _ _ hstore => hstore)
    intro completedAt
    apply ensures_bind (ensures_orRaise (fun _ _ _ _ hstore => hstore) fun _ _ _ _ hstore => hstore)
    intro entries
    apply ensures_bind (keeps_ask fun _ _ _ hstore => hstore)
    intro _
    exact ensures_closeJob cfg (.inl rfl) _
  · intro _
    exact ensures_throw fun _ _ hstore => hstore

theorem ensures_failJob (startedAt : String) (conversationId : PyValue Float) (fault : PyFault) :
    Ensures (InStore jobId acked)
      (failJob cfg messageId jobId job startedAt conversationId fault)
      (fun _ => Ended jobId (acked ++ [messageId])) err := by
  apply ensures_bind (keeps_ask fun _ _ _ hstore => hstore)
  intro completedAt
  exact ensures_closeJob cfg (.inr rfl) _

theorem ensures_entriesOf :
    Ensures (StoresJob jobId job acked) (orRaise (entriesOf job.params))
      (fun _ history state => job.params.IsDict ∧ InStore jobId acked history state)
      (fun _ _ state => ¬ job.params.IsDict ∧ state.acked = acked) := by
  apply ensures_orRaise
  · intro entries hentries history state hstate
    exact ⟨isDict_iff_entriesOf.mpr ⟨entries, hentries⟩, Option.isSome_of_eq_some hstate.1,
      hstate.2⟩
  · intro fault hfault history state hstate
    refine ⟨fun hdict => ?_, hstate.2⟩
    obtain ⟨entries, hentries⟩ := isDict_iff_entriesOf.mp hdict
    rw [hfault] at hentries
    cases hentries

theorem ensures_executeJob :
    Ensures (InStore jobId acked) (executeJob cfg messageId jobId job)
      (fun _ history state => job.params.IsDict ∧ Ended jobId (acked ++ [messageId]) history state)
      (fun _ _ state => ¬ job.params.IsDict ∧ state.acked = acked) := by
  apply ensures_bind (keeps_ask fun _ _ _ hstore => hstore)
  intro startedAt
  apply ensures_bind (ensures_updateJobAndCopy cfg)
  intro _
  apply ensures_bind ensures_entriesOf
  intro entries
  apply ensures_bind (keeps_publish cfg fun _ _ _ hstate => hstate)
  intro _
  apply ensures_of_fact
  intro hdict
  apply (ensures_tryCatch (ensures_makeReport cfg startedAt _)
    (ensures_failJob cfg startedAt _)).weaken (fun _ _ hstore => hstore)
  · exact fun _ _ _ hended => ⟨hdict, hended⟩
  · exact fun _ _ _ hfalse => False.elim hfalse

theorem terminal_getD_iff {status : Option String} :
    (status.getD "PENDING" = "COMPLETED" ∨ status.getD "PENDING" = "FAILED") ↔
      status = some "COMPLETED" ∨ status = some "FAILED" := by
  cases status with
  | none => decide
  | some text => simp only [Option.getD_some, Option.some_inj]

variable {stored : Option (Job Float)} {message : JobMessage Float}

theorem ensures_createJob :
    Ensures (Finds jobId none acked) (createJob jobId job)
      (fun _ => StoresJob jobId job acked) err := by
  have hget : Ensures (Finds jobId none acked) (get : WorkerM Float (WorkerState Float))
      (fun seen history state => seen.jobs jobId = none ∧ Finds jobId none acked history state)
        err :=
    ensures_get fun _ _ hfinds => ⟨hfinds.1, hfinds⟩
  apply ensures_bind hget
  intro seen
  apply ensures_of_fact
  intro hseen
  have hcheck : Ensures (Finds jobId none acked)
      (raiseIf ((seen.jobs jobId).isSome = true)
        ⟨"DuplicateEntityError", "Job " ++ jobId ++ " already exists"⟩ : WorkerM Float Unit)
      (fun _ => Finds jobId none acked) err := by
    apply ensures_raiseIf
    · exact fun _ _ _ hfinds => hfinds
    · intro hsome
      rw [hseen] at hsome
      cases hsome
  apply ensures_bind hcheck
  intro _
  apply ensures_modify
  intro history state hfinds
  exact ⟨Function.update_self .., hfinds.2⟩

theorem ensures_decodeParams :
    Ensures (@Finds Float jobId none acked) (orRaise (decodeParams cfg message))
      (fun params history state => decodeParams cfg message = .ok params ∧
        Finds jobId none acked history state)
      (fun _ _ state => ¬ Processable cfg message none ∧ state.acked = acked) := by
  apply ensures_orRaise
  · exact fun params hparams _ _ hfinds => ⟨hparams, hfinds⟩
  · intro fault hfault _ _ hfinds
    refine ⟨?_, hfinds.2⟩
    rintro ⟨params, hparams, -⟩
    rw [hfault] at hparams
    cases hparams

theorem ensures_resolveJob :
    Ensures (Finds jobId stored acked) (resolveJob cfg jobId message)
      (fun job history state =>
        (Processable cfg message stored ↔ job.Terminal ∨ job.params.IsDict) ∧
          StoresJob jobId job acked history state)
      (fun _ _ state => ¬ Processable cfg message stored ∧ state.acked = acked) := by
  have hget : Ensures (Finds jobId stored acked) (get : WorkerM Float (WorkerState Float))
      (fun seen history state => seen.jobs jobId = stored ∧ Finds jobId stored acked history state)
      (fun _ _ state => ¬ Processable cfg message stored ∧ state.acked = acked) :=
    ensures_get fun _ _ hfinds => ⟨hfinds.1, hfinds⟩
  apply ensures_bind hget
  intro seen
  apply ensures_of_fact
  intro hseen
  rw [hseen]
  cases stored with
  | some job => exact ensures_pure fun _ _ hfinds => ⟨Iff.rfl, hfinds⟩
  | none =>
      apply ensures_bind (ensures_decodeParams cfg)
      intro params
      apply ensures_of_fact
      intro hparams
      apply ensures_bind (keeps_ask fun _ _ _ hfinds => hfinds)
      intro now
      apply ensures_bind ensures_createJob
      intro _
      apply ensures_pure
      intro _ _ hstate
      refine ⟨?_, hstate⟩
      constructor
      · rintro ⟨decoded, hdecoded, hend⟩
        rw [hparams] at hdecoded
        cases hdecoded
        exact hend.imp_left terminal_getD_iff.mpr
      · intro hend
        exact ⟨params, hparams, hend.imp_left terminal_getD_iff.mp⟩

theorem ensures_processOneJob (hid : message.jobId = some jobId) (hne : jobId ≠ "") :
    Ensures (Finds jobId stored acked) (processOneJob cfg messageId message)
      (fun _ history state => Processable cfg message stored ∧
        Ended jobId (acked ++ [messageId]) history state)
      (fun _ _ state => ¬ Processable cfg message stored ∧ state.acked = acked) := by
  have hnamed : message.jobId.filter (· ≠ "") = some jobId := by
    rw [hid, Option.filter_some, decide_eq_true hne, if_pos rfl]
  unfold processOneJob
  rw [hnamed]
  apply ensures_bind (ensures_resolveJob cfg)
  intro job
  apply ensures_of_fact
  intro hjob
  apply ensures_ite
  · intro hterminal
    apply ensures_bind (ensures_ack hterminal)
    intro _
    exact ensures_pure fun _ _ hended => ⟨hjob.mpr (.inl hterminal), hended⟩
  · intro hopen
    apply (ensures_executeJob cfg).weaken
    · exact fun _ _ hstate => ⟨Option.isSome_of_eq_some hstate.1, hstate.2⟩
    · exact fun _ _ _ hended => ⟨hjob.mpr (.inr hended.1), hended.2⟩
    · exact fun _ _ _ hstate =>
        ⟨fun hprocessable => (hjob.mp hprocessable).elim hopen hstate.1, hstate.2⟩

end Steps

section Messages

variable {cfg : WorkerConfig Float} {messageId jobId : String} {message : JobMessage Float}
  {state final : WorkerState Float} {log : WorkerLog Float}

/-- **Which messages are brought to an end.** A message that names a job is acknowledged once and
leaves the job completed or failed, unless its parameters cannot be decoded or, for a job that goes
on, are no object. -/
theorem settled_iff_processable {result : Except PyFault (Option (Job Float))}
    (hid : message.jobId = some jobId) (hne : jobId ≠ "")
    (hrun : (processOneJob cfg messageId message).Runs state log result final) :
    Settled messageId jobId state final result ↔ Processable cfg message (state.jobs jobId) := by
  have hprocess : Ensures (Finds jobId (state.jobs jobId) state.acked)
      (processOneJob cfg messageId message) _ _ := ensures_processOneJob cfg hid hne
  have hend := hprocess [] state ⟨rfl, rfl⟩ log result final hrun
  cases result with
  | ok job => exact iff_of_true ⟨⟨job, rfl⟩, hend.2.2, hend.2.1⟩ hend.1
  | error fault => exact iff_of_false (fun hsettled => nomatch hsettled.returned) hend.1

def sampleLoads (text : String) : Except PyFault (PyValue Int) :=
  if text = "{}" then .ok (.dict [])
  else if text = "[]" then .ok (.list [])
  else .error ⟨"JSONDecodeError", "Expecting value: line 1 column 1 (char 0)"⟩

def sampleStart : WorkerState Int := { jobs := fun _ => none }

def sampleReply : (call : WorkerCall Int) → WorkerReply call
  | .utcnow => "2026-01-01T00:00:00+00:00"
  | .reportId => "0123456789abcdef"
  | .getDatasetProfile => .ok (.dict [("row_count", .int 7)])
  | .writeArtifact _ _ => none
  | .setCopy _ _ => none

def samplePlay (params : String) :
    WorkerLog Int × Except PyFault (Option (Job Int)) × WorkerState Int :=
  (processOneJob { loads := sampleLoads } "1-0"
    { jobId := some "job_1", params := some (.str params) }).play (fun _ => sampleReply) sampleStart

theorem object_params_settled :
    Settled "1-0" "job_1" sampleStart (samplePlay "{}").2.2 (samplePlay "{}").2.1 := by
  apply (settled_iff_processable rfl (by decide) (runs_play _ _ sampleStart)).mpr
  exact ⟨.dict [], rfl, .inr trivial⟩

/-- With a list for its parameters the job stays running, and with text that is no JSON it is never
stored. Neither message is acknowledged. -/
theorem bad_params_unsettled :
    ((samplePlay "[]").2.1 =
        .error ⟨"AttributeError", "'list' object has no attribute 'get'"⟩ ∧
      ((samplePlay "[]").2.2.jobs "job_1").map (·.status) = some "RUNNING" ∧
      (samplePlay "[]").2.2.acked = []) ∧
    ((samplePlay "report").2.1 =
        .error ⟨"JSONDecodeError", "Expecting value: line 1 column 1 (char 0)"⟩ ∧
      ((samplePlay "report").2.2.jobs "job_1").map (·.status) = none ∧
      (samplePlay "report").2.2.acked = []) ∧
    ∀ params ∈ ["[]", "report"], ¬ Settled "1-0" "job_1" sampleStart (samplePlay params).2.2
      (samplePlay params).2.1 := by
  refine ⟨⟨rfl, rfl, rfl⟩, ⟨rfl, rfl, rfl⟩, ?_⟩
  intro params hparams hsettled
  simp only [List.mem_cons, List.not_mem_nil, or_false] at hparams
  rcases hparams with rfl | rfl
  · exact nomatch hsettled.returned
  · exact nomatch hsettled.returned

theorem bad_message_stops_worker {rest : List (String × JobMessage Float)}
    {result : Except PyFault PUnit} (hid : message.jobId = some jobId) (hne : jobId ≠ "")
    (hbad : ¬ Processable cfg message (state.jobs jobId))
    (hrun : (processJobs cfg ((messageId, message) :: rest)).Runs state log result final) :
    (∃ fault, result = .error fault) ∧ final.acked = state.acked := by
  have hprocess : Ensures (Finds jobId (state.jobs jobId) state.acked)
      (processOneJob cfg messageId message) (fun _ _ _ => False)
      (fun _ _ after => after.acked = state.acked) := by
    apply (ensures_processOneJob cfg hid hne).weaken (fun _ _ hfinds => hfinds)
    · exact fun _ _ _ hended => hbad hended.1
    · exact fun _ _ _ hstate => hstate.2
  have hstop : Ensures (Finds jobId (state.jobs jobId) state.acked)
      (processJobs cfg ((messageId, message) :: rest)) (fun _ _ _ => False)
      (fun _ _ after => after.acked = state.acked) :=
    ensures_bind hprocess fun _ _ _ hfalse => hfalse.elim
  have hend := hstop [] state ⟨rfl, rfl⟩ log result final hrun
  cases result with
  | ok _ => exact hend.elim
  | error fault => exact ⟨⟨fault, rfl⟩, hend⟩

end Messages

end AiAnalytics.App.JobWorker
