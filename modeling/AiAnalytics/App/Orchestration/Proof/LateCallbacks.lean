import AiAnalytics.App.Orchestration.Proof.CallbackFrames
import AiAnalytics.Lib.Threads

/-!
# What callbacks record after the end of a run

A callback that finds the abort flag set records nothing. Between its check and its writes it does
not look again, and the main thread does not wait for it: the terminal event may be published in
between. -/

namespace AiAnalytics.App.DeepAgents

open Lib Lib.Prog Lib.Interaction Loop

variable {Float : Type} (cfg : DeepConfig Float)

section Callbacks

abbrev DeepLog (Float : Type) : Type := List (Exchange (@DeepReply Float))

/-- A triple about the history alone. -/
abbrev Logs {α : Type} (pre : DeepLog Float → Prop) (m : RecorderM Float α)
    (post : α → DeepLog Float → Prop) (err : DeepError Float → DeepLog Float → Prop) : Prop :=
  Ensures (fun history _ => pre history) m (fun a history _ => post a history)
    fun error history _ => err error history

abbrev KeepsLog {α : Type} (inv : DeepLog Float → Prop)
    (err : DeepError Float → DeepLog Float → Prop) (m : RecorderM Float α) : Prop :=
  Keeps (fun history _ => inv history) (fun error history _ => err error history) m

def RunRecord.Counts : RunRecord Float → Prop
  | .run _ => False
  | _ => True

def AbortSet : Exchange (@DeepReply Float) → Prop
  | ⟨.abortIsSet, reply⟩ => reply = true
  | _ => True

def Records (x : Exchange (@DeepReply Float)) : Prop :=
  ∃ evtSequence record, recorded evtSequence x = some record ∧ record.Counts

theorem not_records_of_silent {call : DeepCall Float}
    (h : ∀ reply evtSequence, recorded evtSequence ⟨call, reply⟩ = none) (reply : DeepReply call) :
    ¬ Records ⟨call, reply⟩ := by
  rintro ⟨evtSequence, record, hrecord, -⟩
  rw [h reply evtSequence] at hrecord
  cases hrecord

abbrev Quiet (history : DeepLog Float) : Prop :=
  InertLog AbortSet Records history

abbrev FoundClear (history : DeepLog Float) : Prop := Refused AbortSet history

abbrev KeepsQuiet {α : Type} (m : RecorderM Float α) : Prop :=
  KeepsLog Quiet (fun _ => Quiet) m

theorem keepsQuiet_silent {call : DeepCall Float}
    (h : ∀ reply evtSequence, recorded evtSequence ⟨call, reply⟩ = none) :
    KeepsQuiet (request call : RecorderM Float (DeepReply call)) :=
  keeps_ask fun reply _ _ hquiet => inertLog_snoc hquiet (not_records_of_silent h reply)

theorem keepsQuiet_update {f : Recorder Float → Recorder Float} :
    KeepsQuiet (modify f : RecorderM Float PUnit) :=
  keeps_modify fun _ _ h => h

theorem ensures_abortIsSet :
    Logs Quiet (request .abortIsSet : RecorderM Float Bool)
      (fun aborted history => Quiet history ∧ (aborted = false → FoundClear history))
      fun _ => Quiet := by
  apply ensures_ask
  intro reply history state hquiet
  refine ⟨inertLog_snoc hquiet (not_records_of_silent (fun _ _ => rfl) reply), fun hclear => ?_⟩
  refine ⟨⟨.abortIsSet, reply⟩, by simp, ?_⟩
  rw [AbortSet, hclear]
  simp

theorem keepsQuiet_unlessAborted {m : RecorderM Float Unit} :
    KeepsQuiet (do
      let aborted : Bool ← request .abortIsSet
      if aborted = true then pure () else m) := by
  apply ensures_bind ensures_abortIsSet
  intro (aborted : Bool)
  apply ensures_ite
  · intro _
    exact ensures_pure fun _ _ h => h.1
  · intro hclear
    apply ensures_of_refused.mono_pre
    intro history state h
    exact h.2 (Bool.eq_false_of_not_eq_true hclear)

theorem ensures_guard :
    Logs Quiet (guard cfg) (fun _ => FoundClear) fun _ => Quiet := by
  have hcheck : Logs Quiet (checkAbort : RecorderM Float Unit) (fun _ => FoundClear)
      fun _ => Quiet := by
    apply ensures_bind ensures_abortIsSet
    intro (aborted : Bool)
    apply ensures_raiseIf
    · intro hclear history state h
      exact h.2 (Bool.eq_false_of_not_eq_true hclear)
    · intro _ history state h
      exact h.1
  apply ensures_bind hcheck
  intro _
  exact (ensures_of_stable refused_append).weaken (fun _ _ h => h) (fun _ _ _ h => h)
    fun _ _ _ h => inertLog_of_refused h

theorem keepsQuiet_guarded {α : Type} {m : RecorderM Float α} : KeepsQuiet (do guard cfg; m) := by
  apply ensures_bind (ensures_guard cfg)
  intro _
  exact ensures_of_refused

theorem keepsQuiet_popTool (runId : String) :
    KeepsQuiet (popTool runId : RecorderM Float (Option (ToolInfo Float))) := by
  apply keeps_bind keeps_get
  intro recorder
  apply keeps_bind keepsQuiet_update
  intro _
  exact keeps_pure

theorem keepsQuiet_onLlmError (runId : String) (error : CallError) :
    KeepsQuiet (onLlmError cfg runId error) := by
  apply keeps_bind keeps_get
  intro recorder
  apply keeps_bind keepsQuiet_update
  intro _
  apply keeps_bind
  · cases recorder.holds.lookup runId with
    | none => exact keeps_pure
    | some hold => exact keepsQuiet_silent fun _ _ => rfl
  intro _
  apply keeps_bind (keepsQuiet_silent fun _ _ => rfl)
  intro _
  split
  · exact keeps_pure
  · exact keepsQuiet_unlessAborted

theorem keepsQuiet_onToolEnd (runId text : String) : KeepsQuiet (onToolEnd cfg runId text) := by
  apply keeps_bind (keepsQuiet_popTool runId)
  intro popped
  cases popped with
  | none => exact keeps_pure
  | some info => exact keepsQuiet_guarded cfg

theorem keepsQuiet_onToolError (runId reason : String) :
    KeepsQuiet (onToolError cfg runId reason) := by
  apply keeps_bind (keepsQuiet_popTool runId)
  intro popped
  cases popped with
  | none => exact keeps_pure
  | some info => exact keepsQuiet_unlessAborted

theorem keepsQuiet_callback (event : Callback Float) : KeepsQuiet (callback cfg event) := by
  cases event with
  | chatModelStart runId messages tools => exact keepsQuiet_guarded cfg
  | llmEnd runId message => exact keepsQuiet_guarded cfg
  | llmError runId error => exact keepsQuiet_onLlmError cfg runId error
  | toolStart runId name inputText inputs => exact keeps_ite keeps_pure (keepsQuiet_guarded cfg)
  | toolEnd runId text => exact keepsQuiet_onToolEnd cfg runId text
  | toolError runId reason => exact keepsQuiet_onToolError cfg runId reason

theorem callback_inert (event : Callback Float) (recorder : Recorder Float) :
    ((callback cfg event).run.run recorder).Inert AbortSet Records :=
  inert_of_ensures (keepsQuiet_callback cfg event) recorder

end Callbacks

section Main

def Ends (x : Exchange (@DeepReply Float)) : Prop :=
  ∃ evtSequence record, recorded evtSequence x = some record ∧ record.Terminal

theorem RunRecord.Terminal.counts {record : RunRecord Float} (h : record.Terminal) :
    record.Counts := by
  cases record with
  | run ending => exact h
  | _ => trivial

theorem Ends.records {x : Exchange (@DeepReply Float)} (h : Ends x) : Records x := by
  obtain ⟨evtSequence, record, hrecord, hterminal⟩ := h
  exact ⟨evtSequence, record, hrecord, hterminal.counts⟩

theorem not_ends_of_plain {x : Exchange (@DeepReply Float)} (hplain : x.call.Plain) : ¬ Ends x := by
  rintro ⟨evtSequence, record, hrecord, hterminal⟩
  exact hplain x.reply evtSequence record hrecord hterminal

def Stops : Exchange (@DeepReply Float) → Prop
  | ⟨.setAbort, _⟩ => True
  | ⟨.awaitWorker, .done _⟩ => True
  | _ => False

abbrev Stopped (history : DeepLog Float) : Prop := ∃ x ∈ history, Stops x

abbrev Open (history : DeepLog Float) : Prop := ∀ x ∈ history, ¬ Ends x

def EndsLast (history : DeepLog Float) : Prop :=
  ∀ before x after, history = before ++ x :: after → Ends x → Stopped before ∧ ∀ y ∈ after,
    ¬ Records y

variable {history : DeepLog Float} {x : Exchange (@DeepReply Float)}

theorem Open.endsLast (h : Open history) : EndsLast history := by
  rintro before x after rfl hends
  exact absurd hends (h x (by simp))

theorem EndsLast.beginning {before after : DeepLog Float}
    (h : EndsLast (before ++ after)) : EndsLast before := by
  rintro front x back rfl hends
  obtain ⟨hstopped, hback⟩ := h front x (back ++ after) (by simp) hends
  exact ⟨hstopped, fun y hy => hback y (List.mem_append_left after hy)⟩

theorem Open.snoc (h : Open history) (hx : ¬ Ends x) : Open (history ++ [x]) :=
  List.forall_mem_append.mpr ⟨h, List.forall_mem_singleton.mpr hx⟩

theorem Stopped.append (h : Stopped history) (log : DeepLog Float) :
    Stopped (history ++ log) := by
  obtain ⟨x, hx, hstops⟩ := h
  exact ⟨x, List.mem_append_left log hx, hstops⟩

theorem eq_snoc_cases {α : Type} {l before after : List α} {a b : α}
    (h : l ++ [a] = before ++ b :: after) :
    (l = before ∧ a = b ∧ after = []) ∨ ∃ rest, after = rest ++ [a] ∧ l = before ++ b :: rest := by
  rcases List.eq_nil_or_concat after with rfl | ⟨rest, last, rfl⟩
  · obtain ⟨hfront, hlast⟩ := List.append_inj' h rfl
    exact .inl ⟨hfront, List.singleton_inj.mp hlast, rfl⟩
  · rw [List.concat_eq_append] at h ⊢
    rw [← List.cons_append, ← List.append_assoc] at h
    obtain ⟨hfront, hlast⟩ := List.append_inj' h rfl
    obtain rfl := List.singleton_inj.mp hlast
    exact .inr ⟨rest, rfl, hfront⟩

theorem Open.endsLast_snoc (h : Open history) (hstopped : Stopped history) :
    EndsLast (history ++ [x]) := by
  intro before y after heq hends
  rcases eq_snoc_cases heq with ⟨rfl, rfl, rfl⟩ | ⟨rest, rfl, rfl⟩
  · exact ⟨hstopped, by simp⟩
  · exact absurd hends (h y (by simp))

theorem EndsLast.snoc (h : EndsLast history) (hx : ¬ Records x) : EndsLast (history ++ [x]) := by
  intro before y after heq hends
  rcases eq_snoc_cases heq with ⟨rfl, rfl, rfl⟩ | ⟨rest, rfl, rfl⟩
  · exact absurd hends.records hx
  · obtain ⟨hstopped, hrest⟩ := h before y rest rfl hends
    exact ⟨hstopped, List.forall_mem_append.mpr ⟨hrest, List.forall_mem_singleton.mpr hx⟩⟩

theorem stable_open : (plainFrame : Frame (DeepCall Float) (Recorder Float)).Stable fun history _ =>
    Open history where
  change _ _ _ _ h := h
  call _ _ _ hcall h := h.snoc (not_ends_of_plain hcall)

abbrev Ready (history : DeepLog Float) : Prop := Open history ∧ Stopped history

theorem stable_ready :
    (plainFrame : Frame (DeepCall Float) (Recorder Float)).Stable fun history _ =>
      Ready history where
  change _ _ _ _ h := h
  call _ _ _ hcall h := ⟨h.1.snoc (not_ends_of_plain hcall), h.2.append _⟩

def DeepError.IsFault : DeepError Float → Prop
  | .loop (.fault _) => True
  | _ => False

abbrev Faulted (P : DeepLog Float → Prop) (error : DeepError Float) (history : DeepLog Float) :
    Prop :=
  error.IsFault ∧ P history

def LeavesBody (error : DeepError Float) (history : DeepLog Float) : Prop :=
  (error.IsFault ∧ EndsLast history) ∨ Open history

theorem ensures_raiseFault
    {post : Unit → DeepLog Float → Recorder Float → Prop}
    {inv : DeepLog Float → Recorder Float → Prop}
    (fault : Option PyFault) (hpost : ∀ history state, inv history state → post () history state) :
    Ensures inv (raiseFault fault : RecorderM Float Unit) post
      fun error history state => error.IsFault ∧ inv history state := by
  cases fault with
  | none => exact ensures_pure hpost
  | some fault => exact ensures_throw fun _ _ h => ⟨trivial, h⟩

theorem ensures_emit_terminal (eventType : RunEventType) (payload : Dict Float) (refs : EventRefs) :
    Logs Ready (emit cfg eventType payload refs) (fun _ => EndsLast) (Faulted EndsLast) := by
  apply ensures_ite
  · intro _
    have hwrite (record : Write Float) :
        Logs Ready (request (.write record) : RecorderM Float WriteReply) (fun _ => EndsLast)
          (Faulted EndsLast) :=
      ensures_ask fun _ _ _ h => h.1.endsLast_snoc h.2
    apply ensures_bind (hwrite _)
    intro (reply : WriteReply)
    exact ensures_raiseFault reply.fault fun _ _ h => h
  · intro _
    exact ensures_pure fun _ _ h => h.1.endsLast

theorem endsLast_silent {call : DeepCall Float}
    {err : DeepError Float → DeepLog Float → Recorder Float → Prop}
    (h : ∀ reply evtSequence, recorded evtSequence ⟨call, reply⟩ = none) :
    Keeps (fun history _ => EndsLast history) err (request call :
      RecorderM Float (DeepReply call)) :=
  keeps_ask fun reply _ _ hends => hends.snoc (not_records_of_silent h reply)

theorem ready_request {call : DeepCall Float}
    {err : DeepError Float → DeepLog Float → Recorder Float → Prop}
    (hplain : call.Plain) :
    Keeps (fun history _ => Ready history) err (request call : RecorderM Float (DeepReply call)) :=
  keeps_ask fun _ _ _ h => ⟨h.1.snoc (not_ends_of_plain hplain), h.2.append _⟩

theorem ensures_finish (ending : Ending Float) (runTelemetry : Dict Float) :
    Logs Ready (finish cfg ending runTelemetry) (fun _ => EndsLast) (Faulted EndsLast) := by
  have hupdate : Logs Ready (write (.updateRun ending)) (fun _ => Ready) (Faulted EndsLast) := by
    apply ensures_bind (ready_request (plain_write (by simp)))
    intro (reply : WriteReply)
    have hraise : Logs Ready (raiseFault reply.fault : RecorderM Float Unit) (fun _ => Ready)
        (Faulted Ready) :=
      ensures_raiseFault reply.fault fun _ _ h => h
    exact hraise.weaken (fun _ _ h => h) (fun _ _ _ h => h) fun _ _ _ h => ⟨h.1, h.2.1.endsLast⟩
  apply ensures_bind hupdate
  intro _
  apply ensures_bind (ready_request (plain_of_silent fun _ _ => rfl))
  intro observed
  apply ensures_bind (ensures_emit_terminal cfg _ _ _)
  intro _
  exact endsLast_silent fun _ _ => rfl

theorem ensures_finishNow (startMono : Float) (ending : Ending Float) :
    Logs Ready (finishNow cfg startMono ending) (fun _ => EndsLast) (Faulted EndsLast) := by
  have hmillis : KeepsLog Ready (Faulted EndsLast) (millisSince cfg startMono) := by
    apply keeps_bind (ready_request (plain_of_silent fun _ _ => rfl))
    intro now
    exact keeps_pure
  apply ensures_bind hmillis
  intro latencyMs
  apply ensures_bind (ready_request (plain_of_silent fun _ _ => rfl))
  intro observed
  exact ensures_finish cfg ending _

theorem framed_recordCaveat (lastQueryId : Option String) (answer : String)
    (report : GroundingReport Float) :
    Framed plainFrame (recordCaveat cfg lastQueryId answer report) := by
  unfold recordCaveat
  split
  · exact framed_pure
  · apply framed_bind (framed_addStep _)
    intro _
    exact framed_pure

theorem ready_of_framed {α : Type} {m : RecorderM Float α} (hm : Framed plainFrame m) :
    KeepsLog Ready LeavesBody m :=
  hm.keeps stable_ready fun _ _ _ h => .inr h.1

theorem open_of_framed {α : Type} {m : RecorderM Float α} (hm : Framed plainFrame m) :
    KeepsLog Open LeavesBody m :=
  hm.keeps stable_open fun _ _ _ h => .inr h

theorem ensures_completeRun (startMono : Float) (messages : List AgentMessage) :
    Logs Ready (completeRun cfg startMono messages) (fun _ => EndsLast) LeavesBody := by
  apply ensures_bind (ready_of_framed (framed_silent fun _ _ => rfl))
  intro (observed : Option (Recorder Float))
  apply ensures_bind (ready_of_framed framed_update)
  intro _
  apply ensures_bind (ready_of_framed framed_get)
  intro recorder
  apply ensures_bind (ready_of_framed (framed_silent fun _ _ => rfl))
  intro checked
  apply ensures_bind (ready_of_framed (framed_orFault checked))
  intro report
  apply ensures_bind (ready_of_framed (framed_recordCaveat cfg _ _ report))
  intro answer
  apply ensures_bind (ready_of_framed (framed_emit cfg rfl _ _))
  intro _
  apply ensures_bind (ready_of_framed (framed_addMessage cfg _ _ _))
  intro _
  exact (ensures_finishNow cfg startMono _).weaken (fun _ _ h => h) (fun _ _ _ h => h)
    fun _ _ _ h => .inl h

theorem ensures_afterWorker (startMono : Float) (waited : WaitEnd Float) :
    Logs (fun history => Open history ∧ ((∃ outcome, waited = .done outcome) → Stopped history))
      (afterWorker cfg startMono waited) (fun _ => EndsLast) LeavesBody := by
  unfold afterWorker
  split
  · exact ensures_throw fun _ _ h => .inr h.1
  · exact ensures_throw fun _ _ h => .inr h.1
  · exact (ensures_completeRun cfg startMono _).mono_pre fun _ _ h => ⟨h.1, h.2 ⟨_, rfl⟩⟩
  · apply ensures_bind ((open_of_framed (framed_silent fun _ _ => rfl)).mono_pre fun _ _ h => h.1)
    intro observed
    exact ensures_throw fun _ _ h => .inr h

theorem ensures_awaitWorker :
    Logs Open (request .awaitWorker : RecorderM Float (WaitEnd Float)) (fun waited history =>
      Open history ∧ ((∃ outcome, waited = .done outcome) → Stopped history)) LeavesBody := by
  apply ensures_ask
  intro waited history state hopen
  refine ⟨hopen.snoc (not_ends_of_plain (plain_of_silent fun _ _ => rfl)), ?_⟩
  rintro ⟨outcome, rfl⟩
  exact ⟨⟨.awaitWorker, WaitEnd.done outcome⟩, by simp, trivial⟩

theorem ensures_runBody (startMono : Float) :
    Logs Open (runBody cfg startMono) (fun _ => EndsLast) LeavesBody := by
  apply ensures_bind (open_of_framed (framed_silent fun _ _ => rfl))
  intro (cancelled : Bool)
  apply ensures_bind (open_of_framed framed_raiseIf)
  intro _
  apply ensures_bind (open_of_framed (framed_silent fun _ _ => rfl))
  intro llmCallId
  apply ensures_bind (open_of_framed (framed_silent fun _ _ => rfl))
  intro (ready : Except (LoopError Float) Unit)
  cases ready with
  | error error => exact ensures_throw fun _ _ h => .inr h
  | ok _ =>
      apply ensures_bind (open_of_framed (framed_silent fun _ _ => rfl))
      intro _
      apply ensures_bind ensures_awaitWorker
      intro waited
      exact ensures_afterWorker cfg startMono waited

theorem ensures_setAbort {m : RecorderM Float Unit}
    (hm : Logs Ready m (fun _ => EndsLast) fun _ => EndsLast) :
    Logs Open
      (do
        let _ : Unit ← request .setAbort
        m)
      (fun _ => EndsLast) fun _ => EndsLast := by
  have hstop : Logs Open (request .setAbort : RecorderM Float Unit) (fun _ => Ready)
      fun _ => EndsLast := by
    apply ensures_ask
    intro reply history state hopen
    refine ⟨hopen.snoc (not_ends_of_plain (plain_of_silent fun _ _ => rfl)), ?_⟩
    exact ⟨⟨.setAbort, reply⟩, by simp, trivial⟩
  apply ensures_bind hstop
  intro _
  exact hm

theorem ensures_recordError (startMono : Float) (error : DeepError Float) :
    Logs (LeavesBody error) (recordError cfg startMono error) (fun _ => EndsLast)
      fun _ => EndsLast := by
  have hopen {error : DeepError Float} (hfault : ¬ error.IsFault)
      (history : DeepLog Float)
      (_ : Recorder Float) (h : LeavesBody error history) : Open history :=
    h.resolve_left fun h => hfault h.1
  have hfinish (ending : Ending Float) :
      Logs Ready (finishNow cfg startMono ending) (fun _ => EndsLast) fun _ => EndsLast :=
    (ensures_finishNow cfg startMono ending).weaken (fun _ _ h => h) (fun _ _ _ h => h)
      fun _ _ _ h => h.2
  unfold recordError
  split
  · exact (ensures_setAbort (hfinish _)).mono_pre (hopen id)
  · exact (ensures_setAbort (hfinish _)).mono_pre (hopen id)
  · apply (ensures_setAbort _).mono_pre (hopen id)
    apply ensures_bind (hfinish _)
    intro _
    exact ensures_throw fun _ _ h => h
  · exact ensures_throw fun _ _ h => h.elim (fun h => h.2) Open.endsLast

theorem keeps_cleanUp :
    KeepsLog EndsLast (fun _ => EndsLast) (cleanUp : RecorderM Float Unit) := by
  have hrelease (holds : List Nat) :
      KeepsLog EndsLast (fun _ => EndsLast) (releaseHolds holds : RecorderM Float Unit) := by
    induction holds with
    | nil => exact keeps_pure
    | cons hold holds ih =>
        apply keeps_bind (endsLast_silent fun _ _ => rfl)
        intro _
        exact ih
  apply keeps_bind (endsLast_silent fun _ _ => rfl)
  intro _
  apply keeps_bind (endsLast_silent fun _ _ => rfl)
  intro holds
  exact hrelease holds

theorem ensures_executeDeepAgentRun :
    Logs Open (executeDeepAgentRun cfg) (fun _ => EndsLast) fun _ => EndsLast := by
  have hstart : KeepsLog Open (fun _ => EndsLast) (request .monotonic : RecorderM Float Float) :=
    keeps_ask fun _ _ _ h => h.snoc (not_ends_of_plain (plain_of_silent fun _ _ => rfl))
  apply ensures_bind hstart
  intro startMono
  have hbody : Logs Open (attempt (tryCatch (runBody cfg startMono) (recordError cfg startMono)))
      (fun _ => EndsLast) fun _ => EndsLast := by
    apply ensures_attempt
    exact ensures_tryCatch (ensures_runBody cfg startMono) (ensures_recordError cfg startMono)
  apply ensures_bind hbody
  intro ended
  apply ensures_bind keeps_cleanUp
  intro _
  cases ended with
  | ok _ => exact ensures_pure fun _ _ h => h
  | error error => exact ensures_throw fun _ _ h => h

theorem main_endsLast {log : DeepLog Float}
    {result : Except (DeepError Float) Unit × Recorder Float} {recorder : Recorder Float}
    (hrun : ((executeDeepAgentRun cfg).run.run recorder).Runs log result) : EndsLast log := by
  have hend := ensures_executeDeepAgentRun cfg [] recorder (fun _ hx => absurd hx List.not_mem_nil)
    log result.1 result.2 hrun
  obtain ⟨result, final⟩ := result
  cases result with
  | ok _ => exact hend
  | error error => exact hend

end Main

section Machine

/-- After a terminal event nothing that counts. -/
def Settled (log : List (RunRecord Float)) : Prop :=
  ∀ before record after, log = before ++ record :: after → record.Terminal →
    ∀ later ∈ after, ¬ later.Counts

abbrev Ended (log : List (RunRecord Float)) : Prop := ∃ record ∈ log, record.Terminal

/-- No callback is between its check of the abort flag and its last record when the terminal event
is published. -/
def NothingPending (state : DeepRun Float) : DeepLabel Float → Prop
  | .main answer => ∀ c next reply, state.main = .call c next → state.reply answer c = some reply →
      Ends ⟨c, reply⟩ → ∀ rest, state.worker = .inCallback rest → rest.Inert AbortSet Records
  | _ => True

variable {cfg} {state : DeepRun Float} {log : List (RunRecord Float)}
  {history : DeepLog Float} {x : Exchange (@DeepReply Float)}

theorem Settled.append (h : Settled log) {record : Option (RunRecord Float)}
    (hquiet : Ended log → ∀ later ∈ record, ¬ later.Counts) : Settled (log ++ record.toList) := by
  cases record with
  | none => simpa using h
  | some new =>
      intro before record after heq hterminal
      rcases eq_snoc_cases heq with ⟨rfl, rfl, rfl⟩ | ⟨rest, rfl, rfl⟩
      · simp
      · rw [List.forall_mem_append]
        refine ⟨h before record rest rfl hterminal, List.forall_mem_singleton.mpr ?_⟩
        exact hquiet ⟨record, by simp, hterminal⟩ new rfl

theorem not_counts_of_not_records {evtSequence : Int} (hx : ¬ Records x) :
    ∀ later ∈ recorded evtSequence x, ¬ later.Counts :=
  fun later hlater hcounts => hx ⟨evtSequence, later, hlater, hcounts⟩

structure RunInv (cfg : DeepConfig Float) (state : DeepRun Float)
    (history : DeepLog Float) : Prop where
  reaches : ((executeDeepAgentRun cfg).run.run (newRecorder cfg)).Reaches history state.main
  abort : ∀ reply, ⟨.setAbort, reply⟩ ∈ history → state.abort = true
  finished : ∀ outcome, ⟨.awaitWorker, WaitEnd.done outcome⟩ ∈ history →
    ∃ ended, state.worker = .finished ended
  ended : Ended state.log → ∃ x ∈ history, Ends x
  settled : Settled state.log
  plain : ∀ rest, state.worker = .inCallback rest → ∀ log result, rest.Runs log result →
    ∀ x ∈ log, ¬ Ends x
  inert : Ended state.log → ∀ rest, state.worker = .inCallback rest → rest.Inert AbortSet Records

def anyReply (num : NumOps Float) : (c : DeepCall Float) → DeepReply c
  | .abortIsSet | .isCancelled => true
  | .setAbort | .endAgentCall _ _ _ _ _ | .releaseAgentCall _ | .register _ _ | .submit
    | .emitRunMetrics => ()
  | .elapsed | .recordLlmCall _ _ _ | .recordToolCall _ => (num.zero, num.zero)
  | .monotonic => num.zero
  | .utcnow | .newLlmCallId | .newToolCallId | .newStepId | .newMessageId => ""
  | .write _ => (⟨true, none⟩ : WriteReply)
  | .reserveBudget => (.ok () : Except Loop.LLMProviderError Unit)
  | .beginAgentCall _ _ => (.ok 0 : Except Loop.LLMProviderError Nat)
  | .release _ => (none : Option Float)
  | .estimate _ _ _ _ => (.ok none : Except PyFault (Option Float))
  | .scanObservation _ => ([] : List (PyValue Float))
  | .checkAnswerGrounding _ _ _ => (.ok ⟨none, true, []⟩ : Except PyFault (GroundingReport Float))
  | .setUp => (.ok () : Except (LoopError Float) Unit)
  | .awaitWorker => (WaitEnd.cancelled : WaitEnd Float)
  | .observe => (none : Option (Recorder Float))
  | .takeHolds => ([] : List Nat)

theorem RunInv.endsLast (h : RunInv cfg state history) : EndsLast history :=
  h.reaches.beginning (anyReply cfg.num) (fun _ _ => EndsLast.beginning) fun _ _ =>
    main_endsLast cfg

theorem RunInv.stopped (h : RunInv cfg state history) (hended : Stopped history) :
    state.abort = true ∨ ∃ outcome, state.worker = .finished outcome := by
  obtain ⟨x, hx, hstops⟩ := hended
  unfold Stops at hstops
  split at hstops
  · exact .inl (h.abort _ hx)
  · exact .inr (h.finished _ hx)
  · cases hstops

theorem runInv_start : RunInv cfg (DeepRun.start cfg) [] where
  reaches := .start
  abort _ h := absurd h List.not_mem_nil
  finished _ h := absurd h List.not_mem_nil
  ended := by rintro ⟨_, h, _⟩; cases h
  settled := by rintro (_ | _) _ _ h <;> cases h
  plain _ h := by cases h
  inert := by rintro ⟨_, h, _⟩; cases h

theorem ended_append {record : Option (RunRecord Float)} (h : Ended (log ++ record.toList)) :
    Ended log ∨ ∃ new ∈ record, new.Terminal := by
  obtain ⟨told, hmem, hterminal⟩ := h
  rcases List.mem_append.mp hmem with hold | hnew
  · exact .inl ⟨told, hold, hterminal⟩
  · exact .inr ⟨told, by simpa using hnew, hterminal⟩

theorem inCallback_of_perform {rest : Thread Float}
    (h : (state.perform cfg x).worker = .inCallback rest) : state.worker = .inCallback rest := by
  simp only [DeepRun.perform] at h
  split at h
  · cases h
  · exact h

theorem perform_worker_finished {outcome : WorkerOutcome Float}
    (h : state.worker = .finished outcome) : (state.perform cfg x).worker = .finished outcome := by
  simp only [DeepRun.perform, h]

theorem finished_of_reply {answer : (c : DeepCall Float) → DeepReply c}
    {outcome : WorkerOutcome Float}
    (h : state.reply answer .awaitWorker = some (WaitEnd.done outcome)) :
    ∃ ended, state.worker = .finished ended := by
  simp only [DeepRun.reply] at h
  split at h
  · exact ⟨_, ‹_›⟩
  · cases h
  · rename_i hnot _
    exact absurd (Option.some.inj h) (hnot outcome)

theorem runInv_main (h : RunInv cfg state history) {answer : (c : DeepCall Float) → DeepReply c}
    (hpending : NothingPending state (.main answer)) {c : DeepCall Float}
    {next : DeepReply c → Thread Float}
    (hmain : state.main = .call c next) {reply : DeepReply c}
    (hreply : state.reply answer c = some reply) :
    RunInv cfg { state.perform cfg ⟨c, reply⟩ with main := next reply }
      (history ++ [⟨c, reply⟩]) := by
  have hreaches := h.reaches
  rw [hmain] at hreaches
  have hnext : EndsLast (history ++ [⟨c, reply⟩]) :=
    (hreaches.call reply).beginning (anyReply cfg.num) (fun _ _ => EndsLast.beginning) fun _ _ =>
      main_endsLast cfg
  -- The exchange just made is the last, so it records nothing that counts after a terminal event.
  have hlast (hended : ∃ y ∈ history, Ends y) : ¬ Records ⟨c, reply⟩ := by
    obtain ⟨y, hy, hends⟩ := hended
    obtain ⟨before, after, rfl⟩ := List.append_of_mem hy
    exact (hnext before y (after ++ [⟨c, reply⟩]) (by simp) hends).2 _ (by simp)
  have hkept (rest : Thread Float) : (state.perform cfg ⟨c, reply⟩).worker = .inCallback rest →
      state.worker = .inCallback rest := inCallback_of_perform
  refine ⟨hreaches.call reply, fun other hmem => ?_, fun outcome hmem => ?_, fun hended => ?_, ?_,
    fun rest hworker => h.plain rest (hkept rest hworker), fun hended rest hworker => ?_⟩
  · rcases List.mem_append.mp hmem with hold | hnew
    · simp [DeepRun.perform, h.abort other hold]
    · simp only [DeepRun.perform]
      rw [← List.mem_singleton.mp hnew]
      simp
  · have hfinished : ∃ ended, state.worker = .finished ended := by
      rcases List.mem_append.mp hmem with hold | hnew
      · exact h.finished outcome hold
      · obtain ⟨rfl, hwaited⟩ := Exchange.mk.inj (List.mem_singleton.mp hnew)
        obtain rfl := eq_of_heq hwaited
        exact finished_of_reply hreply
    obtain ⟨ended, hended⟩ := hfinished
    have hstill : (state.perform cfg ⟨c, reply⟩).worker = .finished ended :=
      perform_worker_finished hended
    exact ⟨ended, hstill⟩
  · rcases ended_append hended with hold | ⟨new, hnew, hterminal⟩
    · obtain ⟨y, hy, hends⟩ := h.ended hold
      exact ⟨y, List.mem_append_left _ hy, hends⟩
    · exact ⟨⟨c, reply⟩, by simp, state.evtSequence, new, hnew, hterminal⟩
  · exact h.settled.append fun hended => not_counts_of_not_records (hlast (h.ended hended))
  · have hbefore := hkept rest hworker
    rcases ended_append hended with hold | ⟨new, hnew, hterminal⟩
    · exact h.inert hold rest hbefore
    · exact hpending c next reply hmain hreply ⟨state.evtSequence, new, hnew, hterminal⟩ rest
        hbefore

theorem abortSet_of_reply (habort : state.abort = true)
    {answer : (c : DeepCall Float) → DeepReply c} {c : DeepCall Float} {reply : DeepReply c}
    (hreply : state.reply answer c = some reply) :
    AbortSet ⟨c, reply⟩ := by
  cases c with
  | abortIsSet =>
      rw [← Option.some.inj hreply]
      exact habort
  | _ => trivial

theorem exists_abortSet (num : NumOps Float) (c : DeepCall Float) :
    ∃ reply : DeepReply c, AbortSet ⟨c, reply⟩ := by
  refine ⟨anyReply num c, ?_⟩
  cases c <;> trivial

theorem runInv_worker (h : RunInv cfg state history) {answer : (c : DeepCall Float) → DeepReply c}
    {c : DeepCall Float} {next : DeepReply c → Thread Float}
    (hworker : state.worker = .inCallback (.call c next)) {reply : DeepReply c}
    (hreply : state.reply answer c = some reply) :
    RunInv cfg { state.perform cfg ⟨c, reply⟩ with worker := .inCallback (next reply) }
      history := by
  have hplain : ∀ log result, (next reply).Runs log result → ∀ y ∈ ⟨c, reply⟩ :: log, ¬ Ends y :=
    fun log result hrun => h.plain _ hworker _ result (.call hrun)
  have hnotEnds : ¬ Ends ⟨c, reply⟩ :=
    hplain _ _ (runs_play (fun _ => anyReply cfg.num) 0 (next reply)) _ List.mem_cons_self
  have hold {log' : List (RunRecord Float)}
      (heq : log' = state.log ++ (recorded state.evtSequence ⟨c, reply⟩).toList)
      (hended : Ended log') : Ended state.log := by
    rw [heq] at hended
    refine (ended_append hended).resolve_right ?_
    rintro ⟨new, hnew, hterminal⟩
    exact hnotEnds ⟨state.evtSequence, new, hnew, hterminal⟩
  -- After the end the flag is set, for the worker has not ended.
  have hinert (hended : Ended state.log) : ¬ Records ⟨c, reply⟩ ∧
      (next reply).Inert AbortSet Records := by
    obtain ⟨y, hy, hends⟩ := h.ended hended
    obtain ⟨before, after, rfl⟩ := List.append_of_mem hy
    have hstopped : Stopped (before ++ y :: after) :=
      (h.endsLast before y after rfl hends).1.append _
    rcases h.stopped hstopped with habort | ⟨outcome, hfinished⟩
    · exact (h.inert hended _ hworker).call (exists_abortSet cfg.num)
        (abortSet_of_reply habort hreply)
    · rw [hworker] at hfinished
      cases hfinished
  refine ⟨h.reaches, fun other hmem => ?_, fun outcome hmem => ?_, fun hended =>
    h.ended (hold rfl hended), ?_,
    fun rest hrest => ?_, fun hended rest hrest => ?_⟩
  · simp [DeepRun.perform, h.abort other hmem]
  · obtain ⟨ended, hfinished⟩ := h.finished outcome hmem
    rw [hworker] at hfinished
    cases hfinished
  · exact h.settled.append fun hended => not_counts_of_not_records (hinert hended).1
  · obtain rfl := WorkerThread.inCallback.inj hrest
    exact fun log result hrun y hy => hplain log result hrun y (List.mem_cons_of_mem _ hy)
  · obtain rfl := WorkerThread.inCallback.inj hrest
    exact (hinert (hold rfl hended)).2

theorem RunInv.setWorker (h : RunInv cfg state history) {worker : WorkerThread Float}
    {recorder : Option (Recorder Float)}
    (hfinished : ∀ ended, state.worker = .finished ended → worker = .finished ended)
    (hplain : ∀ rest, worker = .inCallback rest → ∀ log result, rest.Runs log result →
      ∀ x ∈ log, ¬ Ends x)
    (hinert : Ended state.log → ∀ rest, worker = .inCallback rest → rest.Inert AbortSet Records) :
    RunInv cfg { state with worker, recorder } history := by
  refine ⟨h.reaches, h.abort, fun outcome hmem => ?_, h.ended, h.settled, hplain, hinert⟩
  obtain ⟨ended, hended⟩ := h.finished outcome hmem
  exact ⟨ended, hfinished ended hended⟩

theorem runInv_callbackBegins (h : RunInv cfg state history) (hworker : state.worker = .between)
    (event : Callback Float) (recorder : Recorder Float) :
    RunInv cfg { state with worker := .inCallback ((callback cfg event).run.run recorder) }
      history := by
  refine h.setWorker (fun ended hended => ?_) (fun rest hrest log result hrun => ?_)
    fun _ rest hrest => ?_
  · rw [hworker] at hended
    cases hended
  · obtain rfl := WorkerThread.inCallback.inj hrest
    have hopen : Keeps (fun history _ => Open history) (fun _ history _ => Open history)
        (callback cfg event) :=
      (framed_callback cfg event).keeps stable_open fun _ _ _ h => h
    have hend := hopen [] recorder (fun _ hx => absurd hx List.not_mem_nil) log result.1 result.2
      hrun
    obtain ⟨result, final⟩ := result
    cases result with
    | ok _ => exact hend
    | error error => exact hend
  · obtain rfl := WorkerThread.inCallback.inj hrest
    exact callback_inert cfg event recorder

def Tracked (cfg : DeepConfig Float) (state : DeepRun Float) : Prop :=
  ∃ history, RunInv cfg state history

theorem tracked_step (h : Tracked cfg state) {label : DeepLabel Float}
    (hpending : NothingPending state label) {next : DeepRun Float}
    (hstep : (deepMachine cfg).step state label = some next) : Tracked cfg next := by
  obtain ⟨history, hinv⟩ := h
  cases label with
  | main answer =>
      simp only [deepMachine] at hstep
      split at hstep
      · cases hstep
      · rename_i c rest hmain
        obtain ⟨reply, hreply, rfl⟩ := Option.map_eq_some_iff.mp hstep
        exact ⟨_, runInv_main hinv hpending hmain hreply⟩
  | callbackBegins event =>
      simp only [deepMachine] at hstep
      split at hstep
      · rename_i recorder hworker _
        obtain rfl := Option.some.inj hstep
        exact ⟨history, runInv_callbackBegins hinv hworker event recorder⟩
      · cases hstep
  | worker answer =>
      simp only [deepMachine] at hstep
      split at hstep
      · rename_i c rest hworker
        obtain ⟨reply, hreply, rfl⟩ := Option.map_eq_some_iff.mp hstep
        exact ⟨history, runInv_worker hinv hworker hreply⟩
      · rename_i hworker
        obtain rfl := Option.some.inj hstep
        refine ⟨history, hinv.setWorker (fun ended hended => ?_) (by simp) (by simp)⟩
        rw [hworker] at hended
        cases hended
      · cases hstep
  | workerEnds outcome =>
      simp only [deepMachine] at hstep
      split at hstep
      · rename_i hworker
        obtain rfl := Option.some.inj hstep
        refine ⟨history, hinv.setWorker (fun ended hended => ?_) (by simp) (by simp)⟩
        rw [hworker] at hended
        cases hended
      · cases hstep

/-- In every run in which no callback has something left to record when the terminal event is
published, nothing is recorded after it. -/
theorem nothing_recorded_after_end (cfg : DeepConfig Float) (labels : List (DeepLabel Float))
    (final : DeepRun Float)
    (hmeets : (deepMachine cfg).Meets NothingPending (DeepRun.start cfg) labels)
    (hrun : (deepMachine cfg).run (DeepRun.start cfg) labels = some final) : Settled final.log := by
  have hinv : Tracked cfg final :=
    Machine.run_invariant_of_meets (fun _ _ _ h hpending hstep => tracked_step h hpending hstep)
      ⟨[], runInv_start⟩ hmeets hrun
  obtain ⟨history, hinv⟩ := hinv
  exact hinv.settled

end Machine

section Examples

def wholeNumbers : NumOps Int where
  ofInt := some
  zero := 0
  isZero := fun x => x = 0
  isPositive := fun x => 0 < x
  add := (· + ·)
  sub := (· - ·)
  mul := (· * ·)
  div := (· / ·)

def plainFormat : PyFormat Int := ⟨fun _ => "", fun _ => "", fun _ _ _ => ""⟩

def noPrices : PricingTable Int := ⟨"v1", [], 1000000⟩

def sampleRun : DeepConfig Int where
  num := wholeNumbers
  fmt := plainFormat
  loads := fun _ => none
  millis := fun x => x
  prompt := "How many trips?"
  runId := "run"
  conversationId := "conversation"
  nextSeq := 2
  budgets := { timeoutSeconds := 60, maxEstimatedCostUsd := 1 }
  pricing := noPrices
  defaultPricing := noPrices
  agentAlias := "planner"

def cancelledWait : (c : DeepCall Int) → DeepReply c
  | .isCancelled => false
  | c => anyReply wholeNumbers c

def mainSteps (n : Nat) : List (DeepLabel Int) := List.replicate n (.main cancelledWait)

def workerSteps (n : Nat) : List (DeepLabel Int) := List.replicate n (.worker cancelledWait)

def toolBegins : DeepLabel Int :=
  .callbackBegins (.toolStart "tool" "describe_taxi_dataset" "" none)

inductive RecordKind where
  | event (type : RunEventType)
  | step
  | message
  | charge
  | run
deriving DecidableEq

def RunRecord.kind : RunRecord Int → RecordKind
  | .event told => .event told.eventType
  | .step _ => .step
  | .message _ => .message
  | .charge _ => .charge
  | .run _ => .run

def kindsAfter (labels : List (DeepLabel Int)) : Option (List RecordKind) :=
  ((deepMachine sampleRun).run (DeepRun.start sampleRun) labels).map fun final =>
    final.log.map RunRecord.kind

def orderedRun : List (DeepLabel Int) := mainSteps 5 ++ toolBegins :: workerSteps 8 ++ mainSteps 10

def lateRun : List (DeepLabel Int) :=
  mainSteps 5 ++ toolBegins :: workerSteps 3 ++ mainSteps 7 ++ workerSteps 1

def takesTurns (state : DeepRun Int) : DeepLabel Int → Bool
  | .main _ => match state.worker with
    | .inCallback _ => false
    | _ => true
  | _ => true

theorem nothingPending_of_takesTurns (state : DeepRun Int) (label : DeepLabel Int)
    (h : takesTurns state label = true) : NothingPending state label := by
  cases label with
  | main answer =>
      intro c next reply _ _ _ rest hworker
      simp [takesTurns, hworker] at h
  | _ => trivial

theorem nothing_recorded_after_end_example :
    ∃ final, (deepMachine sampleRun).run (DeepRun.start sampleRun) orderedRun = some final ∧
      final.log.map RunRecord.kind = [.event .toolRequested, .event .toolStarted, .run,
      .event .runCancelled] ∧
      Settled final.log := by
  have hkinds : kindsAfter orderedRun =
      some [.event .toolRequested, .event .toolStarted, .run, .event .runCancelled] := rfl
  obtain ⟨final, hrun, hlog⟩ := Option.map_eq_some_iff.mp hkinds
  have hmeets : (deepMachine sampleRun).Meets NothingPending (DeepRun.start sampleRun) orderedRun :=
    Machine.meets_of_passes nothingPending_of_takesTurns rfl
  exact ⟨final, hrun, hlog, nothing_recorded_after_end sampleRun orderedRun final hmeets hrun⟩

theorem terminal_of_kind {record : RunRecord Int} (h : record.kind = .event .runCancelled) :
    record.Terminal := by
  cases record with
  | event told =>
      have htype : told.eventType = .runCancelled := RecordKind.event.inj h
      rw [RunRecord.Terminal, htype]
      rfl
  | _ => cases h

theorem counts_of_kind {record : RunRecord Int} {type : RunEventType}
    (h : record.kind = .event type) : record.Counts := by
  cases record with
  | event told => trivial
  | _ => cases h

theorem not_settled_of_kinds {log : List (RunRecord Int)} (h : log.map RunRecord.kind =
    [.run, .event .runCancelled, .event .toolRequested]) : ¬ Settled log := by
  obtain ⟨first, rest, rfl, -, hrest⟩ := List.map_eq_cons_iff.mp h
  obtain ⟨told, after, rfl, htold, hafter⟩ := List.map_eq_cons_iff.mp hrest
  obtain ⟨later, _, rfl, hlater, -⟩ := List.map_eq_cons_iff.mp hafter
  intro hsettled
  exact hsettled [first] told (later :: _) rfl (terminal_of_kind htold) later (by simp)
    (counts_of_kind hlater)

/-- The callback's events follow the terminal event. -/
theorem late_tool_requested :
    ∃ final, (deepMachine sampleRun).run (DeepRun.start sampleRun) lateRun = some final ∧
      ¬ Settled final.log := by
  have hkinds : kindsAfter lateRun = some [.run, .event .runCancelled, .event .toolRequested] := rfl
  obtain ⟨final, hrun, hlog⟩ := Option.map_eq_some_iff.mp hkinds
  exact ⟨final, hrun, not_settled_of_kinds hlog⟩

end Examples

end AiAnalytics.App.DeepAgents
