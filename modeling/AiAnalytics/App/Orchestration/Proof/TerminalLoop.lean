import AiAnalytics.App.Orchestration.Proof.LoopStages

/-!
# How a run of the loop ends

Every way out of `_execute_loop` is judged by what it leaves behind: the stored record of the run
and its terminal events. Before the terminal record nothing terminal is written, so a run that is
left by an exception without a clause stays as it was prepared. The three clauses and the two normal
ends write the record and publish one event with the status of the record.
-/

namespace AiAnalytics.App.Loop

open Lib Lib.Prog

variable {Float : Type} (cfg : LoopConfig Float)

section Endings

def terminalEvents (state : LoopState Float) : List (RunEvent Float) :=
  state.events.filter fun event => event.eventType.endsWith.isSome

/-- The stored run is terminal, and one terminal event was published for it, with the same
status. -/
def EndsTerminal (state : LoopState Float) : Prop :=
  state.stored.status.Terminal ∧
    ∃ event, terminalEvents state = [event] ∧ event.runId = cfg.run.runId ∧
      event.eventType.endsWith = some state.stored.status ∧
      event.payload.lookup "status" = some (.str (statusText state.stored.status))

def Unrecorded (state : LoopState Float) : Prop :=
  ¬ state.stored.status.Terminal ∧ terminalEvents state = []

def Clean (history : History Float) : Prop := ∀ x ∈ history, ¬ Escapes x

def Live (history : History Float) (state : LoopState Float) : Prop :=
  Unrecorded state ∧ Clean history

def Ended (history : History Float) (state : LoopState Float) : Prop :=
  EndsTerminal cfg state ∧ Clean history

def Left (error : LoopError Float) (history : History Float) (state : LoopState Float) : Prop :=
  Unrecorded state ∧ (Handled error ↔ Clean history)

theorem clean_append_singleton {history : History Float} {x : Exchange (@LoopReply Float)} :
    Clean (history ++ [x]) ↔ Clean history ∧ ¬ Escapes x := by
  unfold Clean
  constructor
  · intro hclean
    exact ⟨fun y hy => hclean y (List.mem_append_left _ hy), hclean x (by simp)⟩
  · rintro ⟨hclean, hx⟩ y hy
    rcases List.mem_append.mp hy with hy | hy
    · exact hclean y hy
    · rw [List.mem_singleton.mp hy]
      exact hx

theorem unrecorded_of_sameRecords {state next : LoopState Float} (hsame : SameRecords state next)
    (hopen : Unrecorded state) : Unrecorded next := by
  unfold Unrecorded terminalEvents at *
  rw [hsame.stored, hsame.events]
  exact hopen

theorem terminalEvents_publish {state : LoopState Float} {event : Int → RunEvent Float}
    (hquiet : (event state.evtSequence).eventType.endsWith = none) :
    terminalEvents (state.publish event) = terminalEvents state := by
  simp [terminalEvents, LoopState.publish, hquiet]

theorem live_exchange (x : Exchange (@LoopReply Float)) (history : History Float)
    (state : LoopState Float) (hx : ¬ Escapes x) (hlive : Live history state) :
    Live (history ++ [x]) state :=
  ⟨hlive.1, clean_append_singleton.mpr ⟨hlive.2, hx⟩⟩

theorem carried_live : Carried (@Live Float) where
  exchange x history state hx :=
    live_exchange x history state fun hescapes => hx (notable_of_escapes hescapes)
  locals history state next hsame hlive := ⟨unrecorded_of_sameRecords hsame hlive.1, hlive.2⟩
  publish event history state hquiet _ hlive := by
    refine ⟨⟨hlive.1.1, ?_⟩, hlive.2⟩
    rw [terminalEvents_publish hquiet]
    exact hlive.1.2
  step _ _ _ _ hlive := hlive
  lastStep _ _ _ hlive := hlive
  message _ _ _ hlive := hlive

end Endings

section Records

variable {err : LoopError Float → History Float → LoopState Float → Prop} {ending : Ending Float}

theorem endsWith_terminalEvent {status : RunStatus} (hstatus : status.Terminal) :
    (terminalEvent status).endsWith = some status := by
  rcases hstatus with rfl | rfl | rfl | rfl <;> rfl

theorem lookup_status_terminalRunPayload (status : RunStatus) (tracker : BudgetTracker Float)
    (failureCode : Option String) (runTelemetry extras : Dict Float) :
    (terminalRunPayload status tracker failureCode runTelemetry extras).lookup "status" =
      some (.str (statusText status)) := rfl

theorem endsTerminal_publish {state : LoopState Float} {event : Int → RunEvent Float}
    {status : RunStatus} (hstored : state.stored.status = status) (hstatus : status.Terminal)
    (hnone : terminalEvents state = []) (hrun : (event state.evtSequence).runId = cfg.run.runId)
    (hends : (event state.evtSequence).eventType.endsWith = some status)
    (hpayload : (event state.evtSequence).payload.lookup "status" =
      some (.str (statusText status))) :
    EndsTerminal cfg (state.publish event) := by
  subst hstored
  refine ⟨hstatus, event state.evtSequence, ?_, hrun, hends, hpayload⟩
  unfold terminalEvents LoopState.publish at *
  rw [List.filter_append, hnone]
  simp [hends]

theorem ensures_recordTerminal (hstatus : ending.status.Terminal) (runTelemetry : Dict Float) :
    Ensures Live (recordTerminal cfg ending runTelemetry) (fun _ => Ended cfg) err := by
  apply ensures_bind (keeps_request carried_live.toLogged fun _ => id)
  intro completedAt
  apply ensures_bind keeps_get
  intro start
  have hupdate : Ensures Live (updateRun (terminalRun cfg start ending completedAt runTelemetry))
      (fun _ history state => state.stored.status = ending.status ∧ terminalEvents state = [] ∧
        Clean history) err := by
    apply ensures_modify
    intro history state hlive
    exact ⟨rfl, hlive.1.2, hlive.2⟩
  apply ensures_bind hupdate
  intro _
  apply ensures_modify
  rintro history state ⟨hstored, hnone, hclean⟩
  have hends := endsWith_terminalEvent hstatus
  exact ⟨endsTerminal_publish cfg hstored hstatus hnone rfl hends
    (lookup_status_terminalRunPayload _ _ _ _ _), hclean⟩

theorem ensures_finishRun (hstatus : ending.status.Terminal) (answer : String)
    (latency : LoopState Float → Int → Int) :
    Ensures Live (finishRun cfg answer ending latency) (fun _ => Ended cfg) err := by
  apply ensures_bind keeps_get
  intro start
  apply ensures_bind (keeps_millisSince cfg carried_live.toLogged _)
  intro latencyMs
  apply ensures_bind
  · exact keeps_ite keeps_pure (keeps_addMessage cfg carried_live.toLogged _ _ _)
  intro _
  apply ensures_bind (ensures_recordTerminal cfg hstatus _)
  intro _
  apply ensures_bind (ensures_get fun _ _ hended => hended)
  intro state
  exact ensures_pure fun _ _ hended => hended

def Raised (history : History Float) (state : LoopState Float) : Prop :=
  Ended cfg history state ∨ (Unrecorded state ∧ ¬ Clean history)

theorem ensures_finishRun_of_left {error : LoopError Float} (hhandled : Handled error)
    (hstatus : ending.status.Terminal) (answer : String) (latency : LoopState Float → Int → Int) :
    Ensures (Left error) (finishRun cfg answer ending latency) (fun _ => Ended cfg) err := by
  apply (ensures_finishRun cfg hstatus answer latency).weaken
  · intro history state hleft
    exact ⟨hleft.1, hleft.2.mp hhandled⟩
  · exact fun _ _ _ hended => hended
  · exact fun _ _ _ hraised => hraised

theorem ensures_throw_of_left {error : LoopError Float} (hunhandled : ¬ Handled error) :
    Ensures (Left error) (throw error : LoopM Float (LoopResult Float)) (fun _ => Ended cfg)
      (fun _ => Raised cfg) := by
  apply ensures_throw
  intro history state hleft
  exact .inr ⟨hleft.1, fun hclean => hunhandled (hleft.2.mpr hclean)⟩

theorem ensures_recordError (error : LoopError Float) :
    Ensures (Left error) (recordError cfg error) (fun _ => Ended cfg) (fun _ => Raised cfg) := by
  cases error with
  | runCancelled partialText =>
      apply ensures_finishRun_of_left cfg
      · trivial
      · exact .inr (.inr (.inr rfl))
  | budgetExceeded error =>
      apply ensures_finishRun_of_left cfg
      · trivial
      · exact .inr (.inr (.inl rfl))
  | orchestration error =>
      apply ensures_bind
      · apply ensures_finishRun_of_left cfg
        · trivial
        · exact .inr (.inl rfl)
      · intro _
        exact ensures_throw fun _ _ hended => .inl hended
  | llmConfiguration message => exact ensures_throw_of_left cfg id
  | fault fault => exact ensures_throw_of_left cfg id

end Records

section Runs

variable {cfg} {messages : List (Message Float)} {nextSeq : Int} {log : History Float}
  {result : Except (LoopError Float) (LoopResult Float)} {final : LoopState Float}

def sampleConfig : LoopConfig Int where
  num :=
    { ofInt := fun n => some n
      zero := 0
      isZero := fun x => x = 0
      isPositive := fun x => 0 < x
      add := (· + ·)
      sub := (· - ·)
      mul := (· * ·)
      div := (· / ·) }
  fmt := { repr := fun _ => "", fixed4 := fun _ => "", dumps := fun _ _ _ => "" }
  millis := fun x => x * 1000
  prompt := "Which zones are busiest?"
  conversationId := "conv_1"
  userMessageId := "msg_1"
  run := { runId := "run_1", conversationId := "conv_1", startedAt := "", estimatedCostUsd := 0 }
  budgets := { timeoutSeconds := 60, maxEstimatedCostUsd := 1 }
  halfTimeout := 30
  defaultPricing := { version := "", rates := [], million := 1000000 }

def sampleProposal : ToolProposalResult Int where
  modelId := "model"
  inputTokens := 100
  outputTokens := 10
  latencyMs := 5
  name := "query_taxi_data"
  arguments := .dict [("analysis", .str "top_pickup_zones")]

def sampleReply (retry : Except LLMError (ToolProposalResult Int)) :
    (call : LoopCall Int) → LoopReply call
  | .isCancelled => false
  | .submitted _ => (0 : Nat)
  | .newLlmCallId => "llm_1"
  | .newToolCallId => "tool_1"
  | .newStepId => "step_1"
  | .newMessageId => "msg_2"
  | .utcnow => ""
  | .monotonic => (0 : Int)
  | .elapsed => ((0 : Int), (0 : Int))
  | .getClients => .ok { serves := true, liteLLM := false, modelId := "model", streams := true }
  | .getDatasetSchema => .ok (.dict [])
  | .sanitizeDatasetSchema payload => .ok payload
  | .catalogueLookup _ => none
  | .proposeTaxiQuery .proposalRetry _ _ _ => retry
  | .proposeTaxiQuery _ _ _ _ => .ok sampleProposal
  | .estimate _ _ _ _ _ => .ok none
  | .validateProposal _ _ _ _ =>
      .ok { violations := [{ code := "missing_argument"
                             message := "required argument 'limit' is missing" }] }
  | .parseQueryProposal _ => none
  | .summarizeArguments _ => { argumentKeys := ["analysis"], argumentsSha256 := "" }
  | .governedTool _ _ => .ok (.dict [])
  | .sanitizeQueryResult payload => .ok payload
  | .scanObservation _ => []
  | .reduce _ _ _ _ => .dict []
  | .checkAnswerGrounding _ _ _ => .ok { caveat := none, ok := true, metadata := [] }
  | .kickoff _ _ => { calls := [], output := .ok "" }
  | .invokeModel _ _ _ => .error (.configuration "INFERENCE_MODEL_ID")
  | .streamAnswer _ _ _ => ([], .error (.configuration "INFERENCE_MODEL_ID"))
  | .answerWithQueryResult _ _ _ => .error (.configuration "INFERENCE_MODEL_ID")
  | .synthesizeSpeech _ => none

def samplePlay (retry : Except LLMError (ToolProposalResult Int)) :
    History Int × Except (LoopError Int) (LoopResult Int) × LoopState Int :=
  (executeLoop sampleConfig).play (fun _ => sampleReply retry) (initialState sampleConfig [] 2)

theorem runs_samplePlay (retry : Except LLMError (ToolProposalResult Int)) :
    (executeLoop sampleConfig).Runs (initialState sampleConfig [] 2) (samplePlay retry).1
      (samplePlay retry).2.1 (samplePlay retry).2.2 :=
  runs_play (executeLoop sampleConfig) (fun _ => sampleReply retry) (initialState sampleConfig [] 2)

end Runs

end AiAnalytics.App.Loop
