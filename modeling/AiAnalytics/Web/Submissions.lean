import AiAnalytics.Lib.Machine
import AiAnalytics.Lib.OrderedDict

/-!
# Submissions of the web client

The page keeps one form and any number of submissions that are not over. What a submission does
between two `await`s is one step of the machine. A submission whose signal was aborted goes on with
the rest of `submitPrompt`, its `finally` block included. What only the page displays is left out.
-/

namespace AiAnalytics.Web

open Lib

abbrev Text := List Char

section Text

def isTrimmed (c : Char) : Bool :=
  let n := c.toNat
  (9 ≤ n ∧ n ≤ 13) ∨ n = 0x20 ∨ n = 0xa0 ∨ n = 0x1680 ∨ (0x2000 ≤ n ∧ n ≤ 0x200a) ∨ n = 0x2028 ∨
    n = 0x2029 ∨ n = 0x202f ∨ n = 0x205f ∨ n = 0x3000 ∨ n = 0xfeff

def trim (text : Text) : Text :=
  ((text.dropWhile isTrimmed).reverse.dropWhile isTrimmed).reverse

def truthy (value : Option String) : Bool := value.getD "" ≠ ""

end Text

section Payloads

structure RunAccepted where
  runId : String
  conversationId : String
  eventsUrl : String
deriving DecidableEq

structure RunRequest where
  prompt : Text
  conversationId : Option String
deriving DecidableEq

structure AskUsage where
  inputTokens : Int
  outputTokens : Int
  totalTokens : Int
deriving DecidableEq

structure AskResponse where
  answer : Text
  usage : AskUsage
  latencyMs : Int
  conversationId : String
  runId : String
deriving DecidableEq

structure ConversationSnapshot where
  conversationId : String
  runs : List String

structure TerminalPayload where
  inputTokens : Option Int
  outputTokens : Option Int
  totalTokens : Option Int
  endToEndLatencyMs : Option Int

inductive TerminalType where
  | completed | failed | budgetExceeded | cancelled
deriving DecidableEq

inductive SseEvent where
  | delta (delta : Text)
  | terminal (eventType : TerminalType) (payload : TerminalPayload)
  | other

inductive RunsReply where
  /-- `fetch` rejects; `aborted` says that the error's name is `AbortError`. -/
  | rejected (aborted : Bool) (message : String)
  /-- The body is no JSON, or reading it was aborted. -/
  | unreadable (ok : Bool) (status : Nat)
  /-- Not ok, with the code and the flag of its detail. -/
  | refused (code : Option String) (retryable : Bool)
  /-- A body that the code cannot take apart; reading it throws. -/
  | malformed (message : String)
  | accepted (run : RunAccepted)

end Payloads

section State

inductive Phase where
  /-- In the `try` block, before the run is accepted. -/
  | posting
  | streaming (run : RunAccepted) (accumulatedAnswer : Text)
  /-- The stream is closed and its promise resolved. -/
  | streamed (run : RunAccepted) (finalAnswer : Option AskResponse)
  /-- In `hydrateConversation`. -/
  | reloading (run : RunAccepted) (version : Nat)
  | reloaded
deriving DecidableEq

structure Submission where
  request : RunRequest
  /-- The signal of its abort controller. -/
  aborted : Bool
  phase : Phase
deriving DecidableEq

structure Form where
  isRunning : Bool
  isCancelling : Bool
  prompt : Text
  activeRunId : Option String
  /-- The controller is named by its submission. -/
  activeAbortController : Option Nat
  streamingAnswer : Text
  answer : Option AskResponse
deriving DecidableEq

structure App where
  form : Form
  promptError : Option String
  conversationId : Option String
  /-- The pointer in the local storage. -/
  storedConversation : Option String
  hydrationVersion : Nat
  /-- The number of submissions so far; they are numbered from 1. -/
  started : Nat
  /-- Those that are not over. -/
  submissions : OrderedDict Nat Submission
  /-- The cancel requests that are awaited, each by the newest submission when it was sent. -/
  cancelCalls : List Nat
  /-- The version of the reload at mount, while it is awaited. -/
  savedReload : Option Nat

def App.mount (stored : Option String) : App where
  form := ⟨false, false, [], none, none, [], none⟩
  promptError := none
  conversationId := none
  storedConversation := stored
  hydrationVersion := if truthy stored then 1 else 0
  started := 0
  submissions := .empty
  cancelCalls := []
  savedReload := if truthy stored then some 1 else none

inductive SubmissionEvent where
  | replied (reply : RunsReply)
  /-- `new EventSource` throws on the URL of its run. -/
  | streamRefused (message : String)
  | streamed (event : SseEvent)
  /-- The stream's `error` event -/
  | streamError
  /-- The code after the stream's promise. -/
  | resumed
  /-- The reload has ended, with a snapshot unless it failed. -/
  | reloaded (snapshot : Option ConversationSnapshot)
  /-- The code after `hydrateConversation`. -/
  | finished

inductive Label where
  /-- The text area or a sample question. -/
  | edit (prompt : Text)
  | voiceTranscript (text : Text)
  | submit
  | submission (id : Nat) (event : SubmissionEvent)
  | cancel
  /-- The cancel request has ended, well or not. -/
  | cancelReturned (submission : Nat)
  | savedReloaded (snapshot : Option ConversationSnapshot)
  | inspectRun (runId : String)
  | newConversation

end State

namespace App

section Hydration

/-- The end of `hydrateConversation` -/
def hydrated (app : App) (version : Nat) (selectedRunId : Option String)
    (clearPointerOnFailure : Bool) (snapshot : Option ConversationSnapshot) : App :=
  match snapshot with
  | some snapshot =>
      if app.hydrationVersion ≠ version then app
      else { app with
        conversationId := some snapshot.conversationId
        form := { app.form with activeRunId := selectedRunId <|> snapshot.runs.getLast? } }
  | none =>
      if clearPointerOnFailure ∧ app.hydrationVersion = version then
        { app with storedConversation := none } else app

end Hydration

section SubmitPrompt

def submits (app : App) : Bool := trim app.form.prompt ≠ [] && !app.form.isRunning

def submitPrompt (app : App) : App :=
  if app.submits then
    { app with
      hydrationVersion := app.hydrationVersion + 1
      form := { app.form with
        isRunning := true
        answer := none
        streamingAnswer := []
        activeAbortController := some (app.started + 1) }
      promptError := none
      started := app.started + 1
      submissions := app.submissions.set (app.started + 1)
        { request := ⟨trim app.form.prompt,
            if truthy app.conversationId then app.conversationId else none⟩
          aborted := false
          phase := .posting } }
  else app

def finallyBlock (app : App) (id : Nat) : App :=
  { app with
    form :=
      { app.form with activeAbortController := none, isRunning := false, isCancelling := false }
    submissions := app.submissions.pop id }

def caught (app : App) (id : Nat) (message : Option String) : App :=
  { app.finallyBlock id with promptError := message <|> app.promptError }

def failureMessage : RunsReply → Option String
  | .rejected aborted message => if aborted then none else some message
  | .unreadable ok status =>
      some (if ok then "Invalid server response format."
        else s!"Analytics service unavailable ({status}). Try again.")
  | .refused code retryable =>
      some (if code = some "mcp_tool_error" ∧ retryable then
        "The query service is temporarily unavailable. Try again."
      else "The analytics request could not be completed. Try again.")
  | .malformed message => some message
  | .accepted _ => none

def setPhase (app : App) (id : Nat) (submission : Submission) (phase : Phase) : App :=
  { app with submissions := app.submissions.set id { submission with phase := phase } }

def accept (app : App) (id : Nat) (submission : Submission) (run : RunAccepted) : App :=
  { app.setPhase id submission (.streaming run []) with
    form := { app.form with activeRunId := some run.runId }
    conversationId := some run.conversationId
    storedConversation := some run.conversationId }

def finalAnswer (run : RunAccepted) (accumulatedAnswer : Text) (eventType : TerminalType)
    (payload : TerminalPayload) : Option AskResponse :=
  if accumulatedAnswer = [] then none
  else some
    { answer := if eventType = .cancelled then accumulatedAnswer ++ " [interrupted]".toList
        else accumulatedAnswer
      usage := ⟨payload.inputTokens.getD 0, payload.outputTokens.getD 0, payload.totalTokens.getD 0⟩
      latencyMs := payload.endToEndLatencyMs.getD 0
      conversationId := run.conversationId
      runId := run.runId }

def handleRawEvent (app : App) (id : Nat) (submission : Submission) (run : RunAccepted)
    (accumulatedAnswer : Text) : SseEvent → App
  | .delta delta =>
      { app.setPhase id submission (.streaming run (accumulatedAnswer ++ delta)) with
        form := { app.form with streamingAnswer := accumulatedAnswer ++ delta } }
  | .terminal eventType payload =>
      app.setPhase id submission (.streamed run
        (finalAnswer run accumulatedAnswer eventType payload))
  | .other => app

def resume (app : App) (id : Nat) (submission : Submission) (run : RunAccepted)
    (final : Option AskResponse) : App :=
  { app.setPhase id submission (.reloading run (app.hydrationVersion + 1)) with
    form := if final.isSome then { app.form with answer := final, streamingAnswer := [] }
      else app.form
    hydrationVersion := app.hydrationVersion + 1 }

def advance (app : App) (id : Nat) (submission : Submission) (event : SubmissionEvent) :
    Option App :=
  match submission.phase, event with
  | .posting, .replied (.accepted run) => some (app.accept id submission run)
  | .posting, .replied reply => some (app.caught id (failureMessage reply))
  | .streaming _ [], .streamRefused message => some (app.caught id (some message))
  | .streaming run accumulatedAnswer, .streamed event =>
      some (app.handleRawEvent id submission run accumulatedAnswer event)
  | .streaming run _, .streamError => some (app.setPhase id submission (.streamed run none))
  | .streamed run final, .resumed => some (app.resume id submission run final)
  | .reloading run version, .reloaded snapshot =>
      some ((app.hydrated version (some run.runId) false snapshot).setPhase id submission .reloaded)
  | .reloaded, .finished =>
      some ({ app with form := { app.form with prompt := [] } }.finallyBlock id)
  | _, _ => none

end SubmitPrompt

section Cancel

def handleCancelRun (app : App) : App :=
  if !truthy app.form.activeRunId || app.form.isCancelling then app
  else { app with
    form := { app.form with isCancelling := true }
    cancelCalls := app.cancelCalls ++ [app.started] }

/-- What aborting its controller does to a submission: the listener of an open stream closes it. One
that was added to an aborted signal is never called. -/
def abortedSubmission (submission : Submission) : Submission where
  request := submission.request
  aborted := true
  phase :=
    match submission.phase, submission.aborted with
    | .streaming run _, false => .streamed run none
    | phase, _ => phase

/-- `activeAbortController.current.abort()` -/
def abortActive (app : App) : OrderedDict Nat Submission :=
  match app.form.activeAbortController with
  | none => app.submissions
  | some id => match app.submissions.get? id with
    | none => app.submissions
    | some submission => app.submissions.set id (abortedSubmission submission)

def cancelReturned (app : App) (submission : Nat) : App :=
  { app with
    form :=
      { app.form with isRunning := false, isCancelling := false, activeAbortController := none }
    submissions := app.abortActive
    cancelCalls := app.cancelCalls.erase submission }

end Cancel

def handleVoiceTranscript (app : App) (text : Text) : App :=
  let trimmed := trim app.form.prompt
  { app with
    form := { app.form with prompt := if trimmed = [] then text else trimmed ++ ' ' :: text } }

def handleInspectRun (app : App) (runId : String) : App :=
  { app with
    hydrationVersion := app.hydrationVersion + 1
    form := { app.form with activeRunId := some runId } }

def newConversation (app : App) : App :=
  { app with
    hydrationVersion := app.hydrationVersion + 1
    conversationId := none
    storedConversation := none
    form := { app.form with activeRunId := none, answer := none } }

end App

def webClient : Machine App Label where
  step app
    | .edit prompt => some { app with form := { app.form with prompt := prompt } }
    | .voiceTranscript text => some (app.handleVoiceTranscript text)
    | .submit => some app.submitPrompt
    | .submission id event =>
      (app.submissions.get? id).bind fun submission => app.advance id submission event
    | .cancel => if app.form.isRunning then some app.handleCancelRun else none
    | .cancelReturned submission =>
        if submission ∈ app.cancelCalls then some (app.cancelReturned submission) else none
    | .savedReloaded snapshot =>
        app.savedReload.map fun version =>
          { app.hydrated version none true snapshot with savedReload := none }
    | .inspectRun runId => some (app.handleInspectRun runId)
    | .newConversation =>
        if truthy app.conversationId && !app.form.isRunning then some app.newConversation else none

end AiAnalytics.Web
