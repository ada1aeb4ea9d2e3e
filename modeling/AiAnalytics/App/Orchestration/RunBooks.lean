import AiAnalytics.App.Orchestration.LoopState
import AiAnalytics.Lib.Machine

/-!
# The books of a run

What a run of the loop counts and numbers: the tracker's totals, the list of calls, the requests it
has issued and the messages it has stored. The machine says in which order the loop writes these,
and which checks it makes before a request. All else of the loop is left to the labels.
-/

namespace AiAnalytics.App.Loop

open Lib

variable {Float : Type}

section Requests

inductive LlmRequest where
  | proposal
  | retry
  | crew
  | answer
deriving DecidableEq, Repr

def LoopCall.llmRequest : LoopCall Float → Option LlmRequest
  | .submitted (.proposeTaxiQuery .proposalRetry _ _ _) => some .retry
  | .submitted (.proposeTaxiQuery _ _ _ _) => some .proposal
  | .submitted (.invokeModel _ _ _) => some .crew
  | .streamAnswer _ _ _ => some .answer
  | .answerWithQueryResult _ _ _ => some .answer
  | _ => none

def LoopCall.isToolCall : LoopCall Float → Bool
  | .submitted (.governedTool _ _) => true
  | _ => false

end Requests

section Record

def tokenCount (key : String) (call : PyValue Float) : Int :=
  match call.entry key .none with
  | .int count => count
  | _ => 0

def listedTokens (key : String) (run : Run Float) : Int :=
  match run.metadata.lookup "llm_calls" with
  | some (.list calls) => (calls.map (tokenCount key)).sum
  | _ => 0

end Record

section Machine

/-- A recorded call is on its way into both ledgers: `counted` but not listed yet, or `listed` but
not counted yet, as a call of the agent strategy is. -/
inductive BookPhase where
  | idle
  | awaiting (request : LlmRequest)
  | counted (inputTokens outputTokens : Int)
  | listed (inputTokens outputTokens : Int)
  | unknownListed
  | ended
deriving DecidableEq, Repr

structure Books (Float : Type) where
  tracker : BudgetTracker Float
  listed : List (Option Int × Option Int) := []
  asked : List LlmRequest := []
  toolCalls : Nat := 0
  numbers : List Int := []
  nextSeq : Int
  phase : BookPhase := .idle

inductive BookStep (Float : Type) where
  | iterate (elapsed : Float × Float)
  | ask (request : LlmRequest)
  | count (inputTokens outputTokens : Int) (charge : CallCharge Float) (elapsed : Float × Float)
  | list (inputTokens outputTokens : Int)
  | listFailed (inputTokens outputTokens : Int)
  | listUnknown
  | callTool
  | countTool (resultBytes : Int) (elapsed : Float × Float)
  | store
  | advance

def Books.MayAsk (books : Books Float) : LlmRequest → Prop
  | .proposal => books.asked = []
  | .retry =>
      books.asked = [.proposal] ∧
        books.tracker.llmCallCount + 2 ≤ books.tracker.budgets.maxLlmCalls
  | .crew =>
      .answer ∉ books.asked ∧ books.tracker.llmCallCount < books.tracker.budgets.maxLlmCalls
  | .answer => .crew ∉ books.asked ∧ .answer ∉ books.asked

instance (books : Books Float) : DecidablePred books.MayAsk := fun request => by
  cases request <;> unfold Books.MayAsk <;> infer_instance

def phaseAfter (next : BookPhase) : Except (BudgetExceededError Float) Unit → BookPhase
  | .ok () => next
  | .error _ => .ended

def Books.record (books : Books Float) (next : BookPhase)
    (outcome : Except (BudgetExceededError Float) Unit × BudgetTracker Float) : Books Float :=
  { books with tracker := outcome.2, phase := phaseAfter next outcome.1 }

def Books.list (books : Books Float) (inputTokens outputTokens : Option Int) (next : BookPhase) :
    Books Float :=
  { books with listed := books.listed ++ [(inputTokens, outputTokens)], phase := next }

variable (num : NumOps Float) (fmt : PyFormat Float)

def bookStep (books : Books Float) : BookStep Float → Option (Books Float)
  | .iterate elapsed =>
      if books.phase = .idle then
        some (books.record .idle (books.tracker.recordIteration num fmt elapsed))
      else none
  | .ask request =>
      if books.phase = .idle ∧ books.MayAsk request then
        some { books with asked := books.asked ++ [request], phase := .awaiting request }
      else none
  | .count inputTokens outputTokens charge elapsed =>
      let outcome := books.tracker.recordLlmCall num fmt inputTokens outputTokens charge elapsed
      match books.phase with
      | .awaiting .crew => none
      | .awaiting _ => some (books.record (.counted inputTokens outputTokens) outcome)
      | .listed input output =>
          if inputTokens = input ∧ outputTokens = output then some (books.record .idle outcome)
          else none
      | .unknownListed =>
          if inputTokens = 0 ∧ outputTokens = 0 then some (books.record .ended outcome) else none
      | _ => none
  | .list inputTokens outputTokens =>
      match books.phase with
      | .awaiting .crew =>
          some (books.list (some inputTokens) (some outputTokens)
            (.listed inputTokens outputTokens))
      | .counted input output =>
          if inputTokens = input ∧ outputTokens = output then
            some (books.list (some inputTokens) (some outputTokens) .idle)
          else none
      | _ => none
  | .listFailed inputTokens outputTokens =>
      if books.phase = .awaiting .proposal then
        some (books.list (some inputTokens) (some outputTokens) .ended)
      else none
  | .listUnknown =>
      if books.phase = .awaiting .proposal ∨ books.phase = .awaiting .retry then
        some (books.list none none .unknownListed)
      else none
  | .callTool =>
      if books.phase = .idle ∧ books.toolCalls = 0 then
        some { books with toolCalls := books.toolCalls + 1 }
      else none
  | .countTool resultBytes elapsed =>
      if books.phase = .idle then
        some (books.record .idle (books.tracker.recordToolCall num fmt resultBytes elapsed))
      else none
  | .store => some { books with numbers := books.numbers ++ [books.nextSeq] }
  | .advance =>
      if books.numbers.getLast? = some books.nextSeq then
        some { books with nextSeq := books.nextSeq + 1 }
      else none

def bookMachine : Machine (Books Float) (BookStep Float) := { step := bookStep num fmt }

def Books.opened (budgets : ExecutionBudgets Float) (nextSeq : Int) : Books Float :=
  { tracker := { budgets, estimatedCostUsd := num.zero, budgetCostUsd := num.zero }, nextSeq }

end Machine

end AiAnalytics.App.Loop
