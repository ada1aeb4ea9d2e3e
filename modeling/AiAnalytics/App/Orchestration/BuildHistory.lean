import AiAnalytics.App.Orchestration.Budgets
import AiAnalytics.App.Orchestration.History
import AiAnalytics.App.State.Models

/-!
# The history of a conversation

The stored messages before the current one are grouped into questions and answers. The newest of
these turns that fit into the budget become user and assistant messages in turn; the newest of all
is cut until it fits. -/

namespace AiAnalytics.App.DeepAgents

open Lib

section Grouping

variable {Float : Type} (fmt : PyFormat Float) (num : NumOps Float)

def noAnswerHistoryNote : List Char := "(No answer was recorded for this turn.)".toList

/-- `str(value)` -/
def textOf : PyValue Float → List Char
  | .str text => text.toList
  | value => (fmt.repr value).toList

def observation (message : Message Float) : Obs where
  tool := textOf fmt ((message.metadata.entry "tool_name" .none).orElse num (.str "tool"))
  queryId :=
    let queryId := message.metadata.entry "query_id" .none
    if queryId.truthy num then some (textOf fmt queryId) else none
  arguments := match message.metadata.entry "arguments" .none with
    | .dict arguments => some (fmt.dumps true false (.dict arguments)).toList
    | _ => none
  content := message.content.toList

inductive Speaker where
  | user
  | assistant
deriving DecidableEq, Repr

structure Entry where
  speaker : Speaker
  text : List Char
  observations : List Obs

def push (entries : List Entry) (speaker : Speaker) (text : List Char) (observations : List Obs) :
    List Entry :=
  match entries with
  | last :: earlier =>
      if last.speaker = speaker then
        { last with
          text := last.text ++ "\n\n".toList ++ text
          observations := last.observations ++ observations } :: earlier
      else ⟨speaker, text, observations⟩ :: entries
  | [] => [⟨speaker, text, observations⟩]

structure Grouping where
  entries : List Entry
  pending : List Obs

def Grouping.flush (grouping : Grouping) : Grouping :=
  if grouping.pending.isEmpty then grouping
  else ⟨push grouping.entries .assistant noAnswerHistoryNote grouping.pending, []⟩

def Grouping.read (grouping : Grouping) (message : Message Float) : Grouping :=
  if message.role = "tool" then
    { grouping with pending := grouping.pending ++ [observation fmt num message] }
  else if message.role = "assistant" then
    ⟨push grouping.entries .assistant message.content.toList grouping.pending, []⟩
  else if message.role = "user" then
    ⟨push grouping.flush.entries .user message.content.toList [], grouping.flush.pending⟩
  else grouping

def cutoff (stored : List (Message Float)) (currentMessageId : String) : Option Int :=
  (stored.find? fun message => message.messageId = currentMessageId).map Message.sequence

def priorMessages (stored : List (Message Float)) (conversationId currentMessageId : String) :
    List (Message Float) :=
  stored.filter fun message =>
    message.conversationId = conversationId ∧ message.messageId ≠ currentMessageId ∧
      (match cutoff stored currentMessageId with
        | some cutoff => decide (message.sequence < cutoff)
        | none => true) = true

def historyEntries (prior : List (Message Float)) : List Entry :=
  let entries := ((prior.foldl (Grouping.read fmt num) ⟨[], []⟩).flush.entries.reverse).dropWhile
    fun entry => entry.speaker ≠ .user
  match entries.getLast? with
  | some last =>
    if last.speaker = .user then entries ++ [⟨.assistant, noAnswerHistoryNote, []⟩] else entries
  | none => entries

def pairUp : List Entry → List Turn
  | question :: answer :: rest => ⟨question.text, answer.observations, answer.text⟩ :: pairUp rest
  | _ => []

def historyTurns (prior : List (Message Float)) : List Turn := pairUp (historyEntries fmt num prior)

end Grouping

section Budget

structure HistoryLimits where
  maxTurns : Int := 4
  maxTotalChars : Int := 12000
  maxUserChars : Int := 1000
  maxAssistantChars : Int := 1500
  maxArgumentsChars : Int := 500
  maxToolChars : Int := 2000
  maxObservations : Int := 2

def HistoryLimits.caps (limits : HistoryLimits) : TurnCaps where
  userCap := limits.maxUserChars
  textCap := limits.maxAssistantChars
  argsCap := limits.maxArgumentsChars
  resultCap := limits.maxToolChars
  maxObs := limits.maxObservations

inductive ShrunkCap where
  | resultCap
  | argsCap
  | textCap

def TurnCaps.cap (caps : TurnCaps) : ShrunkCap → Int
  | .resultCap => caps.resultCap
  | .argsCap => caps.argsCap
  | .textCap => caps.textCap

def TurnCaps.withCap (caps : TurnCaps) (key : ShrunkCap) (cap : Int) : TurnCaps :=
  match key with
  | .resultCap => { caps with resultCap := cap }
  | .argsCap => { caps with argsCap := cap }
  | .textCap => { caps with textCap := cap }

abbrev Rendered : Type := List Char × List Char × CutCounts

def size (rendered : Rendered) : Nat := rendered.1.length + rendered.2.1.length

def fitsUnder (turn : Turn) (maxTotalChars : Int) (caps : TurnCaps) : Bool :=
  (size (renderTurn caps turn) : Int) ≤ maxTotalChars

def searchCap (fits : Int → Bool) (lo hi : Int) : Int :=
  if lo < hi then
    let mid := (lo + hi + 1) / 2
    if fits mid then searchCap fits mid hi else searchCap fits lo (mid - 1)
  else lo
termination_by (hi - lo).toNat

def shrink (turn : Turn) (maxTotalChars : Int) : List ShrunkCap → TurnCaps → TurnCaps
  | [], caps => caps
  | key :: keys, caps =>
      if fitsUnder turn maxTotalChars (caps.withCap key 0) then
        caps.withCap key
          (searchCap (fun cap => fitsUnder turn maxTotalChars (caps.withCap key cap)) 0
            (caps.cap key))
      else shrink turn maxTotalChars keys (caps.withCap key 0)

def shrunkCaps (limits : HistoryLimits) (turn : Turn) : TurnCaps :=
  shrink turn limits.maxTotalChars [.resultCap, .argsCap, .textCap] limits.caps

def includeTurns (limits : HistoryLimits) : List Turn → List Rendered → Nat → List Rendered × Nat
  | [], included, total => (included, total)
  | turn :: turns, included, total =>
      let rendered := renderTurn limits.caps turn
      if included.isEmpty ∧ limits.maxTotalChars < total + size rendered then
        let rendered := renderTurn (shrunkCaps limits turn) turn
        includeTurns limits turns (rendered :: included) (total + size rendered)
      else if limits.maxTotalChars < total + size rendered then (included, total)
      else includeTurns limits turns (rendered :: included) (total + size rendered)

/-- `turns[-max_turns:] if max_turns > 0 else []` -/
def candidateTurns (maxTurns : Int) (turns : List Turn) : List Turn :=
  if 0 < maxTurns then turns.drop (turns.length - maxTurns.toNat) else []

end Budget

section Result

variable {Float : Type} (fmt : PyFormat Float) (num : NumOps Float)

structure ChatMessage where
  role : Speaker
  content : List Char

structure HistoryMetadata where
  turnsAvailable : Nat
  turnsIncluded : Nat
  turnsDropped : Int
  totalChars : Nat
  budgetChars : Int
  truncated : CutCounts

structure HistoryResult where
  messages : List ChatMessage
  metadata : HistoryMetadata

def CutCounts.add (counts more : CutCounts) : CutCounts where
  assistantText := counts.assistantText + more.assistantText
  arguments := counts.arguments + more.arguments
  toolResults := counts.toolResults + more.toolResults
  observationsDropped := counts.observationsDropped + more.observationsDropped
  userText := counts.userText + more.userText

def turnMessages (rendered : Rendered) : List ChatMessage :=
  [⟨.user, rendered.1⟩, ⟨.assistant, rendered.2.1⟩]

def buildHistoryMessages (stored : List (Message Float)) (conversationId currentMessageId : String)
    (limits : HistoryLimits) : HistoryResult :=
  let turns := historyTurns fmt num (priorMessages stored conversationId currentMessageId)
  let (included, total) := includeTurns limits (candidateTurns limits.maxTurns turns).reverse [] 0
  { messages := included.flatMap turnMessages
    metadata :=
      { turnsAvailable := turns.length, turnsIncluded := included.length
        turnsDropped := turns.length - included.length, totalChars := total
        budgetChars := limits.maxTotalChars
        truncated := (included.map fun rendered => rendered.2.2).foldl CutCounts.add ⟨0, 0, 0, 0, 0⟩
          } }

end Result

end AiAnalytics.App.DeepAgents
