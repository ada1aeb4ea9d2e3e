import AiAnalytics.App.State.Messages
import AiAnalytics.Lib.PyText

/-!
# Conversation prompts

The messages that a serve-mode call sends: the system prompt, what is stored of the conversation,
and the new question. A turn of the loop stores three messages, and makes its two calls in between.
-/

namespace AiAnalytics.App

open Lib

variable {Float : Type}

section Rendering

structure PromptMessage where
  role : String
  content : String
deriving DecidableEq, Repr

structure PrefixPartition where
  globalShared : String
  conversationShared : String
  uniqueSuffix : String
deriving DecidableEq, Repr

def Message.prompt (stored : Message Float) : PromptMessage :=
  { role := stored.role, content := stored.content }

def history (storedMessages : List (Message Float)) (newQuestion : String)
    (currentMessageId : Option String) : List (Message Float) :=
  match currentMessageId with
  | some id => storedMessages.filter fun stored => stored.messageId ≠ id
  | none =>
      if storedMessages.getLast?.any fun stored =>
          stored.role = "user" ∧ stored.content = newQuestion then
        storedMessages.dropLast
      else storedMessages

def renderConversationPrompt (conversationId : Option String) (newQuestion : String)
    (repo : InMemoryRepository Float) (systemPrompt : String) (currentMessageId : Option String) :
    List PromptMessage :=
  let stored := match conversationId with
    | some id => history (repo.listMessages id none) newQuestion currentMessageId
    | none => []
  { role := "system", content := systemPrompt } :: stored.map Message.prompt ++
    [{ role := "user", content := newQuestion }]

def buildProposalMessages (partition : PrefixPartition) (conversationId : Option String)
    (repo : Option (InMemoryRepository Float)) (currentMessageId : Option String) :
    List PromptMessage :=
  match conversationId, repo with
  | some id, some repo =>
      renderConversationPrompt (some id) partition.uniqueSuffix repo partition.globalShared
        currentMessageId
  | _, _ =>
      [{ role := "system", content := partition.globalShared },
        { role := "user", content := partition.uniqueSuffix }]

/-- `f"{shared}\n\n{suffix}".strip()` -/
def wholeQuestion (partition : PrefixPartition) : String :=
  String.ofList (strip
    (partition.conversationShared ++ "\n\n" ++ partition.uniqueSuffix).toList)

def buildAnswerMessages (partition : PrefixPartition) (conversationId : Option String)
    (repo : Option (InMemoryRepository Float)) (currentMessageId : Option String) :
    List PromptMessage :=
  match conversationId, repo with
  | some id, some repo =>
      renderConversationPrompt (some id) partition.uniqueSuffix repo partition.globalShared
        currentMessageId
  | _, _ =>
      [{ role := "system", content := partition.globalShared },
        { role := "user", content := wholeQuestion partition }]

end Rendering

section Turns

structure Turn (Float : Type) where
  question : String
  proposal : PrefixPartition
  answer : PrefixPartition
  userMessageId : String
  toolMessageId : String
  assistantMessageId : String
  observation : String
  toolMetadata : PyValue Float
  answerText : String
  userCreatedAt : String
  toolCreatedAt : String
  assistantCreatedAt : String

structure TurnPrompts where
  proposal : List PromptMessage
  answer : List PromptMessage
deriving DecidableEq, Repr

def Turn.userMessage (turn : Turn Float) (conversationId : String) (sequence : Int) :
    Message Float :=
  { messageId := turn.userMessageId, conversationId, sequence, role := "user",
    content := turn.question, createdAt := turn.userCreatedAt, metadata := .dict [] }

def Turn.toolMessage (turn : Turn Float) (conversationId : String) (sequence : Int) :
    Message Float :=
  { messageId := turn.toolMessageId, conversationId, sequence, role := "tool",
    content := turn.observation, createdAt := turn.toolCreatedAt, metadata := turn.toolMetadata }

def Turn.assistantMessage (turn : Turn Float) (conversationId : String) (sequence : Int) :
    Message Float :=
  { messageId := turn.assistantMessageId, conversationId, sequence, role := "assistant",
    content := turn.answerText, createdAt := turn.assistantCreatedAt, metadata := .dict [] }

def runTurn (conversationId : String) (repo : InMemoryRepository Float) (turn : Turn Float) :
    Except StateError (InMemoryRepository Float × TurnPrompts) := do
  let nextSeq : Int := (repo.listMessages conversationId none).length + 1
  let repo ← repo.addMessage (turn.userMessage conversationId nextSeq)
  let proposal := buildProposalMessages turn.proposal (some conversationId) (some repo)
    (some turn.userMessageId)
  let repo ← repo.addMessage (turn.toolMessage conversationId (nextSeq + 1))
  let answer := buildAnswerMessages turn.answer (some conversationId) (some repo)
    (some turn.userMessageId)
  let repo ← repo.addMessage (turn.assistantMessage conversationId (nextSeq + 2))
  pure (repo, { proposal, answer })

def runTurns (conversationId : String) :
    List (Turn Float) → InMemoryRepository Float → Except StateError (List TurnPrompts)
  | [], _ => pure []
  | turn :: turns, repo => do
      let (repo, prompts) ← runTurn conversationId repo turn
      let later ← runTurns conversationId turns repo
      pure (prompts :: later)

end Turns

end AiAnalytics.App
