import AiAnalytics.App.Llm.PrefixRender
import AiAnalytics.Lib.PyOps
import Mathlib.Data.List.Chain

/-!
# Which prompts grow by extension

The proposal call of a turn sees what earlier turns stored, so the next turn's proposal extends it
as long as the system prompt stays the same. The answer call also sees the turn's tool message, but
not its user message, which later prompts have before it.
-/

namespace AiAnalytics.App

open Lib

variable {Float : Type} {conversationId : String} {repo after : InMemoryRepository Float}
  {messages : List (Message Float)} {turn : Turn Float}

section Storing

structure Consecutive (messages : List (Message Float)) : Prop where
  sorted : messages.Pairwise fun a b => a.sequence ≤ b.sequence
  bounded : ∀ message ∈ messages, message.sequence ≤ messages.length

theorem Consecutive.append {message : Message Float} (h : Consecutive messages)
    (hsequence : message.sequence = messages.length + 1) : Consecutive (messages ++ [message]) where
  sorted := by
    refine List.pairwise_append.mpr ⟨h.sorted, List.pairwise_singleton _ _, ?_⟩
    intro old hold new hnew
    obtain rfl := List.mem_singleton.mp hnew
    have hbound := h.bounded old hold
    omega
  bounded := by
    intro old hold
    rw [List.length_append, List.length_singleton]
    rcases List.mem_append.mp hold with hold | hold
    · have hbound := h.bounded old hold
      omega
    · obtain rfl := List.mem_singleton.mp hold
      omega

theorem Consecutive.sort_eq (h : Consecutive messages) : sortBySequence messages = messages :=
  h.sorted.insertionSort_eq

theorem listMessages_of_numbered (h : Consecutive (repo.messages conversationId)) :
    repo.listMessages conversationId none = repo.messages conversationId := h.sort_eq

theorem addMessage_of_next (conversationId : String) {message : Message Float}
    (hconversation : message.conversationId = conversationId)
    (h : Consecutive (repo.messages conversationId))
    (hsequence : message.sequence = (repo.messages conversationId).length + 1)
    (hadd : repo.addMessage message = .ok after) :
    after.messages conversationId = repo.messages conversationId ++ [message] ∧
      Consecutive (after.messages conversationId) ∧
      ∀ old ∈ repo.messages conversationId, old.messageId ≠ message.messageId := by
  subst hconversation
  have hnumbered : Consecutive (repo.messages message.conversationId ++ [message]) :=
    h.append hsequence
  simp only [InMemoryRepository.addMessage] at hadd
  split_ifs at hadd with hknown hduplicate
  have hafter := congrArg (·.messages message.conversationId) (Except.ok.inj hadd)
  simp only [Function.update_self, hnumbered.sort_eq] at hafter
  refine ⟨hafter.symm, hafter ▸ hnumbered, ?_⟩
  simpa using hduplicate

end Storing

section Prompts

namespace PromptMessage

def system (content : String) : PromptMessage := { role := "system", content }

def user (content : String) : PromptMessage := { role := "user", content }

def tool (content : String) : PromptMessage := { role := "tool", content }

def assistant (content : String) : PromptMessage := { role := "assistant", content }

end PromptMessage

def Turn.prompts (turn : Turn Float) (shown : List PromptMessage) : TurnPrompts where
  proposal := .system turn.proposal.globalShared :: shown ++
    [.user turn.proposal.uniqueSuffix]
  answer := .system turn.answer.globalShared :: (shown ++ [.tool turn.observation]) ++
    [.user turn.answer.uniqueSuffix]

def Turn.shown (turn : Turn Float) : List PromptMessage :=
  [.user turn.question, .tool turn.observation, .assistant turn.answerText]

def conversationPrompts : List PromptMessage → List (Turn Float) → List TurnPrompts
  | _, [] => []
  | shown, turn :: turns => turn.prompts shown :: conversationPrompts (shown ++ turn.shown) turns

theorem history_of_current {later : List (Message Float)} {current : Message Float}
    {newQuestion : String}
    (hearlier : ∀ old ∈ messages, old.messageId ≠ current.messageId)
    (hlater : ∀ new ∈ later, new.messageId ≠ current.messageId) :
    history (messages ++ current :: later) newQuestion (some current.messageId) =
      messages ++ later := by
  have hkeep (kept : List (Message Float)) (h : ∀ old ∈ kept, old.messageId ≠ current.messageId) :
      (kept.filter fun stored => stored.messageId ≠ current.messageId) = kept :=
    List.filter_eq_self.mpr fun old hold => decide_eq_true (h old hold)
  rw [history, List.filter_append, List.filter_cons_of_neg (by simp), hkeep _ hearlier,
    hkeep _ hlater]

theorem runTurn_eq {prompts : TurnPrompts} (h : Consecutive (repo.messages conversationId))
    (hrun : runTurn conversationId repo turn = .ok (after, prompts)) :
    prompts = turn.prompts ((repo.messages conversationId).map Message.prompt) ∧
      (after.messages conversationId).map Message.prompt =
        (repo.messages conversationId).map Message.prompt ++ turn.shown ∧
      Consecutive (after.messages conversationId) := by
  simp only [runTurn, listMessages_of_numbered h, bind_eq_ok_iff] at hrun
  obtain ⟨asked, hasked, observed, hobserved, answered, hanswered, hended⟩ := hrun
  cases hended
  obtain ⟨hafterUser, hnumberedUser, hnewUser⟩ :=
    addMessage_of_next conversationId rfl h rfl hasked
  have hcountUser : (asked.messages conversationId).length =
      (repo.messages conversationId).length + 1 := by
    rw [hafterUser, List.length_append, List.length_singleton]
  obtain ⟨hafterTool, hnumberedTool, hnewTool⟩ :=
    addMessage_of_next conversationId rfl hnumberedUser (by rw [hcountUser]; rfl) hobserved
  have hcountTool : (observed.messages conversationId).length =
      (repo.messages conversationId).length + 2 := by
    rw [hafterTool, List.length_append, hcountUser, List.length_singleton]
  have hnext : ((repo.messages conversationId).length : Int) + 1 + 2 =
      (observed.messages conversationId).length + 1 := by omega
  obtain ⟨hafterAssistant, hnumberedAssistant, -⟩ :=
    addMessage_of_next conversationId rfl hnumberedTool hnext hanswered
  refine ⟨?_, ?_, hnumberedAssistant⟩
  · have hstored : turn.userMessage conversationId ((repo.messages conversationId).length + 1) ∈
        asked.messages conversationId := by
      rw [hafterUser]
      exact List.mem_append_right _ (List.mem_singleton_self _)
    have hother : turn.toolMessageId ≠ turn.userMessageId := (hnewTool _ hstored).symm
    have hproposal : history (asked.messages conversationId) turn.proposal.uniqueSuffix
        (some turn.userMessageId) = repo.messages conversationId := by
      rw [hafterUser]
      exact (history_of_current hnewUser (List.forall_mem_nil _)).trans (List.append_nil _)
    have hanswer : history (observed.messages conversationId) turn.answer.uniqueSuffix
        (some turn.userMessageId) = repo.messages conversationId ++
          [turn.toolMessage conversationId ((repo.messages conversationId).length + 1 + 1)] := by
      rw [hafterTool, hafterUser, List.append_assoc]
      exact history_of_current hnewUser (List.forall_mem_singleton.mpr hother)
    simp only [buildProposalMessages, buildAnswerMessages, renderConversationPrompt,
      listMessages_of_numbered hnumberedUser, listMessages_of_numbered hnumberedTool, hproposal,
      hanswer, List.map_append]
    rfl
  · rw [hafterAssistant, hafterTool, hafterUser]
    simp [Turn.shown, Message.prompt, Turn.userMessage, Turn.toolMessage, Turn.assistantMessage,
      PromptMessage.user, PromptMessage.tool, PromptMessage.assistant]

theorem runTurns_eq {turns : List (Turn Float)} {prompts : List TurnPrompts}
    (h : Consecutive (repo.messages conversationId))
    (hrun : runTurns conversationId turns repo = .ok prompts) :
    prompts = conversationPrompts ((repo.messages conversationId).map Message.prompt) turns := by
  induction turns generalizing repo prompts with
  | nil =>
      cases hrun
      rfl
  | cons turn turns ih =>
      simp only [runTurns, bind_eq_ok_iff] at hrun
      obtain ⟨⟨after, first⟩, hturn, later, hlater, hended⟩ := hrun
      cases hended
      obtain ⟨rfl, hshown, hnumbered⟩ := runTurn_eq h hturn
      rw [conversationPrompts, ← hshown, ← ih hnumbered hlater]

end Prompts

section Growth

def ExtendedBy (prompt next : List PromptMessage) : Prop := prompt.dropLast <+: next

def GrowsByExtension (prompts : List (List PromptMessage)) : Prop := prompts.IsChain ExtendedBy

theorem extendedBy_iff {first next : PromptMessage} {shown later : List PromptMessage}
    {question nextQuestion : PromptMessage} :
    ExtendedBy (first :: shown ++ [question]) (next :: later ++ [nextQuestion]) ↔
      first = next ∧ shown <+: later ++ [nextQuestion] := by
  rw [ExtendedBy, List.dropLast_concat, List.cons_append, List.cons_prefix_cons]

theorem proposal_extendedBy_iff (turn next : Turn Float) (shown : List PromptMessage) :
    ExtendedBy (turn.prompts shown).proposal (next.prompts (shown ++ turn.shown)).proposal ↔
      turn.proposal.globalShared = next.proposal.globalShared := by
  rw [Turn.prompts, Turn.prompts, extendedBy_iff, and_iff_left, PromptMessage.system,
    PromptMessage.system, PromptMessage.mk.injEq, and_iff_right rfl]
  rw [List.append_assoc]
  exact List.prefix_append _ _

theorem not_answer_extendedBy (turn next : Turn Float) (shown : List PromptMessage) :
    ¬ ExtendedBy (turn.prompts shown).answer (next.prompts (shown ++ turn.shown)).answer := by
  rw [Turn.prompts, Turn.prompts, extendedBy_iff]
  rintro ⟨-, hprefix⟩
  rw [List.append_assoc, List.append_assoc, List.prefix_append_right_inj, Turn.shown,
    List.cons_append, List.cons_prefix_cons] at hprefix
  have hrole := congrArg PromptMessage.role hprefix.1
  exact absurd hrole (by decide : ¬ "tool" = "user")

theorem proposals_grow_iff (shown : List PromptMessage) (turns : List (Turn Float)) :
    GrowsByExtension ((conversationPrompts shown turns).map (·.proposal)) ↔
      (turns.map (·.proposal.globalShared)).IsChain (· = ·) := by
  induction turns generalizing shown with
  | nil => simp [conversationPrompts, GrowsByExtension]
  | cons turn turns ih =>
      cases turns with
      | nil => simp [conversationPrompts, GrowsByExtension]
      | cons next turns =>
          have hrest := ih (shown ++ turn.shown)
          simp only [conversationPrompts, GrowsByExtension, List.map_cons, List.isChain_cons_cons]
            at hrest ⊢
          rw [proposal_extendedBy_iff, hrest]

theorem answers_grow_iff (shown : List PromptMessage) (turns : List (Turn Float)) :
    GrowsByExtension ((conversationPrompts shown turns).map (·.answer)) ↔ turns.length ≤ 1 := by
  cases turns with
  | nil => simp [conversationPrompts, GrowsByExtension]
  | cons turn turns =>
      cases turns with
      | nil => simp [conversationPrompts, GrowsByExtension]
      | cons next turns =>
          simp only [conversationPrompts, GrowsByExtension, List.map_cons, List.isChain_cons_cons]
          refine iff_of_false (fun h => not_answer_extendedBy turn next shown h.1) ?_
          simp

/-- **Growth of a conversation's prompts.** From turn to turn the proposal prompts are extended
exactly if the planner's system prompt does not change; the answer prompts are never extended. -/
theorem prompts_grow_iff (conversationId : String) (repo : InMemoryRepository Float)
    (turns : List (Turn Float)) (prompts : List TurnPrompts)
    (hfresh : repo.messages conversationId = [])
    (hrun : runTurns conversationId turns repo = .ok prompts) :
    (GrowsByExtension (prompts.map (·.proposal)) ↔
        (turns.map (·.proposal.globalShared)).IsChain (· = ·)) ∧
      (GrowsByExtension (prompts.map (·.answer)) ↔ turns.length ≤ 1) := by
  have hnumbered : Consecutive (repo.messages conversationId) := by
    rw [hfresh]
    exact ⟨List.Pairwise.nil, List.forall_mem_nil _⟩
  rw [runTurns_eq hnumbered hrun]
  exact ⟨proposals_grow_iff _ turns, answers_grow_iff _ turns⟩

def sampleTurn (question observation answerText : String) : Turn ℚ where
  question
  proposal := { globalShared := "plan", conversationShared := "", uniqueSuffix := question }
  answer :=
    { globalShared := "answer", conversationShared := observation, uniqueSuffix := question }
  userMessageId := question ++ "-user"
  toolMessageId := question ++ "-tool"
  assistantMessageId := question ++ "-assistant"
  observation
  toolMetadata := .dict []
  answerText
  userCreatedAt := "2026-01-01T00:00:00Z"
  toolCreatedAt := "2026-01-01T00:00:01Z"
  assistantCreatedAt := "2026-01-01T00:00:02Z"

def sampleTurns : List (Turn ℚ) :=
  [sampleTurn "Which zone leads?" "[[42]]" "Staten Island.",
    sampleTurn "And the second?" "[[41]]" "Queens."]

def sampleConversation : InMemoryRepository ℚ :=
  { conversations := ["c"], messages := fun _ => [] }

theorem prompts_grow_iff_two_turns : ∃ prompts,
    runTurns "c" sampleTurns sampleConversation = .ok prompts ∧
      (GrowsByExtension (prompts.map (·.proposal)) ↔
        (sampleTurns.map (·.proposal.globalShared)).IsChain (· = ·)) ∧
      (GrowsByExtension (prompts.map (·.answer)) ↔ sampleTurns.length ≤ 1) := by
  have hok : (runTurns "c" sampleTurns sampleConversation).isOk = true := by decide
  cases hrun : runTurns "c" sampleTurns sampleConversation with
  | error error =>
      rw [hrun] at hok
      cases hok
  | ok prompts => exact ⟨prompts, rfl, prompts_grow_iff "c" _ _ prompts rfl hrun⟩

/-- The second answer call has the first question between the system prompt and the first tool
message; the first answer call has it after them. -/
theorem answer_prompt_rewritten :
    ((runTurns "c" sampleTurns sampleConversation).toOption.map (·.map (·.answer))) =
      some
        [[⟨"system", "answer"⟩, ⟨"tool", "[[42]]"⟩, ⟨"user", "Which zone leads?"⟩],
          [⟨"system", "answer"⟩, ⟨"user", "Which zone leads?"⟩, ⟨"tool", "[[42]]"⟩,
            ⟨"assistant", "Staten Island."⟩, ⟨"tool", "[[41]]"⟩, ⟨"user", "And the second?"⟩]] ∧
    ¬ ExtendedBy [⟨"system", "answer"⟩, ⟨"tool", "[[42]]"⟩, ⟨"user", "Which zone leads?"⟩]
        [⟨"system", "answer"⟩, ⟨"user", "Which zone leads?"⟩, ⟨"tool", "[[42]]"⟩,
          ⟨"assistant", "Staten Island."⟩, ⟨"tool", "[[41]]"⟩, ⟨"user", "And the second?"⟩] := by
  unfold ExtendedBy
  decide

end Growth

end AiAnalytics.App
