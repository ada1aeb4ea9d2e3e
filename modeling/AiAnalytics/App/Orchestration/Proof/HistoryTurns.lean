import AiAnalytics.App.Orchestration.Proof.HistoryBudget

/-!
# The turns of the history

Grouping the messages keeps one fact: the newest question is made of the last user messages that
were read, and what was observed since then waits for the answer to it. So an observation goes to
the question that it was made for. -/

namespace AiAnalytics.App.DeepAgents

open Lib

variable {Float : Type} {fmt : PyFormat Float} {num : NumOps Float}
  {prior more : List (Message Float)} {message : Message Float}

section Provenance

def isUser (message : Message Float) : Bool := message.role = "user"

def joined (texts : List (List Char)) : List Char := "\n\n".toList.intercalate texts

structure Asked (prior questions : List (Message Float)) (text : List Char) : Prop where
  some : questions ≠ []
  text_eq : text = joined (questions.map fun question => question.content.toList)
  consecutive : ∃ before, before <+: prior ∧ questions <:+ before.filter isUser

def Observed (fmt : PyFormat Float) (num : NumOps Float) (prior questions : List (Message Float))
    (obs : Obs) : Prop :=
  ∃ before message after, prior = before ++ message :: after ∧ message.role = "tool" ∧
    obs = observation fmt num message ∧ questions <:+ before.filter isUser

def AnswerPart (prior : List (Message Float)) (part : List Char) : Prop :=
  part = noAnswerHistoryNote ∨ ∃ message ∈ prior, message.role = "assistant" ∧
    part = message.content.toList

def Answered (prior : List (Message Float)) (text : List Char) : Prop :=
  ∃ parts, parts ≠ [] ∧ text = joined parts ∧ ∀ part ∈ parts, AnswerPart prior part

structure SourcedTurn (fmt : PyFormat Float) (num : NumOps Float)
    (prior questions : List (Message Float)) (turn : Turn) : Prop where
  asked : Asked prior questions turn.user
  observed : ∀ obs ∈ turn.observations, Observed fmt num prior questions obs
  answered : Answered prior turn.assistant

theorem joined_concat {texts : List (List Char)} (h : texts ≠ []) (text : List Char) :
    joined (texts ++ [text]) = joined texts ++ "\n\n".toList ++ text := by
  induction texts with
  | nil => exact absurd rfl h
  | cons first rest ih =>
      by_cases hrest : rest = []
      · rw [hrest]
        simp [joined, List.intercalate_cons_cons]
      · simp only [joined] at ih ⊢
        rw [List.cons_append, List.intercalate_cons_of_ne_nil (by simp), ih hrest,
          List.intercalate_cons_of_ne_nil hrest]
        simp only [List.append_assoc]

theorem Asked.mono {questions : List (Message Float)} {text : List Char}
    (h : Asked prior questions text) (hstart : prior <+: more) : Asked more questions text := by
  obtain ⟨before, hbefore, hsuffix⟩ := h.consecutive
  exact ⟨h.some, h.text_eq, before, hbefore.trans hstart, hsuffix⟩

theorem Observed.mono {questions : List (Message Float)} {obs : Obs}
    (h : Observed fmt num prior questions obs) (hstart : prior <+: more) :
    Observed fmt num more questions obs := by
  obtain ⟨before, message, after, rfl, hrole, hobs, hsuffix⟩ := h
  obtain ⟨rest, rfl⟩ := hstart
  exact ⟨before, message, after ++ rest, by simp, hrole, hobs, hsuffix⟩

theorem AnswerPart.mono {part : List Char} (h : AnswerPart prior part) (hstart : prior <+: more) :
    AnswerPart more part := by
  rcases h with hnote | ⟨message, hmem, hrole, hpart⟩
  · exact .inl hnote
  · exact .inr ⟨message, hstart.subset hmem, hrole, hpart⟩

theorem Answered.mono {text : List Char} (h : Answered prior text) (hstart : prior <+: more) :
    Answered more text := by
  obtain ⟨parts, hne, htext, hparts⟩ := h
  exact ⟨parts, hne, htext, fun part hmem => (hparts part hmem).mono hstart⟩

theorem SourcedTurn.mono {questions : List (Message Float)} {turn : Turn}
    (h : SourcedTurn fmt num prior questions turn) (hstart : prior <+: more) :
    SourcedTurn fmt num more questions turn :=
  ⟨h.asked.mono hstart, fun obs hmem => (h.observed obs hmem).mono hstart, h.answered.mono hstart⟩

theorem answered_part {part : List Char} (h : AnswerPart prior part) : Answered prior part :=
  ⟨[part], List.cons_ne_nil _ _, by simp [joined], List.forall_mem_singleton.mpr h⟩

theorem Answered.concat {text part : List Char} (h : Answered prior text)
    (hpart : AnswerPart prior part) : Answered prior (text ++ "\n\n".toList ++ part) := by
  obtain ⟨parts, hne, rfl, hparts⟩ := h
  refine ⟨parts ++ [part], by simp, (joined_concat hne part).symm, ?_⟩
  exact List.forall_mem_append.mpr ⟨hparts, List.forall_mem_singleton.mpr hpart⟩

end Provenance

section Invariant

inductive SettledEntries (fmt : PyFormat Float) (num : NumOps Float)
    (prior : List (Message Float)) : List Entry → Prop
  | nil : SettledEntries fmt num prior []
  | lead {answer : Entry} (hanswer : answer.speaker = .assistant) :
    SettledEntries fmt num prior [answer]
  | turn {answer question : Entry} {rest : List Entry} {questions : List (Message Float)}
      (hanswer : answer.speaker = .assistant) (hquestion : question.speaker = .user)
      (hturn : SourcedTurn fmt num prior questions ⟨question.text, answer.observations,
        answer.text⟩)
      (hrest : SettledEntries fmt num prior rest) :
        SettledEntries fmt num prior (answer :: question :: rest)

structure Current (fmt : PyFormat Float) (num : NumOps Float)
    (prior questions : List (Message Float)) (question : Entry) (observations : List Obs) :
    Prop where
  speaker : question.speaker = .user
  asked : Asked prior questions question.text
  last : questions <:+ prior.filter isUser
  observed : ∀ obs ∈ observations, Observed fmt num prior questions obs

inductive Grouped (fmt : PyFormat Float) (num : NumOps Float) (prior : List (Message Float)) :
    Grouping → Prop
  | start {pending : List Obs} : Grouped fmt num prior ⟨[], pending⟩
  | lead {answer : Entry} {pending : List Obs} (hanswer : answer.speaker = .assistant) :
      Grouped fmt num prior ⟨[answer], pending⟩
  | asked {question : Entry} {rest : List Entry} {pending : List Obs}
      {questions : List (Message Float)}
      (hcurrent : Current fmt num prior questions question pending)
        (hrest : SettledEntries fmt num prior rest) :
      Grouped fmt num prior ⟨question :: rest, pending⟩
  | answered {answer question : Entry} {rest : List Entry} {pending : List Obs}
      {questions : List (Message Float)}
      (hanswer : answer.speaker = .assistant) (htext : Answered prior answer.text)
      (hcurrent : Current fmt num prior questions question (answer.observations ++ pending))
      (hrest : SettledEntries fmt num prior rest) :
        Grouped fmt num prior ⟨answer :: question :: rest, pending⟩

variable {entries : List Entry} {grouping : Grouping}

theorem SettledEntries.mono (h : SettledEntries fmt num prior entries) (hstart : prior <+: more) :
    SettledEntries fmt num more entries := by
  induction h with
  | nil => exact .nil
  | lead hanswer => exact .lead hanswer
  | turn hanswer hquestion hturn _ ih => exact .turn hanswer hquestion (hturn.mono hstart) ih

theorem Current.mono {questions : List (Message Float)} {question : Entry} {observations : List Obs}
    (h : Current fmt num prior questions question observations) (hrole : isUser message = false) :
    Current fmt num (prior ++ [message]) questions question observations where
  speaker := h.speaker
  asked := h.asked.mono (List.prefix_append _ _)
  last := by
    rw [List.filter_append, List.filter_cons_of_neg (by rw [hrole]; exact Bool.false_ne_true),
      List.filter_nil, List.append_nil]
    exact h.last
  observed obs hmem := (h.observed obs hmem).mono (List.prefix_append _ _)

theorem Grouped.mono (h : Grouped fmt num prior grouping) (hrole : isUser message = false) :
    Grouped fmt num (prior ++ [message]) grouping := by
  have hstart : prior <+: prior ++ [message] := List.prefix_append _ _
  cases h with
  | start => exact .start
  | lead hanswer => exact .lead hanswer
  | asked hcurrent hrest => exact .asked (hcurrent.mono hrole) (hrest.mono hstart)
  | answered hanswer htext hcurrent hrest =>
      exact .answered hanswer (htext.mono hstart) (hcurrent.mono hrole) (hrest.mono hstart)

theorem Current.observe {questions : List (Message Float)} {question : Entry}
    {observations : List Obs} (h : Current fmt num prior questions question observations)
    (hrole : message.role = "tool") :
    Current fmt num (prior ++ [message]) questions question
      (observations ++ [observation fmt num message]) := by
  obtain ⟨hspeaker, hasked, hlast, hobserved⟩ :=
    h.mono (by simp [isUser, hrole] : isUser message = false)
  refine ⟨hspeaker, hasked, hlast,
    List.forall_mem_append.mpr ⟨hobserved, List.forall_mem_singleton.mpr ?_⟩⟩
  exact ⟨prior, message, [], rfl, hrole, rfl, h.last⟩

theorem Grouped.observe (h : Grouped fmt num prior grouping) (hrole : message.role = "tool") :
    Grouped fmt num (prior ++ [message])
      { grouping with pending := grouping.pending ++ [observation fmt num message] } := by
  have hstart : prior <+: prior ++ [message] := List.prefix_append _ _
  cases h with
  | start => exact .start
  | lead hanswer => exact .lead hanswer
  | asked hcurrent hrest => exact .asked (hcurrent.observe hrole) (hrest.mono hstart)
  | answered hanswer htext hcurrent hrest =>
      have hobserve := hcurrent.observe hrole
      rw [List.append_assoc] at hobserve
      exact .answered hanswer (htext.mono hstart) hobserve (hrest.mono hstart)

theorem Grouped.answer {part : List Char} (h : Grouped fmt num prior grouping)
    (hpart : AnswerPart prior part) :
    Grouped fmt num prior ⟨push grouping.entries .assistant part grouping.pending, []⟩ := by
  cases h with
  | start => exact .lead rfl
  | lead hanswer =>
      rw [push, if_pos hanswer]
      exact .lead hanswer
  | @asked question rest pending questions hcurrent hrest =>
      have hcurrent' : Current fmt num prior questions question (pending ++ []) := by
        rw [List.append_nil]
        exact hcurrent
      rw [push, if_neg (by rw [hcurrent.speaker]; decide)]
      exact .answered rfl (answered_part hpart) hcurrent' hrest
  | @answered answer question rest pending questions hanswer htext hcurrent hrest =>
      have hcurrent' : Current fmt num prior questions question
          (answer.observations ++ pending ++ []) := by
        rw [List.append_nil]
        exact hcurrent
      rw [push, if_pos hanswer]
      exact .answered hanswer (htext.concat hpart) hcurrent' hrest

theorem Grouped.flush (h : Grouped fmt num prior grouping) :
    Grouped fmt num prior ⟨grouping.flush.entries, []⟩ ∧ grouping.flush.pending = [] := by
  rw [Grouping.flush]
  by_cases hpending : grouping.pending.isEmpty = true
  · rw [if_pos hpending]
    have hnone : grouping.pending = [] := List.isEmpty_iff.mp hpending
    refine ⟨?_, hnone⟩
    rw [← hnone]
    exact h
  · rw [if_neg hpending]
    exact ⟨h.answer (.inl rfl), rfl⟩

theorem Grouped.ask (h : Grouped fmt num prior ⟨entries, []⟩) (hrole : isUser message = true) :
    Grouped fmt num (prior ++ [message]) ⟨push entries .user message.content.toList [], []⟩ := by
  have hstart : prior <+: prior ++ [message] := List.prefix_append _ _
  have hfilter : (prior ++ [message]).filter isUser = prior.filter isUser ++ [message] := by
    rw [List.filter_append, List.filter_cons_of_pos hrole, List.filter_nil]
  have hnew : Current fmt num (prior ++ [message]) [message] ⟨.user, message.content.toList, []⟩
      [] := by
    have hlast : [message] <:+ (prior ++ [message]).filter isUser := by
      rw [hfilter]
      exact List.suffix_append _ _
    exact ⟨rfl, ⟨List.cons_ne_nil _ _, by simp [joined], _, List.prefix_rfl, hlast⟩, hlast, nofun⟩
  cases h with
  | start => exact .asked hnew .nil
  | lead hanswer =>
      rw [push, if_neg (by rw [hanswer]; decide)]
      exact .asked hnew (.lead hanswer)
  | @asked question rest _ questions hcurrent hrest =>
      have hlast : questions ++ [message] <:+ (prior ++ [message]).filter isUser := by
        rw [hfilter]
        exact (List.suffix_append_inj_of_length_eq rfl).mpr ⟨hcurrent.last, rfl⟩
      have htext : question.text ++ "\n\n".toList ++ message.content.toList =
          joined ((questions ++ [message]).map fun question => question.content.toList) := by
        rw [List.map_append, List.map_singleton, joined_concat (by simpa using hcurrent.asked.some),
          ← hcurrent.asked.text_eq]
      have hasked : Asked (prior ++ [message]) (questions ++ [message]) _ :=
        ⟨by simp, htext, _, List.prefix_rfl, hlast⟩
      rw [push, if_pos hcurrent.speaker]
      exact .asked ⟨hcurrent.speaker, hasked, hlast, nofun⟩ (hrest.mono hstart)
  | @answered answer question rest _ questions hanswer htext hcurrent hrest =>
      rw [List.append_nil] at hcurrent
      have hturn : SourcedTurn fmt num prior questions ⟨question.text, answer.observations,
          answer.text⟩ :=
        ⟨hcurrent.asked, hcurrent.observed, htext⟩
      rw [push, if_neg (by rw [hanswer]; decide)]
      exact .asked hnew (.turn hanswer hcurrent.speaker (hturn.mono hstart) (hrest.mono hstart))

theorem Grouped.read (h : Grouped fmt num prior grouping) (message : Message Float) :
    Grouped fmt num (prior ++ [message]) (grouping.read fmt num message) := by
  rw [Grouping.read]
  by_cases htool : message.role = "tool"
  · rw [if_pos htool]
    exact h.observe htool
  rw [if_neg htool]
  by_cases hassistant : message.role = "assistant"
  · rw [if_pos hassistant]
    have huser : isUser message = false := by simp [isUser, hassistant]
    refine (h.mono huser).answer (.inr ⟨message, by simp, hassistant, rfl⟩)
  rw [if_neg hassistant]
  by_cases huser : message.role = "user"
  · rw [if_pos huser]
    obtain ⟨hflush, hpending⟩ := h.flush
    rw [hpending]
    exact hflush.ask (by simp [isUser, huser])
  · rw [if_neg huser]
    exact h.mono (by simp [isUser, huser])

theorem grouped_foldl (messages : List (Message Float)) :
    Grouped fmt num messages (messages.foldl (Grouping.read fmt num) ⟨[], []⟩) := by
  induction messages using List.reverseRecOn with
  | nil => exact .start
  | append_singleton prior message ih =>
      rw [List.foldl_append]
      exact ih.read message

end Invariant

section Chronology

inductive SourcedTurns (fmt : PyFormat Float) (num : NumOps Float) (prior : List (Message Float)) :
    List Entry → Prop
  | nil : SourcedTurns fmt num prior []
  | cons {question answer : Entry} {rest : List Entry} {questions : List (Message Float)}
      (hquestion : question.speaker = .user) (hanswer : answer.speaker = .assistant)
      (hturn : SourcedTurn fmt num prior questions ⟨question.text, answer.observations,
        answer.text⟩)
      (hrest : SourcedTurns fmt num prior rest) :
        SourcedTurns fmt num prior (question :: answer :: rest)

variable {entries : List Entry} {grouping : Grouping}

theorem SourcedTurns.append {others : List Entry} (h : SourcedTurns fmt num prior entries)
    (hothers : SourcedTurns fmt num prior others) :
    SourcedTurns fmt num prior (entries ++ others) := by
  induction h with
  | nil => exact hothers
  | cons hquestion hanswer hturn _ ih => exact .cons hquestion hanswer hturn ih

theorem SourcedTurns.pairUp (h : SourcedTurns fmt num prior entries) :
    ∀ turn ∈ pairUp entries, ∃ questions, SourcedTurn fmt num prior questions turn := by
  induction h with
  | nil => exact nofun
  | cons hquestion hanswer hturn _ ih => exact List.forall_mem_cons.mpr ⟨⟨_, hturn⟩, ih⟩

theorem SourcedTurns.getLast {last : Entry} (h : SourcedTurns fmt num prior entries)
    (hlast : entries.getLast? = some last) :
    last.speaker = .assistant := by
  induction h with
  | nil => cases hlast
  | @cons question answer rest _ _ hanswer _ _ ih =>
      cases rest with
      | nil =>
          cases hlast
          exact hanswer
      | cons next rest => exact ih (by simpa using hlast)

def fromFirstQuestion (entries : List Entry) : List Entry :=
  entries.reverse.dropWhile fun entry => entry.speaker ≠ .user

theorem fromFirstQuestion_append {question : Entry} (hquestion : question.speaker = .user)
    (newer rest : List Entry) :
    fromFirstQuestion (newer ++ question :: rest) =
      fromFirstQuestion rest ++ question :: newer.reverse := by
  rw [fromFirstQuestion, fromFirstQuestion, List.reverse_append, List.reverse_cons,
    List.append_assoc, List.singleton_append, List.dropWhile_append]
  split_ifs with hnone
  · rw [List.isEmpty_iff.mp hnone, List.nil_append,
      List.dropWhile_cons_of_neg (by simp [hquestion])]
  · rfl

theorem SettledEntries.chronological (h : SettledEntries fmt num prior entries) :
    SourcedTurns fmt num prior (fromFirstQuestion entries) := by
  induction h with
  | nil => exact .nil
  | lead hanswer => simp [fromFirstQuestion, hanswer, SourcedTurns.nil]
  | @turn answer question rest _ hanswer hquestion hturn _ ih =>
      have happend := fromFirstQuestion_append hquestion [answer] rest
      rw [List.singleton_append] at happend
      rw [happend]
      exact ih.append (.cons hquestion hanswer hturn .nil)

def answerLast (entries : List Entry) : List Entry :=
  match entries.getLast? with
  | some last =>
    if last.speaker = .user then entries ++ [⟨.assistant, noAnswerHistoryNote, []⟩] else entries
  | none => entries

theorem SourcedTurns.answerLast (h : SourcedTurns fmt num prior entries) :
    answerLast entries = entries := by
  rw [DeepAgents.answerLast]
  split
  · next last hlast =>
      rw [if_neg]
      rw [h.getLast hlast]
      decide
  · rfl

theorem Grouped.chronological (h : Grouped fmt num prior ⟨entries, []⟩) :
    SourcedTurns fmt num prior (answerLast (fromFirstQuestion entries)) := by
  cases h with
  | start => exact .nil
  | @lead answer _ hanswer =>
      have hsettled : SettledEntries fmt num prior [answer] := .lead hanswer
      rw [hsettled.chronological.answerLast]
      exact hsettled.chronological
  | @asked question rest _ questions hcurrent hrest =>
      have hlast : answerLast (fromFirstQuestion (question :: rest)) =
          fromFirstQuestion rest ++ [question, ⟨.assistant, noAnswerHistoryNote, []⟩] := by
        have happend := fromFirstQuestion_append hcurrent.speaker [] rest
        rw [List.nil_append, List.reverse_nil] at happend
        rw [happend, answerLast, List.getLast?_concat]
        simp [hcurrent.speaker]
      have hturn : SourcedTurn fmt num prior questions ⟨question.text, [], noAnswerHistoryNote⟩ :=
        ⟨hcurrent.asked, nofun, answered_part (.inl rfl)⟩
      rw [hlast]
      exact hrest.chronological.append (.cons hcurrent.speaker rfl hturn .nil)
  | @answered answer question rest _ questions hanswer htext hcurrent hrest =>
      rw [List.append_nil] at hcurrent
      have hturn : SourcedTurn fmt num prior questions ⟨question.text, answer.observations,
          answer.text⟩ :=
        ⟨hcurrent.asked, hcurrent.observed, htext⟩
      have hsettled : SettledEntries fmt num prior (answer :: question :: rest) :=
        .turn hanswer hcurrent.speaker hturn hrest
      rw [hsettled.chronological.answerLast]
      exact hsettled.chronological

theorem sourced_of_mem_historyTurns {turn : Turn} (h : turn ∈ historyTurns fmt num prior) :
    ∃ questions, SourcedTurn fmt num prior questions turn :=
  (grouped_foldl prior).flush.1.chronological.pairUp turn h

end Chronology

section History

structure TurnOf (fmt : PyFormat Float) (num : NumOps Float) (prior : List (Message Float))
    (caps : TurnCaps) (question answer : ChatMessage) (questions : List (Message Float))
    (observations : List Obs) : Prop where
  question_role : question.role = .user
  answer_role : answer.role = .assistant
  asked : ∃ text, Asked prior questions text ∧ question.content = (clip text caps.userCap).1
  shown : ∃ text, Answered prior text ∧
    answer.content = ['\n'].intercalate
      (observations.map (block caps) ++ [(clip text caps.textCap).1])
  observed : ∀ obs ∈ observations, Observed fmt num prior questions obs

structure WellFormedHistory (fmt : PyFormat Float) (num : NumOps Float)
    (stored : List (Message Float)) (conversationId currentMessageId : String)
    (limits : HistoryLimits) (messages : List ChatMessage) : Prop where
  alternates : ∃ count, messages.map ChatMessage.role =
    (List.replicate count [Speaker.user, Speaker.assistant]).flatten
  turns : ∃ turns : List (ChatMessage × ChatMessage), messages = turns.flatMap
    (fun turn => [turn.1, turn.2]) ∧ ∀ turn ∈ turns, ∃ caps questions observations,
      caps.userCap = limits.maxUserChars ∧ caps.maxObs = limits.maxObservations ∧
        TurnOf fmt num (priorMessages stored conversationId currentMessageId) caps turn.1 turn.2
          questions observations
  before : ∀ current ∈ stored.find? (fun message => message.messageId = currentMessageId),
    ∀ message ∈ priorMessages stored conversationId currentMessageId, message.sequence <
      current.sequence

theorem before_of_mem_priorMessages {stored : List (Message Float)}
    {conversationId currentMessageId : String} {current : Message Float}
    (hcurrent : current ∈ stored.find? fun message => message.messageId = currentMessageId)
    (hmem : message ∈ priorMessages stored conversationId currentMessageId) :
    message.sequence < current.sequence := by
  have hcutoff : cutoff stored currentMessageId = some current.sequence := by
    rw [cutoff, Option.mem_def.mp hcurrent]
    rfl
  rw [priorMessages, List.mem_filter, hcutoff, decide_eq_true_iff, decide_eq_true_iff] at hmem
  exact hmem.2.2.2

theorem included_subset (caps : TurnCaps) (observations : List Obs) :
    included caps observations ⊆ observations := by
  rw [included]
  split_ifs
  · exact List.drop_subset _ _
  · exact List.nil_subset _
  · exact List.Subset.refl _

theorem turnOf_renderTurn {turn : Turn} {questions : List (Message Float)} (caps : TurnCaps)
    (h : SourcedTurn fmt num prior questions turn) :
    TurnOf fmt num prior caps ⟨.user, (renderTurn caps turn).1⟩
      ⟨.assistant, (renderTurn caps turn).2.1⟩ questions (included caps turn.observations) where
  question_role := rfl
  answer_role := rfl
  asked := ⟨turn.user, h.asked, rfl⟩
  shown := ⟨turn.assistant, h.answered, rfl⟩
  observed obs hmem := h.observed obs (included_subset _ _ hmem)

theorem alternates_turns (rendered : List Rendered) :
    (rendered.flatMap turnMessages).map ChatMessage.role =
    (List.replicate rendered.length [Speaker.user, Speaker.assistant]).flatten := by
  induction rendered with
  | nil => rfl
  | cons first rest ih =>
      rw [List.flatMap_cons, List.map_append, ih, List.length_cons, List.replicate_succ,
        List.flatten_cons]
      rfl

theorem exists_of_forall₂ {α β : Type} {r : α → β → Prop} {as : List α} {bs : List β} {b : β}
    (h : List.Forall₂ r as bs) (hmem : b ∈ bs) : ∃ a ∈ as, r a b := by
  induction h with
  | nil => cases hmem
  | @cons first _ as _ hfirst _ ih =>
      rcases List.mem_cons.mp hmem with rfl | hrest
      · exact ⟨first, List.mem_cons_self, hfirst⟩
      · obtain ⟨a, ha, hab⟩ := ih hrest
        exact ⟨a, List.mem_cons_of_mem _ ha, hab⟩

theorem wellFormedHistory_of_shown {stored : List (Message Float)}
    {conversationId currentMessageId : String} {limits : HistoryLimits} {kept : List Turn}
    {rendered : List Rendered}
    (hshown : List.Forall₂ (ShownAs limits) kept rendered)
    (hkept : ∀ turn ∈ kept, ∃ questions,
      SourcedTurn fmt num (priorMessages stored conversationId currentMessageId) questions turn) :
    WellFormedHistory fmt num stored conversationId currentMessageId limits
      (rendered.flatMap turnMessages) where
  alternates := ⟨_, alternates_turns rendered⟩
  turns := by
    refine ⟨rendered.map fun shown => (⟨.user, shown.1⟩, ⟨.assistant, shown.2.1⟩), ?_, ?_⟩
    · rw [List.flatMap_map]
      rfl
    · intro turn hturn
      obtain ⟨shown, hmem, rfl⟩ := List.mem_map.mp hturn
      obtain ⟨source, hsource, caps, huser, hobs, rfl⟩ := exists_of_forall₂ hshown hmem
      obtain ⟨questions, hturn⟩ := hkept source hsource
      exact ⟨caps, questions, _, huser, hobs, turnOf_renderTurn caps hturn⟩
  before _ hcurrent _ hmem := before_of_mem_priorMessages hcurrent hmem

/-- Every history, whatever is stored and under whatever limits, is well formed. -/
theorem history_well_formed (fmt : PyFormat Float) (num : NumOps Float)
    (stored : List (Message Float)) (conversationId currentMessageId : String)
    (limits : HistoryLimits) :
    WellFormedHistory fmt num stored conversationId currentMessageId limits
      (buildHistoryMessages fmt num stored conversationId currentMessageId limits).messages := by
  obtain ⟨kept, hkept, -, hshown, -⟩ := includeTurns_shown limits
    (candidateTurns limits.maxTurns
      (historyTurns fmt num (priorMessages stored conversationId currentMessageId))).reverse
  refine wellFormedHistory_of_shown hshown fun turn hturn => ?_
  have hcandidate := List.mem_reverse.mp (hkept.subset (List.mem_reverse.mp hturn))
  exact sourced_of_mem_historyTurns ((candidateTurns_suffix _ _).subset hcandidate)

end History

end AiAnalytics.App.DeepAgents
