import AiAnalytics.App.Llm.Deltas
import AiAnalytics.App.Llm.Proof.BrokenStream
import AiAnalytics.App.Llm.Proof.SplitChunks

/-!
# When the deltas are the answer

Within one attempt the deltas make up the text of the result. An attempt that breaks off leaves what
it has shown in front of the deltas of the next alias, so they are the answer exactly if every
attempt that was passed over broke off before the splitter had released anything.
-/

namespace AiAnalytics.App

open Lib

variable {Float : Type}

section Released

def ThinkingSplitter.SameText (left right : ThinkingSplitter) : Prop :=
  left.inThink = right.inThink ∧ left.pending = right.pending

variable {left right : ThinkingSplitter}

theorem sameText_pass (h : left.SameText right) (released : List Char) :
    (left.pass released).1 = (right.pass released).1 ∧
      (left.pass released).2.SameText (right.pass released).2 := by
  obtain ⟨inThink, pending, reasoningText⟩ := left
  obtain ⟨rfl, rfl⟩ := h
  cases hside : right.inThink <;> simp [ThinkingSplitter.pass, ThinkingSplitter.SameText, hside]

theorem sameText_feedLoop {fuel : Nat} (h : left.SameText right) :
    (ThinkingSplitter.feedLoop fuel left).1 = (ThinkingSplitter.feedLoop fuel right).1 ∧
      (ThinkingSplitter.feedLoop fuel left).2.SameText
      (ThinkingSplitter.feedLoop fuel right).2 := by
  induction fuel generalizing left right with
  | zero => exact ⟨rfl, h⟩
  | succ fuel ih =>
      have htag : left.tag = right.tag := by rw [ThinkingSplitter.tag, ThinkingSplitter.tag, h.1]
      have hmoved (pending : List Char) :
          { left with pending }.SameText { right with pending } := ⟨h.1, rfl⟩
      rw [ThinkingSplitter.feedLoop, ThinkingSplitter.feedLoop, ← htag, ← h.2]
      cases splitAtTag left.tag left.pending with
      | none => exact sameText_pass (hmoved _) _
      | some found =>
          obtain ⟨released, rest⟩ := found
          obtain ⟨hvisible, hpassed⟩ := sameText_pass (hmoved rest) released
          have hturned : { ({ left with pending := rest }.pass released).2 with
              inThink := !left.inThink }.SameText
              { ({ right with pending := rest }.pass released).2 with
                inThink := !right.inThink } := ⟨congrArg not h.1, hpassed.2⟩
          obtain ⟨hlater, hfinal⟩ := ih hturned
          exact ⟨congrArg₂ (· ++ ·) hvisible hlater, hfinal⟩

theorem sameText_feed (h : left.SameText right) (chunk : List Char) :
    (left.feed chunk).1 = (right.feed chunk).1 ∧
      (left.feed chunk).2.SameText (right.feed chunk).2 := by
  rw [ThinkingSplitter.feed, ThinkingSplitter.feed]
  by_cases hchunk : chunk = []
  · rw [if_pos hchunk, if_pos hchunk]
    exact ⟨rfl, h⟩
  · rw [if_neg hchunk, if_neg hchunk, ← h.2]
    have hloaded : { left with pending := left.pending ++ chunk }.SameText
        { right with pending := left.pending ++ chunk } := ⟨h.1, rfl⟩
    exact sameText_feedLoop hloaded

def contentOf (chunk : PyValue Float) : Option (List Char) :=
  match chunkContent chunk with
  | .str s => some s.toList
  | _ => none

def receivedContents (rt : PyRuntime Float) (response : OkResponse) : List (List Char) :=
  (chunksOf rt response.lines).filterMap contentOf

def releasedText (rt : PyRuntime Float) (response : OkResponse) : List Char :=
  (ThinkingSplitter.feedAll (receivedContents rt response) {}).1

variable {reading : Reading Float} {splitter : ThinkingSplitter}

theorem sameText_addReasoning (h : reading.splitter.SameText splitter) (delta : PyValue Float) :
    (reading.addReasoning delta).text = reading.text ∧
      (reading.addReasoning delta).splitter.SameText splitter := by
  cases delta <;> exact ⟨rfl, h⟩

theorem text_foldl_addChunk (chunks : List (PyValue Float))
    (h : reading.splitter.SameText splitter) :
    (chunks.foldl Reading.addChunk reading).text =
      reading.text ++ (ThinkingSplitter.feedAll (chunks.filterMap contentOf) splitter).1 := by
  induction chunks generalizing reading splitter with
  | nil => simp [ThinkingSplitter.feedAll]
  | cons chunk chunks ih =>
      obtain ⟨htext, hsame⟩ :=
        sameText_addReasoning h ((chunkDelta chunk).entry "reasoning_content" .none)
      rw [List.foldl_cons, List.filterMap_cons, contentOf]
      cases hcontent : chunkContent chunk with
      | str s =>
          obtain ⟨hvisible, hnext⟩ := sameText_feed hsame s.toList
          have hchunk : (reading.addChunk chunk).splitter.SameText (splitter.feed s.toList).2 := by
            rw [Reading.addChunk, hcontent]
            exact hnext
          rw [ih hchunk, Reading.addChunk, hcontent]
          simp only [Reading.addContent, Reading.addUsage, ThinkingSplitter.feedAll, htext,
            hvisible, List.append_assoc]
      | _ =>
          have hchunk : (reading.addChunk chunk).splitter.SameText splitter := by
            rw [Reading.addChunk, hcontent]
            exact hsame
          rw [ih hchunk, Reading.addChunk, hcontent]
          simp only [Reading.addContent, Reading.addUsage, htext]

end Released

section Attempt

variable {rt : PyRuntime Float} {client : Client Float} {payload : Payload} {outcome : HttpOutcome}
  {response : OkResponse}

theorem joinTexts_append_of_ok {first later : List (PyValue Float)}
    {firstText laterText : List Char} (hfirst : (joinTexts first : Raising Float _) = .ok firstText)
    (hlater : (joinTexts later : Raising Float _) = .ok laterText) :
    (joinTexts (first ++ later) : Raising Float _) = .ok (firstText ++ laterText) := by
  induction first generalizing firstText with
  | nil =>
      cases hfirst
      exact hlater
  | cons value first ih =>
      cases value with
      | str s =>
          obtain ⟨rest, hrest, hjoined⟩ := bind_eq_ok_iff.mp hfirst
          cases hjoined
          rw [List.cons_append, joinTexts, ih hrest, List.append_assoc]
          rfl
      | _ => cases hfirst

theorem shownByResponse_of_readStream {state : StreamState Float}
    (h : readStream rt client response = .ok state) :
    shownByResponse rt client response = state.accumulated := by
  rw [readStream, ← isDocument] at h
  rw [shownByResponse, ← isDocument]
  cases hdocument : isDocument response with
  | true =>
      rw [hdocument, if_pos rfl] at h
      simp only [if_true]
      cases hfailure : response.failure with
      | some failure =>
          rw [hfailure] at h
          cases h
      | none =>
          rw [hfailure] at h
          simp only [h]
  | false =>
      rw [hdocument, if_neg Bool.false_ne_true] at h
      obtain ⟨⟨reached, done⟩, hlines, hend⟩ := bind_eq_ok_iff.mp h
      simp only [Bool.false_eq_true, if_false, hlines]
      cases hfailure : response.failure with
      | none =>
          rw [hfailure] at hend
          cases hend
          cases done <;> rfl
      | some failure =>
          rw [hfailure] at hend
          cases done with
          | true =>
              cases hend
              rfl
          | false => cases hend

theorem shown_of_returned {result : LLMResult Float}
    (h : streamCompletion rt client payload outcome = .ok result) :
    ∃ text, result.text = .str (String.ofList text) ∧
      (joinTexts (shownDeltas rt client outcome) : Raising Float _) = .ok text := by
  cases outcome with
  | ok response =>
      obtain ⟨state, hread, hfinish⟩ := bind_eq_ok_iff.mp h
      obtain ⟨text, htext, hrest⟩ := bind_eq_ok_iff.mp hfinish
      simp only [bind_eq_ok_iff] at hrest
      obtain ⟨_, -, _, -, hresult⟩ := hrest
      cases hresult
      refine ⟨text, rfl, ?_⟩
      rw [shownDeltas, shownByResponse_of_readStream hread]
      exact htext
  | _ => cases h

def brokenText (rt : PyRuntime Float) : HttpOutcome → List Char
  | .ok response => if isDocument response then [] else releasedText rt response
  | _ => []

theorem shownByResponse_of_breaks (hbody : BodyShape rt response) (hend : ¬ ReadToEnd response) :
    (joinTexts (shownByResponse rt client response) : Raising Float _) =
      .ok (brokenText rt (.ok response)) := by
  rw [ReadToEnd, not_or, not_and] at hend
  obtain ⟨failure, hfailure⟩ := Option.ne_none_iff_exists'.mp hend.1
  rw [BodyShape] at hbody
  rw [shownByResponse, ← isDocument, brokenText]
  cases hdocument : isDocument response with
  | true =>
      simp only [if_true, hfailure]
      rfl
  | false =>
      simp only [hdocument, Bool.false_eq_true, if_false] at hbody ⊢
      obtain ⟨state, hstate, hreads⟩ := streamLines_reads (start_reads (.str client.modelId)) hbody
      have hdone : isDone response.lines = false := by simpa using hend.2 hdocument
      have htext : ((chunksOf rt response.lines).foldl Reading.addChunk {}).text =
          [] ++ releasedText rt response := text_foldl_addChunk _ ⟨rfl, rfl⟩
      rw [List.nil_append] at htext
      simp only [hstate, hdone, hfailure, ← htext]
      exact hreads.text

theorem shown_of_raised {error : PyError (LLMError Float)} (hcosts : ForeignCosts client)
    (h : streamCompletion rt client payload outcome = .error error) (hown : error.Own) :
    (joinTexts (shownDeltas rt client outcome) : Raising Float _) =
      .ok (brokenText rt outcome) := by
  cases outcome with
  | ok response =>
      have hbody : BodyShape rt response := by
        apply bodyShape_of_raisesOnly
        rw [h]
        exact hown
      refine shownByResponse_of_breaks hbody fun hend => ?_
      exact foreign_streamCompletion hcosts hbody hend error h hown
  | _ => rfl

end Attempt

section Loop

variable {α : Type} {num : NumOps Float} {fields : ResultFields Float α}
  {call : Payload → HttpOutcome → Raising Float α} {shown : HttpOutcome → List (PyValue Float)}
  {attempts : Nat → Attempt Float} {attempt : Attempt Float} {payload : Payload}
  {fallbackUsed : Bool}

theorem attemptDeltas_of_not_refused (hrefused : attempt.reservation ≠ .refused) :
    attemptDeltas shown attempt = shown attempt.outcome := by
  rw [attemptDeltas]
  split
  · rename_i h
    exact absurd h hrefused
  · rfl

theorem eq_of_settle {result answered : α} {answer : ReservationAnswer Float}
    (h : (settle num fields answered fallbackUsed answer).2 = .ok result) :
    result = fields.withFallback answered fallbackUsed := by
  cases answer with
  | granted reservation ledger =>
      rw [settle] at h
      split at h <;> cases h
      rfl
  | _ =>
      cases h
      rfl

theorem answered_of_attempt {result : α}
    (h : (attemptAlias num fields call attempt payload fallbackUsed).2 = .ok result) :
    attempt.reservation ≠ .refused ∧ ∃ answered, call payload attempt.outcome = .ok answered ∧
      result = fields.withFallback answered fallbackUsed := by
  by_cases hrefused : attempt.reservation = .refused
  · rw [attemptAlias, hrefused] at h
    cases h
  · refine ⟨hrefused, ?_⟩
    cases hcall : call payload attempt.outcome with
    | error error =>
        rw [attemptAlias_of_error hrefused hcall] at h
        cases h
    | ok answered =>
        rw [attemptAlias_of_ok hrefused hcall] at h
        exact ⟨answered, rfl, eq_of_settle h⟩

theorem raised_of_mayFallBack {error : PyError (LLMError Float)}
    (h : (attemptAlias num fields call attempt payload fallbackUsed).2 = .error error)
    (hfall : mayFallBack error) :
    attempt.reservation ≠ .refused ∧ call payload attempt.outcome = .error error := by
  by_cases hrefused : attempt.reservation = .refused
  · rw [attemptAlias, hrefused] at h
    cases h
    cases hfall
  · refine ⟨hrefused, ?_⟩
    cases hcall : call payload attempt.outcome with
    | error raised =>
        rw [attemptAlias_of_error hrefused hcall] at h
        exact h
    | ok answered =>
        rw [attemptAlias_of_ok hrefused hcall] at h
        exact absurd (mayFallBack_own hfall) (foreign_settle error h)

theorem governedLoop_of_mayFallBack {payloadFor : String → Payload} {index : Nat}
    {modelAlias next : String} {rest : List String} {error : PyError (LLMError Float)}
    (h : (attemptAlias num fields call (attempts index) (payloadFor modelAlias) (0 < index)).2 =
      .error error)
    (hfall : mayFallBack error) :
    (governedLoop num fields call attempts payloadFor index modelAlias (next :: rest)).2 =
      (governedLoop num fields call attempts payloadFor (index + 1) next rest).2 := by
  rw [governedLoop]
  generalize attemptAlias num fields call (attempts index) (payloadFor modelAlias) (0 < index) =
    ended at h ⊢
  obtain ⟨log, ended⟩ := ended
  cases h
  simp only [if_pos hfall]

end Loop

section Answer

variable {rt : PyRuntime Float} {pricing : PricingTable Float} {answerAlias : String}
  {attempts : Nat → Attempt Float} {payloadFor : String → Payload} {result : LLMResult Float}

def earlierText (rt : PyRuntime Float) (pricing : PricingTable Float)
    (attempts : Nat → Attempt Float) (made : List (Nat × String)) : List Char :=
  (made.filter fun made => passedOver (streamReader rt pricing) (attempts made.1)).flatMap
    fun made => brokenText rt (attempts made.1).outcome

theorem deltas_of_answered {index : Nat} {attempt : Attempt Float} {payload : Payload}
    (h : (attemptAlias rt.num completionFields
      (streamCompletion rt (liteLLMClient rt pricing answerAlias)) attempt payload (0 < index)).2 =
        .ok result) :
    passedOver (streamReader rt pricing) attempt = false ∧
      ∃ text, result.text = .str (String.ofList text) ∧
        (joinTexts (attemptDeltas (shownDeltas rt (liteLLMClient rt pricing answerAlias)) attempt) :
          Raising Float _) = .ok text := by
  have hpassed : passedOver (streamReader rt pricing) attempt = false :=
    (attemptSpec streamReader_describes).ok result h
  obtain ⟨hrefused, answered, hcall, rfl⟩ := answered_of_attempt h
  obtain ⟨text, htext, hjoined⟩ := shown_of_returned hcall
  exact ⟨hpassed, text, htext, by rw [attemptDeltas_of_not_refused hrefused, hjoined]⟩

theorem deltas_of_passedOver {index : Nat} {attempt : Attempt Float} {payload : Payload}
    {error : PyError (LLMError Float)}
    (h : (attemptAlias rt.num completionFields
      (streamCompletion rt (liteLLMClient rt pricing answerAlias)) attempt payload (0 < index)).2 =
        .error error) (hfall : mayFallBack error) :
    passedOver (streamReader rt pricing) attempt = true ∧
      (joinTexts (attemptDeltas (shownDeltas rt (liteLLMClient rt pricing answerAlias)) attempt) :
        Raising Float _) = .ok (brokenText rt attempt.outcome) := by
  have hown : error.Own := mayFallBack_own hfall
  have hspec : AttemptSpec rt.num (streamReader rt pricing) attempt payload
      (attemptAlias rt.num completionFields
        (streamCompletion rt (liteLLMClient rt pricing answerAlias)) attempt payload
          (0 < index)).2 :=
    attemptSpec streamReader_describes
  have hpassed : passedOver (streamReader rt pricing) attempt = true := by
    rw [← hspec.error (by rw [h]; exact hown) error h]
    exact hfall
  obtain ⟨hrefused, hcall⟩ := raised_of_mayFallBack h hfall
  refine ⟨hpassed, ?_⟩
  rw [attemptDeltas_of_not_refused hrefused]
  exact shown_of_raised foreignCosts_liteLLM hcall hown

theorem earlierText_cons (made : Nat × String) (later : List (Nat × String)) :
    earlierText rt pricing attempts (made :: later) =
      (if passedOver (streamReader rt pricing) (attempts made.1) then
        brokenText rt (attempts made.1).outcome else []) ++ earlierText rt pricing attempts
        later := by
  rw [earlierText, List.filter_cons]
  split <;> rfl

theorem joinTexts_loopDeltas (index : Nat) (modelAlias : String) (rest : List String)
    (h : (governedLoop rt.num completionFields
      (streamCompletion rt (liteLLMClient rt pricing answerAlias)) attempts payloadFor index
      modelAlias
        rest).2 = .ok result) :
    ∃ text, result.text = .str (String.ofList text) ∧
      (joinTexts (loopDeltas rt.num completionFields
        (streamCompletion rt (liteLLMClient rt pricing answerAlias))
        (shownDeltas rt (liteLLMClient rt pricing answerAlias)) attempts payloadFor index modelAlias
          rest) : Raising Float _) =
        .ok (earlierText rt pricing attempts
          (attemptsMade (streamReader rt pricing) attempts index modelAlias rest) ++ text) := by
  induction rest generalizing index modelAlias with
  | nil =>
      obtain ⟨hpassed, text, htext, hjoined⟩ := deltas_of_answered h
      refine ⟨text, htext, ?_⟩
      rw [attemptsMade, earlierText_cons, if_neg (by rw [hpassed]; exact Bool.false_ne_true)]
      exact hjoined
  | cons next rest ih =>
      rw [governedLoop] at h
      rw [loopDeltas, attemptsMade, earlierText_cons]
      generalize hended : attemptAlias rt.num completionFields
        (streamCompletion rt (liteLLMClient rt pricing answerAlias)) (attempts index)
        (payloadFor modelAlias) (0 < index) = ended at h ⊢
      obtain ⟨log, ended⟩ := ended
      cases ended with
      | ok answered =>
          cases h
          obtain ⟨hpassed, text, htext, hjoined⟩ := deltas_of_answered (congrArg Prod.snd hended)
          refine ⟨text, htext, ?_⟩
          rw [if_neg (by rw [hpassed]; exact Bool.false_ne_true), hpassed,
            if_neg Bool.false_ne_true, List.append_nil]
          exact hjoined
      | error error =>
          by_cases hfall : mayFallBack error
          · obtain ⟨hpassed, hbroken⟩ := deltas_of_passedOver (congrArg Prod.snd hended) hfall
            simp only [if_pos hfall] at h ⊢
            obtain ⟨text, htext, hjoined⟩ := ih (index + 1) next h
            refine ⟨text, htext, ?_⟩
            rw [if_pos hpassed, hpassed, if_pos rfl, List.append_assoc]
            exact joinTexts_append_of_ok hbroken hjoined
          · simp only [if_neg hfall] at h
            cases h

/-- **Deltas of a streamed answer.** -/
theorem deltas_eq_text_iff (rt : PyRuntime Float) (pricing : PricingTable Float)
    (answerAlias : String) (policy : ModelPolicy) (tenantId : String)
    (attempts : Nat → Attempt Float) (payload : Payload) (result : LLMResult Float)
    (h : streamedAnswer rt pricing answerAlias policy tenantId attempts payload = .ok result) :
    ((joinTexts (answerDeltas rt pricing answerAlias policy tenantId attempts payload) :
        Raising Float _).map fun text => .str (String.ofList text)) = .ok result.text ↔
      ∀ made ∈ governedAttempts (streamReader rt pricing) policy tenantId attempts payload,
        passedOver (streamReader rt pricing) made.1 = true → brokenText rt made.1.outcome = [] := by
  rw [streamedAnswer, governed] at h
  rw [answerDeltas, governedDeltas, governedAttempts]
  cases hpolicy : policy.resolve payload.role tenantId with
  | none =>
      rw [hpolicy] at h
      cases h
  | some rp =>
      rw [hpolicy] at h
      obtain ⟨text, htext, hjoined⟩ := joinTexts_loopDeltas 0 _ _ h
      simp only [hjoined, htext, List.forall_mem_map, Except.map, Except.ok.injEq,
        PyValue.str.injEq,
        String.ofList_inj, List.append_left_eq_self, earlierText, List.flatMap_eq_nil_iff,
        List.mem_filter, and_imp]

end Answer

section Samples

def deltaRecord (content : String) : String :=
  "\x7b\"choices\": [\x7b\"delta\": \x7b\"content\": \"" ++ content ++ "\"\x7d\x7d]\x7d"

def deltaData (content : String) : PyValue ℚ :=
  .dict [("choices", .list [.dict [("delta", .dict [("content", .str content)])]])]

def deltaRuntime : PyRuntime ℚ :=
  { emptyChoicesRuntime with
    loadsText := fun text =>
      if text = deltaRecord "There were " then .ok (deltaData "There were ")
      else if text = deltaRecord "1,000 trips." then .ok (deltaData "1,000 trips.")
      else .error .jsonDecodeError }

def answerStream (content : String) (done : Bool) : OkResponse where
  contentType := "text/event-stream"
  costHeader := none
  body := ("data: " ++ deltaRecord content ++ "\n\n").toUTF8
  lines := ["data: " ++ deltaRecord content, ""] ++ if done then ["data: [DONE]", ""] else []
  failure := if done then none else some .unavailable

def twoAliases : ModelPolicy where
  roles := fun role =>
    match role with
    | .answer => some { modelAlias := "taxi-answer", fallbacks := ["taxi-answer-2"] }
    | _ => none

def freePricing : PricingTable ℚ := { version := "1", rates := [], million := 1000000 }

def thenAnswered (first : HttpOutcome) : Nat → Attempt ℚ
  | 0 => { reservation := .unbound, outcome := first }
  | _ => { reservation := .unbound, outcome := .ok (answerStream "1,000 trips." true) }

theorem letters_deltaRecord (content : String) :
    (deltaRecord content).toList =
      "\x7b\"choices\": [\x7b\"delta\": \x7b\"content\": \"".toList ++ content.toList ++
        "\"\x7d\x7d]\x7d".toList := by
  rw [← String.toList_append, ← String.toList_append]
  rfl

theorem deltaRecord_inj {left right : String} (h : deltaRecord left = deltaRecord right) :
    left = right := by
  have hletters : (deltaRecord left).toList = (deltaRecord right).toList := congrArg String.toList h
  rw [letters_deltaRecord, letters_deltaRecord] at hletters
  exact String.toList_inj.mp (List.append_cancel_left (List.append_cancel_right hletters))

theorem ends_deltaRecord (content : String) :
    (deltaRecord content).toList.head? = some '\x7b' ∧
      (deltaRecord content).toList.getLast? = some '\x7d' := by
  have hstart : "\x7b\"choices\": [\x7b\"delta\": \x7b\"content\": \"".toList = _ :=
    String.toList_ofList
  have hend : "\"\x7d\x7d]\x7d".toList = _ := String.toList_ofList
  rw [letters_deltaRecord]
  constructor
  · rw [hstart]
    rfl
  · rw [hend, List.getLast?_append]
    rfl

theorem strip_of_ends {text : List Char} {first last : Char} (hhead : text.head? = some first)
    (htail : text.getLast? = some last) (hfirst : isSpace first = false)
    (hlast : isSpace last = false) :
    strip text = text := by
  obtain ⟨rest, rfl⟩ := List.head?_eq_some_iff.mp hhead
  rw [strip, List.dropWhile_cons_of_neg (Bool.eq_false_iff.mp hfirst)]
  obtain ⟨init, hinit⟩ := List.getLast?_eq_some_iff.mp htail
  rw [hinit, List.reverse_append, List.reverse_singleton, List.singleton_append,
    List.dropWhile_cons_of_neg (Bool.eq_false_iff.mp hlast), List.reverse_cons,
    List.reverse_reverse]

theorem sseLine_deltaRecord (content : String) :
    sseLine ("data: " ++ deltaRecord content) = .data (deltaRecord content) := by
  obtain ⟨hhead, hlast⟩ := ends_deltaRecord content
  have hstart : "data: ".toList = _ := String.toList_ofList
  have hdone : "[DONE]".toList = _ := String.toList_ofList
  have hstrip : strip (deltaRecord content).toList = (deltaRecord content).toList :=
    strip_of_ends hhead hlast (by decide) (by decide)
  have hdrop : ("data: " ++ deltaRecord content).toList.drop 6 = (deltaRecord content).toList := by
    rw [String.toList_append, hstart]
    rfl
  have hmark : (deltaRecord content).toList ≠ "[DONE]".toList := by
    intro h
    rw [h, hdone] at hhead
    cases hhead
  have hdata : "data: ".toList.isPrefixOf ("data: " ++ deltaRecord content).toList := by
    rw [String.toList_append]
    exact List.isPrefixOf_iff_prefix.mpr (List.prefix_append _ _)
  rw [sseLine, if_pos hdata]
  simp only [hdrop, hstrip, if_neg hmark, String.ofList_toList]

theorem sseLine_doneLine : sseLine "data: [DONE]" = .done := by
  have hletters : "data: [DONE]".toList = _ := String.toList_ofList
  have hdone : "[DONE]".toList = _ := String.toList_ofList
  rw [sseLine, hletters, hdone]
  rfl

theorem loadsText_thereWere :
    deltaRuntime.loadsText (deltaRecord "There were ") = .ok (deltaData "There were ") := by
  simp [deltaRuntime]

theorem loadsText_trips :
    deltaRuntime.loadsText (deltaRecord "1,000 trips.") = .ok (deltaData "1,000 trips.") := by
  have hne : deltaRecord "1,000 trips." ≠ deltaRecord "There were " :=
    fun h => absurd (deltaRecord_inj h) (by decide)
  simp only [deltaRuntime, if_neg hne, if_true]

section Stream

variable {content : String} {done : Bool} {state next : StreamState ℚ}

theorem isDocument_answerStream (content : String) (done : Bool) :
    isDocument (answerStream content done) = false := by
  have hplain : contains "application/json".toList "text/event-stream".toList = false := by
    rw [String.toList_ofList, String.toList_ofList]
    rfl
  exact hplain

theorem streamLines_answerStream
    (hloads : deltaRuntime.loadsText (deltaRecord content) = .ok (deltaData content))
    (hchunk : state.addChunk deltaRuntime (deltaData content) = .ok next) :
    streamLines deltaRuntime (answerStream content done).lines state = .ok (next, done) := by
  rw [answerStream, List.cons_append, streamLines_data (sseLine_deltaRecord content) hloads hchunk,
    List.cons_append, streamLines_skipped sseLine_empty]
  cases done with
  | true => exact streamLines_done sseLine_doneLine
  | false => rfl

theorem chunksOf_answerStream
    (hloads : deltaRuntime.loadsText (deltaRecord content) = .ok (deltaData content)) :
    chunksOf deltaRuntime (answerStream content done).lines = [deltaData content] := by
  have hrecords : records (answerStream content done).lines = [deltaRecord content] := by
    rw [answerStream, List.cons_append, records, sseLine_deltaRecord, List.cons_append]
    simp only [records, sseLine_empty]
    cases done with
    | true => simp [records, sseLine_doneLine]
    | false => rfl
  rw [chunksOf, hrecords, List.filterMap_cons, hloads]
  rfl

theorem readStream_answerStream
    (hloads : deltaRuntime.loadsText (deltaRecord content) = .ok (deltaData content))
    (hchunk :
      ({ modelId := .str "taxi-answer" } : StreamState ℚ).addChunk deltaRuntime
      (deltaData content) = .ok next) :
    readStream deltaRuntime (liteLLMClient deltaRuntime freePricing "taxi-answer")
      (answerStream content done) = if done then .ok (next.flush deltaRuntime)
      else raiseProvider (HttpFailure.unavailable.error "litellm_proxy") := by
  have hdocument := isDocument_answerStream content done
  rw [isDocument] at hdocument
  have hlines : streamLines deltaRuntime (answerStream content done).lines
      { modelId := .str (liteLLMClient deltaRuntime freePricing "taxi-answer").modelId } =
          .ok (next, done) :=
    streamLines_answerStream hloads hchunk
  rw [readStream, if_neg (Bool.eq_false_iff.mp hdocument), hlines]
  cases done <;> rfl

theorem streamCompletion_trips (payload : Payload) : ∃ result,
    streamCompletion deltaRuntime (liteLLMClient deltaRuntime freePricing "taxi-answer") payload
      (.ok (answerStream "1,000 trips." true)) = .ok result := by
  obtain ⟨state, hchunk, result, hresult⟩ : ∃ state : StreamState ℚ,
      ({ modelId := .str "taxi-answer" } : StreamState ℚ).addChunk deltaRuntime
        (deltaData "1,000 trips.") = .ok state ∧ ∃ result,
          finishStream deltaRuntime (liteLLMClient deltaRuntime freePricing "taxi-answer") payload
            (answerStream "1,000 trips." true) (state.flush deltaRuntime) = .ok result :=
              ⟨_, rfl, _, rfl⟩
  exact ⟨result, bind_eq_ok_iff.mpr ⟨_, readStream_answerStream loadsText_trips hchunk, hresult⟩⟩

theorem streamCompletion_thereWere (payload : Payload) :
    streamCompletion deltaRuntime (liteLLMClient deltaRuntime freePricing "taxi-answer") payload
      (.ok (answerStream "There were " false)) =
        raiseProvider (HttpFailure.unavailable.error "litellm_proxy") := by
  obtain ⟨state, hchunk⟩ : ∃ state : StreamState ℚ,
      ({ modelId := .str "taxi-answer" } : StreamState ℚ).addChunk deltaRuntime
        (deltaData "There were ") = .ok state := ⟨_, rfl⟩
  rw [streamCompletion, readStream_answerStream loadsText_thereWere hchunk]
  rfl

end Stream

section TwoAliases

variable {first : HttpOutcome} {error : PyError (LLMError ℚ)}

def twoRolePolicy : RolePolicy := { modelAlias := "taxi-answer", fallbacks := ["taxi-answer-2"] }

theorem resolve_twoAliases : twoAliases.resolve plainPayload.role "t" = some twoRolePolicy := rfl

theorem allowedFallbacks_twoAliases :
    twoAliases.allowedFallbacks twoRolePolicy "t" = ["taxi-answer-2"] := rfl

theorem unbound_ne_refused : (ReservationAnswer.unbound : ReservationAnswer ℚ) ≠ .refused := nofun

theorem streamedAnswer_thenAnswered
    (hfirst :
      ∀ payload, streamCompletion deltaRuntime
      (liteLLMClient deltaRuntime freePricing "taxi-answer")
      payload first = .error error) (hfall : mayFallBack error) :
    ∃ result, streamedAnswer deltaRuntime freePricing "taxi-answer" twoAliases "t"
      (thenAnswered first) plainPayload = .ok result := by
  obtain ⟨answered, hanswered⟩ :=
    streamCompletion_trips (attemptPayload plainPayload twoRolePolicy "taxi-answer-2")
  refine ⟨completionFields.withFallback answered true, ?_⟩
  rw [streamedAnswer, governed, resolve_twoAliases]
  simp only [allowedFallbacks_twoAliases]
  rw [governedLoop_of_mayFallBack (attemptAlias_of_error unbound_ne_refused (hfirst _)) hfall]
  exact attemptAlias_of_ok unbound_ne_refused hanswered

theorem passedOver_trips : passedOver (streamReader deltaRuntime freePricing)
    { reservation := .unbound, outcome := .ok (answerStream "1,000 trips." true) } = false := by
  obtain ⟨answered, hanswered⟩ := streamCompletion_trips plainPayload
  have hended : (attemptAlias deltaRuntime.num completionFields
      (streamCompletion deltaRuntime (liteLLMClient deltaRuntime freePricing "taxi-answer"))
      { reservation := .unbound, outcome := .ok (answerStream "1,000 trips." true) } plainPayload
          (0 < 0)).2 = _ :=
    attemptAlias_of_ok unbound_ne_refused hanswered
  exact (deltas_of_answered (hended.trans rfl)).1

theorem passedOver_thereWere : passedOver (streamReader deltaRuntime freePricing)
    { reservation := .unbound, outcome := .ok (answerStream "There were " false) } = true := by
  have hended : (attemptAlias deltaRuntime.num completionFields
      (streamCompletion deltaRuntime (liteLLMClient deltaRuntime freePricing "taxi-answer"))
      { reservation := .unbound, outcome := .ok (answerStream "There were " false) } plainPayload
          (0 < 0)).2 = _ :=
    attemptAlias_of_error unbound_ne_refused (streamCompletion_thereWere plainPayload)
  exact (deltas_of_passedOver hended rfl).1

theorem brokenText_thereWere :
    brokenText deltaRuntime (.ok (answerStream "There were " false)) = "There".toList := by
  rw [brokenText, if_neg (Bool.eq_false_iff.mp (isDocument_answerStream _ _)), releasedText,
    receivedContents, chunksOf_answerStream loadsText_thereWere]
  rfl

end TwoAliases

theorem deltas_eq_text_unavailable : ∃ result,
    streamedAnswer deltaRuntime freePricing "taxi-answer" twoAliases "t"
        (thenAnswered (.failed .unavailable)) plainPayload = .ok result ∧
      ((joinTexts (answerDeltas deltaRuntime freePricing "taxi-answer" twoAliases "t"
        (thenAnswered (.failed .unavailable)) plainPayload) : Raising ℚ _).map
          fun text => .str (String.ofList text)) = .ok result.text := by
  have hfirst (payload : Payload) : streamCompletion deltaRuntime
      (liteLLMClient deltaRuntime freePricing "taxi-answer") payload (.failed .unavailable) =
        raiseProvider (HttpFailure.unavailable.error "litellm_proxy") := rfl
  obtain ⟨result, hresult⟩ := streamedAnswer_thenAnswered hfirst rfl
  refine ⟨result, hresult, (deltas_eq_text_iff deltaRuntime freePricing "taxi-answer" twoAliases "t"
    (thenAnswered (.failed .unavailable)) plainPayload _ hresult).mpr ?_⟩
  refine List.forall_mem_cons.mpr ⟨fun _ => rfl, List.forall_mem_cons.mpr ⟨fun hpassed => ?_,
    List.forall_mem_nil _⟩⟩
  exact absurd (passedOver_trips.symm.trans hpassed) Bool.false_ne_true

/-- The words of the broken attempt stay in front of the answer. -/
theorem broken_delta_kept : ∃ result,
    streamedAnswer deltaRuntime freePricing "taxi-answer" twoAliases "t"
        (thenAnswered (.ok (answerStream "There were " false))) plainPayload = .ok result ∧
      ¬ ((joinTexts (answerDeltas deltaRuntime freePricing "taxi-answer" twoAliases "t"
        (thenAnswered (.ok (answerStream "There were " false))) plainPayload) : Raising ℚ _).map
          fun text => .str (String.ofList text)) = .ok result.text := by
  obtain ⟨result, hresult⟩ := streamedAnswer_thenAnswered streamCompletion_thereWere rfl
  refine ⟨result, hresult, fun h => ?_⟩
  rw [streamedAnswer, governed, resolve_twoAliases] at hresult
  rw [answerDeltas, governedDeltas, resolve_twoAliases] at h
  simp only [allowedFallbacks_twoAliases] at hresult h
  obtain ⟨text, htext, hjoined⟩ := joinTexts_loopDeltas 0 _ _ hresult
  have hpassed : passedOver (streamReader deltaRuntime freePricing)
      (thenAnswered (.ok (answerStream "There were " false)) 0) = true := passedOver_thereWere
  have hshown : brokenText deltaRuntime
      (thenAnswered (.ok (answerStream "There were " false)) 0).outcome =
      "There".toList := brokenText_thereWere
  rw [hjoined, htext, attemptsMade, earlierText_cons, if_pos hpassed, hshown] at h
  -- the text would be its own proper suffix
  have hsame := String.ofList_inj.mp (PyValue.str.inj (Except.ok.inj h))
  have hnone := (List.append_eq_nil_iff.mp (List.append_left_eq_self.mp hsame)).1
  rw [String.toList_ofList] at hnone
  cases hnone

end Samples

end AiAnalytics.App
