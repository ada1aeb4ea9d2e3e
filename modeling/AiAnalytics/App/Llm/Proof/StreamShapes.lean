import AiAnalytics.App.Llm.Proof.ResponseShapes

/-!
# Which streams the client survives

A stream is read record by record. `Reading` is what a stream of well-shaped records amounts to, and
a state of the reader is compared with it; the end of `_stream_completion` then needs only that the
last reported counts fit together.
-/

namespace AiAnalytics.App

open Lib

variable {Float : Type}

section Records

variable (rt : PyRuntime Float)

def chunkChoice (chunk : PyValue Float) : PyValue Float :=
  headOf (chunk.entry "choices" (.list []))

def chunkDelta (chunk : PyValue Float) : PyValue Float :=
  (chunkChoice chunk).entry "delta" (.dict [])

def chunkContent (chunk : PyValue Float) : PyValue Float :=
  (chunkDelta chunk).entry "content" (.str "")

def chunkUsage (chunk : PyValue Float) : PyValue Float := chunk.entry "usage" .none

/-- One record of a stream. What is absent or empty is not read, so it needs no shape. -/
structure ChunkShape (num : NumOps Float) (chunk : PyValue Float) : Prop where
  record : chunk.IsDict
  choice : (chunk.entry "choices" (.list [])).truthy num → (chunkChoice chunk).IsDict
  delta : (chunk.entry "choices" (.list [])).truthy num → (chunkDelta chunk).IsDict
  content : (chunkContent chunk).truthy num → (chunkContent chunk).IsStr
  usage : (chunkUsage chunk).truthy num → (chunkUsage chunk).IsDict

def records : List String → List String
  | [] => []
  | line :: lines => match sseLine line with
      | .skipped => records lines
      | .done => []
      | .data text => text :: records lines

def isDone (lines : List String) : Bool := lines.any fun line => sseLine line = .done

def RecordShape (text : String) : Prop :=
  match rt.loadsText text with
  | .ok chunk => ChunkShape rt.num chunk
  | .error error => error = .jsonDecodeError

def chunksOf (lines : List String) : List (PyValue Float) :=
  (records lines).filterMap fun text => (rt.loadsText text).toOption

structure Reading (Float : Type) where
  text : List Char := []
  splitter : ThinkingSplitter := {}
  input : PyValue Float := .int 0
  output : PyValue Float := .int 0
  known : Bool := false
  reasoning : Option Int := none

def Reading.addUsage (reading : Reading Float) (usage : PyValue Float) : Reading Float :=
  { reading with
    input := usage.entry "prompt_tokens" reading.input
    output := usage.entry "completion_tokens" reading.output
    known := reading.known || isKnown usage
    reasoning := reasoningCount usage <|> reading.reasoning }

def Reading.addReasoning (reading : Reading Float) : PyValue Float → Reading Float
  | .str s => { reading with
      splitter := { reading.splitter with
        reasoningText := reading.splitter.reasoningText ++ s.toList } }
  | _ => reading

def Reading.addContent (reading : Reading Float) : PyValue Float → Reading Float
  | .str s => { reading with
      text := reading.text ++ (reading.splitter.feed s.toList).1
      splitter := (reading.splitter.feed s.toList).2 }
  | _ => reading

def Reading.addChunk (reading : Reading Float) (chunk : PyValue Float) : Reading Float :=
  ((reading.addReasoning ((chunkDelta chunk).entry "reasoning_content" .none)).addContent
    (chunkContent chunk)).addUsage (chunkUsage chunk)

def Reading.flush (reading : Reading Float) : Reading Float :=
  { reading with
    text := reading.text ++ reading.splitter.flush.1
    splitter := reading.splitter.flush.2 }

def Reading.total (num : NumOps Float) (reading : Reading Float) : PyValue Float :=
  if reading.output.eqZero num then .int (max 1 (wordCount reading.text)) else reading.output

structure StreamState.Reads (state : StreamState Float) (reading : Reading Float) : Prop where
  text : (joinTexts state.accumulated : Raising Float _) = .ok reading.text
  splitter : state.splitter = reading.splitter
  input : state.inputTokens = reading.input
  output : state.outputTokens = reading.output
  known : state.usageSeen = reading.known
  reasoning : state.reasoningTokens = reading.reasoning

end Records

section Steps

variable {rt : PyRuntime Float} {state : StreamState Float} {reading : Reading Float}
  {chunk : PyValue Float}

theorem joinTexts_append {texts : List (PyValue Float)} {text : List Char} (s : String)
    (h : (joinTexts texts : Raising Float _) = .ok text) :
    (joinTexts (texts ++ [.str s]) : Raising Float _) = .ok (text ++ s.toList) := by
  induction texts generalizing text with
  | nil =>
      cases h
      simp [joinTexts, bind, Except.bind, pure, Except.pure]
  | cons value texts ih =>
      cases value with
      | str first =>
          cases hrest : (joinTexts texts : Raising Float _) with
          | error error =>
              rw [joinTexts, hrest] at h
              cases h
          | ok rest =>
              rw [joinTexts, hrest] at h
              cases h
              rw [List.cons_append, joinTexts, ih hrest]
              simp [bind, Except.bind, pure, Except.pure]
      | _ => cases h

theorem emitVisible_reads (h : state.Reads reading) (text : List Char) :
    (state.emitVisible rt (.str (String.ofList text))).Reads
      { reading with text := reading.text ++ text } := by
  rw [StreamState.emitVisible]
  split
  · refine { h with text := ?_ }
    simpa using joinTexts_append (String.ofList text) h.text
  · rename_i hempty
    have hnil : text = [] := by simpa [PyValue.truthy] using hempty
    subst hnil
    simpa using h

theorem flush_reads (h : state.Reads reading) : (state.flush rt).Reads reading.flush := by
  rw [StreamState.flush, Reading.flush, ← h.splitter]
  have hmoved : { state with splitter := state.splitter.flush.2 }.Reads
      { reading with splitter := state.splitter.flush.2 } := { h with splitter := rfl }
  exact emitVisible_reads hmoved _

theorem feed_reads (h : state.Reads reading) (s : String) :
    ∃ next, state.feed rt (.str s) = .ok next ∧ next.Reads (reading.addContent (.str s)) := by
  have hmoved : { state with splitter := (state.splitter.feed s.toList).2 }.Reads
      { reading with splitter := (state.splitter.feed s.toList).2 } := { h with splitter := rfl }
  refine ⟨_, rfl, ?_⟩
  rw [Reading.addContent, ← h.splitter]
  exact emitVisible_reads hmoved _

theorem addReasoning_reads (h : state.Reads reading) (delta : PyValue Float) :
    (state.addReasoning delta).Reads (reading.addReasoning delta) := by
  cases delta with
  | str s =>
      exact { h with
        splitter := by rw [StreamState.addReasoning, Reading.addReasoning, h.splitter] }
  | _ => exact h

theorem addContent_of_not_truthy {content : PyValue Float} (h : ¬ content.truthy rt.num) :
    reading.addContent content = reading := by
  cases content with
  | str s =>
      have hempty : s = "" := by simpa [PyValue.truthy] using h
      subst hempty
      simp [Reading.addContent, ThinkingSplitter.feed]
  | _ => rfl

theorem addUsage_of_not_truthy {usage : PyValue Float} (h : ¬ usage.truthy rt.num) :
    reading.addUsage usage = reading := by
  cases usage with
  | dict entries =>
      have hempty : entries = [] := by simpa [PyValue.truthy] using h
      subst hempty
      simp [Reading.addUsage, PyValue.entry, isKnown, reasoningCount]
  | _ => simp [Reading.addUsage, PyValue.entry, isKnown, reasoningCount]

theorem seenOrKnown_eq_ok {usage : PyValue Float} (seen : Bool) (husage : usage.IsDict) :
    seenOrKnown seen usage = .ok (seen || isKnown usage) := by
  cases seen with
  | true => rfl
  | false => exact usageKnown_eq_ok husage

theorem addUsage_reads {usage : PyValue Float} (h : state.Reads reading) (husage : usage.IsDict) :
    ∃ next, state.addUsage usage = .ok next ∧ next.Reads (reading.addUsage usage) := by
  simp only [StreamState.addUsage, seenOrKnown_eq_ok _ husage, get_eq_ok_of_isDict husage,
    extractReasoningTokens_eq_ok husage, bind, Except.bind, pure, Except.pure]
  exact ⟨_, rfl, { h with
    input := by rw [h.input]; rfl
    output := by rw [h.output]; rfl
    known := by rw [h.known]; rfl
    reasoning := by rw [h.reasoning]; rfl }⟩

theorem first_eq_ok_of_isDict {v : PyValue Float} (h : (headOf v).IsDict) :
    (v.first : Raising Float _) = .ok (headOf v) := by
  cases v with
  | list items => cases items with
      | nil => exact h.elim
      | cons item items => rfl
  | _ => exact h.elim

theorem headOf_of_not_truthy {v : PyValue Float} (h : ¬ v.truthy rt.num) : headOf v = .none := by
  cases v with
  | list items => cases items with
      | nil => rfl
      | cons item items => exact absurd rfl h
  | _ => rfl

theorem StreamState.Reads.withFinishReason (h : state.Reads reading) (reason : PyValue Float) :
    { state with finishReason := reason }.Reads reading :=
  { h with }

theorem addChoice_eq {choices delta : PyValue Float} (hchoice : (headOf choices).IsDict)
    (hdeltaEq : (headOf choices).entry "delta" (.dict []) = delta) (hdelta : delta.IsDict) :
    state.addChoice rt choices =
      let noted := { (state.addReasoning (delta.entry "reasoning_content" .none)) with
        finishReason :=
          ((headOf choices).entry "finish_reason" .none).orElse rt.num state.finishReason }
      if (delta.entry "content" (.str "")).truthy rt.num then
        noted.feed rt (delta.entry "content" (.str ""))
      else pure noted := by
  simp only [StreamState.addChoice, first_eq_ok_of_isDict hchoice, bind, Except.bind]
  simp only [get_eq_ok_of_isDict hchoice, hdeltaEq, get_eq_ok_of_isDict hdelta]

theorem addChoices_reads (h : state.Reads reading) (hshape : ChunkShape rt.num chunk) :
    ∃ next, state.addChoices rt (chunk.entry "choices" (.list [])) = .ok next ∧
      next.Reads ((reading.addReasoning
        ((chunkDelta chunk).entry "reasoning_content" .none)).addContent (chunkContent chunk)) := by
  rw [StreamState.addChoices]
  split
  · rename_i htruthy
    rw [addChoice_eq (hshape.choice htruthy) rfl (hshape.delta htruthy), ← chunkChoice,
      ← chunkDelta, ← chunkContent]
    have hnoted := addReasoning_reads h ((chunkDelta chunk).entry "reasoning_content" .none)
    by_cases hcontent : (chunkContent chunk).truthy rt.num
    · have hstr := hshape.content hcontent
      dsimp only
      rw [if_pos hcontent]
      cases hs : chunkContent chunk with
      | str s => exact feed_reads (hnoted.withFinishReason _) s
      | _ => rw [hs] at hstr; exact hstr.elim
    · dsimp only
      rw [if_neg hcontent, addContent_of_not_truthy hcontent]
      exact ⟨_, rfl, hnoted.withFinishReason _⟩
  · rename_i hfalsy
    refine ⟨state, rfl, ?_⟩
    rw [chunkContent, chunkDelta, chunkChoice, headOf_of_not_truthy hfalsy]
    simpa [PyValue.entry, Reading.addReasoning, Reading.addContent, ThinkingSplitter.feed] using h

theorem addChunk_reads (h : state.Reads reading) (hshape : ChunkShape rt.num chunk) :
    ∃ next, state.addChunk rt chunk = .ok next ∧ next.Reads (reading.addChunk chunk) := by
  simp only [StreamState.addChunk, get_eq_ok_of_isDict hshape.record, bind, Except.bind]
  have hnamed : { state with modelId := chunk.entry "model" state.modelId }.Reads reading :=
    { h with }
  obtain ⟨chosen, hchosen, hreads⟩ := addChoices_reads hnamed hshape
  simp only [hchosen]
  rw [← chunkUsage]
  split
  · rename_i husage
    exact addUsage_reads hreads (hshape.usage husage)
  · rename_i husage
    refine ⟨chosen, rfl, ?_⟩
    rw [Reading.addChunk, addUsage_of_not_truthy husage]
    exact hreads

end Steps

section Converse

variable {rt : PyRuntime Float} {state : StreamState Float} {chunk usage : PyValue Float}

theorem foreign_first {v : PyValue Float} : Foreign (v.first : Raising Float _) := by
  cases v with
  | list items => cases items with
      | nil => exact foreign_error id
      | cons item items => exact foreign_ok _
  | str s =>
      rw [PyValue.first]
      split
      · exact foreign_error id
      · exact foreign_ok _
  | _ => exact foreign_error id

theorem foreign_usageKnown : Foreign (usageKnown usage) := by
  refine foreign_bind foreign_get fun _ => ?_
  split
  · exact foreign_ok _
  · exact foreign_bind foreign_get fun _ => foreign_ok _

theorem foreign_extractReasoningTokens : Foreign (extractReasoningTokens usage) := by
  refine foreign_bind foreign_get fun details => ?_
  split
  · refine foreign_bind foreign_get fun value => ?_
    cases value <;> exact foreign_ok _
  · exact foreign_ok _

theorem foreign_seenOrKnown {seen : Bool} : Foreign (seenOrKnown seen usage) := by
  cases seen with
  | true => exact foreign_ok _
  | false => exact foreign_usageKnown

theorem foreign_feed {content : PyValue Float} : Foreign (state.feed rt content) := by
  cases content with
  | str s => exact foreign_ok _
  | _ => exact foreign_error id

theorem raisesOnly_feed {content : PyValue Float} :
    RaisesOnly PyError.Own (state.feed rt content) ↔ content.IsStr := by
  cases content <;> exact Iff.rfl

theorem foreign_addUsage : Foreign (state.addUsage usage) :=
  foreign_bind foreign_seenOrKnown fun _ => foreign_bind foreign_get fun _ =>
    foreign_bind foreign_get fun _ => foreign_bind foreign_extractReasoningTokens fun _ =>
      foreign_ok _

theorem isDict_of_raisesOnly_addUsage (h : RaisesOnly PyError.Own (state.addUsage usage)) :
    usage.IsDict := by
  obtain ⟨_, -, h⟩ := (raisesOnly_bind_of_foreign foreign_seenOrKnown).1 h
  exact (raisesOnly_get_bind.1 h).1

theorem foreign_addChoices {choices : PyValue Float} : Foreign (state.addChoices rt choices) := by
  rw [StreamState.addChoices]
  split
  · refine foreign_bind foreign_first fun _ => foreign_bind foreign_get fun _ =>
      foreign_bind foreign_get fun _ => foreign_bind foreign_get fun _ =>
        foreign_bind foreign_get fun _ => ?_
    dsimp only
    split
    · exact foreign_feed
    · exact foreign_ok _
  · exact foreign_ok _

theorem foreign_addChunk : Foreign (state.addChunk rt chunk) := by
  refine foreign_bind foreign_get fun _ => foreign_bind foreign_get fun _ =>
    foreign_bind foreign_addChoices fun _ => ?_
  dsimp only
  split
  · exact foreign_addUsage
  · exact foreign_ok _

theorem shape_of_raisesOnly_addChoice {choices : PyValue Float}
    (h : RaisesOnly PyError.Own (state.addChoice rt choices)) :
    (headOf choices).IsDict ∧ ((headOf choices).entry "delta" (.dict [])).IsDict ∧
      ((((headOf choices).entry "delta" (.dict [])).entry "content" (.str "")).truthy rt.num →
        (((headOf choices).entry "delta" (.dict [])).entry "content" (.str "")).IsStr) := by
  rw [StreamState.addChoice, raisesOnly_first_bind fun _ h => (raisesOnly_get_bind.1 h).1,
    raisesOnly_get_bind, raisesOnly_get_bind, raisesOnly_get_bind, raisesOnly_get_bind] at h
  obtain ⟨hchoice, -, -, hdelta, -, h⟩ := h
  refine ⟨hchoice, hdelta, fun hcontent => ?_⟩
  dsimp only at h
  rw [if_pos hcontent] at h
  exact raisesOnly_feed.1 h

theorem chunkShape_of_raisesOnly (h : RaisesOnly PyError.Own (state.addChunk rt chunk)) :
    ChunkShape rt.num chunk := by
  rw [StreamState.addChunk, raisesOnly_get_bind, raisesOnly_get_bind] at h
  obtain ⟨hrecord, -, h⟩ := h
  have hchoices := (raisesOnly_bind.1 h).1
  rw [StreamState.addChoices] at hchoices
  obtain ⟨chosen, -, h⟩ := (raisesOnly_bind_of_foreign foreign_addChoices).1 h
  have hchoiceShape (htruthy : (chunk.entry "choices" (.list [])).truthy rt.num) :=
    shape_of_raisesOnly_addChoice (by rwa [if_pos htruthy] at hchoices)
  refine ⟨hrecord, fun htruthy => (hchoiceShape htruthy).1, fun htruthy =>
    (hchoiceShape htruthy).2.1,
    fun hcontent => ?_, fun husage => ?_⟩
  · by_cases htruthy : (chunk.entry "choices" (.list [])).truthy rt.num
    · exact (hchoiceShape htruthy).2.2 hcontent
    · rw [chunkContent, chunkDelta, chunkChoice, headOf_of_not_truthy htruthy]
      trivial
  · dsimp only at h
    rw [← chunkUsage, if_pos husage] at h
    exact isDict_of_raisesOnly_addUsage h

end Converse

section Lines

variable {rt : PyRuntime Float} {state : StreamState Float} {reading : Reading Float}
  {lines : List String}

theorem streamLines_reads (h : state.Reads reading)
    (hshape : ∀ text ∈ records lines, RecordShape rt text) :
    ∃ next, streamLines rt lines state = .ok (next, isDone lines) ∧
      next.Reads ((chunksOf rt lines).foldl Reading.addChunk reading) := by
  induction lines generalizing state reading with
  | nil => exact ⟨state, rfl, h⟩
  | cons line lines ih =>
      simp only [streamLines, chunksOf, records, isDone, List.any_cons] at hshape ⊢
      cases hline : sseLine line with
      | skipped =>
          simp only [hline] at hshape ⊢
          exact ih h hshape
      | done => exact ⟨state, rfl, h⟩
      | data text =>
          simp only [hline, List.mem_cons, forall_eq_or_imp] at hshape ⊢
          obtain ⟨hrecord, hrest⟩ := hshape
          rw [RecordShape] at hrecord
          cases hloads : rt.loadsText text with
          | ok chunk =>
              rw [hloads] at hrecord
              obtain ⟨next, hnext, hreads⟩ := addChunk_reads h hrecord
              simp only [hnext, hloads, bind, Except.bind, List.filterMap_cons, Except.toOption]
              exact ih hreads hrest
          | error error =>
              rw [hloads] at hrecord
              subst hrecord
              simp only [hloads, List.filterMap_cons, Except.toOption]
              exact ih h hrest

theorem shape_of_raisesOnly_streamLines
    (h : RaisesOnly PyError.Own (streamLines rt lines state)) :
    ∀ text ∈ records lines, RecordShape rt text := by
  induction lines generalizing state with
  | nil => exact nofun
  | cons line lines ih =>
      rw [streamLines] at h
      rw [records]
      cases hline : sseLine line with
      | skipped =>
          rw [hline] at h
          exact ih h
      | done => exact nofun
      | data text =>
          rw [hline] at h
          simp only [List.mem_cons, forall_eq_or_imp, RecordShape]
          simp only at h
          cases hloads : rt.loadsText text with
          | ok chunk =>
              rw [hloads] at h
              obtain ⟨next, hnext, h⟩ := (raisesOnly_bind_of_foreign foreign_addChunk).1 h
              have hread : RaisesOnly PyError.Own (state.addChunk rt chunk) := by
                rw [hnext]
                trivial
              exact ⟨chunkShape_of_raisesOnly hread, ih h⟩
          | error error =>
              rw [hloads] at h
              cases error with
              | jsonDecodeError => exact ⟨rfl, ih h⟩
              | _ => exact h.elim

end Lines

section Ends

variable (rt : PyRuntime Float) (client : Client Float) (payload : Payload) (response : OkResponse)

def EndFits (reading : Reading Float) : Prop :=
  SplitFits rt.num reading.reasoning (reading.total rt.num) ∧
    RaisesOnly PyError.Own (client.costFields response.costHeader payload reading.input
      (reading.total rt.num) reading.known)

variable {rt client payload response} {state : StreamState Float} {reading : Reading Float}

theorem raisesOnly_finishStream (h : state.Reads reading) :
    RaisesOnly PyError.Own (finishStream rt client payload response state) ↔
      EndFits rt client payload response reading := by
  rw [finishStream, raisesOnly_bind_of_ok h.text]
  simp only [h.output, h.input, h.known, h.reasoning]
  rw [← Reading.total, raisesOnly_bind_of_const (p := RaisesOnly PyError.Own
      (client.costFields response.costHeader payload reading.input (reading.total rt.num)
        reading.known)) foreign_visibleTokens, raisesOnly_visibleTokens, EndFits]
  intro visible
  rw [raisesOnly_bind_pure]

end Ends

section Documents

variable {rt : PyRuntime Float} {client : Client Float} {payload : Payload} {response : OkResponse}
  {data : PyValue Float}

structure DocumentShape (num : NumOps Float) (data : PyValue Float) : Prop
    extends ObjectShape data where
  text : (rawText num data).truthy num → (rawText num data).IsStr

def Reading.addWhole (reading : Reading Float) : Bool → PyValue Float → Reading Float
  | true, .str s => { reading with text := reading.text ++ s.toList }
  | true, _ => reading
  | false, text => reading.addContent text

def documentReading (num : NumOps Float) (data : PyValue Float) : Reading Float :=
  ((({} : Reading Float).addUsage (usageOf data)).addWhole (hasSeparateReasoning data)
    (rawText num data)).flush

theorem takeChoice_eq_ok (hobjects : ObjectShape data) :
    takeChoice data = .ok (firstChoice data) := by
  rw [takeChoice, get_eq_ok_of_isDict hobjects.response]
  exact first_eq_ok_of_isDict hobjects.choice

theorem streamDocument_eq {start : StreamState Float} (hstart : start.Reads {})
    (hloads : rt.loads response.body = .ok data) (hobjects : ObjectShape data) :
    ∃ read : StreamState Float,
      read.Reads (({} : Reading Float).addUsage (usageOf data)) ∧
        streamDocument rt response start =
          (read.emitWhole rt ((choiceMessage data).entry "reasoning_content" .none)
            (rawText rt.num data) >>= fun shown => pure (shown.flush rt)) := by
  have hmessage : (firstChoice data).get "message" (.dict []) =
      (.ok (choiceMessage data) : Raising Float _) := get_eq_ok_of_isDict hobjects.choice
  have husage : data.get "usage" (.dict []) = (.ok (usageOf data) : Raising Float _) :=
    get_eq_ok_of_isDict hobjects.response
  simp only [streamDocument, hloads, takeChoice_eq_ok hobjects, bind, Except.bind, hmessage, husage,
    contentOrText_eq_ok hobjects.message hobjects.choice, get_eq_ok_of_isDict hobjects.choice,
    get_eq_ok_of_isDict hobjects.message, get_eq_ok_of_isDict hobjects.usage,
    seenOrKnown_eq_ok _ hobjects.usage, extractReasoningTokens_eq_ok hobjects.usage]
  refine ⟨_, ?_, rfl⟩
  exact { hstart with
    input := by rw [Reading.addUsage, hstart.input]
    output := by rw [Reading.addUsage, hstart.output]
    known := by rw [Reading.addUsage, hstart.known]
    reasoning := by simp [Reading.addUsage] }

theorem objectShape_of_raisesOnly {start : StreamState Float}
    (hloads : rt.loads response.body = .ok data)
    (h : RaisesOnly PyError.Own (streamDocument rt response start)) : ObjectShape data := by
  rw [streamDocument, hloads] at h
  simp only at h
  rw [raisesOnly_takeChoice_bind fun _ h => (raisesOnly_get_bind.1 h).1, raisesOnly_get_bind,
    ← choiceMessage, raisesOnly_get_bind] at h
  obtain ⟨hdata, hchoice, -, -, h⟩ := h
  rw [raisesOnly_contentOrText_bind hchoice, raisesOnly_get_bind, raisesOnly_get_bind,
    ← usageOf] at h
  obtain ⟨hmessage, -, -, h⟩ := h
  obtain ⟨_, -, h⟩ := (raisesOnly_bind_of_foreign foreign_seenOrKnown).1 h
  exact ⟨hdata, hchoice, hmessage, (raisesOnly_get_bind.1 h).1⟩

theorem emitWhole_reads {read : StreamState Float} {reading : Reading Float}
    (separate : PyValue Float) {text : PyValue Float} (h : read.Reads reading)
    (htext : text.truthy rt.num → text.IsStr) :
    ∃ shown, read.emitWhole rt separate text = .ok shown ∧
      shown.Reads (reading.addWhole separate.isNonemptyStr text) := by
  cases hseparate : separate.isNonemptyStr with
  | true =>
      rw [StreamState.emitWhole, if_pos hseparate]
      refine ⟨_, rfl, ?_⟩
      cases text with
      | str s => simpa [Reading.addWhole] using emitVisible_reads h s.toList
      | _ =>
          rw [StreamState.emitVisible, if_neg htext]
          exact h
  | false =>
      rw [StreamState.emitWhole, hseparate, if_neg Bool.false_ne_true]
      by_cases htruthy : text.truthy rt.num
      · have hstr := htext htruthy
        rw [if_pos htruthy]
        cases text with
        | str s => exact feed_reads h s
        | _ => exact hstr.elim
      · rw [if_neg htruthy]
        refine ⟨read, rfl, ?_⟩
        rw [Reading.addWhole.eq_3, addContent_of_not_truthy htruthy]
        exact h

theorem isStr_of_raisesOnly_joinTexts {texts : List (PyValue Float)}
    (h : RaisesOnly PyError.Own (joinTexts texts)) : ∀ text ∈ texts, text.IsStr := by
  induction texts with
  | nil => exact nofun
  | cons text texts ih =>
      cases text with
      | str s =>
          have hrest := (raisesOnly_bind.1 h).1
          exact List.forall_mem_cons.2 ⟨trivial, ih hrest⟩
      | _ => exact h.elim

theorem mem_emitVisible {state : StreamState Float} {shown text : PyValue Float}
    (h : shown ∈ state.accumulated) : shown ∈ (state.emitVisible rt text).accumulated := by
  rw [StreamState.emitVisible]
  split
  · exact List.mem_append_left _ h
  · exact h

theorem isStr_of_raisesOnly_finish {read : StreamState Float} {separate text : PyValue Float}
    (h : RaisesOnly PyError.Own (read.emitWhole rt separate text >>= fun shown =>
      finishStream rt client payload response (shown.flush rt)))
    (htruthy : text.truthy rt.num) : text.IsStr := by
  cases hseparate : separate.isNonemptyStr with
  | true =>
      rw [StreamState.emitWhole, if_pos hseparate, pure_bind, finishStream] at h
      have hjoin := (raisesOnly_bind.1 h).1
      have hshown : text ∈ (read.emitVisible rt text).accumulated := by
        rw [StreamState.emitVisible, if_pos htruthy]
        exact List.mem_append_right _ (List.mem_singleton_self text)
      exact isStr_of_raisesOnly_joinTexts hjoin text (mem_emitVisible hshown)
  | false =>
      rw [StreamState.emitWhole, hseparate, if_neg Bool.false_ne_true, if_pos htruthy] at h
      exact raisesOnly_feed.1 (raisesOnly_bind.1 h).1

theorem streamDocument_reads {start : StreamState Float} (hstart : start.Reads {})
    (hloads : rt.loads response.body = .ok data) (hshape : DocumentShape rt.num data) :
    ∃ state, streamDocument rt response start = .ok state ∧
      state.Reads (documentReading rt.num data) := by
  obtain ⟨read, hread, heq⟩ := streamDocument_eq hstart hloads hshape.toObjectShape
  obtain ⟨shown, hshown, hreads⟩ :=
    emitWhole_reads ((choiceMessage data).entry "reasoning_content" .none) hread hshape.text
  refine ⟨shown.flush rt, ?_, flush_reads hreads⟩
  rw [heq, hshown]
  rfl

theorem documentShape_of_raisesOnly {start : StreamState Float} (hstart : start.Reads {})
    (hloads : rt.loads response.body = .ok data)
    (h : RaisesOnly PyError.Own (streamDocument rt response start >>=
      finishStream rt client payload response)) : DocumentShape rt.num data := by
  have hobjects := objectShape_of_raisesOnly hloads (raisesOnly_bind.1 h).1
  obtain ⟨read, -, heq⟩ := streamDocument_eq hstart hloads hobjects
  rw [heq, bind_assoc] at h
  simp only [pure_bind] at h
  exact ⟨hobjects, isStr_of_raisesOnly_finish h⟩

end Documents

section Streams

variable (rt : PyRuntime Float) (client : Client Float) (payload : Payload) (response : OkResponse)

def isDocument : Bool := contains "application/json".toList response.contentType.toList

def streamReading : Reading Float :=
  if isDocument response then
    match rt.loads response.body with
    | .ok data => documentReading rt.num data
    | .error _ => {}
  else ((chunksOf rt response.lines).foldl Reading.addChunk {}).flush

def ReadToEnd : Prop :=
  response.failure = none ∨ (isDocument response = false ∧ isDone response.lines)

/-- What is read of the body has its shape. A document that is broken off is not read. -/
def BodyShape : Prop :=
  if isDocument response then
    response.failure = none →
      match rt.loads response.body with
      | .ok data => DocumentShape rt.num data
      | .error error => error = .jsonDecodeError
  else ∀ text ∈ records response.lines, RecordShape rt text

def StreamShape : Prop :=
  BodyShape rt response ∧
    (ReadToEnd response → EndFits rt client payload response (streamReading rt response))

variable {rt client payload response}

theorem start_reads (modelId : PyValue Float) : ({ modelId } : StreamState Float).Reads {} :=
  ⟨rfl, rfl, rfl, rfl, rfl, rfl⟩

theorem readStream_reads (hbody : BodyShape rt response) (hend : ReadToEnd response) :
    ∃ state, readStream rt client response = .ok state ∧
      state.Reads (streamReading rt response) := by
  rw [BodyShape] at hbody
  rw [ReadToEnd] at hend
  rw [readStream, ← isDocument, streamReading]
  cases hdocument : isDocument response with
  | true =>
      simp only [hdocument, if_true, Bool.true_eq_false, false_and, or_false] at hbody hend ⊢
      specialize hbody hend
      rw [hend]
      cases hloads : rt.loads response.body with
      | ok data =>
          rw [hloads] at hbody
          exact streamDocument_reads (start_reads _) hloads hbody
      | error error =>
          rw [hloads] at hbody
          subst hbody
          simp only [streamDocument, hloads]
          exact ⟨_, rfl, start_reads _⟩
  | false =>
      simp only [hdocument, if_false, Bool.false_eq_true, true_and] at hbody hend ⊢
      obtain ⟨state, hstate, hreads⟩ := streamLines_reads (start_reads (.str client.modelId)) hbody
      refine ⟨state.flush rt, ?_, flush_reads hreads⟩
      rw [hstate]
      simp only [bind, Except.bind]
      rcases hend with hnone | hdone
      · rw [hnone]
        rfl
      · rw [hdone]
        cases response.failure <;> rfl

theorem readStream_breaks (hbody : BodyShape rt response) (hend : ¬ ReadToEnd response) :
    ∃ failure, response.failure = some failure ∧
      readStream rt client response = raiseProvider (failure.error client.errorStart) := by
  rw [BodyShape] at hbody
  rw [ReadToEnd, not_or, not_and] at hend
  obtain ⟨failure, hfailure⟩ := Option.ne_none_iff_exists'.1 hend.1
  refine ⟨failure, hfailure, ?_⟩
  rw [readStream, ← isDocument]
  cases hdocument : isDocument response with
  | true =>
      rw [if_pos rfl, hfailure]
  | false =>
      simp only [hdocument, if_false, Bool.false_eq_true] at hbody ⊢
      obtain ⟨state, hstate, -⟩ := streamLines_reads (start_reads (.str client.modelId)) hbody
      have hdone : isDone response.lines = false := by simpa using hend.2 hdocument
      rw [hstate, hfailure, hdone]
      rfl

theorem bodyShape_of_raisesOnly
    (h : RaisesOnly PyError.Own (streamCompletion rt client payload (.ok response))) :
    BodyShape rt response := by
  rw [streamCompletion, readStream, ← isDocument] at h
  rw [BodyShape]
  cases hdocument : isDocument response with
  | true =>
      rw [hdocument, if_pos rfl] at h
      rw [if_pos rfl]
      intro hnone
      rw [hnone] at h
      cases hloads : rt.loads response.body with
      | ok data => exact documentShape_of_raisesOnly (start_reads _) hloads h
      | error error =>
          simp only [streamDocument, hloads] at h
          cases error with
          | jsonDecodeError => rfl
          | _ => exact h.elim
  | false =>
      simp only [hdocument, if_false, Bool.false_eq_true] at h ⊢
      exact shape_of_raisesOnly_streamLines (raisesOnly_bind.1 (raisesOnly_bind.1 h).1).1

theorem raisesOnly_streamCompletion :
    RaisesOnly PyError.Own (streamCompletion rt client payload (.ok response)) ↔
      StreamShape rt client payload response := by
  rw [StreamShape]
  by_cases hbody : BodyShape rt response
  · rw [and_iff_right hbody, streamCompletion]
    by_cases hend : ReadToEnd response
    · obtain ⟨state, hstate, hreads⟩ := readStream_reads hbody hend
      rw [raisesOnly_bind_of_ok hstate, raisesOnly_finishStream hreads, forall_prop_of_true hend]
    · obtain ⟨failure, -, hraise⟩ := readStream_breaks hbody hend
      rw [hraise]
      exact iff_of_true trivial fun h => absurd h hend
  · exact iff_of_false (fun h => hbody (bodyShape_of_raisesOnly h)) fun h => hbody h.1

end Streams

end AiAnalytics.App
