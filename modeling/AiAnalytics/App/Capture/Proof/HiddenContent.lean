import AiAnalytics.App.Capture.Recorder
import AiAnalytics.Lib.JsonRoundTrip

/-!
# What a capture without content tells

Two runs that differ in the question, the answer, the values of tool arguments and the errors of
tools have the same records but for the hashes, except that the record of a failed tool step holds
the error as it was stored. -/

namespace AiAnalytics.App.Capture

open Lib App.Loop

variable {Float : Type} {recorder : CaptureRecorder Float} {run run' : Run Float}
  {step step' : RunStep Float} {steps steps' : List (RunStep Float)}
  {question question' answer answer' : Option String}

section Runs

def hashFields : List String :=
  ["prompt_sha256", "arguments_sha256", "question_sha256", "answer_sha256"]

def unhashed (record : Dict Float) : Dict Float := record.filter fun entry => entry.1 ∉ hashFields

def SameNames (floats : JsonFloats Float) (text text' : String) : Prop :=
  ∃ arguments arguments', jsonLoads floats text.toList = some (.dict arguments) ∧
    jsonLoads floats text'.toList = some (.dict arguments') ∧
    (arguments.map Prod.fst).Perm (arguments'.map Prod.fst)

/-- The same step but for what its texts quote: values of arguments and the error of a tool, and
anything in a step that is no tool step -/
structure SameButTexts (floats : JsonFloats Float) (step step' : RunStep Float) : Prop where
  fields :
    step' = { step with inputSummary := step'.inputSummary, outputSummary := step'.outputSummary }
  arguments : step.stepType = .toolCall → step.inputSummary = step'.inputSummary ∨
    ∃ text text', step.inputSummary = some text ∧ step'.inputSummary = some text' ∧
      SameNames floats text text'
  output : step.stepType = .toolCall → step.status ≠ .failed →
    step.outputSummary = step'.outputSummary
  error : step.stepType = .toolCall → step.status = .failed → ∃ error error',
    step.outputSummary = some ("error: " ++ error) ∧
      step'.outputSummary = some ("error: " ++ error')

def SameCall (call call' : PyValue Float) : Prop :=
  call = call' ∨ ∃ entries entries', call = .dict entries ∧ call' = .dict entries' ∧
    ∀ key, key ≠ "prompt_sha256" → field entries key = field entries' key

/-- The same record of a run but for the hashes of the prompts, which may hold the question -/
structure SameButPrompts (run run' : Run Float) : Prop where
  fields : run' = { run with metadata := run'.metadata }
  evalRun : field run.metadata "eval_run_id" = field run'.metadata "eval_run_id"
  calls : (∃ error, listedCalls run = .error error ∧ listedCalls run' = .error error) ∨
    ∃ calls calls', listedCalls run = .ok calls ∧ listedCalls run' = .ok calls' ∧
      List.Forall₂ SameCall calls calls'

def SameError (step step' : RunStep Float) : Prop :=
  step.stepType = .toolCall → step.status = .failed → step.outputSummary = step'.outputSummary

def ReadableCall (call : PyValue Float) : Prop :=
  ∃ entries, call = .dict entries ∧ (∀ items, field entries "llm_call_id" ≠ .list items) ∧
    ∀ pairs, field entries "llm_call_id" ≠ .dict pairs

def ReadableCalls (run : Run Float) : Prop :=
  ∃ calls, listedCalls run = .ok calls ∧ ∀ call ∈ calls, ReadableCall call

end Runs

section Calls

theorem SameCall.entries {entries : Dict Float} {call' : PyValue Float}
    (h : SameCall (.dict entries) call') : ∃ entries', call' = .dict entries' ∧
      ∀ key, key ≠ "prompt_sha256" → field entries key = field entries' key := by
  rcases h with rfl | ⟨_, entries', ⟨⟩, rfl, hfields⟩
  · exact ⟨entries, rfl, fun _ _ => rfl⟩
  · exact ⟨entries', rfl, hfields⟩

theorem SameCall.readable_iff {call call' : PyValue Float} (h : SameCall call call') :
    ReadableCall call ↔ ReadableCall call' := by
  rcases h with rfl | ⟨entries, entries', rfl, rfl, hfields⟩
  · exact Iff.rfl
  · have hid := hfields "llm_call_id" (by decide)
    simp only [ReadableCall, PyValue.dict.injEq, exists_eq_left', hid]

theorem SameButPrompts.readable_iff (h : SameButPrompts run run') :
    ReadableCalls run ↔ ReadableCalls run' := by
  rcases h.calls with ⟨error, hlisted, hlisted'⟩ | ⟨calls, calls', hlisted, hlisted', hcalls⟩
  · simp [ReadableCalls, hlisted, hlisted']
  · simp only [ReadableCalls, hlisted, hlisted', Except.ok.injEq, exists_eq_left']
    clear hlisted hlisted'
    induction hcalls with
    | nil => exact iff_of_true (by simp) (by simp)
    | cons hcall _ ih => rw [List.forall_mem_cons, List.forall_mem_cons, hcall.readable_iff, ih]

theorem SameButPrompts.base_eq (h : SameButPrompts run run') :
    recorder.base run = recorder.base run' := by
  obtain ⟨metadata, rfl⟩ : ∃ metadata, run' = { run with metadata } := ⟨_, h.fields⟩
  simp only [CaptureRecorder.base, h.evalRun]

theorem unhashed_modelRecord (hcontent : recorder.settings.includeContent = false)
    (hruns : SameButPrompts run run') {found found' : Option (RunStep Float)}
    (hfound : found.map RunStep.stepType = found'.map RunStep.stepType) (number : Int)
    {call call' : Dict Float}
    (hcall : ∀ key, key ≠ "prompt_sha256" → field call key = field call' key) :
    unhashed (recorder.modelRecord run found number question answer call) =
      unhashed (recorder.modelRecord run' found' number question' answer' call') := by
  have hrole : found.map (fun step => roleByStep step.stepType) = found'.map fun step =>
      roleByStep step.stepType := by
    have hroles := congrArg (Option.map roleByStep) hfound
    simpa only [Option.map_map, Function.comp_def] using hroles
  have husage : ∀ key, key ≠ "prompt_sha256" → usage call key = usage call' key := by
    intro key hkey
    simp only [usage, hcall key hkey, hcall "usage_known" (by decide)]
  have hcost : cost recorder.lib.num call = cost recorder.lib.num call' := by
    simp (disch := decide) only [cost, hcall]
  simp (disch := decide) only [CaptureRecorder.modelRecord, hrole, hruns.base_eq, hcost, husage,
    hcall, reasoningKeys, List.map_cons, List.map_nil]
  simp [unhashed, hcontent, hashFields]

theorem find?_related {α : Type} {r : α → α → Prop} {p : α → Bool} {items items' : List α}
    (h : List.Forall₂ r items items') (hp : ∀ a b, r a b → p a = p b) :
    Option.Rel r (items.find? p) (items'.find? p) := by
  induction h with
  | nil => exact .none
  | @cons a b _ _ hab _ ih =>
      by_cases ha : p a = true
      · rw [List.find?_cons_of_pos ha, List.find?_cons_of_pos (hp a b hab ▸ ha)]
        exact .some hab
      · rw [List.find?_cons_of_neg ha, List.find?_cons_of_neg (hp a b hab ▸ ha)]
        exact ih

theorem stepByCall_related (hsteps : List.Forall₂ (SameButTexts recorder.lib.floats) steps steps')
    (id : PyValue Float) :
    (stepByCall steps id = .error .typeError ∧ stepByCall steps' id = .error .typeError) ∨
      ∃ found found', stepByCall steps id = .ok found ∧ stepByCall steps' id = .ok found' ∧
        Option.Rel (SameButTexts recorder.lib.floats) found found' := by
  cases id with
  | list items => exact .inl ⟨rfl, rfl⟩
  | dict entries => exact .inl ⟨rfl, rfl⟩
  | str id =>
      refine .inr ⟨_, _, rfl, rfl, find?_related (List.rel_reverse hsteps) fun step step' hsame =>
        ?_⟩
      rw [hsame.fields]
  | _ => exact .inr ⟨none, none, rfl, rfl, .none⟩

theorem stepByCall_eq_error_iff {id : PyValue Float} :
    (∃ error, stepByCall steps id = .error error) ↔
      ¬ ((∀ items, id ≠ .list items) ∧ ∀ pairs, id ≠ .dict pairs) := by
  cases id <;> simp [stepByCall]

theorem modelRecords_cons {entries : Dict Float} {found : Option (RunStep Float)}
    (hfound : stepByCall steps (field entries "llm_call_id") = .ok found) (nextStep : Int)
    (calls : List (PyValue Float)) :
    recorder.modelRecords run steps question answer nextStep (.dict entries :: calls) =
      (recorder.modelRecords run steps question answer (if found.isSome then nextStep
      else nextStep + 1) calls).map
        fun records => recorder.modelRecord run found ((found.map RunStep.sequence).getD nextStep)
        question answer
          entries :: records := by
  rw [CaptureRecorder.modelRecords, hfound]
  cases hrest : recorder.modelRecords run steps question answer (if found.isSome then nextStep
    else nextStep + 1) calls with
  | error error => simp only [bind, Except.bind, hrest, Except.map]
  | ok records => simp only [bind, Except.bind, hrest, Except.map, pure, Except.pure]

theorem exists_modelRecords_iff {calls : List (PyValue Float)} (nextStep : Int) :
    (∃ records, recorder.modelRecords run steps question answer nextStep calls = .ok records) ↔
      ∀ call ∈ calls, ReadableCall call := by
  induction calls generalizing nextStep with
  | nil => simp [CaptureRecorder.modelRecords]
  | cons call calls ih =>
      rw [List.forall_mem_cons]
      cases call with
      | dict entries =>
          cases hstep : stepByCall steps (field entries "llm_call_id") with
          | error error =>
              have hunreadable := stepByCall_eq_error_iff.mp ⟨error, hstep⟩
              rw [CaptureRecorder.modelRecords, hstep]
              refine iff_of_false nofun fun ⟨⟨entries', hentries, hreadable⟩, _⟩ => hunreadable ?_
              obtain rfl := PyValue.dict.inj hentries
              exact hreadable
          | ok found =>
              have hreadable : ReadableCall (.dict entries) := by
                refine ⟨entries, rfl, Classical.not_not.mp fun hunreadable => ?_⟩
                obtain ⟨error, herror⟩ := stepByCall_eq_error_iff.mpr hunreadable
                rw [hstep] at herror
                cases herror
              rw [and_iff_right hreadable, ← ih (if found.isSome then nextStep else nextStep + 1),
                modelRecords_cons hstep]
              cases recorder.modelRecords run steps question answer
                  (if found.isSome then nextStep else nextStep + 1) calls with
              | error error => exact iff_of_false nofun nofun
              | ok records => exact iff_of_true ⟨_, rfl⟩ ⟨_, rfl⟩
      | _ =>
          refine iff_of_false ?_ ?_
          · rintro ⟨_, ⟨⟩⟩
          · rintro ⟨⟨_, ⟨⟩, _⟩, _⟩

theorem unhashed_modelRecords (hcontent : recorder.settings.includeContent = false)
    (hruns : SameButPrompts run run')
    (hsteps : List.Forall₂ (SameButTexts recorder.lib.floats) steps steps') (nextStep : Int)
    {calls calls' : List (PyValue Float)} (hcalls : List.Forall₂ SameCall calls calls') :
    (recorder.modelRecords run steps question answer nextStep calls).map (List.map unhashed) =
      (recorder.modelRecords run' steps' question' answer' nextStep calls').map
      (List.map unhashed) := by
  induction hcalls generalizing nextStep with
  | nil => rfl
  | @cons call call' calls calls' hcall _ ih =>
      cases call with
      | dict entries =>
          obtain ⟨entries', rfl, hfields⟩ := hcall.entries
          have hid := hfields "llm_call_id" (by decide)
          rcases stepByCall_related hsteps (field entries "llm_call_id") with
            ⟨herror, herror'⟩ | ⟨found, found', hfound, hfound', hrel⟩
          · rw [CaptureRecorder.modelRecords, CaptureRecorder.modelRecords, herror, ← hid, herror']
            rfl
          · obtain ⟨hsome, hsequence, htype⟩ : found'.isSome = found.isSome ∧
                found'.map RunStep.sequence = found.map RunStep.sequence ∧
                found.map RunStep.stepType = found'.map RunStep.stepType := by
              cases hrel with
              | none => exact ⟨rfl, rfl, rfl⟩
              | some hsame =>
                  rw [hsame.fields]
                  exact ⟨rfl, rfl, rfl⟩
            rw [modelRecords_cons hfound, modelRecords_cons (hid ▸ hfound'), hsome, hsequence]
            have hrest := ih (if found.isSome then nextStep else nextStep + 1)
            generalize recorder.modelRecords run steps question answer _ calls = result at hrest ⊢
            generalize recorder.modelRecords run' steps' question' answer' _ calls' =
              result' at hrest ⊢
            cases result with
            | error error =>
                cases result' with
                | error error' => exact congrArg Except.error (Except.error.inj hrest)
                | ok records' => cases hrest
            | ok records =>
                cases result' with
                | error error => cases hrest
                | ok records' =>
                    refine congrArg Except.ok (List.cons_eq_cons.mpr ⟨?_, Except.ok.inj hrest⟩)
                    exact unhashed_modelRecord hcontent hruns htype _ hfields
      | _ =>
          rcases hcall with rfl | ⟨_, _, ⟨⟩, _⟩
          rfl

end Calls

section Tools

theorem sortedTexts_perm {texts texts' : List String} (h : texts.Perm texts') :
    sortedTexts texts = sortedTexts texts' := by
  have hperm : (sortedTexts texts).Perm (sortedTexts texts') :=
    ((List.perm_insertionSort _ _).trans h).trans (List.perm_insertionSort _ _).symm
  exact hperm.eq_of_pairwise' (List.pairwise_insertionSort _ _) (List.pairwise_insertionSort _ _)

theorem parsed_of_dict {text : String} {entries : Dict Float}
    (h : jsonLoads recorder.lib.floats text.toList = some (.dict entries)) :
    recorder.parsed (some text) = some (.dict entries) := by
  rw [CaptureRecorder.parsed]
  · exact h
  · rintro rfl
    cases h

theorem argumentKeys_same (h : SameButTexts recorder.lib.floats step step')
    (htool : step.stepType = .toolCall) :
    recorder.argumentKeys step.inputSummary = recorder.argumentKeys step'.inputSummary := by
  rcases h.arguments htool with hsame | ⟨text, text', htext, htext', arguments, arguments', hread,
    hread', hnames⟩
  · rw [hsame]
  · simp only [CaptureRecorder.argumentKeys, htext, htext', parsed_of_dict hread,
      parsed_of_dict hread', sortedTexts_perm hnames]

theorem rowCount_error (error : String) : recorder.rowCount ("error: " ++ error) = .none := by
  refine if_neg ?_
  rintro ⟨rest, hrest⟩
  simp at hrest

theorem unhashed_toolRecord_iff (hcontent : recorder.settings.includeContent = false)
    (hruns : SameButPrompts run run') (h : SameButTexts recorder.lib.floats step step')
    (htool : step.stepType = .toolCall) :
    unhashed (recorder.toolRecord run step) = unhashed (recorder.toolRecord run' step') ↔
      SameError step step' := by
  have hkeys := argumentKeys_same h htool
  have hrows : recorder.rowCount (step.outputSummary.getD "") =
      recorder.rowCount (step'.outputSummary.getD "") := by
    by_cases hfailed : step.status = .failed
    · obtain ⟨error, error', herror, herror'⟩ := h.error htool hfailed
      rw [herror, herror', Option.getD_some, Option.getD_some, rowCount_error, rowCount_error]
    · rw [h.output htool hfailed]
  have herror : (if step.status = .failed then (PyValue.str (step.outputSummary.getD "") :
    PyValue Float) else .none) =
      (if step.status = .failed then .str (step'.outputSummary.getD "") else .none) ↔
        SameError step step' := by
    by_cases hfailed : step.status = .failed
    · obtain ⟨error, error', herror, herror'⟩ := h.error htool hfailed
      simp [SameError, htool, hfailed, herror, herror']
    · simp [SameError, hfailed]
  rw [← herror]
  obtain ⟨input, output, rfl⟩ : ∃ input output, step' =
      { step with inputSummary := input, outputSummary := output } :=
    ⟨_, _, h.fields⟩
  simp only at hkeys hrows
  simp [CaptureRecorder.toolRecord, unhashed, hashFields, hcontent, hruns.base_eq, hkeys, hrows]

end Tools

section Captures

theorem unhashed_toolRecords_iff (hcontent : recorder.settings.includeContent = false)
    (hruns : SameButPrompts run run')
    (hsteps : List.Forall₂ (SameButTexts recorder.lib.floats) steps steps') :
    ((steps.filter fun step => step.stepType = .toolCall).map (recorder.toolRecord run)).map
      unhashed =
      ((steps'.filter fun step => step.stepType = .toolCall).map (recorder.toolRecord run')).map
      unhashed ↔
      List.Forall₂ SameError steps steps' := by
  induction hsteps with
  | nil => exact iff_of_true rfl .nil
  | @cons step step' _ _ hsame _ ih =>
      have htype : step'.stepType = step.stepType := by rw [hsame.fields]
      rw [List.forall₂_cons, List.filter_cons, List.filter_cons, htype]
      by_cases htool : step.stepType = .toolCall
      · rw [if_pos (decide_eq_true htool), if_pos (decide_eq_true htool)]
        simp only [List.map_cons, List.cons_eq_cons, ih,
          unhashed_toolRecord_iff hcontent hruns hsame htool]
      · have herror : SameError step step' := fun hcall => absurd hcall htool
        rw [if_neg (by simpa using htool), if_neg (by simpa using htool), ih, and_iff_right herror]

theorem captureRun_eq (recorder : CaptureRecorder Float) (run : Run Float)
    (steps : List (RunStep Float)) (question answer : Option String) :
    (¬ ReadableCalls run ∧ recorder.captureRun (some run) steps question answer = []) ∨
      ∃ calls records, ReadableCalls run ∧ listedCalls run = .ok calls ∧
        recorder.modelRecords run steps question answer
        ((steps.map RunStep.sequence).max?.getD 0 + 1) calls =
          .ok records ∧
        recorder.captureRun (some run) steps question answer =
          records ++ (steps.filter fun step => step.stepType = .toolCall).map
          (recorder.toolRecord run) := by
  cases hlisted : listedCalls run with
  | error error =>
      refine .inl ⟨?_, ?_⟩
      · rintro ⟨calls, hcalls, -⟩
        rw [hlisted] at hcalls
        cases hcalls
      · simp only [CaptureRecorder.captureRun, Option.map_some, CaptureRecorder.build, hlisted,
          bind, Except.bind]
  | ok calls =>
      have hiff : (∃ records, recorder.modelRecords run steps question answer
          ((steps.map RunStep.sequence).max?.getD 0 + 1) calls = .ok records) ↔
            ∀ call ∈ calls, ReadableCall call :=
        exists_modelRecords_iff _
      cases hrecords : recorder.modelRecords run steps question answer
          ((steps.map RunStep.sequence).max?.getD 0 + 1) calls with
      | error error =>
          refine .inl ⟨?_, ?_⟩
          · rintro ⟨calls', hcalls', hreadable⟩
            obtain rfl := Except.ok.inj (hlisted.symm.trans hcalls')
            obtain ⟨records, hok⟩ := hiff.mpr hreadable
            rw [hrecords] at hok
            cases hok
          · simp only [CaptureRecorder.captureRun, Option.map_some, CaptureRecorder.build, hlisted,
              hrecords, bind, Except.bind]
      | ok records =>
          refine .inr ⟨calls, records, ⟨calls, hlisted, hiff.mp ⟨records, hrecords⟩⟩, rfl, hrecords,
            ?_⟩
          simp only [CaptureRecorder.captureRun, Option.map_some, CaptureRecorder.build, hlisted,
            hrecords, bind, Except.bind, pure, Except.pure]

/-- Without content, the records of two runs that differ in questions, answers, arguments and errors
agree but for the hashes exactly if the failed tool steps store the same errors. -/
theorem metadata_records_agree_iff (hcontent : recorder.settings.includeContent = false)
    (hruns : SameButPrompts run run')
    (hsteps : List.Forall₂ (SameButTexts recorder.lib.floats) steps steps')
    (question question' answer answer' : Option String) :
    (recorder.captureRun (some run) steps question answer).map unhashed =
        (recorder.captureRun (some run') steps' question' answer').map unhashed ↔
      (ReadableCalls run → List.Forall₂ SameError steps steps') := by
  have hsequences : steps'.map RunStep.sequence = steps.map RunStep.sequence := by
    induction hsteps with
    | nil => rfl
    | cons hsame _ ih => rw [List.map_cons, List.map_cons, ih, hsame.fields]
  rcases captureRun_eq recorder run steps question answer with
    ⟨hunreadable, hnone⟩ | ⟨calls, records, hreadable, hlisted, hrecords, hcaptured⟩
  · rcases captureRun_eq recorder run' steps' question' answer' with ⟨-, hnone'⟩
      | ⟨_, _, hreadable, -⟩
    · rw [hnone, hnone']
      exact iff_of_true rfl fun hreadable => absurd hreadable hunreadable
    · exact absurd (hruns.readable_iff.mpr hreadable) hunreadable
  · rcases captureRun_eq recorder run' steps' question' answer' with
      ⟨hunreadable, -⟩ | ⟨calls', records', -, hlisted', hrecords', hcaptured'⟩
    · exact absurd (hruns.readable_iff.mp hreadable) hunreadable
    · have hcalls : List.Forall₂ SameCall calls calls' := by
        rcases hruns.calls with ⟨error, herror, -⟩ | ⟨_, _, hfirst, hsecond, hcalls⟩
        · cases hlisted.symm.trans herror
        · obtain rfl := Except.ok.inj (hlisted.symm.trans hfirst)
          obtain rfl := Except.ok.inj (hlisted'.symm.trans hsecond)
          exact hcalls
      rw [hsequences] at hrecords'
      set nextStep := (steps.map RunStep.sequence).max?.getD 0 + 1
      have hsame : (recorder.modelRecords run steps question answer nextStep calls).map
          (List.map unhashed) =
          (recorder.modelRecords run' steps' question' answer' nextStep calls').map
            (List.map unhashed) :=
        unhashed_modelRecords hcontent hruns hsteps nextStep hcalls
      rw [hrecords, hrecords'] at hsame
      have hmodel : records.map unhashed = records'.map unhashed := Except.ok.inj hsame
      rw [hcaptured, hcaptured', List.map_append, List.map_append, hmodel, List.append_right_inj,
        unhashed_toolRecords_iff hcontent hruns hsteps, forall_prop_of_true hreadable]

def sampleRecorder : CaptureRecorder Unit where
  lib :=
    { num :=
        { ofInt := fun _ => some (), zero := (), isZero := fun _ => true,
          isPositive := fun _ => false
          add := fun _ _ => (), sub := fun _ _ => (), mul := fun _ _ => (), div := fun _ _ => () }
      floats := { write := fun _ => "0.0".toList, read := fun _ => (), isFinite := fun _ => true }
      digit := fun c => if c.isDigit then some (c.toNat - '0'.toNat) else none
      sha256 := fun text => text }
  settings := {}

def sampleRun (promptSha256 : String) : Run Unit :=
  { runId := "run_1", conversationId := "conv_1", messageId := some "msg_1",
    startedAt := "2024-01-01T00:00:00"
    estimatedCostUsd := ()
    metadata := [("llm_calls",
      .list [.dict [("llm_call_id", .str "llm_1"), ("prompt_sha256", .str promptSha256)]])] }

theorem sameButPrompts_sampleRun (promptSha256 promptSha256' : String) :
    SameButPrompts (sampleRun promptSha256) (sampleRun promptSha256') where
  fields := rfl
  evalRun := rfl
  calls := by
    refine .inr ⟨_, _, rfl, rfl, .cons (.inr ⟨_, _, rfl, rfl, fun key hkey => ?_⟩) .nil⟩
    have hother : (key == "prompt_sha256") = false := beq_eq_false_iff_ne.mpr hkey
    simp [field, List.lookup_cons, hother]

def failedStep (arguments error : String) : RunStep Unit :=
  { stepId := "step_2", runId := "run_1", sequence := 2, stepType := .toolCall, status := .failed
    toolName := some "list_taxi_dimension_values", toolCallId := some "tool_1", inputSummary :=
      some arguments
    outputSummary := some ("error: " ++ error), durationMs := some 12 }

def vendorStep : RunStep Unit :=
  failedStep "\x7b\"dimension\": \"vendor\"\x7d" "'vendor' is not an allowlisted dimension"

def rateCodeStep : RunStep Unit :=
  failedStep "\x7b\"dimension\": \"rate_code\"\x7d" "'rate_code' is not an allowlisted dimension"

theorem sampleFloats_lawful : sampleRecorder.lib.floats.Lawful where
  text _ _ := ⟨[], ['0'], ['.', '0'], [], rfl, .inl rfl, .inl rfl,
    .inr ⟨['0'], rfl, List.cons_ne_nil _ _, List.forall_mem_singleton.mpr rfl⟩, .inl rfl,
    .inl (List.cons_ne_nil _ _)⟩
  read _ _ := rfl

theorem loads_argument {text : String} {name value : String}
    (htext : jsonDumps sampleRecorder.lib.floats (.dict [(name, .str value)]) = some text.toList) :
    jsonLoads sampleRecorder.lib.floats text.toList = some (.dict [(name, .str value)]) := by
  have hjson : IsJson sampleRecorder.lib.floats (.dict [(name, .str value)]) :=
    .dict (List.nodup_singleton _) (List.forall_mem_singleton.mpr (.str value))
  obtain ⟨written, hwritten, -, hread⟩ := loads_dumps sampleFloats_lawful hjson
  rwa [Option.some.inj (htext.symm.trans hwritten)]

theorem sameButTexts_failedStep :
    SameButTexts sampleRecorder.lib.floats vendorStep rateCodeStep where
  fields := rfl
  arguments _ :=
    .inr ⟨_, _, rfl, rfl, [("dimension", .str "vendor")], [("dimension", .str "rate_code")],
    loads_argument (by decide), loads_argument (by decide), .refl _⟩
  output _ hstatus := absurd rfl hstatus
  error _ _ := ⟨_, _, rfl, rfl⟩

/-- The stored error tells what the argument was. -/
theorem failed_step_tells_argument : ¬ ∀ steps steps' : List (RunStep Unit),
    List.Forall₂ (SameButTexts sampleRecorder.lib.floats) steps steps' →
      ∀ question question' answer answer' : Option String,
        (sampleRecorder.captureRun (some (sampleRun "5f3a")) steps question answer).map unhashed =
          (sampleRecorder.captureRun (some (sampleRun "5f3a")) steps' question' answer').map
          unhashed := by
  intro hclaim
  have hrecords := hclaim _ _ (.cons sameButTexts_failedStep .nil) none none none none
  have hlast := congrArg (fun records => records.getLast?.bind fun record => record.lookup "error")
    hrecords
  simp [CaptureRecorder.captureRun, CaptureRecorder.build, listedCalls, sampleRun,
    CaptureRecorder.modelRecords,
    vendorStep, rateCodeStep, failedStep, stepByCall, field, bind, Except.bind, pure, Except.pure,
    unhashed, hashFields,
    CaptureRecorder.toolRecord, CaptureRecorder.base, PyValue.truthy, List.lookup_cons,
    List.lookup_nil] at hlast

theorem metadata_records_agree_iff_failed :
    (sampleRecorder.captureRun (some (sampleRun "5f3a")) [vendorStep] (some "Where?") none).map
          unhashed =
        (sampleRecorder.captureRun (some (sampleRun "c204")) [rateCodeStep] none (some "Here")).map
          unhashed ↔
      (ReadableCalls (sampleRun "5f3a") → List.Forall₂ SameError [vendorStep] [rateCodeStep]) :=
  metadata_records_agree_iff rfl (sameButPrompts_sampleRun _ _) (.cons sameButTexts_failedStep .nil)
    _ _ _ _

end Captures

end AiAnalytics.App.Capture
