import AiAnalytics.App.Llm.Governed

/-!
# Governed calls

A governed call ends in one of the client's own exceptions exactly if every attempt it makes does.
`Reader` describes what a parser makes of a response, so that the loop over the aliases is treated
once for the three parsers.
-/

namespace AiAnalytics.App

open Lib

variable {Float : Type}

section Costs

variable (rt : PyRuntime Float) (pricing : PricingTable Float)

def CostFits (costHeader : Option String) (payload : Payload) (input output : PyValue Float)
    (known : Bool) : Prop :=
  costHeader.bind rt.parseFloat = none → known → (pricing.rates.lookup payload.model).isSome →
    input.FloatLike rt.num ∧ output.FloatLike rt.num

variable {rt pricing} {costHeader : Option String} {payload : Payload}
  {input output : PyValue Float} {known : Bool}

theorem foreign_estimate {modelAlias : String} :
    Foreign (pricing.estimate rt.num modelAlias input output) := by
  rw [PricingTable.estimate]
  split
  · exact foreign_ok _
  · exact foreign_bind foreign_toFloat fun _ => foreign_bind foreign_toFloat fun _ => foreign_ok _

theorem raisesOnly_estimate {modelAlias : String} :
    RaisesOnly PyError.Own (pricing.estimate rt.num modelAlias input output) ↔
      ((pricing.rates.lookup modelAlias).isSome →
        input.FloatLike rt.num ∧ output.FloatLike rt.num) := by
  rw [PricingTable.estimate]
  cases pricing.rates.lookup modelAlias with
  | none => exact iff_of_true trivial nofun
  | some rate =>
      rw [Option.isSome_some, forall_prop_of_true rfl]
      dsimp only
      rw [raisesOnly_bind_of_const (p := output.FloatLike rt.num) foreign_toFloat,
        raisesOnly_toFloat]
      intro x
      rw [raisesOnly_bind_pure, raisesOnly_toFloat]

theorem foreign_liteLLMCostFields :
    Foreign (liteLLMCostFields rt pricing costHeader payload input output known) := by
  rw [liteLLMCostFields]
  dsimp only
  split
  · exact foreign_ok _
  · split
    · refine foreign_bind foreign_estimate fun estimate => ?_
      cases estimate <;> exact foreign_ok _
    · exact foreign_ok _

theorem raisesOnly_liteLLMCostFields :
    RaisesOnly PyError.Own (liteLLMCostFields rt pricing costHeader payload input output known) ↔
      CostFits rt pricing costHeader payload input output known := by
  rw [liteLLMCostFields, CostFits]
  cases costHeader.bind rt.parseFloat with
  | some billed => exact iff_of_true trivial nofun
  | none =>
      rw [forall_prop_of_true rfl]
      cases known with
      | false => exact iff_of_true trivial nofun
      | true =>
          rw [forall_prop_of_true rfl]
          dsimp only
          rw [if_pos rfl, raisesOnly_bind_of_const (p := True) foreign_estimate, and_true,
            raisesOnly_estimate]
          intro estimate
          cases estimate <;> exact iff_of_true trivial trivial

end Costs

section Commits

variable (num : NumOps Float)

def CommitFits (ledger : RunBudgetState Float) (reservation : Reservation Float)
    (input output : PyValue Float) : Prop :=
  if input.isNone || output.isNone then
    PyValue.Compatible num (.ofNumber ledger.usedTokens) (.int reservation.tokens)
  else
    PyValue.Compatible num (.ofNumber ledger.inputTokens) input ∧
      PyValue.Compatible num (.ofNumber ledger.outputTokens) output ∧
      PyValue.Compatible num input output ∧
      ∀ sum, input.add num output = (.ok sum : Raising Float _) →
        PyValue.Compatible num (.ofNumber ledger.usedTokens) sum

variable {num}

theorem foreign_addTo {total : Int ⊕ Float} {v : PyValue Float} : Foreign (addTo num total v) := by
  refine foreign_bind foreign_arith fun sum => ?_
  split
  · exact foreign_ok _
  · exact foreign_error id

theorem raisesOnly_addTo {total : Int ⊕ Float} {v : PyValue Float} :
    RaisesOnly PyError.Own (addTo num total v) ↔
      PyValue.Compatible num (.ofNumber total) v := by
  rw [addTo, PyValue.add, raisesOnly_bind, raisesOnly_arith]
  refine and_iff_left fun sum hsum => ?_
  obtain ⟨number, hnumber⟩ := asNumber_of_arith hsum
  rw [hnumber]
  trivial

theorem raisesOnly_commit {ledger : RunBudgetState Float} {reservation : Reservation Float}
    {input output : PyValue Float} (usd : Option Float) :
    RaisesOnly PyError.Own (ledger.commit num reservation input output usd) ↔
      CommitFits num ledger reservation input output := by
  rw [RunBudgetState.commit, CommitFits]
  dsimp only
  split
  · rw [raisesOnly_bind_pure, raisesOnly_addTo]
  · rw [raisesOnly_bind_of_const
      (p := PyValue.Compatible num (.ofNumber ledger.outputTokens) output ∧
        PyValue.Compatible num input output ∧
        ∀ sum, input.add num output = (.ok sum : Raising Float _) →
          PyValue.Compatible num (.ofNumber ledger.usedTokens) sum) foreign_addTo, raisesOnly_addTo]
    intro _
    rw [raisesOnly_bind_of_const
      (p := PyValue.Compatible num input output ∧
        ∀ sum, input.add num output = (.ok sum : Raising Float _) →
          PyValue.Compatible num (.ofNumber ledger.usedTokens) sum) foreign_addTo, raisesOnly_addTo]
    intro _
    rw [raisesOnly_bind]
    refine and_congr raisesOnly_arith (forall_congr' fun sum => imp_congr_right fun _ => ?_)
    rw [raisesOnly_bind_pure, raisesOnly_addTo]

theorem foreign_commit {ledger : RunBudgetState Float} {reservation : Reservation Float}
    {input output : PyValue Float} {usd : Option Float} :
    Foreign (ledger.commit num reservation input output usd) := by
  rw [RunBudgetState.commit]
  dsimp only
  split
  · exact foreign_bind foreign_addTo fun _ => foreign_ok _
  · exact foreign_bind foreign_addTo fun _ => foreign_bind foreign_addTo fun _ =>
      foreign_bind foreign_arith fun _ => foreign_bind foreign_addTo fun _ => foreign_ok _

end Commits

section Attempts

structure Counts (Float : Type) where
  input : PyValue Float
  output : PyValue Float
  known : Bool

def Counts.sent (counts : Counts Float) (count : PyValue Float) : PyValue Float :=
  if counts.known then count else .none

def passesOver : HttpOutcome → Bool
  | .failed .unavailable => true
  | .status code _ _ => code = 503 ∨ code = 504 ∨ code = 529
  | _ => false

structure Reader (Float : Type) where
  Shape : Payload → OkResponse → Prop
  Returned : OkResponse → Prop
  counts : OkResponse → Counts Float
  broken : OkResponse → Bool

variable {α : Type} (num : NumOps Float) (fields : ResultFields Float α) (reader : Reader Float)
  (call : Payload → HttpOutcome → Raising Float α)

structure Reader.Describes : Prop where
  fails : ∀ payload outcome, (∀ response, outcome ≠ .ok response) →
    ∃ error, call payload outcome = .error error ∧ error.Own ∧ mayFallBack error = passesOver
      outcome
  raises : ∀ payload response,
    RaisesOnly PyError.Own (call payload (.ok response)) ↔ reader.Shape payload response
  returns : ∀ payload response, reader.Shape payload response → reader.Returned response →
    ∃ result, call payload (.ok response) = .ok result ∧
      fields.usageKnown result = (reader.counts response).known ∧
      fields.inputTokens result = (reader.counts response).input ∧
      fields.outputTokens result = (reader.counts response).output
  breaks : ∀ payload response, reader.Shape payload response → ¬ reader.Returned response →
    ∃ error, call payload (.ok response) = .error error ∧ mayFallBack error = reader.broken response
  broken_not_returned : ∀ response, reader.broken response → ¬ reader.Returned response

def AttemptFits (attempt : Attempt Float) (payload : Payload) : Prop :=
  match attempt.reservation, attempt.outcome with
  | .unbound, .ok response => reader.Shape payload response
  | .granted reservation ledger, .ok response => reader.Shape payload response ∧
      (reader.Returned response → CommitFits num ledger reservation
        ((reader.counts response).sent (reader.counts response).input)
        ((reader.counts response).sent (reader.counts response).output))
  | _, _ => True

def passedOver (attempt : Attempt Float) : Bool :=
  match attempt.reservation, attempt.outcome with
  | .refused, _ => false
  | _, .ok response => reader.broken response
  | _, outcome => passesOver outcome

variable {num fields reader call} {attempt : Attempt Float} {payload : Payload}
  {fallbackUsed : Bool}

theorem raisesOnly_settle {result : α} {reservation : Reservation Float}
    {ledger : RunBudgetState Float} :
    RaisesOnly PyError.Own (settle num fields result fallbackUsed (.granted reservation ledger)).2 ↔
      CommitFits num ledger reservation
        (if fields.usageKnown result then fields.inputTokens result else .none)
        (if fields.usageKnown result then fields.outputTokens result else .none) := by
  rw [settle, ← raisesOnly_commit (fields.costUsd result)]
  split
  · rename_i after hcommit
    rw [hcommit]
    exact Iff.rfl
  · rename_i error hcommit
    rw [hcommit]
    exact Iff.rfl

theorem foreign_settle {result : α} {answer : ReservationAnswer Float} :
    Foreign (settle num fields result fallbackUsed answer).2 := by
  cases answer with
  | granted reservation ledger =>
      rw [settle]
      split
      · exact foreign_ok _
      · rename_i error hcommit
        exact foreign_error (foreign_commit error hcommit)
  | _ => exact foreign_ok _

theorem mayFallBack_own {error : PyError (LLMError Float)} (h : mayFallBack error) : error.Own := by
  cases error with
  | raised exn => trivial
  | _ => exact absurd h nofun

structure AttemptSpec (num : NumOps Float) (reader : Reader Float) (attempt : Attempt Float)
    (payload : Payload) (ended : Raising Float α) : Prop where
  raises : RaisesOnly PyError.Own ended ↔ AttemptFits num reader attempt payload
  error : RaisesOnly PyError.Own ended → ∀ error, ended = .error error →
    mayFallBack error = passedOver reader attempt
  ok : ∀ result, ended = .ok result → passedOver reader attempt = false

theorem attemptSpec_settle (hreader : reader.Describes fields call) {response : OkResponse}
    {result : α} (houtcome : attempt.outcome = .ok response)
    (hrefused : attempt.reservation ≠ .refused)
    (hcall : call payload (.ok response) = .ok result)
    (hreturned : reader.Returned response)
    (hcounts : fields.usageKnown result = (reader.counts response).known ∧
      fields.inputTokens result = (reader.counts response).input ∧
      fields.outputTokens result = (reader.counts response).output) :
    AttemptSpec num reader attempt payload
      (settle num fields result fallbackUsed attempt.reservation).2 := by
  have hshape : reader.Shape payload response := by
    rw [← hreader.raises, hcall]
    trivial
  have hpassed : passedOver reader attempt = false := by
    have hbroken : reader.broken response = false := by
      by_contra h
      exact hreader.broken_not_returned response (by simpa using h) hreturned
    rw [passedOver, houtcome]
    cases hanswer : attempt.reservation <;> simp_all
  refine ⟨?_, ?_, fun _ _ => hpassed⟩
  · obtain ⟨hknown, hinput, houtput⟩ := hcounts
    rw [AttemptFits, houtcome]
    cases hanswer : attempt.reservation with
    | unbound => exact iff_of_true trivial hshape
    | refused => exact absurd hanswer hrefused
    | granted reservation ledger =>
        rw [raisesOnly_settle, hknown, hinput, houtput]
        exact ⟨fun h => ⟨hshape, fun _ => h⟩, fun h => h.2 hreturned⟩
  · intro h error herror
    rw [herror] at h
    exact absurd h (foreign_settle error herror)

theorem attemptAlias_of_error {error : PyError (LLMError Float)}
    (hrefused : attempt.reservation ≠ .refused)
    (hcall : call payload attempt.outcome = .error error) :
    (attemptAlias num fields call attempt payload fallbackUsed).2 = .error error := by
  rw [attemptAlias]
  split
  · rename_i h
    exact absurd h hrefused
  · rw [hcall]

theorem attemptAlias_of_ok {result : α} (hrefused : attempt.reservation ≠ .refused)
    (hcall : call payload attempt.outcome = .ok result) :
    (attemptAlias num fields call attempt payload fallbackUsed).2 =
      (settle num fields result fallbackUsed attempt.reservation).2 := by
  rw [attemptAlias]
  split
  · rename_i h
    exact absurd h hrefused
  · rw [hcall]

theorem attemptSpec_error (hreader : reader.Describes fields call) {response : OkResponse}
    (houtcome : attempt.outcome = .ok response) (hrefused : attempt.reservation ≠ .refused)
    (hreturned : reader.Shape payload response → ¬ reader.Returned response) :
    AttemptSpec num reader attempt payload
      (attemptAlias num fields call attempt payload fallbackUsed).2 := by
  have hfits : AttemptFits num reader attempt payload ↔ reader.Shape payload response := by
    rw [AttemptFits, houtcome]
    cases hanswer : attempt.reservation with
    | unbound => exact Iff.rfl
    | refused => exact absurd hanswer hrefused
    | granted reservation ledger =>
        exact ⟨fun h => h.1, fun h => ⟨h, fun hret => absurd hret (hreturned h)⟩⟩
  have hpassed : passedOver reader attempt = reader.broken response := by
    rw [passedOver, houtcome]
    cases hanswer : attempt.reservation <;> simp_all
  cases hcall : call payload (.ok response) with
  | ok result =>
      have hshape : reader.Shape payload response := by
        rw [← hreader.raises, hcall]
        trivial
      obtain ⟨error, herror, -⟩ := hreader.breaks payload response hshape (hreturned hshape)
      rw [hcall] at herror
      cases herror
  | error error =>
      rw [attemptAlias_of_error hrefused (houtcome ▸ hcall)]
      refine ⟨?_, ?_, nofun⟩
      · rw [hfits, ← hreader.raises, hcall]
      · rintro h _ ⟨⟩
        have hshape : reader.Shape payload response := by
          rw [← hreader.raises, hcall]
          exact h
        obtain ⟨_, herror, hfall⟩ := hreader.breaks payload response hshape (hreturned hshape)
        rw [hcall] at herror
        cases herror
        rw [hfall, hpassed]

theorem attemptSpec (hreader : reader.Describes fields call) :
    AttemptSpec num reader attempt payload
      (attemptAlias num fields call attempt payload fallbackUsed).2 := by
  by_cases hrefused : attempt.reservation = .refused
  · rw [attemptAlias, hrefused]
    refine ⟨iff_of_true trivial ?_, ?_, nofun⟩
    · rw [AttemptFits, hrefused]
      trivial
    · rintro - _ ⟨⟩
      rw [passedOver, hrefused]
      rfl
  · by_cases hok : ∃ response, attempt.outcome = .ok response
    · obtain ⟨response, houtcome⟩ := hok
      by_cases hreturned : reader.Shape payload response → ¬ reader.Returned response
      · exact attemptSpec_error hreader houtcome hrefused hreturned
      · push Not at hreturned
        obtain ⟨result, hcall, hcounts⟩ := hreader.returns payload response hreturned.1 hreturned.2
        rw [attemptAlias_of_ok hrefused (houtcome ▸ hcall)]
        exact attemptSpec_settle hreader houtcome hrefused hcall hreturned.2 hcounts
    · push Not at hok
      obtain ⟨error, hcall, hown, hfall⟩ := hreader.fails payload attempt.outcome hok
      rw [attemptAlias_of_error hrefused hcall]
      refine ⟨iff_of_true hown ?_, ?_, nofun⟩
      · rw [AttemptFits]
        cases hanswer : attempt.reservation <;> cases houtcome : attempt.outcome <;> simp_all
      · rintro - _ ⟨⟩
        rw [hfall, passedOver]
        cases hanswer : attempt.reservation <;> cases houtcome : attempt.outcome <;> simp_all

end Attempts

section Loop

variable {α : Type} {num : NumOps Float} {fields : ResultFields Float α} {reader : Reader Float}
  {call : Payload → HttpOutcome → Raising Float α} {attempts : Nat → Attempt Float}
  {payloadFor : String → Payload}

def attemptsMade (reader : Reader Float) (attempts : Nat → Attempt Float) :
    Nat → String → List String → List (Nat × String)
  | index, modelAlias, [] => [(index, modelAlias)]
  | index, modelAlias, next :: rest =>
      (index, modelAlias) ::
        if passedOver reader (attempts index) then
          attemptsMade reader attempts (index + 1) next rest
        else []

theorem raisesOnly_governedLoop (hreader : reader.Describes fields call) (index : Nat)
    (modelAlias : String) (rest : List String) :
    RaisesOnly PyError.Own
        (governedLoop num fields call attempts payloadFor index modelAlias rest).2 ↔
      ∀ made ∈ attemptsMade reader attempts index modelAlias rest,
        AttemptFits num reader (attempts made.1) (payloadFor made.2) := by
  induction rest generalizing index modelAlias with
  | nil =>
      simp only [governedLoop, attemptsMade, List.mem_singleton, forall_eq]
      exact (attemptSpec hreader).raises
  | cons next rest ih =>
      simp only [governedLoop, attemptsMade, List.forall_mem_cons]
      have hspec : AttemptSpec num reader (attempts index) (payloadFor modelAlias)
          (attemptAlias num fields call (attempts index) (payloadFor modelAlias) (0 < index)).2 :=
        attemptSpec hreader
      generalize attemptAlias num fields call (attempts index) (payloadFor modelAlias) (0 < index) =
        ended at hspec
      obtain ⟨log, ended⟩ := ended
      rw [← hspec.raises]
      cases ended with
      | ok result => simp [hspec.ok result rfl]
      | error error =>
          dsimp only
          by_cases hfall : mayFallBack error
          · have hown : RaisesOnly PyError.Own (.error error : Raising Float α) :=
              mayFallBack_own hfall
            rw [if_pos hfall, ← hspec.error hown error rfl, if_pos hfall, and_iff_right hown]
            exact ih (index + 1) next
          · rw [if_neg hfall]
            refine (and_iff_left_of_imp fun hown => ?_).symm
            rw [← hspec.error hown error rfl, if_neg hfall]
            exact nofun

def governedAttempts (reader : Reader Float) (policy : ModelPolicy) (tenantId : String)
    (attempts : Nat → Attempt Float) (payload : Payload) : List (Attempt Float × Payload) :=
  match policy.resolve payload.role tenantId with
  | none => []
  | some rp =>
      (attemptsMade reader attempts 0 rp.modelAlias (policy.allowedFallbacks rp tenantId)).map
        fun made => (attempts made.1, attemptPayload payload rp made.2)

theorem raisesOnly_governed (hreader : reader.Describes fields call) (policy : ModelPolicy)
    (tenantId : String) (payload : Payload) :
    RaisesOnly PyError.Own (governed num fields policy tenantId call attempts payload).2 ↔
      ∀ made ∈ governedAttempts reader policy tenantId attempts payload,
        AttemptFits num reader made.1 made.2 := by
  rw [governed, governedAttempts]
  cases policy.resolve payload.role tenantId with
  | none => exact iff_of_true trivial (List.forall_mem_nil _)
  | some rp =>
      rw [List.forall_mem_map]
      exact raisesOnly_governedLoop hreader 0 _ _

end Loop

end AiAnalytics.App
