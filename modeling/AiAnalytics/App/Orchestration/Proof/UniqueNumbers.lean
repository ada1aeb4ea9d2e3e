import AiAnalytics.App.Orchestration.MessageNumbers
import AiAnalytics.App.Orchestration.Proof.BookedLoop
import Mathlib.Data.List.Range

/-!
# When message numbers are unique

As long as every store uses the number next to the number of stored messages, the conversation is
numbered from one without a gap. A run's number is never ahead of that, so the first store out of
turn repeats a number that is in use, and what is repeated stays so.
-/

namespace AiAnalytics.App.Loop

open Lib

section Interleavings

variable {conversation next final : Conversation} {label : ConversationStep} {run : String}
  {steps : List ConversationStep}

/-- The run stores under the next number: since it took this number, no message has been stored. -/
def InTurn (conversation : Conversation) : ConversationStep → Prop
  | .count _ => True
  | .storeUser run | .store run _ =>
      ∀ numbers ∈ conversation.runs run, numbers.nextSeq = conversation.numbers.length + 1

def countingTo (n : Nat) : List Int := (List.range n).map fun i : Nat => (i : Int) + 1

theorem countingTo_succ (n : Nat) : countingTo (n + 1) = countingTo n ++ [(n : Int) + 1] := by
  simp [countingTo, List.range_succ]

theorem mem_countingTo {n : Nat} {number : Int} :
    number ∈ countingTo n ↔ 1 ≤ number ∧ number ≤ n := by
  rw [countingTo, List.mem_map]
  constructor
  · rintro ⟨i, hi, rfl⟩
    rw [List.mem_range] at hi
    omega
  · rintro ⟨hpos, hle⟩
    exact ⟨(number - 1).toNat, by rw [List.mem_range]; omega, by omega⟩

theorem nodup_countingTo (n : Nat) : (countingTo n).Nodup := by
  apply List.Nodup.map _ List.nodup_range
  intro i j hij
  simpa using hij

structure NumberInv (met : Prop) (conversation : Conversation) : Prop where
  reached : ∀ run, ∀ numbers ∈ conversation.runs run,
    1 ≤ numbers.nextSeq ∧ numbers.nextSeq ≤ conversation.numbers.length + 1
  counting : met → conversation.numbers = countingTo conversation.numbers.length
  repeated : ¬ met → ¬ conversation.numbers.Nodup

theorem NumberInv.nodup_iff {met : Prop} (hinv : NumberInv met conversation) :
    conversation.numbers.Nodup ↔ met := by
  constructor
  · intro hnodup
    by_contra hmet
    exact hinv.repeated hmet hnodup
  · intro hmet
    rw [hinv.counting hmet]
    exact nodup_countingTo _

theorem NumberInv.store {met : Prop} (hinv : NumberInv met conversation) {numbers : RunNumbers}
    {number : Int} (hnumber : 1 ≤ number ∧ number ≤ conversation.numbers.length + 1)
    (hnext : number ≤ numbers.nextSeq ∧ numbers.nextSeq ≤ number + 1) :
    NumberInv (met ∧ number = conversation.numbers.length + 1)
      ((conversation.append number).put run numbers) := by
  have hlength : ((conversation.append number).put run numbers).numbers.length =
      conversation.numbers.length + 1 := by simp [Conversation.put, Conversation.append]
  refine ⟨fun other others hother => ?_, ?_, fun hmissed hnodup => ?_⟩
  · rw [hlength]
    push_cast
    by_cases hsame : other = run
    · subst hsame
      obtain rfl : numbers = others := by simpa [Conversation.put] using hother
      omega
    · have hbefore := hinv.reached other others
        (by simpa [Conversation.put, Conversation.append, hsame] using hother)
      omega
  · rintro ⟨hmet, rfl⟩
    rw [hlength, countingTo_succ, ← hinv.counting hmet]
    rfl
  · have hparts : (conversation.numbers ++ [number]).Nodup := hnodup
    by_cases hmet : met
    · have hbehind : number ≤ conversation.numbers.length := by
        have hne : number ≠ conversation.numbers.length + 1 := fun heq => hmissed ⟨hmet, heq⟩
        omega
      have hused : number ∈ conversation.numbers := by
        rw [hinv.counting hmet, mem_countingTo]
        exact ⟨hnumber.1, hbehind⟩
      exact List.disjoint_of_nodup_append hparts hused (List.mem_singleton_self number)
    · exact hinv.repeated hmet hparts.of_append_left

theorem NumberInv.step {met : Prop} (hinv : NumberInv met conversation)
    (hstep : conversationStep conversation label = some next) :
    NumberInv (met ∧ InTurn conversation label) next := by
  cases label with
  | count run =>
      cases hrun : conversation.runs run with
      | some numbers => simp [conversationStep, hrun] at hstep
      | none =>
          simp only [conversationStep, hrun, Option.some.injEq] at hstep
          subst hstep
          refine ⟨fun other others hother => ?_, fun hmet => hinv.counting hmet.1,
            fun hmissed => hinv.repeated fun hmet => hmissed ⟨hmet, trivial⟩⟩
          by_cases hsame : other = run
          · subst hsame
            obtain rfl : _ = others := by simpa [Conversation.put] using hother
            simp [Conversation.put]
          · exact hinv.reached other others (by simpa [Conversation.put, hsame] using hother)
  | storeUser run =>
      cases hrun : conversation.runs run with
      | none => simp [conversationStep, hrun] at hstep
      | some numbers =>
          obtain ⟨nextSeq, prepared⟩ := numbers
          cases prepared with
          | true => simp [conversationStep, hrun] at hstep
          | false =>
              simp only [conversationStep, hrun, Option.some.injEq] at hstep
              have hreached := hinv.reached run _ hrun
              have hturn : InTurn conversation (.storeUser run) ↔
                  nextSeq = conversation.numbers.length + 1 := by simp [InTurn, hrun]
              rw [hturn, ← hstep]
              exact hinv.store hreached ⟨by simp, le_refl _⟩
  | store run store =>
      cases hrun : conversation.runs run with
      | none => simp [conversationStep, hrun] at hstep
      | some numbers =>
          obtain ⟨nextSeq, prepared⟩ := numbers
          cases prepared with
          | false => simp [conversationStep, hrun] at hstep
          | true =>
              simp only [conversationStep, hrun, Option.some.injEq] at hstep
              have hreached := hinv.reached run _ hrun
              have hturn : InTurn conversation (.store run store) ↔
                  nextSeq = conversation.numbers.length + 1 := by simp [InTurn, hrun]
              rw [hturn, ← hstep]
              apply hinv.store hreached
              cases store <;> simp [Store.after]

/-- **Unique message numbers.** Whatever the order in which any number of runs count and store on a
new conversation, its messages have different numbers if and only if every store is in turn. -/
theorem message_numbers_nodup_iff
    (hrun : conversationMachine.run {} steps = some final) :
    final.numbers.Nodup ↔ conversationMachine.Meets InTurn {} steps := by
  have hopened : NumberInv True {} := ⟨nofun, fun _ => rfl, fun hmissed => absurd trivial hmissed⟩
  have hinv : NumberInv (conversationMachine.Meets InTurn {} steps) final :=
    Machine.run_invariant_meets (fun _ _ _ _ hinv hstep => hinv.step hstep) hopened hrun
  exact hinv.nodup_iff

def consecutiveTurns : List ConversationStep :=
  [.count "run_a", .storeUser "run_a", .store "run_a" .tool, .store "run_a" .last,
    .count "run_b", .storeUser "run_b", .store "run_b" .last]

theorem message_numbers_nodup_iff_consecutive :
    [(1 : Int), 2, 3, 4, 5].Nodup ↔ conversationMachine.Meets InTurn {} consecutiveTurns := by
  have hrun : conversationMachine.run {} consecutiveTurns = some _ := rfl
  exact message_numbers_nodup_iff hrun

def overlappingTurns : List ConversationStep :=
  [.count "run_a", .storeUser "run_a", .count "run_b", .storeUser "run_b", .store "run_a" .tool]

theorem overlapping_turns_repeat_number :
    ∃ conversation, conversationMachine.run {} overlappingTurns = some conversation ∧
      conversation.numbers = [1, 2, 2] ∧ ¬ conversation.numbers.Nodup := by
  refine ⟨_, rfl, rfl, ?_⟩
  decide

end Interleavings

section Runs

variable {Float : Type} {num : NumOps Float} {fmt : PyFormat Float}

theorem numbersFrom_concat (nextSeq : Int) (stores : List Store) (store : Store) :
    numbersFrom nextSeq (stores ++ [store]) =
      numbersFrom nextSeq stores ++ [numberAfter nextSeq stores] := by
  induction stores generalizing nextSeq with
  | nil => rfl
  | cons first stores ih => simp [numbersFrom, numberAfter, ih]

theorem numberAfter_concat (nextSeq : Int) (stores : List Store) (store : Store) :
    numberAfter nextSeq (stores ++ [store]) = store.after (numberAfter nextSeq stores) := by
  induction stores generalizing nextSeq with
  | nil => rfl
  | cons first stores ih => simp [numberAfter, ih]

theorem numbers_of_bookStep {books next : Books Float} {label : BookStep Float}
    (hstep : bookStep num fmt books label = some next) (hstore : label ≠ .store)
    (hadvance : label ≠ .advance) :
    next.numbers = books.numbers ∧ next.nextSeq = books.nextSeq := by
  have hsame {p : Prop} [Decidable p] {changed : Books Float}
      (hnext : (if p then some changed else none) = some next)
      (hchanged : changed.numbers = books.numbers ∧ changed.nextSeq = books.nextSeq) :
      next.numbers = books.numbers ∧ next.nextSeq = books.nextSeq := by
    obtain ⟨-, hnext⟩ := Option.ite_none_right_eq_some.mp hnext
    exact Option.some.inj hnext ▸ hchanged
  cases label with
  | store => exact absurd rfl hstore
  | advance => exact absurd rfl hadvance
  | list inputTokens outputTokens =>
      unfold bookStep at hstep
      dsimp only at hstep
      split at hstep
      · exact Option.some.inj hstep ▸ ⟨rfl, rfl⟩
      · exact hsame hstep ⟨rfl, rfl⟩
      · cases hstep
  | count inputTokens outputTokens charge elapsed =>
      unfold bookStep at hstep
      dsimp only at hstep
      split at hstep
      · cases hstep
      · exact Option.some.inj hstep ▸ ⟨rfl, rfl⟩
      · exact hsame hstep ⟨rfl, rfl⟩
      · exact hsame hstep ⟨rfl, rfl⟩
      · cases hstep
  | _ =>
      simp only [bookStep] at hstep
      exact hsame hstep ⟨rfl, rfl⟩

def NumbersBy (nextSeq : Int) (books : Books Float) : Prop :=
  ∃ stores, books.numbers = numbersFrom nextSeq stores ∧ books.nextSeq = numberAfter nextSeq stores

theorem NumbersBy.step {nextSeq : Int} {books next : Books Float} {label : BookStep Float}
    (hinv : NumbersBy nextSeq books) (hstep : bookStep num fmt books label = some next) :
    NumbersBy nextSeq next := by
  obtain ⟨stores, hnumbers, hnext⟩ := hinv
  cases label with
  | store =>
      obtain rfl := Option.some.inj hstep
      refine ⟨stores ++ [.last], ?_, ?_⟩
      · rw [numbersFrom_concat, ← hnumbers, ← hnext]
      · rw [numberAfter_concat, ← hnext]
        rfl
  | advance =>
      simp only [bookStep, Option.ite_none_right_eq_some, Option.some.injEq] at hstep
      obtain ⟨hused, rfl⟩ := hstep
      rcases List.eq_nil_or_concat stores with rfl | ⟨before, store, rfl⟩
      · simp [hnumbers, numbersFrom] at hused
      · rw [List.concat_eq_append] at hnumbers hnext
        rw [numbersFrom_concat] at hnumbers
        rw [numberAfter_concat] at hnext
        rw [hnumbers, List.getLast?_concat, hnext, Option.some.injEq] at hused
        refine ⟨before ++ [.tool], ?_, ?_⟩
        · rw [numbersFrom_concat, hnumbers]
        · rw [numberAfter_concat, hnext, ← hused]
          rfl
  | _ =>
      obtain ⟨hkept, hkeptNext⟩ := numbers_of_bookStep hstep (by simp) (by simp)
      exact ⟨stores, hkept.trans hnumbers, hkeptNext.trans hnext⟩

theorem run_stores_alone (run : String) (stores : List Store) (conversation : Conversation)
    {nextSeq : Int} (hprepared : conversation.runs run = some ⟨nextSeq, true⟩) :
    ∃ final, conversationMachine.run conversation (stores.map (.store run)) = some final ∧
      final.numbers = conversation.numbers ++ numbersFrom nextSeq stores := by
  induction stores generalizing conversation nextSeq with
  | nil => exact ⟨conversation, rfl, by simp [numbersFrom]⟩
  | cons store stores ih =>
      let next := (conversation.append nextSeq).put run ⟨store.after nextSeq, true⟩
      have hstep : conversationMachine.step conversation (.store run store) = some next := by
        simp [conversationMachine, conversationStep, hprepared, next]
      obtain ⟨final, hrest, hnumbers⟩ := ih next (Function.update_self _ _ _)
      refine ⟨final, Machine.run_cons_eq_some_iff.mpr ⟨next, hstep, hrest⟩, ?_⟩
      rw [hnumbers]
      simp [next, Conversation.put, Conversation.append, numbersFrom]

variable {cfg : LoopConfig Float} {messages : List (Message Float)} {nextSeq : Int}
  {log : History Float} {result : Except (LoopError Float) (LoopResult Float)}
  {final : LoopState Float}

theorem loop_stores_as_conversation (run : String)
    (hrun : (executeLoop cfg).Runs (initialState cfg messages nextSeq) log result final) :
    ∃ (stores : List Store) (conversation : Conversation),
      conversationMachine.run
          (Conversation.put { numbers := messages.map (·.sequence) } run ⟨nextSeq, true⟩)
          (stores.map (.store run)) = some conversation ∧
        conversation.numbers = final.messages.map (·.sequence) := by
  obtain ⟨steps, ledger, hbooks, -⟩ := exists_books_of_run hrun
  have hopened : NumbersBy nextSeq (Books.opened cfg.num cfg.budgets nextSeq) := ⟨[], rfl, rfl⟩
  obtain ⟨stores, hnumbers, -⟩ : NumbersBy nextSeq ledger.toBooks :=
    Machine.run_invariant (fun _ _ _ hinv hstep => NumbersBy.step hinv hstep) hopened hbooks.run
  obtain ⟨conversation, hstores, hall⟩ := run_stores_alone run stores
    (Conversation.put { numbers := messages.map (·.sequence) } run ⟨nextSeq, true⟩)
    (Function.update_self _ _ _)
  refine ⟨stores, conversation, hstores, ?_⟩
  rw [hall, hbooks.agrees.numbers, hnumbers]
  rfl

end Runs

end AiAnalytics.App.Loop
