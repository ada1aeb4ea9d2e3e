import AiAnalytics.App.Orchestration.Proof.LoopFrames

/-!
# Programs that keep the books

`Booked P` says that the machine of the books has come to books that agree with the history and the
state of the loop, and that `P` holds of them and of the stored record. Each step of the machine is
entered with the usage of the call that it records: what the replies have told of usages is entered,
or due. A write to the books is a step of the machine; what is within the frame keeps `Booked P` for
every `P`. -/

namespace AiAnalytics.App.Loop

open Lib Lib.Prog

variable {Float : Type}

section Assertions

def LLMCall.tokens (call : LLMCall Float) : Option Int × Option Int :=
  (call.inputTokens, call.outputTokens)

def askedOf (history : History Float) : List LlmRequest :=
  history.filterMap fun x => x.call.llmRequest

def toolCallsOf (history : History Float) : Nat := history.countP fun x => x.call.isToolCall

structure Books.Matches (books : Books Float) (start : List Int) (history : History Float)
    (state : LoopState Float) : Prop where
  tracker : state.tracker = books.tracker
  listed : state.llmCalls.map LLMCall.tokens = books.listed
  asked : askedOf history = books.asked
  toolCalls : toolCallsOf history = books.toolCalls
  numbers : state.messages.map (·.sequence) = start ++ books.numbers
  nextSeq : state.nextSeq = books.nextSeq

def CallCost.charge (cost : CallCost Float) : CallCharge Float :=
  { estimatedCostUsd := cost.costUsd, budgetCostUsd := cost.budgetCostUsd
    costIndeterminate := cost.indeterminate, costUnresolvable := cost.budgetCostUsd.isNone }

structure Entry (Float : Type) where
  step : BookStep Float
  usage : Option (Usage Float) := none

structure DueCall (Float : Type) where
  usage : Usage Float
  cost : Option (CallCost Float) := none

structure Ledger (Float : Type) extends Books Float where
  due : Option (DueCall Float) := none

def dueAfter (x : Exchange (@LoopReply Float)) : Option (DueCall Float) :=
  (usageOf x).map fun usage => { usage }

variable (cfg : LoopConfig Float) (start : List Int) (nextSeq : Int)

def entryMachine : Machine (Books Float) (Entry Float) where
  step books entry := bookStep cfg.num cfg.fmt books entry.step

def Entry.Priced (clients : Option (Clients Float)) (entry : Entry Float) : Prop :=
  match entry.step with
  | .count inputTokens outputTokens charge _ =>
      ∃ usage cost, entry.usage = some usage ∧ usage.inputTokens = inputTokens ∧
        usage.outputTokens = outputTokens ∧ priceOf cfg clients usage = .ok cost ∧
          charge = cost.charge
  | .listFailed inputTokens outputTokens =>
      ∃ usage cost, entry.usage = some usage ∧ usage.inputTokens = inputTokens ∧
        usage.outputTokens = outputTokens ∧ priceOf cfg clients usage = .ok cost
  | _ => entry.usage = none

structure Careful (clients : Option (Clients Float)) (books : Books Float) (entry : Entry Float) :
    Prop where
  priced : entry.Priced cfg clients
  resolved : ∀ request, entry.step = .ask request → books.tracker.costUnresolvable = false

def PricedDue (clients : Option (Clients Float)) (due : Option (DueCall Float)) : Prop :=
  ∀ call cost, due = some call → call.cost = some cost → priceOf cfg clients call.usage = .ok cost

structure Accounts (clients : Option (Clients Float)) (history : History Float)
    (entries : List (Entry Float)) (due : Option (DueCall Float)) : Prop where
  usages : usagesOf history = entries.filterMap Entry.usage ++ (due.map DueCall.usage).toList
  careful : Quoted cfg.num history →
    (entryMachine cfg).Meets (Careful cfg clients) (Books.opened cfg.num cfg.budgets nextSeq)
      entries
  priced : Quoted cfg.num history → PricedDue cfg clients due

def Booked (P : Ledger Float → Run Float → Prop) (history : History Float)
    (state : LoopState Float) : Prop :=
  ∃ entries ledger,
    (entryMachine cfg).run (Books.opened cfg.num cfg.budgets nextSeq) entries = some
      ledger.toBooks ∧ ledger.Matches start history state ∧
      Accounts cfg nextSeq state.clients history entries ledger.due ∧ P ledger state.stored

def Holding (due : Option (DueCall Float)) (phase : BookPhase) (R : List LlmRequest → Nat → Prop)
    (ledger : Ledger Float) (stored : Run Float) : Prop :=
  ledger.phase = phase ∧ R ledger.asked ledger.toolCalls ∧ stored = cfg.run ∧ ledger.due = due

def At (phase : BookPhase) (R : List LlmRequest → Nat → Prop) : Ledger Float → Run Float → Prop :=
  Holding cfg none phase R

def BookPhase.Quiescent : BookPhase → Prop
  | .idle | .awaiting _ | .ended => True
  | _ => False

def MayLeave (ledger : Ledger Float) (stored : Run Float) : Prop :=
  ledger.phase.Quiescent ∧ stored = cfg.run

/-- From books with `P` the part leads to books with `Q`; where it raises, the run may be left. -/
abbrev BooksLead {α : Type} (P : Ledger Float → Run Float → Prop) (m : LoopM Float α)
    (Q : α → Ledger Float → Run Float → Prop) : Prop :=
  Ensures (Booked cfg start nextSeq P) m (fun a => Booked cfg start nextSeq (Q a)) fun _ =>
    Booked cfg start nextSeq (MayLeave cfg)

end Assertions

section Steps

variable {cfg : LoopConfig Float} {start : List Int} {nextSeq : Int}
  {P Q : Ledger Float → Run Float → Prop} {history : History Float} {state state' : LoopState Float}
  {clients : Option (Clients Float)} {x : Exchange (@LoopReply Float)}

theorem Booked.mono (hbooked : Booked cfg start nextSeq P history state)
    (hPQ : ∀ ledger stored, P ledger stored → Q ledger stored) :
    Booked cfg start nextSeq Q history state := by
  obtain ⟨entries, ledger, hrun, hmatches, haccounts, hP⟩ := hbooked
  exact ⟨entries, ledger, hrun, hmatches, haccounts, hPQ _ _ hP⟩

theorem usagesOf_append (history : History Float) (x : Exchange (@LoopReply Float)) :
    usagesOf (history ++ [x]) = usagesOf history ++ (usageOf x).toList := by
  unfold usagesOf
  cases husage : usageOf x <;> simp [List.filterMap_append, husage]

theorem pricedDue_none : PricedDue cfg clients none := by
  rintro _ _ ⟨⟩

structure Hands (cfg : LoopConfig Float) (clients : Option (Clients Float)) (books : Books Float)
    (entry : Entry Float) (due left : Option (DueCall Float)) : Prop where
  usages : (due.map DueCall.usage).toList = entry.usage.toList ++ (left.map DueCall.usage).toList
  careful : PricedDue cfg clients due → Careful cfg clients books entry
  priced : PricedDue cfg clients due → PricedDue cfg clients left

theorem hands_of_careful {books : Books Float} {step : BookStep Float}
    {due : Option (DueCall Float)} (hcareful : Careful cfg clients books ⟨step, none⟩) :
    Hands cfg clients books ⟨step, none⟩ due due :=
  ⟨rfl, fun _ => hcareful, id⟩

theorem entries_concat {entries : List (Entry Float)} {entry : Entry Float}
    {books next : Books Float}
    (hrun : (entryMachine cfg).run (Books.opened cfg.num cfg.budgets nextSeq) entries = some books)
    (hstep : bookStep cfg.num cfg.fmt books entry.step = some next) :
    (entryMachine cfg).run (Books.opened cfg.num cfg.budgets nextSeq) (entries ++ [entry]) =
      some next := by
  rw [Machine.run_append_eq_some_iff]
  exact ⟨books, hrun, Machine.run_cons_eq_some_iff.mpr ⟨next, hstep, rfl⟩⟩

theorem Accounts.concat {entries : List (Entry Float)} {entry : Entry Float} {books : Books Float}
    {due left : Option (DueCall Float)}
    (haccounts : Accounts cfg nextSeq clients history entries due)
    (hrun : (entryMachine cfg).run (Books.opened cfg.num cfg.budgets nextSeq) entries = some books)
    (hhands : Hands cfg clients books entry due left) :
    Accounts cfg nextSeq clients history (entries ++ [entry]) left where
  usages := by
    rw [haccounts.usages, hhands.usages, List.filterMap_append, List.append_assoc]
    cases husage : entry.usage <;> simp [husage]
  careful hquoted := by
    rw [Machine.meets_append_of_run hrun]
    refine ⟨haccounts.careful hquoted, hhands.careful (haccounts.priced hquoted), ?_⟩
    exact fun _ _ => Machine.meets_nil
  priced hquoted := hhands.priced (haccounts.priced hquoted)

theorem Booked.step (entry : Entry Float) (hbooked : Booked cfg start nextSeq P history state)
    (hclients : state'.clients = state.clients)
    (hstep : ∀ ledger : Ledger Float, P ledger state.stored → ledger.Matches start history state →
      ∃ next : Ledger Float, bookStep cfg.num cfg.fmt ledger.toBooks entry.step = some
      next.toBooks ∧
        next.Matches start history state' ∧
        Hands cfg state.clients ledger.toBooks entry ledger.due next.due ∧ Q next state'.stored) :
    Booked cfg start nextSeq Q history state' := by
  obtain ⟨entries, ledger, hrun, hmatches, haccounts, hP⟩ := hbooked
  obtain ⟨next, hnext, hmatches', hhands, hQ⟩ := hstep ledger hP hmatches
  refine ⟨entries ++ [entry], next, entries_concat hrun hnext, hmatches', ?_, hQ⟩
  rw [hclients]
  exact haccounts.concat hrun hhands

theorem Accounts.exchange {entries : List (Entry Float)}
    (haccounts : Accounts cfg nextSeq clients history entries none) :
    Accounts cfg nextSeq clients (history ++ [x]) entries (dueAfter x) where
  usages := by
    have husages := haccounts.usages
    rw [Option.map_none, Option.toList_none, List.append_nil] at husages
    rw [usagesOf_append, husages, dueAfter, Option.map_map]
    cases usageOf x <;> rfl
  careful hquoted := haccounts.careful (quoted_append.mp hquoted).1
  priced _ call cost hcall hcost := by
    obtain ⟨usage, -, rfl⟩ := Option.map_eq_some_iff.mp hcall
    cases hcost

theorem stable_booked : bookFrame.Stable (Booked cfg start nextSeq P) where
  change := by
    rintro history state next hsame ⟨entries, ledger, hrun, hmatches, haccounts, hP⟩
    refine ⟨entries, ledger, hrun, ⟨?_, ?_, hmatches.asked, hmatches.toolCalls, ?_, ?_⟩, ?_, ?_⟩
    · rw [hsame.tracker, hmatches.tracker]
    · rw [hsame.llmCalls, hmatches.listed]
    · rw [hsame.messages, hmatches.numbers]
    · rw [hsame.nextSeq, hmatches.nextSeq]
    · rw [hsame.clients]
      exact haccounts
    · rw [hsame.stored]
      exact hP
  call := by
    rintro x history state hfree ⟨entries, ledger, hrun, hmatches, haccounts, hP⟩
    refine ⟨entries, ledger, hrun, ⟨hmatches.tracker, hmatches.listed, ?_, ?_, hmatches.numbers,
      hmatches.nextSeq⟩, ⟨?_, fun hquoted => haccounts.careful (quoted_append.mp hquoted).1,
      fun hquoted => haccounts.priced (quoted_append.mp hquoted).1⟩, hP⟩
    · rw [← hmatches.asked]
      simp [askedOf, hfree.llmRequest]
    · rw [← hmatches.toolCalls]
      simp [toolCallsOf, hfree.isToolCall]
    · rw [usagesOf_append, usageOf_eq_none hfree.reportsUsage, Option.toList_none, List.append_nil]
      exact haccounts.usages

end Steps

section Rules

variable {cfg : LoopConfig Float} {start : List Int} {nextSeq : Int}
  {P : Ledger Float → Run Float → Prop} {R : List LlmRequest → Nat → Prop} {α : Type}
  {due : Option (DueCall Float)} {err : LoopError Float → History Float → LoopState Float → Prop}

theorem left_of_holding {phase : BookPhase} (hphase : phase.Quiescent) (ledger : Ledger Float)
    (stored : Run Float) (hholding : Holding cfg due phase R ledger stored) :
    MayLeave cfg ledger stored :=
  ⟨hholding.1 ▸ hphase, hholding.2.2.1⟩

theorem ensures_framed {m : LoopM Float α} (hm : Framed bookFrame m)
    (hleft : ∀ ledger stored, P ledger stored → MayLeave cfg ledger stored) :
    BooksLead cfg start nextSeq P m fun _ => P :=
  hm.keeps stable_booked fun _ _ _ hbooked => hbooked.mono hleft

theorem ensures_calm {m : LoopM Float α} (hm : Calm bookFrame m) :
    Ensures (Booked cfg start nextSeq P) m (fun _ => Booked cfg start nextSeq P) err :=
  hm.keeps stable_booked

theorem ensures_leave {error : LoopError Float}
    {post : α → History Float → LoopState Float → Prop}
    (hleft : ∀ ledger stored, P ledger stored → MayLeave cfg ledger stored) :
    Ensures (Booked cfg start nextSeq P) (throw error : LoopM Float α) post
      fun _ => Booked cfg start nextSeq (MayLeave cfg) :=
  ensures_throw fun _ _ hbooked => hbooked.mono hleft

theorem ensures_framed_at {phase : BookPhase} {m : LoopM Float α} (hm : Framed bookFrame m)
    (hphase : phase.Quiescent) :
    BooksLead cfg start nextSeq (Holding cfg due phase R) m fun _ => Holding cfg due phase R :=
  ensures_framed hm (left_of_holding hphase)

theorem ensures_leave_at {phase : BookPhase} {error : LoopError Float}
    {post : α → History Float → LoopState Float → Prop} (hphase : phase.Quiescent) :
    Ensures (Booked cfg start nextSeq (Holding cfg due phase R)) (throw error : LoopM Float α) post
      fun _ => Booked cfg start nextSeq (MayLeave cfg) :=
  ensures_leave (left_of_holding hphase)

theorem ensures_callCost {phase : BookPhase} (callPhase : CallPhase) (usage : Usage Float)
    (hphase : phase.Quiescent) :
    BooksLead cfg start nextSeq (Holding cfg (some { usage }) phase R)
      (callCost cfg callPhase usage.inputTokens usage.outputTokens usage.result usage.modelId)
      fun cost => Holding cfg (some { usage, cost := some cost }) phase R := by
  intro history state hbooked log outcome final hrun
  have hkept := ensures_framed_at (framed_callCost cfg asksTables_bookFrame _ _ _ _) hphase history
    state hbooked log outcome final hrun
  cases outcome with
  | error error => exact hkept
  | ok cost =>
      obtain ⟨entries, ledger, hentries, hmatches, haccounts, hat, hR, hstored, hdue⟩ := hkept
      rw [hdue] at haccounts
      refine ⟨entries, { ledger with due := some { usage, cost := some cost } }, hentries, hmatches,
        ⟨haccounts.usages, haccounts.careful, ?_⟩, hat, hR, hstored, rfl⟩
      rintro hquoted _ _ ⟨⟩ ⟨⟩
      obtain ⟨hprice, rfl⟩ := callCost_of_runs hrun (quoted_append.mp hquoted).2
      cases hcost : priceOf cfg final.clients usage with
      | error fault =>
          rw [hcost] at hprice
          cases hprice
      | ok price =>
          rw [hcost] at hprice
          rw [Except.ok.inj hprice]

def AfterRecord (post : History Float → LoopState Float → Prop)
    (err : LoopError Float → History Float → LoopState Float → Prop)
    (recorded : Except (BudgetExceededError Float) Unit × BudgetTracker Float)
    (history : History Float) (state : LoopState Float) : Prop :=
  match recorded.1 with
  | .ok _ => post history { state with tracker := recorded.2 }
  | .error error => err (.budgetExceeded error) history { state with tracker := recorded.2 }

theorem ensures_track_of {pre post : History Float → LoopState Float → Prop}
    {record : BudgetTracker Float → Float × Float →
      Except (BudgetExceededError Float) Unit × BudgetTracker Float}
    (hrecord : ∀ elapsed history state, pre history state →
      AfterRecord post err (record state.tracker elapsed)
      (history ++ [⟨.elapsed, elapsed⟩]) state) :
    Ensures pre (track record) (fun _ => post) err := by
  have hread : Ensures pre (request .elapsed : LoopM Float (Float × Float))
      (fun elapsed history state => AfterRecord post err (record state.tracker elapsed) history
        state) err :=
    ensures_ask hrecord
  apply ensures_bind hread
  intro elapsed
  have hget : Ensures
      (fun history state => AfterRecord post err (record state.tracker elapsed) history state)
      (get : LoopM Float (LoopState Float))
      (fun before history state =>
        before = state ∧ AfterRecord post err (record state.tracker elapsed) history state) err :=
    ensures_get fun _ _ hafter => ⟨rfl, hafter⟩
  apply ensures_bind hget
  intro before
  have hwrite : Ensures
      (fun history state =>
        before = state ∧ AfterRecord post err (record state.tracker elapsed) history state)
      (modify fun state : LoopState Float =>
        { state with tracker := (record state.tracker elapsed).2 } : LoopM Float PUnit)
      (fun _ => match (record before.tracker elapsed).1 with
        | .ok _ => post
        | .error error => err (.budgetExceeded error)) err := by
    apply ensures_modify
    rintro history state ⟨rfl, hafter⟩
    unfold AfterRecord at hafter
    cases hrecorded : (record before.tracker elapsed).1 <;> rw [hrecorded] at hafter <;>
      exact hafter
  apply ensures_bind hwrite
  intro _
  cases (record before.tracker elapsed).1 with
  | ok _ => exact ensures_pure fun _ _ hpost => hpost
  | error error => exact ensures_throw fun _ _ herr => herr

theorem ensures_track {phase next : BookPhase}
    {record : BudgetTracker Float → Float × Float →
      Except (BudgetExceededError Float) Unit × BudgetTracker Float}
    (label : Float × Float → BookStep Float)
    (hstep : ∀ books elapsed, books.phase = phase →
      bookStep cfg.num cfg.fmt books (label elapsed) =
        some (books.record next (record books.tracker elapsed)))
    (hcareful : ∀ clients books elapsed, PricedDue cfg clients due →
      Careful cfg clients books ⟨label elapsed, due.map DueCall.usage⟩) :
    BooksLead cfg start nextSeq (Holding cfg due phase R) (track record)
      fun _ => At cfg next R := by
  apply ensures_track_of
  intro elapsed history state hbooked
  have hread := stable_booked.call ⟨.elapsed, elapsed⟩ history state ⟨rfl, rfl, rfl⟩ hbooked
  have hrecorded : Booked cfg start nextSeq
      (At cfg (phaseAfter next (record state.tracker elapsed).1) R)
      (history ++ [⟨.elapsed, elapsed⟩])
        { state with tracker := (record state.tracker elapsed).2 } := by
    refine hread.step ⟨label elapsed, due.map DueCall.usage⟩ ?_ ?_
    · rfl
    rintro ledger ⟨hphase, hR, hstored, rfl⟩ hmatches
    have hnext := hstep ledger.toBooks elapsed hphase
    rw [← hmatches.tracker] at hnext
    refine ⟨⟨_, none⟩, hnext, ⟨rfl, hmatches.listed, hmatches.asked, hmatches.toolCalls,
      hmatches.numbers,
      hmatches.nextSeq⟩, ⟨?_, hcareful _ _ _, fun _ => pricedDue_none⟩, rfl, hR, hstored, rfl⟩
    exact (List.append_nil _).symm
  unfold AfterRecord
  cases houtcome : (record state.tracker elapsed).1 with
  | ok _ =>
      rw [houtcome] at hrecorded
      exact hrecorded
  | error error =>
      rw [houtcome] at hrecorded
      exact hrecorded.mono (left_of_holding trivial)

theorem ensures_appendCall {phase next : BookPhase} {left : Option (DueCall Float)}
    {call : LLMCall Float} (entry : Entry Float)
    (hstep : ∀ books : Books Float, books.phase = phase →
      bookStep cfg.num cfg.fmt books entry.step =
      some (books.list call.inputTokens call.outputTokens next))
    (hhands : ∀ clients books, Hands cfg clients books entry due left) :
    Ensures (Booked cfg start nextSeq (Holding cfg due phase R)) (appendCall call)
      (fun _ => Booked cfg start nextSeq (Holding cfg left next R)) err := by
  apply ensures_modify
  intro history state hbooked
  refine hbooked.step entry ?_ ?_
  · rfl
  rintro ledger ⟨hphase, hR, hstored, rfl⟩ hmatches
  refine ⟨⟨_, left⟩, hstep ledger.toBooks hphase, ⟨hmatches.tracker, ?_, hmatches.asked,
    hmatches.toolCalls, hmatches.numbers, hmatches.nextSeq⟩, hhands _ _, rfl, hR, hstored, rfl⟩
  rw [List.map_append, hmatches.listed]
  rfl

structure Ready (cfg : LoopConfig Float) (request : LlmRequest) (ledger : Ledger Float)
    (stored : Run Float) : Prop where
  idle : ledger.phase = .idle
  mayAsk : ledger.MayAsk request
  resolved : ledger.tracker.costUnresolvable = false
  settled : ledger.due = none
  stored : stored = cfg.run

theorem ensures_ensureCostDeterminate
    (hleft : ∀ ledger stored, P ledger stored → MayLeave cfg ledger stored) :
    BooksLead cfg start nextSeq P ensureCostDeterminate
      fun _ => fun ledger stored => P ledger stored ∧ ledger.tracker.costUnresolvable = false := by
  have hget : Ensures (Booked cfg start nextSeq P) (get : LoopM Float (LoopState Float))
      (fun now history state => now = state ∧ Booked cfg start nextSeq P history state)
      fun _ => Booked cfg start nextSeq (MayLeave cfg) :=
    ensures_get fun _ _ hbooked => ⟨rfl, hbooked⟩
  apply ensures_bind hget
  intro now
  unfold BudgetTracker.ensureCostDeterminate
  split
  case isTrue hunresolved => exact ensures_throw fun _ _ hbooked => hbooked.2.mono hleft
  case isFalse hresolved =>
    apply ensures_pure
    rintro history state ⟨rfl, entries, ledger, hrun, hmatches, haccounts, hP⟩
    rw [hmatches.tracker] at hresolved
    exact ⟨entries, ledger, hrun, hmatches, haccounts, hP, Bool.eq_false_iff.mpr hresolved⟩

theorem ensures_ensureCostDeterminate_at {phase : BookPhase} (hphase : phase.Quiescent) :
    BooksLead cfg start nextSeq (Holding cfg due phase R) ensureCostDeterminate
      fun _ =>
        fun ledger stored =>
        Holding cfg due phase R ledger stored ∧ ledger.tracker.costUnresolvable = false :=
  ensures_ensureCostDeterminate (left_of_holding hphase)

theorem Booked.ask {x : Exchange (@LoopReply Float)} {request : LlmRequest}
    {history : History Float} {state : LoopState Float}
    (hbooked : Booked cfg start nextSeq P history state)
    (hllm : x.call.llmRequest = some request) (htool : x.call.isToolCall = false)
    (hready : ∀ ledger stored, P ledger stored → Ready cfg request ledger stored)
    (hR : ∀ ledger stored, P ledger stored → R (ledger.asked ++ [request]) ledger.toolCalls) :
    Booked cfg start nextSeq (Holding cfg (dueAfter x) (.awaiting request) R)
      (history ++ [x]) state := by
  obtain ⟨entries, ledger, hrun, hmatches, haccounts, hP⟩ := hbooked
  have hask := hready ledger _ hP
  have hcareful : Careful cfg state.clients ledger.toBooks ⟨.ask request, none⟩ :=
    ⟨rfl, fun _ _ => hask.resolved⟩
  have hnext := haccounts.concat hrun (hands_of_careful hcareful)
  rw [hask.settled] at hnext
  have hstep : bookStep cfg.num cfg.fmt ledger.toBooks (.ask request) = some _ :=
    if_pos ⟨hask.idle, hask.mayAsk⟩
  refine ⟨_, { ledger with asked := ledger.asked ++ [request], phase := .awaiting request,
                           due := dueAfter x },
    entries_concat hrun hstep, ⟨hmatches.tracker, hmatches.listed, ?_, ?_, hmatches.numbers,
      hmatches.nextSeq⟩, hnext.exchange, rfl, hR ledger _ hP, hask.stored, rfl⟩
  · simp [askedOf, hllm, ← hmatches.asked]
  · simp [toolCallsOf, htool, ← hmatches.toolCalls]

theorem Booked.reply {x : Exchange (@LoopReply Float)} {phase : BookPhase} {history : History Float}
    {state : LoopState Float} (hbooked : Booked cfg start nextSeq (At cfg phase R) history state)
    (hllm : x.call.llmRequest = none) (htool : x.call.isToolCall = false) :
    Booked cfg start nextSeq (Holding cfg (dueAfter x) phase R) (history ++ [x]) state := by
  obtain ⟨entries, ledger, hrun, hmatches, haccounts, hphase, hR, hstored, hdue⟩ := hbooked
  rw [hdue] at haccounts
  refine ⟨entries, { ledger with due := dueAfter x }, hrun,
    ⟨hmatches.tracker, hmatches.listed, ?_, ?_,
    hmatches.numbers, hmatches.nextSeq⟩, haccounts.exchange, hphase, hR, hstored, rfl⟩
  · simp [askedOf, hllm, ← hmatches.asked]
  · simp [toolCallsOf, htool, ← hmatches.toolCalls]

theorem Booked.callTool {x : Exchange (@LoopReply Float)} {history : History Float}
    {state : LoopState Float} (hbooked : Booked cfg start nextSeq
      (At cfg .idle fun asked toolCalls => R asked 1 ∧ toolCalls = 0) history state)
    (hllm : x.call.llmRequest = none) (htool : x.call.isToolCall = true)
    (husage : usageOf x = none) :
    Booked cfg start nextSeq (At cfg .idle R) (history ++ [x]) state := by
  obtain ⟨entries, ledger, hrun, hmatches, haccounts, hphase, ⟨hR, hnone⟩, hstored, hdue⟩ := hbooked
  have hcareful : Careful cfg state.clients ledger.toBooks ⟨.callTool, none⟩ := ⟨rfl, nofun⟩
  have hnext := haccounts.concat hrun (hands_of_careful hcareful)
  rw [hdue] at hnext
  have hsettled : dueAfter x = none := by rw [dueAfter, husage, Option.map_none]
  have hstep : bookStep cfg.num cfg.fmt ledger.toBooks .callTool = some _ := if_pos ⟨hphase, hnone⟩
  refine ⟨_, { ledger with toolCalls := ledger.toolCalls + 1, due := dueAfter x },
    entries_concat hrun hstep, ⟨hmatches.tracker, hmatches.listed, ?_, ?_, hmatches.numbers,
      hmatches.nextSeq⟩, hnext.exchange, hphase, ?_, hstored, hsettled⟩
  · simp [askedOf, hllm, ← hmatches.asked]
  · simp [toolCallsOf, htool, ← hmatches.toolCalls]
  · simpa [hnone] using hR

theorem ensures_askWorker {call : LoopCall Float} {request : LlmRequest}
    (hsubmitted : (LoopCall.submitted call).llmRequest = some request)
    (hllm : call.llmRequest = none) (htool : call.isToolCall = false)
    (hsubmittedTool : (LoopCall.submitted call).isToolCall = false)
    (hready : ∀ ledger stored, P ledger stored → Ready cfg request ledger stored)
    (hR : ∀ ledger stored, P ledger stored → R (ledger.asked ++ [request]) ledger.toolCalls) :
    BooksLead cfg start nextSeq P (runWithCancellation call)
      fun reply => Holding cfg (dueAfter ⟨call, reply⟩) (.awaiting request) R := by
  have hsubmit : BooksLead cfg start nextSeq P (Loop.request (.submitted call) : LoopM Float Nat)
      fun _ => At cfg (.awaiting request) R :=
    ensures_ask fun _ _ _ hbooked => hbooked.ask hsubmitted hsubmittedTool hready hR
  apply ensures_bind hsubmit
  intro polls
  apply ensures_bind
  · exact ensures_framed_at (framed_pollWorker polls) trivial
  intro _
  exact ensures_ask fun _ _ _ hbooked => hbooked.reply hllm htool

theorem ensures_askTool {call : LoopCall Float} (hllm : (LoopCall.submitted call).llmRequest = none)
    (htool : (LoopCall.submitted call).isToolCall = true) (hfree : call.Free) :
    BooksLead cfg start nextSeq (At cfg .idle fun asked toolCalls => R asked 1 ∧ toolCalls = 0)
      (runWithCancellation call) fun _ => At cfg .idle R := by
  have hsubmit : BooksLead cfg start nextSeq
      (At cfg .idle fun asked toolCalls => R asked 1 ∧ toolCalls = 0)
      (Loop.request (.submitted call) : LoopM Float Nat) fun _ => At cfg .idle R :=
    ensures_ask fun _ _ _ hbooked => hbooked.callTool hllm htool rfl
  apply ensures_bind hsubmit
  intro polls
  apply ensures_bind
  · exact ensures_framed_at (framed_pollWorker polls) trivial
  intro _
  exact ensures_calm (calm_request hfree)

def NumberUsed (ledger : Ledger Float) : Prop := ledger.numbers.getLast? = some ledger.nextSeq

theorem ensures_storeMessage (role content : String) (metadata : Dict Float)
    (hP : ∀ ledger stored numbers, P ledger stored → P { ledger with numbers } stored) :
    Ensures (Booked cfg start nextSeq P) (addMessage cfg role content metadata)
      (fun _ => Booked cfg start nextSeq fun ledger stored => P ledger stored ∧ NumberUsed ledger)
      err := by
  apply ensures_bind (ensures_calm (calm_request ⟨rfl, rfl, rfl⟩))
  intro messageId
  apply ensures_bind (ensures_calm (calm_request ⟨rfl, rfl, rfl⟩))
  intro createdAt
  apply ensures_modify
  intro history state hbooked
  refine hbooked.step ⟨.store, none⟩ ?_ ?_
  · rfl
  intro ledger hledger hmatches
  refine ⟨{ ledger with numbers := ledger.numbers ++ [ledger.nextSeq] }, rfl, ⟨hmatches.tracker,
    hmatches.listed, hmatches.asked, hmatches.toolCalls, ?_, hmatches.nextSeq⟩,
    hands_of_careful ⟨rfl, nofun⟩, hP _ _ _ hledger, List.getLast?_concat⟩
  simp [LoopState.storeMessage, hmatches.numbers, hmatches.nextSeq]

theorem ensures_addMessage (role content : String) (metadata : Dict Float)
    (hP : ∀ ledger stored numbers, P ledger stored → P { ledger with numbers } stored) :
    Ensures (Booked cfg start nextSeq P) (addMessage cfg role content metadata)
      (fun _ => Booked cfg start nextSeq P) err := by
  apply (ensures_storeMessage role content metadata hP).weaken
  · exact fun _ _ hbooked => hbooked
  · exact fun _ _ _ hbooked => hbooked.mono fun _ _ => And.left
  · exact fun _ _ _ hraised => hraised

theorem ensures_advance {phase : BookPhase} :
    Ensures
      (Booked cfg start nextSeq fun ledger stored => At cfg phase R ledger stored ∧
      NumberUsed ledger)
      (modify fun state : LoopState Float => { state with nextSeq := state.nextSeq + 1 } :
        LoopM Float PUnit)
      (fun _ => Booked cfg start nextSeq (At cfg phase R)) err := by
  apply ensures_modify
  intro history state hbooked
  refine hbooked.step ⟨.advance, none⟩ ?_ ?_
  · rfl
  rintro ledger ⟨hat, hused⟩ hmatches
  exact ⟨{ ledger with nextSeq := ledger.nextSeq + 1 }, if_pos hused, ⟨hmatches.tracker,
    hmatches.listed, hmatches.asked, hmatches.toolCalls, hmatches.numbers,
    by rw [hmatches.nextSeq]⟩,
    hands_of_careful ⟨rfl, nofun⟩, hat⟩

end Rules

end AiAnalytics.App.Loop
