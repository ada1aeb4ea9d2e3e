import AiAnalytics.App.Orchestration.Cancellation
import AiAnalytics.App.Orchestration.Proof.TerminalLoop
import AiAnalytics.App.Orchestration.Proof.TerminalRun

/-!
# Whether the numbers of a run's events increase

The first event of an execution takes the number of `run.received` again, and a cancellation event
has a number below it. So the numbers increase only as long as an execution has published nothing.
-/

namespace AiAnalytics.App

open Lib

variable {Float : Type} {feed next : RunFeed Float}

section Interleavings

/-- Not an event of the execution, and a cancellation event only as the first event of all. -/
def Orderly (feed : RunFeed Float) : FeedStep Float → Prop
  | .emit => False
  | .record (.cancelPublish _) => feed.sequences = []
  | _ => True

theorem published_step {state after : RunState Float} {label : RunLabel Float}
    (hstep : runStep state label = some after) :
    (after.published = state.published ∧ ∀ id, label ≠ .cancelPublish id) ∨
      ∃ id event, label = .cancelPublish id ∧ after.published = state.published ++ [event] ∧
        event.sequence = 0 := by
  cases label with
  | prepare run =>
      simp only [runStep] at hstep
      split_ifs at hstep
      split at hstep
      · obtain rfl := Option.some.inj hstep
        exact .inl ⟨rfl, by rintro _ ⟨⟩⟩
      · cases hstep
  | finish run =>
      simp only [runStep] at hstep
      split_ifs at hstep
      split at hstep
      · obtain rfl := Option.some.inj hstep
        exact .inl ⟨rfl, by rintro _ ⟨⟩⟩
      · cases hstep
  | cancelRead =>
      obtain rfl := Option.some.inj hstep
      exact .inl ⟨rfl, by rintro _ ⟨⟩⟩
  | cancelFlag id redis =>
      simp only [runStep] at hstep
      split at hstep
      · obtain rfl := Option.some.inj hstep
        exact .inl ⟨rfl, by rintro _ ⟨⟩⟩
      · cases hstep
  | cancelWrite id =>
      simp only [runStep] at hstep
      split at hstep
      · split at hstep
        · obtain rfl := Option.some.inj hstep
          exact .inl ⟨rfl, by rintro _ ⟨⟩⟩
        · obtain rfl := Option.some.inj hstep
          exact .inl ⟨rfl, by rintro _ ⟨⟩⟩
      · cases hstep
  | cancelPublish id =>
      simp only [runStep] at hstep
      split at hstep
      · obtain rfl := Option.some.inj hstep
        exact .inr ⟨id, _, rfl, rfl, rfl⟩
      · cases hstep

theorem sequences_step {step : FeedStep Float} (hstep : feedStep feed step = some next) :
    (next.sequences = feed.sequences ∧ next.received = feed.received ∧ Orderly feed step ∧
        (next.evtSequence = feed.evtSequence ∨
          feed.received = true ∧ next.evtSequence = some initialEvtSequence)) ∨
      (next.sequences = feed.sequences ++ [0] ∧ next.received = feed.received ∧
        next.evtSequence = feed.evtSequence ∧ (Orderly feed step ↔ feed.sequences = [])) ∨
      (next.sequences = feed.sequences ++ [receivedSequence] ∧ feed.received = false ∧
        next.received = true ∧ next.evtSequence = feed.evtSequence ∧ Orderly feed step) ∨
      ∃ sequence, feed.evtSequence = some sequence ∧ next.sequences = feed.sequences ++ [sequence] ∧
        next.received = feed.received ∧ next.evtSequence = some (sequence + 1) ∧
        ¬ Orderly feed step := by
  cases step with
  | record label =>
      simp only [feedStep] at hstep
      split_ifs at hstep
      obtain ⟨run, hrun, rfl⟩ := Option.map_eq_some_iff.mp hstep
      rcases published_step hrun with ⟨hsame, hlabel⟩ | ⟨id, event, rfl, hadded, hsequence⟩
      · refine .inl ⟨?_, rfl, ?_, .inl rfl⟩
        · simp [hsame]
        · cases label with
          | cancelPublish id => exact absurd rfl (hlabel id)
          | _ => trivial
      · refine .inr (.inl ⟨?_, rfl, rfl, Iff.rfl⟩)
        simp [hadded, hsequence]
  | received =>
      simp only [feedStep] at hstep
      split_ifs at hstep with hnew
      obtain rfl := Option.some.inj hstep
      refine .inr (.inr (.inl ⟨rfl, ?_, rfl, rfl, trivial⟩))
      simpa using (Bool.and_eq_true_iff.mp hnew).2
  | execute =>
      simp only [feedStep] at hstep
      split_ifs at hstep with hready
      obtain rfl := Option.some.inj hstep
      exact .inl ⟨rfl, rfl, trivial, .inr ⟨(Bool.and_eq_true_iff.mp hready).1, rfl⟩⟩
  | emit =>
      simp only [feedStep] at hstep
      split at hstep
      · rename_i sequence hcount
        obtain rfl := Option.some.inj hstep
        exact .inr (.inr (.inr ⟨sequence, hcount, rfl, rfl, rfl, id⟩))
      · cases hstep

structure FeedInv (met : Prop) (feed : RunFeed Float) : Prop where
  nonneg : ∀ sequence ∈ feed.sequences, 0 ≤ sequence
  unreceived : feed.received = false →
    feed.evtSequence = none ∧ ∀ sequence ∈ feed.sequences, sequence = 0
  received : feed.received = true → receivedSequence ∈ feed.sequences
  counting : ∀ sequence, feed.evtSequence = some sequence → initialEvtSequence ≤ sequence
  uncounted : met → ∀ sequence, feed.evtSequence = some sequence → sequence = initialEvtSequence
  increasing : feed.sequences.Pairwise (· < ·) ↔ met

theorem feedInv_start : FeedInv True ({} : RunFeed Float) where
  nonneg := fun _ hmem => absurd hmem List.not_mem_nil
  unreceived := fun _ => ⟨rfl, fun _ hmem => absurd hmem List.not_mem_nil⟩
  received := by rintro ⟨⟩
  counting := by rintro _ ⟨⟩
  uncounted := by rintro - _ ⟨⟩
  increasing := iff_of_true .nil trivial

theorem pairwise_concat_iff {sequences : List Int} {last : Int} :
    (sequences ++ [last]).Pairwise (· < ·) ↔
      sequences.Pairwise (· < ·) ∧ ∀ sequence ∈ sequences, sequence < last := by
  simp [List.pairwise_append]

theorem FeedInv.step {met : Prop} {step : FeedStep Float} (hinv : FeedInv met feed)
    (hstep : feedStep feed step = some next) : FeedInv (met ∧ Orderly feed step) next := by
  rcases sequences_step hstep with ⟨hsame, hreceived, horderly, hcount⟩ |
    ⟨hadded, hreceived, hcount, horderly⟩ | ⟨hadded, hnew, hreceived, hcount, horderly⟩ |
    ⟨sequence, hcurrent, hadded, hreceived, hcount, horderly⟩
  · have hmet : met ∧ Orderly feed step ↔ met := and_iff_left horderly
    refine ⟨?_, ?_, ?_, ?_, ?_, ?_⟩
    · rw [hsame]
      exact hinv.nonneg
    · rw [hreceived, hsame]
      intro hnone
      refine ⟨?_, (hinv.unreceived hnone).2⟩
      rcases hcount with hkept | ⟨hready, -⟩
      · exact hkept.trans (hinv.unreceived hnone).1
      · rw [hnone] at hready
        cases hready
    · rw [hreceived, hsame]
      exact hinv.received
    · rcases hcount with hkept | ⟨-, hstarted⟩
      · rw [hkept]
        exact hinv.counting
      · rintro sequence hsequence
        rw [hstarted] at hsequence
        exact (Option.some.inj hsequence).le
    · rcases hcount with hkept | ⟨-, hstarted⟩
      · rw [hkept]
        exact fun hall => hinv.uncounted hall.1
      · rintro - sequence hsequence
        rw [hstarted] at hsequence
        exact (Option.some.inj hsequence).symm
    · rw [hsame, hmet]
      exact hinv.increasing
  · refine ⟨?_, ?_, ?_, ?_, ?_, ?_⟩
    · rw [hadded]
      intro sequence hmem
      rcases List.mem_append.mp hmem with hold | hnew
      · exact hinv.nonneg sequence hold
      · exact (List.mem_singleton.mp hnew).ge
    · rw [hreceived, hcount, hadded]
      intro hnone
      refine ⟨(hinv.unreceived hnone).1, fun sequence hmem => ?_⟩
      rcases List.mem_append.mp hmem with hold | hnew
      · exact (hinv.unreceived hnone).2 sequence hold
      · exact List.mem_singleton.mp hnew
    · rw [hreceived, hadded]
      exact fun hready => List.mem_append_left _ (hinv.received hready)
    · rw [hcount]
      exact hinv.counting
    · rw [hcount]
      exact fun hall => hinv.uncounted hall.1
    · rw [hadded, pairwise_concat_iff, hinv.increasing, horderly]
      refine and_congr_right fun _ => ?_
      constructor
      · -- no number is below 0
        intro hbelow
        refine List.eq_nil_iff_forall_not_mem.mpr fun sequence hmem => ?_
        have hleast := hinv.nonneg sequence hmem
        have hless := hbelow sequence hmem
        omega
      · rintro hnone sequence hmem
        rw [hnone] at hmem
        cases hmem
  · refine ⟨?_, ?_, ?_, ?_, ?_, ?_⟩
    · rw [hadded]
      intro sequence hmem
      rcases List.mem_append.mp hmem with hold | hlast
      · exact hinv.nonneg sequence hold
      · rw [List.mem_singleton.mp hlast]
        decide
    · rw [hreceived]
      rintro ⟨⟩
    · rw [hadded]
      exact fun _ => List.mem_append_right _ (List.mem_singleton_self _)
    · rw [hcount]
      exact hinv.counting
    · rw [hcount]
      exact fun hall => hinv.uncounted hall.1
    · rw [hadded, pairwise_concat_iff, hinv.increasing, and_iff_left horderly]
      refine and_iff_left fun sequence hmem => ?_
      rw [(hinv.unreceived hnew).2 sequence hmem]
      decide
  · refine ⟨?_, ?_, ?_, ?_, ?_, ?_⟩
    · rw [hadded]
      intro number hmem
      rcases List.mem_append.mp hmem with hold | hlast
      · exact hinv.nonneg number hold
      · have hleast : 1 ≤ sequence := hinv.counting sequence hcurrent
        have hnumber : number = sequence := List.mem_singleton.mp hlast
        omega
    · rw [hreceived]
      intro hnone
      rw [(hinv.unreceived hnone).1] at hcurrent
      cases hcurrent
    · rw [hreceived, hadded]
      exact fun hready => List.mem_append_left _ (hinv.received hready)
    · rw [hcount]
      rintro number ⟨⟩
      exact (hinv.counting sequence hcurrent).trans (Int.le_add_one le_rfl)
    · exact fun hall => absurd hall.2 horderly
    · refine iff_of_false (fun hincreasing => ?_) fun hall => horderly hall.2
      rw [hadded, pairwise_concat_iff] at hincreasing
      -- the number of `run.received` is taken again
      have hfirst : sequence = 1 :=
        hinv.uncounted (hinv.increasing.mp hincreasing.1) sequence hcurrent
      have hready : feed.received = true := by
        by_contra hnone
        rw [(hinv.unreceived (Bool.eq_false_of_not_eq_true hnone)).1] at hcurrent
        cases hcurrent
      have hless : 1 < sequence := hincreasing.2 1 (hinv.received hready)
      omega

/-- The published numbers increase exactly when the execution has published nothing and a
cancellation event came first. -/
theorem sequences_increase_iff {steps : List (FeedStep Float)}
    (hrun : feedMachine.run {} steps = some feed) :
    feed.sequences.Pairwise (· < ·) ↔ feedMachine.Meets Orderly {} steps := by
  have hinv : FeedInv (feedMachine.Meets Orderly {} steps) feed :=
    Machine.run_invariant_meets (fun _ _ _ _ hinv hstep => hinv.step hstep) feedInv_start hrun
  exact hinv.increasing

def receivedOnly : List (FeedStep ℚ) := [.record (.prepare startedRun), .received]

theorem sequences_increase_iff_received :
    [(1 : Int)].Pairwise (· < ·) ↔ feedMachine.Meets Orderly {} receivedOnly := by
  have hrun : feedMachine.run {} receivedOnly = some _ := rfl
  exact sequences_increase_iff hrun

def executedRun : List (FeedStep ℚ) := receivedOnly ++ [.execute, .emit]

def cancelledEarly : List (FeedStep ℚ) :=
  receivedOnly ++ [.record .cancelRead, .record (.cancelFlag 0 true), .record (.cancelWrite 0),
    .record (.cancelPublish 0)]

theorem first_event_repeats_number :
    (∃ feed, feedMachine.run {} executedRun = some feed ∧ feed.sequences = [1, 1] ∧
      ¬ feed.sequences.Pairwise (· < ·)) ∧
    ∃ feed, feedMachine.run {} cancelledEarly = some feed ∧ feed.sequences = [1, 0] ∧
      ¬ feed.sequences.Pairwise (· < ·) := by
  refine ⟨⟨_, rfl, rfl, ?_⟩, ⟨_, rfl, rfl, ?_⟩⟩
  · show ¬ [(1 : Int), 1].Pairwise (· < ·)
    decide
  · show ¬ [(1 : Int), 0].Pairwise (· < ·)
    decide

theorem run_emits (count : Nat) {first : Int} (hcount : feed.evtSequence = some first) :
    ∃ after, feedMachine.run feed (List.replicate count .emit) = some after ∧
      after.sequences = feed.sequences ++ (List.range count).map fun k : Nat => first + k := by
  induction count generalizing feed first with
  | zero => exact ⟨feed, rfl, by simp⟩
  | succ count ih =>
      let emitted : RunFeed Float :=
        { feed.publish first with evtSequence := some (first + 1) }
      have hstep : feedMachine.step feed .emit = some emitted := by
        simp [feedMachine, feedStep, hcount, emitted]
      have hnext : emitted.evtSequence = some (first + 1) := rfl
      obtain ⟨after, hrest, hsequences⟩ := ih hnext
      refine ⟨after, Machine.run_cons_eq_some_iff.mpr ⟨emitted, hstep, hrest⟩, ?_⟩
      have hshift : (List.range count).map (fun k : Nat => first + 1 + (k : Int)) =
          ((List.range count).map Nat.succ).map fun k : Nat => first + (k : Int) := by
        rw [List.map_map]
        refine List.map_congr_left fun k _ => ?_
        simp only [Function.comp_apply, Nat.succ_eq_add_one, Nat.cast_add, Nat.cast_one]
        omega
      rw [hsequences, hshift, List.range_succ_eq_map, List.map_cons]
      simp [emitted, RunFeed.publish]

end Interleavings

end AiAnalytics.App

namespace AiAnalytics.App.Loop

open Lib Lib.Prog

variable {Float : Type} (cfg : LoopConfig Float)

section Runs

structure CountsEvents (state : LoopState Float) : Prop where
  sequences : state.events.map (·.sequence) =
    (List.range state.events.length).map fun k : Nat => initialEvtSequence + k
  next : state.evtSequence = initialEvtSequence + state.events.length

theorem countsEvents_publish {state : LoopState Float} {event : Int → RunEvent Float}
    (hsequence : (event state.evtSequence).sequence = state.evtSequence)
    (hcounts : CountsEvents state) : CountsEvents (state.publish event) where
  sequences := by
    simp only [LoopState.publish, List.map_append, List.length_append, List.length_singleton,
      List.range_succ, List.map_singleton]
    rw [hcounts.sequences, hsequence, hcounts.next]
  next := by
    simp only [LoopState.publish, List.length_append, List.length_singleton]
    rw [hcounts.next]
    omega

theorem countsEvents_of_sameRecords {state next : LoopState Float} (hsame : SameRecords state next)
    (hcounts : CountsEvents state) : CountsEvents next where
  sequences := by
    rw [hsame.events]
    exact hcounts.sequences
  next := by
    rw [hsame.events, hsame.evtSequence]
    exact hcounts.next

def Counting (_ : History Float) (state : LoopState Float) : Prop := CountsEvents state

theorem carried_counting : Carried (@Counting Float) where
  exchange _ _ _ _ hcounts := hcounts
  locals _ _ _ hsame hcounts := countsEvents_of_sameRecords hsame hcounts
  publish _ _ _ _ hsequence hcounts := countsEvents_publish hsequence hcounts
  step _ _ _ _ hcounts := ⟨hcounts.sequences, hcounts.next⟩
  lastStep _ _ _ hcounts := ⟨hcounts.sequences, hcounts.next⟩
  message _ _ _ hcounts := ⟨hcounts.sequences, hcounts.next⟩

theorem closes_counting : Closes (@Counting Float) where
  toLogged := carried_counting.toLogged
  record _ _ _ hcounts := ⟨hcounts.sequences, hcounts.next⟩
  publish _ _ _ hsequence hcounts := countsEvents_publish hsequence hcounts

theorem keeps_executeLoop : Keeps Counting (fun _ => Counting) (executeLoop cfg) :=
  ensures_executeLoop_of_closes cfg carried_counting.toSustained (fun _ _ _ _ _ _ hcounts =>
    hcounts) carried_counting.concludes closes_counting fun _ _ _ _ hcounts => hcounts

variable {cfg} {messages : List (Message Float)} {nextSeq : Int} {log : History Float}
  {result : Except (LoopError Float) (LoopResult Float)} {final : LoopState Float}

theorem countsEvents_of_run
    (hrun : (executeLoop cfg).Runs (initialState cfg messages nextSeq) log result final) :
    CountsEvents final := by
  have hcounts : CountsEvents (initialState cfg messages nextSeq) := ⟨rfl, rfl⟩
  have hend := keeps_executeLoop cfg [] _ hcounts log result final hrun
  cases result with
  | ok value => exact hend
  | error error => exact hend

theorem loop_publishes_as_feed {feed : RunFeed Float}
    (hstarted : feed.evtSequence = some initialEvtSequence)
    (hrun : (executeLoop cfg).Runs (initialState cfg messages nextSeq) log result final) :
    ∃ after, feedMachine.run feed (List.replicate final.events.length .emit) = some after ∧
      after.sequences = feed.sequences ++ final.events.map (·.sequence) := by
  rw [(countsEvents_of_run hrun).sequences]
  exact run_emits final.events.length hstarted

end Runs

end AiAnalytics.App.Loop
