import AiAnalytics.Benchmarks.MetricsDelta
import Mathlib.Tactic.Linarith
import Mathlib.Tactic.FieldSimp

/-!
# Windows with a restart

After a restart the sum of one counter can be below its old value while the sum of the other has
passed it. The first is then counted from zero and the second from its old value, so that more hits
than queries are reported. -/

namespace AiAnalytics.Benchmarks

open Lib

section Deltas

variable {before after : PrometheusMetricSnapshot}

/-- No more hits than queries, and a rate between 0 and 100. -/
def MetricsDelta.Consistent (delta : MetricsDelta) : Prop :=
  (0 ≤ delta.prefixCacheHits ∧ delta.prefixCacheHits ≤ delta.prefixCacheQueries) ∧
    0 ≤ delta.prefixCacheHitRatePct ∧ delta.prefixCacheHitRatePct ≤ 100

instance (delta : MetricsDelta) : Decidable delta.Consistent :=
  inferInstanceAs (Decidable ((_ ∧ _) ∧ _ ∧ _))

theorem hitsTotal_mem : hitsTotal ∈ counters := List.mem_cons_self

theorem queriesTotal_mem : queriesTotal ∈ counters := List.mem_cons_of_mem _ List.mem_cons_self

theorem prefixCacheHits_eq :
    (computeMetricsDelta before after).prefixCacheHits =
      counterDelta (getSum before.samples hitsTotal) (getSum after.samples hitsTotal) := by
  simp only [computeMetricsDelta, List.lookup_graph _ hitsTotal_mem, Option.getD_some]

theorem prefixCacheQueries_eq :
    (computeMetricsDelta before after).prefixCacheQueries =
      counterDelta (getSum before.samples queriesTotal) (getSum after.samples queriesTotal) := by
  simp only [computeMetricsDelta, List.lookup_graph _ queriesTotal_mem, Option.getD_some]

theorem hitRatePct_eq :
    (computeMetricsDelta before after).prefixCacheHitRatePct =
      if 0 < (computeMetricsDelta before after).prefixCacheQueries then
        (computeMetricsDelta before after).prefixCacheHits /
          (computeMetricsDelta before after).prefixCacheQueries * 100
      else 0 := rfl

theorem hitRatePct_bounds {hits queries : ℚ} (hhits : 0 ≤ hits) (hle : hits ≤ queries) :
    0 ≤ (if 0 < queries then hits / queries * 100 else 0) ∧
      (if 0 < queries then hits / queries * 100 else 0) ≤ 100 := by
  split_ifs with hpos
  · have hratio : hits / queries ≤ 1 := (div_le_one hpos).mpr hle
    have hnonneg : 0 ≤ hits / queries := div_nonneg hhits hpos.le
    constructor <;> linarith
  · exact ⟨le_rfl, by norm_num⟩

theorem consistent_iff :
    (computeMetricsDelta before after).Consistent ↔
      0 ≤ (computeMetricsDelta before after).prefixCacheHits ∧
        (computeMetricsDelta before after).prefixCacheHits ≤
          (computeMetricsDelta before after).prefixCacheQueries := by
  refine ⟨And.left, fun h => ⟨h, ?_⟩⟩
  rw [hitRatePct_eq]
  exact hitRatePct_bounds h.1 h.2

theorem counterDelta_nonneg {old new : ℚ} (hnew : 0 ≤ new) : 0 ≤ counterDelta old new := by
  unfold counterDelta
  split_ifs with hreset
  · exact hnew
  · exact sub_nonneg.mpr (not_lt.mp hreset)

theorem counterDelta_of_le {old new : ℚ} (h : old ≤ new) : counterDelta old new = new - old :=
  if_neg (not_lt.mpr h)

end Deltas

section Windows

variable {first : Exposition} {worker next last : ScrapedWorker} {act : WorkerAct}
  {window : List WorkerAct}

structure WindowInv (first : Exposition) (worker : ScrapedWorker) : Prop where
  unbroken : worker.restarts = 0 → worker.began = first
  fresh : worker.restarts ≠ 0 → ∀ c ∈ counters, getSum worker.began.samples c = 0
  grown : ∀ c ∈ counters, getSum worker.began.samples c ≤ getSum worker.exposed.samples c

theorem WindowInv.scraped (first : Exposition) : WindowInv first (.scraped first) where
  unbroken _ := rfl
  fresh h := absurd rfl h
  grown _ _ := le_rfl

theorem WindowInv.step (h : WindowInv first worker)
    (hstep : workerMachine.step worker act = some next) : WindowInv first next := by
  cases act with
  | serve exposed =>
      simp only [workerMachine] at hstep
      split_ifs at hstep with hgrows
      obtain rfl := Option.some.inj hstep
      exact ⟨h.unbroken, h.fresh, fun c hc => (h.grown c hc).trans (hgrows c hc)⟩
  | restart exposed =>
      simp only [workerMachine] at hstep
      split_ifs at hstep with hzero
      obtain rfl := Option.some.inj hstep
      exact ⟨nofun, fun _ => hzero.2, fun _ _ => le_rfl⟩

theorem WindowInv.of_run (hrun : workerMachine.run (.scraped first) window = some last) :
    WindowInv first last :=
  Machine.run_invariant (fun _ _ _ h hstep => h.step hstep) (WindowInv.scraped first) hrun

/-- What the code needs of a window: no restart; or one that shows in the queries; or as many more
queries than before as there are hits since the restart, where hits that have passed their old sum
too need only be matched from there. -/
def RestartTold (first last : ScrapedWorker) : Prop :=
  last.restarts = 0 ∨ last.queries < first.queries ∨ first.queries + last.hits ≤ last.queries ∨
    first.hits ≤ last.hits ∧ last.hits - first.hits ≤ last.queries - first.queries

theorem window_consistent_iff {started ended : ℚ} :
    (computeMetricsDelta ((ScrapedWorker.scraped first).snapshot started)
      (last.snapshot ended)).Consistent ↔
      counterDelta (ScrapedWorker.scraped first).hits last.hits ≤
        counterDelta (ScrapedWorker.scraped first).queries last.queries := by
  rw [consistent_iff, prefixCacheHits_eq, prefixCacheQueries_eq]
  exact and_iff_right (counterDelta_nonneg (last.exposed.counted hitsTotal hitsTotal_mem))

theorem WindowInv.unbroken_le (h : WindowInv first last) (hbalanced : last.Balanced)
    (hunbroken : last.restarts = 0) : counterDelta (ScrapedWorker.scraped first).hits last.hits ≤
      counterDelta (ScrapedWorker.scraped first).queries last.queries := by
  have hbegan := h.unbroken hunbroken
  have hhits := h.grown hitsTotal hitsTotal_mem
  have hqueries := h.grown queriesTotal queriesTotal_mem
  unfold ScrapedWorker.Balanced at hbalanced
  rw [hbegan] at hhits hqueries hbalanced
  calc counterDelta (ScrapedWorker.scraped first).hits last.hits
      = last.hits - (ScrapedWorker.scraped first).hits := counterDelta_of_le hhits
    _ ≤ last.queries - (ScrapedWorker.scraped first).queries := hbalanced
    _ = counterDelta (ScrapedWorker.scraped first).queries last.queries :=
      (counterDelta_of_le hqueries).symm

theorem WindowInv.hits_le_queries (h : WindowInv first last) (hbalanced : last.Balanced)
    (hrestarted : last.restarts ≠ 0) : last.hits ≤ last.queries := by
  have hzero := h.fresh hrestarted
  unfold ScrapedWorker.Balanced at hbalanced
  rw [hzero _ hitsTotal_mem, hzero _ queriesTotal_mem] at hbalanced
  linarith

theorem WindowInv.restarted_le_iff (h : WindowInv first last) (hbalanced : last.Balanced)
    (hrestarted : last.restarts ≠ 0) :
    counterDelta (ScrapedWorker.scraped first).hits last.hits ≤
        counterDelta (ScrapedWorker.scraped first).queries last.queries ↔
      RestartTold (.scraped first) last := by
  have hle := h.hits_le_queries hbalanced hrestarted
  have hold : 0 ≤ (ScrapedWorker.scraped first).hits := first.counted hitsTotal hitsTotal_mem
  unfold counterDelta RestartTold
  -- each counter is below its old sum or has passed it
  split_ifs with hhits hqueries hqueries <;> grind

/-- **Windows of a restarting worker.** In a window all of whose periods are balanced the deltas are
consistent exactly when the restarts are told from the counters. -/
theorem window_deltas_consistent_iff (hrun : workerMachine.run (.scraped first) window = some last)
    (hbalanced : last.Balanced) (started ended : ℚ) :
    (computeMetricsDelta ((ScrapedWorker.scraped first).snapshot started)
      (last.snapshot ended)).Consistent ↔ RestartTold (.scraped first) last := by
  have hinv := WindowInv.of_run hrun
  rw [window_consistent_iff]
  by_cases hrestarts : last.restarts = 0
  · exact iff_of_true (hinv.unbroken_le hbalanced hrestarts) (Or.inl hrestarts)
  · exact hinv.restarted_le_iff hbalanced hrestarts

end Windows

section Restarted

def exposing (hits queries : ℚ) : List MetricSample := [⟨hitsTotal, hits⟩, ⟨queriesTotal, queries⟩]

theorem colon_mem_counters : ∀ c ∈ counters, ':' ∈ c.toList := by
  simp only [counters, hitsTotal, queriesTotal, List.forall_mem_cons]
  iterate 8 refine ⟨by rw [String.toList_ofList]; decide, ?_⟩
  exact List.forall_mem_nil _

theorem named_eq_of_colon {sample : MetricSample} {name : String}
    (hsample : ':' ∈ sample.name.toList) (hname : ':' ∈ name.toList) :
    sample.named name = decide (sample.name = name) := by
  have halt : sample.name ≠ altName name := by
    intro heq
    rw [heq, altName, if_pos hname, String.toList_ofList] at hsample
    obtain ⟨c, -, hc⟩ := List.mem_map.mp hsample
    split_ifs at hc with hcolon
    · exact absurd hc (by decide)
    · exact hcolon hc
  rw [MetricSample.named, decide_eq_false halt, Bool.or_false]

theorem getSum_exposing (hits queries : ℚ) {c : String} (hc : c ∈ counters) :
    getSum (exposing hits queries) c =
      if c = hitsTotal then hits else if c = queriesTotal then queries else 0 := by
  have hcolon := colon_mem_counters c hc
  have hhits : (⟨hitsTotal, hits⟩ : MetricSample).named c = decide (hitsTotal = c) :=
    named_eq_of_colon (colon_mem_counters _ hitsTotal_mem) hcolon
  have hqueries : (⟨queriesTotal, queries⟩ : MetricSample).named c = decide (queriesTotal = c) :=
    named_eq_of_colon (colon_mem_counters _ queriesTotal_mem) hcolon
  have hne : hitsTotal ≠ queriesTotal := by simp [hitsTotal, queriesTotal]
  simp only [getSum, exposing, sumLoop, hhits, hqueries, decide_eq_true_eq, eq_comm (b := c)]
  by_cases hfirst : c = hitsTotal
  · subst hfirst
    simp [hne]
  · by_cases hsecond : c = queriesTotal
    · subst hsecond
      simp [hne.symm]
    · simp [hfirst, hsecond]

theorem getSum_exposing_hits (hits queries : ℚ) :
    getSum (exposing hits queries) hitsTotal = hits := by
  rw [getSum_exposing hits queries hitsTotal_mem, if_pos rfl]

theorem getSum_exposing_queries (hits queries : ℚ) :
    getSum (exposing hits queries) queriesTotal = queries := by
  have hne : queriesTotal ≠ hitsTotal := by simp [hitsTotal, queriesTotal]
  rw [getSum_exposing hits queries queriesTotal_mem, if_neg hne, if_pos rfl]

theorem getSum_exposing_nonneg {hits queries : ℚ} (hhits : 0 ≤ hits) (hqueries : 0 ≤ queries) :
    ∀ c ∈ counters, 0 ≤ getSum (exposing hits queries) c := by
  intro c hc
  rw [getSum_exposing hits queries hc]
  split_ifs
  · exact hhits
  · exact hqueries
  · exact le_rfl

def hitBefore : Exposition := ⟨exposing 100 100, getSum_exposing_nonneg (by norm_num) (by norm_num)⟩

def zeroed : Exposition := ⟨exposing 0 0, getSum_exposing_nonneg le_rfl le_rfl⟩

def hitAfter : Exposition := ⟨exposing 90 101, getSum_exposing_nonneg (by norm_num) (by norm_num)⟩

def restarted : ScrapedWorker := { began := zeroed, exposed := hitAfter, restarts := 1 }

theorem run_restarted :
    workerMachine.run (.scraped hitBefore) [.restart zeroed, .serve hitAfter] = some restarted := by
  have hzero : ∀ c ∈ counters, getSum zeroed.samples c = 0 := by
    intro c hc
    rw [zeroed, getSum_exposing 0 0 hc, ite_self, ite_self]
  have hbalanced : (ScrapedWorker.scraped hitBefore).Balanced :=
    (sub_self _).trans_le (sub_self _).ge
  have hgrown : ∀ c ∈ counters, getSum zeroed.samples c ≤ getSum hitAfter.samples c := by
    intro c hc
    rw [hzero c hc]
    exact hitAfter.counted c hc
  refine Machine.run_cons_eq_some_iff.mpr ⟨_, if_pos ⟨hbalanced, hzero⟩, ?_⟩
  exact Machine.run_cons_eq_some_iff.mpr ⟨_, if_pos hgrown, rfl⟩

theorem balanced_restarted : restarted.Balanced := by
  simp only [ScrapedWorker.Balanced, ScrapedWorker.hits, ScrapedWorker.queries, restarted, hitAfter,
    zeroed, getSum_exposing_hits, getSum_exposing_queries]
  norm_num

theorem window_deltas_consistent_iff_restarted :
    (computeMetricsDelta ((ScrapedWorker.scraped hitBefore).snapshot 0)
      (restarted.snapshot 60)).Consistent ↔ RestartTold (.scraped hitBefore) restarted :=
  window_deltas_consistent_iff run_restarted balanced_restarted 0 60

/-- Ninety hits are reported for one query. -/
theorem more_hits_than_queries :
    workerMachine.run (.scraped hitBefore) [.restart zeroed, .serve hitAfter] = some restarted ∧
      restarted.Balanced ∧
      (computeMetricsDelta ((ScrapedWorker.scraped hitBefore).snapshot 0)
      (restarted.snapshot 60)).prefixCacheHits = 90 ∧
      (computeMetricsDelta ((ScrapedWorker.scraped hitBefore).snapshot 0)
        (restarted.snapshot 60)).prefixCacheQueries = 1 ∧
      ¬ (computeMetricsDelta ((ScrapedWorker.scraped hitBefore).snapshot 0)
      (restarted.snapshot 60)).Consistent := by
  have hhits : (computeMetricsDelta ((ScrapedWorker.scraped hitBefore).snapshot 0)
      (restarted.snapshot 60)).prefixCacheHits = 90 := by
    rw [prefixCacheHits_eq]
    simp only [ScrapedWorker.snapshot, ScrapedWorker.scraped, restarted, hitBefore, hitAfter,
      getSum_exposing_hits]
    norm_num [counterDelta]
  have hqueries : (computeMetricsDelta ((ScrapedWorker.scraped hitBefore).snapshot 0)
      (restarted.snapshot 60)).prefixCacheQueries = 1 := by
    rw [prefixCacheQueries_eq]
    simp only [ScrapedWorker.snapshot, ScrapedWorker.scraped, restarted, hitBefore, hitAfter,
      getSum_exposing_queries]
    norm_num [counterDelta]
  refine ⟨run_restarted, balanced_restarted, hhits, hqueries, fun hconsistent => ?_⟩
  have hle := (consistent_iff.mp hconsistent).2
  rw [hhits, hqueries] at hle
  norm_num at hle

end Restarted

end AiAnalytics.Benchmarks
