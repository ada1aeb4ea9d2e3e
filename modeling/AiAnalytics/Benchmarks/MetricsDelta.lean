import AiAnalytics.Lib.Machine
import Mathlib.Data.Rat.Floor
import Mathlib.Algebra.Order.Ring.Rat

/-!
# The deltas of a metrics window

A benchmark scrapes the worker before and after a window and reports what the counters gained in
between. A counter whose sum is smaller afterwards is taken to have started again from zero, and
each counter is judged on its own. Arithmetic is exact.
-/

namespace AiAnalytics.Benchmarks

open Lib

structure MetricSample where
  name : String
  value : ℚ
deriving DecidableEq

structure PrometheusMetricSnapshot where
  timestamp : ℚ
  samples : List MetricSample

def replaceFirst (found put : Char) : List Char → List Char
  | [] => []
  | c :: text => if c = found then put :: text else c :: replaceFirst found put text

def altName (name : String) : String :=
  if ':' ∈ name.toList then String.ofList (name.toList.map fun c => if c = ':' then '_' else c)
  else String.ofList (replaceFirst '_' ':' name.toList)

def MetricSample.named (name : String) (sample : MetricSample) : Bool :=
  sample.name = name || sample.name = altName name

def sumLoop (name : String) : List MetricSample → ℚ → Bool → ℚ × Bool
  | [], total, found => (total, found)
  | s :: samples, total, found =>
      if s.named name then sumLoop name samples (total + s.value) true
        else sumLoop name samples total found

def getSum (samples : List MetricSample) (name : String) : ℚ :=
  let (total, found) := sumLoop name samples 0 false
  if found then total else 0

def getFirstValue (samples : List MetricSample) (name : String) : Option ℚ :=
  (samples.find? fun s => s.named name).map MetricSample.value

def hitsTotal : String := "vllm:prefix_cache_hits_total"

def queriesTotal : String := "vllm:prefix_cache_queries_total"

def counters : List String :=
  [hitsTotal, queriesTotal, "vllm:prompt_tokens_total", "vllm:generation_tokens_total",
    "vllm:time_to_first_token_seconds_count", "vllm:time_to_first_token_seconds_sum",
    "vllm:request_queue_time_seconds_count", "vllm:request_queue_time_seconds_sum"]

structure MetricsDelta where
  durationSeconds : ℚ
  counterResetDetected : Bool
  prefixCacheHits : ℚ
  prefixCacheQueries : ℚ
  prefixCacheHitRatePct : ℚ
  promptTokens : ℚ
  generationTokens : ℚ
  avgTtftSeconds : Option ℚ
  avgQueueTimeSeconds : Option ℚ
  gpuCacheUsagePost : Option ℚ
  avgPromptThroughput : Option ℚ
  avgGenerationThroughput : Option ℚ
  rawDeltas : List (String × ℚ)

def counterDelta (before after : ℚ) : ℚ :=
  if after < before then after else after - before

def roundHalfEven (x : ℚ) : ℤ :=
  let rest := x - ⌊x⌋
  if rest < 1 / 2 then ⌊x⌋ else if 1 / 2 < rest then ⌊x⌋ + 1 else if ⌊x⌋ % 2 = 0 then ⌊x⌋
    else ⌊x⌋ + 1

/-- `round(x, 2)` -/
def round2 (x : ℚ) : ℚ := roundHalfEven (x * 100) / 100

def throughput (gauge : Option ℚ) (tokens duration : ℚ) : Option ℚ :=
  match gauge with
  | some value => some value
  | none => if 0 < duration then some (round2 (tokens / duration)) else none

def computeMetricsDelta (before after : PrometheusMetricSnapshot) : MetricsDelta :=
  let duration := max (after.timestamp - before.timestamp) 0
  let counterReset := counters.any fun c => getSum after.samples c < getSum before.samples c
  let deltas :=
    counters.map fun c => (c, counterDelta (getSum before.samples c) (getSum after.samples c))
  let get := fun name => (deltas.lookup name).getD 0
  let hits := get hitsTotal
  let queries := get queriesTotal
  let hitRate := if 0 < queries then hits / queries * 100 else 0
  let ttftCount := get "vllm:time_to_first_token_seconds_count"
  let ttftSum := get "vllm:time_to_first_token_seconds_sum"
  let avgTtft := if 0 < ttftCount then some (ttftSum / ttftCount) else none
  let queueCount := get "vllm:request_queue_time_seconds_count"
  let queueSum := get "vllm:request_queue_time_seconds_sum"
  let avgQueue := if 0 < queueCount then some (queueSum / queueCount) else none
  let gpuCacheUsage := (getFirstValue after.samples "vllm:kv_cache_usage_perc").or
    (getFirstValue after.samples "vllm:gpu_cache_usage_factor")
  { durationSeconds := duration
    counterResetDetected := counterReset
    prefixCacheHits := hits
    prefixCacheQueries := queries
    prefixCacheHitRatePct := hitRate
    promptTokens := get "vllm:prompt_tokens_total"
    generationTokens := get "vllm:generation_tokens_total"
    avgTtftSeconds := avgTtft
    avgQueueTimeSeconds := avgQueue
    gpuCacheUsagePost := gpuCacheUsage
    avgPromptThroughput :=
      throughput (getFirstValue after.samples "vllm:avg_prompt_throughput_tok_per_s")
      (get "vllm:prompt_tokens_total") duration
    avgGenerationThroughput :=
      throughput (getFirstValue after.samples "vllm:avg_generation_throughput_tok_per_s")
      (get "vllm:generation_tokens_total") duration
    rawDeltas := deltas }

/-! ### The worker that is scraped -/

structure Exposition where
  samples : List MetricSample
  counted : ∀ c ∈ counters, 0 ≤ getSum samples c
deriving DecidableEq

structure ScrapedWorker where
  began : Exposition
  exposed : Exposition
  restarts : Nat := 0
deriving DecidableEq

inductive WorkerAct where
  | serve (next : Exposition)
  | restart (fresh : Exposition)

namespace ScrapedWorker

def hits (worker : ScrapedWorker) : ℚ := getSum worker.exposed.samples hitsTotal

def queries (worker : ScrapedWorker) : ℚ := getSum worker.exposed.samples queriesTotal

def Balanced (worker : ScrapedWorker) : Prop :=
  worker.hits - getSum worker.began.samples hitsTotal ≤ worker.queries - getSum worker.began.samples
    queriesTotal

instance (worker : ScrapedWorker) : Decidable worker.Balanced := inferInstanceAs (Decidable (_ ≤ _))

def scraped (exposed : Exposition) : ScrapedWorker := { began := exposed, exposed }

def snapshot (worker : ScrapedWorker) (timestamp : ℚ) : PrometheusMetricSnapshot :=
  { timestamp, samples := worker.exposed.samples }

end ScrapedWorker

def workerMachine : Machine ScrapedWorker WorkerAct where
  step worker
    | .serve next =>
        if ∀ c ∈ counters, getSum worker.exposed.samples c ≤ getSum next.samples c then
          some { worker with exposed := next }
        else none
    | .restart fresh =>
        if worker.Balanced ∧ ∀ c ∈ counters, getSum fresh.samples c = 0 then
          some { began := fresh, exposed := fresh, restarts := worker.restarts + 1 }
        else none

end AiAnalytics.Benchmarks
