import AiAnalytics.Lib.PyOps
import AiAnalytics.Lib.Regex
import Mathlib.Algebra.BigOperators.Group.List.Basic

/-!
# Grounding of an answer

The numbers of an answer are looked for in the tool results of its turn, in what is computed from
them, and in the question. Arithmetic is exact: a float is the rational number that it stands for.
-/

namespace AiAnalytics.App.Validation

open Lib

abbrev Evidence := List (String × PyValue ℚ)

section Patterns

variable (classes : CharClasses)

def digit : Regex := .char fun c => (classes.digit c).isSome

def space : Regex := .char isSpace

def literal (text : String) : Regex := .word text.toList

/-- `\d[\d,]*(?:\.\d+)?` -/
def numeralPattern : Regex :=
  .seq (digit classes) (.seq (.star (.char fun c => (classes.digit c).isSome || c = ','))
    (.opt (.seq (.char (· = '.')) (.plus (digit classes)))))

/-- `\s*%|\s*(?:million|thousand|billion|k|m|b)\b` -/
def suffixPattern : Regex :=
  .alt (.seq (.star space) (.char (· = '%')))
    (.seq (.star space)
      (.seq (.anyOf (["million", "thousand", "billion", "k", "m", "b"].map literal))
      (.boundary classes)))

/-- `_NUMBER` -/
def numberPattern : Regex :=
  .seq (.notBehind fun c => classes.word c || c = '.')
    (.seq (.opt (.group "money" (.char (· = '$'))))
      (.seq (.group "num" (numeralPattern classes))
        (.opt (.group "suffix" (suffixPattern classes)))))

/-- `[A-Za-z0-9][A-Za-z0-9_.:-]{2,}` -/
def citedPattern : Regex :=
  .seq (.char fun c => isLatin c || c.isDigit)
    (.seq (.char fun c => isLatin c || c.isDigit || c ∈ ['_', '.', ':', '-'])
      (.plus (.char fun c => isLatin c || c.isDigit || c ∈ ['_', '.', ':', '-'])))

/-- `_QUERY_ID` -/
def queryIdPattern : Regex :=
  .seq (literal "query") (.seq (.opt (.char fun c => isSpace c || c = '_' || c = '-'))
    (.seq (literal "id")
    (.seq (.upTo (.char fun c => !classes.word c) 3) (.group "1" citedPattern))))

def phrases (texts : List Regex) : Regex :=
  .seq (.boundary classes) (.seq (.anyOf texts) (.boundary classes))

def plural (text rest : String) : Regex :=
  .seq (literal text) (.seq (.opt (literal "s")) (literal rest))

/-- `_CAUSAL` -/
def causalPattern : Regex :=
  phrases classes [literal "because", literal "due to", literal "caused by", plural "cause" "",
    literal "as a result of", plural "result" " from", plural "lead" " to", literal "led to",
    literal "driven by",
    literal "thanks to", literal "owing to", literal "attributable to", literal "explained by"]

/-- `_HEDGE` -/
def hedgePattern : Regex :=
  phrases classes [literal "may", literal "might", literal "could", literal "possibly",
    literal "perhaps",
    literal "cannot", literal "can't", literal "can not", literal "unclear", literal "unknown",
    .seq (literal "does not ") (.anyOf (["show", "say", "establish"].map literal)),
    .seq (literal "not ") (.anyOf (["clear", "known"].map literal)), literal "no evidence",
    plural "suggest" ""]

/-- `(?<=[.!?])\s+|\n+` -/
def sentencePattern : Regex :=
  .alt (.seq (.behind (· ∈ ['.', '!', '?'])) (.plus space)) (.plus (.char (· = '\n')))

end Patterns

section Tokens

variable (classes : CharClasses)

structure Token where
  text : List Char
  value : ℚ
  tolerance : ℚ
  percent : Bool
  mustCheck : Bool

def scales : List (List Char × ℚ) :=
  [("k".toList, 1000), ("thousand".toList, 1000), ("m".toList, 1000000),
    ("million".toList, 1000000), ("b".toList, 1000000000), ("billion".toList, 1000000000)]

def digitsValue (text : List Char) : ℕ :=
  text.foldl (fun n c => 10 * n + (classes.digit c).getD 0) 0

def fractionDigits (raw : List Char) : List Char := (raw.dropWhile (· ≠ '.')).drop 1

def readFloat (raw : List Char) : ℚ :=
  digitsValue classes (raw.takeWhile (· ≠ '.') ++ fractionDigits raw) / 10 ^
    (fractionDigits raw).length

def suffixKey (suffix : List Char) : List Char := (strip suffix).flatMap lowerLetter

def suffixScale (suffix : List Char) : ℚ := (scales.lookup (suffixKey suffix)).getD 1

def tokenOf (found : Found) : Token :=
  let raw := found.group "num"
  let base := readFloat classes (raw.filter (· ≠ ','))
  let suffix := found.group "suffix"
  let percent := suffixKey suffix = ['%']
  let scale := suffixScale suffix
  let decimals := (fractionDigits raw).length
  let isYear := 1900 ≤ base ∧ base ≤ 2100 ∧ ',' ∉ raw ∧ decimals = 0
  let smallInt := decimals = 0 ∧ scale = 1 ∧ 0 ≤ base ∧ base ≤ 31
  { text := strip found.text
    value := base * scale
    tolerance := 1 / 2 * (1 / 10 ^ decimals) * scale
    percent
    mustCheck := found.group "money" ≠ [] ∨ percent ∨ ¬ (isYear ∨ smallInt) }

def tokens (text : List Char) : List Token :=
  ((numberPattern classes).finditer text).map (tokenOf classes)

end Tokens

section Candidates

def numericCell : PyValue ℚ → Option ℚ
  | .int n => some n
  | .float x => some x
  | _ => none

def ignoredTopLevel : List String := ["execution_duration_ms", "query_id", "truncated"]

mutual

def numericLeaves : PyValue ℚ → List ℚ
  | .int n => [n]
  | .float x => [x]
  | .dict entries => entryLeaves entries
  | .list items => itemLeaves items
  | _ => []

def itemLeaves : List (PyValue ℚ) → List ℚ
  | [] => []
  | item :: items => numericLeaves item ++ itemLeaves items

def entryLeaves : List (String × PyValue ℚ) → List ℚ
  | [] => []
  | (key, value) :: entries =>
      (if key ∈ ignoredTopLevel then [] else numericLeaves value) ++ entryLeaves entries

end

def maxDerivedRows : ℕ := 20

def derivedRows (evidence : Evidence) : List (List (PyValue ℚ)) :=
  match evidence.lookup "rows" with
  | some (.list rows) => (rows.take maxDerivedRows).filterMap fun
      | .list cells => some cells
      | _ => none
  | _ => []

def derivedPair (a b : ℚ) : List ℚ :=
  [a + b, |a - b|] ++ if b = 0 then [] else [a / b, a / b * 100, (a - b) / b * 100]

def derivedColumn (values : List ℚ) : List ℚ :=
  if values.length < 2 then []
  else
    let total := values.sum
    [total, total / values.length] ++ values.zipIdx.flatMap fun (a, i) =>
      (if total = 0 then [] else [a / total * 100]) ++ values.zipIdx.flatMap fun (b, j) =>
        if i = j then [] else derivedPair a b

def derived (evidence : Evidence) : List ℚ :=
  let rows := derivedRows evidence
  let width := (rows.map List.length).foldl max 0
  (List.range width).flatMap fun col =>
    derivedColumn (rows.filterMap fun cells => cells[col]?.bind numericCell)

end Candidates

section Checks

variable (classes : CharClasses) (evidences : List Evidence) (question answer : List Char)

/-- `direct + derived` -/
def candidates : List ℚ := evidences.flatMap entryLeaves ++ evidences.flatMap derived

def slack : ℚ := 1 / 1000000000

def supported (token : Token) : Bool :=
  let targets := token.value :: if token.percent then [token.value / 100] else []
  targets.any fun target => (candidates evidences).any fun candidate =>
    |target - candidate| ≤ token.tolerance + slack

def asked (token : Token) : Bool :=
  ((tokens classes question).map Token.value).any fun a =>
    |token.value - a| ≤ token.tolerance + slack

def ungrounded (token : Token) : Bool :=
  token.mustCheck && !asked classes question token && !supported evidences token

def withoutCitations : List Char := (queryIdPattern classes).sub (fun _ => [' ']) answer

structure GroundingReport where
  ungroundedNumbers : List ℚ
  ungroundedTokens : List (List Char)
  unknownQueryIds : List (List Char)
  causalClaims : List (List Char)

section Reports

variable (report : GroundingReport)

def GroundingReport.ok : Bool := report.ungroundedNumbers.isEmpty && report.unknownQueryIds.isEmpty

def texts (items : List (List Char)) : List String := items.map String.ofList

def GroundingReport.toMetadata : List (String × PyValue ℚ) :=
  [("ungrounded_numbers", .list (report.ungroundedNumbers.map .float)),
    ("ungrounded_tokens", .list ((texts report.ungroundedTokens).map .str)),
    ("unknown_query_ids", .list ((texts report.unknownQueryIds).map .str)),
    ("causal_claims", .list ((texts report.causalClaims).map .str))]

def GroundingReport.parts : List String :=
  (if report.ungroundedTokens = [] then []
    else ["these figures could not be verified against the governed query " ++
      "result and should not be relied on: " ++ ", ".intercalate (texts report.ungroundedTokens)])
        ++
  (if report.unknownQueryIds = [] then []
    else ["cited query id(s) do not match this run's evidence: " ++
      ", ".intercalate (texts report.unknownQueryIds)]) ++
  if report.causalClaims = [] then []
    else ["causal claims are not established by this dataset and are unverified"]

def GroundingReport.caveat : Option String :=
  if report.parts = [] then none else some ("Note: " ++ "; ".intercalate report.parts ++ ".")

end Reports

def hashable : PyValue ℚ → Bool
  | .list _ | .dict _ => false
  | _ => true

def citedId (found : Found) : List Char :=
  ((found.group "1").reverse.dropWhile (· ∈ ['.', ':', ',', ';', '-'])).reverse

def unknownIds (knownIds : List (PyValue ℚ)) : List (List Char) :=
  (((queryIdPattern classes).finditer answer).map citedId).filter fun cited =>
    !knownIds.any fun id => id.eqStr (String.ofList cited)

def causalClaims : List (List Char) :=
  ((sentencePattern.split answer).filter fun sentence =>
    (causalPattern classes).search sentence && !(hedgePattern classes).search sentence).map
      fun sentence =>
      (strip sentence).take 160

/-- `check_answer_grounding_multi`; `none` is the `TypeError` of an id that cannot be put into a
set. -/
def checkAnswerGroundingMulti : Option GroundingReport :=
  let knownIds := evidences.map fun evidence => (evidence.lookup "query_id").getD .none
  if knownIds.all hashable then
    let reported := (tokens classes (withoutCitations classes answer)).filter
      (ungrounded classes evidences question)
    some
      { ungroundedNumbers := reported.map Token.value
        ungroundedTokens := reported.map Token.text
        unknownQueryIds := unknownIds classes answer knownIds
        causalClaims := causalClaims classes answer }
  else none

def checkAnswerGrounding (num : NumOps ℚ) (evidence : PyValue ℚ) : Option GroundingReport :=
  if evidence.truthy num then
    match evidence with
    | .dict entries => checkAnswerGroundingMulti classes [entries] question answer
    | _ => none
  else checkAnswerGroundingMulti classes [] question answer

end Checks

end AiAnalytics.App.Validation
