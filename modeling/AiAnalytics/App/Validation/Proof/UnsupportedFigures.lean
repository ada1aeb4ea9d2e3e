import AiAnalytics.App.Validation.Proof.GroundedFigures

/-!
# Figures that nothing in the evidence supports

A number that is accepted lies close to a candidate as it is written. A percentage may also be
accepted as a fraction, and there the half unit of its last digit is a hundred times too much.
-/

namespace AiAnalytics.App.Validation

open Lib Lib.Regex

section Accepted

variable {classes : CharClasses} {evidences : List Evidence} {question answer : List Char}
  {found : Found}

def halfUnit (found : Found) : ℚ :=
  1 / 2 * (1 / 10 ^ (fractionDigits (found.group "num")).length) * suffixScale
    (found.group "suffix")

/-- The number lies within half a unit of a candidate, or a percentage within half a unit of its
hundredfold. -/
def NearCandidate (classes : CharClasses) (evidences : List Evidence) (found : Found) : Prop :=
  let token := tokenOf classes found
  ∃ candidate ∈ candidates evidences, |token.value - candidate| ≤ halfUnit found + slack ∨
    token.percent = true ∧ |token.value - 100 * candidate| ≤ halfUnit found + slack

theorem tolerance_tokenOf : (tokenOf classes found).tolerance = halfUnit found := rfl

theorem supported_tokenOf_iff :
    supported evidences (tokenOf classes found) = true ↔
      ∃ candidate ∈ candidates evidences, |(tokenOf classes found).value - candidate| ≤ halfUnit
      found + slack ∨
        (tokenOf classes found).percent = true ∧
          |(tokenOf classes found).value / 100 - candidate| ≤ halfUnit found + slack := by
  simp only [supported, List.any_eq_true, tolerance_tokenOf]
  constructor
  · rintro ⟨target, htarget, candidate, hcandidate, hnear⟩
    have hnear := of_decide_eq_true hnear
    refine ⟨candidate, hcandidate, ?_⟩
    rcases List.mem_cons.mp htarget with rfl | htarget
    · exact .inl hnear
    · split at htarget
      case isTrue hpercent =>
        obtain rfl := List.mem_singleton.mp htarget
        exact .inr ⟨hpercent, hnear⟩
      case isFalse => cases htarget
  · rintro ⟨candidate, hcandidate, hnear | ⟨hpercent, hnear⟩⟩
    · exact ⟨_, List.mem_cons_self, candidate, hcandidate, decide_eq_true hnear⟩
    · refine ⟨(tokenOf classes found).value / 100, List.mem_cons_of_mem _ ?_, candidate, hcandidate,
        decide_eq_true hnear⟩
      rw [if_pos hpercent]
      exact List.mem_singleton_self _

theorem mustCheck_of_percent (h : (tokenOf classes found).percent = true) :
    (tokenOf classes found).mustCheck = true := by
  have hpercent : suffixKey (found.group "suffix") = ['%'] := of_decide_eq_true h
  simp [tokenOf, hpercent]

def answerNumbers (classes : CharClasses) (answer : List Char) : List Found :=
  (numberPattern classes).finditer (withoutCitations classes answer)

/-- **Figures that the evidence does not support.** What is checked, not asked for and not reported
lies near a candidate, exactly if every percentage that is accepted as a fraction does so too. -/
theorem unreported_near_iff :
    (∀ found ∈ answerNumbers classes answer, (tokenOf classes found).mustCheck = true →
        asked classes question (tokenOf classes found) = false →
          ungrounded classes evidences question (tokenOf classes found) = false →
            NearCandidate classes evidences found) ↔
      ∀ found ∈ answerNumbers classes answer, (tokenOf classes found).percent = true →
        asked classes question (tokenOf classes found) = false →
          (∃ candidate ∈ candidates evidences,
            |(tokenOf classes found).value / 100 - candidate| ≤ halfUnit found + slack) →
              NearCandidate classes evidences found := by
  constructor
  · intro hnear found hmem hpercent hasked hfraction
    obtain ⟨candidate, hcandidate, hclose⟩ := hfraction
    have hsupported : supported evidences (tokenOf classes found) = true :=
      supported_tokenOf_iff.mpr ⟨candidate, hcandidate, .inr ⟨hpercent, hclose⟩⟩
    exact hnear found hmem (mustCheck_of_percent hpercent) hasked
      (ungrounded_eq_false_iff.mpr (.inr (.inr hsupported)))
  · intro hpercentages found hmem hcheck hasked hunreported
    have hsupported : supported evidences (tokenOf classes found) = true := by
      simpa [hcheck, hasked] using ungrounded_eq_false_iff.mp hunreported
    obtain ⟨candidate, hcandidate, hclose | ⟨hpercent, hclose⟩⟩ :=
      supported_tokenOf_iff.mp hsupported
    · exact ⟨candidate, hcandidate, .inl hclose⟩
    · exact hpercentages found hmem hpercent hasked ⟨candidate, hcandidate, hclose⟩

def shareEvidence : List Evidence := [[("rows", .list [.list [.str "JFK", .float (1 / 10)]])]]

/-- Half a percent is half of everything for a fraction. -/
theorem far_percentage_accepted :
    ¬ ∀ (evidences : List Evidence) (question answer : List Char),
      ∀ found ∈ answerNumbers asciiClasses answer,
      (tokenOf asciiClasses found).mustCheck = true →
      asked asciiClasses question (tokenOf asciiClasses found) = false →
        ungrounded asciiClasses evidences question (tokenOf asciiClasses found) = false →
          NearCandidate asciiClasses evidences found := by
  intro hclaim
  have hnumbers : answerNumbers asciiClasses "Share: 50% now".toList =
      [⟨['5', '0', '%'], [("num", ['5', '0']), ("suffix", ['%'])]⟩] := by decide
  have hcandidates : candidates shareEvidence = [1 / 10] := by decide +kernel
  obtain ⟨candidate, hcandidate, hnear⟩ := hclaim shareEvidence [] "Share: 50% now".toList
    ⟨['5', '0', '%'], [("num", ['5', '0']), ("suffix", ['%'])]⟩
      (by rw [hnumbers]; exact List.mem_singleton_self _)
    (by decide +kernel) (by decide +kernel) (by decide +kernel)
  rw [hcandidates, List.mem_singleton] at hcandidate
  subst hcandidate
  revert hnear
  decide +kernel

end Accepted

end AiAnalytics.App.Validation
