import AiAnalytics.Dataset.QueryCompiler
import AiAnalytics.Lib.Accepts

/-!
# What the validators accept

The bounds that hold of every accepted list of names, limit, order and specification.
-/

namespace AiAnalytics.Dataset

open Lib

variable {Float α : Type} {lib : PyLibrary Float}

theorem names_of_validateNames [DecidableEq α] {validate : PyValue Float → Checked α}
    {code kind : String} {payload : PyValue Float} {names : List α}
    (h : validateNames validate code kind payload = .ok names) :
    names ≠ [] ∧ names.length ≤ maxListLength ∧ names.Nodup := by
  unfold validateNames at h
  split at h
  case h_1 values =>
    by_cases hempty : values = []
    · rw [if_pos hempty] at h
      cases h
    · rw [if_neg hempty] at h
      by_cases hlong : values.length > maxListLength
      · rw [if_pos hlong] at h
        cases h
      · rw [if_neg hlong, bind_eq_ok_iff] at h
        obtain ⟨names', hnames, h⟩ := h
        have hlength := (forall₂_of_mapM_eq_ok hnames).length_eq
        by_cases hnodup : names'.Nodup
        · rw [if_pos hnodup] at h
          cases h
          refine ⟨?_, by omega, hnodup⟩
          rintro rfl
          exact hempty (List.eq_nil_of_length_eq_zero hlength)
        · rw [if_neg hnodup] at h
          cases h
  case h_2 => cases h

theorem limit_of_validateLimit {payload : PyValue Float} {limit : Int}
    (h : validateLimit payload = .ok limit) : 1 ≤ limit ∧ limit ≤ maxRows := by
  unfold validateLimit at h
  split at h
  case h_1 value =>
    by_cases hrange : 1 ≤ value ∧ value ≤ maxRows
    · rw [if_pos hrange] at h
      cases h
      exact hrange
    · rw [if_neg hrange] at h
      cases h
  case h_2 => cases h

theorem key_of_validateOrderBy {keys : List String} {payload : PyValue Float} {order : OrderSpec}
    (h : validateOrderBy lib keys payload = .ok (some order)) : order.key ∈ keys := by
  unfold validateOrderBy at h
  split at h
  case h_1 => cases h
  case h_2 entries =>
    split at h
    · cases h
    · split at h
      · split at h
        · cases h
        · next hkey =>
            split at h
            · split at h
              · cases h
                simpa using hkey
              · cases h
            · cases h
      · cases h
  case h_3 => cases h

theorem order_of_buildAggregateSpec {dimensions measures filters orderBy limit : PyValue Float}
    {spec : AggregateQuerySpec Float}
    (h : buildAggregateSpec lib dimensions measures filters orderBy limit = .ok spec) :
    ∀ order, spec.orderBy = some order → order.key ∈ aggregateColumns spec := by
  intro order horder
  simp only [buildAggregateSpec, bind_eq_ok_iff] at h
  obtain ⟨_, _, _, _, _, _, _, _, _, hvalid, _, _, hspec⟩ := h
  cases hspec
  cases horder
  exact key_of_validateOrderBy hvalid

theorem nodup_of_buildAggregateSpec {dimensions measures filters orderBy limit : PyValue Float}
    {spec : AggregateQuerySpec Float}
    (h : buildAggregateSpec lib dimensions measures filters orderBy limit = .ok spec) :
    spec.dimensions.Nodup ∧ spec.measures.Nodup := by
  simp only [buildAggregateSpec, bind_eq_ok_iff] at h
  obtain ⟨_, hdimensions, _, hmeasures, _, _, _, _, _, _, _, _, hspec⟩ := h
  cases hspec
  exact ⟨(names_of_validateNames hdimensions).2.2, (names_of_validateNames hmeasures).2.2⟩

theorem columns_of_buildAggregateSpec {dimensions measures filters orderBy limit : PyValue Float}
    {spec : AggregateQuerySpec Float}
    (h : buildAggregateSpec lib dimensions measures filters orderBy limit = .ok spec) :
    spec.measures ≠ [] ∧ spec.dimensions.length ≤ maxListLength ∧
      spec.measures.length ≤ maxListLength ∧
      spec.dimensions.length + spec.measures.length ≤ maxColumns ∧
      1 ≤ spec.limit ∧ spec.limit ≤ maxRows := by
  simp only [buildAggregateSpec, bind_eq_ok_iff] at h
  obtain ⟨_, hdimensions, _, hmeasures, _, hbudget, _, _, _, _, _, hlimit, hspec⟩ := h
  cases hspec
  obtain ⟨-, hdimensionsLe, -⟩ := names_of_validateNames hdimensions
  obtain ⟨hne, hmeasuresLe, -⟩ := names_of_validateNames hmeasures
  refine ⟨hne, hdimensionsLe, hmeasuresLe, ?_, limit_of_validateLimit hlimit⟩
  by_contra hwide
  rw [validateColumnBudget, if_pos (Nat.not_le.mp hwide)] at hbudget
  cases hbudget

end AiAnalytics.Dataset
