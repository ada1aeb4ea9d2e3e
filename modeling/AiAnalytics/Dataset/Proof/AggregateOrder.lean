import AiAnalytics.App.Validation.Proof.FieldChecks
import AiAnalytics.Dataset.Proof.AcceptedSpecs
import AiAnalytics.Lib.OrderBy

/-!
# The order of aggregate results

The order clause names every output column once, the requested key first. Groups differ in their
dimensions, so that no two of them agree in every key: what `LIMIT` cuts off does not depend on the
order they are found in. -/

namespace AiAnalytics.Dataset

open Lib

variable {Float : Type} {lib : PyLibrary Float} {spec : AggregateQuerySpec Float}

section Terms

def orderTerms (orderBy : Option OrderSpec) (outputKeys : List String) : List OrderTerm :=
  match orderBy with
  | some order =>
      ⟨order.key, order.direction = "desc"⟩ ::
        (outputKeys.filter (· ≠ order.key)).map fun key => ⟨key, false⟩
  | none => outputKeys.map fun key => ⟨key, false⟩

def termSql (term : OrderTerm) : String :=
  quoted term.key ++ if term.descending then " DESC" else " ASC"

variable {orderBy : Option OrderSpec} {keys : List String}

theorem map_termSql_ascending (keys : List String) :
    (keys.map fun key => (⟨key, false⟩ : OrderTerm)).map termSql = keys.map fun key =>
      quoted key ++ " ASC" := by
  rw [List.map_map]
  rfl

theorem orderClause_eq (hkeys : keys ≠ []) :
    orderClause orderBy keys = "ORDER BY " ++ ", ".intercalate
      ((orderTerms orderBy keys).map termSql) := by
  cases orderBy with
  | none =>
      simp only [orderClause, orderTerms, map_termSql_ascending]
      rw [if_neg]
      simpa using hkeys
  | some order =>
      simp only [orderClause, orderTerms, List.map_cons, map_termSql_ascending]
      rw [if_neg (by simp), termSql]
      by_cases hdirection : order.direction = "desc" <;> simp [hdirection]

theorem key_orderTerms (hnodup : keys.Nodup)
    (horder : ∀ order, orderBy = some order → order.key ∈ keys) :
    ((orderTerms orderBy keys).map OrderTerm.key).Perm keys := by
  have hascending (keys : List String) :
      (keys.map fun key => (⟨key, false⟩ : OrderTerm)).map OrderTerm.key = keys := by
    rw [List.map_map]
    exact List.map_id' keys
  cases orderBy with
  | none =>
      rw [orderTerms, hascending]
  | some order =>
      rw [orderTerms, List.map_cons, hascending]
      have herase : keys.filter (· ≠ order.key) = keys.erase order.key := by
        rw [hnodup.erase_eq_filter]
        refine List.filter_congr fun key _ => ?_
        by_cases heq : key = order.key <;> simp [heq]
      rw [herase]
      exact (List.perm_cons_erase (horder order rfl)).symm

end Terms

section Columns

theorem dimensionValue_injective : Function.Injective DimensionName.value := by
  intro first second h
  cases first <;> cases second <;> first | rfl | exact absurd h (by decide)

theorem measureValue_injective : Function.Injective MeasureName.value := by
  intro first second h
  cases first <;> cases second <;> first | rfl | exact absurd h (by decide)

theorem dimensionValue_ne_measureValue (dimension : DimensionName) (measure : MeasureName) :
    dimension.value ≠ measure.value := by
  cases dimension <;> cases measure <;> decide

theorem nodup_aggregateColumns (hdimensions : spec.dimensions.Nodup)
    (hmeasures : spec.measures.Nodup) : (aggregateColumns spec).Nodup := by
  refine (hdimensions.map dimensionValue_injective).append (hmeasures.map measureValue_injective) ?_
  intro name hdimension hmeasure
  obtain ⟨dimension, -, rfl⟩ := List.mem_map.mp hdimension
  obtain ⟨measure, -, heq⟩ := List.mem_map.mp hmeasure
  exact dimensionValue_ne_measureValue dimension measure heq.symm

end Columns

section Queries

def aggregateOrder (spec : AggregateQuerySpec Float) : List OrderTerm :=
  orderTerms spec.orderBy (aggregateColumns spec)

theorem aggregate_sql_ends (hmeasures : spec.measures ≠ []) :
    ∃ head, (compileAggregateQuery spec).sql =
      head ++ " ORDER BY " ++ ", ".intercalate ((aggregateOrder spec).map termSql) ++
      " LIMIT ?" := by
  have hcolumns : aggregateColumns spec ≠ [] := by
    simp [aggregateColumns, hmeasures]
  set order := orderClause spec.orderBy (aggregateColumns spec) with horder
  have hclause : order = "ORDER BY " ++ ", ".intercalate ((aggregateOrder spec).map termSql) :=
    orderClause_eq hcolumns
  have hnonempty : order ≠ "" := by
    rw [hclause]
    simp
  set front := ["SELECT " ++ ", ".intercalate
      (spec.dimensions.map selectDimension ++ spec.measures.map selectMeasure),
    fromClause (requiresZoneJoin spec.dimensions spec.filters),
    whereSql (compileFilters spec.filters).clauses,
    groupSql spec.dimensions.length].filter (· ≠ "") with hfront
  have hselected : front ≠ [] := by
    rw [hfront, List.filter_cons_of_pos (by simp)]
    exact List.cons_ne_nil _ _
  have hkept : [order, "LIMIT ?"].filter (· ≠ "") = [order, "LIMIT ?"] := by
    simp [hnonempty]
  have horderBy : " ORDER BY " = " " ++ "ORDER BY " := rfl
  have hlimit : " LIMIT ?" = " " ++ "LIMIT ?" := rfl
  refine ⟨" ".intercalate front, ?_⟩
  calc
    (compileAggregateQuery spec).sql = " ".intercalate (front ++ [order, "LIMIT ?"]) := by
      rw [← hkept, hfront, ← List.filter_append]
      rfl
    _ = " ".intercalate front ++ " " ++ " ".intercalate [order, "LIMIT ?"] :=
      String.intercalate_append_of_ne_nil hselected (List.cons_ne_nil _ _)
    _ = " ".intercalate front ++ " ORDER BY " ++ ", ".intercalate
        ((aggregateOrder spec).map termSql) ++ " LIMIT ?" := by
      rw [String.intercalate_cons_cons, String.intercalate_singleton, hclause, horderBy, hlimit]
      simp only [String.append_assoc]

structure TotalOrder (spec : AggregateQuerySpec Float) (terms : List OrderTerm) : Prop where
  written : ∃ head, (compileAggregateQuery spec).sql =
    head ++ " ORDER BY " ++ ", ".intercalate (terms.map termSql) ++ " LIMIT ?"
  /-- Every output column once. -/
  columns : (terms.map OrderTerm.key).Perm (compileAggregateQuery spec).outputColumns
  requested : ∀ order, spec.orderBy = some order →
    terms.head? = some ⟨order.key, order.direction = "desc"⟩
  /-- Groups that differ in a dimension have one answer, whatever order they are found in. -/
  answer : ∀ {Cell : Type} (order : CellOrder Cell) (groups : List (Row Cell)),
    (groups.Pairwise fun a b =>
        ∃ dimension ∈ spec.dimensions, ¬ order.Same (a dimension.value) (b dimension.value)) →
      ∀ limit, ∃ rows, ∀ groups', groups'.Perm groups →
        ∀ answer, Answers order terms limit groups' answer ↔ answer = rows

/-- Every accepted specification compiles to a query whose order leaves nothing to chance. -/
theorem aggregate_order_total {dimensions measures filters orderBy limit : PyValue Float}
    (h : buildAggregateSpec lib dimensions measures filters orderBy limit = .ok spec) :
    TotalOrder spec (aggregateOrder spec) := by
  obtain ⟨hdimensions, hmeasures⟩ := nodup_of_buildAggregateSpec h
  have hnodup := nodup_aggregateColumns hdimensions hmeasures
  have hkeys : ((aggregateOrder spec).map OrderTerm.key).Perm (aggregateColumns spec) :=
    key_orderTerms hnodup (order_of_buildAggregateSpec h)
  refine ⟨aggregate_sql_ends (columns_of_buildAggregateSpec h).1, hkeys, fun order horder => ?_,
    fun order groups hgroups limit => ?_⟩
  · rw [aggregateOrder, horder]
    rfl
  · refine answers_unique (hgroups.imp fun ⟨dimension, hmem, hsame⟩ => ?_) limit
    have hcolumn : dimension.value ∈ aggregateColumns spec :=
      List.mem_append_left _ (List.mem_map_of_mem hmem)
    obtain ⟨term, hterm, hkey⟩ := List.mem_map.mp (hkeys.symm.subset hcolumn)
    exact ⟨term, hterm, hkey ▸ hsame⟩

def numberOrder : CellOrder Nat where
  le descending a b := if descending then b ≤ a else a ≤ b
  total descending a b := by cases descending <;> simp [Nat.le_total]
  trans descending a b c := by
    cases descending with
    | false => exact Nat.le_trans
    | true => exact fun hab hbc => Nat.le_trans hbc hab
  same_up_down a b := by simp [and_comm]

def busiestZones : AggregateQuerySpec Int :=
  { dimensions := [.pickupZone], measures := [.tripCount], filters := {}
    orderBy := some ⟨"trip_count", "desc"⟩, limit := 1 }

def zoneGroup (zone trips : Nat) : Row Nat :=
  fun column => if column = "pickup_zone" then zone else trips

theorem aggregate_order_total_busiest :
    TotalOrder busiestZones [⟨"trip_count", true⟩, ⟨"pickup_zone", false⟩] ∧
      ∃ rows, ∀ groups, groups.Perm [zoneGroup 1 7, zoneGroup 2 7] →
        ∀ answer, Answers numberOrder [⟨"trip_count", true⟩, ⟨"pickup_zone", false⟩] 1 groups
        answer ↔
          answer = rows := by
  have hspec : buildAggregateSpec App.Validation.sampleLibrary (.list [.str "pickup_zone"])
      (.list [.str "trip_count"]) .none
        (.dict [("key", .str "trip_count"), ("direction", .str "desc")]) (.int 1) =
        .ok busiestZones := by rfl
  have htotal : TotalOrder busiestZones [⟨"trip_count", true⟩, ⟨"pickup_zone", false⟩] :=
    aggregate_order_total hspec
  refine ⟨htotal, htotal.answer numberOrder _ ?_ 1⟩
  rw [List.pairwise_pair]
  exact ⟨.pickupZone, List.mem_cons_self, by
    simp [CellOrder.Same, numberOrder, zoneGroup, DimensionName.value]⟩

end Queries

end AiAnalytics.Dataset
