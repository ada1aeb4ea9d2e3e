import AiAnalytics.App.Validation.Proof.FieldChecks
import AiAnalytics.Dataset.Proof.Envelopes
import AiAnalytics.Lib.JsonSize
import Mathlib.Order.Bounds.Basic

/-!
# What an envelope says about itself

Rows leave an envelope twice: when the query has run, and again when a tool has added its own
fields. The second cut starts from what the first one left, and still ends at the longest prefix of
what was fetched. -/

namespace AiAnalytics.Dataset

open Lib

variable {Float : Type} {lib : PyLibrary Float} {db : Database Float} {query : CompiledQuery Float}
  {envelope result : Envelope Float} {fetched : Fetched Float} {maxBytes : Nat}
  {extra : List (String × PyValue Float)}

section Cuts

theorem fitLoop_cases (maxBytes : Nat) {count : Nat} (hcount : count ≤ envelope.rows.length)
    (h : ∀ kept ≤ count, Encodable lib true (.dict (envelope.firstRows kept).payload)) :
    (∃ result, fitLoop lib maxBytes count (envelope.firstRows count) = .ok result) ∨
      fitLoop lib maxBytes count (envelope.firstRows count) = .error (.py .valueError) ∧
        ∀ kept ≤ count, ¬ Fits lib maxBytes (envelope.firstRows kept) := by
  induction count with
  | zero =>
      obtain ⟨size, hsize⟩ := h 0 le_rfl
      by_cases hfits : size ≤ maxBytes
      · exact .inl ⟨_, by rw [fitLoop, hsize]; exact if_pos hfits⟩
      · refine .inr ⟨by rw [fitLoop, hsize]; exact if_neg hfits, ?_⟩
        rintro kept hkept ⟨size', hsize', hle⟩
        obtain rfl : kept = 0 := by omega
        rw [hsize, Option.some.injEq] at hsize'
        omega
  | succ count ih =>
      obtain ⟨size, hsize⟩ := h (count + 1) le_rfl
      by_cases hfits : size ≤ maxBytes
      · exact .inl ⟨_, by rw [fitLoop, hsize]; exact if_pos hfits⟩
      · have hstep : fitLoop lib maxBytes (count + 1) (envelope.firstRows (count + 1)) =
            fitLoop lib maxBytes count (envelope.firstRows count) := by
          rw [fitLoop, hsize, ← Envelope.popRow_firstRows hcount]
          exact if_neg hfits
        rw [hstep]
        rcases ih (by omega) fun kept hkept => h kept (by omega) with hok | ⟨herror, hnone⟩
        · exact .inl hok
        · refine .inr ⟨herror, fun kept hkept => ?_⟩
          rcases Nat.lt_or_eq_of_le hkept with hlt | rfl
          · exact hnone kept (by omega)
          · rintro ⟨size', hsize', hle⟩
            rw [hsize, Option.some.injEq] at hsize'
            omega

theorem fitRows_cases (maxBytes : Nat)
    (h : ∀ kept ≤ envelope.rows.length,
      Encodable lib true (.dict (envelope.firstRows kept).payload)) :
    (∃ result, fitRows lib maxBytes envelope = .ok result) ∨
      fitRows lib maxBytes envelope = .error (.py .valueError) ∧
        ∀ kept ≤ envelope.rows.length, ¬ Fits lib maxBytes (envelope.firstRows kept) := by
  have hcases := fitLoop_cases maxBytes le_rfl h
  rwa [Envelope.firstRows_length] at hcases

end Cuts

section Prefixes

def prefixEnvelope (fetched : Fetched Float) (durationMs : Nat) (queryId : String)
    (extra : List (String × PyValue Float)) (count : Nat) : Envelope Float :=
  { columns := fetched.columns, rows := fetched.rows.take count, rowCount := count
    executionDurationMs := durationMs, queryId, truncated := count < fetched.rows.length, extra }

variable {durationMs count kept limit : Nat} {id : String}

theorem firstRows_prefixEnvelope (h : kept ≤ count) (hcount : count ≤ fetched.rows.length) :
    (prefixEnvelope fetched durationMs id extra count).firstRows kept =
      prefixEnvelope fetched durationMs id extra kept := by
  have hlength : (fetched.rows.take count).length = count := by
    rw [List.length_take]
    omega
  rw [Envelope.firstRows]
  simp only [prefixEnvelope, hlength]
  by_cases hall : kept = count
  · rw [if_pos hall, hall]
  · have hfewer : kept < fetched.rows.length := by omega
    rw [if_neg hall, List.take_take, min_eq_left h, decide_eq_true hfewer]

theorem fits_of_extra (h : Fits lib maxBytes (prefixEnvelope fetched durationMs id extra count)) :
    Fits lib maxBytes (prefixEnvelope fetched durationMs id [] count) := by
  obtain ⟨size, hsize, hle⟩ := h
  obtain ⟨size', hsize', hle'⟩ := jsonSize_dict_prefix hsize
  refine ⟨size', ?_, hle'.trans hle⟩
  rw [Envelope.payload]
  exact (congrArg (jsonSize lib true ∘ .dict) (List.append_nil _)).trans hsize'

theorem fits_zero (h : Fits lib maxBytes (prefixEnvelope fetched durationMs id extra count))
    (hcount : count ≤ fetched.rows.length) :
    Fits lib maxBytes (prefixEnvelope fetched durationMs id extra 0) := by
  obtain ⟨size', hsize', hle'⟩ := h
  have hsmaller : NoLarger lib true (.dict (prefixEnvelope fetched durationMs id extra 0).payload)
      (.dict (prefixEnvelope fetched durationMs id extra count).payload) := by
    refine noLarger_dict (List.rel_append ?_ (List.forall₂_same.mpr fun entry _ =>
      ⟨rfl, noLarger_refl _⟩))
    have hflag : NoLarger lib true (.bool (decide (0 < fetched.rows.length)))
        (.bool (decide (count < fetched.rows.length))) := by
      by_cases hnone : fetched.rows.length = 0
      · obtain rfl : count = 0 := by omega
        exact noLarger_refl _
      · rw [decide_eq_true (Nat.pos_of_ne_zero hnone)]
        exact noLarger_true _
    exact .cons ⟨rfl, noLarger_refl _⟩ <| .cons ⟨rfl, noLarger_nil _⟩ <|
      .cons ⟨rfl, noLarger_zero count⟩ <|
      .cons ⟨rfl, noLarger_refl _⟩ <| .cons ⟨rfl, noLarger_refl _⟩ <| .cons ⟨rfl, hflag⟩ .nil
  obtain ⟨size, hle, hsize⟩ := hsmaller size' hsize'
  exact ⟨size, hsize, hle.trans hle'⟩

theorem encodable_prefixEnvelope (hextra : ∀ entry ∈ extra, Encodable lib true entry.2)
    (hrows : ∀ row ∈ fetched.rows.take count, ∀ cell ∈ row, Encodable lib true cell) :
    Encodable lib true (.dict (prefixEnvelope fetched durationMs id extra count).payload) := by
  refine encodable_dict ?_
  rw [Envelope.payload]
  refine List.forall_mem_append.mpr ⟨?_, hextra⟩
  have hcolumns : Encodable lib true (.list (fetched.columns.map .str)) := by
    refine encodable_list (List.forall_mem_map.mpr ?_)
    exact fun text _ => encodable_str text
  have hlists : Encodable lib true (.list ((fetched.rows.take count).map .list)) := by
    refine encodable_list (List.forall_mem_map.mpr ?_)
    exact fun row hrow => encodable_list (hrows row hrow)
  simp only [Envelope.base, prefixEnvelope, List.forall_mem_cons]
  exact ⟨hcolumns, hlists, encodable_int _, encodable_int _, encodable_str _, encodable_bool _,
    nofun⟩

def leastEnvelope (queryId : String) : Envelope Float :=
  { columns := [], rows := [], rowCount := 0, executionDurationMs := 0, queryId, truncated := true }

theorem size_leastEnvelope (id : String) :
    jsonSize lib true (.dict (leastEnvelope id).payload) = some (93 + (jsonText id).length) := by
  have hzero : (toString (0 : Int)).length = 1 := rfl
  have hkeys : (jsonText "columns").length = 9 ∧ (jsonText "rows").length = 6 ∧
      (jsonText "row_count").length = 11 ∧ (jsonText "execution_duration_ms").length = 23 ∧
      (jsonText "query_id").length = 10 ∧ (jsonText "truncated").length = 11 := by decide
  obtain ⟨hcolumns, hrows, hcount, hduration, hid, htruncated⟩ := hkeys
  simp only [leastEnvelope, Envelope.payload, Envelope.base, List.append_nil, List.map_nil,
    jsonSize,
    entriesSize_cons, entriesSize, itemsSize, hcolumns, hrows, hcount, hduration, hid, htruncated,
    Int.natCast_zero, hzero]
  refine congrArg some ?_
  simp only [jsonFrame, List.length_cons, List.length_nil, if_true]
  omega

theorem le_of_fits_queryId {uuid : UuidHex}
    (h : Fits lib maxBytes (prefixEnvelope fetched durationMs (queryId uuid) extra 0)) :
    128 ≤ maxBytes := by
  obtain ⟨size', hsize', hle'⟩ := fits_of_extra h
  have hleast : NoLarger lib true (.dict (leastEnvelope (queryId uuid)).payload)
      (.dict (prefixEnvelope fetched durationMs (queryId uuid) [] 0).payload) :=
    noLarger_dict <| .cons ⟨rfl, noLarger_nil _⟩ <| .cons ⟨rfl, noLarger_refl _⟩ <|
      .cons ⟨rfl, noLarger_refl _⟩ <| .cons ⟨rfl, noLarger_zero durationMs⟩ <|
      .cons ⟨rfl, noLarger_refl _⟩ <| .cons ⟨rfl, noLarger_true _⟩ .nil
  obtain ⟨size, hle, hsize⟩ := hleast size' hsize'
  rw [size_leastEnvelope, Option.some.injEq] at hsize
  have hid := length_le_jsonText (queryId uuid)
  rw [length_queryId] at hid
  omega

theorem cut_once (hextra : ∀ entry ∈ extra, Encodable lib true entry.2)
    (hrows : ∀ row ∈ fetched.rows.take limit, ∀ cell ∈ row, Encodable lib true cell)
    (hlimit : limit ≤ fetched.rows.length) (maxBytes : Nat) :
    (∃ kept, IsGreatest {count | count ≤ limit ∧
          Fits lib maxBytes (prefixEnvelope fetched durationMs id extra count)} kept ∧
        fitRows lib maxBytes (prefixEnvelope fetched durationMs id extra limit) =
          .ok (prefixEnvelope fetched durationMs id extra kept)) ∨
      fitRows lib maxBytes (prefixEnvelope fetched durationMs id extra limit) = .error
      (.py .valueError) ∧
        ¬ Fits lib maxBytes (prefixEnvelope fetched durationMs id extra 0) := by
  have hlength : (prefixEnvelope fetched durationMs id extra limit).rows.length = limit :=
    List.length_take_of_le hlimit
  have hcut {kept : Nat} (hkept : kept ≤ limit) :
      (prefixEnvelope fetched durationMs id extra limit).firstRows kept =
        prefixEnvelope fetched durationMs id extra kept := firstRows_prefixEnvelope hkept hlimit
  have hencodable : ∀ kept ≤ (prefixEnvelope fetched durationMs id extra limit).rows.length,
      Encodable lib true (.dict ((prefixEnvelope fetched durationMs id extra limit).firstRows
        kept).payload) := by
    intro kept hkept
    rw [hlength] at hkept
    rw [hcut hkept]
    exact encodable_prefixEnvelope hextra fun row hrow =>
      hrows row (List.take_subset_take_left _ hkept hrow)
  rcases fitRows_cases maxBytes hencodable with ⟨result, hok⟩ | ⟨herror, hnone⟩
  · obtain ⟨kept, hkept, rfl, hfits, hmore⟩ := fitRows_spec hok
    rw [hlength] at hkept
    rw [hcut hkept] at hok hfits
    refine .inl ⟨kept, ⟨⟨hkept, hfits⟩, ?_⟩, hok⟩
    rintro count ⟨hcount, hfits'⟩
    by_contra hless
    refine absurd ((hmore kept).mp ⟨count, ?_, by omega, ?_⟩) (lt_irrefl kept)
    · rwa [hlength]
    · rwa [hcut hcount]
  · have hzero := hnone 0 (Nat.zero_le _)
    rw [hcut (Nat.zero_le _)] at hzero
    exact .inr ⟨herror, hzero⟩

theorem cut_twice (hextra : ∀ entry ∈ extra, Encodable lib true entry.2)
    (hrows : ∀ row ∈ fetched.rows.take limit, ∀ cell ∈ row, Encodable lib true cell)
    (hlimit : limit ≤ fetched.rows.length) {outcome : Governed (Envelope Float)}
    (houtcome : outcome = fitRows lib maxBytes (prefixEnvelope fetched durationMs id [] limit) >>=
      fun result => augmentEnvelope lib result maxBytes extra) :
    (∃ kept, IsGreatest {count | count ≤ limit ∧
          Fits lib maxBytes (prefixEnvelope fetched durationMs id extra count)} kept ∧
        outcome = .ok (prefixEnvelope fetched durationMs id extra kept)) ∨
      outcome = .error (.py .valueError) ∧
        ¬ Fits lib maxBytes (prefixEnvelope fetched durationMs id extra 0) := by
  have hplain : ∀ entry ∈ ([] : List (String × PyValue Float)), Encodable lib true entry.2 := nofun
  rcases cut_once hplain hrows hlimit maxBytes with ⟨first, ⟨⟨hfirst, _⟩, hgreatest⟩, hok⟩
    | ⟨herror, hnone⟩
  · rw [hok] at houtcome
    have hrows' : ∀ row ∈ fetched.rows.take first, ∀ cell ∈ row, Encodable lib true cell :=
      fun row hrow => hrows row (List.take_subset_take_left _ hfirst hrow)
    rcases cut_once hextra hrows' (hfirst.trans hlimit) maxBytes with
      ⟨kept, ⟨⟨hkept, hfits⟩, hmost⟩, hok'⟩ | herror
    · refine .inl ⟨kept, ⟨⟨hkept.trans hfirst, hfits⟩, ?_⟩, houtcome.trans hok'⟩
      -- what fits with the fields also fits without them, and the first cut has kept it
      rintro count ⟨hcount, hfits'⟩
      exact hmost ⟨hgreatest ⟨hcount, fits_of_extra hfits'⟩, hfits'⟩
    · exact .inr ⟨houtcome.trans herror.1, herror.2⟩
  · rw [herror] at houtcome
    exact .inr ⟨houtcome, fun hfits => hnone (fits_of_extra hfits)⟩

end Prefixes

section Outcomes

/-- What comes of a query: the longest prefix that fits and its honest envelope, or an error where
not even the envelope without rows fits. -/
structure HonestOutcome (lib : PyLibrary Float) (maxBytes : Nat) (queryIdFactory : Option String)
    (fetched : Fetched Float) (limit : Nat) (envelopeOf : Nat → Envelope Float)
    (outcome : Governed (Envelope Float)) : Prop where
  answered : (∃ result, outcome = .ok result) ∨ outcome = .error (.py .valueError)
  fits : ∀ result, outcome = .ok result → Fits lib maxBytes result
  rowCount : ∀ result, outcome = .ok result → result.rowCount = result.rows.length
  truncated : ∀ result, outcome = .ok result →
    (result.truncated = true ↔ result.rows.length < fetched.rows.length)
  longest : ∀ result, outcome = .ok result → ∃ kept, result = envelopeOf kept ∧
    result.rows = fetched.rows.take kept ∧
      IsGreatest
        {count | count ≤ limit ∧ count ≤ fetched.rows.length ∧ Fits lib maxBytes (envelopeOf count)}
          kept
  error_iff : outcome = .error (.py .valueError) ↔
    queryIdFactory ≠ none ∧ maxBytes < 128 ∨ ¬ Fits lib maxBytes (envelopeOf 0)

theorem runIdentifiedQuery_eq (hfetched : db.execute query = .ok fetched)
    (hsmall : ¬ maxBytes < 128) (lib : PyLibrary Float) (limit : Nat)
    (queryIdFactory : Option String) :
    runIdentifiedQuery lib db query limit maxBytes queryIdFactory =
      fitRows lib maxBytes (prefixEnvelope fetched (db.durationMs query)
        (queryIdFactory.getD (queryId (db.uuid query))) [] (min limit fetched.rows.length)) := by
  have hslice : slicePrefix fetched.rows limit =
      fetched.rows.take (min limit fetched.rows.length) := by
    rw [slicePrefix, if_pos (Int.natCast_nonneg _), Int.toNat_natCast, ← List.take_eq_take_min]
  have hflag : decide ((fetched.rows.length : Int) > limit) =
      decide (min limit fetched.rows.length < fetched.rows.length) := by
    rw [decide_eq_decide]
    omega
  rw [runIdentifiedQuery, if_neg hsmall, hfetched]
  simp only [hslice, hflag, List.length_take_of_le (min_le_right limit fetched.rows.length)]
  rfl

/-- Every query whose first cells have a JSON text ends so, whatever its caller calls it. -/
theorem governed_envelope_honest (limit maxBytes : Nat) (queryIdFactory : Option String)
    (hfetched : db.execute query = .ok fetched)
    (hrows : ∀ row ∈ fetched.rows.take limit, ∀ cell ∈ row, Encodable lib true cell)
    (hextra : ∀ entry ∈ extra, Encodable lib true entry.2) :
    HonestOutcome lib maxBytes queryIdFactory fetched limit
      (prefixEnvelope fetched (db.durationMs query) (queryIdFactory.getD (queryId (db.uuid query)))
      extra)
      (runIdentifiedQuery lib db query limit maxBytes queryIdFactory >>=
        fun result => augmentEnvelope lib result maxBytes extra) := by
  by_cases hsmall : maxBytes < 128
  · rw [runIdentifiedQuery, if_pos hsmall]
    refine ⟨.inr rfl, nofun, nofun, nofun, nofun, iff_of_true rfl ?_⟩
    cases queryIdFactory with
    | none => exact .inr fun hfits => absurd (le_of_fits_queryId hfits) (by omega)
    | some id => exact .inl ⟨nofun, hsmall⟩
  · have hstart := runIdentifiedQuery_eq hfetched hsmall lib limit queryIdFactory
    have hmin : min limit fetched.rows.length ≤ fetched.rows.length := min_le_right _ _
    have hfirst : ∀ row ∈ fetched.rows.take (min limit fetched.rows.length), ∀ cell ∈ row,
        Encodable lib true cell := by
      rw [← List.take_eq_take_min]
      exact hrows
    rcases cut_twice hextra hfirst hmin (congrArg (· >>= _) hstart) with
      ⟨kept, ⟨⟨hkept, hfits⟩, hmost⟩, hok⟩ | ⟨herror, hnone⟩
    · have hlength : (fetched.rows.take kept).length = kept :=
        List.length_take_of_le (hkept.trans hmin)
      rw [hok]
      refine ⟨.inl ⟨_, rfl⟩, ?_, ?_, ?_, ?_, ?_⟩
      · rintro result ⟨⟩
        exact hfits
      · rintro result ⟨⟩
        exact hlength.symm
      · rintro result ⟨⟩
        rw [prefixEnvelope, hlength, decide_eq_true_iff]
      · rintro result ⟨⟩
        refine ⟨kept, rfl, rfl, ⟨(le_min_iff.mp hkept).1, (le_min_iff.mp hkept).2, hfits⟩, ?_⟩
        rintro count ⟨hlimit, hcount, hfits'⟩
        exact hmost ⟨le_min hlimit hcount, hfits'⟩
      · refine iff_of_false nofun ?_
        rintro (⟨-, hbound⟩ | hnone)
        · exact hsmall hbound
        · exact hnone (fits_zero hfits (hkept.trans hmin))
    · rw [herror]
      exact ⟨.inr rfl, nofun, nofun, nofun, nofun, iff_of_true rfl (.inr hnone)⟩

def twoZones : Fetched Int :=
  { columns := ["pickup_zone", "trip_count"],
    rows := [[.str "Astoria", .int 7], [.str "Harlem", .int 5]] }

def twoZonesDatabase : Database Int where
  execute _ := .ok twoZones
  durationMs _ := 12
  uuid _ := .zeros
  envelopeUuid := .zeros

def zonesQuery : CompiledQuery Int := compileDimensionValuesQuery .pickupZone none 2

def zonesOutcome (maxBytes : Nat) (queryIdFactory : Option String)
    (extra : List (String × PyValue Int)) : Governed (Envelope Int) :=
  runIdentifiedQuery App.Validation.sampleLibrary twoZonesDatabase zonesQuery (2 : Nat) maxBytes
    queryIdFactory >>=
    fun result => augmentEnvelope App.Validation.sampleLibrary result maxBytes extra

theorem governed_envelope_honest_zones :
    HonestOutcome App.Validation.sampleLibrary 210 none twoZones 2
      (prefixEnvelope twoZones 12 (queryId .zeros) [("query_class", .str "dimension_values")])
      (zonesOutcome 210 none [("query_class", .str "dimension_values")]) ∧
    (zonesOutcome 210 none [("query_class", .str "dimension_values")]).map Envelope.rowCount =
      .ok 1 := by
  have hfetched : twoZonesDatabase.execute zonesQuery = .ok twoZones := rfl
  have hrows : ∀ row ∈ twoZones.rows.take 2, ∀ cell ∈ row,
      Encodable App.Validation.sampleLibrary true cell := by
    simp only [twoZones, List.take_succ_cons, List.take_zero, List.forall_mem_cons]
    exact ⟨⟨encodable_str _, encodable_int _, nofun⟩, ⟨encodable_str _, encodable_int _, nofun⟩,
      nofun⟩
  refine ⟨governed_envelope_honest 2 210 none hfetched hrows ?_, by rfl⟩
  exact List.forall_mem_cons.mpr ⟨encodable_str _, nofun⟩

def decimalDatabase : Database Int where
  execute _ := .ok { columns := ["fare"], rows := [[.decimal ⟨false, 5, 0⟩]] }
  durationMs _ := 12
  uuid _ := .zeros
  envelopeUuid := .zeros

/-- A short identifier of the caller's own: the envelope without rows would fit into 127 bytes,
which are refused. And a cell without a JSON text is neither returned nor a `ValueError`. -/
theorem query_refused_or_raised :
    zonesOutcome 127 (some "q") [] = .error (.py .valueError) ∧
      Fits App.Validation.sampleLibrary 127 (prefixEnvelope twoZones 12 "q" [] 0) ∧
      runIdentifiedQuery App.Validation.sampleLibrary decimalDatabase zonesQuery (2 : Nat) 8192
      none =
        .error (.py .typeError) :=
  ⟨by rfl, ⟨123, by rfl, by decide⟩, by rfl⟩

end Outcomes

end AiAnalytics.Dataset
