import AiAnalytics.KvTransfer.Identity
import Mathlib.Data.Set.Function

/-!
# Two prefixes have one identity only if they are the same

The texts that are hashed can be told apart, so a digest that tells them apart tells the prefixes
apart. -/

namespace AiAnalytics.KvTransfer

open Lib

theorem encoded_injective : Function.Injective encoded := by
  intro canonical canonical' hsame
  exact String.ofList_injective (String.toByteArray_inj.mp hsame)

theorem append_hex_inj {before : String} {digest digest' : Digest}
    (h : before ++ String.ofList digest.hex = before ++ String.ofList digest'.hex) :
    digest = digest' := by
  have hletters := congrArg String.toList h
  simp only [String.toList_append, String.toList_ofList, List.append_cancel_left_eq] at hletters
  cases digest
  cases digest'
  simpa using hletters

section Fields

variable {fields fields' : CompatibilityFields}

def pairedFields (fields fields' : CompatibilityFields) : List (String × List Char × List Char) :=
  (fields.asDict.zip fields'.asDict).map fun (entry, entry') =>
    (entry.1, canonicalText entry.2, canonicalText entry'.2)

theorem canonicalFields_left (fields fields' : CompatibilityFields) :
    canonicalFields fields = canonicalObject ((pairedFields fields fields').map fun entry =>
      (entry.1, entry.2.1)) :=
  rfl

theorem canonicalFields_right (fields fields' : CompatibilityFields) :
    canonicalFields fields' = canonicalObject ((pairedFields fields fields').map fun entry =>
      (entry.1, entry.2.2)) :=
  rfl

theorem aligned_pairedFields (fields fields' : CompatibilityFields) :
    ∀ entry ∈ pairedFields fields fields', Aligned entry.2.1 entry.2.2 := by
  intro entry hentry
  obtain ⟨⟨entry, entry'⟩, -, rfl⟩ := List.mem_map.mp hentry
  exact prefixFree_canonicalText.aligned _ _

theorem aligned_canonicalFields (fields fields' : CompatibilityFields) :
    Aligned (canonicalFields fields) (canonicalFields fields') := by
  rw [canonicalFields_left fields fields', canonicalFields_right fields fields']
  exact aligned_canonicalObject (aligned_pairedFields fields fields')

theorem canonicalFields_injective : Function.Injective canonicalFields := by
  intro fields fields' hsame
  rw [canonicalFields_left fields fields', canonicalFields_right fields fields'] at hsame
  obtain ⟨hall, -⟩ := eq_of_canonicalObject (aligned_pairedFields fields fields') [] []
    (by rw [hsame])
  simp only [pairedFields, CompatibilityFields.asDict, List.zip_cons_cons, List.zip_nil_left,
    List.map_cons,
    List.map_nil, List.forall_mem_cons, prefixFree_canonicalText.injective.eq_iff] at hall
  cases fields
  cases fields'
  simpa using hall

end Fields

section Texts

theorem compatibilityText_injective : Function.Injective compatibilityText := by
  intro spec spec' hsame
  let entries : List (String × List Char × List Char) :=
    [("version", canonicalText compatibilityVersion, canonicalText compatibilityVersion),
      ("compatibility", canonicalFields spec.toCompatibilityFields,
        canonicalFields spec'.toCompatibilityFields)]
  have haligned : ∀ entry ∈ entries, Aligned entry.2.1 entry.2.2 :=
    List.forall_mem_cons.mpr ⟨prefixFree_canonicalText.aligned _ _,
      List.forall_mem_singleton.mpr (aligned_canonicalFields _ _)⟩
  have htexts : canonicalObject (entries.map fun entry => (entry.1, entry.2.1)) =
      canonicalObject (entries.map fun entry => (entry.1, entry.2.2)) := hsame
  obtain ⟨hall, -⟩ := eq_of_canonicalObject haligned [] [] (by rw [htexts])
  have hfields := canonicalFields_injective (hall _ (List.mem_cons_of_mem _ List.mem_cons_self))
  cases spec
  cases spec'
  simpa using hfields

theorem identityText_inj {tokenIds tokenIds' : List Int} {spec spec' : CompatibilitySpec}
    (hsame : identityText tokenIds spec = identityText tokenIds' spec') :
    tokenIds = tokenIds' ∧ spec = spec' := by
  let entries : List (String × List Char × List Char) :=
    [("version", canonicalText identityVersion, canonicalText identityVersion),
      ("rendered_token_ids", canonicalArray (tokenIds.map canonicalInt),
        canonicalArray (tokenIds'.map canonicalInt)),
      ("compatibility", canonicalFields spec.toCompatibilityFields,
        canonicalFields spec'.toCompatibilityFields)]
  have haligned : ∀ entry ∈ entries, Aligned entry.2.1 entry.2.2 :=
    List.forall_mem_cons.mpr ⟨prefixFree_canonicalText.aligned _ _,
      List.forall_mem_cons.mpr ⟨prefixFree_canonicalInts.aligned _ _,
        List.forall_mem_singleton.mpr (aligned_canonicalFields _ _)⟩⟩
  have htexts : canonicalObject (entries.map fun entry => (entry.1, entry.2.1)) =
      canonicalObject (entries.map fun entry => (entry.1, entry.2.2)) := hsame
  obtain ⟨hall, -⟩ := eq_of_canonicalObject haligned [] [] (by rw [htexts])
  obtain ⟨-, htail⟩ := List.forall_mem_cons.mp hall
  obtain ⟨htokens, htail⟩ := List.forall_mem_cons.mp htail
  have hsettings := List.forall_mem_singleton.mp htail
  have hfields := canonicalFields_injective hsettings
  refine ⟨prefixFree_canonicalInts.injective htokens, ?_⟩
  cases spec
  cases spec'
  simpa using hfields

end Texts

section Digests

variable {sha256 : ByteArray → Digest}

def hashed (tokenIds tokenIds' : List Int) (spec spec' : CompatibilitySpec) : List ByteArray :=
  [encoded (identityText tokenIds spec), encoded (identityText tokenIds' spec'),
    encoded (compatibilityText spec), encoded (compatibilityText spec')]

theorem namespaceText_inj {tokenIds tokenIds' : List Int} {spec spec' : CompatibilitySpec}
    (hinj : Set.InjOn sha256 {bytes | bytes ∈ hashed tokenIds tokenIds' spec spec'})
    (hsame : spec.namespaceText sha256 = spec'.namespaceText sha256) : spec = spec' := by
  have hbytes := hinj (by simp [hashed]) (by simp [hashed]) (append_hex_inj hsame)
  exact compatibilityText_injective (encoded_injective hbytes)

theorem build_isOk_iff (spec : CompatibilitySpec) {tokenIds : List Int} (hne : tokenIds ≠ [])
    (hnonneg : ∀ tokenId ∈ tokenIds, 0 ≤ tokenId) :
    (∃ identity, PrefixIdentity.build sha256 tokenIds spec = .ok identity) ↔
      ∀ tokenId ∈ tokenIds, Printable tokenId := by
  constructor
  · rintro ⟨identity, hbuild⟩
    exact PrefixIdentity.printable_of_build hbuild
  · intro hprintable
    obtain ⟨identity, hbuild, -⟩ := PrefixIdentity.build_eq sha256 spec hne hnonneg hprintable
    exact ⟨identity, hbuild⟩

/-- An identity is built whenever `json.dumps` can write the ids. Two identities, and two
namespaces, are equal only for the same tokens and the same settings, as long as the hash tells
apart the byte strings it is given for them. -/
theorem build_eq_iff {tokenIds tokenIds' : List Int} (spec spec' : CompatibilitySpec)
    (hne : tokenIds ≠ []) (hne' : tokenIds' ≠ [])
    (hnonneg : ∀ tokenId ∈ tokenIds, 0 ≤ tokenId) (hnonneg' : ∀ tokenId ∈ tokenIds', 0 ≤ tokenId)
    (hinj : Set.InjOn sha256 {bytes | bytes ∈ hashed tokenIds tokenIds' spec spec'}) :
    ((∃ identity, PrefixIdentity.build sha256 tokenIds spec = .ok identity) ↔
        ∀ tokenId ∈ tokenIds, Printable tokenId) ∧
      ((∃ identity, PrefixIdentity.build sha256 tokenIds' spec' = .ok identity) ↔
        ∀ tokenId ∈ tokenIds', Printable tokenId) ∧
      ∀ identity identity',
        PrefixIdentity.build sha256 tokenIds spec = .ok identity →
        PrefixIdentity.build sha256 tokenIds' spec' = .ok identity' →
        (identity = identity' ↔ tokenIds = tokenIds' ∧ spec = spec') ∧
        (identity.compatibilityNamespace = identity'.compatibilityNamespace ↔ spec = spec') := by
  refine ⟨build_isOk_iff spec hne hnonneg, build_isOk_iff spec' hne' hnonneg', ?_⟩
  intro identity identity' hbuild hbuild'
  obtain ⟨_, hbuilt, hvalue, hnamespace, -⟩ :=
    PrefixIdentity.build_eq sha256 spec hne hnonneg (PrefixIdentity.printable_of_build hbuild)
  obtain ⟨_, hbuilt', hvalue', hnamespace', -⟩ :=
    PrefixIdentity.build_eq sha256 spec' hne' hnonneg' (PrefixIdentity.printable_of_build hbuild')
  obtain rfl := Except.ok.inj (hbuild.symm.trans hbuilt)
  obtain rfl := Except.ok.inj (hbuild'.symm.trans hbuilt')
  refine ⟨⟨fun hsame => ?_, ?_⟩, ⟨fun hsame => ?_, ?_⟩⟩
  · have hvalues := congrArg PrefixIdentity.value hsame
    rw [hvalue, hvalue'] at hvalues
    have hbytes := hinj (by simp [hashed]) (by simp [hashed]) (append_hex_inj hvalues)
    exact identityText_inj (encoded_injective hbytes)
  · rintro ⟨rfl, rfl⟩
    exact Except.ok.inj (hbuild.symm.trans hbuild')
  · rw [hnamespace, hnamespace'] at hsame
    exact namespaceText_inj hinj hsame
  · rintro rfl
    rw [hnamespace, hnamespace']

end Digests

section Example

def lookedUp (table : List (ByteArray × Digest)) (other : Digest) (input : ByteArray) : Digest :=
  match table.find? fun entry => entry.1 = input with
  | some entry => entry.2
  | none => other

theorem exists_entry_of_lookedUp {table : List (ByteArray × Digest)} {input : ByteArray}
    (h : input ∈ table.map Prod.fst) (other : Digest) :
    ∃ entry ∈ table, entry.1 = input ∧ lookedUp table other input = entry.2 := by
  unfold lookedUp
  split
  · rename_i entry hfind
    exact ⟨entry, List.mem_of_find?_eq_some hfind, by simpa using List.find?_some hfind, rfl⟩
  · rename_i hfind
    obtain ⟨entry, hentry, hkey⟩ := List.mem_map.mp h
    exact absurd hkey (by simpa using List.find?_eq_none.mp hfind entry hentry)

theorem lookedUp_injOn {table : List (ByteArray × Digest)} (h : (table.map Prod.snd).Nodup)
    (other : Digest) : Set.InjOn (lookedUp table other) {input | input ∈ table.map Prod.fst} := by
  intro input hinput input' hinput' hsame
  obtain ⟨entry, hentry, rfl, hvalue⟩ := exists_entry_of_lookedUp hinput other
  obtain ⟨entry', hentry', rfl, hvalue'⟩ := exists_entry_of_lookedUp hinput' other
  rw [hvalue, hvalue'] at hsame
  exact congrArg Prod.fst (List.inj_on_of_nodup_map h hentry hentry' hsame)

def exampleSettings (kvDtype : String) : CompatibilityFields where
  modelId := "Qwen/Qwen3-0.6B"
  modelRevision := "0123456789abcdef"
  tokenizerRevision := "fedcba9876543210"
  chatTemplateVersion := "qwen3-chat-v1"
  prefixContractVersion := "prefix-v2"
  weightDtype := "bfloat16"
  kvDtype := kvDtype
  adapterNamespace := "none"
  cacheNamespace := "default"
  engineVersion := "vllm-0.10.2"
  blockLayoutVersion := "vllm-block-v1-size-16"

def exampleSpec : CompatibilitySpec := ⟨exampleSettings "fp8_e4m3", by decide +kernel⟩
def exampleSpec' : CompatibilitySpec := ⟨exampleSettings "bfloat16", by decide +kernel⟩

def exampleDigests : List Digest :=
  [⟨"3bb26c32c233b945341c7ef5e4aac5fec5a3a98bfc682ff1cc3957ed6a42dc00".toList,
    by rw [String.toList_ofList]; decide⟩,
    ⟨"50299bc16f0e759a5c3aac749b951b481f6d6563aa82af2da1cab0ac9e03dad2".toList,
      by rw [String.toList_ofList]; decide⟩,
    ⟨"eda16d87f9839b21bd94f24a6e7740d7592d45eac6a6c2bec7d19ec3a0d1207b".toList,
      by rw [String.toList_ofList]; decide⟩,
    ⟨"7a1a591fee1d5f571b4f9aab9b99459e76ae35ef9ff6f32a2a0f9581891d21ea".toList,
      by rw [String.toList_ofList]; decide⟩]

def exampleTable : List (ByteArray × Digest) :=
  (hashed [1, 2, 3] [1, 3, 2] exampleSpec exampleSpec').zip exampleDigests

def exampleHash : ByteArray → Digest :=
  lookedUp exampleTable ⟨List.replicate 64 '0', by decide +kernel⟩

theorem exampleHash_injOn :
    Set.InjOn exampleHash
      {bytes | bytes ∈ hashed [1, 2, 3] [1, 3, 2] exampleSpec exampleSpec'} := by
  have hlength : (hashed [1, 2, 3] [1, 3, 2] exampleSpec exampleSpec').length =
      exampleDigests.length := by
    simp only [hashed, exampleDigests, List.length_cons, List.length_nil]
  have hkeys : exampleTable.map Prod.fst = hashed [1, 2, 3] [1, 3, 2] exampleSpec exampleSpec' :=
    List.map_fst_zip hlength.le
  have hvalues : exampleTable.map Prod.snd = exampleDigests := List.map_snd_zip hlength.ge
  have hnodup : exampleDigests.Nodup := by
    refine List.Nodup.of_map (fun digest => digest.hex.head?) ?_
    simp only [exampleDigests, List.map_cons, List.map_nil]
    iterate 4 rw [String.toList_ofList]
    decide
  rw [← hkeys]
  exact lookedUp_injOn (hvalues ▸ hnodup) _

theorem build_eq_iff_example :
    ∃ identity identity',
      PrefixIdentity.build exampleHash [1, 2, 3] exampleSpec = .ok identity ∧
      PrefixIdentity.build exampleHash [1, 3, 2] exampleSpec' = .ok identity' ∧
      (identity = identity' ↔ ([1, 2, 3] : List Int) = [1, 3, 2] ∧ exampleSpec = exampleSpec') ∧
      (identity.compatibilityNamespace = identity'.compatibilityNamespace ↔
        exampleSpec = exampleSpec') := by
  obtain ⟨hbuilds, hbuilds', hsame⟩ :=
    build_eq_iff exampleSpec exampleSpec' (by decide) (by decide) (by decide) (by decide)
      exampleHash_injOn
  obtain ⟨identity, hbuild⟩ := hbuilds.mpr (by decide)
  obtain ⟨identity', hbuild'⟩ := hbuilds'.mpr (by decide)
  exact ⟨identity, identity', hbuild, hbuild', hsame identity identity' hbuild hbuild'⟩

end Example

end AiAnalytics.KvTransfer
