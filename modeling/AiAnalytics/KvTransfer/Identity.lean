import AiAnalytics.Lib.Json
import Mathlib.Data.Set.Function

/-!
# The identity of a reusable prefix

A prefix of KV blocks is known by a digest of its rendered token ids together with every setting
that can change the meaning or the layout of the blocks. The digest itself is a parameter: SHA-256
is not modelled. -/

namespace AiAnalytics.KvTransfer

open Lib

def identityVersion : String := "kv-prefix-identity-v1"
def compatibilityVersion : String := "kv-compat-v1"

def hexDigits : List Char := "0123456789abcdef".toList

structure Digest where
  hex : List Char
  canonical : hex.length = 64 ∧ hex.all (· ∈ hexDigits) = true
deriving DecidableEq

def encoded (canonical : List Char) : ByteArray := (String.ofList canonical).toByteArray

section Compatibility

structure CompatibilityFields where
  modelId : String
  modelRevision : String
  tokenizerRevision : String
  chatTemplateVersion : String
  prefixContractVersion : String
  weightDtype : String
  kvDtype : String
  adapterNamespace : String
  cacheNamespace : String
  engineVersion : String
  blockLayoutVersion : String
deriving DecidableEq

def CompatibilityFields.asDict (fields : CompatibilityFields) : List (String × String) :=
  [("model_id", fields.modelId),
    ("model_revision", fields.modelRevision),
    ("tokenizer_revision", fields.tokenizerRevision),
    ("chat_template_version", fields.chatTemplateVersion),
    ("prefix_contract_version", fields.prefixContractVersion),
    ("weight_dtype", fields.weightDtype),
    ("kv_dtype", fields.kvDtype),
    ("adapter_namespace", fields.adapterNamespace),
    ("cache_namespace", fields.cacheNamespace),
    ("engine_version", fields.engineVersion),
    ("block_layout_version", fields.blockLayoutVersion)]

def isBlank (entry : String × String) : Bool := strip entry.2.toList = []

structure CompatibilitySpec extends CompatibilityFields where
  explicit : toCompatibilityFields.asDict.find? isBlank = none
deriving DecidableEq

def canonicalFields (fields : CompatibilityFields) : List Char :=
  canonicalObject (fields.asDict.map fun entry => (entry.1, canonicalText entry.2))

def compatibilityText (spec : CompatibilitySpec) : List Char :=
  canonicalObject
    [("version", canonicalText compatibilityVersion),
      ("compatibility", canonicalFields spec.toCompatibilityFields)]

def compatibilityPrefix : String := compatibilityVersion ++ ":sha256:"

/-- `CompatibilitySpec.namespace` -/
def CompatibilitySpec.namespaceText (sha256 : ByteArray → Digest) (spec : CompatibilitySpec) :
    String :=
  compatibilityPrefix ++ String.ofList (sha256 (encoded (compatibilityText spec))).hex

end Compatibility

section Identity

def isSha256 (value before : String) : Bool :=
  before.toList.isPrefixOf value.toList &&
    let digest := value.toList.drop before.length
    digest.length = 64 && digest.all (· ∈ hexDigits)

theorem isSha256_append (before : String) (digest : Digest) :
    isSha256 (before ++ String.ofList digest.hex) before = true := by
  have hdrop : (before.toList ++ digest.hex).drop before.length = digest.hex := by
    rw [← String.length_toList, List.drop_left]
  have hprefix : before.toList.isPrefixOf (before.toList ++ digest.hex) = true :=
    List.isPrefixOf_iff_prefix.mpr (List.prefix_append _ _)
  simp only [isSha256, String.toList_append, String.toList_ofList, hdrop, hprefix,
    digest.canonical.1, digest.canonical.2]
  rfl

structure PrefixIdentity where
  value : String
  compatibilityNamespace : String
  tokenCount : Int
  version : String
  value_canonical : isSha256 value "sha256:" = true
  namespace_canonical : isSha256 compatibilityNamespace compatibilityPrefix = true
  tokenCount_pos : 0 < tokenCount
  version_eq : version = identityVersion
deriving DecidableEq

def PrefixIdentity.postInit (value compatibilityNamespace : String) (tokenCount : Int)
    (version : String) : Except String PrefixIdentity :=
  if hvalue : isSha256 value "sha256:" = true then
    if hnamespace : isSha256 compatibilityNamespace compatibilityPrefix = true then
      if hcount : 0 < tokenCount then
        if hversion : version = identityVersion then
          .ok ⟨value, compatibilityNamespace, tokenCount, version, hvalue, hnamespace, hcount,
            hversion⟩
        else .error ("version must be " ++ identityVersion)
      else .error "token_count must be positive"
    else .error "compatibility_namespace must be a canonical SHA-256 namespace"
  else .error "value must be a canonical SHA-256 identity"

def identityText (tokenIds : List Int) (compatibility : CompatibilitySpec) : List Char :=
  canonicalObject
    [("version", canonicalText identityVersion),
      ("rendered_token_ids", canonicalArray (tokenIds.map canonicalInt)),
      ("compatibility", canonicalFields compatibility.toCompatibilityFields)]

def digitLimitError : String :=
  "Exceeds the limit (4300 digits) for integer string conversion; " ++
    "use sys.set_int_max_str_digits() to increase the limit"

def PrefixIdentity.build (sha256 : ByteArray → Digest) (renderedTokenIds : List Int)
    (compatibility : CompatibilitySpec) : Except String PrefixIdentity :=
  if renderedTokenIds = [] then .error "token_ids must contain at least one rendered token"
  else if ∃ tokenId ∈ renderedTokenIds, tokenId < 0 then .error "token_ids must be non-negative"
  else if ∃ tokenId ∈ renderedTokenIds, ¬ Printable tokenId then .error digitLimitError
  else
    PrefixIdentity.postInit
      ("sha256:" ++ String.ofList (sha256
        (encoded (identityText renderedTokenIds compatibility))).hex)
      (compatibility.namespaceText sha256) renderedTokenIds.length identityVersion

/-- A list of token ids is refused only by the checks on the list: what is made of the digests
passes its own checks. -/
theorem PrefixIdentity.build_eq (sha256 : ByteArray → Digest) {tokenIds : List Int}
    (compatibility : CompatibilitySpec) (hne : tokenIds ≠ [])
    (hnonneg : ∀ tokenId ∈ tokenIds, 0 ≤ tokenId)
    (hprintable : ∀ tokenId ∈ tokenIds, Printable tokenId) :
    ∃ identity, PrefixIdentity.build sha256 tokenIds compatibility = .ok identity ∧
      identity.value =
        "sha256:" ++ String.ofList (sha256 (encoded (identityText tokenIds compatibility))).hex ∧
      identity.compatibilityNamespace = compatibility.namespaceText sha256 ∧
      identity.tokenCount = tokenIds.length ∧ identity.version = identityVersion := by
  have hnegative : ¬ ∃ tokenId ∈ tokenIds, tokenId < 0 := by
    rintro ⟨tokenId, htoken, hlt⟩
    exact absurd (hnonneg tokenId htoken) (by omega)
  have hlong : ¬ ∃ tokenId ∈ tokenIds, ¬ Printable tokenId := by
    rintro ⟨tokenId, htoken, hlong⟩
    exact hlong (hprintable tokenId htoken)
  have hcount : 0 < (tokenIds.length : Int) := by
    have hlength := List.length_pos_iff.mpr hne
    omega
  refine ⟨⟨_, _, _, _, isSha256_append _ _, isSha256_append _ _, hcount, rfl⟩, ?_, rfl, rfl, rfl,
    rfl⟩
  rw [build, if_neg hne, if_neg hnegative, if_neg hlong, postInit, dif_pos (isSha256_append _ _),
    CompatibilitySpec.namespaceText, dif_pos (isSha256_append _ _), dif_pos hcount, dif_pos rfl]

theorem PrefixIdentity.printable_of_build {sha256 : ByteArray → Digest} {tokenIds : List Int}
    {compatibility : CompatibilitySpec} {identity : PrefixIdentity}
    (h : build sha256 tokenIds compatibility = .ok identity) :
    ∀ tokenId ∈ tokenIds, Printable tokenId := by
  intro tokenId htoken
  by_contra hlong
  have hrefused : ∃ tokenId ∈ tokenIds, ¬ Printable tokenId := ⟨tokenId, htoken, hlong⟩
  unfold build at h
  split_ifs at h

end Identity

end AiAnalytics.KvTransfer
