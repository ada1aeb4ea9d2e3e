import AiAnalytics.KvTransfer.Proof.PrefixIdentity
import Mathlib.Data.List.Sort
import Mathlib.Data.String.Basic
import Mathlib.Order.Defs.LinearOrder

/-!
# The digest of an experiment bundle

`_compute_bundle_digest` hashes the path and the bytes of one file after another. Nothing in the
bytes says where a path ends and where a content ends, so two bundles are told apart as long as no
run of bytes is cut in two ways.
-/

namespace AiAnalytics.Experiments

open KvTransfer

section Bundle

structure PathName where
  text : String
  named : text ≠ "" ∧ '/' ∉ text.toList
deriving DecidableEq

structure BundleFile where
  parts : List PathName
  content : List UInt8
  relative : parts ≠ []
deriving DecidableEq

def BundleFile.names (file : BundleFile) : List String := file.parts.map PathName.text

/-- A directory and the files below it, in the order in which they are found: no two lie at one
path, and none lies inside another. -/
structure BundleDirectory where
  root : List String
  files : List BundleFile
  apart : files.Pairwise fun file file' => ¬ file.names <+: file'.names ∧
    ¬ file'.names <+: file.names

def BundleFile.name (file : BundleFile) : String := (file.parts.getLast file.relative).text

def isBundled (root : List String) (file : BundleFile) : Bool :=
  file.name.toList.head? ≠ some '.' && "__pycache__" ∉ root ++ file.names

def sortedFiles (bundle : BundleDirectory) : List BundleFile :=
  bundle.files.insertionSort fun file file' => file.names ≤ file'.names

def bundledFiles (bundle : BundleDirectory) : List BundleFile :=
  (sortedFiles bundle).filter (isBundled bundle.root)

/-- `p.relative_to(bundle_dir).as_posix()` -/
def BundleFile.asPosix (file : BundleFile) : String := "/".intercalate file.names

def utf8 (text : String) : List UInt8 := text.toByteArray.data.toList

/-- The two calls of `hasher.update` for each file. -/
def updates (bundle : BundleDirectory) : List (List UInt8) :=
  (bundledFiles bundle).flatMap fun file => [utf8 file.asPosix, file.content]

def hashedBytes (pieces : List (List UInt8)) : ByteArray := ⟨pieces.flatten.toArray⟩

def computeBundleDigest (sha256 : ByteArray → Digest) (bundle : BundleDirectory) : Digest :=
  sha256 (hashedBytes (updates bundle))

end Bundle

section Pieces

variable {files files' : List BundleFile}

/-- The paths and the contents of two lists of files are one run of bytes, cut in two ways. -/
def CutInTwoWays (files files' : List BundleFile) : Prop :=
  (files.flatMap fun file => utf8 file.asPosix ++ file.content) =
      (files'.flatMap fun file => utf8 file.asPosix ++ file.content) ∧
    (files.map fun file => ((utf8 file.asPosix).length, file.content.length)) ≠
      files'.map fun file => ((utf8 file.asPosix).length, file.content.length)

theorem hashedBytes_eq_iff {pieces pieces' : List (List UInt8)} :
    hashedBytes pieces = hashedBytes pieces' ↔ pieces.flatten = pieces'.flatten := by
  refine ⟨fun hsame => ?_, fun hsame => by rw [hashedBytes, hsame, hashedBytes]⟩
  exact congrArg (fun bytes => bytes.data.toList) hsame

theorem flatten_pieces (files : List BundleFile) :
    (files.flatMap fun file => [utf8 file.asPosix, file.content]).flatten =
      files.flatMap fun file => utf8 file.asPosix ++ file.content := by
  induction files with
  | nil => rfl
  | cons file files ih => simp [ih]

theorem lengths_pieces_eq_iff :
    (files.flatMap fun file => [utf8 file.asPosix, file.content]).map List.length =
        (files'.flatMap fun file => [utf8 file.asPosix, file.content]).map List.length ↔
      (files.map fun file => ((utf8 file.asPosix).length, file.content.length)) =
        files'.map fun file => ((utf8 file.asPosix).length, file.content.length) := by
  induction files generalizing files' with
  | nil => cases files' <;> simp
  | cons file files ih =>
      cases files' with
      | nil => simp
      | cons file' files' => simp [ih, and_assoc]

theorem pieces_eq_of_hashedBytes (hcuts : ¬ CutInTwoWays files files')
    (hsame : hashedBytes (files.flatMap fun file => [utf8 file.asPosix, file.content]) =
      hashedBytes (files'.flatMap fun file => [utf8 file.asPosix, file.content])) :
    (files.flatMap fun file => [utf8 file.asPosix, file.content]) =
      files'.flatMap fun file => [utf8 file.asPosix, file.content] := by
  have hbytes := hashedBytes_eq_iff.mp hsame
  refine List.eq_iff_flatten_eq.mpr ⟨hbytes, ?_⟩
  by_contra hlengths
  rw [flatten_pieces, flatten_pieces] at hbytes
  exact hcuts ⟨hbytes, mt lengths_pieces_eq_iff.mpr hlengths⟩

end Pieces

section Paths

theorem utf8_injective : Function.Injective utf8 := by
  intro text text' hsame
  refine String.toByteArray_inj.mp (ByteArray.ext ?_)
  exact Array.toList_inj.mp hsame

theorem PathName.text_injective : Function.Injective PathName.text := by
  rintro ⟨text, hnamed⟩ ⟨text', hnamed'⟩ htext
  cases htext
  rfl

theorem BundleFile.splitOn_asPosix (file : BundleFile) :
    file.asPosix.toList.splitOn '/' = file.names.map String.toList := by
  rw [asPosix, String.toList_intercalate]
  refine List.splitOn_intercalate '/' (fun letters hletters => ?_) ?_
  · simp only [names, List.map_map, List.mem_map, Function.comp_apply] at hletters
    obtain ⟨part, -, rfl⟩ := hletters
    exact part.named.2
  · simpa [names] using file.relative

theorem BundleFile.parts_eq_of_asPosix {file file' : BundleFile}
    (h : file.asPosix = file'.asPosix) : file.parts = file'.parts := by
  have hletters := file.splitOn_asPosix.symm.trans (h ▸ file'.splitOn_asPosix)
  have hnames : file.names = file'.names :=
    List.map_injective_iff.mpr (fun _ _ => String.toList_injective) hletters
  exact List.map_injective_iff.mpr PathName.text_injective hnames

theorem BundleFile.eq_of_names {file file' : BundleFile} (hnames : file.names = file'.names)
    (hcontent : file.content = file'.content) : file = file' := by
  have hparts := List.map_injective_iff.mpr PathName.text_injective hnames
  cases file
  cases file'
  cases hparts
  cases hcontent
  rfl

theorem updates_injective {files files' : List BundleFile}
    (h : (files.flatMap fun file => [utf8 file.asPosix, file.content]) =
      files'.flatMap fun file => [utf8 file.asPosix, file.content]) : files = files' := by
  induction files generalizing files' with
  | nil =>
      cases files' with
      | nil => rfl
      | cons file' files' => exact absurd h (List.cons_ne_nil _ _).symm
  | cons file files ih =>
      cases files' with
      | nil => exact absurd h (List.cons_ne_nil _ _)
      | cons file' files' =>
          simp only [List.flatMap_cons, List.cons_append, List.nil_append, List.cons.injEq] at h
          obtain ⟨hpath, hcontent, hrest⟩ := h
          have hparts := BundleFile.parts_eq_of_asPosix (utf8_injective hpath)
          rw [ih hrest, BundleFile.eq_of_names (congrArg (List.map PathName.text) hparts) hcontent]

end Paths

section Files

variable {bundle bundle' : BundleDirectory}

def SameFiles (bundle bundle' : BundleDirectory) : Prop :=
  ∀ file, (file ∈ bundle.files ∧ isBundled bundle.root file = true) ↔
    (file ∈ bundle'.files ∧ isBundled bundle'.root file = true)

theorem mem_bundledFiles {file : BundleFile} :
    file ∈ bundledFiles bundle ↔ file ∈ bundle.files ∧ isBundled bundle.root file = true := by
  rw [bundledFiles, List.mem_filter, sortedFiles, List.mem_insertionSort]

theorem nodup_names (bundle : BundleDirectory) :
    ((bundledFiles bundle).map BundleFile.names).Nodup := by
  have hapart : (bundle.files.map BundleFile.names).Nodup := by
    refine List.pairwise_map.mpr (bundle.apart.imp ?_)
    rintro file file' ⟨hnot, -⟩ hnames
    exact hnot (hnames ▸ List.prefix_rfl)
  have hsorted : ((sortedFiles bundle).map BundleFile.names).Nodup :=
    ((List.perm_insertionSort _ _).map _).nodup_iff.mpr hapart
  exact hsorted.sublist (List.filter_sublist.map _)

theorem pairwise_bundledFiles (bundle : BundleDirectory) :
    (bundledFiles bundle).Pairwise fun file file' => file.names ≤ file'.names :=
  (List.pairwise_insertionSort _ _).filter _

theorem bundledFiles_eq_iff :
    bundledFiles bundle = bundledFiles bundle' ↔ SameFiles bundle bundle' := by
  constructor
  · intro hsame file
    rw [← mem_bundledFiles, ← mem_bundledFiles, hsame]
  · intro hsame
    have hperm : (bundledFiles bundle).Perm (bundledFiles bundle') := by
      have hnodup := (nodup_names bundle).of_map
      refine (List.perm_ext_iff_of_nodup hnodup (nodup_names bundle').of_map).mpr fun file => ?_
      rw [mem_bundledFiles, mem_bundledFiles, hsame file]
    refine hperm.eq_of_pairwise (fun file file' hfile hfile' hle hle' => ?_)
      (pairwise_bundledFiles bundle) (pairwise_bundledFiles bundle')
    exact List.inj_on_of_nodup_map (nodup_names bundle') (hperm.mem_iff.mp hfile) hfile'
      (le_antisymm hle hle')

end Files

section Digests

/-- The digest identifies the files exactly where the bytes that are hashed are not cut in two
ways. -/
theorem bundleDigest_eq_iff (sha256 : ByteArray → Digest) (bundle bundle' : BundleDirectory)
    (hinj : Set.InjOn sha256
      {bytes | bytes ∈ [hashedBytes (updates bundle), hashedBytes (updates bundle')]}) :
    (computeBundleDigest sha256 bundle = computeBundleDigest sha256 bundle' ↔
        SameFiles bundle bundle') ↔
      ¬ CutInTwoWays (bundledFiles bundle) (bundledFiles bundle') := by
  have hdigest : computeBundleDigest sha256 bundle = computeBundleDigest sha256 bundle' ↔
      hashedBytes (updates bundle) = hashedBytes (updates bundle') :=
    ⟨fun hsame => hinj (by simp) (by simp) hsame, fun hsame => congrArg sha256 hsame⟩
  rw [hdigest, ← bundledFiles_eq_iff]
  constructor
  · rintro hiff ⟨hbytes, hlengths⟩
    rw [← flatten_pieces, ← flatten_pieces] at hbytes
    have hfiles := hiff.mp (hashedBytes_eq_iff.mpr hbytes)
    exact hlengths (by rw [hfiles])
  · intro hcuts
    exact ⟨fun hsame => updates_injective (pieces_eq_of_hashedBytes hcuts hsame),
      fun hfiles => by rw [updates, hfiles, updates]⟩

def sampleBundle (name : PathName) (content : List UInt8) : BundleDirectory where
  root := ["srv", "bundle"]
  files := [⟨[name], content, List.cons_ne_nil _ _⟩]
  apart := List.pairwise_singleton _ _

def nameA : PathName := ⟨"a", by decide⟩

def nameAb : PathName := ⟨"ab", by decide⟩

theorem updates_sampleBundle {name : PathName} (content : List UInt8)
    (hname : isBundled ["srv", "bundle"] ⟨[name], [], List.cons_ne_nil _ _⟩ = true) :
    updates (sampleBundle name content) = [utf8 name.text, content] := by
  have hfiles : bundledFiles (sampleBundle name content) =
      [⟨[name], content, List.cons_ne_nil _ _⟩] :=
    List.filter_cons_of_pos hname
  rw [updates, hfiles]
  simp [BundleFile.asPosix, BundleFile.names]

theorem canonical_zeros :
    (List.replicate 64 '0').length = 64 ∧ (List.replicate 64 '0').all (· ∈ hexDigits) = true := by
  decide

def zeroDigest : Digest := ⟨List.replicate 64 '0', canonical_zeros⟩

/-- A letter that moves from the content to the name changes no byte. -/
theorem bundles_confused : ¬ ∀ (sha256 : ByteArray → Digest) (bundle bundle' : BundleDirectory),
    Set.InjOn sha256 {bytes | bytes ∈ [hashedBytes (updates bundle), hashedBytes (updates bundle')]}
      →
      (computeBundleDigest sha256 bundle = computeBundleDigest sha256 bundle' ↔
      SameFiles bundle bundle') := by
  intro hclaim
  have hbytes : hashedBytes (updates (sampleBundle nameA [98])) =
      hashedBytes (updates (sampleBundle nameAb [])) := by
    rw [updates_sampleBundle _ (by decide), updates_sampleBundle _ (by decide)]
    decide
  have hdigest := hclaim (fun _ => zeroDigest) (sampleBundle nameA [98]) (sampleBundle nameAb [])
    (by simp [hbytes])
  have hfile := (hdigest.mp rfl ⟨[nameA], [98], List.cons_ne_nil _ _⟩).mp
    ⟨List.mem_singleton_self _, by decide⟩
  revert hfile
  decide

def sampleDigests : List Digest :=
  [⟨"fb8e20fc2e4c3f248c60c39bd652f3c1347298bb977b8b4d5903b85055620603".toList, by
      rw [String.toList_ofList]
      decide⟩,
    ⟨"f45de51cdef30991551e41e882dd7b5404799648a0a00753f44fc966e6153fc1".toList, by
      rw [String.toList_ofList]
      decide⟩]

def sampleHashed : List ByteArray :=
  [hashedBytes (updates (sampleBundle nameA [98])), hashedBytes (updates (sampleBundle nameA [99]))]

def sampleHash : ByteArray → Digest :=
  lookedUp (sampleHashed.zip sampleDigests) zeroDigest

theorem sampleHash_injOn : Set.InjOn sampleHash {bytes | bytes ∈ sampleHashed} := by
  have hkeys : (sampleHashed.zip sampleDigests).map Prod.fst = sampleHashed := rfl
  have hvalues : (sampleHashed.zip sampleDigests).map Prod.snd = sampleDigests := rfl
  have hnodup : sampleDigests.Nodup := by
    refine List.Nodup.of_map (fun digest => digest.hex[1]?) ?_
    simp only [sampleDigests, List.map_cons, List.map_nil]
    decide
  have hinj := lookedUp_injOn (hvalues ▸ hnodup) zeroDigest
  rwa [hkeys] at hinj

theorem bundleDigest_eq_iff_content :
    (computeBundleDigest sampleHash (sampleBundle nameA [98]) =
        computeBundleDigest sampleHash (sampleBundle nameA [99]) ↔
      SameFiles (sampleBundle nameA [98]) (sampleBundle nameA [99])) ↔
      ¬ CutInTwoWays (bundledFiles (sampleBundle nameA [98]))
      (bundledFiles (sampleBundle nameA [99])) :=
  bundleDigest_eq_iff sampleHash (sampleBundle nameA [98]) (sampleBundle nameA [99])
    sampleHash_injOn

end Digests

end AiAnalytics.Experiments
