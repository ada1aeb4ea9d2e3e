import Mathlib.Data.List.Basic
import Mathlib.Tactic.Common

/-!
# Codes that can be read off the front of a text

A code is prefix-free if a text that begins with the code of a value does not begin with the code of
another. Such codes can be put one after the other, a list of them can be closed by a letter that
none of them begins with, and codes without a separator in them can be separated by it.
-/

namespace AiAnalytics.Lib

variable {α β : Type} {Letter : Type}

def PrefixFree (code : α → List Letter) : Prop :=
  ∀ a b rest rest', code a ++ rest = code b ++ rest' → a = b ∧ rest = rest'

variable {code : α → List Letter} {code' : β → List Letter}

theorem PrefixFree.injective (h : PrefixFree code) : Function.Injective code := by
  intro a b hsame
  exact (h a b [] [] (by rw [hsame])).1

theorem prefixFree_of_prefix (h : ∀ a b, code a <+: code b → a = b) : PrefixFree code := by
  intro a b rest rest' hsame
  have heq : a = b := by
    have hfirst : code a <+: code b ++ rest' := hsame ▸ List.prefix_append _ _
    rcases List.prefix_or_prefix_of_prefix hfirst (List.prefix_append _ _) with hprefix | hprefix
    · exact h a b hprefix
    · exact (h b a hprefix).symm
  subst heq
  exact ⟨rfl, List.append_cancel_left hsame⟩

theorem PrefixFree.comp {f : β → α} (h : PrefixFree code) (hf : Function.Injective f) :
    PrefixFree fun b => code (f b) := by
  intro a b rest rest' hsame
  obtain ⟨heq, hrest⟩ := h _ _ _ _ hsame
  exact ⟨hf heq, hrest⟩

theorem PrefixFree.framed (h : PrefixFree code) (before after : List Letter) :
    PrefixFree fun a => before ++ code a ++ after := by
  intro a b rest rest' hsame
  simp only [List.append_assoc, List.append_cancel_left_eq] at hsame
  obtain ⟨heq, hrest⟩ := h a b _ _ hsame
  exact ⟨heq, List.append_cancel_left hrest⟩

theorem PrefixFree.closed (h : PrefixFree code) {stop : Letter} {after : List Letter}
    (hempty : ∀ a, code a ≠ []) (hstop : ∀ a, (code a).head? ≠ some stop) :
    PrefixFree fun values : List α => values.flatMap code ++ stop :: after := by
  have hfirst (a : α) (text text' : List Letter) : code a ++ text ≠ stop :: text' := by
    intro hsame
    obtain ⟨letter, letters, hcode⟩ := List.exists_cons_of_ne_nil (hempty a)
    have hletter := hstop a
    rw [hcode] at hsame hletter
    exact hletter (congrArg some (List.cons.inj hsame).1)
  intro values
  induction values with
  | nil =>
      intro others rest rest' hsame
      cases others with
      | nil => exact ⟨rfl, List.append_cancel_left hsame⟩
      | cons b others =>
          simp only [List.flatMap_nil, List.flatMap_cons, List.nil_append,
            List.append_assoc] at hsame
          exact absurd hsame.symm (hfirst b _ _)
  | cons a values ih =>
      intro others rest rest' hsame
      cases others with
      | nil =>
          simp only [List.flatMap_nil, List.flatMap_cons, List.nil_append,
            List.append_assoc] at hsame
          exact absurd hsame (hfirst a _ _)
      | cons b others =>
          simp only [List.flatMap_cons, List.append_assoc] at hsame
          obtain ⟨rfl, htail⟩ := h a b _ _ hsame
          obtain ⟨rfl, hrest⟩ := ih others rest rest' (by simpa using htail)
          exact ⟨rfl, hrest⟩

section Aligned

def Aligned (text text' : List Letter) : Prop :=
  ∀ rest rest', text ++ rest = text' ++ rest' → text = text' ∧ rest = rest'

theorem PrefixFree.aligned (h : PrefixFree code) (a b : α) : Aligned (code a) (code b) := by
  intro rest rest' hsame
  obtain ⟨rfl, hrest⟩ := h a b rest rest' hsame
  exact ⟨rfl, hrest⟩

theorem Aligned.framed {text text' : List Letter} (h : Aligned text text')
    (before after : List Letter) :
    Aligned (before ++ text ++ after) (before ++ text' ++ after) := by
  intro rest rest' hsame
  simp only [List.append_assoc, List.append_cancel_left_eq] at hsame
  obtain ⟨rfl, hrest⟩ := h _ _ hsame
  exact ⟨rfl, List.append_cancel_left hrest⟩

theorem eq_of_aligned_intercalate (sep : List Letter) (pairs : List (List Letter × List Letter))
    (h : ∀ pair ∈ pairs, Aligned pair.1 pair.2) (rest rest' : List Letter)
    (hsame : List.intercalate sep (pairs.map Prod.fst) ++ rest =
      List.intercalate sep (pairs.map Prod.snd) ++ rest') :
    (∀ pair ∈ pairs, pair.1 = pair.2) ∧ rest = rest' := by
  induction pairs with
  | nil => exact ⟨by simp, by simpa using hsame⟩
  | cons pair pairs ih =>
      obtain ⟨hpair, hpairs⟩ := List.forall_mem_cons.mp h
      cases pairs with
      | nil =>
          obtain ⟨heq, hrest⟩ := hpair rest rest' (by simpa using hsame)
          exact ⟨by simpa using heq, hrest⟩
      | cons next pairs =>
          simp only [List.map_cons, List.intercalate_cons_cons, List.append_assoc] at hsame ih
          obtain ⟨heq, htail⟩ := hpair _ _ hsame
          obtain ⟨hall, hrest⟩ := ih hpairs (List.append_cancel_left htail)
          exact ⟨List.forall_mem_cons.mpr ⟨heq, hall⟩, hrest⟩

end Aligned

section Separated

variable {stops : Letter → Prop} {first second : List Letter} {stop stop' : Letter}

theorem eq_of_append_stop (hfirst : ∀ letter ∈ first, ¬ stops letter)
    (hsecond : ∀ letter ∈ second, ¬ stops letter) (hstop : stops stop) (hstop' : stops stop')
    {rest rest' : List Letter} (hsame : first ++ stop :: rest = second ++ stop' :: rest') :
    first = second ∧ stop = stop' ∧ rest = rest' := by
  induction first generalizing second with
  | nil =>
      cases second with
      | nil =>
          obtain ⟨hletter, hrest⟩ := List.cons.inj hsame
          exact ⟨rfl, hletter, hrest⟩
      | cons letter second =>
          have hletter : stop = letter := (List.cons.inj hsame).1
          exact absurd (hletter ▸ hstop) (hsecond letter List.mem_cons_self)
  | cons letter first ih =>
      cases second with
      | nil =>
          have hletter : letter = stop' := (List.cons.inj hsame).1
          exact absurd (hletter ▸ hstop') (hfirst letter List.mem_cons_self)
      | cons letter' second =>
          obtain ⟨rfl, htail⟩ := List.cons.inj hsame
          obtain ⟨rfl, hends⟩ :=
            ih (fun other hother => hfirst other (List.mem_cons_of_mem _ hother))
            (fun other hother => hsecond other (List.mem_cons_of_mem _ hother)) htail
          exact ⟨rfl, hends⟩

variable {sep : Letter}

theorem exists_intercalate_cons (sep stop : Letter) (text : List Letter)
    (texts : List (List Letter)) (rest : List Letter) :
    ∃ mark later, List.intercalate [sep] (text :: texts) ++ stop :: rest = text ++ mark :: later ∧
      (texts = [] ∧ mark = stop ∧ later = rest ∨
        texts ≠ [] ∧ mark = sep ∧ later = List.intercalate [sep] texts ++ stop :: rest) := by
  cases texts with
  | nil => exact ⟨stop, rest, by simp, .inl ⟨rfl, rfl, rfl⟩⟩
  | cons next texts =>
      refine ⟨sep, _, ?_, .inr ⟨List.cons_ne_nil _ _, rfl, rfl⟩⟩
      rw [List.intercalate_cons_cons, List.append_assoc, List.append_assoc]
      rfl

structure Separable (code : α → List Letter) (sep stop : Letter) : Prop where
  injective : Function.Injective code
  nonempty : ∀ a, code a ≠ []
  sep_not_mem : ∀ a, sep ∉ code a
  stop_not_mem : ∀ a, stop ∉ code a
  ne : sep ≠ stop

theorem Separable.stop_cons_ne (h : Separable code sep stop) (a : α) (texts : List (List Letter))
    (rest rest' : List Letter) :
    stop :: rest ≠ List.intercalate [sep] (code a :: texts) ++ stop :: rest' := by
  intro hsame
  obtain ⟨mark, later, hsplit, -⟩ := exists_intercalate_cons sep stop (code a) texts rest'
  obtain ⟨letter, letters, hletters⟩ := List.exists_cons_of_ne_nil (h.nonempty a)
  rw [hsplit, hletters] at hsame
  refine h.stop_not_mem a ?_
  rw [hletters, (List.cons.inj hsame).1]
  exact List.mem_cons_self

theorem Separable.eq_of_intercalate (h : Separable code sep stop) (values others : List α)
    (rest rest' : List Letter) (hsame : List.intercalate [sep] (values.map code) ++ stop :: rest =
      List.intercalate [sep] (others.map code) ++ stop :: rest') :
    values = others ∧ rest = rest' := by
  have hplain (a : α) : ∀ letter ∈ code a, ¬ (letter = sep ∨ letter = stop) := by
    rintro letter hletter (rfl | rfl)
    · exact h.sep_not_mem a hletter
    · exact h.stop_not_mem a hletter
  induction values generalizing others with
  | nil =>
      cases others with
      | nil => exact ⟨rfl, (List.cons.inj hsame).2⟩
      | cons b others => exact absurd hsame (h.stop_cons_ne b _ _ _)
  | cons a values ih =>
      cases others with
      | nil => exact absurd hsame.symm (h.stop_cons_ne a _ _ _)
      | cons b others =>
          obtain ⟨mark, later, hleft, hmark⟩ :=
            exists_intercalate_cons sep stop (code a) (values.map code) rest
          obtain ⟨mark', later', hright, hmark'⟩ :=
            exists_intercalate_cons sep stop (code b) (others.map code) rest'
          rw [List.map_cons, List.map_cons, hleft, hright] at hsame
          have hstops : mark = sep ∨ mark = stop := by
            rcases hmark with ⟨-, hend, -⟩ | ⟨-, hmore, -⟩
            · exact .inr hend
            · exact .inl hmore
          have hstops' : mark' = sep ∨ mark' = stop := by
            rcases hmark' with ⟨-, hend, -⟩ | ⟨-, hmore, -⟩
            · exact .inr hend
            · exact .inl hmore
          obtain ⟨hfirst, rfl, rfl⟩ := eq_of_append_stop (hplain a) (hplain b) hstops hstops' hsame
          obtain rfl := h.injective hfirst
          rcases hmark with ⟨hnil, hend, rfl⟩ | ⟨-, hmore, rfl⟩
          · rcases hmark' with ⟨hnil', -, rfl⟩ | ⟨-, hmore', -⟩
            · rw [List.map_eq_nil_iff.mp hnil, List.map_eq_nil_iff.mp hnil']
              exact ⟨rfl, rfl⟩
            · exact absurd (hmore'.symm.trans hend) h.ne
          · rcases hmark' with ⟨-, hend', -⟩ | ⟨-, -, hlater⟩
            · exact absurd (hmore.symm.trans hend') h.ne
            · obtain ⟨rfl, hrest⟩ := ih others hlater
              exact ⟨rfl, hrest⟩

theorem Separable.prefixFree (h : Separable code sep stop) :
    PrefixFree fun values : List α => List.intercalate [sep] (values.map code) ++ [stop] := by
  intro values others rest rest' hsame
  simp only [List.append_assoc, List.cons_append, List.nil_append] at hsame
  exact h.eq_of_intercalate values others rest rest' hsame

end Separated

end AiAnalytics.Lib
