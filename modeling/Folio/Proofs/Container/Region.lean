import Folio.Container.Region
import Folio.Proofs.Heading.Anchor
import Mathlib.Data.List.TakeWhile

/-!
# Regions lose nothing

The regions of a text put together are the text (`flatMap_source_regions`). A closing tag
ends at the first closing bracket, because no sign is the other case of a letter
(`isClosedWell_of_mem_regions`).
-/

namespace Folio
namespace Container

open Text

/-!
## Names in either case
-/

theorem exists_of_dropLetters? {name s after : List Char}
    (h : dropLetters? name s = some after) :
    exists word, s = word ++ after ∧ word.length = name.length ∧
      ∀ c ∈ word, ∃ p ∈ name, sameLetter p c = true := by
  induction name generalizing s with
  | nil =>
      cases h
      exact ⟨[], rfl, rfl, by simp only [List.not_mem_nil, false_implies, implies_true]⟩
  | cons p name ih =>
      cases s with
      | nil => cases h
      | cons c rest =>
          rw [dropLetters?] at h
          split at h
          · rename_i hsame
            rcases ih h with ⟨word, rfl, hlength, hword⟩
            refine ⟨c :: word, rfl, congrArg (· + 1) hlength, ?_⟩
            intro d hd
            rcases List.mem_cons.1 hd with rfl | hd
            · exact ⟨p, List.mem_cons_self, hsame⟩
            · rcases hword d hd with ⟨q, hq, hsame⟩
              exact ⟨q, List.mem_cons_of_mem p hq, hsame⟩
          · cases h

theorem eq_of_sameLetter_bracket {p : Char} (h : sameLetter p '>' = true) : p = '>' := by
  have hkey : caseKey p = 62 := by
    rw [sameLetter, beq_iff_eq] at h
    rw [h]
    decide
  have hsame : p.toNat = 62 := by
    unfold caseKey at hkey
    simp only at hkey
    split at hkey
    · simp only [Nat.reduceEqDiff, if_false] at hkey
    · rcases Heading.mapCase_lowerRuns_eq_or p.toNat with hstays | hlarge
      · rw [hstays] at hkey
        split at hkey
        · omega
        · split at hkey
          · omega
          · exact hkey
      · split at hkey
        · omega
        · split at hkey <;> omega
  rw [← Char.ofNat_toNat p, hsame]

/-- The names of containers, in lower case. -/
theorem quotedChar_of_sameLetter {c : Char}
    (h : ∃ p ∈ "div".toList ++ "span".toList, sameLetter p c = true) :
    Html.quotedChar c = [c] :=
  Heading.quotedChar_eq_self
    (P := fun c => (("div".toList ++ "span".toList).any fun p => sameLetter p c) = true)
    (by decide) (List.any_eq_true.2 h)

/-!
## Tags
-/

theorem eq_append_of_openTagNamed? {name s after : List Char} {tag : OpenTag}
    (h : openTagNamed? name s = some (tag, after)) :
    s = tag.text ++ after ∧ ∀ c ∈ tag.name, ∃ p ∈ name, sameLetter p c = true := by
  unfold openTagNamed? at h
  split at h
  · rename_i rest
    split at h
    · rename_i behind hdrop
      rcases exists_of_dropLetters? hdrop with ⟨word, rfl, hlength, hword⟩
      split at h
      · simp only at h
        split at h
        · rename_i tail hbracket
          cases h
          have hsplit := List.takeWhile_append_dropWhile
            (p := fun c => c ≠ '<' && c ≠ '>') (l := behind)
          rw [hbracket] at hsplit
          rw [← hlength, List.take_left]
          refine ⟨?_, hword⟩
          simp only [OpenTag.text, List.append_assoc, List.cons_append, List.nil_append, hsplit]
        · cases h
      · cases h
    · cases h
  · cases h

theorem eq_append_of_openTag? {s after : List Char} {tag : OpenTag}
    (h : openTag? s = some (tag, after)) :
    s = tag.text ++ after ∧ ∀ c ∈ tag.name, Html.quotedChar c = [c] := by
  have hplain (name : List Char) (hname : ∀ p ∈ name, p ∈ "div".toList ++ "span".toList)
      (h : openTagNamed? name s = some (tag, after)) :
      s = tag.text ++ after ∧ ∀ c ∈ tag.name, Html.quotedChar c = [c] := by
    rcases eq_append_of_openTagNamed? h with ⟨hs, hletters⟩
    refine ⟨hs, ?_⟩
    intro c hc
    rcases hletters c hc with ⟨p, hp, hsame⟩
    exact quotedChar_of_sameLetter ⟨p, hname p hp, hsame⟩
  unfold openTag? at h
  split at h
  · rename_i hfound
    cases h
    exact hplain _ (fun p hp => List.mem_append_left _ hp) hfound
  · exact hplain _ (fun p hp => List.mem_append_right _ hp) h

/-- Whether a text runs from an opening bracket to the first closing one. -/
def IsBracketed (tag : List Char) : Prop :=
  exists inside, tag = '<' :: (inside ++ ['>']) ∧ '>' ∉ inside

theorem eq_append_of_closeTag? {name s closing tail : List Char} (hname : '>' ∉ name)
    (h : closeTag? name s = some (closing, tail)) :
    s = closing ++ tail ∧ IsBracketed closing := by
  unfold closeTag? at h
  split at h
  · rename_i rest
    split at h
    · rename_i after hdrop
      rcases exists_of_dropLetters? hdrop with ⟨word, rfl, -, hword⟩
      have hword : '>' ∉ word := by
        intro hmem
        rcases hword '>' hmem with ⟨p, hp, hsame⟩
        exact hname (eq_of_sameLetter_bracket hsame ▸ hp)
      have hblanks : '>' ∉ after.takeWhile isBlank := by
        intro hmem
        exact absurd (List.mem_takeWhile_imp hmem) (by decide)
      split at h
      · rename_i behind hbracket
        have hsplit := List.takeWhile_append_dropWhile (p := isBlank) (l := after)
        rw [hbracket] at hsplit
        generalize after.takeWhile isBlank = blanks at hblanks hsplit
        have hs : '<' :: '/' :: (word ++ after) =
            '<' :: ('/' :: (word ++ blanks) ++ ['>']) ++ behind := by
          simp only [← hsplit, List.cons_append, List.append_assoc, List.nil_append]
        simp only [Option.some.injEq, Prod.mk.injEq] at h
        rcases h with ⟨rfl, rfl⟩
        rw [hs, List.length_append, Nat.add_sub_cancel, List.take_left]
        refine ⟨rfl, _, rfl, ?_⟩
        simp only [List.mem_cons, List.mem_append, not_or]
        exact ⟨by decide, hword, hblanks⟩
      · cases h
    · cases h
  · cases h

theorem eq_append_of_breakAtClose? {name s body closing rest : List Char} (hname : '>' ∉ name)
    (h : breakAtClose? name s = some (body, closing, rest)) :
    s = body ++ closing ++ rest ∧ IsBracketed closing := by
  induction s generalizing body with
  | nil => cases h
  | cons c s ih =>
      rw [breakAtClose?] at h
      split at h
      · rename_i hfound
        cases h
        exact eq_append_of_closeTag? hname hfound
      · rcases Option.map_eq_some_iff.1 h with ⟨⟨front, found⟩, hfront, heq⟩
        cases heq
        rcases ih hfront with ⟨hs, hclosing⟩
        exact ⟨by rw [hs, List.cons_append, List.cons_append], hclosing⟩

/-- Changing its letters puts no closing bracket into the name of a tag. -/
theorem notMem_lower {name : List Char} (h : ∀ c ∈ name, Html.quotedChar c = [c]) :
    '>' ∉ lower name := by
  intro hmem
  have := Heading.quotedChar_of_mem_lowerFrom h hmem
  exact absurd this (by decide)

/-!
## Regions
-/

/-- Whether the closing tag of a container is one, if the region is a closed container. -/
def Region.IsClosedWell : Region -> Prop
  | .closed _ _ closing => IsBracketed closing
  | _ => True

theorem eq_append_of_region? {s after : List Char} {x : Region}
    (h : region? s = some (x, after)) :
    s = x.source ++ after ∧ x.source ≠ [] ∧ x.IsClosedWell := by
  unfold region? at h
  split at h
  · rename_i tag behind htag
    rcases eq_append_of_openTag? htag with ⟨rfl, hname⟩
    split at h
    · cases h
    · split at h
      · rename_i body closing rest hbreak
        cases h
        rcases eq_append_of_breakAtClose? (notMem_lower hname) hbreak with ⟨rfl, hclosing⟩
        refine ⟨by simp only [Region.source, List.append_assoc], ?_, hclosing⟩
        intro hnil
        cases hnil
      · cases h
        refine ⟨rfl, ?_, trivial⟩
        intro hnil
        cases hnil
  · cases h

theorem flatMap_source_consText (c : Char) (l : List Region) :
    (consText c l).flatMap Region.source = c :: l.flatMap Region.source := by
  unfold consText
  split
  · rfl
  · rfl

theorem flatMap_source_regionsFrom {fuel : Nat} {s : List Char} (h : s.length ≤ fuel) :
    (regionsFrom fuel s).flatMap Region.source = s := by
  induction fuel generalizing s with
  | zero => rw [List.length_eq_zero_iff.1 (Nat.le_zero.1 h), regionsFrom, List.flatMap_nil]
  | succ fuel ih =>
      cases s with
      | nil => rfl
      | cons c rest =>
          rw [regionsFrom]
          split
          · rename_i x after hregion
            rcases eq_append_of_region? hregion with ⟨hs, hne, -⟩
            have hlength := congrArg List.length hs
            have hpos := List.length_pos_iff.2 hne
            rw [List.length_append] at hlength
            rw [List.flatMap_cons, ih (by omega), ← hs]
          · rw [flatMap_source_consText, ih (Nat.le_of_succ_le_succ h)]

/-- The regions put together are the text. -/
theorem flatMap_source_regions (s : List Char) : (regions s).flatMap Region.source = s :=
  flatMap_source_regionsFrom (Nat.le_refl s.length)

theorem isClosedWell_of_mem_regionsFrom {fuel : Nat} {s : List Char} :
    ∀ x ∈ regionsFrom fuel s, x.IsClosedWell := by
  induction fuel generalizing s with
  | zero => simp only [regionsFrom, List.not_mem_nil, false_implies, implies_true]
  | succ fuel ih =>
      cases s with
      | nil => simp only [regionsFrom, List.not_mem_nil, false_implies, implies_true]
      | cons c rest =>
          intro x hx
          rw [regionsFrom] at hx
          split at hx
          · rename_i y after hregion
            rcases List.mem_cons.1 hx with rfl | hx
            · exact (eq_append_of_region? hregion).2.2
            · exact ih x hx
          · unfold consText at hx
            split at hx
            · rename_i t more hl
              rcases List.mem_cons.1 hx with rfl | hx
              · exact trivial
              · exact ih x (hl ▸ List.mem_cons_of_mem _ hx)
            · rcases List.mem_cons.1 hx with rfl | hx
              · exact trivial
              · exact ih x hx

theorem isClosedWell_of_mem_regions {s : List Char} {x : Region} (h : x ∈ regions s) : x.IsClosedWell :=
  isClosedWell_of_mem_regionsFrom x h

theorem emitAll_append {σ : Type} (render : List Char -> σ -> List Char × σ) (l m : List Region)
    (state : σ) :
    (emitAll render (l ++ m) state).1 =
      (emitAll render l state).1 ++ (emitAll render m (emitAll render l state).2).1 := by
  induction l generalizing state with
  | nil => rfl
  | cons x rest ih => simp only [List.cons_append, emitAll, ih, List.append_assoc]

end Container
end Folio
