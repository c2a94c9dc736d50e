import Folio.Html.Entity
import Folio.Proofs.Html.Decoded
import Mathlib.Data.List.Forall2

/-!
# References in markup

A reference is written with more characters than it stands for (`exists_of_reference?`), and the
references that escaping writes are read as what was escaped (`reference?_of_mem`). For both the
rows of the table of names are spelled once (`exists_spelled`).
-/

namespace Folio
namespace Html

open Text Pattern

/-!
## The table of names
-/

/-- Whether each word of a row gives at most two characters. -/
def isBriefRow (row : List Char) : Bool :=
  (splitOn ' ' row).all fun entry => entry.count ',' ≤ 1

/-- The entry of a name in rows that are spelled. -/
def entryIn? (rows : List (List Char)) (name : List Char) : Option (List Char) :=
  rows.findSome? fun row => rowEntry? (name ++ [':']) row

/-- The characters of an entry. -/
def charactersOf (codes : List Char) : List Char :=
  (splitOn ',' codes).map fun code => Char.ofNat (hexNumber code)

/-- The characters that are escaped, with their names. -/
def escapeNames : List (Char × List Char) :=
  [('&', ['a', 'm', 'p']), ('<', ['l', 't']), ('>', ['g', 't']), ('"', ['q', 'u', 'o', 't'])]

/-- Rows with the characters that they are spelled with. -/
abbrev Spelled : List String -> List (List Char) -> Prop :=
  List.Forall₂ fun row letters => row = String.ofList letters

theorem Spelled.cons {letters : List Char} {rows : List String} {spelled : List (List Char)}
    (h : Spelled rows spelled) : Spelled (String.ofList letters :: rows) (letters :: spelled) :=
  List.Forall₂.cons rfl h

theorem exists_spelled :
    exists spelled, Spelled entityRows spelled ∧ (∀ row ∈ spelled, isBriefRow row = true) ∧
      ∀ entry ∈ escapeNames, (entryIn? spelled entry.2).map charactersOf = some [entry.1] := by
  apply Exists.intro
  constructor
  · dsimp only [entityRows]
    repeat apply Spelled.cons
    exact List.Forall₂.nil
  · decide +kernel

theorem Spelled.map_toList {rows : List String} {spelled : List (List Char)}
    (h : Spelled rows spelled) : rows.map String.toList = spelled := by
  induction h with
  | nil => rfl
  | cons hrow _ ih => rw [List.map_cons, ih, hrow, String.toList_ofList]

theorem namedCharacters?_of_spelled {spelled : List (List Char)}
    (h : Spelled entityRows spelled) (name : List Char) :
    namedCharacters? name = (entryIn? spelled name).map charactersOf := by
  rw [namedCharacters?, entryIn?, ← h.map_toList, List.findSome?_map]
  rfl

theorem length_splitOn (sep : Char) (s : List Char) :
    (splitOn sep s).length = s.count sep + 1 := by
  induction s with
  | nil => rfl
  | cons c rest ih =>
      by_cases hc : c = sep
      · rw [splitOn, if_pos hc, List.length_cons, ih, hc, List.count_cons_self]
      · rw [splitOn, if_neg hc, List.count_cons_of_ne hc, ← ih]
        cases hrest : splitOn sep rest with
        | nil => exact absurd hrest (splitOn_ne_nil sep rest)
        | cons first others => rfl

theorem count_entryIn?_le {spelled : List (List Char)}
    (h : ∀ row ∈ spelled, isBriefRow row = true) {name codes : List Char}
    (hentry : entryIn? spelled name = some codes) : codes.count ',' ≤ 1 := by
  rcases List.exists_of_findSome?_eq_some hentry with ⟨row, hrow, hfound⟩
  rcases List.exists_of_findSome?_eq_some hfound with ⟨entry, hmem, hcodes⟩
  have hbrief := of_decide_eq_true (List.all_eq_true.1 (h row hrow) entry hmem)
  rw [dropPrefix?_eq_some_iff.1 hcodes, List.count_append] at hbrief
  omega

/-- No name stands for more than two characters. -/
theorem length_of_namedCharacters? {name stands : List Char}
    (h : namedCharacters? name = some stands) : stands.length ≤ 2 := by
  rcases exists_spelled with ⟨spelled, hspelled, hbrief, -⟩
  rw [namedCharacters?_of_spelled hspelled, Option.map_eq_some_iff] at h
  rcases h with ⟨codes, hcodes, rfl⟩
  have hcount := count_entryIn?_le hbrief hcodes
  rw [charactersOf, List.length_map, length_splitOn]
  omega

/-!
## References at the start of a text
-/

/-- What may stand between the marks of a reference. -/
def isBodyChar (c : Char) : Bool :=
  isLatin c || isAsciiDigit c || c = '#'

theorem referenceBody?_eq_some_iff {s body tail : List Char} :
    referenceBody? s = some (body, tail) ↔
      s = '&' :: (body ++ ';' :: tail) ∧ ∀ c ∈ body, isBodyChar c = true := by
  constructor
  · intro h
    unfold referenceBody? at h
    split at h
    · next rest =>
        simp only at h
        split at h
        · next after hafter =>
            rw [Option.some.injEq, Prod.mk.injEq] at h
            rcases h with ⟨hbody, htail⟩
            have hrest := List.prefix_iff_eq_append.1 (List.takeWhile_prefix isBodyChar (l := rest))
            rw [← hbody, ← htail, ← hafter]
            exact ⟨congrArg _ hrest.symm, List.all_eq_true.1 List.all_takeWhile⟩
        · cases h
    · cases h
  · intro h
    rcases h with ⟨rfl, hbody⟩
    have htake : (body ++ ';' :: tail).takeWhile
        (fun c => isLatin c || isAsciiDigit c || decide (c = '#')) = body := by
      show (body ++ ';' :: tail).takeWhile isBodyChar = body
      rw [List.takeWhile_append_of_pos hbody, List.takeWhile_cons_of_neg (by decide),
        List.append_nil]
    rw [referenceBody?]
    simp only [htake, List.drop_left]

/-- A reference holds no opening angle, and stands for less than it is written with. -/
theorem exists_of_reference? {s stands tail : List Char}
    (h : reference? s = some (stands, tail)) :
    exists body, s = '&' :: (body ++ ';' :: tail) ∧ '<' ∉ body ∧
      stands.length < body.length + 2 := by
  unfold reference? at h
  split at h
  · cases h
  · next body after hbody =>
      rcases referenceBody?_eq_some_iff.1 hbody with ⟨rfl, hchars⟩
      have hopen : '<' ∉ body := fun hmem => absurd (hchars _ hmem) (by decide)
      split at h
      · cases h
        exact ⟨body, rfl, hopen, by simp⟩
      · split at h
        · next hword =>
            rw [Option.map_eq_some_iff] at h
            rcases h with ⟨characters, hnamed, hfound⟩
            cases hfound
            have hlength := length_of_namedCharacters? hnamed
            have hne : body ≠ [] := by
              rintro rfl
              cases hword
            have hpos := List.length_pos_iff.2 hne
            exact ⟨body, rfl, hopen, by omega⟩
        · cases h

theorem reference?_of_named {body stands : List Char} (hchars : ∀ c ∈ body, isBodyChar c = true)
    (hcode : codeNumber? 7 6 body = none) (hword : isWordBody body = true)
    (hnamed : namedCharacters? body = some stands) (tail : List Char) :
    reference? ('&' :: (body ++ ';' :: tail)) = some (stands, tail) := by
  rw [reference?, referenceBody?_eq_some_iff.2 ⟨rfl, hchars⟩]
  simp only [hcode, hword, hnamed, if_true, Option.map_some]

theorem reference?_cons_of_ne {c : Char} (h : c ≠ '&') (s : List Char) :
    reference? (c :: s) = none := by
  rw [reference?, referenceBody?]
  · intro rest hs
    exact h (List.cons.inj hs).1

theorem exists_name_of_quotedChar {c : Char} (h : quotedChar c ≠ [c]) :
    exists name, (c, name) ∈ escapeNames := by
  by_cases hsign : c ∈ escapeNames.map Prod.fst
  · rcases List.mem_map.1 hsign with ⟨entry, hmem, rfl⟩
    exact ⟨entry.2, hmem⟩
  · have hsigns : c ≠ '&' ∧ c ≠ '<' ∧ c ≠ '>' ∧ c ≠ '"' := by simpa [escapeNames] using hsign
    exact absurd (by simp only [quotedChar, textChar, hsigns, if_false]) h

/-- The references that escaping writes are read as what was escaped. -/
theorem reference?_quotedChar {c : Char} (h : quotedChar c ≠ [c]) (tail : List Char) :
    reference? (quotedChar c ++ tail) = some ([c], tail) := by
  rcases exists_spelled with ⟨spelled, hspelled, -, hentries⟩
  have hshape : ∀ entry ∈ escapeNames, quotedChar entry.1 = '&' :: (entry.2 ++ [';']) ∧
      entry.2.all isBodyChar = true ∧ codeNumber? 7 6 entry.2 = none ∧
        isWordBody entry.2 = true := by
    decide
  rcases exists_name_of_quotedChar h with ⟨name, hmem⟩
  rcases hshape _ hmem with ⟨hwritten, hchars, hcode, hword⟩
  have hnamed : namedCharacters? name = some [c] := by
    rw [namedCharacters?_of_spelled hspelled, hentries _ hmem]
  rw [hwritten, List.cons_append, List.append_assoc]
  exact reference?_of_named (List.all_eq_true.1 hchars) hcode hword hnamed tail

end Html
end Folio
