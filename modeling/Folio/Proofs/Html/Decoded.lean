import Folio.Proofs.Html.Standing
import Folio.Proofs.Text.Cut

/-!
# Reading markup back

A text that was escaped comes back when the references that escaping writes are decoded
(`decoded_escapeText`, `decoded_escapeAttribute`). An element around text without opening angles
holds two tags, its own (`tagsIn_elementOf`).
-/

namespace Folio
namespace Html

open Text

/-!
## References
-/

/-- References with the characters that they stand for. -/
abbrev References := List (List Char × Char)

/-- The references in text between tags. -/
def textReferences : References :=
  [("&lt;".toList, '<'), ("&gt;".toList, '>'), ("&amp;".toList, '&')]

/-- The references in values. -/
def attributeReferences : References :=
  ("&quot;".toList, '"') :: ("&#x27;".toList, '\'') :: textReferences

/-- The character for a reference at the start of a text, and what follows it. -/
def readReference? (table : References) (s : List Char) : Option (List Char × List Char) :=
  table.findSome? fun entry => (dropPrefix? entry.1 s).map fun rest => ([entry.2], rest)

/-- A text with characters for references, read once from left to right. -/
def decoded (table : References) (s : List Char) : List Char :=
  rewrite (readReference? table) s

/-- References that are told apart, whatever follows them, and from all other text. -/
structure References.IsReadable (table : References) : Prop where
  opens : ∀ entry ∈ table, entry.1.head? = some '&'
  reads : ∀ entry ∈ table, forall rest,
    readReference? table (entry.1 ++ rest) = some ([entry.2], rest)

theorem isReadable_textReferences : textReferences.IsReadable where
  opens := by decide
  reads := by
    intro entry hentry rest
    simp only [textReferences, List.mem_cons, List.not_mem_nil, or_false] at hentry
    rcases hentry with rfl | rfl | rfl
    · rfl
    · rfl
    · rfl

theorem isReadable_attributeReferences : attributeReferences.IsReadable where
  opens := by decide
  reads := by
    intro entry hentry rest
    simp only [attributeReferences, textReferences, List.mem_cons, List.not_mem_nil, or_false]
      at hentry
    rcases hentry with rfl | rfl | rfl | rfl | rfl
    · rfl
    · rfl
    · rfl
    · rfl
    · rfl

theorem References.IsReadable.readReference?_cons {table : References} (h : table.IsReadable)
    {c : Char} (hc : c ≠ '&') (rest : List Char) : readReference? table (c :: rest) = none := by
  rw [readReference?, List.findSome?_eq_none_iff]
  intro entry hentry
  have hhead := h.opens entry hentry
  cases hword : entry.1 with
  | nil =>
      rw [hword] at hhead
      cases hhead
  | cons d word =>
      rw [hword, List.head?_cons, Option.some.injEq] at hhead
      rw [dropPrefix?, if_neg fun hd => hc (hd.symm.trans hhead)]
      rfl

/-- A text in which some characters are written as references is read back. -/
theorem decoded_flatMap {table : References} (h : table.IsReadable) {f : Char -> List Char}
    (hf : forall c, (f c, c) ∈ table ∨ f c = [c] ∧ c ≠ '&') (s : List Char) :
    decoded table (s.flatMap f) = s := by
  induction s with
  | nil => rfl
  | cons c s ih =>
      rw [List.flatMap_cons]
      rcases hf c with hentry | ⟨hself, hc⟩
      · have hne : f c ≠ [] := by
          intro hnil
          have hhead := h.opens _ hentry
          rw [hnil] at hhead
          cases hhead
        have hrest : decoded table (f c ++ s.flatMap f) = [c] ++ decoded table (s.flatMap f) :=
          rewrite_append_of_some hne (h.reads _ hentry _)
        rw [hrest, ih, List.singleton_append]
      · have hrest : decoded table (c :: s.flatMap f) = c :: decoded table (s.flatMap f) :=
          rewrite_cons_of_none (h.readReference?_cons hc _)
        rw [hself, List.singleton_append, hrest, ih]

/-!
## Escaped texts
-/

theorem textChar_cases (c : Char) :
    (textChar c, c) ∈ textReferences ∨ textChar c = [c] ∧ c ∉ "&<>".toList := by
  by_cases hc : c ∈ "&<>".toList
  · left
    have hsign : c = '&' ∨ c = '<' ∨ c = '>' := by simpa using hc
    rcases hsign with rfl | rfl | rfl
    all_goals decide
  · right
    have hsigns : c ≠ '&' ∧ c ≠ '<' ∧ c ≠ '>' := by simpa using hc
    exact ⟨by simp only [textChar, hsigns, if_false], hc⟩

theorem attributeChar_cases (c : Char) :
    (attributeChar c, c) ∈ attributeReferences ∨
      attributeChar c = [c] ∧ c ∉ "&<>\"'".toList := by
  by_cases hc : c ∈ "&<>\"'".toList
  · left
    have hsign : c = '&' ∨ c = '<' ∨ c = '>' ∨ c = '"' ∨ c = '\'' := by simpa using hc
    rcases hsign with rfl | rfl | rfl | rfl | rfl
    all_goals decide
  · right
    have hsigns : c ≠ '&' ∧ c ≠ '<' ∧ c ≠ '>' ∧ c ≠ '"' ∧ c ≠ '\'' := by simpa using hc
    exact ⟨by simp only [attributeChar, quotedChar, textChar, hsigns, if_false], hc⟩

theorem decoded_escapeText (s : List Char) : decoded textReferences (escapeText s) = s := by
  apply decoded_flatMap isReadable_textReferences
  intro c
  refine (textChar_cases c).imp_right fun h => ⟨h.1, ?_⟩
  rintro rfl
  exact h.2 (by decide)

theorem decoded_escapeAttribute (s : List Char) :
    decoded attributeReferences (escapeAttribute s) = s := by
  apply decoded_flatMap isReadable_attributeReferences
  intro c
  refine (attributeChar_cases c).imp_right fun h => ⟨h.1, ?_⟩
  rintro rfl
  exact h.2 (by decide)

/-- Whether a text holds no angle and no quote of either kind. -/
abbrev Unsigned (s : List Char) : Prop :=
  ∀ c ∈ s, c ∉ "<>\"'".toList

theorem unsigned_escapeAttribute (s : List Char) : Unsigned (escapeAttribute s) := by
  have hreferences : (attributeReferences.all fun entry =>
      entry.1.all fun d => !"<>\"'".toList.contains d) = true := by decide
  intro d hd
  rcases List.mem_flatMap.1 hd with ⟨c, -, hc⟩
  rcases attributeChar_cases c with hentry | ⟨hself, hsign⟩
  · have hwritten := List.all_eq_true.1 (List.all_eq_true.1 hreferences _ hentry) d hc
    rw [Bool.not_eq_true', ← Bool.not_eq_true, List.contains_iff_mem] at hwritten
    exact hwritten
  · rw [hself, List.mem_singleton] at hc
    rw [hc]
    exact fun h => hsign (List.mem_cons_of_mem '&' h)

/-!
## Elements
-/

/-- What stands behind each opening angle, up to a closing one. -/
def tagsIn (s : List Char) : List (List Char) :=
  (splitOn '<' s).tail.map fun part => part.takeWhile (· ≠ '>')

/-- An element with a text in it. -/
def elementOf (name attributes content : List Char) : List Char :=
  '<' :: (name ++ attributes ++ '>' :: content) ++ '<' :: ('/' :: name ++ ['>'])

theorem takeWhile_tag {inner : List Char} (h : '>' ∉ inner) (rest : List Char) :
    (inner ++ '>' :: rest).takeWhile (· ≠ '>') = inner := by
  rw [List.takeWhile_append_of_pos, List.takeWhile_cons_of_neg, List.append_nil]
  · decide
  · intro c hc
    rw [decide_eq_true_iff]
    rintro rfl
    exact h hc

theorem tagsIn_elementOf {name attributes content : List Char} (hname : Flat name)
    (hattributes : Flat attributes) (hcontent : '<' ∉ content) :
    tagsIn (elementOf name attributes content) = [name ++ attributes, '/' :: name] := by
  have hopening := hname.append hattributes
  have hslash : Flat ['/'] := by decide
  have hclosing : Flat ('/' :: name) := hslash.append hname
  have hfirst : '<' ∉ name ++ attributes ++ '>' :: content := by
    simp [hname.1, hattributes.1, hcontent]
  have hlast : '<' ∉ '/' :: name ++ ['>'] := by
    simp [hname.1]
  rw [tagsIn, elementOf, splitOn_append, splitOn, if_pos rfl, splitOn_of_notMem hfirst,
    splitOn_of_notMem hlast]
  show [(name ++ attributes ++ '>' :: content).takeWhile (· ≠ '>'),
    ('/' :: name ++ ['>']).takeWhile (· ≠ '>')] = _
  rw [takeWhile_tag hopening.2, takeWhile_tag hclosing.2]

end Html
end Folio
