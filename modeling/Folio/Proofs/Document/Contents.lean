import Folio.Proofs.Document.Declared
import Folio.Proofs.Math.Around

/-!
# Where the table of contents stands

The table of contents stands between the header and the prose, and math is put back in all of
it at once. It ends with a tag that no place of a token touches, so math is put back in it as
if it stood alone (`restoreWith_contents`), even where the markup of some math holds tokens. A
document with a table of contents is the one without, with the table inserted behind the
header: `contents_inserted`.
-/

namespace Folio
namespace Document

open Number Heading Math Text

/-- A table of contents is empty, or its last tag closes it and a line end follows. -/
theorem contents_eq_nil_or (entries : List Entry) (enabled : Bool) (direction : List Char) :
    contents entries enabled direction = [] ∨
      exists front, contents entries enabled direction = front ++ ("</nav>".toList ++ ['\n']) := by
  unfold contents
  split
  · exact Or.inl rfl
  · refine Or.inr ⟨"<nav class=\"doc-toc\">\n<div class=\"toc-title\">".toList ++
      contentsTitle direction ++ "</div>\n<ul>\n".toList ++
      joinWith ['\n'] (entries.map contentsItem) ++ "\n</ul>\n".toList, ?_⟩
    have hend : "\n</ul>\n</nav>\n".toList =
        "\n</ul>\n".toList ++ ("</nav>".toList ++ ['\n']) := by decide
    simp only [hend, List.append_assoc]

theorem solid_navEnd : Solid "</nav>".toList where
  opens := ⟨['/', 'n', 'a', 'v', '>'], by decide, fun h =>
    absurd (meets_cons_cons.1 (meets_cons_cons.1 h).2).1 (by decide)⟩
  closes := ⟨"</na".toList, 'v', by decide, by decide⟩
  free n i := not_occurs_tokenOf_of_notMem (by decide) n i

/-- Math is put back in the table of contents and in what follows it by themselves. -/
theorem restoreWith_contents {n : Nat} {segments : List Segment}
    (hsegments : ∀ s ∈ segments, s.Numbered n) (answer : Segment -> Outcome)
    (entries : List Entry) (enabled : Bool) (direction y : List Char) :
    restoreWith answer segments (contents entries enabled direction ++ y) =
      restoreWith answer segments (contents entries enabled direction) ++
        restoreWith answer segments y := by
  rcases contents_eq_nil_or entries enabled direction with hnil | ⟨front, hfront⟩
  · rw [hnil, restoreWith_nil hsegments]
    rfl
  · have haround : forall y, restoreWith answer segments
        (front ++ ("</nav>".toList ++ (['\n'] ++ y))) = restoreWith answer segments front ++
          ("</nav>".toList ++ (['\n'] ++ restoreWith answer segments y)) := by
      intro y
      rw [solid_navEnd.restoreWith hsegments,
        restoreWith_append_of_notMem hsegments answer (by decide) (by decide)]
    have halone := haround []
    rw [List.append_nil, restoreWith_nil hsegments] at halone
    rw [hfront, halone, List.append_assoc, List.append_assoc, haround]
    simp only [List.append_assoc, List.append_nil]

variable {α : Type} [Scalar α]

/-- The contents and the prose of a document, with math put back in each of them. -/
theorem proseOf_eq (setter : Typesetter) (s : Settings α) (source : List Char) :
    proseOf setter s (prepare source) =
      restore (some setter) (extract source).segments (contentsOf (prepare source) s) ++
        restore (some setter) (extract source).segments (prepare source).markup := by
  rcases exists_recoverable_extract source with ⟨n, h⟩
  exact restoreWith_contents h.numbered _ _ _ _ _

/-- A document with a table of contents is the one without, with the table inserted between
the header and the prose. Math is put back in the table as if it stood alone, whatever the
typesetter answers. If one of the two cannot be rendered, the other fails in the same way. -/
theorem contents_inserted (setter : Typesetter) (s : Settings α) (today : Date)
    (source : List Char) {on off : Value α} (hon : on.truthy = true) (hoff : off.truthy = false) :
    (exists e, render (some setter) { s with showToc := off } today source = .error e ∧
      render (some setter) { s with showToc := on } today source = .error e) ∨
    exists head rest d, header s today = .ok head ∧ d.body = head ++ rest ∧
      render (some setter) { s with showToc := off } today source = .ok (some d) ∧
      render (some setter) { s with showToc := on } today source =
        .ok (some { d with
          body := head ++ (restore (some setter) (extract source).segments
            (contents (prepare source).headings true s.direction.name) ++ rest) }) := by
  have hcontents : forall v : Value α,
      contentsOf (prepare source) { s with showToc := v } =
        contents (prepare source).headings v.truthy s.direction.name := fun v => rfl
  have hempty : contents (prepare source).headings false s.direction.name = [] := rfl
  have hsheet : forall v : Value α,
      Style.stylesheet { s with showToc := v } = Style.stylesheet s := fun v => rfl
  have hheader : forall v : Value α, header { s with showToc := v } today = header s today :=
    fun v => rfl
  cases hs : Style.stylesheet s with
  | error e =>
      exact Or.inl ⟨.conversion e, render_eq_conversion ((hsheet off).trans hs),
        render_eq_conversion ((hsheet on).trans hs)⟩
  | ok sheet =>
      cases hh : header s today with
      | error e =>
          exact Or.inl ⟨e, render_eq_error ((hsheet off).trans hs) ((hheader off).trans hh),
            render_eq_error ((hsheet on).trans hs) ((hheader on).trans hh)⟩
      | ok head =>
          rcases exists_recoverable_extract source with ⟨n, hsegments⟩
          have hnil : restore (some setter) (extract source).segments [] = [] :=
            restoreWith_nil hsegments.numbered _
          have hwithout : proseOf setter { s with showToc := off } (prepare source) =
              restore (some setter) (extract source).segments (prepare source).markup := by
            rw [proseOf_eq, hcontents, hoff, hempty, hnil, List.nil_append]
          have hwith : proseOf setter { s with showToc := on } (prepare source) =
              restore (some setter) (extract source).segments
                  (contents (prepare source).headings true s.direction.name) ++
                restore (some setter) (extract source).segments (prepare source).markup := by
            rw [proseOf_eq, hcontents, hon]
          rw [render_eq_ok ((hsheet off).trans hs) ((hheader off).trans hh),
            render_eq_ok ((hsheet on).trans hs) ((hheader on).trans hh), hwithout, hwith]
          refine Or.inr ⟨head, _, assemble setter (prepare source) _ sheet, rfl, rfl, rfl, ?_⟩
          simp only [assemble]

/-- A heading with math, under settings that have no title. -/
theorem contents_inserted_of_heading :
    exists head rest d,
      header (Settings.default : Settings Float) ⟨2026, 0, 1⟩ = .ok head ∧ d.body = head ++ rest ∧
      render (some deferred) { (Settings.default : Settings Float) with showToc := .bool false }
        ⟨2026, 0, 1⟩ "# A $x$".toList = .ok (some d) ∧
      render (some deferred) { (Settings.default : Settings Float) with showToc := .bool true }
        ⟨2026, 0, 1⟩ "# A $x$".toList =
        .ok (some { d with
          body := head ++ (restore (some deferred) (extract "# A $x$".toList).segments
            (contents (prepare "# A $x$".toList).headings true "rtl".toList) ++ rest) }) := by
  have hon : (Value.bool true : Value Float).truthy = true := rfl
  have hoff : (Value.bool false : Value Float).truthy = false := rfl
  have hrender : exists d,
      render (some deferred) { (Settings.default : Settings Float) with showToc := .bool false }
        ⟨2026, 0, 1⟩ "# A $x$".toList = .ok (some d) := ⟨_, rfl⟩
  rcases hrender with ⟨d, hd⟩
  rcases contents_inserted deferred (Settings.default : Settings Float) ⟨2026, 0, 1⟩
    "# A $x$".toList hon hoff with ⟨e, he, -⟩ | h
  · rw [hd] at he
    cases he
  · exact h

end Document
end Folio
