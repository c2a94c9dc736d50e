import Folio.Proofs.Heading.Slug
import Folio.Proofs.Math.Leftover
import Folio.Document.Rendered

/-!
# Tokens in rendered documents

Math is put back in the body and in the texts of the listed headings, but not in their anchors,
and only where a token stands in its own letter case. So a document shows no token exactly when
the prose keeps the case of all tokens and makes no anchor of one (`tokens_hidden_iff`). A heading
with math has an anchor that is made of a token, in small letters.
-/

namespace Folio
namespace Document

open Number Heading Math Text

variable {α : Type} [Scalar α]

/-- Whether a document shows no token of the segments, in whatever letter case. -/
def Rendered.HidesTokens (d : Rendered) (segments : List Segment) : Prop :=
  ∀ x ∈ segments, occursAnyCase x.token d.body = false ∧
    ∀ e ∈ d.headings, occursAnyCase x.token e.id = false ∧ occursAnyCase x.token e.text = false

instance (d : Rendered) (segments : List Segment) : Decidable (d.HidesTokens segments) :=
  inferInstanceAs (Decidable (∀ x ∈ segments, occursAnyCase x.token d.body = false ∧
    ∀ e ∈ d.headings, occursAnyCase x.token e.id = false ∧ occursAnyCase x.token e.text = false))

/-- Whether the prose keeps the case of the tokens, in the contents, in the markup and in the
texts of the listed headings, and makes no anchor of one. -/
def Prepared.KeepsTokens (p : Prepared) (s : Settings α) : Prop :=
  ∀ x ∈ p.segments, KeepsCase x.token (contentsOf p s ++ p.markup) ∧
    ∀ e ∈ p.headings, occursAnyCase x.token e.id = false ∧ KeepsCase x.token e.text

instance (p : Prepared) (s : Settings α) : Decidable (p.KeepsTokens s) :=
  inferInstanceAs (Decidable (∀ x ∈ p.segments, KeepsCase x.token (contentsOf p s ++ p.markup) ∧
    ∀ e ∈ p.headings, occursAnyCase x.token e.id = false ∧ KeepsCase x.token e.text))

/-!
## The header
-/

section

variable {w : List Char} {n i : Nat}

theorem clear_digitsOf (hw : SameLetters w (tokenOf (stemOf n) i)) (k : Nat) :
    Clear w (Number.digitsOf k) := by
  apply clear_of_notMem_letters hw
  · intro hmem
    exact absurd (isDigit_of_mem_digitsOf hmem) (by decide)
  · intro hmem
    exact absurd (isDigit_of_mem_digitsOf hmem) (by decide)

theorem clear_dateLine (hw : SameLetters w (tokenOf (stemOf n) i)) (d : Direction)
    (today : Date) : Clear w (dateLine d today) := by
  have hmonth : forall month, Clear ['m', 'd'] (lowered (monthText d month)) := by
    cases d with
    | rtl => decide
    | ltr => decide
  have hblank : Clear w [' '] := clear_of_clear_start hw (by decide)
  have hdate : Clear w (today.text d) :=
    ((clear_digitsOf hw today.day).append (hblank.append
      (clear_of_clear_start hw (hmonth today.month)))).append
        (hblank.append (clear_digitsOf hw today.year))
  exact ((clear_of_clear_start hw (by decide)).append hdate).append
    (clear_of_clear_start hw (by decide))

/-- The header holds no token in any letter case that the title does not hold. -/
theorem clear_headerUnder (hw : SameLetters w (tokenOf (stemOf n) i)) {title : List Char}
    (htitle : occurs w title = false) (d : Direction) (showsDate : Bool) (today : Date) :
    Clear w (headerUnder title d showsDate today) := by
  have hescaped : Clear w (Html.escapeAttribute title ++ "</h1>\n".toList) := by
    have hend : "</h1>\n".toList = '<' :: "/h1>\n".toList := rfl
    have hlast : (Html.escapeAttribute title ++ "</h1>\n".toList).getLast? = some '\n' := by
      rw [List.getLast?_append]
      rfl
    refine clear_of_not_occurs ?_ hlast (notMem_of_sameLetters hw (by decide))
    rw [hend, occurs_append_cons (ne_nil_of_sameLetters hw) (notMem_of_sameLetters hw (by decide)),
      Html.escapeAttribute, occurs_escaped hw attributeChar_eq_or, htitle,
      (clear_of_clear_start hw (by decide)).not_occurs (ne_nil_of_sameLetters hw)]
    rfl
  have hdate : Clear w (if showsDate then dateLine d today else []) := by
    split
    · exact clear_dateLine hw d today
    · trivial
  unfold headerUnder
  split
  · trivial
  · rw [List.append_assoc _ (Html.escapeAttribute title)]
    exact (((clear_of_clear_start hw (by decide)).append hescaped).append hdate).append
      (clear_of_clear_start hw (by decide))

end

theorem clear_header {s : Settings α} {today : Date} {head : List Char}
    (hhead : header s today = .ok head) {w : List Char} {n i : Nat}
    (hw : SameLetters w (tokenOf (stemOf n) i))
    (htitle : ∀ title, s.titleText? = some title -> occurs w title = false) : Clear w head := by
  unfold header titleOf at hhead
  split at hhead
  next title hsome =>
    cases hhead
    exact clear_headerUnder hw (htitle title hsome) _ _ today
  · cases hhead

/-!
## The document
-/

/-- A token stands in the body in some letter case exactly when it stands so in the contents or
the prose. -/
theorem occursAnyCase_append_header {s : Settings α} {today : Date} {source head : List Char}
    (htitle : ∀ title, s.titleText? = some title -> occursAnyCase tokenStem title = false)
    (hhead : header s today = .ok head) {x : Segment} (hx : x ∈ (extract source).segments)
    (rest : List Char) : occursAnyCase x.token (head ++ rest) = occursAnyCase x.token rest := by
  rcases exists_recoverable_extract source with ⟨n, hrecoverable⟩
  rcases hrecoverable.numbered x hx with ⟨i, hi⟩
  have hclear : ∀ w, SameLetters w x.token -> Clear w head := by
    intro w hw
    refine clear_header (n := n) (i := i) hhead (hi ▸ hw) fun title hsome => ?_
    exact not_occursAnyCase_iff.1 (not_occursAnyCase_token hx (htitle title hsome)) w hw
  rw [Bool.eq_iff_iff, occursAnyCase_iff, occursAnyCase_iff]
  refine exists_congr fun w => and_congr_right fun hw => ?_
  rw [(hclear w hw).occurs_append]

/-- A token in the text of a heading stands in its anchor, in small letters. -/
theorem occursAnyCase_anchor {source text : List Char} {x : Segment}
    (hx : x ∈ (extract source).segments) (h : occurs x.token text = true) (count : Nat) :
    occursAnyCase x.token (anchor text count) = true := by
  rcases exists_recoverable_extract source with ⟨n, hrecoverable⟩
  rcases hrecoverable.numbered x hx with ⟨i, hi⟩
  rw [hi] at h ⊢
  have hword : ∀ c ∈ tokenOf (stemOf n) i, c.isAlphanum = true := by
    intro c hc
    rw [← Bool.not_eq_false]
    intro hsign
    exact notMem_of_sameLetters (SameLetters.refl _) hsign hc
  exact occursAnyCase_iff.2 ⟨_, sameLetters_lowered_tokenOf n i,
    occurs_anchor (tokenOf_ne_nil _ i) hword h count⟩

/-- A document shows no token in any letter case exactly when the prose keeps the case of all
tokens and makes no anchor of one. A heading whose text holds a token has an anchor that is made
of it, so a listed heading with math always shows one. -/
theorem tokens_hidden_iff {s : Settings α} {today : Date} {source : List Char} {d : Rendered}
    (hsource : occursAnyCase tokenStem source = false)
    (htitle : ∀ title, s.titleText? = some title -> occursAnyCase tokenStem title = false)
    (hrender : render (some deferred) s today source = .ok (some d)) :
    (d.HidesTokens (extract source).segments ↔ (prepare source).KeepsTokens s) ∧
    ∀ x ∈ (extract source).segments, ∀ text, occurs x.token text = true ->
      ∀ count, occursAnyCase x.token (anchor text count) = true := by
  refine ⟨?_, fun x hx text htext count => occursAnyCase_anchor hx htext count⟩
  rcases parts_of_render hrender with ⟨sheet, head, -, hhead, rfl⟩
  refine forall₂_congr fun x hx => and_congr ?_ ?_
  · exact (occursAnyCase_append_header htitle hhead hx _).congr_left.trans
      (occursAnyCase_restore hsource hx _)
  · simp only [assemble, List.forall_mem_map, restoreEntry]
    refine forall₂_congr fun e _ => and_congr Iff.rfl ?_
    exact occursAnyCase_restore hsource hx e.text

/-- Math below a heading. -/
theorem tokens_hidden_of_paragraph :
    exists d, render (some deferred) (Settings.default : Settings Float) ⟨2026, 0, 1⟩
        "# A\n\n$x$".toList = .ok (some d) ∧
      d.HidesTokens (extract "# A\n\n$x$".toList).segments := by
  have hsource : occursAnyCase tokenStem "# A\n\n$x$".toList = false := by decide
  have htitle : ∀ title, (Settings.default : Settings Float).titleText? = some title ->
      occursAnyCase tokenStem title = false := by
    rintro title ⟨⟩
    decide
  have hrender : exists d, render (some deferred) (Settings.default : Settings Float) ⟨2026, 0, 1⟩
      "# A\n\n$x$".toList = .ok (some d) := ⟨_, rfl⟩
  rcases hrender with ⟨d, hd⟩
  refine ⟨d, hd, (tokens_hidden_iff hsource htitle hd).1.2 ?_⟩
  decide +kernel

/-- Math in a heading. The anchor is made of the token, so it tells how much math comes before. -/
theorem tokens_shown_of_heading :
    occursAnyCase tokenStem "# $x$".toList = false ∧
    (Settings.default : Settings Float).titleText? = some [] ∧
    exists d e,
      render (some deferred) (Settings.default : Settings Float) ⟨2026, 0, 1⟩ "# $x$".toList =
        .ok (some d) ∧
      ¬ d.HidesTokens (extract "# $x$".toList).segments ∧
      d.headings.map (·.id) = ["mdcmath0x-1".toList] ∧
      render (some deferred) (Settings.default : Settings Float) ⟨2026, 0, 1⟩
        "$a$\n\n# $x$".toList = .ok (some e) ∧
      e.headings.map (·.id) = ["mdcmath1x-1".toList] := by
  refine ⟨by decide, rfl, _, _, rfl, ?_, ?_, rfl, ?_⟩
  · decide +kernel
  · decide +kernel
  · decide +kernel

end Document
end Folio
