import Folio.Heading.Contents
import Folio.Proofs.Heading.Written
import Folio.Proofs.Text.Encoded
import Folio.Proofs.Text.Low
import Mathlib.Data.List.Chain

/-!
# Names of headings

Whatever the text of a heading is, its name is made of words with single hyphens between them,
and it stands in the tag of the heading and in the table of contents as it is. The text is
lowered after all but word characters were dropped, and lowering the capital I with a dot gives
a dot above, which is no word character. So a name holds only word characters and hyphens, and
is its own name, exactly if that letter is not in the text (`slug_is_name_iff`).
-/

namespace Folio
namespace Text

/-!
## Characters at both ends
-/

section

variable {p : Char -> Bool} {s : List Char}

theorem not_of_getLast?_dropRightWhile {c : Char} (h : (dropRightWhile p s).getLast? = some c) :
    p c = false := by
  rcases Bool.eq_false_or_eq_true (p c) with hc | hc
  · -- Dropping once more would make the text shorter.
    rcases dropRightWhile_append p s with ⟨tail, hs, htail⟩
    have hagain := dropRightWhile_append_of_all (dropRightWhile p s) htail
    have hshorter := length_dropRightWhile_lt h hc
    rw [← hagain, ← hs] at hshorter
    exact absurd hshorter (Nat.lt_irrefl _)
  · exact hc

/-- Nothing is dropped if neither end is to be dropped. -/
theorem stripped_eq_self (hfirst : ∀ c ∈ s.head?, p c = false)
    (hlast : ∀ c ∈ s.getLast?, p c = false) : dropRightWhile p (s.dropWhile p) = s := by
  have hfront : s.dropWhile p = s := by
    cases s with
    | nil => rfl
    | cons c rest =>
        rw [List.dropWhile_cons, hfirst c rfl]
        rfl
  rw [hfront, dropRightWhile_eq_self hlast]

/-- A character that is not to be dropped stays. -/
theorem mem_stripped {c : Char} (hc : p c = false) (h : c ∈ s) :
    c ∈ dropRightWhile p (s.dropWhile p) := by
  have hfront : c ∈ s.dropWhile p := by
    rw [← List.takeWhile_append_dropWhile (p := p) (l := s)] at h
    rcases List.mem_append.1 h with h | h
    · rw [List.all_eq_true.1 List.all_takeWhile c h] at hc
      cases hc
    · exact h
  rcases dropRightWhile_append p (s.dropWhile p) with ⟨tail, htail, hall⟩
  rw [htail] at hfront
  rcases List.mem_append.1 hfront with h | h
  · exact h
  · rw [List.all_eq_true.1 hall c h] at hc
    cases hc

end

end Text

namespace Heading

open Text

/-!
## What a name is
-/

/-- Text in which single hyphens stand between words. -/
structure IsName (s : List Char) : Prop where
  nonempty : s ≠ []
  unparted : ∀ c ∈ s, isBlank c = false ∧ c ≠ '_'
  first : s.head? ≠ some '-'
  last : s.getLast? ≠ some '-'
  single : ¬ ['-', '-'] <:+: s

/-- Whether a text holds only word characters and hyphens. -/
def IsPlain (s : List Char) : Prop :=
  ∀ c ∈ s, isWord c = true ∨ c = '-'

instance (s : List Char) : Decidable (IsPlain s) :=
  inferInstanceAs (Decidable (∀ c ∈ s, _ ∨ _))

/-- The capital I with a dot. -/
def dottedI : Char := Char.ofNat 0x130

/-- The dot that is left when the capital I with a dot is lowered. -/
def dotAbove : Char := Char.ofNat 0x307

/-!
## Hyphens
-/

/-- Of two characters that stand side by side one is no hyphen. -/
def Hyphened (s : List Char) : Prop :=
  s.IsChain fun c d => ¬ (c = '-' ∧ d = '-')

theorem hyphened_iff {s : List Char} : Hyphened s ↔ ¬ ['-', '-'] <:+: s := by
  constructor
  · intro h hin
    have hpair := List.IsChain.infix h hin
    rw [List.isChain_pair] at hpair
    exact hpair ⟨rfl, rfl⟩
  · intro h
    apply List.isChain_iff_forall_rel_of_append_cons_cons.2
    rintro c d before after hs ⟨rfl, rfl⟩
    exact h ⟨before, after, by rw [hs, List.append_assoc]; rfl⟩

theorem ne_hyphen_of_parts {c : Char} (h : parts c = false) : c ≠ '-' := by
  rintro rfl
  exact absurd h (by decide)

theorem parts_of_mem_hyphenated {inRun : Bool} {s : List Char} {d : Char}
    (h : d ∈ hyphenated inRun s) : d = '-' ∨ d ∈ s ∧ parts d = false := by
  induction s generalizing inRun with
  | nil => cases h
  | cons c rest ih =>
      have hrest (r : Bool) (hd : d ∈ hyphenated r rest) :
          d = '-' ∨ d ∈ c :: rest ∧ parts d = false :=
        (ih hd).imp_right fun hd => ⟨List.mem_cons_of_mem c hd.1, hd.2⟩
      rw [hyphenated] at h
      split at h
      · split at h
        · exact hrest true h
        · rcases List.mem_cons.1 h with hd | h
          · exact Or.inl hd
          · exact hrest true h
      next hparts =>
        rcases List.mem_cons.1 h with rfl | h
        · exact Or.inr ⟨List.mem_cons_self, Bool.eq_false_iff.2 hparts⟩
        · exact hrest false h

theorem mem_hyphenated {inRun : Bool} {s : List Char} {d : Char} (hd : d ∈ s)
    (hparts : parts d = false) : d ∈ hyphenated inRun s := by
  induction s generalizing inRun with
  | nil => cases hd
  | cons c rest ih =>
      rw [hyphenated]
      rcases List.mem_cons.1 hd with rfl | hd
      · rw [hparts]
        exact List.mem_cons_self
      · split
        · split
          · exact ih hd
          · exact List.mem_cons_of_mem _ (ih hd)
        · exact List.mem_cons_of_mem _ (ih hd)

/-- Within a run of parting characters no hyphen is written first. -/
theorem hyphened_hyphenated (inRun : Bool) (s : List Char) :
    Hyphened (hyphenated inRun s) ∧ (inRun = true -> (hyphenated inRun s).head? ≠ some '-') := by
  induction s generalizing inRun with
  | nil => exact ⟨List.IsChain.nil, fun _ h => nomatch h⟩
  | cons c rest ih =>
      rw [hyphenated]
      split
      · split
        next hrun =>
          exact ⟨(ih true).1, fun _ => (ih true).2 rfl⟩
        next hrun =>
          constructor
          · apply List.isChain_cons.2
            refine ⟨?_, (ih true).1⟩
            rintro d hd ⟨-, rfl⟩
            exact (ih true).2 rfl hd
          · intro h
            exact absurd h hrun
      next hparts =>
        have hc := ne_hyphen_of_parts (Bool.eq_false_iff.2 hparts)
        constructor
        · apply List.isChain_cons.2
          refine ⟨?_, (ih false).1⟩
          rintro d - ⟨hhyphen, -⟩
          exact hc hhyphen
        · intro _ hhead
          exact hc (Option.some.inj hhead)

/-- Text in which only single hyphens part the words stays as it is. -/
theorem hyphenated_eq_self {inRun : Bool} {s : List Char} (hchain : Hyphened s)
    (hparts : ∀ c ∈ s, parts c = true -> c = '-')
    (hfirst : inRun = true -> s.head? ≠ some '-') : hyphenated inRun s = s := by
  induction s generalizing inRun with
  | nil => rfl
  | cons c rest ih =>
      have hrest (r : Bool) (hfirst : r = true -> rest.head? ≠ some '-') :
          hyphenated r rest = rest :=
        ih hchain.tail (fun d hd => hparts d (List.mem_cons_of_mem c hd)) hfirst
      rw [hyphenated]
      split
      next hc =>
        have hhyphen := hparts c List.mem_cons_self hc
        rw [if_neg fun hrun => hfirst hrun (congrArg some hhyphen), hhyphen]
        rw [hrest true]
        intro _ hhead
        exact (List.isChain_cons.1 hchain).1 '-' hhead ⟨hhyphen, rfl⟩
      · rw [hrest false]
        intro h
        cases h

theorem stripHyphens_isInfix (s : List Char) : stripHyphens s <:+: s := by
  rcases dropRightWhile_append (· = '-') (s.dropWhile (· = '-')) with ⟨tail, htail, -⟩
  have hprefix : stripHyphens s <+: s.dropWhile (· = '-') := ⟨tail, htail.symm⟩
  exact hprefix.isInfix.trans (List.dropWhile_suffix _).isInfix

theorem head?_stripHyphens (s : List Char) : (stripHyphens s).head? ≠ some '-' := by
  intro hhead
  rcases dropRightWhile_append (· = '-') (s.dropWhile (· = '-')) with ⟨tail, htail, -⟩
  have hfirst : (stripHyphens s ++ tail).head? = some '-' := by
    rw [List.head?_append, hhead]
    rfl
  have hkept := List.head?_dropWhile_not (· = '-') s
  rw [stripHyphens, ← htail] at hfirst
  rw [hfirst] at hkept
  exact absurd hkept (by decide)

theorem getLast?_stripHyphens (s : List Char) : (stripHyphens s).getLast? ≠ some '-' := by
  intro hlast
  exact absurd (not_of_getLast?_dropRightWhile hlast) (by decide)

/-!
## The name of a text
-/

/-- The name of a text before the word for none is put in its place. -/
def bareSlug (text : List Char) : List Char :=
  stripHyphens (hyphenated false (lower (trim (text.filter counts))))

theorem slug_of_ne_nil {text : List Char} (h : bareSlug text ≠ []) :
    slug text = bareSlug text :=
  if_neg fun hempty => h (List.isEmpty_iff.1 hempty)

theorem slug_of_lower {text counted s : List Char} (hcounted : text.filter counts = counted)
    (hlower : lower (trim counted) = s) (hs : stripHyphens (hyphenated false s) = s)
    (hne : s ≠ []) : slug text = s := by
  have hbare : bareSlug text = s := by
    rw [bareSlug, hcounted, hlower, hs]
  rw [slug_of_ne_nil (by rwa [hbare]), hbare]

theorem slug_cases (text : List Char) :
    slug text = "section".toList ∨ slug text = bareSlug text ∧ bareSlug text ≠ [] := by
  by_cases hempty : bareSlug text = []
  · exact Or.inl (if_pos (List.isEmpty_iff.2 hempty))
  · exact Or.inr ⟨slug_of_ne_nil hempty, hempty⟩

/-- What is true of the letters of the word for none and of bare names is true of names. -/
theorem of_mem_slug {P : Char -> Prop} [DecidablePred P] {text : List Char}
    (hnone : ("section".toList.all fun d => P d) = true) (hbare : ∀ d ∈ bareSlug text, P d)
    {d : Char} (h : d ∈ slug text) : P d := by
  rcases slug_cases text with hslug | ⟨hslug, -⟩
  · rw [hslug] at h
    exact forall_mem_of_all hnone d h
  · rw [hslug] at h
    exact hbare d h

theorem parts_of_mem_slug {text : List Char} {d : Char} (h : d ∈ slug text) :
    parts d = false ∨ d = '-' := by
  refine of_mem_slug (P := fun d => parts d = false ∨ d = '-') (by decide) ?_ h
  intro d hd
  rcases parts_of_mem_hyphenated (mem_of_mem_stripHyphens hd) with hhyphen | ⟨-, hparts⟩
  · exact Or.inr hhyphen
  · exact Or.inl hparts

theorem isLow_of_mem_slug {text : List Char} {d : Char} (h : d ∈ slug text) : IsLow d := by
  refine of_mem_slug (by decide) ?_ h
  intro d hd
  rcases mem_of_mem_hyphenated (mem_of_mem_stripHyphens hd) with rfl | hlower
  · decide
  · exact isLow_of_mem_lower hlower

/-- What counts for a name is lowered to what counts for a name, but for the dot above. -/
theorem counts_of_mem_lowerChar {c d : Char} (hc : counts c = true) (hd : d ∈ lowerChar c) :
    counts d = true ∨ d = dotAbove ∧ c = dottedI := by
  have hsame (h : IsLow c) : counts d = true := by
    rw [h, List.mem_singleton] at hd
    rw [hd]
    exact hc
  rw [counts, Bool.or_eq_true, Bool.or_eq_true] at hc
  rcases hc with (hword | hblank) | hhyphen
  · by_cases hdotted : c = dottedI
    · rw [hdotted, show lowerChar dottedI = ['i', dotAbove] by decide] at hd
      rcases List.mem_cons.1 hd with rfl | hd
      · exact Or.inl (by decide)
      · exact Or.inr ⟨List.mem_singleton.1 hd, hdotted⟩
    · have hcode : c.toNat ≠ 0x130 := by
        intro h
        exact hdotted (by rw [← Char.ofNat_toNat c, h]; rfl)
      left
      rw [counts, isWord_of_mem_lowerChar hword hcode hd]
      rfl
  · exact Or.inl (hsame (isLow_of_isBlank hblank))
  · refine Or.inl (hsame ?_)
    rw [of_decide_eq_true hhyphen]
    decide

/-- A name holds word characters and hyphens, and what the capital I with a dot leaves. -/
theorem isWord_of_mem_slug {text : List Char} {d : Char} (h : d ∈ slug text) :
    (isWord d = true ∨ d = '-') ∨ d = dotAbove ∧ dottedI ∈ text := by
  rcases slug_cases text with hslug | ⟨hslug, -⟩
  · rw [hslug] at h
    have hall : ("section".toList.all fun d => isWord d) = true := by decide
    exact Or.inl (Or.inl (List.all_eq_true.1 hall d h))
  · rw [hslug] at h
    rcases parts_of_mem_hyphenated (mem_of_mem_stripHyphens h) with hhyphen | ⟨hlower, hparts⟩
    · exact Or.inl (Or.inr hhyphen)
    · rcases mem_lowerFrom hlower with ⟨c, hc, hd | ⟨-, rfl⟩⟩
      · have hmem := List.mem_filter.1 (mem_of_mem_trim hc)
        rcases counts_of_mem_lowerChar hmem.2 hd with hcounts | ⟨hdot, rfl⟩
        · left
          rw [parts, Bool.or_eq_false_iff, Bool.or_eq_false_iff] at hparts
          rw [counts, hparts.1.1, Bool.or_false, Bool.or_eq_true, decide_eq_true_eq] at hcounts
          exact hcounts
        · exact Or.inr ⟨hdot, hmem.1⟩
      · exact Or.inl (Or.inl (by decide))

/-- The dot that the capital I with a dot leaves stands in the name. -/
theorem dotAbove_mem_slug {text : List Char} (h : dottedI ∈ text) : dotAbove ∈ slug text := by
  have hcounted : dottedI ∈ text.filter counts :=
    List.mem_filter.2 ⟨h, by decide⟩
  have htrimmed : dottedI ∈ trim (text.filter counts) :=
    mem_stripped (p := isBlank) (by decide) hcounted
  have hlowered : dotAbove ∈ lower (trim (text.filter counts)) :=
    mem_lowerFrom_of_mem htrimmed (by decide) (by decide)
  have hbare : dotAbove ∈ bareSlug text :=
    mem_stripped (p := (· = '-')) (by decide) (mem_hyphenated hlowered (by decide))
  rw [slug_of_ne_nil (List.ne_nil_of_mem hbare)]
  exact hbare

theorem isName_slug (text : List Char) : IsName (slug text) := by
  have hparted : ∀ c ∈ slug text, isBlank c = false ∧ c ≠ '_' := by
    intro c hc
    rcases parts_of_mem_slug hc with hparts | rfl
    · rw [parts, Bool.or_eq_false_iff, Bool.or_eq_false_iff] at hparts
      exact ⟨hparts.1.1, of_decide_eq_false hparts.1.2⟩
    · decide
  rcases slug_cases text with hslug | ⟨hslug, hne⟩
  · rw [hslug] at hparted ⊢
    exact ⟨by decide, hparted, by decide, by decide, by decide⟩
  · rw [hslug] at hparted ⊢
    refine ⟨hne, hparted, head?_stripHyphens _, getLast?_stripHyphens _, ?_⟩
    intro hpair
    have hwithin := List.IsInfix.trans hpair (stripHyphens_isInfix _)
    exact hyphened_iff.1 (hyphened_hyphenated false _).1 hwithin

/-- A name of word characters and hyphens that cannot be lowered is its own name. -/
theorem slug_eq_self {s : List Char} (hname : IsName s) (hplain : IsPlain s)
    (hlow : ∀ c ∈ s, IsLow c) : slug s = s := by
  have hcounted : s.filter counts = s := by
    apply List.filter_eq_self.2
    intro c hc
    rcases hplain c hc with hword | rfl
    · rw [counts, hword]
      rfl
    · decide
  have htrimmed : trim s = s :=
    stripped_eq_self (fun c hc => (hname.unparted c (List.mem_of_head? hc)).1)
      fun c hc => (hname.unparted c (List.mem_of_getLast? hc)).1
  have hhyphened : hyphenated false s = s := by
    refine hyphenated_eq_self (hyphened_iff.2 hname.single) ?_ nofun
    intro c hc hparts
    have hunparted := hname.unparted c hc
    rw [parts, hunparted.1, decide_eq_false hunparted.2] at hparts
    exact of_decide_eq_true hparts
  have hstripped : stripHyphens s = s := by
    apply stripped_eq_self
    · intro c hc
      exact decide_eq_false fun h => hname.first (h ▸ hc)
    · intro c hc
      exact decide_eq_false fun h => hname.last (h ▸ hc)
  refine slug_of_lower hcounted ?_ ?_ hname.nonempty
  · rw [htrimmed, lower_of_isLow hlow]
  · rw [hhyphened, hstripped]

theorem isPlain_slug_iff (text : List Char) : IsPlain (slug text) ↔ dottedI ∉ text := by
  constructor
  · intro hplain hdotted
    have hdot : ¬ (isWord dotAbove = true ∨ dotAbove = '-') := by decide
    exact hdot (hplain dotAbove (dotAbove_mem_slug hdotted))
  · intro hdotted d hd
    rcases isWord_of_mem_slug hd with hword | ⟨-, hmem⟩
    · exact hword
    · exact absurd hmem hdotted

theorem dottedI_notMem_slug (text : List Char) : dottedI ∉ slug text := by
  intro h
  exact (isLow_of_mem_slug h).toNat_ne.2 rfl

theorem slug_slug_iff (text : List Char) : slug (slug text) = slug text ↔ dottedI ∉ text := by
  constructor
  · intro hsame
    apply (isPlain_slug_iff text).1
    rw [← hsame]
    exact (isPlain_slug_iff (slug text)).2 (dottedI_notMem_slug text)
  · intro hdotted
    exact slug_eq_self (isName_slug text) ((isPlain_slug_iff text).2 hdotted)
      fun _ => isLow_of_mem_slug

/-!
## Anchors as they are written
-/

/-- Nothing in an anchor is escaped for quotes of either kind. -/
theorem attributeChar_of_mem_anchor {text : List Char} {count : Nat} {d : Char}
    (h : d ∈ anchor text count) : Html.attributeChar d = [d] := by
  have hquote : d ≠ '\'' := by
    rintro rfl
    rcases List.mem_append.1 h with hslug | hcount
    · rcases isWord_of_mem_slug hslug with hword | ⟨hdot, -⟩
      · revert hword
        decide
      · exact absurd hdot (by decide)
    · rcases List.mem_cons.1 hcount with hhyphen | hdigit
      · exact absurd hhyphen (by decide)
      · exact absurd (Math.isDigit_of_mem_digitsOf hdigit) (by decide)
  rw [Html.attributeChar, if_neg hquote]
  exact quotedChar_of_mem_anchor h

theorem escapeAttribute_anchor (text : List Char) (count : Nat) :
    Html.escapeAttribute (anchor text count) = anchor text count :=
  flatMap_eq_self fun _ => attributeChar_of_mem_anchor

/-- A tag that opens a heading with an anchor as it is. -/
def headingTag (level : Nat) (id : List Char) : List Char :=
  '<' :: Prose.headingElement level ++ " id=\"".toList ++ id ++ "\">".toList

/-- A line of the table of contents with an anchor as it is. -/
def contentsLine (level : Nat) (id text : List Char) : List Char :=
  "<li class=\"toc-level-".toList ++ Number.digitsOf level ++ "\"><a href=\"#".toList ++ id ++
    "\" data-heading-id=\"".toList ++ id ++ "\">".toList ++ text ++ "</a></li>".toList

theorem markup_heading (defs : Link.Definitions) (previous next : Option Prose.Block)
    (count level : Nat) (text : List Char) :
    (Prose.renderBlock defs previous next (some count) (.heading level text)).markup =
      Prose.lead previous ++ headingTag level (anchor text (count + 1)) ++
        Prose.renderParts (Prose.content defs false text) ++ "</".toList ++
        Prose.headingElement level ++ ">\n".toList := by
  simp only [Prose.renderBlock, Prose.renderHeading, Prose.element, Prose.attributeMarkup,
    escapeQuoted_anchor, headingTag, List.append_assoc, List.cons_append]
  rfl

theorem contentsItem_anchor (text inner : List Char) (count level : Nat) :
    contentsItem ⟨anchor text count, inner, level⟩ =
      contentsLine level (anchor text count) inner := by
  unfold contentsItem contentsLine
  simp only
  rw [escapeAttribute_anchor, Prose.intText_natCast]

/-!
## Names are safe and stable
-/

/-- The name of a text is made of words with single hyphens between them. It holds only word
characters and hyphens exactly if the capital I with a dot is not in the text, and exactly then
it is its own name. With its number it stands as it is in the tag of the heading and in both
attributes of the line that the heading has in the table of contents. -/
theorem slug_is_name_iff (text : List Char) :
    IsName (slug text) ∧
      (IsPlain (slug text) ↔ dottedI ∉ text) ∧
      (slug (slug text) = slug text ↔ dottedI ∉ text) ∧
      forall (defs : Link.Definitions) (previous next : Option Prose.Block) (count level : Nat),
        exists e : Entry, e.id = slug text ++ '-' :: Number.digitsOf (count + 1) ∧
          Html.escapeAttribute e.id = e.id ∧
          (Prose.renderBlock defs previous next (some count) (.heading level text)).landmarks =
            (if isListed level then [.heading e] else []) ∧
          (Prose.renderBlock defs previous next (some count) (.heading level text)).markup =
            Prose.lead previous ++ headingTag level e.id ++ e.text ++ "</".toList ++
              Prose.headingElement level ++ ">\n".toList ∧
          contentsItem e = contentsLine level e.id e.text := by
  refine ⟨isName_slug text, isPlain_slug_iff text, slug_slug_iff text, ?_⟩
  intro defs previous next count level
  exact ⟨⟨anchor text (count + 1), Prose.renderParts (Prose.content defs false text), level⟩, rfl,
    escapeAttribute_anchor text (count + 1), rfl,
    markup_heading defs previous next count level text,
    contentsItem_anchor text _ (count + 1) level⟩

/-- The capital I with a dot alone has a name with a dot above, which is no word character, and
the name of that name is the letter without the dot. -/
theorem slug_not_plain_of_dotted_capital :
    ¬ IsPlain (slug [dottedI]) ∧ slug [dottedI] = ['i', dotAbove] ∧
      slug (slug [dottedI]) = ['i'] := by
  have hdotted : counts dottedI = true := by decide
  have hletter : counts 'i' = true := by decide
  have hdot : counts dotAbove = false := by decide
  have hkept : [dottedI].filter counts = [dottedI] := by
    rw [List.filter_cons_of_pos hdotted, List.filter_nil]
  have hdropped : ['i', dotAbove].filter counts = ['i'] := by
    rw [List.filter_cons_of_pos hletter, List.filter_cons_of_neg (Bool.eq_false_iff.1 hdot),
      List.filter_nil]
  have hslug : slug [dottedI] = ['i', dotAbove] :=
    slug_of_lower hkept (by decide) (by decide) (by decide)
  refine ⟨?_, hslug, ?_⟩
  · rw [isPlain_slug_iff]
    decide
  · rw [hslug]
    exact slug_of_lower hdropped (by decide) (by decide) (by decide)

end Heading
end Folio
