import Folio.Proofs.Container.Scan

/-!
# Containers of joined texts

What is done to containers is local. If no tag is left open at the end of a text and each
container that opens in it is closed in it, the text is prepared in the same way whatever
follows it, and what follows is prepared as if it stood alone (`prepare_append`). Each
recogniser of the scan stops at a closing bracket, so it never looks behind such a text.
-/

namespace Folio
namespace Container

open Text

/-!
## Texts without an open tag
-/

/-- Whether no opening bracket stands behind the last closing one. -/
def IsSettled (s : List Char) : Prop :=
  '<' ∉ s.reverse.takeWhile (· ≠ '>')

instance (s : List Char) : Decidable (IsSettled s) :=
  inferInstanceAs (Decidable (_ ∉ _))

/-- Behind each opening bracket of a settled text there is a closing one. -/
theorem isSettled_iff {s : List Char} :
    IsSettled s ↔ forall before after, s = before ++ '<' :: after -> '>' ∈ after := by
  constructor
  · rintro h before after rfl
    by_contra hnone
    refine h ?_
    rw [List.reverse_append, List.reverse_cons, List.append_assoc,
      List.takeWhile_append_of_pos]
    · exact List.mem_append_right _ List.mem_cons_self
    · intro c hc
      rw [decide_eq_true_iff]
      rintro rfl
      exact hnone (List.mem_reverse.1 hc)
  · intro h hmem
    rcases List.append_of_mem hmem with ⟨behind, before, hsplit⟩
    have hs := List.takeWhile_append_dropWhile (p := (· ≠ '>')) (l := s.reverse)
    rw [hsplit] at hs
    have hs := congrArg List.reverse hs
    rw [List.reverse_reverse, List.append_assoc, List.cons_append, List.reverse_append,
      List.reverse_cons, List.append_assoc, List.singleton_append] at hs
    have hbracket := List.mem_reverse.1 (h _ _ hs.symm)
    have htaken : '>' ∈ s.reverse.takeWhile (· ≠ '>') := by
      rw [hsplit]
      exact List.mem_append_left _ hbracket
    exact absurd (List.mem_takeWhile_imp htaken) (by decide)

theorem IsSettled.of_append {s t : List Char} (h : IsSettled (s ++ t)) : IsSettled t := by
  rw [isSettled_iff] at h ⊢
  rintro before after rfl
  exact h (s ++ before) after (List.append_assoc _ _ _).symm

theorem IsSettled.of_cons {c : Char} {s : List Char} (h : IsSettled (c :: s)) : IsSettled s :=
  IsSettled.of_append (s := [c]) h

theorem IsSettled.mem {s : List Char} (h : IsSettled ('<' :: s)) : '>' ∈ s :=
  isSettled_iff.1 h [] s rfl

/-!
## Recognisers stop at a closing bracket
-/

theorem dropLetters?_append {name s : List Char} (t : List Char) (hs : '>' ∈ s)
    (hname : '>' ∉ name) :
    dropLetters? name (s ++ t) = (dropLetters? name s).map (· ++ t) := by
  induction name generalizing s with
  | nil => rfl
  | cons p name ih =>
      cases s with
      | nil => cases hs
      | cons c rest =>
          rw [List.cons_append, dropLetters?, dropLetters?]
          split
          · rename_i hsame
            refine ih ?_ (fun h => hname (List.mem_cons_of_mem p h))
            rcases List.mem_cons.1 hs with rfl | hs
            · exact absurd (eq_of_sameLetter_bracket hsame ▸ List.mem_cons_self) hname
            · exact hs
          · rfl

/-- A name does not reach to a closing bracket. -/
theorem mem_of_dropLetters? {name s after : List Char} (h : dropLetters? name s = some after)
    (hs : '>' ∈ s) (hname : '>' ∉ name) : '>' ∈ after := by
  rcases exists_of_dropLetters? h with ⟨word, rfl, -, hword⟩
  rcases List.mem_append.1 hs with hs | hs
  · rcases hword '>' hs with ⟨p, hp, hsame⟩
    exact absurd (eq_of_sameLetter_bracket hsame ▸ hp) hname
  · exact hs

theorem takeWhile_append_of_mem {p : Char -> Bool} {c : Char} {s : List Char} (t : List Char)
    (hc : c ∈ s) (hp : p c = false) : (s ++ t).takeWhile p = s.takeWhile p := by
  rw [List.takeWhile_append, if_neg]
  intro hlength
  have hall := List.takeWhile_eq_self_iff.1
    ((List.takeWhile_prefix p).eq_of_length hlength) c hc
  rw [hp] at hall
  cases hall

theorem dropWhile_append_of_mem {p : Char -> Bool} {c : Char} {s : List Char} (t : List Char)
    (hc : c ∈ s) (hp : p c = false) : (s ++ t).dropWhile p = s.dropWhile p ++ t := by
  rw [List.dropWhile_append, if_neg]
  intro hempty
  have hall := List.dropWhile_eq_nil_iff.1 (List.isEmpty_iff.1 hempty) c hc
  rw [hp] at hall
  cases hall

theorem openTagNamed?_of_ne {name rest : List Char} {c : Char} (hc : c ≠ '<') :
    openTagNamed? name (c :: rest) = none := by
  unfold openTagNamed?
  split
  · rename_i heq
    injection heq with hhead
    exact absurd hhead hc
  · rfl

/-- An opening tag at the start of a settled text is told from that text alone. -/
theorem openTagNamed?_append {name s : List Char} (t : List Char) (hne : s ≠ [])
    (hs : IsSettled s) (hname : '>' ∉ name) :
    openTagNamed? name (s ++ t) =
      (openTagNamed? name s).map fun found => (found.1, found.2 ++ t) := by
  cases s with
  | nil => exact absurd rfl hne
  | cons c rest =>
      by_cases hc : c = '<'
      · subst hc
        have hrest := hs.mem
        rw [List.cons_append, openTagNamed?, openTagNamed?,
          dropLetters?_append t hrest hname]
        cases hdrop : dropLetters? name rest with
        | none => rfl
        | some after =>
            have hafter := mem_of_dropLetters? hdrop hrest hname
            rcases exists_of_dropLetters? hdrop with ⟨word, hword, hlength, -⟩
            have hend : atWordEnd (after ++ t) = atWordEnd after := by
              cases after with
              | nil => cases hafter
              | cons d more => rfl
            have htake : (rest ++ t).take name.length = rest.take name.length := by
              rw [hword, ← hlength, List.append_assoc, List.take_left, List.take_left]
            simp only [Option.map_some, hend, htake]
            split
            · rw [takeWhile_append_of_mem t hafter (by decide),
                dropWhile_append_of_mem t hafter (by decide)]
              cases hdw : after.dropWhile (fun c => c ≠ '<' && c ≠ '>') with
              | nil => exact absurd (List.dropWhile_eq_nil_iff.1 hdw '>' hafter) (by decide)
              | cons d tail =>
                  by_cases hd : d = '>'
                  · subst hd
                    rfl
                  · rw [List.cons_append]
                    split
                    · rename_i heq
                      injection heq with hhead
                      exact absurd hhead hd
                    · split
                      · rename_i heq
                        injection heq with hhead
                        exact absurd hhead hd
                      · rfl
            · rfl
      · rw [List.cons_append, openTagNamed?_of_ne hc, openTagNamed?_of_ne hc]
        rfl

theorem openTag?_append {s : List Char} (t : List Char) (hne : s ≠ []) (hs : IsSettled s) :
    openTag? (s ++ t) = (openTag? s).map fun found => (found.1, found.2 ++ t) := by
  unfold openTag?
  rw [openTagNamed?_append t hne hs (by decide), openTagNamed?_append t hne hs (by decide)]
  cases openTagNamed? "div".toList s with
  | none => rfl
  | some found => rfl

theorem closeTag?_of_ne {name rest : List Char} {c d : Char} (h : ¬ (c = '<' ∧ d = '/')) :
    closeTag? name (c :: d :: rest) = none := by
  unfold closeTag?
  split
  · rename_i heq
    injection heq with hfirst heq
    injection heq with hsecond
    exact absurd ⟨hfirst, hsecond⟩ h
  · rfl

theorem closeTag?_singleton (name : List Char) (c : Char) : closeTag? name [c] = none := by
  unfold closeTag?
  split
  · rename_i heq
    injection heq with _ heq
    cases heq
  · rfl

/-- A closing tag at the start of a settled text is told from that text alone. -/
theorem closeTag?_append {name s : List Char} (t : List Char) (hne : s ≠ []) (hs : IsSettled s)
    (hname : '>' ∉ name) :
    closeTag? name (s ++ t) = (closeTag? name s).map fun found => (found.1, found.2 ++ t) := by
  rcases s with - | ⟨c, - | ⟨d, rest⟩⟩
  · exact absurd rfl hne
  · -- a bracket alone is not settled
    have hc : c ≠ '<' := by
      rintro rfl
      cases hs.mem
    rw [closeTag?_singleton]
    cases t with
    | nil => exact closeTag?_singleton name c
    | cons d t => exact closeTag?_of_ne fun h => hc h.1
  · by_cases hcd : c = '<' ∧ d = '/'
    · rcases hcd with ⟨rfl, rfl⟩
      have hrest : '>' ∈ rest := by
        rcases List.mem_cons.1 hs.mem with heq | hrest
        · exact absurd heq (by decide)
        · exact hrest
      rw [List.cons_append, List.cons_append, closeTag?, closeTag?,
        dropLetters?_append t hrest hname]
      cases hdrop : dropLetters? name rest with
      | none => rfl
      | some after =>
          have hafter := mem_of_dropLetters? hdrop hrest hname
          simp only [Option.map_some]
          rw [dropWhile_append_of_mem t hafter (by decide)]
          cases hdw : after.dropWhile isBlank with
          | nil => exact absurd (List.dropWhile_eq_nil_iff.1 hdw '>' hafter) (by decide)
          | cons e tail =>
              by_cases he : e = '>'
              · subst he
                have hlength : ('<' :: '/' :: (rest ++ t)).length - (tail ++ t).length =
                    ('<' :: '/' :: rest).length - tail.length := by
                  simp only [List.length_cons, List.length_append]
                  omega
                rw [List.cons_append]
                simp only [hlength, Option.map_some]
                rw [← List.cons_append, ← List.cons_append, List.take_append_of_le_length]
                exact Nat.sub_le _ _
              · rw [List.cons_append]
                split
                · rename_i heq
                  injection heq with hhead
                  exact absurd hhead he
                · split
                  · rename_i heq
                    injection heq with hhead
                    exact absurd hhead he
                  · rfl
    · rw [List.cons_append, List.cons_append, closeTag?_of_ne hcd, closeTag?_of_ne hcd]
      rfl

theorem breakAtClose?_append {name s body closing rest : List Char} (t : List Char)
    (hs : IsSettled s) (hname : '>' ∉ name)
    (h : breakAtClose? name s = some (body, closing, rest)) :
    breakAtClose? name (s ++ t) = some (body, closing, rest ++ t) := by
  induction s generalizing body with
  | nil => cases h
  | cons c s ih =>
      rw [breakAtClose?] at h
      rw [List.cons_append, breakAtClose?, ← List.cons_append,
        closeTag?_append t (List.cons_ne_nil c s) hs hname]
      cases hclose : closeTag? name (c :: s) with
      | some found =>
          rw [hclose] at h
          cases h
          rfl
      | none =>
          rw [hclose] at h
          rcases Option.map_eq_some_iff.1 h with ⟨⟨front, found⟩, hfront, heq⟩
          cases heq
          rw [Option.map_none]
          simp only [ih hs.of_cons hfront, Option.map_some]

/-!
## The scan stops there as well
-/

/-- A closed container at the start of a settled text is told from that text alone. -/
theorem region?_append_of_closed {s rest body closing : List Char} {tag : OpenTag}
    (t : List Char) (hs : IsSettled s)
    (h : region? s = some (.closed tag body closing, rest)) :
    region? (s ++ t) = some (.closed tag body closing, rest ++ t) := by
  have hne : s ≠ [] := by
    rintro rfl
    cases h
  unfold region? at h ⊢
  rw [openTag?_append t hne hs]
  cases htag : openTag? s with
  | none =>
      rw [htag] at h
      cases h
  | some found =>
      rcases found with ⟨opening, after⟩
      rw [htag] at h
      rcases eq_append_of_openTag? htag with ⟨rfl, hname⟩
      simp only [Option.map_some] at h ⊢
      split at h
      · cases h
      · split at h
        · rename_i hbreak
          cases h
          rw [breakAtClose?_append t hs.of_append (notMem_lower hname) hbreak]
        · cases h

/-- Where no container opens at the start of a settled text, none does whatever follows. -/
theorem region?_append_of_none {s : List Char} (t : List Char) (hne : s ≠ []) (hs : IsSettled s)
    (h : region? s = none) : region? (s ++ t) = none := by
  unfold region? at h ⊢
  rw [openTag?_append t hne hs]
  cases htag : openTag? s with
  | none => rfl
  | some found =>
      rw [htag] at h
      simp only [Option.map_some] at h ⊢
      split at h
      · rfl
      · split at h <;> cases h

/-- A text that is settled, and closes what opens in it, is prepared before what follows it, and
what follows is prepared in the state that this leaves. -/
theorem prepareWith_append {σ : Type} (render : List Char -> σ -> List Char × σ)
    {a : List Char} (b : List Char) (state : σ) (hsettled : IsSettled a)
    (hclosed : ∀ tag, Region.unclosed tag ∉ regions a) :
    prepareWith render (a ++ b) state =
      ((prepareWith render a state).1 ++
          (prepareWith render b (prepareWith render a state).2).1,
        (prepareWith render b (prepareWith render a state).2).2) := by
  unfold prepareWith
  induction a using scan_induction generalizing state with
  | nil => rfl
  | text c rest hregion ih =>
      have hregion' := region?_append_of_none b (List.cons_ne_nil c rest) hsettled hregion
      rw [regions_of_none hregion] at hclosed ⊢
      rw [List.cons_append] at hregion' ⊢
      rw [regions_of_none hregion', emitAll_consText, emitAll_consText,
        ih state hsettled.of_cons fun tag htag => hclosed tag (mem_consText_of_unclosed htag)]
      rfl
  | container x after hregion ih =>
      rw [regions_of_region? hregion] at hclosed ⊢
      cases x with
      | text s => exact absurd hregion (region?_ne_text _ _ _)
      | unclosed tag => exact absurd List.mem_cons_self (hclosed tag)
      | closed tag body closing =>
          rw [regions_of_region? (region?_append_of_closed b hsettled hregion), emitAll, emitAll,
            ih _ hsettled.of_append fun tag htag => hclosed tag (List.mem_cons_of_mem _ htag)]
          simp only [List.append_assoc]

/-- The preparing of containers is local. Where no bracket is left open at the end of a text and
every container that opens in the text is closed in it, the text and what follows are prepared
apart from each other, and the bodies of the one are rendered before those of the other. -/
theorem prepare_append {a : List Char} (b : List Char) (hsettled : IsSettled a)
    (hclosed : ∀ tag, Region.unclosed tag ∉ regions a) (render : List Char -> List Char) :
    prepare render (a ++ b) = prepare render a ++ prepare render b ∧
      given (fun body (_ : Unit) => (render body, ())) (a ++ b) () =
        given (fun body (_ : Unit) => (render body, ())) a () ++
          given (fun body (_ : Unit) => (render body, ())) b () := by
  constructor
  · rw [prepare, prepareWith_append _ b () hsettled hclosed]
    rfl
  · have hrecord := congrArg (·.2.2) (prepareWith_append
      (recording fun body (_ : Unit) => (render body, ())) b ((), []) hsettled hclosed)
    refine hrecord.trans ?_
    simp only [prepareWith, given, emitAll_recording, List.nil_append]

/-- A container of lines and a tag that is none in front, and two containers behind. -/
theorem prepare_append_of_theory :
    IsSettled "<div class=\"theory\">x</div><div>".toList ∧
      (∀ tag, Region.unclosed tag ∉ regions "<div class=\"theory\">x</div><div>".toList) ∧
      prepare id ("<div class=\"theory\">x</div><div>".toList ++
          "<span class=\"lead\"> y </span><div class=\"proof\">z</div>".toList) =
        "\n\n<div class=\"theory\">\nx\n</div>\n\n<div>".toList ++
          "<span class=\"lead\">y</span>\n\n<div class=\"proof\">\nz\n</div>\n\n".toList ∧
      given (fun body (_ : Unit) => (id body, ())) ("<div class=\"theory\">x</div><div>".toList ++
          "<span class=\"lead\"> y </span><div class=\"proof\">z</div>".toList) () =
        [['x']] ++ [['z']] := by
  have hregions : regions "<div class=\"theory\">x</div><div>".toList =
      [.closed ⟨"div".toList, " class=\"theory\"".toList⟩ ['x'] "</div>".toList,
        .text "<div>".toList] := by
    decide
  have hsettled : IsSettled "<div class=\"theory\">x</div><div>".toList := by
    decide
  have hclosed : ∀ tag,
      Region.unclosed tag ∉ regions "<div class=\"theory\">x</div><div>".toList := by
    rw [hregions]
    simp
  have hjoined := prepare_append
    "<span class=\"lead\"> y </span><div class=\"proof\">z</div>".toList hsettled hclosed id
  refine ⟨hsettled, hclosed, hjoined.1.trans ?_, hjoined.2.trans ?_⟩
  · decide
  · decide

end Container
end Folio
