import Folio.Proofs.Prose.Lines

/-!
# Reading a block of markup

A line that begins with an angle opens markup or a paragraph, and if the line below rules it,
a table. Markup of an element runs up to the first blank line.
-/

namespace Folio
namespace Prose

open Text

/-- Whether markup runs up to a blank line. -/
def Markup.RunsToBlank (m : Markup) : Prop :=
  m = .block ∨ m = .tag

theorem Markup.RunsToBlank.isClosedBy {m : Markup} (hm : m.RunsToBlank) (l : Line) :
    m.isClosedBy l.content = l.isEmpty := by
  rcases hm with rfl | rfl
  · rfl
  · rfl

theorem markupBody_append {f : Frame} {m : Markup} (hm : m.RunsToBlank) {body rest : List Line}
    {blank : Line} (hleft : ∀ l ∈ body, f.isLeft l = false)
    (hbody : ∀ l ∈ body, l.isEmpty = false) (hblank : blank.isEmpty = true) :
    markupBody f m (body ++ blank :: rest) = (body, blank :: rest) := by
  induction body with
  | nil =>
      rw [List.nil_append, markupBody, hm.isClosedBy, hblank]
      split
      · rfl
      · rfl
  | cons l body ih =>
      rw [List.cons_append, markupBody, hleft l List.mem_cons_self, hm.isClosedBy,
        hbody l List.mem_cons_self,
        ih (fun k hk => hleft k (List.mem_cons_of_mem l hk))
          (fun k hk => hbody k (List.mem_cons_of_mem l hk))]
      rfl

section Bracket

variable {quote item : Frame -> List Line -> Reading} {f : Frame} {first : Line}
  {rest : List Line}

/-- Before markup, only a table may be found at a line that begins with an angle. -/
theorem takeBlock_of_bracket (hbracket : first.content.head? = some '<')
    (hcode : f.isCode first = false) :
    takeBlock quote item f (first :: rest) =
      (takeTable? f (first :: rest) <|> takeMarkup? f (first :: rest) <|>
        takeUnderlined? f (first :: rest)).getD (takeParagraph f (first :: rest)) := by
  rcases List.head?_eq_some_iff.1 hbracket with ⟨more, hcontent⟩
  have hfence : takeFence? f (first :: rest) = none := by
    simp [takeFence?, fence?, hcode, hcontent]
  have hquote : takeQuote? quote f (first :: rest) = none := by
    simp [takeQuote?, opensQuote, hcode, hcontent]
  have hrule : takeRule? f (first :: rest) = none := by
    simp [takeRule?, isRule, hcode, hcontent]
  have hlist : takeList? item f (first :: rest) = none := by
    have hmarker : marker? first = none := by
      simp [marker?, hcontent, Pattern.isAsciiDigit]
    simp [takeList?, opensList?, hmarker]
  have hdefinition : takeDefinition? f (first :: rest) = none := by
    simp [takeDefinition?, hcode, hcontent]
  have hheading : takeHeading? f (first :: rest) = none := by
    simp [takeHeading?, heading?, hcode, hcontent]
  have hcodeBlock : takeCode? f (first :: rest) = none := by
    simp [takeCode?, hcode]
  rw [takeBlock, hfence, hquote, hrule, hlist, hdefinition, hheading, hcodeBlock]
  rfl

/-- A line that begins with an angle opens a block of markup exactly if it opens markup, and the
line below does not rule a table. -/
theorem takeBlock_eq_markup_iff {body : List Line} {blank : Line}
    (hbracket : first.content.head? = some '<') (hcode : f.isCode first = false)
    (hruns : ∀ m ∈ markup? f first, m.RunsToBlank) (hleft : ∀ l ∈ body, f.isLeft l = false)
    (hbody : ∀ l ∈ body, l.isEmpty = false) (hblank : blank.isEmpty = true) :
    takeBlock quote item f (first :: (body ++ blank :: rest)) =
        ([.markup (cutEnded f.width (first :: body))], blank :: rest) ↔
      table? f (first :: (body ++ blank :: rest)) = none ∧ (markup? f first).isSome = true := by
  rcases List.head?_eq_some_iff.1 hbracket with ⟨more, hcontent⟩
  rw [takeBlock_of_bracket hbracket hcode]
  cases htable : table? f (first :: (body ++ blank :: rest)) with
  | some t =>
      constructor
      · intro h
        rw [takeTable?, htable] at h
        cases h
      · intro h
        cases h.1
  | none =>
      have hnone : takeTable? f (first :: (body ++ blank :: rest)) = none := by
        rw [takeTable?, htable]
        rfl
      rw [hnone]
      cases hmarkup : markup? f first with
      | none =>
          have hmarkupNone : takeMarkup? f (first :: (body ++ blank :: rest)) = none := by
            rw [takeMarkup?, hmarkup]
          rw [hmarkupNone]
          constructor
          · intro h
            cases hunderlined : takeUnderlined? f (first :: (body ++ blank :: rest)) with
            | none =>
                rw [hunderlined] at h
                cases h
            | some taken =>
                rw [hunderlined] at h
                rw [takeUnderlined?, hcode] at hunderlined
                rcases Option.map_eq_some_iff.1 hunderlined with ⟨r, -, rfl⟩
                cases h
          · intro h
            cases h.2
      | some m =>
          have hm := hruns m hmarkup
          have hfirst : m.isClosedBy first.content = false := by
            rw [hm.isClosedBy, Line.isEmpty, hcontent]
            rfl
          have htaken : takeMarkup? f (first :: (body ++ blank :: rest)) =
              some ([.markup (cutEnded f.width (first :: body))], blank :: rest) := by
            rw [takeMarkup?, hmarkup]
            simp only [hfirst, Bool.false_eq_true, if_false,
              markupBody_append hm hleft hbody hblank]
          rw [htaken]
          exact ⟨fun _ => ⟨rfl, rfl⟩, fun _ => rfl⟩

end Bracket

/-!
## Blocks in the text around them
-/

section Around

variable (quote item : Frame -> List Line -> Reading) (f : Frame)

/-- Whether the reading of blocks comes to some lines: they follow the blocks in front of them,
and the blank lines behind those. The number bounds the blocks. -/
def Comes (target : List Line) : Nat -> List Line -> Prop
  | 0, _ => False
  | fuel + 1, ls =>
      skipEmpty ls = target ∨
        match skipEmpty ls with
        | [] => False
        | l :: rest =>
            f.isLeft l = false ∧ Comes target fuel (takeBlock quote item f (l :: rest)).2

variable {quote item f}

theorem skipEmpty_cons_of_isEmpty {l : Line} (h : l.isEmpty = true) (rest : List Line) :
    skipEmpty (l :: rest) = skipEmpty rest :=
  List.dropWhile_cons_of_pos h

theorem Comes.of_skipEmpty {target ls ls' : List Line} {fuel : Nat}
    (h : Comes quote item f target fuel ls) (hls : skipEmpty ls = skipEmpty ls') :
    Comes quote item f target fuel ls' := by
  cases fuel with
  | zero => exact h
  | succ fuel =>
      rw [Comes, hls] at h
      exact h

/-- What is taken where the reading comes to is among the blocks. -/
theorem Comes.exists_blocks {l : Line} {rest ls : List Line} {fuel : Nat} {sawEmpty tight : Bool}
    (h : Comes quote item f (l :: rest) fuel ls) (hleft : f.isLeft l = false) :
    exists before after, (readBlocks quote item f fuel sawEmpty tight ls).blocks =
      before ++ (takeBlock quote item f (l :: rest)).1 ++ after := by
  induction fuel generalizing ls sawEmpty tight with
  | zero => exact absurd h id
  | succ fuel ih =>
      rcases h with h | h
      · rw [readBlocks, h]
        simp only [hleft, Bool.false_eq_true, if_false]
        exact ⟨[], _, rfl⟩
      · rw [readBlocks]
        cases hskip : skipEmpty ls with
        | nil =>
            rw [hskip] at h
            exact absurd h id
        | cons k more =>
            rw [hskip] at h
            rcases h with ⟨hk, hcomes⟩
            simp only [hk, Bool.false_eq_true, if_false]
            generalize hrest : (takeBlock quote item f (k :: more)).2 = behind at hcomes ⊢
            have hfurther (sawEmpty tight : Bool) (ls : List Line)
                (hls : skipEmpty behind = skipEmpty ls) :
                exists before after, (readBlocks quote item f fuel sawEmpty tight ls).blocks =
                  before ++ (takeBlock quote item f (l :: rest)).1 ++ after :=
              ih (hcomes.of_skipEmpty hls)
            cases behind with
            | nil =>
                cases fuel with
                | zero => exact absurd hcomes id
                | succ fuel =>
                    rcases hcomes with hnil | hnil
                    · cases hnil
                    · exact absurd hnil id
            | cons next further =>
                cases hnext : next.isEmpty with
                | true =>
                    rcases hfurther true (!sawEmpty) further
                      (skipEmpty_cons_of_isEmpty hnext further) with ⟨before, after, hblocks⟩
                    refine ⟨(takeBlock quote item f (k :: more)).1 ++ before, after, ?_⟩
                    simp only [hnext, if_true, hblocks, List.append_assoc]
                | false =>
                    rcases hfurther (sawEmpty || lastIsEmpty (k :: more) (next :: further))
                      (!sawEmpty) (next :: further) rfl with ⟨before, after, hblocks⟩
                    refine ⟨(takeBlock quote item f (k :: more)).1 ++ before, after, ?_⟩
                    simp only [hnext, Bool.false_eq_true, if_false, hblocks, List.append_assoc]

end Around

end Prose
end Folio
