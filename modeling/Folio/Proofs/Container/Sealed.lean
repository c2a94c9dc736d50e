import Folio.Proofs.Container.Region
import Folio.Proofs.Prose.Markup
import Folio.Prose.Document

/-!
# Rendered containers

A rendered container is to be one block of markup. Sealing takes the blank lines from a body
that is not empty and holds no carriage return (`holdsBlankLine_sealed`). A container is read
as one block exactly if no blank line is left in its tag and its body, and its first line opens
markup and is not ruled as a table (`container_block_iff`).
-/

namespace Folio
namespace Container

open Text Prose

/-- A rendered container, from its opening tag to its closing one. -/
def containerText (tag : OpenTag) (rendered : List Char) : List Char :=
  tag.text ++ '\n' :: closeLine (sealed rendered) ++ "</div>".toList

theorem blockMarkup_eq (tag : OpenTag) (rendered : List Char) :
    blockMarkup tag rendered =
      '\n' :: '\n' :: (containerText tag rendered ++ ['\n', '\n']) := by
  have hclosing : "</div>\n\n".toList = "</div>".toList ++ ['\n', '\n'] := rfl
  simp only [blockMarkup, containerText, hclosing, List.cons_append, List.append_assoc]

/-!
## Sealing
-/

theorem closeLine_append (u : List Char) {v : List Char} (hv : v ≠ []) :
    closeLine (u ++ '\n' :: v) = u ++ '\n' :: closeLine v := by
  have hlast : (u ++ '\n' :: v).getLast? = v.getLast? := by
    rw [List.append_cons, List.getLast?_append, List.getLast?_eq_some_getLast hv,
      Option.some_or]
  unfold closeLine
  rw [hlast]
  split
  · rfl
  · rw [List.append_assoc, List.cons_append]

theorem exists_closeLine (s : List Char) : exists u, closeLine s = u ++ ['\n'] := by
  unfold closeLine
  split
  · rename_i hlast
    exact List.getLast?_eq_some_iff.1 hlast
  · exact ⟨s, rfl⟩

theorem sealLines_ne_nil (current : List Char) (rest : List (List Char)) :
    sealLines current rest ≠ [] := by
  induction rest generalizing current with
  | nil => exact List.cons_ne_nil current []
  | cons next rest ih =>
      rw [sealLines]
      split
      · exact ih _
      · exact List.cons_ne_nil _ _

/-- Whether a line has no line end of any form in it. -/
def IsOneLine (t : List Char) : Prop :=
  '\n' ∉ t ∧ '\r' ∉ t

theorem isOneLine_join {current next : List Char} (h : IsOneLine current) (hnext : IsOneLine next) :
    IsOneLine (current ++ lineEndReference ++ next) := by
  simp only [IsOneLine, List.mem_append, not_or]
  exact ⟨⟨⟨h.1, by decide⟩, hnext.1⟩, ⟨h.2, by decide⟩, hnext.2⟩

theorem all_isSpace_of_not_allBlank {t : List Char} (h : allBlank t = false) :
    t.all isSpace = false := by
  cases hall : t.all isSpace with
  | false => rfl
  | true =>
      rw [← h, allBlank, eq_comm, List.all_eq_true]
      intro c hc
      have hspace := List.all_eq_true.1 hall c hc
      simp only [isSpace, Bool.or_eq_true, decide_eq_true_eq] at hspace
      rcases hspace with rfl | rfl
      · decide
      · decide

/-- Of sealed lines only the last may be blank, and if it is empty the line before is the last. -/
theorem holdsBlankLine_sealLines {current : List Char} {rest : List (List Char)}
    (hlines : ∀ t ∈ current :: rest, IsOneLine t)
    (hlast : ∀ t ∈ (current :: rest).getLast?, t.all isSpace = true -> t = [])
    (hne : current = [] -> rest ≠ []) :
    holdsBlankLine (closeLine (joinWith ['\n'] (sealLines current rest))) = false := by
  induction rest generalizing current with
  | nil =>
      have hcurrent := hlines current List.mem_cons_self
      have hfull : current ≠ [] := fun h => hne h rfl
      have hopen : closeLine current = current ++ ['\n'] := by
        rw [closeLine, if_neg]
        intro hend
        exact hcurrent.1 (List.mem_of_getLast? hend)
      rw [sealLines, joinWith, hopen, holdsBlankLine_ended hcurrent.1 hcurrent.2,
        Bool.eq_false_iff]
      intro hspace
      exact hfull (hlast current rfl hspace)
  | cons next rest ih =>
      have hcurrent := hlines current List.mem_cons_self
      have hnext := hlines next (List.mem_cons_of_mem _ List.mem_cons_self)
      rw [sealLines]
      split
      · refine ih ?_ ?_ ?_
        · intro t ht
          rcases List.mem_cons.1 ht with rfl | ht
          · exact isOneLine_join hcurrent hnext
          · exact hlines t (List.mem_cons_of_mem _ (List.mem_cons_of_mem _ ht))
        · intro t ht hspace
          cases rest with
          | nil =>
              -- The joined line holds a reference, so it is not blank.
              rw [List.getLast?_singleton, Option.mem_some_iff] at ht
              rw [← ht, List.all_append, List.all_append, Bool.and_eq_true, Bool.and_eq_true] at hspace
              exact absurd hspace.1.2 (by decide)
          | cons d rest => exact hlast t ht hspace
        · intro hnil
          cases (List.append_eq_nil_iff.1 (List.append_eq_nil_iff.1 hnil).1).2
      · rename_i hblank
        rw [Bool.not_eq_true] at hblank
        have hfirst : holdsBlankLine (current ++ ['\n']) = false := by
          rw [holdsBlankLine_ended hcurrent.1 hcurrent.2]
          exact all_isSpace_of_not_allBlank hblank
        have hjoin : joinWith ['\n'] (current :: sealLines next rest) =
            current ++ '\n' :: joinWith ['\n'] (sealLines next rest) := by
          cases hsealed : sealLines next rest with
          | nil => exact absurd hsealed (sealLines_ne_nil next rest)
          | cons a l =>
              show current ++ ['\n'] ++ joinWith ['\n'] (a :: l) = _
              rw [List.append_assoc, List.singleton_append]
        rw [hjoin]
        by_cases hempty : next = [] ∧ rest = []
        · rw [hempty.1, hempty.2, sealLines, joinWith, closeLine,
            if_pos (List.getLast?_concat ..), hfirst]
        · have hrest := ih (fun t ht => hlines t (List.mem_cons_of_mem _ ht)) hlast
            (fun hnil hrest => hempty ⟨hnil, hrest⟩)
          by_cases hnil : joinWith ['\n'] (sealLines next rest) = []
          · rw [hnil, closeLine, if_pos (List.getLast?_concat ..), hfirst]
          · rw [closeLine_append _ hnil, holdsBlankLine_append, hfirst, hrest, Bool.or_false]

/-- Sealing takes all blank lines from a text that is not empty and has no carriage return in it,
unless its last line is made of spaces and tabs. -/
theorem holdsBlankLine_sealed {s : List Char} (hne : s ≠ []) (hreturn : '\r' ∉ s)
    (hlast : ∀ t ∈ (splitOn '\n' s).getLast?, t.all isSpace = true -> t = []) :
    holdsBlankLine (closeLine (sealed s)) = false := by
  rw [sealed]
  cases hlines : splitOn '\n' s with
  | nil => exact absurd hlines (splitOn_ne_nil '\n' s)
  | cons first rest =>
      refine holdsBlankLine_sealLines ?_ (hlines ▸ hlast) ?_
      · intro t ht
        rw [← hlines] at ht
        have hmem := mem_of_mem_splitOn ht
        exact ⟨fun h => (hmem _ h).2 rfl, fun h => hreturn (hmem _ h).1⟩
      · rintro rfl rfl
        have := joinWith_splitOn '\n' s
        rw [hlines] at this
        exact hne this.symm

/-!
## The first line of a container
-/

theorem lowerRuns_to_d :
    ∀ run ∈ lowerRuns, run.first + run.offset ≤ 100 -> 100 ≤ run.last + run.offset ->
      run.offset = 32 :=
  forall_mem_of_all (by decide)

theorem eq_of_lowerChar_eq {c : Char} (h : lowerChar c = ['d']) : c = 'd' ∨ c = 'D' := by
  have hcode : mapCase lowerRuns c.toNat = 100 := by
    unfold lowerChar at h
    split at h
    · injection h with h
      exact absurd h (by decide)
    · injection h with h
      rw [← toNat_lowered, h]
      rfl
  have heq (n : Nat) (h : c.toNat = n) : c = Char.ofNat n := by
    rw [← h, Char.ofNat_toNat]
  rcases mapCase_cases lowerRuns c.toNat with ⟨-, hstays⟩ | ⟨run, hrun, htarget⟩
  · exact Or.inl (heq 100 (hstays.symm.trans hcode))
  · have hoffset := lowerRuns_to_d run hrun
    rcases CaseRun.target?_eq_some_iff.1 htarget with ⟨⟨hfirst, hlast, -⟩, hvalue⟩
    exact Or.inr (heq 68 (by omega))

theorem exists_of_isDiv {tag : OpenTag} (h : tag.isDiv = true) :
    exists c more, tag.name = c :: more ∧ (c = 'd' ∨ c = 'D') := by
  have hword : "div".toList = ['d', 'i', 'v'] := rfl
  rw [OpenTag.isDiv, beq_iff_eq, lower, hword] at h
  cases hname : tag.name with
  | nil =>
      rw [hname] at h
      cases h
  | cons c more =>
      refine ⟨c, more, rfl, eq_of_lowerChar_eq ?_⟩
      rw [hname] at h
      unfold lowerFrom at h
      dsimp only at h
      split at h
      · injection h with h
        exact absurd h (by decide)
      · unfold lowerChar at h ⊢
        split
        · rename_i hdotted
          rw [if_pos hdotted] at h
          injection h with h
          exact absurd h (by decide)
        · rename_i hplain
          rw [if_neg hplain] at h
          injection h with h
          rw [h]

theorem markup?_runsToBlank {f : Frame} {l : Line} {c : Char} {s : List Char}
    (hcontent : l.content = '<' :: c :: s) (hc : c = 'd' ∨ c = 'D') :
    ∀ m ∈ markup? f l, m.RunsToBlank := by
  intro m hm
  have hverbatim : opensVerbatim.starts l.content = false := by
    rw [hcontent]
    rcases hc with rfl | rfl
    · rfl
    · rfl
  have hother (t : List Char) (d : Char) (hd : d ≠ 'd' ∧ d ≠ 'D') :
      startsWith ('<' :: d :: t) l.content = false := by
    rw [hcontent, startsWith, dropPrefix?, if_pos rfl, dropPrefix?, if_neg]
    · rfl
    · rcases hc with rfl | rfl
      · exact hd.1
      · exact hd.2
  have hdeclaration :
      (Pattern.sequence [Pattern.literal ['<', '!'], Pattern.char Pattern.isAsciiLetter]).starts
        l.content = false := by
    rw [hcontent]
    rcases hc with rfl | rfl
    · rfl
    · rfl
  have hcomment : startsWith "<!--".toList l.content = false :=
    hother ['-', '-'] '!' (by decide)
  have hinstruction : startsWith ['<', '?'] l.content = false := hother [] '?' (by decide)
  have hdata : startsWith "<![CDATA[".toList l.content = false :=
    hother "[CDATA[".toList '!' (by decide)
  simp only [markup?, hverbatim, hcomment, hinstruction, hdeclaration, hdata, Bool.false_eq_true,
    if_false] at hm
  split at hm
  · cases hm
  · split at hm
    · cases hm
      exact Or.inl rfl
    · split at hm
      · cases hm
        exact Or.inr rfl
      · cases hm

/-!
## Containers in the text around them
-/

/-- Whether the first of some lines opens markup. -/
def opensMarkup (ls : List Line) : Bool :=
  match ls with
  | [] => false
  | l :: _ => (markup? ⟨0, none⟩ l).isSome

theorem holdsBlankLine_container (tag : OpenTag) (rendered tail : List Char) :
    holdsBlankLine (tag.text ++ '\n' :: closeLine (sealed rendered) ++ tail) =
      (holdsBlankLine (tag.text ++ ['\n']) || (holdsBlankLine (closeLine (sealed rendered)) ||
        holdsBlankLine tail)) := by
  rcases exists_closeLine (sealed rendered) with ⟨u, hu⟩
  rw [hu, List.append_assoc, List.cons_append, List.append_assoc, List.singleton_append,
    holdsBlankLine_append tag.text, holdsBlankLine_append u]

theorem holdsBlankLine_containerText (tag : OpenTag) (rendered : List Char) :
    holdsBlankLine (containerText tag rendered) =
      (holdsBlankLine (tag.text ++ ['\n']) || holdsBlankLine (closeLine (sealed rendered))) := by
  have htail : holdsBlankLine "</div>".toList = false := by decide
  rw [containerText, holdsBlankLine_container, htail, Bool.or_false]

theorem holdsBlankLine_containerText_ended (tag : OpenTag) (rendered : List Char) :
    holdsBlankLine (containerText tag rendered ++ ['\n']) =
      holdsBlankLine (containerText tag rendered) := by
  have htail : holdsBlankLine ("</div>".toList ++ ['\n']) = false := by decide
  rw [holdsBlankLine_containerText, containerText, List.append_assoc, holdsBlankLine_container,
    htail, Bool.or_false]

/-- The lines of a rendered container: the first begins as the tag does, and there are others. -/
theorem exists_lines_of_containerText {tag : OpenTag} (hdiv : tag.isDiv = true)
    (rendered : List Char) :
    exists c s second others, (c = 'd' ∨ c = 'D') ∧
      sourceLines (containerText tag rendered ++ ['\n']) =
        Line.ofText ('<' :: c :: s) true :: second :: others := by
  rcases exists_of_isDiv hdiv with ⟨c, more, hname, hc⟩
  have hfirst (r : List Char) : exists s ls,
      sourceLines ('<' :: c :: r ++ ['\n']) = Line.ofText ('<' :: c :: s) true :: ls := by
    rcases exists_normalizeLines r with ⟨w, hw⟩
    have hlines : sourceLines ('<' :: c :: r ++ ['\n']) =
        (splitOn '\n' ('<' :: c :: w)).map (Line.ofText · true) := by
      rw [← lines_ended, sourceLines, List.cons_append, List.cons_append,
        normalizeLines_cons (by decide)]
      rcases hc with rfl | rfl
      · rw [normalizeLines_cons (by decide), hw]
        rfl
      · rw [normalizeLines_cons (by decide), hw]
        rfl
    rw [hlines]
    cases hsplit : splitOn '\n' w with
    | nil => exact absurd hsplit (splitOn_ne_nil '\n' w)
    | cons first others =>
        refine ⟨first, others.map (Line.ofText · true), ?_⟩
        rw [splitOn, if_neg (by decide), splitOn, hsplit]
        rcases hc with rfl | rfl
        · rfl
        · rfl
  rcases hfirst (more ++ tag.attributes ++ ['>']) with ⟨s, ls, hls⟩
  have htag : '<' :: c :: (more ++ tag.attributes ++ ['>']) = tag.text := by
    rw [OpenTag.text, hname]
    rfl
  rw [htag] at hls
  have hsplit : sourceLines (containerText tag rendered ++ ['\n']) =
      Line.ofText ('<' :: c :: s) true ::
        (ls ++ sourceLines (closeLine (sealed rendered) ++ "</div>".toList ++ ['\n'])) := by
    rw [containerText, List.append_assoc, List.append_assoc, List.cons_append,
      sourceLines_append tag.text, hls, List.cons_append, List.append_assoc]
  cases hothers : ls ++ sourceLines (closeLine (sealed rendered) ++ "</div>".toList ++ ['\n']) with
  | nil => exact absurd (List.append_eq_nil_iff.1 hothers).2 (sourceLines_ended_ne_nil _)
  | cons second others =>
      rw [hothers] at hsplit
      exact ⟨c, s, second, others, hc, hsplit⟩

/-- A container is written with a free line in front of it and behind it. -/
theorem prepareWith_of_regions {σ : Type} (render : List Char -> σ -> List Char × σ) (state : σ)
    {source body closing : List Char} {front back : List Region} {tag : OpenTag}
    (hregions : regions source = front ++ .closed tag body closing :: back)
    (hdiv : tag.isDiv = true) :
    exists before after, (prepareWith render source state).1 =
      before ++ '\n' :: '\n' ::
        (containerText tag (render body (emitAll render front state).2).1 ++
          '\n' :: '\n' :: after) := by
  refine ⟨(emitAll render front state).1,
    (emitAll render back (render body (emitAll render front state).2).2).1, ?_⟩
  rw [prepareWith, hregions, emitAll_append, emitAll, Region.emit, if_pos hdiv]
  simp only [blockMarkup_eq, List.append_assoc, List.cons_append, List.nil_append]

/-- Where no line of a container is blank, it is read as one block exactly if its first line opens
markup and no table is found there. -/
theorem takeBlock_container_iff {tag : OpenTag} (hdiv : tag.isDiv = true) {rendered : List Char}
    (hblank : holdsBlankLine (containerText tag rendered) = false)
    (quote item : Frame -> List Line -> Reading) (after : List Line) :
    takeBlock quote item ⟨0, none⟩
        (sourceLines (containerText tag rendered ++ ['\n']) ++ Line.ofText [] true :: after) =
          ([.markup (normalizeLines (containerText tag rendered ++ ['\n']))],
            Line.ofText [] true :: after) ↔
      opensMarkup (sourceLines (containerText tag rendered ++ ['\n'])) = true ∧
        table? ⟨0, none⟩ (sourceLines (containerText tag rendered ++ ['\n'])) = none := by
  rcases exists_lines_of_containerText hdiv rendered with ⟨c, s, second, others, hc, hlines⟩
  have htext : cutEnded 0 (sourceLines (containerText tag rendered ++ ['\n'])) =
      normalizeLines (containerText tag rendered ++ ['\n']) := by
    rcases exists_normalizeLines (containerText tag rendered) with ⟨w, hw⟩
    rw [sourceLines, hw, normalizeLines, cutEnded_lines]
  have hleft : ∀ l ∈ second :: others, Frame.isLeft ⟨0, none⟩ l = false := by
    intro l hl
    have hmem : l ∈ sourceLines (containerText tag rendered ++ ['\n']) := by
      rw [hlines]
      exact List.mem_cons_of_mem _ hl
    rcases exists_of_mem_sourceLines hmem with ⟨text, ended, rfl⟩
    exact isLeft_ofText text ended
  have hbody : ∀ l ∈ second :: others, l.isEmpty = false := by
    intro l hl
    rw [← holdsBlankLine_containerText_ended, holdsBlankLine, hlines, List.any_cons,
      Bool.or_eq_false_iff] at hblank
    exact Bool.eq_false_iff.2 (List.any_eq_false.1 hblank.2 l hl)
  rw [← htext, hlines]
  refine (takeBlock_eq_markup_iff rfl rfl (markup?_runsToBlank rfl hc) hleft hbody rfl).trans ?_
  rw [and_comm]
  rfl

/-- Whether the reading of a text, outside of all groups, comes to some of its lines. -/
def ComesTo (source : List Char) (target : List Line) : Prop :=
  Comes (readWithin 19) (readWithin 18) ⟨0, none⟩ target ((sourceLines source).length + 1)
    (sourceLines source)

/-- The text of a container of lines is free of blank lines, and read as one block of markup when
the reading comes to it, exactly if no blank line is left in its tag and in its sealed body, and
its first line opens markup and is not ruled as a table by the one below. What is read when the
reading comes to it is among the blocks of the whole text. -/
theorem container_block_iff {source : List Char} {front back : List Region} {tag : OpenTag}
    {body closing : List Char} (a : Heading.Anchors)
    (hregions : regions source = front ++ .closed tag body closing :: back)
    (hdiv : tag.isDiv = true) :
    let rendered := (renderBody body (emitAll renderBody front a).2).1
    let container := sourceLines (containerText tag rendered ++ ['\n'])
    let prepared := (prepareWith renderBody source a).1
    exists before after,
      sourceLines prepared = before ++ (container ++ Line.ofText [] true :: after) ∧
      ((holdsBlankLine (containerText tag rendered) = false ∧ forall quote item,
          takeBlock quote item ⟨0, none⟩ (container ++ Line.ofText [] true :: after) =
            ([.markup (normalizeLines (containerText tag rendered ++ ['\n']))],
              Line.ofText [] true :: after)) ↔
        holdsBlankLine (tag.text ++ ['\n']) = false ∧
          holdsBlankLine (closeLine (sealed rendered)) = false ∧
          opensMarkup container = true ∧ table? ⟨0, none⟩ container = none) ∧
      (ComesTo prepared (container ++ Line.ofText [] true :: after) ->
        exists first last, blocks (normalizeLines prepared) =
          first ++ (takeBlock (readWithin 19) (readWithin 18) ⟨0, none⟩
            (container ++ Line.ofText [] true :: after)).1 ++ last) := by
  intro rendered container prepared
  rcases prepareWith_of_regions renderBody a hregions hdiv with ⟨before, after, hprepared⟩
  refine ⟨sourceLines (before ++ ['\n']) ++ [Line.ofText [] true], sourceLines after, ?_, ?_, ?_⟩
  · show sourceLines (prepareWith renderBody source a).1 = _
    rw [hprepared, sourceLines_append before, sourceLines_newline,
      sourceLines_append (containerText tag _), sourceLines_newline, List.append_assoc,
      List.singleton_append]
  · constructor
    · rintro ⟨hblank, hread⟩
      have hparts := hblank
      rw [holdsBlankLine_containerText, Bool.or_eq_false_iff] at hparts
      exact ⟨hparts.1, hparts.2,
        (takeBlock_container_iff hdiv hblank dropBlocks dropBlocks _).1 (hread _ _)⟩
    · rintro ⟨htag, hbody, hopens⟩
      have hblank : holdsBlankLine (containerText tag rendered) = false := by
        rw [holdsBlankLine_containerText, htag, hbody, Bool.or_false]
      exact ⟨hblank, fun quote item => (takeBlock_container_iff hdiv hblank quote item _).2 hopens⟩
  · intro hcomes
    rcases exists_lines_of_containerText hdiv rendered with ⟨c, s, second, others, -, hlines⟩
    change ComesTo prepared (sourceLines (containerText tag rendered ++ ['\n']) ++ _) at hcomes
    rw [hlines] at hcomes
    show exists first last, _ = first ++ (takeBlock _ _ _
      (sourceLines (containerText tag rendered ++ ['\n']) ++ _)).1 ++ last
    rw [hlines]
    exact Comes.exists_blocks hcomes (isLeft_ofText _ true)

/-- A body of two paragraphs: the line between them is gone. -/
theorem container_block_iff_of_theory :
    exists before after,
      sourceLines (prepareWith renderBody "<div class=\"theory\">\na\n\nb\n</div>".toList
          Heading.Anchors.start).1 =
        before ++ (sourceLines "<div class=\"theory\">\n<p>a</p>\n<p>b</p>\n</div>\n".toList ++
          Line.ofText [] true :: after) ∧
      forall quote item, takeBlock quote item ⟨0, none⟩
          (sourceLines "<div class=\"theory\">\n<p>a</p>\n<p>b</p>\n</div>\n".toList ++
            Line.ofText [] true :: after) =
        ([.markup "<div class=\"theory\">\n<p>a</p>\n<p>b</p>\n</div>\n".toList],
          Line.ofText [] true :: after) := by
  have hregions : regions "<div class=\"theory\">\na\n\nb\n</div>".toList =
      [] ++ .closed ⟨"div".toList, " class=\"theory\"".toList⟩ "\na\n\nb\n".toList
        "</div>".toList :: [] := by
    decide
  have htext : containerText ⟨"div".toList, " class=\"theory\"".toList⟩
      (renderBody "\na\n\nb\n".toList (emitAll renderBody [] Heading.Anchors.start).2).1 ++ ['\n'] =
      "<div class=\"theory\">\n<p>a</p>\n<p>b</p>\n</div>\n".toList := by
    decide
  rcases container_block_iff Heading.Anchors.start hregions (by decide) with
    ⟨before, after, hlines, hiff, -⟩
  rw [htext] at hlines hiff
  refine ⟨before, after, hlines, (hiff.2 ?_).2⟩
  decide

/-- References to carriage returns in the body leave a blank line, and the text behind it is read
as prose. -/
theorem container_torn_of_carriage_returns :
    regions "<div class=\"theory\">\na&#13;&#13;\\*b\\*\n</div>".toList =
        [.closed ⟨"div".toList, " class=\"theory\"".toList⟩ "\na&#13;&#13;\\*b\\*\n".toList
          "</div>".toList] ∧
      holdsBlankLine (containerText ⟨"div".toList, " class=\"theory\"".toList⟩
        (renderBody "\na&#13;&#13;\\*b\\*\n".toList Heading.Anchors.start).1) = true ∧
      blocks (normalizeLines (prepareWith renderBody
          "<div class=\"theory\">\na&#13;&#13;\\*b\\*\n</div>".toList
          Heading.Anchors.start).1) =
        [.markup "<div class=\"theory\">\n<p>a\n".toList,
          .paragraph false "*b*</p>".toList, .markup "</div>\n".toList] := by
  decide

end Container
end Folio
