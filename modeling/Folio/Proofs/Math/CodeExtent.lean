import Folio.Proofs.Math.Complete
import Folio.Proofs.Math.Fence
import Folio.Proofs.Math.Span
import Mathlib.Data.List.Sort

/-!
# The code of a source

The code of a source is its fences and, between these, its code spans. `IsCode` says so
without a search: it says where fences and spans begin and end, and what may be left over.
What the search finds is code in this sense (`isCode_codeExtents`), and nothing else is, since
two lists of extents that agree in front of a place agree on the code that begins there
(`isCode_iff`).
-/

namespace Folio
namespace Math

open Text

/-!
## Fences and spans of a source
-/

/-- The extents of the fences of a source. -/
def fenceExtents (source : List Char) : List Extent :=
  ((located Stretch.text 0 (fences true source)).filter fun x => x.part.isCode).map
    (Located.extent Stretch.text)

/-- Whether a fence stands in an extent of a source. -/
def IsFenceAt (source : List Char) (r : Extent) : Prop :=
  exists before text after, r.Splits source before text after ∧ IsFence before text after

/-- Whether an extent of a source is a run of backticks to which no more belong. -/
def IsRun (source : List Char) (r : Extent) : Prop :=
  exists before n after, r.Splits source before (ticks n) after ∧ 0 < n ∧
    before.getLast? ≠ some '`' ∧ after.head? ≠ some '`'

/-- Whether a run of backticks closes what another one opens: it is the first one behind that
which is as long, and no blank line comes in between. -/
structure Closes (source : List Char) (opening closing : Extent) : Prop where
  opens : IsRun source opening
  closes : IsRun source closing
  behind : opening.stop ≤ closing.start
  same : closing.stop - closing.start = opening.stop - opening.start
  first : ∀ r, IsRun source r -> opening.stop ≤ r.start ->
    r.stop - r.start = opening.stop - opening.start -> closing.start ≤ r.start
  unbroken : ¬ CrossesBlankLine ((⟨opening.start, closing.stop⟩ : Extent).cut source)

/-- Whether a code span stands in an extent of a source. -/
def IsSpanAt (source : List Char) (r : Extent) : Prop :=
  exists opening closing, Closes source opening closing ∧ r = ⟨opening.start, closing.stop⟩

/-- Whether extents are the code of a source, and some of them its fences. Every line that
opens a fence does so, or stands in one. Every run of backticks that is closed in front of the
next fence opens a span, or stands in code. -/
structure IsCode (source : List Char) (ranges fenced : List Extent) : Prop where
  within : ∀ r ∈ ranges, r.stop ≤ source.length
  ordered : ranges.Pairwise fun r t => r.stop ≤ t.start
  fences : fenced.Sublist ranges
  fence : ∀ r ∈ fenced, IsFenceAt source r
  opened : forall before line after marker count, source = before ++ (line ++ after) ->
    StartsLine before -> OpensFence marker count line ->
      ∃ r ∈ fenced, r.start ≤ before.length ∧ before.length < r.stop
  span : ∀ r ∈ ranges, r ∉ fenced -> IsSpanAt source r
  unclosed : forall opening closing, Closes source opening closing ->
    (∀ r ∈ ranges, opening.Apart r) ->
      ∃ f ∈ fenced, opening.stop ≤ f.start ∧ f.start < closing.stop

variable {source : List Char}

theorem mem_fenceExtents_iff {r : Extent} :
    r ∈ fenceExtents source ↔
      ∃ x ∈ located Stretch.text 0 (fences true source),
        x.part.isCode = true ∧ x.extent Stretch.text = r := by
  simp only [fenceExtents, List.mem_map, List.mem_filter, and_assoc]

/-- The fences are among the code, and in the same order. -/
theorem fenceExtents_sublist (source : List Char) :
    (fenceExtents source).Sublist (codeExtents source) := by
  have hcut : forall start (l : List Stretch),
      ((located Stretch.text start l).filter fun x => x.part.isCode).Sublist
        ((located Stretch.text start (l.flatMap Stretch.refine)).filter
          fun x => x.part.isCode) := by
    intro start l
    induction l generalizing start with
    | nil => exact List.Sublist.refl _
    | cons x rest ih =>
        rw [List.flatMap_cons, located_append, List.filter_append, flatMap_text_refine]
        cases x with
        | prose t => exact (ih _).trans (List.sublist_append_right _ _)
        | fence t | span t => exact (ih _).cons_cons _
  exact (hcut 0 _).map _

/-!
## The fences that are found
-/

theorem laid_fences_source (source : List Char) :
    Laid NoFence FenceIn [] (fences true source) :=
  laid_fences fun _ => iff_of_true rfl startsLine_nil

/-- What the fences are cut from, around one of the stretches. -/
theorem exists_of_mem_located_fences {x : Located Stretch}
    (hx : x ∈ located Stretch.text 0 (fences true source)) :
    exists before after, (x.extent Stretch.text).Splits source before x.part.text after ∧
      x.part.Fits NoFence FenceIn before after := by
  rcases exists_of_mem_located hx with ⟨front, back, hl, hstart⟩
  have hfits := laid_fences_source source
  have hsource := flatMap_text_fences true source
  rw [hl] at hfits hsource
  refine ⟨front.flatMap Stretch.text, back.flatMap Stretch.text, ⟨?_, ?_⟩, hfits.fits⟩
  · rw [← hsource, List.flatMap_append, List.flatMap_cons]
  · rw [Located.extent, hstart, Nat.zero_add]

/-- Code among the fences is a fence. -/
theorem exists_eq_fence_of_fits {x : Stretch} {before after : List Char}
    (hcode : x.isCode = true) (h : x.Fits NoFence FenceIn before after) :
    exists t, x = .fence t ∧ IsFence before t after := by
  cases x with
  | prose t => cases hcode
  | fence t => exact ⟨t, rfl, h⟩
  | span t => exact absurd h id

theorem isFenceAt_of_mem {r : Extent} (hr : r ∈ fenceExtents source) :
    IsFenceAt source r := by
  rcases mem_fenceExtents_iff.1 hr with ⟨x, hx, hcode, rfl⟩
  rcases exists_of_mem_located_fences hx with ⟨before, after, hsplits, hfits⟩
  rcases exists_eq_fence_of_fits hcode hfits with ⟨t, ht, hfence⟩
  refine ⟨before, t, after, ?_, hfence⟩
  rw [ht] at hsplits
  exact hsplits

/-- A line that opens a fence stands in one that is found. -/
theorem exists_fence_of_opensFence {before line after : List Char} {marker : Char}
    {count : Nat} (hsource : source = before ++ (line ++ after)) (hstart : StartsLine before)
    (hopens : OpensFence marker count line) :
    ∃ r ∈ fenceExtents source, r.start ≤ before.length ∧ before.length < r.stop := by
  by_contra hnone
  have hline := hopens.length_pos
  have hlength : source.length = before.length + (line.length + after.length) := by
    rw [hsource, List.length_append, List.length_append]
  -- If the place of the line were in no fence, it would be in prose where no fence starts.
  have hprose : ∃ x ∈ located Stretch.text 0 (fences true source), x.part.isCode = false ∧
      (⟨before.length, before.length + 1⟩ : Extent).Within (x.extent Stretch.text) := by
    refine exists_of_apart (isChain_fences true source)
      (fun x hx _ => text_ne_nil_of_mem_fences true source x hx) (Nat.zero_le _) ?_
      (Nat.lt_succ_self _) ?_
    · rw [flatMap_text_fences]
      simp only
      omega
    · intro x hx hcode
      by_contra hmeets
      apply hnone
      refine ⟨_, mem_fenceExtents_iff.2 ⟨x, hx, hcode, rfl⟩, ?_⟩
      simp only [Extent.Apart] at hmeets
      omega
  rcases hprose with ⟨x, hx, hfree, hwithin⟩
  rcases exists_of_mem_located_fences hx with ⟨front, back, ⟨hsplit, hextent⟩, hfits⟩
  rw [hextent] at hwithin
  rcases hwithin with ⟨hfront, hback⟩
  rcases exists_append_of_append_eq (hsource.symm.trans hsplit) hfront (Nat.le_of_succ_le hback)
    with ⟨a, b, htext, rfl, hrest⟩
  cases hpart : x.part with
  | fence t | span t =>
      rw [hpart] at hfree
      cases hfree
  | prose t =>
      rw [hpart] at htext hfits hback
      have hb : b ≠ [] := by
        rintro rfl
        rw [htext, List.append_nil] at hback
        simp only [List.length_append] at hback
        omega
      have hnofence := hfits a b htext hb hstart
      rw [← hrest, fence?, fenceOpening?_of_opensFence hopens] at hnofence
      cases hnofence

/-!
## The prose between fences
-/

/-- A part of a source between fences. A run of backticks does not reach out of it. -/
structure IsRegion (source before region after : List Char) : Prop where
  split : source = before ++ (region ++ after)
  front : region.head? = some '`' -> before.getLast? ≠ some '`'
  back : after = [] ∨ StartsLine (before ++ region) ∧
    ∃ f ∈ fenceExtents source, f.start = before.length + region.length

/-- Prose that the fences leave over is a region. -/
theorem isRegion_of_fences_eq {l m : List Stretch} {u : List Char}
    (h : fences true source = l ++ .prose u :: m) :
    IsRegion source (l.flatMap Stretch.text) u (m.flatMap Stretch.text) := by
  have hlaid := laid_fences_source source
  have hchain := isChain_fences true source
  have hsource := flatMap_text_fences true source
  rw [h] at hlaid hchain hsource
  rcases List.isChain_append.1 hchain with ⟨-, hbehind, hseam⟩
  refine ⟨?_, ?_, ?_⟩
  · rw [← hsource, List.flatMap_append, List.flatMap_cons]
    rfl
  · intro hhead
    rcases List.eq_nil_or_concat l with rfl | ⟨front, x, rfl⟩
    · exact getLast?_nil_ne
    · -- The stretch in front is a fence, so a line end stands right behind it.
      rw [List.concat_eq_append] at hlaid hseam
      have hcode : x.isCode = true := by
        rcases hseam x List.getLast?_concat (.prose u) rfl with hx | hu
        · exact hx
        · cases hu
      rw [List.append_assoc, List.singleton_append] at hlaid
      rcases exists_eq_fence_of_fits hcode hlaid.fits with ⟨t, rfl, hfence⟩
      have hnewline : '`' = '\n' := hfence.endsLine '`' (by
        rw [List.flatMap_cons, Stretch.text, List.head?_append, hhead]
        rfl)
      cases hnewline
  · cases m with
    | nil => exact Or.inl rfl
    | cons x m =>
        right
        have hcode : x.isCode = true := by
          rcases hbehind.rel with hu | hx
          · cases hu
          · exact hx
        rw [List.append_cons] at hlaid h
        rcases exists_eq_fence_of_fits hcode hlaid.fits with ⟨t, rfl, hfence⟩
        have hmem : ⟨0 + ((l ++ [Stretch.prose u]).flatMap Stretch.text).length, .fence t⟩ ∈
            located Stretch.text 0 (fences true source) := by
          rw [h]
          exact mem_located_append_cons 0 _ _ _
        have hlength : ((l ++ [Stretch.prose u]).flatMap Stretch.text).length =
            (l.flatMap Stretch.text).length + u.length := by
          rw [List.flatMap_append, List.length_append, List.flatMap_singleton]
          rfl
        refine ⟨?_, _, mem_fenceExtents_iff.2 ⟨_, hmem, rfl, rfl⟩, ?_⟩
        · have hstarts := hfence.1
          rw [List.flatMap_append, List.flatMap_singleton] at hstarts
          exact hstarts
        · rw [Located.extent, hlength, Nat.zero_add]

/-- What the code is cut from, around one of the stretches: it is a fence, or it stands in a
region. -/
theorem exists_of_mem_located_stretches {x : Located Stretch}
    (hx : x ∈ located Stretch.text 0 (stretches source)) :
    x ∈ located Stretch.text 0 (fences true source) ∧ x.part.isCode = true ∨
      exists before front back after,
        IsRegion source before (front ++ (x.part.text ++ back)) after ∧
          x.start = (before ++ front).length ∧
          x.part.Fits NoSpan SpanIn (before ++ front) back := by
  rcases (mem_located_flatMap_iff flatMap_text_refine).1 hx with ⟨⟨start, stretch⟩, hy, hxy⟩
  cases stretch with
  | fence t | span t =>
      left
      rw [List.mem_singleton.1 hxy]
      exact ⟨hy, rfl⟩
  | prose u =>
      right
      rcases exists_of_mem_located hy with ⟨l, m, hl, hstart⟩
      rcases exists_of_mem_located hxy with ⟨front, back, hspans, hplace⟩
      have hregion := isRegion_of_fences_eq hl
      have hlaid := laid_spans u _ hregion.front
      have hu := flatMap_text_spans u
      have hspans : spans u = front ++ x.part :: back := hspans
      rw [hspans] at hlaid hu
      rw [List.flatMap_append, List.flatMap_cons] at hu
      refine ⟨l.flatMap Stretch.text, front.flatMap Stretch.text, back.flatMap Stretch.text,
        m.flatMap Stretch.text, ?_, ?_, hlaid.fits⟩
      · rw [hu]
        exact hregion
      · simp only at hstart hplace
        rw [hplace, hstart, Nat.zero_add, List.length_append]

/-!
## The spans that are found
-/

theorem IsSpan.append {before text after more : List Char} (h : IsSpan before text after)
    (hback : (after ++ more).head? ≠ some '`') : IsSpan before text (after ++ more) := by
  rcases h with ⟨n, inside, hn, hbefore, hinside, rfl, hcloser⟩
  exact ⟨n, inside, hn, hbefore, hinside, rfl, ⟨rfl, hcloser.front, hback⟩, hcloser.first,
    hcloser.unbroken⟩

/-- A run behind a part of a source is a run of what stands behind that part. -/
theorem IsRun.exists_closer {r : Extent} {front behind : List Char} (h : IsRun source r)
    (hsource : source = front ++ behind) (hle : front.length ≤ r.start) :
    exists inside rest, Closer (r.stop - r.start) behind inside rest ∧
      r.start = front.length + inside.length := by
  rcases h with ⟨before, n, rest, ⟨hsplit, rfl⟩, -, hbefore, hrest⟩
  simp only [length_ticks, Nat.add_sub_cancel_left] at hle ⊢
  rcases List.prefix_of_prefix_length_le ⟨behind, hsource.symm⟩ ⟨ticks n ++ rest, hsplit.symm⟩
    hle with ⟨inside, rfl⟩
  rw [hsource, List.append_assoc, List.append_cancel_left_eq] at hsplit
  exact ⟨inside, rest, ⟨hsplit, getLast?_ne_of_append hbefore, hrest⟩, List.length_append⟩

/-- No run of the same length stands in front of the first one that closes a span. -/
theorem FirstCloser.le_start {r : Extent} {n : Nat} {front behind inside rest : List Char}
    (h : FirstCloser n behind inside rest) (hsource : source = front ++ behind)
    (hr : IsRun source r) (hle : front.length ≤ r.start) (hsame : r.stop - r.start = n) :
    front.length + inside.length ≤ r.start := by
  rcases hr.exists_closer hsource hle with ⟨x, a, hx, hstart⟩
  rw [hsame, h.split] at hx
  by_contra hlt
  rcases hx.of_append (hx.length_le h.front (by omega)) with ⟨more, hmore⟩
  exact h.first x more hmore

/-- A span of a text is one of the source. -/
theorem isSpanAt_of_isSpan {before text after : List Char}
    (hsource : source = before ++ (text ++ after)) (h : IsSpan before text after) :
    IsSpanAt source ⟨before.length, before.length + text.length⟩ := by
  rcases h with ⟨n, inside, hn, hbefore, hinside, rfl, hcloser⟩
  have hne : inside ≠ [] := by
    rintro rfl
    rw [← List.append_nil (ticks n)] at hinside
    exact hinside (head?_ticks_append hn [])
  have hopening : (⟨before.length, before.length + n⟩ : Extent).Splits source before (ticks n)
      (inside ++ (ticks n ++ after)) := by
    refine ⟨?_, by rw [length_ticks]⟩
    rw [hsource]
    simp only [List.append_assoc]
  have hclosing : (⟨before.length + n + inside.length,
      before.length + n + inside.length + n⟩ : Extent).Splits source
      (before ++ (ticks n ++ inside)) (ticks n) after := by
    refine ⟨?_, ?_⟩
    · rw [hsource]
      simp only [List.append_assoc]
    · simp only [List.length_append, length_ticks, Nat.add_assoc]
  have hwhole : (⟨before.length, before.length + n + inside.length + n⟩ : Extent).Splits source
      before (ticks n ++ (inside ++ ticks n)) after := by
    refine ⟨hsource, ?_⟩
    simp only [List.length_append, length_ticks, Nat.add_assoc]
  refine ⟨_, _, ⟨⟨before, n, _, hopening, hn, hbefore, ?_⟩, ⟨_, n, _, hclosing, hn, ?_,
    hcloser.back⟩, Nat.le_add_right _ _, ?_, ?_, ?_⟩, ?_⟩
  · rw [List.head?_append_of_ne_nil _ hne] at hinside ⊢
    exact hinside
  · rw [← List.append_assoc, List.getLast?_append_of_ne_nil _ hne]
    exact hcloser.front
  · simp only
    omega
  · intro r hr hbehind hsame
    have hlength : (before ++ ticks n).length = before.length + n := by
      rw [List.length_append, length_ticks]
    have hsplit : source = (before ++ ticks n) ++ (inside ++ (ticks n ++ after)) := by
      rw [hopening.1, List.append_assoc]
    rw [Nat.add_sub_cancel_left] at hsame
    rw [← hlength] at hbehind ⊢
    exact hcloser.le_start hsplit hr hbehind hsame
  · rw [hwhole.cut_eq, crossesBlankLine_ticks_append_iff, crossesBlankLine_append_ticks_iff]
    exact hcloser.unbroken
  · rw [← hwhole.2]

theorem ne_newline_of_startsLine {before : List Char} (h : StartsLine before) :
    before.getLast? ≠ some '`' := by
  intro hlast
  have hnewline : '`' = '\n' := h '`' hlast
  cases hnewline

/-- A run of backticks does not reach from a region into a fence. -/
theorem IsRegion.back_ne {before front back after : List Char}
    (h : IsRegion source before (front ++ back) after) (hfront : front.getLast? = some '`')
    (hback : back.head? ≠ some '`') : (back ++ after).head? ≠ some '`' := by
  cases back with
  | cons c back => exact hback
  | nil =>
      rcases h.back with rfl | ⟨hstarts, -⟩
      · exact head?_nil_ne
      · rw [List.append_nil] at hstarts
        exact absurd hfront (getLast?_ne_of_append (ne_newline_of_startsLine hstarts))

theorem IsSpan.getLast? {before text after : List Char} (h : IsSpan before text after) :
    text.getLast? = some '`' := by
  rcases h with ⟨n, inside, hn, -, -, rfl, -⟩
  rcases Nat.exists_eq_succ_of_ne_zero (Nat.ne_of_gt hn) with ⟨m, rfl⟩
  rw [ticks, List.replicate_succ', ← List.append_assoc, ← List.append_assoc,
    List.getLast?_concat]

theorem IsSpan.back_ne {before text after : List Char} (h : IsSpan before text after) :
    after.head? ≠ some '`' := by
  rcases h with ⟨n, inside, -, -, -, -, hcloser⟩
  exact hcloser.back

/-- Code that is no fence is a span. -/
theorem isSpanAt_of_mem {r : Extent} (hr : r ∈ codeExtents source)
    (hfenced : r ∉ fenceExtents source) : IsSpanAt source r := by
  rcases mem_codeExtents_iff.1 hr with ⟨x, hx, hcode, rfl⟩
  rcases exists_of_mem_located_stretches hx with ⟨hx, -⟩ | ⟨before, front, back, after, hregion,
    hstart, hfits⟩
  · exact absurd (mem_fenceExtents_iff.2 ⟨x, hx, hcode, rfl⟩) hfenced
  · rcases x with ⟨start, stretch⟩
    cases stretch with
    | prose t => cases hcode
    | fence t => exact absurd hfits id
    | span t =>
        have hspan : IsSpan (before ++ front) t back := hfits
        rw [← List.append_assoc] at hregion
        have hback : (back ++ after).head? ≠ some '`' := by
          apply hregion.back_ne _ hspan.back_ne
          rw [List.getLast?_append, Stretch.text, hspan.getLast?]
          rfl
        have hsource : source = (before ++ front) ++ (t ++ (back ++ after)) := by
          rw [hregion.split]
          simp only [List.append_assoc, Stretch.text]
        simp only at hstart
        rw [Located.extent, hstart]
        exact isSpanAt_of_isSpan hsource (hspan.append hback)

theorem IsRun.start_lt_stop {r : Extent} (h : IsRun source r) : r.start < r.stop := by
  rcases h with ⟨before, n, after, ⟨-, rfl⟩, hn, -⟩
  simp only [length_ticks]
  omega

theorem IsRun.stop_le {r : Extent} (h : IsRun source r) : r.stop ≤ source.length := by
  rcases h with ⟨before, n, after, ⟨rfl, rfl⟩, -⟩
  simp only [List.length_append]
  omega

/-- What keeps clear of all code stands in the prose of a region. -/
theorem exists_prose_of_apart {r : Extent} (hlt : r.start < r.stop)
    (hstop : r.stop ≤ source.length) (hapart : ∀ c ∈ codeExtents source, r.Apart c) :
    exists before front t back after,
      IsRegion source before (front ++ (t ++ back)) after ∧
        (Stretch.prose t).Fits NoSpan SpanIn (before ++ front) back ∧
        (before ++ front).length ≤ r.start ∧ r.stop ≤ (before ++ front).length + t.length := by
  have hlength : r.stop ≤ 0 + ((stretches source).flatMap Stretch.text).length := by
    rwa [flatMap_text_stretches, Nat.zero_add]
  rcases exists_of_apart (isChain_stretches source)
      (fun x hx _ => text_ne_nil_of_mem_stretches hx) (Nat.zero_le _) hlength hlt
      (fun x hx hcode => hapart _ (mem_codeExtents_iff.2 ⟨x, hx, hcode, rfl⟩))
    with ⟨⟨start, stretch⟩, hx, hfree, hwithin⟩
  cases stretch with
  | fence t | span t => cases hfree
  | prose t =>
      rcases exists_of_mem_located_stretches hx with ⟨-, hcode⟩ | ⟨before, front, back, after,
        hregion, hstart, hfits⟩
      · cases hcode
      · simp only at hstart
        rw [Located.extent, hstart] at hwithin
        exact ⟨before, front, t, back, after, hregion, hfits, hwithin⟩

/-- What reaches out of a region reaches into the fence behind it. -/
theorem IsRegion.le_of_forall_fence {before region after : List Char} {m n : Nat}
    (h : IsRegion source before region after) (hm : m ≤ before.length + region.length)
    (hn : n ≤ source.length) (hfence : ∀ f ∈ fenceExtents source, m ≤ f.start -> n ≤ f.start) :
    n ≤ before.length + region.length := by
  rcases h.back with rfl | ⟨-, f, hf, hplace⟩
  · rwa [h.split, List.append_nil, List.length_append] at hn
  · rw [← hplace] at hm ⊢
    exact hfence f hf hm

/-- What closes a run of backticks is a run of as many in the text behind it. -/
theorem Closes.exists_closer {opening closing : Extent} {before behind : List Char} {n : Nat}
    (h : Closes source opening closing)
    (hopening : opening.Splits source before (ticks n) behind) :
    exists inside rest, Closer n behind inside rest ∧ ¬ CrossesBlankLine inside ∧
      closing.stop = before.length + n + (inside.length + n) := by
  rcases hopening with ⟨hsource, rfl⟩
  have hlt := h.closes.start_lt_stop
  have hsame := h.same
  have hbehind := h.behind
  have hunbroken := h.unbroken
  simp only [length_ticks, Nat.add_sub_cancel_left] at hsame hbehind hunbroken
  rcases h.closes.exists_closer (hsource.trans (List.append_assoc _ _ _).symm)
      (by rwa [List.length_append, length_ticks]) with ⟨inside, rest, hcloser, hplace⟩
  rw [hsame] at hcloser
  rw [List.length_append, length_ticks] at hplace
  have hstop : closing.stop = before.length + n + (inside.length + n) := by
    omega
  refine ⟨inside, rest, hcloser, ?_, hstop⟩
  have hwhole : (⟨before.length, closing.stop⟩ : Extent).Splits source before
      (ticks n ++ (inside ++ ticks n)) rest := by
    refine ⟨?_, ?_⟩
    · rw [hsource, hcloser.split]
      simp only [List.append_assoc]
    · rw [hstop]
      simp only [List.length_append, length_ticks, Nat.add_assoc]
  rwa [hwhole.cut_eq, crossesBlankLine_ticks_append_iff,
    crossesBlankLine_append_ticks_iff] at hunbroken

/-- A run of backticks outside of all code is closed behind the next fence, if at all. -/
theorem exists_fence_of_closes {opening closing : Extent} (h : Closes source opening closing)
    (hapart : ∀ r ∈ codeExtents source, opening.Apart r) :
    ∃ f ∈ fenceExtents source, opening.stop ≤ f.start ∧ f.start < closing.stop := by
  by_contra hnone
  rcases exists_prose_of_apart h.opens.start_lt_stop h.opens.stop_le hapart with
    ⟨front, passed, t, back, after, hregion, hfits, hstart, hstop⟩
  rcases h.opens with ⟨before, n, behind, hopening, hn, hbefore, hbehind⟩
  rcases h.exists_closer hopening with ⟨inside, rest, hcloser, hunbroken, hclosing⟩
  rcases hopening with ⟨hsplit, rfl⟩
  simp only [length_ticks] at hstart hstop hnone
  -- The run stands in prose, so what is behind it goes on in the region and then behind that.
  have hsource : source = (front ++ passed) ++ (t ++ (back ++ after)) := by
    rw [hregion.split]
    simp only [List.append_assoc]
  rcases exists_append_of_append_eq (hsplit.symm.trans hsource) hstart (by omega) with
    ⟨a, b, rfl, rfl, hrest⟩
  have hlength : n ≤ b.length := by
    simp only [List.length_append] at hstop
    omega
  rcases List.prefix_of_prefix_length_le ⟨behind, hrest⟩ ⟨back ++ after, rfl⟩
      (by rwa [length_ticks]) with ⟨more, rfl⟩
  rw [List.append_assoc, List.append_cancel_left_eq, ← List.append_assoc] at hrest
  rw [hrest] at hcloser hbehind
  -- No fence is in between, so the run that closes this one ends in the region.
  have hends := hregion.le_of_forall_fence (m := (front ++ passed ++ a).length + n)
    (by simp only [List.length_append, length_ticks]; omega) h.closes.stop_le
    (fun f hf hle => Nat.le_of_not_lt fun hlt => hnone ⟨f, hf, hle, hlt⟩)
  have hwithin : inside.length + n ≤ (more ++ back).length := by
    simp only [List.length_append, length_ticks] at hclosing hends ⊢
    omega
  rcases hcloser.of_append hwithin with ⟨later, hlater⟩
  have hne : ticks n ++ more ≠ [] := by
    intro hnil
    have hhead := head?_ticks_append hn more
    rw [hnil] at hhead
    cases hhead
  exact hunbroken (hfits a _ rfl hne n (more ++ back) inside later hn hbefore
    (List.append_assoc _ _ _) (head?_ne_of_append hbehind) hlater)

/-- The code of a source. -/
theorem isCode_codeExtents (source : List Char) :
    IsCode source (codeExtents source) (fenceExtents source) where
  within := by
    intro r hr
    rcases mem_codeExtents_iff.1 hr with ⟨x, hx, -, rfl⟩
    have hstop := stop_le_of_mem_located hx
    rwa [flatMap_text_stretches, Nat.zero_add] at hstop
  ordered := by
    rw [codeExtents, List.pairwise_map]
    exact (pairwise_located 0 (stretches source)).filter _
  fences := fenceExtents_sublist source
  fence := fun _ => isFenceAt_of_mem
  opened := fun _ _ _ _ _ => exists_fence_of_opensFence
  span := fun _ => isSpanAt_of_mem
  unclosed := fun _ _ => exists_fence_of_closes

/-- A span with a shorter run in it, a run that is not closed in front of the fence, the fence,
and a span behind it. -/
example : codeExtents "a ``b`c`` `d\n```\n`e`\n```\n`f`".toList = [⟨2, 9⟩, ⟨13, 24⟩, ⟨25, 28⟩] := by
  decide +kernel

/-!
## There is no other code
-/

/-- Two fences that start in one place are the same. -/
theorem IsFenceAt.eq_of_start_eq {r t : Extent} (hr : IsFenceAt source r)
    (ht : IsFenceAt source t) (h : r.start = t.start) : r = t := by
  rcases hr with ⟨before, text, after, hr, -, hfence⟩
  rcases ht with ⟨before', text', after', ht, -, hfence'⟩
  rcases hr.eq_of_start_eq ht h with ⟨rfl, hrest⟩
  have hfound := fence?_eq_some_iff.2 ⟨rfl, hfence⟩
  rw [hrest, fence?_eq_some_iff.2 ⟨rfl, hfence'⟩] at hfound
  cases hfound
  rw [hr.2, ht.2]

theorem IsFenceAt.start_lt_stop {r : Extent} (h : IsFenceAt source r) : r.start < r.stop := by
  rcases h with ⟨before, text, after, ⟨-, rfl⟩, -, f, rfl, -⟩
  have hpos := f.opens.length_pos
  simp only [Fence.text, List.length_append]
  omega

/-- Two runs of which one starts within the other are the same. -/
theorem IsRun.eq_of_start_le {r t : Extent} (hr : IsRun source r) (ht : IsRun source t)
    (hle : r.start ≤ t.start) (hlt : t.start < r.stop) : r = t := by
  have htlt := ht.start_lt_stop
  rcases hr with ⟨before, n, after, ⟨hsplit, rfl⟩, -, -, hafter⟩
  simp only [length_ticks] at hle hlt ⊢
  rcases ht.exists_closer hsplit hle with ⟨inside, rest, hcloser, hplace⟩
  rcases hcloser.eq_nil_of_lt hafter (by omega) with ⟨rfl, hsame⟩
  rw [List.length_nil, Nat.add_zero] at hplace
  rcases t with ⟨start, stop⟩
  simp only [Extent.mk.injEq] at *
  omega

/-- A run of backticks is closed in one place only. -/
theorem Closes.eq {opening closing closing' : Extent} (h : Closes source opening closing)
    (h' : Closes source opening closing') : closing = closing' := by
  have hfirst := h.first _ h'.closes h'.behind h'.same
  have hfirst' := h'.first _ h.closes h.behind h.same
  have hsame := h.same
  have hsame' := h'.same
  have hlt := h.closes.start_lt_stop
  have hlt' := h'.closes.start_lt_stop
  rcases closing with ⟨start, stop⟩
  rcases closing' with ⟨start', stop'⟩
  simp only [Extent.mk.injEq] at *
  omega

/-- Two lists of extents have the same members, if each has what the other one has wherever
they agree in front of it. -/
theorem mem_iff_of_forall_start {l m : List Extent}
    (hl : ∀ r ∈ l, (forall t, t.start < r.start -> t ∈ m -> t ∈ l) -> r ∈ m)
    (hm : ∀ r ∈ m, (forall t, t.start < r.start -> t ∈ l -> t ∈ m) -> r ∈ l) (r : Extent) :
    r ∈ l ↔ r ∈ m := by
  generalize hstart : r.start = n
  induction n using Nat.strongRecOn generalizing r with
  | ind n ih =>
      subst hstart
      constructor
      · intro hr
        exact hl r hr fun t hlt => (ih t.start hlt t rfl).2
      · intro hr
        exact hm r hr fun t hlt => (ih t.start hlt t rfl).1

/-- Extents in order of where they start are the same if they have the same members. -/
theorem eq_of_pairwise_start {l m : List Extent} (hl : l.Pairwise fun r t => r.start < t.start)
    (hm : m.Pairwise fun r t => r.start < t.start) (h : forall r, r ∈ l ↔ r ∈ m) : l = m := by
  have : Std.Antisymm fun r t : Extent => r.start < t.start :=
    ⟨fun _ _ hlt hgt => absurd hgt (Nat.lt_asymm hlt)⟩
  have : Std.Irrefl fun r t : Extent => r.start < t.start := ⟨fun _ => Nat.lt_irrefl _⟩
  exact hl.eq_of_mem_iff hm h

namespace IsCode

variable {ranges ranges' fenced fenced' : List Extent}

theorem apart (h : IsCode source ranges fenced) {r t : Extent} (hr : r ∈ ranges)
    (ht : t ∈ ranges) (hne : r ≠ t) : r.Apart t := by
  have : Std.Symm fun r t : Extent => r.Apart t := ⟨fun _ _ hapart => Or.symm hapart⟩
  have hpairs : ranges.Pairwise fun r t => r.Apart t := h.ordered.imp Or.inl
  exact hpairs.forall hr ht hne

theorem start_lt_stop (h : IsCode source ranges fenced) {r : Extent} (hr : r ∈ ranges) :
    r.start < r.stop := by
  by_cases hfenced : r ∈ fenced
  · exact (h.fence r hfenced).start_lt_stop
  · rcases h.span r hr hfenced with ⟨opening, closing, hcloses, rfl⟩
    have hopening := hcloses.opens.start_lt_stop
    have hclosing := hcloses.closes.start_lt_stop
    have hbehind := hcloses.behind
    simp only
    omega

/-- A fence is a fence for whoever finds the same fences in front of it. -/
theorem mem_fenced (h : IsCode source ranges fenced) (h' : IsCode source ranges' fenced')
    {r : Extent} (hr : r ∈ fenced)
    (hbefore : forall t, t.start < r.start -> t ∈ fenced' -> t ∈ fenced) : r ∈ fenced' := by
  have hfence := h.fence r hr
  have hlt := hfence.start_lt_stop
  rcases hfence with ⟨before, text, after, ⟨hsource, hextent⟩, hstarts, f, rfl, hends⟩
  have hplace : r.start = before.length := by rw [hextent]
  rw [Fence.text, List.append_assoc] at hsource
  rcases h'.opened before f.opening (f.body ++ after) f.marker f.count hsource hstarts f.opens
    with ⟨t, ht, hle, hmeets⟩
  rw [← hplace] at hle hmeets
  rcases Nat.lt_or_eq_of_le hle with hfront | hsame
  · -- The one in front is a fence for both, and shares a place with this one.
    have hmem := hbefore t hfront ht
    rcases h.apart (h.fences.subset hmem) (h.fences.subset hr) (by rintro rfl; omega) with
      hbehind | hbehind
    · omega
    · omega
  · rwa [(h.fence r hr).eq_of_start_eq (h'.fence t ht) hsame.symm]

theorem mem_fenced_iff (h : IsCode source ranges fenced) (h' : IsCode source ranges' fenced')
    (r : Extent) : r ∈ fenced ↔ r ∈ fenced' :=
  mem_iff_of_forall_start (fun _ => mem_fenced h h') (fun _ => mem_fenced h' h) r

/-- Code is code for whoever finds the same fences, and the same code in front of it. -/
theorem mem_ranges (h : IsCode source ranges fenced) (h' : IsCode source ranges' fenced')
    {r : Extent} (hr : r ∈ ranges)
    (hbefore : forall t, t.start < r.start -> t ∈ ranges' -> t ∈ ranges) : r ∈ ranges' := by
  have hfences := mem_fenced_iff h h'
  by_cases hfenced : r ∈ fenced
  · exact h'.fences.subset ((hfences r).1 hfenced)
  by_contra hmissing
  rcases h.span r hr hfenced with ⟨opening, closing, hcloses, rfl⟩
  have hlt := hcloses.opens.start_lt_stop
  have hlt' := hcloses.closes.start_lt_stop
  have hle := hcloses.behind
  have hwhole (t : Extent) (ht : t ∈ ranges) (ht' : t ∈ ranges') :
      (⟨opening.start, closing.stop⟩ : Extent).Apart t :=
    h.apart hr ht (by rintro rfl; exact hmissing ht')
  have hshared (t : Extent) (ht : t ∈ ranges) (ht' : t ∈ ranges') : opening.Apart t := by
    rcases hwhole t ht ht' with hfront | hbehind
    · left
      simp only at hfront
      omega
    · exact Or.inr hbehind
  have hapart : ∀ t ∈ ranges', opening.Apart t := by
    intro t ht
    by_cases htfenced : t ∈ fenced'
    · exact hshared t (h.fences.subset ((hfences t).2 htfenced)) ht
    by_cases hfront : t.start < opening.start
    · exact hshared t (hbefore t hfront ht) ht
    -- Otherwise it is the same span.
    rcases h'.span t ht htfenced with ⟨opening', closing', hcloses', rfl⟩
    by_contra hmeets
    simp only [Extent.Apart, not_or, Nat.not_le] at hmeets
    have hsame := hcloses.opens.eq_of_start_le hcloses'.opens (Nat.le_of_not_lt hfront) hmeets.1
    rw [← hsame] at hcloses' ht
    rw [hcloses'.eq hcloses] at ht
    exact hmissing ht
  rcases h'.unclosed opening closing hcloses hapart with ⟨f, hf, hbehind, hinside⟩
  have hmem := h.fences.subset ((hfences f).2 hf)
  have hfence := h.start_lt_stop hmem
  rcases hwhole f hmem (h'.fences.subset hf) with hfront | hafter
  · exact absurd hinside (Nat.not_lt.2 hfront)
  · simp only at hafter
    omega

theorem mem_ranges_iff (h : IsCode source ranges fenced) (h' : IsCode source ranges' fenced')
    (r : Extent) : r ∈ ranges ↔ r ∈ ranges' :=
  mem_iff_of_forall_start (fun _ => mem_ranges h h') (fun _ => mem_ranges h' h) r

theorem pairwise_start (h : IsCode source ranges fenced) :
    ranges.Pairwise fun r t => r.start < t.start := by
  refine h.ordered.imp_of_mem ?_
  intro r t hr _ hle
  exact Nat.lt_of_lt_of_le (h.start_lt_stop hr) hle

end IsCode

/-- The code of a source is what the search for it finds, and so are its fences. -/
theorem isCode_iff {ranges fenced : List Extent} :
    IsCode source ranges fenced ↔
      ranges = codeExtents source ∧ fenced = fenceExtents source := by
  constructor
  · intro h
    have hfound := isCode_codeExtents source
    have hstarts := h.pairwise_start
    have hstarts' := hfound.pairwise_start
    exact ⟨eq_of_pairwise_start hstarts hstarts' (h.mem_ranges_iff hfound),
      eq_of_pairwise_start (hstarts.sublist h.fences) (hstarts'.sublist hfound.fences)
        (h.mem_fenced_iff hfound)⟩
  · rintro ⟨rfl, rfl⟩
    exact isCode_codeExtents source

end Math
end Folio
