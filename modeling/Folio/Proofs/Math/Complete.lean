import Folio.Proofs.Math.Lossless
import Folio.Proofs.Text.Located
import Folio.Proofs.Text.Turn

/-!
# Extraction finds all math outside code

The stretches of a source give its code a place, and its pieces give the math a place. No
two places are shared. Between code and math only prose is left, in pieces none of which
stands beside another, so whatever keeps clear of code and math lies within one piece of
prose. That piece holds no math: single dollars were tried at each of its places, and double
dollars as well, with more of the text behind them.
-/

namespace Folio
namespace Math

open Text

/-!
## The code of a source
-/

/-- The extents of the code of a source. -/
def codeExtents (source : List Char) : List Extent :=
  ((located Stretch.text 0 (stretches source)).filter fun x => x.part.isCode).map
    (Located.extent Stretch.text)

theorem mem_codeExtents_iff {source : List Char} {r : Extent} :
    r ∈ codeExtents source ↔
      ∃ x ∈ located Stretch.text 0 (stretches source),
        x.part.isCode = true ∧ x.extent Stretch.text = r := by
  simp only [codeExtents, List.mem_map, List.mem_filter, and_assoc]

/-- Of two stretches that stand side by side, one is code. -/
def Stretch.Parted (x y : Stretch) : Prop :=
  x.isCode = true ∨ y.isCode = true

theorem isChain_consProse (c : Char) {l : List Stretch} (h : l.IsChain Stretch.Parted) :
    (consProse c l).IsChain Stretch.Parted := by
  cases l with
  | nil => exact List.isChain_singleton _
  | cons x rest =>
      cases x with
      | prose t =>
          cases rest with
          | nil => exact List.isChain_singleton _
          | cons y rest =>
              rw [List.isChain_cons_cons] at h
              exact List.isChain_cons_cons.2 ⟨h.1, h.2⟩
      | fence t | span t => exact List.isChain_cons_cons.2 ⟨Or.inr rfl, h⟩

theorem isChain_cons_of_isCode {x : Stretch} (hx : x.isCode = true) {l : List Stretch}
    (h : l.IsChain Stretch.Parted) : (x :: l).IsChain Stretch.Parted :=
  List.isChain_cons.2 ⟨fun _ _ => Or.inl hx, h⟩

theorem isChain_fences (atStart : Bool) (s : List Char) :
    (fences atStart s).IsChain Stretch.Parted := by
  fun_induction fences atStart s with
  | case1 => exact List.IsChain.nil
  | case2 c rest found h ih => exact isChain_cons_of_isCode rfl ih
  | case3 c rest _ ih | case4 _ c rest _ ih => exact isChain_consProse c ih

theorem isChain_spans (s : List Char) : (spans s).IsChain Stretch.Parted := by
  fun_induction spans s with
  | case1 => exact List.IsChain.nil
  | case2 rest run after found h ih => exact isChain_cons_of_isCode rfl ih
  | case3 rest run after h ih =>
      generalize '`' :: run = opened
      induction opened with
      | nil => exact ih
      | cons c opened ihOpened => exact isChain_consProse c ihOpened
  | case4 c rest _ ih => exact isChain_consProse c ih

theorem text_ne_nil_of_mem_consProse {c : Char} {l : List Stretch}
    (h : ∀ x ∈ l, x.text ≠ []) : ∀ x ∈ consProse c l, x.text ≠ [] := by
  intro x hx
  unfold consProse at hx
  split at hx
  · rcases List.mem_cons.1 hx with rfl | hx
    · exact List.cons_ne_nil _ _
    · exact h x (List.mem_cons_of_mem _ hx)
  · rcases List.mem_cons.1 hx with rfl | hx
    · exact List.cons_ne_nil _ _
    · exact h x hx

theorem text_ne_nil_of_mem_fences (atStart : Bool) (s : List Char) :
    ∀ x ∈ fences atStart s, x.text ≠ [] := by
  fun_induction fences atStart s with
  | case1 => simp only [List.not_mem_nil, false_implies, implies_true]
  | case2 c rest found h ih =>
      intro x hx
      rcases List.mem_cons.1 hx with rfl | hx
      · exact (fence?_eq_some h).2
      · exact ih x hx
  | case3 c rest _ ih | case4 _ c rest _ ih => exact text_ne_nil_of_mem_consProse ih

theorem text_ne_nil_of_mem_spans (s : List Char) : ∀ x ∈ spans s, x.text ≠ [] := by
  fun_induction spans s with
  | case1 => simp only [List.not_mem_nil, false_implies, implies_true]
  | case2 rest run after found h ih =>
      intro x hx
      rcases List.mem_cons.1 hx with rfl | hx
      · exact List.cons_ne_nil _ _
      · exact ih x hx
  | case3 rest run after h ih =>
      generalize '`' :: run = opened
      induction opened with
      | nil => exact ih
      | cons c opened ihOpened => exact text_ne_nil_of_mem_consProse ihOpened
  | case4 c rest _ ih => exact text_ne_nil_of_mem_consProse ih

theorem refine_ne_nil {x : Stretch} (h : x.text ≠ []) : x.refine ≠ [] := by
  intro hnil
  have := flatMap_text_refine x
  rw [hnil] at this
  exact h this.symm

theorem isCode_of_mem_refine {x y : Stretch} (hx : x.isCode = true) (hy : y ∈ x.refine) :
    y.isCode = true := by
  cases x with
  | prose t => cases hx
  | fence t | span t =>
      rw [List.mem_singleton.1 hy]
      rfl

theorem isChain_stretches (s : List Char) : (stretches s).IsChain Stretch.Parted := by
  refine isChain_flatMap (isChain_fences true s)
    (fun x hx => refine_ne_nil (text_ne_nil_of_mem_fences true s x hx)) ?_ ?_
  · intro x _
    cases x with
    | prose t => exact isChain_spans t
    | fence t | span t => exact List.isChain_singleton _
  · intro x y hxy a ha b hb
    rcases hxy with hx | hy
    · exact Or.inl (isCode_of_mem_refine hx ha)
    · exact Or.inr (isCode_of_mem_refine hy hb)

theorem text_ne_nil_of_mem_stretches {s : List Char} {x : Stretch} (h : x ∈ stretches s) :
    x.text ≠ [] := by
  rcases List.mem_flatMap.1 h with ⟨y, hy, hx⟩
  cases y with
  | prose t => exact text_ne_nil_of_mem_spans t x hx
  | fence t | span t =>
      rw [List.mem_singleton.1 hx]
      exact text_ne_nil_of_mem_fences true s _ hy

/-!
## Math in dollar signs
-/

/-- What may stand between dollar signs as math. Math within a line is in one line and holds
no dollar sign. -/
def IsExpression (display : Bool) (e : List Char) : Prop :=
  e ≠ [] ∧ (display = false -> '$' ∉ e ∧ '\n' ∉ e)

/-- Whether math in its delimiters stands somewhere in a text. -/
def HoldsMath (s : List Char) : Prop :=
  exists display e, IsExpression display e ∧ delimiter display ++ e ++ delimiter display <:+: s

theorem HoldsMath.mono {s t : List Char} (h : HoldsMath s) (hst : s <:+: t) :
    HoldsMath t := by
  rcases h with ⟨display, e, he, hin⟩
  exact ⟨display, e, he, hin.trans hst⟩

theorem not_mem_of_inlineEnd? {s : List Char} {found : List Char × List Char}
    (h : inlineEnd? s = some found) : '$' ∉ found.1 ∧ '\n' ∉ found.1 := by
  induction s generalizing found with
  | nil => cases h
  | cons c rest ih =>
      rw [inlineEnd?] at h
      split at h
      · cases h
        exact ⟨List.not_mem_nil, List.not_mem_nil⟩
      · rename_i hdollar
        split at h
        · cases h
        · rename_i hnewline
          rcases Option.map_eq_some_iff.1 h with ⟨more, hmore, rfl⟩
          rcases ih hmore with ⟨hd, hn⟩
          simp only [List.mem_cons, not_or]
          exact ⟨⟨fun h => hdollar h.symm, hd⟩, fun h => hnewline h.symm, hn⟩

theorem isExpression_of_inline? {s : List Char} {found : List Char × List Char}
    (h : inline? s = some found) : IsExpression false found.1 := by
  refine ⟨(eq_append_of_inline? h).2, fun _ => ?_⟩
  unfold inline? at h
  split at h
  · split at h
    · cases h
    · exact not_mem_of_inlineEnd? h
  · cases h

theorem inlineEnd?_append {e : List Char} (hdollar : '$' ∉ e) (hnewline : '\n' ∉ e)
    (after : List Char) : inlineEnd? (e ++ '$' :: after) = some (e, after) := by
  induction e with
  | nil => rfl
  | cons c e ih =>
      rw [List.mem_cons, not_or] at hdollar hnewline
      rw [List.cons_append, inlineEnd?, if_neg fun h => hdollar.1 h.symm,
        if_neg fun h => hnewline.1 h.symm, ih hdollar.2 hnewline.2]
      rfl

theorem inline?_of_isExpression {e : List Char} (h : IsExpression false e)
    (after : List Char) :
    inline? (delimiter false ++ e ++ delimiter false ++ after) = some (e, after) := by
  rcases h with ⟨hne, hline⟩
  have hend := inlineEnd?_append (hline rfl).1 (hline rfl).2 after
  have hs : delimiter false ++ e ++ delimiter false ++ after = '$' :: (e ++ '$' :: after) := by
    simp only [delimiter, Bool.false_eq_true, if_false, List.append_assoc, List.cons_append,
      List.nil_append]
  rw [hs, inline?, hend]
  cases e with
  | nil => exact absurd rfl hne
  | cons c e => rfl

theorem display?_ne_none {e : List Char} (hne : e ≠ []) (after : List Char) :
    display? (delimiter true ++ e ++ delimiter true ++ after) ≠ none := by
  cases e with
  | nil => exact absurd rfl hne
  | cons c e =>
      rcases exists_breakOn? ['$', '$'] e after with ⟨front, between, hfound⟩
      have hs : delimiter true ++ (c :: e) ++ delimiter true ++ after =
          '$' :: '$' :: c :: (e ++ ['$', '$'] ++ after) := by
        simp only [delimiter, if_true, List.append_assoc, List.cons_append, List.nil_append]
      rw [hs, display?, hfound]
      exact Option.some_ne_none _

/-!
## The pieces of a source
-/

/-- Whether a piece is code or math. -/
def Piece.isClaimed : Piece -> Bool
  | .prose _ => false
  | _ => true

/-- Of two pieces that stand side by side, one is code or math. -/
def Piece.Parted (x y : Piece) : Prop :=
  x.isClaimed = true ∨ y.isClaimed = true

theorem source_infix_of_mem {x : Piece} {l : List Piece} (h : x ∈ l) :
    x.source <:+: l.flatMap Piece.source := by
  rw [List.flatMap_def]
  exact List.infix_of_mem_flatten (List.mem_map_of_mem h)

theorem isChain_consPiece (c : Char) {l : List Piece} (h : l.IsChain Piece.Parted) :
    (consPiece c l).IsChain Piece.Parted := by
  cases l with
  | nil => exact List.isChain_singleton _
  | cons x rest =>
      cases x with
      | prose t =>
          cases rest with
          | nil => exact List.isChain_singleton _
          | cons y rest =>
              rw [List.isChain_cons_cons] at h
              exact List.isChain_cons_cons.2 ⟨h.1, h.2⟩
      | code t | math e display => exact List.isChain_cons_cons.2 ⟨Or.inr rfl, h⟩

theorem isChain_inlinePieces (s : List Char) : (inlinePieces s).IsChain Piece.Parted := by
  fun_induction inlinePieces s with
  | case1 => exact List.IsChain.nil
  | case2 c rest found h ih => exact List.isChain_cons.2 ⟨fun _ _ => Or.inl rfl, ih⟩
  | case3 c rest _ ih => exact isChain_consPiece c ih

theorem isChain_displayPieces (passed s : List Char) :
    (displayPieces passed s).IsChain Piece.Parted := by
  fun_induction displayPieces passed s with
  | case1 passed => exact isChain_inlinePieces _
  | case2 passed c rest found h ih =>
      refine List.isChain_append.2
        ⟨isChain_inlinePieces _, List.isChain_cons.2 ⟨fun _ _ => Or.inl rfl, ih⟩, ?_⟩
      intro x _ y hy
      cases hy
      exact Or.inr rfl
  | case3 passed c rest _ ih => exact ih

theorem mem_of_mem_consPiece {c : Char} {l : List Piece} {x : Piece} (h : x ∈ consPiece c l) :
    (exists t rest, x = .prose (c :: t) ∧ (l = .prose t :: rest ∨ t = [])) ∨ x ∈ l := by
  unfold consPiece at h
  split at h
  · rename_i t rest
    rcases List.mem_cons.1 h with rfl | h
    · exact Or.inl ⟨t, rest, rfl, Or.inl rfl⟩
    · exact Or.inr (List.mem_cons_of_mem _ h)
  · rcases List.mem_cons.1 h with rfl | h
    · exact Or.inl ⟨[], [], rfl, Or.inr rfl⟩
    · exact Or.inr h

/-- What a piece cut from prose may be, with its dollar signs: no code, and math only with an
expression. -/
def Piece.IsCut : Piece -> Prop
  | .code _ => False
  | .prose _ => True
  | .math e display => IsExpression display e

theorem isCut_of_mem_inlinePieces (s : List Char) : ∀ x ∈ inlinePieces s, x.IsCut := by
  fun_induction inlinePieces s with
  | case1 => simp only [List.not_mem_nil, false_implies, implies_true]
  | case2 c rest found h ih =>
      intro x hx
      rcases List.mem_cons.1 hx with rfl | hx
      · exact isExpression_of_inline? h
      · exact ih x hx
  | case3 c rest _ ih =>
      intro x hx
      rcases mem_of_mem_consPiece hx with ⟨t, _, rfl, -⟩ | hx
      · exact trivial
      · exact ih x hx

theorem isCut_of_mem_displayPieces (passed s : List Char) :
    ∀ x ∈ displayPieces passed s, x.IsCut := by
  fun_induction displayPieces passed s with
  | case1 passed => exact isCut_of_mem_inlinePieces _
  | case2 passed c rest found h ih =>
      intro x hx
      rcases List.mem_append.1 hx with hx | hx
      · exact isCut_of_mem_inlinePieces _ x hx
      · rcases List.mem_cons.1 hx with rfl | hx
        · refine ⟨(eq_append_of_display? h).2, ?_⟩
          intro hfalse
          cases hfalse
        · exact ih x hx
  | case3 passed c rest _ ih => exact ih

/-- Prose left between math within lines holds no more of it. -/
theorem not_inline_of_mem_inlinePieces {e : List Char} (he : IsExpression false e)
    (s : List Char) :
    forall t, .prose t ∈ inlinePieces s -> ¬ delimiter false ++ e ++ delimiter false <:+: t := by
  fun_induction inlinePieces s with
  | case1 =>
      intro t ht
      cases ht
  | case2 c rest found h ih =>
      intro t ht
      rcases List.mem_cons.1 ht with ht | ht
      · cases ht
      · exact ih t ht
  | case3 c rest hnone ih =>
      intro t ht hin
      rcases mem_of_mem_consPiece ht with ⟨u, more, heq, hl⟩ | ht
      · cases heq
        have hprefix : u <+: rest := by
          rcases hl with hl | rfl
          · have hsource := flatMap_source_inlinePieces rest
            rw [hl, List.flatMap_cons] at hsource
            exact ⟨_, hsource⟩
          · exact List.nil_prefix
        rcases List.infix_cons_iff.1 hin with hstart | hlater
        · rcases hstart.trans (List.cons_prefix_cons.2 ⟨rfl, hprefix⟩) with ⟨after, hsplit⟩
          rw [← hsplit, inline?_of_isExpression he] at hnone
          cases hnone
        · rcases hl with hl | rfl
          · exact ih u (hl ▸ List.mem_cons_self) hlater
          · have := List.infix_nil.1 hlater
            cases this
      · exact ih t ht hin

/-- Whether math in a line of its own opens at no place of a gap, with what stands behind the
gap to close it. -/
def Unopened (gap after : List Char) : Prop :=
  forall a b, gap = a ++ b -> b ≠ [] -> display? (b ++ after) = none

theorem unopened_nil (after : List Char) : Unopened [] after := by
  intro a b hab hb
  exact absurd (List.append_eq_nil_iff.1 hab.symm).2 hb

theorem Unopened.concat {gap rest : List Char} {c : Char} (h : Unopened gap (c :: rest))
    (hnone : display? (c :: rest) = none) : Unopened (gap ++ [c]) rest := by
  intro a b hab hb
  rcases List.eq_nil_or_concat b with rfl | ⟨front, d, rfl⟩
  · exact absurd rfl hb
  · rw [List.concat_eq_append, ← List.append_assoc] at hab
    rcases List.append_inj' hab rfl with ⟨hfront, hd⟩
    cases hd
    rw [List.concat_eq_append, List.append_assoc, List.singleton_append]
    cases front with
    | nil => exact hnone
    | cons f front => exact h a (f :: front) hfront (List.cons_ne_nil f front)

theorem Unopened.not_inside {gap after e : List Char} (h : Unopened gap after) (he : e ≠ []) :
    ¬ delimiter true ++ e ++ delimiter true <:+: gap := by
  rintro ⟨before, behind, hsplit⟩
  rw [List.append_assoc] at hsplit
  have hnone := h before (delimiter true ++ e ++ delimiter true ++ behind) hsplit.symm (by
    intro hnil
    cases hnil)
  rw [List.append_assoc] at hnone
  exact display?_ne_none he _ hnone

/-- Prose that is left comes from a gap between math in lines of its own. -/
theorem exists_gap_of_mem_displayPieces {t : List Char} (passed s : List Char)
    (hpassed : Unopened passed.reverse s) (h : .prose t ∈ displayPieces passed s) :
    exists gap after, Unopened gap after ∧ .prose t ∈ inlinePieces gap := by
  fun_induction displayPieces passed s with
  | case1 passed => exact ⟨_, _, hpassed, h⟩
  | case2 passed c rest found hfound ih =>
      rcases List.mem_append.1 h with h | h
      · exact ⟨_, _, hpassed, h⟩
      · rcases List.mem_cons.1 h with h | h
        · cases h
        · exact ih (unopened_nil found.2) h
  | case3 passed c rest hnone ih =>
      refine ih ?_ h
      rw [List.reverse_cons]
      exact hpassed.concat hnone

/-- Prose that is left when math is taken out holds none. -/
theorem not_holdsMath_of_mem_displayPieces {s t : List Char}
    (h : .prose t ∈ displayPieces [] s) : ¬ HoldsMath t := by
  rintro ⟨display, e, he, hin⟩
  rcases exists_gap_of_mem_displayPieces [] s (unopened_nil s) h with ⟨gap, after, hgap, hmem⟩
  cases display with
  | true =>
      have hsource := source_infix_of_mem hmem
      rw [flatMap_source_inlinePieces] at hsource
      exact hgap.not_inside he.1 (hin.trans hsource)
  | false => exact not_inline_of_mem_inlinePieces he gap t hmem hin

theorem ofStretch_ne_nil {x : Stretch} (h : x.text ≠ []) : ofStretch x ≠ [] := by
  intro hnil
  have := flatMap_source_ofStretch x
  rw [hnil] at this
  exact h this.symm

theorem isClaimed_of_mem_ofStretch {x : Stretch} {y : Piece} (hx : x.isCode = true)
    (hy : y ∈ ofStretch x) : y.isClaimed = true := by
  cases x with
  | prose t => cases hx
  | fence t | span t =>
      rw [List.mem_singleton.1 hy]
      rfl

theorem isChain_pieces (s : List Char) : (pieces s).IsChain Piece.Parted := by
  refine isChain_flatMap (isChain_stretches s)
    (fun x hx => ofStretch_ne_nil (text_ne_nil_of_mem_stretches hx)) ?_ ?_
  · intro x _
    cases x with
    | prose t => exact isChain_displayPieces [] t
    | fence t | span t => exact List.isChain_singleton _
  · intro x y hxy a ha b hb
    rcases hxy with hx | hy
    · exact Or.inl (isClaimed_of_mem_ofStretch hx ha)
    · exact Or.inr (isClaimed_of_mem_ofStretch hy hb)

theorem isExpression_of_mem_pieces {s e : List Char} {display : Bool}
    (h : .math e display ∈ pieces s) : IsExpression display e := by
  rcases List.mem_flatMap.1 h with ⟨x, -, hx⟩
  cases x with
  | prose t => exact isCut_of_mem_displayPieces [] t _ hx
  | fence t | span t => cases List.mem_singleton.1 hx

theorem not_holdsMath_of_mem_pieces {s t : List Char} (h : .prose t ∈ pieces s) :
    ¬ HoldsMath t := by
  rcases List.mem_flatMap.1 h with ⟨x, -, hx⟩
  cases x with
  | prose u => exact not_holdsMath_of_mem_displayPieces hx
  | fence u | span u => cases List.mem_singleton.1 hx

/-- The code among the pieces stands where the code among the stretches does. -/
theorem exists_code_iff {s : List Char} {r : Extent} :
    (∃ p ∈ located Piece.source 0 (pieces s),
      (exists t, p.part = .code t) ∧ p.extent Piece.source = r) ↔ r ∈ codeExtents s := by
  rw [mem_codeExtents_iff]
  constructor
  · rintro ⟨⟨start, piece⟩, hp, ⟨t, rfl⟩, rfl⟩
    rcases (mem_located_flatMap_iff flatMap_source_ofStretch).1 hp with ⟨x, hx, hpx⟩
    refine ⟨x, hx, ?_⟩
    rcases x with ⟨place, stretch⟩
    cases stretch with
    | prose u => exact absurd (isCut_of_mem_displayPieces [] u _ (part_mem_of_mem_located hpx)) id
    | fence u | span u =>
        cases List.mem_singleton.1 hpx
        exact ⟨rfl, rfl⟩
  · rintro ⟨⟨place, stretch⟩, hx, hcode, rfl⟩
    refine ⟨⟨place, .code stretch.text⟩,
      (mem_located_flatMap_iff flatMap_source_ofStretch).2 ⟨_, hx, ?_⟩, ⟨_, rfl⟩, rfl⟩
    cases stretch with
    | prose u => cases hcode
    | fence u | span u => exact List.mem_cons_self

/-!
## The math of a source
-/

/-- Math of a source in its place. -/
structure Place where
  extent : Extent
  expression : List Char
  display : Bool
  deriving DecidableEq, Repr

/-- The place of a piece, if it is math. -/
def placeOf? (p : Located Piece) : Option Place :=
  match p.part with
  | .math e display => some ⟨p.extent Piece.source, e, display⟩
  | _ => none

/-- The math of a source with its places, in the order of the source. -/
def places (source : List Char) : List Place :=
  (located Piece.source 0 (pieces source)).filterMap placeOf?

theorem placeOf?_eq_some_iff {p : Located Piece} {m : Place} :
    placeOf? p = some m ↔
      p.part = .math m.expression m.display ∧ p.extent Piece.source = m.extent := by
  rcases p with ⟨start, piece⟩
  rcases m with ⟨extent, e, display⟩
  cases piece with
  | code t | prose t =>
      constructor
      · intro h
        cases h
      · rintro ⟨h, -⟩
        cases h
  | math f d =>
      simp only [placeOf?, Option.some.injEq, Place.mk.injEq, Piece.math.injEq, and_comm]

theorem mem_places_iff {source : List Char} {m : Place} :
    m ∈ places source ↔
      ∃ p ∈ located Piece.source 0 (pieces source),
        p.part = .math m.expression m.display ∧ p.extent Piece.source = m.extent := by
  simp only [places, List.mem_filterMap, placeOf?_eq_some_iff]

/-- The segments are the math of the source, in its order. -/
theorem map_segments_eq_map_places (source : List Char) :
    (extract source).segments.map (fun g => (g.expression, g.display)) =
      (places source).map fun m => (m.expression, m.display) := by
  have hpieces : forall (stem : List Char) (index start : Nat) (l : List Piece),
      (numbered stem index l).segments.map (fun g => (g.expression, g.display)) =
        ((located Piece.source start l).filterMap placeOf?).map
          fun m => (m.expression, m.display) := by
    intro stem index start l
    induction l generalizing index start with
    | nil => rfl
    | cons x rest ih =>
        cases x with
        | code t | prose t => exact ih index _
        | math e display => exact congrArg ((e, display) :: ·) (ih (index + 1) _)
  exact hpieces _ 0 0 _

theorem source_ne_nil_of_isClaimed {s : List Char} {x : Piece} (hx : x ∈ pieces s)
    (hclaimed : x.isClaimed = true) : x.source ≠ [] := by
  cases x with
  | prose t => cases hclaimed
  | math e display =>
      intro hnil
      cases display <;> cases hnil
  | code t =>
      rcases List.mem_flatMap.1 hx with ⟨y, hy, hx⟩
      have hne := text_ne_nil_of_mem_stretches hy
      cases y with
      | prose u => exact absurd (isCut_of_mem_displayPieces [] u _ hx) id
      | fence u | span u =>
          cases List.mem_singleton.1 hx
          exact hne

/-- Whatever keeps clear of code and of the math that is taken out holds no math. -/
theorem not_holdsMath_of_apart {source : List Char} {r : Extent}
    (hstop : r.stop ≤ source.length) (hcode : ∀ c ∈ codeExtents source, r.Apart c)
    (hmath : ∀ m ∈ places source, r.Apart m.extent) : ¬ HoldsMath (r.cut source) := by
  have hclaimed (p : Located Piece) (hp : p ∈ located Piece.source 0 (pieces source))
      (h : p.part.isClaimed = true) : r.Apart (p.extent Piece.source) := by
    rcases p with ⟨start, piece⟩
    cases piece with
    | prose t => cases h
    | math e display => exact hmath ⟨_, e, display⟩ (mem_places_iff.2 ⟨_, hp, rfl, rfl⟩)
    | code t => exact hcode _ (exists_code_iff.1 ⟨_, hp, ⟨t, rfl⟩, rfl⟩)
  have hlength : r.stop ≤ 0 + ((pieces source).flatMap Piece.source).length := by
    rw [flatMap_source_pieces, Nat.zero_add]
    exact hstop
  by_cases hlt : r.start < r.stop
  · rcases exists_of_apart (isChain_pieces source)
        (fun x hx => source_ne_nil_of_isClaimed hx) (Nat.zero_le r.start) hlength hlt hclaimed
      with ⟨⟨start, piece⟩, hp, hfree, hwithin⟩
    have hin := Extent.cut_infix hwithin source
    have hcut := cut_extent hp
    rw [flatMap_source_pieces] at hcut
    rw [hcut] at hin
    cases piece with
    | code t | math e display => cases hfree
    | prose t =>
        intro hholds
        exact not_holdsMath_of_mem_pieces (part_mem_of_mem_located hp)
          (hholds.mono hin)
  · have hcut : r.cut source = [] := by
      rw [Extent.cut, List.drop_eq_nil_iff, List.length_take]
      omega
    rw [hcut]
    rintro ⟨display, e, -, hin⟩
    have := List.infix_nil.1 hin
    cases display <;> cases this

/-- Extraction is sound and complete outside code. The segments are the math of the source in
its order; each stands in its place within its dollar signs, with an expression that may
stand there, behind the math in front of it and clear of all code; and whatever part of the
source keeps clear of code and of these places holds no math. -/
theorem extract_sound_and_complete (source : List Char) :
    (extract source).segments.map (fun g => (g.expression, g.display)) =
        (places source).map (fun m => (m.expression, m.display)) ∧
      (places source).Pairwise (fun m n => m.extent.stop ≤ n.extent.start) ∧
      (∀ m ∈ places source,
        m.extent.stop ≤ source.length ∧
          m.extent.cut source = delimiter m.display ++ m.expression ++ delimiter m.display ∧
          IsExpression m.display m.expression ∧ ∀ c ∈ codeExtents source, m.extent.Apart c) ∧
      forall r : Extent, r.stop ≤ source.length -> (∀ c ∈ codeExtents source, r.Apart c) ->
        (∀ m ∈ places source, r.Apart m.extent) -> ¬ HoldsMath (r.cut source) := by
  have hpairs := @pairwise_located _ Piece.source 0 (pieces source)
  refine ⟨map_segments_eq_map_places source, ?_, ?_, fun r => not_holdsMath_of_apart⟩
  · rw [places, List.pairwise_filterMap]
    refine hpairs.imp ?_
    intro p q hpq m hm n hn
    rw [← (placeOf?_eq_some_iff.1 hm).2, ← (placeOf?_eq_some_iff.1 hn).2]
    exact hpq
  · intro m hm
    rcases mem_places_iff.1 hm with ⟨p, hp, hpart, hextent⟩
    have hcut := cut_extent hp
    have hstop := stop_le_of_mem_located hp
    rw [flatMap_source_pieces, hextent] at hcut hstop
    rw [hpart] at hcut
    rw [Nat.zero_add] at hstop
    refine ⟨hstop, hcut, isExpression_of_mem_pieces (hpart ▸ part_mem_of_mem_located hp), ?_⟩
    intro c hc
    rcases exists_code_iff.2 hc with ⟨q, hq, ⟨t, hcode⟩, rfl⟩
    rw [← hextent]
    -- Math is no code, so the two pieces are not the same one, and one stands behind the other.
    have hne : p ≠ q := by
      rintro rfl
      rw [hpart] at hcode
      cases hcode
    exact apart_of_ne hp hq hne

/-- Math in a code span, math of both kinds, and a gap behind them with a single dollar sign. -/
theorem extract_sound_and_complete_of_gap :
    places "`$a$` $b$ $$c$$ $d".toList = [⟨⟨6, 9⟩, ['b'], false⟩, ⟨⟨10, 15⟩, ['c'], true⟩] ∧
      ¬ HoldsMath ((⟨15, 18⟩ : Extent).cut "`$a$` $b$ $$c$$ $d".toList) := by
  have hcode : codeExtents "`$a$` $b$ $$c$$ $d".toList = [⟨0, 5⟩] := by
    decide +kernel
  have hplaces : places "`$a$` $b$ $$c$$ $d".toList =
      [⟨⟨6, 9⟩, ['b'], false⟩, ⟨⟨10, 15⟩, ['c'], true⟩] := by
    decide +kernel
  refine ⟨hplaces, (extract_sound_and_complete _).2.2.2 ⟨15, 18⟩ (by decide) ?_ ?_⟩
  · rw [hcode]
    decide
  · rw [hplaces]
    decide

end Math
end Folio
