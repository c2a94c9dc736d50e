import Folio.Proofs.Math.Token
import Folio.Proofs.Text.Occurrence

/-!
# Extraction loses nothing

The text that is left when math is taken out holds each token once, in the order of the
segments. Writing the segments back in their delimiters, one after the other and in any
order, gives the source.
-/

namespace Folio
namespace Math

open Text

/-- A segment as it stands in the source. -/
def Segment.source (s : Segment) : List Char :=
  delimiter s.display ++ s.expression ++ delimiter s.display

/-!
## The segments of numbered pieces
-/

/-- Numbered segments have the tokens from the first number on. -/
theorem token_of_mem_numbered {stem : List Char} {index : Nat} {pieces : List Piece}
    {s : Segment} (h : s ∈ (numbered stem index pieces).segments) :
    exists i, index ≤ i ∧ s.token = tokenOf stem i := by
  induction pieces generalizing index with
  | nil => cases h
  | cons piece rest ih =>
      cases piece with
      | code _ | prose _ => exact ih h
      | math expression display =>
          rcases List.mem_cons.1 h with rfl | h
          · exact ⟨index, Nat.le_refl index, rfl⟩
          · rcases ih h with ⟨i, hi, htoken⟩
            exact ⟨i, by omega, htoken⟩

/-- The token of a segment carries its place in the list. -/
theorem token_of_getElem?_numbered {stem : List Char} {index i : Nat} {pieces : List Piece}
    {s : Segment} (h : (numbered stem index pieces).segments[i]? = some s) :
    s.token = tokenOf stem (index + i) := by
  induction pieces generalizing index i with
  | nil => cases h
  | cons piece rest ih =>
      cases piece with
      | code _ | prose _ => exact ih h
      | math expression display =>
          cases i with
          | zero =>
              cases h
              rfl
          | succ i =>
              have := ih h
              rwa [Nat.add_right_comm, Nat.add_assoc] at this

theorem occurs_source_of_mem_numbered {stem : List Char} {index : Nat} {pieces : List Piece}
    {s : Segment} (h : s ∈ (numbered stem index pieces).segments) :
    occurs s.source (pieces.flatMap Piece.source) = true := by
  rw [occurs_iff]
  induction pieces generalizing index with
  | nil => cases h
  | cons piece rest ih =>
      have htail : s ∈ (numbered stem (index + 1) rest).segments ∨
          s ∈ (numbered stem index rest).segments ->
          ∃ before after, (piece :: rest).flatMap Piece.source = before ++ s.source ++ after := by
        intro h
        rcases h.elim (fun h => ih h) (fun h => ih h) with ⟨before, after, hs⟩
        refine ⟨piece.source ++ before, after, ?_⟩
        simp only [List.flatMap_cons, hs, List.append_assoc]
      cases piece with
      | code _ | prose _ => exact htail (Or.inr h)
      | math expression display =>
          rcases List.mem_cons.1 h with rfl | h
          · exact ⟨[], rest.flatMap Piece.source, rfl⟩
          · exact htail (Or.inl h)

theorem pairwise_token_numbered (stem : List Char) (index : Nat) (pieces : List Piece) :
    (numbered stem index pieces).segments.Pairwise fun s t => s.token ≠ t.token := by
  induction pieces generalizing index with
  | nil => exact List.Pairwise.nil
  | cons piece rest ih =>
      cases piece with
      | code _ | prose _ => exact ih index
      | math expression display =>
          refine List.pairwise_cons.2 ⟨?_, ih (index + 1)⟩
          intro t ht heq
          rcases token_of_mem_numbered ht with ⟨i, hi, htoken⟩
          rw [htoken] at heq
          have := tokenOf_injective heq
          omega

/-!
## Writing the segments back
-/

/-- The text kept so far, and then the text of numbered pieces, is rewritten to the
source by a rule that turns tokens into the sources of their segments. What was kept
grows until the next token is met, so that it never ends within a stem. -/
theorem apply_numbered {n : Nat} {pieces : List Piece} {r : Rule} (index : Nat)
    (kept : List Char)
    (hturns : ∀ s ∈ (numbered (stemOf n) index pieces).segments, r.Turns s.token s.source)
    (htokens : forall old new, r.Turns old new -> exists i, old = tokenOf (stemOf n) i)
    (hfree : occurs (stemOf n) (kept ++ pieces.flatMap Piece.source) = false) :
    r.apply (kept ++ (numbered (stemOf n) index pieces).text) =
      kept ++ pieces.flatMap Piece.source := by
  induction pieces generalizing index kept with
  | nil =>
      rw [List.flatMap_nil, List.append_nil] at hfree ⊢
      have hsame : r.apply kept = kept := by
        apply r.apply_of_not_occurs
        intro old new hold
        rcases htokens old new hold with ⟨i, rfl⟩
        exact not_occurs_tokenOf hfree i
      simpa only [numbered, List.append_nil] using hsame
  | cons piece rest ih =>
      rw [List.flatMap_cons] at hfree ⊢
      cases piece with
      | code part | prose part =>
          have := ih index (kept ++ part) hturns (by rwa [List.append_assoc])
          simpa only [numbered, Piece.source, List.append_assoc] using this
      | math expression display =>
          have htoken := hturns ⟨tokenOf (stemOf n) index, expression, display⟩ List.mem_cons_self
          have hbefore : forall old new, r.Turns old new -> occurs old kept = false := by
            intro old new hold
            rcases htokens old new hold with ⟨i, rfl⟩
            exact not_occurs_tokenOf (not_occurs_of_append_left hfree) i
          have hclear : forall old new, r.Turns old new ->
              Clear (tokenOf (stemOf n) index) old.tail := by
            intro old new hold
            rcases htokens old new hold with ⟨i, rfl⟩
            exact clear_token_tail n n index i
          have hrest := ih (index + 1) []
            (fun s hs => hturns s (List.mem_cons_of_mem _ hs))
            (not_occurs_of_append_right (not_occurs_of_append_right hfree))
          rw [List.nil_append, List.nil_append] at hrest
          have hstep := r.apply_append_append htoken hbefore hclear
            (numbered (stemOf n) (index + 1) rest).text
          rw [hrest] at hstep
          simpa only [numbered, Piece.source, Segment.source, List.append_assoc] using hstep

/-!
## The places of the tokens
-/

/-- No token below the first number occurs in the text of numbered pieces. -/
theorem occurrencesFrom_numbered_of_lt {n i : Nat} {pieces : List Piece} (index : Nat)
    (kept : List Char) (hi : i < index)
    (hfree : occurs (stemOf n) (kept ++ pieces.flatMap Piece.source) = false)
    (position : Nat) :
    occurrencesFrom (tokenOf (stemOf n) i) position
      (kept ++ (numbered (stemOf n) index pieces).text) = [] := by
  induction pieces generalizing index kept position with
  | nil =>
      rw [List.flatMap_nil] at hfree
      exact occurrencesFrom_of_not_occurs (not_occurs_tokenOf hfree i) position
  | cons piece rest ih =>
      rw [List.flatMap_cons] at hfree
      cases piece with
      | code part | prose part =>
          have := ih index (kept ++ part) hi (by rwa [List.append_assoc]) position
          simpa only [numbered, List.append_assoc] using this
      | math expression display =>
          have hkept := not_occurs_tokenOf (not_occurs_of_append_left hfree) i
          have hrest := ih (index + 1) [] (by omega)
            (not_occurs_of_append_right (not_occurs_of_append_right hfree))
          simp only [numbered]
          rw [occurrencesFrom_append_append hkept (clear_token_tail n n index i),
            occurrencesFrom_append_of_clear (clear_token (by omega))]
          exact hrest _

/-- The tokens of numbered pieces occur once each, one behind the other. -/
theorem exists_positions_numbered {n : Nat} {pieces : List Piece} (index : Nat)
    (kept : List Char)
    (hfree : occurs (stemOf n) (kept ++ pieces.flatMap Piece.source) = false)
    (position : Nat) :
    exists positions : List Nat, positions.Pairwise (· < ·) ∧ (∀ p ∈ positions, position ≤ p) ∧
      (numbered (stemOf n) index pieces).segments.map (fun s =>
        occurrencesFrom s.token position (kept ++ (numbered (stemOf n) index pieces).text)) =
        positions.map fun p => [p] := by
  induction pieces generalizing index kept position with
  | nil => exact ⟨[], List.Pairwise.nil, by simp, rfl⟩
  | cons piece rest ih =>
      rw [List.flatMap_cons] at hfree
      cases piece with
      | code part | prose part =>
          have := ih index (kept ++ part) (by rwa [List.append_assoc]) position
          simpa only [numbered, List.append_assoc] using this
      | math expression display =>
          have hrestFree := not_occurs_of_append_right (not_occurs_of_append_right hfree)
          have hkept : forall i, occurs (tokenOf (stemOf n) i) kept = false := fun i =>
            not_occurs_tokenOf (not_occurs_of_append_left hfree) i
          rcases ih (index + 1) [] hrestFree
              (position + kept.length + (tokenOf (stemOf n) index).length)
            with ⟨positions, hsorted, hbound, hmap⟩
          refine ⟨(position + kept.length) :: positions, ?_, ?_, ?_⟩
          · refine List.pairwise_cons.2 ⟨?_, hsorted⟩
            intro p hp
            have := hbound p hp
            have := List.length_pos_iff.2 (tokenOf_ne_nil (stemOf n) index)
            omega
          · intro p hp
            rcases List.mem_cons.1 hp with rfl | hp
            · omega
            · have := hbound p hp
              omega
          · simp only [numbered, List.map_cons]
            rw [← hmap]
            congr 1
            · rw [occurrencesFrom_append_append (hkept index) (clear_token_tail n n index index),
                occurrencesFrom_self_append (tokenOf_ne_nil _ _) (clear_token_tail n n index index)]
              congr 1
              exact occurrencesFrom_numbered_of_lt (index + 1) [] (Nat.lt_succ_self index)
                hrestFree _
            · apply List.map_congr_left
              intro s hs
              rcases token_of_mem_numbered hs with ⟨i, hi, htoken⟩
              rw [htoken, occurrencesFrom_append_append (hkept i) (clear_token_tail n n index i),
                occurrencesFrom_append_of_clear (clear_token (by omega))]
              rfl

/-!
## The whole extraction
-/

theorem getLast?_source (s : Segment) : s.source.getLast? = some '$' := by
  rw [Segment.source, List.getLast?_append]
  cases s.display <;> rfl

theorem exists_source_eq_cons (s : Segment) : exists rest, s.source = '$' :: rest := by
  cases h : s.display with
  | true => exact ⟨_, by rw [Segment.source, h]; rfl⟩
  | false => exact ⟨_, by rw [Segment.source, h]; rfl⟩

/-- No token starts in the source of a segment, if that does not hold the stem. -/
theorem clear_token_source {n : Nat} {s : Segment} (h : occurs (stemOf n) s.source = false)
    (i : Nat) : Clear (tokenOf (stemOf n) i) s.source :=
  clear_of_not_occurs (not_occurs_tokenOf h i) (getLast?_source s) (notMem_tokenOf (by decide) n i)

theorem clear_source_token (s : Segment) (n i : Nat) :
    Clear s.source (tokenOf (stemOf n) i).tail := by
  rcases exists_source_eq_cons s with ⟨rest, hrest⟩
  rw [hrest]
  apply clear_of_notMem
  intro h
  exact notMem_tokenOf (by decide) n i (List.mem_of_mem_tail h)

/-- A segment whose token is one of the tokens of a stem. -/
def Segment.Numbered (n : Nat) (segment : Segment) : Prop :=
  exists i, segment.token = tokenOf (stemOf n) i

theorem Segment.Numbered.ne_nil {n : Nat} {segment : Segment} (h : segment.Numbered n) :
    segment.token ≠ [] := by
  rcases h with ⟨i, hi⟩
  rw [hi]
  exact tokenOf_ne_nil _ i

/-- Segments with tokens of one stem, all different, and sources that do not hold the
stem. -/
structure Recoverable (n : Nat) (segments : List Segment) : Prop where
  numbered : ∀ s ∈ segments, s.Numbered n
  distinct : segments.Pairwise fun s t => s.token ≠ t.token
  free : ∀ s ∈ segments, occurs (stemOf n) s.source = false

theorem Recoverable.perm {n : Nat} {segments order : List Segment} (h : Recoverable n segments)
    (horder : order.Perm segments) : Recoverable n order where
  numbered s hs := h.numbered s (horder.mem_iff.1 hs)
  distinct := (horder.pairwise_iff fun hne => Ne.symm hne).2 h.distinct
  free s hs := h.free s (horder.mem_iff.1 hs)

theorem recoverable_numbered {n : Nat} {pieces : List Piece}
    (hfree : occurs (stemOf n) (pieces.flatMap Piece.source) = false) :
    Recoverable n (numbered (stemOf n) 0 pieces).segments where
  numbered s hs := by
    rcases token_of_mem_numbered hs with ⟨i, -, hi⟩
    exact ⟨i, hi⟩
  distinct := pairwise_token_numbered (stemOf n) 0 pieces
  free s hs := by
    rcases occurs_iff.1 (occurs_source_of_mem_numbered hs) with ⟨before, after, hsplit⟩
    rw [hsplit] at hfree
    exact not_occurs_of_append_right (not_occurs_of_append_left hfree)

/-- The rules that write segments back may be applied one after the other. -/
theorem Recoverable.pairwise_word {n : Nat} {segments : List Segment}
    (h : Recoverable n segments) :
    (segments.map fun s => Rule.word s.token s.source).Pairwise Rule.Precedes := by
  rw [List.pairwise_map]
  refine h.distinct.imp_of_mem ?_
  intro s t hs ht hne
  rcases h.numbered s hs with ⟨i, hi⟩
  rcases h.numbered t ht with ⟨j, hj⟩
  have hij : i ≠ j := by
    intro hij
    subst hij
    exact hne (by rw [hi, hj])
  constructor
  · intro old new old' new' hturns hturns'
    rcases hturns with ⟨-, rfl, rfl⟩
    rcases hturns' with ⟨-, rfl, rfl⟩
    rw [hi, hj]
    exact clear_token hij
  · intro old new old' new' hturns hturns'
    rcases hturns with ⟨-, rfl, rfl⟩
    rcases hturns' with ⟨-, rfl, rfl⟩
    rw [hj]
    exact clear_token_source (h.free s hs) j
  · intro old new old' new' hturns hturns'
    rcases hturns with ⟨-, rfl, rfl⟩
    rcases hturns' with ⟨-, rfl, rfl⟩
    rw [hj]
    exact clear_source_token s n j

/-- The one rule that writes all segments back. -/
def Recoverable.rule {n : Nat} {segments : List Segment} (h : Recoverable n segments) : Rule :=
  Rule.firstOf (segments.map fun s => Rule.word s.token s.source) h.pairwise_word

theorem Recoverable.rule_turns_iff {n : Nat} {segments : List Segment}
    (h : Recoverable n segments) {old new : List Char} :
    h.rule.Turns old new ↔ ∃ s ∈ segments, old = s.token ∧ new = s.source := by
  constructor
  · intro hturns
    rcases hturns with ⟨r, hr, hturns⟩
    rcases List.mem_map.1 hr with ⟨s, hs, rfl⟩
    exact ⟨s, hs, hturns.2⟩
  · intro hturns
    rcases hturns with ⟨s, hs, hold, hnew⟩
    exact ⟨_, List.mem_map.2 ⟨s, hs, rfl⟩, (h.numbered s hs).ne_nil, hold, hnew⟩

theorem Recoverable.foldl_replaceAll {n : Nat} {segments : List Segment}
    (h : Recoverable n segments) (text : List Char) :
    segments.foldl (fun text s => replaceAll s.token s.source text) text = h.rule.apply text := by
  rw [Rule.foldl_replaceAll segments _ _ fun s hs => (h.numbered s hs).ne_nil,
    Rule.foldl_apply _ h.pairwise_word]
  rfl

/-- Writing the segments of numbered pieces back, in any order, gives the source. -/
theorem foldl_replaceAll_numbered {n : Nat} {pieces : List Piece} {order : List Segment}
    (hfree : occurs (stemOf n) (pieces.flatMap Piece.source) = false)
    (horder : order.Perm (numbered (stemOf n) 0 pieces).segments) :
    order.foldl (fun text s => replaceAll s.token s.source text)
      (numbered (stemOf n) 0 pieces).text = pieces.flatMap Piece.source := by
  have h := (recoverable_numbered hfree).perm horder
  rw [h.foldl_replaceAll]
  refine apply_numbered 0 [] ?_ ?_ hfree
  · intro s hs
    exact h.rule_turns_iff.2 ⟨s, horder.mem_iff.2 hs, rfl, rfl⟩
  · intro old new hturns
    rcases h.rule_turns_iff.1 hturns with ⟨s, hs, rfl, -⟩
    exact h.numbered s hs

/-- A text stays as it is when segments are written back exactly when it holds none of
their tokens. -/
theorem Recoverable.foldl_replaceAll_eq_self_iff {n : Nat} {segments : List Segment}
    (h : Recoverable n segments) (text : List Char) :
    segments.foldl (fun text s => replaceAll s.token s.source text) text = text ↔
      ∀ s ∈ segments, occurs s.token text = false := by
  rw [h.foldl_replaceAll]
  constructor
  · intro hself t ht
    rcases h.numbered t ht with ⟨i, hi⟩
    rw [← hself]
    refine h.rule.not_occurs_apply (h.rule_turns_iff.2 ⟨t, ht, rfl, rfl⟩) ?_ ?_ text
    · intro old new hturns
      rcases h.rule_turns_iff.1 hturns with ⟨s, hs, -, rfl⟩
      rw [hi]
      exact clear_token_source (h.free s hs) i
    · intro old new hturns
      rcases h.rule_turns_iff.1 hturns with ⟨s, hs, -, rfl⟩
      rw [hi]
      exact clear_source_token s n i
  · intro hfree
    apply h.rule.apply_of_not_occurs
    intro old new hturns
    rcases h.rule_turns_iff.1 hturns with ⟨s, hs, rfl, -⟩
    exact hfree s hs

/-- The segments of a source have the tokens of a stem that the source does not hold. -/
theorem exists_recoverable_extract (source : List Char) :
    exists n, Recoverable n (extract source).segments := by
  rcases exists_freshStem_eq source with ⟨n, hstem, hfree, -⟩
  rw [← flatMap_source_pieces source] at hfree
  refine ⟨n, ?_⟩
  rw [extract, hstem]
  exact recoverable_numbered hfree

/-- Extraction is lossless and its tokens are unambiguous. The search for a stem ends with
the first one that the source does not hold; each segment has the token of its number;
the tokens occur once each, in the order of the segments; and replacing each token by its
segment gives the source, in whatever order the segments are taken. -/
theorem extract_lossless (source : List Char) :
    (exists n, freshStem source = stemOf n ∧ occurs (stemOf n) source = false ∧
      forall k, k < n -> occurs (stemOf k) source = true) ∧
    (forall i s, (extract source).segments[i]? = some s ->
      s.token = tokenOf (freshStem source) i) ∧
    (exists positions : List Nat, positions.Pairwise (· < ·) ∧
      (extract source).segments.map (fun s => occurrences s.token (extract source).text) =
        positions.map fun p => [p]) ∧
    (forall order : List Segment, order.Perm (extract source).segments ->
      order.foldl (fun text s => replaceAll s.token s.source text) (extract source).text =
        source) := by
  rcases exists_freshStem_eq source with ⟨n, hstem, hfree, hgrown⟩
  have hsource := flatMap_source_pieces source
  rw [← hsource] at hfree
  have hextract : extract source = numbered (stemOf n) 0 (pieces source) := by
    rw [extract, hstem]
  refine ⟨⟨n, hstem, by rwa [hsource] at hfree, hgrown⟩, ?_, ?_, ?_⟩
  · intro i s hs
    rw [hextract] at hs
    rw [hstem, token_of_getElem?_numbered hs, Nat.zero_add]
  · rcases exists_positions_numbered 0 [] hfree 0 with ⟨positions, hsorted, -, hmap⟩
    rw [hextract]
    exact ⟨positions, hsorted, hmap⟩
  · intro order horder
    rw [hextract] at horder ⊢
    rw [foldl_replaceAll_numbered hfree horder, hsource]

/-- A source that holds a token already: its segments have a longer stem, and writing
them back from the last one to the first gives the source. -/
theorem extract_lossless_of_stem_in_source :
    [(⟨"MDCMATHQ1X".toList, "b".toList, true⟩ : Segment),
        ⟨"MDCMATHQ0X".toList, "a".toList, false⟩].foldl
      (fun text s => replaceAll s.token s.source text)
      (extract "MDCMATH0X$a$ and $$b$$".toList).text = "MDCMATH0X$a$ and $$b$$".toList := by
  have hsegments : (extract "MDCMATH0X$a$ and $$b$$".toList).segments =
      [⟨"MDCMATHQ0X".toList, "a".toList, false⟩, ⟨"MDCMATHQ1X".toList, "b".toList, true⟩] := by
    decide +kernel
  refine (extract_lossless "MDCMATH0X$a$ and $$b$$".toList).2.2.2 _ ?_
  rw [hsegments]
  exact List.Perm.swap _ _ []

end Math
end Folio
