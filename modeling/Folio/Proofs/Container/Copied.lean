import Folio.Proofs.Container.Region
import Folio.Proofs.Math.Complete

/-!
# What containers leave alone

A part of a source is copied if the regions it reaches into are written as they stand. Text
always is, and an opening tag alone never is. A container is written as it stands only within
a line, if its body has no blanks at its ends and its closing tag is written in the plain way
(`copied_iff`). Containers are looked for in code as well, so code is copied exactly if every
container that opens in code and reaches into it is of that kind (`code_copied_iff`).
-/

namespace Folio
namespace Container

open Text

variable {σ : Type}

/-- Whether a region needs no change: text, and a container within a line that is drawn together
already. -/
def Region.isTidy : Region -> Bool
  | .text _ => true
  | .closed tag body closing => !tag.isDiv && trim body == body && closing == "</span>".toList
  | .unclosed _ => false

/-- Whether a region is a container. -/
def Region.isContainer : Region -> Bool
  | .text _ => false
  | _ => true

/-- The containers of a source in their places. -/
def containers (source : List Char) : List (Located Region) :=
  (located Region.source 0 (regions source)).filter fun p => p.part.isContainer

/-- Whether what stands in an extent of a source is written as it stands: it lies within some
regions that are. -/
def Copied (render : List Char -> σ -> List Char × σ) (state : σ) (source : List Char)
    (r : Extent) : Prop :=
  exists front inside back, regions source = front ++ inside ++ back ∧
    r.Within ⟨(front.flatMap Region.source).length,
      ((front ++ inside).flatMap Region.source).length⟩ ∧
    (emitAll render inside (emitAll render front state).2).1 = inside.flatMap Region.source

/-!
## One region
-/

/-- A tidy region is written as it stands, and no body is rendered for it. -/
theorem emit_of_isTidy (render : List Char -> σ -> List Char × σ) (state : σ) {x : Region}
    (h : x.isTidy = true) : x.emit render state = (x.source, state) := by
  cases x with
  | text s => rfl
  | unclosed tag => cases h
  | closed tag body closing =>
      simp only [Region.isTidy, Bool.and_eq_true, Bool.not_eq_true', beq_iff_eq] at h
      rcases h with ⟨⟨hdiv, htrim⟩, rfl⟩
      simp only [Region.emit, hdiv, Bool.false_eq_true, if_false, spanMarkup, htrim,
        Region.source]

/-- A body in front of a tag is its own trimmed form, if that may stand there in its place. -/
theorem trim_eq_self_of_append {body s t : List Char}
    (h : trim body ++ '<' :: s = body ++ '<' :: t) : trim body = body := by
  rcases dropRightWhile_append isBlank (body.dropWhile isBlank) with ⟨tail, hsplit, htail⟩
  rw [← trimLeft, ← trimRight, ← trim] at hsplit
  have hfirst := List.head?_dropWhile_not isBlank body
  rw [← trimLeft, hsplit] at hfirst
  cases body with
  | nil => rfl
  | cons c rest =>
      cases hc : isBlank c with
      | true =>
          -- The trimmed form would start with a blank.
          cases htrim : trim (c :: rest) with
          | nil =>
              rw [htrim] at h
              injection h with hhead
              rw [← hhead] at hc
              exact absurd hc (by decide)
          | cons d more =>
              rw [htrim] at h hfirst
              injection h with hhead
              rw [List.cons_append, List.head?_cons] at hfirst
              rw [← hhead, hfirst] at hc
              cases hc
      | false =>
          rw [trimLeft, List.dropWhile_cons_of_neg (by rw [hc]; decide)] at hsplit
          cases tail with
          | nil =>
              rw [List.append_nil] at hsplit
              exact hsplit.symm
          | cons d more =>
              -- What follows the trimmed form would be a blank.
              generalize trim (c :: rest) = kept at h hsplit
              rw [hsplit, List.append_assoc, List.append_cancel_left_eq] at h
              injection h with hhead
              rw [List.all_cons, ← hhead, Bool.and_eq_true] at htail
              exact absurd htail.1 (by decide)

/-- Two tags are the same if the same text starts with them. -/
theorem IsBracketed.eq {a b s t : List Char} (ha : IsBracketed a) (hb : IsBracketed b)
    (h : a ++ s = b ++ t) : a = b := by
  have htag (tag s : List Char) (htag : IsBracketed tag) :
      '<' :: ((tag ++ s).tail.takeWhile (· ≠ '>') ++ ['>']) = tag := by
    rcases htag with ⟨inside, rfl, hinside⟩
    rw [List.cons_append, List.tail_cons, List.append_assoc, List.takeWhile_append_of_pos]
    · simp
    · intro c hc
      rw [decide_eq_true_iff]
      rintro rfl
      exact hinside hc
  rw [← htag a s ha, h, htag b t hb]

/-- If a region is written as it stands, whatever is written behind it, it is tidy. -/
theorem isTidy_of_emit_append {render : List Char -> σ -> List Char × σ} {state : σ} {x : Region}
    (hclosing : x.IsClosedWell) {s t : List Char}
    (h : (x.emit render state).1 ++ s = x.source ++ t) : x.isTidy = true := by
  cases x with
  | text u => rfl
  | unclosed tag =>
      -- The bracket in front is escaped.
      cases h
  | closed tag body closing =>
      rw [Region.emit] at h
      split at h
      · -- A line is left free in front of the markup.
        cases h
      · rename_i hdiv
        simp only [spanMarkup, Region.source, List.append_assoc,
          List.append_cancel_left_eq] at h
        have htrim : trim body = body := by
          rcases hclosing with ⟨inside, rfl, -⟩
          exact trim_eq_self_of_append h
        rw [htrim, List.append_cancel_left_eq] at h
        have hplain : "</span>".toList = closing :=
          IsBracketed.eq ⟨"/span".toList, rfl, by decide⟩ hclosing h
        simp only [Region.isTidy, hdiv, htrim, hplain, Bool.not_false, beq_self_eq_true,
          Bool.and_self]

/-!
## Regions one behind the other
-/

theorem emitAll_of_isTidy (render : List Char -> σ -> List Char × σ) (state : σ)
    {l : List Region} (h : ∀ x ∈ l, x.isTidy = true) :
    (emitAll render l state).1 = l.flatMap Region.source := by
  induction l with
  | nil => rfl
  | cons x rest ih =>
      rw [emitAll, emit_of_isTidy render state (h x List.mem_cons_self), List.flatMap_cons,
        ih fun y hy => h y (List.mem_cons_of_mem x hy)]

theorem isTidy_of_emitAll {render : List Char -> σ -> List Char × σ} {state : σ}
    {l : List Region} (hclosing : ∀ x ∈ l, x.IsClosedWell)
    (h : (emitAll render l state).1 = l.flatMap Region.source) : ∀ x ∈ l, x.isTidy = true := by
  induction l with
  | nil => simp only [List.not_mem_nil, false_implies, implies_true]
  | cons x rest ih =>
      rw [emitAll, List.flatMap_cons] at h
      have hx := isTidy_of_emit_append (hclosing x List.mem_cons_self) h
      rw [emit_of_isTidy render state hx, List.append_cancel_left_eq] at h
      intro y hy
      rcases List.mem_cons.1 hy with rfl | hy
      · exact hx
      · exact ih (fun z hz => hclosing z (List.mem_cons_of_mem x hz)) h y hy

/-- What is copied stands in what is written. -/
theorem Copied.isInfix {render : List Char -> σ -> List Char × σ} {state : σ}
    {source : List Char} {r : Extent} (h : Copied render state source r) :
    r.cut source <:+: (prepareWith render source state).1 := by
  rcases h with ⟨front, inside, back, hsplit, hwithin, hsame⟩
  have hsource := flatMap_source_regions source
  have hcut := Extent.cut_infix hwithin source
  rw [hsplit, List.flatMap_append, List.flatMap_append] at hsource
  rw [← hsource, List.flatMap_append, Extent.cut_append, hsource] at hcut
  refine hcut.trans ?_
  rw [prepareWith, hsplit, List.append_assoc, emitAll_append, emitAll_append, hsame]
  exact ⟨_, _, List.append_assoc _ _ _⟩

/-- A part of a source is copied exactly if each region it reaches into is tidy. -/
theorem copied_iff (render : List Char -> σ -> List Char × σ) (state : σ) {source : List Char}
    {r : Extent} (hlt : r.start < r.stop) (hstop : r.stop ≤ source.length) :
    Copied render state source r ↔
      ∀ p ∈ located Region.source 0 (regions source), ¬ r.Apart (p.extent Region.source) ->
        p.part.isTidy = true := by
  have hsource := flatMap_source_regions source
  constructor
  · rintro ⟨front, inside, back, hsplit, hwithin, hsame⟩ p hp hreached
    have htidy := isTidy_of_emitAll (fun x hx => isClosedWell_of_mem_regions (s := source) (by
      rw [hsplit]
      exact List.mem_append_left _ (List.mem_append_right _ hx))) hsame
    rw [hsplit, located_append, located_append, List.mem_append, List.mem_append,
      Nat.zero_add] at hp
    rcases hp with (hp | hp) | hp
    · have hfront := stop_le_of_mem_located hp
      rw [Nat.zero_add] at hfront
      exact absurd (Or.inr (Nat.le_trans hfront hwithin.1)) hreached
    · exact htidy _ (part_mem_of_mem_located hp)
    · have hback := start_le_of_mem_located hp
      rw [Nat.zero_add] at hback
      exact absurd (Or.inl (Nat.le_trans hwithin.2 hback)) hreached
  · intro htidy
    have hinside : r.stop ≤ 0 + ((regions source).flatMap Region.source).length := by
      rw [hsource, Nat.zero_add]
      exact hstop
    rcases exists_reached hlt (Nat.zero_le r.start) hinside with
      ⟨front, inside, back, hsplit, hwithin, hreached⟩
    simp only [Nat.zero_add] at hwithin hreached
    refine ⟨front, inside, back, hsplit, hwithin, emitAll_of_isTidy render _ ?_⟩
    intro x hx
    rw [← @map_part_located _ Region.source (front.flatMap Region.source).length inside] at hx
    rcases List.mem_map.1 hx with ⟨p, hp, rfl⟩
    refine htidy p ?_ (hreached p hp)
    rw [hsplit, located_append, located_append, Nat.zero_add]
    exact List.mem_append_left _ (List.mem_append_right _ hp)

/-!
## Code
-/

/-- Whether a container opens in the code of a source. -/
def OpensInCode (source : List Char) (p : Located Region) : Prop :=
  ∃ c ∈ Math.codeExtents source, c.start ≤ p.start ∧ p.start < c.stop

/-- Code that lies outside of the containers that open outside of code is copied exactly if each
container that opens in code and reaches into it is a tidy one. -/
theorem code_copied_iff (render : List Char -> σ -> List Char × σ) (state : σ)
    {source : List Char} {r : Extent} (hcode : r ∈ Math.codeExtents source)
    (houtside : ∀ p ∈ containers source, ¬ OpensInCode source p ->
      r.Apart (p.extent Region.source)) :
    Copied render state source r ↔
      ∀ p ∈ containers source, OpensInCode source p -> ¬ r.Apart (p.extent Region.source) ->
        p.part.isTidy = true := by
  rcases Math.mem_codeExtents_iff.1 hcode with ⟨x, hx, -, rfl⟩
  have hlt : (x.extent Math.Stretch.text).start < (x.extent Math.Stretch.text).stop :=
    Nat.lt_add_of_pos_right
      (List.length_pos_iff.2 (Math.text_ne_nil_of_mem_stretches (part_mem_of_mem_located hx)))
  have hstop := stop_le_of_mem_located hx
  rw [Math.flatMap_text_stretches, Nat.zero_add] at hstop
  rw [copied_iff render state hlt hstop]
  constructor
  · intro htidy p hp _ hreached
    exact htidy p (List.mem_filter.1 hp).1 hreached
  · intro htidy p hp hreached
    cases hcontainer : p.part.isContainer with
    | false =>
        cases hpart : p.part with
        | text s => rfl
        | closed tag body closing | unclosed tag =>
            rw [hpart] at hcontainer
            cases hcontainer
    | true =>
        have hmem : p ∈ containers source := List.mem_filter.2 ⟨hp, hcontainer⟩
        by_cases hopens : OpensInCode source p
        · exact htidy p hmem hopens hreached
        · exact absurd (houtside p hmem hopens) hreached

/-- A code span that shows a container of a line. -/
theorem code_copied_iff_of_span :
    Copied (fun body (_ : Unit) => (body, ())) () "`<span class=\"lead\">a</span>`".toList
      ⟨0, 29⟩ := by
  have hcontainers : containers "`<span class=\"lead\">a</span>`".toList =
      [⟨1, .closed ⟨"span".toList, " class=\"lead\"".toList⟩ ['a'] "</span>".toList⟩] := by
    decide
  have hcode : Math.codeExtents "`<span class=\"lead\">a</span>`".toList = [⟨0, 29⟩] := by
    decide +kernel
  refine (code_copied_iff _ () (hcode ▸ List.mem_singleton_self _) ?_).2 ?_
  · rw [hcontainers]
    intro p hp hopens
    cases List.mem_singleton.1 hp
    exact absurd ⟨_, hcode ▸ List.mem_singleton_self _, by decide, by decide⟩ hopens
  · rw [hcontainers]
    intro p hp _ _
    cases List.mem_singleton.1 hp
    decide

/-- A fence that shows a container of lines: all of it is code, and the container opens there,
but its body is rendered and lines are left free around it. -/
theorem code_not_copied_of_fence :
    (⟨0, 37⟩ : Extent) ∈ Math.codeExtents "```\n<div class=\"theory\">\nx\n</div>\n```".toList ∧
      (∀ p ∈ containers "```\n<div class=\"theory\">\nx\n</div>\n```".toList,
        OpensInCode "```\n<div class=\"theory\">\nx\n</div>\n```".toList p) ∧
      ¬ Copied (fun body (_ : Unit) => (body, ())) ()
        "```\n<div class=\"theory\">\nx\n</div>\n```".toList ⟨0, 37⟩ := by
  have hcode : Math.codeExtents "```\n<div class=\"theory\">\nx\n</div>\n```".toList =
      [⟨0, 37⟩] := by
    decide +kernel
  have hcontainers : containers "```\n<div class=\"theory\">\nx\n</div>\n```".toList =
      [⟨4, .closed ⟨"div".toList, " class=\"theory\"".toList⟩ "\nx\n".toList "</div>".toList⟩] := by
    decide
  refine ⟨hcode ▸ List.mem_singleton_self _, ?_, ?_⟩
  · rw [hcontainers]
    intro p hp
    cases List.mem_singleton.1 hp
    exact ⟨_, hcode ▸ List.mem_singleton_self _, by decide, by decide⟩
  · intro h
    exact absurd h.isInfix (by decide)

end Container
end Folio
