import Folio.Proofs.Container.Copied
import Folio.Proofs.Container.Scan

/-!
# Containers cover what they open

The containers of a source stand one behind the other (`containersFrom_container`), each with its
own opening tag and the first closing tag behind it (`standsIn_of_mem`). The gaps between them are
written as they stand, whatever becomes of the containers (`exists_gaps`), and no opening tag of
the vocabulary stands in a gap (`exists_within_of_openTag?`).
-/

namespace Folio
namespace Container

open Text

/-!
## What a container is
-/

/-- Whether a region is a container in its place: an opening tag of the vocabulary, either with
all that stands behind it up to the end of the first closing tag of its name, or alone if there is
no such tag. -/
inductive StandsIn (source : List Char) : Located Region -> Prop where
  | closed {start : Nat} {tag : OpenTag} {body closing after : List Char}
      (hopen : openTag? (source.drop start) = some (tag, body ++ closing ++ after))
      (hclass : (className? tag.attributes).isSome = true)
      (hclose : closeTag? (lower tag.name) (closing ++ after) = some (closing, after))
      (hfirst : forall front back, body = front ++ back -> back ≠ [] ->
        closeTag? (lower tag.name) (back ++ closing ++ after) = none) :
      StandsIn source ⟨start, .closed tag body closing⟩
  | unclosed {start : Nat} {tag : OpenTag} {after : List Char}
      (hopen : openTag? (source.drop start) = some (tag, after))
      (hclass : (className? tag.attributes).isSome = true)
      (hnone : forall front back, after = front ++ back ->
        closeTag? (lower tag.name) back = none) :
      StandsIn source ⟨start, .unclosed tag⟩

/-- The closing tag that is found is the first one. -/
theorem closeTag?_of_breakAtClose? {name s body closing rest : List Char} (hname : '>' ∉ name)
    (h : breakAtClose? name s = some (body, closing, rest)) :
    closeTag? name (closing ++ rest) = some (closing, rest) ∧
      forall front back, body = front ++ back -> back ≠ [] ->
        closeTag? name (back ++ closing ++ rest) = none := by
  induction s generalizing body with
  | nil => cases h
  | cons c s ih =>
      have hs := (eq_append_of_breakAtClose? hname h).1
      rw [breakAtClose?] at h
      split at h
      · rename_i found hfound
        cases h
        rw [List.nil_append] at hs
        refine ⟨hs ▸ hfound, ?_⟩
        intro front back hsplit hback
        exact absurd (List.append_eq_nil_iff.1 hsplit.symm).2 hback
      · rename_i hnone
        rcases Option.map_eq_some_iff.1 h with ⟨⟨front, found⟩, hfront, heq⟩
        cases heq
        refine ⟨(ih hfront).1, ?_⟩
        intro before back hsplit hback
        cases before with
        | nil =>
            rw [List.nil_append] at hsplit
            rw [← hsplit, ← hs]
            exact hnone
        | cons d before =>
            injection hsplit with _ hsplit
            exact (ih hfront).2 before back hsplit hback

theorem closeTag?_of_breakAtClose?_eq_none {name s : List Char}
    (h : breakAtClose? name s = none) (front back : List Char) (hs : s = front ++ back) :
    closeTag? name back = none := by
  induction front generalizing s with
  | nil =>
      rw [List.nil_append] at hs
      subst hs
      cases s with
      | nil => rfl
      | cons c s =>
          rw [breakAtClose?] at h
          split at h
          · cases h
          · assumption
  | cons c front ih =>
      subst hs
      rw [List.cons_append, breakAtClose?] at h
      split at h
      · cases h
      · exact ih (Option.map_eq_none_iff.1 h) rfl

/-- A region that the scan finds is a container where it is found. -/
theorem standsIn_of_region? {source after : List Char} {start : Nat} {x : Region}
    (h : region? (source.drop start) = some (x, after)) : StandsIn source ⟨start, x⟩ := by
  unfold region? at h
  split at h
  · rename_i tag behind htag
    rcases eq_append_of_openTag? htag with ⟨-, hname⟩
    split at h
    · cases h
    · rename_i name hclass
      have hclass : (className? tag.attributes).isSome = true := by rw [hclass, Option.isSome_some]
      split at h
      · rename_i body closing rest hbreak
        cases h
        rcases closeTag?_of_breakAtClose? (notMem_lower hname) hbreak with ⟨hclose, hfirst⟩
        rw [(eq_append_of_breakAtClose? (notMem_lower hname) hbreak).1] at htag
        exact .closed htag hclass hclose hfirst
      · rename_i hbreak
        cases h
        exact .unclosed htag hclass (closeTag?_of_breakAtClose?_eq_none hbreak)
  · cases h

/-- A container opens wherever an opening tag of the vocabulary stands. -/
theorem exists_region?_of_openTag? {s after : List Char} {tag : OpenTag}
    (h : openTag? s = some (tag, after)) (hclass : (className? tag.attributes).isSome = true) :
    exists x rest, region? s = some (x, rest) := by
  rcases Option.isSome_iff_exists.1 hclass with ⟨name, hname⟩
  rw [region?, h]
  simp only [hname]
  split
  · exact ⟨_, _, rfl⟩
  · exact ⟨_, _, rfl⟩

/-!
## Tags end at their bracket
-/

theorem notMem_attributes {name s after : List Char} {tag : OpenTag}
    (h : openTagNamed? name s = some (tag, after)) : '>' ∉ tag.attributes := by
  unfold openTagNamed? at h
  split at h
  · split at h
    · split at h
      · simp only at h
        split at h
        · cases h
          intro hmem
          exact absurd (List.mem_takeWhile_imp hmem) (by decide)
        · cases h
      · cases h
    · cases h
  · cases h

theorem isBracketed_of_openTag? {s after : List Char} {tag : OpenTag}
    (h : openTag? s = some (tag, after)) : IsBracketed tag.text := by
  have hattributes : '>' ∉ tag.attributes := by
    unfold openTag? at h
    split at h
    · rename_i hfound
      cases h
      exact notMem_attributes hfound
    · exact notMem_attributes h
  refine ⟨tag.name ++ tag.attributes, rfl, ?_⟩
  rw [List.mem_append, not_or]
  exact ⟨fun hmem => absurd ((eq_append_of_openTag? h).2 '>' hmem) (by decide), hattributes⟩

/-- A region that the scan finds ends with a closing bracket. -/
theorem exists_source_of_region? {s after : List Char} {x : Region}
    (h : region? s = some (x, after)) : exists front, x.source = front ++ ['>'] := by
  have hwell := (eq_append_of_region? h).2.2
  cases x with
  | text t => exact absurd h (region?_ne_text s t after)
  | unclosed tag => exact ⟨'<' :: tag.name ++ tag.attributes, rfl⟩
  | closed tag body closing =>
      rcases hwell with ⟨inside, rfl, -⟩
      refine ⟨tag.text ++ body ++ '<' :: inside, ?_⟩
      simp only [Region.source, List.append_assoc, List.cons_append]

/-- A tag that starts in a text with a closing bracket at its end ends in it as well. -/
theorem IsBracketed.length_le {tag front s t : List Char} (htag : IsBracketed tag)
    (h : tag ++ s = front ++ ['>'] ++ t) : tag.length ≤ (front ++ ['>']).length := by
  rcases htag with ⟨inside, rfl, hinside⟩
  rcases List.append_eq_append_iff.1 h with ⟨w, hw, -⟩ | ⟨w, hw, -⟩
  · rw [hw, List.length_append]
    exact Nat.le_add_right _ _
  · -- The bracket would stand within the tag.
    rcases List.eq_nil_or_concat w with rfl | ⟨more, last, rfl⟩
    · rw [hw, List.append_nil]
    · rw [List.concat_eq_append, ← List.append_assoc, ← List.cons_append] at hw
      have hbefore := (List.append_inj' hw rfl).1
      have hmem : '>' ∈ '<' :: inside := by
        rw [hbefore]
        exact List.mem_append_left _ (List.mem_append_right _ List.mem_cons_self)
      rcases List.mem_cons.1 hmem with heq | hmem
      · exact absurd heq (by decide)
      · exact absurd hmem hinside

/-!
## The containers along the scan
-/

/-- The containers of a source that starts in a given place. -/
def containersFrom (start : Nat) (source : List Char) : List (Located Region) :=
  (located Region.source start (regions source)).filter fun p => p.part.isContainer

theorem containersFrom_text {c : Char} {rest : List Char} (start : Nat)
    (h : region? (c :: rest) = none) :
    containersFrom start (c :: rest) = containersFrom (start + 1) rest := by
  rw [containersFrom, containersFrom, regions_of_none h]
  unfold consText
  split
  · rename_i t more hregions
    rw [hregions, located, located, List.filter_cons_of_neg (by simp [Region.isContainer]),
      List.filter_cons_of_neg (by simp [Region.isContainer])]
    simp only [Region.source, List.length_cons, Nat.add_assoc, Nat.add_comm 1]
  · rw [located, List.filter_cons_of_neg (by simp [Region.isContainer])]
    rfl

theorem containersFrom_container {x : Region} {after : List Char} (start : Nat)
    (h : region? (x.source ++ after) = some (x, after)) :
    containersFrom start (x.source ++ after) =
      ⟨start, x⟩ :: containersFrom (start + x.source.length) after := by
  have hcontainer : x.isContainer = true := by
    cases x with
    | text t => exact absurd h (region?_ne_text _ t after)
    | closed tag body closing | unclosed tag => rfl
  rw [containersFrom, containersFrom, regions_of_region? h, located]
  exact List.filter_cons_of_pos hcontainer

/-- Each container stands where it was found. -/
theorem exists_region?_of_mem {source : List Char} (start : Nat) {p : Located Region}
    (h : p ∈ containersFrom start source) :
    exists place after, p.start = start + place ∧
      region? (source.drop place) = some (p.part, after) := by
  induction source using scan_induction generalizing start with
  | nil => cases h
  | text c rest hregion ih =>
      rw [containersFrom_text start hregion] at h
      rcases ih (start + 1) h with ⟨place, after, hstart, hfound⟩
      exact ⟨place + 1, after, by omega, hfound⟩
  | container x after hregion ih =>
      rw [containersFrom_container start hregion] at h
      rcases List.mem_cons.1 h with rfl | h
      · exact ⟨0, after, rfl, hregion⟩
      · rcases ih _ h with ⟨place, behind, hstart, hfound⟩
        refine ⟨x.source.length + place, behind, by omega, ?_⟩
        rw [List.drop_length_add_append]
        exact hfound

theorem standsIn_of_mem {source : List Char} {p : Located Region} (h : p ∈ containers source) :
    StandsIn source p := by
  rcases exists_region?_of_mem 0 h with ⟨place, after, hstart, hfound⟩
  rcases p with ⟨start, x⟩
  rw [Nat.zero_add] at hstart
  subst hstart
  exact standsIn_of_region? hfound

/-- An opening tag of the vocabulary stands within a container. -/
theorem exists_within_of_openTag? {source after : List Char} (start : Nat) {place : Nat}
    {tag : OpenTag} (h : openTag? (source.drop place) = some (tag, after))
    (hclass : (className? tag.attributes).isSome = true) :
    ∃ p ∈ containersFrom start source,
      (⟨start + place, start + place + tag.text.length⟩ : Extent).Within
        (p.extent Region.source) := by
  induction source using scan_induction generalizing start place with
  | nil =>
      rw [List.drop_nil] at h
      cases h
  | text c rest hregion ih =>
      rw [containersFrom_text start hregion]
      cases place with
      | zero =>
          rcases exists_region?_of_openTag? h hclass with ⟨x, behind, hfound⟩
          rw [List.drop_zero, hregion] at hfound
          cases hfound
      | succ place =>
          rcases ih (start + 1) h with ⟨p, hp, hwithin⟩
          rw [Nat.add_right_comm start 1 place] at hwithin
          exact ⟨p, hp, hwithin⟩
  | container x behind hregion ih =>
      rw [containersFrom_container start hregion]
      by_cases hplace : place < x.source.length
      · refine ⟨_, List.mem_cons_self, Nat.le_add_right _ _, ?_⟩
        rcases exists_source_of_region? hregion with ⟨front, hfront⟩
        rw [hfront, List.length_append, List.length_singleton] at hplace
        have hsplit := (eq_append_of_openTag? h).1
        rw [hfront, List.append_assoc,
          List.drop_append_of_le_length (Nat.le_of_lt_succ hplace), ← List.append_assoc] at hsplit
        have hlength := (isBracketed_of_openTag? h).length_le hsplit.symm
        rw [List.length_append, List.length_drop, List.length_singleton] at hlength
        show start + place + tag.text.length ≤ start + x.source.length
        rw [hfront, List.length_append, List.length_singleton]
        omega
      · rcases Nat.exists_eq_add_of_le (Nat.le_of_not_lt hplace) with ⟨more, rfl⟩
        rw [List.drop_length_add_append] at h
        rcases ih (start + x.source.length) h with ⟨p, hp, hwithin⟩
        rw [Nat.add_assoc start] at hwithin
        exact ⟨p, List.mem_cons_of_mem _ hp, hwithin⟩

/-!
## What is written
-/

/-- Parts of a text, each behind a gap, and the rest of the text. -/
def woven (gaps parts : List (List Char)) (rest : List Char) : List Char :=
  (List.zipWith (· ++ ·) gaps parts).flatten ++ rest

/-- Where the parts of such a text stand, if it starts in a given place. -/
def wovenPlaces (start : Nat) : List (List Char) -> List (List Char) -> List Nat
  | gap :: gaps, part :: parts =>
      (start + gap.length) :: wovenPlaces (start + gap.length + part.length) gaps parts
  | _, _ => []

/-- What is written for each of some regions. -/
def emissions {σ : Type} (render : List Char -> σ -> List Char × σ) :
    List Region -> σ -> List (List Char)
  | [], _ => []
  | x :: rest, s => (x.emit render s).1 :: emissions render rest (x.emit render s).2

variable {σ : Type}

@[simp] theorem length_emissions (render : List Char -> σ -> List Char × σ) (l : List Region)
    (s : σ) : (emissions render l s).length = l.length := by
  induction l generalizing s with
  | nil => rfl
  | cons x rest ih => rw [emissions, List.length_cons, List.length_cons, ih]

/-- A text in front of the first gap is part of it, or of the rest if there are no parts. -/
theorem exists_woven_front (t : List Char) (gaps : List (List Char)) (rest : List Char) :
    exists (gaps' : List (List Char)) (rest' : List Char), gaps'.length = gaps.length ∧
      (forall parts : List (List Char), parts.length = gaps.length ->
        woven gaps' parts rest' = t ++ woven gaps parts rest) ∧
      forall (start : Nat) (parts : List (List Char)),
        wovenPlaces start gaps' parts = wovenPlaces (start + t.length) gaps parts := by
  cases gaps with
  | nil => exact ⟨[], t ++ rest, rfl, fun parts _ => rfl, fun start parts => rfl⟩
  | cons gap gaps =>
      refine ⟨(t ++ gap) :: gaps, rest, rfl, ?_, ?_⟩
      · intro parts hparts
        cases parts with
        | nil => cases hparts
        | cons part parts =>
            simp only [woven, List.zipWith_cons_cons, List.flatten_cons, List.append_assoc]
      · intro start parts
        cases parts with
        | nil => rfl
        | cons part parts => simp only [wovenPlaces, List.length_append, Nat.add_assoc]

/-- The same gaps stand between the containers in the source and between what is written for
them. -/
theorem exists_gaps (render : List Char -> σ -> List Char × σ) (l : List Region) (start : Nat)
    (s : σ) :
    exists (gaps : List (List Char)) (rest : List Char),
      gaps.length = (l.filter Region.isContainer).length ∧
      ((located Region.source start l).filter fun p => p.part.isContainer).map Located.start =
        wovenPlaces start gaps ((l.filter Region.isContainer).map Region.source) ∧
      l.flatMap Region.source = woven gaps ((l.filter Region.isContainer).map Region.source) rest ∧
      (emitAll render l s).1 =
        woven gaps (emissions render (l.filter Region.isContainer) s) rest := by
  induction l generalizing start s with
  | nil => exact ⟨[], [], rfl, rfl, rfl, rfl⟩
  | cons x l ih =>
      rw [located]
      cases hx : x.isContainer with
      | true =>
          rcases ih (start + x.source.length) (x.emit render s).2 with
            ⟨gaps, rest, hlength, hplaces, hsource, hwritten⟩
          refine ⟨[] :: gaps, rest, ?_, ?_, ?_, ?_⟩
          · rw [List.filter_cons_of_pos hx, List.length_cons, List.length_cons, hlength]
          · rw [List.filter_cons_of_pos hx, List.filter_cons_of_pos (by exact hx), List.map_cons,
              hplaces]
            rfl
          · rw [List.filter_cons_of_pos hx, List.flatMap_cons, hsource]
            simp only [woven, List.map_cons, List.zipWith_cons_cons, List.flatten_cons,
              List.nil_append, List.append_assoc]
          · rw [List.filter_cons_of_pos hx, emitAll, hwritten]
            simp only [woven, emissions, List.zipWith_cons_cons, List.flatten_cons,
              List.nil_append, List.append_assoc]
      | false =>
          cases x with
          | closed tag body closing | unclosed tag => cases hx
          | text t =>
              rcases ih (start + t.length) s with
                ⟨gaps, rest, hlength, hplaces, hsource, hwritten⟩
              rcases exists_woven_front t gaps rest with
                ⟨gaps', rest', hlength', hfront, hfrontPlaces⟩
              rw [List.filter_cons_of_neg (by rw [hx]; decide),
                List.filter_cons_of_neg (by exact Bool.eq_false_iff.1 hx)]
              refine ⟨gaps', rest', hlength'.trans hlength, ?_, ?_, ?_⟩
              · rw [hfrontPlaces]
                exact hplaces
              · rw [List.flatMap_cons, hsource, hfront _ (by rw [List.length_map, hlength])]
                rfl
              · rw [emitAll, hfront _ (by rw [length_emissions, hlength])]
                exact congrArg (t ++ ·) hwritten

theorem map_part_containers (source : List Char) :
    (containers source).map Located.part = (regions source).filter Region.isContainer := by
  rw [containers, ← @map_part_located _ Region.source 0 (regions source), List.filter_map,
    map_part_located]
  rfl

/-- The preparing of containers loses nothing and repeats nothing. The containers of a source
stand one behind the other, each in its place; what stands between them in the source stands
between what is written for them, and nothing else is written; a rendering is given the body of
each closed container of lines once, in order, and nothing else; and each opening tag of the
vocabulary stands within a container. -/
theorem containers_covered (render : List Char -> σ -> List Char × σ) (s : σ)
    (source : List Char) :
    (containers source).Pairwise (fun p q => (p.extent Region.source).stop ≤ q.start) ∧
      (∀ p ∈ containers source, StandsIn source p) ∧
      (exists (gaps : List (List Char)) (rest : List Char),
        gaps.length = (containers source).length ∧
        (containers source).map Located.start =
          wovenPlaces 0 gaps ((containers source).map fun p => p.part.source) ∧
        source = woven gaps ((containers source).map fun p => p.part.source) rest ∧
        (prepareWith render source s).1 =
          woven gaps (emissions render ((containers source).map Located.part) s) rest) ∧
      given render source s = (containers source).filterMap (fun p => p.part.body?) ∧
      forall (place : Nat) (tag : OpenTag) (after : List Char),
        openTag? (source.drop place) = some (tag, after) ->
        (className? tag.attributes).isSome = true ->
        ∃ p ∈ containers source,
          (⟨place, place + tag.text.length⟩ : Extent).Within (p.extent Region.source) := by
  have hparts := map_part_containers source
  refine ⟨(pairwise_located 0 _).filter _, fun p => standsIn_of_mem, ?_, ?_, ?_⟩
  · rcases exists_gaps render (regions source) 0 s with
      ⟨gaps, rest, hlength, hplaces, hsource, hwritten⟩
    rw [← hparts] at hlength hplaces hsource hwritten
    rw [List.length_map] at hlength
    rw [List.map_map] at hplaces
    rw [flatMap_source_regions, List.map_map] at hsource
    exact ⟨gaps, rest, hlength, hplaces, hsource, hwritten⟩
  · have hbodies : (containers source).filterMap (fun p => p.part.body?) =
        ((regions source).filter Region.isContainer).filterMap Region.body? := by
      rw [← hparts, List.filterMap_map]
      rfl
    rw [hbodies, List.filterMap_filter, given_eq_bodies]
    refine List.filterMap_congr ?_
    intro x _
    cases x with
    | text t | unclosed tag | closed tag body closing => rfl
  · intro place tag after hopen hclass
    rcases exists_within_of_openTag? 0 hopen hclass with ⟨p, hp, hwithin⟩
    rw [Nat.zero_add] at hwithin
    exact ⟨p, hp, hwithin⟩

end Container
end Folio
