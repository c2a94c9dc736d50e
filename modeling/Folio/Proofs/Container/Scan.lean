import Folio.Proofs.Container.Region

/-!
# The scan for containers

The scan for containers goes through a source from left to right. Where a container opens, it
goes on behind the container; elsewhere it takes one character for the text (`scan_induction`).
The bodies that a rendering is given are those that a rendering with a record writes down
(`given_eq_bodies`).
-/

namespace Folio
namespace Container

open Text

/-!
## One step of the scan
-/

theorem regionsFrom_eq {n m : Nat} {s : List Char} (hn : s.length ≤ n) (hm : s.length ≤ m) :
    regionsFrom n s = regionsFrom m s := by
  induction n generalizing m s with
  | zero =>
      rw [List.length_eq_zero_iff.1 (Nat.le_zero.1 hn)]
      cases m <;> rfl
  | succ n ih =>
      cases s with
      | nil => cases m <;> rfl
      | cons c rest =>
          cases m with
          | zero => cases hm
          | succ m =>
              have hrest := Nat.le_of_succ_le_succ hn
              have hrest' := Nat.le_of_succ_le_succ hm
              rw [regionsFrom, regionsFrom]
              split
              · rename_i x after hregion
                rcases eq_append_of_region? hregion with ⟨hs, hne, -⟩
                have hlength := congrArg List.length hs
                have hpos := List.length_pos_iff.2 hne
                rw [List.length_append, List.length_cons] at hlength
                rw [@ih m after (by omega) (by omega)]
              · rw [ih hrest hrest']

@[simp] theorem regions_nil : regions [] = [] := rfl

/-- Where a container opens, the scan goes on behind it. -/
theorem regions_of_region? {s after : List Char} {x : Region} (h : region? s = some (x, after)) :
    regions s = x :: regions after := by
  rcases eq_append_of_region? h with ⟨hs, hne, -⟩
  cases s with
  | nil => cases h
  | cons c rest =>
      have hlength := congrArg List.length hs
      have hpos := List.length_pos_iff.2 hne
      rw [List.length_append, List.length_cons] at hlength
      rw [regions, List.length_cons, regionsFrom, h]
      exact congrArg (x :: ·) (regionsFrom_eq (by omega) (Nat.le_refl _))

/-- Elsewhere a character is taken for the text. -/
theorem regions_of_none {c : Char} {rest : List Char} (h : region? (c :: rest) = none) :
    regions (c :: rest) = consText c (regions rest) := by
  rw [regions, List.length_cons, regionsFrom, h]
  rfl

/-- Only containers are told where they open. -/
theorem region?_ne_text (s t after : List Char) : region? s ≠ some (.text t, after) := by
  intro h
  unfold region? at h
  split at h
  · split at h
    · cases h
    · split at h <;> cases h
  · cases h

theorem mem_consText_of_unclosed {c : Char} {l : List Region} {tag : OpenTag}
    (h : .unclosed tag ∈ l) : .unclosed tag ∈ consText c l := by
  unfold consText
  split
  · rcases List.mem_cons.1 h with heq | h
    · cases heq
    · exact List.mem_cons_of_mem _ h
  · exact List.mem_cons_of_mem _ h

/-- What holds at the end of a source, and is kept by each step of the scan, holds of every
source. -/
theorem scan_induction {P : List Char -> Prop} (nil : P [])
    (text : forall (c : Char) (rest : List Char), region? (c :: rest) = none -> P rest ->
      P (c :: rest))
    (container : forall (x : Region) (after : List Char),
      region? (x.source ++ after) = some (x, after) -> P after -> P (x.source ++ after))
    (source : List Char) : P source := by
  induction hlength : source.length using Nat.strongRecOn generalizing source with
  | ind n ih =>
      cases source with
      | nil => exact nil
      | cons c rest =>
          rw [List.length_cons] at hlength
          cases hregion : region? (c :: rest) with
          | none => exact text c rest hregion (ih rest.length (by omega) rest rfl)
          | some found =>
              rcases found with ⟨x, after⟩
              rcases eq_append_of_region? hregion with ⟨hs, hne, -⟩
              have hshorter := congrArg List.length hs
              have hpos := List.length_pos_iff.2 hne
              rw [List.length_append, List.length_cons] at hshorter
              rw [hs] at hregion ⊢
              exact container x after hregion (ih after.length (by omega) after rfl)

/-- A character in front of the first region is written in front of it. -/
theorem emitAll_consText {σ : Type} (render : List Char -> σ -> List Char × σ) (c : Char)
    (l : List Region) (state : σ) :
    emitAll render (consText c l) state =
      (c :: (emitAll render l state).1, (emitAll render l state).2) := by
  unfold consText
  split
  · rfl
  · rfl

/-!
## The bodies that are rendered
-/

/-- The body of a region that is rendered ahead, if it is one. -/
def Region.body? : Region -> Option (List Char)
  | .closed tag body _ => if tag.isDiv then some body else none
  | _ => none

/-- A rendering that also keeps a record of the bodies that it is given. -/
def recording {σ : Type} (render : List Char -> σ -> List Char × σ) (body : List Char)
    (s : σ × List (List Char)) : List Char × σ × List (List Char) :=
  ((render body s.1).1, (render body s.1).2, s.2 ++ [body])

/-- The bodies that a rendering is given, in order. -/
def given {σ : Type} (render : List Char -> σ -> List Char × σ) (source : List Char) (s : σ) :
    List (List Char) :=
  (prepareWith (recording render) source (s, [])).2.2

variable {σ : Type} (render : List Char -> σ -> List Char × σ)

theorem emit_recording (x : Region) (s : σ) (record : List (List Char)) :
    x.emit (recording render) (s, record) =
      ((x.emit render s).1, (x.emit render s).2, record ++ x.body?.toList) := by
  cases x with
  | text t | unclosed tag =>
      simp only [Region.emit, Region.body?, Option.toList_none, List.append_nil]
  | closed tag body closing =>
      cases hdiv : tag.isDiv with
      | true => simp only [Region.emit, Region.body?, hdiv, if_true, recording, Option.toList_some]
      | false =>
          simp only [Region.emit, Region.body?, hdiv, Bool.false_eq_true, if_false,
            Option.toList_none, List.append_nil]

/-- Keeping a record changes nothing else, and the record grows by the bodies of the regions. -/
theorem emitAll_recording (l : List Region) (s : σ) (record : List (List Char)) :
    emitAll (recording render) l (s, record) =
      ((emitAll render l s).1, (emitAll render l s).2, record ++ l.filterMap Region.body?) := by
  induction l generalizing s record with
  | nil => simp only [emitAll, List.filterMap_nil, List.append_nil]
  | cons x rest ih =>
      simp only [emitAll, emit_recording, ih, List.filterMap_cons]
      cases x.body? with
      | none => simp only [Option.toList_none, List.append_nil]
      | some body => simp only [Option.toList_some, List.append_assoc, List.singleton_append]

theorem given_eq_bodies (source : List Char) (s : σ) : given render source s = bodies source := by
  rw [given, prepareWith, emitAll_recording, List.nil_append]
  rfl

end Container
end Folio
