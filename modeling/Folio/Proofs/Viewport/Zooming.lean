import Folio.Proofs.Viewport.Hundredths
import Folio.Proofs.Viewport.Reading
import Folio.Proofs.Viewport.Timers

/-!
# Counting the zoom

The zoom of a run on double-precision numbers is a count of hundredths (`Act.count`) that does
not leave the bounds (`zoom_run`). A call for a zoom scales the page and looks at the preview
(`act_of_zooms`), so the preview is given the transform that the call answers.
-/

namespace Folio
namespace Viewport

open Number

/-!
## Counts
-/

/-- The count of hundredths that an act leads to. -/
def Act.count (k : Nat) : Act Float -> Nat
  | zoom v =>
      match (v.toNumber : Except ConversionError Float) with
      | .ok x => nearestZoom (Scalar.exact x)
      | .error _ => k
  | zoomIn => min 200 (k + 10)
  | zoomOut => max 50 (k - 10)
  | resetZoom => 100
  | _ => k

theorem count_bounds {k : Nat} (hlow : 50 ≤ k) (hhigh : k ≤ 200) (a : Act Float) :
    50 ≤ a.count k ∧ a.count k ≤ 200 := by
  unfold Act.count
  split
  · split
    · exact nearestZoom_bounds _
    · exact ⟨hlow, hhigh⟩
  all_goals omega

/-- Steps in one direction add up until the bound is reached. -/
theorem foldl_count_zoomIn {k : Nat} (hhigh : k ≤ 200) (n : Nat) :
    (List.replicate n Act.zoomIn).foldl Act.count k = min 200 (k + 10 * n) := by
  induction n generalizing k with
  | zero => exact (Nat.min_eq_right hhigh).symm
  | succ n ih =>
      calc (List.replicate (n + 1) Act.zoomIn).foldl Act.count k
          = (List.replicate n Act.zoomIn).foldl Act.count (min 200 (k + 10)) := rfl
        _ = min 200 (min 200 (k + 10) + 10 * n) := ih (Nat.min_le_left 200 _)
        _ = min 200 (k + 10 * (n + 1)) := by omega

theorem foldl_count_zoomOut {k : Nat} (hlow : 50 ≤ k) (n : Nat) :
    (List.replicate n Act.zoomOut).foldl Act.count k = max 50 (k - 10 * n) := by
  induction n generalizing k with
  | zero => exact (Nat.max_eq_right hlow).symm
  | succ n ih =>
      calc (List.replicate (n + 1) Act.zoomOut).foldl Act.count k
          = (List.replicate n Act.zoomOut).foldl Act.count (max 50 (k - 10)) := rfl
        _ = max 50 (max 50 (k - 10) - 10 * n) := ih (Nat.le_max_left 50 _)
        _ = max 50 (k - 10 * (n + 1)) := by omega

/-!
## What the preview is given
-/

/-- Whether an act calls for a zoom that can be read. -/
def Act.Zooms {α : Type} [Scalar α] : Act α -> Prop
  | zoom v => exists x : α, v.toNumber = .ok x
  | zoomIn => True
  | zoomOut => True
  | resetZoom => True
  | applyZoom => True
  | _ => False

/-- The transform that a deed gives to the preview. -/
def Deed.scaled? {α : Type} : Deed α -> Option (Transform α)
  | scaled t => some t
  | _ => none

theorem scaled?_of_isTold {α : Type} {d : Deed α} (h : d.isTold = true) : d.scaled? = none := by
  cases d with
  | scaled t => cases h
  | _ => rfl

namespace Session

section Given

variable {α : Type} [Scalar α]

/-- The transforms that the preview was given, the last one first. -/
def given (s : Session (Bench α) α) : List (Transform α) :=
  s.around.record.filterMap Deed.scaled?

/-- What a call for a zoom answers: the transform, unless something ended it. -/
def answer (s : Session (Bench α) α) (a : Act α) : Except ConversionError (Transform α) :=
  match (s.act a).fault with
  | some e => .error e
  | none => .ok (s.act a).transform

theorem given_track (s : Session (Bench α) α) : s.track.given = s.given := by
  rcases exists_of_track s with ⟨ds, hds, h⟩
  have htold : ds.filterMap Deed.scaled? = [] :=
    List.filterMap_eq_nil_iff.2 fun d hd => scaled?_of_isTold (hds d hd)
  rw [given, h, List.filterMap_append, htold, List.nil_append, given]

theorem preview_track (s : Session (Bench α) α) :
    s.track.around.preview = s.around.preview := by
  rcases exists_of_track s with ⟨ds, -, h⟩
  rw [h]

theorem zoom_track (s : Session (Bench α) α) : s.track.coordinator.zoom = s.coordinator.zoom := by
  rcases s.reading.coordinator_look (s.shown .preview) with ⟨x, active, h⟩
  have hzoom := congrArg Coordinator.zoom
    ((congrArg Reading.coordinator (reading_track s)).trans h)
  exact hzoom

theorem transform_eq (s : Session (Bench α) α) :
    s.transform = .ofZoom s.coordinator.zoom (s.around.preview.bind (·.pageHeight)) := rfl

theorem transform_track (s : Session (Bench α) α) : s.track.transform = s.transform := by
  rw [transform_eq, zoom_track, preview_track, ← transform_eq]

theorem preview_applyZoom (s : Session (Bench α) α) :
    s.applyZoom.around.preview = s.around.preview := by
  simp only [applyZoom, Surroundings.scalePage]
  split <;> rfl

theorem given_applyZoom (s : Session (Bench α) α) :
    s.applyZoom.given =
      if s.around.preview.isSome then s.applyZoom.transform :: s.given else s.given := by
  simp only [applyZoom, Surroundings.scalePage]
  split <;> rfl

/-- A call for a zoom takes a zoom or leaves it, and scales the page; if it takes one, it looks
at the preview as well. -/
theorem act_of_zooms {s : Session (Bench α) α} {a : Act α} (ha : a.Zooms) :
    (exists x, s.act a = zoomTo { s with fault := none } x) ∨
      s.act a = applyZoom { s with fault := none } := by
  cases a with
  | zoom v =>
      rcases ha with ⟨x, hx⟩
      simp only [Session.act, setZoom, hx]
      exact Or.inl ⟨x, rfl⟩
  | zoomIn => exact Or.inl ⟨_, rfl⟩
  | zoomOut => exact Or.inl ⟨_, rfl⟩
  | resetZoom => exact Or.inl ⟨_, rfl⟩
  | applyZoom => exact Or.inr rfl
  | _ => exact ha.elim

/-- A zoom that is called for is given to the preview, if there is one. -/
theorem given_act {s : Session (Bench α) α} {a : Act α} (ha : a.Zooms) :
    (s.act a).given =
      if s.around.preview.isSome then (s.act a).transform :: s.given else s.given := by
  rcases act_of_zooms ha with ⟨x, h⟩ | h
  · rw [h, zoomTo, given_track, transform_track, given_applyZoom]
    rfl
  · rw [h, given_applyZoom]
    rfl

theorem preview_act {s : Session (Bench α) α} {a : Act α} (ha : a.Zooms) :
    (s.act a).around.preview = s.around.preview := by
  rcases act_of_zooms ha with ⟨x, h⟩ | h
  · rw [h, zoomTo, preview_track, preview_applyZoom]
  · rw [h, preview_applyZoom]

theorem fault_act {s : Session (Bench α) α} {a : Act α} (ha : a.Zooms)
    (hreadable : exists ps, s.coordinator.headings = .ok ps) : (s.act a).fault = none := by
  rcases act_of_zooms ha with ⟨x, h⟩ | h
  · rw [h, zoomTo]
    exact fault_track hreadable
  · rw [h]
    rfl

/-- A zoom that cannot be read ends the call, and changes nothing. -/
theorem act_zoom_of_error (s : Session (Bench α) α) {v : Value α} {e : ConversionError}
    (h : v.toNumber = .error e) : s.act (.zoom v) = s.fail e := by
  simp only [Session.act, setZoom, h]
  rfl

end Given

/-!
## Runs on double-precision numbers
-/

theorem zoom_act {s : Session (Bench Float) Float} {k : Nat} (hlow : 50 ≤ k) (hhigh : k ≤ 200)
    (h : s.coordinator.zoom = Scalar.hundredths k) (a : Act Float) :
    (s.act a).coordinator.zoom = Scalar.hundredths (a.count k) := by
  rcases coordinator_act s a with ⟨x, active, hact⟩
  refine (congrArg Coordinator.zoom hact).trans ?_
  have hzoom : s.reading.coordinator.zoom = Scalar.hundredths k := h
  have hcount := isFaithful hlow hhigh
  cases a with
  | zoom v =>
      simp only [Reading.set, Act.count]
      cases (v.toNumber : Except ConversionError Float) with
      | error e => exact hzoom
      | ok x => exact clampZoom_eq x
  | zoomIn =>
      show clampZoom (Scalar.add s.reading.coordinator.zoom zoomStep) = _
      rw [hzoom, clampZoom_eq, hcount.raised]
      rfl
  | zoomOut =>
      show clampZoom (Scalar.sub s.reading.coordinator.zoom zoomStep) = _
      rw [hzoom, clampZoom_eq, hcount.lowered]
      rfl
  | resetZoom =>
      show clampZoom Scalar.one = (Scalar.hundredths 100 : Float)
      rfl
  | headings items top =>
      simp only [Reading.set]
      split <;> exact hzoom
  | _ => exact hzoom

theorem zoom_run {s : Session (Bench Float) Float} {k : Nat} (hlow : 50 ≤ k) (hhigh : k ≤ 200)
    (h : s.coordinator.zoom = Scalar.hundredths k) (acts : List (Act Float)) :
    50 ≤ acts.foldl Act.count k ∧ acts.foldl Act.count k ≤ 200 ∧
      (s.run acts).coordinator.zoom = Scalar.hundredths (acts.foldl Act.count k : Nat) := by
  induction acts generalizing s k with
  | nil => exact ⟨hlow, hhigh, h⟩
  | cons a acts ih =>
      rcases count_bounds hlow hhigh a with ⟨hnextLow, hnextHigh⟩
      exact ih hnextLow hnextHigh (zoom_act hlow hhigh h a)

/-- A call for a zoom leads to the transform of the count that it leads to. -/
theorem transform_act {s : Session (Bench Float) Float} {k : Nat} (hlow : 50 ≤ k)
    (hhigh : k ≤ 200) (h : s.coordinator.zoom = Scalar.hundredths k) {a : Act Float}
    (ha : a.Zooms) :
    (s.act a).transform = ⟨Scalar.hundredths (a.count k : Nat),
      marginBelow (a.count k) (s.around.preview.bind (·.pageHeight))⟩ := by
  rcases count_bounds hlow hhigh a with ⟨hnextLow, hnextHigh⟩
  rw [transform_eq, zoom_act hlow hhigh h a, preview_act ha,
    Transform.ofZoom_hundredths hnextLow hnextHigh]

/-- The zoom of every run is a count of hundredths between 50 and 200. A step adds ten to it or
takes ten from it, up to the bounds and however often it is repeated; any other zoom that is
called for is taken at the nearest count. The transform that a call answers is the one that the
preview is given. It names the count exactly, or nothing at 100, and leaves room below a page
that is larger than its box. A call for a zoom that cannot be read ends, and changes nothing. -/
theorem zoom_counts (lookahead : Float) (sync : Bool) (b : Bench Float) (t : Timer)
    (acts : List (Act Float)) :
    let s := (opened lookahead sync b t).run acts
    let k := acts.foldl Act.count 100
    (50 ≤ k ∧ k ≤ 200 ∧ s.coordinator.zoom = Float.ofNat k / 100) ∧
    (forall n,
      (s.run (List.replicate n .zoomIn)).coordinator.zoom =
          Float.ofNat (min 200 (k + 10 * n)) / 100 ∧
        (s.run (List.replicate n .zoomOut)).coordinator.zoom =
          Float.ofNat (max 50 (k - 10 * n)) / 100) ∧
    (forall a : Act Float, a.Zooms ->
      let u := s.act a
      let n := a.count k
      ((exists ps, s.coordinator.headings = .ok ps) -> s.answer a = .ok u.transform) ∧
        u.given = (if s.around.preview.isSome then u.transform :: s.given else s.given) ∧
        u.transform.scale = Float.ofNat n / 100 ∧
        u.transform.css = (if n = 100 then "none".toList else
          "scale(".toList ++ hundredthsText n ++ ")".toList) ∧
        (readDecimal? (hundredthsText n)).map (fun d => (d.digits : ℚ) * 10 ^ d.exponent) =
          some ((n : ℚ) / 100) ∧
        (u.transform.css = "none".toList ↔ n = 100) ∧
        u.transform.marginBottom = marginBelow n (s.around.preview.bind (·.pageHeight))) ∧
    forall (v : Value Float) e, v.toNumber = .error e ->
      s.answer (.zoom v) = .error e ∧ s.act (.zoom v) = s.fail e := by
  intro s k
  have hstart : (opened lookahead sync b t).coordinator.zoom = Scalar.hundredths (100 : Nat) := by
    show (Scalar.one : Float) = Scalar.hundredths (100 : Nat)
    rfl
  rcases zoom_run (by omega) (by omega) hstart acts with ⟨hlow, hhigh, hzoom⟩
  refine ⟨⟨hlow, hhigh, hzoom.trans (isFaithful hlow hhigh).quotient⟩, ?_, ?_, ?_⟩
  · intro n
    rcases zoom_run hlow hhigh hzoom (List.replicate n .zoomIn) with ⟨hinLow, hinHigh, hin⟩
    rcases zoom_run hlow hhigh hzoom (List.replicate n .zoomOut) with ⟨houtLow, houtHigh, hout⟩
    rw [foldl_count_zoomIn hhigh] at hinLow hinHigh hin
    rw [foldl_count_zoomOut hlow] at houtLow houtHigh hout
    exact ⟨hin.trans (isFaithful hinLow hinHigh).quotient,
      hout.trans (isFaithful houtLow houtHigh).quotient⟩
  · intro a ha u n
    rcases count_bounds hlow hhigh a with ⟨hnextLow, hnextHigh⟩
    have htransform : u.transform = _ := transform_act hlow hhigh hzoom ha
    have hcss := Transform.css_hundredths hnextLow hnextHigh
      (marginBelow n (s.around.preview.bind (·.pageHeight)))
    have hcount := isFaithful hnextLow hnextHigh
    refine ⟨?_, given_act ha, ?_, ?_, hcount.read, ?_, ?_⟩
    · intro hreadable
      rw [answer, fault_act ha hreadable]
    · rw [htransform]
      exact hcount.quotient
    · rw [htransform, hcss]
    · rw [htransform, hcss]
      split
      · next hone => exact ⟨fun _ => hone, fun _ => rfl⟩
      · next hone => exact ⟨nofun, fun h => absurd h hone⟩
    · rw [htransform]
  · intro v e h
    have hact := act_zoom_of_error s h
    refine ⟨?_, hact⟩
    rw [answer, hact]
    rfl

/-- Three steps beside a page of a known height, and a zoom that is no number. -/
theorem zoom_counts_of_three_steps :
    let b : Bench Float :=
      ⟨none, some ⟨⟨0, 1000, 400⟩, some 800, true⟩, .direct false, false, true, []⟩
    let s := (opened 100 true b (.direct false)).run [.zoomIn, .zoomIn]
    let u := s.act .zoomIn
    s.coordinator.zoom = Float.ofNat 120 / 100 ∧ s.answer .zoomIn = .ok u.transform ∧
      u.given = u.transform :: s.given ∧ u.transform.css = "scale(1.3)".toList ∧
      u.transform.marginBottom = (Float.ofNat 130 / 100 - 1) * 800 ∧
      s.answer (.zoom .null) = .error .wrongKind := by
  intro b s u
  rcases zoom_counts 100 true b (.direct false) [.zoomIn, .zoomIn] with
    ⟨⟨-, -, hzoom⟩, -, hact, herror⟩
  rcases hact .zoomIn trivial with ⟨hanswer, hgiven, -, hcss, -, -, hmargin⟩
  have hsteady : s.IsSteady :=
    (isSteady_opened 100 true b (by simp [idleTimers])).run (by simp [Act.IsReadable])
  have hfirst : ((opened 100 true b (.direct false)).act .zoomIn).around.preview = b.preview :=
    preview_act (a := .zoomIn) trivial
  have hpreview : s.around.preview = b.preview := (preview_act (a := .zoomIn) trivial).trans hfirst
  refine ⟨hzoom, hanswer hsteady.readable, ?_, hcss, ?_, (herror .null _ rfl).1⟩
  · rw [hgiven, hpreview]
    rfl
  · rw [hmargin, hpreview]
    rfl

end Session
end Viewport
end Folio
