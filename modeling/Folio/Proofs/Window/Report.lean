import Folio.Proofs.Fit.Measured
import Folio.Proofs.Window.Answer
import Folio.Proofs.Window.Resuming
import Mathlib.Data.List.Basic

/-!
# Reports that are taken

What a page reports makes no sense in places, and is passed over there. Not all of it is: a whole
number that is too large to hold, an object in the place of a heading, and headings that are no
sequence end the step (`IsSensible`). The height of the page may have been noted by then; the page
is not scaled for it, and the headings stay what they were.
-/

namespace Folio
namespace Window

open Number Viewport Files

variable {α : Type}

/-!
## What a report holds
-/

/-- What a report has under a name, nothing if the name is missing. -/
def named (name : String) (report : List (List Char × Value α)) : Value α :=
  (Value.field? name.toList report).getD .null

section Items

variable [Scalar α]

/-- The items that a report has for headings, unless they are no sequence. -/
def listed? (report : List (List Char × Value α)) : Option (List (Value α)) :=
  if (named "headings" report).truthy then (named "headings" report).items? else some []

/-- A heading with its distance, if the distance can be read. -/
def located? (id : List Char) (distance : Value α) : Option (Value α × α) :=
  distance.toNumber.toOption.map fun x => (.text id, x)

/-- The heading in a pair of an id and a distance. -/
def pair? : Value α -> Option (Value α × α)
  | .list (id :: distance :: _) => located? (headingId id) distance
  | _ => none

/-- The heading in a text whose second character is a digit. -/
def spelled? : Value α -> Option (Value α × α)
  | .text (id :: distance :: _) => located? [id] (.text [distance])
  | _ => none

/-- The heading that an item is taken for. -/
def placed? (item : Value α) : Option (Value α × α) :=
  (pair? item).or (spelled? item)

/-- The pairs among the items of a report, in their order. -/
def pairs (report : List (List Char × Value α)) : Positions α :=
  ((listed? report).getD []).filterMap pair?

end Items

/-- Whether an item ends the step: it is an object, or a pair whose distance is too large. -/
inductive Spoils : Value Float -> Prop where
  | object (fields : List (List Char × Value Float)) : Spoils (.object fields)
  | distance {id distance : Value Float} {rest : List (Value Float)} :
      distance.IsImmense -> Spoils (.list (id :: distance :: rest))

/-- Whether nothing in a report ends the step. -/
structure IsSensible (report : List (List Char × Value Float)) : Prop where
  height : ¬ (named "pageHeight" report).IsImmense
  top : ¬ (named "pageTop" report).IsImmense
  headings : exists items, listed? report = some items ∧ ∀ item ∈ items, ¬ Spoils item

/-!
## Reading a report
-/

theorem not_isImmense {v : Value Float} (h : forall i, v ≠ .int i) : ¬ v.IsImmense := by
  rintro ⟨i, rfl, -⟩
  exact h i rfl

theorem truthy_of_isImmense {v : Value Float} (h : v.IsImmense) : v.truthy = true := by
  rcases h with ⟨i, rfl, hlarge⟩
  have hpos : i ≠ 0 := by
    rintro rfl
    exact absurd hlarge (by decide +kernel)
  exact bne_iff_ne.2 hpos

theorem exists_sensible?_iff {v : Value Float} :
    (exists found, sensible? v = .ok found) ↔ ¬ v.IsImmense := by
  rw [← Value.toNumber_eq_tooLarge_iff]
  constructor
  · rintro ⟨found, h⟩ hlarge
    have htrue := truthy_of_isImmense (Value.toNumber_eq_tooLarge_iff.1 hlarge)
    simp [sensible?, htrue, hlarge] at h
  · intro hheld
    unfold sensible?
    split
    · cases hread : v.toNumber with
      | ok x => exact ⟨some x, rfl⟩
      | error e =>
          cases e with
          | tooLarge => exact absurd hread hheld
          | _ => exact ⟨none, rfl⟩
    · exact ⟨none, rfl⟩

theorem exists_map_iff {β γ ε : Type} {x : Except ε β} {f : β -> γ} :
    (exists y, x.map f = .ok y) ↔ exists y, x = .ok y := by
  cases x with
  | error e =>
      constructor <;> nofun
  | ok y => exact ⟨fun _ => ⟨y, rfl⟩, fun _ => ⟨f y, rfl⟩⟩

theorem exists_pageHeight_iff {report : List (List Char × Value Float)} :
    (exists height, pageHeight report = .ok height) ↔ ¬ (named "pageHeight" report).IsImmense :=
  exists_map_iff.trans exists_sensible?_iff

theorem exists_pageTop_iff {report : List (List Char × Value Float)} :
    (exists top, pageTop report = .ok top) ↔ ¬ (named "pageTop" report).IsImmense :=
  exists_map_iff.trans exists_sensible?_iff

theorem placed_eq_ok_iff {id : List Char} {distance : Value Float}
    {found : Option (Value Float × Float)} :
    placed id distance = .ok found ↔ ¬ distance.IsImmense ∧ found = located? id distance := by
  rw [← Value.toNumber_eq_tooLarge_iff]
  unfold placed located?
  cases distance.toNumber with
  | ok x => simp [Except.toOption, eq_comm]
  | error e =>
      cases e with
      | tooLarge => simp
      | _ => simp [Except.toOption, eq_comm]

theorem spoils_pair_iff {id distance : Value Float} {rest : List (Value Float)} :
    Spoils (.list (id :: distance :: rest)) ↔ distance.IsImmense := by
  constructor
  · intro h
    cases h with
    | distance hlarge => exact hlarge
  · exact .distance

theorem placed?_pair [Scalar α] (id distance : Value α) (rest : List (Value α)) :
    placed? (.list (id :: distance :: rest)) = located? (headingId id) distance :=
  Option.or_none

theorem heading?_eq_ok_iff {item : Value Float} {found : Option (Value Float × Float)} :
    heading? item = .ok found ↔ ¬ Spoils item ∧ found = placed? item := by
  have passed (hread : heading? item = .ok none) (hsound : ¬ Spoils item)
      (hnone : placed? item = none) :
      heading? item = .ok found ↔ ¬ Spoils item ∧ found = placed? item := by
    rw [hread, hnone]
    simp [hsound, eq_comm]
  cases item with
  | list items =>
      rcases items with _ | ⟨id, _ | ⟨distance, rest⟩⟩
      · exact passed rfl nofun rfl
      · exact passed rfl nofun rfl
      · rw [placed?_pair, spoils_pair_iff]
        exact placed_eq_ok_iff
  | text s =>
      rcases s with _ | ⟨id, _ | ⟨distance, rest⟩⟩
      · exact passed rfl nofun rfl
      · exact passed rfl nofun rfl
      · have hsound : ¬ Spoils (.text (id :: distance :: rest)) := nofun
        have hheld : ¬ (Value.text [distance] : Value Float).IsImmense := not_isImmense nofun
        refine placed_eq_ok_iff.trans ?_
        simp only [hsound, hheld]
        rfl
  | object fields => exact ⟨nofun, fun h => absurd (.object fields) h.1⟩
  | _ => exact passed rfl nofun rfl

theorem mapM_eq_ok_iff {β γ ε : Type} {f : β -> Except ε γ} {p : β -> Prop} {g : β -> γ}
    (hf : forall x y, f x = .ok y ↔ p x ∧ y = g x) {xs : List β} {ys : List γ} :
    xs.mapM f = .ok ys ↔ (∀ x ∈ xs, p x) ∧ ys = xs.map g := by
  induction xs generalizing ys with
  | nil =>
      constructor
      · rintro ⟨⟩
        exact ⟨nofun, rfl⟩
      · rintro ⟨-, rfl⟩
        rfl
  | cons x xs ih =>
      rw [List.mapM_cons, List.forall_mem_cons, List.map_cons]
      constructor
      · intro h
        rcases exists_of_bind h with ⟨first, hfirst, h⟩
        rcases exists_of_bind h with ⟨rest, hrest, h⟩
        cases h
        rcases (hf x first).1 hfirst with ⟨hx, rfl⟩
        rcases ih.1 hrest with ⟨hxs, rfl⟩
        exact ⟨⟨hx, hxs⟩, rfl⟩
      · rintro ⟨⟨hx, hxs⟩, rfl⟩
        rw [(hf x (g x)).2 ⟨hx, rfl⟩, ih.2 ⟨hxs, rfl⟩]
        rfl

/-- The items are read one by one, and those that make no sense are passed over. -/
theorem read_items_eq_ok_iff {items : List (Value Float)} {ps : Positions Float} :
    (items.mapM heading?).map (·.filterMap id) = .ok ps ↔
      (∀ item ∈ items, ¬ Spoils item) ∧ ps = items.filterMap placed? := by
  have hread {found : List (Option (Value Float × Float))} :
      items.mapM heading? = .ok found ↔
        (∀ item ∈ items, ¬ Spoils item) ∧ found = items.map placed? :=
    mapM_eq_ok_iff fun _ _ => heading?_eq_ok_iff
  have hplaced : (items.map placed?).filterMap id = items.filterMap placed? :=
    List.filterMap_map
  constructor
  · intro h
    rcases exists_map_iff.1 ⟨ps, h⟩ with ⟨found, hfound⟩
    rcases hread.1 hfound with ⟨hsound, rfl⟩
    rw [hfound] at h
    cases h
    exact ⟨hsound, hplaced⟩
  · rintro ⟨hsound, rfl⟩
    rw [hread.2 ⟨hsound, rfl⟩]
    exact congrArg Except.ok hplaced

theorem headings_eq_ok_iff {report : List (List Char × Value Float)} {ps : Positions Float} :
    headings report = .ok ps ↔
      exists items, listed? report = some items ∧ (∀ item ∈ items, ¬ Spoils item) ∧
        ps = items.filterMap placed? := by
  unfold headings listed? named
  generalize (Value.field? "headings".toList report).getD .null = v
  cases htrue : v.truthy with
  | false =>
      simp only [htrue, Bool.false_eq_true, if_false]
      constructor
      · rintro ⟨⟩
        exact ⟨[], rfl, nofun, rfl⟩
      · rintro ⟨items, ⟨⟩, -, rfl⟩
        rfl
  | true =>
      simp only [htrue, if_true]
      cases v.items? with
      | none => exact ⟨nofun, by rintro ⟨items, ⟨⟩, -⟩⟩
      | some items =>
          refine read_items_eq_ok_iff.trans ⟨fun h => ⟨items, rfl, h⟩, ?_⟩
          rintro ⟨items, ⟨⟩, h⟩
          exact h

/-- A report can be read exactly if nothing in it ends the step. -/
theorem isSensible_iff {report : List (List Char × Value Float)} :
    IsSensible report ↔
      exists height ps top, pageHeight report = .ok height ∧ headings report = .ok ps ∧
        pageTop report = .ok top := by
  constructor
  · rintro ⟨hheight, htop, items, hlisted, hsound⟩
    rcases exists_pageHeight_iff.2 hheight with ⟨height, hheight⟩
    rcases exists_pageTop_iff.2 htop with ⟨top, htop⟩
    exact ⟨height, _, top, hheight, headings_eq_ok_iff.2 ⟨items, hlisted, hsound, rfl⟩, htop⟩
  · rintro ⟨height, ps, top, hheight, hps, htop⟩
    rcases headings_eq_ok_iff.1 hps with ⟨items, hlisted, hsound, -⟩
    exact ⟨exists_pageHeight_iff.1 ⟨height, hheight⟩, exists_pageTop_iff.1 ⟨top, htop⟩, items,
      hlisted, hsound⟩

section Reading

variable {β γ : Type} {f g : β -> Option γ}

theorem length_filterMap_mono (hmore : forall x y, f x = some y -> g x = some y) (xs : List β) :
    (xs.filterMap f).length ≤ (xs.filterMap g).length := by
  induction xs with
  | nil => exact Nat.le_refl 0
  | cons x xs ih =>
      cases hf : f x with
      | none =>
          rw [List.filterMap_cons_none hf]
          exact Nat.le_trans ih ((List.sublist_cons_self x xs).filterMap g).length_le
      | some y =>
          rw [List.filterMap_cons_some hf, List.filterMap_cons_some (hmore x y hf)]
          exact Nat.succ_le_succ ih

/-- Of two ways to read a list, one of which reads more, both read the same exactly if they do so
for each item. -/
theorem filterMap_eq_iff (hmore : forall x y, f x = some y -> g x = some y) {xs : List β} :
    xs.filterMap g = xs.filterMap f ↔ ∀ x ∈ xs, g x = f x := by
  refine ⟨fun heq => ?_, fun h => List.filterMap_congr h⟩
  induction xs with
  | nil => exact nofun
  | cons x xs ih =>
      rw [List.forall_mem_cons]
      cases hf : f x with
      | some y =>
          have hg := hmore x y hf
          rw [List.filterMap_cons_some hf, List.filterMap_cons_some hg, List.cons.injEq] at heq
          exact ⟨hg, ih heq.2⟩
      | none =>
          rw [List.filterMap_cons_none hf] at heq
          cases hg : g x with
          | none =>
              rw [List.filterMap_cons_none hg] at heq
              exact ⟨rfl, ih heq⟩
          | some y =>
              -- what is read in one way only makes that list longer
              have hlength := congrArg List.length heq
              have hle := length_filterMap_mono hmore xs
              rw [List.filterMap_cons_some hg, List.length_cons] at hlength
              omega

end Reading

/-- The headings that are found are the pairs exactly if no item is a text that spells one. -/
theorem filterMap_placed?_eq_iff [Scalar α] (items : List (Value α)) :
    items.filterMap placed? = items.filterMap pair? ↔ ∀ item ∈ items, spelled? item = none := by
  have hmore (item : Value α) (p : Value α × α) (h : pair? item = some p) :
      placed? item = some p := by
    rw [placed?, h, Option.some_or]
  have hsame (item : Value α) : placed? item = pair? item ↔ spelled? item = none := by
    cases item with
    | list items =>
        refine ⟨fun _ => rfl, fun _ => ?_⟩
        exact Option.or_none
    | _ => exact Iff.rfl
  rw [filterMap_eq_iff hmore]
  exact forall₂_congr fun item _ => hsame item

/-!
## Scaling the page
-/

/-- The transform that an event asked the page for. -/
def Event.scaled? : Event α -> Option (Transform α)
  | script (.scale t) => some t
  | _ => none

/-- The transforms that the page was asked for, the last one first. -/
def Screen.transforms (s : Screen α) : List (Transform α) :=
  s.record.filterMap Event.scaled?

theorem Screen.transforms_run (s : Screen α) {script : Script α}
    (h : (Event.script script).scaled? = none) : (s.run script).transforms = s.transforms := by
  unfold run
  split
  · exact List.filterMap_cons_none h
  · rfl

/-- Whether between two sessions the page was not scaled, and nothing came up that it would have
to be scaled for. -/
structure Unscaled (s t : Session (Screen α) α) : Prop where
  zoom : t.coordinator.zoom = s.coordinator.zoom
  headings : t.coordinator.headings = s.coordinator.headings
  height : t.around.pageHeight = s.around.pageHeight
  transforms : t.around.transforms = s.around.transforms

namespace Unscaled

variable {s t u : Session (Screen α) α}

theorem refl (s : Session (Screen α) α) : Unscaled s s :=
  ⟨rfl, rfl, rfl, rfl⟩

theorem trans (hst : Unscaled s t) (htu : Unscaled t u) : Unscaled s u where
  zoom := htu.zoom.trans hst.zoom
  headings := htu.headings.trans hst.headings
  height := htu.height.trans hst.height
  transforms := htu.transforms.trans hst.transforms

theorem transform [Scalar α] (h : Unscaled s t) : t.transform = s.transform := by
  have hheight : Surroundings.pageHeight t.around = Surroundings.pageHeight s.around := h.height
  rw [Session.transform, Session.transform, Coordinator.transform, Coordinator.transform, h.zoom,
    hheight]

end Unscaled

theorem height_run (s : Screen α) (script : Script α) :
    (s.run script).pageHeight = s.pageHeight := by
  unfold Screen.run
  split <;> rfl

section Steps

variable [Scalar α]

theorem unscaled_setActive (s : Session (Screen α) α) (id : Value α) :
    Unscaled s (s.setActive id) := by
  unfold Session.setActive
  split
  · exact Unscaled.refl s
  · exact ⟨rfl, rfl, height_run _ _, Screen.transforms_run _ rfl⟩

theorem unscaled_track (s : Session (Screen α) α) : Unscaled s s.track := by
  unfold Session.track
  split
  · exact ⟨rfl, rfl, rfl, rfl⟩
  · exact Unscaled.refl s
  · have hprogress (x : α) : Unscaled s (s.setProgress x) := ⟨rfl, rfl, rfl, rfl⟩
    split
    · exact ⟨rfl, rfl, rfl, rfl⟩
    · exact (hprogress _).trans (unscaled_setActive _ _)

/-- A look is without fault exactly if the page can be measured. -/
theorem fault_track_eq_none_iff {s : Session (Screen α) α} (hsound : s.fault = none)
    (hnamed : IsNamed s.coordinator) :
    s.track.fault = none ↔ exists found, s.metrics .preview = .ok found := by
  constructor
  · intro h
    cases hfound : s.metrics .preview with
    | ok found => exact ⟨found, rfl⟩
    | error e =>
        have hfailed : s.track = s.fail e := by
          unfold Session.track
          rw [hfound]
        rw [hfailed] at h
        cases h
  · rintro ⟨found, hfound⟩
    exact fault_track hsound hnamed hfound

namespace State

variable {w : State α}

/-- The page is scrolled back, if this was wanted and the reader was behind its start. -/
def restore (restores : Bool) (w : State α) : State α :=
  if restores && Scalar.lt Scalar.zero w.resumeAt then
    w.ask (.scrollToFraction w.resumeAt) none
  else
    w

theorem unscaled_restore (w : State α) (restores : Bool) :
    Unscaled w.session (w.restore restores).session := by
  unfold restore ask
  split
  · split
    · exact ⟨rfl, rfl, height_run _ _, Screen.transforms_run _ rfl⟩
    · exact Unscaled.refl _
  · exact Unscaled.refl _

theorem fault_restore_eq_none_iff (hfault : w.fault = none) {restores : Bool} :
    (w.restore restores).fault = none ↔
      (restores = true -> Scalar.lt Scalar.zero w.resumeAt = true ->
        w.screen.view.hasPage = true) := by
  unfold restore ask
  split
  · next hbehind =>
      rcases Bool.and_eq_true_iff.1 hbehind with ⟨hrestores, hbehind⟩
      split
      · next hpage => exact ⟨fun _ _ _ => hpage, fun _ => hfault⟩
      · next hpage => exact ⟨nofun, fun h => absurd (h hrestores hbehind) hpage⟩
  · next hstart =>
      refine ⟨fun _ hrestores hbehind => absurd ?_ hstart, fun _ => hfault⟩
      exact Bool.and_eq_true_iff.2 ⟨hrestores, hbehind⟩

theorem takeReport_of_ok (w : State α) (restores : Bool) {report : List (List Char × Value α)}
    {height : Option α} {ps : Positions α} {top : α} (hheight : pageHeight report = .ok height)
    (hps : headings report = .ok ps) (htop : pageTop report = .ok top) :
    w.takeReport restores report =
      ((w.withHeight height).andThen (·.withHeadings ps top)).andThen (·.restore restores) := by
  unfold takeReport
  rw [hheight, hps, htop]
  rfl

end State

/-- Whether the page, if there is one, was scaled between two sessions as the zoom asks for with
the height that is known now. -/
structure ScaledFor (height : Option α) (s t : Session (Screen α) α) : Prop where
  height : t.around.pageHeight = height
  transforms : t.around.transforms =
    if s.around.view.hasPage then t.transform :: s.around.transforms else s.around.transforms

theorem ScaledFor.unscaled {height : Option α} {s t u : Session (Screen α) α}
    (hst : ScaledFor height s t) (htu : Unscaled t u) : ScaledFor height s u where
  height := htu.height.trans hst.height
  transforms := by
    rw [htu.transform, ← hst.transforms]
    exact htu.transforms

theorem scaledFor_applyZoom (s : Session (Screen α) α) :
    ScaledFor s.around.pageHeight s s.applyZoom := by
  have hheight : s.applyZoom.around.pageHeight = s.around.pageHeight := height_run _ _
  have htransform : s.applyZoom.transform = s.transform :=
    congrArg s.coordinator.transform hheight
  refine ⟨hheight, ?_⟩
  rw [htransform]
  show (s.around.run (.scale s.transform)).transforms = _
  unfold Screen.run
  split <;> rfl

namespace State

variable {w : State α}

theorem scaledFor_withHeight (w : State α) (height : Option α) :
    ScaledFor height w.session (w.withHeight height).session := by
  let known := w.onScreen fun s => { s with pageHeight := height }
  have hscaled : ScaledFor height w.session (known.onSession (·.applyZoom)).session := by
    rw [session_onSession]
    have h := scaledFor_applyZoom known.session
    exact ⟨h.height, h.transforms⟩
  refine hscaled.unscaled ?_
  unfold withHeight zoomBy andThen
  split
  · exact Unscaled.refl _
  · exact ⟨rfl, rfl, rfl, rfl⟩

theorem unscaled_withHeadings (w : State α) (ps : Positions α) (top : α) :
    let located : Coordinator α := { w.session.coordinator with headings := .ok ps, pageTop := top }
    Unscaled { w.session with coordinator := located } (w.withHeadings ps top).session := by
  intro located
  have h := unscaled_track { w.session with coordinator := located }
  rw [session_withHeadings]
  exact ⟨h.zoom, h.headings, h.height, h.transforms⟩

theorem scaledFor_withHeadings (w : State α) (height : Option α) (ps : Positions α) (top : α) :
    ScaledFor height w.session ((w.withHeight height).withHeadings ps top).session := by
  let known := w.withHeight height
  have hknown := scaledFor_withHeight w height
  have hlocated : ScaledFor height w.session { known.session with
      coordinator := { known.session.coordinator with headings := .ok ps, pageTop := top } } :=
    ⟨hknown.height, hknown.transforms⟩
  exact hlocated.unscaled (unscaled_withHeadings known ps top)

theorem fault_withHeadings_eq_none_iff (hw : w.IsReady) (hfault : w.fault = none)
    {ps : Positions α} (hps : ∀ p ∈ ps, IsName p.1) (top : α) :
    (w.withHeadings ps top).fault = none ↔
      exists found, w.session.metrics .preview = .ok found := by
  let located : Session (Screen α) α := { w.session with
    coordinator := { w.session.coordinator with headings := .ok ps, pageTop := top } }
  have htrack : located.track.fault = none ↔ exists found, w.session.metrics .preview = .ok found :=
    fault_track_eq_none_iff (s := located) hw.sound ⟨hw.named.active, ps, rfl, hps⟩
  rw [← htrack]
  show (w.onSession fun _ => located.track).fault = none ↔ _
  cases htracked : located.track.fault with
  | none => exact ⟨fun _ => rfl, fun _ => (fault_onSession w htracked).trans hfault⟩
  | some e =>
      unfold onSession
      simp only [htracked]
      exact ⟨nofun, nofun⟩

/-- What a report does that can be read: the page is scaled for the height that is noted, and the
headings are taken. The step may still end early, for want of a page. -/
theorem scaledFor_takeReport (hw : w.IsReady) (hfault : w.fault = none) (restores : Bool)
    {report : List (List Char × Value α)} {height : Option α} {ps : Positions α} {top : α}
    (hheight : pageHeight report = .ok height) (hps : headings report = .ok ps)
    (htop : pageTop report = .ok top) :
    let v := w.takeReport restores report
    ScaledFor height w.session v.session ∧ v.session.coordinator.headings = .ok ps ∧
      (v.fault = none ↔ (exists found, w.session.metrics .preview = .ok found) ∧
        (restores = true -> Scalar.lt Scalar.zero w.resumeAt = true ->
          w.screen.view.hasPage = true)) := by
  let known := w.withHeight height
  have hon : GoesOn Speaks w known := goesOn_withHeight w height
  have hready : known.IsReady := ⟨hon.session.still.named hw.named, hon.sound hw.sound⟩
  have hsound : known.fault = none := fault_withHeight w height hfault hw.sound
  let read := known.withHeadings ps top
  have hunscaled := unscaled_withHeadings known ps top
  have hscaled : ScaledFor height w.session read.session := scaledFor_withHeadings w height ps top
  have hfault : read.fault = none ↔ exists found, w.session.metrics .preview = .ok found := by
    have hmetrics := metrics_congr hon.session.screen.bar hon.session.screen.view .preview
    rw [← hmetrics]
    exact fault_withHeadings_eq_none_iff hready hsound
      (fun p hp => isName_of_mem_headings hps hp) top
  have hresume : read.resumeAt = w.resumeAt :=
    congrArg Work.resumeAt ((work_onSession known _).trans hon.work)
  have hview : read.screen.view = w.screen.view :=
    (rests_withHeadings known ps top).view.trans hon.session.screen.view
  rw [takeReport_of_ok w restores hheight hps htop, andThen_of_fault_eq_none _ _ hsound]
  rw [← hfault, ← hresume, ← hview]
  show ScaledFor height w.session (read.andThen _).session ∧ _
  unfold andThen
  split
  · next hfails =>
      -- the headings are known by now, and only the look at the page went wrong
      have hfails : read.fault ≠ none := Option.isSome_iff_ne_none.1 hfails
      exact ⟨hscaled, hunscaled.headings, fun h => absurd h hfails, fun h => absurd h.1 hfails⟩
  · next hholds =>
      have hholds : read.fault = none := Option.not_isSome_iff_eq_none.1 hholds
      have hrestored := unscaled_restore read restores
      refine ⟨hscaled.unscaled hrestored, hrestored.headings.trans hunscaled.headings, ?_⟩
      rw [fault_restore_eq_none_iff hholds]
      exact ⟨fun h => ⟨hholds, h⟩, fun h => h.2⟩

/-- What a report does that cannot be read: the step ends early, and neither the page is scaled nor
a heading is taken. -/
theorem takeReport_fails (w : State α) (restores : Bool) {report : List (List Char × Value α)}
    (hread : ¬ exists height ps top, pageHeight report = .ok height ∧ headings report = .ok ps ∧
      pageTop report = .ok top) :
    let v := w.takeReport restores report
    v.fault ≠ none ∧ v.session.coordinator = w.session.coordinator ∧
      v.screen.transforms = w.screen.transforms := by
  unfold takeReport
  cases hheight : pageHeight report with
  | error e => exact ⟨nofun, rfl, rfl⟩
  | ok height =>
      cases hps : headings report with
      | error e => exact ⟨nofun, rfl, rfl⟩
      | ok ps =>
          cases htop : pageTop report with
          | error e => exact ⟨nofun, rfl, rfl⟩
          | ok top => exact absurd ⟨height, ps, top, hheight, hps, htop⟩ hread

end State
end Steps

theorem State.IsReady.run [Scalar α] {w : State α} (hw : w.IsReady)
    (happenings : List (Happening α)) : (w.run happenings).IsReady := by
  induction happenings generalizing w with
  | nil => exact hw
  | cons h rest ih => exact ih (hw.step h)

/-!
## Answers of the page
-/

/-- An answer in the place of a report is dropped, unless it is an object and about the page that is
shown. Such a report is taken without fault exactly if nothing in it makes trouble, the page can be
measured, and there is a page if it is to be scrolled back. A report without trouble scales the page
for the height that is noted, and the headings are the pairs of the report in their order exactly if
no item is a text that spells a pair. A report with trouble does none of this. -/
theorem report_taken_iff {text : List Char} {settings : Settings Float} {document : Option Path}
    {folder : Path} {sources : List (List Char)} {today : Document.Date} {w : State Float}
    (hstart : State.start text settings document folder sources today = .ok w)
    (happenings : List (Happening Float)) {place generation : Nat} {restores : Bool}
    (hwaiting : (w.run happenings).waiting[place]? = some (.report generation restores))
    (answer : Value Float) :
    let v := w.run happenings
    let after := v.step (.answered place answer)
    ((¬ exists report, answer = .object report ∧ generation = v.generation) ->
      after = v.taking place) ∧
    forall report, answer = .object report -> generation = v.generation ->
      (after.fault = none ↔ IsSensible report ∧
        (exists found, v.session.metrics .preview = .ok found) ∧
        (restores = true -> Scalar.lt Scalar.zero v.resumeAt = true ->
          v.screen.view.hasPage = true)) ∧
      (IsSensible report ->
        pageHeight report = .ok after.screen.pageHeight ∧
        after.screen.transforms = (if v.screen.view.hasPage then
          after.session.transform :: v.screen.transforms else v.screen.transforms) ∧
        (after.session.coordinator.headings = .ok (pairs report) ↔
          ∀ item ∈ (listed? report).getD [], spelled? item = none)) ∧
      (¬ IsSensible report ->
        after.session.coordinator = v.session.coordinator ∧
        after.screen.transforms = v.screen.transforms) := by
  intro v after
  have hready : v.IsReady := (State.IsReady.start hstart).run happenings
  constructor
  · intro hdropped
    have hserved : after = (v.taking place).reported generation restores answer := by
      show v.step (.answered place answer) = _
      simp only [State.step, State.answeredAt, hwaiting, State.serve, v]
      rfl
    rw [hserved]
    cases answer with
    | object report =>
        have hreplaced : generation ≠ (v.taking place).generation :=
          fun heq => hdropped ⟨report, rfl, heq⟩
        exact reported_of_ne hreplaced restores (.object report)
    | _ => rfl
  · rintro report rfl rfl
    have hstep : after = (v.taking place).takeReport restores report :=
      step_report v hwaiting report
    have htaken : (v.taking place).IsReady := hready.of_session_eq rfl
    rw [hstep]
    by_cases hsensible : IsSensible report
    · rcases isSensible_iff.1 hsensible with ⟨height, ps, top, hheight, hps, htop⟩
      rcases State.scaledFor_takeReport htaken rfl restores hheight hps htop with
        ⟨hscaled, hheadings, hfault⟩
      rcases headings_eq_ok_iff.1 hps with ⟨items, hlisted, -, rfl⟩
      refine ⟨hfault.trans ⟨fun h => ⟨hsensible, h⟩, fun h => h.2⟩, fun _ => ⟨?_, ?_, ?_⟩,
        fun h => absurd hsensible h⟩
      · exact hheight.trans (congrArg Except.ok hscaled.height.symm)
      · exact hscaled.transforms
      · rw [hheadings, Except.ok.injEq, pairs, hlisted]
        exact filterMap_placed?_eq_iff items
    · have hfails := State.takeReport_fails (v.taking place) restores
        fun h => hsensible (isSensible_iff.2 h)
      exact ⟨⟨fun h => absurd h hfails.1, fun h => absurd h.1 hsensible⟩,
        fun h => absurd h hsensible, fun _ => hfails.2⟩

/-- What makes no sense in a report is passed over: a height in words, a pair without a distance,
nothing in the place of a pair, and a start of the page that is a list. -/
theorem report_taken_iff_of_junk :
    let happenings : List (Happening Float) := [.loaded true, .zoomedIn, .answered 0 (.list [])]
    let report : List (List Char × Value Float) :=
      [("pageHeight".toList, .text "tall".toList),
       ("headings".toList, .list [.list [.text "b".toList, .text "7".toList], .list [.text "c".toList], .null,
         .text "d".toList]),
       ("pageTop".toList, .list [.int 1])]
    exists w : State Float,
      State.start "a".toList .default none ⟨.absolute, []⟩ [] ⟨2026, 9, 19⟩ = .ok w ∧
      let v := w.run happenings
      let after := v.step (.answered 0 (.object report))
      v.waiting[0]? = some (.report v.generation true) ∧ after.fault = none ∧
        pageHeight report = .ok after.screen.pageHeight ∧
        after.screen.transforms = after.session.transform :: v.screen.transforms ∧
        after.session.coordinator.headings = .ok (pairs report) := by
  intro happenings report
  have hopens : opensWith (State.start "a".toList .default none ⟨.absolute, []⟩ [] ⟨2026, 9, 19⟩)
      (fun w : State Float =>
        let v := w.run happenings
        decide (v.waiting[0]? = some (.report v.generation true) ∧
          (v.session.metrics .preview).isOk = true ∧ v.screen.view.hasPage = true)) = true := by
    decide +kernel
  rcases exists_of_opensWith hopens with ⟨w, hstart, hruns⟩
  rcases of_decide_eq_true hruns with ⟨hwaiting, hok, hpage⟩
  have hmeasured : exists found, (w.run happenings).session.metrics .preview = .ok found := by
    cases hfound : (w.run happenings).session.metrics .preview with
    | error e =>
        rw [hfound] at hok
        cases hok
    | ok found => exact ⟨found, rfl⟩
  have hsensible : IsSensible report := by
    refine ⟨?_, ?_, _, rfl, ?_⟩
    · exact not_isImmense (v := .text "tall".toList) nofun
    · exact not_isImmense (v := .list [.int 1]) nofun
    · simp only [List.forall_mem_cons]
      have hheld : ¬ (Value.text "7".toList : Value Float).IsImmense := not_isImmense nofun
      exact ⟨fun h => hheld (spoils_pair_iff.1 h), nofun, nofun, nofun, nofun⟩
  have hspelled : ∀ item ∈ (listed? report).getD [], spelled? item = none := by
    show ∀ item ∈ [_, _, _, _], _
    simp only [List.forall_mem_cons]
    exact ⟨rfl, rfl, rfl, rfl, nofun⟩
  rcases (report_taken_iff hstart happenings hwaiting (.object report)).2 report rfl rfl with
    ⟨hfault, htaken, -⟩
  rcases htaken hsensible with ⟨hheight, htransforms, hheadings⟩
  rw [if_pos hpage] at htransforms
  exact ⟨w, hstart, hwaiting, hfault.2 ⟨hsensible, hmeasured, fun _ _ => hpage⟩, hheight,
    htransforms, hheadings.2 hspelled⟩

/-- Headings that are a number end the step when the height has been noted: the page is not scaled
for it. -/
theorem report_fails_of_headings_number :
    let happenings : List (Happening Float) := [.loaded true, .zoomedIn, .answered 0 (.list [])]
    let report : List (List Char × Value Float) :=
      [("pageHeight".toList, .int 1000), ("pageTop".toList, .int 0),
       ("headings".toList, .int 5)]
    exists w : State Float,
      State.start "a".toList .default none ⟨.absolute, []⟩ [] ⟨2026, 9, 19⟩ = .ok w ∧
      let v := w.run happenings
      let after := v.step (.answered 0 (.object report))
      v.waiting[0]? = some (.report v.generation true) ∧
        after.fault = some (.conversion .wrongKind) ∧
        after.screen.pageHeight.isSome = true ∧
        after.screen.transforms.head? ≠ some after.session.transform := by
  intro happenings report
  have hopens : opensWith (State.start "a".toList .default none ⟨.absolute, []⟩ [] ⟨2026, 9, 19⟩)
      (fun w : State Float =>
        let v := w.run happenings
        let after := v.step (.answered 0 (.object report))
        decide (v.waiting[0]? = some (.report v.generation true) ∧
          after.fault = some (.conversion .wrongKind) ∧
          after.screen.pageHeight.isSome = true ∧
          after.screen.transforms.head? ≠ some after.session.transform)) = true := by
    decide +kernel
  rcases exists_of_opensWith hopens with ⟨w, hstart, hruns⟩
  exact ⟨w, hstart, of_decide_eq_true hruns⟩

end Window
end Folio
