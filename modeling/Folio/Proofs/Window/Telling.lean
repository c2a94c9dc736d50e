import Folio.Proofs.Viewport.Mirror
import Folio.Window.Screen

/-!
# What a coordinator tells its screen

Between two documents the record of a screen tells which headings were marked. A step of the
coordinator leaves the label of the section and the marks alone (`Still`), or another heading
came to be read: then the label shows its title, and it is marked (`Told`). Nothing that the
coordinator does puts a document into the view.
-/

namespace Folio
namespace Window

open Number Viewport

variable {α : Type}

/-!
## Marks
-/

/-- The document that an event put into the view, with its folder. -/
def Event.mounted? : Event α -> Option (List Char × List Char)
  | mounted body base => some (body, base)
  | _ => none

/-- The heading that an event marked in the view; no heading may be marked as well. -/
def Event.marked? : Event α -> Option (Option (List Char))
  | script (.markHeading id) => some id
  | _ => none

/-- What an event set the scroll bar to. -/
def Event.bar? : Event α -> Option (Amount α)
  | barSet v => some v
  | _ => none

namespace Screen

/-- The documents that were put into the view, the last one first. -/
def mounts (s : Screen α) : List (List Char × List Char) :=
  s.record.filterMap Event.mounted?

/-- The headings that were marked in the document that is shown, the last one first. -/
def marks (s : Screen α) : List (Option (List Char)) :=
  (s.record.takeWhile fun e => e.mounted?.isNone).filterMap Event.marked?

/-- Whether a screen shows the same headings as before, with the same label and marks. -/
structure Still (s t : Screen α) : Prop where
  headings : t.headings = s.headings
  label : t.sectionLabel = s.sectionLabel
  marks : t.marks = s.marks
  mounts : t.mounts = s.mounts

theorem Still.refl (s : Screen α) : Still s s :=
  ⟨rfl, rfl, rfl, rfl⟩

theorem Still.trans {s t u : Screen α} (hst : Still s t) (htu : Still t u) : Still s u where
  headings := htu.headings.trans hst.headings
  label := htu.label.trans hst.label
  marks := htu.marks.trans hst.marks
  mounts := htu.mounts.trans hst.mounts

theorem marks_note (s : Screen α) {e : Event α} (hmounted : e.mounted? = none) :
    (s.note e).marks = e.marked?.toList ++ s.marks := by
  unfold marks note
  rw [List.takeWhile_cons, if_pos (by rw [hmounted]; rfl), List.filterMap_cons]
  cases e.marked? with
  | none => rfl
  | some id => rfl

theorem mounts_note (s : Screen α) {e : Event α} (hmounted : e.mounted? = none) :
    (s.note e).mounts = s.mounts := by
  simp only [mounts, note, List.filterMap_cons, hmounted]

theorem still_note (s : Screen α) {e : Event α} (hmounted : e.mounted? = none)
    (hmarked : e.marked? = none) : Still s (s.note e) where
  headings := rfl
  label := rfl
  marks := by
    rw [marks_note s hmounted, hmarked]
    rfl
  mounts := mounts_note s hmounted

theorem still_run (s : Screen α) {script : Script α}
    (hmarked : (Event.script script).marked? = none) : Still s (s.run script) := by
  unfold run
  split
  · exact still_note s rfl hmarked
  · exact Still.refl s

theorem still_setBar [Scalar α] (s : Screen α) (v : Amount α) : Still s (s.setBar v).1 := by
  have hbar : Still s { s with bar := { s.bar with value := v.clamp (.whole 0) s.bar.maximum } } :=
    ⟨rfl, rfl, rfl, rfl⟩
  exact hbar.trans (still_note _ rfl rfl)

/-- What the scroll bar was set to, the last value first. -/
def barSets (s : Screen α) : List (Amount α) :=
  s.record.filterMap Event.bar?

/-- Whether the panes of a screen are as they were. -/
structure Rests (s t : Screen α) : Prop where
  bar : t.bar = s.bar
  view : t.view = s.view
  barSets : t.barSets = s.barSets

theorem Rests.refl (s : Screen α) : Rests s s :=
  ⟨rfl, rfl, rfl⟩

theorem Rests.trans {s t u : Screen α} (hst : Rests s t) (htu : Rests t u) : Rests s u where
  bar := htu.bar.trans hst.bar
  view := htu.view.trans hst.view
  barSets := htu.barSets.trans hst.barSets

theorem rests_run (s : Screen α) (script : Script α) : Rests s (s.run script) := by
  unfold run
  split
  · exact ⟨rfl, rfl, rfl⟩
  · exact Rests.refl s

/-- Whether a screen spoke at most: a message was shown, or the page was asked for something. -/
structure Speaks (s t : Screen α) : Prop extends Still s t, Rests s t

theorem Speaks.refl (s : Screen α) : Speaks s s :=
  ⟨Still.refl s, Rests.refl s⟩

theorem Speaks.trans {s t u : Screen α} (hst : Speaks s t) (htu : Speaks t u) : Speaks s u :=
  ⟨hst.toStill.trans htu.toStill, hst.toRests.trans htu.toRests⟩

theorem speaks_run (s : Screen α) {script : Script α}
    (hmarked : (Event.script script).marked? = none) : Speaks s (s.run script) :=
  ⟨still_run s hmarked, rests_run s script⟩

end Screen

/-!
## Names of headings

The page names headings by texts, so that the coordinator only ever reads a heading with a
name, or none.
-/

/-- Whether a value is a text or nothing. -/
def IsName (v : Value α) : Prop :=
  v = .null ∨ exists s, v = .text s

/-- Whether a coordinator knows headings with names, also the one that is read. -/
structure IsNamed (c : Coordinator α) : Prop where
  active : IsName c.active
  headings : exists ps, c.headings = .ok ps ∧ ∀ p ∈ ps, IsName p.1

variable [Scalar α]

theorem text?_eq_of_same {v w : Value α} (hv : IsName v) (hw : IsName w)
    (h : v.text? = w.text?) : v.same w = true := by
  rcases hv with rfl | ⟨s, rfl⟩
  · rcases hw with rfl | ⟨t, rfl⟩
    · exact Value.same_null
    · cases h
  · rcases hw with rfl | ⟨t, rfl⟩
    · cases h
    · exact (Value.same_text_iff s t).mpr (Option.some.inj h)

theorem IsNamed.lastReached {c : Coordinator α} {ps : Positions α}
    (h : ∀ p ∈ ps, IsName p.1) (top : α) : IsName (c.lastReached top ps) := by
  have hfound : forall (found : Value α), IsName found ->
      IsName (ps.foldl (fun found p => if c.isReached top p.2 then p.1 else found) found) := by
    induction ps with
    | nil => exact fun _ hfound => hfound
    | cons p ps ih =>
        intro found hfound
        refine ih (fun q hq => h q (List.mem_cons_of_mem p hq)) _ ?_
        simp only
        split
        · exact h p List.mem_cons_self
        · exact hfound
  exact hfound .null (Or.inl rfl)

/-!
## Steps of the coordinator
-/

/-- Whether a session reads the same heading as before, on a screen that is still. -/
structure Still (s t : Session (Screen α) α) : Prop where
  active : t.coordinator.active = s.coordinator.active
  named : IsNamed s.coordinator -> IsNamed t.coordinator
  screen : Screen.Still s.around t.around

/-- Whether a session spoke at most. Its coordinator is as it was. -/
structure Speaks (s t : Session (Screen α) α) : Prop where
  coordinator : t.coordinator = s.coordinator
  screen : Screen.Speaks s.around t.around

/-- Whether a session came to read another heading, or none, and told the screen. -/
structure Told (s t : Session (Screen α) α) : Prop where
  changed : IsNamed s.coordinator ->
    t.coordinator.active.text? ≠ s.coordinator.active.text?
  named : IsNamed s.coordinator -> IsNamed t.coordinator
  headings : t.around.headings = s.around.headings
  label : t.around.sectionLabel = t.around.titleOf t.coordinator.active.text?
  marks : t.around.marks = t.coordinator.active.text? :: s.around.marks
  mounts : t.around.mounts = s.around.mounts

/-- Whether a session told the screen what is read, if it is another heading. -/
def Tells (s t : Session (Screen α) α) : Prop :=
  Still s t ∨ Told s t

omit [Scalar α] in
theorem Still.refl (s : Session (Screen α) α) : Still s s :=
  ⟨rfl, id, Screen.Still.refl s.around⟩

omit [Scalar α] in
theorem Still.trans {s t u : Session (Screen α) α} (hst : Still s t) (htu : Still t u) :
    Still s u where
  active := htu.active.trans hst.active
  named := fun h => htu.named (hst.named h)
  screen := hst.screen.trans htu.screen

omit [Scalar α] in
theorem Speaks.refl (s : Session (Screen α) α) : Speaks s s :=
  ⟨rfl, Screen.Speaks.refl s.around⟩

omit [Scalar α] in
theorem Speaks.trans {s t u : Session (Screen α) α} (hst : Speaks s t) (htu : Speaks t u) :
    Speaks s u :=
  ⟨htu.coordinator.trans hst.coordinator, hst.screen.trans htu.screen⟩

omit [Scalar α] in
theorem Speaks.still {s t : Session (Screen α) α} (h : Speaks s t) : Still s t where
  active := congrArg Coordinator.active h.coordinator
  named := fun hs => h.coordinator.symm ▸ hs
  screen := h.screen.toStill

omit [Scalar α] in
theorem Speaks.sound {s t : Session (Screen α) α} (h : Speaks s t) :
    Speaks s { t with fault := none } :=
  ⟨h.coordinator, h.screen⟩

omit [Scalar α] in
theorem Still.sound {s t : Session (Screen α) α} (h : Still s t) :
    Still s { t with fault := none } :=
  ⟨h.active, h.named, h.screen⟩

omit [Scalar α] in
theorem titleOf_eq_of_headings_eq {s t : Screen α} (h : t.headings = s.headings)
    (id : Option (List Char)) : t.titleOf id = s.titleOf id := by
  rw [Screen.titleOf, Screen.titleOf, h]

omit [Scalar α] in
theorem Still.told {s t u : Session (Screen α) α} (hst : Still s t) (htu : Told t u) :
    Told s u where
  changed := fun h => by
    rw [← hst.active]
    exact htu.changed (hst.named h)
  named := fun h => htu.named (hst.named h)
  headings := htu.headings.trans hst.screen.headings
  label := htu.label
  marks := by rw [htu.marks, hst.screen.marks]
  mounts := htu.mounts.trans hst.screen.mounts

omit [Scalar α] in
theorem Told.still {s t u : Session (Screen α) α} (hst : Told s t) (htu : Still t u) :
    Told s u where
  changed := fun h => by
    rw [htu.active]
    exact hst.changed h
  named := fun h => htu.named (hst.named h)
  headings := htu.screen.headings.trans hst.headings
  label := by
    rw [htu.screen.label, hst.label, htu.active,
      titleOf_eq_of_headings_eq htu.screen.headings]
  marks := by rw [htu.screen.marks, hst.marks, htu.active]
  mounts := htu.screen.mounts.trans hst.mounts

omit [Scalar α] in
theorem Still.tells {s t u : Session (Screen α) α} (hst : Still s t) (htu : Tells t u) :
    Tells s u :=
  htu.imp hst.trans hst.told

omit [Scalar α] in
theorem Tells.still {s t u : Session (Screen α) α} (hst : Tells s t) (htu : Still t u) :
    Tells s u :=
  hst.imp (fun h => h.trans htu) (fun h => h.still htu)

omit [Scalar α] in
theorem Tells.sound {s t : Session (Screen α) α} (h : Tells s t) :
    Tells s { t with fault := none } :=
  h.imp Still.sound fun h => ⟨h.changed, h.named, h.headings, h.label, h.marks, h.mounts⟩

omit [Scalar α] in
theorem Tells.named {s t : Session (Screen α) α} (h : Tells s t) (hs : IsNamed s.coordinator) :
    IsNamed t.coordinator :=
  h.elim (fun h => h.named hs) (fun h => h.named hs)

omit [Scalar α] in
theorem still_fail (s : Session (Screen α) α) (e : ConversionError) : Still s (s.fail e) :=
  ⟨rfl, id, Screen.Still.refl s.around⟩

theorem still_setProgress (s : Session (Screen α) α) (x : α) : Still s (s.setProgress x) where
  active := rfl
  named := fun h => ⟨h.active, h.headings⟩
  screen := ⟨rfl, rfl, rfl, rfl⟩

/-- Another heading is told to a view with a page. -/
theorem tells_setActive {s : Session (Screen α) α} {id : Value α}
    (hpage : s.around.view.hasPage = true) (hid : IsNamed s.coordinator -> IsName id) :
    Tells s (s.setActive id) := by
  unfold Session.setActive
  split
  · exact Or.inl (Still.refl s)
  · next hother =>
      apply Or.inr
      have hrun : Surroundings.tellActive s.around id =
          { s.around with sectionLabel := s.around.titleOf id.text? }.note
            (.script (.markHeading id.text?)) := by
        simp only [Surroundings.tellActive, Screen.run, hpage, if_true]
      constructor
      · intro h heq
        exact hother (text?_eq_of_same (hid h) h.active heq)
      · exact fun h => ⟨hid h, h.headings⟩
      · rw [hrun]
        rfl
      · simp only [hrun]
        rfl
      · rw [hrun, Screen.marks_note _ rfl]
        rfl
      · rw [hrun, Screen.mounts_note _ rfl]
        rfl

theorem hasPage_of_metrics {s : Session (Screen α) α} {m : Metrics α}
    (h : s.metrics .preview = .ok (some m)) : s.around.view.hasPage = true := by
  simp only [Session.metrics, Surroundings.metrics, Screen.viewMetrics] at h
  split at h
  · next hpage => exact hpage
  · cases h

theorem tells_track (s : Session (Screen α) α) : Tells s s.track := by
  unfold Session.track
  split
  · exact Or.inl (still_fail s _)
  · exact Or.inl (Still.refl s)
  · next m hm =>
      split
      · exact Or.inl ((still_setProgress s _).trans (still_fail _ _))
      · next ps hps =>
          refine (still_setProgress s m.fraction).tells (tells_setActive ?_ ?_)
          · exact hasPage_of_metrics hm
          · intro h
            rcases h.headings with ⟨qs, hqs, hnames⟩
            cases hps.symm.trans hqs
            exact IsNamed.lastReached hnames m.top

theorem tells_observe (s : Session (Screen α) α) (side : Side) : Tells s (s.observe side) := by
  cases side with
  | source => exact Or.inl (Still.refl s)
  | preview => exact tells_track s

theorem still_placeEditor {s : Screen α} {x : α} {moved : Screen α × Bool}
    (h : s.placeEditor x = .ok moved) : Screen.Still s moved.1 := by
  unfold Screen.placeEditor at h
  split at h
  · split at h
    · cases h
      exact Screen.still_setBar s _
    · cases h
    · cases h
  · cases h
    exact Screen.Still.refl s

theorem still_place (s : Session (Screen α) α) (side : Side) (x : α) :
    Still s (s.place side x).1 := by
  unfold Session.place
  split
  · next e _ => exact still_fail s e
  · next moved hmoved =>
      refine ⟨rfl, id, ?_⟩
      cases side with
      | source => exact still_placeEditor hmoved
      | preview =>
          cases hmoved
          exact Screen.still_run s.around rfl

/-- The opposite pane is moved without a word about headings: the page does not report its
movement at once. -/
theorem still_moveOpposite (s : Session (Screen α) α) (side : Side) (x : α) :
    Still s (s.moveOpposite side x) := by
  have hdrive : Still s (s.drive side) :=
    ⟨rfl, fun h => ⟨h.active, h.headings⟩, Screen.Still.refl s.around⟩
  have hplaced := hdrive.trans (still_place (s.drive side) side.other x)
  unfold Session.moveOpposite Session.echoed
  cases side with
  | source => exact hplaced
  | preview =>
      split
      · exact hplaced
      · exact hplaced

theorem still_settled (s : Session (Screen α) α) (side : Side) (fraction : α) :
    Still s (s.settled side fraction) := by
  cases side <;>
    exact ⟨rfl, fun h => ⟨h.active, h.headings⟩, ⟨rfl, rfl, rfl, rfl⟩⟩

/-- The movement of the editor is not about headings, and that of the page may be. -/
theorem tells_scrolled (side : Side) (s : Session (Screen α) α) :
    Tells s (Session.scrolled side s) ∧
      (side = .source -> Still s (Session.scrolled side s)) := by
  have hfrom : Still (s.observe side) (Session.scrolled side s) ∨
      Session.scrolled side s = s := by
    rcases Session.scrolled_cases side s with ⟨-, h⟩ | ⟨-, h | ⟨e, h⟩⟩ |
      ⟨-, -, -, -, driving, following, -, -, h⟩
    · exact Or.inr h
    · rw [h]
      exact Or.inl (Still.refl _)
    · rw [h]
      exact Or.inl (still_fail _ e)
    · rw [h]
      split
      · exact Or.inl ((still_moveOpposite _ side _).trans (still_settled _ side _))
      · exact Or.inl (still_moveOpposite _ side _)
  rcases hfrom with h | h
  · refine ⟨(tells_observe s side).still h, ?_⟩
    rintro rfl
    exact h
  · rw [h]
    exact ⟨Or.inl (Still.refl s), fun _ => Still.refl s⟩

theorem speaks_applyZoom (s : Session (Screen α) α) : Speaks s s.applyZoom :=
  ⟨rfl, Screen.speaks_run s.around rfl⟩

theorem tells_zoomTo (s : Session (Screen α) α) (x : α) : Tells s (s.zoomTo x) := by
  have hset : Still s { s with coordinator := { s.coordinator with zoom := clampZoom x } } :=
    ⟨rfl, fun h => ⟨h.active, h.headings⟩, Screen.Still.refl s.around⟩
  exact (hset.trans (speaks_applyZoom _).still).tells (tells_track _)

theorem still_setSync (s : Session (Screen α) α) (on : Bool) : Still s (s.setSync on) := by
  cases on <;>
    exact ⟨rfl, fun h => ⟨h.active, h.headings⟩, ⟨rfl, rfl, rfl, rfl⟩⟩

theorem tells_setHeadings (s : Session (Screen α) α) {ps : Positions α}
    (hps : ∀ p ∈ ps, IsName p.1) (top : Value α) : Tells s (s.setHeadings (.ok ps) top) := by
  have hset : forall x, Still s { s with
      coordinator := { s.coordinator with headings := .ok ps, pageTop := x } } := by
    intro x
    exact ⟨rfl, fun h => ⟨h.active, ps, rfl, hps⟩, Screen.Still.refl s.around⟩
  unfold Session.setHeadings
  simp only
  split
  · exact Or.inl ((hset s.coordinator.pageTop).trans (still_fail _ _))
  · next x _ => exact (hset x).tells (tells_track _)

end Window
end Folio
