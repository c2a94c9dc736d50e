import Folio.Proofs.Window.Course

/-!
# The upkeep of the page

A step of a window lets the timer for rendering start, or it leaves alone what is rendered and
what is shown, or it renders (`step_cases`). Hence a window whose timer is off shows the text as
it is edited, with the settings as they are.
-/

namespace Folio
namespace Window

open Number Viewport Files

variable {α : Type} [Scalar α]

/-!
## Declared types
-/

/-- Whether the number that a control is set to is not too large for a machine number. -/
def Choice.IsDeclared : Choice α -> Prop
  | .fontSize a => a.IsHeld
  | .lineHeight a => a.IsHeld
  | .margins a => a.IsHeld
  | _ => True

/-- Whether the values that a happening brings for settings have their declared types. -/
def Happening.IsDeclared : Happening α -> Prop
  | .chosen choice => choice.IsDeclared
  | .changed fields => ∀ f ∈ fields, f.2.IsDeclared f.1
  | _ => True

/-- Whether machine numbers can stand for the bounds of the margins, which are whole numbers. -/
def HoldsMargins (α : Type) [Scalar α] : Prop :=
  (Amount.whole 0 : Amount α).IsHeld ∧ (Amount.whole 40 : Amount α).IsHeld

theorem isHeld_clamp {a low high : Amount α} (h : a.IsHeld) (hlow : low.IsHeld)
    (hhigh : high.IsHeld) : (a.clamp low high).IsHeld := by
  rcases Amount.clamp_cases a low high with heq | heq | heq
  · rw [heq]
    exact h
  · rw [heq]
    exact hlow
  · rw [heq]
    exact hhigh

/-- The other settings are checked when they are given. -/
theorem isDeclared_of_other {name : List Char} (v : Value α)
    (hname : name ∉ ["title".toList, "font_size".toList, "line_height".toList,
      "margins".toList]) : v.IsDeclared name where
  title := by
    rintro rfl
    exact absurd hname (by decide)
  size := by
    rintro (rfl | rfl)
    · exact absurd hname (by decide)
    · exact absurd hname (by decide)
  margins := by
    rintro rfl
    exact absurd hname (by decide)

/-- A size that a control takes over is held as well. -/
theorem isDeclared_size {name : List Char} {a : Amount α} (h : a.IsHeld)
    (hname : name = "font_size".toList ∨ name = "line_height".toList) :
    a.toValue.IsDeclared name where
  title := by
    rintro rfl
    exact absurd hname (by decide)
  size := by
    rintro - b hb
    rw [Amount.ofValue?_toValue] at hb
    cases hb
    exact h
  margins := by
    rintro rfl
    exact absurd hname (by decide)

/-- Margins are taken over as machine numbers. -/
theorem isDeclared_margins {a : Amount α} (h : a.IsHeld) :
    (machineValue a).IsDeclared "margins".toList where
  title := fun hname => absurd hname (by decide)
  size := fun hname => absurd hname (by decide)
  margins := by
    rintro - b hb
    rcases h with ⟨x, hx⟩
    unfold machineValue at hb
    rw [hx] at hb
    cases hb
    exact Amount.isHeld_real _

omit [Scalar α] in
theorem eq_of_ite_none {β : Type} {c : Prop} [Decidable c] {a b : β}
    (h : (if c then none else some a) = some b) : a = b := by
  split at h
  · cases h
  · exact Option.some.inj h

/-- What a control sets is of the declared type, if the number it is set to is. -/
theorem isDeclared_of_choose (hbounds : HoldsMargins α) {c d : Controls α} {choice : Choice α}
    {name : List Char} {v : Value α} (h : choice.IsDeclared)
    (hchosen : c.choose? choice = some (d, name, v)) :
    v.IsDeclared name := by
  cases choice with
  | title s =>
      cases eq_of_ite_none hchosen
      exact ⟨fun _ => ⟨s, rfl⟩, fun h => absurd h (by decide), fun h => absurd h (by decide)⟩
  | fontSize a =>
      cases eq_of_ite_none hchosen
      exact isDeclared_size (isHeld_clamp h (Amount.isHeld_real _) (Amount.isHeld_real _))
        (Or.inl rfl)
  | lineHeight a =>
      cases eq_of_ite_none hchosen
      exact isDeclared_size (isHeld_clamp h (Amount.isHeld_real _) (Amount.isHeld_real _))
        (Or.inr rfl)
  | margins a =>
      cases eq_of_ite_none hchosen
      exact isDeclared_margins (isHeld_clamp h hbounds.1 hbounds.2)
  | theme | compression | direction | showToc | showDate =>
      cases eq_of_ite_none hchosen
      exact isDeclared_of_other _ (by decide)

theorem isDeclared_fields (hbounds : HoldsMargins α) {c : Controls α} {h : Happening α}
    (hh : h.IsDeclared) : ∀ f ∈ h.fields c, f.2.IsDeclared f.1 := by
  cases h with
  | chosen choice =>
      intro f hf
      unfold Happening.fields at hf
      simp only at hf
      split at hf
      · next d name v hchosen =>
          rw [List.mem_singleton.mp hf]
          exact isDeclared_of_choose hbounds hh hchosen
      · cases hf
  | changed fields => exact hh
  | _ => exact nofun

/-!
## What is shown
-/

/-- Whether a document is shown: it is what the text is rendered to, and its page was the last
one that was put into the view. -/
structure Work.Shows (k : Work α) (mounts : List (List Char × List Char))
    (d : Document.Rendered) : Prop where
  current : k.current = some d
  rendered : Document.render k.setter k.settings k.today k.text = .ok (some d)
  page : Document.page k.settings d.body d.stylesheet k.sources = .ok k.page
  mounted : mounts.head? =
    some (d.body, ((k.document.map Path.parent).getD k.folder).text ++ ['/'])

/-- Whether the page is kept up with the text: it shows the text, or is about to be replaced. -/
structure Work.IsKeptUp (today : Document.Date) (sources : List (List Char)) (k : Work α)
    (mounts : List (List Char × List Char)) : Prop where
  declared : k.settings.IsDeclared
  setter : k.setter = some Math.deferred
  today : k.today = today
  sources : k.sources = sources
  shown : k.renderDue = false -> exists d, k.Shows mounts d

/-- Whether a window keeps its page up with the text. -/
def State.IsKeptUp (today : Document.Date) (sources : List (List Char)) (w : State α) : Prop :=
  w.work.IsKeptUp today sources w.screen.mounts

namespace State.IsKeptUp

variable {today : Document.Date} {sources : List (List Char)} {w v : State α}

theorem goesOn (h : w.IsKeptUp today sources) (hon : GoesOn Tells w v) :
    v.IsKeptUp today sources := by
  have hmounts : v.screen.mounts = w.screen.mounts := by
    rcases hon.session with hstill | htold
    · exact hstill.screen.mounts
    · exact htold.mounts
  unfold State.IsKeptUp
  rw [hon.work, hmounts]
  exact h

theorem edits (hbounds : HoldsMargins α) (h : w.IsKeptUp today sources)
    {happening : Happening α} (hdeclared : happening.IsDeclared) (hedits : Edits happening w v) :
    v.IsKeptUp today sources := by
  have hsettings : v.settings.IsDeclared := by
    rcases hedits.settings with heq | hchange
    · rw [heq]
      exact h.declared
    · exact h.declared.change (isDeclared_fields hbounds hdeclared) hchange
  unfold State.IsKeptUp
  rw [hedits.work]
  exact ⟨hsettings, h.setter, h.today, h.sources, nofun⟩

/-- What is declared is rendered, and shown from then on. -/
theorem render (hdeclared : w.settings.IsDeclared) (hsetter : w.setter = some Math.deferred)
    (htoday : w.today = today) (hsources : w.sources = sources) :
    w.render.IsKeptUp today sources := by
  rcases hdeclared.exists_render Math.deferred w.today w.text with ⟨d, hd⟩
  rw [← hsetter] at hd
  rcases render_cases w with ⟨-, hnone⟩ | ⟨d, page, hd, hpage, heq⟩
  · exact absurd hd (hnone d)
  · rw [heq]
    exact ⟨hdeclared, hsetter, htoday, hsources, fun _ => ⟨d, rfl, hd, hpage, rfl⟩⟩

theorem step (hbounds : HoldsMargins α) (h : w.IsKeptUp today sources)
    {happening : Happening α} (hdeclared : happening.IsDeclared) :
    (w.step happening).IsKeptUp today sources := by
  have hheard : (w.heard happening).IsKeptUp today sources := by
    simpa [State.IsKeptUp, State.screen] using h
  rcases step_cases w happening with hon | hedits | hrenders
  · exact hheard.goesOn hon
  · exact edits hbounds hheard hdeclared hedits
  · rw [hrenders.eq]
    exact .render h.declared h.setter h.today h.sources

theorem run (hbounds : HoldsMargins α) (h : w.IsKeptUp today sources)
    {happenings : List (Happening α)} (hdeclared : ∀ e ∈ happenings, e.IsDeclared) :
    (w.run happenings).IsKeptUp today sources := by
  induction happenings generalizing w with
  | nil => exact h
  | cons e rest ih =>
      have hfirst : (w.step e).IsKeptUp today sources :=
        step hbounds h (hdeclared e List.mem_cons_self)
      exact ih hfirst fun f hf => hdeclared f (List.mem_cons_of_mem e hf)

/-- A window that was opened renders its text at once. -/
theorem start {text : List Char} {settings : Settings α} {document : Option Path} {folder : Path}
    (hdeclared : settings.IsDeclared)
    (hstart : State.start text settings document folder sources today = .ok w) :
    w.IsKeptUp today sources := by
  rcases start_cases hstart with ⟨controls, d, page, hd, hpage, rfl⟩
  exact ⟨hdeclared, rfl, rfl, rfl, fun _ => ⟨d, rfl, hd, hpage, rfl⟩⟩

end State.IsKeptUp

end Window
end Folio
