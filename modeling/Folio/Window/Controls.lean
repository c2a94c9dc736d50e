import Folio.Settings

/-!
# Controls

The controls of the window show a setting each. A control that is set to what it shows
already does nothing; any other value is taken over into the settings. Numbers are kept
within the range of their control.
-/

namespace Folio
namespace Window

open Number Style

/-- What the controls show. -/
structure Controls (α : Type) where
  /-- The title, where it is a text. -/
  title : Option (List Char)
  theme : Theme
  compression : Compression
  direction : Direction
  showToc : Bool
  showDate : Bool
  fontSize : Amount α
  lineHeight : Amount α
  margins : Amount α

/-- A control set to a value. -/
inductive Choice (α : Type) where
  | title (s : List Char)
  | theme (t : Theme)
  | compression (c : Compression)
  | direction (d : Direction)
  | showToc (on : Bool)
  | showDate (on : Bool)
  | fontSize (a : Amount α)
  | lineHeight (a : Amount α)
  | margins (a : Amount α)

/-- The directions in the order in which they are offered. -/
def offeredDirections : List Direction :=
  [.rtl, .ltr]

variable {α : Type} [Scalar α]

/-- A size of the font within the range of its control. -/
def fontRange (a : Amount α) : Amount α :=
  a.clamp (.real (Scalar.ofInt 8)) (.real (Scalar.ofInt 32))

/-- A height of lines within the range of its control. -/
def lineRange (a : Amount α) : Amount α :=
  a.clamp (.real (Scalar.ofInt 1)) (.real (Scalar.ofInt 3))

/-- A width of margins within the range of its control. -/
def marginRange (a : Amount α) : Amount α :=
  a.clamp (.whole 0) (.whole 40)

/-- A number that is taken over as a machine number. -/
def machineValue (a : Amount α) : Value α :=
  match a.toNumber with
  | .ok x => .real x
  | .error _ => a.toValue

namespace Controls

/-- The controls for settings. Only whole margins can be shown. -/
def ofSettings (s : Settings α) : Except ConversionError (Controls α) := do
  let margins <- s.margins.toValue.toInt
  pure
    { title := s.title.text?
      theme := s.theme
      compression := s.compression
      direction := s.direction
      showToc := s.showsToc
      showDate := s.showsDate
      fontSize := fontRange s.fontSize
      lineHeight := lineRange s.lineHeight
      margins := marginRange (.whole margins) }

/-- The change of the settings that a choice makes, and the controls after it. A choice of
what is shown already makes none. -/
def choose? (c : Controls α) : Choice α -> Option (Controls α × List Char × Value α)
  | .title s =>
      if some s = c.title then none
      else some ({ c with title := some s }, "title".toList, .text s)
  | .theme t =>
      if t = c.theme then none else some ({ c with theme := t }, "theme".toList, .text t.name)
  | .compression d =>
      if d = c.compression then none
      else some ({ c with compression := d }, "compression".toList, .text d.name)
  | .direction d =>
      if d = c.direction then none
      else some ({ c with direction := d }, "direction".toList, .text d.name)
  | .showToc on =>
      if on = c.showToc then none else some ({ c with showToc := on }, "show_toc".toList, .bool on)
  | .showDate on =>
      if on = c.showDate then none
      else some ({ c with showDate := on }, "show_date".toList, .bool on)
  | .fontSize a =>
      let a := fontRange a
      if a.same c.fontSize then none
      else some ({ c with fontSize := a }, "font_size".toList, a.toValue)
  | .lineHeight a =>
      let a := lineRange a
      if a.same c.lineHeight then none
      else some ({ c with lineHeight := a }, "line_height".toList, a.toValue)
  | .margins a =>
      let a := marginRange a
      if a.same c.margins then none
      else some ({ c with margins := a }, "margins".toList, machineValue a)

end Controls
end Window
end Folio
