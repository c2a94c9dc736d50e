import Folio.Amount
import Folio.Heading.Anchors
import Folio.Viewport.Session
import Folio.Viewport.Timer
import Folio.Window.Script

/-!
# The screen

What the coordinator of the window has around it: the scroll bar of the editor, the view
of the page, the labels of the status bar, and the timer of the quiet while. All that is
done to the screen is recorded.
-/

namespace Folio
namespace Window

open Number Viewport Text

/-- The scroll bar of the editor. -/
structure ScrollBar (α : Type) where
  value : Amount α
  maximum : Amount α
  pageStep : Amount α
  isShown : Bool

/-- The view of the page. -/
structure View (α : Type) where
  top : Amount α
  contents : Amount α
  height : Amount α
  hasPage : Bool

/-- What was done to the screen. -/
inductive Event (α : Type) where
  /-- A message was shown for some milliseconds. -/
  | status (text : List Char) (duration : Nat)
  /-- A document was put into the view, with the folder that its addresses start at. -/
  | mounted (body base : List Char)
  | barSet (value : Amount α)
  | script (s : Script α)

/-- The screen. -/
structure Screen (α : Type) where
  bar : ScrollBar α
  view : View α
  /-- The height of the unscaled page, as it was reported last. -/
  pageHeight : Option α
  /-- The headings of the document that is shown. -/
  headings : List Heading.Entry
  progressLabel : List Char
  sectionLabel : List Char
  zoomLabel : List Char
  idle : Timer
  /-- What was done since the record was last read, the last first. -/
  record : List (Event α)

/-- A number of hundredths as a label. -/
def percentLabel {α : Type} [Scalar α] (x : α) : List Char :=
  match (Scalar.exact (Scalar.mul x (Scalar.ofInt 100))).round with
  | .whole n => intText n ++ ['%']
  | _ => []

/-- What follows the tag that starts after an opening angle bracket: at least one
character, up to the first closing one. -/
def tagEnd? : List Char -> Option (List Char)
  | [] => none
  | '>' :: _ => none
  | _ :: rest => (breakOn? ['>'] rest).map (·.2)

/-- Take the tags out of markup; `skip` characters are still to be passed over. -/
def withoutTags (skip : Nat) : List Char -> List Char
  | [] => []
  | c :: rest =>
      match skip with
      | n + 1 => withoutTags n rest
      | 0 =>
          if c = '<' then
            match tagEnd? rest with
            | some after => withoutTags (rest.length - after.length) rest
            | none => c :: withoutTags 0 rest
          else
            c :: withoutTags 0 rest

namespace Screen

variable {α : Type}

/-- Record what was done. -/
def note (s : Screen α) (e : Event α) : Screen α :=
  { s with record := e :: s.record }

/-- Read the record and start a new one. -/
def takeRecord (s : Screen α) : List (Event α) × Screen α :=
  (s.record.reverse, { s with record := [] })

/-- Run a script, if there is a page. -/
def run (s : Screen α) (script : Script α) : Screen α :=
  if s.view.hasPage then s.note (.script script) else s

/-- The title of a heading of the document that is shown, without tags. -/
def titleOf (s : Screen α) (id : Option (List Char)) : List Char :=
  match id.bind fun id => s.headings.find? fun e => e.id == id with
  | some e => withoutTags 0 e.text
  | none => []

variable [Scalar α]

/-- A screen without anything on it. -/
def start : Screen α where
  bar := ⟨.whole 0, .whole 0, .whole 10, true⟩
  view := ⟨.whole 0, .whole 0, .whole 500, true⟩
  pageHeight := none
  headings := []
  progressLabel := "0%".toList
  sectionLabel := []
  zoomLabel := "100%".toList
  idle := .signalling false false
  record := []

/-- Set the scroll bar, as far as it goes, and say whether it was moved. -/
def setBar (s : Screen α) (v : Amount α) : Screen α × Bool :=
  let value := v.clamp (.whole 0) s.bar.maximum
  ({ s with bar := { s.bar with value := value } }.note (.barSet v),
    !Amount.same value s.bar.value)

/-- What the editor reports. -/
def editorMetrics (s : Screen α) : Except ConversionError (Option (Metrics α)) :=
  if s.bar.isShown then do
    let step <- s.bar.pageStep.toNumber
    let value <- s.bar.value.toNumber
    let maximum <- s.bar.maximum.toNumber
    pure (some ⟨value, Scalar.add maximum step, step⟩)
  else
    .ok none

/-- What the view reports; an empty page reports nothing. -/
def viewMetrics (s : Screen α) : Except ConversionError (Option (Metrics α)) :=
  if s.view.hasPage then do
    let contents <- s.view.contents.toNumber
    if Scalar.le contents Scalar.zero then
      pure none
    else
      let top <- s.view.top.toNumber
      let height <- s.view.height.toNumber
      pure (some ⟨top, contents, height⟩)
  else
    .ok none

/-- Move the editor to the line nearest to a position. -/
def placeEditor (s : Screen α) (x : α) : Except ConversionError (Screen α × Bool) :=
  if s.bar.isShown then
    match (Scalar.exact x).round with
    | .whole n => .ok (s.setBar (.whole n))
    | .nan => .error .malformed
    | .infinite => .error .tooLarge
  else
    .ok (s, false)

instance : Surroundings (Screen α) α where
  metrics s side :=
    match side with
    | .source => s.editorMetrics
    | .preview => s.viewMetrics
  pageHeight s := s.pageHeight
  place s side x :=
    match side with
    | .source => s.placeEditor x
    -- the page moves later, and reports it then
    | .preview => .ok (s.run (.scrollTo x), false)
  scalePage s t := s.run (.scale t)
  tellProgress s x := { s with progressLabel := percentLabel x }
  tellActive s id :=
    { s with sectionLabel := s.titleOf id.text? }.run (.markHeading id.text?)
  arm s := { s with idle := s.idle.arm }
  disarm s := { s with idle := s.idle.disarm }

end Screen
end Window
end Folio
