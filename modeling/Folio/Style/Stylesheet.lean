import Folio.Style.Rules
import Folio.Text.Case

/-!
# The stylesheet

The stylesheet follows from the fonts and colors of a theme and the settings. A
compressed document takes its sizes from a preset and is set in columns.
-/

namespace Folio
namespace Style

open Number

variable {α : Type} [Scalar α]

/-- A size in running text. -/
def plainNumber (x : α) : List Char :=
  (Scalar.exact x).plain

/-- The look of a document. -/
def look (t : Tokens) (s : Settings α) : Except ConversionError Look := do
  let preset : Option (Preset α) := preset? s.compression
  let fontSize <- preset.elim s.fontSize.plain fun p => .ok (plainNumber p.fontSize)
  let lineHeight <- preset.elim s.lineHeight.plain fun p => .ok (plainNumber p.lineHeight)
  let padding <- padding s
  pure
    { tokens := t
      padding := padding
      fontSize := fontSize ++ "px".toList
      lineHeight := lineHeight
      titleSize := preset.elim "2.2em".toList (·.titleSize)
      boxPadding := preset.elim "1em".toList (·.boxPadding)
      boxMargin := if preset.isSome then "0.5em 0".toList else "1.5em 0".toList
      align := alignment t s.direction
      side := startSide s.direction
      farSide := endSide s.direction
      headerRule :=
        if t.colorful then "3px solid ".toList ++ t.accent else "1px solid ".toList ++ t.border
      theoryBackground :=
        if t.colorful then tint t.accent "10".toList else "transparent".toList
      theoryBorder :=
        if t.colorful then
          []
        else
          "font-style: italic; border: 1px solid ".toList ++ t.border ++ "; border-".toList ++
            startSide s.direction ++ "-width: 4px;".toList
      zebra :=
        if Text.lower t.background = "#ffffff".toList then "#f9fafb".toList
        else "rgba(0,0,0,0.02)".toList }

/-- The rules for the screen, in order. -/
def screenRules (k : Look) : List Part :=
  let groups : List (List Part) :=
    [pageRules k, contentRules k, headerRules k, contentsRules k, mathRules, headingRules k,
     textRules k, tableRules k, boxRules k ++ layoutRules k]
  groups.flatMap (· ++ [.gap])

/-- The rules for columns, which only a compressed document has. -/
def columnPart (s : Settings α) : List Char :=
  match (preset? s.compression : Option (Preset α)) with
  | none => []
  | some p =>
      let columns := s.columns.elim (Number.digitsOf p.columns) (·.text)
      '\n' :: writeParts 6 (columnRules p columns)

/-- The stylesheet for some fonts and colors. -/
def sheet (t : Tokens) (s : Settings α) : Except ConversionError (List Char) :=
  (look t s).map fun k =>
    '\n' :: writeParts 6 (screenRules k) ++
      braced 6 "@media print".toList (writeParts 8 printRules) ++ columnPart s

/-- The stylesheet of a document. -/
def stylesheet (s : Settings α) : Except ConversionError (List Char) :=
  sheet s.theme.tokens s

end Style
end Folio
