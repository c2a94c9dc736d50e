import Folio.Settings

/-!
# Presets of compression

A compressed document takes its sizes from a preset. The sizes that are set by hand do
not count for it, apart from the count of columns.
-/

namespace Folio
namespace Style

open Number

/-- The sizes of a compressed document. -/
structure Preset (α : Type) where
  fontSize : α
  lineHeight : α
  padding : List Char
  columns : Nat
  headingMarginTop : List Char
  headingMarginBottom : List Char
  paragraphMargin : List Char
  titleSize : List Char
  boxPadding : List Char

variable {α : Type} [Scalar α]

/-- The preset of a degree of compression. -/
def preset? : Compression -> Option (Preset α)
  | .none => none
  | .low =>
    some
      { fontSize := Scalar.tenths 130
        lineHeight := Scalar.hundredths 135
        padding := "10mm".toList
        columns := 2
        headingMarginTop := "0.9em".toList
        headingMarginBottom := "0.35em".toList
        paragraphMargin := "0.6em".toList
        titleSize := "2em".toList
        boxPadding := "0.6em".toList }
  | .medium =>
    some
      { fontSize := Scalar.tenths 115
        lineHeight := Scalar.hundredths 125
        padding := "7mm".toList
        columns := 2
        headingMarginTop := "0.7em".toList
        headingMarginBottom := "0.25em".toList
        paragraphMargin := "0.45em".toList
        titleSize := "1.9em".toList
        boxPadding := "0.5em".toList }
  | .high =>
    some
      { fontSize := Scalar.tenths 105
        lineHeight := Scalar.hundredths 115
        padding := "5mm".toList
        columns := 3
        headingMarginTop := "0.6em".toList
        headingMarginBottom := "0.2em".toList
        paragraphMargin := "0.4em".toList
        titleSize := "1.8em".toList
        boxPadding := "0.4em".toList }

/-- The padding of the page. -/
def padding (s : Settings α) : Except ConversionError (List Char) :=
  match (preset? s.compression : Option (Preset α)) with
  | some p => .ok p.padding
  | none => s.margins.fourfold.plain.map (· ++ "px".toList)

/-- The side on which lines start. -/
def startSide (d : Direction) : List Char :=
  match d with
  | .rtl => "right".toList
  | .ltr => "left".toList

/-- The side on which lines end. -/
def endSide (d : Direction) : List Char :=
  match d with
  | .rtl => "left".toList
  | .ltr => "right".toList

/-- How the text of a document is aligned. -/
def alignment (t : Tokens) (d : Direction) : List Char :=
  if t.justified then "justify".toList else startSide d

end Style
end Folio
