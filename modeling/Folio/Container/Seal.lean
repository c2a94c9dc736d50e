import Folio.Text.Blank
import Folio.Text.Search

/-!
# Sealing blank lines

A blank line would end a block of markup early. It is joined to the line after it by
the reference for a line end, which shows the same.
-/

namespace Folio
namespace Container

open Text

/-- The reference for a line end. -/
def lineEndReference : List Char :=
  "&#10;".toList

/-- Join each blank line to the line after it, starting with the line at hand. -/
def sealLines (current : List Char) : List (List Char) -> List (List Char)
  | [] => [current]
  | next :: rest =>
      if allBlank current then
        sealLines (current ++ lineEndReference ++ next) rest
      else
        current :: sealLines next rest

/-- Join each blank line of a text to the line after it. -/
def sealed (markup : List Char) : List Char :=
  match splitOn '\n' markup with
  | [] => []
  | first :: rest => joinWith ['\n'] (sealLines first rest)

end Container
end Folio
