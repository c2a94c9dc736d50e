import Folio.Text.Search

/-!
# Sheets of rules

A stylesheet is a sequence of rules with notes and empty lines between them. A rule is
written over several lines or on a single one.
-/

namespace Folio
namespace Style

/-- A part of a stylesheet. -/
inductive Part where
  | rule (selector : List Char) (declarations : List (List Char))
  /-- A rule on a single line. -/
  | line (selector declarations : List Char)
  | note (text : List Char)
  | gap
  deriving DecidableEq, Repr

/-- Declarations in braces over several lines, set in by a number of columns. -/
def braced (column : Nat) (selector inner : List Char) : List Char :=
  List.replicate column ' ' ++ selector ++ " \x7b\n".toList ++ inner ++
    List.replicate column ' ' ++ "\x7d\n".toList

/-- Write a part, set in by a number of columns. -/
def Part.write (column : Nat) : Part -> List Char
  | .rule selector declarations =>
      braced column selector
        (declarations.flatMap fun d => List.replicate (column + 2) ' ' ++ d ++ ['\n'])
  | .line selector declarations =>
      List.replicate column ' ' ++ selector ++ " \x7b ".toList ++ declarations ++ " \x7d\n".toList
  | .note text => List.replicate column ' ' ++ "/* ".toList ++ text ++ " */\n".toList
  | .gap => ['\n']

/-- Write parts one after the other. -/
def writeParts (column : Nat) (parts : List Part) : List Char :=
  parts.flatMap (Part.write column)

end Style
end Folio
