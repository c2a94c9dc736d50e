import Folio.Text.Blank
import Folio.Text.Case
import Folio.Text.Word

/-!
# Names of headings

The name of a heading is made of its text: word characters in lower case, with one
hyphen for each run of blanks, hyphens and underscores between them.
-/

namespace Folio
namespace Heading

open Text

/-- Whether a character of a heading counts for its name. -/
def counts (c : Char) : Bool :=
  isWord c || isBlank c || c = '-'

/-- Whether a character only parts the words of a name. -/
def parts (c : Char) : Bool :=
  isBlank c || c = '_' || c = '-'

/-- Write one hyphen for each run of parting characters. -/
def hyphenated (inRun : Bool) : List Char -> List Char
  | [] => []
  | c :: rest =>
      if parts c then
        if inRun then hyphenated true rest else '-' :: hyphenated true rest
      else
        c :: hyphenated false rest

/-- Drop the hyphens at both ends. -/
def stripHyphens (s : List Char) : List Char :=
  dropRightWhile (· = '-') (s.dropWhile (· = '-'))

/-- The name made of the text of a heading. -/
def slug (text : List Char) : List Char :=
  let name := stripHyphens (hyphenated false (lower (trim (text.filter counts))))
  if name.isEmpty then "section".toList else name

end Heading
end Folio
