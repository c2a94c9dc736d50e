import Folio.Amount
import Folio.Style.Theme

/-!
# Settings of a document

The settings of a document are given as named values. They are checked in a fixed order,
and the first fault is reported; numbers are kept in the form in which they were given.
Settings that were accepted can be changed by naming new values, and are checked again.
-/

namespace Folio

open Number Style

/-! ## What is set -/

/-- The direction of writing. -/
inductive Direction where
  | ltr
  | rtl
  deriving DecidableEq, Repr, Inhabited

/-- How tightly a document is set. -/
inductive Compression where
  | none
  | low
  | medium
  | high
  deriving DecidableEq, Repr, Inhabited

/-- The settings of a document. The title and the two wishes for a date and a table of
contents are kept as they were given; whether they count as true decides. -/
structure Settings (α : Type) where
  title : Value α
  showDate : Value α
  showToc : Value α
  theme : Theme
  fontSize : Amount α
  /-- The padding of the page, in units of four pixels. -/
  margins : Amount α
  lineHeight : Amount α
  direction : Direction
  compression : Compression
  /-- The count of columns of a compressed document, if it is not left to the preset. -/
  columns : Option (Amount α)

/-- The name of a direction. -/
def Direction.name : Direction -> List Char
  | .ltr => "ltr".toList
  | .rtl => "rtl".toList

/-- The direction of a name. -/
def Direction.ofName? (s : List Char) : Option Direction :=
  [ltr, rtl].find? fun d => d.name == s

namespace Compression

/-- All degrees of compression, in the order in which they are offered. -/
def all : List Compression :=
  [none, low, medium, high]

/-- The name of a degree. -/
def name : Compression -> List Char
  | none => "none".toList
  | low => "low".toList
  | medium => "medium".toList
  | high => "high".toList

/-- The degree of a name. -/
def ofName? (s : List Char) : Option Compression :=
  all.find? fun c => c.name == s

end Compression

/-! ## Faults -/

/-- Why settings are refused. -/
inductive SettingsError (α : Type) where
  /-- A name that is not a setting, or a value that cannot be compared. -/
  | wrongType
  | unknownTheme (given : Value α)
  | unknownCompression (given : Value α)
  | unknownDirection (given : Value α)
  | fontSize (given : Amount α)
  | lineHeight (given : Amount α)
  | margins (given : Amount α)
  | columns (given : Amount α)

namespace SettingsError

variable {α : Type} [Scalar α]

/-- The names of all degrees of compression, as messages list them. -/
def compressionNames : List Char :=
  '(' :: Text.joinWith ", ".toList (Compression.all.map fun c => Text.quoted c.name) ++ [')']

/-- The message of a fault; a value of the wrong kind has none. -/
def message? : SettingsError α -> Option (List Char)
  | wrongType => none
  | unknownTheme v => some ("Unknown theme ".toList ++ v.shown)
  | unknownCompression v =>
      some ("compression must be one of ".toList ++ compressionNames ++ ", got ".toList ++ v.shown)
  | unknownDirection v =>
      some ("direction must be 'ltr' or 'rtl', got ".toList ++ v.shown)
  | fontSize a => some ("font_size must be > 0, got ".toList ++ a.text)
  | lineHeight a => some ("line_height must be > 0, got ".toList ++ a.text)
  | margins a => some ("margins must be >= 0, got ".toList ++ a.text)
  | columns a => some ("columns must be >= 1, got ".toList ++ a.text)

end SettingsError

/-! ## Checking -/

/-- Settings before they are checked. -/
structure Draft (α : Type) where
  title : Value α
  showDate : Value α
  showToc : Value α
  theme : Value α
  fontSize : Value α
  margins : Value α
  lineHeight : Value α
  direction : Value α
  compression : Value α
  columns : Value α

namespace Draft

variable {α : Type} [Scalar α]

/-- Settings as values. -/
def ofSettings (s : Settings α) : Draft α where
  title := s.title
  showDate := s.showDate
  showToc := s.showToc
  theme := .text s.theme.name
  fontSize := s.fontSize.toValue
  margins := s.margins.toValue
  lineHeight := s.lineHeight.toValue
  direction := .text s.direction.name
  compression := .text s.compression.name
  columns :=
    match s.columns with
    | some a => a.toValue
    | none => .null

/-- Give a setting a value, if there is a setting of the name. -/
def set? (d : Draft α) (name : List Char) (v : Value α) : Option (Draft α) :=
  if name = "title".toList then some { d with title := v }
  else if name = "show_date".toList then some { d with showDate := v }
  else if name = "show_toc".toList then some { d with showToc := v }
  else if name = "theme".toList then some { d with theme := v }
  else if name = "font_size".toList then some { d with fontSize := v }
  else if name = "margins".toList then some { d with margins := v }
  else if name = "line_height".toList then some { d with lineHeight := v }
  else if name = "direction".toList then some { d with direction := v }
  else if name = "compression".toList then some { d with compression := v }
  else if name = "columns".toList then some { d with columns := v }
  else none

/-- Give several settings values; of two values for one setting the later counts. -/
def setAll? (d : Draft α) : List (List Char × Value α) -> Option (Draft α)
  | [] => some d
  | (name, v) :: rest =>
      match d.set? name v with
      | some d => d.setAll? rest
      | none => none

/-- A text that names one of a few things. -/
def named? {β : Type} (ofName? : List Char -> Option β) : Value α -> Option β
  | .text s => ofName? s
  | _ => none

/-- A number that is not too small. -/
def number (v : Value α) (isSmall : Amount α -> Bool) (fault : Amount α -> SettingsError α) :
    Except (SettingsError α) (Amount α) :=
  match Amount.ofValue? v with
  | none => .error .wrongType
  | some a => if isSmall a then .error (fault a) else .ok a

/-- A count of columns, which may be missing. -/
def columnCount (v : Value α) : Except (SettingsError α) (Option (Amount α)) :=
  match v with
  | .null => .ok none
  | v => (number v (·.isBelow 1) .columns).map some

/-- Check settings. Themes come first, then degrees of compression, directions, and the
numbers. -/
def check (d : Draft α) : Except (SettingsError α) (Settings α) := do
  let theme <- (named? Theme.ofName? d.theme).elim (.error (.unknownTheme d.theme)) .ok
  let compression <-
    (named? Compression.ofName? d.compression).elim
      (.error (.unknownCompression d.compression)) .ok
  let direction <-
    (named? Direction.ofName? d.direction).elim (.error (.unknownDirection d.direction)) .ok
  let fontSize <- number d.fontSize (·.isAtMost 0) .fontSize
  let lineHeight <- number d.lineHeight (·.isAtMost 0) .lineHeight
  let margins <- number d.margins (·.isBelow 0) .margins
  let columns <- columnCount d.columns
  pure
    { title := d.title
      showDate := d.showDate
      showToc := d.showToc
      theme := theme
      fontSize := fontSize
      margins := margins
      lineHeight := lineHeight
      direction := direction
      compression := compression
      columns := columns }

end Draft

namespace Settings

variable {α : Type} [Scalar α]

/-- The settings that count where none are given. -/
def default : Settings α where
  title := .text []
  showDate := .bool true
  showToc := .bool false
  theme := .academic
  fontSize := .real (Scalar.ofInt 16)
  margins := .real (Scalar.ofInt 10)
  lineHeight := .real (Scalar.tenths 15)
  direction := .rtl
  compression := .none
  columns := none

/-- Change the settings that are named, and check them all. -/
def change (s : Settings α) (fields : List (List Char × Value α)) :
    Except (SettingsError α) (Settings α) :=
  match (Draft.ofSettings s).setAll? fields with
  | some d => d.check
  | none => .error .wrongType

/-- The settings that are named, and the default ones for the others. -/
def make (fields : List (List Char × Value α)) : Except (SettingsError α) (Settings α) :=
  default.change fields

/-- The title, if it is a text or counts as none; a title that counts as none is empty. -/
def titleText? (s : Settings α) : Option (List Char) :=
  if s.title.truthy then s.title.text? else some []

/-- Whether a date is wanted under the title. -/
def showsDate (s : Settings α) : Bool :=
  s.showDate.truthy

/-- Whether a table of contents is wanted. -/
def showsToc (s : Settings α) : Bool :=
  s.showToc.truthy

/-- Whether a document is set tightly. -/
def isCompressed (s : Settings α) : Bool :=
  s.compression ≠ .none

end Settings
end Folio
