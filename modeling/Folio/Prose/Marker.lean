import Folio.Html.Tag
import Folio.Prose.Line

/-!
# Marks of blocks

What a line must begin with to open a block: a run of fence characters, an angle, a
line of stars, a bullet or a number, hash marks, or a tag. All of them look at the line
behind its margin.
-/

namespace Folio
namespace Prose

open Text Pattern

/-- The frame in which a line is read. -/
structure Frame where
  /-- The column in which the content of the block around the line starts. -/
  width : Nat
  /-- The column of the list around the item in which the line stands. -/
  outer : Option Nat
  deriving DecidableEq, Repr

/-- Whether a line is set in so far that it is code. -/
def Frame.isCode (f : Frame) (l : Line) : Bool :=
  4 ≤ l.indent - f.width

/-- Whether a line lies outside the block around it. -/
def Frame.isLeft (f : Frame) (l : Line) : Bool :=
  l.indent < f.width

/-! ## Fences -/

/-- The first line of a fence. -/
structure Fence where
  marker : Char
  count : Nat
  info : List Char
  deriving DecidableEq, Repr

/-- The fence that a line opens. What follows backticks must be free of them. -/
def fence? (f : Frame) (l : Line) : Option Fence :=
  if f.isCode l then
    none
  else
    match l.content with
    | c :: rest =>
        if c = '~' || c = '`' then
          let count := (rest.takeWhile (· = c)).length + 1
          let info := rest.dropWhile (· = c)
          if count < 3 || (c = '`' && info.contains '`') then none else some ⟨c, count, info⟩
        else
          none
    | [] => none

/-- Whether a line closes a fence. -/
def Fence.isClosedBy (fence : Fence) (f : Frame) (l : Line) : Bool :=
  !f.isCode l &&
    fence.count ≤ (l.content.takeWhile (· = fence.marker)).length &&
    (l.content.dropWhile (· = fence.marker)).all isSpace

/-! ## Quotes and rules -/

/-- Whether a line opens a quote. -/
def opensQuote (f : Frame) (l : Line) : Bool :=
  !f.isCode l && l.content.head? = some '>'

/-- Whether a line is a rule: at least three stars, hyphens or underscores. -/
def isRule (f : Frame) (l : Line) : Bool :=
  !f.isCode l &&
    match l.content with
    | c :: rest =>
        (c = '*' || c = '-' || c = '_') && rest.all (fun d => d = c || isSpace d) &&
          2 ≤ (rest.filter (· = c)).length
    | [] => false

/-! ## Items -/

/-- The mark in front of an item. -/
structure Marker where
  /-- Its last character. -/
  kind : Char
  length : Nat
  /-- The number in it. -/
  number : Option Nat
  deriving DecidableEq, Repr

/-- Whether the mark of an item may be followed by a text. -/
def endsMarker : List Char -> Bool
  | [] => true
  | c :: _ => isSpace c

/-- The number that digits stand for. -/
def numberOf (digits : List Char) : Nat :=
  digits.foldl (fun n c => n * 10 + (c.toNat - 48)) 0

/-- The mark of an item at the start of a line. -/
def marker? (l : Line) : Option Marker :=
  let digits := l.content.takeWhile isAsciiDigit
  match l.content.dropWhile isAsciiDigit with
  | c :: rest =>
      if digits.isEmpty then
        if (c = '*' || c = '-' || c = '+') && endsMarker rest then
          some ⟨c, 1, none⟩
        else
          none
      else if digits.length ≤ 9 && (c = '.' || c = ')') && endsMarker rest then
        some ⟨c, digits.length + 1, some (numberOf digits)⟩
      else
        none
  | [] => none

/-- The mark of a list that a line opens. Where the line would end a paragraph, an
item must not be empty and the first number must be one. -/
def opensList? (f : Frame) (endsParagraph : Bool) (l : Line) : Option Marker :=
  let belongsToOuter :=
    match f.outer with
    | some column => 4 ≤ l.indent - column && f.isLeft l
    | none => false
  if f.isCode l || belongsToOuter then
    none
  else
    match marker? l with
    | none => none
    | some m =>
        if endsParagraph && !f.isLeft l &&
            ((m.number.isSome && m.number ≠ some 1) || (l.content.drop m.length).all isSpace) then
          none
        else
          some m

/-! ## Headings -/

/-- The level and the text of a heading with hash marks. -/
def heading? (f : Frame) (l : Line) : Option (Nat × List Char) :=
  let level := (l.content.takeWhile (· = '#')).length
  let rest := l.content.dropWhile (· = '#')
  if f.isCode l || level = 0 || 6 < level || !endsMarker rest then
    none
  else
    let text := dropRightWhile isSpace rest
    let bare := dropRightWhile (· = '#') text
    let closed :=
      match bare.getLast? with
      | some c => isSpace c
      | none => false
    some (level, trimProse (if closed then bare else text))

/-- The level of the heading that a line underlines. -/
def underline? (l : Line) : Option Nat :=
  match l.content with
  | c :: rest =>
      if (c = '-' || c = '=') && (rest.dropWhile (· = c)).all isSpace then
        some (if c = '=' then 1 else 2)
      else
        none
  | [] => none

/-! ## Markup -/

/-- What kind of markup a line opens. -/
inductive Markup where
  /-- An element whose content is not read. -/
  | verbatim
  | comment
  | instruction
  | declaration
  | data
  /-- An element that stands by itself. -/
  | block
  /-- Any other tag that fills its line. -/
  | tag
  deriving DecidableEq, Repr

/-- Elements whose content is not read. -/
def verbatimNames : List (List Char) :=
  ["script".toList, "pre".toList, "style".toList, "textarea".toList]

/-- Elements that stand by themselves. -/
def elementNames : List (List Char) :=
  ["address".toList, "article".toList, "aside".toList, "base".toList, "basefont".toList,
   "blockquote".toList, "body".toList, "caption".toList, "center".toList, "col".toList,
   "colgroup".toList, "dd".toList, "details".toList, "dialog".toList, "dir".toList,
   "div".toList, "dl".toList, "dt".toList, "fieldset".toList, "figcaption".toList,
   "figure".toList, "footer".toList, "form".toList, "frame".toList, "frameset".toList,
   "h1".toList, "h2".toList, "h3".toList, "h4".toList, "h5".toList, "h6".toList,
   "head".toList, "header".toList, "hr".toList, "html".toList, "iframe".toList,
   "legend".toList, "li".toList, "link".toList, "main".toList, "menu".toList,
   "menuitem".toList, "nav".toList, "noframes".toList, "ol".toList, "optgroup".toList,
   "option".toList, "p".toList, "param".toList, "search".toList, "section".toList,
   "summary".toList, "table".toList, "tbody".toList, "td".toList, "tfoot".toList,
   "th".toList, "thead".toList, "title".toList, "tr".toList, "track".toList, "ul".toList]

/-- A line that opens an element whose content is not read. -/
def opensVerbatim : Pattern :=
  sequence
    [exactly '<', oneOf (verbatimNames.map asciiWord),
     ahead true (oneOf [Html.blank, exactly '>', finish])]

/-- The closing tag of an element whose content is not read. -/
def closesVerbatim : Pattern :=
  sequence [literal ['<', '/'], oneOf (verbatimNames.map asciiWord), exactly '>']

/-- A line that opens or closes an element that stands by itself. -/
def opensElement : Pattern :=
  sequence
    [exactly '<', optional (exactly '/'), oneOf (elementNames.map asciiWord),
     ahead true (oneOf [Html.blank, seq (optional (exactly '/')) (exactly '>'), finish])]

/-- A line that is filled by one tag. -/
def filledByTag : Pattern :=
  sequence [oneOf [Html.openingTag, Html.closingTag], many Html.blank, finish]

/-- The markup that a line opens. -/
def markup? (f : Frame) (l : Line) : Option Markup :=
  let s := l.content
  if f.isCode l || s.head? ≠ some '<' then
    none
  else if opensVerbatim.starts s then
    some .verbatim
  else if startsWith "<!--".toList s then
    some .comment
  else if startsWith ['<', '?'] s then
    some .instruction
  else if (sequence [literal ['<', '!'], char isAsciiLetter]).starts s then
    some .declaration
  else if startsWith "<![CDATA[".toList s then
    some .data
  else if opensElement.starts s then
    some .block
  else if filledByTag.starts s then
    some .tag
  else
    none

namespace Markup

/-- Whether a line is the last of some markup. -/
def isClosedBy (m : Markup) (s : List Char) : Bool :=
  match m with
  | .verbatim => closesVerbatim.occursIn s
  | .comment => occurs "-->".toList s
  | .instruction => occurs ['?', '>'] s
  | .declaration => s.contains '>'
  | .data => occurs "]]>".toList s
  | .block => s.isEmpty
  | .tag => s.isEmpty

/-- Whether markup may hold blank lines. -/
def holdsBlankLines (m : Markup) : Bool :=
  m ≠ .block && m ≠ .tag

/-- Whether markup ends a paragraph that it follows. -/
def endsParagraph (m : Markup) : Bool :=
  m ≠ .tag

end Markup
end Prose
end Folio
