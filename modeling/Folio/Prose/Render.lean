import Folio.Container.Tag
import Folio.Heading.Anchors
import Folio.Html.Escape
import Folio.Prose.Plain
import Folio.Prose.Structure

/-!
# Rendering prose

Blocks and their inline parts are written as markup. Headings are numbered on the way if
they are to have anchors; besides the markup, the listed headings and the containers are
noted in the order in which they are met.
-/

namespace Folio
namespace Prose

open Text Html

/-! ## Inline parts -/

/-- The element of a kind of emphasis. -/
def Stress.element : Stress -> List Char
  | .emphasis => "em".toList
  | .strong => "strong".toList
  | .strike => "s".toList

/-- An attribute with its value. -/
def attributeMarkup (name value : List Char) : List Char :=
  ' ' :: name ++ "=\"".toList ++ escapeQuoted value ++ ['"']

/-- The title of a link or an image, if it has one. -/
def titleMarkup (title : List Char) : List Char :=
  if title.isEmpty then [] else attributeMarkup "title".toList title

/-- The box in front of a task. It cannot be changed on the page. -/
def boxMarkup (checked : Bool) : List Char :=
  "<input type=\"checkbox\" class=\"task-checkbox\" disabled".toList ++
    (if checked then " checked".toList else []) ++ ['>']

/-- The class by which boxes in markup are known. -/
def boxClass : List Char := "task-list-item-checkbox".toList

/-- Write an inline part. -/
def Inline.render : Inline -> List Char
  | .text s => escapeQuoted s
  | .literal s => escapeQuoted s
  | .softBreak => "<br />\n".toList
  | .hardBreak => "<br />\n".toList
  | .code s => "<code>".toList ++ escapeQuoted s ++ "</code>".toList
  | .markup s => if occurs boxClass s then boxMarkup (occurs "checked=".toList s) else s
  | .start stress => '<' :: stress.element ++ ['>']
  | .stop stress => '<' :: '/' :: stress.element ++ ['>']
  | .anchor target =>
      "<a".toList ++ attributeMarkup "href".toList target.href ++ titleMarkup target.title ++ ['>']
  | .endAnchor => "</a>".toList
  | .image target alt =>
      "<img".toList ++ attributeMarkup "src".toList target.href ++
        attributeMarkup "alt".toList alt ++ titleMarkup target.title ++ " />".toList
  | .box checked => boxMarkup checked

/-- Write inline parts one after the other. -/
def renderParts (parts : List Inline) : List Char :=
  parts.flatMap Inline.render

/-! ## Blocks -/

/-- The element of a group. -/
def Group.element : Group -> List Char
  | .quote => "blockquote".toList
  | .bullets _ => "ul".toList
  | .numbers _ _ => "ol".toList
  | .item _ => "li".toList
  | .table => "table".toList
  | .head => "thead".toList
  | .body => "tbody".toList
  | .row => "tr".toList

/-- The attributes of a group. -/
def Group.attributes : Group -> List Char
  | .bullets true => attributeMarkup "class".toList "contains-task-list".toList
  | .numbers first tasks =>
      (if first = 1 then [] else attributeMarkup "start".toList (Number.digitsOf first)) ++
        (if tasks then attributeMarkup "class".toList "contains-task-list".toList else [])
  | .item true => attributeMarkup "class".toList "task-list-item".toList
  | _ => []

/-- The style of a cell. -/
def Align.style : Align -> List Char
  | .plain => []
  | .left => attributeMarkup "style".toList "text-align:left".toList
  | .center => attributeMarkup "style".toList "text-align:center".toList
  | .right => attributeMarkup "style".toList "text-align:right".toList

/-- Something that is noted while prose is rendered. -/
inductive Landmark where
  /-- A heading that is listed. -/
  | heading (entry : Heading.Entry)
  /-- A container that was rendered before. -/
  | container
  deriving DecidableEq, Repr

/-- How headings are counted: by the number of anchors given out, or not at all. -/
abbrev Count := Option Nat

/-- What the rendering of a block gives. -/
structure Output where
  markup : List Char
  landmarks : List Landmark
  count : Count

/-- Whether the content of a group follows its tag on the same line: it is a paragraph
without tags, or nothing. -/
def staysOnLine (g : Group) : Option Block -> Bool
  | some (.paragraph tight _) => tight
  | some (.stop h) => g.element = h.element
  | _ => false

/-- Whether a block is a paragraph without tags. -/
def isBare : Option Block -> Bool
  | some (.paragraph tight _) => tight
  | _ => false

/-- Whether a block is a task. -/
def isTaskStart : Option Block -> Bool
  | some (.start (.item task)) => task
  | _ => false

/-- A line end where a tag follows a paragraph without tags. -/
def lead (previous : Option Block) : List Char :=
  if isBare previous then ['\n'] else []

/-- A tag around a text. -/
def element (name attributes inner : List Char) : List Char :=
  '<' :: name ++ attributes ++ '>' :: inner ++ '<' :: '/' :: name ++ ">\n".toList

/-- The language that stands first behind a fence. -/
def language (info : List Char) : List Char :=
  match runsWithout isProseBlank (unescape info) with
  | [] => []
  | first :: _ => attributeMarkup "class".toList ("language-".toList ++ first)

/-- Code as a block. -/
def codeMarkup (attributes text : List Char) : List Char :=
  "<pre><code".toList ++ attributes ++ '>' :: escapeQuoted text ++ "</code></pre>\n".toList

/-- The name of the element of a heading. -/
def headingElement (level : Nat) : List Char :=
  'h' :: Number.digitsOf level

/-- Write a heading, numbered if headings are counted. -/
def renderHeading (previous : Option Block) (count : Count) (level : Nat)
    (source text : List Char) : Output :=
  let name := headingElement level
  match count with
  | none => ⟨lead previous ++ element name [] text, [], none⟩
  | some n =>
      let id := Heading.anchor source (n + 1)
      let note :=
        if Heading.isListed level then [Landmark.heading ⟨id, text, level⟩] else []
      ⟨lead previous ++ element name (attributeMarkup "id".toList id) text, note, some (n + 1)⟩

/-- Write a block between two others. -/
def renderBlock (defs : Link.Definitions) (previous next : Option Block) (count : Count) :
    Block -> Output
  | .start g =>
      ⟨lead previous ++ '<' :: g.element ++ g.attributes ++
        (if staysOnLine g next then ['>'] else ">\n".toList), [], count⟩
  | .stop g => ⟨'<' :: '/' :: g.element ++ ">\n".toList, [], count⟩
  | .paragraph tight text =>
      let inner := renderParts (content defs (isTaskStart previous) text)
      ⟨if tight then inner else lead previous ++ element ['p'] [] inner, [], count⟩
  | .heading level text =>
      renderHeading previous count level text (renderParts (content defs false text))
  | .cell header align text =>
      let name := if header then "th".toList else "td".toList
      ⟨lead previous ++ element name align.style (renderParts (content defs false text)), [], count⟩
  | .rule => ⟨lead previous ++ "<hr />\n".toList, [], count⟩
  | .code text => ⟨codeMarkup [] text, [], count⟩
  | .fence info text => ⟨codeMarkup (language info) text, [], count⟩
  | .markup text =>
      ⟨text, if Container.isBlock text then [.container] else [], count⟩
  | .definition _ _ => ⟨[], [], count⟩

/-- Write blocks one after the other. -/
def renderBlocks (defs : Link.Definitions) (previous : Option Block) (count : Count) :
    List Block -> Output
  | [] => ⟨[], [], count⟩
  | b :: rest =>
      let first := renderBlock defs previous rest.head? count b
      let others := renderBlocks defs (some b) first.count rest
      ⟨first.markup ++ others.markup, first.landmarks ++ others.landmarks, others.count⟩

/-- Line ends in one form, and no null characters. -/
def normalizeLines : List Char -> List Char
  | [] => []
  | '\r' :: '\n' :: rest => '\n' :: normalizeLines rest
  | '\r' :: rest => '\n' :: normalizeLines rest
  | c :: rest => (if c.toNat = 0 then Char.ofNat 0xFFFD else c) :: normalizeLines rest

/-- Render a text, counting its headings from a number on. -/
def renderFrom (count : Count) (source : List Char) : Output :=
  let all := blocks (normalizeLines source)
  renderBlocks (Block.definitions all) none count (all.filter Block.isShown)

/-- Render a text without anchors. -/
def renderPlain (source : List Char) : List Char :=
  (renderFrom none source).markup

end Prose
end Folio
