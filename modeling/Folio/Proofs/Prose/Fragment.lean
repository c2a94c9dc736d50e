import Folio.Prose.Render

/-!
# The fragments of rendered prose

Rendered prose is text, tags that the renderer writes, and markup that is passed on as it
was given. `writeAll_fragmentsFrom` says that these fragments, one after the other, are what
the renderer writes.
-/

namespace Folio
namespace Prose

open Text Html

/-!
## Tags
-/

inductive Attribute where
  /-- A value that the renderer makes, in the form in which it is written. -/
  | made (name written : List Char)
  /-- A value that is taken from the text. -/
  | taken (name value : List Char)
  deriving DecidableEq, Repr

/-- A tag, with a slash in front of its name if it closes. -/
structure Tag where
  name : List Char
  attributes : List Attribute
  /-- What stands behind the attributes, with the closing angle. -/
  ending : List Char
  deriving DecidableEq, Repr

def Attribute.markup : Attribute -> List Char
  | .made name written => ' ' :: name ++ "=\"".toList ++ written ++ ['"']
  | .taken name value => attributeMarkup name value

/-- An attribute whose value does not come from the text. -/
def Attribute.fixed (name value : List Char) : Attribute :=
  .made name (escapeQuoted value)

def Tag.markup (t : Tag) : List Char :=
  '<' :: t.name ++ t.attributes.flatMap Attribute.markup ++ t.ending

def Attribute.taken? : Attribute -> Option (List Char)
  | .made _ _ => none
  | .taken _ value => some value

/-- The values that a tag takes from the text. -/
def Tag.taken (t : Tag) : List (List Char) :=
  t.attributes.filterMap Attribute.taken?

def Tag.plain (name : List Char) : Tag :=
  ⟨name, [], ['>']⟩

inductive Fragment where
  | text (s : List Char)
  | tag (t : Tag)
  /-- Markup that is passed on as it was given. -/
  | passed (s : List Char)
  deriving DecidableEq, Repr

def Fragment.markup : Fragment -> List Char
  | .text s => escapeQuoted s
  | .tag t => t.markup
  | .passed s => s

def writeAll (fragments : List Fragment) : List Char :=
  fragments.flatMap Fragment.markup

def Fragment.tag? : Fragment -> Option Tag
  | .tag t => some t
  | _ => none

def tagsOf (fragments : List Fragment) : List Tag :=
  fragments.filterMap Fragment.tag?

@[simp] theorem writeAll_nil : writeAll [] = [] := rfl

@[simp] theorem writeAll_cons (f : Fragment) (rest : List Fragment) :
    writeAll (f :: rest) = f.markup ++ writeAll rest := rfl

@[simp] theorem writeAll_append (a b : List Fragment) :
    writeAll (a ++ b) = writeAll a ++ writeAll b :=
  List.flatMap_append

@[simp] theorem markup_fixed (name value : List Char) :
    (Attribute.fixed name value).markup = attributeMarkup name value := rfl

@[simp] theorem markup_taken (name value : List Char) :
    (Attribute.taken name value).markup = attributeMarkup name value := rfl

@[simp] theorem escapeQuoted_lineEnd : escapeQuoted ['\n'] = ['\n'] := rfl

@[simp] theorem markup_text (s : List Char) : (Fragment.text s).markup = escapeQuoted s := rfl

@[simp] theorem markup_passed (s : List Char) : (Fragment.passed s).markup = s := rfl

theorem markup_tag (name ending : List Char) (attributes : List Attribute) :
    (Fragment.tag ⟨name, attributes, ending⟩).markup =
      '<' :: name ++ attributes.flatMap Attribute.markup ++ ending := rfl

@[simp] theorem markup_plain (name : List Char) :
    (Fragment.tag (.plain name)).markup = '<' :: name ++ ['>'] := by
  simp [Tag.plain, markup_tag]

/-!
## Inline parts
-/

def titleAttribute (title : List Char) : List Attribute :=
  if title.isEmpty then [] else [.taken "title".toList title]

def anchorTag (target : Link.Target) : Tag :=
  ⟨['a'], .taken "href".toList target.href :: titleAttribute target.title, ['>']⟩

def imageTag (target : Link.Target) (alt : List Char) : Tag :=
  ⟨"img".toList,
    .taken "src".toList target.href :: .taken "alt".toList alt :: titleAttribute target.title,
    " />".toList⟩

def breakTag : Tag :=
  ⟨"br".toList, [], " />".toList⟩

/-- The tag of the box in front of a task. -/
def boxTag (checked : Bool) : Tag :=
  ⟨"input".toList,
    [.made "type".toList "checkbox".toList, .made "class".toList "task-checkbox".toList],
    " disabled".toList ++ (if checked then " checked".toList else []) ++ ['>']⟩

def Inline.fragments : Inline -> List Fragment
  | .text s => [.text s]
  | .literal s => [.text s]
  | .softBreak => [.tag breakTag, .text ['\n']]
  | .hardBreak => [.tag breakTag, .text ['\n']]
  | .code s => [.tag (.plain "code".toList), .text s, .tag (.plain "/code".toList)]
  | .markup s =>
      if occurs boxClass s then [.tag (boxTag (occurs "checked=".toList s))] else [.passed s]
  | .start stress => [.tag (.plain stress.element)]
  | .stop stress => [.tag (.plain ('/' :: stress.element))]
  | .anchor target => [.tag (anchorTag target)]
  | .endAnchor => [.tag (.plain "/a".toList)]
  | .image target alt => [.tag (imageTag target alt)]
  | .box checked => [.tag (boxTag checked)]

def partFragments (parts : List Inline) : List Fragment :=
  parts.flatMap Inline.fragments

theorem flatMap_titleAttribute (title : List Char) :
    (titleAttribute title).flatMap Attribute.markup = titleMarkup title := by
  unfold titleAttribute titleMarkup
  split
  · rfl
  · simp

theorem markup_boxTag (checked : Bool) : (boxTag checked).markup = boxMarkup checked := by
  cases checked <;> rfl

theorem writeAll_fragments (part : Inline) : writeAll part.fragments = part.render := by
  cases part with
  | text s | literal s => exact List.append_nil (escapeQuoted s)
  | softBreak | hardBreak | endAnchor => rfl
  | code s =>
      show _ = "<code>".toList ++ escapeQuoted s ++ "</code>".toList
      show writeAll [.tag (.plain "code".toList), .text s, .tag (.plain "/code".toList)] = _
      simp
  | markup s =>
      show writeAll (if occurs boxClass s then _ else _) = if occurs boxClass s then _ else _
      split
      · exact (List.append_nil _).trans (markup_boxTag (occurs "checked=".toList s))
      · exact List.append_nil s
  | start stress =>
      show writeAll [.tag (.plain stress.element)] = '<' :: stress.element ++ ['>']
      simp
  | stop stress =>
      show writeAll [.tag (.plain ('/' :: stress.element))] = '<' :: '/' :: stress.element ++ ['>']
      simp
  | anchor target =>
      show writeAll [.tag (anchorTag target)] =
        "<a".toList ++ attributeMarkup "href".toList target.href ++ titleMarkup target.title ++
          ['>']
      simp [anchorTag, markup_tag, flatMap_titleAttribute]
  | image target alt =>
      show writeAll [.tag (imageTag target alt)] =
        "<img".toList ++ attributeMarkup "src".toList target.href ++
          attributeMarkup "alt".toList alt ++ titleMarkup target.title ++ " />".toList
      simp [imageTag, markup_tag, flatMap_titleAttribute]
  | box checked => exact (List.append_nil _).trans (markup_boxTag checked)

theorem writeAll_partFragments (parts : List Inline) :
    writeAll (partFragments parts) = renderParts parts := by
  induction parts with
  | nil => rfl
  | cons part rest ih =>
      rw [partFragments, List.flatMap_cons, writeAll_append, writeAll_fragments]
      exact congrArg _ ih

/-!
## Blocks
-/

def Group.tagAttributes : Group -> List Attribute
  | .bullets true => [.fixed "class".toList "contains-task-list".toList]
  | .numbers first tasks =>
      (if first = 1 then [] else [.fixed "start".toList (Number.digitsOf first)]) ++
        (if tasks then [.fixed "class".toList "contains-task-list".toList] else [])
  | .item true => [.fixed "class".toList "task-list-item".toList]
  | _ => []

def Align.tagAttributes : Align -> List Attribute
  | .plain => []
  | .left => [.fixed "style".toList "text-align:left".toList]
  | .center => [.fixed "style".toList "text-align:center".toList]
  | .right => [.fixed "style".toList "text-align:right".toList]

def languageAttributes (info : List Char) : List Attribute :=
  match runsWithout isProseBlank (unescape info) with
  | [] => []
  | first :: _ => [.taken "class".toList ("language-".toList ++ first)]

/-- The attribute for the anchor of a heading, if headings are counted. -/
def anchorAttributes (source : List Char) (count : Count) : List Attribute :=
  match count with
  | none => []
  | some n => [.fixed "id".toList (Heading.anchor source (n + 1))]

/-- The line end where a tag follows a paragraph without tags. -/
def leadFragments (previous : Option Block) : List Fragment :=
  if isBare previous then [.text ['\n']] else []

def elementFragments (name : List Char) (attributes : List Attribute) (inner : List Fragment) :
    List Fragment :=
  .tag ⟨name, attributes, ['>']⟩ :: inner ++ [.tag (.plain ('/' :: name)), .text ['\n']]

def codeFragments (attributes : List Attribute) (text : List Char) : List Fragment :=
  [.tag (.plain "pre".toList), .tag ⟨"code".toList, attributes, ['>']⟩, .text text,
    .tag (.plain "/code".toList), .tag (.plain "/pre".toList), .text ['\n']]

/-- The fragments of a block between two others. -/
def Block.fragments (defs : Link.Definitions) (previous next : Option Block) (count : Count) :
    Block -> List Fragment
  | .start g =>
      leadFragments previous ++ .tag ⟨g.element, g.tagAttributes, ['>']⟩ ::
        (if staysOnLine g next then [] else [.text ['\n']])
  | .stop g => [.tag (.plain ('/' :: g.element)), .text ['\n']]
  | .paragraph tight text =>
      let inner := partFragments (content defs (isTaskStart previous) text)
      if tight then inner else leadFragments previous ++ elementFragments ['p'] [] inner
  | .heading level text =>
      leadFragments previous ++ elementFragments (headingElement level)
        (anchorAttributes text count) (partFragments (content defs false text))
  | .cell header align text =>
      leadFragments previous ++ elementFragments (if header then "th".toList else "td".toList)
        align.tagAttributes (partFragments (content defs false text))
  | .rule => leadFragments previous ++ [.tag ⟨"hr".toList, [], " />".toList⟩, .text ['\n']]
  | .code text => codeFragments [] text
  | .fence info text => codeFragments (languageAttributes info) text
  | .markup text => [.passed text]
  | .definition _ _ => []

def blockFragments (defs : Link.Definitions) (previous : Option Block) (count : Count) :
    List Block -> List Fragment
  | [] => []
  | b :: rest =>
      b.fragments defs previous rest.head? count ++
        blockFragments defs (some b) (renderBlock defs previous rest.head? count b).count rest

/-- The fragments of a rendered text. -/
def fragmentsFrom (count : Count) (source : List Char) : List Fragment :=
  let all := blocks (normalizeLines source)
  blockFragments (Block.definitions all) none count (all.filter Block.isShown)

theorem flatMap_tagAttributes_group (g : Group) :
    g.tagAttributes.flatMap Attribute.markup = g.attributes := by
  cases g with
  | bullets tasks | item tasks =>
      cases tasks <;> simp [Group.tagAttributes, Group.attributes]
  | numbers first tasks =>
      simp only [Group.tagAttributes, Group.attributes, List.flatMap_append]
      congr 1
      · split <;> simp
      · split <;> simp
  | quote | table | head | body | row => rfl

theorem flatMap_tagAttributes_align (a : Align) :
    a.tagAttributes.flatMap Attribute.markup = a.style := by
  cases a <;> simp [Align.tagAttributes, Align.style]

theorem flatMap_languageAttributes (info : List Char) :
    (languageAttributes info).flatMap Attribute.markup = language info := by
  unfold languageAttributes language
  cases runsWithout isProseBlank (unescape info) <;> simp

theorem writeAll_leadFragments (previous : Option Block) :
    writeAll (leadFragments previous) = lead previous := by
  unfold leadFragments lead
  split <;> rfl

theorem writeAll_elementFragments (name : List Char) (attributes : List Attribute)
    (inner : List Fragment) :
    writeAll (elementFragments name attributes inner) =
      element name (attributes.flatMap Attribute.markup) (writeAll inner) := by
  simp [elementFragments, element, markup_tag]

theorem writeAll_codeFragments (attributes : List Attribute) (text : List Char) :
    writeAll (codeFragments attributes text) =
      codeMarkup (attributes.flatMap Attribute.markup) text := by
  show _ = "<pre><code".toList ++ attributes.flatMap Attribute.markup ++
    '>' :: escapeQuoted text ++ "</code></pre>\n".toList
  simp [codeFragments, markup_tag]

theorem writeAll_block (defs : Link.Definitions) (previous next : Option Block) (count : Count)
    (b : Block) :
    writeAll (b.fragments defs previous next count) =
      (renderBlock defs previous next count b).markup := by
  cases b with
  | start g =>
      show writeAll (leadFragments previous ++ .tag ⟨g.element, g.tagAttributes, ['>']⟩ ::
          (if staysOnLine g next then [] else [.text ['\n']])) =
        lead previous ++ '<' :: g.element ++ g.attributes ++
          (if staysOnLine g next then ['>'] else ">\n".toList)
      rw [writeAll_append, writeAll_cons, writeAll_leadFragments, markup_tag,
        flatMap_tagAttributes_group]
      split <;> simp
  | stop g =>
      show writeAll [.tag (.plain ('/' :: g.element)), .text ['\n']] =
        '<' :: '/' :: g.element ++ ">\n".toList
      simp
  | paragraph tight text =>
      show writeAll (if tight then _ else _) = if tight then _ else _
      split
      · exact writeAll_partFragments _
      · rw [writeAll_append, writeAll_leadFragments, writeAll_elementFragments,
          writeAll_partFragments]
        rfl
  | heading level text =>
      show writeAll (leadFragments previous ++ elementFragments (headingElement level)
        (anchorAttributes text count) (partFragments (content defs false text))) = _
      rw [writeAll_append, writeAll_leadFragments, writeAll_elementFragments,
        writeAll_partFragments]
      cases count with
      | none => rfl
      | some n =>
          rw [anchorAttributes, List.flatMap_singleton]
          rfl
  | cell header align text =>
      show writeAll (leadFragments previous ++ elementFragments
        (if header then "th".toList else "td".toList) align.tagAttributes
        (partFragments (content defs false text))) = _
      rw [writeAll_append, writeAll_leadFragments, writeAll_elementFragments,
        writeAll_partFragments, flatMap_tagAttributes_align]
      rfl
  | rule =>
      show writeAll (leadFragments previous ++ [.tag ⟨"hr".toList, [], " />".toList⟩,
        .text ['\n']]) = _
      rw [writeAll_append, writeAll_leadFragments]
      rfl
  | code text => exact writeAll_codeFragments [] text
  | fence info text =>
      show writeAll (codeFragments (languageAttributes info) text) = codeMarkup (language info) text
      rw [writeAll_codeFragments, flatMap_languageAttributes]
  | markup text => exact List.append_nil text
  | definition label target => rfl

theorem writeAll_blockFragments (defs : Link.Definitions) (previous : Option Block)
    (count : Count) (blocks : List Block) :
    writeAll (blockFragments defs previous count blocks) =
      (renderBlocks defs previous count blocks).markup := by
  induction blocks generalizing previous count with
  | nil => rfl
  | cons b rest ih =>
      rw [blockFragments, writeAll_append, writeAll_block, ih]
      rfl

theorem writeAll_fragmentsFrom (count : Count) (source : List Char) :
    writeAll (fragmentsFrom count source) = (renderFrom count source).markup :=
  writeAll_blockFragments _ none count _

end Prose
end Folio
