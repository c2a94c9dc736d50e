import Folio.Proofs.Prose.Fragment

/-!
# Code in rendered prose

What the parser reads as code is the content of a fence or of a code span. Each is written
in an element of its own, except the code spans in the description of an image, of which
only the text is kept.
-/

namespace Folio
namespace Prose

open Text Html

/-!
## Code that is read
-/

def Inline.code? : Inline -> Option (List Char)
  | .code s => some s
  | _ => none

def Inline.description? : Inline -> Option (List Char)
  | .image _ alt => some alt
  | _ => none

/-- The code spans in the text of a block. -/
def spanCode (defs : Link.Definitions) (s : List Char) : List (List Char) :=
  (parts defs s).filterMap Inline.code?

/-- The descriptions of the images in a text, as they stand there. -/
def descriptions (defs : Link.Definitions) (s : List Char) : List (List Char) :=
  let p := readWithLinks id defs linkDepth (Cursor.ofText s) ⟨[], [], 0, []⟩
  (settle p.items.reverse).filterMap Inline.description?

/-- The code spans in the descriptions of images, which may hold images again. -/
def describedCode (defs : Link.Definitions) : Nat -> List Char -> List (List Char)
  | 0, _ => []
  | fuel + 1, s => (descriptions defs s).flatMap fun inner =>
      (partsWithin defs true fuel inner).filterMap Inline.code? ++ describedCode defs fuel inner

/-- The code of a block that is written in elements. -/
def Block.codeTexts (defs : Link.Definitions) : Block -> List (List Char)
  | .paragraph _ text | .heading _ text | .cell _ _ text => spanCode defs text
  | .fence _ text => [text]
  | _ => []

/-- The code of a block that stands in descriptions. -/
def Block.describedTexts (defs : Link.Definitions) : Block -> List (List Char)
  | .paragraph _ text | .heading _ text | .cell _ _ text =>
      describedCode defs (text.length + 1) text
  | _ => []

/-- The code of a text that is written in elements. -/
def codeIn (source : List Char) : List (List Char) :=
  let all := blocks (normalizeLines source)
  all.flatMap (Block.codeTexts (Block.definitions all))

/-- The code of a text that stands in descriptions. -/
def describedIn (source : List Char) : List (List Char) :=
  let all := blocks (normalizeLines source)
  all.flatMap (Block.describedTexts (Block.definitions all))

/-!
## Code that is written
-/

def codeTag (attributes : List Attribute) : Tag :=
  ⟨"code".toList, attributes, ['>']⟩

def codeElement (attributes : List Attribute) (c : List Char) : List Fragment :=
  [.tag (codeTag attributes), .text c, .tag (.plain "/code".toList)]

/-- Addresses are looked for in texts only, so code stays. -/
theorem mem_linkParts {c : List Char} {list : List Inline} (h : .code c ∈ list) (escape : Bool) :
    .code c ∈ (linkParts escape list).parts := by
  induction list generalizing escape with
  | nil => cases h
  | cons part rest ih =>
      rcases List.mem_cons.1 h with hpart | hrest
      · subst hpart
        exact List.mem_cons_self
      · cases part with
        | text s =>
            have hmem := ih hrest false
            simp only [linkParts]
            split
            · exact List.mem_cons_of_mem _ hmem
            · exact List.mem_append_right _ hmem
        | markup s =>
            have hmem := ih hrest false
            simp only [linkParts]
            split
            · exact List.mem_cons_of_mem _ hmem
            · exact List.mem_cons_of_mem _ hmem
        | literal s => exact List.mem_cons_of_mem _ (ih hrest true)
        | _ => exact List.mem_cons_of_mem _ (ih hrest false)

theorem mem_linkified {c : List Char} {list : List Inline} (h : .code c ∈ list)
    (source : List Char) : .code c ∈ linkified source list := by
  unfold linkified
  split
  · exact mem_linkParts h false
  · exact h

theorem mem_taskParts {c : List Char} {list : List Inline} (h : .code c ∈ list)
    (source : List Char) : .code c ∈ taskParts source list := by
  cases list with
  | nil => cases h
  | cons part rest =>
      unfold taskParts
      cases part with
      | text s =>
          have hrest : .code c ∈ rest := (List.mem_cons.1 h).resolve_left (by simp)
          simp only
          split
          · exact List.mem_cons_of_mem _ (List.mem_cons_of_mem _ hrest)
          · exact List.mem_cons_of_mem _ hrest
      | _ =>
          simp only
          split
          · exact List.mem_cons_of_mem _ h
          · exact h

theorem mem_content {c s : List Char} {defs : Link.Definitions} (h : c ∈ spanCode defs s)
    (task : Bool) : .code c ∈ content defs task s := by
  have hpart : .code c ∈ parts defs s := by
    rcases List.mem_filterMap.1 h with ⟨part, hmem, hcode⟩
    cases part with
    | code d =>
        cases hcode
        exact hmem
    | _ => cases hcode
  unfold content
  simp only
  split
  · exact mem_linkified (mem_taskParts hpart s) _
  · exact mem_linkified hpart s

theorem infix_partFragments {c : List Char} {list : List Inline} (h : .code c ∈ list) :
    codeElement [] c <:+: partFragments list := by
  have hmem : Inline.fragments (.code c) ∈ list.map Inline.fragments := List.mem_map_of_mem h
  exact List.infix_of_mem_flatten hmem

/-- Each code of a block is written in an element. -/
theorem infix_block {defs : Link.Definitions} {b : Block} {c : List Char}
    (h : c ∈ b.codeTexts defs) (previous next : Option Block) (count : Count) :
    exists attributes, codeElement attributes c <:+: b.fragments defs previous next count := by
  have hinside : forall name attributes list, .code c ∈ list ->
      codeElement [] c <:+: leadFragments previous ++
        elementFragments name attributes (partFragments list) := by
    intro name attributes list hmem
    refine (infix_partFragments hmem).trans ⟨leadFragments previous ++
      [.tag ⟨name, attributes, ['>']⟩], [.tag (.plain ('/' :: name)), .text ['\n']], ?_⟩
    simp [elementFragments]
  cases b with
  | paragraph tight text =>
      have hmem := mem_content h (isTaskStart previous)
      refine ⟨[], ?_⟩
      show _ <:+: if tight then _ else _
      split
      · exact infix_partFragments hmem
      · exact hinside ['p'] [] _ hmem
  | heading level text => exact ⟨[], hinside _ _ _ (mem_content h false)⟩
  | cell header align text => exact ⟨[], hinside _ _ _ (mem_content h false)⟩
  | fence info text =>
      rw [Block.codeTexts, List.mem_singleton] at h
      subst h
      exact ⟨languageAttributes info, [.tag (.plain "pre".toList)],
        [.tag (.plain "/pre".toList), .text ['\n']], rfl⟩
  | _ => cases h

theorem infix_blockFragments {defs : Link.Definitions} {list : List Block} {b : Block}
    {c : List Char} (hb : b ∈ list) (h : c ∈ b.codeTexts defs) (previous : Option Block)
    (count : Count) :
    exists attributes, codeElement attributes c <:+: blockFragments defs previous count list := by
  induction list generalizing previous count with
  | nil => cases hb
  | cons first rest ih =>
      rw [blockFragments]
      rcases List.mem_cons.1 hb with hfirst | hrest
      · subst hfirst
        rcases infix_block h previous rest.head? count with ⟨attributes, hin⟩
        exact ⟨attributes, hin.trans (List.prefix_append _ _).isInfix⟩
      · rcases ih hrest (some first) (renderBlock defs previous rest.head? count first).count with
          ⟨attributes, hin⟩
        exact ⟨attributes, hin.trans (List.suffix_append _ _).isInfix⟩

/-- Each code of a text is written in an element. -/
theorem infix_fragmentsFrom {source c : List Char} (h : c ∈ codeIn source) (count : Count) :
    exists attributes, codeElement attributes c <:+: fragmentsFrom count source := by
  rcases List.mem_flatMap.1 h with ⟨b, hb, hc⟩
  have hshown : b.isShown = true := by
    cases b with
    | definition label target => cases hc
    | _ => rfl
  exact infix_blockFragments (List.mem_filter.2 ⟨hb, hshown⟩) hc none count

/-!
## What stands around a code element
-/

/-- The opening tag of a code element ends with its name or with a quote. -/
theorem markup_codeTag (attributes : List Attribute) :
    exists front c, (codeTag attributes).markup = front ++ [c, '>'] ∧ c ≠ 'p' := by
  rcases List.eq_nil_or_concat attributes with h | ⟨init, last, h⟩
  · subst h
    exact ⟨"<cod".toList, 'e', rfl, by decide⟩
  · subst h
    have hlast : exists front, last.markup = front ++ ['"'] := by
      cases last with
      | made name written => exact ⟨_, rfl⟩
      | taken name value => exact ⟨_, rfl⟩
    rcases hlast with ⟨front, hfront⟩
    refine ⟨'<' :: "code".toList ++ (init.flatMap Attribute.markup ++ front), '"', ?_, by decide⟩
    simp [codeTag, Tag.markup, hfront]

end Prose
end Folio
