import Folio.Proofs.Heading.Calls

/-!
# The inline parts of headings

The text of a heading is written from inline parts. Here the headings of a text are gathered
together with these parts (`titlesFrom`, `Call.titles`), in the order in which they are gathered
as entries.
-/

namespace Folio

open Heading

namespace Prose

/-- A heading with the inline parts that its text is written from. -/
structure Title where
  entry : Entry
  parts : List Inline
  written : entry.text = renderParts parts

/-- The heading that a block is, if it is one, where `n` headings were counted before. -/
def Block.titles (defs : Link.Definitions) (n : Nat) : Block -> List Title
  | .heading level text =>
      [⟨⟨anchor text (n + 1), renderParts (content defs false text), level⟩,
        content defs false text, rfl⟩]
  | _ => []

def blockTitles (defs : Link.Definitions) (n : Nat) : List Block -> List Title
  | [] => []
  | b :: rest =>
      b.titles defs n ++ blockTitles defs (n + (b.titles defs n).length) rest

/-- The headings of a text, where `n` headings were counted before. -/
def titlesFrom (n : Nat) (source : List Char) : List Title :=
  let all := blocks (normalizeLines source)
  blockTitles (Block.definitions all) n (all.filter Block.isShown)

theorem map_entry_titles (defs : Link.Definitions) (n : Nat) (b : Block) :
    (b.titles defs n).map Title.entry = b.headings defs n := by
  cases b <;> rfl

theorem map_entry_blockTitles (defs : Link.Definitions) (n : Nat) (blocks : List Block) :
    (blockTitles defs n blocks).map Title.entry = blockHeadings defs n blocks := by
  induction blocks generalizing n with
  | nil => rfl
  | cons b rest ih =>
      rw [blockTitles, List.map_append, ih, blockHeadings, ← map_entry_titles, List.length_map]

theorem map_entry_titlesFrom (n : Nat) (source : List Char) :
    (titlesFrom n source).map Title.entry = headingsFrom n source :=
  map_entry_blockTitles _ n _

end Prose

namespace Heading

open Prose

/-- The headings that a call renders. -/
def Call.titles (a : Anchors) : Call -> List Title
  | text source => titlesFrom a.count source
  | body source => titlesFrom a.count source
  | next _ => []
  | flush => []

theorem Call.map_entry_titles (a : Anchors) (c : Call) :
    (c.titles a).map Title.entry = c.headings a := by
  cases c with
  | text source | body source => exact map_entry_titlesFrom a.count source
  | next title | flush => rfl

theorem Call.map_entry_gather (a : Anchors) (calls : List Call) :
    (gather titles a calls).map Title.entry = gather headings a calls := by
  induction calls generalizing a with
  | nil => rfl
  | cons c rest ih => rw [gather_cons, List.map_append, Call.map_entry_titles, ih, gather_cons]

end Heading
end Folio
