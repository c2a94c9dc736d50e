import Folio.Link.Bare
import Folio.Prose.Content

/-!
# Addresses in plain text

Once the parts of a text are known, addresses in its plain text become links, except
within links and anchors that are there already.
-/

namespace Folio
namespace Prose

open Text Pattern

/-- A quick test for an address: a scheme, a host name, or an at sign. -/
def mayHoldLink (s : List Char) : Bool :=
  s.contains '@' || hasScheme true s || Link.hostHint.occursIn s
where
  /-- Whether a scheme stands at the start of the text or behind a boundary. -/
  hasScheme (atStart : Bool) : List Char -> Bool
    | [] => false
    | c :: rest =>
        (atStart && (Link.schemeAt? (c :: rest)).isSome) ||
          (c ≠ '_' && (Link.isTextSeparator c || Link.isBoundary c) &&
            (Link.schemeAt? rest).isSome) ||
          hasScheme false rest

/-- How an address is shown. A scheme that is put in front of a host name, or of a mail
address that has one already, is taken away again. -/
def shownAddress (f : Link.Found) : List Char :=
  let shownWith (scheme : List Char) : List Char :=
    let shown := Url.display (scheme ++ f.text)
    (dropPrefix? scheme shown).getD shown
  match f.scheme with
  | .noWeb => shownWith "http://".toList
  | .mail => shownWith "mailto:".toList
  | .noMail =>
      if (word "mailto:".toList).starts f.text then shownWith "mailto:".toList
      else Url.display f.text
  | _ => Url.display f.text

/-- Put links in place of addresses. `passed` characters of the text were written. -/
def linkTexts (passed : Nat) (s : List Char) : List Link.Found -> List Inline
  | [] => if s.isEmpty then [] else [.text s]
  | f :: rest =>
      let href := Url.normalize f.address
      if Url.isAllowed href then
        let lead := s.take (f.start - passed)
        (if lead.isEmpty then [] else [.text lead]) ++
          .anchor ⟨href, []⟩ :: .text (shownAddress f) :: .endAnchor ::
          linkTexts f.stop (s.drop (f.stop - passed)) rest
      else
        linkTexts passed s rest

/-- Put links in place of the addresses in a text. An address at its start is left alone
behind an escape. -/
def linkText (afterEscape : Bool) (s : List Char) : List Inline :=
  if Link.holdsLink s then
    match Link.all s with
    | [] => [.text s]
    | f :: rest => linkTexts 0 s (if afterEscape && f.start = 0 then rest else f :: rest)
  else
    [.text s]

/-- Where the parts in front of a part stand, seen from the end of the text. -/
structure Behind where
  parts : List Inline
  /-- Whether a link closes behind them. -/
  inLink : Bool
  /-- How many anchors of the markup close behind them. -/
  anchors : Nat

/-- Put links in place of addresses, from the end of the text to its start. -/
def linkParts (afterEscape : Bool) : List Inline -> Behind
  | [] => ⟨[], false, 0⟩
  | part :: rest =>
      let isEscape :=
        match part with
        | .literal _ => true
        | _ => false
      let b := linkParts isEscape rest
      match part with
      | .endAnchor =>
          { b with parts := part :: b.parts, inLink := true }
      | .anchor _ => { b with parts := part :: b.parts, inLink := false }
      | .markup s =>
          if b.inLink then
            { b with parts := part :: b.parts }
          else
            let opened := if Html.opensAnchor s then b.anchors - 1 else b.anchors
            { b with
              parts := part :: b.parts
              anchors := if Html.closesAnchor s then opened + 1 else opened }
      | .text s =>
          if b.inLink || 0 < b.anchors then
            { b with parts := part :: b.parts }
          else
            { b with parts := linkText afterEscape s ++ b.parts }
      | _ => { b with parts := part :: b.parts }

/-- Put links in place of the addresses among the parts of a text. -/
def linkified (source : List Char) (parts : List Inline) : List Inline :=
  if mayHoldLink source then (linkParts false parts).parts else parts

/-- The parts of a task: the box in front of it, and its text without the brackets. A box
that no space follows is not shown. -/
def taskParts (source : List Char) (parts : List Inline) : List Inline :=
  let text :=
    match parts with
    | .text s :: rest => .text (s.drop 3) :: rest
    | _ => parts
  match source with
  | '[' :: box :: ']' :: ' ' :: _ => .box (box ≠ ' ') :: text
  | _ => text

/-- The parts of the text of a block. -/
def content (definitions : Link.Definitions) (task : Bool) (source : List Char) :
    List Inline :=
  let found := parts definitions source
  if task then linkified (source.drop 3) (taskParts source found) else linkified source found

end Prose
end Folio
