import Folio.Math.Piece
import Folio.Number.Decimal

/-!
# Taking math out of a text

Before the prose is parsed, each piece of math is replaced by a token of letters and
digits, which no rule of the prose gives a meaning. The tokens share a prefix that
occurs nowhere in the source.
-/

namespace Folio
namespace Math

open Text

/-- A piece of math and the token that stands for it. -/
structure Segment where
  token : List Char
  expression : List Char
  display : Bool
  deriving DecidableEq, Repr

/-- A text with its math taken out. -/
structure Extraction where
  text : List Char
  segments : List Segment
  deriving DecidableEq, Repr

/-- The prefix of tokens in a source that does not hold it. -/
def tokenStem : List Char :=
  "MDCMATH".toList

/-- Lengthen a prefix until the source does not hold it. -/
def growStem (source : List Char) (stem : List Char) : Nat -> List Char
  | 0 => stem
  | fuel + 1 => if occurs stem source then growStem source (stem ++ ['Q']) fuel else stem

/-- The prefix of the tokens for a source. One longer than the source cannot occur in
it, so the search ends. -/
def freshStem (source : List Char) : List Char :=
  growStem source tokenStem source.length

/-- The token with a number. -/
def tokenOf (stem : List Char) (index : Nat) : List Char :=
  stem ++ Number.digitsOf index ++ ['X']

/-- Number the math among pieces from `index` on. -/
def numbered (stem : List Char) (index : Nat) : List Piece -> Extraction
  | [] => ⟨[], []⟩
  | .math expression display :: rest =>
      let token := tokenOf stem index
      let more := numbered stem (index + 1) rest
      ⟨token ++ more.text, ⟨token, expression, display⟩ :: more.segments⟩
  | .code s :: rest =>
      let more := numbered stem index rest
      ⟨s ++ more.text, more.segments⟩
  | .prose s :: rest =>
      let more := numbered stem index rest
      ⟨s ++ more.text, more.segments⟩

/-- Replace all math outside code by tokens. -/
def extract (source : List Char) : Extraction :=
  numbered (freshStem source) 0 (pieces source)

end Math
end Folio
