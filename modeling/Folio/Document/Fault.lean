import Folio.Settings

/-!
# Faults of documents

A document cannot be rendered with settings whose numbers are too large to be written,
nor under a title that is no text. The title is looked at last.
-/

namespace Folio
namespace Document

/-- Why a document cannot be rendered. -/
inductive Fault where
  | conversion (e : ConversionError)
  /-- The title is no text. -/
  | titleNotText
  deriving DecidableEq, Repr

/-- The title under which a document is shown; it is empty where there is none. -/
def titleOf {α : Type} [Number.Scalar α] (s : Settings α) : Except Fault (List Char) :=
  match s.titleText? with
  | some title => .ok title
  | none => .error .titleNotText

end Document
end Folio
