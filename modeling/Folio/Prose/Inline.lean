import Folio.Link.Target

/-!
# Inline content

The text of a block is a sequence of inline parts. Emphasis and anchors are written as a
start and a stop with what they hold in between.
-/

namespace Folio
namespace Prose

/-- Kinds of emphasis. -/
inductive Stress where
  | emphasis
  | strong
  | strike
  deriving DecidableEq, Repr

/-- A part of the text of a block. -/
inductive Inline where
  | text (s : List Char)
  /-- Text that was written with a backslash or as a reference. -/
  | literal (s : List Char)
  | softBreak
  | hardBreak
  | code (s : List Char)
  | markup (s : List Char)
  | start (stress : Stress)
  | stop (stress : Stress)
  | anchor (target : Link.Target)
  | endAnchor
  | image (target : Link.Target) (alt : List Char)
  /-- The box in front of a task. -/
  | box (checked : Bool)
  deriving DecidableEq, Repr

namespace Inline

/-- The text that stands for inline parts where no markup may be. Text that was written
with a backslash or as a reference counts if `literals` says so. -/
def plainText (literals : Bool) (parts : List Inline) : List Char :=
  parts.flatMap fun part =>
    match part with
    | .text s => s
    | .literal s => if literals then s else []
    | .code s => s
    | .markup s => s
    | .image _ alt => alt
    | .softBreak => ['\n']
    | .hardBreak => ['\n']
    | _ => []

/-- Join neighbouring texts. -/
def joinTexts : List Inline -> List Inline
  | [] => []
  | .text s :: rest =>
      match joinTexts rest with
      | .text t :: others => .text (s ++ t) :: others
      | others => .text s :: others
  | part :: rest => part :: joinTexts rest

end Inline
end Prose
end Folio
