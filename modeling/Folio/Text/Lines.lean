/-!
# Lines

Texts that are fixed over many lines are given as a list of lines.
-/

namespace Folio
namespace Text

/-- Lines, each with its end. -/
def lines (ls : List String) : List Char :=
  ls.flatMap fun l => l.toList ++ ['\n']

@[simp] theorem lines_nil : lines [] = [] := rfl

@[simp] theorem lines_cons (l : String) (ls : List String) :
    lines (l :: ls) = l.toList ++ '\n' :: lines ls := by
  simp [lines]

end Text
end Folio
