import Folio.Style.Theme
import Folio.Value

/-!
# Choosing a theme

A theme is chosen by its name. A value that names none is refused with a message that
lists the names there are.
-/

namespace Folio
namespace Style

open Number

/-- A value that was given for a theme and names none. -/
structure UnknownTheme (α : Type) where
  given : Value α

/-- The names of all themes, as messages list them. -/
def Theme.listedNames : List Char :=
  Text.joinWith ", ".toList (Theme.all.map Theme.name)

/-- What is said of an unknown theme. -/
def UnknownTheme.message {α : Type} [Scalar α] (e : UnknownTheme α) : List Char :=
  "Unknown theme ".toList ++ e.given.shown ++ "; expected one of: ".toList ++ Theme.listedNames

/-- The theme that a value names. -/
def chooseTheme {α : Type} (v : Value α) : Except (UnknownTheme α) Theme :=
  match v with
  | .text s => (Theme.ofName? s).elim (.error ⟨v⟩) .ok
  | v => .error ⟨v⟩

/-- A theme is chosen by its name. -/
theorem chooseTheme_name {α : Type} (t : Theme) :
    chooseTheme (.text t.name : Value α) = .ok t := by
  simp [chooseTheme, Theme.ofName?_name]

end Style
end Folio
