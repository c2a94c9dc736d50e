import Folio.Text.Search

/-!
# Themes

A theme is a fixed set of fonts and colors. Which of them are used where is settled by
the stylesheet.
-/

namespace Folio
namespace Style

/-- The themes. -/
inductive Theme where
  | academic
  | modern
  | tech
  | startup
  | nature
  | classic
  | clean
  | elegant
  | bold
  | soft
  | newspaper
  deriving DecidableEq, Repr, Inhabited

namespace Theme

/-- All themes, in the order in which they are offered. -/
def all : List Theme :=
  [.academic, .modern, .tech, .startup, .nature, .classic,
   .clean, .elegant, .bold, .soft, .newspaper]

/-- The name of a theme. -/
def name : Theme -> List Char
  | .academic => "academic".toList
  | .modern => "modern".toList
  | .tech => "tech".toList
  | .startup => "startup".toList
  | .nature => "nature".toList
  | .classic => "classic".toList
  | .clean => "clean".toList
  | .elegant => "elegant".toList
  | .bold => "bold".toList
  | .soft => "soft".toList
  | .newspaper => "newspaper".toList

/-- The theme of a name. -/
def ofName? (s : List Char) : Option Theme :=
  all.find? fun t => t.name == s

theorem mem_all (t : Theme) : t ∈ all := by
  cases t <;> decide

/-- A theme is found by its name. -/
theorem ofName?_name (t : Theme) : ofName? t.name = some t := by
  cases t <;> decide

end Theme

/-- The fonts and colors of a theme. -/
structure Tokens where
  headerFont : List Char
  bodyFont : List Char
  heading : List Char
  border : List Char
  background : List Char
  accent : List Char
  text : List Char
  /-- Whether boxes are tinted and the title is underlined with the accent. -/
  colorful : Bool
  /-- Whether the lines of the text are filled on both sides. -/
  justified : Bool
  deriving DecidableEq, Repr

/-- The fonts and colors of a theme. -/
def Theme.tokens : Theme -> Tokens
  | .academic =>
    { headerFont := "\"David Libre\", serif".toList
      bodyFont := "\"David Libre\", serif".toList
      heading := "#1a202c".toList
      border := "#000".toList
      background := "#ffffff".toList
      accent := "#1a202c".toList
      text := "#1f2937".toList
      colorful := false
      justified := true }
  | .modern =>
    { headerFont := "\"Assistant\", sans-serif".toList
      bodyFont := "\"Assistant\", sans-serif".toList
      heading := "#1d4ed8".toList
      border := "#e5e7eb".toList
      background := "#ffffff".toList
      accent := "#3b82f6".toList
      text := "#374151".toList
      colorful := true
      justified := false }
  | .tech =>
    { headerFont := "\"Rubik\", sans-serif".toList
      bodyFont := "\"Rubik\", sans-serif".toList
      heading := "#6d28d9".toList
      border := "#ddd6fe".toList
      background := "#ffffff".toList
      accent := "#8b5cf6".toList
      text := "#111827".toList
      colorful := false
      justified := false }
  | .startup =>
    { headerFont := "\"Heebo\", sans-serif".toList
      bodyFont := "\"Heebo\", sans-serif".toList
      heading := "#be185d".toList
      border := "#fbcfe8".toList
      background := "#ffffff".toList
      accent := "#ec4899".toList
      text := "#4b5563".toList
      colorful := false
      justified := false }
  | .nature =>
    { headerFont := "\"Alef\", sans-serif".toList
      bodyFont := "\"Alef\", sans-serif".toList
      heading := "#15803d".toList
      border := "#bbf7d0".toList
      background := "#ffffff".toList
      accent := "#22c55e".toList
      text := "#14532d".toList
      colorful := false
      justified := false }
  | .classic =>
    { headerFont := "\"Frank Ruhl Libre\", serif".toList
      bodyFont := "\"Frank Ruhl Libre\", serif".toList
      heading := "#451a03".toList
      border := "#d6d3d1".toList
      background := "#ffffff".toList
      accent := "#78350f".toList
      text := "#292524".toList
      colorful := false
      justified := true }
  | .clean =>
    { headerFont := "\"IBM Plex Sans Hebrew\", sans-serif".toList
      bodyFont := "\"Assistant\", sans-serif".toList
      heading := "#0f172a".toList
      border := "#94a3b8".toList
      background := "#ffffff".toList
      accent := "#64748b".toList
      text := "#334155".toList
      colorful := false
      justified := false }
  | .elegant =>
    { headerFont := "\"Noto Serif Hebrew\", serif".toList
      bodyFont := "\"Assistant\", sans-serif".toList
      heading := "#881337".toList
      border := "#e2e8f0".toList
      background := "#ffffff".toList
      accent := "#be123c".toList
      text := "#1e293b".toList
      colorful := true
      justified := false }
  | .bold =>
    { headerFont := "\"Secular One\", sans-serif".toList
      bodyFont := "\"Heebo\", sans-serif".toList
      heading := "#000000".toList
      border := "#000000".toList
      background := "#ffffff".toList
      accent := "#f59e0b".toList
      text := "#000000".toList
      colorful := true
      justified := false }
  | .soft =>
    { headerFont := "\"Varela Round\", sans-serif".toList
      bodyFont := "\"Rubik\", sans-serif".toList
      heading := "#4c1d95".toList
      border := "#e9d5ff".toList
      background := "#ffffff".toList
      accent := "#a78bfa".toList
      text := "#4b5563".toList
      colorful := true
      justified := false }
  | .newspaper =>
    { headerFont := "\"Frank Ruhl Libre\", serif".toList
      bodyFont := "\"Heebo\", sans-serif".toList
      heading := "#111827".toList
      border := "#374151".toList
      background := "#ffffff".toList
      accent := "#dc2626".toList
      text := "#1f2937".toList
      colorful := false
      justified := true }

end Style
end Folio
