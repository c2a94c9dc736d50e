/-!
# Escaping for markup

Three strengths of escaping: for text between tags, for values in double quotes,
and for values in either kind of quotes. Each writes the characters that markup
gives a meaning as references and leaves all others alone.
-/

namespace Folio
namespace Html

/-- Escape the ampersand and the angle brackets. -/
def textChar (c : Char) : List Char :=
  if c = '&' then "&amp;".toList
  else if c = '<' then "&lt;".toList
  else if c = '>' then "&gt;".toList
  else [c]

/-- Escape for a value in double quotes. -/
def quotedChar (c : Char) : List Char :=
  if c = '"' then "&quot;".toList else textChar c

/-- Escape for a value in double or single quotes. -/
def attributeChar (c : Char) : List Char :=
  if c = '\'' then "&#x27;".toList else quotedChar c

/-- Escape text that stands between tags. -/
def escapeText (s : List Char) : List Char :=
  s.flatMap textChar

/-- Escape a value that stands in double quotes. -/
def escapeQuoted (s : List Char) : List Char :=
  s.flatMap quotedChar

/-- Escape a value that stands in quotes of either kind. -/
def escapeAttribute (s : List Char) : List Char :=
  s.flatMap attributeChar

@[simp] theorem escapeText_nil : escapeText [] = [] := rfl

@[simp] theorem escapeText_append (s t : List Char) :
    escapeText (s ++ t) = escapeText s ++ escapeText t := by
  simp [escapeText]

@[simp] theorem escapeQuoted_nil : escapeQuoted [] = [] := rfl

@[simp] theorem escapeQuoted_append (s t : List Char) :
    escapeQuoted (s ++ t) = escapeQuoted s ++ escapeQuoted t := by
  simp [escapeQuoted]

@[simp] theorem escapeAttribute_nil : escapeAttribute [] = [] := rfl

@[simp] theorem escapeAttribute_append (s t : List Char) :
    escapeAttribute (s ++ t) = escapeAttribute s ++ escapeAttribute t := by
  simp [escapeAttribute]

end Html
end Folio
