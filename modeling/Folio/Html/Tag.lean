import Folio.Text.Pattern
import Folio.Text.Blank

/-!
# Tags in running text

What counts as a tag inside prose: opening and closing tags with their attributes,
comments, processing instructions, declarations and character data.
-/

namespace Folio
namespace Html

open Text Pattern

/-- A blank between the parts of a tag. -/
def blank : Pattern := char isBlank

/-- The name of an element. -/
def tagName : Pattern :=
  seq (char isAsciiLetter) (many (char fun c => isAsciiLetter c || isAsciiDigit c || c = '-'))

/-- The name of an attribute. -/
def attributeName : Pattern :=
  seq (char fun c => isAsciiLetter c || c = '_' || c = ':')
    (many (char fun c =>
      isAsciiLetter c || isAsciiDigit c || c = ':' || c = '.' || c = '_' || c = '-'))

/-- The value of an attribute, bare or in quotes. -/
def attributeValue : Pattern :=
  oneOf
    [atLeastOne (char fun c =>
      !(c = '"' || c = '\'' || c = '=' || c = '<' || c = '>' || c = '`' ||
        Nat.ble c.toNat 0x20)),
     sequence [exactly '\'', many (noneOf ['\'']), exactly '\''],
     sequence [exactly '"', many (noneOf ['"']), exactly '"']]

/-- An attribute with the blanks before it. -/
def attributeText : Pattern :=
  sequence
    [atLeastOne blank, attributeName,
     optional (sequence [many blank, exactly '=', many blank, attributeValue])]

/-- An opening tag. -/
def openingTag : Pattern :=
  sequence
    [exactly '<', tagName, many attributeText, many blank, optional (exactly '/'), exactly '>']

/-- A closing tag. -/
def closingTag : Pattern :=
  sequence [literal ['<', '/'], tagName, many blank, exactly '>']

/-- A comment. -/
def comment : Pattern :=
  oneOf
    [sequence [literal "<!--".toList, optional (exactly '-'), exactly '>'],
     sequence
       [literal "<!--".toList,
        many (oneOf
          [noneOf ['-'], seq (exactly '-') (noneOf ['-']),
           seq (literal ['-', '-']) (noneOf ['>'])]),
        literal "-->".toList]]

/-- What is taken up to the first occurrence of `ending`, and that ending. -/
def upTo (ending : List Char) : Pattern :=
  seq (many (seq (notAhead (literal ending)) (char fun _ => true))) (literal ending)

/-- A processing instruction. -/
def instruction : Pattern :=
  seq (literal ['<', '?']) (upTo ['?', '>'])

/-- A declaration. -/
def declaration : Pattern :=
  sequence [literal ['<', '!'], char isAsciiLetter, many (noneOf ['>']), exactly '>']

/-- Character data. -/
def characterData : Pattern :=
  seq (literal "<![CDATA[".toList) (upTo "]]>".toList)

/-- Anything that counts as a tag. -/
def anyTag : Pattern :=
  oneOf [openingTag, closingTag, comment, instruction, declaration, characterData]

/-- Whether a tag opens an anchor. -/
def opensAnchor (tag : List Char) : Bool :=
  starts (sequence [exactly '<', letter 'a', char fun c => c = '>' || isBlank c]) tag

/-- Whether a tag closes an anchor. -/
def closesAnchor (tag : List Char) : Bool :=
  starts (sequence [literal ['<', '/'], letter 'a', many blank, exactly '>']) tag

end Html
end Folio
