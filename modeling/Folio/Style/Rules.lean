import Folio.Style.Preset
import Folio.Style.Sheet

/-!
# The rules of the stylesheet

Every rule takes its values from one record, the look of the document, so it is plain
which settings reach the stylesheet.
-/

namespace Folio
namespace Style

/-- The values that the rules use. -/
structure Look where
  tokens : Tokens
  padding : List Char
  fontSize : List Char
  lineHeight : List Char
  titleSize : List Char
  boxPadding : List Char
  boxMargin : List Char
  align : List Char
  /-- The side on which lines start. -/
  side : List Char
  farSide : List Char
  headerRule : List Char
  theoryBackground : List Char
  theoryBorder : List Char
  zebra : List Char

/-- A color of three digits with all of them doubled. -/
def sixDigits (color : List Char) : List Char :=
  match color with
  | ['#', r, g, b] => ['#', r, r, g, g, b, b]
  | _ => color

/-- A color with an opacity. -/
def tint (color opacity : List Char) : List Char :=
  sixDigits color ++ opacity

/-- The containers that are drawn as boxes. -/
def boxNames : List (List Char) :=
  [".theory".toList, ".solution".toList, ".example".toList, ".proof".toList,
   ".warning".toList, ".code-snippet".toList, ".side-note".toList]

/-- The selector of all boxes. -/
def boxes : List Char :=
  Text.joinWith ", ".toList boxNames

/-- The selector of all that is not broken between columns. -/
def unbroken : List Char :=
  Text.joinWith ", ".toList
    (boxNames ++ [".no-break".toList, "table".toList, "pre".toList, ".math-display".toList])

/-- The page. -/
def pageRules (k : Look) : List Part :=
  [.rule ".preview-page".toList
     ["box-sizing: border-box;".toList,
      "width: 100%;".toList,
      "max-width: 21cm;".toList,
      "min-height: 29.7cm;".toList,
      "margin: 0 auto;".toList,
      "padding: ".toList ++ k.padding ++ ";".toList,
      "background-color: ".toList ++ k.tokens.background ++ ";".toList,
      "box-shadow: 0 10px 25px rgba(0,0,0,0.15);".toList,
      "transform-origin: top center;".toList]]

/-- The text as a whole. -/
def contentRules (k : Look) : List Part :=
  [.rule ".preview-content".toList
     ["font-family: ".toList ++ k.tokens.bodyFont ++ ";".toList,
      "line-height: ".toList ++ k.lineHeight ++ ";".toList,
      "font-size: ".toList ++ k.fontSize ++ ";".toList,
      "color: ".toList ++ k.tokens.text ++ ";".toList,
      "text-align: ".toList ++ k.align ++ ";".toList,
      "background-color: ".toList ++ k.tokens.background ++ ";".toList,
      "min-height: 100%;".toList,
      "width: 100%;".toList,
      "overflow-wrap: break-word;".toList,
      "word-wrap: break-word;".toList]]

/-- The header with title and date. -/
def headerRules (k : Look) : List Part :=
  [.rule ".doc-header".toList
     ["text-align: center;".toList,
      "width: 100%;".toList,
      "margin-bottom: 2em;".toList,
      "border-bottom: ".toList ++ k.headerRule ++ ";".toList,
      "padding-bottom: 1em;".toList,
      "unicode-bidi: isolate;".toList],
   .rule ".preview-content .doc-header h1.doc-title".toList
     ["font-family: ".toList ++ k.tokens.headerFont ++ ";".toList,
      "text-align: center;".toList,
      "font-size: ".toList ++ k.titleSize ++ ";".toList,
      "font-weight: 800;".toList,
      "margin-top: 0;".toList,
      "margin-bottom: 0.2rem;".toList,
      "line-height: 1.2;".toList,
      "color: ".toList ++ k.tokens.heading ++ ";".toList,
      "border-bottom: none;".toList,
      "padding-bottom: 0;".toList],
   .rule ".doc-header .doc-date".toList
     ["text-align: center;".toList,
      "font-size: 0.9em;".toList,
      "color: #6b7280;".toList,
      "font-family: ".toList ++ k.tokens.bodyFont ++ ";".toList,
      "opacity: 0.8;".toList,
      "margin: 0;".toList]]

/-- The table of contents. -/
def contentsRules (k : Look) : List Part :=
  [.note "Table of contents".toList,
   .rule ".doc-toc".toList
     ["border-".toList ++ k.side ++ ": 3px solid ".toList ++ k.tokens.accent ++ ";".toList,
      "background-color: ".toList ++ tint k.tokens.accent "0d".toList ++ ";".toList,
      "padding: 0.6em 1em;".toList,
      "margin: 0 0 1.5em 0;".toList,
      "unicode-bidi: isolate;".toList],
   .rule ".doc-toc .toc-title".toList
     ["font-family: ".toList ++ k.tokens.headerFont ++ ";".toList,
      "font-weight: 700;".toList,
      "color: ".toList ++ k.tokens.heading ++ ";".toList,
      "margin-bottom: 0.4em;".toList],
   .rule ".doc-toc ul".toList
     ["list-style: none;".toList,
      "margin: 0;".toList,
      "padding: 0;".toList],
   .rule ".doc-toc li".toList
     ["margin: 0.15em 0;".toList],
   .rule ".doc-toc li.toc-level-2".toList
     ["padding-inline-start: 1.2em;".toList,
      "font-size: 0.95em;".toList],
   .rule ".doc-toc a".toList
     ["color: ".toList ++ k.tokens.text ++ ";".toList,
      "text-decoration: none;".toList],
   .rule ".doc-toc a.active".toList
     ["color: ".toList ++ k.tokens.accent ++ ";".toList,
      "font-weight: 700;".toList]]

/-- Math. -/
def mathRules : List Part :=
  [.note "Math is always typeset left-to-right, isolated from rtl flow".toList,
   .rule ".math-inline, .math-display, mjx-container".toList
     ["direction: ltr !important;".toList,
      "unicode-bidi: isolate;".toList],
   .rule ".math-inline".toList
     ["display: inline-block;".toList],
   .rule ".math-display".toList
     ["display: block;".toList,
      "text-align: center;".toList,
      "margin: 1em 0;".toList,
      "overflow: hidden;".toList],
   .rule ".math-error".toList
     ["color: #dc2626;".toList,
      "font-family: monospace;".toList,
      "border-bottom: 1px dashed #dc2626;".toList],
   .rule
     ("strong .math-inline, b .math-inline, h1 .math-inline, h2 .math-inline, ".toList ++
       "h3 .math-inline, .important .math-inline".toList)
     ["font-weight: bold;".toList]]

/-- Headings. -/
def headingRules (k : Look) : List Part :=
  [.note "Headings".toList,
   .rule ".preview-content h1, .preview-content h2, .preview-content h3".toList
     ["font-family: ".toList ++ k.tokens.headerFont ++ ";".toList,
      "color: ".toList ++ k.tokens.heading ++ ";".toList,
      "font-weight: 700;".toList,
      "margin-top: 1.5em;".toList,
      "margin-bottom: 0.8em;".toList,
      "unicode-bidi: isolate;".toList],
   .line ".preview-content h1".toList
     ("font-size: 1.8em; border-bottom: 2px solid ".toList ++ k.tokens.border ++
       "; padding-bottom: 0.3em;".toList),
   .line ".preview-content h2".toList "font-size: 1.5em;".toList,
   .line ".preview-content h3".toList
     ("font-size: 1.25em; color: ".toList ++ k.tokens.accent ++ ";".toList)]

/-- Paragraphs, lists and tasks. -/
def textRules (k : Look) : List Part :=
  [.rule ".preview-content p".toList
     ["margin-bottom: 1em;".toList,
      "unicode-bidi: isolate;".toList],
   .rule ".preview-content ul, .preview-content ol".toList
     ["margin-bottom: 1em;".toList,
      "padding-inline-start: 2em;".toList,
      "unicode-bidi: isolate;".toList],
   .rule ".preview-content li".toList
     ["margin-bottom: 0.5em;".toList,
      "unicode-bidi: isolate;".toList],
   .rule ".preview-content ul li::marker".toList
     ["color: ".toList ++ k.tokens.accent ++ ";".toList,
      "font-size: 1.2em;".toList],
   .rule ".preview-content ol li::marker".toList
     ["color: ".toList ++ k.tokens.accent ++ ";".toList,
      "font-weight: bold;".toList,
      "font-family: ".toList ++ k.tokens.headerFont ++ ";".toList],
   .rule ".preview-content li.task-list-item".toList
     ["list-style: none;".toList],
   .rule ".task-checkbox".toList
     ["accent-color: ".toList ++ k.tokens.accent ++ ";".toList,
      "margin-inline-end: 0.4em;".toList,
      "vertical-align: middle;".toList,
      "pointer-events: none;".toList]]

/-- Tables. -/
def tableRules (k : Look) : List Part :=
  [.note "Tables".toList,
   .rule ".preview-content table".toList
     ["width: 100%;".toList,
      "border-collapse: collapse;".toList,
      "margin: 1.5em 0;".toList,
      "font-size: 0.95em;".toList,
      "color: ".toList ++ k.tokens.text ++ ";".toList,
      "unicode-bidi: isolate;".toList],
   .rule ".preview-content th".toList
     ["background-color: ".toList ++ tint k.tokens.accent "15".toList ++ ";".toList,
      "font-family: ".toList ++ k.tokens.headerFont ++ ";".toList,
      "font-weight: bold;".toList,
      "border-bottom: 2px solid ".toList ++ k.tokens.accent ++ ";".toList,
      "padding: 0.75em;".toList,
      "text-align: ".toList ++ k.align ++ ";".toList,
      "color: ".toList ++ k.tokens.heading ++ ";".toList],
   .rule ".preview-content td".toList
     ["border-bottom: 1px solid ".toList ++ k.tokens.border ++ ";".toList,
      "padding: 0.75em;".toList,
      "text-align: ".toList ++ k.align ++ ";".toList],
   .rule ".preview-content tr:nth-child(even)".toList
     ["background-color: ".toList ++ k.zebra ++ ";".toList]]

/-- Boxes. -/
def boxRules (k : Look) : List Part :=
  [.note "Semantic containers".toList,
   .rule boxes
     ["border-radius: 4px;".toList,
      "padding: ".toList ++ k.boxPadding ++ ";".toList,
      "margin: ".toList ++ k.boxMargin ++ ";".toList,
      "unicode-bidi: isolate;".toList],
   .rule ".theory".toList
     ["background-color: ".toList ++ k.theoryBackground ++ ";".toList,
      "border-".toList ++ k.side ++ ": 4px solid ".toList ++ k.tokens.accent ++ ";".toList,
      k.theoryBorder],
   .rule ".solution".toList
     ["background-color: #f0fdf4;".toList,
      "border: 1px solid #86efac;".toList],
   .rule ".example".toList
     ["background-color: ".toList ++ tint k.tokens.accent "08".toList ++ ";".toList,
      "border: 1px dashed ".toList ++ k.tokens.border ++ ";".toList],
   .rule ".proof".toList
     ["border-".toList ++ k.side ++ ": 2px solid ".toList ++ k.tokens.border ++ ";".toList],
   .rule ".proof::after".toList
     ["content: \"\\220E\";".toList,
      "display: block;".toList,
      "text-align: ".toList ++ k.farSide ++ ";".toList],
   .rule ".warning".toList
     ["background-color: #fffbeb;".toList,
      "border: 1px solid #fcd34d;".toList,
      "border-".toList ++ k.side ++ ": 4px solid #d97706;".toList],
   .rule ".code-snippet".toList
     ["background-color: #f3f4f6;".toList,
      "border: 1px solid ".toList ++ k.tokens.border ++ ";".toList,
      "font-family: \"Noto Sans Mono\", \"DejaVu Sans Mono\", monospace;".toList,
      "font-size: 0.9em;".toList,
      "direction: ltr;".toList,
      "text-align: left;".toList],
   .rule ".side-note".toList
     ["float: ".toList ++ k.farSide ++ ";".toList,
      "width: 35%;".toList,
      "margin-inline-start: 1em;".toList,
      "font-size: 0.85em;".toList,
      "background-color: ".toList ++ tint k.tokens.accent "0d".toList ++ ";".toList,
      "border-".toList ++ k.side ++ ": 2px solid ".toList ++ k.tokens.accent ++ ";".toList]]

/-- Other containers. -/
def layoutRules (k : Look) : List Part :=
  [.rule ".two-columns".toList
     ["display: grid;".toList,
      "grid-template-columns: 1fr 1fr;".toList,
      "gap: 0 1.2em;".toList,
      "margin: 1em 0;".toList],
   .rule ".inline-list ul, .inline-list ol".toList
     ["padding: 0;".toList],
   .rule ".inline-list li".toList
     ["display: inline;".toList,
      "margin-inline-end: 1em;".toList],
   .rule ".compact-table table".toList
     ["font-size: 0.85em;".toList,
      "margin: 0.5em 0;".toList],
   .rule ".compact-table td, .compact-table th".toList
     ["padding: 0.25em 0.4em;".toList],
   .rule ".lead".toList
     ["font-size: 1.15em;".toList,
      "color: ".toList ++ k.tokens.heading ++ ";".toList],
   .line ".text-center".toList "text-align: center;".toList,
   .line ".text-start".toList "text-align: start;".toList,
   .line ".text-end".toList "text-align: end;".toList,
   .line ".text-justify".toList "text-align: justify;".toList,
   .rule ".no-break".toList
     ["break-inside: avoid;".toList,
      "page-break-inside: avoid;".toList],
   .rule ".important".toList
     ["background-color: ".toList ++ tint k.tokens.accent "30".toList ++ ";".toList,
      "color: ".toList ++ k.tokens.heading ++ ";".toList,
      "padding: 0.1em 0.3em;".toList,
      "border-radius: 2px;".toList,
      "font-weight: 600;".toList,
      "border-bottom: 2px solid ".toList ++ k.tokens.accent ++ ";".toList,
      "unicode-bidi: isolate;".toList]]

/-- The printed page. -/
def printRules : List Part :=
  [.line "@page".toList "size: A4; margin: 0;".toList,
   .rule ".preview-page".toList
     ["transform: none !important;".toList,
      "margin-bottom: 0 !important;".toList,
      "box-shadow: none;".toList]]

/-- The columns of a compressed document. -/
def columnRules {α : Type} (p : Preset α) (columns : List Char) : List Part :=
  [.note "Compression: multi-column flow".toList,
   .rule ".preview-content".toList
     ["column-count: ".toList ++ columns ++ ";".toList,
      "column-gap: 0.6cm;".toList,
      "column-rule: 1px solid #e5e7eb;".toList],
   .rule ".preview-content .doc-header, .preview-content .doc-toc".toList
     ["column-span: all;".toList,
      "margin-bottom: 0.5em !important;".toList,
      "padding-bottom: 0.5em !important;".toList],
   .rule ".preview-content h1, .preview-content h2, .preview-content h3".toList
     ["margin-top: ".toList ++ p.headingMarginTop ++ " !important;".toList,
      "margin-bottom: ".toList ++ p.headingMarginBottom ++ " !important;".toList,
      "line-height: 1.1 !important;".toList],
   .line ".preview-content h1".toList "font-size: 1.4em !important;".toList,
   .line ".preview-content h2".toList "font-size: 1.2em !important;".toList,
   .line ".preview-content h3".toList "font-size: 1.1em !important;".toList,
   .rule ".preview-content p, .preview-content ul, .preview-content ol".toList
     ["margin-top: 0 !important;".toList,
      "margin-bottom: ".toList ++ p.paragraphMargin ++ " !important;".toList],
   .rule ".preview-content table".toList
     ["font-size: 0.9em;".toList,
      "margin: 0.5em 0 !important;".toList],
   .rule ".preview-content td, .preview-content th".toList
     ["padding: 2px 4px !important;".toList],
   .rule ".math-display".toList
     ["margin: 0.3em 0 !important;".toList],
   .rule unbroken
     ["break-inside: avoid;".toList,
      "page-break-inside: avoid;".toList]]

end Style
end Folio
