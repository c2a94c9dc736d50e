import Folio.Document.Fault
import Folio.Json
import Folio.Html.Escape
import Folio.Text.Lines

/-!
# Pages

A rendered document is shown as a page of its own. The page carries the stylesheet, a
script that loads a typesetter from the first source that answers, and the document.
-/

namespace Folio
namespace Document

open Text Html

/-- The code of the language that goes with a direction of writing. -/
def languageCode : Direction -> List Char
  | .rtl => "he".toList
  | .ltr => "en".toList

/-- The title of a page; a document without a title is shown under the program's name. -/
def pageTitle (title : List Char) : List Char :=
  if title.isEmpty then "mdcompose".toList else title

/-- The first lines inside the head. -/
def headLines : List Char :=
  lines
    ["<head>",
     "  <meta charset=\"utf-8\"/>",
     "  <meta name=\"viewport\" content=\"width=device-width, initial-scale=1\"/>"]

/-- The style of the surface around the document. -/
def surfaceLines : List Char :=
  lines
    ["  <style>",
     "    html, body \x7b",
     "      margin: 0;",
     "      padding: 0;",
     "      background: #f3f4f6;",
     "    \x7d",
     "    .preview-scroll \x7b",
     "      padding: 2rem 1rem;",
     "    \x7d"]

/-- The lines that end the style and set the typesetter up. -/
def setupLines : List Char :=
  lines
    ["  </style>",
     "  <script>",
     "    window.MathJax = \x7b",
     "      startup: \x7b typeset: false \x7d,",
     "      tex: \x7b",
     "        inlineMath: [['\\\\(', '\\\\)']],",
     "        displayMath: [['\\\\[', '\\\\]']]",
     "      \x7d,",
     "      svg: \x7b fontCache: \"global\" \x7d,",
     "      options: \x7b skipHtmlTags: " ++
       "['script', 'noscript', 'style', 'textarea', 'pre', 'code'] \x7d",
     "    \x7d;",
     "",
     "    // Each setHtml mounts a fresh page, so this runs once per render.",
     "    window.__mdcomposeTypeset = async () => \x7b"]

/-- The body of the loop over the sources of the typesetter. -/
def loaderLines : List Char :=
  lines
    ["        const loaded = await new Promise((resolve) => \x7b",
     "          const script = document.createElement(\"script\");",
     "          script.src = src;",
     "          script.onload = () => resolve(true);",
     "          script.onerror = () => \x7b",
     "            script.remove();",
     "            resolve(false);",
     "          \x7d;",
     "          document.head.appendChild(script);",
     "        \x7d);",
     "        if (!loaded) \x7b",
     "          console.warn(\"mdcompose: no MathJax at\", src);",
     "          continue;",
     "        \x7d",
     "        try \x7b",
     "          await MathJax.startup.promise;",
     "          await MathJax.typesetPromise();",
     "          return true;",
     "        \x7d catch (error) \x7b",
     "          console.error(\"mdcompose: MathJax typeset failed\", error);",
     "          return false;",
     "        \x7d",
     "      \x7d",
     "      return false;",
     "    \x7d;",
     "  </script>"]

/-- The head of a page. -/
def pageHead (title stylesheet : List Char) (sources : List (List Char)) : List Char :=
  headLines ++
    "  <title>".toList ++ escapeAttribute title ++ lines ["</title>"] ++
    surfaceLines ++ stylesheet ++ ['\n'] ++ setupLines ++
    "      for (const src of ".toList ++ Json.strings sources ++ lines [") \x7b"] ++
    loaderLines ++ lines ["</head>"]

/-- The body of a page. -/
def pageBody (direction : Direction) (body : List Char) : List Char :=
  lines
    ["<body>",
     "  <div class=\"preview-scroll\">",
     "    <div class=\"preview-page\">"] ++
    "      <div class=\"preview-content\" dir=\"".toList ++ direction.name ++ lines ["\">"] ++
    body ++ ['\n'] ++
    lines
      ["      </div>",
       "    </div>",
       "  </div>",
       "  <script>",
       "    window.addEventListener(\"DOMContentLoaded\", () => window.__mdcomposeTypeset());",
       "  </script>",
       "</body>"]

/-- The page that shows a document under a title. -/
def pageUnder (title : List Char) (direction : Direction) (body stylesheet : List Char)
    (sources : List (List Char)) : List Char :=
  lines ["<!doctype html>"] ++ "<html lang=\"".toList ++ languageCode direction ++
    lines ["\">"] ++ pageHead (pageTitle title) stylesheet sources ++
    pageBody direction body ++ lines ["</html>"]

/-- The page that shows a document. -/
def page {α : Type} [Number.Scalar α] (s : Settings α) (body stylesheet : List Char)
    (sources : List (List Char)) : Except Fault (List Char) :=
  (titleOf s).map fun title => pageUnder title s.direction body stylesheet sources

end Document
end Folio
