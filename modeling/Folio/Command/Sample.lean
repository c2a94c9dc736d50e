import Folio.Settings
import Folio.Text.Lines

/-!
# The sample document

What is shown when no document is opened: a report in Hebrew that uses a bit of everything.
-/

namespace Folio
namespace Command

open Text Number

/-- The text of the sample. -/
def sampleText : List Char :=
  lines
    ["<div class=\"theory\">",
     "**הגדרה:** מערכת לינארית היא מערכת המקיימת את עקרון הסופרפוזיציה.",
     "עבור כניסות $x_1(t)$ ו-$x_2(t)$ ותגובות $y_1(t)$ ו-$y_2(t)$, מתקיים:",
     "$$ T[a x_1(t) + b x_2(t)] = a y_1(t) + b y_2(t) $$",
     "</div>",
     "",
     "## 1. מבוא",
     "בניסוי זה נחקור את התגובה של מעגל **RC** פשוט.",
     "המשוואה הדיפרנציאלית המתארת את המעגל היא:",
     "",
     "$$ RC \\frac\x7bdV_\x7bout\x7d\x7d\x7bdt\x7d + V_\x7bout\x7d = V_\x7bin\x7d $$",
     "",
     "<span class=\"important\">חשוב מאוד לדייק במדידות המתח!</span>",
     "",
     "## 2. פתרון אנליטי",
     "עבור כניסת מדרגה $V_\x7bin\x7d(t) = u(t)$, הפתרון הוא:",
     "",
     "<div class=\"solution\">",
     "**פתרון:**",
     "$$ V_\x7bout\x7d(t) = V_0 (1 - e^\x7b-t/RC\x7d) $$",
     "כאשר $V_0$ הוא מתח המקור.",
     "</div>",
     "",
     "## 3. תוצאות ודיון",
     "להלן טבלת מדידות שנערכה במעבדה:",
     "",
     "| זמן (ms) | מתח מדוד (V) | מתח תיאורטי (V) |",
     "|----------|-------------|-----------------|",
     "| 0        | 0.0         | 0.0             |",
     "| 10       | 3.2         | 3.15            |",
     "| 20       | 5.1         | 5.20            |",
     "",
     "## 4. מסקנות",
     "- [x] אימות המודל התיאורטי",
     "- [ ] חזרה על המדידה בתדר גבוה"]

/-- The title under which documents are opened. -/
def sampleTitle : List Char :=
  "דוח מעבדה: ניתוח מערכות לינאריות".toList

/-- The settings with which documents are opened. -/
def openingSettings {α : Type} [Scalar α] (d : Direction) : Settings α :=
  { Settings.default with
    title := .text sampleTitle
    direction := d }

end Command
end Folio
