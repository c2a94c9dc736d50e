import Folio.Settings

/-!
# Dates

A date under the title is written in the language that goes with the direction of
writing: Hebrew from right to left, English from left to right.
-/

namespace Folio
namespace Document

/-- A date of the calendar. -/
structure Date where
  year : Nat
  month : Fin 12
  day : Nat
  deriving DecidableEq, Repr

/-- The names of the months in English. -/
def englishMonths : Vector String 12 :=
  #v["January", "February", "March", "April", "May", "June",
    "July", "August", "September", "October", "November", "December"]

/-- The names of the months in Hebrew. -/
def hebrewMonths : Vector String 12 :=
  #v["ינואר", "פברואר", "מרץ", "אפריל", "מאי", "יוני",
    "יולי", "אוגוסט", "ספטמבר", "אוקטובר", "נובמבר", "דצמבר"]

/-- The name of a month, with what precedes it. -/
def monthText (d : Direction) (month : Fin 12) : List Char :=
  match d with
  | .rtl => 'ב' :: hebrewMonths[month].toList
  | .ltr => englishMonths[month].toList

/-- A date in words. -/
def Date.text (date : Date) (d : Direction) : List Char :=
  Number.digitsOf date.day ++ ' ' :: monthText d date.month ++ ' ' :: Number.digitsOf date.year

/-- Whether a year has a leap day. -/
def isLeap (year : Nat) : Bool :=
  year % 4 = 0 && (year % 100 != 0 || year % 400 = 0)

/-- The count of days in a month. -/
def monthLength (year : Nat) (month : Fin 12) : Nat :=
  if month = 1 then (if isLeap year then 29 else 28)
  else if month = 3 || month = 5 || month = 8 || month = 10 then 30
  else 31

/-- The day after a date. -/
def Date.next (date : Date) : Date :=
  if date.day < monthLength date.year date.month then { date with day := date.day + 1 }
  else if date.month = 11 then ⟨date.year + 1, 0, 1⟩
  else ⟨date.year, date.month + 1, 1⟩

/-- The date some days after the first day of 1970. -/
def Date.ofDays : Nat -> Date
  | 0 => ⟨1970, 0, 1⟩
  | n + 1 => (Date.ofDays n).next

/-- The end of a leap February. -/
example : Date.next ⟨2024, 1, 28⟩ = ⟨2024, 1, 29⟩ := by decide

end Document
end Folio
