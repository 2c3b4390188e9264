/-
This file writes instants as text and reads them.

An instant is written as RFC 3339 has it, with a numeric offset, three, six or
nine digits of fraction where the fraction is not zero, and a sign in front of
years that four digits cannot hold. Two layouts are read: RFC 3339, strictly,
and a loose layout in which blanks may stand before every number. In both a
semicolon may stand for a colon, so that a stamp can be the argument of a
directive.
-/
import Rulebook.Calendar.Instant
import Rulebook.Number.Digits
import Rulebook.Text.Blank

namespace Rulebook

namespace Calendar

open Number Text

/-! ### Writing -/

/-- A year: four digits, or a sign and at least four digits. -/
def yearText (year : Int) : List Char :=
  if 0 ≤ year ∧ year ≤ 9999 then paddedDigits 4 year.natAbs
  else (if year < 0 then '-' else '+') :: paddedDigits 4 year.natAbs

/-- A fraction of a second: nothing, or three, six or nine digits after a point. -/
def fractionText (nanos : Nat) : List Char :=
  if nanos = 0 then []
  else if nanos % 1000000 = 0 then '.' :: paddedDigits 3 (nanos / 1000000)
  else if nanos % 1000 = 0 then '.' :: paddedDigits 6 (nanos / 1000)
  else '.' :: paddedDigits 9 nanos

/-- An offset in hours and minutes, rounded to the nearest minute. -/
def offsetText (offset : Int) : List Char :=
  let minutes := (offset.natAbs + 30) / 60
  (if offset < 0 then '-' else '+') :: paddedDigits 2 (minutes / 60) ++
    ':' :: paddedDigits 2 (minutes % 60)

/-- A date, with the year in four digits where they can hold it. -/
def dateText (date : Date) : List Char :=
  yearText date.year ++ '-' :: paddedDigits 2 date.month ++ '-' :: paddedDigits 2 date.day

/-- A time of day with seconds. -/
def clockText (hour minute second : Nat) : List Char :=
  paddedDigits 2 hour ++ ':' :: paddedDigits 2 minute ++ ':' :: paddedDigits 2 second

end Calendar

open Calendar Number Text

/-- The text of an instant as RFC 3339 has it. -/
def Instant.text (instant : Instant) : List Char :=
  let second := instant.secondOfDay
  let (leap, nanos) :=
    if instant.inLeapSecond then (1, instant.nanos - nanosPerSecond) else (0, instant.nanos)
  dateText instant.date ++ 'T' :: clockText (second / 3600) (second / 60 % 60) (second % 60 + leap) ++
    fractionText nanos ++ offsetText instant.offset

namespace Calendar

/-! ### Reading -/

/-- The text after a character that has to stand first. -/
def expect? (character : Char) : List Char → Option (List Char)
  | [] => none
  | first :: rest => if first = character then some rest else none

/-- A number of at least `least` and at most `most` digits, and the text after it. -/
def number? (least most : Nat) (text : List Char) : Option (Nat × List Char) :=
  let run := (text.take most).takeWhile isDigit
  if run.length < least then none else some (valueOf run, text.drop run.length)

/-- Two digits of an offset. -/
def twoDigits? : List Char → Option (Nat × List Char)
  | tens :: ones :: rest =>
    match digitValue? tens, digitValue? ones with
    | some ten, some one => some (ten * 10 + one, rest)
    | _, _ => none
  | _ => none

/-- An offset: a sign, hours, what separates, and minutes below sixty. -/
def offset? (separator : List Char → Option (List Char)) : List Char → Option (Int × List Char)
  | [] => none
  | sign :: text =>
    let negative := sign = '-' ∨ sign = '−'
    if ¬ negative ∧ sign ≠ '+' then none
    else do
      let (hours, text) ← twoDigits? text
      let text ← separator text
      let (minutes, text) ← twoDigits? text
      if 60 ≤ minutes then none
      else
        let offset : Int := (hours * 3600 + minutes * 60 : Nat)
        some (if negative then -offset else offset, text)

/-- Blanks and colons, any number of them. -/
def skipSeparators (text : List Char) : List Char :=
  text.dropWhile fun character => character == ':' || isBlank character

/-- A year in the loose layout: a sign and any number of digits, or up to four digits. -/
def looseYear? (text : List Char) : Option (Int × List Char) :=
  match trimStart text with
  | '-' :: rest => (number? 1 rest.length rest).map fun (year, rest) => (-(year : Int), rest)
  | '+' :: rest => (number? 1 rest.length rest).map fun (year, rest) => ((year : Int), rest)
  | rest => (number? 1 4 rest).map fun (year, rest) => ((year : Int), rest)

/-- A number of one or two digits after any blanks. -/
def looseNumber? (text : List Char) : Option (Nat × List Char) :=
  number? 1 2 (trimStart text)

/-- An instant in the loose layout: `year-month-day hour:minute:second offset`. -/
def readLoose? (text : List Char) : Option Instant := do
  let (year, text) ← looseYear? text
  let text ← expect? '-' text
  let (month, text) ← looseNumber? text
  let text ← expect? '-' text
  let (day, text) ← looseNumber? text
  let (hour, text) ← looseNumber? text
  let text ← expect? ':' text
  let (minute, text) ← looseNumber? text
  let text ← expect? ':' text
  let (second, text) ← looseNumber? text
  let (offset, text) ← offset? (fun rest => some (skipSeparators rest)) (trimStart text)
  if text.isEmpty then Instant.ofLocal? ⟨year, month, day⟩ hour minute second 0 offset else none

/-- Nanoseconds from the digits of a fraction; digits after the ninth count nothing. -/
def nanosOf (run : List Char) : Nat :=
  let taken := run.take 9
  valueOf taken * 10 ^ (9 - taken.length)

/-- A fraction of a second, if a point follows. -/
def fraction? : List Char → Option (Nat × List Char)
  | '.' :: text =>
    let run := text.takeWhile isDigit
    if run.isEmpty then none else some (nanosOf run, text.drop run.length)
  | text => some (0, text)

/-- The offset of RFC 3339: the letter Z or hours and minutes. -/
def strictOffset? : List Char → Option (Int × List Char)
  | 'Z' :: text => some (0, text)
  | 'z' :: text => some (0, text)
  | text => offset? (expect? ':') text

/-- What stands between date and time in RFC 3339. -/
def dateTimeMark? : List Char → Option (List Char)
  | [] => none
  | mark :: text => if mark = 'T' ∨ mark = 't' ∨ mark = ' ' then some text else none

/-- An instant as RFC 3339 has it. -/
def readStrict? (text : List Char) : Option Instant := do
  let (year, text) ← number? 4 4 text
  let text ← expect? '-' text
  let (month, text) ← number? 2 2 text
  let text ← expect? '-' text
  let (day, text) ← number? 2 2 text
  let text ← dateTimeMark? text
  let (hour, text) ← number? 2 2 text
  let text ← expect? ':' text
  let (minute, text) ← number? 2 2 text
  let text ← expect? ':' text
  let (second, text) ← number? 2 2 text
  let (nanos, text) ← fraction? text
  let (offset, text) ← strictOffset? text
  if text.isEmpty then Instant.ofLocal? ⟨year, month, day⟩ hour minute second nanos offset else none

end Calendar

/-- An instant from its text, in either layout, blanks around it aside. -/
def Instant.read? (text : List Char) : Option Instant :=
  let plain := (trim text).map fun character => if character = ';' then ':' else character
  readLoose? plain <|> readStrict? plain

end Rulebook
