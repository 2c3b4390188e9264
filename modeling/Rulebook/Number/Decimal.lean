/-
This file reads decimal text as floating-point numbers.

A decimal text is an optional sign, digits with at most one point among or
around them, and an optional power of ten. Besides these, the names of the
infinities and of what is not a number are read, in any case of letters.

There are two ways from the decimal to the number. `DecimalText.nearest` is
exact: it takes the number nearest to the decimal. `DecimalText.stepwise?`
rounds more than once: it takes the leading digits as a number, and multiplies
or divides it by a power of ten, rounding each time; it refuses a decimal that
is too large.
-/
import Rulebook.Number.Digits
import Rulebook.Number.Double

namespace Rulebook.Number

/-- A decimal as it is written: a sign, the digits before and after the point, and a power of
ten. -/
structure DecimalText where
  negative : Bool
  whole : List Char
  fraction : List Char
  power : Int
deriving DecidableEq, Repr

/-! ### Reading the written form -/

/-- The power of ten after the letter `e`, zero when there is no such letter. -/
def readPower? : List Char → Option Int
  | [] => some 0
  | letter :: rest =>
    if letter = 'e' ∨ letter = 'E' then
      let (negative, run) :=
        match rest with
        | '+' :: run => (false, run)
        | '-' :: run => (true, run)
        | run => (false, run)
      if run.isEmpty || !run.all isDigit then none
      else some (if negative then -(valueOf run : Int) else valueOf run)
    else none

/-- An unsigned decimal; there is a digit before or after the point. -/
def readUnsignedDecimal? (negative : Bool) (text : List Char) : Option DecimalText :=
  let whole := text.takeWhile isDigit
  let (fraction, rest) :=
    match text.dropWhile isDigit with
    | '.' :: rest => (rest.takeWhile isDigit, rest.dropWhile isDigit)
    | rest => ([], rest)
  if whole.isEmpty && fraction.isEmpty then none
  else (readPower? rest).map fun power => ⟨negative, whole, fraction, power⟩

/-- Whether a text is a word, in any case of its ASCII letters. -/
def isWord (word : String) (text : List Char) : Bool :=
  text.map Char.toLower == word.toList

/-! ### From the written form to a number -/

/-- Rounds `coefficient * 10 ^ power`, given how a ratio is rounded. Far beyond the range of any
format the outcome is known without the ratio. -/
def roundDecimal (ofRatio : Bool → Nat → Nat → Double) (negative : Bool) (coefficient : Nat)
    (power : Int) : Double :=
  if coefficient = 0 then Double.zero negative
  else if power > 400 then .infinite negative
  else if (coefficient.log2 : Int) / 3 + power < -400 then Double.zero negative
  else if 0 ≤ power then ofRatio negative (coefficient * 10 ^ power.toNat) 1
  else ofRatio negative coefficient (10 ^ (-power).toNat)

/-- Rounds a written decimal, given how a ratio is rounded. -/
def DecimalText.rounded (text : DecimalText) (ofRatio : Bool → Nat → Nat → Double) : Double :=
  roundDecimal ofRatio text.negative (valueOf (text.whole ++ text.fraction))
    (text.power - text.fraction.length)

/-- The number nearest to a written decimal. -/
def DecimalText.nearest (text : DecimalText) : Double :=
  text.rounded Double.ofRatio

/-- A floating-point number from its text: a decimal, which is rounded, an infinity or what is not
a number. -/
def readRounded? (round : DecimalText → Double) (text : List Char) : Option Double :=
  let (negative, body) :=
    match text with
    | '+' :: body => (false, body)
    | '-' :: body => (true, body)
    | body => (false, body)
  if isWord "inf" body || isWord "infinity" body then some (.infinite negative)
  else if isWord "nan" body then some .nan
  else (readUnsignedDecimal? negative body).map round

/-- A floating-point number from its text, the nearest one of 64 bits. -/
def readDouble? (text : List Char) : Option Double :=
  readRounded? DecimalText.nearest text

/-- A floating-point number from its text, the nearest one that fits 32 bits. -/
def readSingle? (text : List Char) : Option Double :=
  readRounded? (·.rounded Double.ofRatioSingle) text

/-! ### Rounding in steps -/

/-- Takes digits onto a total while it fits 64 bits; the digits that were not taken are left. -/
def takeDigits : Nat → List Char → Nat × List Char
  | total, [] => (total, [])
  | total, character :: rest =>
    let next := total * 10 + (digitValue? character).getD 0
    if next < 2 ^ 64 then takeDigits next rest else (total, character :: rest)

/-- Multiplies by ten to a power, or divides, with one rounding when the power is at most 308;
a larger division goes by 308 powers at a time. A product beyond the finite numbers is none. -/
def scaleByTen (value : Double) (power : Int) : Nat → Option Double
  | 0 => some value
  | steps + 1 =>
    if power.natAbs ≤ 308 then
      let ten := Double.ofRatio false (10 ^ power.natAbs) 1
      if 0 ≤ power then
        let product := value.times ten
        if product.isFinite then some product else none
      else some (value.dividedBy ten)
    else if value.isZero then some value
    else if 0 ≤ power then none
    else scaleByTen (value.dividedBy (Double.ofRatio false (10 ^ 308) 1)) (power + 308) steps

/-- The number that a written decimal stands for when it is rounded in steps: as many leading
digits as fit 64 bits are taken, then the power of ten is applied. -/
def DecimalText.stepwise? (text : DecimalText) : Option Double :=
  let (leading, untaken) := takeDigits 0 text.whole
  let (total, dropped) := takeDigits leading text.fraction
  let power := text.power + untaken.length - (text.fraction.length - dropped.length : Nat)
  (scaleByTen (Double.ofRatio false total 1) power (power.natAbs / 308 + 2)).map fun value =>
    if text.negative then value.negate else value

end Rulebook.Number
