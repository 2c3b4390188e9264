/-
This file says what plain scalars of YAML stand for.

A plain scalar is null, a truth value, a whole number, a floating-point number or
a text, in this order of precedence. Whole numbers are also written in base two,
eight and sixteen. Digits after a leading zero make a text. A whole number that
needs more than 64 bits but not more than 128 is set apart, since nothing can
hold it.
-/
import Rulebook.Number.Decimal

namespace Rulebook.Yaml

open Number

/-- What a plain scalar stands for. -/
inductive Plain where
  | null
  | bool (value : Bool)
  | whole (value : Int)
  /-- A whole number of more than 64 bits. -/
  | large
  | float (value : Double)
  | text
deriving DecidableEq

namespace Plain

/-- Whether a scalar stands for null. -/
def isNull (content : List Char) : Bool :=
  ["null", "Null", "NULL", "~"].contains (String.ofList content)

/-- The truth value that a scalar stands for. -/
def bool? (content : List Char) : Option Bool :=
  match String.ofList content with
  | "true" | "True" | "TRUE" => some true
  | "false" | "False" | "FALSE" => some false
  | _ => none

/-- The number that digits of a base stand for; there is at least one of them. -/
def ofDigits? (base : Nat) (run : List Char) : Option Nat :=
  if run.isEmpty then none
  else
    run.foldlM (fun total character =>
      match hexValue? character with
      | some digit => if digit < base then some (total * base + digit) else none
      | none => none) 0

/-- The number in the base that its first two characters name. -/
def ofBased? : List Char → Option Nat
  | '0' :: 'x' :: run => ofDigits? 16 run
  | '0' :: 'o' :: run => ofDigits? 8 run
  | '0' :: 'b' :: run => ofDigits? 2 run
  | _ => none

/-- Whether a scalar consists of digits with a zero in front, after at most one sign. -/
def isPaddedDigits (content : List Char) : Bool :=
  let body :=
    match content with
    | '-' :: body => body
    | '+' :: body => body
    | body => body
  match body with
  | '0' :: more => !more.isEmpty && more.all isDigit
  | _ => false

/-- The magnitude of a number without sign. -/
def magnitude? (padded : Bool) (body : List Char) : Option Nat :=
  match ofBased? body with
  | some value => some value
  | none => if padded then none else ofDigits? 10 body

/-- The whole number that a scalar stands for, of any size. -/
def whole? (content : List Char) : Option Int :=
  let padded := isPaddedDigits content
  match content with
  | '-' :: body => (magnitude? padded body).map fun value => -(value : Int)
  | '+' :: body => (magnitude? padded body).map fun value => (value : Int)
  | body => (magnitude? padded body).map fun value => (value : Int)

/-- The floating-point number that a scalar stands for. -/
def float? (content : List Char) : Option Double :=
  let body :=
    match content with
    | '+' :: body => body
    | body => body
  match String.ofList content with
  | ".nan" | ".NaN" | ".NAN" => some .nan
  | "-.inf" | "-.Inf" | "-.INF" => some (.infinite true)
  | _ =>
    match String.ofList body with
    | ".inf" | ".Inf" | ".INF" => some (.infinite false)
    | _ =>
      if body.length < content.length && (body.head? == some '+' || body.head? == some '-') then none
      else (readDouble? body).filter Double.isFinite

/-- The number that a scalar stands for, if it does: whole, too large, or floating-point. -/
def number? (content : List Char) : Option Plain :=
  match whole? content with
  | some value =>
    if -2 ^ 63 ≤ value ∧ value < 2 ^ 64 then some (whole value)
    else if -2 ^ 127 ≤ value ∧ value < 2 ^ 128 then some large
    else (float? content).map float
  | none => if isPaddedDigits content then none else (float? content).map float

/-- What a plain scalar stands for. -/
def ofContent (content : List Char) : Plain :=
  if content.isEmpty || isNull content then null
  else
    match bool? content with
    | some value => bool value
    | none => (number? content).getD text

/-- The whole number of 64 bits, not negative, that a scalar stands for. -/
def count? (content : List Char) : Option UInt64 :=
  if content.head? = some '-' then none
  else
    match whole? content with
    | some value => if 0 ≤ value ∧ value < 2 ^ 64 then some (UInt64.ofNat value.toNat) else none
    | none => none

end Plain

end Rulebook.Yaml
