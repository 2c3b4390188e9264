/-
This file applies the rule that the raw text of a value looks a certain way.

Three words name looks of their own: an address of electronic mail, a telephone
number and a password. Every other argument is a pattern that has to occur in the
raw text. The patterns of the first two words are part of the library and have no
limit on their size.
-/
import Rulebook.Pattern.Search
import Rulebook.Pattern.Store
import Rulebook.Rule.Directive
import Rulebook.Rule.Violation

namespace Rulebook

/-! ### Addresses and telephone numbers -/

namespace Pattern

/-- A pattern that matches the whole text or nothing of it. -/
def whole (inner : Pattern) : Pattern :=
  .sequence (.look .textStart) (.sequence inner (.look .textEnd))

/-- At least so many characters of a set, and perhaps not more than so many. -/
def run (set : CharSet) (least : Nat) (most : Option Nat) : Pattern :=
  .repeated (.one set) least most

/-- ASCII letters. -/
def letters : CharSet :=
  .either (.range 'a' 'z') (.range 'A' 'Z')

/-- ASCII letters, digits, and some further characters. -/
def lettersDigitsAnd (further : List Char) : CharSet :=
  .either letters (.either (.range '0' '9') (.anyOf (further.map .single)))

/-- An address: a name, the sign between, a host with at least one point, and at least two
letters after the last point. -/
def address : Pattern :=
  whole (.sequence (run (lettersDigitsAnd ['.', '_', '%', '+', '-']) 1 none)
    (.sequence (.one (.single '@'))
      (.sequence (run (lettersDigitsAnd ['.', '-']) 1 none)
        (.sequence (.one (.single '.')) (run letters 2 none)))))

/-- A telephone number: from seven to twelve digits and hyphens. -/
def phoneNumber : Pattern :=
  whole (run (.either (.range '0' '9') (.single '-')) 7 (some 12))

end Pattern

/-! ### Passwords -/

/-- The special characters of passwords. -/
def specialCharacters : List Char :=
  ['!', '@', '#', '$', '%', '^', '&', '*', '(', ')', '_', '+', '-', '=', '[', ']', '\x7b', '\x7d',
    '|', ';', ':', '\'', '"', ',', '.', '<', '>', '/', '?']

namespace PasswordClass

/-- Whether a character is of the sort. -/
def holds : PasswordClass → Char → Bool
  | uppercase, character => character.isUpper
  | lowercase, character => character.isLower
  | digit, character => character.isDigit
  | special, character => specialCharacters.contains character

/-- The sorts, in the order in which they are asked for. -/
def all : List PasswordClass := [uppercase, lowercase, digit, special]

/-- The sorts of which a text has no character. -/
def missingIn (text : List Char) : List PasswordClass :=
  all.filter fun sort => !text.any sort.holds

end PasswordClass

/-! ### The rule -/

/-- The violation of a condition that does not hold. -/
def reportUnless (holds : Bool) (violation : Violation) : Option Violation :=
  if holds then none else some violation

namespace Directive

/-- The rule that a raw text looks as the arguments say, with the store of patterns after it. -/
def looksLike (directive : Directive) (value : Value) (store : PatternStore) :
    Option Violation × PatternStore :=
  let raw := value.rawChars
  match String.ofList directive.arguments with
  | "email" => (reportUnless (Pattern.address.occursIn raw) .noAddress, store)
  | "phone" => (reportUnless (Pattern.phoneNumber.occursIn raw) .noPhoneNumber, store)
  | "password" =>
    let missing := PasswordClass.missingIn raw
    (reportUnless missing.isEmpty (.weakPassword missing), store)
  | "" => (some .badPattern, store)
  | text =>
    let (pattern, store) := store.lookUp text
    match pattern with
    | some pattern => (reportUnless (pattern.occursIn raw) .unmatched, store)
    | none => (some .badPattern, store)

end Directive

end Rulebook
