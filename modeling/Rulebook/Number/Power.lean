/-
This file settles what a power of a number is.

The power is that of the core library in every file, also where further libraries
bring in powers of their own, so that a number such as `2 ^ 63` is one and the same
term everywhere.
-/

namespace Rulebook.Number

/-- The power of the core library goes before all others. -/
@[default_instance 20000]
instance (priority := 20000) corePow {Number : Type} [NatPow Number] : Pow Number Nat :=
  instPowNat

end Rulebook.Number
