/-
This file proves which floating-point number is nearest to a whole number of 64 bits.

A mantissa has 53 binary digits. So a whole number with fewer digits is itself a floating-point
number, and any other one is rounded to a multiple of a power of two, which is fixed by the number
of its digits. Rounding keeps the order: among numbers with equally many digits the quotients are
rounded alike, and between numbers with fewer and with more digits lies a power of two, which
rounding does not cross from either side.
-/
import Rulebook.Number.Double

namespace Rulebook

namespace Number

/-! ### Rounded quotients -/

variable {first second number : Nat}

theorem div_le_roundQuotient (numerator denominator : Nat) :
    numerator / denominator ≤ roundQuotient numerator denominator := by
  unfold roundQuotient
  dsimp only
  split <;> omega

theorem roundQuotient_le_succ (numerator denominator : Nat) :
    roundQuotient numerator denominator ≤ numerator / denominator + 1 := by
  unfold roundQuotient
  dsimp only
  split <;> omega

theorem roundQuotient_one (numerator : Nat) : roundQuotient numerator 1 = numerator := by
  unfold roundQuotient
  simp [Nat.mod_one]

theorem roundQuotient_mono (denominator : Nat) (le : first ≤ second) :
    roundQuotient first denominator ≤ roundQuotient second denominator := by
  rcases Nat.lt_or_eq_of_le (Nat.div_le_div_right (c := denominator) le) with less | same
  · calc roundQuotient first denominator
        ≤ first / denominator + 1 := roundQuotient_le_succ first denominator
      _ ≤ second / denominator := less
      _ ≤ roundQuotient second denominator := div_le_roundQuotient second denominator
  · -- the quotients are the same, so only the remainders decide
    have remainders : first % denominator ≤ second % denominator := by
      have firstParts := Nat.div_add_mod first denominator
      have secondParts := Nat.div_add_mod second denominator
      rw [same] at firstParts
      omega
    unfold roundQuotient
    dsimp only
    rw [same]
    split <;> split <;> omega

/-! ### The nearest number with 53 digits -/

/-- The distance of two neighbours among the floating-point numbers around a natural number, or
one where this distance is smaller. -/
def spacing (number : Nat) : Nat :=
  2 ^ (number.log2 - 52)

/-- The floating-point number nearest to a natural number, a half going to the even mantissa. -/
def nearestNat (number : Nat) : Nat :=
  roundQuotient number (spacing number) * spacing number

theorem log2_le_of_lt (small : number < 2 ^ 53) : number.log2 ≤ 52 := by
  by_cases zero : number = 0
  · subst zero
    decide
  · exact Nat.lt_succ_iff.1 ((Nat.log2_lt zero).2 small)

/-- A number of at most 53 digits is its own nearest one. -/
theorem nearestNat_of_lt (small : number < 2 ^ 53) : nearestNat number = number := by
  have one : spacing number = 1 := by
    unfold spacing
    rw [Nat.sub_eq_zero_of_le (log2_le_of_lt small), Nat.pow_zero]
  unfold nearestNat
  rw [one, roundQuotient_one, Nat.mul_one]

theorem two_pow_log2_eq (large : 52 ≤ number.log2) :
    2 ^ number.log2 = 2 ^ 52 * spacing number := by
  unfold spacing
  rw [← Nat.pow_add]
  congr 1
  omega

theorem spacing_pos (number : Nat) : 0 < spacing number :=
  Nat.two_pow_pos _

theorem two_pow_le_div_spacing (large : 52 ≤ number.log2) : 2 ^ 52 ≤ number / spacing number := by
  have nonzero : number ≠ 0 := by
    rintro rfl
    exact absurd large (by decide)
  rw [Nat.le_div_iff_mul_le (spacing_pos number), ← two_pow_log2_eq large]
  exact Nat.log2_self_le nonzero

theorem div_spacing_lt_two_pow (large : 52 ≤ number.log2) : number / spacing number < 2 ^ 53 := by
  have digits := two_pow_log2_eq large
  have below : number < 2 ^ (number.log2 + 1) := Nat.lt_log2_self
  rw [Nat.pow_succ] at below
  rw [Nat.div_lt_iff_lt_mul (spacing_pos number)]
  omega

/-- The rounded quotient of a number of at least 53 digits has 53 digits, or it is the power of two
after them. -/
theorem roundQuotient_spacing (large : 52 ≤ number.log2) :
    2 ^ 52 ≤ roundQuotient number (spacing number) ∧
      roundQuotient number (spacing number) ≤ 2 ^ 53 :=
  ⟨Nat.le_trans (two_pow_le_div_spacing large) (div_le_roundQuotient number _),
    Nat.le_trans (roundQuotient_le_succ number _) (div_spacing_lt_two_pow large)⟩

/-- Rounding does not go below the power of two under a number. -/
theorem two_pow_log2_le_nearestNat (nonzero : number ≠ 0) :
    2 ^ number.log2 ≤ nearestNat number := by
  by_cases small : number < 2 ^ 53
  · rw [nearestNat_of_lt small]
    exact Nat.log2_self_le nonzero
  · have large : 52 ≤ number.log2 := (Nat.le_log2 nonzero).2 (by omega)
    rw [two_pow_log2_eq large]
    exact Nat.mul_le_mul_right _ (roundQuotient_spacing large).1

/-- Rounding does not go above the power of two over a number. -/
theorem nearestNat_le_two_pow_log2 (number : Nat) : nearestNat number ≤ 2 ^ (number.log2 + 1) := by
  by_cases small : number < 2 ^ 53
  · rw [nearestNat_of_lt small]
    exact Nat.le_of_lt Nat.lt_log2_self
  · have large : 52 ≤ number.log2 := (Nat.le_log2 (by omega)).2 (by omega)
    calc nearestNat number
        ≤ 2 ^ 53 * spacing number := Nat.mul_le_mul_right _ (roundQuotient_spacing large).2
      _ = 2 ^ (number.log2 + 1) := by
        have digits := two_pow_log2_eq large
        rw [Nat.pow_succ]
        omega

theorem nearestNat_mono (le : first ≤ second) : nearestNat first ≤ nearestNat second := by
  by_cases zero : first = 0
  · subst zero
    exact Nat.zero_le _
  have nonzero : second ≠ 0 := by omega
  have digits : first.log2 ≤ second.log2 :=
    (Nat.le_log2 nonzero).2 (Nat.le_trans (Nat.log2_self_le zero) le)
  rcases Nat.lt_or_eq_of_le digits with fewer | same
  · calc nearestNat first
        ≤ 2 ^ (first.log2 + 1) := nearestNat_le_two_pow_log2 first
      _ ≤ 2 ^ second.log2 := Nat.pow_le_pow_right (by decide) fewer
      _ ≤ nearestNat second := two_pow_log2_le_nearestNat nonzero
  · have alike : spacing first = spacing second := by
      unfold spacing
      rw [same]
    unfold nearestNat
    rw [alike]
    exact Nat.mul_le_mul_right _ (roundQuotient_mono _ le)

/-! ### Whole numbers with a sign -/

/-- The floating-point number nearest to a whole number, a half going to the even mantissa. -/
def nearestInt (value : Int) : Int :=
  value.sign * nearestNat value.natAbs

theorem nearestInt_natCast (number : Nat) : nearestInt number = nearestNat number := by
  unfold nearestInt
  by_cases zero : number = 0
  · subst zero
    rfl
  · rw [Int.sign_natCast_of_ne_zero zero, Int.one_mul, Int.natAbs_natCast]

theorem nearestInt_neg (value : Int) : nearestInt (-value) = -nearestInt value := by
  unfold nearestInt
  rw [Int.sign_neg, Int.natAbs_neg, Int.neg_mul]

theorem nearestInt_of_lt {value : Int} (small : value.natAbs < 2 ^ 53) :
    nearestInt value = value := by
  unfold nearestInt
  rw [nearestNat_of_lt small, Int.sign_mul_natAbs]

theorem nearestInt_mono {first second : Int} (le : first ≤ second) :
    nearestInt first ≤ nearestInt second := by
  obtain ⟨less, rfl | rfl⟩ := first.eq_nat_or_neg <;>
    obtain ⟨more, rfl | rfl⟩ := second.eq_nat_or_neg
  · rw [nearestInt_natCast, nearestInt_natCast]
    exact Int.ofNat_le.2 (nearestNat_mono (Int.ofNat_le.1 le))
  · -- a number that is not positive is not above one that is not negative unless both are zero
    obtain rfl : less = 0 := by omega
    obtain rfl : more = 0 := by omega
    exact Int.le_refl _
  · rw [nearestInt_neg, nearestInt_natCast, nearestInt_natCast]
    omega
  · rw [nearestInt_neg, nearestInt_neg, nearestInt_natCast, nearestInt_natCast]
    have swapped : nearestNat more ≤ nearestNat less := nearestNat_mono (by omega)
    omega

/-- Rounding may make two numbers equal, but it does not exchange them. -/
theorem nearestInt_le_iff {first second : Int} :
    nearestInt first ≤ nearestInt second ↔
      first ≤ second ∨ nearestInt first = nearestInt second := by
  constructor
  · intro rounded
    by_cases le : first ≤ second
    · exact .inl le
    · exact .inr (Int.le_antisymm rounded (nearestInt_mono (by omega)))
  · rintro (le | same)
    · exact nearestInt_mono le
    · exact Int.le_of_eq same

theorem natAbs_nearestInt (value : Int) :
    (nearestInt value).natAbs = nearestNat value.natAbs := by
  by_cases zero : value = 0
  · subst zero
    rfl
  · rw [nearestInt, Int.natAbs_mul, Int.natAbs_sign_of_ne_zero zero, Nat.one_mul,
      Int.natAbs_natCast]

theorem two_pow_le_natAbs_nearestInt {value : Int} (large : 2 ^ 53 ≤ value.natAbs) :
    2 ^ 53 ≤ (nearestInt value).natAbs := by
  rw [natAbs_nearestInt]
  calc 2 ^ 53
      = nearestNat (2 ^ 53) := by decide +kernel
    _ ≤ nearestNat value.natAbs := nearestNat_mono large

theorem natAbs_nearestInt_le {value : Int} (small : value.natAbs < 2 ^ 64) :
    (nearestInt value).natAbs ≤ 2 ^ 64 := by
  by_cases zero : value = 0
  · subst zero
    decide
  · have digits : value.natAbs.log2 < 64 := (Nat.log2_lt (Int.natAbs_ne_zero.2 zero)).2 small
    calc (nearestInt value).natAbs
        = nearestNat value.natAbs := natAbs_nearestInt value
      _ ≤ 2 ^ (value.natAbs.log2 + 1) := nearestNat_le_two_pow_log2 _
      _ ≤ 2 ^ 64 := Nat.pow_le_pow_right (by decide) digits

/-- A number of at most 53 digits is told apart from every other one. -/
theorem eq_of_nearestInt_eq {first second : Int} (small : first.natAbs < 2 ^ 53)
    (same : nearestInt first = nearestInt second) : first = second := by
  rw [nearestInt_of_lt small] at same
  by_cases few : second.natAbs < 2 ^ 53
  · rw [same, nearestInt_of_lt few]
  · have many := two_pow_le_natAbs_nearestInt (Nat.le_of_not_lt few)
    rw [← same] at many
    omega

/-! ### Numbers that are their own nearest ones -/

theorem roundQuotient_of_dvd {numerator denominator : Nat} (positive : 0 < denominator)
    (divides : denominator ∣ numerator) :
    roundQuotient numerator denominator = numerator / denominator := by
  unfold roundQuotient
  dsimp only
  rw [Nat.mod_eq_zero_of_dvd divides]
  exact if_pos (.inl positive)

/-- A number is its own nearest one if it is a multiple of the distance around it. -/
theorem nearestNat_eq_self_iff_dvd : nearestNat number = number ↔ spacing number ∣ number := by
  constructor
  · intro exact
    refine ⟨roundQuotient number (spacing number), ?_⟩
    rw [Nat.mul_comm]
    exact exact.symm
  · intro multiple
    unfold nearestNat
    rw [roundQuotient_of_dvd (spacing_pos number) multiple, Nat.div_mul_cancel multiple]

/-- A number is its own nearest one if 53 digits are enough for it, but for zeros at its end. -/
theorem nearestNat_eq_self_iff :
    nearestNat number = number ↔
      ∃ mantissa exponent, mantissa < 2 ^ 53 ∧ number = mantissa * 2 ^ exponent := by
  rw [nearestNat_eq_self_iff_dvd]
  constructor
  · intro multiple
    by_cases small : number < 2 ^ 53
    · exact ⟨number, 0, small, (Nat.mul_one number).symm⟩
    · have large : 52 ≤ number.log2 := (Nat.le_log2 (by omega)).2 (by omega)
      exact ⟨number / spacing number, number.log2 - 52, div_spacing_lt_two_pow large,
        (Nat.div_mul_cancel multiple).symm⟩
  · rintro ⟨mantissa, exponent, short, split⟩
    have digits : number.log2 - 52 ≤ exponent := by
      by_cases zero : number = 0
      · subst zero
        exact Nat.zero_le exponent
      · have below : number < 2 ^ (53 + exponent) := by
          rw [split, Nat.pow_add]
          exact Nat.mul_lt_mul_of_pos_right short (Nat.two_pow_pos exponent)
        have bounded := (Nat.log2_lt zero).2 below
        omega
    have finer : spacing number ∣ 2 ^ exponent := Nat.pow_dvd_pow 2 digits
    calc spacing number
        ∣ mantissa * 2 ^ exponent := Nat.dvd_mul_left_of_dvd finer mantissa
      _ = number := split.symm

/-- The whole number is a mantissa of at most 53 binary digits, with zeros after it. -/
def FitsMantissa (value : Int) : Prop :=
  ∃ (mantissa : Int) (exponent : Nat), mantissa.natAbs < 2 ^ 53 ∧ value = mantissa * 2 ^ exponent

theorem nearestInt_eq_self_iff {value : Int} : nearestInt value = value ↔ FitsMantissa value := by
  constructor
  · intro exact
    have magnitude : nearestNat value.natAbs = value.natAbs := by
      rw [← natAbs_nearestInt, exact]
    obtain ⟨mantissa, exponent, short, split⟩ := nearestNat_eq_self_iff.1 magnitude
    have unsigned : (value.natAbs : Int) = mantissa * 2 ^ exponent := by
      rw [split, Int.natCast_mul, Int.natCast_pow]
      rfl
    rcases Int.natAbs_eq value with positive | negative
    · exact ⟨mantissa, exponent, short, positive.trans unsigned⟩
    · refine ⟨-mantissa, exponent, by rwa [Int.natAbs_neg], ?_⟩
      rw [Int.neg_mul, ← unsigned]
      exact negative
  · rintro ⟨mantissa, exponent, short, rfl⟩
    have split : (mantissa * 2 ^ exponent).natAbs = mantissa.natAbs * 2 ^ exponent := by
      rw [Int.natAbs_mul, Int.natAbs_pow]
      rfl
    unfold nearestInt
    rw [nearestNat_eq_self_iff.2 ⟨mantissa.natAbs, exponent, short, split⟩, Int.sign_mul_natAbs]

/-! ### Scaled ratios -/

theorem descale_of_large (large : 52 ≤ number.log2) :
    descale number 1 ((number.log2 : Int) - 52) = (number, spacing number) := by
  have exponent : ((number.log2 : Int) - 52).toNat = number.log2 - 52 := by omega
  unfold descale spacing
  rw [if_pos (by omega), exponent, Nat.one_mul]

theorem descale_of_small (small : number.log2 < 52) :
    descale number 1 ((number.log2 : Int) - 52) = (number * 2 ^ (52 - number.log2), 1) := by
  have exponent : (-((number.log2 : Int) - 52)).toNat = 52 - number.log2 := by omega
  unfold descale
  rw [if_neg (by omega), exponent]

/-- A small number gets its missing digits from the right. -/
theorem mantissa_of_small (nonzero : number ≠ 0) (small : number.log2 < 52) :
    2 ^ 52 ≤ number * 2 ^ (52 - number.log2) ∧ number * 2 ^ (52 - number.log2) < 2 ^ 53 := by
  have split (extra : Nat) :
      2 ^ (52 + extra) = 2 ^ (number.log2 + extra) * 2 ^ (52 - number.log2) := by
    rw [← Nat.pow_add]
    congr 1
    omega
  have positive : 0 < 2 ^ (52 - number.log2) := Nat.two_pow_pos _
  exact ⟨Nat.le_trans (Nat.le_of_eq (split 0))
      (Nat.mul_le_mul_right _ (Nat.log2_self_le nonzero)),
    Nat.lt_of_lt_of_eq (Nat.mul_lt_mul_of_pos_right Nat.lt_log2_self positive) (split 1).symm⟩

/-- The exponent at which a natural number has 53 digits before its point. -/
theorem exponentOf_one (nonzero : number ≠ 0) :
    BinaryFormat.double.exponentOf number 1 = (number.log2 : Int) - 52 := by
  have guess : (number.log2 : Int) - Nat.log2 1 - BinaryFormat.double.precision + 1 =
      number.log2 - 52 := by
    show (number.log2 : Int) - (0 : Nat) - (53 : Nat) + 1 = number.log2 - 52
    omega
  have fits : 2 ^ (BinaryFormat.double.precision - 1) ≤
      (descale number 1 ((number.log2 : Int) - 52)).1 /
        (descale number 1 ((number.log2 : Int) - 52)).2 := by
    show 2 ^ 52 ≤ _
    by_cases small : number.log2 < 52
    · rw [descale_of_small small, Nat.div_one]
      exact (mantissa_of_small nonzero small).1
    · have large : 52 ≤ number.log2 := Nat.le_of_not_lt small
      rw [descale_of_large large]
      exact two_pow_le_div_spacing large
  unfold BinaryFormat.exponentOf
  rw [guess]
  dsimp only
  rw [if_neg (Nat.not_lt.2 fits)]
  exact Int.max_eq_left (show (-1074 : Int) ≤ number.log2 - 52 by omega)

end Number

namespace Double

open Number

/-! ### Whole numbers as floating-point numbers -/

theorem orderKey_ofScaled {mantissa : Nat} {exponent : Int}
    (canonical : Canonical mantissa exponent) (negative : Bool) :
    (ofScaled negative mantissa exponent).orderKey = some (units negative mantissa exponent) := by
  unfold ofScaled
  rw [dif_pos canonical]
  rfl

/-- A mantissa that was rounded up to one digit too many is halved, which keeps the number. -/
theorem units_carry (negative : Bool) {exponent : Int} (least : -1074 ≤ exponent) :
    units negative (2 ^ 52) (exponent + 1) = units negative (2 ^ 53) exponent := by
  have next : (exponent + 1 + 1074).toNat = (exponent + 1074).toNat + 1 := by omega
  unfold units
  rw [next, Int.pow_succ]
  have same : ((2 ^ 52 : Nat) : Int) * (2 ^ (exponent + 1074).toNat * 2) =
      ((2 ^ 53 : Nat) : Int) * 2 ^ (exponent + 1074).toNat := by
    omega
  rw [same]

theorem orderKey_ofRatio {numerator denominator : Nat} (nonzero : numerator ≠ 0) (negative : Bool)
    {exponent : Int} {top bottom : Nat}
    (found : BinaryFormat.double.exponentOf numerator denominator = exponent)
    (scaled : descale numerator denominator exponent = (top, bottom))
    (fits : 2 ^ 52 ≤ roundQuotient top bottom ∧ roundQuotient top bottom ≤ 2 ^ 53)
    (inside : -1074 ≤ exponent ∧ exponent ≤ 970) :
    (ofRatio negative numerator denominator).orderKey =
      some (units negative (roundQuotient top bottom) exponent) := by
  unfold ofRatio BinaryFormat.nearest
  rw [if_neg nonzero, found]
  dsimp only
  rw [scaled]
  dsimp only
  split
  · next carried =>
    have canonical : Canonical (2 ^ 52) (exponent + 1) :=
      ⟨by decide, by omega, by omega, .inl (by decide)⟩
    rw [show roundQuotient top bottom = 2 ^ 53 from carried, ← units_carry negative inside.1]
    exact orderKey_ofScaled canonical negative
  · next short =>
    have less : roundQuotient top bottom ≠ 2 ^ 53 := short
    exact orderKey_ofScaled ⟨by omega, by omega, by omega, .inl fits.1⟩ negative

/-- How many smallest units one counts. -/
def unitsPerOne : Nat :=
  2 ^ 1074

theorem unitsPerOne_pos : 0 < unitsPerOne := by
  unfold unitsPerOne
  generalize 1074 = least
  exact Nat.two_pow_pos least

theorem two_pow_eq_mul_unitsPerOne {exponent extra : Nat} (same : exponent = extra + 1074) :
    2 ^ exponent = 2 ^ extra * unitsPerOne := by
  unfold unitsPerOne
  generalize 1074 = least at same ⊢
  rw [same, Nat.pow_add]

theorem units_eq_of_mul_eq {mantissa count : Nat} {exponent : Int}
    (same : mantissa * 2 ^ (exponent + 1074).toNat = count * unitsPerOne) (negative : Bool) :
    units negative mantissa exponent =
      if negative then -((count : Int) * unitsPerOne) else (count : Int) * unitsPerOne := by
  have lifted := congrArg (Nat.cast : Nat → Int) same
  rw [Int.natCast_mul, Int.natCast_mul, Int.natCast_pow] at lifted
  unfold units
  rw [← lifted]
  rfl

/-- How many smallest units the number nearest to a natural number counts. -/
theorem orderKey_ofRatio_one {number : Nat} (nonzero : number ≠ 0) (small : number < 2 ^ 64)
    (negative : Bool) :
    (ofRatio negative number 1).orderKey =
      some (if negative then -((nearestNat number : Int) * unitsPerOne)
        else (nearestNat number : Int) * unitsPerOne) := by
  have digits : number.log2 < 64 := (Nat.log2_lt nonzero).2 small
  by_cases few : number.log2 < 52
  · have fits := mantissa_of_small nonzero few
    have exact : number < 2 ^ 53 :=
      Nat.lt_of_lt_of_le Nat.lt_log2_self (Nat.pow_le_pow_right (by decide) (by omega))
    rw [← roundQuotient_one (number * 2 ^ (52 - number.log2))] at fits
    rw [orderKey_ofRatio nonzero negative (exponentOf_one nonzero) (descale_of_small few)
      ⟨fits.1, Nat.le_of_lt fits.2⟩ (by omega)]
    refine congrArg some (units_eq_of_mul_eq ?_ negative)
    rw [roundQuotient_one, nearestNat_of_lt exact, Nat.mul_assoc, ← Nat.pow_add,
      @two_pow_eq_mul_unitsPerOne _ 0 (by omega), Nat.pow_zero, Nat.one_mul]
  · have large : 52 ≤ number.log2 := Nat.le_of_not_lt few
    have exponent : ((number.log2 : Int) - 52 + 1074).toNat = number.log2 - 52 + 1074 := by omega
    rw [orderKey_ofRatio nonzero negative (exponentOf_one nonzero) (descale_of_large large)
      (roundQuotient_spacing large) (by omega)]
    refine congrArg some (units_eq_of_mul_eq ?_ negative)
    unfold nearestNat spacing
    rw [two_pow_eq_mul_unitsPerOne exponent, Nat.mul_assoc]

/-- How many smallest units the number nearest to a whole number counts. -/
theorem orderKey_ofInt {value : Int} (small : value.natAbs < 2 ^ 64) :
    (ofInt value).orderKey = some (nearestInt value * unitsPerOne) := by
  unfold ofInt nearestInt
  rcases Int.lt_trichotomy value 0 with negative | rfl | positive
  · rw [orderKey_ofRatio_one (by omega) small, if_pos (decide_eq_true negative),
      Int.sign_eq_neg_one_of_neg negative, Int.neg_one_mul, Int.neg_mul]
  · rw [Int.sign_zero, Int.zero_mul, Int.zero_mul]
    rfl
  · rw [orderKey_ofRatio_one (by omega) small,
      if_neg (by rw [decide_eq_true_iff]; omega), Int.sign_eq_one_of_pos positive, Int.one_mul]

/-- The floating-point numbers nearest to two whole numbers are ordered as these are after
rounding. -/
theorem compare?_ofInt {first second : Int} (firstSmall : first.natAbs < 2 ^ 64)
    (secondSmall : second.natAbs < 2 ^ 64) :
    (ofInt first).compare? (ofInt second) =
      some (compare (nearestInt first) (nearestInt second)) := by
  have positive : (0 : Int) < unitsPerOne := Int.ofNat_lt.2 unitsPerOne_pos
  unfold compare?
  rw [orderKey_ofInt firstSmall, orderKey_ofInt secondSmall]
  dsimp only
  rcases Int.lt_trichotomy (nearestInt first) (nearestInt second) with less | same | more
  · rw [Int.compare_eq_lt.2 less, Int.compare_eq_lt.2 (Int.mul_lt_mul_of_pos_right less positive)]
  · rw [same, Int.compare_eq_eq.2 rfl, Int.compare_eq_eq.2 rfl]
  · rw [Int.compare_eq_gt.2 more, Int.compare_eq_gt.2 (Int.mul_lt_mul_of_pos_right more positive)]

theorem equals_ofInt_iff {first second : Int} (firstSmall : first.natAbs < 2 ^ 64)
    (secondSmall : second.natAbs < 2 ^ 64) :
    (ofInt first).equals (ofInt second) = true ↔ nearestInt first = nearestInt second := by
  unfold equals
  rw [compare?_ofInt firstSmall secondSmall, beq_iff_eq, Option.some.injEq, Int.compare_eq_eq]

/-- A whole number of 64 bits is far from the infinities. -/
theorem isFinite_ofInt {value : Int} (small : value.natAbs < 2 ^ 64) :
    (ofInt value).isFinite = true := by
  have key := orderKey_ofInt small
  have below : (nearestInt value * unitsPerOne).natAbs < 2 ^ 2099 := by
    calc (nearestInt value * unitsPerOne).natAbs
        = (nearestInt value).natAbs * unitsPerOne := by rw [Int.natAbs_mul, Int.natAbs_natCast]
      _ ≤ 2 ^ 64 * unitsPerOne := Nat.mul_le_mul_right _ (natAbs_nearestInt_le small)
      _ = 2 ^ 1138 := (@two_pow_eq_mul_unitsPerOne 1138 64 rfl).symm
      _ < 2 ^ 2099 := by
        rw [Nat.pow_lt_pow_iff_right (by decide)]
        decide
  cases made : ofInt value with
  | finite => rfl
  | nan =>
    rw [made] at key
    cases key
  | infinite negative =>
    rw [made] at key
    have beyond : (nearestInt value * unitsPerOne).natAbs = 2 ^ 2099 := by
      rw [← Option.some.inj key]
      cases negative <;> decide +kernel
    omega

end Double

end Rulebook
