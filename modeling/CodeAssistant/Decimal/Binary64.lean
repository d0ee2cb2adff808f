/-
# Finite binary floating point numbers

The finite numbers of the binary64 format, as a sign and a magnitude.  The magnitude is the
number's own place among all magnitudes in increasing order, which is also its bit pattern:
the quotient by 2⁵² is the exponent field, the remainder the fraction.  So the successor of a
magnitude is the next larger number, and rounding that carries into the exponent needs no case.

`Binary64.ratio` is the value, a quotient of natural numbers, and `roundRatio` the nearest
magnitude to a quotient, ties to even.  All arithmetic is exact until that one rounding.
-/

namespace CodeAssistant.Decimal

/-- One more than the largest finite magnitude. -/
def magnitudeBound : Nat := 2047 <<< 52

/-- A finite number of the binary64 format. -/
structure Binary64 where
  negative : Bool
  magnitude : Fin magnitudeBound
  deriving DecidableEq, Repr

namespace Binary64

/-- Positive zero. -/
def zero : Binary64 := ⟨false, 0, by decide⟩

instance : Inhabited Binary64 := ⟨zero⟩

end Binary64

/-! ## 1. Values -/

/-- A magnitude as `m` units of `2 ^ (e - 1074)`: the pair `(m, e)`. -/
def scaled (magnitude : Nat) : Nat × Nat :=
  let e := magnitude >>> 52
  let f := magnitude % 1 <<< 52
  if e = 0 then (f, 0) else (1 <<< 52 + f, e - 1)

/-- The value of a magnitude as a quotient. -/
def ratio (magnitude : Nat) : Nat × Nat :=
  let (m, e) := scaled magnitude
  if 1074 ≤ e then (m <<< (e - 1074), 1) else (m, 1 <<< (1074 - e))

/-! ## 2. Rounding -/

/-- The nearest natural number to a quotient, ties to even. -/
def roundDiv (num den : Nat) : Nat :=
  let q := num / den
  let r := num % den
  if 2 * r < den then q
  else if den < 2 * r then q + 1
  else if q % 2 = 0 then q else q + 1

/-- The exponent of the unit in the last place for a quotient: the least `e` for which the
quotient is below `2 ^ 53` units of `2 ^ (e - 1074)`, found from the lengths of its terms. -/
def unitExponent (num den : Nat) : Nat :=
  -- The quotient lies in [2 ^ (d - 1), 2 ^ (d + 1)) for d = log num - log den.
  let guess := Nat.log2 num + 1074 - Nat.log2 den - 53
  if num <<< 1074 < den <<< (53 + guess) then guess else guess + 1

/-- The magnitude nearest to a quotient, ties to even.  It reaches `magnitudeBound` exactly when
the quotient is too large for the format. -/
def roundRatio (num den : Nat) : Nat :=
  if num = 0 then 0
  else
    let e := unitExponent num den
    -- num / den in units of 2 ^ (e - 1074)
    let m := if 1074 ≤ e then roundDiv num (den <<< (e - 1074))
      else roundDiv (num <<< (1074 - e)) den
    e <<< 52 + m

/-- A quotient with a sign, rounded; `none` when it is too large. -/
def Binary64.ofRatio? (negative : Bool) (num den : Nat) : Option Binary64 :=
  let m := roundRatio num den
  if h : m < magnitudeBound then some ⟨negative, m, h⟩ else none

/-! ## 3. Products and quotients of magnitudes -/

/-- The rounded product of two magnitudes. -/
def mulMagnitude (a b : Nat) : Nat :=
  let (n, d) := ratio a
  let (n', d') := ratio b
  roundRatio (n * n') (d * d')

/-- The rounded quotient of two magnitudes, the second not zero. -/
def divMagnitude (a b : Nat) : Nat :=
  let (n, d) := ratio a
  let (n', d') := ratio b
  roundRatio (n * d') (d * n')

/-- The magnitude nearest to a power of ten. -/
def powerOfTen (k : Nat) : Nat := roundRatio (Nat.pow 10 k) 1

/-- How a decimal is read: the digits are rounded to a magnitude first, then multiplied or
divided by a power of ten and rounded again.  Powers above 308 are taken in steps of `1e308`;
`none` means that the number is too large. -/
def scaleByTen (magnitude : Nat) (exponent : Int) (steps : Nat) : Option Nat :=
  if exponent.natAbs ≤ 308 then
    if 0 ≤ exponent then
      let m := mulMagnitude magnitude (powerOfTen exponent.natAbs)
      if m < magnitudeBound then some m else none
    else some (divMagnitude magnitude (powerOfTen exponent.natAbs))
  else if magnitude = 0 then some 0
  else if 0 ≤ exponent then none
  else match steps with
    | 0 => some 0
    | steps + 1 => scaleByTen (divMagnitude magnitude (powerOfTen 308)) (exponent + 308) steps

/-- The number with the given significand and decimal exponent.  Three steps are enough: each
divides by `1e308`, and no magnitude survives three of them. -/
def Binary64.ofDecimal? (negative : Bool) (significand : Nat) (exponent : Int) :
    Option Binary64 :=
  match scaleByTen (roundRatio significand 1) exponent 3 with
  | some m => if h : m < magnitudeBound then some ⟨negative, m, h⟩ else none
  | none => none

/-- The number nearest to an integer below the format's range. -/
def Binary64.ofNat (negative : Bool) (n : Nat) : Binary64 :=
  (Binary64.ofRatio? negative n 1).getD zero

end CodeAssistant.Decimal
