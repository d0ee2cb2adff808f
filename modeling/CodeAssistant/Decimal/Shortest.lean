/-
# The shortest decimal that reads back

A binary64 number stands for all reals that round to it, an interval around the number (its
ends belong to it exactly when the significand is even).  Its shortest decimal is the one with
the fewest digits in that interval, and among those the nearest to the number.  Of two that are
equally near a `Tie` says which is taken.

For each count of digits the only candidates are the two neighbours of the number on the grid
of decimals with so many digits: if any point of the grid lies in the interval, one of them
does.  Seventeen digits always suffice, so the search ends.  All comparisons are between
products of natural numbers.
-/
import CodeAssistant.Decimal.Binary64

namespace CodeAssistant.Decimal

/-- A decimal `d₀.d₁d₂… × 10 ^ exponent`: its digits, without trailing zeros, and the exponent of
the first of them. -/
structure Digits where
  digits : List Char
  exponent : Int
  deriving DecidableEq, Repr

/-! ## 1. The interval of a magnitude -/

/-- A positive magnitude in quarter units of its last place: the lower end of its interval, the
number, the upper end, and the size of a quarter unit as a quotient. -/
structure Span where
  low : Nat
  mid : Nat
  high : Nat
  unitNum : Nat
  unitDen : Nat
  /-- The ends belong to the interval. -/
  closed : Bool

/-- The interval of the reals that round to a magnitude.  Below a power of two the numbers lie
twice as close. -/
def Span.of (magnitude : Nat) : Span :=
  let (m, e) := scaled magnitude
  { low := if m = 1 <<< 52 ∧ 0 < e then 4 * m - 1 else 4 * m - 2
    mid := 4 * m
    high := 4 * m + 2
    unitNum := if 1076 ≤ e then 1 <<< (e - 1076) else 1
    unitDen := if 1076 ≤ e then 1 else 1 <<< (1076 - e)
    closed := m % 2 = 0 }

/-- The exponent of the first decimal digit of the number.  The scale `10 ^ 340` makes the
smallest number larger than one. -/
def Span.leading (s : Span) : Int :=
  (Nat.toDigits 10 (s.mid * s.unitNum * Nat.pow 10 340 / s.unitDen)).length - 341

/-! ## 2. Candidates -/

/-- Which of two equally near decimals is taken. -/
inductive Tie
  /-- The one whose last digit is even. -/
  | toEven
  /-- The one farther from zero. -/
  | up
  deriving DecidableEq, Repr

/-- The choice between a number of steps and one step more. -/
def Tie.choose : Tie → Nat → Nat
  | toEven, below => if below % 2 = 0 then below else below + 1
  | up, below => below + 1

/-- `q` quarter units as a quotient of naturals in steps of `10 ^ place`: numerator and
denominator. -/
def Span.inSteps (s : Span) (q : Nat) (place : Int) : Nat × Nat :=
  if 0 ≤ place then (q * s.unitNum, s.unitDen * Nat.pow 10 place.natAbs)
  else (q * s.unitNum * Nat.pow 10 place.natAbs, s.unitDen)

/-- `c` steps of `10 ^ place` lie in the interval. -/
def Span.holds (s : Span) (c : Nat) (place : Int) : Bool :=
  let (lowNum, lowDen) := s.inSteps s.low place
  let (highNum, highDen) := s.inSteps s.high place
  if s.closed then lowNum ≤ c * lowDen && c * highDen ≤ highNum
  else lowNum < c * lowDen && c * highDen < highNum

/-- The number of steps of `10 ^ place` that reads back and is nearest to the number, if one of
the number's two neighbours on that grid reads back. -/
def Span.neighbour? (tie : Tie) (s : Span) (place : Int) : Option Nat :=
  let (num, den) := s.inSteps s.mid place
  let below := num / den
  let above := below + 1
  match s.holds below place, s.holds above place with
  | true, true =>
    let twice := 2 * (num % den)
    if twice < den then some below
    else if den < twice then some above
    else some (tie.choose below)
  | true, false => some below
  | false, true => some above
  | false, false => none

/-- The first grid, from the coarsest on, with a decimal that reads back. -/
def Span.search (tie : Tie) (s : Span) (place : Int) : Nat → Nat × Int
  | 0 => ((s.inSteps s.mid place).1 / (s.inSteps s.mid place).2, place)
  | more + 1 =>
    match s.neighbour? tie place with
    | some c => (c, place)
    | none => s.search tie (place - 1) more

/-! ## 3. Digits -/

/-- The digits of a positive number of steps of `10 ^ place`, trailing zeros dropped. -/
def Digits.ofSteps (c : Nat) (place : Int) : Digits :=
  let ds := Nat.toDigits 10 c
  { digits := (ds.reverse.dropWhile (· = '0')).reverse
    exponent := place + (ds.length - 1) }

/-- The shortest decimal that rounds to a magnitude; zero has the one digit `0`. -/
def Digits.shortest (tie : Tie) (magnitude : Nat) : Digits :=
  if magnitude = 0 then ⟨['0'], 0⟩
  else
    let s := Span.of magnitude
    let (c, place) := s.search tie s.leading 17
    Digits.ofSteps c place

end CodeAssistant.Decimal
