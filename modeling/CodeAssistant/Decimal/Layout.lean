/-
# Writing a decimal

The digits of a number are one thing, their layout another: where positional notation ends and
an exponent begins, whether a whole number shows that it could have had a fraction, and which of
two equally near decimals is written.  Two layouts are in use: numbers in JSON text, and numbers
in the text that a user reads.
-/
import CodeAssistant.Decimal.Shortest

namespace CodeAssistant.Decimal

/-- The decisions of a layout. -/
structure Layout where
  /-- The leading exponents written positionally; `none` means all of them. -/
  plain : Option (Int × Int)
  /-- A whole number ends in `.0`. -/
  markWhole : Bool
  tie : Tie
  deriving DecidableEq, Repr

/-- JSON text: positional from `0.00001` to below `1e16`, whole numbers marked, ties to even. -/
def Layout.wire : Layout := ⟨some (-5, 15), true, .toEven⟩

/-- Text for a reader: always positional, whole numbers unmarked, ties away from zero. -/
def Layout.display : Layout := ⟨none, false, .up⟩

/-- Positional notation. -/
def Layout.positional (l : Layout) (d : Digits) : List Char :=
  let whole := if l.markWhole then ['.', '0'] else []
  if d.exponent < 0 then
    '0' :: '.' :: List.replicate (d.exponent.natAbs - 1) '0' ++ d.digits
  else
    let places := d.exponent.natAbs + 1
    if d.digits.length ≤ places then
      d.digits ++ List.replicate (places - d.digits.length) '0' ++ whole
    else d.digits.take places ++ '.' :: d.digits.drop places

/-- Notation with an exponent, whose sign is always written. -/
def scientific (d : Digits) : List Char :=
  let mantissa := match d.digits with
    | [] => []
    | [a] => [a]
    | a :: rest => a :: '.' :: rest
  mantissa ++ 'e' :: (if d.exponent < 0 then '-' else '+') :: Nat.toDigits 10 d.exponent.natAbs

/-- The decimal in a layout. -/
def Layout.write (l : Layout) (d : Digits) : List Char :=
  match l.plain with
  | none => l.positional d
  | some (least, greatest) =>
    if least ≤ d.exponent ∧ d.exponent ≤ greatest then l.positional d else scientific d

/-- The shortest decimal of a number, in a layout. -/
def Binary64.writeList (l : Layout) (x : Binary64) : List Char :=
  (if x.negative then ['-'] else []) ++ l.write (Digits.shortest l.tie x.magnitude)

/-- The shortest decimal of a number, in a layout. -/
def Binary64.write (l : Layout) (x : Binary64) : String := String.ofList (x.writeList l)

end CodeAssistant.Decimal
