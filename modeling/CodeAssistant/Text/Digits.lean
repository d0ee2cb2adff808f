/-
# Digits

Digits of base sixteen and below, and the numbers that they spell.
-/

namespace CodeAssistant.Text

/-- The value of a hexadecimal digit of either case. -/
def hexValue? (c : Char) : Option Nat :=
  if '0' ≤ c ∧ c ≤ '9' then some (c.toNat - '0'.toNat)
  else if 'a' ≤ c ∧ c ≤ 'f' then some (c.toNat - 'a'.toNat + 10)
  else if 'A' ≤ c ∧ c ≤ 'F' then some (c.toNat - 'A'.toNat + 10)
  else none

/-- The value of a digit in a base of at most sixteen. -/
def digitValue? (base : Nat) (c : Char) : Option Nat := (hexValue? c).filter (· < base)

/-- The number whose digits stand behind those of `n`; none if a character is no digit. -/
def readDigits? (base : Nat) (n : Nat) : List Char → Option Nat
  | [] => some n
  | c :: cs => match digitValue? base c with
    | none => none
    | some d => readDigits? base (n * base + d) cs

/-- The number that digits spell; none if a character is no digit.  No digits spell zero. -/
def ofDigits? (base : Nat) (cs : List Char) : Option Nat := readDigits? base 0 cs

end CodeAssistant.Text
