/-
# Reading a JSON number

A number is scanned first and understood second.  Scanning yields a `Literal`, its digits as
they stand; it is all that a skipped number needs.  `Literal.number?` gives the value.

The digits go into a significand of 64 bits.  Once a digit would overflow it, that digit and the
rest of its run are dropped, and each dropped digit of the whole part counts as a power of ten.
A literal without fraction, exponent and dropped digits is an integer; anything else, and minus
zero, is a floating point number.
-/
import CodeAssistant.Json.Reader

namespace CodeAssistant.Numbers

open Decimal (Binary64)

/-! ## 1. Runs of digits -/

/-- A decimal digit of ASCII. -/
def isDigit (c : Char) : Bool := '0' ≤ c && c ≤ '9'

/-- The value of a decimal digit. -/
def digitValue (c : Char) : Nat := c.toNat - '0'.toNat

/-- The digits at the front of a text. -/
def digits (s : List Char) : List Char := s.takeWhile isDigit

/-- The text behind the digits at its front. -/
def afterDigits (s : List Char) : List Char := s.dropWhile isDigit

theorem length_afterDigits_le (s : List Char) : (afterDigits s).length ≤ s.length :=
  (List.dropWhile_sublist _).length_le

theorem length_afterDigits_lt {c : Char} {s : List Char} (h : isDigit c = true) :
    (afterDigits (c :: s)).length < (c :: s).length := by
  have := length_afterDigits_le s
  simp only [afterDigits, List.dropWhile_cons, h, if_true, List.length_cons] at *
  omega

/-- Appends digits to a number while it stays at or below a limit: the number reached and how
many digits did not fit. -/
def absorb (limit : Nat) : Nat → List Char → Nat × Nat
  | n, [] => (n, 0)
  | n, c :: cs =>
    if n * 10 + digitValue c ≤ limit then absorb limit (n * 10 + digitValue c) cs
    else (n, cs.length + 1)

/-! ## 2. Scanning -/

/-- A number as it is written. -/
structure Literal where
  negative : Bool
  whole : List Char
  fraction : List Char
  /-- The sign and the digits of the exponent. -/
  exponent : Option (Bool × List Char)
  /-- The literal has a fraction or an exponent. -/
  hasTail : Bool
  deriving DecidableEq, Repr

/-- What a missing digit means: at the end of a text that is read, the text is incomplete. -/
def missingDigit (mode : Mode) (s : List Char) : Fault :=
  match mode, s with
  | .read, [] => .here .endInValue []
  | _, s => .next .invalidNumber s

/-- The sign of an exponent and the text behind it. -/
def exponentSign : List Char → Bool × List Char
  | '+' :: r => (false, r)
  | '-' :: r => (true, r)
  | s => (false, s)

/-- An exponent, from behind its letter. -/
def scanExponent (mode : Mode) (s : List Char) : Reading (Bool × List Char) :=
  match exponentSign s with
  | (negative, r) =>
    match digits r with
    | [] => .error (missingDigit mode r)
    | ds => .ok ((negative, ds), afterDigits r)

/-- The text starts with the letter of an exponent. -/
def isExponentLetter (c : Char) : Bool := c = 'e' || c = 'E'

/-- The exponent of a number, if one follows. -/
def scanExponent? (mode : Mode) (s : List Char) : Reading (Option (Bool × List Char)) :=
  match s with
  | [] => .ok (none, [])
  | c :: r =>
    if isExponentLetter c then
      match scanExponent mode r with
      | .error e => .error e
      | .ok (x, r') => .ok (some x, r')
    else .ok (none, c :: r)

/-- The whole part: a zero alone or digits that do not start with one. -/
def scanWhole (mode : Mode) (s : List Char) : Reading (List Char) :=
  match s with
  | [] => .error (missingDigit mode [])
  | c :: r =>
    if c = '0' then
      match r with
      | [] => .ok (['0'], [])
      | d :: r' => if isDigit d then .error (.next .invalidNumber (d :: r')) else .ok (['0'], d :: r')
    else if isDigit c then .ok (digits (c :: r), afterDigits (c :: r))
    else .error (.next .invalidNumber (c :: r))

/-- The fraction and the exponent, each if it follows. -/
def scanTail (mode : Mode) (negative : Bool) (whole : List Char) (s : List Char) :
    Reading Literal :=
  match s with
  | '.' :: r =>
    match digits r with
    | [] => .error (missingDigit mode r)
    | ds => match scanExponent? mode (afterDigits r) with
      | .error e => .error e
      | .ok (x, r') => .ok (⟨negative, whole, ds, x, true⟩, r')
  | s => match scanExponent? mode s with
    | .error e => .error e
    | .ok (x, r') => .ok (⟨negative, whole, [], x, x.isSome⟩, r')

/-- A number, from behind its sign. -/
def scan (mode : Mode) (negative : Bool) (s : List Char) : Reading Literal :=
  match scanWhole mode s with
  | .error e => .error e
  | .ok (whole, r) => scanTail mode negative whole r

/-! ## 3. Scanning consumes -/

theorem length_exponentSign_le (s : List Char) : (exponentSign s).2.length ≤ s.length := by
  unfold exponentSign
  split <;> simp

theorem length_of_scanExponent {mode : Mode} {s r : List Char} {x : Bool × List Char}
    (h : scanExponent mode s = .ok (x, r)) : r.length ≤ s.length := by
  have hs := length_exponentSign_le s
  simp only [scanExponent] at h
  split at h
  · cases h
  · cases h
    exact Nat.le_trans (length_afterDigits_le _) hs

theorem length_of_scanExponent? {mode : Mode} {s r : List Char}
    {x : Option (Bool × List Char)} (h : scanExponent? mode s = .ok (x, r)) :
    r.length ≤ s.length := by
  unfold scanExponent? at h
  split at h
  · cases h; simp
  · split at h
    · split at h
      · cases h
      · rename_i hx
        cases h
        exact Nat.le_succ_of_le (length_of_scanExponent hx)
    · cases h; simp

theorem length_of_scanWhole {mode : Mode} {s r ds : List Char}
    (h : scanWhole mode s = .ok (ds, r)) : r.length < s.length := by
  unfold scanWhole at h
  split at h
  · cases h
  · split at h
    · split at h
      · cases h; simp
      · split at h
        · cases h
        · cases h; simp
    · split at h
      · rename_i hd
        cases h
        exact length_afterDigits_lt hd
      · cases h

theorem length_of_scanTail {mode : Mode} {negative : Bool} {whole s r : List Char} {l : Literal}
    (h : scanTail mode negative whole s = .ok (l, r)) : r.length ≤ s.length := by
  unfold scanTail at h
  split at h
  · rename_i r'
    split at h
    · cases h
    · split at h
      · cases h
      · rename_i hx
        cases h
        have := length_of_scanExponent? hx
        have := length_afterDigits_le r'
        simp only [List.length_cons]
        omega
  · split at h
    · cases h
    · rename_i hx
      cases h
      exact length_of_scanExponent? hx

theorem length_of_scan {mode : Mode} {negative : Bool} {s r : List Char} {l : Literal}
    (h : scan mode negative s = .ok (l, r)) : r.length < s.length := by
  unfold scan at h
  split at h
  · cases h
  · rename_i hw
    exact Nat.lt_of_le_of_lt (length_of_scanTail h) (length_of_scanWhole hw)

/-! ## 4. Values -/

/-- The largest significand. -/
def maxSignificand : Nat := UInt64.size - 1

/-- The largest exponent that is still counted. -/
def maxExponent : Nat := 0x7FFFFFFF

/-- An integer with a sign.  Minus zero and integers below -2⁶³ are floating point numbers. -/
def ofInteger (negative : Bool) (n : Nat) : Number :=
  if negative then
    if h : 0 < n ∧ n ≤ 0x8000000000000000 then .negative ⟨n - 1, by omega⟩
    else .float (Binary64.ofNat true n)
  else .natural (UInt64.ofNat n)

/-- The value of a literal.  When it is out of range, the number of its last digits that are not
needed to see that. -/
def Literal.number? (l : Literal) : Except Nat Number :=
  let (whole, dropped) := absorb maxSignificand 0 l.whole
  if !l.hasTail && dropped = 0 then .ok (ofInteger l.negative whole)
  else
    let (significand, unused) := absorb maxSignificand whole l.fraction
    let power : Int := dropped - (l.fraction.length - unused : Nat)
    match l.exponent with
    | none => float significand power
    | some (down, ds) =>
      let (x, excess) := absorb maxExponent 0 ds
      if excess = 0 then float significand (if down then power - x else power + x)
      else if significand ≠ 0 ∧ !down then .error (excess - 1)
      else .ok (.float ⟨l.negative, Binary64.zero.magnitude⟩)
where
  float (significand : Nat) (power : Int) : Except Nat Number :=
    match Binary64.ofDecimal? l.negative significand power with
    | some x => .ok (.float x)
    | none => .error 0

/-- A number that is read, from behind its sign. -/
def read (negative : Bool) (s : List Char) : Reading Number :=
  match scan .read negative s with
  | .error e => .error e
  | .ok (l, r) => match l.number? with
    | .ok n => .ok (n, r)
    | .error unneeded => .error ⟨.numberOutOfRange, Text.Utf8.size r + unneeded⟩

end CodeAssistant.Numbers
