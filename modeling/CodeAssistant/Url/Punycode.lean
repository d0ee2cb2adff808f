/-
# Names of other scripts in ASCII

A text with characters of other scripts is written as its ASCII characters, a minus sign, and a
row of numbers, each of which inserts one character.  Numbers have base 36 with the lowest digit
first, and a digit below a threshold ends a number; the threshold adapts to the size of the
numbers before.  `Punycode.decode?` reads such a text, and `Punycode.encode` writes it.
-/

namespace CodeAssistant.Url.Punycode

/-! ## 1. Numbers -/

/-- The value of a digit: the letters, then the ten digits. -/
def digitValue? (c : Char) : Option Nat :=
  if 'a' ≤ c ∧ c ≤ 'z' then some (c.toNat - 97)
  else if c.isDigit then some (c.toNat - 22)
  else none

/-- A digit below this ends a number.  `position` grows by 36 with each digit. -/
def threshold (position bias : Nat) : Nat := max 1 (min 26 (position - bias))

/-- A threshold is never zero. -/
theorem threshold_pos (position bias : Nat) : 0 < threshold position bias := by
  unfold threshold; omega

/-- The digit with a value. -/
def digit (n : Nat) : Char := Char.ofNat (if n < 26 then n + 97 else n + 22)

/-- The digits of a number. -/
def writeNumber (bias position n : Nat) : List Char :=
  let t := threshold position bias
  if n < t then [digit n]
  else digit (t + (n - t) % (36 - t)) :: writeNumber bias (position + 36) ((n - t) / (36 - t))
termination_by n
decreasing_by
  have ht := threshold_pos position bias
  exact Nat.lt_of_le_of_lt (Nat.div_le_self _ _) (by omega)

/-- The bias for a number of the size of `delta`. -/
def biasFor (delta : Nat) : Nat :=
  if 455 < delta then 36 + biasFor (delta / 35) else 36 * delta / (delta + 38)
termination_by delta

/-- The bias behind a number that moved the place of insertion by `delta`, with so many characters
there now. -/
def adapt (delta count : Nat) (first : Bool) : Nat :=
  let delta := if first then delta / 700 else delta / 2
  biasFor (delta + delta / count)

/-! ## 2. Insertions -/

/-- What has been read so far. -/
structure State where
  /-- The characters in order. -/
  text : List Char
  /-- The code point of the last insertion. -/
  code : Nat := 128
  /-- The place of the next insertion, counted on over the number that is being read. -/
  place : Nat := 0
  bias : Nat := 72
  /-- Where the count stood before that number. -/
  start : Nat := 0
  weight : Nat := 1
  position : Nat := 36
  deriving DecidableEq, Repr

namespace State

/-- No number is half read. -/
def isComplete (s : State) : Bool := s.position = 36

/-- The state behind the last digit of a number.  Each full turn through the text and the places
in it is a step to the next code point. -/
def insert? (s : State) : Option State :=
  let count := s.text.length + 1
  let code := s.code + s.place / count
  let place := s.place % count
  if code.isValidChar then
    some {
      text := s.text.insertIdx place (Char.ofNat code)
      code
      place := place + 1
      bias := adapt (s.place - s.start) count (s.start = 0)
      start := place + 1 }
  else none

/-- Numbers are below this. -/
def limit : Nat := 4294967296

/-- Reads a digit. -/
def read? (s : State) (c : Char) : Option State :=
  match digitValue? c with
  | none => none
  | some digit =>
    let t := threshold s.position s.bias
    let place := s.place + digit * s.weight
    let weight := s.weight * (36 - t)
    if limit ≤ place then none
    else if digit < t then insert? { s with place }
    else if limit ≤ weight then none
    else some { s with place, weight, position := s.position + 36 }

/-- Reads digits one after the other. -/
def readAll? (s : State) : List Char → Option State
  | [] => some s
  | c :: cs => (s.read? c).bind (readAll? · cs)

end State

/-! ## 3. Texts -/

/-- The ASCII characters of a text and its digits: what stands before the last minus sign and
behind it, or nothing and the whole text. -/
def split (cs : List Char) : List Char × List Char :=
  match cs.reverse.dropWhile (· ≠ '-') with
  | _ :: c :: before => ((c :: before).reverse, (cs.reverse.takeWhile (· ≠ '-')).reverse)
  | _ => ([], cs)

/-- The characters that a text stands for. -/
def decode? (cs : List Char) : Option (List Char) :=
  match State.readAll? { text := (split cs).1 } (split cs).2 with
  | some s => if s.isComplete then some s.text else none
  | none => none

/-! ## 4. Writing -/

/-- What has been written so far. -/
structure Output where
  digits : List Char := []
  /-- How far the next insertion is from the one before. -/
  delta : Nat := 0
  bias : Nat := 72
  /-- The characters that are there. -/
  count : Nat
  first : Bool := true
  deriving DecidableEq, Repr

namespace Output

/-- Passes a character, or inserts it if it is the one with the code point in turn. -/
def pass (code : Nat) (o : Output) (c : Char) : Output :=
  if c.toNat < code then { o with delta := o.delta + 1 }
  else if c.toNat = code then {
    digits := o.digits ++ writeNumber o.bias 36 o.delta
    delta := 0
    bias := adapt o.delta (o.count + 1) o.first
    count := o.count + 1
    first := false }
  else o

/-- Inserts the characters of a text with these code points, in increasing order, of which `code`
is the least that may come. -/
def insertAll (text : List Char) (code : Nat) (o : Output) : List Nat → Output
  | [] => o
  | next :: codes =>
    let o := { o with delta := o.delta + (next - code) * (o.count + 1) }
    let o := text.foldl (pass next) o
    insertAll text (next + 1) { o with delta := o.delta + 1 } codes

end Output

/-- The code points in increasing order, each once. -/
def codesOf (cs : List Char) : List Nat := ((cs.map Char.toNat).mergeSort (· ≤ ·)).eraseDups

/-- A text in ASCII. -/
def encode (text : List Char) : List Char :=
  let plain := text.filter (·.toNat < 0x80)
  let others := text.filter (0x80 ≤ ·.toNat)
  plain ++ (if plain.isEmpty then [] else ['-'])
    ++ (Output.insertAll text 0x80 { count := plain.length } (codesOf others)).digits

end CodeAssistant.Url.Punycode
