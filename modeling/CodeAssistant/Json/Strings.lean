/-
# Reading a JSON string

A string is read from behind its opening quote.  Escapes spell a character by a letter or by
four hexadecimal digits; a character beyond U+FFFF needs two such escapes, a high surrogate and
then a low one.  A string that is skipped has its escapes checked for their form only.

`Strings.escape` and `Strings.body` are the readers; both leave less than they were given.
-/
import CodeAssistant.Json.Reader
import CodeAssistant.Text.Digits

namespace CodeAssistant.Strings

open Text (hexValue? Utf8.size)

/-! ## 1. Hexadecimal escapes -/

/-- The fault of a text that does not start with four hexadecimal digits.  With fewer than four
bytes left the string has no end; otherwise four bytes are taken before they are looked at. -/
def hexFault (s : List Char) : Fault :=
  if Text.Utf8.size s < 4 then ⟨.endInString, 0⟩ else ⟨.invalidEscape, Text.Utf8.size s - 4⟩

/-- Four hexadecimal digits. -/
def hex4 (s : List Char) : Reading Nat :=
  match s with
  | a :: b :: c :: d :: r =>
    match hexValue? a, hexValue? b, hexValue? c, hexValue? d with
    | some x, some y, some z, some w => .ok (((x * 16 + y) * 16 + z) * 16 + w, r)
    | _, _, _, _ => .error (hexFault s)
  | _ => .error (hexFault s)

theorem length_of_hex4 {s r : List Char} {n : Nat} (h : hex4 s = .ok (n, r)) :
    r.length + 4 = s.length := by
  unfold hex4 at h
  split at h
  · split at h
    · obtain ⟨-, rfl⟩ := Prod.mk.inj (Except.ok.inj h)
      simp
    · simp at h
  · simp at h

/-- A high surrogate, the first half of an escaped pair. -/
def isHighSurrogate (n : Nat) : Bool := 0xD800 ≤ n && n ≤ 0xDBFF

/-- A low surrogate, the second half of an escaped pair. -/
def isLowSurrogate (n : Nat) : Bool := 0xDC00 ≤ n && n ≤ 0xDFFF

/-- The character of a pair of surrogates. -/
def joinSurrogates (high low : Nat) : Char :=
  Char.ofNat (0x10000 + (high - 0xD800) * 1024 + (low - 0xDC00))

/-- The second half of a pair, from behind the first. -/
def lowHalf (high : Nat) (s : List Char) : Reading Char :=
  match s with
  | [] => .error (.here .endInString [])
  | '\\' :: [] => .error (.here .endInString [])
  | '\\' :: 'u' :: r =>
    match hex4 r with
    | .error e => .error e
    | .ok (low, r') =>
      if isLowSurrogate low then .ok (joinSurrogates high low, r')
      else .error (.here .loneSurrogate r')
  | '\\' :: r => .error (.next .endOfHexEscape r)
  | r => .error (.next .endOfHexEscape r)

theorem length_of_lowHalf {high : Nat} {s r : List Char} {c : Char}
    (h : lowHalf high s = .ok (c, r)) : r.length < s.length := by
  unfold lowHalf at h
  split at h
  · cases h
  · cases h
  · split at h
    · cases h
    · rename_i hx
      have := length_of_hex4 hx
      split at h
      · obtain ⟨-, rfl⟩ := Prod.mk.inj (Except.ok.inj h)
        simp only [List.length_cons]
        omega
      · cases h
  · cases h
  · cases h

/-- A character spelled by number, from behind the letter `u`. -/
def numbered (mode : Mode) (s : List Char) : Reading Char :=
  match hex4 s with
  | .error e => .error e
  | .ok (n, r) =>
    match mode with
    | .skip => .ok (Char.ofNat n, r)
    | .read =>
      if isLowSurrogate n then .error (.here .loneSurrogate r)
      else if isHighSurrogate n then lowHalf n r
      else .ok (Char.ofNat n, r)

theorem length_of_numbered {mode : Mode} {s r : List Char} {c : Char}
    (h : numbered mode s = .ok (c, r)) : r.length < s.length := by
  unfold numbered at h
  split at h
  · cases h
  · rename_i hx
    have := length_of_hex4 hx
    split at h
    · cases h; omega
    · split at h
      · cases h
      · split at h
        · have := length_of_lowHalf h; omega
        · cases h; omega

/-! ## 2. Escapes -/

/-- The character that a letter stands for after a backslash. -/
def lettered? (c : Char) : Option Char :=
  if c = '"' then some '"'
  else if c = '\\' then some '\\'
  else if c = '/' then some '/'
  else if c = 'b' then some '\x08'
  else if c = 'f' then some '\x0c'
  else if c = 'n' then some '\n'
  else if c = 'r' then some '\r'
  else if c = 't' then some '\t'
  else none

/-- An escape, from behind the backslash. -/
def escape (mode : Mode) : Reader Char where
  run s := match s with
    | [] => .error (.here .endInString [])
    | c :: r =>
      if c = 'u' then numbered mode r
      else match lettered? c with
        | some d => .ok (d, r)
        | none => .error (.next .invalidEscape (c :: r))
  shrinks := by
    intro s c r h
    split at h
    · cases h
    · split at h
      · have := length_of_numbered h; simp; omega
      · split at h
        · cases h; simp
        · cases h

/-! ## 3. The body of a string -/

/-- A control character may not stand in a string.  One that is read counts as read. -/
def controlFault (mode : Mode) (s : List Char) : Fault :=
  match mode with
  | .read => .next .controlCharacter s
  | .skip => .here .controlCharacter s

/-- The characters up to the closing quote, which is consumed. -/
def bodyLoop (mode : Mode) (s : List Char) : Reading (List Char) :=
  match s with
  | [] => .error (.here .endInString [])
  | c :: r =>
    if c = '"' then .ok ([], r)
    else if c = '\\' then
      match _h : (escape mode).run r with
      | .error e => .error e
      | .ok (d, r') => match bodyLoop mode r' with
        | .error e => .error e
        | .ok (cs, r'') => .ok (d :: cs, r'')
    else if c.toNat < 32 then .error (controlFault mode (c :: r))
    else match bodyLoop mode r with
      | .error e => .error e
      | .ok (cs, r') => .ok (c :: cs, r')
termination_by s.length
decreasing_by
  · have := (escape mode).shrinks _h; simp; omega
  · simp

theorem length_of_bodyLoop {mode : Mode} {s r : List Char} {cs : List Char}
    (h : bodyLoop mode s = .ok (cs, r)) : r.length < s.length := by
  fun_induction bodyLoop mode s generalizing cs r with
  | case1 => cases h
  | case2 => cases h; simp
  | case3 => cases h
  | case4 => cases h
  | case5 r₀ d r' he cs' r'' hb _ ih =>
    cases h
    have := ih hb
    have := (escape mode).shrinks he
    simp; omega
  | case6 => cases h
  | case7 => cases h
  | case8 c r' _ _ _ cs' r'' hb ih =>
    cases h
    have := ih hb
    simp; omega

/-- The body of a string, from behind its opening quote. -/
def body (mode : Mode) : Reader String :=
  Reader.map String.ofList ⟨bodyLoop mode, length_of_bodyLoop⟩

end CodeAssistant.Strings
