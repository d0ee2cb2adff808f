/-
# UTF-8

Bytes of a text and back.  The bytes of a well-formed text are read one character at a time
(`Head.of`); what stands at the front of a byte sequence is one of four things: nothing, a
character, the beginning of a character that the sequence ends in, or bytes that no text
contains.  In the last case the offending bytes are the longest beginning of a character found
there, at least one byte (the "maximal subpart" of Unicode section 3.9).

Two readings are built on it.

* `decode?` accepts well-formed text only;
* `decodeLossy` puts one U+FFFD in the place of each offending run, and never fails.

`Head.length_lt_of_char` and `Head.length_lt_of_malformed` say that a reading step consumes
bytes, which is why both readings end.
-/

namespace CodeAssistant.Text.Utf8

/-! ## 1. Writing -/

/-- The UTF-8 bytes of a text. -/
def encode (s : String) : List UInt8 := s.toUTF8.toList

/-- The number of bytes that a list of characters takes. -/
def size : List Char → Nat
  | [] => 0
  | c :: cs => c.utf8Size + size cs

@[simp] theorem size_nil : size [] = 0 := rfl

@[simp] theorem size_cons (c : Char) (cs : List Char) :
    size (c :: cs) = c.utf8Size + size cs := rfl

theorem size_append (cs ds : List Char) : size (cs ++ ds) = size cs + size ds := by
  induction cs with
  | nil => simp
  | cons c cs ih => simp [ih, Nat.add_assoc]

/-! ## 2. The front of a byte sequence -/

/-- How many bytes follow a leading byte, and the range of the first of them.  The narrowed
ranges keep out overlong forms, surrogates and values above U+10FFFF. -/
structure Lead where
  more : Nat
  low : UInt8
  high : UInt8
  deriving DecidableEq, Repr

/-- What a leading byte above 0x7F announces, unless it can start no character. -/
def Lead.of? (b : UInt8) : Option Lead :=
  if 0xC2 ≤ b ∧ b ≤ 0xDF then some ⟨1, 0x80, 0xBF⟩
  else if b = 0xE0 then some ⟨2, 0xA0, 0xBF⟩
  else if b = 0xED then some ⟨2, 0x80, 0x9F⟩
  else if 0xE1 ≤ b ∧ b ≤ 0xEF then some ⟨2, 0x80, 0xBF⟩
  else if b = 0xF0 then some ⟨3, 0x90, 0xBF⟩
  else if b = 0xF4 then some ⟨3, 0x80, 0x8F⟩
  else if 0xF1 ≤ b ∧ b ≤ 0xF3 then some ⟨3, 0x80, 0xBF⟩
  else none

/-- A byte 10xxxxxx. -/
def isContinuation (b : UInt8) : Bool := 0x80 ≤ b && b ≤ 0xBF

/-- The six payload bits of a continuation byte. -/
def payload (b : UInt8) : Nat := b.toNat % 64

/-- What stands at the front of a byte sequence. -/
inductive Head
  /-- The sequence is empty. -/
  | none
  /-- A character and the bytes after it. -/
  | char (c : Char) (rest : List UInt8)
  /-- The whole sequence is the beginning of a character. -/
  | incomplete
  /-- No text continues like this; `bad` bytes of the front are to blame. -/
  | malformed (bad : Nat) (rest : List UInt8)
  deriving Repr

/-- Reads the front of a byte sequence. -/
def Head.of : List UInt8 → Head
  | [] => .none
  | b :: r =>
    if b < 0x80 then .char (Char.ofNat b.toNat) r
    else match Lead.of? b with
      | Option.none => .malformed 1 r
      | some lead =>
        match r with
        | [] => .incomplete
        | b₂ :: r₂ =>
          if ¬ (lead.low ≤ b₂ ∧ b₂ ≤ lead.high) then .malformed 1 r
          else if lead.more = 1 then
            .char (Char.ofNat (b.toNat % 32 * 64 + payload b₂)) r₂
          else match r₂ with
            | [] => .incomplete
            | b₃ :: r₃ =>
              if ¬ isContinuation b₃ then .malformed 2 r₂
              else if lead.more = 2 then
                .char (Char.ofNat ((b.toNat % 16 * 64 + payload b₂) * 64 + payload b₃)) r₃
              else match r₃ with
                | [] => .incomplete
                | b₄ :: r₄ =>
                  if ¬ isContinuation b₄ then .malformed 3 r₃
                  else
                    .char (Char.ofNat (((b.toNat % 8 * 64 + payload b₂) * 64 + payload b₃) * 64
                      + payload b₄)) r₄

theorem Head.length_lt_of_char {bs rest : List UInt8} {c : Char}
    (h : Head.of bs = .char c rest) : rest.length < bs.length := by
  unfold Head.of at h
  repeat' split at h
  all_goals first
    | (injection h with _ h; subst h; simp; try omega)
    | cases h

theorem Head.length_lt_of_malformed {bs rest : List UInt8} {n : Nat}
    (h : Head.of bs = .malformed n rest) : rest.length < bs.length := by
  unfold Head.of at h
  repeat' split at h
  all_goals first
    | (injection h with _ h; subst h; simp; try omega)
    | cases h

/-! ## 3. Whole sequences -/

/-- The characters at the front of a byte sequence, up to its end or to the first place that
is not one, and what is left there. -/
def readChars (bs : List UInt8) : List Char × List UInt8 :=
  match _h : Head.of bs with
  | .char c rest => let (cs, left) := readChars rest; (c :: cs, left)
  | _ => ([], bs)
termination_by bs.length
decreasing_by exact Head.length_lt_of_char _h

/-- The text that well-formed bytes spell. -/
def decode? (bs : List UInt8) : Option String :=
  match readChars bs with
  | (cs, []) => some (String.ofList cs)
  | _ => none

/-- The text that any bytes spell, one U+FFFD for each run that no text contains. -/
def decodeLossyList (bs : List UInt8) : List Char :=
  match _h : Head.of bs with
  | .none => []
  | .char c rest => c :: decodeLossyList rest
  | .incomplete => ['\ufffd']
  | .malformed _ rest => '\ufffd' :: decodeLossyList rest
termination_by bs.length
decreasing_by
  · exact Head.length_lt_of_char _h
  · exact Head.length_lt_of_malformed _h

/-- The text that any bytes spell, one U+FFFD for each run that no text contains. -/
def decodeLossy (bs : List UInt8) : String := String.ofList (decodeLossyList bs)

end CodeAssistant.Text.Utf8
