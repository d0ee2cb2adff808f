/-
# Characters and their bytes

The bytes of a character are one of four well-formed sequences, from one byte to four, with the
ranges of each byte (`Spells`).  This module holds the reader of UTF-8 against the writer through
that table:

* `Head.of_eq_char_iff`: a character is read off the front exactly if its bytes stand there;
* `Head.of_eq_incomplete_iff`: the reader waits for more exactly if the bytes are the beginning of
  the bytes of some character, and end before it does;
* `Head.of_append`: what is decided at the front stays decided, whatever follows.

From these the reader of whole sequences is known up to the place where it stops: what it has read
is written as the bytes before that place (`encodeList_readChars`), and reading on after a cut is
the same as reading without it (`readChars_append`).
-/
import CodeAssistant.Text.Utf8

namespace CodeAssistant.Text.Utf8

/-! ## 1. The bytes of a text -/

/-- The bytes of a list of characters. -/
def encodeList (cs : List Char) : List UInt8 := cs.flatMap String.utf8EncodeChar

@[simp] theorem encodeList_nil : encodeList [] = [] := rfl

@[simp] theorem encodeList_cons (c : Char) (cs : List Char) :
    encodeList (c :: cs) = String.utf8EncodeChar c ++ encodeList cs := rfl

@[simp] theorem encodeList_append (cs ds : List Char) :
    encodeList (cs ++ ds) = encodeList cs ++ encodeList ds := by
  simp [encodeList]

/-- The loop that lists the bytes of an array goes on where it stands. -/
theorem toList_loop (b : ByteArray) (i : Nat) (r : List UInt8) :
    ByteArray.toList.loop b i r = r.reverse ++ b.data.toList.drop i := by
  fun_induction ByteArray.toList.loop b i r with
  | case1 i r h ih =>
    have hi : i < b.data.toList.length := by simpa using h
    rw [ih, List.drop_eq_getElem_cons hi]
    simp [ByteArray.get!, h]
  | case2 i r h =>
    have hi : b.data.toList.length ≤ i := by simpa using h
    rw [List.drop_of_length_le hi, List.append_nil]

theorem encode_eq (s : String) : encode s = encodeList s.toList := by
  have hbytes : s.toByteArray = s.toList.utf8Encode := by
    rw [← String.toByteArray_ofList, String.ofList_toList]
  rw [encode, String.toUTF8_eq_toByteArray, hbytes, ByteArray.toList, toList_loop]
  simp [List.utf8Encode, encodeList]

@[simp] theorem encode_ofList (cs : List Char) : encode (String.ofList cs) = encodeList cs := by
  rw [encode_eq, String.toList_ofList]

/-! ## 2. The well-formed sequences -/

/-- A byte 10xxxxxx, in numbers. -/
def Follows (b : UInt8) : Prop := 0x80 ≤ b.toNat ∧ b.toNat ≤ 0xBF

theorem isContinuation_iff {b : UInt8} : isContinuation b = true ↔ Follows b := by
  simp [isContinuation, Follows, UInt8.le_iff_toNat_le]

/-- The second byte may stand behind the leading byte: it is no overlong form, no surrogate and
not above U+10FFFF. -/
structure Admits (b c : UInt8) : Prop where
  follows : Follows c
  noOverlong₃ : b.toNat = 0xE0 → 0xA0 ≤ c.toNat
  noSurrogate : b.toNat = 0xED → c.toNat ≤ 0x9F
  noOverlong₄ : b.toNat = 0xF0 → 0x90 ≤ c.toNat
  inRange : b.toNat = 0xF4 → c.toNat ≤ 0x8F

/-- The well-formed byte sequences of one character, and the code point that each spells. -/
inductive Spells : List UInt8 → Nat → Prop
  | one {b : UInt8} {n : Nat} : b.toNat < 0x80 → n = b.toNat → Spells [b] n
  | two {b c : UInt8} {n : Nat} : 0xC2 ≤ b.toNat → b.toNat ≤ 0xDF → Admits b c →
      n = b.toNat % 32 * 64 + payload c → Spells [b, c] n
  | three {b c d : UInt8} {n : Nat} : 0xE0 ≤ b.toNat → b.toNat ≤ 0xEF → Admits b c → Follows d →
      n = (b.toNat % 16 * 64 + payload c) * 64 + payload d → Spells [b, c, d] n
  | four {b c d e : UInt8} {n : Nat} : 0xF0 ≤ b.toNat → b.toNat ≤ 0xF4 → Admits b c →
      Follows d → Follows e →
      n = ((b.toNat % 8 * 64 + payload c) * 64 + payload d) * 64 + payload e →
      Spells [b, c, d, e] n

theorem toNat_val_ofNat {n : Nat} (h : n.isValidChar) : (Char.ofNat n).val.toNat = n := by
  rw [Char.ofNat, dif_pos h]
  rfl

theorem ofNat_eq_of_toNat {b : UInt8} {n : Nat} (h : b.toNat = n) : UInt8.ofNat n = b := by
  rw [← h, UInt8.ofNat_toNat]

/-- A well-formed sequence is what its character is written as. -/
theorem Spells.encode_eq {bs : List UInt8} {n : Nat} (h : Spells bs n) :
    String.utf8EncodeChar (Char.ofNat n) = bs := by
  cases h with
  | @one b n hb hn =>
    have hv : (Char.ofNat n).val.toNat = n := toNat_val_ofNat (Or.inl (by omega))
    rw [String.utf8EncodeChar, hv, if_pos (by omega), ofNat_eq_of_toNat hn.symm]
  | @two b c n hb hb' hc hn =>
    obtain ⟨⟨hc, hc'⟩, -⟩ := hc
    simp only [payload] at hn
    have hv : (Char.ofNat n).val.toNat = n := toNat_val_ofNat (Or.inl (by omega))
    rw [String.utf8EncodeChar, hv, if_neg (by omega), if_pos (by omega),
      ofNat_eq_of_toNat (b := b) (by omega), ofNat_eq_of_toNat (b := c) (by omega)]
  | @three b c d n hb hb' hc hd hn =>
    obtain ⟨⟨hc, hc'⟩, hlow, hhigh, -⟩ := hc
    obtain ⟨hd, hd'⟩ := hd
    simp only [payload] at hn
    have hv : (Char.ofNat n).val.toNat = n :=
      toNat_val_ofNat (by simp only [Nat.isValidChar]; omega)
    rw [String.utf8EncodeChar, hv, if_neg (by omega), if_neg (by omega), if_pos (by omega),
      ofNat_eq_of_toNat (b := b) (by omega), ofNat_eq_of_toNat (b := c) (by omega),
      ofNat_eq_of_toNat (b := d) (by omega)]
  | @four b c d e n hb hb' hc hd he hn =>
    obtain ⟨⟨hc, hc'⟩, -, -, hlow, hhigh⟩ := hc
    obtain ⟨hd, hd'⟩ := hd
    obtain ⟨he, he'⟩ := he
    simp only [payload] at hn
    have hv : (Char.ofNat n).val.toNat = n :=
      toNat_val_ofNat (by simp only [Nat.isValidChar]; omega)
    rw [String.utf8EncodeChar, hv, if_neg (by omega), if_neg (by omega), if_neg (by omega),
      ofNat_eq_of_toNat (b := b) (by omega), ofNat_eq_of_toNat (b := c) (by omega),
      ofNat_eq_of_toNat (b := d) (by omega), ofNat_eq_of_toNat (b := e) (by omega)]

theorem toNat_ofNat_of_lt {k : Nat} (h : k < 256) : (UInt8.ofNat k).toNat = k := by
  simp [Nat.mod_eq_of_lt h]

/-- The bytes of a character are well-formed, and spell it. -/
theorem spells_encode (c : Char) : Spells (String.utf8EncodeChar c) c.toNat := by
  have hvalid : c.toNat.isValidChar := c.valid
  rw [String.utf8EncodeChar, Char.toNat_val]
  generalize c.toNat = n at hvalid
  simp only [Nat.isValidChar] at hvalid
  have hlast := toNat_ofNat_of_lt (k := n % 0x40 + 0x80) (by omega)
  have hsecond := toNat_ofNat_of_lt (k := n / 64 % 0x40 + 0x80) (by omega)
  have hthird := toNat_ofNat_of_lt (k := n / 4096 % 0x40 + 0x80) (by omega)
  split
  · have hb := toNat_ofNat_of_lt (k := n) (by omega)
    exact .one (by omega) (by omega)
  split
  · have hb := toNat_ofNat_of_lt (k := n / 64 % 0x20 + 0xC0) (by omega)
    exact .two (by omega) (by omega)
      ⟨⟨by omega, by omega⟩, by omega, by omega, by omega, by omega⟩
      (by simp only [payload]; omega)
  split
  · have hb := toNat_ofNat_of_lt (k := n / 4096 % 0x10 + 0xE0) (by omega)
    exact .three (by omega) (by omega)
      ⟨⟨by omega, by omega⟩, by omega, by omega, by omega, by omega⟩ ⟨by omega, by omega⟩
      (by simp only [payload]; omega)
  · have hb := toNat_ofNat_of_lt (k := n / 262144 % 0x08 + 0xF0) (by omega)
    exact .four (by omega) (by omega)
      ⟨⟨by omega, by omega⟩, by omega, by omega, by omega, by omega⟩ ⟨by omega, by omega⟩
      ⟨by omega, by omega⟩ (by simp only [payload]; omega)

/-- A byte of ASCII spells a character on its own, and is in the bytes of no other. -/
theorem Spells.eq_of_ascii {bs : List UInt8} {n : Nat} (h : Spells bs n) {a : UInt8} (ha : a ∈ bs)
    (hascii : a.toNat < 0x80) : n = a.toNat := by
  cases h with
  | one hb hn => rwa [List.mem_singleton.mp ha]
  | two hb _ hc hn =>
    obtain ⟨⟨hc, -⟩, -⟩ := hc
    simp only [List.mem_cons, List.not_mem_nil, or_false] at ha
    rcases ha with rfl | rfl <;> omega
  | three hb _ hc hd hn =>
    obtain ⟨⟨hc, -⟩, -⟩ := hc
    obtain ⟨hd, -⟩ := hd
    simp only [List.mem_cons, List.not_mem_nil, or_false] at ha
    rcases ha with rfl | rfl | rfl <;> omega
  | four hb _ hc hd he hn =>
    obtain ⟨⟨hc, -⟩, -⟩ := hc
    obtain ⟨hd, -⟩ := hd
    obtain ⟨he, -⟩ := he
    simp only [List.mem_cons, List.not_mem_nil, or_false] at ha
    rcases ha with rfl | rfl | rfl | rfl <;> omega

theorem exists_admits (b : UInt8) : ∃ c, Admits b c := by
  by_cases h : b.toNat = 0xE0
  · exact ⟨0xA0, by constructor <;> simp [Follows] <;> omega⟩
  · by_cases h' : b.toNat = 0xF0
    · exact ⟨0x90, by constructor <;> simp [Follows] <;> omega⟩
    · exact ⟨0x80, by constructor <;> simp [Follows] <;> omega⟩

/-! ## 3. The front of a byte sequence -/

namespace Lead

/-- What a leading byte announces: how many bytes follow, and which byte may come next. -/
structure Announced (b : UInt8) (lead : Lead) : Prop where
  more : (lead.more = 1 ∧ 0xC2 ≤ b.toNat ∧ b.toNat ≤ 0xDF) ∨
    (lead.more = 2 ∧ 0xE0 ≤ b.toNat ∧ b.toNat ≤ 0xEF) ∨
    (lead.more = 3 ∧ 0xF0 ≤ b.toNat ∧ b.toNat ≤ 0xF4)
  admits : ∀ c, lead.low ≤ c ∧ c ≤ lead.high ↔ Admits b c

theorem announced {b : UInt8} {lead : Lead} (h : of? b = some lead) : Announced b lead := by
  unfold of? at h
  simp only [UInt8.le_iff_toNat_le, ← UInt8.toNat_inj, UInt8.reduceToNat] at h
  repeat' split at h
  all_goals cases h
  all_goals
    refine ⟨by simp; omega, fun c => ?_⟩
    simp only [UInt8.le_iff_toNat_le, UInt8.reduceToNat]
    constructor
    · rintro ⟨hlow, hhigh⟩
      exact ⟨⟨by omega, by omega⟩, by omega, by omega, by omega, by omega⟩
    · rintro ⟨⟨hlow, hhigh⟩, h₁, h₂, h₃, h₄⟩
      omega

theorem exists_of? {b : UInt8} (h : 0xC2 ≤ b.toNat) (h' : b.toNat ≤ 0xF4) :
    ∃ lead, of? b = some lead := by
  unfold of?
  simp only [UInt8.le_iff_toNat_le, ← UInt8.toNat_inj, UInt8.reduceToNat]
  repeat' split
  all_goals first | exact ⟨_, rfl⟩ | omega

/-- A second byte that is not turned away. -/
theorem admits_of_not {b c : UInt8} {lead : Lead} (h : of? b = some lead)
    (hc : ¬ ¬ (lead.low ≤ c ∧ c ≤ lead.high)) : Admits b c :=
  ((announced h).admits c).mp (Decidable.not_not.mp hc)

end Lead

/-- A further byte that is not turned away. -/
theorem follows_of_not {b : UInt8} (h : ¬ ¬ isContinuation b = true) : Follows b :=
  isContinuation_iff.mp (Decidable.not_not.mp h)

theorem not_lt_of_le_toNat {b : UInt8} (h : 0x80 ≤ b.toNat) : ¬ b < 0x80 := by
  rw [UInt8.lt_iff_toNat_lt]
  exact Nat.not_lt.mpr h

namespace Head

/-- A well-formed sequence is read as its character. -/
theorem of_spells {bs : List UInt8} {n : Nat} (h : Spells bs n) (rest : List UInt8) :
    Head.of (bs ++ rest) = .char (Char.ofNat n) rest := by
  cases h with
  | @one b n hb hn =>
    have hlt : b < 0x80 := UInt8.lt_iff_toNat_lt.mpr hb
    simp [Head.of, hlt, hn]
  | @two b c n hb hb' hc hn =>
    obtain ⟨lead, hlead⟩ := Lead.exists_of? hb (by omega)
    have hmore := (Lead.announced hlead).more
    have hc := ((Lead.announced hlead).admits c).mpr hc
    have hmore : lead.more = 1 := by omega
    simp [Head.of, -UInt8.not_lt, not_lt_of_le_toNat (b := b) (by omega), hlead, hc, hmore, hn]
  | @three b c d n hb hb' hc hd hn =>
    obtain ⟨lead, hlead⟩ := Lead.exists_of? (b := b) (by omega) (by omega)
    have hmore := (Lead.announced hlead).more
    have hc := ((Lead.announced hlead).admits c).mpr hc
    have hmore : lead.more = 2 := by omega
    simp [Head.of, -UInt8.not_lt, not_lt_of_le_toNat (b := b) (by omega), hlead, hc, hmore, hn,
      isContinuation_iff.mpr hd]
  | @four b c d e n hb hb' hc hd he hn =>
    obtain ⟨lead, hlead⟩ := Lead.exists_of? (b := b) (by omega) (by omega)
    have hmore := (Lead.announced hlead).more
    have hc := ((Lead.announced hlead).admits c).mpr hc
    have hmore : lead.more = 3 := by omega
    simp [Head.of, -UInt8.not_lt, not_lt_of_le_toNat (b := b) (by omega), hlead, hc, hmore, hn,
      isContinuation_iff.mpr hd, isContinuation_iff.mpr he]

/-- What a head says of the bytes that it was read off. -/
def Describes (bs : List UInt8) : Head → Prop
  | .none => bs = []
  | .char c rest => bs = String.utf8EncodeChar c ++ rest
  | .incomplete => bs ≠ [] ∧ ∃ c more, more ≠ [] ∧ String.utf8EncodeChar c = bs ++ more
  | .malformed _ _ => True

theorem describes_char {bs rest : List UInt8} {n : Nat} (h : Spells bs n) :
    Describes (bs ++ rest) (.char (Char.ofNat n) rest) := by
  rw [Describes, h.encode_eq]

theorem describes_incomplete {bs : List UInt8} {n : Nat} (more : List UInt8) (hbs : bs ≠ [])
    (hmore : more ≠ []) (h : Spells (bs ++ more) n) : Describes bs .incomplete :=
  ⟨hbs, Char.ofNat n, more, hmore, h.encode_eq⟩

/-- **A head tells the truth.**  Where the reader waits, the missing bytes can be given: any that
the leading byte admits, and then 0x80. -/
theorem describes_of (bs : List UInt8) : Describes bs (Head.of bs) := by
  have hfill : Follows 0x80 := ⟨by decide, by decide⟩
  fun_cases Head.of bs with
  | case1 => rfl
  | case2 b r hb => exact describes_char (.one (UInt8.lt_iff_toNat_lt.mp hb) rfl)
  | case3 => trivial
  | case4 b hb lead hlead =>
    obtain ⟨c, hc⟩ := exists_admits b
    rcases (Lead.announced hlead).more with ⟨-, h⟩ | ⟨-, h⟩ | ⟨-, h⟩
    · exact describes_incomplete [c] (by simp) (by simp) (.two h.1 h.2 hc rfl)
    · exact describes_incomplete [c, 0x80] (by simp) (by simp)
        (.three h.1 h.2 hc hfill rfl)
    · exact describes_incomplete [c, 0x80, 0x80] (by simp) (by simp)
        (.four h.1 h.2 hc hfill hfill rfl)
  | case5 => trivial
  | case6 b hb lead hlead c r hc hmore =>
    have h := (Lead.announced hlead).more
    exact describes_char (.two (by omega) (by omega) (Lead.admits_of_not hlead hc) rfl)
  | case7 b hb lead hlead c hc hmore =>
    have hc := Lead.admits_of_not hlead hc
    rcases (Lead.announced hlead).more with ⟨h, -⟩ | ⟨-, h⟩ | ⟨-, h⟩
    · exact absurd h hmore
    · exact describes_incomplete [0x80] (by simp) (by simp)
        (.three h.1 h.2 hc hfill rfl)
    · exact describes_incomplete [0x80, 0x80] (by simp) (by simp)
        (.four h.1 h.2 hc hfill hfill rfl)
  | case8 => trivial
  | case9 b hb lead hlead c hc hmore d r hd hmore' =>
    have h := (Lead.announced hlead).more
    exact describes_char (.three (by omega) (by omega) (Lead.admits_of_not hlead hc)
      (follows_of_not hd) rfl)
  | case10 b hb lead hlead c hc hmore d hd hmore' =>
    have h := (Lead.announced hlead).more
    exact describes_incomplete [0x80] (by simp) (by simp)
      (.four (by omega) (by omega) (Lead.admits_of_not hlead hc) (follows_of_not hd) hfill rfl)
  | case11 => trivial
  | case12 b hb lead hlead c hc hmore d hd hmore' e r he =>
    have h := (Lead.announced hlead).more
    exact describes_char (.four (by omega) (by omega) (Lead.admits_of_not hlead hc)
      (follows_of_not hd) (follows_of_not he) rfl)

/-- The head of a longer sequence, where nothing is left open. -/
def extend (more : List UInt8) : Head → Head
  | .char c rest => .char c (rest ++ more)
  | .malformed bad rest => .malformed bad (rest ++ more)
  | .none => .none
  | .incomplete => .incomplete

/-- **What is decided stays decided.** -/
theorem of_append {bs : List UInt8} (more : List UInt8) (hn : Head.of bs ≠ .none)
    (hi : Head.of bs ≠ .incomplete) : Head.of (bs ++ more) = (Head.of bs).extend more := by
  fun_cases Head.of bs
  all_goals simp_all [Head.of, extend, -UInt8.not_lt]

/-- **A character is read exactly if its bytes stand in front.** -/
theorem of_eq_char_iff {bs rest : List UInt8} {c : Char} :
    Head.of bs = .char c rest ↔ bs = String.utf8EncodeChar c ++ rest := by
  constructor
  · intro h
    have := describes_of bs
    rwa [h] at this
  · rintro rfl
    rw [of_spells (spells_encode c), Char.ofNat_toNat]

/-- **The reader waits exactly for the rest of a character.** -/
theorem of_eq_incomplete_iff {bs : List UInt8} :
    Head.of bs = .incomplete ↔
      bs ≠ [] ∧ ∃ c more, more ≠ [] ∧ String.utf8EncodeChar c = bs ++ more := by
  constructor
  · intro h
    have := describes_of bs
    rwa [h] at this
  · rintro ⟨hbs, c, more, hmore, hc⟩
    have hchar : Head.of (bs ++ more) = .char c [] := of_eq_char_iff.mpr (by simp [hc])
    cases h : Head.of bs with
    | incomplete => rfl
    | none =>
      have := describes_of bs
      rw [h] at this
      exact absurd this hbs
    | char c' rest =>
      rw [of_append more (by simp [h]) (by simp [h]), h, extend] at hchar
      injection hchar with _ hrest
      exact absurd (List.append_eq_nil_iff.mp hrest).2 hmore
    | malformed bad rest =>
      rw [of_append more (by simp [h]) (by simp [h]), h, extend] at hchar
      cases hchar

theorem of_eq_none_iff {bs : List UInt8} : Head.of bs = .none ↔ bs = [] := by
  constructor
  · intro h
    have := describes_of bs
    rwa [h] at this
  · rintro rfl
    rfl

/-- No more than three bytes are waited with. -/
theorem length_le_of_incomplete {bs : List UInt8} (h : Head.of bs = .incomplete) :
    bs.length ≤ 3 := by
  obtain ⟨-, c, more, hmore, hc⟩ := of_eq_incomplete_iff.mp h
  have hlen : (String.utf8EncodeChar c).length = bs.length + more.length := by simp [hc]
  have hpos : 0 < more.length := List.length_pos_iff.mpr hmore
  rw [String.length_utf8EncodeChar] at hlen
  have := c.utf8Size_le_four
  omega

end Head

/-! ## 4. Whole sequences -/

theorem readChars_of_char {bs rest : List UInt8} {c : Char} (h : Head.of bs = .char c rest) :
    readChars bs = (c :: (readChars rest).1, (readChars rest).2) := by
  rw [readChars]
  split
  · simp_all
  · simp_all

theorem readChars_of_not_char {bs : List UInt8} (h : ∀ c rest, Head.of bs ≠ .char c rest) :
    readChars bs = ([], bs) := by
  rw [readChars]
  split
  · exact absurd ‹_› (h _ _)
  · rfl

@[simp] theorem readChars_nil : readChars [] = ([], []) :=
  readChars_of_not_char fun _ _ h => by simp [Head.of] at h

/-- Where the reader stops, no character stands in front. -/
theorem of_readChars_ne_char (bs : List UInt8) (c : Char) (rest : List UInt8) :
    Head.of (readChars bs).2 ≠ .char c rest := by
  fun_induction readChars bs with
  | case1 bs c' rest' h cs left hr ih => rwa [hr] at ih
  | case2 bs h => exact h c rest

/-- What is read is written as the bytes before the place where the reader stops. -/
theorem encodeList_readChars (bs : List UInt8) :
    encodeList (readChars bs).1 ++ (readChars bs).2 = bs := by
  fun_induction readChars bs with
  | case1 bs c rest h cs left hr ih =>
    rw [hr] at ih
    rw [Head.of_eq_char_iff.mp h, encodeList_cons, List.append_assoc, ih]
  | case2 bs h => rfl

/-- Characters that are written are read. -/
theorem readChars_encodeList_append (cs : List Char) (bs : List UInt8) :
    readChars (encodeList cs ++ bs) = (cs ++ (readChars bs).1, (readChars bs).2) := by
  induction cs with
  | nil => rfl
  | cons c cs ih =>
    rw [encodeList_cons, List.append_assoc, readChars_of_char (Head.of_eq_char_iff.mpr rfl), ih]
    rfl

theorem readChars_encodeList (cs : List Char) : readChars (encodeList cs) = (cs, []) := by
  simpa using readChars_encodeList_append cs []

theorem decode?_encode (s : String) : decode? (encode s) = some s := by
  rw [decode?, encode_eq, readChars_encodeList]
  exact congrArg some String.ofList_toList

/-- **Reading on after a cut.**  What was left before it is read with what comes behind it. -/
theorem readChars_append (bs more : List UInt8) :
    readChars (bs ++ more) =
      ((readChars bs).1 ++ (readChars ((readChars bs).2 ++ more)).1,
        (readChars ((readChars bs).2 ++ more)).2) := by
  conv => lhs; rw [← encodeList_readChars bs]
  rw [List.append_assoc, readChars_encodeList_append]

end CodeAssistant.Text.Utf8
