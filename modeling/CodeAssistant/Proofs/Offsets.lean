/-
# Cutting by byte offsets

The fields of a command can be cut out of the bytes of a text.  The pairs of colons among the bytes
are gone through from left to right (`colonPairs`), the text is sliced at their offsets to see what
stands on either side, and a field is the slice between one cut and the next (`cutAtOffsets?`).  A
slice is there only if both its offsets fall between characters (`slice?`); where one is asked for
that is not there, the cutting has no result.

That never happens.  A byte of a colon belongs to no other character (`eq_colon_of_mem`), so a
character that is no colon is passed over with all its bytes (`colonPairs_cons`), and every offset
that is reached is the number of bytes of some first characters of the text.  At every step what is
passed, the field under way and what is left make up the text (`cutAtOffsets?_eq`).

Main statement: `fieldsByOffset?_eq`.
-/
import CodeAssistant.Proofs.Characters
import CodeAssistant.Proofs.Separators

namespace CodeAssistant

namespace Text

open Utf8 (size size_cons size_append)

/-! ## 1. Slices -/

/-- The text from one byte offset to another.  It is not there if an offset falls inside a character
or behind the end, or if the offsets are in the wrong order. -/
def slice? (text : String) (start stop : Nat) : Option String :=
  if h : String.Pos.Raw.IsValid text ⟨start⟩ ∧ String.Pos.Raw.IsValid text ⟨stop⟩ ∧
      start ≤ stop then
    some (String.extract (text.pos ⟨start⟩ h.1) (text.pos ⟨stop⟩ h.2.1))
  else none

theorem utf8ByteSize_ofList (cs : List Char) : (String.ofList cs).utf8ByteSize = size cs := by
  induction cs with
  | nil => rfl
  | cons c cs ih =>
    rw [String.ofList_cons, String.utf8ByteSize_append, String.utf8ByteSize_singleton, ih,
      size_cons]

variable {text : String} {front mid back : List Char}

/-- The bytes of the characters in front of a place are the offset of that place. -/
theorem eq_append_of_toList (h : text.toList = front ++ back) :
    text = String.ofList front ++ String.ofList back ∧
      (⟨size front⟩ : String.Pos.Raw) = (String.ofList front).rawEndPos := by
  constructor
  · rw [← String.ofList_append, ← h, String.ofList_toList]
  · rw [String.Pos.Raw.ext_iff, String.byteIdx_rawEndPos, utf8ByteSize_ofList]

theorem isValid_size (h : text.toList = front ++ back) :
    String.Pos.Raw.IsValid text ⟨size front⟩ :=
  String.Pos.Raw.isValid_iff_exists_append.mpr
    ⟨String.ofList front, String.ofList back, eq_append_of_toList h⟩

theorem splits_size (h : text.toList = front ++ back)
    (hvalid : String.Pos.Raw.IsValid text ⟨size front⟩) :
    (text.pos ⟨size front⟩ hvalid).Splits (String.ofList front) (String.ofList back) :=
  ⟨(eq_append_of_toList h).1, String.offset_pos.trans (eq_append_of_toList h).2⟩

/-- Between two characters of a text there is a slice, whatever their widths. -/
theorem slice?_between (h : text.toList = front ++ mid ++ back) :
    slice? text (size front) (size (front ++ mid)) = some (String.ofList mid) := by
  have h' : text.toList = front ++ (mid ++ back) := by rw [h, List.append_assoc]
  have hle : size front ≤ size (front ++ mid) := by
    rw [size_append]
    exact Nat.le_add_right _ _
  have hstart := splits_size h' (isValid_size h')
  have hstop := splits_size h (isValid_size h)
  rw [String.ofList_append] at hstart hstop
  obtain ⟨hpos, hslice⟩ := String.copy_slice_eq_iff_splits.mpr ⟨_, _, hstart, hstop⟩
  rw [slice?, dif_pos ⟨isValid_size h', isValid_size h, hle⟩,
    String.extract_eq_copy_slice _ _ hpos, hslice]

theorem slice?_start (h : text.toList = front ++ back) :
    slice? text 0 (size front) = some (String.ofList front) := by
  have h' : text.toList = [] ++ front ++ back := h
  exact slice?_between h'

theorem slice?_end (h : text.toList = front ++ back) :
    slice? text (size front) text.utf8ByteSize = some (String.ofList back) := by
  have hsize : text.utf8ByteSize = size (front ++ back) := by
    rw [← h, ← utf8ByteSize_ofList, String.ofList_toList]
  rw [hsize]
  exact slice?_between (by rw [h, List.append_nil])

end Text

namespace Shell

open Text (isBlankChar slice?)
open Text.Utf8 (size size_append encode encodeList encodeList_cons)

/-! ## 2. Pairs of colons -/

/-- Where two colons stand among bytes, from left to right and none inside another.  The bytes begin
at this offset. -/
def colonPairs : Nat → List UInt8 → List Nat
  | offset, 58 :: 58 :: rest => offset :: colonPairs (offset + 2) rest
  | offset, _ :: rest => colonPairs (offset + 1) rest
  | _, [] => []

/-- Only a colon has the byte of one among its bytes. -/
theorem eq_colon_of_mem {c : Char} (h : 58 ∈ String.utf8EncodeChar c) : c = ':' :=
  Char.toNat_inj.mp ((Text.Utf8.spells_encode c).eq_of_ascii h (by decide))

theorem encodeList_eq_colon_cons {rest : List Char} {bytes : List UInt8}
    (h : encodeList rest = 58 :: bytes) : ∃ rest', rest = ':' :: rest' := by
  cases rest with
  | nil => simp at h
  | cons c rest =>
    obtain ⟨b, more, hbytes⟩ := List.exists_cons_of_ne_nil (String.utf8EncodeChar_ne_nil (c := c))
    rw [encodeList_cons, hbytes, List.cons_append] at h
    have hb : b = 58 := (List.cons.inj h).1
    exact ⟨rest, by rw [eq_colon_of_mem (c := c) (by simp [hbytes, hb])]⟩

theorem utf8EncodeChar_colon : String.utf8EncodeChar ':' = [58] := by decide

theorem colonPairs_colons (offset : Nat) (rest : List Char) :
    colonPairs offset (encodeList (':' :: ':' :: rest)) =
      offset :: colonPairs (offset + 2) (encodeList rest) := by
  simp only [encodeList_cons, utf8EncodeChar_colon, List.singleton_append, colonPairs]

/-- Bytes that are no colon are passed over. -/
theorem colonPairs_append {bytes : List UInt8} (h : 58 ∉ bytes) (offset : Nat)
    (rest : List UInt8) :
    colonPairs offset (bytes ++ rest) = colonPairs (offset + bytes.length) rest := by
  induction bytes generalizing offset with
  | nil => rfl
  | cons b bytes ih =>
    rw [List.mem_cons, not_or] at h
    rw [List.cons_append, colonPairs, ih h.2, List.length_cons, Nat.add_assoc, Nat.add_comm 1]
    rintro _ rfl _
    exact h.1 rfl

/-- A character that no pair of colons begins with is passed over with all its bytes. -/
theorem colonPairs_cons {c : Char} {rest : List Char}
    (h : ∀ rest', c = ':' → rest = ':' :: rest' → False) (offset : Nat) :
    colonPairs offset (encodeList (c :: rest)) =
      colonPairs (offset + c.utf8Size) (encodeList rest) := by
  rw [encodeList_cons]
  by_cases hc : c = ':'
  · subst hc
    rw [utf8EncodeChar_colon, List.singleton_append, colonPairs]
    · rfl
    · rintro bytes - hbytes
      obtain ⟨rest', hrest⟩ := encodeList_eq_colon_cons hbytes
      exact h rest' rfl hrest
  · rw [colonPairs_append (fun hmem => hc (eq_colon_of_mem hmem)), String.length_utf8EncodeChar]

/-! ## 3. The cutting -/

/-- The fields so far, and as the last one what the text holds from an offset on. -/
def endAt? (text : String) (fields : List String) (start : Nat) : Option (List String) := do
  let last ← slice? text start text.utf8ByteSize
  return fields ++ [Text.trim last]

/-- Cuts the text at those of the pairs of colons that stand alone, until there is room for one
field only.  The field under way begins at `start`. -/
def cutAtOffsets? (limit : Nat) (text : String) (fields : List String) (start : Nat) :
    List Nat → Option (List String)
  | [] => endAt? text fields start
  | offset :: offsets =>
    if fields.length + 1 = limit then endAt? text fields start
    else do
      let before ← slice? text 0 offset
      let behind ← slice? text (offset + 2) text.utf8ByteSize
      if before.toList.getLast?.all isBlankChar && behind.toList.head?.all isBlankChar then
        let field ← slice? text start offset
        cutAtOffsets? limit text (fields ++ [Text.trim field]) (offset + 2) offsets
      else cutAtOffsets? limit text fields start offsets

/-- The fields of a text, at most `limit` of them, cut out of its bytes.  A limit of zero is never
reached. -/
def fieldsByOffset? (limit : Nat) (text : String) : Option (List String) :=
  cutAtOffsets? limit text [] 0 (colonPairs 0 (encode text))

theorem endAt?_eq {text : String} {before last : List Char} (h : text.toList = before ++ last)
    (fields : List String) :
    endAt? text fields (size before) = some (fields ++ [fieldOf last]) := by
  simp [endAt?, Text.slice?_end h, Text.trim]

theorem cutAtOffsets?_of_full {limit : Nat} {text : String} {fields : List String}
    (h : fields.length + 1 = limit) (start : Nat) (offsets : List Nat) :
    cutAtOffsets? limit text fields start offsets = endAt? text fields start := by
  cases offsets with
  | nil => rfl
  | cons offset offsets => rw [cutAtOffsets?, if_pos h]

/-- **One step**: at two colons of the text every slice is there, and the field under way ends or
goes on. -/
theorem cutAtOffsets?_cons {limit : Nat} {text : String} {fields : List String}
    {passed field rest : List Char} (htext : text.toList = passed ++ field ++ ':' :: ':' :: rest)
    (hroom : fields.length + 1 ≠ limit) (offsets : List Nat) :
    cutAtOffsets? limit text fields (size passed) (size (passed ++ field) :: offsets) =
      if (passed ++ field).getLast?.all isBlankChar && startsBlank rest then
        cutAtOffsets? limit text (fields ++ [fieldOf field]) (size (passed ++ field) + 2) offsets
      else cutAtOffsets? limit text fields (size passed) offsets := by
  have hbehind : text.toList = passed ++ field ++ [':', ':'] ++ rest := by simp [htext]
  have hend : size (passed ++ field ++ [':', ':']) = size (passed ++ field) + 2 :=
    size_append _ _
  have hhead : rest.head?.all isBlankChar = startsBlank rest := by cases rest <;> rfl
  rw [cutAtOffsets?, if_neg hroom, Text.slice?_start htext, ← hend, Text.slice?_end hbehind,
    Text.slice?_between htext]
  simp only [Option.bind_eq_bind, Option.bind_some, String.toList_ofList, hhead, Text.trim]

/-- **The whole run.**  The text is what has been passed, the field under way and what is left, and
there is room for just as many cuts as are still to be made. -/
theorem cutAtOffsets?_eq {limit : Nat} {text : String} (cuts : Nat) (field : List Char)
    (blankBefore : Bool) (rest : List Char) (passed : List Char) (fields : List String)
    (htext : text.toList = passed ++ field.reverse ++ rest)
    (hroom : fields.length + 1 + cuts = limit)
    (hblank : (passed ++ field.reverse).getLast?.all isBlankChar = blankBefore) :
    cutAtOffsets? limit text fields (size passed)
        (colonPairs (size (passed ++ field.reverse)) (encodeList rest)) =
      some (fields ++ (splitFrom cuts field blankBefore rest).map fieldOf) := by
  have hcolons : ∀ cs : List Char, size (cs ++ [':', ':']) = size cs + 2 :=
    fun cs => size_append cs _
  fun_induction splitFrom cuts field blankBefore rest generalizing passed fields with
  | case1 field _ rest =>
    rw [List.append_assoc] at htext
    rw [cutAtOffsets?_of_full hroom, endAt?_eq htext]
    rfl
  | case2 _ field =>
    rw [List.append_nil] at htext
    exact endAt?_eq htext fields
  | case3 cuts field blankBefore rest halone ih =>
    -- a cut: what has been passed ends with the separator, and a new field is under way
    have hnext := ih (passed ++ field.reverse ++ [':', ':']) (fields ++ [fieldOf field.reverse])
      (by simp [htext]) (by simp; omega) (by simp [isBlankChar_colon])
    rw [List.reverse_nil, List.append_nil, hcolons] at hnext
    rw [colonPairs_colons, cutAtOffsets?_cons htext (by omega), hblank, if_pos halone, hnext]
    simp
  | case4 cuts field blankBefore rest halone ih =>
    -- two colons that stand with others join the field under way
    have hjoin : (':' :: ':' :: field).reverse = field.reverse ++ [':', ':'] := by simp
    have hnext := ih passed fields (by simp [htext]) hroom (by simp [isBlankChar_colon])
    rw [hjoin, ← List.append_assoc, hcolons] at hnext
    rw [colonPairs_colons, cutAtOffsets?_cons htext (by omega), hblank, if_neg halone, hnext]
  | case5 cuts field _ c rest hpair ih =>
    have hend : size (passed ++ (c :: field).reverse) =
        size (passed ++ field.reverse) + c.utf8Size := by
      simp [size_append, Nat.add_assoc]
    rw [colonPairs_cons hpair, ← hend]
    exact ih passed fields (by simp [htext]) hroom (by simp)

/-- **Every slice is there**: cutting by offsets has a result, and it is the fields of the text. -/
theorem fieldsByOffset?_eq {limit : Nat} (hlimit : 1 ≤ limit) (text : String) :
    fieldsByOffset? limit text = some (splitFields limit text.toList) := by
  rw [fieldsByOffset?, Text.Utf8.encode_eq]
  exact cutAtOffsets?_eq (limit - 1) [] true text.toList [] [] rfl (by simp; omega) rfl

end Shell

end CodeAssistant
