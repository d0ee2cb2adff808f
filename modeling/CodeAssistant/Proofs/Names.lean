/-
# Hosts that are words

The tables that tell which names a host may have speak of characters beyond ASCII.  A name of ASCII
labels stands for itself unless a label is marked as standing for another (`Label.toAscii?_of_ascii`),
and a word of small letters is a host as it stands (`Host.ofDomain_of_word`).
-/
import CodeAssistant.Proofs.Characters
import CodeAssistant.Proofs.Directories

namespace CodeAssistant

/-! ## 1. Characters of ASCII -/

namespace Text

/-- Characters of ASCII. -/
def IsAscii (cs : List Char) : Prop := ∀ c ∈ cs, c.toNat < 0x80

/-- A character in front of all ranges is in none of them. -/
theorem inRanges_of_lt {ranges : Array (Nat × Nat)} {n : Nat}
    (h : ranges.toList.all (n ≤ ·.1) = true) {c : Char} (hc : c.toNat < n) :
    inRanges ranges c = false := by
  rw [inRanges, ← Array.any_toList, List.any_eq_false]
  intro range hrange
  have hlow : n ≤ range.1 := by simpa using List.all_eq_true.mp h range hrange
  simp only [Bool.and_eq_true, decide_eq_true_eq, not_and]
  omega

theorem isTurned_of_ascii {cs : List Char} (h : IsAscii cs) : isTurned cs = false := by
  rw [isTurned, List.any_eq_false]
  intro c hc
  have hturned : inRanges Direction.rightToLeftRanges c = false :=
    inRanges_of_lt (n := 0x80) (by decide +kernel) (h c hc)
  have harabic : inRanges Direction.arabicNumberRanges c = false :=
    inRanges_of_lt (n := 0x80) (by decide +kernel) (h c hc)
  rw [Direction.of, if_neg (by simp [hturned]), if_neg (by simp [harabic])]
  split
  · decide
  · split
    · decide
    · split <;> decide

namespace Utf8

/-- A character of ASCII is one byte. -/
theorem utf8EncodeChar_of_ascii {c : Char} (h : c.toNat < 0x80) :
    String.utf8EncodeChar c = [UInt8.ofNat c.toNat] := by
  rw [String.utf8EncodeChar, Char.toNat_val, if_pos (by omega)]

theorem encodeList_of_ascii {cs : List Char} (h : IsAscii cs) :
    encodeList cs = cs.map fun c => UInt8.ofNat c.toNat := by
  induction cs with
  | nil => rfl
  | cons c cs ih =>
    obtain ⟨hc, hcs⟩ := List.forall_mem_cons.mp h
    rw [encodeList_cons, utf8EncodeChar_of_ascii hc, ih hcs]
    rfl

end Utf8

end Text

namespace Url

/-! ## 2. Names of ASCII -/

theorem Percent.decode_cons_of_ne {b : UInt8} (h : b ≠ 37) (rest : List UInt8) :
    decode (b :: rest) = b :: decode rest := by
  match rest with
  | [] | [_] => rfl
  | x :: y :: rest =>
    rw [decode, if_neg h]

/-- Bytes without a percent sign stand for themselves. -/
theorem Percent.decode_eq_self {bs : List UInt8} (h : ∀ b ∈ bs, b ≠ 37) : decode bs = bs := by
  induction bs with
  | nil => rfl
  | cons b bs ih =>
    obtain ⟨hb, hbs⟩ := List.forall_mem_cons.mp h
    rw [decode_cons_of_ne hb, ih hbs]

namespace Label

variable {labels : List (List Char)}

theorem readAll?_of_ascii (hascii : ∀ label ∈ labels, Text.IsAscii label)
    (hmark : ∀ label ∈ labels, mark.isPrefixOf label = false) :
    readAll? labels = some (labels.map fun label => (label, label)) := by
  induction labels with
  | nil => rfl
  | cons label labels ih =>
    obtain ⟨hlabel, hlabels⟩ := List.forall_mem_cons.mp hascii
    obtain ⟨hplain, hplains⟩ := List.forall_mem_cons.mp hmark
    have hall : label.all (·.toNat < 0x80) = true := by
      rw [List.all_eq_true]
      intro c hc
      exact decide_eq_true (hlabel c hc)
    have hread : read? label = some (label, label) := by
      rw [read?, if_pos hall, meaning?, if_neg (by simp [hplain])]
      rfl
    rw [readAll?, hread, ih hlabels hplains]
    rfl

/-- Labels of ASCII are themselves in ASCII, and have one direction. -/
theorem toAscii?_of_ascii (hascii : ∀ label ∈ labels, Text.IsAscii label)
    (hmark : ∀ label ∈ labels, mark.isPrefixOf label = false) : toAscii? labels = some labels := by
  have hturned : (labels.map fun label => (label, label)).any (Text.isTurned ·.1) = false := by
    rw [List.any_eq_false]
    intro pair hpair
    obtain ⟨label, hlabel, rfl⟩ := List.mem_map.mp hpair
    simp [Text.isTurned_of_ascii (hascii label hlabel)]
  rw [toAscii?, readAll?_of_ascii hascii hmark]
  dsimp only
  rw [hturned, if_pos (by simp), List.map_map]
  exact congrArg some (List.map_id' labels)

end Label

/-! ## 3. Words -/

/-- A letter is no decimal digit. -/
theorem digitValue?_of_isAlpha {c : Char} (h : c.isAlpha = true) :
    Text.digitValue? 10 c = none := by
  have hbounds := bounds_of_isAlpha h
  have hnine : '9'.toNat = 57 := rfl
  have hrange : ¬ ('0' ≤ c ∧ c ≤ '9') := by
    simp only [Char.le_def, UInt32.le_iff_toNat_le, Char.toNat_val]
    omega
  rw [Text.digitValue?, Text.hexValue?, if_neg hrange]
  split
  · simp
  · split <;> simp

namespace IsWord

variable {word : List Char} (h : IsWord word)

include h

theorem isAscii : Text.IsAscii word := by
  intro c hc
  have hbounds := bounds_of_isAlpha (h c hc)
  omega

theorem not_isPrefixOf_mark : Label.mark.isPrefixOf word = false := by
  rw [Bool.eq_false_iff]
  intro hprefix
  obtain ⟨rest, rfl⟩ := List.isPrefixOf_iff_prefix.mp hprefix
  cases h '-' (by simp [Label.mark])

/-- A word stands for itself in percent encoding. -/
theorem decode?_decode : Text.Utf8.decode?
    (Percent.decode (Text.Utf8.encode (String.ofList word))) = some (String.ofList word) := by
  rw [Percent.decode_eq_self, Text.Utf8.decode?_encode]
  intro b hb
  rw [Text.Utf8.encode_ofList, Text.Utf8.encodeList_of_ascii h.isAscii] at hb
  obtain ⟨c, hc, rfl⟩ := List.mem_map.mp hb
  have hbounds := bounds_of_isAlpha (h c hc)
  intro heq
  have hnat := congrArg UInt8.toNat heq
  rw [Text.Utf8.toNat_ofNat_of_lt (by omega)] at hnat
  have h37 : (37 : UInt8).toNat = 37 := rfl
  omega

theorem plainName?_eq (hlower : word.map Char.toLower = word) :
    Host.plainName? word = some word := by
  have hcounted : word.filter (!Text.inRanges Host.ignoredRanges ·) = word := by
    rw [List.filter_eq_self]
    intro c hc
    rw [Text.inRanges_of_lt (n := 0x80) (by decide +kernel) (h.isAscii c hc)]
    rfl
  have hone : Text.splitWhere (· = '.') word = [word] :=
    Text.splitWhere_eq_singleton fun c hc => by simpa using ne_of_isAlpha (h c hc) (by decide)
  have hascii : Label.toAscii? [word] = some [word] :=
    Label.toAscii?_of_ascii (by simpa using h.isAscii) (by simpa using h.not_isPrefixOf_mark)
  have hallowed : word.any Host.forbiddenInDomain = false := by
    rw [List.any_eq_false]
    intro c hc
    have hbounds := bounds_of_isAlpha (h c hc)
    have hnot : Host.forbidden.contains c = false := by
      rw [List.contains_eq_any_beq, List.any_eq_false]
      intro d hd
      have hall : Host.forbidden.all (!·.isAlpha) = true := by decide
      have halpha : d.isAlpha = false := by simpa using List.all_eq_true.mp hall d hd
      simpa using ne_of_isAlpha (h c hc) halpha
    have hpercent : c ≠ '%' := ne_of_isAlpha (h c hc) (by decide)
    simp only [Host.forbiddenInDomain, hnot, hpercent, decide_false, Bool.or_false,
      Bool.or_eq_true, decide_eq_true_eq]
    omega
  rw [Host.plainName?]
  dsimp only
  rw [hcounted, hlower, hone, hascii]
  dsimp only
  rw [List.intercalate_singleton, hallowed]
  rfl

/-- A word is no number. -/
theorem not_endsInNumber (hne : word ≠ []) : Host.endsInNumber word = false := by
  have hparts : Host.dottedParts word = [word] := by
    have hone : Text.splitWhere (· = '.') word = [word] :=
      Text.splitWhere_eq_singleton fun c hc => by simpa using ne_of_isAlpha (h c hc) (by decide)
    rw [Host.dottedParts, hone]
    rfl
  obtain ⟨c, cs, rfl⟩ := List.exists_cons_of_ne_nil hne
  have hc := h c List.mem_cons_self
  have hbounds := bounds_of_isAlpha hc
  have hpart : Host.ipv4Part? (c :: cs) = none := by
    have hzero : c ≠ '0' := ne_of_isAlpha hc (by decide)
    rw [Host.ipv4Part?, Text.ofDigits?, Text.readDigits?, digitValue?_of_isAlpha hc]
    all_goals simp [hzero]
  rw [Host.endsInNumber, hparts]
  have hdigit : c.isDigit = false := by
    rw [Char.isDigit, Bool.and_eq_false_imp]
    intro _
    rw [decide_eq_false_iff_not, UInt32.le_iff_toNat_le]
    have hnine : '9'.val.toNat = 57 := rfl
    have hnat : c.val.toNat = c.toNat := rfl
    omega
  simp [hpart, hdigit]

end IsWord

/-- **A word of small letters is a host as it stands.** -/
theorem Host.ofDomain_of_word {word : List Char} (h : IsWord word) (hne : word ≠ [])
    (hlower : word.map Char.toLower = word) : ofDomain word = .ok (.name (String.ofList word)) := by
  have hempty : word.isEmpty = false := by simpa using hne
  unfold ofDomain
  split
  · cases h '[' (by simp)
  · rw [h.decode?_decode, Option.bind_some, String.toList_ofList, h.plainName?_eq hlower]
    dsimp only
    rw [hempty, h.not_endsInNumber hne]
    rfl

end Url

end CodeAssistant
