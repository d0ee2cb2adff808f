/-
# Counts are exact

A count of a response is an integer of 64 bits, and its numeral in a body may have any number of
digits.  The digits go into a significand that does not overflow; what does not fit is dropped, and
the number is no integer any more.  So the integer that is found is the one that was written or
there is none (`toInt?_number?`), and a codec of integers refuses whatever is not in its range
(`Codec.Measures`).

`Count` lists the counts of the responses, each with the path to it, the value it has in a decoded
response and the integers that fit.  Along the path the body may be of any shape, with the numeral
where another response has another value (`Differ`).

Main statement: `decode_count`.
-/
import Mathlib.Algebra.Group.Int.Defs
import CodeAssistant.Proofs.Places

namespace CodeAssistant

open Json.Grammar

/-! ## 1. Numerals -/

/-- The plain decimal numeral of an integer. -/
def decimal : Int → List Char
  | .ofNat n => Nat.toDigits 10 n
  | .negSucc n => '-' :: Nat.toDigits 10 (n + 1)

example : decimal (-120) = "-120".toList := by decide

/-- The text is the numeral with blanks around it. -/
def Writes (n : Int) (cs : List Char) : Prop :=
  ∃ gap gap', Blanks gap ∧ Blanks gap' ∧ cs = gap ++ (decimal n ++ gap')

theorem writes_decimal (n : Int) : Writes n (decimal n) :=
  ⟨[], [], .nil, .nil, (List.append_nil _).symm⟩

/-- A natural number of 64 bits. -/
def IsNatural64 (n : Int) : Prop := 0 ≤ n ∧ n < 2 ^ 64

/-- An integer of 64 bits. -/
def IsInteger64 (n : Int) : Prop := -2 ^ 63 ≤ n ∧ n < 2 ^ 63

namespace Numbers

/-- The integers that may be numbers without a fraction. -/
def InRange (n : Int) : Prop := -0x8000000000000000 ≤ n ∧ n < 0x10000000000000000

instance (n : Int) : Decidable (InRange n) := inferInstanceAs (Decidable (_ ∧ _))

/-- The numeral as it is scanned. -/
def literal : Int → Literal
  | .ofNat n => ⟨false, Nat.toDigits 10 n, [], none, false⟩
  | .negSucc n => ⟨true, Nat.toDigits 10 (n + 1), [], none, false⟩

/-- Digits that do not fit are dropped. -/
theorem absorb_of_lt {limit n : Nat} {ds : List Char} (hn : n ≤ limit)
    (h : limit < Nat.ofDigitChars 10 ds n) : (absorb limit n ds).2 ≠ 0 := by
  induction ds generalizing n with
  | nil =>
    rw [Nat.ofDigitChars_nil] at h
    omega
  | cons c ds ih =>
    rw [absorb]
    split
    · rename_i hle
      refine ih hle ?_
      rwa [Nat.ofDigitChars_cons, Nat.mul_comm 10 n] at h
    · exact Nat.succ_ne_zero _

/-- What overflows the significand is a floating point number, if it is a number at all. -/
theorem toInt?_of_overflow {negative : Bool} {n : Nat} (hn : maxSignificand < n) {m : Number}
    (h : Literal.number? ⟨negative, Nat.toDigits 10 n, [], none, false⟩ = .ok m) :
    m.toInt? = none := by
  have hdropped : (absorb maxSignificand 0 (Nat.toDigits 10 n)).2 ≠ 0 := by
    refine absorb_of_lt (Nat.zero_le _) ?_
    rwa [Nat.ofDigitChars_ten_toDigits]
  simp only [Literal.number?, hdropped, decide_false, Bool.and_false, Bool.false_eq_true,
    if_false, Literal.number?.float] at h
  split at h
  · cases h
    rfl
  · cases h

theorem inRange_ofNat {k : Nat} : InRange (.ofNat k) ↔ k ≤ maxSignificand := by
  simp only [InRange, maxSignificand, UInt64.size, Int.ofNat_eq_natCast]
  omega

theorem inRange_negSucc {k : Nat} : InRange (.negSucc k) ↔ k + 1 ≤ 0x8000000000000000 := by
  simp only [InRange, Int.negSucc_eq]
  omega

theorem toInt?_ofInteger_natural {k : Nat} (hk : k ≤ maxSignificand) :
    (ofInteger false k).toInt? = some (.ofNat k) := by
  have hlt : k < UInt64.size := by
    simp only [maxSignificand, UInt64.size] at hk ⊢
    omega
  rw [ofInteger, if_neg (by decide), Number.toInt?, UInt64.toNat_ofNat_of_lt' hlt]
  rfl

/-- A negative integer that is too small for 64 bits is a floating point number. -/
theorem toInt?_ofInteger_negative (k : Nat) :
    (ofInteger true (k + 1)).toInt? =
      if InRange (.negSucc k) then some (.negSucc k) else none := by
  rw [ofInteger, if_pos rfl]
  split
  · rename_i h
    rw [if_pos (inRange_negSucc.mpr h.2)]
    rfl
  · rename_i h
    rw [if_neg fun hin => h ⟨Nat.succ_pos k, inRange_negSucc.mp hin⟩]
    rfl

/-- **The integer that a numeral is read as is its own**, and it has one if it is in range. -/
theorem toInt?_number? {n : Int} {m : Number} (h : (literal n).number? = .ok m) :
    m.toInt? = if InRange n then some n else none := by
  cases n with
  | ofNat k =>
    by_cases hk : k ≤ maxSignificand
    · obtain rfl := Except.ok.inj ((number?_toDigits false hk).symm.trans h)
      rw [if_pos (inRange_ofNat.mpr hk), toInt?_ofInteger_natural hk]
    · rw [if_neg fun hin => hk (inRange_ofNat.mp hin)]
      exact toInt?_of_overflow (Nat.lt_of_not_le hk) h
  | negSucc k =>
    by_cases hk : k + 1 ≤ maxSignificand
    · obtain rfl := Except.ok.inj ((number?_toDigits true hk).symm.trans h)
      exact toInt?_ofInteger_negative k
    · have hout : ¬ InRange (.negSucc k) := by
        rw [inRange_negSucc]
        simp only [maxSignificand, UInt64.size] at hk
        omega
      rw [if_neg hout]
      exact toInt?_of_overflow (Nat.lt_of_not_le hk) h

theorem exists_number? {n : Int} (h : InRange n) : ∃ m, (literal n).number? = .ok m := by
  cases n with
  | ofNat k => exact ⟨_, number?_toDigits false (inRange_ofNat.mp h)⟩
  | negSucc k =>
    refine ⟨_, number?_toDigits true ((inRange_negSucc.mp h).trans ?_)⟩
    simp only [maxSignificand, UInt64.size]
    omega

end Numbers

section Reading

variable {n : Int} {r r' : List Char} {f : Found}

theorem scans_decimal (n : Int) (hr : EndsNumber r) :
    Lexeme.Scans .read (decimal n ++ r) (.number (Numbers.literal n)) r := by
  cases n with
  | ofNat k =>
    have hscan : Numbers.scan .read false (Nat.toDigits 10 k ++ r) = .ok (Numbers.literal k, r) :=
      Numbers.scan_toDigits k false hr
    obtain ⟨c, cs, hcs⟩ := List.exists_cons_of_ne_nil (Nat.toDigits_ne_nil (n := k) (b := 10))
    have hc : Numbers.isDigit c = true :=
      Numbers.isDigit_of_mem_toDigits (n := k) (hcs ▸ List.mem_cons_self)
    rw [decimal]
    rw [hcs, List.cons_append] at hscan ⊢
    exact .natural hc hscan
  | negSucc k => exact .negative (Numbers.scan_toDigits (k + 1) true hr)

theorem derives_decimal (n : Int) : Derives .value (decimal n) := by
  obtain ⟨cs, hcs, heq⟩ := derives_of_scans (scans_decimal n .nil) rfl
  rw [List.append_cancel_right heq]
  exact hcs

/-- A numeral does not start like `null`. -/
theorem decimal_ne (n : Int) (s : List Char) : decimal n ≠ 'n' :: s := by
  intro h
  cases n with
  | ofNat k =>
    rw [decimal] at h
    have hn : Numbers.isDigit 'n' = true :=
      Numbers.isDigit_of_mem_toDigits (n := k) (h ▸ List.mem_cons_self)
    cases hn
  | negSucc k => cases h

theorem readFound_decimal (hr : EndsNumber r) :
    readFound (decimal n ++ r) = .ok (f, r') ↔
      r' = r ∧ ∃ m, (Numbers.literal n).number? = .ok m ∧ f = .number m := by
  rw [readFound_eq_ok_iff, skipBlanks_value (derives_decimal n)]
  constructor
  · rintro ⟨l, hl, hf⟩
    obtain ⟨rfl, rfl⟩ := (scans_decimal n hr).unique hl
    obtain ⟨m, hm, rfl⟩ := Option.map_eq_some_iff.mp hf
    cases hok : (Numbers.literal n).number? with
    | error e =>
      rw [hok] at hm
      cases hm
    | ok m' =>
      rw [hok] at hm
      cases hm
      exact ⟨rfl, m, rfl, rfl⟩
  · rintro ⟨rfl, m, hm, rfl⟩
    refine ⟨_, scans_decimal n hr, ?_⟩
    rw [Lexeme.found?, hm]
    rfl

end Reading

/-! ## 2. Codecs of integers -/

namespace Codec

variable {α : Type} {c : Codec α} {value : α → Option Int} {fits : Int → Prop} {depth : Nat}
  {cs : List Char} {n : Int} {a : α}

/-- The numerals of the integers that fit mean the values that stand for them, and no other numeral
means anything. -/
structure Measures (c : Codec α) (value : α → Option Int) (fits : Int → Prop) : Prop where
  means_iff : ∀ {depth : Nat} {n : Int} {cs : List Char} {a : α}, Writes n cs →
    (c.Means depth cs a ↔ value a = some n)
  fits_iff : ∀ {n : Int}, fits n ↔ ∃ a, value a = some n

namespace Measures

theorem scalar {toInt : α → Int} {expected : Expected}
    {accept : Found → Option (Except Reason α)} (hopen : ∀ o, o.isOpening → accept o = none)
    (hread : ∀ depth, c.read depth = scalarOf expected accept hopen)
    (haccept : ∀ m a, accept (.number m) = some (.ok a) ↔ m.toInt? = some (toInt a))
    (hfits : ∀ n, fits n ↔ ∃ a, toInt a = n) (hrange : ∀ n, fits n → Numbers.InRange n) :
    c.Measures (fun a => some (toInt a)) fits := by
  refine ⟨fun {depth n cs a} hcs => ?_, fun {n} => by simp [hfits]⟩
  obtain ⟨gap, gap', hgap, hgap', rfl⟩ := hcs
  rw [(Local.scalar hopen hread).means_text_iff hgap (derives_decimal n) hgap', Option.some_inj]
  constructor
  · intro h
    obtain ⟨gap₂, -, hrun⟩ := h [] .nil
    rw [hread] at hrun
    obtain ⟨f, hf, ha⟩ := scalarOf_eq_ok_iff.mp hrun
    obtain ⟨-, m, hm, rfl⟩ := (readFound_decimal .nil).mp hf
    have hvalue := (Numbers.toInt?_number? hm).symm.trans ((haccept m a).mp ha)
    split at hvalue
    · exact (Option.some.inj hvalue).symm
    · cases hvalue
  · intro h r hr
    have hin : Numbers.InRange n := hrange n ((hfits n).mpr ⟨a, h⟩)
    obtain ⟨m, hm⟩ := Numbers.exists_number? hin
    have hvalue := Numbers.toInt?_number? hm
    rw [if_pos hin, ← h] at hvalue
    refine ⟨[], .nil, ?_⟩
    rw [hread]
    exact scalarOf_eq_ok_iff.mpr
      ⟨.number m, (readFound_decimal hr).mpr ⟨rfl, m, hm, rfl⟩, (haccept m a).mpr hvalue⟩

theorem natural64 : Codec.natural64.Measures (fun a => some (a.toNat : Int)) IsNatural64 := by
  refine scalar (by rintro (_ | _ | _ | _) ⟨⟩ <;> rfl) (fun _ => rfl) (fun m a => ?_)
    (fun n => ?_) fun n hn => ?_
  · cases m with
    | natural k =>
      simp only [Number.toInt?, Option.some.injEq, Except.ok.injEq, Int.natCast_inj,
        UInt64.toNat_inj]
    | negative k =>
      simp only [Number.toInt?, Option.some.injEq, reduceCtorEq, false_iff]
      omega
    | float x => simp [Number.toInt?]
  · constructor
    · rintro ⟨hle, hlt⟩
      refine ⟨UInt64.ofNat n.toNat, ?_⟩
      rw [UInt64.toNat_ofNat_of_lt' (by rw [UInt64.size]; omega), Int.toNat_of_nonneg hle]
    · rintro ⟨a, rfl⟩
      have := a.toNat_lt
      simp only [IsNatural64]
      omega
  · obtain ⟨hle, hlt⟩ := hn
    simp only [Numbers.InRange]
    omega

theorem integer?_eq_some_iff {m : Number} {a : Int64} :
    integer? m = some a ↔ m.toInt? = some a.toInt := by
  have ha : -0x8000000000000000 ≤ a.toInt ∧ a.toInt < 0x8000000000000000 :=
    ⟨a.le_toInt, a.toInt_lt⟩
  have hof : ∀ i : Int, -0x8000000000000000 ≤ i → i < 0x8000000000000000 →
      (Int64.ofInt i = a ↔ i = a.toInt) := by
    intro i hle hlt
    rw [← Int64.toInt_inj, Int64.toInt_ofInt_of_le (by omega) (by omega)]
  cases m with
  | natural k =>
    rw [integer?, Number.toInt?]
    split
    · rw [Option.some_inj, Option.some_inj, hof _ (by omega) (by omega)]
    · simp only [reduceCtorEq, Option.some.injEq, false_iff]
      omega
  | negative k =>
    have hk := k.isLt
    rw [integer?, Number.toInt?, Option.some_inj, Option.some_inj, hof _ (by omega) (by omega)]
  | float x => simp [integer?, Number.toInt?]

theorem integer64 : Codec.integer64.Measures (fun a => some a.toInt) IsInteger64 := by
  refine scalar (by rintro (_ | _ | _ | _) ⟨⟩ <;> rfl) (fun _ => rfl) (fun m a => ?_)
    (fun n => ?_) fun n hn => ?_
  · rw [← integer?_eq_some_iff]
    cases m with
    | float x => simp [integer?]
    | natural k => cases h : integer? (.natural k) <;> simp [h]
    | negative k => cases h : integer? (.negative k) <;> simp [h]
  · constructor
    · rintro ⟨hle, hlt⟩
      exact ⟨Int64.ofInt n, Int64.toInt_ofInt_of_le (by omega) (by omega)⟩
    · rintro ⟨a, rfl⟩
      exact ⟨a.le_toInt, a.toInt_lt⟩
  · obtain ⟨hle, hlt⟩ := hn
    simp only [Numbers.InRange]
    omega

/-- `null` or a count: a numeral is never `null`. -/
theorem nullable (hc : c.Local) (h : c.Measures value fits) :
    c.nullable.Measures (fun o => o.bind value) fits := by
  refine ⟨fun {depth n cs o} hcs => ?_, fun {n} => ?_⟩
  · obtain ⟨gap, gap', hgap, hgap', rfl⟩ := hcs
    rw [hc.nullable.means_text_iff hgap (derives_decimal n) hgap',
      Local.means_nullable_iff hc (derives_decimal n) (decimal_ne n), Option.bind_eq_some_iff]
    refine exists_congr fun a => ?_
    rw [h.means_iff (writes_decimal n), and_comm, eq_comm]
  · rw [h.fits_iff]
    constructor
    · rintro ⟨a, ha⟩
      exact ⟨some a, ha⟩
    · rintro ⟨o, ho⟩
      obtain ⟨a, -, ha⟩ := Option.bind_eq_some_iff.mp ho
      exact ⟨a, ha⟩

end Measures

/-- The path leads to a count: its value is measured by the numeral at the end of the path, and the
integers that fit are those that it can be. -/
structure Counts (c : Codec α) (path : List Step) (value : α → Option Int) (fits : Int → Prop) :
    Prop where
  isLocal : c.Local
  leads : ∃ (β : Type) (e : Codec β) (get : α → Option β) (measure : β → Option Int),
    c.Leads path e get ∧ e.Measures measure fits ∧ ∀ a, value a = (get a).bind measure

end Codec

/-- One of the fields is the first step of a path to a count. -/
def Fields.Counts {ρ σ : Type} (fs : Fields ρ σ) (path : List Step) (value : ρ → Option Int)
    (fits : Int → Prop) : Prop :=
  ∃ (α : Type) (field : Field α) (p : fs.Place field) (rest : List Step) (inner : α → Option Int),
    path = .field field.key p.index :: rest ∧ field.codec.Counts rest inner fits ∧
      ∀ values, value values = inner (p.get values)

namespace Codec.Counts

variable {α : Type} {c : Codec α} {path : List Step} {value : α → Option Int} {fits : Int → Prop}

theorem of_measures (hc : c.Local) (h : c.Measures value fits) : c.Counts [] value fits :=
  ⟨hc, α, c, some, value, .here c, h, fun _ => rfl⟩

theorem natural64 : Codec.natural64.Counts [] (fun a => some (a.toNat : Int)) IsNatural64 :=
  of_measures .natural64 .natural64

theorem nullable (h : c.Measures value fits) (hc : c.Local) :
    c.nullable.Counts [] (fun o => o.bind value) fits :=
  of_measures hc.nullable (.nullable hc h)

theorem item (h : c.Counts path value fits) (index : Nat) :
    c.list.Counts (.item index :: path) (fun as => as[index]?.bind value) fits := by
  obtain ⟨hc, β, e, get, measure, hleads, hmeasures, hvalue⟩ := h
  refine ⟨hc.list, β, e, _, measure, hleads.item hc index, hmeasures, fun as => ?_⟩
  cases as[index]? with
  | none => rfl
  | some a => exact hvalue a

theorem ofRecord {ρ σ : Type} {name : String} {fs : Fields ρ σ} {into : ρ → α} {out : α → ρ}
    (hout : ∀ values, out (into values) = values) (hinto : ∀ a, into (out a) = a)
    (hkeys : fs.keys.Nodup) (hfs : fs.Every (·.codec.Local))
    (h : fs.Counts path (fun values => value (into values)) fits) :
    ((record name fs).reshape into out).Counts path value fits := by
  obtain ⟨β, field, p, rest, inner, rfl, ⟨-, γ, e, get, measure, hleads, hmeasures, hinner⟩, hvalue⟩ :=
    h
  refine ⟨.reshape (.record name hfs) into out, γ, e, _, measure,
    .reshape hout (.field name hkeys hfs p hleads), hmeasures, fun a => ?_⟩
  rw [← hinner, ← hvalue]
  simp only [hinto]

end Codec.Counts

/-! ## 3. The counts of the responses -/

/-- The counts of a usage. -/
inductive UsageCount
  | totalChunks
  | packedChunks
  | contextTokens
  | systemTokens
  | totalTokens
  | availableTokens
  | usedTokens
  deriving DecidableEq, Repr

namespace UsageCount

/-- The step to the count. -/
def step : UsageCount → Step
  | totalChunks => .field "total_chunks" 0
  | packedChunks => .field "packed_chunks" 1
  | contextTokens => .field "context_tokens" 2
  | systemTokens => .field "system_tokens" 3
  | totalTokens => .field "total_tokens" 4
  | availableTokens => .field "available_tokens" 6
  | usedTokens => .field "used_tokens" 7

/-- The count, if the usage has it. -/
def value : UsageCount → ContextUsage → Option Int
  | totalChunks, u => some u.totalChunks.toNat
  | packedChunks, u => some u.packedChunks.toNat
  | contextTokens, u => some u.contextTokens.toNat
  | systemTokens, u => some u.systemTokens.toNat
  | totalTokens, u => some u.totalTokens.toNat
  | availableTokens, u => u.availableTokens.bind fun n => some n.toInt
  | usedTokens, u => u.usedTokens.bind fun n => some n.toNat

/-- The integers that fit.  Available tokens may be fewer than none. -/
def Fits : UsageCount → Int → Prop
  | availableTokens => IsInteger64
  | totalChunks | packedChunks | contextTokens | systemTokens | totalTokens => IsNatural64
  | usedTokens => IsNatural64

theorem counts (count : UsageCount) :
    ContextUsage.codec.Counts [count.step] count.value count.Fits := by
  refine .ofRecord (fun _ => rfl) (fun _ => rfl) (by decide)
    ⟨.natural64, .natural64, .natural64, .natural64, .natural64, .float64, .nullable .integer64,
      .nullable .natural64, trivial⟩ ?_
  cases count with
  | totalChunks => exact ⟨_, _, .here, [], _, rfl, .natural64, fun _ => rfl⟩
  | packedChunks => exact ⟨_, _, .there .here, [], _, rfl, .natural64, fun _ => rfl⟩
  | contextTokens => exact ⟨_, _, .there (.there .here), [], _, rfl, .natural64, fun _ => rfl⟩
  | systemTokens =>
    exact ⟨_, _, .there (.there (.there .here)), [], _, rfl, .natural64, fun _ => rfl⟩
  | totalTokens =>
    exact ⟨_, _, .there (.there (.there (.there .here))), [], _, rfl, .natural64, fun _ => rfl⟩
  | availableTokens =>
    exact ⟨_, _, .there (.there (.there (.there (.there (.there .here))))), [], _, rfl,
      .nullable .integer64 .integer64, fun _ => rfl⟩
  | usedTokens =>
    exact ⟨_, _, .there (.there (.there (.there (.there (.there (.there .here)))))), [], _, rfl,
      .nullable .natural64 .natural64, fun _ => rfl⟩

end UsageCount

/-- The counts of each type of responses. -/
inductive Count : WireType → Type
  | ofUsage (count : UsageCount) : Count .contextUsage
  | ofChat (count : UsageCount) : Count .chatResponse
  | ofDebug (count : UsageCount) : Count .debugResponse
  | ofPlan (count : UsageCount) : Count .planResponse
  | size : Count .fileEntry
  /-- The size of a file of a listing. -/
  | sizeOf (index : Nat) : Count .fileListing
  | total : Count .fileListing
  | lines : Count .fileContent

namespace Count

/-- The path to the count. -/
def path : {T : WireType} → Count T → List Step
  | _, ofUsage count => [count.step]
  | _, ofChat count => [.field "context_stats" 1, count.step]
  | _, ofDebug count => [.field "context_stats" 2, count.step]
  | _, ofPlan count => [.field "context_stats" 1, count.step]
  | _, size => [.field "size" 3]
  | _, sizeOf index => [.field "files" 0, .item index, .field "size" 3]
  | _, total => [.field "total" 1]
  | _, lines => [.field "lines" 2]

/-- The count, if the response has it. -/
def value : {T : WireType} → Count T → T.Value → Option Int
  | _, ofUsage count, (usage : ContextUsage) => count.value usage
  | _, ofChat count, (response : ChatResponse) => count.value response.usage
  | _, ofDebug count, (response : DebugResponse) => count.value response.usage
  | _, ofPlan count, (response : PlanResponse) => count.value response.usage
  | _, size, (entry : FileEntry) => some entry.size.toNat
  | _, sizeOf index, (listing : FileListing) =>
    listing.files[index]?.bind fun entry => some entry.size.toNat
  | _, total, (listing : FileListing) => listing.total.bind fun n => some n.toNat
  | _, lines, (content : FileContent) => some content.lines.toNat

/-- The integers that fit. -/
def Fits : {T : WireType} → Count T → Int → Prop
  | _, ofUsage count | _, ofChat count | _, ofDebug count | _, ofPlan count => count.Fits
  | _, size | _, sizeOf _ | _, total | _, lines => IsNatural64

theorem size_counts : FileEntry.codec.Counts [.field "size" 3]
    (fun entry => some (entry.size.toNat : Int)) IsNatural64 :=
  .ofRecord (fun _ => rfl) (fun _ => rfl) (by decide) ⟨.text, .text, .text, .natural64, trivial⟩
    ⟨_, _, .there (.there (.there .here)), [], _, rfl, .natural64, fun _ => rfl⟩

theorem counts {T : WireType} (count : Count T) :
    T.codec.Counts count.path count.value count.Fits := by
  cases count with
  | ofUsage count => exact count.counts
  | ofChat count =>
    exact .ofRecord (fun _ => rfl) (fun _ => rfl) (by decide) ⟨.text, count.counts.isLocal, trivial⟩
      ⟨_, _, .there .here, _, _, rfl, count.counts, fun _ => rfl⟩
  | ofDebug count =>
    exact .ofRecord (fun _ => rfl) (fun _ => rfl) (by decide)
      ⟨.text, .text, count.counts.isLocal, trivial⟩
      ⟨_, _, .there (.there .here), _, _, rfl, count.counts, fun _ => rfl⟩
  | ofPlan count =>
    exact .ofRecord (fun _ => rfl) (fun _ => rfl) (by decide) ⟨.text, count.counts.isLocal, trivial⟩
      ⟨_, _, .there .here, _, _, rfl, count.counts, fun _ => rfl⟩
  | size => exact size_counts
  | sizeOf index =>
    exact .ofRecord (fun _ => rfl) (fun _ => rfl) (by decide)
      ⟨.list size_counts.isLocal, .nullable .natural64, trivial⟩
      ⟨_, _, .here, _, _, rfl, size_counts.item index, fun _ => rfl⟩
  | total =>
    exact .ofRecord (fun _ => rfl) (fun _ => rfl) (by decide)
      ⟨.list size_counts.isLocal, .nullable .natural64, trivial⟩
      ⟨_, _, .there .here, _, _, rfl, .nullable .natural64 .natural64, fun _ => rfl⟩
  | lines =>
    exact .ofRecord (fun _ => rfl) (fun _ => rfl) (by decide) ⟨.text, .text, .natural64, trivial⟩
      ⟨_, _, .there (.there .here), _, _, rfl, .natural64, fun _ => rfl⟩

theorem path_ne_nil {T : WireType} (count : Count T) : count.path ≠ [] := by
  cases count <;> exact List.cons_ne_nil _ _

end Count

/-! ## 4. Decoding -/

/-- **Counts are exact.**  Of two bodies that say the same, but for the value of a count, let the
second have a numeral there.  If the first is decoded and the integer fits, the second is decoded,
with just that integer for the count.  If the integer does not fit, the second is refused.  And
however the second is decoded, it has that integer for the count. -/
theorem decode_count {T : WireType} (count : Count T) {n : Int} {w w' : List Char}
    {body body' : String} (hw : Writes n w')
    (h : Differ count.path w w' body.toList body'.toList) :
    (∀ v, T.codec.decode body = .ok v → count.Fits n →
      ∃ v', T.codec.decode body' = .ok v' ∧ count.value v' = some n) ∧
    (¬ count.Fits n → ∃ e, T.codec.decode body' = .error e) ∧
    ∀ v', T.codec.decode body' = .ok v' → count.value v' = some n := by
  obtain ⟨hlocal, β, e, get, measure, hleads, hmeasures, hvalue⟩ := count.counts
  obtain ⟨htext, htext'⟩ := h.isText count.path_ne_nil
  have hexact : ∀ v', T.codec.decode body' = .ok v' → count.value v' = some n ∧ count.Fits n := by
    intro v' hv'
    obtain ⟨d, b, hb, hget, -⟩ := hleads.exchange h.symm ((hlocal.decode_iff htext').mp hv')
    have hmeasure := (hmeasures.means_iff hw).mp hb
    exact ⟨by rw [hvalue, hget, Option.bind_some, hmeasure], hmeasures.fits_iff.mpr ⟨b, hmeasure⟩⟩
  refine ⟨fun v hv hfits => ?_, fun hfits => ?_, fun v' hv' => (hexact v' hv').1⟩
  · obtain ⟨d, -, -, -, hexchange⟩ := hleads.exchange h ((hlocal.decode_iff htext).mp hv)
    obtain ⟨b, hb⟩ := hmeasures.fits_iff.mp hfits
    obtain ⟨v', hv', hget⟩ := hexchange b ((hmeasures.means_iff hw).mpr hb)
    exact ⟨v', (hlocal.decode_iff htext').mpr hv', by rw [hvalue, hget, Option.bind_some, hb]⟩
  · cases hdecode : T.codec.decode body' with
    | error e => exact ⟨e, rfl⟩
    | ok v' => exact absurd (hexact v' hdecode).2 hfits

/-- An object with one member and nothing between the tokens. -/
theorem Json.isObjectText_single {spelling cs : List Char} (hspelling : IsChars spelling)
    (hcs : Derives .text cs) : Json.IsObjectText ([] ++ (spelling, cs) :: [])
      ('\x7b' :: '"' :: (spelling ++ '"' :: ':' :: (cs ++ ['\x7d']))) := by
  exact ⟨[], _, [], .nil, .lastMember .nil hspelling .nil hcs, .nil, by simp⟩

/-- The least integer of 64 bits is read for the tokens that are available, the one below is not. -/
theorem decode_count_available :
    let body := "\x7b\"available_tokens\":null\x7d"
    let least := "\x7b\"available_tokens\":-9223372036854775808\x7d"
    let below := "\x7b\"available_tokens\":-9223372036854775809\x7d"
    let count : Count .contextUsage := .ofUsage .availableTokens
    let w := "null".toList
    ContextUsage.codec.decode body = .ok {} ∧
      (Differ count.path w (decimal (-2 ^ 63)) body.toList least.toList ∧ count.Fits (-2 ^ 63) ∧
        ∃ v, ContextUsage.codec.decode least = .ok v ∧ count.value v = some (-2 ^ 63)) ∧
      Differ count.path w (decimal (-2 ^ 63 - 1)) body.toList below.toList ∧
        ¬ count.Fits (-2 ^ 63 - 1) ∧ ∃ e, ContextUsage.codec.decode below = .error e := by
  intro body least below count w
  have hbody : ContextUsage.codec.decode body = .ok {} := by decide +kernel
  have hkey : IsChars "available_tokens".toList := Json.isChars_of_plain (by decide)
  have hnull : Derives .text w := text_of_value (.word (.head _))
  have hdiffer : ∀ n (other : String),
      other.toList =
        '\x7b' :: '"' :: ("available_tokens".toList ++ '"' :: ':' :: (decimal n ++ ['\x7d'])) →
      Differ count.path w (decimal n) body.toList other.toList := by
    intro n other hother
    have hw : body.toList =
        '\x7b' :: '"' :: ("available_tokens".toList ++ '"' :: ':' :: (w ++ ['\x7d'])) := by decide
    rw [hother, hw]
    exact .member (by decide +kernel) .here (Json.isObjectText_single hkey hnull)
      (Json.isObjectText_single hkey (text_of_value (derives_decimal n)))
  have hleast := hdiffer (-2 ^ 63) least (by decide +kernel)
  have hbelow := hdiffer (-2 ^ 63 - 1) below (by decide +kernel)
  have hfits : count.Fits (-2 ^ 63) := ⟨by decide, by decide⟩
  have hfits' : ¬ count.Fits (-2 ^ 63 - 1) := fun h => absurd h.1 (by decide)
  exact ⟨hbody, ⟨hleast, hfits, (decode_count count (writes_decimal _) hleast).1 _ hbody hfits⟩,
    hbelow, hfits', (decode_count count (writes_decimal _) hbelow).2.1 hfits'⟩

end CodeAssistant
