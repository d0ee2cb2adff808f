/-
# What is written is read back

Every value of every type that crosses the wire is decoded from the text that it is encoded to.

The argument goes through the tree.  A codec `Restores` its values if they stand in the trees that
it writes; combinators keep this, records if their keys are different and a field that is left out
is one that stands in for itself.  The text of the tree is read back as the tree
(`Json.takes_layOut`), and the one-pass reader agrees with the tree (`Codec.Agrees`), so it gives
the value (`decode_of_layOut`).

Two things are assumed of a value (`WireType.Assumed`): its floating point numbers are spelled
right, which is a matter of the spelling alone, and its free JSON does not nest deeper than the
reader goes.

Main statement: `decode_encode`.
-/
import CodeAssistant.Proofs.Bodies
import CodeAssistant.Proofs.Layouts
import CodeAssistant.Wire.Failure

namespace CodeAssistant

/-! ## 1. Values and trees -/

/-- Every value stands in the tree that the codec writes. -/
structure Codec.Restores {α : Type} (c : Codec α) : Prop where
  ofTree_write : ∀ a, c.ofTree (c.write a) = some a

/-- An integer is written as a natural number or a negative one, never as a fraction. -/
theorem Codec.ofInt64_cases (i : Int64) :
    (0 ≤ i.toInt ∧ ofInt64 i = .natural (UInt64.ofNat i.toInt.natAbs)) ∨
      ∃ n : Fin 0x8000000000000000, i.toInt = -(n.val + 1 : Nat) ∧ ofInt64 i = .negative n := by
  by_cases hi : i.toInt < 0
  · have hle := i.le_toInt
    refine Or.inr ⟨⟨i.toInt.natAbs - 1, by omega⟩, ?_, ?_⟩
    · show i.toInt = -((i.toInt.natAbs - 1 + 1 : Nat) : Int)
      omega
    · rw [ofInt64, Numbers.ofInteger, if_pos (by simpa using hi), dif_pos (by omega)]
  · refine Or.inl ⟨by omega, ?_⟩
    rw [ofInt64, Numbers.ofInteger, if_neg (by simpa using hi)]

namespace Codec.Restores

variable {α β : Type} {c : Codec α}

theorem text : Codec.text.Restores := ⟨fun _ => rfl⟩

theorem flag : Codec.flag.Restores := ⟨fun _ => rfl⟩

theorem natural64 : Codec.natural64.Restores := ⟨fun _ => rfl⟩

theorem float64 : Codec.float64.Restores := ⟨fun _ => rfl⟩

theorem free : Codec.free.Restores := ⟨fun v => congrArg some (FreeJson.ofTree_tree v)⟩

theorem integer64 : Codec.integer64.Restores := by
  refine ⟨fun i => ?_⟩
  show integer? (ofInt64 i) = some i
  rcases ofInt64_cases i with ⟨hi, h⟩ | ⟨n, hi, h⟩
  · have hlt := i.toInt_lt
    have hn : (UInt64.ofNat i.toInt.natAbs).toNat = i.toInt.natAbs :=
      UInt64.toNat_ofNat_of_lt' (by simp only [UInt64.size]; omega)
    rw [h, integer?, hn, if_pos (by omega), Int.natAbs_of_nonneg hi, Int64.ofInt_toInt]
  · rw [h, integer?, ← hi, Int64.ofInt_toInt]

theorem reshape (h : c.Restores) {into : α → β} {out : β → α} (hinto : ∀ b, into (out b) = b) :
    (c.reshape into out).Restores := by
  refine ⟨fun b => ?_⟩
  simp only [Codec.reshape, h.ofTree_write, Option.map_some, hinto]

theorem nullable (h : c.Restores) (hnull : ∀ a, c.write a ≠ .null) : c.nullable.Restores := by
  refine ⟨fun o => ?_⟩
  cases o with
  | none => rfl
  | some a =>
    have ha := h.ofTree_write a
    have hn := hnull a
    simp only [Codec.nullable]
    cases hw : c.write a <;> simp_all

theorem list (h : c.Restores) : c.list.Restores := by
  refine ⟨fun as => ?_⟩
  show listOfTrees c (as.map c.write) = some as
  induction as with
  | nil => rfl
  | cons a as ih => rw [List.map_cons, listOfTrees, h.ofTree_write, ih]

theorem choice {names : List (String × α)} {spell : α → String}
    (h : ∀ a, named? names (spell a) = some a) : (Codec.choice names spell).Restores := ⟨h⟩

end Codec.Restores

/-! ## 2. Records -/

/-- The field's values are restored, those that are left out by standing in for themselves. -/
structure Field.Restores {α : Type} (field : Field α) : Prop where
  codec : field.codec.Restores
  omitted : ∀ a, field.omitted a = true → field.presence.inObject? = some a

namespace Field.Restores

variable {α : Type} {key : String} {c : Codec α}

theorem required (h : c.Restores) : (Field.required key c).Restores := ⟨h, nofun⟩

theorem optional {value : α} (h : c.Restores) : (Field.optional key c value).Restores := ⟨h, nofun⟩

theorem maybe (h : c.Restores) (hnull : ∀ a, c.write a ≠ .null) :
    (Field.maybe key c).Restores := by
  refine ⟨h.nullable hnull, fun o ho => ?_⟩
  cases o with
  | none => rfl
  | some a => cases ho

end Field.Restores

namespace Fields

variable {ρ σ : Type} {fs : Fields ρ σ}

theorem mem_keys_of_mem_write {values : ρ} {m : String × Json} (h : m ∈ fs.write values) :
    m.1 ∈ fs.keys := by
  induction fs with
  | nil => cases h
  | cons field rest ih =>
    obtain ⟨a, values⟩ := values
    rw [keys]
    simp only [write] at h
    split at h
    · exact List.mem_cons_of_mem _ (ih h)
    · rcases List.mem_cons.mp h with rfl | h
      · exact List.mem_cons_self
      · exact List.mem_cons_of_mem _ (ih h)

/-- **A record stands in the object that it is written as.** -/
theorem ofMembers_write (hkeys : fs.keys.Nodup) (hfs : fs.Every (·.Restores)) (values : ρ) :
    fs.ofMembers (fs.write values) = some values := by
  induction fs with
  | nil => rfl
  | cons field rest ih =>
    obtain ⟨a, values⟩ := values
    obtain ⟨hnew, hkeys⟩ := List.nodup_cons.mp hkeys
    obtain ⟨⟨hcodec, homitted⟩, hrest⟩ := hfs
    have hother : ∀ m ∈ rest.write values, m.1 ≠ field.key := fun m hm heq =>
      hnew (heq ▸ mem_keys_of_mem_write hm)
    have hnone : (rest.write values).filter (·.1 = field.key) = [] :=
      List.filter_eq_nil_iff.mpr fun m hm => by simpa using hother m hm
    rw [write, ofMembers, fieldOfMembers]
    by_cases ho : field.omitted a = true
    · rw [if_pos ho, hnone, ih hkeys hrest, homitted a ho]
    · have hbesides : besides field.key ((field.key, field.codec.write a) :: rest.write values) =
          rest.write values := by
        rw [besides, List.filter_cons_of_neg (by simp)]
        refine List.filter_eq_self.mpr fun m hm => ?_
        simp only [ne_eq, decide_not, Bool.not_eq_true', decide_eq_false_iff_not]
        exact hother m hm
      rw [if_neg ho, List.filter_cons_of_pos (by simp), hnone, ← ofMembers_besides hnew, hbesides,
        ih hkeys hrest]
      simp only [hcodec.ofTree_write]

end Fields

theorem Codec.Restores.ofRecord {α ρ σ : Type} {name : String} {fs : Fields ρ σ} {into : ρ → α}
    {out : α → ρ} (hkeys : fs.keys.Nodup) (hfs : fs.Every (·.Restores))
    (hinto : ∀ a, into (out a) = a) : ((Codec.record name fs).reshape into out).Restores :=
  .reshape ⟨Fields.ofMembers_write hkeys hfs⟩ hinto

/-! ## 3. The types -/

theorem ContextUsage.restores : ContextUsage.codec.Restores :=
  .ofRecord (by decide)
    ⟨.optional .natural64, .optional .natural64, .optional .natural64, .optional .natural64,
      .optional .natural64, .optional .float64, .maybe .integer64 nofun, .maybe .natural64 nofun,
      trivial⟩
    fun _ => rfl

theorem FileEntry.restores : FileEntry.codec.Restores :=
  .ofRecord (by decide)
    ⟨.required .text, .required .text, .optional .text, .optional .natural64, trivial⟩ fun _ => rfl

theorem Failure.restores : Failure.codec.Restores :=
  .ofRecord (by decide)
    ⟨.required (.choice fun kind => by cases kind <;> rfl), .required .text, trivial⟩ fun _ => rfl

theorem WireType.restores : (T : WireType) → T.codec.Restores
  | chatRequest => .ofRecord (by decide) ⟨.required .text, .optional .flag, trivial⟩ fun _ => rfl
  | debugRequest =>
    .ofRecord (by decide) ⟨.required .text, .required .text, .maybe .text nofun, trivial⟩
      fun _ => rfl
  | planRequest =>
    .ofRecord (by decide) ⟨.required .text, .maybe .text nofun, trivial⟩ fun _ => rfl
  | indexRequest => .ofRecord (by decide) ⟨.required .text, trivial⟩ fun _ => rfl
  | contextUsage => ContextUsage.restores
  | chatResponse =>
    .ofRecord (by decide) ⟨.required .text, .optional ContextUsage.restores, trivial⟩ fun _ => rfl
  | debugResponse =>
    .ofRecord (by decide)
      ⟨.required .text, .required .text, .optional ContextUsage.restores, trivial⟩ fun _ => rfl
  | planResponse =>
    .ofRecord (by decide) ⟨.required .text, .optional ContextUsage.restores, trivial⟩ fun _ => rfl
  | fileEntry => FileEntry.restores
  | fileListing =>
    .ofRecord (by decide)
      ⟨.required (.list FileEntry.restores), .maybe .natural64 nofun, trivial⟩ fun _ => rfl
  | fileContent =>
    .ofRecord (by decide)
      ⟨.required .text, .required .text, .optional .natural64, trivial⟩ fun _ => rfl
  | indexTriggerResponse =>
    .ofRecord (by decide) ⟨.required .text, .optional .free, trivial⟩ fun _ => rfl
  | indexStats => .reshape .free fun _ => rfl
  | healthStatus =>
    .ofRecord (by decide) ⟨.required .text, .optional .free, trivial⟩ fun _ => rfl

/-! ## 4. What has to be assumed -/

/-- Free JSON that is read back with so many levels around it: lists and objects in it nest no
deeper than the reader goes, and its floating point numbers read back. -/
structure FreeJson.Fits (levels : Nat) (v : FreeJson) : Prop where
  nesting : levels + v.tree.nesting ≤ maxDepth
  floats : ∀ x ∈ v.tree.floats, ReadsBack x

/-- What a value has to be for its text to be read back.  Nothing is asked of the types with neither
floating point numbers nor free JSON. -/
def WireType.Assumed : (T : WireType) → T.Value → Prop
  | contextUsage, u => ReadsBack u.utilization
  | chatResponse, r => ReadsBack r.usage.utilization
  | debugResponse, r => ReadsBack r.usage.utilization
  | planResponse, r => ReadsBack r.usage.utilization
  | indexTriggerResponse, r => r.stats.Fits 1
  | indexStats, s => s.value.Fits 0
  | healthStatus, h => h.databases.Fits 1
  | chatRequest, _ => True
  | debugRequest, _ => True
  | planRequest, _ => True
  | indexRequest, _ => True
  | fileEntry, _ => True
  | fileListing, _ => True
  | fileContent, _ => True

/-! ## 5. The trees are readable -/

section Trees

variable {α : Type} {c : Codec α} {depth : Nat}

theorem FreeJson.Fits.readable {levels : Nat} {v : FreeJson} (h : v.Fits levels) :
    v.tree.Readable (maxDepth - levels) :=
  Json.readable_of_nesting (by have := h.nesting; omega) h.floats

theorem Codec.readable_text (s : String) : (text.write s).Readable depth := trivial

theorem Codec.readable_natural64 (n : UInt64) : (natural64.write n).Readable depth := trivial

theorem Codec.readable_integer64 (i : Int64) : (integer64.write i).Readable depth := by
  show (Json.number (ofInt64 i)).Readable depth
  rcases ofInt64_cases i with ⟨-, h⟩ | ⟨n, -, h⟩
  · rw [h]
    trivial
  · rw [h]
    trivial

theorem Codec.readable_nullable (h : ∀ a, (c.write a).Readable depth) (o : Option α) :
    (c.nullable.write o).Readable depth := by
  cases o with
  | none => trivial
  | some a => exact h a

theorem Codec.readable_list (h : ∀ a, (c.write a).Readable depth) (as : List α) :
    (c.list.write as).Readable (depth + 1) := by
  refine ⟨Nat.succ_pos _, ?_⟩
  show Json.ItemsReadable depth (as.map c.write)
  induction as with
  | nil => trivial
  | cons a as ih => exact ⟨h a, ih⟩

/-- The trees of the fields' values are readable. -/
def Fields.Readable (depth : Nat) {ρ σ : Type} : Fields ρ σ → ρ → Prop
  | nil, _ => True
  | cons field rest, (a, values) =>
    (field.codec.write a).Readable depth ∧ rest.Readable depth values

theorem Fields.membersReadable_write {ρ σ : Type} {fs : Fields ρ σ} {values : ρ}
    (h : fs.Readable depth values) : Json.MembersReadable depth (fs.write values) := by
  induction fs with
  | nil => trivial
  | cons field rest ih =>
    obtain ⟨a, values⟩ := values
    rw [write]
    split
    · exact ih h.2
    · exact ⟨h.1, ih h.2⟩

theorem Codec.readable_ofRecord {ρ σ : Type} {name : String} {fs : Fields ρ σ} {into : ρ → α}
    {out : α → ρ} {a : α} (h : fs.Readable depth (out a)) :
    (((Codec.record name fs).reshape into out).write a).Readable (depth + 1) :=
  ⟨Nat.succ_pos _, Fields.membersReadable_write h⟩

theorem ContextUsage.readable {u : ContextUsage} (h : ReadsBack u.utilization) :
    (codec.write u).Readable (depth + 1) :=
  Codec.readable_ofRecord ⟨trivial, trivial, trivial, trivial, trivial, h,
    Codec.readable_nullable Codec.readable_integer64 _,
    Codec.readable_nullable Codec.readable_natural64 _, trivial⟩

theorem FileEntry.readable (e : FileEntry) : (codec.write e).Readable (depth + 1) :=
  Codec.readable_ofRecord ⟨trivial, trivial, trivial, trivial, trivial⟩

theorem Failure.readable (f : Failure) : (codec.write f).Readable (depth + 1) :=
  Codec.readable_ofRecord ⟨trivial, trivial, trivial⟩

theorem WireType.readable : (T : WireType) → {v : T.Value} → T.Assumed v →
    (T.codec.write v).Readable maxDepth
  | chatRequest, _, _ => Codec.readable_ofRecord ⟨trivial, trivial, trivial⟩
  | debugRequest, _, _ =>
    Codec.readable_ofRecord
      ⟨trivial, trivial, Codec.readable_nullable Codec.readable_text _, trivial⟩
  | planRequest, _, _ =>
    Codec.readable_ofRecord ⟨trivial, Codec.readable_nullable Codec.readable_text _, trivial⟩
  | indexRequest, _, _ => Codec.readable_ofRecord ⟨trivial, trivial⟩
  | contextUsage, _, h => ContextUsage.readable h
  | chatResponse, _, h => Codec.readable_ofRecord ⟨trivial, ContextUsage.readable h, trivial⟩
  | debugResponse, _, h =>
    Codec.readable_ofRecord ⟨trivial, trivial, ContextUsage.readable h, trivial⟩
  | planResponse, _, h => Codec.readable_ofRecord ⟨trivial, ContextUsage.readable h, trivial⟩
  | fileEntry, e, _ => FileEntry.readable e
  | fileListing, _, _ =>
    Codec.readable_ofRecord ⟨Codec.readable_list FileEntry.readable _,
      Codec.readable_nullable Codec.readable_natural64 _, trivial⟩
  | fileContent, _, _ => Codec.readable_ofRecord ⟨trivial, trivial, trivial, trivial⟩
  | indexTriggerResponse, _, h => Codec.readable_ofRecord ⟨trivial, h.readable, trivial⟩
  | indexStats, _, h => h.readable
  | healthStatus, _, h => Codec.readable_ofRecord ⟨trivial, h.readable, trivial⟩

end Trees

/-! ## 6. Texts -/

/-- The text of a readable tree that a value was written as, in any layout, is decoded to the
value. -/
theorem decode_of_layOut {α : Type} {c : Codec α} (hagrees : c.Agrees) (hrestores : c.Restores)
    {gap : Nat → List Char} {space : List Char} (hb : Json.BlankLayout gap space) {a : α}
    (h : (c.write a).Readable maxDepth) :
    c.decode (String.ofList (Json.layOut gap space 0 (c.write a))) = .ok a := by
  have htakes := Json.takes_layOut hb 0 (r := []) nofun (c.write a) h
  have hread : (c.read maxDepth).run (Json.layOut gap space 0 (c.write a)) = .ok (a, []) := by
    rw [List.append_nil] at htakes
    have hcomes := hagrees.comesTo (Json.reader_eq_ok_iff.mpr htakes)
    rw [hrestores.ofTree_write] at hcomes
    exact hcomes
  rw [Codec.decode, readWhole_eq_ok_iff, String.toList_ofList]
  exact ⟨[], hread, rfl⟩

theorem Json.blankLayout_compact : Json.BlankLayout (fun _ => []) [] := ⟨nofun, nofun⟩

theorem Json.blankLayout_indented : Json.BlankLayout Json.newline [' '] := by
  refine ⟨fun level c hc => ?_, fun c hc => ?_⟩
  · rcases List.mem_cons.mp hc with rfl | hc
    · rfl
    · rw [List.eq_of_mem_replicate hc]
      rfl
  · rw [List.mem_singleton.mp hc]
    rfl

theorem Failure.agrees : Failure.codec.Agrees :=
  .ofRecord (by decide) ⟨.choice _ _, .text, trivial⟩

/-- **What is written is read back.**  Every value of every type is decoded from its compact text,
and the statistics from the text that is shown as well. -/
theorem decode_encode :
    (∀ (T : WireType) (v : T.Value), T.Assumed v → T.codec.decode (T.codec.encode v) = .ok v) ∧
    (∀ f : Failure, Failure.codec.decode (Failure.codec.encode f) = .ok f) ∧
    ∀ s : IndexStats, WireType.indexStats.Assumed s → IndexStats.codec.decode s.pretty = .ok s := by
  refine ⟨fun T v hv => ?_, fun f => ?_, fun s hs => ?_⟩
  · rw [Codec.encode, Json.compact, Json.writeCompact_eq 0]
    exact decode_of_layOut T.agrees T.restores Json.blankLayout_compact (T.readable hv)
  · rw [Codec.encode, Json.compact, Json.writeCompact_eq 0]
    exact decode_of_layOut Failure.agrees Failure.restores Json.blankLayout_compact f.readable
  · rw [IndexStats.pretty, Json.pretty, Json.writeIndented_eq 0]
    exact decode_of_layOut IndexStats.agrees WireType.indexStats.restores
      Json.blankLayout_indented (WireType.indexStats.readable hs)

/-- A health report with a half in its free JSON is read back. -/
theorem decode_encode_healthStatus :
    let load : Json := .object [("load", .number (.float ⟨false, 0x3fe0000000000000, by decide⟩))]
    let report : HealthStatus := ⟨"healthy", FreeJson.ofTree load⟩
    WireType.healthStatus.Assumed report ∧
      HealthStatus.codec.decode (HealthStatus.codec.encode report) = .ok report := by
  intro load report
  have hassumed : WireType.healthStatus.Assumed report := ⟨by decide, by decide +kernel⟩
  exact ⟨hassumed, decode_encode.1 .healthStatus report hassumed⟩

end CodeAssistant
