/-
# What an error body says

The rule by which a body says something, told apart from the codecs that read it.  Its two parts are
the values of `detail` and `error`.  Each may supply a candidate, a text as it stands in the body:
`detailCandidate` knows two forms of a `detail` and passes over every other, `errorCandidate?` knows
three forms of an `error` and has no answer for any other.  The first candidate that is not blank is
what the body says.

* `message?_of_tree`: the rule, for every body that is one document;
* `message?_of_rows`: the rule, for every object whose keys can be read, whatever JSON texts stand
  under the keys that are not `detail` or `error`;
* `message?_of_usable`: an object says a usable `detail` unless its `error` has a form of its own,
  and a usable `error` whenever its `detail` supplies nothing.
-/
import CodeAssistant.Backend.Error
import CodeAssistant.Proofs.Rows
import Mathlib.Data.List.Nodup

namespace CodeAssistant.ErrorBody

open Json Json.Grammar

/-! ## 1. The rule -/

/-- The text is not blank. -/
def saysSomething (t : String) : Bool := !Text.isBlank t

/-- A text or `null`. -/
def textOrNull? : Json → Option (Option String)
  | .null => some none
  | .string s => some (some s)
  | _ => none

/-- The value of a key that an object has once at most. -/
def valueUnder? (key : String) (ms : List (String × Json)) : Option (Option Json) :=
  match Fields.under key ms with
  | [] => some none
  | [v] => some (some v)
  | _ => none

/-- The text of a key that an object has once at most, with a text or `null`. -/
def textUnder? (key : String) (ms : List (String × Json)) : Option (Option String) :=
  (valueUnder? key ms).bind fun
    | none => some none
    | some v => textOrNull? v

/-- The message of an item of a list of errors: under `msg`, or the only item of a list. -/
def itemText? : Json → Option (Option String)
  | .object ms => textUnder? "msg" ms
  | .array [v] => textOrNull? v
  | _ => none

/-- What `detail` supplies: a text, or the messages of a list of errors in one line. -/
def detailCandidate : Option Json → Option String
  | some (.string s) => some s
  | some (.array items) => (items.mapM itemText?).map fun texts =>
    "; ".intercalate (texts.filterMap (·.filter saysSomething))
  | _ => none

/-- What `error` supplies: a text, or the message of an object.  There is no answer for an `error`
of any other form. -/
def errorCandidate? : Option Json → Option (Option String)
  | none => some none
  | some (.object ms) => textUnder? "message" ms
  | some v => textOrNull? v

/-- The first of two candidates that is not blank. -/
def choose (detail error : Option String) : Option String :=
  (detail.filter saysSomething).or (error.filter saysSomething)

/-- What two parts say together. -/
def saidBy (detail error : Option Json) : Option String :=
  (errorCandidate? error).bind (choose (detailCandidate detail))

/-- The two parts of a document: under their keys, or the two items of a list. -/
def parts? : Json → Option (Option Json × Option Json)
  | .object ms => (valueUnder? "detail" ms).bind fun detail =>
    (valueUnder? "error" ms).map fun error => (detail, error)
  | .array [detail, error] => some (some detail, some error)
  | _ => none

/-! ## 2. The codecs follow the rule -/

/-- A part that is `null` is as good as absent. -/
def present : Json → Option Json
  | .null => none
  | v => some v

theorem ofTree_text (v : Json) : Codec.text.nullable.ofTree v = textOrNull? v := by
  cases v <;> rfl

theorem ofTree_present (v : Json) : Codec.tree.nullable.ofTree v = some (present v) := by
  cases v <;> rfl

theorem detailCandidate_present (detail : Option Json) :
    detailCandidate (detail.bind present) = detailCandidate detail := by
  cases detail with
  | none => rfl
  | some v => cases v <;> rfl

theorem errorCandidate?_present (error : Option Json) :
    errorCandidate? (error.bind present) = errorCandidate? error := by
  cases error with
  | none => rfl
  | some v => cases v <;> rfl

/-- A field that may be missing or `null`, among the members of an object. -/
theorem fieldOfMembers_keyed {α : Type} (key : String) (c : Codec (Option α))
    (ms : List (String × Json)) :
    Fields.fieldOfMembers ⟨key, c, .keyed none, Option.isNone⟩ ms =
      (valueUnder? key ms).bind fun
        | none => some none
        | some v => c.ofTree v := by
  rw [Fields.fieldOfMembers_eq, valueUnder?]
  simp only
  generalize Fields.under key ms = found
  match found with
  | [] => rfl
  | [v] =>
    cases h : c.ofTree v <;> simp [Fields.slotOf, h]
  | _ :: _ :: _ => rfl

theorem ofTree_item (t : Json) : itemCodec.ofTree t = itemText? t := by
  cases t with
  | object ms =>
    simp only [itemCodec, Codec.reshape, Codec.record, Fields.ofMembers, fieldOfMembers_keyed,
      ofTree_text, itemText?, textUnder?]
    cases (valueUnder? "msg" ms).bind _ <;> rfl
  | array items =>
    simp only [itemCodec, Codec.reshape, Codec.record]
    rcases items with _ | ⟨v, _ | ⟨w, rest⟩⟩
    · rfl
    · simp only [Fields.ofItems, ofTree_text, itemText?]
      cases textOrNull? v <;> rfl
    · simp only [Fields.ofItems, itemText?]
      cases Codec.text.nullable.ofTree v <;> rfl
  | _ => rfl

theorem ofTree_items (items : List Json) :
    itemCodec.list.ofTree (.array items) = items.mapM itemText? := by
  show itemCodec.listOfTrees items = _
  induction items with
  | nil => rfl
  | cons t ts ih =>
    rw [Codec.listOfTrees, ih, ofTree_item, List.mapM_cons]
    cases itemText? t with
    | none => rfl
    | some a => cases ts.mapM itemText? <;> rfl

theorem sayingSomething_eq (t : String) : sayingSomething t = (some t).filter saysSomething := by
  by_cases h : Text.isBlank t = true
  · rw [sayingSomething, if_pos h, Option.filter_some_neg (by simp [saysSomething, h])]
  · rw [sayingSomething, if_neg h, Option.filter_some_pos (by simp [saysSomething, h])]

theorem bind_sayingSomething (o : Option String) :
    o.bind sayingSomething = o.filter saysSomething := by
  cases o with
  | none => rfl
  | some t => exact sayingSomething_eq t

theorem ofDetail_eq (detail : Json) :
    ofDetail detail = (detailCandidate (some detail)).filter saysSomething := by
  cases detail with
  | string s => exact sayingSomething_eq s
  | array items =>
    simp only [ofDetail, ofTree_items, detailCandidate]
    cases items.mapM itemText? with
    | none => rfl
    | some texts =>
      simp only [Option.bind_some, Option.map_some, joined, bind_sayingSomething]
      exact sayingSomething_eq _
  | _ => rfl

theorem bind_ofDetail (detail : Option Json) :
    detail.bind ofDetail = (detailCandidate detail).filter saysSomething := by
  cases detail with
  | none => rfl
  | some v => exact ofDetail_eq v

theorem ofError?_eq (v : Json) (hv : v ≠ .null) :
    ofError? v = (errorCandidate? (some v)).map (·.filter saysSomething) := by
  cases v with
  | null => exact absurd rfl hv
  | string s =>
    simp only [ofError?, sayingSomething_eq, errorCandidate?, textOrNull?, Option.map_some]
  | object ms =>
    simp only [ofError?, Codec.record, Fields.ofMembers, fieldOfMembers_keyed, ofTree_text,
      errorCandidate?, textUnder?]
    cases (valueUnder? "message" ms).bind _ with
    | none => rfl
    | some o => simp only [Option.map_some, bind_sayingSomething]
  | _ => rfl

theorem message?_of_parts {body : String} {detail error : Option Json}
    (h : partsCodec.decode body = .ok (detail.bind present, error.bind present)) :
    message? body = saidBy detail error := by
  rw [message?, h, saidBy, ← errorCandidate?_present, ← detailCandidate_present]
  simp only [bind_ofDetail]
  have hnull : error.bind present ≠ some .null := by
    intro hnull
    obtain ⟨v, -, hv⟩ := Option.bind_eq_some_iff.mp hnull
    cases v <;> cases hv
  cases herror : error.bind present with
  | none => simp [errorCandidate?, choose]
  | some v =>
    have hv : v ≠ .null := by
      rintro rfl
      exact hnull herror
    simp only [ofError?_eq v hv]
    cases errorCandidate? (some v) <;> rfl

/-! ## 3. Documents -/

/-- The fields of an error body. -/
def partsFields : Fields (Option Json × Option Json × Unit)
    (Option (Option Json) × Option (Option Json) × Unit) :=
  .cons ⟨"detail", Codec.tree.nullable, .keyed none, Option.isNone⟩
    (.cons ⟨"error", Codec.tree.nullable, .keyed none, Option.isNone⟩ .nil)

theorem tree_agrees : Codec.tree.Agrees := ⟨id⟩

theorem partsFields_agree : partsFields.Every (·.codec.Agrees) :=
  ⟨.nullable tree_agrees, .nullable tree_agrees, trivial⟩

theorem ofMembers_parts (ms : List (String × Json)) :
    partsFields.ofMembers ms = (parts? (.object ms)).map fun (detail, error) =>
      (detail.bind present, error.bind present, ()) := by
  simp only [partsFields, Fields.ofMembers, fieldOfMembers_keyed, ofTree_present, parts?]
  cases valueUnder? "detail" ms with
  | none => rfl
  | some detail =>
    cases valueUnder? "error" ms with
    | none => cases detail <;> rfl
    | some error => cases detail <;> cases error <;> rfl

theorem ofTree_parts (t : Json) :
    partsCodec.ofTree t = (parts? t).map fun (detail, error) =>
      (detail.bind present, error.bind present) := by
  cases t with
  | object ms =>
    show (partsFields.ofMembers ms).map _ = _
    rw [ofMembers_parts, Option.map_map]
    rfl
  | array items =>
    show (partsFields.ofItems items).map _ = _
    match items with
    | [] => rfl
    | [v] =>
      simp only [partsFields, Fields.ofItems, ofTree_present]
      rfl
    | [detail, error] =>
      simp only [partsFields, Fields.ofItems, ofTree_present]
      rfl
    | _ :: _ :: _ :: _ =>
      simp only [partsFields, Fields.ofItems, ofTree_present]
      rfl
  | _ => rfl

theorem partsCodec_agrees : partsCodec.Agrees := .ofRecord (by decide) partsFields_agree

theorem partsFields_skip : partsFields.Every (·.codec.Skips) :=
  ⟨.nullable .tree, .nullable .tree, trivial⟩

theorem partsCodec_skips : partsCodec.Skips := .reshape (.record _ partsFields_skip) _ _

/-- **What a document says.** -/
theorem message?_of_tree {body : String} {t : Json} (h : Json.parse body = .ok t) :
    message? body = (parts? t).bind fun (detail, error) => saidBy detail error := by
  have hdecode := partsCodec_agrees.decode_of_document h
  rw [ofTree_parts] at hdecode
  cases hparts : parts? t with
  | none =>
    rw [hparts] at hdecode
    obtain ⟨e, he⟩ := Except.exists_of_toOption hdecode
    simp only [message?, he, Option.bind_none]
  | some p =>
    obtain ⟨detail, error⟩ := p
    rw [hparts] at hdecode
    cases hd : partsCodec.decode body with
    | error e =>
      rw [hd] at hdecode
      cases hdecode
    | ok found =>
      rw [hd] at hdecode
      cases hdecode
      exact message?_of_parts hd

/-! ## 4. Objects row by row -/

/-- The rows of a key. -/
def rowsUnder (key : String) (rows : List (List Char × List Char)) :
    List (List Char × List Char) := rows.filter (key? ·.1 = some key)

/-- The object has the key once at most, with a value that is read where it stands. -/
inductive Has (rows : List (List Char × List Char)) (key : String) : Option Json → Prop
  | absent : rowsUnder key rows = [] → Has rows key none
  | once {spelling cs t} : rowsUnder key rows = [(spelling, cs)] →
      ReadsAs (maxDepth - 1) cs t → Has rows key (some t)

section Rows

variable {rows : List (List Char × List Char)} {key : String} {v : Option Json}

theorem Has.length_rowsUnder (h : Has rows key v) :
    (rowsUnder key rows).length = v.toList.length := by
  cases h with
  | absent h => rw [h]; rfl
  | once h => rw [h]; rfl

theorem Has.readsAs {row : List Char × List Char} (h : Has rows key v) (hrow : row ∈ rows)
    (hkey : key? row.1 = some key) : ∃ t, v = some t ∧ ReadsAs (maxDepth - 1) row.2 t := by
  have hmem : row ∈ rowsUnder key rows := List.mem_filter.mpr ⟨hrow, by simp [hkey]⟩
  cases h with
  | absent h =>
    rw [h] at hmem
    cases hmem
  | once h ht =>
    rw [h, List.mem_singleton] at hmem
    subst hmem
    exact ⟨_, rfl, ht⟩

/-- The members that the rows stand for, with given values under each key. -/
def membersOf (value : String → Json) (rows : List (List Char × List Char)) :
    List (String × Json) :=
  rows.filterMap fun row => (key? row.1).map fun key => (key, value key)

theorem under_membersOf (value : String → Json) :
    Fields.under key (membersOf value rows) =
      List.replicate (rowsUnder key rows).length (value key) := by
  induction rows with
  | nil => rfl
  | cons row rows ih =>
    cases hkey : key? row.1 with
    | none =>
      have hrows : rowsUnder key (row :: rows) = rowsUnder key rows := by simp [rowsUnder, hkey]
      rw [hrows, ← ih]
      simp [membersOf, hkey]
    | some k =>
      have hmembers : membersOf value (row :: rows) = (k, value k) :: membersOf value rows := by
        simp [membersOf, hkey]
      by_cases hk : k = key
      · subst hk
        have hrows : rowsUnder k (row :: rows) = row :: rowsUnder k rows := by
          simp [rowsUnder, hkey]
        rw [hmembers, hrows, List.length_cons, List.replicate_succ, ← ih]
        simp [Fields.under]
      · have hrows : rowsUnder key (row :: rows) = rowsUnder key rows := by
          simp [rowsUnder, hkey, hk]
        rw [hmembers, hrows, ← ih]
        simp [Fields.under, hk]

theorem valueUnder?_of_has (h : Has rows key v) (value : String → Json)
    (hvalue : ∀ t, v = some t → value key = t) :
    valueUnder? key (membersOf value rows) = some v := by
  rw [valueUnder?, under_membersOf, h.length_rowsUnder]
  cases v with
  | none => rfl
  | some t => simp [hvalue t rfl]

theorem spells_membersOf {ρ σ : Type} {fs : Fields ρ σ} {depth : Nat} {value : String → Json}
    (hkeys : ∀ row ∈ rows, (key? row.1).isSome)
    (hread : ∀ row ∈ rows, ∀ key ∈ fs.keys, key? row.1 = some key →
      ReadsAs depth row.2 (value key)) :
    List.Forall₂ (fs.Spells depth) rows (membersOf value rows) := by
  induction rows with
  | nil => exact .nil
  | cons row rows ih =>
    rw [List.forall_mem_cons] at hkeys hread
    obtain ⟨key, hkey⟩ := Option.isSome_iff_exists.mp hkeys.1
    have hmembers : membersOf value (row :: rows) = (key, value key) :: membersOf value rows := by
      simp [membersOf, hkey]
    rw [hmembers]
    exact .cons ⟨hkey, fun hmem => hread.1 key hmem hkey⟩ (ih hkeys.2 hread.2)

/-- **What an object says**, if its keys can be read and its two parts can be read where they
stand. -/
theorem message?_of_rows {body : String} {detail error : Option Json}
    (hbody : IsObjectText rows body.toList) (hkeys : ∀ row ∈ rows, (key? row.1).isSome)
    (hdetail : Has rows "detail" detail) (herror : Has rows "error" error) :
    message? body = saidBy detail error := by
  let value (key : String) : Json := (if key = "detail" then detail else error).getD .null
  have hparts : parts? (.object (membersOf value rows)) = some (detail, error) := by
    rw [parts?, valueUnder?_of_has hdetail value (by rintro t rfl; rfl),
      valueUnder?_of_has herror value (by rintro t rfl; rfl)]
    rfl
  have hspells : List.Forall₂ (partsFields.Spells (maxDepth - 1)) rows (membersOf value rows) := by
    refine spells_membersOf hkeys fun row hrow key hkey hspelled => ?_
    simp only [partsFields, Fields.keys, List.mem_cons, List.not_mem_nil, or_false] at hkey
    rcases hkey with rfl | rfl
    · obtain ⟨t, rfl, ht⟩ := hdetail.readsAs hrow hspelled
      exact ht
    · obtain ⟨t, rfl, ht⟩ := herror.readsAs hrow hspelled
      exact ht
  have hvalues := ofMembers_parts (membersOf value rows)
  rw [hparts] at hvalues
  obtain ⟨gap, hgap, hread⟩ := Codec.read_of_rows "ErrorPayload" (by decide) partsFields_agree
    hbody hspells hvalues
  refine message?_of_parts (readWhole_eq_ok_iff.mpr ⟨gap, ?_, skipBlanks_eq_nil_iff.mpr hgap⟩)
  exact Reader.map_eq_ok_iff.mpr ⟨_, hread, rfl⟩

end Rows

/-- What is not JSON says nothing. -/
theorem message?_of_not_isText {body : String} (h : ¬ IsText body.toList) :
    message? body = none := by
  cases hd : partsCodec.decode body with
  | error e => simp only [message?, hd]
  | ok found => exact absurd (Codec.isText_of_decode partsCodec_skips hd) h

/-- **What a body says.**  An object whose keys can be read, and whose `error` has one of the known
forms, says the first of its two candidates that is not blank, verbatim; under its other keys there
may be any JSON text.  A body that is no JSON text says nothing, and of the documents that are no
object only a list of two items does, which are taken for `detail` and `error`. -/
theorem message?_spec (body : String) :
    (∀ rows detail error candidate, IsObjectText rows body.toList →
      (∀ row ∈ rows, (key? row.1).isSome) → Has rows "detail" detail → Has rows "error" error →
      errorCandidate? error = some candidate →
      message? body = choose (detailCandidate detail) candidate) ∧
    (¬ IsText body.toList → message? body = none) ∧
    ∀ t, Json.parse body = .ok t → (∀ ms, t ≠ .object ms) →
      message? body = match t with
        | .array [detail, error] => saidBy (some detail) (some error)
        | _ => none := by
  refine ⟨fun rows detail error candidate hbody hkeys hdetail herror hform => ?_,
    message?_of_not_isText, fun t ht hobject => ?_⟩
  · rw [message?_of_rows hbody hkeys hdetail herror, saidBy, hform]
    rfl
  · rw [message?_of_tree ht]
    cases t with
    | object ms => exact absurd rfl (hobject ms)
    | array items =>
      match items with
      | [] => rfl
      | [_] => rfl
      | [_, _] => rfl
      | _ :: _ :: _ :: _ => rfl
    | _ => rfl

/-- An object with a list of errors, and half a pair of escapes under a key that nobody reads. -/
theorem message?_of_traced_list :
    let body :=
      "\x7b\"id\":\"\\ud800\",\"detail\":[\x7b\"msg\":\"too short\"\x7d,[null]],\"error\":null\x7d"
    let rows := [("id".toList, "\"\\ud800\"".toList),
      ("detail".toList, "[\x7b\"msg\":\"too short\"\x7d,[null]]".toList),
      ("error".toList, "null".toList)]
    let detail : Json := .array [.object [("msg", .string "too short")], .array [.null]]
    IsObjectText rows body.toList ∧ (∀ row ∈ rows, (key? row.1).isSome) ∧
      Has rows "detail" (some detail) ∧ Has rows "error" (some .null) ∧
      message? body = some "too short" := by
  intro body rows detail
  have hobject : IsObjectText rows body.toList := by
    refine ⟨[], rowsText rows, [], nofun, derives_rowsText fun row hrow => ?_, nofun, by decide⟩
    simp only [rows, List.mem_cons, List.not_mem_nil, or_false] at hrow
    rcases hrow with rfl | rfl | rfl
    · exact ⟨isChars_of_plain (by decide), (isText_iff _).mpr (by decide +kernel)⟩
    · exact ⟨isChars_of_plain (by decide), (isText_iff _).mpr (by decide +kernel)⟩
    · exact ⟨isChars_of_plain (by decide), (isText_iff _).mpr (by decide +kernel)⟩
  have hkeys : ∀ row ∈ rows, (key? row.1).isSome := by decide +kernel
  have hdetail : Has rows "detail" (some detail) := by
    have hrow : rowsUnder "detail" rows = [("detail".toList, detail.compact.toList)] := by
      decide +kernel
    exact .once hrow (readsAs_compact ⟨by decide, ⟨by decide, trivial, trivial⟩,
      ⟨by decide, trivial, trivial⟩, trivial⟩)
  have herror : Has rows "error" (some .null) := by
    have hrow : rowsUnder "error" rows = [("error".toList, Json.null.compact.toList)] := by
      decide +kernel
    exact .once hrow (readsAs_compact trivial)
  exact ⟨hobject, hkeys, hdetail, herror,
    (message?_spec body).1 rows _ _ none hobject hkeys hdetail herror rfl⟩

/-- A key with half a pair of escapes cannot be told from `detail` or `error`, so that the whole
object says nothing. -/
theorem message?_of_unpaired_key :
    let body := "\x7b\"\\ud800\":1,\"detail\":\"x\"\x7d"
    let rows := [("\\ud800".toList, "1".toList), ("detail".toList, "\"x\"".toList)]
    IsObjectText rows body.toList ∧ Has rows "detail" (some (.string "x")) ∧ Has rows "error" none ∧
      errorCandidate? none = some none ∧
      choose (detailCandidate (some (.string "x"))) none = some "x" ∧ message? body = none := by
  intro body rows
  have hobject : IsObjectText rows body.toList := by
    refine ⟨[], rowsText rows, [], nofun, derives_rowsText fun row hrow => ?_, nofun, by decide⟩
    simp only [rows, List.mem_cons, List.not_mem_nil, or_false] at hrow
    rcases hrow with rfl | rfl
    · exact ⟨.escape (.number rfl rfl rfl rfl) .nil, (isText_iff _).mpr (by decide +kernel)⟩
    · exact ⟨isChars_of_plain (by decide), (isText_iff _).mpr (by decide +kernel)⟩
  have hdetail : Has rows "detail" (some (.string "x")) := by
    have hrow : rowsUnder "detail" rows =
        [("detail".toList, (Json.string "x").compact.toList)] := by decide +kernel
    exact .once hrow (readsAs_compact trivial)
  have herror : Has rows "error" none := .absent (by decide +kernel)
  exact ⟨hobject, hdetail, herror, rfl, rfl, by decide +kernel⟩

/-! ## 5. Objects without repeated keys -/

mutual

/-- No object in the tree has a key twice. -/
def KeysOnce : Json → Prop
  | .array ts => ItemsKeysOnce ts
  | .object ms => (ms.map (·.1)).Nodup ∧ MembersKeysOnce ms
  | _ => True

/-- No object in the items has a key twice. -/
def ItemsKeysOnce : List Json → Prop
  | [] => True
  | v :: rest => KeysOnce v ∧ ItemsKeysOnce rest

/-- No object in the members' values has a key twice. -/
def MembersKeysOnce : List (String × Json) → Prop
  | [] => True
  | (_, v) :: rest => KeysOnce v ∧ MembersKeysOnce rest

end

/-- An `error` of a form of its own: a truth value, a number, a list, or an object whose message is
neither a text nor `null`. -/
inductive IsForeign : Json → Prop
  | bool (b) : IsForeign (.bool b)
  | number (n) : IsForeign (.number n)
  | array (ts) : IsForeign (.array ts)
  | object {ms v} : lookup "message" ms = some v → v ≠ .null → (∀ s, v ≠ .string s) →
      IsForeign (.object ms)

section Once

variable {ms : List (String × Json)} {key : String} {v : Json}

theorem keysOnce_of_lookup (hms : MembersKeysOnce ms) (h : lookup key ms = some v) :
    KeysOnce v := by
  have hmem : ∃ k, (k, v) ∈ ms := by
    obtain ⟨m, hm, rfl⟩ := Option.map_eq_some_iff.mp h
    exact ⟨m.1, List.mem_reverse.mp (List.mem_of_find?_eq_some hm)⟩
  obtain ⟨k, hmem⟩ := hmem
  clear h
  induction ms with
  | nil => cases hmem
  | cons m ms ih =>
    rcases List.mem_cons.mp hmem with rfl | hmem
    · exact hms.1
    · exact ih hms.2 hmem

/-- A key that is there once is looked up. -/
theorem valueUnder?_of_nodup (h : (ms.map (·.1)).Nodup) (key : String) :
    valueUnder? key ms = some (lookup key ms) := by
  have hcount : (ms.filter (·.1 = key)).length ≤ 1 := by
    rw [← Fields.count_key]
    exact List.nodup_iff_count_le_one.mp h key
  rw [valueUnder?, Fields.under, Fields.lookup_eq_getLast?]
  generalize ms.filter (·.1 = key) = found at hcount
  rcases found with _ | ⟨m, _ | ⟨m', rest⟩⟩
  · rfl
  · rfl
  · simp at hcount

theorem textOrNull?_eq_none_iff : textOrNull? v = none ↔ v ≠ .null ∧ ∀ s, v ≠ .string s := by
  cases v <;> simp [textOrNull?]

theorem errorCandidate?_eq_none_iff (hv : KeysOnce v) :
    errorCandidate? (some v) = none ↔ IsForeign v := by
  constructor
  · intro h
    cases v with
    | bool b => exact .bool b
    | number n => exact .number n
    | array ts => exact .array ts
    | object ms =>
      simp only [errorCandidate?, textUnder?, valueUnder?_of_nodup hv.1, Option.bind_some] at h
      split at h
      · cases h
      · rename_i hlookup
        obtain ⟨hnull, hstring⟩ := textOrNull?_eq_none_iff.mp h
        exact .object hlookup hnull hstring
    | _ => cases h
  · intro h
    cases h with
    | object hlookup hnull hstring =>
      simp only [errorCandidate?, textUnder?, valueUnder?_of_nodup hv.1, Option.bind_some, hlookup]
      exact textOrNull?_eq_none_iff.mpr ⟨hnull, hstring⟩
    | _ => rfl

theorem message?_of_once {body : String} (hbody : Json.parse body = .ok (.object ms))
    (honce : KeysOnce (.object ms)) :
    message? body = saidBy (lookup "detail" ms) (lookup "error" ms) := by
  rw [message?_of_tree hbody, parts?, valueUnder?_of_nodup honce.1, valueUnder?_of_nodup honce.1]
  rfl

theorem ofStatus_of_some {op : Operation} {status : Http.Status} {body message : String}
    (h : message? body = some message) :
    BackendError.ofStatus op status body = .status op status message true := by
  rw [BackendError.ofStatus, h]

theorem ofStatus_of_none {op : Operation} {status : Http.Status} {body : String}
    (h : message? body = none) :
    BackendError.ofStatus op status body =
      .status op status (BackendError.plainMessage op status body) false := by
  rw [BackendError.ofStatus, h]

end Once

/-- **A usable message and the other part.**  Of an object without repeated keys, a usable text
under `detail` is what the body says, verbatim, unless `error` has a form of its own: then the text
is hidden, and the body says nothing.  A usable text under `error` is never hidden by a `detail`
that supplies nothing, whatever form that has. -/
theorem message?_of_usable (body : String) (ms : List (String × Json))
    (hbody : Json.parse body = .ok (.object ms)) (honce : KeysOnce (.object ms)) :
    (∀ s, lookup "detail" ms = some (.string s) → saysSomething s = true →
      ((∀ v, lookup "error" ms = some v → ¬ IsForeign v) →
        message? body = some s ∧
          ∀ op status, BackendError.ofStatus op status body = .status op status s true) ∧
      ∀ v, lookup "error" ms = some v → IsForeign v →
        message? body = none ∧ ∀ op status, BackendError.ofStatus op status body =
          .status op status (BackendError.plainMessage op status body) false) ∧
    ∀ e, lookup "error" ms = some (.string e) → saysSomething e = true →
      (detailCandidate (lookup "detail" ms)).filter saysSomething = none →
      message? body = some e ∧
        ∀ op status, BackendError.ofStatus op status body = .status op status e true := by
  have hmessage := message?_of_once hbody honce
  refine ⟨fun s hs husable => ⟨fun hknown => ?_, fun v hv hforeign => ?_⟩,
    fun e he husable hnothing => ?_⟩
  · obtain ⟨candidate, hcandidate⟩ :
        ∃ candidate, errorCandidate? (lookup "error" ms) = some candidate := by
      cases herror : lookup "error" ms with
      | none => exact ⟨none, rfl⟩
      | some v =>
        refine Option.ne_none_iff_exists'.mp fun hnone => hknown v herror ?_
        exact (errorCandidate?_eq_none_iff (keysOnce_of_lookup honce.2 herror)).mp hnone
    have hsaid : message? body = some s := by
      rw [hmessage, saidBy, hcandidate, hs]
      simp [choose, detailCandidate, husable]
    exact ⟨hsaid, fun _ _ => ofStatus_of_some hsaid⟩
  · have hnone : message? body = none := by
      rw [hmessage, saidBy, hv,
        (errorCandidate?_eq_none_iff (keysOnce_of_lookup honce.2 hv)).mpr hforeign]
      rfl
    exact ⟨hnone, fun _ _ => ofStatus_of_none hnone⟩
  · have hsaid : message? body = some e := by
      rw [hmessage, saidBy, he]
      simp [errorCandidate?, textOrNull?, choose, hnothing, husable]
    exact ⟨hsaid, fun _ _ => ofStatus_of_some hsaid⟩

/-- A text under `detail`, shown beside an `error` that is `null`. -/
theorem message?_of_detail_beside_null :
    let ms := [("detail", Json.string "d"), ("error", .null)]
    Json.parse (Json.object ms).compact = .ok (.object ms) ∧ KeysOnce (.object ms) ∧
      message? (Json.object ms).compact = some "d" := by
  intro ms
  have hbody : Json.parse (Json.object ms).compact = .ok (.object ms) := by
    have hread : ReadsAs maxDepth (Json.object ms).compact.toList (.object ms) :=
      readsAs_compact ⟨by decide, trivial, trivial, trivial⟩
    rwa [ReadsAs, String.ofList_toList] at hread
  have honce : KeysOnce (.object ms) := ⟨by decide, trivial, trivial, trivial⟩
  refine ⟨hbody, honce, (((message?_of_usable _ ms hbody honce).1 "d" rfl rfl).1 ?_).1⟩
  rintro v ⟨⟩ ⟨⟩

/-- The same text, hidden by a number. -/
theorem message?_of_detail_beside_number :
    let body := "\x7b\"detail\":\"d\",\"error\":5\x7d"
    let ms := [("detail", Json.string "d"), ("error", .number (.natural 5))]
    Json.parse body = .ok (.object ms) ∧ KeysOnce (.object ms) ∧
      lookup "detail" ms = some (.string "d") ∧ saysSomething "d" = true ∧
      message? body = none := by
  intro body ms
  have hbody : Json.parse body = .ok (.object ms) := by
    have hread : ReadsAs maxDepth (Json.object ms).compact.toList (.object ms) :=
      readsAs_compact ⟨by decide, trivial, trivial, trivial⟩
    have htext : (Json.object ms).compact.toList = body.toList := by decide +kernel
    rwa [ReadsAs, htext, String.ofList_toList] at hread
  exact ⟨hbody, ⟨by decide, trivial, trivial, trivial⟩, rfl, rfl, by decide +kernel⟩

end CodeAssistant.ErrorBody
