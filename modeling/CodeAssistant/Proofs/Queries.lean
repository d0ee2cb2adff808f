/-
# Queries of one pair

What is asked for in a query is written in a form that has no character with a meaning of its own:
spaces are plus signs, and whatever is neither a letter, a digit nor one of four signs is written as
its bytes, behind percent signs.  So the text of a name or a value is read back as it was
(`Form.decode_written`), and a pair is read back as one pair (`Form.decodePairs_encodePair`).

The two operations that ask for something in a query therefore ask for that and nothing else, at the
path of their endpoint (`queries_hold_one_pair`).
-/
import CodeAssistant.Proofs.Endpoints

namespace CodeAssistant

open Text (IsAscii)

/-! ## 1. Bytes are read back -/

namespace Text.Utf8

/-- What is written is read, and no byte is replaced. -/
theorem decodeLossyList_encodeList (cs : List Char) : decodeLossyList (encodeList cs) = cs := by
  induction cs with
  | nil => rw [encodeList_nil, decodeLossyList]; rfl
  | cons c cs ih =>
    have hhead : Head.of (encodeList (c :: cs)) = .char c (encodeList cs) :=
      Head.of_eq_char_iff.mpr rfl
    rw [decodeLossyList]
    split
    · simp_all
    · simp_all
    · simp_all
    · simp_all

theorem decodeLossy_encode (s : String) : decodeLossy (encode s) = s := by
  rw [decodeLossy, encode_eq, decodeLossyList_encodeList, String.ofList_toList]

end Text.Utf8

namespace Url

namespace Percent

theorem hexDigit_mod (n : Nat) : hexDigit n = hexDigit (n % 16) := by
  rw [hexDigit, hexDigit, Nat.mod_mod]

/-- The bytes of the sixteen digits, with their values. -/
theorem hexByte?_hexDigit (n : Nat) : hexByte? (UInt8.ofNat (hexDigit n).toNat) = some (n % 16) := by
  have hall : ∀ k < 16, hexByte? (UInt8.ofNat (hexDigit k).toNat) = some k := by decide
  rw [hexDigit_mod]
  exact hall _ (Nat.mod_lt _ (by decide))

theorem byte?_hexDigit (b : UInt8) :
    byte? (UInt8.ofNat (hexDigit (b.toNat / 16)).toNat) (UInt8.ofNat (hexDigit b.toNat).toNat) =
      some b := by
  have hlt := b.toNat_lt
  have hnat : b.toNat / 16 % 16 * 16 + b.toNat % 16 = b.toNat := by omega
  rw [byte?, hexByte?_hexDigit, hexByte?_hexDigit]
  dsimp only
  rw [hnat, UInt8.ofNat_toNat]

end Percent

namespace Form

/-! ## 2. Written characters -/

/-- A character of a name or a value as it is written. -/
def isWritten (c : Char) : Bool := isPlain c || c = '+' || c = '%'

theorem isPlain_hexDigit (n : Nat) : isPlain (Percent.hexDigit n) = true := by
  have hall : ∀ k < 16, isPlain (Percent.hexDigit k) = true := by decide
  rw [Percent.hexDigit_mod]
  exact hall _ (Nat.mod_lt _ (by decide))

theorem isWritten_of_mem {c d : Char} (h : d ∈ encodeChar c) : isWritten d = true := by
  rw [encodeChar] at h
  split at h
  · simp [List.mem_singleton.mp h, isWritten]
  · split at h
    · rename_i hplain
      simp [List.mem_singleton.mp h, isWritten, hplain]
    · obtain ⟨b, -, hd⟩ := List.mem_flatMap.mp h
      simp only [Percent.encodeByte, List.mem_cons, List.not_mem_nil, or_false] at hd
      rcases hd with rfl | rfl | rfl <;> simp [isWritten, isPlain_hexDigit]

theorem isWritten_of_mem_encode {s : String} {d : Char} (h : d ∈ (encode s).toList) :
    isWritten d = true := by
  rw [encode, String.toList_ofList] at h
  obtain ⟨c, -, hd⟩ := List.mem_flatMap.mp h
  exact isWritten_of_mem hd

/-- A character that stands for itself is one of ASCII, and none of the signs `%`, `&`, `+` and
`=`. -/
theorem bounds_of_isPlain {c : Char} (h : isPlain c = true) :
    c.toNat < 0x80 ∧ c.toNat ≠ 37 ∧ c.toNat ≠ 38 ∧ c.toNat ≠ 43 ∧ c.toNat ≠ 61 := by
  rw [isPlain, Bool.or_eq_true, Char.isAlphanum, Bool.or_eq_true] at h
  rcases h with (halpha | hdigit) | hsign
  · have hbounds := bounds_of_isAlpha halpha
    omega
  · have hbounds : '0'.toNat ≤ c.toNat ∧ c.toNat ≤ '9'.toNat := by
      simpa [Char.isDigit, UInt32.le_iff_toNat_le] using hdigit
    have hzero : '0'.toNat = 48 := rfl
    have hnine : '9'.toNat = 57 := rfl
    omega
  · have hone : c = '*' ∨ c = '-' ∨ c = '.' ∨ c = '_' := by simpa using hsign
    rcases hone with rfl | rfl | rfl | rfl <;> decide

/-- A written character is one of ASCII, and neither `&` nor `=`. -/
theorem bounds_of_isWritten {c : Char} (h : isWritten c = true) :
    c.toNat < 0x80 ∧ c.toNat ≠ 38 ∧ c.toNat ≠ 61 := by
  simp only [isWritten, Bool.or_eq_true, decide_eq_true_eq] at h
  rcases h with (hplain | rfl) | rfl
  · obtain ⟨hascii, -, hand, -, hequals⟩ := bounds_of_isPlain hplain
    exact ⟨hascii, hand, hequals⟩
  · decide
  · decide

theorem isAscii_encode (s : String) : IsAscii (encode s).toList := fun _ hd =>
  (bounds_of_isWritten (isWritten_of_mem_encode hd)).1

/-! ## 3. Names and values are read back -/

/-- The bytes of a written text, with a space for each plus sign. -/
def spaced (cs : List Char) : List UInt8 :=
  (Text.Utf8.encodeList cs).map fun b => if b = 43 then 32 else b

theorem spaced_append (cs ds : List Char) : spaced (cs ++ ds) = spaced cs ++ spaced ds := by
  rw [spaced, Text.Utf8.encodeList_append, List.map_append]
  rfl

theorem spaced_of_plain {c : Char} (h : isPlain c = true) : spaced [c] = [UInt8.ofNat c.toNat] := by
  obtain ⟨hascii, -, -, hplus, -⟩ := bounds_of_isPlain h
  have hbyte : UInt8.ofNat c.toNat ≠ 43 := by
    intro heq
    have hnat := congrArg UInt8.toNat heq
    rw [Text.Utf8.toNat_ofNat_of_lt (by omega)] at hnat
    exact hplus hnat
  rw [spaced, Text.Utf8.encodeList_of_ascii (by simpa [IsAscii] using hascii), List.map_singleton,
    List.map_singleton, if_neg hbyte]

/-- A byte that is written with a percent sign is read back. -/
theorem decode_spaced_encodeByte (b : UInt8) (rest : List UInt8) :
    Percent.decode (spaced (Percent.encodeByte b) ++ rest) = b :: Percent.decode rest := by
  have hpercent : spaced ['%'] = [37] := by decide
  have hwritten : spaced (Percent.encodeByte b) =
      [37, UInt8.ofNat (Percent.hexDigit (b.toNat / 16)).toNat,
        UInt8.ofNat (Percent.hexDigit b.toNat).toNat] := by
    rw [Percent.encodeByte, ← List.singleton_append, spaced_append, ← List.singleton_append (l := [_]),
      spaced_append, hpercent, spaced_of_plain (isPlain_hexDigit _),
      spaced_of_plain (isPlain_hexDigit _)]
    rfl
  rw [hwritten]
  simp only [List.cons_append, List.nil_append]
  rw [Percent.decode, if_pos rfl, Percent.byte?_hexDigit]

/-- A character is read back as its bytes. -/
theorem decode_spaced_encodeChar (c : Char) (rest : List UInt8) :
    Percent.decode (spaced (encodeChar c) ++ rest) =
      String.utf8EncodeChar c ++ Percent.decode rest := by
  rw [encodeChar]
  split
  · rename_i hspace
    subst hspace
    have hplus : spaced ['+'] = [32] := by decide
    have hbytes : String.utf8EncodeChar ' ' = [32] := by decide
    rw [hplus, hbytes]
    exact Percent.decode_cons_of_ne (by decide) rest
  · split
    · rename_i hplain
      obtain ⟨hascii, hpercent, -⟩ := bounds_of_isPlain hplain
      rw [spaced_of_plain hplain, Text.Utf8.utf8EncodeChar_of_ascii hascii]
      refine Percent.decode_cons_of_ne (fun heq => hpercent ?_) rest
      have hnat := congrArg UInt8.toNat heq
      rwa [Text.Utf8.toNat_ofNat_of_lt (by omega)] at hnat
    · rw [Percent.encodeChar]
      induction String.utf8EncodeChar c with
      | nil => rfl
      | cons b bs ih =>
        rw [List.flatMap_cons, spaced_append, List.append_assoc, decode_spaced_encodeByte, ih]
        rfl

theorem decode_spaced_flatMap (cs : List Char) :
    Percent.decode (spaced (cs.flatMap encodeChar)) = Text.Utf8.encodeList cs := by
  induction cs with
  | nil => rfl
  | cons c cs ih =>
    rw [List.flatMap_cons, spaced_append, decode_spaced_encodeChar, ih]
    rfl

/-- **A name or a value is read back as it was.** -/
theorem decode_written (s : String) : decode (Text.Utf8.encode (encode s)) = s := by
  have hbytes : Percent.decode (spaced (s.toList.flatMap encodeChar)) = Text.Utf8.encode s := by
    rw [decode_spaced_flatMap, Text.Utf8.encode_eq]
  rw [decode, encode, Text.Utf8.encode_ofList]
  exact (congrArg Text.Utf8.decodeLossy hbytes).trans (Text.Utf8.decodeLossy_encode s)

/-! ## 4. Pairs are read back -/

theorem ne_of_mem_encode {s : String} {b : UInt8} (h : b ∈ Text.Utf8.encode (encode s)) :
    b ≠ 38 ∧ b ≠ 61 := by
  rw [Text.Utf8.encode_eq, Text.Utf8.encodeList_of_ascii (isAscii_encode s)] at h
  obtain ⟨c, hc, rfl⟩ := List.mem_map.mp h
  obtain ⟨hascii, hand, hequals⟩ := bounds_of_isWritten (isWritten_of_mem_encode hc)
  have hnat : (UInt8.ofNat c.toNat).toNat = c.toNat := Text.Utf8.toNat_ofNat_of_lt (by omega)
  constructor
  · intro heq
    exact hand (hnat.symm.trans (congrArg UInt8.toNat heq))
  · intro heq
    exact hequals (hnat.symm.trans (congrArg UInt8.toNat heq))

theorem encode_encodePair (pair : String × String) :
    Text.Utf8.encode (encodePair pair) =
      Text.Utf8.encode (encode pair.1) ++ 61 :: Text.Utf8.encode (encode pair.2) := by
  have hequals : Text.Utf8.encodeList "=".toList = [61] := by decide
  simp only [encodePair, Text.Utf8.encode_eq, String.toList_append, Text.Utf8.encodeList_append,
    hequals, List.append_assoc, List.singleton_append]

/-- The pair that the bytes of a pair stand for. -/
theorem decodePair_encode (pair : String × String) :
    decodePair (Text.Utf8.encode (encodePair pair)) = pair := by
  have hname : ∀ b ∈ Text.Utf8.encode (encode pair.1), decide (b ≠ 61) = true :=
    fun b hb => decide_eq_true (ne_of_mem_encode hb).2
  rw [decodePair, encode_encodePair, List.takeWhile_append_of_pos hname,
    List.dropWhile_append_of_pos hname, List.takeWhile_cons_of_neg (by simp),
    List.dropWhile_cons_of_neg (by simp), List.append_nil, List.drop_succ_cons, List.drop_zero,
    decode_written, decode_written]

/-- **A pair is read back as one pair.** -/
theorem decodePairs_encodePair (pair : String × String) :
    decodePairs (encodePair pair) = [pair] := by
  have hone : ∀ b ∈ Text.Utf8.encode (encodePair pair), decide (b = 38) = false := by
    intro b hb
    rw [encode_encodePair] at hb
    rcases List.mem_append.mp hb with hb | hb
    · exact decide_eq_false (ne_of_mem_encode hb).1
    · rcases List.mem_cons.mp hb with rfl | hb
      · decide
      · exact decide_eq_false (ne_of_mem_encode hb).1
  have hsome : (Text.Utf8.encode (encodePair pair)).isEmpty = false := by
    rw [encode_encodePair]
    simp
  rw [decodePairs, Text.splitWhere_eq_singleton hone, List.filter_cons_of_pos (by simp [hsome]),
    List.filter_nil, List.map_singleton, decodePair_encode]

/-- Different pairs are written differently. -/
theorem encodePair_injective : Function.Injective encodePair := fun pair pair' h =>
  List.singleton_inj.mp <|
    (decodePairs_encodePair pair).symm.trans ((congrArg decodePairs h).trans (decodePairs_encodePair pair'))

theorem isWritten_of_mem_encodePair {pair : String × String} {c : Char}
    (h : c ∈ (encodePair pair).toList) : isWritten c = true ∨ c = '=' := by
  simp only [encodePair, String.toList_append, List.mem_append] at h
  rcases h with (hname | hequals) | hvalue
  · exact Or.inl (isWritten_of_mem_encode hname)
  · exact Or.inr (by simpa using hequals)
  · exact Or.inl (isWritten_of_mem_encode hvalue)

end Form

end Url

/-! ## 5. Requests for one pair -/

namespace ClientConfig

open Url (Unmarked)

theorem unmarked_baseText {base : String} (h : Unmarked base.toList) : Unmarked (baseText base) := by
  cases hblank : Text.isBlank base with
  | true =>
    rw [baseText_of_blank hblank]
    decide
  | false =>
    rw [baseText_of_not_blank hblank]
    -- What is left of a text is in it.
    refine h.mono fun c hc => ?_
    obtain ⟨k, hk⟩ := dropSlashes_append (Text.trimList base.toList)
    have htrimmed : c ∈ Text.trimList base.toList := hk ▸ List.mem_append_left _ hc
    have hsub : Text.trimList base.toList ⊆ base.toList := by
      intro d hd
      rw [Text.trimList, Text.trimEndList, List.mem_reverse] at hd
      exact (List.dropWhile_sublist _).subset
        (List.mem_reverse.mp ((List.dropWhile_sublist _).subset hd))
    exact hsub htrimmed

/-- Behind a base URL without query and fragment an endpoint has neither. -/
theorem endpointUrl_of_unmarked {base : String} (h : Unmarked base.toList) {op : Operation}
    {url : Url} (hurl : endpointUrl base op.path = .ok url) :
    url.query = none ∧ url.fragment = none := by
  rw [endpointUrl_eq_ok_iff] at hurl
  exact Url.parse_of_unmarked ((unmarked_baseText h).append op.isWords_route.unmarked_slash) hurl

end ClientConfig

namespace Client

open ClientConfig

/-- The request goes to the path of a URL and asks there for one pair: the query is read back as that
pair and nothing else, and no character in it has a meaning to a URL or a request. -/
structure Asks (url : Url) (pair : String × String) (r : Http.Request) : Prop where
  path : r.url.path = url.path
  query : ∃ q, r.url.query = some q ∧ Url.Form.decodePairs q = [pair] ∧
    ∀ c ∈ q.toList, Url.Form.isWritten c = true ∨ c = '='
  fragment : r.url.fragment = none
  target : r.url.target = url.path.write ++ "?" ++ Url.Form.encodePair pair

theorem fill_url {op : Operation} {asked : op.Request} {pair : String × String}
    (hpair : op.query? asked = some pair) (r : Http.Request) :
    (fill op asked r).url = r.url.withQueryPair pair := by
  rw [fill, hpair]
  cases op.body? asked <;> rfl

theorem asks_fill {op : Operation} {asked : op.Request} {pair : String × String}
    (hpair : op.query? asked = some pair) {url : Url} (hquery : url.query = none)
    (hfragment : url.fragment = none) (headers : Http.Headers) :
    Asks url pair (fill op asked (Http.Request.draft op.method url headers)) := by
  have hkeeps {α : Type} (f : Url → α) (hf : ∀ u, f u.withoutCredentials = f u) :=
    Http.Request.draft_keeps op.method url headers f hf
  generalize Http.Request.draft op.method url headers = r at hkeeps ⊢
  have hpath : r.url.path = url.path := hkeeps (·.path) fun _ => rfl
  have hnone : r.url.query = none := (hkeeps (·.query) fun _ => rfl).trans hquery
  have hurl : (fill op asked r).url = { r.url with query := some (Url.Form.encodePair pair) } := by
    rw [fill_url hpair, Url.withQueryPair, hnone]
  constructor
  · rw [hurl]
    exact hpath
  · rw [hurl]
    exact ⟨_, rfl, Url.Form.decodePairs_encodePair pair,
      fun c hc => Url.Form.isWritten_of_mem_encodePair hc⟩
  · rw [hurl]
    exact (hkeeps (·.fragment) fun _ => rfl).trans hfragment
  · rw [hurl, Url.target, Url.writeQuery, ← hpath]
    simp [String.append_assoc]

/-- A request is made if there is a host to send it to, and it asks for the pair. -/
theorem request_asks {config : ClientConfig} {c : Client} (hc : ofConfig config = .ok c)
    (hbase : Url.Unmarked config.baseUrl.toList) {op : Operation} {asked : op.Request}
    {pair : String × String} (hpair : op.query? asked = some pair) {url : Url}
    (hurl : endpointUrl config.baseUrl op.path = .ok url) :
    if url.hasHost then ∃ r, c.request op asked = .ok r ∧ Asks url pair r
    else ∃ written, c.request op asked = .error (.transport op (.unsendable written)) := by
  obtain ⟨-, headers, -, rfl⟩ := ofConfig_eq_ok_iff.mp hc
  obtain ⟨hquery, hfragment⟩ := endpointUrl_of_unmarked hbase hurl
  have hhost := Http.Request.draft_keeps op.method url headers (·.hasHost) fun _ => rfl
  have hrequest : Client.request ⟨config, headers⟩ op asked =
      if url.hasHost then .ok (fill op asked (Http.Request.draft op.method url headers))
      else .error (.transport op
        (.unsendable (Http.Request.draft op.method url headers).url.write)) := by
    have hdraft : Client.draft ⟨config, headers⟩ op =
        .ok (Http.Request.draft op.method url headers) := draft_eq_ok hurl
    rw [request, hdraft, ← hhost]
  rw [hrequest]
  split
  · exact ⟨_, rfl, asks_fill hpair hquery hfragment headers⟩
  · exact ⟨_, rfl⟩

/-- Different pairs are asked for with different targets. -/
theorem Asks.pair_eq {url : Url} {pair pair' : String × String} {r r' : Http.Request}
    (h : Asks url pair r) (h' : Asks url pair' r') (htarget : r.url.target = r'.url.target) :
    pair = pair' := by
  rw [h.target, h'.target] at htarget
  exact Url.Form.encodePair_injective (String.append_right_inj _ |>.mp htarget)

/-- What an operation is asked with is asked for under a name.  The endpoint has neither query nor
fragment, and its path ends in that of the operation unless the base URL has the first word for a
host.  If there is a host a request is made that asks for the text, and without one none is sent.
Different texts are asked for with different targets. -/
structure AsksByName (c : Client) (op : Operation) (name : String) (ask : String → op.Request) :
    Prop where
  endpoint : ∃ url, endpointUrl c.config.baseUrl op.path = .ok url ∧
    url.query = none ∧ url.fragment = none ∧
    (Url.opensAt (baseText c.config.baseUrl) = false → op.path.toList <:+ url.path.write.toList) ∧
    ∀ text, if url.hasHost then ∃ r, c.request op (ask text) = .ok r ∧ Asks url (name, text) r
      else ∃ written, c.request op (ask text) = .error (.transport op (.unsendable written))
  injective : ∀ text text' r r', c.request op (ask text) = .ok r → c.request op (ask text') = .ok r' →
    r.url.target = r'.url.target → text = text'

theorem config_of_ofConfig {config : ClientConfig} {c : Client} (hc : ofConfig config = .ok c) :
    c.config = config := by
  obtain ⟨-, headers, -, rfl⟩ := ofConfig_eq_ok_iff.mp hc
  rfl

theorem asksByName {config : ClientConfig} {c : Client} (hc : ofConfig config = .ok c)
    (hbase : Url.Unmarked config.baseUrl.toList) {op : Operation} {name : String}
    {ask : String → op.Request} (hask : ∀ text, op.query? (ask text) = some (name, text)) :
    c.AsksByName op name ask := by
  obtain ⟨url, hurl⟩ := exists_endpointUrl (ofConfig_eq_ok_iff.mp hc).1 op
  obtain ⟨hquery, hfragment⟩ := endpointUrl_of_unmarked hbase hurl
  have hasks (text : String) := request_asks hc hbase (hask text) hurl
  constructor
  · rw [config_of_ofConfig hc]
    exact ⟨url, hurl, hquery, hfragment, fun hopens => suffix_of_closed (unmarked_baseText hbase)
      hopens (endpointUrl_eq_ok_iff.mp hurl), hasks⟩
  · intro text text' r r' hr hr' htarget
    have hasked {text : String} {r : Http.Request} (hr : c.request op (ask text) = .ok r) :
        Asks url (name, text) r := by
      have h := hasks text
      split at h
      · obtain ⟨r', hr', hasks⟩ := h
        cases hr.symm.trans hr'
        exact hasks
      · obtain ⟨written, herror⟩ := h
        cases hr.symm.trans herror
    exact congrArg Prod.snd ((hasked hr).pair_eq (hasked hr') htarget)

/-- **A listing and a file are asked for by one pair.**  Let the base URL have neither query nor
fragment.  Whatever text a directory or a path is, the request for it goes to the path of the
endpoint, and its query holds that text under one name and nothing else; so different texts never
have the same target. -/
theorem queries_hold_one_pair {config : ClientConfig} {c : Client} (hc : ofConfig config = .ok c)
    (hbase : Url.Unmarked config.baseUrl.toList) :
    c.AsksByName .listFiles "directory" id ∧ c.AsksByName .getFileContent "file_path" id :=
  ⟨asksByName hc hbase fun _ => rfl, asksByName hc hbase fun _ => rfl⟩

/-- A text with every sign that means something to a URL, at a base URL with a path. -/
theorem queries_hold_one_pair_signs :
    let config : ClientConfig := { baseUrl := "https://[::1]/api/" }
    let directory := "a b+%&=#?/\u00e9\n"
    ∃ c r, ofConfig config = .ok c ∧ c.request .listFiles directory = .ok r ∧
      r.url.target = "/api/files?directory=a+b%2B%25%26%3D%23%3F%2F%C3%A9%0A" ∧
      r.url.query.map Url.Form.decodePairs = some [("directory", directory)] := by
  intro config directory
  have hfiles : endpointUrl config.baseUrl Operation.listFiles.path = .ok {
      scheme := "https", host := some (.ipv6 [0, 0, 0, 0, 0, 0, 0, 1])
      path := .segments ["api", "files"] } := by decide +kernel
  obtain ⟨url, hurl⟩ := exists_endpointUrl ⟨_, hfiles⟩ .health
  obtain ⟨c, hc, -⟩ := exists_health hurl
  obtain ⟨⟨files, hendpoint, -, -, -, hasks⟩, -⟩ := (queries_hold_one_pair hc (by decide)).1
  rw [config_of_ofConfig hc] at hendpoint
  cases hfiles.symm.trans hendpoint
  have hasked := hasks directory
  rw [if_pos (by decide)] at hasked
  obtain ⟨r, hr, -, ⟨q, hq, hpairs, -⟩, -, htarget⟩ := hasked
  refine ⟨c, r, hc, hr, htarget.trans (by decide +kernel), ?_⟩
  rw [hq]
  exact congrArg some hpairs

end Client

end CodeAssistant
