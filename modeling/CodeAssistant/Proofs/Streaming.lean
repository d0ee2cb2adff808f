/-
# A streamed answer and its bytes

An answer that is streamed arrives in chunks, cut anywhere.  Nothing of what comes of it depends on
the cuts: feeding one chunk and then another is feeding the two at once (`feed_append`), so feeding
all chunks is feeding their bytes at once (`feeds_eq_feed`).

Three notions say what feeding bytes at once comes to, and none of them speaks of the decoder:

* `Utf8.encode s` are the bytes of a text;
* `BeginsText bs`: the bytes are the beginning of the bytes of some text;
* `LongestText s bs`: of all texts whose bytes `bs` begins with, `s` is the longest.

A chunk is refused exactly if the bytes up to its end begin no text, and what was handed on by then
is the longest text of the bytes before it.

Main statement: `stream_spells_bytes`.
-/
import CodeAssistant.Backend.Client
import CodeAssistant.Proofs.Characters

namespace CodeAssistant.Text

/-! ## 1. Bytes that begin a text -/

namespace Utf8

/-- Some text goes on like this. -/
def BeginsText (bs : List UInt8) : Prop := ∃ more s, bs ++ more = encode s

/-- Of the texts that the bytes begin with, the longest. -/
def LongestText (s : String) (bs : List UInt8) : Prop :=
  encode s <+: bs ∧ ∀ t, encode t <+: bs → t.toList <+: s.toList

theorem readChars_of_malformed {bs rest : List UInt8} {bad : Nat}
    (h : Head.of bs = .malformed bad rest) (more : List UInt8) :
    readChars (bs ++ more) = ([], bs ++ more) := by
  refine readChars_of_not_char fun c r => ?_
  rw [Head.of_append more (by simp [h]) (by simp [h]), h]
  simp [Head.extend]

/-- **Bytes begin a text unless the reader stops at bytes that no text contains.** -/
theorem beginsText_iff {bs : List UInt8} :
    BeginsText bs ↔ ∀ bad rest, Head.of (readChars bs).2 ≠ .malformed bad rest := by
  constructor
  · rintro ⟨more, s, h⟩ bad rest hbad
    have hread := readChars_append bs more
    rw [h, encode_eq, readChars_encodeList, readChars_of_malformed hbad] at hread
    have hnil : (readChars bs).2 ++ more = [] := (congrArg Prod.snd hread).symm
    rw [(List.append_eq_nil_iff.mp hnil).1] at hbad
    simp [Head.of] at hbad
  · intro h
    have hbs := encodeList_readChars bs
    cases hleft : Head.of (readChars bs).2 with
    | none =>
      rw [Head.of_eq_none_iff.mp hleft] at hbs
      exact ⟨[], String.ofList (readChars bs).1, by simpa using hbs.symm⟩
    | char c rest => exact absurd hleft (of_readChars_ne_char bs c rest)
    | incomplete =>
      obtain ⟨-, c, more, -, hc⟩ := Head.of_eq_incomplete_iff.mp hleft
      refine ⟨more, String.ofList ((readChars bs).1 ++ [c]), ?_⟩
      rw [encode_ofList, encodeList_append, encodeList_cons, hc, encodeList_nil, List.append_nil,
        ← List.append_assoc, hbs]
    | malformed bad rest => exact absurd hleft (h bad rest)

/-- What the reader reads is the longest text that the bytes begin with. -/
theorem longestText_readChars (bs : List UInt8) :
    LongestText (String.ofList (readChars bs).1) bs := by
  constructor
  · rw [encode_ofList]
    exact ⟨_, encodeList_readChars bs⟩
  · rintro t ⟨more, rfl⟩
    rw [encode_eq, readChars_encodeList_append, String.toList_ofList]
    exact List.prefix_append _ _

theorem LongestText.mono {s t : String} {bs cs : List UInt8} (hs : LongestText s bs)
    (ht : LongestText t cs) (h : bs <+: cs) : s.toList <+: t.toList :=
  ht.2 s (hs.1.trans h)

/-- What is left behind the longest text, where nothing is malformed, is short. -/
theorem length_left_le {bs : List UInt8} (h : BeginsText bs) : (readChars bs).2.length ≤ 3 := by
  cases hleft : Head.of (readChars bs).2 with
  | none => simp [Head.of_eq_none_iff.mp hleft]
  | char c rest => exact absurd hleft (of_readChars_ne_char bs c rest)
  | incomplete => exact Head.length_le_of_incomplete hleft
  | malformed bad rest => exact absurd hleft (beginsText_iff.mp h bad rest)

end Utf8

/-! ## 2. Feeding -/

namespace StreamDecoder

open Utf8

theorem feed_eq_none_iff {d : StreamDecoder} {chunk : List UInt8} :
    d.feed chunk = none ↔ ¬ BeginsText (d.pending ++ chunk) := by
  rw [beginsText_iff]
  unfold feed
  dsimp only
  split
  · rename_i bad rest h
    simp [h]
  · rename_i h
    simpa using h

theorem feed_of_beginsText {d : StreamDecoder} {chunk : List UInt8}
    (h : BeginsText (d.pending ++ chunk)) :
    d.feed chunk = some (String.ofList (readChars (d.pending ++ chunk)).1,
      ⟨(readChars (d.pending ++ chunk)).2⟩) := by
  rw [beginsText_iff] at h
  unfold feed
  dsimp only
  split
  · exact absurd ‹_› (h _ _)
  · rfl

/-- **Feeding two chunks is feeding both at once.** -/
theorem feed_append (d : StreamDecoder) (x y : List UInt8) :
    d.feed (x ++ y) =
      (d.feed x).bind fun r => (r.2.feed y).map fun u => (r.1 ++ u.1, u.2) := by
  by_cases hx : BeginsText (d.pending ++ x)
  · have hread := readChars_append (d.pending ++ x) y
    rw [List.append_assoc] at hread
    rw [feed_of_beginsText hx, Option.bind_some]
    -- the bytes held back and `y` begin a text exactly if all bytes do
    have hiff : BeginsText ((readChars (d.pending ++ x)).2 ++ y) ↔
        BeginsText (d.pending ++ (x ++ y)) := by
      rw [beginsText_iff, beginsText_iff, hread]
    by_cases hy : BeginsText (d.pending ++ (x ++ y))
    · rw [feed_of_beginsText hy, feed_of_beginsText (d := ⟨_⟩) (hiff.mpr hy), hread]
      simp
    · rw [feed_eq_none_iff.mpr hy, feed_eq_none_iff.mpr (mt hiff.mp hy)]
      rfl
  · rw [feed_eq_none_iff.mpr hx, Option.bind_none, feed_eq_none_iff, ← List.append_assoc]
    rintro ⟨more, s, h⟩
    exact hx ⟨y ++ more, s, by rw [← h, List.append_assoc _ y]⟩

/-- Feeds the chunks in order: the text that each completes, and the decoder after the last. -/
def feeds (d : StreamDecoder) : List (List UInt8) → Option (List String × StreamDecoder)
  | [] => some ([], d)
  | chunk :: chunks =>
    (d.feed chunk).bind fun r => (r.2.feeds chunks).map fun u => (r.1 :: u.1, u.2)

/-- No chunk, no change: true of every decoder that a chunk leaves behind. -/
def Waits (d : StreamDecoder) : Prop := d.feed [] = some ("", d)

theorem waits_start : start.Waits := by
  simp [Waits, feed, start, Head.of]

theorem waits_of_feed {d e : StreamDecoder} {chunk : List UInt8} {text : String}
    (h : d.feed chunk = some (text, e)) : e.Waits := by
  have hagain := feed_append d chunk []
  rw [List.append_nil, h, Option.bind_some] at hagain
  obtain ⟨⟨more, e'⟩, he, hsame⟩ := Option.map_eq_some_iff.mp hagain.symm
  simp only [Prod.mk.injEq, String.append_eq_left_iff] at hsame he
  obtain ⟨rfl, rfl⟩ := hsame
  exact he

/-- **Feeding all chunks is feeding their bytes at once.** -/
theorem feeds_eq_feed {d : StreamDecoder} (hd : d.Waits) (chunks : List (List UInt8)) :
    (d.feeds chunks).map (fun r => (String.join r.1, r.2)) = d.feed chunks.flatten := by
  induction chunks generalizing d with
  | nil => simpa [feeds] using hd.symm
  | cons chunk chunks ih =>
    rw [List.flatten_cons, feed_append]
    cases h : d.feed chunk with
    | none => simp [feeds, h]
    | some r =>
      obtain ⟨text, d'⟩ := r
      rw [Option.bind_some, ← ih (waits_of_feed h)]
      cases h' : d'.feeds chunks <;> simp [feeds, h, h', String.join_cons]

/-! ## 3. What is handed on -/

theorem join_filter (texts : List String) :
    String.join (texts.filter (!·.isEmpty)) = String.join texts := by
  induction texts with
  | nil => rfl
  | cons text texts ih =>
    by_cases h : text = ""
    · simp [h, ih, String.join_cons]
    · simp [h, ih, String.join_cons]

/-- What has been handed on stays: the chunks behind those that were taken add to it. -/
theorem run_append {d e : StreamDecoder} {fed : List (List UInt8)} {texts : List String}
    (h : d.feeds fed = some (texts, e)) (more : List (List UInt8)) :
    d.run (fed ++ more) =
      ⟨texts.filter (!·.isEmpty) ++ (e.run more).pieces, (e.run more).ending⟩ := by
  induction fed generalizing d texts with
  | nil =>
    cases h
    rfl
  | cons chunk fed ih =>
    obtain ⟨⟨text, d'⟩, hfeed, h⟩ := Option.bind_eq_some_iff.mp h
    obtain ⟨⟨texts', e'⟩, hfeeds, h⟩ := Option.map_eq_some_iff.mp h
    cases h
    simp only [List.cons_append, run, hfeed, ih hfeeds]
    by_cases ht : text.isEmpty = true <;> simp [ht]

/-- If not every chunk is taken, there is a first that is refused. -/
theorem exists_refused {d : StreamDecoder} {chunks : List (List UInt8)}
    (h : d.feeds chunks = none) :
    ∃ fed chunk rest texts e, chunks = fed ++ chunk :: rest ∧ d.feeds fed = some (texts, e) ∧
      e.feed chunk = none := by
  induction chunks generalizing d with
  | nil => cases h
  | cons chunk chunks ih =>
    cases hfeed : d.feed chunk with
    | none => exact ⟨[], chunk, chunks, [], d, rfl, rfl, hfeed⟩
    | some r =>
      obtain ⟨text, d'⟩ := r
      have h' : d'.feeds chunks = none := by simpa [feeds, hfeed] using h
      obtain ⟨fed, refused, rest, texts, e, rfl, hfeeds, hrefused⟩ := ih h'
      exact ⟨chunk :: fed, refused, rest, text :: texts, e, rfl, by simp [feeds, hfeed, hfeeds],
        hrefused⟩

/-- If every chunk is taken, the stream ends by what is held back. -/
theorem run_of_feeds {d e : StreamDecoder} {chunks : List (List UInt8)} {texts : List String}
    (h : d.feeds chunks = some (texts, e)) :
    d.run chunks = ⟨texts.filter (!·.isEmpty), if e.isDrained then .whole else .cut⟩ := by
  simpa [run] using run_append h []

/-- If a chunk is refused, what is handed on are the texts of the chunks before it. -/
theorem run_of_feeds_eq_none {d : StreamDecoder} {chunks : List (List UInt8)}
    (h : d.feeds chunks = none) :
    ∃ fed texts e, fed <+: chunks ∧ d.feeds fed = some (texts, e) ∧
      d.run chunks = ⟨texts.filter (!·.isEmpty), .malformed⟩ := by
  obtain ⟨fed, chunk, rest, texts, e, rfl, hfeeds, hrefused⟩ := exists_refused h
  refine ⟨fed, texts, e, List.prefix_append _ _, hfeeds, ?_⟩
  simp [run_append hfeeds, run, hrefused]

/-! ## 4. What has arrived -/

/-- **After chunks that were taken**, what was completed is the longest text of the bytes so far,
and what is held back, three bytes at most, are the bytes behind it. -/
theorem feeds_start {chunks : List (List UInt8)} {texts : List String} {e : StreamDecoder}
    (h : start.feeds chunks = some (texts, e)) :
    LongestText (String.join texts) chunks.flatten ∧
      encode (String.join texts) ++ e.pending = chunks.flatten ∧ e.pending.length ≤ 3 := by
  have hfeed := feeds_eq_feed waits_start chunks
  rw [h, Option.map_some] at hfeed
  have hb : BeginsText chunks.flatten := by
    refine Classical.byContradiction fun hb => ?_
    rw [feed_eq_none_iff.mpr hb] at hfeed
    cases hfeed
  rw [feed_of_beginsText (d := start) hb] at hfeed
  obtain ⟨htexts, rfl⟩ := Prod.mk.inj (Option.some.inj hfeed)
  dsimp only at htexts
  rw [htexts]
  refine ⟨longestText_readChars _, ?_, length_left_le hb⟩
  rw [encode_ofList]
  exact encodeList_readChars _

theorem feeds_start_eq_none {chunks : List (List UInt8)} (h : start.feeds chunks = none) :
    ¬ BeginsText chunks.flatten := by
  have hfeed := feeds_eq_feed waits_start chunks
  rw [h, Option.map_none] at hfeed
  exact feed_eq_none_iff.mp hfeed.symm

theorem feed_start_encode (s : String) : start.feed (encode s) = some (s, start) := by
  have hb : BeginsText (start.pending ++ encode s) := ⟨[], s, List.append_nil _⟩
  have hread : readChars (start.pending ++ encode s) = (s.toList, []) := by
    rw [encode_eq]
    exact readChars_encodeList _
  rw [feed_of_beginsText hb, hread, String.ofList_toList]
  rfl

/-- The chunks of a text are all taken, complete the text, and nothing is held back. -/
theorem feeds_start_of_text {chunks : List (List UInt8)} {s : String}
    (h : chunks.flatten = encode s) :
    ∃ texts, start.feeds chunks = some (texts, start) ∧ String.join texts = s := by
  have hfeed := feeds_eq_feed waits_start chunks
  rw [h, feed_start_encode] at hfeed
  obtain ⟨⟨texts, e⟩, hfeeds, hsame⟩ := Option.map_eq_some_iff.mp hfeed
  simp only [Prod.mk.injEq] at hsame
  obtain ⟨rfl, rfl⟩ := hsame
  exact ⟨texts, hfeeds, rfl⟩

/-- The chunks of bytes that are no text do not end well, and what was handed on by then is the
longest text of the bytes of some of them. -/
theorem run_start_of_no_text {chunks : List (List UInt8)} (h : ∀ s, chunks.flatten ≠ encode s) :
    (start.run chunks).ending ≠ .whole ∧
      ∃ fed, fed <+: chunks ∧
        LongestText (String.join (start.run chunks).pieces) fed.flatten := by
  cases hfeeds : start.feeds chunks with
  | none =>
    obtain ⟨fed, texts, e, hfed, hfeeds', hrun⟩ := run_of_feeds_eq_none hfeeds
    rw [hrun, join_filter]
    exact ⟨by simp, fed, hfed, (feeds_start hfeeds').1⟩
  | some r =>
    obtain ⟨texts, e⟩ := r
    obtain ⟨hlongest, hbytes, -⟩ := feeds_start hfeeds
    have hheld : e.isDrained = false := by
      rw [isDrained, List.isEmpty_eq_false_iff]
      intro hnil
      exact h _ (by rw [← hbytes, hnil, List.append_nil])
    rw [run_of_feeds hfeeds, join_filter]
    exact ⟨by simp [hheld], chunks, List.prefix_rfl, hlongest⟩

theorem ne_empty_of_mem_run {d : StreamDecoder} {chunks : List (List UInt8)} {piece : String}
    (h : piece ∈ (d.run chunks).pieces) : piece ≠ "" := by
  have hmem : ∀ texts : List String, piece ∈ texts.filter (!·.isEmpty) → piece ≠ "" := by
    intro texts hpiece
    simpa using (List.mem_filter.mp hpiece).2
  cases hfeeds : d.feeds chunks with
  | none =>
    obtain ⟨_, texts, _, _, _, hrun⟩ := run_of_feeds_eq_none hfeeds
    exact hmem texts (by rwa [hrun] at h)
  | some r =>
    exact hmem r.1 (by rwa [run_of_feeds hfeeds] at h)

end StreamDecoder

end CodeAssistant.Text

namespace CodeAssistant.Client

open Http (Response)
open Text.StreamDecoder
open Text.Utf8 (encode BeginsText LongestText)

variable {r : Response}

/-! ## 5. The streamed answer -/

theorem readStream_pieces (hs : r.status.isSuccess = true) :
    (readStream r).pieces = (start.run r.chunks).pieces := by
  simp [readStream, hs]

theorem readStream_of_whole (hs : r.status.isSuccess = true) (he : r.ending = .complete)
    (h : (start.run r.chunks).ending = .whole) :
    (readStream r).result = .ok (String.join (start.run r.chunks).pieces) := by
  simp [readStream, hs, he, h]

theorem readStream_of_not_whole (hs : r.status.isSuccess = true) (he : r.ending = .complete)
    (h : (start.run r.chunks).ending ≠ .whole) :
    (readStream r).result = .error (.streamEncoding .chat) := by
  cases hending : (start.run r.chunks).ending with
  | whole => exact absurd hending h
  | cut => simp [readStream, hs, he, hending]
  | malformed => simp [readStream, hs, he, hending]

/-- **A streamed answer depends on its bytes alone, not on how they were cut.**

1. The bytes of a text: every chunk is taken, nothing is held back at the end, and the answer is
   the text, which is also what was handed on.
2. All other bytes: the answer is not text, and what was handed on is a beginning of the longest
   text that the bytes begin with.
3. At every moment, after the chunks `fed`: what has been handed on is the longest text of the
   bytes so far, and at most three bytes, those behind it, are held back.  A chunk is refused only
   if no text goes on like that.
4. Nothing empty is ever handed on. -/
theorem stream_spells_bytes (r : Response) (hs : r.status.isSuccess = true)
    (he : r.ending = .complete) :
    (∀ s, r.bytes = encode s →
      (∃ texts, start.feeds r.chunks = some (texts, start)) ∧
        (readStream r).result = .ok s ∧ String.join (readStream r).pieces = s) ∧
    ((∀ s, r.bytes ≠ encode s) →
      (readStream r).result = .error (.streamEncoding .chat) ∧
        ∃ s, LongestText s r.bytes ∧
          (String.join (readStream r).pieces).toList <+: s.toList) ∧
    (∀ fed, fed <+: r.chunks →
      match start.feeds fed with
      | some (texts, d) =>
        texts.filter (!·.isEmpty) <+: (readStream r).pieces ∧
          LongestText (String.join (texts.filter (!·.isEmpty))) fed.flatten ∧
          encode (String.join texts) ++ d.pending = fed.flatten ∧ d.pending.length ≤ 3
      | none => ¬ BeginsText fed.flatten) ∧
    ∀ piece ∈ (readStream r).pieces, piece ≠ "" := by
  rw [readStream_pieces hs]
  refine ⟨?text, ?noText, ?moment, fun piece => ne_empty_of_mem_run⟩
  case text =>
    rintro s hbytes
    obtain ⟨texts, hfeeds, rfl⟩ := feeds_start_of_text hbytes
    have hrun := run_of_feeds hfeeds
    have hwhole : (start.run r.chunks).ending = .whole := by rw [hrun]; rfl
    rw [readStream_of_whole hs he hwhole, hrun, join_filter]
    exact ⟨⟨texts, hfeeds⟩, rfl, rfl⟩
  case noText =>
    intro h
    obtain ⟨hending, fed, ⟨more, hfed⟩, hlongest⟩ := run_start_of_no_text h
    have hall := Text.Utf8.longestText_readChars r.bytes
    refine ⟨readStream_of_not_whole hs he hending, _, hall, hlongest.mono hall ?_⟩
    rw [Response.bytes, ← hfed, List.flatten_append]
    exact List.prefix_append _ _
  case moment =>
    rintro fed ⟨more, hfed⟩
    cases hfeeds : start.feeds fed with
    | none => exact feeds_start_eq_none hfeeds
    | some fedResult =>
      obtain ⟨texts, d⟩ := fedResult
      obtain ⟨hlongest, hbytes, hheld⟩ := feeds_start hfeeds
      refine ⟨?_, by rwa [join_filter], hbytes, hheld⟩
      rw [← hfed, run_append hfeeds]
      exact List.prefix_append _ _

/-- A cut through a character, an empty chunk, and a character in three pieces. -/
theorem stream_spells_bytes_cut :
    let r : Response :=
      ⟨⟨200, by decide⟩, [], [[0x68, 0xC3], [], [0xA9, 0xF0, 0x9F], [0x98], [0x80]], .complete⟩
    r.status.isSuccess = true ∧ r.ending = .complete ∧ r.bytes = encode "hé😀" ∧
      (readStream r).result = .ok "hé😀" ∧ String.join (readStream r).pieces = "hé😀" := by
  intro r
  have hbytes : r.bytes = encode "hé😀" := by
    rw [Text.Utf8.encode_eq]
    decide
  obtain ⟨-, hresult, hpieces⟩ := (stream_spells_bytes r rfl rfl).1 _ hbytes
  exact ⟨rfl, rfl, hbytes, hresult, hpieces⟩

end CodeAssistant.Client
