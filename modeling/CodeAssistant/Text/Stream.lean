/-
# A text that arrives in pieces

A streamed answer arrives as chunks of bytes, cut anywhere.  The decoder hands on the complete
characters of what has arrived and holds back the beginning of a character that the cut went
through, at most three bytes.  Bytes that no text contains end the stream for good.

`StreamDecoder.feed` takes one chunk; `StreamDecoder.run` takes them all and says what was
handed on and how the stream ended.
-/
import CodeAssistant.Text.Utf8

namespace CodeAssistant.Text

/-- The bytes held back: the beginning of a character, or nothing. -/
structure StreamDecoder where
  pending : List UInt8
  deriving DecidableEq, Repr

namespace StreamDecoder

/-- Nothing has arrived. -/
def start : StreamDecoder := ⟨[]⟩

/-- Takes one chunk: the text that it completes, or `none` for bytes that no text contains. -/
def feed (d : StreamDecoder) (chunk : List UInt8) : Option (String × StreamDecoder) :=
  let (cs, left) := Utf8.readChars (d.pending ++ chunk)
  match Utf8.Head.of left with
  | .malformed _ _ => none
  | _ => some (String.ofList cs, ⟨left⟩)

/-- Nothing is held back. -/
def isDrained (d : StreamDecoder) : Bool := d.pending.isEmpty

/-- How a stream of chunks ended. -/
inductive Ending
  /-- Every byte was part of a character. -/
  | whole
  /-- The last bytes are the beginning of a character. -/
  | cut
  /-- There are bytes that no text contains. -/
  | malformed
  deriving DecidableEq, Repr

/-- What came of a stream of chunks. -/
structure Outcome where
  /-- The non-empty texts handed on, in order. -/
  pieces : List String
  ending : Ending
  deriving DecidableEq, Repr

/-- Feeds the chunks in order, up to the first that fails. -/
def run (d : StreamDecoder) : List (List UInt8) → Outcome
  | [] => ⟨[], if d.isDrained then .whole else .cut⟩
  | chunk :: chunks =>
    match d.feed chunk with
    | none => ⟨[], .malformed⟩
    | some (text, d') =>
      let rest := d'.run chunks
      { rest with pieces := if text.isEmpty then rest.pieces else text :: rest.pieces }

end StreamDecoder

end CodeAssistant.Text
