import Viva.Text.Utf8

/-! # Records of an event stream

A record is a run of `event:` and `data:` lines closed by a blank line. Lines end in LF, and one CR
before it belongs to the line end. Within a record the last line of each name counts, lines of any
other name are comments, and a record without an event line is dropped. What follows the last blank
line is the remainder: it is kept as it came and read again with the next bytes.

`FrameReader` reads records off a byte stream; `decode_append` in `Viva.Text.Utf8` is why a
character may be cut between two reads.
-/

namespace Viva

/-- One complete record of an event stream. -/
structure Frame where
  event : String
  data : String
  deriving Repr, DecidableEq, Inhabited

namespace Frame

/-- The fields of the record being read; the last line of a name counts. -/
structure Draft where
  event : Option (List Char) := none
  data : Option (List Char) := none
  deriving Repr, DecidableEq

/-- The record that a blank line closes, if an event line came before it. -/
def Draft.close (draft : Draft) : List Frame :=
  match draft.event with
  | some name => [⟨String.ofList name, String.ofList (draft.data.getD [])⟩]
  | none => []

/-- The text after the characters of `name`, if a text starts with them. -/
def afterName : List Char → List Char → Option (List Char)
  | [], text => some text
  | n :: name, c :: text => if n = c then afterName name text else none
  | _ :: _, [] => none

/-- The value of a line `name:value` or `name: value`; one space after the colon is no part of it. -/
def fieldValue (name : List Char) (line : List Char) : Option (List Char) :=
  match afterName name line with
  | some (':' :: ' ' :: value) => some value
  | some (':' :: value) => some value
  | _ => none

/-- A line of a record, which sets the field it names, if any. -/
def Draft.read (draft : Draft) (line : List Char) : Draft :=
  match fieldValue "event".toList line with
  | some value => { draft with event := some value }
  | none =>
    match fieldValue "data".toList line with
    | some value => { draft with data := some value }
    | none => draft

/-- A line without the CR that belongs to its end. -/
def withoutReturn : List Char → List Char
  | [] => []
  | ['\r'] => []
  | c :: rest => c :: withoutReturn rest

/-- The text before the first LF and the text after it. -/
def cutLine : List Char → Option (List Char × List Char)
  | [] => none
  | c :: rest =>
    if c = '\n' then some ([], rest)
    else (cutLine rest).map fun (line, after) => (c :: line, after)

theorem length_lt_of_cutLine {text line after : List Char}
    (h : cutLine text = some (line, after)) : after.length < text.length := by
  induction text generalizing line with
  | nil => simp [cutLine] at h
  | cons c rest ih =>
    simp only [cutLine] at h
    split at h
    · simp only [Option.some.injEq, Prod.mk.injEq] at h
      simp [← h.2]
    · simp only [Option.map_eq_some_iff, Prod.mk.injEq] at h
      obtain ⟨⟨line', after'⟩, hcut, _, rfl⟩ := h
      exact Nat.lt_succ_of_lt (ih hcut)

/-- Reads records off `text`, inside a record that began at `start` and has the fields of `draft`
    so far. Gives the records and the remainder. -/
def parseFrom (draft : Draft) (start text : List Char) : List Frame × List Char :=
  match h : cutLine text with
  | none => ([], start)
  | some (line, after) =>
    have := length_lt_of_cutLine h
    if (withoutReturn line).isEmpty then
      let (frames, remainder) := parseFrom {} after after
      (draft.close ++ frames, remainder)
    else parseFrom (draft.read (withoutReturn line)) start after
  termination_by text.length

/-- Every complete record of some text, and the remainder. -/
def parse (text : List Char) : List Frame × List Char :=
  parseFrom {} text text

/-- Every complete record of a text, and the remainder. -/
def parseText (text : String) : List Frame × String :=
  let (frames, remainder) := parse text.toList
  (frames, String.ofList remainder)

end Frame

/-- Reads records off a byte stream that arrives in pieces. -/
structure FrameReader where
  /-- Text of the record that is not closed yet. -/
  text : List Char := []
  /-- Bytes of the character that is not complete yet. -/
  begun : List UInt8 := []
  deriving Repr, DecidableEq

namespace FrameReader

/-- Bytes received: the records they complete, and the reader after them. -/
def feed (reader : FrameReader) (bytes : List UInt8) : List Frame × FrameReader :=
  let (chars, begun) := Text.Utf8.decode reader.begun bytes
  let (frames, remainder) := Frame.parse (reader.text ++ chars)
  (frames, ⟨remainder, begun⟩)

/-- The text of the record that is not closed yet; it does not show a character cut off. -/
def remainder (reader : FrameReader) : String :=
  String.ofList reader.text

end FrameReader

end Viva
