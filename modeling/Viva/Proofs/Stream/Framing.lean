import Viva.Stream.Frame

/-! # Records do not depend on the reads

A reader keeps the text of the record that is not closed yet and reads it again with the next
bytes. `Frame.Resumes` says what makes that harmless: reading the open record again leads back to
the place where the reader stood. `FrameReader.feedAll_eq_feed_flatten` is the consequence for a
whole body: reads may be cut anywhere.
-/

namespace Viva

namespace Text.Utf8

theorem isTail_of_isSecond {first b : UInt8} (second : isSecond first b = true) :
    isTail b = true := by
  grind [isSecond, isTail]

/-- A byte that is a character by itself closes off what was begun. -/
theorem step_ascii (begun : List UInt8) {b : UInt8} (ascii : b < 0x80) :
    step begun b = ((if begun.isEmpty then [] else [replacement]) ++ [charOf [b]], []) := by
  have first : lengthFrom b = 1 := by simp only [lengthFrom, ascii, if_true]
  have notTail : isTail b = false := by
    simp only [isTail, Bool.and_eq_false_iff, decide_eq_false_iff_not]
    exact .inl (UInt8.not_le.mpr ascii)
  have starts : follows [] b = true := by simp [follows, first]
  have alone : accept [] b = ([charOf [b]], []) := by
    simp [accept, isComplete, first]
  cases begun with
  | nil => simp [step, starts, alone]
  | cons a rest =>
      have stray : follows (a :: rest) b = false := by
        cases rest with
        | nil => exact Bool.eq_false_iff.mpr fun second =>
            Bool.eq_false_iff.mp notTail (isTail_of_isSecond second)
        | cons _ _ => exact notTail
      rw [step, stray]
      simp [starts, alone]

end Text.Utf8

namespace Frame

theorem cutLine_eq_none {text : List Char} : cutLine text = none ↔ '\n' ∉ text := by
  induction text with
  | nil => simp [cutLine]
  | cons c rest ih =>
      simp only [cutLine, List.mem_cons, not_or, ← ih]
      by_cases isEnd : c = '\n'
      · simp [isEnd]
      · simp [isEnd, Ne.symm isEnd]

theorem cutLine_line {line : List Char} (rest : List Char) (whole : '\n' ∉ line) :
    cutLine (line ++ '\n' :: rest) = some (line, rest) := by
  induction line with
  | nil => rfl
  | cons c line ih =>
      simp only [List.mem_cons, not_or] at whole
      simp [cutLine, Ne.symm whole.1, ih whole.2]

theorem cutLine_append {text line after : List Char} (more : List Char)
    (cut : cutLine text = some (line, after)) :
    cutLine (text ++ more) = some (line, after ++ more) := by
  induction text generalizing line with
  | nil => simp [cutLine] at cut
  | cons c rest ih =>
      simp only [cutLine, List.cons_append] at cut ⊢
      split at cut
      · rename_i isEnd
        simp only [Option.some.injEq, Prod.mk.injEq] at cut
        simp only [isEnd, if_true, ← cut.1, ← cut.2]
      · rename_i notEnd
        obtain ⟨⟨line', after'⟩, inRest, same⟩ := Option.map_eq_some_iff.mp cut
        simp only [Prod.mk.injEq] at same
        obtain ⟨rfl, rfl⟩ := same
        simp only [notEnd, if_false, ih inRest, Option.map_some]

theorem withoutReturn_concat {c : Char} (line : List Char) (notReturn : c ≠ '\r') :
    (withoutReturn (line ++ [c])).isEmpty = false := by
  cases line with
  | nil => simp [withoutReturn, notReturn]
  | cons a line => cases line <;> simp [withoutReturn]

/-! ## One line at a time -/

theorem parseFrom_unfinished {text : List Char} (draft : Draft) (start : List Char)
    (cut : cutLine text = none) : parseFrom draft start text = ([], start) := by
  rw [parseFrom.eq_def]
  split
  · rfl
  · rename_i found
    simp [cut] at found

theorem parseFrom_blank {text line after : List Char} (draft : Draft) (start : List Char)
    (cut : cutLine text = some (line, after)) (blank : (withoutReturn line).isEmpty = true) :
    parseFrom draft start text = (draft.close ++ (parse after).1, (parse after).2) := by
  rw [parseFrom.eq_def]
  split
  · rename_i none
    simp [cut] at none
  · rename_i found
    simp only [cut, Option.some.injEq, Prod.mk.injEq] at found
    obtain ⟨rfl, rfl⟩ := found
    simp only [blank, if_true, parse]

theorem parseFrom_field {text line after : List Char} (draft : Draft) (start : List Char)
    (cut : cutLine text = some (line, after)) (field : (withoutReturn line).isEmpty = false) :
    parseFrom draft start text = parseFrom (draft.read (withoutReturn line)) start after := by
  rw [parseFrom.eq_def]
  split
  · rename_i none
    simp [cut] at none
  · rename_i found
    simp only [cut, Option.some.injEq, Prod.mk.injEq] at found
    obtain ⟨rfl, rfl⟩ := found
    simp only [field, Bool.false_eq_true, if_false]

/-! ## Reading the open record again -/

/-- Reading on from `start` leads to `draft` with `text` ahead, whatever comes after `text`. -/
def Resumes (draft : Draft) (start text : List Char) : Prop :=
  ∀ more, parse (start ++ more) = parseFrom draft (start ++ more) (text ++ more)

theorem resumes_fresh (text : List Char) : Resumes {} text text :=
  fun _ => rfl

theorem Resumes.field {draft start text line after} (resumes : Resumes draft start text)
    (cut : cutLine text = some (line, after)) (field : (withoutReturn line).isEmpty = false) :
    Resumes (draft.read (withoutReturn line)) start after := by
  intro more
  rw [resumes more, parseFrom_field draft _ (cutLine_append more cut) field]

/-- More text behind a record that is being read: the records closed before it are the same, and
    the rest is read from the remainder on. -/
theorem parseFrom_append {draft start text} (more : List Char)
    (resumes : Resumes draft start text) :
    parseFrom draft (start ++ more) (text ++ more) =
      ((parseFrom draft start text).1 ++ (parse ((parseFrom draft start text).2 ++ more)).1,
        (parse ((parseFrom draft start text).2 ++ more)).2) := by
  -- Line by line as the reader goes; `Resumes` holds again at every line it comes to.
  fun_induction parseFrom draft start text with
  | case1 draft start text cut =>
      simp only [List.nil_append, resumes more]
  | case2 draft start text line after cut _ blank frames remainder closed ih =>
      have rest := ih (resumes_fresh after)
      rw [closed] at rest
      rw [parseFrom_blank draft _ (cutLine_append more cut) blank, parse, rest]
      simp only [List.append_assoc]
  | case3 draft start text line after cut _ field ih =>
      have isField := Bool.eq_false_iff.mpr field
      rw [parseFrom_field draft _ (cutLine_append more cut) isField]
      exact ih (resumes.field cut isField)

/-- Two pieces of text: the records of the first, then those of its remainder with the second. -/
theorem parse_append (text more : List Char) :
    parse (text ++ more) =
      ((parse text).1 ++ (parse ((parse text).2 ++ more)).1,
        (parse ((parse text).2 ++ more)).2) :=
  parseFrom_append more (resumes_fresh text)

/-- A remainder holds no complete record. -/
theorem parse_remainder (text : List Char) : parse (parse text).2 = ([], (parse text).2) := by
  have again := parse_append text []
  simp only [List.append_nil] at again
  have frames := congrArg Prod.fst again
  have remainder := congrArg Prod.snd again
  exact Prod.ext (by simpa using frames) remainder.symm

/-- Where the reading of a text has come to: in some record, at the start of its last line. -/
theorem resumes_remainder {draft : Draft} {start text : List Char}
    (resumes : Resumes draft start text) :
    ∃ draft' line, '\n' ∉ line ∧ Resumes draft' (parseFrom draft start text).2 line := by
  fun_induction parseFrom draft start text with
  | case1 draft start text cut => exact ⟨draft, text, cutLine_eq_none.mp cut, resumes⟩
  | case2 draft start text line after cut _ blank frames remainder closed ih =>
      have rest := ih (resumes_fresh after)
      rwa [closed] at rest
  | case3 draft start text line after cut _ field ih =>
      exact ih (resumes.field cut (Bool.eq_false_iff.mpr field))

end Frame

namespace FrameReader

/-- The text kept is that of an open record. -/
def Settled (reader : FrameReader) : Prop :=
  Frame.parse reader.text = ([], reader.text)

theorem settled_new : Settled {} := by
  rw [Settled, Frame.parse, Frame.parseFrom_unfinished _ _ rfl]

theorem settled_feed (reader : FrameReader) (bytes : List UInt8) :
    (reader.feed bytes).2.Settled :=
  Frame.parse_remainder _

/-- A read without bytes changes nothing. -/
theorem feed_nil {reader : FrameReader} (settled : reader.Settled) :
    reader.feed [] = ([], reader) := by
  simp only [Settled] at settled
  simp only [feed, Text.Utf8.decode, List.append_nil, settled]

/-- One read of two pieces is a read of each: the characters by `Text.Utf8.decode_append`, the
    records by `Frame.parse_append`. -/
theorem feed_append (reader : FrameReader) (xs ys : List UInt8) :
    reader.feed (xs ++ ys) =
      ((reader.feed xs).1 ++ ((reader.feed xs).2.feed ys).1, ((reader.feed xs).2.feed ys).2) := by
  simp only [feed, Text.Utf8.decode_append, ← List.append_assoc,
    Frame.parse_append (reader.text ++ _)]

/-- A colon and a line end: whatever is open goes on with a new line after them. -/
theorem feed_colon {reader : FrameReader} (settled : reader.Settled) (bytes : List UInt8) :
    ∃ draft start, (reader.feed (0x3A :: 0x0A :: bytes)).1 =
      (Frame.parseFrom draft start (Text.Utf8.decode [] bytes).1).1 := by
  obtain ⟨draft, line, whole, resumes⟩ := Frame.resumes_remainder (Frame.resumes_fresh reader.text)
  rw [← Frame.parse, settled] at resumes
  obtain ⟨lead, plain, decoded⟩ : ∃ lead : List Char, '\n' ∉ lead ∧
      (Text.Utf8.decode reader.begun (0x3A :: 0x0A :: bytes)).1 =
        lead ++ ':' :: '\n' :: (Text.Utf8.decode [] bytes).1 := by
    refine ⟨if reader.begun.isEmpty then [] else [Text.Utf8.replacement], ?_, ?_⟩
    · split <;> decide
    · simp only [Text.Utf8.decode]
      rw [Text.Utf8.step_ascii _ (by decide), Text.Utf8.step_ascii _ (by decide)]
      simp [Text.Utf8.charOf]
  have split : line ++ (lead ++ ':' :: '\n' :: (Text.Utf8.decode [] bytes).1) =
      (line ++ lead ++ [':']) ++ '\n' :: (Text.Utf8.decode [] bytes).1 := by simp
  have cut := Frame.cutLine_line (Text.Utf8.decode [] bytes).1
    (show '\n' ∉ line ++ lead ++ [':'] by simp [whole, plain])
  refine ⟨draft.read (Frame.withoutReturn (line ++ lead ++ [':'])),
    reader.text ++ (Text.Utf8.decode reader.begun (0x3A :: 0x0A :: bytes)).1, ?_⟩
  simp only [feed]
  rw [decoded, resumes, split,
    Frame.parseFrom_field draft _ cut (Frame.withoutReturn_concat _ (by decide))]

/-- Some reads, one after the other: all the records they complete, and the reader after them. -/
def feedAll (reader : FrameReader) : List (List UInt8) → List Frame × FrameReader
  | [] => ([], reader)
  | bytes :: rest =>
    let (frames, reader) := reader.feed bytes
    let (more, reader) := feedAll reader rest
    (frames ++ more, reader)

theorem feedAll_eq_feed {reader : FrameReader} (settled : reader.Settled)
    (reads : List (List UInt8)) : reader.feedAll reads = reader.feed reads.flatten := by
  induction reads generalizing reader with
  | nil => exact (feed_nil settled).symm
  | cons bytes rest ih =>
      rw [List.flatten_cons, feed_append]
      simp only [feedAll, ih (settled_feed reader bytes)]

/-- However the bytes of a body are cut into reads, a new reader gives the same records in the same
    order, keeps the same text of an open record and holds back the same bytes of a character. -/
theorem feedAll_eq_feed_flatten (reads : List (List UInt8)) :
    ({} : FrameReader).feedAll reads = ({} : FrameReader).feed reads.flatten :=
  feedAll_eq_feed settled_new reads

end FrameReader

end Viva
