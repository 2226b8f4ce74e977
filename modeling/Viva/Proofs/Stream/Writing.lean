import Viva.Proofs.Stream.Framing

/-! # Records as they may be written

Whoever writes a record has some choice: every line ends as it likes, comments may stand before any
line, and a record without data need not have a data line. A `Frame.Writing` is a record with all
these choices made. `Frame.parseText_written` says that none of them shows: the records are read as
they were, and a text behind them in which no record is closed is what remains.
-/

namespace Viva.Frame

/-- How a line ends. -/
inductive LineEnd where
  | lf
  | crlf
  deriving Repr, DecidableEq

def LineEnd.chars : LineEnd → List Char
  | .lf => ['\n']
  | .crlf => ['\r', '\n']

/-- A text that may be the end of a line: neither it nor its last character is taken for the end of
    the line itself. -/
structure FitsLine (text : List Char) : Prop where
  whole : '\n' ∉ text
  last : text.getLast? ≠ some '\r'

/-- A comment: what stands behind its colon, and how its line ends. -/
structure Comment where
  text : List Char
  ending : LineEnd
  whole : '\n' ∉ text

def Comment.chars (comment : Comment) : List Char :=
  ':' :: comment.text ++ comment.ending.chars

/-- What stands around a line of a record: the comments before it, and its end. -/
structure Setting where
  comments : List Comment := []
  ending : LineEnd := .lf

def Setting.write (setting : Setting) (line : List Char) : List Char :=
  setting.comments.flatMap Comment.chars ++ line ++ setting.ending.chars

/-- A record, and how each of its lines is written. -/
structure Writing where
  frame : Frame
  event : Setting := {}
  /-- There is no data line without this. -/
  data : Option Setting := some {}
  blank : Setting := {}
  event_fits : FitsLine frame.event.toList
  data_fits : FitsLine frame.data.toList
  data_of_none : data = none → frame.data = ""

namespace Writing

def eventLine (w : Writing) : List Char :=
  "event: ".toList ++ w.frame.event.toList

def dataLine (w : Writing) : List Char :=
  "data: ".toList ++ w.frame.data.toList

/-- The data line, unless it is left out. -/
def dataChars (w : Writing) : List Char :=
  match w.data with
  | some setting => setting.write w.dataLine
  | none => []

def chars (w : Writing) : List Char :=
  w.event.write w.eventLine ++ w.dataChars ++ w.blank.write []

end Writing

/-! ## Lines -/

theorem withoutReturn_of_last {line : List Char} (last : line.getLast? ≠ some '\r') :
    withoutReturn line = line := by
  induction line using withoutReturn.induct with
  | case1 => rfl
  | case2 => exact absurd rfl last
  | case3 c rest notReturn ih =>
      rw [withoutReturn.eq_3 c rest notReturn]
      cases rest with
      | nil => rfl
      | cons d rest => rw [ih (by simpa only [List.getLast?_cons_cons] using last)]

theorem withoutReturn_return (line : List Char) : withoutReturn (line ++ ['\r']) = line := by
  induction line with
  | nil => rfl
  | cons c line ih =>
      rw [List.cons_append, withoutReturn.eq_3 _ _ (by simp), ih]

theorem isEmpty_withoutReturn {line : List Char} :
    (withoutReturn line).isEmpty = true ↔ line = [] ∨ line = ['\r'] := by
  induction line using withoutReturn.induct with
  | case1 | case2 => simp [withoutReturn]
  | case3 c rest notReturn _ =>
      rw [withoutReturn.eq_3 c rest notReturn]
      simpa using notReturn

theorem eq_of_cutLine {text line rest : List Char} (cut : cutLine text = some (line, rest)) :
    text = line ++ '\n' :: rest ∧ '\n' ∉ line := by
  induction text generalizing line with
  | nil => cases cut
  | cons c text ih =>
      simp only [cutLine] at cut
      split at cut
      · rename_i isEnd
        simp only [Option.some.injEq, Prod.mk.injEq] at cut
        obtain ⟨rfl, rfl⟩ := cut
        simp [isEnd]
      · rename_i notEnd
        obtain ⟨⟨line', rest'⟩, inText, same⟩ := Option.map_eq_some_iff.mp cut
        simp only [Prod.mk.injEq] at same
        obtain ⟨rfl, rfl⟩ := same
        obtain ⟨rfl, whole⟩ := ih inText
        exact ⟨rfl, by simp [whole, Ne.symm notEnd]⟩

/-- A written line is cut off with nothing but a CR of its end on it. -/
theorem cutLine_ending {line : List Char} (whole : '\n' ∉ line) (ending : LineEnd)
    (rest : List Char) : ∃ raw, cutLine (line ++ ending.chars ++ rest) = some (raw, rest) ∧
      (raw = line ∨ raw = line ++ ['\r']) := by
  cases ending with
  | lf =>
      refine ⟨line, ?_, .inl rfl⟩
      simpa [LineEnd.chars] using cutLine_line rest whole
  | crlf =>
      refine ⟨line ++ ['\r'], ?_, .inr rfl⟩
      have solid : '\n' ∉ line ++ ['\r'] := by simp [whole]
      simpa [LineEnd.chars] using cutLine_line rest solid

/-- A line is read as it was before its end was written. -/
theorem FitsLine.cut {line : List Char} (fits : FitsLine line) (ending : LineEnd)
    (rest : List Char) : ∃ raw, cutLine (line ++ ending.chars ++ rest) = some (raw, rest) ∧
      withoutReturn raw = line := by
  obtain ⟨raw, cut, rfl | rfl⟩ := cutLine_ending fits.whole ending rest
  · exact ⟨raw, cut, withoutReturn_of_last fits.last⟩
  · exact ⟨_, cut, withoutReturn_return line⟩

theorem FitsLine.nil : FitsLine [] :=
  ⟨List.not_mem_nil, by simp⟩

/-- What stands before the value of a field does not end the line either. -/
theorem FitsLine.append {name value : List Char} (named : FitsLine name) (fits : FitsLine value) :
    FitsLine (name ++ value) where
  whole := by simp [named.whole, fits.whole]
  last := by
    rw [List.getLast?_append]
    cases last : value.getLast? with
    | none => exact named.last
    | some c => exact fun isReturn => fits.last (last.trans isReturn)

/-! ## What a draft makes of a line -/

theorem read_comment (draft : Draft) (text : List Char) : draft.read (':' :: text) = draft := rfl

theorem read_event (draft : Draft) (value : List Char) :
    draft.read ("event: ".toList ++ value) = { draft with event := some value } := rfl

theorem read_data (draft : Draft) (value : List Char) :
    draft.read ("data: ".toList ++ value) = { draft with data := some value } := rfl

/-- A comment says nothing. -/
theorem parseFrom_comment (draft : Draft) (start : List Char) (comment : Comment)
    (rest : List Char) :
    parseFrom draft start (comment.chars ++ rest) = parseFrom draft start rest := by
  have whole : '\n' ∉ ':' :: comment.text := by simp [comment.whole]
  obtain ⟨raw, cut, ended⟩ := cutLine_ending whole comment.ending rest
  obtain ⟨text, read⟩ : ∃ text, withoutReturn raw = ':' :: text := by
    rcases ended with rfl | rfl <;> exact ⟨_, withoutReturn.eq_3 _ _ (by simp)⟩
  rw [Comment.chars, parseFrom_field draft start cut (by rw [read]; rfl), read, read_comment]

theorem parseFrom_comments (draft : Draft) (start : List Char) (comments : List Comment)
    (rest : List Char) :
    parseFrom draft start (comments.flatMap Comment.chars ++ rest) =
      parseFrom draft start rest := by
  induction comments with
  | nil => rfl
  | cons comment comments ih =>
      rw [List.flatMap_cons, List.append_assoc, parseFrom_comment, ih]

/-- A line of a record sets its field, however it is written. -/
theorem parseFrom_write {line : List Char} (draft : Draft) (start : List Char) (setting : Setting)
    (fits : FitsLine line) (field : line.isEmpty = false) (rest : List Char) :
    parseFrom draft start (setting.write line ++ rest) =
      parseFrom (draft.read line) start rest := by
  obtain ⟨raw, cut, read⟩ := fits.cut setting.ending rest
  rw [Setting.write, List.append_assoc, List.append_assoc, parseFrom_comments, ← List.append_assoc,
    parseFrom_field draft start cut (read ▸ field), read]

/-- A blank line closes the record, however it is written. -/
theorem parseFrom_write_nil (draft : Draft) (start : List Char) (setting : Setting)
    (rest : List Char) :
    parseFrom draft start (setting.write [] ++ rest) =
      (draft.close ++ (parse rest).1, (parse rest).2) := by
  obtain ⟨raw, cut, read⟩ := FitsLine.nil.cut setting.ending rest
  rw [Setting.write, List.append_assoc, List.append_assoc, parseFrom_comments, ← List.append_assoc,
    parseFrom_blank draft start cut (by rw [read]; rfl)]

/-! ## Records -/

namespace Writing

variable (w : Writing)

theorem eventLine_fits : FitsLine w.eventLine :=
  .append ⟨by decide, by decide⟩ w.event_fits

theorem dataLine_fits : FitsLine w.dataLine :=
  .append ⟨by decide, by decide⟩ w.data_fits

/-- The draft that a written record leaves is closed to the record. -/
theorem parseFrom_data (start rest : List Char) :
    parseFrom { event := some w.frame.event.toList } start
        (w.dataChars ++ (w.blank.write [] ++ rest)) =
      (w.frame :: (parse rest).1, (parse rest).2) := by
  rw [dataChars]
  cases data : w.data with
  | none =>
      simp only [List.nil_append, parseFrom_write_nil, Draft.close, Option.getD_none,
        String.ofList_toList, List.singleton_append]
      rw [show String.ofList [] = w.frame.data from (w.data_of_none data).symm]
  | some setting =>
      have field : w.dataLine.isEmpty = false := rfl
      have named : Draft.read { event := some w.frame.event.toList } w.dataLine =
          { event := some w.frame.event.toList, data := some w.frame.data.toList } := read_data _ _
      rw [parseFrom_write _ start setting w.dataLine_fits field, named, parseFrom_write_nil]
      simp only [Draft.close, Option.getD_some, String.ofList_toList, List.singleton_append]

end Writing

/-- A record that is written is the first to be read. -/
theorem parse_written (w : Writing) (rest : List Char) :
    parse (w.chars ++ rest) = (w.frame :: (parse rest).1, (parse rest).2) := by
  have field : w.eventLine.isEmpty = false := rfl
  have named : Draft.read {} w.eventLine = { event := some w.frame.event.toList } :=
    read_event {} _
  have split : w.chars ++ rest = w.event.write w.eventLine ++
      (w.dataChars ++ (w.blank.write [] ++ rest)) := by
    rw [Writing.chars, List.append_assoc, List.append_assoc]
  calc parse (w.chars ++ rest)
      = parseFrom {} (w.chars ++ rest)
          (w.event.write w.eventLine ++ (w.dataChars ++ (w.blank.write [] ++ rest))) := by
        rw [parse, ← split]
    _ = parseFrom { event := some w.frame.event.toList } (w.chars ++ rest)
          (w.dataChars ++ (w.blank.write [] ++ rest)) := by
        rw [parseFrom_write _ _ _ w.eventLine_fits field, named]
    _ = (w.frame :: (parse rest).1, (parse rest).2) := w.parseFrom_data _ rest

theorem parse_writings (records : List Writing) (rest : List Char) :
    parse (records.flatMap Writing.chars ++ rest) =
      (records.map Writing.frame ++ (parse rest).1, (parse rest).2) := by
  induction records with
  | nil => rfl
  | cons w records ih =>
      rw [List.flatMap_cons, List.append_assoc, parse_written, ih]
      rfl

/-- The lines of a text that end. -/
def lines (text : List Char) : List (List Char) :=
  (text.splitOn '\n').dropLast

theorem lines_of_cutLine {text line rest : List Char} (cut : cutLine text = some (line, rest)) :
    lines text = line :: lines rest := by
  obtain ⟨rfl, whole⟩ := eq_of_cutLine cut
  have others : ∀ c ∈ line, (c == '\n') = false := fun c among => by
    simpa using ne_of_mem_of_not_mem among whole
  rw [lines, List.splitOn_eq_splitOnP,
    List.splitOnP_append_cons_of_forall_mem others '\n' (by simp),
    ← List.splitOn_eq_splitOnP, List.dropLast_cons_of_ne_nil (List.splitOn_ne_nil _ _)]
  rfl

/-- A text in which no record is closed is kept as it is. -/
theorem parseFrom_unclosed {text : List Char} (draft : Draft) (start : List Char)
    (unclosed : ∀ line ∈ lines text, line ≠ [] ∧ line ≠ ['\r']) :
    parseFrom draft start text = ([], start) := by
  fun_induction parseFrom draft start text with
  | case1 draft start text cut => rfl
  | case2 draft start text line after cut _ blank frames remainder closed ih =>
      have first := unclosed line (by simp [lines_of_cutLine cut])
      exact absurd (isEmpty_withoutReturn.mp blank) (not_or.mpr first)
  | case3 draft start text line after cut _ field ih =>
      exact ih fun later among => unclosed later (by simp [lines_of_cutLine cut, among])

/-- Records are read as they were written, whatever ends their lines and whatever comments stand
    between, and the text behind them remains as it is if no record is closed in it. -/
theorem parseText_written (records : List Writing) (rest : String)
    (unclosed : ∀ line ∈ lines rest.toList, line ≠ [] ∧ line ≠ ['\r']) :
    parseText (String.ofList (records.flatMap Writing.chars) ++ rest) =
      (records.map Writing.frame, rest) := by
  have remains : parse rest.toList = ([], rest.toList) := parseFrom_unclosed {} _ unclosed
  simp only [parseText, String.toList_append, String.toList_ofList, parse_writings, remains,
    List.append_nil, String.ofList_toList]

/-- Data that look like a field of their own, a comment and a CRLF; a record without name and data;
    and the beginning of a third record. -/
theorem parseText_written_partial :
    let odd : Writing :=
      { frame := ⟨"token", " event: a\rb"⟩
        event := ⟨[⟨" data: none".toList, .crlf, by decide⟩], .crlf⟩
        blank := ⟨[⟨"\r".toList, .lf, by decide⟩], .crlf⟩
        event_fits := ⟨by decide, by decide⟩
        data_fits := ⟨by decide, by decide⟩
        data_of_none := by simp }
    let bare : Writing :=
      { frame := ⟨"", ""⟩
        data := none
        event_fits := .nil
        data_fits := .nil
        data_of_none := fun _ => rfl }
    (∀ line ∈ lines "event: done\r\n\rdata:".toList, line ≠ [] ∧ line ≠ ['\r']) ∧
      parseText (String.ofList ([odd, bare].flatMap Writing.chars) ++ "event: done\r\n\rdata:") =
        ([⟨"token", " event: a\rb"⟩, ⟨"", ""⟩], "event: done\r\n\rdata:") := by
  intro odd bare
  have unclosed : ∀ line ∈ lines "event: done\r\n\rdata:".toList, line ≠ [] ∧ line ≠ ['\r'] := by
    decide
  exact ⟨unclosed, parseText_written [odd, bare] _ unclosed⟩

end Viva.Frame
