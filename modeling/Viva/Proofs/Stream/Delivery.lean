import Viva.Proofs.Json.Quoting
import Viva.Proofs.Stream.Cancellation
import Viva.Proofs.Stream.Writing
import Viva.Proofs.Text.Utf8

/-! # Tokens are delivered as they were sent

A piece of the interviewer's message is sent as a `token` record: its text in quotes, on one line.
`Consumption.follow_tokens` says that the text comes out as it went in, whatever characters it holds
and wherever the bytes of the body are cut into reads.
-/

namespace Viva

/-- Nothing is trimmed off a text that neither begins nor ends with a blank. -/
theorem Text.trimChars_of_ends {first last : Char} (middle : List Char)
    (begins : isBlank first = false) (ends : isBlank last = false) :
    trimChars (first :: (middle ++ [last])) = first :: (middle ++ [last]) := by
  simp [trimChars, begins, ends]

/-! ## The event of a token record -/

namespace Event

/-- The data of a token record. -/
def tokenData (content : String) : String :=
  "\x7b\"content\":" ++ Json.quote content ++ "\x7d"

/-- A token record as it is sent. -/
def tokenRecord (content : String) : String :=
  "event: token\ndata: " ++ tokenData content ++ "\n\n"

theorem toList_tokenData (content : String) :
    (tokenData content).toList =
      '{' :: ((Json.quote "content").toList ++ ':' :: ((Json.quote content).toList ++ ['}'])) := by
  simp only [tokenData, String.toList_append, Json.toList_quote]
  rfl

/-- The data are an object with one member. -/
theorem ofText?_tokenData (content : String) :
    Json.Tree.ofText? (tokenData content).toList =
      some (.object [("content".toList.map Json.pieceOf,
        .string (content.toList.map Json.pieceOf))]) := by
  have closed : Json.Token.ofText? ['}'] = some [.closeObject] := by
    rw [Json.ofText?_scan rfl rfl, Json.Token.ofText?]
    rfl
  rw [Json.Tree.ofText?, toList_tokenData, Json.ofText?_scan rfl rfl, Json.ofText?_quote,
    Json.ofText?_scan rfl rfl, Json.ofText?_quote, closed]
  rfl

/-- The braces are no blanks, so nothing is trimmed. -/
theorem trimChars_tokenData (content : String) :
    Text.trimChars (tokenData content).toList = (tokenData content).toList := by
  have ends : (tokenData content).toList =
      '{' :: ((Json.quote "content").toList ++ ':' :: (Json.quote content).toList ++ ['}']) := by
    rw [toList_tokenData, List.append_assoc, List.cons_append]
  rw [ends]
  exact Text.trimChars_of_ends _ rfl rfl

theorem token?_content (content : String) :
    token? (.object [("content".toList.map Json.pieceOf,
      .string (content.toList.map Json.pieceOf))]) = some (.token content) := by
  have found (value : Json.Tree) : Payload.fields? tokenFields
      (.object [("content".toList.map Json.pieceOf, value)]) = some [some value] := rfl
  have text : Payload.requiredText? (some (.string (content.toList.map Json.pieceOf))) =
      some content := by
    rw [Payload.requiredText?, Json.Tree.text?, Json.textOf?_map_pieceOf, Option.map_some,
      String.ofList_toList]
  simp only [token?, found, text, Option.bind_eq_bind, Option.bind_some]

theorem decode_tokenData (content : String) :
    decode ⟨"token", tokenData content⟩ = .ok (.token content) := by
  have filled : (tokenData content).toList.isEmpty = false := by
    rw [toList_tokenData]
    rfl
  simp only [decode, trimChars_tokenData, ofData?, filled, Bool.false_eq_true, if_false,
    ofText?_tokenData, Option.bind_some, token?_content]

theorem tokenData_fits (content : String) : Frame.FitsLine (tokenData content).toList where
  whole := by simp [toList_tokenData, Json.newline_not_mem_quote]
  last := by
    have last : (tokenData content).toList.getLast? = some '}' := by
      rw [tokenData, String.toList_append]
      exact List.getLast?_concat
    rw [last]
    decide

/-- A token record as one way of writing its frame. -/
def tokenWriting (content : String) : Frame.Writing where
  frame := ⟨"token", tokenData content⟩
  event_fits := (⟨by decide, by decide⟩ : Frame.FitsLine "token".toList)
  data_fits := tokenData_fits content
  data_of_none := by simp

theorem chars_tokenWriting (content : String) :
    (tokenWriting content).chars =
      "event: ".toList ++ "token".toList ++ ['\n'] ++
        ("data: ".toList ++ (tokenData content).toList ++ ['\n']) ++ ['\n'] := rfl

theorem toList_tokenRecord (content : String) :
    (tokenRecord content).toList = (tokenWriting content).chars := by
  have lines : "event: token\ndata: ".toList =
      "event: ".toList ++ "token".toList ++ ['\n'] ++ "data: ".toList := by decide
  have ends : "\n\n".toList = ['\n'] ++ ['\n'] := rfl
  have record : tokenRecord content =
      "event: token\ndata: " ++ tokenData content ++ "\n\n" := rfl
  calc (tokenRecord content).toList
      = "event: token\ndata: ".toList ++ (tokenData content).toList ++ "\n\n".toList := by
        rw [record, String.toList_append, String.toList_append]
    _ = "event: ".toList ++ "token".toList ++ ['\n'] ++
          ("data: ".toList ++ (tokenData content).toList ++ ['\n']) ++ ['\n'] := by
        simp only [lines, ends, List.append_assoc]
    _ = (tokenWriting content).chars := (chars_tokenWriting content).symm

/-- The records of some tokens decode to the tokens. -/
theorem ofFrames_tokens (contents : List String) :
    Transcript.ofFrames ((contents.map tokenWriting).map Frame.Writing.frame) =
      ⟨contents.map .token, none⟩ := by
  induction contents with
  | nil => rfl
  | cons content rest ih =>
      have known : ofFrame? (tokenWriting content).frame = some (.token content) := by
        simp only [ofFrame?, tokenWriting, decode_tokenData]
      rw [List.map_cons, List.map_cons, Transcript.ofFrames_event _ known rfl, ih]
      rfl

end Event

/-- A standing connection that brought nothing but tokens comes to their number. -/
theorem Transcript.outcome_tokens (contents : List String) :
    (⟨contents.map .token, none⟩ : Transcript).outcome .eventSource none =
      .ok (.completed none contents.length) := by
  have noPayload : (contents.map Event.token).filterMap Event.donePayload? = [] := by
    simp [List.filterMap_map, Function.comp_def, Event.donePayload?]
  have allTokens : (contents.map Event.token).countP Event.isToken = contents.length := by
    simp [List.countP_map, Function.comp_def, Event.isToken]
  simp only [outcome, done?, tokenCount, noPayload, allTokens]
  rfl

/-- A body that holds some records of tokens and nothing else is read as these records. -/
theorem FrameReader.feed_tokens (contents : List String) :
    (({} : FrameReader).feed
      (Text.Utf8.encode (String.join (contents.map Event.tokenRecord)))).1 =
        (contents.map Event.tokenWriting).map Frame.Writing.frame := by
  have text : (String.join (contents.map Event.tokenRecord)).toList =
      (contents.map Event.tokenWriting).flatMap Frame.Writing.chars := by
    simp only [String.toList_join, List.flatMap_map, Event.toList_tokenRecord]
  have empty : Frame.parse [] = ([], []) := Frame.parseFrom_unfinished _ _ rfl
  have read := Frame.parse_writings (contents.map Event.tokenWriting) []
  rw [List.append_nil, empty, List.append_nil] at read
  simp only [feed, Text.Utf8.decode_encode, List.nil_append, text, read]

namespace Consumption

/-- However the bytes of a body are cut into reads, a stream of tokens reports them with the texts
    that were sent, in their order, and completes with their number. -/
theorem follow_tokens (contents : List String) (reads : List (List UInt8))
    (cut : reads.flatten = Text.Utf8.encode (String.join (contents.map Event.tokenRecord))) :
    follow .recording .eventSource id false {} [] (reads.map .bytes) =
      (some (.ok (.completed none contents.length)), contents.map .token) := by
  have arrivals : reads.map .bytes = (reads.map .ok : Body).map Arrival.ofRead := by
    rw [List.map_map]
    rfl
  have told := Event.ofFrames_tokens contents
  have followed := follow_eq_transcript (fun seen event => seen ++ [event]) id .eventSource []
    (reads.map .ok)
  rw [Body.bytes_map_ok, Body.failure?_map_ok, cut, FrameReader.feed_tokens, told] at followed
  rw [arrivals]
  refine followed.trans ?_
  rw [Transcript.outcome_tokens, foldl_concat, List.nil_append]

/-- A text with all that has to be escaped and a character of three bytes that is cut in two, and an
    empty one. -/
theorem follow_tokens_cut :
    let contents := ["\u2028\"\\\n\x01", ""]
    let body := Text.Utf8.encode (String.join (contents.map Event.tokenRecord))
    let reads := [body.take 33, [], body.drop 33]
    reads.flatten = body ∧
      follow .recording .eventSource id false {} [] (reads.map .bytes) =
        (some (.ok (.completed none 2)), contents.map .token) := by
  intro contents body reads
  have cut : reads.flatten = body := by decide +kernel
  exact ⟨cut, follow_tokens contents reads cut⟩

end Consumption

end Viva
