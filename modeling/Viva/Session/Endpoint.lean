import Viva.Failure
import Viva.Media.Blob
import Viva.Media.Encoder

/-! # What a session asks of the server

Every request belongs to an assignment or an attempt and carries the learner's token: in a header,
or in the query where the request opens a standing connection.
-/

namespace Viva

inductive Endpoint where
  /-- Begin an attempt; the answer streams the interviewer's first message. -/
  | start (assignmentId : String)
  /-- A message of the learner; the answer streams the interviewer's reply. -/
  | message (attemptId content : String)
  /-- The standing connection of an attempt. -/
  | stream (attemptId : String)
  /-- A part of the recording. -/
  | chunk (attemptId : String) (blob : Blob) (sequence : Nat)
  /-- The whole recording. -/
  | video (attemptId : String) (blob : Blob)
  /-- The attempt is over. -/
  | complete (attemptId : String)
  deriving Repr, DecidableEq

inductive Method where
  | get
  | post
  deriving Repr, DecidableEq

/-- One part of a form. -/
inductive Part where
  | text (name value : String)
  | file (name fileName : String) (blob : Blob)
  deriving Repr, DecidableEq

/-- What a request carries. -/
inductive RequestBody where
  | none
  /-- A JSON object with these texts. -/
  | json (members : List (String × String))
  | form (parts : List Part)
  deriving Repr, DecidableEq

/-- A request as it is handed to the network. -/
structure Request where
  method : Method
  /-- The address, without the query. -/
  url : String
  accept : Option String := none
  authorization : Option String := none
  query : List (String × String) := []
  body : RequestBody := .none
  deriving Repr, DecidableEq

/-- What the server is asked for, without the particulars. -/
inductive Route where
  | start
  | message
  | stream
  | chunks
  | video
  | complete
  deriving Repr, DecidableEq

namespace Endpoint

/-- What is asked for, without the particulars. -/
def route : Endpoint → Route
  | start _ => .start
  | message _ _ => .message
  | stream _ => .stream
  | chunk _ _ _ => .chunks
  | video _ _ => .video
  | complete _ => .complete

/-- The answer is a stream of events. -/
def eventStream : String := "text/event-stream"

/-- The header that carries a token. -/
def bearer (token : String) : String := "Bearer " ++ token

/-- The name of the file with a part of the recording. -/
def chunkFileName (sequence : Nat) : String :=
  "chunk-" ++ Encoder.padded 5 sequence ++ ".webm"

/-- The request for an endpoint, sent with a token. -/
def request (baseUrl token : String) (endpoint : Endpoint) : Request :=
  let url (owner tail : String) : String := baseUrl ++ "/api/assessments/" ++ owner ++ tail
  let authorization := some (bearer token)
  match endpoint with
  | start assignmentId =>
    { method := .post, url := url assignmentId "/start", accept := some eventStream
      authorization, body := .json [] }
  | message attemptId content =>
    { method := .post, url := url attemptId "/message", accept := some eventStream
      authorization, body := .json [("content", content)] }
  | stream attemptId =>
    { method := .get, url := url attemptId "/stream", accept := some eventStream
      query := [("token", token)] }
  | chunk attemptId blob sequence =>
    { method := .post, url := url attemptId "/video/chunks", authorization
      body := .form [.text "sequence" (toString sequence),
        .file "chunk" (chunkFileName sequence) blob] }
  | video attemptId blob =>
    { method := .post, url := url attemptId "/video", authorization
      body := .form [.file "video" "recording.webm" blob] }
  | complete attemptId =>
    { method := .post, url := url attemptId "/complete", authorization, body := .json [] }

/-- The address that all requests start with: without slashes at its end. -/
def trimmedUrl (baseUrl : String) : String :=
  String.ofList (baseUrl.toList.reverse.dropWhile (· == '/')).reverse

end Endpoint

/-- How a request was answered, before anything of the answer's body is read. -/
inductive Answer where
  | status (code : Nat)
  /-- There was no answer; the network may know a status all the same. -/
  | failed (detail : String) (status : Option Nat)
  deriving Repr, DecidableEq

namespace Answer

/-- The failure that a status means. -/
def ofStatus (code : Nat) : Failure :=
  if code = 401 then .unauthorized else .http code

/-- Whether the request succeeded. -/
def check : Answer → Except Failure Unit
  | status code => if 200 ≤ code ∧ code < 300 then .ok () else .error (ofStatus code)
  | failed _ (some code) => .error (ofStatus code)
  | failed detail none => .error (.network detail)

end Answer

end Viva
