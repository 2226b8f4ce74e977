import Viva.Recorder.Basic
import Viva.Settings.Coercion
import Viva.Settings.Path
import Viva.Toml.Document

/-! # Settings

What the program is told before it starts: where the server is, where the token is kept, how to
record and how much to log. Settings come from a file, and variables of the environment go before
the file. Only the server's address has to be given.
-/

namespace Viva

/-- How to record, as it is set. -/
structure RecordingSettings where
  autoStart : Bool := false
  /-- Seconds after which to tell that the limit is reached; zero for no limit. -/
  maxDurationSecs : Nat := 0
  /-- Milliseconds between two uploads of chunks; zero for none. -/
  chunkUploadInterval : Nat := 10000
  /-- Milliseconds for which the page has to be visible again before recording goes on. -/
  visibilityResumeDelay : Nat := 500
  video : Bool := true
  audio : Bool := true
  /-- Milliseconds in a chunk. -/
  timeslice : Nat := 1000
  deriving Repr, DecidableEq

structure Settings where
  baseUrl : String
  /-- Seconds to wait for a connection. -/
  connectTimeout : Nat
  tokenPath : String
  recording : RecordingSettings
  level : String
  deriving Repr, DecidableEq

/-- The settings where only the server's address is given. -/
def Settings.initial (baseUrl : String) : Settings :=
  { baseUrl
    connectTimeout := 10
    tokenPath := "~/.config/assessment-session/token"
    recording := {}
    level := "info" }

/-- The options that the settings give a recorder. -/
def RecordingSettings.options (s : RecordingSettings) : RecordingOptions :=
  { constraints := ⟨s.video, s.audio⟩
    autoStart := s.autoStart
    maxDuration := s.maxDurationSecs * 1000
    chunkInterval := s.chunkUploadInterval
    resumeDelay := s.visibilityResumeDelay }

namespace Settings

/-- Why there are no settings. -/
inductive Refusal where
  /-- There is no file, or it is no document. -/
  | unreadable
  /-- A setting is missing, or is of another kind than the one wanted. -/
  | unfit
  deriving Repr, DecidableEq

/-- The refusal in words. -/
def Refusal.message : Refusal → String
  | unreadable => "failed to read the settings"
  | unfit => "invalid configuration"

/-- A group of settings: a table, or a list with the settings in their order. -/
inductive Group where
  | named (entries : List (String × Value))
  | ordered (items : List Value)

namespace Group

/-- The group that a value is. -/
def ofValue? : Value → Option Group
  | .table entries => some (.named entries)
  | .list items => some (.ordered items)
  | _ => none

/-- The setting with a name and a place in the order. -/
def get? (group : Group) (name : String) (place : Nat) : Option Value :=
  match group with
  | named entries => entries.lookup name
  | ordered items => items[place]?

/-- A setting that need not be given. -/
def optional {α : Type} (group : Group) (name : String) (place : Nat) (read : Value → Option α)
    (default : α) : Option α :=
  match group.get? name place with
  | none => some default
  | some v => read v

/-- A setting that has to be given. -/
def required {α : Type} (group : Group) (name : String) (place : Nat) (read : Value → Option α) :
    Option α :=
  (group.get? name place).bind read

end Group

/-- The settings for the server: its address and how long to wait for it. -/
def readServer (v : Value) : Option Settings := do
  let group ← Group.ofValue? v
  let settings := initial (← group.required "base_url" 0 Value.text?)
  let connectTimeout ←
    group.optional "connect_timeout_secs" 1 Value.count? settings.connectTimeout
  some { settings with connectTimeout }

/-- The setting for the token: where it is kept. -/
def readToken (tokenPath : String) (v : Value) : Option String := do
  (← Group.ofValue? v).optional "token_path" 0 Value.text? tokenPath

/-- The settings for recording. -/
def readRecording (s : RecordingSettings) (v : Value) : Option RecordingSettings := do
  let group ← Group.ofValue? v
  some
    { autoStart := ← group.optional "auto_start" 0 Value.flag? s.autoStart
      maxDurationSecs := ← group.optional "max_duration_secs" 1 Value.count? s.maxDurationSecs
      chunkUploadInterval :=
        ← group.optional "chunk_upload_interval_ms" 2 Value.count? s.chunkUploadInterval
      visibilityResumeDelay :=
        ← group.optional "visibility_resume_delay_ms" 3 Value.count? s.visibilityResumeDelay
      video := ← group.optional "video" 4 Value.flag? s.video
      audio := ← group.optional "audio" 5 Value.flag? s.audio
      timeslice := ← group.optional "timeslice_ms" 6 Value.count? s.timeslice }

/-- The setting for the log: how much to write. -/
def readLogging (level : String) (v : Value) : Option String := do
  (← Group.ofValue? v).optional "level" 0 Value.text? level

/-- The settings that a value gives. -/
def ofValue? (v : Value) : Option Settings := do
  let group ← Group.ofValue? v
  let s ← group.required "api" 0 readServer
  some
    { s with
      tokenPath := ← group.optional "auth" 1 (readToken s.tokenPath) s.tokenPath
      recording := ← group.optional "recording" 2 (readRecording s.recording) s.recording
      level := ← group.optional "logging" 3 (readLogging s.level) s.level }

/-- What the names of variables for settings start with. -/
def variableStart : List Char := "assessment__".toList

/-- A character with a capital letter made small. The Kelvin sign is the only capital letter outside
    ASCII with a small one inside. -/
def smallLetter (c : Char) : Char :=
  if c = '\u212A' then 'k' else c.toLower

/-- The name of a variable's setting, with each pair of underscores as a point. -/
def pointed : List Char → List Char
  | [] => []
  | '_' :: '_' :: rest => '.' :: pointed rest
  | c :: rest => c :: pointed rest

/-- The path of the setting that a variable gives. Case makes no difference. -/
def variablePath? (name : String) : Option String :=
  let name := name.toList.map smallLetter
  if variableStart.isPrefixOf name then
    some (String.ofList (pointed (name.drop variableStart.length)))
  else none

/-- A table with one more setting. -/
def give (settings : Value) (path : String) (v : Value) : Value :=
  Value.set v (Step.ofText path) (some settings)

/-- The table of all settings given: the outermost keys of the document are paths too, and variables
    come last. -/
def gathered (document : List (String × Toml.Value)) (vars : List (String × String)) :
    Value :=
  let fromFile := document.foldl (fun settings (path, v) => give settings path (Value.ofToml v))
    (.table [])
  vars.foldl (fun settings (name, s) =>
    match variablePath? name with
    | some path => give settings path (.text s)
    | none => settings) fromFile

/-- The settings in a file's content, when there is a file, and in variables. -/
def load (content : Option String) (vars : List (String × String)) :
    Except Refusal Settings :=
  match content.bind Toml.Document.ofText? with
  | none => .error .unreadable
  | some document =>
    match ofValue? (gathered document vars) with
    | none => .error .unfit
    | some settings => .ok settings

end Settings

end Viva
