/-! # Tracks and streams

A track is what a camera or a microphone delivers. Streams are lists of tracks and may share them:
a track that is stopped is stopped in every stream that holds it. So whether a track is live is not
kept in the track but in the `Hardware`, by the number that the track got when it was opened.
-/

namespace Viva

inductive TrackKind where
  | audio
  | video
  deriving Repr, DecidableEq, Inhabited

structure Track where
  id : String
  kind : TrackKind
  /-- Which device delivers it. -/
  device : Nat
  deriving Repr, DecidableEq, Inhabited

/-- Which of the devices opened so far still deliver. -/
structure Hardware where
  live : List Bool := []
  deriving Repr, DecidableEq, Inhabited

namespace Hardware

/-- The track still delivers. -/
def isLive (hardware : Hardware) (track : Track) : Bool :=
  hardware.live[track.device]?.getD false

/-- Opens a device: the track it delivers, and the hardware with it. -/
def openTrack (hardware : Hardware) (id : String) (kind : TrackKind) : Track × Hardware :=
  (⟨id, kind, hardware.live.length⟩, ⟨hardware.live ++ [true]⟩)

/-- Opens devices, one after the other. -/
def openAll (hardware : Hardware) : List (String × TrackKind) → List Track × Hardware
  | [] => ([], hardware)
  | (id, kind) :: rest =>
    let (track, hardware) := hardware.openTrack id kind
    let (tracks, hardware) := hardware.openAll rest
    (track :: tracks, hardware)

/-- Stops a track, wherever it is held. -/
def stop (hardware : Hardware) (track : Track) : Hardware :=
  ⟨hardware.live.set track.device false⟩

/-- Stops some tracks. -/
def stopAll (hardware : Hardware) (tracks : List Track) : Hardware :=
  tracks.foldl stop hardware

/-- Some track still delivers. -/
def anyLive (hardware : Hardware) (tracks : List Track) : Bool :=
  tracks.any hardware.isLive

end Hardware

/-- Tracks that were acquired together or mixed from such tracks. -/
structure MediaStream where
  tracks : List Track := []
  deriving Repr, DecidableEq, Inhabited

namespace MediaStream

/-- The tracks of one kind. -/
def tracksOf (stream : MediaStream) (kind : TrackKind) : List Track :=
  stream.tracks.filter (·.kind == kind)

/-- The video of one stream with the audio of another. -/
def withAudioFrom (stream other : MediaStream) : MediaStream :=
  ⟨stream.tracksOf .video ++ other.tracksOf .audio⟩

/-- Some track of the stream still delivers. -/
def isLive (stream : MediaStream) (hardware : Hardware) : Bool :=
  hardware.anyLive stream.tracks

end MediaStream

end Viva
