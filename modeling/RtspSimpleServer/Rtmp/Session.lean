import RtspSimpleServer.Stream.Readers

/-!
# The subscriptions of an RTMP reader

`rtmpConn.runRead` subscribes the connection to the first H.264 format and to the first audio format
it serves, and `runPublish` announces the connection's video and audio formats.  However `runRead`
returns, the stream is left with the subscriptions it had before the connection came.
-/

namespace RtspSimpleServer
namespace RtmpConn

open Stream

variable {Config Reader : Type}

/-- `rtmpConn.setupVideo`: the media and the format it subscribes the connection to. -/
def setupVideo (medias : List (List (MediaFormat Config))) : Option (Nat × MediaFormat Config) :=
  findFormat medias MediaFormat.isH264

/-- `rtmpConn.setupAudio`: the media and the format it subscribes the connection to. -/
def setupAudio (medias : List (List (MediaFormat Config))) : Option (Nat × MediaFormat Config) :=
  match findFormat medias MediaFormat.isMPEG4AudioGeneric with
  | some found => some found
  | none =>
    match findFormat medias MediaFormat.isMPEG4AudioLATM with
    | some (media, .mpeg4AudioLATM (some [[config]])) =>
        some (media, .mpeg4AudioLATM (some [[config]]))
    | _ => findFormat medias MediaFormat.isMPEG1Audio

/-- The Go type name `%T` prints for a format. -/
def formatTypeName : MediaFormat Config → String
  | .av1 => "*format.AV1"
  | .vp9 => "*format.VP9"
  | .h264 => "*format.H264"
  | .h265 => "*format.H265"
  | .mpeg4AudioGeneric _ => "*format.MPEG4AudioGeneric"
  | .mpeg4AudioLATM _ => "*format.MPEG4AudioLATM"
  | .opus _ => "*format.Opus"
  | .mpeg1Audio => "*format.MPEG1Audio"
  | .other typeName => typeName

/-- The media `rtmpConn.runPublish` announces for the video format of the connection's
`rtmp.Reader`, or its error. -/
def publishVideo : Option (MediaFormat Config) → Except String (List (List (MediaFormat Config)))
  | none => .ok []
  | some format =>
    match format with
    | .av1 | .vp9 | .h265 | .h264 => .ok [[format]]
    | _ => .error ("unsupported video codec: " ++ formatTypeName format)

/-- The media `rtmpConn.runPublish` announces for the audio format of the connection's
`rtmp.Reader`, or its error. -/
def publishAudio : Option (MediaFormat Config) → Except String (List (List (MediaFormat Config)))
  | none => .ok []
  | some format =>
    match format with
    | .mpeg4AudioGeneric _ | .mpeg1Audio => .ok [[format]]
    | _ => .error ("unsupported audio codec: " ++ formatTypeName format)

/-- The description `rtmpConn.runPublish` hands to `path.startPublisher`, or the error it returns
first. -/
def publishDescription (videoFormat audioFormat : Option (MediaFormat Config)) :
    Except String (List (List (MediaFormat Config))) := do
  let video ← publishVideo videoFormat
  let audio ← publishAudio audioFormat
  pure (video ++ audio)

/-- `rtmpConn.runRead` from the path manager's answer on.  The answer is the description of the
path's stream, or an error; then come the error `rtmp.NewWriter` returns and how the serving
ends.  The result is the stream's subscriptions when `runRead` returns, and the error it
returns. -/
def runRead [DecidableEq Reader] (c : Reader)
    (addReader : Except String (List (List (MediaFormat Config)))) (newWriter : Option String)
    (finish : ReadEnd) (subscriptions : List (Subscription Reader Config)) :
    List (Subscription Reader Config) × String :=
  match addReader with
  | .error err => (subscriptions, err)
  | .ok medias =>
    let video := setupVideo medias
    let audio := setupAudio medias
    let subscriptions := addReaders subscriptions c (video.toList ++ audio.toList)
    if video.isNone && audio.isNone then
      (subscriptions, "the stream doesn't contain any supported codec, " ++
        "which are currently H264, MPEG-4 Audio, MPEG-1/2 Audio")
    else
      (removeReader subscriptions c,
        match newWriter with
        | some err => err
        | none => finish.err)

/-- Whichever way `runRead` returns (the path manager refusing the reader, no format to serve,
the RTMP writer failing, the context ending or the writer failing), the stream is left with the
subscriptions it had before the connection came. -/
theorem runRead_subscriptions [DecidableEq Reader] (c : Reader)
    (addReader : Except String (List (List (MediaFormat Config)))) (newWriter : Option String)
    (finish : ReadEnd) {subscriptions : List (Subscription Reader Config)}
    (fresh : ∀ s ∈ subscriptions, s.reader ≠ c) :
    (runRead c addReader newWriter finish subscriptions).1 = subscriptions := by
  cases addReader with
  | error err => rfl
  | ok medias =>
    simp only [runRead]
    split
    · rename_i neither
      simp only [Bool.and_eq_true, Option.isNone_iff_eq_none] at neither
      simp [neither.1, neither.2]
    · exact removeReader_addReaders fresh _

/-- A reader of a stream with an H.264 and an MPEG-4 Audio track, beside another reader. -/
theorem runRead_subscriptions_videoAudio :
    let subscriptions : List (Subscription Nat Unit) := [⟨0, 0, .h264⟩]
    (∀ s ∈ subscriptions, s.reader ≠ 1) ∧
      (runRead 1 (.ok [[.h264], [.mpeg4AudioGeneric ()]]) none .terminated subscriptions).1 =
        subscriptions :=
  ⟨by decide, runRead_subscriptions 1 _ _ _ (by decide)⟩

end RtmpConn
end RtspSimpleServer
