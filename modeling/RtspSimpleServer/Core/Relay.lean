import RtspSimpleServer.Rtmp.Session
import RtspSimpleServer.Core.SRT

/-!
# What the readers get of a stream published over RTMP

`rtmpConn.runPublish` accepts AV1, VP9, H.265 and H.264 video, where an RTMP reader serves only
H.264 and an SRT reader H.264 and H.265: a stream of the other codecs without audio is accepted
and has nothing these readers can serve.
-/

namespace RtspSimpleServer

open Stream

variable {Config : Type}

theorem RtmpConn.publishVideo_eq_ok {videoFormat : Option (MediaFormat Config)}
    {video : List (List (MediaFormat Config))} (published : publishVideo videoFormat = .ok video) :
    (videoFormat = none ∨ ∃ format ∈ [.av1, .vp9, .h265, .h264], videoFormat = some format) ∧
      video = videoFormat.toList.map ([·]) := by
  rcases videoFormat with _ | format
  · simp_all [publishVideo]
  · cases format <;> simp_all [publishVideo, eq_comm]

theorem RtmpConn.publishAudio_eq_ok {audioFormat : Option (MediaFormat Config)}
    {audio : List (List (MediaFormat Config))} (published : publishAudio audioFormat = .ok audio) :
    (audioFormat = none ∨ audioFormat = some .mpeg1Audio ∨
        ∃ config, audioFormat = some (.mpeg4AudioGeneric config)) ∧
      audio = audioFormat.toList.map ([·]) := by
  rcases audioFormat with _ | format
  · simp_all [publishAudio]
  · cases format <;> simp_all [publishAudio, eq_comm]

/-- A stream published over RTMP has nothing an RTMP reader can serve exactly when it has no
audio and its video is not H.264, and nothing an SRT reader can serve exactly when it has no
audio and its video is neither H.264 nor H.265. -/
theorem rtmpPublish_unreadable {videoFormat audioFormat : Option (MediaFormat Config)}
    {medias : List (List (MediaFormat Config))}
    (published : RtmpConn.publishDescription videoFormat audioFormat = .ok medias) :
    ((RtmpConn.setupVideo medias).isNone && (RtmpConn.setupAudio medias).isNone ↔
        audioFormat = none ∧ videoFormat ≠ some .h264) ∧
      (SrtConn.readTracks medias = [] ↔
        audioFormat = none ∧ videoFormat ≠ some .h264 ∧ videoFormat ≠ some .h265) := by
  obtain ⟨video, videoOk, audio, audioOk, rfl⟩ : ∃ video,
      RtmpConn.publishVideo videoFormat = .ok video ∧ ∃ audio,
        RtmpConn.publishAudio audioFormat = .ok audio ∧ medias = video ++ audio := by
    simp only [RtmpConn.publishDescription] at published
    cases videoOk : RtmpConn.publishVideo videoFormat <;>
      cases audioOk : RtmpConn.publishAudio audioFormat <;>
      simp_all [bind, Except.bind, pure, Except.pure]
  obtain ⟨videoCases, rfl⟩ := RtmpConn.publishVideo_eq_ok videoOk
  obtain ⟨audioCases, rfl⟩ := RtmpConn.publishAudio_eq_ok audioOk
  rcases audioCases with rfl | rfl | ⟨config, rfl⟩ <;>
    rcases videoCases with rfl | ⟨format, mem, rfl⟩
  all_goals
    try simp only [List.mem_cons, List.not_mem_nil, or_false] at mem
    try rcases mem with rfl | rfl | rfl | rfl
  all_goals simp [RtmpConn.setupVideo, RtmpConn.setupAudio, findFormat, MediaFormat.isH264,
    MediaFormat.isMPEG4AudioGeneric, MediaFormat.isMPEG4AudioLATM, MediaFormat.isMPEG1Audio,
    SrtConn.readTracks, SrtConn.readTrack, List.enum_cons, List.enumFrom_cons, List.findSome?_cons,
    List.find?_cons]

/-- An AV1 stream without audio, published over RTMP. -/
example :
    RtmpConn.publishDescription (some .av1) (none : Option (MediaFormat Unit)) = .ok [[.av1]] ∧
      (((RtmpConn.setupVideo [[(.av1 : MediaFormat Unit)]]).isNone &&
            (RtmpConn.setupAudio [[(.av1 : MediaFormat Unit)]]).isNone ↔
          (none : Option (MediaFormat Unit)) = none ∧ some .av1 ≠ some (.h264 : MediaFormat Unit)) ∧
        (SrtConn.readTracks [[(.av1 : MediaFormat Unit)]] = [] ↔
          (none : Option (MediaFormat Unit)) = none ∧ some .av1 ≠ some (.h264 : MediaFormat Unit) ∧
            some .av1 ≠ some (.h265 : MediaFormat Unit))) :=
  ⟨rfl, rtmpPublish_unreadable rfl⟩

end RtspSimpleServer
