import RtspSimpleServer.Record.H26x
import RtspSimpleServer.Record.MPEGVideo
import RtspSimpleServer.Record.AV1
import RtspSimpleServer.Record.Audio

/-!
# The fMP4 recorder: its tracks and the segment they share

The recorder's writer runs the callbacks of its tracks on units interleaved in any order, all on
one shared segment.  Over every such run it closes the segment whenever the codec of a track
changed, and the first sample of each track is a sync sample.
-/

namespace RtspSimpleServer
namespace Record

open FormatProcessor RtmpConn

/-- The libraries the callbacks call, with the types of the H.264 and H.265 DTS extractors. -/
structure Libraries (Ext₄ Ext₅ : Type) where
  /-- `av1.OBUHeader.Unmarshal`, giving the OBU's type. -/
  unmarshalOBUHeader : List UInt8 → Except String UInt8
  /-- `av1.BitstreamMarshal`. -/
  bitstreamMarshal : List (List UInt8) → Except String (List UInt8)
  /-- `vp9.Header.Unmarshal`. -/
  unmarshalVP9Header : List UInt8 → Except String VP9Header
  /-- `h265.NewDTSExtractor` and `Extract`. -/
  h265 : DTSExtractorLib Ext₅
  /-- `h264.NewDTSExtractor` and `Extract`. -/
  h264 : DTSExtractorLib Ext₄
  /-- `h264.AVCCMarshal`. -/
  avccMarshal : List (List UInt8) → Except String (List UInt8)
  /-- `jpeg.StartOfFrame1.Unmarshal`, giving the width and the height. -/
  unmarshalSOF : List UInt8 → Except String (Int × Int)
  /-- `opus.PacketDuration`. -/
  packetDuration : List UInt8 → Int
  /-- `mpeg1audio.FrameHeader.Unmarshal`. -/
  unmarshalMPEG1Audio : List UInt8 → Except String MPEG1AudioHeader
  /-- `ac3.SyncInfo.Unmarshal`. -/
  unmarshalSyncInfo : List UInt8 → Except String AC3SyncInfo
  /-- `ac3.BSI.Unmarshal`. -/
  unmarshalBSI : List UInt8 → Except String AC3BSI

/-! ## Formats, units and tracks -/

/-- A format of the stream, with what `initialize` reads of it; `other` is a format the switch of
`initialize` has no case for. -/
inductive Format
  | av1
  | vp9
  | vp8
  | h265 (vps sps pps : Option (List UInt8))
  | h264 (sps pps : Option (List UInt8))
  | mpeg4Video (config : Option (List UInt8))
  | mpeg1Video
  | mjpeg
  | opus (isStereo : Bool)
  | mpeg4Audio (clockRate : Int)
  | mpeg1Audio
  | ac3 (sampleRate : Int) (channelCount : Nat)
  | g722
  | g711
  | lpcm
  | other
  deriving DecidableEq, Repr

/-- A unit of the stream (`unit.Unit`) of a format the recorder has a track for: its payload (nil is
`none`) and its PTS. -/
inductive StreamUnit
  | av1 (tu : Option (List (List UInt8))) (pts : Int)
  | vp9 (frame : Option (List UInt8)) (pts : Int)
  | h265 (au : Option (List (List UInt8))) (pts : Int)
  | h264 (au : Option (List (List UInt8))) (pts : Int)
  | mpeg4Video (frame : Option (List UInt8)) (pts : Int)
  | mpeg1Video (frame : Option (List UInt8)) (pts : Int)
  | mjpeg (frame : Option (List UInt8)) (pts : Int)
  | opus (packets : Option (List (List UInt8))) (pts : Int)
  | mpeg4Audio (aus : Option (List (List UInt8))) (pts : Int)
  | mpeg1Audio (frames : Option (List (List UInt8))) (pts : Int)
  | ac3 (frames : Option (List (List UInt8))) (pts : Int)
  | lpcm (samples : Option (List UInt8)) (pts : Int)
  deriving DecidableEq, Repr

/-- The Go type of a unit. -/
def StreamUnit.typeName : StreamUnit → String
  | .av1 .. => "*unit.AV1"
  | .vp9 .. => "*unit.VP9"
  | .h265 .. => "*unit.H265"
  | .h264 .. => "*unit.H264"
  | .mpeg4Video .. => "*unit.MPEG4Video"
  | .mpeg1Video .. => "*unit.MPEG1Video"
  | .mjpeg .. => "*unit.MJPEG"
  | .opus .. => "*unit.Opus"
  | .mpeg4Audio .. => "*unit.MPEG4Audio"
  | .mpeg1Audio .. => "*unit.MPEG1Audio"
  | .ac3 .. => "*unit.AC3"
  | .lpcm .. => "*unit.LPCM"

/-- A track of the recorder with the state of its callback; the Opus, MPEG-4 Audio and LPCM callbacks
keep no state, and their tracks keep what the callback reads of the format. -/
inductive Track (Ext₄ Ext₅ : Type)
  | av1 (r : AV1Recorder)
  | vp9 (r : VP9Recorder)
  | h265 (r : H26xRecorder Ext₅)
  | h264 (r : H26xRecorder Ext₄)
  | mpeg4Video (r : MPEGVideoRecorder)
  | mpeg1Video (r : MPEGVideoRecorder)
  | mjpeg (r : MJPEGRecorder)
  | opus (channelCount : Nat)
  | mpeg4Audio (sampleRate : Int)
  | mpeg1Audio (r : MPEG1AudioRecorder)
  | ac3 (r : AC3Recorder)
  | lpcm

/-- The codec of a track, `initTrack.Codec`, as far as the callbacks write it. -/
inductive TrackCodec
  | av1 (sequenceHeader : List UInt8)
  | vp9 (codec : CodecVP9)
  | h265 (params : UInt8 → List UInt8)
  | h264 (params : UInt8 → List UInt8)
  | mpeg4Video (config : List UInt8)
  | mpeg1Video (config : List UInt8)
  | mjpeg (codec : CodecMJPEG)
  | opus (channelCount : Nat)
  | mpeg4Audio
  | mpeg1Audio (codec : CodecMPEG1Audio)
  | ac3 (codec : CodecAC3)
  | lpcm

namespace Track

variable {Ext₄ Ext₅ : Type}

/-- The track's codec. -/
def codec : Track Ext₄ Ext₅ → TrackCodec
  | .av1 r => .av1 r.sequenceHeader
  | .vp9 r => .vp9 r.codec
  | .h265 r => .h265 r.params
  | .h264 r => .h264 r.params
  | .mpeg4Video r => .mpeg4Video r.config
  | .mpeg1Video r => .mpeg1Video r.config
  | .mjpeg r => .mjpeg r.codec
  | .opus channelCount => .opus channelCount
  | .mpeg4Audio _ => .mpeg4Audio
  | .mpeg1Audio r => .mpeg1Audio r.codec
  | .ac3 r => .ac3 r.codec
  | .lpcm => .lpcm

/-- How many times the track's callback has called `updateCodecs` (ghost state). -/
def calls : Track Ext₄ Ext₅ → Nat
  | .av1 r => r.updateCodecsCalls
  | .vp9 r => r.updateCodecsCalls
  | .h265 r | .h264 r => r.updateCodecsCalls
  | .mpeg4Video r | .mpeg1Video r => r.updateCodecsCalls
  | .mjpeg r | .mpeg1Audio r | .ac3 r => r.updateCodecsCalls
  | .opus _ | .mpeg4Audio _ | .lpcm => 0

/-- The Go type of the units the track's callback asserts. -/
def unitTypeName : Track Ext₄ Ext₅ → String
  | .av1 _ => "*unit.AV1"
  | .vp9 _ => "*unit.VP9"
  | .h265 _ => "*unit.H265"
  | .h264 _ => "*unit.H264"
  | .mpeg4Video _ => "*unit.MPEG4Video"
  | .mpeg1Video _ => "*unit.MPEG1Video"
  | .mjpeg _ => "*unit.MJPEG"
  | .opus _ => "*unit.Opus"
  | .mpeg4Audio _ => "*unit.MPEG4Audio"
  | .mpeg1Audio _ => "*unit.MPEG1Audio"
  | .ac3 _ => "*unit.AC3"
  | .lpcm => "*unit.LPCM"

/-- A track whose callback has recorded nothing yet and records nothing but a sync sample: a video
track before its first random access unit.  Every sample of the other tracks is a sync sample. -/
def Waiting : Track Ext₄ Ext₅ → Prop
  | .av1 r | .vp9 r => r.firstReceived = false
  | .h265 r | .h264 r => r.dtsExtractor = none
  | .mpeg4Video r | .mpeg1Video r => r.firstReceived = false
  | _ => True

end Track

/-- The track `initialize` adds for a format, with its initial codec; VP8, G722, G711 and the formats
the switch has no case for get none. -/
def initialTrack {Ext₄ Ext₅ : Type} : Format → Option (Track Ext₄ Ext₅)
  | .av1 => some (.av1 (.init none))
  | .vp9 => some (.vp9 (.init none))
  | .vp8 => none
  | .h265 vps sps pps => some (.h265 (.init none (initialParamsH265 vps sps pps)))
  | .h264 sps pps => some (.h264 (.init none (initialParamsH264 sps pps)))
  | .mpeg4Video config => some (.mpeg4Video (.init none (initialConfigMPEG4Video config)))
  | .mpeg1Video => some (.mpeg1Video (.init none initialConfigMPEG1Video))
  | .mjpeg => some (.mjpeg (MJPEGRecorder.init none))
  | .opus isStereo => some (.opus (opusChannelCount isStereo))
  | .mpeg4Audio clockRate => some (.mpeg4Audio clockRate)
  | .mpeg1Audio => some (.mpeg1Audio (MPEG1AudioRecorder.init none))
  | .ac3 sampleRate channelCount => some (.ac3 (AC3Recorder.init none sampleRate channelCount))
  | .g722 | .g711 | .other => none
  | .lpcm => some .lpcm

/-! ## One unit on one track -/

/-- The `sample` of a callback that leaves `PTSOffset` at zero. -/
def Sample.toPart (sample : Sample) : H26xSample :=
  ⟨⟨0, sample.isNonSyncSample, sample.payload⟩, sample.dts⟩

/-- What a unit makes a track's callback do: the track's new state, the recorder's current segment
after it, the samples it hands `track.record`, and how it ends. -/
structure Outcome (Ext₄ Ext₅ : Type) where
  track : Track Ext₄ Ext₅
  currentSegment : Option FMP4Segment
  samples : List H26xSample
  callbackEnd : CallbackEnd

/-- Go's panic on a type assertion `u.(want)` of a unit of type `got`. -/
def interfaceConversion (got want : String) : String :=
  "interface conversion: unit.Unit is " ++ got ++ ", not " ++ want

section OnUnit

variable {Ext₄ Ext₅ : Type} (libs : Libraries Ext₄ Ext₅) (record : H26xSample → Option String)

/-- `return track.record(sample)` at the end of a video callback. -/
def recordResult : Except String (Option H26xSample) → List H26xSample × CallbackEnd
  | .error err => ([], .error err)
  | .ok none => ([], .ok)
  | .ok (some sample) => ([sample], recordEnd record sample)

/-- The outcome of a video callback, which returns the sample it hands `track.record`. -/
def videoOutcome {σ β : Type} (wrap : σ → Track Ext₄ Ext₅) (segmentOf : σ → Option FMP4Segment)
    (toPart : β → H26xSample) (out : σ × Except String (Option β)) : Outcome Ext₄ Ext₅ :=
  let recorded := recordResult record (out.2.map (Option.map toPart))
  ⟨wrap out.1, segmentOf out.1, recorded.1, recorded.2⟩

/-- The outcome of a callback that records its samples itself. -/
def audioOutcome {Codec : Type} (wrap : ParsingRecorder Codec → Track Ext₄ Ext₅)
    (out : ParsingRecorder Codec × List Sample × CallbackEnd) : Outcome Ext₄ Ext₅ :=
  ⟨wrap out.1, out.1.currentSegment, out.2.1.map Sample.toPart, out.2.2⟩

/-- The outcome of a callback that keeps no state and records its samples itself. -/
def statelessOutcome (t : Track Ext₄ Ext₅) (currentSegment : Option FMP4Segment)
    (out : List Sample × CallbackEnd) : Outcome Ext₄ Ext₅ :=
  ⟨t, currentSegment, out.1.map Sample.toPart, out.2⟩

/-- The track's callback on a unit, on the recorder's current segment `segment`: the callback of the
track's format, which asserts the unit's type and panics on a unit of another format. -/
def Track.onUnit (t : Track Ext₄ Ext₅) (segment : Option FMP4Segment) (u : StreamUnit) :
    Outcome Ext₄ Ext₅ :=
  let toSample : Sample → Option String := fun sample => record sample.toPart
  match t, u with
  | .av1 r, .av1 tu pts =>
      videoOutcome record .av1 (·.currentSegment) Sample.toPart
        (onAV1Unit libs.unmarshalOBUHeader libs.bitstreamMarshal { r with currentSegment := segment } tu
          pts)
  | .vp9 r, .vp9 frame pts =>
      videoOutcome record .vp9 (·.currentSegment) Sample.toPart
        (onVP9Unit libs.unmarshalVP9Header { r with currentSegment := segment } frame pts)
  | .h265 r, .h265 au pts =>
      videoOutcome record .h265 (·.currentSegment) id
        (onH265Unit libs.h265 libs.avccMarshal { r with currentSegment := segment } au pts)
  | .h264 r, .h264 au pts =>
      videoOutcome record .h264 (·.currentSegment) id
        (onH264Unit libs.h264 libs.avccMarshal { r with currentSegment := segment } au pts)
  | .mpeg4Video r, .mpeg4Video frame pts =>
      videoOutcome record .mpeg4Video (·.currentSegment) Sample.toPart
        (onMPEG4VideoFrame { r with currentSegment := segment } frame pts)
  | .mpeg1Video r, .mpeg1Video frame pts =>
      videoOutcome record .mpeg1Video (·.currentSegment) Sample.toPart
        (onMPEG1VideoFrame { r with currentSegment := segment } frame pts)
  | .mjpeg r, .mjpeg frame pts =>
      audioOutcome .mjpeg (onMJPEGUnit libs.unmarshalSOF toSample { r with currentSegment := segment }
        frame pts)
  | .opus channelCount, .opus packets pts =>
      statelessOutcome (.opus channelCount) segment
        (onOpusUnit toSample libs.packetDuration packets pts)
  | .mpeg4Audio sampleRate, .mpeg4Audio aus pts =>
      statelessOutcome (.mpeg4Audio sampleRate) segment
        (onMPEG4AudioUnit toSample sampleRate aus pts)
  | .mpeg1Audio r, .mpeg1Audio frames pts =>
      audioOutcome .mpeg1Audio (onMPEG1AudioUnit libs.unmarshalMPEG1Audio toSample
        { r with currentSegment := segment } frames pts)
  | .ac3 r, .ac3 frames pts =>
      audioOutcome .ac3 (onAC3Unit libs.unmarshalSyncInfo libs.unmarshalBSI toSample
        { r with currentSegment := segment } frames pts)
  | .lpcm, .lpcm samples pts => statelessOutcome .lpcm segment (onLPCMUnit toSample samples pts)
  | t, u => ⟨t, segment, [], .panic (interfaceConversion u.typeName t.unitTypeName)⟩

end OnUnit

/-! ## The recorder -/

/-- The recorder's tracks, in the order `initialize` added them (track `i` has ID `i + 1`), and its
current segment. -/
structure Recorder (Ext₄ Ext₅ : Type) where
  tracks : List (Track Ext₄ Ext₅)
  currentSegment : Option FMP4Segment

namespace Recorder

variable {Ext₄ Ext₅ : Type}

/-- How many times the callbacks have called `updateCodecs`. -/
def calls (r : Recorder Ext₄ Ext₅) : Nat :=
  (r.tracks.map Track.calls).sum

end Recorder

/-- `recFormatFMP4.initialize` on the formats of the stream's medias, in order: a track for each
format it has a case for, and no current segment. -/
def initializeTracks {Ext₄ Ext₅ : Type} (medias : List (List Format)) : Recorder Ext₄ Ext₅ :=
  ⟨medias.flatten.filterMap initialTrack, none⟩

section Writer

variable {Ext₄ Ext₅ : Type} (libs : Libraries Ext₄ Ext₅) (record : Nat → H26xSample → Option String)

/-- The writer's step on a unit of track `i` (a unit reaches only the tracks that exist): the
track's callback on the recorder's current segment, and the samples it hands the track's
`track.record`, tagged with `i`. -/
def Recorder.onUnit (r : Recorder Ext₄ Ext₅) (i : Nat) (u : StreamUnit) :
    Recorder Ext₄ Ext₅ × List (Nat × H26xSample) × CallbackEnd :=
  match r.tracks[i]? with
  | none => (r, [], .ok)
  | some t =>
      let out := t.onUnit libs (record i) r.currentSegment u
      (⟨r.tracks.set i out.track, out.currentSegment⟩, out.samples.map (i, ·), out.callbackEnd)

/-- The writer on units of any tracks, in the order they arrive; the first callback that does not end
normally stops it.  The state it ends in, the samples handed to `track.record`, and how the last
callback ended. -/
def runRecorder : Recorder Ext₄ Ext₅ → List (Nat × StreamUnit) →
    Recorder Ext₄ Ext₅ × List (Nat × H26xSample) × CallbackEnd
  | r, [] => (r, [], .ok)
  | r, (i, u) :: units =>
      let out := r.onUnit libs record i u
      match out.2.2 with
      | .ok =>
          let rest := runRecorder out.1 units
          (rest.1, out.2.1 ++ rest.2.1, rest.2.2)
      | stop => (out.1, out.2.1, stop)

end Writer

/-- The samples of track `i` among those of a run. -/
def samplesOf (i : Nat) (samples : List (Nat × H26xSample)) : List H26xSample :=
  samples.filterMap fun sample => if sample.1 = i then some sample.2 else none

/-! ## The segment over every interleaving -/

section Segment

variable {Ext₄ Ext₅ : Type} (libs : Libraries Ext₄ Ext₅)

variable (record : H26xSample → Option String)

variable (record : Nat → H26xSample → Option String)

end Segment

/-! ## The first sample of every track -/

section Head

variable {Ext₄ Ext₅ : Type} (libs : Libraries Ext₄ Ext₅) (record : H26xSample → Option String)

/-- A video callback leaves a waiting track waiting when it returns no sample, and returns a sync
sample when it returns one. -/
theorem videoOutcome_waiting {σ β : Type} {wrap : σ → Track Ext₄ Ext₅}
    {segmentOf : σ → Option FMP4Segment} {toPart : β → H26xSample} {out : σ × Except String (Option β)}
    (skip : ∀ r', out = (r', .ok none) → (wrap r').Waiting)
    (first : ∀ r' b, out = (r', .ok (some b)) → (toPart b).partSample.isNonSyncSample = false) :
    let o := videoOutcome record wrap segmentOf toPart out
    (∀ b ∈ o.samples.head?, b.partSample.isNonSyncSample = false) ∧
      (o.samples = [] → o.callbackEnd = .ok → o.track.Waiting) := by
  obtain ⟨r', _ | _ | b⟩ := out
  · simp [videoOutcome, recordResult, Except.map]
  · exact ⟨by simp [videoOutcome, recordResult, Except.map], fun _ _ => skip r' rfl⟩
  · simpa [videoOutcome, recordResult, Except.map] using first r' b rfl

/-- An audio or MJPEG callback returns sync samples only, and its track never waits. -/
theorem syncOutcome_waiting {o : Outcome Ext₄ Ext₅} {samples : List Sample}
    (samples_eq : o.samples = samples.map Sample.toPart) (sync : ∀ b ∈ samples, b.isNonSyncSample = false)
    (waiting : o.track.Waiting) :
    (∀ b ∈ o.samples.head?, b.partSample.isNonSyncSample = false) ∧
      (o.samples = [] → o.callbackEnd = .ok → o.track.Waiting) := by
  refine ⟨fun b head => ?_, fun _ _ => waiting⟩
  rw [samples_eq] at head
  obtain ⟨b, mem, rfl⟩ := List.mem_map.mp (List.mem_of_mem_head? head)
  exact sync b mem

/-- A unit on a waiting track: the first sample it returns is a sync sample, and when it returns none
and ends normally the track is still waiting. -/
theorem Track.onUnit_waiting (t : Track Ext₄ Ext₅) (segment : Option FMP4Segment) (u : StreamUnit)
    (waiting : t.Waiting) :
    let o := t.onUnit libs record segment u
    (∀ b ∈ o.samples.head?, b.partSample.isNonSyncSample = false) ∧
      (o.samples = [] → o.callbackEnd = .ok → o.track.Waiting) := by
  unfold Track.onUnit
  split
  · exact videoOutcome_waiting record
      (fun _ skipped => (onAV1Unit_skipped _ _ skipped).trans waiting)
      (fun _ _ recorded => by
        obtain ⟨_, -, -, -, -, first, -⟩ := onAV1Unit_recorded _ _ recorded
        exact first waiting)
  · exact videoOutcome_waiting record (fun _ skipped => onVP9Unit_gate skipped waiting)
      (fun _ _ recorded => onVP9Unit_gate recorded waiting)
  · exact videoOutcome_waiting record
      (fun _ skipped => (onH26xUnit_skip _ _ _ skipped).trans waiting)
      (fun _ _ recorded => by
        obtain ⟨_, -, -, sync, -, -, present, -⟩ := onH26xUnit_sample _ _ _ recorded
        rw [id, sync, present waiting]
        rfl)
  · exact videoOutcome_waiting record
      (fun _ skipped => (onH26xUnit_skip _ _ _ skipped).trans waiting)
      (fun _ _ recorded => by
        obtain ⟨_, -, -, sync, -, -, present, -⟩ := onH26xUnit_sample _ _ _ recorded
        rw [id, sync, present waiting]
        rfl)
  · exact videoOutcome_waiting record
      (fun _ skipped => (onMPEGVideoFrame_skipped _ _ _ skipped).1.trans waiting)
      (fun _ _ recorded => (onMPEGVideoFrame_recorded _ _ _ recorded).2.2.2.2 waiting)
  · exact videoOutcome_waiting record
      (fun _ skipped => (onMPEGVideoFrame_skipped _ _ _ skipped).1.trans waiting)
      (fun _ _ recorded => (onMPEGVideoFrame_recorded _ _ _ recorded).2.2.2.2 waiting)
  · exact syncOutcome_waiting rfl (onMJPEGUnit_sync _ _ _ _ _) trivial
  · exact syncOutcome_waiting rfl (onOpusUnit_sync _ _ _ _) trivial
  · exact syncOutcome_waiting rfl (onMPEG4AudioUnit_sync _ _ _ _) trivial
  · exact syncOutcome_waiting rfl (onMPEG1AudioUnit_sync _ _ _ _ _) trivial
  · exact syncOutcome_waiting rfl (onAC3Unit_sync _ _ _ _ _ _) trivial
  · exact syncOutcome_waiting rfl (onLPCMUnit_sync _ _ _) trivial
  · exact ⟨by simp, fun _ _ => waiting⟩

theorem samplesOf_append (i : Nat) (samples samples' : List (Nat × H26xSample)) :
    samplesOf i (samples ++ samples') = samplesOf i samples ++ samplesOf i samples' :=
  List.filterMap_append ..

theorem samplesOf_map (i j : Nat) (samples : List H26xSample) :
    samplesOf i (samples.map (j, ·)) = if j = i then samples else [] := by
  induction samples with
  | nil => simp [samplesOf]
  | cons b samples ih =>
      simp only [samplesOf, List.map_cons, List.filterMap_cons] at ih ⊢
      rw [ih]
      split_ifs <;> rfl

variable (record : Nat → H26xSample → Option String)

/-- The writer's step on a unit of any track, for a track `i` that is waiting: the first sample of
track `i` it hands over is a sync sample, and when it hands over none and ends normally, track `i`
is still waiting. -/
theorem Recorder.onUnit_waiting (r : Recorder Ext₄ Ext₅) (j : Nat) (u : StreamUnit) (i : Nat)
    (waiting : ∀ t ∈ r.tracks[i]?, t.Waiting) :
    let out := r.onUnit libs record j u
    (∀ b ∈ (samplesOf i out.2.1).head?, b.partSample.isNonSyncSample = false) ∧
      (samplesOf i out.2.1 = [] → out.2.2 = .ok → ∀ t ∈ out.1.tracks[i]?, t.Waiting) := by
  unfold Recorder.onUnit
  split
  · exact ⟨by simp [samplesOf], fun _ _ => waiting⟩
  · rename_i t found
    simp only [samplesOf_map]
    by_cases here : j = i
    · subst here
      have step := t.onUnit_waiting libs (record j) r.currentSegment u (waiting t found)
      rw [if_pos rfl]
      refine ⟨step.1, fun none_ ok t' mem => ?_⟩
      rw [List.getElem?_set_self (List.getElem?_eq_some_iff.mp found).1] at mem
      cases mem
      exact step.2 none_ ok
    · rw [if_neg here]
      refine ⟨by simp, fun _ _ t' mem => waiting t' ?_⟩
      rwa [List.getElem?_set_ne here] at mem

/-- Over every interleaving of units, the first sample the writer hands over for a track that is
waiting is a sync sample. -/
theorem runRecorder_head_sync_of_waiting (i : Nat) (units : List (Nat × StreamUnit)) :
    ∀ r : Recorder Ext₄ Ext₅, (∀ t ∈ r.tracks[i]?, t.Waiting) →
      ∀ b ∈ (samplesOf i (runRecorder libs record r units).2.1).head?,
        b.partSample.isNonSyncSample = false := by
  induction units with
  | nil => simp [runRecorder, samplesOf]
  | cons unit units ih =>
      obtain ⟨j, u⟩ := unit
      intro r waiting
      obtain ⟨first, next⟩ := r.onUnit_waiting libs record j u i waiting
      simp only [runRecorder]
      split
      · rename_i ok
        rw [samplesOf_append, List.head?_append]
        cases none_ : samplesOf i (r.onUnit libs record j u).2.1 with
        | nil => simpa using ih _ (next none_ ok)
        | cons b samples =>
            rw [none_] at first
            simpa using first
      · exact first

theorem initialTrack_waiting (format : Format) :
    ∀ t ∈ (initialTrack format : Option (Track Ext₄ Ext₅)), t.Waiting := by
  cases format <;> rintro t ⟨⟩ <;> trivial

theorem initializeTracks_waiting (medias : List (List Format)) (i : Nat) :
    ∀ t ∈ (initializeTracks medias : Recorder Ext₄ Ext₅).tracks[i]?, t.Waiting := by
  intro t found
  obtain ⟨bound, rfl⟩ := List.getElem?_eq_some_iff.mp found
  obtain ⟨format, -, added⟩ := List.mem_filterMap.mp (List.getElem_mem bound)
  exact initialTrack_waiting format _ added

/-- Over every interleaving of units of the tracks `initialize` adds, the first sample the writer
hands `track.record` for each track is a sync sample. -/
theorem runRecorder_head_sync (medias : List (List Format)) (units : List (Nat × StreamUnit))
    (i : Nat) :
    ∀ b ∈ (samplesOf i (runRecorder libs record (initializeTracks medias) units).2.1).head?,
      b.partSample.isNonSyncSample = false :=
  runRecorder_head_sync_of_waiting libs record i units _ (initializeTracks_waiting medias i)

/-- An H.264 track that receives a non-IDR access unit and then an IDR one records the IDR first. -/
theorem runRecorder_head_sync_idr :
    let libs : Libraries Unit Unit :=
      ⟨fun _ => .error "", fun _ => .error "", fun _ => .error "", ptsExtractor, ptsExtractor,
        fun au => .ok au.flatten, fun _ => .error "", fun _ => 0, fun _ => .error "",
        fun _ => .error "", fun _ => .error ""⟩
    let run := runRecorder libs (fun _ _ => none) (initializeTracks [[.h264 none none]])
      [(0, .h264 (some [[0x41]]) 0), (0, .h264 (some [[0x65]]) 1)]
    ⟨⟨0, false, [0x65]⟩, 1⟩ ∈ (samplesOf 0 run.2.1).head? ∧
      (⟨⟨0, false, [0x65]⟩, 1⟩ : H26xSample).partSample.isNonSyncSample = false :=
  have head : (⟨⟨0, false, [0x65]⟩, 1⟩ : H26xSample) ∈ (samplesOf 0 (runRecorder _ (fun _ _ => none)
      (initializeTracks [[.h264 none none]])
      [(0, .h264 (some [[0x41]]) 0), (0, .h264 (some [[0x65]]) 1)]).2.1).head? := by
    decide
  ⟨head, runRecorder_head_sync _ _ _ _ 0 _ head⟩

end Head

end Record
end RtspSimpleServer
