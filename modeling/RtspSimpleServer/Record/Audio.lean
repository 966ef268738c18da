import RtspSimpleServer.Record.Track

/-!
# The MJPEG, Opus, MPEG-4 Audio, MPEG-1 Audio, AC-3 and LPCM tracks of the fMP4 recorder

These callbacks hand `track.record` each packet, access unit or frame themselves and stop at the
first error or panic.  The MJPEG, MPEG-1 Audio and AC-3 tracks take their codec from the first
frame they parse and never change it again.
-/

namespace RtspSimpleServer
namespace Record

/-- How a callback that records its samples itself ends: normally, with an error that stops the
writer (its own or `track.record`'s), or with a run-time panic of Go. -/
inductive CallbackEnd
  | ok
  | error (err : String)
  | panic (message : String)
  deriving DecidableEq, Repr

/-- The run-time error of an integer division by zero. -/
def integerDivideByZero : String := "runtime error: integer divide by zero"

/-- `err := track.record(sample); if err != nil { return err }`: how recording a sample ends. -/
def recordEnd {β : Type} (record : β → Option String) (sample : β) : CallbackEnd :=
  match record sample with
  | some err => .error err
  | none => .ok

/-! ## Tracks that take their codec from the first frame -/

/-- What the callback of a track that takes its codec from the first frame it parses reads and
writes: the recorder's current segment, the track's codec and `parsed`, and, as ghost state, how
many times it has called `updateCodecs`. -/
structure ParsingRecorder (Codec : Type) where
  currentSegment : Option FMP4Segment
  codec : Codec
  parsed : Bool
  updateCodecsCalls : Nat
  deriving DecidableEq, Repr

namespace ParsingRecorder

variable {Codec : Type}

/-- The state when the track is added, with its initial codec. -/
def init (currentSegment : Option FMP4Segment) (codec : Codec) : ParsingRecorder Codec :=
  ⟨currentSegment, codec, false, 0⟩

/-- `if !parsed { parsed = true; codec.… = …; updateCodecs() }`. -/
def parseFirst (codec : Codec) (r : ParsingRecorder Codec) : ParsingRecorder Codec :=
  if !r.parsed then
    { r with
      parsed := true
      codec
      currentSegment := updateCodecs r.currentSegment
      updateCodecsCalls := r.updateCodecsCalls + 1 }
  else r

@[simp] theorem parseFirst_parsed (codec : Codec) (r : ParsingRecorder Codec) :
    (parseFirst codec r).parsed = true := by
  unfold parseFirst
  split <;> simp_all

theorem parseFirst_of_not_parsed (codec : Codec) {r : ParsingRecorder Codec}
    (parsed : r.parsed = false) : (parseFirst codec r).codec = codec := by
  simp [parseFirst, parsed]

theorem parseFirst_closesOnChange (codec : Codec) (r : ParsingRecorder Codec) :
    ClosesOnChange (·.codec) (·.currentSegment) (·.updateCodecsCalls) r (parseFirst codec r) := by
  unfold parseFirst
  split
  · exact .of_call rfl rfl
  · exact .refl r

end ParsingRecorder

section ParseOnce

variable {σ υ : Type} (parsed : σ → Bool) (calls : σ → Nat)

/-- What a unit can do to a track that takes its codec from the first frame it parses: once the
track has parsed a frame the unit leaves it as it is, and the unit calls `updateCodecs` at most
once, only when it sets `parsed` (`calls + [not parsed]` never grows). -/
structure ParsesOnce (s s' : σ) : Prop where
  stays : parsed s = true → s' = s
  calls_le : calls s' + (if parsed s' then 0 else 1) ≤ calls s + if parsed s then 0 else 1

theorem ParsesOnce.refl (s : σ) : ParsesOnce parsed calls s s :=
  ⟨fun _ => rfl, le_rfl⟩

variable {parsed calls}

theorem ParsesOnce.trans {s₁ s₂ s₃ : σ} (first : ParsesOnce parsed calls s₁ s₂)
    (second : ParsesOnce parsed calls s₂ s₃) : ParsesOnce parsed calls s₁ s₃ where
  stays received := by
    obtain rfl := first.stays received
    exact second.stays received
  calls_le := second.calls_le.trans first.calls_le

/-- A track that had parsed no frame calls `updateCodecs` at most once. -/
theorem ParsesOnce.calls_le_add {s s' : σ} (h : ParsesOnce parsed calls s s') :
    calls s' ≤ calls s + if parsed s then 0 else 1 := by
  have := h.calls_le
  split_ifs at this ⊢ <;> omega

theorem foldl_parsesOnce {step : σ → υ → σ} (keeps : ∀ s u, ParsesOnce parsed calls s (step s u))
    (us : List υ) : ∀ s, ParsesOnce parsed calls s (us.foldl step s) := by
  induction us with
  | nil => exact .refl parsed calls
  | cons u us ih => exact fun s => (keeps s u).trans (ih (step s u))

end ParseOnce

theorem ParsingRecorder.parseFirst_parsesOnce {Codec : Type} (codec : Codec)
    (r : ParsingRecorder Codec) :
    ParsesOnce (·.parsed) (·.updateCodecsCalls) r (parseFirst codec r) := by
  unfold parseFirst
  split
  · exact ⟨fun parsed => by simp_all, by simp_all⟩
  · exact .refl _ _ r

/-! ## MJPEG -/

/-- `fmp4.CodecMJPEG`. -/
structure CodecMJPEG where
  width : Int
  height : Int
  deriving DecidableEq, Repr

/-- The state of the MJPEG callback. -/
abbrev MJPEGRecorder := ParsingRecorder CodecMJPEG

/-- The state when the track is added: an 800x600 codec. -/
def MJPEGRecorder.init (currentSegment : Option FMP4Segment) : MJPEGRecorder :=
  .init currentSegment ⟨800, 600⟩

section MJPEG

variable (unmarshalSOF : List UInt8 → Except String (Int × Int)) (record : Sample → Option String)

/-- The MJPEG track's callback on a unit with frame `frame` (nil is `none`) and time stamp `pts`: the
first frame sets `parsed` and then gives the codec its size, and every frame is recorded. -/
def onMJPEGUnit (r : MJPEGRecorder) (frame : Option (List UInt8)) (pts : Int) :
    MJPEGRecorder × List Sample × CallbackEnd :=
  match frame with
  | none => (r, [], .ok)
  | some frame =>
      let sample : Sample := ⟨false, frame, pts⟩
      if !r.parsed then
        let r := { r with parsed := true }
        match jpegExtractSize unmarshalSOF frame with
        | .error err => (r, [], .error err)
        | .panic message => (r, [], .panic message)
        | .size width height =>
            let r := { r with
              codec := ⟨width, height⟩
              currentSegment := updateCodecs r.currentSegment
              updateCodecsCalls := r.updateCodecsCalls + 1 }
            (r, [sample], recordEnd record sample)
      else (r, [sample], recordEnd record sample)

/-- The callback on each unit in turn. -/
def onMJPEGUnits (r : MJPEGRecorder) (units : List (Option (List UInt8) × Int)) : MJPEGRecorder :=
  units.foldl (fun r unit => (onMJPEGUnit unmarshalSOF record r unit.1 unit.2).1) r

theorem onMJPEGUnit_fst (r : MJPEGRecorder) (frame : Option (List UInt8)) (pts : Int) :
    let r' := (onMJPEGUnit unmarshalSOF record r frame pts).1
    ClosesOnChange (·.codec) (·.currentSegment) (·.updateCodecsCalls) r r' ∧
      ParsesOnce (·.parsed) (·.updateCodecsCalls) r r' := by
  match frame with
  | none => exact ⟨.refl r, .refl _ _ r⟩
  | some frame =>
      simp only [onMJPEGUnit]
      split
      · rename_i unparsed
        have unparsed : r.parsed = false := by simpa using unparsed
        split
        · exact ⟨.of_eq rfl rfl rfl, fun parsed => by simp [unparsed] at parsed, by simp [unparsed]⟩
        · exact ⟨.of_eq rfl rfl rfl, fun parsed => by simp [unparsed] at parsed, by simp [unparsed]⟩
        · exact ⟨.of_call rfl rfl, fun parsed => by simp [unparsed] at parsed, by simp [unparsed]⟩
      · exact ⟨.refl r, .refl _ _ r⟩

/-- Over every run the MJPEG track calls `updateCodecs` at most once, and once it has parsed a frame
its codec does not change. -/
theorem onMJPEGUnits_setOnce (units : List (Option (List UInt8) × Int)) (r : MJPEGRecorder) :
    let r' := onMJPEGUnits unmarshalSOF record r units
    r'.updateCodecsCalls ≤ r.updateCodecsCalls + (if r.parsed then 0 else 1) ∧
      (r.parsed = true → r' = r) :=
  let run := foldl_parsesOnce
    (fun r (unit : Option (List UInt8) × Int) =>
      (onMJPEGUnit_fst unmarshalSOF record r unit.1 unit.2).2) units r
  ⟨run.calls_le_add, run.stays⟩

/-- Every MJPEG sample is a sync sample. -/
theorem onMJPEGUnit_sync (r : MJPEGRecorder) (frame : Option (List UInt8)) (pts : Int) :
    ∀ b ∈ (onMJPEGUnit unmarshalSOF record r frame pts).2.1, b.isNonSyncSample = false := by
  match frame with
  | none => simp [onMJPEGUnit]
  | some frame =>
      simp only [onMJPEGUnit]
      split
      · split <;> simp
      · simp

end MJPEG

/-! ## Opus, MPEG-4 Audio and LPCM -/

/-- `fmp4.CodecOpus.ChannelCount` of a format: two channels when it is stereo. -/
def opusChannelCount (isStereo : Bool) : Nat :=
  if isStereo then 2 else 1

section Codecless

variable (record : Sample → Option String)

/-- The Opus callback's loop: each packet is recorded at the running time stamp, which then moves
on by the packet's duration (`packetDuration` is `opus.PacketDuration`). -/
def recordOpusPackets (packetDuration : List UInt8 → Int) :
    Int → List (List UInt8) → List Sample × CallbackEnd
  | _, [] => ([], .ok)
  | pts, packet :: packets =>
      let sample : Sample := ⟨false, packet, pts⟩
      match record sample with
      | some err => ([sample], .error err)
      | none =>
          let rest := recordOpusPackets packetDuration (pts + packetDuration packet) packets
          (sample :: rest.1, rest.2)

/-- The Opus track's callback on a unit with packets `packets` (nil is `none`). -/
def onOpusUnit (packetDuration : List UInt8 → Int) (packets : Option (List (List UInt8)))
    (pts : Int) : List Sample × CallbackEnd :=
  match packets with
  | none => ([], .ok)
  | some packets => recordOpusPackets record packetDuration pts packets

/-- The MPEG-4 Audio callback's loop from the access unit of index `i`: the access unit of index
`i` is stamped `i · 1024 · 10⁹ / sampleRate` after the unit's PTS; a zero clock rate makes the
division panic. -/
def recordMPEG4AudioAUs (sampleRate pts : Int) : Nat → List (List UInt8) → List Sample × CallbackEnd
  | _, [] => ([], .ok)
  | i, au :: aus =>
      if sampleRate = 0 then ([], .panic integerDivideByZero)
      else
        let sample : Sample := ⟨false, au, pts + (i * 1024 * second).tdiv sampleRate⟩
        match record sample with
        | some err => ([sample], .error err)
        | none =>
            let rest := recordMPEG4AudioAUs sampleRate pts (i + 1) aus
            (sample :: rest.1, rest.2)

/-- The MPEG-4 Audio track's callback on a unit with access units `aus` (nil is `none`);
`sampleRate` is the format's clock rate. -/
def onMPEG4AudioUnit (sampleRate : Int) (aus : Option (List (List UInt8))) (pts : Int) :
    List Sample × CallbackEnd :=
  match aus with
  | none => ([], .ok)
  | some aus => recordMPEG4AudioAUs record sampleRate pts 0 aus

/-- The LPCM track's callback on a unit with samples `samples` (nil is `none`). -/
def onLPCMUnit (samples : Option (List UInt8)) (pts : Int) : List Sample × CallbackEnd :=
  match samples with
  | none => ([], .ok)
  | some samples =>
      let sample : Sample := ⟨false, samples, pts⟩
      ([sample], recordEnd record sample)

/-- Every Opus sample is a sync sample. -/
theorem recordOpusPackets_sync (packetDuration : List UInt8 → Int) (packets : List (List UInt8)) :
    ∀ pts, ∀ b ∈ (recordOpusPackets record packetDuration pts packets).1,
      b.isNonSyncSample = false := by
  induction packets with
  | nil => simp [recordOpusPackets]
  | cons packet packets ih =>
      intro pts b mem
      simp only [recordOpusPackets] at mem
      split at mem
      · simp_all
      · rcases List.mem_cons.mp mem with rfl | mem
        · rfl
        · exact ih _ b mem

/-- Every MPEG-4 Audio sample is a sync sample. -/
theorem recordMPEG4AudioAUs_sync (sampleRate pts : Int) (aus : List (List UInt8)) :
    ∀ i, ∀ b ∈ (recordMPEG4AudioAUs record sampleRate pts i aus).1, b.isNonSyncSample = false := by
  induction aus with
  | nil => simp [recordMPEG4AudioAUs]
  | cons au aus ih =>
      intro i b mem
      simp only [recordMPEG4AudioAUs] at mem
      split at mem
      · simp at mem
      · split at mem
        · simp_all
        · rcases List.mem_cons.mp mem with rfl | mem
          · rfl
          · exact ih _ b mem

theorem onOpusUnit_sync (packetDuration : List UInt8 → Int) (packets : Option (List (List UInt8)))
    (pts : Int) : ∀ b ∈ (onOpusUnit record packetDuration packets pts).1, b.isNonSyncSample = false := by
  cases packets with
  | none => simp [onOpusUnit]
  | some packets => exact recordOpusPackets_sync record packetDuration packets pts

theorem onMPEG4AudioUnit_sync (sampleRate : Int) (aus : Option (List (List UInt8))) (pts : Int) :
    ∀ b ∈ (onMPEG4AudioUnit record sampleRate aus pts).1, b.isNonSyncSample = false := by
  cases aus with
  | none => simp [onMPEG4AudioUnit]
  | some aus => exact recordMPEG4AudioAUs_sync record sampleRate pts aus 0

theorem onLPCMUnit_sync (samples : Option (List UInt8)) (pts : Int) :
    ∀ b ∈ (onLPCMUnit record samples pts).1, b.isNonSyncSample = false := by
  cases samples <;> simp [onLPCMUnit]

end Codecless

/-! ## MPEG-1 Audio -/

/-- `mpeg1audio.ChannelMode`. -/
inductive ChannelMode
  | stereo
  | jointStereo
  | dualChannel
  | mono
  deriving DecidableEq, Repr

/-- `mpeg1audioChannelCount`. -/
def mpeg1audioChannelCount : ChannelMode → Nat
  | .stereo | .jointStereo | .dualChannel => 2
  | .mono => 1

/-- What the callback reads of an `mpeg1audio.FrameHeader`: `SampleRate`, `ChannelMode` and
`SampleCount()`. -/
structure MPEG1AudioHeader where
  sampleRate : Int
  channelMode : ChannelMode
  sampleCount : Int
  deriving DecidableEq, Repr

/-- `fmp4.CodecMPEG1Audio`. -/
structure CodecMPEG1Audio where
  sampleRate : Int
  channelCount : Nat
  deriving DecidableEq, Repr

/-- The state of the MPEG-1 Audio callback. -/
abbrev MPEG1AudioRecorder := ParsingRecorder CodecMPEG1Audio

/-- The state when the track is added: 32 kHz, two channels. -/
def MPEG1AudioRecorder.init (currentSegment : Option FMP4Segment) : MPEG1AudioRecorder :=
  .init currentSegment ⟨32000, 2⟩

/-- The first frame the track parses gives the codec its sample rate and channel count. -/
def parseFirstMPEG1Audio (h : MPEG1AudioHeader) (r : MPEG1AudioRecorder) : MPEG1AudioRecorder :=
  r.parseFirst ⟨h.sampleRate, mpeg1audioChannelCount h.channelMode⟩

section MPEG1Audio

variable (unmarshal : List UInt8 → Except String MPEG1AudioHeader) (record : Sample → Option String)

/-- The MPEG-1 Audio callback's loop: each frame's header is parsed, the first one sets the codec,
the frame is recorded at the running time stamp, which then moves on by the frame's duration at its
own sample rate. -/
def recordMPEG1AudioFrames :
    MPEG1AudioRecorder → Int → List (List UInt8) → MPEG1AudioRecorder × List Sample × CallbackEnd
  | r, _, [] => (r, [], .ok)
  | r, pts, frame :: frames =>
      match unmarshal frame with
      | .error err => (r, [], .error err)
      | .ok h =>
          let r := parseFirstMPEG1Audio h r
          let sample : Sample := ⟨false, frame, pts⟩
          match record sample with
          | some err => (r, [sample], .error err)
          | none =>
              if h.sampleRate = 0 then (r, [sample], .panic integerDivideByZero)
              else
                let rest := recordMPEG1AudioFrames r (pts + (h.sampleCount * second).tdiv h.sampleRate)
                  frames
                (rest.1, sample :: rest.2.1, rest.2.2)

/-- The MPEG-1 Audio track's callback on a unit with frames `frames` (nil is `none`). -/
def onMPEG1AudioUnit (r : MPEG1AudioRecorder) (frames : Option (List (List UInt8))) (pts : Int) :
    MPEG1AudioRecorder × List Sample × CallbackEnd :=
  match frames with
  | none => (r, [], .ok)
  | some frames => recordMPEG1AudioFrames unmarshal record r pts frames

/-- The callback on each unit in turn. -/
def onMPEG1AudioUnits (r : MPEG1AudioRecorder) (units : List (Option (List (List UInt8)) × Int)) :
    MPEG1AudioRecorder :=
  units.foldl (fun r unit => (onMPEG1AudioUnit unmarshal record r unit.1 unit.2).1) r

/-- The loop keeps `ClosesOnChange` and `ParsesOnce`. -/
theorem recordMPEG1AudioFrames_fst (frames : List (List UInt8)) :
    ∀ (r : MPEG1AudioRecorder) pts,
      let r' := (recordMPEG1AudioFrames unmarshal record r pts frames).1
      ClosesOnChange (·.codec) (·.currentSegment) (·.updateCodecsCalls) r r' ∧
        ParsesOnce (·.parsed) (·.updateCodecsCalls) r r' := by
  induction frames with
  | nil => exact fun r _ => ⟨.refl r, .refl _ _ r⟩
  | cons frame frames ih =>
      intro r pts
      simp only [recordMPEG1AudioFrames]
      split
      · exact ⟨.refl r, .refl _ _ r⟩
      · rename_i h _
        have first := And.intro
          (r.parseFirst_closesOnChange ⟨h.sampleRate, mpeg1audioChannelCount h.channelMode⟩)
          (r.parseFirst_parsesOnce ⟨h.sampleRate, mpeg1audioChannelCount h.channelMode⟩)
        split
        · exact first
        · split
          · exact first
          · obtain ⟨closes, parses⟩ := ih (parseFirstMPEG1Audio h r) _
            exact ⟨first.1.trans closes, first.2.trans parses⟩

theorem onMPEG1AudioUnit_fst (r : MPEG1AudioRecorder) (frames : Option (List (List UInt8)))
    (pts : Int) :
    let r' := (onMPEG1AudioUnit unmarshal record r frames pts).1
    ClosesOnChange (·.codec) (·.currentSegment) (·.updateCodecsCalls) r r' ∧
      ParsesOnce (·.parsed) (·.updateCodecsCalls) r r' := by
  cases frames with
  | none => exact ⟨.refl r, .refl _ _ r⟩
  | some frames => exact recordMPEG1AudioFrames_fst unmarshal record frames r pts

/-- Over every run the MPEG-1 Audio track calls `updateCodecs` at most once, and once it has parsed
a frame its codec does not change. -/
theorem onMPEG1AudioUnits_setOnce (units : List (Option (List (List UInt8)) × Int))
    (r : MPEG1AudioRecorder) :
    let r' := onMPEG1AudioUnits unmarshal record r units
    r'.updateCodecsCalls ≤ r.updateCodecsCalls + (if r.parsed then 0 else 1) ∧
      (r.parsed = true → r' = r) :=
  let run := foldl_parsesOnce
    (fun r (unit : Option (List (List UInt8)) × Int) =>
      (onMPEG1AudioUnit_fst unmarshal record r unit.1 unit.2).2) units r
  ⟨run.calls_le_add, run.stays⟩

/-- Every MPEG-1 Audio sample is a sync sample. -/
theorem recordMPEG1AudioFrames_sync (frames : List (List UInt8)) :
    ∀ (r : MPEG1AudioRecorder) pts, ∀ b ∈ (recordMPEG1AudioFrames unmarshal record r pts frames).2.1,
      b.isNonSyncSample = false := by
  induction frames with
  | nil => simp [recordMPEG1AudioFrames]
  | cons frame frames ih =>
      intro r pts b mem
      simp only [recordMPEG1AudioFrames] at mem
      split at mem
      · simp at mem
      · split at mem
        · simp_all
        · split at mem
          · simp_all
          · rcases List.mem_cons.mp mem with rfl | mem
            · rfl
            · exact ih _ _ b mem

theorem onMPEG1AudioUnit_sync (r : MPEG1AudioRecorder) (frames : Option (List (List UInt8)))
    (pts : Int) :
    ∀ b ∈ (onMPEG1AudioUnit unmarshal record r frames pts).2.1, b.isNonSyncSample = false := by
  cases frames with
  | none => simp [onMPEG1AudioUnit]
  | some frames => exact recordMPEG1AudioFrames_sync unmarshal record frames r pts

end MPEG1Audio

/-! ## AC-3 -/

/-- What the callback reads of an `ac3.SyncInfo`: `Fscod`, `Frmsizecod` and `SampleRate()`. -/
structure AC3SyncInfo where
  fscod : UInt8
  frmsizecod : UInt8
  sampleRate : Int
  deriving DecidableEq, Repr

/-- What the callback reads of an `ac3.BSI`: `Bsid`, `Bsmod`, `Acmod`, `LfeOn` and
`ChannelCount()`. -/
structure AC3BSI where
  bsid : UInt8
  bsmod : UInt8
  acmod : UInt8
  lfeOn : Bool
  channelCount : Nat
  deriving DecidableEq, Repr

/-- `fmp4.CodecAC3`. -/
structure CodecAC3 where
  sampleRate : Int
  channelCount : Nat
  fscod : UInt8
  bsid : UInt8
  bsmod : UInt8
  acmod : UInt8
  lfeOn : Bool
  bitRateCode : UInt8
  deriving DecidableEq, Repr

/-- The state of the AC-3 callback. -/
abbrev AC3Recorder := ParsingRecorder CodecAC3

/-- The state when the track is added, with the format's sample rate and channel count. -/
def AC3Recorder.init (currentSegment : Option FMP4Segment) (sampleRate : Int) (channelCount : Nat) :
    AC3Recorder :=
  .init currentSegment ⟨sampleRate, channelCount, 0, 8, 0, 7, true, 7⟩

/-- `ac3.SamplesPerFrame`. -/
def SamplesPerFrame : Int := 1536

/-- The codec the first frame gives. -/
def ac3Codec (syncInfo : AC3SyncInfo) (bsi : AC3BSI) : CodecAC3 :=
  ⟨syncInfo.sampleRate, bsi.channelCount, syncInfo.fscod, bsi.bsid, bsi.bsmod, bsi.acmod, bsi.lfeOn,
    syncInfo.frmsizecod >>> 1⟩

/-- The first frame the track parses gives the codec its parameters. -/
def parseFirstAC3 (syncInfo : AC3SyncInfo) (bsi : AC3BSI) (r : AC3Recorder) : AC3Recorder :=
  r.parseFirst (ac3Codec syncInfo bsi)

/-- The duration of a frame at a sample rate, `ac3.SamplesPerFrame * time.Second / rate`. -/
def ac3FrameDuration (sampleRate : Int) : Int :=
  (SamplesPerFrame * second).tdiv sampleRate

section AC3

variable (unmarshalSyncInfo : List UInt8 → Except String AC3SyncInfo)
  (unmarshalBSI : List UInt8 → Except String AC3BSI) (record : Sample → Option String)

/-- The AC-3 callback's loop: each frame's sync information and bit stream information are parsed
(the latter from `frame[5:]`), the first frame sets the codec, the frame is recorded at the running
time stamp, which then moves on by the duration of a frame at the codec's sample rate. -/
def recordAC3Frames :
    AC3Recorder → Int → List (List UInt8) → AC3Recorder × List Sample × CallbackEnd
  | r, _, [] => (r, [], .ok)
  | r, pts, frame :: frames =>
      match unmarshalSyncInfo frame with
      | .error err => (r, [], .error ("invalid AC-3 frame: " ++ err))
      | .ok syncInfo =>
          if frame.length < 5 then (r, [], .panic (sliceOutOfRange 5 frame.length))
          else
            match unmarshalBSI (frame.drop 5) with
            | .error err => (r, [], .error ("invalid AC-3 frame: " ++ err))
            | .ok bsi =>
                let r := parseFirstAC3 syncInfo bsi r
                let sample : Sample := ⟨false, frame, pts⟩
                match record sample with
                | some err => (r, [sample], .error err)
                | none =>
                    if r.codec.sampleRate = 0 then (r, [sample], .panic integerDivideByZero)
                    else
                      let rest := recordAC3Frames r (pts + ac3FrameDuration r.codec.sampleRate) frames
                      (rest.1, sample :: rest.2.1, rest.2.2)

/-- The AC-3 track's callback on a unit with frames `frames` (nil is `none`). -/
def onAC3Unit (r : AC3Recorder) (frames : Option (List (List UInt8))) (pts : Int) :
    AC3Recorder × List Sample × CallbackEnd :=
  match frames with
  | none => (r, [], .ok)
  | some frames => recordAC3Frames unmarshalSyncInfo unmarshalBSI record r pts frames

/-- The callback on each unit in turn. -/
def onAC3Units (r : AC3Recorder) (units : List (Option (List (List UInt8)) × Int)) : AC3Recorder :=
  units.foldl (fun r unit => (onAC3Unit unmarshalSyncInfo unmarshalBSI record r unit.1 unit.2).1) r

/-- The loop keeps `ClosesOnChange` and `ParsesOnce`. -/
theorem recordAC3Frames_fst (frames : List (List UInt8)) :
    ∀ (r : AC3Recorder) pts,
      let r' := (recordAC3Frames unmarshalSyncInfo unmarshalBSI record r pts frames).1
      ClosesOnChange (·.codec) (·.currentSegment) (·.updateCodecsCalls) r r' ∧
        ParsesOnce (·.parsed) (·.updateCodecsCalls) r r' := by
  induction frames with
  | nil => exact fun r _ => ⟨.refl r, .refl _ _ r⟩
  | cons frame frames ih =>
      intro r pts
      simp only [recordAC3Frames]
      split
      · exact ⟨.refl r, .refl _ _ r⟩
      · split
        · exact ⟨.refl r, .refl _ _ r⟩
        · split
          · exact ⟨.refl r, .refl _ _ r⟩
          · rename_i syncInfo _ _ _ bsi _
            have first := And.intro (r.parseFirst_closesOnChange (ac3Codec syncInfo bsi))
              (r.parseFirst_parsesOnce (ac3Codec syncInfo bsi))
            split
            · exact first
            · split
              · exact first
              · obtain ⟨closes, parses⟩ := ih (parseFirstAC3 syncInfo bsi r) _
                exact ⟨first.1.trans closes, first.2.trans parses⟩

theorem onAC3Unit_fst (r : AC3Recorder) (frames : Option (List (List UInt8))) (pts : Int) :
    let r' := (onAC3Unit unmarshalSyncInfo unmarshalBSI record r frames pts).1
    ClosesOnChange (·.codec) (·.currentSegment) (·.updateCodecsCalls) r r' ∧
      ParsesOnce (·.parsed) (·.updateCodecsCalls) r r' := by
  cases frames with
  | none => exact ⟨.refl r, .refl _ _ r⟩
  | some frames => exact recordAC3Frames_fst unmarshalSyncInfo unmarshalBSI record frames r pts

/-- Over every run the AC-3 track calls `updateCodecs` at most once, and once it has parsed a frame
its codec does not change. -/
theorem onAC3Units_setOnce (units : List (Option (List (List UInt8)) × Int)) (r : AC3Recorder) :
    let r' := onAC3Units unmarshalSyncInfo unmarshalBSI record r units
    r'.updateCodecsCalls ≤ r.updateCodecsCalls + (if r.parsed then 0 else 1) ∧
      (r.parsed = true → r' = r) :=
  let run := foldl_parsesOnce
    (fun r (unit : Option (List (List UInt8)) × Int) =>
      (onAC3Unit_fst unmarshalSyncInfo unmarshalBSI record r unit.1 unit.2).2) units r
  ⟨run.calls_le_add, run.stays⟩

/-- The frames of an AC-3 unit are recorded in order from the first, the `k`-th one `k` frame
durations after the unit's PTS at the sample rate the codec has after the unit; when the track had
parsed no frame and records one, that rate is the first frame's. -/
theorem recordAC3Frames_dts (frames : List (List UInt8)) :
    ∀ (r : AC3Recorder) pts,
      let run := recordAC3Frames unmarshalSyncInfo unmarshalBSI record r pts frames
      run.2.1 = (frames.take run.2.1.length).mapIdx
          (fun k frame => ⟨false, frame, pts + k * ac3FrameDuration run.1.codec.sampleRate⟩) ∧
        (r.parsed = false → run.2.1 ≠ [] →
          ∃ frame ∈ frames.head?, ∃ syncInfo, unmarshalSyncInfo frame = .ok syncInfo ∧
            run.1.codec.sampleRate = syncInfo.sampleRate) := by
  induction frames with
  | nil => exact fun r pts => ⟨rfl, fun _ none => (none rfl).elim⟩
  | cons frame frames ih =>
      intro r pts
      simp only [recordAC3Frames]
      split
      · exact ⟨rfl, fun _ none => (none rfl).elim⟩
      · rename_i syncInfo parsedSync
        split
        · exact ⟨rfl, fun _ none => (none rfl).elim⟩
        · split
          · exact ⟨rfl, fun _ none => (none rfl).elim⟩
          · rename_i bsi _
            have rate (parsed : r.parsed = false) :
                (parseFirstAC3 syncInfo bsi r).codec.sampleRate = syncInfo.sampleRate := by
              rw [parseFirstAC3, ParsingRecorder.parseFirst_of_not_parsed _ parsed]
              rfl
            have single (d : Int) : [(⟨false, frame, pts⟩ : Sample)] =
                ((frame :: frames).take [(⟨false, frame, pts⟩ : Sample)].length).mapIdx
                  (fun k frame => ⟨false, frame, pts + k * d⟩) := by
              simp
            split
            · exact ⟨single _, fun parsed _ => ⟨frame, rfl, syncInfo, parsedSync, rate parsed⟩⟩
            · split
              · exact ⟨single _, fun parsed _ => ⟨frame, rfl, syncInfo, parsedSync, rate parsed⟩⟩
              · have kept := (recordAC3Frames_fst unmarshalSyncInfo unmarshalBSI record frames
                  (parseFirstAC3 syncInfo bsi r) (pts + ac3FrameDuration
                    (parseFirstAC3 syncInfo bsi r).codec.sampleRate)).2.stays
                  (ParsingRecorder.parseFirst_parsed _ r)
                refine ⟨?_, fun parsed _ => ⟨frame, rfl, syncInfo, parsedSync, by
                  rw [kept]
                  exact rate parsed⟩⟩
                have samples := (ih (parseFirstAC3 syncInfo bsi r) (pts + ac3FrameDuration
                  (parseFirstAC3 syncInfo bsi r).codec.sampleRate)).1
                rw [kept] at samples ⊢
                simp only [List.length_cons, List.take_succ_cons, List.mapIdx_cons]
                refine congrArg₂ _ (by simp) (samples.trans ?_)
                congr 1
                funext k frame
                simp only [Sample.mk.injEq, true_and]
                push_cast
                ring

/-- Every AC-3 sample is a sync sample. -/
theorem recordAC3Frames_sync (frames : List (List UInt8)) :
    ∀ (r : AC3Recorder) pts,
      ∀ b ∈ (recordAC3Frames unmarshalSyncInfo unmarshalBSI record r pts frames).2.1,
        b.isNonSyncSample = false := by
  induction frames with
  | nil => simp [recordAC3Frames]
  | cons frame frames ih =>
      intro r pts b mem
      simp only [recordAC3Frames] at mem
      split at mem
      · simp at mem
      · split at mem
        · simp at mem
        · split at mem
          · simp at mem
          · split at mem
            · simp_all
            · split at mem
              · simp_all
              · rcases List.mem_cons.mp mem with rfl | mem
                · rfl
                · exact ih _ _ b mem

theorem onAC3Unit_sync (r : AC3Recorder) (frames : Option (List (List UInt8))) (pts : Int) :
    ∀ b ∈ (onAC3Unit unmarshalSyncInfo unmarshalBSI record r frames pts).2.1,
      b.isNonSyncSample = false := by
  cases frames with
  | none => simp [onAC3Unit]
  | some frames => exact recordAC3Frames_sync unmarshalSyncInfo unmarshalBSI record frames r pts

end AC3

end Record
end RtspSimpleServer
