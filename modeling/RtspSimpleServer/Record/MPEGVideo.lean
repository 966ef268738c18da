import RtspSimpleServer.Record.Track
import RtspSimpleServer.FormatProcessor.MPEG4Video

/-!
# The MPEG-4 Video and MPEG-1 Video tracks of the fMP4 recorder

The two callbacks are one function of their start codes and error text.  Over every run the
configuration is the last one the frames carried, a change of it closes the current segment, and
the track records the frames from the first random access frame on until a PTS goes backwards.
-/

namespace RtspSimpleServer
namespace Record

open FormatProcessor MPEG4Video

/-- What the MPEG-4 Video and MPEG-1 Video callbacks read and write: the recorder's current segment,
the codec's `Config`, `firstReceived`, `lastPTS`, and, as ghost state, how many times the callback
has called `updateCodecs`. -/
structure MPEGVideoRecorder where
  currentSegment : Option FMP4Segment
  config : List UInt8
  firstReceived : Bool
  lastPTS : Int
  updateCodecsCalls : Nat
  deriving DecidableEq, Repr

/-- The state when the track is added, with the recorder's current segment and the codec's
configuration. -/
def MPEGVideoRecorder.init (currentSegment : Option FMP4Segment) (config : List UInt8) :
    MPEGVideoRecorder :=
  ⟨currentSegment, config, false, 0, 0⟩

/-- The configuration the MPEG-4 Video track is added with: the format's (`SafeParams()`), or a
default one when it is nil. -/
def initialConfigMPEG4Video (config : Option (List UInt8)) : List UInt8 :=
  config.getD
    [0x00, 0x00, 0x01, 0xb0, 0x01, 0x00, 0x00, 0x01, 0xb5, 0x89, 0x13, 0x00, 0x00, 0x01, 0x00, 0x00,
      0x00, 0x01, 0x20, 0x00, 0xc4, 0x8d, 0x88, 0x00, 0xf5, 0x3c, 0x04, 0x87, 0x14, 0x63, 0x00, 0x00,
      0x01, 0xb2, 0x4c, 0x61, 0x76, 0x63, 0x35, 0x38, 0x2e, 0x31, 0x33, 0x34, 0x2e, 0x31, 0x30, 0x30]

/-- The configuration the MPEG-1 Video track is added with. -/
def initialConfigMPEG1Video : List UInt8 :=
  [0x00, 0x00, 0x01, 0xb3, 0x78, 0x04, 0x38, 0x35, 0xff, 0xff, 0xe0, 0x18, 0x00, 0x00, 0x01, 0xb5,
    0x14, 0x4a, 0x00, 0x01, 0x00, 0x00]

/-- The configuration a frame carries, `tunit.Frame[:end+4]`: its bytes up to the first group start
code after its first four, when it starts with a sequence start code. -/
def carriedConfigOf (sequenceStartCode groupStartCode : UInt8) (frame : List UInt8) :
    Option (List UInt8) :=
  if [0, 0, 1, sequenceStartCode].isPrefixOf frame then
    (bytesIndex [0, 0, 1, groupStartCode] (frame.drop 4)).map fun end_ => frame.take (end_ + 4)
  else none

/-- The MPEG-4 track takes the configuration the MPEG-4 Video processor stores. -/
theorem carriedConfigOf_mpeg4 :
    carriedConfigOf VisualObjectSequenceStartCode GroupOfVOPStartCode =
      FormatProcessorMPEG4Video.carriedConfig :=
  rfl

/-- `if !bytes.Equal(codec.Config, config) { codec.Config = config; updateCodecs() }`. -/
def updateConfig (config : List UInt8) (r : MPEGVideoRecorder) : MPEGVideoRecorder :=
  if r.config ≠ config then
    { r with
      config
      currentSegment := updateCodecs r.currentSegment
      updateCodecsCalls := r.updateCodecsCalls + 1 }
  else r

/-- The callback of an MPEG-4 Video or MPEG-1 Video track on a unit with frame `frame` (nil is
`none`) and time stamp `pts`, with the start codes of a sequence header and of a group, and the error
on a frame presented before the last one.  It returns the sample it hands `track.record`, if any. -/
def onMPEGVideoFrame (sequenceStartCode groupStartCode : UInt8) (bFramesError : String)
    (r : MPEGVideoRecorder) (frame : Option (List UInt8)) (pts : Int) :
    MPEGVideoRecorder × Except String (Option Sample) :=
  match frame with
  | none => (r, .ok none)
  | some frame =>
      let randomAccess := (bytesIndex [0, 0, 1, groupStartCode] frame).isSome
      let r := match carriedConfigOf sequenceStartCode groupStartCode frame with
        | some config => updateConfig config r
        | none => r
      let sample : Sample := ⟨!randomAccess, frame, pts⟩
      if !r.firstReceived then
        if !randomAccess then (r, .ok none)
        else ({ r with firstReceived := true, lastPTS := pts }, .ok (some sample))
      else if pts < r.lastPTS then (r, .error bFramesError)
      else ({ r with lastPTS := pts }, .ok (some sample))

/-- The MPEG-4 Video track's callback: visual object sequences and groups of VOPs. -/
def onMPEG4VideoFrame (r : MPEGVideoRecorder) (frame : Option (List UInt8)) (pts : Int) :
    MPEGVideoRecorder × Except String (Option Sample) :=
  onMPEGVideoFrame VisualObjectSequenceStartCode GroupOfVOPStartCode
    "MPEG-4 Video streams with B-frames are not supported (yet)" r frame pts

/-- The MPEG-1 Video track's callback: sequence headers (`0xB3`) and groups of pictures (`0xB8`). -/
def onMPEG1VideoFrame (r : MPEGVideoRecorder) (frame : Option (List UInt8)) (pts : Int) :
    MPEGVideoRecorder × Except String (Option Sample) :=
  onMPEGVideoFrame 0xB3 0xB8 "MPEG-1 Video streams with B-frames are not supported (yet)" r frame pts

section Callback

variable (sequenceStartCode groupStartCode : UInt8) (bFramesError : String)

/-- The callback on each unit in turn. -/
def onMPEGVideoFrames (r : MPEGVideoRecorder) (units : List (Option (List UInt8) × Int)) :
    MPEGVideoRecorder :=
  units.foldl
    (fun r unit => (onMPEGVideoFrame sequenceStartCode groupStartCode bFramesError r unit.1 unit.2).1) r

/-- The recorder's writer on the track. -/
def runMPEGVideo (record : Sample → Option String) (r : MPEGVideoRecorder)
    (units : List (Option (List UInt8) × Int)) :
    MPEGVideoRecorder × List Sample × Option String :=
  runTrack (fun r (unit : Option (List UInt8) × Int) =>
    onMPEGVideoFrame sequenceStartCode groupStartCode bFramesError r unit.1 unit.2) record r units

/-- A random access frame: one with a group start code. -/
def IsRandomAccess (frame : List UInt8) : Bool :=
  (bytesIndex [0, 0, 1, groupStartCode] frame).isSome

/-! ### One unit -/

theorem updateConfig_config (config : List UInt8) (r : MPEGVideoRecorder) :
    (updateConfig config r).config = config := by
  unfold updateConfig
  split_ifs with differs
  · rfl
  · exact not_not.mp differs

theorem updateConfig_closesOnChange (config : List UInt8) (r : MPEGVideoRecorder) :
    ClosesOnChange (·.config) (·.currentSegment) (·.updateCodecsCalls) r (updateConfig config r) := by
  unfold updateConfig
  split_ifs
  · exact .of_call rfl rfl
  · exact .refl r

@[simp] theorem updateConfig_firstReceived (config : List UInt8) (r : MPEGVideoRecorder) :
    (updateConfig config r).firstReceived = r.firstReceived := by
  unfold updateConfig
  split_ifs <;> rfl

@[simp] theorem updateConfig_lastPTS (config : List UInt8) (r : MPEGVideoRecorder) :
    (updateConfig config r).lastPTS = r.lastPTS := by
  unfold updateConfig
  split_ifs <;> rfl

/-- What the callback does with a frame: the configuration it carries, then the gate and the
B-frames check on the state that leaves. -/
theorem onMPEGVideoFrame_some (r : MPEGVideoRecorder) (frame : List UInt8) (pts : Int) :
    onMPEGVideoFrame sequenceStartCode groupStartCode bFramesError r (some frame) pts =
      let r := (carriedConfigOf sequenceStartCode groupStartCode frame).elim r (updateConfig · r)
      let sample : Sample := ⟨!IsRandomAccess groupStartCode frame, frame, pts⟩
      if !r.firstReceived then
        if !IsRandomAccess groupStartCode frame then (r, .ok none)
        else ({ r with firstReceived := true, lastPTS := pts }, .ok (some sample))
      else if pts < r.lastPTS then (r, .error bFramesError)
      else ({ r with lastPTS := pts }, .ok (some sample)) := by
  simp only [onMPEGVideoFrame, IsRandomAccess]
  cases carriedConfigOf sequenceStartCode groupStartCode frame <;> rfl

theorem configured_firstReceived (carried : Option (List UInt8)) (r : MPEGVideoRecorder) :
    (carried.elim r (updateConfig · r)).firstReceived = r.firstReceived := by
  cases carried <;> simp [Option.elim]

theorem configured_lastPTS (carried : Option (List UInt8)) (r : MPEGVideoRecorder) :
    (carried.elim r (updateConfig · r)).lastPTS = r.lastPTS := by
  cases carried <;> simp [Option.elim]

/-- What the callback returns for a frame: nothing before the first random access frame, which it
records as a sync sample; afterwards every frame, unless it is presented before the last one. -/
theorem onMPEGVideoFrame_snd (r : MPEGVideoRecorder) (frame : List UInt8) (pts : Int) :
    (onMPEGVideoFrame sequenceStartCode groupStartCode bFramesError r (some frame) pts).2 =
      if !r.firstReceived then
        if IsRandomAccess groupStartCode frame then .ok (some ⟨false, frame, pts⟩) else .ok none
      else if pts < r.lastPTS then .error bFramesError
      else .ok (some ⟨!IsRandomAccess groupStartCode frame, frame, pts⟩) := by
  rw [onMPEGVideoFrame_some]
  simp only [configured_firstReceived, configured_lastPTS]
  split_ifs <;> simp_all

/-- The callback leaves the state the configuration leaves, but for the gate and the last PTS. -/
theorem onMPEGVideoFrame_fst (r : MPEGVideoRecorder) (frame : List UInt8) (pts : Int) :
    ∃ received last, (onMPEGVideoFrame sequenceStartCode groupStartCode bFramesError r (some frame) pts).1 =
      { (carriedConfigOf sequenceStartCode groupStartCode frame).elim r (updateConfig · r) with
        firstReceived := received, lastPTS := last } := by
  rw [onMPEGVideoFrame_some]
  simp only
  split_ifs <;> exact ⟨_, _, rfl⟩

theorem onMPEGVideoFrame_config (r : MPEGVideoRecorder) (frame : Option (List UInt8)) (pts : Int) :
    (onMPEGVideoFrame sequenceStartCode groupStartCode bFramesError r frame pts).1.config =
      (frame.bind (carriedConfigOf sequenceStartCode groupStartCode)).getD r.config := by
  cases frame with
  | none => rfl
  | some frame =>
      obtain ⟨received, last, left⟩ := onMPEGVideoFrame_fst sequenceStartCode groupStartCode bFramesError r frame pts
      rw [left, Option.some_bind]
      cases carriedConfigOf sequenceStartCode groupStartCode frame
      · rfl
      · exact updateConfig_config _ r

theorem onMPEGVideoFrame_closesOnChange (r : MPEGVideoRecorder) (frame : Option (List UInt8))
    (pts : Int) :
    ClosesOnChange (·.config) (·.currentSegment) (·.updateCodecsCalls) r
      (onMPEGVideoFrame sequenceStartCode groupStartCode bFramesError r frame pts).1 := by
  cases frame with
  | none => exact .refl r
  | some frame =>
      obtain ⟨received, last, left⟩ := onMPEGVideoFrame_fst sequenceStartCode groupStartCode bFramesError r frame pts
      rw [left]
      have configured : ClosesOnChange (·.config) (·.currentSegment) (·.updateCodecsCalls) r
          ((carriedConfigOf sequenceStartCode groupStartCode frame).elim r (updateConfig · r)) := by
        cases carriedConfigOf sequenceStartCode groupStartCode frame
        · exact .refl r
        · exact updateConfig_closesOnChange _ r
      exact configured.trans (.of_eq rfl rfl rfl)

/-- The last PTS the track has recorded, once it has recorded a frame. -/
def lastRecorded (r : MPEGVideoRecorder) : Option Int :=
  if r.firstReceived then some r.lastPTS else none

/-- A recorded frame is a sample of the frame at its PTS, which is not before the last one recorded
and becomes it, and a sync sample when it is the first; a frame that records nothing changes neither. -/
theorem onMPEGVideoFrame_recorded {r r' : MPEGVideoRecorder} {frame : Option (List UInt8)} {pts : Int}
    {b : Sample}
    (recorded : onMPEGVideoFrame sequenceStartCode groupStartCode bFramesError r frame pts =
      (r', .ok (some b))) :
    frame = some b.payload ∧ b = ⟨!IsRandomAccess groupStartCode b.payload, b.payload, pts⟩ ∧
      (∀ last ∈ lastRecorded r, last ≤ b.dts) ∧ lastRecorded r' = some b.dts ∧
      (r.firstReceived = false → b.isNonSyncSample = false) := by
  cases frame with
  | none => cases recorded
  | some frame =>
      rw [onMPEGVideoFrame_some] at recorded
      have received := configured_firstReceived (carriedConfigOf sequenceStartCode groupStartCode frame) r
      have last := configured_lastPTS (carriedConfigOf sequenceStartCode groupStartCode frame) r
      simp only [lastRecorded] at recorded ⊢
      generalize (carriedConfigOf sequenceStartCode groupStartCode frame).elim r (updateConfig · r) = r₁
        at recorded received last
      split_ifs at recorded <;> cases recorded <;> simp_all

theorem onMPEGVideoFrame_skipped {r r' : MPEGVideoRecorder} {frame : Option (List UInt8)} {pts : Int}
    (skipped : onMPEGVideoFrame sequenceStartCode groupStartCode bFramesError r frame pts =
      (r', .ok none)) :
    r'.firstReceived = r.firstReceived ∧ r'.lastPTS = r.lastPTS := by
  cases frame with
  | none => cases skipped; exact ⟨rfl, rfl⟩
  | some frame =>
      rw [onMPEGVideoFrame_some] at skipped
      cases carried : carriedConfigOf sequenceStartCode groupStartCode frame <;>
        simp only [carried, Option.elim] at skipped <;>
        split_ifs at skipped <;> cases skipped <;> simp

/-! ### Runs -/

/-- Over every run the configuration is the last one the frames carried, or the one the track had. -/
theorem onMPEGVideoFrames_config (units : List (Option (List UInt8) × Int)) (r : MPEGVideoRecorder) :
    (onMPEGVideoFrames sequenceStartCode groupStartCode bFramesError r units).config =
      ((units.filterMap fun unit => unit.1.bind (carriedConfigOf sequenceStartCode groupStartCode)).getLast?).getD
        r.config := by
  induction units generalizing r with
  | nil => rfl
  | cons unit units ih =>
      simp only [onMPEGVideoFrames, List.foldl_cons] at ih ⊢
      rw [ih, onMPEGVideoFrame_config, List.filterMap_cons]
      cases unit.1.bind (carriedConfigOf sequenceStartCode groupStartCode) with
      | none => rfl
      | some config =>
          simp only [Option.getD_some]
          cases last : (units.filterMap fun unit =>
              unit.1.bind (carriedConfigOf sequenceStartCode groupStartCode)).getLast? with
          | none => simp [List.getLast?_eq_none_iff.mp last]
          | some c => simp [List.getLast?_cons, last]

/-- Over every run the callback closes the current segment whenever the configuration changed. -/
theorem onMPEGVideoFrames_closesOnChange (units : List (Option (List UInt8) × Int))
    (r : MPEGVideoRecorder) :
    ClosesOnChange (·.config) (·.currentSegment) (·.updateCodecsCalls) r
      (onMPEGVideoFrames sequenceStartCode groupStartCode bFramesError r units) :=
  foldl_closesOnChange
    (fun r (unit : Option (List UInt8) × Int) =>
      onMPEGVideoFrame_closesOnChange sequenceStartCode groupStartCode bFramesError r unit.1 unit.2)
    units r

variable (record : Sample → Option String)

/-- The first sample a track records, from when it is added, is a sync sample. -/
theorem runMPEGVideo_head_sync (segment : Option FMP4Segment) (config : List UInt8)
    (units : List (Option (List UInt8) × Int)) :
    ∀ b ∈ (runMPEGVideo sequenceStartCode groupStartCode bFramesError record (.init segment config)
      units).2.1.head?, b.isNonSyncSample = false :=
  runTrack_head (fun r (unit : Option (List UInt8) × Int) =>
      onMPEGVideoFrame sequenceStartCode groupStartCode bFramesError r unit.1 unit.2) record
    (fun r : MPEGVideoRecorder => r.firstReceived = false)
    (fun _ _ _ gated skipped =>
      (onMPEGVideoFrame_skipped sequenceStartCode groupStartCode bFramesError skipped).1.trans gated)
    (fun _ _ _ _ gated recorded =>
      (onMPEGVideoFrame_recorded sequenceStartCode groupStartCode bFramesError recorded).2.2.2.2 gated)
    units (.init segment config) rfl

/-- The samples a track records, from when it is added, have non-decreasing DTS, and the first is a
sync sample. -/
theorem runMPEGVideo_dts_sorted (segment : Option FMP4Segment) (config : List UInt8)
    (units : List (Option (List UInt8) × Int)) :
    let samples := (runMPEGVideo sequenceStartCode groupStartCode bFramesError record
      (.init segment config) units).2.1
    (samples.map (·.dts)).Pairwise (· ≤ ·) ∧ ∀ b ∈ samples.head?, b.isNonSyncSample = false := by
  have chain := runTrack_chain (fun r (unit : Option (List UInt8) × Int) =>
      onMPEGVideoFrame sequenceStartCode groupStartCode bFramesError r unit.1 unit.2) record
    (R := (· ≤ ·)) (·.dts) lastRecorded
    (fun _ _ _ _ recorded =>
      have facts := onMPEGVideoFrame_recorded sequenceStartCode groupStartCode bFramesError recorded
      ⟨facts.2.2.1, facts.2.2.2.1⟩)
    (fun _ _ _ skipped => by
      obtain ⟨received, last⟩ := onMPEGVideoFrame_skipped sequenceStartCode groupStartCode bFramesError skipped
      simp only [lastRecorded, received, last])
    units (.init segment config)
  exact ⟨List.chain'_iff_pairwise.mp chain.2,
    runMPEGVideo_head_sync sequenceStartCode groupStartCode bFramesError record segment config units⟩

/-- The frames of a run, with their PTS. -/
def framesOf (units : List (Option (List UInt8) × Int)) : List (List UInt8 × Int) :=
  units.filterMap fun unit => unit.1.map (·, unit.2)

/-- The sample of a frame once the track has received a random access frame. -/
def sampleOf (frame : List UInt8 × Int) : Sample :=
  ⟨!IsRandomAccess groupStartCode frame.1, frame.1, frame.2⟩

section RecordOk

variable (recordOk : ∀ b, record b = none)

include recordOk in
/-- After the first random access frame, a track that does not fail records every frame while the
PTS do not decrease from the last one recorded, and stops at the first that does with the B-frames
error. -/
theorem runMPEGVideo_received (units : List (Option (List UInt8) × Int)) :
    ∀ r : MPEGVideoRecorder, r.firstReceived = true →
      let run := runMPEGVideo sequenceStartCode groupStartCode bFramesError record r units
      let ordered := ((framesOf units).map (·.2)).Chain (· ≤ ·) r.lastPTS
      run.2.2 = (if ordered then none else some bFramesError) ∧
        (ordered → run.2.1 = (framesOf units).map (sampleOf groupStartCode)) := by
  induction units with
  | nil => simp [runMPEGVideo, runTrack, framesOf]
  | cons unit units ih =>
      intro r received
      obtain ⟨frame?, pts⟩ := unit
      cases frame? with
      | none => simpa [runMPEGVideo, runTrack, framesOf, onMPEGVideoFrame] using ih r received
      | some frame =>
          have snd := onMPEGVideoFrame_snd sequenceStartCode groupStartCode bFramesError r frame pts
          simp only [received, Bool.not_true, Bool.false_eq_true, if_false] at snd
          rcases called : onMPEGVideoFrame sequenceStartCode groupStartCode bFramesError r (some frame) pts
            with ⟨r', res⟩
          rw [called] at snd
          simp only [runMPEGVideo, runTrack] at ih ⊢
          by_cases before : pts < r.lastPTS
          · rw [if_pos before] at snd
            subst snd
            simp [called, framesOf, before]
          · rw [if_neg before] at snd
            subst snd
            obtain ⟨-, -, -, last, -⟩ := onMPEGVideoFrame_recorded sequenceStartCode groupStartCode
              bFramesError called
            simp only [lastRecorded] at last
            split_ifs at last with received'
            obtain ⟨rfl⟩ := last
            obtain ⟨errors, samples⟩ := ih r' received'
            simp only [called, recordOk, framesOf, Option.map_some', List.filterMap_cons,
              List.map_cons, List.chain_cons, not_lt.mp before, true_and] at errors samples ⊢
            exact ⟨errors, fun ordered => by rw [samples ordered]; rfl⟩

include recordOk in
/-- A track that does not fail records, from when it is added, the frames from the first random
access frame on, and ends without error, exactly when their PTS do not decrease; otherwise it stops
with the B-frames error. -/
theorem runMPEGVideo_of_recordOk (segment : Option FMP4Segment) (config : List UInt8)
    (units : List (Option (List UInt8) × Int)) :
    let run := runMPEGVideo sequenceStartCode groupStartCode bFramesError record
      (.init segment config) units
    let frames := (framesOf units).dropWhile fun frame => !IsRandomAccess groupStartCode frame.1
    let ordered := (frames.map (·.2) : List Int).Chain' (· ≤ ·)
    run.2.2 = (if ordered then none else some bFramesError) ∧
      (ordered → run.2.1 = frames.map (sampleOf groupStartCode)) := by
  suffices ∀ r : MPEGVideoRecorder, r.firstReceived = false →
      let run := runMPEGVideo sequenceStartCode groupStartCode bFramesError record r units
      let frames := (framesOf units).dropWhile fun frame => !IsRandomAccess groupStartCode frame.1
      let ordered := (frames.map (·.2) : List Int).Chain' (· ≤ ·)
      run.2.2 = (if ordered then none else some bFramesError) ∧
        (ordered → run.2.1 = frames.map (sampleOf groupStartCode)) from this _ rfl
  induction units with
  | nil => simp [runMPEGVideo, runTrack, framesOf]
  | cons unit units ih =>
      intro r waiting
      obtain ⟨frame?, pts⟩ := unit
      cases frame? with
      | none => simpa [runMPEGVideo, runTrack, framesOf, onMPEGVideoFrame] using ih r waiting
      | some frame =>
          have snd := onMPEGVideoFrame_snd sequenceStartCode groupStartCode bFramesError r frame pts
          simp only [waiting, Bool.not_false, if_true] at snd
          rcases called : onMPEGVideoFrame sequenceStartCode groupStartCode bFramesError r (some frame) pts
            with ⟨r', res⟩
          rw [called] at snd
          simp only [runMPEGVideo, runTrack] at ih ⊢
          by_cases random : IsRandomAccess groupStartCode frame
          · rw [if_pos random] at snd
            subst snd
            obtain ⟨-, -, -, last, -⟩ := onMPEGVideoFrame_recorded sequenceStartCode groupStartCode
              bFramesError called
            simp only [lastRecorded] at last
            split_ifs at last with received
            obtain ⟨rfl⟩ := last
            have next := runMPEGVideo_received sequenceStartCode groupStartCode bFramesError record
              recordOk units r' received
            simp only [runMPEGVideo] at next
            obtain ⟨errors, samples⟩ := next
            simp only [called, recordOk, framesOf, Option.map_some', List.filterMap_cons, random,
              Bool.not_true, Bool.false_eq_true, not_false_eq_true, List.dropWhile_cons_of_neg,
              List.map_cons, List.Chain'] at errors samples ⊢
            exact ⟨errors, fun ordered => by rw [samples ordered, sampleOf, random]; rfl⟩
          · rw [if_neg random] at snd
            subst snd
            obtain ⟨received, -⟩ := onMPEGVideoFrame_skipped sequenceStartCode groupStartCode
              bFramesError called
            simpa [called, framesOf, random] using ih r' (received.trans waiting)

/-- An MPEG-1 Video stream whose third frame is presented before the second. -/
theorem runMPEGVideo_of_recordOk_bFrames :
    let units : List (Option (List UInt8) × Int) :=
      [(some [1], 0), (some [0, 0, 1, 0xB3, 0, 0, 1, 0xB8], 1), (none, 2), (some [2], 4), (some [3], 3)]
    let run := runMPEGVideo 0xB3 0xB8 "MPEG-1 Video streams with B-frames are not supported (yet)"
      (fun _ => none) (.init none initialConfigMPEG1Video) units
    let frames := (framesOf units).dropWhile fun frame => !IsRandomAccess 0xB8 frame.1
    let ordered := (frames.map (·.2) : List Int).Chain' (· ≤ ·)
    run.2.2 = (if ordered then none else some "MPEG-1 Video streams with B-frames are not supported (yet)") ∧
      (ordered → run.2.1 = frames.map (sampleOf 0xB8)) :=
  runMPEGVideo_of_recordOk 0xB3 0xB8 _ (fun _ => none) (fun _ => rfl) _ _ _

example : (runMPEGVideo 0xB3 0xB8 "MPEG-1 Video streams with B-frames are not supported (yet)"
    (fun _ => none) (.init none initialConfigMPEG1Video)
    [(some [1], 0), (some [0, 0, 1, 0xB3, 0, 0, 1, 0xB8], 1), (none, 2), (some [2], 4),
      (some [3], 3)]).2 =
    ([⟨false, [0, 0, 1, 0xB3, 0, 0, 1, 0xB8], 1⟩, ⟨true, [2], 4⟩],
      some "MPEG-1 Video streams with B-frames are not supported (yet)") := by
  decide

end RecordOk

end Callback

end Record
end RtspSimpleServer
