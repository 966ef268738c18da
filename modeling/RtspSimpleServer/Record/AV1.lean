import RtspSimpleServer.Record.Track

/-!
# The AV1 track of the fMP4 recorder

The callback walks the OBUs of a temporal unit: a sequence header replaces the codec's and marks a
random access unit, and nothing is recorded before the first one.  Over every run the codec holds
the last sequence header read, a change of it closes the current segment, and the first sample is
a sync sample.
-/

namespace RtspSimpleServer
namespace Record

/-- `av1.OBUTypeSequenceHeader`. -/
def OBUTypeSequenceHeader : UInt8 := 1

/-- What the AV1 callback reads and writes: the recorder's current segment, the codec's
`SequenceHeader`, `firstReceived`, and, as ghost state, how many times the callback has called
`updateCodecs`. -/
structure AV1Recorder where
  currentSegment : Option FMP4Segment
  sequenceHeader : List UInt8
  firstReceived : Bool
  updateCodecsCalls : Nat
  deriving DecidableEq, Repr

/-- The state when the track is added, with the recorder's current segment and the default
sequence header. -/
def AV1Recorder.init (currentSegment : Option FMP4Segment) : AV1Recorder :=
  ⟨currentSegment, [8, 0, 0, 0, 66, 167, 191, 228, 96, 13, 0, 64], false, 0⟩

/-- `if !bytes.Equal(codec.SequenceHeader, obu) { codec.SequenceHeader = obu; updateCodecs() }`. -/
def updateSequenceHeader (obu : List UInt8) (r : AV1Recorder) : AV1Recorder :=
  if r.sequenceHeader ≠ obu then
    { r with
      sequenceHeader := obu
      currentSegment := updateCodecs r.currentSegment
      updateCodecsCalls := r.updateCodecsCalls + 1 }
  else r

section Callback

variable (unmarshalOBUHeader : List UInt8 → Except String UInt8)
  (bitstreamMarshal : List (List UInt8) → Except String (List UInt8))

/-- The loop over the OBUs of a temporal unit, from whether a sequence header has been seen: it
stops at the first OBU whose header does not parse. -/
def scanOBUs : AV1Recorder → Bool → List (List UInt8) → AV1Recorder × Except String Bool
  | r, randomAccess, [] => (r, .ok randomAccess)
  | r, randomAccess, obu :: tu =>
      match unmarshalOBUHeader obu with
      | .error err => (r, .error err)
      | .ok typ =>
          if typ = OBUTypeSequenceHeader then scanOBUs (updateSequenceHeader obu r) true tu
          else scanOBUs r randomAccess tu

/-- `fmp4.NewPartSampleAV1`: the temporal unit as a bitstream (`bitstreamMarshal` is
`av1.BitstreamMarshal`), a sync sample when it is a random access unit. -/
def newPartSampleAV1 (randomAccess : Bool) (tu : List (List UInt8)) : Except String PartSample :=
  (bitstreamMarshal tu).map fun bs => ⟨0, !randomAccess, bs⟩

/-- The AV1 track's callback on a unit with temporal unit `tu` (nil is `none`) and time stamp
`pts`.  It returns the sample it hands `track.record`, if any. -/
def onAV1Unit (r : AV1Recorder) (tu : Option (List (List UInt8))) (pts : Int) :
    AV1Recorder × Except String (Option Sample) :=
  match tu with
  | none => (r, .ok none)
  | some tu =>
      match scanOBUs unmarshalOBUHeader r false tu with
      | (r, .error err) => (r, .error err)
      | (r, .ok randomAccess) =>
          if !r.firstReceived && !randomAccess then (r, .ok none)
          else
            let r := { r with firstReceived := true }
            match newPartSampleAV1 bitstreamMarshal randomAccess tu with
            | .error err => (r, .error err)
            | .ok sampl => (r, .ok (some ⟨sampl.isNonSyncSample, sampl.payload, pts⟩))

/-- The callback on each unit in turn. -/
def onAV1Units (r : AV1Recorder) (units : List (Option (List (List UInt8)) × Int)) : AV1Recorder :=
  units.foldl (fun r unit => (onAV1Unit unmarshalOBUHeader bitstreamMarshal r unit.1 unit.2).1) r

/-- The recorder's writer on the track. -/
def runAV1 (record : Sample → Option String) (r : AV1Recorder)
    (units : List (Option (List (List UInt8)) × Int)) : AV1Recorder × List Sample × Option String :=
  runTrack (fun r (unit : Option (List (List UInt8)) × Int) =>
    onAV1Unit unmarshalOBUHeader bitstreamMarshal r unit.1 unit.2) record r units

/-- An OBU whose header parses as a sequence header's. -/
def IsSequenceHeader (obu : List UInt8) : Bool :=
  match unmarshalOBUHeader obu with
  | .ok typ => typ = OBUTypeSequenceHeader
  | .error _ => false

/-- The sequence headers among the OBUs the loop reads: those before the first OBU whose header
does not parse. -/
def sequenceHeaders (tu : List (List UInt8)) : List (List UInt8) :=
  (tu.takeWhile fun obu => (unmarshalOBUHeader obu).toBool).filter (IsSequenceHeader unmarshalOBUHeader)

/-! ### One unit -/

theorem updateSequenceHeader_sequenceHeader (obu : List UInt8) (r : AV1Recorder) :
    (updateSequenceHeader obu r).sequenceHeader = obu := by
  unfold updateSequenceHeader
  split_ifs with differs
  · rfl
  · exact not_not.mp differs

@[simp] theorem updateSequenceHeader_firstReceived (obu : List UInt8) (r : AV1Recorder) :
    (updateSequenceHeader obu r).firstReceived = r.firstReceived := by
  unfold updateSequenceHeader
  split_ifs <;> rfl

theorem updateSequenceHeader_closesOnChange (obu : List UInt8) (r : AV1Recorder) :
    ClosesOnChange (·.sequenceHeader) (·.currentSegment) (·.updateCodecsCalls) r
      (updateSequenceHeader obu r) := by
  unfold updateSequenceHeader
  split_ifs
  · exact .of_call rfl rfl
  · exact .refl r

theorem sequenceHeaders_cons (obu : List UInt8) (tu : List (List UInt8)) :
    sequenceHeaders unmarshalOBUHeader (obu :: tu) =
      match unmarshalOBUHeader obu with
      | .error _ => []
      | .ok typ =>
          if typ = OBUTypeSequenceHeader then obu :: sequenceHeaders unmarshalOBUHeader tu
          else sequenceHeaders unmarshalOBUHeader tu := by
  simp only [sequenceHeaders, List.takeWhile_cons]
  cases parsed : unmarshalOBUHeader obu with
  | error err => rfl
  | ok typ =>
      by_cases header : typ = OBUTypeSequenceHeader <;>
        simp [Except.toBool, List.filter_cons, IsSequenceHeader, parsed, header]

/-- The loop leaves the last sequence header it read, or the one the codec had. -/
theorem scanOBUs_sequenceHeader (tu : List (List UInt8)) :
    ∀ (r : AV1Recorder) randomAccess, (scanOBUs unmarshalOBUHeader r randomAccess tu).1.sequenceHeader =
      (sequenceHeaders unmarshalOBUHeader tu).getLast?.getD r.sequenceHeader := by
  induction tu with
  | nil => simp [scanOBUs, sequenceHeaders]
  | cons obu tu ih =>
      intro r randomAccess
      rw [sequenceHeaders_cons]
      simp only [scanOBUs]
      cases unmarshalOBUHeader obu with
      | error err => rfl
      | ok typ =>
          simp only
          split_ifs
          · rw [ih, updateSequenceHeader_sequenceHeader, List.getLast?_cons]
            rfl
          · exact ih r randomAccess

@[simp] theorem scanOBUs_firstReceived (tu : List (List UInt8)) :
    ∀ (r : AV1Recorder) randomAccess,
      (scanOBUs unmarshalOBUHeader r randomAccess tu).1.firstReceived = r.firstReceived := by
  induction tu with
  | nil => simp [scanOBUs]
  | cons obu tu ih =>
      intro r randomAccess
      simp only [scanOBUs]
      split
      · rfl
      · split_ifs <;> simp [ih]

/-- A loop that reads every OBU tells whether the unit has a sequence header. -/
theorem scanOBUs_snd {tu : List (List UInt8)} :
    ∀ {r : AV1Recorder} {randomAccess randomAccess' : Bool},
      (scanOBUs unmarshalOBUHeader r randomAccess tu).2 = .ok randomAccess' →
      randomAccess' = (randomAccess || tu.any (IsSequenceHeader unmarshalOBUHeader)) := by
  induction tu with
  | nil => intro _ _ _ read; cases read; simp
  | cons obu tu ih =>
      intro r randomAccess randomAccess' read
      simp only [scanOBUs] at read
      split at read
      · cases read
      · rename_i typ parsed
        split_ifs at read with header
        · rw [ih read]
          simp [IsSequenceHeader, parsed, header]
        · rw [ih read]
          simp [IsSequenceHeader, parsed, header]

theorem scanOBUs_closesOnChange (tu : List (List UInt8)) :
    ∀ (r : AV1Recorder) randomAccess,
      ClosesOnChange (·.sequenceHeader) (·.currentSegment) (·.updateCodecsCalls) r
        (scanOBUs unmarshalOBUHeader r randomAccess tu).1 := by
  induction tu with
  | nil => exact fun r _ => .refl r
  | cons obu tu ih =>
      intro r randomAccess
      simp only [scanOBUs]
      split
      · exact .refl r
      · split_ifs
        · exact (updateSequenceHeader_closesOnChange obu r).trans (ih _ true)
        · exact ih r randomAccess

/-- The callback leaves the state the loop leaves, but for the gate. -/
theorem onAV1Unit_fst (r : AV1Recorder) (tu : List (List UInt8)) (pts : Int) :
    ∃ received, (onAV1Unit unmarshalOBUHeader bitstreamMarshal r (some tu) pts).1 =
      { (scanOBUs unmarshalOBUHeader r false tu).1 with firstReceived := received } := by
  rcases scanned : scanOBUs unmarshalOBUHeader r false tu with ⟨r₁, _ | randomAccess⟩
  · simp only [onAV1Unit, scanned]
    exact ⟨r₁.firstReceived, rfl⟩
  · simp only [onAV1Unit, scanned]
    split
    · exact ⟨r₁.firstReceived, rfl⟩
    · split <;> exact ⟨true, rfl⟩

theorem onAV1Unit_closesOnChange (r : AV1Recorder) (tu : Option (List (List UInt8))) (pts : Int) :
    ClosesOnChange (·.sequenceHeader) (·.currentSegment) (·.updateCodecsCalls) r
      (onAV1Unit unmarshalOBUHeader bitstreamMarshal r tu pts).1 := by
  cases tu with
  | none => exact .refl r
  | some tu =>
      obtain ⟨received, left⟩ := onAV1Unit_fst unmarshalOBUHeader bitstreamMarshal r tu pts
      rw [left]
      exact (scanOBUs_closesOnChange unmarshalOBUHeader tu r false).trans (.of_eq rfl rfl rfl)

/-- A recorded sample is the temporal unit at its PTS, a sync sample exactly when the unit has a
sequence header, and a track that had received none records only such a unit. -/
theorem onAV1Unit_recorded {r r' : AV1Recorder} {tu? : Option (List (List UInt8))} {pts : Int}
    {b : Sample}
    (recorded : onAV1Unit unmarshalOBUHeader bitstreamMarshal r tu? pts = (r', .ok (some b))) :
    ∃ tu, tu? = some tu ∧ b.dts = pts ∧
      b.isNonSyncSample = !tu.any (IsSequenceHeader unmarshalOBUHeader) ∧
      bitstreamMarshal tu = .ok b.payload ∧
      (r.firstReceived = false → b.isNonSyncSample = false) ∧ r'.firstReceived = true := by
  cases tu? with
  | none => cases recorded
  | some tu =>
      refine ⟨tu, rfl, ?_⟩
      simp only [onAV1Unit] at recorded
      split at recorded
      · cases recorded
      · rename_i scanned_r randomAccess scanned
        have random := scanOBUs_snd unmarshalOBUHeader (congrArg Prod.snd scanned)
        have received := scanOBUs_firstReceived unmarshalOBUHeader tu r false
        rw [scanned] at received
        rw [Bool.false_or] at random
        split at recorded
        · cases recorded
        · rename_i gate
          split at recorded
          · cases recorded
          · rename_i sampl made
            cases recorded
            simp only [newPartSampleAV1] at made
            cases marshalled : bitstreamMarshal tu <;> simp only [marshalled, Except.map] at made <;>
              cases made
            refine ⟨rfl, by rw [random], rfl, fun waiting => ?_, rfl⟩
            simp_all

theorem onAV1Unit_skipped {r r' : AV1Recorder} {tu : Option (List (List UInt8))} {pts : Int}
    (skipped : onAV1Unit unmarshalOBUHeader bitstreamMarshal r tu pts = (r', .ok none)) :
    r'.firstReceived = r.firstReceived := by
  cases tu with
  | none => cases skipped; rfl
  | some tu =>
      simp only [onAV1Unit] at skipped
      split at skipped
      · cases skipped
      · rename_i scanned_r randomAccess scanned
        have received := scanOBUs_firstReceived unmarshalOBUHeader tu r false
        rw [scanned] at received
        split at skipped
        · cases skipped
          exact received
        · split at skipped <;> cases skipped

/-! ### Runs -/

/-- Over every run the codec's sequence header is the last sequence header among the OBUs the
callback read, or the one it had. -/
theorem onAV1Units_sequenceHeader (units : List (Option (List (List UInt8)) × Int)) (r : AV1Recorder) :
    (onAV1Units unmarshalOBUHeader bitstreamMarshal r units).sequenceHeader =
      ((units.filterMap (·.1)).flatMap (sequenceHeaders unmarshalOBUHeader)).getLast?.getD
        r.sequenceHeader := by
  induction units generalizing r with
  | nil => rfl
  | cons unit units ih =>
      obtain ⟨tu, pts⟩ := unit
      simp only [onAV1Units, List.foldl_cons] at ih ⊢
      rw [ih]
      cases tu with
      | none => rfl
      | some tu =>
          obtain ⟨received, left⟩ := onAV1Unit_fst unmarshalOBUHeader bitstreamMarshal r tu pts
          rw [left]
          show _ = (((sequenceHeaders unmarshalOBUHeader tu) ++
            (units.filterMap (·.1)).flatMap (sequenceHeaders unmarshalOBUHeader)).getLast?).getD _
          rw [List.getLast?_append, scanOBUs_sequenceHeader]
          cases ((units.filterMap (·.1)).flatMap (sequenceHeaders unmarshalOBUHeader)).getLast? <;> rfl

/-- Over every run the callback closes the current segment whenever the sequence header changed. -/
theorem onAV1Units_closesOnChange (units : List (Option (List (List UInt8)) × Int)) (r : AV1Recorder) :
    ClosesOnChange (·.sequenceHeader) (·.currentSegment) (·.updateCodecsCalls) r
      (onAV1Units unmarshalOBUHeader bitstreamMarshal r units) :=
  foldl_closesOnChange
    (fun r (unit : Option (List (List UInt8)) × Int) =>
      onAV1Unit_closesOnChange unmarshalOBUHeader bitstreamMarshal r unit.1 unit.2) units r

/-- The first sample a track records is a sync sample. -/
theorem runAV1_head_sync (record : Sample → Option String) (segment : Option FMP4Segment)
    (units : List (Option (List (List UInt8)) × Int)) :
    ∀ b ∈ (runAV1 unmarshalOBUHeader bitstreamMarshal record (.init segment) units).2.1.head?,
      b.isNonSyncSample = false :=
  runTrack_head (fun r (unit : Option (List (List UInt8)) × Int) =>
      onAV1Unit unmarshalOBUHeader bitstreamMarshal r unit.1 unit.2) record
    (fun r : AV1Recorder => r.firstReceived = false)
    (fun _ _ _ gated skipped => (onAV1Unit_skipped unmarshalOBUHeader bitstreamMarshal skipped).trans gated)
    (fun _ _ _ _ gated recorded => by
      obtain ⟨_, -, -, -, -, first, -⟩ := onAV1Unit_recorded unmarshalOBUHeader bitstreamMarshal recorded
      exact first gated)
    units (.init segment) rfl

end Callback

end Record
end RtspSimpleServer
