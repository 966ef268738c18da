import RtspSimpleServer.Record.Track
import RtspSimpleServer.Rtmp.Reader
import RtspSimpleServer.FormatProcessor.H265

/-!
# The H.264 and H.265 tracks of the fMP4 recorder

The two callbacks are one function of the codec's NAL unit kinds.  Over every run the codec holds
the last parameter set of each type, a change of it closes the current segment, and the samples
recorded are the access units from the first random access unit on.
-/

namespace RtspSimpleServer
namespace Record

open FormatProcessor RtmpConn

/-- What the H.264 and H.265 callbacks read and write: the recorder's current segment; the codec's
parameter sets (`SPS` and `PPS`, and `VPS` for H.265), each under the type of the NAL unit that
carries it; the DTS extractor, nil until a random access unit arrives; and, as ghost state, how many
times the callback has called `updateCodecs`. -/
structure H26xRecorder (Ext : Type) where
  currentSegment : Option FMP4Segment
  params : UInt8 → List UInt8
  dtsExtractor : Option Ext
  updateCodecsCalls : Nat

/-- The state when the track is added: the recorder's current segment and the codec's parameter
sets. -/
def H26xRecorder.init {Ext : Type} (currentSegment : Option FMP4Segment)
    (params : UInt8 → List UInt8) : H26xRecorder Ext :=
  ⟨currentSegment, params, none, 0⟩

/-- The parameter sets the H.264 track is added with: the format's (`SafeParams()`), or, when one of
them is nil, a default SPS and PPS. -/
def initialParamsH264 (sps pps : Option (List UInt8)) : UInt8 → List UInt8 :=
  let sets : List UInt8 × List UInt8 :=
    match sps, pps with
    | some sps, some pps => (sps, pps)
    | _, _ =>
        ([0x67, 0x42, 0xc0, 0x1f, 0xd9, 0x00, 0xf0, 0x11, 0x7e, 0xf0, 0x11, 0x00, 0x00, 0x03,
          0x00, 0x01, 0x00, 0x00, 0x03, 0x00, 0x30, 0x8f, 0x18, 0x32, 0x48],
         [0x68, 0xcb, 0x8c, 0xb2])
  fun typ => if typ = H264.NALUTypeSPS then sets.1 else if typ = H264.NALUTypePPS then sets.2 else []

/-- The parameter sets the H.265 track is added with: the format's, or, when one of them is nil, a
default VPS, SPS and PPS. -/
def initialParamsH265 (vps sps pps : Option (List UInt8)) : UInt8 → List UInt8 :=
  let sets : List UInt8 × List UInt8 × List UInt8 :=
    match vps, sps, pps with
    | some vps, some sps, some pps => (vps, sps, pps)
    | _, _, _ =>
        ([0x40, 0x01, 0x0c, 0x01, 0xff, 0xff, 0x02, 0x20, 0x00, 0x00, 0x03, 0x00, 0xb0, 0x00,
          0x00, 0x03, 0x00, 0x00, 0x03, 0x00, 0x7b, 0x18, 0xb0, 0x24],
         [0x42, 0x01, 0x01, 0x02, 0x20, 0x00, 0x00, 0x03, 0x00, 0xb0, 0x00, 0x00, 0x03, 0x00,
          0x00, 0x03, 0x00, 0x7b, 0xa0, 0x07, 0x82, 0x00, 0x88, 0x7d, 0xb6, 0x71, 0x8b, 0x92,
          0x44, 0x80, 0x53, 0x88, 0x88, 0x92, 0xcf, 0x24, 0xa6, 0x92, 0x72, 0xc9, 0x12, 0x49,
          0x22, 0xdc, 0x91, 0xaa, 0x48, 0xfc, 0xa2, 0x23, 0xff, 0x00, 0x01, 0x00, 0x01, 0x6a,
          0x02, 0x02, 0x02, 0x01],
         [0x44, 0x01, 0xc0, 0x25, 0x2f, 0x05, 0x32, 0x40])
  fun typ =>
    if typ = H265.NALUType_VPS_NUT then sets.1
    else if typ = H265.NALUType_SPS_NUT then sets.2.1
    else if typ = H265.NALUType_PPS_NUT then sets.2.2
    else []

/-- An access unit has a NAL unit of a random access type, which the callback's switch reaches only
for a type that is not a parameter set's. -/
def randomAccessPresent (kinds : NALUKinds) (au : List (List UInt8)) : Bool :=
  au.any fun nalu => kinds.naluType nalu ∉ kinds.paramTypes ∧ kinds.naluType nalu ∈ kinds.keyTypes

/-- For H.264 a random access unit is one with an IDR, as for the RTMP reader. -/
theorem randomAccessPresent_h264 : randomAccessPresent H264.kinds = idrPresent := by
  funext au
  simp only [randomAccessPresent, idrPresent, H264.kinds_naluType]
  congr
  funext nalu
  apply decide_eq_decide.mpr
  simp only [H264.kinds, List.mem_cons, List.mem_singleton, List.not_mem_nil, or_false]
  exact ⟨And.right, fun idr => ⟨by rw [idr]; decide, idr⟩⟩

/-- The `sample` an H.264 or H.265 callback hands `track.record`: a part sample and its DTS. -/
structure H26xSample where
  partSample : PartSample
  dts : Int
  deriving DecidableEq, Repr

/-- `int32(x)` of a `uint64`: its low 32 bits in two's complement. -/
def toInt32 (x : UInt64) : Int :=
  let low : Nat := x.toNat % 2 ^ 32
  if low < 2 ^ 31 then (low : Int) else (low : Int) - 2 ^ 32

section Callback

variable {Ext : Type} (kinds : NALUKinds) (lib : DTSExtractorLib Ext)
  (avccMarshal : List (List UInt8) → Except String (List UInt8))

/-- `fmp4.NewPartSampleH26x`: the access unit in AVCC format (`avccMarshal` is `h264.AVCCMarshal`),
a sync sample when it has a random access NAL unit. -/
def newPartSampleH26x (ptsOffset : Int) (randomAccess : Bool) (au : List (List UInt8)) :
    Except String PartSample :=
  (avccMarshal au).map fun avcc => ⟨ptsOffset, !randomAccess, avcc⟩

/-- One turn of the loop over the NAL units of an access unit: a parameter set that differs from the
codec's replaces it and calls `updateCodecs`; a random access NAL unit sets `randomAccess`. -/
def recordNALU : H26xRecorder Ext × Bool → List UInt8 → H26xRecorder Ext × Bool
  | (r, randomAccess), nalu =>
      let typ := kinds.naluType nalu
      if typ ∈ kinds.paramTypes then
        if r.params typ ≠ nalu then
          ({ r with
              params := Function.update r.params typ nalu
              currentSegment := updateCodecs r.currentSegment
              updateCodecsCalls := r.updateCodecsCalls + 1 }, randomAccess)
        else (r, randomAccess)
      else if typ ∈ kinds.keyTypes then (r, true)
      else (r, randomAccess)

/-- The rest of the callback once the track has a DTS extractor: the access unit's DTS, its PTS
offset at 90 kHz, and the sample. -/
def recordAccessUnit (r : H26xRecorder Ext) (ext : Ext) (randomAccess : Bool)
    (au : List (List UInt8)) (pts : Int) : H26xRecorder Ext × Except String (Option H26xSample) :=
  let extracted := lib.extract ext au pts
  let r := { r with dtsExtractor := some extracted.1 }
  match extracted.2 with
  | .error err => (r, .error err)
  | .ok dts =>
      match newPartSampleH26x avccMarshal (toInt32 (durationGoToMp4 (pts - dts) 90000)) randomAccess au with
      | .error err => (r, .error err)
      | .ok sampl => (r, .ok (some ⟨sampl, dts⟩))

/-- The callback of an H.264 or H.265 track on a unit with access unit `au` (nil is `none`) and time
stamp `pts`.  It returns the sample it hands `track.record`, if any. -/
def onH26xUnit (r : H26xRecorder Ext) (au : Option (List (List UInt8))) (pts : Int) :
    H26xRecorder Ext × Except String (Option H26xSample) :=
  match au with
  | none => (r, .ok none)
  | some au =>
      let loop := au.foldl (recordNALU kinds) (r, false)
      let r := loop.1
      let randomAccess := loop.2
      match r.dtsExtractor with
      | none =>
          if !randomAccess then (r, .ok none)
          else recordAccessUnit lib avccMarshal r lib.newDTSExtractor randomAccess au pts
      | some ext => recordAccessUnit lib avccMarshal r ext randomAccess au pts

/-- The callback on each unit in turn. -/
def onH26xUnits (r : H26xRecorder Ext) (units : List (Option (List (List UInt8)) × Int)) :
    H26xRecorder Ext :=
  units.foldl (fun r unit => (onH26xUnit kinds lib avccMarshal r unit.1 unit.2).1) r

/-- The recorder's writer on the track. -/
def runH26x (record : H26xSample → Option String) (r : H26xRecorder Ext)
    (units : List (Option (List (List UInt8)) × Int)) :
    H26xRecorder Ext × List H26xSample × Option String :=
  runTrack (fun r (unit : Option (List (List UInt8)) × Int) => onH26xUnit kinds lib avccMarshal r unit.1 unit.2)
    record r units

end Callback

/-- The H.264 track's callback. -/
def onH264Unit {Ext : Type} (lib : DTSExtractorLib Ext)
    (avccMarshal : List (List UInt8) → Except String (List UInt8)) (r : H26xRecorder Ext)
    (au : Option (List (List UInt8))) (pts : Int) :
    H26xRecorder Ext × Except String (Option H26xSample) :=
  onH26xUnit H264.kinds lib avccMarshal r au pts

/-- The H.265 track's callback. -/
def onH265Unit {Ext : Type} (lib : DTSExtractorLib Ext)
    (avccMarshal : List (List UInt8) → Except String (List UInt8)) (r : H26xRecorder Ext)
    (au : Option (List (List UInt8))) (pts : Int) :
    H26xRecorder Ext × Except String (Option H26xSample) :=
  onH26xUnit H265.kinds lib avccMarshal r au pts

section Lemmas

variable {Ext : Type} (kinds : NALUKinds) (lib : DTSExtractorLib Ext)
  (avccMarshal : List (List UInt8) → Except String (List UInt8))

/-! ### The loop over the NAL units -/

theorem recordNALU_snd (r : H26xRecorder Ext) (randomAccess : Bool) (nalu : List UInt8) :
    (recordNALU kinds (r, randomAccess) nalu).2 = (randomAccess || randomAccessPresent kinds [nalu]) := by
  simp only [recordNALU, randomAccessPresent, List.any_cons, List.any_nil, Bool.or_false]
  split_ifs <;> simp_all

theorem recordNALU_dtsExtractor (r : H26xRecorder Ext) (randomAccess : Bool) (nalu : List UInt8) :
    (recordNALU kinds (r, randomAccess) nalu).1.dtsExtractor = r.dtsExtractor := by
  simp only [recordNALU]
  split_ifs <;> rfl

/-- A parameter set ends in the codec, whether it differed or not. -/
theorem recordNALU_params (r : H26xRecorder Ext) (randomAccess : Bool) (nalu : List UInt8)
    (typ : UInt8) :
    (recordNALU kinds (r, randomAccess) nalu).1.params typ =
      if kinds.naluType nalu = typ ∧ typ ∈ kinds.paramTypes then nalu else r.params typ := by
  simp only [recordNALU]
  by_cases typed : kinds.naluType nalu = typ
  · subst typed
    split_ifs <;> simp_all
  · split_ifs <;> simp_all [Function.update_apply, Ne.symm typed]

theorem recordNALU_closesOnChange (acc : H26xRecorder Ext × Bool) (nalu : List UInt8) :
    ClosesOnChange (·.1.params) (·.1.currentSegment) (·.1.updateCodecsCalls) acc
      (recordNALU kinds acc nalu) := by
  obtain ⟨r, randomAccess⟩ := acc
  simp only [recordNALU]
  split_ifs
  · exact .of_call rfl rfl
  all_goals exact .of_eq rfl rfl rfl

theorem foldl_recordNALU_snd (au : List (List UInt8)) (r : H26xRecorder Ext) (randomAccess : Bool) :
    (au.foldl (recordNALU kinds) (r, randomAccess)).2 = (randomAccess || randomAccessPresent kinds au) := by
  induction au generalizing r randomAccess with
  | nil => simp [randomAccessPresent]
  | cons nalu au ih =>
      rw [List.foldl_cons, ← Prod.mk.eta (p := recordNALU kinds (r, randomAccess) nalu), ih,
        recordNALU_snd]
      simp only [randomAccessPresent, List.any_cons, List.any_nil, Bool.or_false, Bool.or_assoc]

theorem foldl_recordNALU_dtsExtractor (au : List (List UInt8)) (r : H26xRecorder Ext)
    (randomAccess : Bool) :
    (au.foldl (recordNALU kinds) (r, randomAccess)).1.dtsExtractor = r.dtsExtractor := by
  induction au generalizing r randomAccess with
  | nil => rfl
  | cons nalu au ih =>
      rw [List.foldl_cons, ← Prod.mk.eta (p := recordNALU kinds (r, randomAccess) nalu), ih,
        recordNALU_dtsExtractor]

/-- After the loop the codec holds, for each type of parameter set, the last one of the access
unit, or the one it had. -/
theorem foldl_recordNALU_params (au : List (List UInt8)) (r : H26xRecorder Ext) (randomAccess : Bool)
    (typ : UInt8) :
    (au.foldl (recordNALU kinds) (r, randomAccess)).1.params typ =
      if typ ∈ kinds.paramTypes then (kinds.lastOfType typ au).getD (r.params typ)
      else r.params typ := by
  induction au generalizing r randomAccess with
  | nil => simp
  | cons nalu au ih =>
      rw [List.foldl_cons, ← Prod.mk.eta (p := recordNALU kinds (r, randomAccess) nalu), ih,
        recordNALU_params, NALUKinds.lastOfType_cons]
      by_cases param : typ ∈ kinds.paramTypes <;> by_cases typed : kinds.naluType nalu = typ <;>
        cases kinds.lastOfType typ au <;> simp [param, typed]

theorem foldl_recordNALU_closesOnChange (au : List (List UInt8)) (r : H26xRecorder Ext)
    (randomAccess : Bool) :
    ClosesOnChange (·.params) (·.currentSegment) (·.updateCodecsCalls) r
      (au.foldl (recordNALU kinds) (r, randomAccess)).1 :=
  have loop := foldl_closesOnChange (recordNALU_closesOnChange kinds) au (r, randomAccess)
  ⟨loop.1, loop.2, loop.3⟩

/-! ### The callback -/

theorem recordAccessUnit_fst (r : H26xRecorder Ext) (ext : Ext) (randomAccess : Bool)
    (au : List (List UInt8)) (pts : Int) :
    (recordAccessUnit lib avccMarshal r ext randomAccess au pts).1 =
      { r with dtsExtractor := some (lib.extract ext au pts).1 } := by
  simp only [recordAccessUnit]
  split
  · rfl
  · split <;> rfl

/-- A recorded sample: the DTS the extractor gives, the PTS offset from it, the access unit in AVCC
format, a sync sample when it has a random access NAL unit. -/
theorem recordAccessUnit_sample {r r' : H26xRecorder Ext} {ext : Ext} {randomAccess : Bool}
    {au : List (List UInt8)} {pts : Int} {b : H26xSample}
    (recorded : recordAccessUnit lib avccMarshal r ext randomAccess au pts = (r', .ok (some b))) :
    (lib.extract ext au pts).2 = .ok b.dts ∧ b.partSample.isNonSyncSample = !randomAccess ∧
      b.partSample.ptsOffset = toInt32 (durationGoToMp4 (pts - b.dts) 90000) ∧
      avccMarshal au = .ok b.partSample.payload := by
  simp only [recordAccessUnit] at recorded
  split at recorded
  · cases recorded
  · rename_i dts extracted
    split at recorded
    · cases recorded
    · rename_i sampl made
      cases recorded
      simp only [newPartSampleH26x] at made
      cases marshalled : avccMarshal au <;> simp only [marshalled, Except.map] at made <;> cases made
      exact ⟨extracted, rfl, rfl, rfl⟩

/-- The callback leaves the state the loop over the NAL units leaves, but for the extractor. -/
theorem onH26xUnit_fst (r : H26xRecorder Ext) (au : List (List UInt8)) (pts : Int) :
    ∃ ext, (onH26xUnit kinds lib avccMarshal r (some au) pts).1 =
      { (au.foldl (recordNALU kinds) (r, false)).1 with dtsExtractor := ext } := by
  simp only [onH26xUnit]
  split
  · split
    · exact ⟨_, rfl⟩
    · exact ⟨_, recordAccessUnit_fst ..⟩
  · exact ⟨_, recordAccessUnit_fst ..⟩

theorem onH26xUnit_params (r : H26xRecorder Ext) (au : Option (List (List UInt8))) (pts : Int)
    (typ : UInt8) :
    (onH26xUnit kinds lib avccMarshal r au pts).1.params typ =
      if typ ∈ kinds.paramTypes then (kinds.lastOfType typ (au.getD [])).getD (r.params typ)
      else r.params typ := by
  cases au with
  | none => simp [onH26xUnit]
  | some au =>
      obtain ⟨ext, left⟩ := onH26xUnit_fst kinds lib avccMarshal r au pts
      rw [left]
      exact foldl_recordNALU_params kinds au r false typ

theorem onH26xUnit_closesOnChange (r : H26xRecorder Ext) (au : Option (List (List UInt8)))
    (pts : Int) :
    ClosesOnChange (·.params) (·.currentSegment) (·.updateCodecsCalls) r
      (onH26xUnit kinds lib avccMarshal r au pts).1 := by
  cases au with
  | none => exact .refl r
  | some au =>
      obtain ⟨ext, left⟩ := onH26xUnit_fst kinds lib avccMarshal r au pts
      rw [left]
      exact (foldl_recordNALU_closesOnChange kinds au r false).trans (.of_eq rfl rfl rfl)

/-- A unit that records nothing leaves the extractor as it was. -/
theorem onH26xUnit_skip {r r' : H26xRecorder Ext} {au : Option (List (List UInt8))} {pts : Int}
    (skipped : onH26xUnit kinds lib avccMarshal r au pts = (r', .ok none)) :
    r'.dtsExtractor = r.dtsExtractor := by
  cases au with
  | none => cases skipped; rfl
  | some au =>
      obtain ⟨ext, left⟩ := onH26xUnit_fst kinds lib avccMarshal r au pts
      simp only [onH26xUnit] at skipped left
      split at skipped
      · rename_i none_
        split at skipped
        · cases skipped
          rw [none_, ← foldl_recordNALU_dtsExtractor kinds au r false, none_]
        · simp only [recordAccessUnit] at skipped
          split at skipped <;> [cases skipped; (split at skipped <;> cases skipped)]
      · simp only [recordAccessUnit] at skipped
        split at skipped <;> [cases skipped; (split at skipped <;> cases skipped)]

/-- A recorded sample comes from an access unit, with the DTS the track's extractor gives (a new one
when it had none), the PTS offset from it, the access unit in AVCC format, and a sync sample exactly
when the unit has a random access NAL unit; a track without an extractor records only such a unit,
and has one afterwards. -/
theorem onH26xUnit_sample {r r' : H26xRecorder Ext} {au? : Option (List (List UInt8))} {pts : Int}
    {b : H26xSample} (recorded : onH26xUnit kinds lib avccMarshal r au? pts = (r', .ok (some b))) :
    ∃ au, au? = some au ∧
      (lib.extract (r.dtsExtractor.getD lib.newDTSExtractor) au pts).2 = .ok b.dts ∧
      b.partSample.isNonSyncSample = !randomAccessPresent kinds au ∧
      b.partSample.ptsOffset = toInt32 (durationGoToMp4 (pts - b.dts) 90000) ∧
      avccMarshal au = .ok b.partSample.payload ∧
      (r.dtsExtractor = none → randomAccessPresent kinds au = true) ∧ r'.dtsExtractor.isSome := by
  cases au? with
  | none => cases recorded
  | some au =>
      refine ⟨au, rfl, ?_⟩
      have loop := foldl_recordNALU_dtsExtractor kinds au r false
      have access := foldl_recordNALU_snd kinds au r false
      rw [Bool.false_or] at access
      simp only [onH26xUnit] at recorded
      split at recorded
      · rename_i none_
        split at recorded
        · cases recorded
        · rename_i present
          obtain rfl : r' = _ := (congrArg Prod.fst recorded).symm.trans (recordAccessUnit_fst ..)
          obtain ⟨dts, sync, offset, payload⟩ := recordAccessUnit_sample lib avccMarshal recorded
          rw [access] at sync present
          rw [← loop, none_]
          exact ⟨dts, sync, offset, payload, fun _ => by simpa using present, rfl⟩
      · rename_i ext some_
        obtain rfl : r' = _ := (congrArg Prod.fst recorded).symm.trans (recordAccessUnit_fst ..)
        obtain ⟨dts, sync, offset, payload⟩ := recordAccessUnit_sample lib avccMarshal recorded
        rw [access] at sync
        rw [← loop, some_]
        exact ⟨dts, sync, offset, payload, (fun none_ => by cases none_), rfl⟩

/-- An access unit a track with an extractor records nothing of: none, every unit reaches the
extractor; a track without one skips exactly the units with no random access NAL unit. -/
theorem onH26xUnit_skip_iff (r : H26xRecorder Ext) (au : List (List UInt8)) (pts : Int) :
    (onH26xUnit kinds lib avccMarshal r (some au) pts).2 = .ok none ↔
      r.dtsExtractor = none ∧ randomAccessPresent kinds au = false := by
  have loop := foldl_recordNALU_dtsExtractor kinds au r false
  have access := foldl_recordNALU_snd kinds au r false
  rw [Bool.false_or] at access
  have recordsSome : ∀ r ext randomAccess,
      (recordAccessUnit lib avccMarshal r ext randomAccess au pts).2 ≠ .ok none := by
    intro r ext randomAccess
    simp only [recordAccessUnit]
    split
    · simp
    · split <;> simp
  simp only [onH26xUnit]
  split
  · rename_i none_
    rw [← loop, none_, ← access]
    split
    · simp_all
    · simp_all [recordsSome]
  · rename_i ext some_
    rw [← loop, some_]
    simp [recordsSome]

/-! ### Runs -/

/-- Over every run the codec holds, for each type of parameter set, the last one the access units
carried, or the one it had. -/
theorem onH26xUnits_params (units : List (Option (List (List UInt8)) × Int)) (r : H26xRecorder Ext)
    (typ : UInt8) :
    (onH26xUnits kinds lib avccMarshal r units).params typ =
      if typ ∈ kinds.paramTypes then
        (kinds.lastOfType typ (units.filterMap (·.1)).flatten).getD (r.params typ)
      else r.params typ := by
  induction units generalizing r with
  | nil => simp [onH26xUnits]
  | cons unit units ih =>
      obtain ⟨au, pts⟩ := unit
      simp only [onH26xUnits, List.foldl_cons] at ih ⊢
      rw [ih, onH26xUnit_params]
      by_cases param : typ ∈ kinds.paramTypes
      · cases au <;>
          simp only [param, if_true, Option.getD_none, List.filterMap_cons, List.flatten_cons,
            NALUKinds.lastOfType_append, Option.getD_some] <;>
          cases kinds.lastOfType typ (List.filterMap (·.1) units).flatten <;> rfl
      · simp [param]

/-- Over every run the callback closes the current segment whenever the codec changed. -/
theorem onH26xUnits_closesOnChange (units : List (Option (List (List UInt8)) × Int))
    (r : H26xRecorder Ext) :
    ClosesOnChange (·.params) (·.currentSegment) (·.updateCodecsCalls) r
      (onH26xUnits kinds lib avccMarshal r units) :=
  foldl_closesOnChange
    (fun r (unit : Option (List (List UInt8)) × Int) =>
      onH26xUnit_closesOnChange kinds lib avccMarshal r unit.1 unit.2) units r

variable (record : H26xSample → Option String)

/-- The first sample a track records, from when it is added, is a sync sample. -/
theorem runH26x_head_sync (segment : Option FMP4Segment) (params : UInt8 → List UInt8)
    (units : List (Option (List (List UInt8)) × Int)) :
    ∀ b ∈ (runH26x kinds lib avccMarshal record (.init segment params) units).2.1.head?,
      b.partSample.isNonSyncSample = false :=
  runTrack_head (fun r (unit : Option (List (List UInt8)) × Int) =>
      onH26xUnit kinds lib avccMarshal r unit.1 unit.2) record
    (fun r : H26xRecorder Ext => r.dtsExtractor = none)
    (fun _ _ _ none_ skipped => (onH26xUnit_skip kinds lib avccMarshal skipped).trans none_)
    (fun _ _ _ _ none_ recorded => by
      obtain ⟨au, -, -, sync, -, -, present, -⟩ := onH26xUnit_sample kinds lib avccMarshal recorded
      rw [sync, present none_]
      rfl)
    units (.init segment params) rfl

/-- A track with an extractor records, of the units it runs on, a prefix of the access units, each
flagged by whether it has no random access NAL unit. -/
theorem runH26x_flags_prefix_of_some (units : List (Option (List (List UInt8)) × Int)) :
    ∀ r : H26xRecorder Ext, r.dtsExtractor.isSome →
      (runH26x kinds lib avccMarshal record r units).2.1.map (·.partSample.isNonSyncSample) <+:
        (units.filterMap (·.1)).map fun au => !randomAccessPresent kinds au := by
  induction units with
  | nil => simp [runH26x, runTrack]
  | cons unit units ih =>
      intro r some_
      obtain ⟨au?, pts⟩ := unit
      cases au? with
      | none => exact ih r some_
      | some au =>
          simp only [runH26x, runTrack] at ih ⊢
          rcases called : onH26xUnit kinds lib avccMarshal r (some au) pts with ⟨r', _ | _ | b⟩
          · simp
          · have := (onH26xUnit_skip_iff kinds lib avccMarshal r au pts).mp (by rw [called])
            simp_all
          · obtain ⟨_, ⟨⟩, -, sync, -, -, -, extractor⟩ := onH26xUnit_sample kinds lib avccMarshal called
            cases sent : record b
            · simpa [called, sent, sync] using ih r' extractor
            · simp [called, sent, sync]

/-- A track, from when it is added, records a prefix of the access units from the first one with a
random access NAL unit on, each flagged by whether it has no random access NAL unit; so its first
sample is a sync sample, and before it nothing is recorded. -/
theorem runH26x_flags_prefix (segment : Option FMP4Segment) (params : UInt8 → List UInt8)
    (units : List (Option (List (List UInt8)) × Int)) :
    (runH26x kinds lib avccMarshal record (.init segment params) units).2.1.map
        (·.partSample.isNonSyncSample) <+:
      ((units.filterMap (·.1)).dropWhile fun au => !randomAccessPresent kinds au).map
        fun au => !randomAccessPresent kinds au := by
  suffices ∀ r : H26xRecorder Ext, r.dtsExtractor = none →
      (runH26x kinds lib avccMarshal record r units).2.1.map (·.partSample.isNonSyncSample) <+:
        ((units.filterMap (·.1)).dropWhile fun au => !randomAccessPresent kinds au).map
          fun au => !randomAccessPresent kinds au from this _ rfl
  induction units with
  | nil => simp [runH26x, runTrack]
  | cons unit units ih =>
      intro r none_
      obtain ⟨au?, pts⟩ := unit
      cases au? with
      | none => exact ih r none_
      | some au =>
          simp only [runH26x, runTrack] at ih ⊢
          rcases called : onH26xUnit kinds lib avccMarshal r (some au) pts with ⟨r', _ | _ | b⟩
          · simp
          · have skipped := (onH26xUnit_skip_iff kinds lib avccMarshal r au pts).mp (by rw [called])
            have kept := onH26xUnit_skip kinds lib avccMarshal called
            simpa [skipped.2] using ih r' (kept.trans none_)
          · obtain ⟨_, ⟨⟩, -, sync, -, -, present, extractor⟩ :=
              onH26xUnit_sample kinds lib avccMarshal called
            have next := runH26x_flags_prefix_of_some kinds lib avccMarshal record units r' extractor
            simp only [runH26x] at next
            cases sent : record b
            · simpa [called, sent, sync, present none_] using next
            · simp [called, sent, sync, present none_]

section Ok

variable (extractOk : ∀ ext au pts, ∃ dts, (lib.extract ext au pts).2 = .ok dts)
  (marshalOk : ∀ au, ∃ avcc, avccMarshal au = .ok avcc)

include extractOk marshalOk in
/-- With an extractor and an encoder that do not fail, the callback does not fail. -/
theorem onH26xUnit_ok (r : H26xRecorder Ext) (au : Option (List (List UInt8))) (pts : Int) :
    ∃ res, (onH26xUnit kinds lib avccMarshal r au pts).2 = .ok res := by
  have recorded : ∀ r ext randomAccess au,
      ∃ b, (recordAccessUnit lib avccMarshal r ext randomAccess au pts).2 = .ok (some b) := by
    intro r ext randomAccess au
    obtain ⟨dts, extracted⟩ := extractOk ext au pts
    obtain ⟨avcc, marshalled⟩ := marshalOk au
    simp only [recordAccessUnit, extracted, newPartSampleH26x, marshalled]
    exact ⟨_, rfl⟩
  cases au with
  | none => exact ⟨none, rfl⟩
  | some au =>
      simp only [onH26xUnit]
      split
      · split
        · exact ⟨none, rfl⟩
        · obtain ⟨b, ok⟩ := recorded _ lib.newDTSExtractor _ au
          exact ⟨_, ok⟩
      · obtain ⟨b, ok⟩ := recorded _ _ _ au
        exact ⟨_, ok⟩

variable (recordOk : ∀ b, record b = none)

include extractOk marshalOk recordOk in
theorem runH26x_flags_of_ok_of_some (units : List (Option (List (List UInt8)) × Int)) :
    ∀ r : H26xRecorder Ext, r.dtsExtractor.isSome →
      (runH26x kinds lib avccMarshal record r units).2.1.map (·.partSample.isNonSyncSample) =
          (units.filterMap (·.1)).map (fun au => !randomAccessPresent kinds au) ∧
        (runH26x kinds lib avccMarshal record r units).2.2 = none := by
  induction units with
  | nil => simp [runH26x, runTrack]
  | cons unit units ih =>
      intro r some_
      obtain ⟨au?, pts⟩ := unit
      cases au? with
      | none => exact ih r some_
      | some au =>
          simp only [runH26x, runTrack] at ih ⊢
          obtain ⟨res, ok⟩ := onH26xUnit_ok kinds lib avccMarshal extractOk marshalOk r (some au) pts
          rcases called : onH26xUnit kinds lib avccMarshal r (some au) pts with ⟨r', _ | _ | b⟩
          · simp [called] at ok
          · have := (onH26xUnit_skip_iff kinds lib avccMarshal r au pts).mp (by rw [called])
            simp_all
          · obtain ⟨_, ⟨⟩, -, sync, -, -, -, extractor⟩ := onH26xUnit_sample kinds lib avccMarshal called
            simpa [called, recordOk, sync] using ih r' extractor

include extractOk marshalOk recordOk in
/-- With an extractor, an encoder and a track that do not fail, a track records, from when it is
added, exactly the access units from the first one with a random access NAL unit on, each flagged by
whether it has no random access NAL unit, and the run ends without error. -/
theorem runH26x_flags_of_ok (segment : Option FMP4Segment) (params : UInt8 → List UInt8)
    (units : List (Option (List (List UInt8)) × Int)) :
    (runH26x kinds lib avccMarshal record (.init segment params) units).2.1.map
        (·.partSample.isNonSyncSample) =
      ((units.filterMap (·.1)).dropWhile fun au => !randomAccessPresent kinds au).map
        (fun au => !randomAccessPresent kinds au) ∧
    (runH26x kinds lib avccMarshal record (.init segment params) units).2.2 = none := by
  suffices ∀ r : H26xRecorder Ext, r.dtsExtractor = none →
      (runH26x kinds lib avccMarshal record r units).2.1.map (·.partSample.isNonSyncSample) =
        ((units.filterMap (·.1)).dropWhile fun au => !randomAccessPresent kinds au).map
          (fun au => !randomAccessPresent kinds au) ∧
      (runH26x kinds lib avccMarshal record r units).2.2 = none from this _ rfl
  induction units with
  | nil => simp [runH26x, runTrack]
  | cons unit units ih =>
      intro r none_
      obtain ⟨au?, pts⟩ := unit
      cases au? with
      | none => exact ih r none_
      | some au =>
          simp only [runH26x, runTrack] at ih ⊢
          obtain ⟨res, ok⟩ := onH26xUnit_ok kinds lib avccMarshal extractOk marshalOk r (some au) pts
          rcases called : onH26xUnit kinds lib avccMarshal r (some au) pts with ⟨r', _ | _ | b⟩
          · simp [called] at ok
          · have skipped := (onH26xUnit_skip_iff kinds lib avccMarshal r au pts).mp (by rw [called])
            have kept := onH26xUnit_skip kinds lib avccMarshal called
            simpa [skipped.2] using ih r' (kept.trans none_)
          · obtain ⟨_, ⟨⟩, -, sync, -, -, present, extractor⟩ :=
              onH26xUnit_sample kinds lib avccMarshal called
            have next := runH26x_flags_of_ok_of_some kinds lib avccMarshal record extractOk marshalOk
              recordOk units r' extractor
            simp only [runH26x] at next
            simpa [called, recordOk, sync, present none_] using next

/-- A non-IDR slice, an SPS with an IDR, a nil access unit and a non-IDR slice, on an H.264 track
whose extractor takes the PTS for the DTS. -/
theorem runH26x_flags_of_ok_idr :
    let units : List (Option (List (List UInt8)) × Int) :=
      [(some [[0x41]], 0), (some [[0x67, 1], [0x65]], 1), (none, 2), (some [[0x41]], 3)]
    let run := runH26x H264.kinds ptsExtractor (fun au => .ok au.flatten) (fun _ => none)
      (.init none (initialParamsH264 none none)) units
    run.2.1.map (·.partSample.isNonSyncSample) =
      ((units.filterMap (·.1)).dropWhile fun au => !randomAccessPresent H264.kinds au).map
        (fun au => !randomAccessPresent H264.kinds au) ∧ run.2.2 = none :=
  runH26x_flags_of_ok H264.kinds ptsExtractor _ _ (fun _ _ pts => ⟨pts, rfl⟩) (fun _ => ⟨_, rfl⟩)
    (fun _ => rfl) _ _ _

example : (runH26x H264.kinds ptsExtractor (fun au => .ok au.flatten) (fun _ => none)
    (.init none (initialParamsH264 none none))
    [(some [[0x41]], 0), (some [[0x67, 1], [0x65]], 1), (none, 2), (some [[0x41]], 3)]).2.1.map
      (·.partSample.isNonSyncSample) = [false, true] := by
  decide

end Ok

end Lemmas

end Record
end RtspSimpleServer
