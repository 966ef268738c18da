import RtspSimpleServer.FormatProcessor.H26x

/-!
# The H.264 processor

The four methods of `formatProcessorH264` that `Process` calls.  Whether read off an RTP packet or
off a decoded access unit, the stored SPS and PPS are the last ones seen, or the previous ones.
-/

namespace RtspSimpleServer
namespace FormatProcessor

/-! ### The codec library's H.264 definitions the processor reads -/

namespace H264

def NALUTypeNonIDR : UInt8 := 1
def NALUTypeIDR : UInt8 := 5
def NALUTypeSPS : UInt8 := 7
def NALUTypePPS : UInt8 := 8
def NALUTypeAccessUnitDelimiter : UInt8 := 9
def NALUTypeSTAPA : UInt8 := 24
def NALUTypeFUA : UInt8 := 28

/-- `h264.NALUType(nalu[0] & 0x1F)`.  Go panics on an empty NAL unit, which reads here as type
0. -/
def naluType (nalu : List UInt8) : UInt8 :=
  nalu.headD 0 &&& 0x1F

/-- A NAL unit of a parameter-set type is not empty. -/
theorem ne_nil_of_naluType_eq {nalu : List UInt8} {typ : UInt8} (typed : naluType nalu = typ)
    (nonzero : typ ≠ 0) : nalu ≠ [] := by
  rintro rfl
  exact nonzero (typed.symm.trans (by decide))

/-- How `remuxAccessUnit` sorts H.264 NAL units. -/
def kinds : NALUKinds :=
  ⟨naluType, [NALUTypeSPS, NALUTypePPS], NALUTypeAccessUnitDelimiter, [NALUTypeIDR]⟩

@[simp] theorem kinds_naluType : kinds.naluType = naluType := rfl

/-- `format.H264`, with the fields the processor reads and sets. -/
structure Format where
  payloadTyp : UInt8
  sps : Option (List UInt8)
  pps : Option (List UInt8)
  packetizationMode : Nat
  deriving DecidableEq, Repr

/-- `SafeSetParams`. -/
def Format.safeSetParams (format : Format) (sps pps : Option (List UInt8)) : Format :=
  { format with sps, pps }

@[simp] theorem Format.safeSetParams_sps (format : Format) (sps pps : Option (List UInt8)) :
    (format.safeSetParams sps pps).sps = sps := rfl

@[simp] theorem Format.safeSetParams_pps (format : Format) (sps pps : Option (List UInt8)) :
    (format.safeSetParams sps pps).pps = pps := rfl

@[simp] theorem Format.safeSetParams_safeSetParams (format : Format) (sps pps sps' pps' : Option (List UInt8)) :
    (format.safeSetParams sps pps).safeSetParams sps' pps' = format.safeSetParams sps' pps' := rfl

@[simp] theorem Format.safeSetParams_self (format : Format) :
    format.safeSetParams format.sps format.pps = format := rfl

/-- The parameter sets `remuxAccessUnit` puts in front of a key frame, when both are set. -/
def Format.params (format : Format) : Option (List (List UInt8)) :=
  match format.sps, format.pps with
  | some sps, some pps => some [sps, pps]
  | _, _ => none

end H264

open H264

/-- One NAL unit of a STAP-A in `rtpH264ExtractSPSPPS`: an SPS or a PPS replaces the one found
before. -/
def extractSPSPPSStep :
    Option (List UInt8) × Option (List UInt8) → List UInt8 → Option (List UInt8) × Option (List UInt8)
  | (sps, pps), nalu =>
      if naluType nalu = NALUTypeSPS then (some nalu, pps)
      else if naluType nalu = NALUTypePPS then (sps, some nalu)
      else (sps, pps)

/-- `rtpH264ExtractSPSPPS`: the parameter sets an RTP packet carries, read without decoding it:
the packet's own NAL unit when it is an SPS or a PPS, the last SPS and PPS of a STAP-A aggregate,
nothing from an invalid aggregate or any other packet. -/
def rtpH264ExtractSPSPPS (pkt : Packet) : Option (List UInt8) × Option (List UInt8) :=
  match pkt.payload with
  | [] => (none, none)
  | first :: rest =>
      let typ := first &&& 0x1F
      if typ = NALUTypeSPS then (some pkt.payload, none)
      else if typ = NALUTypePPS then (none, some pkt.payload)
      else if typ = NALUTypeSTAPA then
        match splitAggregate rest with
        | none => (none, none)
        | some nalus => nalus.foldl extractSPSPPSStep (none, none)
      else (none, none)

namespace FormatProcessorH264

/-- `updateTrackParametersFromRTPPacket`: the format takes the parameter sets the packet carries
when one of them differs from the stored one. -/
def updateTrackParametersFromRTPPacket (format : H264.Format) (pkt : Packet) : H264.Format :=
  let (sps, pps) := rtpH264ExtractSPSPPS pkt
  if paramChanged sps format.sps || paramChanged pps format.pps then
    format.safeSetParams (sps.or format.sps) (pps.or format.pps)
  else format

/-- One NAL unit of `updateTrackParametersFromAU`: an SPS or PPS that differs from the last one
kept replaces it and marks the format for update. -/
def updateFromAUStep :
    Option (List UInt8) × Option (List UInt8) × Bool → List UInt8 →
      Option (List UInt8) × Option (List UInt8) × Bool
  | (sps, pps, update), nalu =>
      if naluType nalu = NALUTypeSPS then
        if !bytesEqual (some nalu) sps then (some nalu, pps, true) else (sps, pps, update)
      else if naluType nalu = NALUTypePPS then
        if !bytesEqual (some nalu) pps then (sps, some nalu, true) else (sps, pps, update)
      else (sps, pps, update)

/-- `updateTrackParametersFromAU`. -/
def updateTrackParametersFromAU (format : H264.Format) (au : List (List UInt8)) : H264.Format :=
  let (sps, pps, update) := au.foldl updateFromAUStep (format.sps, format.pps, false)
  if update then format.safeSetParams sps pps else format

/-- `remuxAccessUnit`. -/
def remuxAccessUnit (format : H264.Format) (au : List (List UInt8)) : List (List UInt8) :=
  kinds.remux format.params au

/-- The methods of `formatProcessorH264` that `Process` calls; `createEncoder` fills in an
`rtph264.Encoder` with the format's payload type and packetization mode. -/
def methods : H26x H264.Format where
  updateTrackParametersFromRTPPacket := updateTrackParametersFromRTPPacket
  updateTrackParametersFromAU := updateTrackParametersFromAU
  remuxAccessUnit := remuxAccessUnit
  encoderConf payloadMaxSize format ssrc initialSequenceNumber :=
    { payloadMaxSize, payloadType := format.payloadTyp, ssrc, initialSequenceNumber,
      packetizationMode := format.packetizationMode }
  clockRate _ := 90000
  encoderConf_seeded _ _ _ _ := ⟨rfl, rfl, rfl⟩

variable {Dec Enc : Type}

/-- `newH264`. -/
def newH264 (lib : Codec (List (List UInt8)) Dec Enc) (udpMaxPayloadSize : Int)
    (format : H264.Format) (generateRTPPackets : Bool) :
    Except ProcessError (Processor H264.Format Dec Enc) :=
  H26x.newH26x methods lib udpMaxPayloadSize format generateRTPPackets

/-- `Process` of `formatProcessorH264`. -/
def process (lib : Codec (List (List UInt8)) Dec Enc) (t : Processor H264.Format Dec Enc)
    (u : H26xUnit) (hasNonRTSPReaders : Bool) :
    Processor H264.Format Dec Enc × H26xUnit × Option ProcessError :=
  H26x.process methods lib t u hasNonRTSPReaders

end FormatProcessorH264

/-! ### Where the stored parameter sets come from -/

/-- The STAP-A loop keeps the last SPS and the last PPS of the aggregate. -/
theorem foldl_extractSPSPPSStep (nalus : List (List UInt8)) (sps pps : Option (List UInt8)) :
    nalus.foldl extractSPSPPSStep (sps, pps) =
      ((kinds.lastOfType NALUTypeSPS nalus).or sps, (kinds.lastOfType NALUTypePPS nalus).or pps) := by
  induction nalus generalizing sps pps with
  | nil => rfl
  | cons nalu nalus ih =>
      have differ : NALUTypeSPS ≠ NALUTypePPS := by decide
      simp only [List.foldl_cons, NALUKinds.lastOfType_cons, Option.or_assoc]
      by_cases isSPS : naluType nalu = NALUTypeSPS
      · simp [extractSPSPPSStep, isSPS, ih, differ, kinds]
      · by_cases isPPS : naluType nalu = NALUTypePPS <;>
          simp [extractSPSPPSStep, isSPS, isPPS, ih, differ.symm, kinds]

/-- The NAL unit a sequence ends with among those of a type is of that type. -/
theorem naluType_of_lastOfType_eq_some {typ : UInt8} {nalus : List (List UInt8)}
    {nalu : List UInt8} (last : kinds.lastOfType typ nalus = some nalu) : naluType nalu = typ := by
  have mem := List.mem_of_getLast?_eq_some last
  simpa [kinds] using (List.mem_filter.mp mem).2

/-- `rtpH264ExtractSPSPPS` finds only an SPS as SPS and only a PPS as PPS. -/
theorem rtpH264ExtractSPSPPS_types (pkt : Packet) :
    (∀ sps, (rtpH264ExtractSPSPPS pkt).1 = some sps → naluType sps = NALUTypeSPS) ∧
      ∀ pps, (rtpH264ExtractSPSPPS pkt).2 = some pps → naluType pps = NALUTypePPS := by
  unfold rtpH264ExtractSPSPPS
  split
  · simp
  · rename_i first rest payload
    dsimp only
    split_ifs with isSPS isPPS
    · simpa [payload, naluType] using isSPS
    · simpa [payload, naluType] using isPPS
    · split
      · simp
      · rw [foldl_extractSPSPPSStep]
        exact ⟨fun _ last => naluType_of_lastOfType_eq_some (by simpa using last),
          fun _ last => naluType_of_lastOfType_eq_some (by simpa using last)⟩
    · simp

namespace FormatProcessorH264

/-- An RTP packet leaves the format with the SPS and PPS it carries, and the stored ones
otherwise. -/
theorem updateTrackParametersFromRTPPacket_eq (format : H264.Format) (pkt : Packet) :
    updateTrackParametersFromRTPPacket format pkt =
      format.safeSetParams ((rtpH264ExtractSPSPPS pkt).1.or format.sps)
        ((rtpH264ExtractSPSPPS pkt).2.or format.pps) := by
  obtain ⟨spsType, ppsType⟩ := rtpH264ExtractSPSPPS_types pkt
  unfold updateTrackParametersFromRTPPacket
  rcases extracted : rtpH264ExtractSPSPPS pkt with ⟨sps, pps⟩
  rw [extracted] at spsType ppsType
  dsimp only
  split_ifs with changed
  · rfl
  · simp only [Bool.or_eq_true, not_or, Bool.not_eq_true] at changed
    rw [or_eq_of_paramChanged_eq_false
        (fun sps some_ => ne_nil_of_naluType_eq (spsType sps some_) (by decide)) changed.1,
      or_eq_of_paramChanged_eq_false
        (fun pps some_ => ne_nil_of_naluType_eq (ppsType pps some_) (by decide)) changed.2]
    rfl

/-- After a NAL unit, the running SPS is that NAL unit when it is an SPS: one equal to the running
SPS byte for byte is that SPS. -/
theorem updateFromAUStep_sps (acc : Option (List UInt8) × Option (List UInt8) × Bool)
    (nalu : List UInt8) :
    (updateFromAUStep acc nalu).1 = if naluType nalu = NALUTypeSPS then some nalu else acc.1 := by
  obtain ⟨sps, pps, update⟩ := acc
  by_cases isSPS : naluType nalu = NALUTypeSPS
  · have nonEmpty := ne_nil_of_naluType_eq isSPS (by decide)
    by_cases same : bytesEqual (some nalu) sps <;>
      simp [updateFromAUStep, if_pos isSPS, same, (bytesEqual_some_iff nonEmpty sps).mp]
  · simp only [updateFromAUStep, if_neg isSPS]
    split_ifs <;> rfl

/-- After a NAL unit, the running PPS is that NAL unit when it is a PPS. -/
theorem updateFromAUStep_pps (acc : Option (List UInt8) × Option (List UInt8) × Bool)
    (nalu : List UInt8) :
    (updateFromAUStep acc nalu).2.1 = if naluType nalu = NALUTypePPS then some nalu else acc.2.1 := by
  obtain ⟨sps, pps, update⟩ := acc
  by_cases isSPS : naluType nalu = NALUTypeSPS
  · have differ : ¬naluType nalu = NALUTypePPS := by rw [isSPS]; decide
    simp only [updateFromAUStep, if_pos isSPS, if_neg differ]
    split_ifs <;> rfl
  · by_cases isPPS : naluType nalu = NALUTypePPS
    · have nonEmpty := ne_nil_of_naluType_eq isPPS (by decide)
      by_cases same : bytesEqual (some nalu) pps <;>
        simp [updateFromAUStep, if_neg isSPS, if_pos isPPS, same, (bytesEqual_some_iff nonEmpty pps).mp]
    · simp [updateFromAUStep, if_neg isSPS, if_neg isPPS]

/-- A NAL unit that leaves the update flag down changes neither running parameter set. -/
theorem updateFromAUStep_unchanged {acc : Option (List UInt8) × Option (List UInt8) × Bool}
    {nalu : List UInt8} (down : (updateFromAUStep acc nalu).2.2 = false) :
    acc.2.2 = false ∧ (updateFromAUStep acc nalu).1 = acc.1 ∧
      (updateFromAUStep acc nalu).2.1 = acc.2.1 := by
  obtain ⟨sps, pps, update⟩ := acc
  simp only [updateFromAUStep] at down ⊢
  split_ifs at down ⊢ <;> simp_all

/-- The running parameter sets at the end of the loop are the last ones of the access unit. -/
theorem foldl_updateFromAUStep_params (au : List (List UInt8))
    (acc : Option (List UInt8) × Option (List UInt8) × Bool) :
    (au.foldl updateFromAUStep acc).1 = (kinds.lastOfType NALUTypeSPS au).or acc.1 ∧
      (au.foldl updateFromAUStep acc).2.1 = (kinds.lastOfType NALUTypePPS au).or acc.2.1 := by
  induction au generalizing acc with
  | nil => simp
  | cons nalu au ih =>
      rw [List.foldl_cons, (ih _).1, (ih _).2, updateFromAUStep_sps, updateFromAUStep_pps,
        NALUKinds.lastOfType_cons, NALUKinds.lastOfType_cons, Option.or_assoc, Option.or_assoc,
        kinds_naluType]
      constructor <;> split_ifs <;> rfl

/-- A loop that ends with the update flag down started with it down and changed nothing. -/
theorem foldl_updateFromAUStep_unchanged (au : List (List UInt8))
    (acc : Option (List UInt8) × Option (List UInt8) × Bool)
    (down : (au.foldl updateFromAUStep acc).2.2 = false) :
    acc.2.2 = false ∧ (au.foldl updateFromAUStep acc).1 = acc.1 ∧
      (au.foldl updateFromAUStep acc).2.1 = acc.2.1 := by
  induction au generalizing acc with
  | nil => exact ⟨down, rfl, rfl⟩
  | cons nalu au ih =>
      obtain ⟨stepDown, sps, pps⟩ := ih _ down
      obtain ⟨accDown, stepSps, stepPps⟩ := updateFromAUStep_unchanged stepDown
      exact ⟨accDown, sps.trans stepSps, pps.trans stepPps⟩

/-- `updateTrackParametersFromAU` stores the last SPS and the last PPS of the access unit, and keeps
the stored ones when it has none. -/
theorem updateTrackParametersFromAU_eq (format : H264.Format) (au : List (List UInt8)) :
    updateTrackParametersFromAU format au =
      format.safeSetParams ((kinds.lastOfType NALUTypeSPS au).or format.sps)
        ((kinds.lastOfType NALUTypePPS au).or format.pps) := by
  obtain ⟨sps, pps⟩ := foldl_updateFromAUStep_params au (format.sps, format.pps, false)
  have unchanged := foldl_updateFromAUStep_unchanged au (format.sps, format.pps, false)
  unfold updateTrackParametersFromAU
  rcases loop : au.foldl updateFromAUStep (format.sps, format.pps, false) with ⟨sps', pps', update⟩
  rw [loop] at sps pps unchanged
  rw [← sps, ← pps]
  cases update
  · obtain ⟨-, keptSps, keptPps⟩ := unchanged rfl
    rw [keptSps, keptPps]
    rfl
  · rfl

end FormatProcessorH264

end FormatProcessor
end RtspSimpleServer
