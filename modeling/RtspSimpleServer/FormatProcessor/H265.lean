import RtspSimpleServer.FormatProcessor.H26x

/-!
# The H.265 processor

The four methods of `formatProcessorH265` that `Process` calls.  Unlike H.264, it finds no parameter
set in an aggregation unit, and of several parameter sets of one type in an access unit it keeps the
last one that differs from the stored one.
-/

namespace RtspSimpleServer
namespace FormatProcessor

/-! ### The codec library's H.265 definitions the processor reads -/

namespace H265

def NALUType_IDR_W_RADL : UInt8 := 19
def NALUType_IDR_N_LP : UInt8 := 20
def NALUType_CRA_NUT : UInt8 := 21
def NALUType_VPS_NUT : UInt8 := 32
def NALUType_SPS_NUT : UInt8 := 33
def NALUType_PPS_NUT : UInt8 := 34
def NALUType_AUD_NUT : UInt8 := 35
def NALUType_AggregationUnit : UInt8 := 48
def NALUType_FragmentationUnit : UInt8 := 49

/-- `h265.NALUType((nalu[0] >> 1) & 0b111111)`.  Go panics on an empty NAL unit, which reads here
as type 0. -/
def naluType (nalu : List UInt8) : UInt8 :=
  (nalu.headD 0 >>> 1) &&& 0x3F

/-- How `remuxAccessUnit` sorts H.265 NAL units. -/
def kinds : NALUKinds :=
  ⟨naluType, [NALUType_VPS_NUT, NALUType_SPS_NUT, NALUType_PPS_NUT], NALUType_AUD_NUT,
    [NALUType_IDR_W_RADL, NALUType_IDR_N_LP, NALUType_CRA_NUT]⟩

@[simp] theorem kinds_naluType : kinds.naluType = naluType := rfl

/-- `format.H265`, with the fields the processor reads and sets. -/
structure Format where
  payloadTyp : UInt8
  vps : Option (List UInt8)
  sps : Option (List UInt8)
  pps : Option (List UInt8)
  maxDONDiff : Nat
  deriving DecidableEq, Repr

/-- `SafeSetParams`. -/
def Format.safeSetParams (format : Format) (vps sps pps : Option (List UInt8)) : Format :=
  { format with vps, sps, pps }

@[simp] theorem Format.safeSetParams_vps (format : Format) (vps sps pps : Option (List UInt8)) :
    (format.safeSetParams vps sps pps).vps = vps := rfl

@[simp] theorem Format.safeSetParams_sps (format : Format) (vps sps pps : Option (List UInt8)) :
    (format.safeSetParams vps sps pps).sps = sps := rfl

@[simp] theorem Format.safeSetParams_pps (format : Format) (vps sps pps : Option (List UInt8)) :
    (format.safeSetParams vps sps pps).pps = pps := rfl

@[simp] theorem Format.safeSetParams_safeSetParams (format : Format)
    (vps sps pps vps' sps' pps' : Option (List UInt8)) :
    (format.safeSetParams vps sps pps).safeSetParams vps' sps' pps' =
      format.safeSetParams vps' sps' pps' := rfl

@[simp] theorem Format.safeSetParams_self (format : Format) :
    format.safeSetParams format.vps format.sps format.pps = format := rfl

/-- The parameter sets `remuxAccessUnit` puts in front of a key frame, when all three are set. -/
def Format.params (format : Format) : Option (List (List UInt8)) :=
  match format.vps, format.sps, format.pps with
  | some vps, some sps, some pps => some [vps, sps, pps]
  | _, _, _ => none

end H265

open H265

/-- One NAL unit of an aggregation unit in `rtpH265ExtractVPSSPSPPS`, whose type the loop reads
from `typ`, the type of the packet's first byte. -/
def extractVPSSPSPPSStep (typ : UInt8) :
    Option (List UInt8) × Option (List UInt8) × Option (List UInt8) → List UInt8 →
      Option (List UInt8) × Option (List UInt8) × Option (List UInt8)
  | (vps, sps, pps), nalu =>
      if typ = NALUType_VPS_NUT then (some nalu, sps, pps)
      else if typ = NALUType_SPS_NUT then (vps, some nalu, pps)
      else if typ = NALUType_PPS_NUT then (vps, sps, some nalu)
      else (vps, sps, pps)

/-- `rtpH265ExtractVPSSPSPPS`: the parameter sets an RTP packet carries, read without decoding
it.  Inside the aggregation-unit loop the type is read again from `pkt.Payload[0]`. -/
def rtpH265ExtractVPSSPSPPS (pkt : Packet) :
    Option (List UInt8) × Option (List UInt8) × Option (List UInt8) :=
  match pkt.payload with
  | first :: _ :: rest =>
      let typ := (first >>> 1) &&& 0x3F
      if typ = NALUType_VPS_NUT then (some pkt.payload, none, none)
      else if typ = NALUType_SPS_NUT then (none, some pkt.payload, none)
      else if typ = NALUType_PPS_NUT then (none, none, some pkt.payload)
      else if typ = NALUType_AggregationUnit then
        match splitAggregate rest with
        | none => (none, none, none)
        | some nalus => nalus.foldl (extractVPSSPSPPSStep ((first >>> 1) &&& 0x3F)) (none, none, none)
      else (none, none, none)
  | _ => (none, none, none)

namespace FormatProcessorH265

/-- `updateTrackParametersFromRTPPacket`: the format takes the parameter sets the packet carries
when one of them differs from the stored one. -/
def updateTrackParametersFromRTPPacket (format : H265.Format) (pkt : Packet) : H265.Format :=
  let (vps, sps, pps) := rtpH265ExtractVPSSPSPPS pkt
  if paramChanged vps format.vps || paramChanged sps format.sps || paramChanged pps format.pps then
    format.safeSetParams (vps.or format.vps) (sps.or format.sps) (pps.or format.pps)
  else format

/-- One NAL unit of `updateTrackParametersFromAU`: a VPS, SPS or PPS that differs from the stored
one (`t.format.VPS`, not the last one kept) replaces the one kept and marks the format for
update. -/
def updateFromAUStep (format : H265.Format) :
    Option (List UInt8) × Option (List UInt8) × Option (List UInt8) × Bool → List UInt8 →
      Option (List UInt8) × Option (List UInt8) × Option (List UInt8) × Bool
  | (vps, sps, pps, update), nalu =>
      if naluType nalu = NALUType_VPS_NUT then
        if !bytesEqual (some nalu) format.vps then (some nalu, sps, pps, true)
        else (vps, sps, pps, update)
      else if naluType nalu = NALUType_SPS_NUT then
        if !bytesEqual (some nalu) format.sps then (vps, some nalu, pps, true)
        else (vps, sps, pps, update)
      else if naluType nalu = NALUType_PPS_NUT then
        if !bytesEqual (some nalu) format.pps then (vps, sps, some nalu, true)
        else (vps, sps, pps, update)
      else (vps, sps, pps, update)

/-- `updateTrackParametersFromAU`. -/
def updateTrackParametersFromAU (format : H265.Format) (au : List (List UInt8)) : H265.Format :=
  let (vps, sps, pps, update) :=
    au.foldl (updateFromAUStep format) (format.vps, format.sps, format.pps, false)
  if update then format.safeSetParams vps sps pps else format

/-- `remuxAccessUnit`. -/
def remuxAccessUnit (format : H265.Format) (au : List (List UInt8)) : List (List UInt8) :=
  kinds.remux format.params au

/-- The methods of `formatProcessorH265` that `Process` calls; `createEncoder` fills in an
`rtph265.Encoder` with the format's payload type and `MaxDONDiff`. -/
def methods : H26x H265.Format where
  updateTrackParametersFromRTPPacket := updateTrackParametersFromRTPPacket
  updateTrackParametersFromAU := updateTrackParametersFromAU
  remuxAccessUnit := remuxAccessUnit
  encoderConf payloadMaxSize format ssrc initialSequenceNumber :=
    { payloadMaxSize, payloadType := format.payloadTyp, ssrc, initialSequenceNumber,
      maxDONDiff := format.maxDONDiff }
  clockRate _ := 90000
  encoderConf_seeded _ _ _ _ := ⟨rfl, rfl, rfl⟩

variable {Dec Enc : Type}

/-- `newH265`. -/
def newH265 (lib : Codec (List (List UInt8)) Dec Enc) (udpMaxPayloadSize : Int)
    (format : H265.Format) (generateRTPPackets : Bool) :
    Except ProcessError (Processor H265.Format Dec Enc) :=
  H26x.newH26x methods lib udpMaxPayloadSize format generateRTPPackets

/-- `Process` of `formatProcessorH265`. -/
def process (lib : Codec (List (List UInt8)) Dec Enc) (t : Processor H265.Format Dec Enc)
    (u : H26xUnit) (hasNonRTSPReaders : Bool) :
    Processor H265.Format Dec Enc × H26xUnit × Option ProcessError :=
  H26x.process methods lib t u hasNonRTSPReaders

end FormatProcessorH265

/-- The aggregation-unit loop finds nothing: every NAL unit of an aggregation unit is taken for
one of the aggregation unit's own type. -/
theorem rtpH265ExtractVPSSPSPPS_aggregationUnit {pkt : Packet} {first second : UInt8}
    {rest : List UInt8} (payload : pkt.payload = first :: second :: rest)
    (aggregation : (first >>> 1) &&& 0x3F = NALUType_AggregationUnit) :
    rtpH265ExtractVPSSPSPPS pkt = (none, none, none) := by
  have noParam : ∀ acc nalu, extractVPSSPSPPSStep NALUType_AggregationUnit acc nalu = acc := by
    rintro ⟨vps, sps, pps⟩ nalu
    rfl
  simp only [rtpH265ExtractVPSSPSPPS, payload, aggregation]
  rw [if_neg (by decide), if_neg (by decide), if_neg (by decide), if_pos trivial]
  split
  · rfl
  · exact List.foldl_fixed' (noParam _) _

/-- `rtpH265ExtractVPSSPSPPS` finds the packet's own NAL unit when it is a VPS, an SPS or a PPS,
and nothing else: not in an aggregation unit, whose NAL units it takes for aggregation units. -/
theorem rtpH265ExtractVPSSPSPPS_eq (pkt : Packet) :
    rtpH265ExtractVPSSPSPPS pkt =
      if 2 ≤ pkt.payload.length then
        (kinds.lastOfType NALUType_VPS_NUT [pkt.payload],
          kinds.lastOfType NALUType_SPS_NUT [pkt.payload],
          kinds.lastOfType NALUType_PPS_NUT [pkt.payload])
      else (none, none, none) := by
  simp only [NALUKinds.lastOfType_singleton, kinds_naluType]
  match payload : pkt.payload with
  | [] => simp [rtpH265ExtractVPSSPSPPS, payload]
  | [_] => simp [rtpH265ExtractVPSSPSPPS, payload]
  | first :: second :: rest =>
      have typ : naluType (first :: second :: rest) = (first >>> 1) &&& 0x3F := rfl
      have long : 2 ≤ (first :: second :: rest).length := by simp
      simp only [typ, if_pos long]
      by_cases aggregation : (first >>> 1) &&& 0x3F = NALUType_AggregationUnit
      · rw [rtpH265ExtractVPSSPSPPS_aggregationUnit payload aggregation, aggregation,
          if_neg (by decide), if_neg (by decide), if_neg (by decide)]
      · simp only [rtpH265ExtractVPSSPSPPS, payload, if_neg aggregation]
        split_ifs <;> simp_all [NALUType_VPS_NUT, NALUType_SPS_NUT, NALUType_PPS_NUT]

/-- What `rtpH265ExtractVPSSPSPPS` finds is a whole NAL unit, never empty. -/
theorem rtpH265ExtractVPSSPSPPS_ne_nil (pkt : Packet) {nalu : List UInt8}
    (found : (rtpH265ExtractVPSSPSPPS pkt).1 = some nalu ∨
      (rtpH265ExtractVPSSPSPPS pkt).2.1 = some nalu ∨
      (rtpH265ExtractVPSSPSPPS pkt).2.2 = some nalu) : nalu ≠ [] := by
  rw [rtpH265ExtractVPSSPSPPS_eq] at found
  split_ifs at found with long
  · simp only [NALUKinds.lastOfType_singleton] at found
    rcases found with found | found | found <;> split_ifs at found <;> cases found <;>
      exact List.ne_nil_of_length_pos (by omega)
  · simp at found

namespace FormatProcessorH265

/-- An RTP packet leaves the format with the parameter sets it carries, and the stored ones
otherwise. -/
theorem updateTrackParametersFromRTPPacket_eq (format : H265.Format) (pkt : Packet) :
    updateTrackParametersFromRTPPacket format pkt =
      format.safeSetParams ((rtpH265ExtractVPSSPSPPS pkt).1.or format.vps)
        ((rtpH265ExtractVPSSPSPPS pkt).2.1.or format.sps)
        ((rtpH265ExtractVPSSPSPPS pkt).2.2.or format.pps) := by
  have nonEmpty := fun nalu => @rtpH265ExtractVPSSPSPPS_ne_nil pkt nalu
  unfold updateTrackParametersFromRTPPacket
  rcases extracted : rtpH265ExtractVPSSPSPPS pkt with ⟨vps, sps, pps⟩
  rw [extracted] at nonEmpty
  dsimp only at nonEmpty ⊢
  split_ifs with changed
  · rfl
  · simp only [Bool.or_eq_true, not_or, Bool.not_eq_true] at changed
    rw [or_eq_of_paramChanged_eq_false (fun _ found => nonEmpty _ (.inl found)) changed.1.1,
      or_eq_of_paramChanged_eq_false (fun _ found => nonEmpty _ (.inr (.inl found))) changed.1.2,
      or_eq_of_paramChanged_eq_false (fun _ found => nonEmpty _ (.inr (.inr found))) changed.2]
    rfl

/-- The last NAL unit of a type in an access unit among those that differ from the stored one. -/
def lastChanged (typ : UInt8) (stored : Option (List UInt8)) (au : List (List UInt8)) :
    Option (List UInt8) :=
  kinds.lastOfType typ (au.filter fun nalu => !bytesEqual (some nalu) stored)

theorem lastChanged_cons (typ : UInt8) (stored : Option (List UInt8)) (nalu : List UInt8)
    (au : List (List UInt8)) :
    lastChanged typ stored (nalu :: au) =
      (lastChanged typ stored au).or (lastChanged typ stored [nalu]) := by
  rw [lastChanged, ← List.singleton_append, List.filter_append, NALUKinds.lastOfType_append]
  rfl

theorem lastChanged_singleton (typ : UInt8) (stored : Option (List UInt8)) (nalu : List UInt8) :
    lastChanged typ stored [nalu] =
      if naluType nalu = typ ∧ bytesEqual (some nalu) stored = false then some nalu else none := by
  by_cases changed : bytesEqual (some nalu) stored <;>
    simp [lastChanged, List.filter_cons, changed, NALUKinds.lastOfType_singleton]

/-- One NAL unit of the loop, read as the NAL unit alone: a parameter set that differs from the
stored one replaces the running one and raises the flag. -/
theorem updateFromAUStep_eq (format : H265.Format)
    (acc : Option (List UInt8) × Option (List UInt8) × Option (List UInt8) × Bool)
    (nalu : List UInt8) :
    updateFromAUStep format acc nalu =
      ((lastChanged NALUType_VPS_NUT format.vps [nalu]).or acc.1,
        (lastChanged NALUType_SPS_NUT format.sps [nalu]).or acc.2.1,
        (lastChanged NALUType_PPS_NUT format.pps [nalu]).or acc.2.2.1,
        acc.2.2.2 || (lastChanged NALUType_VPS_NUT format.vps [nalu]).isSome ||
          (lastChanged NALUType_SPS_NUT format.sps [nalu]).isSome ||
          (lastChanged NALUType_PPS_NUT format.pps [nalu]).isSome) := by
  obtain ⟨vps, sps, pps, update⟩ := acc
  simp only [updateFromAUStep, lastChanged_singleton]
  generalize naluType nalu = typ
  by_cases vpsType : typ = NALUType_VPS_NUT
  · subst vpsType
    cases bytesEqual (some nalu) format.vps <;>
      simp [NALUType_VPS_NUT, NALUType_SPS_NUT, NALUType_PPS_NUT]
  by_cases spsType : typ = NALUType_SPS_NUT
  · subst spsType
    cases bytesEqual (some nalu) format.sps <;>
      simp [NALUType_VPS_NUT, NALUType_SPS_NUT, NALUType_PPS_NUT]
  by_cases ppsType : typ = NALUType_PPS_NUT
  · subst ppsType
    cases bytesEqual (some nalu) format.pps <;>
      simp [NALUType_VPS_NUT, NALUType_SPS_NUT, NALUType_PPS_NUT]
  simp [vpsType, spsType, ppsType]

/-- The loop of `updateTrackParametersFromAU` keeps, of each parameter-set type, the last NAL unit
that differs from the stored one, and raises the flag when there is one. -/
theorem foldl_updateFromAUStep (format : H265.Format) (au : List (List UInt8))
    (acc : Option (List UInt8) × Option (List UInt8) × Option (List UInt8) × Bool) :
    au.foldl (updateFromAUStep format) acc =
      ((lastChanged NALUType_VPS_NUT format.vps au).or acc.1,
        (lastChanged NALUType_SPS_NUT format.sps au).or acc.2.1,
        (lastChanged NALUType_PPS_NUT format.pps au).or acc.2.2.1,
        acc.2.2.2 || (lastChanged NALUType_VPS_NUT format.vps au).isSome ||
          (lastChanged NALUType_SPS_NUT format.sps au).isSome ||
          (lastChanged NALUType_PPS_NUT format.pps au).isSome) := by
  induction au generalizing acc with
  | nil => simp [lastChanged]
  | cons nalu au ih =>
      rw [List.foldl_cons, ih, updateFromAUStep_eq]
      simp only [lastChanged_cons _ _ nalu au, Option.or_assoc, Option.isSome_or, Bool.or_assoc,
        Bool.or_comm, Bool.or_left_comm]

/-- `updateTrackParametersFromAU` stores, of each parameter-set type, the last NAL unit of the
access unit that differs from the stored one, and keeps the stored one when there is none. -/
theorem updateTrackParametersFromAU_eq (format : H265.Format) (au : List (List UInt8)) :
    updateTrackParametersFromAU format au =
      format.safeSetParams ((lastChanged NALUType_VPS_NUT format.vps au).or format.vps)
        ((lastChanged NALUType_SPS_NUT format.sps au).or format.sps)
        ((lastChanged NALUType_PPS_NUT format.pps au).or format.pps) := by
  simp only [updateTrackParametersFromAU, foldl_updateFromAUStep, Bool.false_or]
  split_ifs with changed
  · rfl
  · simp only [Bool.or_eq_true, not_or, Option.not_isSome_iff_eq_none] at changed
    rw [changed.1.1, changed.1.2, changed.2]
    rfl

/-- With at most one NAL unit of a type in the access unit, comparing it with the stored one
changes nothing: the stored one afterwards is that NAL unit, or the stored one when there is
none. -/
theorem lastChanged_or_eq {typ : UInt8} (typed : typ ≠ 0) (stored : Option (List UInt8))
    {au : List (List UInt8)} (single : (au.filter fun nalu => naluType nalu = typ).length ≤ 1) :
    (lastChanged typ stored au).or stored = (kinds.lastOfType typ au).or stored := by
  have swap : lastChanged typ stored au =
      ((au.filter fun nalu => naluType nalu = typ).filter
        fun nalu => !bytesEqual (some nalu) stored).getLast? := by
    simp only [lastChanged, NALUKinds.lastOfType, kinds_naluType, List.filter_filter, Bool.and_comm]
  simp only [swap, NALUKinds.lastOfType, kinds_naluType]
  match found : au.filter fun nalu => naluType nalu = typ with
  | [] => rfl
  | [nalu] =>
      have nonEmpty : nalu ≠ [] := by
        rintro rfl
        have mem : ([] : List UInt8) ∈ au.filter fun nalu => naluType nalu = typ :=
          found ▸ List.mem_singleton_self _
        exact typed ((of_decide_eq_true (List.mem_filter.mp mem).2).symm.trans (by decide))
      by_cases same : bytesEqual (some nalu) stored
      · simp [same, (bytesEqual_some_iff nonEmpty stored).mp same]
      · simp [same]
  | _ :: _ :: _ => simp [found] at single

end FormatProcessorH265

end FormatProcessor
end RtspSimpleServer
