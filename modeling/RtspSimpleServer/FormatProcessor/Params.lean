import RtspSimpleServer.FormatProcessor.H264
import RtspSimpleServer.FormatProcessor.H265

/-!
# Parameter sets of decoded access units

From a decoded access unit `Process` stores the parameter sets and remuxes the unit, putting the
stored ones in front of a key frame.  H.264 stores the last ones seen; H.265 compares with the
stored one, and so can keep the first of two VPS.
-/

namespace RtspSimpleServer
namespace FormatProcessor

variable {Dec Enc : Type} (lib : Codec (List (List UInt8)) Dec Enc)

/-- A codec whose decoder always asks for more packets and whose encoder is never created here. -/
def silentCodec : Codec (List (List UInt8)) Unit Unit :=
  ⟨.ok (), fun dec _ => (dec, .error .morePacketsNeeded), fun _ => ((), none),
    fun _ _ _ => ((), .ok [])⟩

namespace FormatProcessorH264

open H264

/-- The H.264 processor keeps an access unit's key frames: an IDR is neither a parameter set nor a
delimiter. -/
theorem hasKeyFrame_iff (au : List (List UInt8)) :
    kinds.hasKeyFrame au = true ↔ ∃ nalu ∈ au, naluType nalu = NALUTypeIDR := by
  simp only [NALUKinds.hasKeyFrame, List.any_eq_true, Bool.and_eq_true]
  refine exists_congr fun nalu => and_congr_right fun _ => ⟨fun ⟨_, key⟩ => ?_, fun idr => ?_⟩
  · simpa [NALUKinds.isKey, kinds] using key
  · simp [NALUKinds.kept, NALUKinds.isKey, kinds, idr, NALUTypeIDR, NALUTypeSPS, NALUTypePPS,
      NALUTypeAccessUnitDelimiter]

/-- On a decoded access unit, the H.264 processor stores the access unit's last SPS and last PPS,
keeping the stored ones when it has none, and leaves in the unit the stored SPS and PPS when it has
a key frame and both are set, followed by its NAL units that are neither parameter sets nor
delimiters; when that is empty, the unit has no packets and the call returns no error. -/
theorem process_accessUnit (t : Processor H264.Format Dec Enc) {u : H26xUnit}
    (noPackets : u.rtpPackets = []) (hasNonRTSPReaders : Bool) :
    let r := process lib t u hasNonRTSPReaders
    r.1.format.sps = (kinds.lastOfType NALUTypeSPS u.au).or t.format.sps ∧
      r.1.format.pps = (kinds.lastOfType NALUTypePPS u.au).or t.format.pps ∧
      r.2.1.au = (if kinds.hasKeyFrame u.au then r.1.format.params.getD [] else []) ++
        u.au.filter kinds.kept ∧
      (r.2.1.au = [] → r.2.1.rtpPackets = [] ∧ r.2.2 = none) := by
  obtain ⟨format, au, empty⟩ := H26x.process_accessUnit (h := methods) lib t noPackets
    hasNonRTSPReaders
  have updated := format.trans (updateTrackParametersFromAU_eq t.format u.au)
  exact ⟨congrArg H264.Format.sps updated, congrArg H264.Format.pps updated,
    au.trans (NALUKinds.remux_eq _ _ _), empty⟩

/-- Over any sequence of decoded access units, the stored SPS and PPS are the last ones seen, or
the initial ones when none was; in particular a stored one is never reset to nil. -/
theorem processAll_accessUnits_params (t : Processor H264.Format Dec Enc)
    (units : List (H26xUnit × Bool)) (noPackets : ∀ unit ∈ units, unit.1.rtpPackets = []) :
    let r := (H26x.processAll methods lib t units).1
    r.format.sps = (kinds.lastOfType NALUTypeSPS (units.map (·.1.au)).flatten).or t.format.sps ∧
      r.format.pps = (kinds.lastOfType NALUTypePPS (units.map (·.1.au)).flatten).or t.format.pps := by
  induction units generalizing t with
  | nil => exact ⟨rfl, rfl⟩
  | cons unit units ih =>
      obtain ⟨sps, pps, -⟩ := process_accessUnit lib t (noPackets unit (.head _)) unit.2
      obtain ⟨laterSps, laterPps⟩ := ih (process lib t unit.1 unit.2).1
        fun other mem => noPackets other (.tail _ mem)
      simp only [H26x.processAll, List.map_cons, List.flatten_cons, NALUKinds.lastOfType_append]
      exact ⟨laterSps.trans (by rw [sps, Option.or_assoc]),
        laterPps.trans (by rw [pps, Option.or_assoc])⟩

end FormatProcessorH264

namespace FormatProcessorH265

open H265

/-- On a decoded access unit, the H.265 processor leaves in the unit the stored VPS, SPS and PPS
when it has a key frame and all three are set, followed by its NAL units that are neither
parameter sets nor delimiters; when that is empty, the unit has no packets and the call returns no
error. -/
theorem process_accessUnit (t : Processor H265.Format Dec Enc) {u : H26xUnit}
    (noPackets : u.rtpPackets = []) (hasNonRTSPReaders : Bool) :
    let r := process lib t u hasNonRTSPReaders
    r.1.format = updateTrackParametersFromAU t.format u.au ∧
      r.2.1.au = (if kinds.hasKeyFrame u.au then r.1.format.params.getD [] else []) ++
        u.au.filter kinds.kept ∧
      (r.2.1.au = [] → r.2.1.rtpPackets = [] ∧ r.2.2 = none) := by
  obtain ⟨format, au, empty⟩ := H26x.process_accessUnit (h := methods) lib t noPackets
    hasNonRTSPReaders
  exact ⟨format, au.trans (NALUKinds.remux_eq _ _ _), empty⟩

/-- An access unit with two VPS, the second of them the stored one: the H.265 processor compares
each with the stored VPS, keeps the first, and stores it, although the last VPS seen is the
second. -/
theorem process_stores_first_of_two_vps :
    let t : Processor H265.Format Unit Unit := ⟨1472, ⟨96, some [0x40, 2], none, none, 0⟩, none, none⟩
    let au : List (List UInt8) := [[0x40, 1], [0x40, 2]]
    (process silentCodec t ⟨[], 0, au⟩ true).1.format.vps = some [0x40, 1] ∧
      kinds.lastOfType NALUType_VPS_NUT au = some [0x40, 2] := by
  intro t au
  obtain ⟨format, -, -⟩ := process_accessUnit silentCodec t (u := ⟨[], 0, au⟩) rfl true
  refine ⟨(congrArg H265.Format.vps format).trans ?_, by decide⟩
  show (updateTrackParametersFromAU ⟨96, some [0x40, 2], none, none, 0⟩ [[0x40, 1], [0x40, 2]]).vps =
    some [0x40, 1]
  decide

end FormatProcessorH265

/-- The parameter sets the H.264 and H.265 processors store from decoded access units, and what
they leave in the units.  The H.264 processor stores the last SPS and PPS seen.  The H.265
processor compares each parameter set with the stored one, so it stores, of each type, the last one
that differs from the stored one; that is the last one seen when the access unit has at most one of
the type. -/
theorem accessUnits_params_remux :
    (∀ (t : Processor H264.Format Dec Enc) (units : List (H26xUnit × Bool)),
      (∀ unit ∈ units, unit.1.rtpPackets = []) →
      let r := (H26x.processAll FormatProcessorH264.methods lib t units).1
      r.format.sps = (H264.kinds.lastOfType H264.NALUTypeSPS (units.map (·.1.au)).flatten).or
          t.format.sps ∧
        r.format.pps = (H264.kinds.lastOfType H264.NALUTypePPS (units.map (·.1.au)).flatten).or
          t.format.pps) ∧
    (∀ (t : Processor H264.Format Dec Enc) (u : H26xUnit) (hasNonRTSPReaders : Bool),
      u.rtpPackets = [] →
      let r := FormatProcessorH264.process lib t u hasNonRTSPReaders
      r.2.1.au = (if H264.kinds.hasKeyFrame u.au then r.1.format.params.getD [] else []) ++
          u.au.filter H264.kinds.kept ∧
        (r.2.1.au = [] → r.2.1.rtpPackets = [] ∧ r.2.2 = none)) ∧
    (∀ (t : Processor H265.Format Dec Enc) (u : H26xUnit) (hasNonRTSPReaders : Bool),
      u.rtpPackets = [] →
      let r := FormatProcessorH265.process lib t u hasNonRTSPReaders
      r.1.format.vps = (FormatProcessorH265.lastChanged H265.NALUType_VPS_NUT t.format.vps u.au).or
          t.format.vps ∧
        r.1.format.sps =
          (FormatProcessorH265.lastChanged H265.NALUType_SPS_NUT t.format.sps u.au).or
            t.format.sps ∧
        r.1.format.pps =
          (FormatProcessorH265.lastChanged H265.NALUType_PPS_NUT t.format.pps u.au).or
            t.format.pps ∧
        ((∀ typ ∈ [H265.NALUType_VPS_NUT, H265.NALUType_SPS_NUT, H265.NALUType_PPS_NUT],
            (u.au.filter fun nalu => H265.naluType nalu = typ).length ≤ 1) →
          r.1.format.vps = (H265.kinds.lastOfType H265.NALUType_VPS_NUT u.au).or t.format.vps ∧
            r.1.format.sps = (H265.kinds.lastOfType H265.NALUType_SPS_NUT u.au).or t.format.sps ∧
            r.1.format.pps = (H265.kinds.lastOfType H265.NALUType_PPS_NUT u.au).or t.format.pps) ∧
        r.2.1.au = (if H265.kinds.hasKeyFrame u.au then r.1.format.params.getD [] else []) ++
          u.au.filter H265.kinds.kept ∧
        (r.2.1.au = [] → r.2.1.rtpPackets = [] ∧ r.2.2 = none)) := by
  refine ⟨fun t units noPackets => FormatProcessorH264.processAll_accessUnits_params lib t units
    noPackets, fun t u b noPackets => ?_, fun t u b noPackets => ?_⟩
  · obtain ⟨-, -, au, empty⟩ := FormatProcessorH264.process_accessUnit lib t noPackets b
    exact ⟨au, empty⟩
  · obtain ⟨format, au, empty⟩ := FormatProcessorH265.process_accessUnit lib t noPackets b
    have params := format.trans (FormatProcessorH265.updateTrackParametersFromAU_eq t.format u.au)
    have vps := congrArg H265.Format.vps params
    have sps := congrArg H265.Format.sps params
    have pps := congrArg H265.Format.pps params
    refine ⟨vps, sps, pps, fun single => ?_, au, empty⟩
    simp only [List.mem_cons, List.mem_singleton, forall_eq_or_imp, forall_eq,
      List.not_mem_nil, or_false] at single
    exact ⟨vps.trans (FormatProcessorH265.lastChanged_or_eq (by decide) _ single.1),
      sps.trans (FormatProcessorH265.lastChanged_or_eq (by decide) _ single.2.1),
      pps.trans (FormatProcessorH265.lastChanged_or_eq (by decide) _ single.2.2)⟩

/-- Two VPS in one access unit, the second of them the stored one: the H.265 processor stores the
first, the last one that differs from the stored one. -/
theorem accessUnits_params_remux_two_vps :
    let t : Processor H265.Format Unit Unit := ⟨1472, ⟨96, some [0x40, 2], none, none, 0⟩, none, none⟩
    let u : H26xUnit := ⟨[], 0, [[0x40, 1], [0x40, 2]]⟩
    u.rtpPackets = [] ∧
      (FormatProcessorH265.process silentCodec t u true).1.format.vps =
        (FormatProcessorH265.lastChanged H265.NALUType_VPS_NUT t.format.vps u.au).or t.format.vps :=
  ⟨rfl, ((accessUnits_params_remux silentCodec).2.2 _ _ true rfl).1⟩

end FormatProcessor
end RtspSimpleServer
