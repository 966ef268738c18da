import RtspSimpleServer.FormatProcessor.H264
import RtspSimpleServer.FormatProcessor.H265

/-!
# Parameter sets that arrive over RTP

On the RTP path `Process` stores the parameter sets read off each packet.  For H.264 this ends as
the access-unit path does; for H.265 it misses those carried in an aggregation unit, and agrees
again when an access unit has at most one parameter set of each type.
-/

namespace RtspSimpleServer
namespace FormatProcessor

open Packet

/-- The payload of an aggregation packet (an H.264 STAP-A or an H.265 aggregation unit, without
DON): its header, then each NAL unit behind its size as two big-endian bytes. -/
def aggregatePayload (header : List UInt8) (nalus : List (List UInt8)) : List UInt8 :=
  header ++ (nalus.map fun nalu =>
    [UInt8.ofNat (nalu.length / 256), UInt8.ofNat (nalu.length % 256)] ++ nalu).flatten

/-- The aggregate loops cut an aggregation payload back into the NAL units it was built from, when
each is non-empty and its size fits in two bytes. -/
theorem splitAggregate_aggregatePayload {nalus : List (List UInt8)}
    (sized : ∀ nalu ∈ nalus, nalu ≠ [] ∧ nalu.length < 65536) :
    splitAggregate (aggregatePayload [] nalus) = some nalus := by
  induction nalus with
  | nil => simp [aggregatePayload, splitAggregate]
  | cons nalu nalus ih =>
      obtain ⟨nonEmpty, small⟩ := sized nalu (.head _)
      have size : (UInt8.ofNat (nalu.length / 256)).toNat * 256 +
          (UInt8.ofNat (nalu.length % 256)).toNat = nalu.length := by
        show nalu.length / 256 % 256 * 256 + nalu.length % 256 % 256 = nalu.length
        omega
      have positive : 0 < nalu.length := List.length_pos.mpr nonEmpty
      have payload : aggregatePayload [] (nalu :: nalus) = UInt8.ofNat (nalu.length / 256) ::
          UInt8.ofNat (nalu.length % 256) :: (nalu ++ aggregatePayload [] nalus) := by
        simp [aggregatePayload]
      rw [payload, splitAggregate]
      simp only [size, List.length_append]
      rw [if_neg (by omega), if_neg (by omega), List.drop_left, List.take_left]
      rw [show splitAggregate _ = some nalus from ih fun nalu mem => sized nalu (.tail _ mem)]
      rfl


namespace Codec

variable {Data Dec Enc : Type} (lib : Codec Data Dec Enc)

/-- A decoder, or the one the codec creates when there is none, that takes the packets one after
the other without their padding, asks for more after each but the last, and returns `data` at the
last. -/
inductive Decodes : Option Dec → List Packet → Data → Prop
  | last {decoder : Option Dec} {dec dec' : Dec} {pkt : Packet} {data : Data} :
      lib.decoderOf decoder = .ok dec → lib.decode dec pkt.removePadding = (dec', .ok data) →
      Decodes decoder [pkt] data
  | more {decoder : Option Dec} {dec dec' : Dec} {pkt : Packet} {pkts : List Packet} {data : Data}
      {err : DecodeError} :
      lib.decoderOf decoder = .ok dec → lib.decode dec pkt.removePadding = (dec', .error err) →
      err = .nonStartingPacketAndNoPrevious ∨ err = .morePacketsNeeded →
      Decodes (some dec') pkts data → Decodes decoder (pkt :: pkts) data

end Codec

namespace H26x

variable {Format Dec Enc : Type} {h : H26x Format} (lib : Codec (List (List UInt8)) Dec Enc)

/-- The packets of one access unit, each fitting the limit, fed to a processor without encoder and
with readers that need the access unit: every call stores the packet's parameter sets and returns
no error, and the last leaves in its unit the access unit remuxed with the parameter sets stored at
the end. -/
theorem processAll_of_decodes {t : Processor Format Dec Enc} {pkts : List Packet}
    {au : List (List UInt8)} (decodes : lib.Decodes t.decoder pkts au)
    (noEncoder : t.encoder = none)
    (fits : ∀ pkt ∈ pkts, (pkt.removePadding.marshalSize : Int) ≤ t.udpMaxPayloadSize)
    (pts : Int) :
    let r := processAll h lib t (pkts.map fun pkt => (unitForRTPPacket pkt pts, true))
    r.1.format = pkts.foldl h.updateTrackParametersFromRTPPacket t.format ∧
      (r.2.map (·.1.au)).getLast? = some (h.remuxAccessUnit r.1.format au) ∧
      ∀ e ∈ r.2, e.2 = none := by
  generalize decoder : t.decoder = d at decodes
  induction decodes generalizing t with
  | @last _ _ _ pkt _ created complete =>
      have step := process_of_fits lib (h := h) (u := unitForRTPPacket pkt pts) rfl noEncoder
        (fits pkt (.head _)) (decoder ▸ created)
      rw [complete] at step
      simp only [List.map, processAll, step]
      exact ⟨rfl, rfl, by simp⟩
  | @more _ _ dec pkt _ _ _ created incomplete waits _ ih =>
      have step := process_of_fits lib (h := h) (u := unitForRTPPacket pkt pts) rfl noEncoder
        (fits pkt (.head _)) (decoder ▸ created)
      simp only [incomplete, if_pos waits] at step
      obtain ⟨format, last, errors⟩ :=
        ih (t := { t with format := h.updateTrackParametersFromRTPPacket t.format pkt,
                          decoder := some dec })
          noEncoder (fun pkt mem => fits pkt (.tail _ mem)) rfl
      simp only [List.map, processAll, step, List.foldl_cons, List.getLast?_cons, last,
        List.forall_mem_cons]
      exact ⟨format, rfl, trivial, errors⟩

end H26x

/-! ### H.264: the two paths store the same parameter sets -/

section

namespace H264

/-- How the RTP packets of an H.264 access unit carry its NAL units (packetization mode 1): a NAL
unit alone in a packet, several in a STAP-A, or one cut into FU-A fragments, which no parameter set
is. -/
inductive Carries : List (List UInt8) → List Packet → Prop
  | nil : Carries [] []
  | single {au : List (List UInt8)} {pkt : Packet} {pkts : List Packet} :
      naluType pkt.payload ≠ NALUTypeSTAPA → Carries au pkts →
      Carries (pkt.payload :: au) (pkt :: pkts)
  | aggregate {nalus au : List (List UInt8)} {header : UInt8} {pkt : Packet} {pkts : List Packet} :
      header &&& 0x1F = NALUTypeSTAPA →
      (∀ nalu ∈ nalus, nalu ≠ [] ∧ nalu.length < 65536) →
      pkt.payload = aggregatePayload [header] nalus → Carries au pkts →
      Carries (nalus ++ au) (pkt :: pkts)
  | fragments {nalu : List UInt8} {au : List (List UInt8)} {frags pkts : List Packet} :
      naluType nalu ≠ NALUTypeSPS → naluType nalu ≠ NALUTypePPS →
      (∀ frag ∈ frags, naluType frag.payload = NALUTypeFUA) → Carries au pkts →
      Carries (nalu :: au) (frags ++ pkts)

end H264

open H264

/-- A packet that carries one NAL unit other than a STAP-A carries the parameter set it is. -/
theorem rtpH264ExtractSPSPPS_single {pkt : Packet}
    (single : naluType pkt.payload ≠ NALUTypeSTAPA) :
    rtpH264ExtractSPSPPS pkt =
      (kinds.lastOfType NALUTypeSPS [pkt.payload], kinds.lastOfType NALUTypePPS [pkt.payload]) := by
  simp only [NALUKinds.lastOfType_singleton, kinds_naluType]
  unfold rtpH264ExtractSPSPPS
  split
  · rename_i empty
    simp only [empty, naluType, List.headD_nil]
    decide
  · rename_i first rest payload
    have typ : naluType pkt.payload = first &&& 0x1F := by simp [payload, naluType]
    simp only [typ] at single ⊢
    split_ifs <;> simp_all [NALUTypeSPS, NALUTypePPS]

/-- A STAP-A carries the last SPS and the last PPS among its NAL units. -/
theorem rtpH264ExtractSPSPPS_aggregate {pkt : Packet} {header : UInt8} {nalus : List (List UInt8)}
    (stapA : header &&& 0x1F = NALUTypeSTAPA)
    (sized : ∀ nalu ∈ nalus, nalu ≠ [] ∧ nalu.length < 65536)
    (payload : pkt.payload = aggregatePayload [header] nalus) :
    rtpH264ExtractSPSPPS pkt =
      (kinds.lastOfType NALUTypeSPS nalus, kinds.lastOfType NALUTypePPS nalus) := by
  have body : pkt.payload = header :: aggregatePayload [] nalus := payload
  simp only [rtpH264ExtractSPSPPS, body, stapA]
  rw [if_neg (by decide), if_neg (by decide), if_pos trivial, splitAggregate_aggregatePayload sized]
  simp only [foldl_extractSPSPPSStep, Option.or_none]

/-- A FU-A fragment carries no parameter set. -/
theorem rtpH264ExtractSPSPPS_fragment {pkt : Packet} (fua : naluType pkt.payload = NALUTypeFUA) :
    rtpH264ExtractSPSPPS pkt = (none, none) := by
  rw [rtpH264ExtractSPSPPS_single (by rw [fua]; decide)]
  simp only [NALUKinds.lastOfType_singleton, kinds_naluType, fua]
  rw [if_neg (by decide), if_neg (by decide)]

/-! ### An H.264 access unit whose parameter sets travel in a STAP-A -/

namespace H264Aggregation

def sps : List UInt8 := [0x67, 0x42, 0x00, 0x1F]
def pps : List UInt8 := [0x68, 0xCE, 0x3C]
def idr : List UInt8 := [0x65, 0x88, 0x84]

/-- A key frame with its parameter sets. -/
def accessUnit : List (List UInt8) := [sps, pps, idr]

/-- The parameter sets in one STAP-A (header type 24). -/
def stapAPacket : Packet :=
  { padding := false, marker := false, payloadType := 96, sequenceNumber := 1, timestamp := 0,
    ssrc := 0, csrc := [], extensionSize := 0,
    payload := aggregatePayload [0x78] [sps, pps], paddingSize := 0 }

/-- The key frame alone, in the packet that ends the access unit. -/
def keyFramePacket : Packet :=
  { padding := false, marker := true, payloadType := 96, sequenceNumber := 2, timestamp := 0,
    ssrc := 0, csrc := [], extensionSize := 0, payload := idr, paddingSize := 0 }

/-- A decoder that gathers packets up to the one with the marker and then returns the access
unit; its encoder produces nothing. -/
def markerDecoder : Codec (List (List UInt8)) Nat Unit where
  createDecoder := .ok 0
  decode n pkt := if pkt.marker then (n + 1, .ok accessUnit) else (n + 1, .error .morePacketsNeeded)
  init _ := ((), none)
  encode _ _ _ := ((), .ok [])

/-- A processor with no parameter sets, encoder or decoder yet. -/
def processor : Processor H264.Format Nat Unit :=
  ⟨1472, ⟨96, none, none, 1⟩, none, none⟩

end H264Aggregation

namespace FormatProcessorH264

/-- FU-A fragments leave the format as it is. -/
theorem foldl_updateTrackParametersFromRTPPacket_fragments {frags : List Packet}
    (fragments : ∀ frag ∈ frags, naluType frag.payload = NALUTypeFUA) (format : H264.Format) :
    frags.foldl updateTrackParametersFromRTPPacket format = format := by
  induction frags with
  | nil => rfl
  | cons frag frags ih =>
      rw [List.foldl_cons, updateTrackParametersFromRTPPacket_eq,
        rtpH264ExtractSPSPPS_fragment (fragments frag (.head _))]
      exact ih fun frag mem => fragments frag (.tail _ mem)

/-- Over the packets of an access unit, the stored SPS and PPS become the access unit's last ones,
or stay the stored ones when it has none: what `updateTrackParametersFromAU` makes of the access
unit. -/
theorem foldl_updateTrackParametersFromRTPPacket {au : List (List UInt8)} {pkts : List Packet}
    (carries : Carries au pkts) (format : H264.Format) :
    pkts.foldl updateTrackParametersFromRTPPacket format =
      updateTrackParametersFromAU format au := by
  rw [updateTrackParametersFromAU_eq]
  induction carries generalizing format with
  | nil => rfl
  | single single _ ih =>
      rw [List.foldl_cons, ih, updateTrackParametersFromRTPPacket_eq,
        rtpH264ExtractSPSPPS_single single]
      simp only [NALUKinds.lastOfType_cons, NALUKinds.lastOfType_nil, Option.none_or,
        Format.safeSetParams_sps, Format.safeSetParams_pps, Format.safeSetParams_safeSetParams,
        Option.or_assoc]
  | aggregate stapA sized payload _ ih =>
      rw [List.foldl_cons, ih, updateTrackParametersFromRTPPacket_eq,
        rtpH264ExtractSPSPPS_aggregate stapA sized payload]
      simp only [NALUKinds.lastOfType_append, Format.safeSetParams_sps, Format.safeSetParams_pps,
        Format.safeSetParams_safeSetParams, Option.or_assoc]
  | fragments notSPS notPPS fragments _ ih =>
      rw [List.foldl_append, foldl_updateTrackParametersFromRTPPacket_fragments fragments, ih]
      simp only [NALUKinds.lastOfType_cons, kinds_naluType, if_neg notSPS, if_neg notPPS,
        Option.or_none]


variable {Dec Enc : Type} (lib : Codec (List (List UInt8)) Dec Enc)

/-- The RTP packets of an H.264 access unit that carry all its NAL units, no parameter set
fragmented, through a processor without encoder whose decoder returns the access unit at the last
packet: the processor ends with the format the access-unit path gives it, returns no error, and
leaves in the last unit the access unit the access-unit path leaves in its unit. -/
theorem processAll_stores_accessUnit_params (t : Processor H264.Format Dec Enc) {pkts : List Packet}
    {au : List (List UInt8)} (carries : Carries au pkts) (decodes : lib.Decodes t.decoder pkts au)
    (noEncoder : t.encoder = none)
    (fits : ∀ pkt ∈ pkts, (pkt.removePadding.marshalSize : Int) ≤ t.udpMaxPayloadSize)
    (pts : Int) :
    let rtp := H26x.processAll methods lib t
      (pkts.map fun pkt => (H26x.unitForRTPPacket pkt pts, true))
    let decoded := process lib t ⟨[], pts, au⟩ true
    rtp.1.format = decoded.1.format ∧ (rtp.2.map (·.1.au)).getLast? = some decoded.2.1.au ∧
      ∀ e ∈ rtp.2, e.2 = none := by
  obtain ⟨format, last, errors⟩ :=
    H26x.processAll_of_decodes (h := methods) lib decodes noEncoder fits pts
  obtain ⟨decodedFormat, decodedAU, -⟩ :=
    H26x.process_accessUnit (h := methods) lib t (u := ⟨[], pts, au⟩) rfl true
  have same := format.trans
    ((foldl_updateTrackParametersFromRTPPacket carries t.format).trans decodedFormat.symm)
  refine ⟨same, ?_, errors⟩
  rw [last, same]
  exact congrArg some decodedAU.symm

theorem processAll_stores_accessUnit_params_stapA :
    let pkts := [H264Aggregation.stapAPacket, H264Aggregation.keyFramePacket]
    Carries H264Aggregation.accessUnit pkts ∧
      H264Aggregation.markerDecoder.Decodes none pkts H264Aggregation.accessUnit ∧
      (∀ pkt ∈ pkts, (pkt.removePadding.marshalSize : Int) ≤ 1472) ∧
      let rtp := H26x.processAll methods H264Aggregation.markerDecoder H264Aggregation.processor
        (pkts.map fun pkt => (H26x.unitForRTPPacket pkt 0, true))
      let decoded := process H264Aggregation.markerDecoder H264Aggregation.processor
        ⟨[], 0, H264Aggregation.accessUnit⟩ true
      rtp.1.format = decoded.1.format ∧ (rtp.2.map (·.1.au)).getLast? = some decoded.2.1.au ∧
        ∀ e ∈ rtp.2, e.2 = none :=
  have carries : Carries H264Aggregation.accessUnit
      [H264Aggregation.stapAPacket, H264Aggregation.keyFramePacket] :=
    show Carries ([H264Aggregation.sps, H264Aggregation.pps] ++
        [H264Aggregation.keyFramePacket.payload]) _
      from .aggregate (by decide) (by decide) rfl (.single (by decide) .nil)
  have decodes : H264Aggregation.markerDecoder.Decodes none
      [H264Aggregation.stapAPacket, H264Aggregation.keyFramePacket] H264Aggregation.accessUnit :=
    .more rfl rfl (.inr rfl) (.last rfl rfl)
  have fits : ∀ pkt ∈ [H264Aggregation.stapAPacket, H264Aggregation.keyFramePacket],
      (pkt.removePadding.marshalSize : Int) ≤ 1472 := by decide
  ⟨carries, decodes, fits, processAll_stores_accessUnit_params H264Aggregation.markerDecoder
    H264Aggregation.processor carries decodes rfl fits 0⟩

end FormatProcessorH264

end

/-! ### An H.265 access unit whose parameter sets travel in an aggregation unit -/

namespace H265Aggregation

def vps : List UInt8 := [0x40, 0x01, 0x0C]
def sps : List UInt8 := [0x42, 0x01, 0x01]
def pps : List UInt8 := [0x44, 0x01, 0xC0]
def idr : List UInt8 := [0x26, 0x01, 0xAF]

/-- A key frame with its parameter sets. -/
def accessUnit : List (List UInt8) := [vps, sps, pps, idr]

/-- The parameter sets in one aggregation unit (header type 48). -/
def aggregationPacket : Packet :=
  { padding := false, marker := false, payloadType := 96, sequenceNumber := 1, timestamp := 0,
    ssrc := 0, csrc := [], extensionSize := 0,
    payload := aggregatePayload [0x60, 0x01] [vps, sps, pps], paddingSize := 0 }

/-- The key frame alone, in the packet that ends the access unit. -/
def keyFramePacket : Packet :=
  { padding := false, marker := true, payloadType := 96, sequenceNumber := 2, timestamp := 0,
    ssrc := 0, csrc := [], extensionSize := 0, payload := idr, paddingSize := 0 }

/-- The processor the two packets reach: no parameter sets yet, no encoder, and a decoder. -/
def processor {Dec Enc : Type} (dec : Dec) : Processor H265.Format Dec Enc :=
  ⟨1472, ⟨96, none, none, none, 0⟩, none, some dec⟩

/-- A decoder that gathers packets up to the one with the marker and then returns the access
unit; its encoder produces nothing. -/
def markerDecoder : Codec (List (List UInt8)) Nat Unit where
  createDecoder := .ok 0
  decode n pkt := if pkt.marker then (n + 1, .ok accessUnit) else (n + 1, .error .morePacketsNeeded)
  init _ := ((), none)
  encode _ _ _ := ((), .ok [])

end H265Aggregation

open H265Aggregation

namespace FormatProcessorH265

variable {Dec Enc : Type} (lib : Codec (List (List UInt8)) Dec Enc)

/-- The aggregation unit changes no parameter set: its loop finds none. -/
theorem updateTrackParametersFromRTPPacket_aggregationPacket (format : H265.Format) :
    updateTrackParametersFromRTPPacket format aggregationPacket = format := by
  have nothing : rtpH265ExtractVPSSPSPPS aggregationPacket = (none, none, none) :=
    rtpH265ExtractVPSSPSPPS_aggregationUnit rfl (by decide)
  simp [updateTrackParametersFromRTPPacket, nothing, paramChanged]

/-- Over RTP, with a decoder that waits for the packet with the marker and then returns the access
unit: the processor stores none of the parameter sets and the access unit it leaves in the last
unit lacks them; the same access unit as a decoded unit has them stored and kept. -/
theorem aggregationUnit_parameter_sets_lost (dec₀ dec₁ dec₂ : Dec) (pts : Int)
    (incomplete : lib.decode dec₀ aggregationPacket = (dec₁, .error .morePacketsNeeded))
    (complete : lib.decode dec₁ keyFramePacket = (dec₂, .ok accessUnit)) :
    let rtp := H26x.processAll methods lib (processor dec₀)
      [(H26x.unitForRTPPacket aggregationPacket pts, true),
        (H26x.unitForRTPPacket keyFramePacket pts, true)]
    let decoded := process lib (processor dec₀) ⟨[], pts, accessUnit⟩ true
    (rtp.1.format.vps, rtp.1.format.sps, rtp.1.format.pps) = (none, none, none) ∧
      (decoded.1.format.vps, decoded.1.format.sps, decoded.1.format.pps) =
        (some vps, some sps, some pps) ∧
      (rtp.2.map (·.1.au)).getLast? = some [idr] ∧ decoded.2.1.au = accessUnit := by
  have decodes : lib.Decodes (some dec₀) [aggregationPacket, keyFramePacket] accessUnit :=
    .more rfl incomplete (.inr rfl) (.last rfl complete)
  obtain ⟨format, last, -⟩ := H26x.processAll_of_decodes (h := methods) lib
    (t := (processor dec₀ : Processor H265.Format Dec Enc)) decodes rfl
    (show ∀ pkt ∈ [aggregationPacket, keyFramePacket],
      (pkt.removePadding.marshalSize : Int) ≤ 1472 by decide) pts
  have unchanged : [aggregationPacket, keyFramePacket].foldl updateTrackParametersFromRTPPacket
      ⟨96, none, none, none, 0⟩ = ⟨96, none, none, none, 0⟩ := by
    rw [List.foldl_cons, updateTrackParametersFromRTPPacket_aggregationPacket]
    rfl
  obtain ⟨decodedFormat, decodedAU, -⟩ := H26x.process_accessUnit (h := methods) lib
    (processor dec₀ : Processor H265.Format Dec Enc) (u := ⟨[], pts, accessUnit⟩) rfl true
  dsimp only [process]
  refine ⟨congrArg (fun f : H265.Format => (f.vps, f.sps, f.pps)) (format.trans unchanged),
    congrArg (fun f : H265.Format => (f.vps, f.sps, f.pps)) decodedFormat, last.trans ?_,
    decodedAU.trans ?_⟩
  · rw [format.trans unchanged]
    rfl
  · rw [decodedFormat]
    rfl

theorem aggregationUnit_parameter_sets_lost_markerDecoder :
    markerDecoder.decode 0 aggregationPacket = (1, .error .morePacketsNeeded) ∧
      markerDecoder.decode 1 keyFramePacket = (2, .ok accessUnit) ∧
      let rtp := H26x.processAll methods markerDecoder (processor 0)
        [(H26x.unitForRTPPacket aggregationPacket 0, true),
          (H26x.unitForRTPPacket keyFramePacket 0, true)]
      let decoded := process markerDecoder (processor 0) ⟨[], 0, accessUnit⟩ true
      (rtp.1.format.vps, rtp.1.format.sps, rtp.1.format.pps) = (none, none, none) ∧
        (decoded.1.format.vps, decoded.1.format.sps, decoded.1.format.pps) =
          (some vps, some sps, some pps) ∧
        (rtp.2.map (·.1.au)).getLast? = some [idr] ∧ decoded.2.1.au = accessUnit :=
  ⟨rfl, rfl, aggregationUnit_parameter_sets_lost markerDecoder 0 1 2 0 rfl rfl⟩

end FormatProcessorH265

/-! ### H.265: parameter sets sent alone -/

section

open H265

namespace H265

/-- How the RTP packets of an H.265 access unit carry its NAL units (RFC 7798, without DON): a NAL
unit alone in a packet, several in an aggregation packet, or one cut into fragmentation units;
no parameter set is aggregated or fragmented. -/
inductive Carries : List (List UInt8) → List Packet → Prop
  | nil : Carries [] []
  | single {au : List (List UInt8)} {pkt : Packet} {pkts : List Packet} :
      2 ≤ pkt.payload.length → naluType pkt.payload ≠ NALUType_AggregationUnit →
      Carries au pkts → Carries (pkt.payload :: au) (pkt :: pkts)
  | aggregate {nalus au : List (List UInt8)} {first second : UInt8} {pkt : Packet}
      {pkts : List Packet} :
      (first >>> 1) &&& 0x3F = NALUType_AggregationUnit →
      (∀ nalu ∈ nalus,
        nalu ≠ [] ∧ nalu.length < 65536 ∧ naluType nalu ∉ kinds.paramTypes) →
      pkt.payload = aggregatePayload [first, second] nalus → Carries au pkts →
      Carries (nalus ++ au) (pkt :: pkts)
  | fragments {nalu : List UInt8} {au : List (List UInt8)} {frags pkts : List Packet} :
      naluType nalu ∉ kinds.paramTypes →
      (∀ frag ∈ frags, naluType frag.payload = NALUType_FragmentationUnit) →
      Carries au pkts → Carries (nalu :: au) (frags ++ pkts)

/-- Packets that each carry one NAL unit carry the access unit of their payloads. -/
theorem Carries.singles {pkts : List Packet}
    (single : ∀ pkt ∈ pkts,
      2 ≤ pkt.payload.length ∧ naluType pkt.payload ≠ NALUType_AggregationUnit) :
    Carries (pkts.map Packet.payload) pkts := by
  induction pkts with
  | nil => exact .nil
  | cons pkt pkts ih =>
      obtain ⟨long, notAggregation⟩ := single pkt (.head _)
      exact .single long notAggregation (ih fun pkt mem => single pkt (.tail _ mem))

end H265

namespace FormatProcessorH265

/-- A packet from which `rtpH265ExtractVPSSPSPPS` reads nothing leaves the format as it is. -/
theorem updateTrackParametersFromRTPPacket_of_nothing {pkt : Packet}
    (nothing : rtpH265ExtractVPSSPSPPS pkt = (none, none, none)) (format : H265.Format) :
    updateTrackParametersFromRTPPacket format pkt = format := by
  rw [updateTrackParametersFromRTPPacket_eq, nothing]
  rfl

/-- A fragmentation unit carries no parameter set. -/
theorem rtpH265ExtractVPSSPSPPS_fragment {pkt : Packet}
    (fu : naluType pkt.payload = NALUType_FragmentationUnit) :
    rtpH265ExtractVPSSPSPPS pkt = (none, none, none) := by
  rw [rtpH265ExtractVPSSPSPPS_eq]
  split_ifs
  · simp only [NALUKinds.lastOfType_singleton, kinds_naluType, fu]
    rw [if_neg (by decide), if_neg (by decide), if_neg (by decide)]
  · rfl

/-- Packets that carry no parameter set leave the format as it is. -/
theorem foldl_updateTrackParametersFromRTPPacket_of_nothing {pkts : List Packet}
    (nothing : ∀ pkt ∈ pkts, rtpH265ExtractVPSSPSPPS pkt = (none, none, none))
    (format : H265.Format) :
    pkts.foldl updateTrackParametersFromRTPPacket format = format := by
  induction pkts with
  | nil => rfl
  | cons pkt pkts ih =>
      rw [List.foldl_cons, updateTrackParametersFromRTPPacket_of_nothing (nothing pkt (.head _))]
      exact ih fun pkt mem => nothing pkt (.tail _ mem)

/-- Over the packets of an access unit whose parameter sets travel alone, the stored VPS, SPS and
PPS become the access unit's last ones, or stay the stored ones when it has none. -/
theorem foldl_updateTrackParametersFromRTPPacket {au : List (List UInt8)} {pkts : List Packet}
    (carries : H265.Carries au pkts) (format : H265.Format) :
    pkts.foldl updateTrackParametersFromRTPPacket format =
      format.safeSetParams ((kinds.lastOfType NALUType_VPS_NUT au).or format.vps)
        ((kinds.lastOfType NALUType_SPS_NUT au).or format.sps)
        ((kinds.lastOfType NALUType_PPS_NUT au).or format.pps) := by
  induction carries generalizing format with
  | nil => rfl
  | single long _ _ ih =>
      rw [List.foldl_cons, ih, updateTrackParametersFromRTPPacket_eq, rtpH265ExtractVPSSPSPPS_eq,
        if_pos long]
      simp only [NALUKinds.lastOfType_cons, NALUKinds.lastOfType_nil, Option.none_or,
        Format.safeSetParams_vps, Format.safeSetParams_sps, Format.safeSetParams_pps,
        Format.safeSetParams_safeSetParams, Option.or_assoc]
  | aggregate aggregation sized payload _ ih =>
      have nothing := rtpH265ExtractVPSSPSPPS_aggregationUnit
        (show _ = _ :: _ :: aggregatePayload [] _ from payload) aggregation
      have noParam : ∀ typ ∈ kinds.paramTypes, kinds.lastOfType typ _ = none := fun typ param =>
        NALUKinds.lastOfType_eq_none _ fun nalu mem typed =>
          (sized nalu mem).2.2 (by rw [← kinds_naluType, typed]; exact param)
      rw [List.foldl_cons, updateTrackParametersFromRTPPacket_of_nothing nothing, ih,
        NALUKinds.lastOfType_append, NALUKinds.lastOfType_append, NALUKinds.lastOfType_append,
        noParam NALUType_VPS_NUT (by decide), noParam NALUType_SPS_NUT (by decide),
        noParam NALUType_PPS_NUT (by decide)]
      simp only [Option.or_none]
  | fragments notParam fragments _ ih =>
      have notTyped : ∀ typ ∈ kinds.paramTypes, kinds.naluType _ ≠ typ :=
        fun typ param typed => notParam (by rw [← kinds_naluType, typed]; exact param)
      rw [List.foldl_append, foldl_updateTrackParametersFromRTPPacket_of_nothing
          fun frag mem => rtpH265ExtractVPSSPSPPS_fragment (fragments frag mem), ih]
      simp only [NALUKinds.lastOfType_cons, if_neg (notTyped NALUType_VPS_NUT (by decide)),
        if_neg (notTyped NALUType_SPS_NUT (by decide)),
        if_neg (notTyped NALUType_PPS_NUT (by decide)), Option.or_none]

variable {Dec Enc : Type} (lib : Codec (List (List UInt8)) Dec Enc)

/-- The RTP packets of an H.265 access unit whose parameter sets travel alone, at most one of each
type, through a processor without encoder whose decoder returns the access unit at the last
packet: the processor ends with the format the access-unit path gives it, returns no error, and
leaves in the last unit the access unit the access-unit path leaves in its unit. -/
theorem processAll_stores_accessUnit_params (t : Processor H265.Format Dec Enc) {pkts : List Packet}
    {au : List (List UInt8)} (carries : H265.Carries au pkts)
    (single : ∀ typ ∈ kinds.paramTypes,
      (au.filter fun nalu => naluType nalu = typ).length ≤ 1)
    (decodes : lib.Decodes t.decoder pkts au) (noEncoder : t.encoder = none)
    (fits : ∀ pkt ∈ pkts, (pkt.removePadding.marshalSize : Int) ≤ t.udpMaxPayloadSize)
    (pts : Int) :
    let rtp := H26x.processAll methods lib t
      (pkts.map fun pkt => (H26x.unitForRTPPacket pkt pts, true))
    let decoded := process lib t ⟨[], pts, au⟩ true
    rtp.1.format = decoded.1.format ∧ (rtp.2.map (·.1.au)).getLast? = some decoded.2.1.au ∧
      ∀ e ∈ rtp.2, e.2 = none := by
  obtain ⟨format, last, errors⟩ :=
    H26x.processAll_of_decodes (h := methods) lib decodes noEncoder fits pts
  obtain ⟨decodedFormat, decodedAU, -⟩ :=
    H26x.process_accessUnit (h := methods) lib t (u := ⟨[], pts, au⟩) rfl true
  have params : pkts.foldl updateTrackParametersFromRTPPacket t.format =
      updateTrackParametersFromAU t.format au := by
    rw [updateTrackParametersFromAU_eq, foldl_updateTrackParametersFromRTPPacket carries,
      lastChanged_or_eq (by decide) _ (single _ (by decide)),
      lastChanged_or_eq (by decide) _ (single _ (by decide)),
      lastChanged_or_eq (by decide) _ (single _ (by decide))]
  have same := format.trans (params.trans decodedFormat.symm)
  refine ⟨same, ?_, errors⟩
  rw [last, same]
  exact congrArg some decodedAU.symm

end FormatProcessorH265

/-! ### An H.265 access unit whose parameter sets travel alone -/

namespace H265SingleNALUs

/-- A packet that carries one NAL unit. -/
def singlePacket (sequenceNumber : UInt16) (marker : Bool) (nalu : List UInt8) : Packet :=
  { padding := false, marker, payloadType := 96, sequenceNumber, timestamp := 0, ssrc := 0,
    csrc := [], extensionSize := 0, payload := nalu, paddingSize := 0 }

/-- The access unit of `H265Aggregation`, one NAL unit a packet, the marker on the last. -/
def packets : List Packet :=
  [singlePacket 1 false H265Aggregation.vps, singlePacket 2 false H265Aggregation.sps,
    singlePacket 3 false H265Aggregation.pps, singlePacket 4 true H265Aggregation.idr]

end H265SingleNALUs

namespace FormatProcessorH265

theorem processAll_stores_accessUnit_params_singles :
    H265.Carries H265Aggregation.accessUnit H265SingleNALUs.packets ∧
      (∀ typ ∈ kinds.paramTypes,
        (H265Aggregation.accessUnit.filter fun nalu => naluType nalu = typ).length ≤ 1) ∧
      H265Aggregation.markerDecoder.Decodes (some 0) H265SingleNALUs.packets
        H265Aggregation.accessUnit ∧
      (∀ pkt ∈ H265SingleNALUs.packets, (pkt.removePadding.marshalSize : Int) ≤ 1472) ∧
      let rtp := H26x.processAll methods H265Aggregation.markerDecoder (H265Aggregation.processor 0)
        (H265SingleNALUs.packets.map fun pkt => (H26x.unitForRTPPacket pkt 0, true))
      let decoded := process H265Aggregation.markerDecoder (H265Aggregation.processor 0)
        ⟨[], 0, H265Aggregation.accessUnit⟩ true
      rtp.1.format = decoded.1.format ∧ (rtp.2.map (·.1.au)).getLast? = some decoded.2.1.au ∧
        ∀ e ∈ rtp.2, e.2 = none :=
  have carries : H265.Carries (H265SingleNALUs.packets.map Packet.payload)
      H265SingleNALUs.packets := H265.Carries.singles (by decide)
  have single : ∀ typ ∈ kinds.paramTypes,
      (H265Aggregation.accessUnit.filter fun nalu => naluType nalu = typ).length ≤ 1 := by decide
  have decodes : H265Aggregation.markerDecoder.Decodes (some 0) H265SingleNALUs.packets
      H265Aggregation.accessUnit :=
    .more rfl rfl (.inr rfl) (.more rfl rfl (.inr rfl) (.more rfl rfl (.inr rfl) (.last rfl rfl)))
  have fits : ∀ pkt ∈ H265SingleNALUs.packets,
      (pkt.removePadding.marshalSize : Int) ≤ 1472 := by decide
  ⟨carries, single, decodes, fits,
    processAll_stores_accessUnit_params H265Aggregation.markerDecoder (H265Aggregation.processor 0)
      carries single decodes rfl fits 0⟩
end FormatProcessorH265

end

/-! ### What the two extractions return -/

theorem NALUKinds.mem_of_lastOfType_eq_some {kinds : NALUKinds} {typ : UInt8}
    {nalus : List (List UInt8)} {nalu : List UInt8} (last : kinds.lastOfType typ nalus = some nalu) :
    nalu ∈ nalus :=
  (List.mem_filter.mp (List.mem_of_getLast?_eq_some last)).1

/-- The aggregate loops cut non-empty slices of the payload. -/
theorem splitAggregate_slices {payload : List UInt8} {nalus : List (List UInt8)}
    (split : splitAggregate payload = some nalus) : ∀ nalu ∈ nalus, nalu ≠ [] ∧ nalu <:+: payload := by
  induction payload using splitAggregate.induct generalizing nalus with
  | case1 hi lo rest size =>
      rename_i zero
      simp only [size] at zero
      rw [splitAggregate, if_pos zero] at split
      cases split
      simp
  | case2 hi lo rest size nonzero =>
      rename_i long
      simp only [size] at nonzero long
      rw [splitAggregate, if_neg nonzero, if_pos long] at split
      cases split
  | case3 hi lo rest size nonzero fits =>
      rename_i ih
      simp only [size] at nonzero fits ih
      rw [splitAggregate, if_neg nonzero, if_neg fits] at split
      obtain ⟨cut, found, rfl⟩ := Option.map_eq_some'.mp split
      have inRest : rest <:+: hi :: lo :: rest := (List.suffix_cons _ _).trans (List.suffix_cons _ _) |>.isInfix
      rintro nalu (_ | ⟨_, mem⟩)
      · exact ⟨List.ne_nil_of_length_pos (by simp only [List.length_take]; omega),
          (List.take_prefix _ rest).isInfix.trans inRest⟩
      · obtain ⟨nonEmpty, slice⟩ := ih found nalu mem
        exact ⟨nonEmpty, slice.trans ((List.drop_suffix _ rest).isInfix.trans inRest)⟩
  | case4 payload notPair =>
      rw [splitAggregate.eq_2 _ notPair] at split
      cases split
      simp

/-- What `rtpH264ExtractSPSPPS` returns is a non-empty slice of the payload. -/
theorem rtpH264ExtractSPSPPS_slices (pkt : Packet) {nalu : List UInt8}
    (found : (rtpH264ExtractSPSPPS pkt).1 = some nalu ∨ (rtpH264ExtractSPSPPS pkt).2 = some nalu) :
    nalu ≠ [] ∧ nalu <:+: pkt.payload := by
  unfold rtpH264ExtractSPSPPS at found
  split at found
  · simp at found
  · rename_i first rest payload
    have whole : nalu = pkt.payload → nalu ≠ [] ∧ nalu <:+: pkt.payload := by
      rintro rfl
      exact ⟨by simp [payload], List.infix_refl _⟩
    dsimp only at found
    split_ifs at found
    · exact whole (by simpa [eq_comm] using found)
    · exact whole (by simpa [eq_comm] using found)
    · split at found
      · simp at found
      · rename_i nalus split
        rw [foldl_extractSPSPPSStep, Option.or_none, Option.or_none] at found
        have mem : nalu ∈ nalus := by
          rcases found with last | last <;> exact NALUKinds.mem_of_lastOfType_eq_some last
        obtain ⟨nonEmpty, slice⟩ := splitAggregate_slices split nalu mem
        exact ⟨nonEmpty, payload ▸ List.infix_cons slice⟩
    · simp at found

/-- What `rtpH265ExtractVPSSPSPPS` returns is the payload itself, never empty. -/
theorem rtpH265ExtractVPSSPSPPS_payload (pkt : Packet) {nalu : List UInt8}
    (found : (rtpH265ExtractVPSSPSPPS pkt).1 = some nalu ∨
      (rtpH265ExtractVPSSPSPPS pkt).2.1 = some nalu ∨ (rtpH265ExtractVPSSPSPPS pkt).2.2 = some nalu) :
    nalu = pkt.payload ∧ nalu ≠ [] := by
  refine ⟨?_, rtpH265ExtractVPSSPSPPS_ne_nil pkt found⟩
  rw [rtpH265ExtractVPSSPSPPS_eq] at found
  split_ifs at found
  · rcases found with last | last | last <;>
      simpa using NALUKinds.mem_of_lastOfType_eq_some last
  · simp at found

/-- On every payload the two extractions return only non-empty slices of it.  On an aggregation
payload of non-empty NAL units shorter than 65536 bytes, the STAP-A loop returns the last SPS and
the last PPS among them, but the aggregation-unit loop returns no parameter set, whatever they
are. -/
theorem aggregate_parameter_sets_extracted :
    (∀ (pkt : Packet) nalu,
      ((rtpH264ExtractSPSPPS pkt).1 = some nalu ∨ (rtpH264ExtractSPSPPS pkt).2 = some nalu ∨
        (rtpH265ExtractVPSSPSPPS pkt).1 = some nalu ∨ (rtpH265ExtractVPSSPSPPS pkt).2.1 = some nalu ∨
        (rtpH265ExtractVPSSPSPPS pkt).2.2 = some nalu) →
      nalu ≠ [] ∧ nalu <:+: pkt.payload) ∧
    ∀ nalus : List (List UInt8), (∀ nalu ∈ nalus, nalu ≠ [] ∧ nalu.length < 65536) →
      (∀ (header : UInt8) (pkt : Packet), header &&& 0x1F = H264.NALUTypeSTAPA →
        pkt.payload = aggregatePayload [header] nalus →
        rtpH264ExtractSPSPPS pkt = (H264.kinds.lastOfType H264.NALUTypeSPS nalus,
          H264.kinds.lastOfType H264.NALUTypePPS nalus)) ∧
      ∀ (first second : UInt8) (pkt : Packet), (first >>> 1) &&& 0x3F = H265.NALUType_AggregationUnit →
        pkt.payload = aggregatePayload [first, second] nalus →
        rtpH265ExtractVPSSPSPPS pkt = (none, none, none) := by
  refine ⟨fun pkt nalu found => ?_, fun nalus sized => ⟨fun header pkt stapA payload =>
    rtpH264ExtractSPSPPS_aggregate stapA sized payload, fun first second pkt aggregation payload =>
    rtpH265ExtractVPSSPSPPS_aggregationUnit payload aggregation⟩⟩
  rcases found with found | found | found
  · exact rtpH264ExtractSPSPPS_slices pkt (.inl found)
  · exact rtpH264ExtractSPSPPS_slices pkt (.inr found)
  · obtain ⟨rfl, nonEmpty⟩ := rtpH265ExtractVPSSPSPPS_payload pkt found
    exact ⟨nonEmpty, List.infix_refl _⟩

/-- The aggregation unit of `H265Aggregation` holds a VPS, which the aggregation-unit loop does not
return. -/
theorem aggregate_parameter_sets_extracted_vps :
    H265.kinds.lastOfType H265.NALUType_VPS_NUT [H265Aggregation.vps, H265Aggregation.sps,
        H265Aggregation.pps] = some H265Aggregation.vps ∧
      rtpH265ExtractVPSSPSPPS H265Aggregation.aggregationPacket = (none, none, none) :=
  ⟨by decide, (aggregate_parameter_sets_extracted.2 _ (by decide)).2 0x60 0x01 _ (by decide) rfl⟩

end FormatProcessor
end RtspSimpleServer
