import RtspSimpleServer.Rtmp.Reader
import RtspSimpleServer.FormatProcessor.Params

/-!
# An RTMP reader joining an H.264 stream

A reader receives the units the stream's format processor emits from the moment it subscribes,
less those the stream drops.  From decoded access units the H.264 processor emits each key frame
behind the stored SPS and PPS, and an RTMP reader starts with the first access unit that has an
IDR; so a reader that joins at any point starts with a key frame it can decode on its own.
-/

namespace RtspSimpleServer
namespace RtmpConn

open FormatProcessor H264

/-- An access unit that begins with an SPS and a PPS. -/
def StartsWithParams (au : List (List UInt8)) : Prop :=
  ∃ sps pps rest,
    au = sps :: pps :: rest ∧ naluType sps = NALUTypeSPS ∧ naluType pps = NALUTypePPS

/-- The stored SPS and PPS are both set, each of its own type. -/
structure ParamsSet (format : H264.Format) : Prop where
  sps : ∃ sps, format.sps = some sps ∧ naluType sps = NALUTypeSPS
  pps : ∃ pps, format.pps = some pps ∧ naluType pps = NALUTypePPS

/-- An access unit whose kept NAL units have an IDR has a key frame. -/
theorem hasKeyFrame_of_idrPresent_filter {au : List (List UInt8)}
    (idr : idrPresent (au.filter kinds.kept)) : kinds.hasKeyFrame au := by
  obtain ⟨nalu, mem, typed⟩ := List.any_eq_true.mp idr
  obtain ⟨mem, kept⟩ := List.mem_filter.mp mem
  refine List.any_eq_true.mpr ⟨nalu, mem, ?_⟩
  rw [kept, Bool.true_and]
  simpa [NALUKinds.isKey, kinds] using of_decide_eq_true typed

/-- The last NAL unit of a type, or else a stored one of that type, is one of that type. -/
theorem typed_lastOfType_or {typ : UInt8} (au : List (List UInt8)) {old : Option (List UInt8)}
    (typed : ∃ nalu, old = some nalu ∧ naluType nalu = typ) :
    ∃ nalu, (kinds.lastOfType typ au).or old = some nalu ∧ naluType nalu = typ := by
  cases last : kinds.lastOfType typ au with
  | none => simpa using typed
  | some nalu => exact ⟨nalu, rfl, naluType_of_lastOfType_eq_some last⟩

variable {Dec Enc : Type} (lib : Codec (List (List UInt8)) Dec Enc)

/-- With both parameter sets stored, the processor keeps both stored, and a decoded access unit
that leaves it with an IDR begins with them. -/
theorem process_startsWithParams (t : Processor H264.Format Dec Enc) {u : H26xUnit}
    (noPackets : u.rtpPackets = []) (set : ParamsSet t.format) (hasNonRTSPReaders : Bool) :
    let r := FormatProcessorH264.process lib t u hasNonRTSPReaders
    ParamsSet r.1.format ∧ (idrPresent r.2.1.au → StartsWithParams r.2.1.au) := by
  obtain ⟨spsEq, ppsEq, remuxed, -⟩ :=
    FormatProcessorH264.process_accessUnit lib t noPackets hasNonRTSPReaders
  obtain ⟨sps, storedSps, spsType⟩ := spsEq ▸ typed_lastOfType_or u.au set.sps
  obtain ⟨pps, storedPps, ppsType⟩ := ppsEq ▸ typed_lastOfType_or u.au set.pps
  refine ⟨⟨⟨sps, storedSps, spsType⟩, ⟨pps, storedPps, ppsType⟩⟩, fun idr => ?_⟩
  have key : kinds.hasKeyFrame u.au := by
    by_contra noKey
    rw [remuxed, if_neg noKey, List.nil_append] at idr
    exact noKey (hasKeyFrame_of_idrPresent_filter idr)
  rw [remuxed, if_pos key]
  simp only [H264.Format.params, storedSps, storedPps, Option.getD_some]
  exact ⟨sps, pps, _, rfl, spsType, ppsType⟩

/-- Over any sequence of decoded access units, with both parameter sets stored at the start, every
unit that leaves the processor with an IDR begins with an SPS and a PPS. -/
theorem processAll_startsWithParams (t : Processor H264.Format Dec Enc)
    (units : List (H26xUnit × Bool)) (noPackets : ∀ unit ∈ units, unit.1.rtpPackets = [])
    (set : ParamsSet t.format) :
    ∀ out ∈ (H26x.processAll FormatProcessorH264.methods lib t units).2,
      idrPresent out.1.au → StartsWithParams out.1.au := by
  induction units generalizing t with
  | nil => simp [H26x.processAll]
  | cons unit units ih =>
      obtain ⟨u, hasNonRTSPReaders⟩ := unit
      obtain ⟨set', starts⟩ := process_startsWithParams lib t (noPackets _ (.head _)) set
        hasNonRTSPReaders
      intro out mem
      rcases List.mem_cons.mp mem with rfl | mem
      · exact starts
      · exact ih _ (fun unit mem => noPackets unit (.tail _ mem)) set' out mem

/-- An RTMP reader that receives any part of what an H.264 processor emits from decoded access
units, joining late or missing units, gets as its first frame an access unit that begins with an
SPS and a PPS, when both were stored from the start. -/
theorem first_frame_starts_with_params {Ext : Type} (extractor : DTSExtractorLib Ext)
    (send : WriteH264 → Option String) (t : Processor H264.Format Dec Enc)
    (units : List (H26xUnit × Bool)) (noPackets : ∀ unit ∈ units, unit.1.rtpPackets = [])
    (set : ParamsSet t.format) {received : List H26xUnit}
    (sub : received.Sublist
      ((H26x.processAll FormatProcessorH264.methods lib t units).2.map (·.1))) :
    ∀ w ∈ (drain extractor send none received).1.head?, StartsWithParams w.au := by
  intro w first
  obtain ⟨u, mem, shape, -⟩ :=
    drain_writes extractor send none received w (List.mem_of_mem_head? first)
  have idr : idrPresent u.au := (congrArg WriteH264.idrPresent shape).symm.trans
    (drain_first_idr extractor send received w first)
  obtain ⟨out, outMem, rfl⟩ := List.mem_map.mp (sub.subset mem)
  exact (congrArg WriteH264.au shape) ▸
    processAll_startsWithParams lib t units noPackets set out outMem idr

/-- A processor that stores an SPS and a PPS. -/
def joinProcessor : Processor H264.Format Unit Unit :=
  ⟨1472, ⟨96, some [0x67, 0x42], some [0x68, 0xCE], 1⟩, none, none⟩

/-- A non-IDR access unit, then a key frame with no parameter sets of its own. -/
def joinUnits : List (H26xUnit × Bool) :=
  [(⟨[], 0, [[0x41, 0x9A]]⟩, true), (⟨[], 1, [[0x65, 0x88]]⟩, true)]

theorem first_frame_starts_with_params_joinUnits :
    (∀ unit ∈ joinUnits, unit.1.rtpPackets = []) ∧ ParamsSet joinProcessor.format ∧
      ∀ w ∈ (drain ptsExtractor (fun _ => none) none
        ((H26x.processAll FormatProcessorH264.methods silentCodec joinProcessor joinUnits).2.map
          (·.1))).1.head?, StartsWithParams w.au :=
  have noPackets : ∀ unit ∈ joinUnits, unit.1.rtpPackets = [] := by decide
  have set : ParamsSet joinProcessor.format :=
    ⟨⟨_, rfl, by decide⟩, ⟨_, rfl, by decide⟩⟩
  ⟨noPackets, set, first_frame_starts_with_params silentCodec ptsExtractor (fun _ => none)
    joinProcessor joinUnits noPackets set (List.Sublist.refl _)⟩

example : ((drain ptsExtractor (fun _ => none) none
    ((H26x.processAll FormatProcessorH264.methods silentCodec joinProcessor joinUnits).2.map
      (·.1))).1.map (·.au)) = [[[0x67, 0x42], [0x68, 0xCE], [0x65, 0x88]]] := by
  decide

end RtmpConn
end RtspSimpleServer
