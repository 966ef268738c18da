import RtspSimpleServer.FormatProcessor.Basic

/-!
# The H.264 and H.265 processors

The two processors run the same `Process` around four methods of their own, which `H26x` collects.
A unit carries one RTP packet, which is checked against the size limit, or a decoded access unit,
which is remuxed and encoded; each stage has its own lemmas here.
-/

namespace RtspSimpleServer
namespace FormatProcessor

open Packet

/-! ### NAL units -/

/-- `bytes.Equal` on byte slices that may be nil: nil and empty are equal. -/
def bytesEqual (a b : Option (List UInt8)) : Bool :=
  decide (a.getD [] = b.getD [])

/-- A non-empty NAL unit is byte for byte equal to a stored slice exactly when it is stored. -/
theorem bytesEqual_some_iff {nalu : List UInt8} (nonEmpty : nalu ≠ []) (stored : Option (List UInt8)) :
    bytesEqual (some nalu) stored = true ↔ stored = some nalu := by
  cases stored with
  | none => simpa [bytesEqual] using nonEmpty.symm
  | some stored => simp [bytesEqual, eq_comm]

/-- `p != nil && !bytes.Equal(p, stored)`: a parameter set a packet carries differs from the stored
one. -/
def paramChanged (extracted stored : Option (List UInt8)) : Bool :=
  extracted.isSome && !bytesEqual extracted stored

/-- An unchanged parameter set, once put in place of a missing one, is the stored one. -/
theorem or_eq_of_paramChanged_eq_false {extracted stored : Option (List UInt8)}
    (nonEmpty : ∀ nalu, extracted = some nalu → nalu ≠ []) (same : paramChanged extracted stored = false) :
    extracted.or stored = stored := by
  cases extracted with
  | none => rfl
  | some nalu =>
      simp only [paramChanged, Option.isSome_some, Bool.true_and, Bool.not_eq_false'] at same
      simp [(bytesEqual_some_iff (nonEmpty nalu rfl) stored).mp same]

/-- The NAL units of an aggregation payload, each behind its 16-bit big-endian size, as the loops
of `rtpH264ExtractSPSPPS` and `rtpH265ExtractVPSSPSPPS` cut them: fewer than two bytes left or a
zero size end the list, a size beyond the bytes left makes the packet invalid. -/
def splitAggregate (payload : List UInt8) : Option (List (List UInt8)) :=
  match payload with
  | hi :: lo :: rest =>
      let size := hi.toNat * 256 + lo.toNat
      if size = 0 then some []
      else if size > rest.length then none
      else (splitAggregate (rest.drop size)).map (rest.take size :: ·)
  | _ => some []
termination_by payload.length
decreasing_by simp_wf; omega

/-- How a codec sorts NAL units for `remuxAccessUnit`: the type of a NAL unit, read from its first
byte, the parameter-set types, the access unit delimiter type and the key-frame types. -/
structure NALUKinds where
  naluType : List UInt8 → UInt8
  paramTypes : List UInt8
  audType : UInt8
  keyTypes : List UInt8

namespace NALUKinds

/-- `remuxAccessUnit` keeps a NAL unit that is neither a parameter set nor a delimiter. -/
def kept (kinds : NALUKinds) (nalu : List UInt8) : Bool :=
  decide (kinds.naluType nalu ∉ kinds.paramTypes ∧ kinds.naluType nalu ≠ kinds.audType)

/-- A key frame NAL unit. -/
def isKey (kinds : NALUKinds) (nalu : List UInt8) : Bool :=
  decide (kinds.naluType nalu ∈ kinds.keyTypes)

/-- The last NAL unit of a type in a sequence. -/
def lastOfType (kinds : NALUKinds) (typ : UInt8) (nalus : List (List UInt8)) :
    Option (List UInt8) :=
  (nalus.filter fun nalu => kinds.naluType nalu = typ).getLast?

@[simp] theorem lastOfType_nil (kinds : NALUKinds) (typ : UInt8) : kinds.lastOfType typ [] = none :=
  rfl

theorem lastOfType_append (kinds : NALUKinds) (typ : UInt8) (first second : List (List UInt8)) :
    kinds.lastOfType typ (first ++ second) =
      (kinds.lastOfType typ second).or (kinds.lastOfType typ first) := by
  simp only [lastOfType, List.filter_append, List.getLast?_append]

theorem lastOfType_cons (kinds : NALUKinds) (typ : UInt8) (nalu : List UInt8)
    (nalus : List (List UInt8)) :
    kinds.lastOfType typ (nalu :: nalus) =
      (kinds.lastOfType typ nalus).or (if kinds.naluType nalu = typ then some nalu else none) := by
  rw [← List.singleton_append, lastOfType_append]
  split_ifs with typed <;> simp [lastOfType, typed]

theorem lastOfType_eq_none (kinds : NALUKinds) {typ : UInt8} {nalus : List (List UInt8)}
    (none_ : ∀ nalu ∈ nalus, kinds.naluType nalu ≠ typ) : kinds.lastOfType typ nalus = none := by
  rw [lastOfType, List.getLast?_eq_none_iff, List.filter_eq_nil_iff]
  exact fun nalu mem => by simpa using none_ nalu mem

theorem lastOfType_singleton (kinds : NALUKinds) (typ : UInt8) (nalu : List UInt8) :
    kinds.lastOfType typ [nalu] = if kinds.naluType nalu = typ then some nalu else none := by
  rw [lastOfType_cons, lastOfType_nil, Option.none_or]

/-- One step of the first loop of `remuxAccessUnit`: parameter sets and delimiters are skipped, the
first key frame counts the stored parameter sets in front of it, and every kept NAL unit counts
one. -/
def remuxCountStep (kinds : NALUKinds) (params : Option (List (List UInt8))) :
    Bool × Nat → List UInt8 → Bool × Nat
  | (isKeyFrame, n), nalu =>
      if !kinds.kept nalu then (isKeyFrame, n)
      else if kinds.isKey nalu && !isKeyFrame then (true, n + (params.map List.length).getD 0 + 1)
      else (isKeyFrame, n + 1)

/-- `remuxAccessUnit` of the H.264 and H.265 processors, given the stored parameter sets when all
of them are set: an array of `n` NAL units, nil when `n` is zero, filled with the parameter sets
when the access unit has a key frame and then with the NAL units that are kept. -/
def remux (kinds : NALUKinds) (params : Option (List (List UInt8))) (au : List (List UInt8)) :
    List (List UInt8) :=
  let (isKeyFrame, n) := au.foldl (kinds.remuxCountStep params) (false, 0)
  if n = 0 then []
  else ((if isKeyFrame then params.getD [] else []) ++ au.filter kinds.kept ++ List.replicate n []).take n

/-- Whether an access unit has a key frame that `remuxAccessUnit` keeps. -/
def hasKeyFrame (kinds : NALUKinds) (au : List (List UInt8)) : Bool :=
  au.any fun nalu => kinds.kept nalu && kinds.isKey nalu

/-- The count loop finds the key frame and counts the parameter sets once and every kept NAL unit. -/
theorem foldl_remuxCountStep (kinds : NALUKinds) (params : Option (List (List UInt8)))
    (au : List (List UInt8)) (isKeyFrame : Bool) (n : Nat) :
    au.foldl (kinds.remuxCountStep params) (isKeyFrame, n) =
      (isKeyFrame || kinds.hasKeyFrame au,
        n + (if !isKeyFrame && kinds.hasKeyFrame au then (params.map List.length).getD 0 else 0) +
          (au.filter kinds.kept).length) := by
  induction au generalizing isKeyFrame n with
  | nil => simp [hasKeyFrame]
  | cons nalu au ih =>
      simp only [List.foldl_cons, hasKeyFrame, List.any_cons, List.filter_cons] at ih ⊢
      rcases Bool.eq_false_or_eq_true (kinds.kept nalu) with keep | keep <;>
      rcases Bool.eq_false_or_eq_true (kinds.isKey nalu) with key | key <;>
      cases isKeyFrame <;> simp only [remuxCountStep, keep, key, ih] <;> simp <;> omega

/-- `remuxAccessUnit` is the stored parameter sets, when there is a key frame, followed by the NAL
units that are neither parameter sets nor delimiters. -/
theorem remux_eq (kinds : NALUKinds) (params : Option (List (List UInt8)))
    (au : List (List UInt8)) :
    kinds.remux params au =
      (if kinds.hasKeyFrame au then params.getD [] else []) ++ au.filter kinds.kept := by
  have length : ((if kinds.hasKeyFrame au then params.getD [] else []) ++ au.filter kinds.kept).length =
      (if kinds.hasKeyFrame au then (params.map List.length).getD 0 else 0) + (au.filter kinds.kept).length := by
    cases params <;> split_ifs <;> simp
  simp only [remux, foldl_remuxCountStep, Bool.false_or, Bool.not_false, Bool.true_and,
    Nat.zero_add]
  rw [← length]
  by_cases empty : ((if kinds.hasKeyFrame au then params.getD [] else []) ++ au.filter kinds.kept).length = 0
  · rw [if_pos empty, List.length_eq_zero.mp empty]
  · rw [if_neg empty, List.take_left]

end NALUKinds

/-! ### `Process` -/

/-- The methods `Process` of `formatProcessorH264` and `formatProcessorH265` calls: the two
`Process` are the same code around these.  `encoderConf` is the encoder `createEncoder` fills in
from the payload size limit, the format, an SSRC and an initial sequence number; it keeps the
limit, the SSRC and the sequence number it is given. -/
structure H26x (Format : Type) where
  updateTrackParametersFromRTPPacket : Format → Packet → Format
  updateTrackParametersFromAU : Format → List (List UInt8) → Format
  remuxAccessUnit : Format → List (List UInt8) → List (List UInt8)
  encoderConf : Int → Format → Option UInt32 → Option UInt16 → EncoderConf
  clockRate : Format → Nat
  encoderConf_seeded : ∀ payloadMaxSize format ssrc initialSequenceNumber,
    (encoderConf payloadMaxSize format ssrc initialSequenceNumber).payloadMaxSize = payloadMaxSize ∧
      (encoderConf payloadMaxSize format ssrc initialSequenceNumber).ssrc = ssrc ∧
      (encoderConf payloadMaxSize format ssrc initialSequenceNumber).initialSequenceNumber =
        initialSequenceNumber

namespace H26x

variable {Format Dec Enc : Type} (h : H26x Format) (lib : Codec (List (List UInt8)) Dec Enc)

/-- `createEncoder`: an encoder whose payloads leave room for the 12-byte RTP header, kept by the
processor even when its initialisation fails. -/
def createEncoder (t : Processor Format Dec Enc) (ssrc : Option UInt32)
    (initialSequenceNumber : Option UInt16) : Processor Format Dec Enc × Option ProcessError :=
  let conf := h.encoderConf (t.udpMaxPayloadSize - 12) t.format ssrc initialSequenceNumber
  ({ t with encoder := some (conf, (lib.init conf).1) }, (lib.init conf).2.map .codec)

/-- `newH264` / `newH265`: a processor that generates RTP packets starts with an unseeded
encoder. -/
def newH26x (udpMaxPayloadSize : Int) (format : Format) (generateRTPPackets : Bool) :
    Except ProcessError (Processor Format Dec Enc) :=
  let t : Processor Format Dec Enc := { udpMaxPayloadSize, format, encoder := none, decoder := none }
  if generateRTPPackets then
    match createEncoder h lib t none none with
    | (t, none) => .ok t
    | (_, some err) => .error err
  else .ok t

/-- The end of `Process`: a non-empty access unit is encoded into the unit's packets, an empty
one leaves the unit with none. -/
def encodeAccessUnit (t : Processor Format Dec Enc) (u : H26xUnit) :
    Processor Format Dec Enc × H26xUnit × Option ProcessError :=
  if u.au.length ≠ 0 then
    match t.encoder with
    | none => (t, u, some .nilEncoder)
    | some (conf, enc) =>
        match lib.encode conf enc u.au with
        | (enc, .error err) => ({ t with encoder := some (conf, enc) }, u, some (.codec err))
        | (enc, .ok pkts) =>
            ({ t with encoder := some (conf, enc) },
              { u with rtpPackets := setTimestamp pkts (h.clockRate t.format) u.pts }, none)
  else (t, { u with rtpPackets := [] }, none)

/-- The `t.encoder == nil` block of `Process`: with no encoder the packet loses its padding, and
if it is still larger than the limit the processor creates an encoder seeded with the packet's
SSRC and sequence number. -/
def limitPacketSize (t : Processor Format Dec Enc) (pkt : Packet) :
    Processor Format Dec Enc × Packet × Option ProcessError :=
  match t.encoder with
  | some _ => (t, pkt, none)
  | none =>
      if (pkt.removePadding.marshalSize : Int) > t.udpMaxPayloadSize then
        ((createEncoder h lib t (some pkt.ssrc) (some pkt.sequenceNumber)).1, pkt.removePadding,
          (createEncoder h lib t (some pkt.ssrc) (some pkt.sequenceNumber)).2)
      else (t, pkt.removePadding, none)

/-- The decoding block of `Process` and what follows it: the packet is decoded, the decoder being
created on first use; a packet that does not complete an access unit ends the call, dropping the
unit's packets when re-encoding; a complete access unit is remuxed into the unit, which is then
routed as is with no encoder and re-encoded otherwise. -/
def decodeRTPPacket (t : Processor Format Dec Enc) (u : H26xUnit) (pkt : Packet) :
    Processor Format Dec Enc × H26xUnit × Option ProcessError :=
  match lib.decoderOf t.decoder with
  | .error err => (t, u, some (.codec err))
  | .ok dec =>
      match lib.decode dec pkt with
      | (dec, .error err) =>
          if err = .nonStartingPacketAndNoPrevious ∨ err = .morePacketsNeeded then
            ({ t with decoder := some dec },
              if t.encoder.isSome then { u with rtpPackets := [] } else u, none)
          else ({ t with decoder := some dec }, u, some (.decode err))
      | (dec, .ok au) =>
          if t.encoder.isNone then
            ({ t with decoder := some dec }, { u with au := h.remuxAccessUnit t.format au }, none)
          else
            encodeAccessUnit h lib { t with decoder := some dec }
              { u with au := h.remuxAccessUnit t.format au }

/-- The RTP path of `Process` once the packet passed the size check: decoded when a reader needs
the access unit or a decoder or encoder exists, routed as is otherwise. -/
def routeRTPPacket (t : Processor Format Dec Enc) (u : H26xUnit) (pkt : Packet)
    (hasNonRTSPReaders : Bool) : Processor Format Dec Enc × H26xUnit × Option ProcessError :=
  if hasNonRTSPReaders || t.decoder.isSome || t.encoder.isSome then decodeRTPPacket h lib t u pkt
  else (t, u, none)

/-- `Process` of `formatProcessorH264` and `formatProcessorH265`: the processor after the call,
the unit as the call leaves it, and the error it returns. -/
def process (t : Processor Format Dec Enc) (u : H26xUnit) (hasNonRTSPReaders : Bool) :
    Processor Format Dec Enc × H26xUnit × Option ProcessError :=
  match u.rtpPackets with
  | [] =>
      let t := { t with format := h.updateTrackParametersFromAU t.format u.au }
      encodeAccessUnit h lib t { u with au := h.remuxAccessUnit t.format u.au }
  | pkt :: others =>
      match limitPacketSize h lib
          { t with format := h.updateTrackParametersFromRTPPacket t.format pkt } pkt with
      | (t, pkt, some err) => (t, { u with rtpPackets := pkt :: others }, some err)
      | (t, pkt, none) =>
          routeRTPPacket h lib t { u with rtpPackets := pkt :: others } pkt hasNonRTSPReaders

/-- `UnitForRTPPacket`: a unit that carries one packet. -/
def unitForRTPPacket (pkt : Packet) (pts : Int) : H26xUnit :=
  { rtpPackets := [pkt], pts, au := [] }

/-- The processor fed units one after the other, each with whether non-RTSP readers are
attached: the processor at the end, and what each call left in its unit and returned. -/
def processAll (t : Processor Format Dec Enc) :
    List (H26xUnit × Bool) → Processor Format Dec Enc × List (H26xUnit × Option ProcessError)
  | [] => (t, [])
  | (u, hasNonRTSPReaders) :: units =>
      let r := process h lib t u hasNonRTSPReaders
      ((processAll r.1 units).1, (r.2.1, r.2.2) :: (processAll r.1 units).2)

/-- The configuration of a processor's encoder, if it has one. -/
def encoderConfOf (t : Processor Format Dec Enc) : Option EncoderConf :=
  t.encoder.map Prod.fst

/-- What one call of `Process` does to the encoder and to the unit's packets: it keeps the size
limit; it never drops or replaces an encoder, and creates one only on an oversize packet, seeded
with it; and when it returns no error the unit carries no packets, its own packet without padding
when that fits and there is no encoder, or packets of the encoder. -/
structure Step (t : Processor Format Dec Enc) (u : H26xUnit) (t' : Processor Format Dec Enc)
    (u' : H26xUnit) (err : Option ProcessError) : Prop where
  udpMaxPayloadSize : t'.udpMaxPayloadSize = t.udpMaxPayloadSize
  keeps : ∀ conf, encoderConfOf t = some conf → encoderConfOf t' = some conf
  creates : encoderConfOf t = none → ∀ conf, encoderConfOf t' = some conf →
    ∃ pkt others, u.rtpPackets = pkt :: others ∧
      t.udpMaxPayloadSize < pkt.removePadding.marshalSize ∧
      conf = h.encoderConf (t.udpMaxPayloadSize - 12)
        (h.updateTrackParametersFromRTPPacket t.format pkt) (some pkt.ssrc) (some pkt.sequenceNumber)
  emits : err = none → u'.rtpPackets = [] ∨
    (t'.encoder = none ∧ ∃ pkt others, u.rtpPackets = pkt :: others ∧
      u'.rtpPackets = pkt.removePadding :: others ∧
      (pkt.removePadding.marshalSize : Int) ≤ t.udpMaxPayloadSize) ∨
    ∃ conf enc, t'.encoder = some (conf, enc) ∧ lib.Encoded conf u'.rtpPackets

/-! ### Stages -/

section

variable {h}

theorem encoderConfOf_eq_none {t : Processor Format Dec Enc} :
    encoderConfOf t = none ↔ t.encoder = none := Option.map_eq_none'

@[simp] theorem encoderConfOf_createEncoder (t : Processor Format Dec Enc) ssrc seq :
    encoderConfOf (createEncoder h lib t ssrc seq).1 =
      some (h.encoderConf (t.udpMaxPayloadSize - 12) t.format ssrc seq) := rfl

/-- What encoding leaves: the same limit, format and decoder, the same encoder configuration, the
same access unit, and, on success, no packets or packets of the encoder. -/
theorem encodeAccessUnit_spec (t : Processor Format Dec Enc) (u : H26xUnit) :
    let r := encodeAccessUnit h lib t u
    r.1.udpMaxPayloadSize = t.udpMaxPayloadSize ∧ r.1.format = t.format ∧
      r.1.decoder = t.decoder ∧ encoderConfOf r.1 = encoderConfOf t ∧ r.2.1.au = u.au ∧
      (r.2.2 = none → r.2.1.rtpPackets = [] ∨
        ∃ conf enc, r.1.encoder = some (conf, enc) ∧ lib.Encoded conf r.2.1.rtpPackets) := by
  unfold encodeAccessUnit
  split_ifs
  · split
    · simp
    · rename_i conf enc encoder
      split
      · simp [encoderConfOf, encoder]
      · rename_i enc' pkts encode
        refine ⟨rfl, rfl, rfl, by simp [encoderConfOf, encoder], rfl, fun _ => .inr ?_⟩
        exact ⟨conf, enc', rfl, enc, u.au, enc', pkts, _, _, encode, rfl⟩
  · simp

/-- What the size check leaves: with an encoder, everything as it was; without, the packet
without padding, and either a packet that fits or the encoder seeded with it. -/
theorem limitPacketSize_cases (t : Processor Format Dec Enc) (pkt : Packet) :
    (t.encoder.isSome ∧ limitPacketSize h lib t pkt = (t, pkt, none)) ∨
      (t.encoder = none ∧ (pkt.removePadding.marshalSize : Int) ≤ t.udpMaxPayloadSize ∧
        limitPacketSize h lib t pkt = (t, pkt.removePadding, none)) ∨
      (t.encoder = none ∧ t.udpMaxPayloadSize < pkt.removePadding.marshalSize ∧
        limitPacketSize h lib t pkt =
          ((createEncoder h lib t (some pkt.ssrc) (some pkt.sequenceNumber)).1, pkt.removePadding,
            (createEncoder h lib t (some pkt.ssrc) (some pkt.sequenceNumber)).2)) := by
  unfold limitPacketSize
  split
  · rename_i encoder
    exact .inl ⟨by simp [encoder], rfl⟩
  · rename_i encoder
    split_ifs with large
    · exact .inr (.inr ⟨encoder, large, rfl⟩)
    · exact .inr (.inl ⟨encoder, by omega, rfl⟩)

/-- What decoding leaves: the same limit, format and encoder configuration, and, on success, the
unit's packets as they were when there is no encoder, no packets, or packets of the encoder. -/
theorem decodeRTPPacket_spec (t : Processor Format Dec Enc) (u : H26xUnit) (pkt : Packet) :
    let r := decodeRTPPacket h lib t u pkt
    r.1.udpMaxPayloadSize = t.udpMaxPayloadSize ∧ r.1.format = t.format ∧
      encoderConfOf r.1 = encoderConfOf t ∧
      (r.2.2 = none → (r.1.encoder = none ∧ r.2.1.rtpPackets = u.rtpPackets) ∨
        r.2.1.rtpPackets = [] ∨
        ∃ conf enc, r.1.encoder = some (conf, enc) ∧ lib.Encoded conf r.2.1.rtpPackets) := by
  unfold decodeRTPPacket
  split
  · simp
  · split
    · split_ifs with incomplete encoder
      · exact ⟨rfl, rfl, rfl, fun _ => .inr (.inl rfl)⟩
      · exact ⟨rfl, rfl, rfl, fun _ => .inl ⟨Option.not_isSome_iff_eq_none.mp encoder, rfl⟩⟩
      · exact ⟨rfl, rfl, rfl, by simp⟩
    · split_ifs with noEncoder
      · exact ⟨rfl, rfl, rfl, fun _ => .inl ⟨Option.isNone_iff_eq_none.mp noEncoder, rfl⟩⟩
      · obtain ⟨limit, format, -, encoder, -, packets⟩ := encodeAccessUnit_spec (h := h) lib
          { t with decoder := some _ } { u with au := h.remuxAccessUnit t.format _ }
        exact ⟨limit, format, encoder, fun ok => .inr (packets ok)⟩

/-- Routing leaves what decoding leaves. -/
theorem routeRTPPacket_spec (t : Processor Format Dec Enc) (u : H26xUnit) (pkt : Packet)
    (hasNonRTSPReaders : Bool) :
    let r := routeRTPPacket h lib t u pkt hasNonRTSPReaders
    r.1.udpMaxPayloadSize = t.udpMaxPayloadSize ∧ r.1.format = t.format ∧
      encoderConfOf r.1 = encoderConfOf t ∧
      (r.2.2 = none → (r.1.encoder = none ∧ r.2.1.rtpPackets = u.rtpPackets) ∨
        r.2.1.rtpPackets = [] ∨
        ∃ conf enc, r.1.encoder = some (conf, enc) ∧ lib.Encoded conf r.2.1.rtpPackets) := by
  unfold routeRTPPacket
  split_ifs with decoding
  · exact decodeRTPPacket_spec lib t u pkt
  · simp only [Bool.or_eq_true, not_or] at decoding
    exact ⟨rfl, rfl, rfl, fun _ => .inl ⟨Option.not_isSome_iff_eq_none.mp decoding.2, rfl⟩⟩

end

/-! ### `Process` -/

section

variable {h}

/-- On a unit without packets, `Process` stores the access unit's parameter sets, remuxes it and
encodes it. -/
theorem process_of_rtpPackets_nil {t : Processor Format Dec Enc} {u : H26xUnit}
    (noPackets : u.rtpPackets = []) (hasNonRTSPReaders : Bool) :
    process h lib t u hasNonRTSPReaders =
      encodeAccessUnit h lib { t with format := h.updateTrackParametersFromAU t.format u.au }
        { u with au := h.remuxAccessUnit (h.updateTrackParametersFromAU t.format u.au) u.au } := by
  simp only [process, noPackets]

/-- An empty access unit is not encoded: the unit is left with no packets and no error. -/
theorem encodeAccessUnit_of_au_eq_nil (t : Processor Format Dec Enc) {u : H26xUnit}
    (empty : u.au = []) : encodeAccessUnit h lib t u = (t, { u with rtpPackets := [] }, none) := by
  simp [encodeAccessUnit, empty]

/-- On a unit without packets, `Process` stores the access unit's parameter sets and leaves in the
unit the access unit remuxed with them, with no packets and no error when that is empty. -/
theorem process_accessUnit (t : Processor Format Dec Enc) {u : H26xUnit}
    (noPackets : u.rtpPackets = []) (hasNonRTSPReaders : Bool) :
    let r := process h lib t u hasNonRTSPReaders
    r.1.format = h.updateTrackParametersFromAU t.format u.au ∧
      r.2.1.au = h.remuxAccessUnit r.1.format u.au ∧
      (r.2.1.au = [] → r.2.1.rtpPackets = [] ∧ r.2.2 = none) := by
  rw [process_of_rtpPackets_nil lib noPackets]
  obtain ⟨-, format, -, -, au, -⟩ := encodeAccessUnit_spec (h := h) lib
    { t with format := h.updateTrackParametersFromAU t.format u.au }
    { u with au := h.remuxAccessUnit (h.updateTrackParametersFromAU t.format u.au) u.au }
  refine ⟨format, au.trans (by rw [format]), fun empty => ?_⟩
  rw [encodeAccessUnit_of_au_eq_nil lib _ (au.symm.trans empty)]
  exact ⟨rfl, rfl⟩

/-- The access-unit path is one `Step`. -/
theorem step_of_rtpPackets_nil (t : Processor Format Dec Enc) {u : H26xUnit}
    (noPackets : u.rtpPackets = []) (hasNonRTSPReaders : Bool) :
    let r := process h lib t u hasNonRTSPReaders
    Step h lib t u r.1 r.2.1 r.2.2 := by
  rw [process_of_rtpPackets_nil lib noPackets]
  obtain ⟨limit, -, -, encoder, -, packets⟩ := encodeAccessUnit_spec (h := h) lib
    { t with format := h.updateTrackParametersFromAU t.format u.au }
    { u with au := h.remuxAccessUnit (h.updateTrackParametersFromAU t.format u.au) u.au }
  exact ⟨limit, fun _ some_ => encoder.trans some_,
    fun none_ conf some_ => (Option.some_ne_none conf ((some_.symm.trans encoder).trans none_)).elim,
    fun ok => (packets ok).elim .inl (.inr ∘ .inr)⟩

/-- The RTP path is one `Step`. -/
theorem step_of_rtpPackets_cons (t : Processor Format Dec Enc) {u : H26xUnit} {pkt : Packet}
    {others : List Packet} (packets : u.rtpPackets = pkt :: others) (hasNonRTSPReaders : Bool) :
    let r := process h lib t u hasNonRTSPReaders
    Step h lib t u r.1 r.2.1 r.2.2 := by
  have noConf : ∀ {t' : Processor Format Dec Enc} {conf}, encoderConfOf t' = some conf →
      t'.encoder = none → False := fun some_ none_ => by simp [encoderConfOf, none_] at some_
  simp only [process, packets]
  rcases limitPacketSize_cases (h := h) lib
      { t with format := h.updateTrackParametersFromRTPPacket t.format pkt } pkt with
    ⟨encoder, limit⟩ | ⟨encoder, fits, limit⟩ | ⟨encoder, large, limit⟩
  · obtain ⟨size, -, conf, emits⟩ := routeRTPPacket_spec (h := h) lib
      { t with format := h.updateTrackParametersFromRTPPacket t.format pkt }
      { u with rtpPackets := pkt :: others } pkt hasNonRTSPReaders
    simp only [limit]
    refine ⟨size, fun _ some_ => conf.trans some_, fun none_ => ?_, fun ok => ?_⟩
    · simp [encoderConfOf_eq_none.mp none_] at encoder
    · rcases emits ok with ⟨none_, -⟩ | empty | encoded
      · have noEncoder : t.encoder = none :=
          encoderConfOf_eq_none.mp (conf.symm.trans (encoderConfOf_eq_none.mpr none_))
        simp [noEncoder] at encoder
      · exact .inl empty
      · exact .inr (.inr encoded)
  · obtain ⟨size, -, conf, emits⟩ := routeRTPPacket_spec (h := h) lib
      { t with format := h.updateTrackParametersFromRTPPacket t.format pkt }
      { u with rtpPackets := pkt.removePadding :: others } pkt.removePadding hasNonRTSPReaders
    simp only [limit]
    refine ⟨size, fun _ some_ => (noConf some_ encoder).elim,
      fun _ _ some_ => (noConf (some_.symm.trans conf).symm encoder).elim, fun ok => ?_⟩
    rcases emits ok with ⟨none_, rtp⟩ | empty | encoded
    · exact .inr (.inl ⟨none_, pkt, others, packets, rtp, fits⟩)
    · exact .inl empty
    · exact .inr (.inr encoded)
  · simp only [limit]
    cases init : (createEncoder h lib
        { t with format := h.updateTrackParametersFromRTPPacket t.format pkt }
        (some pkt.ssrc) (some pkt.sequenceNumber)).2 with
    | some err =>
        refine ⟨rfl, fun _ some_ => (noConf some_ encoder).elim, fun _ conf some_ => ?_,
          fun ok => by simp at ok⟩
        simp only [encoderConfOf_createEncoder, Option.some.injEq] at some_
        exact ⟨pkt, others, packets, large, some_.symm⟩
    | none =>
        obtain ⟨size, -, conf, emits⟩ := routeRTPPacket_spec (h := h) lib
          (createEncoder h lib { t with format := h.updateTrackParametersFromRTPPacket t.format pkt }
            (some pkt.ssrc) (some pkt.sequenceNumber)).1
          { u with rtpPackets := pkt.removePadding :: others } pkt.removePadding hasNonRTSPReaders
        refine ⟨size, fun _ some_ => (noConf some_ encoder).elim, fun _ c some_ => ?_, fun ok => ?_⟩
        · rw [conf, encoderConfOf_createEncoder, Option.some.injEq] at some_
          exact ⟨pkt, others, packets, large, some_.symm⟩
        · rcases emits ok with ⟨none_, -⟩ | empty | encoded
          · exact (noConf (conf.trans (encoderConfOf_createEncoder lib _ _ _)) none_).elim
          · exact .inl empty
          · exact .inr (.inr encoded)

/-- A packet that fits, on a processor without encoder and with a decoder at hand: `Process`
stores the packet's parameter sets, strips its padding, and hands it to the decoder, whose outcome
decides the rest. -/
theorem process_of_fits {t : Processor Format Dec Enc} {u : H26xUnit} {pkt : Packet}
    {others : List Packet} (packets : u.rtpPackets = pkt :: others) (noEncoder : t.encoder = none)
    (fits : (pkt.removePadding.marshalSize : Int) ≤ t.udpMaxPayloadSize) {dec : Dec}
    (decoder : lib.decoderOf t.decoder = .ok dec) :
    process h lib t u true =
      match lib.decode dec pkt.removePadding with
      | (dec, .error err) =>
          ({ t with format := h.updateTrackParametersFromRTPPacket t.format pkt, decoder := some dec },
            { u with rtpPackets := pkt.removePadding :: others },
            if err = .nonStartingPacketAndNoPrevious ∨ err = .morePacketsNeeded then none
            else some (.decode err))
      | (dec, .ok au) =>
          ({ t with format := h.updateTrackParametersFromRTPPacket t.format pkt, decoder := some dec },
            { u with rtpPackets := pkt.removePadding :: others,
                     au := h.remuxAccessUnit (h.updateTrackParametersFromRTPPacket t.format pkt) au },
            none) := by
  have limit : limitPacketSize h lib
      { t with format := h.updateTrackParametersFromRTPPacket t.format pkt } pkt =
      ({ t with format := h.updateTrackParametersFromRTPPacket t.format pkt }, pkt.removePadding, none) := by
    simp only [limitPacketSize, noEncoder]
    rw [if_neg (show ¬(pkt.removePadding.marshalSize : Int) > t.udpMaxPayloadSize by omega)]
  simp only [process, packets, limit, routeRTPPacket, decodeRTPPacket, Bool.true_or, if_true, decoder]
  rcases lib.decode dec pkt.removePadding with ⟨dec', _ | au⟩
  · simp only [noEncoder, Option.isSome_none, Bool.false_eq_true, if_false]
    split_ifs <;> rfl
  · simp [noEncoder]

/-- Every call of `Process` on a unit is one `Step`. -/
theorem process_step (t : Processor Format Dec Enc) (u : H26xUnit) (hasNonRTSPReaders : Bool) :
    let r := process h lib t u hasNonRTSPReaders
    Step h lib t u r.1 r.2.1 r.2.2 := by
  cases packets : u.rtpPackets with
  | nil => exact step_of_rtpPackets_nil lib t packets hasNonRTSPReaders
  | cons pkt others => exact step_of_rtpPackets_cons lib t packets hasNonRTSPReaders

end

end H26x

end FormatProcessor
end RtspSimpleServer
