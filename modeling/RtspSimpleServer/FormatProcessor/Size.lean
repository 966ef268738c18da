import RtspSimpleServer.FormatProcessor.H264
import RtspSimpleServer.FormatProcessor.H265
import RtspSimpleServer.FormatProcessor.Simple

/-!
# Every RTP packet a processor lets through fits

The VP9, MPEG-1 and MPEG-4 processors refuse an oversize packet, where the H.264 and H.265 ones
switch to re-encoding for good.  Over every run a packet left in a unit is the input packet, which
fits, or one of an encoder whose payload limit is `udpMaxPayloadSize - 12`.
-/

namespace RtspSimpleServer
namespace FormatProcessor

open Packet

namespace H26x

variable {Format Dec Enc : Type} (h : H26x Format) (lib : Codec (List (List UInt8)) Dec Enc)

/-- The states an H.264 or H.265 processor reaches: built by `newH264` or `newH265`, then given
any units, whatever each call returns. -/
inductive Run : Processor Format Dec Enc → Prop
  | new {udpMaxPayloadSize : Int} {format : Format} {generateRTPPackets : Bool}
      {t : Processor Format Dec Enc} :
      newH26x h lib udpMaxPayloadSize format generateRTPPackets = .ok t → Run t
  | process {t : Processor Format Dec Enc} (u : H26xUnit) (hasNonRTSPReaders : Bool) :
      Run t → Run (process h lib t u hasNonRTSPReaders).1

/-- The processor's encoder, if any, has a payload limit 12 bytes under the processor's. -/
def EncoderSized (t : Processor Format Dec Enc) : Prop :=
  ∀ conf, encoderConfOf t = some conf → conf.payloadMaxSize = t.udpMaxPayloadSize - 12

/-- What the size guarantee says of one call of `Process` on a unit with at most one packet: an
encoder, once there, stays with its configuration, whose payload limit is 12 bytes under the
processor's; it is created exactly on an oversize packet when there is none, seeded with that
packet's SSRC and sequence number; a call that returns no error leaves in the unit no packets, the input packet without
padding when it fits and there is no encoder, or packets of the encoder, and never the input packet
once there is an encoder; and when the encoder keeps to its limit, every packet left fits. -/
structure SizeGuarantee (t : Processor Format Dec Enc) (u : H26xUnit)
    (t' : Processor Format Dec Enc) (u' : H26xUnit) (err : Option ProcessError) : Prop where
  keeps : ∀ conf, encoderConfOf t = some conf → encoderConfOf t' = some conf
  sized : ∀ conf, encoderConfOf t' = some conf → conf.payloadMaxSize = t.udpMaxPayloadSize - 12
  seeded : encoderConfOf t = none → ∀ conf, encoderConfOf t' = some conf →
    ∃ pkt, u.rtpPackets = [pkt] ∧ t.udpMaxPayloadSize < pkt.removePadding.marshalSize ∧
      conf.ssrc = some pkt.ssrc ∧ conf.initialSequenceNumber = some pkt.sequenceNumber
  switches : encoderConfOf t = none → ∀ pkt, u.rtpPackets = [pkt] →
    t.udpMaxPayloadSize < pkt.removePadding.marshalSize →
    ∃ conf, encoderConfOf t' = some conf ∧ conf.ssrc = some pkt.ssrc ∧
      conf.initialSequenceNumber = some pkt.sequenceNumber
  forwards : err = none → u'.rtpPackets = [] ∨
    (encoderConfOf t' = none ∧ ∃ pkt, u.rtpPackets = [pkt] ∧ u'.rtpPackets = [pkt.removePadding] ∧
      (pkt.removePadding.marshalSize : Int) ≤ t.udpMaxPayloadSize) ∨
    ∃ conf enc, t'.encoder = some (conf, enc) ∧ lib.Encoded conf u'.rtpPackets
  reencodes : encoderConfOf t ≠ none → err = none → u'.rtpPackets = [] ∨
    ∃ conf enc, t'.encoder = some (conf, enc) ∧ lib.Encoded conf u'.rtpPackets
  fits : lib.RespectsPayloadMaxSize → err = none →
    ∀ pkt ∈ u'.rtpPackets, (pkt.marshalSize : Int) ≤ t.udpMaxPayloadSize

variable {h lib}

/-- A new processor's encoder, if it has one, is sized. -/
theorem newH26x_encoderSized {udpMaxPayloadSize : Int} {format : Format}
    {generateRTPPackets : Bool} {t : Processor Format Dec Enc}
    (built : newH26x h lib udpMaxPayloadSize format generateRTPPackets = .ok t) : EncoderSized t := by
  unfold newH26x at built
  dsimp only at built
  split_ifs at built
  · split at built
    · rename_i created
      cases built
      obtain ⟨rfl, -⟩ := Prod.ext_iff.mp created
      intro conf some_
      rw [encoderConfOf_createEncoder, Option.some.injEq] at some_
      rw [← some_, (h.encoderConf_seeded _ _ _ _).1]
      rfl
    · cases built
  · cases built
    intro conf some_
    simp [encoderConfOf] at some_

/-- A call of `Process` keeps the encoder sized. -/
theorem Step.encoderSized {t t' : Processor Format Dec Enc} {u u' : H26xUnit}
    {err : Option ProcessError} (step : Step h lib t u t' u' err) (sized : EncoderSized t) :
    EncoderSized t' := by
  intro conf some_
  rw [step.udpMaxPayloadSize]
  cases before : encoderConfOf t with
  | some kept =>
      rw [step.keeps kept before, Option.some.injEq] at some_
      exact some_ ▸ sized kept before
  | none =>
      obtain ⟨pkt, others, -, -, rfl⟩ := step.creates before conf some_
      exact (h.encoderConf_seeded _ _ _ _).1

/-- On a unit with at most one packet, what a call leaves in the unit is nothing, the input
packet without padding when it fits and there is no encoder, or packets of the encoder. -/
theorem Step.forwards {t t' : Processor Format Dec Enc} {u u' : H26xUnit}
    {err : Option ProcessError} (step : Step h lib t u t' u' err) (single : u.rtpPackets.length ≤ 1)
    (ok : err = none) :
    u'.rtpPackets = [] ∨
      (encoderConfOf t' = none ∧ ∃ pkt, u.rtpPackets = [pkt] ∧ u'.rtpPackets = [pkt.removePadding] ∧
        (pkt.removePadding.marshalSize : Int) ≤ t.udpMaxPayloadSize) ∨
      ∃ conf enc, t'.encoder = some (conf, enc) ∧ lib.Encoded conf u'.rtpPackets := by
  rcases step.emits ok with empty | ⟨none_, pkt, others, packets, rtp, fit⟩ | encoded
  · exact .inl empty
  · obtain rfl : others = [] := by simpa [packets] using single
    exact .inr (.inl ⟨encoderConfOf_eq_none.mpr none_, pkt, packets, rtp, fit⟩)
  · exact .inr (.inr encoded)

/-- An oversize packet reaching a processor without encoder creates the encoder, seeded with it,
whether its initialisation and the rest of the call fail or not. -/
theorem process_encoderConfOf_of_large {t : Processor Format Dec Enc} {u : H26xUnit}
    {pkt : Packet} {others : List Packet} (none_ : encoderConfOf t = none)
    (packets : u.rtpPackets = pkt :: others)
    (large : t.udpMaxPayloadSize < pkt.removePadding.marshalSize) (hasNonRTSPReaders : Bool) :
    encoderConfOf (H26x.process h lib t u hasNonRTSPReaders).1 =
      some (h.encoderConf (t.udpMaxPayloadSize - 12) (h.updateTrackParametersFromRTPPacket t.format pkt)
        (some pkt.ssrc) (some pkt.sequenceNumber)) := by
  rcases limitPacketSize_cases (h := h) lib
      { t with format := h.updateTrackParametersFromRTPPacket t.format pkt } pkt with
    ⟨encoder, -⟩ | ⟨-, fits, -⟩ | ⟨-, -, limit⟩
  · simp [encoderConfOf_eq_none.mp none_] at encoder
  · exact absurd large (Int.not_lt.2 fits)
  simp only [H26x.process, packets, limit]
  cases (createEncoder h lib { t with format := h.updateTrackParametersFromRTPPacket t.format pkt }
      (some pkt.ssrc) (some pkt.sequenceNumber)).2 with
  | some err => exact encoderConfOf_createEncoder lib _ _ _
  | none =>
      exact (routeRTPPacket_spec (h := h) lib _ _ _ hasNonRTSPReaders).2.2.1.trans
        (encoderConfOf_createEncoder lib _ _ _)

/-- Every state of a run has its encoder sized. -/
theorem Run.encoderSized {t : Processor Format Dec Enc} (run : Run h lib t) : EncoderSized t := by
  induction run with
  | new built => exact newH26x_encoderSized built
  | process u hasNonRTSPReaders _ ih => exact (process_step (h := h) lib _ u hasNonRTSPReaders).encoderSized ih

/-- Every call of `Process` in a run, on a unit with at most one packet, keeps to the size
guarantee. -/
theorem Run.sizeGuarantee {t : Processor Format Dec Enc} (run : Run h lib t) {u : H26xUnit}
    (single : u.rtpPackets.length ≤ 1) (hasNonRTSPReaders : Bool) :
    let r := H26x.process h lib t u hasNonRTSPReaders
    SizeGuarantee lib t u r.1 r.2.1 r.2.2 := by
  have step := process_step (h := h) lib t u hasNonRTSPReaders
  have sizedAfter := (run.process u hasNonRTSPReaders).encoderSized
  have alone : ∀ {pkt others}, u.rtpPackets = pkt :: others → others = [] := fun packets => by
    simpa [packets] using single
  have confOf : ∀ {t' : Processor Format Dec Enc} {conf enc}, t'.encoder = some (conf, enc) →
      encoderConfOf t' = some conf := fun encoder => by simp [encoderConfOf, encoder]
  have sized : ∀ conf, encoderConfOf (H26x.process h lib t u hasNonRTSPReaders).1 = some conf →
      conf.payloadMaxSize = t.udpMaxPayloadSize - 12 := fun conf some_ =>
    (sizedAfter conf some_).trans (by rw [step.udpMaxPayloadSize])
  have forwards := step.forwards single
  refine ⟨step.keeps, sized, fun none_ conf some_ => ?_, fun none_ pkt packets large => ?_, forwards,
    fun encoder ok => ?_, fun respects ok => ?_⟩
  · obtain ⟨pkt, others, packets, large, rfl⟩ := step.creates none_ conf some_
    obtain ⟨-, ssrc, seq⟩ := h.encoderConf_seeded _ _ (some pkt.ssrc) (some pkt.sequenceNumber)
    exact ⟨pkt, alone packets ▸ packets, large, ssrc, seq⟩
  · obtain ⟨-, ssrc, seq⟩ := h.encoderConf_seeded _ _ (some pkt.ssrc) (some pkt.sequenceNumber)
    exact ⟨_, process_encoderConfOf_of_large none_ packets large hasNonRTSPReaders, ssrc, seq⟩
  · obtain ⟨conf, before⟩ := Option.ne_none_iff_exists'.mp encoder
    rcases forwards ok with empty | ⟨none_, -⟩ | encoded
    · exact .inl empty
    · exact absurd (step.keeps conf before) (by simp [none_])
    · exact .inr encoded
  · intro pkt mem
    rcases forwards ok with empty | ⟨-, input, -, rtp, fit⟩ | ⟨conf, enc, encoder, encoded⟩
    · simp [empty] at mem
    · simp only [rtp, List.mem_singleton] at mem
      exact mem ▸ fit
    · have bound := encoded.marshalSize_le respects pkt mem
      rw [sized conf (confOf encoder)] at bound
      omega

end H26x

/-- Every format processor lets an RTP packet through only without padding and within
`udpMaxPayloadSize`.  The H.264 and H.265 processors, over every run and on every unit with at
most one packet, keep to the size guarantee: they re-encode from the first oversize packet on, with
an encoder seeded with it whose payload limit is `udpMaxPayloadSize - 12`, so that every packet
they leave in a unit fits when the encoder keeps to its limit.  The VP9, MPEG-1 audio, MPEG-1
video and MPEG-4 video processors return a unit only with the input packet, without padding, when
it fits. -/
theorem forwarded_packets_fit :
    (∀ {Dec Enc : Type} (lib : Codec (List (List UInt8)) Dec Enc)
        (t : Processor H264.Format Dec Enc) (u : H26xUnit) (hasNonRTSPReaders : Bool),
      H26x.Run FormatProcessorH264.methods lib t → u.rtpPackets.length ≤ 1 →
      let r := FormatProcessorH264.process lib t u hasNonRTSPReaders
      H26x.SizeGuarantee lib t u r.1 r.2.1 r.2.2) ∧
    (∀ {Dec Enc : Type} (lib : Codec (List (List UInt8)) Dec Enc)
        (t : Processor H265.Format Dec Enc) (u : H26xUnit) (hasNonRTSPReaders : Bool),
      H26x.Run FormatProcessorH265.methods lib t → u.rtpPackets.length ≤ 1 →
      let r := FormatProcessorH265.process lib t u hasNonRTSPReaders
      H26x.SizeGuarantee lib t u r.1 r.2.1 r.2.2) ∧
    (∀ {Dec Enc : Type} (lib : Codec (List UInt8) Dec Enc) (t : Processor FormatVP9 Dec Enc)
        (pkt : Packet) (pts : Int) (hasNonRTSPReaders : Bool) (u : FrameUnit (List UInt8)),
      (FormatProcessorVP9.processRTPPacket lib t pkt pts hasNonRTSPReaders).2 = .ok u →
      u.rtpPackets = [pkt.removePadding] ∧
        (pkt.removePadding.marshalSize : Int) ≤ t.udpMaxPayloadSize) ∧
    (∀ {Dec Enc : Type} (lib : Codec (List (List UInt8)) Dec Enc) (t : Processor Unit Dec Enc)
        (pkt : Packet) (pts : Int) (hasNonRTSPReaders : Bool) (u : FrameUnit (List (List UInt8))),
      (FormatProcessorMPEG1Audio.processRTPPacket lib t pkt pts hasNonRTSPReaders).2 = .ok u →
      u.rtpPackets = [pkt.removePadding] ∧
        (pkt.removePadding.marshalSize : Int) ≤ t.udpMaxPayloadSize) ∧
    (∀ {Dec Enc : Type} (lib : Codec (List UInt8) Dec Enc) (t : Processor Unit Dec Enc)
        (pkt : Packet) (pts : Int) (hasNonRTSPReaders : Bool) (u : FrameUnit (List UInt8)),
      (FormatProcessorMPEG1Video.processRTPPacket lib t pkt pts hasNonRTSPReaders).2 = .ok u →
      u.rtpPackets = [pkt.removePadding] ∧
        (pkt.removePadding.marshalSize : Int) ≤ t.udpMaxPayloadSize) ∧
    (∀ {Dec Enc : Type} (lib : Codec (List UInt8) Dec Enc)
        (t : Processor FormatMPEG4Video Dec Enc) (pkt : Packet) (pts : Int)
        (hasNonRTSPReaders : Bool) (u : FrameUnit (List UInt8)),
      (FormatProcessorMPEG4Video.processRTPPacket lib t pkt pts hasNonRTSPReaders).2 = .ok u →
      u.rtpPackets = [pkt.removePadding] ∧
        (pkt.removePadding.marshalSize : Int) ≤ t.udpMaxPayloadSize) :=
  ⟨fun _ _ _ _ run single => run.sizeGuarantee single _,
    fun _ _ _ _ run single => run.sizeGuarantee single _,
    fun _ _ _ _ _ _ ok => processRTPPacket_ok ok, fun _ _ _ _ _ _ ok => processRTPPacket_ok ok,
    fun _ _ _ _ _ _ ok => processRTPPacket_ok ok,
    fun _ _ _ _ _ _ ok => FormatProcessorMPEG4Video.processRTPPacket_ok ok⟩

end FormatProcessor
end RtspSimpleServer
