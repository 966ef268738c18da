import Mathlib.Data.List.Chain
import RtspSimpleServer.Record.FMP4

/-!
# The tracks of the fMP4 recorder

Each format of the stream gets a track and a callback, which the recorder's writer runs in order
until the first error.  `ClosesOnChange` says what a callback does to the shared current segment,
and the lemmas on `runTrack` carry what a callback does on one unit to a whole run.
-/

namespace RtspSimpleServer
namespace Record

/-! ## `updateCodecs` -/

theorem updateCodecs_updateCodecs (segment : Option FMP4Segment) :
    updateCodecs (updateCodecs segment) = updateCodecs segment := by
  rcases segment with _ | ⟨_ | _⟩ <;> rfl

/-- `updateCodecs` leaves no segment whose file is open. -/
theorem fi_of_updateCodecs {segment : Option FMP4Segment} :
    ∀ s ∈ updateCodecs segment, s.fi = false := by
  rcases segment with _ | ⟨_ | _⟩ <;> simp [updateCodecs]

/-- `fmp4.PartSample`: the offset of the PTS from the DTS in 90 kHz ticks, whether the sample is not
a sync sample, and its payload. -/
structure PartSample where
  ptsOffset : Int
  isNonSyncSample : Bool
  payload : List UInt8
  deriving DecidableEq, Repr

/-! ## What a callback does to the current segment -/

section Segment

variable {σ κ : Type} (codec : σ → κ) (segment : σ → Option FMP4Segment) (calls : σ → Nat)

/-- From state `s` to `s'` a callback calls `updateCodecs` some number of times (`calls` counts them),
which closes the current segment if it called it at all and leaves it otherwise, and it calls it if
it changed the codec. -/
structure ClosesOnChange (s s' : σ) : Prop where
  calls_le : calls s ≤ calls s'
  segment_eq : segment s' = if calls s' = calls s then segment s else updateCodecs (segment s)
  called : codec s' ≠ codec s → calls s ≠ calls s'

variable {codec segment calls}

theorem ClosesOnChange.of_eq {s s' : σ} (codec_eq : codec s' = codec s)
    (segment_eq : segment s' = segment s) (calls_eq : calls s' = calls s) :
    ClosesOnChange codec segment calls s s' :=
  ⟨calls_eq.ge, by rw [if_pos calls_eq, segment_eq], fun changed => (changed codec_eq).elim⟩

/-- One call of `updateCodecs`, whatever it does to the codec. -/
theorem ClosesOnChange.of_call {s s' : σ} (segment_eq : segment s' = updateCodecs (segment s))
    (calls_eq : calls s' = calls s + 1) : ClosesOnChange codec segment calls s s' :=
  ⟨by omega, by rw [if_neg (by omega), segment_eq], fun _ => by omega⟩

theorem ClosesOnChange.refl (s : σ) : ClosesOnChange codec segment calls s s :=
  .of_eq rfl rfl rfl

theorem ClosesOnChange.trans {s₁ s₂ s₃ : σ} (first : ClosesOnChange codec segment calls s₁ s₂)
    (second : ClosesOnChange codec segment calls s₂ s₃) : ClosesOnChange codec segment calls s₁ s₃ where
  calls_le := first.calls_le.trans second.calls_le
  segment_eq := by
    have := first.calls_le
    have := second.calls_le
    rw [second.segment_eq, first.segment_eq]
    by_cases same₁ : calls s₂ = calls s₁
    · by_cases same₂ : calls s₃ = calls s₂
      · rw [if_pos same₂, if_pos same₁, if_pos (same₂.trans same₁)]
      · rw [if_neg same₂, if_pos same₁, if_neg (by omega)]
    · rw [if_neg same₁, if_neg (by omega : calls s₃ ≠ calls s₁)]
      split <;> simp only [updateCodecs_updateCodecs]
  called changed := by
    have := first.calls_le
    have := second.calls_le
    by_cases kept : codec s₂ = codec s₁
    · have := second.called (kept ▸ changed)
      omega
    · have := first.called kept
      omega

/-- A track whose codec changed has closed the segment it had: no segment with an open file is
left. -/
theorem ClosesOnChange.closed {s s' : σ} (closes : ClosesOnChange codec segment calls s s')
    (changed : codec s' ≠ codec s) : ∀ seg ∈ segment s', seg.fi = false := by
  rw [closes.segment_eq, if_neg (closes.called changed).symm]
  exact fi_of_updateCodecs

/-- A callback that keeps `ClosesOnChange` on every unit keeps it over every sequence of units. -/
theorem foldl_closesOnChange {υ : Type} {step : σ → υ → σ}
    (keeps : ∀ s u, ClosesOnChange codec segment calls s (step s u)) (us : List υ) (s : σ) :
    ClosesOnChange codec segment calls s (us.foldl step s) := by
  induction us generalizing s with
  | nil => exact .refl s
  | cons u us ih => exact (keeps s u).trans (ih (step s u))

end Segment

section Writer

variable {σ υ β : Type} (callback : σ → υ → σ × Except String (Option β))
  (record : β → Option String)

/-- The recorder's async writer running a track's callback on units in order: a sample the callback
returns goes to `track.record` (`record` is the error it returns), and the first error stops the
writer.  The state it ends in, the samples recorded and the error. -/
def runTrack : σ → List υ → σ × List β × Option String
  | s, [] => (s, [], none)
  | s, u :: us =>
      match callback s u with
      | (s, .error err) => (s, [], some err)
      | (s, .ok none) => runTrack s us
      | (s, .ok (some b)) =>
          match record b with
          | some err => (s, [b], some err)
          | none =>
              let rest := runTrack s us
              (rest.1, b :: rest.2.1, rest.2.2)

/-- The state a run ends in is the one the callback reaches on a prefix of the units. -/
theorem runTrack_fst (us : List υ) (s : σ) :
    ∃ k, (runTrack callback record s us).1 = (us.take k).foldl (fun s u => (callback s u).1) s := by
  induction us generalizing s with
  | nil => exact ⟨0, rfl⟩
  | cons u us ih =>
      rcases called : callback s u with ⟨s', _ | _ | b⟩
      · exact ⟨1, by simp [runTrack, called]⟩
      · obtain ⟨k, ended⟩ := ih s'
        exact ⟨k + 1, by simp [runTrack, called, ended]⟩
      · obtain ⟨k, ended⟩ := ih s'
        cases recorded : record b with
        | some _ => exact ⟨1, by simp [runTrack, called, recorded]⟩
        | none => exact ⟨k + 1, by simp [runTrack, called, recorded, ended]⟩

/-- The first sample of a run comes from a state a gate holds of, when the gate holds at the start
and units that record nothing keep it. -/
theorem runTrack_head (gate : σ → Prop) {P : β → Prop}
    (skip : ∀ s u s', gate s → callback s u = (s', .ok none) → gate s')
    (first : ∀ s u s' b, gate s → callback s u = (s', .ok (some b)) → P b) (us : List υ) :
    ∀ s, gate s → ∀ b ∈ (runTrack callback record s us).2.1.head?, P b := by
  induction us with
  | nil => simp [runTrack]
  | cons u us ih =>
      intro s gated b head
      rcases called : callback s u with ⟨s', _ | _ | b'⟩
      · simp [runTrack, called] at head
      · rw [runTrack, called] at head
        exact ih s' (skip s u s' gated called) b head
      · have : b = b' := by
          simp only [runTrack, called] at head
          split at head <;> simpa using head.symm
        exact this ▸ first s u s' b' gated called

/-- Samples stay ordered by `R` when every sample is `R`-after the mark the state keeps and becomes
the new mark, and units that record nothing keep the mark. -/
theorem runTrack_chain {α : Type} {R : α → α → Prop} (key : β → α) (mark : σ → Option α)
    (recorded : ∀ s u s' b, callback s u = (s', .ok (some b)) →
      (∀ m ∈ mark s, R m (key b)) ∧ mark s' = some (key b))
    (skipped : ∀ s u s', callback s u = (s', .ok none) → mark s' = mark s) (us : List υ) :
    ∀ s, (∀ m ∈ mark s, ∀ k ∈ ((runTrack callback record s us).2.1.map key).head?, R m k) ∧
      ((runTrack callback record s us).2.1.map key).Chain' R := by
  induction us with
  | nil => simp [runTrack, List.chain'_nil]
  | cons u us ih =>
      intro s
      rcases called : callback s u with ⟨s', _ | _ | b⟩
      · simp [runTrack, called, List.chain'_nil]
      · rw [runTrack, called, ← skipped s u s' called]
        exact ih s'
      · obtain ⟨after, marked⟩ := recorded s u s' b called
        have next := ih s'
        rw [marked] at next
        cases sent : record b with
        | some _ => simpa [runTrack, called, sent, List.chain'_singleton] using after
        | none =>
            simp only [runTrack, called, sent, List.map_cons, List.head?_cons, Option.mem_def,
              Option.some.injEq, List.chain'_cons']
            exact ⟨fun m mem k key_eq => key_eq ▸ after m mem,
              fun k head => next.1 (key b) rfl k head, next.2⟩

theorem updateField_firstReceived {α : Type} [DecidableEq α] (field : CodecField α) (v : α)
    (r : VP9Recorder) : (updateField field v r).firstReceived = r.firstReceived := by
  unfold updateField
  split_ifs <;> rfl

/-- The recorder's writer on the VP9 track. -/
def runVP9 (unmarshal : List UInt8 → Except String VP9Header) (record : Sample → Option String)
    (r : VP9Recorder) (units : List (Option (List UInt8) × Int)) :
    VP9Recorder × List Sample × Option String :=
  runTrack (fun r (unit : Option (List UInt8) × Int) => onVP9Unit unmarshal r unit.1 unit.2) record r
    units

/-- A VP9 unit that records nothing leaves the gate as it was; one that records a sample when the
track had received no key frame records a key frame, as a sync sample. -/
theorem onVP9Unit_gate {unmarshal : List UInt8 → Except String VP9Header} {r r' : VP9Recorder}
    {frame : Option (List UInt8)} {pts : Int} {result : Option Sample}
    (called : onVP9Unit unmarshal r frame pts = (r', .ok result)) (waiting : r.firstReceived = false) :
    match result with
    | none => r'.firstReceived = false
    | some b => b.isNonSyncSample = false := by
  match frame with
  | none => cases called; exact waiting
  | some frame =>
      cases parsed : unmarshal frame with
      | error _ => simp [onVP9Unit, parsed] at called
      | ok h =>
          have received : (if h.keyFrame then updateKeyFrame h r else r).firstReceived = false := by
            split
            · simpa [updateKeyFrame, updateField_firstReceived] using waiting
            · exact waiting
          simp only [onVP9Unit, parsed] at called
          generalize (if h.keyFrame then updateKeyFrame h r else r) = r₁ at called received
          split_ifs at called <;> cases called <;> simp_all

/-- The first sample the VP9 track records is a sync sample. -/
theorem runVP9_head_sync (unmarshal : List UInt8 → Except String VP9Header)
    (record : Sample → Option String) (segment : Option FMP4Segment)
    (units : List (Option (List UInt8) × Int)) :
    ∀ b ∈ (runVP9 unmarshal record (.init segment) units).2.1.head?, b.isNonSyncSample = false :=
  runTrack_head (fun r (unit : Option (List UInt8) × Int) => onVP9Unit unmarshal r unit.1 unit.2) record
    (fun r : VP9Recorder => r.firstReceived = false)
    (fun _ _ _ waiting skipped => onVP9Unit_gate skipped waiting)
    (fun _ _ _ _ waiting recorded => onVP9Unit_gate recorded waiting) units (.init segment) rfl

end Writer

end Record
end RtspSimpleServer
