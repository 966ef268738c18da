import RtspSimpleServer.Core.Timestamp
import RtspSimpleServer.Rtmp.Reader

/-!
# The H.264 and H.265 tracks of an SRT reader

The callbacks of the two tracks are one function of their random access test.  An SRT reader
writes the access units of a track from the first random access on, with their time stamps in
90 kHz ticks, and from the same H.264 units an RTMP reader writes the same access units less
those without a slice.
-/

namespace RtspSimpleServer
namespace SrtConn

open FormatProcessor
open RtmpConn (DTSExtractorLib idrPresent Sliced)

/-- A `WriteH26x(track, pts, dts, randomAccess, au)` call on the MPEG-TS writer, its times in
90 kHz ticks. -/
structure WriteH26x where
  pts : Int
  dts : Int
  randomAccess : Bool
  au : List (List UInt8)
  deriving DecidableEq, Repr

/-- What the closure of one unit does: nothing, a write, or an error that stops the writer. -/
inductive Outcome where
  | skip
  | write (w : WriteH26x)
  | error (err : String)
  deriving DecidableEq, Repr

variable {Ext : Type} (lib : DTSExtractorLib Ext) (randomAccess : List (List UInt8) → Bool)

/-- The closure the callback of an H.265 or H.264 track pushes for a unit, run with the callback's
state, `randomAccessReceived` and the DTS extractor (a nil access unit is the empty one). -/
def h26xCallback (randomAccessReceived : Bool) (dtsExtractor : Ext) (u : H26xUnit) :
    (Bool × Ext) × Outcome :=
  if u.au = [] then ((randomAccessReceived, dtsExtractor), .skip)
  else if !randomAccessReceived && !randomAccess u.au then
    ((randomAccessReceived, dtsExtractor), .skip)
  else
    match lib.extract dtsExtractor u.au u.pts with
    | (ext, .error err) => ((true, ext), .error err)
    | (ext, .ok dts) =>
        ((true, ext), .write ⟨durationGoToMPEGTS u.pts, durationGoToMPEGTS dts,
          randomAccess u.au, u.au⟩)

/-- The async writer running the closures of one track's units in order, each write handed to the
connection (`send` is the error the write or the flush returns): the writes made and the error
that stopped it. -/
def drain (send : WriteH26x → Option String) :
    Bool → Ext → List H26xUnit → List WriteH26x × Option String
  | _, _, [] => ([], none)
  | received, ext, u :: us =>
      match h26xCallback lib randomAccess received ext u with
      | (_, .error err) => ([], some err)
      | ((received, ext), .skip) => drain send received ext us
      | ((received, ext), .write w) =>
          match send w with
          | some err => ([w], some err)
          | none => (w :: (drain send received ext us).1, (drain send received ext us).2)

/-- A closure skips exactly an empty access unit, and one before the first random access. -/
theorem h26xCallback_skip {received : Bool} {ext : Ext} {u : H26xUnit}
    (skipped : u.au = [] ∨ received = false ∧ randomAccess u.au = false) :
    h26xCallback lib randomAccess received ext u = ((received, ext), .skip) := by
  unfold h26xCallback
  rcases skipped with empty | ⟨rfl, gated⟩
  · rw [if_pos empty]
  · by_cases empty : u.au = []
    · rw [if_pos empty]
    · rw [if_neg empty, if_pos (by simp [gated])]

/-- A closure past the gate extracts the DTS and writes the access unit with its times in ticks. -/
theorem h26xCallback_of_ok {received : Bool} {ext ext' : Ext} {u : H26xUnit} {dts : Int}
    (nonempty : u.au ≠ []) (open_ : received = true ∨ randomAccess u.au = true)
    (extracted : lib.extract ext u.au u.pts = (ext', .ok dts)) :
    h26xCallback lib randomAccess received ext u =
      ((true, ext'), .write ⟨durationGoToMPEGTS u.pts, durationGoToMPEGTS dts,
        randomAccess u.au, u.au⟩) := by
  have gate : (!received && !randomAccess u.au) = false := by
    rcases open_ with h | h <;> simp [h]
  rw [h26xCallback, if_neg nonempty, gate, if_neg (by decide), extracted]

/-- A closure that writes writes its own access unit, non-empty and past the gate, at its PTS in
ticks and at the ticks of a DTS the extractor gave. -/
theorem h26xCallback_write {received : Bool} {ext : Ext} {s : Bool × Ext} {u : H26xUnit}
    {w : WriteH26x} (wrote : h26xCallback lib randomAccess received ext u = (s, .write w)) :
    u.au ≠ [] ∧ (received = true ∨ randomAccess u.au = true) ∧ s.1 = true ∧
      ∃ dts, lib.extract ext u.au u.pts = (s.2, .ok dts) ∧
        w = ⟨durationGoToMPEGTS u.pts, durationGoToMPEGTS dts, randomAccess u.au, u.au⟩ := by
  unfold h26xCallback at wrote
  split_ifs at wrote with empty gated
  · cases wrote
  · cases wrote
  · split at wrote
    · cases wrote
    · rename_i ext' dts extracted
      cases wrote
      refine ⟨empty, ?_, rfl, dts, extracted, rfl⟩
      cases received <;> simp_all

/-- A closure that skips leaves the callback's state as it was. -/
theorem h26xCallback_state_of_skip {received : Bool} {ext : Ext} {s : Bool × Ext} {u : H26xUnit}
    (skipped : h26xCallback lib randomAccess received ext u = (s, .skip)) : s = (received, ext) := by
  unfold h26xCallback at skipped
  split_ifs at skipped
  · exact (Prod.mk.inj skipped).1.symm
  · exact (Prod.mk.inj skipped).1.symm
  · split at skipped <;> cases skipped

section Drain

variable (send : WriteH26x → Option String)

/-- The first write of an SRT reader's track is a random access. -/
theorem drain_first_randomAccess (ext : Ext) (us : List H26xUnit) :
    ∀ w ∈ (drain lib randomAccess send false ext us).1.head?, w.randomAccess := by
  induction us generalizing ext with
  | nil => simp [drain]
  | cons u us ih =>
      intro w first
      rcases called : h26xCallback lib randomAccess false ext u with ⟨s, _ | w' | err⟩
      · obtain rfl := h26xCallback_state_of_skip lib randomAccess called
        simp only [drain, called] at first
        exact ih ext w first
      · obtain ⟨-, open_, -, dts, -, rfl⟩ := h26xCallback_write lib randomAccess called
        simp only [drain, called] at first
        split at first <;>
          · obtain rfl : _ = w := by simpa using first
            simpa using open_
      · simp [drain, called] at first

/-- Past the first random access and with no error, a track forwards every non-empty access unit,
in order. -/
theorem drain_received_of_ok
    (extractOk : ∀ e au pts, ∃ e' dts, lib.extract e au pts = (e', .ok dts))
    (sendOk : ∀ w, send w = none) (ext : Ext) (us : List H26xUnit) :
    (drain lib randomAccess send true ext us).1.map (·.au) =
        (us.map (·.au)).filter (fun au => !au.isEmpty) ∧
      (drain lib randomAccess send true ext us).2 = none := by
  induction us generalizing ext with
  | nil => exact ⟨rfl, rfl⟩
  | cons u us ih =>
      by_cases empty : u.au = []
      · simp only [drain, h26xCallback_skip lib randomAccess (.inl empty), List.map_cons,
          List.filter_cons, List.isEmpty_iff.2 empty]
        exact ih ext
      · obtain ⟨e', dts, extracted⟩ := extractOk ext u.au u.pts
        simp only [drain, h26xCallback_of_ok lib randomAccess empty (.inl rfl) extracted, sendOk,
          List.map_cons, List.filter_cons, List.isEmpty_eq_false.2 empty]
        exact ⟨congrArg _ (ih e').1, (ih e').2⟩

/-- With no extractor or write error, an SRT reader receives on a track every access unit from the
first random access on, in order, and the writer never stops. -/
theorem drain_forwards_from_randomAccess
    (extractOk : ∀ e au pts, ∃ e' dts, lib.extract e au pts = (e', .ok dts))
    (sendOk : ∀ w, send w = none) (us : List H26xUnit) :
    (drain lib randomAccess send false lib.newDTSExtractor us).1.map (·.au) =
        (((us.map (·.au)).filter fun au => !au.isEmpty).dropWhile fun au => !randomAccess au) ∧
      (drain lib randomAccess send false lib.newDTSExtractor us).2 = none := by
  induction us with
  | nil => exact ⟨rfl, rfl⟩
  | cons u us ih =>
      by_cases empty : u.au = []
      · simp only [drain, h26xCallback_skip lib randomAccess (.inl empty), List.map_cons,
          List.filter_cons, List.isEmpty_iff.2 empty]
        exact ih
      by_cases gated : randomAccess u.au = false
      · simp only [drain, h26xCallback_skip lib randomAccess (.inr ⟨rfl, gated⟩), List.map_cons,
          List.filter_cons, List.isEmpty_eq_false.2 empty, List.dropWhile_cons, gated,
          Bool.not_false, ↓reduceIte]
        exact ih
      · obtain ⟨e', dts, extracted⟩ := extractOk lib.newDTSExtractor u.au u.pts
        have open_ : randomAccess u.au = true := by simpa using gated
        obtain ⟨aus, errs⟩ := drain_received_of_ok lib randomAccess send extractOk sendOk e' us
        simp only [drain, h26xCallback_of_ok lib randomAccess empty (.inr open_) extracted, sendOk,
          List.map_cons, List.filter_cons, List.isEmpty_eq_false.2 empty, List.dropWhile_cons,
          open_, Bool.not_false, Bool.not_true, ↓reduceIte]
        exact ⟨congrArg _ aus, errs⟩

/-- An extractor that takes the PTS for the DTS, on the units of an RTMP reader's sample: the first
random access is the IDR, and the access unit of a delimiter alone after it is forwarded. -/
theorem drain_forwards_from_randomAccess_sampleUnits :
    (∀ e au pts, ∃ e' dts, RtmpConn.ptsExtractor.extract e au pts = (e', .ok dts)) ∧
      (∀ w : WriteH26x, (fun _ => none : WriteH26x → Option String) w = none) ∧
      ((drain RtmpConn.ptsExtractor idrPresent (fun _ => none) false
          RtmpConn.ptsExtractor.newDTSExtractor RtmpConn.sampleUnits).1.map (·.au) =
        (((RtmpConn.sampleUnits.map (·.au)).filter fun au => !au.isEmpty).dropWhile
          fun au => !idrPresent au) ∧
      (drain RtmpConn.ptsExtractor idrPresent (fun _ => none) false
          RtmpConn.ptsExtractor.newDTSExtractor RtmpConn.sampleUnits).2 = none) :=
  have extractOk : ∀ e au pts, ∃ e' dts, RtmpConn.ptsExtractor.extract e au pts = (e', .ok dts) :=
    fun _ _ pts => ⟨(), pts, rfl⟩
  ⟨extractOk, fun _ => rfl, drain_forwards_from_randomAccess RtmpConn.ptsExtractor idrPresent _
    extractOk (fun _ => rfl) _⟩

/-- Every write of a track is the write of one of its units, at the ticks of its PTS and of a DTS
the extractor gave for it. -/
theorem drain_writes (received : Bool) (ext : Ext) (us : List H26xUnit) :
    ∀ w ∈ (drain lib randomAccess send received ext us).1, ∃ u ∈ us, ∃ e e' dts,
      lib.extract e u.au u.pts = (e', .ok dts) ∧ w.pts = durationGoToMPEGTS u.pts ∧
        w.dts = durationGoToMPEGTS dts := by
  induction us generalizing received ext with
  | nil => simp [drain]
  | cons u us ih =>
      intro w mem
      have tail : ∀ received ext, w ∈ (drain lib randomAccess send received ext us).1 →
          ∃ u' ∈ u :: us, ∃ e e' dts, lib.extract e u'.au u'.pts = (e', .ok dts) ∧
            w.pts = durationGoToMPEGTS u'.pts ∧ w.dts = durationGoToMPEGTS dts :=
        fun received ext mem => by
          obtain ⟨u', mem', rest⟩ := ih received ext w mem
          exact ⟨u', .tail _ mem', rest⟩
      rcases called : h26xCallback lib randomAccess received ext u with
        ⟨⟨received', ext'⟩, _ | w' | err⟩
      · simp only [drain, called] at mem
        exact tail received' ext' mem
      · obtain ⟨-, -, -, dts, extracted, rfl⟩ := h26xCallback_write lib randomAccess called
        simp only [drain, called] at mem
        split at mem
        · obtain rfl := List.mem_singleton.mp mem
          exact ⟨u, .head _, ext, ext', dts, extracted, rfl, rfl⟩
        · rcases List.mem_cons.mp mem with rfl | mem
          · exact ⟨u, .head _, ext, ext', dts, extracted, rfl, rfl⟩
          · exact tail received' ext' mem
      · simp [drain, called] at mem

/-- When the extractor gives `int64` DTSs at most their PTSs, every write of an SRT reader's track
carries a DTS tick count at most its PTS tick count. -/
theorem drain_dts_le_pts
    (ordered : ∀ e au pts e' dts, lib.extract e au pts = (e', .ok dts) →
      -2 ^ 63 ≤ dts ∧ dts ≤ pts)
    (received : Bool) (ext : Ext) {us : List H26xUnit} (int64 : ∀ u ∈ us, u.pts < 2 ^ 63) :
    ∀ w ∈ (drain lib randomAccess send received ext us).1, w.dts ≤ w.pts := by
  intro w mem
  obtain ⟨u, mem_u, e, e', dts, extracted, pts, dts_eq⟩ :=
    drain_writes lib randomAccess send received ext us w mem
  obtain ⟨lo, le⟩ := ordered e u.au u.pts e' dts extracted
  rw [pts, dts_eq]
  exact truncate_mono (Float64.toFloat64_mono (mul_le_mul_of_nonneg_right
    (Duration.seconds_mono lo le (int64 u mem_u).le) (by norm_num)))

/-- An extractor that takes the PTS for the DTS and fails outside the `int64` range. -/
theorem drain_dts_le_pts_int64 :
    let lib : DTSExtractorLib Unit :=
      ⟨(), fun _ _ pts => ((), if -2 ^ 63 ≤ pts then .ok pts else .error "out of range")⟩
    (∀ e au pts e' dts, lib.extract e au pts = (e', .ok dts) → -2 ^ 63 ≤ dts ∧ dts ≤ pts) ∧
      (∀ u ∈ RtmpConn.sampleUnits, u.pts < 2 ^ 63) ∧
      ∀ w ∈ (drain lib idrPresent (fun _ => none) false () RtmpConn.sampleUnits).1, w.dts ≤ w.pts := by
  intro lib
  have ordered : ∀ e au pts e' dts, lib.extract e au pts = (e', .ok dts) →
      -2 ^ 63 ≤ dts ∧ dts ≤ pts := by
    intro e au pts e' dts extracted
    by_cases inRange : -2 ^ 63 ≤ pts
    · simp only [lib, if_pos inRange, Prod.mk.injEq, Except.ok.injEq] at extracted
      exact extracted.2 ▸ ⟨inRange, le_rfl⟩
    · simp only [lib, if_neg inRange, Prod.mk.injEq] at extracted
      nomatch extracted.2
  have int64 : ∀ u ∈ RtmpConn.sampleUnits, u.pts < 2 ^ 63 := by decide
  exact ⟨ordered, int64, drain_dts_le_pts lib idrPresent _ ordered false () int64⟩

end Drain

theorem ne_nil_of_sliced {au : List (List UInt8)} (sliced : Sliced au) : au ≠ [] := by
  rintro rfl
  simp [Sliced, idrPresent, RtmpConn.nonIDRPresent] at sliced

/-- From the same H.264 units and with no extractor or write error, an RTMP reader receives what an
SRT reader receives less the access units without a slice. -/
theorem drain_rtmp_eq_filter_sliced {Ext : Type} (lib : DTSExtractorLib Ext)
    (extractOk : ∀ e au pts, ∃ e' dts, lib.extract e au pts = (e', .ok dts))
    (sendRtmp : RtmpConn.WriteH264 → Option String) (sendSrt : WriteH26x → Option String)
    (rtmpOk : ∀ w, sendRtmp w = none) (srtOk : ∀ w, sendSrt w = none) (us : List H26xUnit) :
    (RtmpConn.drain lib sendRtmp none us).1.map (·.au) =
      ((drain lib idrPresent sendSrt false lib.newDTSExtractor us).1.map (·.au)).filter Sliced := by
  induction us with
  | nil => rfl
  | cons u us ih =>
      by_cases idr : idrPresent u.au
      · have empty : u.au ≠ [] := ne_nil_of_sliced (by simp [Sliced, idr])
        obtain ⟨e', dts, extracted⟩ := extractOk lib.newDTSExtractor u.au u.pts
        have rtmp := RtmpConn.drain_some_of_ok lib sendRtmp extractOk rtmpOk e' us
        have srt := drain_received_of_ok lib idrPresent sendSrt extractOk srtOk e' us
        simp only [RtmpConn.drain, RtmpConn.videoCallback_none, if_pos idr,
          RtmpConn.extractAndWrite_of_ok lib extracted, rtmpOk, drain,
          h26xCallback_of_ok lib idrPresent empty (.inr idr) extracted, srtOk, List.map_cons,
          rtmp.1, srt.1, List.filter_filter]
        rw [List.filter_cons_of_pos (by simp [Sliced, idr]), List.filter_filter]
        congr 1
        exact List.filter_congr fun au _ => by
          cases sliced : Sliced au
          · rfl
          · simpa using ne_nil_of_sliced sliced
      · have skipped : u.au = [] ∨ false = false ∧ idrPresent u.au = false := by simp [idr]
        simp only [RtmpConn.drain, RtmpConn.videoCallback_none, if_neg idr, drain,
          h26xCallback_skip lib idrPresent skipped]
        exact ih

/-- On the units of an RTMP reader's sample, the access unit of a delimiter alone after the IDR is
the one an SRT reader receives and an RTMP reader does not. -/
theorem drain_rtmp_eq_filter_sliced_sampleUnits :
    (∀ e au pts, ∃ e' dts, RtmpConn.ptsExtractor.extract e au pts = (e', .ok dts)) ∧
      (∀ w : RtmpConn.WriteH264, (fun _ => none : RtmpConn.WriteH264 → Option String) w = none) ∧
      (∀ w : WriteH26x, (fun _ => none : WriteH26x → Option String) w = none) ∧
      (RtmpConn.drain RtmpConn.ptsExtractor (fun _ => none) none RtmpConn.sampleUnits).1.map
          (·.au) =
        ((drain RtmpConn.ptsExtractor idrPresent (fun _ => none) false
          RtmpConn.ptsExtractor.newDTSExtractor RtmpConn.sampleUnits).1.map (·.au)).filter
          Sliced :=
  have extractOk : ∀ e au pts, ∃ e' dts, RtmpConn.ptsExtractor.extract e au pts = (e', .ok dts) :=
    fun _ _ pts => ⟨(), pts, rfl⟩
  ⟨extractOk, fun _ => rfl, fun _ => rfl,
    drain_rtmp_eq_filter_sliced RtmpConn.ptsExtractor extractOk _ _ (fun _ => rfl) (fun _ => rfl) _⟩

example : (drain RtmpConn.ptsExtractor idrPresent (fun _ => none) false ()
    RtmpConn.sampleUnits).1.map (·.au) = [[[0x65, 0x88]], [[0x09, 0x10]], [[0x41, 0x9B]]] := by
  decide

end SrtConn
end RtspSimpleServer
