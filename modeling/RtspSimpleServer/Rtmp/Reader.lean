import RtspSimpleServer.FormatProcessor.H264

/-!
# The H.264 track of an RTMP reader

The callback writes nothing until an access unit with an IDR arrives, and from then on every access
unit with a slice, through the connection's async writer.  So the first access unit an RTMP reader
receives is a key frame, and after it none with a slice is dropped.
-/

namespace RtspSimpleServer
namespace RtmpConn

open FormatProcessor H264

/-- `h264.DTSExtractor`: created empty, it returns the DTS of each access unit it is given with
its PTS, or an error. -/
structure DTSExtractorLib (Ext : Type) where
  newDTSExtractor : Ext
  extract : Ext → List (List UInt8) → Int → Ext × Except String Int

/-- A `WriteH264(pts, dts, idrPresent, au)` call on the RTMP writer. -/
structure WriteH264 where
  pts : Int
  dts : Int
  idrPresent : Bool
  au : List (List UInt8)
  deriving DecidableEq, Repr

/-- What the closure of one unit does: nothing, a write, or an error that stops the writer. -/
inductive Outcome where
  | skip
  | write (w : WriteH264)
  | error (err : String)
  deriving DecidableEq, Repr

/-- The access unit has an IDR slice. -/
def idrPresent (au : List (List UInt8)) : Bool :=
  au.any fun nalu => naluType nalu = NALUTypeIDR

/-- The access unit has a non-IDR slice. -/
def nonIDRPresent (au : List (List UInt8)) : Bool :=
  au.any fun nalu => naluType nalu = NALUTypeNonIDR

variable {Ext : Type} (lib : DTSExtractorLib Ext)

/-- The DTS of an access unit and the write it makes, from the extractor that reads it. -/
def extractAndWrite (ext : Ext) (u : H26xUnit) : Option Ext × Outcome :=
  match lib.extract ext u.au u.pts with
  | (ext, .error err) => (some ext, .error err)
  | (ext, .ok dts) => (some ext, .write ⟨u.pts, dts, idrPresent u.au, u.au⟩)

/-- The closure `setupVideo` pushes for a unit, run with the callback's DTS extractor, which is
nil until an IDR arrives (a nil access unit is the empty one). -/
def videoCallback (videoDTSExtractor : Option Ext) (u : H26xUnit) : Option Ext × Outcome :=
  if u.au = [] then (videoDTSExtractor, .skip)
  else
    match videoDTSExtractor with
    | none =>
        if !idrPresent u.au then (none, .skip)
        else extractAndWrite lib lib.newDTSExtractor u
    | some ext =>
        if !idrPresent u.au && !nonIDRPresent u.au then (some ext, .skip)
        else extractAndWrite lib ext u

/-- The async writer running the closures of the units in order, each write handed to the
connection (`send` is the error it returns): the writes made and the error that stopped it. -/
def drain (send : WriteH264 → Option String) :
    Option Ext → List H26xUnit → List WriteH264 × Option String
  | _, [] => ([], none)
  | ext, u :: us =>
      match videoCallback lib ext u with
      | (_, .error err) => ([], some err)
      | (ext, .skip) => drain send ext us
      | (ext, .write w) =>
          match send w with
          | some err => ([w], some err)
          | none => (w :: (drain send ext us).1, (drain send ext us).2)

/-- An access unit the callback writes, with or without an extractor before: one with a slice. -/
def Sliced (au : List (List UInt8)) : Bool :=
  idrPresent au || nonIDRPresent au

/-- Without an extractor, a closure writes only an access unit with an IDR, with a new extractor. -/
theorem videoCallback_none (u : H26xUnit) :
    videoCallback lib none u =
      if idrPresent u.au then extractAndWrite lib lib.newDTSExtractor u else (none, .skip) := by
  unfold videoCallback
  by_cases empty : u.au = []
  · rw [if_pos empty, empty, if_neg (by decide)]
  · rw [if_neg empty]
    cases idrPresent u.au <;> rfl

/-- With an extractor, a closure writes every access unit with a slice. -/
theorem videoCallback_some (e : Ext) (u : H26xUnit) :
    videoCallback lib (some e) u =
      if Sliced u.au then extractAndWrite lib e u else (some e, .skip) := by
  unfold videoCallback Sliced
  by_cases empty : u.au = []
  · rw [if_pos empty, empty, if_neg (by decide)]
  · rw [if_neg empty]
    cases idrPresent u.au <;> cases nonIDRPresent u.au <;> rfl

theorem extractAndWrite_write {e : Ext} {ext' : Option Ext} {u : H26xUnit} {w : WriteH264}
    (wrote : extractAndWrite lib e u = (ext', .write w)) :
    w = ⟨u.pts, w.dts, idrPresent u.au, u.au⟩ ∧ ext'.isSome := by
  unfold extractAndWrite at wrote
  split at wrote
  · cases wrote
  · cases wrote
    exact ⟨rfl, rfl⟩

/-- A closure writes its own access unit, at its PTS, flagged with whether it has an IDR; it has a
slice, an IDR when there was no extractor yet, and afterwards the extractor exists. -/
theorem videoCallback_write {ext ext' : Option Ext} {u : H26xUnit} {w : WriteH264}
    (wrote : videoCallback lib ext u = (ext', .write w)) :
    w = ⟨u.pts, w.dts, idrPresent u.au, u.au⟩ ∧ Sliced u.au ∧
      (ext = none → idrPresent u.au) ∧ ext'.isSome := by
  cases ext with
  | none =>
      rw [videoCallback_none] at wrote
      split_ifs at wrote with idr
      · obtain ⟨shape, created⟩ := extractAndWrite_write lib wrote
        exact ⟨shape, by simp [Sliced, idr], fun _ => idr, created⟩
      · cases wrote
  | some e =>
      rw [videoCallback_some] at wrote
      split_ifs at wrote with sliced
      · obtain ⟨shape, created⟩ := extractAndWrite_write lib wrote
        exact ⟨shape, sliced, fun none_ => (Option.some_ne_none e none_).elim, created⟩
      · cases wrote

theorem extractAndWrite_of_ok {e e' : Ext} {u : H26xUnit} {dts : Int}
    (extracted : lib.extract e u.au u.pts = (e', .ok dts)) :
    extractAndWrite lib e u = (some e', .write ⟨u.pts, dts, idrPresent u.au, u.au⟩) := by
  rw [extractAndWrite, extracted]

section Drain

variable (send : WriteH264 → Option String)

/-- Every write comes from a unit, at its PTS and with its access unit, which has a slice. -/
theorem drain_writes (ext : Option Ext) (us : List H26xUnit) :
    ∀ w ∈ (drain lib send ext us).1, ∃ u ∈ us,
      w = ⟨u.pts, w.dts, idrPresent u.au, u.au⟩ ∧ Sliced u.au := by
  induction us generalizing ext with
  | nil => simp [drain]
  | cons u us ih =>
      intro w mem
      rcases called : videoCallback lib ext u with ⟨ext', _ | w' | err⟩
      · simp only [drain, called] at mem
        obtain ⟨u', mem', shape⟩ := ih ext' w mem
        exact ⟨u', .tail _ mem', shape⟩
      · obtain ⟨shape, sliced, -, -⟩ := videoCallback_write lib called
        simp only [drain, called] at mem
        split at mem
        · obtain rfl := List.mem_singleton.mp mem
          exact ⟨u, .head _, shape, sliced⟩
        · rcases List.mem_cons.mp mem with rfl | mem
          · exact ⟨u, .head _, shape, sliced⟩
          · obtain ⟨u', mem', shape'⟩ := ih ext' w mem
            exact ⟨u', .tail _ mem', shape'⟩
      · simp [drain, called] at mem

/-- The first write to an RTMP reader is an access unit with an IDR. -/
theorem drain_first_idr (us : List H26xUnit) :
    ∀ w ∈ (drain lib send none us).1.head?, w.idrPresent := by
  induction us with
  | nil => simp [drain]
  | cons u us ih =>
      intro w first
      by_cases idr : idrPresent u.au
      · rcases called : videoCallback lib none u with ⟨ext', _ | w' | err⟩
        · rw [videoCallback_none, if_pos idr] at called
          unfold extractAndWrite at called
          split at called <;> cases called
        · obtain ⟨shape, -, -, -⟩ := videoCallback_write lib called
          simp only [drain, called] at first
          have : w = w' := by split at first <;> simpa using first.symm
          rw [this, shape]
          exact idr
        · simp [drain, called] at first
      · rw [drain, videoCallback_none, if_neg idr] at first
        exact ih w first

/-- With an extractor and no error, every access unit with a slice is written, in order. -/
theorem drain_some_of_ok
    (extractOk : ∀ e au pts, ∃ e' dts, lib.extract e au pts = (e', .ok dts))
    (sendOk : ∀ w, send w = none) (e : Ext) (us : List H26xUnit) :
    (drain lib send (some e) us).1.map (·.au) = (us.map (·.au)).filter Sliced ∧
      (drain lib send (some e) us).2 = none := by
  induction us generalizing e with
  | nil => exact ⟨rfl, rfl⟩
  | cons u us ih =>
      by_cases sliced : Sliced u.au
      · obtain ⟨e', dts, extracted⟩ := extractOk e u.au u.pts
        simp only [drain, videoCallback_some, if_pos sliced, extractAndWrite_of_ok lib extracted,
          sendOk, List.map_cons, List.filter_cons_of_pos sliced]
        exact ⟨congrArg _ (ih e').1, (ih e').2⟩
      · simp only [drain, videoCallback_some, if_neg sliced, List.map_cons,
          List.filter_cons_of_neg sliced]
        exact ih e

/-- With no extractor or write error, an RTMP reader receives the access units from the first one
with an IDR on, less those without a slice, in order, and the writer never stops. -/
theorem drain_of_ok (extractOk : ∀ e au pts, ∃ e' dts, lib.extract e au pts = (e', .ok dts))
    (sendOk : ∀ w, send w = none) (us : List H26xUnit) :
    (drain lib send none us).1.map (·.au) =
        ((us.map (·.au)).dropWhile fun au => !idrPresent au).filter Sliced ∧
      (drain lib send none us).2 = none := by
  induction us with
  | nil => exact ⟨rfl, rfl⟩
  | cons u us ih =>
      by_cases idr : idrPresent u.au
      · obtain ⟨e', dts, extracted⟩ := extractOk lib.newDTSExtractor u.au u.pts
        have sliced : Sliced u.au := by simp [Sliced, idr]
        obtain ⟨aus, errs⟩ := drain_some_of_ok lib send extractOk sendOk e' us
        simp only [drain, videoCallback_none, if_pos idr, extractAndWrite_of_ok lib extracted,
          sendOk, List.map_cons,
          List.dropWhile_cons_of_neg (p := fun au => !idrPresent au) (a := u.au) (by simp [idr]),
          List.filter_cons_of_pos sliced]
        exact ⟨congrArg _ aus, errs⟩
      · simp only [drain, videoCallback_none, if_neg idr, List.map_cons,
          List.dropWhile_cons_of_pos (p := fun au => !idrPresent au) (a := u.au) (by simp [idr])]
        exact ih

/-- An extractor that takes the PTS for the DTS. -/
def ptsExtractor : DTSExtractorLib Unit :=
  ⟨(), fun _ _ pts => ((), .ok pts)⟩

/-- A non-IDR slice, an IDR, and an access unit of a delimiter alone, the first one before any
IDR. -/
def sampleUnits : List H26xUnit :=
  [⟨[], 0, [[0x41, 0x9A]]⟩, ⟨[], 1, [[0x65, 0x88]]⟩, ⟨[], 2, [[0x09, 0x10]]⟩,
    ⟨[], 3, [[0x41, 0x9B]]⟩]

theorem drain_of_ok_sampleUnits :
    (∀ e au pts, ∃ e' dts, ptsExtractor.extract e au pts = (e', .ok dts)) ∧
      (drain ptsExtractor (fun _ => none) none sampleUnits).1.map (·.au) =
        ((sampleUnits.map (·.au)).dropWhile fun au => !idrPresent au).filter Sliced ∧
      (drain ptsExtractor (fun _ => none) none sampleUnits).2 = none :=
  have extractOk : ∀ e au pts, ∃ e' dts, ptsExtractor.extract e au pts = (e', .ok dts) :=
    fun _ _ pts => ⟨(), pts, rfl⟩
  ⟨extractOk, drain_of_ok ptsExtractor (fun _ => none) extractOk (fun _ => rfl) sampleUnits⟩

example : (drain ptsExtractor (fun _ => none) none sampleUnits).1 =
    [⟨1, 1, true, [[0x65, 0x88]]⟩, ⟨3, 3, false, [[0x41, 0x9B]]⟩] := by
  decide

end Drain

end RtmpConn
end RtspSimpleServer
