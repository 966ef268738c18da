import RtspSimpleServer.Path.Readers

/-!
# An unused path born from a `~` entry closes at once

`run` checks `shouldClose` after ten of its select cases and skips the check after six.  None of
the six can make `shouldClose` true, since in every run a reader means a stream and a stream a
source; so a select case that leaves the path unused ends the loop with "not in use".
-/

namespace RtspSimpleServer
namespace Path

/-- `shouldClose` is false while the path has a source. -/
theorem shouldClose_of_source {pa : Path} (source : pa.source ≠ none) : pa.shouldClose = false := by
  simp [shouldClose, Option.isNone_iff_eq_none, source]

theorem checkShouldClose_of_shouldClose {pa : Path} (closing : pa.shouldClose = true) :
    pa.checkShouldClose = .exited pa "not in use" := by
  simp [checkShouldClose, closing]

@[simp] theorem shouldClose_emit (pa : Path) (output : Output) :
    (pa.emit output).shouldClose = pa.shouldClose := rfl

theorem sourceSetReady_source {pa next : Path} {streamErr : Option String}
    (ready : pa.sourceSetReady streamErr = .ok next) : next.source = pa.source := by
  cases streamErr with
  | some err => cases ready
  | none => cases ready; rfl

@[simp] theorem foldl_handleReaderAddPost_source (readers : List Nat) (pa : Path) :
    (readers.foldl handleReaderAddPost pa).source = pa.source := by
  induction readers generalizing pa with
  | nil => rfl
  | cons reader readers ih => simp [ih]

@[simp] theorem flushRequestsOnHold_source (pa : Path) : pa.flushRequestsOnHold.source = pa.source := by
  simp [flushRequestsOnHold]

theorem handleSourceStaticSetReady_source (pa : Path) (streamErr : Option String) :
    (pa.handleSourceStaticSetReady streamErr).source = pa.source := by
  simp only [handleSourceStaticSetReady]
  split
  · rfl
  · rename_i next ready
    split_ifs <;> simp [sourceSetReady_source ready]

theorem handlePublisherStart_source (pa : Path) (author : Nat) (streamErr : Option String) :
    (pa.handlePublisherStart author streamErr).source = pa.source := by
  simp only [handlePublisherStart]
  split_ifs
  · rfl
  · split
    · rfl
    · rename_i next ready
      split_ifs <;> simp [sourceSetReady_source ready]

/-! ## A reader means a stream, a stream means a source -/

/-- A reader means a stream and a stream means a source. -/
structure SourceChain (pa : Path) : Prop where
  source_of_stream : pa.stream ≠ none → pa.source ≠ none
  stream_of_readers : pa.readers ≠ [] → pa.stream ≠ none

namespace SourceChain

variable {pa : Path}

theorem of_eq {next : Path} (chain : SourceChain pa) (source : next.source = pa.source)
    (stream : next.stream = pa.stream) (readers : next.readers = pa.readers) : SourceChain next :=
  ⟨by rw [source, stream]; exact chain.source_of_stream,
    by rw [readers, stream]; exact chain.stream_of_readers⟩

theorem frame {next : Path} (chain : SourceChain pa) (frame : Frame pa next) : SourceChain next :=
  chain.of_eq frame.source frame.stream frame.readers

theorem source_of_readers (chain : SourceChain pa) (readers : pa.readers ≠ []) : pa.source ≠ none :=
  chain.source_of_stream (chain.stream_of_readers readers)

theorem setSource (chain : SourceChain pa) (source : Source) :
    SourceChain { pa with source := some source } :=
  ⟨fun _ => Option.some_ne_none source, chain.stream_of_readers⟩

theorem sourceSetNotReady (pa : Path) : SourceChain pa.sourceSetNotReady := ⟨by simp, by simp⟩

theorem doPublisherRemove (chain : SourceChain pa) : SourceChain pa.doPublisherRemove where
  source_of_stream := by simp
  stream_of_readers := by
    unfold Path.doPublisherRemove
    split_ifs with some_
    · simp
    · simpa [Option.not_isSome_iff_eq_none.mp some_] using chain.stream_of_readers

theorem closeSource (chain : SourceChain pa) : SourceChain pa.closeSource := by
  unfold Path.closeSource
  split
  · rename_i source _
    exact (chain.frame (frame_emit pa (.sourceClose source) fun _ _ => rfl)).doPublisherRemove
  · exact chain

theorem onDemandPublisherStop (chain : SourceChain pa) : SourceChain pa.onDemandPublisherStop :=
  chain.closeSource.of_eq rfl rfl rfl

theorem handleReaderAddPost (chain : SourceChain pa) (some_ : pa.stream ≠ none) (reader : Nat) :
    SourceChain (pa.handleReaderAddPost reader) :=
  ⟨by simpa using chain.source_of_stream, fun _ => by simpa using some_⟩

theorem foldl_handleReaderAddPost (chain : SourceChain pa) (some_ : pa.stream ≠ none)
    (readers : List Nat) : SourceChain (readers.foldl Path.handleReaderAddPost pa) := by
  induction readers generalizing pa with
  | nil => exact chain
  | cons reader readers ih => exact ih (chain.handleReaderAddPost some_ reader) (by simpa using some_)

theorem flushRequestsOnHold (chain : SourceChain pa) (some_ : pa.stream ≠ none) :
    SourceChain pa.flushRequestsOnHold := by
  simp only [Path.flushRequestsOnHold]
  refine (foldl_handleReaderAddPost ?_ ?_ _).of_eq rfl rfl rfl
  · exact chain.of_eq rfl rfl rfl
  · exact some_

/-- A new stream from a source, and the parked requests answered with it when the variant is
on demand. -/
theorem sourceReady (source : pa.source ≠ none) {next : Path}
    {streamErr : Option String} (ready : pa.sourceSetReady streamErr = .ok next)
    (onDemand : Prop) [Decidable onDemand] (set : Path → Path) (frame : ∀ pa, Frame pa (set pa)) :
    SourceChain (if onDemand then (set next).flushRequestsOnHold else next) := by
  have stream : next.stream ≠ none := by simp [sourceSetReady_stream ready]
  have readyChain : SourceChain next :=
    ⟨fun _ => by rwa [sourceSetReady_source ready], fun _ => stream⟩
  split_ifs
  · exact (readyChain.frame (frame next)).flushRequestsOnHold (by rwa [(frame next).stream])
  · exact readyChain

theorem start {confName : String} {conf : PathConf} {name : String} :
    SourceChain (newPath confName conf name).start :=
  ⟨StreamInvariant.start.source_of_stream, StreamInvariant.start.stream_of_readers⟩

/-! ## The select cases -/

theorem handleSourceStaticSetReady (chain : SourceChain pa) (source : pa.source ≠ none)
    (streamErr : Option String) : SourceChain (pa.handleSourceStaticSetReady streamErr) := by
  simp only [Path.handleSourceStaticSetReady]
  split
  · exact chain.frame (frame_emit _ _ fun _ _ => rfl)
  · rename_i next ready
    exact (sourceReady source ready _ _ fun pa => frame_setStaticSource pa _).frame
      (frame_emit _ _ fun _ _ => rfl)

theorem handleDescribe (chain : SourceChain pa) (req : DescribeReq) :
    SourceChain (pa.handleDescribe req) :=
  chain.frame (frame_handleDescribe pa req)

theorem handleReaderAdd (chain : SourceChain pa) (reader : Nat) :
    SourceChain (pa.handleReaderAdd reader) := by
  rcases handleReaderAdd_cases pa reader with ⟨ready, added⟩ | frame
  · exact added ▸ chain.handleReaderAddPost ready reader
  · exact chain.frame frame

theorem handleReaderRemove (chain : SourceChain pa) (reader : Nat) :
    SourceChain (pa.handleReaderRemove reader) := by
  have removed : SourceChain ((pa.doReaderRemove reader).emit (.readerRemoveRes reader)) :=
    ⟨by simpa using chain.source_of_stream,
      fun nonempty => by simpa using chain.stream_of_readers fun empty => nonempty (by simp [empty])⟩
  simp only [Path.handleReaderRemove, ite_mem_doReaderRemove]
  split_ifs <;> exact removed.of_eq rfl rfl rfl

theorem handlePublisherAdd (chain : SourceChain pa) (author : Nat) :
    SourceChain (pa.handlePublisherAdd author) := by
  simp only [Path.handlePublisherAdd]
  split_ifs
  · exact chain.frame (frame_emit _ _ fun _ _ => rfl)
  all_goals split
  · exact chain.frame (frame_emit _ _ fun _ _ => rfl)
  · exact (chain.setSource _).frame (frame_emit _ _ fun _ _ => rfl)
  · exact ((chain.frame (frame_emit _ (.sourceClose _) fun _ _ => rfl)).doPublisherRemove.setSource _).frame
      (frame_emit _ _ fun _ _ => rfl)
  · exact (chain.setSource _).frame (frame_emit _ _ fun _ _ => rfl)

theorem handlePublisherStart (chain : SourceChain pa) (author : Nat) (streamErr : Option String) :
    SourceChain (pa.handlePublisherStart author streamErr) := by
  simp only [Path.handlePublisherStart]
  split_ifs with other
  · exact chain.frame (frame_emit _ _ fun _ _ => rfl)
  · split
    · exact chain.frame (frame_emit _ _ fun _ _ => rfl)
    · rename_i next ready
      exact (sourceReady (by simp [not_not.mp other]) ready _ _
        fun pa => frame_setPublisher pa _).frame (frame_emit _ _ fun _ _ => rfl)

/-- One select case keeps the chain, whatever the order of events. -/
theorem step (chain : SourceChain pa) (shape : ShapeInvariant pa) {event : Event}
    (enabled : pa.Enabled event) : SourceChain (pa.step event).path := by
  cases event <;> simp only [Path.step, checkShouldClose_path, Next.path_running, Next.path_exited]
  case onDemandStaticSourceReadyTimer =>
    exact chain.frame (((frame_setStaticSource _ _).trans (frame_failRequestsOnHold _)).trans
      (frame_onDemandStaticSourceStop _))
  case onDemandStaticSourceCloseTimer => exact (sourceSetNotReady _).frame (frame_onDemandStaticSourceStop _)
  case onDemandPublisherReadyTimer =>
    exact (chain.frame ((frame_setPublisher _ _).trans (frame_failRequestsOnHold _))).onDemandPublisherStop
  case onDemandPublisherCloseTimer => exact (chain.frame (frame_setPublisher _ _)).onDemandPublisherStop
  case reloadConf newConf => exact chain.frame (frame_reloadConf _ _)
  case sourceStaticSetReady streamErr =>
    exact chain.handleSourceStaticSetReady (by simp [shape.static_source enabled]) streamErr
  case sourceStaticSetNotReady =>
    simp only [Path.handleSourceStaticSetNotReady]
    split_ifs
    · exact ((sourceSetNotReady _).frame (frame_emit _ .sourceStaticSetNotReadyRes fun _ _ => rfl)).frame
        (frame_onDemandStaticSourceStop _)
    · exact (sourceSetNotReady _).frame (frame_emit _ .sourceStaticSetNotReadyRes fun _ _ => rfl)
  case describe req => exact chain.handleDescribe req
  case publisherRemove author =>
    simp only [Path.handlePublisherRemove]
    refine SourceChain.frame ?_ (frame_emit _ _ fun _ _ => rfl)
    split_ifs
    · exact chain.doPublisherRemove
    · exact chain
  case publisherAdd author => exact chain.handlePublisherAdd author
  case publisherStart author streamErr => exact chain.handlePublisherStart author streamErr
  case publisherStop author =>
    simp only [Path.handlePublisherStop]
    refine SourceChain.frame ?_ (frame_emit _ _ fun _ _ => rfl)
    split_ifs
    · exact sourceSetNotReady _
    · exact chain
  case readerAdd author => exact chain.handleReaderAdd author
  case readerRemove author => exact chain.handleReaderRemove author
  case apiPathsGet => exact chain.frame (frame_emit _ _ fun _ _ => rfl)
  case terminate => exact chain

end SourceChain

/-- Every state of every run has the chain. -/
theorem Run.sourceChain {allowed : Path → Event → Prop} {pa : Path} (run : Run allowed pa) :
    SourceChain pa := by
  induction run with
  | start => exact SourceChain.start
  | step _ run enabled _ stepped ih => simpa [stepped] using ih.step run.shapeInvariant enabled

/-! ## The six select cases without a check -/

section unchecked

variable {pa : Path}

/-- A reload that the path manager delivers keeps `Regexp`. -/
theorem reloadConf_regexp {newConf : PathConf} (enabled : pa.Enabled (.reloadConf newConf)) :
    newConf.regexp = pa.conf.regexp :=
  (sameOutsideCamera_of_canBeUpdated enabled).regexp

theorem shouldClose_reloadConf {newConf : PathConf} (enabled : pa.Enabled (.reloadConf newConf)) :
    (pa.reloadConf newConf).shouldClose = pa.shouldClose := by
  simp [shouldClose, reloadConf_regexp enabled]

theorem shouldClose_handlePublisherAdd (open_ : pa.shouldClose = false) (author : Nat) :
    (pa.handlePublisherAdd author).shouldClose = false := by
  simp only [handlePublisherAdd]
  split_ifs
  · simpa using open_
  all_goals split
  · simpa using open_
  all_goals exact shouldClose_of_source (by simp)

theorem shouldClose_handlePublisherStart (open_ : pa.shouldClose = false) (author : Nat)
    (streamErr : Option String) : (pa.handlePublisherStart author streamErr).shouldClose = false := by
  by_cases none_ : pa.source = none
  · simpa [handlePublisherStart, none_] using open_
  · exact shouldClose_of_source (by rwa [handlePublisherStart_source])

/-- Removing a reader leaves a source behind, unless there was no reader to remove. -/
theorem shouldClose_handleReaderRemove (chain : SourceChain pa) (open_ : pa.shouldClose = false)
    (author : Nat) : (pa.handleReaderRemove author).shouldClose = false := by
  have same : (pa.handleReaderRemove author).shouldClose = (pa.doReaderRemove author).shouldClose := by
    simp only [handleReaderRemove, ite_mem_doReaderRemove]
    split_ifs <;> rfl
  rw [same]
  by_cases empty : pa.readers = []
  · simpa [shouldClose, empty] using open_
  · exact shouldClose_of_source (chain.source_of_readers empty)

end unchecked

/-- A select case that leaves the path unused makes `run` return "not in use": the cases that
check `shouldClose` return as soon as it holds, and the others cannot make it hold. -/
theorem step_exits_of_shouldClose {pa : Path} (chain : SourceChain pa) (shape : ShapeInvariant pa)
    {event : Event} (enabled : pa.Enabled event) (open_ : pa.shouldClose = false)
    (closing : (pa.step event).path.shouldClose = true) :
    pa.step event = .exited (pa.step event).path "not in use" := by
  cases event <;> simp only [Path.step, checkShouldClose_path, Next.path_running, Next.path_exited] at closing ⊢
  all_goals first | exact checkShouldClose_of_shouldClose closing | exfalso
  case reloadConf newConf => simp [shouldClose_reloadConf enabled, open_] at closing
  case sourceStaticSetReady streamErr =>
    have source : (pa.handleSourceStaticSetReady streamErr).source ≠ none := by
      simp [handleSourceStaticSetReady_source, shape.static_source enabled]
    simp [shouldClose_of_source source] at closing
  case publisherAdd author => simp [shouldClose_handlePublisherAdd open_] at closing
  case publisherStart author streamErr => simp [shouldClose_handlePublisherStart open_] at closing
  case readerRemove author => simp [shouldClose_handleReaderRemove chain open_] at closing
  case apiPathsGet => simp [handleAPIPathsGet, open_] at closing
  case terminate => simp [open_] at closing

/-- In every state of every run a reader means a stream and a stream means a source, a reload
the path manager delivers keeps `Regexp`, and a select case that leaves the path unused ends the
loop with "not in use". -/
theorem run_unused_path_exits {allowed : Path → Event → Prop} {pa : Path} (run : Run allowed pa) :
    (pa.readers ≠ [] → pa.stream ≠ none) ∧ (pa.stream ≠ none → pa.source ≠ none) ∧
      (∀ newConf, pa.Enabled (.reloadConf newConf) → newConf.regexp = pa.conf.regexp) ∧
      ∀ event, pa.Enabled event → pa.shouldClose = false → (pa.step event).path.shouldClose = true →
        pa.step event = .exited (pa.step event).path "not in use" :=
  ⟨run.sourceChain.stream_of_readers, run.sourceChain.source_of_stream, fun _ => reloadConf_regexp,
    fun _ enabled open_ closing =>
      step_exits_of_shouldClose run.sourceChain run.shapeInvariant enabled open_ closing⟩

/-- A path born from `~^cam.*$` for `cam1` closes when its only publisher leaves. -/
theorem run_unused_path_exits_publisherRemove :
    (((newPath "~^cam.*$" { PathConf.ofSource .publisher false "" (fun _ => rfl) with
        regexp := some "^cam.*$" } "cam1").start.handlePublisherAdd 1).step (.publisherRemove 1)) =
      .exited (((newPath "~^cam.*$" { PathConf.ofSource .publisher false "" (fun _ => rfl) with
        regexp := some "^cam.*$" } "cam1").start.handlePublisherAdd 1).step (.publisherRemove 1)).path
        "not in use" :=
  (run_unused_path_exits ((Run.start _ _ _ : Run anyOrder _).step (.publisherAdd 1) trivial trivial rfl)).2.2.2
    (.publisherRemove 1) trivial rfl rfl

end Path
end RtspSimpleServer
