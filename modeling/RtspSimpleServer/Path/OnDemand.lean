import RtspSimpleServer.Path.Readers

/-!
# The on-demand state machines and their timers

For each on-demand variant a configuration enables, `OnDemand.Invariant` ties its state to its two
timers, the readers and the stream.  It holds in every state of every run in which no source
announces itself ready while its stream exists, and a static source reports not-ready only while
that stream exists.
-/

namespace RtspSimpleServer
namespace OnDemand

/-- The timers and the state of an enabled on-demand variant agree with each other, with the
path's readers and with its stream. -/
structure Invariant (od : OnDemand) (readers : List Nat) (stream : Option Nat) : Prop where
  closeTimer_iff : od.closeTimer = true ↔ od.state = .closing
  readyTimer_iff : od.readyTimer = true ↔ od.state = .waitingReady
  readers_of_closing : od.state = .closing → readers = []
  state_of_stream : stream ≠ none → od.state = .ready ∨ od.state = .closing

variable {od : OnDemand} {readers : List Nat} {stream : Option Nat}

theorem idle_invariant (readers : List Nat) : Invariant idle readers none :=
  ⟨by simp [idle], by simp [idle], by simp [idle], by simp⟩

/-- `onDemand*Stop`: back to `initial` with the close timer disarmed, once the ready timer is
disarmed and the stream is gone. -/
theorem stop_invariant (closing : od.closeTimer = true → od.state = .closing)
    (disarmed : od.readyTimer = false) (none_ : stream = none) : Invariant od.stop readers stream where
  closeTimer_iff := by
    simp only [stop_closeTimer, stop_state, reduceCtorEq, iff_false]
    split_ifs with current
    · exact not_false
    · exact fun armed => current (closing armed)
  readyTimer_iff := by simp [disarmed]
  readers_of_closing := by simp
  state_of_stream := by simp [none_]

/-- The source became ready with no reader yet. -/
theorem sourceReady_invariant (stream : Option Nat) : Invariant od.sourceReady [] stream :=
  ⟨by simp, by simp, fun _ => rfl, by simp⟩

namespace Invariant

/-- Outside `waitingReady` the ready timer is disarmed. -/
theorem readyTimer_eq_false (inv : Invariant od readers stream) (waiting : od.state ≠ .waitingReady) :
    od.readyTimer = false := by
  simpa [waiting] using inv.readyTimer_iff

/-- An armed ready timer means there is no stream. -/
theorem stream_of_readyTimer (inv : Invariant od readers stream) (armed : od.readyTimer = true) :
    stream = none := by
  by_contra some_
  rcases inv.state_of_stream some_ with ready | closing <;>
    simp_all [inv.readyTimer_iff.mp armed]

/-- With a stream the ready timer is disarmed. -/
theorem readyTimer_of_stream (inv : Invariant od readers stream) (some_ : stream ≠ none) :
    od.readyTimer = false := by
  simpa using mt inv.stream_of_readyTimer some_

/-- An armed close timer means there is no reader. -/
theorem readers_of_closeTimer (inv : Invariant od readers stream) (armed : od.closeTimer = true) :
    readers = [] :=
  inv.readers_of_closing (inv.closeTimer_iff.mp armed)

/-- Readers removed, the stream kept. -/
theorem subset (inv : Invariant od readers stream) {fewer : List Nat} (sub : fewer ⊆ readers) :
    Invariant od fewer stream :=
  { inv with
    readers_of_closing := fun closing => List.eq_nil_of_subset_nil
      (inv.readers_of_closing closing ▸ sub) }

/-- The stream and all its readers gone. -/
theorem notReady (inv : Invariant od readers stream) : Invariant od [] none :=
  { inv with readers_of_closing := fun _ => rfl, state_of_stream := fun some_ => absurd rfl some_ }

/-- `onDemand*Start`, taken in `initial` while there is no stream. -/
theorem start (inv : Invariant od readers stream) (initial : od.state = .initial)
    (none_ : stream = none) : Invariant od.start readers stream where
  closeTimer_iff := by simpa [initial] using inv.closeTimer_iff
  readyTimer_iff := by simp
  readers_of_closing := by simp
  state_of_stream := by simp [none_]

/-- `handleReaderAddPost`: a new reader of an existing stream cancels a scheduled close. -/
theorem readerAdded (inv : Invariant od readers stream) (some_ : stream ≠ none) (reader : Nat) :
    Invariant od.readerAdded (readers.insert reader) stream := by
  have ready := inv.state_of_stream some_
  have disarmed := inv.readyTimer_of_stream some_
  unfold OnDemand.readerAdded
  split_ifs with closing
  · exact ⟨by simp, by simp [disarmed], by simp, by simp⟩
  · have notClosing : od.closeTimer = false := by simpa [closing] using inv.closeTimer_iff
    exact ⟨by simp [notClosing, closing], inv.readyTimer_iff,
      fun closing' => absurd closing' closing, fun _ => ready⟩

/-- `handleReaderRemove` once no reader is left: a ready variant schedules its close. -/
theorem readersGone (inv : Invariant od [] stream) : Invariant od.readersGone [] stream := by
  unfold OnDemand.readersGone
  split_ifs with ready
  · have disarmed := inv.readyTimer_eq_false (by simp [ready])
    exact ⟨by simp, by simp [disarmed], fun _ => rfl, by simp⟩
  · exact inv

end Invariant

end OnDemand
namespace Path

/-- Each on-demand variant the configuration enables satisfies `OnDemand.Invariant`. -/
structure OnDemandInvariant (pa : Path) : Prop where
  staticSource : pa.conf.HasOnDemandStaticSource = true →
    pa.onDemandStaticSource.Invariant pa.readers pa.stream
  publisher : pa.conf.HasOnDemandPublisher = true →
    pa.onDemandPublisher.Invariant pa.readers pa.stream

/-- A change that keeps what `OnDemandInvariant` reads. -/
structure OnDemandFrame (pa next : Path) : Prop where
  conf : next.conf = pa.conf
  readers : next.readers = pa.readers
  stream : next.stream = pa.stream
  staticSource : next.onDemandStaticSource = pa.onDemandStaticSource
  publisher : next.onDemandPublisher = pa.onDemandPublisher

namespace OnDemandFrame

variable {pa mid next : Path}

theorem trans (first : OnDemandFrame pa mid) (second : OnDemandFrame mid next) :
    OnDemandFrame pa next :=
  ⟨second.1.trans first.1, second.2.trans first.2, second.3.trans first.3, second.4.trans first.4,
    second.5.trans first.5⟩

theorem emit (pa : Path) (output : Output) : OnDemandFrame pa (pa.emit output) := ⟨rfl, rfl, rfl, rfl, rfl⟩

theorem park (pa : Path) (describes : List DescribeReq) (readerAdds : List Nat) :
    OnDemandFrame pa
      { pa with describeRequestsOnHold := describes, readerAddRequestsOnHold := readerAdds } :=
  ⟨rfl, rfl, rfl, rfl, rfl⟩

theorem setSource (pa : Path) (source : Option Source) :
    OnDemandFrame pa { pa with source := source } := ⟨rfl, rfl, rfl, rfl, rfl⟩

theorem failRequestsOnHold (pa : Path) : OnDemandFrame pa pa.failRequestsOnHold :=
  ⟨rfl, rfl, rfl, rfl, rfl⟩

end OnDemandFrame

namespace OnDemandInvariant

variable {pa next : Path}

theorem frame (inv : OnDemandInvariant pa) (frame : OnDemandFrame pa next) : OnDemandInvariant next := by
  refine ⟨fun onDemand => ?_, fun onDemand => ?_⟩ <;>
    rw [frame.conf] at onDemand <;> rw [frame.readers, frame.stream]
  · rw [frame.staticSource]; exact inv.staticSource onDemand
  · rw [frame.publisher]; exact inv.publisher onDemand

/-- A path whose configuration enables neither variant. -/
theorem of_off (staticOff : pa.conf.HasOnDemandStaticSource = false)
    (publisherOff : pa.conf.HasOnDemandPublisher = false) : OnDemandInvariant pa :=
  ⟨fun onDemand => by simp_all, fun onDemand => by simp_all⟩

/-- A path with an on-demand static source, whose variant satisfies the invariant. -/
theorem of_staticSource (onDemand : pa.conf.HasOnDemandStaticSource = true)
    (inv : pa.onDemandStaticSource.Invariant pa.readers pa.stream) : OnDemandInvariant pa :=
  ⟨fun _ => inv, fun publisher => by
    simp [PathConf.not_hasOnDemandStaticSource_of_publisher publisher] at onDemand⟩

/-- A path with an on-demand publisher, whose variant satisfies the invariant. -/
theorem of_publisher (onDemand : pa.conf.HasOnDemandPublisher = true)
    (inv : pa.onDemandPublisher.Invariant pa.readers pa.stream) : OnDemandInvariant pa :=
  ⟨fun staticSource => by
    simp [PathConf.not_hasOnDemandStaticSource_of_publisher onDemand] at staticSource, fun _ => inv⟩

theorem start {confName : String} {conf : PathConf} {name : String} :
    OnDemandInvariant (newPath confName conf name).start := by
  have idle : OnDemandInvariant (newPath confName conf name) :=
    ⟨fun _ => OnDemand.idle_invariant [], fun _ => OnDemand.idle_invariant []⟩
  simp only [Path.start]
  split
  · exact idle.frame (.setSource _ _)
  · split_ifs
    · exact idle.frame (.setSource _ _)
    · exact idle.frame ((OnDemandFrame.setSource _ _).trans (.emit _ _))
  · exact idle

theorem sourceSetNotReady (inv : OnDemandInvariant pa) : OnDemandInvariant pa.sourceSetNotReady :=
  ⟨fun onDemand => (inv.staticSource onDemand).notReady,
    fun onDemand => (inv.publisher onDemand).notReady⟩

theorem doPublisherRemove (inv : OnDemandInvariant pa) : OnDemandInvariant pa.doPublisherRemove := by
  unfold Path.doPublisherRemove
  split_ifs
  · exact inv.sourceSetNotReady.frame (.setSource _ _)
  · exact inv.frame (.setSource _ _)

theorem closeSource (inv : OnDemandInvariant pa) : OnDemandInvariant pa.closeSource := by
  unfold Path.closeSource
  split
  · exact (inv.frame (.emit _ _)).doPublisherRemove
  · exact inv

/-- `onDemandPublisherStop`, when the close timer is armed only in `closing` and the ready timer
is disarmed. -/
theorem onDemandPublisherStop (streams : StreamInvariant pa)
    (onDemand : pa.conf.HasOnDemandPublisher = true)
    (closing : pa.onDemandPublisher.closeTimer = true → pa.onDemandPublisher.state = .closing)
    (disarmed : pa.onDemandPublisher.readyTimer = false) :
    OnDemandInvariant pa.onDemandPublisherStop := by
  refine of_publisher (by simpa [Path.onDemandPublisherStop] using onDemand) ?_
  have gone : pa.closeSource.stream = none := by
    unfold Path.closeSource
    split
    · simp
    · rename_i none_
      by_contra some_
      exact streams.source_of_stream some_ none_
  exact OnDemand.stop_invariant (by simpa using closing) (by simpa using disarmed) gone

theorem handleReaderAddPost (inv : OnDemandInvariant pa) (some_ : pa.stream ≠ none) (reader : Nat) :
    OnDemandInvariant (pa.handleReaderAddPost reader) := by
  by_cases staticSource : pa.conf.HasOnDemandStaticSource = true
  · refine of_staticSource (by simpa using staticSource) ?_
    simpa [handleReaderAddPost_onDemandStaticSource, staticSource] using
      (inv.staticSource staticSource).readerAdded some_ reader
  · by_cases publisher : pa.conf.HasOnDemandPublisher = true
    · refine of_publisher (by simpa using publisher) ?_
      simpa [handleReaderAddPost_onDemandPublisher, staticSource, publisher] using
        (inv.publisher publisher).readerAdded some_ reader
    · exact of_off (by simpa using staticSource) (by simpa using publisher)

theorem flushRequestsOnHold (inv : OnDemandInvariant pa) (some_ : pa.stream ≠ none) :
    OnDemandInvariant pa.flushRequestsOnHold := by
  have fold : ∀ (readers : List Nat) (pa : Path), OnDemandInvariant pa → pa.stream ≠ none →
      OnDemandInvariant (readers.foldl Path.handleReaderAddPost pa) := by
    intro readers
    induction readers with
    | nil => exact fun _ inv _ => inv
    | cons reader readers ih =>
        exact fun pa inv some_ => ih _ (inv.handleReaderAddPost some_ reader) (by simpa using some_)
  have described := fold pa.readerAddRequestsOnHold
    { pa with
      describeRequestsOnHold := []
      out := pa.out ++ pa.describeRequestsOnHold.map fun (req : DescribeReq) =>
        Output.describeRes req.id (.stream pa.stream) } (inv.frame ⟨rfl, rfl, rfl, rfl, rfl⟩) some_
  exact described.frame ⟨rfl, rfl, rfl, rfl, rfl⟩

theorem handleSourceStaticSetReady (inv : OnDemandInvariant pa) (streams : StreamInvariant pa)
    (static : pa.conf.HasStaticSource = true) (none_ : pa.stream = none) (streamErr : Option String) :
    OnDemandInvariant (pa.handleSourceStaticSetReady streamErr) := by
  have publisherOff : pa.conf.HasOnDemandPublisher = false := by
    by_contra publisher
    simp [PathConf.not_hasStaticSource_of_publisher (by simpa using publisher)] at static
  have empty := streams.readers_eq_nil none_
  simp only [Path.handleSourceStaticSetReady]
  split
  · exact inv.frame (.emit _ _)
  · rename_i next ready
    refine OnDemandInvariant.frame ?_ (.emit _ _)
    cases streamErr with
    | some err => cases ready
    | none =>
        cases ready
        by_cases staticSource : pa.conf.HasOnDemandStaticSource = true
        · rw [if_pos staticSource]
          refine OnDemandInvariant.flushRequestsOnHold ?_ (by simp)
          exact of_staticSource staticSource (by simpa [empty] using OnDemand.sourceReady_invariant _)
        · rw [if_neg staticSource]
          exact of_off (by simpa using staticSource) publisherOff

/-- A static source's not-ready, while the stream of its ready exists. -/
theorem handleSourceStaticSetNotReady (inv : OnDemandInvariant pa) (some_ : pa.stream ≠ none) :
    OnDemandInvariant pa.handleSourceStaticSetNotReady := by
  have notReady := inv.sourceSetNotReady.frame (.emit _ .sourceStaticSetNotReadyRes)
  simp only [Path.handleSourceStaticSetNotReady]
  split_ifs with stopping
  · have staticSource : pa.conf.HasOnDemandStaticSource = true := by simp_all
    exact of_staticSource staticSource
      (OnDemand.stop_invariant (inv.staticSource staticSource).closeTimer_iff.mp
        ((inv.staticSource staticSource).readyTimer_of_stream some_) rfl)
  · exact notReady

theorem handleDescribe (inv : OnDemandInvariant pa) (req : DescribeReq) :
    OnDemandInvariant (pa.handleDescribe req) := by
  unfold Path.handleDescribe
  split
  · exact inv.frame (.emit _ _)
  split
  · exact inv.frame (.emit _ _)
  next ready =>
    split
    next staticSource =>
      split
      next initial =>
        exact of_staticSource staticSource
          ((inv.staticSource staticSource).start initial (by simpa using ready))
      · exact inv.frame (.park _ _ _)
    split
    next publisher =>
      split
      next initial =>
        exact of_publisher publisher ((inv.publisher publisher).start initial (by simpa using ready))
      · exact inv.frame (.park _ _ _)
    split <;> exact inv.frame (.emit _ _)

theorem handleReaderAdd (inv : OnDemandInvariant pa) (reader : Nat) :
    OnDemandInvariant (pa.handleReaderAdd reader) := by
  simp only [Path.handleReaderAdd]
  split_ifs with ready staticSource initial publisher initial
  · exact inv.handleReaderAddPost (Option.isSome_iff_ne_none.mp ready) reader
  · refine of_staticSource staticSource ?_
    exact (inv.staticSource staticSource).start initial (by simpa using ready)
  · exact inv.frame (.park _ _ _)
  · refine of_publisher publisher ?_
    exact (inv.publisher publisher).start initial (by simpa using ready)
  · exact inv.frame (.park _ _ _)
  · exact inv.frame (.emit _ _)

theorem handleReaderRemove (inv : OnDemandInvariant pa) (reader : Nat) :
    OnDemandInvariant (pa.handleReaderRemove reader) := by
  have removed : OnDemandInvariant ((pa.doReaderRemove reader).emit (.readerRemoveRes reader)) :=
    ⟨fun onDemand => (inv.staticSource onDemand).subset (List.filter_sublist _).subset,
      fun onDemand => (inv.publisher onDemand).subset (List.filter_sublist _).subset⟩
  simp only [Path.handleReaderRemove, ite_mem_doReaderRemove]
  generalize (pa.doReaderRemove reader).emit (.readerRemoveRes reader) = removedPath at removed ⊢
  split_ifs with empty staticSource publisher
  · have empty : removedPath.readers = [] := by simpa using empty
    refine of_staticSource staticSource ?_
    exact (empty ▸ removed.staticSource staticSource).readersGone.subset (by simp [empty])
  · have empty : removedPath.readers = [] := by simpa using empty
    refine of_publisher publisher ?_
    exact (empty ▸ removed.publisher publisher).readersGone.subset (by simp [empty])
  · exact removed
  · exact removed

theorem handlePublisherRemove (inv : OnDemandInvariant pa) (author : Nat) :
    OnDemandInvariant (pa.handlePublisherRemove author) := by
  simp only [Path.handlePublisherRemove]
  refine OnDemandInvariant.frame ?_ (.emit _ _)
  split_ifs
  · exact inv.doPublisherRemove
  · exact inv

theorem handlePublisherAdd (inv : OnDemandInvariant pa) (author : Nat) :
    OnDemandInvariant (pa.handlePublisherAdd author) := by
  simp only [Path.handlePublisherAdd]
  split_ifs
  · exact inv.frame (.emit _ _)
  all_goals split
  · exact inv.frame (.emit _ _)
  · exact inv.frame ((OnDemandFrame.setSource _ _).trans (.emit _ _))
  · exact (inv.frame (.emit _ (.sourceClose _))).doPublisherRemove.frame
      ((OnDemandFrame.setSource _ _).trans (.emit _ _))
  · exact inv.frame ((OnDemandFrame.setSource _ _).trans (.emit _ _))

theorem handlePublisherStart (inv : OnDemandInvariant pa) (streams : StreamInvariant pa)
    (shape : ShapeInvariant pa) (author : Nat) (streamErr : Option String)
    (none_ : pa.source = some (.publisher author) → pa.stream = none) :
    OnDemandInvariant (pa.handlePublisherStart author streamErr) := by
  simp only [Path.handlePublisherStart]
  split_ifs with other
  · exact inv.frame (.emit _ _)
  · have current : pa.source = some (.publisher author) := not_not.mp other
    have staticOff : pa.conf.HasOnDemandStaticSource = false := by
      by_contra staticSource
      have static := PathConf.hasStaticSource_of_onDemand (by simpa using staticSource)
      simp [shape.static_source static] at current
    have empty := streams.readers_eq_nil (none_ current)
    split
    · exact inv.frame (.emit _ _)
    · rename_i next ready
      refine OnDemandInvariant.frame ?_ (.emit _ _)
      cases streamErr with
      | some err => cases ready
      | none =>
          cases ready
          by_cases publisher : pa.conf.HasOnDemandPublisher = true
          · rw [if_pos publisher]
            refine OnDemandInvariant.flushRequestsOnHold ?_ (by simp)
            exact of_publisher publisher (by simpa [empty] using OnDemand.sourceReady_invariant _)
          · rw [if_neg publisher]
            exact of_off staticOff (by simpa using publisher)

theorem handlePublisherStop (inv : OnDemandInvariant pa) (author : Nat) :
    OnDemandInvariant (pa.handlePublisherStop author) := by
  simp only [Path.handlePublisherStop]
  refine OnDemandInvariant.frame ?_ (.emit _ _)
  split_ifs
  · exact inv.sourceSetNotReady
  · exact inv

/-- One select case keeps the invariant, in a path of the right shape whose streams and readers
agree, unless a source announces itself ready while its stream exists or a static source reports
not-ready without one. -/
theorem step (inv : OnDemandInvariant pa) (streams : StreamInvariant pa) (shape : ShapeInvariant pa)
    {event : Event} (enabled : pa.Enabled event) (allowed : NotReadyAfterReady pa event) :
    OnDemandInvariant (pa.step event).path := by
  cases event <;> simp only [Path.step, checkShouldClose_path, Next.path_running, Next.path_exited]
  case onDemandStaticSourceReadyTimer =>
    have staticSource := shape.hasOnDemandStaticSource_of_timer (.inl enabled)
    exact of_staticSource staticSource (OnDemand.stop_invariant
      (inv.staticSource staticSource).closeTimer_iff.mp rfl
      ((inv.staticSource staticSource).stream_of_readyTimer enabled))
  case onDemandStaticSourceCloseTimer =>
    have staticSource := shape.hasOnDemandStaticSource_of_timer (.inr enabled)
    have closing := (inv.staticSource staticSource).closeTimer_iff.mp enabled
    exact of_staticSource staticSource (OnDemand.stop_invariant (fun armed => by simp at armed)
      ((inv.staticSource staticSource).readyTimer_eq_false (by simp [closing])) rfl)
  case onDemandPublisherReadyTimer =>
    have publisher := shape.hasOnDemandPublisher_of_timer (.inl enabled)
    exact onDemandPublisherStop
      (streams.frame ((frame_setPublisher _ _).trans (frame_failRequestsOnHold _))) publisher
      (inv.publisher publisher).closeTimer_iff.mp rfl
  case onDemandPublisherCloseTimer =>
    have publisher := shape.hasOnDemandPublisher_of_timer (.inr enabled)
    have closing := (inv.publisher publisher).closeTimer_iff.mp enabled
    exact onDemandPublisherStop (streams.frame (frame_setPublisher _ _)) publisher
      (fun armed => by simp at armed) ((inv.publisher publisher).readyTimer_eq_false (by simp [closing]))
  case reloadConf newConf =>
    have same := sameOutsideCamera_of_canBeUpdated enabled
    exact ⟨fun onDemand => inv.staticSource (by simpa [same.hasOnDemandStaticSource] using onDemand),
      fun onDemand => inv.publisher (by simpa [same.hasOnDemandPublisher] using onDemand)⟩
  case sourceStaticSetReady streamErr =>
    exact inv.handleSourceStaticSetReady streams enabled allowed streamErr
  case sourceStaticSetNotReady => exact inv.handleSourceStaticSetNotReady allowed
  case describe req => exact inv.handleDescribe req
  case publisherRemove author => exact inv.handlePublisherRemove author
  case publisherAdd author => exact inv.handlePublisherAdd author
  case publisherStart author streamErr =>
    exact inv.handlePublisherStart streams shape author streamErr allowed
  case publisherStop author => exact inv.handlePublisherStop author
  case readerAdd author => exact inv.handleReaderAdd author
  case readerRemove author => exact inv.handleReaderRemove author
  case apiPathsGet => exact inv.frame (.emit _ _)
  case terminate => exact inv

end OnDemandInvariant

/-- The invariant holds in every state of every run in which no source announces itself ready
while its stream exists and a static source reports not-ready only while that stream exists. -/
theorem Run.onDemandInvariant {pa : Path} (run : Run NotReadyAfterReady pa) : OnDemandInvariant pa := by
  induction run with
  | start => exact OnDemandInvariant.start
  | step _ run enabled allowed stepped ih =>
      have streams := (run.mono fun _ _ => noSecondStart_of_notReadyAfterReady).streamInvariant
      simpa [stepped] using ih.step streams run.shapeInvariant enabled allowed

/-! ## The timers in every run -/

/-- Without the restriction on not-ready: a static source on demand that reports not-ready while
the path waits for it sends the path back to `initial`, with its ready timer still armed. -/
example : ∃ pa : Path, Run NoSecondStart pa ∧ pa.conf.HasOnDemandStaticSource = true ∧
    pa.onDemandStaticSource.state = .initial ∧ pa.onDemandStaticSource.readyTimer = true :=
  ⟨_, ((Run.start "cam" (.ofSource (.static "rtsp://camera") true "" fun empty => absurd rfl empty)
      "cam").step (.describe ⟨1, ⟨"rtsp", "", "server"⟩⟩) trivial trivial rfl).step
      .sourceStaticSetNotReady rfl trivial rfl, rfl, rfl, rfl⟩

/-- What the on-demand timers guarantee: each variant the configuration enables satisfies
`OnDemand.Invariant`, so a close timer never fires on a path with readers and a ready timer never
fires on a path with a stream. -/
structure OnDemandTimersSafe (pa : Path) : Prop where
  invariant : OnDemandInvariant pa
  staticSource_closeTimer : pa.conf.HasOnDemandStaticSource = true →
    pa.onDemandStaticSource.closeTimer = true → pa.readers = []
  staticSource_readyTimer : pa.conf.HasOnDemandStaticSource = true →
    pa.onDemandStaticSource.readyTimer = true → pa.stream = none
  publisher_closeTimer : pa.conf.HasOnDemandPublisher = true →
    pa.onDemandPublisher.closeTimer = true → pa.readers = []
  publisher_readyTimer : pa.conf.HasOnDemandPublisher = true →
    pa.onDemandPublisher.readyTimer = true → pa.stream = none

theorem OnDemandInvariant.timersSafe {pa : Path} (inv : OnDemandInvariant pa) :
    OnDemandTimersSafe pa where
  invariant := inv
  staticSource_closeTimer onDemand := (inv.staticSource onDemand).readers_of_closeTimer
  staticSource_readyTimer onDemand := (inv.staticSource onDemand).stream_of_readyTimer
  publisher_closeTimer onDemand := (inv.publisher onDemand).readers_of_closeTimer
  publisher_readyTimer onDemand := (inv.publisher onDemand).stream_of_readyTimer

theorem run_onDemandTimersSafe {pa : Path} (run : Run NotReadyAfterReady pa) :
    OnDemandTimersSafe pa :=
  run.onDemandInvariant.timersSafe

/-- A reader starts a static source on demand, which becomes ready and then reports not-ready. -/
theorem run_onDemandTimersSafe_static :
    OnDemandTimersSafe ((newPath "cam" (.ofSource (.static "rtsp://camera") true "" fun empty =>
      absurd rfl empty) "cam").start.runEvents
        [.readerAdd 7, .sourceStaticSetReady none, .sourceStaticSetNotReady]).path :=
  run_onDemandTimersSafe
    ((((Run.start "cam" (.ofSource (.static "rtsp://camera") true "" fun empty => absurd rfl empty)
      "cam").step (.readerAdd 7) trivial trivial rfl).step (.sourceStaticSetReady none) rfl rfl
      rfl).step .sourceStaticSetNotReady rfl (Option.some_ne_none _) rfl)

/-- A `runOnDemand` publisher goes away while its close is scheduled; a reader that arrives then is
parked without starting anything, and once the close timer fires it is left parked in `initial`
with no timer armed and no source. -/
theorem parked_request_without_timer :
    ∃ pa : Path, Run NoSecondStart pa ∧ pa.conf.HasOnDemandPublisher = true ∧
      pa.readerAddRequestsOnHold = [7] ∧ pa.source = none ∧
      pa.onDemandPublisher = ⟨.initial, false, false⟩ :=
  ⟨_, (((((Run.start "cam" (.ofSource .publisher false "cmd" fun _ => rfl) "cam").step
      (.publisherAdd 1) trivial trivial rfl).step (.publisherStart 1 none) trivial (fun _ => rfl)
      rfl).step (.publisherRemove 1) trivial trivial rfl).step (.readerAdd 7) trivial trivial
      rfl).step .onDemandPublisherCloseTimer rfl trivial rfl, rfl, rfl, rfl, rfl⟩

end Path
end RtspSimpleServer
