import RtspSimpleServer.Path.Shape

/-!
# Readers are never left on a dead stream

Over every run in which no source announces itself ready a second time while its stream exists,
a stream has a source, the registered readers are attached to the current stream and to no
other, and every earlier stream has been closed.
-/

namespace RtspSimpleServer
namespace Path

/-! ## Attachment -/

/-- The effect of one output on the stream `reader` is attached to. -/
def attachment (reader : Nat) (current : Option Nat) : Output → Option Nat
  | .readerAddRes other (.stream stream) => if other = reader then stream else current
  | .readerClose other => if other = reader then none else current
  | .readerRemoveRes other => if other = reader then none else current
  | _ => current

/-- The stream `reader` is attached to after the outputs `out`. -/
def attachedStream (out : List Output) (reader : Nat) : Option Nat :=
  out.foldl (attachment reader) none

theorem attachedStream_append (out more : List Output) (reader : Nat) :
    attachedStream (out ++ more) reader =
      more.foldl (attachment reader) (attachedStream out reader) := by
  simp [attachedStream]

@[simp] theorem attachedStream_append_singleton (out : List Output) (output : Output)
    (reader : Nat) :
    attachedStream (out ++ [output]) reader =
      attachment reader (attachedStream out reader) output := by
  simp [attachedStream]

theorem foldl_attachment_map_eq {α : Type} (items : List α) (toOutput : α → Output)
    (quiet : ∀ item reader current, attachment reader current (toOutput item) = current)
    (reader : Nat) (current : Option Nat) :
    (items.map toOutput).foldl (attachment reader) current = current := by
  induction items with
  | nil => rfl
  | cons item items ih => simpa [quiet] using ih

theorem foldl_attachment_readerClose (readers : List Nat) (reader : Nat)
    (current : Option Nat) :
    (readers.map Output.readerClose).foldl (attachment reader) current =
      if reader ∈ readers then none else current := by
  induction readers generalizing current with
  | nil => simp
  | cons head tail ih =>
      by_cases same : head = reader
      · subst same; simp [attachment, ih]
      · simp [attachment, same, ih, Ne.symm same]

theorem foldl_attachment_describeRes (reqs : List DescribeReq) (res : Res) (reader : Nat)
    (current : Option Nat) :
    (reqs.map fun req => Output.describeRes req.id res).foldl (attachment reader) current =
      current :=
  foldl_attachment_map_eq reqs (fun req => Output.describeRes req.id res) (fun _ _ _ => rfl)
    reader current

theorem foldl_attachment_readerAddRes_error (readers : List Nat) (err : String) (reader : Nat)
    (current : Option Nat) :
    (readers.map fun other => Output.readerAddRes other (.error err)).foldl (attachment reader)
      current = current :=
  foldl_attachment_map_eq readers (fun other => Output.readerAddRes other (.error err))
    (fun _ _ _ => rfl) reader current

/-! ## Steps that leave the streams alone -/

/-- A change that keeps the source, the stream, the readers and the stream counter, and whose
outputs attach and detach no reader. -/
structure Frame (pa next : Path) : Prop where
  source : next.source = pa.source
  stream : next.stream = pa.stream
  readers : next.readers = pa.readers
  nextStream : next.nextStream = pa.nextStream
  attached : ∀ reader, attachedStream next.out reader = attachedStream pa.out reader
  out_mono : ∀ output ∈ pa.out, output ∈ next.out

theorem Frame.refl (pa : Path) : Frame pa pa :=
  ⟨rfl, rfl, rfl, rfl, fun _ => rfl, fun _ mem => mem⟩

theorem Frame.trans {first second third : Path} (left : Frame first second)
    (right : Frame second third) : Frame first third :=
  ⟨right.source.trans left.source, right.stream.trans left.stream,
    right.readers.trans left.readers, right.nextStream.trans left.nextStream,
    fun reader => (right.attached reader).trans (left.attached reader),
    fun output mem => right.out_mono output (left.out_mono output mem)⟩

/-- A change that only appends outputs and touches no stream, reader or source. -/
theorem frame_of_out {pa next : Path} (source : next.source = pa.source)
    (stream : next.stream = pa.stream) (readers : next.readers = pa.readers)
    (nextStream : next.nextStream = pa.nextStream) (more : List Output)
    (out : next.out = pa.out ++ more)
    (quiet : ∀ reader current, more.foldl (attachment reader) current = current) :
    Frame pa next :=
  ⟨source, stream, readers, nextStream,
    fun reader => by rw [out, attachedStream_append, quiet],
    fun output mem => by rw [out]; exact List.mem_append_left more mem⟩

theorem frame_onDemandStaticSourceStart (pa : Path) : Frame pa pa.onDemandStaticSourceStart :=
  frame_of_out rfl rfl rfl rfl [.sourceStaticStart] rfl fun _ _ => rfl

theorem frame_onDemandStaticSourceScheduleClose (pa : Path) :
    Frame pa pa.onDemandStaticSourceScheduleClose :=
  frame_of_out rfl rfl rfl rfl [] (by simp [onDemandStaticSourceScheduleClose]) fun _ _ => rfl

theorem frame_onDemandStaticSourceStop (pa : Path) : Frame pa pa.onDemandStaticSourceStop :=
  frame_of_out rfl rfl rfl rfl [.sourceStaticStop] rfl fun _ _ => rfl

theorem frame_onDemandPublisherStart (pa : Path) : Frame pa pa.onDemandPublisherStart :=
  frame_of_out rfl rfl rfl rfl [.onDemandCmdStart] rfl fun _ _ => rfl

theorem frame_onDemandPublisherScheduleClose (pa : Path) :
    Frame pa pa.onDemandPublisherScheduleClose :=
  frame_of_out rfl rfl rfl rfl [] (by simp [onDemandPublisherScheduleClose]) fun _ _ => rfl

theorem frame_failRequestsOnHold (pa : Path) : Frame pa pa.failRequestsOnHold where
  source := rfl
  stream := rfl
  readers := rfl
  nextStream := rfl
  attached reader := by
    simp only [failRequestsOnHold, attachedStream_append, foldl_attachment_describeRes,
      foldl_attachment_readerAddRes_error]
  out_mono output mem := by simp [failRequestsOnHold, mem]

theorem frame_reloadConf (pa : Path) (newConf : PathConf) : Frame pa (pa.reloadConf newConf) := by
  simp only [reloadConf]
  split_ifs
  · exact frame_of_out rfl rfl rfl rfl [.sourceStaticReloadConf newConf] rfl fun _ _ => rfl
  · exact frame_of_out rfl rfl rfl rfl [] (by simp) fun _ _ => rfl

/-- Emitting an output that names no reader. -/
theorem frame_emit (pa : Path) (output : Output)
    (quiet : ∀ reader current, attachment reader current output = current) :
    Frame pa (pa.emit output) :=
  frame_of_out rfl rfl rfl rfl [output] rfl fun reader current => quiet reader current

theorem frame_setStaticSource (pa : Path) (od : OnDemand) :
    Frame pa { pa with onDemandStaticSource := od } :=
  frame_of_out rfl rfl rfl rfl [] (by simp) fun _ _ => rfl

theorem frame_setPublisher (pa : Path) (od : OnDemand) :
    Frame pa { pa with onDemandPublisher := od } :=
  frame_of_out rfl rfl rfl rfl [] (by simp) fun _ _ => rfl

/-- Parking a request. -/
theorem frame_park (pa : Path) (describes : List DescribeReq) (readerAdds : List Nat) :
    Frame pa { pa with describeRequestsOnHold := describes, readerAddRequestsOnHold := readerAdds } :=
  frame_of_out rfl rfl rfl rfl [] (by simp) fun _ _ => rfl

/-- Starting an on-demand source only when it is idle is a frame either way. -/
theorem frame_ite_start {pa started : Path} (start : Frame pa started) (idle : Prop) [Decidable idle] :
    Frame pa (if idle then started else pa) := by
  split
  · exact start
  · exact Frame.refl pa

/-- A describe request is answered or parked, on-demand sources started: a frame. -/
theorem frame_handleDescribe (pa : Path) (req : DescribeReq) : Frame pa (pa.handleDescribe req) := by
  unfold handleDescribe
  split
  · exact frame_emit _ _ fun _ _ => rfl
  split
  · exact frame_emit _ _ fun _ _ => rfl
  split
  · exact (frame_ite_start (frame_onDemandStaticSourceStart pa) _).trans (frame_park _ _ _)
  split
  · exact (frame_ite_start (frame_onDemandPublisherStart pa) _).trans (frame_park _ _ _)
  split <;> exact frame_emit _ _ fun _ _ => rfl

/-- A reader is added to the live stream, or its request is parked or refused: a frame. -/
theorem handleReaderAdd_cases (pa : Path) (reader : Nat) :
    pa.stream ≠ none ∧ pa.handleReaderAdd reader = pa.handleReaderAddPost reader ∨
      Frame pa (pa.handleReaderAdd reader) := by
  unfold handleReaderAdd
  split
  · exact .inl ⟨Option.isSome_iff_ne_none.mp ‹_›, rfl⟩
  split
  · exact .inr ((frame_ite_start (frame_onDemandStaticSourceStart pa) _).trans (frame_park _ _ _))
  split
  · exact .inr ((frame_ite_start (frame_onDemandPublisherStart pa) _).trans (frame_park _ _ _))
  · exact .inr (frame_emit _ _ fun _ _ => rfl)

/-! ## The invariant -/

/-- Streams, readers and sources agree, and no reader is attached to a dead stream. -/
structure StreamInvariant (pa : Path) : Prop where
  source_of_stream : pa.stream ≠ none → pa.source ≠ none
  stream_of_readers : pa.readers ≠ [] → pa.stream ≠ none
  attached : ∀ reader, attachedStream pa.out reader = if reader ∈ pa.readers then pa.stream else none
  stream_lt : ∀ stream, pa.stream = some stream → stream < pa.nextStream
  closed : ∀ stream < pa.nextStream, pa.stream ≠ some stream → Output.streamClose stream ∈ pa.out

namespace StreamInvariant

variable {pa : Path}

theorem frame {next : Path} (inv : StreamInvariant pa) (frame : Frame pa next) :
    StreamInvariant next where
  source_of_stream := by rw [frame.stream, frame.source]; exact inv.source_of_stream
  stream_of_readers := by rw [frame.readers, frame.stream]; exact inv.stream_of_readers
  attached reader := by rw [frame.attached, frame.readers, frame.stream]; exact inv.attached reader
  stream_lt := by rw [frame.stream, frame.nextStream]; exact inv.stream_lt
  closed stream := by
    rw [frame.nextStream, frame.stream]
    exact fun lt other => frame.out_mono _ (inv.closed stream lt other)

theorem readers_eq_nil (inv : StreamInvariant pa) (none_ : pa.stream = none) : pa.readers = [] := by
  by_contra nonempty
  exact inv.stream_of_readers nonempty none_

/-- The new source of a path with this invariant. -/
theorem setSource (inv : StreamInvariant pa) (source : Source) :
    StreamInvariant { pa with source := some source } :=
  { inv with source_of_stream := fun _ => Option.some_ne_none source }

theorem sourceSetNotReady (inv : StreamInvariant pa) : StreamInvariant pa.sourceSetNotReady where
  source_of_stream := by simp [Path.sourceSetNotReady]
  stream_of_readers := by simp [Path.sourceSetNotReady]
  attached reader := by
    have attached := inv.attached reader
    simp only [Path.sourceSetNotReady, List.append_assoc, attachedStream_append,
      List.foldl_append, foldl_attachment_readerClose, List.not_mem_nil, if_false]
    cases stream : pa.stream <;> cases pa.onReadyCmd <;> split_ifs <;>
      simp_all [attachment]
  stream_lt := by simp [Path.sourceSetNotReady]
  closed stream lt _ := by
    by_cases current : pa.stream = some stream
    · simp [Path.sourceSetNotReady, current]
    · simp [Path.sourceSetNotReady, inv.closed stream lt current]

theorem doPublisherRemove (inv : StreamInvariant pa) : StreamInvariant pa.doPublisherRemove := by
  unfold Path.doPublisherRemove
  split_ifs with some_
  · exact { inv.sourceSetNotReady with source_of_stream := by simp [Path.sourceSetNotReady] }
  · have none_ : pa.stream = none := Option.not_isSome_iff_eq_none.mp some_
    exact { inv with source_of_stream := by simp [none_] }

theorem closeSource (inv : StreamInvariant pa) : StreamInvariant pa.closeSource := by
  unfold Path.closeSource
  split
  · rename_i source _
    exact (inv.frame (frame_emit pa (.sourceClose source) fun _ _ => rfl)).doPublisherRemove
  · exact inv

theorem onDemandPublisherStop (inv : StreamInvariant pa) :
    StreamInvariant pa.onDemandPublisherStop := by
  refine inv.closeSource.frame (frame_of_out rfl rfl rfl rfl
    (if pa.closeSource.onDemandCmd then [.onDemandCmdStop] else []) rfl fun _ _ => ?_)
  split_ifs <;> rfl

theorem handleReaderAddPost (inv : StreamInvariant pa) (some_ : pa.stream ≠ none)
    (reader : Nat) : StreamInvariant (pa.handleReaderAddPost reader) where
  source_of_stream := by simpa using inv.source_of_stream
  stream_of_readers _ := by simpa using some_
  attached other := by
    by_cases same : reader = other
    · subst same; simp [attachment]
    · simp [attachment, same, inv.attached other, List.mem_insert_iff, Ne.symm same]
  stream_lt := by simpa using inv.stream_lt
  closed stream lt current := by simpa using inv.closed stream (by simpa using lt) (by simpa using current)

theorem foldl_handleReaderAddPost (inv : StreamInvariant pa) (some_ : pa.stream ≠ none)
    (readers : List Nat) : StreamInvariant (readers.foldl Path.handleReaderAddPost pa) := by
  induction readers generalizing pa with
  | nil => exact inv
  | cons reader readers ih =>
      exact ih (inv.handleReaderAddPost some_ reader) (by simpa using some_)

theorem flushRequestsOnHold (inv : StreamInvariant pa) (some_ : pa.stream ≠ none) :
    StreamInvariant pa.flushRequestsOnHold := by
  simp only [Path.flushRequestsOnHold]
  have described : StreamInvariant { pa with
      describeRequestsOnHold := []
      out := pa.out ++ pa.describeRequestsOnHold.map fun (req : DescribeReq) =>
        Output.describeRes req.id (.stream pa.stream) } :=
    inv.frame <| frame_of_out rfl rfl rfl rfl _ rfl (foldl_attachment_describeRes _ _)
  exact (described.foldl_handleReaderAddPost some_ _).frame
    (frame_of_out rfl rfl rfl rfl [] (by simp) fun _ _ => rfl)

/-- A new stream, created while there is none. -/
theorem sourceSetReady (inv : StreamInvariant pa) (none_ : pa.stream = none)
    (source : pa.source ≠ none) {next : Path}
    {streamErr : Option String} (ready : pa.sourceSetReady streamErr = .ok next) :
    StreamInvariant next := by
  cases streamErr with
  | some err => simp [Path.sourceSetReady] at ready
  | none =>
      simp only [Path.sourceSetReady, Except.ok.injEq] at ready
      subst ready
      have empty := inv.readers_eq_nil none_
      refine ⟨?_, ?_, fun reader => ?_, ?_, fun stream lt current => ?_⟩
      · simpa using source
      · simp
      · have attached := inv.attached reader
        simp only [empty, List.not_mem_nil, if_false, none_] at attached ⊢
        split_ifs <;> simp [attachedStream_append, attached, attachment]
      · simp
      · have older : stream < pa.nextStream := by
          dsimp only at lt current
          simp only [ne_eq, Option.some.injEq] at current
          omega
        simp [inv.closed stream older (by simp [none_])]

/-- Removing a reader, or answering a reader that is not there. -/
theorem doReaderRemove (inv : StreamInvariant pa) (reader : Nat) :
    StreamInvariant ((pa.doReaderRemove reader).emit (.readerRemoveRes reader)) where
  source_of_stream := by simpa using inv.source_of_stream
  stream_of_readers nonempty := by
    simpa using inv.stream_of_readers fun empty => nonempty (by simp [empty])
  attached other := by
    by_cases same : reader = other
    · subst same; simp [attachment]
    · simp [attachment, same, inv.attached other, Ne.symm same]
  stream_lt := by simpa using inv.stream_lt
  closed stream lt current := by simpa using inv.closed stream (by simpa using lt) (by simpa using current)

/-- A new stream, and the parked requests answered with it when the variant is on demand. -/
theorem sourceReady (inv : StreamInvariant pa) (none_ : pa.stream = none)
    (source : pa.source ≠ none) {next : Path} {streamErr : Option String}
    (ready : pa.sourceSetReady streamErr = .ok next) (onDemand : Prop) [Decidable onDemand]
    (set : Path → Path) (frame : ∀ pa, Frame pa (set pa)) :
    StreamInvariant (if onDemand then (set next).flushRequestsOnHold else next) := by
  have readyInv := inv.sourceSetReady none_ source ready
  split_ifs
  · refine (readyInv.frame (frame next)).flushRequestsOnHold ?_
    rw [(frame next).stream, sourceSetReady_stream ready]
    exact Option.some_ne_none _
  · exact readyInv

/-- A path before its first select case. -/
theorem start {confName : String} {conf : PathConf} {name : String} :
    StreamInvariant (newPath confName conf name).start := by
  have fresh : StreamInvariant (newPath confName conf name) :=
    ⟨by simp [newPath], by simp [newPath], by simp [newPath, attachedStream], by simp [newPath],
      by simp [newPath]⟩
  simp only [Path.start]
  split
  · exact fresh.setSource _
  · split_ifs
    · exact fresh.setSource _
    · exact (fresh.setSource _).frame (frame_emit _ _ fun _ _ => rfl)
  · exact fresh

/-! ## The handlers -/

theorem handleSourceStaticSetReady (inv : StreamInvariant pa) (none_ : pa.stream = none)
    (source : pa.source ≠ none) (streamErr : Option String) :
    StreamInvariant (pa.handleSourceStaticSetReady streamErr) := by
  simp only [Path.handleSourceStaticSetReady]
  split
  · exact inv.frame (frame_emit _ _ fun _ _ => rfl)
  · rename_i next ready
    exact (inv.sourceReady none_ source ready _ _ fun pa => frame_setStaticSource pa _).frame
      (frame_emit _ _ fun _ _ => rfl)

theorem handleSourceStaticSetNotReady (inv : StreamInvariant pa) :
    StreamInvariant pa.handleSourceStaticSetNotReady := by
  have notReady := inv.sourceSetNotReady.frame
    (frame_emit _ .sourceStaticSetNotReadyRes fun _ _ => rfl)
  simp only [Path.handleSourceStaticSetNotReady]
  split_ifs
  · exact notReady.frame (frame_onDemandStaticSourceStop _)
  · exact notReady

theorem handleDescribe (inv : StreamInvariant pa) (req : DescribeReq) :
    StreamInvariant (pa.handleDescribe req) :=
  inv.frame (frame_handleDescribe pa req)

theorem handleReaderAdd (inv : StreamInvariant pa) (reader : Nat) :
    StreamInvariant (pa.handleReaderAdd reader) := by
  rcases handleReaderAdd_cases pa reader with ⟨ready, added⟩ | frame
  · exact added ▸ inv.handleReaderAddPost ready reader
  · exact inv.frame frame

theorem handleReaderRemove (inv : StreamInvariant pa) (reader : Nat) :
    StreamInvariant (pa.handleReaderRemove reader) := by
  have removed := inv.doReaderRemove reader
  simp only [Path.handleReaderRemove, ite_mem_doReaderRemove]
  generalize (pa.doReaderRemove reader).emit (.readerRemoveRes reader) = removedPath at removed ⊢
  split_ifs
  · exact removed.frame (frame_setStaticSource _ _)
  · exact removed.frame (frame_setPublisher _ _)
  · exact removed
  · exact removed

theorem handlePublisherRemove (inv : StreamInvariant pa) (author : Nat) :
    StreamInvariant (pa.handlePublisherRemove author) := by
  simp only [Path.handlePublisherRemove]
  refine StreamInvariant.frame ?_ (frame_emit _ _ fun _ _ => rfl)
  split_ifs
  · exact inv.doPublisherRemove
  · exact inv

theorem handlePublisherAdd (inv : StreamInvariant pa) (author : Nat) :
    StreamInvariant (pa.handlePublisherAdd author) := by
  simp only [Path.handlePublisherAdd]
  split_ifs
  · exact inv.frame (frame_emit _ _ fun _ _ => rfl)
  all_goals split
  · exact inv.frame (frame_emit _ _ fun _ _ => rfl)
  · exact (inv.setSource _).frame (frame_emit _ _ fun _ _ => rfl)
  · exact ((inv.frame (frame_emit _ (.sourceClose _) fun _ _ => rfl)).doPublisherRemove.setSource _).frame
      (frame_emit _ _ fun _ _ => rfl)
  · exact (inv.setSource _).frame (frame_emit _ _ fun _ _ => rfl)

theorem handlePublisherStart (inv : StreamInvariant pa) (author : Nat) (streamErr : Option String)
    (none_ : pa.source = some (.publisher author) → pa.stream = none) :
    StreamInvariant (pa.handlePublisherStart author streamErr) := by
  simp only [Path.handlePublisherStart]
  split_ifs with other
  · exact inv.frame (frame_emit _ _ fun _ _ => rfl)
  · have current : pa.source = some (.publisher author) := not_not.mp other
    split
    · exact inv.frame (frame_emit _ _ fun _ _ => rfl)
    · rename_i next ready
      exact (inv.sourceReady (none_ current) (by simp [current]) ready _ _
        fun pa => frame_setPublisher pa _).frame (frame_emit _ _ fun _ _ => rfl)

theorem handlePublisherStop (inv : StreamInvariant pa) (author : Nat) :
    StreamInvariant (pa.handlePublisherStop author) := by
  simp only [Path.handlePublisherStop]
  refine StreamInvariant.frame ?_ (frame_emit _ _ fun _ _ => rfl)
  split_ifs
  · exact inv.sourceSetNotReady
  · exact inv

/-- One select case keeps the invariant, in a path of the right shape, unless a source announces
itself ready while its stream exists. -/
theorem step (inv : StreamInvariant pa) (shape : ShapeInvariant pa) {event : Event}
    (enabled : pa.Enabled event) (allowed : NoSecondStart pa event) :
    StreamInvariant (pa.step event).path := by
  cases event <;> simp only [Path.step, checkShouldClose_path, Next.path_running, Next.path_exited]
  case onDemandStaticSourceReadyTimer =>
    exact inv.frame (((frame_setStaticSource _ _).trans (frame_failRequestsOnHold _)).trans
      (frame_onDemandStaticSourceStop _))
  case onDemandStaticSourceCloseTimer =>
    exact (inv.frame (frame_setStaticSource _ _)).sourceSetNotReady.frame
      (frame_onDemandStaticSourceStop _)
  case onDemandPublisherReadyTimer =>
    exact (inv.frame ((frame_setPublisher _ _).trans (frame_failRequestsOnHold _))).onDemandPublisherStop
  case onDemandPublisherCloseTimer => exact (inv.frame (frame_setPublisher _ _)).onDemandPublisherStop
  case reloadConf newConf => exact inv.frame (frame_reloadConf _ _)
  case sourceStaticSetReady streamErr =>
    exact inv.handleSourceStaticSetReady allowed (by simp [shape.static_source enabled]) streamErr
  case sourceStaticSetNotReady => exact inv.handleSourceStaticSetNotReady
  case describe req => exact inv.handleDescribe req
  case publisherRemove author => exact inv.handlePublisherRemove author
  case publisherAdd author => exact inv.handlePublisherAdd author
  case publisherStart author streamErr => exact inv.handlePublisherStart author streamErr allowed
  case publisherStop author => exact inv.handlePublisherStop author
  case readerAdd author => exact inv.handleReaderAdd author
  case readerRemove author => exact inv.handleReaderRemove author
  case apiPathsGet => exact inv.frame (frame_emit _ _ fun _ _ => rfl)
  case terminate => exact inv

end StreamInvariant

/-- The invariant holds in every state of every run in which no source announces itself ready
while its stream exists. -/
theorem Run.streamInvariant {pa : Path} (run : Run NoSecondStart pa) : StreamInvariant pa := by
  induction run with
  | start => exact StreamInvariant.start
  | step _ run enabled allowed stepped ih =>
      simpa [stepped] using ih.step run.shapeInvariant enabled allowed

/-! ## No reader on a dead stream -/

/-- No reader is left on a stream that was destroyed or replaced. -/
structure ReadersOnLiveStream (pa : Path) : Prop where
  /-- A stream has a source. -/
  source_of_stream : pa.stream ≠ none → pa.source ≠ none
  /-- Registered readers have a stream. -/
  stream_of_readers : pa.readers ≠ [] → pa.stream ≠ none
  /-- Each registered reader was last answered with the current stream. -/
  readers_attached : ∀ reader ∈ pa.readers, attachedStream pa.out reader = pa.stream
  /-- Every stream created before the current one has been closed. -/
  old_closed : ∀ stream < pa.nextStream, pa.stream ≠ some stream → Output.streamClose stream ∈ pa.out
  /-- No reader is attached to a stream created before the current one. -/
  old_detached : ∀ stream < pa.nextStream, pa.stream ≠ some stream →
    ∀ reader, attachedStream pa.out reader ≠ some stream

theorem StreamInvariant.readersOnLiveStream {pa : Path} (inv : StreamInvariant pa) :
    ReadersOnLiveStream pa where
  source_of_stream := inv.source_of_stream
  stream_of_readers := inv.stream_of_readers
  readers_attached reader member := by simp [inv.attached, member]
  old_closed := inv.closed
  old_detached stream _ current reader := by
    rw [inv.attached reader]
    split_ifs
    · exact current
    · simp

theorem run_readersOnLiveStream {pa : Path} (run : Run NoSecondStart pa) : ReadersOnLiveStream pa :=
  run.streamInvariant.readersOnLiveStream

/-- A publisher is overridden while a reader plays its stream, then a second reader joins. -/
theorem run_readersOnLiveStream_override :
    ReadersOnLiveStream ((newPath "cam" (.ofSource .publisher false "" fun _ => rfl) "cam").start.runEvents
      [.publisherAdd 1, .publisherStart 1 none, .readerAdd 7, .publisherAdd 2,
        .publisherStart 2 none, .readerAdd 8]).path :=
  run_readersOnLiveStream
    (((((((Run.start "cam" (.ofSource .publisher false "" fun _ => rfl) "cam").step (.publisherAdd 1)
      trivial trivial rfl).step (.publisherStart 1 none) trivial (fun _ => rfl) rfl).step
      (.readerAdd 7) trivial trivial rfl).step (.publisherAdd 2) trivial trivial rfl).step
      (.publisherStart 2 none) trivial (fun _ => rfl) rfl).step (.readerAdd 8) trivial trivial rfl)

end Path

end RtspSimpleServer
