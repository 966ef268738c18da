import Mathlib.Data.List.Basic

/-!
# The readers of a stream

A stream hands each unit of a format to the readers subscribed to it; `AddReader` subscribes a
reader to one format and `RemoveReader` takes off all of its subscriptions.  A stream is modelled
by its subscriptions and a description by the formats of its medias, in order.
-/

namespace RtspSimpleServer
namespace Stream

/-- `format.Format`, for the formats the RTMP and SRT connections publish or serve; `other` stands
for the rest, with its Go type name.  `Config` is `mpeg4audio.Config`.  An MPEG-4 Audio LATM
configuration is the list of its programs, each the list of the `AudioSpecificConfig`s of its
layers. -/
inductive MediaFormat (Config : Type) where
  | av1
  | vp9
  | h264
  | h265
  | mpeg4AudioGeneric (config : Config)
  | mpeg4AudioLATM (config : Option (List (List Config)))
  | opus (isStereo : Bool)
  | mpeg1Audio
  | other (typeName : String)
  deriving DecidableEq, Repr

variable {Config Reader : Type}

namespace MediaFormat

/-- The format is a `*format.H264`. -/
def isH264 : MediaFormat Config → Bool
  | .h264 => true
  | _ => false

/-- The format is a `*format.MPEG4AudioGeneric`. -/
def isMPEG4AudioGeneric : MediaFormat Config → Bool
  | .mpeg4AudioGeneric _ => true
  | _ => false

/-- The format is a `*format.MPEG4AudioLATM`. -/
def isMPEG4AudioLATM : MediaFormat Config → Bool
  | .mpeg4AudioLATM _ => true
  | _ => false

/-- The format is a `*format.MPEG1Audio`. -/
def isMPEG1Audio : MediaFormat Config → Bool
  | .mpeg1Audio => true
  | _ => false

end MediaFormat

/-- `description.Session.FindFormat`: the first media, in order, with a format of the kind
`kind`, given by its index, and the first such format of it. -/
def findFormat (medias : List (List (MediaFormat Config))) (kind : MediaFormat Config → Bool) :
    Option (Nat × MediaFormat Config) :=
  medias.enum.findSome? fun (media, formats) => (formats.find? kind).map fun f => (media, f)

/-- A reader's subscription to one format of one media of the stream. -/
structure Subscription (Reader Config : Type) where
  reader : Reader
  media : Nat
  format : MediaFormat Config
  deriving DecidableEq, Repr

/-- The `stream.AddReader` calls of a reader for the formats `found`, in order. -/
def addReaders (subscriptions : List (Subscription Reader Config)) (reader : Reader)
    (found : List (Nat × MediaFormat Config)) : List (Subscription Reader Config) :=
  subscriptions ++ found.map fun (media, format) => ⟨reader, media, format⟩

/-- `stream.RemoveReader`: takes off every subscription of the reader. -/
def removeReader [DecidableEq Reader] (subscriptions : List (Subscription Reader Config))
    (reader : Reader) : List (Subscription Reader Config) :=
  subscriptions.filter fun s => s.reader != reader

/-- How a reader's serving ends: its context is done, or its async writer stops with an
error. -/
inductive ReadEnd where
  | terminated
  | writerError (err : String)
  deriving DecidableEq, Repr

/-- The error `runRead` returns when the serving ends. -/
def ReadEnd.err : ReadEnd → String
  | .terminated => "terminated"
  | .writerError err => err

@[simp]
theorem addReaders_nil (subscriptions : List (Subscription Reader Config)) (reader : Reader) :
    addReaders subscriptions reader [] = subscriptions := by
  simp [addReaders]

/-- A reader that had no subscription leaves the stream as it found it, whatever it subscribed to
meanwhile. -/
theorem removeReader_addReaders [DecidableEq Reader]
    {subscriptions : List (Subscription Reader Config)} {reader : Reader}
    (fresh : ∀ s ∈ subscriptions, s.reader ≠ reader) (found : List (Nat × MediaFormat Config)) :
    removeReader (addReaders subscriptions reader found) reader = subscriptions := by
  simp only [removeReader, addReaders, List.filter_append]
  rw [List.filter_eq_self.2 (fun s mem => by simpa using fresh s mem),
    List.filter_eq_nil_iff.2 (by simp only [List.mem_map]; rintro _ ⟨_, _, rfl⟩; simp)]
  exact List.append_nil _

end Stream
end RtspSimpleServer
