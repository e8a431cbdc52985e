import TapeMachine.Text.Latin
import TapeMachine.Text.Line

/-!
# Input sources

A source hands out input in chunks.  It says that it is exhausted by handing out none.
-/

namespace TapeMachine

/-- Something that hands out input. -/
inductive Source
  /-- A source without input. -/
  | closed
  /-- Bytes in memory, handed out as one chunk. -/
  | whole (data : List UInt8)
  /-- A stream, handed out line by line. -/
  | lines (rest : List UInt8)
  /-- A call that is made again and again: what it answers now, on the next turn, and so on. -/
  | answers (reply : Nat → Option (List UInt8))

namespace Source

/-- The chunk that bytes make; no bytes make none. -/
def chunk? (bytes : List UInt8) : Option (List UInt8) :=
  if bytes.isEmpty then none else some bytes

/-- Asks for the next chunk. -/
def poll : Source → Option (List UInt8) × Source
  | closed => (none, closed)
  | whole data => (chunk? data, whole [])
  | lines rest =>
    let (line, remaining) := Text.splitChunk rest
    (chunk? line, lines remaining)
  | answers reply => (reply 0, answers fun turn => reply (turn + 1))

/-- The results of asking a number of times. -/
def pollTimes : Nat → Source → List (Option (List UInt8))
  | 0, _ => []
  | times + 1, source =>
    let (answer, rest) := source.poll
    answer :: pollTimes times rest

end Source

/-- What a caller offers as input. -/
inductive Input
  /-- No input at all. -/
  | none
  /-- A text whose characters have to be bytes. -/
  | text (content : String)
  /-- Bytes in memory. -/
  | bytes (content : List UInt8)
  /-- A stream of bytes. -/
  | stream (content : List UInt8)
  /-- A list of answers, handed out in turn; after them the input is exhausted. -/
  | answers (content : List (Option (List UInt8)))
  deriving DecidableEq, Repr

namespace Input

/-- Opens the source that hands out an input. -/
def source : Input → Except Text.LatinFault Source
  | none => .ok .closed
  | text content => (Text.latinBytes content).map .whole
  | bytes content => .ok (.whole content)
  | stream content => .ok (.lines content)
  | answers content => .ok (.answers fun turn => (content[turn]?).join)

end Input

/-- A source together with the number of times it has been asked. -/
structure Feed where
  /-- What will be handed out. -/
  source : Source
  /-- How often the source has been asked. -/
  polls : Nat := 0

namespace Feed

/-- Asks for the next chunk and counts it. -/
def poll (feed : Feed) : Option (List UInt8) × Feed :=
  let (answer, rest) := feed.source.poll
  (answer, ⟨rest, feed.polls + 1⟩)

end Feed
end TapeMachine
