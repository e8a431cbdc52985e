/-!
# Output sinks

A sink takes bytes one at a time.  A buffer keeps them; a stream passes them on and is flushed
after every newline.
-/

namespace TapeMachine

/-- Something that takes output. -/
inductive Sink
  /-- Nothing listens. -/
  | absent
  /-- Bytes are kept in memory. -/
  | buffer (data : Array UInt8)
  /-- Bytes are written to a stream; the flushes of the stream are counted. -/
  | stream (data : Array UInt8) (flushes : Nat)
  deriving DecidableEq, Repr

/-- An integer that is no byte, offered to a sink of one kind or the other. -/
inductive ByteFault
  /-- The sink is a buffer. -/
  | buffer
  /-- The sink is a stream. -/
  | stream
  deriving DecidableEq, Repr

/-- The wording of a fault. -/
def ByteFault.message : ByteFault → String
  | buffer => "byte must be in range(0, 256)"
  | stream => "bytes must be in range(0, 256)"

namespace Sink

/-- Takes a byte. -/
def accept : Sink → UInt8 → Sink
  | absent, _ => absent
  | buffer data, byte => buffer (data.push byte)
  | stream data flushes, byte =>
    stream (data.push byte) (if byte = 0x0A then flushes + 1 else flushes)

/-- Takes an integer, which has to be a byte. -/
def offer (sink : Sink) (value : Int) : Except ByteFault Sink :=
  if 0 ≤ value ∧ value < 256 then .ok (sink.accept (UInt8.ofNat value.toNat))
  else
    match sink with
    | stream _ _ => .error .stream
    | _ => .error .buffer

/-- Ends the output: a stream is flushed once more. -/
def close : Sink → Sink
  | stream data flushes => stream data (flushes + 1)
  | sink => sink

/-- The bytes taken so far. -/
def data : Sink → Array UInt8
  | absent => #[]
  | buffer data => data
  | stream data _ => data

/-- How often the sink was flushed. -/
def flushes : Sink → Nat
  | stream _ flushes => flushes
  | _ => 0

end Sink
end TapeMachine
