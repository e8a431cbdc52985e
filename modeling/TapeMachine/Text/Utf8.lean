import TapeMachine.Text.Digit

/-!
# Decoding files

A text file is a sequence of bytes in UTF-8.  Decoding stops at the first ill-formed
sequence and reports the bytes that belong to it.
-/

namespace TapeMachine
namespace Text

/-- What is wrong with an ill-formed sequence. -/
inductive Utf8Reason
  /-- The first byte starts no sequence. -/
  | start
  /-- A byte that does not continue the sequence follows. -/
  | continuation
  /-- The file ends within the sequence. -/
  | truncated
  deriving DecidableEq, Repr

/-- The first ill-formed sequence of a file. -/
structure Utf8Fault where
  /-- What is wrong. -/
  reason : Utf8Reason
  /-- The first byte of the sequence. -/
  byte : UInt8
  /-- The position of that byte. -/
  position : Nat
  /-- How many bytes belong to the sequence. -/
  length : Nat
  deriving DecidableEq, Repr

namespace Utf8Fault

/-- The wording of a fault. -/
def message (fault : Utf8Fault) : String :=
  let subject :=
    if fault.length = 1 then
      "byte 0x" ++ hex 2 fault.byte.toNat ++ " in position " ++ toString fault.position
    else
      "bytes in position " ++ toString fault.position ++ "-" ++
        toString (fault.position + fault.length - 1)
  let reason :=
    match fault.reason with
    | .start => "invalid start byte"
    | .continuation => "invalid continuation byte"
    | .truncated => "unexpected end of data"
  "'utf-8' codec can't decode " ++ subject ++ ": " ++ reason

end Utf8Fault

/-- What a first byte announces. -/
structure Lead where
  /-- How many bytes continue the sequence. -/
  following : Nat
  /-- The least value of the next byte. -/
  low : UInt8
  /-- The greatest value of the next byte. -/
  high : UInt8
  /-- The bits of the code point that the first byte holds. -/
  bits : Nat

/-- The sequence that a first byte announces. -/
def lead? (byte : UInt8) : Option Lead :=
  let value := byte.toNat
  if value < 0x80 then some ⟨0, 0x80, 0xBF, value⟩
  else if value < 0xC2 then none
  else if value < 0xE0 then some ⟨1, 0x80, 0xBF, value - 0xC0⟩
  else if value = 0xE0 then some ⟨2, 0xA0, 0xBF, 0⟩
  else if value = 0xED then some ⟨2, 0x80, 0x9F, 0xD⟩
  else if value < 0xF0 then some ⟨2, 0x80, 0xBF, value - 0xE0⟩
  else if value = 0xF0 then some ⟨3, 0x90, 0xBF, 0⟩
  else if value < 0xF4 then some ⟨3, 0x80, 0xBF, value - 0xF0⟩
  else if value = 0xF4 then some ⟨3, 0x80, 0x8F, 4⟩
  else none

/-- Where decoding stands inside a sequence. -/
structure Sequence where
  /-- The first byte of the sequence. -/
  first : UInt8
  /-- The position of the first byte. -/
  position : Nat
  /-- How many bytes of the sequence have been read. -/
  taken : Nat
  /-- How many bytes are still due; it is positive. -/
  due : Nat
  /-- The least value of the next byte. -/
  low : UInt8
  /-- The greatest value of the next byte. -/
  high : UInt8
  /-- The bits of the code point read so far. -/
  bits : Nat

/-- Begins a sequence at a byte: either a whole character or an open sequence. -/
def beginSequence (position : Nat) (byte : UInt8) : Except Utf8Fault (Char ⊕ Sequence) :=
  match lead? byte with
  | none => .error ⟨.start, byte, position, 1⟩
  | some announced =>
    if announced.following = 0 then .ok (.inl (Char.ofNat announced.bits))
    else
      .ok (.inr ⟨byte, position, 1, announced.following, announced.low, announced.high,
        announced.bits⟩)

/--
Decodes bytes from a position.  The open sequence, if there is one, ends at that position.
-/
def decodeFrom : Nat → Option Sequence → List UInt8 → Except Utf8Fault (List Char)
  | _, none, [] => .ok []
  | _, some pending, [] =>
    .error ⟨.truncated, pending.first, pending.position, pending.taken⟩
  | position, none, byte :: rest =>
    match beginSequence position byte with
    | .error fault => .error fault
    | .ok (.inl character) => (decodeFrom (position + 1) none rest).map (character :: ·)
    | .ok (.inr pending) => decodeFrom (position + 1) (some pending) rest
  | position, some pending, byte :: rest =>
    if pending.low ≤ byte ∧ byte ≤ pending.high then
      let bits := pending.bits * 64 + (byte.toNat - 0x80)
      if pending.due ≤ 1 then
        (decodeFrom (position + 1) none rest).map (Char.ofNat bits :: ·)
      else
        decodeFrom (position + 1)
          (some { pending with
            taken := pending.taken + 1, due := pending.due - 1, low := 0x80, high := 0xBF,
            bits := bits })
          rest
    else .error ⟨.continuation, pending.first, pending.position, pending.taken⟩

/-- The characters of a file in UTF-8. -/
def decodeUtf8 (bytes : List UInt8) : Except Utf8Fault (List Char) :=
  decodeFrom 0 none bytes

/--
A file that is decoded piece by piece counts positions from its last incomplete sequence, so a
truncated sequence at the end of the file stands at position zero.
-/
def Utf8Fault.streamed (fault : Utf8Fault) : Utf8Fault :=
  match fault.reason with
  | .truncated => { fault with position := 0 }
  | _ => fault

end Text
end TapeMachine
