import TapeMachine.Text.Quoted

/-!
# Bytes as characters

A byte stands for the character with the same code point.  A text can be turned into bytes
when every code point is below 256; otherwise the first run of characters beyond that range
is reported.
-/

namespace TapeMachine
namespace Text

/-- The first run of characters that no byte stands for. -/
structure LatinFault where
  /-- The first character of the run. -/
  character : Char
  /-- The position of the first character of the run. -/
  first : Nat
  /-- The position of the last character of the run. -/
  last : Nat
  deriving DecidableEq, Repr

namespace LatinFault

/-- The wording of a fault. -/
def message (fault : LatinFault) : String :=
  let subject :=
    if fault.first = fault.last then
      "character '" ++ codePointEscape fault.character ++ "' in position " ++
        toString fault.first
    else
      "characters in position " ++ toString fault.first ++ "-" ++ toString fault.last
  "'latin-1' codec can't encode " ++ subject ++ ": ordinal not in range(256)"

end LatinFault

/-- Whether one byte stands for a character. -/
def isLatin (character : Char) : Bool :=
  character.toNat < 256

/-- Turns characters into bytes, the first of them standing at a position. -/
def latinBytesFrom (position : Nat) : List Char → Except LatinFault (List UInt8)
  | [] => .ok []
  | character :: rest =>
    if isLatin character then
      (latinBytesFrom (position + 1) rest).map (UInt8.ofNat character.toNat :: ·)
    else
      let run := (rest.takeWhile fun c => !isLatin c).length
      .error ⟨character, position, position + run⟩

/-- The bytes that stand for a text. -/
def latinBytes (text : String) : Except LatinFault (List UInt8) :=
  latinBytesFrom 0 text.toList

/-- The text that bytes stand for. -/
def ofLatinBytes (bytes : List UInt8) : String :=
  String.ofList (bytes.map charOfByte)

theorem latinBytesFrom_of_forall_isLatin
    (position : Nat)
    (characters : List Char)
    (latin : ∀ character ∈ characters, isLatin character = true) :
    latinBytesFrom position characters =
      .ok (characters.map fun character => UInt8.ofNat character.toNat) := by
  induction characters generalizing position with
  | nil => rfl
  | cons character rest inductionHypothesis =>
      obtain ⟨first, others⟩ := List.forall_mem_cons.mp latin
      rw [latinBytesFrom, if_pos first, inductionHypothesis (position + 1) others]
      rfl

/-- A character that a byte stands for can be told from the byte. -/
theorem charOfByte_ofNat_toNat
    {character : Char}
    (latin : isLatin character = true) :
    charOfByte (UInt8.ofNat character.toNat) = character := by
  have small : character.toNat < 256 := of_decide_eq_true latin
  rw [charOfByte, UInt8.toNat_ofNat', Nat.mod_eq_of_lt small, Char.ofNat_toNat]

/-- A text of which every character is a byte stands for bytes that stand for it. -/
theorem exists_latinBytes
    {text : String}
    (latin : ∀ character ∈ text.toList, isLatin character = true) :
    ∃ bytes, latinBytes text = .ok bytes ∧ ofLatinBytes bytes = text ∧
      bytes = text.toList.map fun character => UInt8.ofNat character.toNat := by
  refine ⟨_, latinBytesFrom_of_forall_isLatin 0 text.toList latin, ?_, rfl⟩
  have same : text.toList.map (charOfByte ∘ fun character => UInt8.ofNat character.toNat) =
      text.toList.map id := by
    apply List.map_congr_left
    intro character member
    exact charOfByte_ofNat_toNat (latin character member)
  rw [ofLatinBytes, List.map_map, same, List.map_id, String.ofList_toList]

end Text
end TapeMachine
