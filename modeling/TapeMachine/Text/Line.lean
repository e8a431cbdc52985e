/-!
# Lines

Reading a text file turns every line ending into a newline.  Lines of characters exclude
the newline that ends them; chunks of bytes keep it.
-/

namespace TapeMachine
namespace Text

/-- Turns carriage returns, alone or before a newline, into newlines. -/
def universalNewlines : List Char → List Char
  | [] => []
  | '\r' :: '\n' :: rest => '\n' :: universalNewlines rest
  | '\r' :: rest => '\n' :: universalNewlines rest
  | character :: rest => character :: universalNewlines rest

/-- The lines of a text: the pieces between its newlines, of which there is at least one. -/
def lines : List Char → List (List Char)
  | [] => [[]]
  | character :: rest =>
    if character = '\n' then [] :: lines rest
    else
      match lines rest with
      | [] => [[character]]
      | line :: more => (character :: line) :: more

/-- Lines as they are written, each of them ended by a newline. -/
def written (lines : List String) : String :=
  String.join (lines.map (· ++ "\n"))

/-- The bytes up to and including the first newline byte, and the bytes after it. -/
def splitChunk : List UInt8 → List UInt8 × List UInt8
  | [] => ([], [])
  | byte :: rest =>
    if byte = 0x0A then ([byte], rest)
    else
      let (chunk, remaining) := splitChunk rest
      (byte :: chunk, remaining)

/-- Cutting off a chunk loses nothing. -/
theorem splitChunk_append (bytes : List UInt8) :
    (splitChunk bytes).1 ++ (splitChunk bytes).2 = bytes := by
  induction bytes with
  | nil => rfl
  | cons byte rest ih =>
    unfold splitChunk
    split
    · rfl
    · simpa using ih

/-- There is always at least one line. -/
theorem lines_ne_nil (text : List Char) : lines text ≠ [] := by
  cases text with
  | nil => simp [lines]
  | cons character rest =>
    unfold lines
    split
    · simp
    · split <;> simp

end Text
end TapeMachine
