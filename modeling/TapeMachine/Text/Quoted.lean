import TapeMachine.Text.Digit
import TapeMachine.Text.Printable

/-!
# Quoted literals

Texts and byte strings are shown between quotes.  The quote is an apostrophe unless the
content holds an apostrophe and no double quote.  Backslashes, the quote in use and
everything that cannot be shown as it is are escaped.
-/

namespace TapeMachine
namespace Text

/-- The quote that encloses a content. -/
def quoteFor (content : List Char) : Char :=
  if content.contains '\x27' && !content.contains '\x22' then '\x22' else '\x27'

/-- A character by its code point, in the shortest of the three fixed widths. -/
def codePointEscape (character : Char) : String :=
  let point := character.toNat
  if point < 0x100 then "\\x" ++ hex 2 point
  else if point < 0x10000 then "\\u" ++ hex 4 point
  else "\\U" ++ hex 8 point

/-- A character as it stands between quotes, given which characters can be shown. -/
def escapeWith (shown : Char → Bool) (quote character : Char) : String :=
  if character = quote ∨ character = '\x5c' then String.ofList ['\x5c', character]
  else if character = '\n' then "\\n"
  else if character = '\r' then "\\r"
  else if character = '\t' then "\\t"
  else if shown character then String.singleton character
  else codePointEscape character

/-- A content between quotes, given which characters can be shown. -/
def quoteWith (shown : Char → Bool) (content : List Char) : String :=
  let quote := quoteFor content
  String.singleton quote ++
    String.join (content.map (escapeWith shown quote)) ++
    String.singleton quote

/-- A text as a quoted literal. -/
def quote (text : String) : String :=
  quoteWith isPrintable text.toList

/-- The character whose code point is a byte. -/
def charOfByte (byte : UInt8) : Char :=
  Char.ofNat byte.toNat

/-- A byte string as a quoted literal: printable ASCII stands for itself. -/
def quoteBytes (bytes : List UInt8) : String :=
  "b" ++ quoteWith (fun c => 0x20 ≤ c.toNat && c.toNat < 0x7F) (bytes.map charOfByte)

end Text
end TapeMachine
