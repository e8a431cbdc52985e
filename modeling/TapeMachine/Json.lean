import TapeMachine.Location
import TapeMachine.Text.Digit
import TapeMachine.Text.Integer
import TapeMachine.Value.Basic

/-!
# Values in JSON

A reader for JSON texts.  Besides the standard it knows the three literals for numbers that
are not finite.  Of two entries with one key the later value counts, in the earlier place.
The first error in the text is reported with its location.
-/

namespace TapeMachine
namespace Json

/-- What is wrong at a place of a JSON text. -/
inductive Reason
  /-- A value was expected. -/
  | value
  /-- The key of an entry was expected. -/
  | key
  /-- A colon was expected. -/
  | colon
  /-- A comma was expected. -/
  | comma
  /-- Something follows the value. -/
  | extra
  /-- A text is not terminated. -/
  | unterminated
  /-- A control character stands in a text. -/
  | control
  /-- An escape is unknown. -/
  | escape
  /-- An escape by code point is malformed. -/
  | codePoint
  /-- The text starts with a byte order mark. -/
  | byteOrderMark
  deriving DecidableEq, Repr

/-- The wording of a reason. -/
def Reason.message : Reason → String
  | value => "Expecting value"
  | key => "Expecting property name enclosed in double quotes"
  | colon => "Expecting ':' delimiter"
  | comma => "Expecting ',' delimiter"
  | extra => "Extra data"
  | unterminated => "Unterminated string starting at"
  | control => "Invalid control character at"
  | escape => "Invalid \\escape"
  | codePoint => "Invalid \\uXXXX escape"
  | byteOrderMark => "Unexpected UTF-8 BOM (decode using utf-8-sig)"

/-- Why a text is no JSON text. -/
inductive Fault
  /-- Something is wrong at an offset. -/
  | malformed (reason : Reason) (offset : Nat)
  /-- An integer has too many digits. -/
  | integer (fault : Text.IntegerFault)
  deriving DecidableEq, Repr

/-- The wording of a fault in a text. -/
def Fault.message (document : List Char) : Fault → String
  | malformed reason offset =>
    let location := Location.ofOffset document offset
    reason.message ++ ": line " ++ toString location.line ++ " column " ++
      toString location.column ++ " (char " ++ toString offset ++ ")"
  | integer fault => fault.message

/-- What is left of a text, and where it starts. -/
structure Place where
  /-- How many characters have been read. -/
  offset : Nat
  /-- The characters that have not been read. -/
  rest : List Char

/-- A place after some more characters. -/
def Place.after (place : Place) (count : Nat) : Place :=
  ⟨place.offset + count, place.rest.drop count⟩

/-- A fault at a place. -/
def Place.fault (place : Place) (reason : Reason) : Fault :=
  .malformed reason place.offset

/-- White space between the parts of a JSON text. -/
def isSpace (character : Char) : Bool :=
  character = ' ' || character = '\t' || character = '\n' || character = '\r'

/-- Skips white space. -/
def Place.skipSpace (place : Place) : Place :=
  place.after (place.rest.takeWhile isSpace).length

/-- The character that a short escape stands for. -/
def shortEscape? : Char → Option Char
  | '\x22' => some '\x22'
  | '\x5c' => some '\x5c'
  | '/' => some '/'
  | 'b' => some '\x08'
  | 'f' => some '\x0c'
  | 'n' => some '\n'
  | 'r' => some '\r'
  | 't' => some '\t'
  | _ => none

/-- The value of four hexadecimal digits that are followed by something. -/
def fourDigits? : List Char → Option Nat
  | a :: b :: c :: d :: _ :: _ =>
    [a, b, c, d].mapM Text.hexValue? |>.map (Text.ofDigits 16)
  | _ => none

/-- The second half of a pair of escapes that together stand for one character. -/
def lowHalf? : List Char → Option Nat
  | '\x5c' :: 'u' :: rest =>
    match fourDigits? rest with
    | some low => if 0xDC00 ≤ low ∧ low < 0xE000 then some low else none
    | none => none
  | _ => none

/--
Reads the rest of a text after its opening quote, which stands at an offset.  The fuel bounds
the number of characters.
-/
def readText (opening : Nat) : Nat → Place → List Char → Except Fault (String × Place)
  | 0, _, _ => .error (.malformed .unterminated opening)
  | fuel + 1, place, read =>
    match place.rest with
    | [] => .error (.malformed .unterminated opening)
    | '\x22' :: _ => .ok (String.ofList read.reverse, place.after 1)
    | '\x5c' :: [] => .error (.malformed .unterminated opening)
    | '\x5c' :: 'u' :: rest =>
      match fourDigits? rest with
      | none => .error ((place.after 1).fault .codePoint)
      | some point =>
        match if 0xD800 ≤ point ∧ point < 0xDC00 then lowHalf? (rest.drop 4) else none with
        | some low =>
          let joined := 0x10000 + (point - 0xD800) * 0x400 + (low - 0xDC00)
          readText opening fuel (place.after 12) (Char.ofNat joined :: read)
        | none =>
          let character :=
            if 0xD800 ≤ point ∧ point < 0xE000 then '\uFFFD' else Char.ofNat point
          readText opening fuel (place.after 6) (character :: read)
    | '\x5c' :: letter :: _ =>
      match shortEscape? letter with
      | some character => readText opening fuel (place.after 2) (character :: read)
      | none => .error (place.fault .escape)
    | character :: _ =>
      if character.toNat < 0x20 then .error (place.fault .control)
      else readText opening fuel (place.after 1) (character :: read)

/-- The literals that are words. -/
def words : List (String × Scalar) :=
  [("null", .null), ("true", .bool true), ("false", .bool false), ("NaN", .float .nan),
   ("Infinity", .float (.infinite false)), ("-Infinity", .float (.infinite true))]

/-- The word that stands at a place. -/
def readWord? (place : Place) : Option (Scalar × Place) :=
  (words.find? fun entry => entry.1.toList.isPrefixOf place.rest).map fun entry =>
    (entry.2, place.after entry.1.length)

/-- The digits that stand first. -/
def leadingDigits (characters : List Char) : List Char :=
  characters.takeWhile Char.isDigit

/-- The whole part of a number: a zero, or digits that do not start with one. -/
def wholePart? : List Char → Option (List Char)
  | '0' :: _ => some ['0']
  | characters =>
    let digits := leadingDigits characters
    if digits.isEmpty then none else some digits

/-- The digits of a fraction, without its point. -/
def fractionPart : List Char → List Char
  | '.' :: rest => leadingDigits rest
  | _ => []

/-- The sign and the digits of an exponent, and how many characters it takes. -/
def exponentPart? (characters : List Char) : Option (Bool × List Char × Nat) :=
  match characters with
  | mark :: rest =>
    if mark = 'e' ∨ mark = 'E' then
      let (negative, digits) := Text.splitSign rest
      let found := leadingDigits digits
      if found.isEmpty then none
      else some (negative, found, 1 + (rest.length - digits.length) + found.length)
    else none
  | [] => none

/-- The number that a row of ASCII digits stands for. -/
def decimalValue (digits : List Char) : Nat :=
  Text.ofDigits 10 (digits.map fun digit => digit.toNat - 48)

/-- The number that stands at a place. -/
def readNumber? (place : Place) : Option (Except Fault (Scalar × Place)) :=
  let negative := place.rest.head? = some '-'
  let start := if negative then place.after 1 else place
  match wholePart? start.rest with
  | none => none
  | some whole =>
    let afterWhole := start.after whole.length
    let fraction := fractionPart afterWhole.rest
    let afterFraction :=
      if fraction.isEmpty then afterWhole else afterWhole.after (fraction.length + 1)
    match exponentPart? afterFraction.rest with
    | some (down, digits, length) =>
      let power : Int := decimalValue digits
      let exponent := (if down then -power else power) - fraction.length
      some (.ok (.float (.ofDecimal negative (decimalValue (whole ++ fraction)) exponent),
        afterFraction.after length))
    | none =>
      if fraction.isEmpty then
        if Text.digitLimit < whole.length then
          some (.error (.integer (.tooLong whole.length)))
        else
          let magnitude : Int := decimalValue whole
          some (.ok (.int (if negative then -magnitude else magnitude), afterFraction))
      else
        some (.ok (.float (.ofDecimal negative (decimalValue (whole ++ fraction))
          (-fraction.length)), afterFraction))

mutual

/-- Reads a value; the fuel bounds the depth of the reading. -/
def readValue : Nat → Place → Except Fault (Value × Place)
  | 0, place => .error (place.fault .value)
  | fuel + 1, place =>
    match place.rest with
    | [] => .error (place.fault .value)
    | '\x22' :: _ =>
      match readText place.offset (place.rest.length + 1) (place.after 1) [] with
      | .ok (content, rest) => .ok (.text content, rest)
      | .error fault => .error fault
    | '\x7b' :: _ =>
      let inside := (place.after 1).skipSpace
      if inside.rest.head? = some '\x7d' then .ok (.map [], inside.after 1)
      else readEntries fuel inside []
    | '[' :: _ =>
      let inside := (place.after 1).skipSpace
      if inside.rest.head? = some ']' then .ok (.list [], inside.after 1)
      else readItems fuel inside []
    | _ =>
      match readWord? place with
      | some (word, rest) => .ok (.scalar word, rest)
      | none =>
        match readNumber? place with
        | some (.ok (number, rest)) => .ok (.scalar number, rest)
        | some (.error fault) => .error fault
        | none => .error (place.fault .value)

/-- Reads the items of a list from the first of them on; the items read come last first. -/
def readItems : Nat → Place → List Value → Except Fault (Value × Place)
  | 0, place, _ => .error (place.fault .value)
  | fuel + 1, place, read =>
    match readValue fuel place with
    | .error fault => .error fault
    | .ok (item, rest) =>
      let next := rest.skipSpace
      match next.rest with
      | ']' :: _ => .ok (.list (item :: read).reverse, next.after 1)
      | ',' :: _ => readItems fuel (next.after 1).skipSpace (item :: read)
      | _ => .error (next.fault .comma)

/-- Reads the entries of a map from the first of them on. -/
def readEntries : Nat → Place → Entries → Except Fault (Value × Place)
  | 0, place, _ => .error (place.fault .value)
  | fuel + 1, place, read =>
    match place.rest with
    | '\x22' :: _ =>
      match readText place.offset (place.rest.length + 1) (place.after 1) [] with
      | .error fault => .error fault
      | .ok (key, afterKey) =>
        let colon := afterKey.skipSpace
        if colon.rest.head? ≠ some ':' then .error (colon.fault .colon)
        else
          match readValue fuel (colon.after 1).skipSpace with
          | .error fault => .error fault
          | .ok (value, rest) =>
            let entries := read.put (.text key) value
            let next := rest.skipSpace
            match next.rest with
            | '\x7d' :: _ => .ok (.map entries, next.after 1)
            | ',' :: _ => readEntries fuel (next.after 1).skipSpace entries
            | _ => .error (next.fault .comma)
    | _ => .error (place.fault .key)

end

/-- Reads a JSON text. -/
def read (document : List Char) : Except Fault Value :=
  if document.head? = some '\uFEFF' then .error (.malformed .byteOrderMark 0)
  else
    match readValue (2 * document.length + 2) (Place.skipSpace ⟨0, document⟩) with
    | .error fault => .error fault
    | .ok (value, rest) =>
      let final := rest.skipSpace
      if final.rest.isEmpty then .ok value else .error (final.fault .extra)

end Json
end TapeMachine
