import TapeMachine.Text.Digit

/-!
# Tokens of a document

A YAML document is read as a row of tokens.  Blocks are marked by indentation: a token that
stands further to the right than its surroundings may open a block, and a token further to the
left closes the blocks it leaves.  A colon turns the text before it into a key, so the places
at which a key may have started are remembered until the line ends.
-/

namespace TapeMachine
namespace Yaml

/-- A token of a document. -/
inductive Token
  /-- A block sequence starts. -/
  | sequenceStart
  /-- A block mapping starts. -/
  | mappingStart
  /-- A block ends. -/
  | blockEnd
  /-- An item of a block sequence follows. -/
  | entry
  /-- A key follows. -/
  | key
  /-- A value follows. -/
  | value
  /-- A bracket opens. -/
  | bracketOpen
  /-- A bracket closes. -/
  | bracketClose
  /-- A brace opens. -/
  | braceOpen
  /-- A brace closes. -/
  | braceClose
  /-- A comma between brackets or braces. -/
  | comma
  /-- A scalar, and whether it stands without quotes and marks. -/
  | scalar (text : String) (plain : Bool)
  /-- A document starts. -/
  | documentStart
  /-- A document ends. -/
  | documentEnd
  deriving DecidableEq, Repr

/-- A place at which a key may have started. -/
structure KeyStart where
  /-- The number of tokens before it. -/
  tokens : Nat
  /-- Whether a key has to start there. -/
  required : Bool
  /-- The number of characters before it. -/
  index : Nat
  /-- Its line. -/
  line : Nat
  /-- Its column. -/
  column : Nat

/-- How far the reading of tokens has come. -/
structure Scan where
  /-- The characters that have not been read. -/
  rest : List Char
  /-- The number of characters that have been read. -/
  index : Nat := 0
  /-- The line, counted from zero. -/
  line : Nat := 0
  /-- The column, counted from zero. -/
  column : Nat := 0
  /-- The indentation of the innermost block, or minus one outside every block. -/
  indent : Int := -1
  /-- The indentations of the blocks around it. -/
  outer : List Int := []
  /-- The possible key of every open bracket or brace, and last of the block itself. -/
  keys : List (Option KeyStart) := [none]
  /-- Whether a key may start here. -/
  keyAllowed : Bool := true
  /-- The tokens read. -/
  tokens : Array Token := #[]

/-- A character that ends a line. -/
def isBreak (character : Char) : Bool :=
  character = '\n' || character = '\r' || character = '\x85' || character = '\u2028' ||
    character = '\u2029'

/-- A space, a tab or the end of a line. -/
def isGap (character : Char) : Bool :=
  character = ' ' || character = '\t' || isBreak character

/-- Whether a row of characters is at its end or starts with a gap. -/
def startsWithGap (characters : List Char) : Bool :=
  characters.head?.all isGap

/-- A character that can be part of a document. -/
def isReadable (character : Char) : Bool :=
  let point := character.toNat
  point = 0x09 || point = 0x0A || point = 0x0D || (0x20 ≤ point && point ≤ 0x7E) ||
    point = 0x85 || (0xA0 ≤ point && point ≤ 0xFFFD) || 0x10000 ≤ point

/-- Three marks in the first column, followed by a gap, separate documents. -/
def startsWithMark (characters : List Char) : Bool :=
  (['-', '-', '-'].isPrefixOf characters || ['.', '.', '.'].isPrefixOf characters) &&
    startsWithGap (characters.drop 3)

namespace Scan

/-- Whether brackets or braces are open. -/
def inFlow (scan : Scan) : Bool :=
  1 < scan.keys.length

/-- The next character. -/
def next? (scan : Scan) : Option Char :=
  scan.rest.head?

/-- Reads one character. -/
def forward (scan : Scan) : Scan :=
  match scan.rest with
  | [] => scan
  | character :: rest =>
    if isBreak character && !(character = '\r' && rest.head? = some '\n') then
      { scan with rest := rest, index := scan.index + 1, line := scan.line + 1, column := 0 }
    else if character = '\uFEFF' then { scan with rest := rest, index := scan.index + 1 }
    else { scan with rest := rest, index := scan.index + 1, column := scan.column + 1 }

/-- Reads some characters. -/
def forwardBy : Nat → Scan → Scan
  | 0, scan => scan
  | count + 1, scan => forwardBy count scan.forward

/-- Reads the characters that satisfy a predicate. -/
def forwardWhile (scan : Scan) (holds : Char → Bool) : List Char × Scan :=
  let taken := scan.rest.takeWhile holds
  (taken, scan.forwardBy taken.length)

/-- Reads the end of a line, if there is one here. -/
def lineBreak (scan : Scan) : List Char × Scan :=
  match scan.rest with
  | '\r' :: '\n' :: _ => (['\n'], scan.forwardBy 2)
  | character :: _ =>
    if character = '\u2028' || character = '\u2029' then ([character], scan.forward)
    else if isBreak character then (['\n'], scan.forward)
    else ([], scan)
  | [] => ([], scan)

/-- Reads a token that is a number of characters long. -/
def take (scan : Scan) (count : Nat) (token : Token) : Scan :=
  { scan.forwardBy count with tokens := scan.tokens.push token }

/-- Skips blanks, comments and ends of lines. -/
def toToken : Nat → Scan → Scan
  | 0, scan => scan
  | fuel + 1, scan =>
    let (_, afterSpaces) := scan.forwardWhile (· = ' ')
    let afterComment :=
      if afterSpaces.next? = some '#' then (afterSpaces.forwardWhile (!isBreak ·)).2
      else afterSpaces
    let (ending, afterBreak) := afterComment.lineBreak
    if ending.isEmpty then afterComment
    else if afterBreak.inFlow then toToken fuel afterBreak
    else toToken fuel { afterBreak with keyAllowed := true }

/-- A possible key is forgotten when its line has ended or it is too far behind. -/
def isStale (scan : Scan) (key : KeyStart) : Bool :=
  key.line != scan.line || key.index + 1024 < scan.index

/-- Forgets stale keys; a key that was required is missed. -/
def dropStale (scan : Scan) : Option Scan :=
  let missed := scan.keys.any fun entry =>
    entry.any fun key => scan.isStale key && key.required
  if missed then none
  else
    some { scan with
      keys := scan.keys.map fun entry => entry.filter fun key => !scan.isStale key }

/-- Forgets the possible key of the innermost level; a key that was required is missed. -/
def forgetKey (scan : Scan) : Option Scan :=
  match scan.keys with
  | some key :: outer => if key.required then none else some { scan with keys := none :: outer }
  | _ => some scan

/-- Remembers that a key may start here. -/
def rememberKey (scan : Scan) : Option Scan :=
  if scan.keyAllowed then do
    let forgotten ← scan.forgetKey
    let key : KeyStart :=
      { tokens := scan.tokens.size
        required := !scan.inFlow && scan.indent = scan.column
        index := scan.index
        line := scan.line
        column := scan.column }
    some { forgotten with keys := some key :: forgotten.keys.drop 1 }
  else some scan

/-- Closes the blocks that are indented further than a column. -/
def closeBlocks (column : Int) : List Int → Scan → Scan
  | [], scan => scan
  | enclosing :: more, scan =>
    if column < scan.indent then
      closeBlocks column more
        { scan with
          indent := enclosing, outer := more, tokens := scan.tokens.push .blockEnd }
    else scan

/-- Closes the blocks that are indented further than a column; brackets suspend indentation. -/
def unwind (scan : Scan) (column : Int) : Scan :=
  if scan.inFlow then scan else closeBlocks column scan.outer scan

/-- Opens a block at a column if it stands further to the right than the innermost block. -/
def openBlock? (scan : Scan) (column : Nat) : Option Scan :=
  if scan.indent < column then
    some { scan with indent := column, outer := scan.indent :: scan.outer }
  else none

/-- Puts a token before the tokens from a number on. -/
def insertToken (scan : Scan) (position : Nat) (token : Token) : Scan :=
  { scan with
    tokens := scan.tokens.extract 0 position ++ #[token] ++
      scan.tokens.extract position scan.tokens.size }

/-- Opens a block where it starts with the token to come. -/
def openHere (scan : Scan) (token : Token) : Scan :=
  match scan.openBlock? scan.column with
  | some opened => { opened with tokens := opened.tokens.push token }
  | none => scan

/-- Reads a mark that separates documents. -/
def documentMark (scan : Scan) (token : Token) : Option Scan := do
  let forgotten ← (scan.unwind (-1)).forgetKey
  some ({ forgotten with keyAllowed := false }.take 3 token)

/-- Reads an opening bracket or brace. -/
def flowOpen (scan : Scan) (token : Token) : Option Scan := do
  let remembered ← scan.rememberKey
  some ({ remembered with keys := none :: remembered.keys, keyAllowed := true }.take 1 token)

/-- Reads a closing bracket or brace; there has to be an open one. -/
def flowClose (scan : Scan) (token : Token) : Option Scan :=
  if scan.inFlow then do
    let forgotten ← scan.forgetKey
    some ({ forgotten with keys := forgotten.keys.drop 1, keyAllowed := false }.take 1 token)
  else none

/-- Reads a comma. -/
def flowComma (scan : Scan) : Option Scan := do
  let forgotten ← scan.forgetKey
  some ({ forgotten with keyAllowed := true }.take 1 .comma)

/-- Reads the dash before an item. -/
def blockEntry (scan : Scan) : Option Scan :=
  if scan.inFlow then none
  else if !scan.keyAllowed then none
  else do
    let forgotten ← (scan.openHere .sequenceStart).forgetKey
    some ({ forgotten with keyAllowed := true }.take 1 .entry)

/-- Reads the question mark before a key. -/
def explicitKey (scan : Scan) : Option Scan :=
  if !scan.inFlow && !scan.keyAllowed then none
  else do
    let opened := if scan.inFlow then scan else scan.openHere .mappingStart
    let forgotten ← opened.forgetKey
    some ({ forgotten with keyAllowed := !scan.inFlow }.take 1 .key)

/-- Reads the colon before a value: what a key may have started with is a key now. -/
def valueMark (scan : Scan) : Option Scan :=
  match scan.keys with
  | some key :: outer =>
    let keyed := { scan with keys := none :: outer }.insertToken key.tokens .key
    let opened :=
      if keyed.inFlow then keyed
      else
        match keyed.openBlock? key.column with
        | some opened => opened.insertToken key.tokens .mappingStart
        | none => keyed
    some ({ opened with keyAllowed := false }.take 1 .value)
  | _ =>
    if !scan.inFlow && !scan.keyAllowed then none
    else
      let opened := if scan.inFlow then scan else scan.openHere .mappingStart
      some ({ opened with keyAllowed := !scan.inFlow }.take 1 .value)

/-- How many characters of a plain scalar stand before the next gap. -/
def plainLength (inFlow : Bool) : List Char → Nat
  | [] => 0
  | character :: rest =>
    let ends :=
      isGap character ||
        (character = ':' &&
          rest.head?.all fun following =>
            isGap following || (inFlow && [',', '[', ']', '\x7b', '\x7d'].contains following)) ||
        (inFlow && [',', '?', '[', ']', '\x7b', '\x7d'].contains character)
    if ends then 0 else plainLength inFlow rest + 1

/-- Reads blank lines within a plain scalar; there is no answer at a mark between documents. -/
def plainBreaks : Nat → Scan → List Char → Option (List Char) × Scan
  | 0, scan, breaks => (some breaks, scan)
  | fuel + 1, scan, breaks =>
    if scan.next? = some ' ' then plainBreaks fuel scan.forward breaks
    else
      let (ending, afterBreak) := scan.lineBreak
      if ending.isEmpty then (some breaks, scan)
      else if startsWithMark afterBreak.rest then (none, afterBreak)
      else plainBreaks fuel afterBreak (breaks ++ ending)

/-- Joins what lies between two pieces of a scalar: a single end of line becomes a blank. -/
def foldBreaks (ending breaks : List Char) : List Char :=
  (if ending ≠ ['\n'] then ending else if breaks.isEmpty then [' '] else []) ++ breaks

/-- Reads the gap after a piece of a plain scalar. -/
def plainGap (scan : Scan) : List Char × Scan :=
  let (spaces, afterSpaces) := scan.forwardWhile (· = ' ')
  let (ending, afterBreak) := afterSpaces.lineBreak
  if ending.isEmpty then (spaces, afterSpaces)
  else
    let allowed := { afterBreak with keyAllowed := true }
    if startsWithMark allowed.rest then ([], allowed)
    else
      match plainBreaks (allowed.rest.length + 1) allowed [] with
      | (some breaks, rest) => (foldBreaks ending breaks, rest)
      | (none, rest) => ([], rest)

/-- Reads the pieces of a plain scalar. -/
def plainPieces : Nat → Scan → List Char → List Char → List Char × Scan
  | 0, scan, _, read => (read, scan)
  | fuel + 1, scan, gap, read =>
    let length := plainLength scan.inFlow scan.rest
    if scan.next? = some '#' || length = 0 then (read, scan)
    else
      let pieces := read ++ gap ++ scan.rest.take length
      let (following, rest) := ({ scan with keyAllowed := false }.forwardBy length).plainGap
      let outdented := !rest.inFlow && (rest.column : Int) < rest.indent + 1
      if following.isEmpty || rest.next? = some '#' || outdented then (pieces, rest)
      else plainPieces fuel rest following pieces

/-- Reads a plain scalar. -/
def plainScalar (scan : Scan) : Option Scan := do
  let remembered ← scan.rememberKey
  let (text, rest) :=
    plainPieces (scan.rest.length + 1) { remembered with keyAllowed := false } [] []
  some { rest with tokens := rest.tokens.push (.scalar (String.ofList text) true) }

/-- The character that an escape of one letter stands for. -/
def letterEscape? : Char → Option Char
  | '0' => some '\x00'
  | 'a' => some '\x07'
  | 'b' => some '\x08'
  | 't' => some '\t'
  | '\t' => some '\t'
  | 'n' => some '\n'
  | 'v' => some '\x0b'
  | 'f' => some '\x0c'
  | 'r' => some '\r'
  | 'e' => some '\x1b'
  | ' ' => some ' '
  | '\x22' => some '\x22'
  | '\x5c' => some '\x5c'
  | '/' => some '/'
  | 'N' => some '\x85'
  | '_' => some '\xa0'
  | 'L' => some '\u2028'
  | 'P' => some '\u2029'
  | _ => none

/-- How many hexadecimal digits follow an escape by code point. -/
def codeLength? : Char → Option Nat
  | 'x' => some 2
  | 'u' => some 4
  | 'U' => some 8
  | _ => none

/-- The character that a row of hexadecimal digits stands for. -/
def codeCharacter? (length : Nat) (characters : List Char) : Option Char := do
  let digits ← (characters.take length).mapM Text.hexValue?
  if digits.length = length then some (Char.ofNat (Text.ofDigits 16 digits)) else none

/-- Reads the blank lines within a quoted scalar. -/
def quotedBreaks : Nat → Scan → List Char → Option (List Char × Scan)
  | 0, scan, breaks => some (breaks, scan)
  | fuel + 1, scan, breaks =>
    if startsWithMark scan.rest then none
    else
      let (_, afterGap) := scan.forwardWhile fun character => character = ' ' || character = '\t'
      let (ending, afterBreak) := afterGap.lineBreak
      if ending.isEmpty then some (breaks, afterGap)
      else quotedBreaks fuel afterBreak (breaks ++ ending)

/-- Reads the gap between two pieces of a quoted scalar. -/
def quotedGap (scan : Scan) : Option (List Char × Scan) :=
  let (spaces, afterSpaces) :=
    scan.forwardWhile fun character => character = ' ' || character = '\t'
  if afterSpaces.rest.isEmpty then none
  else
    let (ending, afterBreak) := afterSpaces.lineBreak
    if ending.isEmpty then some (spaces, afterSpaces)
    else do
      let (breaks, rest) ← quotedBreaks (afterBreak.rest.length + 1) afterBreak []
      some (foldBreaks ending breaks, rest)

/-- Reads an escape after its backslash. -/
def escape (scan : Scan) : Option (List Char × Scan) := do
  let letter ← scan.next?
  match letterEscape? letter with
  | some character => some ([character], scan.forward)
  | none =>
    match codeLength? letter with
    | some length => do
      let character ← codeCharacter? length (scan.rest.drop 1)
      some ([character], scan.forwardBy (length + 1))
    | none =>
      let (ending, afterBreak) := scan.lineBreak
      if ending.isEmpty then none
      else quotedBreaks (afterBreak.rest.length + 1) afterBreak []

/-- Reads the rest of a quoted scalar up to its closing quote. -/
def quotedRest (double : Bool) : Nat → Scan → List Char → Option (List Char × Scan)
  | 0, _, _ => none
  | fuel + 1, scan, read =>
    match scan.rest with
    | [] => none
    | character :: following =>
      if isGap character then do
        let (gap, rest) ← scan.quotedGap
        quotedRest double fuel rest (read ++ gap)
      else if double then
        if character = '\x22' then some (read, scan.forward)
        else if character = '\x5c' then do
          let (escaped, rest) ← scan.forward.escape
          quotedRest double fuel rest (read ++ escaped)
        else quotedRest double fuel scan.forward (read ++ [character])
      else if character = '\x27' then
        if following.head? = some '\x27' then
          quotedRest double fuel (scan.forwardBy 2) (read ++ [character])
        else some (read, scan.forward)
      else quotedRest double fuel scan.forward (read ++ [character])

/-- Reads a quoted scalar. -/
def quotedScalar (scan : Scan) (double : Bool) : Option Scan := do
  let remembered ← scan.rememberKey
  let (text, rest) ←
    quotedRest double (scan.rest.length + 1) { remembered with keyAllowed := false }.forward []
  some { rest with tokens := rest.tokens.push (.scalar (String.ofList text) false) }

/-- What the header of a block scalar says. -/
structure BlockHeader where
  /-- Whether the ends of the last lines are kept, dropped, or cut to one. -/
  keep : Option Bool := none
  /-- The indentation, where it is given. -/
  increment : Option Nat := none

/-- The digit of an indentation, which is not zero. -/
def incrementOf? (character : Char) : Option Nat :=
  if '1' ≤ character ∧ character ≤ '9' then some (character.toNat - 48) else none

/-- Reads a mark that keeps or drops the ends of the last lines. -/
def keepMark? : List Char → Option (Bool × List Char)
  | '+' :: rest => some (true, rest)
  | '-' :: rest => some (false, rest)
  | _ => none

/-- Reads the marks of a header, in either order. -/
def header (characters : List Char) : BlockHeader × List Char :=
  match keepMark? characters with
  | some (keep, rest) =>
    match rest with
    | digit :: more =>
      match incrementOf? digit with
      | some increment => (⟨some keep, some increment⟩, more)
      | none => (⟨some keep, none⟩, rest)
    | [] => (⟨some keep, none⟩, rest)
  | none =>
    match characters with
    | digit :: more =>
      match incrementOf? digit with
      | some increment =>
        match keepMark? more with
        | some (keep, rest) => (⟨some keep, some increment⟩, rest)
        | none => (⟨none, some increment⟩, more)
      | none => ({}, characters)
    | [] => ({}, characters)

/-- Reads the indentation of a line up to a column. -/
def indentTo (scan : Scan) (column : Nat) : Scan :=
  let spaces := (scan.rest.takeWhile (· = ' ')).length
  scan.forwardBy (min spaces (column - scan.column))

/-- Reads blank lines of a block scalar with a known indentation. -/
def blockBreaks (indent : Nat) : Nat → Scan → List Char → List Char × Scan
  | 0, scan, breaks => (breaks, scan)
  | fuel + 1, scan, breaks =>
    let indented := scan.indentTo indent
    let (ending, afterBreak) := indented.lineBreak
    if ending.isEmpty then (breaks, indented)
    else blockBreaks indent fuel afterBreak (breaks ++ ending)

/-- Reads the first blank lines of a block scalar and finds the widest indentation in them. -/
def blockIndent : Nat → Scan → List Char → Nat → List Char × Nat × Scan
  | 0, scan, breaks, widest => (breaks, widest, scan)
  | fuel + 1, scan, breaks, widest =>
    let (_, indented) := scan.forwardWhile (· = ' ')
    let wider := max widest indented.column
    let (ending, afterBreak) := indented.lineBreak
    if ending.isEmpty then (breaks, wider, indented)
    else blockIndent fuel afterBreak (breaks ++ ending) wider

/-- Reads the lines of a block scalar; the last end of line and what follows it come apart. -/
def blockLines (folded : Bool) (indent : Nat) :
    Nat → Scan → List Char → List Char → List Char → List Char × List Char × List Char × Scan
  | 0, scan, breaks, ending, read => (read, ending, breaks, scan)
  | fuel + 1, scan, breaks, ending, read =>
    if scan.column = indent && !scan.rest.isEmpty then
      let startsWithGap := scan.next?.any fun c => c = ' ' || c = '\t'
      let (text, afterText) := scan.forwardWhile (!isBreak ·)
      let (ending, afterBreak) := afterText.lineBreak
      let (following, rest) := blockBreaks indent (afterBreak.rest.length + 1) afterBreak []
      let pieces := read ++ breaks ++ text
      if rest.column = indent && !rest.rest.isEmpty then
        let nextStartsWithGap := rest.next?.any fun c => c = ' ' || c = '\t'
        let joint :=
          if folded && ending = ['\n'] && !startsWithGap && !nextStartsWithGap then
            if following.isEmpty then [' '] else []
          else ending
        blockLines folded indent fuel rest following [] (pieces ++ joint)
      else (pieces, ending, following, rest)
    else (read, ending, breaks, scan)

/-- Reads a block scalar. -/
def blockScalar (scan : Scan) (folded : Bool) : Option Scan := do
  let forgotten ← scan.forgetKey
  let start := { forgotten with keyAllowed := true }.forward
  let (marks, afterMarks) := header start.rest
  if !(afterMarks.head?.all fun character => character = ' ' || isBreak character) then none
  else
    let (_, afterSpaces) :=
      (start.forwardBy (start.rest.length - afterMarks.length)).forwardWhile (· = ' ')
    let afterComment :=
      if afterSpaces.next? = some '#' then (afterSpaces.forwardWhile (!isBreak ·)).2
      else afterSpaces
    if !afterComment.rest.isEmpty && !(afterComment.next?.any isBreak) then none
    else
      let (_, body) := afterComment.lineBreak
      let least := (max 1 (scan.indent + 1)).toNat
      let fuel := body.rest.length + 1
      let (breaks, indent, first) :=
        match marks.increment with
        | some increment =>
          let indent := least + increment - 1
          let (breaks, first) := blockBreaks indent fuel body []
          (breaks, indent, first)
        | none =>
          let (breaks, widest, first) := blockIndent fuel body [] 0
          (breaks, max least widest, first)
      let (text, ending, breaks, rest) := blockLines folded indent fuel first breaks [] []
      let kept :=
        match marks.keep with
        | some false => text
        | some true => text ++ ending ++ breaks
        | none => text ++ ending
      some { rest with tokens := rest.tokens.push (.scalar (String.ofList kept) false) }

/-- Whether a plain scalar can start with the characters that follow. -/
def startsPlain (inFlow : Bool) : List Char → Bool
  | [] => false
  | character :: rest =>
    let special :=
      isGap character ||
        ['-', '?', ':', ',', '[', ']', '\x7b', '\x7d', '#', '&', '*', '!', '|', '>', '\x27',
          '\x22', '%', '@', '\x60'].contains character
    !special ||
      (!startsWithGap rest &&
        (character = '-' || (!inFlow && (character = '?' || character = ':'))))

/-- Ends the reading: every block is closed. -/
def finish (scan : Scan) : Option Scan :=
  (scan.unwind (-1)).forgetKey

/-- Reads the token that starts here. -/
def token (scan : Scan) : Option Scan :=
  match scan.rest with
  | [] => none
  | character :: rest =>
    if scan.column = 0 && startsWithMark scan.rest then
      if character = '-' then scan.documentMark .documentStart
      else scan.documentMark .documentEnd
    else if character = '[' then scan.flowOpen .bracketOpen
    else if character = '\x7b' then scan.flowOpen .braceOpen
    else if character = ']' then scan.flowClose .bracketClose
    else if character = '\x7d' then scan.flowClose .braceClose
    else if character = ',' then scan.flowComma
    else if character = '-' && startsWithGap rest then scan.blockEntry
    else if character = '?' && (scan.inFlow || startsWithGap rest) then scan.explicitKey
    else if character = ':' && (scan.inFlow || startsWithGap rest) then scan.valueMark
    else if character = '|' && !scan.inFlow then scan.blockScalar false
    else if character = '>' && !scan.inFlow then scan.blockScalar true
    else if character = '\x27' then scan.quotedScalar false
    else if character = '\x22' then scan.quotedScalar true
    else if startsPlain scan.inFlow scan.rest then scan.plainScalar
    else none

/-- Reads all tokens. -/
def all : Nat → Scan → Option Scan
  | 0, _ => none
  | fuel + 1, scan => do
    let found ← (scan.toToken (scan.rest.length + 1)).dropStale
    let unwound := found.unwind found.column
    if unwound.rest.isEmpty then unwound.finish
    else
      let read ← unwound.token
      all fuel read

end Scan

/-- The tokens of a document, if it can be read. -/
def tokens? (document : List Char) : Option (List Token) :=
  if document.all isReadable then
    let body := if document.head? = some '\uFEFF' then document.drop 1 else document
    (Scan.all (body.length + 1) { rest := body }).map (·.tokens.toList)
  else none

end Yaml
end TapeMachine
