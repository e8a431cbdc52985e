import TapeMachine.Yaml.Scalar
import TapeMachine.Yaml.Token

/-!
# Values in YAML

A reader for the part of YAML 1.1 that needs no anchors and no tags: block and flow
collections, plain, quoted and block scalars, and merge keys.  Of two entries with one key the
later value counts, in the earlier place.  An empty document is null.
-/

namespace TapeMachine
namespace Yaml

/-- A part of a document whose scalars have not been resolved. -/
inductive Node
  /-- A scalar, and whether it is plain. -/
  | scalar (text : String) (plain : Bool)
  /-- A sequence. -/
  | sequence (items : List Node)
  /-- A mapping. -/
  | mapping (entries : List (Node × Node))
  deriving Repr

/-- The node that stands where nothing is written. -/
def Node.empty : Node := .scalar "" true

/-- A node and the tokens after it. -/
abbrev Parsed := Option (Node × List Token)

/-- Whether one of some tokens comes next. -/
def comesNext (tokens : List Token) (expected : List Token) : Bool :=
  tokens.head?.any expected.contains

/-- Whether a document is over. -/
def atDocumentEnd (tokens : List Token) : Bool :=
  tokens.isEmpty || comesNext tokens [.documentStart, .documentEnd]

mutual

/-- Parses a node; a block may stand only where blocks are allowed. -/
def parseNode (block indentless : Bool) : Nat → List Token → Parsed
  | 0, _ => none
  | fuel + 1, tokens =>
    match tokens with
    | .scalar text plain :: rest => some (.scalar text plain, rest)
    | .bracketOpen :: rest => parseFlowItems fuel true rest []
    | .braceOpen :: rest => parseFlowEntries fuel true rest []
    | .sequenceStart :: rest => if block then parseItems fuel rest [] else none
    | .mappingStart :: rest => if block then parseEntries fuel rest [] else none
    | .entry :: _ => if block && indentless then parseIndentless fuel tokens [] else none
    | _ => none

/-- Parses a node unless one of some tokens comes next; then nothing is written there. -/
def parseUnless (stops : List Token) (block indentless : Bool) : Nat → List Token → Parsed
  | 0, _ => none
  | fuel + 1, tokens =>
    if tokens.isEmpty || comesNext tokens stops then some (.empty, tokens)
    else parseNode block indentless fuel tokens

/-- Parses the items of a block sequence; the items read come last first. -/
def parseItems : Nat → List Token → List Node → Parsed
  | 0, _, _ => none
  | fuel + 1, tokens, read =>
    match tokens with
    | .entry :: rest =>
      match parseUnless [.entry, .blockEnd] true false fuel rest with
      | some (item, following) => parseItems fuel following (item :: read)
      | none => none
    | .blockEnd :: rest => some (.sequence read.reverse, rest)
    | _ => none

/-- Parses the items of a sequence that is indented like the key before it. -/
def parseIndentless : Nat → List Token → List Node → Parsed
  | 0, _, _ => none
  | fuel + 1, tokens, read =>
    match tokens with
    | .entry :: rest =>
      match parseUnless [.entry, .key, .value, .blockEnd] true false fuel rest with
      | some (item, following) => parseIndentless fuel following (item :: read)
      | none => none
    | _ => some (.sequence read.reverse, tokens)

/-- Parses the entries of a block mapping; the entries read come last first. -/
def parseEntries : Nat → List Token → List (Node × Node) → Parsed
  | 0, _, _ => none
  | fuel + 1, tokens, read =>
    match tokens with
    | .key :: rest =>
      match parseUnless [.key, .value, .blockEnd] true true fuel rest with
      | none => none
      | some (key, .value :: following) =>
        match parseUnless [.key, .value, .blockEnd] true true fuel following with
        | some (value, remaining) => parseEntries fuel remaining ((key, value) :: read)
        | none => none
      | some (key, following) => parseEntries fuel following ((key, .empty) :: read)
    | .blockEnd :: rest => some (.mapping read.reverse, rest)
    | _ => none

/-- Parses the items between brackets; a key among them makes a mapping of one entry. -/
def parseFlowItems : Nat → Bool → List Token → List Node → Parsed
  | 0, _, _, _ => none
  | fuel + 1, first, tokens, read =>
    match tokens with
    | .bracketClose :: rest => some (.sequence read.reverse, rest)
    | _ =>
      let separated : Option (List Token) :=
        if first then some tokens
        else
          match tokens with
          | .comma :: rest => some rest
          | _ => none
      match separated with
      | none => none
      | some (.key :: rest) =>
        match parseUnless [.value, .comma, .bracketClose] false false fuel rest with
        | none => none
        | some (key, .value :: following) =>
          match parseUnless [.comma, .bracketClose] false false fuel following with
          | some (value, remaining) =>
            parseFlowItems fuel false remaining (.mapping [(key, value)] :: read)
          | none => none
        | some (key, following) =>
          parseFlowItems fuel false following (.mapping [(key, .empty)] :: read)
      | some (.bracketClose :: rest) => some (.sequence read.reverse, rest)
      | some items =>
        match parseNode false false fuel items with
        | some (item, following) => parseFlowItems fuel false following (item :: read)
        | none => none

/-- Parses the entries between braces. -/
def parseFlowEntries : Nat → Bool → List Token → List (Node × Node) → Parsed
  | 0, _, _, _ => none
  | fuel + 1, first, tokens, read =>
    match tokens with
    | .braceClose :: rest => some (.mapping read.reverse, rest)
    | _ =>
      let separated : Option (List Token) :=
        if first then some tokens
        else
          match tokens with
          | .comma :: rest => some rest
          | _ => none
      match separated with
      | none => none
      | some (.key :: rest) =>
        match parseUnless [.value, .comma, .braceClose] false false fuel rest with
        | none => none
        | some (key, .value :: following) =>
          match parseUnless [.comma, .braceClose] false false fuel following with
          | some (value, remaining) =>
            parseFlowEntries fuel false remaining ((key, value) :: read)
          | none => none
        | some (key, following) => parseFlowEntries fuel false following ((key, .empty) :: read)
      | some (.braceClose :: rest) => some (.mapping read.reverse, rest)
      | some entries =>
        match parseNode false false fuel entries with
        | some (key, following) => parseFlowEntries fuel false following ((key, .empty) :: read)
        | none => none

end

/-- Parses the only document among some tokens; there is no node when there is no document. -/
def parseDocument (tokens : List Token) : Option (Option Node) :=
  let isEnd := fun (token : Token) => token == .documentEnd
  let finished := fun (rest : List Token) => (rest.dropWhile isEnd).isEmpty
  let content := fun (body : List Token) =>
    if atDocumentEnd body then some (Node.empty, body)
    else parseNode true false (4 * tokens.length + 4) body
  let only := fun (body : List Token) =>
    match content body with
    | some (node, rest) => if finished rest then some (some node) else none
    | none => none
  match tokens with
  | [] => some none
  | .documentStart :: body => only body
  | _ => only tokens

/-- The entries that a merged value contributes: those of a map, or of the maps of a list. -/
def mergedEntries? : Value → Option Entries
  | .map entries => some entries
  | .list items =>
    let maps : Option (List Entries) := items.reverse.mapM fun (item : Value) =>
      match item with
      | .map entries => some entries
      | _ => none
    maps.map List.flatten
  | _ => none

mutual

/-- The value of a node. -/
def Node.toValue : Node → Except Fault Value
  | .scalar text true => (resolve text).map .scalar
  | .scalar text false => .ok (.text text)
  | .sequence items => (itemValues items).map .list
  | .mapping entries =>
    (entryValues entries).map fun parts => Value.map (Entries.ofList (parts.1 ++ parts.2))

/-- The values of the items of a sequence. -/
def itemValues : List Node → Except Fault (List Value)
  | [] => .ok []
  | item :: rest => do
    let value ← item.toValue
    let values ← itemValues rest
    .ok (value :: values)

/-- The entries that a mapping merges, and its own entries. -/
def entryValues : List (Node × Node) → Except Fault (Entries × Entries)
  | [] => .ok ([], [])
  | (.scalar "<<" true, node) :: rest => do
    let value ← node.toValue
    match mergedEntries? value with
    | some merged => do
      let (others, own) ← entryValues rest
      .ok (merged ++ others, own)
    | none => .error .malformed
  | (.scalar "=" true, node) :: rest => do
    let value ← node.toValue
    let (merged, own) ← entryValues rest
    .ok (merged, (.text "=", value) :: own)
  | (keyNode, node) :: rest => do
    let key ← keyNode.toValue
    match key with
    | .scalar scalar => do
      let value ← node.toValue
      let (merged, own) ← entryValues rest
      .ok (merged, (scalar, value) :: own)
    | _ => .error .malformed

end

/-- Reads a YAML document. -/
def read (document : List Char) : Except Fault Value :=
  match tokens? document with
  | none => .error .malformed
  | some tokens =>
    match parseDocument tokens with
    | none => .error .malformed
    | some none => .ok .null
    | some (some node) => node.toValue

end Yaml
end TapeMachine
