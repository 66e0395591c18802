import FlowTraffic.Yaml.Layout

/-!
# Documents

A document is a tree of scalars, sequences and mappings. Nodes with an anchor get a number, and an
alias holds the number that its name had last. Numbers may repeat; an alias stands for the last node
of the whole document that got its number. A text holds at most one document.
-/

namespace FlowTraffic.Yaml

/-- A scalar with its style, and its tag if it has one. -/
structure Scalar where
  text : String
  style : Style := .plain
  tag : Option Bytes := none
  deriving DecidableEq, Repr

/-- A document's tree. The entries of a mapping are in the order of the text; keys may repeat. An
alias holds a number. -/
inductive Node
  | scalar (s : Scalar)
  | sequence (items : List Node)
  | mapping (entries : List (Node × Node))
  | alias (number : Nat)

/-- What stands where nothing is written. -/
def Node.empty : Node := .scalar { text := "" }

structure Document where
  root : Node
  /-- The nodes that have numbers, in the order in which they start. -/
  numbered : List (Nat × Node) := []

/-- The node that is meant in a place. -/
def Document.follow (d : Document) : Node → Node
  | .alias number => (d.numbered.reverse.lookup number).getD .empty
  | n => n

/-! ## Reading tokens -/

/-- The tokens that are left, what the anchors' names stand for and the tag handles. -/
structure Parse where
  tokens : List Token
  names : List (String × Nat) := []
  /-- A node has its place here as soon as it starts. -/
  numbered : Array (Nat × Node) := #[]
  handles : List (String × Bytes) := []

/-- Reads from the tokens that are left. -/
abbrev Parser := StateT Parse (Except Error)

namespace Parser

def peek : Parser Token := do return (← get).tokens.headD .streamEnd

def next : Parser Unit := modify fun p => { p with tokens := p.tokens.tail }

/-- Goes over the token if it is there. -/
def accept (t : Token) : Parser Bool := do
  if (← peek) = t then
    next
    return true
  return false

/-- What an alias of the name stands for at this place. -/
def lookup (name : String) : Parser Node := do
  match (← get).names.lookup name with
  | some number => return .alias number
  | none => throw .undefinedAnchor

/-- Reads an anchor, if there is one, and gives the place of its node among those with numbers. The
number is how many names there were before, also where the name is known. -/
def anchor? : Parser (Option Nat) := do
  match ← peek with
  | .anchor name =>
    next
    let p ← get
    let number := p.names.length
    set { p with
      names := (name, number) :: p.names.filter (·.1 ≠ name)
      numbered := p.numbered.push (number, .empty) }
    return some p.numbered.size
  | _ => return none

def tag? : Parser (Option Bytes) := do
  match ← peek with
  | .tag handle suffix =>
    next
    if handle.isEmpty then return some suffix
    match (← get).handles.lookup handle with
    | some lead => return some (lead ++ suffix)
    | none => throw .undefinedTag
  | _ => return none

/-- Reads an anchor and a tag in either order. -/
def properties : Parser (Option Nat × Option Bytes) := do
  match ← anchor? with
  | some n => return (some n, ← tag?)
  | none =>
    match ← tag? with
    | some tag => return (← anchor?, some tag)
    | none => return (none, none)

/-- Puts a node into its place among those with numbers. -/
def bind (place : Option Nat) (node : Node) : Parser Unit :=
  modify fun p =>
    { p with numbered := place.elim p.numbered fun i =>
      p.numbered.modify i fun (number, _) => (number, node) }

end Parser

/-! ## Nodes

`fuel` bounds the depth of the calls; every second call takes a token. -/

open FlowTraffic.Yaml.Parser

mutual

/-- Reads a node. A block may start here if `block` says so, and a sequence that is not indented if
`flush` does. -/
def readNode (fuel : Nat) (block flush : Bool) : Parser Node := do
  match fuel with
  | 0 => throw .unexpectedEnd
  | fuel + 1 =>
    if let .alias name ← peek then
      next
      return ← lookup name
    let (place, tag) ← properties
    let node ← do
      match ← peek with
      | .blockEntry =>
        if flush then pure (Node.sequence (← readFlush fuel))
        else if place.isSome || tag.isSome then pure (Node.scalar { text := "", tag })
        else throw .unexpectedToken
      | .scalar text style =>
        next
        pure (Node.scalar { text, style, tag })
      | .flowSequenceStart =>
        next
        pure (Node.sequence (← readFlowSequence fuel true))
      | .flowMappingStart =>
        next
        pure (Node.mapping (← readFlowMapping fuel true))
      | t =>
        if block && t = .blockSequenceStart then
          next
          pure (Node.sequence (← readBlockSequence fuel))
        else if block && t = .blockMappingStart then
          next
          pure (Node.mapping (← readBlockMapping fuel))
        else if place.isSome || tag.isSome then pure (Node.scalar { text := "", tag })
        else throw .unexpectedToken
    bind place node
    return node

/-- Reads a node, or nothing in front of one of these tokens. -/
def readOptional (fuel : Nat) (block flush : Bool) (stops : List Token) : Parser Node := do
  match fuel with
  | 0 => throw .unexpectedEnd
  | fuel + 1 => if stops.contains (← peek) then return .empty else readNode fuel block flush

/-- Reads the entries of an indented sequence to its end. -/
def readBlockSequence (fuel : Nat) : Parser (List Node) := do
  match fuel with
  | 0 => throw .unexpectedEnd
  | fuel + 1 =>
    if ← accept .blockEnd then return []
    if !(← accept .blockEntry) then throw .unexpectedToken
    let item ← readOptional fuel true false [.blockEntry, .blockEnd]
    return item :: (← readBlockSequence fuel)

/-- Reads the entries of a sequence that is not indented. -/
def readFlush (fuel : Nat) : Parser (List Node) := do
  match fuel with
  | 0 => throw .unexpectedEnd
  | fuel + 1 =>
    if !(← accept .blockEntry) then return []
    let item ← readOptional fuel true false [.blockEntry, .key, .value, .blockEnd]
    return item :: (← readFlush fuel)

/-- Reads the entries of an indented mapping to its end. -/
def readBlockMapping (fuel : Nat) : Parser (List (Node × Node)) := do
  match fuel with
  | 0 => throw .unexpectedEnd
  | fuel + 1 =>
    if ← accept .blockEnd then return []
    if !(← accept .key) then throw .unexpectedToken
    let stops := [Token.key, .value, .blockEnd]
    let key ← readOptional fuel true true stops
    let value ← if ← accept .value then readOptional fuel true true stops else pure .empty
    return (key, value) :: (← readBlockMapping fuel)

/-- Reads the items between square brackets. A key makes a mapping of one entry. -/
def readFlowSequence (fuel : Nat) (first : Bool) : Parser (List Node) := do
  match fuel with
  | 0 => throw .unexpectedEnd
  | fuel + 1 =>
    if ← accept .flowSequenceEnd then return []
    if !first then
      if !(← accept .flowEntry) then throw .unexpectedToken
      if ← accept .flowSequenceEnd then return []
    let item ←
      if ← accept .key then do
        let key ← readOptional fuel false false [.value, .flowEntry, .flowSequenceEnd]
        let value ←
          if ← accept .value then readOptional fuel false false [.flowEntry, .flowSequenceEnd]
          else pure .empty
        pure (Node.mapping [(key, value)])
      else readNode fuel false false
    return item :: (← readFlowSequence fuel false)

def readFlowMapping (fuel : Nat) (first : Bool) : Parser (List (Node × Node)) := do
  match fuel with
  | 0 => throw .unexpectedEnd
  | fuel + 1 =>
    if ← accept .flowMappingEnd then return []
    if !first then
      if !(← accept .flowEntry) then throw .unexpectedToken
      if ← accept .flowMappingEnd then return []
    let entry ←
      if ← accept .key then do
        let key ← readOptional fuel false false [.value, .flowEntry, .flowMappingEnd]
        let value ←
          if ← accept .value then readOptional fuel false false [.flowEntry, .flowMappingEnd]
          else pure .empty
        pure (key, value)
      else do
        let key ← readNode fuel false false
        pure (key, .empty)
    return entry :: (← readFlowMapping fuel false)

end

/-! ## Documents -/

def builtinHandles : List (String × Bytes) :=
  [("!", bytesOf "!"), ("!!", bytesOf "tag:yaml.org,2002:")]

/-- Reads the directives in front of a document. Each may be given once. -/
def readDirectives : Nat → Bool → Parser Unit
  | 0, _ => throw .unexpectedEnd
  | fuel + 1, versioned => do
    match ← peek with
    | .versionDirective major minor =>
      if versioned || major ≠ 1 || (minor ≠ 1 && minor ≠ 2) then throw .badDirective
      next
      readDirectives fuel true
    | .tagDirective handle lead =>
      if ((← get).handles.lookup handle).isSome then throw .badDirective
      next
      modify fun p => { p with handles := (handle, lead) :: p.handles }
      readDirectives fuel versioned
    | _ => return ()

/-- Whether a document starts with the token, rather than with its first node. -/
def startsDocument : Token → Bool
  | .versionDirective _ _ | .tagDirective _ _ | .documentStart => true
  | _ => false

/-- Reads the root of a document. Behind a document start nothing need stand. -/
def readRoot (fuel : Nat) : Parser Node := do
  let explicit := startsDocument (← peek)
  if explicit then
    readDirectives fuel false
    if !(← accept .documentStart) then throw .unexpectedToken
  modify fun p => { p with handles := p.handles ++ builtinHandles }
  let t ← peek
  if explicit && (startsDocument t || t = .documentEnd || t = .streamEnd) then return .empty
  readNode fuel true false

/-- Reads the only document of a text, if the text has one. -/
def readDocument (fuel : Nat) : Parser (Option Document) := do
  if (← peek) = .streamEnd then return none
  let root ← readRoot fuel
  modify fun p => { p with tokens := p.tokens.dropWhile (· = .documentEnd) }
  if (← peek) ≠ .streamEnd then throw .moreThanOneDocument
  return some { root, numbered := (← get).numbered.toList }

/-- The document of a text, if the text has one. -/
def Document.ofText? (text : String) : Except Error (Option Document) := do
  let ts ← tokens text
  return (← (readDocument (2 * ts.length + 4)).run { tokens := ts }).1

end FlowTraffic.Yaml
