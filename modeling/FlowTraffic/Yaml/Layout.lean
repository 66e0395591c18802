import FlowTraffic.Yaml.Token

/-!
# The tokens of a text

Indentation and brackets decide which tokens a text has. A node can turn out to be a key only at
the colon behind it; its tokens are then put in front of it, where its candidate says. Such a key
stands on one line and within 1024 bytes.
-/

namespace FlowTraffic.Yaml

/-- A place where a key may have started. -/
structure Candidate where
  /-- The token that the key would start with. -/
  token : Nat
  /-- Nothing but a key can stand there. -/
  required : Bool
  offset : Nat
  line : Nat
  column : Nat

/-- The tokens so far, and what the text around the cursor allows. -/
structure Layout where
  cursor : Cursor
  tokens : Array Token := #[]
  indent : Int := -1
  outerIndents : List Int := []
  candidate : Option Candidate := none
  /-- The candidates outside the brackets that are open. -/
  outerCandidates : List (Option Candidate) := []
  keyAllowed : Bool := true

namespace Layout

def inFlow (l : Layout) : Bool := !l.outerCandidates.isEmpty

def push (l : Layout) (t : Token) : Layout := { l with tokens := l.tokens.push t }

/-- Puts a token in front of a token that is there already. -/
def insert (l : Layout) (i : Nat) (t : Token) : Layout :=
  { l with tokens := l.tokens.extract 0 i ++ #[t] ++ l.tokens.extract i }

def skip (l : Layout) (n : Nat) : Layout := { l with cursor := l.cursor.skip n }

/-! ## Between tokens -/

/-- Goes over blanks, comments and breaks. A break outside brackets allows a key again; tabs count
as blanks only where no key is allowed. A byte order mark may start a line and takes a column. -/
def toToken : Nat → Layout → Layout
  | 0, l => l
  | fuel + 1, l =>
    let c := l.cursor
    let c := if c.column == 0 && c.has 0 '\ufeff' then c.skip 1 else c
    let c := c.dropWhile fun x => x == ' ' || (x == '\t' && (l.inFlow || !l.keyAllowed))
    let c := if c.has 0 '#' then c.dropWhile fun x => !isBreak x else c
    match c.takeBreak with
    | (some _, c) => toToken fuel { l with cursor := c, keyAllowed := l.keyAllowed || !l.inFlow }
    | (none, c) => { l with cursor := c }

/-! ## Keys -/

/-- The candidate, if it is not too far behind. A required one may not be. -/
def fresh (c : Cursor) (k : Candidate) : Except Error (Option Candidate) :=
  if k.line < c.line || k.offset + 1024 < c.offset then
    if k.required then .error .keyWithoutValue else .ok none
  else .ok (some k)

/-- Forgets the candidates that are too far behind. -/
def refresh (l : Layout) : Except Error Layout := do
  let check (k : Option Candidate) : Except Error (Option Candidate) :=
    k.elim (.ok none) (fresh l.cursor)
  return { l with
    candidate := ← check l.candidate
    outerCandidates := ← l.outerCandidates.mapM check }

/-- Forgets the candidate. A required one may not be forgotten. -/
def dropCandidate (l : Layout) : Except Error Layout :=
  if l.candidate.any (·.required) then .error .keyWithoutValue else .ok { l with candidate := none }

/-- Notes that a key may start at the next token. -/
def markCandidate (l : Layout) : Except Error Layout := do
  if !l.keyAllowed then return l
  let l ← l.dropCandidate
  let c := l.cursor
  return { l with candidate := some {
    token := l.tokens.size, required := !l.inFlow && l.indent == c.column
    offset := c.offset, line := c.line, column := c.column } }

/-! ## Indentation -/

/-- Ends blocks that are indented more than a column. -/
def endBlocks (column : Int) : Int → List Int → Array Token → Int × List Int × Array Token
  | indent, [], ts => (indent, [], ts)
  | indent, outer :: rest, ts =>
    if indent ≤ column then (indent, outer :: rest, ts)
    else endBlocks column outer rest (ts.push .blockEnd)

def unindent (l : Layout) (column : Int) : Layout :=
  if l.inFlow then l
  else
    let (indent, outerIndents, tokens) := endBlocks column l.indent l.outerIndents l.tokens
    { l with indent, outerIndents, tokens }

/-- Starts a block at a column, if it is right of the current one. -/
def startBlock (l : Layout) (column : Nat) (i : Nat) (t : Token) : Layout :=
  if l.inFlow || column ≤ l.indent then l
  else { l with indent := column, outerIndents := l.indent :: l.outerIndents }.insert i t

/-- Starts a block in front of an indicator, which has to stand where a key is allowed. -/
def startBlockHere (l : Layout) (t : Token) : Except Error Layout :=
  if l.inFlow then .ok l
  else if !l.keyAllowed then .error .misplacedIndicator
  else .ok (l.startBlock l.cursor.column l.tokens.size t)

/-! ## One token -/

/-- Takes an indicator of some characters; `keyAllowed` says what may follow. -/
def indicator (l : Layout) (n : Nat) (t : Token) (keyAllowed : Bool) : Except Error Layout := do
  return ({ (← l.dropCandidate) with keyAllowed }.push t).skip n

/-- Takes an opening bracket. It can start a key. -/
def openBracket (l : Layout) (t : Token) : Except Error Layout := do
  let l ← l.markCandidate
  return ({ l with
    candidate := none, outerCandidates := l.candidate :: l.outerCandidates
    keyAllowed := true }.push t).skip 1

def closeBracket (l : Layout) (t : Token) : Except Error Layout := do
  let l ← l.dropCandidate
  let l := match l.outerCandidates with
    | [] => l
    | k :: ks => { l with candidate := k, outerCandidates := ks }
  return ({ l with keyAllowed := false }.push t).skip 1

/-- Takes a colon. With a candidate, the key's tokens are put in front of it. -/
def takeValue (l : Layout) : Except Error Layout := do
  match l.candidate with
  | some k =>
    let l := (l.insert k.token .key).startBlock k.column k.token .blockMappingStart
    return ({ l with candidate := none, keyAllowed := false }.push .value).skip 1
  | none =>
    let l ← l.startBlockHere .blockMappingStart
    return ({ l with keyAllowed := !l.inFlow }.push .value).skip 1

/-- Takes a token that can start a key. -/
def takeNode (l : Layout) (read : Cursor → Except Error (Token × Cursor)) :
    Except Error Layout := do
  let l ← l.markCandidate
  let (t, cursor) ← read l.cursor
  return { l with cursor, keyAllowed := false }.push t

/-- Takes a plain scalar. After a break at its end a key is allowed again. -/
def takePlain (l : Layout) : Except Error Layout := do
  let l ← l.markCandidate
  let ((text, broken), cursor) ← plainScalar l.inFlow (l.indent + 1).toNat l.cursor
  return { l with cursor, keyAllowed := broken }.push (.scalar (String.ofList text) .plain)

/-- Takes a block scalar. A key may follow it. -/
def takeBlockScalar (l : Layout) (isFolded : Bool) : Except Error Layout := do
  let l ← l.dropCandidate
  let (text, cursor) ← blockScalar isFolded l.indent l.cursor
  return { l with cursor, keyAllowed := true }.push
    (.scalar (String.ofList text) (if isFolded then .folded else .literal))

/-- Takes a token that stands between documents: a directive or a marker. -/
def takeBetween (l : Layout) (read : Cursor → Except Error (Token × Cursor)) :
    Except Error Layout := do
  let l ← (l.unindent (-1)).dropCandidate
  let (t, cursor) ← read l.cursor
  return { l with cursor, keyAllowed := false }.push t

/-- Whether a plain scalar can start with the character. -/
def startsPlain (inFlow : Bool) (x : Char) (space : Bool) (blank : Bool) : Bool :=
  if x == '-' then !blank
  else if x == '?' || x == ':' then !inFlow && !space
  else !(isBlank x || isBreak x || ",[]\x7b\x7d#&*!|>'\"%@\x60".toList.contains x)

/-- Takes the token at the cursor, which is not at the end. -/
def takeToken (l : Layout) (x : Char) : Except Error Layout :=
  let c := l.cursor
  let space := c.spaceAt 1
  let quoted (single : Bool) : Cursor → Except Error (Token × Cursor) := fun c => do
    let (text, c) ← quotedScalar single c
    return (.scalar (String.ofList text) (if single then .singleQuoted else .doubleQuoted), c)
  let named (token : String → Token) : Cursor → Except Error (Token × Cursor) := fun c => do
    let (name, c) ← anchorName (c.skip 1)
    return (token name, c)
  if c.column == 0 && x == '%' then l.takeBetween directive
  else if c.marks '-' then l.takeBetween fun c => .ok (.documentStart, c.skip 3)
  else if c.marks '.' then l.takeBetween fun c => .ok (.documentEnd, c.skip 3)
  else
    match x with
    | '[' => l.openBracket .flowSequenceStart
    | '\x7b' => l.openBracket .flowMappingStart
    | ']' => l.closeBracket .flowSequenceEnd
    | '\x7d' => l.closeBracket .flowMappingEnd
    | ',' => l.indicator 1 .flowEntry true
    | '*' => l.takeNode (named .alias)
    | '&' => l.takeNode (named .anchor)
    | '!' => l.takeNode (tagToken l.inFlow)
    | '\'' => l.takeNode (quoted true)
    | '"' => l.takeNode (quoted false)
    | _ =>
      if x == '-' && space then do
        (← l.startBlockHere .blockSequenceStart).indicator 1 .blockEntry true
      else if x == '?' && (l.inFlow || space) then do
        (← l.startBlockHere .blockMappingStart).indicator 1 .key (!l.inFlow)
      else if x == ':' && (l.inFlow || space) then l.takeValue
      else if x == '|' && !l.inFlow then l.takeBlockScalar false
      else if x == '>' && !l.inFlow then l.takeBlockScalar true
      else if startsPlain l.inFlow x space ((c.peek? 1).any isBlank) then l.takePlain
      else .error .unexpectedCharacter

def takeAll : Nat → Layout → Except Error (Array Token)
  | 0, _ => .error .unexpectedEnd
  | fuel + 1, l => do
    let l ← (l.toToken (l.cursor.rest.length + 1)).refresh
    let l := l.unindent l.cursor.column
    match l.cursor.peek? 0 with
    | some x => takeAll fuel (← l.takeToken x)
    | none => return ((← (l.unindent (-1)).dropCandidate).push .streamEnd).tokens

end Layout

def tokens (text : String) : Except Error (List Token) := do
  let cs := text.toList
  if !cs.all isAllowed then throw .controlCharacter
  return (← Layout.takeAll (cs.length + 1) { cursor := { rest := cs } }).toList

end FlowTraffic.Yaml
