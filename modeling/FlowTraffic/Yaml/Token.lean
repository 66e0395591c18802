import FlowTraffic.Bytes
import FlowTraffic.Text.Digits
import FlowTraffic.Yaml.Cursor

/-!
# Tokens of a YAML text

The tokens, and how those that have a text of their own are read: scalars in their five styles,
anchors, tags and directives. A tag is a row of bytes, since its escapes need not spell text.
-/

namespace FlowTraffic.Yaml

/-- How a scalar is written. -/
inductive Style
  | plain
  | singleQuoted
  | doubleQuoted
  | literal
  | folded
  deriving DecidableEq, Repr

inductive Token
  | streamEnd
  | versionDirective (major minor : Nat)
  | tagDirective (handle : String) (lead : Bytes)
  | documentStart
  | documentEnd
  | blockSequenceStart
  | blockMappingStart
  | blockEnd
  | flowSequenceStart
  | flowSequenceEnd
  | flowMappingStart
  | flowMappingEnd
  | blockEntry
  | flowEntry
  | key
  | value
  | alias (name : String)
  | anchor (name : String)
  | tag (handle : String) (suffix : Bytes)
  | scalar (text : String) (style : Style)
  deriving DecidableEq, Repr

/-! ## Gaps between words -/

/-- Blanks, or breaks with blanks around them. -/
structure Gap where
  blanks : List Char := []
  breaks : List Char := []
  /-- The first break was escaped, so that it does not count. -/
  escaped : Bool := false

namespace Gap

def broken (g : Gap) : Bool := g.escaped || !g.breaks.isEmpty

/-- What a gap counts for: a lone break for a blank, more breaks for all but the first. -/
def text (g : Gap) : List Char :=
  if g.escaped then g.breaks
  else
    match g.breaks with
    | [] => g.blanks
    | ['\n'] => [' ']
    | '\n' :: more => more
    | all => all

/-- Reads a gap. After a break, tabs are refused left of the column `margin`. -/
def read (margin : Nat) : Nat → Gap → Cursor → Except Error (Gap × Cursor)
  | 0, g, c => .ok (g, c)
  | fuel + 1, g, c =>
    match c.takeBreak with
    | (some b, c) => read margin fuel { g with breaks := g.breaks ++ [b] } c
    | (none, c) =>
      match c.peek? 0 with
      | some x =>
        if !isBlank x then .ok (g, c)
        else if g.broken && x == '\t' && c.column < margin then .error .unexpectedTab
        else
          let g := if g.broken then g else { g with blanks := g.blanks ++ [x] }
          read margin fuel g (c.skip 1)
      | none => .ok (g, c)

def readAll (margin : Nat) (g : Gap) (c : Cursor) : Except Error (Gap × Cursor) :=
  read margin (c.rest.length + 1) g c

end Gap

/-! ## Plain scalars -/

/-- Whether a plain scalar ends at this character: at a colon with a blank after it, and inside
brackets at a comma and at any bracket. -/
def endsPlain (inFlow : Bool) (x : Char) (next : Option Char) : Bool :=
  (x == ':' && next.all fun y => isBlank y || isBreak y) || (inFlow && ",[]{}".toList.contains x)

/-- The characters of a word of a plain scalar. Inside brackets no bracket, comma or question mark
may follow a colon. -/
def plainWord (inFlow : Bool) : List Char → Except Error (List Char)
  | [] => .ok []
  | x :: rest =>
    if isBlank x || isBreak x then .ok []
    else if inFlow && x == ':' && rest.head?.any (",?[]{}".toList.contains ·) then
      .error .unexpectedCharacter
    else if endsPlain inFlow x rest.head? then .ok []
    else do return x :: (← plainWord inFlow rest)

/-- Reads words and the gaps between them. The flag tells whether the last gap was broken. -/
def plainWords (inFlow : Bool) (margin : Nat) :
    Nat → List Char → Gap → Cursor → Except Error ((List Char × Bool) × Cursor)
  | 0, text, g, c => .ok ((text, g.broken), c)
  | fuel + 1, text, g, c => do
    if c.atMarker || c.has 0 '#' then return ((text, g.broken), c)
    let word ← plainWord inFlow c.rest
    let text := if word.isEmpty then text else text ++ g.text ++ word
    let g := if word.isEmpty then g else {}
    let c := c.skip word.length
    if !c.spaceAt 0 || c.rest.isEmpty then return ((text, g.broken), c)
    let (g, c) ← Gap.readAll margin g c
    if !inFlow && c.column < margin then return ((text, g.broken), c)
    plainWords inFlow margin fuel text g c

/-- Reads a plain scalar. Outside brackets its later lines stand at `margin` or right of it. -/
def plainScalar (inFlow : Bool) (margin : Nat) (c : Cursor) :
    Except Error ((List Char × Bool) × Cursor) :=
  plainWords inFlow margin (c.rest.length + 1) [] {} c

/-! ## Quoted scalars -/

/-- What the character after a backslash stands for: a character, or so many hex digits. -/
def escape? (c : Char) : Option (Char ⊕ Nat) :=
  match c with
  | '0' => some (.inl '\x00')
  | 'a' => some (.inl '\x07')
  | 'b' => some (.inl '\x08')
  | 't' | '\t' => some (.inl '\t')
  | 'n' => some (.inl '\n')
  | 'v' => some (.inl '\x0b')
  | 'f' => some (.inl '\x0c')
  | 'r' => some (.inl '\r')
  | 'e' => some (.inl '\x1b')
  | ' ' => some (.inl ' ')
  | '"' => some (.inl '"')
  | '/' => some (.inl '/')
  | '\\' => some (.inl '\\')
  | 'N' => some (.inl (Char.ofNat 0x85))
  | '_' => some (.inl (Char.ofNat 0xA0))
  | 'L' => some (.inl (Char.ofNat 0x2028))
  | 'P' => some (.inl (Char.ofNat 0x2029))
  | 'x' => some (.inr 2)
  | 'u' => some (.inr 4)
  | 'U' => some (.inr 8)
  | _ => none

/-- The character of a code point, if there is one. -/
def charOf? (n : Nat) : Option Char := if n.isValidChar then some (Char.ofNat n) else none

def readEscape (c : Cursor) : Except Error (Char × Cursor) :=
  match c.peek? 0 >>= escape? with
  | none => .error .badEscape
  | some (.inl x) => .ok (x, c.skip 1)
  | some (.inr n) =>
    let digits := (c.rest.drop 1).take n
    match (if digits.length = n then Text.digits? 16 digits >>= charOf? else none) with
    | some x => .ok (x, c.skip (n + 1))
    | none => .error .badEscape

/-- Reads a quoted scalar from behind its first quote to behind its last. A single quote is written
twice inside single quotes; a backslash escapes inside double quotes, a break as well. -/
def quotedText (single : Bool) : Nat → List Char → Cursor → Except Error ((List Char) × Cursor)
  | 0, _, _ => .error .unexpectedEnd
  | fuel + 1, text, c => do
    if c.atMarker then throw .misplacedIndicator
    match c.peek? 0 with
    | none => throw .unexpectedEnd
    | some x =>
      if single && x == '\'' && c.has 1 '\'' then quotedText single fuel (text ++ ['\'']) (c.skip 2)
      else if x == (if single then '\'' else '"') then return (text, c.skip 1)
      else if !single && x == '\\' then
        if c.breakAt 1 && (c.peek? 1).isSome then
          let (g, c) ← Gap.readAll 0 { escaped := true } (c.skip 1).takeBreak.2
          quotedText single fuel (text ++ g.text) c
        else
          let (y, c) ← readEscape (c.skip 1)
          quotedText single fuel (text ++ [y]) c
      else if c.spaceAt 0 then
        let (g, c) ← Gap.readAll 0 {} c
        quotedText single fuel (text ++ g.text) c
      else quotedText single fuel (text ++ [x]) (c.skip 1)

def quotedScalar (single : Bool) (c : Cursor) : Except Error ((List Char) × Cursor) :=
  quotedText single (c.rest.length + 1) [] (c.skip 1)

/-! ## Block scalars -/

/-- What becomes of the breaks at the end of a block scalar. -/
inductive Chomp
  | strip
  | clip
  | keep
  deriving DecidableEq

def chomp? : Option Char → Option Chomp
  | some '-' => some .strip
  | some '+' => some .keep
  | _ => none

/-- Reads an indentation digit, if there is one. -/
def indentDigit (c : Cursor) : Except Error ((Option Nat) × Cursor) :=
  match c.peek? 0 with
  | some x =>
    if !x.isDigit then .ok (none, c)
    else if x == '0' then .error .badIndentation
    else .ok (some (x.toNat - '0'.toNat), c.skip 1)
  | none => .ok (none, c)

/-- Reads the indicators after `|` or `>`, in either order. -/
def blockHead (c : Cursor) : Except Error ((Chomp × Option Nat) × Cursor) :=
  match chomp? (c.peek? 0) with
  | some chomp => do
    let (digit, c) ← indentDigit (c.skip 1)
    return ((chomp, digit), c)
  | none => do
    let (digit, c) ← indentDigit c
    match digit, chomp? (c.peek? 0) with
    | some _, some chomp => return ((chomp, digit), c.skip 1)
    | _, _ => return ((.clip, digit), c)

/-- Goes over blanks and a comment to the end of the line. -/
def lineEnd (c : Cursor) : Except Error Cursor :=
  let c := c.dropWhile isBlank
  let c := if c.has 0 '#' then c.dropWhile fun x => !isBreak x else c
  if c.breakAt 0 then .ok c.takeBreak.2 else .error .badIndentation

/-- Reads empty lines. With no indentation known, it is that of the longest or the first line with
text, and at least `least`. -/
def emptyLines (indent : Option Nat) (least : Nat) :
    Nat → Nat → List Char → Cursor → Except Error ((List Char × Nat) × Cursor)
  | 0, widest, breaks, c => .ok ((breaks, indent.getD (max widest least)), c)
  | fuel + 1, widest, breaks, c =>
    let spaces := (c.rest.takeWhile (· == ' ')).length
    let c := c.skip (indent.elim spaces fun n => min spaces (n - c.column))
    let widest := max widest c.column
    if indent.all (c.column < ·) && c.has 0 '\t' then .error .unexpectedTab
    else
      match c.takeBreak with
      | (some b, c) => emptyLines indent least fuel widest (breaks ++ [b]) c
      | (none, c) => .ok ((breaks, indent.getD (max widest least)), c)

/-- Reads the lines of a block scalar. `last` is the break after the line before, `empty` are the
breaks of the empty lines after it, and `blank` tells whether that line started with a blank. -/
def blockLines (folded : Bool) (indent : Nat) : Nat → List Char → Option Char → List Char → Bool →
    Cursor → Except Error ((List Char × Option Char × List Char) × Cursor)
  | 0, text, last, empty, _, c => .ok ((text, last, empty), c)
  | fuel + 1, text, last, empty, blank, c => do
    if c.column ≠ indent || c.rest.isEmpty then return ((text, last, empty), c)
    let startsBlank := (c.peek? 0).any isBlank
    let joint :=
      if folded && last == some '\n' && !blank && !startsBlank then
        if empty.isEmpty then [' '] else []
      else last.toList
    let (line, c) := c.takeWhile fun x => !isBreak x
    let (last, c) := c.takeBreak
    let ((breaks, _), c) ← emptyLines (some indent) 0 (c.rest.length + 1) 0 [] c
    blockLines folded indent fuel (text ++ joint ++ empty ++ line) last breaks startsBlank c

/-- Reads a block scalar at its indicator. `parent` is the indentation around it. -/
def blockScalar (folded : Bool) (parent : Int) (c : Cursor) :
    Except Error (List Char × Cursor) := do
  let ((chomp, digit), c) ← blockHead (c.skip 1)
  let c ← lineEnd c
  let indent := digit.map fun n => parent.toNat + n
  let least := max (parent + 1).toNat 1
  let ((breaks, indent), c) ← emptyLines indent least (c.rest.length + 1) 0 [] c
  let ((text, last, empty), c) ← blockLines folded indent (c.rest.length + 1) [] none breaks false c
  return (text ++ (if chomp = .strip then [] else last.toList) ++
    (if chomp = .keep then empty else []), c)

/-! ## Names -/

/-- Reads the name of an anchor or alias behind its sign. -/
def anchorName (c : Cursor) : Except Error (String × Cursor) :=
  let (name, c) := c.takeWhile isWord
  let isEnded := c.spaceAt 0 || (c.peek? 0).any ("?:,]\x7d%@\x60".toList.contains ·)
  if name.isEmpty || !isEnded then .error .badName
  else .ok (String.ofList name, c)

/-- The characters of a tag. Between angle brackets it may hold commas and square brackets. -/
def isTagChar (angled : Bool) (x : Char) : Bool :=
  isWord x || ";/?:@&=+$.%!~*'()".toList.contains x || (angled && ",[]".toList.contains x)

def bytesOf (text : String) : Bytes := text.toUTF8.toList

/-- How many bytes follow the first byte of a character. -/
def trailing? (lead : Nat) : Option Nat :=
  if lead < 0x80 then some 0
  else if lead < 0xC0 then none
  else if lead < 0xE0 then some 1
  else if lead < 0xF0 then some 2
  else if lead < 0xF8 then some 3
  else none

/-- Resolves the escapes of a tag: a percent sign and two hex digits for each byte. The escapes of
one character stand together; `missing` of them are still to come. -/
def unescapeTag : Nat → List Char → Except Error Bytes
  | missing, '%' :: a :: b :: rest => do
    match Text.digits? 16 [a, b], missing with
    | some n, 0 =>
      match trailing? n with
      | some more => return UInt8.ofNat n :: (← unescapeTag more rest)
      | none => throw .badName
    | some n, missing + 1 =>
      if n < 0x80 || 0xC0 ≤ n then throw .badName
      return UInt8.ofNat n :: (← unescapeTag missing rest)
    | none, _ => throw .badName
  | _, '%' :: _ => .error .badName
  | 0, x :: rest => do return bytesOf x.toString ++ (← unescapeTag 0 rest)
  | 0, [] => .ok []
  | _ + 1, _ => .error .badName

/-- Reads the bytes of a tag, which ends at its first zero. The flag allows that nothing is
written. -/
def tagText (angled mayBeEmpty : Bool) (c : Cursor) : Except Error (Bytes × Cursor) := do
  let (raw, c) := c.takeWhile (isTagChar angled)
  if raw.isEmpty && !mayBeEmpty then throw .badName
  return ((← unescapeTag 0 raw).takeWhile (· ≠ 0), c)

/-- Reads a handle: two exclamation marks with word characters between them, or one with such after
it, in which case the flag is unset. -/
def tagHandle (c : Cursor) : (String × Bool) × Cursor :=
  let (word, c) := (c.skip 1).takeWhile isWord
  let name := "!" ++ String.ofList word
  if c.has 0 '!' then ((name ++ "!", true), c.skip 1) else ((name, false), c)

/-- Reads a tag as its handle and the rest. -/
def tagToken (inFlow : Bool) (c : Cursor) : Except Error (Token × Cursor) := do
  let (token, c) ←
    if c.has 1 '<' then do
      let (suffix, c) ← tagText true false (c.skip 2)
      if !c.has 0 '>' then throw .badName
      pure (Token.tag "" suffix, c.skip 1)
    else do
      let ((handle, closed), after) := tagHandle c
      if closed then
        let (suffix, c) ← tagText false false after
        pure (Token.tag handle suffix, c)
      else
        let (suffix, c) ← tagText false true (c.skip 1)
        pure (if suffix.isEmpty then Token.tag "" (bytesOf "!") else Token.tag "!" suffix, c)
  if c.spaceAt 0 || (inFlow && c.has 0 ',') then return (token, c) else throw .badName

/-! ## Directives -/

/-- Reads a number of at most nine digits. -/
def versionNumber (c : Cursor) : Except Error (Nat × Cursor) :=
  let (digits, c) := c.takeWhile Char.isDigit
  match Text.digits? 10 digits with
  | some n => if digits.length ≤ 9 then .ok (n, c) else .error .badDirective
  | none => .error .badDirective

def directiveValue (name : List Char) (c : Cursor) : Except Error (Token × Cursor) := do
  let c := c.dropWhile isBlank
  if name = "YAML".toList then
    let (major, c) ← versionNumber c
    if !c.has 0 '.' then throw .badDirective
    let (minor, c) ← versionNumber (c.skip 1)
    return (.versionDirective major minor, c)
  else if name = "TAG".toList then
    if !c.has 0 '!' then throw .badDirective
    let ((handle, closed), c) := tagHandle c
    if !closed && handle != "!" then throw .badDirective
    if !(c.peek? 0).any isBlank then throw .badDirective
    let (lead, c) ← tagText true false (c.dropWhile isBlank)
    if !c.spaceAt 0 then throw .badDirective
    return (.tagDirective handle lead, c)
  else throw .badDirective

/-- Reads a directive at its percent sign, with its line's end. -/
def directive (c : Cursor) : Except Error (Token × Cursor) := do
  let (name, c) := (c.skip 1).takeWhile isWord
  if name.isEmpty || !c.spaceAt 0 then throw .badDirective
  let (token, c) ← directiveValue name c
  return (token, ← lineEnd c)

end FlowTraffic.Yaml
