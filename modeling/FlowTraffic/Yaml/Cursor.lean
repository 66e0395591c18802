/-!
# A place in a YAML text

The characters that are left, and where they stand: how many bytes are before them, and their line
and column. Columns count characters. Lines end at any of five breaks; a carriage return with a
line feed after it is one break.
-/

namespace FlowTraffic.Yaml

/-- Why a text is no YAML document. -/
inductive Error
  | controlCharacter
  | unexpectedCharacter
  | unexpectedTab
  | unexpectedEnd
  | unexpectedToken
  | misplacedIndicator
  | keyWithoutValue
  | badEscape
  | badIndentation
  | badDirective
  | badName
  | undefinedTag
  | undefinedAnchor
  | moreThanOneDocument
  deriving DecidableEq, Repr

def Error.message : Error → String
  | controlCharacter => "control characters are not allowed"
  | unexpectedCharacter => "found character that cannot start any token"
  | unexpectedTab => "found a tab where indentation is expected"
  | unexpectedEnd => "found unexpected end of stream"
  | unexpectedToken => "did not find expected node content"
  | misplacedIndicator => "mapping values are not allowed in this context"
  | keyWithoutValue => "could not find expected ':'"
  | badEscape => "found unknown escape character"
  | badIndentation => "did not find expected comment or line break"
  | badDirective => "found unknown directive name"
  | badName => "did not find expected alphabetic or numeric character"
  | undefinedTag => "found undefined tag handle"
  | undefinedAnchor => "unknown anchor"
  | moreThanOneDocument =>
    "deserializing from YAML containing more than one document is not supported"

/-! ## Characters -/

def isBreak (c : Char) : Bool :=
  c == '\n' || c == '\r' || c.toNat == 0x85 || c.toNat == 0x2028 || c.toNat == 0x2029

def isBlank (c : Char) : Bool := c == ' ' || c == '\t'

/-- The characters of anchors, handles and directive names. -/
def isWord (c : Char) : Bool := c.isAlphanum || c == '_' || c == '-'

/-- The characters that a YAML text may hold. -/
def isAllowed (c : Char) : Bool :=
  let n := c.toNat
  n == 0x09 || n == 0x0A || n == 0x0D || (0x20 ≤ n && n ≤ 0x7E) || n == 0x85 ||
    (0xA0 ≤ n && n ≤ 0xFFFD) || 0x10000 ≤ n

/-- How a break counts in a scalar: as a line feed, unless it is a separator of its own. -/
def breakText (c : Char) : Char :=
  if c.toNat == 0x2028 || c.toNat == 0x2029 then c else '\n'

def byteCount (cs : List Char) : Nat := cs.foldl (fun n c => n + c.utf8Size) 0

/-! ## Places -/

/-- What is left of a text and how much was before it. -/
structure Cursor where
  rest : List Char
  /-- The bytes before this place. -/
  offset : Nat := 0
  line : Nat := 0
  column : Nat := 0

namespace Cursor

def peek? (c : Cursor) (n : Nat) : Option Char := c.rest[n]?

/-- Whether the character so far ahead is this one. -/
def has (c : Cursor) (n : Nat) (x : Char) : Bool := c.peek? n == some x

/-- Whether a break or the end is so far ahead. -/
def breakAt (c : Cursor) (n : Nat) : Bool := (c.peek? n).all isBreak

/-- Whether a blank, a break or the end is so far ahead. -/
def spaceAt (c : Cursor) (n : Nat) : Bool := (c.peek? n).all fun x => isBlank x || isBreak x

def skip (c : Cursor) (n : Nat) : Cursor :=
  { c with
    rest := c.rest.drop n
    offset := c.offset + byteCount (c.rest.take n)
    column := c.column + n }

/-- The characters of this line up to the first that does not fit, and the place after them. -/
def takeWhile (c : Cursor) (fits : Char → Bool) : List Char × Cursor :=
  let taken := c.rest.takeWhile fits
  (taken, c.skip taken.length)

def dropWhile (c : Cursor) (fits : Char → Bool) : Cursor := (c.takeWhile fits).2

/-- Goes over one break, if there is one, and gives its text. -/
def takeBreak (c : Cursor) : Option Char × Cursor :=
  let next (n : Nat) : Cursor := { c.skip n with line := c.line + 1, column := 0 }
  match c.rest with
  | '\r' :: '\n' :: _ => (some '\n', next 2)
  | x :: _ => if isBreak x then (some (breakText x), next 1) else (none, c)
  | [] => (none, c)

/-- Whether a line of three such characters starts here, as it does between documents. -/
def marks (c : Cursor) (x : Char) : Bool :=
  c.column == 0 && c.has 0 x && c.has 1 x && c.has 2 x && c.spaceAt 3

/-- Whether a document starts or ends here. -/
def atMarker (c : Cursor) : Bool := c.marks '-' || c.marks '.'

end Cursor

end FlowTraffic.Yaml
