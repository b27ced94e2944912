import GrammarGraph.Pattern.Classes
import GrammarGraph.Pattern.Cursor
import GrammarGraph.Pattern.Regex

/-!
# Pattern/Atom — the parts of a pattern that are not made of parts

Characters, escapes, named classes, assertions and the dot are read alike wherever they stand, and
given a meaning afterwards: `Flags.atom?` says what they match in a sequence, `Flags.member?` what
they add to a class in brackets.
-/

namespace GrammarGraph.Pattern

open ReadM

/-! ## Single characters, classes and assertions -/

/-- A part of a pattern that is not made of parts. -/
inductive Atom
  /-- A character; `byte` if it was written as two hexadecimal digits. -/
  | char (c : Char) (byte : Bool)
  | letterClass (cls : LetterClass) (complement : Bool)
  | property (chars : CharSet) (complement : Bool)
  | assertion (a : Assertion)
  | dot

/-- Exactly `count` hexadecimal digits. -/
def readHexDigits : (count : Nat) → ReadM (List Char)
  | 0 => return []
  | n + 1 => do
    let c ← peek
    if isHexDigit c then bumpSpace; return c :: (← readHexDigits n) else failure

/-- A character given by its code point, from the letter that says how many digits follow. -/
def readHex (count : Nat) : ReadM Atom := do
  bumpSpace
  if (← peek) = '{' then
    bumpSpace
    let digits ← takeWhile isHexDigit
    expect '}'
    space
    if digits.isEmpty then failure
    return .char (← charOfHex? digits) false
  else
    let digits ← readHexDigits count
    return .char (← charOfHex? digits) (count == 2)

/-- A Unicode property, from the letter `p` or `P`. -/
def readProperty : ReadM Atom := do
  let negated := (← peek) == 'P'
  bumpSpace
  let c ← peek
  if c = '{' then
    bumpSpace
    let name ← takeWhile (· != '}')
    expect '}'
    let (chars, complement) ← bracedSet? name
    return .property chars (negated != complement)
  else
    bumpSpace
    return .property (← namedSet? [c]) negated

/-- Whether a character may stand in the name of a word edge. -/
def isEdgeNameChar (c : Char) : Bool :=
  ('A' ≤ c && c ≤ 'Z') || ('a' ≤ c && c ≤ 'z') || c == '-'

/-- The word edge after `\b`: one named in braces, or a plain boundary.  Braces that do not begin
with a name are left alone. -/
def readWordEdge : ReadM WordEdge := do
  if (← peek?) != some '{' then return .boundary
  let start ← get
  bumpSpace
  if isEdgeNameChar (← peek) then
    let name ← takeWhile isEdgeNameChar
    expect '}'
    match String.ofList name with
    | "start" => return .start
    | "end" => return .finish
    | "start-half" => return .startHalf
    | "end-half" => return .finishHalf
    | _ => failure
  else
    set start
    return .boundary

/-- ASCII punctuation, blanks and controls stand for themselves after a backslash. -/
def isEscapable (c : Char) : Bool :=
  c.toNat < 0x80 && !isDecimalDigit c && !('A' ≤ c && c ≤ 'Z') && !('a' ≤ c && c ≤ 'z')
    && c != '<' && c != '>'

/-- The character meant by a letter after a backslash. -/
def controlOf? : Char → Option Char
  | 'a' => some '\x07'
  | 'f' => some '\x0C'
  | 't' => some '\t'
  | 'n' => some '\n'
  | 'r' => some '\r'
  | 'v' => some '\x0B'
  | _ => none

/-- What a backslash introduces. -/
def readEscape : ReadM Atom := do
  bump
  let unicode := (← get).flags.unicode
  let c ← peek
  if c = 'x' then readHex 2
  else if c = 'u' then readHex 4
  else if c = 'U' then readHex 8
  else if c = 'p' || c = 'P' then readProperty
  else
    bump
    if let some (cls, complement) := LetterClass.ofLetter? c then
      return .letterClass cls complement
    if isEscapable c then return .char c false
    if let some control := controlOf? c then return .char control false
    match c with
    | 'A' => return .assertion .textStart
    | 'z' => return .assertion .textEnd
    | 'b' => return .assertion (.word (← readWordEdge) unicode)
    | 'B' => return .assertion (.word .interior unicode)
    | '<' => return .assertion (.word .start unicode)
    | '>' => return .assertion (.word .finish unicode)
    | _ => failure

/-- The assertion at the start or the end of a line, or of the text. -/
def Flags.lineEdge (flags : Flags) (atEnd : Bool) : Assertion :=
  if !flags.multiLine then if atEnd then .textEnd else .textStart
  else if flags.crlf then if atEnd then .crlfLineEnd else .crlfLineStart
  else if atEnd then .lineEnd else .lineStart

/-- A part of a pattern that is not made of parts. -/
def readAtom : ReadM Atom := do
  let flags := (← get).flags
  let c ← peek
  if c = '\\' then readEscape
  else
    bump
    match c with
    | '.' => return .dot
    | '^' => return .assertion (flags.lineEdge false)
    | '$' => return .assertion (flags.lineEdge true)
    | c => return .char c false

/-! ## Sets under the flags in force

Without the flag `u` a set holds ASCII characters only, and whatever could match others is
refused. -/

/-- The set closed under change of case, where case is ignored. -/
def Flags.fold (flags : Flags) (chars : CharSet) : CharSet :=
  if !flags.ignoreCase then chars
  else if flags.unicode then chars.foldCase
  else chars.foldAsciiCase

/-- The set or its complement, refused if it is too large for the flags in force. -/
def Flags.admit? (flags : Flags) (complement : Bool) (chars : CharSet) : Option CharSet :=
  let chars := if complement then chars.compl else chars
  if flags.unicode || chars.isAscii then some chars else none

/-- A set, first closed under change of case where case is ignored. -/
def Flags.admitFolded? (flags : Flags) (complement : Bool) (chars : CharSet) : Option CharSet :=
  flags.admit? complement (flags.fold chars)

/-- The set of a letter class, or of its complement. -/
def Flags.letterClass? (flags : Flags) (cls : LetterClass) (complement : Bool) : Option CharSet :=
  flags.admit? complement (cls.chars flags.unicode)

/-- The set of a property, or of its complement; properties belong to Unicode. -/
def Flags.property? (flags : Flags) (chars : CharSet) (complement : Bool) : Option CharSet :=
  if flags.unicode then flags.admitFolded? complement chars else none

/-- The set the dot stands for. -/
def Flags.dot? (flags : Flags) : Option CharSet :=
  if !flags.unicode then none
  else if flags.dotAll then some .all
  else if flags.crlf then some (CharSet.compl ⟨[0x0A, 0x0B, 0x0D, 0x0E]⟩)
  else some (CharSet.singleton '\n').compl

/-- The expression for a part that is not made of parts. -/
def Flags.atom? (flags : Flags) : Atom → Option Regex
  | .char c byte =>
    if !flags.unicode && byte && 0x7F < c.toNat then none
    else
      let folded := flags.fold (.singleton c)
      some (if folded = .singleton c then .literal [c] else .ofSet flags.unicode folded)
  | .letterClass cls complement => (flags.letterClass? cls complement).map (.ofSet flags.unicode)
  | .property chars complement => (flags.property? chars complement).map (.ofSet flags.unicode)
  | .assertion a => some (.assertion a)
  | .dot => flags.dot?.map (.ofSet flags.unicode)

/-- The set for a part of a class. -/
def Flags.member? (flags : Flags) : Atom → Option CharSet
  | .char c _ => if flags.unicode || c.toNat < 0x80 then some (.singleton c) else none
  | .letterClass cls complement => flags.letterClass? cls complement
  | .property chars complement => flags.property? chars complement
  | .assertion _ | .dot => none

end GrammarGraph.Pattern
