import GrammarGraph.Text
import GrammarGraph.Unicode.Word

/-!
# Pattern/Cursor — the reading position in pattern notation

A pattern is read from left to right.  The flags in force travel with the reading position, because
a flag set in the middle of a pattern changes how the rest of it is read: where blanks and comments
may be skipped, and what classes and assertions mean.

Reading is a state over `Option`: a pattern that is not well formed is refused without a reason.
-/

namespace GrammarGraph.Pattern

/-- What can be switched on and off inside a pattern. -/
structure Flags where
  /-- `i`: letters match regardless of case. -/
  ignoreCase : Bool := false
  /-- `m`: `^` and `$` hold at the ends of lines. -/
  multiLine : Bool := false
  /-- `s`: the dot matches line ends too. -/
  dotAll : Bool := false
  /-- `U`: repetitions are lazy, and greedy with a question mark. -/
  swapGreed : Bool := false
  /-- `u`: characters and classes are those of Unicode, not of ASCII. -/
  unicode : Bool := true
  /-- `R`: a line may also end with a carriage return. -/
  crlf : Bool := false
  /-- `x`: blanks and comments between the parts of a pattern are skipped. -/
  verbose : Bool := false
deriving DecidableEq, Repr

/-- The flags with one of them set, by its letter. -/
def Flags.set? (flags : Flags) (value : Bool) : Char → Option Flags
  | 'i' => some { flags with ignoreCase := value }
  | 'm' => some { flags with multiLine := value }
  | 's' => some { flags with dotAll := value }
  | 'U' => some { flags with swapGreed := value }
  | 'u' => some { flags with unicode := value }
  | 'R' => some { flags with crlf := value }
  | 'x' => some { flags with verbose := value }
  | _ => none

/-- A reading position: what is still to be read, the flags in force, and the groups met so far. -/
structure Cursor where
  rest : List Char
  flags : Flags
  groups : Nat := 0
  names : List (List Char) := []

/-- Reading may fail; it never says why. -/
abbrev ReadM := StateT Cursor Option

/-- Blanks and comments skipped.  A comment goes to the end of its line. -/
def skipBlanks : (inComment : Bool) → List Char → List Char
  | _, [] => []
  | true, c :: cs => skipBlanks (c != '\n') cs
  | false, c :: cs =>
    if Unicode.blank.contains c then skipBlanks false cs
    else if c = '#' then skipBlanks true cs
    else c :: cs

namespace ReadM

/-- The next character, if there is one. -/
def peek? : ReadM (Option Char) := do return (← get).rest.head?

/-- The next character; fails at the end. -/
def peek : ReadM Char := do
  match (← get).rest with
  | c :: _ => return c
  | [] => failure

/-- Past one character. -/
def bump : ReadM Unit := modify fun s => { s with rest := s.rest.tail }

/-- Past blanks and comments, where they are allowed. -/
def space : ReadM Unit :=
  modify fun s => if s.flags.verbose then { s with rest := skipBlanks false s.rest } else s

/-- Past one character, and blanks and comments after it. -/
def bumpSpace : ReadM Unit := do bump; space

/-- Past a text, if it comes next. -/
def skip? (text : String) : ReadM Bool := do
  let s ← get
  match Text.dropPrefix? text.toList s.rest with
  | some rest => set { s with rest := rest }; return true
  | none => return false

/-- Past the given character; fails if another comes next. -/
def expect (c : Char) : ReadM Unit := do
  if (← peek) = c then bump else failure

/-- The longest run of characters with a property, blanks between them skipped where allowed. -/
def run (p : Char → Bool) : (bound : Nat) → ReadM (List Char)
  | 0 => return []
  | n + 1 => do
    match ← peek? with
    | some c => if p c then bumpSpace; return c :: (← run p n) else return []
    | none => return []

/-- `run`, bounded by what is left to read. -/
def takeWhile (p : Char → Bool) : ReadM (List Char) := do run p (← get).rest.length

end ReadM

open ReadM

/-! ## Numbers -/

/-- Whether a character is a decimal digit of ASCII. -/
def isDecimalDigit (c : Char) : Bool := '0' ≤ c && c ≤ '9'

/-- Whether a character is a hexadecimal digit, in either case. -/
def isHexDigit (c : Char) : Bool :=
  isDecimalDigit c || ('a' ≤ c && c ≤ 'f') || ('A' ≤ c && c ≤ 'F')

/-- The value of a hexadecimal digit. -/
def hexDigitValue (c : Char) : Nat :=
  if isDecimalDigit c then c.toNat - 0x30 else c.toLower.toNat - 0x61 + 10

/-- The character with the code point written in hexadecimal digits. -/
def charOfHex? (digits : List Char) : Option Char :=
  let n := digits.foldl (fun n d => n * 16 + hexDigitValue d) 0
  if CharSet.holdsAt CharSet.all.turns n then some (Char.ofNat n) else none

/-- Counts stay below 2^32. -/
def countLimit : Nat := 0x100000000

/-- A count below 2^32, with blanks around it; nothing if there are no digits. -/
def readCount : ReadM (Option Nat) := do
  modify fun s => { s with rest := s.rest.dropWhile Unicode.blank.contains }
  let digits ← takeWhile isDecimalDigit
  let _ ← takeWhile Unicode.blank.contains
  if digits.isEmpty then return none
  let n := digits.foldl (fun n d => n * 10 + (d.toNat - 0x30)) 0
  if n < countLimit then return some n else failure

end GrammarGraph.Pattern
