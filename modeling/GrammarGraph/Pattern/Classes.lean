import GrammarGraph.Unicode.CaseFolding
import GrammarGraph.Unicode.Greek
import GrammarGraph.Unicode.Word
import GrammarGraph.Pattern.Assertion
import GrammarGraph.Text

/-!
# Pattern/Classes — the named sets of characters of pattern notation

Three kinds of names stand for sets of characters: the letters after a backslash (`\d`, `\s`,
`\w`), the names of ASCII classes between `[:` and `:]`, and the names of Unicode properties after
`\p`, which are compared without regard to case, blanks, `_`, `-` and a leading `is`.
-/

namespace GrammarGraph.CharSet

/-- The set closed under change of case of the ASCII letters. -/
def foldAsciiCase (s : CharSet) : CharSet :=
  (List.range 26).foldl (fun t i =>
    if holdsAt s.turns (0x41 + i) || holdsAt s.turns (0x61 + i) then
      union t ⟨[0x41 + i, 0x42 + i, 0x61 + i, 0x62 + i]⟩
    else t) s

end GrammarGraph.CharSet

namespace GrammarGraph.Pattern

/-! ## Letters after a backslash -/

/-- The classes with a one-letter name. -/
inductive LetterClass
  | digit
  | blank
  | word
deriving DecidableEq, Repr

/-- The class of a letter, in lower case for the class and in upper case for its complement. -/
def LetterClass.ofLetter? : Char → Option (LetterClass × Bool)
  | 'd' => some (.digit, false)
  | 'D' => some (.digit, true)
  | 's' => some (.blank, false)
  | 'S' => some (.blank, true)
  | 'w' => some (.word, false)
  | 'W' => some (.word, true)
  | _ => none

/-- The members of a class among all characters, or among those of ASCII. -/
def LetterClass.chars (unicode : Bool) : LetterClass → CharSet
  | .digit => if unicode then Unicode.decimal else ⟨[0x30, 0x3A]⟩
  | .blank => if unicode then Unicode.blank else ⟨[0x09, 0x0E, 0x20, 0x21]⟩
  | .word => if unicode then Unicode.word else asciiWord

/-! ## ASCII classes -/

/-- The ASCII class with the given name. -/
def asciiClass? : String → Option CharSet
  | "alnum" => some ⟨[0x30, 0x3A, 0x41, 0x5B, 0x61, 0x7B]⟩
  | "alpha" => some ⟨[0x41, 0x5B, 0x61, 0x7B]⟩
  | "ascii" => some .ascii
  | "blank" => some ⟨[0x09, 0x0A, 0x20, 0x21]⟩
  | "cntrl" => some ⟨[0x00, 0x20, 0x7F, 0x80]⟩
  | "digit" => some ⟨[0x30, 0x3A]⟩
  | "graph" => some ⟨[0x21, 0x7F]⟩
  | "lower" => some ⟨[0x61, 0x7B]⟩
  | "print" => some ⟨[0x20, 0x7F]⟩
  | "punct" => some ⟨[0x21, 0x30, 0x3A, 0x41, 0x5B, 0x61, 0x7B, 0x7F]⟩
  | "space" => some ⟨[0x09, 0x0E, 0x20, 0x21]⟩
  | "upper" => some ⟨[0x41, 0x5B]⟩
  | "word" => some asciiWord
  | "xdigit" => some ⟨[0x30, 0x3A, 0x41, 0x47, 0x61, 0x67]⟩
  | _ => none

/-! ## Unicode properties -/

/-- A property name as it is compared: ASCII only, lower case, without blanks, `_`, `-` and a
leading `is`.  Only `isc` keeps its first letters, because `c` is a name of something else. -/
def canonicalName (name : List Char) : String :=
  let strip (cs : List Char) : List Char :=
    (cs.filter fun c => c.toNat < 0x80 && c != ' ' && c != '_' && c != '-').map Char.toLower
  match name with
  | a :: b :: rest =>
    if a.toLower = 'i' ∧ b.toLower = 's' then
      if strip rest = ['c'] then "isc" else String.ofList (strip rest)
    else String.ofList (strip name)
  | _ => String.ofList (strip name)

/-- The general category with the given canonical name. -/
def generalCategory? : String → Option CharSet
  | "any" => some .all
  | "ascii" => some .ascii
  | "l" | "letter" => some Unicode.letter
  | "lu" | "uppercaseletter" => some Unicode.upper
  | "ll" | "lowercaseletter" => some Unicode.lower
  | "m" | "mark" | "combiningmark" => some Unicode.mark
  | "n" | "number" => some Unicode.number
  | "nd" | "decimalnumber" | "digit" => some Unicode.decimal
  | "pc" | "connectorpunctuation" => some Unicode.connector
  | _ => none

/-- The script with the given canonical name. -/
def script? : String → Option CharSet
  | "greek" | "grek" => some Unicode.greek
  | _ => none

/-- The property of characters with the given canonical name. -/
def binaryProperty? : String → Option CharSet
  | "alphabetic" | "alpha" => some Unicode.alphabetic
  | "whitespace" | "wspace" | "space" => some Unicode.blank
  | "graphemeextend" | "grext" => some Unicode.graphemeExtend
  | "joincontrol" | "joinc" => some Unicode.joinControl
  | _ => none

/-- The set named by a single name: a property, a general category or a script. -/
def namedSet? (name : List Char) : Option CharSet :=
  let name := canonicalName name
  binaryProperty? name <|> generalCategory? name <|> script? name

/-- The set named by a property and its value. -/
def namedValueSet? (property value : List Char) : Option CharSet :=
  match canonicalName property with
  | "generalcategory" | "gc" => generalCategory? (canonicalName value)
  | "script" | "sc" => script? (canonicalName value)
  | _ => none

/-- The text before the first occurrence of `mark`, and the text after it. -/
def splitAt? (mark : List Char) : List Char → Option (List Char × List Char)
  | [] => none
  | c :: cs =>
    match Text.dropPrefix? mark (c :: cs) with
    | some rest => some ([], rest)
    | none => (splitAt? mark cs).map fun (before, after) => (c :: before, after)

/-- The set written between the braces of `\p`, and whether its complement is meant.  It is a name,
or a property and its value, joined by `=` or `:`, or by `!=` for the complement. -/
def bracedSet? (name : List Char) : Option (CharSet × Bool) :=
  match splitAt? ['!', '='] name with
  | some (property, value) => (namedValueSet? property value).map (·, true)
  | none =>
    match splitAt? [':'] name <|> splitAt? ['='] name with
    | some (property, value) => (namedValueSet? property value).map (·, false)
    | none => (namedSet? name).map (·, false)

end GrammarGraph.Pattern
