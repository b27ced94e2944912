import GrammarGraph.CSharp.Grammar
import GrammarGraph.Proofs.Run

/-!
# Proofs/CSharp/Rules — the parsers that the grammar of C# builds

    steps ──start──▸ session ──force generic arguments──▸ session

Running the steps of the grammar leaves a session whose names stand for the parsers written out
here.  Only the generic arguments are built later, and then with the identities that are next at
that time; nothing else in them depends on when that is.
-/

namespace GrammarGraph.CSharp

namespace Rules

/-! ## Tokens -/

/-- `\s+` -/
def spacesPattern : Pattern := .ofRegex "\\s+" (.repetition 1 none true (.set Unicode.blank true))

/-- `[A-Za-z_]` -/
def wordStart : CharSet := ⟨[65, 91, 95, 96, 97, 123]⟩

/-- `[A-Za-z0-9_]` -/
def wordPart : CharSet := ⟨[48, 58, 65, 91, 95, 96, 97, 123]⟩

/-- `[A-Za-z_][A-Za-z0-9_]*` -/
def identifierPattern : Pattern :=
  .ofRegex "[A-Za-z_][A-Za-z0-9_]*"
    (.seq (.set wordStart true) (.repetition 0 none true (.set wordPart true)))

/-- A letter of ASCII in either case, told by the code points of both. -/
def letter (upper lower : Nat) : CharSet := ⟨[upper, upper + 1, lower, lower + 1]⟩

/-- `in|out`, in any case. -/
def varianceRegex : Regex :=
  .alt (.seq (.set (letter 73 105) true) (.set (letter 78 110) true))
    (.seq (.set (letter 79 111) true)
      (.seq (.set (letter 85 117) true) (.set (letter 84 116) true)))

def variancePattern : Pattern := .ofRegex "in|out" varianceRegex

/-- One after another, the first kept. -/
def before (id : NodeId) (left right : Parser Value) : Parser Value :=
  .sequence id .left left right

/-- One after another, the second kept. -/
def after (id : NodeId) (left right : Parser Value) : Parser Value :=
  .sequence id .right left right

/-- One after another, both kept. -/
def both (id : NodeId) (left right : Parser Value) : Parser Value :=
  .sequence id .both left right

def spaces : Parser Value := .named 1 "spaces" (.pattern 0 spacesPattern)

def gap : Parser Value := .optional 2 (.boxed spaces)

def identifier : Parser Value :=
  .named 5 "identifier" (.map 4 (.pattern 3 identifierPattern) toIdentifier)

/-- A mark with blanks around it, the blanks after it left to what follows. -/
def mark (id : NodeId) (c : Char) : Parser Value :=
  after (id + 1) (.boxed gap) (.literal id [c])

/-! ## Names -/

/-- A segment and the dot after it. -/
def dotted : Parser Value :=
  before 9 (before 8 (before 6 (.boxed identifier) (.boxed gap)) (.literal 7 ['.'])) (.boxed gap)

def namespacedName : Parser Value :=
  .named 13 "namespaced name" (.map 12 (both 11 (.star 10 dotted) (.boxed identifier)) toName)

/-! ## Lists -/

/-- An item of a list after a comma. -/
def furtherItem (id : NodeId) (item : Parser Value) : Parser Value :=
  after (id + 3) (after (id + 2) (mark id ',') (.boxed gap)) item

/-- The items of a list after the first. -/
def furtherItems (id : NodeId) (item : Parser Value) : Parser Value :=
  .star (id + 4) (furtherItem id item)

/-- A list between brackets. -/
def bracketed (id : NodeId) (left right : Char) (item further : Parser Value) : Parser Value :=
  .map (id + 7)
    (before (id + 6)
      (before (id + 4)
        (both (id + 3)
          (after (id + 2) (after (id + 1) (.literal id [left]) (.boxed gap)) item)
          further)
        (.boxed gap))
      (.literal (id + 5) [right]))
    toList

/-! ## Types -/

/-- The rule for types. -/
def typeRule : Rule := ⟨14, 0, 0⟩

/-- The rule for generic arguments. -/
def argumentsRule : Rule := ⟨23, 0, 1⟩

def variance : Parser Value :=
  .named 18 "variance"
    (.map 17 (before 16 (.pattern 15 variancePattern) (.boxed spaces)) toVariance)

def argument : Parser Value :=
  .named 22 "generic argument"
    (.map 21 (both 20 (.optional 19 (.boxed variance)) (.boxed (.rule typeRule))) toArgument)

/-- The generic arguments, built when `id` was the next identity. -/
def arguments (id : NodeId) : Parser Value :=
  .named (id + 13) "generic arguments"
    (bracketed (id + 5) '<' '>' (.boxed argument) (.boxed (furtherItems id (.boxed argument))))

def element : Parser Value :=
  .named 28 "tuple element"
    (.map 27
      (both 26 (.boxed (.rule typeRule))
        (.optional 25 (after 24 (.boxed spaces) (.boxed identifier))))
      toElement)

def furtherElements : Parser Value := furtherItems 29 (.boxed element)

def tuple : Parser Value :=
  .named 42 "tuple" (bracketed 34 '(' ')' (.boxed element) (.boxed furtherElements))

def namedType : Parser Value :=
  .map 46
    (both 45 (.boxed namespacedName)
      (.optional 44 (after 43 (.boxed gap) (.boxed (.rule argumentsRule)))))
    toNamedType

def arraySuffix : Parser Value := after 51 (after 49 (mark 47 '[') (.boxed gap)) (.literal 50 [']'])

def type : Parser Value :=
  .named 57 "type"
    (.map 56
      (both 55 (.choice 53 (.map 52 (.boxed tuple) toTuple) (.boxed namedType))
        (.star 54 (.boxed arraySuffix)))
      toArrays)

/-! ## Directives -/

def usingAlias : Parser Value :=
  .map 63
    (both 62
      (before 61 (before 60 (before 58 (.boxed identifier) (.boxed gap)) (.literal 59 ['=']))
        (.boxed gap))
      (.boxed (.rule typeRule)))
    toAlias

def directive : Parser Value :=
  .named 72 "using directive"
    (before 71
      (before 69
        (after 68 (before 65 (.literal 64 "using".toList) (.boxed spaces))
          (.choice 67 (.boxed usingAlias) (.map 66 (.boxed namespacedName) toNamespace)))
        (.boxed gap))
      (.literal 70 [';']))

def directives : Parser Value :=
  after 75 (.boxed gap) (.star 74 (before 73 (.boxed directive) (.boxed gap)))

end Rules

end GrammarGraph.CSharp
