import GrammarGraph.CSharp.Type
import GrammarGraph.Script.Run

/-!
# CSharp/Grammar — a grammar of C# types and using directives

    identifier      = [A-Za-z_][A-Za-z0-9_]*
    namespaced name = (identifier ".")* identifier
    type            = (tuple | namespaced name generic arguments?) ("[" "]")*
    generic args    = "<" argument ("," argument)* ">"
    argument        = ("in" | "out")? type
    tuple           = "(" element ("," element)* ")"
    element         = type identifier?
    using           = "using" (identifier "=" type | namespaced name) ";"

Blanks may stand between any two tokens; they must stand after a variance, before the name of a
tuple element and after `using`.  Types are recursive through generic arguments and through tuples:
the type is a declared rule, and the generic arguments are a rule whose definition is deferred.
-/

namespace GrammarGraph.CSharp

/-- A value that the grammar produces. -/
inductive Value
  | identifier (text : Text)
  | name (segments : List Text)
  | variance (variance : Variance)
  | type (type : TypeRef)
  | argument (argument : Argument TypeRef)
  | element (element : Element TypeRef)
  | directive (directive : Using)
deriving DecidableEq

/-! ## Reading outputs -/

namespace Value

/-- An identifier. -/
def identifier? : Output Value → Option Text
  | .value (.identifier text) => some text
  | _ => none

/-- A dotted name. -/
def name? : Output Value → Option (List Text)
  | .value (.name segments) => some segments
  | _ => none

/-- A variance. -/
def variance? : Output Value → Option Variance
  | .value (.variance v) => some v
  | _ => none

/-- A type. -/
def type? : Output Value → Option TypeRef
  | .value (.type t) => some t
  | _ => none

/-- A generic argument. -/
def argument? : Output Value → Option (Argument TypeRef)
  | .value (.argument a) => some a
  | _ => none

/-- An element of a tuple. -/
def element? : Output Value → Option (Element TypeRef)
  | .value (.element e) => some e
  | _ => none

/-- The items of a list, all read alike. -/
def list? {β : Type} (item? : Output Value → Option β) : Output Value → Option (List β)
  | .list items => items.mapM item?
  | _ => none

/-- An optional part. -/
def option? {β : Type} (inner? : Output Value → Option β) : Output Value → Option (Option β)
  | .absent => some none
  | .present inner => (inner? inner).map some
  | _ => none

end Value

open Value (identifier? name? variance? type? argument? element? list? option?)

/-! ## Maps

The parts of the grammar produce outputs of known forms; an output of any other form is left as it
is. -/

/-- The map that makes a value out of an output. -/
def making (f : Output Value → Option Value) (o : Output Value) : Output Value :=
  match f o with
  | some v => .value v
  | none => o

/-- The text of an identifier. -/
def toIdentifier : Output Value → Output Value :=
  making fun
    | .text text => some (.identifier text)
    | _ => none

/-- Leading segments and the last one. -/
def toName : Output Value → Output Value :=
  making fun
    | .pair leading last => do return .name ((← list? identifier? leading) ++ [← identifier? last])
    | _ => none

/-- `in` or `out`, in any case. -/
def toVariance : Output Value → Output Value :=
  making fun
    | .text keyword =>
      some (.variance
        (if keyword.map Char.toLower = ['i', 'n'] then .contravariant else .covariant))
    | _ => none

/-- An optional variance and a type. -/
def toArgument : Output Value → Output Value :=
  making fun
    | .pair variance type => do return .argument ⟨← option? variance? variance, ← type? type⟩
    | _ => none

/-- A type and an optional name. -/
def toElement : Output Value → Output Value :=
  making fun
    | .pair type name => do return .element ⟨← type? type, ← option? identifier? name⟩
    | _ => none

/-- A first item and a list of further ones as one list. -/
def toList : Output Value → Output Value
  | .pair first (.list rest) => .list (first :: rest)
  | o => o

/-- The elements of a tuple. -/
def toTuple : Output Value → Output Value :=
  making fun o => do return .type (.tuple (← list? element? o))

/-- A name that may have generic arguments. -/
def toNamedType : Output Value → Output Value :=
  making fun
    | .pair name arguments => do
      let name ← name? name
      match ← option? (list? argument?) arguments with
      | some arguments => return .type (.generic name arguments)
      | none => return .type (.name name)
    | _ => none

/-- A type and its array suffixes. -/
def toArrays : Output Value → Output Value :=
  making fun
    | .pair type (.list suffixes) => do
      return .type (suffixes.foldl (fun t _ => .array t) (← type? type))
    | _ => none

/-- A name and the type it stands for. -/
def toAlias : Output Value → Output Value :=
  making fun
    | .pair name target => do return .directive (.ofAlias (← identifier? name) (← type? target))
    | _ => none

/-- The name of a namespace. -/
def toNamespace : Output Value → Output Value :=
  making fun o => do return .directive (.ofNamespace (← name? o))

/-! ## The grammar as a script -/

namespace Grammar

/-- Exactly this text. -/
def lit (text : String) : Expr Value := .literal text.toList

/-- One expression after another, the first kept. -/
def before (left right : Expr Value) : Expr Value := .sequence .left left right

/-- One expression after another, the second kept. -/
def after (left right : Expr Value) : Expr Value := .sequence .right left right

/-- One expression after another, both kept. -/
def both (left right : Expr Value) : Expr Value := .sequence .both left right

/-- Optional blanks. -/
def gap : Expr Value := .ref "gap"

/-- One or more blanks. -/
def spaces : Expr Value := .ref "spaces"

/-- The rule for identifiers. -/
def identifier : Expr Value := .ref "identifier"

/-- The rule for dotted names. -/
def namespacedName : Expr Value := .ref "namespaced_name"

/-- The rule for types. -/
def type : Expr Value := .ref "type"

/-- The items of a list after the first, each after a comma. -/
def furtherItems (item : Expr Value) : Expr Value :=
  .star (after (after (after gap (lit ",")) gap) item)

/-- A list between brackets, given its items after the first. -/
def bracketed (left right : String) (item further : Expr Value) : Expr Value :=
  .map (before (before (both (after (after (lit left) gap) item) further) gap) (lit right)) toList

/-- The steps that build the grammar. -/
def steps : List (Step Value) := [
  .newArena "rules",
  .bind "spaces" (.named "spaces" (.pattern "\\s+" {})),
  .bind "gap" (.optional spaces),
  .bind "identifier"
    (.named "identifier" (.map (.pattern "[A-Za-z_][A-Za-z0-9_]*" {}) toIdentifier)),
  .bind "namespaced_name"
    (.named "namespaced name"
      (.map
        (both (.star (before (before (before identifier gap) (lit ".")) gap)) identifier)
        toName)),
  .declare "type" "rules",
  .bind "variance"
    (.named "variance"
      (.map (before (.pattern "in|out" { ignoreCase := true }) spaces) toVariance)),
  .bind "argument"
    (.named "generic argument"
      (.map (both (.optional (.ref "variance")) type) toArgument)),
  .defer "generic_arguments" "rules"
    [.bind "further arguments" (furtherItems (.ref "argument"))]
    (.named "generic arguments"
      (bracketed "<" ">" (.ref "argument") (.ref "further arguments"))),
  .bind "element"
    (.named "tuple element" (.map (both type (.optional (after spaces identifier))) toElement)),
  .bind "further elements" (furtherItems (.ref "element")),
  .bind "tuple"
    (.named "tuple" (bracketed "(" ")" (.ref "element") (.ref "further elements"))),
  .bind "named type"
    (.map
      (both namespacedName (.optional (after gap (.ref "generic_arguments"))))
      toNamedType),
  .bind "array suffix" (after (after (after gap (lit "[")) gap) (lit "]")),
  .define "type"
    (.named "type"
      (.map
        (both
          (.choice (.map (.ref "tuple") toTuple) (.ref "named type"))
          (.star (.ref "array suffix")))
        toArrays)),
  .bind "alias"
    (.map (both (before (before (before identifier gap) (lit "=")) gap) type) toAlias),
  .bind "using"
    (.named "using directive"
      (before
        (before
          (after (before (lit "using") spaces)
            (.choice (.ref "alias") (.map namespacedName toNamespace)))
          gap)
        (lit ";"))),
  .bind "usings" (after gap (.star (before (.ref "using") gap)))]

/-- The rules that can be asked for by name. -/
def ruleNames : List String :=
  ["identifier", "namespaced_name", "type", "generic_arguments", "tuple", "using"]

/-- The rules that are recursive. -/
def recursiveNames : List String := ["type", "generic_arguments"]

/-- **A session with the grammar**, and what was logged while it was built. -/
def start (logging : Bool) : Option (List LogRecord × Session Value) := do
  let (answers, s) ← Script.run steps { logging := logging }
  let count := s.slots.length.repr
  let built : LogRecord := ⟨.debug, "built C# grammar with " ++ count ++ " recursive rules"⟩
  return (answers.flatMap (·.log) ++ if logging then [built] else [], s)

/-- The reply to one step in a new session with the grammar. -/
def reply (step : Step Value) : Option (Reply Value) := do
  let (_, s) ← start false
  let (answers, _) ← Script.run [step] s
  return (← answers.head?).reply

/-- What a rule makes of the whole of a text. -/
def parseAll (rule : String) (s : Text) : Option (Reply Value) :=
  reply (.parseAll (.ref rule) s)

end Grammar

end GrammarGraph.CSharp
