import GrammarGraph.Output

/-!
# Datum — numbers and tags in outputs

The maps that scripts can name turn an output into a text, a number, or a tagged output.  They look
through pairs, lists, optional parts and tags: what counts is the texts and the numbers in an
output, from left to right.
-/

namespace GrammarGraph

/-- A value that a map puts into an output. -/
inductive Datum
  | number (n : Nat)
  | tagged (tag : String) (inner : Output Datum)
deriving Inhabited

namespace Datum

mutual

/-- The texts of a value joined; a number counts as its decimal digits. -/
def text : Datum → Text
  | .number n => Nat.toDigits 10 n
  | .tagged _ inner => joined inner

/-- The texts of an output joined. -/
def joined : Output Datum → Text
  | .text t => t
  | .value d => d.text
  | .pair left right => joined left ++ joined right
  | .absent => []
  | .present inner => joined inner
  | .list items => joinedAll items

/-- The texts of several outputs joined. -/
def joinedAll : List (Output Datum) → Text
  | [] => []
  | o :: rest => joined o ++ joinedAll rest

end

mutual

/-- The sum of the numbers of a value. -/
def total : Datum → Nat
  | .number n => n
  | .tagged _ inner => sum inner

/-- The sum of the numbers of an output. -/
def sum : Output Datum → Nat
  | .text _ => 0
  | .value d => d.total
  | .pair left right => sum left + sum right
  | .absent => 0
  | .present inner => sum inner
  | .list items => sumAll items

/-- The sum of the numbers of several outputs. -/
def sumAll : List (Output Datum) → Nat
  | [] => 0
  | o :: rest => sum o + sumAll rest

end

/-- Numbers that are read stay below 2^64. -/
def numberLimit : Nat := 0x10000000000000000

/-- The number below 2^64 written in decimal digits, perhaps after a plus sign. -/
def readNumber? (s : Text) : Option Nat :=
  let digits := match s with
    | '+' :: rest => rest
    | s => s
  if digits.isEmpty || !digits.all Char.isDigit then none
  else
    let n := digits.foldl (fun n d => n * 10 + (d.toNat - '0'.toNat)) 0
    if n < numberLimit then some n else none

/-- The map of a name. -/
def mapOf? : String → Option (Output Datum → Output Datum)
  | "concat" => some fun o => .text (joined o)
  | "len" => some fun o => .value (.number (joined o).length)
  | "int" => some fun o => ((readNumber? (joined o)).map fun n => .value (.number n)).getD .absent
  | "sum" => some fun o => .value (.number (sum o))
  | "inc" => some fun o => .value (.number (sum o + 1))
  | "zero" => some fun _ => .value (.number 0)
  | _ => none

/-- The map that puts a tag on an output. -/
def tagWith (tag : String) (o : Output Datum) : Output Datum := .value (.tagged tag o)

end Datum

end GrammarGraph
