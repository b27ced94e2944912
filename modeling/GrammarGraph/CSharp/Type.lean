import GrammarGraph.Text

/-!
# CSharp/Type — the types of C# and how they are written

A type is a dotted name, a generic name with arguments, a tuple, or an array of another type.  It
is written with single blanks after commas, after a variance and before the name of a tuple
element, and with no other blanks: `a.b<in c, d>[]`, `(int a, string)`.
-/

namespace GrammarGraph.CSharp

/-- The direction in which a generic argument varies. -/
inductive Variance
  | contravariant
  | covariant
deriving DecidableEq, Repr

/-- A generic argument. -/
structure Argument (τ : Type) where
  variance : Option Variance
  type : τ
deriving DecidableEq, Repr

/-- An element of a tuple. -/
structure Element (τ : Type) where
  type : τ
  name : Option Text
deriving DecidableEq, Repr

/-- A type. -/
inductive TypeRef
  | name (segments : List Text)
  | generic (segments : List Text) (arguments : List (Argument TypeRef))
  | tuple (elements : List (Element TypeRef))
  | array (element : TypeRef)
deriving Repr, Inhabited

/-- A directive that brings names into scope. -/
inductive Using
  /-- `using System.Text;` -/
  | ofNamespace (segments : List Text)
  /-- `using Map = Dictionary<string, int>;` -/
  | ofAlias (name : Text) (target : TypeRef)

/-! ## Equality of types is decidable -/

mutual

def TypeRef.decEq : (t u : TypeRef) → Decidable (t = u)
  | .name m, .name n => decidable_of_iff (m = n) (by simp)
  | .generic m as, .generic n bs =>
    have := Argument.decEqList as bs
    decidable_of_iff (m = n ∧ as = bs) (by simp)
  | .tuple as, .tuple bs =>
    have := Element.decEqList as bs
    decidable_of_iff (as = bs) (by simp)
  | .array t, .array u =>
    have := t.decEq u
    decidable_of_iff (t = u) (by simp)
  | .name _, .generic _ _ | .name _, .tuple _ | .name _, .array _ => isFalse nofun
  | .generic _ _, .name _ | .generic _ _, .tuple _ | .generic _ _, .array _ => isFalse nofun
  | .tuple _, .name _ | .tuple _, .generic _ _ | .tuple _, .array _ => isFalse nofun
  | .array _, .name _ | .array _, .generic _ _ | .array _, .tuple _ => isFalse nofun

def Argument.decEqList : (as bs : List (Argument TypeRef)) → Decidable (as = bs)
  | [], [] => isTrue rfl
  | [], _ :: _ | _ :: _, [] => isFalse nofun
  | ⟨v, t⟩ :: as, ⟨w, u⟩ :: bs =>
    have := t.decEq u
    have := Argument.decEqList as bs
    decidable_of_iff ((v = w ∧ t = u) ∧ as = bs) (by simp)

def Element.decEqList : (as bs : List (Element TypeRef)) → Decidable (as = bs)
  | [], [] => isTrue rfl
  | [], _ :: _ | _ :: _, [] => isFalse nofun
  | ⟨t, v⟩ :: as, ⟨u, w⟩ :: bs =>
    have := t.decEq u
    have := Element.decEqList as bs
    decidable_of_iff ((t = u ∧ v = w) ∧ as = bs) (by simp)

end

instance : DecidableEq TypeRef := TypeRef.decEq

deriving instance DecidableEq for Using

/-! ## Writing -/

/-- A dotted name as it is written. -/
def renderName (segments : List Text) : Text := ['.'].intercalate segments

/-- A variance and the blank after it. -/
def Variance.render : Variance → Text
  | .contravariant => ['i', 'n', ' ']
  | .covariant => ['o', 'u', 't', ' ']

/-- What separates the entries of a list. -/
def comma : Text := [',', ' ']

mutual

/-- **A type as it is written.** -/
def TypeRef.render : TypeRef → Text
  | .name segments => renderName segments
  | .generic segments arguments =>
    renderName segments ++ '<' :: comma.intercalate (Argument.renderList arguments) ++ ['>']
  | .tuple elements => '(' :: comma.intercalate (Element.renderList elements) ++ [')']
  | .array element => element.render ++ ['[', ']']

/-- Generic arguments, each as it is written. -/
def Argument.renderList : List (Argument TypeRef) → List Text
  | [] => []
  | ⟨variance, type⟩ :: rest =>
    ((variance.map Variance.render).getD [] ++ type.render) :: Argument.renderList rest

/-- The elements of a tuple, each as it is written. -/
def Element.renderList : List (Element TypeRef) → List Text
  | [] => []
  | ⟨type, name⟩ :: rest =>
    (type.render ++ (name.map (' ' :: ·)).getD []) :: Element.renderList rest

end

/-- What a directive brings into scope, as it is written. -/
def Using.render : Using → Text
  | .ofNamespace segments => renderName segments
  | .ofAlias _ target => target.render

end GrammarGraph.CSharp
