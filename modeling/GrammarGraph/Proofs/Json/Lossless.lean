import GrammarGraph.Proofs.Json.Writing

/-!
# Proofs/Json/Lossless — a description can be read back from its text

    description ──toJson──▸ text ──read?──▸ value ──ofValue?──▸ description

What a description is as a JSON value is told without any layout (`Description.value`), and read off
such a value by the words that are its keys (`Description.ofValue?`).  Its texts denote that value,
so both are read as the description they were written from, and different descriptions have
different texts.

The words for the kinds of nodes are those of `tag` where a value is made, and are spelled out where
one is read.
-/

namespace GrammarGraph

open Json

/-! ## Descriptions as values -/

/-- A node without parts, as a JSON value. -/
def Leaf.value (kind : Leaf) : Value :=
  match kind with
  | .literal text => .object [(kind.tag.toList, .string text)]
  | .pattern source => .object [(kind.tag.toList, .string source.toList)]
  | .unresolved => .string kind.tag.toList

/-- A node with one part, given that part. -/
def Unary.value (kind : Unary) (inner : Value) : Value :=
  let body :=
    match kind with
    | .map | .optional | .star => inner
    | .exactly count => .object [("count".toList, .number (number count)), ("inner".toList, inner)]
    | .named name => .object [("name".toList, .string name.toList), ("inner".toList, inner)]
  .object [(kind.tag.toList, body)]

/-- A node with two parts, given these. -/
def Binary.value (kind : Binary) (left right : Value) : Value :=
  .object [(kind.tag.toList, .array [left, right])]

/-- **The JSON value of a description.** -/
def Description.value : Description → Value
  | .backRef id => .object [("oldRef".toList, .number (number id))]
  | .leaf id kind => .object [("newRef".toList, .number (number id)), ("value".toList, kind.value)]
  | .unary id kind inner =>
    .object [("newRef".toList, .number (number id)), ("value".toList, kind.value inner.value)]
  | .binary id kind left right =>
    .object [("newRef".toList, .number (number id)),
      ("value".toList, kind.value left.value right.value)]

/-! ## Written descriptions -/

/-- **A text that denotes a value**, and becomes another text without its blanks. -/
structure Written (t u : Text) (v : Value) : Prop where
  denotes : Denotes t v
  strips : Strips t u

theorem written_number (n : Nat) : Written (number n) (number n) (.number (number n)) :=
  ⟨.number (isNumber_number n), strips_number n⟩

theorem written_string (s : Text) : Written (string s) (string s) (.string s) :=
  ⟨denotes_string s, strips_string s⟩

section Writing

variable {l : Layout} (hl : l.IsSpacing) (depth depth' : Nat)

include hl

theorem written_field (key : String) {t u : Text} {v : Value} (h : Written t u v) :
    Written (l.object depth [(key, t)]) (Layout.compact.object depth' [(key, u)])
      (.object [(key.toList, v)]) where
  denotes := by
    have hne : [(key, t, v)] ≠ [] := List.cons_ne_nil _ _
    exact denotes_object hl depth hne (by simpa using h.denotes)
  strips := by
    have hfields : ∀ f ∈ [(key, t, u)], Strips f.2.1 f.2.2 := by simpa using h.strips
    exact strips_object hl depth depth' hfields

theorem written_fields (key key' : String) {t u t' u' : Text} {v v' : Value} (h : Written t u v)
    (h' : Written t' u' v') :
    Written (l.object depth [(key, t), (key', t')])
      (Layout.compact.object depth' [(key, u), (key', u')])
      (.object [(key.toList, v), (key'.toList, v')]) where
  denotes := by
    have hne : [(key, t, v), (key', t', v')] ≠ [] := List.cons_ne_nil _ _
    exact denotes_object hl depth hne (by simpa using ⟨h.denotes, h'.denotes⟩)
  strips := by
    have hfields : ∀ f ∈ [(key, t, u), (key', t', u')], Strips f.2.1 f.2.2 := by
      simpa using ⟨h.strips, h'.strips⟩
    exact strips_object hl depth depth' hfields

theorem written_items {t u t' u' : Text} {v v' : Value} (h : Written t u v)
    (h' : Written t' u' v') :
    Written (l.array depth [t, t']) (Layout.compact.array depth' [u, u']) (.array [v, v']) where
  denotes := by
    have hne : [(t, v), (t', v')] ≠ [] := List.cons_ne_nil _ _
    exact denotes_array hl depth hne (by simpa using ⟨h.denotes, h'.denotes⟩)
  strips := by
    have hitems : ∀ i ∈ [(t, u), (t', u')], Strips i.1 i.2 := by
      simpa using ⟨h.strips, h'.strips⟩
    exact strips_array hl depth depth' hitems

theorem Leaf.written (kind : Leaf) :
    Written (kind.toJson l depth) (kind.toJson .compact depth') kind.value := by
  cases kind with
  | literal text => exact written_field hl depth depth' _ (written_string text)
  | pattern source => exact written_field hl depth depth' _ (written_string source.toList)
  | unresolved => exact written_string _

theorem Unary.written (kind : Unary) {inner inner' : Nat → Text} {v : Value}
    (h : ∀ depth depth', Written (inner depth) (inner' depth') v) :
    Written (kind.toJson l depth inner) (kind.toJson .compact depth' inner') (kind.value v) := by
  refine written_field hl depth depth' _ ?_
  cases kind with
  | exactly count => exact written_fields hl _ _ _ _ (written_number count) (h _ _)
  | named name => exact written_fields hl _ _ _ _ (written_string name.toList) (h _ _)
  | _ => exact h _ _

theorem Binary.written (kind : Binary) {left left' right right' : Nat → Text} {v w : Value}
    (h : ∀ depth depth', Written (left depth) (left' depth') v)
    (h' : ∀ depth depth', Written (right depth) (right' depth') w) :
    Written (kind.toJson l depth left right) (kind.toJson .compact depth' left' right')
      (kind.value v w) :=
  written_field hl depth depth' _ (written_items hl _ _ (h _ _) (h' _ _))

/-- **A description is written as a JSON text of its value**, and the layout adds nothing but
blanks. -/
theorem Description.written (d : Description) :
    Written (d.toJson l depth) (d.toJson .compact depth') d.value := by
  induction d generalizing depth depth' with
  | backRef id => exact written_field hl depth depth' _ (written_number id)
  | leaf id kind =>
    exact written_fields hl depth depth' _ _ (written_number id) (kind.written hl _ _)
  | unary id kind inner ih =>
    exact written_fields hl depth depth' _ _ (written_number id) (kind.written hl _ _ ih)
  | binary id kind left right ih ih' =>
    exact written_fields hl depth depth' _ _ (written_number id) (kind.written hl _ _ ih ih')

end Writing

/-! ## Reading descriptions -/

/-- The natural number that a value is. -/
def Json.Value.natural? : Value → Option Nat
  | .number t => if isDigits t then some (Nat.ofDigitChars 10 t 0) else none
  | _ => none

/-- **The description that a value stands for**, if it has the fields of one, in their order. -/
def Description.ofValue? : Value → Option Description
  | .object [(key, id)] => if key = "oldRef".toList then id.natural?.map .backRef else none
  | .object [(key, id), (key', .string word)] =>
    if key = "newRef".toList ∧ key' = "value".toList ∧ word = "unresolved".toList then
      id.natural?.map (.leaf · .unresolved)
    else none
  | .object [(key, id), (key', .object [(kind, part)])] =>
    if key = "newRef".toList ∧ key' = "value".toList then
      id.natural?.bind fun id =>
        match String.ofList kind, part with
        | "literal", .string text => some (.leaf id (.literal text))
        | "pattern", .string source => some (.leaf id (.pattern (String.ofList source)))
        | "map", inner => (ofValue? inner).map (.unary id .map)
        | "optional", inner => (ofValue? inner).map (.unary id .optional)
        | "star", inner => (ofValue? inner).map (.unary id .star)
        | "repeat", .object [(field, count), (field', inner)] =>
          if field = "count".toList ∧ field' = "inner".toList then
            count.natural?.bind fun count => (ofValue? inner).map (.unary id (.exactly count))
          else none
        | "named", .object [(field, .string name), (field', inner)] =>
          if field = "name".toList ∧ field' = "inner".toList then
            (ofValue? inner).map (.unary id (.named (String.ofList name)))
          else none
        | "and", .array [left, right] =>
          (ofValue? left).bind fun left => (ofValue? right).map (.binary id (.sequence .both) left)
        | "andKeepLeft", .array [left, right] =>
          (ofValue? left).bind fun left => (ofValue? right).map (.binary id (.sequence .left) left)
        | "andKeepRight", .array [left, right] =>
          (ofValue? left).bind fun left => (ofValue? right).map (.binary id (.sequence .right) left)
        | "or", .array [left, right] =>
          (ofValue? left).bind fun left => (ofValue? right).map (.binary id .choice left)
        | _, _ => none
    else none
  | _ => none
termination_by structural v => v

theorem natural?_number (n : Nat) : (Value.number (number n)).natural? = some n := by
  rw [Value.natural?, if_pos (isDigits_number n), number, Nat.ofDigitChars_ten_toDigits]

/-- **The value of a description stands for that description.** -/
theorem Description.ofValue?_value (d : Description) : ofValue? d.value = some d := by
  induction d with
  | backRef id =>
    rw [value, ofValue?, if_pos rfl, natural?_number]
    rfl
  | leaf id kind =>
    cases kind with
    | _ => simp [value, Leaf.value, Leaf.tag, ofValue?, natural?_number]
  | unary id kind inner ih =>
    cases kind with
    | _ => simp [value, Unary.value, Unary.tag, ofValue?, natural?_number, ih]
  | binary id kind left right ih ih' =>
    cases kind with
    | sequence keep =>
      cases keep with
      | _ => simp [value, Binary.value, Binary.tag, ofValue?, natural?_number, ih, ih']
    | choice => simp [value, Binary.value, Binary.tag, ofValue?, natural?_number, ih, ih']

/-! ## Nothing is lost -/

namespace Description

/-- **The description that a JSON text stands for.** -/
def decode? (t : Text) : Option Description := (read? t).bind ofValue?

theorem decode?_of_reads {d : Description} {t : Text} (h : Reads t d.value) :
    decode? t = some d := by
  rw [decode?, read?_of_reads h]
  exact ofValue?_value d

/-- **Serialized descriptions lose nothing.**  Both texts of a description are JSON, denote its
value and are decoded to it.  They differ in blanks outside strings only, and no two descriptions
share a text, in one layout or across the two. -/
theorem serialization_lossless (d : Description) :
    Reads d.compact d.value ∧ Reads d.pretty d.value ∧
    decode? d.compact = some d ∧ decode? d.pretty = some d ∧
    unspaced d.pretty = d.compact ∧ unspaced d.compact = d.compact ∧
    ∀ e : Description, (d.compact = e.compact ↔ d = e) ∧ (d.pretty = e.pretty ↔ d = e) ∧
      (d.compact = e.pretty → d = e) := by
  have hcompact (e : Description) : Written e.compact e.compact e.value :=
    e.written Layout.isSpacing_compact 0 0
  have hpretty (e : Description) : Written e.pretty e.compact e.value :=
    e.written Layout.isSpacing_pretty 0 0
  have hdecode (e : Description) := decode?_of_reads (reads_of_denotes (hcompact e).denotes)
  have hdecode' (e : Description) := decode?_of_reads (reads_of_denotes (hpretty e).denotes)
  refine ⟨reads_of_denotes (hcompact d).denotes, reads_of_denotes (hpretty d).denotes,
    hdecode d, hdecode' d, (hpretty d).strips.unspaced_eq,
    (hcompact d).strips.unspaced_eq, fun e => ?_⟩
  refine ⟨⟨fun h => ?_, congrArg _⟩, ⟨fun h => ?_, congrArg _⟩, fun h => ?_⟩
  · exact Option.some.inj ((hdecode d).symm.trans (h ▸ hdecode e))
  · exact Option.some.inj ((hdecode' d).symm.trans (h ▸ hdecode' e))
  · exact Option.some.inj ((hdecode d).symm.trans (h ▸ hdecode' e))

end Description

end GrammarGraph
