import GrammarGraph.Proofs.Alike
import GrammarGraph.Proofs.Engine

/-!
# Proofs/Query — what may be asked about a grammar

    s ──query──▸ finding, t ──query──▸ finding, u

A query does something with a parser or a rule and gives away no more than what is found out.  It
may build rules on the way, so a session is not the same afterwards (`Led`).
-/

namespace GrammarGraph

variable {α : Type}

/-! ## Queries -/

/-- **What may be asked about a grammar.** -/
inductive Query (α : Type)
  | parse (p : Parser α) (x : Text)
  | parseAll (p : Parser α) (x : Text)
  | label (p : Parser α)
  | describe (p : Parser α)
  | force (h : Rule)
  | isDefined (h : Rule)

/-- What is found out by a query. -/
inductive Finding (α : Type)
  | parsed (result : Parsed α)
  | parsedAll (result : Except ParseError (Output α))
  | label (text : String)
  | description (d : Description)
  | built (p : Parser α)
  | fault (fault : Fault)
  | defined (isDefined : Bool)

namespace Query

/-- The parser that a query is about. -/
def parser : Query α → Parser α
  | .parse p _ | .parseAll p _ | .label p | .describe p => p
  | .force h | .isDefined h => .rule h

/-- What a query finds out. -/
def run (calls : Calls α) : Query α → Run α (Finding α)
  | .parse p x => return .parsed (← p.parse calls x)
  | .parseAll p x => return .parsedAll (← p.parseAll calls x)
  | .label p => return .label (← p.label calls)
  | .describe p => return .description (← p.describe calls []).1
  | .force h => do
    match ← h.force calls.build with
    | .ok p => return .built p
    | .error fault => return .fault fault
  | .isDefined h => return .defined (← h.isDefined)

end Query

/-- **Findings that are alike**: values are equal, and all else is but for identities. -/
inductive Finding.Alike (S : NodeId → NodeId → Prop) : Finding α → Finding α → Prop
  | parsed {r r' : Parsed α} (h : ResultAlike S Eq r r') : Alike S (.parsed r) (.parsed r')
  | parsedAll {r r' : Except ParseError (Output α)} (h : ResultAlike S Eq r r') :
      Alike S (.parsedAll r) (.parsedAll r')
  | label {g g' : String} (h : LabelAlike S g g') : Alike S (.label g) (.label g')
  | description {d d' : Description} (h : d.Alike S d') :
      Alike S (.description d) (.description d')
  | built {p q : Parser α} (h : p.Alike S q) : Alike S (.built p) (.built q)
  | fault (fault : Fault) : Alike S (.fault fault) (.fault fault)
  | defined (isDefined : Bool) : Alike S (.defined isDefined) (.defined isDefined)

theorem Finding.Alike.mono {S T : NodeId → NodeId → Prop} {a b : Finding α}
    (hST : ∀ i j, S i j → T i j) (h : a.Alike S b) : a.Alike T b := by
  cases h with
  | parsed h => exact .parsed (h.mono hST)
  | parsedAll h => exact .parsedAll (h.mono hST)
  | label h => exact .label (h.mono hST)
  | description h => exact .description (h.mono hST)
  | built h => exact .built (h.mono hST)
  | fault fault => exact .fault fault
  | defined isDefined => exact .defined isDefined

/-- **The sessions that queries lead to**, the log and the reports of builds aside. -/
inductive Led (s : Session α) : Session α → Prop
  | refl : Led s s
  | query {t u : Session α} {finding : Finding α} (n : Nat) (q : Query α) (ht : Led s t)
      (hq : q.run (Calls.upTo n) t = some (finding, u)) : Led s u
  | report {t : Session α} (builds : List (Build (Answer α))) (log : List LogRecord)
      (ht : Led s t) : Led s { t with builds := builds, log := log }

theorem Led.force {s t u : Session α} {n : Nat} {h : Rule} {r : Except Fault (Parser α)}
    (ht : Led s t) (hf : h.force (Calls.upTo n).build t = some (r, u)) : Led s u := by
  cases r with
  | ok p => exact ht.query n (.force h) (Run.bind_of_eq_some hf)
  | error fault => exact ht.query n (.force h) (Run.bind_of_eq_some hf)

/-! ## What holds of queries -/

/-- **A query is as a discipline says**, if asking whether a rule is defined is. -/
theorem Query.runs {D : Discipline α} {calls : Calls α} (hc : D.Respects calls) {w : D.World}
    (hdefined : ∀ h : Rule, D.Runs w (h.isDefined : Run α Bool)) (q : Query α)
    (hq : D.Holds w q.parser) : D.Runs w (q.run calls) := by
  cases q with
  | parse p x => exact (Discipline.parse hc p x hq).bind fun _ _ _ => Discipline.runs_pure
  | parseAll p x => exact (Discipline.parseAll hc p x hq).bind fun _ _ _ => Discipline.runs_pure
  | label p => exact (Discipline.label hc p hq).bind fun _ _ _ => Discipline.runs_pure
  | describe p => exact (Discipline.describe hc p [] hq).bind fun _ _ _ => Discipline.runs_pure
  | force h =>
    exact hc.force_bind hq (fun _ _ _ => Discipline.runs_pure) fun _ _ => Discipline.runs_pure
  | isDefined h => exact (hdefined h).bind fun _ _ _ => Discipline.runs_pure

end GrammarGraph
