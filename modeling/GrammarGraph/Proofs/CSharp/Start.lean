import GrammarGraph.Proofs.Building
import GrammarGraph.Proofs.CSharp.Rules
import GrammarGraph.Proofs.Rule

/-!
# Proofs/CSharp/Start — sessions with the grammar of C#

    steps ──start──▸ session ──force──▸ session ──…

The session that the steps of the grammar lead to is computed here once and for all (`start_eq`).
From then on a session with the grammar changes in one way only: the generic arguments, which are
pending at first, are built when they are first needed (`Live`).
-/

namespace GrammarGraph.CSharp

namespace Rules

/-- What the names of the grammar stand for. -/
def names : List (String × Binding Value) := [
  ("usings", .parser directives), ("using", .parser directive), ("alias", .parser usingAlias),
  ("array suffix", .parser arraySuffix), ("named type", .parser namedType),
  ("tuple", .parser tuple), ("further elements", .parser furtherElements),
  ("element", .parser element), ("generic_arguments", .rule argumentsRule),
  ("argument", .parser argument), ("variance", .parser variance), ("type", .rule typeRule),
  ("namespaced_name", .parser namespacedName), ("identifier", .parser identifier),
  ("gap", .parser gap), ("spaces", .parser spaces)]

/-- The definition of the generic arguments, as long as it is put off. -/
def argumentsDeferred : Deferred Value where
  name := "generic_arguments"
  steps := [.bind "further arguments" (Grammar.furtherItems (.ref "argument"))]
  expr := .named "generic arguments"
    (Grammar.bracketed "<" ">" (.ref "argument") (.ref "further arguments"))

/-- The slot of the rule for types. -/
def typeSlot : Slot Value := { value := some type }

/-- The slot of the rule for generic arguments, before these are built. -/
def pendingSlot : Slot Value := { deferred := some argumentsDeferred }

/-- The session that the steps of the grammar have led to when the oldest names are those left
after `unnamed` of them. -/
def stage (logging : Bool) (nextId : NodeId) (slots : List (Slot Value)) (unnamed : Nat) :
    Session Value where
  nextId := nextId
  arenas := [{ slots := slots }]
  bindings := names.drop unnamed
  arenaNames := [("rules", 0)]
  logging := logging

/-- The session that the grammar starts with. -/
def session (logging : Bool) : Session Value := stage logging 76 [typeSlot, pendingSlot] 0

end Rules

open Rules

/-! ## The start -/

/-- A pattern that matches no empty text is compiled without a record. -/
theorem readPattern_eq_pure {source : String} {options : Pattern.Options} {r : Regex}
    (hread : Regex.library.read? options source = some r)
    (hmin : (Regex.library.minimumLength? r == some 0) = false)
    (hcompile : Regex.library.compile? r = some r) :
    Expr.readPattern Regex.library source options =
      (pure (.ok (.ofRegex source r)) : Run Value (Except GrammarError Pattern)) := by
  rw [Expr.readPattern, hread]
  simp only [hmin, hcompile]
  rfl

theorem readPattern_spaces : Expr.readPattern Regex.library "\\s+" {} =
    (pure (.ok spacesPattern) : Run Value (Except GrammarError Pattern)) := by
  refine readPattern_eq_pure ?_ rfl rfl
  change Pattern.read? _ _ = _
  decide +kernel

theorem readPattern_identifier : Expr.readPattern Regex.library "[A-Za-z_][A-Za-z0-9_]*" {} =
    (pure (.ok identifierPattern) : Run Value (Except GrammarError Pattern)) := by
  refine readPattern_eq_pure ?_ rfl rfl
  change Pattern.read? _ _ = _
  decide +kernel

theorem readPattern_variance : Expr.readPattern Regex.library "in|out" { ignoreCase := true } =
    (pure (.ok variancePattern) : Run Value (Except GrammarError Pattern)) := by
  refine readPattern_eq_pure ?_ rfl rfl
  change Pattern.read? _ _ = _
  decide +kernel

section Lists

variable {ns : List (String × Binding Value)} {item further : String} {p q : Parser Value}
  {i : NodeId}

/-- Further items are built out of what the name of an item stands for. -/
theorem builds_furtherItems (hgap : ns.lookup "gap" = some (.parser gap))
    (hitem : ns.lookup item = some (.parser p)) :
    (Grammar.furtherItems (.ref item)).Builds ns i (furtherItems i (.boxed p)) (i + 5) :=
  .star (.sequence (.sequence (.sequence (.ref hgap) .literal) (.ref hgap)) (.ref hitem))

/-- A list between brackets is built out of what the names of its items stand for. -/
theorem builds_bracketed (hgap : ns.lookup "gap" = some (.parser gap))
    (hitem : ns.lookup item = some (.parser p)) (hfurther : ns.lookup further = some (.parser q))
    {left right : String} {l r : Char} (hl : left.toList = [l]) (hr : right.toList = [r]) :
    (Grammar.bracketed left right (.ref item) (.ref further)).Builds ns i
      (bracketed i l r (.boxed p) (.boxed q)) (i + 8) := by
  rw [Grammar.bracketed, Grammar.lit, Grammar.lit, hl, hr]
  refine .map (.sequence (.sequence (.sequence ?_ (.ref hfurther)) (.ref hgap)) .literal)
  exact .sequence (.sequence .literal (.ref hgap)) (.ref hitem)

end Lists

section Stages

variable {calls : Calls Value} {logging : Bool} {l l' : List (Step Value)} {s t : Session Value}

/-- The session that steps lead to. -/
def sessionAfter (calls : Calls Value) (steps : List (Step Value)) (s : Session Value) :
    Option (Session Value) :=
  (steps.mapM (Step.run calls) s).map (·.2)

theorem after_append (h : sessionAfter calls l s = some t) :
    sessionAfter calls (l ++ l') s = sessionAfter calls l' t := by
  obtain ⟨⟨answers, _⟩, hl, rfl⟩ := Option.map_eq_some_iff.1 h
  rw [sessionAfter, List.mapM_append, Run.bind_of_eq_some hl, sessionAfter]
  exact Run.map_snd_bind_pure

theorem after_cons {step : Step Value} {a : Answer Value}
    (h : step.run calls s = some (a, t)) :
    sessionAfter calls (step :: l) s = sessionAfter calls l t :=
  Step.mapM_run_cons h

/-- The next name is given to the parser that it stands for in the end. -/
theorem after_bind {name : String} {e : Expr Value} {slots : List (Slot Value)} {n : Nat}
    {i j : NodeId} (p : Parser Value)
    (hmeaning : ∀ s, Step.meaning e p s = some (.parser p, s))
    (hname : Session.rename (names.drop (n + 1)) name (.parser p) = names.drop n)
    (h : e.Builds (names.drop (n + 1)) i p j) :
    sessionAfter calls (.bind name e :: l) (stage logging i slots (n + 1)) =
      sessionAfter calls l (stage logging j slots n) :=
  (after_cons (Step.run_bind (s := stage logging i slots (n + 1)) h hmeaning name)).trans
    (congrArg (fun b => sessionAfter calls l { stage logging j slots n with bindings := b })
      hname)

theorem after_names : sessionAfter calls (Grammar.steps.take 6) { logging := logging } =
    some (stage logging 15 [{}] 11) := by
  refine (after_cons (t := stage logging 0 [] 16) rfl).trans ?_
  refine (after_bind (j := 2) spaces (fun _ => rfl) rfl ?_).trans ?_
  · exact .named (.pattern readPattern_spaces)
  refine (after_bind (j := 3) gap (fun _ => rfl) rfl ?_).trans ?_
  · exact .optional (.ref rfl)
  refine (after_bind (j := 6) identifier (fun _ => rfl) rfl ?_).trans ?_
  · exact .named (.map (.pattern readPattern_identifier))
  refine (after_bind (j := 14) namespacedName (fun _ => rfl) rfl ?_).trans ?_
  · refine .named (.map (.sequence (.star ?_) (.ref rfl)))
    exact .sequence (.sequence (.sequence (.ref rfl) (.ref rfl)) .literal) (.ref rfl)
  exact after_cons (t := stage logging 15 [{}] 11) rfl

theorem after_arguments :
    sessionAfter calls ((Grammar.steps.drop 6).take 4) (stage logging 15 [{}] 11) =
      some (stage logging 29 [{}, pendingSlot] 7) := by
  refine (after_bind (j := 19) variance (fun _ => rfl) rfl ?_).trans ?_
  · exact .named (.map (.sequence (.pattern readPattern_variance) (.ref rfl)))
  refine (after_bind (j := 23) argument (fun _ => rfl) rfl ?_).trans ?_
  · exact .named (.map (.sequence (.optional (.ref rfl)) (.rule rfl)))
  refine (after_cons (t := stage logging 24 [{}, pendingSlot] 8) rfl).trans ?_
  refine (after_bind (j := 29) element (fun _ => rfl) rfl ?_).trans rfl
  exact .named (.map (.sequence (.rule rfl) (.optional (.sequence (.ref rfl) (.ref rfl)))))

theorem after_tuple :
    sessionAfter calls ((Grammar.steps.drop 10).take 4) (stage logging 29 [{}, pendingSlot] 7) =
      some (stage logging 52 [{}, pendingSlot] 3) := by
  refine (after_bind (j := 34) furtherElements (fun _ => rfl) rfl ?_).trans ?_
  · exact builds_furtherItems rfl rfl
  refine (after_bind (j := 43) tuple (fun _ => rfl) rfl ?_).trans ?_
  · exact .named (builds_bracketed rfl rfl rfl (by decide) (by decide))
  refine (after_bind (j := 47) namedType (fun _ => rfl) rfl ?_).trans ?_
  · exact .map (.sequence (.ref rfl) (.optional (.sequence (.ref rfl) (.rule rfl))))
  refine (after_bind (j := 52) arraySuffix (fun _ => rfl) rfl ?_).trans rfl
  exact .sequence (.sequence (.sequence (.ref rfl) .literal) (.ref rfl)) .literal

theorem after_type :
    sessionAfter calls (Grammar.steps.drop 14) (stage logging 52 [{}, pendingSlot] 3) =
      some (session logging) := by
  refine (after_cons (t := stage logging 58 [typeSlot, pendingSlot] 3)
    (Step.run_define (h := typeRule) (p := type) (j := 58) rfl rfl ?_)).trans ?_
  · refine .named (.map (.sequence ?_ (.star (.ref rfl))))
    exact .choice (.map (.ref rfl)) (.ref rfl)
  refine (after_bind (j := 64) usingAlias (fun _ => rfl) rfl ?_).trans ?_
  · refine .map (.sequence (.sequence ?_ (.ref rfl)) (.rule rfl))
    exact .sequence (.sequence (.ref rfl) (.ref rfl)) .literal
  refine (after_bind (j := 73) directive (fun _ => rfl) rfl ?_).trans ?_
  · refine .named (.sequence (.sequence (.sequence (.sequence .literal (.ref rfl)) ?_) (.ref rfl))
      .literal)
    exact .choice (.ref rfl) (.map (.ref rfl))
  refine (after_bind (j := 76) directives (fun _ => rfl) rfl ?_).trans rfl
  exact .sequence (.ref rfl) (.star (.sequence (.ref rfl) (.ref rfl)))

theorem after_steps :
    sessionAfter calls Grammar.steps { logging := logging } = some (session logging) := by
  change sessionAfter calls (Grammar.steps.take 6 ++ ((Grammar.steps.drop 6).take 4 ++
    ((Grammar.steps.drop 10).take 4 ++ Grammar.steps.drop 14))) _ = _
  rw [after_append after_names, after_append after_arguments, after_append after_tuple, after_type]

end Stages

/-- **The session that the grammar starts with**, whatever was logged while it was built. -/
theorem start_eq (logging : Bool) :
    ∃ log, Grammar.start logging = some (log, session logging) := by
  have hrun : (Script.run Grammar.steps { logging := logging }).map (·.2) =
      some (session logging) := after_steps
  obtain ⟨⟨answers, _⟩, h, rfl⟩ := Option.map_eq_some_iff.1 hrun
  rw [Grammar.start, h]
  exact ⟨_, rfl⟩

/-! ## Sessions in which the grammar is in use -/

/-- **A session with the grammar**: the rule for types is defined, and that for generic arguments
is pending or built. -/
inductive Live (s : Session Value) : Prop
  | pending (hb : s.bindings = names) (ha : s.arenas = [{ slots := [typeSlot, pendingSlot] }])
  | built (id : NodeId)
      (hb : s.bindings =
        Session.rename names "further arguments" (.parser (furtherItems id (.boxed argument))))
      (ha : s.arenas = [{ slots := [typeSlot, { value := some (arguments id) }] }])

theorem live_session (logging : Bool) : Live (session logging) := .pending rfl rfl

theorem Live.log {s : Session Value} {l : List LogRecord} (h : Live s) :
    Live { s with log := l } := by
  cases h with
  | pending hb ha => exact .pending hb ha
  | built id hb ha => exact .built id hb ha

theorem slot?_eq {s : Session Value} {slots : List (Slot Value)}
    (ha : s.arenas = [{ slots := slots }]) (h : Rule) :
    s.slot? h = if h.arena = 0 then slots[h.slot]? else none := by
  rw [Session.slot?, Session.isAlive, Session.slotAt?, ha]
  rcases h.arena with _ | i
  · rfl
  · rfl

/-- The generic arguments are built out of the parsers that the names stand for. -/
theorem build_arguments (calls : Calls Value) {s : Session Value} (hb : s.bindings = names) :
    argumentsDeferred.build calls s = some (arguments s.nextId,
      { s with
        nextId := s.nextId + 14
        bindings := Session.rename names "further arguments"
          (.parser (furtherItems s.nextId (.boxed argument)))
        builds := s.builds ++ [⟨"generic_arguments",
          [⟨.identity (s.nextId + 4), [], []⟩], .ok (s.nextId + 13)⟩] }) := by
  obtain ⟨id, arenas, bindings, arenaNames, visitedSets, logging, log, builds⟩ := s
  obtain rfl : bindings = names := hb
  have hfurther : (Step.bind "further arguments" (Grammar.furtherItems (.ref "argument"))).run calls
      ⟨id, arenas, names, arenaNames, visitedSets, logging, log, builds⟩ = _ :=
    Step.run_bind (builds_furtherItems rfl rfl) (fun _ => rfl) _
  refine Deferred.build_of_builds (d := argumentsDeferred)
    ((Step.mapM_singleton _).trans (congrArg _ hfurther)) (.named ?_)
  exact builds_bracketed rfl rfl rfl (by decide) (by decide)

section Forcing

variable {h : Rule} (h0 : h.arena = 0)

include h0

theorem returns_force_type (hslot : h.slot = 0)
    (build : Deferred Value → Run Value (Parser Value)) :
    Run.Returns Live (h.force build) (· = .ok type) := by
  intro s hs
  have hstage : (s.slot? h).map Slot.stage = some (.built type) := by
    cases hs with
    | pending _ ha => rw [slot?_eq ha, if_pos h0, hslot]; rfl
    | built _ _ ha => rw [slot?_eq ha, if_pos h0, hslot]; rfl
  rw [Rule.force_apply, hstage]
  exact ⟨_, s, rfl, hs, rfl⟩

theorem returns_force_arguments (hslot : h.slot = 1) (n : Nat) :
    Run.Returns Live (h.force (Calls.upTo (n + 1)).build)
      fun r => ∃ p, r = .ok p ∧ ∃ id, p = arguments id := by
  intro s hs
  cases hs with
  | built id hb ha =>
    rw [Rule.force_apply, slot?_eq ha, if_pos h0, hslot]
    exact ⟨_, s, rfl, .built id hb ha, _, rfl, id, rfl⟩
  | pending hb ha =>
    have hpending : (s.slot? h).map Slot.stage = some (.pending argumentsDeferred) := by
      rw [slot?_eq ha, if_pos h0, hslot]
      rfl
    have hbuilding : (s.beginBuild h).arenas =
        [{ slots := [typeSlot, pendingSlot.beginBuild], builds := 1 }] := by
      simp only [Session.beginBuild, Session.changeArena, ha, h0, hslot]
      rfl
    obtain ⟨log, hlog⟩ := Run.exists_log_eq .trace ("building lazy rule " ++ h.id.mark)
      (s.beginBuild h)
    have hthunk : h.runThunk (Calls.upTo (n + 1)).build argumentsDeferred (s.beginBuild h) = _ :=
      (Run.bind_of_eq_some hlog).trans (build_arguments (Calls.upTo n) hb)
    refine ⟨_, _, (Rule.force_of_pending hpending).trans (congrArg _ hthunk),
      .built s.nextId rfl ?_, _, rfl, s.nextId, ?_⟩
    · simp only [Session.finishBuild, Session.changeArena, hbuilding, h0, hslot]
      rfl
    · simp only [Session.slotAt?, hbuilding, h0, hslot]
      rfl

end Forcing

/-- **What the rules of the grammar may be defined as.**  Rules are told apart by where their
definitions are kept. -/
def Defined (h : Rule) (p : Parser Value) : Prop :=
  h.arena = 0 ∧ (h.slot = 0 ∧ p = type ∨ h.slot = 1 ∧ ∃ id, p = arguments id)

/-- A rule that is none of the grammar has no slot. -/
theorem slot?_eq_none {s : Session Value} (hs : Live s) {h : Rule}
    (hh : h.arena = 0 → 2 ≤ h.slot) : s.slot? h = none := by
  obtain ⟨slots, ha, hlength⟩ : ∃ slots, s.arenas = [{ slots := slots }] ∧ slots.length = 2 := by
    cases hs with
    | pending _ ha => exact ⟨_, ha, rfl⟩
    | built _ _ ha => exact ⟨_, ha, rfl⟩
  rw [slot?_eq ha]
  split
  · next h0 => exact List.getElem?_eq_none (hlength ▸ hh h0)
  · rfl

/-- Where nothing can be built, only what has been built is to be had. -/
theorem force_arguments_zero {h : Rule} (h0 : h.arena = 0) (hslot : h.slot = 1) :
    Run.Keeps Live (h.force (Calls.upTo 0).build) fun r => ∀ p, r = .ok p → Defined h p := by
  intro s b s' hs hb
  cases hs with
  | built id hn ha =>
    rw [Rule.force_apply, slot?_eq ha, if_pos h0, hslot] at hb
    obtain ⟨rfl, rfl⟩ := Prod.mk.inj (Option.some.inj hb)
    refine ⟨.built id hn ha, ?_⟩
    rintro _ ⟨⟩
    exact ⟨h0, .inr ⟨hslot, id, rfl⟩⟩
  | pending hn ha =>
    rw [Rule.force_apply, slot?_eq ha, if_pos h0, hslot] at hb
    obtain ⟨_, _, -, hb⟩ := Run.bind_eq_some_iff.1 hb
    cases hb

/-- **Forcing a rule of the grammar** leads to what it may be defined as; there are no other
rules. -/
theorem keeps_force (n : Nat) (h : Rule) : Run.Keeps Live (h.force (Calls.upTo n).build)
    fun r => ∀ p, r = .ok p → Defined h p := by
  by_cases hrule : h.arena = 0 ∧ (h.slot = 0 ∨ h.slot = 1)
  · obtain ⟨h0, hslot | hslot⟩ := hrule
    · refine (returns_force_type h0 hslot _).keeps.mono ?_
      rintro _ rfl _ ⟨⟩
      exact ⟨h0, .inl ⟨hslot, rfl⟩⟩
    · cases n with
      | zero => exact force_arguments_zero h0 hslot
      | succ n =>
        refine (returns_force_arguments h0 hslot n).keeps.mono ?_
        rintro _ ⟨_, rfl, id, rfl⟩ _ ⟨⟩
        exact ⟨h0, .inr ⟨hslot, id, rfl⟩⟩
  · have hslot (h0 : h.arena = 0) : 2 ≤ h.slot := by
      have : ¬(h.slot = 0 ∨ h.slot = 1) := fun hs => hrule ⟨h0, hs⟩
      omega
    intro s b s' hs hb
    rw [Rule.force_apply, slot?_eq_none hs hslot] at hb
    obtain ⟨rfl, rfl⟩ := Prod.mk.inj (Option.some.inj hb)
    exact ⟨hs, nofun⟩

end GrammarGraph.CSharp
