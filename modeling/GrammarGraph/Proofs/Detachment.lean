import GrammarGraph.Proofs.Severance

/-!
# Proofs/Detachment — what becomes of rules whose arena is given up

    last name given up     outermost force returns
    ───────────────────▸ … ───────────────────────▸ detached, for good

Whatever is asked of a handle goes to what its rule is defined as (`Asking`).  A handle whose arena
has been abandoned is detached: it answers at once that its arena is gone, whatever it is asked.
As long as the arena has a name, or a rule of it is running, the handle is attached: it answers by
the stage of its slot, and never that its arena is gone.

`ownership` puts this together with what is never taken back (`Abandoned.later`), what becomes of a
definition during which the arena is given up, and what is left alone when it is
(`Elsewhere.severs`).
-/

namespace GrammarGraph

variable {α β : Type} {s : Session α} {c : Moment α} {h : Rule} {slot : Slot α} {d : Deferred α}

/-! ## Asking handles -/

/-- **What can be asked of a handle**, what is then asked of the parser that its rule is defined as,
and the answer if there is none because of a fault. -/
inductive Asking (h : Rule) : {β : Type} → (Calls α → Run α β) → (Calls α → Parser α → Run α β) →
    (Fault → Run α β) → Prop
  | force : Asking h (fun calls => h.force calls.build) (fun _ p => return .ok p)
      fun fault => return .error fault
  | parse (x : Text) : Asking h ((Parser.rule h).parse · x) (fun calls p => calls.parse p x)
      fun fault => return .error (.definition h.label (Text.preview x) fault)
  | parseAll (x : Text) :
      Asking h ((Parser.rule h).parseAll · x) (fun calls p => calls.parseAll p x)
        fun fault => return .error (.definition h.label (Text.preview x) fault)
  | describe (v : Visited) :
      Asking h ((Parser.rule h).describe · v) (fun calls p => calls.describe p v)
        fun _ => Parser.visit h.id (fun v => return (.leaf .unresolved, v)) v
  | kind (v : Visited) : Asking h ((Parser.rule h).kind · v) (fun calls p => calls.kind p v)
      fun _ => return (.leaf .unresolved, v)
  | label : Asking h (Parser.rule h).label (fun calls p => calls.label p) fun _ => return h.label

theorem Rule.force_bind_apply {build : Deferred α → Run α (Parser α)}
    {f : Except Fault (Parser α) → Run α β} {further : Parser α → Run α β}
    {answer : Fault → Run α β}
    (hok : ∀ p, f (.ok p) = further p) (herror : ∀ fault, f (.error fault) = answer fault) :
    (h.force build >>= f) s = (h.force build s).bind fun x =>
      match x.1 with
      | .ok p => further p x.2
      | .error fault => answer fault x.2 := by
  refine Option.bind_congr fun ⟨r, t⟩ _ => ?_
  cases r with
  | ok p => exact congrFun (hok p) t
  | error fault => exact congrFun (herror fault) t

/-- **The rule is forced**, and it is asked further or there is a fault. -/
theorem Asking.apply {m : Calls α → Run α β} {further : Calls α → Parser α → Run α β}
    {answer : Fault → Run α β} (ha : Asking h m further answer) (calls : Calls α) (s : Session α) :
    m calls s = (h.force calls.build s).bind fun x =>
      match x.1 with
      | .ok p => further calls p x.2
      | .error fault => answer fault x.2 := by
  cases ha with
  | force =>
    dsimp only
    cases h.force calls.build s with
    | none => rfl
    | some x => obtain ⟨_ | _, t⟩ := x <;> rfl
  | parse x => exact Rule.force_bind_apply (fun _ => rfl) fun _ => rfl
  | parseAll x => exact Rule.force_bind_apply (fun _ => rfl) fun _ => rfl
  | describe v => exact Rule.force_bind_apply (fun _ => rfl) fun _ => rfl
  | kind v => exact Rule.force_bind_apply (fun _ => rfl) fun _ => rfl
  | label => exact Rule.force_bind_apply (fun _ => rfl) fun _ => rfl

/-! ## Detached and attached handles -/

/-- **A detached handle**: whatever it is asked, and whatever is done with definitions, it answers
at once that its arena is gone. -/
structure Detached (s : Session α) (h : Rule) : Prop where
  ask : ∀ {β : Type} {m : Calls α → Run α β} {further : Calls α → Parser α → Run α β}
    {answer : Fault → Run α β}, Asking h m further answer → ∀ calls, m calls s = answer .detached s
  define : ∀ p, h.define p s = some (.error .detached, s)
  isDefined : h.isDefined s = some (false, s)

/-- **An attached handle** answers by the stage of its slot. -/
structure Attached (s : Session α) (h : Rule) (slot : Slot α) : Prop where
  ask : ∀ {β : Type} {m : Calls α → Run α β} {further : Calls α → Parser α → Run α β}
    {answer : Fault → Run α β}, Asking h m further answer → ∀ n, m (Calls.upTo n) s =
      match slot.stage with
      | .empty => answer .undefined s
      | .building => answer .reentrant s
      | .built p => further (Calls.upTo n) p s
      | .pending d => (h.runThunk (Calls.upTo n).build d (s.beginBuild h)).bind fun x =>
        further (Calls.upTo n) x.1 (x.2.finishBuild h x.1)
  define : ∀ p, h.define p s =
    match slot.stage with
    | .empty => some (.ok (), s.changeSlot h fun slot => (slot.store p).2)
    | .building | .built _ | .pending _ => some (.error (.alreadyDefined h.id), s)
  isDefined : h.isDefined s =
    match slot.stage with
    | .empty => some (false, s)
    | .building | .built _ | .pending _ => some (true, s)

theorem Detached.of_slot? (hs : s.slot? h = none) : Detached s h where
  ask ha calls := by
    rw [ha.apply, Rule.force_apply, hs]
    rfl
  define p := by
    rw [Rule.define_apply, hs]
    rfl
  isDefined := by
    rw [Rule.isDefined_apply, hs]
    rfl

/-- What happens while a definition is being built. -/
theorem Moment.Later.runThunk {running : List Place} {n : Nat} {p : Parser α} {t : Session α}
    (hthunk : h.runThunk (Calls.upTo n).build d s = some (p, t)) :
    Moment.Later ⟨running, s⟩ ⟨running, t⟩ := by
  obtain ⟨_, u, hlog, hbuild⟩ := Run.bind_eq_some_iff.1 hthunk
  obtain ⟨log, hlog'⟩ := Run.exists_log_eq .trace ("building lazy rule " ++ h.id.mark) s
  obtain ⟨-, rfl⟩ := Prod.mk.inj (Option.some.inj (hlog.symm.trans hlog'))
  cases n with
  | zero => cases hbuild
  | succ n => exact .head (.report s.builds log) (.single (.operate (.definition n d) hbuild))

/-- **A definition that has been built is stored**, whatever has become of the arena meanwhile. -/
theorem Tells.runThunk {es : Events α} (ht : Tells es c) (hs : c.session.slot? h = some slot)
    (hd : slot.stage = .pending d) {n : Nat} {p : Parser α} {t : Session α}
    (hthunk : h.runThunk (Calls.upTo n).build d (c.session.beginBuild h) = some (p, t)) :
    h.force (Calls.upTo n).build c.session = some (.ok p, t.finishBuild h p) ∧
      (t.finishBuild h p).slotOf? h.place = some { value := some p } := by
  have hp : (c.session.slot? h).map Slot.stage = some (.pending d) := by
    rw [hs, Option.map_some, hd]
  have hf : h.force (Calls.upTo n).build c.session = _ := Rule.force_of_pending hp
  rw [hthunk, Option.map_some] at hf
  have hslot : slot = { deferred := some d } := ((ht.story_of_slot? hs).stage_eq_iff _).1 hd
  obtain ⟨p', t', es', hthunk', -, hr, -, hstored⟩ := (ht.answers hs).pending d hslot n _ _ hf
  obtain ⟨rfl, rfl⟩ := Prod.mk.inj (Option.some.inj (hthunk.symm.trans hthunk'))
  exact ⟨hr ▸ hf, hstored⟩

theorem Attached.of_slot? {es : Events α} (ht : Tells es c) (hs : c.session.slot? h = some slot) :
    Attached c.session h slot where
  ask ha n := by
    rw [ha.apply]
    cases hstage : slot.stage with
    | empty | building | built =>
      rw [Rule.force_apply, hs, Option.map_some, hstage]
      rfl
    | pending d =>
      have hp : (c.session.slot? h).map Slot.stage = some (.pending d) := by
        rw [hs, Option.map_some, hstage]
      cases hthunk : h.runThunk (Calls.upTo n).build d (c.session.beginBuild h) with
      | none =>
        dsimp only
        rw [Rule.force_of_pending hp, hthunk]
        rfl
      | some x =>
        dsimp only
        rw [(ht.runThunk hs hstage hthunk).1, hthunk]
        rfl
  define p := by
    rw [Rule.define_apply, hs, Option.map_some]
    cases slot.stage <;> rfl
  isDefined := by
    rw [Rule.isDefined_apply, hs, Option.map_some]
    cases slot.stage <;> rfl

theorem Attached.define_ne (ha : Attached s h slot) {p : Parser α} {t : Session α} :
    h.define p s ≠ some (.error .detached, t) := by
  rw [ha.define]
  cases slot.stage <;> nofun

/-- An attached handle is not detached. -/
theorem Attached.not_detached (ha : Attached s h slot) : ¬Detached s h :=
  fun hd => ha.define_ne (hd.define (.literal 0 []))

theorem Attached.force_ne (ha : Attached s h slot) {n : Nat} {t : Session α} :
    h.force (Calls.upTo n).build s ≠ some (.error .detached, t) := by
  intro hf
  have hask := (ha.ask .force n).symm.trans hf
  cases hstage : slot.stage with
  | empty | building | built =>
    rw [hstage] at hask
    cases hask
  | pending d =>
    rw [hstage] at hask
    obtain ⟨x, -, hx⟩ := Option.bind_eq_some_iff.1 hask
    cases hx

/-! ## Owners -/

theorem Session.arena_lt_of_slotOf? {x : Place} (hs : s.slotOf? x = some slot) :
    x.arena < s.arenas.length := by
  obtain ⟨a, harena, -⟩ := Option.bind_eq_some_iff.1 hs
  exact (List.getElem?_eq_some_iff.1 harena).1

theorem Abandoned.detached (hl : Ledger c.running c.session) (ha : Abandoned c h.arena)
    (hid : h.arena < c.session.arenas.length) : Detached c.session h := by
  refine .of_slot? ?_
  have harena := List.getElem?_eq_getElem hid
  have hdead := mt (hl.isAlive_iff harena).1 (not_not_intro ha)
  rw [Session.slot?, Session.isAlive, harena, Option.any_some, if_neg hdead]

theorem Ledger.slot?_of_not_abandoned (hl : Ledger c.running c.session)
    (hs : c.session.slotOf? h.place = some slot) (ha : ¬Abandoned c h.arena) :
    c.session.slot? h = some slot := by
  have harena := List.getElem?_eq_getElem (Session.arena_lt_of_slotOf? hs)
  have halive := (hl.isAlive_iff harena).2 ha
  rw [Session.slot?, Session.isAlive, show c.session.arenas[h.arena]? = _ from harena,
    Option.any_some, if_pos halive]
  exact hs

/-- **Who owns what, at a moment and from then on.** -/
structure Ownership (c : Moment α) : Prop where
  /-- A handle is detached if its arena has been abandoned, and only then. -/
  detached_iff : ∀ (h : Rule) slot, c.session.slotOf? h.place = some slot →
    (Detached c.session h ↔ Abandoned c h.arena)
  force_iff : ∀ (h : Rule) slot, c.session.slotOf? h.place = some slot → ∀ n,
    (∃ t, h.force (Calls.upTo n).build c.session = some (.error .detached, t)) ↔
      Abandoned c h.arena
  /-- So it is with whatever a handle is asked, when the handle is resolved: it is parsed with,
  described and labelled as one whose arena is gone if that has been abandoned, and only then. -/
  ask_iff : ∀ (h : Rule) slot, c.session.slotOf? h.place = some slot → ∀ {β : Type}
    {m : Calls α → Run α β} {further : Calls α → Parser α → Run α β} {answer : Fault → Run α β},
    Asking h m further answer → ∀ n,
      (∃ t, h.force (Calls.upTo n).build c.session = some (.error .detached, t) ∧
        m (Calls.upTo n) c.session = answer .detached t) ↔ Abandoned c h.arena
  define_iff : ∀ (h : Rule) slot, c.session.slotOf? h.place = some slot → ∀ p,
    (∃ t, h.define p c.session = some (.error .detached, t)) ↔ Abandoned c h.arena
  attached : ∀ (h : Rule) slot, c.session.slotOf? h.place = some slot → ¬Abandoned c h.arena →
    Attached c.session h slot
  /-- Whatever happens, a handle that is detached is so for good. -/
  forever : ∀ (h : Rule) slot c', c.session.slotOf? h.place = some slot →
    Detached c.session h → c.Later c' → Detached c'.session h
  /-- A definition is built while its rule is running, and then stored and answered, even if the
  arena has been given up in between. -/
  built : ∀ (h : Rule) slot d, c.session.slotOf? h.place = some slot → ¬Abandoned c h.arena →
    slot.stage = .pending d → ∀ n p t,
      h.runThunk (Calls.upTo n).build d (c.session.beginBuild h) = some (p, t) →
        c.Later ⟨h.place :: c.running, t⟩ ∧
          h.force (Calls.upTo n).build c.session = some (.ok p, t.finishBuild h p) ∧
            (t.finishBuild h p).slotOf? h.place = some { value := some p }
  /-- Giving up an arena changes no slot, and leaves the rules of other arenas as they are. -/
  slots : ∀ name, (∀ x, (c.session.dropArena name).slotOf? x = c.session.slotOf? x) ∧
    ∀ h : Rule, c.session.arenaNames.lookup name ≠ some h.arena →
      (c.session.dropArena name).slot? h = c.session.slot? h
  /-- What has nothing to do with the arena that is given up comes to the same as before, and so
  does what is done afterwards. -/
  elsewhere : ∀ v w, c.session.arenaNames.lookup v.name = some v.arena → Apart v w c.session →
    ∀ {β : Type} {m : Run α β}, Elsewhere v w m →
      m (c.session.dropArena v.name) =
          (m c.session).map (fun y => (y.1, y.2.dropArena v.name)) ∧
        ∀ b t, m c.session = some (b, t) → ∃ w', (∀ x, w x → w' x) ∧
          t.arenaNames.lookup v.name = some v.arena ∧ Apart v w' t

/-- **Ownership of arenas**, at every moment of every course. -/
theorem ownership (hc : Course c) : Ownership c := by
  have hl := hc.ledger
  obtain ⟨es, ht⟩ := hc.tells
  have hattached (h : Rule) (slot : Slot α) (hs : c.session.slotOf? h.place = some slot)
      (ha : ¬Abandoned c h.arena) : Attached c.session h slot :=
    .of_slot? ht (hl.slot?_of_not_abandoned hs ha)
  have hdetached (h : Rule) (slot : Slot α) (hs : c.session.slotOf? h.place = some slot)
      (ha : Abandoned c h.arena) : Detached c.session h :=
    ha.detached hl (Session.arena_lt_of_slotOf? hs)
  have hiff (h : Rule) (slot : Slot α) (hs : c.session.slotOf? h.place = some slot)
      {P : Prop} (hd : Detached c.session h → P) (ha : Attached c.session h slot → ¬P) :
      P ↔ Abandoned c h.arena :=
    ⟨fun hP => Classical.byContradiction fun hkept => ha (hattached h slot hs hkept) hP,
      fun hgone => hd (hdetached h slot hs hgone)⟩
  constructor
  case detached_iff => exact fun h slot hs => hiff h slot hs id Attached.not_detached
  case force_iff =>
    refine fun h slot hs n => hiff h slot hs (fun hd => ⟨_, hd.ask .force _⟩) ?_
    rintro ha ⟨t, hf⟩
    exact ha.force_ne hf
  case ask_iff =>
    intro h slot hs β m further answer hm n
    refine hiff h slot hs (fun hd => ⟨_, hd.ask .force _, hd.ask hm _⟩) ?_
    rintro ha ⟨t, hf, -⟩
    exact ha.force_ne hf
  case define_iff =>
    refine fun h slot hs p => hiff h slot hs (fun hd => ⟨_, hd.define p⟩) ?_
    rintro ha ⟨t, hd⟩
    exact ha.define_ne hd
  case attached => exact hattached
  case forever =>
    intro h slot c' hs hd hlater
    have hgone := (hiff h slot hs id Attached.not_detached).1 hd
    obtain ⟨ha, hid⟩ := hgone.later hl (Session.arena_lt_of_slotOf? hs) hlater
    exact ha.detached (hlater.ledger hl) hid
  case built =>
    intro h slot d hs ha hd n p t hthunk
    have hslot := hl.slot?_of_not_abandoned hs ha
    have henter : Leads c ⟨h.place :: c.running, c.session.beginBuild h⟩ :=
      .enter (by rw [hslot, Option.map_some, hd])
    exact ⟨(Moment.Later.runThunk hthunk).head henter, ht.runThunk hslot hd hthunk⟩
  case slots =>
    exact fun name => ⟨Session.slotOf?_dropArena name, fun h hne => Session.slot?_dropArena hne⟩
  case elsewhere =>
    intro v w hname hw β m hm
    obtain ⟨hsame, hlater⟩ := hm.severs c.session ⟨hw, hname, hl.lt_of_lookup hname⟩
    refine ⟨hsame, fun b t hb => ?_⟩
    obtain ⟨w', hw', ht, -⟩ := hlater b t hb
    exact ⟨w', hw', ht.named, ht.toApart⟩

/-- A rule whose definition gives up the arena of the rule: it is running to the end, and only then
is it detached.  A rule of another arena does not notice. -/
theorem ownership_given_up_while_running : ∃ (h r : Rule) (s t u : Session Unit) (p : Parser Unit),
    Course ⟨[], s⟩ ∧ h.force (Calls.upTo 1).build s = some (.ok p, t) ∧
      t.slotOf? h.place = some { value := some p } ∧
      Course ⟨[h.place], u⟩ ∧ (∀ name, u.arenaNames.lookup name ≠ some h.arena) ∧
      h.force (Calls.upTo 1).build u = some (.error .reentrant, u) ∧
      Course ⟨[], t⟩ ∧ Detached t h ∧
      r.force (Calls.upTo 1).build (s.dropArena "rules") =
        (r.force (Calls.upTo 1).build s).map fun y => (y.1, y.2.dropArena "rules") := by
  let d : Deferred Unit := ⟨"rule", [.dropArena "rules"], .literal ['a']⟩
  let e : Deferred Unit := ⟨"other", [], .literal ['b']⟩
  let h : Rule := ⟨0, 0, 0⟩
  let r : Rule := ⟨1, 1, 0⟩
  let s₀ : Session Unit := ({} : Session Unit).newArena "rules"
  let s₁ : Session Unit := s₀.newArena "others"
  let s₂ : Session Unit := (s₁.addSlot 0 { deferred := some d }).2
  let s : Session Unit := (s₂.addSlot 1 { deferred := some e }).2
  let u : Session Unit := (s.beginBuild h).dropArena "rules"
  let t : Session Unit :=
    { u with nextId := 3, builds := [⟨"rule", [⟨.dropped true, [], []⟩], .ok 2⟩] }
  let p : Parser Unit := .literal 2 ['a']
  have hrules : Course ⟨[], s₀⟩ :=
    (Course.start false).leads (.operate (.step 0 (.newArena "rules")) rfl)
  have hothers : Course ⟨[], s₁⟩ := hrules.leads (.operate (.step 0 (.newArena "others")) rfl)
  have hcreate : Course ⟨[], s₂⟩ := hothers.leads (.operate (.create 0 (some d)) rfl)
  have hs : Course ⟨[], s⟩ := hcreate.leads (.operate (.create 1 (some e)) rfl)
  -- The definition is built, and the name is given up on the way.
  have hthunk : h.runThunk (Calls.upTo 1).build d (s.beginBuild h) = some (p, t) := rfl
  obtain ⟨-, hbuilt⟩ :=
    (ownership hs).built h _ d rfl (fun ha => ha.1 "rules" rfl) rfl 1 p t hthunk
  -- Until the definition has been built, its rule is running.
  have henter : Course ⟨[h.place], s.beginBuild h⟩ := hs.leads (.enter rfl)
  have hu : Course ⟨[h.place], u⟩ := henter.leads (.operate (.step 0 (.dropArena "rules")) rfl)
  have hrunning : ¬Abandoned ⟨[h.place], u⟩ 0 :=
    fun ha => ha.2 h.place (List.mem_singleton_self _) rfl
  have hreentrant := ((ownership hu).attached h { forcing := true } rfl hrunning).ask .force 1
  have hnames (name : String) : u.arenaNames.lookup name ≠ some 0 := by
    intro hname
    have hother : [("others", 1)].lookup name = some 0 := hname
    rw [List.lookup_cons] at hother
    split at hother <;> cases hother
  have ht : Course ⟨[], t.finishBuild h p⟩ := hs.leads (.operate (.force 1 h) hbuilt.1)
  have hdetached := ((ownership ht).detached_iff h _ hbuilt.2).2 ⟨hnames, nofun⟩
  -- The other rule has a definition that mentions nothing.
  have happart : Apart ⟨"rules", 0, fun _ => False⟩ (· = r.place) s := by
    refine ⟨?_, ?_, ?_, nofun, fun _ _ => id⟩
    · rintro _ rfl
      exact Nat.one_ne_zero
    · rintro _ slot q rfl hslot hq
      obtain rfl : { deferred := some e } = slot := Option.some.inj hslot
      cases hq
    · rintro _ slot e' rfl hslot he
      obtain rfl : { deferred := some e } = slot := Option.some.inj hslot
      obtain rfl := Option.some.inj he
      exact nofun
  have helsewhere := (ownership hs).elsewhere _ _ rfl happart (.force 1 (h := r) rfl)
  exact ⟨h, r, s, _, u, p, hs, hbuilt.1, hbuilt.2, hu, hnames, hreentrant, ht, hdetached,
    helsewhere.1⟩

end GrammarGraph
