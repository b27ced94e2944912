import GrammarGraph.Proofs.Lifecycle
import Mathlib.Logic.Relation

/-!
# Proofs/Ownership — what keeps an arena alive

    names ──own──▸ arena ◂──builds── rules that are running

An arena is alive as long as a name stands for it or a definition in it is being built.  A ledger
says so of all arenas at a moment (`Ledger`), and whatever is done in a session keeps it: names are
given and given up one at a time, definitions are entered and left one inside another.  An arena
that has no name is given none, and no definition is entered in an arena that is gone, so one that
has been abandoned stays so (`Abandoned.later`).
-/

namespace GrammarGraph

variable {α β γ : Type} {s t u : Session α} {running : List Place}

/-- The arena held by one more. -/
def Arena.share (a : Arena α) : Arena α := { a with owners := a.owners + 1 }

/-! ## Names -/

namespace Session

section Names

variable {names : List (String × β)} {name : String} {b : β}

theorem not_mem_names : name ∉ names.map (·.1) ↔ names.lookup name = none := by
  rw [List.lookup_eq_none_iff, List.mem_map, not_exists]
  refine forall_congr' fun x => ?_
  rw [not_and, bne_iff_ne]
  exact forall_congr' fun _ => ne_comm

theorem lookup_eq_some_iff (h : (names.map (·.1)).Nodup) :
    names.lookup name = some b ↔ (name, b) ∈ names := by
  induction names with
  | nil => simp
  | cons entry names ih =>
    obtain ⟨key, meaning⟩ := entry
    obtain ⟨hkey, h⟩ := List.nodup_cons.1 h
    rw [List.lookup_cons, List.mem_cons, Prod.mk.injEq]
    by_cases hname : name = key
    · subst hname
      have hnone : (name, b) ∉ names := fun hmem => hkey (List.mem_map.2 ⟨_, hmem, rfl⟩)
      simp [hnone, eq_comm]
    · rw [beq_false_of_ne hname, ih h]
      simp [hname]

theorem lookup_filter (names : List (String × β)) (name other : String) :
    (names.filter (·.1 != name)).lookup other =
      if other = name then none else names.lookup other := by
  induction names with
  | nil => simp
  | cons entry names ih =>
    obtain ⟨key, meaning⟩ := entry
    by_cases hkey : key = name
    · subst hkey
      rw [List.filter_cons_of_neg (by simp), ih, List.lookup_cons]
      split
      · rfl
      · next hne => rw [beq_false_of_ne hne]
    · rw [List.filter_cons_of_pos (by simpa using hkey), List.lookup_cons, List.lookup_cons, ih]
      by_cases hother : other = key
      · subst hother
        simp [hkey]
      · rw [beq_false_of_ne hother]

theorem filter_eq_self (h : names.lookup name = none) : names.filter (·.1 != name) = names := by
  refine List.filter_eq_self.2 fun x hx => ?_
  rw [bne_comm]
  exact List.lookup_eq_none_iff.1 h x hx

/-- A name that is taken away is missed by what it stood for. -/
theorem countP_filter {names : List (String × ArenaId)} (h : (names.map (·.1)).Nodup)
    (name : String) (i : ArenaId) : names.countP (·.2 = i) =
      (names.filter (·.1 != name)).countP (·.2 = i) +
        if names.lookup name = some i then 1 else 0 := by
  induction names with
  | nil => rfl
  | cons entry names ih =>
    obtain ⟨key, id⟩ := entry
    obtain ⟨hkey, h⟩ := List.nodup_cons.1 h
    rw [List.lookup_cons]
    by_cases hname : name = key
    · subst hname
      rw [List.filter_cons_of_neg (by simp), filter_eq_self (not_mem_names.1 hkey),
        List.countP_cons]
      simp
    · rw [List.filter_cons_of_pos (by simpa using Ne.symm hname), beq_false_of_ne hname,
        List.countP_cons, List.countP_cons, ih h, Nat.add_right_comm]

end Names

theorem getElem?_changeArena (s : Session α) (id i : ArenaId) (f : Arena α → Arena α) :
    (s.changeArena id f).arenas[i]? = s.arenas[i]?.map fun a => if id = i then f a else a := by
  rw [changeArena, List.getElem?_modify]
  rfl

theorem length_changeArena (s : Session α) (id : ArenaId) (f : Arena α → Arena α) :
    (s.changeArena id f).arenas.length = s.arenas.length :=
  List.length_modify ..

/-- The arena of a rule that can be used is alive. -/
theorem alive_of_slot? {h : Rule} {slot : Slot α} (hs : s.slot? h = some slot) :
    ∃ a, s.arenas[h.arena]? = some a ∧ a.isAlive = true := by
  rw [slot?] at hs
  split at hs
  · next halive =>
    rw [isAlive, Option.any_eq_true] at halive
    obtain ⟨a, ha, halive⟩ := halive
    exact ⟨a, ha, halive⟩
  · cases hs

theorem arena_lt_of_slot? {h : Rule} {stage : Stage α}
    (hs : (s.slot? h).map Slot.stage = some stage) : h.arena < s.arenas.length := by
  obtain ⟨slot, hslot, -⟩ := Option.map_eq_some_iff.1 hs
  obtain ⟨a, ha, -⟩ := alive_of_slot? hslot
  exact (List.getElem?_eq_some_iff.1 ha).1

theorem arenaNames_dropArena (s : Session α) (name : String) :
    (s.dropArena name).arenaNames = s.arenaNames.filter (·.1 != name) := by
  rw [dropArena]
  split
  · rfl
  · next hnone => exact (filter_eq_self hnone).symm

/-- A name that is given up stands for nothing. -/
theorem lookup_dropArena (s : Session α) (name other : String) :
    (s.dropArena name).arenaNames.lookup other =
      if other = name then none else s.arenaNames.lookup other := by
  rw [arenaNames_dropArena, lookup_filter]

theorem of_lookup_dropArena {name other : String} {id : ArenaId}
    (h : (s.dropArena name).arenaNames.lookup other = some id) :
    other ≠ name ∧ s.arenaNames.lookup other = some id := by
  rw [lookup_dropArena] at h
  split at h
  · cases h
  · next hne => exact ⟨hne, h⟩

theorem getElem?_dropArena (s : Session α) (name : String) (i : ArenaId) :
    (s.dropArena name).arenas[i]? = s.arenas[i]?.map fun a =>
      if s.arenaNames.lookup name = some i then a.drop else a := by
  rw [dropArena]
  split
  · next id hid =>
    simp only [hid, Option.some.injEq]
    exact getElem?_changeArena s id i Arena.drop
  · next hnone => simp [hnone]

/-- The rules of other arenas are there as before. -/
theorem slot?_dropArena {name : String} {h : Rule}
    (hother : s.arenaNames.lookup name ≠ some h.arena) :
    (s.dropArena name).slot? h = s.slot? h := by
  have harena : (s.dropArena name).arenas[h.arena]? = s.arenas[h.arena]? := by
    rw [getElem?_dropArena]
    simp only [if_neg hother, Option.map_id']
  rw [slot?, slot?, isAlive, isAlive, slotAt?, slotAt?, harena]

theorem length_dropArena (s : Session α) (name : String) :
    (s.dropArena name).arenas.length = s.arenas.length := by
  rw [dropArena]
  split
  · next id _ => exact length_changeArena s id Arena.drop
  · rfl

theorem arenaNames_newArena (s : Session α) (name : String) :
    (s.newArena name).arenaNames = (name, s.arenas.length) :: (s.dropArena name).arenaNames := by
  have hnone : (s.dropArena name).arenaNames.lookup name = none := by
    rw [lookup_dropArena, if_pos rfl]
  rw [newArena, rename, length_dropArena, filter_eq_self hnone]

theorem lookup_newArena (s : Session α) (name other : String) :
    (s.newArena name).arenaNames.lookup other =
      if other = name then some s.arenas.length else s.arenaNames.lookup other := by
  rw [arenaNames_newArena, List.lookup_cons, lookup_dropArena]
  by_cases hother : other = name
  · rw [hother, beq_self_eq_true]
    exact (if_pos rfl).symm
  · rw [beq_false_of_ne hother, if_neg hother, if_neg hother]

/-- The new arena comes after all others. -/
theorem getElem?_newArena (s : Session α) (name : String) (i : ArenaId) :
    (s.newArena name).arenas[i]? =
      if i = s.arenas.length then some {} else (s.dropArena name).arenas[i]? := by
  rw [newArena, List.getElem?_append]
  obtain hlt | rfl | hgt := Nat.lt_trichotomy i s.arenas.length
  · rw [if_pos (length_dropArena s name ▸ hlt), if_neg (Nat.ne_of_lt hlt)]
  · rw [if_neg (by rw [length_dropArena]; exact Nat.lt_irrefl _), length_dropArena, Nat.sub_self]
    exact (if_pos rfl).symm
  · rw [if_neg (by rw [length_dropArena]; exact Nat.lt_asymm hgt), if_neg (Nat.ne_of_gt hgt),
      List.getElem?_eq_none (by rw [length_dropArena]; exact Nat.sub_pos_of_lt hgt),
      List.getElem?_eq_none (by rw [length_dropArena]; exact Nat.le_of_lt hgt)]

/-- One more name for an arena. -/
def shareArena (s : Session α) (name : String) (id : ArenaId) : Session α :=
  { s.changeArena id Arena.share with arenaNames := (name, id) :: s.arenaNames }

theorem getElem?_shareArena (s : Session α) (name : String) (id i : ArenaId) :
    (s.shareArena name id).arenas[i]? = s.arenas[i]?.map fun a => if id = i then a.share else a :=
  getElem?_changeArena s id i Arena.share

theorem slotOf?_shareArena (s : Session α) (name : String) (id : ArenaId) (x : Place) :
    (s.shareArena name id).slotOf? x = s.slotOf? x := by
  rw [slotOf?, slotOf?, getElem?_shareArena, Option.bind_map]
  refine Option.bind_congr fun a _ => ?_
  rw [Function.comp_apply]
  split <;> rfl

end Session

/-! ## Ledgers -/

/-- **Who keeps the arenas of a session alive**: an arena has as many owners as it has names, and as
many builds as rules of it are running. -/
structure Ledger (running : List Place) (s : Session α) : Prop where
  owners : ∀ id a, s.arenas[id]? = some a → a.owners = s.arenaNames.countP (·.2 = id)
  builds : ∀ id a, s.arenas[id]? = some a → a.builds = running.countP (·.arena = id)
  nodup : (s.arenaNames.map (·.1)).Nodup
  named : ∀ x ∈ s.arenaNames, x.2 < s.arenas.length
  running : ∀ x ∈ running, x.arena < s.arenas.length

/-- **What has been given up is not taken back**: arenas stay, and none has a name that it did not
have before. -/
structure Session.After (s t : Session α) : Prop where
  length_le : s.arenas.length ≤ t.arenas.length
  names : ∀ name id, id < s.arenas.length → t.arenaNames.lookup name = some id →
    s.arenaNames.lookup name = some id

namespace Session.After

theorem refl (s : Session α) : s.After s := ⟨Nat.le_refl _, fun _ _ _ h => h⟩

theorem trans (h : s.After t) (h' : t.After u) : s.After u where
  length_le := Nat.le_trans h.length_le h'.length_le
  names name id hid hu := h.names name id hid
    (h'.names name id (Nat.lt_of_lt_of_le hid h.length_le) hu)

/-- The same names, of as many arenas. -/
theorem of_names (hlength : t.arenas.length = s.arenas.length)
    (hnames : t.arenaNames = s.arenaNames) : s.After t where
  length_le := Nat.le_of_eq hlength.symm
  names _ _ _ h := hnames ▸ h

theorem dropArena (s : Session α) (name : String) : s.After (s.dropArena name) where
  length_le := Nat.le_of_eq (length_dropArena s name).symm
  names _ _ _ h := (of_lookup_dropArena h).2

theorem newArena (s : Session α) (name : String) : s.After (s.newArena name) where
  length_le := by
    rw [Session.newArena, List.length_append, length_dropArena]
    exact Nat.le_add_right _ _
  names other id hid h := by
    rw [lookup_newArena] at h
    split at h
    · exact absurd (Option.some.inj h).symm (Nat.ne_of_lt hid)
    · exact h

end Session.After

namespace Ledger

theorem start (logging : Bool) : Ledger [] ({ logging := logging } : Session α) where
  owners _ _ := nofun
  builds _ _ := nofun
  nodup := .nil
  named _ := nofun
  running _ := nofun

/-- Changes that leave arenas and their names as they are. -/
theorem congr (h : Ledger running s) (ha : t.arenas = s.arenas)
    (hn : t.arenaNames = s.arenaNames) : Ledger running t := by
  obtain ⟨howners, hbuilds, hnodup, hnamed, hrunning⟩ := h
  rw [← ha] at howners hbuilds hnamed hrunning
  rw [← hn] at howners hnodup hnamed
  exact ⟨howners, hbuilds, hnodup, hnamed, hrunning⟩

/-- One arena changed, with as many builds as are running then. -/
theorem changeArena {running' : List Place} {id : ArenaId} {f : Arena α → Arena α}
    (h : Ledger running s) (howners : ∀ a, (f a).owners = a.owners)
    (hbuilds : ∀ i a, s.arenas[i]? = some a → a.builds = running.countP (·.arena = i) →
      (if id = i then f a else a).builds = running'.countP (·.arena = i))
    (hrunning : ∀ x ∈ running', x.arena < s.arenas.length) :
    Ledger running' (s.changeArena id f) where
  owners i a ha := by
    rw [Session.getElem?_changeArena] at ha
    obtain ⟨b, hb, rfl⟩ := Option.map_eq_some_iff.1 ha
    refine Eq.trans ?_ (h.owners i b hb)
    split
    · exact howners b
    · rfl
  builds i a ha := by
    rw [Session.getElem?_changeArena] at ha
    obtain ⟨b, hb, rfl⟩ := Option.map_eq_some_iff.1 ha
    exact hbuilds i b hb (h.builds i b hb)
  nodup := h.nodup
  named x hx := Session.length_changeArena s id f ▸ h.named x hx
  running x hx := Session.length_changeArena s id f ▸ hrunning x hx

/-- Slots are of no account. -/
theorem changeSlots {id : ArenaId} {f : Arena α → Arena α} (h : Ledger running s)
    (hf : ∀ a, (f a).owners = a.owners ∧ (f a).builds = a.builds) :
    Ledger running (s.changeArena id f) :=
  h.changeArena (fun a => (hf a).1) (fun i a _ hbuilds => by
    split
    · exact (hf a).2.trans hbuilds
    · exact hbuilds) h.running

theorem addSlot (h : Ledger running s) (id : ArenaId) (slot : Slot α) :
    Ledger running (s.addSlot id slot).2 := by
  have hchanged : Ledger running (s.changeArena id (·.addSlot slot)) :=
    h.changeSlots fun _ => ⟨rfl, rfl⟩
  exact hchanged.congr rfl rfl

theorem define {h : Rule} {p : Parser α} {r : Except GrammarError Unit} (hl : Ledger running s)
    (hd : h.define p s = some (r, t)) : Ledger running t := by
  cases r with
  | error e => rwa [Rule.of_define_error hd]
  | ok =>
    obtain ⟨slot, -, -, rfl⟩ := Rule.of_define hd
    exact hl.changeSlots fun _ => ⟨rfl, rfl⟩

theorem beginBuild {h : Rule} (hl : Ledger running s) (hh : h.arena < s.arenas.length) :
    Ledger (h.place :: running) (s.beginBuild h) := by
  refine hl.changeArena (fun _ => rfl) (fun i a _ hbuilds => ?_) fun x hx => ?_
  · rw [List.countP_cons]
    by_cases hi : h.arena = i
    · simp [hi, Rule.place, Arena.beginBuild, Arena.changeSlot, hbuilds]
    · simp [hi, Rule.place, hbuilds]
  · obtain rfl | hx := List.mem_cons.1 hx
    · exact hh
    · exact hl.running x hx

theorem finishBuild {h : Rule} (hl : Ledger (h.place :: running) s) (p : Parser α) :
    Ledger running (s.finishBuild h p) := by
  refine hl.changeArena (fun _ => rfl) (fun i a _ hbuilds => ?_) fun x hx =>
    hl.running x (List.mem_cons_of_mem _ hx)
  rw [List.countP_cons] at hbuilds
  by_cases hi : h.arena = i
  · simp [hi, Rule.place, Arena.finishBuild, Arena.changeSlot] at hbuilds ⊢
    omega
  · simpa [hi, Rule.place] using hbuilds

/-- What a name stands for is there. -/
theorem lt_of_lookup (h : Ledger running s) {name : String} {id : ArenaId}
    (hname : s.arenaNames.lookup name = some id) : id < s.arenas.length :=
  h.named _ ((Session.lookup_eq_some_iff h.nodup).1 hname)

/-- An arena has an owner if a name stands for it. -/
theorem owners_pos_iff (h : Ledger running s) {id : ArenaId} {a : Arena α}
    (ha : s.arenas[id]? = some a) :
    0 < a.owners ↔ ∃ name, s.arenaNames.lookup name = some id := by
  rw [h.owners id a ha, List.countP_pos_iff]
  constructor
  · rintro ⟨⟨name, id'⟩, hmem, hid⟩
    obtain rfl := of_decide_eq_true hid
    exact ⟨name, (Session.lookup_eq_some_iff h.nodup).2 hmem⟩
  · rintro ⟨name, hname⟩
    exact ⟨(name, id), (Session.lookup_eq_some_iff h.nodup).1 hname, decide_eq_true rfl⟩

theorem dropArena (h : Ledger running s) (name : String) : Ledger running (s.dropArena name) where
  owners i a ha := by
    rw [Session.getElem?_dropArena] at ha
    obtain ⟨b, hb, rfl⟩ := Option.map_eq_some_iff.1 ha
    have howners := h.owners i b hb
    rw [Session.countP_filter h.nodup name] at howners
    rw [Session.arenaNames_dropArena]
    split
    · next hname =>
      rw [if_pos hname] at howners
      exact Nat.sub_eq_of_eq_add howners
    · next hname =>
      rw [if_neg hname] at howners
      exact howners
  builds i a ha := by
    rw [Session.getElem?_dropArena] at ha
    obtain ⟨b, hb, rfl⟩ := Option.map_eq_some_iff.1 ha
    rw [← h.builds i b hb]
    split <;> rfl
  nodup := Session.arenaNames_dropArena s name ▸ h.nodup.sublist (List.filter_sublist.map _)
  named x hx := by
    rw [Session.arenaNames_dropArena] at hx
    rw [Session.length_dropArena]
    exact h.named x (List.mem_filter.1 hx).1
  running x hx := Session.length_dropArena s name ▸ h.running x hx

/-- The new arena has one name and no builds. -/
theorem newArena (h : Ledger running s) (name : String) : Ledger running (s.newArena name) := by
  have hdrop := h.dropArena name
  have hlength : (s.newArena name).arenas.length = s.arenas.length + 1 := by
    rw [Session.newArena, List.length_append, Session.length_dropArena]
    rfl
  have hnames := Session.arenaNames_newArena s name
  have hnamed (x : String × ArenaId) (hx : x ∈ (s.dropArena name).arenaNames) :
      x.2 < s.arenas.length := Session.length_dropArena s name ▸ hdrop.named x hx
  constructor
  case owners =>
    intro i a ha
    rw [Session.getElem?_newArena] at ha
    rw [hnames, List.countP_cons]
    split at ha
    · next hi =>
      obtain rfl := Option.some.inj ha
      have hnone : (s.dropArena name).arenaNames.countP (·.2 = i) = 0 :=
        List.countP_eq_zero.2 fun x hx hid =>
          absurd (hnamed x hx) (of_decide_eq_true hid ▸ hi ▸ Nat.lt_irrefl _)
      rw [hnone, if_pos (decide_eq_true hi.symm)]
    · next hi =>
      rw [if_neg (mt of_decide_eq_true (Ne.symm hi)), Nat.add_zero]
      exact hdrop.owners i a ha
  case builds =>
    intro i a ha
    rw [Session.getElem?_newArena] at ha
    split at ha
    · next hi =>
      obtain rfl := Option.some.inj ha
      refine (List.countP_eq_zero.2 fun x hx harena => ?_).symm
      exact absurd (h.running x hx) (of_decide_eq_true harena ▸ hi ▸ Nat.lt_irrefl _)
    · exact hdrop.builds i a ha
  case nodup =>
    rw [hnames]
    refine List.nodup_cons.2 ⟨Session.not_mem_names.2 ?_, hdrop.nodup⟩
    rw [Session.lookup_dropArena, if_pos rfl]
  case named =>
    intro x hx
    rw [hnames] at hx
    rw [hlength]
    obtain rfl | hx := List.mem_cons.1 hx
    · exact Nat.lt_succ_self _
    · exact Nat.lt_succ_of_lt (hnamed x hx)
  case running => exact fun x hx => hlength ▸ Nat.lt_succ_of_lt (h.running x hx)

theorem shareArena (h : Ledger running s) {name : String} {id : ArenaId}
    (hname : s.arenaNames.lookup name = none) (hid : id < s.arenas.length) :
    Ledger running (s.shareArena name id) := by
  have hlength : (s.shareArena name id).arenas.length = s.arenas.length :=
    Session.length_changeArena s id Arena.share
  constructor
  case owners =>
    intro i a ha
    rw [Session.getElem?_shareArena] at ha
    obtain ⟨b, hb, rfl⟩ := Option.map_eq_some_iff.1 ha
    rw [Session.shareArena, List.countP_cons, ← h.owners i b hb]
    by_cases hi : id = i
    · rw [if_pos hi, if_pos (decide_eq_true hi)]
      rfl
    · rw [if_neg hi, if_neg (mt of_decide_eq_true hi)]
      rfl
  case builds =>
    intro i a ha
    rw [Session.getElem?_shareArena] at ha
    obtain ⟨b, hb, rfl⟩ := Option.map_eq_some_iff.1 ha
    rw [← h.builds i b hb]
    split <;> rfl
  case nodup => exact List.nodup_cons.2 ⟨Session.not_mem_names.2 hname, h.nodup⟩
  case named =>
    intro x hx
    rw [hlength]
    obtain rfl | hx := List.mem_cons.1 hx
    · exact hid
    · exact h.named x hx
  case running => exact fun x hx => hlength ▸ h.running x hx

end Ledger

/-! ## Computations -/

/-- **The computation is accounted for**: it keeps the ledger, takes nothing back that has been
given up, and leads to a result with `R`. -/
def Run.Accounts (running : List Place) (m : Run α β) (R : β → Prop) : Prop :=
  ∀ s b t, Ledger running s → m s = some (b, t) → Ledger running t ∧ s.After t ∧ R b

namespace Run.Accounts

variable {m : Run α β} {R : β → Prop}

theorem pure {b : β} (h : R b) : Run.Accounts running (Pure.pure b : Run α β) R := by
  intro s b' t hs hb
  obtain ⟨rfl, rfl⟩ := Run.pure_eq_some_iff.1 hb
  exact ⟨hs, .refl s, h⟩

theorem bind {f : β → Run α γ} {P : γ → Prop} (hm : Run.Accounts running m R)
    (hf : ∀ b, R b → Run.Accounts running (f b) P) : Run.Accounts running (m >>= f) P := by
  intro s c u hs hc
  obtain ⟨b, t, hb, hc⟩ := Run.bind_eq_some_iff.1 hc
  obtain ⟨ht, hst, hR⟩ := hm s b t hs hb
  obtain ⟨hu, htu, hP⟩ := hf b hR t c u ht hc
  exact ⟨hu, hst.trans htu, hP⟩

theorem mono {Q : β → Prop} (hm : Run.Accounts running m R) (h : ∀ b, R b → Q b) :
    Run.Accounts running m Q := by
  intro s b t hs hb
  obtain ⟨ht, hst, hR⟩ := hm s b t hs hb
  exact ⟨ht, hst, h b hR⟩

theorem of_modify {f : Session α → Session α}
    (hf : ∀ s, Ledger running s → Ledger running (f s) ∧ s.After (f s)) :
    Run.Accounts running (modify f : Run α PUnit) fun _ => True := by
  intro s b t hs hb
  obtain ⟨-, rfl⟩ := Prod.mk.inj (Option.some.inj hb)
  obtain ⟨ht, hst⟩ := hf s hs
  exact ⟨ht, hst, trivial⟩

/-- Changes that leave arenas and their names as they are. -/
theorem of_congr {f : Session α → Session α} (ha : ∀ s, (f s).arenas = s.arenas)
    (hn : ∀ s, (f s).arenaNames = s.arenaNames) :
    Run.Accounts running (modify f : Run α PUnit) fun _ => True :=
  of_modify fun s hs => ⟨hs.congr (ha s) (hn s), .of_names (congrArg List.length (ha s)) (hn s)⟩

theorem log (level : LogLevel) (message : String) :
    Run.Accounts running (Run.log level message : Run α Unit) fun _ => True := by
  refine of_congr (fun s => ?_) fun s => ?_
  · split <;> rfl
  · split <;> rfl

theorem fresh : Run.Accounts running (Run.fresh : Run α NodeId) fun _ => True := by
  intro s id t hs hid
  obtain ⟨rfl, rfl⟩ := Prod.mk.inj (Option.some.inj hid)
  exact ⟨hs.congr rfl rfl, .of_names rfl rfl, trivial⟩

theorem addSlot (id : ArenaId) (slot : Slot α) :
    Run.Accounts running (modifyGet (·.addSlot id slot)) fun _ => True := by
  intro s h t hs hh
  obtain ⟨rfl, rfl⟩ := Prod.mk.inj (Option.some.inj hh)
  exact ⟨hs.addSlot id slot, .of_names (Session.length_changeArena ..) rfl, trivial⟩

theorem define (h : Rule) (p : Parser α) :
    Run.Accounts running (h.define p) fun _ => True := by
  intro s r t hs hd
  have ht := hs.define hd
  cases r with
  | error e =>
    obtain rfl := Rule.of_define_error hd
    exact ⟨ht, .refl _, trivial⟩
  | ok =>
    obtain ⟨slot, -, -, rfl⟩ := Rule.of_define hd
    exact ⟨ht, .of_names (Session.length_changeArena ..) rfl, trivial⟩

theorem isDefined (h : Rule) : Run.Accounts running (h.isDefined : Run α Bool) fun _ => True := by
  intro s b t hs hd
  obtain rfl := Rule.of_isDefined hd
  exact ⟨hs, .refl _, trivial⟩

/-- **A definition is entered, built and left**, while its place is one that is running. -/
theorem force {build : Deferred α → Run α (Parser α)} {h : Rule}
    (hbuild : ∀ running d, Run.Accounts running (build d) fun _ => True) :
    Run.Accounts running (h.force build) fun _ => True := by
  intro s r t hs hf
  obtain ⟨d, p, u, hp, hthunk, -, rfl⟩ | ⟨rfl, -⟩ := Rule.force_cases hf
  · have hrun : Run.Accounts (h.place :: running) (h.runThunk build d) fun _ => True :=
      (log _ _).bind fun _ _ => hbuild _ d
    obtain ⟨hu, hsu, -⟩ := hrun _ _ _ (hs.beginBuild (Session.arena_lt_of_slot? hp)) hthunk
    have hbegin : s.After (s.beginBuild h) := .of_names (Session.length_changeArena ..) rfl
    exact ⟨hu.finishBuild p, (hbegin.trans hsu).trans
      (.of_names (Session.length_changeArena ..) rfl), trivial⟩
  · exact ⟨hs, .refl _, trivial⟩

end Run.Accounts

/-- **All that scripts do is accounted for.** -/
def ScriptDiscipline.accounting (α : Type) : ScriptDiscipline α where
  World := List Place
  Grows _ _ := True
  Holds _ _ := True
  Does running m R := Run.Accounts running m (R running)
  refl _ := trivial
  trans _ _ := trivial
  holds_mono _ _ := trivial
  holds_part _ _ := trivial
  pure := .pure
  bind hm hf := hm.bind fun b hb => hf _ b trivial hb
  failure := nofun
  read _ hf s := hf s s
  log := .log
  Allows _ := True
  Admits _ _ := True
  holds_box _ := trivial
  consult _ hf s := hf s (fun _ _ _ _ => trivial) (fun _ _ _ _ => trivial) s
  fresh _ _ := Run.Accounts.fresh.mono fun _ _ => trivial
  skip _ := .of_congr (fun _ => rfl) fun _ => rfl
  change _ _ _ := .of_congr (fun _ => rfl) fun _ => rfl
  bindName _ := fun _ => .of_congr (fun _ => rfl) fun _ => rfl
  newArena _ := .of_modify fun s hs => ⟨hs.newArena _, .newArena s _⟩
  dropArena _ := .of_modify fun s hs => ⟨hs.dropArena _, .dropArena s _⟩
  addSlot _ _ := (Run.Accounts.addSlot _ _).mono fun _ _ => trivial
  define _ _ := .define _ _
  isDefined _ := .isDefined _
  force hbuild _ _ _ :=
    have haccounts (w) (d : Deferred α) := hbuild w d fun _ _ => trivial
    (Run.Accounts.force haccounts).mono fun _ _ _ _ => trivial

/-- **Every operation is accounted for.** -/
theorem Operation.accounts {m : Run α β} (hm : Operation α m) (running : List Place) :
    Run.Accounts running m fun _ => True :=
  hm.runs (D := .accounting α) (fun _ => trivial) (fun _ _ => trivial) (fun _ _ => trivial) running

/-! ## Courses -/

/-- **What can come next**, between the steps of a script or in the middle of one: an operation, a
definition that is entered or left, or another name for an arena that has one.  What is logged and
reported may change at any time. -/
inductive Leads : Moment α → Moment α → Prop
  | operate {running : List Place} {s t : Session α} {δ : Type} {m : Run α δ} {b : δ}
      (hm : Operation α m) (hb : m s = some (b, t)) : Leads ⟨running, s⟩ ⟨running, t⟩
  | enter {running : List Place} {s : Session α} {h : Rule} {d : Deferred α}
      (hp : (s.slot? h).map Slot.stage = some (.pending d)) :
      Leads ⟨running, s⟩ ⟨h.place :: running, s.beginBuild h⟩
  | leave {running : List Place} {s : Session α} {h : Rule} (p : Parser α) :
      Leads ⟨h.place :: running, s⟩ ⟨running, s.finishBuild h p⟩
  | share {running : List Place} {s : Session α} {name other : String} {id : ArenaId}
      (hname : s.arenaNames.lookup name = some id) (hother : s.arenaNames.lookup other = none) :
      Leads ⟨running, s⟩ ⟨running, s.shareArena other id⟩
  | report {running : List Place} {s : Session α} (builds : List (Build (Answer α)))
      (log : List LogRecord) :
      Leads ⟨running, s⟩ ⟨running, { s with builds := builds, log := log }⟩

/-- **One thing comes after another.** -/
abbrev Moment.Later : Moment α → Moment α → Prop := Relation.ReflTransGen Leads

/-- **The moments that scripts come to.** -/
def Course (c : Moment α) : Prop := ∃ logging, Moment.Later ⟨[], { logging := logging }⟩ c

theorem Course.start (logging : Bool) : Course (⟨[], { logging := logging }⟩ : Moment α) :=
  ⟨logging, .refl⟩

theorem Course.leads {c c' : Moment α} (h : Course c) (hc : Leads c c') : Course c' :=
  h.imp fun _ hlater => hlater.tail hc

/-- What comes next goes on with the stories of rules. -/
theorem Leads.tells {c c' : Moment α} {es : Events α} (h : Leads c c') (ht : Tells es c) :
    ∃ es', Tells es' c' := by
  cases h with
  | operate hm hb =>
    obtain ⟨⟨es', hpath⟩, -⟩ := hm.follows _ _ _ _ hb
    exact ⟨_, ht.path hpath⟩
  | enter hp => exact ⟨_, ht.move (.enter hp)⟩
  | leave p => exact ⟨_, ht.move (.leave p)⟩
  | share => exact ⟨_, ht.same (Session.slotOf?_shareArena _ _ _)⟩
  | report => exact ⟨_, ht.same fun _ => rfl⟩

/-- **Every rule has a story.** -/
theorem Course.tells {c : Moment α} (h : Course c) : ∃ es, Tells es c := by
  obtain ⟨logging, hlater⟩ := h
  induction hlater with
  | refl => exact ⟨[], .start logging⟩
  | tail _ h ih =>
    obtain ⟨es, hes⟩ := ih
    exact h.tells hes

theorem Leads.ledger {c c' : Moment α} (h : Leads c c') (hl : Ledger c.running c.session) :
    Ledger c'.running c'.session := by
  cases h with
  | operate hm hb => exact (hm.accounts _ _ _ _ hl hb).1
  | enter hp => exact hl.beginBuild (Session.arena_lt_of_slot? hp)
  | leave p => exact hl.finishBuild p
  | share hname hother => exact hl.shareArena hother (hl.lt_of_lookup hname)
  | report => exact hl.congr rfl rfl

theorem Moment.Later.ledger {c c' : Moment α} (h : c.Later c')
    (hl : Ledger c.running c.session) : Ledger c'.running c'.session := by
  induction h with
  | refl => exact hl
  | tail _ h ih => exact h.ledger ih

/-- **Every moment has its ledger.** -/
theorem Course.ledger {c : Moment α} (h : Course c) : Ledger c.running c.session := by
  obtain ⟨logging, hlater⟩ := h
  exact hlater.ledger (.start logging)

/-! ## Abandoned arenas -/

/-- **No name stands for the arena, and no rule of it is running.** -/
def Abandoned (c : Moment α) (id : ArenaId) : Prop :=
  (∀ name, c.session.arenaNames.lookup name ≠ some id) ∧ ∀ x ∈ c.running, x.arena ≠ id

/-- **An arena is alive until it is abandoned.** -/
theorem Ledger.isAlive_iff {c : Moment α} {id : ArenaId} {a : Arena α}
    (hl : Ledger c.running c.session) (ha : c.session.arenas[id]? = some a) :
    a.isAlive = true ↔ ¬Abandoned c id := by
  have hbuilds : 0 < a.builds ↔ ∃ x ∈ c.running, x.arena = id := by
    rw [hl.builds id a ha, List.countP_pos_iff]
    simp only [decide_eq_true_eq]
  rw [Arena.isAlive, Bool.or_eq_true, decide_eq_true_eq, decide_eq_true_eq, hl.owners_pos_iff ha,
    hbuilds]
  constructor
  · rintro (⟨name, hname⟩ | ⟨x, hx, hid⟩) ⟨hnames, hrunning⟩
    · exact hnames name hname
    · exact hrunning x hx hid
  · refine fun hkept => Classical.byContradiction fun hnone => hkept ⟨?_, ?_⟩
    · exact fun name hname => hnone (.inl ⟨name, hname⟩)
    · exact fun x hx hid => hnone (.inr ⟨x, hx, hid⟩)

/-- An arena that is gone gets nothing back. -/
theorem Abandoned.leads {c c' : Moment α} {id : ArenaId} (ha : Abandoned c id)
    (hl : Ledger c.running c.session) (hid : id < c.session.arenas.length) (h : Leads c c') :
    Abandoned c' id ∧ id < c'.session.arenas.length := by
  obtain ⟨hnames, hrunning⟩ := ha
  cases h with
  | operate hm hb =>
    obtain ⟨-, hafter, -⟩ := hm.accounts _ _ _ _ hl hb
    exact ⟨⟨fun name hname => hnames name (hafter.names name id hid hname), hrunning⟩,
      Nat.lt_of_lt_of_le hid hafter.length_le⟩
  | @enter running s h d hp =>
    refine ⟨⟨hnames, fun x hx => ?_⟩, (Session.length_changeArena s _ _).symm ▸ hid⟩
    obtain rfl | hx := List.mem_cons.1 hx
    · rintro rfl
      -- A rule that is entered is one of an arena that is alive.
      obtain ⟨slot, hslot, -⟩ := Option.map_eq_some_iff.1 hp
      obtain ⟨a, ha, halive⟩ := Session.alive_of_slot? hslot
      exact (hl.isAlive_iff ha).1 halive ⟨hnames, hrunning⟩
    · exact hrunning x hx
  | @leave running s h p =>
    exact ⟨⟨hnames, fun x hx => hrunning x (List.mem_cons_of_mem _ hx)⟩,
      (Session.length_changeArena s _ _).symm ▸ hid⟩
  | @share running s name other id' hname hother =>
    refine ⟨⟨fun name' hname' => ?_, hrunning⟩, (Session.length_changeArena s _ _).symm ▸ hid⟩
    have hlookup : ((other, id') :: s.arenaNames).lookup name' = some id := hname'
    rw [List.lookup_cons] at hlookup
    split at hlookup
    · exact hnames name (hname.trans hlookup)
    · exact hnames name' hlookup
  | report => exact ⟨⟨hnames, hrunning⟩, hid⟩

/-- **Once abandoned, always abandoned.** -/
theorem Abandoned.later {c c' : Moment α} {id : ArenaId} (ha : Abandoned c id)
    (hl : Ledger c.running c.session) (hid : id < c.session.arenas.length) (h : c.Later c') :
    Abandoned c' id ∧ id < c'.session.arenas.length := by
  induction h with
  | refl => exact ⟨ha, hid⟩
  | tail hlater h ih => exact ih.1.leads (Moment.Later.ledger hlater hl) ih.2 h

end GrammarGraph
