import CodeJudge.Proofs.Text.Search
/-!
What a match is. A pattern takes a part of a text, between what stands before it and what follows
it, and remembers its groups. The ends that a search tries are those of all these parts, so a
pattern occurs in a text exactly if it takes some part of it.
-/
namespace CodeJudge.Text.Pattern

/-- Parts that may be taken: the character in front of a part, the part, what follows it, and the
groups that are remembered. -/
abbrev Matching := Option Char → List Char → List Char → List (Nat × List Char) → Prop

/-- Takes nothing, where the neighbours are as they should be. -/
def Here (C : Option Char → List Char → Prop) : Matching :=
  fun before w rest held => held = [] ∧ w = [] ∧ C before rest

/-- One part behind the other. -/
def Joined (M N : Matching) : Matching :=
  fun before w rest held => ∃ u v first second, w = u ++ v ∧ held = second ++ first ∧
    M before u (v ++ rest) first ∧ N (u.getLast?.or before) v rest second

/-- Rounds one after the other, each of which takes a character. -/
inductive Repeats (M : Matching) : Matching
  | done (before : Option Char) (rest : List Char) : Repeats M before [] rest []
  | round {before : Option Char} {u v rest : List Char} {held more : List (Nat × List Char)}
      (hne : u ≠ []) (hfirst : M before u (v ++ rest) held)
      (hmore : Repeats M (u.getLast?.or before) v rest more) :
      Repeats M before (u ++ v) rest (more ++ held)

/-- The parts that a pattern takes, whatever it prefers. -/
def Matches : Pattern → Matching
  | nothing => Here fun _ _ => True
  | one set => fun _ w _ held => held = [] ∧ ∃ c, set.has c = true ∧ w = [c]
  | many set => fun _ w _ held => held = [] ∧ ∀ c ∈ w, set.has c = true
  | both p q => Joined p.Matches q.Matches
  | either p q => fun before w rest held =>
      p.Matches before w rest held ∨ q.Matches before w rest held
  | rounds p => Repeats p.Matches
  | group n p => fun before w rest held => ∃ inner, held = (n, w) :: inner ∧
      p.Matches before w rest inner
  | wordEdge => Here fun before rest => before.any isWord ≠ rest.head?.any isWord
  | lineStart => Here fun before _ => ∀ c ∈ before, c = '\n'
  | textStart => Here fun before _ => before = none
  | textEnd => Here fun _ rest => rest = []

/-- A part that may be taken lies between two places. -/
def Leads (M : Matching) (a b : Place) : Prop :=
  ∃ w held, a.rest = w ++ b.rest ∧ b.before = w.getLast?.or a.before ∧
    b.groups = held ++ a.groups ∧ M a.before w b.rest held

theorem leads_here_iff {C : Option Char → List Char → Prop} {a b : Place} :
    Leads (Here C) a b ↔ b = a ∧ C a.before a.rest := by
  constructor
  · rintro ⟨w, held, hrest, hbefore, hgroups, rfl, rfl, hC⟩
    obtain ⟨before, rest, groups⟩ := b
    obtain rfl : a.rest = rest := hrest
    obtain rfl : before = a.before := hbefore
    obtain rfl : groups = a.groups := hgroups
    exact ⟨rfl, hC⟩
  · rintro ⟨rfl, hC⟩
    exact ⟨[], [], rfl, rfl, rfl, rfl, rfl, hC⟩

theorem mem_guard_iff {c : Bool} {a b : Place} :
    b ∈ (if c = true then [a] else []) ↔ b = a ∧ c = true := by
  constructor
  · intro h
    obtain ⟨hc, rfl⟩ := mem_of_guard h
    exact ⟨rfl, hc⟩
  · rintro ⟨rfl, hc⟩
    rw [if_pos hc]
    exact List.mem_cons_self

theorem mem_many_ends_iff {set : CharSet} {groups : List (Nat × List Char)} {shorter : List Place}
    {before : Option Char} {cs : List Char} {b : Place} :
    b ∈ manyEnds set groups shorter before cs ↔
      b ∈ shorter ∨ ∃ w rest, cs = w ++ rest ∧ (∀ c ∈ w, set.has c = true) ∧
        b = ⟨w.getLast?.or before, rest, groups⟩ := by
  induction cs generalizing shorter before with
  | nil =>
    rw [manyEnds, List.mem_cons, or_comm]
    refine or_congr Iff.rfl ⟨?_, ?_⟩
    · rintro rfl
      exact ⟨[], [], rfl, List.forall_mem_nil _, rfl⟩
    · rintro ⟨w, rest, hcs, -, rfl⟩
      obtain ⟨rfl, rfl⟩ := List.append_eq_nil_iff.mp hcs.symm
      rfl
  | cons c cs ih =>
    -- the run ends here, or it takes this character and goes on
    have hrun : (∃ w rest, c :: cs = w ++ rest ∧ (∀ d ∈ w, set.has d = true) ∧
          b = ⟨w.getLast?.or before, rest, groups⟩) ↔
        b = ⟨before, c :: cs, groups⟩ ∨ (set.has c = true ∧ ∃ w rest, cs = w ++ rest ∧
          (∀ d ∈ w, set.has d = true) ∧ b = ⟨w.getLast?.or (some c), rest, groups⟩) := by
      constructor
      · rintro ⟨w, rest, hcs, hw, rfl⟩
        cases w with
        | nil =>
          obtain rfl : c :: cs = rest := hcs
          exact .inl rfl
        | cons d w =>
          obtain ⟨rfl, rfl⟩ := List.cons.inj hcs
          obtain ⟨hd, hw⟩ := List.forall_mem_cons.mp hw
          exact .inr ⟨hd, w, rest, rfl, hw, by rw [last_cons_or]⟩
      · rintro (rfl | ⟨hc, w, rest, rfl, hw, rfl⟩)
        · exact ⟨[], c :: cs, rfl, List.forall_mem_nil _, rfl⟩
        · exact ⟨c :: w, rest, rfl, List.forall_mem_cons.mpr ⟨hc, hw⟩, by rw [last_cons_or]⟩
    rw [manyEnds, hrun]
    split_ifs with hc
    · rw [ih, List.mem_cons, or_comm (a := b = _), or_assoc]
      exact or_congr Iff.rfl (or_congr Iff.rfl (and_iff_right hc).symm)
    · rw [List.mem_cons, or_comm]
      exact or_congr Iff.rfl (or_iff_left fun h => hc h.1).symm

theorem leads_joined_iff {M N : Matching} {a b : Place} :
    Leads (Joined M N) a b ↔ ∃ m, Leads M a m ∧ Leads N m b := by
  constructor
  · rintro ⟨_, _, hrest, hbefore, hgroups, u, v, first, second, rfl, rfl, hM, hN⟩
    rw [List.append_assoc] at hrest hgroups
    rw [last_append_or] at hbefore
    exact ⟨⟨u.getLast?.or a.before, v ++ b.rest, first ++ a.groups⟩,
      ⟨u, first, hrest, rfl, rfl, hM⟩, ⟨v, second, rfl, hbefore, hgroups, hN⟩⟩
  · rintro ⟨m, ⟨u, first, hrest, hbefore, hgroups, hM⟩, v, second, hrest', hbefore', hgroups', hN⟩
    refine ⟨u ++ v, second ++ first, ?_, ?_, ?_, u, v, first, second, rfl, rfl, ?_, ?_⟩
    · rw [hrest, hrest', List.append_assoc]
    · rw [hbefore', hbefore, last_append_or]
    · rw [hgroups', hgroups, List.append_assoc]
    · rwa [hrest'] at hM
    · rwa [hbefore] at hN

theorem leads_or_iff {M N : Matching} {a b : Place} :
    Leads (fun before w rest held => M before w rest held ∨ N before w rest held) a b ↔
      Leads M a b ∨ Leads N a b := by
  simp only [Leads, and_or_left, exists_or]

theorem repeats_iff {M : Matching} {before : Option Char} {w rest : List Char}
    {held : List (Nat × List Char)} : Repeats M before w rest held ↔
      Here (fun _ _ => True) before w rest held ∨
        Joined (fun before u rest held => u ≠ [] ∧ M before u rest held) (Repeats M)
          before w rest held := by
  constructor
  · intro h
    cases h with
    | done => exact .inl ⟨rfl, rfl, trivial⟩
    | round hne hfirst hmore => exact .inr ⟨_, _, _, _, rfl, rfl, ⟨hne, hfirst⟩, hmore⟩
  · rintro (⟨rfl, rfl, -⟩ | ⟨u, v, first, second, rfl, rfl, ⟨hne, hfirst⟩, hmore⟩)
    · exact .done before rest
    · exact .round hne hfirst hmore

theorem leads_repeats_iff {M : Matching} {a b : Place} : Leads (Repeats M) a b ↔
    b = a ∨ ∃ m, (Leads M a m ∧ m.rest.length < a.rest.length) ∧ Leads (Repeats M) m b := by
  have hround (m : Place) : Leads (fun before u rest held => u ≠ [] ∧ M before u rest held) a m ↔
      Leads M a m ∧ m.rest.length < a.rest.length := by
    constructor
    · rintro ⟨u, held, hrest, hbefore, hgroups, hne, hM⟩
      have hpos := List.length_pos_iff.mpr hne
      refine ⟨⟨u, held, hrest, hbefore, hgroups, hM⟩, ?_⟩
      rw [hrest, List.length_append]
      omega
    · rintro ⟨⟨u, held, hrest, hbefore, hgroups, hM⟩, hlt⟩
      refine ⟨u, held, hrest, hbefore, hgroups, ?_, hM⟩
      rintro rfl
      rw [hrest, List.nil_append] at hlt
      exact Nat.lt_irrefl _ hlt
  have hrepeats : Repeats M = fun before w rest held => Here (fun _ _ => True) before w rest held ∨
      Joined (fun before u rest held => u ≠ [] ∧ M before u rest held) (Repeats M)
        before w rest held := by
    funext before w rest held
    exact propext repeats_iff
  conv_lhs => rw [hrepeats]
  rw [leads_or_iff, leads_here_iff, leads_joined_iff, and_true]
  simp only [hround]

theorem mem_rounds_ends_iff {step : Place → List Place} {M : Matching}
    (hstep : ∀ a b, b ∈ step a ↔ Leads M a b) {bound : Nat} {a b : Place}
    (hbound : a.rest.length ≤ bound) : b ∈ roundsEnds step bound a ↔ Leads (Repeats M) a b := by
  induction bound generalizing a with
  | zero =>
    rw [roundsEnds, List.mem_singleton, leads_repeats_iff, or_iff_left]
    rintro ⟨m, ⟨-, hlt⟩, -⟩
    omega
  | succ bound ih =>
    rw [roundsEnds, List.mem_append, List.mem_singleton, List.mem_flatMap, leads_repeats_iff,
      or_comm]
    refine or_congr Iff.rfl (exists_congr fun m => ?_)
    rw [List.mem_filter, decide_eq_true_eq, hstep]
    refine and_congr_right fun hm => ih ?_
    have hlt := hm.2
    omega

theorem mem_one_ends_iff {set : CharSet} {a b : Place} :
    b ∈ (one set).ends a ↔ Leads (one set).Matches a b := by
  obtain ⟨before, rest, groups⟩ := a
  cases rest with
  | nil =>
    constructor
    · intro h
      cases h
    · rintro ⟨w, held, hrest, -, -, -, c, -, rfl⟩
      cases hrest
  | cons c cs =>
    rw [ends, mem_guard_iff]
    constructor
    · rintro ⟨rfl, hc⟩
      exact ⟨[c], [], rfl, rfl, rfl, rfl, c, hc, rfl⟩
    · rintro ⟨w, held, hrest, hbefore, hgroups, rfl, d, hd, rfl⟩
      obtain ⟨rfl, rfl⟩ := List.cons.inj hrest
      obtain ⟨_, _, _⟩ := b
      cases hbefore
      cases hgroups
      exact ⟨rfl, hd⟩

/-- A group leads where its pattern does, and remembers the part that was taken. -/
theorem mem_group_ends_iff {n : Nat} {p : Pattern} {a b : Place}
    (hp : ∀ m, m ∈ p.ends a ↔ Leads p.Matches a m) :
    b ∈ (group n p).ends a ↔ Leads (group n p).Matches a b := by
  rw [ends, List.mem_map]
  constructor
  · rintro ⟨m, hm, rfl⟩
    obtain ⟨w, held, hrest, hbefore, hgroups, hM⟩ := (hp m).mp hm
    refine ⟨w, (n, w) :: held, hrest, hbefore, ?_, held, rfl, hM⟩
    rw [up_to_eq hrest, hgroups]
    rfl
  · rintro ⟨w, _, hrest, hbefore, hgroups, held, rfl, hM⟩
    refine ⟨⟨b.before, b.rest, held ++ a.groups⟩,
      (hp _).mpr ⟨w, held, hrest, hbefore, rfl, hM⟩, ?_⟩
    have hpart : a.upTo ⟨b.before, b.rest, held ++ a.groups⟩ = w := up_to_eq hrest
    rw [hpart, ← List.cons_append, ← hgroups]

/-- The ends of a pattern are those of the parts that it takes. -/
theorem mem_ends_iff {p : Pattern} {a b : Place} : b ∈ p.ends a ↔ Leads p.Matches a b := by
  induction p generalizing a b with
  | nothing => rw [ends, List.mem_singleton, Matches, leads_here_iff, and_true]
  | one set => exact mem_one_ends_iff
  | many set =>
    rw [ends, mem_many_ends_iff, or_iff_right List.not_mem_nil]
    constructor
    · rintro ⟨w, rest, hrest, hw, rfl⟩
      exact ⟨w, [], hrest, rfl, rfl, rfl, hw⟩
    · rintro ⟨w, held, hrest, hbefore, hgroups, rfl, hw⟩
      obtain ⟨before, rest, groups⟩ := b
      cases hbefore
      cases hgroups
      exact ⟨w, rest, hrest, hw, rfl⟩
  | both p q ihp ihq =>
    rw [ends, List.mem_flatMap, Matches, leads_joined_iff]
    simp only [ihp, ihq]
  | either p q ihp ihq => rw [ends, List.mem_append, ihp, ihq, Matches, leads_or_iff]
  | rounds p ih => exact mem_rounds_ends_iff (fun _ _ => ih) (le_refl _)
  | group n p ih => exact mem_group_ends_iff fun _ => ih
  | wordEdge =>
    rw [ends, mem_guard_iff, Matches, leads_here_iff, Place.atWordEdge, bne_iff_ne]
  | lineStart =>
    rw [ends, mem_guard_iff, Matches, leads_here_iff]
    cases a.before <;> simp
  | textStart => rw [ends, mem_guard_iff, Matches, leads_here_iff, Option.isNone_iff_eq_none]
  | textEnd => rw [ends, mem_guard_iff, Matches, leads_here_iff, List.isEmpty_iff]

/-! Searches. -/

theorem match_eq_none_iff {p : Pattern} {before : Option Char} {cs : List Char} :
    p.match? ⟨before, cs, []⟩ = none ↔
      ∀ w rest held, cs = w ++ rest → ¬ p.Matches before w rest held := by
  rw [match?, List.head?_eq_none_iff, List.eq_nil_iff_forall_not_mem]
  constructor
  · rintro h w rest held rfl hM
    exact h ⟨w.getLast?.or before, rest, held ++ []⟩
      (mem_ends_iff.mpr ⟨w, held, rfl, rfl, rfl, hM⟩)
  · intro h b hb
    obtain ⟨w, held, hrest, -, -, hM⟩ := mem_ends_iff.mp hb
    exact h w b.rest held hrest hM

theorem find_from_eq_none_iff {p : Pattern} {before : Option Char} {cs : List Char} :
    p.findFrom before cs = none ↔ ∀ front w rest held, cs = front ++ (w ++ rest) →
      ¬ p.Matches (front.getLast?.or before) w rest held := by
  induction cs generalizing before with
  | nil =>
    rw [findFrom, Option.map_eq_none_iff, match_eq_none_iff]
    constructor
    · intro h front w rest held hcs
      cases front with
      | nil => exact h w rest held hcs
      | cons => cases hcs
    · intro h w rest held hcs
      exact h [] w rest held hcs
  | cons c cs ih =>
    -- a part starts here or behind this character
    have hstart : p.findFrom before (c :: cs) = none ↔
        p.match? ⟨before, c :: cs, []⟩ = none ∧ p.findFrom (some c) cs = none := by
      rw [findFrom]
      cases p.match? ⟨before, c :: cs, []⟩ <;> simp
    rw [hstart, match_eq_none_iff, ih]
    constructor
    · rintro ⟨hhere, hbehind⟩ front w rest held hcs
      cases front with
      | nil => exact hhere w rest held hcs
      | cons d front =>
        obtain ⟨rfl, htail⟩ := List.cons.inj hcs
        rw [last_cons_or]
        exact hbehind front w rest held htail
    · intro h
      refine ⟨fun w rest held hcs => h [] w rest held hcs, fun front w rest held hcs => ?_⟩
      rw [← last_cons_or c front before]
      exact h (c :: front) w rest held (congrArg (c :: ·) hcs)

/-- A pattern occurs in a text if it takes some part of it. -/
theorem occurs_iff {p : Pattern} {s : String} : p.occurs s = true ↔
    ∃ front w rest held, s.toList = front ++ (w ++ rest) ∧
      p.Matches front.getLast? w rest held := by
  rw [occurs, ← Bool.not_eq_false, Option.isSome_eq_false_iff, Option.isNone_iff_eq_none,
    find_from_eq_none_iff]
  simp

/-- The part that a search finds, behind what it passed over. -/
theorem matches_of_find {p : Pattern} {before : Option Char} {cs passed : List Char} {b : Place}
    (h : p.findFrom before cs = some (passed, b)) :
    ∃ w, cs = passed ++ (w ++ b.rest) ∧ b.before = w.getLast?.or (passed.getLast?.or before) ∧
      p.Matches (passed.getLast?.or before) w b.rest b.groups := by
  obtain ⟨rest, rfl, hends⟩ := find_from_eq_some h
  obtain ⟨w, held, hrest, hbefore, hgroups, hM⟩ := mem_ends_iff.mp hends
  rw [List.append_nil] at hgroups
  refine ⟨w, congrArg (passed ++ ·) hrest, hbefore, ?_⟩
  rwa [hgroups]

/-! Patterns that are put together. -/

section

variable {before : Option Char} {w rest : List Char} {held : List (Nat × List Char)}

theorem matches_all_nil : (all []).Matches before w rest held ↔ held = [] ∧ w = [] := by
  change held = [] ∧ w = [] ∧ True ↔ held = [] ∧ w = []
  rw [and_true]

theorem matches_one_iff {set : CharSet} :
    (one set).Matches before w rest held ↔ held = [] ∧ ∃ c, set.has c = true ∧ w = [c] := Iff.rfl

theorem matches_many_iff {set : CharSet} :
    (many set).Matches before w rest held ↔ held = [] ∧ ∀ c ∈ w, set.has c = true := Iff.rfl

/-- A part where nothing is remembered, in front of another one. -/
theorem joined_iff {M N : Matching} {P : Option Char → List Char → List Char → Prop}
    (h : ∀ before u rest held, M before u rest held ↔ held = [] ∧ P before u rest) :
    Joined M N before w rest held ↔ ∃ u v, w = u ++ v ∧ P before u (v ++ rest) ∧
      N (u.getLast?.or before) v rest held := by
  constructor
  · rintro ⟨u, v, first, second, rfl, rfl, hM, hN⟩
    obtain ⟨rfl, hP⟩ := (h _ _ _ _).mp hM
    rw [List.append_nil]
    exact ⟨u, v, rfl, hP, hN⟩
  · rintro ⟨u, v, rfl, hP, hN⟩
    exact ⟨u, v, [], held, rfl, (List.append_nil held).symm, (h _ _ _ _).mpr ⟨rfl, hP⟩, hN⟩

theorem matches_both_iff {p q : Pattern} {P : Option Char → List Char → List Char → Prop}
    (h : ∀ before u rest held, p.Matches before u rest held ↔ held = [] ∧ P before u rest) :
    (both p q).Matches before w rest held ↔ ∃ u v, w = u ++ v ∧ P before u (v ++ rest) ∧
      q.Matches (u.getLast?.or before) v rest held := joined_iff h

theorem matches_all_cons_iff {p : Pattern} {ps : List Pattern}
    {P : Option Char → List Char → List Char → Prop}
    (h : ∀ before u rest held, p.Matches before u rest held ↔ held = [] ∧ P before u rest) :
    (all (p :: ps)).Matches before w rest held ↔ ∃ u v, w = u ++ v ∧ P before u (v ++ rest) ∧
      (all ps).Matches (u.getLast?.or before) v rest held := joined_iff h

theorem matches_all_singleton_iff {p : Pattern} {P : Option Char → List Char → List Char → Prop}
    (h : ∀ before u rest held, p.Matches before u rest held ↔ held = [] ∧ P before u rest) :
    (all [p]).Matches before w rest held ↔ held = [] ∧ P before w rest := by
  rw [matches_all_cons_iff h]
  constructor
  · rintro ⟨u, v, rfl, hP, hnil⟩
    obtain ⟨rfl, rfl⟩ := matches_all_nil.mp hnil
    rw [List.append_nil]
    exact ⟨rfl, hP⟩
  · rintro ⟨rfl, hP⟩
    exact ⟨w, [], (List.append_nil w).symm, hP, matches_all_nil.mpr ⟨rfl, rfl⟩⟩

/-- A pattern that is remembered, in front of others. -/
theorem matches_group_cons_iff {n : Nat} {p : Pattern} {ps : List Pattern}
    {P : Option Char → List Char → List Char → Prop}
    (h : ∀ before u rest held, p.Matches before u rest held ↔ held = [] ∧ P before u rest) :
    (all (group n p :: ps)).Matches before w rest held ↔ ∃ u v more, w = u ++ v ∧
      held = more ++ [(n, u)] ∧ P before u (v ++ rest) ∧
        (all ps).Matches (u.getLast?.or before) v rest more := by
  constructor
  · rintro ⟨u, v, first, more, rfl, rfl, ⟨inner, rfl, hp⟩, hps⟩
    obtain ⟨rfl, hP⟩ := (h _ _ _ _).mp hp
    exact ⟨u, v, more, rfl, rfl, hP, hps⟩
  · rintro ⟨u, v, more, rfl, rfl, hP, hps⟩
    exact ⟨u, v, [(n, u)], more, rfl, rfl, ⟨[], rfl, (h _ _ _ _).mpr ⟨rfl, hP⟩⟩, hps⟩

theorem joined_assoc {L M N : Matching} :
    Joined (Joined L M) N before w rest held ↔ Joined L (Joined M N) before w rest held := by
  constructor
  · rintro ⟨_, v, _, third, rfl, rfl, ⟨u, x, first, second, rfl, rfl, hL, hM⟩, hN⟩
    rw [last_append_or] at hN
    rw [← List.append_assoc] at hL
    exact ⟨u, x ++ v, first, third ++ second, List.append_assoc u x v,
      (List.append_assoc third second first).symm, hL, x, v, second, third, rfl, rfl, hM, hN⟩
  · rintro ⟨u, _, first, _, rfl, rfl, hL, x, v, second, third, rfl, rfl, hM, hN⟩
    rw [← last_append_or] at hN
    rw [List.append_assoc] at hL
    exact ⟨u ++ x, v, second ++ first, third, (List.append_assoc u x v).symm,
      List.append_assoc third second first, ⟨u, x, first, second, rfl, rfl, hL, hM⟩, hN⟩

theorem joined_of_all_append {ps qs : List Pattern} :
    (all (ps ++ qs)).Matches before w rest held ↔
      Joined (all ps).Matches (all qs).Matches before w rest held := by
  induction ps generalizing before w held with
  | nil =>
    rw [joined_iff (M := (all []).Matches) fun _ _ _ _ => matches_all_nil]
    constructor
    · intro h
      exact ⟨[], w, rfl, rfl, h⟩
    · rintro ⟨_, v, rfl, rfl, h⟩
      exact h
  | cons p ps ih =>
    have hcons : (all (p :: ps ++ qs)).Matches before w rest held ↔
        Joined p.Matches (Joined (all ps).Matches (all qs).Matches) before w rest held := by
      refine exists_congr fun u => exists_congr fun v => exists_congr fun first =>
        exists_congr fun second => ?_
      rw [← ih]
      rfl
    rw [hcons, ← joined_assoc]
    rfl

theorem matches_all_append_iff {ps qs : List Pattern}
    {P : Option Char → List Char → List Char → Prop}
    (h : ∀ before u rest held, (all ps).Matches before u rest held ↔ held = [] ∧ P before u rest) :
    (all (ps ++ qs)).Matches before w rest held ↔ ∃ u v, w = u ++ v ∧ P before u (v ++ rest) ∧
      (all qs).Matches (u.getLast?.or before) v rest held :=
  joined_of_all_append.trans (joined_iff h)

theorem matches_text_iff {s : String} :
    (text s).Matches before w rest held ↔ held = [] ∧ w = s.toList := by
  rw [text]
  generalize s.toList = cs
  induction cs generalizing before w with
  | nil => exact matches_all_nil
  | cons c cs ih =>
    rw [List.map_cons, matches_all_cons_iff fun _ _ _ _ => matches_one_iff]
    constructor
    · rintro ⟨_, v, rfl, ⟨d, hd, rfl⟩, hv⟩
      obtain ⟨rfl, rfl⟩ := ih.mp hv
      rw [eq_of_beq hd]
      exact ⟨rfl, rfl⟩
    · rintro ⟨rfl, rfl⟩
      exact ⟨[c], cs, rfl, ⟨c, BEq.rfl, rfl⟩, ih.mpr ⟨rfl, rfl⟩⟩

theorem matches_run_iff {set : CharSet} :
    (run set).Matches before w rest held ↔ held = [] ∧ w ≠ [] ∧ ∀ c ∈ w, set.has c = true := by
  rw [run, matches_both_iff fun _ _ _ _ => matches_one_iff]
  constructor
  · rintro ⟨_, v, rfl, ⟨c, hc, rfl⟩, rfl, hv⟩
    exact ⟨rfl, List.cons_ne_nil c v, List.forall_mem_cons.mpr ⟨hc, hv⟩⟩
  · rintro ⟨rfl, hne, hw⟩
    obtain ⟨c, v, rfl⟩ := List.exists_cons_of_ne_nil hne
    obtain ⟨hc, hv⟩ := List.forall_mem_cons.mp hw
    exact ⟨[c], v, rfl, ⟨c, hc, rfl⟩, rfl, hv⟩

theorem matches_either_iff {p q : Pattern} {P Q : Option Char → List Char → List Char → Prop}
    (hp : ∀ before u rest held, p.Matches before u rest held ↔ held = [] ∧ P before u rest)
    (hq : ∀ before u rest held, q.Matches before u rest held ↔ held = [] ∧ Q before u rest) :
    (either p q).Matches before w rest held ↔
      held = [] ∧ (P before w rest ∨ Q before w rest) :=
  (or_congr (hp _ _ _ _) (hq _ _ _ _)).trans and_or_left.symm

theorem matches_optional_iff {p : Pattern} {P : Option Char → List Char → List Char → Prop}
    (hp : ∀ before u rest held, p.Matches before u rest held ↔ held = [] ∧ P before u rest) :
    (optional p).Matches before w rest held ↔ held = [] ∧ (P before w rest ∨ w = []) :=
  matches_either_iff hp fun _ _ _ _ => matches_all_nil

end

end CodeJudge.Text.Pattern
