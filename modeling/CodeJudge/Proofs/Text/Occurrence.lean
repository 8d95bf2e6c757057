import CodeJudge.Proofs.Text.Blank
import CodeJudge.Proofs.Text.Search
/-!
Occurrences of words. A search goes on behind each match, so a match may hide another one that
begins inside it. Where words begin with a character that neither they nor what is read behind them
go on with, nothing is hidden: what is read are the runs behind all occurrences.
-/
namespace CodeJudge.Text

/-- What stands behind a word that a text begins with. The characters of the text count as what
`fold` makes of them. -/
def behind? (fold : Char → Char) (cs w : List Char) : Option (List Char) :=
  if (cs.take w.length).map fold = w then some (cs.drop w.length) else none

/-- What stands behind each occurrence of one of the words, from left to right. -/
def behindEach (fold : Char → Char) (words : List (List Char)) (cs : List Char) :
    List (List Char) :=
  cs.tails.flatMap fun rest => words.filterMap (behind? fold rest)

section

variable {fold : Char → Char} {cs w rest : List Char}

theorem behind_eq_some_iff :
    behind? fold cs w = some rest ↔ ∃ u, cs = u ++ rest ∧ u.map fold = w := by
  rw [behind?]
  constructor
  · intro h
    split_ifs at h with hw
    obtain rfl := Option.some.inj h
    exact ⟨_, (List.take_append_drop _ _).symm, hw⟩
  · rintro ⟨u, rfl, rfl⟩
    rw [List.length_map, List.take_left, List.drop_left, if_pos rfl]

/-- Of two words that a text begins with one begins the other. -/
theorem prefix_or_prefix_of_behind {v more : List Char} (hw : behind? fold cs w = some rest)
    (hv : behind? fold cs v = some more) : v <+: w ∨ w <+: v := by
  obtain ⟨u, rfl, rfl⟩ := behind_eq_some_iff.mp hw
  obtain ⟨x, hx, rfl⟩ := behind_eq_some_iff.mp hv
  have hu : u <+: x ++ more := ⟨rest, hx⟩
  rcases List.prefix_or_prefix_of_prefix hu (List.prefix_append x more) with hle | hge
  · exact .inr (hle.map fold)
  · exact .inl (hge.map fold)

/-- What stands behind a word wherever it occurs. -/
theorem mem_behind_each_iff {words : List (List Char)} :
    rest ∈ behindEach fold words cs ↔
      ∃ front u, cs = front ++ (u ++ rest) ∧ u.map fold ∈ words := by
  simp only [behindEach, List.mem_flatMap, List.mem_tails, List.mem_filterMap, behind_eq_some_iff]
  constructor
  · rintro ⟨_, ⟨front, rfl⟩, _, hw, u, rfl, rfl⟩
    exact ⟨front, u, rfl, hw⟩
  · rintro ⟨front, u, rfl, hw⟩
    exact ⟨u ++ rest, List.suffix_append front _, _, hw, u, rfl, rfl⟩

theorem behind_append (v : List Char) :
    behind? fold cs (w ++ v) = (behind? fold cs w).bind fun rest => behind? fold rest v := by
  apply Option.ext
  intro rest
  rw [Option.bind_eq_some_iff]
  simp only [behind_eq_some_iff]
  constructor
  · rintro ⟨u, rfl, hu⟩
    obtain ⟨x, y, rfl, hx, hy⟩ := List.map_eq_append_iff.mp hu
    exact ⟨y ++ rest, ⟨x, List.append_assoc _ _ _, hx⟩, y, rfl, hy⟩
  · rintro ⟨_, ⟨x, rfl, rfl⟩, y, rfl, rfl⟩
    exact ⟨x ++ y, (List.append_assoc _ _ _).symm, List.map_append⟩

end

namespace Pattern

/-- The place behind a word. -/
def past? (fold : Char → Char) (a : Place) (w : List Char) : Option Place :=
  (behind? fold a.rest w).map fun rest =>
    ⟨(a.rest.take w.length).getLast?.or a.before, rest, a.groups⟩

/-- The pattern takes one of the words, and the first that fits is preferred. -/
def Spells (p : Pattern) (fold : Char → Char) (words : List (List Char)) : Prop :=
  ∀ a, p.ends a = words.filterMap (past? fold a)

section

variable {fold : Char → Char}

theorem past_append (a : Place) (w v : List Char) :
    past? fold a (w ++ v) = (past? fold a w).bind fun b => past? fold b v := by
  rw [past?, behind_append, past?]
  cases hw : behind? fold a.rest w with
  | none => rfl
  | some rest =>
    obtain ⟨u, hu, rfl⟩ := behind_eq_some_iff.mp hw
    rw [Option.bind_some, Option.map_some, Option.bind_some, past?]
    cases hv : behind? fold rest v with
    | none => rfl
    | some more =>
      obtain ⟨x, rfl, rfl⟩ := behind_eq_some_iff.mp hv
      have htake : a.rest.take (u.map fold ++ x.map fold).length = u ++ x := by
        rw [hu, ← List.append_assoc, ← List.map_append, List.length_map, List.take_left]
      rw [Option.map_some, Option.map_some, htake, last_append_or, hu]
      simp

end

namespace Spells

variable {p q : Pattern} {fold : Char → Char} {words others : List (List Char)}

theorem nothing (fold : Char → Char) : Pattern.nothing.Spells fold [[]] := fun _ => rfl

theorem one {set : CharSet} {c : Char} (h : ∀ d, set.has d = true ↔ fold d = c) :
    (Pattern.one set).Spells fold [[c]] := by
  rintro ⟨before, rest, groups⟩
  cases rest with
  | nil => rfl
  | cons d cs =>
    by_cases hd : fold d = c
    · simp [ends, (h d).mpr hd, past?, behind?, hd]
    · have hset : set.has d = false := by
        rw [← Bool.not_eq_true, h]
        exact hd
      simp [ends, hset, past?, behind?, hd]

theorem both (hp : p.Spells fold words) (hq : q.Spells fold others) :
    (Pattern.both p q).Spells fold (words.flatMap fun w => others.map (w ++ ·)) := by
  intro a
  have hends : q.ends = fun b => others.filterMap (past? fold b) := funext hq
  rw [ends, hp, hends, List.filterMap_flatMap]
  clear hp
  -- behind each word of the first pattern all words of the second one are tried
  induction words with
  | nil => rfl
  | cons w words ih =>
    have hword : (others.map (w ++ ·)).filterMap (past? fold a) =
        (past? fold a w).toList.flatMap fun b => others.filterMap (past? fold b) := by
      rw [List.filterMap_map]
      cases hw : past? fold a w with
      | none => simp [past_append, hw]
      | some b => simp [past_append, hw]
    rw [List.flatMap_cons, ← ih, hword, List.filterMap_cons]
    cases past? fold a w <;> simp

theorem either (hp : p.Spells fold words) (hq : q.Spells fold others) :
    (Pattern.either p q).Spells fold (words ++ others) := by
  intro a
  rw [ends, hp, hq, List.filterMap_append]

/-- Characters one after the other, each of its set. -/
theorem chars {sets : List CharSet} {w : List Char}
    (h : List.Forall₂ (fun set c => ∀ d, set.has d = true ↔ fold d = c) sets w) :
    (all (sets.map Pattern.one)).Spells fold [w] := by
  induction h with
  | nil => exact nothing fold
  | cons hc _ ih => exact (one hc).both ih

theorem text (s : String) : (Pattern.text s).Spells id [s.toList] := by
  have hsets : List.Forall₂ (fun set c => ∀ d, CharSet.has set d = true ↔ id d = c)
      (s.toList.map CharSet.only) s.toList := by
    rw [List.forall₂_map_left_iff, List.forall₂_same]
    intro c _ d
    rw [CharSet.has, beq_iff_eq, id]
  have hspells := chars hsets
  rwa [List.map_map] at hspells

theorem one_of {ss : List String} (hne : ss ≠ []) :
    (oneOf (ss.map Pattern.text)).Spells id (ss.map String.toList) := by
  match ss, hne with
  | [s], _ => exact text s
  | s :: t :: ss, _ => exact (text s).either (one_of (List.cons_ne_nil t ss))

/-- Only ASCII capitals stand for a small letter, unless it is one of the two to which a character
of another script folds. -/
theorem fold_case_eq_iff {c : Char} (hc : c.isLower = true) (hs : c ≠ 's') (hk : c ≠ 'k')
    (d : Char) : foldCase d = c ↔ d.toLower = c := by
  have hother {n : Nat} (hd : (d.toNat == n) = true) (hn : (Char.ofNat n).toNat = n)
      (hlower : (Char.ofNat n).toLower.isLower = false) : d.toLower ≠ c := by
    obtain rfl : d = Char.ofNat n := Char.toNat_inj.mp ((eq_of_beq hd).trans hn.symm)
    rintro rfl
    rw [hc] at hlower
    cases hlower
  rw [foldCase]
  split_ifs with hlong hkelvin
  · exact iff_of_false hs.symm (hother hlong (by decide) (by decide))
  · exact iff_of_false hk.symm (hother hkelvin (by decide) (by decide))
  · rfl

theorem any_case {s : String}
    (h : ∀ c ∈ s.toList, if c.isLower then c ≠ 's' ∧ c ≠ 'k' else c.isAlpha = false) :
    (anyCase s).Spells Char.toLower [s.toList] := by
  have hsets : List.Forall₂ (fun set c => ∀ d, CharSet.has set d = true ↔ d.toLower = c)
      (s.toList.map fun c => if c.isLower then CharSet.letter c else CharSet.only c)
      s.toList := by
    rw [List.forall₂_map_left_iff, List.forall₂_same]
    intro c hc d
    have hletter := h c hc
    split_ifs at hletter ⊢ with hlower
    · rw [CharSet.has, beq_iff_eq, fold_case_eq_iff hlower hletter.1 hletter.2]
    · rw [CharSet.has, beq_iff_eq, to_lower_eq_iff hletter]
  have hspells := chars hsets
  rwa [List.map_map] at hspells

end Spells

/-! Runs behind words. -/

/-- The runs of characters of `set` that stand right behind one of the words, where the text begins
with it. -/
def runsHere (fold : Char → Char) (words : List (List Char)) (set : CharSet) (cs : List Char) :
    List (List Char) :=
  ((words.filterMap (behind? fold cs)).map (·.takeWhile set.has)).filter fun run => !run.isEmpty

/-- A match takes one of the words and the run of characters behind it, and remembers the run. -/
def ReadsRuns (p : Pattern) (fold : Char → Char) (words : List (List Char)) (set : CharSet) :
    Prop :=
  ∀ a, p.ends a = (words.filterMap (past? fold a)).flatMap (Pattern.group 1 (run set)).ends

/-- No two of the words begin in one place, and none begins in a word or in a run behind it. -/
structure StandApart (fold : Char → Char) (words : List (List Char)) (set : CharSet) : Prop where
  different : words.Pairwise fun v w => ¬ v <+: w ∧ ¬ w <+: v
  first : ∃ x, (∀ w ∈ words, ∃ u, w = x :: u ∧ x ∉ u) ∧ ∀ d, set.has d = true → fold d ≠ x

variable {p : Pattern} {fold : Char → Char} {words : List (List Char)} {set : CharSet}

/-- The last of several patterns goes on where the others end. -/
theorem ends_all_concat (ps : List Pattern) (q : Pattern) (a : Place) :
    (all (ps ++ [q])).ends a = (Pattern.both (all ps) q).ends a := by
  induction ps generalizing a with
  | nil =>
    change (q.ends a).flatMap (fun b => [b]) = [a].flatMap q.ends
    rw [List.flatMap_singleton', List.flatMap_singleton]
  | cons p ps ih =>
    change (p.ends a).flatMap (all (ps ++ [q])).ends =
      ((p.ends a).flatMap (all ps).ends).flatMap q.ends
    rw [List.flatMap_assoc]
    exact List.flatMap_congr fun b _ => ih b

theorem Spells.reads_runs (hp : p.Spells fold words) (set : CharSet) :
    (Pattern.both p (Pattern.group 1 (run set))).ReadsRuns fold words set := by
  intro a
  rw [ends, hp]

theorem flat_map_runs_here (cs : List Char) :
    cs.tails.flatMap (runsHere fold words set) =
      ((behindEach fold words cs).map (·.takeWhile set.has)).filter fun run => !run.isEmpty := by
  rw [behindEach, List.map_flatMap, List.filter_flatMap]
  rfl

theorem runs_here_eq_nil {x d : Char} (hwords : ∀ w ∈ words, ∃ u, w = x :: u) (hd : fold d ≠ x)
    (cs : List Char) : runsHere fold words set (d :: cs) = [] := by
  have hnone : words.filterMap (behind? fold (d :: cs)) = [] := by
    rw [List.filterMap_eq_nil_iff]
    intro w hw
    obtain ⟨u, rfl⟩ := hwords w hw
    simp [behind?, hd]
  rw [runsHere, hnone]
  rfl

/-- Where no character begins a word, all places are passed over. -/
theorem tails_runs_passed {x : Char} (hwords : ∀ w ∈ words, ∃ u, w = x :: u) {v : List Char}
    (hv : ∀ d ∈ v, fold d ≠ x) (cs : List Char) :
    (v ++ cs).tails.flatMap (runsHere fold words set) =
      cs.tails.flatMap (runsHere fold words set) := by
  induction v with
  | nil => rfl
  | cons d v ih =>
    obtain ⟨hd, hv⟩ := List.forall_mem_cons.mp hv
    rw [List.cons_append, List.tails_cons, List.flatMap_cons, runs_here_eq_nil hwords hd, ih hv,
      List.nil_append]

namespace StandApart

theorem ne_nil (h : StandApart fold words set) {u : List Char} (hu : u.map fold ∈ words) :
    u ≠ [] := by
  obtain ⟨x, hwords, -⟩ := h.first
  obtain ⟨v, hv, -⟩ := hwords _ hu
  rintro rfl
  cases hv

/-- A text begins with none of the words or with one of them alone. -/
theorem cases_behind (h : StandApart fold words set) (cs : List Char) :
    (∀ w ∈ words, behind? fold cs w = none) ∨
      ∃ front u back rest, words = front ++ u.map fold :: back ∧ cs = u ++ rest ∧
        ∀ w ∈ front ++ back, behind? fold cs w = none := by
  by_cases hnone : ∀ w ∈ words, behind? fold cs w = none
  · exact .inl hnone
  · push Not at hnone
    obtain ⟨w, hw, hfits⟩ := hnone
    obtain ⟨rest, hrest⟩ := Option.ne_none_iff_exists'.mp hfits
    obtain ⟨u, rfl, rfl⟩ := behind_eq_some_iff.mp hrest
    obtain ⟨front, back, rfl⟩ := List.append_of_mem hw
    refine .inr ⟨front, u, back, rest, rfl, rfl, ?_⟩
    have hother {v : List Char} (hv : ¬ v <+: u.map fold ∧ ¬ u.map fold <+: v) :
        behind? fold (u ++ rest) v = none := by
      rw [Option.eq_none_iff_forall_ne_some]
      intro more hmore
      exact (prefix_or_prefix_of_behind hrest hmore).elim hv.1 hv.2
    obtain ⟨-, hback, hfront⟩ := List.pairwise_append.mp h.different
    intro v hv
    rcases List.mem_append.mp hv with hv | hv
    · exact hother (hfront v hv _ List.mem_cons_self)
    · exact hother (And.comm.mp ((List.pairwise_cons.mp hback).1 v hv))

/-- A text begins with none of the words, or what is looked up for each of them is looked up for one
alone. -/
theorem cases_filter_map (h : StandApart fold words set) (cs : List Char) :
    (∀ w ∈ words, behind? fold cs w = none) ∨
      ∃ u rest, cs = u ++ rest ∧ u.map fold ∈ words ∧
        ∀ (α : Type) (f : List Char → Option α), (∀ w, behind? fold cs w = none → f w = none) →
          words.filterMap f = (f (u.map fold)).toList := by
  refine (h.cases_behind cs).imp_right ?_
  rintro ⟨front, u, back, rest, rfl, hcs, hother⟩
  refine ⟨u, rest, hcs, by simp, ?_⟩
  intro α f hf
  have hnil (ws : List (List Char)) (hws : ∀ w ∈ ws, w ∈ front ++ back) :
      ws.filterMap f = [] :=
    List.filterMap_eq_nil_iff.mpr fun w hw => hf w (hother w (hws w hw))
  rw [List.filterMap_append, hnil front fun w hw => List.mem_append_left _ hw,
    List.filterMap_cons, hnil back fun w hw => List.mem_append_right _ hw]
  cases f (u.map fold) <;> rfl

/-- Behind a word nothing begins before the run behind it ends. -/
theorem tails_runs (h : StandApart fold words set) {u r rest : List Char}
    (hu : u.map fold ∈ words) (hr : ∀ d ∈ r, set.has d = true) :
    (u ++ (r ++ rest)).tails.flatMap (runsHere fold words set) =
      runsHere fold words set (u ++ (r ++ rest)) ++
        rest.tails.flatMap (runsHere fold words set) := by
  obtain ⟨x, hwords, hset⟩ := h.first
  have hfirst : ∀ w ∈ words, ∃ u, w = x :: u := fun w hw => (hwords w hw).imp fun _ => And.left
  obtain ⟨t, ht, hx⟩ := hwords _ hu
  obtain ⟨c, v, rfl, -, rfl⟩ := List.map_eq_cons_iff.mp ht
  have hv : ∀ d ∈ v, fold d ≠ x := by
    rintro d hd rfl
    exact hx (List.mem_map_of_mem hd)
  rw [List.cons_append, List.tails_cons, List.flatMap_cons, tails_runs_passed hfirst hv,
    tails_runs_passed hfirst fun d hd => hset d (hr d hd)]

end StandApart

theorem match_group_run (n : Nat) (set : CharSet) (a : Place) :
    (Pattern.group n (run set)).match? a =
      if (a.rest.takeWhile set.has).isEmpty then none
      else some ⟨(a.rest.takeWhile set.has).getLast?.or a.before, a.rest.dropWhile set.has,
        (n, a.rest.takeWhile set.has) :: a.groups⟩ := by
  obtain ⟨before, rest, groups⟩ := a
  have hsplit : rest.takeWhile set.has ++ rest.dropWhile set.has = rest :=
    List.takeWhile_append_dropWhile
  split_ifs with hempty
  · -- the first character is not in the set
    have hrun : (run set).ends ⟨before, rest, groups⟩ = [] := by
      cases rest with
      | nil => rfl
      | cons c cs =>
        have hc : set.has c = false := by
          by_contra hc
          simp [hc] at hempty
        simp [run, ends, hc]
    rw [match?, ends, hrun]
    rfl
  · have hne : rest.takeWhile set.has ≠ [] := by simpa using hempty
    have hhead : (rest.dropWhile set.has).head?.any set.has = false := by
      have hnot := List.head?_dropWhile_not set.has rest
      cases hrest : (rest.dropWhile set.has).head? with
      | none => rfl
      | some c => simpa [hrest] using hnot
    have htakes := (Takes.run hne (fun c hc => List.mem_takeWhile_imp hc) hhead).group n
    have hmatch := htakes before groups
    rw [hsplit] at hmatch
    exact hmatch

namespace ReadsRuns

/-- In each place either there is no run to be read and no match, or the match reads the run. -/
theorem match_cases (hp : p.ReadsRuns fold words set) (h : StandApart fold words set)
    (before : Option Char) (cs : List Char) :
    runsHere fold words set cs = [] ∧ p.match? ⟨before, cs, []⟩ = none ∨
      ∃ u r b, cs = u ++ (r ++ b.rest) ∧ u.map fold ∈ words ∧ (∀ d ∈ r, set.has d = true) ∧
        runsHere fold words set cs = [r] ∧ p.match? ⟨before, cs, []⟩ = some b ∧
        b.group? 1 = some r := by
  have hpast (w : List Char) (hw : behind? fold cs w = none) :
      past? fold ⟨before, cs, []⟩ w = none := by
    rw [past?, hw, Option.map_none]
  -- the words stand apart, so no more than one of them is read in a place
  rcases h.cases_filter_map cs with hnone | ⟨u, rest, rfl, hu, hone⟩
  · have hbehind := List.filterMap_eq_nil_iff.mpr hnone
    have hplaces := List.filterMap_eq_nil_iff.mpr fun w hw => hpast w (hnone w hw)
    rw [runsHere, hbehind, match?, hp, hplaces]
    exact .inl ⟨rfl, rfl⟩
  · have hbehind : behind? fold (u ++ rest) (u.map fold) = some rest :=
      behind_eq_some_iff.mpr ⟨u, rfl, rfl⟩
    have hruns : runsHere fold words set (u ++ rest) =
        [rest.takeWhile set.has].filter fun run => !run.isEmpty := by
      rw [runsHere, hone _ _ fun _ => id, hbehind]
      rfl
    have hmatch : p.match? ⟨before, u ++ rest, []⟩ =
        (Pattern.group 1 (run set)).match? ⟨u.getLast?.or before, rest, []⟩ := by
      rw [match?, hp, hone _ _ hpast, past?, hbehind, List.length_map, List.take_left, match?,
        Option.map_some, Option.toList_some, List.flatMap_singleton]
    rw [hruns, hmatch, match_group_run]
    by_cases hempty : (rest.takeWhile set.has).isEmpty = true
    · exact .inl ⟨by simp [hempty], if_pos hempty⟩
    · refine .inr ⟨u, rest.takeWhile set.has, _, ?_, hu, fun d hd => List.mem_takeWhile_imp hd,
        by simp [hempty], if_neg hempty, rfl⟩
      rw [List.takeWhile_append_dropWhile]

/-- One search stops at the first run there is to be read, and the others are behind it. -/
theorem find_from_cases (hp : p.ReadsRuns fold words set) (h : StandApart fold words set)
    (before : Option Char) (cs : List Char) :
    cs.tails.flatMap (runsHere fold words set) = [] ∧ p.findFrom before cs = none ∨
      ∃ r passed b, p.findFrom before cs = some (passed, b) ∧ b.group? 1 = some r ∧
        b.rest.length < cs.length ∧
        cs.tails.flatMap (runsHere fold words set) =
          r :: b.rest.tails.flatMap (runsHere fold words set) := by
  induction cs generalizing before with
  | nil =>
    rcases hp.match_cases h before [] with ⟨hruns, hmatch⟩ | ⟨u, r, b, hcs, hu, -⟩
    · rw [findFrom, hmatch]
      exact .inl ⟨by simp [hruns], rfl⟩
    · exact absurd (List.append_eq_nil_iff.mp hcs.symm).1 (h.ne_nil hu)
  | cons c cs ih =>
    -- a match that starts later than here is found by the same search from the next character
    rcases hp.match_cases h before (c :: cs) with
      ⟨hruns, hmatch⟩ | ⟨u, r, b, hcs, hu, hr, hruns, hmatch, hgroup⟩
    · rw [List.tails_cons, List.flatMap_cons, hruns, List.nil_append, findFrom, hmatch]
      rcases ih (some c) with ⟨hnone, hfind⟩ | ⟨r, passed, b, hfind, hgroup, hlen, hsome⟩
      · exact .inl ⟨hnone, by rw [hfind]; rfl⟩
      · exact .inr ⟨r, c :: passed, b, by rw [hfind]; rfl, hgroup, Nat.lt_succ_of_lt hlen, hsome⟩
    · refine .inr ⟨r, [], b, find_from_of_match hmatch, hgroup, ?_, ?_⟩
      · have hpos : 0 < u.length := List.length_pos_of_ne_nil (h.ne_nil hu)
        rw [hcs, List.length_append, List.length_append]
        omega
      · rw [hcs, h.tails_runs hu hr, ← hcs, hruns]
        rfl

/-- All searches together read every run. -/
theorem find_all_from (hp : p.ReadsRuns fold words set) (h : StandApart fold words set)
    {bound : Nat} {cs : List Char} (hbound : cs.length ≤ bound) (before : Option Char) :
    (p.findAllFrom bound before cs).filterMap (fun found => found.2.group? 1) =
      cs.tails.flatMap (runsHere fold words set) := by
  -- each match takes a character, so there are enough searches for all of them
  induction bound generalizing before cs with
  | zero =>
    rcases hp.find_from_cases h before cs with ⟨hnone, -⟩ | ⟨r, passed, b, -, -, hlen, -⟩
    · rw [hnone]
      rfl
    · omega
  | succ bound ih =>
    rw [findAllFrom]
    rcases hp.find_from_cases h before cs with
      ⟨hnone, hfind⟩ | ⟨r, passed, b, hfind, hgroup, hlen, hsome⟩
    · rw [hfind, hnone]
      rfl
    · rw [hfind, hsome]
      simp only [List.filterMap_cons, hgroup]
      rw [ih (by omega)]

/-- What a search in a whole text remembers are the runs behind all occurrences of the words. -/
theorem find_all_runs (hp : p.ReadsRuns fold words set) (h : StandApart fold words set)
    (s : String) :
    (p.findAll s).filterMap (fun found => found.2.group? 1) =
      ((behindEach fold words s.toList).map (·.takeWhile set.has)).filter fun run =>
        !run.isEmpty := by
  rw [findAll, hp.find_all_from h String.length_toList.le, flat_map_runs_here]

end ReadsRuns

end Pattern

end CodeJudge.Text
