import CodeJudge.Proofs.Text.Pattern
/-!
Searches in a text that is known in part. Whether a match may start with some characters does not
depend on what follows them, so a front where no match starts is passed over whatever follows it.
Where the characters are those that a pattern prefers to take, the search ends behind them.
-/
namespace CodeJudge.Text

namespace Pattern

/-! What a match may start with. -/

/-- Whether a run of characters of `set` may start with the characters and leave of them what `k`
allows. -/
def runMayStart (set : CharSet) (k : List Char → Bool) : List Char → Bool
  | [] => true
  | c :: cs => k (c :: cs) || (set.has c && runMayStart set k cs)

/-- Whether a match may start with the characters and leave of them what `k` allows. A match may
go beyond them, and nothing is known of rounds. -/
def mayStart : Pattern → (List Char → Bool) → List Char → Bool
  | one _, _, [] => true
  | one set, k, c :: cs => set.has c && k cs
  | many set, k, v => runMayStart set k v
  | both p q, k, v => p.mayStart (q.mayStart k) v
  | either p q, k, v => p.mayStart k v || q.mayStart k v
  | rounds _, _, _ => true
  | group _ p, k, v => p.mayStart k v
  | _, k, v => k v

theorem run_may_start {set : CharSet} {k : List Char → Bool} {v cs w rest : List Char}
    (h : v ++ cs = w ++ rest) (hw : ∀ c ∈ w, set.has c = true)
    (hk : ∀ u, rest = u ++ cs → k u = true) : runMayStart set k v = true := by
  induction v generalizing w with
  | nil => rfl
  | cons c v ih =>
    rw [runMayStart, Bool.or_eq_true]
    cases w with
    | nil => exact Or.inl (hk (c :: v) h.symm)
    | cons d w =>
      obtain ⟨rfl, hrest⟩ := List.cons.inj h
      obtain ⟨hc, hw⟩ := List.forall_mem_cons.mp hw
      exact Or.inr (Bool.and_eq_true_iff.mpr ⟨hc, ih hrest hw⟩)

/-- A match that starts with the characters may start with them. -/
theorem may_start_of_mem_ends {p : Pattern} {k : List Char → Bool} {a b : Place} {v cs : List Char}
    (h : b ∈ p.ends a) (hv : a.rest = v ++ cs) (hk : ∀ u, b.rest = u ++ cs → k u = true) :
    p.mayStart k v = true := by
  induction p generalizing k a b v with
  | nothing =>
    rw [List.mem_singleton.mp h] at hk
    exact hk v hv
  | one set =>
    cases v with
    | nil => rfl
    | cons c v =>
      rw [ends, hv] at h
      obtain ⟨hc, rfl⟩ := mem_of_guard h
      exact Bool.and_eq_true_iff.mpr ⟨hc, hk v rfl⟩
  | many set =>
    obtain ⟨⟨w, hw, hset⟩, -⟩ := (many_ends_behind h).resolve_left List.not_mem_nil
    exact run_may_start (hv.symm.trans hw) hset hk
  | both p q ihp ihq =>
    -- what the second pattern may start with is what may follow the first
    obtain ⟨m, hm, hb⟩ := List.mem_flatMap.mp h
    exact ihp hm hv fun u hu => ihq hb hu hk
  | either p q ihp ihq =>
    rw [mayStart, Bool.or_eq_true]
    rcases List.mem_append.mp h with h | h
    · exact Or.inl (ihp h hv hk)
    · exact Or.inr (ihq h hv hk)
  | rounds p ih =>
    -- rounds may be none or many, so nothing is ruled out
    rfl
  | group n p ih =>
    obtain ⟨m, hm, rfl⟩ := List.mem_map.mp h
    exact ih hm hv hk
  | wordEdge =>
    rw [(mem_of_guard h).2] at hk
    exact hk v hv
  | lineStart =>
    rw [(mem_of_guard h).2] at hk
    exact hk v hv
  | textStart =>
    rw [(mem_of_guard h).2] at hk
    exact hk v hv
  | textEnd =>
    rw [(mem_of_guard h).2] at hk
    exact hk v hv

/-- Whether a match may start with the characters. -/
def mayStartWith (p : Pattern) (v : List Char) : Bool := p.mayStart (fun _ => true) v

theorem match_eq_none {p : Pattern} {v : List Char} (h : p.mayStartWith v = false)
    (before : Option Char) (cs : List Char) (groups : List (Nat × List Char)) :
    p.match? ⟨before, v ++ cs, groups⟩ = none := by
  cases hmatch : p.match? ⟨before, v ++ cs, groups⟩ with
  | none => rfl
  | some b =>
    have hstart : p.mayStartWith v = true :=
      may_start_of_mem_ends (mem_ends_of_match hmatch) rfl fun _ _ => rfl
    rw [h] at hstart
    cases hstart

/-! What a search passes over. -/

/-- The last of the characters passed over is the one before a place. -/
theorem last_cons_or (c : Char) (w : List Char) (before : Option Char) :
    (c :: w).getLast?.or before = w.getLast?.or (some c) := by
  rw [List.getLast?_cons]
  cases w.getLast? <;> rfl

theorem last_append_or (w u : List Char) (before : Option Char) :
    (w ++ u).getLast?.or before = u.getLast?.or (w.getLast?.or before) := by
  rw [List.getLast?_append, Option.or_assoc]

/-- A search passes over the characters, whatever comes before and behind them. -/
def SkipsOver (p : Pattern) (w : List Char) : Prop :=
  ∀ before cs, p.findFrom before (w ++ cs) =
    (p.findFrom (w.getLast?.or before) cs).map fun (passed, b) => (w ++ passed, b)

namespace SkipsOver

variable {p : Pattern} {w u : List Char}

theorem nil (p : Pattern) : p.SkipsOver [] := by
  intro before cs
  simp

theorem cons {c : Char} (h : ∀ before cs, p.match? ⟨before, c :: (w ++ cs), []⟩ = none)
    (hw : p.SkipsOver w) : p.SkipsOver (c :: w) := by
  intro before cs
  rw [List.cons_append, findFrom, h, hw, last_cons_or, Option.map_map]
  rfl

theorem append (hw : p.SkipsOver w) (hu : p.SkipsOver u) : p.SkipsOver (w ++ u) := by
  intro before cs
  rw [List.append_assoc, hw, hu, last_append_or, Option.map_map]
  refine congrArg (Option.map · _) (funext fun found => ?_)
  simp

/-- Characters that no match starts with are passed over. -/
theorem of_chars (h : ∀ c ∈ w, p.mayStartWith [c] = false) : p.SkipsOver w := by
  induction w with
  | nil => exact nil p
  | cons c w ih =>
    obtain ⟨hc, hw⟩ := List.forall_mem_cons.mp h
    exact cons (fun before cs => match_eq_none hc before (w ++ cs) []) (ih hw)

/-- A text is passed over if no match starts with it or with an end of it. -/
theorem of_ends (h : ∀ v ∈ w.tails, v ≠ [] → p.mayStartWith v = false) : p.SkipsOver w := by
  induction w with
  | nil => exact nil p
  | cons c w ih =>
    rw [List.tails_cons, List.forall_mem_cons] at h
    obtain ⟨hc, hw⟩ := h
    exact cons (fun before cs => match_eq_none (hc (by simp)) before cs []) (ih hw)

end SkipsOver

/-! What a match prefers to take. -/

/-- In front of `cs` the preferred match takes `w` and remembers `held`. -/
def Takes (p : Pattern) (w : List Char) (held : List (Nat × List Char)) (cs : List Char) : Prop :=
  ∀ before groups, p.match? ⟨before, w ++ cs, groups⟩ =
    some ⟨w.getLast?.or before, cs, held ++ groups⟩

namespace Takes

variable {p q : Pattern} {w u cs : List Char} {held more : List (Nat × List Char)}

theorem nothing (cs : List Char) : Pattern.nothing.Takes [] [] cs := fun _ _ => rfl

theorem both (hp : p.Takes w held (u ++ cs)) (hq : q.Takes u more cs) :
    (Pattern.both p q).Takes (w ++ u) (more ++ held) cs := by
  intro before groups
  obtain ⟨ms, hm⟩ := List.head?_eq_some_iff.mp (hp before groups)
  obtain ⟨bs, hb⟩ := List.head?_eq_some_iff.mp (hq (w.getLast?.or before) (held ++ groups))
  rw [match?, ends, List.append_assoc, hm, List.flatMap_cons, hb, last_append_or, List.append_assoc]
  rfl

theorem either_left (hp : p.Takes w held cs) : (Pattern.either p q).Takes w held cs := by
  intro before groups
  have hmatch : (p.ends ⟨before, w ++ cs, groups⟩).head? = _ := hp before groups
  rw [match?, ends, List.head?_append, hmatch]
  rfl

theorem either_right (hp : ∀ before groups, p.match? ⟨before, w ++ cs, groups⟩ = none)
    (hq : q.Takes w held cs) : (Pattern.either p q).Takes w held cs := by
  intro before groups
  have hnone : (p.ends ⟨before, w ++ cs, groups⟩).head? = none := hp before groups
  rw [match?, ends, List.head?_append, hnone]
  exact hq before groups

theorem group (n : Nat) (hp : p.Takes w held cs) :
    (Pattern.group n p).Takes w ((n, w) :: held) cs := by
  intro before groups
  have hmatch : (p.ends ⟨before, w ++ cs, groups⟩).head? = _ := hp before groups
  rw [match?, ends, List.head?_map, hmatch, Option.map_some, up_to_eq rfl]
  rfl

/-- One pattern after the other. -/
theorem all_cons {ps : List Pattern} (hp : p.Takes w held (u ++ cs))
    (hps : (all ps).Takes u more cs) : (all (p :: ps)).Takes (w ++ u) (more ++ held) cs :=
  hp.both hps

theorem all_nil (cs : List Char) : (all []).Takes [] [] cs := nothing cs

theorem all_singleton (hp : p.Takes w held cs) : (all [p]).Takes w held cs := by
  have hall := hp.all_cons (all_nil cs)
  rwa [List.append_nil, List.nil_append] at hall

theorem one {set : CharSet} {c : Char} (hc : set.has c = true) (cs : List Char) :
    (Pattern.one set).Takes [c] [] cs := by
  intro before groups
  simp [match?, ends, hc]

/-- Characters one after the other, each of its set. -/
theorem chars {sets : List CharSet} (h : List.Forall₂ (fun set c => set.has c = true) sets w)
    (cs : List Char) : (all (sets.map Pattern.one)).Takes w [] cs := by
  induction h with
  | nil => exact all_nil cs
  | cons hc _ ih => exact (one hc _).all_cons ih

theorem text (s : String) (cs : List Char) : (Pattern.text s).Takes s.toList [] cs := by
  have hchars : List.Forall₂ (fun set c => CharSet.has set c = true)
      (s.toList.map CharSet.only) s.toList := by
    rw [List.forall₂_map_left_iff, List.forall₂_same]
    intro c _
    simp [CharSet.has]
  have htakes := chars hchars cs
  rw [List.map_map] at htakes
  exact htakes

theorem any_case {s : String} (h : List.Forall₂ (fun c d =>
      (if c.isLower then CharSet.letter c else CharSet.only c).has d = true) s.toList w)
    (cs : List Char) : (anyCase s).Takes w [] cs := by
  have htakes := chars (List.forall₂_map_left_iff.mpr h) cs
  rw [List.map_map] at htakes
  exact htakes

theorem many_ends_head {set : CharSet} (hw : ∀ c ∈ w, set.has c = true)
    (hcs : cs.head?.any set.has = false) (groups : List (Nat × List Char))
    (shorter : List Place) (before : Option Char) :
    (manyEnds set groups shorter before (w ++ cs)).head? =
      some ⟨w.getLast?.or before, cs, groups⟩ := by
  induction w generalizing shorter before with
  | nil =>
    cases cs with
    | nil => rfl
    | cons c cs =>
      have hc : set.has c = false := hcs
      rw [List.nil_append, manyEnds, hc]
      rfl
  | cons c w ih =>
    obtain ⟨hc, hw⟩ := List.forall_mem_cons.mp hw
    rw [List.cons_append, manyEnds, if_pos hc, ih hw, last_cons_or]

/-- A run goes on as long as there are characters of the set. -/
theorem many {set : CharSet} (hw : ∀ c ∈ w, set.has c = true)
    (hcs : cs.head?.any set.has = false) : (Pattern.many set).Takes w [] cs :=
  fun before groups => many_ends_head hw hcs groups [] before

theorem run {set : CharSet} (hne : w ≠ []) (hw : ∀ c ∈ w, set.has c = true)
    (hcs : cs.head?.any set.has = false) : (Pattern.run set).Takes w [] cs := by
  cases w with
  | nil => exact absurd rfl hne
  | cons c w =>
    obtain ⟨hc, hw⟩ := List.forall_mem_cons.mp hw
    exact (one hc _).both (many hw hcs)

end Takes

/-! What is captured. -/

theorem find_from_of_match {p : Pattern} {before : Option Char} {cs : List Char} {b : Place}
    (h : p.match? ⟨before, cs, []⟩ = some b) : p.findFrom before cs = some ([], b) := by
  cases cs with
  | nil => rw [findFrom, h, Option.map_some]
  | cons c cs => rw [findFrom, h]

/-- Behind what is passed over, the first group of the preferred match is captured. -/
theorem capture_eq {p : Pattern} {s : String} {front w cs v : List Char}
    {held : List (Nat × List Char)} (hs : s.toList = front ++ (w ++ cs))
    (hfront : p.SkipsOver front) (htakes : p.Takes w held cs) (hv : held.lookup 1 = some v) :
    p.capture? s = some (String.ofList v) := by
  have hfind := find_from_of_match (htakes (front.getLast?.or none) [])
  rw [capture?, hs, hfront, hfind]
  simp [Place.group?, hv]

/-- Where the whole text is passed over and nothing can be taken at its end, nothing is found. -/
theorem find_from_eq_none {p : Pattern} {cs : List Char} (hcs : p.SkipsOver cs)
    (hend : ∀ before, p.match? ⟨before, [], []⟩ = none) : p.findFrom none cs = none := by
  have hfind := hcs none []
  rw [List.append_nil, findFrom, hend] at hfind
  rw [hfind]
  rfl

theorem capture_eq_none {p : Pattern} {s : String} (hs : p.SkipsOver s.toList)
    (hend : ∀ before, p.match? ⟨before, [], []⟩ = none) : p.capture? s = none := by
  rw [capture?, find_from_eq_none hs hend]
  rfl

theorem find_all_eq_nil {p : Pattern} {s : String} (hs : p.SkipsOver s.toList)
    (hend : ∀ before, p.match? ⟨before, [], []⟩ = none) : p.findAll s = [] := by
  rw [findAll]
  cases s.length with
  | zero => rfl
  | succ bound => rw [findAllFrom, find_from_eq_none hs hend]

end Pattern

end CodeJudge.Text
