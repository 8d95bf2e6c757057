import CodeJudge.Proofs.Text.Scan
/-!
Tidied texts. Tidying takes away nothing but white lines, and no scanner finds anything on these. It
counts the white lines of a run in 32 bits and stops at one that is longer; few white lines, or few
line feeds that end one, are always counted.
-/
namespace CodeJudge.Text

/-- No more than `n` blank lines stand in a row. -/
def BlankRunsAtMost (n : Nat) (ls : List String) : Prop :=
  ∀ run, run <:+: ls → (∀ l ∈ run, isBlankText l = true) → run.length ≤ n

namespace BlankRunsAtMost

variable {n : Nat} {l : String} {ls : List String}

theorem tail (h : BlankRunsAtMost n (l :: ls)) : BlankRunsAtMost n ls :=
  fun run hrun => h run (List.infix_cons hrun)

/-- Blank lines stand in a row at the front or further on. -/
theorem cons (h : BlankRunsAtMost n ls) (hfront : ∀ front, front <+: l :: ls →
    (∀ m ∈ front, isBlankText m = true) → front.length ≤ n) : BlankRunsAtMost n (l :: ls) := by
  intro run hrun hblank
  rcases List.infix_cons_iff.mp hrun with hbegins | hinside
  · exact hfront run hbegins hblank
  · exact h run hinside hblank

end BlankRunsAtMost

/-! Tidying as if white lines were counted without a bound. -/

/-- Lines of which at most two white ones in a row are kept, given how many came just before. -/
def capped : Nat → List String → List String
  | _, [] => []
  | run, line :: rest =>
    if isBlankText line then
      if run < 2 then line :: capped (run + 1) rest else capped run rest
    else line :: capped 0 rest

/-- The text without the line feeds at both ends, its lines capped and ended. -/
@[irreducible]
def tidied (s : String) : String :=
  String.join ((capped 0 (linesOf (trimNewlines s))).map (· ++ "\n"))

/-- The greatest number of white lines in a row that is counted. -/
def longestRun : Nat := 0x7FFFFFFF

/-- The white lines of each run are counted, those of the first one from `run` on. -/
structure RunsFit (run : Nat) (ls : List String) : Prop where
  front : ∀ front, front <+: ls → (∀ l ∈ front, isBlankText l = true) →
    run + front.length ≤ longestRun
  inside : BlankRunsAtMost longestRun ls

theorem runs_fit_zero_iff {ls : List String} : RunsFit 0 ls ↔ BlankRunsAtMost longestRun ls := by
  refine ⟨fun h => h.inside, fun h => ⟨?_, h⟩⟩
  intro front hfront hblank
  rw [Nat.zero_add]
  exact h front hfront.isInfix hblank

namespace RunsFit

variable {run : Nat} {l : String} {ls : List String}

theorem run_le (h : RunsFit run ls) : run ≤ longestRun := h.front [] List.nil_prefix (by simp)

theorem visible_iff (hl : isBlankText l = false) :
    RunsFit run (l :: ls) ↔ run ≤ longestRun ∧ RunsFit 0 ls := by
  rw [runs_fit_zero_iff]
  refine ⟨fun h => ⟨h.run_le, h.inside.tail⟩, ?_⟩
  rintro ⟨hrun, hrest⟩
  -- no run of white lines begins at the first line
  have hnone : ∀ front, front <+: l :: ls → (∀ m ∈ front, isBlankText m = true) →
      front = [] := by
    intro front hfront hblank
    rcases List.prefix_cons_iff.mp hfront with rfl | ⟨front, rfl, -⟩
    · rfl
    · rw [hblank l List.mem_cons_self] at hl
      cases hl
  refine ⟨?_, hrest.cons ?_⟩
  · intro front hfront hblank
    rw [hnone front hfront hblank]
    exact hrun
  · intro front hfront hblank
    rw [hnone front hfront hblank]
    exact Nat.zero_le _

theorem blank_iff (hl : isBlankText l = true) :
    RunsFit run (l :: ls) ↔ RunsFit (run + 1) ls := by
  constructor
  · intro h
    refine ⟨?_, h.inside.tail⟩
    intro front hfront hblank
    have hlonger := h.front (l :: front) ((List.prefix_cons_inj l).mpr hfront)
      (List.forall_mem_cons.mpr ⟨hl, hblank⟩)
    rw [List.length_cons] at hlonger
    omega
  · intro h
    have hfront : ∀ front, front <+: l :: ls → (∀ m ∈ front, isBlankText m = true) →
        run + front.length ≤ longestRun := by
      intro front hfront hblank
      rcases List.prefix_cons_iff.mp hfront with rfl | ⟨front, rfl, hrest⟩
      · exact (Nat.le_succ run).trans h.run_le
      · have hrest := h.front front hrest (List.forall_mem_cons.mp hblank).2
        rw [List.length_cons]
        omega
    refine ⟨hfront, h.inside.cons ?_⟩
    intro front hbegins hblank
    exact (Nat.le_add_left _ _).trans (hfront front hbegins hblank)

end RunsFit

theorem is_int32_iff (n : Nat) : IsInt32 (n + 1) ↔ n + 1 ≤ longestRun := by
  rw [IsInt32, longestRun]
  omega

/-! One step of the cap. -/

theorem cap_blank_runs_visible {l : String} (hl : isBlankText l = false) (run : Int)
    (ls : List String) : capBlankRuns run (l :: ls) = (capBlankRuns 0 ls).map (l :: ·) := by
  rw [capBlankRuns, hl, if_neg Bool.false_ne_true]

theorem cap_blank_runs_blank {l : String} (hl : isBlankText l = true) {run : Int}
    (hrun : IsInt32 (run + 1)) (ls : List String) :
    capBlankRuns run (l :: ls) =
      (capBlankRuns (run + 1) ls).map fun kept => if 2 < run + 1 then kept else l :: kept := by
  rw [capBlankRuns, if_pos hl, addInt32_of_fits hrun]
  rfl

theorem cap_blank_runs_too_long {l : String} (hl : isBlankText l = true) {run : Int}
    (hrun : ¬ IsInt32 (run + 1)) (ls : List String) :
    capBlankRuns run (l :: ls) = .error .int32 := by
  rw [capBlankRuns, if_pos hl, addInt32_of_not_fits hrun]
  rfl

/-- While the runs are counted, the cap keeps what it would keep if it counted to two only. -/
theorem cap_blank_runs_of_fits {run : Nat} {ls : List String} (h : RunsFit run ls) :
    capBlankRuns run ls = .ok (capped (min run 2) ls) := by
  induction ls generalizing run with
  | nil => rfl
  | cons l ls ih =>
    rw [capped]
    cases hl : isBlankText l with
    | false =>
      obtain ⟨-, hrest⟩ := (RunsFit.visible_iff hl).mp h
      have hkept := ih hrest
      rw [Nat.zero_min, Nat.cast_zero] at hkept
      rw [cap_blank_runs_visible hl, hkept, if_neg Bool.false_ne_true]
      rfl
    | true =>
      have hrest := (RunsFit.blank_iff hl).mp h
      have hkept := ih hrest
      rw [Nat.cast_succ] at hkept
      rw [cap_blank_runs_blank hl ((is_int32_iff run).mpr hrest.run_le), hkept, if_pos rfl,
        Except.map]
      -- two white lines have been kept exactly if the counter of the cap stands still
      by_cases hlong : 2 ≤ run
      · have hmin : min (run + 1) 2 = min run 2 := by omega
        rw [if_pos (by omega), if_neg (by omega), hmin]
      · have hmin : min (run + 1) 2 = min run 2 + 1 := by omega
        rw [if_neg (by omega), if_pos (by omega), hmin]

theorem cap_blank_runs_of_not_fits {run : Nat} {ls : List String} (hrun : run ≤ longestRun)
    (h : ¬ RunsFit run ls) : capBlankRuns run ls = .error .int32 := by
  induction ls generalizing run with
  | nil =>
    refine absurd ⟨?_, ?_⟩ h
    · intro front hfront _
      rwa [List.prefix_nil.mp hfront]
    · intro part hpart _
      rw [List.infix_nil.mp hpart]
      exact Nat.zero_le _
  | cons l ls ih =>
    cases hl : isBlankText l with
    | false =>
      rw [RunsFit.visible_iff hl, not_and] at h
      have hkept := ih (Nat.zero_le _) (h hrun)
      rw [Nat.cast_zero] at hkept
      rw [cap_blank_runs_visible hl, hkept]
      rfl
    | true =>
      rw [RunsFit.blank_iff hl] at h
      -- the counter stops at this line, or the run goes on
      by_cases hnext : run + 1 ≤ longestRun
      · have hkept := ih hnext h
        rw [Nat.cast_succ] at hkept
        rw [cap_blank_runs_blank hl ((is_int32_iff run).mpr hnext), hkept]
        rfl
      · exact cap_blank_runs_too_long hl (mt (is_int32_iff run).mp hnext) ls

/-- A text is tidied exactly if no run of white lines in it is too long to be counted. -/
theorem tidy_of_fits {s : String} (h : BlankRunsAtMost longestRun (linesOf (trimNewlines s))) :
    tidy s = .ok (tidied s) := by
  have hkept := cap_blank_runs_of_fits (runs_fit_zero_iff.mpr h)
  rw [Nat.zero_min, Nat.cast_zero] at hkept
  rw [tidy, hkept, tidied]
  rfl

theorem tidy_of_not_fits {s : String}
    (h : ¬ BlankRunsAtMost longestRun (linesOf (trimNewlines s))) : tidy s = .error .int32 := by
  have hkept := cap_blank_runs_of_not_fits (Nat.zero_le _) (mt runs_fit_zero_iff.mp h)
  rw [Nat.cast_zero] at hkept
  rw [tidy, hkept]
  rfl

theorem tidy_eq_ok_iff {s t : String} :
    tidy s = .ok t ↔ BlankRunsAtMost longestRun (linesOf (trimNewlines s)) ∧ t = tidied s := by
  by_cases h : BlankRunsAtMost longestRun (linesOf (trimNewlines s))
  · simp [tidy_of_fits h, h, eq_comm]
  · simp [tidy_of_not_fits h, h]

/-! White lines that are counted. -/

/-- Whether a line has nothing visible. -/
def isWhite (l : List Char) : Bool := l.all isBlank

/-- How many line feeds end a white line, given whether the line so far is white. -/
def whiteEnds : Bool → List Char → Nat
  | _, [] => 0
  | white, c :: cs =>
    if c = '\n' then white.toNat + whiteEnds true cs else whiteEnds (white && isBlank c) cs

theorem white_ends_newline (white : Bool) (cs : List Char) :
    whiteEnds white ('\n' :: cs) = white.toNat + whiteEnds true cs := by
  rw [whiteEnds, if_pos rfl]

theorem white_ends_cons {c : Char} (hc : c ≠ '\n') (white : Bool) (cs : List Char) :
    whiteEnds white (c :: cs) = whiteEnds (white && isBlank c) cs := by
  rw [whiteEnds, if_neg hc]

theorem white_ends_le (white : Bool) (cs : List Char) :
    whiteEnds white cs ≤ whiteEnds true cs := by
  induction cs generalizing white with
  | nil => exact le_rfl
  | cons c cs ih =>
    by_cases hc : c = '\n'
    · rw [hc, white_ends_newline, white_ends_newline]
      exact Nat.add_le_add_right (Bool.toNat_le white) _
    · rw [white_ends_cons hc, white_ends_cons hc]
      cases white with
      | true => exact le_rfl
      | false =>
        cases isBlank c with
        | true => exact ih false
        | false => exact le_rfl

theorem white_ends_le_count (white : Bool) (cs : List Char) :
    whiteEnds white cs ≤ cs.count '\n' := by
  induction cs generalizing white with
  | nil => exact le_rfl
  | cons c cs ih =>
    by_cases hc : c = '\n'
    · have hrest := ih true
      have hone := Bool.toNat_le white
      rw [hc, white_ends_newline, List.count_cons_self]
      omega
    · rw [white_ends_cons hc, List.count_cons_of_ne hc]
      exact ih _

theorem white_ends_append_le (white : Bool) (cs ds : List Char) :
    whiteEnds white (cs ++ ds) ≤ whiteEnds white cs + whiteEnds true ds := by
  induction cs generalizing white with
  | nil =>
    rw [List.nil_append, whiteEnds, Nat.zero_add]
    exact white_ends_le white ds
  | cons c cs ih =>
    rw [List.cons_append]
    by_cases hc : c = '\n'
    · rw [hc, white_ends_newline, white_ends_newline, Nat.add_assoc]
      exact Nat.add_le_add_left (ih true) _
    · rw [white_ends_cons hc, white_ends_cons hc]
      exact ih _

theorem white_ends_le_append (white : Bool) (cs ds : List Char) :
    whiteEnds white cs ≤ whiteEnds white (cs ++ ds) := by
  induction cs generalizing white with
  | nil => exact Nat.zero_le _
  | cons c cs ih =>
    rw [List.cons_append]
    by_cases hc : c = '\n'
    · rw [hc, white_ends_newline, white_ends_newline]
      exact Nat.add_le_add_left (ih true) _
    · rw [white_ends_cons hc, white_ends_cons hc]
      exact ih _

/-- A line in which something is visible is not white. -/
theorem white_ends_visible {l : List Char} (hn : '\n' ∉ l) (hvisible : ∃ c ∈ l, isBlank c = false)
    (white : Bool) (cs : List Char) : whiteEnds white (l ++ '\n' :: cs) = whiteEnds true cs := by
  have hseen (l : List Char) (hn : '\n' ∉ l) :
      whiteEnds false (l ++ '\n' :: cs) = whiteEnds true cs := by
    induction l with
    | nil => rw [List.nil_append, white_ends_newline, Bool.toNat_false, Nat.zero_add]
    | cons c l ih =>
      rw [List.mem_cons, not_or] at hn
      rw [List.cons_append, white_ends_cons (Ne.symm hn.1)]
      exact ih hn.2
  induction l generalizing white with
  | nil =>
    obtain ⟨c, hc, -⟩ := hvisible
    cases hc
  | cons c l ih =>
    rw [List.mem_cons, not_or] at hn
    rw [List.cons_append, white_ends_cons (Ne.symm hn.1)]
    cases hc : isBlank c with
    | false =>
      rw [Bool.and_false]
      exact hseen l hn.2
    | true =>
      obtain ⟨d, hd, hdc⟩ := hvisible
      rcases List.mem_cons.mp hd with rfl | hd
      · rw [hc] at hdc
        cases hdc
      · exact ih hn.2 ⟨d, hd, hdc⟩ _

theorem white_ends_trim_le (s : String) :
    whiteEnds true (trimNewlines s).toList ≤ whiteEnds true s.toList := by
  obtain ⟨b, w, hb, -, hsplit⟩ := drop_both_while_append (· == '\n') s.toList
  have hfront (b cs : List Char) (hb : ∀ c ∈ b, c = '\n') :
      whiteEnds true cs ≤ whiteEnds true (b ++ cs) := by
    induction b with
    | nil => exact le_rfl
    | cons c b ih =>
      obtain ⟨rfl, hrest⟩ := List.forall_mem_cons.mp hb
      rw [List.cons_append, white_ends_newline]
      exact (ih hrest).trans (Nat.le_add_left _ _)
  rw [trimNewlines, String.toList_ofList]
  calc
    whiteEnds true (dropBothWhile (· == '\n') s.toList) ≤
        whiteEnds true (dropBothWhile (· == '\n') s.toList ++ w) := white_ends_le_append _ _ _
    _ ≤ whiteEnds true (b ++ (dropBothWhile (· == '\n') s.toList ++ w)) :=
      hfront b _ fun c hc => eq_of_beq (hb c hc)
    _ = whiteEnds true s.toList := by rw [← List.append_assoc, ← hsplit]

/-- A white line is ended by one of the line feeds that are counted, or it is the last one. A line
that begins visibly is not white, whatever follows. -/
theorem count_white_lines_le (cs : List Char) :
    (lines cs).countP isWhite ≤ whiteEnds true cs + 1 ∧
      (lines cs).tail.countP isWhite ≤ whiteEnds false cs + 1 := by
  induction cs using lines_induction with
  | nil => exact ⟨Nat.zero_le _, Nat.zero_le _⟩
  | newline cs ih =>
    rw [lines_newline, white_ends_newline, white_ends_newline, List.tail_cons,
      List.countP_cons_of_pos rfl, Bool.toNat_true, Bool.toNat_false, Nat.zero_add,
      Nat.add_comm 1]
    exact ⟨Nat.succ_le_succ ih.1, ih.1⟩
  | carriage cs ih =>
    have hreturn (white : Bool) : whiteEnds white ('\r' :: '\n' :: cs) =
        white.toNat + whiteEnds true cs := by
      rw [white_ends_cons (by decide), show isBlank '\r' = true by decide, Bool.and_true,
        white_ends_newline]
    rw [lines, hreturn, hreturn, List.tail_cons, List.countP_cons_of_pos rfl, Bool.toNat_true,
      Bool.toNat_false, Nat.zero_add, Nat.add_comm 1]
    exact ⟨Nat.succ_le_succ ih.1, ih.1⟩
  | char c cs hn hr ih =>
    rw [lines_cons hn hr, white_ends_cons hn, white_ends_cons hn, Bool.true_and, Bool.false_and]
    cases hls : lines cs with
    | nil =>
      rw [hls] at ih
      exact ⟨(List.countP_le_length).trans (Nat.le_add_left 1 _), Nat.zero_le _⟩
    | cons l ls =>
      rw [hls, List.tail_cons] at ih
      refine ⟨?_, ih.2⟩
      cases hc : isBlank c with
      | false =>
        have hfirst : ¬ isWhite (c :: l) = true := by simp [isWhite, hc]
        rw [putFirst, List.countP_cons_of_neg hfirst]
        exact ih.2
      | true =>
        have hfirst : isWhite (c :: l) = isWhite l := by simp [isWhite, hc]
        rw [putFirst, List.countP_cons, hfirst, ← List.countP_cons]
        exact ih.1

/-- A text with few line feeds that end a white line is tidied. -/
theorem tidy_of_white_ends {s : String} (h : whiteEnds true s.toList < longestRun) :
    tidy s = .ok (tidied s) := by
  refine tidy_of_fits ?_
  intro run hrun hblank
  have hcount : run.countP isBlankText = run.length := List.countP_eq_length.mpr hblank
  have hinside := hrun.sublist.countP_le (p := isBlankText)
  have hlines := (count_white_lines_le (trimNewlines s).toList).1
  have htrim := white_ends_trim_le s
  have hall : (linesOf (trimNewlines s)).countP isBlankText =
      (lines (trimNewlines s).toList).countP isWhite := by
    rw [linesOf, List.countP_map]
    refine List.countP_congr fun l _ => ?_
    rw [Function.comp_apply, isBlankText, String.toList_ofList, isWhite]
  omega

/-! What is kept. -/

theorem mem_capped {line : String} (hline : isBlankText line = false) {ls : List String}
    (h : line ∈ ls) (run : Nat) : line ∈ capped run ls := by
  induction ls generalizing run with
  | nil => cases h
  | cons l ls ih =>
    rw [capped]
    rcases List.mem_cons.mp h with rfl | h
    · simp [hline]
    · split_ifs
      · exact List.mem_cons_of_mem _ (ih h _)
      · exact ih h _
      · exact List.mem_cons_of_mem _ (ih h _)

/-- Tidying loses no character that is not white space. -/
theorem mem_tidied {c : Char} (hc : isBlank c = false) {s : String} (h : c ∈ s.toList) :
    c ∈ (tidied s).toList := by
  have hn : c ≠ '\n' := by
    rintro rfl
    exact absurd hc (by decide)
  have hr : c ≠ '\r' := by
    rintro rfl
    exact absurd hc (by decide)
  have htrim : c ∈ (trimNewlines s).toList := by
    rw [trimNewlines, String.toList_ofList]
    exact mem_drop_both_while (by simpa using hn) h
  obtain ⟨l, hl, hcl⟩ := exists_line_of_mem hn hr htrim
  have hblank : isBlankText (String.ofList l) = false := by
    rw [isBlankText, String.toList_ofList, List.all_eq_false]
    exact ⟨c, hcl, by simp [hc]⟩
  have hkept := mem_capped hblank (List.mem_map.mpr ⟨l, hl, rfl⟩) 0
  rw [tidied, String.toList_join]
  refine List.mem_flatMap.mpr ⟨_, List.mem_map.mpr ⟨_, hkept, rfl⟩, ?_⟩
  simp [hcl]

namespace Scanner

variable {α : Type} (k : Scanner α)

/-- White space shows nothing, on however many lines it stands. -/
theorem scan_blank {cs : List Char} (hblank : ∀ c ∈ cs, isBlank c = true) : k.scan cs = [] := by
  have hvisible : cs.countP (fun c => !isBlank c) = 0 := by
    rw [List.countP_eq_zero]
    intro c hc
    simp [hblank c hc]
  rw [← count_lines (by decide) fun _ => by decide] at hvisible
  rw [scan, List.filterMap_eq_nil_iff]
  intro l hl
  have hline := List.sum_eq_zero_iff_forall_eq_nat.mp hvisible _ (List.mem_map_of_mem hl)
  have hwhite : ∀ c ∈ l, isBlank c = true := by simpa using hline
  have htrimmed : trimmed l = [] := by
    rw [trimmed, dropBothWhile, List.dropWhile_eq_nil_iff.mpr hwhite]
    rfl
  rw [onLine, htrimmed, k.find_nil]

theorem scan_newlines_append {w : List Char} (hw : ∀ c ∈ w, c = '\n') (cs : List Char) :
    k.scan (w ++ cs) = k.scan cs := by
  induction w with
  | nil => rfl
  | cons c w ih =>
    have hc : c = '\n' := hw c List.mem_cons_self
    have hrest := ih fun d hd => hw d (List.mem_cons_of_mem c hd)
    rw [hc, List.cons_append, ← List.nil_append ('\n' :: (w ++ cs)), scan_append_newline, hrest]
    rfl

theorem scan_append_newlines {w : List Char} (hw : ∀ c ∈ w, c = '\n') (cs : List Char) :
    k.scan (cs ++ w) = k.scan cs := by
  cases w with
  | nil => rw [List.append_nil]
  | cons c w =>
    have hc : c = '\n' := hw c List.mem_cons_self
    -- the first line feed ends the last line, and the others end empty ones
    have hrest : k.scan w = [] := by
      rw [← List.append_nil w,
        scan_newlines_append k fun d hd => hw d (List.mem_cons_of_mem c hd)]
      rfl
    rw [hc, scan_append_newline, hrest, List.append_nil]

/-- Line feeds at either end show nothing. -/
theorem scan_trim_newlines (s : String) : k.scan (trimNewlines s).toList = k.scan s.toList := by
  obtain ⟨b, w, hb, hw, hsplit⟩ := drop_both_while_append (· == '\n') s.toList
  rw [trimNewlines, String.toList_ofList]
  calc
    k.scan (dropBothWhile (· == '\n') s.toList) =
        k.scan (dropBothWhile (· == '\n') s.toList ++ w) :=
      (scan_append_newlines k (fun c hc => eq_of_beq (hw c hc)) _).symm
    _ = k.scan (b ++ (dropBothWhile (· == '\n') s.toList ++ w)) :=
      (scan_newlines_append k (fun c hc => eq_of_beq (hb c hc)) _).symm
    _ = k.scan s.toList := by rw [← List.append_assoc, ← hsplit]

theorem scan_lines_of (s : String) :
    ((linesOf s).flatMap fun l => k.scan l.toList) = k.scan s.toList := by
  rw [linesOf, List.flatMap_map, scan, List.filterMap_eq_flatMap_toList]
  simp only [String.toList_ofList]
  exact List.flatMap_congr fun l hl => k.scan_line (newline_not_mem_lines hl)

/-- White lines show nothing, so it does not matter how many of them are kept. -/
theorem scan_capped (run : Nat) {ls : List String} (hls : ∀ l ∈ ls, '\n' ∉ l.toList) :
    ((capped run ls).flatMap fun l => k.scan l.toList) =
      ls.flatMap fun l => k.scan l.toList := by
  induction ls generalizing run with
  | nil => rfl
  | cons l ls ih =>
    have hrest (run : Nat) := ih run fun m hm => hls m (List.mem_cons_of_mem l hm)
    rw [capped]
    split_ifs with hblank hrun
    · rw [List.flatMap_cons, List.flatMap_cons, hrest]
    · have hwhite := scan_blank k (List.all_eq_true.mp hblank)
      rw [List.flatMap_cons, hwhite, List.nil_append, hrest]
    · rw [List.flatMap_cons, List.flatMap_cons, hrest]

theorem scan_tidied (s : String) : k.scan (tidied s).toList = k.scan s.toList := by
  have hlines : ∀ l ∈ linesOf (trimNewlines s), '\n' ∉ l.toList :=
    fun _ hl => newline_not_mem_lines_of hl
  calc
    k.scan (tidied s).toList =
        (capped 0 (linesOf (trimNewlines s))).flatMap fun l => k.scan l.toList := by
      rw [tidied, scan_join_ended]
    _ = (linesOf (trimNewlines s)).flatMap fun l => k.scan l.toList :=
      scan_capped k 0 hlines
    _ = k.scan s.toList := by rw [scan_lines_of, scan_trim_newlines]

end Scanner

end CodeJudge.Text
