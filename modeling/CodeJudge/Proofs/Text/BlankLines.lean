import CodeJudge.Proofs.Text.Tidy
/-!
Lines of a tidied text. They are lines of the text in their order, with all that are not blank among
them, and of the blank ones at most two in a row are kept.
-/
namespace CodeJudge.Text

/-! One step. -/

theorem capped_visible {l : String} (hl : isBlankText l = false) (run : Nat)
    (ls : List String) : capped run (l :: ls) = l :: capped 0 ls := by
  rw [capped, hl, if_neg Bool.false_ne_true]

theorem capped_blank {l : String} (hl : isBlankText l = true) {run : Nat} (hrun : run < 2)
    (ls : List String) : capped run (l :: ls) = l :: capped (run + 1) ls := by
  rw [capped, if_pos hl, if_pos hrun]

theorem capped_dropped {l : String} (hl : isBlankText l = true) {run : Nat}
    (hrun : ¬ run < 2) (ls : List String) : capped run (l :: ls) = capped run ls := by
  rw [capped, if_pos hl, if_neg hrun]

/-- Induction over lines by what becomes of the first of them. -/
@[elab_as_elim]
theorem capped_induction {P : Nat → List String → Prop} (run : Nat) (ls : List String)
    (nil : ∀ run, P run [])
    (visible : ∀ run l ls, isBlankText l = false → P 0 ls → P run (l :: ls))
    (blank : ∀ run l ls, isBlankText l = true → run < 2 → P (run + 1) ls → P run (l :: ls))
    (dropped : ∀ run l ls, isBlankText l = true → ¬ run < 2 → P run ls → P run (l :: ls)) :
    P run ls := by
  induction ls generalizing run with
  | nil => exact nil run
  | cons l ls ih =>
    cases hl : isBlankText l with
    | false => exact visible run l ls hl (ih 0)
    | true =>
      by_cases hrun : run < 2
      · exact blank run l ls hl hrun (ih (run + 1))
      · exact dropped run l ls hl hrun (ih run)

theorem capped_sublist (run : Nat) (ls : List String) :
    (capped run ls).Sublist ls := by
  induction run, ls using capped_induction with
  | nil => exact List.nil_sublist []
  | visible run l ls hl ih =>
    rw [capped_visible hl]
    exact ih.cons_cons l
  | blank run l ls hl hrun ih =>
    rw [capped_blank hl hrun]
    exact ih.cons_cons l
  | dropped run l ls hl hrun ih =>
    rw [capped_dropped hl hrun]
    exact ih.cons l

theorem filter_capped (run : Nat) (ls : List String) :
    (capped run ls).filter (fun l => !isBlankText l) = ls.filter fun l => !isBlankText l := by
  induction run, ls using capped_induction with
  | nil => rfl
  | visible run l ls hl ih =>
    rw [capped_visible hl, List.filter_cons_of_pos (by simp [hl]), ih,
      List.filter_cons_of_pos (by simp [hl])]
  | blank run l ls hl hrun ih =>
    rw [capped_blank hl hrun, List.filter_cons_of_neg (by simp [hl]), ih,
      List.filter_cons_of_neg (by simp [hl])]
  | dropped run l ls hl hrun ih =>
    rw [capped_dropped hl hrun, ih, List.filter_cons_of_neg (by simp [hl])]

/-- Blank lines at the front are a continuation of the `run` of them that came before. -/
theorem length_prefix_capped_le {run : Nat} (hrun : run ≤ 2) {ls front : List String}
    (hfront : front <+: capped run ls) (hblank : ∀ l ∈ front, isBlankText l = true) :
    front.length + run ≤ 2 := by
  induction run, ls using capped_induction generalizing front with
  | nil run =>
    rw [List.prefix_nil.mp hfront]
    simpa using hrun
  | visible run l ls hl ih =>
    rw [capped_visible hl, List.prefix_cons_iff] at hfront
    rcases hfront with rfl | ⟨front, rfl, -⟩
    · simpa using hrun
    · rw [hblank l List.mem_cons_self] at hl
      cases hl
  | blank run l ls hl hlt ih =>
    rw [capped_blank hl hlt, List.prefix_cons_iff] at hfront
    rcases hfront with rfl | ⟨front, rfl, hfront⟩
    · simpa using hrun
    · have hrest := ih (by omega) hfront fun m hm => hblank m (List.mem_cons_of_mem l hm)
      rw [List.length_cons]
      omega
  | dropped run l ls hl hlt ih =>
    rw [capped_dropped hl hlt] at hfront
    exact ih hrun hfront hblank

theorem blank_runs_capped {run : Nat} (hrun : run ≤ 2) (ls : List String) :
    BlankRunsAtMost 2 (capped run ls) := by
  -- the blank lines that came before make the bound at the front stronger than it has to be
  have hfront {run : Nat} (hrun : run ≤ 2) (ls front : List String)
      (hbegins : front <+: capped run ls) (hblank : ∀ l ∈ front, isBlankText l = true) :
      front.length ≤ 2 :=
    (Nat.le_add_right _ _).trans (length_prefix_capped_le hrun hbegins hblank)
  induction run, ls using capped_induction with
  | nil run =>
    intro part hpart _
    rw [List.infix_nil.mp hpart]
    exact Nat.zero_le 2
  | visible run l ls hl ih =>
    have hbegins := hfront hrun (l :: ls)
    rw [capped_visible hl] at hbegins ⊢
    exact (ih (Nat.zero_le 2)).cons hbegins
  | blank run l ls hl hlt ih =>
    have hbegins := hfront hrun (l :: ls)
    rw [capped_blank hl hlt] at hbegins ⊢
    exact (ih hlt).cons hbegins
  | dropped run l ls hl hlt ih =>
    rw [capped_dropped hl hlt]
    exact ih hrun

/-- Where no more than two blank lines stand in a row, those that came before counted too, the cap
changes nothing. -/
theorem capped_eq_self {run : Nat} {ls : List String} (h : BlankRunsAtMost 2 ls)
    (hfront : ∀ front, front <+: ls → (∀ l ∈ front, isBlankText l = true) →
      front.length + run ≤ 2) : capped run ls = ls := by
  induction run, ls using capped_induction with
  | nil => rfl
  | visible run l ls hl ih =>
    rw [capped_visible hl]
    refine congrArg (l :: ·) (ih h.tail fun front hbegins hblank => ?_)
    exact h.tail front hbegins.isInfix hblank
  | blank run l ls hl hlt ih =>
    rw [capped_blank hl hlt]
    refine congrArg (l :: ·) (ih h.tail fun front hbegins hblank => ?_)
    have hlonger := hfront (l :: front) (List.prefix_cons_inj l |>.mpr hbegins)
      (List.forall_mem_cons.mpr ⟨hl, hblank⟩)
    rw [List.length_cons] at hlonger
    omega
  | dropped run l ls hl hlt ih =>
    have hsingle := hfront [l] (by simp) (List.forall_mem_singleton.mpr hl)
    rw [List.length_singleton] at hsingle
    omega

/-! Lines of a text without carriage returns. -/

theorem lines_newlines_append {w : List Char} (hw : ∀ c ∈ w, c = '\n') (cs : List Char) :
    lines (w ++ cs) = List.replicate w.length [] ++ lines cs := by
  induction w with
  | nil => rfl
  | cons c w ih =>
    obtain ⟨hc, hrest⟩ := List.forall_mem_cons.mp hw
    rw [hc, List.cons_append, lines_newline, ih hrest]
    rfl

theorem lines_newlines {w : List Char} (hw : ∀ c ∈ w, c = '\n') :
    lines w = List.replicate w.length [] := by
  have hlines := lines_newlines_append hw []
  rwa [List.append_nil, lines_nil, List.append_nil] at hlines

/-- Of the line feeds behind a text the first ends its last line, and the others empty ones. -/
theorem exists_lines_append_newlines {cs w : List Char} (hlast : cs.getLast? ≠ some '\n')
    (hr : '\r' ∉ cs) (hw : ∀ c ∈ w, c = '\n') :
    ∃ n, lines (cs ++ w) = lines cs ++ List.replicate n [] := by
  by_cases hne : cs = []
  · exact ⟨w.length, by rw [hne, List.nil_append, lines_newlines hw, lines_nil, List.nil_append]⟩
  cases w with
  | nil => exact ⟨0, by simp⟩
  | cons c w =>
    obtain ⟨hc, hrest⟩ := List.forall_mem_cons.mp hw
    have hreturn : cs.getLast? ≠ some '\r' := fun h => hr (List.mem_of_getLast? h)
    refine ⟨w.length, ?_⟩
    rw [hc, lines_append_newline, (lines_concat ⟨hne, hlast⟩).2 hreturn, lines_newlines hrest]

theorem last_drop_end_while_ne (cs : List Char) :
    (dropEndWhile (· == '\n') cs).getLast? ≠ some '\n' := by
  rw [drop_end_while_eq]
  intro hlast
  have hne : cs.rdropWhile (· == '\n') ≠ [] := List.ne_nil_of_mem (List.mem_of_getLast? hlast)
  rw [List.getLast?_eq_getLast_of_ne_nil hne, Option.some.injEq] at hlast
  have hend := List.rdropWhile_last_not _ _ hne
  rw [hlast] at hend
  exact hend rfl

/-- The line feeds that are stripped are the ends of empty lines, and of the last line. -/
theorem exists_lines_trim_newlines {s : String} (hr : '\r' ∉ s.toList) :
    ∃ m n, linesOf s =
      List.replicate m "" ++ linesOf (trimNewlines s) ++ List.replicate n "" := by
  obtain ⟨b, w, hb, hw, hsplit⟩ := drop_both_while_append (· == '\n') s.toList
  have hlast : (dropBothWhile (· == '\n') s.toList).getLast? ≠ some '\n' :=
    last_drop_end_while_ne _
  have hreturn : '\r' ∉ dropBothWhile (· == '\n') s.toList :=
    fun hmem => hr (mem_of_mem_drop_both_while hmem)
  obtain ⟨n, hn⟩ := exists_lines_append_newlines hlast hreturn fun c hc => eq_of_beq (hw c hc)
  refine ⟨b.length, n, ?_⟩
  rw [linesOf, hsplit, List.append_assoc, lines_newlines_append fun c hc => eq_of_beq (hb c hc), hn,
    linesOf, trimNewlines, String.toList_ofList]
  simp

theorem return_not_mem_lines {cs l : List Char} (hr : '\r' ∉ cs) (hl : l ∈ lines cs) :
    '\r' ∉ l := by
  have hsum : ((lines cs).map (List.countP (· == '\r'))).sum = cs.countP (· == '\r') :=
    count_lines (by decide) fun h => absurd h hr
  have hzero : cs.countP (· == '\r') = 0 := List.count_eq_zero.mpr hr
  rw [hzero, List.sum_eq_zero_iff_forall_eq_nat] at hsum
  exact List.count_eq_zero.mp (hsum _ (List.mem_map_of_mem hl))

/-- Lines that are ended are read back. -/
theorem lines_of_ended {ls : List String} (hn : ∀ l ∈ ls, '\n' ∉ l.toList)
    (hr : ∀ l ∈ ls, '\r' ∉ l.toList) : linesOf (String.join (ls.map (· ++ "\n"))) = ls := by
  induction ls with
  | nil => rfl
  | cons l ls ih =>
    obtain ⟨hfirst, hrest⟩ := List.forall_mem_cons.mp hn
    obtain ⟨hreturn, hreturns⟩ := List.forall_mem_cons.mp hr
    have hline : lines (l.toList ++ ['\n']) = [l.toList] := by
      rcases lines_line_end hfirst with h | ⟨m, hm, -⟩
      · exact h
      · exact absurd (by simp [hm]) hreturn
    have hsplit : (String.join ((l :: ls).map (· ++ "\n"))).toList =
        l.toList ++ '\n' :: (String.join (ls.map (· ++ "\n"))).toList := by
      simp
    rw [linesOf, hsplit, lines_append_newline, hline, List.map_append, ← linesOf, ih hrest hreturns,
      List.map_singleton, String.ofList_toList, List.singleton_append]

theorem lines_tidied {s : String} (hr : '\r' ∉ s.toList) :
    linesOf (tidied s) = capped 0 (linesOf (trimNewlines s)) := by
  have hsub := capped_sublist 0 (linesOf (trimNewlines s))
  rw [tidied]
  apply lines_of_ended
  · exact fun l hl => newline_not_mem_lines_of (hsub.mem hl)
  · intro l hl
    obtain ⟨cs, hcs, rfl⟩ := List.mem_map.mp (hsub.mem hl)
    rw [trimNewlines, String.toList_ofList] at hcs
    rw [String.toList_ofList]
    exact return_not_mem_lines (fun hmem => hr (mem_of_mem_drop_both_while hmem)) hcs

theorem tidied_ended (s : String) : tidied s = "" ∨ (tidied s).toList.getLast? = some '\n' := by
  rw [tidied]
  rcases List.eq_nil_or_concat (capped 0 (linesOf (trimNewlines s))) with h | ⟨ls, l, h⟩
  · exact .inl (by rw [h]; rfl)
  · exact .inr (by simp [h])

theorem length_lines_le (cs : List Char) : (lines cs).length ≤ cs.length := by
  induction cs using lines_induction with
  | nil => exact le_rfl
  | newline cs ih => exact Nat.succ_le_succ ih
  | carriage cs ih => exact Nat.succ_le_succ (ih.trans (Nat.le_succ _))
  | char c cs hn hr ih =>
    rw [lines_cons hn hr, List.length_cons]
    cases hls : lines cs with
    | nil => exact Nat.succ_le_succ (Nat.zero_le _)
    | cons l ls =>
      rw [hls] at ih
      exact ih.trans (Nat.le_succ _)

/-- A text with no more characters than there are numbers of 32 bits above zero has no run of blank
lines that is too long. -/
theorem blank_runs_of_length {s : String} (h : s.length ≤ longestRun) :
    BlankRunsAtMost longestRun (linesOf (trimNewlines s)) := by
  intro run hrun _
  have hinside := hrun.length_le
  have hlines := length_lines_le (trimNewlines s).toList
  have htrim : (trimNewlines s).toList.length ≤ s.length := by
    obtain ⟨b, w, -, -, hsplit⟩ := drop_both_while_append (· == '\n') s.toList
    have hlength := congrArg List.length hsplit
    rw [List.length_append, List.length_append, String.length_toList] at hlength
    rw [trimNewlines, String.toList_ofList]
    omega
  rw [linesOf, List.length_map] at hinside
  omega

theorem filter_lines_tidied {s : String} (hr : '\r' ∉ s.toList) :
    ((linesOf (tidied s)).filter fun l => !isBlankText l) =
      ((linesOf s).filter fun l => !isBlankText l) := by
  obtain ⟨m, n, hlines⟩ := exists_lines_trim_newlines hr
  -- the lines around the others are empty
  have hempty (k : Nat) : ((List.replicate k "").filter fun l => !isBlankText l) = [] := by
    rw [List.filter_eq_nil_iff]
    intro l hl
    rw [List.eq_of_mem_replicate hl]
    decide
  rw [lines_tidied hr, filter_capped, hlines, List.filter_append, List.filter_append, hempty,
    hempty, List.nil_append, List.append_nil]

theorem lines_tidied_sublist {s : String} (hr : '\r' ∉ s.toList) :
    (linesOf (tidied s)).Sublist (linesOf s) := by
  obtain ⟨m, n, hlines⟩ := exists_lines_trim_newlines hr
  rw [lines_tidied hr, hlines, List.append_assoc]
  exact (capped_sublist 0 _).trans
    ((List.sublist_append_left _ _).trans (List.sublist_append_right _ _))

/-- A text is tidied exactly if no run of blank lines in it is too long to be counted, which takes
more than `longestRun` characters. A tidied text has the lines that are not blank, unchanged and in
their order, and no line that the text does not have. No three blank lines stand in a row, and
nothing is taken out where none did. The last line is ended, if there is one. -/
theorem tidy_caps_blank_lines {s : String} (hr : '\r' ∉ s.toList) :
    ((∃ t, tidy s = .ok t) ↔ BlankRunsAtMost longestRun (linesOf (trimNewlines s))) ∧
    (s.length ≤ longestRun → ∃ t, tidy s = .ok t) ∧
    ∀ t, tidy s = .ok t →
      ((linesOf t).filter fun l => !isBlankText l) =
        ((linesOf s).filter fun l => !isBlankText l) ∧
      (linesOf t).Sublist (linesOf s) ∧
      BlankRunsAtMost 2 (linesOf t) ∧
      (BlankRunsAtMost 2 (linesOf (trimNewlines s)) → linesOf t = linesOf (trimNewlines s)) ∧
      (t = "" ∨ t.toList.getLast? = some '\n') := by
  refine ⟨⟨?_, fun h => ⟨_, tidy_of_fits h⟩⟩, fun h => ⟨_, tidy_of_fits (blank_runs_of_length h)⟩,
    ?_⟩
  · rintro ⟨t, ht⟩
    exact (tidy_eq_ok_iff.mp ht).1
  intro t ht
  rw [(tidy_eq_ok_iff.mp ht).2]
  refine ⟨filter_lines_tidied hr, lines_tidied_sublist hr, ?_, ?_, tidied_ended s⟩
  · rw [lines_tidied hr]
    exact blank_runs_capped (Nat.zero_le 2) _
  · intro h
    rw [lines_tidied hr]
    exact capped_eq_self h fun front hfront => h front hfront.isInfix

/-- Empty lines at both ends, and four blank lines of which some are not empty. -/
theorem tidy_caps_mixed_blank_lines :
    let s := "\n\n  a \n \n\n\t\n\nb"
    let t := "  a \n \n\nb\n"
    '\r' ∉ s.toList ∧ s.length ≤ longestRun ∧ tidy s = .ok t ∧
      ((linesOf t).filter fun l => !isBlankText l) = ["  a ", "b"] ∧
      (linesOf t).Sublist (linesOf s) ∧ BlankRunsAtMost 2 (linesOf t) := by
  intro s t
  have hr : '\r' ∉ s.toList := by decide
  have hlength : s.length ≤ longestRun := by decide
  obtain ⟨-, hreturns, hkept⟩ := tidy_caps_blank_lines hr
  obtain ⟨u, hu⟩ := hreturns hlength
  have ht : u = t := (tidy_eq_ok_iff.mp hu).2.trans (by decide +kernel)
  rw [ht] at hu
  obtain ⟨hvisible, hsub, hruns, -⟩ := hkept t hu
  exact ⟨hr, hlength, hu, hvisible.trans (by decide), hsub, hruns⟩

end CodeJudge.Text
