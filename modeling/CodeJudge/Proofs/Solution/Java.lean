import CodeJudge.Proofs.Solution.Hidden
import CodeJudge.Proofs.Text.Lines
/-!
What a program keeps of a Java solution. Lines that are dropped and modifiers that are hidden hold
no brace, so the braces of a solution stay; everything else that is lost makes the text shorter.
-/
namespace CodeJudge.JavaSource

open Text (isBlank Pattern Place)

/-- The lines of the code that are neither imports nor name the package. -/
def keptLines (code : String) : List String :=
  (Text.linesOf code).filter fun l => !importLine.occurs l && !packageLine.occurs l

theorem body_eq (code : String) :
    (ofCode code).body = enclose (hideClass (Text.joinLines (keptLines code))) := by
  simp only [ofCode, keptLines]

/-- A line that is moved or dropped is not empty and holds no brace. -/
theorem dropped_line {l : String} (h : importLine.occurs l = true ∨ packageLine.occurs l = true) :
    l ≠ "" ∧ '\x7b' ∉ l.toList := by
  have himport : importLine = .all (.textStart :: [.many .blank, .text "import", .run .blank,
      dottedName, .optional (.text ".*"), .many .blank, .text ";", .many .blank] ++
        [.textEnd]) := rfl
  have hpackage : packageLine = .all (.textStart :: [.many .blank, .text "package", .run .blank,
      dottedName, .many .blank, .text ";", .many .blank] ++ [.textEnd]) := rfl
  rcases h with h | h
  · refine ⟨?_, fun hmem => ?_⟩
    · rintro rfl
      exact absurd h (by decide)
    · rw [himport] at h
      exact absurd (Pattern.may_take_of_occurs h _ hmem) (by decide)
  · refine ⟨?_, fun hmem => ?_⟩
    · rintro rfl
      exact absurd h (by decide)
    · rw [hpackage] at h
      exact absurd (Pattern.may_take_of_occurs h _ hmem) (by decide)

/-- Something may be taken out of a text, but no brace. -/
structure Thins (cs out : List Char) : Prop where
  sublist : out.Sublist cs
  braces : out.count '\x7b' = cs.count '\x7b'

namespace Thins

theorem refl (cs : List Char) : Thins cs cs := ⟨List.Sublist.refl cs, rfl⟩

theorem append {cs out ds rest : List Char} (h : Thins cs out) (g : Thins ds rest) :
    Thins (cs ++ ds) (out ++ rest) := by
  refine ⟨h.sublist.append g.sublist, ?_⟩
  rw [List.count_append, List.count_append, h.braces, g.braces]

/-- A part without braces is taken out. -/
theorem of_not_mem {cs : List Char} (h : '\x7b' ∉ cs) : Thins cs [] :=
  ⟨List.nil_sublist cs, (List.count_eq_zero.mpr h).symm⟩

end Thins

/-- One declaration and what follows it, when what follows is thinned. -/
theorem thins_of_found {before : Option Char} {cs passed : List Char} {b : Place}
    (h : publicClass.findFrom before cs = some (passed, b)) {out : List Char}
    (hout : Thins b.rest out) : Thins cs (passed ++ hidden b ++ out) ∧
      (passed ++ hidden b ++ out).countP (· != '\n') < cs.countP (· != '\n') := by
  obtain ⟨space, gap, last, hcs, hhidden, -, hclass, -, -⟩ := hidden_found h
  have hpublic : '\x7b' ∉ "public".toList ++ gap := by
    intro hmem
    rcases List.mem_append.mp hmem with hmem | hmem
    · exact absurd hmem (by decide)
    · exact absurd (hclass.gap.2 _ hmem) (by decide)
  have hcount : out.countP (· != '\n') ≤ b.rest.countP (· != '\n') := hout.sublist.countP_le
  rw [hhidden, hcs]
  refine ⟨?_, ?_⟩
  · have hthin := ((((Thins.refl passed).append (Thins.refl space)).append
      (Thins.of_not_mem hpublic)).append (Thins.refl last)).append hout
    simpa using hthin
  · have hword : 0 < "public".toList.countP (· != '\n') := by decide
    simp only [List.countP_append]
    omega

theorem replaced_thins (bound : Nat) (before : Option Char) (cs : List Char) :
    Thins cs (publicClass.replacedFrom hidden bound before cs) := by
  induction bound generalizing before cs with
  | zero => exact Thins.refl cs
  | succ bound ih =>
    cases h : publicClass.findFrom before cs with
    | none =>
      rw [Pattern.replaced_from_of_none _ _ h]
      exact Thins.refl cs
    | some found =>
      rw [Pattern.replaced_from_of_some _ _ h]
      exact (thins_of_found h (ih found.2.before found.2.rest)).1

theorem hide_class_thins (code : String) : Thins code.toList (hideClass code).toList := by
  rw [hide_class_eq]
  exact replaced_thins code.length none code.toList

/-- Hiding a class makes the code shorter. -/
theorem hide_class_lighter {code : String} (h : publicClass.occurs code = true) :
    (hideClass code).toList.countP (· != '\n') < code.toList.countP (· != '\n') := by
  obtain ⟨⟨passed, b⟩, hfind⟩ := Option.isSome_iff_exists.mp h
  have hshort := thins_of_found hfind (Thins.refl b.rest)
  obtain ⟨bound, hbound⟩ : ∃ bound, code.length = bound + 1 := by
    refine Nat.exists_eq_add_one.mpr ?_
    rw [← String.length_toList]
    have hpos := Nat.lt_of_le_of_lt (Nat.zero_le _) hshort.2
    exact Nat.lt_of_lt_of_le hpos List.countP_le_length
  rw [hide_class_eq, hbound, Pattern.replaced_from_of_some _ _ hfind]
  exact (thins_of_found hfind (replaced_thins bound b.before b.rest)).2

/-! The line of a class that is put around the code. -/

/-- The first line of a class. -/
def shellLine : String := "class Solution \x7b"

/-- A class on the first line is not hidden. -/
theorem hide_class_shell_line {code : String} (h : shellLine.toList <+: code.toList) :
    shellLine.toList <+: (hideClass code).toList := by
  rw [hide_class_eq]
  cases hfind : publicClass.findFrom none code.toList with
  | none => rwa [Pattern.replaced_from_of_none _ _ hfind]
  | some found =>
    obtain ⟨passed, b⟩ := found
    cases hbound : code.length with
    | zero => exact h
    | succ bound =>
      rw [Pattern.replaced_from_of_some _ _ hfind, List.append_assoc]
      refine List.IsPrefix.trans ?_ (List.prefix_append passed _)
      obtain ⟨space, gap, last, hcs, -, -, hclass, hline, -⟩ := hidden_found hfind
      have hpassed : passed <+: code.toList := ⟨_, hcs.symm⟩
      refine (List.prefix_or_prefix_of_prefix h hpassed).resolve_right fun hinside => ?_
      -- a declaration cannot start inside of the line
      cases hlast : passed.getLast? with
      | none =>
        rw [List.getLast?_eq_none_iff.mp hlast, List.nil_append] at hcs
        obtain ⟨rest, hrest⟩ := h
        have hhead : code.toList.head? = some 'c' := by rw [← hrest]; rfl
        rw [hcs] at hhead
        cases space with
        | nil => exact absurd hhead (by simp)
        | cons d space =>
          obtain rfl : d = 'c' := by simpa using hhead
          exact absurd (hclass.space 'c' List.mem_cons_self) (by decide)
      | some c =>
        have hmem := hinside.subset (List.mem_of_getLast? hlast)
        rw [hline c (by rw [hlast]; rfl)] at hmem
        exact absurd hmem (by decide)

/-- A text that begins with the line of a class declares one. -/
theorem declares_class_of_shell_line {code : String} (h : shellLine.toList <+: code.toList) :
    Solution.declaresClass code = true := by
  obtain ⟨rest, hrest⟩ := h
  rw [Solution.declaresClass, Pattern.occurs, ← hrest]
  cbv

/-! Counting what is kept. -/

theorem sum_filter_add (q : String → Bool) (f : String → Nat) (ls : List String) :
    ((ls.filter q).map f).sum + ((ls.filter fun l => !q l).map f).sum = (ls.map f).sum := by
  induction ls with
  | nil => rfl
  | cons l ls ih =>
    cases hq : q l with
    | false =>
      rw [List.filter_cons_of_neg (by simp [hq]), List.filter_cons_of_pos (by simp [hq]),
        List.map_cons, List.map_cons, List.sum_cons, List.sum_cons]
      omega
    | true =>
      rw [List.filter_cons_of_pos hq, List.filter_cons_of_neg (by simp [hq]),
        List.map_cons, List.map_cons, List.sum_cons, List.sum_cons]
      omega

/-- The lines of the code that are moved or dropped. -/
def droppedLines (code : String) : List String :=
  (Text.linesOf code).filter fun l => !(!importLine.occurs l && !packageLine.occurs l)

theorem dropped_of_mem {code l : String} (h : l ∈ droppedLines code) :
    l ≠ "" ∧ '\x7b' ∉ l.toList := by
  refine dropped_line ?_
  simpa [Bool.or_eq_true] using (List.mem_filter.mp h).2

/-- What is counted in the code is counted in what is kept of it and in the other lines. -/
theorem count_kept_add {p : Char → Bool} (hp : p '\n' = false) {code : String}
    (hr : '\r' ∉ code.toList) : (Text.joinLines (keptLines code)).toList.countP p +
      ((droppedLines code).map fun l => l.toList.countP p).sum = code.toList.countP p := by
  rw [Text.count_join_lines hp, keptLines, droppedLines, sum_filter_add,
    ← Text.count_lines hp fun h => absurd h hr, Text.linesOf, List.map_map]
  congr 2
  funext l
  simp

theorem count_kept_le {p : Char → Bool} (hp : p '\n' = false) {code : String}
    (hr : '\r' ∉ code.toList) :
    (Text.joinLines (keptLines code)).toList.countP p ≤ code.toList.countP p := by
  rw [← count_kept_add hp hr]
  exact Nat.le_add_right _ _

/-- All braces of the code are kept. -/
theorem braces_kept {code : String} (hr : '\r' ∉ code.toList) :
    (Text.joinLines (keptLines code)).toList.countP (· == '\x7b') =
      code.toList.countP (· == '\x7b') := by
  have hzero : ((droppedLines code).map fun l => l.toList.countP (· == '\x7b')).sum = 0 := by
    refine List.sum_eq_zero_iff_forall_eq_nat.mpr ?_
    intro n hn
    obtain ⟨l, hl, rfl⟩ := List.mem_map.mp hn
    exact List.count_eq_zero.mpr (dropped_of_mem hl).2
  rw [← count_kept_add (by decide) hr, hzero, Nat.add_zero]

/-- The code is shorter without the lines that are moved or dropped. -/
theorem kept_lighter {code : String} (hr : '\r' ∉ code.toList) (h : droppedLines code ≠ []) :
    (Text.joinLines (keptLines code)).toList.countP (· != '\n') <
      code.toList.countP (· != '\n') := by
  obtain ⟨l, ls, hl⟩ := List.exists_cons_of_ne_nil h
  have hmem : l ∈ droppedLines code := by rw [hl]; exact List.mem_cons_self
  have hne : l.toList ≠ [] := fun hnil =>
    (dropped_of_mem hmem).1 (String.toList_eq_nil_iff.mp hnil)
  have hpos : 0 < l.toList.countP (· != '\n') := by
    have hn := Text.newline_not_mem_lines_of (List.mem_of_mem_filter hmem)
    obtain ⟨c, cs, hcs⟩ := List.exists_cons_of_ne_nil hne
    rw [hcs] at hn ⊢
    refine List.countP_pos_iff.mpr ⟨c, List.mem_cons_self, ?_⟩
    rw [bne_iff_ne]
    rintro rfl
    exact hn List.mem_cons_self
  have hadd := count_kept_add (p := (· != '\n')) (by decide) hr
  rw [hl, List.map_cons, List.sum_cons] at hadd
  omega

theorem kept_of_no_dropped {code : String} (h : droppedLines code = []) :
    keptLines code = Text.linesOf code := by
  refine List.filter_eq_self.mpr ?_
  intro l hl
  by_contra hq
  have hmem : l ∈ droppedLines code :=
    List.mem_filter.mpr ⟨hl, by rw [Bool.eq_false_iff.mpr hq]; rfl⟩
  rw [h] at hmem
  cases hmem

/-- What is counted in the enclosed code, where the class counts nothing or more. -/
theorem count_enclose {p : Char → Bool} (hp : p '\n' = false) (s : String) :
    (enclose s).toList.countP p = s.toList.countP p +
      if Solution.declaresClass s then 0 else "class Solution \x7b\x7d".toList.countP p := by
  rw [enclose]
  split_ifs
  · exact Text.count_trim_newlines hp s
  · have hshell : "class Solution \x7b\n".toList = "class Solution \x7b".toList ++ ['\n'] := rfl
    have hboth : "class Solution \x7b\x7d".toList = "class Solution \x7b".toList ++ ['\x7d'] := rfl
    rw [String.toList_append, String.toList_append, List.countP_append, List.countP_append,
      Text.count_trim_newlines hp, hshell, hboth, List.countP_append, List.countP_append,
      show "\n\x7d".toList = ['\n'] ++ ['\x7d'] from rfl, List.countP_append]
    have hn : ['\n'].countP p = 0 := by simp [hp]
    omega

/-! What the body is made of. -/

/-- Nothing is counted more often in the body than in the code, the class around it apart. -/
theorem count_body_le {p : Char → Bool} (hp : p '\n' = false) {code : String}
    (hr : '\r' ∉ code.toList)
    (hshell : Solution.declaresClass (hideClass (Text.joinLines (keptLines code))) = true ∨
      "class Solution \x7b\x7d".toList.countP p = 0) :
    (ofCode code).body.toList.countP p ≤ code.toList.countP p := by
  have hthin := hide_class_thins (Text.joinLines (keptLines code))
  have hle := Nat.le_trans hthin.sublist.countP_le (count_kept_le hp hr)
  rw [body_eq, count_enclose hp]
  by_cases hd : Solution.declaresClass (hideClass (Text.joinLines (keptLines code))) = true
  · rw [if_pos hd, Nat.add_zero]
    exact hle
  · rw [if_neg hd, hshell.resolve_left hd, Nat.add_zero]
    exact hle

theorem body_no_return {code : String} (hr : '\r' ∉ code.toList) :
    '\r' ∉ (ofCode code).body.toList := by
  have hle := count_body_le (p := (· == '\r')) (by decide) hr (Or.inr (by decide))
  have hzero : code.toList.countP (· == '\r') = 0 := List.count_eq_zero.mpr hr
  exact List.count_eq_zero.mp (Nat.le_zero.mp (hzero ▸ hle))

/-- No brace of the code is lost. -/
theorem braces_le_body {code : String} (hr : '\r' ∉ code.toList) :
    code.toList.countP (· == '\x7b') ≤ (ofCode code).body.toList.countP (· == '\x7b') := by
  have hthin := (hide_class_thins (Text.joinLines (keptLines code))).braces
  rw [List.count_eq_countP, List.count_eq_countP] at hthin
  rw [body_eq, count_enclose (by decide), hthin, braces_kept hr]
  exact Nat.le_add_right _ _

theorem class_name_mem {s : String} (h : Solution.declaresClass s = true) : 'S' ∈ s.toList := by
  obtain ⟨front, _, rest, hs, ⟨word, gap, rfl, -⟩, -⟩ := Solution.declares_class_iff.mp h
  rw [hs]
  simp

/-- The body has a line that is not empty. -/
theorem body_not_empty (code : String) : ∃ c ∈ (ofCode code).body.toList, c ≠ '\n' := by
  refine ⟨'S', ?_, by decide⟩
  have hcount := count_enclose (p := (· == 'S')) (by decide)
    (hideClass (Text.joinLines (keptLines code)))
  have hpos : 0 < (ofCode code).body.toList.countP (· == 'S') := by
    rw [body_eq, hcount]
    split_ifs with hd
    · have hmem := class_name_mem hd
      exact Nat.add_pos_left (List.countP_pos_iff.mpr ⟨'S', hmem, by decide⟩) _
    · exact Nat.add_pos_right _ (by decide)
  obtain ⟨c, hc, he⟩ := List.countP_pos_iff.mp hpos
  rwa [eq_of_beq he] at hc

/-! Code that is held as it is. -/

/-- The code has no lines that are moved or dropped, declares a class that need not be hidden, and
does not begin with an empty line. -/
structure Verbatim (code : String) : Prop where
  no_import : ∀ l ∈ Text.linesOf code, importLine.occurs l = false
  no_package : ∀ l ∈ Text.linesOf code, packageLine.occurs l = false
  not_public : publicClass.occurs (Text.joinLines (Text.linesOf code)) = false
  declares : Solution.declaresClass (Text.joinLines (Text.linesOf code)) = true
  first_line : code.toList.head? ≠ some '\n'

theorem no_dropped_iff (code : String) : droppedLines code = [] ↔
    (∀ l ∈ Text.linesOf code, importLine.occurs l = false) ∧
      ∀ l ∈ Text.linesOf code, packageLine.occurs l = false := by
  rw [droppedLines, List.filter_eq_nil_iff, ← forall₂_and]
  simp

/-- Joined lines begin and end as the code does, line feeds at the end apart. -/
theorem trim_join_lines {code : String} (hr : '\r' ∉ code.toList)
    (hfirst : code.toList.head? ≠ some '\n') :
    Text.trimNewlines (Text.joinLines (Text.linesOf code)) = Text.dropTrailingNewlines code := by
  obtain ⟨w, hw, hjoin⟩ := Text.exists_join_lines hr
  rw [← Text.linesOf] at hjoin
  have hw : ∀ c ∈ w, (c == '\n') = true := fun c hc => by simp [hw c hc]
  have hhead : ∀ c ∈ (Text.joinLines (Text.linesOf code)).toList.head?, (c == '\n') = false := by
    intro c hc
    rw [beq_eq_false_iff_ne]
    rintro rfl
    refine hfirst ?_
    rw [hjoin, List.head?_append, hc]
    rfl
  rw [Text.trimNewlines, Text.dropBothWhile, Text.drop_while_of_head hhead,
    Text.dropTrailingNewlines, hjoin, Text.drop_end_while_append_of_all hw]

/-- A program holds code of this form as it is, without line feeds at its end. -/
theorem body_of_verbatim {code : String} (h : Verbatim code) (hr : '\r' ∉ code.toList) :
    (ofCode code).body = Text.dropTrailingNewlines code := by
  have hkept := kept_of_no_dropped ((no_dropped_iff code).mpr ⟨h.no_import, h.no_package⟩)
  rw [body_eq, hkept, hide_class_of_not_occurs h.not_public, enclose, if_pos h.declares,
    trim_join_lines hr h.first_line]

theorem lines_enclose {s : String} (h : Solution.declaresClass s = false) :
    ∃ ls, Text.lines (enclose s).toList = shellLine.toList :: ls := by
  have hfirst : "class Solution \x7b\n".toList = shellLine.toList ++ ['\n'] := by decide
  have hline : Text.lines (shellLine.toList ++ ['\n']) = [shellLine.toList] := by decide
  refine ⟨Text.lines (Text.trimNewlines s ++ "\n\x7d").toList, ?_⟩
  rw [enclose, h, if_neg (by decide), String.append_assoc, String.toList_append, hfirst,
    List.append_assoc, List.singleton_append, Text.lines_append_newline, hline,
    List.singleton_append]

/-- Code whose first line is that of a class is not put into another one. -/
theorem declares_class_of_first_line {code : String}
    (h : (Text.lines code.toList).head? = some shellLine.toList) :
    Solution.declaresClass (hideClass (Text.joinLines (keptLines code))) = true := by
  obtain ⟨ls, hls⟩ := List.head?_eq_some_iff.mp h
  have hline : Text.linesOf code = shellLine :: ls.map String.ofList := by
    rw [Text.linesOf, hls, List.map_cons, String.ofList_toList]
  have hkeep : (!importLine.occurs shellLine && !packageLine.occurs shellLine) = true := by
    decide
  refine declares_class_of_shell_line (hide_class_shell_line ?_)
  rw [keptLines, hline, List.filter_cons, if_pos hkeep]
  cases (ls.map String.ofList).filter fun l => !importLine.occurs l && !packageLine.occurs l with
  | nil =>
    have hone : Text.joinLines [shellLine] = shellLine := String.intercalate_singleton
    exact hone ▸ List.prefix_rfl
  | cons m ms =>
    rw [Text.to_list_join_lines_cons]
    exact List.prefix_append _ _

/-- Code is held as it is if the body begins with its first line and is no shorter. -/
theorem verbatim_of_body {code : String} (hr : '\r' ∉ code.toList)
    (hline : (Text.lines code.toList).head? = (Text.lines (ofCode code).body.toList).head?)
    (hlong : code.toList.countP (· != '\n') ≤ (ofCode code).body.toList.countP (· != '\n')) :
    Verbatim code := by
  have hdeclares : Solution.declaresClass (hideClass (Text.joinLines (keptLines code))) = true := by
    by_contra hnone
    obtain ⟨ls, hls⟩ := lines_enclose (Bool.eq_false_iff.mpr hnone)
    rw [body_eq, hls] at hline
    exact hnone (declares_class_of_first_line hline)
  rw [body_eq, count_enclose (p := (· != '\n')) (by decide), if_pos hdeclares,
    Nat.add_zero] at hlong
  have hthin := hide_class_thins (Text.joinLines (keptLines code))
  have hhidden : (hideClass (Text.joinLines (keptLines code))).toList.countP (· != '\n') ≤
      (Text.joinLines (keptLines code)).toList.countP (· != '\n') := hthin.sublist.countP_le
  have hkept : (Text.joinLines (keptLines code)).toList.countP (· != '\n') ≤
      code.toList.countP (· != '\n') := count_kept_le (by decide) hr
  -- whatever is lost makes one of the two steps from the code to the body shorter
  have hdropped : droppedLines code = [] := by
    by_contra hne
    have hlighter := kept_lighter hr hne
    omega
  have hpublic : publicClass.occurs (Text.joinLines (keptLines code)) = false := by
    by_contra hfound
    have hlighter := hide_class_lighter (Bool.not_eq_false _ ▸ hfound)
    omega
  have hlines := kept_of_no_dropped hdropped
  obtain ⟨himport, hpackage⟩ := (no_dropped_iff code).mp hdropped
  refine ⟨himport, hpackage, ?_, ?_, ?_⟩
  · rw [hlines] at hpublic
    exact hpublic
  · rw [hide_class_of_not_occurs hpublic, hlines] at hdeclares
    exact hdeclares
  · intro hfirst
    obtain ⟨cs, hcs⟩ := List.head?_eq_some_iff.mp hfirst
    have hreturn := body_no_return hr
    rw [body_eq, enclose, if_pos hdeclares] at hreturn hline
    rw [hcs, Text.lines_newline, List.head?_cons] at hline
    exact Text.first_line_trim_newlines hreturn hline.symm

end CodeJudge.JavaSource
