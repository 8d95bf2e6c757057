import CodeJudge.Proofs.Solution.Java
import CodeJudge.Proofs.Text.Tidy
/-!
What a scanner finds in the body of a solution. Hiding a class may join lines of its declaration,
and other lines may be put around the code, but a scanner that passes over the words of a class
finds in the body what it finds in the lines that are kept.
-/
namespace CodeJudge.JavaSource

open Text (Scanner isBlank)

variable {α : Type} {k : Scanner α}

/-- What stands behind the first line of a text. -/
def afterLine (cs : List Char) : List Char := (cs.dropWhile (· != '\n')).tail

theorem after_line_append {cs : List Char} (h : '\n' ∉ cs) (ds : List Char) :
    afterLine (cs ++ ds) = afterLine ds := by
  have hline : ∀ c ∈ cs, (c != '\n') = true := by
    intro c hc
    rw [bne_iff_ne]
    rintro rfl
    exact h hc
  rw [afterLine, List.dropWhile_append_of_pos hline, afterLine]

theorem after_line_newline (cs : List Char) : afterLine ('\n' :: cs) = cs := rfl

/-- Nothing is found on a line that the word begins, white space apart. -/
theorem scan_word_line {w : String} (h : k.Ignores w) (hn : '\n' ∉ w.toList) {b : List Char}
    (hb : ∀ c ∈ b, isBlank c = true) (hbn : '\n' ∉ b) (rest : List Char) :
    k.scan (b ++ (w.toList ++ rest)) = k.scan (afterLine rest) := by
  by_cases hrest : '\n' ∈ rest
  · obtain ⟨line, more, rfl, hline⟩ := List.eq_append_cons_of_mem hrest
    have hfirst : k.scan (b ++ (w.toList ++ line)) = [] :=
      h.scan_indented hb (List.prefix_append _ _) (by simp [hbn, hn, hline])
    rw [after_line_append hline, after_line_newline, ← List.append_assoc, ← List.append_assoc,
      Scanner.scan_append_newline, List.append_assoc, hfirst, List.nil_append]
  · have hwhole : k.scan (b ++ (w.toList ++ rest)) = [] :=
      h.scan_indented hb (List.prefix_append _ _) (by simp [hbn, hn, hrest])
    rw [hwhole, ← List.append_nil rest, after_line_append hrest]
    rfl

/-- Wherever words like these stand on a line, the scanner finds nothing on it. -/
structure Silent (k : Scanner α) (v : List Char) : Prop where
  first : ∀ b rest, (∀ c ∈ b, isBlank c = true) →
    k.scan (b ++ (v ++ rest)) = k.scan (afterLine rest)
  later : ∀ rest, k.scan (afterLine (v ++ rest)) = k.scan (afterLine rest)

namespace Silent

theorem word {w : String} (h : k.Ignores w) (hn : '\n' ∉ w.toList) : Silent k w.toList where
  first := by
    intro b rest hb
    -- the lines in front of the last one are white
    by_cases hbn : '\n' ∈ b
    · obtain ⟨front, last, rfl, hlast⟩ := Text.exists_last_line hbn
      have hfront : k.scan front = [] :=
        Scanner.scan_blank k fun c hc => hb c (List.mem_append_left _ hc)
      rw [List.append_assoc, List.cons_append, Scanner.scan_append_newline, hfront,
        List.nil_append]
      exact scan_word_line h hn (fun c hc => hb c (by simp [hc])) hlast rest
    · exact scan_word_line h hn hb hbn rest
  later := fun rest => by rw [after_line_append hn]

theorem scan_after_line {w : List Char} (h : Silent k w) {gap : List Char}
    (hgap : ∀ c ∈ gap, isBlank c = true) (rest : List Char) :
    k.scan (afterLine (gap ++ (w ++ rest))) = k.scan (afterLine rest) := by
  -- without a line end in the white space the words are on the line that is passed over
  by_cases hn : '\n' ∈ gap
  · obtain ⟨line, more, rfl, hline⟩ := List.eq_append_cons_of_mem hn
    rw [List.append_assoc, after_line_append hline, List.cons_append, after_line_newline]
    exact h.first more rest fun c hc => hgap c (by simp [hc])
  · rw [after_line_append hn, h.later]

/-- White space between the words may take them apart to different lines. -/
theorem append {v w gap : List Char} (hv : Silent k v) (hgap : ∀ c ∈ gap, isBlank c = true)
    (hw : Silent k w) : Silent k (v ++ (gap ++ w)) where
  first := by
    intro b rest hb
    rw [List.append_assoc, hv.first b _ hb, List.append_assoc, hw.scan_after_line hgap]
  later := by
    intro rest
    rw [List.append_assoc, hv.later, List.append_assoc, hw.scan_after_line hgap]

end Silent

/-- What begins the lines of a class that is declared or put around the code. -/
def classWords : List String := ["public", "final", "class", "Solution", "\x7d"]

/-- The scanner passes over the words of a class. -/
def PassesClass (k : Scanner α) : Prop := ∀ w ∈ classWords, k.Ignores w

namespace PassesClass

variable (h : PassesClass k)

include h

theorem silent_word {w : String} (hw : w ∈ classWords) : Silent k w.toList := by
  have hlines : ∀ w ∈ classWords, '\n' ∉ w.toList := by decide
  exact Silent.word (h w hw) (hlines w hw)

theorem silent_class {last : List Char} (hlast : IsClass last) : Silent k last := by
  obtain ⟨modifier, gap, rfl, hgap, hmodifier⟩ := hlast
  have hclass : Silent k ("class".toList ++ (gap ++ "Solution".toList)) :=
    (h.silent_word (by decide)).append hgap.2 (h.silent_word (by decide))
  rcases hmodifier with rfl | ⟨space, rfl, hspace⟩
  · exact hclass
  · rw [List.append_assoc]
    exact (h.silent_word (by decide)).append hspace.2 hclass

/-- Only the line of a declaration changes, and it shows nothing before and after. -/
theorem scan_replaced (bound : Nat) (front cs : List Char) :
    k.scan (front ++ publicClass.replacedFrom hidden bound front.getLast? cs) =
      k.scan (front ++ cs) := by
  -- the front is all that has been passed over, and it ends with a line wherever one is found
  induction bound generalizing front cs with
  | zero => rfl
  | succ bound ih =>
    cases hfind : publicClass.findFrom front.getLast? cs with
    | none => rw [Text.Pattern.replaced_from_of_none _ _ hfind]
    | some found =>
      obtain ⟨passed, b⟩ := found
      obtain ⟨space, gap, last, hcs, hhidden, hbefore, hclass, hstart, -⟩ := hidden_found hfind
      have hended : ∀ c ∈ (front ++ passed).getLast?, c = '\n' := by
        rwa [List.getLast?_append]
      have hlast := h.silent_class hclass.last
      have hpublic : Silent k ("public".toList ++ (gap ++ last)) :=
        (h.silent_word (by decide)).append hclass.gap.2 hlast
      have hbehind : (front ++ passed ++ (space ++ ("public".toList ++ (gap ++ last)))).getLast? =
          b.before := by
        rw [hbefore]
        simp only [List.getLast?_append, hclass.last.last_eq, Option.some_or]
      rw [Text.Pattern.replaced_from_of_some _ _ hfind, hhidden]
      set more := publicClass.replacedFrom hidden bound b.before b.rest with hmore
      calc
        k.scan (front ++ (passed ++ (space ++ last) ++ more)) =
            k.scan (front ++ passed ++ (space ++ (last ++ more))) := by
          simp only [List.append_assoc]
        _ = k.scan (front ++ passed) ++ k.scan (space ++ (last ++ more)) :=
          k.scan_append_of_ended hended _
        _ = k.scan (front ++ passed) ++
            k.scan (space ++ ("public".toList ++ (gap ++ last) ++ more)) := by
          rw [hlast.first space more hclass.space, hpublic.first space more hclass.space]
        _ = k.scan (front ++ passed ++ (space ++ ("public".toList ++ (gap ++ last) ++ more))) :=
          (k.scan_append_of_ended hended _).symm
        _ = k.scan (front ++ passed ++ (space ++ ("public".toList ++ (gap ++ last))) ++ more) := by
          simp only [List.append_assoc]
        _ = k.scan (front ++ cs) := by
          rw [hmore, ← hbehind, ih, hcs]
          simp only [List.append_assoc]

theorem scan_hide_class (code : String) :
    k.scan (hideClass code).toList = k.scan code.toList := by
  rw [hide_class_eq]
  exact h.scan_replaced code.length [] code.toList

theorem scan_enclose (code : String) : k.scan (enclose code).toList = k.scan code.toList := by
  rw [enclose]
  split_ifs with hclass
  · exact k.scan_trim_newlines code
  · have hshell : ("class Solution \x7b\n" ++ Text.trimNewlines code ++ "\n\x7d").toList =
        shellLine.toList ++ '\n' :: ((Text.trimNewlines code).toList ++ '\n' :: "\x7d".toList) := by
      rw [String.toList_append, String.toList_append]
      simp [shellLine]
    have hopen : k.scan shellLine.toList = [] :=
      (h "class" (by decide)).scan (by decide) (by decide)
    have hclose : k.scan "\x7d".toList = [] :=
      (h "\x7d" (by decide)).scan List.prefix_rfl (by decide)
    rw [hshell, k.scan_append_newline, k.scan_append_newline, hopen, hclose,
      k.scan_trim_newlines, List.nil_append, List.append_nil]

/-- The body shows what is found in the lines that are kept, in their order. -/
theorem scan_body (code : String) :
    k.scan (ofCode code).body.toList = (keptLines code).flatMap fun l => k.scan l.toList := by
  rw [body_eq, h.scan_enclose, h.scan_hide_class, k.scan_join_lines]

end PassesClass

/-- A line that is not one of a class is in the body exactly if it is kept. -/
theorem mem_body_iff {t : List Char} (ht : t ≠ [])
    (hclass : ∀ w ∈ classWords, ¬ w.toList <+: t) (code : String) :
    t ∈ (Text.lines (ofCode code).body.toList).map Text.trimmed ↔
      ∃ l ∈ keptLines code, Text.trimmed l.toList = t := by
  have hpasses : PassesClass (Scanner.equalTo t ht) := by
    have hwords : ∀ w ∈ classWords,
        Text.beginsVisible w.toList = true ∧ Text.trimmed w.toList = w.toList := by decide
    intro w hw
    obtain ⟨hvisible, htrimmed⟩ := hwords w hw
    exact .equal_to hvisible (by rw [htrimmed]; exact hclass w hw)
  have hline (l : String) (hl : l ∈ keptLines code) :
      () ∈ (Scanner.equalTo t ht).scan l.toList ↔ Text.trimmed l.toList = t := by
    rw [Scanner.scan_equal_to_line (Text.newline_not_mem_lines_of (List.mem_of_mem_filter hl))]
    split_ifs with heq
    · exact iff_of_true List.mem_cons_self heq
    · exact iff_of_false List.not_mem_nil heq
  have hbody := @Scanner.mem_scan_equal_to t ht (ofCode code).body.toList
  rw [← hbody, hpasses.scan_body, List.mem_flatMap]
  exact exists_congr fun l => and_congr_right (hline l)

end CodeJudge.JavaSource
