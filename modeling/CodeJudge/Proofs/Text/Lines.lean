import CodeJudge.Proofs.Text.Blank
import CodeJudge.Text.Lines
/-!
Lines of a text. Everything about them follows from one equation, that a text splits at a line
feed, and from what the end of the last line does to the lines.
-/
namespace CodeJudge.Text

/-- A line of a text, counted from one. -/
def line? (s : String) (n : Nat) : Option String := if n = 0 then none else (linesOf s)[n - 1]?

theorem line_eq (s : String) {k : Nat} (hpos : 1 ≤ k) :
    line? s k = (lines s.toList)[k - 1]?.map String.ofList := by
  rw [line?, if_neg (by omega), linesOf, List.getElem?_map]

/-- A line behind the first lines of a text. -/
theorem line_of_lines {s : String} {front rest : List (List Char)}
    (h : lines s.toList = front ++ rest) {k : Nat} (hpos : 1 ≤ k) :
    line? s (front.length + k) = rest[k - 1]?.map String.ofList := by
  rw [line_eq s (by omega), h, List.getElem?_append_right (by omega),
    show front.length + k - 1 - front.length = k - 1 by omega]

/-- A character put in front of the first line. -/
def putFirst (c : Char) : List (List Char) → List (List Char)
  | [] => [[c]]
  | l :: ls => (c :: l) :: ls

theorem put_first_append {ls : List (List Char)} (h : ls ≠ []) (c : Char)
    (ms : List (List Char)) : putFirst c (ls ++ ms) = putFirst c ls ++ ms := by
  cases ls with
  | nil => exact absurd rfl h
  | cons l ls => rfl

theorem length_put_first {ls : List (List Char)} (h : ls ≠ []) (c : Char) :
    (putFirst c ls).length = ls.length := by
  cases ls with
  | nil => exact absurd rfl h
  | cons l ls => rfl

theorem lines_cons {c : Char} {cs : List Char} (hn : c ≠ '\n')
    (hr : c = '\r' → cs.head? ≠ some '\n') : lines (c :: cs) = putFirst c (lines cs) := by
  rw [lines]
  · cases lines cs <;> rfl
  · exact hn
  · rintro ds hc rfl
    exact hr hc rfl

/-- A line feed behind the text is of no account to its first character, unless they are the two
characters of one line end. -/
theorem lines_cons_append_newline {c : Char} {cs : List Char} (hn : c ≠ '\n')
    (hr : c = '\r' → cs.head? ≠ some '\n') (hend : ¬ (c = '\r' ∧ cs = [])) (ds : List Char) :
    lines (c :: cs ++ '\n' :: ds) = putFirst c (lines (cs ++ '\n' :: ds)) := by
  refine lines_cons hn fun hc => ?_
  cases cs with
  | nil => exact absurd ⟨hc, rfl⟩ hend
  | cons d cs => exact hr hc

/-- Induction over a text by the ends of its lines and the characters inside them. -/
@[elab_as_elim]
theorem lines_induction {P : List Char → Prop} (cs : List Char) (nil : P [])
    (newline : ∀ cs, P cs → P ('\n' :: cs))
    (carriage : ∀ cs, P cs → P ('\r' :: '\n' :: cs))
    (char : ∀ c cs, c ≠ '\n' → (c = '\r' → cs.head? ≠ some '\n') → P cs → P (c :: cs)) : P cs := by
  have inside (c : Char) (cs : List Char) (hn : c = '\n' → False)
      (hr : ∀ ds, c = '\r' → cs = '\n' :: ds → False) (ih : P cs) : P (c :: cs) := by
    refine char c cs hn ?_ ih
    intro hc hhead
    obtain ⟨ds, hds⟩ := List.head?_eq_some_iff.mp hhead
    exact hr ds hc hds
  induction cs using lines.induct with
  | case1 => exact nil
  | case2 cs ih => exact newline cs ih
  | case3 cs ih => exact carriage cs ih
  | case4 c cs hn hr _ ih => exact inside c cs hn hr ih
  | case5 c cs hn hr l ls _ ih => exact inside c cs hn hr ih

theorem lines_ne_nil {cs : List Char} (h : cs ≠ []) : lines cs ≠ [] := by
  induction cs using lines_induction with
  | nil => exact absurd rfl h
  | newline cs => simp [lines]
  | carriage cs => simp [lines]
  | char c cs hn hr ih =>
    rw [lines_cons hn hr]
    cases lines cs <;> simp [putFirst]

/-- A text splits at a line feed. -/
theorem lines_append_newline (cs ds : List Char) :
    lines (cs ++ '\n' :: ds) = lines (cs ++ ['\n']) ++ lines ds := by
  induction cs using lines_induction with
  | nil => simp [lines]
  | newline cs ih => simp [lines, ih]
  | carriage cs ih => simp [lines, ih]
  | char c cs hn hr ih =>
    by_cases hend : c = '\r' ∧ cs = []
    · obtain ⟨rfl, rfl⟩ := hend
      simp [lines]
    · rw [lines_cons_append_newline hn hr hend, lines_cons_append_newline hn hr hend, ih,
        put_first_append (lines_ne_nil (by simp))]

/-- A line end behind a text ends its last line, which may take a carriage return from it, or makes
an empty one. -/
theorem lines_ended (cs : List Char) : lines (cs ++ ['\n']) = lines cs ∨
    lines (cs ++ ['\n']) = lines cs ++ [[]] ∨
    ∃ front l, lines cs = front ++ [l ++ ['\r']] ∧ lines (cs ++ ['\n']) = front ++ [l] := by
  -- what happens to the last line is not changed by a line in front of the others
  have hfront (m : List Char) {ls ms : List (List Char)} (h : ms = ls ∨ ms = ls ++ [[]] ∨
      ∃ front l, ls = front ++ [l ++ ['\r']] ∧ ms = front ++ [l]) :
      m :: ms = m :: ls ∨ m :: ms = (m :: ls) ++ [[]] ∨
        ∃ front l, m :: ls = front ++ [l ++ ['\r']] ∧ m :: ms = front ++ [l] := by
    rcases h with rfl | rfl | ⟨front, l, rfl, rfl⟩
    · exact .inl rfl
    · exact .inr (.inl rfl)
    · exact .inr (.inr ⟨m :: front, l, rfl, rfl⟩)
  induction cs using lines_induction with
  | nil => exact .inr (.inl rfl)
  | newline cs ih =>
    rw [List.cons_append, lines_newline, lines_newline]
    exact hfront [] ih
  | carriage cs ih =>
    have hends (ds : List Char) : lines ('\r' :: '\n' :: ds) = [] :: lines ds := by rw [lines]
    rw [List.cons_append, List.cons_append, hends, hends]
    exact hfront [] ih
  | char c cs hn hr ih =>
    by_cases hend : c = '\r' ∧ cs = []
    · obtain ⟨rfl, rfl⟩ := hend
      exact .inr (.inr ⟨[], [], rfl, rfl⟩)
    · rw [lines_cons_append_newline hn hr hend, lines_cons hn hr]
      by_cases hne : lines cs = []
      · have hnil : cs = [] := by
          by_contra h
          exact lines_ne_nil h hne
        rw [hnil]
        exact .inl rfl
      · rcases ih with h | h | ⟨front, l, h, hend⟩
        · exact .inl (by rw [h])
        · exact .inr (.inl (by rw [h, put_first_append hne]))
        · rw [h, hend]
          cases front with
          | nil => exact .inr (.inr ⟨[], c :: l, rfl, rfl⟩)
          | cons m front => exact .inr (.inr ⟨(c :: m) :: front, l, rfl, rfl⟩)

/-- The text has a last line, and that line has no end. -/
def Unended (cs : List Char) : Prop := cs ≠ [] ∧ cs.getLast? ≠ some '\n'

theorem Unended.tail {c : Char} {cs : List Char} (h : Unended (c :: cs)) (hne : cs ≠ []) :
    Unended cs := by
  refine ⟨hne, ?_⟩
  rw [← List.getLast?_append_of_ne_nil [c] hne]
  exact h.2

theorem Unended.ne_nil_of_newline {cs : List Char} (h : Unended ('\n' :: cs)) : cs ≠ [] := by
  rintro rfl
  exact h.2 rfl

/-- The end of the last line makes no line, and it changes no line unless it takes a carriage
return. -/
theorem lines_concat {cs : List Char} (h : Unended cs) :
    (lines (cs ++ ['\n'])).length = (lines cs).length ∧
      (cs.getLast? ≠ some '\r' → lines (cs ++ ['\n']) = lines cs) := by
  induction cs using lines_induction with
  | nil => exact absurd rfl h.1
  | newline cs ih =>
    have hne := h.ne_nil_of_newline
    obtain ⟨hlen, heq⟩ := ih (h.tail hne)
    refine ⟨by simp [lines, hlen], fun hlast => ?_⟩
    rw [← List.singleton_append, List.getLast?_append_of_ne_nil _ hne] at hlast
    simp [lines, heq hlast]
  | carriage cs ih =>
    have hne := (h.tail (by simp)).ne_nil_of_newline
    obtain ⟨hlen, heq⟩ := ih ((h.tail (by simp)).tail hne)
    refine ⟨by simp [lines, hlen], fun hlast => ?_⟩
    rw [show '\r' :: '\n' :: cs = ['\r', '\n'] ++ cs from rfl,
      List.getLast?_append_of_ne_nil _ hne] at hlast
    simp [lines, heq hlast]
  | char c cs hn hr ih =>
    -- the line feed may belong to the carriage return in front of it only if that is all there is
    by_cases hend : c = '\r' ∧ cs = []
    · obtain ⟨rfl, rfl⟩ := hend
      exact ⟨rfl, fun hlast => absurd rfl hlast⟩
    · rw [lines_cons_append_newline hn hr hend, lines_cons hn hr]
      cases cs with
      | nil => exact ⟨rfl, fun _ => rfl⟩
      | cons d cs =>
        obtain ⟨hlen, heq⟩ := ih (h.tail (by simp))
        refine ⟨?_, fun hlast => by rw [heq hlast]⟩
        rw [length_put_first (lines_ne_nil (by simp)), length_put_first (lines_ne_nil (by simp)),
          hlen]

/-- The lines of a text that goes on with a line feed begin with its lines. -/
theorem exists_lines_append {cs rest : List Char} (h : Unended cs) (hr : cs.getLast? ≠ some '\r')
    (hrest : ∀ c ∈ rest.head?, c = '\n') : ∃ more, lines (cs ++ rest) = lines cs ++ more := by
  cases rest with
  | nil => exact ⟨[], by simp⟩
  | cons c rest =>
    obtain rfl : c = '\n' := hrest c rfl
    exact ⟨lines rest, by rw [lines_append_newline, (lines_concat h).2 hr]⟩

/-- Sections with an empty line behind each take their lines and one more for each. -/
theorem lines_sections (xs : List String) (hx : ∀ x ∈ xs, Unended x.toList) (rest : List Char) :
    ∃ front : List (List Char), front.length = (xs.map lineCount).sum + xs.length ∧
      lines (xs.flatMap (fun x => x.toList ++ ['\n', '\n']) ++ rest) = front ++ lines rest := by
  induction xs with
  | nil => exact ⟨[], rfl, rfl⟩
  | cons x xs ih =>
    obtain ⟨front, hlen, hlines⟩ := ih fun y hy => hx y (by simp [hy])
    refine ⟨lines (x.toList ++ ['\n']) ++ [] :: front, ?_, ?_⟩
    · simp only [List.length_append, List.length_cons, (lines_concat (hx x (by simp))).1, hlen,
        List.map_cons, List.sum_cons, lineCount]
      omega
    · rw [List.flatMap_cons, List.append_assoc, List.append_assoc, List.cons_append,
        lines_append_newline, List.singleton_append, lines_newline, hlines]
      simp

theorem drop_trailing_newlines_split (s : String) :
    ∃ w, (∀ c ∈ w, c = '\n') ∧ s.toList = (dropTrailingNewlines s).toList ++ w := by
  obtain ⟨w, hw, hs⟩ := drop_end_while_append (· == '\n') s.toList
  refine ⟨w, fun c hc => by simpa using hw c hc, ?_⟩
  rw [dropTrailingNewlines, String.toList_ofList]
  exact hs

/-- What a text begins with is not dropped at its end if it has no line feed. -/
theorem prefix_drop_trailing_newlines {start : List Char} {s : String} (hn : '\n' ∉ start)
    (h : start <+: s.toList) : start <+: (dropTrailingNewlines s).toList := by
  obtain ⟨w, hw, hsplit⟩ := drop_trailing_newlines_split s
  have hdropped : (dropTrailingNewlines s).toList <+: s.toList := ⟨w, hsplit.symm⟩
  rcases List.prefix_or_prefix_of_prefix h hdropped with hle | ⟨y, hy⟩
  · exact hle
  · -- otherwise the start goes on with what is dropped
    obtain ⟨rest, hrest⟩ := h
    rw [hsplit, ← hy, List.append_assoc] at hrest
    have hyw : y ++ rest = w := List.append_cancel_left hrest
    cases y with
    | nil => exact ⟨[], by rw [List.append_nil, ← hy, List.append_nil]⟩
    | cons c y =>
      have hc : c = '\n' := hw c (by rw [← hyw]; simp)
      have hmem : '\n' ∈ start := by rw [← hy, hc]; simp
      exact absurd hmem hn

theorem drop_trailing_newlines_idem (s : String) :
    dropTrailingNewlines (dropTrailingNewlines s) = dropTrailingNewlines s := by
  rw [dropTrailingNewlines, dropTrailingNewlines, String.toList_ofList, drop_end_while_eq,
    drop_end_while_eq, List.rdropWhile_idempotent]

theorem unended_drop_trailing_newlines {s : String} (h : ∃ c ∈ s.toList, c ≠ '\n') :
    Unended (dropTrailingNewlines s).toList := by
  rw [dropTrailingNewlines, String.toList_ofList, drop_end_while_eq]
  have hne : s.toList.rdropWhile (· == '\n') ≠ [] := by
    obtain ⟨c, hc, hn⟩ := h
    intro hnil
    exact hn (by simpa using List.rdropWhile_eq_nil_iff.mp hnil c hc)
  refine ⟨hne, ?_⟩
  rw [List.getLast?_eq_getLast_of_ne_nil hne]
  simpa using List.rdropWhile_last_not _ _ hne

theorem no_return_drop_trailing_newlines {s : String} (hr : '\r' ∉ s.toList) :
    '\r' ∉ (dropTrailingNewlines s).toList := by
  obtain ⟨w, -, hsplit⟩ := drop_trailing_newlines_split s
  rw [hsplit] at hr
  exact fun hmem => hr (List.mem_append_left _ hmem)

theorem last_drop_trailing_newlines {s : String} (hr : '\r' ∉ s.toList) :
    (dropTrailingNewlines s).toList.getLast? ≠ some '\r' :=
  fun hlast => no_return_drop_trailing_newlines hr (List.mem_of_getLast? hlast)

/-- The lines of a text that goes on with line feeds only begin with its lines. -/
theorem exists_lines_drop_trailing {s : String} (hr : '\r' ∉ s.toList)
    (h : ∃ c ∈ s.toList, c ≠ '\n') :
    ∃ blank, lines s.toList = lines (dropTrailingNewlines s).toList ++ blank := by
  obtain ⟨w, hw, hsplit⟩ := drop_trailing_newlines_split s
  have hlast := last_drop_trailing_newlines hr
  have hblank : ∀ c ∈ w.head?, c = '\n' := fun c hc => hw c (List.mem_of_mem_head? hc)
  rw [hsplit]
  exact exists_lines_append (unended_drop_trailing_newlines h) hlast hblank

theorem to_list_join_lines_cons (l m : String) (ls : List String) :
    (joinLines (l :: m :: ls)).toList = l.toList ++ '\n' :: (joinLines (m :: ls)).toList := by
  rw [joinLines, String.intercalate_cons_of_ne_nil (by simp), joinLines]
  simp

/-- One more line comes behind the same text, whatever it is. -/
theorem exists_join_concat (ls : List String) : ∃ front,
    (∀ l, (joinLines (ls ++ [l])).toList = front ++ l.toList) ∧
      (front = (joinLines ls).toList ++ ['\n'] ∨ front = [] ∧ ls = []) := by
  induction ls with
  | nil => exact ⟨[], fun l => by simp [joinLines], .inr ⟨rfl, rfl⟩⟩
  | cons m ls ih =>
    obtain ⟨front, hfront, hjoin⟩ := ih
    cases ls with
    | nil => exact ⟨m.toList ++ ['\n'], fun l => by simp [joinLines], .inl (by simp [joinLines])⟩
    | cons n ls =>
      refine ⟨m.toList ++ '\n' :: front, fun l => ?_, .inl ?_⟩
      · rw [List.cons_append, List.cons_append, to_list_join_lines_cons, ← List.cons_append, hfront,
          List.append_assoc, List.cons_append]
      · rw [hjoin.resolve_right (by simp), to_list_join_lines_cons, List.append_assoc,
          List.cons_append]

theorem exists_ne_newline_of_line {s : String} {k : Nat} (hpos : 1 ≤ k)
    (hk : k ≤ lineCount (dropTrailingNewlines s)) : ∃ c ∈ s.toList, c ≠ '\n' := by
  by_contra hall
  have hnil : s.toList.rdropWhile (· == '\n') = [] :=
    List.rdropWhile_eq_nil_iff.mpr (by simpa using hall)
  rw [lineCount, dropTrailingNewlines, drop_end_while_eq, hnil] at hk
  simp [lines] at hk
  omega

/-- Line feeds at the end change no line in front of them. -/
theorem line_drop_trailing_newlines {s : String} (hr : '\r' ∉ s.toList) {k : Nat} (hpos : 1 ≤ k)
    (hk : k ≤ lineCount (dropTrailingNewlines s)) :
    line? (dropTrailingNewlines s) k = line? s k := by
  obtain ⟨blank, hblank⟩ := exists_lines_drop_trailing hr (exists_ne_newline_of_line hpos hk)
  rw [lineCount] at hk
  rw [line_eq _ hpos, line_eq _ hpos, hblank, List.getElem?_append_left (by omega)]

/-- Without a carriage return a text is its lines joined, apart from line feeds at its end. -/
theorem exists_join_lines {cs : List Char} (hr : '\r' ∉ cs) :
    ∃ w, (∀ c ∈ w, c = '\n') ∧ cs = (joinLines ((lines cs).map String.ofList)).toList ++ w := by
  induction cs using lines_induction with
  | nil => exact ⟨[], by simp, rfl⟩
  | newline cs ih =>
    obtain ⟨w, hw, hcs⟩ := ih fun h => hr (by simp [h])
    rw [lines_newline, List.map_cons]
    cases hl : (lines cs).map String.ofList with
    | nil =>
      rw [hl] at hcs
      refine ⟨'\n' :: w, by simpa using hw, ?_⟩
      rw [hcs]
      simp [joinLines]
    | cons l ls =>
      rw [hl] at hcs
      refine ⟨w, hw, ?_⟩
      rw [to_list_join_lines_cons]
      conv_lhs => rw [hcs]
      simp
  | carriage cs => simp at hr
  | char c cs hn hcr ih =>
    obtain ⟨w, hw, hcs⟩ := ih fun h => hr (by simp [h])
    refine ⟨w, hw, ?_⟩
    rw [lines_cons hn hcr]
    conv_lhs => rw [hcs]
    rcases lines cs with _ | ⟨l, _ | ⟨m, ms⟩⟩
    · simp [putFirst, joinLines]
    · simp [putFirst, joinLines]
    · simp only [putFirst, List.map_cons, to_list_join_lines_cons]
      simp

/-! What lines hold. -/

theorem newline_not_mem_lines {cs l : List Char} (h : l ∈ lines cs) : '\n' ∉ l := by
  induction cs using lines_induction generalizing l with
  | nil => cases h
  | newline cs ih =>
    rcases List.mem_cons.mp h with rfl | h
    · exact List.not_mem_nil
    · exact ih h
  | carriage cs ih =>
    rcases List.mem_cons.mp h with rfl | h
    · exact List.not_mem_nil
    · exact ih h
  | char c cs hn hr ih =>
    rw [lines_cons hn hr] at h
    cases hcs : lines cs with
    | nil =>
      rw [hcs] at h
      rw [List.mem_singleton.mp h]
      simpa using hn.symm
    | cons m ms =>
      rw [hcs] at h ih
      rcases List.mem_cons.mp h with rfl | h
      · simp only [List.mem_cons, not_or]
        exact ⟨hn.symm, ih List.mem_cons_self⟩
      · exact ih (List.mem_cons_of_mem m h)

theorem newline_not_mem_lines_of {s l : String} (h : l ∈ linesOf s) : '\n' ∉ l.toList := by
  obtain ⟨cs, hcs, rfl⟩ := List.mem_map.mp h
  rw [String.toList_ofList]
  exact newline_not_mem_lines hcs

theorem map_trim_lines_of (s : String) :
    (linesOf s).map trim = ((lines s.toList).map trimmed).map String.ofList := by
  simp [linesOf, trim]

/-- A character that belongs to no line end stands in a line. -/
theorem exists_line_of_mem {c : Char} (hn : c ≠ '\n') (hr : c ≠ '\r') {cs : List Char}
    (h : c ∈ cs) : ∃ l ∈ lines cs, c ∈ l := by
  induction cs using lines_induction with
  | nil => cases h
  | newline cs ih =>
    obtain ⟨l, hl, hc⟩ := ih ((List.mem_cons.mp h).resolve_left hn)
    exact ⟨l, by rw [lines_newline]; exact List.mem_cons_of_mem _ hl, hc⟩
  | carriage cs ih =>
    have hcs := (List.mem_cons.mp ((List.mem_cons.mp h).resolve_left hr)).resolve_left hn
    obtain ⟨l, hl, hc⟩ := ih hcs
    exact ⟨l, by rw [lines]; exact List.mem_cons_of_mem _ hl, hc⟩
  | char d cs hdn hdr ih =>
    rw [lines_cons hdn hdr]
    rcases List.mem_cons.mp h with rfl | h
    · cases lines cs with
      | nil => exact ⟨[c], List.mem_cons_self, List.mem_cons_self⟩
      | cons m ms => exact ⟨c :: m, List.mem_cons_self, List.mem_cons_self⟩
    · obtain ⟨l, hl, hc⟩ := ih h
      cases hcs : lines cs with
      | nil =>
        rw [hcs] at hl
        cases hl
      | cons m ms =>
        rw [hcs] at hl
        rcases List.mem_cons.mp hl with rfl | hl
        · exact ⟨d :: l, List.mem_cons_self, List.mem_cons_of_mem d hc⟩
        · exact ⟨l, List.mem_cons_of_mem _ hl, hc⟩

/-- What is counted in a text is counted in its lines, line ends apart. -/
theorem count_lines {p : Char → Bool} (hp : p '\n' = false) {cs : List Char}
    (hr : '\r' ∈ cs → p '\r' = false) : ((lines cs).map (List.countP p)).sum = cs.countP p := by
  induction cs using lines_induction with
  | nil => rfl
  | newline cs ih =>
    rw [lines_newline, List.map_cons, List.sum_cons, ih fun h => hr (by simp [h])]
    simp [hp]
  | carriage cs ih =>
    have hreturn := hr List.mem_cons_self
    rw [lines, List.map_cons, List.sum_cons, ih fun _ => hreturn]
    simp [hp, hreturn]
  | char c cs hn hcr ih =>
    have hsum := ih fun h => hr (by simp [h])
    rw [lines_cons hn hcr, List.countP_cons, ← hsum]
    cases lines cs with
    | nil => simp [putFirst, List.countP_cons]
    | cons l ls =>
      simp only [putFirst, List.map_cons, List.sum_cons, List.countP_cons]
      omega

theorem count_join_lines {p : Char → Bool} (hp : p '\n' = false) (ls : List String) :
    (joinLines ls).toList.countP p = (ls.map fun l => l.toList.countP p).sum := by
  induction ls with
  | nil => rfl
  | cons l ls ih =>
    cases ls with
    | nil => simp [joinLines]
    | cons m ms =>
      rw [to_list_join_lines_cons, List.countP_append, List.countP_cons, ih]
      simp [hp]

/-- What is counted is no white space, so indentation adds nothing. -/
theorem count_indent {p : Char → Bool} (hp : ∀ c, p c = true → isBlank c = false) (s : String)
    (width : Nat) : (indent s width).toList.countP p = s.toList.countP p := by
  have hblank : ∀ c, isBlank c = true → p c = false := by
    intro c hc
    by_contra h
    rw [hp c (Bool.not_eq_false _ ▸ h)] at hc
    cases hc
  have hline (l : List Char) : (if (String.ofList l).isEmpty then "" else
      String.ofList (List.replicate width ' ') ++ String.ofList l).toList.countP p =
        l.countP p := by
    split_ifs with hempty
    · rw [String.isEmpty_iff, String.ofList_eq_empty_iff] at hempty
      rw [hempty]
      rfl
    · rw [String.toList_append, String.toList_ofList, String.toList_ofList, List.countP_append,
        List.countP_replicate, hblank ' ' isBlank_space]
      simp
  rw [indent, count_join_lines (hblank '\n' (by decide)), linesOf, List.map_map, List.map_map]
  simp only [Function.comp_def, hline]
  exact count_lines (hblank '\n' (by decide)) fun _ => hblank '\r' (by decide)

theorem count_drop_end_while {p q : Char → Bool} (hpq : ∀ c, q c = true → p c = false)
    (cs : List Char) : (dropEndWhile q cs).countP p = cs.countP p := by
  obtain ⟨w, hw, hcs⟩ := drop_end_while_append q cs
  have hzero : w.countP p = 0 := List.countP_eq_zero.mpr fun c hc => by simp [hpq c (hw c hc)]
  conv_rhs => rw [hcs, List.countP_append, hzero, Nat.add_zero]

theorem count_drop_while {p q : Char → Bool} (hpq : ∀ c, q c = true → p c = false)
    (cs : List Char) : (cs.dropWhile q).countP p = cs.countP p := by
  have hzero : (cs.takeWhile q).countP p = 0 :=
    List.countP_eq_zero.mpr fun c hc => by simp [hpq c (List.mem_takeWhile_imp hc)]
  conv_rhs => rw [← List.takeWhile_append_dropWhile (p := q) (l := cs), List.countP_append, hzero,
    Nat.zero_add]

theorem count_drop_trailing_newlines {p : Char → Bool} (hp : p '\n' = false) (s : String) :
    (dropTrailingNewlines s).toList.countP p = s.toList.countP p := by
  rw [dropTrailingNewlines, String.toList_ofList]
  exact count_drop_end_while (fun c hc => by rw [eq_of_beq hc, hp]) s.toList

theorem count_trim_newlines {p : Char → Bool} (hp : p '\n' = false) (s : String) :
    (trimNewlines s).toList.countP p = s.toList.countP p := by
  have hpq : ∀ c : Char, (c == '\n') = true → p c = false := fun c hc => by rw [eq_of_beq hc, hp]
  rw [trimNewlines, String.toList_ofList, dropBothWhile, count_drop_end_while hpq,
    count_drop_while hpq]

/-- A last line that has no end is not empty. -/
theorem last_line_ne_nil {cs : List Char} (h : Unended cs) : (lines cs).getLast? ≠ some [] := by
  induction cs using lines_induction with
  | nil => exact absurd rfl h.1
  | newline cs ih =>
    have hne := h.ne_nil_of_newline
    rw [lines_newline, ← List.singleton_append,
      List.getLast?_append_of_ne_nil _ (lines_ne_nil hne)]
    exact ih (h.tail hne)
  | carriage cs ih =>
    have hne := (h.tail (by simp)).ne_nil_of_newline
    rw [lines, ← List.singleton_append, List.getLast?_append_of_ne_nil _ (lines_ne_nil hne)]
    exact ih ((h.tail (by simp)).tail hne)
  | char c cs hn hr ih =>
    rw [lines_cons hn hr]
    cases hcs : lines cs with
    | nil => simp [putFirst]
    | cons l ls =>
      have hne : cs ≠ [] := by
        rintro rfl
        cases hcs
      have hlast := ih (h.tail hne)
      rw [hcs] at hlast
      cases ls with
      | nil => simp [putFirst]
      | cons m ms => simpa [putFirst] using hlast

/-- The first line of a text that begins within a line begins in that way. -/
theorem lines_of_prefix {start : List Char} (hne : start ≠ []) (hn : '\n' ∉ start)
    (hr : '\r' ∉ start) (rest : List Char) :
    ∃ l ls, lines (start ++ rest) = (start ++ l) :: ls := by
  induction start with
  | nil => exact absurd rfl hne
  | cons c cs ih =>
    simp only [List.mem_cons, not_or] at hn hr
    rw [List.cons_append, lines_cons (Ne.symm hn.1) fun h => absurd h (Ne.symm hr.1)]
    by_cases hcs : cs = []
    · subst hcs
      rw [List.nil_append]
      cases lines rest with
      | nil => exact ⟨[], [], rfl⟩
      | cons m ms => exact ⟨m, ms, rfl⟩
    · obtain ⟨l, ls, hl⟩ := ih hcs hn.2 hr.2
      exact ⟨l, ls, by rw [hl]; rfl⟩

/-- A text without line feeds at its ends does not begin with an empty line. -/
theorem first_line_trim_newlines {s : String} (hr : '\r' ∉ (trimNewlines s).toList) :
    (lines (trimNewlines s).toList).head? ≠ some [] := by
  rw [trimNewlines, String.toList_ofList, dropBothWhile] at hr ⊢
  obtain ⟨w, -, hsplit⟩ := drop_end_while_append (· == '\n') (s.toList.dropWhile (· == '\n'))
  cases hcs : dropEndWhile (· == '\n') (s.toList.dropWhile (· == '\n')) with
  | nil => simp [lines]
  | cons c cs =>
    have hhead := List.head?_dropWhile_not (· == '\n') s.toList
    rw [hcs] at hsplit hr
    rw [hsplit] at hhead
    have hn : c ≠ '\n' := by simpa using hhead
    have hc : c ≠ '\r' := fun h => hr (by simp [h])
    rw [lines_cons hn fun h => absurd h hc]
    cases lines cs <;> simp [putFirst]

/-! Texts of which one has the first lines of the other. -/

theorem first_line_of_prefix {s t : String} (hs : ∃ c ∈ s.toList, c ≠ '\n')
    (ht : ∃ c ∈ t.toList, c ≠ '\n') (hsr : '\r' ∉ s.toList) (htr : '\r' ∉ t.toList)
    (h : lines (dropTrailingNewlines s).toList <+: lines (dropTrailingNewlines t).toList) :
    (lines s.toList).head? = (lines t.toList).head? := by
  have hne : lines (dropTrailingNewlines s).toList ≠ [] :=
    lines_ne_nil (unended_drop_trailing_newlines hs).1
  obtain ⟨blank, hblank⟩ := exists_lines_drop_trailing hsr hs
  obtain ⟨more, hmore⟩ := exists_lines_drop_trailing htr ht
  obtain ⟨l, ls, hl⟩ := List.exists_cons_of_ne_nil hne
  obtain ⟨ms, hms⟩ := h
  rw [hblank, hmore, ← hms, hl]
  rfl

theorem count_le_of_prefix {s t : String} (hsr : '\r' ∉ s.toList) (htr : '\r' ∉ t.toList)
    (h : lines (dropTrailingNewlines s).toList <+: lines (dropTrailingNewlines t).toList)
    {p : Char → Bool} (hp : p '\n' = false) : s.toList.countP p ≤ t.toList.countP p := by
  obtain ⟨ms, hms⟩ := h
  rw [← count_drop_trailing_newlines hp s, ← count_drop_trailing_newlines hp t,
    ← count_lines hp fun h => absurd h (no_return_drop_trailing_newlines hsr),
    ← count_lines hp fun h => absurd h (no_return_drop_trailing_newlines htr), ← hms,
    List.map_append, List.sum_append]
  exact Nat.le_add_right _ _

end CodeJudge.Text
