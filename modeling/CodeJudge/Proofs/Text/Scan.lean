import CodeJudge.Proofs.Text.Blank
import CodeJudge.Proofs.Text.Lines
/-!
Scanning a text line by line. A scanner looks at how deep a line is indented and at what stands on
it between white space. In lines that are joined it finds what it finds in each, and in an indented
text it finds what it would find that much deeper.
-/
namespace CodeJudge.Text

/-! Texts of one line. -/

theorem lines_line {l : List Char} (hne : l ≠ []) (h : '\n' ∉ l) : lines l = [l] := by
  induction l with
  | nil => exact absurd rfl hne
  | cons c l ih =>
    rw [List.mem_cons, not_or] at h
    have hnext : c = '\r' → l.head? ≠ some '\n' :=
      fun _ hhead => h.2 (List.mem_of_mem_head? hhead)
    rw [lines_cons (Ne.symm h.1) hnext]
    cases l with
    | nil => rfl
    | cons d l => rw [ih (by simp) h.2, putFirst]

/-- The end of a line takes a carriage return with it. -/
theorem lines_line_end {l : List Char} (h : '\n' ∉ l) :
    lines (l ++ ['\n']) = [l] ∨ ∃ m, l = m ++ ['\r'] ∧ lines (l ++ ['\n']) = [m] := by
  induction l with
  | nil => exact Or.inl rfl
  | cons c l ih =>
    rw [List.mem_cons, not_or] at h
    -- only a carriage return right in front of the line feed is part of the end
    by_cases hend : c = '\r' ∧ l = []
    · obtain ⟨rfl, rfl⟩ := hend
      exact Or.inr ⟨[], rfl, rfl⟩
    · have hnext : c = '\r' → (l ++ ['\n']).head? ≠ some '\n' := by
        intro hc hhead
        cases l with
        | nil => exact hend ⟨hc, rfl⟩
        | cons d l => exact h.2 (List.mem_of_mem_head? hhead)
      rw [List.cons_append, lines_cons (Ne.symm h.1) hnext]
      rcases ih h.2 with hl | ⟨m, rfl, hl⟩
      · exact Or.inl (by rw [hl, putFirst])
      · exact Or.inr ⟨c :: m, rfl, by rw [hl, putFirst]⟩

theorem exists_last_line {cs : List Char} (h : '\n' ∈ cs) :
    ∃ front last, cs = front ++ '\n' :: last ∧ '\n' ∉ last := by
  obtain ⟨as, bs, hsplit, hfree⟩ := List.eq_append_cons_of_mem (List.mem_reverse.mpr h)
  refine ⟨bs.reverse, as.reverse, ?_, by simpa using hfree⟩
  have hcs := congrArg List.reverse hsplit
  simpa using hcs

theorem newline_not_mem_append {s t : String} (hs : '\n' ∉ s.toList) (ht : '\n' ∉ t.toList) :
    '\n' ∉ (s ++ t).toList := by
  rw [String.toList_append, List.mem_append, not_or]
  exact ⟨hs, ht⟩

theorem prefix_text_append {w s : String} (h : w.toList <+: s.toList) (t : String) :
    w.toList <+: (s ++ t).toList := by
  rw [String.toList_append]
  exact h.trans (List.prefix_append _ _)

theorem to_list_two_lines (s t : String) :
    (s ++ "\n" ++ t).toList = s.toList ++ '\n' :: t.toList := by
  simp

/-! How deep a line is indented. -/

/-- The number of spaces that a line begins with. -/
def depth (l : List Char) : Nat := (l.takeWhile (· == ' ')).length

theorem depth_return (l : List Char) : depth (l ++ ['\r']) = depth l := by
  rw [depth, depth, List.takeWhile_append]
  split_ifs with hall
  · rw [hall]
    simp
  · rfl

theorem trimmed_return (l : List Char) : trimmed (l ++ ['\r']) = trimmed l :=
  trimmed_append_blank (List.forall_mem_singleton.mpr rfl) l

theorem depth_padded (width : Nat) (l : List Char) :
    depth (List.replicate width ' ' ++ l) = depth l + width := by
  have hspaces : ∀ c ∈ List.replicate width ' ', (c == ' ') = true := by
    intro c hc
    rw [List.eq_of_mem_replicate hc]
    rfl
  rw [depth, depth, List.takeWhile_append_of_pos hspaces, List.length_append,
    List.length_replicate, Nat.add_comm]

theorem trimmed_padded (width : Nat) (l : List Char) :
    trimmed (List.replicate width ' ' ++ l) = trimmed l := by
  apply trimmed_blank_append
  intro c hc
  rw [List.eq_of_mem_replicate hc]
  exact isBlank_space

/-- A word without white space at its ends stays in front of the line. -/
theorem trimmed_word_append {w : List Char} (hne : w ≠ [])
    (hhead : ∀ c ∈ w.head?, isBlank c = false) (hlast : ∀ c ∈ w.getLast?, isBlank c = false)
    (cs : List Char) : trimmed (w ++ cs) = w ++ dropEndWhile isBlank cs := by
  have hfront : (w ++ cs).dropWhile isBlank = w ++ cs :=
    drop_while_of_head (by rwa [List.head?_append_of_ne_nil w hne])
  have hback : w.reverse.dropWhile isBlank = w.reverse :=
    drop_while_of_head (by rwa [List.head?_reverse])
  rw [trimmed, dropBothWhile, hfront, dropEndWhile, List.reverse_append, List.dropWhile_append]
  split_ifs with hblank
  · rw [hback, List.reverse_reverse, dropEndWhile, List.isEmpty_iff.mp hblank]
    simp
  · rw [List.reverse_append, List.reverse_reverse, dropEndWhile]

def beginsVisible (cs : List Char) : Bool := cs.head?.any fun c => !isBlank c

def endsVisible (cs : List Char) : Bool := cs.getLast?.any fun c => !isBlank c

theorem exists_of_begins_visible {cs : List Char} (h : beginsVisible cs = true) :
    ∃ c ∈ cs.head?, isBlank c = false := by
  rw [beginsVisible, Option.any_eq_true] at h
  simpa using h

theorem exists_of_ends_visible {cs : List Char} (h : endsVisible cs = true) :
    ∃ c ∈ cs.getLast?, isBlank c = false := by
  rw [endsVisible, Option.any_eq_true] at h
  simpa using h

theorem trimmed_whole {cs : List Char} (hhead : beginsVisible cs = true)
    (hlast : endsVisible cs = true) : trimmed cs = cs := by
  obtain ⟨c, hc, hvisible⟩ := exists_of_begins_visible hhead
  obtain ⟨d, hd, hend⟩ := exists_of_ends_visible hlast
  have hnone : ∀ a ∈ ([] : List Char), isBlank a = true := by simp
  have hkept := @trimmed_append [] cs [] hnone hnone
    (fun a ha => Option.mem_unique ha hc ▸ hvisible) (fun a ha => Option.mem_unique ha hd ▸ hend)
  rwa [List.nil_append, List.append_nil] at hkept

/-- A line that begins with a visible character begins with what its front is trimmed to. -/
theorem exists_trimmed_append {cs : List Char} (h : beginsVisible cs = true) (ds : List Char) :
    ∃ es, trimmed (cs ++ ds) = trimmed cs ++ es := by
  obtain ⟨c, hc, hvisible⟩ := exists_of_begins_visible h
  have hfront : cs.dropWhile isBlank = cs := by
    apply drop_while_of_head
    intro d hd
    rwa [Option.mem_unique hd hc]
  have htrimmed : trimmed cs = cs.rdropWhile isBlank := by
    rw [trimmed, dropBothWhile, hfront, drop_end_while_eq]
  -- the white space behind the front may turn out to stand inside the line
  obtain ⟨w, -, hsplit⟩ := drop_end_while_append isBlank cs
  rw [drop_end_while_eq, ← htrimmed] at hsplit
  have hne : trimmed cs ≠ [] := by
    intro hnil
    rw [htrimmed, List.rdropWhile_eq_nil_iff] at hnil
    exact absurd (hnil c (List.mem_of_mem_head? hc)) (by simp [hvisible])
  have hhead : ∀ d ∈ (trimmed cs).head?, isBlank d = false := by
    intro d hd
    have hmem : d ∈ cs.head? := by
      rw [hsplit, List.head?_append_of_ne_nil _ hne]
      exact hd
    rwa [Option.mem_unique hmem hc]
  have hlast : ∀ d ∈ (trimmed cs).getLast?, isBlank d = false := by
    intro d hd
    have hnot := List.rdropWhile_last_not isBlank cs (htrimmed ▸ hne)
    rw [List.getLast?_eq_getLast_of_ne_nil hne, Option.mem_some_iff] at hd
    simp only [htrimmed] at hd
    rw [hd] at hnot
    simpa using hnot
  refine ⟨dropEndWhile isBlank (w ++ ds), ?_⟩
  conv_lhs => rw [hsplit, List.append_assoc]
  exact trimmed_word_append hne hhead hlast (w ++ ds)

/-! Scanners. -/

/-- What is looked for on a line, from its depth and what stands on it; never on a blank one. -/
structure Scanner (α : Type) where
  find? : Nat → List Char → Option α
  find_nil : ∀ d, find? d [] = none

namespace Scanner

variable {α : Type} (k : Scanner α)

def onLine (l : List Char) : Option α := k.find? (depth l) (trimmed l)

/-- What is found in a text, line by line. -/
def scan (cs : List Char) : List α := (lines cs).filterMap k.onLine

/-- The scanner for a text that is going to stand deeper. -/
def deeper (width : Nat) : Scanner α where
  find? := fun d => k.find? (d + width)
  find_nil := fun d => k.find_nil (d + width)

theorem deeper_deeper (inner outer : Nat) :
    (k.deeper outer).deeper inner = k.deeper (inner + outer) := by
  simp only [deeper, Nat.add_assoc]

theorem find_deeper (width d : Nat) (l : List Char) :
    (k.deeper width).find? d l = k.find? (d + width) l := rfl

theorem on_line_return (l : List Char) : k.onLine (l ++ ['\r']) = k.onLine l := by
  rw [onLine, onLine, depth_return, trimmed_return]

theorem scan_line {l : List Char} (h : '\n' ∉ l) : k.scan l = (k.onLine l).toList := by
  by_cases hl : l = []
  · rw [hl, onLine, show trimmed [] = [] from rfl, find_nil]
    rfl
  · rw [scan, lines_line hl h, List.filterMap_cons, List.filterMap_nil]
    cases k.onLine l <;> rfl

theorem scan_line_end {l : List Char} (h : '\n' ∉ l) : k.scan (l ++ ['\n']) = k.scan l := by
  rw [scan_line k h, scan]
  rcases lines_line_end h with hl | ⟨m, rfl, hl⟩
  · rw [hl, List.filterMap_cons, List.filterMap_nil]
    cases k.onLine l <;> rfl
  · rw [hl, List.filterMap_cons, List.filterMap_nil, on_line_return]
    cases k.onLine m <;> rfl

theorem scan_split (cs ds : List Char) :
    k.scan (cs ++ '\n' :: ds) = k.scan (cs ++ ['\n']) ++ k.scan ds := by
  rw [scan, lines_append_newline, List.filterMap_append]
  rfl

/-- A line feed at the end shows nothing. -/
theorem scan_end (cs : List Char) : k.scan (cs ++ ['\n']) = k.scan cs := by
  by_cases h : '\n' ∈ cs
  · -- only the last line matters, and it may end with a carriage return
    obtain ⟨front, last, rfl, hlast⟩ := exists_last_line h
    rw [List.append_assoc, List.cons_append, scan_split, scan_split k front last,
      scan_line_end k hlast]
  · exact scan_line_end k h

/-- A text is scanned in two parts wherever a line ends. -/
theorem scan_append_newline (cs ds : List Char) :
    k.scan (cs ++ '\n' :: ds) = k.scan cs ++ k.scan ds := by
  rw [scan_split, scan_end]

theorem scan_append_of_ended {cs : List Char} (h : ∀ c ∈ cs.getLast?, c = '\n')
    (ds : List Char) : k.scan (cs ++ ds) = k.scan cs ++ k.scan ds := by
  rcases List.eq_nil_or_concat' cs with rfl | ⟨front, c, rfl⟩
  · rfl
  · obtain rfl : c = '\n' := h c List.getLast?_concat
    rw [List.append_assoc, List.singleton_append, scan_split]

theorem scan_join_lines (ls : List String) :
    k.scan (joinLines ls).toList = ls.flatMap fun l => k.scan l.toList := by
  induction ls with
  | nil => rfl
  | cons l ls ih =>
    cases ls with
    | nil => simp [joinLines]
    | cons m ls =>
      rw [to_list_join_lines_cons, scan_append_newline, ih]
      rfl

/-- Blocks with an empty line between them. -/
theorem scan_join_blocks (ss : List String) :
    k.scan (String.intercalate "\n\n" ss).toList = ss.flatMap fun s => k.scan s.toList := by
  induction ss with
  | nil => rfl
  | cons s ss ih =>
    cases ss with
    | nil => simp
    | cons t ts =>
      have hfirst : (String.intercalate "\n\n" (s :: t :: ts)).toList =
          s.toList ++ '\n' :: ([] ++ '\n' :: (String.intercalate "\n\n" (t :: ts)).toList) := by
        rw [String.intercalate_cons_of_ne_nil (by simp), String.toList_append,
          String.toList_append]
        simp
      rw [hfirst, scan_append_newline, scan_append_newline, ih]
      rfl

/-- Lines that are all ended. -/
theorem scan_join_ended (ls : List String) :
    k.scan (String.join (ls.map (· ++ "\n"))).toList = ls.flatMap fun l => k.scan l.toList := by
  induction ls with
  | nil => rfl
  | cons l ls ih =>
    have hfirst : (String.join ((l :: ls).map (· ++ "\n"))).toList =
        l.toList ++ '\n' :: (String.join (ls.map (· ++ "\n"))).toList := by
      simp
    rw [hfirst, scan_append_newline, ih, List.flatMap_cons]

/-- A line that is indented unless it is empty. -/
theorem scan_padded {l : List Char} (h : '\n' ∉ l) (width : Nat) :
    k.scan (if (String.ofList l).isEmpty then ""
      else String.ofList (List.replicate width ' ') ++ String.ofList l).toList =
        ((k.deeper width).onLine l).toList := by
  rw [← scan_line _ h]
  -- an empty line stays empty, which is why no scanner may find anything on one
  split_ifs with hempty
  · rw [String.isEmpty_iff, String.ofList_eq_empty_iff] at hempty
    subst hempty
    rfl
  · have hpadded : '\n' ∉ List.replicate width ' ' ++ l := by
      rw [List.mem_append, not_or]
      exact ⟨fun hmem => absurd (List.eq_of_mem_replicate hmem) (by decide), h⟩
    rw [← String.ofList_append, String.toList_ofList, scan_line k hpadded, scan_line _ h, onLine,
      depth_padded, trimmed_padded]
    rfl

/-- In an indented text the scanner finds what it would find that much deeper. -/
theorem scan_indent (s : String) (width : Nat) :
    k.scan (indent s width).toList = (k.deeper width).scan s.toList := by
  rw [indent, scan_join_lines, linesOf, List.map_map, List.flatMap_map, scan,
    List.filterMap_eq_flatMap_toList]
  exact List.flatMap_congr fun l hl => k.scan_padded (newline_not_mem_lines hl) width

/-- A line without white space at its ends. -/
theorem scan_whole {l : List Char} (hn : '\n' ∉ l) (hhead : beginsVisible l = true)
    (hlast : endsVisible l = true) : k.scan l = (k.find? 0 l).toList := by
  obtain ⟨c, hc, hvisible⟩ := exists_of_begins_visible hhead
  have hdepth : depth l = 0 := by
    have hspace : c ≠ ' ' := by
      rintro rfl
      exact absurd hvisible (by decide)
    obtain ⟨cs, rfl⟩ := List.head?_eq_some_iff.mp hc
    simp [depth, hspace]
  rw [scan_line k hn, onLine, hdepth, trimmed_whole hhead hlast]

/-- A declaration: a beginning, a literal and a semicolon. -/
theorem scan_declaration {key literal : String} (hvisible : beginsVisible key.toList = true)
    (hkey : '\n' ∉ key.toList) (hliteral : '\n' ∉ literal.toList) :
    k.scan (key ++ literal ++ ";").toList =
      (k.find? 0 (key.toList ++ (literal.toList ++ [';']))).toList := by
  have hline : (key ++ literal ++ ";").toList = key.toList ++ (literal.toList ++ [';']) := by
    simp
  have hne : key.toList ≠ [] := by
    intro hnil
    rw [hnil] at hvisible
    cases hvisible
  rw [hline]
  apply scan_whole
  · simp [hkey, hliteral]
  · rwa [beginsVisible, List.head?_append_of_ne_nil _ hne]
  · rw [← List.append_assoc, endsVisible, List.getLast?_concat]
    decide

/-! Scanners for lines that begin with a key. -/

/-- Finds the lines that begin with the key, and what they say behind it. -/
def startingWith (key : String) (hkey : key.toList ≠ []) (f : List Char → α) : Scanner α where
  find? := fun _ l => (key.toList.isPrefixOf? l).map f
  find_nil := by
    intro d
    have hnone : key.toList.isPrefixOf? [] = none := by
      rw [Option.eq_none_iff_forall_ne_some]
      intro rest hrest
      have happend := List.isPrefixOf?_eq_some_iff_append_eq.mp hrest
      exact hkey (List.append_eq_nil_iff.mp happend).1
    rw [hnone, Option.map_none]

/-- Finds what either scanner finds, and what the first one does if both do. -/
def orElse (m : Scanner α) : Scanner α where
  find? := fun d l => (k.find? d l).or (m.find? d l)
  find_nil := fun d => by rw [k.find_nil, m.find_nil, Option.or_none]

theorem find_or_else (m : Scanner α) (d : Nat) (l : List Char) :
    (k.orElse m).find? d l = (k.find? d l).or (m.find? d l) := rfl

/-- Neither text begins with the other. -/
def Apart (cs ds : List Char) : Prop := ¬ cs <+: ds ∧ ¬ ds <+: cs

instance (cs ds : List Char) : Decidable (Apart cs ds) := inferInstanceAs (Decidable (_ ∧ _))

variable {key : String} {hkey : key.toList ≠ []} {f : List Char → α}

theorem find_starting_with (d : Nat) (l : List Char) :
    (startingWith key hkey f).find? d l = (key.toList.isPrefixOf? l).map f := rfl

theorem find_starting_with_key (d : Nat) (rest : List Char) :
    (startingWith key hkey f).find? d (key.toList ++ rest) = some (f rest) := by
  have hprefix : key.toList.isPrefixOf? (key.toList ++ rest) = some rest :=
    List.isPrefixOf?_eq_some_iff_append_eq.mpr rfl
  rw [find_starting_with, hprefix, Option.map_some]

theorem find_starting_with_apart {cs : List Char} (h : Apart key.toList cs) (d : Nat)
    (rest : List Char) : (startingWith key hkey f).find? d (cs ++ rest) = none := by
  have hnone : key.toList.isPrefixOf? (cs ++ rest) = none := by
    rw [Option.eq_none_iff_forall_ne_some]
    intro more hmore
    have hbegins : key.toList <+: cs ++ rest :=
      ⟨more, List.isPrefixOf?_eq_some_iff_append_eq.mp hmore⟩
    rcases List.prefix_or_prefix_of_prefix hbegins (List.prefix_append cs rest) with hle | hge
    · exact h.1 hle
    · exact h.2 hge
  rw [find_starting_with, hnone, Option.map_none]

/-! Scanners for a whole line. -/

/-- Finds the lines on which the text stands and nothing else. -/
def equalTo (t : List Char) (ht : t ≠ []) : Scanner Unit where
  find? := fun _ l => if l = t then some () else none
  find_nil := fun _ => if_neg ht.symm

section

variable {t : List Char} {ht : t ≠ []}

theorem on_line_equal_to (l : List Char) :
    (equalTo t ht).onLine l = if trimmed l = t then some () else none := rfl

theorem length_scan_equal_to (cs : List Char) :
    ((equalTo t ht).scan cs).length = ((lines cs).map trimmed).count t := by
  rw [scan]
  induction lines cs with
  | nil => rfl
  | cons l ls ih =>
    rw [List.map_cons, List.count_cons, ← ih, List.filterMap_cons, on_line_equal_to]
    by_cases hl : trimmed l = t
    · simp [hl]
    · simp [hl]

theorem mem_scan_equal_to {cs : List Char} :
    () ∈ (equalTo t ht).scan cs ↔ t ∈ (lines cs).map trimmed := by
  simp only [scan, List.mem_filterMap, List.mem_map, on_line_equal_to]
  simp

theorem scan_equal_to_line {l : List Char} (h : '\n' ∉ l) :
    (equalTo t ht).scan l = if trimmed l = t then [()] else [] := by
  rw [scan_line _ h, on_line_equal_to]
  split_ifs <;> rfl

end

/-! Lines that show nothing. -/

/-- Nothing is found on a line that begins with the text. -/
structure Ignores (t : String) : Prop where
  head : beginsVisible t.toList = true
  skip : ∀ d rest, k.find? d (trimmed t.toList ++ rest) = none

namespace Ignores

variable {k} {m : Scanner α} {t : String}

theorem starting_with (hhead : beginsVisible t.toList = true)
    (h : Apart key.toList (trimmed t.toList)) : (startingWith key hkey f).Ignores t where
  head := hhead
  skip := find_starting_with_apart h

theorem orElse (hk : k.Ignores t) (hm : m.Ignores t) : (k.orElse m).Ignores t where
  head := hk.head
  skip := fun d rest => by rw [find_or_else, hk.skip, hm.skip, Option.or_none]

theorem equal_to {u : List Char} {hu : u ≠ []} (hhead : beginsVisible t.toList = true)
    (h : ¬ trimmed t.toList <+: u) : (equalTo u hu).Ignores t where
  head := hhead
  skip := fun _ rest => if_neg fun heq => h ⟨rest, heq⟩

/-- White space in front of the text changes nothing. -/
theorem scan_indented (h : k.Ignores t) {b cs : List Char} (hb : ∀ c ∈ b, isBlank c = true)
    (hbegins : t.toList <+: cs) (hn : '\n' ∉ b ++ cs) : k.scan (b ++ cs) = [] := by
  obtain ⟨rest, rfl⟩ := hbegins
  obtain ⟨es, hes⟩ := exists_trimmed_append h.head rest
  rw [scan_line k hn, onLine, trimmed_blank_append hb, hes, h.skip]
  rfl

theorem scan (h : k.Ignores t) {cs : List Char} (hbegins : t.toList <+: cs) (hn : '\n' ∉ cs) :
    k.scan cs = [] :=
  h.scan_indented (List.forall_mem_nil _) hbegins hn

end Ignores

end Scanner

end CodeJudge.Text
