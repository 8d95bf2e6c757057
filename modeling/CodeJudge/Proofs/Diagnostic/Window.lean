import CodeJudge.Proofs.Diagnostic.Location
import CodeJudge.Proofs.Diagnostic.Rule
/-!
The lines that a diagnostic shows. The first line mentioned that lies in the solution is reported,
and it is shown with as many of its neighbours as were asked for and as the solution has. There is
no diagnostic only if more neighbours were asked for than can be counted.
-/
namespace CodeJudge

namespace Location

/-- The line mentioned is a line of the solution, behind `offset` other lines. -/
def Qualifies (offset : Nat) (source : Option String) (line : Nat) : Prop :=
  offset < line ∧ ∀ s ∈ source, line - offset ≤ Text.lineCount s

theorem qualifies_iff (offset : Nat) (source : Option String) (line : Nat) :
    Qualifies offset source line ↔
      (decide (offset < line) && isWithin source (line - offset)) = true := by
  rw [Qualifies, isWithin, Bool.and_eq_true, decide_eq_true_eq]
  cases source <;> simp

/-- The lines are shifted and looked at in order, so the first that qualifies is found. -/
theorem find_eq (raw : String) (offset : Nat) (source : Option String) :
    find? raw offset source =
      ((candidates raw).find? fun line =>
        decide (offset < line) && isWithin source (line - offset)).map (· - offset) := by
  rw [find?, List.find?_map, List.find?_filter]
  congr 2
  funext line
  simp

theorem find_eq_some_iff (raw : String) (offset : Nat) (source : Option String) (n : Nat) :
    find? raw offset source = some n ↔
      ∃ front c back, candidates raw = front ++ c :: back ∧ Qualifies offset source c ∧
        (∀ b ∈ front, ¬ Qualifies offset source b) ∧ n = c - offset := by
  simp only [find_eq, Option.map_eq_some_iff, List.find?_eq_some_iff_append, ← qualifies_iff,
    Bool.not_eq_true', ← Bool.not_eq_true]
  constructor
  · rintro ⟨c, ⟨hc, front, back, hsplit, hfront⟩, rfl⟩
    exact ⟨front, c, back, hsplit, hc, hfront, rfl⟩
  · rintro ⟨front, c, back, hsplit, hc, hfront, rfl⟩
    exact ⟨c, ⟨hc, front, back, hsplit, hfront⟩, rfl⟩

theorem find_eq_none_iff (raw : String) (offset : Nat) (source : Option String) :
    find? raw offset source = none ↔ ∀ c ∈ candidates raw, ¬ Qualifies offset source c := by
  simp only [find_eq, Option.map_eq_none_iff, List.find?_eq_none, ← qualifies_iff]

/-- What is found is a line of the solution. -/
theorem line_of_find {raw : String} {offset n : Nat} {source : String}
    (h : find? raw offset (some source) = some n) : 1 ≤ n ∧ n ≤ Text.lineCount source := by
  obtain ⟨front, c, back, -, ⟨hoffset, hwithin⟩, -, rfl⟩ := (find_eq_some_iff _ _ _ n).mp h
  have hbound := hwithin source rfl
  omega

/-! The lines around a line. -/

/-- A line of the code, counted from one, with its number in front. -/
def shown? (source : String) (n : Nat) : Option String :=
  (Text.line? source n).map fun line => toString n ++ ": " ++ line

theorem shown_of_index {source : String} {i : Nat} (hi : i < Text.lineCount source) :
    shown? source (i + 1) = some (numbered (Text.linesOf source) i) := by
  have hlen : i < (Text.linesOf source).length := by
    rwa [Text.linesOf, List.length_map]
  have hline : Text.line? source (i + 1) = some (Text.linesOf source)[i] := by
    rw [Text.line?, if_neg (Nat.succ_ne_zero i), Nat.add_sub_cancel,
      List.getElem?_eq_getElem hlen]
  rw [shown?, hline, Option.map_some, numbered, List.getD_eq_getElem?_getD,
    List.getElem?_eq_getElem hlen, Option.getD_some]

theorem length_numbered_range (ls : List String) (first last : Nat) :
    (numberedRange ls first last).length = last - first := by
  rw [numberedRange, List.length_map, List.length_range']

theorem numbered_range_shown {source : String} {first last j : Nat} (hj : first + j < last)
    (hlast : last ≤ Text.lineCount source) :
    (numberedRange (Text.linesOf source) first last)[j]? = shown? source (first + j + 1) := by
  have hin : j < last - first := by omega
  rw [shown_of_index (by omega), numberedRange, List.getElem?_map, List.getElem?_range' hin,
    Option.map_some, Nat.one_mul]

end Location

open Location

/-- The context is that of line `n`, with `count` lines on either side where there are so many. -/
structure CodeContext.Surrounds (c : CodeContext) (source : String) (n count : Nat) : Prop where
  errorLine : shown? source n = some c.errorLine
  length_before : c.before.length = min (n - 1) count
  before : ∀ j < c.before.length, c.before[j]? = shown? source (n - c.before.length + j)
  length_after : c.after.length = min (Text.lineCount source - n) count
  after : ∀ j < c.after.length, c.after[j]? = shown? source (n + 1 + j)

namespace Location

/-- The window around a line is complete. -/
theorem context_surrounds {source : String} {n count : Nat} (hpos : 1 ≤ n)
    (hn : n ≤ Text.lineCount source) (hfits : n + count < UInt64.size) :
    ∃ c, context? source n count = .ok (some c) ∧ c.Surrounds source n count := by
  have hbefore : n - 1 - (n - 1 - count) = min (n - 1) count := by omega
  refine ⟨_, context_of_fits hpos hn hfits, ?_, ?_, ?_, ?_, ?_⟩
  · have hshown := @shown_of_index source (n - 1) (by omega)
    rwa [show n - 1 + 1 = n by omega] at hshown
  · rw [length_numbered_range, hbefore]
  · intro j hj
    rw [length_numbered_range, hbefore] at hj ⊢
    -- the first line shown is as far in front of the line as there are lines in front of it
    have hplace : n - 1 - count + j + 1 = n - min (n - 1) count + j := by omega
    rw [numbered_range_shown (by omega) (by omega), hplace]
  · rw [length_numbered_range]
    omega
  · intro j hj
    rw [length_numbered_range] at hj
    have hplace : n + j + 1 = n + 1 + j := by omega
    rw [numbered_range_shown (by omega) (by omega), hplace]

end Location

/-- If a line of code that is known is found, the place where its window ends is a number of 64
bits. -/
def ClassificationOptions.WindowFits (options : ClassificationOptions) (raw : String)
    (source : Option String) : Prop :=
  ∀ code, source = some code → ∀ n, find? raw options.lineOffset source = some n →
    n + options.contextLines < UInt64.size

namespace Diagnostic

variable {s : Stage} {t : Target} {raw : String} {source : Option String}
  {options : ClassificationOptions} {d : Diagnostic}

theorem context_of_window_fits (h : options.WindowFits raw source) :
    ∃ context, contextOf? source (find? raw options.lineOffset source) options.contextLines =
      .ok context := by
  cases source with
  | none => exact ⟨none, rfl⟩
  | some code =>
    cases hline : find? raw options.lineOffset (some code) with
    | none => exact ⟨none, rfl⟩
    | some n =>
      obtain ⟨hpos, hn⟩ := line_of_find hline
      exact ⟨_, context_of_fits hpos hn (h code rfl n hline)⟩

/-- A window that does not fit stops the program. -/
theorem classify_of_not_fits (h : ¬ options.WindowFits raw source) :
    classify s t raw source options = .error .size := by
  rw [ClassificationOptions.WindowFits] at h
  push Not at h
  obtain ⟨code, rfl, n, hline, hlarge⟩ := h
  obtain ⟨hpos, hn⟩ := line_of_find hline
  have hcontext : contextOf? (some code) (some n) options.contextLines = .error .size :=
    context_of_not_fits hpos hn (Nat.not_lt.mpr hlarge)
  rw [classify, hline, hcontext]
  rfl

theorem classify_returns_iff :
    (∃ d, classify s t raw source options = .ok d) ↔ options.WindowFits raw source := by
  constructor
  · rintro ⟨d, hd⟩
    by_contra hlarge
    rw [classify_of_not_fits hlarge] at hd
    cases hd
  · intro hfits
    obtain ⟨context, hcontext⟩ := context_of_window_fits hfits
    exact ⟨_, classify_eq_ok_iff.mpr ⟨context, hcontext, rfl⟩⟩

/-- Without the code of a solution there is always a diagnostic. -/
theorem window_fits_of_no_source (options : ClassificationOptions) (raw : String) :
    options.WindowFits raw none := by
  intro code hcode
  cases hcode

/-- A window that ends at the end of the code or further down is the largest one. -/
theorem window_fits_of_line_count {code : String}
    (h : Text.lineCount code + options.contextLines < UInt64.size) :
    options.WindowFits raw (some code) := by
  rintro _ ⟨⟩ n hline
  exact (Nat.add_le_add_right (line_of_find hline).2 _).trans_lt h

theorem classify_line (h : classify s t raw source options = .ok d) :
    d.lineNumber = find? raw options.lineOffset source := (classify_follows h).lineNumber

theorem classify_context (h : classify s t raw source options = .ok d) :
    contextOf? source d.lineNumber options.contextLines = .ok d.codeContext := by
  obtain ⟨context, hcontext, hd⟩ := classify_eq_ok_iff.mp h
  rw [classify_line h, hcontext, hd]

/-- The code, if it is known, is shown around the line that is found. -/
theorem classify_surrounds {code : String} {n : Nat}
    (h : classify s t raw (some code) options = .ok d) (hline : d.lineNumber = some n) :
    ∃ c, d.codeContext = some c ∧ c.Surrounds code n options.contextLines := by
  have hcontext := classify_context h
  have hfind := classify_line h
  rw [hline] at hcontext hfind
  obtain ⟨hpos, hn⟩ := line_of_find hfind.symm
  have hfits := classify_returns_iff.mp ⟨d, h⟩ code rfl n hfind.symm
  obtain ⟨c, hc, hsurrounds⟩ := context_surrounds hpos hn hfits
  have hsame : Except.ok (some c) = Except.ok d.codeContext := hc.symm.trans hcontext
  exact ⟨c, (Except.ok.inj hsame).symm, hsurrounds⟩

/-- There is a context exactly if there is code and a line of it to show. -/
theorem context_isSome_iff (h : classify s t raw source options = .ok d) :
    d.codeContext.isSome = true ↔ d.lineNumber.isSome = true ∧ source.isSome = true := by
  cases source with
  | none =>
    have hcontext := Except.ok.inj (classify_context h)
    simp [← hcontext]
  | some code =>
    cases hline : d.lineNumber with
    | none =>
      have hcontext := classify_context h
      rw [hline] at hcontext
      simp [← Except.ok.inj hcontext]
    | some n =>
      obtain ⟨c, hc, -⟩ := classify_surrounds h hline
      simp [hc]

/-- There is a diagnostic exactly if the window around the line that is found can be counted. Its
line is the first one mentioned that lies in the solution, if there is one, and then the code, if it
is known, is shown around it. -/
theorem classify_shows_window (s : Stage) (t : Target) (raw : String) (source : Option String)
    (options : ClassificationOptions) :
    ((∃ d, classify s t raw source options = .ok d) ↔ options.WindowFits raw source) ∧
    ∀ d, classify s t raw source options = .ok d →
      (∀ n, d.lineNumber = some n ↔
        ∃ front c back, candidates raw = front ++ c :: back ∧
          Qualifies options.lineOffset source c ∧
          (∀ b ∈ front, ¬ Qualifies options.lineOffset source b) ∧ n = c - options.lineOffset) ∧
      (d.lineNumber = none ↔ ∀ c ∈ candidates raw, ¬ Qualifies options.lineOffset source c) ∧
      (d.codeContext.isSome = true ↔ d.lineNumber.isSome = true ∧ source.isSome = true) ∧
      ∀ n code, d.lineNumber = some n → source = some code →
        ∃ c, d.codeContext = some c ∧ c.Surrounds code n options.contextLines := by
  refine ⟨classify_returns_iff, ?_⟩
  intro d hd
  refine ⟨?_, ?_, context_isSome_iff hd, ?_⟩
  · intro n
    rw [classify_line hd, find_eq_some_iff]
  · rw [classify_line hd, find_eq_none_iff]
  · rintro n code hline rfl
    exact classify_surrounds hd hline

/-- A line of the harness is passed over, and the last line but one has one neighbour behind it. -/
theorem classify_shows_window_near_end :
    let code := "a\nb\nc\nd"
    ∃ d, classify .runtime .python "line 120, in _run\nline 13, in solve" (some code) ⟨2, 10⟩ =
        .ok d ∧ d.lineNumber = some 3 ∧
      ∃ c, d.codeContext = some c ∧ c.Surrounds code 3 2 ∧ c.before.length = 2 ∧
        c.after.length = 1 := by
  intro code
  have hcandidates : candidates "line 120, in _run\nline 13, in solve" = [120, 13] := by
    decide
  have hcount : Text.lineCount code = 4 := by decide
  have hin : Qualifies 10 (some code) 13 := by
    refine ⟨by decide, ?_⟩
    rintro s ⟨⟩
    rw [hcount]
    decide
  have hout : ∀ b ∈ [120], ¬ Qualifies 10 (some code) b := by
    rintro b hb ⟨-, hwithin⟩
    have hbound := hwithin code rfl
    rw [List.mem_singleton.mp hb, hcount] at hbound
    omega
  obtain ⟨hreturns, hshows⟩ := classify_shows_window .runtime .python
    "line 120, in _run\nline 13, in solve" (some code) ⟨2, 10⟩
  obtain ⟨d, hd⟩ := hreturns.mpr (window_fits_of_line_count (by rw [hcount]; decide))
  obtain ⟨hline, -, -, hcontext⟩ := hshows d hd
  have hthree := (hline 3).mpr ⟨[120], 13, [], hcandidates, hin, hout, rfl⟩
  obtain ⟨c, hc, hsurrounds⟩ := hcontext 3 code hthree rfl
  refine ⟨d, hd, hthree, c, hc, hsurrounds, hsurrounds.length_before, ?_⟩
  rw [hsurrounds.length_after, hcount]
  rfl

end Diagnostic

end CodeJudge
