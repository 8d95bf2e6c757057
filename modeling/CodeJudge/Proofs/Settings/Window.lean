import CodeJudge.Proofs.Diagnostic.Window
import CodeJudge.Proofs.Settings.Accepted
/-!
The numbers that a classification computes under settings that are accepted. A line that is
mentioned and a number of lines to show have 64 bits each, the lines in front of the solution are
taken away only from more of them, and a window begins no further up than at the first line. Only
the end of a window is a sum, and where it has more than 64 bits there is no diagnostic.
-/
namespace CodeJudge

namespace Location

theorem line_number_lt {ds : List Char} {n : Nat} (h : lineNumber? ds = some n) :
    n < UInt64.size := by
  rw [lineNumber?] at h
  split_ifs at h with hfits
  obtain rfl := Option.some.inj h
  rw [Bool.and_eq_true] at hfits
  exact of_decide_eq_true hfits.2

theorem mention_lt {form : Text.Pattern} {raw : String} {n : Nat} (h : n ∈ mentions form raw) :
    n < UInt64.size := by
  obtain ⟨⟨_, b⟩, -, hb⟩ := List.mem_filterMap.mp h
  obtain ⟨ds, -, hds⟩ := Option.bind_eq_some_iff.mp hb
  exact line_number_lt hds

theorem candidate_lt {raw : String} {n : Nat} (h : n ∈ candidates raw) : n < UInt64.size := by
  rcases List.mem_append.mp h with h | h
  · exact mention_lt h
  · exact mention_lt h

/-- What is found was mentioned, further down than the lines that are taken away. -/
theorem candidate_of_find {raw : String} {offset n : Nat} {source : Option String}
    (h : find? raw offset source = some n) : ∃ c ∈ candidates raw, offset < c ∧ n = c - offset := by
  obtain ⟨front, c, back, hsplit, ⟨hoffset, -⟩, -, hn⟩ := (find_eq_some_iff _ _ _ n).mp h
  exact ⟨c, by simp [hsplit], hoffset, hn⟩

end Location

namespace Diagnostic

open Location

/-- Under settings that are accepted every number of a classification has 64 bits and every
difference is one of a larger number and a smaller one, but for the end of the window: there is a
diagnostic, and then a complete window, if and only if the line and the number of lines to show add
up to 64 bits. -/
theorem window_end_fits_iff {y : String} {settings : Settings}
    (h : Settings.ofYaml y = .ok settings) (s : Stage) (t : Target) (raw : String)
    (source : Option String) (offset : Nat) :
    let options : ClassificationOptions := ⟨settings.contextLines, offset⟩
    settings.contextLines < UInt64.size ∧ (∀ c ∈ candidates raw, c < UInt64.size) ∧
    (∀ n, find? raw offset source = some n →
      (∃ c ∈ candidates raw, offset < c ∧ n = c - offset) ∧ 1 ≤ n ∧ n < UInt64.size) ∧
    ((∃ d, classify s t raw source options = .ok d) ↔ ∀ code ∈ source, ∀ n,
      find? raw offset source = some n → n + settings.contextLines < UInt64.size) ∧
    ((∃ code ∈ source, ∃ n, find? raw offset source = some n ∧
        UInt64.size ≤ n + settings.contextLines) →
      classify s t raw source options = .error .size) ∧
    ∀ d, classify s t raw source options = .ok d → d.lineNumber = find? raw offset source ∧
      ∀ n, d.lineNumber = some n → ∀ code ∈ source, ∃ c, d.codeContext = some c ∧
        c.Surrounds code n settings.contextLines := by
  intro options
  refine ⟨Settings.context_lines_lt h, fun c hc => candidate_lt hc, ?_, classify_returns_iff, ?_,
    ?_⟩
  · intro n hfind
    obtain ⟨c, hc, hoffset, hdifference⟩ := candidate_of_find hfind
    have hcandidate := candidate_lt hc
    -- a candidate is behind the offset, or there is no line
    exact ⟨⟨c, hc, hoffset, hdifference⟩, by omega, by omega⟩
  · rintro ⟨code, hcode, n, hfind, hlarge⟩
    exact classify_of_not_fits fun hfits => (hfits code hcode n hfind).not_ge hlarge
  · intro d hd
    refine ⟨classify_line hd, ?_⟩
    rintro n hline code rfl
    exact classify_surrounds hd hline

/-- Three lines on either side of the third of four: all that there are. -/
theorem window_end_fits_of_few_lines :
    let settings : Settings := ⟨3, "info", .python, Settings.defaultTolerance⟩
    let code := "a\nb\nc\nd"
    Settings.ofYaml "context_lines: 3" = .ok settings ∧
      ∃ d, classify .runtime .python "line 13, in solve" (some code)
          ⟨settings.contextLines, 10⟩ = .ok d ∧ d.lineNumber = some 3 ∧
        ∃ c, d.codeContext = some c ∧ c.Surrounds code 3 settings.contextLines := by
  intro settings code
  have haccepted : Settings.ofYaml "context_lines: 3" = .ok settings :=
    Settings.of_yaml_eq_ok_of_option (by decide +kernel)
  have hfind : find? "line 13, in solve" 10 (some code) = some 3 := by decide +kernel
  obtain ⟨-, -, -, hreturns, -, hshows⟩ :=
    window_end_fits_iff haccepted .runtime .python "line 13, in solve" (some code) 10
  have hfits : ∀ c ∈ some code, ∀ n, find? "line 13, in solve" 10 (some code) = some n →
      n + settings.contextLines < UInt64.size := by
    intro _ _ n hn
    rw [hfind, Option.some.injEq] at hn
    rw [← hn]
    decide
  obtain ⟨d, hd⟩ := hreturns.mpr hfits
  obtain ⟨hline, hwindow⟩ := hshows d hd
  have hthree : d.lineNumber = some 3 := hline.trans hfind
  exact ⟨haccepted, d, hd, hthree, hwindow 3 hthree code rfl⟩

/-- The greatest number of lines that is accepted leaves no diagnostic for the first line of two. -/
theorem window_end_overflows_of_greatest_count :
    let settings : Settings := ⟨0xffffffffffffffff, "info", .python, Settings.defaultTolerance⟩
    let code := "a\nb"
    Settings.ofYaml "context_lines: 18446744073709551615" = .ok settings ∧
      find? "line 1" 0 (some code) = some 1 ∧
      placeBehind 0 settings.contextLines = .error .size ∧
      classify .runtime .python "line 1" (some code) ⟨settings.contextLines, 0⟩ = .error .size := by
  intro settings code
  have haccepted : Settings.ofYaml "context_lines: 18446744073709551615" = .ok settings :=
    Settings.of_yaml_eq_ok_of_option (by decide +kernel)
  have hfind : find? "line 1" 0 (some code) = some 1 := by decide +kernel
  refine ⟨haccepted, hfind, place_behind_of_not_fits (by decide), classify_of_not_fits ?_⟩
  intro hfits
  exact absurd (hfits code rfl 1 hfind) (by decide)

end Diagnostic

end CodeJudge
