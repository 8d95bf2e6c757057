import CodeJudge.Proofs.Text.Blank
import CodeJudge.Proofs.Text.Matching
import CodeJudge.Solution
import CodeJudge.Text.Lines
/-!
Declarations of the class of a solution. A declaration is two words with white space between them
that no word goes on with, so a character that is neither of a word nor white space parts a text
into two that are searched on their own, and white space at the ends of a text is of no account.
-/
namespace CodeJudge.Solution

open Text (isBlank isWord Pattern)

/-- White space between two words. -/
def IsGap (cs : List Char) : Prop := cs ≠ [] ∧ ∀ c ∈ cs, isBlank c = true

theorem not_word_of_blank {c : Char} (h : isBlank c = true) : isWord c = false := by
  by_contra hword
  rw [Text.visible_of_word (Bool.not_eq_false _ ▸ hword)] at h
  cases h

/-- No word ends in front of what follows white space. -/
theorem not_word_behind_blank {cs blank : List Char} (hcs : cs.getLast?.any isWord = false)
    (hblank : ∀ c ∈ blank, isBlank c = true) : (cs ++ blank).getLast?.any isWord = false := by
  rw [List.getLast?_append]
  cases hlast : blank.getLast? with
  | none => exact hcs
  | some c => exact not_word_of_blank (hblank c (List.mem_of_getLast? hlast))

theorem IsGap.not_word_behind {gap : List Char} (h : IsGap gap) (cs : List Char) :
    (cs ++ gap).getLast?.any isWord = false := by
  obtain ⟨c, hc⟩ := Option.ne_none_iff_exists'.mp (mt List.getLast?_eq_none_iff.mp h.1)
  rw [List.getLast?_append, hc]
  exact not_word_of_blank (h.2 c (List.mem_of_getLast? hc))

/-- The words of a declaration. -/
def IsDeclaration (w : List Char) : Prop :=
  ∃ word gap, w = word ++ (gap ++ "Solution".toList) ∧
    (word = "class".toList ∨ word = "struct".toList) ∧ IsGap gap

/-- A declaration stands in the text, and no word goes on before or behind it. -/
def Declares (cs : List Char) : Prop :=
  ∃ front w rest, cs = front ++ (w ++ rest) ∧ IsDeclaration w ∧
    front.getLast?.any isWord = false ∧ rest.head?.any isWord = false

theorem IsDeclaration.head_is_word {w : List Char} (h : IsDeclaration w) (rest : List Char) :
    (w ++ rest).head?.any isWord = true := by
  obtain ⟨word, gap, rfl, rfl | rfl, -⟩ := h <;> rfl

theorem IsDeclaration.last_is_word {w : List Char} (h : IsDeclaration w) (before : Option Char) :
    (w.getLast?.or before).any isWord = true := by
  obtain ⟨word, gap, rfl, -, -⟩ := h
  rw [← List.append_assoc, Text.Pattern.last_append_or]
  rfl

theorem matches_class_pattern_iff {before : Option Char} {w rest : List Char}
    {held : List (Nat × List Char)} : classPattern.Matches before w rest held ↔
      held = [] ∧ IsDeclaration w ∧ before.any isWord = false ∧ rest.head?.any isWord = false := by
  rw [classPattern, Pattern.matches_all_cons_iff fun _ _ _ _ => Iff.rfl]
  simp only [Pattern.matches_all_cons_iff fun _ _ _ _ =>
    Pattern.matches_either_iff (fun _ _ _ _ => Pattern.matches_text_iff)
      (fun _ _ _ _ => Pattern.matches_text_iff)]
  simp only [Pattern.matches_all_cons_iff fun _ _ _ _ => Pattern.matches_run_iff]
  simp only [Pattern.matches_all_cons_iff fun _ _ _ _ => Pattern.matches_text_iff]
  simp only [Pattern.matches_all_singleton_iff (p := Pattern.wordEdge) fun _ _ _ _ => Iff.rfl]
  constructor
  · rintro ⟨_, _, rfl, ⟨rfl, hfront⟩, word, _, rfl, hword, gap, _, rfl, hgap, _, _, rfl, rfl, rfl,
      rfl, hrest⟩
    have hw : IsDeclaration (word ++ (gap ++ "Solution".toList)) := ⟨word, gap, rfl, hword, hgap⟩
    rw [List.append_nil]
    rw [List.append_nil, hw.head_is_word] at hfront
    exact ⟨rfl, hw, Bool.eq_false_iff.mpr hfront, Bool.eq_false_iff.mpr hrest.symm⟩
  · rintro ⟨rfl, ⟨word, gap, rfl, hword, hgap⟩, hfront, hrest⟩
    have hw : IsDeclaration (word ++ (gap ++ "Solution".toList)) := ⟨word, gap, rfl, hword, hgap⟩
    refine ⟨[], word ++ (gap ++ "Solution".toList), rfl, ⟨rfl, ?_⟩, word, _, rfl, hword, gap,
      "Solution".toList, rfl, hgap, _, [], (List.append_nil _).symm, rfl, rfl, rfl, ?_⟩
    · rw [hfront, hw.head_is_word]
      exact Bool.false_ne_true
    · rw [hrest]
      exact Bool.false_ne_true.symm

theorem declares_class_iff {code : String} : declaresClass code = true ↔ Declares code.toList := by
  rw [declaresClass, Pattern.occurs_iff]
  simp only [matches_class_pattern_iff]
  constructor
  · rintro ⟨front, w, rest, held, hcode, -, hw, hfront, hrest⟩
    exact ⟨front, w, rest, hcode, hw, hfront, hrest⟩
  · rintro ⟨front, w, rest, hcode, hw, hfront, hrest⟩
    exact ⟨front, w, rest, [], hcode, rfl, hw, hfront, hrest⟩

/-! Texts that are put together. -/

theorem last_of_append (cs : List Char) {ds : List Char}
    (h : (cs ++ ds).getLast?.any isWord = false) : ds.getLast?.any isWord = false := by
  rw [List.getLast?_append] at h
  cases hlast : ds.getLast? with
  | none => rfl
  | some d => rwa [hlast] at h

theorem head_of_append {cs ds : List Char} (h : (cs ++ ds).head?.any isWord = false) :
    cs.head?.any isWord = false := by
  cases cs with
  | nil => rfl
  | cons c cs => exact h

theorem IsDeclaration.word_or_blank {w : List Char} (h : IsDeclaration w) :
    ∀ c ∈ w, isWord c = true ∨ isBlank c = true := by
  have hletters : ∀ word ∈ ["class", "struct", "Solution"], ∀ c ∈ word.toList,
      isWord c = true := by
    have hall : ["class", "struct", "Solution"].all (fun word => word.toList.all isWord) =
        true := by
      decide
    intro word hword
    exact List.all_eq_true.mp (List.all_eq_true.mp hall word hword)
  obtain ⟨word, gap, rfl, hword, -, hgap⟩ := h
  intro c hc
  rcases List.mem_append.mp hc with hc | hc
  · rcases hword with rfl | rfl
    · exact .inl (hletters "class" (by simp) c hc)
    · exact .inl (hletters "struct" (by simp) c hc)
  · rcases List.mem_append.mp hc with hc | hc
    · exact .inr (hgap c hc)
    · exact .inl (hletters "Solution" (by simp) c hc)

theorem IsDeclaration.ne_nil {w : List Char} (h : IsDeclaration w) : w ≠ [] := by
  rintro rfl
  exact absurd (h.head_is_word []) (by decide)

theorem declares_append {cs : List Char} (h : Declares cs) (before after : List Char)
    (hbefore : before.getLast?.any isWord = false) (hafter : after.head?.any isWord = false) :
    Declares (before ++ (cs ++ after)) := by
  obtain ⟨front, w, rest, rfl, hw, hfront, hrest⟩ := h
  refine ⟨before ++ front, w, rest ++ after, by simp, hw, ?_, ?_⟩
  · rw [List.getLast?_append]
    cases hlast : front.getLast? with
    | none => exact hbefore
    | some c => rwa [hlast] at hfront
  · cases rest with
    | nil => exact hafter
    | cons c rest => exact hrest

/-- A character of no word and no white space parts a text. -/
theorem declares_parted_iff {x : Char} (hword : isWord x = false) (hblank : isBlank x = false)
    {cs ds : List Char} : Declares (cs ++ x :: ds) ↔ Declares cs ∨ Declares ds := by
  constructor
  · rintro ⟨front, w, rest, hsplit, hw, hfront, hrest⟩
    have hx : x ∉ w := by
      intro hmem
      rcases hw.word_or_blank x hmem with h | h
      · rw [hword] at h
        cases h
      · rw [hblank] at h
        cases h
    -- where the declaration begins behind the character, it belongs to the second text
    rcases List.append_eq_append_iff.mp hsplit with ⟨a, rfl, hds⟩ | ⟨a, rfl, hbehind⟩
    · right
      cases a with
      | nil =>
        obtain ⟨c, u, rfl⟩ := List.exists_cons_of_ne_nil hw.ne_nil
        obtain ⟨rfl, -⟩ := List.cons.inj hds
        exact absurd List.mem_cons_self hx
      | cons c a =>
        obtain ⟨rfl, rfl⟩ := List.cons.inj hds
        exact ⟨a, w, rest, rfl, hw, last_of_append (cs ++ [x]) (by simpa using hfront), hrest⟩
    · left
      rcases List.append_eq_append_iff.mp hbehind with ⟨b, rfl, rfl⟩ | ⟨b, rfl, hds⟩
      · exact ⟨front, w, b, rfl, hw, hfront, head_of_append hrest⟩
      · cases b with
        | nil =>
          rw [List.append_nil] at hw
          exact ⟨front, a, [], by rw [List.append_nil], hw, hfront, rfl⟩
        | cons c b =>
          obtain ⟨rfl, -⟩ := List.cons.inj hds
          exact absurd (List.mem_append_right a List.mem_cons_self) hx
  · rintro (h | h)
    · have hcs := declares_append h [] (x :: ds) rfl hword
      rwa [List.nil_append] at hcs
    · have hds := declares_append h (cs ++ [x]) [] (by rw [List.getLast?_concat]; exact hword) rfl
      rwa [List.append_nil, List.append_assoc] at hds

/-- What is behind the last declaration of a text and in no word is of no account. -/
theorem declares_concat_iff {x : Char} (hword : isWord x = false) {cs : List Char} :
    Declares (cs ++ [x]) ↔ Declares cs := by
  constructor
  · rintro ⟨front, w, rest, hsplit, hw, hfront, hrest⟩
    rcases List.eq_nil_or_concat rest with rfl | ⟨rest, c, rfl⟩
    · have hlast := hw.last_is_word front.getLast?
      rw [List.append_nil] at hsplit
      rw [← List.getLast?_append, ← hsplit, List.getLast?_concat] at hlast
      exact absurd (hword.symm.trans hlast) Bool.false_ne_true
    · rw [List.concat_eq_append, ← List.append_assoc, ← List.append_assoc] at hsplit
      obtain ⟨rfl, -⟩ := List.append_inj' hsplit rfl
      rw [List.concat_eq_append] at hrest
      exact ⟨front, w, rest, List.append_assoc _ _ _, hw, hfront, head_of_append hrest⟩
  · intro h
    exact declares_append h [] [x] rfl hword

theorem declares_cons_iff {x : Char} (hword : isWord x = false) {cs : List Char} :
    Declares (x :: cs) ↔ Declares cs := by
  constructor
  · rintro ⟨front, w, rest, hsplit, hw, hfront, hrest⟩
    cases front with
    | nil =>
      have hhead := hw.head_is_word rest
      rw [List.nil_append] at hsplit
      rw [← hsplit] at hhead
      exact absurd (hword.symm.trans hhead) Bool.false_ne_true
    | cons c front =>
      obtain ⟨rfl, rfl⟩ := List.cons.inj hsplit
      exact ⟨front, w, rest, rfl, hw, last_of_append [x] hfront, hrest⟩
  · intro h
    have hcons := declares_append h [x] [] hword rfl
    rwa [List.append_nil] at hcons

/-- What is around a text and in no word is of no account. -/
theorem declares_around_iff {front back : List Char} (hfront : ∀ c ∈ front, isWord c = false)
    (hback : ∀ c ∈ back, isWord c = false) (cs : List Char) :
    Declares (front ++ (cs ++ back)) ↔ Declares cs := by
  induction front with
  | nil =>
    induction back using List.reverseRecOn with
    | nil => rw [List.nil_append, List.append_nil]
    | append_singleton back c ih =>
      obtain ⟨hrest, hc⟩ := List.forall_mem_append.mp hback
      rw [List.nil_append, ← List.append_assoc,
        declares_concat_iff (hc c (List.mem_singleton_self c))]
      exact ih hrest
  | cons c front ih =>
    obtain ⟨hc, hrest⟩ := List.forall_mem_cons.mp hfront
    rw [List.cons_append, declares_cons_iff hc]
    exact ih hrest

theorem declares_trim_newlines_iff (s : String) :
    Declares (Text.trimNewlines s).toList ↔ Declares s.toList := by
  obtain ⟨front, back, hfront, hback, hs⟩ := Text.drop_both_while_append (· == '\n') s.toList
  have hword (ds : List Char) (hds : ∀ c ∈ ds, (c == '\n') = true) :
      ∀ c ∈ ds, isWord c = false := by
    intro c hc
    rw [eq_of_beq (hds c hc)]
    decide
  rw [List.append_assoc] at hs
  rw [hs, Text.trimNewlines, String.toList_ofList]
  exact (declares_around_iff (hword front hfront) (hword back hback) _).symm

end CodeJudge.Solution
