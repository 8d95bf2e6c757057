import CodeJudge.Proofs.Format.TypeName
/-!
Lists of names that may be malformed. However its brackets stand, a text is cut at the commas where
no bracket is open and nowhere else, and the names are what stands between the cuts. So nothing but
commas and white space is lost.
-/
namespace CodeJudge.TypeName

/-- The characters hide their commas: in front of each one more brackets are opened than closed,
those of `d` that came before counted too. -/
def HidesCommas (d : Int) (cs : List Char) : Prop :=
  ∀ front back, cs = front ++ ',' :: back → 0 < d + depth front

/-- The pieces of a text that is cut at each comma where no bracket is open, and nowhere else. -/
inductive Cut : Int → List Char → List (List Char) → Prop where
  | whole {d : Int} {piece : List Char} (hidden : HidesCommas d piece) : Cut d piece [piece]
  | comma {d : Int} {piece rest : List Char} {pieces : List (List Char)}
    (hidden : HidesCommas d piece) (outside : d + depth piece ≤ 0)
    (behind : Cut (d + depth piece) rest pieces) : Cut d (piece ++ ',' :: rest) (piece :: pieces)

theorem hides_commas_nil (d : Int) : HidesCommas d [] := by
  intro front back h
  simp at h

theorem HidesCommas.cons {d : Int} {c : Char} {cs : List Char} (hc : c = ',' → 0 < d)
    (h : HidesCommas (d + depth [c]) cs) : HidesCommas d (c :: cs) := by
  intro front back hcs
  cases front with
  | nil =>
    obtain ⟨rfl, -⟩ := List.cons.inj hcs
    rw [depth_nil, add_zero]
    exact hc rfl
  | cons e front =>
    obtain ⟨rfl, hrest⟩ := List.cons.inj hcs
    rw [depth_cons, ← add_assoc]
    exact h front back hrest

/-- A character in front of a text that does not cut it belongs to the first piece. -/
theorem Cut.cons {d : Int} {c : Char} {cs : List Char} {pieces : List (List Char)}
    (hc : c = ',' → 0 < d) (h : Cut (d + depth [c]) cs pieces) :
    Cut d (c :: cs) (pieces.modifyHead (c :: ·)) := by
  cases h with
  | whole hidden => exact .whole (hidden.cons hc)
  | comma hidden outside behind =>
    rw [add_assoc, ← depth_cons] at outside behind
    exact .comma (hidden.cons hc) outside behind

theorem cut_pieces (d : Int) (cs : List Char) : Cut d cs (pieces d cs) := by
  induction cs generalizing d with
  | nil => exact .whole (hides_commas_nil d)
  | cons c cs ih =>
    rw [pieces]
    split_ifs with hcomma
    · obtain ⟨rfl, hd⟩ := hcomma
      have houtside : d + depth [] = d := add_zero d
      exact .comma (hides_commas_nil d) (by rwa [houtside]) (by rw [houtside]; exact ih d)
    · rw [not_and, not_le] at hcomma
      exact (ih (d + depth [c])).cons hcomma

/-! What is kept. -/

/-- A character that is neither a comma nor white space. -/
def isNamePart (c : Char) : Bool := c != ',' && !Text.isBlank c

theorem filter_trimmed (cs : List Char) :
    (Text.trimmed cs).filter isNamePart = cs.filter isNamePart := by
  obtain ⟨b, w, hb, hw, hsplit⟩ := Text.drop_both_while_append Text.isBlank cs
  -- white space is no part of a name
  have hblank {ds : List Char} (hds : ∀ c ∈ ds, Text.isBlank c = true) :
      ds.filter isNamePart = [] := by
    rw [List.filter_eq_nil_iff]
    intro c hc
    simp [isNamePart, hds c hc]
  conv_rhs => rw [hsplit, List.filter_append, List.filter_append, hblank hb, hblank hw,
    List.nil_append, List.append_nil]
  rfl

/-- Cutting takes away nothing but commas. -/
theorem Cut.filter_eq {d : Int} {cs : List Char} {pieces : List (List Char)}
    (h : Cut d cs pieces) :
    pieces.flatMap (List.filter isNamePart) = cs.filter isNamePart := by
  induction h with
  | whole => simp
  | comma _ _ _ ih =>
    have hcomma : isNamePart ',' = false := rfl
    rw [List.flatMap_cons, ih, List.filter_append, List.filter_cons_of_neg (by simp [hcomma])]

/-- A name in a list is not blank and has no white space around it. -/
theorem trimmed_of_mem_names {pieces : List (List Char)} {name : String}
    (h : name ∈ namesIn pieces) : name ≠ "" ∧ Text.trim name = name := by
  obtain ⟨cs, hcs, rfl⟩ := List.mem_map.mp h
  obtain ⟨hmem, hne⟩ := List.mem_filter.mp hcs
  obtain ⟨piece, -, rfl⟩ := List.mem_map.mp hmem
  constructor
  · rw [ne_eq, String.ofList_eq_empty_iff]
    simpa using hne
  · rw [Text.trim, String.toList_ofList, Text.trimmed_trimmed]

/-- Leaving out blank pieces and white space around the others takes away no part of a name. -/
theorem filter_names (pieces : List (List Char)) :
    ((namesIn pieces).flatMap String.toList).filter isNamePart =
      pieces.flatMap (List.filter isNamePart) := by
  induction pieces with
  | nil => rfl
  | cons piece pieces ih =>
    rw [namesIn] at ih ⊢
    rw [List.map_cons, List.flatMap_cons, ← ih, ← filter_trimmed piece]
    cases hpiece : Text.trimmed piece with
    | nil => rfl
    | cons c cs =>
      rw [List.filter_cons_of_pos rfl, List.map_cons, List.flatMap_cons, List.filter_append,
        String.toList_ofList]

/-- A list of names is cut exactly if the depth of its brackets has 32 bits throughout, as it has in
a text that is not longer than such a number. The names are the pieces between the commas where no
bracket is open, without the white space around them and without those that are blank. Nothing else
is lost and nothing changes its place: less commas and white space, the names one after the other
are the text. -/
theorem split_top_level_keeps_text (s : String) :
    ((∃ names, splitTopLevel s = .ok names) ↔ DepthFits 0 s.toList) ∧
    (s.length < 0x80000000 → ∃ names, splitTopLevel s = .ok names) ∧
    ∀ names, splitTopLevel s = .ok names →
      (∃ pieces, Cut 0 s.toList pieces ∧ names = namesIn pieces) ∧
      (∀ name ∈ names, name ≠ "" ∧ Text.trim name = name) ∧
      (names.flatMap String.toList).filter isNamePart = s.toList.filter isNamePart := by
  refine ⟨⟨?_, fun h => ⟨_, split_top_level_of_fits h⟩⟩, ?_, ?_⟩
  · rintro ⟨names, hnames⟩
    exact (split_top_level_eq_ok_iff.mp hnames).1
  · intro hlength
    exact ⟨_, split_top_level_of_fits (depth_fits_of_length hlength)⟩
  · intro names hnames
    have hcut := cut_pieces 0 s.toList
    rw [(split_top_level_eq_ok_iff.mp hnames).2, listed]
    refine ⟨⟨_, hcut, rfl⟩, fun name hname => trimmed_of_mem_names hname, ?_⟩
    rw [filter_names, hcut.filter_eq]

/-- A bracket too many is closed and another one is never closed. -/
theorem split_top_level_of_stray_brackets :
    let s := "int>, array<int, , long"
    ∃ names, splitTopLevel s = .ok names ∧ names = ["int>", "array<int", "long"] ∧
      (names.flatMap String.toList).filter isNamePart = s.toList.filter isNamePart := by
  intro s
  obtain ⟨-, hreturns, hkept⟩ := split_top_level_keeps_text s
  obtain ⟨names, hnames⟩ := hreturns (by decide)
  have hlisted : names = listed s := (split_top_level_eq_ok_iff.mp hnames).2
  exact ⟨names, hnames, hlisted.trans (by decide), (hkept names hnames).2.2⟩

end CodeJudge.TypeName
