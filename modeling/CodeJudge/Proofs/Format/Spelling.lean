import CodeJudge.Proofs.Format.TypeName
import CodeJudge.Proofs.Text.Scan
/-!
Spellings of type names. A shape with an argument can be named in many ways: by several words, in
two styles of brackets, in any letter case and with white space around the name and the argument.
All of them name the same shape.
-/
namespace CodeJudge.TypeName

inductive Brackets where
  | angle
  | square
  deriving DecidableEq

namespace Brackets

def left : Brackets → Char
  | angle => '<'
  | square => '['

def right : Brackets → Char
  | angle => '>'
  | square => ']'

/-- The text between the brackets, with them. -/
def enclose (b : Brackets) (x : List Char) : List Char := b.left :: (x ++ [b.right])

/-- An argument in brackets. -/
def wrap : Brackets → String → String
  | angle, x => "<" ++ x ++ ">"
  | square, x => "[" ++ x ++ "]"

theorem to_list_wrap (b : Brackets) (x : String) : (b.wrap x).toList = b.enclose x.toList := by
  cases b <;> simp [wrap, enclose, left, right]

theorem left_not_letter (b : Brackets) : b.left.isAlpha = false := by
  cases b <;> rfl

theorem right_not_letter (b : Brackets) : b.right.isAlpha = false := by
  cases b <;> rfl

/-- Brackets are no letters, so they stay when letters are made small. -/
theorem map_lower_eq_enclose {b : Brackets} {cs z : List Char} :
    cs.map Char.toLower = b.enclose z ↔
      ∃ x, cs = b.enclose x ∧ x.map Char.toLower = z := by
  constructor
  · intro h
    obtain ⟨c, ds, rfl, hc, hds⟩ := List.map_eq_cons_iff.mp h
    obtain ⟨x, es, rfl, hx, hes⟩ := List.map_eq_append_iff.mp hds
    obtain ⟨d, rfl, hd⟩ := List.map_eq_singleton_iff.mp hes
    rw [Text.to_lower_eq_iff b.left_not_letter] at hc
    rw [Text.to_lower_eq_iff b.right_not_letter] at hd
    exact ⟨x, by rw [hc, hd, enclose], hx⟩
  · rintro ⟨x, rfl, rfl⟩
    have hleft : b.left.toLower = b.left := (Text.to_lower_eq_iff b.left_not_letter).mpr rfl
    have hright : b.right.toLower = b.right := (Text.to_lower_eq_iff b.right_not_letter).mpr rfl
    rw [enclose, List.map_cons, List.map_append, List.map_singleton, hleft, hright, enclose]

end Brackets

/-! Arguments. -/

theorem enclosed_eq_some_iff {left right : Char} {cs inner : List Char} :
    enclosed? left right cs = some inner ↔ cs = left :: (inner ++ [right]) := by
  cases cs with
  | nil => simp [enclosed?]
  | cons c cs =>
    simp only [enclosed?, Option.ite_none_right_eq_some, Bool.and_eq_true, beq_iff_eq,
      Option.some.injEq, List.cons.injEq]
    constructor
    · rintro ⟨⟨rfl, hlast⟩, rfl⟩
      exact ⟨rfl, (List.dropLast_append_getLast? right hlast).symm⟩
    · rintro ⟨rfl, rfl⟩
      exact ⟨⟨rfl, List.getLast?_concat⟩, List.dropLast_concat⟩

/-- An argument stands in brackets of either style and is trimmed; a blank one does not count. -/
theorem argument_eq_some_iff {name : String} {cs inner : List Char} :
    argument? name cs = some inner ↔
      ∃ b x, cs = name.toList ++ Brackets.enclose b x ∧ Text.trimmed x = inner ∧ inner ≠ [] := by
  simp only [argument?, Option.bind_eq_bind, Option.bind_eq_some_iff,
    List.isPrefixOf?_eq_some_iff_append_eq, Option.orElse_eq_orElse, Option.orElse_eq_or,
    Option.or_eq_some_iff, enclosed_eq_some_iff, Option.ite_none_left_eq_some,
    Option.some.injEq, List.isEmpty_iff]
  constructor
  · rintro ⟨rest, rfl, x, hrest, hne, rfl⟩
    rcases hrest with rfl | ⟨-, rfl⟩
    · exact ⟨.angle, x, rfl, rfl, hne⟩
    · exact ⟨.square, x, rfl, rfl, hne⟩
  · rintro ⟨b, x, rfl, rfl, hne⟩
    refine ⟨b.enclose x, rfl, x, ?_, hne, rfl⟩
    cases b with
    | angle => exact Or.inl rfl
    | square => exact Or.inr ⟨by rfl, rfl⟩

/-- The words for a sequence. -/
def sequenceWords : List String := ["array", "list"]

theorem sequence_argument_eq_some_iff {cs inner : List Char} :
    sequenceArgument? cs = some inner ↔ ∃ w ∈ sequenceWords, argument? w cs = some inner := by
  rw [sequenceArgument?, Option.orElse_eq_orElse, Option.orElse_eq_or, Option.or_eq_some_iff]
  simp only [sequenceWords, List.mem_cons, List.not_mem_nil, or_false, exists_eq_or_imp,
    exists_eq_left]
  refine or_congr_right ⟨And.right, fun hlist => ⟨?_, hlist⟩⟩
  -- a name that begins with one word does not begin with the other
  rw [Option.eq_none_iff_forall_ne_some]
  intro other harray
  obtain ⟨b, x, hx, -⟩ := argument_eq_some_iff.mp harray
  obtain ⟨d, y, hy, -⟩ := argument_eq_some_iff.mp hlist
  rw [hx] at hy
  cases hy

/-- No name of a sequence is one of a matrix. -/
theorem argument_matrix_of_sequence {cs inner : List Char}
    (h : sequenceArgument? cs = some inner) : argument? "matrix" cs = none := by
  obtain ⟨w, hw, hargument⟩ := sequence_argument_eq_some_iff.mp h
  obtain ⟨b, x, rfl, -⟩ := argument_eq_some_iff.mp hargument
  rw [Option.eq_none_iff_forall_ne_some]
  intro other hmatrix
  obtain ⟨d, y, hy, -⟩ := argument_eq_some_iff.mp hmatrix
  simp only [sequenceWords, List.mem_cons, List.not_mem_nil, or_false] at hw
  rcases hw with rfl | rfl <;> cases hy

/-! Names in small letters. -/

/-- A name with brackets is neither that of a scalar nor of a shape without an argument. -/
theorem of_lower_of_bracket {cs : List Char} {b : Brackets} (h : b.left ∈ cs) :
    scalars.contains (String.ofList cs) = false ∧ shapes.lookup (String.ofList cs) = none := by
  have hscalars : ∀ s ∈ scalars, b.left ∉ s.toList := by cases b <;> decide
  have hshapes : ∀ m ∈ shapes, b.left ∉ m.1.toList := by cases b <;> decide
  have hmem : b.left ∈ (String.ofList cs).toList := by rwa [String.toList_ofList]
  constructor
  · rw [← Bool.not_eq_true, List.contains_iff_mem]
    exact fun hname => hscalars _ hname hmem
  · rw [List.lookup_eq_none_iff]
    intro m hm
    rw [bne_iff_ne]
    intro hname
    exact hshapes m hm (by rwa [← hname])

theorem of_lower_matrix {cs inner : List Char} (h : argument? "matrix" cs = some inner) :
    ofLower? cs = some ((FormatSpec.ofBaseType .matrix).withElement (String.ofList inner)) := by
  obtain ⟨b, x, hcs, -⟩ := argument_eq_some_iff.mp h
  obtain ⟨hscalars, hshapes⟩ :=
    @of_lower_of_bracket cs b (by rw [hcs, Brackets.enclose]; simp)
  simp only [ofLower?, hscalars, hshapes, h, Bool.false_eq_true, if_false]

/-- A sequence of what is itself a sequence is a matrix, any other one is an array. -/
theorem of_lower_sequence {cs inner : List Char} (h : sequenceArgument? cs = some inner) :
    ofLower? cs = some (match sequenceArgument? inner with
      | some element => (FormatSpec.ofBaseType .matrix).withElement (String.ofList element)
      | none => (FormatSpec.ofBaseType .array).withElement (String.ofList inner)) := by
  have hmatrix := argument_matrix_of_sequence h
  obtain ⟨w, -, hargument⟩ := sequence_argument_eq_some_iff.mp h
  obtain ⟨b, x, hcs, -⟩ := argument_eq_some_iff.mp hargument
  obtain ⟨hscalars, hshapes⟩ :=
    @of_lower_of_bracket cs b (by rw [hcs, Brackets.enclose]; simp)
  simp only [ofLower?, hscalars, hshapes, hmatrix, h, Bool.false_eq_true, if_false,
    Option.bind_eq_bind, Option.bind_some]
  cases sequenceArgument? inner <;> rfl

/-! Spellings. -/

/-- The name as it is read: trimmed and in small letters. -/
def lowered (s : String) : List Char := (Text.trimmed s.toList).map Char.toLower

theorem to_spec_eq (s : String) : toSpec? s = ofLower? (lowered s) := rfl

theorem lowered_eq (s : String) : lowered s = Text.trimmed (s.toList.map Char.toLower) :=
  (Text.trimmed_map_lower s.toList).symm

theorem lowered_trim (s : String) : lowered (Text.trim s) = lowered s := by
  rw [lowered, Text.trim, String.toList_ofList, Text.trimmed_trimmed, lowered]

theorem of_list_lowered (s : String) :
    String.ofList (lowered s) = Text.lowerAscii (Text.trim s) := by
  rw [Text.lowerAscii, Text.trim, String.toList_ofList, lowered]

theorem lowered_ne_nil_iff (s : String) : lowered s ≠ [] ↔ Text.isBlankText s = false := by
  rw [Text.not_blank_iff_trimmed, lowered, ne_eq, ne_eq, List.map_eq_nil_iff]

/-- The text gives the argument to one of the words, in any letter case and style of brackets. -/
def Applies (words : List String) (s x : String) : Prop :=
  ∃ name b, Text.lowerAscii name ∈ words ∧ s = name ++ Brackets.wrap b x

theorem trimmed_applied {w : List Char} (hw : Text.beginsVisible w = true) (b : Brackets)
    (x : List Char) : Text.trimmed (w ++ b.enclose x) = w ++ b.enclose x := by
  have hbegins : Text.beginsVisible (w ++ b.enclose x) = true := by
    cases w with
    | nil => cases hw
    | cons c w => exact hw
  have hright : Text.isBlank b.right = false := by cases b <;> decide
  have hends : Text.endsVisible (w ++ b.enclose x) = true := by
    rw [Brackets.enclose, ← List.cons_append, ← List.append_assoc, Text.endsVisible,
      List.getLast?_concat, Option.any_some, hright]
    rfl
  exact Text.trimmed_whole hbegins hends

/-- Whatever the spelling, the argument is read as it is read on its own. -/
theorem argument_of_applies {words : List String} {s x : String} (h : Applies words s x)
    (hwords : ∀ w ∈ words, Text.beginsVisible w.toList = true)
    (hx : Text.isBlankText x = false) :
    ∃ w ∈ words, argument? w (lowered s) = some (lowered x) := by
  obtain ⟨name, b, hname, rfl⟩ := h
  have hlower : (name ++ b.wrap x).toList.map Char.toLower =
      (Text.lowerAscii name).toList ++ b.enclose (x.toList.map Char.toLower) := by
    rw [String.toList_append, List.map_append, Brackets.to_list_wrap, Text.lowerAscii,
      String.toList_ofList, Brackets.map_lower_eq_enclose.mpr ⟨_, rfl, rfl⟩]
  -- the word and the brackets are visible, so only the argument is trimmed
  have hread : lowered (name ++ b.wrap x) =
      (Text.lowerAscii name).toList ++ b.enclose (x.toList.map Char.toLower) := by
    rw [lowered_eq, hlower, trimmed_applied (hwords _ hname)]
  have hargument : Text.trimmed (x.toList.map Char.toLower) = lowered x := (lowered_eq x).symm
  have hne : lowered x ≠ [] := (lowered_ne_nil_iff x).mpr hx
  exact ⟨_, hname, argument_eq_some_iff.mpr ⟨b, _, hread, hargument, hne⟩⟩

/-- A name that is read as a word with an argument is a spelling of it. -/
theorem applies_of_argument {words : List String} {s : String} {w : String} {inner : List Char}
    (hw : w ∈ words) (h : argument? w (lowered s) = some inner) :
    ∃ x, Text.isBlankText x = false ∧ Applies words (Text.trim s) x := by
  obtain ⟨b, z, hread, htrimmed, hne⟩ := argument_eq_some_iff.mp h
  obtain ⟨front, back, hsplit, hfront, hback⟩ := List.map_eq_append_iff.mp hread
  obtain ⟨y, hy, hz⟩ := Brackets.map_lower_eq_enclose.mp hback
  have hvisible : Text.isBlankText (String.ofList y) = false := by
    rw [← lowered_ne_nil_iff, lowered_eq, String.toList_ofList, hz, htrimmed]
    exact hne
  have hname : Text.lowerAscii (String.ofList front) ∈ words := by
    rwa [Text.lowerAscii, String.toList_ofList, hfront, String.ofList_toList]
  have htext : Text.trim s = String.ofList front ++ b.wrap (String.ofList y) := by
    rw [← String.toList_inj, Text.trim, String.toList_ofList, hsplit, hy, String.toList_append,
      Brackets.to_list_wrap, String.toList_ofList, String.toList_ofList]
  exact ⟨String.ofList y, hvisible, String.ofList front, b, hname, htext⟩

/-- The text names sequences of the element. -/
def NamesSequence (s x : String) : Prop := Applies sequenceWords s x

/-- The text names matrices of the element: by the word for them or as sequences of sequences,
with white space around the inner one or without. -/
inductive NamesMatrix : String → String → Prop where
  | word {s x : String} (h : Applies ["matrix"] s x) : NamesMatrix s x
  | nested {s y x : String} (outer : NamesSequence s y) (inner : NamesSequence (Text.trim y) x) :
    NamesMatrix s x

theorem sequence_argument_of_names {s x : String} (h : NamesSequence s x)
    (hx : Text.isBlankText x = false) : sequenceArgument? (lowered s) = some (lowered x) :=
  sequence_argument_eq_some_iff.mpr (argument_of_applies h (by decide) hx)

theorem to_spec_of_names_sequence {s x : String} (h : NamesSequence s x)
    (hx : Text.isBlankText x = false) :
    toSpec? s = some (match sequenceArgument? (lowered x) with
      | some element => (FormatSpec.ofBaseType .matrix).withElement (String.ofList element)
      | none =>
        (FormatSpec.ofBaseType .array).withElement (Text.lowerAscii (Text.trim x))) := by
  rw [to_spec_eq, of_lower_sequence (sequence_argument_of_names h hx), of_list_lowered]

/-- What holds the name of a sequence is not blank. -/
theorem not_blank_of_names {y x : String} (h : NamesSequence (Text.trim y) x)
    (hx : Text.isBlankText x = false) : Text.isBlankText y = false := by
  have hread := sequence_argument_of_names h hx
  rw [lowered_trim] at hread
  rw [← lowered_ne_nil_iff]
  intro hnil
  rw [hnil] at hread
  cases hread

theorem to_spec_of_names_matrix {s x : String} (h : NamesMatrix s x)
    (hx : Text.isBlankText x = false) :
    toSpec? s =
      some ((FormatSpec.ofBaseType .matrix).withElement (Text.lowerAscii (Text.trim x))) := by
  cases h with
  | word h =>
    obtain ⟨w, hw, hargument⟩ := argument_of_applies h (by decide) hx
    rw [List.mem_singleton.mp hw] at hargument
    rw [to_spec_eq, of_lower_matrix hargument, of_list_lowered]
  | nested outer inner =>
    have hinner := sequence_argument_of_names inner hx
    rw [lowered_trim] at hinner
    rw [to_spec_of_names_sequence outer (not_blank_of_names inner hx), hinner,
      ← of_list_lowered x]

theorem to_spec_padded {b w : String} (hb : Text.isBlankText b = true)
    (hw : Text.isBlankText w = true) (s : String) : toSpec? (b ++ s ++ w) = toSpec? s := by
  have hfront : ∀ c ∈ b.toList, Text.isBlank c = true := List.all_eq_true.mp hb
  have hback : ∀ c ∈ w.toList, Text.isBlank c = true := List.all_eq_true.mp hw
  have htrimmed : Text.trimmed (b ++ s ++ w).toList = Text.trimmed s.toList := by
    rw [String.toList_append, String.toList_append, Text.trimmed_append_blank hback,
      Text.trimmed_blank_append hfront]
  rw [toSpec?, htrimmed, toSpec?]

theorem to_spec_of_same_letters {s t : String} (h : Text.lowerAscii s = Text.lowerAscii t) :
    toSpec? s = toSpec? t := by
  have hletters : s.toList.map Char.toLower = t.toList.map Char.toLower := by
    rw [← @String.toList_ofList (s.toList.map _), ← @String.toList_ofList (t.toList.map _)]
    exact congrArg String.toList h
  rw [to_spec_eq, to_spec_eq, lowered_eq, lowered_eq, hletters]

/-- All names for sequences of an element name one shape, which is an array of the element unless
the element names a sequence itself; all names for matrices of it name the matrix. No name depends
on the white space around it or on letter case. -/
theorem to_spec_of_spellings {x : String} (hx : Text.isBlankText x = false) :
    (∀ s t, NamesSequence s x → NamesSequence t x →
      toSpec? s = toSpec? t ∧ (toSpec? s).isSome = true) ∧
    (∀ s, NamesMatrix s x → toSpec? s =
      some ((FormatSpec.ofBaseType .matrix).withElement (Text.lowerAscii (Text.trim x)))) ∧
    (∀ s, NamesSequence s x →
      (∀ y, Text.isBlankText y = false → ¬ NamesSequence (Text.trim x) y) → toSpec? s =
        some ((FormatSpec.ofBaseType .array).withElement (Text.lowerAscii (Text.trim x)))) ∧
    (∀ s b w, Text.isBlankText b = true → Text.isBlankText w = true →
      toSpec? (b ++ s ++ w) = toSpec? s) ∧
    ∀ s t, Text.lowerAscii s = Text.lowerAscii t → toSpec? s = toSpec? t := by
  refine ⟨?_, fun s hs => to_spec_of_names_matrix hs hx, ?_,
    fun s b w hb hw => to_spec_padded hb hw s, fun s t => to_spec_of_same_letters⟩
  · intro s t hs ht
    have hspec := to_spec_of_names_sequence hs hx
    have hother := to_spec_of_names_sequence ht hx
    refine ⟨hspec.trans hother.symm, ?_⟩
    rw [hspec]
    rfl
  · intro s hs hflat
    have hnone : sequenceArgument? (lowered x) = none := by
      rw [Option.eq_none_iff_forall_ne_some]
      intro inner hinner
      obtain ⟨w, hw, hargument⟩ := sequence_argument_eq_some_iff.mp hinner
      obtain ⟨y, hy, hnames⟩ := applies_of_argument hw hargument
      exact hflat y hy hnames
    rw [to_spec_of_names_sequence hs hx, hnone]

/-- A matrix in both styles of brackets, with an element that holds brackets and a comma. -/
theorem to_spec_of_mixed_brackets :
    Text.isBlankText " Map<K, V[]> " = false ∧
      toSpec? "List[ array< Map<K, V[]> > ]" =
        some ((FormatSpec.ofBaseType .matrix).withElement "map<k, v[]>") := by
  have hvisible : Text.isBlankText " Map<K, V[]> " = false := by decide
  have houter : NamesSequence "List[ array< Map<K, V[]> > ]" " array< Map<K, V[]> > " :=
    ⟨"List", .square, by decide, by decide⟩
  have hinner : NamesSequence (Text.trim " array< Map<K, V[]> > ") " Map<K, V[]> " :=
    ⟨"array", .angle, by decide, by decide⟩
  obtain ⟨-, hmatrix, -⟩ := to_spec_of_spellings hvisible
  have helement : Text.lowerAscii (Text.trim " Map<K, V[]> ") = "map<k, v[]>" := by decide
  rw [← helement]
  exact ⟨hvisible, hmatrix _ (.nested houter hinner)⟩

end CodeJudge.TypeName
