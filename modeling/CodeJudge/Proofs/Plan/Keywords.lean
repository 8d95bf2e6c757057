import CodeJudge.Proofs.Plan.Variables
/-!
Keywords. A variable is an identifier in every target, and the name of its parameter is kept
wherever every target allows it. But the names that are held back are not all the words that the
four languages reserve, so a parameter may be given a keyword for a variable.
-/
namespace CodeJudge

/-- The words that a language reserves, and the literals that have the form of words. JavaScript
has those of strict code and of modules too. -/
def Target.keywords : Target → List String
  | python =>
    ["False", "None", "True", "and", "as", "assert", "async", "await", "break", "class",
      "continue", "def", "del", "elif", "else", "except", "finally", "for", "from", "global",
      "if", "import", "in", "is", "lambda", "nonlocal", "not", "or", "pass", "raise", "return",
      "try", "while", "with", "yield"]
  | javascript =>
    ["await", "break", "case", "catch", "class", "const", "continue", "debugger", "default",
      "delete", "do", "else", "enum", "export", "extends", "false", "finally", "for", "function",
      "if", "implements", "import", "in", "instanceof", "interface", "let", "new", "null",
      "package", "private", "protected", "public", "return", "static", "super", "switch", "this",
      "throw", "true", "try", "typeof", "var", "void", "while", "with", "yield"]
  | cpp =>
    ["alignas", "alignof", "and", "and_eq", "asm", "auto", "bitand", "bitor", "bool", "break",
      "case", "catch", "char", "char16_t", "char32_t", "class", "compl", "const", "const_cast",
      "constexpr", "continue", "decltype", "default", "delete", "do", "double", "dynamic_cast",
      "else", "enum", "explicit", "export", "extern", "false", "float", "for", "friend", "goto",
      "if", "inline", "int", "long", "mutable", "namespace", "new", "noexcept", "not", "not_eq",
      "nullptr", "operator", "or", "or_eq", "private", "protected", "public", "register",
      "reinterpret_cast", "return", "short", "signed", "sizeof", "static", "static_assert",
      "static_cast", "struct", "switch", "template", "this", "thread_local", "throw", "true",
      "try", "typedef", "typeid", "typename", "union", "unsigned", "using", "virtual", "void",
      "volatile", "wchar_t", "while", "xor", "xor_eq"]
  | java =>
    ["_", "abstract", "assert", "boolean", "break", "byte", "case", "catch", "char", "class",
      "const", "continue", "default", "do", "double", "else", "enum", "extends", "false", "final",
      "finally", "float", "for", "goto", "if", "implements", "import", "instanceof", "int",
      "interface", "long", "native", "new", "null", "package", "private", "protected", "public",
      "return", "short", "static", "strictfp", "super", "switch", "synchronized", "this", "throw",
      "throws", "transient", "true", "try", "void", "volatile", "while"]

namespace VariableName

/-- A name of ASCII letters, ASCII digits and underscores that does not begin with a digit. -/
structure IsIdentifier (cs : List Char) : Prop where
  ne_nil : cs ≠ []
  chars : ∀ c ∈ cs, c.isAlphanum = true ∨ c = '_'
  head : ∀ c ∈ cs.head?, c.isDigit = false

/-- A name that a variable can have in a program for any target. -/
structure IsUsable (name : String) : Prop where
  identifier : IsIdentifier name.toList
  head : name.toList.head? ≠ some '_'
  free : ∀ t : Target, name ∉ t.keywords

theorem is_plain_iff (cs : List Char) :
    isPlain cs = true ↔ IsIdentifier cs ∧ cs.head? ≠ some '_' := by
  cases cs with
  | nil => exact ⟨fun h => (Bool.false_ne_true h).elim, fun h => absurd rfl h.1.ne_nil⟩
  | cons c cs =>
    have hname : ∀ d, isNameChar d = true ↔ d.isAlphanum = true ∨ d = '_' := by
      intro d
      rw [isNameChar, Bool.or_eq_true, beq_iff_eq]
    rw [isPlain, Bool.and_eq_true, List.all_eq_true]
    constructor
    · rintro ⟨hletter, hrest⟩
      refine ⟨⟨by simp, ?_, ?_⟩, ?_⟩
      · intro d hd
        rcases List.mem_cons.mp hd with rfl | hd
        · exact .inl (by rw [Char.isAlphanum, hletter, Bool.true_or])
        · exact (hname d).mp (hrest d hd)
      · rintro d ⟨⟩
        exact Json.not_digit_of_letter hletter
      · rintro ⟨⟩
        exact absurd hletter (by decide)
    · rintro ⟨hidentifier, hhead⟩
      have hdigit : c.isDigit = false := hidentifier.head c rfl
      -- the first character is neither a digit nor an underscore, so it is a letter
      have hletter : c.isAlphanum = true := by
        refine (hidentifier.chars c List.mem_cons_self).resolve_right ?_
        rintro rfl
        exact hhead rfl
      rw [Char.isAlphanum, hdigit, Bool.or_false] at hletter
      exact ⟨hletter, fun d hd => (hname d).mpr (hidentifier.chars d (List.mem_cons_of_mem c hd))⟩

/-- The keywords that are taken for plain names. -/
def overlooked : List String :=
  ["False", "True", "abstract", "alignas", "alignof", "and_eq", "asm", "assert", "async", "await",
    "bitand", "bitor", "boolean", "byte", "char16_t", "char32_t", "compl", "const_cast",
    "constexpr", "debugger", "decltype", "del", "dynamic_cast", "elif", "except", "explicit",
    "export", "extends", "extern", "finally", "friend", "from", "global", "goto", "implements",
    "inline", "instanceof", "interface", "lambda", "mutable", "namespace", "native", "noexcept",
    "nonlocal", "not_eq", "nullptr", "operator", "or_eq", "package", "private", "protected",
    "public", "raise", "register", "reinterpret_cast", "short", "signed", "sizeof",
    "static_assert", "static_cast", "strictfp", "super", "synchronized", "template",
    "thread_local", "throws", "transient", "typedef", "typeid", "typename", "typeof", "union",
    "unsigned", "using", "virtual", "volatile", "wchar_t", "xor", "xor_eq"]

/-- One computation for all words, by their characters. -/
theorem exists_spelled : ∃ missed held words : List (List Char),
    Text.Spelled missed overlooked ∧ Text.Spelled held reserved ∧
    Text.Spelled words (Target.all.flatMap Target.keywords) ∧
    (∀ cs ∈ missed, isPlain cs = true ∧ cs ∉ held ∧ cs ∈ words) ∧
    (∀ cs ∈ words, isPlain cs = true → cs ∉ held → cs ∈ missed) ∧
    (∀ cs ∈ held, cs = "string".toList ∨ cs ∈ words) ∧
    ∀ cs ∈ words, cs.take 3 ≠ ['a', 'r', 'g'] :=
  ⟨_, _, _, by repeat' constructor, by repeat' constructor, by repeat' constructor,
    by decide +kernel⟩

theorem mem_words_iff (w : String) :
    w ∈ Target.all.flatMap Target.keywords ↔ ∃ t : Target, w ∈ t.keywords := by
  rw [List.mem_flatMap]
  exact ⟨fun ⟨t, _, hw⟩ => ⟨t, hw⟩, fun ⟨t, hw⟩ => ⟨t, Target.mem_all t, hw⟩⟩

theorem mem_overlooked_iff (w : String) :
    w ∈ overlooked ↔ isPlain w.toList = true ∧ w ∉ reserved ∧ ∃ t : Target, w ∈ t.keywords := by
  obtain ⟨missed, held, words, hmissed, hheld, hwords, hfront, hback, -⟩ := exists_spelled
  rw [← mem_words_iff, hmissed.mem_iff, hheld.mem_iff, hwords.mem_iff]
  exact ⟨hfront w.toList, fun ⟨hplain, hfree, hw⟩ => hback w.toList hw hplain hfree⟩

/-- All words that are held back are keywords of some target, but for the name of a type. -/
theorem keyword_of_reserved {w : String} (h : w ∈ reserved) :
    w = "string" ∨ ∃ t : Target, w ∈ t.keywords := by
  obtain ⟨-, held, words, -, hheld, hwords, -, -, hkeyword, -⟩ := exists_spelled
  rw [← mem_words_iff, hwords.mem_iff, ← String.toList_inj]
  exact hkeyword w.toList (hheld.mem_iff.mp h)

/-- No keyword looks like a name that is made up. -/
theorem of_index_not_keyword (index : Nat) (t : Target) : ofIndex index ∉ t.keywords := by
  obtain ⟨-, -, words, -, -, hwords, -, -, -, hmade⟩ := exists_spelled
  intro h
  refine hmade _ (hwords.mem_iff.mp ((mem_words_iff _).mpr ⟨t, h⟩)) ?_
  rw [ofIndex, String.toList_append]
  rfl

theorem kept_eq_some_iff {name : Option String} {kept : String} :
    kept? name = some kept ↔
      name.map Text.trim = some kept ∧ isPlain kept.toList = true ∧ kept ∉ reserved := by
  rw [kept?, Option.filter_eq_some_iff]
  simp

/-- A name that every target allows is kept, unless it is the name of a type. -/
theorem of_param_of_usable {name : String} (h : IsUsable (Text.trim name))
    (htype : Text.trim name ≠ "string") (index : Nat) :
    ofParam (some name) index = Text.trim name := by
  have hplain := (is_plain_iff _).mpr ⟨h.identifier, h.head⟩
  have hreserved : Text.trim name ∉ reserved := by
    intro hmem
    obtain ⟨t, ht⟩ := (keyword_of_reserved hmem).resolve_left htype
    exact h.free t ht
  have hkept : kept? (some name) = some (Text.trim name) :=
    kept_eq_some_iff.mpr ⟨rfl, hplain, hreserved⟩
  rw [of_param_eq, hkept, Option.getD_some]

theorem free_iff (name : Option String) (index : Nat) :
    (∀ t : Target, ofParam name index ∉ t.keywords) ↔
      ∀ raw ∈ name, Text.trim raw ∉ overlooked := by
  rw [of_param_eq]
  cases hkept : kept? name with
  | none =>
    rw [Option.getD_none]
    refine iff_of_true (of_index_not_keyword index) ?_
    rintro raw rfl hmem
    -- a keyword that is overlooked would have been kept
    obtain ⟨hplain, hfree, -⟩ := (mem_overlooked_iff _).mp hmem
    have hsome : kept? (some raw) = some (Text.trim raw) :=
      kept_eq_some_iff.mpr ⟨rfl, hplain, hfree⟩
    rw [hkept] at hsome
    cases hsome
  | some kept =>
    obtain ⟨hname, hplain, hfree⟩ := kept_eq_some_iff.mp hkept
    obtain ⟨raw, rfl, rfl⟩ := Option.map_eq_some_iff.mp hname
    have hmem := mem_overlooked_iff (Text.trim raw)
    simp only [hplain, hfree, not_false_eq_true, true_and] at hmem
    simp [hmem]

/-- The name of a variable is an identifier that does not begin with an underscore, either the
trimmed name of the parameter or one that its place makes up. It can be used in every target if
and only if the parameter does not have one of the keywords that are overlooked for its name. A
name that can be used is not given up, unless it is the name of a type. -/
theorem usable_iff_not_overlooked (name : Option String) (index : Nat) :
    let v := ofParam name index
    (v = "arg" ++ toString index ∨ name.map Text.trim = some v) ∧
      IsIdentifier v.toList ∧ v.toList.head? ≠ some '_' ∧
      (IsUsable v ↔ ∀ raw ∈ name, Text.trim raw ∉ overlooked) ∧
      ∀ raw ∈ name, IsUsable (Text.trim raw) → Text.trim raw ≠ "string" → v = Text.trim raw := by
  intro v
  obtain ⟨hidentifier, hhead⟩ := (is_plain_iff v.toList).mp (is_plain_of_param name index)
  refine ⟨?_, hidentifier, hhead, ?_, ?_⟩
  · have hv : v = (kept? name).getD (ofIndex index) := of_param_eq name index
    cases hkept : kept? name with
    | none => exact .inl (by rw [hv, hkept, Option.getD_none, ofIndex])
    | some kept => exact .inr (by rw [hv, hkept, Option.getD_some, (kept_eq_some_iff.mp hkept).1])
  · rw [← free_iff name index]
    exact ⟨fun h => h.free, fun h => ⟨hidentifier, hhead, h⟩⟩
  · rintro raw rfl husable htype
    exact of_param_of_usable husable htype index

/-- White space around a name that is no keyword does not matter. -/
theorem usable_of_padded_name :
    Text.trim " from_2 " ∉ overlooked ∧ ofParam (some " from_2 ") 1 = "from_2" ∧
      IsUsable (ofParam (some " from_2 ") 1) := by
  have hfree : Text.trim " from_2 " ∉ overlooked := by decide
  obtain ⟨-, -, -, husable, -⟩ := usable_iff_not_overlooked (some " from_2 ") 1
  exact ⟨hfree, by decide, husable.mpr (by rintro _ ⟨⟩; exact hfree)⟩

/-- Python cannot assign to `from`, and yet it is the variable of a parameter of this name. -/
theorem not_usable_of_from :
    ofParam (some "from") 1 = "from" ∧ "from" ∈ Target.python.keywords ∧
      ¬ IsUsable (ofParam (some "from") 1) := by
  have hname : ofParam (some "from") 1 = "from" := by decide
  have hkeyword : "from" ∈ Target.python.keywords := by decide
  refine ⟨hname, hkeyword, fun h => ?_⟩
  rw [hname] at h
  exact h.free .python hkeyword

end VariableName

end CodeJudge
