import CodeJudge.Proofs.Literal.Cpp
import CodeJudge.Proofs.Literal.Java
import CodeJudge.Proofs.Literal.Printable
/-!
Literals of texts and characters, read back. A string literal of either language is read as the
text that it was written for, and nothing in it ends its line or closes it early. A character
literal holds one character of ASCII; for any other character it holds a space.
-/
namespace CodeJudge.Literal

/-- The characters of a text whose 16-bit units are given: a unit that is no surrogate, or a high
surrogate with a low one. -/
def Java.decode? : List Nat → Option (List Char)
  | [] => some []
  | u :: us =>
    if Json.isHighSurrogate u then
      match us with
      | v :: us =>
        if Json.isLowSurrogate v then (decode? us).map (Json.joinSurrogates u v :: ·) else none
      | [] => none
    else if Json.isLowSurrogate u then none
    else (decode? us).map (Char.ofNat u :: ·)

namespace Java

/-- A character is decoded from its units, whatever follows them. -/
theorem decode_units (c : Char) (rest : List Nat) :
    decode? (units c ++ rest) = (decode? rest).map (c :: ·) := by
  have hvalid : c.toNat < 0xD800 ∨ 0xDFFF < c.toNat ∧ c.toNat < 0x110000 := c.valid
  rw [units]
  split_ifs with hc
  · -- a character is no surrogate
    have hhigh : Json.isHighSurrogate c.toNat = false := by simp [Json.isHighSurrogate]; omega
    have hlow : Json.isLowSurrogate c.toNat = false := by simp [Json.isLowSurrogate]; omega
    rw [List.singleton_append, decode?.eq_def]
    simp only [hhigh, hlow, Bool.false_eq_true, if_false, Char.ofNat_toNat]
  · -- a character beyond the basic plane has a high surrogate and a low one
    have hhigh : Json.isHighSurrogate (0xD800 + (c.toNat - 0x10000) / 0x400) = true := by
      simp [Json.isHighSurrogate]; omega
    have hlow : Json.isLowSurrogate (0xDC00 + (c.toNat - 0x10000) % 0x400) = true := by
      simp [Json.isLowSurrogate]; omega
    have hjoin : Json.joinSurrogates (0xD800 + (c.toNat - 0x10000) / 0x400)
        (0xDC00 + (c.toNat - 0x10000) % 0x400) = c := by
      have hcode : 0x10000 + (0xD800 + (c.toNat - 0x10000) / 0x400 - 0xD800) * 0x400 +
          (0xDC00 + (c.toNat - 0x10000) % 0x400 - 0xDC00) = c.toNat := by omega
      rw [Json.joinSurrogates, hcode, Char.ofNat_toNat]
    simp only [List.cons_append, List.nil_append]
    rw [decode?.eq_def]
    simp only [hhigh, hlow, if_true, hjoin]

/-- The units of a text stand for the text and for no other one. -/
theorem decode_text_units (s : String) : decode? (textUnits s) = some s.toList := by
  rw [textUnits]
  induction s.toList with
  | nil => rfl
  | cons c cs ih => rw [List.flatMap_cons, decode_units, ih, Option.map_some]

/-- The unit of a character literal, and what follows it. -/
def readCharLiteral? : List Nat → Option (Nat × List Nat)
  | 0x27 :: us =>
    match (unitReader 0x27).body? 0x27 us with
    | some ([u], rest) => some (u, rest)
    | _ => none
  | _ => none

/-- A character literal of ASCII is read as its only unit, whatever follows it. -/
theorem read_char {c : Char} (hc : c.toNat < 128) (rest : List Char) :
    (translate? ((char c).toList ++ rest)).bind readCharLiteral? =
      (translate? rest).map (c.toNat, ·) := by
  have hunits : [c].flatMap units = [c.toNat] := by
    rw [List.flatMap_singleton, units, if_pos (by omega)]
  have hliteral : (char c).toList ++ rest =
      '\'' :: [c].flatMap (escape '\'') ++ '\'' :: rest := by simp [char]
  have hbody (us : List Nat) : (unitReader 0x27).body? 0x27
      ([c.toNat].flatMap (writeUnit '\'') ++ 0x27 :: us) = some ([c.toNat], us) :=
    body_units (Or.inr rfl) [c.toNat] us
  rw [hliteral, translate_quoted (Or.inr rfl), hunits]
  cases translate? rest with
  | none => rfl
  | some us =>
    show readCharLiteral? (0x27 :: ([c.toNat].flatMap (writeUnit '\'') ++ 0x27 :: us)) = _
    rw [readCharLiteral?, hbody us]
    rfl

end Java

namespace Cpp

/-- The character of a character literal, and what follows it. -/
def readCharLiteral? : List Char → Option (Char × List Char)
  | '\'' :: cs =>
    match (charReader '\'').body? '\'' cs with
    | some ([c], rest) => some (c, rest)
    | _ => none
  | _ => none

/-- A character literal is read as its only character, whatever follows it. -/
theorem read_char (c : Char) (rest : List Char) :
    readCharLiteral? ((char c).toList ++ rest) = some (c, rest) := by
  have hslash : '\'' ≠ '\\' := by decide
  have hliteral : (char c).toList ++ rest =
      '\'' :: ([c].flatMap (escape '\'') ++ '\'' :: rest) := by simp [char]
  have hbody : (charReader '\'').body? '\'' ([c].flatMap (escape '\'') ++ '\'' :: rest) =
      some ([c].map id, rest) := by
    apply ItemReader.body_flat_map
    · intro d _ more
      exact read_escape (Or.inr rfl) d more
    · intro more
      exact read_quote hslash more
  rw [hliteral, readCharLiteral?, hbody]
  rfl

end Cpp

theorem not_line_end_of_printable {cs : List Char} (h : Json.Printable cs) :
    '\n' ∉ cs ∧ '\r' ∉ cs :=
  ⟨fun hfeed => absurd (h _ hfeed) (by decide), fun hreturn => absurd (h _ hreturn) (by decide)⟩

theorem to_char_singleton (c : Char) :
    toChar (.string (String.singleton c)) = if c.toNat < 128 then c else ' ' := by
  rw [toChar, toText, String.toList_singleton]

/-- Whatever follows, a string literal is read as the text that it was written for, and a character
literal as the character that it was written for if that is one of ASCII, or else as a space. -/
theorem texts_read_back (t : String) (c : Char) (rest : List Char) :
    (Cpp.readString? ((Cpp.scalar (.string t) .string).toList ++ rest) = some (t.toList, rest) ∧
      (Java.translate? ((Java.string t).toList ++ rest)).bind Java.readString? =
        (Java.translate? rest).map (Java.textUnits t, ·) ∧
      Java.decode? (Java.textUnits t) = some t.toList) ∧
    (Cpp.readCharLiteral? ((Cpp.scalar (.string (String.singleton c)) .char).toList ++ rest) =
        some (if c.toNat < 128 then c else ' ', rest) ∧
      (Java.translate? ((Java.scalar (.string (String.singleton c)) .char).toList ++ rest)).bind
          Java.readCharLiteral? =
        (Java.translate? rest).map ((if c.toNat < 128 then c else ' ').toNat, ·)) ∧
    ∀ literal ∈ [Cpp.scalar (.string t) .string, Java.string t, Cpp.scalar (.string t) .char,
      Java.scalar (.string t) .char], '\n' ∉ literal.toList ∧ '\r' ∉ literal.toList := by
  have hascii : (if c.toNat < 128 then c else ' ').toNat < 128 := by
    split_ifs with h
    · exact h
    · decide
  refine ⟨⟨Cpp.read_string t rest, Java.read_string t rest, Java.decode_text_units t⟩, ?_, ?_⟩
  · rw [Cpp.scalar, Java.scalar, to_char_singleton]
    exact ⟨Cpp.read_char _ rest, Java.read_char hascii rest⟩
  · intro literal hliteral
    apply not_line_end_of_printable
    simp only [List.mem_cons, List.not_mem_nil, or_false] at hliteral
    rcases hliteral with rfl | rfl | rfl | rfl
    · exact Cpp.printable_scalar _ _
    · exact Java.printable_string t
    · exact Cpp.printable_scalar _ _
    · exact Java.printable_scalar _ _

/-- The character literals of a letter with an accent do not hold it. -/
theorem char_literals_lose_accent :
    Cpp.readCharLiteral? (Cpp.scalar (.string "\u00e9") .char).toList ≠ some ('\u00e9', []) ∧
    (Java.translate? (Java.scalar (.string "\u00e9") .char).toList).bind Java.readCharLiteral? ≠
      some (0xE9, []) := by
  have hcpp := Cpp.read_char ' ' []
  have hjava := Java.read_char (show ' '.toNat < 128 by decide) []
  rw [List.append_nil] at hcpp hjava
  constructor
  · show Cpp.readCharLiteral? (Cpp.char ' ').toList ≠ _
    rw [hcpp]
    decide
  · show (Java.translate? (Java.char ' ').toList).bind Java.readCharLiteral? ≠ _
    rw [hjava, Java.translate?]
    decide

end CodeJudge.Literal
