import CodeJudge.Literal.Cpp
import CodeJudge.Proofs.Literal.Escape
/-!
C++ literals read by the rules of C++17: simple, octal and hexadecimal escapes and universal
character names. A text of any characters is read as it was written.
-/
namespace CodeJudge.Literal.Cpp

/-- What a simple escape stands for. -/
def simpleEscape? (c : Char) : Option Char :=
  [('\'', '\''), ('"', '"'), ('?', '?'), ('\\', '\\'), ('a', '\x07'), ('b', '\x08'),
    ('f', '\x0c'), ('n', '\n'), ('r', '\r'), ('t', '\t'), ('v', '\x0b')].lookup c

/-- The value of a digit in base eight. -/
def octalValue? (c : Char) : Option Nat :=
  if '0' ≤ c ∧ c ≤ '7' then some (c.toNat - '0'.toNat) else none

/-- The number that digits in base sixteen write. -/
def hexNumber? (ds : List Char) : Option Nat :=
  ds.foldlM (fun n d => (Json.hexValue? d).map (16 * n + ·)) 0

/-- The character of a numeric escape. Beyond ASCII such an escape is a code unit and by itself no
character. -/
def ofCode? (n : Nat) : Option Char := if n < 0x80 then some (Char.ofNat n) else none

/-- The character that a universal character name with `count` digits names, and what follows. -/
def universal? (count : Nat) (cs : List Char) : Option (Char × List Char) :=
  if cs.length < count then none
  else
    (hexNumber? (cs.take count)).bind fun n =>
      if n.isValidChar then some (Char.ofNat n, cs.drop count) else none

/-- What follows a backslash. -/
def escapeTail? : List Char → Option (Char × List Char)
  | [] => none
  | 'x' :: cs =>
    let ds := cs.takeWhile fun d => (Json.hexValue? d).isSome
    if ds.isEmpty then none
    else ((hexNumber? ds).bind ofCode?).map (·, cs.drop ds.length)
  | 'u' :: cs => universal? 4 cs
  | 'U' :: cs => universal? 8 cs
  | c :: cs =>
    match simpleEscape? c with
    | some d => some (d, cs)
    | none =>
      match octalValue? c with
      | some d =>
        let (n, rest) := takeOctal octalValue? 2 d cs
        (ofCode? n).map (·, rest)
      | none => none

/-- One character inside quotes: an escape, or one that is neither the quote nor a line end. -/
def readChar? (quote : Char) : List Char → Option (Char × List Char)
  | [] => none
  | c :: cs =>
    if c = '\\' then escapeTail? cs
    else if c = quote ∨ c = '\n' ∨ c = '\r' then none
    else some (c, cs)

theorem length_universal {count : Nat} {cs rest : List Char} {c : Char}
    (h : universal? count cs = some (c, rest)) : rest.length ≤ cs.length := by
  rw [universal?] at h
  split_ifs at h
  obtain ⟨n, -, hn⟩ := Option.bind_eq_some_iff.mp h
  split_ifs at hn
  cases hn
  simp

theorem length_escape_tail {cs rest : List Char} {c : Char}
    (h : escapeTail? cs = some (c, rest)) : rest.length ≤ cs.length := by
  unfold escapeTail? at h
  split at h
  · cases h
  · dsimp only at h
    split_ifs at h
    obtain ⟨d, -, hd⟩ := Option.map_eq_some_iff.mp h
    cases hd
    simp
    omega
  · exact Nat.le_succ_of_le (length_universal h)
  · exact Nat.le_succ_of_le (length_universal h)
  · split at h
    · cases h
      exact Nat.le_succ _
    · split at h
      · obtain ⟨d, -, hd⟩ := Option.map_eq_some_iff.mp h
        cases hd
        exact Nat.le_succ_of_le (length_take_octal _ _ _ _)
      · cases h

/-- Characters inside quotes, one by one. -/
def charReader (quote : Char) : ItemReader Char Char where
  read? := readChar? quote
  shrinks := by
    intro cs b rest h
    cases cs with
    | nil => cases h
    | cons c cs =>
      rw [readChar?] at h
      split_ifs at h
      · exact Nat.lt_succ_of_le (length_escape_tail h)
      · cases h
        exact Nat.lt_succ_self _

/-- The text of a string literal, and what follows it. -/
def readString? : List Char → Option (List Char × List Char)
  | '"' :: cs => (charReader '"').body? '"' cs
  | _ => none

/-- The text of a string literal that is all there is up to the end of a declaration. -/
def initialText? (cs : List Char) : Option (List Char) :=
  match readString? cs with
  | some (text, [';']) => some text
  | _ => none

theorem octal_value_digit {d : Nat} (h : d < 8) : octalValue? (Nat.digitChar d) = some d := by
  interval_cases d <;> rfl

theorem escape_tail_digit {d : Nat} (h : d < 8) (cs : List Char) :
    escapeTail? (Nat.digitChar d :: cs) =
      (ofCode? (takeOctal octalValue? 2 d cs).1).map (·, (takeOctal octalValue? 2 d cs).2) := by
  interval_cases d <;> rfl

theorem escape_tail_octal3 {n : Nat} (h : n < 0x80) (rest : List Char) :
    escapeTail? (octal3 n ++ rest) = some (Char.ofNat n, rest) := by
  have hdigits : takeOctal octalValue? 3 0 (octal3 n ++ rest) = (n, rest) := by
    have htake := take_octal_octal3 (id : Char → Char) (fun d hd => octal_value_digit hd)
      (show n < 512 by omega) rest
    rwa [List.map_id] at htake
  rw [octal3, List.cons_append] at hdigits ⊢
  have hlead : n / 64 % 8 < 8 := Nat.mod_lt _ (by decide)
  rw [take_octal_digit (octal_value_digit hlead), Nat.mul_zero, Nat.zero_add] at hdigits
  rw [escape_tail_digit hlead, hdigits, ofCode?, if_pos h]
  rfl

theorem read_backslash (quote : Char) (cs : List Char) :
    readChar? quote ('\\' :: cs) = escapeTail? cs := by
  rw [readChar?, if_pos rfl]

theorem read_quote {quote : Char} (h : quote ≠ '\\') (cs : List Char) :
    readChar? quote (quote :: cs) = none := by
  rw [readChar?, if_neg h, if_pos (Or.inl rfl)]

/-- A character is read as it was written, whatever follows it. -/
theorem read_escape {quote : Char} (hquote : quote = '"' ∨ quote = '\'') (c : Char)
    (rest : List Char) : readChar? quote (escape quote c ++ rest) = some (c, rest) := by
  rw [escape]
  rcases escape_common_cases quote c with ⟨hself, h⟩ | ⟨rfl, h⟩ | ⟨rfl, h⟩ | ⟨rfl, h⟩ | ⟨hc, h⟩ |
    ⟨hslash, hne, hc, h⟩
  · rw [h]
    rcases hquote with rfl | rfl <;> rcases hself with rfl | rfl <;> rfl
  · rw [h]
    rfl
  · rw [h]
    rfl
  · rw [h]
    rfl
  · rw [h]
    show readChar? quote ('\\' :: (octal3 c.toNat ++ rest)) = _
    rw [read_backslash, escape_tail_octal3 (by omega), Char.ofNat_toNat]
  · rw [h]
    dsimp only
    -- the one control character that is left is written in base eight too
    split_ifs with hdelete
    · rw [beq_iff_eq] at hdelete
      rw [List.cons_append, read_backslash, escape_tail_octal3 (by decide), ← hdelete,
        Char.ofNat_toNat]
    · have hfeed : c ≠ '\n' := by
        rintro rfl
        exact absurd hc (by decide)
      have hreturn : c ≠ '\r' := by
        rintro rfl
        exact absurd hc (by decide)
      rw [List.singleton_append, readChar?, if_neg hslash, if_neg (by simp [hne, hfeed, hreturn])]

/-- A string literal is read as the text that it was written for. -/
theorem read_string (s : String) (rest : List Char) :
    readString? ((string s).toList ++ rest) = some (s.toList, rest) := by
  have hbody : (charReader '"').body? '"' (s.toList.flatMap (escape '"') ++ '"' :: rest) =
      some (s.toList.map id, rest) := by
    apply ItemReader.body_flat_map
    · intro c _ more
      exact read_escape (Or.inl rfl) c more
    · intro more
      have hslash : '"' ≠ '\\' := by decide
      exact read_quote hslash more
  rw [List.map_id] at hbody
  simpa [string, readString?] using hbody

theorem initial_text_string (s : String) :
    initialText? ((string s).toList ++ [';']) = some s.toList := by
  rw [initialText?, read_string]
  rfl

end CodeJudge.Literal.Cpp
