import CodeJudge.Literal.Java
import CodeJudge.Proofs.Literal.Escape
/-!
Java literals read by the rules of the language: the unicode escapes of the whole text are
translated first, and in the 16-bit units that are left a literal is read. A text of any characters
is read as its units.
-/
namespace CodeJudge.Literal.Java

/-- The units of a text whose unicode escapes are translated. A backslash begins no such escape
if an odd number of them stands in front of it. -/
def translate? : List Char → Option (List Nat)
  | [] => some []
  | '\\' :: '\\' :: cs => (translate? cs).map ([0x5C, 0x5C] ++ ·)
  | '\\' :: 'u' :: cs =>
    match _h : cs.dropWhile (· == 'u') with
    | h1 :: h2 :: h3 :: h4 :: rest =>
      (Json.unit? h1 h2 h3 h4).bind fun u => (translate? rest).map (u :: ·)
    | _ => none
  | c :: cs => (translate? cs).map (units c ++ ·)
termination_by cs => cs.length
decreasing_by
  · simp
  · have hle := (List.dropWhile_suffix (· == 'u') (l := cs)).length_le
    rw [_h] at hle
    simp at hle ⊢
    omega
  · simp

/-- What a character after a backslash stands for. -/
def simpleEscape? (u : Nat) : Option Nat :=
  ([('b', '\x08'), ('t', '\t'), ('n', '\n'), ('f', '\x0c'), ('r', '\r'), ('s', ' '), ('"', '"'),
    ('\'', '\''), ('\\', '\\')].map fun (c, d) => (c.toNat, d.toNat)).lookup u

/-- The value of a digit in base eight. -/
def octalValue? (u : Nat) : Option Nat := if 0x30 ≤ u ∧ u ≤ 0x37 then some (u - 0x30) else none

/-- What follows a backslash. Three digits in base eight begin with one below four. -/
def escapeTail? : List Nat → Option (Nat × List Nat)
  | [] => none
  | u :: us =>
    match simpleEscape? u with
    | some v => some (v, us)
    | none => (octalValue? u).map fun d => takeOctal octalValue? (if d < 4 then 2 else 1) d us

/-- One unit inside quotes: an escape, or one that is neither the quote nor a line end. -/
def readUnit? (quote : Nat) : List Nat → Option (Nat × List Nat)
  | [] => none
  | u :: us =>
    if u = 0x5C then escapeTail? us
    else if u = quote ∨ u = 0x0A ∨ u = 0x0D then none
    else some (u, us)

theorem length_escape_tail {us rest : List Nat} {u : Nat}
    (h : escapeTail? us = some (u, rest)) : rest.length ≤ us.length := by
  cases us with
  | nil => cases h
  | cons v us =>
    rw [escapeTail?] at h
    split at h
    · cases h
      exact Nat.le_succ _
    · obtain ⟨d, -, hd⟩ := Option.map_eq_some_iff.mp h
      have htake := length_take_octal octalValue? (if d < 4 then 2 else 1) d us
      rw [hd] at htake
      exact Nat.le_succ_of_le htake

/-- Units inside quotes, one by one. -/
def unitReader (quote : Nat) : ItemReader Nat Nat where
  read? := readUnit? quote
  shrinks := by
    intro us u rest h
    cases us with
    | nil => cases h
    | cons v us =>
      rw [readUnit?] at h
      split_ifs at h
      · exact Nat.lt_succ_of_le (length_escape_tail h)
      · cases h
        exact Nat.lt_succ_self _

/-- The units of a string literal, and what follows it. -/
def readString? : List Nat → Option (List Nat × List Nat)
  | 0x22 :: us => (unitReader 0x22).body? 0x22 us
  | _ => none

/-- The units of a string literal that is all there is up to the end of a declaration. -/
def initialUnits? (cs : List Char) : Option (List Nat) :=
  (translate? cs).bind fun us =>
    match readString? us with
    | some (text, [0x3B]) => some text
    | _ => none

/-! Translation. -/

theorem translate_char {c : Char} {cs : List Char}
    (h : c = '\\' → cs.head? ≠ some '\\' ∧ cs.head? ≠ some 'u') :
    translate? (c :: cs) = (translate? cs).map (units c ++ ·) := by
  rw [translate?]
  · rintro ds rfl rfl
    exact (h rfl).1 rfl
  · rintro ds rfl rfl
    exact (h rfl).2 rfl

theorem translate_pair (cs : List Char) :
    translate? ('\\' :: '\\' :: cs) = (translate? cs).map ([0x5C, 0x5C] ++ ·) := by
  rw [translate?]

/-- ASCII characters that are no backslashes. -/
theorem translate_plain {cs : List Char} (h : ∀ c ∈ cs, c ≠ '\\' ∧ c.toNat < 128)
    (rest : List Char) :
    translate? (cs ++ rest) = (translate? rest).map (cs.map Char.toNat ++ ·) := by
  induction cs with
  | nil => simp
  | cons c cs ih =>
    obtain ⟨hslash, hascii⟩ := h c List.mem_cons_self
    have hunits : units c = [c.toNat] := if_pos (by omega)
    rw [List.cons_append, translate_char (fun hc => absurd hc hslash),
      ih fun d hd => h d (List.mem_cons_of_mem c hd), hunits]
    cases translate? rest <;> rfl

/-- Four digits in base sixteen write the unit. -/
theorem unit_hex4 {u : Nat} (h : u < 0x10000) :
    ∃ a b c d, hex4 u = [a, b, c, d] ∧ a ≠ 'u' ∧ Json.unit? a b c d = some u := by
  have hdigit : ∀ n : Nat, Json.hexValue? (Nat.digitChar (n % 16)) = some (n % 16) :=
    fun n => hex_value_digit (Nat.mod_lt n (by decide))
  -- with a `u` in front of them the digits would be taken for others, but it is no digit
  have hu : ((u / 4096 % 16 * 16 + u / 256 % 16) * 16 + u / 16 % 16) * 16 + u % 16 = u := by
    omega
  refine ⟨_, _, _, _, rfl, ?_, ?_⟩
  · intro hlead
    have hvalue := hdigit (u / 4096)
    rw [hlead] at hvalue
    cases hvalue
  · rw [Json.unit?, hdigit, hdigit, hdigit, hdigit]
    exact congrArg some hu

theorem translate_unit {u : Nat} (h : u < 0x10000) (rest : List Char) :
    translate? ('\\' :: 'u' :: hex4 u ++ rest) = (translate? rest).map (u :: ·) := by
  obtain ⟨a, b, c, d, hhex, hlead, hunit⟩ := unit_hex4 h
  have hdrop : (a :: b :: c :: d :: rest).dropWhile (· == 'u') = a :: b :: c :: d :: rest := by
    rw [List.dropWhile_cons, if_neg (by simpa using hlead)]
  rw [hhex]
  simp only [List.cons_append, List.nil_append]
  rw [translate?]
  split
  · next h1 h2 h3 h4 more hmore =>
    rw [hdrop] at hmore
    cases hmore
    rw [hunit]
    rfl
  · next hnone => exact absurd hdrop (hnone a b c d rest)

theorem translate_units {us : List Nat} (h : ∀ u ∈ us, u < 0x10000) (rest : List Char) :
    translate? (us.flatMap (fun u => '\\' :: 'u' :: hex4 u) ++ rest) =
      (translate? rest).map (us ++ ·) := by
  induction us with
  | nil => simp
  | cons u us ih =>
    rw [List.flatMap_cons, List.append_assoc, translate_unit (h u List.mem_cons_self),
      ih fun v hv => h v (List.mem_cons_of_mem u hv)]
    cases translate? rest <;> rfl

/-- A backslash that begins no unicode escape. -/
theorem translate_backslash {d : Char} {ds : List Char} (hd : d ≠ 'u')
    (h : ∀ c ∈ d :: ds, c ≠ '\\' ∧ c.toNat < 128) (rest : List Char) :
    translate? ('\\' :: d :: ds ++ rest) =
      (translate? rest).map (('\\' :: d :: ds).map Char.toNat ++ ·) := by
  have hslash : d ≠ '\\' := (h d List.mem_cons_self).1
  rw [List.cons_append, translate_char (by simp [hd, hslash]), translate_plain h]
  cases translate? rest <;> rfl

theorem units_lt (c : Char) : ∀ u ∈ units c, u < 0x10000 := by
  have hc : c.toNat < 0x110000 := by
    rcases c.valid with h | h
    · exact Nat.lt_trans h (by decide)
    · exact h.2
  intro u hu
  simp only [units] at hu
  split_ifs at hu
  · simp only [List.mem_singleton] at hu
    omega
  · simp only [List.mem_cons, List.not_mem_nil, or_false] at hu
    omega

theorem le_units {c : Char} (h : 128 ≤ c.toNat) : ∀ u ∈ units c, 128 ≤ u := by
  intro u hu
  simp only [units] at hu
  split_ifs at hu
  · simp only [List.mem_singleton] at hu
    omega
  · simp only [List.mem_cons, List.not_mem_nil, or_false] at hu
    omega

/-! Reading. -/

/-- How a unit inside quotes is written once the unicode escapes are translated. -/
def writeUnit (quote : Char) (u : Nat) : List Nat :=
  if u < 128 then (escape quote (Char.ofNat u)).map Char.toNat else [u]

theorem write_units_ascii (quote : Char) {c : Char} (h : c.toNat < 128) :
    (units c).flatMap (writeUnit quote) = (escape quote c).map Char.toNat := by
  have hunits : units c = [c.toNat] := if_pos (by omega)
  rw [hunits, List.flatMap_singleton, writeUnit, if_pos h, Char.ofNat_toNat]

theorem write_units_beyond (quote : Char) {c : Char} (h : 128 ≤ c.toNat) :
    (units c).flatMap (writeUnit quote) = units c := by
  have hwrite : ∀ u ∈ units c, writeUnit quote u = [u] := by
    intro u hu
    exact if_neg (Nat.not_lt.mpr (le_units h u hu))
  rw [List.flatMap_congr hwrite]
  exact List.flatMap_singleton' _

theorem octal3_plain (n : Nat) :
    ∀ c ∈ octal3 n, c ≠ '\\' ∧ c ≠ 'u' ∧ c.toNat < 128 := by
  have hdigit : ∀ d < 8, Nat.digitChar d ≠ '\\' ∧ Nat.digitChar d ≠ 'u' ∧
      (Nat.digitChar d).toNat < 128 := by decide
  intro c hc
  simp only [octal3, List.mem_cons, List.not_mem_nil, or_false] at hc
  rcases hc with rfl | rfl | rfl <;> exact hdigit _ (Nat.mod_lt _ (by decide))

/-- What is written of a character is translated to what is written of its units. -/
theorem translate_escape {quote : Char} (hquote : quote = '"' ∨ quote = '\'') (c : Char)
    (rest : List Char) :
    translate? (escape quote c ++ rest) =
      (translate? rest).map ((units c).flatMap (writeUnit quote) ++ ·) := by
  by_cases hascii : c.toNat < 128
  · rw [write_units_ascii quote hascii, escape]
    rcases escape_common_cases quote c with ⟨hself, h⟩ | ⟨rfl, h⟩ | ⟨rfl, h⟩ | ⟨rfl, h⟩ | ⟨hc, h⟩ |
      ⟨hslash, -, hc, h⟩
    · rw [h]
      rcases hself with rfl | rfl
      · -- two backslashes stay two, so a `u` behind them begins no unicode escape
        exact translate_pair rest
      · refine translate_backslash ?_ ?_ rest
        · rcases hquote with rfl | rfl <;> decide
        · rcases hquote with rfl | rfl <;> simp
    · rw [h]
      exact translate_backslash (by decide) (by simp) rest
    · rw [h]
      exact translate_backslash (by decide) (by simp) rest
    · rw [h]
      exact translate_backslash (by decide) (by simp) rest
    · rw [h]
      have hdigits := octal3_plain c.toNat
      exact translate_backslash (hdigits _ List.mem_cons_self).2.1
        (fun d hd => ⟨(hdigits d hd).1, (hdigits d hd).2.2⟩) rest
    · rw [h]
      simp only [hascii, if_true]
      have hplain : ∀ d ∈ [c], d ≠ '\\' ∧ d.toNat < 128 := by simp [hslash, hascii]
      exact translate_plain hplain rest
  · have hbeyond : 128 ≤ c.toNat := Nat.le_of_not_lt hascii
    have hescape : escape quote c = (units c).flatMap fun u => '\\' :: 'u' :: hex4 u := by
      rw [escape, escape_common_beyond hquote hbeyond]
      exact if_neg hascii
    rw [write_units_beyond quote hbeyond, hescape]
    exact translate_units (units_lt c) rest

theorem translate_text {quote : Char} (hquote : quote = '"' ∨ quote = '\'') (cs rest : List Char) :
    translate? (cs.flatMap (escape quote) ++ rest) =
      (translate? rest).map ((cs.flatMap units).flatMap (writeUnit quote) ++ ·) := by
  induction cs with
  | nil => simp
  | cons c cs ih =>
    rw [List.flatMap_cons, List.append_assoc, translate_escape hquote, ih, List.flatMap_cons,
      List.flatMap_append]
    cases translate? rest with
    | none => rfl
    | some us => simp

theorem octal_value_digit {d : Nat} (h : d < 8) :
    octalValue? (Nat.digitChar d).toNat = some d := by
  interval_cases d <;> rfl

theorem escape_tail_digit {d : Nat} (h : d < 8) (us : List Nat) :
    escapeTail? ((Nat.digitChar d).toNat :: us) =
      some (takeOctal octalValue? (if d < 4 then 2 else 1) d us) := by
  interval_cases d <;> rfl

theorem escape_tail_octal3 {n : Nat} (h : n < 0x80) (rest : List Nat) :
    escapeTail? ((octal3 n).map Char.toNat ++ rest) = some (n, rest) := by
  have hdigits := take_octal_octal3 Char.toNat (fun d hd => octal_value_digit hd)
    (show n < 512 by omega) rest
  rw [octal3, List.map_cons, List.cons_append] at hdigits ⊢
  have hlead : n / 64 % 8 < 4 := by omega
  have hlead8 : n / 64 % 8 < 8 := by omega
  rw [take_octal_digit (octal_value_digit hlead8), Nat.mul_zero, Nat.zero_add] at hdigits
  rw [escape_tail_digit hlead8, if_pos hlead, hdigits]

theorem read_backslash (quote : Nat) (us : List Nat) :
    readUnit? quote (0x5C :: us) = escapeTail? us := by
  rw [readUnit?, if_pos rfl]

theorem read_quote {quote : Nat} (h : quote ≠ 0x5C) (us : List Nat) :
    readUnit? quote (quote :: us) = none := by
  rw [readUnit?, if_neg h, if_pos (Or.inl rfl)]

theorem read_raw {quote u : Nat} (hslash : u ≠ 0x5C) (hquote : u ≠ quote) (hcontrol : 0x20 ≤ u)
    (us : List Nat) : readUnit? quote (u :: us) = some (u, us) := by
  rw [readUnit?, if_neg hslash, if_neg (by omega)]

/-- A unit is read as it was written, whatever follows it. -/
theorem read_write_unit {quote : Char} (hquote : quote = '"' ∨ quote = '\'') (u : Nat)
    (rest : List Nat) :
    readUnit? quote.toNat (writeUnit quote u ++ rest) = some (u, rest) := by
  rw [writeUnit]
  split_ifs with hascii
  · have hu : (Char.ofNat u).toNat = u := by
      rw [Char.toNat_ofNat, if_pos (Or.inl (by omega))]
    generalize Char.ofNat u = c at hu
    subst hu
    rw [escape]
    -- the cases are those in which the character of the unit was written
    rcases escape_common_cases quote c with ⟨hself, h⟩ | ⟨rfl, h⟩ | ⟨rfl, h⟩ | ⟨rfl, h⟩ | ⟨hc, h⟩ |
      ⟨hslash, hne, hc, h⟩
    · rw [h]
      rcases hquote with rfl | rfl <;> rcases hself with rfl | rfl <;> rfl
    · rw [h]
      rfl
    · rw [h]
      rfl
    · rw [h]
      rfl
    · rw [h]
      have hread := escape_tail_octal3 hascii rest
      exact (read_backslash quote.toNat _).trans hread
    · rw [h]
      simp only [hascii, if_true]
      refine read_raw ?_ ?_ hc rest
      · exact fun heq => hslash (Char.toNat_inj.mp heq)
      · exact fun heq => hne (Char.toNat_inj.mp heq)
  · refine read_raw (by omega) ?_ (by omega) rest
    rcases hquote with rfl | rfl
    · exact fun heq => hascii (heq ▸ by decide)
    · exact fun heq => hascii (heq ▸ by decide)

/-! Literals. -/

/-- A text between quotes is translated to its units between quotes. -/
theorem translate_quoted {quote : Char} (hquote : quote = '"' ∨ quote = '\'')
    (cs rest : List Char) :
    translate? (quote :: cs.flatMap (escape quote) ++ quote :: rest) =
      (translate? rest).map fun us => quote.toNat ::
        (cs.flatMap units).flatMap (writeUnit quote) ++ quote.toNat :: us := by
  have hslash : quote ≠ '\\' := by
    rcases hquote with rfl | rfl <;> decide
  have hunits : units quote = [quote.toNat] := by
    rcases hquote with rfl | rfl <;> rfl
  rw [List.cons_append, translate_char (fun h => absurd h hslash), translate_text hquote,
    translate_char (fun h => absurd h hslash), hunits]
  cases translate? rest <;> rfl

/-- Units between quotes are read one by one, up to the closing quote. -/
theorem body_units {quote : Char} (hquote : quote = '"' ∨ quote = '\'') (us rest : List Nat) :
    (unitReader quote.toNat).body? quote.toNat (us.flatMap (writeUnit quote) ++
      quote.toNat :: rest) = some (us, rest) := by
  have hslash : quote.toNat ≠ 0x5C := by
    rcases hquote with rfl | rfl <;> decide
  have hbody : (unitReader quote.toNat).body? quote.toNat (us.flatMap (writeUnit quote) ++
      quote.toNat :: rest) = some (us.map id, rest) := by
    apply ItemReader.body_flat_map
    · intro u _ more
      exact read_write_unit hquote u more
    · intro more
      exact read_quote hslash more
  rwa [List.map_id] at hbody

/-- The units of a text. -/
def textUnits (s : String) : List Nat := s.toList.flatMap units

/-- A string literal is read as the units of the text that it was written for, whatever follows
it. -/
theorem read_string (s : String) (rest : List Char) :
    (translate? ((string s).toList ++ rest)).bind readString? =
      (translate? rest).map (textUnits s, ·) := by
  have hliteral : (string s).toList ++ rest =
      '"' :: s.toList.flatMap (escape '"') ++ '"' :: rest := by simp [string]
  have hbody (us : List Nat) : readString? (0x22 :: (textUnits s).flatMap (writeUnit '"') ++
      0x22 :: us) = some (textUnits s, us) := body_units (Or.inl rfl) (textUnits s) us
  rw [hliteral, translate_quoted (Or.inl rfl)]
  cases translate? rest with
  | none => rfl
  | some us => exact hbody us

theorem initial_units_string (s : String) :
    initialUnits? ((string s).toList ++ [';']) = some (textUnits s) := by
  have hend : translate? [';'] = some [0x3B] := by
    simp [translate?, units]
  have hread := read_string s [';']
  rw [hend, Option.map_some] at hread
  obtain ⟨us, hus, hstring⟩ := Option.bind_eq_some_iff.mp hread
  rw [initialUnits?, hus, Option.bind_some, hstring]
  rfl

end CodeJudge.Literal.Java
