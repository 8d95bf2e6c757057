import CodeJudge.Proofs.Json.Reading
import CodeJudge.Proofs.Json.Value
/-!
Round trips. What is written of a value is read again as that value, in front of any text that does
not go on with a numeral, if and only if the value has no more levels than are left. The main
statements are on values and on objects whose members are all looked at.
-/
namespace CodeJudge.Json

/-- A number that is written in front of the text ends there. -/
def EndsNumber (cs : List Char) : Prop := ∀ c ∈ cs.head?, isNumeral c = false

namespace EndsNumber

theorem nil : EndsNumber [] := by simp [EndsNumber]

theorem cons {c : Char} (h : isNumeral c = false) (cs : List Char) : EndsNumber (c :: cs) := by
  simpa [EndsNumber] using h

theorem not_numeral {c : Char} {cs : List Char} (h : EndsNumber (c :: cs)) :
    isNumeral c = false := h c rfl

end EndsNumber

theorem digit_numeral {c : Char} (h : c.isDigit = true) : isNumeral c = true := by
  simp [isNumeral, h]

theorem span_digits_append (cs : List Char) {r : List Char} (hr : EndsNumber r) :
    spanDigits (cs ++ r) = ((spanDigits cs).1, (spanDigits cs).2 ++ r) := by
  induction cs with
  | nil =>
    cases r with
    | nil => rfl
    | cons c r =>
      have hc : c.isDigit = false := by
        by_contra hd
        have hn := digit_numeral (by simpa using hd)
        rw [hr.not_numeral] at hn
        cases hn
      simp [spanDigits, hc]
  | cons c cs ih =>
    simp only [spanDigits, Prod.mk.injEq] at ih
    by_cases hc : c.isDigit = true
    · simp [spanDigits, hc, ih]
    · simp [spanDigits, hc]

theorem read_sign_append (cs : List Char) {r : List Char} (hr : EndsNumber r) :
    Binary64.readSign (cs ++ r) =
      ((Binary64.readSign cs).1, (Binary64.readSign cs).2 ++ r) := by
  cases cs with
  | nil =>
    cases r with
    | nil => rfl
    | cons c r =>
      have hm : c ≠ '-' := by
        rintro rfl
        exact absurd hr.not_numeral (by decide)
      have hp : c ≠ '+' := by
        rintro rfl
        exact absurd hr.not_numeral (by decide)
      simp [Binary64.readSign, hm, hp]
  | cons c cs =>
    by_cases hm : c = '-'
    · subst hm
      rfl
    by_cases hp : c = '+'
    · subst hp
      rfl
    simp [Binary64.readSign, hm, hp]

theorem read_fraction_append {cs d r : List Char} {x : Option (List Char)}
    (h : readFraction cs = some (x, d)) (hr : EndsNumber r) :
    readFraction (cs ++ r) = some (x, d ++ r) := by
  unfold readFraction at h
  split at h
  · next ds =>
    simp only [Option.ite_none_left_eq_some, Option.some.injEq, Prod.mk.injEq] at h
    obtain ⟨hne, rfl, rfl⟩ := h
    simp only [List.cons_append, readFraction, span_digits_append ds hr, if_neg hne]
  · next hp =>
    cases h
    unfold readFraction
    split
    · next es he =>
      -- a point that the text lacks cannot come from what follows
      cases cs with
      | nil =>
        rw [List.nil_append] at he
        subst he
        exact absurd hr.not_numeral (by decide)
      | cons c cs =>
        rw [List.cons_append, List.cons.injEq] at he
        exact absurd (by rw [he.1]) (hp cs)
    · rfl

theorem read_exponent_append {cs d r : List Char} {x : Option (Bool × List Char)}
    (h : readExponent cs = some (x, d)) (hr : EndsNumber r) :
    readExponent (cs ++ r) = some (x, d ++ r) := by
  cases cs with
  | nil =>
    cases h
    cases r with
    | nil => rfl
    | cons c r =>
      have hc : (c == 'e' || c == 'E') = false := by
        have hn := hr.not_numeral
        simp only [isNumeral, Bool.or_eq_false_iff] at hn ⊢
        exact ⟨hn.1.2, hn.2⟩
      simp [readExponent, hc]
  | cons c cs =>
    simp only [readExponent, List.cons_append, read_sign_append cs hr,
      span_digits_append _ hr] at h ⊢
    split_ifs at h ⊢
    · cases h
      rfl
    · cases h
      rfl

theorem read_magnitude_append {n : Bool} {cs d r : List Char} {t : NumberText}
    (h : readMagnitude n cs = some (t, d)) (hr : EndsNumber r) :
    readMagnitude n (cs ++ r) = some (t, d ++ r) := by
  simp only [readMagnitude, span_digits_append cs hr] at h ⊢
  split at h
  · cases h
  · cases h
  · split at h
    · cases h
    · next hf =>
      split at h
      · cases h
      · next he =>
        cases h
        rw [read_fraction_append hf hr]
        simp only [read_exponent_append he hr]

theorem read_number_text_append {cs d r : List Char} {t : NumberText}
    (h : readNumberText cs = some (t, d)) (hr : EndsNumber r) :
    readNumberText (cs ++ r) = some (t, d ++ r) := by
  cases cs with
  | nil => cases h
  | cons c cs =>
    unfold readNumberText at h ⊢
    split at h
    · next ds he =>
      cases he
      exact read_magnitude_append h hr
    · next hc =>
      split
      · next ds he =>
        rw [List.cons_append, List.cons.injEq] at he
        exact absurd (by rw [he.1]) (hc cs)
      · exact read_magnitude_append h hr

/-- A number begins with its sign or a digit. -/
theorem read_number_text_head {cs d : List Char} {t : NumberText}
    (h : readNumberText cs = some (t, d)) :
    ∃ c ds, cs = c :: ds ∧ (c = '-' ∨ c.isDigit = true) := by
  unfold readNumberText at h
  split at h
  · next ds => exact ⟨'-', ds, rfl, Or.inl rfl⟩
  · cases cs with
    | nil => cases h
    | cons c cs =>
      refine ⟨c, cs, rfl, Or.inr ?_⟩
      by_contra hc
      simp [readMagnitude, spanDigits, hc] at h

theorem number_head_ne {c d : Char} (hc : c = '-' ∨ c.isDigit = true)
    (hd : ¬ (d = '-' ∨ d.isDigit = true)) : c ≠ d := by
  rintro rfl
  exact hd hc

theorem number_head_not_space {c : Char} (hc : c = '-' ∨ c.isDigit = true) :
    isSpace c = false := by
  by_contra hs
  simp only [isSpace, Bool.not_eq_false, Bool.or_eq_true, beq_iff_eq] at hs
  rcases hs with ((rfl | rfl) | rfl) | rfl <;> exact absurd hc (by decide)

theorem read_scalar_of_number_head {c : Char} (cs : List Char)
    (hc : c = '-' ∨ c.isDigit = true) :
    readScalar (c :: cs) = (readNumberText (c :: cs)).bind fun (t, rest) =>
      t.toNumber?.bind fun n => some (.number n, rest) := by
  have hne (d : Char) (hd : ¬ (d = '-' ∨ d.isDigit = true)) (ds : List Char) :
      c :: cs ≠ d :: ds := fun he => number_head_ne hc hd (List.cons.inj he).1
  unfold readScalar
  split
  · next he => exact absurd he (hne 'n' (by decide) _)
  · next he => exact absurd he (hne 't' (by decide) _)
  · next he => exact absurd he (hne 'f' (by decide) _)
  · next he => exact absurd he (hne '"' (by decide) _)
  · rfl

/-- Reading a number needs the grammar of numbers. -/
theorem read_scalar_number {cs d : List Char} {n : Number}
    (h : readScalar cs = some (.number n, d)) :
    ∃ t, readNumberText cs = some (t, d) ∧ t.toNumber? = some n := by
  unfold readScalar at h
  split at h
  · cases h
  · cases h
  · cases h
  · obtain ⟨⟨s, r⟩, hs, he⟩ := Option.map_eq_some_iff.mp h
    cases he
  · simp only [Option.bind_eq_bind, Option.bind_eq_some_iff] at h
    obtain ⟨⟨t, r⟩, ht, m, hm, he⟩ := h
    cases he
    exact ⟨t, ht, hm⟩

/-- A number survives if all of its text is in the grammar of numbers and stands for it. -/
theorem Number.survives_iff (n : Number) : n.Survives ↔
    ((readNumberText (writeNumber n)).bind fun (t, rest) =>
      if rest = [] then t.toNumber? else none) = some n := by
  constructor
  · intro h
    obtain ⟨t, ht, htn⟩ := read_scalar_number h
    rw [ht, Option.bind_some]
    exact htn
  · intro h
    obtain ⟨⟨t, rest⟩, ht, htn⟩ := Option.bind_eq_some_iff.mp h
    dsimp only at htn
    split_ifs at htn with hrest
    subst hrest
    obtain ⟨c, cs, hcs, hc⟩ := read_number_text_head ht
    rw [hcs] at ht
    rw [Number.Survives, hcs, read_scalar_of_number_head cs hc, ht, Option.bind_some]
    simp only [htn, Option.bind_some]

instance (n : Number) : Decidable n.Survives := decidable_of_iff _ n.survives_iff.symm

/-- A number that survives is read in front of other text too. -/
theorem read_scalar_write_number {n : Number} (hn : n.Survives) {r : List Char}
    (hr : EndsNumber r) : readScalar (writeNumber n ++ r) = some (.number n, r) := by
  obtain ⟨t, ht, htn⟩ := read_scalar_number hn
  obtain ⟨c, cs, hcs, hc⟩ := read_number_text_head ht
  have ha := read_number_text_append ht hr
  rw [hcs, List.cons_append] at ha ⊢
  rw [read_scalar_of_number_head _ hc, ha, Option.bind_some]
  simp only [htn, Option.bind_some, List.nil_append]

/-! Strings. -/

theorem unit_of_control (n : Nat) (hn : n < 0x20) :
    ∃ a b, (if n < 16 then ['0'] else []) ++ Text.hexDigits n = [a, b] ∧
      unit? '0' '0' a b = some n := by
  interval_cases n <;> exact ⟨_, _, rfl, by decide⟩

/-- A character is read from what is written of it, and the reader goes on behind it. -/
theorem read_string_escape_char (c : Char) (cs : List Char) :
    readString (escapeChar c ++ cs) = (readString cs).map fun (s, r) => (c :: s, r) := by
  unfold escapeChar
  split
  · -- seven characters have an escape of their own
    rfl
  · rfl
  · rfl
  · rfl
  · rfl
  · rfl
  · rfl
  · next hq hb _ _ _ _ _ =>
    by_cases hc : c.toNat < 0x20
    · -- other control characters are written as units, and these are no surrogates
      obtain ⟨a, b, hab, hu⟩ := unit_of_control c.toNat hc
      have hl : isLowSurrogate c.toNat = false := by simp [isLowSurrogate]; omega
      have hh : isHighSurrogate c.toNat = false := by simp [isHighSurrogate]; omega
      have he : escaped? 'u' = none := by decide
      have hw : ['\\', 'u', '0', '0'] ++ (if c.toNat < 16 then ['0'] else []) ++
          Text.hexDigits c.toNat ++ cs = '\\' :: 'u' :: '0' :: '0' :: a :: b :: cs := by
        rw [List.append_assoc ['\\', 'u', '0', '0'], hab]
        rfl
      rw [if_pos hc, hw]
      simp [readString, he, hu, hl, hh]
    · have hq : (c == '"') = false := by simpa using hq
      have hb : (c == '\\') = false := by simpa using hb
      rw [if_neg hc, List.singleton_append, readString.eq_def]
      simp [hq, hb, hc]

theorem read_string_write (s rest : List Char) :
    readString (s.flatMap escapeChar ++ '"' :: rest) = some (s, rest) := by
  induction s with
  | nil =>
    rw [List.flatMap_nil, List.nil_append, readString.eq_def]
    rfl
  | cons c s ih =>
    rw [List.flatMap_cons, List.append_assoc, read_string_escape_char, ih]
    rfl

/-! Values. -/

/-- The outline looks at every part of the value. -/
inductive Outline.Covers : Outline → Value → Prop where
  | null (o : Outline) : Covers o .null
  | bool (o : Outline) (b : Bool) : Covers o (.bool b)
  | number (o : Outline) (n : Number) : Covers o (.number n)
  | string (o : Outline) (s : String) : Covers o (.string s)
  | array (o : Outline) (items : List Value)
      (h : ∀ i v, items[i]? = some v → Covers (o.item i) v) : Covers o (.array items)
  | object (o : Outline) (members : List (String × Value))
      (h : ∀ m ∈ members, (o.member? m.1).isSome = true)
      (g : ∀ m ∈ members, ∀ p, o.member? m.1 = some p → Covers p m.2) : Covers o (.object members)

theorem Outline.whole_covers (v : Value) : Outline.whole.Covers v := by
  induction v using Value.induction_on with
  | null => exact .null _
  | bool b => exact .bool _ b
  | number n => exact .number _ n
  | string s => exact .string _ s
  | array items ih => exact .array _ items fun i v hi => ih v (List.mem_of_getElem? hi)
  | object members ih =>
    refine .object _ members (fun m _ => rfl) ?_
    intro m hm p hp
    cases hp
    exact ih m hm

/-- The text of a value begins with a character that neither is white space nor closes anything. -/
theorem Value.write_head (v : Value) (hv : v.Survives) :
    ∃ c cs, v.write = c :: cs ∧ isSpace c = false ∧ c ≠ ']' ∧ c ≠ '\x7d' := by
  cases v with
  | null => exact ⟨_, _, rfl, by decide⟩
  | bool b => cases b <;> exact ⟨_, _, rfl, by decide⟩
  | number n =>
    obtain ⟨t, ht, -⟩ := read_scalar_number hv
    obtain ⟨c, cs, hcs, hc⟩ := read_number_text_head ht
    exact ⟨c, cs, hcs, number_head_not_space hc, number_head_ne hc (by decide),
      number_head_ne hc (by decide)⟩
  | string s => exact ⟨_, _, rfl, by decide⟩
  | array items => exact ⟨_, _, rfl, by decide⟩
  | object members => exact ⟨_, _, rfl, by decide⟩

theorem length_le_write_items (vs : List Value) :
    vs.length ≤ (Value.writeItems vs).length + 1 := by
  induction vs with
  | nil => simp
  | cons v vs ih =>
    cases vs with
    | nil => simp
    | cons w vs =>
      simp only [Value.writeItems, List.length_cons, List.length_append] at ih ⊢
      omega

theorem length_le_write_members (ms : List (String × Value)) :
    ms.length ≤ (Value.writeMembers ms).length + 1 := by
  induction ms with
  | nil => simp
  | cons m ms ih =>
    cases ms with
    | nil => simp
    | cons w ms =>
      simp only [Value.writeMembers, List.length_cons, List.length_append] at ih ⊢
      omega

theorem read_items_write {item : Nat → List Char → Option (Value × List Char)} {n : Nat}
    (vs : List Value) (hne : vs ≠ []) (position bound : Nat) (rest : List Char)
    (hitem : ∀ i v, vs[i]? = some v → ∀ r, EndsNumber r →
      item (position + i) (v.write ++ r) = if v.depth ≤ n then some (v, r) else none)
    (hb : vs.length ≤ bound) :
    readItems item position bound (Value.writeItems vs ++ ']' :: rest) =
      if Value.depthItems vs ≤ n then some (vs, rest) else none := by
  induction vs generalizing position bound with
  | nil => exact absurd rfl hne
  | cons v vs ih =>
    obtain ⟨bound, rfl⟩ := Nat.exists_eq_add_one.mpr (show 0 < bound by simp at hb; omega)
    have hfirst := hitem 0 v rfl
    rw [Nat.add_zero] at hfirst
    cases vs with
    | nil =>
      rw [Value.writeItems, readItems, hfirst _ (EndsNumber.cons (by decide) rest)]
      -- an item with too many levels ends the reading
      by_cases hd : v.depth ≤ n
      · simp [hd, Value.depthItems, skip_space_cons (show isSpace ']' = false by decide)]
      · simp [hd, Value.depthItems]
    | cons w vs =>
      have hrest := ih (by simp) (position + 1) bound
        (by
          intro i u hi r hr
          rw [show position + 1 + i = position + (i + 1) by omega]
          exact hitem (i + 1) u hi r hr)
        (by simpa using hb)
      rw [Value.writeItems, List.append_assoc, List.cons_append, readItems,
        hfirst _ (EndsNumber.cons (by decide) _)]
      by_cases hd : v.depth ≤ n
      · simp only [hd, if_true, skip_space_cons (show isSpace ',' = false by decide), hrest]
        by_cases hds : Value.depthItems (w :: vs) ≤ n
        · simp [hds, hd, Value.depthItems.eq_2 v]
        · simp [hds, Value.depthItems.eq_2 v]
      · simp [hd, Value.depthItems]

theorem read_key_write (key : String) (cs : List Char) :
    readKey (writeString key ++ ':' :: cs) = some (key, cs) := by
  have hs : skipSpace (writeString key ++ ':' :: cs) =
      '"' :: (key.toList.flatMap escapeChar ++ '"' :: ':' :: cs) := by
    simp [writeString, skipSpace, isSpace]
  rw [readKey, hs]
  simp only [read_string_write, skip_space_cons (show isSpace ':' = false by decide),
    String.ofList_toList]

theorem read_members_write {item : String → List Char → Option (Option Value × List Char)}
    {n : Nat} (ms : List (String × Value)) (hne : ms ≠ []) (bound : Nat) (rest : List Char)
    (hitem : ∀ m ∈ ms, ∀ r, EndsNumber r →
      item m.1 (m.2.write ++ r) = if m.2.depth ≤ n then some (some m.2, r) else none)
    (hb : ms.length ≤ bound) :
    readMembers item bound (Value.writeMembers ms ++ '\x7d' :: rest) =
      if Value.depthMembers ms ≤ n then some (ms, rest) else none := by
  induction ms generalizing bound with
  | nil => exact absurd rfl hne
  | cons m ms ih =>
    obtain ⟨bound, rfl⟩ := Nat.exists_eq_add_one.mpr (show 0 < bound by simp at hb; omega)
    obtain ⟨key, v⟩ := m
    have hfirst := hitem (key, v) (by simp)
    dsimp only at hfirst
    cases ms with
    | nil =>
      rw [Value.writeMembers, List.append_assoc, List.cons_append, readMembers, read_key_write]
      simp only [hfirst _ (EndsNumber.cons (show isNumeral '\x7d' = false by decide) rest)]
      by_cases hd : v.depth ≤ n
      · simp [hd, Value.depthMembers, skip_space_cons (show isSpace '\x7d' = false by decide)]
      · simp [hd, Value.depthMembers]
    | cons w ms =>
      have hrest := ih (by simp) bound (fun u hu => hitem u (by simp [hu])) (by simpa using hb)
      rw [Value.writeMembers, List.append_assoc, List.append_assoc, List.cons_append,
        List.cons_append, readMembers, read_key_write]
      simp only [hfirst _ (EndsNumber.cons (show isNumeral ',' = false by decide) _)]
      by_cases hd : v.depth ≤ n
      · simp only [hd, if_true, skip_space_cons (show isSpace ',' = false by decide), hrest]
        by_cases hds : Value.depthMembers (w :: ms) ≤ n
        · simp [hds, hd, Value.depthMembers.eq_2 key v]
        · simp [hds, Value.depthMembers.eq_2 key v]
      · simp [hd, Value.depthMembers]

theorem read_value_items (levels : Nat) (o : Outline) {cs : List Char}
    (hs : skipSpace cs = cs) (hc : cs.head? ≠ some ']') :
    readValue (levels + 1) o ('[' :: cs) =
      (readItems (fun i => readValue levels (o.item i)) 0 cs.length cs).map
        fun (vs, r) => (.array vs, r) := by
  simp only [readValue, skip_space_cons (show isSpace '[' = false by decide), hs]
  split
  · exact absurd rfl hc
  · rfl

theorem read_value_members (levels : Nat) (o : Outline) {cs : List Char}
    (hs : skipSpace cs = cs) (hc : cs.head? ≠ some '\x7d') :
    readValue (levels + 1) o ('\x7b' :: cs) =
      (readMembers (readMember levels o) cs.length cs).map fun (ms, r) => (.object ms, r) := by
  simp only [readValue, skip_space_cons (show isSpace '\x7b' = false by decide), hs]
  split
  · exact absurd rfl hc
  · rfl

theorem read_array_write {o : Outline} {levels : Nat} {items : List Value}
    (hs : ∀ v ∈ items, v.Survives)
    (hitem : ∀ i v, items[i]? = some v → ∀ r, EndsNumber r →
      readValue levels (o.item i) (v.write ++ r) = if v.depth ≤ levels then some (v, r) else none)
    (r : List Char) :
    readValue (levels + 1) o ((Value.array items).write ++ r) =
      if (Value.array items).depth ≤ levels + 1 then some (.array items, r) else none := by
  have hw : (Value.array items).write ++ r = '[' :: (Value.writeItems items ++ ']' :: r) := by
    simp [Value.write]
  cases items with
  | nil =>
    simp [hw, Value.writeItems, readValue, skipSpace, isSpace, Value.depth, Value.depthItems]
  | cons v vs =>
    -- an item begins with a character that is neither white space nor the closing bracket
    obtain ⟨c, cs, hv, hc, hne, -⟩ := v.write_head (hs v (by simp))
    obtain ⟨ds, hds⟩ : ∃ ds, Value.writeItems (v :: vs) ++ ']' :: r = c :: ds := by
      cases vs with
      | nil => exact ⟨cs ++ ']' :: r, by rw [Value.writeItems, hv, List.cons_append]⟩
      | cons w vs =>
        refine ⟨cs ++ ',' :: Value.writeItems (w :: vs) ++ ']' :: r, ?_⟩
        rw [Value.writeItems, hv]
        simp
    have hspace : skipSpace (Value.writeItems (v :: vs) ++ ']' :: r) =
        Value.writeItems (v :: vs) ++ ']' :: r := by rw [hds, skip_space_cons hc]
    have hlen := length_le_write_items (v :: vs)
    have hitems := read_items_write (v :: vs) (by simp) 0
      (Value.writeItems (v :: vs) ++ ']' :: r).length r
      (fun i u hu => by simpa using hitem i u hu)
      (by simp only [List.length_append, List.length_cons] at hlen ⊢; omega)
    rw [hw, read_value_items levels o hspace (by simpa [hds] using hne), hitems]
    by_cases hd : Value.depthItems (v :: vs) ≤ levels
    · simp [hd, Value.depth]
    · simp [hd, Value.depth]

theorem read_object_write {o : Outline} {levels : Nat} {members : List (String × Value)}
    (hmember : ∀ m ∈ members, ∀ r, EndsNumber r → readMember levels o m.1 (m.2.write ++ r) =
      if m.2.depth ≤ levels then some (some m.2, r) else none)
    (r : List Char) :
    readValue (levels + 1) o ((Value.object members).write ++ r) =
      if (Value.object members).depth ≤ levels + 1 then some (.object members, r) else none := by
  have hw : (Value.object members).write ++ r =
      '\x7b' :: (Value.writeMembers members ++ '\x7d' :: r) := by
    simp [Value.write]
  cases members with
  | nil =>
    simp [hw, Value.writeMembers, readValue, skipSpace, isSpace, Value.depth, Value.depthMembers]
  | cons m ms =>
    obtain ⟨ds, hds⟩ : ∃ ds, Value.writeMembers (m :: ms) ++ '\x7d' :: r = '"' :: ds := by
      cases ms <;> exact ⟨_, rfl⟩
    have hspace : skipSpace (Value.writeMembers (m :: ms) ++ '\x7d' :: r) =
        Value.writeMembers (m :: ms) ++ '\x7d' :: r := by rw [hds, skip_space_cons (by decide)]
    have hlen := length_le_write_members (m :: ms)
    have hmembers := read_members_write (m :: ms) (by simp)
      (Value.writeMembers (m :: ms) ++ '\x7d' :: r).length r hmember
      (by simp only [List.length_append, List.length_cons] at hlen ⊢; omega)
    rw [hw, read_value_members levels o hspace (by simp [hds]), hmembers]
    by_cases hd : Value.depthMembers (m :: ms) ≤ levels
    · simp [hd, Value.depth]
    · simp [hd, Value.depth]

/-- What is written of a value is read by every outline that looks at all of it, if the value has
no more levels than are left, and else is refused. -/
theorem read_value_write {o : Outline} {v : Value} (ho : o.Covers v) (hv : v.Survives)
    (levels : Nat) {r : List Char} (hr : EndsNumber r) :
    readValue levels o (v.write ++ r) = if v.depth ≤ levels then some (v, r) else none := by
  induction ho generalizing levels r with
  | null o => exact read_value_of_head levels o (by decide) (by decide) (by decide)
  | bool o b =>
    cases b <;> exact read_value_of_head levels o (by decide) (by decide) (by decide)
  | number o n =>
    -- only a number needs the text behind it not to go on with a numeral
    obtain ⟨t, ht, -⟩ := read_scalar_number hv
    obtain ⟨c, cs, hcs, hc⟩ := read_number_text_head ht
    have hread := read_scalar_write_number hv hr
    rw [hcs, List.cons_append] at hread
    rw [Value.write, hcs, List.cons_append, read_value_of_head levels o (number_head_not_space hc)
      (number_head_ne hc (by decide)) (number_head_ne hc (by decide)), hread]
    simp [Value.depth]
  | string o s =>
    have hw : (Value.string s).write ++ r = '"' :: (s.toList.flatMap escapeChar ++ '"' :: r) := by
      simp [Value.write, writeString]
    rw [hw, read_value_of_head levels o (by decide) (by decide) (by decide), readScalar,
      read_string_write]
    simp [Value.depth]
  | array o items _ ih =>
    have hall := (Value.survives_items_iff items).mp hv
    cases levels with
    | zero =>
      rw [Value.write, List.cons_append, List.cons_append, read_container_zero (Or.inl rfl)]
      simp [Value.depth]
    | succ levels =>
      exact read_array_write hall
        (fun i v hi r hr => ih i v hi (hall v (List.mem_of_getElem? hi)) levels hr) r
  | object o members hm _ ih =>
    have hall := (Value.survives_members_iff members).mp hv
    cases levels with
    | zero =>
      rw [Value.write, List.cons_append, List.cons_append, read_container_zero (Or.inr rfl)]
      simp [Value.depth]
    | succ levels =>
      -- an outline that covers the object asks for each of its members
      refine read_object_write ?_ r
      intro m hmem r hr
      obtain ⟨p, hp⟩ := Option.isSome_iff_exists.mp (hm m hmem)
      simp only [readMember, hp, ih m hmem p hp (hall m hmem) levels hr]
      by_cases hd : m.2.depth ≤ levels
      · simp [hd]
      · simp [hd]

/-- A text that is written of a value is read as a whole if and only if the value has not too many
levels. -/
theorem read_document_write {o : Outline} {v : Value} (ho : o.Covers v) (hv : v.Survives) :
    readDocument o v.write = if v.depth ≤ maxDepth then some v else none := by
  have hread := read_value_write ho hv maxDepth EndsNumber.nil
  rw [List.append_nil] at hread
  rw [readDocument, hread]
  by_cases hd : v.depth ≤ maxDepth
  · simp [hd, skipSpace]
  · simp [hd]

/-- The text of a value is parsed as its sorted form. -/
theorem Value.parse_to_text {v : Value} (hv : v.Survives) (hdepth : v.depth ≤ maxDepth) :
    parse? v.toText = some v.sorted := by
  have hread := read_document_write (Outline.whole_covers v) hv
  rw [if_pos hdepth] at hread
  rw [parse?, toText, String.toList_ofList, hread, Option.map_some]

end CodeJudge.Json
