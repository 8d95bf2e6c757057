import CodeJudge.Json.Reader
import CodeJudge.Proofs.Json.Balance
/-!
What readers take. Every reader and every skipper takes a balanced part of the text, whatever it
makes of it; a string is closed by its quote, and a number is made of numerals only. The main
statement is on arrays: between its brackets stands a balanced text.
-/
namespace CodeJudge.Json

theorem ordinary_of_hex_value {c : Char} {n : Nat} (h : hexValue? c = some n) : IsOrdinary c := by
  refine ⟨?_, ?_, ?_⟩
  · by_contra hc
    have hz (d : Char) (hd : 0x20 ≤ d.toNat) : ¬ d ≤ c := by
      rw [Char.le_def, UInt32.le_iff_toNat_le]
      intro hle
      exact hc (Nat.le_trans hd hle)
    simp [hexValue?, hz '0' (by decide), hz 'a' (by decide), hz 'A' (by decide)] at h
  · rintro rfl
    exact absurd (show hexValue? '"' = none by decide) (by simp [h])
  · rintro rfl
    exact absurd (show hexValue? '\\' = none by decide) (by simp [h])

theorem ordinary_of_unit {a b c d : Char} {n : Nat} (h : unit? a b c d = some n) :
    IsOrdinary a ∧ IsOrdinary b ∧ IsOrdinary c ∧ IsOrdinary d := by
  simp only [unit?, Option.bind_eq_bind, Option.bind_eq_some_iff] at h
  obtain ⟨_, ha, _, hb, _, hc, _, hd, _⟩ := h
  exact ⟨ordinary_of_hex_value ha, ordinary_of_hex_value hb, ordinary_of_hex_value hc,
    ordinary_of_hex_value hd⟩

theorem printable_of_escaped {e x : Char} (h : escaped? e = some x) : 0x20 ≤ e.toNat := by
  unfold escaped? at h
  split at h <;> first | decide | simp at h

theorem Closes.of_unit {a b c d : Char} {n : Nat} {cs rest : List Char}
    (hu : unit? a b c d = some n) (h : Closes cs rest) :
    Closes ('\\' :: 'u' :: a :: b :: c :: d :: cs) rest := by
  obtain ⟨ha, hb, hc, hd⟩ := ordinary_of_unit hu
  exact escape (by decide) (ordinary ha (ordinary hb (ordinary hc (ordinary hd h))))

theorem skip_string_closes {cs rest : List Char} (h : skipString cs = some rest) :
    Closes cs rest := by
  fun_induction skipString cs with
  | case1 => cases h
  | case2 c cs hq =>
    cases h
    rw [eq_of_beq hq]
    exact Closes.quote _
  | case3 => cases h
  | case4 c hq hb e cs he ih =>
    obtain ⟨x, hx⟩ := Option.isSome_iff_exists.mp he
    rw [eq_of_beq hb]
    exact Closes.escape (printable_of_escaped hx) (ih h)
  | case5 => cases h
  | case6 c hq hb e he hu a b d f cs hn ih =>
    obtain ⟨n, hn⟩ := Option.isSome_iff_exists.mp hn
    rw [eq_of_beq hb, show e = 'u' by simpa using hu]
    exact Closes.of_unit hn (ih h)
  | case7 => cases h
  | case8 => cases h
  | case9 => cases h
  | case10 c cs hq hb hc ih =>
    exact Closes.ordinary ⟨by omega, by simpa using hq, by simpa using hb⟩ (ih h)

theorem read_string_closes {cs s rest : List Char} (h : readString cs = some (s, rest)) :
    Closes cs rest := by
  -- every branch that gives a string reads on in a shorter text and puts one character in front
  have read_on {f : List Char × List Char → List Char × List Char} {ds s : List Char}
      (hm : (readString ds).map f = some (s, rest)) (hf : ∀ p, (f p).2 = p.2) :
      ∃ t, readString ds = some (t, rest) := by
    obtain ⟨⟨t, r⟩, ht, he⟩ := Option.map_eq_some_iff.mp hm
    have hr : r = rest := (hf (t, r)).symm.trans (congrArg Prod.snd he)
    exact ⟨t, hr ▸ ht⟩
  fun_induction readString cs generalizing s with
  | case2 c cs hq =>
    cases h
    rw [eq_of_beq hq]
    exact Closes.quote _
  | case4 c hq hb e cs x he ih =>
    obtain ⟨t, ht⟩ := read_on h fun _ => rfl
    rw [eq_of_beq hb]
    exact Closes.escape (printable_of_escaped he) (ih ht)
  | case9 c hq hb e he hu a b d f n hn hl hh g u i j k l cs m hm hg ih =>
    obtain ⟨t, ht⟩ := read_on h fun _ => rfl
    simp only [Bool.and_eq_true, beq_iff_eq] at hg
    rw [eq_of_beq hb, show e = 'u' by simpa using hu, hg.1.1, hg.1.2]
    exact Closes.of_unit hn (Closes.of_unit hm (ih ht))
  | case12 c hq hb e he hu a b d f cs n hn hl hh ih =>
    obtain ⟨t, ht⟩ := read_on h fun _ => rfl
    rw [eq_of_beq hb, show e = 'u' by simpa using hu]
    exact Closes.of_unit hn (ih ht)
  | case15 c cs hq hb hc ih =>
    obtain ⟨t, ht⟩ := read_on h fun _ => rfl
    exact Closes.ordinary ⟨by omega, by simpa using hq, by simpa using hb⟩ (ih ht)
  | _ => cases h

theorem skip_space_cons {c : Char} (hc : isSpace c = false) (cs : List Char) :
    skipSpace (c :: cs) = c :: cs := by
  simp [skipSpace, hc]

theorem skip_space_passes (cs : List Char) : Passes cs (skipSpace cs) := by
  refine ⟨cs.takeWhile isSpace, balanced_of_neutral ?_, (List.takeWhile_append_dropWhile ..).symm⟩
  intro c hc
  have hs := List.mem_takeWhile_imp hc
  simp only [isSpace, Bool.or_eq_true, beq_iff_eq] at hs
  rcases hs with ((rfl | rfl) | rfl) | rfl <;> decide

/-- The characters that a number is written with. -/
def isNumeral (c : Char) : Bool :=
  c.isDigit || c == '-' || c == '+' || c == '.' || c == 'e' || c == 'E'

theorem neutral_of_numeral {c : Char} (h : isNumeral c = true) : isNeutral c = true := by
  by_contra hc
  simp only [isNeutral, Bool.and_eq_true, bne_iff_ne, not_and_or, not_not] at hc
  rcases hc with (((rfl | rfl) | rfl) | rfl) | rfl <;> exact absurd h (by decide)

/-- What a reader of numbers takes are numerals. -/
def TakesNumerals (cs rest : List Char) : Prop :=
  ∃ w, (∀ c ∈ w, isNumeral c = true) ∧ cs = w ++ rest

namespace TakesNumerals

theorem refl (cs : List Char) : TakesNumerals cs cs := ⟨[], by simp, rfl⟩

theorem trans {cs ds es : List Char} (h : TakesNumerals cs ds) (g : TakesNumerals ds es) :
    TakesNumerals cs es := by
  obtain ⟨w, hw, rfl⟩ := h
  obtain ⟨u, hu, rfl⟩ := g
  refine ⟨w ++ u, ?_, by simp⟩
  intro c hc
  rcases List.mem_append.mp hc with hc | hc
  · exact hw c hc
  · exact hu c hc

theorem cons {c : Char} {cs rest : List Char} (hc : isNumeral c = true)
    (h : TakesNumerals cs rest) : TakesNumerals (c :: cs) rest := by
  obtain ⟨w, hw, rfl⟩ := h
  exact ⟨c :: w, by simpa [hc] using hw, rfl⟩

theorem digits (cs : List Char) : TakesNumerals cs (spanDigits cs).2 := by
  refine ⟨cs.takeWhile Char.isDigit, ?_, (List.takeWhile_append_dropWhile ..).symm⟩
  intro c hc
  simp [isNumeral, List.mem_takeWhile_imp hc]

theorem sign (cs : List Char) : TakesNumerals cs (Binary64.readSign cs).2 := by
  unfold Binary64.readSign
  split
  · exact cons (by decide) (refl _)
  · exact cons (by decide) (refl _)
  · exact refl _

theorem passes {cs rest : List Char} (h : TakesNumerals cs rest) : Passes cs rest := by
  obtain ⟨w, hw, rfl⟩ := h
  exact Passes.of_neutral fun c hc => neutral_of_numeral (hw c hc)

end TakesNumerals

theorem read_fraction_numerals {cs rest : List Char} {x : Option (List Char)}
    (h : readFraction cs = some (x, rest)) : TakesNumerals cs rest := by
  unfold readFraction at h
  split at h
  · next ds =>
    simp only [Option.ite_none_left_eq_some, Option.some.injEq, Prod.mk.injEq] at h
    rw [← h.2.2]
    exact TakesNumerals.cons (by decide) (TakesNumerals.digits ds)
  · cases h
    exact TakesNumerals.refl _

theorem read_exponent_numerals {cs rest : List Char} {x : Option (Bool × List Char)}
    (h : readExponent cs = some (x, rest)) : TakesNumerals cs rest := by
  unfold readExponent at h
  split at h
  · cases h
    exact TakesNumerals.refl _
  · next c ds =>
    split at h
    · next hc =>
      have hn : isNumeral c = true := by
        simp only [Bool.or_eq_true, beq_iff_eq] at hc
        rcases hc with rfl | rfl <;> decide
      simp only [Option.ite_none_left_eq_some, Option.some.injEq, Prod.mk.injEq] at h
      rw [← h.2.2]
      exact TakesNumerals.cons hn ((TakesNumerals.sign ds).trans (TakesNumerals.digits _))
    · cases h
      exact TakesNumerals.refl _

theorem read_magnitude_numerals {n : Bool} {cs rest : List Char} {t : NumberText}
    (h : readMagnitude n cs = some (t, rest)) : TakesNumerals cs rest := by
  have hd := TakesNumerals.digits cs
  unfold readMagnitude spanDigits at h
  dsimp only at h
  split at h
  · cases h
  · cases h
  · split at h
    · cases h
    · next hf =>
      split at h
      · cases h
      · next he =>
        cases h
        exact hd.trans ((read_fraction_numerals hf).trans (read_exponent_numerals he))

theorem read_number_text_numerals {cs rest : List Char} {t : NumberText}
    (h : readNumberText cs = some (t, rest)) : TakesNumerals cs rest := by
  unfold readNumberText at h
  split at h
  · exact TakesNumerals.cons (by decide) (read_magnitude_numerals h)
  · exact read_magnitude_numerals h

theorem read_scalar_passes {cs rest : List Char} {v : Value} (h : readScalar cs = some (v, rest)) :
    Passes cs rest := by
  unfold readScalar at h
  split at h
  · cases h
    exact Passes.word (w := ['n', 'u', 'l', 'l']) (by decide) _
  · cases h
    exact Passes.word (w := ['t', 'r', 'u', 'e']) (by decide) _
  · cases h
    exact Passes.word (w := ['f', 'a', 'l', 's', 'e']) (by decide) _
  · obtain ⟨⟨s, r⟩, hs, he⟩ := Option.map_eq_some_iff.mp h
    cases he
    exact (read_string_closes hs).passes
  · simp only [Option.bind_eq_bind, Option.bind_eq_some_iff] at h
    obtain ⟨⟨t, r⟩, ht, n, hn, he⟩ := h
    cases he
    exact (read_number_text_numerals ht).passes

theorem skip_scalar_passes {cs rest : List Char} (h : skipScalar cs = some rest) :
    Passes cs rest := by
  unfold skipScalar at h
  split at h
  · cases h
    exact Passes.word (w := ['n', 'u', 'l', 'l']) (by decide) _
  · cases h
    exact Passes.word (w := ['t', 'r', 'u', 'e']) (by decide) _
  · cases h
    exact Passes.word (w := ['f', 'a', 'l', 's', 'e']) (by decide) _
  · exact (skip_string_closes h).passes
  · obtain ⟨⟨t, r⟩, ht, he⟩ := Option.map_eq_some_iff.mp h
    cases he
    exact (read_number_text_numerals ht).passes

theorem skip_entries_passes {entry : List Char → Option (List Char)} {closing : Char}
    (hentry : ∀ cs r, entry cs = some r → Passes cs r) {bound : Nat} {cs rest : List Char}
    (h : skipEntries entry closing bound cs = some rest) : Passes cs (closing :: rest) := by
  induction bound generalizing cs with
  | zero => cases h
  | succ bound ih =>
    unfold skipEntries at h
    split at h
    · cases h
    · next ds he =>
      have hd := (hentry cs ds he).trans (skip_space_passes ds)
      split at h
      · cases h
      · next c es hs =>
        rw [hs] at hd
        -- the entry is followed by a comma and the others, or it was the last one
        split_ifs at h with hc hl
        · have hp : Passes (c :: es) es := by
            rw [eq_of_beq hc]
            exact Passes.char (by decide) es
          exact hd.trans (hp.trans (ih h))
        · cases h
          rwa [eq_of_beq hl] at hd

theorem skip_member_passes {item : List Char → Option (List Char)}
    (hitem : ∀ cs r, item cs = some r → Passes cs r) {cs rest : List Char}
    (h : skipMember item cs = some rest) : Passes cs rest := by
  have hs := skip_space_passes cs
  unfold skipMember at h
  split at h
  · next ds hd =>
    rw [hd] at hs
    split at h
    · cases h
    · next es he =>
      have hk := (skip_string_closes he).passes.trans (skip_space_passes es)
      split at h
      · next fs hf =>
        rw [hf] at hk
        exact hs.trans (hk.trans ((Passes.char (by decide) _).trans
          (hitem fs rest h)))
      · cases h
  · cases h

theorem skip_value_passes {bound : Nat} {cs rest : List Char}
    (h : skipValue bound cs = some rest) : Passes cs rest := by
  induction bound generalizing cs rest with
  | zero => cases h
  | succ bound ih =>
    have hs := skip_space_passes cs
    unfold skipValue at h
    split at h
    · next ds hd =>
      rw [hd] at hs
      have ht := skip_space_passes ds
      split at h
      · next es he =>
        cases h
        rw [he] at ht
        exact hs.trans ht.array
      · exact hs.trans (ht.trans (skip_entries_passes (fun _ _ => ih) h)).array
    · next ds hd =>
      rw [hd] at hs
      have ht := skip_space_passes ds
      split at h
      · next es he =>
        cases h
        rw [he] at ht
        exact hs.trans ht.object
      · exact hs.trans (ht.trans (skip_entries_passes
          (fun _ _ => skip_member_passes fun _ _ => ih) h)).object
    · exact hs.trans (skip_scalar_passes h)

theorem read_items_passes {item : Nat → List Char → Option (Value × List Char)}
    (hitem : ∀ i cs v r, item i cs = some (v, r) → Passes cs r) {position bound : Nat}
    {cs rest : List Char} {vs : List Value}
    (h : readItems item position bound cs = some (vs, rest)) : Passes cs (']' :: rest) := by
  induction bound generalizing position cs vs with
  | zero => cases h
  | succ bound ih =>
    unfold readItems at h
    split at h
    · cases h
    · next v ds he =>
      have hd := (hitem _ _ _ _ he).trans (skip_space_passes ds)
      split at h
      · next es hs =>
        rw [hs] at hd
        obtain ⟨⟨ws, r⟩, hw, hr⟩ := Option.map_eq_some_iff.mp h
        cases hr
        exact hd.trans ((Passes.char (by decide) _).trans (ih hw))
      · next es hs =>
        cases h
        rwa [hs] at hd
      · cases h

theorem read_key_passes {cs rest : List Char} {key : String} (h : readKey cs = some (key, rest)) :
    Passes cs rest := by
  have hs := skip_space_passes cs
  unfold readKey at h
  split at h
  · next ds hd =>
    rw [hd] at hs
    split at h
    · cases h
    · next s es he =>
      have hk := (read_string_closes he).passes.trans (skip_space_passes es)
      split at h
      · next fs hf =>
        cases h
        rw [hf] at hk
        exact hs.trans (hk.trans (Passes.char (by decide) _))
      · cases h
  · cases h

theorem read_members_passes {item : String → List Char → Option (Option Value × List Char)}
    (hitem : ∀ k cs v r, item k cs = some (v, r) → Passes cs r) {bound : Nat}
    {cs rest : List Char} {ms : List (String × Value)}
    (h : readMembers item bound cs = some (ms, rest)) : Passes cs ('\x7d' :: rest) := by
  induction bound generalizing cs ms with
  | zero => cases h
  | succ bound ih =>
    unfold readMembers at h
    split at h
    · cases h
    · next key ds hk =>
      split at h
      · cases h
      · next v es he =>
        have hd := (read_key_passes hk).trans ((hitem _ _ _ _ he).trans (skip_space_passes es))
        dsimp only at h
        split at h
        · next fs hs =>
          rw [hs] at hd
          obtain ⟨⟨ws, r⟩, hw, hr⟩ := Option.map_eq_some_iff.mp h
          cases hr
          exact hd.trans ((Passes.char (by decide) _).trans (ih hw))
        · next fs hs =>
          cases h
          rwa [hs] at hd
        · cases h

/-- How a member is read under an outline. -/
def readMember (levels : Nat) (o : Outline) (key : String) (cs : List Char) :
    Option (Option Value × List Char) :=
  match o.member? key with
  | some p => (readValue levels p cs).map fun (v, r) => (some v, r)
  | none => (skipValue cs.length cs).map (none, ·)

theorem read_member_passes (levels : Nat)
    (hvalue : ∀ o cs v r, readValue levels o cs = some (v, r) → Passes cs r) (o : Outline)
    (key : String) (cs : List Char) (v : Option Value) (rest : List Char)
    (h : readMember levels o key cs = some (v, rest)) : Passes cs rest := by
  unfold readMember at h
  split at h
  · obtain ⟨⟨u, q⟩, hu, hq⟩ := Option.map_eq_some_iff.mp h
    cases hq
    exact hvalue _ _ _ _ hu
  · obtain ⟨q, hq, hr⟩ := Option.map_eq_some_iff.mp h
    cases hr
    exact skip_value_passes hq

theorem read_value_skip_space (levels : Nat) (o : Outline) (cs : List Char) :
    readValue levels o (skipSpace cs) = readValue levels o cs := by
  have hs : skipSpace (skipSpace cs) = skipSpace cs := List.dropWhile_idempotent _ _
  cases levels with
  | zero => rw [readValue, readValue, hs]
  | succ levels => rw [readValue, readValue, hs]

/-- A text that opens no container is read as a scalar, however many levels are left. -/
theorem read_value_of_head (levels : Nat) (o : Outline) {c : Char} {cs : List Char}
    (hs : isSpace c = false) (ha : c ≠ '[') (ho : c ≠ '\x7b') :
    readValue levels o (c :: cs) = readScalar (c :: cs) := by
  cases levels with
  | zero => rw [readValue, skip_space_cons hs]
  | succ levels =>
    rw [readValue, skip_space_cons hs]
    split
    · next he => exact absurd (by simpa using congrArg List.head? he) ha
    · next he => exact absurd (by simpa using congrArg List.head? he) ho
    · rfl

section Containers

variable {levels : Nat} {o : Outline} {cs rest : List Char} {v : Value}
variable (hvalue : ∀ o cs v r, readValue levels o cs = some (v, r) → Passes cs r)

include hvalue

theorem read_value_items_passes (h : readValue (levels + 1) o ('[' :: cs) = some (v, rest)) :
    Passes cs (']' :: rest) := by
  have ht := skip_space_passes cs
  simp only [readValue, skip_space_cons (show isSpace '[' = false by decide)] at h
  split at h
  · next es he =>
    cases h
    rwa [he] at ht
  · obtain ⟨⟨ws, r⟩, hw, hr⟩ := Option.map_eq_some_iff.mp h
    cases hr
    exact ht.trans (read_items_passes (fun i => hvalue (o.item i)) hw)

theorem read_value_members_passes
    (h : readValue (levels + 1) o ('\x7b' :: cs) = some (v, rest)) :
    Passes cs ('\x7d' :: rest) := by
  have ht := skip_space_passes cs
  simp only [readValue, skip_space_cons (show isSpace '\x7b' = false by decide)] at h
  split at h
  · next es he =>
    cases h
    rwa [he] at ht
  · obtain ⟨⟨ws, r⟩, hw, hr⟩ := Option.map_eq_some_iff.mp h
    cases hr
    exact ht.trans (read_members_passes (read_member_passes levels hvalue o) hw)

end Containers

/-- Whatever an outline asks for, a value is a balanced part of the text. -/
theorem read_value_passes {levels : Nat} {o : Outline} {cs rest : List Char} {v : Value}
    (h : readValue levels o cs = some (v, rest)) : Passes cs rest := by
  induction levels generalizing o cs rest v with
  | zero => exact (skip_space_passes cs).trans (read_scalar_passes h)
  | succ levels ih =>
    -- the first character behind the space decides what is read
    have hs := skip_space_passes cs
    rw [← read_value_skip_space] at h
    cases hd : skipSpace cs with
    | nil =>
      rw [hd] at h hs
      exact hs.trans (read_scalar_passes h)
    | cons c ds =>
      have hspace : isSpace c = false := by
        have hhead := List.head?_dropWhile_not isSpace cs
        rw [← skipSpace, hd] at hhead
        simpa using hhead
      rw [hd] at h hs
      by_cases ha : c = '['
      · subst ha
        exact hs.trans (read_value_items_passes (fun _ _ _ _ => ih) h).array
      · by_cases ho : c = '\x7b'
        · subst ho
          exact hs.trans (read_value_members_passes (fun _ _ _ _ => ih) h).object
        · rw [read_value_of_head _ _ hspace ha ho] at h
          exact hs.trans (read_scalar_passes h)

theorem read_scalar_container {c : Char} (hc : c = '[' ∨ c = '\x7b') (cs : List Char) :
    readScalar (c :: cs) = none := by
  rcases hc with rfl | rfl <;>
    simp [readScalar, readNumberText, readMagnitude, spanDigits]

/-- With no level left no container is read. -/
theorem read_container_zero {o : Outline} {c : Char} (hc : c = '[' ∨ c = '\x7b')
    (cs : List Char) : readValue 0 o (c :: cs) = none := by
  have hs : isSpace c = false := by rcases hc with rfl | rfl <;> decide
  rw [readValue, skip_space_cons hs, read_scalar_container hc]

/-- What is read of an array is balanced between its brackets. -/
theorem read_value_array_passes {levels : Nat} {o : Outline} {cs rest : List Char} {v : Value}
    (h : readValue levels o ('[' :: cs) = some (v, rest)) : Passes cs (']' :: rest) := by
  cases levels with
  | zero =>
    rw [read_container_zero (Or.inl rfl)] at h
    cases h
  | succ levels => exact read_value_items_passes (fun _ _ _ _ => read_value_passes) h

/-- What is read of an object is balanced between its braces. -/
theorem read_value_object_passes {levels : Nat} {o : Outline} {cs rest : List Char} {v : Value}
    (h : readValue levels o ('\x7b' :: cs) = some (v, rest)) : Passes cs ('\x7d' :: rest) := by
  cases levels with
  | zero =>
    rw [read_container_zero (Or.inr rfl)] at h
    cases h
  | succ levels => exact read_value_members_passes (fun _ _ _ _ => read_value_passes) h

/-- A whole text that is an array is balanced between its brackets, and only white space follows
the closing one. -/
theorem read_document_array {o : Outline} {cs : List Char} {v : Value}
    (h : readDocument o ('[' :: cs) = some v) :
    ∃ w rest, Balanced w ∧ cs = w ++ ']' :: rest ∧ ∀ c ∈ rest, isSpace c = true := by
  unfold readDocument at h
  split at h
  · cases h
  · next u rest hr =>
    split_ifs at h with hs
    obtain ⟨w, hw, hcs⟩ := read_value_array_passes hr
    refine ⟨w, rest, hw, hcs, ?_⟩
    simpa [skipSpace] using hs

end CodeJudge.Json
