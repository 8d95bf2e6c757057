import CodeJudge.Proofs.Json.RoundTrip
/-!
What is written. The compact text of a value whose numbers survive is balanced, and it holds no
control character, so it stands on one line.
-/
namespace CodeJudge.Json

/-- What is written of a value can be read at as many levels as the value has. -/
theorem exists_read_write {v : Value} (hv : v.Survives) :
    readValue v.depth .whole v.write = some (v, []) := by
  have hread := read_value_write (Outline.whole_covers v) hv v.depth EndsNumber.nil
  rw [List.append_nil, if_pos le_rfl] at hread
  exact hread

theorem balanced_write_items {items : List Value} (hv : ∀ v ∈ items, v.Survives) :
    Balanced (Value.writeItems items) := by
  have hs : (Value.array items).Survives := (Value.survives_items_iff items).mpr hv
  obtain ⟨w, hw, hcs⟩ := read_value_array_passes (exists_read_write hs)
  rwa [List.append_cancel_right hcs]

theorem balanced_write_members {members : List (String × Value)}
    (hv : ∀ m ∈ members, m.2.Survives) : Balanced (Value.writeMembers members) := by
  have hs : (Value.object members).Survives := (Value.survives_members_iff members).mpr hv
  obtain ⟨w, hw, hcs⟩ := read_value_object_passes (exists_read_write hs)
  rwa [List.append_cancel_right hcs]

/-- What stands in front of an item that follows others. -/
def separator {α : Type} (before : List α) : List Char := if before.isEmpty then [] else [',']

theorem write_items_concat (vs : List Value) (v : Value) :
    Value.writeItems (vs ++ [v]) = Value.writeItems vs ++ (separator vs ++ v.write) := by
  induction vs with
  | nil => rfl
  | cons w vs ih =>
    cases vs with
    | nil => rfl
    | cons u vs =>
      rw [List.cons_append, List.cons_append, Value.writeItems, ← List.cons_append, ih,
        Value.writeItems]
      simp [separator]

/-! Control characters. -/

/-- No character of the text is a control character. -/
def Printable (cs : List Char) : Prop := ∀ c ∈ cs, 0x20 ≤ c.toNat

instance (cs : List Char) : Decidable (Printable cs) :=
  decidable_of_iff (cs.all fun c => decide (0x20 ≤ c.toNat)) (by simp [Printable])

namespace Printable

theorem nil : Printable [] := by simp [Printable]

theorem append {cs ds : List Char} (h : Printable cs) (g : Printable ds) :
    Printable (cs ++ ds) := by
  intro c hc
  rcases List.mem_append.mp hc with hc | hc
  · exact h c hc
  · exact g c hc

theorem cons {c : Char} {cs : List Char} (hc : 0x20 ≤ c.toNat) (h : Printable cs) :
    Printable (c :: cs) := List.forall_mem_cons.mpr ⟨hc, h⟩

theorem not_newline {cs : List Char} (h : Printable cs) : '\n' ∉ cs := by
  intro hc
  exact absurd (h '\n' hc) (by decide)

end Printable

theorem printable_of_numeral {c : Char} (h : isNumeral c = true) : 0x20 ≤ c.toNat := by
  simp only [isNumeral, Char.isDigit, Bool.or_eq_true, Bool.and_eq_true, decide_eq_true_eq,
    beq_iff_eq, UInt32.le_iff_toNat_le] at h
  rcases h with ((((h | rfl) | rfl) | rfl) | rfl) | rfl
  · exact Nat.le_trans (by decide) h.1
  all_goals decide

theorem printable_escape_char (c : Char) : Printable (escapeChar c) := by
  unfold escapeChar
  split
  case h_8 =>
    by_cases hc : c.toNat < 0x20
    · obtain ⟨a, b, hab, hu⟩ := unit_of_control c.toNat hc
      obtain ⟨-, -, ha, hb⟩ := ordinary_of_unit hu
      rw [if_pos hc, List.append_assoc, hab]
      refine Printable.append (by decide) ?_
      exact Printable.cons ha.1 (Printable.cons hb.1 Printable.nil)
    · rw [if_neg hc]
      exact Printable.cons (by omega) Printable.nil
  all_goals decide

theorem printable_write_string (s : String) : Printable (writeString s) := by
  have hs : Printable (s.toList.flatMap escapeChar) := by
    intro d hd
    obtain ⟨c, -, hc⟩ := List.mem_flatMap.mp hd
    exact printable_escape_char c d hc
  exact (hs.cons (by decide)).append (Printable.nil.cons (by decide))

/-- A number that survives is written with numerals only. -/
theorem numerals_write_number {n : Number} (hn : n.Survives) :
    ∀ c ∈ writeNumber n, isNumeral c = true := by
  obtain ⟨t, ht, -⟩ := read_scalar_number hn
  obtain ⟨w, hw, hwn⟩ := read_number_text_numerals ht
  rw [List.append_nil] at hwn
  rwa [hwn]

theorem printable_write_items {vs : List Value} (h : ∀ v ∈ vs, Printable v.write) :
    Printable (Value.writeItems vs) := by
  induction vs with
  | nil => exact Printable.nil
  | cons v vs ih =>
    have hv := h v (by simp)
    cases vs with
    | nil => exact hv
    | cons w vs => exact hv.append ((ih fun u hu => h u (by simp [hu])).cons (by decide))

theorem printable_write_members {ms : List (String × Value)}
    (h : ∀ m ∈ ms, Printable m.2.write) : Printable (Value.writeMembers ms) := by
  induction ms with
  | nil => exact Printable.nil
  | cons m ms ih =>
    obtain ⟨key, v⟩ := m
    have hv := (printable_write_string key).append
      ((h (key, v) (by simp)).cons (show 0x20 ≤ ':'.toNat by decide))
    cases ms with
    | nil => exact hv
    | cons w ms =>
      have hrest := (ih fun u hu => h u (by simp [hu])).cons (show 0x20 ≤ ','.toNat by decide)
      exact hv.append hrest

/-- What is written of a value stands on one line. -/
theorem printable_write {v : Value} (hv : v.Survives) : Printable v.write := by
  induction v using Value.induction_on with
  | null => decide
  | bool b => cases b <;> decide
  | number n => exact fun c hc => printable_of_numeral (numerals_write_number hv c hc)
  | string s => exact printable_write_string s
  | array items ih =>
    have hall := (Value.survives_items_iff items).mp hv
    have hitems := printable_write_items fun v hm => ih v hm (hall v hm)
    exact (hitems.cons (by decide)).append (Printable.nil.cons (by decide))
  | object members ih =>
    have hall := (Value.survives_members_iff members).mp hv
    have hmembers := printable_write_members fun m hm => ih m hm (hall m hm)
    exact (hmembers.cons (by decide)).append (Printable.nil.cons (by decide))

end CodeJudge.Json
