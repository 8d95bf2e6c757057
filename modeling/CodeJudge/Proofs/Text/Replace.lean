import CodeJudge.Text.Replace
import Mathlib
/-!
Replacing. Where the needle stands it is passed over and the replacement is put in, elsewhere the
character stays. A text whose parts the needle cannot reach across is replaced part by part.
-/
namespace CodeJudge.Text

theorem occurs_in_iff (needle cs : List Char) :
    occursIn needle cs = true ↔ needle <:+: cs := by
  induction cs with
  | nil => simp [occursIn]
  | cons c cs ih =>
    rw [occursIn, Bool.or_eq_true, List.isPrefixOf_iff_prefix, ih, List.infix_cons_iff]

/-- What has a character that the text lacks does not occur in it. -/
theorem contains_of_missing {s needle : String} {c : Char} (hc : c ∈ needle.toList)
    (h : c ∉ s.toList) : contains s needle = false := by
  rw [Bool.eq_false_iff, contains, Ne, occurs_in_iff]
  exact fun hoccurs => h (hoccurs.subset hc)

theorem contains_of_part {s needle : String} {w rest : List Char} (hs : s.toList = w ++ rest)
    (hw : occursIn needle.toList w = true) : contains s needle = true := by
  rw [contains, hs, occurs_in_iff]
  exact ((occurs_in_iff _ _).mp hw).trans (List.prefix_append w rest).isInfix

/-- What begins a text and lacks the character behind its first part begins that part. -/
theorem prefix_of_prefix_append {needle w rest : List Char} (hrest : ∀ c ∈ rest.head?, c ∉ needle)
    (h : needle <+: w ++ rest) : needle <+: w := by
  rcases List.prefix_or_prefix_of_prefix h (List.prefix_append w rest) with hshort | ⟨t, rfl⟩
  · exact hshort
  · have hbehind : t <+: rest := (List.prefix_append_right_inj w).mp h
    cases t with
    | nil => rw [List.append_nil]
    | cons c t =>
      obtain ⟨rest, rfl⟩ := hbehind
      exact absurd (by simp) (hrest c rfl)

section

variable {needle : List Char} (hne : needle ≠ []) (v : List Char)

theorem replace_from_passed (needle v : List Char) (passed : Nat) (cs : List Char) :
    replaceFrom needle v passed cs = replaceFrom needle v 0 (cs.drop passed) := by
  induction passed generalizing cs with
  | zero => rfl
  | succ passed ih =>
    cases cs with
    | nil => rfl
    | cons c cs => rw [replaceFrom, ih, List.drop_succ_cons]

include hne in
theorem replace_from_needle (cs : List Char) :
    replaceFrom needle v 0 (needle ++ cs) = v ++ replaceFrom needle v 0 cs := by
  obtain ⟨c, tail, rfl⟩ := List.exists_cons_of_ne_nil hne
  have hbegins : (c :: tail).isPrefixOf (c :: (tail ++ cs)) = true :=
    List.isPrefixOf_iff_prefix.mpr (List.prefix_append (c :: tail) cs)
  have hpassed : (tail ++ cs).drop ((c :: tail).length - 1) = cs := by simp
  rw [List.cons_append, replaceFrom, if_pos hbegins, replace_from_passed, hpassed]

theorem replace_from_cons {c : Char} {cs : List Char} (h : ¬ needle <+: c :: cs) :
    replaceFrom needle v 0 (c :: cs) = c :: replaceFrom needle v 0 cs := by
  rw [replaceFrom, if_neg]
  rwa [List.isPrefixOf_iff_prefix]

include hne in
/-- Induction over a text by the places where the needle is found. -/
@[elab_as_elim]
theorem replaced_induction {P : List Char → Prop} (cs : List Char) (nil : P [])
    (found : ∀ cs, P cs → P (needle ++ cs))
    (other : ∀ c cs, ¬ needle <+: c :: cs → P cs → P (c :: cs)) : P cs := by
  have hpos : 0 < needle.length := List.length_pos_iff.mpr hne
  induction hlen : cs.length using Nat.strong_induction_on generalizing cs with
  | h n ih =>
    cases cs with
    | nil => exact nil
    | cons c cs =>
      by_cases hbegins : needle <+: c :: cs
      · obtain ⟨rest, hrest⟩ := hbegins
        rw [← hrest] at hlen ⊢
        refine found rest (ih rest.length ?_ rest rfl)
        rw [← hlen, List.length_append]
        omega
      · exact other c cs hbegins (ih cs.length (by simp [← hlen]) cs rfl)

include hne in
/-- The needle does not reach into a text that begins with a character it lacks. -/
theorem replace_from_append {rest : List Char} (hrest : ∀ c ∈ rest.head?, c ∉ needle)
    (w : List Char) : replaceFrom needle v 0 (w ++ rest) =
      replaceFrom needle v 0 w ++ replaceFrom needle v 0 rest := by
  induction w using replaced_induction hne with
  | nil => rfl
  | found w ih =>
    rw [List.append_assoc, replace_from_needle hne, replace_from_needle hne, ih,
      List.append_assoc]
  | other c w hother ih =>
    have happend : ¬ needle <+: c :: (w ++ rest) := fun h =>
      hother (prefix_of_prefix_append hrest h)
    rw [List.cons_append, replace_from_cons v happend, replace_from_cons v hother, ih,
      List.cons_append]

include hne in
/-- The length changes by as much for each of the places where the needle is found. -/
theorem exists_length_replace_from (cs : List Char) :
    ∃ count, (replaceFrom needle v 0 cs).length + count * needle.length =
      cs.length + count * v.length ∧ (count = 0 → ¬ needle <:+: cs) := by
  induction cs using replaced_induction hne with
  | nil => exact ⟨0, by simp [replaceFrom_nil], fun _ => by simpa using hne⟩
  | found cs ih =>
    obtain ⟨count, hlen, -⟩ := ih
    refine ⟨count + 1, ?_, fun h => absurd h (Nat.succ_ne_zero count)⟩
    rw [replace_from_needle hne, List.length_append, List.length_append, Nat.add_one_mul,
      Nat.add_one_mul]
    omega
  | other c cs hother ih =>
    obtain ⟨count, hlen, hnone⟩ := ih
    refine ⟨count, ?_, ?_⟩
    · rw [replace_from_cons v hother, List.length_cons, List.length_cons]
      omega
    · intro hcount hoccurs
      exact (List.infix_cons_iff.mp hoccurs).elim hother (hnone hcount)

include hne in
/-- A text stays as it is exactly if the needle does not occur in it, or is put in again. -/
theorem replace_from_eq_self_iff (cs : List Char) :
    replaceFrom needle v 0 cs = cs ↔ (needle <:+: cs → v = needle) := by
  constructor
  · intro heq hoccurs
    -- a needle that is found must be as long as what is put in
    have hlen : v.length = needle.length := by
      obtain ⟨count, hcount, hnone⟩ := exists_length_replace_from hne v cs
      have hpos : 0 < count := Nat.pos_of_ne_zero fun h => hnone h hoccurs
      rw [heq, Nat.add_left_cancel_iff] at hcount
      exact (Nat.eq_of_mul_eq_mul_left hpos hcount).symm
    induction cs using replaced_induction hne with
    | nil => exact absurd (List.infix_nil.mp hoccurs) hne
    | found cs ih =>
      rw [replace_from_needle hne] at heq
      exact (List.append_inj heq hlen).1
    | other c cs hother ih =>
      rw [replace_from_cons v hother] at heq
      exact ih (List.cons_injective heq) ((List.infix_cons_iff.mp hoccurs).resolve_left hother)
  · intro h
    induction cs using replaced_induction hne with
    | nil => rfl
    | found cs ih =>
      obtain rfl := h (List.prefix_append needle cs).isInfix
      rw [replace_from_needle hne, ih fun _ => rfl]
    | other c cs hother ih =>
      rw [replace_from_cons v hother, ih fun hoccurs => h (List.infix_cons hoccurs)]

end

end CodeJudge.Text
