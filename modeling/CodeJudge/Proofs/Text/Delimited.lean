import Mathlib
/-!
Delimited texts. Two texts are delimited by a condition if longer texts that begin with them are the
same exactly if the condition holds and the texts go on the same. So equal texts that are put
together from delimited ones can be taken apart.
-/
namespace CodeJudge.Text

/-- Whatever follows them, the texts are the same exactly if `P` holds and they go on the same. -/
def Delimited (P : Prop) (a b : String) : Prop := ∀ x y : String, a ++ x = b ++ y ↔ P ∧ x = y

namespace Delimited

variable {P Q : Prop} {a b c d : String}

theorem refl (a : String) : Delimited True a a := by
  intro x y
  rw [String.append_right_inj, true_and]

/-- Texts behind delimited ones need only be delimited where the condition holds. -/
theorem append_of (h : Delimited P a b) (g : P → Delimited Q c d) :
    Delimited (P ∧ Q) (a ++ c) (b ++ d) := by
  intro x y
  rw [String.append_assoc, String.append_assoc, h, and_assoc]
  exact and_congr_right fun hp => g hp x y

theorem append (h : Delimited P a b) (g : Delimited Q c d) :
    Delimited (P ∧ Q) (a ++ c) (b ++ d) := h.append_of fun _ => g

theorem congr (h : Delimited P a b) (hpq : P ↔ Q) : Delimited Q a b := by
  intro x y
  rw [h, hpq]

/-- A fixed text in front. -/
theorem before (h : Delimited P a b) (c : String) : Delimited P (c ++ a) (c ++ b) :=
  ((refl c).append h).congr (iff_of_eq (true_and P))

/-- A fixed text behind. -/
theorem behind (h : Delimited P a b) (c : String) : Delimited P (a ++ c) (b ++ c) :=
  (h.append (refl c)).congr (iff_of_eq (and_true P))

theorem eq_iff (h : Delimited P a b) : a = b ↔ P := by
  have hempty := h "" ""
  simpa using hempty

theorem self (h : Delimited P a b) : Delimited (a = b) a b := h.congr h.eq_iff.symm

/-- Texts of which neither begins the other, unless they are the same. -/
theorem of_neither_begins (hab : a.toList <+: b.toList → a = b)
    (hba : b.toList <+: a.toList → b = a) : Delimited (a = b) a b := by
  intro x y
  constructor
  · intro h
    have hsame : a = b := by
      have hlists : a.toList ++ x.toList = b.toList ++ y.toList := by
        rw [← String.toList_append, h, String.toList_append]
      have ha : a.toList <+: b.toList ++ y.toList := ⟨_, hlists⟩
      have hb : b.toList <+: b.toList ++ y.toList := List.prefix_append _ _
      -- both begin one text, so one of them begins the other
      rcases List.prefix_or_prefix_of_prefix ha hb with hp | hp
      · exact hab hp
      · exact (hba hp).symm
    rw [hsame] at h
    exact ⟨hsame, (String.append_right_inj b).mp h⟩
  · rintro ⟨rfl, rfl⟩
    rfl

variable {α : Type} {R : α → Prop} {f g : α → String}

/-- Texts of the items of one list, one after the other. -/
theorem join (as : List α) (h : ∀ a ∈ as, Delimited (R a) (f a) (g a)) :
    Delimited (∀ a ∈ as, R a) (String.join (as.map f)) (String.join (as.map g)) := by
  induction as with
  | nil => exact (refl _).congr (by simp)
  | cons a as ih =>
    have hrest := ih fun b hb => h b (List.mem_cons_of_mem a hb)
    rw [List.map_cons, List.map_cons, String.join_cons, String.join_cons]
    exact ((h a List.mem_cons_self).append hrest).congr List.forall_mem_cons.symm

/-- Texts of the items of one list with a separator between them. -/
theorem intercalate (s : String) (as : List α) (h : ∀ a ∈ as, Delimited (R a) (f a) (g a)) :
    Delimited (∀ a ∈ as, R a) (s.intercalate (as.map f)) (s.intercalate (as.map g)) := by
  -- a separator belongs to the item behind it
  have hjoin (t : String) (ts : List String) :
      s.intercalate (t :: ts) = t ++ String.join (ts.map (s ++ ·)) := by
    induction ts generalizing t with
    | nil => simp
    | cons u ts ih =>
      rw [String.intercalate_cons_cons, ih, List.map_cons, String.join_cons]
      simp only [String.append_assoc]
  cases as with
  | nil => exact (refl _).congr (by simp)
  | cons a as =>
    have hrest := join as fun b hb => (h b (List.mem_cons_of_mem a hb)).before s
    rw [List.map_cons, List.map_cons, hjoin, hjoin, List.map_map, List.map_map]
    exact ((h a List.mem_cons_self).append hrest).congr List.forall_mem_cons.symm

end Delimited

end CodeJudge.Text
