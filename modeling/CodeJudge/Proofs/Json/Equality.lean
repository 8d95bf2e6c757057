import CodeJudge.Proofs.Json.Value
/-!
Equality of values. It is symmetric and transitive, and every well-formed value equals itself; only
what is not a number does not.
-/
namespace CodeJudge

theorem Binary64.equals_iff (x y : Binary64) :
    x.equals y = true ↔
      x ≠ .nan ∧ y ≠ .nan ∧ (x.isZero = true ∧ y.isZero = true ∨ x = y) := by
  cases x <;> cases y <;> simp [equals]

namespace Json

namespace Number

theorem equals_symm {m n : Number} (h : m.equals n = true) : n.equals m = true := by
  cases m with
  | int i =>
    cases n with
    | int j => rw [equals, beq_iff_eq] at h ⊢; exact h.symm
    | float y => cases h
  | float x =>
    cases n with
    | int j => cases h
    | float y =>
      rw [equals, Binary64.equals_iff] at h ⊢
      obtain ⟨hx, hy, h⟩ := h
      exact ⟨hy, hx, h.imp And.symm Eq.symm⟩

theorem equals_trans {l m n : Number} (h : l.equals m = true) (g : m.equals n = true) :
    l.equals n = true := by
  cases m with
  | int j =>
    cases l with
    | float x => cases h
    | int i =>
      rw [equals, beq_iff_eq] at h
      rwa [h]
  | float y =>
    cases l with
    | int i => cases h
    | float x =>
      cases n with
      | int k => cases g
      | float z =>
        rw [equals, Binary64.equals_iff] at h g ⊢
        refine ⟨h.1, g.2.1, ?_⟩
        -- two zeros may differ in their signs
        rcases h.2.2 with ⟨hx, hy⟩ | rfl
        · rcases g.2.2 with ⟨-, hz⟩ | rfl
          · exact Or.inl ⟨hx, hz⟩
          · exact Or.inl ⟨hx, hy⟩
        · exact g.2.2

end Number

namespace Value

/-! What each kind of value equals. -/

theorem null_equals (b : Value) : null.equals b = true ↔ b = null := by
  cases b <;> simp [equals]

theorem bool_equals (x : Bool) (b : Value) : (bool x).equals b = true ↔ b = bool x := by
  cases b <;> simp [equals, @eq_comm Bool x]

theorem number_equals (m : Number) (b : Value) :
    (number m).equals b = true ↔ ∃ n, b = number n ∧ m.equals n = true := by
  cases b <;> simp [equals]

theorem string_equals (s : String) (b : Value) : (string s).equals b = true ↔ b = string s := by
  cases b <;> simp [equals, @eq_comm String s]

theorem array_equals (as : List Value) (b : Value) :
    (array as).equals b = true ↔ ∃ bs, b = array bs ∧ equalItems as bs = true := by
  cases b <;> simp [equals]

theorem object_equals (as : List (String × Value)) (b : Value) :
    (object as).equals b = true ↔ ∃ bs, b = object bs ∧ equalMembers as bs = true := by
  cases b <;> simp [equals]

theorem nil_equal_items (bs : List Value) : equalItems [] bs = true ↔ bs = [] := by
  cases bs <;> simp [equalItems]

theorem cons_equal_items (a : Value) (as bs : List Value) :
    equalItems (a :: as) bs = true ↔
      ∃ c cs, bs = c :: cs ∧ a.equals c = true ∧ equalItems as cs = true := by
  cases bs <;> simp [equalItems]

theorem nil_equal_members (bs : List (String × Value)) :
    equalMembers [] bs = true ↔ bs = [] := by
  cases bs <;> simp [equalMembers]

theorem cons_equal_members (k : String) (a : Value) (as bs : List (String × Value)) :
    equalMembers ((k, a) :: as) bs = true ↔
      ∃ c cs, bs = (k, c) :: cs ∧ a.equals c = true ∧ equalMembers as cs = true := by
  cases bs with
  | nil => simp [equalMembers]
  | cons b bs =>
    obtain ⟨l, b⟩ := b
    simp only [equalMembers, Bool.and_eq_true, beq_iff_eq, List.cons.injEq, Prod.mk.injEq]
    constructor
    · rintro ⟨⟨rfl, hb⟩, hbs⟩
      exact ⟨b, bs, ⟨⟨rfl, rfl⟩, rfl⟩, hb, hbs⟩
    · rintro ⟨c, cs, ⟨⟨rfl, rfl⟩, rfl⟩, hb, hbs⟩
      exact ⟨⟨rfl, hb⟩, hbs⟩

mutual
theorem equals_symm {a b : Value} (h : a.equals b = true) : b.equals a = true := by
  cases a with
  | null =>
    rw [(null_equals b).mp h]
    rfl
  | bool x =>
    rw [(bool_equals x b).mp h, bool_equals]
  | number m =>
    obtain ⟨n, rfl, hn⟩ := (number_equals m b).mp h
    exact (number_equals n _).mpr ⟨m, rfl, Number.equals_symm hn⟩
  | string s =>
    rw [(string_equals s b).mp h, string_equals]
  | array as =>
    obtain ⟨bs, rfl, hbs⟩ := (array_equals as b).mp h
    exact (array_equals bs _).mpr ⟨as, rfl, equal_items_symm hbs⟩
  | object as =>
    obtain ⟨bs, rfl, hbs⟩ := (object_equals as b).mp h
    exact (object_equals bs _).mpr ⟨as, rfl, equal_members_symm hbs⟩

theorem equal_items_symm {as bs : List Value} (h : equalItems as bs = true) :
    equalItems bs as = true := by
  cases as with
  | nil =>
    rw [(nil_equal_items bs).mp h]
    rfl
  | cons a as =>
    obtain ⟨c, cs, rfl, hc, hcs⟩ := (cons_equal_items a as bs).mp h
    exact (cons_equal_items c cs _).mpr ⟨a, as, rfl, equals_symm hc, equal_items_symm hcs⟩

theorem equal_members_symm {as bs : List (String × Value)} (h : equalMembers as bs = true) :
    equalMembers bs as = true := by
  cases as with
  | nil =>
    rw [(nil_equal_members bs).mp h]
    rfl
  | cons m as =>
    obtain ⟨k, a⟩ := m
    obtain ⟨c, cs, rfl, hc, hcs⟩ := (cons_equal_members k a as bs).mp h
    exact (cons_equal_members k c cs _).mpr ⟨a, as, rfl, equals_symm hc, equal_members_symm hcs⟩
end

mutual
theorem equals_trans {a b c : Value} (h : a.equals b = true) (g : b.equals c = true) :
    a.equals c = true := by
  cases a with
  | null =>
    rwa [(null_equals b).mp h] at g
  | bool x =>
    rwa [(bool_equals x b).mp h] at g
  | number m =>
    obtain ⟨n, rfl, hn⟩ := (number_equals m b).mp h
    obtain ⟨o, rfl, ho⟩ := (number_equals n c).mp g
    exact (number_equals m _).mpr ⟨o, rfl, Number.equals_trans hn ho⟩
  | string s =>
    rwa [(string_equals s b).mp h] at g
  | array as =>
    obtain ⟨bs, rfl, hbs⟩ := (array_equals as b).mp h
    obtain ⟨cs, rfl, hcs⟩ := (array_equals bs c).mp g
    exact (array_equals as _).mpr ⟨cs, rfl, equal_items_trans hbs hcs⟩
  | object as =>
    obtain ⟨bs, rfl, hbs⟩ := (object_equals as b).mp h
    obtain ⟨cs, rfl, hcs⟩ := (object_equals bs c).mp g
    exact (object_equals as _).mpr ⟨cs, rfl, equal_members_trans hbs hcs⟩

theorem equal_items_trans {as bs cs : List Value} (h : equalItems as bs = true)
    (g : equalItems bs cs = true) : equalItems as cs = true := by
  cases as with
  | nil =>
    rwa [(nil_equal_items bs).mp h] at g
  | cons a as =>
    obtain ⟨b, bs, rfl, hb, hbs⟩ := (cons_equal_items a as bs).mp h
    obtain ⟨c, cs, rfl, hc, hcs⟩ := (cons_equal_items b bs cs).mp g
    exact (cons_equal_items a as _).mpr
      ⟨c, cs, rfl, equals_trans hb hc, equal_items_trans hbs hcs⟩

theorem equal_members_trans {as bs cs : List (String × Value)} (h : equalMembers as bs = true)
    (g : equalMembers bs cs = true) : equalMembers as cs = true := by
  cases as with
  | nil =>
    rwa [(nil_equal_members bs).mp h] at g
  | cons m as =>
    obtain ⟨k, a⟩ := m
    obtain ⟨b, bs, rfl, hb, hbs⟩ := (cons_equal_members k a as bs).mp h
    obtain ⟨c, cs, rfl, hc, hcs⟩ := (cons_equal_members k b bs cs).mp g
    exact (cons_equal_members k a as _).mpr
      ⟨c, cs, rfl, equals_trans hb hc, equal_members_trans hbs hcs⟩
end

theorem equal_items_refl {as : List Value} (h : ∀ a ∈ as, a.equals a = true) :
    equalItems as as = true := by
  induction as with
  | nil => rfl
  | cons a as ih =>
    rw [List.forall_mem_cons] at h
    exact (cons_equal_items a as _).mpr ⟨a, as, rfl, h.1, ih h.2⟩

theorem equal_members_refl {as : List (String × Value)} (h : ∀ m ∈ as, m.2.equals m.2 = true) :
    equalMembers as as = true := by
  induction as with
  | nil => rfl
  | cons m as ih =>
    rw [List.forall_mem_cons] at h
    exact (cons_equal_members m.1 m.2 as _).mpr ⟨m.2, as, rfl, h.1, ih h.2⟩

/-- A well-formed value equals itself. -/
theorem equals_refl {v : Value} (h : v.WellFormed) : v.equals v = true := by
  induction v using Value.induction_on with
  | null => rfl
  | bool b => rw [bool_equals]
  | number n =>
    cases n with
    | int i => exact (number_equals _ _).mpr ⟨_, rfl, beq_self_eq_true i⟩
    | float x =>
      obtain ⟨-, hfinite⟩ := h
      refine (number_equals _ _).mpr ⟨_, rfl, (Binary64.equals_iff x x).mpr ?_⟩
      have hx : x ≠ .nan := by
        rintro rfl
        cases hfinite
      exact ⟨hx, hx, Or.inr rfl⟩
  | string s => rw [string_equals]
  | array items ih =>
    have hitems := (well_formed_items_iff items).mp h
    have hrefl := equal_items_refl fun v hv => ih v hv (hitems v hv)
    exact (array_equals items _).mpr ⟨items, rfl, hrefl⟩
  | object members ih =>
    have hmembers := (well_formed_members_iff members).mp h.2
    have hrefl := equal_members_refl fun m hm => ih m hm (hmembers m hm)
    exact (object_equals members _).mpr ⟨members, rfl, hrefl⟩

/-- Values that are equal equal the same values. -/
theorem equals_congr {a b : Value} (h : a.equals b = true) (c : Value) :
    c.equals a = c.equals b := by
  rw [Bool.eq_iff_iff]
  exact ⟨fun hc => equals_trans hc h, fun hc => equals_trans hc (equals_symm h)⟩

/-- A value does not equal two values that are not equal. -/
theorem not_equals_of_ne {a b c : Value} (h : a.equals b = false) (hc : c.equals a = true) :
    c.equals b = false := by
  by_contra hb
  rw [Bool.not_eq_false] at hb
  rw [equals_trans (equals_symm hc) hb] at h
  cases h

end Value

end Json

end CodeJudge
