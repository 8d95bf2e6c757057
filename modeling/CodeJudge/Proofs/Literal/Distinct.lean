import CodeJudge.Proofs.Literal.Integer
import CodeJudge.Proofs.Literal.ReadBack
/-!
Literals of different values are different. A literal tells where it ends, in front of a comma, a
closing brace or nothing, so the items of a nested literal are told apart one by one; the induction
is on the depth and, inside a level, on the items.
-/
namespace CodeJudge.Literal

/-- The values that a scalar type writes in full. Numbers with a fraction and characters are none
of them. -/
def IsLeaf : Scalar → Json.Value → Prop
  | .int, v | .long, v => ∃ i, Scalar.IsInt64 i ∧ v = .number (.int i)
  | .bool, v => ∃ b, v = .bool b
  | .string, v => ∃ s, v = .string s
  | .double, _ | .char, _ => False

/-- Arrays nested `depth` levels deep, of any lengths, with leaves of a scalar type. -/
def IsNested (s : Scalar) : Nat → Json.Value → Prop
  | 0, v => IsLeaf s v
  | depth + 1, v => ∃ items, v = .array items ∧ ∀ item ∈ items, IsNested s depth item

/-- An item of a nested literal may end in front of the text. -/
def EndsItem (cs : List Char) : Prop := ∀ c ∈ cs.head?, c = ',' ∨ c = '\x7d'

/-- In front of anything that ends an item, the text of a value tells the value and where it
ends. -/
def TellsApart (P : Json.Value → Prop) (write : Json.Value → List Char) : Prop :=
  ∀ (v w : Json.Value) (r s : List Char), P v → P w → EndsItem r → EndsItem s →
    write v ++ r = write w ++ s → v = w ∧ r = s

/-- The text begins with a character that closes nothing. -/
def Opens (cs : List Char) : Prop := ∃ c ds, cs = c :: ds ∧ c ≠ '\x7d'

/-! Items. -/

/-- The text of items that a closing brace ends. -/
def closedItems (write : Json.Value → List Char) (vs : List Json.Value) (rest : List Char) :
    List Char :=
  [',', ' '].intercalate (vs.map write) ++ '\x7d' :: rest

theorem closed_items_cons (write : Json.Value → List Char) (v : Json.Value)
    (vs : List Json.Value) (rest : List Char) :
    closedItems write (v :: vs) rest = write v ++
      if vs = [] then '\x7d' :: rest else ',' :: ' ' :: closedItems write vs rest := by
  cases vs with
  | nil => simp [closedItems, List.intercalate]
  | cons w vs =>
    have hne : ((w :: vs).map write) ≠ [] := by simp
    rw [closedItems, List.map_cons, List.intercalate_cons_of_ne_nil hne, if_neg (by simp)]
    simp [closedItems]

theorem opens_closed_items {P : Json.Value → Prop} {write : Json.Value → List Char}
    (hopens : ∀ v, P v → Opens (write v)) {v : Json.Value} (hv : P v) (vs : List Json.Value)
    (rest rest' : List Char) : closedItems write (v :: vs) rest ≠ '\x7d' :: rest' := by
  obtain ⟨c, ds, hc, hne⟩ := hopens v hv
  rw [closed_items_cons, hc, List.cons_append]
  intro h
  exact hne (List.cons.inj h).1

/-- Lists of items are told apart if the items are. -/
theorem closed_items_injective {P : Json.Value → Prop} {write : Json.Value → List Char}
    (htells : TellsApart P write) (hopens : ∀ v, P v → Opens (write v))
    {vs ws : List Json.Value} (hvs : ∀ v ∈ vs, P v) (hws : ∀ w ∈ ws, P w) {r s : List Char}
    (h : closedItems write vs r = closedItems write ws s) : vs = ws ∧ r = s := by
  induction vs generalizing ws with
  | nil =>
    cases ws with
    | nil => exact ⟨rfl, (List.cons.inj h).2⟩
    | cons w ws => exact absurd h.symm (opens_closed_items hopens (hws w (by simp)) ws s r)
  | cons v vs ih =>
    cases ws with
    | nil => exact absurd h (opens_closed_items hopens (hvs v (by simp)) vs r s)
    | cons w ws =>
      have hends (us : List Json.Value) (t : List Char) : EndsItem
          (if us = [] then '\x7d' :: t else ',' :: ' ' :: closedItems write us t) := by
        split_ifs <;> simp [EndsItem]
      rw [closed_items_cons, closed_items_cons] at h
      obtain ⟨rfl, htail⟩ := htells v w _ _ (hvs v (by simp)) (hws w (by simp)) (hends vs r)
        (hends ws s) h
      -- behind the first item a brace closes both lists or a comma goes on with both
      split_ifs at htail with hvsnil hwsnil hwsnil
      · exact ⟨by rw [hvsnil, hwsnil], (List.cons.inj htail).2⟩
      · cases htail
      · cases htail
      · simp only [List.cons.injEq, true_and] at htail
        obtain ⟨rfl, hr⟩ := ih (fun u hu => hvs u (by simp [hu])) (fun u hu => hws u (by simp [hu]))
          htail
        exact ⟨rfl, hr⟩

/-! Scalars without commas and braces. -/

/-- No character of the text ends an item. -/
def IsPlain (cs : List Char) : Prop := ∀ c ∈ cs, ¬ (c = ',' ∨ c = '\x7d')

instance (cs : List Char) : Decidable (IsPlain cs) :=
  decidable_of_iff (cs.all fun c => c != ',' && c != '\x7d') (by simp [IsPlain])

theorem IsPlain.append {cs ds : List Char} (hc : IsPlain cs) (hd : IsPlain ds) :
    IsPlain (cs ++ ds) := by
  intro c h
  rcases List.mem_append.mp h with h | h
  · exact hc c h
  · exact hd c h

theorem plain_append_injective {as bs r s : List Char} (ha : IsPlain as) (hb : IsPlain bs)
    (hr : EndsItem r) (hs : EndsItem s) (h : as ++ r = bs ++ s) : as = bs ∧ r = s := by
  induction as generalizing bs with
  | nil =>
    cases bs with
    | nil => exact ⟨rfl, h⟩
    | cons b bs =>
      rw [List.nil_append] at h
      exact absurd (hr b (by simp [h])) (hb b (by simp))
  | cons a as ih =>
    cases bs with
    | nil =>
      rw [List.nil_append] at h
      exact absurd (hs a (by simp [← h])) (ha a (by simp))
    | cons b bs =>
      obtain ⟨rfl, htail⟩ := List.cons.inj h
      obtain ⟨rfl, hrs⟩ := ih (fun c hc => ha c (List.mem_cons_of_mem a hc))
        (fun c hc => hb c (List.mem_cons_of_mem a hc)) htail
      exact ⟨rfl, hrs⟩

theorem plain_opens {cs : List Char} (h : IsPlain cs) (hne : cs ≠ []) : Opens cs := by
  obtain ⟨c, ds, rfl⟩ := List.exists_cons_of_ne_nil hne
  exact ⟨c, ds, rfl, fun hc => h c (by simp) (Or.inr hc)⟩

theorem plain_int_text (i : Int) : IsPlain (intText i).toList := by
  rintro c hc (rfl | rfl)
  · exact absurd (int_text_char hc) (by decide)
  · exact absurd (int_text_char hc) (by decide)

/-- Of plain texts that are different for different leaves. -/
theorem tells_apart_plain {P : Json.Value → Prop} {write : Json.Value → List Char}
    (hplain : ∀ v, P v → IsPlain (write v))
    (hinj : ∀ v w, P v → P w → write v = write w → v = w) : TellsApart P write := by
  intro v w r s hv hw hr hs h
  obtain ⟨hvw, hrs⟩ := plain_append_injective (hplain v hv) (hplain w hw) hr hs h
  exact ⟨hinj v w hv hw hvw, hrs⟩

/-! Nested values. -/

/-- A way to write nested values: leaves are told apart, and a level is its items in braces behind a
front of its own. -/
structure WritesNested (s : Scalar) (write : Nat → Json.Value → List Char) : Prop where
  tells_leaves_apart : TellsApart (IsLeaf s) (write 0)
  opens_leaf : ∀ v, IsLeaf s v → Opens (write 0 v)
  exists_front : ∀ depth, ∃ front, (∀ rest, Opens (front ++ '\x7b' :: rest)) ∧
    ∀ items rest, write (depth + 1) (.array items) ++ rest =
      front ++ '\x7b' :: closedItems (write depth) items rest

namespace WritesNested

variable {s : Scalar} {write : Nat → Json.Value → List Char}

theorem opens (h : WritesNested s write) {depth : Nat} {v : Json.Value}
    (hv : IsNested s depth v) : Opens (write depth v) := by
  cases depth with
  | zero => exact h.opens_leaf v hv
  | succ depth =>
    obtain ⟨items, rfl, -⟩ := hv
    obtain ⟨front, hopens, htext⟩ := h.exists_front depth
    rw [← List.append_nil (write (depth + 1) _), htext]
    exact hopens _

theorem tells_apart (h : WritesNested s write) (depth : Nat) :
    TellsApart (IsNested s depth) (write depth) := by
  induction depth with
  | zero => exact h.tells_leaves_apart
  | succ depth ih =>
    rintro v w r t ⟨vs, rfl, hvs⟩ ⟨ws, rfl, hws⟩ - - heq
    obtain ⟨front, -, htext⟩ := h.exists_front depth
    rw [htext, htext] at heq
    have hitems := (List.cons.inj (List.append_cancel_left heq)).2
    obtain ⟨rfl, hr⟩ := closed_items_injective ih (fun _ hv => h.opens hv) hvs hws hitems
    exact ⟨rfl, hr⟩

end WritesNested

/-! Scalars. -/

/-- A way to write integers without commas and braces, different for different ones, writes leaves
that are told apart. -/
theorem tells_apart_integers {s : Scalar} (hs : s = .int ∨ s = .long)
    {write : Json.Value → List Char} (hplain : ∀ i, IsPlain (write (.number (.int i))))
    (hinj : ∀ i j, write (.number (.int i)) = write (.number (.int j)) → i = j) :
    TellsApart (IsLeaf s) write := by
  have hleaf : ∀ v, IsLeaf s v → ∃ i, v = .number (.int i) := by
    intro v hv
    rcases hs with rfl | rfl <;> obtain ⟨i, -, hi⟩ := hv <;> exact ⟨i, hi⟩
  apply tells_apart_plain
  · intro v hv
    obtain ⟨i, rfl⟩ := hleaf v hv
    exact hplain i
  · intro v w hv hw h
    obtain ⟨i, rfl⟩ := hleaf v hv
    obtain ⟨j, rfl⟩ := hleaf w hw
    rw [hinj i j h]

theorem tells_apart_bools : TellsApart (IsLeaf .bool) fun v => (boolText v).toList := by
  have hinj : ∀ a b : Bool,
      (boolText (.bool a)).toList = (boolText (.bool b)).toList → a = b := by decide
  apply tells_apart_plain
  · rintro v ⟨b, rfl⟩
    cases b <;> decide
  · rintro v w ⟨a, rfl⟩ ⟨b, rfl⟩ h
    rw [hinj a b h]

namespace Cpp

theorem plain_int_literal (i : Int) : IsPlain (scalar (.number (.int i)) .int).toList := by
  rw [int_literal]
  split_ifs
  · decide
  · exact plain_int_text i

theorem plain_long_literal (i : Int) : IsPlain (scalar (.number (.int i)) .long).toList := by
  rw [long_literal]
  split_ifs
  · decide
  · rw [String.toList_append]
    exact (plain_int_text i).append (by decide)

/-- The name of a least integer is no decimal literal. -/
theorem name_ne_int_text (i : Int) (suffix : List Char) {name : List Char}
    (hname : name = "INT_MIN".toList ∨ name = "LLONG_MIN".toList) :
    (intText i).toList ++ suffix ≠ name := by
  rcases hname with rfl | rfl
  · exact int_text_ne_name i suffix _ (by decide)
  · exact int_text_ne_name i suffix _ (by decide)

theorem int_literal_injective {i j : Int} (h : (scalar (.number (.int i)) .int).toList =
    (scalar (.number (.int j)) .int).toList) : i = j := by
  have hne (k : Int) : (intText k).toList ≠ "INT_MIN".toList := by
    have hname := name_ne_int_text k [] (Or.inl rfl)
    rwa [List.append_nil] at hname
  rw [int_literal, int_literal] at h
  split_ifs at h with hi hj hj
  · rw [hi, hj]
  · exact absurd h.symm (hne j)
  · exact absurd h (hne i)
  · exact int_text_injective (String.toList_injective h)

theorem long_literal_injective {i j : Int} (h : (scalar (.number (.int i)) .long).toList =
    (scalar (.number (.int j)) .long).toList) : i = j := by
  rw [long_literal, long_literal] at h
  split_ifs at h with hi hj hj
  · rw [hi, hj]
  · rw [String.toList_append] at h
    exact absurd h.symm (name_ne_int_text j _ (Or.inr rfl))
  · rw [String.toList_append] at h
    exact absurd h (name_ne_int_text i _ (Or.inr rfl))
  · rw [String.toList_append, String.toList_append] at h
    exact int_text_injective (String.toList_injective (List.append_cancel_right h))

theorem tells_apart_scalar (s : Scalar) : TellsApart (IsLeaf s) fun v => (scalar v s).toList := by
  cases s with
  | int =>
    exact tells_apart_integers (Or.inl rfl) plain_int_literal fun _ _ => int_literal_injective
  | long =>
    exact tells_apart_integers (Or.inr rfl) plain_long_literal fun _ _ => long_literal_injective
  | bool => exact tells_apart_bools
  | string =>
    rintro v w r s ⟨t, rfl⟩ ⟨u, rfl⟩ - - h
    -- both texts are read, and the same text gives the same
    have hread : readString? ((string t).toList ++ r) = some (t.toList, r) := read_string t r
    rw [show (string t).toList ++ r = (string u).toList ++ s from h, read_string] at hread
    obtain ⟨htext, hrest⟩ := Prod.mk.inj (Option.some.inj hread)
    exact ⟨by rw [String.toList_injective htext], hrest.symm⟩
  | double | char => exact fun _ _ _ _ hv => hv.elim

/-- The text of a leaf opens with a letter, a digit, a sign or a quote. -/
theorem opens_scalar {s : Scalar} {v : Json.Value} (hv : IsLeaf s v) :
    Opens (scalar v s).toList := by
  cases s with
  | int =>
    obtain ⟨i, -, rfl⟩ := hv
    refine plain_opens (plain_int_literal i) ?_
    rw [int_literal]
    split_ifs
    · decide
    · exact int_text_ne_nil i
  | long =>
    obtain ⟨i, -, rfl⟩ := hv
    refine plain_opens (plain_long_literal i) ?_
    rw [long_literal]
    split_ifs
    · decide
    · rw [String.toList_append]
      exact List.append_ne_nil_of_left_ne_nil (int_text_ne_nil i) _
  | bool =>
    obtain ⟨b, rfl⟩ := hv
    cases b <;> exact ⟨_, _, rfl, by decide⟩
  | string => exact ⟨'"', _, String.toList_ofList, by decide⟩
  | double | char => exact hv.elim

theorem vector_items (s : Scalar) (depth : Nat) (items : List Json.Value) (rest : List Char) :
    (vector s (depth + 1) (.array items)).toList ++ rest =
      (vectorType s (depth + 1)).toList ++ '\x7b' ::
        closedItems (fun v => (vector s depth v).toList) items rest := by
  simp [vector, toItems, closedItems, String.toList_intercalate, Function.comp_def]

theorem writes_nested (s : Scalar) :
    WritesNested s fun depth v => (vector s depth v).toList where
  tells_leaves_apart := tells_apart_scalar s
  opens_leaf _ := opens_scalar
  exists_front depth := by
    refine ⟨(vectorType s (depth + 1)).toList, ?_, vector_items s depth⟩
    intro rest
    rw [vectorType, String.toList_append, String.toList_append]
    exact ⟨'v', _, rfl, by decide⟩

end Cpp

namespace Java

theorem text_units_injective {t u : String} (h : textUnits t = textUnits u) : t = u := by
  have hdecode := decode_text_units t
  rw [h, decode_text_units] at hdecode
  exact String.toList_injective (Option.some.inj hdecode).symm

theorem units_ne_nil (c : Char) : units c ≠ [] := by
  rw [units]
  split_ifs <;> simp

/-- Nothing but the empty text is translated to no units. -/
theorem eq_nil_of_translate {cs : List Char} (h : translate? cs = some []) : cs = [] := by
  unfold translate? at h
  split at h
  · rfl
  · obtain ⟨us, -, hus⟩ := Option.map_eq_some_iff.mp h
    cases hus
  · split at h
    · obtain ⟨u, -, hu⟩ := Option.bind_eq_some_iff.mp h
      obtain ⟨us, -, hus⟩ := Option.map_eq_some_iff.mp hu
      cases hus
    · cases h
  · obtain ⟨us, -, hus⟩ := Option.map_eq_some_iff.mp h
    exact absurd (List.append_eq_nil_iff.mp hus).1 (units_ne_nil _)

/-- A string literal that another one begins with is that one. -/
theorem string_of_prefix {t u : String} {cs : List Char}
    (h : (string u).toList = (string t).toList ++ cs) : u = t ∧ cs = [] := by
  have hu := read_string u []
  have ht := read_string t cs
  have hend : translate? [] = some [] := by rw [translate?]
  rw [List.append_nil, hend, Option.map_some, h, ht] at hu
  obtain ⟨us, hus, hread⟩ := Option.map_eq_some_iff.mp hu
  obtain ⟨hunits, rfl⟩ := Prod.mk.inj hread
  exact ⟨(text_units_injective hunits).symm, eq_nil_of_translate hus⟩

theorem string_append_injective {t u : String} {r s : List Char}
    (h : (string t).toList ++ r = (string u).toList ++ s) : t = u ∧ r = s := by
  rcases List.append_eq_append_iff.mp h with ⟨cs, hu, hr⟩ | ⟨cs, ht, hs⟩
  · obtain ⟨rfl, rfl⟩ := string_of_prefix hu
    exact ⟨rfl, hr⟩
  · obtain ⟨rfl, rfl⟩ := string_of_prefix ht
    exact ⟨rfl, hs.symm⟩

theorem plain_long_literal (i : Int) : IsPlain (intText i ++ "L").toList := by
  rw [String.toList_append]
  exact (plain_int_text i).append (by decide)

theorem tells_apart_scalar (s : Scalar) : TellsApart (IsLeaf s) fun v => (scalar v s).toList := by
  cases s with
  | int =>
    exact tells_apart_integers (Or.inl rfl) plain_int_text
      fun _ _ h => int_text_injective (String.toList_injective h)
  | long =>
    refine tells_apart_integers (Or.inr rfl) plain_long_literal ?_
    intro i j h
    have htext : (intText i ++ "L").toList = (intText j ++ "L").toList := h
    rw [String.toList_append, String.toList_append] at htext
    exact int_text_injective (String.toList_injective (List.append_cancel_right htext))
  | bool => exact tells_apart_bools
  | string =>
    rintro v w r s ⟨t, rfl⟩ ⟨u, rfl⟩ - - h
    obtain ⟨rfl, hrest⟩ := string_append_injective h
    exact ⟨rfl, hrest⟩
  | double | char => exact fun _ _ _ _ hv => hv.elim

theorem initializer_items (s : Scalar) (depth : Nat) (items : List Json.Value)
    (rest : List Char) :
    (initializer s (depth + 1) (.array items)).toList ++ rest =
      '\x7b' :: closedItems (fun v => (initializer s depth v).toList) items rest := by
  simp [initializer, toItems, closedItems, String.toList_intercalate, Function.comp_def]

theorem opens_scalar {s : Scalar} {v : Json.Value} (hv : IsLeaf s v) :
    Opens (scalar v s).toList := by
  cases s with
  | int =>
    obtain ⟨i, -, rfl⟩ := hv
    exact plain_opens (plain_int_text i) (int_text_ne_nil i)
  | long =>
    obtain ⟨i, -, rfl⟩ := hv
    refine plain_opens (plain_long_literal i) ?_
    show (intText i ++ "L").toList ≠ []
    rw [String.toList_append]
    exact List.append_ne_nil_of_left_ne_nil (int_text_ne_nil i) _
  | bool =>
    obtain ⟨b, rfl⟩ := hv
    cases b <;> exact ⟨_, _, rfl, by decide⟩
  | string => exact ⟨'"', _, String.toList_ofList, by decide⟩
  | double | char => exact hv.elim

theorem writes_nested (s : Scalar) :
    WritesNested s fun depth v => (initializer s depth v).toList where
  tells_leaves_apart := tells_apart_scalar s
  opens_leaf _ := opens_scalar
  exists_front depth := by
    refine ⟨[], ?_, initializer_items s depth⟩
    exact fun rest => ⟨'\x7b', rest, rfl, by decide⟩

end Java

theorem TellsApart.eq_of_text_eq {P : Json.Value → Prop} {write : Json.Value → String}
    (h : TellsApart P fun v => (write v).toList) {v w : Json.Value} (hv : P v) (hw : P w)
    (hvw : write v = write w) : v = w := by
  have hends : EndsItem [] := by simp [EndsItem]
  have htext : (write v).toList ++ [] = (write w).toList ++ [] := by rw [hvw]
  exact (h v w [] [] hv hw hends hends htext).1

/-- Two values of the same depth that are written as the same literal, in either language, are the
same value. -/
theorem literal_determines_value {s : Scalar} {depth : Nat} {v w : Json.Value}
    (hv : IsNested s depth v) (hw : IsNested s depth w) :
    (Cpp.vector s depth v = Cpp.vector s depth w ↔ v = w) ∧
      (Java.array s depth v = Java.array s depth w ↔ v = w) := by
  refine ⟨⟨?_, fun h => by rw [h]⟩, ⟨?_, fun h => by rw [h]⟩⟩
  · exact ((Cpp.writes_nested s).tells_apart depth).eq_of_text_eq hv hw
  · intro h
    rw [Java.array, Java.array] at h
    have hinit : Java.initializer s depth v = Java.initializer s depth w := by
      have htext := congrArg String.toList h
      simp only [String.toList_append] at htext
      exact String.toList_injective (List.append_cancel_left htext)
    exact ((Java.writes_nested s).tells_apart depth).eq_of_text_eq hv hw hinit

/-- One text that holds the marks between two texts, and an empty row. -/
def oneMarkedText : Json.Value :=
  .array [.array [.string "a\", \"b\x7d, \x7b\\"], .array []]

/-- The two texts between the marks, and an empty row. -/
def twoTexts : Json.Value :=
  .array [.array [.string "a", .string "b\x7d, \x7b\\"], .array []]

theorem literal_determines_marked_text :
    IsNested .string 2 oneMarkedText ∧ IsNested .string 2 twoTexts ∧
      Cpp.vector .string 2 oneMarkedText ≠ Cpp.vector .string 2 twoTexts ∧
      Java.array .string 2 oneMarkedText ≠ Java.array .string 2 twoTexts := by
  have hone : IsNested .string 2 oneMarkedText := by
    refine ⟨_, rfl, ?_⟩
    simp [IsNested, IsLeaf]
  have htwo : IsNested .string 2 twoTexts := by
    refine ⟨_, rfl, ?_⟩
    simp [IsNested, IsLeaf]
  have hne : oneMarkedText ≠ twoTexts := by simp [oneMarkedText, twoTexts]
  obtain ⟨hcpp, hjava⟩ := literal_determines_value hone htwo
  exact ⟨hone, htwo, hcpp.not.mpr hne, hjava.not.mpr hne⟩

end CodeJudge.Literal
