import CodeJudge.Json.Printer
import CodeJudge.Json.Reader
import Mathlib
/-!
Values as trees: the induction over a value through its items and members, the values whose numbers
survive being written and read, and the sorted form, which a well-formed value has already.
-/
namespace CodeJudge.Json

/-- Induction over a value, with the property for all items of an array and all members of an
object at hand. -/
theorem Value.induction_on {P : Value → Prop} (v : Value) (null : P .null) (bool : ∀ b, P (.bool b))
    (number : ∀ n, P (.number n)) (string : ∀ s, P (.string s))
    (array : ∀ items, (∀ v ∈ items, P v) → P (.array items))
    (object : ∀ members, (∀ m ∈ members, P m.2) → P (.object members)) : P v := by
  refine Value.rec (motive_1 := P) (motive_2 := fun items => ∀ v ∈ items, P v)
    (motive_3 := fun members => ∀ m ∈ members, P m.2) (motive_4 := fun m => P m.2)
    null bool number string array object ?_ ?_ ?_ ?_ ?_ v
  · simp
  · intro v vs hv hvs
    exact List.forall_mem_cons.mpr ⟨hv, hvs⟩
  · simp
  · intro m ms hm hms
    exact List.forall_mem_cons.mpr ⟨hm, hms⟩
  · exact fun _ _ h => h

/-- The number is read again from the text that is written of it. -/
def Number.Survives (n : Number) : Prop := readScalar (writeNumber n) = some (.number n, [])

namespace Value

mutual
/-- Every number in the value survives. -/
def Survives : Value → Prop
  | number n => n.Survives
  | array items => SurvivesItems items
  | object members => SurvivesMembers members
  | _ => True

def SurvivesItems : List Value → Prop
  | [] => True
  | v :: vs => Survives v ∧ SurvivesItems vs

def SurvivesMembers : List (String × Value) → Prop
  | [] => True
  | (_, v) :: ms => Survives v ∧ SurvivesMembers ms
end

theorem survives_items_iff (vs : List Value) : SurvivesItems vs ↔ ∀ v ∈ vs, v.Survives := by
  induction vs with
  | nil => simp [SurvivesItems]
  | cons v vs ih => simp [SurvivesItems, ih]

theorem survives_members_iff (ms : List (String × Value)) :
    SurvivesMembers ms ↔ ∀ m ∈ ms, m.2.Survives := by
  induction ms with
  | nil => simp [SurvivesMembers]
  | cons m ms ih => simp [SurvivesMembers, ih]

theorem well_formed_items_iff (vs : List Value) :
    WellFormedItems vs ↔ ∀ v ∈ vs, v.WellFormed := by
  induction vs with
  | nil => simp [WellFormedItems]
  | cons v vs ih => simp [WellFormedItems, ih]

theorem well_formed_members_iff (ms : List (String × Value)) :
    WellFormedMembers ms ↔ ∀ m ∈ ms, m.2.WellFormed := by
  induction ms with
  | nil => simp [WellFormedMembers]
  | cons m ms ih => simp [WellFormedMembers, ih]

theorem depth_items_le_iff (vs : List Value) (n : Nat) :
    depthItems vs ≤ n ↔ ∀ v ∈ vs, v.depth ≤ n := by
  induction vs with
  | nil => simp [depthItems]
  | cons v vs ih => simp [depthItems, ih]

theorem sorted_items_eq (vs : List Value) : sortedItems vs = vs.map sorted := by
  induction vs with
  | nil => rfl
  | cons v vs ih => rw [sortedItems, ih, List.map_cons]

theorem sorted_members_eq (ms : List (String × Value)) :
    sortedMembers ms = ms.map fun m => (m.1, m.2.sorted) := by
  induction ms with
  | nil => rfl
  | cons m ms ih => rw [sortedMembers, ih, List.map_cons]

end Value

/-- A member whose key is above all others goes to the end. -/
theorem insert_member_last {α : Type} (key : String) (v : α) (ms : List (String × α))
    (h : ∀ m ∈ ms, m.1 < key) : insertMember key v ms = ms ++ [(key, v)] := by
  induction ms with
  | nil => rfl
  | cons m ms ih =>
    have hm : m.1 < key := h m (by simp)
    have hn : ¬ key < m.1 := lt_asymm hm
    have he : (key == m.1) = false := by simpa using hm.ne'
    rw [insertMember, if_neg hn, he, if_neg (by simp), ih fun n hn => h n (by simp [hn]),
      List.cons_append]

/-- Members that ascend are sorted already. -/
theorem sort_members_of_ascending {α : Type} (ms : List (String × α)) (h : Ascending ms) :
    sortMembers ms = ms := by
  -- the invariant: what is sorted already is a lower part of the members
  have go (done rest : List (String × α)) (ha : Ascending (done ++ rest)) :
      rest.foldl (fun done m => insertMember m.1 m.2 done) done = done ++ rest := by
    induction rest generalizing done with
    | nil => simp
    | cons m rest ih =>
      have hl : ∀ d ∈ done, d.1 < m.1 := by
        intro d hd
        exact (List.pairwise_append.mp ha).2.2 d hd m (by simp)
      rw [List.foldl_cons, insert_member_last m.1 m.2 done hl, ih _ (by simpa using ha)]
      simp
  exact go [] ms (by simpa using h)

theorem insert_member_perm {α : Type} (key : String) (v : α) (ms : List (String × α))
    (h : key ∉ ms.map (·.1)) : (insertMember key v ms).Perm ((key, v) :: ms) := by
  induction ms with
  | nil => rfl
  | cons m ms ih =>
    simp only [List.map_cons, List.mem_cons, not_or] at h
    have hne : (key == m.1) = false := by simpa using h.1
    rw [insertMember]
    split
    · rfl
    · rw [hne, if_neg (by simp)]
      exact ((ih h.2).cons m).trans (List.Perm.swap _ _ _)

/-- Members with keys of their own are only moved when they are sorted. -/
theorem sort_members_perm {α : Type} (ms : List (String × α)) (h : (ms.map (·.1)).Nodup) :
    (sortMembers ms).Perm ms := by
  -- the invariant: what is sorted and what is left are the members in another order
  have go (done rest : List (String × α)) (hn : ((rest ++ done).map (·.1)).Nodup) :
      (rest.foldl (fun done m => insertMember m.1 m.2 done) done).Perm (rest ++ done) := by
    induction rest generalizing done with
    | nil => rfl
    | cons m rest ih =>
      have hm : m.1 ∉ done.map (·.1) := by
        simp only [List.cons_append, List.map_cons, List.map_append, List.nodup_cons,
          List.mem_append, not_or] at hn
        exact hn.1.2
      have hmove : (rest ++ insertMember m.1 m.2 done).Perm (m :: rest ++ done) :=
        ((insert_member_perm m.1 m.2 done hm).append_left rest).trans List.perm_middle
      have hkeys := ((hmove.map (·.1)).nodup_iff).mpr hn
      rw [List.foldl_cons]
      exact (ih _ hkeys).trans hmove
  have hall := go [] ms (by simpa using h)
  rwa [List.append_nil] at hall

theorem mem_insert_member {α : Type} {m : String × α} {key : String} {v : α}
    {ms : List (String × α)} (h : m ∈ insertMember key v ms) : m = (key, v) ∨ m ∈ ms := by
  induction ms with
  | nil => exact Or.inl (List.mem_singleton.mp h)
  | cons n ms ih =>
    rw [insertMember] at h
    split_ifs at h <;> simp only [List.mem_cons] at h ⊢
    · exact h
    · rcases h with h | h
      · exact Or.inl h
      · exact Or.inr (Or.inr h)
    · rcases h with h | h
      · exact Or.inr (Or.inl h)
      · rcases ih h with h | h
        · exact Or.inl h
        · exact Or.inr (Or.inr h)

/-- Sorting makes up no members. -/
theorem mem_of_mem_sort_members {α : Type} {m : String × α} {ms : List (String × α)}
    (h : m ∈ sortMembers ms) : m ∈ ms := by
  -- the invariant: what is sorted already comes from the members that are done
  have go (done rest : List (String × α))
      (hm : m ∈ rest.foldl (fun done m => insertMember m.1 m.2 done) done) :
      m ∈ done ∨ m ∈ rest := by
    induction rest generalizing done with
    | nil => exact Or.inl hm
    | cons r rest ih =>
      rw [List.mem_cons]
      rcases ih _ hm with hm | hm
      · rcases mem_insert_member hm with hm | hm
        · exact Or.inr (Or.inl hm)
        · exact Or.inl hm
      · exact Or.inr (Or.inr hm)
  rcases go [] ms h with hm | hm
  · cases hm
  · exact hm

/-- A well-formed value is its own sorted form. -/
theorem Value.sorted_of_well_formed (v : Value) (h : v.WellFormed) : v.sorted = v := by
  induction v using Value.induction_on with
  | null => rfl
  | bool b => rfl
  | number n => rfl
  | string s => rfl
  | array items ih =>
    have hi := (well_formed_items_iff items).mp h
    rw [sorted, sorted_items_eq, List.map_congr_left fun v hv => ih v hv (hi v hv), List.map_id']
  | object members ih =>
    obtain ⟨ha, hm⟩ := h
    have hm := (well_formed_members_iff members).mp hm
    have hs : members.map (fun m => (m.1, m.2.sorted)) = members.map id :=
      List.map_congr_left fun m hmem => Prod.ext rfl (ih m hmem (hm m hmem))
    rw [sorted, sorted_members_eq, hs, List.map_id, sort_members_of_ascending members ha]

end CodeJudge.Json
