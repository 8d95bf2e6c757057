import CodeJudge.Proofs.Json.Structure
/-!
Arrangements of members. The same data can be written with the members of its objects in the order
of their fields, as texts have them, or in their sorted form, as values have them. Both are
arrangements, which move the members of objects and change nothing else.
-/
namespace CodeJudge.Json

/-! Sorted members. -/

theorem ascending_insert_member {α : Type} (key : String) (v : α) {ms : List (String × α)}
    (h : Ascending ms) : Ascending (insertMember key v ms) := by
  induction ms with
  | nil => exact List.pairwise_singleton _ _
  | cons n ms ih =>
    obtain ⟨hn, hms⟩ := List.pairwise_cons.mp h
    rw [insertMember]
    split_ifs with hlt heq
    · refine List.pairwise_cons.mpr ⟨?_, h⟩
      intro m hm
      rcases List.mem_cons.mp hm with rfl | hm
      · exact hlt
      · exact lt_trans hlt (hn m hm)
    · rw [eq_of_beq heq]
      exact List.pairwise_cons.mpr ⟨hn, hms⟩
    · have hgt : n.1 < key := lt_of_le_of_ne (not_lt.mp hlt) fun he => heq (by simp [he])
      refine List.pairwise_cons.mpr ⟨?_, ih hms⟩
      intro m hm
      rcases mem_insert_member hm with rfl | hm
      · exact hgt
      · exact hn m hm

theorem ascending_sort_members {α : Type} (ms : List (String × α)) :
    Ascending (sortMembers ms) := by
  have go (done rest : List (String × α)) (h : Ascending done) :
      Ascending (rest.foldl (fun done m => insertMember m.1 m.2 done) done) := by
    induction rest generalizing done with
    | nil => exact h
    | cons m rest ih => exact ih _ (ascending_insert_member m.1 m.2 h)
  exact go [] ms List.Pairwise.nil

theorem Ascending.nodup_keys {α : Type} {ms : List (String × α)} (h : Ascending ms) :
    (ms.map (·.1)).Nodup := by
  refine List.pairwise_map.mpr (h.imp ?_)
  exact fun hlt => ne_of_lt hlt

/-- What is looked up in ascending members is one of them, as each key stands once. -/
theorem Ascending.mem_iff {α : Type} {ms : List (String × α)} (h : Ascending ms) {key : String}
    {v : α} : (key, v) ∈ ms ↔ ms.lookup key = some v := by
  refine ⟨Shape.lookup_of_mem h.nodup_keys, fun hlookup => ?_⟩
  obtain ⟨before, after, rfl, -⟩ := List.lookup_eq_some_iff.mp hlookup
  exact List.mem_append_right _ List.mem_cons_self

theorem insert_member_map {α β : Type} (f : α → β) (key : String) (v : α)
    (ms : List (String × α)) :
    insertMember key (f v) (ms.map (Prod.map id f)) =
      (insertMember key v ms).map (Prod.map id f) := by
  induction ms with
  | nil => rfl
  | cons m ms ih =>
    rw [List.map_cons, insertMember, insertMember]
    simp only [Prod.map, id]
    split_ifs
    · rfl
    · rfl
    · exact congrArg ((m.1, f m.2) :: ·) ih

/-- Values have no say in the order of members. -/
theorem sort_members_map {α β : Type} (f : α → β) (ms : List (String × α)) :
    sortMembers (ms.map (Prod.map id f)) = (sortMembers ms).map (Prod.map id f) := by
  have go (done rest : List (String × α)) :
      (rest.map (Prod.map id f)).foldl (fun done m => insertMember m.1 m.2 done)
        (done.map (Prod.map id f)) =
      (rest.foldl (fun done m => insertMember m.1 m.2 done) done).map (Prod.map id f) := by
    induction rest generalizing done with
    | nil => rfl
    | cons m rest ih =>
      rw [List.map_cons, List.foldl_cons, List.foldl_cons, ← ih, ← insert_member_map]
      rfl
  exact go [] ms

theorem lookup_insert_member {α : Type} (key : String) (v : α) (ms : List (String × α))
    (k : String) :
    (insertMember key v ms).lookup k = if k == key then some v else ms.lookup k := by
  induction ms with
  | nil =>
    rw [insertMember, List.lookup_cons]
    cases k == key <;> rfl
  | cons m ms ih =>
    by_cases hlt : key < m.1
    · rw [insertMember, if_pos hlt, List.lookup_cons]
      cases k == key <;> rfl
    · by_cases heq : (key == m.1) = true
      · rw [insertMember, if_neg hlt, if_pos heq, List.lookup_cons, List.lookup_cons,
          eq_of_beq heq]
        cases k == m.1 <;> rfl
      · rw [insertMember, if_neg hlt, if_neg heq, List.lookup_cons, List.lookup_cons, ih]
        cases hm : k == m.1 with
        | false => rfl
        | true =>
          have hk : ¬ (k == key) = true := by rwa [eq_of_beq hm, Bool.beq_comm]
          exact (if_neg hk).symm

/-- Of members with one key the last one is kept. -/
theorem lookup_sort_members {α : Type} (ms : List (String × α)) (key : String) :
    (sortMembers ms).lookup key = ms.reverse.lookup key := by
  induction ms using List.reverseRecOn with
  | nil => rfl
  | append_singleton ms m ih =>
    have hstep : sortMembers (ms ++ [m]) = insertMember m.1 m.2 (sortMembers ms) := by
      rw [sortMembers, List.foldl_append]
      rfl
    rw [hstep, lookup_insert_member, ih, List.reverse_append, List.reverse_singleton,
      List.singleton_append, List.lookup_cons]
    cases key == m.1 <;> rfl

theorem lookup_filter {α : Type} (p : String → Bool) (ms : List (String × α)) {key : String}
    (h : p key = true) : (ms.filter fun m => p m.1).lookup key = ms.lookup key := by
  induction ms with
  | nil => rfl
  | cons m ms ih =>
    by_cases hp : p m.1 = true
    · rw [List.filter_cons_of_pos (by exact hp), List.lookup_cons, List.lookup_cons, ih]
    · have hm : (key == m.1) = false := by
        rw [beq_eq_false_iff_ne]
        rintro rfl
        exact hp h
      rw [List.filter_cons_of_neg (by exact hp), List.lookup_cons, hm, ih]

/-- Members that are ascending members in another order are sorted to these. -/
theorem sort_members_of_perm {α : Type} {ns ms : List (String × α)} (hp : ns.Perm ms)
    (h : Ascending ms) : sortMembers ns = ms := by
  have hkeys : (ns.map (·.1)).Nodup := ((hp.map _).nodup_iff).mpr h.nodup_keys
  have hperm : (sortMembers ns).Perm ms := (sort_members_perm ns hkeys).trans hp
  refine hperm.eq_of_pairwise ?_ (ascending_sort_members ns) h
  exact fun a b _ _ hab hba => absurd hab (lt_asymm hba)

theorem Value.sorted_sorted (v : Value) : v.sorted.sorted = v.sorted := by
  induction v using Value.induction_on with
  | null => rfl
  | bool b => rfl
  | number n => rfl
  | string s => rfl
  | array items ih =>
    rw [sorted, sorted_items_eq, sorted, sorted_items_eq, List.map_map]
    exact congrArg array (List.map_congr_left ih)
  | object members ih =>
    -- the members are sorted values in ascending order already, so sorting again moves nothing
    have hsorted : ∀ m ∈ sortMembers (sortedMembers members), (m.1, m.2.sorted) = m := by
      intro m hm
      have hm := mem_of_mem_sort_members hm
      rw [sorted_members_eq] at hm
      obtain ⟨n, hn, rfl⟩ := List.mem_map.mp hm
      rw [ih n hn]
    rw [sorted, sorted, sorted_members_eq (sortMembers _), List.map_congr_left hsorted,
      List.map_id', sort_members_of_ascending _ (ascending_sort_members _)]

/-! Arrangements. -/

/-- The members with their values arranged. -/
def mapValues (g : Value → Value) (ms : List (String × Value)) : List (String × Value) :=
  ms.map fun m => (m.1, g m.2)

theorem keys_map_values (g : Value → Value) (ms : List (String × Value)) :
    (mapValues g ms).map (·.1) = ms.map (·.1) := by
  simp [mapValues, Function.comp_def]

theorem lookup_map_values (g : Value → Value) (ms : List (String × Value)) (key : String) :
    (mapValues g ms).lookup key = (ms.lookup key).map g := by
  induction ms with
  | nil => rfl
  | cons m ms ih =>
    rw [mapValues, List.map_cons, List.lookup_cons, List.lookup_cons]
    split
    · rfl
    · exact ih

theorem get_sorted_object (ms : List (String × Value)) (key : String) :
    (Value.object ms).sorted.get? key = (ms.reverse.lookup key).map Value.sorted := by
  rw [Value.sorted, Value.sorted_members_eq, Value.get?, lookup_sort_members, ← List.map_reverse]
  exact lookup_map_values Value.sorted ms.reverse key

/-- A way to arrange values moves the members of objects and changes nothing else. -/
structure IsArrangement (g : Value → Value) : Prop where
  null : g .null = .null
  bool : ∀ b, g (.bool b) = .bool b
  number : ∀ n, g (.number n) = .number n
  string : ∀ s, g (.string s) = .string s
  array : ∀ vs, g (.array vs) = .array (vs.map g)
  object : ∀ ms, (ms.map (·.1)).Nodup →
    ∃ ns, ns.Perm (mapValues g ms) ∧ g (.object ms) = .object ns
  sorted : ∀ v, (g v).sorted = v.sorted

theorem is_arrangement_id : IsArrangement id where
  null := rfl
  bool _ := rfl
  number _ := rfl
  string _ := rfl
  array vs := by rw [List.map_id]; rfl
  object ms _ := ⟨ms, by simp [mapValues], rfl⟩
  sorted _ := rfl

theorem is_arrangement_sorted : IsArrangement Value.sorted where
  null := rfl
  bool _ := rfl
  number _ := rfl
  string _ := rfl
  array vs := by rw [Value.sorted, Value.sorted_items_eq]
  object ms hkeys := by
    refine ⟨sortMembers (mapValues Value.sorted ms), sort_members_perm _ ?_, ?_⟩
    · rwa [keys_map_values]
    · rw [Value.sorted, Value.sorted_members_eq, mapValues]
  sorted := Value.sorted_sorted

/-- Sorted values are their own sorted form however they are arranged. -/
theorem IsArrangement.sorted_map_values {g : Value → Value} (hg : IsArrangement g)
    {ms : List (String × Value)} (h : ∀ m ∈ ms, m.2.sorted = m.2) :
    mapValues Value.sorted (mapValues g ms) = ms := by
  rw [mapValues, mapValues, List.map_map]
  have hsame : ∀ m ∈ ms, (m.1, (g m.2).sorted) = id m :=
    fun m hm => Prod.ext rfl ((hg.sorted m.2).trans (h m hm))
  exact (List.map_congr_left hsame).trans (List.map_id ms)

theorem IsArrangement.ne_null {g : Value → Value} (hg : IsArrangement g) {v : Value}
    (h : v ≠ .null) : g v ≠ .null := by
  intro hnull
  have hsorted := hg.sorted v
  rw [hnull] at hsorted
  cases v with
  | null => exact h rfl
  | bool | number | string | array | object => cases hsorted

end CodeJudge.Json
