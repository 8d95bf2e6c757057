import CodeJudge.Json.Decode
import CodeJudge.Proofs.Json.RoundTrip
/-!
Structures from objects. An object whose members are fields of a structure, each once and each
fitting its field, gives all of them, in whatever order they stand.
-/
namespace CodeJudge.Json.Shape

theorem lookup_eq_none {slots : Slots} {key : String} (h : key ∉ slots.map (·.1)) :
    slots.lookup key = none := by
  induction slots with
  | nil => rfl
  | cons m ms ih =>
    simp only [List.map_cons, List.mem_cons, not_or] at h
    have hm : (key == m.1) = false := by simpa using h.1
    rw [List.lookup_cons, hm]
    exact ih h.2

theorem lookup_of_mem {α : Type} {slots : List (String × α)} {key : String} {v : α}
    (h : (slots.map (·.1)).Nodup) (hm : (key, v) ∈ slots) : slots.lookup key = some v := by
  induction slots with
  | nil => cases hm
  | cons m ms ih =>
    rw [List.map_cons, List.nodup_cons] at h
    rcases List.mem_cons.mp hm with rfl | hm
    · simp
    · have hne : (key == m.1) = false := by
        rw [beq_eq_false_iff_ne]
        rintro rfl
        exact h.1 (List.mem_map.mpr ⟨_, hm, rfl⟩)
      rw [List.lookup_cons, hne]
      exact ih h.2 hm

theorem lookup_perm {slots others : Slots} (hp : slots.Perm others)
    (h : (slots.map (·.1)).Nodup) (key : String) : slots.lookup key = others.lookup key := by
  by_cases hkey : key ∈ slots.map (·.1)
  · obtain ⟨⟨_, v⟩, hm, rfl⟩ := List.mem_map.mp hkey
    have h' : (others.map (·.1)).Nodup := ((hp.map _).nodup_iff).mp h
    rw [lookup_of_mem h hm, lookup_of_mem h' (hp.mem_iff.mp hm)]
  · have hkey' : key ∉ others.map (·.1) := by rwa [← (hp.map _).mem_iff]
    rw [lookup_eq_none hkey, lookup_eq_none hkey']

/-- The member is a field of the structure under the name of the field, and its value fits. -/
def Fits (s : Shape) (m : String × Value) : Prop :=
  ∃ f, s.field? m.1 = some f ∧ f.name = m.1 ∧ f.check m.2 = .ok ()

theorem of_members_fit (s : Shape) (seen : Slots) (ms : List (String × Value))
    (hfit : ∀ m ∈ ms, s.Fits m) (hkeys : (ms.map (·.1) ++ seen.map (·.1)).Nodup) :
    s.ofMembers seen ms = .ok (ms.reverse ++ seen) := by
  induction ms generalizing seen with
  | nil => rfl
  | cons m ms ih =>
    obtain ⟨key, v⟩ := m
    obtain ⟨f, hf, hname, hcheck⟩ := hfit (key, v) (by simp)
    dsimp only at hf hname hcheck
    have hnew : seen.lookup f.name = none := by
      simp only [List.map_cons, List.cons_append, List.nodup_cons, List.mem_append, not_or] at hkeys
      rw [hname]
      exact lookup_eq_none hkeys.1.2
    -- the field goes from the members that are left to those that are seen
    have hkeys' : (ms.map (·.1) ++ ((f.name, v) :: seen).map (·.1)).Nodup := by
      rw [List.map_cons, hname]
      exact List.nodup_middle.mpr hkeys
    rw [ofMembers, hf]
    simp only [hnew, Option.isSome_none, Bool.false_eq_true, if_false, hcheck]
    rw [ih ((f.name, v) :: seen) (fun n hn => hfit n (by simp [hn])) hkeys', hname]
    simp

theorem open_any_fit (s : Shape) (ms : List (String × Value)) (hfit : ∀ m ∈ ms, s.Fits m)
    (hkeys : (ms.map (·.1)).Nodup) : s.openAny (.object ms) = .ok ms.reverse := by
  rw [openAny, of_members_fit s [] ms hfit (by simpa using hkeys), List.append_nil]

/-- The outline of a structure looks at a member as the field that takes it says. -/
theorem outline_member (s : Shape) (key : String) :
    s.outline.member? key = (s.field? key).map (·.outline) := by
  have hacc : (fun f : Field => (f.name :: f.aliases).contains key) = (·.accepts key) := by
    funext f
    simp only [List.contains_cons, Field.accepts]
    rw [Bool.beq_comm]
  simp only [outline, Outline.member?, List.find?_map, Function.comp_def, hacc, field?]
  cases s.fields.find? (·.accepts key) <;> rfl

/-- The outline of a structure looks at all of an object if each member is a field whose outline
looks at all of it. -/
theorem outline_covers_of_fields (s : Shape) {ms : List (String × Value)}
    (h : ∀ m ∈ ms, ∃ f, s.field? m.1 = some f ∧ f.outline.Covers m.2) :
    s.outline.Covers (.object ms) := by
  have hmember (m : String × Value) (hm : m ∈ ms) :
      ∃ o, s.outline.member? m.1 = some o ∧ o.Covers m.2 := by
    obtain ⟨f, hf, hcovers⟩ := h m hm
    exact ⟨f.outline, by rw [outline_member, hf, Option.map_some], hcovers⟩
  refine .object _ ms (fun m hm => ?_) fun m hm p hp => ?_
  · obtain ⟨o, ho, -⟩ := hmember m hm
    rw [ho]
    rfl
  · obtain ⟨o, ho, hcovers⟩ := hmember m hm
    cases ho.symm.trans hp
    exact hcovers

/-- The outline of a structure of free-form and plain fields looks at all of an object that fits. -/
theorem outline_covers (s : Shape) (hwhole : ∀ f ∈ s.fields, f.outline = .whole)
    (ms : List (String × Value)) (hfit : ∀ m ∈ ms, s.Fits m) : s.outline.Covers (.object ms) := by
  refine s.outline_covers_of_fields fun m hm => ?_
  obtain ⟨f, hf, -, -⟩ := hfit m hm
  refine ⟨f, hf, ?_⟩
  rw [hwhole f (List.mem_of_find?_eq_some hf)]
  exact Outline.whole_covers m.2

theorem open_outline_member (s : Shape) (key : String) :
    s.openOutline.member? key = (s.outline.member? key).or (some .whole) := by
  simp only [openOutline, outline, Outline.member?]
  split <;> rfl

/-- The outline of an open structure looks at all of an object if it does so in its fields. -/
theorem open_outline_covers (s : Shape) {ms : List (String × Value)}
    (h : ∀ m ∈ ms, ∀ f, s.field? m.1 = some f → f.outline.Covers m.2) :
    s.openOutline.Covers (.object ms) := by
  refine .object _ ms (fun m _ => ?_) fun m hm p hp => ?_
  · rw [open_outline_member]
    cases s.outline.member? m.1 <;> rfl
  · rw [open_outline_member, outline_member] at hp
    cases hf : s.field? m.1 with
    | none =>
      rw [hf] at hp
      cases hp
      exact Outline.whole_covers m.2
    | some f =>
      rw [hf] at hp
      cases hp
      exact h m hm f hf

end CodeJudge.Json.Shape
