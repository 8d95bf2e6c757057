import CodeJudge.Proofs.Json.Arrangement
/-!
Decoding what was encoded. Data are decoded from the value that is written of them in every
arrangement of its members: a decoder of a structure looks its fields up, and one of an open
structure keeps what is no field. One lemma for each decoder; the structures are put together from
these.
-/
namespace CodeJudge.Json

theorem bind_eq_ok {ε α β : Type} {x : Except ε α} {f : α → Except ε β} {b : β} :
    x >>= f = .ok b ↔ ∃ a, x = .ok a ∧ f a = .ok b := by
  cases x <;> simp [bind, Except.bind]

theorem map_eq_ok {ε α β : Type} {x : Except ε α} {f : α → β} {b : β} :
    x.map f = .ok b ↔ ∃ a, x = .ok a ∧ f a = b := by
  cases x <;> simp [Except.map]

theorem map_error_eq_ok {ε δ α : Type} {x : Except ε α} {f : ε → δ} {a : α} :
    x.mapError f = .ok a ↔ x = .ok a := by
  cases x <;> simp [Except.mapError]

/-- The data are decoded from the value however it is arranged. -/
def Decodes {α : Type} (item : Decoder α) (v : Value) (a : α) : Prop :=
  ∀ g, IsArrangement g → item (g v) = .ok a

theorem decodes_string (s : String) : Decodes Decode.string (.string s) s := by
  intro g hg
  rw [hg.string]
  rfl

theorem decodes_bool (b : Bool) : Decodes Decode.bool (.bool b) b := by
  intro g hg
  rw [hg.bool]
  rfl

theorem decodes_size (n : Nat) : Decodes Decode.size (.nat n) n := by
  intro g hg
  rw [Value.nat, hg.number]
  rfl

theorem decodes_any {v : Value} (h : v.sorted = v) : Decodes Decode.any v v := by
  intro g hg
  rw [Decode.any, hg.sorted, h]

theorem decodes_variant {α : Type} {names : List (String × α)} {name : String} {a : α}
    (h : names.lookup name = some a) (other : Option α) :
    Decodes (Decode.variant names other) (.string name) a := by
  intro g hg
  rw [hg.string]
  simp [Decode.variant, Decode.variantName, h, bind, Except.bind]

theorem decodes_some {α : Type} {item : Decoder α} {v : Value} {a : α} (h : Decodes item v a)
    (hnull : v ≠ .null) : Decodes (Decode.option item) v (some a) := by
  intro g hg
  have hne := hg.ne_null hnull
  unfold Decode.option
  split
  · contradiction
  · rw [h g hg]
    rfl

theorem decodes_option_string (s : String) :
    Decodes (Decode.option Decode.string) (.string s) (some s) :=
  decodes_some (decodes_string s) nofun

theorem decodes_option_size (n : Nat) : Decodes (Decode.option Decode.size) (.nat n) (some n) :=
  decodes_some (decodes_size n) nofun

theorem decodes_of_option {α : Type} {item : Decoder α} {f : α → Value} {a? : Option α}
    (h : ∀ a ∈ a?, Decodes item (f a) a) (hnull : ∀ a ∈ a?, f a ≠ .null) :
    Decodes (Decode.option item) (Value.ofOption f a?) a? := by
  cases a? with
  | none =>
    intro g hg
    rw [Value.ofOption, hg.null]
    rfl
  | some a => exact decodes_some (h a rfl) (hnull a rfl)

theorem decodes_list {α : Type} {item : Decoder α} {f : α → Value} {as : List α}
    (h : ∀ a ∈ as, Decodes item (f a) a) :
    Decodes (Decode.list item) (.array (as.map f)) as := by
  intro g hg
  rw [hg.array, Decode.list]
  induction as with
  | nil => rfl
  | cons a as ih =>
    rw [List.map_cons, List.map_cons, Decode.items, h a (by simp) g hg,
      ih fun b hb => h b (by simp [hb])]
    rfl

theorem decodes_strings (ss : List String) :
    Decodes (Decode.list Decode.string) (.strings ss) ss :=
  decodes_list fun s _ => decodes_string s

theorem decodes_map {α : Type} {item : Decoder α} {f : α → Value} {as : List (String × α)}
    (ha : Ascending as) (h : ∀ m ∈ as, Decodes item (f m.2) m.2) :
    Decodes (Decode.map item) (.object (as.map fun m => (m.1, f m.2))) as := by
  intro g hg
  have hkeys : ((as.map fun m => (m.1, f m.2)).map (·.1)).Nodup := by
    rw [List.map_map]
    exact ha.nodup_keys
  obtain ⟨ns, hperm, hobject⟩ := hg.object _ hkeys
  -- the members stand in another order, and so do the data decoded from them
  obtain ⟨bs, rfl, hbs⟩ : ∃ bs : List (String × α),
      ns = bs.map (fun m => (m.1, g (f m.2))) ∧ bs.Perm as := by
    have hcomp := List.eq_map_comp_perm fun m : String × α => (m.1, g (f m.2))
    rw [mapValues, List.map_map] at hperm
    exact (congrFun (congrFun hcomp ns) as).mpr hperm
  have hmembers : Decode.members item (bs.map fun m => (m.1, g (f m.2))) = .ok bs := by
    replace h : ∀ m ∈ bs, Decodes item (f m.2) m.2 := fun m hm => h m (hbs.mem_iff.mp hm)
    clear hbs hobject hperm
    induction bs with
    | nil => rfl
    | cons b bs ih =>
      rw [List.map_cons, Decode.members, h b (by simp) g hg, ih fun m hm => h m (by simp [hm])]
      rfl
  rw [hobject, Decode.map, hmembers]
  exact congrArg Except.ok (sort_members_of_perm hbs ha)

/-- What is decoded of an object of any keys, or stands for it, ascends. -/
theorem ascending_of_default_map {α : Type} {item : Decoder α} {slots : Slots} {name : String}
    {as : List (String × α)} (h : slots.withDefault name [] (Decode.map item) = .ok as) :
    Ascending as := by
  rw [Slots.withDefault] at h
  split at h
  · unfold Decode.map at h
    split at h
    · obtain ⟨bs, -, rfl⟩ := map_eq_ok.mp h
      exact ascending_sort_members bs
    · cases h
  · cases h
    exact List.Pairwise.nil

theorem exists_of_optional {α : Type} {slots : Slots} {name : String} {item : Decoder α}
    {a? : Option α} (h : slots.optional name item = .ok a?) :
    ∀ a ∈ a?, ∃ v, v ≠ .null ∧ item v = .ok a := by
  rintro a rfl
  rw [Slots.optional, Slots.withDefault] at h
  split at h
  · next v hv =>
    unfold Decode.option at h
    split at h
    · cases h
    · next hne =>
      obtain ⟨b, hb, hsome⟩ := map_eq_ok.mp h
      cases hsome
      exact ⟨v, hne, hb⟩
  · cases h

theorem exists_of_list {α : Type} {item : Decoder α} {v : Value} {as : List α}
    (h : Decode.list item v = .ok as) : ∀ a ∈ as, ∃ w, item w = .ok a := by
  unfold Decode.list at h
  split at h
  · next vs =>
    induction vs generalizing as with
    | nil =>
      cases h
      simp
    | cons w vs ih =>
      obtain ⟨b, hb, h⟩ := bind_eq_ok.mp h
      obtain ⟨bs, hbs, h⟩ := bind_eq_ok.mp h
      cases h
      exact List.forall_mem_cons.mpr ⟨⟨w, hb⟩, ih hbs⟩
  · cases h

theorem Decodes.check {α : Type} {item : Decoder α} {v : Value} {a : α} (h : Decodes item v a) :
    Decodes (fun v => (item v).map fun _ => ()) v () := by
  intro g hg
  dsimp only
  rw [h g hg]
  rfl

/-! Members that may be left out. -/

theorem lookup_member {α : Type} (name key : String) (f : α → Value) (a? : Option α) :
    (Value.member? key f a?).lookup name = if name == key then a?.map f else none := by
  cases a? with
  | none => simp [Value.member?]
  | some a =>
    rw [Value.member?, List.lookup_cons]
    cases name == key <;> rfl

theorem mem_member {α : Type} {key : String} {f : α → Value} {a? : Option α}
    {m : String × Value} (h : m ∈ Value.member? key f a?) : ∃ a ∈ a?, m = (key, f a) := by
  cases a? with
  | none => cases h
  | some a => exact ⟨a, rfl, List.mem_singleton.mp h⟩

theorem keys_member_sublist {α : Type} (key : String) (f : α → Value) (a? : Option α) :
    ((Value.member? key f a?).map (·.1)).Sublist [key] := by
  cases a? <;> simp [Value.member?]

/-- The list, unless it is empty. -/
def unlessEmpty {α : Type} (as : List α) : Option (List α) := if as.isEmpty then none else some as

theorem eq_of_mem_unless_empty {α : Type} {as bs : List α} (h : bs ∈ unlessEmpty as) :
    bs = as := by
  cases as with
  | nil => cases h
  | cons a as => exact (Option.some.inj h).symm

/-! Structures. -/

/-- The slots are the members, in some order and each arranged. -/
structure Slots.Hold (slots : Slots) (g : Value → Value) (ms : List (String × Value)) : Prop where
  isArrangement : IsArrangement g
  lookup_eq : ∀ key, slots.lookup key = (ms.lookup key).map g

namespace Slots.Hold

variable {slots : Slots} {g : Value → Value} {ms : List (String × Value)}

theorem of_perm (hg : IsArrangement g) (hp : slots.Perm (mapValues g ms))
    (hkeys : (ms.map (·.1)).Nodup) : slots.Hold g ms where
  isArrangement := hg
  lookup_eq key := by
    have hnodup : (slots.map (·.1)).Nodup := by
      rw [(hp.map _).nodup_iff, keys_map_values]
      exact hkeys
    rw [Shape.lookup_perm hp hnodup, lookup_map_values]

theorem required (h : slots.Hold g ms) {α : Type} {name : String} {item : Decoder α} {v : Value}
    {a : α} (hv : ms.lookup name = some v) (hd : Decodes item v a) :
    slots.required name item = .ok a := by
  rw [Slots.required, h.lookup_eq, hv]
  exact hd g h.isArrangement

/-- A list that is left out when it is empty. -/
theorem list_unless_empty (h : slots.Hold g ms) {α : Type} {name : String}
    {item : Decoder (List α)} {f : List α → Value} {as : List α}
    (hv : ms.lookup name = (unlessEmpty as).map f) (hd : Decodes item (f as) as) :
    slots.withDefault name [] item = .ok as := by
  rw [Slots.withDefault, h.lookup_eq, hv]
  cases as with
  | nil => rfl
  | cons a as => exact hd g h.isArrangement

theorem optional (h : slots.Hold g ms) {α : Type} {name : String} {item : Decoder α} {v : Value}
    {a? : Option α} (hv : ms.lookup name = some v) (hd : Decodes (Decode.option item) v a?) :
    slots.optional name item = .ok a? := by
  rw [Slots.optional, Slots.withDefault, h.lookup_eq, hv]
  exact hd g h.isArrangement

theorem optional_member (h : slots.Hold g ms) {α : Type} {name : String} {item : Decoder α}
    {f : α → Value} {a? : Option α} (hv : ms.lookup name = a?.map f)
    (hd : ∀ a ∈ a?, Decodes (Decode.option item) (f a) (some a)) :
    slots.optional name item = .ok a? := by
  rw [Slots.optional, Slots.withDefault, h.lookup_eq, hv]
  cases a? with
  | none => rfl
  | some a => exact hd a rfl g h.isArrangement

end Slots.Hold

namespace Shape

/-- The member is a field of the structure under the name of the field, and its value fits however
it is arranged. -/
def Takes (s : Shape) (m : String × Value) : Prop :=
  ∃ f, s.field? m.1 = some f ∧ f.name = m.1 ∧ Decodes f.check m.2 ()

theorem Takes.fits {s : Shape} {m : String × Value} (h : s.Takes m) : s.Fits m := by
  obtain ⟨f, hf, hname, hcheck⟩ := h
  exact ⟨f, hf, hname, hcheck id is_arrangement_id⟩

/-- Without aliases the keys of the fields are their names. -/
theorem field_eq_none_iff {s : Shape} (h : ∀ f ∈ s.fields, f.aliases = []) (key : String) :
    s.field? key = none ↔ key ∉ s.fields.map (·.name) := by
  have haccepts : ∀ f ∈ s.fields, f.accepts key = true ↔ f.name = key := by
    intro f hf
    simp [Field.accepts, h f hf]
  rw [field?, List.find?_eq_none, List.mem_map]
  constructor
  · rintro hnone ⟨f, hf, hkey⟩
    exact hnone f hf ((haccepts f hf).mpr hkey)
  · intro hnone f hf haccept
    exact hnone ⟨f, hf, (haccepts f hf).mp haccept⟩

/-- Members that are no fields are skipped. -/
theorem of_members_filter (s : Shape) (seen : Slots) (ms : List (String × Value)) :
    s.ofMembers seen ms = s.ofMembers seen (ms.filter fun m => (s.field? m.1).isSome) := by
  induction ms generalizing seen with
  | nil => rfl
  | cons m ms ih =>
    obtain ⟨key, v⟩ := m
    cases hf : s.field? key with
    | none =>
      rw [List.filter_cons_of_neg (by simp [hf]), ofMembers, hf]
      exact ih seen
    | some f =>
      rw [List.filter_cons_of_pos (by simp [hf]), ofMembers, ofMembers, hf]
      dsimp only
      split_ifs
      · rfl
      · cases f.check v with
        | error e => rfl
        | ok _ => exact ih _

variable (s : Shape) {g : Value → Value} {known rest ns : List (String × Value)}

/-- Of members in another order the fields are found and the others are kept. -/
theorem of_members_arranged (hg : IsArrangement g) (htakes : ∀ m ∈ known, s.Takes m)
    (hrest : ∀ m ∈ rest, s.field? m.1 = none) (hkeys : (known.map (·.1)).Nodup)
    (hp : ns.Perm (mapValues g (known ++ rest))) :
    ∃ slots, s.ofMembers [] ns = .ok slots ∧ Slots.Hold slots g known ∧
      (s.others ns).Perm (mapValues g rest) := by
  have hsplit : mapValues g (known ++ rest) = mapValues g known ++ mapValues g rest :=
    List.map_append
  have hknown : ∀ m ∈ mapValues g known, (s.field? m.1).isSome = true := by
    intro m hm
    obtain ⟨k, hk, rfl⟩ := List.mem_map.mp hm
    obtain ⟨f, hf, -⟩ := htakes k hk
    rw [hf]
    rfl
  have hothers : ∀ m ∈ mapValues g rest, s.field? m.1 = none := by
    intro m hm
    obtain ⟨k, hk, rfl⟩ := List.mem_map.mp hm
    exact hrest k hk
  have hfields : (ns.filter fun m => (s.field? m.1).isSome).Perm (mapValues g known) := by
    have hnil : (mapValues g rest).filter (fun m => (s.field? m.1).isSome) = [] :=
      List.filter_eq_nil_iff.mpr fun m hm => by simp [hothers m hm]
    have hfilter := hp.filter fun m => (s.field? m.1).isSome
    rwa [hsplit, List.filter_append, List.filter_eq_self.mpr hknown, hnil,
      List.append_nil] at hfilter
  have hkept : (s.others ns).Perm (mapValues g rest) := by
    have hnil : (mapValues g known).filter (fun m => (s.field? m.1).isNone) = [] :=
      List.filter_eq_nil_iff.mpr fun m hm => by
        simpa using Option.isSome_iff_ne_none.mp (hknown m hm)
    have hall : (mapValues g rest).filter (fun m => (s.field? m.1).isNone) = mapValues g rest :=
      List.filter_eq_self.mpr fun m hm => by simp [hothers m hm]
    have hfilter := hp.filter fun m => (s.field? m.1).isNone
    rwa [hsplit, List.filter_append, hnil, hall, List.nil_append] at hfilter
  -- only the fields have to fit, each once
  have hfit : ∀ m ∈ ns.filter fun m => (s.field? m.1).isSome, s.Fits m := by
    intro m hm
    obtain ⟨k, hk, rfl⟩ := List.mem_map.mp (hfields.mem_iff.mp hm)
    obtain ⟨f, hf, hname, hcheck⟩ := htakes k hk
    exact ⟨f, hf, hname, hcheck g hg⟩
  have hnodup : ((ns.filter fun m => (s.field? m.1).isSome).map (·.1)).Nodup := by
    rw [(hfields.map _).nodup_iff, keys_map_values]
    exact hkeys
  have hread := s.of_members_fit [] _ hfit (by simpa using hnodup)
  rw [List.append_nil, ← of_members_filter] at hread
  exact ⟨_, hread, .of_perm hg (List.reverse_perm _ |>.trans hfields) hkeys, hkept⟩

/-- A structure is opened from its object, however that is arranged. -/
theorem open_any_arranged (hg : IsArrangement g) (htakes : ∀ m ∈ known, s.Takes m)
    (hkeys : (known.map (·.1)).Nodup) :
    ∃ slots, s.openAny (g (.object known)) = .ok slots ∧ Slots.Hold slots g known := by
  obtain ⟨ns, hp, hobject⟩ := hg.object known hkeys
  rw [← List.append_nil known] at hp
  obtain ⟨slots, hread, hold, -⟩ := s.of_members_arranged hg htakes (by simp) hkeys hp
  exact ⟨slots, by rw [hobject, openAny, hread], hold⟩

theorem exists_of_open_object {v : Value} {slots : Slots} {others : List (String × Value)}
    (h : s.openObject v = .ok (slots, others)) :
    ∃ ms, v = .object ms ∧ s.ofMembers [] ms = .ok slots ∧ others = s.others ms := by
  unfold openObject at h
  split at h
  · next ms =>
    obtain ⟨slots', hread, hpair⟩ := map_eq_ok.mp h
    cases hpair
    exact ⟨ms, rfl, hread, rfl⟩
  · cases h

theorem open_object_arranged (hg : IsArrangement g) (htakes : ∀ m ∈ known, s.Takes m)
    (hrest : ∀ m ∈ rest, s.field? m.1 = none) (hkeys : (known.map (·.1)).Nodup)
    (hp : ns.Perm (mapValues g (known ++ rest))) :
    ∃ slots others, s.openObject (.object ns) = .ok (slots, others) ∧ Slots.Hold slots g known ∧
      others.Perm (mapValues g rest) := by
  obtain ⟨slots, hread, hold, hothers⟩ := s.of_members_arranged hg htakes hrest hkeys hp
  exact ⟨slots, s.others ns, by rw [openObject, hread]; rfl, hold, hothers⟩

end Shape

end CodeJudge.Json
