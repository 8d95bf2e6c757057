import CodeJudge.Proofs.Registry.Support
/-!
Registries that registrations lead to. Either map has for a base type what was registered last for
it, so that both maps stay in step, and the views agree on that: both listings, the look-ups and the
support matrix.
-/
namespace CodeJudge

theorem BaseType.rank_inj {b c : BaseType} : b.rank = c.rank ↔ b = c := by
  cases b <;> cases c <;> decide

/-! Maps of strategies. -/

namespace StrategyMap

/-- The base types ascend, so that each of them stands once. -/
def Ascends (m : StrategyMap) : Prop := m.Pairwise fun a b => a.1.rank < b.1.rank

variable {b : BaseType} {s : Strategy} {m : StrategyMap}

theorem lookup_entry (b c : BaseType) (s : Strategy) (m : StrategyMap) :
    List.lookup c ((b, s) :: m) = if c = b then some s else m.lookup c := by
  split_ifs with hc
  · rw [hc, List.lookup_cons_self]
  · have hne : (c == b) = false := by simpa using hc
    rw [List.lookup_cons, hne]

/-- What is put in is found under its base type, and nothing else has changed. -/
theorem lookup_insert (b c : BaseType) (s : Strategy) (m : StrategyMap) :
    (insert b s m).lookup c = if c = b then some s else m.lookup c := by
  induction m with
  | nil => rw [insert, lookup_entry]
  | cons a m ih =>
    obtain ⟨d, other⟩ := a
    rw [insert]
    by_cases hlt : b.rank < d.rank
    · rw [if_pos hlt, lookup_entry]
    rw [if_neg hlt, lookup_entry]
    by_cases hbd : b = d
    · rw [if_pos hbd, lookup_entry, hbd]
      by_cases hc : c = d <;> simp [hc]
    · rw [if_neg hbd, lookup_entry, ih]
      by_cases hc : c = b
      · simp [hc, hbd]
      · simp [hc]

theorem eq_or_mem_of_mem_insert {a : BaseType × Strategy} (h : a ∈ insert b s m) :
    a = (b, s) ∨ a ∈ m := by
  induction m with
  | nil => exact Or.inl (List.mem_singleton.mp h)
  | cons c m ih =>
    obtain ⟨d, other⟩ := c
    rw [insert] at h
    split_ifs at h with hlt hbd
    · exact List.mem_cons.mp h
    · exact (List.mem_cons.mp h).imp_right (List.mem_cons_of_mem _)
    · rcases List.mem_cons.mp h with rfl | h
      · exact Or.inr List.mem_cons_self
      · exact (ih h).imp_right (List.mem_cons_of_mem _)

theorem Ascends.insert (h : m.Ascends) : (insert b s m).Ascends := by
  induction m with
  | nil => exact List.pairwise_singleton _ _
  | cons c m ih =>
    obtain ⟨d, other⟩ := c
    obtain ⟨hfirst, hrest⟩ := List.pairwise_cons.mp h
    rw [StrategyMap.insert]
    split_ifs with hlt hbd
    · refine List.pairwise_cons.mpr ⟨?_, h⟩
      rintro a ha
      rcases List.mem_cons.mp ha with rfl | ha
      · exact hlt
      · exact hlt.trans (hfirst a ha)
    · subst hbd
      exact List.pairwise_cons.mpr ⟨hfirst, hrest⟩
    · refine List.pairwise_cons.mpr ⟨?_, ih hrest⟩
      intro a ha
      rcases eq_or_mem_of_mem_insert ha with rfl | ha
      · have hne : d.rank ≠ b.rank := fun heq => hbd (BaseType.rank_inj.mp heq).symm
        exact lt_of_le_of_ne (not_lt.mp hlt) hne
      · exact hfirst a ha

theorem Ascends.mem_iff (h : m.Ascends) : (b, s) ∈ m ↔ m.lookup b = some s := by
  induction m with
  | nil => simp
  | cons c m ih =>
    obtain ⟨d, other⟩ := c
    obtain ⟨hfirst, hrest⟩ := List.pairwise_cons.mp h
    rw [List.mem_cons, lookup_entry, ih hrest]
    by_cases hb : b = d
    · -- behind the entry for a base type there is no other one for it
      have hlookup : m.lookup b ≠ some s := by
        rw [ne_eq, ← ih hrest]
        intro hmem
        have hlt : d.rank < b.rank := hfirst _ hmem
        rw [hb] at hlt
        exact lt_irrefl _ hlt
      rw [if_pos hb]
      simp [hb, hb ▸ hlookup, eq_comm]
    · simp [hb]

end StrategyMap

/-- A call that registers both strategies of a base type. -/
structure Registration where
  baseType : BaseType
  parsing : Strategy
  serialization : Strategy

def Registration.of (c : Registration) : Role → Strategy
  | .parsing => c.parsing
  | .serialization => c.serialization

namespace Registry

/-- The registry after registrations one after the other, from the empty one on. -/
def ofRegistrations (calls : List Registration) : Registry :=
  calls.foldl (fun r c => r.register c.baseType c.parsing c.serialization) empty

/-- The registration is one of the calls, and none after it is for the same base type. -/
def IsLatest (calls : List Registration) (c : Registration) : Prop :=
  ∃ before after, calls = before ++ c :: after ∧ ∀ d ∈ after, d.baseType ≠ c.baseType

section Registrations

variable (calls : List Registration) (role : Role) (b : BaseType) (c d : Registration)

/-- A registration is the latest for its own base type and leaves the other ones as they are. -/
theorem is_latest_concat_iff :
    IsLatest (calls ++ [d]) c ↔ d = c ∨ (d.baseType ≠ c.baseType ∧ IsLatest calls c) := by
  constructor
  · rintro ⟨before, after, hcalls, hafter⟩
    -- either nothing comes behind the registration, or what was added does
    rcases List.eq_nil_or_concat after with rfl | ⟨front, last, rfl⟩
    · obtain ⟨-, hlast⟩ := List.append_inj' hcalls rfl
      cases hlast
      exact Or.inl rfl
    · rw [List.concat_eq_append, ← List.cons_append, ← List.append_assoc] at hcalls
      obtain ⟨hfront, hlast⟩ := List.append_inj' hcalls rfl
      cases hlast
      have hne : d.baseType ≠ c.baseType := hafter d (by simp)
      exact Or.inr ⟨hne, before, front, hfront, fun other hother => hafter other (by simp [hother])⟩
  · rintro (rfl | ⟨hne, before, after, rfl, hafter⟩)
    · exact ⟨calls, [], rfl, by simp⟩
    · refine ⟨before, after ++ [d], by simp, ?_⟩
      intro other hother
      rcases List.mem_append.mp hother with hother | hother
      · exact hafter other hother
      · rwa [List.mem_singleton.mp hother]

/-- A base type has no other latest registration. -/
theorem IsLatest.unique {calls : List Registration} {c d : Registration} (hc : IsLatest calls c)
    (hd : IsLatest calls d) (h : c.baseType = d.baseType) : c = d := by
  induction calls using List.reverseRecOn with
  | nil => simp [IsLatest] at hc
  | append_singleton calls e ih =>
    rw [is_latest_concat_iff] at hc hd
    rcases hc with rfl | ⟨hne, hc⟩
    · rcases hd with rfl | ⟨hne, -⟩
      · rfl
      · exact absurd h hne
    · rcases hd with rfl | ⟨-, hd⟩
      · exact absurd h.symm hne
      · exact ih hc hd

theorem exists_latest_iff :
    (∃ c, IsLatest calls c ∧ c.baseType = b) ↔ ∃ c ∈ calls, c.baseType = b := by
  induction calls using List.reverseRecOn with
  | nil => simp [IsLatest]
  | append_singleton calls d ih =>
    simp only [is_latest_concat_iff, List.mem_append, List.mem_singleton]
    by_cases hd : d.baseType = b
    · exact iff_of_true ⟨d, Or.inl rfl, hd⟩ ⟨d, Or.inr rfl, hd⟩
    · constructor
      · rintro ⟨c, rfl | ⟨-, hlatest⟩, hb⟩
        · exact absurd hb hd
        · obtain ⟨e, he, heb⟩ := ih.mp ⟨c, hlatest, hb⟩
          exact ⟨e, Or.inl he, heb⟩
      · rintro ⟨c, hc | rfl, hb⟩
        · obtain ⟨e, he, heb⟩ := ih.mpr ⟨c, hc, hb⟩
          exact ⟨e, Or.inr ⟨by rwa [heb], he⟩, heb⟩
        · exact absurd hb hd

theorem registrations_concat : ofRegistrations (calls ++ [d]) =
    (ofRegistrations calls).register d.baseType d.parsing d.serialization := by
  rw [ofRegistrations, List.foldl_append]
  rfl

/-- One registration puts its strategies into the maps of either role. -/
theorem strategies_register (r : Registry) :
    (r.register d.baseType d.parsing d.serialization).strategies role =
      StrategyMap.insert d.baseType (d.of role) (r.strategies role) := by
  cases role <;> rfl

theorem ascends_registrations : ((ofRegistrations calls).strategies role).Ascends := by
  induction calls using List.reverseRecOn with
  | nil =>
    cases role <;> exact List.Pairwise.nil
  | append_singleton calls d ih =>
    rw [registrations_concat, strategies_register]
    exact ih.insert

/-- Any number of registrations: under each base type the latest strategy is found. -/
theorem lookup_registrations_iff (s : Strategy) :
    ((ofRegistrations calls).strategies role).lookup b = some s ↔
      ∃ c, IsLatest calls c ∧ c.baseType = b ∧ c.of role = s := by
  induction calls using List.reverseRecOn with
  | nil => cases role <;> simp [ofRegistrations, empty, strategies, IsLatest]
  | append_singleton calls d ih =>
    rw [registrations_concat, strategies_register, StrategyMap.lookup_insert]
    simp only [is_latest_concat_iff]
    split_ifs with hb
    · -- what was registered for the base type before does not count any more
      rw [Option.some.injEq]
      constructor
      · exact fun hs => ⟨d, Or.inl rfl, hb.symm, hs⟩
      · rintro ⟨c, rfl | ⟨hne, -⟩, hc, hs⟩
        · exact hs
        · exact absurd (hb.symm.trans hc.symm) hne
    · rw [ih]
      constructor
      · rintro ⟨c, hlatest, hc, hs⟩
        exact ⟨c, Or.inr ⟨fun heq => hb (hc.symm.trans heq.symm), hlatest⟩, hc, hs⟩
      · rintro ⟨c, rfl | ⟨-, hlatest⟩, hc, hs⟩
        · exact absurd hc.symm hb
        · exact ⟨c, hlatest, hc, hs⟩

theorem mem_registrations_iff (s : Strategy) :
    (b, s) ∈ (ofRegistrations calls).strategies role ↔
      ∃ c, IsLatest calls c ∧ c.baseType = b ∧ c.of role = s := by
  rw [(ascends_registrations calls role).mem_iff, lookup_registrations_iff]

theorem lookup_registrations_none_iff :
    ((ofRegistrations calls).strategies role).lookup b = none ↔ ∀ c ∈ calls, c.baseType ≠ b := by
  have hsome : (∃ s, ((ofRegistrations calls).strategies role).lookup b = some s) ↔
      ∃ c ∈ calls, c.baseType = b := by
    rw [← exists_latest_iff]
    simp only [lookup_registrations_iff]
    constructor
    · rintro ⟨s, c, hlatest, hc, -⟩
      exact ⟨c, hlatest, hc⟩
    · rintro ⟨c, hlatest, hc⟩
      exact ⟨_, c, hlatest, hc, rfl⟩
  rw [← not_iff_not, ← ne_eq, Option.ne_none_iff_exists', hsome]
  simp

end Registrations

/-! The views of a registry. -/

section Views

variable (r : Registry) (role : Role) (b : BaseType) (t : Target)

/-- A look-up without a target fails only where nothing is registered. -/
theorem strategy_eq_error_iff (e : RegistryError) :
    r.strategy role b = .error e ↔
      (r.strategies role).lookup b = none ∧ e = .unknown b role := by
  rw [strategy]
  cases (r.strategies role).lookup b with
  | none => simp [eq_comm]
  | some s => simp

theorem exists_strategy_for_iff :
    (∃ s, r.strategyFor role b t = .ok s) ↔ r.Supports role b t := by
  rw [← gap_eq_none_iff]
  rcases r.strategy_for_cases role b t with ⟨s, hs, hgap⟩ | ⟨e, he, hgap⟩
  · simp [hs, hgap]
  · simp [he, hgap]

end Views

end Registry

theorem SupportMatrix.is_supported_iff (r : Registry) (b : BaseType) (t : Target) :
    (ofRegistry r).isSupported b t = true ↔
      r.Supports .parsing b t ∧ r.Supports .serialization b t := by
  simp only [isSupported, ofRegistry, List.any_eq_true, List.mem_flatMap, List.mem_map,
    Bool.and_eq_true, beq_iff_eq, ← Registry.strategy_for_isOk]
  constructor
  · rintro ⟨e, ⟨c, -, u, -, rfl⟩, ⟨rfl, rfl⟩, hfull⟩
    exact (Bool.and_eq_true _ _).mp hfull
  · intro hfull
    exact ⟨_, ⟨b, b.mem_all, t, t.mem_all, rfl⟩, ⟨rfl, rfl⟩, (Bool.and_eq_true _ _).mpr hfull⟩

namespace Registry

/-- The entries are those of the base types that something was registered for: each of these once,
in order, under the name of the strategy that was registered last. -/
structure Lists (calls : List Registration) (role : Role) (entries : List StrategyEntry) :
    Prop where
  ascend : entries.Pairwise fun d e => d.baseType.rank < e.baseType.rank
  mem_iff : ∀ e, e ∈ entries ↔
    ∃ c, IsLatest calls c ∧ c.baseType = e.baseType ∧ (c.of role).name = e.name

theorem entries_of_registrations (calls : List Registration) (role : Role) :
    Lists calls role ((ofRegistrations calls).entries role) where
  ascend := by
    rw [entries, List.pairwise_map]
    exact ascends_registrations calls role
  mem_iff e := by
    rw [entries, List.mem_map]
    constructor
    · rintro ⟨⟨b, s⟩, hmem, rfl⟩
      obtain ⟨c, hlatest, hb, rfl⟩ := (mem_registrations_iff calls role b s).mp hmem
      exact ⟨c, hlatest, hb, rfl⟩
    · rintro ⟨c, hlatest, hb, hname⟩
      have hmem := (mem_registrations_iff calls role e.baseType _).mpr ⟨c, hlatest, hb, rfl⟩
      exact ⟨(e.baseType, c.of role), hmem, by simp [hname]⟩

theorem base_types_ascend (calls : List Registration) (role : Role) :
    (((ofRegistrations calls).strategies role).map (·.1)).Pairwise fun b c => b.rank < c.rank := by
  rw [List.pairwise_map]
  exact ascends_registrations calls role

/-- Whichever the role, there is a strategy for the base types that something was registered for. -/
theorem mem_base_types_iff (calls : List Registration) (role : Role) (b : BaseType) :
    b ∈ ((ofRegistrations calls).strategies role).map (·.1) ↔ ∃ c ∈ calls, c.baseType = b := by
  rw [← exists_latest_iff, List.mem_map]
  constructor
  · rintro ⟨⟨b, s⟩, hentry, rfl⟩
    obtain ⟨c, hlatest, hb, -⟩ := (mem_registrations_iff calls role b s).mp hentry
    exact ⟨c, hlatest, hb⟩
  · rintro ⟨c, hlatest, rfl⟩
    have hentry := (mem_registrations_iff calls role c.baseType _).mpr ⟨c, hlatest, rfl, rfl⟩
    exact ⟨(c.baseType, c.of role), hentry, rfl⟩

/-- Both maps have the same base types in the same order. -/
theorem maps_in_step (calls : List Registration) :
    (ofRegistrations calls).parsing.map (·.1) =
      (ofRegistrations calls).serialization.map (·.1) := by
  have hnodup (role : Role) : (((ofRegistrations calls).strategies role).map (·.1)).Nodup :=
    (base_types_ascend calls role).imp fun hlt heq =>
      (Nat.ne_of_lt hlt) (congrArg BaseType.rank heq)
  have hperm : ((ofRegistrations calls).strategies .parsing |>.map (·.1)).Perm
      ((ofRegistrations calls).strategies .serialization |>.map (·.1)) := by
    rw [List.perm_ext_iff_of_nodup (hnodup _) (hnodup _)]
    intro b
    rw [mem_base_types_iff, mem_base_types_iff]
  -- lists that ascend are equal if they have the same members
  exact hperm.eq_of_pairwise (fun b c _ _ hlt hgt => absurd hlt (Nat.not_lt.mpr hgt.le))
    (base_types_ascend calls .parsing) (base_types_ascend calls .serialization)

/-- After any registrations both maps are in step and the listings have what was registered last, a
look-up without a target fails for the other base types alone, and the support matrix says of each
base type and target whether both look-ups succeed: if the strategies registered last may be used
for the target. -/
theorem views_agree (calls : List Registration) :
    (ofRegistrations calls).parsing.map (·.1) = (ofRegistrations calls).serialization.map (·.1) ∧
    Lists calls .parsing (ofRegistrations calls).listing.parsing ∧
    Lists calls .serialization (ofRegistrations calls).listing.serialization ∧
    (∀ role b e, (ofRegistrations calls).strategy role b = .error e ↔
      (∀ c ∈ calls, c.baseType ≠ b) ∧ e = .unknown b role) ∧
    ∀ b t,
      ((SupportMatrix.ofRegistry (ofRegistrations calls)).isSupported b t = true ↔
        (b, t) ∉ (SupportMatrix.ofRegistry (ofRegistrations calls)).missing) ∧
      ((b, t) ∉ (SupportMatrix.ofRegistry (ofRegistrations calls)).missing ↔
        (∃ s, (ofRegistrations calls).strategyFor .parsing b t = .ok s) ∧
          ∃ s, (ofRegistrations calls).strategyFor .serialization b t = .ok s) ∧
      ((SupportMatrix.ofRegistry (ofRegistrations calls)).isSupported b t = true ↔
        ∃ c, IsLatest calls c ∧ c.baseType = b ∧ c.parsing.supports t = true ∧
          c.serialization.supports t = true) := by
  refine ⟨maps_in_step calls, entries_of_registrations calls .parsing,
    entries_of_registrations calls .serialization, ?_, ?_⟩
  · intro role b e
    rw [strategy_eq_error_iff, lookup_registrations_none_iff]
  · intro b t
    refine ⟨?_, ?_, ?_⟩
    · rw [SupportMatrix.is_supported_iff, SupportMatrix.mem_missing_iff, not_not]
    · rw [SupportMatrix.mem_missing_iff, not_not, exists_strategy_for_iff,
        exists_strategy_for_iff]
    · rw [SupportMatrix.is_supported_iff]
      simp only [Supports, lookup_registrations_iff]
      constructor
      · rintro ⟨⟨_, ⟨c, hc, hb, rfl⟩, hparsing⟩, _, ⟨d, hd, hdb, rfl⟩, hserialization⟩
        -- both strategies come from the one call that was the last for the base type
        obtain rfl : c = d := hc.unique hd (hb.trans hdb.symm)
        exact ⟨c, hc, hb, hparsing, hserialization⟩
      · rintro ⟨c, hc, hb, hparsing, hserialization⟩
        exact ⟨⟨_, ⟨c, hc, hb, rfl⟩, hparsing⟩, _, ⟨c, hc, hb, rfl⟩, hserialization⟩

end Registry

end CodeJudge
