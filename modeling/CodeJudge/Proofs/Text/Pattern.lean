import CodeJudge.Text.Pattern
import Mathlib
/-!
What matches take. A match takes a part of the text that starts where it starts, and only
characters of its pattern; its groups remember only characters of theirs, and a pattern without
groups remembers nothing. Replacing matches is a recursion over the text behind each of them.
-/
namespace CodeJudge.Text.Pattern

/-- The characters that a match may take. -/
def mayTake : Pattern → Char → Bool
  | one set, c => set.has c
  | many set, c => set.has c
  | both p q, c => p.mayTake c || q.mayTake c
  | either p q, c => p.mayTake c || q.mayTake c
  | rounds p, c => p.mayTake c
  | group _ p, c => p.mayTake c
  | _, _ => false

/-- Whether the pattern remembers nothing. -/
def isPlain : Pattern → Bool
  | group _ _ => false
  | both p q => p.isPlain && q.isPlain
  | either p q => p.isPlain && q.isPlain
  | rounds p => p.isPlain
  | _ => true

/-- A place is behind another one, with characters of `set` between them. -/
def Behind (set : Char → Bool) (a b : Place) : Prop :=
  ∃ w, a.rest = w ++ b.rest ∧ ∀ c ∈ w, set c = true

namespace Behind

variable {set : Char → Bool} {a b d : Place}

theorem refl (a : Place) : Behind set a a := ⟨[], rfl, by simp⟩

theorem trans (h : Behind set a b) (g : Behind set b d) : Behind set a d := by
  obtain ⟨w, hw, hset⟩ := h
  obtain ⟨u, hu, hrest⟩ := g
  refine ⟨w ++ u, by rw [hw, hu, List.append_assoc], ?_⟩
  intro c hc
  rcases List.mem_append.mp hc with hc | hc
  · exact hset c hc
  · exact hrest c hc

theorem mono {other : Char → Bool} (hsub : ∀ c, set c = true → other c = true)
    (h : Behind set a b) : Behind other a b := by
  obtain ⟨w, hw, hset⟩ := h
  exact ⟨w, hw, fun c hc => hsub c (hset c hc)⟩

end Behind

theorem many_ends_behind {set : CharSet} {groups : List (Nat × List Char)} {shorter : List Place}
    {before : Option Char} {cs : List Char} {b : Place}
    (h : b ∈ manyEnds set groups shorter before cs) :
    b ∈ shorter ∨ (Behind set.has ⟨before, cs, groups⟩ b ∧ b.groups = groups) := by
  induction cs generalizing shorter before with
  | nil =>
    rcases List.mem_cons.mp h with rfl | h
    · exact Or.inr ⟨Behind.refl _, rfl⟩
    · exact Or.inl h
  | cons c cs ih =>
    rw [manyEnds] at h
    split_ifs at h with hc
    · rcases ih h with h | ⟨⟨w, hw, hset⟩, hg⟩
      · rcases List.mem_cons.mp h with rfl | h
        · exact Or.inr ⟨Behind.refl _, rfl⟩
        · exact Or.inl h
      · refine Or.inr ⟨⟨c :: w, ?_, ?_⟩, hg⟩
        · exact congrArg (c :: ·) hw
        · exact List.forall_mem_cons.mpr ⟨hc, hset⟩
    · rcases List.mem_cons.mp h with rfl | h
      · exact Or.inr ⟨Behind.refl _, rfl⟩
      · exact Or.inl h

/-- What one round brings about and what is kept from round to round holds of all rounds. -/
theorem rounds_ends_induction {R : Place → Place → Prop} (refl : ∀ a, R a a)
    (trans : ∀ a b d, R a b → R b d → R a d) {step : Place → List Place}
    (hstep : ∀ a b, b ∈ step a → R a b) {bound : Nat} {a b : Place}
    (h : b ∈ roundsEnds step bound a) : R a b := by
  induction bound generalizing a with
  | zero =>
    rw [List.mem_singleton.mp h]
    exact refl a
  | succ bound ih =>
    rcases List.mem_append.mp h with h | h
    · obtain ⟨m, hm, hb⟩ := List.mem_flatMap.mp h
      exact trans a m b (hstep a m (List.mem_of_mem_filter hm)) (ih hb)
    · rw [List.mem_singleton.mp h]
      exact refl a

theorem mem_of_guard {c : Bool} {a b : Place} (h : b ∈ if c = true then [a] else []) :
    c = true ∧ b = a := by
  split_ifs at h with hc
  · exact ⟨hc, List.mem_singleton.mp h⟩
  · cases h

/-- A match takes characters of its pattern only. -/
theorem ends_behind {p : Pattern} {a b : Place} (h : b ∈ p.ends a) : Behind p.mayTake a b := by
  induction p generalizing a b with
  | nothing =>
    rw [List.mem_singleton.mp h]
    exact Behind.refl a
  | one set =>
    rw [ends] at h
    split at h
    · cases h
    · next c cs hrest =>
      obtain ⟨hc, rfl⟩ := mem_of_guard h
      exact ⟨[c], hrest, by simpa [mayTake] using hc⟩
  | many set =>
    exact ((many_ends_behind h).resolve_left List.not_mem_nil).1
  | both p q ihp ihq =>
    obtain ⟨m, hm, hb⟩ := List.mem_flatMap.mp h
    exact ((ihp hm).mono fun c hc => by simp [mayTake, hc]).trans
      ((ihq hb).mono fun c hc => by simp [mayTake, hc])
  | either p q ihp ihq =>
    rcases List.mem_append.mp h with h | h
    · exact (ihp h).mono fun c hc => by simp [mayTake, hc]
    · exact (ihq h).mono fun c hc => by simp [mayTake, hc]
  | rounds p ih =>
    exact rounds_ends_induction Behind.refl (fun _ _ _ => Behind.trans) (fun _ _ => ih) h
  | group n p ih =>
    -- the group is put with the groups of the place, and its rest stays
    obtain ⟨m, hm, rfl⟩ := List.mem_map.mp h
    obtain ⟨w, hw, hset⟩ := ih hm
    exact ⟨w, hw, hset⟩
  | wordEdge =>
    rw [(mem_of_guard h).2]
    exact Behind.refl a
  | lineStart =>
    rw [(mem_of_guard h).2]
    exact Behind.refl a
  | textStart =>
    rw [(mem_of_guard h).2]
    exact Behind.refl a
  | textEnd =>
    rw [(mem_of_guard h).2]
    exact Behind.refl a

/-- A match of a pattern without groups remembers nothing. -/
theorem groups_of_plain {p : Pattern} (hp : p.isPlain = true) {a b : Place} (h : b ∈ p.ends a) :
    b.groups = a.groups := by
  induction p generalizing a b with
  | nothing => rw [List.mem_singleton.mp h]
  | one set =>
    rw [ends] at h
    split at h
    · cases h
    · rw [(mem_of_guard h).2]
  | many set => exact ((many_ends_behind h).resolve_left List.not_mem_nil).2
  | both p q ihp ihq =>
    obtain ⟨hp, hq⟩ := Bool.and_eq_true_iff.mp hp
    obtain ⟨m, hm, hb⟩ := List.mem_flatMap.mp h
    rw [ihq hq hb, ihp hp hm]
  | either p q ihp ihq =>
    obtain ⟨hp, hq⟩ := Bool.and_eq_true_iff.mp hp
    rcases List.mem_append.mp h with h | h
    · exact ihp hp h
    · exact ihq hq h
  | rounds p ih =>
    have hrel : ∀ a b : Place, b ∈ p.ends a → a.groups = b.groups := fun _ _ h => (ih hp h).symm
    exact (rounds_ends_induction (R := fun a b => a.groups = b.groups) (fun _ => rfl)
      (fun _ _ _ => Eq.trans) hrel h).symm
  | group n p => cases hp
  | wordEdge => rw [(mem_of_guard h).2]
  | lineStart => rw [(mem_of_guard h).2]
  | textStart => rw [(mem_of_guard h).2]
  | textEnd => rw [(mem_of_guard h).2]

theorem mem_ends_all_cons {p : Pattern} {ps : List Pattern} {a b : Place} :
    b ∈ (all (p :: ps)).ends a ↔ ∃ m ∈ p.ends a, b ∈ (all ps).ends m := List.mem_flatMap

theorem mem_ends_all_append {ps qs : List Pattern} {a b : Place} :
    b ∈ (all (ps ++ qs)).ends a ↔ ∃ m ∈ (all ps).ends a, b ∈ (all qs).ends m := by
  induction ps generalizing a with
  | nil => simp [all, ends]
  | cons p ps ih =>
    rw [List.cons_append, mem_ends_all_cons]
    constructor
    · rintro ⟨m, hm, hb⟩
      obtain ⟨n, hn, hb⟩ := ih.mp hb
      exact ⟨n, mem_ends_all_cons.mpr ⟨m, hm, hn⟩, hb⟩
    · rintro ⟨n, hn, hb⟩
      obtain ⟨m, hm, hn⟩ := mem_ends_all_cons.mp hn
      exact ⟨m, hm, ih.mpr ⟨n, hn, hb⟩⟩

theorem up_to_eq {a b : Place} {w : List Char} (h : a.rest = w ++ b.rest) : a.upTo b = w := by
  have hlen : a.rest.length - b.rest.length = w.length := by
    rw [h, List.length_append]
    omega
  rw [Place.upTo, hlen, h, List.take_left]

/-! What groups remember. -/

/-- The characters that a group of the pattern may remember. -/
def mayHold : Pattern → Char → Bool
  | both p q, c => p.mayHold c || q.mayHold c
  | either p q, c => p.mayHold c || q.mayHold c
  | rounds p, c => p.mayHold c
  | group _ p, c => p.mayTake c || p.mayHold c
  | _, _ => false

/-- All that is remembered at a place, but not at an earlier one, has characters of `set`. -/
def Remembers (set : Char → Bool) (a b : Place) : Prop :=
  ∀ g ∈ b.groups, g ∈ a.groups ∨ ∀ c ∈ g.2, set c = true

namespace Remembers

variable {set : Char → Bool} {a b d : Place}

theorem of_groups (h : b.groups = a.groups) : Remembers set a b := by
  intro g hg
  exact Or.inl (h ▸ hg)

theorem trans (h : Remembers set a b) (g : Remembers set b d) : Remembers set a d := by
  intro e he
  exact (g e he).elim (h e) Or.inr

theorem mono {other : Char → Bool} (hsub : ∀ c, set c = true → other c = true)
    (h : Remembers set a b) : Remembers other a b := by
  intro g hg
  exact (h g hg).imp_right fun hset c hc => hsub c (hset c hc)

end Remembers

theorem ends_remember {p : Pattern} {a b : Place} (h : b ∈ p.ends a) :
    Remembers p.mayHold a b := by
  induction p generalizing a b with
  | both p q ihp ihq =>
    obtain ⟨m, hm, hb⟩ := List.mem_flatMap.mp h
    exact ((ihp hm).mono fun c hc => by simp [mayHold, hc]).trans
      ((ihq hb).mono fun c hc => by simp [mayHold, hc])
  | either p q ihp ihq =>
    rcases List.mem_append.mp h with h | h
    · exact (ihp h).mono fun c hc => by simp [mayHold, hc]
    · exact (ihq h).mono fun c hc => by simp [mayHold, hc]
  | rounds p ih =>
    exact rounds_ends_induction (fun _ => Remembers.of_groups rfl)
      (fun _ _ _ => Remembers.trans) (fun _ _ => ih) h
  | group n p ih =>
    obtain ⟨m, hm, rfl⟩ := List.mem_map.mp h
    obtain ⟨w, hw, hset⟩ := ends_behind hm
    intro g hg
    rcases List.mem_cons.mp hg with rfl | hg
    · right
      intro c hc
      rw [up_to_eq hw] at hc
      simp [mayHold, hset c hc]
    · exact (ih hm g hg).imp_right fun hold c hc => by simp [mayHold, hold c hc]
  | nothing => exact Remembers.of_groups (groups_of_plain rfl h)
  | one set => exact Remembers.of_groups (groups_of_plain rfl h)
  | many set => exact Remembers.of_groups (groups_of_plain rfl h)
  | wordEdge => exact Remembers.of_groups (groups_of_plain rfl h)
  | lineStart => exact Remembers.of_groups (groups_of_plain rfl h)
  | textStart => exact Remembers.of_groups (groups_of_plain rfl h)
  | textEnd => exact Remembers.of_groups (groups_of_plain rfl h)

/-! Searches. -/

theorem mem_ends_of_match {p : Pattern} {a b : Place} (h : p.match? a = some b) :
    b ∈ p.ends a := List.mem_of_mem_head? h

/-- A match that is found starts behind the characters that were passed over. -/
theorem find_from_eq_some {p : Pattern} {before : Option Char} {cs passed : List Char} {b : Place}
    (h : p.findFrom before cs = some (passed, b)) :
    ∃ rest, cs = passed ++ rest ∧ b ∈ p.ends ⟨passed.getLast?.or before, rest, []⟩ := by
  induction cs generalizing before passed with
  | nil =>
    obtain ⟨m, hm, he⟩ := Option.map_eq_some_iff.mp h
    cases he
    exact ⟨[], rfl, mem_ends_of_match hm⟩
  | cons c cs ih =>
    rw [findFrom] at h
    split at h
    · next m hm =>
      cases h
      exact ⟨c :: cs, rfl, mem_ends_of_match hm⟩
    · obtain ⟨⟨q, m⟩, hq, he⟩ := Option.map_eq_some_iff.mp h
      cases he
      obtain ⟨rest, hcs, hm⟩ := ih hq
      refine ⟨rest, by rw [hcs, List.cons_append], ?_⟩
      rw [List.getLast?_cons]
      cases hl : q.getLast? <;> simpa [hl] using hm

/-- What is captured has only characters that a group may remember. -/
theorem may_hold_of_capture {p : Pattern} {s v : String} (h : p.capture? s = some v) :
    ∀ c ∈ v.toList, p.mayHold c = true := by
  obtain ⟨⟨passed, b⟩, hfind, htaken⟩ := Option.bind_eq_some_iff.mp h
  obtain ⟨taken, hgroup, hv⟩ := Option.bind_eq_some_iff.mp htaken
  obtain ⟨rest, -, hends⟩ := find_from_eq_some hfind
  obtain rfl : String.ofList taken = v := by simpa using hv
  obtain ⟨front, back, hsplit, -⟩ := List.lookup_eq_some_iff.mp hgroup
  have hmem : (1, taken) ∈ b.groups := by simp [hsplit]
  rw [String.toList_ofList]
  exact (ends_remember hends _ hmem).resolve_left List.not_mem_nil

/-- A text in which a pattern between both its ends occurs has only characters of the pattern. -/
theorem may_take_of_occurs {ps : List Pattern} {s : String}
    (h : (all (textStart :: ps ++ [textEnd])).occurs s = true) :
    ∀ c ∈ s.toList, (all ps).mayTake c = true := by
  obtain ⟨⟨passed, b⟩, hfind⟩ := Option.isSome_iff_exists.mp h
  obtain ⟨rest, hs, hends⟩ := find_from_eq_some hfind
  -- the start allows no character to be passed over, the end none to be left
  obtain ⟨m, hm, hb⟩ := mem_ends_all_cons.mp hends
  obtain ⟨hstart, rfl⟩ := mem_of_guard hm
  obtain ⟨n, hn, hb⟩ := mem_ends_all_append.mp hb
  obtain ⟨e, he, -⟩ := mem_ends_all_cons.mp hb
  obtain ⟨hend, -⟩ := mem_of_guard he
  have hpassed : passed = [] := by simpa using hstart
  have hrest : n.rest = [] := by simpa using hend
  obtain ⟨w, hw, hset⟩ := ends_behind hn
  rw [hpassed, List.nil_append] at hs
  rw [hrest, List.append_nil] at hw
  have hall : s.toList = w := hs.trans hw
  rw [hall]
  exact hset

/-! Replacing. -/

/-- What becomes of a text when the matches in it are replaced. -/
def replacedFrom (p : Pattern) (f : Place → List Char) (bound : Nat) (before : Option Char)
    (cs : List Char) : List Char :=
  (p.findAllFrom bound before cs).flatMap (fun (passed, b) => passed ++ f b) ++
    ((p.findAllFrom bound before cs).getLast?.map (·.2.rest)).getD cs

theorem replace_all_eq (p : Pattern) (f : Place → List Char) (s : String) :
    (p.replaceAll f s).toList = p.replacedFrom f s.length none s.toList := by
  rw [replaceAll, String.toList_ofList]
  rfl

theorem replaced_from_of_none {p : Pattern} (f : Place → List Char) (bound : Nat)
    {before : Option Char} {cs : List Char} (h : p.findFrom before cs = none) :
    p.replacedFrom f bound before cs = cs := by
  cases bound with
  | zero => rfl
  | succ bound => simp [replacedFrom, findAllFrom, h]

theorem replaced_from_of_some {p : Pattern} (f : Place → List Char) (bound : Nat)
    {before : Option Char} {cs passed : List Char} {b : Place}
    (h : p.findFrom before cs = some (passed, b)) :
    p.replacedFrom f (bound + 1) before cs =
      passed ++ f b ++ p.replacedFrom f bound b.before b.rest := by
  simp only [replacedFrom, findAllFrom, h, List.flatMap_cons, List.getLast?_cons]
  cases (p.findAllFrom bound b.before b.rest).getLast? <;> simp

end CodeJudge.Text.Pattern
