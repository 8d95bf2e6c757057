import Mathlib
/-!
Balance. A text is balanced if outside of strings every container that is opened is closed again
and no string is left open. A balanced text cannot be cut inside a container, which is why an
array that was begun before another one is not closed by it.
-/
namespace CodeJudge.Json

/-- Where a text stands, with the number of containers that are open: outside of strings, in a
string, or behind a backslash in a string. -/
inductive Standing where
  | plain (level : Nat)
  | quoted (level : Nat)
  | escaped (level : Nat)
  deriving DecidableEq, Repr

namespace Standing

/-- Where the text stands behind one more character, if the character may stand there at all. -/
def step : Standing → Char → Option Standing
  | plain n, c =>
    if c = '"' then some (quoted n)
    else if c = '[' ∨ c = '\x7b' then some (plain (n + 1))
    else if c = ']' ∨ c = '\x7d' then if n = 0 then none else some (plain (n - 1))
    else some (plain n)
  | quoted n, c =>
    if c.toNat < 0x20 then none
    else if c = '"' then some (plain n)
    else if c = '\\' then some (escaped n)
    else some (quoted n)
  | escaped n, c => if c.toNat < 0x20 then none else some (quoted n)

/-- Where the text stands behind more characters. -/
def scan (p : Standing) (cs : List Char) : Option Standing := cs.foldlM step p

/-- The same place inside one more container. -/
def deeper : Standing → Standing
  | plain n => plain (n + 1)
  | quoted n => quoted (n + 1)
  | escaped n => escaped (n + 1)

@[simp] theorem scan_nil (p : Standing) : p.scan [] = some p := rfl

@[simp] theorem scan_cons (p : Standing) (c : Char) (cs : List Char) :
    p.scan (c :: cs) = (p.step c).bind fun q => q.scan cs := rfl

theorem scan_append (p : Standing) (cs ds : List Char) :
    p.scan (cs ++ ds) = (p.scan cs).bind fun q => q.scan ds := by
  induction cs generalizing p with
  | nil => rfl
  | cons c cs ih =>
    cases h : p.step c with
    | none => simp [h]
    | some q => simp [h, ih]

theorem scan_append_eq_some {p q : Standing} {cs ds : List Char} (h : p.scan (cs ++ ds) = some q) :
    ∃ m, p.scan cs = some m ∧ m.scan ds = some q := by
  rw [scan_append] at h
  exact Option.bind_eq_some_iff.mp h

theorem step_deeper {p q : Standing} {c : Char} (h : p.step c = some q) :
    p.deeper.step c = some q.deeper := by
  cases p with
  | plain n =>
    simp only [step, deeper, Nat.add_one_ne_zero, if_false] at h ⊢
    split_ifs at h ⊢ with h1 h2 h3 h4
    · cases h
      rfl
    · cases h
      rfl
    · cases h
      simp only [Option.some.injEq, plain.injEq]
      omega
    · cases h
      rfl
  | quoted n =>
    simp only [step, deeper] at h ⊢
    split_ifs at h ⊢ <;> cases h <;> rfl
  | escaped n =>
    simp only [step, deeper] at h ⊢
    split_ifs at h ⊢
    cases h
    rfl

/-- What may stand somewhere may also stand inside one more container. -/
theorem scan_deeper {p q : Standing} {cs : List Char} (h : p.scan cs = some q) :
    p.deeper.scan cs = some q.deeper := by
  induction cs generalizing p with
  | nil =>
    rw [scan_nil, Option.some.injEq] at h
    rw [h, scan_nil]
  | cons c cs ih =>
    obtain ⟨m, hm, hq⟩ := Option.bind_eq_some_iff.mp h
    rw [scan_cons, step_deeper hm]
    exact ih hq

/-- No string goes on behind a line feed. -/
theorem plain_of_scan_newline {p q : Standing} {cs : List Char}
    (h : p.scan (cs ++ ['\n']) = some q) : ∃ n, q = plain n := by
  obtain ⟨m, -, hq⟩ := scan_append_eq_some h
  cases m with
  | plain n => exact ⟨n, by simpa [step, eq_comm] using hq⟩
  | quoted n => simp [step] at hq
  | escaped n => simp [step] at hq

end Standing

/-- Outside of strings all containers that are opened are closed again, and no string is left
open. -/
def Balanced (cs : List Char) : Prop := (Standing.plain 0).scan cs = some (.plain 0)

namespace Balanced

theorem scan {cs : List Char} (h : Balanced cs) (n : Nat) :
    (Standing.plain n).scan cs = some (.plain n) := by
  induction n with
  | zero => exact h
  | succ n ih => exact Standing.scan_deeper ih

theorem nil : Balanced [] := rfl

theorem append {cs ds : List Char} (h : Balanced cs) (g : Balanced ds) : Balanced (cs ++ ds) := by
  rw [Balanced, Standing.scan_append, h]
  exact g

/-- In a balanced text what follows a balanced part is balanced. -/
theorem of_append {cs ds : List Char} (h : Balanced cs) (g : Balanced (cs ++ ds)) :
    Balanced ds := by
  rw [Balanced, Standing.scan_append, h] at g
  exact g

theorem array {cs : List Char} (h : Balanced cs) : Balanced ('[' :: cs ++ [']']) := by
  have hs := h.scan 1
  simp [Balanced, Standing.step, Standing.scan_append, hs]

theorem object {cs : List Char} (h : Balanced cs) : Balanced ('\x7b' :: cs ++ ['\x7d']) := by
  have hs := h.scan 1
  simp [Balanced, Standing.step, Standing.scan_append, hs]

/-- A closing bracket does not stand in a balanced text behind a balanced part. -/
theorem not_close {cs ds : List Char} (h : Balanced cs) : ¬ Balanced (cs ++ ']' :: ds) := by
  intro g
  have hd := h.of_append g
  simp [Balanced, Standing.step] at hd

/-- What is left of a container that was opened in a text is not balanced. -/
theorem not_open {cs ds : List Char} {c : Char} (hc : c = '[' ∨ c = '\x7b') (h : Balanced cs)
    (hds : ∃ p, (Standing.plain 0).scan ds = some p) : ¬ Balanced (cs ++ c :: ds) := by
  intro g
  obtain ⟨p, hp⟩ := hds
  have hd := h.of_append g
  -- behind the opening bracket the text stands one level deeper, wherever it goes on to
  have hstep : (Standing.plain 0).step c = some (Standing.plain 0).deeper := by
    rcases hc with rfl | rfl <;> simp [Standing.step, Standing.deeper]
  rw [Balanced, Standing.scan_cons, hstep, Option.bind_some, Standing.scan_deeper hp] at hd
  cases p <;> simp [Standing.deeper] at hd

end Balanced

/-- Characters that neither open nor close anything. -/
def isNeutral (c : Char) : Bool :=
  c != '"' && c != '[' && c != '\x7b' && c != ']' && c != '\x7d'

theorem balanced_of_neutral {cs : List Char} (h : ∀ c ∈ cs, isNeutral c = true) :
    Balanced cs := by
  induction cs with
  | nil => exact Balanced.nil
  | cons c cs ih =>
    have hc := h c (by simp)
    have hs : (Standing.plain 0).step c = some (.plain 0) := by
      simp only [isNeutral, Bool.and_eq_true, bne_iff_ne] at hc
      simp [Standing.step, hc]
    rw [Balanced, Standing.scan_cons, hs]
    exact ih fun d hd => h d (by simp [hd])

/-- The text is a balanced part and `rest`. -/
def Passes (cs rest : List Char) : Prop := ∃ w, Balanced w ∧ cs = w ++ rest

namespace Passes

theorem trans {cs ds es : List Char} (h : Passes cs ds) (g : Passes ds es) : Passes cs es := by
  obtain ⟨w, hw, rfl⟩ := h
  obtain ⟨u, hu, rfl⟩ := g
  exact ⟨w ++ u, hw.append hu, by simp⟩

theorem of_neutral {cs rest : List Char} (h : ∀ c ∈ cs, isNeutral c = true) :
    Passes (cs ++ rest) rest := ⟨cs, balanced_of_neutral h, rfl⟩

theorem word {w : List Char} (h : w.all isNeutral = true) (cs : List Char) : Passes (w ++ cs) cs :=
  of_neutral (List.all_eq_true.mp h)

theorem char {c : Char} (h : isNeutral c = true) (cs : List Char) : Passes (c :: cs) cs :=
  ⟨[c], balanced_of_neutral (by simpa using h), rfl⟩

theorem array {cs rest : List Char} (h : Passes cs (']' :: rest)) : Passes ('[' :: cs) rest := by
  obtain ⟨w, hw, rfl⟩ := h
  exact ⟨'[' :: w ++ [']'], hw.array, by simp⟩

theorem object {cs rest : List Char} (h : Passes cs ('\x7d' :: rest)) :
    Passes ('\x7b' :: cs) rest := by
  obtain ⟨w, hw, rfl⟩ := h
  exact ⟨'\x7b' :: w ++ ['\x7d'], hw.object, by simp⟩

end Passes

/-- The text inside a string is closed by its quote in front of `rest`. -/
def Closes (cs rest : List Char) : Prop :=
  ∃ w, (Standing.quoted 0).scan w = some (.plain 0) ∧ cs = w ++ rest

/-- A character that neither ends a string nor escapes the next one. -/
def IsOrdinary (c : Char) : Prop := 0x20 ≤ c.toNat ∧ c ≠ '"' ∧ c ≠ '\\'

namespace Closes

theorem quote (rest : List Char) : Closes ('"' :: rest) rest := ⟨['"'], by decide, rfl⟩

theorem ordinary {c : Char} {cs rest : List Char} (hc : IsOrdinary c) (h : Closes cs rest) :
    Closes (c :: cs) rest := by
  obtain ⟨w, hw, rfl⟩ := h
  have hn : ¬ c.toNat < 0x20 := by have := hc.1; omega
  exact ⟨c :: w, by simp only [Standing.scan_cons, Standing.step, if_neg hn, if_neg hc.2.1,
    if_neg hc.2.2, Option.bind_some, hw], rfl⟩

theorem escape {e : Char} {cs rest : List Char} (he : 0x20 ≤ e.toNat) (h : Closes cs rest) :
    Closes ('\\' :: e :: cs) rest := by
  obtain ⟨w, hw, rfl⟩ := h
  have hb : (Standing.quoted 0).step '\\' = some (.escaped 0) := by decide
  have hs : (Standing.escaped 0).step e = some (.quoted 0) := if_neg (by omega)
  refine ⟨'\\' :: e :: w, ?_, rfl⟩
  rw [Standing.scan_cons, hb, Option.bind_some, Standing.scan_cons, hs, Option.bind_some, hw]

theorem passes {cs rest : List Char} (h : Closes cs rest) : Passes ('"' :: cs) rest := by
  obtain ⟨w, hw, rfl⟩ := h
  refine ⟨'"' :: w, ?_, rfl⟩
  have hq : (Standing.plain 0).step '"' = some (.quoted 0) := by decide
  rw [Balanced, Standing.scan_cons, hq]
  exact hw

end Closes

end CodeJudge.Json
