import CodeJudge.Json.Reader
import CodeJudge.Literal.Coercion
import Mathlib
/-!
Escapes in literals, from the side of a reader. A language says how one item of a quoted text is
read; a text that is written item by item is then read item by item, up to the closing quote.
-/
namespace CodeJudge.Literal

/-- How one item of a quoted text is read, and what follows it. -/
structure ItemReader (α β : Type) where
  read? : List α → Option (β × List α)
  shrinks : ∀ {cs : List α} {b : β} {rest : List α}, read? cs = some (b, rest) →
    rest.length < cs.length

namespace ItemReader

variable {α β γ : Type} [DecidableEq α] (r : ItemReader α β)

/-- The items up to the closing quote, and what follows it. -/
def body? (quote : α) (cs : List α) : Option (List β × List α) :=
  match _h : r.read? cs with
  | some (b, rest) => (body? quote rest).map fun (bs, more) => (b :: bs, more)
  | none =>
    match cs with
    | [] => none
    | c :: rest => if c = quote then some ([], rest) else none
termination_by cs.length
decreasing_by exact r.shrinks _h

theorem body_of_item {quote : α} {cs rest : List α} {b : β} (h : r.read? cs = some (b, rest)) :
    r.body? quote cs = (r.body? quote rest).map fun (bs, more) => (b :: bs, more) := by
  rw [body?]
  split
  · next b' rest' h' =>
    rw [h] at h'
    cases h'
    rfl
  · next h' =>
    rw [h] at h'
    cases h'

theorem body_of_quote {quote : α} {rest : List α} (h : r.read? (quote :: rest) = none) :
    r.body? quote (quote :: rest) = some ([], rest) := by
  rw [body?]
  split
  · next h' =>
    rw [h] at h'
    cases h'
  · simp

/-- If every item is read as it is written, whatever follows it, then so is a list of items. -/
theorem body_flat_map {quote : α} {write : γ → List α} {value : γ → β} {items : List γ}
    (hitem : ∀ g ∈ items, ∀ rest, r.read? (write g ++ rest) = some (value g, rest))
    (hquote : ∀ rest, r.read? (quote :: rest) = none) (rest : List α) :
    r.body? quote (items.flatMap write ++ quote :: rest) = some (items.map value, rest) := by
  induction items with
  | nil => exact r.body_of_quote (hquote rest)
  | cons g items ih =>
    -- the items behind `g` and the quote are the rest in front of which `g` is read
    have hrest := ih fun g' hg' => hitem g' (List.mem_cons_of_mem g hg')
    rw [List.flatMap_cons, List.append_assoc,
      r.body_of_item (hitem g List.mem_cons_self _), hrest]
    rfl

end ItemReader

/-! Digits in base eight and sixteen. -/

/-- The number that digits in base eight write behind `n`, at most so many of them, and what
follows them. -/
def takeOctal {α : Type} (digit? : α → Option Nat) : Nat → Nat → List α → Nat × List α
  | 0, n, cs => (n, cs)
  | _ + 1, n, [] => (n, [])
  | most + 1, n, c :: cs =>
    match digit? c with
    | some d => takeOctal digit? most (8 * n + d) cs
    | none => (n, c :: cs)

theorem length_take_octal {α : Type} (digit? : α → Option Nat) (most n : Nat) (cs : List α) :
    (takeOctal digit? most n cs).2.length ≤ cs.length := by
  induction most generalizing n cs with
  | zero => rfl
  | succ most ih =>
    cases cs with
    | nil => rfl
    | cons c cs =>
      rw [takeOctal]
      split
      · exact Nat.le_succ_of_le (ih _ cs)
      · rfl

theorem take_octal_digit {α : Type} {digit? : α → Option Nat} {c : α} {d : Nat}
    (h : digit? c = some d) (most n : Nat) (cs : List α) :
    takeOctal digit? (most + 1) n (c :: cs) = takeOctal digit? most (8 * n + d) cs := by
  rw [takeOctal, h]

/-- Three digits in base eight write the number, whatever follows them. -/
theorem take_octal_octal3 {α : Type} {digit? : α → Option Nat} (item : Char → α)
    (hdigit : ∀ d < 8, digit? (item (Nat.digitChar d)) = some d) {n : Nat} (h : n < 512)
    (cs : List α) : takeOctal digit? 3 0 ((octal3 n).map item ++ cs) = (n, cs) := by
  have hn : 8 * (8 * (8 * 0 + n / 64 % 8) + n / 8 % 8) + n % 8 = n := by omega
  simp only [octal3, List.map_cons, List.map_nil, List.cons_append, List.nil_append]
  rw [take_octal_digit (hdigit _ (Nat.mod_lt _ (by decide))),
    take_octal_digit (hdigit _ (Nat.mod_lt _ (by decide))),
    take_octal_digit (hdigit _ (Nat.mod_lt _ (by decide))), takeOctal, hn]

theorem hex_value_digit {d : Nat} (h : d < 16) : Json.hexValue? (Nat.digitChar d) = some d := by
  interval_cases d <;> rfl

/-- The characters with an escape in both languages, and those without one. -/
theorem escape_common_cases (quote c : Char) :
    ((c = '\\' ∨ c = quote) ∧ escapeCommon? quote c = some ['\\', c]) ∨
      (c = '\n' ∧ escapeCommon? quote c = some ['\\', 'n']) ∨
      (c = '\r' ∧ escapeCommon? quote c = some ['\\', 'r']) ∨
      (c = '\t' ∧ escapeCommon? quote c = some ['\\', 't']) ∨
      (c.toNat < 0x20 ∧ escapeCommon? quote c = some ('\\' :: octal3 c.toNat)) ∨
      (c ≠ '\\' ∧ c ≠ quote ∧ 0x20 ≤ c.toNat ∧ escapeCommon? quote c = none) := by
  rw [escapeCommon?]
  split_ifs with hself hfeed hreturn htab hcontrol
  · exact Or.inl ⟨by simpa using hself, rfl⟩
  · exact Or.inr (Or.inl ⟨eq_of_beq hfeed, rfl⟩)
  · exact Or.inr (Or.inr (Or.inl ⟨eq_of_beq hreturn, rfl⟩))
  · exact Or.inr (Or.inr (Or.inr (Or.inl ⟨eq_of_beq htab, rfl⟩)))
  · exact Or.inr (Or.inr (Or.inr (Or.inr (Or.inl ⟨hcontrol, rfl⟩))))
  · simp only [Bool.or_eq_true, beq_iff_eq, not_or] at hself
    refine Or.inr (Or.inr (Or.inr (Or.inr (Or.inr ⟨hself.1, hself.2, ?_, rfl⟩))))
    exact Nat.le_of_not_lt hcontrol

theorem escape_common_beyond {quote c : Char} (hquote : quote = '"' ∨ quote = '\'')
    (hc : 128 ≤ c.toNat) : escapeCommon? quote c = none := by
  have hquote128 : quote.toNat < 128 := by rcases hquote with rfl | rfl <;> decide
  rcases escape_common_cases quote c with ⟨rfl | rfl, h⟩ | ⟨rfl, h⟩ | ⟨rfl, h⟩ | ⟨rfl, h⟩ |
    ⟨hlow, h⟩ | ⟨-, -, -, h⟩
  · exact absurd hc (by decide)
  · omega
  · exact absurd hc (by decide)
  · exact absurd hc (by decide)
  · exact absurd hc (by decide)
  · omega
  · exact h

end CodeJudge.Literal
