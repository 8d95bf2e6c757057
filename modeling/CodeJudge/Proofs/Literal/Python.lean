import CodeJudge.Proofs.Json.Written
import CodeJudge.Proofs.Literal.Cpp
/-!
Python string literals read by the rules of the language: a short literal between double quotes
with simple, octal and hexadecimal escapes. A backslash in front of any other character stays, and
one at the end of a line joins it with the next. A JSON string is such a literal of the same text.
-/
namespace CodeJudge.Literal.Python

open Json (escapeChar writeString)

/-- What a simple escape stands for. -/
def simpleEscape? (c : Char) : Option (List Char) :=
  [('\n', []), ('\\', ['\\']), ('\'', ['\'']), ('"', ['"']), ('a', ['\x07']), ('b', ['\x08']),
    ('f', ['\x0c']), ('n', ['\n']), ('r', ['\r']), ('t', ['\t']), ('v', ['\x0b'])].lookup c

/-- What follows a backslash. Names of characters are not looked up, a lone surrogate is no
character, and a program has no null characters. -/
def escapeTail? : List Char → Option (List Char × List Char)
  | [] => none
  | '\r' :: '\n' :: cs => some ([], cs)
  | '\r' :: cs => some ([], cs)
  | '\x00' :: _ => none
  | 'N' :: _ => none
  | 'x' :: cs => (Cpp.universal? 2 cs).map fun (c, rest) => ([c], rest)
  | 'u' :: cs => (Cpp.universal? 4 cs).map fun (c, rest) => ([c], rest)
  | 'U' :: cs => (Cpp.universal? 8 cs).map fun (c, rest) => ([c], rest)
  | c :: cs =>
    match simpleEscape? c with
    | some ds => some (ds, cs)
    | none =>
      match Cpp.octalValue? c with
      | some d =>
        let (n, rest) := takeOctal Cpp.octalValue? 2 d cs
        some ([Char.ofNat n], rest)
      | none => some (['\\', c], cs)

/-- One item between the quotes: an escape, or a character that ends neither the literal nor the
line. -/
def readItem? (quote : Char) : List Char → Option (List Char × List Char)
  | [] => none
  | c :: cs =>
    if c = '\\' then escapeTail? cs
    else if c = quote ∨ c = '\n' ∨ c = '\r' ∨ c = '\x00' then none
    else some ([c], cs)

theorem length_escape_tail {cs ds rest : List Char} (h : escapeTail? cs = some (ds, rest)) :
    rest.length ≤ cs.length := by
  have huniversal {count : Nat} {c : Char} {cs : List Char}
      (h : (Cpp.universal? count cs).map (fun (c, rest) => ([c], rest)) = some (ds, rest)) :
      rest.length ≤ (c :: cs).length := by
    obtain ⟨⟨d, more⟩, hd, heq⟩ := Option.map_eq_some_iff.mp h
    cases heq
    exact Nat.le_succ_of_le (Cpp.length_universal hd)
  unfold escapeTail? at h
  split at h
  · cases h
  · cases h
    exact Nat.le_add_right _ 2
  · cases h
    exact Nat.le_succ _
  · cases h
  · cases h
  · exact huniversal h
  · exact huniversal h
  · exact huniversal h
  · split at h
    · cases h
      exact Nat.le_succ _
    · split at h
      · cases h
        exact Nat.le_succ_of_le (length_take_octal _ _ _ _)
      · cases h
        exact Nat.le_succ _

/-- Items between quotes, one by one. -/
def itemReader (quote : Char) : ItemReader Char (List Char) where
  read? := readItem? quote
  shrinks := by
    intro cs b rest h
    cases cs with
    | nil => cases h
    | cons c cs =>
      rw [readItem?] at h
      split_ifs at h
      · exact Nat.lt_succ_of_le (length_escape_tail h)
      · cases h
        exact Nat.lt_succ_self _

/-- The text of a short string literal, and what follows it. Three quotes begin a literal of
another kind. -/
def readString? : List Char → Option (List Char × List Char)
  | '"' :: '"' :: '"' :: _ => none
  | '"' :: cs => ((itemReader '"').body? '"' cs).map fun (items, rest) => (items.flatten, rest)
  | _ => none

theorem read_backslash (quote : Char) (cs : List Char) :
    readItem? quote ('\\' :: cs) = escapeTail? cs := by
  rw [readItem?, if_pos rfl]

/-- Two digits in base sixteen behind `00` name a control character. -/
theorem escape_tail_control {n : Nat} (h : n < 0x20) (rest : List Char) :
    escapeTail? ('u' :: '0' :: '0' ::
        ((if n < 16 then ['0'] else []) ++ Text.hexDigits n) ++ rest) =
      some ([Char.ofNat n], rest) := by
  interval_cases n <;> rfl

theorem read_escape (c : Char) (rest : List Char) :
    readItem? '"' (escapeChar c ++ rest) = some ([c], rest) := by
  unfold escapeChar
  -- seven characters have an escape of two characters, the other control characters one by number
  split
  · rfl
  · rfl
  · rfl
  · rfl
  · rfl
  · rfl
  · rfl
  · next hquote hslash _ _ hfeed hreturn _ =>
    by_cases hc : c.toNat < 0x20
    · have htext : ['\\', 'u', '0', '0'] ++ (if c.toNat < 16 then ['0'] else []) ++
          Text.hexDigits c.toNat ++ rest = '\\' :: ('u' :: '0' :: '0' ::
            ((if c.toNat < 16 then ['0'] else []) ++ Text.hexDigits c.toNat) ++ rest) := by
        simp
      rw [if_pos hc, htext, read_backslash, escape_tail_control hc, Char.ofNat_toNat]
    · have hnull : c ≠ '\x00' := by
        rintro rfl
        exact hc (by decide)
      rw [if_neg hc, List.singleton_append, readItem?, if_neg hslash,
        if_neg (by simp only [not_or]; exact ⟨hquote, hfeed, hreturn, hnull⟩)]

theorem escape_char_ne_nil (c : Char) : escapeChar c ≠ [] := by
  intro hnil
  have hread := read_escape c []
  rw [hnil] at hread
  cases hread

theorem escape_char_head (c : Char) : (escapeChar c).head? ≠ some '"' := by
  unfold escapeChar
  split
  case h_8 hquote _ _ _ _ _ _ =>
    by_cases hc : c.toNat < 0x20
    · simp [hc]
    · rw [if_neg hc]
      simpa using hquote
  all_goals decide

/-- A JSON string is a literal of the same text, unless it is empty and a quote follows. -/
theorem read_string_write (s : String) {rest : List Char} (h : rest.head? ≠ some '"') :
    readString? (writeString s ++ rest) = some (s.toList, rest) := by
  have hbody : (itemReader '"').body? '"' (s.toList.flatMap escapeChar ++ '"' :: rest) =
      some (s.toList.map fun c => [c], rest) := by
    apply ItemReader.body_flat_map
    · intro c _ more
      exact read_escape c more
    · intro more
      rfl
  -- only two quotes in front of a third would begin a long literal
  have hshort (more : List Char) :
      s.toList.flatMap escapeChar ++ '"' :: rest ≠ '"' :: '"' :: more := by
    intro hthree
    cases hs : s.toList with
    | nil =>
      rw [hs, List.flatMap_nil, List.nil_append, List.cons.injEq] at hthree
      exact h (by rw [hthree.2]; rfl)
    | cons c cs =>
      have hhead := congrArg List.head? hthree
      rw [hs, List.flatMap_cons, List.append_assoc,
        List.head?_append_of_ne_nil _ (escape_char_ne_nil c)] at hhead
      exact escape_char_head c hhead
  have htext : writeString s ++ rest = '"' :: (s.toList.flatMap escapeChar ++ '"' :: rest) := by
    simp [writeString]
  rw [htext, readString?]
  · have hflat : (s.toList.map fun c => [c]).flatten = s.toList := by
      rw [← List.flatMap_def, List.flatMap_singleton']
    rw [hbody, Option.map_some]
    dsimp only
    rw [hflat]
  · intro more hthree
    exact hshort more hthree

end CodeJudge.Literal.Python
