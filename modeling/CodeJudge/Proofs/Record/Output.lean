import CodeJudge.Proofs.Json.Written
import CodeJudge.Proofs.Record.Text
import CodeJudge.Proofs.Text.Blank
/-!
Records in the output of a program. Whatever a contestant prints on lines before the array of
records, the array is found and read: a line of it may open an array of its own, but the records
behind that line cannot close it.
-/
namespace CodeJudge.TestRecord

open Text (isBlank trimmed)

theorem after_breaks_append (cs ds : List Char) :
    afterBreaks (cs ++ ds) = (afterBreaks cs).map (· ++ ds) ++ afterBreaks ds := by
  induction cs with
  | nil => rfl
  | cons c cs ih =>
    simp only [List.cons_append, afterBreaks, ih]
    by_cases hc : (c == '\n') = true
    · simp [hc]
    · simp [hc]

theorem suffix_of_mem_after_breaks {cs p : List Char} (h : p ∈ afterBreaks cs) : p <:+ cs := by
  induction cs with
  | nil => cases h
  | cons c cs ih =>
    rw [afterBreaks] at h
    split_ifs at h with hc
    · rcases List.mem_cons.mp h with rfl | h
      · exact List.suffix_cons c p
      · exact (ih h).trans (List.suffix_cons c cs)
    · exact (ih h).trans (List.suffix_cons c cs)

theorem after_breaks_of_not_mem {cs : List Char} (h : '\n' ∉ cs) : afterBreaks cs = [] := by
  induction cs with
  | nil => rfl
  | cons c cs ih =>
    simp only [List.mem_cons, not_or] at h
    rw [afterBreaks, if_neg (by simpa using Ne.symm h.1), ih h.2]

/-- The text is empty or its last line is ended. -/
def EndsLine (cs : List Char) : Prop := cs = [] ∨ cs.getLast? = some '\n'

theorem EndsLine.of_suffix {cs p : List Char} (h : EndsLine cs) (hp : p <:+ cs) : EndsLine p := by
  obtain ⟨q, rfl⟩ := hp
  by_cases hnil : p = []
  · exact Or.inl hnil
  · rcases h with h | h
    · exact absurd (List.append_eq_nil_iff.mp h).2 hnil
    · rw [List.getLast?_append_of_ne_nil q hnil] at h
      exact Or.inr h

/-- An empty line starts behind a text whose last line is ended. -/
theorem nil_mem_starts {cs : List Char} (h : EndsLine cs) : [] ∈ cs :: afterBreaks cs := by
  rcases h with rfl | h
  · exact List.mem_cons_self
  · obtain ⟨q, rfl⟩ := List.getLast?_eq_some_iff.mp h
    rw [after_breaks_append]
    simp [afterBreaks]

/-- The text between the brackets of an array that is written of records. -/
def itemsText (records : List TestRecord) : List Char := Json.Value.writeItems (records.map toJson)

theorem write_array_of (records : List TestRecord) :
    (arrayOf records).write = '[' :: itemsText records ++ [']'] := rfl

theorem balanced_items_text {records : List TestRecord} (h : ∀ r ∈ records, r.Intact) :
    Json.Balanced (itemsText records) := by
  refine Json.balanced_write_items ?_
  exact (Json.Value.survives_items_iff _).mp (survives_array_of records h)

/-- A text between brackets that is not balanced is not read. -/
theorem read_array_eq_none {cs : List Char} (h : ¬ Json.Balanced cs) :
    readArray? ('[' :: cs ++ [']']) = none := by
  by_contra hsome
  obtain ⟨records, hread⟩ := Option.ne_none_iff_exists'.mp hsome
  obtain ⟨v, hv, -⟩ := Option.bind_eq_some_iff.mp hread
  obtain ⟨w, rest, hw, hcs, hspace⟩ := Json.read_document_array hv
  -- nothing can follow the closing bracket, which is the last character
  rcases List.eq_nil_or_concat rest with rfl | ⟨ds, c, rfl⟩
  · rw [List.append_cancel_right hcs] at h
    exact h hw
  · have hlast := congrArg List.getLast? hcs
    simp only [List.getLast?_append, List.getLast?_cons] at hlast
    have hc : c = ']' := by simpa using hlast.symm
    have hs := hspace c (by simp)
    rw [hc] at hs
    exact absurd hs (by decide)

/-- An array that is opened on a line before another one is not closed by it. -/
theorem read_array_behind_line {p cs : List Char} (hp : p.getLast? = some '\n')
    (hcs : Json.Balanced cs) : readArray? ('[' :: (p ++ '[' :: cs) ++ [']']) = none := by
  refine read_array_eq_none ?_
  intro hbal
  obtain ⟨q, rfl⟩ := List.getLast?_eq_some_iff.mp hp
  obtain ⟨s, hs, hscan⟩ := Json.Standing.scan_append_eq_some hbal
  obtain ⟨n, rfl⟩ := Json.Standing.plain_of_scan_newline hs
  -- behind the line the bracket opens one more container, which stays open
  have hopen : (Json.Standing.plain n).step '[' = some (.plain (n + 1)) := rfl
  rw [Json.Standing.scan_cons, hopen, Option.bind_some, hcs.scan (n + 1)] at hscan
  simp at hscan

/-- Trimming leaves the array of records between white space. -/
theorem trimmed_array {b cs w : List Char} (hb : ∀ c ∈ b, isBlank c = true)
    (hw : ∀ c ∈ w, isBlank c = true) : trimmed (b ++ ('[' :: cs ++ [']']) ++ w) =
      '[' :: cs ++ [']'] := by
  have hopen : isBlank '[' = false := by decide
  have hclose : isBlank ']' = false := by decide
  refine Text.trimmed_append hb hw ?_ ?_
  · simpa using hopen
  · rw [List.getLast?_concat]
    simpa using hclose

/-- From no line of the noise on anything but the records is read. -/
theorem read_behind_noise {records : List TestRecord} (hr : ∀ r ∈ records, r.Intact)
    (hd : (arrayOf records).depth ≤ Json.maxDepth) {p w : List Char} (hp : EndsLine p)
    (hw : ∀ c ∈ w, isBlank c = true)
    (ho : opensArray (p ++ (arrayOf records).write ++ w) = true) :
    readArray? (trimmed (p ++ (arrayOf records).write ++ w)) = none ∨
      readArray? (trimmed (p ++ (arrayOf records).write ++ w)) = some records := by
  have hb : ∀ c ∈ p.takeWhile isBlank, isBlank c = true := fun c hc => List.mem_takeWhile_imp hc
  have hsplit : p.takeWhile isBlank ++ p.dropWhile isBlank = p := List.takeWhile_append_dropWhile
  cases hrest : p.dropWhile isBlank with
  | nil =>
    right
    rw [hrest, List.append_nil] at hsplit
    rw [← hsplit, write_array_of, trimmed_array hb hw, ← write_array_of,
      read_array_write records hr, if_pos hd]
  | cons c q =>
    left
    have hc : isBlank c = false := by
      have hhead := List.head?_dropWhile_not isBlank p
      rw [hrest] at hhead
      simpa using hhead
    -- the line opens an array of its own
    obtain rfl : c = '[' := by
      rw [← hsplit, hrest, opensArray, List.append_assoc, List.append_assoc,
        List.dropWhile_append_of_pos hb] at ho
      simpa [hc] using ho
    have hq : q.getLast? = some '\n' := by
      have hline : EndsLine ('[' :: q) := hp.of_suffix ⟨_, by rw [← hrest, hsplit]⟩
      rcases hline with hline | hline
      · cases hline
      · cases hlast : q.getLast? with
        | none => simp [List.getLast?_cons, hlast] at hline
        | some d => simpa [List.getLast?_cons, hlast] using hline
    have htext : p ++ (arrayOf records).write ++ w = p.takeWhile isBlank ++
        ('[' :: (q ++ '[' :: itemsText records) ++ [']']) ++ w := by
      conv_lhs => rw [← hsplit, hrest, write_array_of]
      simp
    rw [htext, trimmed_array hb hw]
    exact read_array_behind_line hq (balanced_items_text hr)

theorem find_some_of_agree {α β : Type} {f : α → Option β} {as : List α} {b : β}
    (hall : ∀ a ∈ as, f a = none ∨ f a = some b) (hex : ∃ a ∈ as, f a = some b) :
    as.findSome? f = some b := by
  obtain ⟨a, ha, hb⟩ := hex
  cases hfind : as.findSome? f with
  | none =>
    rw [List.findSome?_eq_none_iff.mp hfind a ha] at hb
    cases hb
  | some x =>
    obtain ⟨y, hy, hx⟩ := List.exists_of_findSome?_eq_some hfind
    rcases hall y hy with hn | hs
    · rw [hn] at hx
      cases hx
    · rw [← hx, hs]

theorem openings_append (cs ds : List Char) :
    openings (cs ++ ds) = ((cs :: afterBreaks cs).map (· ++ ds)).filter opensArray ++
      (afterBreaks ds).filter opensArray := by
  rw [openings, after_breaks_append, ← List.cons_append, List.filter_append]
  rfl

/-- The first array that is read gives the records. -/
theorem of_output_of_find {output : String} {records : List TestRecord}
    (h : (openings output.toList).findSome? (fun cs => readArray? (trimmed cs)) = some records) :
    ofOutput output = .ok records := by
  rw [ofOutput]
  cases hlast : (openings output.toList).getLast? with
  | none =>
    rw [List.getLast?_eq_none_iff.mp hlast] at h
    cases h
  | some last => simp only [h]

/-- The records are found behind any lines of noise and in front of any white space. -/
theorem of_output_behind_noise (records : List TestRecord) (hr : ∀ r ∈ records, r.Intact)
    (hd : (arrayOf records).depth ≤ Json.maxDepth) (noise tail : String)
    (hn : noise = "" ∨ noise.toList.getLast? = some '\n') (ht : Text.isBlankText tail = true) :
    ofOutput (noise ++ (arrayOf records).toText ++ tail) = .ok records := by
  have hw : ∀ c ∈ tail.toList, isBlank c = true := List.all_eq_true.mp ht
  have hn : EndsLine noise.toList := hn.imp_left fun h => by rw [h]; rfl
  have hout : (noise ++ (arrayOf records).toText ++ tail).toList =
      noise.toList ++ ((arrayOf records).write ++ tail.toList) := by
    simp [Json.Value.toText]
  apply of_output_of_find
  rw [hout, openings_append, List.findSome?_append]
  -- every line that starts in the noise gives the records or nothing, and the last gives them
  have hagree : ∀ cs ∈ ((noise.toList :: afterBreaks noise.toList).map
      (· ++ ((arrayOf records).write ++ tail.toList))).filter opensArray,
      readArray? (trimmed cs) = none ∨ readArray? (trimmed cs) = some records := by
    intro cs hcs
    obtain ⟨hmem, hopen⟩ := List.mem_filter.mp hcs
    obtain ⟨p, hp, rfl⟩ := List.mem_map.mp hmem
    have hline : EndsLine p := by
      rcases List.mem_cons.mp hp with rfl | hp
      · exact hn
      · exact hn.of_suffix (suffix_of_mem_after_breaks hp)
    rw [← List.append_assoc] at hopen ⊢
    exact read_behind_noise hr hd hline hw hopen
  have hread : readArray? (trimmed ((arrayOf records).write ++ tail.toList)) = some records := by
    rw [← List.nil_append (_ ++ _), ← List.append_assoc, write_array_of,
      trimmed_array (by simp) hw, ← write_array_of, read_array_write records hr, if_pos hd]
  have hopen : opensArray ((arrayOf records).write ++ tail.toList) = true := by
    simp [opensArray, write_array_of, show isBlank '[' = false by decide]
  have hbare : (arrayOf records).write ++ tail.toList ∈ ((noise.toList ::
      afterBreaks noise.toList).map (· ++ ((arrayOf records).write ++ tail.toList))).filter
        opensArray :=
    List.mem_filter.mpr ⟨List.mem_map.mpr ⟨[], nil_mem_starts hn, rfl⟩, hopen⟩
  rw [find_some_of_agree hagree ⟨_, hbare, hread⟩]
  rfl

theorem of_output_behind_half_open_line :
    ofOutput ("debug: 42\n[not json\n" ++ (arrayOf [answered 1 (.number (.int 3))]).toText ++
      "\n") = .ok [answered 1 (.number (.int 3))] := by
  refine of_output_behind_noise _ ?_ (by decide) _ _ (Or.inr (by decide)) (by decide)
  intro r hr
  rw [List.mem_singleton.mp hr]
  exact intact_answered (Json.Value.intact_int (by decide) (by decide))
    (Json.Value.intact_int (by decide) (by decide))

end CodeJudge.TestRecord
