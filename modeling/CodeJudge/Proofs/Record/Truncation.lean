import CodeJudge.Proofs.Record.Output
/-!
Records of a program that was stopped. The text of an array that was cut off is closed behind its
last brace. That is the end of the last complete record unless the part that is left of the next
record holds a brace too, in a string or around data; then nothing is read at all.
-/
namespace CodeJudge.TestRecord

open Text (isBlank trimmed)

/-- The text of the array of records up to its closing bracket. -/
def openText (records : List TestRecord) : List Char := '[' :: itemsText records

/-- The greatest number of leading records whose text lies completely in a text. -/
def completeCount (records : List TestRecord) (cut : List Char) : Nat :=
  Nat.findGreatest (fun n => openText (records.take n) <+: cut) records.length

/-- The leading records whose text lies completely in a text that was cut off. -/
def completeIn (records : List TestRecord) (cut : List Char) : List TestRecord :=
  records.take (completeCount records cut)

/-- What is left behind the last complete record. -/
def remainder (records : List TestRecord) (cut : List Char) : List Char :=
  cut.drop (openText (completeIn records cut)).length

theorem open_text_concat (records : List TestRecord) (r : TestRecord) :
    openText (records ++ [r]) = openText records ++ (Json.separator records ++ r.toJson.write) := by
  have hs : Json.separator (records.map toJson) = Json.separator records := by
    cases records <;> rfl
  rw [openText, itemsText, List.map_append, List.map_singleton, Json.write_items_concat, hs]
  rfl

theorem open_text_append (records more : List TestRecord) :
    openText records <+: openText (records ++ more) := by
  induction more generalizing records with
  | nil => simp
  | cons r more ih =>
    rw [List.append_cons]
    exact (open_text_concat records r ▸ List.prefix_append _ _).trans (ih (records ++ [r]))

theorem write_record (r : TestRecord) :
    r.toJson.write = '\x7b' :: Json.Value.writeMembers r.members ++ ['\x7d'] := rfl

theorem balanced_members {r : TestRecord} (h : r.Intact) :
    Json.Balanced (Json.Value.writeMembers r.members) := by
  refine Json.balanced_write_members ?_
  exact (Json.Value.survives_members_iff _).mp (survives_to_json r h)

theorem complete_subset {records : List TestRecord} (cut : List Char)
    (h : ∀ r ∈ records, r.Intact) : ∀ r ∈ completeIn records cut, r.Intact := by
  intro r hr
  exact h r (List.mem_of_mem_take hr)

theorem open_text_complete (records : List TestRecord) {cut : List Char} (h : ['['] <+: cut) :
    openText (completeIn records cut) <+: cut :=
  Nat.findGreatest_spec (P := fun n => openText (records.take n) <+: cut) (Nat.zero_le _) h

theorem not_open_text_next {records : List TestRecord} {cut : List Char}
    (h : completeCount records cut < records.length) :
    ¬ openText (records.take (completeCount records cut + 1)) <+: cut :=
  Nat.findGreatest_is_greatest (Nat.lt_add_one _) h

/-- A text with the opening bracket consists of its complete records and the remainder. -/
theorem complete_append_remainder (records : List TestRecord) {cut : List Char}
    (h : ['['] <+: cut) : openText (completeIn records cut) ++ remainder records cut = cut :=
  List.prefix_append_drop (open_text_complete records h) |>.symm

/-- The remainder of a text that was cut off is a part of the text of one record without its
closing brace, with the comma in front of it. -/
theorem remainder_prefix (records : List TestRecord) {cut : List Char} (h : ['['] <+: cut)
    (hcut : cut <+: openText records) : remainder records cut = [] ∨ ∃ r ∈ records,
      remainder records cut <+: Json.separator (completeIn records cut) ++
        '\x7b' :: Json.Value.writeMembers r.members := by
  have happ := complete_append_remainder records h
  rcases Nat.lt_or_ge (completeCount records cut) records.length with hlt | hge
  · right
    refine ⟨records[completeCount records cut], List.getElem_mem hlt, ?_⟩
    -- the record behind the complete ones is not complete
    have hnext : records.take (completeCount records cut + 1) =
        completeIn records cut ++ [records[completeCount records cut]] := by
      rw [completeIn, List.take_append_getElem]
    have hnot := not_open_text_next hlt
    have hfull : openText (records.take (completeCount records cut + 1)) <+: openText records := by
      have happ := open_text_append (records.take (completeCount records cut + 1))
        (records.drop (completeCount records cut + 1))
      rwa [List.take_append_drop] at happ
    have hpart : cut <+: openText (records.take (completeCount records cut + 1)) :=
      (List.prefix_or_prefix_of_prefix hfull hcut).resolve_left hnot
    rw [hnext, open_text_concat, write_record] at hpart hnot
    rw [← List.append_assoc (Json.separator _)] at hpart hnot
    have hrest {next : List Char} (hn : cut <+: openText (completeIn records cut) ++ next) :
        remainder records cut <+: next := by
      rw [← List.prefix_append_right_inj (openText (completeIn records cut)), happ]
      exact hn
    refine (List.prefix_concat_iff.mp (hrest hpart)).resolve_left fun heq => hnot ?_
    rw [← heq, happ]
  · left
    have hall : completeIn records cut = records := List.take_of_length_le hge
    rw [hall] at happ
    have hlen := hcut.length_le
    rw [← happ, List.length_append] at hlen
    exact List.eq_nil_of_length_eq_zero (by omega)

/-! Closing a text. -/

theorem exists_last_brace {cs : List Char} (h : '\x7d' ∈ cs) :
    ∃ a b, cs = a ++ '\x7d' :: b ∧ '\x7d' ∉ b := by
  obtain ⟨b, a, hcs, hb⟩ := List.eq_append_cons_of_mem (List.mem_reverse.mpr h)
  refine ⟨a.reverse, b.reverse, ?_, by simpa using hb⟩
  rw [← List.reverse_reverse cs, hcs]
  simp

theorem close_array_of_not_mem {cs : List Char} (h : '\x7d' ∉ cs) :
    closeArray cs = ['[', ']'] := by
  have hdrop : cs.reverse.dropWhile (· != '\x7d') = [] := by
    refine List.dropWhile_eq_nil_iff.mpr ?_
    intro c hc
    rw [bne_iff_ne]
    rintro rfl
    exact h (List.mem_reverse.mp hc)
  rw [closeArray, hdrop]

/-- A text is closed behind its last brace. -/
theorem close_array_append {b : List Char} (a : List Char) (h : '\x7d' ∉ b) :
    closeArray (a ++ '\x7d' :: b) = a ++ ['\x7d', ']'] := by
  have hb : ∀ c ∈ b.reverse, (c != '\x7d') = true := by
    intro c hc
    rw [bne_iff_ne]
    rintro rfl
    exact h (List.mem_reverse.mp hc)
  have hdrop : (a ++ '\x7d' :: b).reverse.dropWhile (· != '\x7d') = '\x7d' :: a.reverse := by
    rw [List.reverse_append, List.reverse_cons, List.append_assoc,
      List.dropWhile_append_of_pos hb]
    simp
  rw [closeArray, hdrop]
  simp

/-- White space at the end plays no part in closing a text. -/
theorem close_array_append_blank (cs : List Char) {w : List Char}
    (hw : ∀ c ∈ w, isBlank c = true) : closeArray (cs ++ w) = closeArray cs := by
  have hw : '\x7d' ∉ w := fun hmem => absurd (hw _ hmem) (by decide)
  by_cases h : '\x7d' ∈ cs
  · obtain ⟨a, b, rfl, hb⟩ := exists_last_brace h
    rw [List.append_assoc, List.cons_append, close_array_append a (by simp [hb, hw]),
      close_array_append a hb]
  · rw [close_array_of_not_mem h, close_array_of_not_mem (by simp [h, hw])]

/-- The text behind which a text with records is closed ends the last of them. -/
theorem close_array_open_text (records : List TestRecord) {b : List Char} (h : '\x7d' ∉ b) :
    closeArray (openText records ++ b) = (arrayOf records).write := by
  rcases List.eq_nil_or_concat records with rfl | ⟨front, r, rfl⟩
  · exact close_array_of_not_mem (by simp [openText, itemsText, Json.Value.writeItems, h])
  · have hopen : openText (front ++ [r]) = openText front ++ (Json.separator front ++
        '\x7b' :: Json.Value.writeMembers r.members) ++ ['\x7d'] := by
      rw [open_text_concat, write_record]
      simp
    rw [List.concat_eq_append, hopen, List.append_assoc, List.singleton_append,
      close_array_append _ h, write_array_of]
    have hitems : '[' :: itemsText (front ++ [r]) = _ := hopen
    rw [hitems]
    simp

/-- When a brace is left of the record that was cut, the closed text is no array. -/
theorem read_close_array_remainder {records : List TestRecord} (hr : ∀ r ∈ records, r.Intact)
    {r : TestRecord} (hi : r.Intact) {b : List Char}
    (hb : b <+: Json.separator records ++ '\x7b' :: Json.Value.writeMembers r.members)
    (hmem : '\x7d' ∈ b) : readArray? (closeArray (openText records ++ b)) = none := by
  obtain ⟨a, d, rfl, hd⟩ := exists_last_brace hmem
  -- the part up to the last brace opens the object of the record and lies in its members
  obtain ⟨inner, ha, hinner⟩ : ∃ inner, a ++ ['\x7d'] = Json.separator records ++
      '\x7b' :: inner ∧ inner <+: Json.Value.writeMembers r.members := by
    have hpart : a ++ ['\x7d'] <+: (Json.separator records ++ ['\x7b']) ++
        Json.Value.writeMembers r.members := by
      refine List.IsPrefix.trans ⟨d, ?_⟩ (hb.trans ?_)
      · simp
      · simp
    rcases List.prefix_or_prefix_of_prefix hpart (List.prefix_append _ _) with hlt | ⟨inner, hge⟩
    · have hno : '\x7d' ∉ Json.separator records ++ ['\x7b'] := by
        cases records <;> simp [Json.separator]
      exact absurd (hlt.subset (by simp)) hno
    · refine ⟨inner, by simp [← hge], ?_⟩
      rw [← hge] at hpart
      exact (List.prefix_append_right_inj _).mp hpart
  have hclosed : closeArray (openText records ++ (a ++ '\x7d' :: d)) =
      '[' :: (itemsText records ++ Json.separator records ++ '\x7b' :: inner) ++ [']'] := by
    rw [← List.append_assoc, close_array_append _ hd, openText]
    have hsplit : a ++ ['\x7d', ']'] = (a ++ ['\x7d']) ++ [']'] := by simp
    rw [List.append_assoc, hsplit, ha]
    simp
  have hsep : Json.Balanced (Json.separator records) := by
    cases records with
    | nil => exact Json.Balanced.nil
    | cons _ _ => exact @Json.balanced_of_neutral [','] (List.all_eq_true.mp (by decide))
  obtain ⟨y, hy⟩ := hinner
  have hbal := balanced_members hi
  rw [← hy] at hbal
  obtain ⟨m, hm, -⟩ := Json.Standing.scan_append_eq_some hbal
  rw [hclosed]
  exact read_array_eq_none
    (Json.Balanced.not_open (Or.inr rfl) ((balanced_items_text hr).append hsep) ⟨m, hm⟩)

/-! Reading what is left. -/

/-- An array that is cut off before its closing bracket is not read. -/
theorem read_array_of_cut {records : List TestRecord} (hr : ∀ r ∈ records, r.Intact)
    {cs : List Char} (h : '[' :: cs <+: openText records) : readArray? ('[' :: cs) = none := by
  by_contra hsome
  obtain ⟨found, hread⟩ := Option.ne_none_iff_exists'.mp hsome
  obtain ⟨v, hv, -⟩ := Option.bind_eq_some_iff.mp hread
  obtain ⟨w, rest, hw, rfl, -⟩ := Json.read_document_array hv
  obtain ⟨y, hy⟩ := (List.cons_prefix_cons.mp h).2
  have hbal := balanced_items_text hr
  rw [← hy, List.append_assoc, List.cons_append] at hbal
  exact hw.not_close hbal

theorem trimmed_of_bracket (cs : List Char) :
    ∃ ds w, (∀ c ∈ w, isBlank c = true) ∧ cs = ds ++ w ∧ trimmed ('[' :: cs) = '[' :: ds := by
  obtain ⟨w, hw, hcs⟩ := Text.drop_end_while_append isBlank ('[' :: cs)
  have htrim : trimmed ('[' :: cs) = Text.dropEndWhile isBlank ('[' :: cs) := by
    rw [trimmed, Text.dropBothWhile, Text.drop_while_of_head (by simp; decide)]
  cases hds : Text.dropEndWhile isBlank ('[' :: cs) with
  | nil =>
    rw [hds, List.nil_append] at hcs
    exact absurd (hw '[' (by simp [← hcs])) (by decide)
  | cons d ds =>
    rw [hds, List.cons_append, List.cons.injEq] at hcs
    obtain ⟨rfl, hcs⟩ := hcs
    exact ⟨ds, w, hw, hcs, htrim.trans hds⟩

theorem of_output_eq_of_cut {records : List TestRecord} (hr : ∀ r ∈ records, r.Intact)
    {cs : List Char} (h : '[' :: cs <+: openText records) :
    ofOutput (String.ofList ('[' :: cs)) =
      (readArray? (closeArray ('[' :: cs))).elim (.error .malformed) .ok := by
  have hline : '\n' ∉ '[' :: cs := by
    have hprint := (Json.printable_write (survives_array_of records hr)).not_newline
    rw [write_array_of] at hprint
    intro hmem
    exact hprint (List.mem_append_left _ (h.subset hmem))
  have hstarts : openings ('[' :: cs) = ['[' :: cs] := by
    rw [openings, after_breaks_of_not_mem hline, List.filter_singleton]
    simp [opensArray, show isBlank '[' = false by decide]
  obtain ⟨ds, w, hw, rfl, htrim⟩ := trimmed_of_bracket cs
  have hcut : '[' :: ds <+: openText records :=
    List.IsPrefix.trans ⟨w, by simp⟩ h
  have hclose := close_array_append_blank ('[' :: ds) hw
  rw [List.cons_append] at hclose
  rw [ofOutput, String.toList_ofList, hstarts]
  simp only [List.getLast?_singleton, List.findSome?_singleton, htrim, read_array_of_cut hr hcut,
    hclose]
  cases readArray? (closeArray ('[' :: ds)) <;> rfl

/-- From an array that was cut off its complete records are read if no brace is left behind them
and they have not too many levels, and else nothing. -/
theorem of_output_cut (records : List TestRecord) (hr : ∀ r ∈ records, r.Intact)
    (cut : List Char) (hne : cut ≠ []) (hcut : cut <+: (arrayOf records).write)
    (hproper : cut ≠ (arrayOf records).write) :
    ofOutput (String.ofList cut) =
      if '\x7d' ∉ remainder records cut ∧
          (arrayOf (completeIn records cut)).depth ≤ Json.maxDepth
      then .ok (completeIn records cut) else .error .malformed := by
  have hopen : cut <+: openText records :=
    (List.prefix_concat_iff.mp hcut).resolve_left hproper
  obtain ⟨cs, rfl⟩ : ∃ cs, cut = '[' :: cs := by
    cases cut with
    | nil => exact absurd rfl hne
    | cons c cs =>
      rw [(List.cons_prefix_cons.mp hopen).1]
      exact ⟨cs, rfl⟩
  have hbracket : ['['] <+: '[' :: cs := by simp
  have hcomplete := complete_subset ('[' :: cs) hr
  have hparts := complete_append_remainder records hbracket
  rw [of_output_eq_of_cut hr hopen]
  by_cases hbrace : '\x7d' ∈ remainder records ('[' :: cs)
  · -- the array is closed inside of the record that was cut
    rcases remainder_prefix records hbracket hopen with hnil | ⟨r, hmem, hrest⟩
    · rw [hnil] at hbrace
      cases hbrace
    · have hnone := read_close_array_remainder hcomplete (hr r hmem) hrest hbrace
      rw [hparts] at hnone
      rw [hnone, Option.elim_none, if_neg fun h => h.1 hbrace]
  · -- the last brace is that of the last complete record
    have hclosed := close_array_open_text (completeIn records ('[' :: cs)) hbrace
    rw [hparts] at hclosed
    rw [hclosed, read_array_write _ hcomplete]
    by_cases hd : (arrayOf (completeIn records ('[' :: cs))).depth ≤ Json.maxDepth
    · rw [if_pos hd, if_pos ⟨hbrace, hd⟩, Option.elim_some]
    · rw [if_neg hd, if_neg fun h => hd h.2, Option.elim_none]

/-- Two records, the second one with an object for an answer. -/
def answeredTwice : List TestRecord :=
  [answered 1 (.number (.int 3)), answered 2 (.object [("a", .number (.int 1))])]

theorem intact_answered_twice : ∀ r ∈ answeredTwice, r.Intact := by
  have hint (i : Int) (hrange : Json.Number.InRange i) (hs : (Json.Number.int i).Survives) :=
    Json.Value.intact_int hrange hs
  have hone := hint 1 (by decide) (by decide)
  have hobject : (Json.Value.object [("a", .number (.int 1))]).Intact :=
    ⟨⟨List.pairwise_singleton .., hone.1, trivial⟩, hone.2, trivial⟩
  intro r hr
  rcases List.mem_cons.mp hr with rfl | hr
  · exact intact_answered hone (hint 3 (by decide) (by decide))
  · rw [List.mem_singleton.mp hr]
    exact intact_answered (hint 2 (by decide) (by decide)) hobject

/-- Cut off in the name of its third member, the second record is left out. -/
theorem of_output_cut_in_name : ofOutput (String.ofList ((openText answeredTwice).take 150)) =
    .ok (answeredTwice.take 1) := by
  rw [of_output_cut answeredTwice intact_answered_twice _ (by decide) (by decide)
    (by decide), if_pos ⟨by decide, by decide⟩, completeIn,
    show completeCount answeredTwice ((openText answeredTwice).take 150) = 1 by decide]

/-- Cut off behind the object in it, the second record keeps the first one from being read. -/
theorem of_output_cut_behind_object :
    completeIn answeredTwice ((openText answeredTwice).take 165) = answeredTwice.take 1 ∧
      ofOutput (String.ofList ((openText answeredTwice).take 165)) = .error .malformed := by
  refine ⟨?_, ?_⟩
  · rw [completeIn,
      show completeCount answeredTwice ((openText answeredTwice).take 165) = 1 by decide]
  · have htake : (openText answeredTwice).take 165 =
        '[' :: (itemsText answeredTwice).take 164 := rfl
    have hread := of_output_eq_of_cut intact_answered_twice
      (htake ▸ List.take_prefix 165 (openText answeredTwice))
    have hparts : '[' :: (itemsText answeredTwice).take 164 = openText (answeredTwice.take 1) ++
        ((itemsText answeredTwice).take 164).drop 104 := by decide +kernel
    have hfirst : ∀ r ∈ answeredTwice.take 1, r.Intact := fun r hr =>
      intact_answered_twice r (List.mem_of_mem_take hr)
    have hsecond : answeredTwice[1].Intact := intact_answered_twice _ (List.getElem_mem _)
    have hpart : ((itemsText answeredTwice).take 164).drop 104 <+:
        Json.separator (answeredTwice.take 1) ++
          '\x7b' :: Json.Value.writeMembers answeredTwice[1].members := by decide
    have hnone := read_close_array_remainder hfirst hsecond hpart (by decide)
    rw [htake, hread, hparts, hnone, Option.elim_none]

end CodeJudge.TestRecord
