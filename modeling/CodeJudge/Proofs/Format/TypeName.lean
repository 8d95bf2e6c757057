import CodeJudge.Format.TypeName
import CodeJudge.Proofs.Text.Lines
/-!
Type names. The shape of a name says nothing but a base type and perhaps an element, which is never
blank unless the name is. A list of names is cut again into the names, if each comma of a name
stands inside brackets.
-/
namespace CodeJudge

/-- Only the base type and perhaps the element of the shape are known. -/
structure FormatSpec.IsPlain (spec : FormatSpec) : Prop where
  strategyName : spec.strategyName = spec.baseType.defaultStrategy
  paramIndex : spec.paramIndex = none
  paramName : spec.paramName = none
  sample : spec.sample = none

/-- The element of the shape, if it is known, is not blank. -/
def FormatSpec.IsNamed (spec : FormatSpec) : Prop :=
  ∀ e ∈ spec.elementType, Text.isBlankText e = false

theorem FormatSpec.isPlain_of_base (b : BaseType) : (ofBaseType b).IsPlain := ⟨rfl, rfl, rfl, rfl⟩

theorem FormatSpec.isPlain_with_element {spec : FormatSpec} (h : spec.IsPlain) (e : String) :
    (spec.withElement e).IsPlain := ⟨h.strategyName, h.paramIndex, h.paramName, h.sample⟩

theorem FormatSpec.isNamed_of_base (b : BaseType) : (ofBaseType b).IsNamed := by
  intro e he
  cases he

theorem FormatSpec.isNamed_with_element {spec : FormatSpec} {e : String}
    (h : Text.isBlankText e = false) : (spec.withElement e).IsNamed := by
  intro d hd
  cases hd
  exact h

namespace TypeName

/-! The shape of a name. -/

theorem argument_visible {name : String} {cs inner : List Char}
    (h : argument? name cs = some inner) : Text.isBlankText (String.ofList inner) = false := by
  simp only [argument?, Option.bind_eq_bind, Option.bind_eq_some_iff,
    Option.ite_none_left_eq_some, Option.some.injEq] at h
  obtain ⟨rest, -, text, -, hne, rfl⟩ := h
  exact Text.not_blank_trimmed (by simpa using hne)

theorem sequence_argument_visible {cs inner : List Char}
    (h : sequenceArgument? cs = some inner) : Text.isBlankText (String.ofList inner) = false := by
  rw [sequenceArgument?] at h
  cases harray : argument? "array" cs with
  | none =>
    rw [harray] at h
    exact argument_visible h
  | some text =>
    rw [harray] at h
    cases h
    exact argument_visible harray

theorem of_lower_cases {cs : List Char} {spec : FormatSpec} (h : ofLower? cs = some spec) :
    ∃ b, spec = .ofBaseType b ∨
      ∃ e, Text.isBlankText e = false ∧ spec = (FormatSpec.ofBaseType b).withElement e := by
  have hscalars : ∀ s ∈ scalars, Text.isBlankText s = false := by decide
  unfold ofLower? at h
  dsimp only at h
  -- in the order in which a name is tried: scalars, plain shapes, matrices, then sequences
  split at h
  · next hs =>
    cases h
    exact ⟨.primitive, Or.inr ⟨_, hscalars _ (by simpa using hs), rfl⟩⟩
  · split at h
    · next b _ =>
      cases h
      exact ⟨b, Or.inl rfl⟩
    · split at h
      · next element he =>
        cases h
        exact ⟨.matrix, Or.inr ⟨_, argument_visible he, rfl⟩⟩
      · simp only [Option.bind_eq_bind, Option.bind_eq_some_iff] at h
        obtain ⟨inner, hinner, h⟩ := h
        split at h
        · next element he =>
          cases h
          exact ⟨.matrix, Or.inr ⟨_, sequence_argument_visible he, rfl⟩⟩
        · cases h
          exact ⟨.array, Or.inr ⟨_, sequence_argument_visible hinner, rfl⟩⟩

theorem isPlain_scalar (s : String) : (scalarSpec s).IsPlain :=
  FormatSpec.isPlain_with_element (FormatSpec.isPlain_of_base .primitive) _

theorem isNamed_scalar {s : String} (h : Text.isBlankText s = false) : (scalarSpec s).IsNamed :=
  FormatSpec.isNamed_with_element (Text.not_blank_trim h)

theorem isPlain_to_spec (s : String) : (toSpec s).IsPlain := by
  rw [toSpec]
  cases h : toSpec? s with
  | none => exact isPlain_scalar s
  | some spec =>
    obtain ⟨b, rfl | ⟨e, -, rfl⟩⟩ := of_lower_cases h
    · exact FormatSpec.isPlain_of_base b
    · exact FormatSpec.isPlain_with_element (FormatSpec.isPlain_of_base b) e

theorem isNamed_to_spec {s : String} (hs : Text.isBlankText s = false) : (toSpec s).IsNamed := by
  rw [toSpec]
  cases h : toSpec? s with
  | none => exact isNamed_scalar hs
  | some spec =>
    obtain ⟨b, rfl | ⟨e, he, rfl⟩⟩ := of_lower_cases h
    · exact FormatSpec.isNamed_of_base b
    · exact FormatSpec.isNamed_with_element he

/-! Lists of names. -/

/-- How many brackets the characters open, less those that they close. -/
def depth (cs : List Char) : Int :=
  (cs.count '<' + cs.count '[' : Nat) - (cs.count '>' + cs.count ']' : Nat)

theorem depth_nil : depth [] = 0 := rfl

theorem depth_comma : depth [','] = 0 := rfl

theorem depth_append (cs ds : List Char) : depth (cs ++ ds) = depth cs + depth ds := by
  simp only [depth, List.count_append]
  omega

theorem depth_cons (c : Char) (cs : List Char) : depth (c :: cs) = depth [c] + depth cs :=
  depth_append [c] cs

/-- Every comma stands inside brackets, and in the end all brackets are closed. -/
structure Nested (cs : List Char) : Prop where
  commas : ∀ front back, cs = front ++ ',' :: back → 0 < depth front
  closed : depth cs = 0

theorem nested_iff (cs : List Char) :
    Nested cs ↔
      (∀ i < cs.length, cs[i]? = some ',' → 0 < depth (cs.take i)) ∧ depth cs = 0 := by
  constructor
  · intro h
    refine ⟨?_, h.closed⟩
    intro i hi hcomma
    refine h.commas (cs.take i) (cs.drop (i + 1)) ?_
    rw [List.getElem?_eq_getElem hi, Option.some.injEq] at hcomma
    rw [← hcomma, ← List.drop_eq_getElem_cons, List.take_append_drop]
  · rintro ⟨hcommas, hclosed⟩
    refine ⟨?_, hclosed⟩
    rintro front back rfl
    have h := hcommas front.length (by simp) (by simp)
    rwa [List.take_left] at h

instance (cs : List Char) : Decidable (Nested cs) := decidable_of_iff' _ (nested_iff cs)

theorem Nested.space {cs : List Char} (h : Nested cs) : Nested (' ' :: cs) := by
  have hdepth (ds : List Char) : depth (' ' :: ds) = depth ds := by
    rw [depth_cons, show depth [' '] = 0 by decide, zero_add]
  refine ⟨?_, by rw [hdepth, h.closed]⟩
  intro front back heq
  cases front with
  | nil => cases heq
  | cons c front =>
    cases heq
    rw [hdepth]
    exact h.commas front back rfl

/-- The pieces between the commas outside all brackets, if the depth is counted without a bound. -/
def pieces : Int → List Char → List (List Char)
  | _, [] => [[]]
  | d, c :: cs =>
    if c = ',' ∧ d ≤ 0 then [] :: pieces d cs else (pieces (d + depth [c]) cs).modifyHead (c :: ·)

/-- The depth has 32 bits wherever in the text it is counted, from `d` on. -/
def DepthFits (d : Int) (cs : List Char) : Prop := ∀ front, front <+: cs → IsInt32 (d + depth front)

theorem DepthFits.start {d : Int} {cs : List Char} (h : DepthFits d cs) : IsInt32 d := by
  have hstart := h [] List.nil_prefix
  rwa [depth_nil, add_zero] at hstart

theorem depth_fits_nil {d : Int} : DepthFits d [] ↔ IsInt32 d := by
  refine ⟨DepthFits.start, ?_⟩
  intro hd front hfront
  rwa [List.prefix_nil.mp hfront, depth_nil, add_zero]

theorem depth_fits_cons {d : Int} {c : Char} {cs : List Char} :
    DepthFits d (c :: cs) ↔ IsInt32 d ∧ DepthFits (d + depth [c]) cs := by
  constructor
  · intro h
    refine ⟨h.start, ?_⟩
    intro front hfront
    rw [add_assoc, ← depth_cons]
    exact h (c :: front) ((List.prefix_cons_inj c).mpr hfront)
  · rintro ⟨hd, h⟩ front hfront
    rcases List.prefix_cons_iff.mp hfront with rfl | ⟨front, rfl, hrest⟩
    · rwa [depth_nil, add_zero]
    · rw [depth_cons, ← add_assoc]
      exact h front hrest

theorem depth_fits_append {d : Int} {cs ds : List Char} :
    DepthFits d (cs ++ ds) ↔ DepthFits d cs ∧ DepthFits (d + depth cs) ds := by
  induction cs generalizing d with
  | nil =>
    rw [List.nil_append, depth_nil, add_zero]
    exact ⟨fun h => ⟨depth_fits_nil.mpr h.start, h⟩, And.right⟩
  | cons c cs ih =>
    rw [List.cons_append, depth_fits_cons, depth_fits_cons, ih, depth_cons c cs, add_assoc,
      and_assoc]

theorem abs_depth_le (cs : List Char) : |depth cs| ≤ cs.length := by
  induction cs with
  | nil => rfl
  | cons c cs ih =>
    have hc : |depth [c]| ≤ 1 := by
      by_cases hopen : c = '<' ∨ c = '['
      · rcases hopen with rfl | rfl <;> decide
      by_cases hclose : c = '>' ∨ c = ']'
      · rcases hclose with rfl | rfl <;> decide
      push Not at hopen hclose
      simp [depth, hopen, hclose]
    have hsum := abs_add_le (depth [c]) (depth cs)
    rw [depth_cons, List.length_cons, Nat.cast_succ]
    omega

/-- The depth of a text with fewer than 2³¹ characters is counted to the end. -/
theorem depth_fits_of_length {cs : List Char} (h : cs.length < 0x80000000) : DepthFits 0 cs := by
  intro front hfront
  have hlength := hfront.length_le
  have hdepth := abs_le.mp (abs_depth_le front)
  rw [IsInt32, zero_add]
  omega

theorem depth_behind_eq {d : Int} (hd : IsInt32 d) (c : Char) :
    depthBehind d c = addInt32 d (depth [c]) := by
  by_cases hopen : c = '<' ∨ c = '['
  · rcases hopen with rfl | rfl <;> rfl
  by_cases hclose : c = '>' ∨ c = ']'
  · rcases hclose with rfl | rfl <;> rfl
  push Not at hopen hclose
  have hdepth : depth [c] = 0 := by simp [depth, hopen, hclose]
  rw [hdepth, addInt32_of_fits (by rwa [add_zero]), add_zero]
  simp [depthBehind, hopen, hclose]

/-! One character of a list of names. -/

theorem cut_top_level_comma {d : Int} (hd : d ≤ 0) (cs : List Char) :
    cutTopLevel d (',' :: cs) = (cutTopLevel d cs).map ([] :: ·) := by
  rw [cutTopLevel, if_pos (by simpa using hd)]

theorem cut_top_level_cons {d : Int} {c : Char} (hin : IsInt32 d) (hc : ¬ (c = ',' ∧ d ≤ 0))
    (hd : IsInt32 (d + depth [c])) (cs : List Char) :
    cutTopLevel d (c :: cs) = (cutTopLevel (d + depth [c]) cs).map (List.modifyHead (c :: ·)) := by
  rw [cutTopLevel, if_neg (by simpa using hc), depth_behind_eq hin, addInt32_of_fits hd]
  rfl

theorem cut_top_level_too_deep {d : Int} {c : Char} (hin : IsInt32 d) (hc : ¬ (c = ',' ∧ d ≤ 0))
    (hd : ¬ IsInt32 (d + depth [c])) (cs : List Char) :
    cutTopLevel d (c :: cs) = .error .int32 := by
  rw [cutTopLevel, if_neg (by simpa using hc), depth_behind_eq hin, addInt32_of_not_fits hd]
  rfl

/-- While the depth can be counted, a text is cut as if it were counted without a bound. -/
theorem cut_top_level_of_fits {d : Int} {cs : List Char} (h : DepthFits d cs) :
    cutTopLevel d cs = .ok (pieces d cs) := by
  induction cs generalizing d with
  | nil => rfl
  | cons c cs ih =>
    obtain ⟨hin, hrest⟩ := depth_fits_cons.mp h
    rw [pieces]
    -- a comma outside of all brackets ends a piece and leaves the depth as it is
    by_cases hc : c = ',' ∧ d ≤ 0
    · obtain ⟨rfl, hd⟩ := hc
      rw [depth_comma, add_zero] at hrest
      rw [cut_top_level_comma hd, ih hrest, if_pos ⟨rfl, hd⟩]
      rfl
    · rw [cut_top_level_cons hin hc hrest.start, ih hrest, if_neg hc]
      rfl

theorem cut_top_level_of_not_fits {d : Int} {cs : List Char} (hin : IsInt32 d)
    (h : ¬ DepthFits d cs) : cutTopLevel d cs = .error .int32 := by
  induction cs generalizing d with
  | nil => exact absurd (depth_fits_nil.mpr hin) h
  | cons c cs ih =>
    have hrest : ¬ DepthFits (d + depth [c]) cs := fun hrest => h (depth_fits_cons.mpr ⟨hin, hrest⟩)
    by_cases hc : c = ',' ∧ d ≤ 0
    · obtain ⟨rfl, hd⟩ := hc
      rw [depth_comma, add_zero] at hrest
      rw [cut_top_level_comma hd, ih hin hrest]
      rfl
    -- the sum that does not fit is the one behind this character, or it comes further on
    · by_cases hd : IsInt32 (d + depth [c])
      · rw [cut_top_level_cons hin hc hd, ih hd hrest]
        rfl
      · exact cut_top_level_too_deep hin hc hd cs

/-- The names in a list, if the depth is counted without a bound. -/
def listed (s : String) : List String := namesIn (pieces 0 s.toList)

theorem split_top_level_of_fits {s : String} (h : DepthFits 0 s.toList) :
    splitTopLevel s = .ok (listed s) := by
  rw [splitTopLevel, cut_top_level_of_fits h]
  rfl

theorem split_top_level_of_not_fits {s : String} (h : ¬ DepthFits 0 s.toList) :
    splitTopLevel s = .error .int32 := by
  rw [splitTopLevel, cut_top_level_of_not_fits (by decide) h]
  rfl

theorem split_top_level_eq_ok_iff {s : String} {names : List String} :
    splitTopLevel s = .ok names ↔ DepthFits 0 s.toList ∧ names = listed s := by
  by_cases h : DepthFits 0 s.toList
  · simp [split_top_level_of_fits h, h, eq_comm]
  · simp [split_top_level_of_not_fits h, h]

/-! Lists of names, cut again. -/

theorem pieces_append (cs rest : List Char) (d : Int)
    (h : ∀ front back, cs = front ++ ',' :: back → 0 < d + depth front) :
    pieces d (cs ++ rest) = (pieces (d + depth cs) rest).modifyHead (cs ++ ·) := by
  induction cs generalizing d with
  | nil =>
    rw [depth_nil, add_zero, List.nil_append]
    cases pieces d rest <;> rfl
  | cons c cs ih =>
    -- a comma in front has nothing before it, so the depth is positive by assumption
    have hcomma : ¬ (c = ',' ∧ d ≤ 0) := by
      rintro ⟨rfl, hle⟩
      have hd := h [] cs rfl
      rw [depth_nil] at hd
      omega
    -- the rest is read at the depth to which the first character leads
    have hfront : ∀ front back, cs = front ++ ',' :: back → 0 < d + depth [c] + depth front := by
      intro front back heq
      have hd := h (c :: front) back (by rw [heq, List.cons_append])
      rw [depth_cons] at hd
      omega
    have hrest := ih (d + depth [c]) hfront
    rw [List.cons_append, pieces, if_neg hcomma, depth_cons c cs, ← add_assoc, hrest,
      List.modifyHead_modifyHead]
    rfl

theorem pieces_intercalate (p : List Char) (ps : List (List Char))
    (h : ∀ q ∈ p :: ps, Nested q) :
    pieces 0 (List.intercalate [','] (p :: ps)) = p :: ps := by
  induction ps generalizing p with
  | nil =>
    have hp : Nested p := h p (by simp)
    have hcut := pieces_append p [] 0 (by simpa using hp.commas)
    rw [List.append_nil] at hcut
    simp [List.intercalate_singleton, hcut, pieces]
  | cons q ps ih =>
    have hp : Nested p := h p (by simp)
    have hrest := ih q fun r hr => h r (List.mem_cons_of_mem p hr)
    have hcomma (cs : List Char) : pieces 0 (',' :: cs) = [] :: pieces 0 cs := rfl
    -- the part ends at depth zero, so the comma behind it cuts
    rw [List.intercalate_cons_cons, List.append_assoc,
      pieces_append p _ 0 (by simpa using hp.commas), hp.closed, add_zero,
      List.singleton_append, hcomma, hrest]
    simp

theorem depth_fits_intercalate {p : List Char} {ps : List (List Char)}
    (hnested : ∀ q ∈ p :: ps, Nested q) (h : ∀ q ∈ p :: ps, DepthFits 0 q) :
    DepthFits 0 (List.intercalate [','] (p :: ps)) := by
  induction ps generalizing p with
  | nil =>
    rw [List.intercalate_singleton]
    exact h p List.mem_cons_self
  | cons q ps ih =>
    have hrest := ih (fun r hr => hnested r (List.mem_cons_of_mem p hr))
      fun r hr => h r (List.mem_cons_of_mem p hr)
    -- every part ends where no bracket is open
    have hclosed : depth p = 0 := (hnested p List.mem_cons_self).closed
    rw [List.intercalate_cons_cons, List.append_assoc, depth_fits_append, hclosed, add_zero,
      List.singleton_append, depth_fits_cons]
    exact ⟨h p List.mem_cons_self, by decide, hrest⟩

theorem to_list_join (name : String) (names : List String) :
    (String.intercalate ", " (name :: names)).toList =
      List.intercalate [','] (name.toList :: names.map fun n => ' ' :: n.toList) := by
  induction names generalizing name with
  | nil => simp [List.intercalate_singleton]
  | cons n names ih =>
    rw [String.intercalate_cons_of_ne_nil (by simp), String.toList_append, String.toList_append, ih]
    cases names with
    | nil => simp [List.intercalate_singleton, List.intercalate_cons_cons]
    | cons m names => simp [List.intercalate_cons_cons]

/-- A name that may stand in a list of names: it begins with a letter, is no word of JSON, has no
white space around it, and only brackets hide its commas. -/
structure Listable (name : String) : Prop where
  letter : ∃ c cs, name.toList = c :: cs ∧ c.isAlpha = true
  word : name ∉ ["null", "true", "false"]
  trimmed : Text.trim name = name
  nested : Nested name.toList

theorem listable_iff (name : String) :
    Listable name ↔ name.toList.head?.any Char.isAlpha = true ∧
      name ∉ ["null", "true", "false"] ∧ Text.trim name = name ∧ Nested name.toList := by
  have hletter : name.toList.head?.any Char.isAlpha = true ↔
      ∃ c cs, name.toList = c :: cs ∧ c.isAlpha = true := by
    cases name.toList <;> simp
  rw [hletter]
  exact ⟨fun h => ⟨h.letter, h.word, h.trimmed, h.nested⟩, fun h => ⟨h.1, h.2.1, h.2.2.1, h.2.2.2⟩⟩

instance (name : String) : Decidable (Listable name) := decidable_of_iff' _ (listable_iff name)

namespace Listable

theorem trimmed_chars {name : String} (h : Listable name) :
    Text.trimmed name.toList = name.toList := by
  conv => rhs; rw [← h.trimmed, Text.trim, String.toList_ofList]

theorem trimmed_space {name : String} (h : Listable name) :
    Text.trimmed (' ' :: name.toList) = name.toList := by
  rw [Text.trimmed, Text.dropBothWhile, List.dropWhile_cons_of_pos Text.isBlank_space]
  exact h.trimmed_chars

end Listable

theorem nested_of_listable {name : String} {names : List String}
    (h : ∀ n ∈ name :: names, Listable n) :
    ∀ cs ∈ name.toList :: names.map (fun n => ' ' :: n.toList), Nested cs := by
  intro cs hcs
  rcases List.mem_cons.mp hcs with rfl | hcs
  · exact (h name (by simp)).nested
  · obtain ⟨n, hn, rfl⟩ := List.mem_map.mp hcs
    exact (h n (by simp [hn])).nested.space

/-- The brackets of the names are as deep in a list as in each name. -/
theorem depth_fits_join {names : List String} (h : ∀ n ∈ names, Listable n)
    (hfits : ∀ n ∈ names, DepthFits 0 n.toList) :
    DepthFits 0 (String.intercalate ", " names).toList := by
  have hspace {cs : List Char} (h : DepthFits 0 cs) : DepthFits 0 (' ' :: cs) :=
    depth_fits_cons.mpr ⟨by decide, h⟩
  cases names with
  | nil => exact depth_fits_of_length (by decide)
  | cons name names =>
    rw [to_list_join]
    apply depth_fits_intercalate
    · exact nested_of_listable h
    · intro cs hcs
      rcases List.mem_cons.mp hcs with rfl | hcs
      · exact hfits name List.mem_cons_self
      · obtain ⟨n, hn, rfl⟩ := List.mem_map.mp hcs
        exact hspace (hfits n (List.mem_cons_of_mem name hn))

theorem listed_join (names : List String) (h : ∀ n ∈ names, Listable n) :
    listed (String.intercalate ", " names) = names := by
  cases names with
  | nil => rfl
  | cons name names =>
    -- trimming takes away the spaces that the separators leave
    have htrimmed : (name.toList :: names.map fun n => ' ' :: n.toList).map Text.trimmed =
        (name :: names).map String.toList := by
      rw [List.map_cons, List.map_cons, (h name (by simp)).trimmed_chars, List.map_map]
      congr 1
      exact List.map_congr_left fun n hn => (h n (by simp [hn])).trimmed_space
    have hkept : ((name :: names).map String.toList).filter (fun p => !p.isEmpty) =
        (name :: names).map String.toList := by
      refine List.filter_eq_self.mpr ?_
      intro cs hcs
      obtain ⟨n, hn, rfl⟩ := List.mem_map.mp hcs
      obtain ⟨c, ds, hds, -⟩ := (h n hn).letter
      rw [hds]
      rfl
    rw [listed, to_list_join, pieces_intercalate _ _ (nested_of_listable h), namesIn, htrimmed,
      hkept, List.map_map]
    simp [Function.comp_def]

end TypeName

end CodeJudge
