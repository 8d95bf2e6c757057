import CodeJudge.Proofs.Json.Decoding
import CodeJudge.Proofs.Problem.Places
import Mathlib.Data.List.Sort
import Mathlib.Tactic
/-!
Structured descriptions of inputs. A list of described shapes gives inputs if and only if the places
that the shapes say, or else have, are those from zero on, each taken once. Then each shape is found
at its place, so of shapes that all say their places the order does not matter.
-/
namespace CodeJudge

/-- The value describes the shape: it holds the fields of a shape, with a known base type. -/
def FormatSpec.IsDescribed (shape : FormatSpec) (v : Json.Value) : Prop :=
  ∃ fields b, Described.ofJson v = .ok fields ∧ BaseType.ofName? fields.baseTypeName = some b ∧
    shape = fields.toSpec b

theorem FormatSpec.is_described_iff (shape : FormatSpec) (v : Json.Value) :
    shape.IsDescribed v ↔ ofDescribed v = .ok shape := by
  rw [IsDescribed, ofDescribed]
  cases Described.ofJson v with
  | error e => simp
  | ok fields =>
    cases hb : BaseType.ofName? fields.baseTypeName with
    | none => simp [hb]
    | some b => simp [hb, eq_comm]

/-- The places of shapes: for each the one that it says, or else the one where it stands. -/
def places (shapes : List FormatSpec) : List Nat :=
  shapes.mapIdx fun i shape => shape.paramIndex.getD i

/-- The description is a list of items that describe shapes, and the places of these are the ones
from zero on, each taken once. -/
structure Description.Lists (d : Description) (items : List Json.Value)
    (shapes : List FormatSpec) : Prop where
  decode_eq : d.decodeStrict? = some (.array items)
  described : List.Forall₂ (fun v shape => shape.IsDescribed v) items shapes
  places_perm : (places shapes).Perm (List.range items.length)

/-! Sorting by place. -/

theorem insert_by_place_perm (spec : FormatSpec) (specs : List FormatSpec) :
    (insertByPlace spec specs).Perm (spec :: specs) := by
  induction specs with
  | nil => exact List.Perm.refl _
  | cons other specs ih =>
    rw [insertByPlace]
    split_ifs
    · exact List.Perm.refl _
    · calc
        (other :: insertByPlace spec specs).Perm (other :: spec :: specs) := ih.cons other
        List.Perm _ (spec :: other :: specs) := List.Perm.swap _ _ _

theorem sort_by_place_perm (specs : List FormatSpec) : (sortByPlace specs).Perm specs := by
  have go (done rest : List FormatSpec) :
      (rest.foldl (fun done spec => insertByPlace spec done) done).Perm (done ++ rest) := by
    induction rest generalizing done with
    | nil => rw [List.append_nil, List.foldl_nil]
    | cons spec rest ih =>
      rw [List.foldl_cons]
      calc
        (rest.foldl _ (insertByPlace spec done)).Perm (insertByPlace spec done ++ rest) := ih _
        List.Perm _ (spec :: done ++ rest) := (insert_by_place_perm spec done).append_right rest
        List.Perm _ (done ++ spec :: rest) := List.perm_middle.symm
  exact go [] specs

/-- The shapes ascend by their places. -/
def InOrder (specs : List FormatSpec) : Prop :=
  specs.Pairwise fun a b => a.paramIndex.getD 0 ≤ b.paramIndex.getD 0

theorem in_order_insert {spec : FormatSpec} {specs : List FormatSpec} (h : InOrder specs) :
    InOrder (insertByPlace spec specs) := by
  induction specs with
  | nil => exact List.pairwise_singleton _ _
  | cons other specs ih =>
    obtain ⟨hother, hspecs⟩ := List.pairwise_cons.mp h
    rw [insertByPlace]
    split_ifs with hlt
    · refine List.pairwise_cons.mpr ⟨?_, h⟩
      intro third hthird
      rcases List.mem_cons.mp hthird with rfl | hthird
      · exact hlt.le
      · exact hlt.le.trans (hother third hthird)
    · refine List.pairwise_cons.mpr ⟨?_, ih hspecs⟩
      intro third hthird
      rcases List.mem_cons.mp ((insert_by_place_perm spec specs).mem_iff.mp hthird) with rfl | hmem
      · exact Nat.le_of_not_lt hlt
      · exact hother third hmem

theorem in_order_sort (specs : List FormatSpec) : InOrder (sortByPlace specs) := by
  have go (done rest : List FormatSpec) (h : InOrder done) :
      InOrder (rest.foldl (fun done spec => insertByPlace spec done) done) := by
    induction rest generalizing done with
    | nil => exact h
    | cons spec rest ih => exact ih _ (in_order_insert h)
  exact go [] specs List.Pairwise.nil

/-! Places taken once. -/

theorem Placed.places_eq {specs : List FormatSpec} (h : Placed 0 specs) :
    specs.map (·.paramIndex) = (List.range specs.length).map some := by
  apply List.ext_getElem?
  intro i
  rw [List.getElem?_map, List.getElem?_map]
  cases hi : specs[i]? with
  | none =>
    have hlen : specs.length ≤ i := List.getElem?_eq_none_iff.mp hi
    rw [List.getElem?_eq_none (by simpa using hlen)]
    rfl
  | some spec =>
    have hlen : i < specs.length := (List.getElem?_eq_some_iff.mp hi).1
    rw [List.getElem?_range hlen, Option.map_some, Option.map_some, h i spec hi, Nat.zero_add]

/-- Of shapes that stand at their places each one has a place of its own. -/
theorem Placed.eq_of_perm {specs others : List FormatSpec} (h : Placed 0 specs)
    (h' : Placed 0 others) (hp : specs.Perm others) : specs = others := by
  apply List.ext_getElem?
  intro i
  cases hi : specs[i]? with
  | none =>
    have hlen : others.length ≤ i := by
      rw [← hp.length_eq]
      exact List.getElem?_eq_none_iff.mp hi
    rw [List.getElem?_eq_none hlen]
  | some spec =>
    obtain ⟨j, hj⟩ := List.mem_iff_getElem?.mp (hp.mem_iff.mp (List.mem_of_getElem? hi))
    have hplace := h' j spec hj
    rw [h i spec hi, Option.some.injEq] at hplace
    have hij : i = j := by omega
    rw [hij, hj]

/-- Sorted shapes stand at their places if and only if the places are those from zero on, each taken
once. -/
theorem placed_sort_iff (specs : List FormatSpec) :
    Placed 0 (sortByPlace specs) ↔
      (specs.map (·.paramIndex)).Perm ((List.range specs.length).map some) := by
  have hperm := sort_by_place_perm specs
  constructor
  · intro h
    calc
      (specs.map (·.paramIndex)).Perm ((sortByPlace specs).map (·.paramIndex)) :=
        (hperm.map _).symm
      List.Perm _ ((List.range specs.length).map some) := by
        rw [h.places_eq, hperm.length_eq]
  · intro h
    have hsorted : ((sortByPlace specs).map (·.paramIndex)).Perm
        ((List.range specs.length).map some) := (hperm.map _).trans h
    -- as lists of numbers both sides ascend, so they are the same
    have heq : (sortByPlace specs).map (·.paramIndex.getD 0) = List.range specs.length := by
      have hnumbers := hsorted.map (·.getD 0)
      simp only [List.map_map, Function.comp_def, Option.getD_some, List.map_id'] at hnumbers
      have hascends : ((sortByPlace specs).map (·.paramIndex.getD 0)).Pairwise (· ≤ ·) :=
        List.pairwise_map.mpr (in_order_sort specs)
      have hrange : (List.range specs.length).Pairwise (· ≤ ·) := List.pairwise_le_range
      exact hnumbers.eq_of_pairwise (fun _ _ _ _ hab hba => hab.antisymm hba) hascends hrange
    intro i spec hi
    have hplace : spec.paramIndex.getD 0 = i := by
      have hget := congrArg (·[i]?) heq
      have hlen : i < specs.length := by
        rw [← hperm.length_eq]
        exact (List.getElem?_eq_some_iff.mp hi).1
      simpa [hi, hlen] using hget
    obtain ⟨j, -, hj⟩ := List.mem_map.mp
      (hsorted.mem_iff.mp (List.mem_map_of_mem (List.mem_of_getElem? hi)))
    rw [← hj, Option.getD_some] at hplace
    rw [← hj, hplace, Nat.zero_add]

/-! Items. -/

/-- Shapes at the places that they say, or else where they stand, counted from `first`. -/
def placedFrom (first : Nat) : List FormatSpec → List FormatSpec
  | [] => []
  | shape :: shapes => shape.placedAt first :: placedFrom (first + 1) shapes

theorem getElem?_placed_from (first : Nat) (shapes : List FormatSpec) (i : Nat) :
    (placedFrom first shapes)[i]? = shapes[i]?.map fun shape => shape.placedAt (first + i) := by
  induction shapes generalizing first i with
  | nil => rfl
  | cons shape shapes ih =>
    cases i with
    | zero => rfl
    | succ i =>
      rw [placedFrom, List.getElem?_cons_succ, List.getElem?_cons_succ, ih, Nat.add_right_comm,
        Nat.add_assoc]

theorem length_placed_from (first : Nat) (shapes : List FormatSpec) :
    (placedFrom first shapes).length = shapes.length := by
  induction shapes generalizing first with
  | nil => rfl
  | cons shape shapes ih => rw [placedFrom, List.length_cons, List.length_cons, ih]

theorem places_placed_from (shapes : List FormatSpec) :
    (placedFrom 0 shapes).map (·.paramIndex) = (places shapes).map some := by
  apply List.ext_getElem?
  intro i
  rw [List.getElem?_map, List.getElem?_map, getElem?_placed_from, places, List.getElem?_mapIdx]
  cases shapes[i]? with
  | none => rfl
  | some shape =>
    rw [Nat.zero_add]
    rfl

/-- Shapes that all say their places stay as they are. -/
theorem placed_from_of_some (first : Nat) {shapes : List FormatSpec}
    (h : ∀ shape ∈ shapes, shape.paramIndex.isSome = true) : placedFrom first shapes = shapes := by
  apply List.ext_getElem?
  intro i
  rw [getElem?_placed_from]
  cases hi : shapes[i]? with
  | none => rfl
  | some shape =>
    obtain ⟨place, hplace⟩ := Option.isSome_iff_exists.mp (h shape (List.mem_of_getElem? hi))
    rw [Option.map_some, FormatSpec.placedAt, hplace, Option.getD_some, ← hplace]

namespace Problem

theorem structured_items_cons_eq_ok_iff {position : Nat} {v : Json.Value} {items : List Json.Value}
    {specs : List FormatSpec} :
    structuredItems position (v :: items) = .ok specs ↔
      ∃ shape rest, FormatSpec.ofDescribed v = .ok shape ∧
        structuredItems (position + 1) items = .ok rest ∧
          specs = shape.placedAt position :: rest := by
  rw [structuredItems]
  cases FormatSpec.ofDescribed v with
  | error e => simp
  | ok shape =>
    cases structuredItems (position + 1) items with
    | error e => simp
    | ok rest => simp [eq_comm]

/-- The items describe shapes one by one, and each shape is put where it stands unless it says a
place. -/
theorem structured_items_eq_ok_iff {position : Nat} {items : List Json.Value}
    {specs : List FormatSpec} :
    structuredItems position items = .ok specs ↔
      ∃ shapes, List.Forall₂ (fun v shape => FormatSpec.IsDescribed shape v) items shapes ∧
        specs = placedFrom position shapes := by
  induction items generalizing position specs with
  | nil =>
    rw [structuredItems]
    constructor
    · intro h
      cases h
      exact ⟨[], List.Forall₂.nil, rfl⟩
    · rintro ⟨shapes, hshapes, rfl⟩
      cases hshapes
      rfl
  | cons v items ih =>
    rw [structured_items_cons_eq_ok_iff]
    constructor
    · rintro ⟨shape, rest, hv, hrest, rfl⟩
      obtain ⟨shapes, hshapes, rfl⟩ := ih.mp hrest
      have hshape : shape.IsDescribed v := (shape.is_described_iff v).mpr hv
      exact ⟨shape :: shapes, List.Forall₂.cons hshape hshapes, rfl⟩
    · rintro ⟨shapes, hshapes, rfl⟩
      cases hshapes with
      | @cons _ shape _ shapes hshape hshapes =>
        have hv : FormatSpec.ofDescribed v = .ok shape := (shape.is_described_iff v).mp hshape
        exact ⟨shape, _, hv, ih.mpr ⟨shapes, hshapes, rfl⟩, rfl⟩

theorem places_perm_iff (shapes : List FormatSpec) :
    Placed 0 (sortByPlace (placedFrom 0 shapes)) ↔
      (places shapes).Perm (List.range shapes.length) := by
  rw [placed_sort_iff, places_placed_from, length_placed_from]
  exact List.map_perm_map_iff (Option.some_injective _)

/-- The inputs of a description are the shapes that it lists, in order of their places. -/
theorem structured_inputs_eq_ok_iff {d : Description} {specs : List FormatSpec} :
    structuredInputs d = .ok specs ↔
      ∃ items shapes, d.Lists items shapes ∧ specs = sortByPlace (placedFrom 0 shapes) := by
  constructor
  · intro h
    rw [structuredInputs] at h
    split at h
    · cases h
    · next items hd =>
      split at h
      · cases h
      · next raw hitems =>
        obtain ⟨shapes, hshapes, rfl⟩ := structured_items_eq_ok_iff.mp hitems
        dsimp only at h
        split_ifs at h with hall
        cases h
        have hperm := (places_perm_iff shapes).mp ((Placed.all_iff 0 _).mp hall)
        rw [← hshapes.length_eq] at hperm
        exact ⟨items, shapes, ⟨hd, hshapes, hperm⟩, rfl⟩
    · cases h
  · rintro ⟨items, shapes, h, rfl⟩
    have hitems : structuredItems 0 items = .ok (placedFrom 0 shapes) :=
      structured_items_eq_ok_iff.mpr ⟨shapes, h.described, rfl⟩
    have hperm := h.places_perm
    rw [h.described.length_eq] at hperm
    have hplaced : Placed 0 (sortByPlace (placedFrom 0 shapes)) :=
      (places_perm_iff shapes).mpr hperm
    rw [structuredInputs, h.decode_eq]
    dsimp only
    rw [hitems]
    dsimp only
    rw [if_pos ((Placed.all_iff 0 _).mpr hplaced)]

theorem input_specs_eq_ok_iff {p : Problem} {d : Description} (hp : p.inputFormats = some d)
    {specs : List FormatSpec} :
    p.inputSpecs = .ok specs ↔ ∃ items shapes, d.Lists items shapes ∧
      specs = p.completeInputs (sortByPlace (placedFrom 0 shapes)) := by
  rw [inputSpecs, hp, FormatOrigin.of]
  dsimp only
  rw [Json.map_eq_ok]
  constructor
  · rintro ⟨ordered, hordered, rfl⟩
    obtain ⟨items, shapes, h, rfl⟩ := structured_inputs_eq_ok_iff.mp hordered
    exact ⟨items, shapes, h, rfl⟩
  · rintro ⟨items, shapes, h, rfl⟩
    exact ⟨_, structured_inputs_eq_ok_iff.mpr ⟨items, shapes, h, rfl⟩, rfl⟩

end Problem

/-- A shape is found at its place. -/
theorem getElem?_sort_by_place {shapes : List FormatSpec} {shape : FormatSpec} {i : Nat}
    (h : (places shapes).Perm (List.range shapes.length)) (hi : shapes[i]? = some shape) :
    (sortByPlace (placedFrom 0 shapes))[shape.paramIndex.getD i]? = some (shape.placedAt i) := by
  have hplaced := (Problem.places_perm_iff shapes).mpr h
  have hmem : shape.placedAt i ∈ sortByPlace (placedFrom 0 shapes) := by
    apply (sort_by_place_perm _).mem_iff.mpr
    apply List.mem_of_getElem? (i := i)
    rw [getElem?_placed_from, hi, Nat.zero_add, Option.map_some]
  obtain ⟨j, hj⟩ := List.mem_iff_getElem?.mp hmem
  have hplace : some (shape.paramIndex.getD i) = some (0 + j) := hplaced j _ hj
  rw [Option.some.injEq, Nat.zero_add] at hplace
  rw [hplace, hj]

/-! Reordered items. -/

namespace Description.Lists

theorem unique {d : Description} {items items' : List Json.Value}
    {shapes shapes' : List FormatSpec} (h : d.Lists items shapes)
    (h' : d.Lists items' shapes') : items = items' ∧ shapes = shapes' := by
  have hdecode : some (Json.Value.array items) = some (Json.Value.array items') := by
    rw [← h.decode_eq, ← h'.decode_eq]
  cases hdecode
  have hright : Relator.RightUnique fun v shape => FormatSpec.IsDescribed shape v := by
    intro v shape other hshape hother
    rw [FormatSpec.is_described_iff] at hshape hother
    rw [hshape] at hother
    exact Except.ok.inj hother
  exact ⟨rfl, hright.forall₂ h.described h'.described⟩

theorem places_perm_shapes {d : Description} {items : List Json.Value} {shapes : List FormatSpec}
    (h : d.Lists items shapes) : (places shapes).Perm (List.range shapes.length) := by
  rw [← h.described.length_eq]
  exact h.places_perm

/-- If all items say their places, the items in another order list the same shapes in another
order. -/
theorem reorder {d e : Description} {items others : List Json.Value} {shapes : List FormatSpec}
    (h : d.Lists items shapes) (he : e.decodeStrict? = some (.array others))
    (hperm : others.Perm items)
    (hown : ∀ shape ∈ shapes, shape.paramIndex.isSome = true) :
    ∃ shapes', e.Lists others shapes' ∧ shapes'.Perm shapes := by
  obtain ⟨shapes', hdescribed, hshapes⟩ := List.perm_comp_forall₂ hperm h.described
  have hown' : ∀ shape ∈ shapes', shape.paramIndex.isSome = true := by
    intro shape hshape
    exact hown shape (hshapes.mem_iff.mp hshape)
  -- the places are those that the shapes say, wherever they stand
  have hplaces : ((places shapes').map some).Perm ((places shapes).map some) := by
    rw [← places_placed_from, ← places_placed_from, placed_from_of_some 0 hown,
      placed_from_of_some 0 hown']
    exact hshapes.map _
  refine ⟨shapes', ⟨he, hdescribed, ?_⟩, hshapes⟩
  calc
    (places shapes').Perm (places shapes) :=
      (List.map_perm_map_iff (Option.some_injective _)).mp hplaces
    List.Perm _ (List.range items.length) := h.places_perm
    List.Perm _ (List.range others.length) := by rw [hperm.length_eq]

end Description.Lists

namespace Problem

theorem input_specs_reordered {p q : Problem} {d e : Description} {items others : List Json.Value}
    {specs : List FormatSpec} (hparams : q.params = p.params) (hp : p.inputFormats = some d)
    (hq : q.inputFormats = some e) (hd : d.decodeStrict? = some (.array items))
    (he : e.decodeStrict? = some (.array others)) (hperm : others.Perm items)
    (hown : ∀ v ∈ items, ∀ shape : FormatSpec, shape.IsDescribed v → shape.paramIndex.isSome = true)
    (h : p.inputSpecs = .ok specs) : q.inputSpecs = .ok specs := by
  obtain ⟨items', shapes, hlists, rfl⟩ := (input_specs_eq_ok_iff hp).mp h
  have hsame : some (Json.Value.array items) = some (Json.Value.array items') := by
    rw [← hd, hlists.decode_eq]
  cases hsame
  have hownShapes : ∀ shape ∈ shapes, shape.paramIndex.isSome = true := by
    intro shape hshape
    obtain ⟨i, hi, rfl⟩ := List.mem_iff_getElem.mp hshape
    have hlength : i < items.length := by rwa [hlists.described.length_eq]
    exact hown items[i] (List.getElem_mem hlength) shapes[i] (hlists.described.get hlength hi)
  obtain ⟨shapes', hlists', hshapes⟩ := hlists.reorder he hperm hownShapes
  have hownShapes' : ∀ shape ∈ shapes', shape.paramIndex.isSome = true := by
    intro shape hshape
    exact hownShapes shape (hshapes.mem_iff.mp hshape)
  -- both orders sort to shapes at their places, and these are the same
  have hsorted : sortByPlace (placedFrom 0 shapes) = sortByPlace (placedFrom 0 shapes') := by
    apply Placed.eq_of_perm
    · exact (places_perm_iff shapes).mpr hlists.places_perm_shapes
    · exact (places_perm_iff shapes').mpr hlists'.places_perm_shapes
    · rw [placed_from_of_some 0 hownShapes, placed_from_of_some 0 hownShapes']
      calc
        (sortByPlace shapes).Perm shapes := sort_by_place_perm shapes
        List.Perm _ shapes' := hshapes.symm
        List.Perm _ (sortByPlace shapes') := (sort_by_place_perm shapes').symm
  have hcomplete : p.completeInputs = q.completeInputs := complete_inputs_congr hparams.symm
  rw [hsorted, hcomplete]
  exact (input_specs_eq_ok_iff hq).mpr ⟨others, shapes', hlists', rfl⟩

/-- A structured description of inputs resolves if and only if it is a list of shapes whose places
are those from zero on, each taken once. Then each shape stands at its place, with the name of the
parameter there unless it has one of its own; and if all items say their places, another order of
them resolves to the same or fails too. -/
theorem input_specs_of_structured {p : Problem} {d : Description} (hp : p.inputFormats = some d) :
    ((∃ specs, p.inputSpecs = .ok specs) ↔ ∃ items shapes, d.Lists items shapes) ∧
      (∀ specs items shapes, p.inputSpecs = .ok specs → d.Lists items shapes →
        specs.length = items.length ∧ ∀ (i place : Nat) (shape : FormatSpec),
          shapes[i]? = some shape → place = shape.paramIndex.getD i →
            specs[place]? = some { shape with
              paramIndex := some place
              paramName := shape.paramName <|> p.paramName? place }) ∧
      ∀ (q : Problem) (e : Description) (items others : List Json.Value), q.params = p.params →
        q.inputFormats = some e → d.decodeStrict? = some (.array items) →
        e.decodeStrict? = some (.array others) → others.Perm items →
        (∀ v ∈ items, ∀ shape : FormatSpec,
          shape.IsDescribed v → shape.paramIndex.isSome = true) →
        q.inputSpecs.toOption = p.inputSpecs.toOption := by
  refine ⟨?_, ?_, ?_⟩
  · constructor
    · rintro ⟨specs, hspecs⟩
      obtain ⟨items, shapes, h, -⟩ := (input_specs_eq_ok_iff hp).mp hspecs
      exact ⟨items, shapes, h⟩
    · rintro ⟨items, shapes, h⟩
      exact ⟨_, (input_specs_eq_ok_iff hp).mpr ⟨items, shapes, h, rfl⟩⟩
  · intro specs items shapes hspecs h
    obtain ⟨items', shapes', h', rfl⟩ := (input_specs_eq_ok_iff hp).mp hspecs
    obtain ⟨rfl, rfl⟩ := h.unique h'
    constructor
    · calc
        (p.completeInputs (sortByPlace (placedFrom 0 shapes))).length
            = (sortByPlace (placedFrom 0 shapes)).length := p.length_complete_inputs _
        _ = (placedFrom 0 shapes).length := (sort_by_place_perm _).length_eq
        _ = shapes.length := length_placed_from 0 shapes
        _ = items.length := h.described.length_eq.symm
    · rintro i _ shape hshape rfl
      rw [getElem?_complete_inputs, getElem?_sort_by_place h.places_perm_shapes hshape]
      rfl
  · intro q e items others hparams hq hd he hperm hown
    have hown' : ∀ v ∈ others, ∀ shape : FormatSpec,
        shape.IsDescribed v → shape.paramIndex.isSome = true := by
      intro v hv
      exact hown v (hperm.mem_iff.mp hv)
    have hforth (specs : List FormatSpec) : p.inputSpecs = .ok specs → q.inputSpecs = .ok specs :=
      input_specs_reordered hparams hp hq hd he hperm hown
    have hback (specs : List FormatSpec) : q.inputSpecs = .ok specs → p.inputSpecs = .ok specs :=
      input_specs_reordered hparams.symm hq hp he hd hperm.symm hown'
    cases hpspecs : p.inputSpecs with
    | ok specs => rw [hforth specs hpspecs]
    | error fault =>
      cases hqspecs : q.inputSpecs with
      | error fault' => rfl
      | ok specs =>
        rw [hback specs hqspecs] at hpspecs
        cases hpspecs

/-- The items of two inputs, the second one in front. -/
def swappedItems : List Json.Value :=
  [.object [("baseType", .string "primitive"), ("paramIndex", .nat 1)],
    .object [("baseType", .string " array "), ("elementType", .string ""), ("paramIndex", .nat 0),
      ("paramName", .string "numbers")]]

theorem input_specs_of_swapped_items :
    let p := { ((Problem.named "find").withParam "values" "").withParam "wanted" "" with
      inputFormats := some (.inline (.array swappedItems)) }
    let q := { p with inputFormats := some (.inline (.array swappedItems.reverse)) }
    (∃ specs, p.inputSpecs = .ok specs ∧ specs.length = 2 ∧
      specs[0]? = some ⟨.array, none, "json_array", some 0, some "numbers", none⟩ ∧
      specs[1]? = some ⟨.primitive, none, "primitive", some 1, some "wanted", none⟩) ∧
      q.inputSpecs.toOption = p.inputSpecs.toOption := by
  intro p q
  let wanted : FormatSpec := ⟨.primitive, none, "primitive", some 1, none, none⟩
  let numbers : FormatSpec := ⟨.array, none, "json_array", some 0, some "numbers", none⟩
  have hwanted : FormatSpec.ofDescribed swappedItems[0] = .ok wanted := by cbv
  have hnumbers : FormatSpec.ofDescribed swappedItems[1] = .ok numbers := by cbv
  have hlists :
      (Description.inline (.array swappedItems)).Lists swappedItems [wanted, numbers] := by
    refine ⟨rfl, ?_, List.Perm.swap 0 1 []⟩
    exact .cons ((wanted.is_described_iff _).mpr hwanted)
      (.cons ((numbers.is_described_iff _).mpr hnumbers) .nil)
  have hown : ∀ v ∈ swappedItems, ∀ shape : FormatSpec,
      shape.IsDescribed v → shape.paramIndex.isSome = true := by
    intro v hv shape hshape
    have hread := (shape.is_described_iff v).mp hshape
    simp only [swappedItems, List.mem_cons, List.not_mem_nil, or_false] at hv
    rcases hv with rfl | rfl
    · have hsame : wanted = shape := Except.ok.inj (hwanted.symm.trans hread)
      rw [← hsame]
      rfl
    · have hsame : numbers = shape := Except.ok.inj (hnumbers.symm.trans hread)
      rw [← hsame]
      rfl
  obtain ⟨hresolves, hplaced, hreordered⟩ :=
    input_specs_of_structured (show p.inputFormats = some _ from rfl)
  obtain ⟨specs, hspecs⟩ := hresolves.mpr ⟨_, _, hlists⟩
  obtain ⟨hlength, hfound⟩ := hplaced specs _ _ hspecs hlists
  constructor
  · exact ⟨specs, hspecs, hlength, hfound 1 0 numbers rfl rfl, hfound 0 1 wanted rfl rfl⟩
  · exact hreordered q _ _ _ rfl rfl rfl rfl (List.reverse_perm _) hown

end Problem

end CodeJudge
