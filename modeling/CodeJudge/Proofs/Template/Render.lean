import CodeJudge.Template.Basic
import Mathlib
/-!
Rendering. It succeeds on data that hold what a template names, and the text of a template is put
together from the texts of its parts.
-/
namespace CodeJudge

/-- Whether the reference leads to a member of the value at hand, of one of the names. -/
def Reference.isMember (names : List String) (r : Reference) : Bool :=
  !r.fromRoot && match r.steps with
    | [name] => names.contains name
    | _ => false

theorem Reference.find_member {names : List String} {r : Reference}
    (hr : r.isMember names = true) (root : Json.Value) {here : Json.Value}
    (h : ∀ name ∈ names, (here.get? name).isSome = true) : ∃ v, r.find? root here = some v := by
  obtain ⟨fromRoot, steps⟩ := r
  simp only [isMember, Bool.and_eq_true, Bool.not_eq_true'] at hr
  obtain ⟨hroot, hsteps⟩ := hr
  split at hsteps
  · next name =>
    obtain ⟨v, hv⟩ := Option.isSome_iff_exists.mp (h name (by simpa using hsteps))
    refine ⟨v, ?_⟩
    simp [find?, follow, hroot, hv]
  · cases hsteps

namespace Template

mutual
/-- Whether a part names nothing but members of the value at hand, and repeats nothing. -/
def Node.namesOnly (names : List String) : Node → Bool
  | .text _ => true
  | .value r => r.isMember names
  | .when r holds fails => r.isMember names && allNameOnly names holds && allNameOnly names fails
  | .each _ _ _ => false
  | .unknown _ => false

def allNameOnly (names : List String) : List Node → Bool
  | [] => true
  | n :: ns => n.namesOnly names && allNameOnly names ns
end

mutual
/-- A part renders on data that hold the members it names. -/
theorem Node.exists_render {names : List String} (root : Json.Value) {here : Json.Value}
    (h : ∀ name ∈ names, (here.get? name).isSome = true) (n : Node)
    (hn : n.namesOnly names = true) : ∃ s, n.render root here = some s := by
  cases n with
  | text s => exact ⟨s, rfl⟩
  | value r =>
    obtain ⟨v, hv⟩ := r.find_member hn root h
    exact ⟨valueText v, by rw [Node.render, hv, Option.map_some]⟩
  | when r holds fails =>
    rw [Node.namesOnly, Bool.and_eq_true, Bool.and_eq_true] at hn
    obtain ⟨v, hv⟩ := r.find_member hn.1.1 root h
    simp only [Node.render, hv]
    split
    · exact exists_render_all root h holds hn.1.2
    · exact exists_render_all root h fails hn.2
  | each r body empty => cases hn
  | unknown name => cases hn

theorem exists_render_all {names : List String} (root : Json.Value) {here : Json.Value}
    (h : ∀ name ∈ names, (here.get? name).isSome = true) (ns : List Node)
    (hns : allNameOnly names ns = true) : ∃ s, renderAll root here ns = some s := by
  cases ns with
  | nil => exact ⟨"", rfl⟩
  | cons n ns =>
    rw [allNameOnly, Bool.and_eq_true] at hns
    obtain ⟨first, hfirst⟩ := Node.exists_render root h n hns.1
    obtain ⟨rest, hrest⟩ := exists_render_all root h ns hns.2
    exact ⟨first ++ rest, by rw [renderAll, hfirst, hrest]; rfl⟩
end

/-- A template that begins with text is filled to a text that begins with it. -/
theorem fill_text {names : List String} {data : Json.Value}
    (h : ∀ name ∈ names, (data.get? name).isSome = true) (s : String) (ns : List Node)
    (hns : allNameOnly names ns = true) : ∃ rest, fill (.text s :: ns) data = s ++ rest := by
  obtain ⟨rest, hrest⟩ := exists_render_all data h ns hns
  refine ⟨rest, ?_⟩
  rw [fill, render, renderAll, hrest]
  rfl

/-! The texts of parts. -/

variable {root here : Json.Value}

theorem render_all_append (root here : Json.Value) (ns ms : List Node) :
    renderAll root here (ns ++ ms) =
      (renderAll root here ns).bind fun a => (renderAll root here ms).map (a ++ ·) := by
  induction ns with
  | nil =>
    rw [List.nil_append, renderAll]
    cases renderAll root here ms <;> simp
  | cons n ns ih =>
    rw [List.cons_append, renderAll, renderAll, ih]
    cases n.render root here with
    | none => rfl
    | some first =>
      cases renderAll root here ns with
      | none => rfl
      | some rest =>
        cases renderAll root here ms with
        | none => rfl
        | some last => simp [String.append_assoc]

@[simp]
theorem render_text (s : String) : (Node.text s).render root here = some s := by
  rw [Node.render]

/-- Whole lines. -/
theorem render_all_rows (root here : Json.Value) (ls : List String) :
    renderAll root here (rows ls) = some (String.join (ls.map (· ++ "\n"))) := by
  simp [rows, renderAll]

theorem follow_single (name : String) (v : Json.Value) :
    Reference.follow [name] v = v.get? name := by
  rw [Reference.follow]
  cases v.get? name <;> rfl

@[simp]
theorem render_hole (name : String) :
    (hole name).render root here = (here.get? name).map valueText := by
  rw [hole, Node.render]
  exact congrArg (Option.map valueText) (follow_single name here)

@[simp]
theorem render_root_value (name : String) :
    (Node.value ⟨true, [name]⟩).render root here = (root.get? name).map valueText := by
  rw [Node.render]
  exact congrArg (Option.map valueText) (follow_single name root)

/-- Lines that are there only if a flag is set. -/
theorem render_all_when {name : String} {b : Bool} (h : here.get? name = some (.bool b))
    (ls : List String) (ns : List Node) :
    renderAll root here ([.when (.member name) (rows ls) []] ++ ns) =
      (renderAll root here ns).map ((if b then String.join (ls.map (· ++ "\n")) else "") ++ ·) := by
  have hrows := render_all_rows root here ls
  have hfind : (Reference.member name).find? root here = some (.bool b) := by
    rw [← h]
    exact follow_single name here
  rw [List.singleton_append, renderAll, Node.render, hfind]
  cases b with
  | true =>
    simp only [truth, if_true, hrows]
    cases renderAll root here ns <;> rfl
  | false =>
    simp only [truth, Bool.false_eq_true, if_false, renderAll]
    cases renderAll root here ns <;> rfl

/-- A body for each item of a list. -/
theorem render_each {α : Type} (root : Json.Value) {name : String} (body : List Node)
    {item : α → Json.Value} (f : α → String) {as : List α}
    (has : here.get? name = some (.array (as.map item)))
    (hf : ∀ a, renderAll root (item a) body = some (f a)) :
    (Node.each (.member name) body none).render root here = some (String.join (as.map f)) := by
  have hconcat : concat (fun v => renderAll root v body) (as.map item) =
      some (String.join (as.map f)) := by
    clear has
    induction as with
    | nil => simp [concat]
    | cons a as ih => simp [concat, hf, ih]
  have hfind : (Reference.member name).find? root here = some (.array (as.map item)) := by
    rw [← has]
    exact follow_single name here
  rw [Node.render, hfind]
  exact hconcat

/-! Templates made of lines. -/

/-- Lines of text, all of them ended. -/
def endedLines (ls : List String) : String := String.join (ls.map (· ++ "\n"))

theorem ended_lines_append (ls rs : List String) :
    endedLines (ls ++ rs) = endedLines ls ++ endedLines rs := by
  rw [endedLines, List.map_append, String.join_append, endedLines, endedLines]

theorem ended_lines_cons (l : String) (ls : List String) :
    endedLines (l :: ls) = l ++ "\n" ++ endedLines ls := by
  rw [endedLines, List.map_cons, String.join_cons, endedLines]

theorem render_all_lines_append {ns ms : List Node} {ls rs : List String}
    (hns : renderAll root here ns = some (endedLines ls))
    (hms : renderAll root here ms = some (endedLines rs)) :
    renderAll root here (ns ++ ms) = some (endedLines (ls ++ rs)) := by
  rw [render_all_append, hns, hms, Option.bind_some, Option.map_some, ended_lines_append]

theorem render_row_hole {name s : String} (h : here.get? name = some (.string s)) :
    renderAll root here (row [hole name]) = some (endedLines [s]) := by
  have hhole : (hole name).render root here = some s := by
    rw [render_hole, h]
    rfl
  simp [row, renderAll, hhole, endedLines]

/-- A template whose first line holds a text is filled to a text that begins with that line. -/
theorem fill_first_row {names : List String} {data : Json.Value}
    (h : ∀ name ∈ names, (data.get? name).isSome = true) {name s : String}
    (hs : data.get? name = some (.string s)) (front back : String) (ns : List Node)
    (hns : allNameOnly names ns = true) :
    ∃ rest, fill (row [.text front, hole name, .text back] ++ ns) data =
      front ++ s ++ back ++ "\n" ++ rest := by
  obtain ⟨rest, hrest⟩ := exists_render_all data h ns hns
  have hhole : (hole name).render data data = some s := by
    rw [render_hole, hs]
    rfl
  refine ⟨rest, ?_⟩
  rw [fill, render, render_all_append, hrest]
  simp [row, renderAll, hhole, String.append_assoc]

end Template

end CodeJudge
