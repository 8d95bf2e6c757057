import CodeJudge.Proofs.Template.Render
import CodeJudge.Proofs.Text.Blank
import CodeJudge.Proofs.Text.Delimited
import CodeJudge.Starter
/-!
Starters taken apart. A starter is an opening that depends on the node structures alone and a
signature. Two plans for one signature have the same starter exactly if their native types are the
same.
-/
namespace CodeJudge

/-! Native types. -/

namespace Scalar

theorem mem_all (s : Scalar) : s ∈ all := by
  cases s <;> decide

/-- In a table in which no text begins another one the texts are delimited. -/
theorem delimited_of_table {f : Scalar → String}
    (h : ∀ s ∈ all, ∀ u ∈ all, (f s).toList <+: (f u).toList → f s = f u) (s u : Scalar) :
    Text.Delimited (f s = f u) (f s) (f u) :=
  .of_neither_begins (h s s.mem_all u u.mem_all) (h u u.mem_all s s.mem_all)

theorem python_type_delimited (s u : Scalar) :
    Text.Delimited (s.pythonType = u.pythonType) s.pythonType u.pythonType :=
  delimited_of_table (by decide) s u

theorem javascript_type_delimited (s u : Scalar) :
    Text.Delimited (s.javascriptType = u.javascriptType) s.javascriptType u.javascriptType :=
  delimited_of_table (by decide) s u

theorem cpp_type_delimited (s u : Scalar) :
    Text.Delimited (s.cppType = u.cppType) s.cppType u.cppType :=
  delimited_of_table (by decide) s u

theorem java_type_delimited (s u : Scalar) :
    Text.Delimited (s.javaType = u.javaType) s.javaType u.javaType :=
  delimited_of_table (by decide) s u

end Scalar

theorem vector_type_delimited (s u : Scalar) (depth : Nat) :
    Text.Delimited (s.cppType = u.cppType) (Literal.Cpp.vectorType s depth)
      (Literal.Cpp.vectorType u depth) := by
  induction depth with
  | zero => exact s.cpp_type_delimited u
  | succ depth ih => exact (ih.before "vector<").behind ">"

theorem array_type_delimited (s u : Scalar) (depth : Nat) :
    Text.Delimited (s.javaType = u.javaType) (Literal.Java.arrayType s depth)
      (Literal.Java.arrayType u depth) := by
  induction depth with
  | zero => exact s.java_type_delimited u
  | succ depth ih => exact ih.behind "[]"

/-- No native type of a shape begins another one. -/
theorem BaseType.native_type_delimited (b : BaseType) (t : Target) (s u : Scalar) :
    Text.Delimited (b.nativeType s t = b.nativeType u t) (b.nativeType s t) (b.nativeType u t) := by
  have hfixed (name : String) : Text.Delimited (name = name) name name :=
    (Text.Delimited.refl name).self
  cases t with
  | python =>
    have hscalar := s.python_type_delimited u
    cases b with
    | primitive => exact hscalar
    | array => exact ((hscalar.before "List[").behind "]").self
    | matrix => exact ((hscalar.before "List[List[").behind "]]").self
    | linkedList | tree | graph => exact hfixed _
  | javascript =>
    have hscalar := s.javascript_type_delimited u
    cases b with
    | primitive => exact hscalar
    | array => exact (hscalar.behind "[]").self
    | matrix => exact (hscalar.behind "[][]").self
    | linkedList | tree | graph => exact hfixed _
  | cpp =>
    cases b with
    | primitive => exact s.cpp_type_delimited u
    | array => exact (vector_type_delimited s u 1).self
    | matrix => exact (vector_type_delimited s u 2).self
    | linkedList | tree | graph => exact hfixed _
  | java =>
    cases b with
    | primitive => exact s.java_type_delimited u
    | array => exact (array_type_delimited s u 1).self
    | matrix => exact (array_type_delimited s u 2).self
    | linkedList | tree | graph => exact hfixed _

namespace Plan

/-! The opening. -/

/-- A starter template shows the node structures that are needed, and then its first lines. -/
theorem starter_template_opening (t : Target) : ∃ list tree first,
    (starterTemplate t).take 3 =
        [.when (.member "needs_linked_list") (Template.rows list) []] ++
          ([.when (.member "needs_tree") (Template.rows tree) []] ++ Template.rows first) ∧
      Text.isBlankText (String.join (first.map (· ++ "\n"))) = false := by
  cases t with
  | python => exact ⟨_, _, ["class Solution:"], rfl, by decide⟩
  | javascript => exact ⟨_, _, ["/**"], rfl, by decide⟩
  | cpp => exact ⟨_, _, ["class Solution \x7b", "public:"], rfl, by decide⟩
  | java => exact ⟨_, _, ["class Solution \x7b"], rfl, by decide⟩

/-- The opening of a starter depends on the target and on the node structures alone. -/
theorem render_starter_opening (t : Target) : ∃ opening : Bool → Bool → String,
    (∀ l r, Text.isBlankText (opening l r) = false) ∧ ∀ p : Plan, p.target = t →
      Template.renderAll p.starterData p.starterData ((starterTemplate t).take 3) =
        some (opening (p.uses .linkedList) (p.uses .tree)) := by
  obtain ⟨list, tree, first, htake, hvisible⟩ := starter_template_opening t
  refine ⟨fun l r => (if l then String.join (list.map (· ++ "\n")) else "") ++
    ((if r then String.join (tree.map (· ++ "\n")) else "") ++
      String.join (first.map (· ++ "\n"))), ?_, ?_⟩
  · intro l r
    obtain ⟨c, hc, hcvisible⟩ := (Text.not_blank_iff _).mp hvisible
    refine (Text.not_blank_iff _).mpr ⟨c, ?_, hcvisible⟩
    rw [String.toList_append, String.toList_append]
    exact List.mem_append_right _ (List.mem_append_right _ hc)
  · intro p hp
    have hlist : p.starterData.get? "needs_linked_list" = some (.bool (p.uses .linkedList)) := rfl
    have htree : p.starterData.get? "needs_tree" = some (.bool (p.uses .tree)) := rfl
    rw [htake, Template.render_all_when hlist, Template.render_all_when htree,
      Template.render_all_rows]
    rfl

/-! The signature. -/

/-- The part of a starter from the first line on that depends on the signature. -/
def starterBody (p : Plan) : String :=
  match p.target with
  | .python =>
    "    def " ++ p.functionName ++ "(self"
      ++ String.join (p.nativeParams.map fun (type, name) => ", " ++ name ++ ": " ++ type)
      ++ ") -> " ++ p.nativeReturn ++ (":" ++ "\n" ++ "        pass\n")
  | .javascript =>
    String.join (p.nativeParams.map fun (type, name) =>
        " * @param " ++ "\x7b" ++ type ++ ("\x7d" ++ " " ++ name ++ "\n"))
      ++ (" * @return " ++ "\x7b") ++ p.nativeReturn
      ++ ("\x7d" ++ "\n" ++ " */" ++ "\n" ++ "var " ++ p.functionName ++ " = function("
        ++ p.argumentList ++ ") \x7b" ++ "\n" ++ "\n" ++ "\x7d;" ++ "\n")
  | .cpp =>
    "    " ++ p.nativeReturn ++ (" " ++ p.functionName ++ "(") ++ p.signature
      ++ (") \x7b" ++ "\n" ++ "\n    \x7d\n\x7d;\n")
  | .java =>
    "    public " ++ p.nativeReturn ++ (" " ++ p.functionName ++ "(") ++ p.signature
      ++ (") \x7b" ++ "\n" ++ "\n    \x7d\n\x7d\n")

/-- The parameters as Python writes them. -/
theorem render_params_python (p : Plan) :
    (Template.Node.each (.member "params")
        [.text ", ", Template.hole "name", .text ": ", Template.hole "type"] none).render
      p.starterData p.starterData =
      some (String.join (p.nativeParams.map fun (type, name) => ", " ++ name ++ ": " ++ type)) := by
  refine Template.render_each p.starterData _ _ rfl fun param => ?_
  have htype : (paramData param).get? "type" = some (.string param.1) := rfl
  have hname : (paramData param).get? "name" = some (.string param.2) := rfl
  simp [Template.renderAll, htype, hname, Template.valueText, String.append_assoc]

/-- The parameters as JavaScript documents them. The braces are values too, so that they are not
taken for those of the template. -/
theorem render_params_javascript (p : Plan) :
    (Template.Node.each (.member "params") (Template.row [.text " * @param ",
        .value ⟨true, ["brace_open"]⟩, Template.hole "type", .value ⟨true, ["brace_close"]⟩,
        .text " ", Template.hole "name"]) none).render p.starterData p.starterData =
      some (String.join (p.nativeParams.map fun (type, name) =>
        " * @param " ++ "\x7b" ++ type ++ ("\x7d" ++ " " ++ name ++ "\n"))) := by
  refine Template.render_each p.starterData _ _ rfl fun param => ?_
  have htype : (paramData param).get? "type" = some (.string param.1) := rfl
  have hname : (paramData param).get? "name" = some (.string param.2) := rfl
  have hopen : p.starterData.get? "brace_open" = some (.string "\x7b") := rfl
  have hclose : p.starterData.get? "brace_close" = some (.string "\x7d") := rfl
  simp [Template.row, Template.renderAll, hopen, hclose, htype, hname, Template.valueText,
    String.append_assoc, -String.reduceAppend]

/-- A signature with its types in front, and the lines below it. -/
theorem render_typed_signature (p : Plan) (start : String) (below : List String) :
    Template.renderAll p.starterData p.starterData (Template.row [.text start,
        Template.hole "return_type", .text " ", Template.hole "function_name", .text "(",
        Template.hole "signature", .text ") \x7b"] ++ Template.rows below) =
      some (start ++ p.nativeReturn ++ (" " ++ p.functionName ++ "(") ++ p.signature ++
        (") \x7b" ++ "\n" ++ String.join (below.map (· ++ "\n")))) := by
  have hname : p.starterData.get? "function_name" = some (.string p.functionName) := rfl
  have hreturn : p.starterData.get? "return_type" = some (.string p.nativeReturn) := rfl
  have hsignature : p.starterData.get? "signature" = some (.string p.signature) := rfl
  rw [Template.render_all_append, Template.render_all_rows]
  simp [Template.renderAll, Template.row, hname, hreturn, hsignature, Template.valueText,
    String.append_assoc]

theorem render_starter_body (p : Plan) :
    Template.renderAll p.starterData p.starterData ((starterTemplate p.target).drop 3) =
      some p.starterBody := by
  have hname : p.starterData.get? "function_name" = some (.string p.functionName) := rfl
  have hreturn : p.starterData.get? "return_type" = some (.string p.nativeReturn) := rfl
  cases ht : p.target with
  | python =>
    -- the part of the template behind the opening, as its lines
    have hrest : (starterTemplate .python).drop 3 = Template.row [.text "    def ",
        Template.hole "function_name", .text "(self", .each (.member "params")
          [.text ", ", Template.hole "name", .text ": ", Template.hole "type"] none,
        .text ") -> ", Template.hole "return_type", .text ":"] ++
          Template.rows ["        pass"] := rfl
    rw [starterBody, ht, hrest]
    simp [Template.renderAll, Template.row, Template.rows, p.render_params_python, hname, hreturn,
      Template.valueText, String.append_assoc]
  | javascript =>
    have harguments : p.starterData.get? "arg_list" = some (.string p.argumentList) := rfl
    have hopen : p.starterData.get? "brace_open" = some (.string "\x7b") := rfl
    have hclose : p.starterData.get? "brace_close" = some (.string "\x7d") := rfl
    have hrest : (starterTemplate .javascript).drop 3 = .each (.member "params")
        (Template.row [.text " * @param ", .value ⟨true, ["brace_open"]⟩, Template.hole "type",
          .value ⟨true, ["brace_close"]⟩, .text " ", Template.hole "name"]) none ::
        (Template.row [.text " * @return ", Template.hole "brace_open",
          Template.hole "return_type", Template.hole "brace_close"] ++ Template.rows [" */"] ++
        Template.row [.text "var ", Template.hole "function_name", .text " = function(",
          Template.hole "arg_list", .text ") \x7b"] ++ Template.rows ["", "\x7d;"]) := rfl
    rw [starterBody, ht, hrest, Template.renderAll, p.render_params_javascript]
    simp [Template.renderAll, Template.row, Template.rows, hname, hreturn, hopen, hclose,
      harguments, Template.valueText, String.append_assoc, -String.reduceAppend]
  | cpp =>
    rw [starterBody, ht]
    exact p.render_typed_signature "    " ["", "    \x7d", "\x7d;"]
  | java =>
    rw [starterBody, ht]
    exact p.render_typed_signature "    public " ["", "    \x7d", "\x7d"]

/-! Two plans for one signature. -/

theorem cpp_param_delimited {type other : String}
    (h : Text.Delimited (type = other) type other) (name : String) :
    Text.Delimited (type = other) (cppParam (type, name)) (cppParam (other, name)) := by
  have hsplit (s : String) : cppParam (s, name) =
      s ++ ((if s.startsWith "vector<" || s == "string" then "& " else " ") ++ name) := by
    rw [cppParam]
    split_ifs <;> rw [String.append_assoc]
  rw [hsplit, hsplit]
  -- what follows the type depends on nothing but the type and the name
  refine (h.append_of fun hsame => ?_).congr (iff_of_eq (and_true _))
  rw [hsame]
  exact .refl _

section Alike

variable {α : Type} {p q : Plan} {as : List α} {type other name : α → String}

/-- Plans that differ in native types at most, and in these only where the texts show it. -/
structure Alike (p q : Plan) (as : List α) (type other name : α → String) : Prop where
  target : q.target = p.target
  functionName : q.functionName = p.functionName
  uses : q.uses = p.uses
  params : p.nativeParams = as.map fun a => (type a, name a)
  others : q.nativeParams = as.map fun a => (other a, name a)
  arguments : q.argumentList = p.argumentList
  delimited : ∀ a ∈ as, Text.Delimited (type a = other a) (type a) (other a)
  result : Text.Delimited (p.nativeReturn = q.nativeReturn) p.nativeReturn q.nativeReturn

theorem Alike.signature_delimited (h : Alike p q as type other name) :
    Text.Delimited (∀ a ∈ as, type a = other a) p.signature q.signature := by
  rw [signature, signature, h.params, h.others, h.target, List.map_map, List.map_map]
  refine .intercalate ", " as ?_
  intro a ha
  have htype := h.delimited a ha
  by_cases hcpp : (p.target == .cpp) = true
  · rw [if_pos hcpp]
    exact cpp_param_delimited htype (name a)
  · rw [if_neg hcpp]
    exact (htype.behind " ").behind (name a)

theorem Alike.starter_body_eq_iff (h : Alike p q as type other name) :
    p.starterBody = q.starterBody ↔
      (∀ a ∈ as, type a = other a) ∧ p.nativeReturn = q.nativeReturn := by
  rw [starterBody, starterBody, h.target, h.functionName, h.arguments, h.params, h.others]
  simp only [List.map_map]
  have hsignature := h.signature_delimited
  cases p.target with
  | python =>
    have hjoin := Text.Delimited.join as fun a ha =>
      (h.delimited a ha).before (", " ++ name a ++ ": ")
    exact ((((hjoin.before _).behind _).append h.result).behind _).eq_iff
  | javascript =>
    have hjoin := Text.Delimited.join as fun a ha =>
      ((h.delimited a ha).before (" * @param " ++ "\x7b")).behind ("\x7d" ++ " " ++ name a ++ "\n")
    exact (((hjoin.behind _).append h.result).behind _).eq_iff
  | cpp =>
    rw [and_comm]
    exact ((((h.result.before _).behind _).append hsignature).behind _).eq_iff
  | java =>
    rw [and_comm]
    exact ((((h.result.before _).behind _).append hsignature).behind _).eq_iff

/-- The starters of the plans are the same exactly if the native types are. -/
theorem Alike.starter_eq_iff (h : Alike p q as type other name) :
    p.starter = q.starter ↔
      (∀ a ∈ as, type a = other a) ∧ p.nativeReturn = q.nativeReturn := by
  obtain ⟨opening, hvisible, hopening⟩ := render_starter_opening p.target
  have hfill (r : Plan) (hr : r.target = p.target) : r.starter =
      Text.trimStart (opening (r.uses .linkedList) (r.uses .tree)) ++ r.starterBody := by
    have hrender : (starterTemplate r.target).render r.starterData =
        some (opening (r.uses .linkedList) (r.uses .tree) ++ r.starterBody) := by
      rw [Template.render, ← List.take_append_drop 3 (starterTemplate r.target),
        Template.render_all_append, render_starter_body, hr, hopening r hr]
      rfl
    rw [starter, Template.fill, hrender, Option.getD_some, Text.trim_start_append (hvisible _ _)]
  rw [hfill p rfl, hfill q h.target, h.uses, String.append_right_inj]
  exact h.starter_body_eq_iff

end Alike

end Plan

end CodeJudge
