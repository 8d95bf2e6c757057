import CodeJudge.Proofs.Program.Skeleton
/-!
The frame of a program: the sections in front of the solution. They tell nothing of the problem,
the tests and the solution but which node structures are needed and what a Java solution imports,
and a node structure is declared exactly if it is needed.
-/
namespace CodeJudge

open Text (Scanner)

/-! What stands in the sections. -/

namespace Plan

variable {α : Type} (k : Scanner α)

theorem scan_section_text (p : Plan) (common : String) (list tree : Template) :
    k.scan (p.sectionText common list tree).toList =
      k.scan common.toList ++ (k.scan (p.pieceFor .linkedList list).toList ++
        k.scan (p.pieceFor .tree tree).toList) := by
  have hpieces (g : String) (hg : g = "\n\n" ∨ g = "\n") (ss : List String) :
      k.scan (String.intercalate g ss).toList = ss.flatMap fun s => k.scan s.toList := by
    rcases hg with rfl | rfl
    · exact k.scan_join_blocks ss
    · exact k.scan_join_lines ss
  have hgap : gap p.target = "\n\n" ∨ gap p.target = "\n" := by
    rw [gap]
    split_ifs
    · exact .inl rfl
    · exact .inr rfl
  rw [sectionText, hpieces _ hgap]
  simp

theorem scan_piece_rows (p : Plan) (b : BaseType) (ls : List String) :
    k.scan (p.pieceFor b (Template.rows ls)).toList =
      if p.uses b then ls.flatMap fun l => k.scan l.toList else [] := by
  rw [pieceFor, Template.fill_rows]
  split_ifs
  · exact k.scan_join_ended ls
  · rfl

end Plan

/-! Declarations of node structures. -/

/-- The name that a declaration goes on with. -/
def declaredName (rest : List Char) : String :=
  String.ofList (rest.takeWhile VariableName.isNameChar)

/-- Finds the lines that begin the declaration of a class or a structure, and its name. -/
def declarations : Scanner String :=
  (Scanner.startingWith "class " (by decide) declaredName).orElse
    (Scanner.startingWith "struct " (by decide) declaredName)

theorem declarations_ignore_imports : declarations.Ignores "import" :=
  .orElse (.starting_with (by decide) (by decide)) (.starting_with (by decide) (by decide))

namespace Plan

theorem declared_ended_lines (ls : List String) :
    declarations.scan (Template.endedLines ls).toList =
      ls.flatMap fun l => declarations.scan l.toList :=
  declarations.scan_join_ended ls

theorem declared_java_imports (code : String) :
    declarations.scan (javaImports (JavaSource.ofCode code).imports).toList = [] := by
  obtain ⟨rows, heq, -, hrows, -⟩ := exists_java_imports code
  rw [heq, declared_ended_lines, List.flatMap_eq_nil_iff]
  intro row hrow
  obtain ⟨⟨hn, -⟩, hbegins⟩ := hrows row hrow
  exact declarations_ignore_imports.scan hbegins hn

/-- A section declares its node structures if they are needed. -/
theorem declared_section_text (p : Plan) {common : String} {list tree : List String}
    (hcommon : declarations.scan common.toList = [])
    (hlist : (list.flatMap fun l => declarations.scan l.toList) = ["ListNode"])
    (htree : (tree.flatMap fun l => declarations.scan l.toList) = ["TreeNode"]) :
    declarations.scan
        (p.sectionText common (Template.rows list) (Template.rows tree)).toList =
      (if p.uses .linkedList then ["ListNode"] else []) ++
        (if p.uses .tree then ["TreeNode"] else []) := by
  rw [scan_section_text, hcommon, scan_piece_rows, scan_piece_rows, hlist, htree, List.nil_append]

/-- The header declares the node structures that are needed, each once, and nothing else. -/
theorem declared_header (p : Plan) (code : String) :
    declarations.scan (p.header code).toList =
      (if p.uses .linkedList then ["ListNode"] else []) ++
        (if p.uses .tree then ["TreeNode"] else []) := by
  have hprelude (ls : List String)
      (hls : (ls.flatMap fun l => declarations.scan l.toList) = []) :
      declarations.scan ((Template.rows ls).fill (.object [])).toList = [] := by
    rw [Template.fill_rows, declared_ended_lines, hls]
  rw [header, Scanner.scan_tidied, headerText]
  cases p.target with
  | python =>
    exact declared_section_text p (hprelude _ (by decide +kernel)) (by decide +kernel)
      (by decide +kernel)
  | javascript =>
    exact declared_section_text p (hprelude _ (by decide +kernel)) (by decide +kernel)
      (by decide +kernel)
  | cpp =>
    exact declared_section_text p (hprelude _ (by decide +kernel)) (by decide +kernel)
      (by decide +kernel)
  | java =>
    exact declared_section_text p (declared_java_imports code) (by decide +kernel)
      (by decide +kernel)

/-! Sections of two programs. -/

/-- The plans need the same frame. -/
structure FramedAlike (p q : Plan) : Prop where
  target : p.target = q.target
  tolerance : p.tolerance = q.tolerance
  linkedList : p.uses .linkedList = q.uses .linkedList
  tree : p.uses .tree = q.uses .tree

namespace FramedAlike

variable {p q : Plan} (h : p.FramedAlike q)

include h

theorem section_text (common : String) (list tree : Template) :
    p.sectionText common list tree = q.sectionText common list tree := by
  simp only [sectionText, pieceFor, h.target, h.linkedList, h.tree]

theorem helper_data : p.helperData = q.helperData := by
  simp only [helperData, toleranceText, h.tolerance, h.linkedList, h.tree]

theorem definitions : p.definitions = q.definitions := by
  simp only [Plan.definitions, definitionsText, h.target, h.helper_data, h.section_text]

/-- What a Java solution imports stands in the header, and nothing else of a solution does. -/
theorem header {code other : String}
    (himports : p.target = .java →
      (JavaSource.ofCode code).imports = (JavaSource.ofCode other).imports) :
    p.header code = q.header other := by
  rw [Plan.header, Plan.header, headerText, headerText, ← h.target]
  cases ht : p.target with
  | python | javascript | cpp => simp only [h.section_text]
  | java => simp only [h.section_text, himports ht]

end FramedAlike

/-- A plan has the shapes of its problem. -/
theorem IsBuiltFrom.uses_eq {t : Target} {p : Problem} {tests : List TestCase} {r : Registry}
    {tolerance : Binary64} {f : Formats} {plan : Plan}
    (h : plan.IsBuiltFrom t p tests r tolerance f) (b : BaseType) : plan.uses b = f.uses b := by
  rw [uses, specs, plan_params_specs h.params, plan_output_spec h.output]
  rfl

end Plan

namespace Program

/-- The plan of a program has the shapes of its problem. -/
theorem exists_built {r : Registry} {tolerance : Binary64} {t : Target} {code : String}
    {p : Problem} {tests : List TestCase} {prog : Program} {f : Formats}
    (h : generate r tolerance t code p tests = .ok prog) (hf : Formats.ofProblem p = .ok f) :
    ∃ plan : Plan, prog = plan.assembled code tests ∧ plan.IsBuiltFrom t p tests r tolerance f := by
  obtain ⟨-, plan, hbuild, rfl⟩ := exists_build h
  exact ⟨plan, rfl, Plan.is_built_of_resolves hbuild hf⟩

/-- Two programs for one target and tolerance have the same frame if they need the same node
structures and, in Java, import the same. The frame declares what is needed and nothing else. -/
theorem frame_eq {r s : Registry} {tolerance : Binary64} {t : Target} {code other : String}
    {p q : Problem} {tests more : List TestCase} {first second : Program} {f g : Formats}
    (hfirst : generate r tolerance t code p tests = .ok first)
    (hsecond : generate s tolerance t other q more = .ok second)
    (hf : Formats.ofProblem p = .ok f) (hg : Formats.ofProblem q = .ok g)
    (hlist : f.uses .linkedList = g.uses .linkedList) (htree : f.uses .tree = g.uses .tree) :
    first.definitions = second.definitions ∧
      ((t = .java → (JavaSource.ofCode code).imports = (JavaSource.ofCode other).imports) →
        first.header = second.header ∧ first.solutionLine = second.solutionLine) ∧
      declarations.scan first.header.toList =
        (if f.uses .linkedList then ["ListNode"] else []) ++
          (if f.uses .tree then ["TreeNode"] else []) := by
  obtain ⟨plan, rfl, hplan⟩ := exists_built hfirst hf
  obtain ⟨another, rfl, hanother⟩ := exists_built hsecond hg
  have halike : plan.FramedAlike another :=
    { target := by rw [hplan.target, hanother.target]
      tolerance := by rw [hplan.tolerance, hanother.tolerance]
      linkedList := by rw [hplan.uses_eq, hanother.uses_eq, hlist]
      tree := by rw [hplan.uses_eq, hanother.uses_eq, htree] }
  refine ⟨halike.definitions, ?_, ?_⟩
  · intro himports
    have hheader : plan.header code = another.header other :=
      halike.header fun ht => himports (hplan.target.symm.trans ht)
    have hsections : [(plan.assembled code tests).header, (plan.assembled code tests).definitions] =
        [(another.assembled other more).header, (another.assembled other more).definitions] :=
      congrArg₂ (fun header definitions => [header, definitions]) hheader halike.definitions
    refine ⟨hheader, ?_⟩
    rw [solutionLine, solutionLine, hsections]
  · rw [← hplan.uses_eq, ← hplan.uses_eq]
    exact plan.declared_header code

/-- A program that takes a list and one that gives a list, from other code and other tests. -/
theorem frame_eq_of_list_programs :
    let p := ((Problem.named "length").withParam "head" "ListNode").withReturn "int"
    let q := (Problem.named "empty").withReturn "ListNode"
    let tests : List TestCase := [⟨.nat 1, [.array [.nat 5]], .nat 1⟩]
    ∃ first second,
      generate .standard Settings.defaultTolerance .python "def length(head): ..." p tests =
        .ok first ∧
      generate .standard Settings.defaultTolerance .python "empty = lambda: None" q [] =
        .ok second ∧
      first.definitions = second.definitions ∧ first.header = second.header ∧
      first.solutionLine = second.solutionLine ∧
      declarations.scan first.header.toList = ["ListNode"] := by
  intro p q tests
  have hp : Plan.Plannable .python p tests .standard
      ⟨[⟨.linkedList, none, "linked_list_array", some 0, some "head", none⟩],
        ⟨.primitive, some "int", "primitive", none, none, none⟩⟩ :=
    Plan.plannable_standard (by cbv) (.inr rfl) (List.forall_mem_singleton.mpr rfl)
  have hq : Plan.Plannable .python q [] .standard
      ⟨[], ⟨.linkedList, none, "linked_list_array", none, none, none⟩⟩ :=
    Plan.plannable_standard (by cbv) (.inl rfl) (List.forall_mem_nil _)
  obtain ⟨first, hfirst⟩ := exists_generate Settings.defaultTolerance
    (show Text.isBlankText "def length(head): ..." = false by decide) hp
  obtain ⟨second, hsecond⟩ := exists_generate Settings.defaultTolerance
    (show Text.isBlankText "empty = lambda: None" = false by decide) hq
  obtain ⟨hdefinitions, hheader, hdeclared⟩ :=
    frame_eq hfirst hsecond hp.resolves hq.resolves (by decide) (by decide)
  obtain ⟨hheader, hline⟩ := hheader (by simp)
  exact ⟨first, second, hfirst, hsecond, hdefinitions, hheader, hline, hdeclared⟩

end Program

end CodeJudge
