import CodeJudge.Strategy.Fragment
/-!
Expressions of the programs that read their tests at run time. The right-hand side of a statement
that binds an input is an expression in a few forms, so that one can speak of the names that it
reads.
-/
namespace CodeJudge

/-- An expression that builds an input. -/
inductive Expression where
  | name (identifier : String)
  | item (sequence : Expression) (index : Nat)
  | member (object : Expression) (property : String)
  | call (routine argument : Expression)
  /-- A list with an item for each item of a sequence. -/
  | each (body : Expression) (bound : String) (sequence : Expression)
  /-- A function of one parameter. -/
  | function (bound : String) (body : Expression)
  deriving DecidableEq, Repr

namespace Expression

/-- The expression as it is written. -/
def text : Expression → String
  | name x => x
  | item s i => s.text ++ "[" ++ toString i ++ "]"
  | member o a => o.text ++ "." ++ a
  | call f e => f.text ++ "(" ++ e.text ++ ")"
  | each e x s => "[" ++ e.text ++ " for " ++ x ++ " in " ++ s.text ++ "]"
  | function x e => "(" ++ x ++ ") => " ++ e.text

/-- The names that the expression reads from its surroundings. -/
def free : Expression → List String
  | name x => [x]
  | item s _ => s.free
  | member o _ => o.free
  | call f e => f.free ++ e.free
  -- the sequence is evaluated outside
  | each e x s => s.free ++ e.free.filter (· ≠ x)
  | function x e => e.free.filter (· ≠ x)

end Expression

/-- A target whose programs read their tests at run time. -/
inductive ScriptTarget where
  | python
  | javascript
  deriving DecidableEq, Repr

namespace ScriptTarget

def target : ScriptTarget → Target
  | python => .python
  | javascript => .javascript

/-- The variable that holds the inputs of a test. -/
def inputs : ScriptTarget → String
  | python => "_inputs"
  | javascript => "__inputs"

/-- What copies a sequence belongs to this name. -/
def copier : ScriptTarget → String
  | python => "list"
  | javascript => "Array"

def listBuilder : ScriptTarget → String
  | python => "create_linked_list"
  | javascript => "createLinkedList"

def treeBuilder : ScriptTarget → String
  | python => "create_tree"
  | javascript => "createTree"

def copy (t : ScriptTarget) (e : Expression) : Expression :=
  match t with
  | python => .call (.name t.copier) e
  | javascript => .call (.member (.name t.copier) "from") e

/-- Copies every item of a sequence of sequences. -/
def copyEach (t : ScriptTarget) (bound : String) (e : Expression) : Expression :=
  match t with
  | python => .each (t.copy (.name bound)) bound e
  | javascript => .call (.member e "map") (.function bound (t.copy (.name bound)))

theorem mem_free_copy {t : ScriptTarget} {e : Expression} {x : String} :
    x ∈ (t.copy e).free ↔ x ∈ e.free ∨ x = t.copier := by
  cases t <;> simp [copy, Expression.free, or_comm]

theorem mem_free_copy_each {t : ScriptTarget} {bound : String} {e : Expression} {x : String}
    (hbound : bound ≠ t.copier) :
    x ∈ (t.copyEach bound e).free ↔ x ∈ e.free ∨ x = t.copier := by
  -- the items that are copied are not read from the surroundings
  have hitem : x ∈ (t.copy (.name bound)).free.filter (· ≠ bound) ↔ x = t.copier := by
    rw [List.mem_filter, mem_free_copy, decide_eq_true_eq]
    constructor
    · rintro ⟨h | h, hx⟩
      · exact absurd (List.mem_singleton.mp h) hx
      · exact h
    · rintro rfl
      exact ⟨.inr rfl, hbound.symm⟩
  cases t with
  | python => rw [copyEach, Expression.free, List.mem_append, hitem]
  | javascript =>
    rw [copyEach, Expression.free, Expression.free, Expression.free, List.mem_append, hitem]

end ScriptTarget

namespace BaseType

/-- The expression that builds a value from its flat form. -/
def building (b : BaseType) (t : ScriptTarget) (flat : Expression) : Expression :=
  match b with
  | primitive => flat
  | array => t.copy flat
  | matrix => t.copyEach "row" flat
  | linkedList => .call (.name t.listBuilder) flat
  | tree => .call (.name t.treeBuilder) flat
  | graph => t.copyEach "neighbors" flat

/-- The name that building a value reads, besides those of its flat form. -/
def builder? (b : BaseType) (t : ScriptTarget) : Option String :=
  match b with
  | primitive => none
  | array | matrix | graph => some t.copier
  | linkedList => some t.listBuilder
  | tree => some t.treeBuilder

theorem text_building_python (b : BaseType) (flat : Expression) :
    (b.building .python flat).text = b.pythonBuild flat.text := by
  cases b <;> rfl

theorem text_building_javascript (b : BaseType) (flat : Expression) :
    (b.building .javascript flat).text = b.javascriptBuild flat.text := by
  have heach (bound : String) : (ScriptTarget.javascript.copyEach bound flat).text =
      flat.text ++ (".map((" ++ bound ++ ") => Array.from(" ++ bound ++ "))") := by
    have htext : (ScriptTarget.javascript.copyEach bound flat).text =
        flat.text ++ "." ++ "map" ++ "(" ++
          ("(" ++ bound ++ ") => " ++ ("Array" ++ "." ++ "from" ++ "(" ++ bound ++ ")")) ++ ")" :=
      rfl
    rw [htext, ← String.toList_inj]
    simp
  cases b with
  | matrix => exact (heach "row").trans (congrArg (flat.text ++ ·) (by decide))
  | graph => exact (heach "neighbors").trans (congrArg (flat.text ++ ·) (by decide))
  | primitive | array | linkedList | tree => rfl

theorem mem_free_building {b : BaseType} {t : ScriptTarget} {flat : Expression} {x : String} :
    x ∈ (b.building t flat).free ↔ x ∈ flat.free ∨ b.builder? t = some x := by
  cases b with
  | primitive => simp [building, builder?]
  | array =>
    rw [building, ScriptTarget.mem_free_copy, builder?, Option.some.injEq, eq_comm (a := x)]
  | matrix | graph =>
    rw [building, ScriptTarget.mem_free_copy_each (by cases t <;> decide), builder?,
      Option.some.injEq, eq_comm (a := x)]
  | linkedList | tree =>
    rw [building, Expression.free, Expression.free, List.mem_append, List.mem_singleton, or_comm,
      builder?, Option.some.injEq, eq_comm (a := x)]

end BaseType

/-- A statement that binds a variable to an input. -/
structure Assignment where
  variableName : String
  value : Expression
  deriving DecidableEq, Repr

/-- The statement as it is written. -/
def Assignment.text (a : Assignment) : ScriptTarget → String
  | .python => a.variableName ++ " = " ++ a.value.text
  | .javascript => "const " ++ a.variableName ++ " = " ++ a.value.text ++ ";"

/-- The statement that binds the variable of a site. -/
def ParseSite.assignment (site : ParseSite) (t : ScriptTarget) (b : BaseType) : Assignment :=
  ⟨site.variableName, b.building t (.item (.name t.inputs) site.index)⟩

theorem BaseType.parse_fragment_script (b : BaseType) (site : ParseSite) (t : ScriptTarget) :
    b.parseFragment site t.target = (site.assignment t b).text t := by
  cases t with
  | python =>
    rw [Assignment.text, ParseSite.assignment, text_building_python]
    rfl
  | javascript =>
    rw [Assignment.text, ParseSite.assignment, text_building_javascript]
    rfl

end CodeJudge
