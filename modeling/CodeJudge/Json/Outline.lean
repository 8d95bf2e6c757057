/-!
Outlines: which parts of a JSON text are looked at when data of a known kind is read from it. The
values of members that no field takes need not have a value at all; they only have to follow the
grammar.
-/
namespace CodeJudge.Json

/-- Which parts of a value are looked at. -/
inductive Outline where
  /-- All of it. -/
  | whole
  /-- In an array, of each item the parts given. -/
  | items (item : Outline)
  /-- In an object, the members under the keys of a field; the others only if the object is open. -/
  | fields (known : List (List String × Outline)) (isOpen : Bool)
  deriving Repr

namespace Outline

/-- What is looked at in the item at a position. A structure may come as the array of its
fields. -/
def item : Outline → Nat → Outline
  | whole, _ => whole
  | items o, _ => o
  | fields known _, position =>
    match known[position]? with
    | some (_, o) => o
    | none => whole

/-- What is looked at in the member under a key, if it is looked at. -/
def member? : Outline → String → Option Outline
  | fields known isOpen, key =>
    match known.find? fun field => field.1.contains key with
    | some (_, o) => some o
    | none => if isOpen then some whole else none
  | _, _ => some whole

@[simp] theorem item_whole (position : Nat) : whole.item position = whole := rfl

@[simp] theorem member?_whole (key : String) : whole.member? key = some whole := rfl

end Outline

end CodeJudge.Json
