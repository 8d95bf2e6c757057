import CodeJudge.Text.Blank
/-!
Replacing a text inside another one, from left to right; what was put in is not looked at again.
-/
namespace CodeJudge.Text

/-- Replaces every occurrence, where `passed` characters of the last one are still to be left
out. -/
def replaceFrom (needle replacement : List Char) : Nat → List Char → List Char
  | _, [] => []
  | passed + 1, _ :: cs => replaceFrom needle replacement passed cs
  | 0, c :: cs =>
    if needle.isPrefixOf (c :: cs) then
      replacement ++ replaceFrom needle replacement (needle.length - 1) cs
    else c :: replaceFrom needle replacement 0 cs

/-- Replaces every occurrence of a text that is not empty. -/
def replace (s needle replacement : String) : String :=
  String.ofList (replaceFrom needle.toList replacement.toList 0 s.toList)

theorem replaceFrom_nil (needle replacement : List Char) (passed : Nat) :
    replaceFrom needle replacement passed [] = [] := by
  cases passed <;> rfl

end CodeJudge.Text
