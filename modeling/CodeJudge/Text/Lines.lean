import CodeJudge.Arithmetic
import CodeJudge.Text.Blank
/-!
Lines: a text is a list of lines, each ended by a line feed or by a carriage return and a line
feed; the last one may lack its end. Blocks of text are built from lines and tidied line by line.
-/
namespace CodeJudge.Text

/-- The lines of a text without their ends; nothing follows a final line end. -/
def lines : List Char → List (List Char)
  | [] => []
  | '\n' :: cs => [] :: lines cs
  | '\r' :: '\n' :: cs => [] :: lines cs
  | c :: cs =>
    match lines cs with
    | [] => [[c]]
    | l :: ls => (c :: l) :: ls

/-- The lines of a string. -/
def linesOf (s : String) : List String := (lines s.toList).map String.ofList

/-- The number of lines of a string. -/
def lineCount (s : String) : Nat := (lines s.toList).length

/-- Lines joined by line feeds, with none at the end. -/
def joinLines (ls : List String) : String := String.intercalate "\n" ls

/-- The text without the line feeds at its end. -/
def dropTrailingNewlines (s : String) : String :=
  String.ofList (dropEndWhile (· == '\n') s.toList)

/-- The text without the line feeds at either end. -/
def trimNewlines (s : String) : String :=
  String.ofList (dropBothWhile (· == '\n') s.toList)

/-- Puts `width` spaces before every line that is not empty. -/
def indent (s : String) (width : Nat) : String :=
  joinLines ((linesOf s).map fun line =>
    if line.isEmpty then "" else String.ofList (List.replicate width ' ') ++ line)

/-- Keeps at most two white lines of each run, given how many came just before. The lines that are
left out are counted too. -/
def capBlankRuns : Int → List String → Except Overflow (List String)
  | _, [] => .ok []
  | run, line :: rest =>
    if isBlankText line then do
      let run ← addInt32 run 1
      let kept ← capBlankRuns run rest
      return if 2 < run then kept else line :: kept
    else (capBlankRuns 0 rest).map (line :: ·)

/-- Strips line feeds at both ends, keeps at most two white lines in a row, and ends every line. -/
def tidy (s : String) : Except Overflow String := do
  let kept ← capBlankRuns 0 (linesOf (trimNewlines s))
  return String.join (kept.map (· ++ "\n"))

theorem lines_nil : lines [] = [] := rfl

theorem lines_newline (cs : List Char) : lines ('\n' :: cs) = [] :: lines cs := by
  simp [lines]

end CodeJudge.Text
