/-!
The tokens of YAML. Indentation shows in them: where a block collection starts and ends there are
tokens, although nothing is written there.
-/
namespace CodeJudge.Yaml

inductive Token where
  | version (major minor : Nat)
  /-- What a short form of tags stands for. -/
  | handle (short long : String)
  | documentStart
  | documentEnd
  | blockSequence
  | blockMapping
  /-- The end of a block collection. -/
  | blockEnd
  | openBracket
  | closeBracket
  | openBrace
  | closeBrace
  | comma
  /-- The hyphen of an item in a block sequence. -/
  | hyphen
  | key
  | value
  | alias (name : String)
  | anchor (name : String)
  | tag (short rest : String)
  /-- A scalar with its text; a plain one stands without quotes and is no block. -/
  | scalar (plain : Bool) (text : String)
  deriving DecidableEq, Repr

end CodeJudge.Yaml
