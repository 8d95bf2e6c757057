import CodeJudge.Json.Value
import CodeJudge.Binary64.Text
import CodeJudge.Text.Quoted
/-!
JSON text: the compact form on one line, and the open form with two spaces for every level.
-/
namespace CodeJudge.Json

/-- One character inside a JSON string. -/
def escapeChar (c : Char) : List Char :=
  match c with
  | '"' => ['\\', '"']
  | '\\' => ['\\', '\\']
  | '\x08' => ['\\', 'b']
  | '\x0c' => ['\\', 'f']
  | '\n' => ['\\', 'n']
  | '\r' => ['\\', 'r']
  | '\t' => ['\\', 't']
  | c =>
    if c.toNat < 0x20 then
      ['\\', 'u', '0', '0'] ++ (if c.toNat < 16 then ['0'] else []) ++ Text.hexDigits c.toNat
    else [c]

/-- A string between double quotes. -/
def writeString (s : String) : List Char := '"' :: s.toList.flatMap escapeChar ++ ['"']

/-- An integer in base ten. -/
def writeInt (i : Int) : List Char :=
  if i < 0 then '-' :: Binary64.decimalDigits i.natAbs else Binary64.decimalDigits i.natAbs

def writeNumber : Number → List Char
  | .int i => writeInt i
  | .float x => x.write .json

namespace Value

mutual
/-- The compact text of a value. -/
def write : Value → List Char
  | null => ['n', 'u', 'l', 'l']
  | bool true => ['t', 'r', 'u', 'e']
  | bool false => ['f', 'a', 'l', 's', 'e']
  | number n => writeNumber n
  | string s => writeString s
  | array items => '[' :: writeItems items ++ [']']
  | object members => '\x7b' :: writeMembers members ++ ['\x7d']

/-- Items with commas between them. -/
def writeItems : List Value → List Char
  | [] => []
  | [v] => write v
  | v :: w :: vs => write v ++ ',' :: writeItems (w :: vs)

/-- Members with commas between them. -/
def writeMembers : List (String × Value) → List Char
  | [] => []
  | [(k, v)] => writeString k ++ ':' :: write v
  | (k, v) :: m :: ms => writeString k ++ ':' :: write v ++ ',' :: writeMembers (m :: ms)
end

/-- The compact text of a value, as a string. -/
def toText (v : Value) : String := String.ofList v.write

/-- A line break and the space in front of a line at a level. -/
def lineAt (level : Nat) : List Char := '\n' :: List.replicate (2 * level) ' '

mutual
/-- The open text of a value inside `level` containers. -/
def writeOpen (level : Nat) : Value → List Char
  | array [] => ['[', ']']
  | array (v :: vs) =>
    '[' :: lineAt (level + 1) ++ writeOpen (level + 1) v ++ writeOpenItems (level + 1) vs
      ++ lineAt level ++ [']']
  | object [] => ['\x7b', '\x7d']
  | object ((k, v) :: ms) =>
    '\x7b' :: lineAt (level + 1) ++ writeString k ++ ':' :: ' ' :: writeOpen (level + 1) v
      ++ writeOpenMembers (level + 1) ms ++ lineAt level ++ ['\x7d']
  | null => write null
  | bool b => write (bool b)
  | number n => write (number n)
  | string s => write (string s)

/-- The items after the first one, each on its line. -/
def writeOpenItems (level : Nat) : List Value → List Char
  | [] => []
  | v :: vs => ',' :: lineAt level ++ writeOpen level v ++ writeOpenItems level vs

/-- The members after the first one, each on its line. -/
def writeOpenMembers (level : Nat) : List (String × Value) → List Char
  | [] => []
  | (k, v) :: ms =>
    ',' :: lineAt level ++ writeString k ++ ':' :: ' ' :: writeOpen level v
      ++ writeOpenMembers level ms
end

/-- The open text of a value, as a string. -/
def toOpenText (v : Value) : String := String.ofList (v.writeOpen 0)

end Value

end CodeJudge.Json
