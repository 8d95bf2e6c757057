import CodeJudge.Binary64
/-!
JSON values. An object is its list of members in order; the sorted form, in which each key stands
once and the keys ascend, is the one in which free-form data are kept.
-/
namespace CodeJudge.Json

/-- A JSON number: an integer of 64 bits, signed or not, or a floating-point number. -/
inductive Number where
  | int (i : Int)
  | float (x : Binary64)
  deriving DecidableEq, Repr

/-- A JSON value. -/
inductive Value where
  | null
  | bool (b : Bool)
  | number (n : Number)
  | string (s : String)
  | array (items : List Value)
  | object (members : List (String × Value))
  deriving Repr

instance : Inhabited Value := ⟨.null⟩

namespace Number

/-- Whether an integer literal of this value is kept as an integer. -/
def InRange (i : Int) : Prop := -0x8000000000000000 ≤ i ∧ i < 0x10000000000000000

instance (i : Int) : Decidable (InRange i) := inferInstanceAs (Decidable (_ ∧ _))

/-- Equality as numbers of one kind: an integer never equals a floating-point number. -/
def equals : Number → Number → Bool
  | .int i, .int j => i == j
  | .float x, .float y => x.equals y
  | _, _ => false

/-- The value as a floating-point number. -/
def toBinary64 : Number → Binary64
  | .int i => .ofInt i
  | .float x => x

end Number

/-- A member put into members that ascend by key, in place of one with the same key. -/
def insertMember {α : Type} (key : String) (v : α) : List (String × α) → List (String × α)
  | [] => [(key, v)]
  | (k, w) :: rest =>
    if key < k then (key, v) :: (k, w) :: rest
    else if key == k then (key, v) :: rest
    else (k, w) :: insertMember key v rest

/-- The members in ascending order of their keys; of members with one key the last stays. -/
def sortMembers {α : Type} (members : List (String × α)) : List (String × α) :=
  members.foldl (fun done (k, v) => insertMember k v done) []

/-- The keys ascend strictly. -/
def Ascending {α : Type} (members : List (String × α)) : Prop :=
  members.Pairwise fun a b => a.1 < b.1

namespace Value

mutual
/-- Equality of values: objects by their keys in order, numbers as numbers. -/
def equals : Value → Value → Bool
  | null, null => true
  | bool a, bool b => a == b
  | number a, number b => a.equals b
  | string a, string b => a == b
  | array as, array bs => equalItems as bs
  | object as, object bs => equalMembers as bs
  | _, _ => false

def equalItems : List Value → List Value → Bool
  | [], [] => true
  | a :: as, b :: bs => equals a b && equalItems as bs
  | _, _ => false

def equalMembers : List (String × Value) → List (String × Value) → Bool
  | [], [] => true
  | (k, a) :: as, (l, b) :: bs => k == l && equals a b && equalMembers as bs
  | _, _ => false
end

instance : BEq Value := ⟨equals⟩

mutual
/-- The value with the members of every object in their sorted form. -/
def sorted : Value → Value
  | array items => array (sortedItems items)
  | object members => object (sortMembers (sortedMembers members))
  | v => v

def sortedItems : List Value → List Value
  | [] => []
  | v :: vs => sorted v :: sortedItems vs

def sortedMembers : List (String × Value) → List (String × Value)
  | [] => []
  | (k, v) :: ms => (k, sorted v) :: sortedMembers ms
end

mutual
/-- Every integer is in range, every floating-point number finite, every object sorted. -/
def WellFormed : Value → Prop
  | number (.int i) => Number.InRange i
  | number (.float x) => x.Canonical ∧ x.isFinite = true
  | array items => WellFormedItems items
  | object members => Ascending members ∧ WellFormedMembers members
  | _ => True

def WellFormedItems : List Value → Prop
  | [] => True
  | v :: vs => WellFormed v ∧ WellFormedItems vs

def WellFormedMembers : List (String × Value) → Prop
  | [] => True
  | (_, v) :: ms => WellFormed v ∧ WellFormedMembers ms
end

mutual
/-- How many containers stand inside each other. -/
def depth : Value → Nat
  | array items => depthItems items + 1
  | object members => depthMembers members + 1
  | _ => 0

def depthItems : List Value → Nat
  | [] => 0
  | v :: vs => max (depth v) (depthItems vs)

def depthMembers : List (String × Value) → Nat
  | [] => 0
  | (_, v) :: ms => max (depth v) (depthMembers ms)
end

/-- The value of a member of an object. -/
def get? (v : Value) (key : String) : Option Value :=
  match v with
  | object members => members.lookup key
  | _ => none

/-- A natural number as a JSON number. -/
def nat (n : Nat) : Value := number (.int n)

/-- A value or `null`. -/
def ofOption {α : Type} (f : α → Value) : Option α → Value
  | none => null
  | some a => f a

def strings (ss : List String) : Value := array (ss.map string)

/-- A member that is left out when there is nothing to write. -/
def member? {α : Type} (key : String) (f : α → Value) : Option α → List (String × Value)
  | none => []
  | some a => [(key, f a)]

end Value

end CodeJudge.Json
