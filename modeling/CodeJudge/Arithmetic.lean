/-!
Sums of fixed width. Counters have 32 bits and lengths 64; a sum that needs more bits is not
reported as an error, it stops the program.
-/
namespace CodeJudge

/-- A sum that needs more bits than its type has. -/
inductive Overflow where
  /-- Of a type of 32 bits, one of them for the sign. -/
  | int32
  /-- Of a type of 64 bits without a sign. -/
  | size
  deriving DecidableEq, Repr

def Overflow.message : Overflow → String
  | int32 => "a sum has more than 32 bits"
  | size => "a sum has more than 64 bits"

/-- Whether an integer has 32 bits. -/
def IsInt32 (i : Int) : Prop := -0x80000000 ≤ i ∧ i < 0x80000000

instance (i : Int) : Decidable (IsInt32 i) := inferInstanceAs (Decidable (_ ∧ _))

/-- The sum of two integers of 32 bits. -/
def addInt32 (i j : Int) : Except Overflow Int :=
  if IsInt32 (i + j) then .ok (i + j) else .error .int32

/-- The sum of two lengths. -/
def addSize (m n : Nat) : Except Overflow Nat :=
  if m + n < UInt64.size then .ok (m + n) else .error .size

theorem addInt32_of_fits {i j : Int} (h : IsInt32 (i + j)) : addInt32 i j = .ok (i + j) := if_pos h

theorem addInt32_of_not_fits {i j : Int} (h : ¬ IsInt32 (i + j)) : addInt32 i j = .error .int32 :=
  if_neg h

theorem addSize_of_fits {m n : Nat} (h : m + n < UInt64.size) : addSize m n = .ok (m + n) :=
  if_pos h

theorem addSize_of_not_fits {m n : Nat} (h : ¬ m + n < UInt64.size) :
    addSize m n = .error .size := if_neg h

end CodeJudge
