import ShelfRules.Value

/-!
# Equality of values

Two values are the same when they stand for the same thing: numbers and booleans by their numeric
value, timestamps by their instant, objects whatever the order of their entries. A list is never a
tuple, and a text never a number.

Results:
* `Value.same_text`: texts are the same when they are equal.
-/

namespace ShelfRules

namespace Value

/-- The integer that a boolean stands for among numbers. -/
def ofBool (b : Bool) : Int := if b then 1 else 0

mutual
/-- The two values stand for the same thing. -/
def same : Value → Value → Bool
  | .null, .null => true
  | .bool a, .bool b => a == b
  | .bool a, .int n => ofBool a == n
  | .int n, .bool b => n == ofBool b
  | .bool a, .float d => d.eqInt (ofBool a)
  | .float d, .bool b => d.eqInt (ofBool b)
  | .int m, .int n => m == n
  | .int n, .float d => d.eqInt n
  | .float d, .int n => d.eqInt n
  | .float a, .float b => a.eq b
  | .text a, .text b => a == b
  | .list as, .list bs => sameAll as bs
  | .tuple as, .tuple bs => sameAll as bs
  | .object as, .object bs => as.length == bs.length && sameEntries as bs
  | .date a, .date b => a == b
  | .stamp a, .stamp b => a.same b
  | .status a, .status b => a == b
  | _, _ => false
/-- The two lists have the same values in the same order. -/
def sameAll : List Value → List Value → Bool
  | [], [] => true
  | a :: as, b :: bs => same a b && sameAll as bs
  | _, _ => false
/-- Every entry of the first object is found in the second. -/
def sameEntries : List (String × Value) → List (String × Value) → Bool
  | [], _ => true
  | (k, a) :: as, bs =>
    (match bs.lookup k with
      | some b => same a b
      | none => false) && sameEntries as bs
end

mutual
/-- The value is neither a list nor an object and holds none, so that it can name what is counted. -/
def isFixed : Value → Bool
  | .list _ => false
  | .object _ => false
  | .tuple items => allFixed items
  | _ => true
/-- All the values are fixed. -/
def allFixed : List Value → Bool
  | [] => true
  | v :: rest => isFixed v && allFixed rest
end

theorem same_text (a b : String) : same (.text a) (.text b) = (a == b) := by
  simp [same]

end Value

end ShelfRules
