import ShelfRules.Text.LowercaseTable

/-!
# Lower case

The full lower-case mapping of Unicode without locale: one character may become two, and a capital
sigma becomes a final one when it closes a word.

Results:
* `lowerFrom_cons_of_ne`: away from a capital sigma each character is mapped on its own.
-/

namespace ShelfRules.Text

/-- The character has case and is not passed over in looking for a neighbour. -/
def isCased (c : Char) : Bool := casedRanges.has c

/-- The character is passed over in looking for a neighbour. -/
def isCaseIgnorable (c : Char) : Bool := caseIgnorableRanges.has c

/-- The run maps the code point. -/
def CaseRun.has (run : CaseRun) (code : Nat) : Bool :=
  run.first ≤ code && code ≤ run.last && (code - run.first) % run.step == 0

/-- The lower-case form of a character other than a capital sigma. -/
def lowerChar (c : Char) : List Char :=
  if c = '\u0130' then ['i', '\u0307']
  else match caseRuns.find? (·.has c.toNat) with
    | some run => [Char.ofNat (run.target + (c.toNat - run.first))]
    | none => [c]

/-- The first character that is not passed over has case. -/
def casedNext (s : List Char) : Bool :=
  match s.dropWhile isCaseIgnorable with
  | [] => false
  | c :: _ => isCased c

/-- The lower-case form of a text. `afterCased` tells whether the last character before it that is
    not passed over has case. -/
def lowerFrom (afterCased : Bool) : List Char → List Char
  | [] => []
  | c :: rest =>
    let next := if isCaseIgnorable c then afterCased else isCased c
    if c = 'Σ' then
      (if afterCased && !casedNext rest then 'ς' else 'σ') :: lowerFrom next rest
    else lowerChar c ++ lowerFrom next rest

/-- The lower-case form of a text. -/
def lower (s : List Char) : List Char := lowerFrom false s

theorem lowerFrom_cons_of_ne {c : Char} (h : c ≠ 'Σ') (afterCased : Bool) (rest : List Char) :
    lowerFrom afterCased (c :: rest) =
      lowerChar c ++ lowerFrom (if isCaseIgnorable c then afterCased else isCased c) rest := by
  simp [lowerFrom, h]

/-- The lower-case form of a string. -/
def lowered (s : String) : String := String.ofList (lower s.toList)

end ShelfRules.Text
