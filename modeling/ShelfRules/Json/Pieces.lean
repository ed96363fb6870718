import ShelfRules.Json.Printer
import ShelfRules.Text.Half

/-!
# Writing JSON piece by piece

A value goes to a file over several lines, in pieces: a bracket, a line break with the comma in front of
it, a key, a scalar. In a list a scalar is in one piece with what stands in front of it. A piece that has
no text ends the writing, and so does one with half of a surrogate pair; the pieces in front of it are in
the file by then.

Results:
* `pieces_makeUp`: without an obstacle the pieces make up the text over several lines.
* `MakeUp.written`: pieces without halves are written.
* `MakeUp.written_half`: the writing of others ends with a fault.
-/

namespace ShelfRules.Json

/-! ## Pieces -/

/-- A text, or why there is none. -/
abbrev Piece := Except Fault (List Char)

/-- The value is a word, a number or a text. -/
def isScalar : Value → Bool
  | .null | .bool _ | .int _ | .float _ | .text _ => true
  | _ => false

/-- The one piece of a value that has no items. -/
def scalarPiece (v : Value) : Piece :=
  match obstacle? v with
  | some f => .error f
  | none => .ok (compact v)

/-- The pieces of an item behind a text, to which a scalar is joined. -/
def behind (front : List Char) (v : Value) (ps : List Piece) : List Piece :=
  if isScalar v then [(scalarPiece v).map (front ++ ·)] else .ok front :: ps

mutual
/-- The pieces of a value over several lines, starting on a level. -/
def pieces (level : Nat) : Value → List Piece
  | .list [] => [.ok ['[', ']']]
  | .tuple [] => [.ok ['[', ']']]
  | .object [] => [.ok ['\x7b', '\x7d']]
  | .list items =>
    itemPieces (level + 1) ['['] items ++ [.ok (newline level), .ok [']']]
  | .tuple items =>
    itemPieces (level + 1) ['['] items ++ [.ok (newline level), .ok [']']]
  | .object entries =>
    .ok ['\x7b'] :: entryPieces (level + 1) [] entries ++ [.ok (newline level), .ok ['\x7d']]
  | v => [scalarPiece v]
/-- The pieces of the items of a list. The first one follows a text, the others follow a comma. -/
def itemPieces (level : Nat) (front : List Char) : List Value → List Piece
  | [] => []
  | v :: rest => behind (front ++ newline level) v (pieces level v) ++ itemPieces level [','] rest
/-- The pieces of the entries of an object. The first one follows a text, the others follow a comma. -/
def entryPieces (level : Nat) (front : List Char) : List (String × Value) → List Piece
  | [] => []
  | (k, v) :: rest =>
    .ok (front ++ newline level) :: .ok (textChars k) :: .ok [':', ' '] :: pieces level v ++
      entryPieces level [','] rest
end

/-- What is written of pieces, and the fault that ends the writing, if one does. -/
def written (code : Text.HalfCode) : List Piece → List Char × Option Fault
  | [] => ([], none)
  | .error f :: _ => ([], some f)
  | .ok s :: rest =>
    match code.errorIn? s with
    | some e => ([], some (.unencodable e))
    | none => (s ++ (written code rest).1, (written code rest).2)

/-! ## The whole text -/

/-- The pieces are texts, and together they are the given one. -/
def MakeUp (ps : List Piece) (s : List Char) : Prop :=
  ∃ texts : List (List Char), ps = texts.map .ok ∧ texts.flatten = s

section MakeUp

variable {ps qs : List Piece} {s t : List Char}

theorem makeUp_nil : MakeUp [] [] := ⟨[], rfl, rfl⟩

theorem makeUp_cons (s : List Char) (h : MakeUp ps t) : MakeUp (.ok s :: ps) (s ++ t) := by
  obtain ⟨texts, rfl, rfl⟩ := h
  exact ⟨s :: texts, rfl, rfl⟩

theorem MakeUp.append (h : MakeUp ps s) (h' : MakeUp qs t) : MakeUp (ps ++ qs) (s ++ t) := by
  obtain ⟨texts, rfl, rfl⟩ := h
  obtain ⟨texts', rfl, rfl⟩ := h'
  exact ⟨texts ++ texts', by rw [List.map_append], by rw [List.flatten_append]⟩

theorem makeUp_single (s : List Char) : MakeUp [.ok s] s := by
  have h := makeUp_cons s makeUp_nil
  rwa [List.append_nil] at h

theorem makeUp_scalarPiece {v : Value} (h : obstacle? v = none) : MakeUp [scalarPiece v] (compact v) := by
  rw [scalarPiece, h]
  exact makeUp_single _

/-- An item behind a text makes up the two texts, whether it is joined to the first or not. -/
theorem makeUp_behind {v : Value} (front : List Char) (hv : obstacle? v = none)
    (hscalar : isScalar v = true → compact v = s) (h : MakeUp ps s) :
    MakeUp (behind front v ps) (front ++ s) := by
  unfold behind
  split
  · rename_i hv'
    rw [scalarPiece, hv, ← hscalar hv']
    exact makeUp_single _
  · exact makeUp_cons front h

end MakeUp

theorem indented_of_isScalar {v : Value} (h : isScalar v = true) (level : Nat) :
    indented level v = compact v := by
  cases v with
  | null | bool | int | float | text => rfl
  | _ => cases h

theorem itemObstacle?_cons {v : Value} {rest : List Value} (h : itemObstacle? (v :: rest) = none) :
    obstacle? v = none ∧ itemObstacle? rest = none := by
  rw [itemObstacle?] at h
  exact Option.or_eq_none_iff.1 h

theorem entryObstacle?_cons {e : String × Value} {rest : List (String × Value)}
    (h : entryObstacle? (e :: rest) = none) : obstacle? e.2 = none ∧ entryObstacle? rest = none := by
  rw [entryObstacle?] at h
  exact Option.or_eq_none_iff.1 h

mutual
/-- Without an obstacle the pieces of a value make up its text over several lines. -/
theorem pieces_makeUp : ∀ (v : Value) (level : Nat), obstacle? v = none →
    MakeUp (pieces level v) (indented level v)
  | .null, _, h | .bool _, _, h | .int _, _, h | .float _, _, h | .text _, _, h =>
    makeUp_scalarPiece h
  | .list [], _, _ | .tuple [], _, _ | .object [], _, _ => makeUp_single _
  | .list (v :: rest), level, h | .tuple (v :: rest), level, h => by
    have hitems := itemPieces_makeUp (v :: rest) (level + 1) ['['] h (by simp)
    have hclose := makeUp_cons (newline level) (makeUp_single [']'])
    simpa [pieces, indented] using hitems.append hclose
  | .object (e :: rest), level, h => by
    have hentries := entryPieces_makeUp (e :: rest) (level + 1) [] h (by simp)
    have hclose := makeUp_cons (newline level) (makeUp_single ['\x7d'])
    simpa [pieces, indented] using makeUp_cons ['\x7b'] (hentries.append hclose)
  | .date _, _, h | .stamp _, _, h | .status _, _, h => nomatch h
/-- The pieces of the items of a list make up their text behind the first text. -/
theorem itemPieces_makeUp : ∀ (items : List Value) (level : Nat) (front : List Char),
    itemObstacle? items = none → items ≠ [] →
      MakeUp (itemPieces level front items) (front ++ indentedItems level items)
  | [], _, _, _, h => absurd rfl h
  | [v], level, front, h, _ => by
    have hv := (itemObstacle?_cons h).1
    have hitem := makeUp_behind (front ++ newline level) hv
      (fun hs => (indented_of_isScalar hs level).symm) (pieces_makeUp v level hv)
    simpa [itemPieces, indentedItems] using hitem
  | v :: w :: rest, level, front, h, _ => by
    obtain ⟨hv, hrest⟩ := itemObstacle?_cons h
    have hitem := makeUp_behind (front ++ newline level) hv
      (fun hs => (indented_of_isScalar hs level).symm) (pieces_makeUp v level hv)
    have hitems := itemPieces_makeUp (w :: rest) level [','] hrest (by simp)
    simpa [itemPieces, indentedItems] using hitem.append hitems
/-- The pieces of the entries of an object make up their text behind the first text. -/
theorem entryPieces_makeUp : ∀ (entries : List (String × Value)) (level : Nat) (front : List Char),
    entryObstacle? entries = none → entries ≠ [] →
      MakeUp (entryPieces level front entries) (front ++ indentedEntries level entries)
  | [], _, _, _, h => absurd rfl h
  | [(k, v)], level, front, h, _ => by
    have hvalue := pieces_makeUp v level (entryObstacle?_cons h).1
    have hentry := makeUp_cons (front ++ newline level) (makeUp_cons (textChars k)
      (makeUp_cons [':', ' '] hvalue))
    simpa [entryPieces, indentedEntries] using hentry
  | (k, v) :: e :: rest, level, front, h, _ => by
    obtain ⟨hv, hrest⟩ := entryObstacle?_cons h
    have hentry := makeUp_cons (front ++ newline level) (makeUp_cons (textChars k)
      (makeUp_cons [':', ' '] (pieces_makeUp v level hv)))
    have hentries := entryPieces_makeUp (e :: rest) level [','] hrest (by simp)
    simpa [entryPieces, indentedEntries] using hentry.append hentries
end

/-! ## What is written -/

section Written

variable {code : Text.HalfCode} {ps : List Piece} {s : List Char}

/-- A text without halves is written whole. -/
theorem MakeUp.written (h : MakeUp ps s) (hs : s.any code.stands = false) : written code ps = (s, none) := by
  obtain ⟨texts, rfl, rfl⟩ := h
  induction texts with
  | nil => rfl
  | cons t rest ih =>
    rw [List.flatten_cons, List.any_append, Bool.or_eq_false_iff] at hs
    rw [List.map_cons, Json.written, Text.HalfCode.errorIn?_eq_none.2 hs.1, ih hs.2]
    rfl

/-- The writing of a text with halves ends with a fault. -/
theorem MakeUp.written_half (h : MakeUp ps s) (hs : s.any code.stands = true) :
    ∃ e, (Json.written code ps).2 = some (.unencodable e) := by
  obtain ⟨texts, rfl, rfl⟩ := h
  induction texts with
  | nil => cases hs
  | cons t rest ih =>
    rw [List.map_cons, Json.written]
    cases ht : code.errorIn? t with
    | some e => exact ⟨e, rfl⟩
    | none =>
      rw [List.flatten_cons, List.any_append, Text.HalfCode.errorIn?_eq_none.1 ht, Bool.false_or] at hs
      exact ih hs

end Written

end ShelfRules.Json
