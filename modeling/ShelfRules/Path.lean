/-!
# Paths

A path is a sequence of names behind a root: none for a path relative to the current folder, one
slash, or two. Empty names and the name `.` are dropped when a path is read, so that a path is
written in one way; the name `..` is kept.

Results:
* `splitSlash_joinSlash`: names without slashes are read back from their joined text.
* `Path.ofText_text`: a path is read back from its text.
-/

namespace ShelfRules

/-! ## Splitting at slashes -/

/-- The texts between the slashes of a text. -/
def splitSlash : List Char → List (List Char)
  | [] => [[]]
  | c :: s =>
    if c = '/' then [] :: splitSlash s
    else match splitSlash s with
      | [] => [[c]]
      | name :: rest => (c :: name) :: rest

/-- Texts with a slash between them. -/
def joinSlash : List (List Char) → List Char
  | [] => []
  | [name] => name
  | name :: rest => name ++ '/' :: joinSlash rest

theorem splitSlash_of_notMem {name : List Char} (h : '/' ∉ name) : splitSlash name = [name] := by
  induction name with
  | nil => rfl
  | cons c s ih =>
    simp only [List.mem_cons, not_or] at h
    simp only [splitSlash, if_neg (Ne.symm h.1), ih h.2]

theorem splitSlash_append {name : List Char} (h : '/' ∉ name) (s : List Char) :
    splitSlash (name ++ '/' :: s) = name :: splitSlash s := by
  induction name with
  | nil => simp [splitSlash]
  | cons c t ih =>
    simp only [List.mem_cons, not_or] at h
    simp only [List.cons_append, splitSlash, if_neg (Ne.symm h.1), ih h.2]

theorem splitSlash_joinSlash {names : List (List Char)} (hne : names ≠ [])
    (h : ∀ name ∈ names, '/' ∉ name) : splitSlash (joinSlash names) = names := by
  induction names with
  | nil => exact absurd rfl hne
  | cons name rest ih =>
    cases rest with
    | nil => exact splitSlash_of_notMem (h name List.mem_cons_self)
    | cons next rest =>
      rw [joinSlash, splitSlash_append (h name List.mem_cons_self),
        ih (by simp) fun n hn => h n (List.mem_cons_of_mem _ hn)]
      simp

/-! ## Paths -/

/-- What stands before the first name. -/
inductive Root where
  | relative
  | single
  | double
deriving DecidableEq, Repr

/-- The slashes of a root. -/
def Root.chars : Root → List Char
  | .relative => []
  | .single => ['/']
  | .double => ['/', '/']

/-- The root of a text: of more than two slashes in front one counts. -/
def Root.of : List Char → Root
  | '/' :: '/' :: '/' :: _ => .single
  | '/' :: '/' :: _ => .double
  | '/' :: _ => .single
  | _ => .relative

theorem Root.of_slash {s : List Char} (h : ∀ t, s ≠ '/' :: t) : Root.of ('/' :: s) = .single := by
  cases s with
  | nil => rfl
  | cons c t =>
    have hc : c ≠ '/' := fun e => h t (e ▸ rfl)
    simp [Root.of, hc]

theorem Root.of_slashes {s : List Char} (h : ∀ t, s ≠ '/' :: t) :
    Root.of ('/' :: '/' :: s) = .double := by
  cases s with
  | nil => rfl
  | cons c t =>
    have hc : c ≠ '/' := fun e => h t (e ▸ rfl)
    simp [Root.of]

/-- The text is a name of its own: neither empty nor a dot, and without slashes. -/
def IsName (name : List Char) : Prop := name ≠ [] ∧ name ≠ ['.'] ∧ '/' ∉ name

instance (name : List Char) : Decidable (IsName name) := inferInstanceAs (Decidable (_ ∧ _))

/-- A place among files and folders. -/
structure Path where
  root : Root
  names : List (List Char)
  valid : ∀ name ∈ names, IsName name
deriving DecidableEq, Repr

namespace Path

/-- The path that a text stands for. -/
def ofText (s : String) : Path where
  root := Root.of s.toList
  names := (splitSlash s.toList).filter fun name => decide (IsName name)
  valid _ h := of_decide_eq_true (List.mem_filter.1 h).2

/-- The characters of a path; a dot stands for the current folder. -/
def chars (p : Path) : List Char :=
  if p.root = .relative ∧ p.names = [] then ['.'] else p.root.chars ++ joinSlash p.names

/-- The text of a path. -/
def text (p : Path) : String := String.ofList p.chars

/-- The path of the folder that a path lies in; a path without names lies in itself. -/
def parent (p : Path) : Path where
  root := p.root
  names := p.names.dropLast
  valid name h := p.valid name (List.dropLast_subset p.names h)

/-- The path of a file or folder in a folder. -/
def child (p : Path) (name : List Char) (h : IsName name) : Path where
  root := p.root
  names := p.names ++ [name]
  valid other ho := by
    rcases List.mem_append.1 ho with ho | ho
    · exact p.valid other ho
    · rw [List.mem_singleton.1 ho]
      exact h

/-- The path with the home folder in place of a tilde in front. The home folders of other people
    are not known. -/
def expandHome? (home p : Path) : Option Path :=
  match p with
  | ⟨.relative, ('~' :: user) :: rest, valid⟩ =>
    if user = [] then some ⟨home.root, home.names ++ rest, fun name h => by
      rcases List.mem_append.1 h with h | h
      · exact home.valid name h
      · exact valid name (List.mem_cons_of_mem _ h)⟩
    else none
  | p => some p

theorem length_parent (p : Path) (h : p.names ≠ []) :
    p.parent.names.length < p.names.length := by
  have := List.length_pos_iff.2 h
  simp only [parent, List.length_dropLast]
  omega

theorem parent_child (p : Path) (name : List Char) (h : IsName name) :
    (p.child name h).parent = p := by
  simp [parent, child]

theorem filter_names (p : Path) : p.names.filter (fun name => decide (IsName name)) = p.names :=
  List.filter_eq_self.2 fun name h => decide_eq_true (p.valid name h)

/-- Names in front of which no root stands do not start with a slash. -/
theorem root_joinSlash {names : List (List Char)} (h : ∀ name ∈ names, IsName name) :
    Root.of (joinSlash names) = .relative ∧ (∀ s, joinSlash names ≠ '/' :: s) := by
  cases names with
  | nil => exact ⟨rfl, by simp [joinSlash]⟩
  | cons name rest =>
    obtain ⟨hne, _, hs⟩ := h name List.mem_cons_self
    cases name with
    | nil => exact absurd rfl hne
    | cons c t =>
      have hc : c ≠ '/' := fun e => hs (e ▸ List.mem_cons_self)
      have hj : ∃ u, joinSlash ((c :: t) :: rest) = c :: u := by
        cases rest with
        | nil => exact ⟨t, rfl⟩
        | cons next rest => exact ⟨_, rfl⟩
      obtain ⟨u, hu⟩ := hj
      rw [hu]
      refine ⟨?_, fun s e => hc (List.cons.inj e).1⟩
      unfold Root.of
      split <;> simp_all

theorem names_joinSlash (p : Path) :
    (splitSlash (joinSlash p.names)).filter (fun name => decide (IsName name)) = p.names := by
  by_cases h : p.names = []
  · rw [h]; decide
  · rw [splitSlash_joinSlash h fun name hn => (p.valid name hn).2.2, p.filter_names]

theorem ofText_text (p : Path) : ofText p.text = p := by
  obtain ⟨root, names, valid⟩ := p
  have hn := names_joinSlash ⟨root, names, valid⟩
  have hr := root_joinSlash valid
  simp only at hn
  unfold ofText text chars
  simp only [String.toList_ofList, mk.injEq]
  cases root with
  | relative =>
    by_cases h : names = []
    · subst h; decide
    · simp only [h, and_false, if_false, Root.chars, List.nil_append]
      exact ⟨hr.1, hn⟩
  | single =>
    simp only [reduceCtorEq, false_and, if_false, Root.chars, List.cons_append, List.nil_append]
    exact ⟨Root.of_slash hr.2, by simpa [splitSlash, IsName] using hn⟩
  | double =>
    simp only [reduceCtorEq, false_and, if_false, Root.chars, List.cons_append, List.nil_append]
    exact ⟨Root.of_slashes hr.2, by simpa [splitSlash, IsName] using hn⟩

end Path

end ShelfRules
