/-
  Places in the persistent storage.

  Two paths name one place if they have the same components: doubled and
  trailing slashes mean nothing, nor does a dot, except that one in front of a
  relative path is kept.  Two dots are a component like any other.

  * `ofString_between`, `ofString_last`: an empty piece and a dot mean nothing
    between two slashes and behind the last one;
  * `ofString_dot_iff`: a dot in front of a path means nothing only to a path
    that has one already.
-/

namespace HomeGateway.Engine

/-- The components of a path. -/
structure StoragePath where
  /-- whether it starts at the root -/
  absolute : Bool
  /-- its components -/
  parts : List String
deriving DecidableEq, Repr

namespace StoragePath

/-- Whether a piece is a component wherever it stands. -/
def counts (piece : List Char) : Bool :=
  piece ≠ [] && piece ≠ ['.']

/-- The components of a path. -/
def ofString (s : String) : StoragePath :=
  let all := s.toList.splitOn '/'
  let solid := (all.filter counts).map String.ofList
  match all with
  | ['.'] :: _ => ⟨false, "." :: solid⟩
  | [] :: _ :: _ => ⟨true, solid⟩
  | _ => ⟨false, solid⟩

/-- An empty piece and a dot are no components. -/
theorem counts_eq_false_iff {piece : List Char} :
    counts piece = false ↔ piece = [] ∨ piece = ['.'] := by
  simp [counts, Decidable.or_iff_not_imp_left]

theorem splitOn_of_not_counts {piece : List Char} (h : counts piece = false) :
    piece.splitOn '/' = [piece] := by
  rcases counts_eq_false_iff.1 h with rfl | rfl <;> rfl

/-- What the first piece decides. -/
theorem ofString_of_pieces {s : String} {first : List Char} {more : List (List Char)}
    (pieces : s.toList.splitOn '/' = first :: more) :
    ofString s =
      if first = ['.'] then ⟨false, "." :: (more.filter counts).map String.ofList⟩
      else ⟨first = [] ∧ more ≠ [], ((first :: more).filter counts).map String.ofList⟩ := by
  unfold ofString
  rw [pieces]
  dsimp only
  split
  next dotted =>
    cases dotted
    rfl
  next absolute =>
    cases absolute
    rfl
  next undotted relative =>
    have dot : first ≠ ['.'] := fun dot => undotted more (by rw [dot])
    have absolute : ¬ (first = [] ∧ more ≠ []) := by
      rintro ⟨rfl, further⟩
      obtain ⟨piece, rest, rfl⟩ := List.exists_cons_of_ne_nil further
      exact relative piece rest rfl
    simp only [if_neg dot, absolute, decide_false]

/-- Of the other pieces those that count matter. -/
theorem ofString_congr {s t : String} {first : List Char} {more more' : List (List Char)}
    (hs : s.toList.splitOn '/' = first :: more) (ht : t.toList.splitOn '/' = first :: more')
    (alone : first = [] → (more = [] ↔ more' = []))
    (same : more.filter counts = more'.filter counts) : ofString s = ofString t := by
  rw [ofString_of_pieces hs, ofString_of_pieces ht]
  simp only [List.filter_cons, same]
  by_cases empty : first = []
  · simp [alone empty]
  · simp [empty]

/-- An empty piece and a dot mean nothing between two slashes. -/
theorem ofString_between {piece : String} (h : counts piece.toList = false) (a b : String) :
    ofString (a ++ "/" ++ piece ++ "/" ++ b) = ofString (a ++ "/" ++ b) := by
  obtain ⟨first, more, pieces⟩ := List.exists_cons_of_ne_nil (List.splitOn_ne_nil '/' a.toList)
  have long : (a ++ "/" ++ piece ++ "/" ++ b).toList.splitOn '/' =
      first :: (more ++ piece.toList :: b.toList.splitOn '/') := by
    simp [List.splitOn_append_cons_self, splitOn_of_not_counts h, pieces]
  have short : (a ++ "/" ++ b).toList.splitOn '/' = first :: (more ++ b.toList.splitOn '/') := by
    simp [List.splitOn_append_cons_self, pieces]
  refine ofString_congr long short ?_ ?_
  · simp [List.splitOn_ne_nil]
  · simp [h]

/-- An empty piece and a dot mean nothing behind the last slash. -/
theorem ofString_last {a piece : String} (named : a ≠ "") (h : counts piece.toList = false) :
    ofString (a ++ "/" ++ piece) = ofString a := by
  obtain ⟨first, more, pieces⟩ := List.exists_cons_of_ne_nil (List.splitOn_ne_nil '/' a.toList)
  have long : (a ++ "/" ++ piece).toList.splitOn '/' = first :: (more ++ [piece.toList]) := by
    simp [List.splitOn_append_cons_self, splitOn_of_not_counts h, pieces]
  refine ofString_congr long pieces ?_ ?_
  · rintro rfl
    have rebuilt : ['/'].intercalate (a.toList.splitOn '/') = a.toList :=
      List.intercalate_splitOn '/'
    rw [pieces] at rebuilt
    have further : more ≠ [] := by
      rintro rfl
      exact named (String.toList_eq_nil_iff.1 rebuilt.symm)
    simp [further]
  · simp [h]

example : ofString "/a//b/./" = ofString "/a/b" := by decide

/-- No component is a dot, but for the one in front. -/
theorem dot_not_mem_filter (all : List (List Char)) :
    "." ∉ (all.filter counts).map String.ofList := by
  intro mem
  obtain ⟨piece, kept, dot⟩ := List.mem_map.1 mem
  have := (List.mem_filter.1 kept).2
  rw [← String.toList_ofList (l := piece), dot] at this
  cases this

/-- A dot in front of a path means nothing only if the path has one already. -/
theorem ofString_dot_iff (a : String) :
    ofString ("./" ++ a) = ofString a ↔ (ofString a).parts.head? = some "." := by
  obtain ⟨first, more, pieces⟩ := List.exists_cons_of_ne_nil (List.splitOn_ne_nil '/' a.toList)
  have dotted : ("./" ++ a).toList.splitOn '/' = ['.'] :: first :: more := by
    have split :=
      List.splitOn_append_cons_self_of_not_mem (show '/' ∉ ['.'] by decide) a.toList
    rw [pieces] at split
    simpa using split
  rw [ofString_of_pieces dotted, ofString_of_pieces pieces, if_pos rfl]
  by_cases dot : first = ['.']
  · subst dot
    exact iff_of_true rfl rfl
  · rw [if_neg dot]
    refine iff_of_false ?_ fun head => dot_not_mem_filter _ (List.mem_of_head? head)
    intro same
    exact List.cons_ne_self _ _ (congrArg parts same)

example : ofString "./a" ≠ ofString "a" := by decide

end StoragePath

end HomeGateway.Engine
