/-
  The query of an address.

  Pieces between ampersands are parameters, a name and a value around the
  first equals sign.  A plus sign stands for a blank, a percent sign with two
  hexadecimal digits for a byte; other percent signs stand for themselves.
  The bytes are text, with a replacement character for what is malformed.
  Empty pieces are no parameters; of two with one name the later counts.

  * `decode`: the parameters of a query;
  * `get?_decode`: of the pieces with a name the last one counts.
-/
import HomeGateway.Text.Digits
import HomeGateway.Text.Utf8

namespace HomeGateway.Connection.QueryText

open HomeGateway

/-- The bytes of a character. -/
def bytesOf (c : Char) : List UInt8 :=
  (String.singleton c).toUTF8.toList

/-- The bytes that a piece of a query stands for. -/
def unescape : List Char → List UInt8
  | [] => []
  | '+' :: rest => 0x20 :: unescape rest
  | '%' :: a :: b :: rest =>
    match Text.hexValue? a, Text.hexValue? b with
    | some x, some y => UInt8.ofNat (x * 16 + y) :: unescape rest
    | _, _ => bytesOf '%' ++ unescape (a :: b :: rest)
  | c :: rest => bytesOf c ++ unescape rest
termination_by cs => cs.length

/-- The text that a piece of a query stands for. -/
def pieceText (cs : List Char) : String :=
  Text.Utf8.decodeLossy (unescape cs)

/-- The parameter that a piece is. -/
def parameter (piece : List Char) : String × String :=
  (pieceText (piece.takeWhile (· ≠ '=')), pieceText ((piece.dropWhile (· ≠ '=')).drop 1))

/-- Parameters of distinct names. -/
abbrev Parameters := List (String × String)

/-- Set a parameter. -/
def Parameters.insert (name value : String) (ps : Parameters) : Parameters :=
  (name, value) :: ps.filter (·.1 ≠ name)

/-- The value of a parameter. -/
def Parameters.get? (name : String) (ps : Parameters) : Option String :=
  (ps.find? (·.1 = name)).map Prod.snd

/-- The parameters of a query. -/
def decode (query : String) : Parameters :=
  ((query.toList.splitOn '&').filter (· ≠ [])).foldl
    (fun ps piece => Parameters.insert (parameter piece).1 (parameter piece).2 ps) []

theorem get?_insert_self (name value : String) (ps : Parameters) :
    (ps.insert name value).get? name = some value := by
  simp [Parameters.insert, Parameters.get?]

theorem get?_insert_of_ne {name other : String} (value : String) (ps : Parameters)
    (h : other ≠ name) : (ps.insert name value).get? other = ps.get? other := by
  have hn : ¬ name = other := fun e => h e.symm
  simp only [Parameters.insert, Parameters.get?, List.find?_cons, hn, decide_false, List.find?_filter]
  congr 2
  funext p
  by_cases hp : p.1 = other
  · simp [hp, h]
  · simp [hp]

/-- What a query says under a name is what its last piece of that name says. -/
theorem get?_decode (query name : String) :
    (decode query).get? name =
      ((((query.toList.splitOn '&').filter (· ≠ [])).map parameter).reverse.find?
        (·.1 = name)).map Prod.snd := by
  have walk : ∀ pieces : List (List Char),
      Parameters.get? name (pieces.foldr (fun piece ps =>
        Parameters.insert (parameter piece).1 (parameter piece).2 ps) []) =
          ((pieces.map parameter).find? (·.1 = name)).map Prod.snd := by
    intro pieces
    induction pieces with
    | nil => rfl
    | cons piece rest ih =>
      rw [List.foldr_cons, List.map_cons, List.find?_cons]
      by_cases own : (parameter piece).1 = name
      · simp [← own, get?_insert_self]
      · rw [get?_insert_of_ne _ _ (Ne.symm own), ih]
        simp [own]
  unfold decode
  rw [List.foldl_eq_foldr_reverse, walk, List.map_reverse]

end HomeGateway.Connection.QueryText
