/-
  A check digit that finds every single wrong digit and nearly every swap of
  two neighbours.

  Digits are multiplied in the dihedral group of ten elements, each after a
  permutation that depends on its position; the check digit is the inverse of
  the product.  A row of digits that ends in its check digit has the product
  zero.
-/

namespace HomeGateway.Pairing.CheckDigit

/-- The multiplication table of the dihedral group of ten elements. -/
def table : List (List Nat) :=
  [[0, 1, 2, 3, 4, 5, 6, 7, 8, 9],
   [1, 2, 3, 4, 0, 6, 7, 8, 9, 5],
   [2, 3, 4, 0, 1, 7, 8, 9, 5, 6],
   [3, 4, 0, 1, 2, 8, 9, 5, 6, 7],
   [4, 0, 1, 2, 3, 9, 5, 6, 7, 8],
   [5, 9, 8, 7, 6, 0, 4, 3, 2, 1],
   [6, 5, 9, 8, 7, 1, 0, 4, 3, 2],
   [7, 6, 5, 9, 8, 2, 1, 0, 4, 3],
   [8, 7, 6, 5, 9, 3, 2, 1, 0, 4],
   [9, 8, 7, 6, 5, 4, 3, 2, 1, 0]]

/-- The permutations of the digits, by position from the right. -/
def permutations : List (List Nat) :=
  [[0, 1, 2, 3, 4, 5, 6, 7, 8, 9],
   [1, 5, 7, 6, 2, 8, 3, 0, 9, 4],
   [5, 8, 0, 3, 7, 9, 6, 1, 4, 2],
   [8, 9, 1, 6, 0, 4, 3, 5, 2, 7],
   [9, 4, 5, 3, 1, 2, 7, 6, 8, 0],
   [4, 2, 8, 6, 5, 7, 3, 9, 0, 1],
   [2, 7, 9, 3, 8, 0, 6, 4, 1, 5],
   [7, 0, 4, 6, 9, 1, 3, 2, 5, 8]]

/-- The inverses of the ten elements. -/
def inverses : List Nat :=
  [0, 4, 3, 2, 1, 5, 6, 7, 8, 9]

/-- The product of two elements. -/
def times (a b : Nat) : Nat :=
  (table.getD a []).getD b 0

/-- The digit `d` as it counts at a position from the right. -/
def permute (position d : Nat) : Nat :=
  (permutations.getD (position % 8) []).getD d 0

/-- The product `acc` goes on with the digits from `position` on, the
    rightmost first. -/
def product (acc position : Nat) : List Nat → Nat
  | [] => acc
  | d :: ds => product (times acc (permute position d)) (position + 1) ds

/-- The check digit of a row of digits. -/
def checkDigit (digits : List Nat) : Nat :=
  inverses.getD (product 0 1 digits.reverse) 0

end HomeGateway.Pairing.CheckDigit
