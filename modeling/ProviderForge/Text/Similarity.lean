/-!
The similarity of two words after Jaro. Letters match if they are equal and not far apart;
letters that match in another order are transposed.
-/

namespace ProviderForge.Text.Similarity

/-- The position of the first letter that is not taken yet, from a position on and within a
count of letters. -/
def firstFree? (letter : Char) (taken : List Nat) (position from' limit : Nat) :
    List Char → Option Nat
  | [] => none
  | other :: rest =>
      if limit ≤ position then none
      else if from' ≤ position ∧ letter = other ∧ !taken.contains position then some position
      else firstFree? letter taken (position + 1) from' limit rest

/-- The positions in the second word that match letters of the first, in the order of the
first. -/
def matchesFrom (reach position : Nat) (taken : List Nat) (second : List Char) :
    List Char → List Nat
  | [] => []
  | letter :: rest =>
      match firstFree? letter taken 0 (position - reach) (position + reach + 1) second with
      | some found => found :: matchesFrom reach (position + 1) (found :: taken) second rest
      | none => matchesFrom reach (position + 1) taken second rest

def reach (first second : List Char) : Nat :=
  max first.length second.length / 2 - 1

def matchPositions (first second : List Char) : List Nat :=
  matchesFrom (reach first second) 0 [] second first

/-- Half the number of matches whose letters differ when both words are read in order. -/
def transpositions (second : List Char) (positions : List Nat) : Nat :=
  let ordered := positions.mergeSort
  let differing := (positions.zip ordered).countP fun (found, expected) =>
    second[found]? != second[expected]?
  differing / 2

structure Degree where
  numerator : Nat
  denominator : Nat
deriving DecidableEq, Repr

namespace Degree

def isAtMost (left right : Degree) : Bool :=
  left.numerator * right.denominator ≤ right.numerator * left.denominator

end Degree

/-- The mean of three shares: of matches in either word, and of matches in order. -/
def degree (first second : String) : Degree :=
  let left := first.toList
  let right := second.toList
  let positions := matchPositions left right
  let count := positions.length
  if count = 0 then ⟨0, 1⟩
  else
    let inOrder := count - transpositions right positions
    ⟨count * right.length * count + count * left.length * count +
        inOrder * left.length * right.length,
      3 * left.length * right.length * count⟩

end ProviderForge.Text.Similarity
