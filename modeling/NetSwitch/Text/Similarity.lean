import NetSwitch.Double

/-! How alike two words are.

Two equal letters match if they are not further apart than half the longer word.
The likeness is the mean of three shares: of the letters of either word that
match, and of the matches that come in the same order.  It is worked out in
double precision, because where it is as great as the threshold, or as that of
another word, the rounding decides.
-/

namespace NetSwitch.Text

/-- Marks the first letter that equals `c`, is not marked, and has a place from
`low` to `high`. -/
def markFirst (c : Char) (low high : Nat) : Nat → List (Char × Bool) → Option (List (Char × Bool))
  | _, [] => none
  | place, (d, marked) :: rest =>
      if low ≤ place ∧ place ≤ high ∧ c = d ∧ !marked then some ((d, true) :: rest)
      else (markFirst c low high (place + 1) rest).map ((d, marked) :: ·)

/-- The letters of a word that match, and the other word with its matches marked. -/
def matchLetters (range : Nat) : Nat → List Char → List (Char × Bool) →
    List Char × List (Char × Bool)
  | _, [], marks => ([], marks)
  | place, c :: rest, marks =>
      match markFirst c (place - range) (place + range) 0 marks with
      | some marks =>
          let (matched, marks) := matchLetters range (place + 1) rest marks
          (c :: matched, marks)
      | none => matchLetters range (place + 1) rest marks

/-- The likeness of two words: zero if nothing matches, one if they are the same. -/
def likeness (a b : String) : Nat :=
  let a := a.toList
  let b := b.toList
  let range := max a.length b.length / 2 - 1
  let (matched, marks) := matchLetters range 0 a (b.map (·, false))
  let other := (marks.filter (·.2)).map (·.1)
  let n := matched.length
  if n = 0 then 0
  else
    let crossed := ((matched.zip other).filter fun (c, d) => c ≠ d).length / 2
    let shares := Double.sum (Double.sum (Double.ratio n a.length) (Double.ratio n b.length))
      (Double.ratio (n - crossed) n)
    Double.quotient shares 3

def threshold : Nat :=
  Double.ratio 7 10

/-- The candidate that is most like a word, if one is like it at all.  Of two that
are alike the later counts. -/
def mostSimilar? (word : String) (candidates : List String) : Option String :=
  (candidates.foldl (fun (best : Nat × Option String) candidate =>
    let found := likeness word candidate
    if threshold < found ∧ best.1 ≤ found then (found, some candidate) else best)
    (threshold, none)).2

end NetSwitch.Text
