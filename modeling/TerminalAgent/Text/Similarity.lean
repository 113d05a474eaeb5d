/-!
# Similar words

How alike two words are, as a fraction: the mean of the parts of each word that have a match in the
other, and of the matches that stand in order. Letters match if they are equal and not further apart
than half of the longer word.
-/

namespace TerminalAgent.Text

/-- The places in `b` that match letters of `a`, in the order of the letters of `a`. -/
def matchedPlaces (a b : List Char) : List (Char × Nat) :=
  let range := max a.length b.length / 2 - 1
  let places := b.zipIdx
  a.zipIdx.foldl
    (fun matched (c, i) =>
      let free := places.find? fun (d, j) =>
        c = d && i ≤ j + range && j ≤ i + range && !(matched.any (·.2 = j))
      match free with
      | some (_, j) => matched ++ [(c, j)]
      | none => matched)
    []

/-- A fraction. -/
structure Similarity where
  num : Nat
  den : Nat
  deriving Repr, DecidableEq

namespace Similarity

instance : LT Similarity := ⟨fun x y => x.num * y.den < y.num * x.den⟩

instance (x y : Similarity) : Decidable (x < y) :=
  inferInstanceAs (Decidable (x.num * y.den < y.num * x.den))

/-- Words less alike than this have nothing to do with each other. -/
def threshold : Similarity := ⟨7, 10⟩

/-- How alike two words are. -/
def ofWords (a b : String) : Similarity :=
  let (a, b) := (a.toList, b.toList)
  let matched := matchedPlaces a b
  let count := matched.length
  if a = [] && b = [] then ⟨1, 1⟩
  else if count = 0 then ⟨0, 1⟩
  else
    let inOrder := (matched.map (·.2)).mergeSort.filterMap fun j => b[j]?
    let misplaced := ((matched.map (·.1)).zip inOrder).countP fun (c, d) => c ≠ d
    let swaps := misplaced / 2
    ⟨count * b.length * count + count * a.length * count + (count - swaps) * a.length * b.length,
      3 * a.length * b.length * count⟩

end Similarity

/-- The words that are like a given one, the most similar last. -/
def similarWords (word : String) (words : List String) : List String :=
  let rated := words.map fun other => (Similarity.ofWords word other, other)
  let close := rated.filter fun entry => decide (Similarity.threshold < entry.1)
  (close.mergeSort fun x y => !decide (y.1 < x.1)).map (·.2)

end TerminalAgent.Text
