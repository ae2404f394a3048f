/-!
# Similar names

When a command line names something that does not exist, the nearest names
that do are suggested. Nearness is the Jaro similarity of the two texts:
with `m` characters matching within half the longer length of each other and
`t` half the number of matched characters out of order,

  `sim = (m / |a| + m / |b| + (m - t) / m) / 3`,

and a name is suggested when its similarity exceeds 0.7. The similarity is
kept as an exact fraction, so comparisons do not round.
-/

namespace RoomConsole.Cli

/-- A Jaro similarity as a fraction: numerator and positive denominator. -/
structure Similarity where
  num : Nat
  den : Nat

/-- `a ≤ b` on similarities. -/
def Similarity.le (a b : Similarity) : Bool := a.num * b.den ≤ b.num * a.den

/-- The similarity exceeds 7/10. -/
def Similarity.close (a : Similarity) : Bool := 10 * a.num > 7 * a.den

/-- Mark the characters of `b` that match the characters of `a`, each
character of `a` taking the first unmarked equal character of `b` within
`range` of its own position. Returns the positions of `a` that matched and
the marks on `b`. -/
def jaroMatch (range : Nat) (b : List Char) : Nat → List Char → List Nat × List Bool → List Nat × List Bool
  | _, [], acc => acc
  | i, c :: rest, (hits, marks) =>
    let lo := i - range
    let hi := min b.length (i + range + 1)
    let found := (List.range hi).find? fun j =>
      lo ≤ j && b[j]? = some c && !(marks[j]?.getD true)
    match found with
    | some j => jaroMatch range b (i + 1) rest (hits ++ [i], marks.set j true)
    | none => jaroMatch range b (i + 1) rest (hits, marks)

/-- The Jaro similarity of two texts. -/
def jaro (a b : String) : Similarity :=
  let as := a.toList
  let bs := b.toList
  if as.isEmpty && bs.isEmpty then ⟨1, 1⟩
  else if as.isEmpty || bs.isEmpty then ⟨0, 1⟩
  else
    let range := max as.length bs.length / 2 - 1
    let (hits, marks) := jaroMatch range bs 0 as ([], List.replicate bs.length false)
    let m := hits.length
    if m = 0 then ⟨0, 1⟩
    else
      let fromA := hits.filterMap fun i => as[i]?
      let fromB := ((List.range bs.length).filter fun j => marks[j]?.getD false).filterMap fun j => bs[j]?
      let t := ((fromA.zip fromB).filter fun (x, y) => x ≠ y).length / 2
      let la := as.length
      let lb := bs.length
      -- (m/la + m/lb + (m-t)/m) / 3 over the common denominator 3·la·lb·m
      ⟨m * lb * m + m * la * m + (m - t) * la * lb, 3 * la * lb * m⟩

/-- The names similar to a text, least similar first; among equally similar
names, the earlier one first. -/
def similarNames (v : String) (names : List String) : List String :=
  let scored := (names.map fun n => (jaro v n, n)).filter fun (s, _) => s.close
  (scored.mergeSort fun x y => x.1.le y.1).map (·.2)

/-- The name most similar to a text, if any is close enough; among equally
similar names, the later one. -/
def mostSimilar (v : String) (names : List String) : Option String :=
  (similarNames v names).getLast?

end RoomConsole.Cli
