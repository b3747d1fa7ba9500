/-!
# Sorted spans of code points

A character class of Unicode is kept as an array of closed spans `(lo, hi)`, sorted and
disjoint, and membership is a binary search over them.
-/

namespace Autoresponder.Text

/-- A run of the case table: every `step`-th code point from `lo` to `hi` maps to itself
plus `shift`. -/
structure CaseRun where
  lo : Nat
  hi : Nat
  step : Nat
  shift : Int

/-- Binary search for `n` among the spans with index in `[lo, hi)`. -/
def spanSearch (spans : Array (Nat × Nat)) (n : Nat) (lo hi : Nat) : Bool :=
  if lo < hi then
    let mid := (lo + hi) / 2
    match spans[mid]? with
    | none => false
    | some (a, b) =>
      if n < a then spanSearch spans n lo mid
      else if b < n then spanSearch spans n (mid + 1) hi
      else true
  else false
termination_by hi - lo

/-- Whether the code point `n` lies in one of the sorted spans. -/
def inSpans (spans : Array (Nat × Nat)) (n : Nat) : Bool :=
  spanSearch spans n 0 spans.size

/-- Binary search for the run of the case table that holds `n`. -/
def runSearch (runs : Array CaseRun) (n : Nat) (lo hi : Nat) : Option CaseRun :=
  if lo < hi then
    let mid := (lo + hi) / 2
    match runs[mid]? with
    | none => none
    | some r =>
      if n < r.lo then runSearch runs n lo mid
      else if r.hi < n then runSearch runs n (mid + 1) hi
      else some r
  else none
termination_by hi - lo

/-- Binary search, among the entries with index in `[lo, hi)` of an array sorted along
`place`, for an entry that `place` puts at the target: `.lt` says the target lies before the
entry, `.gt` after it, and `.eq` that the entry is the one sought. -/
def sortedSearch {α : Type} (xs : Array α) (place : α → Ordering) (lo hi : Nat) : Option α :=
  if lo < hi then
    let mid := (lo + hi) / 2
    match xs[mid]? with
    | none => none
    | some x =>
      match place x with
      | .lt => sortedSearch xs place lo mid
      | .gt => sortedSearch xs place (mid + 1) hi
      | .eq => some x
  else none
termination_by hi - lo

/-- The value of the run `(lo, hi, value)` that holds the code point `n`, among sorted and
disjoint runs. -/
def runValue? {α : Type} (runs : Array (Nat × Nat × α)) (n : Nat) : Option α :=
  let place : Nat × Nat × α → Ordering := fun (a, b, _) =>
    if n < a then .lt else if b < n then .gt else .eq
  (sortedSearch runs place 0 runs.size).map (·.2.2)

end Autoresponder.Text
