import Autoresponder.Time.Rule
import Autoresponder.Time.Table.Names

/-!
# Zones

A zone is read from its history in the zone table: its local time types, the UTC seconds at
which the type in force changes, and what holds after the last change (a fixed offset, or a
rule with daylight saving).

Looking up an instant goes by the UTC changes; looking up a wall time goes by the changes
as wall times, which come in two readings. Around a change the same wall time can occur
twice (a fold) or not at all (a gap): the first reading puts each change at the later of
the wall times it joins, the second at the earlier. Before the first change the zone is in
its first standard-time type.
-/

namespace Autoresponder.Time

/-- A local time type: offset in seconds east of UTC, and whether it is daylight-saving
time. -/
structure LocalType where
  offset : Int
  isDst : Bool

/-- What holds after the last change: one offset, or a rule with daylight saving. -/
inductive Tail where
  | fixed (offset : Int)
  | rule (r : ZoneRule)

/-- A zone: its local time types, its changes as a UTC second and the offset in force from
then on, in time order, and what holds after the last change. -/
structure Zone where
  types : List LocalType
  changes : List (Int × Int)
  tail : Tail

namespace Zone

/-- The offset before the first change: that of the first standard-time type, or of the
first type when every type is daylight-saving time. -/
def before (z : Zone) : Int :=
  match z.types.find? (!·.isDst) with
  | some t => t.offset
  | none => (z.types.head?.map (·.offset)).getD 0

/-- The offset of the first listed type. -/
def firstType (z : Zone) : Int := (z.types.head?.map (·.offset)).getD 0

/-- The changes as wall seconds in the two readings: the first reading adds the larger of
the offsets before and after each change, the second the smaller. -/
def wallChanges (z : Zone) (second : Bool) : List Int :=
  let pick (a b : Int) : Int := if second then min a b else max a b
  let rec go (prev : Int) : List (Int × Int) → List Int
    | [] => []
    | (t, off) :: rest => (t + pick prev off) :: go off rest
  go z.firstType z.changes

/-- How many of the sorted seconds are at most `t`. -/
def countUpTo (ts : List Int) (t : Int) : Nat := (ts.takeWhile (· ≤ t)).length

/-- The offset at a UTC second after the last change, by the tail, and whether the wall
time it gives is the second reading of a fold. Right after the last change the fold is the
one between the offset in force before that change and the tail's offset. -/
def fromTail (z : Zone) (times offsets : List Int) (year t : Int) : Int × Bool :=
  let (off, second) := match z.tail with
    | .rule r => r.fromUtc year t
    | .fixed off => (off, false)
  match times.getLast? with
  | none => (off, second)
  | some last =>
    let prev := if times.length == 1 then z.before else offsets.getD (times.length - 2) 0
    let drop := prev - off
    (off, second || decide (drop > 0 ∧ t < last + drop))

/-- The offset at a UTC second from the list of changes, at or after the first change and
at or before the last, and whether the wall time it gives is the second reading of a fold:
it is when the offset drops by more than the time since the change. -/
def fromChanges (z : Zone) (times offsets : List Int) (t : Int) : Int × Bool :=
  let idx := countUpTo times t
  let (prev, cur) :=
    if idx ≥ 2 then (offsets.getD (idx - 2) 0, offsets.getD (idx - 1) 0)
    else (z.before, offsets.headD 0)
  (cur, decide (prev - cur > t - times.getD (idx - 1) 0))

/-- The offset at a UTC second, and whether the wall time it gives is the second reading
of a fold; `year` is the UTC year of that second. -/
def fromUtc (z : Zone) (year : Int) (t : Int) : Int × Bool :=
  let times := z.changes.map (·.1)
  let offsets := z.changes.map (·.2)
  if !times.isEmpty && t < times.headD 0 then (z.before, false)
  else if times.isEmpty || t > times.getLastD 0 then z.fromTail times offsets year t
  else z.fromChanges times offsets t

/-- The offset of a wall second in a reading; `year` is the local year. -/
def atWall (z : Zone) (year : Int) (t : Int) (second : Bool) : Int :=
  let walls := z.wallChanges second
  let n := walls.length
  if n > 0 && t < walls.headD 0 then z.before
  else if n == 0 || t > walls.getLastD 0 then
    match z.tail with
    | .rule r => r.atWall year t second
    | .fixed off => off
  else (z.changes.map (·.2)).getD (countUpTo walls t - 1) 0

/-- The value of a digit in base 64: `0`-`9`, `A`-`Z`, `a`-`z`, `+` and `/`. -/
def digit64? (c : Char) : Option Nat :=
  if '0' ≤ c && c ≤ '9' then some (c.toNat - '0'.toNat)
  else if 'A' ≤ c && c ≤ 'Z' then some (c.toNat - 'A'.toNat + 10)
  else if 'a' ≤ c && c ≤ 'z' then some (c.toNat - 'a'.toNat + 36)
  else if c == '+' then some 62
  else if c == '/' then some 63
  else none

/-- Reads a number of the table: base-64 digits, after a minus sign when it is negative. -/
def readInt? (s : String) : Option Int :=
  let digits (ds : List Char) : Option Nat :=
    if ds.isEmpty then none else ds.foldlM (fun acc c => (digit64? c).map (acc * 64 + ·)) 0
  match s.toList with
  | '-' :: ds => (digits ds).map fun n => -(n : Int)
  | ds => (digits ds).map fun n => (n : Int)

/-- The transition items of a history text with their repeats written out: an item `d:k*n`
ends a pair, begun by the item before it, that comes `n` times in a row. -/
def unfoldRepeats : List String → List String
  | a :: tail@(b :: rest) =>
    match b.splitOn "*" with
    | [item, n] => (List.replicate (n.toNat?.getD 0) [a, item]).flatten ++ unfoldRepeats rest
    | _ => a :: unfoldRepeats tail
  | items => items

/-- Reads a history text of the zone table. -/
def read? (text : String) : Option Zone := do
  let (typesText, stepsText, footer) ← match text.splitOn "|" with
    | [a, b, c] => some (a, b, c)
    | _ => none
  let types ← (typesText.splitOn " ").mapM fun item => match item.splitOn "," with
    | [o, d] => do pure (⟨← readInt? o, d != "0"⟩ : LocalType)
    | _ => none
  let steps ← if stepsText.isEmpty then pure [] else
    (unfoldRepeats (stepsText.splitOn " ")).mapM fun item => match item.splitOn ":" with
      | [d, k] => do pure (← readInt? d, ← k.toNat?)
      | _ => none
  let offsetOf (k : Nat) : Int := ((types.drop k).head?.map (·.offset)).getD 0
  let (changes, _) := steps.foldl (fun (acc : List (Int × Int) × Option Int) (d, k) =>
    let t := match acc.2 with
      | some prev => prev + d
      | none => d
    ((t, offsetOf k) :: acc.1, some t)) ([], none)
  let changes := changes.reverse
  let tail ← if footer.isEmpty then
      pure (Tail.fixed (match changes.getLast? with
        | some (_, off) => off
        | none => (types.getLast?.map (·.offset)).getD 0))
    else do
      let r ← ZoneRule.read? footer
      pure (if r.dst.isSome then Tail.rule r else Tail.fixed r.std)
  return ⟨types, changes, tail⟩

end Zone

/-! ## Names -/

/-- A relative path with empty and `.` segments dropped and each `..` taking away the
segment before it, when there is one; `.` when nothing is left. -/
def normalPath (path : String) : String :=
  let kept := (path.splitOn "/").foldl (fun acc part =>
    if part.isEmpty || part == "." then acc
    else if part == ".." then
      match acc with
      | last :: rest => if last == ".." then part :: acc else rest
      | [] => [part]
    else part :: acc) []
  let out := "/".intercalate kept.reverse
  if out.isEmpty then "." else out

/-- Why a zone name cannot name a zone file, if it cannot: zone names are relative paths
already in normal form that stay below the zone directory. -/
def keyRefusal (key : String) : Option String :=
  if key.startsWith "/" then some ("ZoneInfo keys may not be absolute paths, got: " ++ key)
  else
    let normal := normalPath key
    if normal.length != key.length then
      some ("ZoneInfo keys must be normalized relative paths, got: " ++ key)
    else if normal == "." || normal == ".." || normal.startsWith "../" then
      some ("ZoneInfo keys must refer to subdirectories of TZPATH, got: " ++ key)
    else none

/-- What a zone name finds in the zone directory: a zone, a file that holds no zone, or
nothing. -/
inductive Lookup where
  | found (z : Zone)
  | notZoneFile
  | missing

/-- The history number of a zone name in the table. -/
def historyNumber? (name : String) : Option Nat :=
  let items := Table.names.flatMap (·.splitOn " ")
  (items.find? (·.startsWith (name ++ ":"))).bind fun item =>
    (String.ofList (item.toList.drop (name.length + 1))).toNat?

/-- The name with leading `posix/` directories dropped: that directory holds the same
zones as the top one. -/
def dropPosixDirs (name : String) : Nat → String
  | 0 => name
  | fuel + 1 =>
    if name.startsWith "posix/" then dropPosixDirs (String.ofList (name.toList.drop 6)) fuel
    else name

/-- Looks a zone name up. Names under `posix/` find the same zones as without it, and
names under `right/` find the zone of the rest of the name. -/
def lookupZone (key : String) : Lookup :=
  let name := dropPosixDirs key key.length
  let name := if name.startsWith "right/" then String.ofList (name.toList.drop 6) else name
  match historyNumber? name with
  | some k => match Table.histories[k]?.bind Zone.read? with
    | some z => .found z
    | none => .missing
  | none => if Table.otherFiles.contains name then .notZoneFile else .missing

end Autoresponder.Time
