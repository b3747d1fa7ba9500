import Autoresponder.Number.Double

/-!
# Redelivery filter

Providers deliver a webhook again when they think it was not acknowledged. The filter
remembers the message keys it has seen, with the time each was first seen; a key seen within
the time-to-live is a duplicate. Before each check, keys older than the time-to-live are
forgotten, and when more than the allowed number remain the oldest go first.
-/

namespace Autoresponder.Channel

open Autoresponder.Number

/-- The keys seen recently, in the order first seen, with the time of first sight. -/
structure Dedup where
  ttl : Double := .ofInt 600
  maxSize : Int := 10000
  seen : List (String × Double) := []
  deriving Inhabited

namespace Dedup

/-- Forgets keys older than the time-to-live, then the oldest keys beyond the size limit. -/
def prune (d : Dedup) (now : Double) : Dedup :=
  let cutoff := now - d.ttl
  let live := d.seen.filter fun e => !(e.2 < cutoff)
  let excess := (live.length : Int) - d.maxSize
  if excess > 0 then
    let oldest := ((live.mergeSort fun a b => a.2 ≤ b.2).take excess.toNat).map (·.1)
    { d with seen := live.filter fun e => !oldest.contains e.1 }
  else { d with seen := live }

/-- Whether a key is a duplicate at a time, and the filter after recording it. An empty key
is never a duplicate and is not recorded. -/
def check (d : Dedup) (key : String) (now : Double) : Bool × Dedup :=
  if key.isEmpty then (false, d)
  else
    let d := d.prune now
    if d.seen.any (·.1 == key) then (true, d)
    else (false, { d with seen := d.seen ++ [(key, now)] })

/-- The keys remembered, in the order first seen. -/
def keys (d : Dedup) : List String := d.seen.map (·.1)

end Dedup

end Autoresponder.Channel
