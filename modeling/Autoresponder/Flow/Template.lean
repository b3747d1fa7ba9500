import Autoresponder.Flow.Condition

/-!
# Placeholders

Texts written by a tenant may hold placeholders `{{ path }}`: two opening braces, optional
blanks, a dotted path of word characters and dots, optional blanks, two closing braces. Each
is replaced by the display text of the value at that path in the flow's variables; a path that
leads nowhere or to null leaves the placeholder as written. Placeholders are found left to
right without overlapping, and filling recurses into the values of objects and the items of
lists, never into keys.
-/

namespace Autoresponder.Flow

open Autoresponder.Text

/-- A placeholder at the start of a text: the path it names and the text after it. -/
def placeholderAt (cs : List Char) : Option (String × List Char) :=
  match cs with
  | '{' :: '{' :: rest =>
    let afterOpen := rest.dropWhile isBlank
    let path := afterOpen.takeWhile fun c => c == '.' || isWordChar c
    if path.isEmpty then none
    else
      match (afterOpen.drop path.length).dropWhile isBlank with
      | '}' :: '}' :: tail => some (String.ofList path, tail)
      | _ => none
  | _ => none

/-- Fills the placeholders of a text, with fuel bounding the number of characters read. -/
def fillChars (vars : Value) : Nat → List Char → List Char
  | 0, cs => cs
  | _ + 1, [] => []
  | fuel + 1, c :: cs =>
    match placeholderAt (c :: cs) with
    | some (path, tail) =>
      let shown := match lookupPath vars path with
        | .null => (c :: cs).take ((c :: cs).length - tail.length)
        | v => v.display.toList
      shown ++ fillChars vars fuel tail
    | none => c :: fillChars vars fuel cs

/-- A text with its placeholders filled from the variables. -/
def fillText (vars : Value) (s : String) : String :=
  String.ofList (fillChars vars (s.length + 1) s.toList)

mutual
/-- A value with the placeholders of every text inside it filled. -/
def fill (vars : Value) : Value → Value
  | .str s => .str (fillText vars s)
  | .list xs => .list (fillItems vars xs)
  | .dict kvs => .dict (fillMembers vars kvs)
  | v => v
/-- Fills each item of a list. -/
def fillItems (vars : Value) : List Value → List Value
  | [] => []
  | x :: xs => fill vars x :: fillItems vars xs
/-- Fills each member value of an object. -/
def fillMembers (vars : Value) : List (String × Value) → List (String × Value)
  | [] => []
  | (k, x) :: kvs => (k, fill vars x) :: fillMembers vars kvs
end

end Autoresponder.Flow
