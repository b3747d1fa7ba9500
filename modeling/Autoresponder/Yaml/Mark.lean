import Autoresponder.Data.Show

/-!
# Places in a YAML text, and why loading stops

A mark is a place in the text: how many characters come before it, and its line and column,
both counted from zero. Characters that end a line are the line feed, the next-line control
and the line and paragraph separators; a byte order mark takes no column.

Loading goes through stages, each of which may refuse the text: reading its characters,
cutting it into tokens, parsing the tokens into events, composing the events into a graph of
nodes, and constructing values from the nodes. A refusal names a problem and the place where
it was found, often with the construct being read and the place where that construct began.
Constructing a value from a scalar may also fail the way reading a number, a flag or a date
from text fails.
-/

namespace Autoresponder.Yaml

/-- A place in the text. -/
structure Mark where
  index : Nat
  line : Nat
  column : Nat
  deriving Inhabited, BEq

/-- The name a loaded text goes by in messages. -/
def sourceName : String := "<file>"

/-- The text of a mark in a message: its line and column counted from one. -/
def Mark.text (m : Mark) : String :=
  "  in \"" ++ sourceName ++ "\", line " ++ toString (m.line + 1) ++ ", column " ++
    toString (m.column + 1)

/-- The stage of loading that refused a text. -/
inductive Stage where
  | reading
  | scanning
  | parsing
  | composing
  | constructing
  deriving Inhabited, BEq

/-- A problem found at a place, perhaps inside a construct that began elsewhere. -/
structure Problem where
  context : Option String := none
  contextMark : Option Mark := none
  problem : String
  problemMark : Option Mark := none
  deriving Inhabited

/-- The message of a problem: the construct and where it began (unless that is where the
problem is), then the problem and its place, one to a line. -/
def Problem.message (p : Problem) : String :=
  let samePlace := match p.contextMark, p.problemMark with
    | some c, some q => c.line == q.line && c.column == q.column
    | _, _ => false
  let parts :=
    p.context.toList ++
    (match p.contextMark with
      | some c => if samePlace then [] else [c.text]
      | none => []) ++
    [p.problem] ++ (p.problemMark.map Mark.text).toList
  "\n".intercalate parts

/-- Why a text could not be loaded. -/
inductive Failure where
  /-- A stage refused the text. -/
  | refused (stage : Stage) (p : Problem)
  /-- The text holds a character that may not appear in it, at a position. -/
  | unacceptable (code : Nat) (position : Nat)
  /-- A scalar's text is not a value of its tag, or gives one out of range. -/
  | badValue (msg : String)
  /-- A number's text was empty where a first character was looked at. -/
  | noCharacter
  /-- A flag's text is none of the spellings of a flag. -/
  | noFlag (spelling : String)
  /-- A date's text did not have the form of a date at all. -/
  | noMatch
  /-- A date's text was looked for in what is not a text. -/
  | notText
  /-- A number grew too large for a float. -/
  | tooLarge
  /-- Values refer to themselves without end. -/
  | endless
  deriving Inhabited

/-- The message of a failure. -/
def Failure.message : Failure → String
  | .refused _ p => p.message
  | .unacceptable code position =>
    "unacceptable character #x" ++ hexPadded 4 code ++ ": special characters are not allowed\n" ++
      "  in \"" ++ sourceName ++ "\", position " ++ toString position
  | .badValue msg => msg
  | .noCharacter => "string index out of range"
  | .noFlag spelling => quoteText spelling
  | .noMatch => "'NoneType' object has no attribute 'groupdict'"
  | .notText => "expected string or bytes-like object, got 'list'"
  | .tooLarge => "int too large to convert to float"
  | .endless => "maximum recursion depth exceeded"

/-- A refusal while cutting the text into tokens. -/
def scanProblem (context : Option String) (contextMark : Option Mark) (problem : String)
    (place : Mark) : Failure :=
  .refused .scanning { context, contextMark, problem, problemMark := some place }

end Autoresponder.Yaml
