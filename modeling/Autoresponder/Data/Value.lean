/-!
# Dynamic values

The data that crosses the program's edges, such as webhook payloads, chatbot graphs, API
bodies and stored settings documents, is a tree of null, booleans, integers, floats, texts,
lists and objects. An object keeps its keys in the order they were first written, and writing
a key again replaces its value in place.
-/

namespace Autoresponder

/-- A dynamic value. Integers are unbounded; floats are binary doubles. -/
inductive Value where
  | null
  | bool (b : Bool)
  | int (n : Int)
  | float (x : Float)
  | str (s : String)
  | list (xs : List Value)
  | dict (kvs : List (String × Value))
  deriving Inhabited

namespace Value

/-- The value under `key` of an object, if it is an object that has the key. -/
def get? : Value → String → Option Value
  | .dict kvs, key => kvs.lookup key
  | _, _ => none

/-- The value under `key`, with null standing for a missing key or a value that is no object. -/
def getD (v : Value) (key : String) : Value := (v.get? key).getD .null

/-- Whether an object has the key. -/
def has (v : Value) (key : String) : Bool := (v.get? key).isSome

/-- Writes `key` of an association list: in place when present, else at the end. -/
def setIn (kvs : List (String × Value)) (key : String) (x : Value) : List (String × Value) :=
  if kvs.any (·.1 == key) then kvs.map fun (k, y) => if k == key then (k, x) else (k, y)
  else kvs ++ [(key, x)]

/-- Writes `key` of an object; a value that is no object is left as it is. -/
def set : Value → String → Value → Value
  | .dict kvs, key, x => .dict (setIn kvs key x)
  | v, _, _ => v

/-- Removes `key` from an association list. -/
def eraseIn (kvs : List (String × Value)) (key : String) : List (String × Value) :=
  kvs.filter (·.1 != key)

/-- The name of the kind of a value, as error texts spell it. -/
def kindName : Value → String
  | .null => "NoneType"
  | .bool _ => "bool"
  | .int _ => "int"
  | .float _ => "float"
  | .str _ => "str"
  | .list _ => "list"
  | .dict _ => "dict"

/-- Truth of a value: null, false, zero, and empty texts, lists and objects are false. -/
def truthy : Value → Bool
  | .null => false
  | .bool b => b
  | .int n => n != 0
  | .float x => x != 0.0
  | .str s => !s.isEmpty
  | .list xs => !xs.isEmpty
  | .dict kvs => !kvs.isEmpty

/-- The text of a text value. -/
def asStr? : Value → Option String
  | .str s => some s
  | _ => none

/-- Whether the value is null. -/
def isNull : Value → Bool
  | .null => true
  | _ => false

mutual

/-- The number of nodes of a value tree. -/
def size : Value → Nat
  | .list xs => sizeItems xs + 1
  | .dict kvs => sizeMembers kvs + 1
  | _ => 1

/-- The number of nodes of list items. -/
def sizeItems : List Value → Nat
  | [] => 0
  | x :: xs => x.size + sizeItems xs

/-- The number of nodes of object members. -/
def sizeMembers : List (String × Value) → Nat
  | [] => 0
  | (_, v) :: kvs => v.size + sizeMembers kvs

end

/-- An object from its entries. -/
def obj (kvs : List (String × Value)) : Value := .dict kvs

/-- A text value, or null. -/
def ofOption (o : Option String) : Value := match o with
  | some s => .str s
  | none => .null

end Value

end Autoresponder
