import ConfigGate.Text.Blank
import ConfigGate.Text.Case

/-! The names that an administrator keeps out of sight. A name is matched as a whole: it hides
exactly the path that it spells, up to case and the direction of slashes. -/
namespace ConfigGate

/-- Backslashes become slashes. -/
def forwardSlash (c : Char) : Char :=
  if c = '\\' then '/' else c

/-- A path as typed, with slashes in one direction only. -/
def withForwardSlashes (path : String) : String :=
  String.ofList (path.toList.map forwardSlash)

/-- The key under which a name is compared. Two names that differ in case or in the direction of
their slashes have one key. -/
def nameKey (name : String) : String :=
  Text.upper (withForwardSlashes name)

/-- The hidden names as their keys, in ascending order and without repetition. -/
structure HiddenNames where
  keys : List String
deriving DecidableEq, Repr

namespace HiddenNames

/-- Put a key in its place. A key that is there already is not repeated. -/
def insertKey (key : String) : List String → List String
  | [] => [key]
  | first :: rest =>
    if key = first then first :: rest
    else if key < first then key :: first :: rest
    else first :: insertKey key rest

/-- The names of a list, each trimmed. Blank names hide nothing and are dropped. -/
def ofList (names : List String) : HiddenNames :=
  ⟨((names.map Text.strip).filter (· ≠ "")).foldl (fun keys n => insertKey (nameKey n) keys) []⟩

/-- Nothing is hidden. -/
def empty : HiddenNames := ⟨[]⟩

def size (hidden : HiddenNames) : Nat := hidden.keys.length

/-- The path spells a hidden name. -/
def hides (hidden : HiddenNames) (path : String) : Bool :=
  hidden.keys.contains (nameKey path)

/-- The size of the set, for messages. The names themselves are not shown. -/
def describe (hidden : HiddenNames) : String :=
  "HiddenFileRegistry(count=" ++ toString hidden.size ++ ")"

end HiddenNames

end ConfigGate
