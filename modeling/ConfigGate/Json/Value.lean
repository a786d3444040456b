import ConfigGate.Decimal.Binary64
import ConfigGate.Keyed
import ConfigGate.Text.Wide

namespace ConfigGate.Json

open Text (Wide)

/-- A JSON document. The members of an object keep their order, and a name may occur in several of
them, as in the text of a document. -/
inductive Value where
  | null
  | bool (b : Bool)
  | int (n : Int)
  | real (x : Decimal.Binary64)
  | text (s : Wide)
  | list (items : List Value)
  | object (members : List (Wide × Value))

instance : Inhabited Value := ⟨.null⟩

mutual

/-- The document in which no object has two members of one name. -/
def Value.distinct : Value → Value
  | .list items => .list (distinctItems items)
  | .object members => .object (Keyed.lastWins (distinctMembers members))
  | other => other

def distinctItems : List Value → List Value
  | [] => []
  | v :: rest => v.distinct :: distinctItems rest

def distinctMembers : List (Wide × Value) → List (Wide × Value)
  | [] => []
  | (k, v) :: rest => (k, v.distinct) :: distinctMembers rest

end

mutual

/-- How many lists and objects lie within each other at most. -/
def Value.depth : Value → Nat
  | .list items => itemDepth items + 1
  | .object members => memberDepth members + 1
  | _ => 0

def itemDepth : List Value → Nat
  | [] => 0
  | v :: rest => max v.depth (itemDepth rest)

def memberDepth : List (Wide × Value) → Nat
  | [] => 0
  | (_, v) :: rest => max v.depth (memberDepth rest)

end

mutual

/-- No name and no text of the document has a lone half in it. -/
def Value.isWhole : Value → Bool
  | .text s => s.isWhole
  | .list items => itemsAreWhole items
  | .object members => membersAreWhole members
  | _ => true

def itemsAreWhole : List Value → Bool
  | [] => true
  | v :: rest => v.isWhole && itemsAreWhole rest

def membersAreWhole : List (Wide × Value) → Bool
  | [] => true
  | (name, v) :: rest => name.isWhole && v.isWhole && membersAreWhole rest

end

/-- The value of the first member with the name, if the document is an object. -/
def Value.get? (v : Value) (key : Wide) : Option Value :=
  match v with
  | .object members => members.lookup key
  | _ => none

end ConfigGate.Json
