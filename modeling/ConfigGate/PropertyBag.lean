import ConfigGate.Json.Reader
import ConfigGate.Json.Writer
import ConfigGate.Keyed
import ConfigGate.Text.Quoted
import ConfigGate.Text.Utf8

/-! The properties of a cluster node: an immutable map from text to text, stored as one flat JSON
object. The order of the entries is kept for printing and does not count in comparisons. -/
namespace ConfigGate

/-- The properties of a node in the order in which their keys came first. -/
structure PropertyBag where
  entries : List (String × String)
  distinct : (entries.map Prod.fst).Nodup

namespace PropertyBag

/-- Why no bag can be made. -/
inductive Defect where
  /-- The last key of an argument list has no value. -/
  | unpaired
  /-- The text is no flat object of texts; so many things are wrong with it. -/
  | malformed (count : Nat)
deriving DecidableEq, Repr

/-- The defect in words. -/
def Defect.message : Defect → String
  | .unpaired => "arguments should be key,value"
  | .malformed count => "invalid node properties: " ++ toString count ++ " error(s)"

/-- The bag of the given pairs. The last value of a key counts. -/
def ofPairs (pairs : List (String × String)) : PropertyBag :=
  ⟨Keyed.lastWins pairs, Keyed.nodup_keys_lastWins pairs⟩

def empty : PropertyBag := ofPairs []

/-- The pairs of a list in which keys and values alternate. -/
def pairUp : List String → Option (List (String × String))
  | [] => some []
  | [_] => none
  | key :: value :: rest => (pairUp rest).map ((key, value) :: ·)

/-- The bag of a list in which keys and values alternate. -/
def ofArguments (arguments : List String) : Except Defect PropertyBag :=
  match pairUp arguments with
  | some pairs => .ok (ofPairs pairs)
  | none => .error .unpaired

/-- The value of a key. -/
def get? (bag : PropertyBag) (key : String) : Option String :=
  bag.entries.lookup key

def contains (bag : PropertyBag) (key : String) : Bool :=
  (bag.get? key).isSome

def keys (bag : PropertyBag) : List String :=
  bag.entries.map Prod.fst

def values (bag : PropertyBag) : List String :=
  bag.entries.map Prod.snd

def size (bag : PropertyBag) : Nat :=
  bag.entries.length

/-- The two bags map the same keys to the same values, in whatever order. -/
def same (a b : PropertyBag) : Bool :=
  a.size == b.size && a.entries.all fun (k, v) => b.get? k == some v

instance : BEq PropertyBag := ⟨same⟩

/-- The sum of the hashes of the entries, which does not depend on their order. -/
instance : Hashable PropertyBag :=
  ⟨fun bag => bag.entries.foldr (fun entry sum => hash entry + sum) 0⟩

/-- One line for each entry. -/
def lines (bag : PropertyBag) : String :=
  String.join (bag.entries.map fun (k, v) => k ++ "=" ++ v ++ "\n")

/-- The bag for messages, on one line of printable characters. -/
def describe (bag : PropertyBag) : String :=
  let shown := bag.entries.map fun (k, v) => Text.quoted k ++ ": " ++ Text.quoted v
  "NodeProps(\x7b" ++ String.intercalate ", " shown ++ "\x7d)"

/-- The bag as a JSON object. -/
def toJson (bag : PropertyBag) : Json.Value :=
  .object (bag.entries.map fun (k, v) => (↑k, .text v))

theorem isSome_text?_render (bag : PropertyBag) : bag.toJson.render.text?.isSome := by
  have hMembers (entries : List (String × String)) :
      Json.membersAreWhole (entries.map fun (k, v) => (↑k, .text v)) := by
    induction entries with
    | nil => rfl
    | cons entry rest ih => simp [Json.membersAreWhole, Json.Value.isWhole, ih]
  rw [Text.Wide.isSome_text?, Json.isWhole_render]
  exact hMembers bag.entries

/-- The stored form of a bag. -/
def write (bag : PropertyBag) : String :=
  bag.toJson.render.text?.get bag.isSome_text?_render

/-- Stored bags are nested at most two hundred levels deep before they are refused, not counting what
is empty, and hold whole characters only. -/
def storedLimits : Json.Limits :=
  { depth := 200, countsEmpty := false, numbers := .wholeCharacters 4300, loneSurrogates := false }

/-- The name and the value of a member, if both are texts of characters. -/
def textMember? : Text.Wide × Json.Value → Option (String × String)
  | (key, .text value) => do pure (← key.text?, ← value.text?)
  | _ => none

/-- The members whose values are texts, if all are, and else the number of those that are not. -/
def textMembers : List (Text.Wide × Json.Value) → Except Nat (List (String × String))
  | [] => .ok []
  | member :: rest =>
    match textMember? member, textMembers rest with
    | some entry, .ok entries => .ok (entry :: entries)
    | some _, .error count => .error count
    | none, .ok _ => .error 1
    | none, .error count => .error (count + 1)

/-- Read the stored form of a bag. Every value that is no text counts as one error, and a text that
is no JSON object is one error as a whole. -/
def read (stored : String) : Except Defect PropertyBag :=
  match Json.read storedLimits stored with
  | .ok (.object members) =>
    match textMembers members with
    | .ok pairs => .ok (ofPairs pairs)
    | .error count => .error (.malformed count)
  | _ => .error (.malformed 1)

/-- Read the stored form of a bag from its bytes. -/
def readBytes (stored : Bytes) : Except Defect PropertyBag :=
  match Text.Utf8.decode? stored with
  | some text => read text
  | none => .error (.malformed 1)

end PropertyBag

end ConfigGate
