import ConfigGate.Text.Utf8

/-! Path names as text and as components. Nothing here looks at a file tree. -/
namespace ConfigGate

/-- Where an entry of a file tree stands: the names from the root directory down to it. -/
abbrev Location := List String

/-- Where a path name starts: at the working directory or at the root. Exactly two slashes at the
start are kept apart from one slash, as the standard for path names allows. -/
inductive Anchor where
  | relative
  | root
  | doubleRoot
deriving DecidableEq, Repr

namespace Anchor

def text : Anchor → String
  | .relative => ""
  | .root => "/"
  | .doubleRoot => "//"

end Anchor

/-- A path name without empty components and without components `.`. Components `..` are kept, since
what they mean depends on links. -/
structure Path where
  anchor : Anchor
  parts : List String
deriving DecidableEq, Repr

namespace Path

/-- The pieces of a text between slashes, empty ones included. -/
def pieces (text : String) : List String :=
  (text.toList.splitOn '/').map String.ofList

/-- The component says nothing about the way through the tree. -/
def isIdle (part : String) : Bool :=
  part == "" || part == "."

/-- The anchor of a text: the number of its leading slashes counts. -/
def anchorOf (text : String) : Anchor :=
  match (text.toList.takeWhile (· == '/')).length with
  | 0 => .relative
  | 2 => .doubleRoot
  | _ => .root

/-- Read a path name. -/
def parse (text : String) : Path :=
  ⟨anchorOf text, (pieces text).filter (!isIdle ·)⟩

/-- The path name as text. The empty relative path is written as a dot. -/
def text (p : Path) : String :=
  if p.anchor = .relative && p.parts.isEmpty then "."
  else p.anchor.text ++ String.intercalate "/" p.parts

/-- The path name of a location. -/
def ofLocation (location : Location) : Path :=
  ⟨.root, location⟩

/-- The path `name` seen from `base`. An absolute name does not depend on the base. -/
def join (base : Path) (name : Path) : Path :=
  match name.anchor with
  | .relative => ⟨base.anchor, base.parts ++ name.parts⟩
  | _ => name

/-- The last component, or nothing for the root and the empty path. -/
def name (p : Path) : String :=
  p.parts.getLast?.getD ""

/-- The path without its last component. -/
def parent (p : Path) : Path :=
  ⟨p.anchor, p.parts.dropLast⟩

/-- The path with one more component. -/
def child (p : Path) (name : String) : Path :=
  ⟨p.anchor, p.parts ++ [name]⟩

/-- The path name seen from the root, if `working` is the working directory. -/
def absolute (p : Path) (working : Location) : Path :=
  (ofLocation working).join p

/-- One component of a path, taken by its text alone: a component `..` takes the last one away. -/
def descend (location : Location) (part : String) : Location :=
  if isIdle part then location
  else if part = ".." then location.dropLast
  else location ++ [part]

/-- The absolute path with its components `..` resolved by their text alone. -/
def lexical (p : Path) (working : Location) : Path :=
  let p := p.absolute working
  ⟨p.anchor, p.parts.foldl descend []⟩

/-- What follows `base` in a list that starts with it. -/
def below? (base whole : List String) : Option (List String) :=
  if base.isPrefixOf whole then some (whole.drop base.length) else none

/-- Components joined by slashes. No components are written as a dot. -/
def relativeText (parts : List String) : String :=
  (⟨.relative, parts⟩ : Path).text

/-- The components of a path after those of `base`. -/
def relativeTo? (p base : Path) : Option (List String) :=
  if p.anchor = base.anchor then below? base.parts p.parts else none

/-- The number of bytes of a name or path. -/
def byteLength (text : String) : Nat :=
  text.utf8ByteSize

/-- A NUL cannot be handed to the system. -/
def hasNul (p : Path) : Bool :=
  p.parts.any fun part => part.toList.contains '\x00'

end Path

end ConfigGate
