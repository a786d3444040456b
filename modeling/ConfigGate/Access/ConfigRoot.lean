import ConfigGate.Access.World

/-! The configuration root: the directory that all accessible files lie in. The directory on disk goes
before the one in the resource package. The first success is kept for good, and a failure is not. -/
namespace ConfigGate.ConfigRoot

/-- The path with the home directory in the place of a leading tilde. -/
def expandHome (site : Site) (p : Path) : Except Failure Path :=
  match p.anchor, p.parts with
  | .relative, first :: rest =>
    match first.toList with
    | '~' :: user =>
      let home := if user.isEmpty then some site.home else site.homes.lookup (String.ofList user)
      if user.contains '\x00' then .error .embeddedNul
      else match home with
      | some home =>
        let home := Path.parse home
        .ok ⟨home.anchor, home.parts ++ rest⟩
      | none => .error .unknownHome
    | _ => .ok p
  | _, _ => .ok p

/-- The dotted beginnings of a dotted name, shortest first. -/
def dottedPrefixes (name : String) : List String :=
  let parts := (name.toList.splitOn '.').map String.ofList
  (List.range parts.length).map fun n => String.intercalate "." (parts.take (n + 1))

/-- What is missing on the way to a dotted name: the shortest beginning that stands for nothing. -/
def missing? (packages : List (String × Package)) (name : String) : Option String :=
  (dottedPrefixes name).find? fun p => (packages.lookup p).isNone

/-- The name of the package that a dotted name lies in. -/
def outerName (name : String) : String :=
  String.intercalate "." (((name.toList.splitOn '.').map String.ofList).dropLast)

/-- The package with a dotted name, or why there is none. -/
def package (site : Site) (name : String) : Except String Package :=
  if name.toList.head? = some '.' then
    .error ("the 'package' argument is required to perform a relative import for " ++
      Text.quoted name)
  else
    match missing? site.packages name with
    | some absent =>
      let outer := outerName absent
      let reason := "No module named " ++ Text.quoted absent
      if site.packages.lookup outer = some .single then
        .error (reason ++ "; " ++ Text.quoted outer ++ " is not a package")
      else .error reason
    | none =>
      match site.packages.lookup name with
      | none | some .single => .error (Text.quoted name ++ " is not a package")
      | some package => .ok package

/-- The paths lead to directories. They are looked at in turn, up to the first that does not. -/
def allDirectories (s : Setting) (tree : Tree) : List Path → Except Failure Bool
  | [] => .ok true
  | p :: rest =>
    match s.isDirectory p tree with
    | .error failure => .error failure
    | .ok false => .ok false
    | .ok true => allDirectories s tree rest

/-- The first of the directories that has an entry with the name. -/
def holder (s : Setting) (tree : Tree) (name : String) : List Path → Except Failure (Option Path)
  | [] => .ok none
  | p :: rest =>
    match s.hasEntry p name tree with
    | .error failure => .error failure
    | .ok true => .ok (some p)
    | .ok false => holder s tree name rest

/-- The directory on disk in which the name stands for a resource of the package. A package that is spread
over several directories has it in the first that has such an entry, or might have it in the first one. -/
def packagePlace (s : Setting) (tree : Tree) (name : String) : Package → Except Failure (Option Path)
  | .directory path => .ok (some path)
  | .scattered first others =>
    match allDirectories s tree (first :: others) with
    | .error failure => .error failure
    | .ok false => .error .brokenPackage
    | .ok true => (holder s tree name (first :: others)).map fun found => some (found.getD first)
  | .archived | .single => .ok none

/-- The configuration directory in the resource package. Only a directory on disk counts. -/
def inPackage (s : Setting) : Act (Option Path) := do
  if s.service.resourcePackage = "" then return none
  match package s.site s.service.resourcePackage with
  | .error reason =>
    Act.log (.packageUnavailable s.service.resourcePackage reason)
    return none
  | .ok package =>
    match ← Act.ask fun world => packagePlace s world.tree s.service.configDir package with
    | none => return none
    | some base =>
      let candidate := base.join (Path.parse s.service.configDir)
      if ← Act.ask fun world => s.isDirectory candidate world.tree then
        return some (Path.ofLocation (← Act.ask fun world => s.canonical candidate world.tree))
      else return none

/-- Search for the root. -/
def search (s : Setting) : Act Path := do
  let onDisk ← Act.ask fun _ => expandHome s.site (Path.parse s.service.configDir)
  if ← Act.ask fun world => s.isDirectory onDisk world.tree then
    return Path.ofLocation (← Act.ask fun world => s.canonical onDisk world.tree)
  match ← inPackage s with
  | some root => return root
  | none =>
    let package := s.service.resourcePackage
    Act.log (.rootUnresolved s.service.configDir (if package = "" then none else some package))
    throw .noRoot

/-- The root. It is searched for until it has been found once. -/
def resolve (s : Setting) : Act Path := do
  match (← get).root with
  | some root => return root
  | none =>
    let root ← search s
    modify fun world => { world with root := some root }
    Act.log (.rootResolved root.text)
    return root

end ConfigGate.ConfigRoot
