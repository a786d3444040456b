import ConfigGate.Access.Guard
import ConfigGate.Text.LineEnds

/-! Reading configuration files for other parts of the program. A hidden or missing file reads as
empty. -/
namespace ConfigGate.Lookup

/-- The malformed bytes in words. -/
def describe (m : Text.Utf8.Malformed) : String :=
  let reason := match m.defect with
    | .startByte => "invalid start byte"
    | .continuation => "invalid continuation byte"
    | .truncated => "unexpected end of data"
  if m.width = 1 then
    "'utf-8' codec can't decode byte 0x" ++ String.ofList (Text.hexPadded 2 m.firstByte.toNat) ++
      " in position " ++ toString m.position ++ ": " ++ reason
  else
    "'utf-8' codec can't decode bytes in position " ++ toString m.position ++ "-" ++
      toString (m.position + m.width - 1) ++ ": " ++ reason

/-- Why the text of a file cannot be had. -/
inductive Trouble where
  | system (e : SystemError)
  | undecodable (m : Text.Utf8.Malformed)
deriving DecidableEq, Repr

namespace Trouble

def message : Trouble → String
  | .system e => e.message
  | .undecodable m => describe m

def record : Trouble → String
  | .system e => e.record
  | .undecodable m => "UnicodeDecodeError: " ++ describe m

end Trouble

/-- The text of the file that a path leads to. -/
def textAt (s : Setting) (p : Path) (tree : Tree) : Except Trouble String :=
  match tree.openForReading s.site.working p with
  | .error errno => .error (.system (Setting.refusal p errno))
  | .ok number =>
    let bytes := ((tree.data? number).map (·.bytes)).getD []
    match Text.Utf8.decode bytes with
    | .error m => .error (.undecodable m)
    | .ok text => .ok (String.ofList (Text.unifyLineEnds text.toList))

/-- The text of a file below the root. -/
def contents (s : Setting) (root : Path) (file : String) : Act String := do
  if ← Act.ask fun world => Guard.isHidden s root file world.tree then
    Act.log (.lookupHidden file)
    return ""
  let target ← Guard.check s root file
  match textAt s target (← get).tree with
  | .ok text => return text
  | .error (.system e) =>
    if e.errno = .noEntry then
      Act.log (.lookupMissing file)
      return ""
    else
      Act.log (.lookupFailed file e.message e.record)
      throw .internal
  | .error trouble =>
    Act.log (.lookupFailed file trouble.message trouble.record)
    throw .internal

end ConfigGate.Lookup
