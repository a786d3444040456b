import ConfigGate.Http.Request
import ConfigGate.Keyed
import ConfigGate.Text.Blank

/-! Header values of the form `name; key=value; key=value`, such as media types and the dispositions
of the parts of a form. Values may be quoted. -/
namespace ConfigGate.Http

/-- The name and the parameters of a header value. Of parameters with the same key the last counts. -/
structure MediaType where
  name : String
  parameters : List (String × String)
deriving DecidableEq, Repr

namespace MediaType

/-- Split at the semicolons outside of quotes. A quote after a backslash opens and closes nothing.
`piece` holds the characters of the current piece, latest first. -/
def pieces : (quoted escaped : Bool) → (piece text : List Char) → List (List Char)
  | _, _, piece, [] => [piece.reverse]
  | quoted, escaped, piece, c :: rest =>
    if c = ';' && !quoted then piece.reverse :: pieces false false [] rest
    else pieces (quoted != (c = '"' && !escaped)) (c = '\\') (c :: piece) rest

/-- Take spaces and tabs off both ends. -/
def trim (text : List Char) : List Char :=
  Text.trimWhile (fun c => c == ' ' || c == '\t') text

/-- Replace each occurrence of a pair of characters by one character. -/
def replacePair (a b by' : Char) : List Char → List Char
  | x :: y :: rest =>
    if x = a ∧ y = b then by' :: replacePair a b by' rest else x :: replacePair a b by' (y :: rest)
  | text => text

/-- What stands between quotes, with its escapes resolved. Any other text stands for itself. -/
def unquote (text : List Char) : List Char :=
  match text with
  | '"' :: rest@(_ :: _) =>
    if rest.getLast? = some '"' then
      replacePair '\\' '"' '"' (replacePair '\\' '\\' '\\' rest.dropLast)
    else text
  | _ => text

/-- The key and the value of a piece. The case of the key does not matter, and a piece without an equals
sign has the empty value. -/
def parameter (piece : List Char) : String × String :=
  let (key, rest) := piece.span (· != '=')
  (Text.lower (String.ofList (trim key)), String.ofList (unquote (trim (rest.drop 1))))

/-- Read a header value. The case of the name does not matter. -/
def parse (value : String) : MediaType :=
  match pieces false false [] value.toList with
  | [] => ⟨"", []⟩
  | name :: parameters =>
    ⟨Text.lower (String.ofList (trim name)), Keyed.lastWins (parameters.map parameter)⟩

def parameter? (type : MediaType) (key : String) : Option String :=
  type.parameters.lookup key

end MediaType

end ConfigGate.Http
