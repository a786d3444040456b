import ConfigGate.Keyed
import ConfigGate.Text.Blank
import ConfigGate.Text.LineEnds

/-! Files of environment variables: one assignment on a line, with quotes, comments, and references
to other variables. A line that is no assignment is skipped. -/
namespace ConfigGate.Settings.Dotenv

/-- Blanks other than line ends. -/
def isInlineBlank (c : Char) : Bool :=
  Text.isBlank c && c != '\n' && c != '\r'

def skipInline (text : List Char) : List Char :=
  text.dropWhile isInlineBlank

def isLineEnd (c : Char) : Bool :=
  c = '\n' || c = '\r'

/-- The text up to the closing quote and what follows the quote. A character after a backslash does
not close the text. -/
def closeQuote (quote : Char) : List Char → List Char → Option (List Char × List Char)
  | [], _ => none
  | '\\' :: c :: rest, found => closeQuote quote rest (c :: '\\' :: found)
  | c :: rest, found =>
    if c = quote then some (found.reverse, rest) else closeQuote quote rest (c :: found)

/-- The character that an escape in single quotes stands for. -/
def singleEscape? (c : Char) : Option Char :=
  if c = '\\' || c = '\'' then some c else none

/-- The character that an escape in double quotes stands for. -/
def doubleEscape? (c : Char) : Option Char :=
  match c with
  | '\\' => some '\\'
  | '\'' => some '\''
  | '"' => some '"'
  | 'a' => some '\x07'
  | 'b' => some '\x08'
  | 'f' => some '\x0C'
  | 'n' => some '\n'
  | 'r' => some '\r'
  | 't' => some '\t'
  | 'v' => some '\x0B'
  | _ => none

/-- Resolve the escapes of a text. A backslash before any other character stands for itself. -/
def unescape (escape? : Char → Option Char) : List Char → List Char
  | [] => []
  | '\\' :: c :: rest =>
    match escape? c with
    | some ch => ch :: unescape escape? rest
    | none => '\\' :: unescape escape? (c :: rest)
  | c :: rest => c :: unescape escape? rest

/-- The text before the first comment, which is a hash sign after at least one blank. -/
def beforeComment (text : List Char) : List Char → List Char
  | [] => text
  | c :: rest =>
    if Text.isBlank c && (rest.dropWhile Text.isBlank).head? = some '#' then
      text.take (text.length - (rest.length + 1))
    else beforeComment text rest

/-- An unquoted value ends with the line or before a comment, and blanks at its ends do not belong to
it. -/
def plainValue (line : List Char) : List Char :=
  Text.trimWhile Text.isBlank (beforeComment line line)

/-- Read a value after the equals sign and blanks. -/
def readValue (text : List Char) : Option (List Char × List Char) :=
  match skipInline text with
  | '\'' :: rest => (closeQuote '\'' rest []).map fun (v, r) => (unescape singleEscape? v, r)
  | '"' :: rest => (closeQuote '"' rest []).map fun (v, r) => (unescape doubleEscape? v, r)
  | _ =>
    let (line, rest) := text.span (!isLineEnd ·)
    some (plainValue line, rest)

/-- Read the key of an assignment, in single quotes or plain. A comment has no key. -/
def readKey (text : List Char) : Option (Option (List Char) × List Char) :=
  match text with
  | '#' :: _ => some (none, text)
  | '\'' :: rest =>
    match rest.span (· != '\'') with
    | ([], _) => none
    | (key, '\'' :: rest) => some (some key, rest)
    | _ => none
  | text =>
    match text.span fun c => c != '=' && c != '#' && !Text.isBlank c with
    | ([], _) => none
    | (key, rest) => some (some key, rest)

/-- A text without the word `export` and the blanks after it. -/
def dropExport (text : List Char) : List Char :=
  match text with
  | 'e' :: 'x' :: 'p' :: 'o' :: 'r' :: 't' :: c :: rest =>
    if isInlineBlank c then skipInline rest else text
  | _ => text

/-- What is left after blanks, a comment and the end of the line, if nothing else stands there. -/
def finishLine (text : List Char) : Option (List Char) :=
  let text := match skipInline text with
    | '#' :: rest => rest.dropWhile (!isLineEnd ·)
    | _ => text
  match skipInline text with
  | [] => some []
  | '\n' :: rest => some rest
  | _ => none

/-- What is left after the current line. -/
def nextLine (text : List Char) : List Char :=
  (text.dropWhile (!isLineEnd ·)).drop 1

/-- An assignment: a key, and a value if there is an equals sign. -/
abbrev Binding := Option (List Char) × Option (List Char)

/-- Read one assignment. If the text is none, the rest of the line is left out, from the place where
that was found. -/
def readBinding (text : List Char) : Option Binding × List Char :=
  let text := dropExport text
  match readKey text with
  | none => (none, nextLine text)
  | some (key, rest) =>
    let rest := skipInline rest
    match rest with
    | '=' :: afterSign =>
      match readValue afterSign with
      | none => (none, nextLine afterSign)
      | some (value, rest) =>
        match finishLine rest with
        | some left => (some (key, some value), left)
        | none => (none, nextLine rest)
    | rest =>
      match finishLine rest with
      | some left => (some (key, none), left)
      | none => (none, nextLine rest)

/-- Read all assignments. Each one takes at least one character, so a fuel of the length of the text
is enough. -/
def readBindings : Nat → List Char → List Binding
  | 0, _ => []
  | fuel + 1, text =>
    match text.dropWhile Text.isBlank with
    | [] => []
    | start =>
      match readBinding start with
      | (some binding, rest) => binding :: readBindings fuel rest
      | (none, rest) => readBindings fuel rest

/-- The variables whose values may be referred to. A variable without a value reads as empty. -/
abbrev Scope := List (String × Option String)

def Scope.read (scope : Scope) (name fallback : String) : String :=
  match scope.lookup name with
  | some value => value.getD ""
  | none => fallback

/-- Replace the references of a value. A reference is a name in braces after a dollar sign, and may
give a fallback after a colon and a hyphen. Every step takes a character of the text. -/
def expand (scope : Scope) : Nat → List Char → List Char
  | 0, text => text
  | _ + 1, [] => []
  | fuel + 1, '$' :: '\x7b' :: rest =>
    match rest.span fun c => c != '\x7d' && c != ':' with
    | (name, '\x7d' :: rest) =>
      (scope.read (String.ofList name) "").toList ++ expand scope fuel rest
    | (name, ':' :: '-' :: fallback) =>
      match fallback.span (· != '\x7d') with
      | (fallback, '\x7d' :: rest) =>
        (scope.read (String.ofList name) (String.ofList fallback)).toList ++
          expand scope fuel rest
      | _ => '$' :: expand scope fuel ('\x7b' :: rest)
    | _ => '$' :: expand scope fuel ('\x7b' :: rest)
  | fuel + 1, c :: rest => c :: expand scope fuel rest

/-- Resolve the assignments in their order. A later value may refer to earlier ones, which go before
the variables of the surrounding environment. -/
def resolve (environment : List (String × String)) : List Binding → Scope → Scope
  | [], found => found
  | (none, _) :: rest, found => resolve environment rest found
  | (some key, value) :: rest, found =>
    let scope : Scope := found ++ environment.map fun (k, v) => (k, some v)
    let value := value.map fun v => String.ofList (expand scope (v.length + 1) v)
    resolve environment rest (Keyed.assign (String.ofList key) value found)

/-- A text without the byte order mark that it may begin with. -/
def dropMark (text : List Char) : List Char :=
  match text with
  | '\uFEFF' :: rest => rest
  | _ => text

/-- The variables of a file, in the order in which they come first. A name without an equals sign
has no value. -/
def read (environment : List (String × String)) (file : String) : Scope :=
  let text := Text.unifyLineEnds (dropMark file.toList)
  resolve environment (readBindings (text.length + 1) text) []

end ConfigGate.Settings.Dotenv
