import ConfigGate.Json.Value

/-! Reading JSON text. A reader walks the characters from left to right and stops at the first fault;
what is left of the text there tells the position. -/
namespace ConfigGate.Json

open Text (Point Wide)

/-- The values that hold other values. -/
inductive Container where
  | list
  | object
deriving DecidableEq, Repr

/-- What is wrong with a text that is no JSON document. -/
inductive Fault where
  | byteOrderMark
  | expectingValue
  | expectingName
  | expectingColon
  | expectingComma
  | controlCharacter
  | unterminated
  | escape
  | unicodeEscape
  | extraData
  /-- An integer has more digits than may be converted. -/
  | tooManyDigits (count : Nat)
  /-- The list or object that begins here is nested too deeply. -/
  | tooDeep (container : Container)
  /-- An escape names one half of a surrogate pair alone. -/
  | loneSurrogate
deriving DecidableEq, Repr

/-- A fault and the number of characters that were left at its position. -/
structure Failure where
  fault : Fault
  remaining : Nat
deriving DecidableEq, Repr

/-- The length up to which numbers are read. -/
inductive NumberLimit where
  /-- So many digits of an integer. -/
  | integerDigits (count : Nat)
  /-- So many characters of any number before its fraction and exponent, the sign included. -/
  | wholeCharacters (count : Nat)
deriving DecidableEq, Repr

/-- The number has more digits before its fraction than the limit allows. -/
def NumberLimit.isPassed (limit : NumberLimit) (digits : Nat) (isNegative isInteger : Bool) : Bool :=
  match limit with
  | .integerDigits count => isInteger && count < digits
  | .wholeCharacters count => count < digits + isNegative.toNat

/-- What a reader accepts beyond the grammar of JSON. -/
structure Limits where
  /-- How deeply lists and objects may be nested. -/
  depth : Nat
  /-- Lists and objects with nothing in them count as a level of nesting. -/
  countsEmpty : Bool
  numbers : NumberLimit
  /-- A lone half of a surrogate pair is read as it stands. -/
  loneSurrogates : Bool

/-- The blanks of JSON. -/
def isSeparator (c : Char) : Bool :=
  c = ' ' || c = '\t' || c = '\n' || c = '\r'

def skipSeparators (text : List Char) : List Char :=
  text.dropWhile isSeparator

/-- The value of a hexadecimal digit. -/
def hexDigit? (c : Char) : Option Nat :=
  if '0' ≤ c ∧ c ≤ '9' then some (c.toNat - 0x30)
  else if 'a' ≤ c ∧ c ≤ 'f' then some (c.toNat - 0x57)
  else if 'A' ≤ c ∧ c ≤ 'F' then some (c.toNat - 0x37)
  else none

/-- The number written with four hexadecimal digits. -/
def fourHex? (a b c d : Char) : Option Nat := do
  pure ((((← hexDigit? a) * 16 + (← hexDigit? b)) * 16 + (← hexDigit? c)) * 16 + (← hexDigit? d))

/-- The character that a one-letter escape stands for. -/
def shortEscape? (c : Char) : Option Char :=
  match c with
  | '"' => some '"'
  | '\\' => some '\\'
  | '/' => some '/'
  | 'b' => some '\x08'
  | 'f' => some '\x0C'
  | 'n' => some '\n'
  | 'r' => some '\r'
  | 't' => some '\t'
  | _ => none

def isHighSurrogate (n : Nat) : Bool := 0xD800 ≤ n && n < 0xDC00

def isLowSurrogate (n : Nat) : Bool := 0xDC00 ≤ n && n < 0xE000

/-- What a code unit that is no part of a surrogate pair stands for. -/
def unitPoint (limits : Limits) (unit remaining : Nat) : Except Failure Point :=
  if (isHighSurrogate unit || isLowSurrogate unit) && !limits.loneSurrogates then
    .error ⟨.loneSurrogate, remaining⟩
  else .ok (.ofNat unit)

/-- Read a string up to its closing quote. `opening` is what was left of the text at the opening quote, and
`found` holds what has been read so far, latest first. An escape needs a
character after its four digits, since at least the closing quote must follow. -/
def readString (limits : Limits) (opening : Nat) :
    List Char → List Point → Except Failure (List Point × List Char)
  | [], _ => .error ⟨.unterminated, opening⟩
  | '"' :: rest, found => .ok (found.reverse, rest)
  | ['\\'], _ => .error ⟨.unterminated, opening⟩
  | '\\' :: 'u' :: a :: b :: c :: d :: '\\' :: 'u' :: e :: f :: g :: h :: next :: rest, found =>
    let remaining := rest.length + 12
    match fourHex? a b c d with
    | none => .error ⟨.unicodeEscape, remaining⟩
    | some high =>
      if isHighSurrogate high then
        match fourHex? e f g h with
        | none => .error ⟨.unicodeEscape, remaining - 6⟩
        | some low =>
          if isLowSurrogate low then
            let code := 0x10000 + (high - 0xD800) * 0x400 + (low - 0xDC00)
            readString limits opening (next :: rest) (.char (Char.ofNat code) :: found)
          else
            match unitPoint limits high remaining with
            | .error failure => .error failure
            | .ok point =>
              readString limits opening ('\\' :: 'u' :: e :: f :: g :: h :: next :: rest)
                (point :: found)
      else
        match unitPoint limits high remaining with
        | .error failure => .error failure
        | .ok point =>
          readString limits opening ('\\' :: 'u' :: e :: f :: g :: h :: next :: rest) (point :: found)
  | '\\' :: 'u' :: a :: b :: c :: d :: next :: rest, found =>
    let remaining := rest.length + 6
    match fourHex? a b c d with
    | none => .error ⟨.unicodeEscape, remaining⟩
    | some unit =>
      match unitPoint limits unit remaining with
      | .error failure => .error failure
      | .ok point => readString limits opening (next :: rest) (point :: found)
  | '\\' :: 'u' :: rest, _ => .error ⟨.unicodeEscape, rest.length + 1⟩
  | '\\' :: c :: rest, found =>
    match shortEscape? c with
    | none => .error ⟨.escape, rest.length + 2⟩
    | some ch => readString limits opening rest (.char ch :: found)
  | c :: rest, found =>
    if c.toNat < 0x20 then .error ⟨.controlCharacter, rest.length + 1⟩
    else readString limits opening rest (.char c :: found)

/-- Split a text after its leading decimal digits. -/
def spanDigits (text : List Char) : List Char × List Char :=
  text.span Char.isDigit

/-- The number written with decimal digits. -/
def digitsValue (digits : List Char) : Nat :=
  digits.foldl (fun n c => n * 10 + (c.toNat - 0x30)) 0

/-- The digits after a decimal point, if the text starts with a point and a digit. -/
def readFraction : List Char → Option (List Char × List Char)
  | '.' :: rest =>
    match spanDigits rest with
    | ([], _) => none
    | found => some found
  | _ => none

/-- The exponent at the start of the text, if it has at least one digit. -/
def readExponent : List Char → Option (Int × List Char)
  | e :: rest =>
    if e = 'e' || e = 'E' then
      let (negative, digits) := match rest with
        | '-' :: r => (true, r)
        | '+' :: r => (false, r)
        | r => (false, r)
      match spanDigits digits with
      | ([], _) => none
      | (ds, after) =>
        let n : Int := digitsValue ds
        some (if negative then -n else n, after)
    else none
  | [] => none

/-- The digits before the point: a zero alone, or digits that do not start with a zero. -/
def readWhole : List Char → Option (List Char × List Char)
  | '0' :: rest => some (['0'], rest)
  | text =>
    match spanDigits text with
    | ([], _) => none
    | found => some found

/-- Read a number. A point or an exponent that is not complete does not belong to it. -/
def readNumber (limits : Limits) (text : List Char) : Except Failure (Value × List Char) :=
  let (negative, unsigned) := match text with
    | '-' :: rest => (true, rest)
    | rest => (false, rest)
  match readWhole unsigned with
  | none => .error ⟨.expectingValue, text.length⟩
  | some (whole, rest) =>
    let (fraction, rest) := (readFraction rest).getD ([], rest)
    let exponent := readExponent rest
    let isInteger := fraction.isEmpty && exponent.isNone
    if limits.numbers.isPassed whole.length negative isInteger then
      .error ⟨.tooManyDigits whole.length, text.length⟩
    else if isInteger then
      let n : Int := digitsValue whole
      .ok (.int (if negative then -n else n), rest)
    else
      let (power, rest) := exponent.getD (0, rest)
      .ok (.real (.ofDecimal negative (digitsValue (whole ++ fraction)) (power - fraction.length)),
        rest)

/-- Read a value that is no string, list or object. -/
def readScalar (limits : Limits) (text : List Char) : Except Failure (Value × List Char) :=
  match text with
  | 'n' :: 'u' :: 'l' :: 'l' :: rest => .ok (.null, rest)
  | 't' :: 'r' :: 'u' :: 'e' :: rest => .ok (.bool true, rest)
  | 'f' :: 'a' :: 'l' :: 's' :: 'e' :: rest => .ok (.bool false, rest)
  | 'N' :: 'a' :: 'N' :: rest => .ok (.real .nan, rest)
  | 'I' :: 'n' :: 'f' :: 'i' :: 'n' :: 'i' :: 't' :: 'y' :: rest =>
    .ok (.real (.infinite false), rest)
  | '-' :: 'I' :: 'n' :: 'f' :: 'i' :: 'n' :: 'i' :: 't' :: 'y' :: rest =>
    .ok (.real (.infinite true), rest)
  | _ => readNumber limits text

mutual

/-- Read one value, with `depth` levels of nesting allowed below it. Every second call consumes a
character, so a fuel of twice the length of the text is never used up. -/
def readValue (limits : Limits) : Nat → Nat → List Char → Except Failure (Value × List Char)
  | 0, _, text => .error ⟨.expectingValue, text.length⟩
  | fuel + 1, depth, text =>
    match text with
    | '"' :: rest =>
      match readString limits text.length rest [] with
      | .error failure => .error failure
      | .ok (points, rest) => .ok (.text ⟨points⟩, rest)
    | '[' :: rest =>
      match depth, limits.countsEmpty, skipSeparators rest with
      | 0, true, _ => .error ⟨.tooDeep .list, text.length⟩
      | _, _, ']' :: rest => .ok (.list [], rest)
      | 0, false, _ => .error ⟨.tooDeep .list, text.length⟩
      | depth + 1, _, rest => readItems limits fuel depth rest []
    | '\x7b' :: rest =>
      match depth, limits.countsEmpty, skipSeparators rest with
      | 0, true, _ => .error ⟨.tooDeep .object, text.length⟩
      | _, _, '\x7d' :: rest => .ok (.object [], rest)
      | 0, false, _ => .error ⟨.tooDeep .object, text.length⟩
      | depth + 1, _, rest => readMembers limits fuel depth rest []
    | _ => readScalar limits text

/-- Read the items of a list up to its closing bracket. The items read so far stand latest first. -/
def readItems (limits : Limits) :
    Nat → Nat → List Char → List Value → Except Failure (Value × List Char)
  | 0, _, text, _ => .error ⟨.expectingValue, text.length⟩
  | fuel + 1, depth, text, found =>
    match readValue limits fuel depth text with
    | .error failure => .error failure
    | .ok (item, rest) =>
      match skipSeparators rest with
      | ']' :: rest => .ok (.list (item :: found).reverse, rest)
      | ',' :: rest => readItems limits fuel depth (skipSeparators rest) (item :: found)
      | rest => .error ⟨.expectingComma, rest.length⟩

/-- Read the members of an object up to its closing brace. The members read so far stand latest
first. -/
def readMembers (limits : Limits) :
    Nat → Nat → List Char → List (Wide × Value) → Except Failure (Value × List Char)
  | 0, _, text, _ => .error ⟨.expectingName, text.length⟩
  | fuel + 1, depth, text, found =>
    match text with
    | '"' :: rest =>
      match readString limits text.length rest [] with
      | .error failure => .error failure
      | .ok (name, rest) =>
        match skipSeparators rest with
        | ':' :: rest =>
          match readValue limits fuel depth (skipSeparators rest) with
          | .error failure => .error failure
          | .ok (value, rest) =>
            let found := (⟨name⟩, value) :: found
            match skipSeparators rest with
            | '\x7d' :: rest => .ok (.object found.reverse, rest)
            | ',' :: rest => readMembers limits fuel depth (skipSeparators rest) found
            | rest => .error ⟨.expectingComma, rest.length⟩
        | rest => .error ⟨.expectingColon, rest.length⟩
    | _ => .error ⟨.expectingName, text.length⟩

end

/-- Read a text that is one JSON document with blanks around it. -/
def readChars (limits : Limits) (text : List Char) : Except Failure Value :=
  match text with
  | '\uFEFF' :: _ => .error ⟨.byteOrderMark, text.length⟩
  | _ =>
    let start := skipSeparators text
    match readValue limits (2 * text.length + 2) limits.depth start with
    | .error failure => .error failure
    | .ok (value, rest) =>
      match skipSeparators rest with
      | [] => .ok value
      | rest => .error ⟨.extraData, rest.length⟩

def read (limits : Limits) (text : String) : Except Failure Value :=
  readChars limits text.toList

/-- The limits for documents that people write. Integers stop at 4300 digits, since their conversion
takes quadratic time. -/
def documentLimits : Limits :=
  { depth := 990, countsEmpty := true, numbers := .integerDigits 4300, loneSurrogates := true }

def Container.name : Container → String
  | .list => "array"
  | .object => "object"

/-- The fault in words. -/
def Fault.message : Fault → String
  | .byteOrderMark => "Unexpected UTF-8 BOM (decode using utf-8-sig)"
  | .expectingValue => "Expecting value"
  | .expectingName => "Expecting property name enclosed in double quotes"
  | .expectingColon => "Expecting ':' delimiter"
  | .expectingComma => "Expecting ',' delimiter"
  | .controlCharacter => "Invalid control character at"
  | .unterminated => "Unterminated string starting at"
  | .escape => "Invalid \\escape"
  | .unicodeEscape => "Invalid \\uXXXX escape"
  | .extraData => "Extra data"
  | .tooManyDigits count =>
    "Exceeds the limit (4300 digits) for integer string conversion: value has " ++
      toString count ++ " digits; use sys.set_int_max_str_digits() to increase the limit"
  | .tooDeep container =>
    "maximum recursion depth exceeded while decoding a JSON " ++ container.name ++
      " from a unicode string"
  | .loneSurrogate => "Invalid \\uXXXX escape"

/-- The fault is one of the text as such, and has a position in it. The other faults are limits. -/
def Fault.isSyntactic : Fault → Bool
  | .tooManyDigits _ => false
  | .tooDeep _ => false
  | _ => true

/-- The fault is that of a document that is nested too deeply. -/
def Fault.isDepth : Fault → Bool
  | .tooDeep _ => true
  | _ => false

/-- The family of errors that the fault belongs to, for the log. -/
def Fault.family : Fault → String
  | .tooDeep _ => "RecursionError"
  | _ => "ValueError"

/-- The failure in words, with line, column and character position if it is one of syntax. Lines
and columns count from one and characters from zero. -/
def Failure.describe (failure : Failure) (text : String) : String :=
  if failure.fault.isSyntactic then
    let before := text.toList.take (text.length - failure.remaining)
    let line := before.count '\n' + 1
    let column := (before.reverse.takeWhile (· != '\n')).length + 1
    failure.fault.message ++ ": line " ++ toString line ++ " column " ++ toString column ++
      " (char " ++ toString before.length ++ ")"
  else failure.fault.message

end ConfigGate.Json
