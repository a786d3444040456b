import ConfigGate.Json.Value
import ConfigGate.Decimal.Shortest
import ConfigGate.Text.Quoted

/-! Writing JSON text on one line. A space follows every comma and colon, and only the characters
that must be are escaped. -/
namespace ConfigGate.Json

open Text (Point Wide)

/-- How a character is written inside a string. -/
def escapeChar (c : Char) : List Char :=
  if c = '"' then ['\\', '"']
  else if c = '\\' then ['\\', '\\']
  else if c = '\n' then ['\\', 'n']
  else if c = '\r' then ['\\', 'r']
  else if c = '\t' then ['\\', 't']
  else if c = '\x08' then ['\\', 'b']
  else if c = '\x0C' then ['\\', 'f']
  else if c.toNat < 0x20 then '\\' :: 'u' :: Text.hexPadded 4 c.toNat
  else [c]

/-- How a place of a text is written inside a string. A lone half stands for itself. -/
def escapePoint : Point → List Point
  | .char c => Point.ofChars (escapeChar c)
  | .half n => [.half n]

/-- A text as a JSON string. -/
def writeText (s : Wide) : List Point :=
  .char '"' :: s.points.flatMap escapePoint ++ [.char '"']

mutual

/-- The points of a document. -/
def Value.points : Value → List Point
  | .null => Point.ofChars "null".toList
  | .bool true => Point.ofChars "true".toList
  | .bool false => Point.ofChars "false".toList
  | .int n => Point.ofChars (toString n).toList
  | .real x => Point.ofChars (x.render Decimal.documentFormat)
  | .text s => writeText s
  | .list [] => Point.ofChars ['[', ']']
  | .list (first :: rest) => .char '[' :: first.points ++ itemPoints rest
  | .object [] => Point.ofChars ['\x7b', '\x7d']
  | .object ((name, value) :: rest) =>
    .char '\x7b' :: writeText name ++ .char ':' :: .char ' ' :: value.points ++ memberPoints rest

/-- The points of the items after the first, up to the closing bracket. -/
def itemPoints : List Value → List Point
  | [] => [.char ']']
  | v :: rest => .char ',' :: .char ' ' :: v.points ++ itemPoints rest

/-- The points of the members after the first, up to the closing brace. -/
def memberPoints : List (Wide × Value) → List Point
  | [] => [.char '\x7d']
  | (name, value) :: rest =>
    .char ',' :: .char ' ' :: writeText name ++ .char ':' :: .char ' ' :: value.points ++
      memberPoints rest

end

/-- The text of a document. -/
def Value.render (v : Value) : Wide :=
  ⟨v.points⟩

theorem all_isChar_writeText (s : Wide) : (writeText s).all Point.isChar = s.isWhole := by
  have hPoint (point : Point) : (escapePoint point).all Point.isChar = point.isChar := by
    cases point <;> simp [escapePoint]
  simp [writeText, Wide.isWhole, List.all_flatMap, hPoint]

mutual

theorem all_isChar_points : ∀ v : Value, v.points.all Point.isChar = v.isWhole
  | .null => by decide
  | .bool true => by decide
  | .bool false => by decide
  | .int n => by simp [Value.points, Value.isWhole]
  | .real x => by simp [Value.points, Value.isWhole]
  | .text s => by simp [Value.points, Value.isWhole, all_isChar_writeText]
  | .list [] => by decide
  | .list (first :: rest) => by
      simp [Value.points, Value.isWhole, itemsAreWhole, all_isChar_points first,
        all_isChar_itemPoints rest]
  | .object [] => by decide
  | .object ((name, value) :: rest) => by
      simp [Value.points, Value.isWhole, membersAreWhole, all_isChar_writeText,
        all_isChar_points value, all_isChar_memberPoints rest, Bool.and_assoc]

theorem all_isChar_itemPoints : ∀ items : List Value, (itemPoints items).all Point.isChar = itemsAreWhole items
  | [] => by decide
  | v :: rest => by
      simp [itemPoints, itemsAreWhole, all_isChar_points v, all_isChar_itemPoints rest]

theorem all_isChar_memberPoints :
    ∀ members : List (Wide × Value), (memberPoints members).all Point.isChar = membersAreWhole members
  | [] => by decide
  | (name, value) :: rest => by
      simp [memberPoints, membersAreWhole, all_isChar_writeText, all_isChar_points value,
        all_isChar_memberPoints rest, Bool.and_assoc]

end

/-- A document is written in characters exactly if its names and texts are of characters. -/
@[simp] theorem isWhole_render (v : Value) : v.render.isWhole = v.isWhole :=
  all_isChar_points v

end ConfigGate.Json
