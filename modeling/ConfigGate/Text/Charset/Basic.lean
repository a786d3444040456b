import ConfigGate.Text.Utf8

namespace ConfigGate.Text.Charset

/-- Why bytes cannot be read in a charset. -/
inductive Defect where
  /-- The bytes are no text in the charset. -/
  | malformed
  /-- The charset gives up on the text as a whole. -/
  | refused
deriving DecidableEq, Repr

/-- The character of a code point. A surrogate is none, and is replaced. -/
def character (code : Nat) : Char :=
  if 0xD800 ≤ code && code < 0xE000 then '\uFFFD' else Char.ofNat code

end ConfigGate.Text.Charset
