import ConfigGate.Text.CapitalTable

namespace ConfigGate.Text

/-- The capital form of one character, which may be several characters long. A character without a
capital form is its own capital. -/
def capitals (c : Char) : List Char :=
  if c.toNat < 0x80 then
    [if 'a' ≤ c ∧ c ≤ 'z' then Char.ofNat (c.toNat - 0x20) else c]
  else
    match capitalExpansions.lookup c.toNat with
    | some expansion => expansion.map Char.ofNat
    | none =>
      match capitalRuns.find? (·.covers c.toNat) with
      | some run => [Char.ofNat (c.toNat + run.shift).toNat]
      | none => [c]

/-- A text in capitals. Names that differ only in case have the same capitals. -/
def upper (text : String) : String :=
  String.ofList (text.toList.flatMap capitals)

/-- The small form of one character, for every character whose small form is an ASCII letter. These
are the ASCII capitals and the Kelvin sign; every other character is left as it is, so a lowered
text equals an ASCII text exactly if full lower-casing makes it so. -/
def smallLetter (c : Char) : Char :=
  if 'A' ≤ c ∧ c ≤ 'Z' then Char.ofNat (c.toNat + 0x20)
  else if c = '\u212A' then 'k'
  else c

/-- A text in small letters, for comparison with ASCII keys. -/
def lower (text : String) : String :=
  String.ofList (text.toList.map smallLetter)

end ConfigGate.Text
