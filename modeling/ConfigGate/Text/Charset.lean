import ConfigGate.Text.Charset.CodePage.Ebcdic
import ConfigGate.Text.Charset.CodePage.Iso8859
import ConfigGate.Text.Charset.CodePage.Macintosh
import ConfigGate.Text.Charset.CodePage.National
import ConfigGate.Text.Charset.CodePage.Personal
import ConfigGate.Text.Charset.CodePage.Windows
import ConfigGate.Text.Charset.Designated
import ConfigGate.Text.Charset.Escaped
import ConfigGate.Text.Charset.Punycode
import ConfigGate.Text.Charset.Utf7

/-! Charsets by their names. -/
namespace ConfigGate.Text

open Charset (ByteOrder Chinese CodePage Defect Designated Japanese Korean)

/-- How bytes are read as text. -/
inductive Charset where
  /-- Each byte is the character of its number. -/
  | bytes
  | utf8
  /-- Texts may begin with a mark that is not part of them. -/
  | markedUtf8
  /-- Units of two bytes. The order of the bytes may be left to a mark. -/
  | utf16 (order : Option ByteOrder)
  /-- Units of four bytes. -/
  | utf32 (order : Option ByteOrder)
  | utf7
  /-- Characters may be written with a backslash. -/
  | escaped
  /-- Characters may be written by their code points. -/
  | escapedCodePoints
  | punycode
  | hostName
  | codePage (page : CodePage)
  | chinese (charset : Chinese)
  | japanese (charset : Japanese)
  | korean (charset : Korean)
  /-- Sets of characters are called for. -/
  | designated (charset : Designated)
  /-- No text but the empty one can be read. -/
  | undefined
  /-- What was given is not even the name of a charset. -/
  | unusable
deriving DecidableEq, Repr

namespace Charset

/-- A charset under its name and other names. -/
structure Registration where
  name : String
  aliases : List String
  charset : Charset

/-- The charsets that are not bound to a script. -/
def algorithmic : List Registration := [
  ⟨"utf_8", ["u8", "utf", "utf8", "utf8_ucs2", "utf8_ucs4", "cp65001"], .utf8⟩,
  ⟨"utf_8_sig", [], .markedUtf8⟩,
  ⟨"utf_16", ["u16", "utf16"], .utf16 none⟩,
  ⟨"utf_16_le", ["unicodelittleunmarked", "utf_16le"], .utf16 (some .little)⟩,
  ⟨"utf_16_be", ["unicodebigunmarked", "utf_16be"], .utf16 (some .big)⟩,
  ⟨"utf_32", ["u32", "utf32"], .utf32 none⟩,
  ⟨"utf_32_le", ["utf_32le"], .utf32 (some .little)⟩,
  ⟨"utf_32_be", ["utf_32be"], .utf32 (some .big)⟩,
  ⟨"utf_7", ["u7", "utf7", "unicode_1_1_utf_7"], .utf7⟩,
  ⟨"unicode_escape", [], .escaped⟩,
  ⟨"raw_unicode_escape", [], .escapedCodePoints⟩,
  ⟨"punycode", [], .punycode⟩,
  ⟨"idna", [], .hostName⟩,
  ⟨"undefined", [], .undefined⟩]

/-- The charsets of East Asia. -/
def eastAsian : List Registration := [
  ⟨"gb2312", ["chinese", "csiso58gb231280", "euc_cn", "euccn", "eucgb2312_cn", "gb2312_1980",
    "gb2312_80", "iso_ir_58", "x_mac_simp_chinese"], .chinese .gb2312⟩,
  ⟨"gbk", ["936", "cp936", "ms936"], .chinese .gbk⟩,
  ⟨"gb18030", ["gb18030_2000"], .chinese .gb18030⟩,
  ⟨"hz", ["hzgb", "hz_gb", "hz_gb_2312"], .chinese .tildes⟩,
  ⟨"big5", ["big5_tw", "csbig5", "x_mac_trad_chinese"], .chinese .big5⟩,
  ⟨"cp950", ["950", "ms950"], .chinese .codePage950⟩,
  ⟨"big5hkscs", ["big5_hkscs", "hkscs"], .chinese .hongKong⟩,
  ⟨"shift_jis", ["csshiftjis", "shiftjis", "sjis", "s_jis", "x_mac_japanese"], .japanese .shifted⟩,
  ⟨"cp932", ["932", "ms932", "mskanji", "ms_kanji"], .japanese .codePage932⟩,
  ⟨"shift_jisx0213", ["shiftjisx0213", "sjisx0213", "s_jisx0213"],
    .japanese (.shiftedExtended .first)⟩,
  ⟨"shift_jis_2004", ["shiftjis2004", "sjis_2004", "s_jis_2004"],
    .japanese (.shiftedExtended .second)⟩,
  ⟨"euc_jp", ["eucjp", "ujis", "u_jis"], .japanese .upper⟩,
  ⟨"euc_jisx0213", ["eucjisx0213"], .japanese (.upperExtended .first)⟩,
  ⟨"euc_jis_2004", ["jisx0213", "eucjis2004", "euc_jis2004"], .japanese (.upperExtended .second)⟩,
  ⟨"euc_kr", ["euckr", "korean", "ksc5601", "ks_c_5601", "ks_c_5601_1987", "ksx1001", "ks_x_1001",
    "x_mac_korean"], .korean .spelt⟩,
  ⟨"cp949", ["949", "ms949", "uhc"], .korean .unified⟩,
  ⟨"johab", ["cp1361", "ms1361"], .korean .composed⟩,
  ⟨"iso2022_kr", ["csiso2022kr", "iso2022kr", "iso_2022_kr"], .designated .korean⟩,
  ⟨"iso2022_jp", ["csiso2022jp", "iso2022jp", "iso_2022_jp"], .designated .japanese⟩,
  ⟨"iso2022_jp_1", ["iso2022jp_1", "iso_2022_jp_1"], .designated .japanese1⟩,
  ⟨"iso2022_jp_2", ["iso2022jp_2", "iso_2022_jp_2"], .designated .japanese2⟩,
  ⟨"iso2022_jp_3", ["iso2022jp_3", "iso_2022_jp_3"], .designated .japanese3⟩,
  ⟨"iso2022_jp_2004", ["iso_2022_jp_2004", "iso2022jp_2004"], .designated .japanese2004⟩,
  ⟨"iso2022_jp_ext", ["iso2022jp_ext", "iso_2022_jp_ext"], .designated .japaneseExtended⟩]

/-- The code pages of all families. -/
def codePages : List CodePage :=
  CodePage.iso8859 ++ CodePage.windows ++ CodePage.personal ++ CodePage.national ++
    CodePage.macintosh ++ CodePage.ebcdic

/-- All charsets that are read in a way of their own. -/
def registrations : List Registration :=
  algorithmic ++ eastAsian ++ codePages.map fun page => ⟨page.name, page.aliases, .codePage page⟩

/-- A name with small letters, in which an underscore stands for whatever is between two runs of letters,
digits and dots. `isApart` tells that something is between the last run and what follows. -/
def normalize : (isApart : Bool) → (found name : List Char) → List Char
  | _, found, [] => found.reverse
  | isApart, found, c :: rest =>
    if c.isAlphanum || c = '.' then
      let found := if isApart && !found.isEmpty then '_' :: found else found
      normalize false (c.toLower :: found) rest
    else normalize true found rest

/-- The charset goes by a name. In an alias a dot may stand for an underscore. -/
def Registration.hasName (name : String) (registration : Registration) : Bool :=
  registration.name == name || registration.aliases.contains name ||
    registration.aliases.contains (name.map fun c => if c = '.' then '_' else c)

/-- The charset of a name. Under an unknown name each byte is read as the character of its number. -/
def ofName (name : String) : Charset :=
  if name.toList.contains '\x00' then .unusable
  else
    let name := String.ofList (normalize false [] name.toList)
    match registrations.find? (·.hasName name) with
    | some registration => registration.charset
    | none => .bytes

/-- The mark that may stand at the beginning of a text in UTF-8. -/
def utf8Mark : Bytes := [0xEF, 0xBB, 0xBF]

/-- Read bytes as UTF-8. -/
def readUtf8 (bytes : Bytes) : Except Defect (List Char) :=
  match Utf8.decode bytes with
  | .ok text => .ok text.toList
  | .error _ => .error .malformed

/-- Read bytes in a charset. Where there are no bytes there is nothing to go wrong. -/
def read (charset : Charset) (bytes : Bytes) : Except Defect (List Char) :=
  match charset, bytes with
  | .unusable, _ => .error .refused
  | _, [] => .ok []
  | .bytes, _ => .ok (bytes.map fun b => Char.ofNat b.toNat)
  | .utf8, _ => readUtf8 bytes
  | .markedUtf8, _ =>
    readUtf8 (if utf8Mark.isPrefixOf bytes then bytes.drop utf8Mark.length else bytes)
  | .utf16 order, _ => Utf16.read order bytes
  | .utf32 order, _ => Utf32.read order bytes
  | .utf7, _ => Utf7.read bytes
  | .escaped, _ => Escaped.read bytes
  | .escapedCodePoints, _ => Escaped.readRaw bytes
  | .punycode, _ => Punycode.read bytes
  | .hostName, _ => Punycode.readHost bytes
  | .codePage page, _ => page.read bytes
  | .chinese charset, _ => charset.read bytes
  | .japanese charset, _ => charset.read bytes
  | .korean charset, _ => charset.read bytes
  | .designated charset, _ => charset.read bytes
  | .undefined, _ => .error .refused

/-- Read bytes in a charset, or each as the character of its number if they are no text in it. Nothing is
read if the charset gives up. -/
def readOrBytes (charset : Charset) (bytes : Bytes) : Option (List Char) :=
  match charset.read bytes with
  | .ok text => some text
  | .error .malformed => some (bytes.map fun b => Char.ofNat b.toNat)
  | .error .refused => none

end Charset

end ConfigGate.Text
