import Transclude.Text.Encoding.CodePage.Ibm
import Transclude.Text.Encoding.CodePage.Iso8859
import Transclude.Text.Encoding.CodePage.Regional
import Transclude.Text.Encoding.CodePage.Windows
import Transclude.Text.Encoding.Escaped
import Transclude.Text.Encoding.MultiByte.EastAsian

/-!
# Character encodings

The encodings that files may have, and the names by which they are known.

## Main definitions

* `Encoding.ofName` : the encoding of a name.
-/

namespace Transclude

/-- An encoding. The marked form of UTF-8 starts with a byte-order mark; UTF-16 and UTF-32 without
a byte order find it from such a mark. -/
inductive Encoding
  | utf8
  | utf8Marked
  | utf16
  | utf16Little
  | utf16Big
  | utf32
  | utf32Little
  | utf32Big
  | latin1
  | ascii
  | page (p : CodePage)
  | eastAsian (e : EastAsian)
  | escaped (e : Escaped)
  | utf7
  | punycode
  | idna
  /-- The encoding that has no text at all. -/
  | undefined
  deriving DecidableEq, Repr

/-- What a name of an encoding stands for. -/
inductive EncodingName
  | known (e : Encoding)
  /-- A conversion of bytes that yields no text. -/
  | notText
  | unknown
  deriving DecidableEq, Repr

namespace Encoding

/-- Whether a name of an encoding keeps `c`: an ASCII letter or digit, or a point. -/
def isNameChar (c : Char) : Bool := c.isAlphanum || c == '.'

/-- A name of an encoding in its normal form: letters and digits in lower case, with one underscore
for whatever stands between them. -/
def normalName (pending : Bool) : List Char → List Char
  | [] => []
  | c :: rest =>
    if isNameChar c then
      (if pending then ['_', c.toLower] else [c.toLower]) ++ normalName false rest
    else normalName true rest

/-- The normal form of a name; what stands before its first letter or digit does not count. -/
def normalized (name : String) : String :=
  String.ofList (normalName false (name.toList.dropWhile fun c => !isNameChar c))

/-- An encoding with its name and the other names by which it is known, in normal form. -/
structure Entry where
  encoding : Encoding
  name : String
  aliases : List String := []

/-- All code pages. -/
def pages : List CodePage :=
  CodePage.windowsPages ++ CodePage.iso8859Pages ++ CodePage.ibmPages ++ CodePage.regionalPages

/-- The encodings that have names. -/
def entries : List Entry :=
  [⟨.utf8, "utf_8", ["cp65001", "u8", "utf", "utf8", "utf8_ucs2", "utf8_ucs4"]⟩,
   ⟨.utf8Marked, "utf_8_sig", []⟩,
   ⟨.utf16, "utf_16", ["u16", "utf16"]⟩,
   ⟨.utf16Little, "utf_16_le", ["unicodelittleunmarked", "utf_16le"]⟩,
   ⟨.utf16Big, "utf_16_be", ["unicodebigunmarked", "utf_16be"]⟩,
   ⟨.utf32, "utf_32", ["u32", "utf32"]⟩,
   ⟨.utf32Little, "utf_32_le", ["utf_32le"]⟩,
   ⟨.utf32Big, "utf_32_be", ["utf_32be"]⟩,
   ⟨.latin1, "latin_1", ["8859", "cp819", "csisolatin1", "ibm819", "iso8859", "iso8859_1",
     "iso_8859_1", "iso_8859_1_1987", "iso_ir_100", "l1", "latin", "latin1"]⟩,
   ⟨.latin1, "charmap", []⟩,
   ⟨.ascii, "ascii", ["646", "ansi_x3.4_1968", "ansi_x3.4_1986", "ansi_x3_4_1968", "cp367",
     "csascii", "ibm367", "iso646_us", "iso_646.irv_1991", "iso_ir_6", "us", "us_ascii"]⟩,
   ⟨.escaped .all, "unicode_escape", []⟩,
   ⟨.escaped .numbers, "raw_unicode_escape", []⟩,
   ⟨.utf7, "utf_7", ["u7", "unicode_1_1_utf_7", "utf7"]⟩,
   ⟨.punycode, "punycode", []⟩,
   ⟨.idna, "idna", []⟩,
   ⟨.undefined, "undefined", []⟩] ++
  (pages.map fun p => ⟨.page p, p.name, p.aliases⟩) ++
  EastAsian.known.map fun (e, aliases) => ⟨.eastAsian e, e.name, aliases⟩

/-- The names of the conversions that yield no text, and their other names. -/
def conversions : List (String × List String) :=
  [("base64_codec", ["base64", "base_64"]), ("bz2_codec", ["bz2"]), ("hex_codec", ["hex"]),
   ("quopri_codec", ["quopri", "quoted_printable", "quotedprintable"]), ("rot_13", ["rot13"]),
   ("uu_codec", ["uu"]), ("zlib_codec", ["zip", "zlib"])]

/-- A name with underscores in the place of points. -/
def unpointed (name : String) : String :=
  String.ofList (name.toList.map fun c => if c == '.' then '_' else c)

/-- Whether a name in normal form is that of an encoding or another name of it. In another name an
underscore may be a point. -/
def isNamed (normal name : String) (aliases : List String) : Bool :=
  normal == name || aliases.contains normal || aliases.contains (unpointed normal)

/-- What a name stands for. -/
def ofName (name : String) : EncodingName :=
  let normal := normalized name
  match entries.find? fun entry => isNamed normal entry.name entry.aliases with
  | some entry => .known entry.encoding
  | none =>
    if conversions.any fun entry => isNamed normal entry.1 entry.2 then .notText else .unknown

end Encoding

end Transclude
