import Transclude.Text.Encoding.MultiByte.Chinese
import Transclude.Text.Encoding.MultiByte.Designated
import Transclude.Text.Encoding.MultiByte.Japanese
import Transclude.Text.Encoding.MultiByte.Korean
import Transclude.Text.Encoding.MultiByte.Traditional

/-!
# East Asian encodings

The encodings of Chinese, Japanese and Korean, with the names by which they are known.

## Main definitions

* `EastAsian`        : the encodings.
* `EastAsian.coding` : how they read and write.
-/

namespace Transclude

open MultiByte

/-- An encoding of Chinese, Japanese or Korean. -/
inductive EastAsian
  | gb2312
  | gbk
  | gb18030
  | hz
  | big5
  | windowsBig5
  | hongKong
  | shiftJis
  | windowsJapanese
  | shiftJis0213 (e : Edition)
  | eucJapanese
  | euc0213 (e : Edition)
  | eucKorean
  | unifiedHangul
  | johab
  | designated (d : Designated)
  deriving DecidableEq, Repr

namespace EastAsian

/-- How the encoding reads and writes. -/
def coding : EastAsian → MultiByte
  | .gb2312 => MultiByte.gb2312
  | .gbk => MultiByte.gbk
  | .gb18030 => MultiByte.gb18030
  | .hz => MultiByte.hz
  | .big5 => MultiByte.big5
  | .windowsBig5 => MultiByte.windowsBig5
  | .hongKong => MultiByte.hongKong
  | .shiftJis => MultiByte.shiftJis
  | .windowsJapanese => MultiByte.windowsJapanese
  | .shiftJis0213 e => MultiByte.shiftJis0213 e
  | .eucJapanese => MultiByte.eucJapanese
  | .euc0213 e => MultiByte.euc0213 e
  | .eucKorean => MultiByte.eucKorean
  | .unifiedHangul => MultiByte.unifiedHangul
  | .johab => MultiByte.johab
  | .designated d => d.coding

/-- The name of the encoding. -/
def name (e : EastAsian) : String := e.coding.name

/-- The encodings with the other names by which they are known. -/
def known : List (EastAsian × List String) :=
  [(.gb2312, ["chinese", "csiso58gb231280", "euc_cn", "euccn", "eucgb2312_cn", "gb2312_1980",
     "gb2312_80", "iso_ir_58", "x_mac_simp_chinese"]),
   (.gbk, ["936", "cp936", "ms936"]),
   (.gb18030, ["gb18030_2000"]),
   (.hz, ["hz_gb", "hz_gb_2312", "hzgb"]),
   (.big5, ["big5_tw", "csbig5", "x_mac_trad_chinese"]),
   (.windowsBig5, ["950", "ms950"]),
   (.hongKong, ["big5_hkscs", "hkscs"]),
   (.shiftJis, ["csshiftjis", "s_jis", "shiftjis", "sjis", "x_mac_japanese"]),
   (.windowsJapanese, ["932", "ms932", "ms_kanji", "mskanji"]),
   (.shiftJis0213 .first, ["s_jisx0213", "shiftjisx0213", "sjisx0213"]),
   (.shiftJis0213 .second, ["s_jis_2004", "shiftjis2004", "sjis_2004"]),
   (.eucJapanese, ["eucjp", "u_jis", "ujis"]),
   (.euc0213 .first, ["eucjisx0213"]),
   (.euc0213 .second, ["euc_jis2004", "eucjis2004", "jisx0213"]),
   (.eucKorean, ["euckr", "korean", "ks_c_5601", "ks_c_5601_1987", "ks_x_1001", "ksc5601",
     "ksx1001", "x_mac_korean"]),
   (.unifiedHangul, ["949", "ms949", "uhc"]),
   (.johab, ["cp1361", "ms1361"]),
   (.designated .japanese, ["csiso2022jp", "iso2022jp", "iso_2022_jp"]),
   (.designated .japanese1, ["iso2022jp_1", "iso_2022_jp_1"]),
   (.designated .japanese2, ["iso2022jp_2", "iso_2022_jp_2"]),
   (.designated (.japanese0213 .first), ["iso2022jp_3", "iso_2022_jp_3"]),
   (.designated (.japanese0213 .second), ["iso2022jp_2004", "iso_2022_jp_2004"]),
   (.designated .japaneseExtended, ["iso2022jp_ext", "iso_2022_jp_ext"]),
   (.designated .korean, ["csiso2022kr", "iso2022kr", "iso_2022_kr"])]

end EastAsian

end Transclude
