import Introspection.Text.Charset
import Introspection.Text.Charset.Dos
import Introspection.Text.Charset.Iso8859
import Introspection.Text.Charset.Macintosh
import Introspection.Text.Charset.Regional
import Introspection.Text.Charset.Windows

/-!
# Codecs

A codec has a name and aliases, all in the normal form in which names are compared. Not every codec
reads one byte a character, and not every one reads text.

* `Reading`, `Codec`: what comes of reading with a codec;
* `codecs`: all codecs;
* `normalName`: the form in which names are compared;
* `codec?`, `reading?`: the codec of a name.
-/

namespace Introspection.Text

/-- What comes of reading one byte a character. -/
inductive Reading where
  | charset (s : Charset)
  /-- Some signs of ASCII are not where ASCII has them. -/
  | foreign
  | multiByte
  /-- The codec does not lead from bytes to text. -/
  | notText
  /-- Nothing is read unless everything can be, and the reason is told. -/
  | strict (reason : String)
  /-- Nothing but ASCII is read. -/
  | punycode

/-- A codec with its names in normal form. -/
structure Codec where
  name : String
  aliases : List String
  reading : Reading

/-- Codecs that read ASCII as it is, and most of them more than that. -/
def asciiCodecs : List Codec :=
  [⟨"ascii", ["646", "ansi_x3.4_1968", "ansi_x3.4_1986", "ansi_x3_4_1968", "cp367", "csascii",
     "ibm367", "iso646_us", "iso_646.irv_1991", "iso_ir_6", "us", "us_ascii"], .charset .ascii⟩,
   ⟨"utf_8", ["cp65001", "u8", "utf", "utf8", "utf8_ucs2", "utf8_ucs4"], .charset .ascii⟩,
   ⟨"utf_8_sig", [], .charset .ascii⟩,
   ⟨"iso2022_jp", ["csiso2022jp", "iso2022jp", "iso_2022_jp"], .charset .ascii⟩,
   ⟨"iso2022_jp_1", ["iso2022jp_1", "iso_2022_jp_1"], .charset .ascii⟩,
   ⟨"iso2022_jp_2", ["iso2022jp_2", "iso_2022_jp_2"], .charset .ascii⟩,
   ⟨"iso2022_jp_2004", ["iso2022jp_2004", "iso_2022_jp_2004"], .charset .ascii⟩,
   ⟨"iso2022_jp_3", ["iso2022jp_3", "iso_2022_jp_3"], .charset .ascii⟩,
   ⟨"iso2022_jp_ext", ["iso2022jp_ext", "iso_2022_jp_ext"], .charset .ascii⟩,
   ⟨"hz", ["hz_gb", "hz_gb_2312", "hzgb"], .charset .tildeless⟩,
   ⟨"latin_1", ["8859", "cp819", "csisolatin1", "ibm819", "iso8859", "iso8859_1", "iso_8859_1",
     "iso_8859_1_1987", "iso_ir_100", "l1", "latin", "latin1"], .charset .latin1⟩,
   ⟨"iso8859_1", [], .charset .latin1⟩,
   ⟨"charmap", [], .charset .latin1⟩,
   ⟨"raw_unicode_escape", [], .charset .latin1⟩,
   ⟨"unicode_escape", [], .charset .latin1⟩,
   ⟨"iso8859_2", ["csisolatin2", "iso_8859_2", "iso_8859_2_1987", "iso_ir_101", "l2", "latin2"],
     .charset (.extending (controls ++ iso8859Part2))⟩,
   ⟨"iso8859_3", ["csisolatin3", "iso_8859_3", "iso_8859_3_1988", "iso_ir_109", "l3", "latin3"],
     .charset (.extending (controls ++ iso8859Part3))⟩,
   ⟨"iso8859_4", ["csisolatin4", "iso_8859_4", "iso_8859_4_1988", "iso_ir_110", "l4", "latin4"],
     .charset (.extending (controls ++ iso8859Part4))⟩,
   ⟨"iso8859_5", ["csisolatincyrillic", "cyrillic", "iso_8859_5", "iso_8859_5_1988", "iso_ir_144"],
     .charset (.extending (controls ++ iso8859Part5))⟩,
   ⟨"iso8859_6", ["arabic", "asmo_708", "csisolatinarabic", "ecma_114", "iso_8859_6",
     "iso_8859_6_1987", "iso_ir_127"], .charset (.extending (controls ++ iso8859Part6))⟩,
   ⟨"iso8859_7", ["csisolatingreek", "ecma_118", "elot_928", "greek", "greek8", "iso_8859_7",
     "iso_8859_7_1987", "iso_ir_126"], .charset (.extending (controls ++ iso8859Part7))⟩,
   ⟨"iso8859_8", ["csisolatinhebrew", "hebrew", "iso_8859_8", "iso_8859_8_1988", "iso_ir_138"],
     .charset (.extending (controls ++ iso8859Part8))⟩,
   ⟨"iso8859_9", ["csisolatin5", "iso_8859_9", "iso_8859_9_1989", "iso_ir_148", "l5", "latin5"],
     .charset (.extending (controls ++ iso8859Part9))⟩,
   ⟨"iso8859_10", ["csisolatin6", "iso_8859_10", "iso_8859_10_1992", "iso_ir_157", "l6", "latin6"],
     .charset (.extending (controls ++ iso8859Part10))⟩,
   ⟨"iso8859_11", ["iso_8859_11", "iso_8859_11_2001", "thai"],
     .charset (.extending (controls ++ iso8859Part11))⟩,
   ⟨"iso8859_13", ["iso_8859_13", "l7", "latin7"],
     .charset (.extending (controls ++ iso8859Part13))⟩,
   ⟨"iso8859_14", ["iso_8859_14", "iso_8859_14_1998", "iso_celtic", "iso_ir_199", "l8", "latin8"],
     .charset (.extending (controls ++ iso8859Part14))⟩,
   ⟨"iso8859_15", ["iso_8859_15", "l9", "latin9"],
     .charset (.extending (controls ++ iso8859Part15))⟩,
   ⟨"iso8859_16", ["iso_8859_16", "iso_8859_16_2001", "iso_ir_226", "l10", "latin10"],
     .charset (.extending (controls ++ iso8859Part16))⟩,
   ⟨"cp874", [], .charset (.extending windows874)⟩,
   ⟨"cp1250", ["1250", "windows_1250"], .charset (.extending windows1250)⟩,
   ⟨"cp1251", ["1251", "windows_1251"], .charset (.extending windows1251)⟩,
   ⟨"cp1252", ["1252", "windows_1252"], .charset (.extending windows1252)⟩,
   ⟨"cp1253", ["1253", "windows_1253"], .charset (.extending windows1253)⟩,
   ⟨"cp1254", ["1254", "windows_1254"], .charset (.extending windows1254)⟩,
   ⟨"cp1255", ["1255", "windows_1255"], .charset (.extending windows1255)⟩,
   ⟨"cp1256", ["1256", "windows_1256"], .charset (.extending windows1256)⟩,
   ⟨"cp1257", ["1257", "windows_1257"], .charset (.extending windows1257)⟩,
   ⟨"cp1258", ["1258", "windows_1258"], .charset (.extending windows1258)⟩,
   ⟨"cp437", ["437", "cspc8codepage437", "ibm437"], .charset (.extending dos437)⟩,
   ⟨"cp720", [], .charset (.extending dos720)⟩,
   ⟨"cp737", [], .charset (.extending dos737)⟩,
   ⟨"cp775", ["775", "cspc775baltic", "ibm775"], .charset (.extending dos775)⟩,
   ⟨"cp850", ["850", "cspc850multilingual", "ibm850"], .charset (.extending dos850)⟩,
   ⟨"cp852", ["852", "cspcp852", "ibm852"], .charset (.extending dos852)⟩,
   ⟨"cp855", ["855", "csibm855", "ibm855"], .charset (.extending dos855)⟩,
   ⟨"cp856", [], .charset (.extending dos856)⟩,
   ⟨"cp857", ["857", "csibm857", "ibm857"], .charset (.extending dos857)⟩,
   ⟨"cp858", ["858", "csibm858", "ibm858"], .charset (.extending dos858)⟩,
   ⟨"cp860", ["860", "csibm860", "ibm860"], .charset (.extending dos860)⟩,
   ⟨"cp861", ["861", "cp_is", "csibm861", "ibm861"], .charset (.extending dos861)⟩,
   ⟨"cp862", ["862", "cspc862latinhebrew", "ibm862"], .charset (.extending dos862)⟩,
   ⟨"cp863", ["863", "csibm863", "ibm863"], .charset (.extending dos863)⟩,
   ⟨"cp865", ["865", "csibm865", "ibm865"], .charset (.extending dos865)⟩,
   ⟨"cp866", ["866", "csibm866", "ibm866"], .charset (.extending dos866)⟩,
   ⟨"cp869", ["869", "cp_gr", "csibm869", "ibm869"], .charset (.extending dos869)⟩,
   ⟨"cp1125", ["1125", "cp866u", "ibm1125", "ruscii"], .charset (.extending dos1125)⟩,
   ⟨"mac_roman", ["macintosh", "macroman"], .charset (.extending macRoman)⟩,
   ⟨"mac_latin2", ["mac_centeuro", "maccentraleurope", "maclatin2"],
     .charset (.extending macLatin2)⟩,
   ⟨"mac_croatian", [], .charset (.extending macCroatian)⟩,
   ⟨"mac_cyrillic", ["maccyrillic"], .charset (.extending macCyrillic)⟩,
   ⟨"mac_greek", ["macgreek"], .charset (.extending macGreek)⟩,
   ⟨"mac_iceland", ["maciceland"], .charset (.extending macIceland)⟩,
   ⟨"mac_romanian", [], .charset (.extending macRomanian)⟩,
   ⟨"mac_turkish", ["macturkish"], .charset (.extending macTurkish)⟩,
   ⟨"koi8_r", ["cskoi8r"], .charset (.extending koi8r)⟩,
   ⟨"koi8_u", [], .charset (.extending koi8u)⟩,
   ⟨"koi8_t", [], .charset (.extending koi8t)⟩,
   ⟨"kz1048", ["kz_1048", "rk1048", "strk1048_2002"], .charset (.extending kz1048)⟩,
   ⟨"ptcp154", ["cp154", "csptcp154", "cyrillic_asian", "pt154"], .charset (.extending ptcp154)⟩,
   ⟨"tis_620", ["iso_ir_166", "tis620", "tis_620_0", "tis_620_2529_0", "tis_620_2529_1"],
     .charset (.extending tis620)⟩,
   ⟨"cp1006", [], .charset (.extending ibm1006)⟩,
   ⟨"hp_roman8", ["cp1051", "ibm1051", "r8", "roman8"], .charset (.extending hpRoman8)⟩,
   ⟨"palmos", [], .charset (.extending palmOs)⟩]

/-- Codecs that read signs of ASCII as other characters, or other bytes as these signs. -/
def foreignCodecs : List Codec :=
  [⟨"cp037", ["037", "csibm037", "ebcdic_cp_ca", "ebcdic_cp_nl", "ebcdic_cp_us", "ebcdic_cp_wt",
     "ibm037", "ibm039"], .foreign⟩,
   ⟨"cp1026", ["1026", "csibm1026", "ibm1026"], .foreign⟩,
   ⟨"cp1140", ["1140", "ibm1140"], .foreign⟩,
   ⟨"cp273", ["273", "csibm273", "ibm273"], .foreign⟩,
   ⟨"cp424", ["424", "csibm424", "ebcdic_cp_he", "ibm424"], .foreign⟩,
   ⟨"cp500", ["500", "csibm500", "ebcdic_cp_be", "ebcdic_cp_ch", "ibm500"], .foreign⟩,
   ⟨"cp864", ["864", "csibm864", "ibm864"], .foreign⟩,
   ⟨"cp875", [], .foreign⟩,
   ⟨"mac_arabic", [], .foreign⟩,
   ⟨"mac_farsi", [], .foreign⟩]

/-- Codecs that take more than one byte a character. -/
def multiByteCodecs : List Codec :=
  [⟨"big5", ["big5_tw", "csbig5", "x_mac_trad_chinese"], .multiByte⟩,
   ⟨"big5hkscs", ["big5_hkscs", "hkscs"], .multiByte⟩,
   ⟨"cp932", ["932", "ms932", "ms_kanji", "mskanji"], .multiByte⟩,
   ⟨"cp949", ["949", "ms949", "uhc"], .multiByte⟩,
   ⟨"cp950", ["950", "ms950"], .multiByte⟩,
   ⟨"euc_jis_2004", ["euc_jis2004", "eucjis2004", "jisx0213"], .multiByte⟩,
   ⟨"euc_jisx0213", ["eucjisx0213"], .multiByte⟩,
   ⟨"euc_jp", ["eucjp", "u_jis", "ujis"], .multiByte⟩,
   ⟨"euc_kr", ["euckr", "korean", "ks_c_5601", "ks_c_5601_1987", "ks_x_1001", "ksc5601",
     "ksx1001", "x_mac_korean"], .multiByte⟩,
   ⟨"gb18030", ["gb18030_2000"], .multiByte⟩,
   ⟨"gb2312", ["chinese", "csiso58gb231280", "euc_cn", "euccn", "eucgb2312_cn", "gb2312_1980",
     "gb2312_80", "iso_ir_58", "x_mac_simp_chinese"], .multiByte⟩,
   ⟨"gbk", ["936", "cp936", "ms936"], .multiByte⟩,
   ⟨"iso2022_kr", ["csiso2022kr", "iso2022kr", "iso_2022_kr"], .multiByte⟩,
   ⟨"johab", ["cp1361", "ms1361"], .multiByte⟩,
   ⟨"shift_jis", ["csshiftjis", "s_jis", "shiftjis", "sjis", "x_mac_japanese"], .multiByte⟩,
   ⟨"shift_jis_2004", ["s_jis_2004", "shiftjis2004", "sjis_2004"], .multiByte⟩,
   ⟨"shift_jisx0213", ["s_jisx0213", "shiftjisx0213", "sjisx0213"], .multiByte⟩,
   ⟨"utf_16", ["u16", "utf16"], .multiByte⟩,
   ⟨"utf_16_be", ["unicodebigunmarked", "utf_16be"], .multiByte⟩,
   ⟨"utf_16_le", ["unicodelittleunmarked", "utf_16le"], .multiByte⟩,
   ⟨"utf_32", ["u32", "utf32"], .multiByte⟩,
   ⟨"utf_32_be", ["utf_32be"], .multiByte⟩,
   ⟨"utf_32_le", ["utf_32le"], .multiByte⟩,
   ⟨"utf_7", ["u7", "unicode_1_1_utf_7", "utf7"], .multiByte⟩]

/-- Codecs that read no text, or not everything. -/
def otherCodecs : List Codec :=
  [⟨"base64_codec", ["base64", "base_64"], .notText⟩,
   ⟨"bz2_codec", ["bz2"], .notText⟩,
   ⟨"hex_codec", ["hex"], .notText⟩,
   ⟨"quopri_codec", ["quopri", "quoted_printable", "quotedprintable"], .notText⟩,
   ⟨"rot_13", ["rot13"], .notText⟩,
   ⟨"uu_codec", ["uu"], .notText⟩,
   ⟨"zlib_codec", ["zip", "zlib"], .notText⟩,
   ⟨"idna", [], .strict "Unsupported error handling replace"⟩,
   ⟨"punycode", [], .punycode⟩,
   ⟨"undefined", [], .strict "undefined encoding"⟩]

def codecs : List Codec := asciiCodecs ++ foreignCodecs ++ multiByteCodecs ++ otherCodecs

/-- A name in lower case, with each run of other signs than letters, digits and dots between two
such made an underscore. -/
def normalName (name : String) : String :=
  String.ofList (go false name.toList)
where
  /-- The normal form of the rest of a name; `begun` says whether something came before. -/
  go (begun : Bool) : List Char → List Char
    | [] => []
    | c :: cs =>
      if c.isAlphanum || c == '.' then c.toLower :: go true cs
      else match cs with
        | d :: _ => if begun && (d.isAlphanum || d == '.') then '_' :: go begun cs else go begun cs
        | [] => []

/-- A name with underscores in place of dots. -/
def undotted (name : String) : String :=
  String.ofList (name.toList.map fun c => if c = '.' then '_' else c)

/-- The codec of a name: the one with such an alias, perhaps without dots, or the one that is called
so. -/
def codec? (name : String) : Option Codec :=
  let n := normalName name
  (codecs.find? (·.aliases.contains n)).or <|
    (codecs.find? (·.aliases.contains (undotted n))).or (codecs.find? (·.name == n))

/-- What comes of reading with the codec of a name. -/
def reading? (name : String) : Option Reading := (codec? name).map (·.reading)

end Introspection.Text
