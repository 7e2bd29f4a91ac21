/-
This file names the charsets in which text is sent, and reads text in them.
-/
import PathStore.Bytes.Utf7
import PathStore.Bytes.Utf8
import PathStore.Text.CodePage.Console
import PathStore.Text.CodePage.Cyrillic
import PathStore.Text.CodePage.Desktop
import PathStore.Text.CodePage.Ebcdic
import PathStore.Text.CodePage.Iso
import PathStore.Text.CodePage.Windows
import PathStore.Text.Escaped
import PathStore.Text.Punycode
import PathStore.Text.Shifted

namespace PathStore.Text

/-- The ways in which bytes spell a text. -/
inductive Charset where
  | utf8
  /-- UTF-8 after a byte order mark, which is no part of the text. -/
  | utf8Marked
  | utf7
  /-- Units of two bytes; a byte order mark tells the order, unless the charset does. -/
  | utf16 (order : Option ByteOrder)
  /-- Units of four bytes; a byte order mark tells the order, unless the charset does. -/
  | utf32 (order : Option ByteOrder)
  | codePage (page : CodePage)
  | multibyte (charset : Multibyte)
  | shifted (charset : Shifted)
  /-- Codes after backslashes, and with all escapes also letters. -/
  | escaped (isFull : Bool)
  /-- Letters and digits that tell where other characters go. -/
  | punycode
  /-- A name for a change of bytes into bytes. -/
  | bytesOnly
  /-- A name for a change of text into text. -/
  | textOnly
  /-- A name for no text at all. -/
  | nothing
  deriving DecidableEq, Repr

namespace Charset

/-- Why bytes spell no text. -/
inductive Fault where
  /-- The order of the bytes is not told. -/
  | unmarked
  /-- Too many bytes break off at the end. -/
  | unfinished
  /-- A character is called for from a set that has none to give so. -/
  | unready
  /-- A byte has no place in the charset, where no replacement is made. -/
  | undecodable
  | bytesOnly
  | textOnly
  | nothing
  deriving DecidableEq, Repr

/-- The code pages of all families. -/
def pages : List CodePage :=
  [.latin, .ascii] ++ CodePage.isoPages ++ CodePage.windowsPages ++ CodePage.consolePages ++ CodePage.desktopPages ++
    CodePage.cyrillicPages ++ CodePage.mainframePages

/-- The charsets that are no code pages, with their names. -/
def others : List (Charset × String × List String) :=
  [(.utf8, "utf_8", ["u8", "utf", "utf8", "utf8_ucs2", "utf8_ucs4", "cp65001"]),
   (.utf8Marked, "utf_8_sig", []),
   (.utf7, "utf_7", ["u7", "utf7", "unicode_1_1_utf_7"]),
   (.utf16 none, "utf_16", ["u16", "utf16"]),
   (.utf16 (some .big), "utf_16_be", ["unicodebigunmarked", "utf_16be"]),
   (.utf16 (some .little), "utf_16_le", ["unicodelittleunmarked", "utf_16le"]),
   (.utf32 none, "utf_32", ["u32", "utf32"]),
   (.utf32 (some .big), "utf_32_be", ["utf_32be"]),
   (.utf32 (some .little), "utf_32_le", ["utf_32le"]),
   (.multibyte .gb2312, "gb2312",
    ["chinese", "csiso58gb231280", "euc_cn", "euccn", "eucgb2312_cn", "gb2312_1980", "gb2312_80", "iso_ir_58",
     "x_mac_simp_chinese"]),
   (.multibyte .gbk, "gbk", ["936", "cp936", "ms936"]),
   (.multibyte .gb18030, "gb18030", ["gb18030_2000"]),
   (.multibyte .big5, "big5", ["big5_tw", "csbig5", "x_mac_trad_chinese"]),
   (.multibyte .shiftJis, "shift_jis", ["csshiftjis", "shiftjis", "sjis", "s_jis", "x_mac_japanese"]),
   (.multibyte .eucJp, "euc_jp", ["eucjp", "ujis", "u_jis"]),
   (.multibyte .eucKr, "euc_kr",
    ["euckr", "korean", "ksc5601", "ks_c_5601", "ks_c_5601_1987", "ksx1001", "ks_x_1001", "x_mac_korean"]),
   (.multibyte .cp932, "cp932", ["932", "ms932", "mskanji", "ms_kanji"]),
   (.multibyte .cp949, "cp949", ["949", "ms949", "uhc"]),
   (.multibyte .cp950, "cp950", ["950", "ms950"]),
   (.multibyte .big5Hkscs, "big5hkscs", ["big5_hkscs", "hkscs"]),
   (.multibyte .johab, "johab", ["cp1361", "ms1361"]),
   (.multibyte (.shiftJisx .of2000), "shift_jisx0213", ["shiftjisx0213", "sjisx0213", "s_jisx0213"]),
   (.multibyte (.shiftJisx .of2004), "shift_jis_2004", ["shiftjis2004", "sjis_2004", "s_jis_2004"]),
   (.multibyte (.eucJisx .of2000), "euc_jisx0213", ["eucjisx0213"]),
   (.multibyte (.eucJisx .of2004), "euc_jis_2004", ["jisx0213", "eucjis2004", "euc_jis2004"]),
   (.shifted .iso2022Jp, "iso2022_jp", ["csiso2022jp", "iso2022jp", "iso_2022_jp"]),
   (.shifted .iso2022Jp1, "iso2022_jp_1", ["iso2022jp_1", "iso_2022_jp_1"]),
   (.shifted .iso2022Jp2, "iso2022_jp_2", ["iso2022jp_2", "iso_2022_jp_2"]),
   (.shifted (.iso2022Jp3 .of2000), "iso2022_jp_3", ["iso2022jp_3", "iso_2022_jp_3"]),
   (.shifted (.iso2022Jp3 .of2004), "iso2022_jp_2004", ["iso2022jp_2004", "iso_2022_jp_2004"]),
   (.shifted .iso2022JpExt, "iso2022_jp_ext", ["iso2022jp_ext", "iso_2022_jp_ext"]),
   (.shifted .iso2022Kr, "iso2022_kr", ["csiso2022kr", "iso2022kr", "iso_2022_kr"]),
   (.shifted .hz, "hz", ["hzgb", "hz_gb", "hz_gb_2312"]),
   (.escaped true, "unicode_escape", []),
   (.escaped false, "raw_unicode_escape", []),
   (.punycode, "punycode", []),
   (.bytesOnly, "base64_codec", ["base64", "base_64"]),
   (.bytesOnly, "bz2_codec", ["bz2"]),
   (.bytesOnly, "hex_codec", ["hex"]),
   (.bytesOnly, "quopri_codec", ["quopri", "quoted_printable", "quotedprintable"]),
   (.bytesOnly, "uu_codec", ["uu"]),
   (.bytesOnly, "zlib_codec", ["zip", "zlib"]),
   (.textOnly, "rot_13", ["rot13"]),
   (.nothing, "idna", []),
   (.nothing, "undefined", [])]

/-- The words of a name in lower case, with one underscore between two of them; a point belongs to a word. -/
def canonicalName (name : String) : String :=
  let words := name.toList.splitBy fun before after => isWord before == isWord after
  "_".intercalate ((words.filter (·.any isWord)).map fun word => String.ofList (word.map Char.toLower))
where
  isWord (character : Char) : Bool := character.isAlphanum || character = '.'

/-- Whether a canonical name is the name or one of the aliases; the points of an alias are underscores. -/
def isNamed (found name : String) (aliases : List String) : Bool :=
  found = name || aliases.contains (String.ofList (found.toList.map fun character =>
    if character = '.' then '_' else character))

/-- The charset of a name. -/
def named? (name : String) : Option Charset :=
  let found := canonicalName name
  match others.find? fun (_, name, aliases) => isNamed found name aliases with
  | some (charset, _, _) => some charset
  | none => (pages.find? fun page => isNamed found page.name page.aliases).map .codePage

/-- The text after a byte order mark; of a mark that breaks off nothing is left. -/
def decodeMarked (bytes : Bytes) : String :=
  match bytes with
  | 0xEF :: 0xBB :: 0xBF :: rest => Utf8.decodeLossy rest
  | [0xEF, 0xBB] | [0xEF] => ""
  | bytes => Utf8.decodeLossy bytes

/-- The text of units whose order a mark tells; less than one unit needs no mark. -/
def decodeUnits16 (bytes : Bytes) : Except Fault LooseText :=
  match bytes with
  | 0xFF :: 0xFE :: rest => .ok (Utf16.decodeLossy .little rest)
  | 0xFE :: 0xFF :: rest => .ok (Utf16.decodeLossy .big rest)
  | _ => if bytes.length < 2 then .ok (Utf16.decodeLossy .little bytes) else .error .unmarked

/-- The same for units of four bytes. -/
def decodeUnits32 (bytes : Bytes) : Except Fault LooseText :=
  match bytes with
  | 0xFF :: 0xFE :: 0 :: 0 :: rest => .ok (Utf32.decodeLossy .little rest)
  | 0 :: 0 :: 0xFE :: 0xFF :: rest => .ok (Utf32.decodeLossy .big rest)
  | _ => if bytes.length < 4 then .ok (Utf32.decodeLossy .little bytes) else .error .unmarked

/-- The text that bytes spell, with replacement characters for what cannot be read. -/
def decode (charset : Charset) (bytes : Bytes) : Except Fault LooseText :=
  match charset with
  | utf8 => .ok (Utf8.decodeLossy bytes)
  | utf8Marked => .ok (decodeMarked bytes)
  | utf7 => .ok (Utf7.decodeLossy bytes)
  | utf16 none => decodeUnits16 bytes
  | utf16 (some order) => .ok (Utf16.decodeLossy order bytes)
  | utf32 none => decodeUnits32 bytes
  | utf32 (some order) => .ok (Utf32.decodeLossy order bytes)
  | codePage page => .ok (page.decode bytes)
  | multibyte charset => .ok (charset.decodeLossy bytes)
  | shifted charset =>
      match charset.decodeLossy bytes with
      | .ok text => .ok text
      | .error .unfinished => .error .unfinished
      | .error .unready => .error .unready
  | escaped true => .ok (Escaped.decodeLossy bytes)
  | escaped false => .ok (Escaped.decodeCodes bytes)
  | punycode => (Punycode.decodeLossy? bytes).elim (.error .undecodable) .ok
  | bytesOnly => .error .bytesOnly
  | textOnly => .error .textOnly
  | nothing => .error .nothing

end Charset
end PathStore.Text
