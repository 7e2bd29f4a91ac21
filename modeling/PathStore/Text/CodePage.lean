/-
This file reads bytes by code pages, which give each byte a character of its own.
-/
import PathStore.Bytes

namespace PathStore.Text

/-- A code page with the names under which it is known. -/
structure CodePage where
  name : String
  aliases : List String := []
  /-- The characters of the last bytes; each byte before them stands for the character with its own code. -/
  characters : String
  deriving DecidableEq, Repr

namespace CodePage

/-- The first byte that does not stand for its own code. -/
def firstListed (page : CodePage) : Nat := 256 - page.characters.length

/-- The text that bytes spell; a replacement character stands for a byte that the page leaves open. -/
def decode (page : CodePage) (bytes : Bytes) : String :=
  let first := page.firstListed
  let characters := page.characters.toList.toArray
  String.ofList (bytes.map fun byte =>
    if byte.toNat < first then Char.ofNat byte.toNat else characters.getD (byte.toNat - first) '\uFFFD')

/-- The page in which each byte stands for its own code. -/
def latin : CodePage where
  name := "latin_1"
  aliases :=
    ["8859", "cp819", "csisolatin1", "ibm819", "iso8859", "iso8859_1", "iso_8859_1", "iso_8859_1_1987", "iso_ir_100",
     "l1", "latin", "latin1", "charmap"]
  characters := ""

/-- The page that leaves the upper bytes open. -/
def ascii : CodePage where
  name := "ascii"
  aliases :=
    ["646", "ansi_x3_4_1968", "ansi_x3_4_1986", "cp367", "csascii", "ibm367", "iso646_us", "iso_646_irv_1991",
     "iso_ir_6", "us", "us_ascii"]
  characters := String.ofList (List.replicate 128 '\uFFFD')

end CodePage
end PathStore.Text
