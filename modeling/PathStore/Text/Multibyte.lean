/-
This file reads bytes of which one or more make a character, as the scripts of East Asia have them.
-/
import PathStore.Bytes
import PathStore.Text.Grid.Chinese
import PathStore.Text.Grid.HongKong
import PathStore.Text.Grid.Japanese
import PathStore.Text.Grid.JapaneseSupplement
import PathStore.Text.Grid.JapaneseVendor
import PathStore.Text.Grid.Korean
import PathStore.Text.Grid.Taiwanese
import PathStore.Text.Hangul
import PathStore.Text.Kanji

namespace PathStore.Text

/-- The charsets with characters of several bytes. -/
inductive Multibyte where
  | gb2312
  | gbk
  | gb18030
  | big5
  | shiftJis
  | eucJp
  | eucKr
  | cp932
  | cp949
  | cp950
  | big5Hkscs
  | johab
  | shiftJisx (edition : Kanji.Edition)
  | eucJisx (edition : Kanji.Edition)
  deriving DecidableEq, Repr

namespace Multibyte

/-- The ranges of pairs that the oldest standard of mainland China assigns. -/
def basicRanges : List (Nat × Nat) :=
  [(0xA1A1, 0xA1FE), (0xA2B1, 0xA2E2), (0xA2E5, 0xA2EE), (0xA2F1, 0xA2FC), (0xA3A1, 0xA3FE), (0xA4A1, 0xA4F3),
   (0xA5A1, 0xA5F6), (0xA6A1, 0xA6B8), (0xA6C1, 0xA6D8), (0xA7A1, 0xA7C1), (0xA7D1, 0xA7F1), (0xA8A1, 0xA8BA),
   (0xA8C5, 0xA8E9), (0xA9A4, 0xA9EF), (0xB0A1, 0xB0FE), (0xB1A1, 0xB1FE), (0xB2A1, 0xB2FE), (0xB3A1, 0xB3FE),
   (0xB4A1, 0xB4FE), (0xB5A1, 0xB5FE), (0xB6A1, 0xB6FE), (0xB7A1, 0xB7FE), (0xB8A1, 0xB8FE), (0xB9A1, 0xB9FE),
   (0xBAA1, 0xBAFE), (0xBBA1, 0xBBFE), (0xBCA1, 0xBCFE), (0xBDA1, 0xBDFE), (0xBEA1, 0xBEFE), (0xBFA1, 0xBFFE),
   (0xC0A1, 0xC0FE), (0xC1A1, 0xC1FE), (0xC2A1, 0xC2FE), (0xC3A1, 0xC3FE), (0xC4A1, 0xC4FE), (0xC5A1, 0xC5FE),
   (0xC6A1, 0xC6FE), (0xC7A1, 0xC7FE), (0xC8A1, 0xC8FE), (0xC9A1, 0xC9FE), (0xCAA1, 0xCAFE), (0xCBA1, 0xCBFE),
   (0xCCA1, 0xCCFE), (0xCDA1, 0xCDFE), (0xCEA1, 0xCEFE), (0xCFA1, 0xCFFE), (0xD0A1, 0xD0FE), (0xD1A1, 0xD1FE),
   (0xD2A1, 0xD2FE), (0xD3A1, 0xD3FE), (0xD4A1, 0xD4FE), (0xD5A1, 0xD5FE), (0xD6A1, 0xD6FE), (0xD7A1, 0xD7F9),
   (0xD8A1, 0xD8FE), (0xD9A1, 0xD9FE), (0xDAA1, 0xDAFE), (0xDBA1, 0xDBFE), (0xDCA1, 0xDCFE), (0xDDA1, 0xDDFE),
   (0xDEA1, 0xDEFE), (0xDFA1, 0xDFFE), (0xE0A1, 0xE0FE), (0xE1A1, 0xE1FE), (0xE2A1, 0xE2FE), (0xE3A1, 0xE3FE),
   (0xE4A1, 0xE4FE), (0xE5A1, 0xE5FE), (0xE6A1, 0xE6FE), (0xE7A1, 0xE7FE), (0xE8A1, 0xE8FE), (0xE9A1, 0xE9FE),
   (0xEAA1, 0xEAFE), (0xEBA1, 0xEBFE), (0xECA1, 0xECFE), (0xEDA1, 0xEDFE), (0xEEA1, 0xEEFE), (0xEFA1, 0xEFFE),
   (0xF0A1, 0xF0FE), (0xF1A1, 0xF1FE), (0xF2A1, 0xF2FE), (0xF3A1, 0xF3FE), (0xF4A1, 0xF4FE), (0xF5A1, 0xF5FE),
   (0xF6A1, 0xF6FE), (0xF7A1, 0xF7FE)]

/-- The pair of a code, in the oldest standard of mainland China, which has two signs of its own. -/
def basicPair? (lead trail : Nat) : Option Char :=
  let code := 256 * lead + trail
  if code = 0xA1A4 then some '\u30FB'
  else if code = 0xA1AA then some '\u2015'
  else if basicRanges.any fun (low, high) => low ≤ code ∧ code ≤ high then Grid.chinese.pair? lead trail
  else none

/-- The first pair of a run of cells, the length of the run and the code of its first character, for the pairs that the
newest standard adds. -/
def addedRuns : List (Nat × Nat × Nat) :=
  [(0xA140, 96, 0xE4C6), (0xA240, 96, 0xE526), (0xA2AB, 6, 0xE766), (0xA2E3, 1, 0x20AC), (0xA2E4, 1, 0xE76D),
   (0xA2EF, 2, 0xE76E), (0xA2FD, 2, 0xE770), (0xA340, 96, 0xE586), (0xA440, 96, 0xE5E6), (0xA4F4, 11, 0xE772),
   (0xA540, 96, 0xE646), (0xA5F7, 8, 0xE77D), (0xA640, 96, 0xE6A6), (0xA6B9, 8, 0xE785), (0xA6D9, 7, 0xE78D),
   (0xA6EC, 2, 0xE794), (0xA6F3, 1, 0xE796), (0xA6F6, 9, 0xE797), (0xA740, 96, 0xE706), (0xA7C2, 15, 0xE7A0),
   (0xA7F2, 13, 0xE7AF), (0xA896, 11, 0xE7BC), (0xA8BC, 1, 0xE7C7), (0xA8BF, 1, 0x1F9), (0xA8C1, 4, 0xE7C9),
   (0xA8EA, 21, 0xE7CD), (0xA958, 1, 0xE7E2), (0xA95B, 1, 0xE7E3), (0xA95D, 3, 0xE7E4), (0xA989, 1, 0x303E),
   (0xA98A, 12, 0x2FF0), (0xA997, 13, 0xE7F4), (0xA9F0, 15, 0xE801), (0xAAA1, 94, 0xE000), (0xABA1, 94, 0xE05E),
   (0xACA1, 94, 0xE0BC), (0xADA1, 94, 0xE11A), (0xAEA1, 94, 0xE178), (0xAFA1, 94, 0xE1D6), (0xD7FA, 5, 0xE810),
   (0xF8A1, 94, 0xE234), (0xF9A1, 94, 0xE292), (0xFAA1, 94, 0xE2F0), (0xFBA1, 94, 0xE34E), (0xFCA1, 94, 0xE3AC),
   (0xFDA1, 94, 0xE40A), (0xFE50, 1, 0x2E81), (0xFE51, 3, 0xE816), (0xFE54, 1, 0x2E84), (0xFE55, 1, 0x3473),
   (0xFE56, 1, 0x3447), (0xFE57, 1, 0x2E88), (0xFE58, 1, 0x2E8B), (0xFE59, 1, 0xE81E), (0xFE5A, 1, 0x359E),
   (0xFE5B, 1, 0x361A), (0xFE5C, 1, 0x360E), (0xFE5D, 1, 0x2E8C), (0xFE5E, 1, 0x2E97), (0xFE5F, 1, 0x396E),
   (0xFE60, 1, 0x3918), (0xFE61, 1, 0xE826), (0xFE62, 1, 0x39CF), (0xFE63, 1, 0x39DF), (0xFE64, 1, 0x3A73),
   (0xFE65, 1, 0x39D0), (0xFE66, 2, 0xE82B), (0xFE68, 1, 0x3B4E), (0xFE69, 1, 0x3C6E), (0xFE6A, 1, 0x3CE0),
   (0xFE6B, 1, 0x2EA7), (0xFE6C, 2, 0xE831), (0xFE6E, 1, 0x2EAA), (0xFE6F, 1, 0x4056), (0xFE70, 1, 0x415F),
   (0xFE71, 1, 0x2EAE), (0xFE72, 1, 0x4337), (0xFE73, 1, 0x2EB3), (0xFE74, 2, 0x2EB6), (0xFE76, 1, 0xE83B),
   (0xFE77, 1, 0x43B1), (0xFE78, 1, 0x43AC), (0xFE79, 1, 0x2EBB), (0xFE7A, 1, 0x43DD), (0xFE7B, 1, 0x44D6),
   (0xFE7C, 1, 0x4661), (0xFE7D, 1, 0x464C), (0xFE7E, 1, 0xE843), (0xFE80, 1, 0x4723), (0xFE81, 1, 0x4729),
   (0xFE82, 1, 0x477C), (0xFE83, 1, 0x478D), (0xFE84, 1, 0x2ECA), (0xFE85, 1, 0x4947), (0xFE86, 1, 0x497A),
   (0xFE87, 1, 0x497D), (0xFE88, 2, 0x4982), (0xFE8A, 2, 0x4985), (0xFE8C, 1, 0x499F), (0xFE8D, 1, 0x499B),
   (0xFE8E, 1, 0x49B7), (0xFE8F, 1, 0x49B6), (0xFE90, 2, 0xE854), (0xFE92, 1, 0x4CA3), (0xFE93, 3, 0x4C9F),
   (0xFE96, 1, 0x4C77), (0xFE97, 1, 0x4CA2), (0xFE98, 7, 0x4D13), (0xFE9F, 1, 0x4DAE), (0xFEA0, 1, 0xE864),
   (0xFEA1, 94, 0xE468)]

/-- The character of a pair in the newest standard of mainland China. -/
def newestPair? (lead trail : Nat) : Option Char :=
  match Grid.chinese.pair? lead trail, Grid.place? Grid.chinese.trails trail with
  | some character, _ => some character
  | none, none => none
  | none, some place => addedRuns.findSome? fun (first, length, code) => do
      let start ← Grid.place? Grid.chinese.trails (first % 256)
      if lead = first / 256 ∧ start ≤ place ∧ place < start + length then some (Char.ofNat (code + (place - start)))
      else none

/-- Where a run of characters of four bytes begins, and the code of its first character. -/
def fourByteRuns : List (Nat × Nat) :=
  [(0, 0x80), (36, 0xA5), (38, 0xA9), (45, 0xB2), (50, 0xB8), (81, 0xD8), (89, 0xE2), (95, 0xEB), (96, 0xEE),
   (100, 0xF4), (103, 0xF8), (104, 0xFB), (105, 0xFD), (109, 0x102), (126, 0x114), (133, 0x11C), (148, 0x12C),
   (172, 0x145), (175, 0x149), (179, 0x14E), (208, 0x16C), (306, 0x1CF), (307, 0x1D1), (308, 0x1D3), (309, 0x1D5),
   (310, 0x1D7), (311, 0x1D9), (312, 0x1DB), (313, 0x1DD), (341, 0x1FA), (428, 0x252), (443, 0x262), (544, 0x2C8),
   (545, 0x2CC), (558, 0x2DA), (741, 0x3A2), (742, 0x3AA), (749, 0x3C2), (750, 0x3CA), (805, 0x402), (819, 0x450),
   (820, 0x452), (7922, 0x2011), (7924, 0x2017), (7925, 0x201A), (7927, 0x201E), (7934, 0x2027), (7943, 0x2031),
   (7944, 0x2034), (7945, 0x2036), (7950, 0x203C), (8062, 0x20AD), (8148, 0x2104), (8149, 0x2106), (8152, 0x210A),
   (8164, 0x2117), (8174, 0x2122), (8236, 0x216C), (8240, 0x217A), (8262, 0x2194), (8264, 0x219A), (8374, 0x2209),
   (8380, 0x2210), (8381, 0x2212), (8384, 0x2216), (8388, 0x221B), (8390, 0x2221), (8392, 0x2224), (8393, 0x2226),
   (8394, 0x222C), (8396, 0x222F), (8401, 0x2238), (8406, 0x223E), (8416, 0x2249), (8419, 0x224D), (8424, 0x2253),
   (8437, 0x2262), (8439, 0x2268), (8445, 0x2270), (8482, 0x2296), (8485, 0x229A), (8496, 0x22A6), (8521, 0x22C0),
   (8603, 0x2313), (8936, 0x246A), (8946, 0x249C), (9046, 0x254C), (9050, 0x2574), (9063, 0x2590), (9066, 0x2596),
   (9076, 0x25A2), (9092, 0x25B4), (9100, 0x25BE), (9108, 0x25C8), (9111, 0x25CC), (9113, 0x25D0), (9131, 0x25E6),
   (9162, 0x2607), (9164, 0x260A), (9218, 0x2641), (9219, 0x2643), (11329, 0x2E82), (11331, 0x2E85),
   (11334, 0x2E89), (11336, 0x2E8D), (11346, 0x2E98), (11361, 0x2EA8), (11363, 0x2EAB), (11366, 0x2EAF),
   (11370, 0x2EB4), (11372, 0x2EB8), (11375, 0x2EBC), (11389, 0x2ECB), (11682, 0x2FFC), (11686, 0x3004),
   (11687, 0x3018), (11692, 0x301F), (11694, 0x302A), (11714, 0x303F), (11716, 0x3094), (11723, 0x309F),
   (11725, 0x30F7), (11730, 0x30FF), (11736, 0x312A), (11982, 0x322A), (11989, 0x3232), (12102, 0x32A4),
   (12336, 0x3390), (12348, 0x339F), (12350, 0x33A2), (12384, 0x33C5), (12393, 0x33CF), (12395, 0x33D3),
   (12397, 0x33D6), (12510, 0x3448), (12553, 0x3474), (12851, 0x359F), (12962, 0x360F), (12973, 0x361B),
   (13738, 0x3919), (13823, 0x396F), (13919, 0x39D1), (13933, 0x39E0), (14080, 0x3A74), (14298, 0x3B4F),
   (14585, 0x3C6F), (14698, 0x3CE1), (15583, 0x4057), (15847, 0x4160), (16318, 0x4338), (16434, 0x43AD),
   (16438, 0x43B2), (16481, 0x43DE), (16729, 0x44D7), (17102, 0x464D), (17122, 0x4662), (17315, 0x4724),
   (17320, 0x472A), (17402, 0x477D), (17418, 0x478E), (17859, 0x4948), (17909, 0x497B), (17911, 0x497E),
   (17915, 0x4984), (17916, 0x4987), (17936, 0x499C), (17939, 0x49A0), (17961, 0x49B8), (18664, 0x4C78),
   (18703, 0x4CA4), (18814, 0x4D1A), (18962, 0x4DAF), (19043, 0x9FA6), (33469, 0xE76C), (33470, 0xE7C8),
   (33471, 0xE7E7), (33484, 0xE815), (33485, 0xE819), (33490, 0xE81F), (33497, 0xE827), (33501, 0xE82D),
   (33505, 0xE833), (33513, 0xE83C), (33520, 0xE844), (33536, 0xE856), (33550, 0xE865), (37845, 0xF92D),
   (37921, 0xF97A), (37948, 0xF996), (38029, 0xF9E8), (38038, 0xF9F2), (38064, 0xFA10), (38065, 0xFA12),
   (38066, 0xFA15), (38069, 0xFA19), (38075, 0xFA22), (38076, 0xFA25), (38078, 0xFA2A), (39108, 0xFE32),
   (39109, 0xFE45), (39113, 0xFE53), (39114, 0xFE58), (39115, 0xFE67), (39116, 0xFE6C), (39265, 0xFF5F),
   (39394, 0xFFE6)]

/-- The number of the characters of four bytes in the basic plane. -/
def basicPlaneCount : Nat := 39420

/-- The character with a number among those of four bytes. -/
def numbered? (number : Nat) : Option Char :=
  if number < basicPlaneCount then
    (fourByteRuns.reverse.find? fun (start, _) => start ≤ number).map fun (start, code) =>
      Char.ofNat (code + (number - start))
  else if 189000 ≤ number ∧ number < 189000 + 0x100000 then some (Char.ofNat (number - 189000 + 0x10000))
  else none

/-- The character of four bytes, of which the second and the last are digits. -/
def fourBytes? (first second third fourth : Nat) : Option Char :=
  if 0x81 ≤ first ∧ first ≤ 0xFE ∧ 0x81 ≤ third ∧ third ≤ 0xFE ∧ 0x30 ≤ fourth ∧ fourth ≤ 0x39 then
    numbered? (((first - 0x81) * 10 + (second - 0x30)) * 1260 + (third - 0x81) * 10 + (fourth - 0x30))
  else none

/-- The character of a pair that folds two rows of the Japanese standard into one. -/
def foldedPair? (lead trail : Nat) : Option Char := do
  let high ← Grid.place? [(0x81, 0x9F), (0xE0, 0xFC)] lead
  let low ← Grid.place? Grid.foldedTrails trail
  Grid.japanese.pair? (0xA1 + 2 * high + low / 94) (0xA1 + low % 94)

/-- The narrow character of the Japanese syllabary. -/
def narrow? (byte : Nat) : Option Char :=
  if 0xA1 ≤ byte ∧ byte ≤ 0xDF then some (Char.ofNat (0xFF61 + (byte - 0xA1))) else none

/-- The character of a pair whose place is taken from the vendors' names, where the same characters come twice. -/
def repeatedName? (lead trail : Nat) : Option Char := do
  let place ← Grid.place? Grid.foldedTrails trail
  let index := 188 * (lead - 0xED) + place
  let source :=
    if index < 361 then index + 28
    else if index < 372 then index - 362
    else index - 352
  let character ← (Grid.japaneseNames.rows.flatMap String.toList)[source]?
  if lead < 0xED ∨ 0xEE < lead ∨ index = 361 ∨ 376 ≤ index then none else some character

/-- The character of a pair for private use. -/
def privatePair? (lead trail : Nat) : Option Char := do
  let place ← Grid.place? Grid.foldedTrails trail
  if 0xF0 ≤ lead ∧ lead ≤ 0xF9 then some (Char.ofNat (0xE000 + 188 * (lead - 0xF0) + place)) else none

/-- The pairs that a vendor reads in another way than the standard of Japan. -/
def vendorPairs : List (Nat × Char) :=
  [(0x815F, '\uFF3C'), (0x8160, '\uFF5E'), (0x8161, '\u2225'), (0x817C, '\uFF0D'), (0x8191, '\uFFE0'),
   (0x8192, '\uFFE1'), (0x81CA, '\uFFE2')]

/-- The character of a pair in Japanese as a vendor extends it. -/
def vendorPair? (lead trail : Nat) : Option Char :=
  (vendorPairs.lookup (256 * lead + trail)).or <| (Grid.japaneseUnits.pair? lead trail).or <|
    (Grid.japaneseNames.pair? lead trail).or <| (repeatedName? lead trail).or <| (privatePair? lead trail).or <|
      foldedPair? lead trail

/-- The syllables of the Korean standard, in ascending order. -/
def basicSyllables : List Char := ((Grid.korean.rows.drop (0xB0 - Grid.korean.firstLead)).take 25).flatMap String.toList

/-- The code at a place among the codes from the given one on that are not listed. -/
def unlisted (place code : Nat) : List Char → Nat
  | [] => code + place
  | character :: rest =>
      if code + place < character.toNat then code + place
      else unlisted (place - (character.toNat - code)) (character.toNat + 1) rest

/-- The syllables that a vendor adds to the Korean standard, before and beside its rows. -/
def addedSyllable? (lead trail : Nat) : Option Char := do
  let whole := [(0x41, 0x5A), (0x61, 0x7A), (0x81, 0xFE)]
  let half := [(0x41, 0x5A), (0x61, 0x7A), (0x81, 0xA0)]
  let place ←
    if 0x81 ≤ lead ∧ lead ≤ 0xA0 then (Grid.place? whole trail).map (178 * (lead - 0x81) + ·)
    else if 0xA1 ≤ lead ∧ lead ≤ 0xC6 then (Grid.place? half trail).map (178 * 32 + 84 * (lead - 0xA1) + ·)
    else none
  if place < 8822 then some (Char.ofNat (unlisted place 0xAC00 basicSyllables)) else none

/-- The pair that fills the place of a letter. -/
def isFiller (lead trail : Nat) : Bool := lead = 0xA4 ∧ trail = 0xD4

/-- The character of a pair in Korean, with the one that fills the place of a letter. -/
def koreanPair? (lead trail : Nat) : Option Char :=
  if isFiller lead trail then some '\u3164' else Grid.korean.pair? lead trail

/-- The character of a pair in Korean with all syllables. -/
def unifiedPair? (lead trail : Nat) : Option Char := (koreanPair? lead trail).or (addedSyllable? lead trail)

/-- The character of a pair in Korean of which the syllables are told by their letters. Behind them two rows of the
standard share a first byte, without its letters. -/
def combinedPair? (lead trail : Nat) : Option Char :=
  if lead < 0xD8 then Hangul.combined? lead trail
  else do
    let half ← Grid.place? [(0xD9, 0xDE), (0xE0, 0xF9)] lead
    let place ← Grid.place? [(0x31, 0x7E), (0x91, 0xFE)] trail
    let row := if lead < 0xE0 then 2 * half else 2 * half + 0x1D
    if lead = 0xDA ∧ 0xA1 ≤ trail ∧ trail ≤ 0xD3 then none
    else koreanPair? (0xA1 + row + place / 94) (0xA1 + place % 94)

/-- The syllable that is made up of four pairs, of which the first one is a filler. -/
def madeUp? : List Nat → Option Char
  | [_, _, 0xA4, opening, 0xA4, middle, 0xA4, closing] =>
      if opening < 0xA1 ∨ middle < 0xA1 ∨ closing < 0xA1 then none
      else Hangul.madeUp? (opening - 0xA1) (middle - 0xA1) (closing - 0xA1)
  | _ => none

/-- The pairs that a vendor reads in another way than the vendors of Taiwan do together. -/
def taiwaneseVendorPairs : List (Nat × Char) :=
  [(0xA145, '\u2027'), (0xA14E, '\uFE51'), (0xA1C2, '\u00AF'), (0xA1E3, '\uFF5E'), (0xA1F2, '\u2295'),
   (0xA1F3, '\u2299'), (0xA241, '\u2215'), (0xA242, '\uFE68'), (0xA244, '\uFFE5'), (0xA246, '\uFFE0'),
   (0xA247, '\uFFE1'), (0xA3E1, '\u20AC')]

/-- The characters that a vendor adds in one row, from its first pair on. -/
def taiwaneseAdditions : String := "碁銹裏墻恒粧嫺╔╦╗╠╬╣╚╩╝╒╤╕╞╪╡╘╧╛╓╥╖╟╫╢╙╨╜║═╭╮╰╯▓"

/-- The character of a pair in traditional Chinese as a vendor extends it. -/
def taiwaneseVendorPair? (lead trail : Nat) : Option Char :=
  if lead = 0xF9 ∧ 0xD6 ≤ trail then taiwaneseAdditions.toList[trail - 0xD6]?
  else (taiwaneseVendorPairs.lookup (256 * lead + trail)).or (Grid.taiwanese.pair? lead trail)

/-- The pairs of Hong Kong for which there is no single character. -/
def markedPairs : List (Nat × List Char) :=
  [(0x8862, ['\u00CA', '\u0304']), (0x8864, ['\u00CA', '\u030C']), (0x88A3, ['\u00EA', '\u0304']),
   (0x88A5, ['\u00EA', '\u030C'])]

/-- The characters of a pair in traditional Chinese with those of Hong Kong, which take some rows for themselves. -/
def hongKongPair? (lead trail : Nat) : Option (List Char) :=
  let isOwn := 0xC6 ≤ lead ∧ lead ≤ 0xC8 ∧ ¬(lead = 0xC6 ∧ trail < 0xA1)
  let shared := if isOwn then none else Grid.taiwanese.pair? lead trail
  (markedPairs.lookup (256 * lead + trail)).or ((shared.or (Grid.hongKong.pair? lead trail)).map ([·]))

/-- The first byte of the row of the second plane to which a row behind the first plane belongs. -/
def secondPlaneLead (row : Nat) : Nat :=
  if row < 5 then [0xA1, 0xA8, 0xA3, 0xA4, 0xA5].getD row 0
  else if row < 9 then 0xAC + (row - 5)
  else 0xEE + (row - 9)

/-- The characters of a pair that folds two rows of the extended Japanese standard into one, plane by plane. -/
def foldedCharacters? (edition : Kanji.Edition) (lead trail : Nat) : Option (List Char) := do
  let high ← Grid.place? [(0x81, 0x9F), (0xE0, 0xFC)] lead
  let low ← Grid.place? Grid.foldedTrails trail
  let row := 2 * high + low / 94
  let cell := 0xA1 + low % 94
  if 256 * lead + trail = 0x815F then some ['\\']
  else if row < 94 then Kanji.firstPlane? edition (0xA1 + row) cell
  else Kanji.secondPlane? edition (secondPlaneLead (row - 94)) cell

/-- The character that a byte is on its own. -/
def single? (charset : Multibyte) (byte : Nat) : Option Char :=
  match charset with
  | shiftJisx _ =>
      if byte = 0x5C then some '\u00A5' else if byte = 0x7E then some '\u203E' else (ascii? byte).or (narrow? byte)
  | shiftJis => (ascii? byte).or (narrow? byte)
  | cp932 =>
      if byte = 0x80 then some '\u0080'
      else if byte = 0xA0 then some '\uF8F0'
      else if 0xFD ≤ byte then some (Char.ofNat (0xF8F1 + (byte - 0xFD)))
      else (ascii? byte).or (narrow? byte)
  | _ => ascii? byte
where
  ascii? (byte : Nat) : Option Char := if byte < 0x80 then some (Char.ofNat byte) else none

/-- The character of a pair of bytes, where each pair has one at most. -/
def character? (charset : Multibyte) (lead trail : Nat) : Option Char :=
  match charset with
  | gb2312 => basicPair? lead trail
  | gbk => Grid.chinese.pair? lead trail
  | gb18030 => newestPair? lead trail
  | big5 => Grid.taiwanese.pair? lead trail
  | shiftJis => foldedPair? lead trail
  | eucJp => if lead = 0x8E then narrow? trail else Grid.japanese.pair? lead trail
  | eucKr => Grid.korean.pair? lead trail
  | cp932 => vendorPair? lead trail
  | cp949 => unifiedPair? lead trail
  | cp950 => taiwaneseVendorPair? lead trail
  | johab => combinedPair? lead trail
  | big5Hkscs | shiftJisx _ | eucJisx _ => none

/-- The characters of a pair of bytes. -/
def pair? (charset : Multibyte) (lead trail : Nat) : Option (List Char) :=
  match charset with
  | big5Hkscs => hongKongPair? lead trail
  | shiftJisx edition => foldedCharacters? edition lead trail
  | eucJisx edition =>
      if lead = 0x8E then (narrow? trail).map ([·])
      else if 256 * lead + trail = 0xA2B2 then some ['\uFF5E']
      else Kanji.firstPlane? edition lead trail
  | _ => (charset.character? lead trail).map ([·])

/-- The characters of a pair behind the byte that calls for another plane. -/
def further? (charset : Multibyte) (lead trail : Nat) : Option (List Char) :=
  let supplement := (Grid.japaneseSupplement.pair? lead trail).map ([·])
  match charset with
  | eucJisx edition => (Kanji.secondPlane? edition lead trail).or supplement
  | _ => supplement

/-- How many bytes belong together where the first two of them are given. -/
def width (charset : Multibyte) (first second : Nat) : Nat :=
  match charset with
  | gb18030 => if 0x30 ≤ second ∧ second ≤ 0x39 then 4 else 2
  | eucJp | eucJisx _ => if first = 0x8F then 3 else 2
  | eucKr => if isFiller first second then 8 else 2
  | _ => 2

/-- The characters that bytes of the width make. -/
def characters? (charset : Multibyte) : List Nat → Option (List Char)
  | [lead, trail] => charset.pair? lead trail
  | [_, lead, trail] => charset.further? lead trail
  | [first, second, third, fourth] => (fourBytes? first second third fourth).map ([·])
  | bytes => (madeUp? bytes).map ([·])

/-- What the next bytes are: characters with the number of bytes that they take beside the first one, a byte that begins
no character, or a break. -/
inductive Step where
  | read (characters : List Char) (used : Nat)
  | wrong
  | broken

def step (charset : Multibyte) (first : UInt8) (rest : Bytes) : Step :=
  match charset.single? first.toNat, rest with
  | some character, _ => .read [character] 0
  | none, [] => .broken
  | none, second :: _ =>
      let more := charset.width first.toNat second.toNat - 1
      if rest.length < more then .broken
      else
        match charset.characters? ((first :: rest.take more).map UInt8.toNat) with
        | some characters => .read characters more
        | none => .wrong

/-- The characters that bytes spell; a byte that begins none is replaced, and so are bytes that break off. -/
def scanLossy (charset : Multibyte) : Bytes → List Char
  | [] => []
  | first :: rest =>
      match charset.step first rest with
      | .read characters used => characters ++ scanLossy charset (rest.drop used)
      | .wrong => '\uFFFD' :: scanLossy charset rest
      | .broken => ['\uFFFD']
  termination_by bytes => bytes.length
  decreasing_by all_goals simp only [List.length_drop, List.length_cons]; omega

/-- The text that bytes spell, with replacements for what cannot be read. -/
def decodeLossy (charset : Multibyte) (bytes : Bytes) : String := String.ofList (scanLossy charset bytes)

end Multibyte
end PathStore.Text
