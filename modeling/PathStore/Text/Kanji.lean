/-
This file finds characters in the extended standard of Japan, which has two planes and two editions.
-/
import PathStore.Text.Grid.Japanese
import PathStore.Text.Grid.JapaneseExtension

namespace PathStore.Text.Kanji

inductive Edition where
  | of2000
  | of2004
  deriving DecidableEq, Repr

/-- The pairs of the first plane that the later edition adds. -/
def laterPairs : List Nat :=
  [0xAEA1, 0xAFFE, 0xCFD4, 0xCFFE, 0xF4A7, 0xFEFA, 0xFEFB, 0xFEFC, 0xFEFD, 0xFEFE]

/-- The pairs for which there is no single character, with a letter and the mark that follows it. -/
def markedPairs : List (Nat × Char × Char) :=
  [(0xA4F7, '\u304B', '\u309A'), (0xA4F8, '\u304D', '\u309A'), (0xA4F9, '\u304F', '\u309A'),
   (0xA4FA, '\u3051', '\u309A'), (0xA4FB, '\u3053', '\u309A'), (0xA5F7, '\u30AB', '\u309A'),
   (0xA5F8, '\u30AD', '\u309A'), (0xA5F9, '\u30AF', '\u309A'), (0xA5FA, '\u30B1', '\u309A'),
   (0xA5FB, '\u30B3', '\u309A'), (0xA5FC, '\u30BB', '\u309A'), (0xA5FD, '\u30C4', '\u309A'),
   (0xA5FE, '\u30C8', '\u309A'), (0xA6F8, '\u31F7', '\u309A'), (0xABC4, '\u00E6', '\u0300'),
   (0xABC8, '\u0254', '\u0300'), (0xABC9, '\u0254', '\u0301'), (0xABCA, '\u028C', '\u0300'),
   (0xABCB, '\u028C', '\u0301'), (0xABCC, '\u0259', '\u0300'), (0xABCD, '\u0259', '\u0301'),
   (0xABCE, '\u025A', '\u0300'), (0xABCF, '\u025A', '\u0301'), (0xABE5, '\u02E9', '\u02E5'),
   (0xABE6, '\u02E5', '\u02E9')]

/-- The characters of a pair in the first plane. For the later pairs the earlier edition has a replacement. -/
def firstPlane? (edition : Edition) (lead trail : Nat) : Option (List Char) :=
  let code := 256 * lead + trail
  if edition = .of2000 ∧ code ∈ laterPairs then some ['\uFFFD']
  else
    ((markedPairs.lookup code).map fun (letter, mark) => [letter, mark]).or <|
      ((Grid.japanese.pair? lead trail).or (Grid.japaneseExtension.pair? lead trail)).map ([·])

/-- The characters of a pair in the second plane. The editions differ in the form of one of them. -/
def secondPlane? (edition : Edition) (lead trail : Nat) : Option (List Char) :=
  if edition = .of2000 ∧ 256 * lead + trail = 0xFDBB then some ['\u9B1D']
  else (Grid.japaneseSecondPlane.pair? lead trail).map ([·])

end PathStore.Text.Kanji
