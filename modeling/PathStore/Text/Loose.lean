/-
This file holds texts in which halves of surrogate pairs may stand alone, as services can spell them. No encoding has
bytes for such a half.
-/

namespace PathStore

/-- A half of a surrogate pair, by its place among the halves; those of the lower part lead a pair. -/
abbrev Half := Fin 0x800

/-- The code of a half. -/
def Half.code (half : Half) : Nat := 0xD800 + half.val

/-- A unit of text: a character, or a half that stands alone. -/
inductive Symbol where
  | char (value : Char)
  | half (value : Half)
  deriving DecidableEq, Repr

namespace Symbol

/-- The symbol with a code. -/
def ofCode (code : Nat) : Symbol :=
  if bounds : 0xD800 ≤ code ∧ code < 0xE000 then .half ⟨code - 0xD800, by omega⟩ else .char (Char.ofNat code)

def code : Symbol → Nat
  | .char value => value.toNat
  | .half value => Half.code value

def char? : Symbol → Option Char
  | .char value => some value
  | .half _ => none

@[simp] theorem ofCode_toNat (character : Char) : ofCode character.toNat = .char character := by
  have valid : character.toNat < 0xD800 ∨ 0xDFFF < character.toNat ∧ character.toNat < 0x110000 := character.valid
  rw [ofCode, dif_neg (by omega), Char.ofNat_toNat]

@[simp] theorem ofCode_code (half : Half) : ofCode half.code = .half half := by
  have bound := half.isLt
  have inside : 0xD800 ≤ half.code ∧ half.code < 0xE000 := by
    rw [Half.code]
    omega
  rw [ofCode, dif_pos inside]
  exact congrArg Symbol.half (Fin.ext (Nat.add_sub_cancel_left ..))

end Symbol

/-- A text: all of it, or what stands before its first lone half, this half and the rest. -/
inductive LooseText where
  | whole (text : String)
  | broken (front : String) (half : Half) (rest : LooseText)
  deriving DecidableEq, Repr

namespace LooseText

instance : Inhabited LooseText := ⟨.whole ""⟩

instance : Coe String LooseText := ⟨.whole⟩

/-- A text without lone halves is among others without them just if it is one of these. -/
@[simp] theorem whole_mem_map_whole {text : String} {texts : List String} :
    whole text ∈ texts.map whole ↔ text ∈ texts := by simp

/-- The text if no half stands alone in it. -/
def whole? : LooseText → Option String
  | .whole text => some text
  | .broken .. => none

/-- A text after another one that has no lone halves. -/
def prepend (front : String) : LooseText → LooseText
  | .whole text => .whole (front ++ text)
  | .broken more half rest => .broken (front ++ more) half rest

/-- The text with what stands behind its last lone half changed. -/
def mapLast (change : String → String) : LooseText → LooseText
  | .whole text => .whole (change text)
  | .broken front half rest => .broken front half (rest.mapLast change)

/-- How many halves stand in a row at the front. -/
def leadingHalves : LooseText → Nat
  | .whole _ => 0
  | .broken front _ rest => if front = "" then rest.leadingHalves + 1 else 0

def symbols : LooseText → List Symbol
  | .whole text => text.toList.map .char
  | .broken front half rest => front.toList.map .char ++ .half half :: rest.symbols

def ofSymbols : List Symbol → LooseText
  | [] => .whole ""
  | .char character :: rest => (ofSymbols rest).prepend (String.singleton character)
  | .half half :: rest => .broken "" half (ofSymbols rest)

/-- The text with a character in place of each lone half. -/
def mended (character : Char) : LooseText → String
  | .whole text => text
  | .broken front _ rest => front ++ String.singleton character ++ rest.mended character

@[simp] theorem ofSymbols_chars (characters : List Char) :
    ofSymbols (characters.map .char) = .whole (String.ofList characters) := by
  induction characters with
  | nil => rfl
  | cons character rest ih =>
      rw [List.map_cons, ofSymbols, ih, prepend, String.singleton_eq_ofList, ← String.ofList_append]
      rfl

end LooseText

/-- What texts of a kind are made of. -/
class TextLike (τ : Type) where
  ofString : String → τ
  isEmpty : τ → Bool
  symbols : τ → List Symbol
  /-- The texts of one symbol each. -/
  singles : τ → List τ

instance : TextLike String where
  ofString text := text
  isEmpty text := text = ""
  symbols text := text.toList.map .char
  singles text := text.toList.map String.singleton

instance : TextLike LooseText where
  ofString := .whole
  isEmpty text := text = .whole ""
  symbols := LooseText.symbols
  singles text := text.symbols.map fun symbol => LooseText.ofSymbols [symbol]

end PathStore
