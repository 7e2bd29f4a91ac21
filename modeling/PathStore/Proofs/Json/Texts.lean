/-
This file shows that texts in JSON read back as they were written. A character beyond sixteen bits is written as a pair
of halves, which reading joins again.
-/
import PathStore.Json.Reader
import PathStore.Json.Writer

namespace PathStore.Json

theorem hexValue?_hexDigit : ∀ value < 16, Bytes.hexValue? (Bytes.hexDigit value) = some value := by decide

section Units

variable {unit : Nat} (read : List Symbol)

/-- A half that leads a pair waits for one that trails it. -/
theorem acceptUnit_leading (high : Option Nat) (low : 0xD800 ≤ unit) (leads : unit < 0xDC00) :
    acceptUnit high unit read = (some unit, settle high read) := if_pos ⟨low, leads⟩

/-- Two halves that make a pair are read as one character. -/
theorem acceptUnit_pair (leading : Nat) (trails : 0xDC00 ≤ unit) (small : unit < 0xE000) :
    acceptUnit (some leading) unit read =
      (none, .ofCode (0x10000 + (leading - 0xD800) * 0x400 + (unit - 0xDC00)) :: read) := by
  unfold acceptUnit
  rw [if_neg (by omega), if_pos ⟨trails, small⟩]

theorem acceptUnit_plain (high : Option Nat) (plain : unit < 0xD800 ∨ 0xE000 ≤ unit) :
    acceptUnit high unit read = (none, .ofCode unit :: settle high read) := by
  unfold acceptUnit
  rw [if_neg (by omega), if_neg (by omega)]

end Units

/-- Four digits spell the unit they were written for. -/
theorem unit?_hexDigits {unit : Nat} (bound : unit < 0x10000) :
    ∃ first second third fourth, Text.hexDigits 4 unit = [first, second, third, fourth] ∧
      unit? first second third fourth = some unit := by
  refine ⟨_, _, _, _, rfl, ?_⟩
  have digit (power : Nat) := hexValue?_hexDigit (unit / power % 16) (Nat.mod_lt _ (by decide))
  rw [unit?]
  simp only [show Nat.pow 16 (4 - 1 - 0) = 4096 from rfl, show Nat.pow 16 (4 - 1 - 1) = 256 from rfl,
    show Nat.pow 16 (4 - 1 - 2) = 16 from rfl, show Nat.pow 16 (4 - 1 - 3) = 1 from rfl, digit, bind, Option.bind]
  congr 1
  omega

/-- An escape with the number of a unit is read as the unit. -/
theorem readText_unit (high : Option Nat) (read : List Symbol) {unit : Nat} (bound : unit < 0x10000)
    (rest : List Symbol) :
    readText high read (('\\' :: 'u' :: Text.hexDigits 4 unit).map .char ++ rest) =
      readText (acceptUnit high unit read).1 (acceptUnit high unit read).2 rest := by
  obtain ⟨first, second, third, fourth, digits, same⟩ := unit?_hexDigits bound
  rw [digits]
  simp only [List.map_cons, List.map_nil, List.cons_append, List.nil_append]
  rw [readText, if_neg (by decide), if_pos rfl]
  simp only [same]

section Escapes

variable (high : Option Nat) (read : List Symbol) {character : Char}

/-- A letter after a backslash is read as the character it stands for. -/
theorem readText_letter {letter : Char} (letters : unescape? letter = some character) (rest : List Symbol) :
    readText high read (.char '\\' :: .char letter :: rest) =
      readText none (.char character :: settle high read) rest := by
  have notUnit : letter ≠ 'u' := by
    rintro rfl
    cases letters
  rw [readText, if_neg (by decide), if_pos rfl, letters]
  exact fun _ _ _ _ _ _ isUnit => notUnit isUnit

/-- A character that is not escaped is read as itself. -/
theorem readText_plain (notQuote : character ≠ '"') (notBackslash : character ≠ '\\')
    (printable : 0x20 ≤ character.toNat) (rest : List Symbol) :
    readText high read (.char character :: rest) = readText none (.char character :: settle high read) rest := by
  rw [readText.eq_def]
  dsimp only
  rw [if_neg fun same => notQuote (Symbol.char.inj same), if_neg fun same => notBackslash (Symbol.char.inj same),
    if_neg (show ¬(Symbol.char character).code < 0x20 from Nat.not_lt.mpr printable)]

/-- The units of a character are read as the character after those before it. -/
theorem readText_units (rest : List Symbol) :
    readText none read
        ((((unitsOf character).flatMap fun unit => '\\' :: 'u' :: Text.hexDigits 4 unit).map .char) ++ rest) =
      readText none (.char character :: read) rest := by
  have valid : character.toNat < 0xD800 ∨ 0xDFFF < character.toNat ∧ character.toNat < 0x110000 := character.valid
  rw [unitsOf]
  by_cases narrow : character.toNat < 0x10000
  · rw [if_pos narrow, List.flatMap_singleton, readText_unit none read narrow, acceptUnit_plain _ _ (by omega),
      Symbol.ofCode_toNat]
    rfl
  · rw [if_neg narrow]
    generalize lead : 0xD800 + (character.toNat - 0x10000) / 0x400 = first
    generalize trail : 0xDC00 + (character.toNat - 0x10000) % 0x400 = second
    have whole : 0x10000 + (first - 0xD800) * 0x400 + (second - 0xDC00) = character.toNat := by omega
    have waits : acceptUnit none first read = (some first, read) :=
      acceptUnit_leading read none (by omega) (by omega)
    rw [List.flatMap_cons, List.flatMap_singleton, List.map_append, List.append_assoc,
      readText_unit none read (by omega), readText_unit _ _ (by omega), waits]
    dsimp only
    rw [acceptUnit_pair _ _ (by omega) (by omega), whole, Symbol.ofCode_toNat]

end Escapes

/-- A written character is read as itself after the characters before it. -/
theorem readText_escape (read : List Symbol) (character : Char) (rest : List Symbol) :
    readText none read ((escape character).map .char ++ rest) = readText none (.char character :: read) rest := by
  have lettered {letter : Char} (letters : unescape? letter = some character) :
      readText none read (['\\', letter].map .char ++ rest) = readText none (.char character :: read) rest :=
    readText_letter none read letters rest
  unfold escape
  split
  · rename_i quoted
    refine lettered ?_
    rw [unescape?, if_pos]
    rw [Bool.or_eq_true, Bool.or_eq_true]
    exact .inl (by simpa using quoted)
  split
  · rename_i same
    exact lettered (same ▸ rfl)
  split
  · rename_i same
    exact lettered (same ▸ rfl)
  split
  · rename_i same
    exact lettered (same ▸ rfl)
  split
  · rename_i same
    exact lettered (same ▸ rfl)
  split
  · rename_i same
    exact lettered (same ▸ rfl)
  split
  · rename_i notMark _ _ _ _ _ printable
    rw [Bool.or_eq_true, decide_eq_true_eq, decide_eq_true_eq, not_or] at notMark
    exact readText_plain none read notMark.1 notMark.2 printable.1 rest
  · exact readText_units read rest

/-- Characters that are written one after the other are read one after the other. -/
theorem readText_escapes (read : List Symbol) (characters : List Char) (rest : List Symbol) :
    readText none read ((characters.flatMap escape).map .char ++ .char '"' :: rest) =
      some (.ofSymbols (read.reverse ++ characters.map .char), rest) := by
  induction characters generalizing read with
  | nil =>
      rw [List.flatMap_nil, List.map_nil, List.nil_append, List.append_nil, readText.eq_def]
      exact if_pos rfl
  | cons character more ih =>
      rw [List.flatMap_cons, List.map_append, List.append_assoc, readText_escape, ih, List.reverse_cons,
        List.append_assoc]
      rfl

/-- What stands between the quotes of a written text. -/
theorem flatMap_escapeSymbol (text : String) :
    (TextLike.symbols text).flatMap escapeSymbol = text.toList.flatMap escape :=
  List.flatMap_map ..

/-- A written text reads back after its opening quote. -/
theorem readQuoted_writeText (text : String) (rest : List Symbol) :
    readQuoted ((text.toList.flatMap escape ++ ['"']).map .char ++ rest) = .ok (text, rest) := by
  rw [List.map_append, List.append_assoc, readQuoted]
  show (readText none [] ((text.toList.flatMap escape).map .char ++ .char '"' :: rest)).getDM _ = _
  rw [readText_escapes, List.reverse_nil, List.nil_append, LooseText.ofSymbols_chars, String.ofList_toList]
  rfl

end PathStore.Json
