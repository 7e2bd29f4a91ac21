/-
This file shows that what is written as bytes and as text reads back: a text from its bytes in UTF-8, and bytes from
their digits in base64.
-/
import Mathlib.Data.List.Basic
import PathStore.Bytes.Base64
import PathStore.Bytes.Utf8

namespace PathStore

namespace Utf8

section Steps

variable {surrogates : Bool} {pending : Pending} {byte : UInt8} (inside : pending.low ≤ byte ∧ byte ≤ pending.high)
include inside

/-- The last byte owed ends a character. -/
theorem scan_last (last : pending.owed ≤ 1) (rest : Bytes) :
    scan surrogates (some pending) (byte :: rest) =
      some (.ofCode (64 * pending.value + byte.toNat % 64)) :: scan surrogates none rest := by
  rw [scan, if_pos inside]
  exact if_pos last

theorem scan_more (more : 1 < pending.owed) (rest : Bytes) :
    scan surrogates (some pending) (byte :: rest) =
      scan surrogates (some ⟨64 * pending.value + byte.toNat % 64, pending.owed - 1, 0x80, 0xBF⟩) rest := by
  rw [scan, if_pos inside]
  exact if_neg (Nat.not_le.mpr more)

end Steps

theorem toNat_ofNat {code : Nat} (small : code < 256) : (UInt8.ofNat code).toNat = code :=
  UInt8.toNat_ofNat_of_lt' small

theorem le_ofNat {least : UInt8} {code : Nat} (small : code < 256) (le : least.toNat ≤ code) :
    least ≤ UInt8.ofNat code := by
  rwa [UInt8.le_iff_toNat_le, toNat_ofNat small]

theorem ofNat_le {greatest : UInt8} {code : Nat} (le : code ≤ greatest.toNat) : UInt8.ofNat code ≤ greatest := by
  rwa [UInt8.le_iff_toNat_le, toNat_ofNat (Nat.lt_of_le_of_lt le greatest.toNat_lt)]

/-- A byte that goes on with a character is one of sixty-four. -/
theorem tail_inside (bits : Nat) :
    (0x80 : UInt8) ≤ UInt8.ofNat (bits % 64 + 128) ∧ UInt8.ofNat (bits % 64 + 128) ≤ (0xBF : UInt8) := by
  have least : (0x80 : UInt8).toNat = 128 := rfl
  have greatest : (0xBF : UInt8).toNat = 191 := rfl
  exact ⟨le_ofNat (by omega) (by omega), ofNat_le (by omega)⟩

theorem tail_bits (bits : Nat) : (UInt8.ofNat (bits % 64 + 128)).toNat % 64 = bits % 64 := by
  rw [toNat_ofNat (by omega)]
  omega

section Leads

variable {code : Nat}

theorem lead_ascii (small : code ≤ 0x7F) : lead false (UInt8.ofNat code) = .complete (Char.ofNat code) := by
  rw [lead, toNat_ofNat (by omega)]
  exact if_pos (by omega)

theorem lead_two (low : 0x80 ≤ code) (high : code ≤ 0x7FF) :
    lead false (UInt8.ofNat (code / 64 % 32 + 192)) = .opens ⟨code / 64, 1, 0x80, 0xBF⟩ := by
  rw [lead, toNat_ofNat (by omega)]
  have bits : code / 64 % 32 + 192 - 0xC0 = code / 64 := by omega
  rw [if_neg (by omega), if_neg (by omega), if_pos (by omega), bits]

/-- The first of three bytes admits the second, which is bounded so that no code is written longer than it has to be and
none is half of a pair. -/
theorem exists_lead_three (low : 0x800 ≤ code) (high : code ≤ 0xFFFF) (whole : code < 0xD800 ∨ 0xDFFF < code) :
    ∃ least greatest, lead false (UInt8.ofNat (code / 4096 % 16 + 224)) = .opens ⟨code / 4096, 2, least, greatest⟩ ∧
      least ≤ UInt8.ofNat (code / 64 % 64 + 128) ∧ UInt8.ofNat (code / 64 % 64 + 128) ≤ greatest := by
  rw [lead, toNat_ofNat (by omega)]
  rw [if_neg (by omega), if_neg (by omega), if_neg (by omega)]
  obtain ⟨least, greatest⟩ := tail_inside (code / 64)
  by_cases first : code / 4096 = 0
  · rw [if_pos (by omega)]
    exact ⟨_, _, by rw [first], le_ofNat (by omega) (by rw [show (0xA0 : UInt8).toNat = 160 from rfl]; omega), greatest⟩
  · rw [if_neg (by omega)]
    by_cases halves : code / 4096 = 13
    · rw [if_pos (by omega)]
      exact ⟨_, _, by rw [halves], least, ofNat_le (by rw [show UInt8.toNat _ = 159 from rfl]; omega)⟩
    · have bits : code / 4096 % 16 + 224 - 0xE0 = code / 4096 := by omega
      rw [if_neg (by omega), if_pos (by omega), bits]
      exact ⟨_, _, rfl, least, greatest⟩

/-- The first of four bytes admits the second, which is bounded by the greatest code. -/
theorem exists_lead_four (low : 0x10000 ≤ code) (high : code < 0x110000) :
    ∃ least greatest, lead false (UInt8.ofNat (code / 262144 % 8 + 240)) = .opens ⟨code / 262144, 3, least, greatest⟩ ∧
      least ≤ UInt8.ofNat (code / 4096 % 64 + 128) ∧ UInt8.ofNat (code / 4096 % 64 + 128) ≤ greatest := by
  rw [lead, toNat_ofNat (by omega)]
  rw [if_neg (by omega), if_neg (by omega), if_neg (by omega), if_neg (by omega), if_neg (by omega), if_neg (by omega)]
  obtain ⟨least, greatest⟩ := tail_inside (code / 4096)
  by_cases first : code / 262144 = 0
  · rw [if_pos (by omega)]
    exact ⟨_, _, by rw [first], le_ofNat (by omega) (by rw [show (0x90 : UInt8).toNat = 144 from rfl]; omega), greatest⟩
  · rw [if_neg (by omega)]
    by_cases last : code / 262144 = 4
    · rw [if_neg (by omega), if_pos (by omega)]
      exact ⟨_, _, by rw [last], least, ofNat_le (by rw [show (0x8F : UInt8).toNat = 143 from rfl]; omega)⟩
    · have bits : code / 262144 % 8 + 240 - 0xF0 = code / 262144 := by omega
      rw [if_pos (by omega), bits]
      exact ⟨_, _, rfl, least, greatest⟩

variable (rest : Bytes)

theorem scan_ascii (small : code ≤ 0x7F) :
    scan false none (UInt8.ofNat code :: rest) = some (.ofCode code) :: scan false none rest := by
  rw [scan, lead_ascii small, Symbol.ofCode, dif_neg (by omega)]

theorem scan_two (low : 0x80 ≤ code) (high : code ≤ 0x7FF) :
    scan false none (UInt8.ofNat (code / 64 % 32 + 192) :: UInt8.ofNat (code % 64 + 128) :: rest) =
      some (.ofCode code) :: scan false none rest := by
  have bits : 64 * (code / 64) + code % 64 = code := Nat.div_add_mod ..
  rw [scan, lead_two low high]
  dsimp only
  rw [scan_last (tail_inside code) (Nat.le_refl 1), tail_bits, bits]

theorem scan_three (low : 0x800 ≤ code) (high : code ≤ 0xFFFF) (whole : code < 0xD800 ∨ 0xDFFF < code) :
    scan false none (UInt8.ofNat (code / 4096 % 16 + 224) :: UInt8.ofNat (code / 64 % 64 + 128) ::
      UInt8.ofNat (code % 64 + 128) :: rest) = some (.ofCode code) :: scan false none rest := by
  obtain ⟨least, greatest, opens, inside⟩ := exists_lead_three low high whole
  have bits : 64 * (64 * (code / 4096) + code / 64 % 64) + code % 64 = code := by omega
  rw [scan, opens]
  dsimp only
  rw [scan_more inside (show 1 < 2 by decide), tail_bits, scan_last (tail_inside code) (Nat.le_refl 1), tail_bits, bits]

theorem scan_four (low : 0x10000 ≤ code) (high : code < 0x110000) :
    scan false none (UInt8.ofNat (code / 262144 % 8 + 240) :: UInt8.ofNat (code / 4096 % 64 + 128) ::
      UInt8.ofNat (code / 64 % 64 + 128) :: UInt8.ofNat (code % 64 + 128) :: rest) =
        some (.ofCode code) :: scan false none rest := by
  obtain ⟨least, greatest, opens, inside⟩ := exists_lead_four low high
  have bits : 64 * (64 * (64 * (code / 262144) + code / 4096 % 64) + code / 64 % 64) + code % 64 = code := by omega
  rw [scan, opens]
  dsimp only
  rw [scan_more inside (show 1 < 3 by decide), tail_bits]
  dsimp only
  rw [scan_more (tail_inside (code / 64)) (show 1 < 3 - 1 by decide), tail_bits,
    scan_last (tail_inside code) (Nat.le_refl 1), tail_bits, bits]

end Leads

/-- The bytes of a character are read as the character. -/
theorem scan_encodeChar (character : Char) (rest : Bytes) :
    scan false none (String.utf8EncodeChar character ++ rest) = some (.char character) :: scan false none rest := by
  have valid : character.toNat < 0xD800 ∨ 0xDFFF < character.toNat ∧ character.toNat < 0x110000 := character.valid
  have bytes : String.utf8EncodeChar character =
      if character.toNat ≤ 127 then [UInt8.ofNat character.toNat]
      else if character.toNat ≤ 2047 then
        [UInt8.ofNat (character.toNat / 64 % 32 + 192), UInt8.ofNat (character.toNat % 64 + 128)]
      else if character.toNat ≤ 65535 then
        [UInt8.ofNat (character.toNat / 4096 % 16 + 224), UInt8.ofNat (character.toNat / 64 % 64 + 128),
          UInt8.ofNat (character.toNat % 64 + 128)]
      else
        [UInt8.ofNat (character.toNat / 262144 % 8 + 240), UInt8.ofNat (character.toNat / 4096 % 64 + 128),
          UInt8.ofNat (character.toNat / 64 % 64 + 128), UInt8.ofNat (character.toNat % 64 + 128)] := rfl
  rw [bytes, ← congrArg some (Symbol.ofCode_toNat character)]
  generalize character.toNat = code at valid
  by_cases ascii : code ≤ 127
  · rw [if_pos ascii]
    exact scan_ascii rest ascii
  by_cases small : code ≤ 2047
  · rw [if_neg ascii, if_pos small]
    exact scan_two rest (by omega) small
  by_cases medium : code ≤ 65535
  · rw [if_neg ascii, if_neg small, if_pos medium]
    exact scan_three rest (by omega) medium (by omega)
  · rw [if_neg ascii, if_neg small, if_neg medium]
    exact scan_four rest (by omega) (by omega)

/-- A text reads back from its bytes. -/
theorem decode?_encode (text : String) : decode? (encode text) = some text := by
  have read (characters : List Char) :
      scan false none (characters.flatMap String.utf8EncodeChar) = characters.map fun character =>
        some (.char character) := by
    induction characters with
    | nil => rfl
    | cons character rest ih => rw [List.flatMap_cons, scan_encodeChar, ih, List.map_cons]
  have all (characters : List Char) :
      (characters.map fun character => some (Symbol.char character)).mapM
        (fun found => Option.bind found Symbol.char?) = some characters := by
    induction characters with
    | nil => rfl
    | cons character rest ih => rw [List.map_cons, List.mapM_cons, ih]; rfl
  rw [decode?, encode, read, all, Option.map_some, String.ofList_toList]

end Utf8

namespace Base64

theorem digitValue?_digit : ∀ value < 64, digitValue? (digit value) = some value := by decide

theorem digit_ne_padding : ∀ value < 64, digit value ≠ '=' := by decide

/-- The text of a byte string is made of digits and of padding. -/
theorem exists_digit_of_mem_encode {bytes : Bytes} {character : Char} (member : character ∈ (encode bytes).toList) :
    (∃ value < 64, character = digit value) ∨ character = '=' := by
  rw [encode, String.toList_ofList] at member
  have table {value : Nat} (small : value < 64) : (∃ other < 64, digit value = digit other) ∨ digit value = '=' :=
    .inl ⟨value, small, rfl⟩
  fun_induction encodeBytes bytes with
  | case1 => cases member
  | case2 first a =>
      have bound : a < 256 := first.toNat_lt
      simp only [List.mem_cons, List.not_mem_nil, or_false] at member
      obtain rfl | rfl | rfl | rfl := member
      exacts [table (by omega), table (by omega), .inr rfl, .inr rfl]
  | case3 first second a b =>
      have bounds : a < 256 ∧ b < 256 := ⟨first.toNat_lt, second.toNat_lt⟩
      simp only [List.mem_cons, List.not_mem_nil, or_false] at member
      obtain rfl | rfl | rfl | rfl := member
      exacts [table (by omega), table (by omega), table (by omega), .inr rfl]
  | case4 first second third rest a b c ih =>
      have bounds : a < 256 ∧ b < 256 ∧ c < 256 := ⟨first.toNat_lt, second.toNat_lt, third.toNat_lt⟩
      simp only [List.mem_cons] at member
      obtain rfl | rfl | rfl | rfl | later := member
      exacts [table (by omega), table (by omega), table (by omega), table (by omega), ih later]

/-- Bytes read back from their digits. -/
theorem decode?_encode (bytes : Bytes) : decode? (encode bytes) = some bytes := by
  rw [decode?, encode, String.toList_ofList]
  have value (first : UInt8) {number : Nat} (same : number = first.toNat) : UInt8.ofNat number = first := by
    rw [same, UInt8.ofNat_toNat]
  fun_induction encodeBytes bytes with
  | case1 => rfl
  | case2 first a =>
      have bound : a < 256 := first.toNat_lt
      rw [decodeDigits?, digitValue?_digit _ (by omega), digitValue?_digit _ (by omega)]
      simp only [bind, Option.bind]
      rw [if_pos (by omega), value first (by omega)]
  | case3 first second a b =>
      have bounds : a < 256 ∧ b < 256 := ⟨first.toNat_lt, second.toNat_lt⟩
      rw [decodeDigits?, digitValue?_digit _ (by omega), digitValue?_digit _ (by omega),
        digitValue?_digit _ (by omega)]
      · simp only [bind, Option.bind]
        rw [if_pos (by omega), value first (by omega), value second (by omega)]
      · exact digit_ne_padding _ (by omega)
  | case4 first second third rest a b c ih =>
      have bounds : a < 256 ∧ b < 256 ∧ c < 256 := ⟨first.toNat_lt, second.toNat_lt, third.toNat_lt⟩
      rw [decodeDigits?, digitValue?_digit _ (by omega), digitValue?_digit _ (by omega),
        digitValue?_digit _ (by omega), digitValue?_digit _ (by omega), ih]
      · simp only [bind, Option.bind]
        rw [value first (by omega), value second (by omega), value third (by omega)]
      · exact fun same => absurd same (digit_ne_padding _ (by omega))
      · exact fun same => absurd same (digit_ne_padding _ (by omega))

end Base64
end PathStore
