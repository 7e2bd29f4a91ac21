/-
This file holds the laws of percent escapes. What is escaped reads back as its bytes, and a component of safe characters
is in normal form: escaping leaves it as it is.
-/
import PathStore.Url.Address

namespace PathStore.Url

theorem hexValue?_upperHexDigit : ∀ value < 16, Bytes.hexValue? (Bytes.upperHexDigit value) = some value := by decide

theorem isUnreserved_upperHexDigit : ∀ value < 16, isUnreserved (Bytes.upperHexDigit value) = true := by decide

/-- A digit of an escape is a character that never needs one. -/
theorem isUnreserved_of_hexValue? {digit : Char} (isDigit : (Bytes.hexValue? digit).isSome) :
    isUnreserved digit = true := by
  have bounds : 48 ≤ digit.toNat ∧ digit.toNat ≤ 57 ∨ 97 ≤ digit.toNat ∧ digit.toNat ≤ 102 ∨
      65 ≤ digit.toNat ∧ digit.toNat ≤ 70 := by
    unfold Bytes.hexValue? at isDigit
    dsimp only at isDigit
    split at isDigit
    · exact .inl ‹_›
    · split at isDigit
      · exact .inr (.inl ‹_›)
      · split at isDigit
        · exact .inr (.inr ‹_›)
        · cases isDigit
  have order {first second : Char} : first ≤ second ↔ first.toNat ≤ second.toNat := Iff.rfl
  simp only [isUnreserved, isAlphanumeric, order, Bool.or_eq_true, Bool.decide_and, Bool.and_eq_true, decide_eq_true_eq]
  simp only [show 'a'.toNat = 97 from rfl, show 'z'.toNat = 122 from rfl, show 'A'.toNat = 65 from rfl,
    show 'Z'.toNat = 90 from rfl, show '0'.toNat = 48 from rfl, show '9'.toNat = 57 from rfl]
  omega

section Unescaping

/-- A character that begins no escape stands for its own bytes. -/
theorem unescapeBytes?_cons {character : Char} (plain : character ≠ '%') (rest : List Char) :
    unescapeBytes? (character :: rest) = (unescapeBytes? rest).map (String.utf8EncodeChar character ++ ·) := by
  rw [unescapeBytes?, if_neg plain]
  intro high low more isMark
  exact absurd isMark plain

/-- The escape of a byte stands for the byte. -/
theorem unescapeBytes?_escapeByte (byte : UInt8) (rest : List Char) :
    unescapeBytes? (escapeByte byte ++ rest) = (unescapeBytes? rest).map (byte :: ·) := by
  have bound : byte.toNat < 256 := byte.toNat_lt
  have upper := hexValue?_upperHexDigit (byte.toNat / 16) (by omega)
  have lower := hexValue?_upperHexDigit (byte.toNat % 16) (by omega)
  have whole : 16 * (byte.toNat / 16) + byte.toNat % 16 = byte.toNat := Nat.div_add_mod ..
  rw [escapeByte, List.cons_append, List.cons_append, List.cons_append, List.nil_append, unescapeBytes?, upper, lower]
  simp only [bind, Option.bind, whole, UInt8.ofNat_toNat]
  cases unescapeBytes? rest <;> rfl

theorem unescapeBytes?_escapeBytes (bytes : Bytes) (rest : List Char) :
    unescapeBytes? (bytes.flatMap escapeByte ++ rest) = (unescapeBytes? rest).map (bytes ++ ·) := by
  induction bytes with
  | nil => simp
  | cons byte bytes ih =>
      rw [List.flatMap_cons, List.append_assoc, unescapeBytes?_escapeByte, ih]
      cases unescapeBytes? rest <;> rfl

/-- Escaped characters stand for the bytes of the characters, unless the mark of an escape itself was left as it is. -/
theorem unescapeBytes?_escapeUnless {isSafe : Char → Bool} (escaped : isSafe '%' = false) (characters : List Char) :
    unescapeBytes? (escapeUnless isSafe characters) = some (characters.flatMap String.utf8EncodeChar) := by
  induction characters with
  | nil => rfl
  | cons character rest ih =>
      rw [escapeUnless, List.flatMap_cons, List.flatMap_cons]
      split
      · rename_i kept
        have plain : character ≠ '%' := by
          rintro rfl
          rw [escaped] at kept
          exact absurd kept (by decide)
        rw [List.singleton_append, unescapeBytes?_cons plain, ← escapeUnless, ih]
        rfl
      · rw [escapeCharacter, unescapeBytes?_escapeBytes, ← escapeUnless, ih]
        rfl

/-- A key reads back from its escaped form. -/
theorem unescapeBytes?_escapeKey (key : String) :
    unescapeBytes? (escapeKey key).toList = some (Utf8.encode key) := by
  rw [escapeKey, String.toList_ofList]
  exact unescapeBytes?_escapeUnless (by decide) key.toList

/-- The bytes that a text with escapes stands for, also where only escapes are admitted. -/
theorem unescapeBytes_of_unescapeBytes? {characters : List Char} {bytes : Bytes}
    (found : unescapeBytes? characters = some bytes) : unescapeBytes characters = bytes := by
  fun_induction unescapeBytes characters generalizing bytes with
  | case1 => simpa [unescapeBytes?] using found
  | case2 high low rest upper lower highDigit lowDigit ih =>
      rw [unescapeBytes?, highDigit, lowDigit] at found
      simp only [bind, Option.bind] at found
      split at found
      · cases found
      · rename_i tail tailFound
        rw [ih tailFound]
        exact Option.some.inj found
  | case3 high low rest noDigits ih =>
      rw [unescapeBytes?] at found
      cases highDigit : Bytes.hexValue? high with
      | none => simp [highDigit] at found
      | some upper =>
          cases lowDigit : Bytes.hexValue? low with
          | none => simp [highDigit, lowDigit] at found
          | some lower => exact (noDigits upper lower highDigit lowDigit).elim
  | case4 character rest noEscape ih =>
      rw [unescapeBytes?] at found
      · split at found
        · cases found
        · obtain ⟨tail, tailFound, same⟩ := Option.map_eq_some_iff.mp found
          rw [ih tailFound, same]
      · exact noEscape

theorem unescapeBytes_cons {character : Char} (plain : character ≠ '%') (rest : List Char) :
    unescapeBytes (character :: rest) = String.utf8EncodeChar character ++ unescapeBytes rest := by
  rw [unescapeBytes]
  intro high low more isMark
  exact absurd isMark plain

/-- The mark of an escape stands for itself where its digits are none. -/
theorem unescapeBytes_mark {high low : Char} (rest : List Char)
    (noDigits : Bytes.hexValue? high = none ∨ Bytes.hexValue? low = none) :
    unescapeBytes ('%' :: high :: low :: rest) = String.utf8EncodeChar '%' ++ unescapeBytes (high :: low :: rest) := by
  rw [unescapeBytes]
  rcases noDigits with none | none
  · simp only [none]
  · cases Bytes.hexValue? high <;> simp only [none]

/-- What stands on the two sides of a slash is read separately, for no escape goes on beyond it. -/
theorem unescapeBytes_slash (before after : List Char) :
    unescapeBytes (before ++ '/' :: after) = unescapeBytes before ++ 0x2F :: unescapeBytes after := by
  have slash : Bytes.hexValue? '/' = none := rfl
  have start : unescapeBytes ('/' :: after) = 0x2F :: unescapeBytes after := unescapeBytes_cons (by decide) after
  fun_induction unescapeBytes before with
  | case1 => exact start
  | case2 high low rest upper lower highDigit lowDigit ih =>
      rw [List.cons_append, List.cons_append, List.cons_append, unescapeBytes, highDigit, lowDigit, ih]
      rfl
  | case3 high low rest noDigits ih =>
      have either : Bytes.hexValue? high = none ∨ Bytes.hexValue? low = none := by
        cases highDigit : Bytes.hexValue? high with
        | none => exact .inl rfl
        | some upper =>
            cases lowDigit : Bytes.hexValue? low with
            | none => exact .inr rfl
            | some lower => exact (noDigits upper lower highDigit lowDigit).elim
      rw [List.cons_append, List.cons_append, List.cons_append, unescapeBytes_mark _ either]
      rw [List.cons_append, List.cons_append] at ih
      rw [ih, List.append_assoc]
  | case4 character rest noEscape ih =>
      by_cases isMark : character = '%'
      · subst isMark
        match rest with
        | [] =>
            cases after with
            | nil => rfl
            | cons next later => rw [List.singleton_append, unescapeBytes_mark _ (.inl slash), start]; rfl
        | [single] =>
            rw [List.cons_append, List.singleton_append, unescapeBytes_mark _ (.inr slash)]
            rw [List.singleton_append] at ih
            rw [ih, List.append_assoc]
        | high :: low :: more => exact (noEscape high low more rfl rfl).elim
      · rw [List.cons_append, unescapeBytes_cons isMark, ih, List.append_assoc]

end Unescaping

section Normal

variable {isSafe : Char → Bool}

/-- Whether a character stands in a component as it is. -/
def isKept (isSafe : Char → Bool) (character : Char) : Bool := isUnreserved character || isSafe character

/-- A component of characters that are kept is in normal form. -/
theorem normalizeEscapes_of_kept {characters : List Char} (kept : ∀ character ∈ characters, isKept isSafe character) :
    normalizeEscapes isSafe characters = characters := by
  have single {character : Char} (stays : isKept isSafe character = true) :
      escapeUnless isSafe [character] = [character] := by
    rw [escapeUnless, List.flatMap_singleton]
    exact if_pos stays
  fun_induction normalizeEscapes isSafe characters with
  | case1 => rfl
  | case2 high low rest digits ih =>
      rw [ih fun character member => kept character (by simp [member])]
  | case3 high low rest noDigits ih =>
      rw [single (kept '%' (by simp)), ih fun character member => kept character (List.mem_cons_of_mem _ member)]
      rfl
  | case4 character rest noEscape ih =>
      rw [single (kept character (by simp)), ih fun other member => kept other (by simp [member])]
      rfl

/-- An escape is made of characters that are kept wherever its mark is. -/
theorem isKept_of_mem_escapeByte (mark : isSafe '%' = true) {byte : UInt8} {character : Char}
    (member : character ∈ escapeByte byte) : isKept isSafe character = true := by
  have bound : byte.toNat < 256 := byte.toNat_lt
  simp only [escapeByte, List.mem_cons, List.not_mem_nil, or_false] at member
  rw [isKept, Bool.or_eq_true]
  rcases member with rfl | rfl | rfl
  · exact .inr mark
  · exact .inl (isUnreserved_upperHexDigit _ (by omega))
  · exact .inl (isUnreserved_upperHexDigit _ (by omega))

theorem isKept_of_mem_escapeUnless {isLeft : Char → Bool} (mark : isSafe '%' = true)
    (fewer : ∀ character, isLeft character = true → isSafe character = true) {characters : List Char} {character : Char}
    (member : character ∈ escapeUnless isLeft characters) : isKept isSafe character = true := by
  obtain ⟨written, -, inEscape⟩ := List.mem_flatMap.mp member
  split at inEscape
  · rename_i left
    obtain rfl := List.mem_singleton.mp inEscape
    exact Bool.or_eq_true _ _ ▸ (Bool.or_eq_true _ _ ▸ left).imp_right (fewer character)
  · obtain ⟨byte, -, inByte⟩ := List.mem_flatMap.mp inEscape
    exact isKept_of_mem_escapeByte mark inByte

theorem isKept_of_mem_escapeKey {key : String} {character : Char} (member : character ∈ (escapeKey key).toList) :
    isKept pathSafe character = true := by
  rw [escapeKey, String.toList_ofList] at member
  refine isKept_of_mem_escapeUnless (by decide) (fun slash same => ?_) member
  rw [of_decide_eq_true same]
  decide

/-- The normal form of a component is made of characters that are kept. -/
theorem isKept_of_mem_normalizeEscapes (mark : isSafe '%' = true) {characters : List Char} {character : Char}
    (member : character ∈ normalizeEscapes isSafe characters) : isKept isSafe character = true := by
  have single {other : Char} (inEscape : character ∈ escapeUnless isSafe [other]) : isKept isSafe character = true :=
    isKept_of_mem_escapeUnless mark (fun _ => id) inEscape
  fun_induction normalizeEscapes isSafe characters with
  | case1 => simp at member
  | case2 high low rest digits ih =>
      rw [Bool.and_eq_true] at digits
      simp only [List.mem_cons] at member
      rw [isKept, Bool.or_eq_true]
      rcases member with rfl | rfl | rfl | inRest
      · exact .inr mark
      · exact .inl (isUnreserved_of_hexValue? digits.1)
      · exact .inl (isUnreserved_of_hexValue? digits.2)
      · exact Bool.or_eq_true _ _ ▸ ih inRest
  | case3 high low rest noDigits ih =>
      rcases List.mem_append.mp member with inEscape | inRest
      · exact single inEscape
      · exact ih inRest
  | case4 other rest noEscape ih =>
      rcases List.mem_append.mp member with inEscape | inRest
      · exact single inEscape
      · exact ih inRest

end Normal

end PathStore.Url
