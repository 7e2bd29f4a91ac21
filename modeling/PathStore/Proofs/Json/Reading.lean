/-
This file shows that JSON reads back as it was written. Each value is read up to where its neighbour begins, with fuel
for as many values as it has characters and with room for the containers inside it. An integer with too many digits is
not read.
-/
import Mathlib.Algebra.Group.Nat.Defs
import PathStore.Proofs.Json.Texts
import PathStore.Proofs.Number.Digits

namespace PathStore.Json

/-- The symbols of a text without lone halves. -/
abbrev symbols (characters : List Char) : List Symbol := characters.map .char

/-- What may stand behind a value: nothing, or what ends a value inside a container. -/
def EndsValue (rest : List Symbol) : Prop :=
  ∀ symbol ∈ rest.head?, symbol = .char ',' ∨ symbol = .char ']' ∨ symbol = .char '}'

theorem endsValue_nil : EndsValue [] := nofun

theorem endsValue_comma (rest : List Symbol) : EndsValue (.char ',' :: rest) :=
  fun _ first => .inl (Option.some.inj first).symm

theorem endsValue_bracket (rest : List Symbol) : EndsValue (.char ']' :: rest) :=
  fun _ first => .inr (.inl (Option.some.inj first).symm)

theorem endsValue_brace (rest : List Symbol) : EndsValue (.char '\x7d' :: rest) :=
  fun _ first => .inr (.inr (Option.some.inj first).symm)

section Numbers

variable {rest : List Symbol} (ends : EndsValue rest)
include ends

theorem splitDigits_of_endsValue : splitDigits rest = ([], rest) := by
  cases rest with
  | nil => rfl
  | cons first more => obtain rfl | rfl | rfl := ends first rfl <;> rfl

theorem splitDigits_append {digits : List Char} (all : ∀ digit ∈ digits, Numeral.isDigit digit = true) :
    splitDigits (symbols digits ++ rest) = (digits, rest) := by
  induction digits with
  | nil => exact splitDigits_of_endsValue ends
  | cons digit more ih =>
      rw [symbols, List.map_cons, List.cons_append, splitDigits, if_pos (all digit List.mem_cons_self),
        ih fun other member => all other (List.mem_cons_of_mem _ member)]

theorem splitFraction_of_endsValue : splitFraction rest = ([], rest) := by
  cases rest with
  | nil => rfl
  | cons first more => obtain rfl | rfl | rfl := ends first rfl <;> rfl

theorem splitExponent_of_endsValue : splitExponent rest = (none, rest) := by
  cases rest with
  | nil => rfl
  | cons first more => obtain rfl | rfl | rfl := ends first rfl <;> rfl

/-- Digits of a number are read as the number, if there are no more of them than may be read. -/
theorem readNumber_toDigits (negative : Bool) {number : Nat} (few : number < 10 ^ Numeral.digitLimit) :
    readNumber negative (symbols (Nat.toDigits 10 number) ++ rest) =
      .ok (.integer (if negative then -(number : Int) else number), rest) := by
  have short : (Nat.toDigits 10 number).length ≤ Numeral.digitLimit :=
    (Nat.length_toDigits_le_iff (by decide) (by decide +kernel)).mpr few
  have single : ¬((Nat.toDigits 10 number).head? = some '0' ∧ (Nat.toDigits 10 number).length ≠ 1) := by
    rintro ⟨leading, several⟩
    rw [Numeral.eq_zero_of_head?_toDigits leading] at several
    exact several rfl
  have filled : (Nat.toDigits 10 number).isEmpty = false := List.isEmpty_eq_false_iff.mpr Nat.toDigits_ne_nil
  have inLimit : ¬Numeral.digitLimit < (Nat.toDigits 10 number).length := Nat.not_lt.mpr short
  rw [readNumber]
  simp only [splitDigits_append ends fun _ => Numeral.isDigit_of_mem_toDigits, splitFraction_of_endsValue ends,
    splitExponent_of_endsValue ends, single, if_false, filled, List.append_nil, Numeral.digits?_toDigits]
  simp [inLimit]
  rfl

omit ends in
/-- A value that begins with a digit is a number. -/
theorem readValue_digit (fuel room : Nat) {digit : Char} (isDigit : Numeral.isDigit digit = true)
    (more : List Symbol) :
    readValue (fuel + 1) room (.char digit :: more) = readNumber false (.char digit :: more) := by
  have other {mark : Char} : Numeral.isDigit mark = false → digit ≠ mark := Numeral.ne_of_isDigit isDigit
  have scalar : readScalar (.char digit :: more) = readNumber false (.char digit :: more) := by
    unfold readScalar
    split
    all_goals first
      | rename_i same; exact absurd (Symbol.char.inj (List.cons.inj same).1) (other rfl)
      | rfl
  rw [← scalar, readValue.eq_def]
  dsimp only
  split
  all_goals first
    | rename_i same; exact absurd (Symbol.char.inj (List.cons.inj same).1) (other rfl)
    | rfl

omit ends in
theorem readValue_minus (fuel room : Nat) {digit : Char} (isDigit : Numeral.isDigit digit = true)
    (more : List Symbol) :
    readValue (fuel + 1) room (.char '-' :: .char digit :: more) = readNumber true (.char digit :: more) := by
  have notInfinity : digit ≠ 'I' := by
    rintro rfl
    cases isDigit
  rw [readValue.eq_def]
  show readScalar (.char '-' :: .char digit :: more) = _
  rw [readScalar]
  intro rest same
  exact absurd (Symbol.char.inj (List.cons.inj same).1) notInfinity

/-- A written integer is read as the integer. -/
theorem readValue_integer (fuel room : Nat) {number : Int} (few : number.natAbs < 10 ^ Numeral.digitLimit) :
    readValue (fuel + 1) room (symbols (toString number).toList ++ rest) = .ok (.integer number, rest) := by
  obtain ⟨first, more, digits, isDigit⟩ := Numeral.exists_head_toDigits number.natAbs
  have begins : symbols (Nat.toDigits 10 number.natAbs) ++ rest = .char first :: (symbols more ++ rest) := by
    rw [digits]
    rfl
  rw [Numeral.toList_toString]
  by_cases negative : number < 0
  · rw [if_pos negative]
    show readValue (fuel + 1) room (.char '-' :: (symbols (Nat.toDigits 10 number.natAbs) ++ rest)) = _
    rw [begins, readValue_minus fuel room isDigit, ← begins, readNumber_toDigits ends true few, if_pos rfl]
    congr 3
    omega
  · rw [if_neg negative, List.nil_append, begins, readValue_digit fuel room isDigit, ← begins,
      readNumber_toDigits ends false few, if_neg Bool.false_ne_true, Int.natAbs_of_nonneg (Int.not_lt.mp negative)]

end Numbers

section Members

/-- A value for a new name comes after those of the others. -/
theorem setMember_of_new {name : LooseText} {members : List (LooseText × Reply)} (isNew : name ∉ members.map Prod.fst)
    (value : Reply) : setMember name value members = members ++ [(name, value)] := by
  induction members with
  | nil => rfl
  | cons member rest ih =>
      obtain ⟨known, held⟩ := member
      rw [List.map_cons, List.mem_cons, not_or] at isNew
      rw [setMember, if_neg (Ne.symm isNew.1), ih isNew.2]
      rfl

theorem foldl_setMember {before members : List (LooseText × Reply)}
    (distinct : ((before ++ members).map Prod.fst).Nodup) :
    members.foldl (fun collected (name, value) => setMember name value collected) before = before ++ members := by
  induction members generalizing before with
  | nil => simp
  | cons member rest ih =>
      obtain ⟨name, value⟩ := member
      have isNew : name ∉ before.map Prod.fst := by
        intro known
        rw [List.map_append, List.nodup_append] at distinct
        exact distinct.2.2 name known name List.mem_cons_self rfl
      have step : (before ++ [(name, value)]) ++ rest = before ++ (name, value) :: rest := by simp
      rw [List.foldl_cons]
      dsimp only
      rw [setMember_of_new isNew, ih (step ▸ distinct), step]

/-- Members with different names make an object as they are. -/
theorem ofMembers_of_nodup {members : List (LooseText × Reply)} (distinct : (members.map Prod.fst).Nodup) :
    ofMembers members = .object members :=
  congrArg Json.object (foldl_setMember (List.nil_append members ▸ distinct))

/-- Members keep their names. -/
theorem map_fst_looseMembers (members : List (String × Json)) :
    (looseMembers members).map Prod.fst = (members.map Prod.fst).map LooseText.whole := by
  induction members with
  | nil => rfl
  | cons member rest ih => exact congrArg (LooseText.whole member.1 :: ·) ih

theorem nodup_looseMembers {members : List (String × Json)} (distinct : (members.map Prod.fst).Nodup) :
    ((looseMembers members).map Prod.fst).Nodup := by
  rw [map_fst_looseMembers]
  exact List.pairwise_map.mpr (distinct.imp fun different same => different (LooseText.whole.inj same))

end Members

/-- Whether a value reads back as it was written: it holds no floating-point number, its integers have no more digits
than may be read, its objects no name twice, and its containers fit the room. -/
def IsLegible : Nat → Json → Prop
  | _, .null => True
  | _, .bool _ => True
  | _, .integer number => number.natAbs < 10 ^ Numeral.digitLimit
  | _, .real _ => False
  | _, .text _ => True
  | 0, .array _ => False
  | 0, .object _ => False
  | room + 1, .array items => ∀ item ∈ items, IsLegible room item
  | room + 1, .object members => (members.map Prod.fst).Nodup ∧ ∀ member ∈ members, IsLegible room member.2

theorem isLegible_text (room : Nat) (value : String) : IsLegible room (.text value) := by cases room <;> trivial

theorem isLegible_integer {room : Nat} {number : Int} :
    IsLegible room (.integer number) ↔ number.natAbs < 10 ^ Numeral.digitLimit := by
  cases room <;> exact Iff.rfl

/-- A written value begins with a character that neither counts as a space nor ends an array. -/
theorem exists_head_writeValue {room : Nat} {value : Json} (legible : IsLegible room value) :
    ∃ first more, writeValue spaced value = first :: more ∧ isSpace (.char first) = false ∧ first ≠ ']' := by
  cases value with
  | null => exact ⟨'n', _, rfl, rfl, by decide⟩
  | bool value => cases value <;> exact ⟨_, _, rfl, rfl, by decide⟩
  | integer number =>
      obtain ⟨first, more, digits, isDigit⟩ := Numeral.exists_head_toDigits number.natAbs
      rw [writeValue, Numeral.toList_toString, digits]
      by_cases negative : number < 0
      · rw [if_pos negative]
        exact ⟨'-', _, rfl, rfl, by decide⟩
      · rw [if_neg negative]
        have other {mark : Char} : Numeral.isDigit mark = false → first ≠ mark := Numeral.ne_of_isDigit isDigit
        have apart {mark : Char} (noDigit : Numeral.isDigit mark = false) : Symbol.char first ≠ .char mark :=
          fun same => other noDigit (Symbol.char.inj same)
        refine ⟨first, more, rfl, ?_, other rfl⟩
        rw [isSpace, decide_eq_false (apart rfl), decide_eq_false (apart rfl), decide_eq_false (apart rfl),
          decide_eq_false (apart rfl)]
        rfl
  | real value => cases room <;> exact legible.elim
  | text value => exact ⟨'"', _, rfl, rfl, by decide⟩
  | array items => exact ⟨'[', _, rfl, rfl, by decide⟩
  | object members => exact ⟨'{', _, rfl, rfl, by decide⟩

theorem exists_head_writeItems {room : Nat} {item : Json} (legible : IsLegible room item) (more : List Json) :
    ∃ first others, writeItems spaced (item :: more) = first :: others ∧ isSpace (.char first) = false ∧
      first ≠ ']' := by
  obtain ⟨first, others, begins, filled, opens⟩ := exists_head_writeValue legible
  cases more with
  | nil =>
      rw [writeItems]
      exact ⟨first, others, begins, filled, opens⟩
  | cons next more =>
      rw [writeItems, begins]
      · exact ⟨first, _, rfl, filled, opens⟩
      · nofun

/-- Space in front of a value is skipped up to the value. -/
theorem skipSpace_of_head {first : Symbol} (filled : isSpace first = false) (more : List Symbol) :
    skipSpace (first :: more) = first :: more := by
  rw [skipSpace, List.dropWhile_cons_of_neg]
  rw [filled]
  exact Bool.false_ne_true

theorem skipSpace_space (more : List Symbol) : skipSpace (.char ' ' :: more) = skipSpace more := by
  rw [skipSpace, List.dropWhile_cons_of_pos rfl, skipSpace]

/-- Whether values whose containers fit the room are read as they were written. -/
def ReadsBack (room : Nat) : Prop :=
  ∀ {value : Json}, IsLegible room value → ∀ {fuel}, (writeValue spaced value).length ≤ fuel →
    ∀ {rest}, EndsValue rest →
      readValue fuel room (symbols (writeValue spaced value) ++ rest) = .ok (value.loose, rest)

/-- Once the name of a member is read, its value is. -/
theorem readMembers_named (fuel room : Nat) (read : List (LooseText × Reply)) {input rest after : List Symbol}
    {name : LooseText} (named : readQuoted input = .ok (name, rest)) (colon : skipSpace rest = .char ':' :: after) :
    readMembers (fuel + 1) room read (.char '"' :: input) =
      match readValue fuel room (skipSpace after) with
      | .error fault => .error fault
      | .ok (value, rest) =>
          match skipSpace rest with
          | .char ',' :: rest => readMembers fuel room ((name, value) :: read) (skipSpace rest)
          | .char '\x7d' :: rest => .ok (ofMembers ((name, value) :: read).reverse, rest)
          | _ => .error .malformed := by
  rw [readMembers, named]
  dsimp only
  rw [colon]
  rfl

section Containers

variable {room : Nat} (reads : ReadsBack room)
include reads

/-- Items are read one after the other, up to the end of their array. -/
theorem readItems_writeItems {items : List Json} (filled : items ≠ [])
    (legible : ∀ item ∈ items, IsLegible room item) {fuel : Nat} (enough : (writeItems spaced items).length < fuel)
    (read : List Reply) (rest : List Symbol) :
    readItems fuel room read (symbols (writeItems spaced items) ++ .char ']' :: rest) =
      .ok (.array (read.reverse ++ looseItems items), rest) := by
  induction items generalizing fuel read with
  | nil => exact absurd rfl filled
  | cons item more ih =>
      obtain ⟨fuel, rfl⟩ : ∃ less, fuel = less + 1 := ⟨fuel - 1, by omega⟩
      have here := @reads item (legible item List.mem_cons_self) fuel
      cases more with
      | nil =>
          rw [writeItems] at enough ⊢
          rw [readItems, here (by omega) (endsValue_bracket rest)]
          dsimp only
          rw [skipSpace_of_head rfl, List.reverse_cons]
          rfl
      | cons next more =>
          obtain ⟨first, others, begins, filled, -⟩ := exists_head_writeItems
            (legible next (List.mem_cons_of_mem _ List.mem_cons_self)) more
          have whole : writeItems spaced (item :: next :: more) =
              writeValue spaced item ++ ',' :: ' ' :: writeItems spaced (next :: more) := by
            rw [writeItems, List.append_assoc]
            · rfl
            · nofun
          have parted : symbols (writeItems spaced (item :: next :: more)) ++ .char ']' :: rest =
              symbols (writeValue spaced item) ++
                .char ',' :: .char ' ' :: (symbols (writeItems spaced (next :: more)) ++ .char ']' :: rest) := by
            rw [whole, symbols, List.map_append, List.append_assoc]
            rfl
          have opened : skipSpace (symbols (writeItems spaced (next :: more)) ++ .char ']' :: rest) =
              symbols (writeItems spaced (next :: more)) ++ .char ']' :: rest := by
            rw [begins]
            exact skipSpace_of_head filled _
          rw [whole, List.length_append, List.length_cons, List.length_cons] at enough
          rw [parted, readItems, here (by omega) (endsValue_comma _)]
          dsimp only
          rw [skipSpace_of_head rfl]
          show readItems fuel room (item.loose :: read) (skipSpace (.char ' ' :: _)) = _
          rw [skipSpace_space, opened,
            ih (List.cons_ne_nil _ _) (fun item member => legible item (List.mem_cons_of_mem _ member)) (by omega),
            List.reverse_cons, List.append_assoc, List.singleton_append]
          rfl

/-- A member is read up to what stands behind its value. -/
theorem readMembers_member (name : String) {value : Json} (legible : IsLegible room value) {fuel : Nat}
    (enough : (writeValue spaced value).length ≤ fuel) (read : List (LooseText × Reply)) {rest : List Symbol}
    (ends : EndsValue rest) :
    readMembers (fuel + 1) room read
        (symbols (writeText name ++ ':' :: ' ' :: writeValue spaced value) ++ rest) =
      match skipSpace rest with
      | .char ',' :: rest => readMembers fuel room ((.whole name, value.loose) :: read) (skipSpace rest)
      | .char '\x7d' :: rest => .ok (ofMembers ((.whole name, value.loose) :: read).reverse, rest)
      | _ => .error .malformed := by
  obtain ⟨first, others, begins, filled, -⟩ := exists_head_writeValue legible
  have parted : symbols (writeText name ++ ':' :: ' ' :: writeValue spaced value) ++ rest =
      .char '"' :: (symbols (name.toList.flatMap escape ++ ['"']) ++
        .char ':' :: .char ' ' :: (symbols (writeValue spaced value) ++ rest)) := by
    rw [writeText, flatMap_escapeSymbol, symbols, List.map_append, List.append_assoc]
    rfl
  have placed : skipSpace (.char ' ' :: (symbols (writeValue spaced value) ++ rest)) =
      symbols (writeValue spaced value) ++ rest := by
    rw [skipSpace_space, begins]
    exact skipSpace_of_head filled _
  rw [parted, readMembers_named fuel room read (readQuoted_writeText name _) (skipSpace_of_head rfl _), placed,
    reads legible enough ends]

/-- Members are read one after the other, up to the end of their object. -/
theorem readMembers_writeMembers {members : List (String × Json)} (filled : members ≠ [])
    (legible : ∀ member ∈ members, IsLegible room member.2) {fuel : Nat}
    (enough : (writeMembers spaced members).length < fuel) (read : List (LooseText × Reply)) (rest : List Symbol) :
    readMembers fuel room read (symbols (writeMembers spaced members) ++ .char '\x7d' :: rest) =
      .ok (ofMembers (read.reverse ++ looseMembers members), rest) := by
  induction members generalizing fuel read with
  | nil => exact absurd rfl filled
  | cons member more ih =>
      obtain ⟨name, value⟩ := member
      have readable := legible (name, value) List.mem_cons_self
      obtain ⟨fuel, rfl⟩ : ∃ less, fuel = less + 1 := ⟨fuel - 1, by omega⟩
      cases more with
      | nil =>
          have whole : writeMembers spaced [(name, value)] =
              writeText name ++ ':' :: ' ' :: writeValue spaced value := by
            rw [writeMembers, List.append_assoc]
            rfl
          rw [whole, List.length_append, List.length_cons, List.length_cons] at enough
          have fits : (writeValue spaced value).length ≤ fuel := by omega
          rw [whole, readMembers_member reads name readable fits read (endsValue_brace rest), skipSpace_of_head rfl,
            List.reverse_cons]
          rfl
      | cons next more =>
          obtain ⟨others, begins⟩ : ∃ others, writeMembers spaced (next :: more) = '"' :: others := by
            cases more <;> exact ⟨_, rfl⟩
          have whole : writeMembers spaced ((name, value) :: next :: more) =
              (writeText name ++ ':' :: ' ' :: writeValue spaced value) ++
                ',' :: ' ' :: writeMembers spaced (next :: more) := by
            rw [writeMembers]
            · simp only [List.append_assoc]
              rfl
            · nofun
          have parted : symbols (writeMembers spaced ((name, value) :: next :: more)) ++ .char '\x7d' :: rest =
              symbols (writeText name ++ ':' :: ' ' :: writeValue spaced value) ++
                .char ',' :: .char ' ' :: (symbols (writeMembers spaced (next :: more)) ++ .char '\x7d' :: rest) := by
            rw [whole, symbols, List.map_append, List.append_assoc]
            rfl
          have opened : skipSpace (symbols (writeMembers spaced (next :: more)) ++ .char '\x7d' :: rest) =
              symbols (writeMembers spaced (next :: more)) ++ .char '\x7d' :: rest := by
            rw [begins]
            exact skipSpace_of_head rfl _
          rw [whole, List.length_append, List.length_append, List.length_cons, List.length_cons, List.length_cons,
            List.length_cons] at enough
          have fits : (writeValue spaced value).length ≤ fuel := by omega
          rw [parted, readMembers_member reads name readable fits read (endsValue_comma _), skipSpace_of_head rfl]
          show readMembers fuel room ((.whole name, value.loose) :: read) (skipSpace (.char ' ' :: _)) = _
          rw [skipSpace_space, opened,
            ih (List.cons_ne_nil _ _) (fun item member => legible item (List.mem_cons_of_mem _ member)) (by omega),
            List.reverse_cons, List.append_assoc, List.singleton_append]
          rfl

end Containers

theorem readValue_opened (fuel room : Nat) (input : List Symbol) :
    readValue (fuel + 1) (room + 1) (.char '[' :: input) =
      match skipSpace input with
      | .char ']' :: rest => .ok (.array [], rest)
      | rest => readItems fuel room [] rest := by
  rw [readValue.eq_def]
  rfl

/-- What opens with a bracket is an array: items, unless its end comes first. -/
theorem readValue_bracket (fuel room : Nat) {input : List Symbol} {first : Symbol} {more : List Symbol}
    (begins : skipSpace input = first :: more) (opens : first ≠ .char ']') :
    readValue (fuel + 1) (room + 1) (.char '[' :: input) = readItems fuel room [] (first :: more) := by
  rw [readValue_opened, begins]
  split
  · rename_i same
    exact absurd (List.cons.inj same).1 opens
  · rfl

section Nested

variable {room : Nat} (reads : ReadsBack room) {fuel : Nat}
include reads

/-- An array with items is read as it was written, if its items are. -/
theorem readValue_items {item : Json} {more : List Json} (legible : IsLegible (room + 1) (.array (item :: more)))
    (enough : (writeValue spaced (.array (item :: more))).length ≤ fuel + 1) (rest : List Symbol) :
    readValue (fuel + 1) (room + 1) (symbols (writeValue spaced (.array (item :: more))) ++ rest) =
      .ok ((Json.array (item :: more)).loose, rest) := by
  obtain ⟨first, others, begins, filled, opens⟩ := exists_head_writeItems (legible item List.mem_cons_self) more
  have parted : symbols (writeValue spaced (.array (item :: more))) ++ rest =
      .char '[' :: (symbols (writeItems spaced (item :: more)) ++ .char ']' :: rest) := by
    rw [writeValue, symbols, List.map_append, List.append_assoc]
    rfl
  have inside : skipSpace (symbols (writeItems spaced (item :: more)) ++ .char ']' :: rest) =
      .char first :: (symbols others ++ .char ']' :: rest) := by
    rw [begins]
    exact skipSpace_of_head filled _
  have shorter : (writeItems spaced (item :: more)).length < fuel := by
    rw [writeValue, List.length_append, List.length_cons, List.length_singleton] at enough
    omega
  have begun : symbols (writeItems spaced (item :: more)) ++ .char ']' :: rest =
      .char first :: (symbols others ++ .char ']' :: rest) := by
    rw [begins]
    rfl
  rw [parted, readValue_bracket fuel room inside fun same => opens (Symbol.char.inj same), ← begun,
    readItems_writeItems reads (List.cons_ne_nil _ _) legible shorter]
  rfl

/-- An object with members is read as it was written, if their values are. -/
theorem readValue_members {member : String × Json} {more : List (String × Json)}
    (legible : IsLegible (room + 1) (.object (member :: more)))
    (enough : (writeValue spaced (.object (member :: more))).length ≤ fuel + 1) (rest : List Symbol) :
    readValue (fuel + 1) (room + 1) (symbols (writeValue spaced (.object (member :: more))) ++ rest) =
      .ok ((Json.object (member :: more)).loose, rest) := by
  obtain ⟨distinct, readable⟩ := legible
  have parted : symbols (writeValue spaced (.object (member :: more))) ++ rest =
      .char '\x7b' :: (symbols (writeMembers spaced (member :: more)) ++ .char '\x7d' :: rest) := by
    rw [writeValue, symbols, List.map_append, List.append_assoc]
    rfl
  obtain ⟨others, begins⟩ : ∃ others, writeMembers spaced (member :: more) = '"' :: others := by
    cases more <;> exact ⟨_, rfl⟩
  have shorter : (writeMembers spaced (member :: more)).length < fuel := by
    rw [writeValue, List.length_append, List.length_cons, List.length_singleton] at enough
    omega
  have read := readMembers_writeMembers reads (List.cons_ne_nil _ _) readable shorter [] rest
  rw [List.reverse_nil, List.nil_append, ofMembers_of_nodup (nodup_looseMembers distinct)] at read
  rw [parted, loose, ← read, begins, readValue.eq_def]
  rfl

end Nested

/-- A value is read as it was written, if those inside it are. -/
theorem readsBack_of_below {room : Nat} (below : ∀ less, room = less + 1 → ReadsBack less) : ReadsBack room := by
  intro value legible fuel enough rest ends
  obtain ⟨fuel, rfl⟩ : ∃ less, fuel = less + 1 := by
    obtain ⟨first, others, begins, -, -⟩ := exists_head_writeValue legible
    rw [begins, List.length_cons] at enough
    exact ⟨fuel - 1, by omega⟩
  cases value with
  | null => rfl
  | bool value => cases value <;> rfl
  | integer number => exact readValue_integer ends fuel room (isLegible_integer.mp legible)
  | real value => cases room <;> exact legible.elim
  | text value =>
      show (readQuoted (symbols ((TextLike.symbols value).flatMap escapeSymbol ++ ['"']) ++ rest)).map _ = _
      rw [flatMap_escapeSymbol, symbols, readQuoted_writeText]
      rfl
  | array items =>
      cases room with
      | zero => exact legible.elim
      | succ room =>
          cases items with
          | nil => rfl
          | cons item more => exact readValue_items (below room rfl) legible enough rest
  | object members =>
      cases room with
      | zero => exact legible.elim
      | succ room =>
          cases members with
          | nil => rfl
          | cons member more => exact readValue_members (below room rfl) legible enough rest

theorem readsBack (room : Nat) : ReadsBack room := by
  induction room with
  | zero => exact readsBack_of_below fun less same => absurd same.symm (Nat.succ_ne_zero less)
  | succ room ih => exact readsBack_of_below fun less same => Nat.succ.inj same ▸ ih

/-- A text of a value gives the value. -/
theorem read_write {room : Nat} {value : Json} (legible : IsLegible room value) :
    read room (symbols (value.write spaced).toList) = .ok value.loose := by
  obtain ⟨first, others, begins, filled, -⟩ := exists_head_writeValue legible
  have front : skipSpace (symbols (writeValue spaced value)) = symbols (writeValue spaced value) := by
    rw [begins]
    exact skipSpace_of_head filled _
  have fits : (writeValue spaced value).length ≤ (symbols (writeValue spaced value)).length + 1 := by
    rw [List.length_map]
    exact Nat.le_succ _
  have whole := readsBack room legible fits endsValue_nil
  rw [List.append_nil] at whole
  rw [read, write, String.toList_ofList, front, whole]
  rfl

section Refused

/-- Digits are not read if there are more of them than may be read. -/
theorem readNumber_of_many (negative : Bool) {digits : List Char} (all : ∀ digit ∈ digits, Numeral.isDigit digit = true)
    (leading : digits.head? ≠ some '0') (many : Numeral.digitLimit < digits.length) :
    readNumber negative (symbols digits) = .error (.tooManyDigits digits.length) := by
  have split := splitDigits_append endsValue_nil all
  rw [List.append_nil] at split
  rw [readNumber]
  simp only [split, leading, false_and, if_false, splitFraction_of_endsValue endsValue_nil,
    splitExponent_of_endsValue endsValue_nil, many]
  rfl

theorem decode?_ones (count : Nat) :
    decode? (List.replicate (count + 4) 49) = some (symbols (List.replicate (count + 4) '1')) := by
  have scanned (count : Nat) :
      (Utf8.scan true none (List.replicate count 49)).mapM id = some (symbols (List.replicate count '1')) := by
    induction count with
    | zero => rfl
    | succ count ih =>
        have lead : Utf8.lead true 49 = .complete '1' := rfl
        rw [List.replicate_succ, Utf8.scan, lead]
        dsimp only
        rw [List.mapM_cons, ih]
        rfl
  exact scanned (count + 4)

/-- Bytes of ones hold an integer that is not read if there are too many of them. -/
theorem ofBytes_ones (room : Nat) {count : Nat} (many : Numeral.digitLimit < count) :
    ofBytes room (List.replicate count 49) = .error (.tooManyDigits count) := by
  have limit := Numeral.digitLimit_eq
  obtain ⟨rest, rfl⟩ : ∃ rest, count = rest + 4 := ⟨count - 4, by omega⟩
  have all (digit : Char) (member : digit ∈ List.replicate (rest + 4) '1') : Numeral.isDigit digit = true := by
    rw [List.eq_of_mem_replicate member]
    rfl
  have refused := readNumber_of_many false all (by simp [List.replicate_succ]) (by simpa using many)
  have begins : symbols (List.replicate (rest + 4) '1') = .char '1' :: symbols (List.replicate (rest + 3) '1') := rfl
  rw [begins, List.length_replicate] at refused
  rw [ofBytes, decode?_ones]
  dsimp only
  rw [read, begins, skipSpace_of_head (by decide), readValue_digit _ _ rfl, refused]
  rfl

end Refused

end PathStore.Json
