/-
This file bounds the numbers of a value that is read: its integers have no more digits than are written, and its other
numbers are of the 64-bit format. So a number that stands in a body can stand in a header as well.
-/
import PathStore.Json.Reader
import PathStore.Proofs.Number.Digits
import PathStore.Proofs.Number.Rounding
import PathStore.Proofs.Program.Outcomes

namespace PathStore.Json

/-- Whether a value, if it is a number, is within the bounds of what is read. -/
def IsNarrow : Reply → Prop
  | .integer number => Numeral.isWritable number = true
  | .real value => value.IsProper
  | _ => True

/-- Whether a value is within these bounds, and each of its members if it is an object. -/
def HoldsNarrow (value : Reply) : Prop :=
  IsNarrow value ∧ ∀ members, value = .object members → ∀ member ∈ members, IsNarrow member.2

/-- A number that is read is rounded, or its digits are few enough. -/
theorem holdsNarrow_of_readNumber {negative : Bool} {input rest : List Symbol} {value : Reply}
    (read : readNumber negative input = .ok (value, rest)) : HoldsNarrow value := by
  rw [readNumber] at read
  generalize splitDigits input = parts at read
  obtain ⟨whole, behindWhole⟩ := parts
  dsimp only at read
  generalize splitFraction behindWhole = parts at read
  obtain ⟨fraction, behindFraction⟩ := parts
  dsimp only at read
  generalize splitExponent behindFraction = parts at read
  obtain ⟨exponent, behind⟩ := parts
  dsimp only at read
  split at read
  · cases read
  split at read
  · cases read
  rename_i few
  split at read
  · cases read
  cases spelled : Numeral.digits? (whole ++ fraction) with
  | none =>
      rw [spelled] at read
      cases read
  | some digits =>
      rw [spelled] at read
      change (if (fraction.isEmpty && exponent.isNone) = true then _ else _) = _ at read
      split at read
      · rename_i isWhole
        rw [isWhole, Bool.true_and, decide_eq_true_eq, Nat.not_lt] at few
        obtain ⟨noFraction, -⟩ := Bool.and_eq_true_iff.mp isWhole
        rw [List.isEmpty_iff.mp noFraction, List.append_nil] at spelled
        obtain ⟨rfl, -⟩ := Prod.mk.inj (Except.ok.inj read)
        have small : digits < 10 ^ Numeral.digitLimit :=
          Nat.lt_of_lt_of_le (Numeral.lt_pow_of_digits? spelled) (Nat.pow_le_pow_right (by decide) few)
        have unsigned : (if negative then -(digits : Int) else digits).natAbs = digits := by
          cases negative <;> simp
        generalize limited : Numeral.digitLimit = limit at small
        refine ⟨?_, fun members same => by cases same⟩
        rw [IsNarrow, Numeral.isWritable, unsigned, limited]
        exact decide_eq_true small
      · obtain ⟨rfl, -⟩ := Prod.mk.inj (Except.ok.inj read)
        exact ⟨Binary64.isProper_ofDecimal negative digits _, fun members same => by cases same⟩

theorem holdsNarrow_of_dropWord {word : String} {known : Reply} (narrow : HoldsNarrow known) {input rest : List Symbol}
    {value : Reply} (read : dropWord word known input = .ok (value, rest)) : HoldsNarrow value := by
  rw [dropWord] at read
  split at read
  · obtain ⟨rfl, -⟩ := Prod.mk.inj (Except.ok.inj read)
    exact narrow
  · cases read

theorem holdsNarrow_of_readScalar {input rest : List Symbol} {value : Reply}
    (read : readScalar input = .ok (value, rest)) : HoldsNarrow value := by
  unfold readScalar at read
  split at read
  case h_7 | h_8 => exact holdsNarrow_of_readNumber read
  all_goals
    refine holdsNarrow_of_dropWord ?_ read
    exact ⟨trivial, nofun⟩

/-- A member that is set has the new value, and the others keep theirs. -/
theorem forall_setMember {P : Reply → Prop} {name : LooseText} {value : Reply} (holds : P value)
    {members : List (LooseText × Reply)} (all : ∀ member ∈ members, P member.2) :
    ∀ member ∈ setMember name value members, P member.2 := by
  induction members with
  | nil => simpa [setMember] using holds
  | cons first rest ih =>
      obtain ⟨here, others⟩ := List.forall_mem_cons.mp all
      rw [setMember]
      split
      · exact List.forall_mem_cons.mpr ⟨holds, others⟩
      · exact List.forall_mem_cons.mpr ⟨here, ih others⟩

/-- An object of members has no other values than these. -/
theorem forall_ofMembers {P : Reply → Prop} {members : List (LooseText × Reply)} (all : ∀ member ∈ members, P member.2)
    {collected : List (LooseText × Reply)} (same : ofMembers members = .object collected) :
    ∀ member ∈ collected, P member.2 := by
  have kept (before : List (LooseText × Reply)) (holds : ∀ member ∈ before, P member.2) :
      ∀ member ∈ members.foldl (fun read (name, value) => setMember name value read) before, P member.2 := by
    clear same
    induction members generalizing before with
    | nil => exact holds
    | cons first rest ih =>
        obtain ⟨here, others⟩ := List.forall_mem_cons.mp all
        exact ih others _ (forall_setMember here holds)
  exact Json.object.inj same ▸ kept [] nofun

/-- The items that remain of an array make an array. -/
theorem readItems_eq_array {fuel room : Nat} {before : List Reply} {input rest : List Symbol} {value : Reply}
    (read : readItems fuel room before input = .ok (value, rest)) : ∃ items, value = .array items := by
  induction fuel generalizing before input with
  | zero => cases read
  | succ fuel ih =>
      unfold readItems at read
      split at read
      · cases read
      split at read
      · exact ih read
      · exact ⟨_, (Prod.mk.inj (Except.ok.inj read)).1.symm⟩
      · cases read

/-- The members that remain of an object make an object, of values that are read. -/
theorem readMembers_eq_ofMembers {P : Reply → Prop}
    (values : ∀ fuel room input value rest, readValue fuel room input = .ok (value, rest) → P value)
    {fuel room : Nat} {before : List (LooseText × Reply)} (all : ∀ member ∈ before, P member.2)
    {input rest : List Symbol} {value : Reply} (read : readMembers fuel room before input = .ok (value, rest)) :
    ∃ members, value = ofMembers members ∧ ∀ member ∈ members, P member.2 := by
  induction fuel generalizing before input with
  | zero => cases read
  | succ fuel ih =>
      unfold readMembers at read
      split at read
      · split at read
        · cases read
        split at read
        · split at read
          · cases read
          rename_i name _ _ _ found _ _ held behind valued
          have more : ∀ member ∈ (name, held) :: before, P member.2 :=
            List.forall_mem_cons.mpr ⟨values _ _ _ _ _ valued, all⟩
          split at read
          · exact ih more read
          · refine ⟨_, (Prod.mk.inj (Except.ok.inj read)).1.symm, fun member inside => ?_⟩
            exact more member (List.mem_reverse.mp inside)
          · cases read
        · cases read
      · cases read

/-- A value that is read is a text, an array, an object of the members that remain after its brace, or a scalar. -/
theorem readValue_cases {fuel room : Nat} {input rest : List Symbol} {value : Reply}
    (read : readValue fuel room input = .ok (value, rest)) :
    (∃ text, value = .text text) ∨ (∃ items, value = .array items) ∨ value = .object [] ∨
      (∃ less inside opened, readMembers less inside [] opened = .ok (value, rest)) ∨
        readScalar input = .ok (value, rest) := by
  cases fuel with
  | zero => cases read
  | succ fuel =>
      unfold readValue at read
      split at read
      · obtain ⟨_, _, same⟩ := Outcome.map_eq_ok_iff.mp read
        exact .inl ⟨_, (Prod.mk.inj same).1.symm⟩
      · split at read
        · cases read
        split at read
        · exact .inr (.inl ⟨_, (Prod.mk.inj (Except.ok.inj read)).1.symm⟩)
        · exact .inr (.inl (readItems_eq_array read))
      · split at read
        · cases read
        split at read
        · exact .inr (.inr (.inl (Prod.mk.inj (Except.ok.inj read)).1.symm))
        · exact .inr (.inr (.inr (.inl ⟨_, _, _, read⟩)))
      · exact .inr (.inr (.inr (.inr read)))

theorem isNarrow_of_readValue {fuel room : Nat} {input rest : List Symbol} {value : Reply}
    (read : readValue fuel room input = .ok (value, rest)) : IsNarrow value := by
  rcases readValue_cases read with ⟨text, rfl⟩ | ⟨items, rfl⟩ | rfl | ⟨less, inside, opened, members⟩ | scalar
  · trivial
  · trivial
  · trivial
  · obtain ⟨held, rfl, -⟩ := readMembers_eq_ofMembers (P := fun _ => True) (fun _ _ _ _ _ _ => trivial)
      (List.forall_mem_nil _) members
    trivial
  · exact (holdsNarrow_of_readScalar scalar).1

/-- The members of an object that is read are values that are read. -/
theorem holdsNarrow_of_readValue {fuel room : Nat} {input rest : List Symbol} {value : Reply}
    (read : readValue fuel room input = .ok (value, rest)) : HoldsNarrow value := by
  refine ⟨isNarrow_of_readValue read, ?_⟩
  rcases readValue_cases read with ⟨text, rfl⟩ | ⟨items, rfl⟩ | rfl | ⟨less, inside, opened, members⟩ | scalar
  · exact nofun
  · exact nofun
  · rintro _ ⟨⟩ member ⟨⟩
  · obtain ⟨held, rfl, narrow⟩ := readMembers_eq_ofMembers (fun _ _ _ _ _ => isNarrow_of_readValue)
      (List.forall_mem_nil _) members
    exact fun collected same => forall_ofMembers narrow same
  · exact (holdsNarrow_of_readScalar scalar).2

/-- What a body holds is within the bounds. -/
theorem holdsNarrow_of_ofBytes {room : Nat} {bytes : Bytes} {value : Reply} (read : ofBytes room bytes = .ok value) :
    HoldsNarrow value := by
  rw [ofBytes] at read
  split at read
  · cases read
  rename_i symbols _
  obtain ⟨⟨found, rest⟩, taken, ends⟩ := Outcome.bind_eq_ok_iff.mp read
  dsimp only at ends
  split at ends
  · exact Except.ok.inj ends ▸ holdsNarrow_of_readValue taken
  · cases ends

end PathStore.Json
