/-
This file tells which reports a device takes. Lines go out up to the first text with a half of a pair that stands alone,
which no device takes; a summary goes out unless the offset in it has too many digits.
-/
import Mathlib.Data.List.Basic
import Mathlib.Data.List.TakeWhile
import PathStore.Console
import PathStore.Proofs.Program.Owing

namespace PathStore

namespace LooseText

theorem isSome_whole?_prepend (front : String) (text : LooseText) :
    (text.prepend front).whole?.isSome = text.whole?.isSome := by
  cases text <;> rfl

/-- A text is whole just if all its symbols are characters. -/
theorem isSome_whole?_ofSymbols (symbols : List Symbol) :
    (ofSymbols symbols).whole?.isSome = symbols.all fun symbol => symbol.char?.isSome := by
  induction symbols with
  | nil => rfl
  | cons symbol rest ih =>
      cases symbol with
      | char character => rw [ofSymbols, isSome_whole?_prepend, ih]; rfl
      | half half => rfl

theorem all_isSome_symbols (text : LooseText) :
    (text.symbols.all fun symbol => symbol.char?.isSome) = text.whole?.isSome := by
  have all (front : String) : ((front.toList.map Symbol.char).all fun symbol => symbol.char?.isSome) = true := by
    rw [List.all_map]
    exact List.all_eq_true.mpr fun _ _ => rfl
  cases text with
  | whole text => exact all text
  | broken front half rest => rw [symbols, List.all_append, all]; rfl

end LooseText

namespace Console.Report

section Controls

theorem isSome_char?_of_isControlParameter {symbol : Symbol} (inside : isControlParameter symbol = true) :
    symbol.char?.isSome = true := by
  cases symbol with
  | char character => rfl
  | half half => cases inside

/-- What controls a terminal holds no half, so that a line keeps all halves. -/
theorem all_dropControls (fuel : Nat) (symbols : List Symbol) :
    ((dropControls fuel symbols).all fun symbol => symbol.char?.isSome) =
      symbols.all fun symbol => symbol.char?.isSome := by
  fun_induction dropControls fuel symbols with
  | case1 symbols => rfl
  | case2 fuel => rfl
  | case3 fuel rest final after shape letter ih =>
      have parameters : ((rest.takeWhile isControlParameter).all fun symbol => symbol.char?.isSome) = true :=
        List.all_eq_true.mpr fun symbol member =>
          isSome_char?_of_isControlParameter (List.mem_takeWhile_imp member)
      rw [ih, List.all_cons, List.all_cons, ← List.takeWhile_append_dropWhile (p := isControlParameter) (l := rest),
        List.all_append, parameters, shape, List.all_cons]
      rfl
  | case4 fuel rest final after shape foreign ih =>
      rw [List.all_cons, ih]
      rfl
  | case5 fuel rest shape ih =>
      rw [List.all_cons, ih]
      rfl
  | case6 fuel symbol rest plain ih => rw [List.all_cons, ih, List.all_cons]

theorem isSome_whole?_plainLine (text : LooseText) : (plainLine text).whole?.isSome = text.whole?.isSome := by
  rw [plainLine, LooseText.isSome_whole?_ofSymbols, List.all_append, all_dropControls, LooseText.all_isSome_symbols]
  exact Bool.and_true _

end Controls

section Printing

/-- What is printed is cut short just by a text with a half, and that blames the input. -/
theorem blames_print_iff (texts : List LooseText) :
    (∃ failure, (print (texts.map plainLine)).2 = some failure ∧ failure.BlamesInput) ↔
      ∃ text ∈ texts, text.whole? = none := by
  induction texts with
  | nil => exact iff_of_false nofun nofun
  | cons text rest ih =>
      rw [List.map_cons, List.exists_mem_cons_iff, ← Option.not_isSome_iff_eq_none, ← isSome_whole?_plainLine, ← ih]
      cases plainLine text with
      | broken front half more => exact iff_of_true ⟨_, rfl, rfl⟩ (.inl Bool.false_ne_true)
      | whole line => exact (or_iff_right (not_not_intro rfl)).symm

/-- Whether a report holds what is not written: a path with a half that stands alone, or an offset with too many
digits. -/
def IsUnwritable : Report → Prop
  | .listing paths => ∃ path ∈ paths, path.whole? = none
  | .written _ offset _ => Numeral.isWritable offset = false
  | _ => False

/-- The output of a report is cut short by a failure that blames the input just if the report holds what is not
written. -/
theorem blames_output_iff (report : Report) :
    (∃ failure, report.output.2 = some failure ∧ failure.BlamesInput) ↔ report.IsUnwritable := by
  have sized (size : Int) : ¬Outcome.Blames (sizeText size) := by
    rw [sizeText]
    split
    · exact Outcome.not_blames_ok _
    · dsimp only
      split
      · exact Outcome.not_blames_ok _
      · exact Outcome.blames_error_iff.not.mpr (by decide)
  have plain {outcome : Except Failure Bytes} (innocent : ¬Outcome.Blames outcome) :
      ¬∃ failure, (output.whole outcome).2 = some failure ∧ failure.BlamesInput := by
    rintro ⟨failure, cut, blames⟩
    cases outcome with
    | ok bytes => cases cut
    | error other =>
        obtain rfl := Option.some.inj cut
        exact innocent (Outcome.blames_error_iff.mpr blames)
  have whole : ¬∃ failure, (none : Option Failure) = some failure ∧ failure.BlamesInput := nofun
  cases report with
  | info described =>
      refine iff_of_false (plain (Outcome.blames_map_iff.not.mpr ?_)) id
      rw [infoRows]
      split
      · exact Outcome.not_blames_ok _
      · exact (Outcome.blames_bind_of_innocent fun _ => Outcome.not_blames_ok _).not.mpr (sized _)
  | listing paths => exact blames_print_iff paths
  | content bytes => exact iff_of_false whole id
  | stored path size =>
      rw [output]
      exact iff_of_false (plain (Outcome.blames_map_iff.not.mpr (sized size))) id
  | written path offset count =>
      rw [output, IsUnwritable]
      cases Numeral.isWritable offset with
      | true => exact iff_of_false whole Bool.true_eq_false.mp
      | false => exact iff_of_true ⟨_, rfl, rfl⟩ rfl
  | deleted path => exact iff_of_false whole id
  | moved source target => exact iff_of_false whole id
  | url text =>
      refine (blames_print_iff [text]).trans (iff_of_false ?_ id)
      rintro ⟨_, listed, broken⟩
      obtain rfl := List.mem_singleton.mp listed
      cases broken

end Printing
end Console.Report
end PathStore
