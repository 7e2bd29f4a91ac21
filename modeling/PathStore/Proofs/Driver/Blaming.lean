/-
This file shows that the operations of the driver owe failures which blame their input to what their calls are replied.
With accepted arguments an operation comes to such a failure only if a reply is one, or holds a time or a stream that
gives none else, or if a deletion is told a key without bytes.
-/
import Mathlib.Logic.Basic
import PathStore.Proofs.Driver.Steps
import PathStore.Proofs.Program.Owing

namespace PathStore

/-- Whether a call sends a request that has no body. -/
def Call.IsBare : Call → Prop
  | .stat _ | .list _ | .download .. | .delete _ | .move .. => True
  | _ => False

namespace Driver

/-- Whether a reply confounds who asks: it is a failure that blames the input, or a stream that ends in one, or a
description whose time, where that counts, is none. -/
def Confounds (timed : Bool) : Program.Verdict
  | _, .error failure => failure.BlamesInput
  | .stat _, .ok info => timed = true ∧ Outcome.Blames info.modified
  | .download .., .ok stream => Outcome.Blames stream.readAll
  | _, .ok _ => False

theorem confounds_error_iff {timed : Bool} {call : Call} {failure : Failure} :
    Confounds timed call (.error failure) ↔ failure.BlamesInput := by
  cases call <;> rfl

/-- A reply that holds nothing to confound confounds just by a failure. -/
theorem confounds_iff_of_plain {timed : Bool} {call : Call} {reply : Except Failure call.Reply}
    (plain : ∀ value, reply = .ok value → ¬Confounds timed call (.ok value)) :
    Confounds timed call reply ↔ Outcome.Blames reply := by
  cases reply with
  | ok value => exact iff_of_false (plain value rfl) (Outcome.not_blames_ok value)
  | error failure => exact confounds_error_iff.trans Outcome.blames_error_iff.symm

/-- The reply to the description of an object confounds by a failure, or by its time. -/
theorem confounds_stat_iff {timed : Bool} {key : String} {reply : Except Failure ObjectInfo} :
    Confounds timed (.stat key) reply ↔
      Outcome.Blames reply ∨ timed = true ∧ ∃ info, reply = .ok info ∧ Outcome.Blames info.modified := by
  cases reply with
  | ok info =>
      refine Iff.trans (and_congr_right fun _ => ?_) (or_iff_right (Outcome.not_blames_ok info)).symm
      simp only [Except.ok.injEq, exists_eq_left']
  | error failure =>
      refine (confounds_error_iff.trans Outcome.blames_error_iff.symm).trans (or_iff_left ?_).symm
      rintro ⟨-, info, same, -⟩
      cases same

/-- Whether a program owes the failures that blame the input to replies that confound it. -/
abbrev Owes {α : Type} (timed : Bool) (passesOn : Prop) (program : Program α) : Prop :=
  program.Owes Call.IsBare (Confounds timed) passesOn

section Replies

variable {failure : Failure}

theorem not_blamesInput_pathNotFound (path : String) : ¬(Failure.pathNotFound path).BlamesInput :=
  (by decide : (1 : Nat) ≠ 2)

theorem not_blamesInput_of_isNoSuchKey (missing : failure.isNoSuchKey = true) : ¬failure.BlamesInput := by
  cases failure with
  | service error => exact (by decide : (3 : Nat) ≠ 2)
  | _ => cases missing

theorem not_blamesInput_of_isMissingDownload (missing : isMissingDownload failure = true) : ¬failure.BlamesInput := by
  cases failure with
  | service error => exact (by decide : (3 : Nat) ≠ 2)
  | _ => cases missing

variable {timed : Bool} {passesOn : Prop} {call : Call}

/-- A call whose failures are handed on, apart from some that blame no input, and what follows its success. -/
theorem owes_recover_bind {α : Type} {rescue : Failure → Program call.Reply} {later : call.Reply → Program α}
    (bare : call.IsBare)
    (brings : ∀ value, Confounds timed call (.ok value) →
      ∃ failure, failure.BlamesInput ∧ (later value).FailsWith failure)
    (follows : ∀ value, ¬Confounds timed call (.ok value) → Owes timed passesOn (later value))
    (spared : Failure → Bool) (innocent : ∀ failure, spared failure = true → ¬failure.BlamesInput)
    (rescues : ∀ failure, spared failure = false → rescue failure = .fail failure)
    (rest : ∀ failure, spared failure = true → Owes timed passesOn (rescue failure >>= later)) :
    Owes timed passesOn ((Program.call call).recover rescue >>= later) := by
  refine ⟨bare, fun reply => ⟨fun brought => ?_, fun kept => ?_⟩⟩
  · cases reply with
    | ok value => exact brings value brought
    | error failure =>
        have blames : failure.BlamesInput := confounds_error_iff.mp brought
        have handed : spared failure = false := Bool.eq_false_iff.mpr fun isSpared => innocent failure isSpared blames
        refine ⟨failure, blames, ?_⟩
        show (rescue failure >>= later).FailsWith failure
        rw [rescues failure handed]
        rfl
  · cases reply with
    | ok value => exact follows value kept
    | error failure =>
        have spares : ¬failure.BlamesInput := confounds_error_iff.not.mp kept
        show Owes timed passesOn (rescue failure >>= later)
        cases isSpared : spared failure with
        | true => exact rest failure isSpared
        | false =>
            rw [rescues failure isSpared]
            exact Program.owes_fail spares

theorem owes_recover {rescue : Failure → Program call.Reply} (bare : call.IsBare)
    (plain : ∀ value, ¬Confounds timed call (.ok value)) (spared : Failure → Bool)
    (innocent : ∀ failure, spared failure = true → ¬failure.BlamesInput)
    (rescues : ∀ failure, spared failure = false → rescue failure = .fail failure)
    (rest : ∀ failure, spared failure = true → Owes timed passesOn (rescue failure)) :
    Owes timed passesOn ((Program.call call).recover rescue) := by
  rw [← bind_pure ((Program.call call).recover rescue)]
  refine owes_recover_bind bare (fun value brought => absurd brought (plain value)) (fun value _ => ?_) spared innocent
    rescues fun failure isSpared => ?_
  · exact Program.owes_pure value
  · rw [bind_pure]
    exact rest failure isSpared

/-- A call whose failures are handed on as they are. -/
theorem owes_call (bare : call.IsBare) (plain : ∀ value, ¬Confounds timed call (.ok value)) :
    Owes timed passesOn (Program.call call) := by
  refine ⟨bare, fun reply => ?_⟩
  cases reply with
  | ok value => exact ⟨fun brought => absurd brought (plain value), fun _ => Program.owes_pure value⟩
  | error failure =>
      exact ⟨fun brought => ⟨failure, confounds_error_iff.mp brought, rfl⟩, fun kept =>
        Program.owes_fail (confounds_error_iff.not.mp kept)⟩

/-- A call of which a missing key is reported as a missing path. -/
theorem owes_missingPath (call : Call) (bare : call.IsBare) (plain : ∀ value, ¬Confounds timed call (.ok value))
    (path : String) :
    Owes timed passesOn ((Program.call call).recover fun failure => .fail (missingPath path failure)) := by
  refine owes_recover bare plain Failure.isNoSuchKey (fun _ => not_blamesInput_of_isNoSuchKey)
    (fun failure known => ?_) fun failure missing => ?_
  · rw [missingPath, known]
    rfl
  · rw [missingPath, if_pos missing]
    exact Program.owes_fail (not_blamesInput_pathNotFound path)

end Replies

section Operations

variable {timed : Bool} {passesOn : Prop} (driver : Driver)

theorem owes_page (query : ListQuery) : Owes timed passesOn (page query) := owes_call trivial fun _ => id

theorem owes_deleteIfPresent (key : String) : Owes timed passesOn (deleteIfPresent key) := by
  refine owes_recover trivial (fun _ => id) Failure.isNoSuchKey (fun _ => not_blamesInput_of_isNoSuchKey)
    (fun failure known => ?_) fun failure missing => ?_
  · rw [known]
    rfl
  · rw [if_pos missing]
    exact Program.owes_pure ()

/-- An object is described for something else than its time. -/
theorem owes_stat (path key : String) :
    Owes false passesOn ((stat key).recover fun failure => .fail (missingPath path failure)) :=
  owes_missingPath (.stat key) trivial (fun _ brought => Bool.false_ne_true brought.1) path

theorem owes_describeObject (path key : String) : Owes true passesOn (describeObject path key) := by
  rw [describeObject]
  split
  · exact Program.owes_pure none
  · refine Program.owes_call trivial (fun reply brought => ?_) fun reply kept => ?_
    · cases reply with
      | ok info =>
          obtain ⟨-, failure, untimed, blames⟩ := brought
          refine ⟨failure, blames, ?_⟩
          dsimp only
          rw [untimed]
          rfl
      | error failure =>
          have known : ¬failure.isNoSuchKey = true := fun missing => not_blamesInput_of_isNoSuchKey missing brought
          refine ⟨failure, brought, ?_⟩
          dsimp only
          rw [if_neg known]
          rfl
    · cases reply with
      | ok info =>
          exact (Program.owes_ofExcept fun untimed => kept ⟨rfl, untimed⟩).bind fun modified => Program.owes_pure _
      | error failure =>
          dsimp only
          split
          · exact Program.owes_pure none
          · exact Program.owes_fail kept

/-- A path is described, or looked for as a directory. -/
theorem owes_statPath {path : String} (valid : Path.isValid path true = true) :
    Owes true passesOn (driver.statPath path) := by
  rw [statPath, checkPath_of_isValid valid, pure_bind]
  refine (owes_describeObject _ _).bind fun described => ?_
  cases described with
  | some info => exact Program.owes_pure info
  | none =>
      refine (owes_page _).bind fun found => ?_
      split
      · exact Program.owes_fail (not_blamesInput_pathNotFound path)
      · exact Program.owes_pure _

/-- An item that names no text is of the wrong kind, and blames no input. -/
theorem not_blames_pathOf (key : Reply) : ¬Outcome.Blames (driver.pathOf key) := by
  rw [pathOf]
  split
  · exact Outcome.not_blames_ok _
  · exact Outcome.blames_error_iff.not.mpr (by decide)

theorem owes_mapM {α β : Type} {step : α → Except Failure β} (innocent : ∀ item, ¬Outcome.Blames (step item))
    (items : List α) : Owes timed passesOn (Program.ofExcept (items.mapM step)) := by
  refine Program.owes_ofExcept (Outcome.blames_mapM_iff.not.mpr ?_)
  rintro ⟨-, item, -, -, -, blames⟩
  exact innocent item blames

theorem owes_collectPages (stem : String) (pages : Nat) (marker : Reply) :
    Owes timed passesOn (driver.collectPages stem pages marker) := by
  induction pages generalizing marker with
  | zero => exact Program.owes_fail (by decide)
  | succ pages ih =>
      refine (owes_page _).bind fun found => ?_
      refine (owes_mapM (fun item : ObjectInfo => driver.not_blames_pathOf item.key) _).bind fun files => ?_
      refine (owes_mapM driver.not_blames_pathOf _).bind fun directories => ?_
      split
      · exact (ih _).bind fun _ => Program.owes_pure _
      · exact Program.owes_pure _

theorem owes_listPath {path : String} (valid : Path.isValid path true = true) (pages : Nat) :
    Owes timed passesOn (driver.listPath path pages) := by
  rw [listPath, checkPath_of_isValid valid, pure_bind]
  refine (owes_collectPages driver _ pages _).bind fun (files, directories) => ?_
  dsimp only
  split
  · exact Program.owes_fail (not_blamesInput_pathNotFound path)
  · exact Program.owes_pure _

/-- A stream is opened and read to its end. -/
theorem owes_readAll {path : String} (valid : Path.isValid path = true) {offset : Int} (natural : 0 ≤ offset) :
    Owes false passesOn (do Program.ofExcept (← driver.readStream path offset).readAll) := by
  have checked : checkOffset driver.host path offset = pure () := by rw [checkOffset, if_neg (by omega)]
  rw [readStream, checkPath_of_isValid valid, pure_bind, checked, pure_bind, bind_assoc]
  refine (owes_stat path _).bind fun info => ?_
  split
  · exact Program.owes_pure []
  · refine owes_recover_bind trivial (fun stream brought => ?_) (fun stream kept => Program.owes_ofExcept kept)
      isMissingDownload (fun _ => not_blamesInput_of_isMissingDownload) (fun failure known => ?_)
      fun failure missing => ?_
    · obtain ⟨failure, failed, blames⟩ := brought
      exact ⟨failure, blames, failed⟩
    · rw [known]
      rfl
    · rw [if_pos missing]
      exact Program.owes_fail (not_blamesInput_pathNotFound path)

theorem owes_movePath {source target : String} (sourceValid : Path.isValid source = true)
    (targetValid : Path.isValid target = true) : Owes false passesOn (driver.movePath source target) := by
  rw [movePath, checkPath_of_isValid sourceValid, pure_bind, checkPath_of_isValid targetValid, pure_bind]
  refine (owes_stat source _).bind fun _ => ?_
  refine (owes_deleteIfPresent _).bind fun _ => ?_
  exact owes_missingPath (.move _ _) trivial (fun _ => id) source

/-- Among the listed keys one without bytes may be passed on. -/
theorem owes_deleteItems (passes : passesOn) (key : String) (items : List ObjectInfo) :
    Owes timed passesOn (deleteItems key items) := by
  induction items with
  | nil => exact Program.owes_pure 0
  | cons item rest ih =>
      rw [deleteItems]
      have kept : Owes timed passesOn (Program.ofExcept (keyWithin key item.key)) := by
        rw [keyWithin]
        split
        · exact Program.owes_pure _
        · split
          · exact Program.owes_unencodable passes
          · exact Program.owes_pure _
        · exact Program.owes_fail (by decide)
      refine kept.bind fun found => ?_
      cases found with
      | none => exact ih
      | some text => exact (owes_deleteIfPresent text).bind fun _ => ih.bind fun _ => Program.owes_pure _

theorem owes_deletePages (passes : passesOn) (key : String) (pages : Nat) (marker : Reply) :
    Owes timed passesOn (driver.deletePages key pages marker) := by
  induction pages generalizing marker with
  | zero => exact Program.owes_fail (by decide)
  | succ pages ih =>
      refine (owes_page _).bind fun found => (owes_deleteItems passes key found.items).bind fun count => ?_
      split
      · exact (ih _).bind fun _ => Program.owes_pure _
      · exact Program.owes_pure _

theorem owes_deletePath (passes : passesOn) {path : String} (valid : Path.isValid path = true) (pages : Nat) :
    Owes timed passesOn (driver.deletePath path pages) := by
  rw [deletePath, checkPath_of_isValid valid, pure_bind]
  refine (owes_deletePages driver passes _ pages _).bind fun count => ?_
  split
  · exact Program.owes_fail (not_blamesInput_pathNotFound path)
  · exact Program.owes_pure ()

end Operations
end Driver
end PathStore
