/-
This file shows that a write happens wholly or not at all where faults replace the calls to a store. Its one upload
comes last, so a write that fails leaves every object as it was, and the scratch file is removed however it ends.
-/
import PathStore.Proofs.Driver.Moving

namespace PathStore

/-- A bind ends as its first program fails, or as what follows a success ends. -/
theorem Program.run_bind_cases {α β σ : Type}
    {handler : (action : Action) → σ → Except Failure action.Reply × σ} {state : σ} {program : Program α}
    {next : α → Program β} {ending : Except Failure β × σ → Prop}
    (failed : ∀ failure, (program.run handler state).1 = .error failure →
      ending (.error failure, (program.run handler state).2))
    (succeeded : ∀ value, (program.run handler state).1 = .ok value →
      ending ((next value).run handler (program.run handler state).2)) :
    ending ((program >>= next).run handler state) := by
  rw [run_bind]
  rcases ran : program.run handler state with ⟨outcome, after⟩
  rw [ran] at failed succeeded
  cases outcome with
  | ok value => exact succeeded value rfl
  | error failure => exact failed failure rfl

/-- Whether a call sends the content of a scratch file. -/
def Call.isUpload : Call → Bool
  | .putFile .. | .putParts .. => true
  | _ => false

/-- The number of uploads among the calls of a workspace. -/
def Workspace.uploads {σ : Type} (workspace : Workspace σ) : Nat := workspace.calls.countP Call.isUpload

/-- Whether all disturbances of a schedule come in place of the calls. -/
def Disturbance.Replaces {τ : Type} (schedule : Schedule τ) : Prop :=
  ∀ call plan disturbance, (schedule call plan).1 = some disturbance → disturbance.isAfter = false

/-- Whether a disturbance comes in place of the call that it meets. -/
def Disturbance.InPlace (disturbance : Disturbance) : Prop := disturbance.isAfter = false

theorem Disturbance.drawOf_replaces : Replaces (Fault.drawOf InPlace) := fun call plan _ drawn =>
  Fault.drawOf_kind InPlace call plan drawn

section Failed

variable (clock : Clock)

/-- A call that fails leaves a bucket as it was. -/
theorem Bucket.answer_of_error {bucket : Bucket} {call : Call} {failure : Failure}
    (failed : (bucket.answer clock call).1 = .error failure) : (bucket.answer clock call).2 = bucket := by
  cases call with
  | list query => rfl
  | sign key lifetime => rfl
  | putFile key content => cases failed
  | stat key =>
      rw [answer]
      split <;> rfl
  | download key offset =>
      rw [answer]
      split <;> rfl
  | put key data size =>
      rw [answer] at failed ⊢
      cases taken : (data.read size).1 with
      | ok content => rw [taken] at failed; cases failed
      | error reason => rfl
  | putParts key composition =>
      rw [answer] at failed ⊢
      cases composed : composition.evaluate fun name => (bucket.find? name).map StoredObject.content with
      | ok content => rw [composed] at failed; cases failed
      | error reason => rfl
  | delete key =>
      rw [answer] at failed ⊢
      cases found : bucket.find? key with
      | none => rfl
      | some object => rw [found] at failed; cases failed
  | move source target =>
      rw [answer] at failed ⊢
      cases found : bucket.find? source with
      | none => rfl
      | some object =>
          cases taken : (bucket.find? target).isSome with
          | true => simp only [if_true]
          | false => simp [found, taken] at failed

/-- A call that fails leaves the objects of a store as they were. -/
theorem Store.answer_of_error {store : Store} {call : Call} {failure : Failure}
    (failed : (store.answer clock call).1 = .error failure) : (store.answer clock call).2.bucket = store.bucket := by
  by_cases composing : call.operation = .putParts ∧ store.composeError.isSome
  · obtain ⟨bucket, composeError⟩ := store
    obtain ⟨isComposing, isPlanned⟩ := composing
    obtain ⟨error, rfl⟩ := Option.isSome_iff_exists.mp isPlanned
    cases call with
    | putParts key composition => rfl
    | _ => cases isComposing
  · have answered : store.answer clock call =
        ((store.bucket.answer clock call).1, { store with bucket := (store.bucket.answer clock call).2 }) := by
      by_cases calm : store.composeError = none
      · exact store.answer_of_calm clock calm call
      · exact store.answer_of_not_composing clock fun isComposing =>
          composing ⟨isComposing, Option.isSome_iff_ne_none.mpr calm⟩
    rw [answered] at failed ⊢
    exact Bucket.answer_of_error clock failed

/-- A call that fails leaves the objects of a store as they were also where faults replace calls. -/
theorem Disturbance.disturb_of_error {τ : Type} {schedule : Schedule τ} (replaces : Replaces schedule) {call : Call}
    {state : Store × τ} {failure : Failure}
    (failed : (disturb schedule (Store.answer clock) call state).1 = .error failure) :
    (disturb schedule (Store.answer clock) call state).2.1.bucket = state.1.bucket := by
  rw [disturb_state]
  cases drawn : (schedule call state.2).1 with
  | none =>
      rw [disturb_reply_of_none schedule (Store.answer clock) call state drawn] at failed
      exact Store.answer_of_error clock failed
  | some disturbance =>
      have replaced : takesEffect (some disturbance) = false := replaces call state.2 disturbance drawn
      rw [replaced]
      rfl

end Failed

namespace Workspace

variable {σ : Type} (answer : (call : Call) → σ → Except Failure call.Reply × σ) (workspace : Workspace σ)

/-- A call to the store counts if it is an upload. -/
theorem uploads_call (call : Call) :
    (perform answer (.store call) workspace).2.uploads = workspace.uploads + if call.isUpload then 1 else 0 := by
  show ((workspace.performed ++ [Action.store call]).filterMap callOf?).countP Call.isUpload = _
  rw [List.filterMap_append, List.countP_append, uploads, calls]
  exact congrArg _ List.countP_singleton

/-- An action that is no call counts as no upload. -/
theorem uploads_of_no_call {action : Action} (silent : callOf? action = none) :
    (workspace.note action).uploads = workspace.uploads := by
  simp [uploads, calls, note, silent]

end Workspace

namespace Driver

variable {τ : Type} (clock : Clock) (schedule : Disturbance.Schedule τ)

/-- What the actions of a driver do in a workspace whose calls are disturbed. -/
abbrev disturbed (action : Action) (workspace : Workspace (Store × τ)) :
    Except Failure action.Reply × Workspace (Store × τ) :=
  Workspace.perform (Disturbance.disturb schedule (Store.answer clock)) action workspace

/-- A workspace after which nothing is stored, sent or left behind that was not before. -/
structure Untouched (before after : Workspace (Store × τ)) : Prop where
  scratch : after.scratchFiles = before.scratchFiles
  uploads : after.uploads = before.uploads
  bucket : after.store.1.bucket = before.store.1.bucket

/-- An action that is noted and is no call touches nothing. -/
theorem Untouched.of_note (before : Workspace (Store × τ)) (action : Action)
    (silent : Workspace.callOf? action = none) : Untouched before (before.note action) :=
  ⟨rfl, before.uploads_of_no_call silent, rfl⟩

/-- The ending of a write of what a reader delivers: no scratch file is left, a failure changes no object, a success
comes with one upload, and a reader that fails makes the write fail with none. -/
structure Settles (reader : Reader) (before : Workspace (Store × τ))
    (ending : Except Failure Nat × Workspace (Store × τ)) : Prop where
  scratch : ending.2.scratchFiles = before.scratchFiles
  kept : ∀ failure, ending.1 = .error failure → ending.2.store.1.bucket = before.store.1.bucket
  once : ∀ count, ending.1 = .ok count → ending.2.uploads = before.uploads + 1
  unsent : ∀ failure, reader.drain = .error failure →
    (∃ reason, ending.1 = .error reason) ∧ ending.2.uploads = before.uploads

namespace Settles

variable {reader : Reader} {before middle last : Workspace (Store × τ)}
  {ending : Except Failure Nat × Workspace (Store × τ)}

/-- A write that fails before anything is touched. -/
theorem of_error (untouched : Untouched before last) (failure : Failure) :
    Settles reader before (.error failure, last) where
  scratch := untouched.scratch
  kept _ _ := untouched.bucket
  once _ succeeded := nomatch succeeded
  unsent _ _ := ⟨⟨failure, rfl⟩, untouched.uploads⟩

/-- What touches nothing may come before a write. -/
theorem of_untouched (untouched : Untouched before middle) (settles : Settles reader middle ending) :
    Settles reader before ending where
  scratch := settles.scratch.trans untouched.scratch
  kept failure failed := (settles.kept failure failed).trans untouched.bucket
  once count succeeded := by rw [settles.once count succeeded, untouched.uploads]
  unsent failure failed :=
    ⟨(settles.unsent failure failed).1, (settles.unsent failure failed).2.trans untouched.uploads⟩

/-- A write into a scratch file that was opened for it settles once the file is removed. -/
theorem removeScratch {opened : Workspace (Store × τ)} (settles : Settles reader opened ending)
    (scratch : opened.scratchFiles = before.scratchFiles + 1) (uploads : opened.uploads = before.uploads)
    (bucket : opened.store.1.bucket = before.store.1.bucket) :
    Settles reader before (ending.1, (disturbed clock schedule .removeScratch ending.2).2) where
  scratch := by
    show ending.2.scratchFiles - 1 = before.scratchFiles
    rw [settles.scratch, scratch, Nat.add_sub_cancel]
  kept failure failed := (settles.kept failure failed).trans bucket
  once count succeeded := by
    rw [← uploads, ← settles.once count succeeded]
    exact ending.2.uploads_of_no_call rfl
  unsent failure failed := by
    obtain ⟨reason, unsent⟩ := settles.unsent failure failed
    refine ⟨reason, ?_⟩
    rw [← uploads, ← unsent]
    exact ending.2.uploads_of_no_call rfl

end Settles

variable (workspace : Workspace (Store × τ))

/-- Looking up a key only describes it. -/
theorem lookUp_untouched (key : String) :
    Untouched workspace ((lookUp key).run (disturbed clock schedule) workspace).2 := by
  have described : ((lookUp key).run (disturbed clock schedule) workspace).2 =
      (disturbed clock schedule (.store (.stat key)) workspace).2 := by
    rw [lookUp, Program.run_andThen, stat, Program.run_call]
    cases (disturbed clock schedule (.store (.stat key)) workspace).1 with
    | ok info => rfl
    | error failure => cases missing : failure.isNoSuchKey <;> simp [missing]
  rw [described]
  exact ⟨rfl, Workspace.uploads_call _ workspace (.stat key),
    congrArg Store.bucket (disturbed_stat_store clock schedule workspace.store key)⟩

variable {schedule} (replaces : Disturbance.Replaces schedule)
include replaces

/-- One upload settles a write of what was delivered. -/
theorem call_settles (call : Call) (isUpload : call.isUpload = true) {reader : Reader} {content : Bytes}
    (delivered : reader.drain = .ok content) (count : Nat) :
    Settles reader workspace
      ((Program.call call >>= fun _ => pure count).run (disturbed clock schedule) workspace) := by
  have delivers {failure : Failure} (fails : reader.drain = .error failure) : False := by
    rw [delivered] at fails
    cases fails
  have sent : (disturbed clock schedule (.store call) workspace).2.uploads = workspace.uploads + 1 := by
    rw [Workspace.uploads_call, isUpload, if_pos rfl]
  apply Program.run_bind_cases
  · intro failure failed
    exact ⟨rfl, fun _ _ => Disturbance.disturb_of_error clock replaces failed, nofun, fun _ => (delivers · |>.elim)⟩
  · intro _ _
    exact ⟨rfl, nofun, fun _ _ => sent, fun _ => (delivers · |>.elim)⟩

/-- The upload of what was delivered settles its write. -/
theorem upload_settles (host : Host) (existing : Existing) (offset : Int) {reader : Reader} {content : Bytes}
    (delivered : reader.drain = .ok content) :
    Settles reader workspace ((upload host existing offset content).run (disturbed clock schedule) workspace) := by
  have untouched : Untouched workspace workspace := ⟨rfl, rfl, rfl⟩
  rw [upload]
  cases existing.isStored with
  | false => exact call_settles clock workspace replaces (.putFile ..) rfl delivered _
  | true =>
      apply Program.run_bind_cases
      · intro failure _
        exact .of_error untouched failure
      · intro composition _
        by_cases written : host.writes offset = true
        · rw [checkNoted, if_pos written, pure_bind]
          exact call_settles clock workspace replaces (.putParts ..) rfl delivered _
        · rw [checkNoted, if_neg written]
          exact .of_error untouched _

/-- A write by way of a scratch file settles, whether or not there is a directory for the file. -/
theorem rangeWrite_settles (host : Host) (existing : Existing) (offset : Int) (reader : Reader) :
    Settles reader workspace ((rangeWrite host existing offset reader).run (disturbed clock schedule) workspace) := by
  by_cases negative : offset < 0
  · rw [rangeWrite, checkOffset, if_pos negative]
    exact .of_error ⟨rfl, rfl, rfl⟩ _
  rw [rangeWrite, checkOffset, if_neg negative, pure_bind, Program.run_bind, Program.run_perform]
  have noted := Untouched.of_note workspace .openScratch rfl
  cases directory : workspace.hasDirectory with
  | false =>
      have opening : disturbed clock schedule .openScratch workspace =
          (.error .noScratchDirectory, workspace.note .openScratch) := by
        simp [disturbed, Workspace.perform, Workspace.note, directory]
      rw [opening]
      exact .of_error noted _
  | true =>
      let opened : Workspace (Store × τ) :=
        { workspace.note .openScratch with scratchFiles := workspace.scratchFiles + 1 }
      have opening : disturbed clock schedule .openScratch workspace = (.ok (), opened) := by
        simp [disturbed, Workspace.perform, Workspace.note, directory, opened]
      rw [opening]
      simp only [Program.run_followedBy]
      have inner : Settles reader opened ((Program.perform (.spill reader) >>= upload host existing offset).run
          (disturbed clock schedule) opened) := by
        apply Program.run_bind_cases
        · intro failure _
          exact .of_error (.of_note opened _ rfl) failure
        · intro content delivered
          exact .of_untouched (.of_note opened _ rfl) (upload_settles clock _ replaces host existing offset delivered)
      exact inner.removeScratch clock schedule rfl noted.uploads rfl

/-- A write at a path settles, whether or not its path and its offset are accepted. -/
theorem run_writeStream_settles (driver : Driver) (path : String) (offset : Int) (reader : Reader) :
    Settles reader workspace ((driver.writeStream path offset reader).run (disturbed clock schedule) workspace) := by
  have untouched : Untouched workspace workspace := ⟨rfl, rfl, rfl⟩
  rw [writeStream]
  by_cases valid : Path.isValid path = true
  · rw [checkPath_of_isValid valid, pure_bind]
    by_cases negative : offset < 0
    · rw [checkOffset, if_pos negative]
      exact .of_error untouched _
    · rw [checkOffset, if_neg negative, pure_bind]
      have looked := lookUp_untouched clock schedule workspace (driver.root.keyFor path)
      apply Program.run_bind_cases
      · intro failure _
        exact .of_error looked failure
      · intro existing _
        exact .of_untouched looked (rangeWrite_settles clock _ replaces driver.host existing offset reader)
  · rw [checkPath, if_neg valid]
    exact .of_error untouched _

/-- A write under faults that replace calls happens wholly or not at all. Whatever the path, the offset and the reader
are, no scratch file is left and a failure leaves every object as it was; a reader that fails makes the write fail
before anything is uploaded, and a success comes with just one upload. -/
theorem writeStream_all_or_nothing (driver : Driver) (path : String) (offset : Int) (reader : Reader) :
    let result := Workspace.run (Disturbance.disturb schedule (Store.answer clock))
      (driver.writeStream path offset reader) workspace
    result.2.scratchFiles = workspace.scratchFiles ∧
      (∀ failure, result.1 = .error failure → result.2.store.1.bucket = workspace.store.1.bucket) ∧
      (∀ failure, reader.drain = .error failure →
        (∃ reason, result.1 = .error reason) ∧ result.2.uploads = workspace.uploads) ∧
      ∀ count, result.1 = .ok count → result.2.uploads = workspace.uploads + 1 := by
  have settles := run_writeStream_settles clock workspace replaces driver path offset reader
  exact ⟨settles.scratch, settles.kept, settles.unsent, settles.once⟩

omit replaces

/-- A composition that a fault replaces leaves the object, and so does a reader that breaks off, whose bytes are never
uploaded. -/
theorem writeStream_survives_fault :
    let fault : Fault := { operation := .putParts, disturbance := { error := ⟨599, .text "timeout", none⟩ } }
    let answer := Disturbance.disturb (Fault.drawOf Disturbance.InPlace) (Store.answer ⟨.ofInt 1700000000⟩)
    let workspace : Workspace (Store × Fault.PlanOf Disturbance.InPlace) :=
      { store := ({ bucket := .sample }, ⟨[fault], by simp [Disturbance.InPlace, fault]⟩) }
    let write (reader : Reader) := writeStream ⟨.ofDirectory "/reg/", 10, 60, .standard⟩ "/a" 1 reader
    let faulty := Workspace.run answer (write (.file [[9]] none)) workspace
    let broken := Workspace.run answer (write (.chunks [[9], [8]] (some "broken"))) workspace
    faulty.2.scratchFiles = 0 ∧ faulty.2.store.1.bucket = .sample ∧
      broken.2.uploads = 0 ∧ broken.2.store.1.bucket = .sample := by
  intro fault answer workspace write faulty broken
  obtain ⟨removed, kept, -, -⟩ := writeStream_all_or_nothing ⟨.ofInt 1700000000⟩ workspace Disturbance.drawOf_replaces
    ⟨.ofDirectory "/reg/", 10, 60, .standard⟩ "/a" 1 (.file [[9]] none)
  obtain ⟨-, keptToo, unsent, -⟩ := writeStream_all_or_nothing ⟨.ofInt 1700000000⟩ workspace
    Disturbance.drawOf_replaces ⟨.ofDirectory "/reg/", 10, 60, .standard⟩ "/a" 1 (.chunks [[9], [8]] (some "broken"))
  obtain ⟨⟨reason, breaks⟩, nothingSent⟩ := unsent (.device "broken") rfl
  have fails : faulty.1.toOption = none := by decide +kernel
  cases outcome : faulty.1 with
  | ok count =>
      rw [outcome] at fails
      cases fails
  | error failure => exact ⟨removed, kept failure outcome, nothingSent, keptToo reason breaks⟩

end Driver
end PathStore
