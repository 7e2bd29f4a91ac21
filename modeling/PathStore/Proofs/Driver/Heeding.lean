/-
This file shows what an operation makes of a call that fails with an error of a service. It finds its path missing, or
goes on, or reports the error, by the call that fails and the code alone.
-/
import PathStore.Proofs.Driver.Contending
import PathStore.Proofs.Driver.Overlapping
import PathStore.Proofs.Program.Meeting

namespace PathStore.Driver

/-- The description of the directory at a path. -/
def statDirectory (driver : Driver) (path : String) : Program FileInfo := do
  let found ← page { stem := Root.childStem (driver.root.keyFor path), limit := 1 }
  if found.items.isEmpty then Program.fail (.pathNotFound path) else return { path, isDirectory := true }

namespace Task

/-- The path that an operation is about, which for a move is its source. -/
def subject : Task → String
  | .putContent path _ | .writeStream path _ _ | .getContent path | .readStream path _ | .stat path | .list path _
  | .delete path _ => path
  | .move source _ => source

/-- Whether a refused call tells an operation that nothing is at its path. -/
def findsMissing (task : Task) (operation : Operation) (code : Int) : Bool :=
  match task, operation with
  | .readStream .., .stat | .getContent _, .stat | .move .., .stat | .move .., .move => code = 612
  | .readStream .., .download | .getContent _, .download => code = 404 || code = 612
  | _, _ => false

/-- Whether an operation goes on after a refused call. -/
def overlooks (task : Task) (operation : Operation) (code : Int) : Bool :=
  match task, operation with
  | .stat _, .stat | .writeStream .., .stat | .move .., .delete | .delete .., .delete => code = 612
  | _, _ => false

/-- What an operation reports for a failure of a call, if it does not go on. -/
def verdict (task : Task) (operation : Operation) : Failure → Option Failure
  | .service error =>
      if task.findsMissing operation error.code then some (.pathNotFound task.subject)
      else if task.overlooks operation error.code then none
      else some (.service error)
  | failure => some failure

/-- Whether a program is the next step of an operation after a refused call: to look for a directory, to write a new
object, or what follows a deletion. -/
def Resumes (driver : Driver) (task : Task) (call : Call) (next : Except Failure call.Reply → Program Result)
    (rest : Program Result) : Prop :=
  match task, call, next with
  | .stat path, .stat _, _ => rest = (do return .info (← driver.statDirectory path))
  | .writeStream path offset reader, .stat _, _ =>
      rest = (do return .count (← rangeWrite driver.host ⟨driver.root.keyFor path, 0, false⟩ offset reader))
  | .move .., .delete _, next => rest = next (.ok ())
  | .delete .., .delete _, next => rest = next (.ok ())
  | _, _, _ => False

/-- Whether an operation makes of each failure of a call what its verdict says. -/
def Settles (driver : Driver) (task : Task) : Program.Judgement Result := fun call next =>
  ∀ failure, match task.verdict call.operation failure with
    | some reported => (next (.error failure)).FailsWith reported
    | none => task.Resumes driver call next (next (.error failure))

end Task

section Verdict

variable {path : String} {allowRoot : Bool} {α : Type}

theorem eachCall_checkPath {judge : Program.Judgement α} {next : Program α}
    (later : Path.isValid path allowRoot = true → next.EachCall judge) :
    (checkPath path allowRoot >>= fun _ => next).EachCall judge := by
  by_cases valid : Path.isValid path allowRoot = true
  · rw [checkPath_of_isValid valid, pure_bind]
    exact later valid
  · rw [checkPath, if_neg valid]
    trivial

variable (driver : Driver) {verdict : Operation → Failure → Option Failure}

/-- A read reports a missing object as a missing path. -/
theorem eachCall_readStream (path : String) (offset : Int)
    (describing : ∀ failure, verdict .stat failure = some (missingPath path failure))
    (downloading : ∀ failure,
      verdict .download failure = some (if isMissingDownload failure then .pathNotFound path else failure)) :
    (driver.readStream path offset).EachCall (Program.Heeds verdict) := by
  apply eachCall_checkPath
  intro valid
  rw [checkOffset]
  split
  · trivial
  · rw [pure_bind]
    apply Program.eachCall_heeds_bind
    · refine Program.eachCall_heeds_recover fun failure => ?_
      rw [show (Call.stat (driver.root.keyFor path)).operation = .stat from rfl, describing]
    · intro info
      split
      · trivial
      · refine Program.eachCall_heeds_recover fun failure => ?_
        rw [show (Call.download (driver.root.keyFor path) offset).operation = .download from rfl, downloading]

/-- A deletion that finds nothing goes on. -/
theorem eachCall_deleteIfPresent (key : String)
    (deleting : ∀ failure, verdict .delete failure = if failure.isNoSuchKey then none else some failure) :
    (deleteIfPresent key).EachCall (Program.Heeds verdict) := by
  refine Program.eachCall_heeds_recover fun failure => ?_
  rw [show (Call.delete key).operation = .delete from rfl, deleting]
  cases failure.isNoSuchKey with
  | true => exact ⟨(), rfl⟩
  | false => rfl

/-- A move reports a missing source, and goes on where the target is missing. -/
theorem eachCall_movePath (source target : String)
    (describing : ∀ failure, verdict .stat failure = some (missingPath source failure))
    (deleting : ∀ failure, verdict .delete failure = if failure.isNoSuchKey then none else some failure)
    (moving : ∀ failure, verdict .move failure = some (missingPath source failure)) :
    (driver.movePath source target).EachCall (Program.Heeds verdict) := by
  apply eachCall_checkPath
  intro sourceValid
  apply eachCall_checkPath
  intro targetValid
  apply Program.eachCall_heeds_bind
  · refine Program.eachCall_heeds_recover fun failure => ?_
    rw [show (Call.stat (driver.root.keyFor source)).operation = .stat from rfl, describing]
  · intro info
    apply Program.eachCall_heeds_bind (eachCall_deleteIfPresent _ deleting)
    intro done
    refine Program.eachCall_heeds_recover fun failure => ?_
    rw [show (Call.move (driver.root.keyFor source) (driver.root.keyFor target)).operation = .move from rfl, moving]

section Pages

variable (listing : ∀ failure, verdict .list failure = some failure)
include listing

theorem eachCall_page (query : ListQuery) : (page query).EachCall (Program.Heeds verdict) :=
  Program.eachCall_heeds_call listing

theorem eachCall_collectPages (stem : String) (pages : Nat) (marker : Reply) :
    (driver.collectPages stem pages marker).EachCall (Program.Heeds verdict) := by
  induction pages generalizing marker with
  | zero => trivial
  | succ pages ih =>
      apply Program.eachCall_heeds_bind (eachCall_page listing _)
      intro found
      apply Program.eachCall_heeds_bind (Program.eachCall_ofExcept _)
      intro files
      apply Program.eachCall_heeds_bind (Program.eachCall_ofExcept _)
      intro directories
      split
      · exact Program.eachCall_heeds_bind (ih found.marker) fun _ => trivial
      · trivial

theorem eachCall_listPath (path : String) (pages : Nat) :
    (driver.listPath path pages).EachCall (Program.Heeds verdict) := by
  apply eachCall_checkPath
  intro valid
  apply Program.eachCall_heeds_bind (driver.eachCall_collectPages listing _ pages _)
  rintro ⟨files, directories⟩
  dsimp only
  split <;> trivial

variable (deleting : ∀ failure, verdict .delete failure = if failure.isNoSuchKey then none else some failure)
include deleting

omit listing in
theorem eachCall_deleteItems (key : String) (items : List ObjectInfo) :
    (deleteItems key items).EachCall (Program.Heeds verdict) := by
  induction items with
  | nil => trivial
  | cons item rest ih =>
      apply Program.eachCall_heeds_bind (Program.eachCall_ofExcept _)
      intro kept
      cases kept with
      | none => exact ih
      | some text =>
          apply Program.eachCall_heeds_bind (eachCall_deleteIfPresent text deleting)
          exact fun done => Program.eachCall_heeds_bind ih fun _ => trivial

theorem eachCall_deletePages (key : String) (pages : Nat) (marker : Reply) :
    (driver.deletePages key pages marker).EachCall (Program.Heeds verdict) := by
  induction pages generalizing marker with
  | zero => trivial
  | succ pages ih =>
      apply Program.eachCall_heeds_bind (eachCall_page listing _)
      intro found
      apply Program.eachCall_heeds_bind (eachCall_deleteItems deleting key found.items)
      intro count
      split
      · exact Program.eachCall_heeds_bind (ih found.marker) fun _ => trivial
      · trivial

theorem eachCall_deletePath (path : String) (pages : Nat) :
    (driver.deletePath path pages).EachCall (Program.Heeds verdict) := by
  apply eachCall_checkPath
  intro valid
  apply Program.eachCall_heeds_bind (driver.eachCall_deletePages listing deleting _ pages _)
  intro count
  split <;> trivial

end Pages
end Verdict

section Passing

/-- Whether a call other than a description ends a program by its failures. -/
def Passes {α : Type} : Program.Judgement α := fun call next =>
  call.operation ≠ .stat ∧ ∀ failure, (next (.error failure)).FailsWith failure

theorem eachCall_passes_bind {α β : Type} {program : Program α} {later : α → Program β}
    (first : program.EachCall Passes) (rest : ∀ value, (later value).EachCall Passes) :
    (program >>= later).EachCall Passes :=
  Program.eachCall_bind first (fun _ _ passes => ⟨passes.1, fun failure => (passes.2 failure).bind⟩) rest

variable (driver : Driver)

theorem eachCall_statDirectory (path : String) : (driver.statDirectory path).EachCall Passes := by
  apply eachCall_passes_bind
  · exact ⟨⟨nofun, fun failure => rfl⟩, fun _ => trivial⟩
  · intro found
    split <;> trivial

theorem eachCall_rangeWrite (seen : Existing) (offset : Nat) (reader : Reader) :
    (rangeWrite driver.host seen offset reader).EachCall Passes := by
  rw [rangeWrite_eq_act]
  refine ⟨trivial, fun reply => ?_⟩
  cases reply with
  | error failure => trivial
  | ok opened =>
      dsimp only
      rw [fillScratch_eq_act]
      refine ⟨trivial, fun reply => ?_⟩
      cases reply with
      | error failure => exact ⟨trivial, fun _ => trivial⟩
      | ok content =>
          dsimp only
          by_cases notes : driver.host.Notes seen offset
          · obtain ⟨call, operation, same⟩ := uploadScratch_eq_act driver offset content notes
            rw [same]
            refine ⟨⟨?_, fun failure _ => rfl⟩, fun reply => ⟨trivial, fun _ => trivial⟩⟩
            rw [operation]
            split <;> decide
          · rw [uploadScratch_of_unnoted driver offset content notes]
            exact ⟨trivial, fun _ => trivial⟩

/-- A write of a new object comes to no end without a further call. -/
theorem not_failsWith_rangeWrite {α : Type} (key : String) (offset : Nat) (reader : Reader) {later : Nat → Program α}
    {failure : Failure} : ¬(rangeWrite driver.host ⟨key, 0, false⟩ offset reader >>= later).FailsWith failure := by
  have notes : driver.host.Notes ⟨key, 0, false⟩ offset := nofun
  rw [rangeWrite_eq_act]
  intro fails
  have filling : (fillScratch driver offset reader ⟨key, 0, false⟩ >>= later).FailsWith failure := fails (.ok ())
  rw [fillScratch_eq_act] at filling
  have uploading : (uploadScratch driver offset [] ⟨key, 0, false⟩ >>= later).FailsWith failure := filling (.ok [])
  obtain ⟨call, -, same⟩ := uploadScratch_eq_act driver offset [] notes
  rw [same] at uploading
  exact uploading

/-- The description of a key, after which one goes on with its object or without one. -/
def lookFor {α : Type} (key : String) (present : ObjectInfo → Program α) (absent : Program α) : Program α :=
  (stat key).andThen fun
    | .ok info => present info
    | .error failure => if failure.isNoSuchKey then absent else .fail failure

/-- A path with a key is described by its object, or else as a directory. -/
theorem statPath_eq_lookFor {path : String} (wellFormed : Path.isValid path true = true)
    (filled : driver.root.keyFor path ≠ "") :
    driver.statPath path = lookFor (driver.root.keyFor path)
      (fun info => .ofExcept (info.modified.map fun modified => { path, size := info.size, modified := some modified }))
      (driver.statDirectory path) := by
  rw [statPath, checkPath_of_isValid wellFormed, pure_bind]
  simp only [describeObject, if_neg filled]
  refine congrArg (Program.act _) (funext fun reply => ?_)
  cases reply with
  | ok info =>
      show Program.bind (Program.bind (Program.ofExcept (ObjectInfo.modified info)) _) _ =
        Program.ofExcept ((ObjectInfo.modified info).map _)
      cases ObjectInfo.modified info <;> rfl
  | error failure =>
      show Program.andThen (if failure.isNoSuchKey then _ else _) _ = if failure.isNoSuchKey then _ else _
      cases failure.isNoSuchKey <;> rfl

/-- A path whose key is empty can only be a directory. -/
theorem statPath_eq_statDirectory {path : String} (wellFormed : Path.isValid path true = true)
    (empty : driver.root.keyFor path = "") : driver.statPath path = driver.statDirectory path := by
  rw [statPath, checkPath_of_isValid wellFormed, pure_bind]
  simp only [describeObject, if_pos empty, pure_bind]
  rfl

/-- A write is one into the object of its path, or one of a new object. -/
theorem writeStream_eq_lookFor {path : String} (valid : Path.isValid path = true) (offset : Nat) (reader : Reader) :
    driver.writeStream path offset reader = lookFor (driver.root.keyFor path)
      (fun info => rangeWrite driver.host ⟨driver.root.keyFor path, info.size, true⟩ offset reader)
      (rangeWrite driver.host ⟨driver.root.keyFor path, 0, false⟩ offset reader) := by
  rw [driver.writeStream_eq_act offset reader valid]
  refine congrArg (Program.act _) (funext fun reply => ?_)
  cases reply <;> rfl

end Passing
section Clearing

/-- Whether a failure is neither an error of a service nor a missing path. -/
def IsInner (failure : Failure) : Prop := failure.category ≠ .service ∧ failure.category ≠ .pathNotFound

theorem isInner_ofOffset (host : Host) (path : String) (offset : Int) : IsInner (.ofOffset host path offset) := by
  unfold IsInner Failure.ofOffset
  split <;> simp [Failure.category]

/-- Whether an outcome is a success, or a failure that no call has reported. -/
def Succeeds {α : Type} : Except Failure α → Prop
  | .ok _ => True
  | .error failure => IsInner failure

/-- The same where at least one object is counted. -/
def CountsSome : Except Failure Nat → Prop
  | .ok count => 0 < count
  | .error failure => IsInner failure

/-- Whether what follows a deletion comes at once to accepted outcomes only. -/
def Clears {α : Type} (accepted : Except Failure α → Prop) : Program.Judgement α := fun call next =>
  match call, next with
  | .delete _, next => (next (.ok ())).AtOnce accepted
  | _, _ => True

section Bind

variable {α β : Type} {accepted : Except Failure α → Prop} {acceptedAll : Except Failure β → Prop}
  {program : Program α} {later : α → Program β}

theorem atOnce_bind (ends : program.AtOnce accepted)
    (succeeds : ∀ value, accepted (.ok value) → (later value).AtOnce acceptedAll)
    (fails : ∀ failure, accepted (.error failure) → acceptedAll (.error failure)) :
    (program >>= later).AtOnce acceptedAll := by
  apply Program.atOnce_andThen ends
  intro outcome holds
  cases outcome with
  | ok value => exact succeeds value holds
  | error failure => exact fails failure holds

theorem eachCall_clears_bind (first : program.EachCall (Clears accepted))
    (succeeds : ∀ value, accepted (.ok value) → (later value).AtOnce acceptedAll)
    (fails : ∀ failure, accepted (.error failure) → acceptedAll (.error failure))
    (rest : ∀ value, (later value).EachCall (Clears acceptedAll)) :
    (program >>= later).EachCall (Clears acceptedAll) := by
  apply Program.eachCall_bind first
  · intro call next clears
    cases call with
    | delete key => exact atOnce_bind clears succeeds fails
    | _ => trivial
  · exact rest

end Bind

theorem isInner_of_keyWithin {key : String} {listed : Reply} {failure : Failure}
    (failed : keyWithin key listed = .error failure) : IsInner failure := by
  have broken : IsInner .unencodable ∧ IsInner .notAnObject := ⟨by constructor <;> nofun, by constructor <;> nofun⟩
  rw [keyWithin] at failed
  split at failed
  · cases failed
  · split at failed
    · exact Except.error.inj failed ▸ broken.1
    · cases failed
  · exact Except.error.inj failed ▸ broken.2

theorem atOnce_deleteItems (key : String) (items : List ObjectInfo) : (deleteItems key items).AtOnce Succeeds := by
  induction items with
  | nil => trivial
  | cons item rest ih =>
      rw [deleteItems]
      cases found : keyWithin key item.key with
      | error failure => exact isInner_of_keyWithin found
      | ok kept =>
          cases kept with
          | none => exact ih
          | some text => trivial

/-- After a deletion at least one object is counted. -/
theorem eachCall_clears_deleteItems (key : String) (items : List ObjectInfo) :
    (deleteItems key items).EachCall (Clears CountsSome) := by
  induction items with
  | nil => trivial
  | cons item rest ih =>
      rw [deleteItems]
      have counted : (deleteItems key rest >>= fun count => pure (count + 1)).AtOnce CountsSome :=
        atOnce_bind (atOnce_deleteItems key rest) (fun count _ => Nat.succ_pos count) fun _ inner => inner
      have later : (deleteItems key rest >>= fun count => pure (count + 1)).EachCall (Clears CountsSome) :=
        eachCall_clears_bind ih (fun count _ => Nat.succ_pos count) (fun _ inner => inner) fun _ => trivial
      cases keyWithin key item.key with
      | error failure => trivial
      | ok kept =>
          cases kept with
          | none => exact ih
          | some text =>
              refine ⟨counted, fun reply => ?_⟩
              cases reply with
              | ok done => exact later
              | error failure =>
                  show (Program.bind (if failure.isNoSuchKey then _ else _) _).EachCall _
                  split
                  · exact later
                  · trivial

variable (driver : Driver)

theorem atOnce_deletePages (key : String) (pages : Nat) (marker : Reply) :
    (driver.deletePages key pages marker).AtOnce Succeeds := by
  cases pages with
  | zero =>
      have inner : IsInner .tooManyPages := by constructor <;> nofun
      exact inner
  | succ pages => trivial

theorem eachCall_clears_deletePages (key : String) (pages : Nat) (marker : Reply) :
    (driver.deletePages key pages marker).EachCall (Clears CountsSome) := by
  induction pages generalizing marker with
  | zero => trivial
  | succ pages ih =>
      rw [deletePages]
      refine ⟨trivial, fun reply => ?_⟩
      cases reply with
      | error failure => trivial
      | ok found =>
          apply eachCall_clears_bind (eachCall_clears_deleteItems key found.items)
          · intro count some
            split
            · exact atOnce_bind (driver.atOnce_deletePages key pages found.marker)
                (fun more _ => Nat.add_pos_left some more) fun _ inner => inner
            · exact some
          · exact fun _ inner => inner
          · intro count
            split
            · exact eachCall_clears_bind (ih found.marker) (fun more positive => Nat.add_pos_right count positive)
                (fun _ inner => inner) fun _ => trivial
            · trivial

/-- A deletion that has found an object does not report its path as missing. -/
theorem eachCall_clears_deletePath (path : String) (pages : Nat) :
    (driver.deletePath path pages).EachCall (Clears Succeeds) := by
  apply eachCall_checkPath
  intro valid
  apply eachCall_clears_bind (driver.eachCall_clears_deletePages _ pages _)
  · intro count some
    rw [if_neg (Nat.ne_of_gt some)]
    trivial
  · exact fun _ inner => inner
  · intro count
    split <;> trivial

theorem eachCall_clears_movePath (source target : String) :
    (driver.movePath source target).EachCall (Clears Succeeds) := by
  have placing : (driver.placeAtTarget source target).EachCall (Clears Succeeds) := by
    rw [placeAtTarget_eq_act]
    exact ⟨trivial, fun _ => trivial⟩
  apply eachCall_checkPath
  intro sourceValid
  apply eachCall_checkPath
  intro targetValid
  refine ⟨trivial, fun reply => ?_⟩
  cases reply with
  | error failure => trivial
  | ok info =>
      show (driver.replaceTarget source target).EachCall _
      rw [replaceTarget_eq_act]
      refine ⟨trivial, fun reply => ?_⟩
      cases reply with
      | ok done => exact placing
      | error failure =>
          dsimp only
          split
          · exact placing
          · trivial

end Clearing
namespace Task

section Verdict

variable {task : Task} {operation : Operation}

/-- A failure of a call that an operation neither finds telling nor overlooks is reported. -/
theorem verdict_of_passing (reports : ∀ code, task.findsMissing operation code = false)
    (ends : ∀ code, task.overlooks operation code = false) (failure : Failure) :
    task.verdict operation failure = some failure := by
  cases failure with
  | service error => simp [verdict, reports, ends]
  | _ => rfl

/-- A missing key that an operation finds telling is reported as its missing path. -/
theorem verdict_of_missing (reports : ∀ code, task.findsMissing operation code = decide (code = 612))
    (ends : ∀ code, task.overlooks operation code = false) (failure : Failure) :
    task.verdict operation failure = some (missingPath task.subject failure) := by
  cases failure with
  | service error =>
      by_cases missing : error.code = 612 <;>
        simp [verdict, reports, ends, missing, missingPath, Failure.isNoSuchKey, ServiceError.noSuchKey]
  | _ => rfl

/-- A missing key that an operation overlooks is not reported. -/
theorem verdict_of_overlooking (reports : ∀ code, task.findsMissing operation code = false)
    (ends : ∀ code, task.overlooks operation code = decide (code = 612)) (failure : Failure) :
    task.verdict operation failure = if failure.isNoSuchKey then none else some failure := by
  cases failure with
  | service error =>
      by_cases missing : error.code = 612 <;>
        simp [verdict, reports, ends, missing, Failure.isNoSuchKey, ServiceError.noSuchKey]
  | _ => rfl

theorem overlooks_of_verdict_none {failure : Failure} (silent : task.verdict operation failure = none) :
    ∃ code, task.overlooks operation code = true := by
  cases failure with
  | service error =>
      rw [verdict] at silent
      split at silent
      · cases silent
      · split at silent
        · exact ⟨error.code, ‹_›⟩
        · cases silent
  | _ => cases silent

/-- Only descriptions and the deletions of a move and of a deletion are overlooked. -/
theorem operation_of_overlooks {code : Int} (overlooked : task.overlooks operation code = true) :
    operation = .stat ∨
      operation = .delete ∧
        ((∃ source target, task = .move source target) ∨ ∃ path pages, task = .delete path pages) := by
  unfold overlooks at overlooked
  split at overlooked
  · exact .inl rfl
  · exact .inl rfl
  · exact .inr ⟨rfl, .inl ⟨_, _, rfl⟩⟩
  · exact .inr ⟨rfl, .inr ⟨_, _, rfl⟩⟩
  · cases overlooked

end Verdict

section Settling

variable {driver : Driver} {task : Task} {call : Call} {next : Except Failure call.Reply → Program Result}

theorem settles_of_heeds (describes : ∀ failure, task.verdict .stat failure ≠ none)
    (heeds : Program.Heeds task.verdict call next) : task.Settles driver call next := by
  intro failure
  have first := heeds failure
  cases given : task.verdict call.operation failure with
  | some reported =>
      rw [given] at first
      exact first
  | none =>
      rw [given] at first
      obtain ⟨value, same⟩ := first
      obtain ⟨code, overlooked⟩ := overlooks_of_verdict_none given
      rcases operation_of_overlooks overlooked with described | ⟨deleted, named⟩
      · exact absurd (described ▸ given) (describes failure)
      · cases call with
        | delete key => rcases named with ⟨source, target, rfl⟩ | ⟨path, pages, rfl⟩ <;> exact same
        | _ => cases deleted

theorem settles_of_passes (deletes : ∀ failure, task.verdict .delete failure ≠ none)
    (reports : ∀ operation code, task.findsMissing operation code = false) (passes : Passes call next) :
    task.Settles driver call next := by
  intro failure
  cases given : task.verdict call.operation failure with
  | some reported =>
      have same : reported = failure := by
        cases failure with
        | service error =>
            rw [verdict, if_neg (by simp [reports])] at given
            split at given
            · cases given
            · exact (Option.some.inj given).symm
        | _ => exact (Option.some.inj given).symm
      rw [same]
      exact passes.2 failure
  | none =>
      obtain ⟨code, overlooked⟩ := overlooks_of_verdict_none given
      rcases operation_of_overlooks overlooked with described | ⟨deleted, -⟩
      · exact absurd described passes.1
      · exact absurd (deleted ▸ given) (deletes failure)

/-- A program that ends by the failures of its calls settles an operation that takes nothing for a missing path and
overlooks no deletion. -/
theorem eachCall_settles_of_passes {α : Type} {program : Program α} {tell : α → Result}
    (reports : ∀ operation code, task.findsMissing operation code = false)
    (deletes : ∀ code, task.overlooks .delete code = false) (each : program.EachCall Passes) :
    (program >>= fun value => pure (tell value)).EachCall (task.Settles driver) := by
  refine (eachCall_passes_bind each fun _ => ?_).mono fun _ _ => settles_of_passes ?_ reports
  · trivial
  · intro failure
    rw [verdict_of_passing (reports .delete) deletes]
    nofun

/-- The description with which an operation begins is settled where it goes on without an object. -/
theorem eachCall_lookFor {α : Type} {key : String} {present : ObjectInfo → Program α} {absent : Program α}
    {later : α → Program Result}
    (overlooks : ∀ failure, task.verdict .stat failure = if failure.isNoSuchKey then none else some failure)
    (resumes : ∀ next, task.Resumes driver (.stat key) next (absent >>= later))
    (settles : ∀ program : Program α, program.EachCall Passes → (program >>= later).EachCall (task.Settles driver))
    (described : ∀ info, (present info).EachCall Passes) (missing : absent.EachCall Passes) :
    (lookFor key present absent >>= later).EachCall (task.Settles driver) := by
  refine ⟨fun failure => ?_, fun reply => ?_⟩
  · rw [show (Call.stat key).operation = .stat from rfl, overlooks]
    show match if failure.isNoSuchKey then none else some failure with
      | some reported => ((if failure.isNoSuchKey then absent else .fail failure) >>= later).FailsWith reported
      | none => task.Resumes driver (.stat key) _ ((if failure.isNoSuchKey then absent else .fail failure) >>= later)
    cases failure.isNoSuchKey with
    | true => exact resumes _
    | false => rfl
  · cases reply with
    | ok info => exact settles _ (described info)
    | error failure =>
        show ((if failure.isNoSuchKey then absent else .fail failure) >>= later).EachCall _
        split
        · exact settles _ missing
        · trivial

end Settling

/-- A download that finds nothing is reported as the missing path. -/
theorem verdict_download {task : Task}
    (reports : ∀ code, task.findsMissing .download code = (decide (code = 404) || decide (code = 612)))
    (ends : ∀ code, task.overlooks .download code = false) (failure : Failure) :
    task.verdict .download failure =
      some (if isMissingDownload failure then .pathNotFound task.subject else failure) := by
  cases failure with
  | service error =>
      by_cases absent : error.code = 404 <;> by_cases missing : error.code = 612 <;>
        simp [verdict, reports, ends, absent, missing, isMissingDownload, ServiceError.notFound, ServiceError.noSuchKey]
  | _ => rfl

theorem eachCall_settles_stat (driver : Driver) (path : String) :
    (program driver (.stat path)).EachCall (Task.Settles driver (.stat path)) := by
  have overlooking := @verdict_of_overlooking (.stat path) .stat (fun _ => rfl) fun _ => rfl
  have passed (found : Program FileInfo) (each : found.EachCall Passes) :
      (found >>= fun info => pure (Result.info info)).EachCall (Task.Settles driver (.stat path)) :=
    eachCall_settles_of_passes (fun operation _ => by cases operation <;> rfl) (fun _ => rfl) each
  rw [program]
  by_cases wellFormed : Path.isValid path true = true
  · by_cases empty : driver.root.keyFor path = ""
    · rw [driver.statPath_eq_statDirectory wellFormed empty]
      exact passed _ (driver.eachCall_statDirectory path)
    · rw [driver.statPath_eq_lookFor wellFormed empty]
      exact eachCall_lookFor overlooking (fun _ => rfl) passed (fun _ => Program.eachCall_ofExcept _)
        (driver.eachCall_statDirectory path)
  · rw [statPath, checkPath, if_neg wellFormed]
    trivial

theorem eachCall_settles_writeStream (driver : Driver) (path : String) (offset : Int) (reader : Reader) :
    (program driver (.writeStream path offset reader)).EachCall
      (Task.Settles driver (.writeStream path offset reader)) := by
  have overlooking := @verdict_of_overlooking (.writeStream path offset reader) .stat (fun _ => rfl) fun _ => rfl
  have passed (written : Program Nat) (each : written.EachCall Passes) :
      (written >>= fun count => pure (Result.count count)).EachCall
        (Task.Settles driver (.writeStream path offset reader)) :=
    eachCall_settles_of_passes (fun operation _ => by cases operation <;> rfl) (fun _ => rfl) each
  rw [program]
  by_cases valid : Path.isValid path = true
  · by_cases natural : 0 ≤ offset
    · obtain ⟨count, rfl⟩ := Int.eq_ofNat_of_zero_le natural
      rw [driver.writeStream_eq_lookFor valid count reader]
      exact eachCall_lookFor overlooking (fun _ => rfl) passed (fun _ => driver.eachCall_rangeWrite _ count reader)
        (driver.eachCall_rangeWrite _ count reader)
    · rw [Driver.writeStream, checkPath_of_isValid valid, pure_bind, checkOffset, if_pos (Int.not_le.mp natural)]
      trivial
  · rw [Driver.writeStream, checkPath, if_neg valid]
    trivial

/-- Each call of an operation is settled by its verdict. -/
theorem eachCall_settles (driver : Driver) (task : Task) : (task.program driver).EachCall (task.Settles driver) := by
  have heeded {α : Type} {program : Program α} {later : α → Program Result}
      (each : program.EachCall (Program.Heeds task.verdict))
      (ends : ∀ value, (later value).EachCall (Program.Heeds task.verdict))
      (describes : ∀ failure, ∃ reported, task.verdict .stat failure = some reported) :
      (program >>= later).EachCall (task.Settles driver) := by
    apply (Program.eachCall_heeds_bind each ends).mono
    intro call next heeds
    refine settles_of_heeds (fun failure silent => ?_) heeds
    obtain ⟨reported, same⟩ := describes failure
    cases same.symm.trans silent
  cases task with
  | putContent path content =>
      have passing := @verdict_of_passing (.putContent path content)
      refine heeded ?_ (fun _ => trivial) fun failure => ⟨_, passing (fun _ => rfl) (fun _ => rfl) failure⟩
      apply eachCall_checkPath
      exact fun valid => Program.eachCall_heeds_call (passing (fun _ => rfl) fun _ => rfl)
  | getContent path =>
      have describing := @verdict_of_missing (.getContent path) .stat (fun _ => rfl) fun _ => rfl
      have downloading := @verdict_download (.getContent path) (fun _ => rfl) fun _ => rfl
      refine heeded ?_ (fun _ => trivial) fun failure => ⟨_, describing failure⟩
      exact Program.eachCall_heeds_bind (driver.eachCall_readStream path 0 describing downloading) fun _ => trivial
  | readStream path offset =>
      have describing := @verdict_of_missing (.readStream path offset) .stat (fun _ => rfl) fun _ => rfl
      have downloading := @verdict_download (.readStream path offset) (fun _ => rfl) fun _ => rfl
      refine heeded ?_ (fun _ => trivial) fun failure => ⟨_, describing failure⟩
      exact driver.eachCall_readStream path offset describing downloading
  | list path pages =>
      have passing := @verdict_of_passing (.list path pages)
      refine heeded ?_ (fun _ => trivial) fun failure => ⟨_, passing (fun _ => rfl) (fun _ => rfl) failure⟩
      exact driver.eachCall_listPath (passing (fun _ => rfl) fun _ => rfl) path pages
  | move source target =>
      have describing := @verdict_of_missing (.move source target) .stat (fun _ => rfl) fun _ => rfl
      have deleting := @verdict_of_overlooking (.move source target) .delete (fun _ => rfl) fun _ => rfl
      have moving := @verdict_of_missing (.move source target) .move (fun _ => rfl) fun _ => rfl
      refine heeded ?_ (fun _ => trivial) fun failure => ⟨_, describing failure⟩
      exact driver.eachCall_movePath source target describing deleting moving
  | delete path pages =>
      have passing := @verdict_of_passing (.delete path pages)
      have deleting := @verdict_of_overlooking (.delete path pages) .delete (fun _ => rfl) fun _ => rfl
      refine heeded ?_ (fun _ => trivial) fun failure => ⟨_, passing (fun _ => rfl) (fun _ => rfl) failure⟩
      exact driver.eachCall_deletePath (passing (fun _ => rfl) fun _ => rfl) deleting path pages
  | stat path => exact eachCall_settles_stat driver path
  | writeStream path offset reader => exact eachCall_settles_writeStream driver path offset reader

/-- What an operation goes on with does not report a refusal at once. -/
theorem category_of_resumes {σ : Type} {handler : (action : Action) → σ → Except Failure action.Reply × σ}
    {driver : Driver} {task : Task} {call : Call} {state met : σ} {next : Except Failure call.Reply → Program Result}
    (meets : (task.program driver).Meets handler call state next met) {rest : Program Result}
    (resumes : task.Resumes driver call next rest) {failure : Failure} (fails : rest.FailsWith failure) :
    IsInner failure := by
  have cleared {α : Type} {program : Program α} (each : program.EachCall (Clears Succeeds)) :
      (program >>= fun _ => pure Result.nothing).EachCall (Clears Succeeds) :=
    eachCall_clears_bind each (fun _ _ => trivial) (fun _ inner => inner) fun _ => trivial
  cases task with
  | stat path =>
      cases call with
      | stat key =>
          obtain rfl := resumes
          exact fails.elim
      | _ => cases resumes
  | writeStream path offset reader =>
      cases call with
      | stat key =>
          obtain rfl := resumes
          by_cases natural : 0 ≤ offset
          · obtain ⟨count, rfl⟩ := Int.eq_ofNat_of_zero_le natural
            exact absurd fails (driver.not_failsWith_rangeWrite _ count reader)
          · rw [rangeWrite, checkOffset, if_pos (Int.not_le.mp natural)] at fails
            obtain rfl := Except.error.inj fails
            exact isInner_ofOffset ..
      | _ => cases resumes
  | move source target =>
      cases call with
      | delete key =>
          obtain rfl := resumes
          have clears := (cleared (driver.eachCall_clears_movePath source target)).of_meets meets
          exact fails.of_atOnce clears
      | _ => cases resumes
  | delete path pages =>
      cases call with
      | delete key =>
          obtain rfl := resumes
          have clears := (cleared (driver.eachCall_clears_deletePath path pages)).of_meets meets
          exact fails.of_atOnce clears
      | _ => cases resumes
  | _ => cases resumes

/-- No call both tells an operation that its path is missing and is overlooked. -/
theorem overlooks_of_findsMissing {task : Task} {operation : Operation} {code : Int}
    (missing : task.findsMissing operation code = true) : task.overlooks operation code = false := by
  cases task <;> cases operation <;> first | rfl | cases missing

/-- Whether an operation makes of an error that a call reports what the call and the code say. -/
structure Decides (driver : Driver) (task : Task) (call : Call) (next : Except Failure call.Reply → Program Result)
    (error : ServiceError) (rest : Program Result) : Prop where
  missing : rest.FailsWith (.pathNotFound task.subject) ↔ task.findsMissing call.operation error.code = true
  resumes : task.Resumes driver call next rest ↔ task.overlooks call.operation error.code = true
  reports : rest.FailsWith (.service error) ↔
    task.findsMissing call.operation error.code = false ∧ task.overlooks call.operation error.code = false

/-- What an operation makes of an error that a call reports is decided by the call and the code. -/
theorem decides_of_meets {σ : Type} {handler : (action : Action) → σ → Except Failure action.Reply × σ}
    {driver : Driver} {task : Task} {call : Call} {state met : σ} {next : Except Failure call.Reply → Program Result}
    (meets : (task.program driver).Meets handler call state next met) (error : ServiceError) :
    task.Decides driver call next error (next (.error (.service error))) := by
  have settled := (task.eachCall_settles driver).of_meets meets (.service error)
  have resumed {rest : Program Result} := @category_of_resumes σ handler driver task call state met next meets rest
  rw [verdict] at settled
  cases finds : task.findsMissing call.operation error.code with
  | true =>
      rw [finds, if_pos rfl] at settled
      refine ⟨iff_of_true settled finds, iff_of_false ?_ ?_, iff_of_false ?_ ?_⟩
      · exact fun resumes => (resumed resumes settled).2 rfl
      · simp [overlooks_of_findsMissing finds]
      · intro reports
        cases settled.eq reports
      · simp [finds]
  | false =>
      rw [finds, if_neg Bool.false_ne_true] at settled
      cases overlooked : task.overlooks call.operation error.code with
      | true =>
          rw [overlooked, if_pos rfl] at settled
          refine ⟨iff_of_false ?_ ?_, iff_of_true settled overlooked, iff_of_false ?_ ?_⟩
          · exact fun missing => (resumed settled missing).2 rfl
          · simp [finds]
          · exact fun reports => (resumed settled reports).1 rfl
          · simp [overlooked]
      | false =>
          rw [overlooked, if_neg Bool.false_ne_true] at settled
          refine ⟨iff_of_false ?_ ?_, iff_of_false ?_ ?_, iff_of_true settled ⟨finds, overlooked⟩⟩
          · intro missing
            cases settled.eq missing
          · simp [finds]
          · exact fun resumes => (resumed resumes settled).1 rfl
          · simp [overlooked]

end Task

end PathStore.Driver
