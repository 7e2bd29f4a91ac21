/-
This file shows how a read reports that the connection breaks. A break is an error of the service with the code zero as
long as a request is sent or answered by the managing service; in the body of a download it comes out as it is.
-/
import PathStore.Proofs.Driver.Streaming
import PathStore.Proofs.Service.Requesting
import PathStore.Proofs.Stream.Breaking

namespace PathStore

variable {σ : Type}

namespace Response

/-- The bytes of a body that arrive before a break. -/
def arrived : List (Except Interruption Bytes) → Bytes
  | .ok chunk :: rest => chunk ++ arrived rest
  | _ => []

/-- A body that breaks off brings chunks up to the break. -/
theorem exists_chunks {body : List (Except Interruption Bytes)} {interruption : Interruption}
    (broken : gather body = .error interruption) :
    ∃ (chunks : List Bytes) (later : List (Except Interruption Bytes)),
      body = chunks.map .ok ++ .error interruption :: later ∧ chunks.flatten = arrived body := by
  induction body with
  | nil => cases broken
  | cons first rest ih =>
      cases first with
      | error other =>
          obtain rfl := Except.error.inj broken
          exact ⟨[], rest, rfl, rfl⟩
      | ok chunk =>
          obtain ⟨chunks, later, rfl, same⟩ := ih (Outcome.map_eq_error_iff.mp broken)
          refine ⟨chunk :: chunks, later, rfl, ?_⟩
          rw [List.flatten_cons, same]
          rfl

end Response

/-- The moments at which the connection breaks in a download: while its request is sent and redirects are followed, in
the body of a refusal, and in the content. -/
inductive Moment where
  | sending
  | refusing
  | delivering

namespace Moment

/-- The failure as which a break in the download of a key comes out. -/
def failure (key : String) (interruption : Interruption) : Moment → Failure
  | .sending => Service.downloadFailure key interruption
  | .refusing | .delivering => .interrupted interruption

/-- Whether what a download comes to reports a failure: at once, or by the reads of the stream that it gives, behind
what has arrived of the content. -/
def IsReported (moment : Moment) (arrived : Bytes) (outcome : Except Failure Stream) (failure : Failure) : Prop :=
  match moment with
  | .sending | .refusing => outcome = .error failure
  | .delivering => ∃ stream, outcome = .ok stream ∧ stream.BreaksOff arrived failure

/-- A break is an error of the service just if it comes while the request is sent. -/
theorem isService_failure_iff (moment : Moment) (key : String) (interruption : Interruption) :
    (∃ error, moment.failure key interruption = .service error ∧ error.code = 0) ↔ moment = .sending := by
  cases moment with
  | sending => exact iff_of_true ⟨_, rfl, rfl⟩ rfl
  | refusing => exact iff_of_false nofun nofun
  | delivering => exact iff_of_false nofun nofun

/-- All that is left of a download that breaks cannot be had. -/
theorem IsReported.readAll {moment : Moment} {arrived : Bytes} {outcome : Except Failure Stream} {failure : Failure}
    (reported : moment.IsReported arrived outcome failure) : outcome.bind Stream.readAll = .error failure := by
  cases moment with
  | delivering =>
      obtain ⟨stream, rfl, breaks⟩ := reported
      exact (breaks.fails_iff [] (-1) ⟨by decide, by decide⟩ List.not_mem_nil).mpr (.inl (by decide))
  | _ => exact congrArg (Except.bind · Stream.readAll) reported

end Moment

namespace Service

section Broken

variable (service : Service) (wire : Wire σ) (clock : Clock) (key : String) (offset : Int) (state : σ)

/-- Whether the connection breaks at a moment of the download of a key, with what has arrived of the content. -/
inductive BreaksAt : Moment → Interruption → Bytes → Prop where
  | sending {found : Url.Address} {interruption : Interruption} {after : σ}
      (located : service.downloadUrl clock key offset = .ok found)
      (broken : wire.send (downloadRequest found offset) state = (.error (.interrupted interruption), after)) :
      BreaksAt .sending interruption []
  | refusing {found : Url.Address} {interruption : Interruption} {response : Response} {after : σ}
      (located : service.downloadUrl clock key offset = .ok found)
      (answered : wire.send (downloadRequest found offset) state = (.ok response, after))
      (refused : response.isSuccess = false) (broken : response.content = .error interruption) :
      BreaksAt .refusing interruption []
  | delivering {found : Url.Address} {interruption : Interruption} {response : Response} {after : σ}
      (located : service.downloadUrl clock key offset = .ok found)
      (answered : wire.send (downloadRequest found offset) state = (.ok response, after))
      (success : response.isSuccess = true) (broken : response.content = .error interruption) :
      BreaksAt .delivering interruption ((Response.arrived response.body).drop (bodyFrom response offset).skip)

/-- Whether the connection breaks while a key is described: before the answer has arrived whole. -/
def BreaksDescribing (interruption : Interruption) : Prop :=
  ∃ request after, service.managing (.ok (service.statUrl key)) = .ok request ∧
    (wire.send request state = (.error (.interrupted interruption), after) ∨
      ∃ response, wire.send request state = (.ok response, after) ∧ response.content = .error interruption)

end Broken

variable {service : Service} {wire : Wire σ} {clock : Clock} {key : String} {offset : Int} {state : σ}
  {interruption : Interruption}

/-- A break in a download comes out as its moment says. -/
theorem isReported_download {moment : Moment} {arrived : Bytes}
    (breaks : service.BreaksAt wire clock key offset state moment interruption arrived) :
    moment.IsReported arrived (service.download wire clock key offset state).1 (moment.failure key interruption) := by
  cases breaks with
  | sending located broken =>
      rw [download, located]
      dsimp only
      rw [broken]
      rfl
  | refusing located answered refused broken =>
      rw [download, located]
      dsimp only
      rw [answered]
      dsimp only
      rw [refused, broken]
      rfl
  | delivering located answered success broken =>
      obtain ⟨chunks, later, split, same⟩ := Response.exists_chunks broken
      rw [download_of_success located answered success, ← same]
      exact ⟨_, rfl, Stream.breaksOff_of_breaks ⟨chunks, later, split, rfl⟩⟩

/-- A break while a key is described is an error of the service. -/
theorem stat_of_breaksDescribing (breaks : service.BreaksDescribing wire key state interruption) :
    (service.stat wire key state).1 = .error (networkFailure (service.statUrl key) interruption) := by
  obtain ⟨request, after, made, broken⟩ := breaks
  obtain ⟨_, same, rest⟩ := Outcome.bind_eq_ok_iff.mp made
  obtain rfl := Except.ok.inj same
  obtain ⟨authorization, signed, built⟩ := Outcome.bind_eq_ok_iff.mp rest
  have posted : (service.post wire (service.statUrl key) (signedRequest authorization) state).1 =
      .error (networkFailure (service.statUrl key) interruption) := by
    rw [post, built]
    dsimp only
    rcases broken with broken | ⟨response, answered, broken⟩
    · rw [broken]
    · rw [answered]
      dsimp only
      rw [broken]
  rw [stat, manage_eq_post wire state signed]
  dsimp only
  rw [posted]
  rfl

end Service

namespace Driver

section Read

variable (driver : Driver) (service : Service) (wire : Wire σ) (clock : Clock) (workspace : Workspace σ) {path : String}
  (valid : Path.isValid path = true)

/-- All content at a path is what a read from its start gives. -/
theorem run_getContent_eq_readAll (path : String) :
    (Workspace.run (service.answer wire clock) (driver.getContent path) workspace).1 =
      (Workspace.run (service.answer wire clock) (driver.readStream path 0) workspace).1.bind Stream.readAll := by
  rw [(Workspace.run_alone (service.answer wire clock) (driver.getContent path) workspace).1,
    (Workspace.run_alone (service.answer wire clock) (driver.readStream path 0) workspace).1, getContent,
    Program.run_bind]
  rcases (driver.readStream path 0).run _ workspace.store with ⟨outcome, after⟩
  cases outcome <;> rfl

variable {offset : Int} (natural : 0 ≤ offset) {interruption : Interruption}
include valid natural

/-- A break in the download of a read comes out as it does of the download. -/
theorem isReported_readStream {info : ObjectInfo} {described : σ}
    (stated : service.stat wire (driver.root.keyFor path) workspace.store = (.ok info, described))
    (begun : offset < info.size) {moment : Moment} {arrived : Bytes}
    (breaks : service.BreaksAt wire clock (driver.root.keyFor path) offset described moment interruption arrived) :
    moment.IsReported arrived (Workspace.run (service.answer wire clock) (driver.readStream path offset) workspace).1
      (moment.failure (driver.root.keyFor path) interruption) := by
  have reported := Service.isReported_download breaks
  have kept : isMissingDownload (moment.failure (driver.root.keyFor path) interruption) = false := by
    cases moment <;> rfl
  have asked : service.answer wire clock (.download (driver.root.keyFor path) offset) described =
      service.download wire clock (driver.root.keyFor path) offset described := rfl
  rw [(Workspace.run_alone (service.answer wire clock) (driver.readStream path offset) workspace).1,
    run_readStream (service.answer wire clock) workspace.hasDirectory workspace.store driver valid natural stated,
    if_neg (Int.not_le.mpr begun), asked]
  cases moment with
  | delivering =>
      obtain ⟨stream, opened, breaks⟩ := reported
      rw [opened]
      exact ⟨stream, rfl, breaks⟩
  | _ =>
      rw [show _ = Except.error _ from reported, Except.mapError, kept]
      rfl

omit natural in
/-- All content at a path cannot be had where its download breaks. -/
theorem getContent_of_breaksAt {info : ObjectInfo} {described : σ}
    (stated : service.stat wire (driver.root.keyFor path) workspace.store = (.ok info, described))
    (begun : 0 < info.size) {moment : Moment} {arrived : Bytes}
    (breaks : service.BreaksAt wire clock (driver.root.keyFor path) 0 described moment interruption arrived) :
    (Workspace.run (service.answer wire clock) (driver.getContent path) workspace).1 =
      .error (moment.failure (driver.root.keyFor path) interruption) := by
  have reported :=
    isReported_readStream driver service wire clock workspace valid (Int.le_refl 0) stated begun breaks
  rw [run_getContent_eq_readAll]
  exact reported.readAll

/-- A read whose description of its path fails in another way than by a missing key fails alike. -/
theorem readStream_of_undescribed {failure : Failure} (known : failure.isNoSuchKey = false)
    (failed : (service.stat wire (driver.root.keyFor path) workspace.store).1 = .error failure) :
    (Workspace.run (service.answer wire clock) (driver.readStream path offset) workspace).1 = .error failure := by
  obtain ⟨described, stated⟩ : ∃ described,
      service.answer wire clock (.stat (driver.root.keyFor path)) workspace.store = (.error failure, described) :=
    ⟨_, Prod.ext failed rfl⟩
  have checked : checkOffset driver.host path offset = pure () := if_neg (Int.not_lt.mpr natural)
  rw [(Workspace.run_alone (service.answer wire clock) (driver.readStream path offset) workspace).1]
  simp only [readStream, checkPath_of_isValid valid, checked, pure_bind, Program.run_bind, Program.run_recover,
    run_stat, stated, missingPath, known]
  rfl

end Read

/-- A break of the connection while a path is read is an error of the service with the code zero just if it comes while
the path is described or the request for the download is sent. In the body of a refusal and in the content it comes out
as it is: from opening the download and reading the path in the first case, and in the second by the reads of the
stream that both give. All content at the path fails as those reads do. -/
theorem break_is_service_error_iff (service : Service) (wire : Wire σ) (clock : Clock) :
    (∀ key offset state moment interruption arrived,
      service.BreaksAt wire clock key offset state moment interruption arrived →
        moment.IsReported arrived (service.download wire clock key offset state).1 (moment.failure key interruption) ∧
          ((∃ error, moment.failure key interruption = .service error ∧ error.code = 0) ↔ moment = .sending)) ∧
    ∀ (driver : Driver) (workspace : Workspace σ) path offset interruption, Path.isValid path = true → 0 ≤ offset →
      (∀ info described moment arrived,
        service.stat wire (driver.root.keyFor path) workspace.store = (.ok info, described) → offset < info.size →
        service.BreaksAt wire clock (driver.root.keyFor path) offset described moment interruption arrived →
          moment.IsReported arrived
              (Workspace.run (service.answer wire clock) (driver.readStream path offset) workspace).1
              (moment.failure (driver.root.keyFor path) interruption) ∧
            (offset = 0 → (Workspace.run (service.answer wire clock) (driver.getContent path) workspace).1 =
              .error (moment.failure (driver.root.keyFor path) interruption))) ∧
      (service.BreaksDescribing wire (driver.root.keyFor path) workspace.store interruption →
        ∃ error, error.code = 0 ∧
          (Workspace.run (service.answer wire clock) (driver.readStream path offset) workspace).1 =
            .error (.service error) ∧
          (Workspace.run (service.answer wire clock) (driver.getContent path) workspace).1 =
            .error (.service error)) := by
  refine ⟨fun key offset state moment interruption arrived breaks =>
    ⟨Service.isReported_download breaks, moment.isService_failure_iff key interruption⟩,
    fun driver workspace path offset interruption valid natural => ⟨?_, fun breaks => ?_⟩⟩
  · intro info described moment arrived stated begun breaks
    refine ⟨isReported_readStream driver service wire clock workspace valid natural stated begun breaks, ?_⟩
    rintro rfl
    exact getContent_of_breaksAt driver service wire clock workspace valid stated begun breaks
  · have failed := Service.stat_of_breaksDescribing breaks
    refine ⟨_, rfl, readStream_of_undescribed driver service wire clock workspace valid natural rfl failed, ?_⟩
    rw [run_getContent_eq_readAll,
      readStream_of_undescribed driver service wire clock workspace valid (Int.le_refl 0) rfl failed]
    rfl

section Sample

def sampleBreak : Interruption := ⟨"ReadError", "boom"⟩

/-- The wire that describes an object of three bytes, and brings something when it is asked for content. -/
def breakingWire (download : Except Interruption Response) : Wire Unit := .keeping fun request state =>
  (if request.method = .post then .ok sampleResponse else download, state)

theorem stat_breakingWire (download : Except Interruption Response) :
    ∃ info, info.size = 3 ∧ sampleService.stat (breakingWire download) "reg/a" () = (.ok info, ()) :=
  stat_of_describing fun request posted => by
    show (if request.method = .post then Except.ok sampleResponse else download, ()) = _
    rw [if_pos posted]

/-- A response whose body breaks off behind two bytes. -/
def brokenResponse (status : Nat) : Response :=
  { status, body := [.ok [97, 98], .error sampleBreak], isWhole := false }

theorem carried_breakingWire (download : Except Interruption Response) (found : Url.Address) (offset : Int) :
    breakingWire download (Service.downloadRequest found offset).withUser () = (download, ()) := by
  obtain ⟨authorization, same⟩ := (Service.downloadRequest found offset).withUser_eq
  rw [same]
  rfl

/-- The run of a read of all content below a root directory over this wire. -/
def breakingRun (download : Except Interruption Response) : Except Failure Bytes × Workspace Unit :=
  Workspace.run (sampleService.answer (breakingWire download) sampleClock)
    (getContent ⟨.ofDirectory "/reg/", 10, 60, .standard⟩ "/a") { store := () }

theorem breakingRun_of_breaksAt {download : Except Interruption Response} {moment : Moment} {arrived : Bytes}
    (breaks : sampleService.BreaksAt (breakingWire download) sampleClock "reg/a" 0 () moment sampleBreak arrived) :
    (breakingRun download).1 = .error (moment.failure "reg/a" sampleBreak) := by
  have key : (⟨.ofDirectory "/reg/", 10, 60, .standard⟩ : Driver).root.keyFor "/a" = "reg/a" := by decide
  obtain ⟨info, size, described⟩ := stat_breakingWire download
  have failed := getContent_of_breaksAt ⟨.ofDirectory "/reg/", 10, 60, .standard⟩ sampleService (breakingWire download)
    sampleClock { store := () } (by decide : Path.isValid "/a" = true) (key ▸ described) (by omega) (key ▸ breaks)
  rw [key] at failed
  rw [breakingRun, failed]

end Sample

/-- A break before the answer to a download is an error of the service with the code zero. -/
theorem getContent_reports_broken_request :
    ∃ error, error.code = 0 ∧ (breakingRun (.error sampleBreak)).1 = .error (.service error) := by
  have key : (⟨.ofDirectory "/reg/", 10, 60, .standard⟩ : Driver).root.keyFor "/a" = "reg/a" := by decide
  obtain ⟨info, size, described⟩ := stat_breakingWire (.error sampleBreak)
  obtain ⟨found, asked, -⟩ := exists_address_sampleService
  have located : sampleService.downloadUrl sampleClock "reg/a" 0 = .ok found := (Service.downloadUrl_eq rfl).trans asked
  have breaks : sampleService.BreaksAt (breakingWire (.error sampleBreak)) sampleClock "reg/a" 0 () .sending
      sampleBreak [] := .sending located (Wire.send_of_break (carried_breakingWire _ found 0))
  obtain ⟨opens, reads⟩ := break_is_service_error_iff sampleService (breakingWire (.error sampleBreak)) sampleClock
  obtain ⟨downloads, -⟩ :=
    reads ⟨.ofDirectory "/reg/", 10, 60, .standard⟩ { store := () } "/a" 0 sampleBreak (by decide) (Int.le_refl 0)
  obtain ⟨-, failed⟩ := downloads info () .sending [] (key ▸ described) (by omega) (key ▸ breaks)
  obtain ⟨error, same, zero⟩ := (opens _ _ _ _ _ _ breaks).2.mpr rfl
  refine ⟨error, zero, ?_⟩
  rw [breakingRun, failed rfl, key, same]

/-- A break in the body of a refusal or of the content comes out of a read of all content as it is. -/
theorem getContent_leaks_break :
    (breakingRun (.ok (brokenResponse 500))).1 = .error (.interrupted sampleBreak) ∧
      (breakingRun (.ok (brokenResponse 200))).1 = .error (.interrupted sampleBreak) := by
  obtain ⟨found, asked, absolute⟩ := exists_address_sampleService
  have located : sampleService.downloadUrl sampleClock "reg/a" 0 = .ok found := (Service.downloadUrl_eq rfl).trans asked
  have answered (status : Nat) (stays : (brokenResponse status).location? = none) :
      (breakingWire (.ok (brokenResponse status))).send (Service.downloadRequest found 0) () =
        (.ok (brokenResponse status), ()) :=
    Wire.send_of_answer (carried_breakingWire _ found 0) absolute stays
  constructor
  · exact breakingRun_of_breaksAt (.refusing located (answered 500 (by decide)) (by decide) rfl)
  · exact breakingRun_of_breaksAt (.delivering located (answered 200 (by decide)) (by decide) rfl)

end Driver
end PathStore
