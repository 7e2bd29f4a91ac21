/-
This file shows what an operation over HTTP makes of a response that refuses one of its requests. A refusal with a
legible body is an error of the service, of which the operation makes what the call and the status say.
-/
import PathStore.Proofs.Driver.Downloading
import PathStore.Proofs.Driver.Heeding
import PathStore.Proofs.Json.Reading
import PathStore.Proofs.Service.Refusing
import PathStore.Proofs.Service.Requesting

namespace PathStore.Driver

section Refused

variable {σ : Type} {service : Service} {wire : Wire σ} {clock : Clock} {call : Call} {met : Workspace σ}
  {response : Response} {content : Bytes} {after : σ}

/-- An operation whose request is refused goes on with the refusal. -/
theorem run_of_refuses {α : Type} {program : Program α} {workspace : Workspace σ}
    {next : Except Failure call.Reply → Program α}
    (meets : program.Meets (Workspace.perform (service.answer wire clock)) call workspace next met)
    (refuses : service.Refuses wire clock call met.store response content after) :
    Workspace.run (service.answer wire clock) program workspace =
      Workspace.run (service.answer wire clock) (next (.error (Answer.refusal service.platform response content)))
        { met.note (.store call) with store := after } := by
  have performed : Workspace.perform (service.answer wire clock) (.store call) met =
      (.error (Answer.refusal service.platform response content), { met.note (.store call) with store := after }) := by
    simp only [Workspace.perform, Workspace.note, refuses.answer_eq]
  rw [Workspace.run, meets.run_eq, performed]
  rfl

end Refused

/-- A response that refuses a request of an operation over HTTP decides how the operation goes on. If its body is
legible, the operation reports its path as missing, takes its next step, or reports the status and what the body says,
each exactly for the calls and codes that say so. Else it fails in a way that is no failure of a storage. -/
theorem refusal_decides_operation {σ : Type} (driver : Driver) (service : Service) (wire : Wire σ) (clock : Clock)
    (task : Task) (workspace : Workspace σ) {call : Call} {next : Except Failure call.Reply → Program Task.Result}
    {met : Workspace σ} {response : Response} {content : Bytes} {after : σ}
    (meets : (task.program driver).Meets (Workspace.perform (service.answer wire clock)) call workspace next met)
    (refuses : service.Refuses wire clock call met.store response content after) :
    let rest := next (.error (Answer.refusal service.platform response content))
    Workspace.run (service.answer wire clock) (task.program driver) workspace =
        Workspace.run (service.answer wire clock) rest { met.note (.store call) with store := after } ∧
      (∀ text, Answer.IsLegible service.platform response content text → task.Decides driver call next
        ⟨response.status, Answer.messageOf service.platform content text, response.header? "X-Reqid"⟩ rest) ∧
      ((∀ text, ¬Answer.IsLegible service.platform response content text) →
        ∃ failure, rest.FailsWith failure ∧ failure.category.isStorage = false) := by
  intro rest
  refine ⟨run_of_refuses meets refuses, ?_, ?_⟩
  · intro text legible
    have refused := Answer.refusal_of_isLegible legible
    simp only [rest, refused]
    exact Task.decides_of_meets meets _
  · intro illegible
    have foreign := Answer.isStorage_refusal illegible
    refine ⟨Answer.refusal service.platform response content, ?_, foreign⟩
    have settled := (task.eachCall_settles driver).of_meets meets (Answer.refusal service.platform response content)
    cases refused : Answer.refusal service.platform response content with
    | service error =>
        rw [refused] at foreign
        cases foreign
    | _ =>
        rw [refused] at settled
        simp only [rest, refused]
        exact settled

section Sample

/-- A response without headers whose body arrives at once. -/
def plainResponse (status : Nat) (content : Bytes) : Response := { status, body := [.ok content] }

/-- The wire that brings one response whatever is asked for. -/
def answeringWire (response : Response) : Wire Unit := .keeping fun _ state => (.ok response, state)

theorem content_plainResponse (status : Nat) (content : Bytes) : (plainResponse status content).content = .ok content :=
  congrArg Except.ok (List.append_nil content)

/-- A response without headers answers every request that has a scheme. -/
theorem send_answeringWire {request : Request} (absolute : request.address.scheme ≠ "") (status : Nat)
    (content : Bytes) :
    (answeringWire (plainResponse status content)).send request () = (.ok (plainResponse status content), ()) := by
  have stays : (plainResponse status content).location? = none := by
    rw [Response.location?]
    split <;> rfl
  exact Wire.send_of_answer rfl absolute stays

theorem exists_request_stat_sampleService :
    ∃ request, sampleService.request sampleClock (.stat "reg/a") = .ok (some request) ∧
      request.address.scheme ≠ "" := by
  have written : sampleService.statUrl "reg/a" = "http://rs.qbox.me/stat/cmVnaXN0ZXI6cmVnL2E=" := by decide +kernel
  have spelled : Credentials.requestText "http://rs.qbox.me/stat/cmVnaXN0ZXI6cmVnL2E=" =
      .ok "/stat/cmVnaXN0ZXI6cmVnL2E=\n" := Outcome.toOption_eq_some_iff.mp (by decide +kernel)
  have located : Service.address "http://rs.qbox.me/stat/cmVnaXN0ZXI6cmVnL2E=" =
      .ok ⟨"http", "", "rs.qbox.me", none, "/stat/cmVnaXN0ZXI6cmVnL2E=", none, none⟩ :=
    Outcome.toOption_eq_some_iff.mp (by decide +kernel)
  have made := Service.managing_of_isPlain (by decide : sampleService.credentials.IsPlain) spelled located
  rw [Service.request, written, made]
  exact ⟨_, rfl, (by decide : "http" ≠ "")⟩

/-- A wire that brings a refusal refuses the description of a key. -/
theorem refuses_stat {status : Nat} (refused : (plainResponse status []).isSuccess = false) (content : Bytes) :
    sampleService.Refuses (answeringWire (plainResponse status content)) sampleClock (.stat "reg/a") ()
      (plainResponse status content) content () := by
  obtain ⟨request, made, absolute⟩ := exists_request_stat_sampleService
  exact ⟨⟨request, made, send_answeringWire absolute status content⟩, refused, content_plainResponse status content⟩

/-- A read below a root directory begins with the description of its key. -/
theorem meets_stat (answer : (call : Call) → Unit → Except Failure call.Reply × Unit) :
    ∃ next, (Task.program ⟨.ofDirectory "/reg/", 10, 60, .standard⟩ (.getContent "/a")).Meets (Workspace.perform answer)
      (.stat "reg/a") { store := () } next { store := () } := by
  have valid : Path.isValid "/a" = true := by decide
  have key : (⟨.ofDirectory "/reg/", 10, 60, .standard⟩ : Driver).root.keyFor "/a" = "reg/a" := by decide
  rw [Task.program, getContent, readStream, checkPath_of_isValid valid, pure_bind]
  show ∃ next, (Program.act (.store (.stat (Root.keyFor _ "/a"))) _).Meets _ _ _ next _
  rw [key]
  exact ⟨_, .here _ _⟩

theorem refusal_of_ones (platform : Platform) (status : Nat) {count : Nat} (many : Numeral.digitLimit < count) :
    Answer.refusal platform (plainResponse status (List.replicate count 49)) (List.replicate count 49) =
      .value (.tooManyDigits count) := by
  have read (content : Bytes) : ∃ text, Answer.text platform (plainResponse status content) content = .ok text := by
    rw [Answer.text]
    simp only [bind, Except.bind, pure, Except.pure]
    split
    · exact ⟨_, rfl⟩
    · exact ⟨_, rfl⟩
  obtain ⟨text, read⟩ := read (List.replicate count 49)
  have named : Answer.namedError? platform.nesting (List.replicate count 49) =
      .error (.value (.tooManyDigits count)) := by
    rw [Answer.namedError?, Json.ofBytes_ones _ many]
  rw [Answer.refusal, Answer.refusedWith, read]
  simp only [bind, Except.bind, named]

end Sample

/-- A read whose description is answered with the status for a missing key reports its path as missing. -/
theorem getContent_of_missing_key :
    (Workspace.run (sampleService.answer (answeringWire (plainResponse 612 [])) sampleClock)
      (Task.program ⟨.ofDirectory "/reg/", 10, 60, .standard⟩ (.getContent "/a")) { store := () }).1 =
        .error (.pathNotFound "/a") := by
  obtain ⟨next, meets⟩ := meets_stat (sampleService.answer (answeringWire (plainResponse 612 [])) sampleClock)
  have legible : Answer.IsLegible sampleService.platform (plainResponse 612 []) [] "" := by
    refine ⟨rfl, ?_⟩
    rintro (⟨count, held⟩ | held) <;> cases held
  obtain ⟨ran, decided, -⟩ := refusal_decides_operation _ sampleService _ sampleClock _ _ meets
    (refuses_stat (by decide) [])
  have missing := (decided "" legible).missing.mpr (by decide)
  rw [ran]
  exact missing.run_eq _ _

/-- A refusal whose body is an integer of too many digits ends a read neither with its status nor as a missing path. -/
theorem getContent_escapes_refusal :
    sampleService.Refuses (answeringWire (plainResponse 500 (List.replicate 4301 49))) sampleClock (.stat "reg/a") ()
        (plainResponse 500 (List.replicate 4301 49)) (List.replicate 4301 49) () ∧
      (Workspace.run (sampleService.answer (answeringWire (plainResponse 500 (List.replicate 4301 49))) sampleClock)
        (Task.program ⟨.ofDirectory "/reg/", 10, 60, .standard⟩ (.getContent "/a")) { store := () }).1 =
          .error (.value (.tooManyDigits 4301)) := by
  have refuses := @refuses_stat 500 (by decide) (List.replicate 4301 49)
  refine ⟨refuses, ?_⟩
  obtain ⟨next, meets⟩ := meets_stat
    (sampleService.answer (answeringWire (plainResponse 500 (List.replicate 4301 49))) sampleClock)
  have settled := (Task.eachCall_settles _ _).of_meets meets (.value (.tooManyDigits 4301))
  rw [run_of_refuses meets refuses, refusal_of_ones _ 500 (by decide +kernel)]
  exact settled.run_eq _ _

end PathStore.Driver
