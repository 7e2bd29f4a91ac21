/-
This file tells the exit codes of the commands that describe, list, read, delete and move. With accepted arguments the
code for wrong input still comes of an answer that is taken for wrong input, or of a listed name that is no Unicode
text, and of nothing else.
-/
import PathStore.Proofs.Console.Printing
import PathStore.Proofs.Service.Garbling
import PathStore.Workspace

namespace PathStore.Console

open PathStore.Outcome

namespace Command

/-- Whether a command describes, lists, reads, deletes or moves, with arguments that the driver accepts. -/
def IsAccepted : Command → Prop
  | .stat path | .list path => Path.isValid path true = true
  | .cat path offset => Path.isValid path = true ∧ 0 ≤ offset
  | .remove path => Path.isValid path = true
  | .move source target => Path.isValid source = true ∧ Path.isValid target = true
  | .put .. | .write .. | .url .. => False

/-- Whether a command tells when an object was stored. -/
def isTimed : Command → Bool
  | .stat _ => true
  | _ => false

/-- Whether a command passes on the keys that it is told: it deletes what is listed. -/
def PassesOn (command : Command) : Prop := ∃ path, command = .remove path

/-- An accepted command owes the failures that blame the input to what its calls are replied. -/
theorem owes_program {command : Command} (accepted : command.IsAccepted) (clock : Clock) (driver : Driver)
    (content : String → Bytes) (pages : Nat) :
    Driver.Owes command.isTimed command.PassesOn (command.program clock (.ok driver) content pages) := by
  cases command with
  | stat path => exact (driver.owes_statPath accepted).bind fun info => Program.owes_pure _
  | list path => exact (driver.owes_listPath accepted pages).bind fun paths => Program.owes_pure _
  | cat path offset =>
      have read : Driver.Owes false (PassesOn (.cat path offset))
          (do Program.ofExcept (← driver.readStream path offset).readAll) := driver.owes_readAll accepted.1 accepted.2
      have reported := read.bind fun bytes => Program.owes_pure (Report.content bytes)
      rw [bind_assoc] at reported
      exact reported
  | remove path => exact (driver.owes_deletePath ⟨path, rfl⟩ accepted pages).bind fun _ => Program.owes_pure _
  | move source target => exact (driver.owes_movePath accepted.1 accepted.2).bind fun _ => Program.owes_pure _
  | put path file => exact accepted.elim
  | write path file offset => exact accepted.elim
  | url path lifetime method => exact accepted.elim

end Command

section Coding

theorem exitCode_ofResult_ok (report : Report) :
    (Outcome.ofResult (.ok report)).exitCode = (report.output.2.map Failure.exitCode).getD 0 := by
  rw [Outcome.ofResult]
  rcases report.output with ⟨bytes, cut⟩
  cases cut <;> rfl

theorem exitCode_ofResult_le (result : Except Failure Report) : (Outcome.ofResult result).exitCode ≤ 3 := by
  have least (failure : Failure) : failure.exitCode ≤ 3 := by
    rw [Failure.exitCode]
    cases failure.category <;> decide
  cases result with
  | error failure => exact least failure
  | ok report =>
      rw [exitCode_ofResult_ok]
      cases report.output.2 with
      | none => exact Nat.zero_le 3
      | some failure => exact least failure

/-- The code for wrong input tells of a failure that blames the input, or of a report that is not written. -/
theorem exitCode_ofResult_eq_two_iff (result : Except Failure Report) :
    (Outcome.ofResult result).exitCode = 2 ↔
      Blames result ∨ ∃ report, result = .ok report ∧ report.IsUnwritable := by
  cases result with
  | error failure =>
      refine Iff.trans blames_error_iff.symm (or_iff_left ?_).symm
      rintro ⟨report, same, -⟩
      cases same
  | ok report =>
      rw [exitCode_ofResult_ok]
      simp only [Except.ok.injEq, exists_eq_left', ← report.blames_output_iff]
      refine Iff.trans ?_ (or_iff_right (not_blames_ok report)).symm
      cases report.output.2 with
      | none => exact iff_of_false (by decide : (0 : Nat) ≠ 2) nofun
      | some failure =>
          refine ⟨fun blames => ⟨failure, rfl, blames⟩, ?_⟩
          rintro ⟨other, same, blames⟩
          exact Option.some.inj same ▸ blames

end Coding

section Running

variable {σ : Type} (driver : Driver) (service : Service) (wire : Wire σ) (clock : Clock) {command : Command}
  (content : String → Bytes) (pages : Nat) (workspace : Workspace σ)

/-- A run blames the input just if it meets a call that is garbled, or describes an object without a date, or if it
deletes what is listed under a key that is no Unicode text. -/
theorem blames_run_iff (accepted : command.IsAccepted) :
    Blames (Workspace.run (service.answer wire clock) (command.program clock (.ok driver) content pages) workspace).1 ↔
      (∃ call next met, Program.Meets (Workspace.perform (service.answer wire clock)) call
          (command.program clock (.ok driver) content pages) workspace next met ∧
        (service.Garbles wire clock call met.store ∨
          command.isTimed = true ∧ service.Misdates wire call met.store)) ∨
      command.PassesOn ∧ (Workspace.run (service.answer wire clock)
        (command.program clock (.ok driver) content pages) workspace).1 = .error .unencodable := by
  have owes := command.owes_program accepted clock driver content pages
  rw [Workspace.run, owes.run_iff]
  refine or_congr_left (exists_congr fun call => exists_congr fun next => exists_congr fun met =>
    and_congr_right fun meets => ?_)
  show Driver.Confounds command.isTimed call (service.answer wire clock call met.store).1 ↔ _
  exact Service.confounds_answer_iff command.isTimed (owes.asked_of_meets meets)

/-- A run with accepted arguments exits with the code for wrong input just if one of its calls is answered by what is
taken for wrong input, or describes an object without a date, or if a listed name is no Unicode text, which is neither
deleted nor reported. Otherwise it exits with the code of a success, a missing path or an error of a service. -/
theorem exits_as_wrong_input_iff (accepted : command.IsAccepted) :
    let program := command.program clock (.ok driver) content pages
    let result := (Workspace.run (service.answer wire clock) program workspace).1
    ((Outcome.ofResult result).exitCode = 2 ↔
      (∃ call next met, Program.Meets (Workspace.perform (service.answer wire clock)) call program workspace next met ∧
        (service.Garbles wire clock call met.store ∨
          command.isTimed = true ∧ service.Misdates wire call met.store)) ∨
      command.PassesOn ∧ result = .error .unencodable ∨ ∃ report, result = .ok report ∧ report.IsUnwritable) ∧
    (Outcome.ofResult result).exitCode ≤ 3 := by
  intro program result
  refine ⟨(exitCode_ofResult_eq_two_iff result).trans ?_, exitCode_ofResult_le result⟩
  rw [← or_assoc]
  exact or_congr_left (blames_run_iff driver service wire clock content pages workspace accepted)

end Running

section Sample

/-- Settings that obey all rules and stay as they are. -/
def sampleSettings : Settings where
  bucket := "register"
  baseUrl := "http://cdn.example.com/"
  accessKey := "test-ak"
  secretKey := "test-sk"

theorem check_sampleSettings : sampleSettings.check = .ok sampleSettings := by
  have passed : sampleSettings.check = .ok { sampleSettings with
      baseUrl := if sampleSettings.baseUrl.toList.getLast? = some '/' then sampleSettings.baseUrl
        else sampleSettings.baseUrl ++ "/"
      rootDirectory := Root.dropTrailingSlashes sampleSettings.rootDirectory } := rfl
  have root : Root.dropTrailingSlashes sampleSettings.rootDirectory = sampleSettings.rootDirectory := by
    decide +kernel
  rw [passed, root, if_pos (by decide +kernel)]

/-- A description of a path begins with the description of its key. -/
theorem meets_stat (answer : (call : Call) → Unit → Except Failure call.Reply × Unit) :
    ∃ next, Program.Meets (Workspace.perform answer) (.stat "reg/a")
      ((Command.stat "/reg/a").program Driver.sampleClock (.ok (Driver.ofSettings sampleSettings)) (fun _ => []) 1)
      { store := () } next { store := () } := by
  have valid : Path.isValid "/reg/a" true = true := by decide
  have key : (Driver.ofSettings sampleSettings).root.keyFor "/reg/a" = "reg/a" := by decide +kernel
  show ∃ next, Program.Meets _ _ ((Driver.statPath _ "/reg/a").bind _) _ next _
  rw [Driver.statPath, Driver.checkPath_of_isValid valid, pure_bind, key]
  exact ⟨_, .here _ _⟩

/-- A success answers the request for the description of the key. -/
theorem exists_sent (content : Bytes) :
    ∃ request, (Service.ofSettings sampleSettings).request Driver.sampleClock (.stat "reg/a") = .ok (some request) ∧
      (Driver.answeringWire (Driver.plainResponse 200 content)).send request () =
        (.ok (Driver.plainResponse 200 content), ()) := by
  obtain ⟨request, made, absolute⟩ := Driver.exists_request_stat_sampleService
  have same : (Service.ofSettings sampleSettings).request Driver.sampleClock (.stat "reg/a") =
      Driver.sampleService.request Driver.sampleClock (.stat "reg/a") := by
    rw [Service.request, Service.request]
    rfl
  exact ⟨request, same.trans made, Driver.send_answeringWire absolute 200 content⟩

/-- A success whose body is no text garbles the description. -/
theorem garbles_undecodable :
    (Service.ofSettings sampleSettings).Garbles (Driver.answeringWire (Driver.plainResponse 200 [0xFF]))
      Driver.sampleClock (.stat "reg/a") () := by
  obtain ⟨request, requested, carried⟩ := exists_sent [0xFF]
  have undecoded : Json.decode? [0xFF] = none := by decide +kernel
  refine .misread requested ⟨congrArg Prod.fst carried, Driver.content_plainResponse 200 [0xFF]⟩ rfl rfl
    ⟨nofun, .inl ?_⟩
  rw [Json.ofBytes, undecoded]

/-- The description of an object that was stored in a year with five digits. -/
def lateAnswer : Json := .object [("putTime", .integer 10000000000000000000)]

def lateContent : Bytes := Utf8.encode (lateAnswer.write Json.spaced)

theorem isLegible_lateAnswer (room : Nat) : Json.IsLegible (room + 1) lateAnswer := by
  have time : (10000000000000000000 : Int).natAbs < 10 ^ Numeral.digitLimit := by decide +kernel
  exact ⟨by decide, List.forall_mem_singleton.mpr (Json.isLegible_integer.mpr time)⟩

theorem ofBytes_lateContent (room : Nat) : Json.ofBytes (room + 1) lateContent = .ok lateAnswer.loose := by
  have decoded : Json.decode? lateContent = some (Json.symbols (lateAnswer.write Json.spaced).toList) := by
    decide +kernel
  rw [Json.ofBytes, decoded]
  exact Json.read_write (isLegible_lateAnswer room)

theorem isDateless_lateAnswer : Instant.IsDateless (Instant.ofPutTime 10000000000000000000) := by
  have isYear : (match Instant.ofPutTime 10000000000000000000 with
      | .error (.value (.year _)) => true
      | _ => false) = true := by decide +kernel
  split at isYear
  · rename_i year dated
    exact ⟨year, dated⟩
  · cases isYear

/-- Such an object has no date. -/
theorem misdates_lateContent :
    (Service.ofSettings sampleSettings).Misdates
      (Driver.answeringWire (Driver.plainResponse 200 lateContent)) (.stat "reg/a") () := by
  obtain ⟨request, requested, carried⟩ := exists_sent lateContent
  have mapped : ((Service.ofSettings sampleSettings).managing
      ((Management.stat "reg/a").url (Service.ofSettings sampleSettings))).map some = .ok (some request) := requested
  obtain ⟨other, made, same⟩ := Outcome.map_eq_ok_iff.mp mapped
  obtain rfl := Option.some.inj same
  have described := congrArg Prod.fst
    (Service.carryOut_of_success made carried (Driver.content_plainResponse 200 _) rfl)
  have filled : ¬lateContent.isEmpty = true := by decide +kernel
  have read (status : Nat) :
      Answer.value (Service.ofSettings sampleSettings).platform.nesting status lateContent = .ok lateAnswer.loose := by
    rw [Answer.value, if_neg filled]
    exact congrArg _ (ofBytes_lateContent _)
  rw [read] at described
  exact ⟨"reg/a", { key := .text "reg/a", size := 0, putTime := 10000000000000000000 }, rfl, described,
    isDateless_lateAnswer⟩

/-- A description that is answered by no text exits with the code for wrong input. -/
theorem undecodable_description_exits_as_wrong_input :
    (Command.stat "/reg/a").IsAccepted ∧
      (Outcome.ofResult (Workspace.run ((Service.ofSettings sampleSettings).answer
          (Driver.answeringWire (Driver.plainResponse 200 [0xFF])) Driver.sampleClock)
        ((Command.stat "/reg/a").program Driver.sampleClock (.ok (Driver.ofSettings sampleSettings)) (fun _ => []) 1)
        { store := () }).1).exitCode = 2 := by
  have accepted : (Command.stat "/reg/a").IsAccepted := (by decide : Path.isValid "/reg/a" true = true)
  obtain ⟨next, meets⟩ := meets_stat ((Service.ofSettings sampleSettings).answer
    (Driver.answeringWire (Driver.plainResponse 200 [0xFF])) Driver.sampleClock)
  exact ⟨accepted, (exits_as_wrong_input_iff _ _ _ _ _ _ _ accepted).1.mpr
    (.inl ⟨_, next, _, meets, .inl garbles_undecodable⟩)⟩

/-- So settings that obey all rules and accepted arguments do not keep a run from that code. -/
theorem valid_run_may_exit_as_wrong_input :
    ¬∀ (raw settings : Settings) (wire : Wire Unit) (clock : Clock) (command : Command) (content : String → Bytes)
      (pages : Nat), raw.check = .ok settings → command.IsAccepted →
        (Outcome.ofResult (Workspace.run ((Service.ofSettings settings).answer wire clock)
          (command.program clock (.ok (Driver.ofSettings settings)) content pages) { store := () }).1).exitCode ≠
            2 := by
  intro reserved
  let wire := Driver.answeringWire (Driver.plainResponse 200 lateContent)
  have accepted : (Command.stat "/reg/a").IsAccepted := (by decide : Path.isValid "/reg/a" true = true)
  obtain ⟨next, meets⟩ := meets_stat ((Service.ofSettings sampleSettings).answer wire Driver.sampleClock)
  refine reserved sampleSettings sampleSettings wire Driver.sampleClock (.stat "/reg/a") (fun _ => []) 1
    check_sampleSettings accepted ?_
  refine (exitCode_ofResult_eq_two_iff _).mpr (.inl ((blames_run_iff _ _ _ _ _ _ _ accepted).mpr ?_))
  exact .inl ⟨_, next, _, meets, .inr ⟨rfl, misdates_lateContent⟩⟩

end Sample
end PathStore.Console
