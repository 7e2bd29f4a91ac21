/-
This file tells when the parameters of a host give settings or are refused as a configuration, and when they fail with
an error of another kind. They do so for three kinds of value alone: hosts that are no row, an integer as timeout that
no floating-point number is near, and a refused integer that is too long for the text of the refusal.
-/
import Mathlib.Algebra.Group.Int.Defs
import PathStore.Proofs.Number.Digits
import PathStore.Settings.Loader

namespace PathStore.Settings

/-- A rule that is broken names the value that it is about. -/
theorem fault_of_check {settings : Settings} {fault : ConfigurationFault} (refused : settings.check = .error fault) :
    (∃ name, fault = .missing name) ∨ fault = .unknownZone (.integer settings.zone) ∨
      fault = .timeout settings.timeout ∨ fault = .expiry settings.defaultExpiry ∨
        fault = .listLimit settings.listLimit := by
  grind [check]

namespace Parameters

/-- The failures of another kind than a refused configuration to which parameters come. -/
inductive Escapes (parameters : Parameters) : Failure → Prop where
  | hosts {zone : Int} {value : Json} (zoneRead : parameters.integer .zone 0 = .ok zone)
      (given : parameters .uploadHosts = some value) (filled : value.isTruthy = true)
      (single : value.elements? = none) : Escapes parameters .wrongType
  | timeout {zone count : Int} {hosts : List Json} (zoneRead : parameters.integer .zone 0 = .ok zone)
      (hostsRead : parameters.hosts = .ok hosts) (given : parameters .timeout = some (.integer count))
      (large : (Binary64.ofInt count).isFinite = false) : Escapes parameters (.overflow .integerAsReal)
  | rule {settings : Settings} {fault : ConfigurationFault} (loaded : parameters.unchecked = .ok settings)
      (refused : settings.check = .error fault) (long : fault.isWritable = false) :
      Escapes parameters (.value .unwritable)

variable {parameters : Parameters} {setting : Setting} {failure : Failure}

section Steps

/-- A number that is no integer is refused as a configuration. -/
theorem integer_eq_error {default : Int} (failed : parameters.integer setting default = .error failure) :
    ∃ fault, failure = .configuration fault := by
  rw [integer] at failed
  split at failed
  · cases failed
  · split at failed
    · cases failed
    · split at failed
      · cases failed
      · exact ⟨_, (Except.error.inj failed).symm⟩

theorem real_eq_error {default : Binary64} (failed : parameters.real setting default = .error failure) :
    (∃ fault, failure = .configuration fault) ∨ ∃ count, parameters setting = some (.integer count) ∧
      (Binary64.ofInt count).isFinite = false ∧ failure = .overflow .integerAsReal := by
  rw [real] at failed
  split at failed
  · cases failed
  · rename_i count given
    split at failed
    · cases failed
    · rename_i large
      exact .inr ⟨count, given, Bool.eq_false_iff.mpr large, (Except.error.inj failed).symm⟩
  · split at failed
    · cases failed
    · split at failed
      · cases failed
      · exact .inl ⟨_, (Except.error.inj failed).symm⟩

theorem hosts_eq_error_iff :
    parameters.hosts = .error failure ↔
      ∃ value, parameters .uploadHosts = some value ∧ value.isTruthy = true ∧ value.elements? = none ∧
        failure = .wrongType := by
  rw [hosts]
  cases given : parameters .uploadHosts with
  | none => exact ⟨nofun, fun ⟨_, same, _⟩ => nomatch same⟩
  | some value =>
      constructor
      · intro failed
        split at failed
        · cases failed
        · cases failed
        · rename_i same
          obtain rfl := Option.some.inj same
          split at failed
          · cases failed
          · rename_i filled
            split at failed
            · cases failed
            · rename_i single
              exact ⟨_, rfl, by simpa using filled, single, (Except.error.inj failed).symm⟩
      · rintro ⟨other, same, filled, single, rfl⟩
        obtain rfl := Option.some.inj same
        cases value with
        | text value => cases single
        | _ => simp [filled, single]

/-- The numbers of loaded settings are those that are read. -/
theorem numbers_of_unchecked {settings : Settings} (loaded : parameters.unchecked = .ok settings) :
    parameters.integer .zone 0 = .ok settings.zone ∧ (∃ value, settings.timeout = .real value) ∧
      parameters.integer .expiry 3600 = .ok settings.defaultExpiry ∧
      parameters.integer .listLimit 1000 = .ok settings.listLimit := by
  obtain ⟨zone, zoneRead, loaded⟩ := Outcome.bind_eq_ok_iff.mp loaded
  obtain ⟨hosts, -, loaded⟩ := Outcome.bind_eq_ok_iff.mp loaded
  obtain ⟨timeout, -, loaded⟩ := Outcome.bind_eq_ok_iff.mp loaded
  obtain ⟨expiry, expiryRead, loaded⟩ := Outcome.bind_eq_ok_iff.mp loaded
  obtain ⟨listLimit, limitRead, loaded⟩ := Outcome.bind_eq_ok_iff.mp loaded
  obtain rfl := Except.ok.inj loaded
  exact ⟨zoneRead, ⟨timeout, rfl⟩, expiryRead, limitRead⟩

end Steps

/-- Parameters that fail are refused as a configuration, or they escape that. -/
theorem escapes_of_failed (failed : ofParameters parameters = .error failure) :
    (∃ fault, failure = .configuration fault) ∨ parameters.Escapes failure := by
  rcases Outcome.bind_eq_error_iff.mp failed with unread | ⟨settings, loaded, refused⟩
  · rcases Outcome.bind_eq_error_iff.mp unread with failed | ⟨zone, zoneRead, unread⟩
    · exact .inl (integer_eq_error failed)
    rcases Outcome.bind_eq_error_iff.mp unread with failed | ⟨hosts, hostsRead, unread⟩
    · obtain ⟨value, given, filled, single, rfl⟩ := hosts_eq_error_iff.mp failed
      exact .inr (.hosts zoneRead given filled single)
    rcases Outcome.bind_eq_error_iff.mp unread with failed | ⟨timeout, -, unread⟩
    · rcases real_eq_error failed with configuration | ⟨count, given, large, rfl⟩
      · exact .inl configuration
      · exact .inr (.timeout zoneRead hostsRead given large)
    rcases Outcome.bind_eq_error_iff.mp unread with failed | ⟨expiry, -, unread⟩
    · exact .inl (integer_eq_error failed)
    rcases Outcome.bind_eq_error_iff.mp unread with failed | ⟨listLimit, -, unread⟩
    · exact .inl (integer_eq_error failed)
    · cases unread
  · obtain ⟨fault, broken, rfl⟩ := Outcome.mapError_eq_error_iff.mp refused
    cases long : fault.isWritable with
    | true => exact .inl ⟨fault, if_pos long⟩
    | false =>
        rw [Failure.ofFault, long]
        exact .inr (.rule loaded broken long)

/-- What escapes is what the parameters come to. -/
theorem Escapes.failed (escapes : parameters.Escapes failure) : ofParameters parameters = .error failure := by
  cases escapes with
  | hosts zoneRead given filled single =>
      have fails : parameters.hosts = .error .wrongType := hosts_eq_error_iff.mpr ⟨_, given, filled, single, rfl⟩
      rw [ofParameters, unchecked, zoneRead, fails]
      rfl
  | timeout zoneRead hostsRead given large =>
      have fails (default : Binary64) : parameters.real .timeout default = .error (.overflow .integerAsReal) := by
        simp only [real, given, large]
        rfl
      rw [ofParameters, unchecked, zoneRead, hostsRead, fails]
      rfl
  | rule loaded refused long =>
      rw [ofParameters, loaded]
      have same : Failure.ofFault _ = .value .unwritable := if_neg (Bool.eq_false_iff.mp long)
      show Except.mapError Failure.ofFault _ = _
      rw [refused, ← same]
      rfl

theorem Escapes.ne_configuration (escapes : parameters.Escapes failure) (fault : ConfigurationFault) :
    failure ≠ .configuration fault := by
  cases escapes <;> nofun

section Fits

/-- Whether hosts that count are a row, an integer as timeout is near a floating-point number, and integers are not too
long to be written. -/
structure Fits (parameters : Parameters) : Prop where
  hosts : ∀ value, parameters .uploadHosts = some value → value.isTruthy = true → value.elements?.isSome
  timeout : ∀ count, parameters .timeout = some (.integer count) → (Binary64.ofInt count).isFinite = true
  integers : ∀ setting number, parameters setting = some (.integer number) → Numeral.isWritable number = true

/-- An integer that parameters come to is written where it is given as one, read from a text or the default. -/
theorem Fits.isWritable (fits : parameters.Fits) {default number : Int} (usual : Numeral.isWritable default = true)
    (read : parameters.integer setting default = .ok number) : Numeral.isWritable number = true := by
  rw [integer] at read
  split at read
  · rename_i value given
    exact Except.ok.inj read ▸ fits.integers setting value given
  · split at read
    · exact Except.ok.inj read ▸ usual
    · rename_i text _
      cases spelled : Numeral.readInteger text with
      | error fault =>
          rw [Numeral.integer?, spelled] at read
          cases read
      | ok value =>
          rw [Numeral.integer?, spelled] at read
          exact Except.ok.inj read ▸ Numeral.isWritable_of_readInteger spelled

/-- Where parameters fit, no failure but a refused configuration comes of them. -/
theorem Fits.not_escapes (fits : parameters.Fits) : ¬parameters.Escapes failure := by
  intro escapes
  cases escapes with
  | hosts zoneRead given filled single =>
      have row := fits.hosts _ given filled
      rw [single] at row
      cases row
  | timeout zoneRead hostsRead given large =>
      rw [fits.timeout _ given] at large
      cases large
  | rule loaded refused long =>
      obtain ⟨zoneRead, ⟨timeout, timeoutRead⟩, expiryRead, limitRead⟩ := numbers_of_unchecked loaded
      rcases fault_of_check refused with ⟨name, rfl⟩ | rfl | rfl | rfl | rfl
      · cases long
      · exact Bool.eq_false_iff.mp long (fits.isWritable (by decide +kernel) zoneRead)
      · rw [timeoutRead] at long
        cases long
      · exact Bool.eq_false_iff.mp long (fits.isWritable (by decide +kernel) expiryRead)
      · exact Bool.eq_false_iff.mp long (fits.isWritable (by decide +kernel) limitRead)

end Fits
end Parameters

/-- Parameters give settings or are refused as a configuration unless they escape that, and then they fail with the
error to which they escape. None escapes if hosts that count are a row, an integer as timeout is near a floating-point
number, and integers are not too long to be written. -/
theorem ofParameters_reports_iff (parameters : Parameters) :
    let isReported := (∃ settings, ofParameters parameters = .ok settings) ∨
      ∃ fault, ofParameters parameters = .error (.configuration fault)
    (isReported ↔ ¬∃ failure, parameters.Escapes failure) ∧
      (∀ failure, parameters.Escapes failure → ofParameters parameters = .error failure) ∧
      (parameters.Fits → isReported) := by
  intro isReported
  have reports (settled : ¬∃ failure, parameters.Escapes failure) : isReported := by
    cases outcome : ofParameters parameters with
    | ok settings => exact .inl ⟨settings, outcome⟩
    | error failure =>
        rcases Parameters.escapes_of_failed outcome with ⟨fault, rfl⟩ | escapes
        · exact .inr ⟨fault, outcome⟩
        · exact absurd ⟨failure, escapes⟩ settled
  refine ⟨⟨?_, reports⟩, fun failure escapes => escapes.failed, fun fits => reports ?_⟩
  · rintro reported ⟨failure, escapes⟩
    rcases reported with ⟨settings, loaded⟩ | ⟨fault, refused⟩
    · rw [escapes.failed] at loaded
      cases loaded
    · rw [escapes.failed] at refused
      exact escapes.ne_configuration fault (Except.error.inj refused)
  · rintro ⟨failure, escapes⟩
    exact fits.not_escapes escapes

/-- Parameters with all that is required, hosts for uploads, a timeout and an expiry. -/
def Parameters.sample (hosts timeout expiry : Json) : Parameters
  | .bucket => some (.text "registry")
  | .baseUrl => some (.text "http://cdn.example.com")
  | .accessKey => some (.text "ak")
  | .secretKey => some (.text "sk")
  | .uploadHosts => some hosts
  | .timeout => some timeout
  | .expiry => some expiry
  | _ => none

/-- An expiry that is refused and too long to be written is not reported. -/
theorem Parameters.escapes_of_long_expiry {number : Int} (negative : number ≤ 0)
    (long : Numeral.isWritable number = false) :
    (sample .null .null (.integer number)).Escapes (.value .unwritable) := by
  refine @Escapes.rule _ _ (.expiry number) rfl ?_ long
  have positive : (Seconds.real (.ofInt 30)).isAtMostZero = false := by decide
  have zone : (Hosts.ofZone? 0).isNone = false := rfl
  simp [check, text, sample, Json.text?, negative, positive, zone]

/-- An object as hosts and a text that is no timeout are reported; a number as hosts, a timeout beyond all
floating-point numbers and a refused expiry of too many digits are not. -/
theorem sample_reports_or_escapes :
    (∃ fault, ofParameters (.sample (.object []) (.text "soon") .null) = .error (.configuration fault)) ∧
      ofParameters (.sample (.integer 5) .null .null) = .error .wrongType ∧
      ofParameters (.sample .null (.integer (10 ^ 400)) .null) = .error (.overflow .integerAsReal) ∧
      ofParameters (.sample .null .null (.integer (-10 ^ 4300))) = .error (.value .unwritable) := by
  refine ⟨?_, ?_, ?_, ?_⟩
  · have fits : (Parameters.sample (.object []) (.text "soon") .null).Fits := by
      refine ⟨fun value given _ => ?_, fun count given => ?_, fun setting number given => ?_⟩
      · obtain rfl := Option.some.inj given
        rfl
      · cases given
      · cases setting <;> cases given
    rcases (ofParameters_reports_iff _).2.2 fits with ⟨settings, loaded⟩ | refused
    · cases loaded
    · exact refused
  · apply (ofParameters_reports_iff _).2.1
    exact @Parameters.Escapes.hosts _ 0 (.integer 5) rfl rfl rfl rfl
  · apply (ofParameters_reports_iff _).2.1
    exact @Parameters.Escapes.timeout _ 0 (10 ^ 400) [] rfl rfl rfl (by decide +kernel)
  · apply (ofParameters_reports_iff _).2.1
    exact Parameters.escapes_of_long_expiry (by decide +kernel) (by decide +kernel)

/-- So a value of the wrong type may let another failure out than a refused configuration. -/
theorem ofParameters_may_escape :
    ¬∀ parameters : Parameters, (∃ settings, ofParameters parameters = .ok settings) ∨
      ∃ fault, ofParameters parameters = .error (.configuration fault) := by
  intro reports
  have escaped : ofParameters (.sample (.integer 5) .null .null) = .error .wrongType := rfl
  rcases reports (.sample (.integer 5) .null .null) with ⟨settings, loaded⟩ | ⟨fault, refused⟩
  · rw [escaped] at loaded
    cases loaded
  · rw [escaped] at refused
    cases refused

end PathStore.Settings
