/-
This file tells what is known of settings that have been loaded. They obey every rule but two. A timeout that is no
number is not refused, and what parameters give as the hosts for uploads in a row is taken as it is.
-/
import PathStore.Proofs.Root.RoundTrip
import PathStore.Proofs.Settings.Loading
import PathStore.Proofs.Settings.Parameters

namespace PathStore

/-- Whether a number is above zero, which what is no number is not. -/
def Binary64.IsPositive : Binary64 → Prop
  | .finite negative significand _ => negative = false ∧ 0 < significand
  | .infinite negative => negative = false
  | .nan => False

/-- Whether a time span is above zero. -/
def Seconds.IsPositive : Seconds → Prop
  | .whole count => 0 < count
  | .real value => value.IsPositive

/-- A number that is not at most zero is above zero, or no number. -/
theorem Binary64.isPositive_iff {value : Binary64} (passed : value.isAtMostZero = false) :
    value.IsPositive ↔ value ≠ .nan := by
  cases value with
  | finite negative significand exponent =>
      obtain ⟨positive, filled⟩ := Bool.or_eq_false_iff.mp passed
      exact iff_of_true ⟨positive, Nat.pos_of_ne_zero (of_decide_eq_false filled)⟩ nofun
  | infinite negative => exact iff_of_true passed nofun
  | nan => exact iff_of_false id (not_not_intro rfl)

namespace Json

/-- Whether a value is a text that names something. -/
def IsName : Json → Prop
  | .text name => name ≠ ""
  | _ => False

/-- Whether the items of an array and the names of an object name something. -/
def NamesEach : Json → Prop
  | .array items => ∀ item ∈ items, item.IsName
  | .object members => ∀ entry ∈ members, entry.1 ≠ ""
  | _ => True

/-- Whether a value stands for what is no number. -/
def StandsForNan : Json → Prop
  | .real value => value = .nan
  | .text numeral => Numeral.real? numeral = some .nan
  | _ => False

end Json

namespace Settings

/-- The rules that settings obey whatever their timeout and their hosts for uploads are. -/
structure IsOrderly (settings : Settings) : Prop where
  bucket : settings.bucket ≠ ""
  baseUrl : settings.baseUrl ≠ ""
  accessKey : settings.accessKey ≠ ""
  secretKey : settings.secretKey ≠ ""
  baseUrlEnds : ∃ rest, settings.baseUrl = rest ++ "/"
  rootDirectory : ∀ rest, settings.rootDirectory ≠ rest ++ "/"
  zone : (Hosts.ofZone? settings.zone).isSome = true
  defaultExpiry : 0 < settings.defaultExpiry
  listLimit : 1 ≤ settings.listLimit ∧ settings.listLimit ≤ 1000
  upload : settings.hosts.upload ≠ []

/-- Whether uploads go to hosts that have names. -/
def NamesUploads (settings : Settings) : Prop := ∀ host ∈ settings.hosts.upload, host.IsName

section Check

/-- A text with a slash at its end ends with one. -/
theorem exists_append_slash {text : String} (ends : text.toList.getLast? = some '/') :
    ∃ rest, text = rest ++ "/" := by
  obtain ⟨front, same⟩ := List.getLast?_eq_some_iff.mp ends
  exact ⟨String.ofList front, String.ext (by simp [same])⟩

/-- A step behind a rule is reached if the rule is not broken. -/
theorem ite_error_eq_ok_iff {ε α : Type} {broken : Prop} [Decidable broken] {fault : ε} {rest : Except ε α}
    {value : α} : (if broken then .error fault else rest) = .ok value ↔ ¬broken ∧ rest = .ok value := by
  by_cases holds : broken
  · rw [if_pos holds]
    exact iff_of_false nofun fun both => both.1 holds
  · rw [if_neg holds, and_iff_right holds]

/-- The hosts of a zone for uploads have names. -/
theorem isName_of_ofZone? {zone : Int} {hosts : Hosts} (known : Hosts.ofZone? zone = some hosts) :
    hosts.upload ≠ [] ∧ ∀ host ∈ hosts.upload, host.IsName := by
  rw [Hosts.ofZone?] at known
  split at known
  · obtain rfl := Option.some.inj known
    simp [Json.IsName]
  · split at known
    · obtain rfl := Option.some.inj known
      simp [Json.IsName]
    · cases known

/-- In a known zone uploads go to hosts that have names if those do that take the place of the hosts of the zone. -/
theorem upload_of_zone {settings : Settings} (zone : (Hosts.ofZone? settings.zone).isSome = true) :
    settings.hosts.upload ≠ [] ∧ (settings.NamesUploads ↔ ∀ host ∈ settings.uploadHosts, host.IsName) := by
  obtain ⟨usual, known⟩ := Option.isSome_iff_exists.mp zone
  obtain ⟨filled, named⟩ := isName_of_ofZone? known
  rw [NamesUploads, hosts, known]
  cases settings.uploadHosts with
  | nil => exact ⟨filled, iff_of_true named (List.forall_mem_nil _)⟩
  | cons host rest => exact ⟨List.cons_ne_nil host rest, Iff.rfl⟩

/-- Settings that pass the check obey all rules but two, keep their hosts for uploads, and have a timeout that is not
at most zero. -/
theorem passed_of_check {settings checked : Settings} (passed : settings.check = .ok checked) :
    checked.IsOrderly ∧ checked.uploadHosts = settings.uploadHosts ∧ checked.timeout = settings.timeout ∧
      settings.timeout.isAtMostZero = false := by
  simp only [check, ite_error_eq_ok_iff, not_or, Int.not_le, Int.not_lt, Bool.not_eq_true] at passed
  obtain ⟨bucket, baseUrl, accessKey, secretKey, zone, timeout, expiry, ⟨positive, bounded⟩, same⟩ := passed
  have known : (Hosts.ofZone? settings.zone).isSome = true := Option.isNone_eq_false_iff.mp zone
  have ends : ∃ rest, (if settings.baseUrl.toList.getLast? = some '/' then settings.baseUrl
      else settings.baseUrl ++ "/") = rest ++ "/" := by
    split
    · rename_i ended
      exact exists_append_slash ended
    · exact ⟨settings.baseUrl, rfl⟩
  obtain rfl := Except.ok.inj same
  refine ⟨?_, rfl, rfl, timeout⟩
  exact {
    bucket, accessKey, secretKey
    baseUrl := by
      obtain ⟨rest, same⟩ := ends
      exact fun empty => absurd (String.append_eq_empty_iff.mp (same.symm.trans empty)).2 (by decide)
    baseUrlEnds := ends
    rootDirectory := Root.dropTrailingSlashes_ne settings.rootDirectory
    zone := known
    defaultExpiry := expiry
    listLimit := ⟨positive, bounded⟩
    upload := (upload_of_zone known).1 }

end Check

section Loaded

/-- What agrees with a value that was read is that value. -/
theorem Agree.eq_ok {α : Type} {value : α} {other : Except Failure α} (agree : Agree (.ok value) other) :
    other = .ok value := by
  cases agree with
  | ok => rfl

/-- The hosts of a text between commas have names. -/
theorem isName_of_mem_splitHosts (text : String) : ∀ host ∈ (splitHosts text).map Json.text, host.IsName := by
  intro host member
  obtain ⟨name, listed, rfl⟩ := List.mem_map.mp member
  have filled : name ≠ "" := of_decide_eq_true (List.mem_filter.mp listed).2
  exact filled

namespace Parameters

/-- Whether parameters give a timeout that is no number. -/
def GivesNan (parameters : Parameters) : Prop := ∃ value, parameters .timeout = some value ∧ value.StandsForNan

/-- Whether the hosts for uploads name something where parameters give them in a row. -/
def NamesHosts (parameters : Parameters) : Prop := ∀ row, parameters .uploadHosts = some row → row.NamesEach

variable {parameters : Parameters}

theorem ofInt_thirty_ne_nan : Binary64.ofInt 30 ≠ .nan := by decide

/-- A timeout that is given as a text is no number just if the text stands for none; blanks give the usual timeout. -/
theorem nan_iff_of_numeral {numeral : String} (given : parameters .timeout = some (.text numeral)) {value : Binary64}
    (read : parameters.real .timeout (.ofInt 30) = .ok value) :
    value = .nan ↔ (Json.text numeral).StandsForNan := by
  rw [real, given] at read
  dsimp only at read
  rw [Json.StandsForNan]
  by_cases blank : Text.trim numeral = ""
  · have absent : numeral? (some (.text numeral)) = none := by simp [numeral?, Json.text?, blank]
    rw [absent] at read
    obtain rfl := Except.ok.inj read
    rw [Numeral.real?_of_blank blank]
    exact iff_of_false ofInt_thirty_ne_nan (Option.some_ne_none _).symm
  · have visible : numeral? (some (.text numeral)) = some numeral := by simp [numeral?, Json.text?, blank]
    rw [visible] at read
    dsimp only at read
    cases spelled : Numeral.real? numeral with
    | none =>
        rw [spelled] at read
        cases read
    | some number =>
        rw [spelled] at read
        obtain rfl := Except.ok.inj read
        exact Option.some_inj.symm

/-- The timeout that is read is no number just if what is given stands for none. -/
theorem givesNan_iff {value : Binary64} (read : parameters.real .timeout (.ofInt 30) = .ok value) :
    value = .nan ↔ parameters.GivesNan := by
  cases given : parameters .timeout with
  | none =>
      rw [real, given] at read
      obtain rfl := Except.ok.inj read
      exact iff_of_false ofInt_thirty_ne_nan (by simp [GivesNan, given])
  | some held =>
      have told : parameters.GivesNan ↔ held.StandsForNan := by simp [GivesNan, given]
      rw [told]
      cases held with
      | text numeral => exact nan_iff_of_numeral given read
      | real number =>
          rw [real, given] at read
          obtain rfl := Except.ok.inj read
          rfl
      | integer number =>
          rw [real, given] at read
          dsimp only at read
          split at read
          · rename_i finite
            obtain rfl := Except.ok.inj read
            refine iff_of_false (fun same => ?_) id
            rw [same] at finite
            cases finite
          · cases read
      | _ =>
          rw [real, given] at read
          obtain rfl := Except.ok.inj read
          exact iff_of_false ofInt_thirty_ne_nan id

/-- The hosts that are read have names just if those do that are given in a row. -/
theorem namesHosts_iff {hosts : List Json} (read : parameters.hosts = .ok hosts) :
    (∀ host ∈ hosts, host.IsName) ↔ parameters.NamesHosts := by
  rw [Parameters.hosts] at read
  cases given : parameters .uploadHosts with
  | none =>
      rw [given] at read
      obtain rfl := Except.ok.inj read
      exact iff_of_true (List.forall_mem_nil _) (by simp [NamesHosts, given])
  | some row =>
      have told : parameters.NamesHosts ↔ row.NamesEach := by simp [NamesHosts, given]
      rw [told]
      rw [given] at read
      cases row with
      | text value =>
          obtain rfl := Except.ok.inj read
          exact iff_of_true (isName_of_mem_splitHosts value) trivial
      | array items =>
          cases items with
          | nil =>
              obtain rfl := Except.ok.inj read
              exact Iff.rfl
          | cons item rest =>
              obtain rfl := Except.ok.inj read
              exact Iff.rfl
      | object members =>
          cases members with
          | nil =>
              obtain rfl := Except.ok.inj read
              exact iff_of_true (List.forall_mem_nil _) (List.forall_mem_nil _)
          | cons entry rest =>
              obtain rfl := Except.ok.inj read
              exact List.forall_mem_map
      | _ =>
          dsimp only at read
          split at read
          · obtain rfl := Except.ok.inj read
            exact iff_of_true (List.forall_mem_nil _) trivial
          · cases read

theorem kept_of_unchecked {settings : Settings} (loaded : parameters.unchecked = .ok settings) :
    parameters.hosts = .ok settings.uploadHosts ∧
      ∃ value, parameters.real .timeout (.ofInt 30) = .ok value ∧ settings.timeout = .real value := by
  obtain ⟨zone, -, loaded⟩ := Outcome.bind_eq_ok_iff.mp loaded
  obtain ⟨hosts, hostsRead, loaded⟩ := Outcome.bind_eq_ok_iff.mp loaded
  obtain ⟨timeout, timeoutRead, loaded⟩ := Outcome.bind_eq_ok_iff.mp loaded
  obtain ⟨expiry, -, loaded⟩ := Outcome.bind_eq_ok_iff.mp loaded
  obtain ⟨listLimit, -, loaded⟩ := Outcome.bind_eq_ok_iff.mp loaded
  obtain rfl := Except.ok.inj loaded
  exact ⟨hostsRead, timeout, timeoutRead, rfl⟩

end Parameters

namespace Environment

variable {environment : Environment}

/-- The timeout that is read is no number just if the text that is given stands for none. -/
theorem givesNan_iff {value : Binary64} (read : environment.real .timeout (.ofInt 30) = .ok value) :
    value = .nan ↔ environment.parameters.GivesNan := by
  by_cases blank : environment.IsBlank .timeout
  · exact absurd read (blank.real_ne _ value)
  · have agrees := real_agrees blank (.ofInt 30)
    rw [read] at agrees
    exact Parameters.givesNan_iff agrees.eq_ok

theorem kept_of_unchecked {settings : Settings} (loaded : environment.unchecked = .ok settings) :
    settings.uploadHosts = (splitHosts (environment.text .uploadHosts)).map .text ∧
      ∃ value, environment.real .timeout (.ofInt 30) = .ok value ∧ settings.timeout = .real value := by
  obtain ⟨zone, -, loaded⟩ := Outcome.bind_eq_ok_iff.mp loaded
  obtain ⟨timeout, timeoutRead, loaded⟩ := Outcome.bind_eq_ok_iff.mp loaded
  obtain ⟨expiry, -, loaded⟩ := Outcome.bind_eq_ok_iff.mp loaded
  obtain ⟨listLimit, -, loaded⟩ := Outcome.bind_eq_ok_iff.mp loaded
  obtain rfl := Except.ok.inj loaded
  exact ⟨rfl, timeout, timeoutRead, rfl⟩

end Environment

/-- Loaded settings are settings that passed the check. -/
theorem passed_of_loaded {settings checked : Settings} {value : Binary64} (timeout : settings.timeout = .real value)
    (loaded : settings.check.mapError Failure.ofFault = .ok checked) :
    checked.IsOrderly ∧ (checked.timeout.IsPositive ↔ value ≠ .nan) ∧
      (checked.NamesUploads ↔ ∀ host ∈ settings.uploadHosts, host.IsName) := by
  cases passed : settings.check with
  | error fault =>
      rw [passed] at loaded
      cases loaded
  | ok found =>
      rw [passed] at loaded
      obtain rfl := Except.ok.inj loaded
      obtain ⟨orderly, hosts, kept, above⟩ := passed_of_check passed
      rw [timeout] at above kept
      refine ⟨orderly, ?_, ?_⟩
      · rw [kept]
        exact Binary64.isPositive_iff above
      · rw [(upload_of_zone orderly.zone).2, hosts]

end Loaded

/-- Settings that are loaded obey the rules. Two of these hold just if something is known of what is loaded: the timeout
is above zero if none is given that is no number, and uploads go to hosts with names if parameters that give a row of
hosts give names only. -/
theorem loaded_settings_obey (environment : Environment) (parameters : Parameters) :
    (∀ settings, ofEnvironment environment = .ok settings → settings.IsOrderly ∧ settings.NamesUploads ∧
      (settings.timeout.IsPositive ↔ ¬environment.parameters.GivesNan)) ∧
    ∀ settings, ofParameters parameters = .ok settings → settings.IsOrderly ∧
      (settings.NamesUploads ↔ parameters.NamesHosts) ∧ (settings.timeout.IsPositive ↔ ¬parameters.GivesNan) := by
  constructor
  · intro settings loaded
    obtain ⟨unchecked, read, loaded⟩ := Outcome.bind_eq_ok_iff.mp loaded
    obtain ⟨hosts, value, timeoutRead, timeout⟩ := Environment.kept_of_unchecked read
    obtain ⟨orderly, positive, named⟩ := passed_of_loaded timeout loaded
    rw [hosts] at named
    exact ⟨orderly, named.mpr (isName_of_mem_splitHosts _),
      positive.trans (Environment.givesNan_iff timeoutRead).not⟩
  · intro settings loaded
    obtain ⟨unchecked, read, loaded⟩ := Outcome.bind_eq_ok_iff.mp loaded
    obtain ⟨hostsRead, value, timeoutRead, timeout⟩ := Parameters.kept_of_unchecked read
    obtain ⟨orderly, positive, named⟩ := passed_of_loaded timeout loaded
    exact ⟨orderly, named.trans (Parameters.namesHosts_iff hostsRead),
      positive.trans (Parameters.givesNan_iff timeoutRead).not⟩

theorem exists_loaded_nan : ∃ settings, ofEnvironment (.sample "nan") = .ok settings ∧
    settings.timeout = .real .nan := by
  with_unfolding_all exact ⟨_, rfl, rfl⟩

theorem exists_loaded_nameless :
    ∃ settings, ofParameters (.sample (.array [.text ""]) .null .null) = .ok settings := by
  with_unfolding_all exact ⟨_, rfl⟩

/-- A timeout that is no number and a host without a name are loaded, while all other rules are obeyed. -/
theorem nan_and_nameless_host_are_loaded :
    (∃ settings, ofEnvironment (.sample "nan") = .ok settings ∧ settings.IsOrderly ∧ settings.NamesUploads ∧
        ¬settings.timeout.IsPositive) ∧
      ∃ settings, ofParameters (.sample (.array [.text ""]) .null .null) = .ok settings ∧ settings.IsOrderly ∧
        ¬settings.NamesUploads ∧ settings.timeout.IsPositive := by
  let nameless : Parameters := .sample (.array [.text ""]) .null .null
  constructor
  · obtain ⟨settings, loaded, -⟩ := exists_loaded_nan
    obtain ⟨orderly, named, positive⟩ := (loaded_settings_obey (.sample "nan") nameless).1 settings loaded
    refine ⟨settings, loaded, orderly, named, positive.not.mpr (not_not_intro ⟨.text "nan", rfl, ?_⟩)⟩
    rfl
  · obtain ⟨settings, loaded⟩ := exists_loaded_nameless
    obtain ⟨orderly, named, positive⟩ := (loaded_settings_obey (.sample "nan") nameless).2 settings loaded
    refine ⟨settings, loaded, orderly, named.not.mpr fun each => ?_, positive.mpr ?_⟩
    · exact each _ rfl (.text "") (List.mem_singleton_self _) rfl
    · rintro ⟨value, given, stands⟩
      obtain rfl := Option.some.inj given
      cases stands

/-- So not all settings that are loaded obey all rules. -/
theorem loaded_settings_may_break_rules :
    ¬((∀ (environment : Environment) (settings : Settings), ofEnvironment environment = .ok settings →
        settings.IsOrderly ∧ settings.NamesUploads ∧ settings.timeout.IsPositive) ∧
      ∀ (parameters : Parameters) (settings : Settings), ofParameters parameters = .ok settings →
        settings.IsOrderly ∧ settings.NamesUploads ∧ settings.timeout.IsPositive) := by
  rintro ⟨obeyed, -⟩
  obtain ⟨settings, loaded, timeout⟩ := exists_loaded_nan
  have positive := (obeyed (.sample "nan") settings loaded).2.2
  rw [timeout] at positive
  exact positive

end Settings
end PathStore
