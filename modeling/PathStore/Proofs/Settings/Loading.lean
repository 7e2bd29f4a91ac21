/-
This file compares the two loaders of settings. From the same texts they load the same settings or both fail, unless a
number is given as blanks, which count as absent among the parameters of a host and as wrong in an environment.
-/
import PathStore.Proofs.Number.Blanks
import PathStore.Proofs.Program.Outcomes
import PathStore.Settings.Loader

namespace PathStore

/-- Settings are refused as wrong values, also where the fault cannot be written. -/
theorem Failure.isValue_ofFault (fault : ConfigurationFault) : (ofFault fault).category.isValue = true := by
  unfold ofFault
  split <;> rfl

theorem Failure.isValue_ofNumeral (text : String) (fault : Numeral.Fault) :
    (ofNumeral text fault).category.isValue = true := by
  cases fault <;> rfl

/-- Whether a setting is a number. -/
def Setting.isNumeric : Setting → Bool
  | .zone | .timeout | .expiry | .listLimit => true
  | _ => false

namespace Settings

section Agree

variable {α β : Type}

/-- Whether two outcomes are the same success, or two failures that count as wrong values. -/
inductive Agree : Except Failure α → Except Failure α → Prop where
  | ok (value : α) : Agree (.ok value) (.ok value)
  | error {first second : Failure} (wrong : first.category.isValue = true)
      (alsoWrong : second.category.isValue = true) : Agree (.error first) (.error second)

/-- Steps that agree, and agree whatever comes of the first, agree together. -/
theorem Agree.bind {first second : Except Failure α} {next other : α → Except Failure β} (agree : Agree first second)
    (rest : ∀ value, Agree (next value) (other value)) : Agree (first >>= next) (second >>= other) := by
  cases agree with
  | ok value => exact rest value
  | error wrong alsoWrong => exact .error wrong alsoWrong

theorem Agree.left {first second : Except Failure α} (agree : Agree first second) : Agree first first := by
  cases agree with
  | ok value => exact .ok value
  | error wrong alsoWrong => exact .error wrong wrong

/-- An outcome that agrees with another and is no success fails as a wrong value. -/
theorem Agree.exists_error {first second : Except Failure α} (agree : Agree first second)
    (fails : ∀ value, first ≠ .ok value) : ∃ failure, first = .error failure ∧ failure.category.isValue = true := by
  cases agree with
  | ok value => exact absurd rfl (fails value)
  | error wrong alsoWrong => exact ⟨_, rfl, wrong⟩

/-- The rules that settings obey are checked alike. -/
theorem agree_check (settings : Settings) :
    Agree (settings.check.mapError Failure.ofFault) (settings.check.mapError Failure.ofFault) := by
  cases settings.check with
  | ok checked => exact .ok checked
  | error fault => exact .error (Failure.isValue_ofFault fault) (Failure.isValue_ofFault fault)

end Agree

section Gather

variable (text : Setting → String) (hosts : List Json) (zone expiry listLimit : Except Failure Int)
  (timeout : Except Failure Binary64)

/-- The settings that texts and numbers add up to, if all numbers are read and no rule is broken. -/
def gather : Except Failure Settings := do
  let settings : Settings := {
    bucket := text .bucket
    baseUrl := text .baseUrl
    accessKey := text .accessKey
    secretKey := text .secretKey
    zone := ← zone
    rootDirectory := text .rootDirectory
    managementHost := nonempty (text .managementHost)
    listingHost := nonempty (text .listingHost)
    uploadHosts := hosts
    timeout := .real (← timeout)
    defaultExpiry := ← expiry
    listLimit := ← listLimit
    scratchDirectory := nonempty (text .scratchDirectory)
  }
  settings.check.mapError .ofFault

variable {zone expiry listLimit timeout}

theorem numbers_of_gather {settings : Settings}
    (loaded : gather text hosts zone expiry listLimit timeout = .ok settings) :
    (∃ value, zone = .ok value) ∧ (∃ value, timeout = .ok value) ∧ (∃ value, expiry = .ok value) ∧
      ∃ value, listLimit = .ok value := by
  obtain ⟨zoneRead, readZone, loaded⟩ := Outcome.bind_eq_ok_iff.mp loaded
  obtain ⟨timeoutRead, readTimeout, loaded⟩ := Outcome.bind_eq_ok_iff.mp loaded
  obtain ⟨expiryRead, readExpiry, loaded⟩ := Outcome.bind_eq_ok_iff.mp loaded
  obtain ⟨limitRead, readLimit, -⟩ := Outcome.bind_eq_ok_iff.mp loaded
  exact ⟨⟨zoneRead, readZone⟩, ⟨timeoutRead, readTimeout⟩, ⟨expiryRead, readExpiry⟩, ⟨limitRead, readLimit⟩⟩

/-- The texts of numbers do not matter apart from the numbers. -/
theorem gather_congr {text other : Setting → String}
    (texts : ∀ setting, setting.isNumeric = false → text setting = other setting) :
    gather text hosts zone expiry listLimit timeout = gather other hosts zone expiry listLimit timeout := by
  simp only [gather, texts .bucket rfl, texts .baseUrl rfl, texts .accessKey rfl, texts .secretKey rfl,
    texts .rootDirectory rfl, texts .managementHost rfl, texts .listingHost rfl, texts .scratchDirectory rfl]

/-- Settings agree if their numbers do. -/
theorem Agree.gather {otherZone otherExpiry otherLimit : Except Failure Int} {otherTimeout : Except Failure Binary64}
    (zones : Agree zone otherZone) (timeouts : Agree timeout otherTimeout) (expiries : Agree expiry otherExpiry)
    (limits : Agree listLimit otherLimit) :
    Agree (gather text hosts zone expiry listLimit timeout)
      (gather text hosts otherZone otherExpiry otherLimit otherTimeout) := by
  apply zones.bind
  intro zone
  apply timeouts.bind
  intro timeout
  apply expiries.bind
  intro expiry
  apply limits.bind
  intro listLimit
  exact agree_check _

end Gather

section Reading

variable {α : Type}

/-- The number that is read from a text, if one is given, or else the default. -/
def numberOf (default : α) (read : String → Except Failure α) : Option String → Except Failure α
  | none => .ok default
  | some text => read text

/-- Numbers agree if they do so however the text reads. -/
theorem Agree.numberOf {read other : String → Except Failure α} (readers : ∀ text, Agree (read text) (other text))
    (default : α) (given : Option String) : Agree (numberOf default read given) (numberOf default other given) := by
  cases given with
  | none => exact .ok default
  | some text => exact readers text

/-- An integer of an environment. -/
def Environment.readInteger (text : String) : Except Failure Int :=
  (Numeral.readInteger text).mapError (Failure.ofNumeral text)

/-- A number with a fraction of an environment. -/
def Environment.readReal (text : String) : Except Failure Binary64 :=
  match Numeral.real? text with
  | some value => .ok value
  | none => .error (.value (.realText text))

/-- A number of the parameters of a host, or the fault that names it. -/
def Parameters.readNumber (spelled : String → Option α) (setting : Setting) (text : String) : Except Failure α :=
  match spelled text with
  | some value => .ok value
  | none => .error (.configuration (.unreadable setting.parameterName text))

variable (setting : Setting) (text : String)

theorem readInteger_agrees :
    Agree (Environment.readInteger text) (Parameters.readNumber Numeral.integer? setting text) := by
  rw [Environment.readInteger, Parameters.readNumber, Numeral.integer?]
  cases Numeral.readInteger text with
  | ok value => exact .ok value
  | error fault => exact .error (Failure.isValue_ofNumeral text fault) rfl

theorem readReal_agrees : Agree (Environment.readReal text) (Parameters.readNumber Numeral.real? setting text) := by
  rw [Environment.readReal, Parameters.readNumber]
  cases Numeral.real? text with
  | some value => exact .ok value
  | none => exact .error rfl rfl

end Reading

namespace Environment

/-- The parameters that give the same texts. -/
def parameters (environment : Environment) : Parameters := fun setting => (environment setting).map .text

/-- Whether a setting is given as blanks only, and at least one. -/
def IsBlank (environment : Environment) (setting : Setting) : Prop :=
  ∃ text, environment setting = some text ∧ text ≠ "" ∧ Text.trim text = ""

section Numbers

variable {environment : Environment} {setting : Setting}

theorem integer_eq (default : Int) :
    environment.integer setting default = numberOf default readInteger (nonempty (environment.text setting)) := by
  rw [integer]
  cases nonempty (environment.text setting) <;> rfl

theorem real_eq (default : Binary64) :
    environment.real setting default = numberOf default readReal (nonempty (environment.text setting)) := by
  rw [real]
  cases nonempty (environment.text setting) <;> rfl

theorem parameters_integer (default : Int) : environment.parameters.integer setting default =
    numberOf default (Parameters.readNumber Numeral.integer? setting)
      (Parameters.numeral? (environment.parameters setting)) := by
  rw [Parameters.integer, parameters]
  cases environment setting with
  | none => rfl
  | some text =>
      dsimp only [Option.map_some]
      cases Parameters.numeral? (some (.text text)) with
      | none => rfl
      | some numeral =>
          dsimp only [numberOf, Parameters.readNumber]
          cases Numeral.integer? numeral <;> rfl

theorem parameters_real (default : Binary64) : environment.parameters.real setting default =
    numberOf default (Parameters.readNumber Numeral.real? setting)
      (Parameters.numeral? (environment.parameters setting)) := by
  rw [Parameters.real, parameters]
  cases environment setting with
  | none => rfl
  | some text =>
      dsimp only [Option.map_some]
      cases Parameters.numeral? (some (.text text)) with
      | none => rfl
      | some numeral =>
          dsimp only [numberOf, Parameters.readNumber]
          cases Numeral.real? numeral <;> rfl

/-- Unless a setting is given as blanks, it is a number in both places or in neither. -/
theorem numeral?_of_filled (filled : ¬environment.IsBlank setting) :
    Parameters.numeral? (environment.parameters setting) = nonempty (environment.text setting) := by
  rw [text, parameters]
  cases given : environment setting with
  | none => rfl
  | some text =>
      by_cases empty : text = ""
      · subst empty
        rfl
      · have visible : Text.trim text ≠ "" := fun blank => filled ⟨text, given, empty, blank⟩
        simp [Parameters.numeral?, Json.text?, nonempty, visible, empty]

/-- Numbers that are not given as blanks are read alike. -/
theorem integer_agrees (filled : ¬environment.IsBlank setting) (default : Int) :
    Agree (environment.integer setting default) (environment.parameters.integer setting default) := by
  rw [integer_eq, parameters_integer, numeral?_of_filled filled]
  exact .numberOf (readInteger_agrees setting) default _

theorem real_agrees (filled : ¬environment.IsBlank setting) (default : Binary64) :
    Agree (environment.real setting default) (environment.parameters.real setting default) := by
  rw [real_eq, parameters_real, numeral?_of_filled filled]
  exact .numberOf (readReal_agrees setting) default _

/-- What an environment gives for a number is one or a wrong value. -/
theorem integer_agrees_self (default : Int) :
    Agree (environment.integer setting default) (environment.integer setting default) := by
  rw [integer_eq]
  exact (Agree.numberOf (readInteger_agrees setting) default _).left

theorem real_agrees_self (default : Binary64) :
    Agree (environment.real setting default) (environment.real setting default) := by
  rw [real_eq]
  exact (Agree.numberOf (readReal_agrees setting) default _).left

theorem IsBlank.nonempty_eq (blank : environment.IsBlank setting) :
    ∃ text, nonempty (environment.text setting) = some text ∧ Text.trim text = "" := by
  obtain ⟨text, given, filled, trimmed⟩ := blank
  refine ⟨text, ?_, trimmed⟩
  rw [Environment.text, given]
  exact if_neg filled

/-- Blanks are refused as an integer. -/
theorem IsBlank.integer_ne (blank : environment.IsBlank setting) (default value : Int) :
    environment.integer setting default ≠ .ok value := by
  obtain ⟨text, same, trimmed⟩ := blank.nonempty_eq
  rw [integer_eq, same, numberOf, readInteger, Numeral.readInteger_of_blank trimmed]
  nofun

/-- Blanks are refused as a number with a fraction. -/
theorem IsBlank.real_ne (blank : environment.IsBlank setting) (default value : Binary64) :
    environment.real setting default ≠ .ok value := by
  obtain ⟨text, same, trimmed⟩ := blank.nonempty_eq
  rw [real_eq, same, numberOf, readReal, Numeral.real?_of_blank trimmed]
  nofun

/-- Blanks count as absent among parameters. -/
theorem IsBlank.numeral?_eq (blank : environment.IsBlank setting) :
    Parameters.numeral? (environment.parameters setting) = none := by
  obtain ⟨text, given, -, trimmed⟩ := blank
  simp [parameters, given, Parameters.numeral?, Json.text?, trimmed]

end Numbers

section Gathered

variable (environment : Environment)

theorem ofEnvironment_eq :
    ofEnvironment environment = gather environment.text ((splitHosts (environment.text .uploadHosts)).map .text)
      (environment.integer .zone 0) (environment.integer .expiry 3600) (environment.integer .listLimit 1000)
      (environment.real .timeout (.ofInt 30)) := by
  simp only [ofEnvironment, unchecked, gather, bind_assoc, pure_bind]

/-- Parameters that are texts are gathered like an environment, from their own numbers. -/
theorem ofParameters_eq :
    ofParameters environment.parameters =
      gather environment.text ((splitHosts (environment.text .uploadHosts)).map .text)
        (environment.parameters.integer .zone 0) (environment.parameters.integer .expiry 3600)
        (environment.parameters.integer .listLimit 1000) (environment.parameters.real .timeout (.ofInt 30)) := by
  have texts (setting : Setting) : environment.parameters.text setting = environment.text setting := by
    rw [Parameters.text, Environment.text, parameters]
    cases environment setting <;> rfl
  have hosts : environment.parameters.hosts = pure ((splitHosts (environment.text .uploadHosts)).map .text) := by
    rw [Parameters.hosts, Environment.text, parameters]
    cases environment .uploadHosts <;> rfl
  simp only [ofParameters, Parameters.unchecked, gather, hosts, texts, bind_assoc, pure_bind]

variable {environment} {setting : Setting}

/-- From texts of which no number is given as blanks both loaders load the same settings, or both fail. -/
theorem agree_of_filled (filled : ∀ setting, setting.isNumeric = true → ¬environment.IsBlank setting) :
    Agree (ofEnvironment environment) (ofParameters environment.parameters) := by
  rw [ofEnvironment_eq, ofParameters_eq]
  apply Agree.gather
  · exact integer_agrees (filled .zone rfl) 0
  · exact real_agrees (filled .timeout rfl) (.ofInt 30)
  · exact integer_agrees (filled .expiry rfl) 3600
  · exact integer_agrees (filled .listLimit rfl) 1000

variable (numeric : setting.isNumeric = true) (blank : environment.IsBlank setting)
include numeric blank

/-- An environment is refused if a number is given as blanks. -/
theorem refused_of_isBlank :
    ∃ failure, ofEnvironment environment = .error failure ∧ failure.category.isValue = true := by
  rw [ofEnvironment_eq]
  apply (Agree.gather _ _ (integer_agrees_self 0) (real_agrees_self (.ofInt 30)) (integer_agrees_self 3600)
    (integer_agrees_self 1000)).exists_error
  intro settings loaded
  obtain ⟨⟨zone, zoneRead⟩, ⟨timeout, timeoutRead⟩, ⟨expiry, expiryRead⟩, ⟨listLimit, limitRead⟩⟩ :=
    numbers_of_gather _ _ loaded
  cases setting with
  | zone => exact blank.integer_ne 0 zone zoneRead
  | timeout => exact blank.real_ne (.ofInt 30) timeout timeoutRead
  | expiry => exact blank.integer_ne 3600 expiry expiryRead
  | listLimit => exact blank.integer_ne 1000 listLimit limitRead
  | _ => cases numeric

/-- Among parameters a number that is given as blanks counts as absent. -/
theorem absent_of_isBlank :
    ofParameters environment.parameters = ofParameters (parameters (Function.update environment setting none)) := by
  have others {other : Setting} (different : other ≠ setting) :
      Function.update environment setting none other = environment other :=
    Function.update_of_ne different none environment
  have numerals (other : Setting) : Parameters.numeral? (environment.parameters other) =
      Parameters.numeral? (parameters (Function.update environment setting none) other) := by
    by_cases same : other = setting
    · rw [same, blank.numeral?_eq, parameters, Function.update_self]
      rfl
    · rw [parameters, parameters, others same]
  have texts (other : Setting) (notNumeric : other.isNumeric = false) :
      environment.text other = text (Function.update environment setting none) other := by
    have different : other ≠ setting := by
      rintro rfl
      rw [numeric] at notNumeric
      cases notNumeric
    rw [text, text, others different]
  rw [ofParameters_eq, ofParameters_eq, gather_congr _ texts, texts .uploadHosts rfl]
  simp only [parameters_integer, parameters_real, numerals]

end Gathered
end Environment

/-- The same texts load the same settings from an environment and from parameters, or are refused by both as wrong
values, unless a number is given as blanks. Such an environment is refused, and among parameters such a number counts as
absent. -/
theorem loaders_agree (environment : Environment) :
    ((∀ setting, setting.isNumeric = true → ¬environment.IsBlank setting) →
      Agree (ofEnvironment environment) (ofParameters environment.parameters)) ∧
    ∀ setting, setting.isNumeric = true → environment.IsBlank setting →
      (∃ failure, ofEnvironment environment = .error failure ∧ failure.category.isValue = true) ∧
        ofParameters environment.parameters =
          ofParameters (Environment.parameters (Function.update environment setting none)) := by
  constructor
  · exact Environment.agree_of_filled
  · intro setting numeric blank
    exact ⟨Environment.refused_of_isBlank numeric blank, Environment.absent_of_isBlank numeric blank⟩

/-- An environment with all that is required, a zone in digits of full width, and a timeout. -/
def Environment.sample (timeout : String) : Environment
  | .bucket => some "registry"
  | .baseUrl => some "http://cdn.example.com"
  | .accessKey => some "ak"
  | .secretKey => some "sk"
  | .zone => some " 0_１"
  | .timeout => some timeout
  | _ => none

/-- Both loaders read the zone and an infinite timeout; a tab as timeout is refused in the environment and replaced by
the default among the parameters. -/
theorem loaders_agree_unless_blank :
    let filled := Environment.sample "inf"
    let blank := Environment.sample "\t"
    (∃ settings, settings.zone = 1 ∧ ofParameters filled.parameters = .ok settings ∧
        Agree (ofEnvironment filled) (ofParameters filled.parameters)) ∧
      (∃ failure, ofEnvironment blank = .error failure ∧ failure.category.isValue = true) ∧
      ofParameters blank.parameters =
        ofParameters (Environment.parameters (Function.update blank .timeout none)) := by
  intro filled blank
  constructor
  · have loaded : ∃ settings, settings.zone = 1 ∧ ofParameters filled.parameters = .ok settings := by
      with_unfolding_all exact ⟨_, rfl, rfl⟩
    obtain ⟨settings, zone, read⟩ := loaded
    refine ⟨settings, zone, read, (loaders_agree filled).1 ?_⟩
    rintro setting numeric ⟨text, given, -, trimmed⟩
    cases setting with
    | zone =>
        obtain rfl := Option.some.inj given
        exact absurd trimmed (by decide)
    | timeout =>
        obtain rfl := Option.some.inj given
        exact absurd trimmed (by decide)
    | expiry | listLimit => cases given
    | _ => cases numeric
  · exact (loaders_agree blank).2 .timeout rfl ⟨"\t", rfl, by decide, by decide⟩

end Settings
end PathStore
