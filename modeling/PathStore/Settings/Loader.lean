/-
This file loads settings from the parameters of a host and from environment variables.
-/
import PathStore.Json.Display
import PathStore.Number.Numeral
import PathStore.Settings

namespace PathStore

/-- The values that a configuration may give. -/
inductive Setting where
  | bucket | baseUrl | accessKey | secretKey | zone | rootDirectory | managementHost | listingHost | uploadHosts
  | timeout | expiry | listLimit | scratchDirectory
  deriving DecidableEq, Repr

namespace Setting

/-- The name of a value among the parameters of a host. -/
def parameterName : Setting → String
  | bucket => "bucket"
  | baseUrl => "baseurl"
  | accessKey => "accesskey"
  | secretKey => "secretkey"
  | zone => "zone"
  | rootDirectory => "rootdirectory"
  | managementHost => "rshost"
  | listingHost => "rsfhost"
  | uploadHosts => "uphosts"
  | timeout => "httptimeout"
  | expiry => "expiry"
  | listLimit => "listlimit"
  | scratchDirectory => "scratchdir"

/-- The name of a value among the environment variables. -/
def variableName : Setting → String
  | bucket => "KODO_BUCKET"
  | baseUrl => "KODO_BASE_URL"
  | accessKey => "KODO_ACCESS_KEY"
  | secretKey => "KODO_SECRET_KEY"
  | zone => "KODO_ZONE"
  | rootDirectory => "KODO_ROOT_DIRECTORY"
  | managementHost => "KODO_RS_HOST"
  | listingHost => "KODO_RSF_HOST"
  | uploadHosts => "KODO_UP_HOSTS"
  | timeout => "KODO_HTTP_TIMEOUT"
  | expiry => "KODO_URL_EXPIRY"
  | listLimit => "KODO_LIST_LIMIT"
  | scratchDirectory => "KODO_SCRATCH_DIR"

/-- The name of a value among those that are given directly. -/
def fieldName : Setting → String
  | bucket => "bucket"
  | baseUrl => "base_url"
  | accessKey => "access_key"
  | secretKey => "secret_key"
  | zone => "zone"
  | rootDirectory => "root_directory"
  | managementHost => "rs_host"
  | listingHost => "rsf_host"
  | uploadHosts => "up_hosts"
  | timeout => "http_timeout_s"
  | expiry => "default_expiry_s"
  | listLimit => "list_limit"
  | scratchDirectory => "scratch_dir"

end Setting

namespace Settings

/-- The hosts between commas, without blanks around them and without empty ones. -/
def splitHosts (text : String) : List String := ((Text.split ',' text).map Text.trim).filter (· ≠ "")

def nonempty (text : String) : Option String := if text = "" then none else some text

/-- The parameters of a host; a value of the wrong type counts as absent. -/
abbrev Parameters := Setting → Option Json

namespace Parameters

def text (parameters : Parameters) (setting : Setting) : String := ((parameters setting).bind Json.text?).getD ""

/-- A text that is not blank. -/
def numeral? (value : Option Json) : Option String := do
  let text ← value.bind Json.text?
  if Text.trim text = "" then none else some text

def integer (parameters : Parameters) (setting : Setting) (default : Int) : Except Failure Int :=
  match parameters setting with
  | some (.integer value) => .ok value
  | other =>
      match numeral? other with
      | none => .ok default
      | some text =>
          match Numeral.integer? text with
          | some value => .ok value
          | none => .error (.configuration (.unreadable setting.parameterName text))

def real (parameters : Parameters) (setting : Setting) (default : Binary64) : Except Failure Binary64 :=
  match parameters setting with
  | some (.real value) => .ok value
  | some (.integer value) =>
      if (Binary64.ofInt value).isFinite then .ok (.ofInt value) else .error (.overflow .integerAsReal)
  | other =>
      match numeral? other with
      | none => .ok default
      | some text =>
          match Numeral.real? text with
          | some value => .ok value
          | none => .error (.configuration (.unreadable setting.parameterName text))

/-- The hosts of a text between commas, the items of a list or the names of an object. -/
def hosts (parameters : Parameters) : Except Failure (List Json) :=
  match parameters .uploadHosts with
  | none => .ok []
  | some (.text value) => .ok ((splitHosts value).map .text)
  | some value =>
      if !value.isTruthy then .ok []
      else
        match value.elements? with
        | some items => .ok items
        | none => .error .wrongType

/-- The settings that parameters give, before any rule is checked. -/
def unchecked (parameters : Parameters) : Except Failure Settings := do
  let zone ← parameters.integer .zone 0
  let uploadHosts ← parameters.hosts
  let timeout ← parameters.real .timeout (.ofInt 30)
  let defaultExpiry ← parameters.integer .expiry 3600
  let listLimit ← parameters.integer .listLimit 1000
  return {
    bucket := parameters.text .bucket
    baseUrl := parameters.text .baseUrl
    accessKey := parameters.text .accessKey
    secretKey := parameters.text .secretKey
    zone
    rootDirectory := parameters.text .rootDirectory
    managementHost := nonempty (parameters.text .managementHost)
    listingHost := nonempty (parameters.text .listingHost)
    uploadHosts
    timeout := .real timeout
    defaultExpiry
    listLimit
    scratchDirectory := nonempty (parameters.text .scratchDirectory)
  }

end Parameters

/-- The settings that parameters give. -/
def ofParameters (parameters : Parameters) : Except Failure Settings := do
  (← parameters.unchecked).check.mapError .ofFault

/-- The variables of an environment. -/
abbrev Environment := Setting → Option String

namespace Environment

def text (environment : Environment) (setting : Setting) : String := (environment setting).getD ""

def integer (environment : Environment) (setting : Setting) (default : Int) : Except Failure Int :=
  match nonempty (environment.text setting) with
  | none => .ok default
  | some text => (Numeral.readInteger text).mapError (Failure.ofNumeral text)

def real (environment : Environment) (setting : Setting) (default : Binary64) : Except Failure Binary64 :=
  match nonempty (environment.text setting) with
  | none => .ok default
  | some text =>
      match Numeral.real? text with
      | some value => .ok value
      | none => .error (.value (.realText text))

/-- The settings that an environment gives, before any rule is checked. -/
def unchecked (environment : Environment) : Except Failure Settings := do
  let zone ← environment.integer .zone 0
  let timeout ← environment.real .timeout (.ofInt 30)
  let defaultExpiry ← environment.integer .expiry 3600
  let listLimit ← environment.integer .listLimit 1000
  return {
    bucket := environment.text .bucket
    baseUrl := environment.text .baseUrl
    accessKey := environment.text .accessKey
    secretKey := environment.text .secretKey
    zone
    rootDirectory := environment.text .rootDirectory
    managementHost := nonempty (environment.text .managementHost)
    listingHost := nonempty (environment.text .listingHost)
    uploadHosts := (splitHosts (environment.text .uploadHosts)).map .text
    timeout := .real timeout
    defaultExpiry
    listLimit
    scratchDirectory := nonempty (environment.text .scratchDirectory)
  }

end Environment

/-- The settings that an environment gives. -/
def ofEnvironment (environment : Environment) : Except Failure Settings := do
  (← environment.unchecked).check.mapError .ofFault

/-- Values that are given directly, each of which must have the type that it is used with. -/
abbrev Values := Setting → Option Json

namespace Values

/-- A text that must be there. -/
def required (values : Values) (setting : Setting) : Except Failure String :=
  match values setting with
  | some (.text text) => if text = "" then missing else .ok text
  | some value => if value.isTruthy then .error .notAnObject else missing
  | none => missing
where
  missing : Except Failure String := .error (.configuration (.missing setting.parameterName))

/-- A text that may be absent. -/
def text? (values : Values) (setting : Setting) : Option String := (values setting).bind Json.text?

/-- The integer among the zones that a value equals. -/
def zone (values : Values) : Except Failure Int :=
  match values .zone with
  | none => .ok 0
  | some (.integer number) => .ok number
  | some (.bool flag) => .ok (if flag then 1 else 0)
  | some (.real number) =>
      if number = .ofInt 1 then .ok 1
      else if number.isZero then .ok 0
      else .error (.ofFault (.unknownZone (.real number)))
  | some (.array _) | some (.object _) => .error .wrongType
  | some value => .error (.ofFault (.unknownZone value))

/-- A number that can be compared with another one. -/
def seconds (values : Values) (setting : Setting) (default : Seconds) : Except Failure Seconds :=
  match values setting with
  | none => .ok default
  | some (.integer number) => .ok (.whole number)
  | some (.bool flag) => .ok (.whole (if flag then 1 else 0))
  | some (.real number) => .ok (.real number)
  | some _ => .error .wrongType

/-- The same without a fraction. -/
def integer (values : Values) (setting : Setting) (default : Int) : Except Failure Int := do
  match ← values.seconds setting (.whole default) with
  | .whole number => return number
  | .real number => Failure.wholePart number

def rootDirectory (values : Values) : Except Failure String :=
  match values .rootDirectory with
  | none => .ok ""
  | some (.text text) => .ok text
  | some value => if value.isTruthy then .error .notAnObject else .ok ""

def hosts (values : Values) : Except Failure (List Json) :=
  match values .uploadHosts with
  | none => .ok []
  | some value => value.elements?.getDM (.error .wrongType)

end Values

/-- The settings that values give; a value of the wrong type fails where it is used. -/
def ofValues (values : Values) : Except Failure Settings := do
  let bucket ← values.required .bucket
  let baseUrl ← values.required .baseUrl
  let accessKey ← values.required .accessKey
  let secretKey ← values.required .secretKey
  let zone ← values.zone
  if (Hosts.ofZone? zone).isNone then throw (.ofFault (.unknownZone (.integer zone)))
  let timeout ← values.seconds .timeout (.real (.ofInt 30))
  if timeout.isAtMostZero then throw (.ofFault (.timeout timeout))
  let defaultExpiry ← values.integer .expiry 3600
  if defaultExpiry ≤ 0 then throw (.ofFault (.expiry defaultExpiry))
  let listLimit ← values.integer .listLimit 1000
  if listLimit ≤ 0 ∨ 1000 < listLimit then throw (.ofFault (.listLimit listLimit))
  let settings : Settings := {
    bucket, baseUrl, accessKey, secretKey, zone, timeout, defaultExpiry, listLimit
    rootDirectory := ← values.rootDirectory
    uploadHosts := ← values.hosts
    managementHost := values.text? .managementHost
    listingHost := values.text? .listingHost
    scratchDirectory := values.text? .scratchDirectory
  }
  settings.check.mapError .ofFault

end Settings
end PathStore
