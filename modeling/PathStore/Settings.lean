/-
This file holds the settings of a driver, the hosts of the zones and the rules that settings obey.
-/
import PathStore.Failure
import PathStore.Root

namespace PathStore

/-- The hosts that manage, list and receive objects. -/
structure Hosts where
  management : String
  listing : String
  upload : List Json

/-- The hosts of a zone. -/
def Hosts.ofZone? (zone : Int) : Option Hosts :=
  if zone = 0 then
    some ⟨"http://rs.qbox.me", "http://rsf.qbox.me",
      [.text "http://up.qiniu.com", .text "http://upload.qiniu.com"]⟩
  else if zone = 1 then
    some ⟨"http://rs.qbox.me", "http://rsf.qbox.me",
      [.text "http://up-z1.qiniu.com", .text "http://upload-z1.qiniu.com"]⟩
  else none

/-- The settings of a driver; the hosts named here take the place of those of the zone. -/
structure Settings where
  bucket : String
  baseUrl : String
  accessKey : String
  secretKey : String
  zone : Int := 0
  rootDirectory : String := ""
  managementHost : Option String := none
  listingHost : Option String := none
  uploadHosts : List Json := []
  timeout : Seconds := .real (.ofInt 30)
  defaultExpiry : Int := 3600
  listLimit : Int := 1000
  scratchDirectory : Option String := none

namespace Settings

/-- The settings in normal form, or the first rule that they break. -/
def check (settings : Settings) : Except ConfigurationFault Settings :=
  if settings.bucket = "" then .error (.missing "bucket")
  else if settings.baseUrl = "" then .error (.missing "baseurl")
  else if settings.accessKey = "" then .error (.missing "accesskey")
  else if settings.secretKey = "" then .error (.missing "secretkey")
  else if (Hosts.ofZone? settings.zone).isNone then .error (.unknownZone (.integer settings.zone))
  else if settings.timeout.isAtMostZero then .error (.timeout settings.timeout)
  else if settings.defaultExpiry ≤ 0 then .error (.expiry settings.defaultExpiry)
  else if settings.listLimit ≤ 0 ∨ 1000 < settings.listLimit then .error (.listLimit settings.listLimit)
  else .ok { settings with
    baseUrl := if settings.baseUrl.toList.getLast? = some '/' then settings.baseUrl else settings.baseUrl ++ "/"
    rootDirectory := Root.dropTrailingSlashes settings.rootDirectory }

/-- A host that is named and not empty, or the one of the zone. -/
def orDefault (named : Option String) (default : String) : String :=
  match named with
  | none => default
  | some host => if host = "" then default else host

/-- The hosts that the driver talks to. -/
def hosts (settings : Settings) : Hosts :=
  let defaults := (Hosts.ofZone? settings.zone).getD ⟨"", "", []⟩
  { management := orDefault settings.managementHost defaults.management
    listing := orDefault settings.listingHost defaults.listing
    upload := if settings.uploadHosts.isEmpty then defaults.upload else settings.uploadHosts }

/-- The text of the settings, which hides the credentials. -/
def text (settings : Settings) : String :=
  "Settings(bucket=" ++ Text.quoted settings.bucket ++ ", base_url=" ++ Text.quoted settings.baseUrl ++
    ", zone=" ++ toString settings.zone ++ ", root_directory=" ++ Text.quoted settings.rootDirectory ++
    ", access_key='***', secret_key='***')"

/-- The root of the paths. -/
def root (settings : Settings) : Root := .ofDirectory settings.rootDirectory

end Settings
end PathStore
