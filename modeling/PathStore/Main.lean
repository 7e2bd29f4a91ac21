/-
This file is the command line: it reads the arguments, the environment, local files and the clock, and writes what the
console leaves.
-/
import PathStore.Console
import PathStore.Service
import PathStore.Settings.Loader
import PathStore.Workspace
import Std.Time.DateTime.Timestamp

namespace PathStore.Main

/-- The values that a configuration may give. -/
def settingNames : List Setting :=
  [.bucket, .baseUrl, .accessKey, .secretKey, .zone, .rootDirectory, .managementHost, .listingHost, .uploadHosts,
    .timeout, .expiry, .listLimit, .scratchDirectory]

/-- The variables of the environment that give settings. -/
def readEnvironment : IO Settings.Environment := do
  let mut known : List (Setting × String) := []
  for setting in settingNames do
    if let some value ← IO.getEnv setting.variableName then known := (setting, value) :: known
  let found := known
  return fun setting => found.lookup setting

/-- The contents of those arguments that name files. -/
def readFiles (arguments : List String) : IO (List (String × Bytes)) := do
  let mut files : List (String × Bytes) := []
  for argument in arguments do
    try
      let content ← IO.FS.readBinFile argument
      files := (argument, content.toList) :: files
    catch _ => pure ()
  return files

def readClock : IO Clock := do
  let now ← Std.Time.Timestamp.now
  return ⟨Binary64.ofRat (mkRat now.toNanosecondsSinceUnixEpoch.val 1000000000)⟩

/-- A wire that reaches no service. -/
def unreachable : Wire Unit := .keeping fun _ state => (.error ⟨"ConnectError", "No network is attached"⟩, state)

/-- The outcome of a command. -/
def runCommand (command : Console.Command) (files : List (String × Bytes)) : IO Console.Outcome := do
  let environment ← readEnvironment
  let clock ← readClock
  let settings := Settings.ofEnvironment environment
  let answer := match settings with
    | .ok settings => (Service.ofSettings settings).answer unreachable clock
    | .error failure => fun _ state => (.error failure, state)
  let program := command.program clock (settings.map Driver.ofSettings) (fun name => (files.lookup name).getD []) 1
  return .ofResult (Workspace.run answer program { store := () }).1

/-- The outcome of a command line. -/
def run (arguments : List String) : IO Console.Outcome := do
  let files ← readFiles arguments
  match Console.Invocation.read? (fun name => (files.lookup name).isSome) arguments with
  | none => return .usage
  | some .help => return .help
  | some (.command command) => runCommand command files

end PathStore.Main

def main (arguments : List String) : IO UInt32 := do
  let outcome ← PathStore.Main.run arguments
  (← IO.getStdout).write ⟨outcome.output.toArray⟩
  IO.eprint outcome.errors
  return UInt32.ofNat outcome.exitCode
