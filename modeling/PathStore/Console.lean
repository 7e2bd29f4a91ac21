/-
This file runs the commands of the console.
-/
import PathStore.Console.Command
import PathStore.Console.Report
import PathStore.Driver

namespace PathStore.Console

/-- What a run of the console leaves: its exit code and what it has written. -/
structure Outcome where
  exitCode : Nat
  output : Bytes := []
  errors : String := ""
  deriving DecidableEq, Repr

namespace Command

/-- When a signed URL is to end, for a lifetime that starts now. -/
def expiry (clock : Clock) : Option Int → Except Failure (Option Instant)
  | none => .ok none
  | some lifetime => do
      let now ← Instant.ofTimestamp clock.reading
      let later ← now.after lifetime
      return some later

/-- What a command does with a driver; the driver is asked for only when it is needed. -/
def program (command : Command) (clock : Clock) (context : Except Failure Driver) (content : String → Bytes)
    (pages : Nat) : Program Report :=
  match command with
  | .stat path => do
      let driver ← Program.ofExcept context
      return .info (← driver.statPath path)
  | .list path => do
      let driver ← Program.ofExcept context
      return .listing (← driver.listPath path pages)
  | .cat path offset => do
      let driver ← Program.ofExcept context
      let stream ← driver.readStream path offset
      return .content (← Program.ofExcept stream.readAll)
  | .put path file => do
      let driver ← Program.ofExcept context
      driver.putContent path (content file)
      return .stored path (content file).length
  | .write path file offset => do
      let driver ← Program.ofExcept context
      return .written path offset (← driver.writeStream path offset (.file [content file] none))
  | .remove path => do
      let driver ← Program.ofExcept context
      driver.deletePath path pages
      return .deleted path
  | .move source target => do
      let driver ← Program.ofExcept context
      driver.movePath source target
      return .moved source target
  | .url path lifetime method => do
      let expiry ← Program.ofExcept (expiry clock lifetime)
      let driver ← Program.ofExcept context
      return .url (← driver.urlFor clock path { method := .text method, expiry })

end Command

/-- The outcome of a command that failed once it had written something. -/
def Outcome.ofFailure (output : Bytes) (failure : Failure) : Outcome where
  exitCode := failure.exitCode
  output
  errors := Report.errorText failure

/-- The outcome of a command that ended with a report or a failure. -/
def Outcome.ofResult : Except Failure Report → Outcome
  | .error failure => .ofFailure [] failure
  | .ok report =>
      match report.output with
      | (output, none) => { exitCode := 0, output }
      | (output, some failure) => .ofFailure output failure

/-- The outcome of a command line that spells no command. -/
def Outcome.usage : Outcome where
  exitCode := 2
  errors := "Usage: kodo-driver [-v] (stat PATH | ls [PATH] | cat PATH [--offset N] | put PATH FILE |\n" ++
    "  write PATH FILE [--offset N] | rm PATH | mv SOURCE DEST | url PATH [--expires-in N] [--method M])\n"

/-- The outcome of a command line that asks for help. -/
def Outcome.help : Outcome where
  exitCode := 0
  output := Utf8.encode usage.errors

end PathStore.Console
