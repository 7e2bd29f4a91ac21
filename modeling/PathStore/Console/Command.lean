/-
This file reads the commands of the console from their arguments.
-/
import PathStore.Number.Numeral

namespace PathStore.Console

/-- What the console is asked to do. -/
inductive Command where
  | stat (path : String)
  | list (path : String)
  | cat (path : String) (offset : Int)
  | put (path file : String)
  | write (path file : String) (offset : Int)
  | remove (path : String)
  | move (source target : String)
  | url (path : String) (lifetime : Option Int) (method : String)
  deriving DecidableEq, Repr

/-- A command line that is well formed. -/
inductive Invocation where
  | help
  | command (command : Command)
  deriving DecidableEq, Repr

/-- The arguments of a command: those at a place, the options with their values, and whether help is asked for. -/
structure Arguments where
  placed : List String := []
  options : List (String × String) := []
  wantsHelp : Bool := false
  deriving DecidableEq, Repr

namespace Arguments

/-- Whether an argument is an option; a hyphen alone is none. -/
def isOption (argument : String) : Bool := argument.toList.head? = some '-' && argument ≠ "-"

/-- The name of an option and the value that is attached to it. -/
def splitOption (argument : String) : String × Option String :=
  let characters := argument.toList
  let name := characters.takeWhile (· != '=')
  (String.ofList name,
    if name.length < characters.length then some (String.ofList (characters.drop (name.length + 1))) else none)

/-- The arguments of a command that has the given options; a double hyphen ends them. -/
def read? (known : List String) : List String → Option Arguments
  | [] => some {}
  | [argument] =>
      if argument = "--" then some {}
      else if !isOption argument then some { placed := [argument] }
      else if argument = "--help" then some { wantsHelp := true }
      else
        match splitOption argument with
        | (name, some value) => if known.contains name then some { options := [(name, value)] } else none
        | (_, none) => none
  | argument :: next :: rest =>
      if argument = "--" then some { placed := next :: rest }
      else if !isOption argument then
        (read? known (next :: rest)).map fun found => { found with placed := argument :: found.placed }
      else if argument = "--help" then
        (read? known (next :: rest)).map fun found => { found with wantsHelp := true }
      else
        match splitOption argument with
        | (name, some value) =>
            if known.contains name then
              (read? known (next :: rest)).map fun found => { found with options := (name, value) :: found.options }
            else none
        | (name, none) =>
            if known.contains name then
              (read? known rest).map fun found => { found with options := (name, next) :: found.options }
            else none

/-- The last value of an option. -/
def value? (arguments : Arguments) (name : String) : Option String := arguments.options.reverse.lookup name

/-- The last value of an option as an integer, or nothing within if the option is absent. -/
def integer? (arguments : Arguments) (name : String) : Option (Option Int) :=
  match arguments.value? name with
  | none => some none
  | some text => (Numeral.integer? text).map some

end Arguments

namespace Command

/-- The options of a command, or nothing for an unknown command. -/
def options? (name : String) : Option (List String) :=
  match name with
  | "stat" | "ls" | "put" | "rm" | "mv" => some []
  | "cat" | "write" => some ["--offset"]
  | "url" => some ["--expires-in", "--method"]
  | _ => none

/-- The command with a name and its arguments, of which the local files must exist. -/
def ofArguments? (isFile : String → Bool) (name : String) (arguments : Arguments) : Option Command := do
  let offset ← arguments.integer? "--offset"
  let lifetime ← arguments.integer? "--expires-in"
  match name, arguments.placed with
  | "stat", [path] => some (.stat path)
  | "ls", [] => some (.list "/")
  | "ls", [path] => some (.list path)
  | "cat", [path] => some (.cat path (offset.getD 0))
  | "put", [path, file] => if isFile file then some (.put path file) else none
  | "write", [path, file] => if isFile file then some (.write path file (offset.getD 0)) else none
  | "rm", [path] => some (.remove path)
  | "mv", [source, target] => some (.move source target)
  | "url", [path] => some (.url path lifetime ((arguments.value? "--method").getD "GET"))
  | _, _ => none

/-- The invocation of a command by its name and what follows it. -/
def read? (isFile : String → Bool) (name : String) (rest : List String) : Option Invocation := do
  let known ← options? name
  let arguments ← Arguments.read? known rest
  if arguments.wantsHelp then some .help
  else (ofArguments? isFile name arguments).map .command

end Command

namespace Invocation

/-- Whether an argument asks for nothing but a verbose log. -/
def isVerbose (argument : String) : Bool :=
  argument = "--verbose" ||
    match argument.toList with
    | '-' :: flag :: flags => flag = 'v' && flags.all (· = 'v')
    | _ => false

/-- The invocation that a command line spells, or nothing if it spells none. -/
def read? (isFile : String → Bool) : List String → Option Invocation
  | [] => none
  | argument :: rest =>
      if argument = "--" then
        match rest with
        | [] => none
        | name :: rest => Command.read? isFile name rest
      else if argument = "--help" then some .help
      else if isVerbose argument then read? isFile rest
      else Command.read? isFile argument rest

end Invocation
end PathStore.Console
