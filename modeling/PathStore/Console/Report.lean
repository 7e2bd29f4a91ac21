/-
This file words what the console reports.
-/
import PathStore.Bytes.Utf8
import PathStore.Console.Wrapping
import PathStore.Failure
import PathStore.ObjectInfo
import PathStore.Number.Shortest
import PathStore.Text.Blank
import PathStore.Text.Quoted

namespace PathStore.Console

/-- The text of a number of the given unit, or of a larger unit if the number is not below 1024. -/
def textInUnits (value : Binary64) : List String → String
  | [] => value.toTextWithTenths ++ " TB"
  | unit :: larger =>
      if value.isBelow 1024 then value.toTextWithTenths ++ " " ++ unit
      else textInUnits (value.scaled (mkRat 1 1024)) larger

/-- The text of a number of bytes that may have a fraction. -/
def realSizeText (size : Binary64) : String :=
  if size.isBelow 1024 then size.toText ++ " B" else textInUnits (size.scaled (mkRat 1 1024)) ["KB", "MB", "GB"]

/-- The text of a number of bytes. -/
def sizeText (size : Int) : Except Failure String :=
  if size < 1024 then .ok (toString size ++ " B")
  else
    let value := Binary64.ofRat (mkRat size 1024)
    if value.isFinite then .ok (textInUnits value ["KB", "MB", "GB"]) else .error (.overflow .quotientAsReal)

/-- What a command that succeeds reports. -/
inductive Report where
  | info (info : FileInfo)
  | listing (paths : List LooseText)
  | content (bytes : Bytes)
  | stored (path : String) (size : Nat)
  | written (path : String) (offset : Int) (count : Nat)
  | deleted (path : String)
  | moved (source target : String)
  | url (text : String)
  deriving Repr

namespace Report

/-- A line filled with spaces to a width. -/
def fill (width : Nat) (line : String) : String := line ++ String.ofList (List.replicate (width - line.length) ' ')

/-- A line cut to a width, of which an ellipsis takes the last place. -/
def cut (width : Nat) (line : String) : String :=
  if line.length ≤ width then line else String.ofList (line.toList.take (width - 1) ++ ['\u2026'])

/-- The lines of a row of a table with two columns of the given widths. -/
def rowText (fieldWidth valueWidth : Nat) (row : String × String) : String :=
  String.join ((Text.split '\n' row.2).mapIdx fun index line =>
    " " ++ fill fieldWidth (if index = 0 then row.1 else "") ++ "  " ++ fill valueWidth (cut valueWidth line) ++ " \n")

def greatest (numbers : List Nat) : Nat := numbers.foldl max 0

/-- The width of the device. -/
def deviceWidth : Nat := 4000

/-- A table with two columns, each as wide as its widest cell; the second one leaves room for the first. -/
def tableText (rows : List (String × String)) : String :=
  let fieldWidth := greatest (rows.map fun row => row.1.length)
  let valueWidth := greatest (rows.flatMap fun row => (Text.split '\n' row.2).map String.length)
  String.join (rows.map (rowText fieldWidth (min valueWidth (deviceWidth - fieldWidth - 4))))

/-- The rows that describe a path. -/
def infoRows (info : FileInfo) : Except Failure (List (String × String)) :=
  if info.isDirectory then .ok [("Path", info.path), ("Type", "directory")]
  else do
    let size ← sizeText info.size
    return [("Path", info.path), ("Type", "file"), ("Size", toString info.size ++ " (" ++ size ++ ")")] ++
      match info.modified with
      | some instant => [("Modified", instant.write)]
      | none => []

def isControlParameter : Symbol → Bool
  | .char character => character = ';' || character = '?' || ('0' ≤ character ∧ character ≤ '9')
  | .half _ => false

/-- The text without the control sequences of a terminal. -/
def dropControls : Nat → List Symbol → List Symbol
  | 0, symbols => symbols
  | _, [] => []
  | fuel + 1, .char '\x1B' :: .char '[' :: rest =>
      match rest.dropWhile isControlParameter with
      | .char final :: after =>
          if final.isAlpha then dropControls fuel after
          else .char '\x1B' :: dropControls fuel (.char '[' :: rest)
      | _ => .char '\x1B' :: dropControls fuel (.char '[' :: rest)
  | fuel + 1, symbol :: rest => symbol :: dropControls fuel rest

/-- A text as a line on a device that shows no colours. -/
def plainLine (text : LooseText) : LooseText :=
  .ofSymbols (dropControls text.symbols.length text.symbols ++ [.char '\n'])

/-- A summary on a device of its width. -/
def summary (text : String) : Bytes := Utf8.encode (String.join ((wrap deviceWidth text).map (· ++ "\n")))

/-- What a device has against a text with a lone half, given by what stands around the half. -/
def brokenFault (front : String) (half : Half) (rest : LooseText) : ValueFault :=
  .unprintable half.code front.length (front.length + rest.leadingHalves)

/-- What lines leave on a device, which takes them one after another up to the first that it does not take. -/
def print : List LooseText → Bytes × Option Failure
  | [] => ([], none)
  | .broken front half more :: _ => ([], some (.value (brokenFault front half more)))
  | .whole line :: rest =>
      let (bytes, failure) := print rest
      (Utf8.encode line ++ bytes, failure)

/-- What a report leaves on a device, with the failure that cuts it short; content goes out as it is. -/
def output : Report → Bytes × Option Failure
  | .content bytes => (bytes, none)
  | .info described => whole ((infoRows described).map fun rows => Utf8.encode (tableText rows))
  | .listing paths => print (paths.map plainLine)
  | .stored path size =>
      whole ((sizeText size).map fun text => summary ("Stored " ++ path ++ " (" ++ text ++ ")"))
  | .written path offset count =>
      if Numeral.isWritable offset then
        (summary ("Wrote " ++ toString count ++ " bytes to " ++ path ++ " at offset " ++ toString offset), none)
      else ([], some (.value .unwritable))
  | .deleted path => (summary ("Deleted " ++ path), none)
  | .moved source target => (summary ("Moved " ++ source ++ " -> " ++ target), none)
  | .url text => print [plainLine text]
where
  whole : Except Failure Bytes → Bytes × Option Failure
    | .ok bytes => (bytes, none)
    | .error failure => ([], some failure)

/-- A symbol as the device for errors shows it, which escapes halves that stand alone. -/
def shown : Symbol → List Char
  | .char character => [character]
  | .half half => '\\' :: 'u' :: Text.hexDigits 4 half.code

/-- The text of a failure. -/
def errorText (failure : Failure) : String :=
  String.ofList ((plainLine (failure.message.prepend "Error: ")).symbols.flatMap shown)

end Report
end PathStore.Console
