/-
This file holds the ways in which an operation fails, with their texts and their exit codes.
-/
import PathStore.Json.Display
import PathStore.Number.Numeral
import PathStore.Text.Charset
import PathStore.Url.HostName

namespace PathStore

/-- A failure that a storage service reports; code zero means that no answer came. -/
structure ServiceError where
  code : Int
  message : Reply
  requestId : Option String := none
  deriving Repr

namespace ServiceError

/-- The code for a key under which nothing is stored. -/
def noSuchKey : Int := 612

/-- The code for a key that is taken. -/
def keyTaken : Int := 614

/-- The code of the download service for a missing object. -/
def notFound : Int := 404

/-- The text of a failure from those of its code and of its message. -/
def textOf (code : String) (message : LooseText) : LooseText := message.prepend ("KODO error " ++ code ++ ": ")

def text (error : ServiceError) : LooseText := textOf (toString error.code) error.message.display

end ServiceError

/-- A time span as it is configured, either whole or with a fraction. -/
inductive Seconds where
  | whole (count : Int)
  | real (value : Binary64)
  deriving DecidableEq, Repr

def Seconds.text : Seconds → String
  | .whole count => toString count
  | .real value => value.toText

def Seconds.isAtMostZero : Seconds → Bool
  | .whole count => count ≤ 0
  | .real value => value.isAtMostZero

/-- Why settings are refused. -/
inductive ConfigurationFault where
  | missing (parameter : String)
  | unreadable (parameter value : String)
  | unknownZone (zone : Json)
  | timeout (value : Seconds)
  | expiry (value : Int)
  | listLimit (value : Int)
  deriving Repr

def ConfigurationFault.text : ConfigurationFault → String
  | .missing parameter => "No " ++ parameter ++ " parameter provided"
  | .unreadable parameter value => "Invalid " ++ parameter ++ " parameter: " ++ Text.quoted value
  | .unknownZone zone => "Unknown zone: " ++ zone.display ++ ". Supported zones: [0, 1]"
  | .timeout value => "http_timeout_s must be positive, got " ++ value.text
  | .expiry value => "default_expiry_s must be positive, got " ++ toString value
  | .listLimit value => "list_limit must be between 1 and 1000, got " ++ toString value

/-- Whether the text of a fault can be written, which the integer that it names may be too long for. -/
def ConfigurationFault.isWritable : ConfigurationFault → Bool
  | .unknownZone (.integer number) | .timeout (.whole number) | .expiry number | .listLimit number =>
      Numeral.isWritable number
  | _ => true

/-- Why a value of the right type cannot be used. -/
inductive ValueFault where
  | integerText (text : LooseText)
  | tooManyDigits (count : Nat)
  /-- An integer with more digits than are written. -/
  | unwritable
  | realText (text : String)
  | notANumber
  | year (year : Int)
  | negativeCount
  | negativePosition (position : Int)
  /-- A size of a read that is neither a length nor the mark for all that is left. -/
  | readLength
  | closedStream
  /-- A text that a device does not take, with the first half of a pair that stands alone in it, the place of this half
  and that of the last one in a row with it. -/
  | unprintable (half first last : Nat)
  /-- A URL without a scheme, to which no answer can belong. -/
  | urlType (url : String)
  /-- A reference whose host cannot be told. -/
  | reference (fault : String)
  | emptyName
  | nameTaken (name : String)
  | unknownName (name : String) (known : List String)
  deriving DecidableEq, Repr

def ValueFault.text : ValueFault → String
  | .integerText text =>
      "invalid literal for int() with base 10: " ++ String.ofList ((Text.quoted text).toList.take 200)
  | .tooManyDigits count =>
      "Exceeds the limit (4300 digits) for integer string conversion: value has " ++ toString count ++
        " digits; use sys.set_int_max_str_digits() to increase the limit"
  | .unwritable =>
      "Exceeds the limit (4300 digits) for integer string conversion; " ++
        "use sys.set_int_max_str_digits() to increase the limit"
  | .realText text => "could not convert string to float: " ++ Text.quoted text
  | .notANumber => "cannot convert float NaN to integer"
  | .year number => "year " ++ toString number ++ " is out of range"
  | .negativeCount => "negative count"
  | .negativePosition position => "negative seek value " ++ toString position
  | .readLength => "read length must be non-negative or -1"
  | .closedStream => "I/O operation on closed file."
  | .unprintable half first last =>
      "'utf-8' codec can't encode " ++
        (if first = last then
          "character '\\u" ++ String.ofList (Text.hexDigits 4 half) ++ "' in position " ++ toString first
        else "characters in position " ++ toString first ++ "-" ++ toString last) ++
        ": surrogates not allowed"
  | .urlType url => "unknown url type: " ++ Text.quoted url
  | .reference fault => fault
  | .emptyName => "Cannot register a driver with an empty name"
  | .nameTaken name => "Driver already registered: " ++ name
  | .unknownName name known =>
      "Unknown storage driver: " ++ name ++ ". Registered drivers: " ++ ", ".intercalate known

/-- Why a number does not fit. -/
inductive OverflowFault where
  | integerAsReal
  | quotientAsReal
  | infinity
  | readSize
  | timestamp
  | days (count : Int)
  | dayCount
  | date
  deriving DecidableEq, Repr

def OverflowFault.text : OverflowFault → String
  | .integerAsReal => "int too large to convert to float"
  | .quotientAsReal => "integer division result too large for a float"
  | .infinity => "cannot convert float infinity to integer"
  | .readSize => "cannot fit 'int' into an index-sized integer"
  | .timestamp => "timestamp out of range for platform time_t"
  | .days count => "days=" ++ toString count ++ "; must have magnitude <= 999999999"
  | .dayCount => "Python int too large to convert to C int"
  | .date => "date value out of range"

/-- A break of the connection, by its kind and its text. -/
structure Interruption where
  kind : String
  message : String
  deriving DecidableEq, Repr

/-- The ways in which an operation fails. -/
inductive Failure where
  | pathNotFound (path : String)
  | invalidPath (path : String)
  | invalidOffset (path : String) (offset : Int)
  | unsupportedMethod (method : Json)
  | configuration (fault : ConfigurationFault)
  | service (error : ServiceError)
  | value (fault : ValueFault)
  | overflow (fault : OverflowFault)
  /-- A value of another type than the operation works on. -/
  | wrongType
  /-- A part that is neither a range nor local bytes, with the name of its type. -/
  | unsupportedPart (typeName : String)
  /-- A value that lacks the operation asked of it. -/
  | notAnObject
  | missingMember (name : String)
  | undecodable
  /-- A text with characters for which the wanted encoding has no bytes. -/
  | unencodable
  | charset (fault : Text.Charset.Fault)
  /-- Containers that are nested too deeply. -/
  | tooNested
  /-- A read for more bytes than memory holds. -/
  | outOfMemory
  | hostName (fault : Url.HostName.Fault)
  | invalidUrl (fault : String)
  | noScratchDirectory
  | device (text : String)
  | interrupted (interruption : Interruption)
  /-- The pages of a listing outnumber those that the caller allows. -/
  | tooManyPages
  deriving Repr

namespace Failure

/-- The name under which the driver is registered. -/
def driverName : String := "kodo"

/-- The failure of a text that spells no integer. -/
def ofNumeral (text : LooseText) : Numeral.Fault → Failure
  | .malformed => .value (.integerText text)
  | .tooManyDigits count => .value (.tooManyDigits count)

/-- The failure of settings that are refused; where the fault cannot be written, the writing fails. -/
def ofFault (fault : ConfigurationFault) : Failure :=
  if fault.isWritable then .configuration fault else .value .unwritable

/-- The integer part of a number; what is infinite or no number has none. -/
def wholePart (value : Binary64) : Except Failure Int :=
  match value, value.truncate? with
  | .nan, _ => .error (.value .notANumber)
  | _, some whole => .ok whole
  | _, none => .error (.overflow .infinity)

/-- The failure of an offset that is negative; one with too many digits cannot be named. -/
def ofOffset (host : Host) (path : String) (offset : Int) : Failure :=
  if host.writes offset then .invalidOffset path offset else .value .unwritable

/-- The failure of a method that is not served; one without a text cannot be named. -/
def ofMethod (host : Host) (method : Json) : Failure :=
  match method.unshown? host with
  | none => .unsupportedMethod method
  | some .digits => .value .unwritable
  | some .depth => .tooNested

/-- The text of a negative offset for a path, from the texts of both. -/
def offsetText (path offset : String) : String := "Invalid offset: " ++ offset ++ " for path: " ++ path

/-- The text of a failure. -/
def message : Failure → LooseText
  | pathNotFound path => "Path not found: " ++ path
  | invalidPath path => "Invalid path: " ++ path
  | invalidOffset path offset => offsetText path (toString offset)
  | unsupportedMethod method => driverName ++ ": unsupported method " ++ method.display
  | configuration fault => fault.text
  | service error => error.text
  | value fault => fault.text
  | overflow fault => fault.text
  | wrongType => "unsupported type"
  | unsupportedPart typeName => "Unsupported part type: " ++ typeName
  | notAnObject => "object expected"
  | missingMember name => Text.quoted name
  | undecodable => "invalid text encoding"
  | unencodable => "invalid text encoding"
  | charset _ => "unusable charset"
  | tooNested => "containers nested too deeply"
  | outOfMemory => "out of memory"
  | hostName _ => "invalid host name"
  | invalidUrl fault => fault
  | noScratchDirectory => "No scratch directory"
  | device text => text
  | interrupted interruption => interruption.message
  | tooManyPages => "too many pages"

/-- The kinds of failure that exit codes and callers tell apart. -/
inductive Category where
  | pathNotFound
  | invalidPath
  | invalidOffset
  | unsupportedMethod
  | configuration
  | service
  | storage
  | value
  | other
  deriving DecidableEq, Repr

/-- Text that cannot be decoded or encoded counts as a wrong value. -/
def category : Failure → Category
  | pathNotFound _ => .pathNotFound
  | invalidPath _ => .invalidPath
  | invalidOffset .. => .invalidOffset
  | unsupportedMethod _ => .unsupportedMethod
  | configuration _ => .configuration
  | service _ => .service
  | value _ => .value
  | undecodable | unencodable | hostName _ => .value
  | charset .unmarked | charset .unfinished | charset .undecodable | charset .nothing => .value
  | _ => .other

/-- One for a missing path, two for wrong input or configuration, three for all else. -/
def Category.exitCode : Category → Nat
  | .pathNotFound => 1
  | .invalidPath | .invalidOffset | .unsupportedMethod | .configuration | .value => 2
  | .service | .storage | .other => 3

def Category.isStorage : Category → Bool
  | .value | .other => false
  | _ => true

def Category.isValue : Category → Bool
  | .configuration | .value => true
  | _ => false

def exitCode (failure : Failure) : Nat := failure.category.exitCode

/-- Whether a service reports that nothing is stored under a key. -/
def isNoSuchKey : Failure → Bool
  | service error => error.code = ServiceError.noSuchKey
  | _ => false

end Failure
end PathStore
