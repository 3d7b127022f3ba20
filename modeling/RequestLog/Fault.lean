import RequestLog.Number.Literal
import RequestLog.SystemError
import RequestLog.Text.Charset

/-!
Faults: what can go wrong while a log is set up or a line is made, by cause. A fault has a
category, arguments, a message and a literal; the messages are worded here and nowhere else. A
fault about a value that refuses its literal cannot be worded, and passes for the refusal.
-/
namespace RequestLog

/-- What a failure of the host tells as its status code. -/
inductive Code where
  | none
  | value (v : Value)
  /-- The code cannot be read, or not be compared with another one. -/
  | refused (r : Refusal)

/-- A cause of failure. -/
inductive Fault where
  /-- A failure of the host's own making, with the status code it may carry. -/
  | host (category : String) (arguments : List Value) (code : Code)
  /-- A text that is refused. -/
  | refused (r : Refusal)
  | unknownSettings (names : List String)
  /-- A setting given by name beside its place. -/
  | settingTwice (owner name : String)
  | loggerTwice
  | settingsBesideLogger (names : List String)
  | formatUndefined
  | formatEmpty (value : Value)
  | formatNotText (value : Value)
  /-- A value to be read as a format that is no text. -/
  | unreadableFormat (value : Value)
  | placeholderNotText (value : Value)
  /-- A piece of a line that is no text, at a place in the line. -/
  | pieceNotText (place : Nat) (value : Value)
  | skipNotCallable (value : Value)
  | noteHandlerNotCallable (value : Value)
  | unknownToken (name : Value) (format : Option Value)
  | registryFrozen (name : Value)
  | extractorNotCallable (name value : Value)
  | tokenNameInvalid (name : String)
  /-- A value joined to a text. -/
  | notJoinable (value : Value)
  | noAttribute (kind name : String)
  | notCallable (kind : String)
  | notIterable (kind : String)
  /-- The end of an iteration that was told while the iteration was being opened. -/
  | stoppedInside
  | notSubscriptable (kind : String)
  /-- Nothing is kept under a name. -/
  | missing (name : String)
  /-- A value has no members to look among. -/
  | noMembers (kind : String)
  | unhashable (kind : String)
  | octetsExpected
  | textExpected
  | tooFewParts (count : Nat)
  | tooManyParts
  | segmentImmutable (kind : String)
  | headersFrozen
  | limitNegative
  | limitNotWhole
  | limitTooLarge
  | noEntry
  | indexTooLarge
  | indexNotWhole (value : Value)
  | streamNotWritable (emitter : String) (shown : Except Refusal String)
  | unknownCharset (name : String)
  | unknownTreatment (name : String)
  /-- A name to be looked up that is no text. -/
  | nameNotText (lookup : String) (value : Value)
  | nullInName
  | nullInPath
  | unencodable (fault : Text.EncodeFault)
  /-- Octets to be percent-encoded as if they were text. -/
  | percentOfOctets
  | numeral (fault : Number.LiteralFault) (shown : String)
  | notNumber (value : Value)
  | notWhole (value : Value)
  /-- A text added to a value that is none. -/
  | textAddedTo (value : Value)
  | wholeOfNaN
  | wholeOfInfinity
  | timeNotNumber
  /-- A time beyond the seconds that the clock counts. -/
  | timeOutOfRange
  /-- A time beyond the years that the calendar counts. -/
  | yearOverflow
  | yearOutOfRange (year : Int)
  | dateOutOfRange
  /-- A number too large for a conversion in a message. -/
  | messageOverflow (text : String)
  | messageTooLong
  /-- A file cannot be opened. -/
  | fileRefused (number : Nat) (reason : String)
  | fileClosed (reason : String)

namespace Fault

/-- The reason given for a text that a character set does not have. -/
def encodeReason (f : Text.EncodeFault) : String :=
  "ordinal not in range(" ++ Number.intText f.limit ++ ")"

/-- The message about a numeral that is not read; the numeral is shown up to 200 characters. -/
def numeralMessage (f : Number.LiteralFault) (shown : String) : String :=
  match f with
  | .malformed =>
    "invalid literal for int() with base 10: " ++ String.ofList (shown.toList.take 200)
  | .tooLong n =>
    "Exceeds the limit (" ++ Number.intText Number.maxDigits
      ++ " digits) for integer string conversion: value has " ++ Number.intText n
      ++ " digits; use sys.set_int_max_str_digits() to increase the limit"

/-- The literal of a list of texts. -/
def nameList (names : List String) : String :=
  "[" ++ commaJoin (names.map Text.quote) ++ "]"

/-- The category with which an iteration tells that it has ended. -/
def endOfIteration : String := "StopIteration"

/-- The category of a fault that can be worded. -/
def ownCategory : Fault → String
  | host category arguments _ =>
    if category = SystemError.general then
      (SystemError.ofArguments? arguments).elim category fun e => SystemError.categoryOf e.number
    else category
  | formatUndefined | formatEmpty _ => "FormatError"
  | unknownToken .. => "UnknownTokenError"
  | refused r => r.category
  | registryFrozen _ => "RegistryFrozenError"
  | stoppedInside => "RuntimeError"
  | unknownCharset _ => "EncodingLookupError"
  | unknownTreatment _ => "ErrorBehaviorLookupError"
  | unencodable _ => "UnicodeEncodeError"
  | tokenNameInvalid _ | tooFewParts _ | tooManyParts | limitNegative | nullInName | nullInPath
  | numeral .. | wholeOfNaN | timeNotNumber | yearOutOfRange _ | fileClosed _ => "ValueError"
  | noAttribute .. | segmentImmutable _ => "AttributeError"
  | missing _ => "KeyError"
  | noEntry | indexTooLarge => "IndexError"
  | limitTooLarge | wholeOfInfinity | timeOutOfRange | dateOutOfRange | messageOverflow
      _ => "OverflowError"
  | messageTooLong => "MemoryError"
  | yearOverflow => SystemError.categoryOf (.int 75)
  | fileRefused number _ => SystemError.categoryOf (.int number)
  | _ => "TypeError"

/-- The arguments by which a fault is worded, unless a value in them refuses its literal. -/
def wording : Fault → Except Refusal (List Value)
  | host category arguments _ =>
    .ok (if category = SystemError.general then
      (SystemError.ofArguments? arguments).elim arguments fun e => e.shownArguments arguments
    else arguments)
  | refused r => .ok [.text r.message]
  | unknownSettings names => .ok [.text ("unexpected keyword arguments: " ++ nameList names)]
  | settingsBesideLogger names =>
    .ok [.text ("unexpected keyword arguments with logger: " ++ nameList names)]
  | settingTwice owner name =>
    .ok [.text (owner ++ ".__init__() got multiple values for argument '" ++ name ++ "'")]
  | loggerTwice =>
    .ok [.text ("accesslog.wsgi.AccessLogMiddleware() got multiple values for keyword argument "
      ++ "'logger'")]
  | formatUndefined => .ok [.text "access log format is not defined"]
  | formatEmpty v | formatNotText v =>
    v.literal.map fun shown => [.text ("expected format string or preset name, not " ++ shown)]
  | unreadableFormat v =>
    match v with
    | .octets _ => .ok [.text "cannot use a string pattern on a bytes-like object"]
    | v => .ok [.text ("expected string or bytes-like object, got '" ++ v.kind ++ "'")]
  | placeholderNotText v =>
    v.literal.map fun shown => [.text ("expected text placeholder, not " ++ shown)]
  | pieceNotText place v =>
    .ok [.text ("sequence item " ++ Number.intText place ++ ": expected str instance, " ++
      v.kind ++ " found")]
  | skipNotCallable v =>
    v.literal.map fun shown => [.text ("expected callable for skip, not " ++ shown)]
  | noteHandlerNotCallable v =>
    v.literal.map fun shown => [.text ("expected callable note handler, not " ++ shown)]
  | unknownToken name none => name.literal.map fun shown => [.text ("unknown token " ++ shown)]
  | unknownToken name (some format) => do
    return [.text ("unknown token " ++ (← name.literal) ++ " in format " ++ (← format.literal))]
  | registryFrozen name =>
    name.literal.map fun shown =>
      [.text ("cannot register token " ++ shown ++ ", registry is frozen (use copy())")]
  | extractorNotCallable name v => do
    return [.text ("expected callable extractor for token " ++ (← name.literal)
      ++ ", not " ++ (← v.literal))]
  | tokenNameInvalid name =>
    .ok [.text ("invalid token name " ++ Text.quote name
      ++ ": expected two or more word or hyphen characters")]
  | notJoinable v => .ok [.text ("can only concatenate str (not \"" ++ v.kind ++ "\") to str")]
  | noAttribute kind name =>
    .ok [.text ("'" ++ kind ++ "' object has no attribute '" ++ name ++ "'")]
  | notCallable kind => .ok [.text ("'" ++ kind ++ "' object is not callable")]
  | notIterable kind => .ok [.text ("'" ++ kind ++ "' object is not iterable")]
  | stoppedInside => .ok [.text "generator raised StopIteration"]
  | notSubscriptable kind => .ok [.text ("'" ++ kind ++ "' object is not subscriptable")]
  | missing name => .ok [.text name]
  | noMembers kind => .ok [.text ("argument of type '" ++ kind ++ "' is not iterable")]
  | unhashable kind => .ok [.text ("unhashable type: '" ++ kind ++ "'")]
  | octetsExpected => .ok [.text "a bytes-like object is required, not 'str'"]
  | textExpected => .ok [.text "string argument expected, got 'bytes'"]
  | tooFewParts n =>
    .ok [.text ("not enough values to unpack (expected 2, got " ++ Number.intText n ++ ")")]
  | tooManyParts => .ok [.text "too many values to unpack (expected 2)"]
  | segmentImmutable kind => .ok [.text (kind ++ " is immutable")]
  | headersFrozen => .ok [.text "FrozenDict object is immutable"]
  | limitNegative => .ok [.text "maxlen must be non-negative"]
  | limitNotWhole => .ok [.text "an integer is required"]
  | limitTooLarge => .ok [.text "Python int too large to convert to C ssize_t"]
  | noEntry => .ok [.text "deque index out of range"]
  | indexNotWhole v => .ok [.text ("sequence index must be integer, not '" ++ v.kind ++ "'")]
  | indexTooLarge => .ok [.text "cannot fit 'int' into an index-sized integer"]
  | streamNotWritable emitter shown =>
    shown.map fun shown =>
      [.text (emitter ++
        " expected writable stream, or shortcut values \"stderr\" or \"stdout\", not: " ++ shown)]
  | unknownCharset name => .ok [.text ("unknown encoding: " ++ name)]
  | unknownTreatment name => .ok [.text ("unknown error handler name '" ++ name ++ "'")]
  | nameNotText lookup v =>
    .ok [.text (lookup ++ "() argument must be str, not " ++ v.argumentKind)]
  | nullInName => .ok [.text "embedded null character"]
  | nullInPath => .ok [.text "embedded null byte"]
  | unencodable f =>
    .ok [.text f.charset, .text f.text, .int f.first, .int f.past, .text (encodeReason f)]
  | percentOfOctets => .ok [.text "quote() doesn't support 'encoding' for bytes"]
  | numeral f shown => .ok [.text (numeralMessage f shown)]
  | notNumber v =>
    .ok [.text ("int() argument must be a string, a bytes-like object or a real number, not '"
      ++ v.kind ++ "'")]
  | notWhole v => .ok [.text ("'" ++ v.kind ++ "' object cannot be interpreted as an integer")]
  | textAddedTo v =>
    match v with
    | .octets _ => .ok [.text "can't concat str to bytes"]
    | .list _ => .ok [.text "can only concatenate list (not \"str\") to list"]
    | v => .ok [.text ("unsupported operand type(s) for +: '" ++ v.kind ++ "' and 'str'")]
  | wholeOfNaN => .ok [.text "cannot convert float NaN to integer"]
  | wholeOfInfinity => .ok [.text "cannot convert float infinity to integer"]
  | timeNotNumber => .ok [.text "Invalid value NaN (not a number)"]
  | timeOutOfRange => .ok [.text "timestamp out of range for platform time_t"]
  | yearOverflow => .ok [.int 75, .text "Value too large for defined data type"]
  | yearOutOfRange year => .ok [.text ("year " ++ Number.intText year ++ " is out of range")]
  | dateOutOfRange => .ok [.text "date value out of range"]
  | messageOverflow text => .ok [.text text]
  | messageTooLong => .ok []
  | fileRefused number reason => .ok [.int number, .text reason]
  | fileClosed reason => .ok [.text reason]

/-- The category of a fault; one that cannot be worded has that of the refusal. -/
def category (f : Fault) : String :=
  match f.wording with
  | .ok _ => f.ownCategory
  | .error r => r.category

/-- The arguments of a fault, from which its literal is made. -/
def arguments (f : Fault) : List Value :=
  match f.wording with
  | .ok arguments => arguments
  | .error r => [.text r.message]

def code : Fault → Code
  | host _ _ code => code
  | _ => .none

/-- Whether a fault tells that an iteration has ended. -/
def endsIteration (f : Fault) : Bool :=
  f.category == endOfIteration

/-- A character of a text as the message about it shows it. -/
def shownCharacter (f : Text.EncodeFault) : String :=
  match f.text.toList[f.first]? with
  | some c => String.ofList (Text.numericEscape c)
  | none => ""

/-- The message about a stretch of characters that a character set does not have. -/
def encodeMessage (f : Text.EncodeFault) : String :=
  "'" ++ f.charset ++ "' codec can't encode " ++
    (if f.past = f.first + 1 then
      "character '" ++ shownCharacter f ++ "' in position " ++ Number.intText f.first
    else
      "characters in position " ++ Number.intText f.first ++ "-"
        ++ Number.intText (Int.ofNat f.past - 1))
    ++ ": " ++ encodeReason f

/-- The message of arguments: nothing, the display of a single one, or all of them in
parentheses. -/
def messageOf : List Value → Except Refusal String
  | [] => .ok ""
  | [v] => v.display
  | arguments => (Value.literals arguments).map Value.tupleOf

/-- The message of a host's failure: a key that is missing shows its literal, and a system error
its number and its reason. -/
def hostMessage (category : String) (arguments : List Value) : Except Refusal String :=
  match arguments with
  | [v] => if category = "KeyError" then v.literal else v.display
  | _ =>
    if category = SystemError.general then
      (SystemError.ofArguments? arguments).elim (messageOf arguments) SystemError.message
    else messageOf arguments

/-- The message of a fault, unless a value in it refuses its text. -/
def message : Fault → Except Refusal String
  | unencodable f => .ok (encodeMessage f)
  | fileRefused _ reason => .ok reason
  | missing name => .ok (Text.quote name)
  | yearOverflow => hostMessage SystemError.general yearOverflow.arguments
  | host category arguments _ => hostMessage category arguments
  | f => messageOf f.arguments

/-- The literal of a fault: its category and its arguments. -/
def literal (f : Fault) : Except Refusal String :=
  (Value.literals f.arguments).map fun texts => f.category ++ "(" ++ commaJoin texts ++ ")"

/-- Refuses the first of the names that has been given by its place already. -/
def checkPlaced (owner : String) (placed names : List String) : Except Fault Unit :=
  match names.find? placed.contains with
  | some name => .error (.settingTwice owner name)
  | none => .ok ()

end Fault

/-- The text of a value in a line; a refusal of it is a fault. -/
def Value.written (v : Value) : Except Fault String :=
  v.toText.mapError .refused

end RequestLog
