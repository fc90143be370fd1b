import RepoAudit.Json.Display
import RepoAudit.Json.Reader
import RepoAudit.Text.Utf8

/-!
Faults: why a step cannot go on. Each has one wording, in which the words for types are those of
the values that were met.
-/
namespace RepoAudit

/-- The exit of a command that failed: a status above zero, or the number of a signal. -/
inductive Exit where
  | status (code : Nat)
  | signal (number : Nat)
deriving DecidableEq, Repr

/-- The cause of a failure. -/
inductive Fault where
  | noAttribute (type name : Text)
  | notIterable (type : Text)
  | notSubscriptable (type : Text)
  | notMapping (type : Text)
  | notAssignable (type : Text)
  | notContainer (type : Text)
  | listIndexType (type : Text)
  | textIndexType (type : Text)
  | listIndexRange
  | textIndexRange
  | popFromEmpty
  | sliceIndex
  | unhashable (type : Text)
  | unsupported (operator left right : Text)
  | unordered (operator left right : Text)
  | repetition (type : Text)
  | divisionByZero
  | integerTooLarge
  | indexTooLarge
  | placeTooLarge
  | bytesTooLong
  | negativeLength
  | outOfMemory
  | notIndex (type : Text)
  | joinNotIterable
  | joinItem (index : Nat) (type : Text)
  | needsText (type : Text)
  | needsList (type : Text)
  | containsNeedsText (type : Text)
  | unknownSeverity (word : Text)
  | unexpectedKeyword (maker name : Text)
  | repeatedArgument (maker name : Text)
  | missingArguments (maker : Text) (names : List Text)
  | argumentsNotMapping (record type : Text)
  | notSource
  | malformedSource
  | notTree (type : Text)
  | notSearchable (type : Text)
  | notInteger (type : Text)
  | integerLiteral (text : Text)
  | integerDigits (count : Nat)
  | integerTooLong
  | missingKey (key : Json)
  | missingField (name : Text)
  | embeddedNul
  | noSuchFile (path : Text)
  | isDirectory (path : Text)
  | notDirectory (path : Text)
  | accessDenied (path : Text)
  | undecodable (bad : Utf8.Bad)
  | unencodable (unit : CodePoint) (start count : Nat)
  | document (error : Json.ReadError)
  | undefinedName (name : Text)
  | commandFailed (command : List Text) (exit : Exit)
  | stepFailed (text : Text)
  | agentFailed (text : Text)
  | serviceFailed (text : Text)

namespace Fault

def signalName : Nat → Option Text
  | 1 => some "SIGHUP" | 2 => some "SIGINT" | 3 => some "SIGQUIT" | 4 => some "SIGILL"
  | 5 => some "SIGTRAP" | 6 => some "SIGABRT" | 7 => some "SIGBUS" | 8 => some "SIGFPE"
  | 9 => some "SIGKILL" | 10 => some "SIGUSR1" | 11 => some "SIGSEGV" | 12 => some "SIGUSR2"
  | 13 => some "SIGPIPE" | 14 => some "SIGALRM" | 15 => some "SIGTERM" | 16 => some "SIGSTKFLT"
  | 17 => some "SIGCHLD" | 18 => some "SIGCONT" | 19 => some "SIGSTOP" | 20 => some "SIGTSTP"
  | 21 => some "SIGTTIN" | 22 => some "SIGTTOU" | 23 => some "SIGURG" | 24 => some "SIGXCPU"
  | 25 => some "SIGXFSZ" | 26 => some "SIGVTALRM" | 27 => some "SIGPROF" | 28 => some "SIGWINCH"
  | 29 => some "SIGIO" | 30 => some "SIGPWR" | 31 => some "SIGSYS" | 34 => some "SIGRTMIN"
  | 64 => some "SIGRTMAX"
  | _ => none

/-- Names in a sentence: the last two are joined by a word, the others by commas. -/
def enumerate : List Text → Text
  | [] => []
  | [a] => a
  | [a, b] => a ++ " and " ++ b
  | names => joinWith ", " names.dropLast ++ ", and " ++ names.getLastD []

def undecodableText (bad : Utf8.Bad) : Text :=
  let reason : Text := match bad.reason with
    | .invalidStart => "invalid start byte"
    | .invalidContinuation => "invalid continuation byte"
    | .unexpectedEnd => "unexpected end of data"
  if bad.count ≤ 1 then
    "'utf-8' codec can't decode byte 0x" ++ Text.ofChars (hexPadded 2 bad.byte.toNat)
      ++ " in position " ++ Text.ofNat bad.start ++ ": " ++ reason
  else
    "'utf-8' codec can't decode bytes in position " ++ Text.ofNat bad.start ++ "-"
      ++ Text.ofNat (bad.start + bad.count - 1) ++ ": " ++ reason

def unencodableText (unit : CodePoint) (start count : Nat) : Text :=
  if count ≤ 1 then
    "'utf-8' codec can't encode character '" ++ Text.ofChars (escapeByNumber unit.toNat)
      ++ "' in position " ++ Text.ofNat start ++ ": surrogates not allowed"
  else
    "'utf-8' codec can't encode characters in position " ++ Text.ofNat start ++ "-"
      ++ Text.ofNat (start + count - 1) ++ ": surrogates not allowed"

def documentText : Json.ReadError → Text
  | .flaw f line column offset =>
    f.wording ++ ": line " ++ Text.ofNat line ++ " column " ++ Text.ofNat column ++ " (char "
      ++ Text.ofNat offset ++ ")"
  | .tooManyDigits count =>
    "Exceeds the limit (4300 digits) for integer string conversion: value has "
      ++ Text.ofNat count
      ++ " digits; use sys.set_int_max_str_digits() to increase the limit"

/-- A command as it is shown: its arguments in quotes between brackets. -/
def shownCommand (command : List Text) : Text := bracketed '[' ']' (command.map Text.quoted)

def exitText : Exit → Text
  | .status code => " returned non-zero exit status " ++ Text.ofNat code ++ "."
  | .signal n => match signalName n with
    | some name => " died with <Signals." ++ name ++ ": " ++ Text.ofNat n ++ ">."
    | none => " died with unknown signal " ++ Text.ofNat n ++ "."

def message : Fault → Text
  | noAttribute type name =>
    "'" ++ type ++ "' object has no attribute '" ++ name ++ "'"
  | notIterable type => "'" ++ type ++ "' object is not iterable"
  | notSubscriptable type => "'" ++ type ++ "' object is not subscriptable"
  | notMapping type => "'" ++ type ++ "' object is not a mapping"
  | notAssignable type => "'" ++ type ++ "' object does not support item assignment"
  | notContainer type => "argument of type '" ++ type ++ "' is not iterable"
  | listIndexType type => "list indices must be integers or slices, not " ++ type
  | textIndexType type => "string indices must be integers, not '" ++ type ++ "'"
  | listIndexRange => "list index out of range"
  | textIndexRange => "string index out of range"
  | popFromEmpty => "pop from empty list"
  | sliceIndex => "slice indices must be integers or None or have an __index__ method"
  | unhashable type => "unhashable type: '" ++ type ++ "'"
  | unsupported operator left right =>
    "unsupported operand type(s) for " ++ operator ++ ": '" ++ left ++ "' and '" ++ right ++ "'"
  | unordered operator left right =>
    "'" ++ operator ++ "' not supported between instances of '" ++ left ++ "' and '" ++ right
      ++ "'"
  | repetition type => "can't multiply sequence by non-int of type '" ++ type ++ "'"
  | divisionByZero => "division by zero"
  | integerTooLarge => "int too large to convert to float"
  | indexTooLarge | placeTooLarge => "cannot fit 'int' into an index-sized integer"
  | bytesTooLong => "byte string is too large"
  | negativeLength => "read length must be non-negative or -1"
  | outOfMemory => []
  | notIndex type => "'" ++ type ++ "' object cannot be interpreted as an integer"
  | joinNotIterable => "can only join an iterable"
  | joinItem index type =>
    "sequence item " ++ Text.ofNat index ++ ": expected str instance, " ++ type ++ " found"
  | needsText type => "can only concatenate str (not \"" ++ type ++ "\") to str"
  | needsList type => "can only concatenate list (not \"" ++ type ++ "\") to list"
  | containsNeedsText type => "'in <string>' requires string as left operand, not " ++ type
  | unknownSeverity word => word.quoted ++ " is not a valid Severity"
  | unexpectedKeyword maker name =>
    maker ++ "() got an unexpected keyword argument '" ++ name ++ "'"
  | repeatedArgument maker name =>
    maker ++ "() got multiple values for argument '" ++ name ++ "'"
  | missingArguments maker names =>
    maker ++ "() missing " ++ Text.ofNat names.length ++ " required positional argument"
      ++ (if names.length == 1 then "" else "s") ++ ": "
      ++ enumerate (names.map fun (name : Text) => "'" ++ name ++ "'")
  | argumentsNotMapping record type =>
    record ++ "() argument after ** must be a mapping, not " ++ type
  | notSource => "compile() arg 1 must be a string, bytes or AST object"
  | malformedSource => "invalid syntax"
  | notTree type => "expected AST, got '" ++ type ++ "'"
  | notSearchable type => "expected string or bytes-like object, got '" ++ type ++ "'"
  | notInteger type =>
    "int() argument must be a string, a bytes-like object or a real number, not '" ++ type ++ "'"
  | integerLiteral text => "invalid literal for int() with base 10: " ++ text.quoted.take 200
  | integerDigits count => documentText (.tooManyDigits count)
  | integerTooLong =>
    "Exceeds the limit (4300 digits) for integer string conversion; "
      ++ "use sys.set_int_max_str_digits() to increase the limit"
  | missingKey key => key.shown
  | missingField name => "Missing '" ++ name ++ "' in request body"
  | embeddedNul => "embedded null byte"
  | noSuchFile path => "[Errno 2] No such file or directory: " ++ path.quoted
  | isDirectory path => "[Errno 21] Is a directory: " ++ path.quoted
  | notDirectory path => "[Errno 20] Not a directory: " ++ path.quoted
  | accessDenied path => "[Errno 13] Permission denied: " ++ path.quoted
  | undecodable bad => undecodableText bad
  | unencodable unit start count => unencodableText unit start count
  | document error => documentText error
  | undefinedName name => "name '" ++ name ++ "' is not defined"
  | commandFailed command exit => "Command '" ++ shownCommand command ++ "'" ++ exitText exit
  | stepFailed text => text
  | agentFailed text => text
  | serviceFailed text => text

end Fault

/-- Whether a fault is in the value that was given, and not in what was done with it. -/
def Fault.isBadValue : Fault → Bool
  | .unknownSeverity _ | .integerLiteral _ | .integerDigits _ | .integerTooLong | .missingField _
  | .negativeLength | .embeddedNul | .undecodable _ | .unencodable .. | .document _ => true
  | _ => false

/-- What becomes of the lone surrogates in a text that is written as bytes. -/
inductive ErrorHandler where
  /-- They are refused. -/
  | strict
  /-- Those that stand for stray bytes are written as these bytes, and the others are refused. -/
  | escape
deriving DecidableEq, Repr

/-- Whether a code point is written. -/
def ErrorHandler.passes (h : ErrorHandler) (p : CodePoint) : Bool :=
  p.char?.isSome || (h == .escape && Utf8.isStrayByte p)

/-- The fault of writing a text, which names the surrogates from the first that is refused to the
end of the run in which it stands. -/
def Text.unencodable? (h : ErrorHandler) (t : Text) : Option Fault :=
  let before := t.takeWhile h.passes
  match (t.drop before.length).takeWhile fun p => p.char?.isNone with
  | [] => none
  | unit :: more => some (.unencodable unit before.length (more.length + 1))

/-- The stream to which reports are printed. It is inferred, so that every step that prints carries
it along. -/
class Output where
  handler : ErrorHandler

/-- A stream is strict unless the locale is one that lets stray bytes through. -/
instance (priority := low) : Output := ⟨.strict⟩

def Text.printed [Output] (t : Text) : Except Fault Text :=
  match t.unencodable? Output.handler with
  | some fault => .error fault
  | none => .ok t

end RepoAudit
