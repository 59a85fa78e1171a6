import Warden.Numeric.Literal
import Warden.Text.Template

/-!
# Failures

A failure says what went wrong. Most failures have a cause in the program itself; the operating
system, the server and other outside parts report failures of their own, with a kind and a text.

## Main definitions

* `SystemError`: the kinds of failed system calls
* `Failure.Kind`: the kinds of failures that callers tell apart
* `Failure`: the causes
* `Failure.kind`, `Failure.text`: the kind of a failure and its wording
-/

namespace Warden

/-- The kinds of failed system calls. -/
inductive SystemError where
  | general
  | permission
  | notFound
  | noProcess
  | noChild
  | interrupted
  | wouldBlock
  | alreadyExists
  | isDirectory
  | notDirectory
  | brokenPipe
  | connectionAborted
  | connectionRefused
  | connectionReset
  | timedOut
  deriving DecidableEq, Repr

/-- The kind that an error number of the system stands for. -/
def SystemError.ofNumber : Int → SystemError
  | 1 | 13 => permission
  | 2 => notFound
  | 3 => noProcess
  | 4 => interrupted
  | 10 => noChild
  | 11 | 114 | 115 => wouldBlock
  | 17 => alreadyExists
  | 20 => notDirectory
  | 21 => isDirectory
  | 32 | 108 => brokenPipe
  | 103 => connectionAborted
  | 104 => connectionReset
  | 110 => timedOut
  | 111 => connectionRefused
  | _ => general

/-- The kinds of failures that callers tell apart. -/
inductive Failure.Kind where
  | value
  | encoding
  | overflow
  | wrongType
  | missingKey
  | position
  | memory
  | commander
  | startFailed
  | unavailable
  | unlisted
  | system (error : SystemError)
  | processQuery (denied : Bool)
  | cancelled
  | other (name : String)
  deriving DecidableEq, Repr

/-- What went wrong. -/
inductive Failure where
  /-- A position in the log below zero. -/
  | negativeCursor
  /-- A log ring without room for a line. -/
  | noRingCapacity
  /-- A display buffer without room for a character. -/
  | noBufferCapacity
  /-- An interval that is not positive. -/
  | notAnInterval
  /-- A debug level that the server does not have. -/
  | debugLevel (level : Int)
  /-- A command that the host does not know. -/
  | unknownCommand (name : String)
  /-- A role that no endpoint has. -/
  | unknownRole (role : Value)
  /-- A text with a NUL character where the system takes none. -/
  | embeddedNul
  /-- Code points from a position on that no encoding has. -/
  | unencodable (position : Nat) (points : List Nat)
  /-- A text that is no integer. -/
  | literal (fault : Numeric.Literal.Fault)
  /-- A message template that cannot be filled. -/
  | template (fault : Text.Template.Fault)
  /-- A number of seconds that is no number. -/
  | undefinedSeconds
  /-- An infinite number of seconds. -/
  | infiniteSeconds
  /-- A value that stands for no integer. -/
  | notANumber (kind : String)
  /-- An integer past the largest floating-point number. -/
  | pastReals
  /-- A size that no list has. -/
  | pastSizes
  /-- There is no memory for what was asked for. -/
  | noMemory
  /-- A position outside a list. -/
  | noSuchPosition
  /-- Something is to be ended, and nothing is open. -/
  | nothingOpen
  /-- A moment outside the range of the system clock. -/
  | pastMoments
  /-- A moment in a year that is too large. -/
  | pastYears
  /-- The server refused to start. -/
  | startFailed (code : Int) (message : Option String)
  /-- The program that keeps the host awake is not installed. -/
  | inhibitorMissing (program : String)
  /-- The program that keeps the host awake could not be run. -/
  | inhibitorFailed (program : String) (reason : String)
  /-- The network interfaces could not be listed. -/
  | interfacesUnlisted (reason : String)
  /-- A failed system call, with its error number if it has one. -/
  | system (error : SystemError) (number : Option Int) (reason : String)
  /-- A failure that an outside part reports. -/
  | reported (kind : Failure.Kind) (reason : String)
  deriving Inhabited

namespace Failure

/-- The lowest debug level of the server. -/
def lowestDebugLevel : Int := 0

/-- The highest debug level of the server. -/
def highestDebugLevel : Int := 9

/-- The kind of a failed message template. -/
def templateKind : Text.Template.Fault → Kind
  | .incomplete | .incompleteKey | .undefinedInteger | .unknownLetter .. | .tooBig _ | .unwritable =>
    .value
  | .missingKey _ => .missingKey
  | .characterRange | .infiniteInteger | .outsideWord _ | .pastReals | .precisionTooLarge =>
    .overflow
  | _ => .wrongType

/-- The kind of a failure. -/
def kind : Failure → Kind
  | negativeCursor | noRingCapacity | noBufferCapacity | notAnInterval | debugLevel _
  | unknownCommand _ | unknownRole _ | embeddedNul | literal _ | undefinedSeconds => .value
  | unencodable .. => .encoding
  | template fault => templateKind fault
  | infiniteSeconds | pastReals | pastSizes | pastMoments | pastYears => .overflow
  | notANumber _ => .wrongType
  | noMemory => .memory
  | noSuchPosition | nothingOpen => .position
  | startFailed .. => .startFailed
  | inhibitorMissing _ | inhibitorFailed .. => .unavailable
  | interfacesUnlisted _ => .unlisted
  | system error _ _ => .system error
  | reported kind _ => kind

/-- Words with a number in them. There are others for a number that cannot be written. -/
def numbered (number : Int) (words : String → String) : String :=
  match Numeric.Literal.write number with
  | .ok digits => words digits
  | .error fault => fault.text

/-- What a server says that refused to start with a code. -/
def startWords (code : Int) : String :=
  numbered code fun digits => s!"server start failed (code {digits})"

/-- Code points that cannot be encoded, as they are named in a message. -/
def pointsText (position : Nat) : List Nat → String
  | [point] => s!"character '{String.ofList (Text.escapeCode point)}' in position {position}"
  | points => s!"characters in position {position}-{position + points.length - 1}"

/-- What went wrong, in words. -/
def text : Failure → String
  | negativeCursor => "LogCursor.next_id must be >= 0"
  | noRingCapacity => "capacity must be > 0"
  | noBufferCapacity => "max_chars must be > 0"
  | notAnInterval => "interval must be > 0"
  | debugLevel level =>
    numbered level fun digits =>
      s!"debug_level must be in {lowestDebugLevel}..{highestDebugLevel}, got {digits}"
  | unknownCommand name => s!"{Text.quoted name} is not a valid HostCommand"
  | unknownRole role =>
    if role.isWritable then s!"{role.written} is not a valid EndpointRole"
    else Numeric.Literal.Fault.unwritable.text
  | embeddedNul => "embedded null byte"
  | unencodable position points =>
    s!"'utf-8' codec can't encode {pointsText position points}: surrogates not allowed"
  | literal fault => fault.text
  | template fault => fault.text
  | undefinedSeconds => "cannot convert float NaN to integer"
  | infiniteSeconds => "cannot convert float infinity to integer"
  | notANumber kind =>
    "int() argument must be a string, a bytes-like object or a real number, not " ++
      Text.quoted kind
  | pastReals => Text.Template.Fault.pastReals.text
  | pastSizes => "cannot fit 'int' into an index-sized integer"
  | noMemory => ""
  | noSuchPosition => "list index out of range"
  | nothingOpen => "pop from empty list"
  | pastMoments => "timestamp out of range for platform time_t"
  | pastYears => "signed integer is greater than maximum"
  | startFailed code message =>
    match message with
    | some words => if words.isEmpty then startWords code else words
    | none => startWords code
  | inhibitorMissing program => s!"{program} not found"
  | inhibitorFailed program reason => s!"failed to run {program}: {reason}"
  | interfacesUnlisted reason => reason
  | system _ number reason =>
    match number with
    | some number => s!"[Errno {number}] {reason}"
    | none => reason
  | reported (.missingKey) reason => Text.quoted reason
  | reported (.processQuery false) _ => ""
  | reported _ reason => reason

/-- A failed system call. -/
def isSystem (failure : Failure) : Bool :=
  failure.kind matches .system _

/-- A failure of the system or a text that is no value. -/
def isSystemOrValue (failure : Failure) : Bool :=
  failure.kind matches .system _ | .value | .encoding

/-- The resource to keep the host awake is not available. -/
def isUnavailable (failure : Failure) : Bool :=
  failure.kind == .unavailable

/-- The interfaces could not be listed. -/
def isUnlisted (failure : Failure) : Bool :=
  failure.kind matches .system _ | .processQuery _ | .unlisted

/-- The process to signal is gone. -/
def isGone (failure : Failure) : Bool :=
  failure.kind == .system .noProcess

/-- The process group to signal is gone or belongs to somebody else. -/
def isUnsignalled (failure : Failure) : Bool :=
  failure.kind matches .system .noProcess | .system .permission

/-- A failure of the services of the commander. -/
def isCommander (failure : Failure) : Bool :=
  failure.kind matches .commander | .startFailed | .unavailable | .unlisted

/-- A cancelled wait. Everything else is an ordinary failure. -/
def isCancelled (failure : Failure) : Bool :=
  failure.kind == .cancelled

/-- Why the system does not take a text, if it does not. -/
def ofText? (text : String) : Option Failure :=
  match Text.unencodable? text.toList with
  | some (position, points) => some (unencodable position points)
  | none => if text.contains '\x00' then some embeddedNul else none

/-- The failure of a server that refused to start with a code. A code that cannot be written is a
failure of its own. -/
def ofStartCode (code : Int) : Failure :=
  match Numeric.Literal.write code with
  | .ok _ => startFailed code none
  | .error fault => literal fault

/-- A failed system call with an error number. -/
def ofNumber (number : Int) (reason : String) : Failure :=
  system (SystemError.ofNumber number) (some number) reason

/-- The error number of a failed system call. -/
def number? : Failure → Option Int
  | system _ number _ => number
  | _ => none

end Failure

end Warden
