/-! # Kinds of failures

A failure is reported under the name of its class, and classes form a hierarchy: a handler for a
class also takes the failures of the classes below it. The kinds are those of the host system and
its serial driver, those of the package itself, those of the bridge transport and those of the
secure element behind it. Each kind has a name and the classes directly above it; `ancestors` lists
every class above a class.
-/

namespace Hexwire

/-- Kinds of failures that the host system and its serial driver raise. -/
inductive HostKind where
  | any
  | arithmetic
  | assertion
  | missingAttribute
  | blockingIO
  | brokenPipe
  | buffer
  | childProcess
  | connection
  | connectionAborted
  | connectionRefused
  | connectionReset
  | decimalOperation
  | decimalZero
  | endOfFile
  | fileExists
  | fileNotFound
  | floatingPoint
  | grammar
  | importing
  | index
  | interrupted
  | isADirectory
  | key
  | keyboardInterrupt
  | layout
  | lookup
  | memory
  | moduleNotFound
  | notADirectory
  | notImplemented
  | os
  | overflow
  | pattern
  | permission
  | processLookup
  | recursion
  | reference
  | runtime
  | serial
  | serialTimeout
  | stopIteration
  | system
  | timeout
  | type
  | unboundName
  | unicode
  | unicodeDecode
  | unknownName
  | url
  | value
  | zeroDivision
  deriving DecidableEq, Repr, Inhabited

/-- Kinds of failures that the package raises outside the transport. -/
inductive PackageKind where
  | general
  | value
  | key
  | connection
  | timeout
  deriving DecidableEq, Repr

/-- Kinds of failures of the bridge transport. The carrier of a secure-element failure is not among
them: it is a failure of its own form. -/
inductive BridgeKind where
  | general
  | io
  | permission
  | timeout
  | invalidResponse
  | dataTooLong
  | nonUtf8Hex
  | invalidHexDigit
  | invalidBufferLength
  deriving DecidableEq, Repr

/-- Kinds of failures of the secure element. -/
inductive DeviceKind where
  | alarmMode
  | busError
  | chipBusy
  | decryption
  | encryption
  | gpioError
  | handshakeFailed
  | invalidChipStatus
  | invalidCrc
  | invalidKey
  | invalidL2Response
  | invalidL3Command
  | invalidPublicKey
  | l2ResponseError
  | l3CommandFailed
  | l3ResponseBufferOverflow
  | noSession
  | parsingError
  | requestExceedsSize
  | unauthorized
  | unexpectedResponseStatus
  deriving DecidableEq, Repr

namespace HostKind

/-- Every kind of host failure. -/
def all : List HostKind :=
  [.any, .arithmetic, .assertion, .missingAttribute, .blockingIO, .brokenPipe, .buffer,
   .childProcess, .connection, .connectionAborted, .connectionRefused, .connectionReset,
   .decimalOperation, .decimalZero, .endOfFile, .fileExists, .fileNotFound, .floatingPoint,
   .grammar, .importing, .index, .interrupted, .isADirectory, .key, .keyboardInterrupt, .layout,
   .lookup, .memory, .moduleNotFound, .notADirectory, .notImplemented, .os, .overflow, .pattern,
   .permission, .processLookup, .recursion, .reference, .runtime, .serial, .serialTimeout,
   .stopIteration, .system, .timeout, .type, .unboundName, .unicode, .unicodeDecode, .unknownName,
   .url, .value, .zeroDivision]

/-- The name of a kind's class. -/
def name : HostKind → String
  | any => "Exception"
  | arithmetic => "ArithmeticError"
  | assertion => "AssertionError"
  | missingAttribute => "AttributeError"
  | blockingIO => "BlockingIOError"
  | brokenPipe => "BrokenPipeError"
  | buffer => "BufferError"
  | childProcess => "ChildProcessError"
  | connection => "ConnectionError"
  | connectionAborted => "ConnectionAbortedError"
  | connectionRefused => "ConnectionRefusedError"
  | connectionReset => "ConnectionResetError"
  | decimalOperation => "InvalidOperation"
  | decimalZero => "DivisionByZero"
  | endOfFile => "EOFError"
  | fileExists => "FileExistsError"
  | fileNotFound => "FileNotFoundError"
  | floatingPoint => "FloatingPointError"
  | grammar => "SyntaxError"
  | importing => "ImportError"
  | index => "IndexError"
  | interrupted => "InterruptedError"
  | isADirectory => "IsADirectoryError"
  | key => "KeyError"
  | keyboardInterrupt => "KeyboardInterrupt"
  | layout => "IndentationError"
  | lookup => "LookupError"
  | memory => "MemoryError"
  | moduleNotFound => "ModuleNotFoundError"
  | notADirectory => "NotADirectoryError"
  | notImplemented => "NotImplementedError"
  | os => "OSError"
  | overflow => "OverflowError"
  | pattern => "error"
  | permission => "PermissionError"
  | processLookup => "ProcessLookupError"
  | recursion => "RecursionError"
  | reference => "ReferenceError"
  | runtime => "RuntimeError"
  | serial => "SerialException"
  | serialTimeout => "SerialTimeoutException"
  | stopIteration => "StopIteration"
  | system => "SystemError"
  | timeout => "TimeoutError"
  | type => "TypeError"
  | unboundName => "UnboundLocalError"
  | unicode => "UnicodeError"
  | unicodeDecode => "UnicodeDecodeError"
  | unknownName => "NameError"
  | url => "URLError"
  | value => "ValueError"
  | zeroDivision => "ZeroDivisionError"

/-- The class directly above a kind, if it is one of the kinds. The interrupt from the keyboard
stands apart from all others. -/
def parent? : HostKind → Option HostKind
  | any => none
  | keyboardInterrupt => none
  | blockingIO | childProcess | connection | fileExists | fileNotFound | interrupted
  | isADirectory | notADirectory | permission | processLookup | serial | timeout | url => some os
  | brokenPipe | connectionAborted | connectionRefused | connectionReset => some connection
  | index | key => some lookup
  | layout => some grammar
  | moduleNotFound => some importing
  | notImplemented | recursion => some runtime
  | decimalOperation | floatingPoint | overflow | zeroDivision => some arithmetic
  | decimalZero => some zeroDivision
  | unboundName => some unknownName
  | serialTimeout => some serial
  | unicode => some value
  | unicodeDecode => some unicode
  | _ => some any

/-- A kind and the kinds above it, as far as the given count of steps. -/
def upwards (kind : HostKind) : Nat → List HostKind
  | 0 => [kind]
  | steps + 1 => kind :: match kind.parent? with
    | some above => above.upwards steps
    | none => []

/-- A kind and every kind above it; no chain is longer than four. -/
def lineage (kind : HostKind) : List HostKind := kind.upwards 4

/-- Whether a failure of the first kind is one of the second. -/
def isA (kind above : HostKind) : Bool := kind.lineage.contains above

/-- The kind that the host chooses for a system failure with the given number. -/
def ofNumber? (number : Int) : Option HostKind :=
  if number = 1 || number = 13 then some permission
  else if number = 2 then some fileNotFound
  else if number = 3 then some processLookup
  else if number = 4 then some interrupted
  else if number = 10 then some childProcess
  else if number = 11 || number = 114 || number = 115 then some blockingIO
  else if number = 17 then some fileExists
  else if number = 20 then some notADirectory
  else if number = 21 then some isADirectory
  else if number = 32 || number = 108 then some brokenPipe
  else if number = 103 then some connectionAborted
  else if number = 104 then some connectionReset
  else if number = 110 then some timeout
  else if number = 111 then some connectionRefused
  else none

end HostKind

namespace PackageKind

/-- Every kind of package failure. -/
def all : List PackageKind := [.general, .value, .key, .connection, .timeout]

/-- The name of a kind's class. -/
def name : PackageKind → String
  | general => "HexSpiError"
  | value => "HexSpiValueError"
  | key => "HexSpiKeyError"
  | connection => "HexSpiConnectionError"
  | timeout => "HexSpiTimeoutError"

/-- The host class that a kind also belongs to. -/
def host? : PackageKind → Option HostKind
  | general => none
  | value => some .value
  | key => some .key
  | connection => some .connection
  | timeout => some .timeout

end PackageKind

namespace BridgeKind

/-- Every kind of bridge failure. -/
def all : List BridgeKind :=
  [.general, .io, .permission, .timeout, .invalidResponse, .dataTooLong, .nonUtf8Hex,
   .invalidHexDigit, .invalidBufferLength]

/-- The name of a kind's class. -/
def name : BridgeKind → String
  | general => "BridgeError"
  | io => "BridgeIOError"
  | permission => "BridgePermissionError"
  | timeout => "BridgeTimeoutError"
  | invalidResponse => "BridgeInvalidResponseError"
  | dataTooLong => "BridgeDataTooLongError"
  | nonUtf8Hex => "BridgeNonUtf8HexError"
  | invalidHexDigit => "BridgeInvalidHexDigitError"
  | invalidBufferLength => "BridgeInvalidBufferLengthError"

/-- Whether a kind is a failure of the serial line itself. -/
def isIo : BridgeKind → Bool
  | io | permission | timeout => true
  | _ => false

/-- The description used where none is given. -/
def defaultDescription? : BridgeKind → Option String
  | invalidResponse => some "Invalid response from device"
  | dataTooLong => some "Data too long for transport"
  | nonUtf8Hex => some "Non-UTF8 hex characters in response"
  | invalidHexDigit => some "Invalid hex digit in response"
  | invalidBufferLength => some "Invalid buffer length"
  | _ => none

/-- What stands before the description in a message. -/
def heading : BridgeKind → String
  | io | permission => "Bridge: USB/Serial I/O error -> "
  | timeout => "Bridge: Timeout -> "
  | _ => "Bridge: "

end BridgeKind

namespace DeviceKind

/-- Every kind of secure-element failure. -/
def all : List DeviceKind :=
  [.alarmMode, .busError, .chipBusy, .decryption, .encryption, .gpioError, .handshakeFailed,
   .invalidChipStatus, .invalidCrc, .invalidKey, .invalidL2Response, .invalidL3Command,
   .invalidPublicKey, .l2ResponseError, .l3CommandFailed, .l3ResponseBufferOverflow, .noSession,
   .parsingError, .requestExceedsSize, .unauthorized, .unexpectedResponseStatus]

/-- The symbolic name of a kind. -/
def name : DeviceKind → String
  | alarmMode => "ALARM_MODE"
  | busError => "BUS_ERROR"
  | chipBusy => "CHIP_BUSY"
  | decryption => "DECRYPTION"
  | encryption => "ENCRYPTION"
  | gpioError => "GPIO_ERROR"
  | handshakeFailed => "HANDSHAKE_FAILED"
  | invalidChipStatus => "INVALID_CHIP_STATUS"
  | invalidCrc => "INVALID_CRC"
  | invalidKey => "INVALID_KEY"
  | invalidL2Response => "INVALID_L2_RESPONSE"
  | invalidL3Command => "INVALID_L3_CMD"
  | invalidPublicKey => "INVALID_PUBLIC_KEY"
  | l2ResponseError => "L2_RESPONSE_ERROR"
  | l3CommandFailed => "L3_CMD_FAILED"
  | l3ResponseBufferOverflow => "L3_RESPONSE_BUFFER_OVERFLOW"
  | noSession => "NO_SESSION"
  | parsingError => "PARSING_ERROR"
  | requestExceedsSize => "REQUEST_EXCEEDS_SIZE"
  | unauthorized => "UNAUTHORIZED"
  | unexpectedResponseStatus => "UNEXPECTED_RESPONSE_STATUS"

/-- What a kind says in a message. -/
def text : DeviceKind → String
  | alarmMode => "Chip is in alarm mode"
  | busError => "Bus error"
  | chipBusy => "Chip is busy"
  | decryption => "Decryption failed"
  | encryption => "Encryption failed"
  | gpioError => "GPIO error"
  | handshakeFailed => "Handshake failed"
  | invalidChipStatus => "Invalid chip status"
  | invalidCrc => "Invalid CRC"
  | invalidKey => "Invalid key"
  | invalidL2Response => "Invalid L2 response"
  | invalidL3Command => "Invalid L3 command"
  | invalidPublicKey => "Invalid public key"
  | l2ResponseError => "L2 response error"
  | l3CommandFailed => "L3 command failed"
  | l3ResponseBufferOverflow => "L3 response buffer overflow"
  | noSession => "No secure session"
  | parsingError => "Parsing error"
  | requestExceedsSize => "Request exceeds size"
  | unauthorized => "Unauthorized"
  | unexpectedResponseStatus => "Unexpected response status"

end DeviceKind

end Hexwire
