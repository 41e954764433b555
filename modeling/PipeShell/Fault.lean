/-!
# Faults of the operating system

What can go wrong when a file is opened or a program started.  Most faults carry the number that
the system reports; a few are found before the system is asked.  `Fault.message` is the text that
every error message of the shell quotes.
-/

namespace PipeShell

/-- Why an operation on a file or a program did not succeed. -/
inductive Fault where
  /-- The system refused with this error number. -/
  | system (code : Nat)
  /-- The bytes read are not text. -/
  | notText
  /-- A path holds the zero character, which no path can. -/
  | zeroInPath
  /-- An argument or a variable for a program holds the zero character. -/
  | zeroInData
  /-- A fault described in words only. -/
  | stated (text : String)
deriving Repr, DecidableEq, Inhabited

namespace Fault

/-- No such file. -/
@[match_pattern] abbrev notFound : Fault := .system 2

/-- The file cannot be run. -/
@[match_pattern] abbrev notPermitted : Fault := .system 13

/-- A new name is taken already. -/
@[match_pattern] abbrev alreadyExists : Fault := .system 17

/-- A part of the path, or the whole path, should be a directory and is none. -/
@[match_pattern] abbrev notADirectory : Fault := .system 20

/-- A directory stands where a file is needed. -/
@[match_pattern] abbrev isADirectory : Fault := .system 21

/-- The file is neither a program nor a script. -/
@[match_pattern] abbrev notAProgram : Fault := .system 8

/-- A name or a path has too many bytes. -/
@[match_pattern] abbrev nameTooLong : Fault := .system 36

/-- There is no room for what is to be written. -/
@[match_pattern] abbrev noSpace : Fault := .system 28

/-- A channel is not open, or not for this. -/
@[match_pattern] abbrev badChannel : Fault := .system 9

/-- What was written cannot be read by anyone. -/
@[match_pattern] abbrev brokenPipe : Fault := .system 32

/-- A directory to be removed still holds something. -/
@[match_pattern] abbrev notEmpty : Fault := .system 39

/-- Links lead to links without end. -/
@[match_pattern] abbrev tooManyLinks : Fault := .system 40

/-- The texts of the system's error numbers, from zero on. -/
def systemTexts : Array String :=
  #["Success", "Operation not permitted", "No such file or directory", "No such process",
  "Interrupted system call", "Input/output error", "No such device or address",
  "Argument list too long", "Exec format error", "Bad file descriptor", "No child processes",
  "Resource temporarily unavailable", "Cannot allocate memory", "Permission denied",
  "Bad address", "Block device required", "Device or resource busy", "File exists",
  "Invalid cross-device link", "No such device", "Not a directory", "Is a directory",
  "Invalid argument", "Too many open files in system", "Too many open files",
  "Inappropriate ioctl for device", "Text file busy", "File too large", "No space left on device",
  "Illegal seek", "Read-only file system", "Too many links", "Broken pipe",
  "Numerical argument out of domain", "Numerical result out of range",
  "Resource deadlock avoided", "File name too long", "No locks available",
  "Function not implemented", "Directory not empty", "Too many levels of symbolic links",
  "Unknown error 41", "No message of desired type", "Identifier removed",
  "Channel number out of range", "Level 2 not synchronized", "Level 3 halted", "Level 3 reset",
  "Link number out of range", "Protocol driver not attached", "No CSI structure available",
  "Level 2 halted", "Invalid exchange", "Invalid request descriptor", "Exchange full", "No anode",
  "Invalid request code", "Invalid slot", "Unknown error 58", "Bad font file format",
  "Device not a stream", "No data available", "Timer expired", "Out of streams resources",
  "Machine is not on the network", "Package not installed", "Object is remote",
  "Link has been severed", "Advertise error", "Srmount error", "Communication error on send",
  "Protocol error", "Multihop attempted", "RFS specific error", "Bad message",
  "Value too large for defined data type", "Name not unique on network",
  "File descriptor in bad state", "Remote address changed",
  "Can not access a needed shared library", "Accessing a corrupted shared library",
  ".lib section in a.out corrupted", "Attempting to link in too many shared libraries",
  "Cannot exec a shared library directly", "Invalid or incomplete multibyte or wide character",
  "Interrupted system call should be restarted", "Streams pipe error", "Too many users",
  "Socket operation on non-socket", "Destination address required", "Message too long",
  "Protocol wrong type for socket", "Protocol not available", "Protocol not supported",
  "Socket type not supported", "Operation not supported", "Protocol family not supported",
  "Address family not supported by protocol", "Address already in use",
  "Cannot assign requested address", "Network is down", "Network is unreachable",
  "Network dropped connection on reset", "Software caused connection abort",
  "Connection reset by peer", "No buffer space available",
  "Transport endpoint is already connected", "Transport endpoint is not connected",
  "Cannot send after transport endpoint shutdown", "Too many references: cannot splice",
  "Connection timed out", "Connection refused", "Host is down", "No route to host",
  "Operation already in progress", "Operation now in progress", "Stale file handle",
  "Structure needs cleaning", "Not a XENIX named type file", "No XENIX semaphores available",
  "Is a named type file", "Remote I/O error", "Disk quota exceeded", "No medium found",
  "Wrong medium type", "Operation canceled", "Required key not available", "Key has expired",
  "Key has been revoked", "Key was rejected by service", "Owner died", "State not recoverable",
  "Operation not possible due to RF-kill", "Memory page has hardware error"]

/-- The text of an error number. -/
def systemText (code : Nat) : String :=
  systemTexts.getD code ("Unknown error " ++ toString code)

/-- The text shown to the user. -/
def message : Fault → String
  | system code => systemText code ++ " (os error " ++ toString code ++ ")"
  | notText => "stream did not contain valid UTF-8"
  | zeroInPath => "file name contained an unexpected NUL byte"
  | zeroInData => "nul byte found in provided data"
  | stated text => text

end Fault

end PipeShell
