/-!
# Codes of failed system calls

What a system call reports when it fails, and how the codes are worded: those of
the calls themselves (`Errno`) and those of looking up a host name
(`LookupCode`).
-/

namespace ClockSync.Net

/-- The wording of a code in runs of wordings, each for consecutive codes from
its first one on. -/
def worded? (runs : List (Nat × List String)) (code : Nat) : Option String :=
  runs.findSome? fun (first, wordings) =>
    if first ≤ code then wordings[code - first]? else none

/-- The code a failed system call leaves. -/
structure Errno where
  code : Int
deriving DecidableEq, Repr, Inhabited

namespace Errno

def interrupted : Errno := ⟨4⟩
def badDescriptor : Errno := ⟨9⟩
def tryAgain : Errno := ⟨11⟩
def invalidArgument : Errno := ⟨22⟩
def brokenPipe : Errno := ⟨32⟩
def destinationRequired : Errno := ⟨89⟩
def messageTooLong : Errno := ⟨90⟩
def addressInUse : Errno := ⟨98⟩
def networkUnreachable : Errno := ⟨101⟩
def connectionRefused : Errno := ⟨111⟩

/-! ### Wordings -/

/-- The wordings of the codes from 0 to 40. -/
def general : List String := [
  "Success", "Operation not permitted", "No such file or directory",
  "No such process", "Interrupted system call", "Input/output error",
  "No such device or address", "Argument list too long", "Exec format error",
  "Bad file descriptor", "No child processes",
  "Resource temporarily unavailable", "Cannot allocate memory",
  "Permission denied", "Bad address", "Block device required",
  "Device or resource busy", "File exists", "Invalid cross-device link",
  "No such device", "Not a directory", "Is a directory", "Invalid argument",
  "Too many open files in system", "Too many open files",
  "Inappropriate ioctl for device", "Text file busy", "File too large",
  "No space left on device", "Illegal seek", "Read-only file system",
  "Too many links", "Broken pipe", "Numerical argument out of domain",
  "Numerical result out of range", "Resource deadlock avoided",
  "File name too long", "No locks available", "Function not implemented",
  "Directory not empty", "Too many levels of symbolic links"]

/-- The wordings of the codes from 42 to 57, most of them about links. -/
def links : List String := [
  "No message of desired type", "Identifier removed",
  "Channel number out of range", "Level 2 not synchronized", "Level 3 halted",
  "Level 3 reset", "Link number out of range", "Protocol driver not attached",
  "No CSI structure available", "Level 2 halted", "Invalid exchange",
  "Invalid request descriptor", "Exchange full", "No anode",
  "Invalid request code", "Invalid slot"]

/-- The wordings of the codes from 59 to 87, those of streams and of
programs. -/
def streams : List String := [
  "Bad font file format", "Device not a stream", "No data available",
  "Timer expired", "Out of streams resources", "Machine is not on the network",
  "Package not installed", "Object is remote", "Link has been severed",
  "Advertise error", "Srmount error", "Communication error on send",
  "Protocol error", "Multihop attempted", "RFS specific error", "Bad message",
  "Value too large for defined data type", "Name not unique on network",
  "File descriptor in bad state", "Remote address changed",
  "Can not access a needed shared library",
  "Accessing a corrupted shared library", ".lib section in a.out corrupted",
  "Attempting to link in too many shared libraries",
  "Cannot exec a shared library directly",
  "Invalid or incomplete multibyte or wide character",
  "Interrupted system call should be restarted", "Streams pipe error",
  "Too many users"]

/-- The wordings of the codes from 88 to 115, those of networks. -/
def network : List String := [
  "Socket operation on non-socket", "Destination address required",
  "Message too long", "Protocol wrong type for socket",
  "Protocol not available", "Protocol not supported",
  "Socket type not supported", "Operation not supported",
  "Protocol family not supported", "Address family not supported by protocol",
  "Address already in use", "Cannot assign requested address",
  "Network is down", "Network is unreachable",
  "Network dropped connection on reset", "Software caused connection abort",
  "Connection reset by peer", "No buffer space available",
  "Transport endpoint is already connected",
  "Transport endpoint is not connected",
  "Cannot send after transport endpoint shutdown",
  "Too many references: cannot splice", "Connection timed out",
  "Connection refused", "Host is down", "No route to host",
  "Operation already in progress", "Operation now in progress"]

/-- The wordings of the codes from 116 to 133. -/
def further : List String := [
  "Stale file handle", "Structure needs cleaning",
  "Not a XENIX named type file", "No XENIX semaphores available",
  "Is a named type file", "Remote I/O error", "Disk quota exceeded",
  "No medium found", "Wrong medium type", "Operation canceled",
  "Required key not available", "Key has expired", "Key has been revoked",
  "Key was rejected by service", "Owner died", "State not recoverable",
  "Operation not possible due to RF-kill", "Memory page has hardware error"]

/-- All wordings, in runs that start at a code. No code between the runs has a
wording of its own. -/
def runs : List (Nat × List String) :=
  [(0, general), (42, links), (59, streams), (88, network), (116, further)]

/-- The wording of a code. -/
def text (e : Errno) : String :=
  match if e.code < 0 then none else worded? runs e.code.toNat with
  | some text => text
  | none => s!"Unknown error {e.code}"

/-- A failed call as an error text shows it, after the name of what failed. -/
def describe (e : Errno) (what : String) : String :=
  s!"{what} (errno {e.code}: {e.text})"

example : (Errno.mk 98).describe "bind failed" =
    "bind failed (errno 98: Address already in use)" := by decide +kernel
example : (Errno.mk 71).text = "Protocol error" := by decide +kernel
example : (Errno.mk 58).text = "Unknown error 58" := by decide +kernel
example : (Errno.mk 133).text = "Memory page has hardware error" := by
  decide +kernel

end Errno

/-- The code a failed look-up of a host name gives. -/
structure LookupCode where
  code : Int
deriving DecidableEq, Repr, Inhabited

namespace LookupCode

def nameUnknown : LookupCode := ⟨-2⟩
def familyUnsupported : LookupCode := ⟨-9⟩

/-- The wordings of the codes from -1 to -11. -/
def outcomes : List String := [
  "Bad value for ai_flags", "Name or service not known",
  "Temporary failure in name resolution",
  "Non-recoverable failure in name resolution",
  "No address associated with hostname", "ai_family not supported",
  "ai_socktype not supported", "Servname not supported for ai_socktype",
  "Address family for hostname not supported", "Memory allocation failure",
  "System error"]

/-- The wordings of the codes from -100 to -105, those of look-ups that go on in
the background, and of names that cannot be encoded. -/
def background : List String := [
  "Processing request in progress", "Request canceled", "Request not canceled",
  "All requests done", "Interrupted by a signal",
  "Parameter string not correctly encoded"]

/-- The wording of a code. Only negative codes have one of their own. -/
def text (c : LookupCode) : String :=
  let worded := worded? [(1, outcomes), (100, background)] (-c.code).toNat
  (if c.code < 0 then worded else none).getD "Unknown error"

example :
    familyUnsupported.text = "Address family for hostname not supported" := by
  decide +kernel
example :
    (LookupCode.mk (-105)).text = "Parameter string not correctly encoded" := by
  decide +kernel

end LookupCode

end ClockSync.Net
