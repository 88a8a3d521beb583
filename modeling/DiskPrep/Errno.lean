import DiskPrep.Text.Basic

/-!
Error numbers of the kernel. Each has a symbol and two wordings: the one of the
system library, which says what happened to the caller, and the one of the
kernel's own header.
-/
namespace DiskPrep

structure Errno.Entry where
  number : Int
  symbol : String
  systemText : String
  headerText : String
  deriving Repr

/-- The error numbers in use; 41 and 58 are gaps. -/
def Errno.entries : List Errno.Entry :=
  [⟨1, "EPERM", "Operation not permitted", "Operation not permitted"⟩,
   ⟨2, "ENOENT", "No such file or directory", "No such file or directory"⟩,
   ⟨3, "ESRCH", "No such process", "No such process"⟩,
   ⟨4, "EINTR", "Interrupted system call", "Interrupted system call"⟩,
   ⟨5, "EIO", "Input/output error", "I/O error"⟩,
   ⟨6, "ENXIO", "No such device or address", "No such device or address"⟩,
   ⟨7, "E2BIG", "Argument list too long", "Argument list too long"⟩,
   ⟨8, "ENOEXEC", "Exec format error", "Exec format error"⟩,
   ⟨9, "EBADF", "Bad file descriptor", "Bad file number"⟩,
   ⟨10, "ECHILD", "No child processes", "No child processes"⟩,
   ⟨11, "EAGAIN", "Resource temporarily unavailable", "Try again"⟩,
   ⟨12, "ENOMEM", "Cannot allocate memory", "Out of memory"⟩,
   ⟨13, "EACCES", "Permission denied", "Permission denied"⟩,
   ⟨14, "EFAULT", "Bad address", "Bad address"⟩,
   ⟨15, "ENOTBLK", "Block device required", "Block device required"⟩,
   ⟨16, "EBUSY", "Device or resource busy", "Device or resource busy"⟩,
   ⟨17, "EEXIST", "File exists", "File exists"⟩,
   ⟨18, "EXDEV", "Invalid cross-device link", "Cross-device link"⟩,
   ⟨19, "ENODEV", "No such device", "No such device"⟩,
   ⟨20, "ENOTDIR", "Not a directory", "Not a directory"⟩,
   ⟨21, "EISDIR", "Is a directory", "Is a directory"⟩,
   ⟨22, "EINVAL", "Invalid argument", "Invalid argument"⟩,
   ⟨23, "ENFILE", "Too many open files in system", "File table overflow"⟩,
   ⟨24, "EMFILE", "Too many open files", "Too many open files"⟩,
   ⟨25, "ENOTTY", "Inappropriate ioctl for device", "Not a typewriter"⟩,
   ⟨26, "ETXTBSY", "Text file busy", "Text file busy"⟩,
   ⟨27, "EFBIG", "File too large", "File too large"⟩,
   ⟨28, "ENOSPC", "No space left on device", "No space left on device"⟩,
   ⟨29, "ESPIPE", "Illegal seek", "Illegal seek"⟩,
   ⟨30, "EROFS", "Read-only file system", "Read-only file system"⟩,
   ⟨31, "EMLINK", "Too many links", "Too many links"⟩,
   ⟨32, "EPIPE", "Broken pipe", "Broken pipe"⟩,
   ⟨33, "EDOM", "Numerical argument out of domain", "Math argument out of domain of func"⟩,
   ⟨34, "ERANGE", "Numerical result out of range", "Math result not representable"⟩,
   ⟨35, "EDEADLK", "Resource deadlock avoided", "Resource deadlock would occur"⟩,
   ⟨36, "ENAMETOOLONG", "File name too long", "File name too long"⟩,
   ⟨37, "ENOLCK", "No locks available", "No record locks available"⟩,
   ⟨38, "ENOSYS", "Function not implemented", "Function not implemented"⟩,
   ⟨39, "ENOTEMPTY", "Directory not empty", "Directory not empty"⟩,
   ⟨40, "ELOOP", "Too many levels of symbolic links", "Too many symbolic links encountered"⟩,
   ⟨42, "ENOMSG", "No message of desired type", "No message of desired type"⟩,
   ⟨43, "EIDRM", "Identifier removed", "Identifier removed"⟩,
   ⟨44, "ECHRNG", "Channel number out of range", "Channel number out of range"⟩,
   ⟨45, "EL2NSYNC", "Level 2 not synchronized", "Level 2 not synchronized"⟩,
   ⟨46, "EL3HLT", "Level 3 halted", "Level 3 halted"⟩,
   ⟨47, "EL3RST", "Level 3 reset", "Level 3 reset"⟩,
   ⟨48, "ELNRNG", "Link number out of range", "Link number out of range"⟩,
   ⟨49, "EUNATCH", "Protocol driver not attached", "Protocol driver not attached"⟩,
   ⟨50, "ENOCSI", "No CSI structure available", "No CSI structure available"⟩,
   ⟨51, "EL2HLT", "Level 2 halted", "Level 2 halted"⟩,
   ⟨52, "EBADE", "Invalid exchange", "Invalid exchange"⟩,
   ⟨53, "EBADR", "Invalid request descriptor", "Invalid request descriptor"⟩,
   ⟨54, "EXFULL", "Exchange full", "Exchange full"⟩,
   ⟨55, "ENOANO", "No anode", "No anode"⟩,
   ⟨56, "EBADRQC", "Invalid request code", "Invalid request code"⟩,
   ⟨57, "EBADSLT", "Invalid slot", "Invalid slot"⟩,
   ⟨59, "EBFONT", "Bad font file format", "Bad font file format"⟩,
   ⟨60, "ENOSTR", "Device not a stream", "Device not a stream"⟩,
   ⟨61, "ENODATA", "No data available", "No data available"⟩,
   ⟨62, "ETIME", "Timer expired", "Timer expired"⟩,
   ⟨63, "ENOSR", "Out of streams resources", "Out of streams resources"⟩,
   ⟨64, "ENONET", "Machine is not on the network", "Machine is not on the network"⟩,
   ⟨65, "ENOPKG", "Package not installed", "Package not installed"⟩,
   ⟨66, "EREMOTE", "Object is remote", "Object is remote"⟩,
   ⟨67, "ENOLINK", "Link has been severed", "Link has been severed"⟩,
   ⟨68, "EADV", "Advertise error", "Advertise error"⟩,
   ⟨69, "ESRMNT", "Srmount error", "Srmount error"⟩,
   ⟨70, "ECOMM", "Communication error on send", "Communication error on send"⟩,
   ⟨71, "EPROTO", "Protocol error", "Protocol error"⟩,
   ⟨72, "EMULTIHOP", "Multihop attempted", "Multihop attempted"⟩,
   ⟨73, "EDOTDOT", "RFS specific error", "RFS specific error"⟩,
   ⟨74, "EBADMSG", "Bad message", "Not a data message"⟩,
   ⟨75, "EOVERFLOW", "Value too large for defined data type", "Value too large for defined data type"⟩,
   ⟨76, "ENOTUNIQ", "Name not unique on network", "Name not unique on network"⟩,
   ⟨77, "EBADFD", "File descriptor in bad state", "File descriptor in bad state"⟩,
   ⟨78, "EREMCHG", "Remote address changed", "Remote address changed"⟩,
   ⟨79, "ELIBACC", "Can not access a needed shared library", "Can not access a needed shared library"⟩,
   ⟨80, "ELIBBAD", "Accessing a corrupted shared library", "Accessing a corrupted shared library"⟩,
   ⟨81, "ELIBSCN", ".lib section in a.out corrupted", ".lib section in a.out corrupted"⟩,
   ⟨82, "ELIBMAX", "Attempting to link in too many shared libraries", "Attempting to link in too many shared libraries"⟩,
   ⟨83, "ELIBEXEC", "Cannot exec a shared library directly", "Cannot exec a shared library directly"⟩,
   ⟨84, "EILSEQ", "Invalid or incomplete multibyte or wide character", "Illegal byte sequence"⟩,
   ⟨85, "ERESTART", "Interrupted system call should be restarted", "Interrupted system call should be restarted"⟩,
   ⟨86, "ESTRPIPE", "Streams pipe error", "Streams pipe error"⟩,
   ⟨87, "EUSERS", "Too many users", "Too many users"⟩,
   ⟨88, "ENOTSOCK", "Socket operation on non-socket", "Socket operation on non-socket"⟩,
   ⟨89, "EDESTADDRREQ", "Destination address required", "Destination address required"⟩,
   ⟨90, "EMSGSIZE", "Message too long", "Message too long"⟩,
   ⟨91, "EPROTOTYPE", "Protocol wrong type for socket", "Protocol wrong type for socket"⟩,
   ⟨92, "ENOPROTOOPT", "Protocol not available", "Protocol not available"⟩,
   ⟨93, "EPROTONOSUPPORT", "Protocol not supported", "Protocol not supported"⟩,
   ⟨94, "ESOCKTNOSUPPORT", "Socket type not supported", "Socket type not supported"⟩,
   ⟨95, "EOPNOTSUPP", "Operation not supported", "Operation not supported on transport endpoint"⟩,
   ⟨96, "EPFNOSUPPORT", "Protocol family not supported", "Protocol family not supported"⟩,
   ⟨97, "EAFNOSUPPORT", "Address family not supported by protocol", "Address family not supported by protocol"⟩,
   ⟨98, "EADDRINUSE", "Address already in use", "Address already in use"⟩,
   ⟨99, "EADDRNOTAVAIL", "Cannot assign requested address", "Cannot assign requested address"⟩,
   ⟨100, "ENETDOWN", "Network is down", "Network is down"⟩,
   ⟨101, "ENETUNREACH", "Network is unreachable", "Network is unreachable"⟩,
   ⟨102, "ENETRESET", "Network dropped connection on reset", "Network dropped connection because of reset"⟩,
   ⟨103, "ECONNABORTED", "Software caused connection abort", "Software caused connection abort"⟩,
   ⟨104, "ECONNRESET", "Connection reset by peer", "Connection reset by peer"⟩,
   ⟨105, "ENOBUFS", "No buffer space available", "No buffer space available"⟩,
   ⟨106, "EISCONN", "Transport endpoint is already connected", "Transport endpoint is already connected"⟩,
   ⟨107, "ENOTCONN", "Transport endpoint is not connected", "Transport endpoint is not connected"⟩,
   ⟨108, "ESHUTDOWN", "Cannot send after transport endpoint shutdown", "Cannot send after transport endpoint shutdown"⟩,
   ⟨109, "ETOOMANYREFS", "Too many references: cannot splice", "Too many references: cannot splice"⟩,
   ⟨110, "ETIMEDOUT", "Connection timed out", "Connection timed out"⟩,
   ⟨111, "ECONNREFUSED", "Connection refused", "Connection refused"⟩,
   ⟨112, "EHOSTDOWN", "Host is down", "Host is down"⟩,
   ⟨113, "EHOSTUNREACH", "No route to host", "No route to host"⟩,
   ⟨114, "EALREADY", "Operation already in progress", "Operation already in progress"⟩,
   ⟨115, "EINPROGRESS", "Operation now in progress", "Operation now in progress"⟩,
   ⟨116, "ESTALE", "Stale file handle", "Stale file handle"⟩,
   ⟨117, "EUCLEAN", "Structure needs cleaning", "Structure needs cleaning"⟩,
   ⟨118, "ENOTNAM", "Not a XENIX named type file", "Not a XENIX named type file"⟩,
   ⟨119, "ENAVAIL", "No XENIX semaphores available", "No XENIX semaphores available"⟩,
   ⟨120, "EISNAM", "Is a named type file", "Is a named type file"⟩,
   ⟨121, "EREMOTEIO", "Remote I/O error", "Remote I/O error"⟩,
   ⟨122, "EDQUOT", "Disk quota exceeded", "Quota exceeded"⟩,
   ⟨123, "ENOMEDIUM", "No medium found", "No medium found"⟩,
   ⟨124, "EMEDIUMTYPE", "Wrong medium type", "Wrong medium type"⟩,
   ⟨125, "ECANCELED", "Operation canceled", "Operation canceled"⟩,
   ⟨126, "ENOKEY", "Required key not available", "Required key not available"⟩,
   ⟨127, "EKEYEXPIRED", "Key has expired", "Key has expired"⟩,
   ⟨128, "EKEYREVOKED", "Key has been revoked", "Key has been revoked"⟩,
   ⟨129, "EKEYREJECTED", "Key was rejected by service", "Key was rejected by service"⟩,
   ⟨130, "EOWNERDEAD", "Owner died", "Owner died"⟩,
   ⟨131, "ENOTRECOVERABLE", "State not recoverable", "State not recoverable"⟩,
   ⟨132, "ERFKILL", "Operation not possible due to RF-kill", "Operation not possible due to RF-kill"⟩,
   ⟨133, "EHWPOISON", "Memory page has hardware error", "Memory page has hardware error"⟩]

namespace Errno

def find? (number : Int) : Option Entry :=
  entries.find? fun entry => entry.number == number

def systemDescription (number : Int) : Text :=
  if number = 0 then "Success".toList
  else match find? number with
    | some entry => entry.systemText.toList
    | none => "Unknown error ".toList ++ signedDecimal number

/-- The system library's wording followed by the number. -/
def systemMessage (number : Int) : Text :=
  systemDescription number ++ " (os error ".toList ++ signedDecimal number ++ [')']

def description (number : Int) : Text :=
  match find? number with
  | some entry => entry.headerText.toList
  | none => "Unknown errno".toList

/-- The symbol and the header's wording. -/
def described (number : Int) : Text :=
  let symbol := match find? number with
    | some entry => entry.symbol.toList
    | none => "UnknownErrno".toList
  symbol ++ ": ".toList ++ description number

end Errno

end DiskPrep
