/-!
# Faults of the machine

What an operation on files, sockets or buffers can fail with. The text of an operating system error
ends with its number.
-/

namespace FlowTraffic

/-- The operating system errors that the program can meet. -/
inductive OsError
  | noSuchFile
  | permissionDenied
  | fileExists
  | noSuchDevice
  | notDirectory
  | isDirectory
  | invalidArgument
  | nameTooLong
  | messageTooLong
  | addressInUse
  | addressNotAvailable
  | networkUnreachable
  | connectionRefused
  deriving DecidableEq, Repr

namespace OsError

def number : OsError → Nat
  | noSuchFile => 2
  | permissionDenied => 13
  | fileExists => 17
  | noSuchDevice => 19
  | notDirectory => 20
  | isDirectory => 21
  | invalidArgument => 22
  | nameTooLong => 36
  | messageTooLong => 90
  | addressInUse => 98
  | addressNotAvailable => 99
  | networkUnreachable => 101
  | connectionRefused => 111

def phrase : OsError → String
  | noSuchFile => "No such file or directory"
  | permissionDenied => "Permission denied"
  | fileExists => "File exists"
  | noSuchDevice => "No such device"
  | notDirectory => "Not a directory"
  | isDirectory => "Is a directory"
  | invalidArgument => "Invalid argument"
  | nameTooLong => "File name too long"
  | messageTooLong => "Message too long"
  | addressInUse => "Address already in use"
  | addressNotAvailable => "Cannot assign requested address"
  | networkUnreachable => "Network is unreachable"
  | connectionRefused => "Connection refused"

end OsError

inductive Fault
  | os (error : OsError)
  | nulInName
  | shortWrite
  | notUtf8
  | invalidData
  | custom (text : String)
  deriving DecidableEq, Repr

def Fault.message : Fault → String
  | os e => s!"{e.phrase} (os error {e.number})"
  | nulInName => "file name contained an unexpected NUL byte"
  | shortWrite => "failed to write whole buffer"
  | notUtf8 => "stream did not contain valid UTF-8"
  | invalidData => "invalid data"
  | custom text => text

end FlowTraffic
