/-!
# Errors

`HostError` is what the host's USB stack reports and `UsbError` what a guest is told. The guest's
errors form a closed list, and `UsbError.ofHost` places every host error in it.
-/

namespace VirtualUsb

/-- An error of the host's USB stack. -/
inductive HostError
  | io
  | invalidParam
  | access
  | noDevice
  | notFound
  | busy
  | timeout
  | overflow
  | pipe
  | interrupted
  | noMemory
  | notSupported
  | other
  deriving DecidableEq, Repr, Inhabited

/-- An error a guest is told. -/
inductive UsbError
  | invalidArgument
  | io
  | access
  | noDevice
  | notFound
  | busy
  | timeout
  | overflow
  | pipe
  | interrupted
  | outOfMemory
  | notSupported
  | fatal
  deriving DecidableEq, Repr, Inhabited

namespace HostError

def name : HostError → String
  | .io => "Io"
  | .invalidParam => "InvalidParam"
  | .access => "Access"
  | .noDevice => "NoDevice"
  | .notFound => "NotFound"
  | .busy => "Busy"
  | .timeout => "Timeout"
  | .overflow => "Overflow"
  | .pipe => "Pipe"
  | .interrupted => "Interrupted"
  | .noMemory => "NoMem"
  | .notSupported => "NotSupported"
  | .other => "Other"

def all : List HostError :=
  [.io, .invalidParam, .access, .noDevice, .notFound, .busy, .timeout, .overflow, .pipe,
    .interrupted, .noMemory, .notSupported, .other]

def message : HostError → String
  | .io => "input/output error"
  | .invalidParam => "invalid parameter"
  | .access => "access denied (insufficient permissions)"
  | .noDevice => "no such device (it may have been disconnected)"
  | .notFound => "entity not found"
  | .busy => "resource busy"
  | .timeout => "operation timed out"
  | .overflow => "overflow"
  | .pipe => "pipe error"
  | .interrupted => "system call interrupted"
  | .noMemory => "insufficient memory"
  | .notSupported => "operation not supported or unimplemented on this platform"
  | .other => "other error"

end HostError

namespace UsbError

def name : UsbError → String
  | .invalidArgument => "InvalidArgument"
  | .io => "Io"
  | .access => "Access"
  | .noDevice => "NoDevice"
  | .notFound => "NotFound"
  | .busy => "Busy"
  | .timeout => "Timeout"
  | .overflow => "Overflow"
  | .pipe => "Pipe"
  | .interrupted => "Interrupted"
  | .outOfMemory => "OutOfMemory"
  | .notSupported => "NotSupported"
  | .fatal => "Fatal"

def all : List UsbError :=
  [.invalidArgument, .io, .access, .noDevice, .notFound, .busy, .timeout, .overflow, .pipe,
    .interrupted, .outOfMemory, .notSupported, .fatal]

def message : UsbError → String
  | .invalidArgument => "invalid argument"
  | .io => "input/output error"
  | .access => "access denied"
  | .noDevice => "no such device"
  | .notFound => "not found"
  | .busy => "resource busy"
  | .timeout => "timed out"
  | .overflow => "overflow"
  | .pipe => "pipe stalled"
  | .interrupted => "interrupted"
  | .outOfMemory => "out of memory"
  | .notSupported => "not supported"
  | .fatal => "fatal host error"

/-- Whether the same request may succeed when it is made again later. -/
def isRetryable : UsbError → Bool
  | .busy | .timeout | .interrupted => true
  | _ => false

/-- The guest's word for a host error; one without a word of its own is fatal. -/
def ofHost : HostError → UsbError
  | .io => .io
  | .invalidParam => .invalidArgument
  | .access => .access
  | .noDevice => .noDevice
  | .notFound => .notFound
  | .busy => .busy
  | .timeout => .timeout
  | .overflow => .overflow
  | .pipe => .pipe
  | .interrupted => .interrupted
  | .noMemory => .outOfMemory
  | .notSupported => .notSupported
  | .other => .fatal

end UsbError

end VirtualUsb
