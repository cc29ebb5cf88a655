/-
  AddressWatch.Monitor.Error

  Why an operation of a monitor failed. Every cause has a message and a code; some causes mean
  that the backend can deliver no more events, and those stop the monitor.
-/

import AddressWatch.FetchError
import AddressWatch.Text.Quoted

namespace AddressWatch

/-- Where a monitor is in its life. -/
inductive MonitorState where
  | created
  | running
  | stopped
  deriving DecidableEq, Repr

/-- The word for a state. -/
def MonitorState.text : MonitorState → String
  | .created => "created"
  | .running => "running"
  | .stopped => "stopped"

/-- The name of a state as it is shown inside a monitor. -/
def MonitorState.shown : MonitorState → String
  | .created => "Created"
  | .running => "Running"
  | .stopped => "Stopped"

/-- Why an operation of a monitor failed. -/
inductive MonitorError where
  /-- Nothing was given that could receive the changes. -/
  | missingCallback
  /-- The operation is not allowed in the monitor's state. -/
  | invalidState (operation : String) (state : MonitorState)
  | notRunning
  /-- The platform has no notifications about addresses. -/
  | unsupported
  /-- A system call failed; `context` names it. -/
  | io (context : String) (source : SystemError)
  /-- The kernel answered with an error message. -/
  | protocol (errno : Int32)
  /-- The loop that delivers notifications failed. -/
  | runLoop (reason : String)
  /-- The channel of notifications was closed. -/
  | disconnected
  /-- A call of the Windows interface failed. -/
  | windows (source : WindowsError)
  deriving DecidableEq

namespace MonitorError

/-- The text of the error. -/
def message : MonitorError → String
  | .missingCallback => "A change callback is required"
  | .invalidState operation state => "Cannot " ++ operation ++ " a monitor that is " ++ state.text
  | .notRunning => "Monitor is not running"
  | .unsupported => "Address change monitoring is not supported on this platform"
  | .io context source => context ++ ": " ++ source.message
  | .protocol errno =>
    "Netlink error message (errno " ++ Text.signedDecimal errno.toInt ++ ")"
  | .runLoop reason => "Run loop failure: " ++ reason
  | .disconnected => "Notification channel disconnected"
  | .windows source => source.message

/-- The code of the error: the system's own number where there is one. -/
def code : MonitorError → Int32
  | .missingCallback => 22
  | .invalidState _ _ => 16
  | .notRunning => 3
  | .unsupported => FetchError.unsupportedCode
  | .io _ source => source.codeOr 5
  | .protocol errno => errno
  | .runLoop _ => 2
  | .disconnected => 32
  | .windows source => source.hresult

/-- Whether the backend can deliver no more events after this error. -/
def isFatal : MonitorError → Bool
  | .io _ _ | .runLoop _ | .disconnected | .windows _ => true
  | .missingCallback | .invalidState _ _ | .notRunning | .unsupported | .protocol _ => false

end MonitorError

/-- What a monitor remembers of its most recent failure. -/
structure LastError where
  code : Int32
  message : String
  deriving DecidableEq

namespace LastError

/-- What is remembered of an error. -/
def ofError (e : MonitorError) : LastError := ⟨e.code, e.message⟩

/-- The memory as it is shown inside a monitor. -/
def shown (l : LastError) : String :=
  String.join
    [ "LastError \x7b code: ", Text.signedDecimal l.code.toInt, ", message: ",
      Text.quoted l.message, " \x7d" ]

end LastError

end AddressWatch
