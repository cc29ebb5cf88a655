/-
  AddressWatch.FetchError

  Why the table of addresses could not be fetched. Every cause has a message and a code. Callers
  that see only codes read zero as success; the one cause with that code is a failure of the Windows
  interface of which nothing is known.
-/

import AddressWatch.SystemError

namespace AddressWatch

/-- Why the address table could not be fetched. -/
inductive FetchError where
  /-- A system call failed; `context` names it. -/
  | io (context : String) (source : SystemError)
  /-- A failure particular to the platform. -/
  | platform (message : String)
  /-- The platform has no address table that could be read. -/
  | unsupported
  /-- A call of the Windows interface failed. -/
  | windows (source : WindowsError)
  deriving DecidableEq

namespace FetchError

/-- The code of a platform on which nothing can be fetched or watched. -/
def unsupportedCode : Int32 := 99

/-- The text of the error. -/
def message : FetchError → String
  | .io context source => context ++ ": " ++ source.message
  | .platform text => "Platform error: " ++ text
  | .unsupported => "Address enumeration is not supported on this platform"
  | .windows source => source.message

/-- The code of the error: the system's own number where there is one. -/
def code : FetchError → Int32
  | .io _ source => source.codeOr 4
  | .platform _ => 1
  | .unsupported => unsupportedCode
  | .windows source => source.hresult

end FetchError

end AddressWatch
