/-
  AddressWatch.Windows.Winsock

  References to the socket library, which is started for the first of them and ended with the last
  one.
-/

import AddressWatch.Windows.System

namespace AddressWatch.Windows.System

/-- The version of the socket library that is asked for. -/
def winsockVersion : Nat := 0x0202

/-- Takes a reference to the socket library; when it cannot be started none is taken. -/
def acquire (s : System) : Except WindowsError Unit × System :=
  if s.holders = 0 then
    let (code, s) := s.startup winsockVersion
    if code = noError then (.ok (), { s with holders := s.holders + 1 })
    else (.error (s.failure code), s)
  else (.ok (), { s with holders := s.holders + 1 })

/-- Gives a reference back. -/
def release (s : System) : System :=
  let s := { s with holders := s.holders - 1 }
  if s.holders = 0 then s.cleanup else s

end AddressWatch.Windows.System
