/-
  AddressWatch.Enumeration

  From a fetched address table to the list of the records that a filter accepts. A failed fetch
  gives a list with its error and no records.
-/

import AddressWatch.AddressList
import AddressWatch.Filter
import AddressWatch.Log

namespace AddressWatch

/-- What a fetch of the address table answers. -/
abbrev Table := Except FetchError (List AddressRecord)

namespace Table

/-- The records of the table that satisfy `accepts`. -/
def enumerateWith (table : Table) (accepts : AddressRecord → Bool) : AddressList :=
  match table with
  | .ok records => .ofRecords (records.filter accepts)
  | .error e => .failed e

/-- The log line of an enumeration. -/
def logLine (table : Table) (accepts : AddressRecord → Bool) : LogLine :=
  match table with
  | .ok records =>
    ⟨.debug, .enumeration, "Enumerated " ++ Text.decimal records.length ++ " address(es), kept "
      ++ Text.decimal (records.filter accepts).length⟩
  | .error e => ⟨.warn, .enumeration, "Address enumeration failed: " ++ e.message⟩

/-- The records that the flags let through. -/
def enumerate (table : Table) (flags : InclusionFlags) : AddressList :=
  table.enumerateWith flags.accepts

/-- The IPv4 addresses of regular interfaces that are up. -/
def ipv4Addresses (table : Table) : AddressList := table.enumerate .ipv4Only

/-- The addresses of regular interfaces that are up. -/
def allAddresses (table : Table) : AddressList := table.enumerate .allFamilies

/-- The IPv6 addresses of regular interfaces that are up. -/
def ipv6Addresses (table : Table) : AddressList :=
  table.allAddresses.retain fun r => r.family == .ipv6

end Table

end AddressWatch
