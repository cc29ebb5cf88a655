/-
  AddressWatch.Filter

  Which records and which interface names are selected. Inclusion flags widen a selection by
  family, loopback and state; a filter chain adds name matchers to them: a name that an excluded
  matcher matches is rejected, and where there are included matchers one of them has to match.
-/

import AddressWatch.AddressRecord

namespace AddressWatch

/-- What an enumeration includes besides IPv4 addresses of regular interfaces that are up. -/
structure InclusionFlags where
  ipv6 : Bool := false
  loopback : Bool := false
  down : Bool := false
  deriving DecidableEq, Repr

/-- The text of a truth value. -/
def boolText (b : Bool) : String := if b then "true" else "false"

namespace InclusionFlags

/-- IPv4 addresses of regular interfaces that are up. -/
def ipv4Only : InclusionFlags := {}

/-- Addresses of both families of regular interfaces that are up. -/
def allFamilies : InclusionFlags := { ipv6 := true }

/-- All addresses. -/
def everything : InclusionFlags := { ipv6 := true, loopback := true, down := true }

/-- Whether the flags let a record through. -/
def accepts (f : InclusionFlags) (r : AddressRecord) : Bool :=
  (f.ipv6 || r.family != .ipv6) && (f.down || r.isUp) && (f.loopback || !r.isLoopback)

/-- The flags as they are shown. -/
def shown (f : InclusionFlags) : String :=
  String.join
    [ "EnumerationFilter \x7b include_ipv6: ", boolText f.ipv6, ", include_loopback: ",
      boolText f.loopback, ", include_down: ", boolText f.down, " \x7d" ]

end InclusionFlags

/-- Which interface names a matcher matches. -/
abbrev NameMatcher := String → Bool

/-- Inclusion flags, if any, with included and excluded name matchers in the order they were
added. -/
structure FilterChain where
  base : Option InclusionFlags := none
  includes : List NameMatcher := []
  excludes : List NameMatcher := []

namespace FilterChain

/-- The chain with other flags. -/
def withBase (chain : FilterChain) (flags : InclusionFlags) : FilterChain :=
  { chain with base := some flags }

/-- The chain with one more included matcher. -/
def including (chain : FilterChain) (m : NameMatcher) : FilterChain :=
  { chain with includes := chain.includes ++ [m] }

/-- The chain with one more excluded matcher. -/
def excluding (chain : FilterChain) (m : NameMatcher) : FilterChain :=
  { chain with excludes := chain.excludes ++ [m] }

/-- Whether the chain has no matchers. -/
def isEmpty (chain : FilterChain) : Bool := chain.includes.isEmpty && chain.excludes.isEmpty

/-- Whether the chain accepts an interface name. -/
def acceptsName (chain : FilterChain) (name : String) : Bool :=
  if chain.excludes.any (· name) then false
  else chain.includes.isEmpty || chain.includes.any (· name)

/-- Whether the chain accepts a record. -/
def accepts (chain : FilterChain) (r : AddressRecord) : Bool :=
  chain.base.all (·.accepts r) && chain.acceptsName r.interface

/-- The chain as it is shown. -/
def shown (chain : FilterChain) : String :=
  String.join
    [ "FilterChain \x7b base: ",
      match chain.base with
      | none => "None"
      | some flags => "Some(" ++ flags.shown ++ ")",
      ", include_count: ", Text.decimal chain.includes.length,
      ", exclude_count: ", Text.decimal chain.excludes.length, " \x7d" ]

end FilterChain

end AddressWatch
