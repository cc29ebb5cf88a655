/-
  AddressWatch.Proofs.SocketAddress

  Which IP address a socket address holds: it has the family that the socket address says, and its
  bytes are those of that family's layout (`ip?_eq_some_iff`).
-/

import AddressWatch.Proofs.IpAddr.Bytes
import AddressWatch.SocketAddress

namespace AddressWatch.SocketAddress

/-! ## Layouts -/

theorem length_window (a : SocketAddress) (start count : Nat) :
    (a.window start count).length = count := by
  rw [window, List.length_map, List.length_range]

/-- The layout of a family has as many bytes as its addresses have. -/
theorem length_addressBytes (a : SocketAddress) (f : AddressFamily) :
    8 * (a.addressBytes f).length = f.maxPrefixLength.toNat := by
  cases f with
  | ipv4 => rw [addressBytes, length_window]; rfl
  | ipv6 => rw [addressBytes, length_window]; rfl

/-! ## Addresses -/

variable {a : SocketAddress} {inet6Family : Nat}

theorem addressFamily?_eq_some_iff (hinet : inet6Family ≠ inetFamily) {f : AddressFamily} :
    a.addressFamily? inet6Family = some f ↔
      a.family = inetFamily ∧ f = .ipv4 ∨ a.family = inet6Family ∧ f = .ipv6 := by
  rw [addressFamily?]
  by_cases hfour : a.family = inetFamily
  · rw [if_pos hfour, hfour, Option.some_inj]
    simp [hinet.symm, eq_comm]
  by_cases hsix : a.family = inet6Family
  · rw [if_neg hfour, if_pos hsix, hsix, Option.some_inj]
    simp [hinet, eq_comm]
  · rw [if_neg hfour, if_neg hsix]
    simp [hfour, hsix]

/-- There is an address for each of the two families, and for no other. -/
theorem isSome_ip? (hinet : inet6Family ≠ inetFamily) :
    (a.ip? inet6Family).isSome ↔ a.family = inetFamily ∨ a.family = inet6Family := by
  have hread : ∀ f, (IpAddr.ofBytes? (a.addressBytes f)).isSome := by
    intro f
    rw [IpAddr.isSome_ofBytes?]
    cases f with
    | ipv4 => exact .inl (length_window _ _ _)
    | ipv6 => exact .inr (length_window _ _ _)
  rw [ip?, Option.isSome_bind, Option.any_eq_true]
  constructor
  · rintro ⟨f, hf, -⟩
    rcases (addressFamily?_eq_some_iff hinet).mp hf with ⟨hfour, -⟩ | ⟨hsix, -⟩
    · exact .inl hfour
    · exact .inr hsix
  · rintro (hfour | hsix)
    · exact ⟨.ipv4, (addressFamily?_eq_some_iff hinet).mpr (.inl ⟨hfour, rfl⟩), hread _⟩
    · exact ⟨.ipv6, (addressFamily?_eq_some_iff hinet).mpr (.inr ⟨hsix, rfl⟩), hread _⟩

/-- The address has the family that the socket address says and the bytes of that family's
layout. -/
theorem of_ip? (hinet : inet6Family ≠ inetFamily) {x : IpAddr} (hx : a.ip? inet6Family = some x) :
    (a.family = inetFamily ∧ x.family = .ipv4 ∨ a.family = inet6Family ∧ x.family = .ipv6) ∧
      x.toBytes = a.addressBytes x.family := by
  obtain ⟨f, hf, hbytes⟩ := Option.bind_eq_some_iff.mp hx
  rw [IpAddr.ofBytes?_eq_some_iff] at hbytes
  -- The number of bytes tells the family of the address.
  have hfamily : x.family = f := by
    have hlength : x.toBytes.length = (a.addressBytes f).length := congrArg _ hbytes
    cases x <;> cases f
    · rfl
    · rw [addressBytes, length_window] at hlength
      cases hlength
    · rw [addressBytes, length_window] at hlength
      cases hlength
    · rfl
  rw [hfamily]
  exact ⟨(addressFamily?_eq_some_iff hinet).mp hf, hbytes⟩

/-- A socket address holds one IP address, which its family and its bytes determine. -/
theorem ip?_eq_some_iff (hinet : inet6Family ≠ inetFamily) {x : IpAddr} :
    a.ip? inet6Family = some x ↔
      (a.family = inetFamily ∧ x.family = .ipv4 ∨ a.family = inet6Family ∧ x.family = .ipv6) ∧
        x.toBytes = a.addressBytes x.family := by
  constructor
  · exact of_ip? hinet
  · rintro ⟨hfamily, hbytes⟩
    rw [ip?, (addressFamily?_eq_some_iff hinet).mpr hfamily, Option.bind_some]
    exact IpAddr.ofBytes?_eq_some_iff.mpr hbytes

/-- A socket address holds no more than one IP address. -/
theorem eq_of_layout (hinet : inet6Family ≠ inetFamily) {x y : IpAddr}
    (hx : (a.family = inetFamily ∧ x.family = .ipv4 ∨ a.family = inet6Family ∧ x.family = .ipv6) ∧
      x.toBytes = a.addressBytes x.family)
    (hy : (a.family = inetFamily ∧ y.family = .ipv4 ∨ a.family = inet6Family ∧ y.family = .ipv6) ∧
      y.toBytes = a.addressBytes y.family) : x = y := by
  have hreadx := (ip?_eq_some_iff hinet).mpr hx
  have hready := (ip?_eq_some_iff hinet).mpr hy
  exact Option.some.inj (hreadx.symm.trans hready)

end AddressWatch.SocketAddress
