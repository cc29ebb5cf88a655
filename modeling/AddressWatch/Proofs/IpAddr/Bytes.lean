/-
  AddressWatch.Proofs.IpAddr.Bytes

  Addresses in network byte order. An address is read from some bytes exactly if they are its bytes
  (`IpAddr.ofBytes?_eq_some_iff`), and one is read from any 4 or 16 bytes.
-/

import AddressWatch.IpAddr.Basic

namespace AddressWatch

namespace Ipv4

/-- An IPv4 address is read from its bytes and from no others. -/
theorem ofBytes?_eq_some_iff {bytes : List UInt8} {x : Ipv4} :
    ofBytes? bytes = some x ↔ x.toBytes = bytes := by
  constructor
  · intro hx
    unfold ofBytes? at hx
    split at hx
    · cases hx
      rfl
    · cases hx
  · rintro rfl
    exact ofBytes?_toBytes x

theorem length_toBytes (x : Ipv4) : x.toBytes.length = 4 := rfl

theorem isSome_ofBytes? {bytes : List UInt8} : (ofBytes? bytes).isSome ↔ bytes.length = 4 := by
  constructor
  · intro hsome
    obtain ⟨x, hx⟩ := Option.isSome_iff_exists.mp hsome
    rw [← ofBytes?_eq_some_iff.mp hx, length_toBytes]
  · intro hlength
    match bytes, hlength with
    | [_, _, _, _], _ => rfl

end Ipv4

namespace Ipv6

/-! ## Groups -/

theorem groupBytes_groupOf (high low : UInt8) : groupBytes (groupOf high low) = [high, low] := by
  have hhigh := high.toNat_lt
  have hlow := low.toNat_lt
  have hvalue : (groupOf high low).toNat = high.toNat * 256 + low.toNat := by
    rw [groupOf, UInt16.toNat_ofNat', Nat.mod_eq_of_lt]
    omega
  have hdiv : (high.toNat * 256 + low.toNat) / 256 = high.toNat := by omega
  have hmod : (high.toNat * 256 + low.toNat) % 256 = low.toNat := by omega
  rw [groupBytes, hvalue, hdiv, hmod, UInt8.ofNat_toNat, UInt8.ofNat_toNat]

theorem groupOf_groupBytes (g : UInt16) :
    groupOf (UInt8.ofNat (g.toNat / 256)) (UInt8.ofNat (g.toNat % 256)) = g := by
  have hg := g.toNat_lt
  have hhigh : (UInt8.ofNat (g.toNat / 256)).toNat = g.toNat / 256 := by
    rw [UInt8.toNat_ofNat', Nat.mod_eq_of_lt]
    omega
  have hlow : (UInt8.ofNat (g.toNat % 256)).toNat = g.toNat % 256 := by
    rw [UInt8.toNat_ofNat', Nat.mod_eq_of_lt]
    omega
  rw [groupOf, hhigh, hlow, Nat.div_add_mod', UInt16.ofNat_toNat]

/-! ## Addresses -/

theorem ofBytes?_toBytes (x : Ipv6) : ofBytes? x.toBytes = some x := by
  show some (Ipv6.mk _ _ _ _ _ _ _ _) = some x
  simp only [groupOf_groupBytes]

/-- An IPv6 address is read from its bytes and from no others. -/
theorem ofBytes?_eq_some_iff {bytes : List UInt8} {x : Ipv6} :
    ofBytes? bytes = some x ↔ x.toBytes = bytes := by
  constructor
  · intro hx
    unfold ofBytes? at hx
    split at hx
    · cases hx
      simp only [toBytes, toGroups, List.flatMap_cons, List.flatMap_nil, groupBytes_groupOf]
      rfl
    · cases hx
  · rintro rfl
    exact ofBytes?_toBytes x

theorem length_toBytes (x : Ipv6) : x.toBytes.length = 16 := rfl

theorem isSome_ofBytes? {bytes : List UInt8} : (ofBytes? bytes).isSome ↔ bytes.length = 16 := by
  constructor
  · intro hsome
    obtain ⟨x, hx⟩ := Option.isSome_iff_exists.mp hsome
    rw [← ofBytes?_eq_some_iff.mp hx, length_toBytes]
  · intro hlength
    match bytes, hlength with
    | [_, _, _, _, _, _, _, _, _, _, _, _, _, _, _, _], _ => rfl

end Ipv6

namespace IpAddr

/-- An address is read from its bytes and from no others, so the number of bytes tells its
version. -/
theorem ofBytes?_eq_some_iff {bytes : List UInt8} {x : IpAddr} :
    ofBytes? bytes = some x ↔ x.toBytes = bytes := by
  by_cases hlength : bytes.length = 4
  · rw [ofBytes?, if_pos hlength, Option.map_eq_some_iff]
    cases x with
    | v4 x => simp [Ipv4.ofBytes?_eq_some_iff, toBytes]
    | v6 x =>
        constructor
        · rintro ⟨_, _, ⟨⟩⟩
        · rintro rfl
          cases hlength
  · rw [ofBytes?, if_neg hlength, Option.map_eq_some_iff]
    cases x with
    | v4 x =>
        constructor
        · rintro ⟨_, _, ⟨⟩⟩
        · rintro rfl
          exact absurd rfl hlength
    | v6 x => simp [Ipv6.ofBytes?_eq_some_iff, toBytes]

theorem isSome_ofBytes? {bytes : List UInt8} :
    (ofBytes? bytes).isSome ↔ bytes.length = 4 ∨ bytes.length = 16 := by
  by_cases hlength : bytes.length = 4
  · rw [ofBytes?, if_pos hlength, Option.isSome_map, Ipv4.isSome_ofBytes?]
    omega
  · rw [ofBytes?, if_neg hlength, Option.isSome_map, Ipv6.isSome_ofBytes?]
    omega

end IpAddr

end AddressWatch
