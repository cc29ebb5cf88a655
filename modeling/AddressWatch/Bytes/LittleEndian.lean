/-
  AddressWatch.Bytes.LittleEndian

  Numbers as fixed-width byte strings, least significant byte first, as the fields of a routing
  message are laid out.
-/

namespace AddressWatch.Bytes

/-- The number whose little-endian bytes are given. -/
def ofLittleEndian : List UInt8 → Nat
  | [] => 0
  | b :: rest => b.toNat + 256 * ofLittleEndian rest

/-- The `width` little-endian bytes of `n`; higher bits are dropped. -/
def toLittleEndian : Nat → Nat → List UInt8
  | 0, _ => []
  | width + 1, n => UInt8.ofNat (n % 256) :: toLittleEndian width (n / 256)

/-- The field of `width` bytes at `offset`, with zeros for the bytes past the end. -/
def field (bytes : List UInt8) (offset width : Nat) : Nat :=
  ofLittleEndian ((bytes.drop offset).take width)

/-- A signed 32-bit number from its two's complement. -/
def signed32 (n : Nat) : Int :=
  if n < 0x80000000 then n else (n : Int) - 0x100000000

@[simp] theorem length_toLittleEndian (width n : Nat) :
    (toLittleEndian width n).length = width := by
  induction width generalizing n with
  | zero => rfl
  | succ width ih => simp [toLittleEndian, ih]

/-- How many numbers `width` bytes can hold. -/
def capacity (width : Nat) : Nat := 1 <<< (8 * width)

theorem capacity_succ (width : Nat) : capacity (width + 1) = 256 * capacity width := by
  rw [capacity, capacity, Nat.shiftLeft_eq, Nat.shiftLeft_eq, Nat.mul_succ, Nat.pow_add]
  omega

theorem ofLittleEndian_toLittleEndian (width n : Nat) :
    ofLittleEndian (toLittleEndian width n) = n % capacity width := by
  induction width generalizing n with
  | zero => exact (Nat.mod_one n).symm
  | succ width ih =>
    have h : (UInt8.ofNat (n % 256)).toNat = n % 256 := by
      rw [UInt8.toNat_ofNat', Nat.mod_eq_of_lt]
      exact Nat.mod_lt n (by decide)
    rw [toLittleEndian, ofLittleEndian, ih, h, capacity_succ, Nat.mod_mul]

theorem ofLittleEndian_lt (bytes : List UInt8) :
    ofLittleEndian bytes < capacity bytes.length := by
  induction bytes with
  | nil => exact Nat.one_pos
  | cons b rest ih =>
    have hb : b.toNat < 256 := b.toNat_lt
    rw [ofLittleEndian, List.length_cons, capacity_succ]
    omega

end AddressWatch.Bytes
