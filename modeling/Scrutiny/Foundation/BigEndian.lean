import Mathlib

namespace foundation

/-- The low bytes of a number, the most significant first. -/
def big_endian : Nat → Nat → List (BitVec 8)
  | 0, _ => []
  | size + 1, n => big_endian size (n / 256) ++ [BitVec.ofNat 8 n]

/-- The number that bytes spell, the most significant first. -/
def of_big_endian (bytes : List (BitVec 8)) : Nat :=
  Nat.ofDigits 256 (bytes.reverse.map BitVec.toNat)

theorem of_big_endian_append (bytes : List (BitVec 8)) (byte : BitVec 8) :
    of_big_endian (bytes ++ [byte]) = of_big_endian bytes * 256 + byte.toNat := by
  rw [of_big_endian, List.reverse_concat, List.map_cons, Nat.ofDigits_cons, Nat.add_comm,
    Nat.mul_comm]
  rfl

theorem of_big_endian_lt (bytes : List (BitVec 8)) :
    of_big_endian bytes < 256 ^ bytes.length := by
  have hlt := Nat.ofDigits_lt_base_pow_length (by decide : 1 < 256)
    (l := bytes.reverse.map BitVec.toNat) fun digit hdigit => by
      obtain ⟨byte, _, rfl⟩ := List.mem_map.mp hdigit
      exact byte.isLt
  rwa [List.length_map, List.length_reverse] at hlt

/-- A number that fits is read back. -/
theorem of_big_endian_big_endian (size n : Nat) :
    of_big_endian (big_endian size n) = n % 256 ^ size := by
  induction size generalizing n with
  | zero => exact (Nat.mod_one n).symm
  | succ size ih =>
    have hfirst : n / 256 % 256 ^ size = n % (256 * 256 ^ size) / 256 :=
      (Nat.mod_mul_right_div_self n 256 (256 ^ size)).symm
    have hlast : (BitVec.ofNat 8 n).toNat = n % (256 * 256 ^ size) % 256 := by
      rw [BitVec.toNat_ofNat, Nat.mod_mul_right_mod]
    rw [big_endian, of_big_endian_append, ih, hfirst, hlast, Nat.div_add_mod', Nat.pow_succ']

theorem big_endian_of_big_endian (bytes : List (BitVec 8)) :
    big_endian bytes.length (of_big_endian bytes) = bytes := by
  induction bytes using List.reverseRecOn with
  | nil => rfl
  | append_singleton bytes byte ih =>
    have hbyte := byte.isLt
    have hrest : (of_big_endian bytes * 256 + byte.toNat) / 256 = of_big_endian bytes := by omega
    have hlast : BitVec.ofNat 8 (of_big_endian bytes * 256 + byte.toNat) = byte := by
      apply BitVec.eq_of_toNat_eq
      rw [BitVec.toNat_ofNat]
      omega
    rw [List.length_append, List.length_singleton, of_big_endian_append, big_endian, hrest, ih,
      hlast]

/-- Bytes are those of a number just when they spell it. -/
theorem eq_big_endian_iff {bytes : List (BitVec 8)} {size n : Nat} (hlength : bytes.length = size)
    (hn : n < 256 ^ size) : bytes = big_endian size n ↔ of_big_endian bytes = n := by
  subst hlength
  constructor
  · intro h
    rw [h, of_big_endian_big_endian, Nat.mod_eq_of_lt hn]
  · rintro rfl
    exact (big_endian_of_big_endian bytes).symm

/-- A byte put after a number. -/
theorem toNat_append_byte {w : Nat} (value : BitVec w) (byte : BitVec 8) :
    (value ++ byte).toNat = value.toNat * 256 + byte.toNat := by
  have hbyte : byte.toNat < 2 ^ 8 := byte.isLt
  rw [BitVec.toNat_append, ← Nat.shiftLeft_add_eq_or_of_lt hbyte, Nat.shiftLeft_eq]

end foundation
