import Scrutiny.Tools
import Scrutiny.Foundation.Crc

open foundation

namespace scrutiny.tools

/-- The polynomial of the CRC-32, its bits reversed. -/
def CRC32_POLYNOMIAL : uint32_t := 0xEDB88320

/-- The CRC-32 bit by bit, complemented at both ends. -/
def crc32_serial (data : List uint8_t) (start_value : uint32_t) : uint32_t :=
  ~~~ Crc.register CRC32_POLYNOMIAL (~~~ start_value) data

/-- The CRC of a message can be accumulated over its parts. -/
theorem crc32_append (data rest : List uint8_t) (start_value : uint32_t) :
    crc32 (data ++ rest) start_value = crc32 rest (crc32 data start_value) := by
  simp only [crc32, List.foldl_append, BitVec.not_not]

/-- The table has the register after a nibble was shifted out of it. -/
theorem crc32_lookup_eq (index : uint32_t) :
    crc32_lookup index = (Crc.shift CRC32_POLYNOMIAL)^[4] ((index.setWidth 4).setWidth 32) := by
  have hentry : ∀ nibble : BitVec 4, crc32_table.getD nibble.toNat 0 =
      (Crc.shift CRC32_POLYNOMIAL)^[4] (nibble.setWidth 32) := by
    decide
  have hnibble : (index &&& 0x0F).toNat = (index.setWidth 4).toNat := by
    rw [BitVec.toNat_and, BitVec.toNat_setWidth]
    exact Nat.and_two_pow_sub_one_eq_mod _ 4
  rw [crc32_lookup, hnibble, hentry]

theorem crc32_nibble (crc : uint32_t) :
    crc32_lookup crc ^^^ (crc >>> 4) = (Crc.shift CRC32_POLYNOMIAL)^[4] crc := by
  have hlow : ∀ i < 4, ((crc.setWidth 4).setWidth 32).getLsbD i = crc.getLsbD i := by
    intro i hi
    simp [hi, show i < 32 by omega]
  have hhigh : ∀ i, 4 ≤ i → ((crc.setWidth 4).setWidth 32).getLsbD i = false := by
    intro i hi
    rw [BitVec.getLsbD_setWidth, BitVec.getLsbD_of_ge _ i hi, Bool.and_false]
  rw [crc32_lookup_eq, Crc.shifts_split CRC32_POLYNOMIAL 4 hlow hhigh]

/-- The two nibbles of a byte are eight bits. -/
theorem crc32_byte_eq (crc : uint32_t) (byte : uint8_t) :
    crc32_byte crc byte = Crc.feed CRC32_POLYNOMIAL crc byte := by
  have hhigh : (byte >>> 4).setWidth 32 = byte.setWidth 32 >>> 4 := by
    rw [BitVec.setWidth_ushiftRight (by decide)]
  have hempty : byte.setWidth 32 >>> 4 >>> 4 = 0#32 := by
    rw [← BitVec.shiftRight_add]
    apply BitVec.eq_of_getLsbD_eq
    intro i _
    rw [BitVec.getLsbD_ushiftRight, BitVec.getLsbD_setWidth,
      BitVec.getLsbD_of_ge byte _ (Nat.le_add_right 8 i), Bool.and_false, BitVec.getLsbD_zero]
  have hfirst : (Crc.shift CRC32_POLYNOMIAL)^[4] (crc ^^^ byte.setWidth 32) =
      crc32_lookup (crc ^^^ byte.setWidth 32) ^^^ (crc >>> 4) ^^^ (byte.setWidth 32 >>> 4) := by
    rw [← crc32_nibble, BitVec.ushiftRight_xor_distrib, BitVec.xor_assoc]
  have height : (Crc.shift CRC32_POLYNOMIAL)^[8] (crc ^^^ byte.setWidth 32) =
      (Crc.shift CRC32_POLYNOMIAL)^[4]
        ((Crc.shift CRC32_POLYNOMIAL)^[4] (crc ^^^ byte.setWidth 32)) :=
    Function.iterate_add_apply _ 4 4 _
  rw [Crc.feed, height, hfirst, ← crc32_nibble, BitVec.ushiftRight_xor_distrib, hempty,
    BitVec.xor_zero, crc32_byte, hhigh]

theorem crc32_eq_serial (data : List uint8_t) (start_value : uint32_t) :
    crc32 data start_value = crc32_serial data start_value := by
  have hstep : crc32_byte = Crc.feed CRC32_POLYNOMIAL :=
    funext fun crc => funext fun byte => crc32_byte_eq crc byte
  rw [crc32, crc32_serial, Crc.register, hstep]

/-- Two messages that differ in four bytes in a row do not have the same CRC. -/
theorem crc32_ne_of_window (before after : List uint8_t) {window other : List uint8_t}
    (hlength : window.length = other.length) (hshort : window.length ≤ 4) (hne : window ≠ other)
    (start_value : uint32_t) :
    crc32 (before ++ window ++ after) start_value ≠ crc32 (before ++ other ++ after) start_value := by
  rw [crc32_eq_serial, crc32_eq_serial, crc32_serial, crc32_serial, Ne, BitVec.not_inj]
  exact Crc.register_ne_of_window (by decide) _ before after hlength (by omega) hne

end scrutiny.tools
