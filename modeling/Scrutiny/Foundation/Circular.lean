import Scrutiny.Foundation.Buffer

namespace foundation

/-- A position that goes at most once past the end. -/
theorem mod_of_lt_two_mul {n size : Nat} (h : n < 2 * size) :
    n % size = if n < size then n else n - size := by
  split
  · rename_i hlt
    exact Nat.mod_eq_of_lt hlt
  · rename_i hge
    rw [Nat.mod_eq_sub_mod (by omega)]
    exact Nat.mod_eq_of_lt (by omega)

namespace Buffer

variable {α : Type}

/-- The `length` cells from `start` on, in a buffer whose first `size` cells go round. -/
def around (buffer : Buffer α) (size start length : Nat) : List α :=
  (List.range length).map fun i => buffer ((start + i) % size)

@[simp] theorem length_around (buffer : Buffer α) (size start length : Nat) :
    (buffer.around size start length).length = length := by
  simp [around]

@[simp] theorem around_zero (buffer : Buffer α) (size start : Nat) :
    buffer.around size start 0 = [] := rfl

theorem around_mod (buffer : Buffer α) (size start length : Nat) :
    buffer.around size (start % size) length = buffer.around size start length := by
  simp [around]

theorem around_add (buffer : Buffer α) (size start first second : Nat) :
    buffer.around size start (first + second) =
      buffer.around size start first ++ buffer.around size (start + first) second := by
  simp [around, List.range_add, Nat.add_assoc]

/-- Before the end it is a plain slice. -/
theorem around_eq_slice (buffer : Buffer α) {size start length : Nat} (h : start + length ≤ size) :
    buffer.around size start length = buffer.slice start length := by
  apply List.map_congr_left
  intro i hi
  have hlt : i < length := List.mem_range.mp hi
  rw [Nat.mod_eq_of_lt (by omega)]

theorem drop_around (buffer : Buffer α) (size start length n : Nat) :
    (buffer.around size start length).drop n = buffer.around size (start + n) (length - n) := by
  by_cases hn : n ≤ length
  · obtain ⟨rest, rfl⟩ := Nat.exists_eq_add_of_le hn
    rw [around_add, List.drop_left' (length_around buffer size start n), Nat.add_sub_cancel_left]
  · have hnone : length - n = 0 := by omega
    rw [List.drop_eq_nil_of_le (by rw [length_around]; omega), hnone, around_zero]

theorem take_around (buffer : Buffer α) (size start length n : Nat) :
    (buffer.around size start length).take n = buffer.around size start (min n length) := by
  by_cases hn : n ≤ length
  · obtain ⟨rest, rfl⟩ := Nat.exists_eq_add_of_le hn
    rw [around_add, List.take_left' (length_around buffer size start n), Nat.min_eq_left hn]
  · rw [List.take_of_length_le (by rw [length_around]; omega), Nat.min_eq_right (by omega)]

/-- Blocks of one width do not meet. -/
theorem slice_write_block (buffer : Buffer α) {width i j : Nat} (hne : i ≠ j) {values : List α}
    (hlength : values.length = width) :
    (buffer.write (j * width) values).slice (i * width) width = buffer.slice (i * width) width := by
  rcases Nat.lt_or_gt_of_ne hne with hbefore | hafter
  · have hend := Nat.mul_le_mul_right width hbefore
    rw [Nat.succ_mul] at hend
    exact slice_write_before buffer values hend
  · have hend := Nat.mul_le_mul_right width hafter
    rw [Nat.succ_mul] at hend
    exact slice_write_after buffer values (by omega)

/-- Blocks of one width that go round one after the other. -/
theorem blocks_around (buffer : Buffer α) {width blocks : Nat} (first count : Nat)
    (hblocks : 0 < blocks) :
    ((List.range count).map fun i => buffer.slice ((first + i) % blocks * width) width).flatten =
      buffer.around (blocks * width) (first * width) (count * width) := by
  induction count with
  | zero => simp
  | succ count ih =>
    have hlast : buffer.around (blocks * width) ((first + count) * width) width =
        buffer.slice ((first + count) % blocks * width) width := by
      have hlt := Nat.mod_lt (first + count) hblocks
      have hend : (first + count) % blocks * width + width ≤ blocks * width := by
        rw [← Nat.succ_mul]
        exact Nat.mul_le_mul_right _ hlt
      rw [← around_mod, Nat.mul_mod_mul_right, around_eq_slice buffer hend]
    rw [List.range_succ, List.map_append, List.flatten_append, ih, Nat.succ_mul, around_add,
      ← Nat.add_mul, hlast]
    simp

end Buffer

end foundation
