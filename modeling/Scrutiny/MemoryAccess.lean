import Scrutiny.Types

open foundation

namespace scrutiny.Memory

variable [Platform]

@[simp] theorem length_copy_out (memory : Memory) (addr n : Nat) :
    (memory.copy_out addr n).1.length = n := by
  induction n generalizing addr memory with
  | zero => rfl
  | succ n ih => simp [copy_out, ih]

/-- The bytes found in memory from an address on. -/
def bytes_at (memory : Memory) (addr length : Nat) : List uint8_t :=
  (List.range length).map fun i => memory.bytes (uintptr (addr + i))

/-- Reading changes nothing in memory. -/
@[simp] theorem copy_out_bytes (memory : Memory) (addr n : Nat) :
    (memory.copy_out addr n).2.bytes = memory.bytes := by
  induction n generalizing addr memory with
  | zero => rfl
  | succ n ih => exact ih _ _

theorem copy_out_eq (memory : Memory) (addr n : Nat) :
    (memory.copy_out addr n).1 = memory.bytes_at addr n := by
  induction n generalizing addr memory with
  | zero => rfl
  | succ n ih =>
    simp only [copy_out, load, bytes_at, List.range_succ_eq_map, List.map_cons, List.map_map]
    rw [ih]
    simp [bytes_at, Function.comp_def, Nat.add_assoc, Nat.add_comm 1]

theorem mem_accesses_copy_out {access : Access} (n addr : Nat) (memory : Memory) :
    access ∈ (memory.copy_out addr n).2.accesses ↔
      (∃ i < n, access = .read (uintptr (addr + i))) ∨ access ∈ memory.accesses := by
  induction n generalizing addr memory with
  | zero => simp [copy_out]
  | succ n ih =>
    simp only [copy_out, load]
    rw [ih, List.mem_cons, Nat.exists_lt_succ_left]
    simp only [Nat.add_zero, Nat.add_assoc, Nat.add_comm 1]
    simp only [or_assoc, or_left_comm]

theorem mem_accesses_copy_in {access : Access} (values : List uint8_t) (addr : Nat)
    (memory : Memory) :
    access ∈ (memory.copy_in addr values).accesses ↔
      (∃ i < values.length, access = .write (uintptr (addr + i))) ∨ access ∈ memory.accesses := by
  induction values generalizing addr memory with
  | nil => simp [copy_in]
  | cons value values ih =>
    simp only [copy_in, store]
    rw [ih, List.mem_cons, List.length_cons, Nat.exists_lt_succ_left]
    simp only [Nat.add_zero, Nat.add_assoc, Nat.add_comm 1]
    simp only [or_assoc, or_left_comm]

end scrutiny.Memory
