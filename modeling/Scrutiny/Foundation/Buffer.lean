import Mathlib

namespace foundation

/-- The cells a pointer gives access to. No bound is part of the type, so an
access past the end of an array can be expressed. -/
abbrev Buffer (α : Type) := Nat → α

namespace Buffer

variable {α : Type}

/-- The `length` cells from `start` on. -/
def slice (buffer : Buffer α) (start length : Nat) : List α :=
  (List.range length).map fun i => buffer (start + i)

/-- Overwrites the cells from `start` on with `values`. -/
def write (buffer : Buffer α) (start : Nat) (values : List α) : Buffer α := fun i =>
  if i < start then buffer i else (values[i - start]?).getD (buffer i)

/-- The buffer seen from a later cell. -/
def shift (buffer : Buffer α) (start : Nat) : Buffer α := fun i => buffer (start + i)

@[simp] theorem length_slice (buffer : Buffer α) (start length : Nat) :
    (buffer.slice start length).length = length := by
  simp [slice]

@[simp] theorem slice_zero (buffer : Buffer α) (start : Nat) : buffer.slice start 0 = [] := rfl

theorem slice_succ (buffer : Buffer α) (start length : Nat) :
    buffer.slice start (length + 1) = buffer start :: buffer.slice (start + 1) length := by
  simp [slice, List.range_succ_eq_map, Nat.add_assoc, Nat.add_comm 1, Function.comp_def]

theorem getElem?_slice (buffer : Buffer α) {start length i : Nat} (hi : i < length) :
    (buffer.slice start length)[i]? = some (buffer (start + i)) := by
  simp [slice, hi]

theorem slice_add (buffer : Buffer α) (start first second : Nat) :
    buffer.slice start (first + second) =
      buffer.slice start first ++ buffer.slice (start + first) second := by
  simp [slice, List.range_add, Nat.add_assoc]

theorem drop_slice (buffer : Buffer α) (start length n : Nat) :
    (buffer.slice start length).drop n = buffer.slice (start + n) (length - n) := by
  by_cases hn : n ≤ length
  · obtain ⟨rest, rfl⟩ := Nat.exists_eq_add_of_le hn
    rw [slice_add, List.drop_left' (length_slice buffer start n), Nat.add_sub_cancel_left]
  · have hnone : length - n = 0 := by omega
    rw [List.drop_eq_nil_of_le (by rw [length_slice]; omega), hnone]
    rfl

theorem take_slice (buffer : Buffer α) (start length n : Nat) :
    (buffer.slice start length).take n = buffer.slice start (min n length) := by
  by_cases hn : n ≤ length
  · obtain ⟨rest, rfl⟩ := Nat.exists_eq_add_of_le hn
    rw [slice_add, List.take_left' (length_slice buffer start n), Nat.min_eq_left hn]
  · rw [List.take_of_length_le (by rw [length_slice]; omega), Nat.min_eq_right (by omega)]

/-- The parts of a slice are slices. -/
theorem slice_eq_append {buffer : Buffer α} {start length : Nat} {first second : List α}
    (h : buffer.slice start length = first ++ second) :
    first.length + second.length = length ∧ buffer.slice start first.length = first ∧
      buffer.slice (start + first.length) (length - first.length) = second := by
  have hlength := congrArg List.length h
  rw [length_slice, List.length_append] at hlength
  subst hlength
  rw [slice_add] at h
  rw [Nat.add_sub_cancel_left]
  exact ⟨rfl, List.append_inj h (length_slice buffer start _)⟩

theorem slice_eq_cons {buffer : Buffer α} {start length : Nat} {first : α} {rest : List α}
    (h : buffer.slice start length = first :: rest) :
    0 < length ∧ buffer start = first ∧ buffer.slice (start + 1) (length - 1) = rest := by
  cases length with
  | zero => cases h
  | succ length =>
    rw [slice_succ] at h
    obtain ⟨hfirst, hrest⟩ := List.cons.inj h
    exact ⟨Nat.succ_pos _, hfirst, hrest⟩

theorem slice_shift (buffer : Buffer α) (offset start length : Nat) :
    (buffer.shift offset).slice start length = buffer.slice (offset + start) length := by
  simp [slice, shift, Nat.add_assoc]

/-- Slices only depend on the cells they cover. -/
theorem slice_congr {buffer other : Buffer α} {start length : Nat}
    (h : ∀ i, start ≤ i → i < start + length → buffer i = other i) :
    buffer.slice start length = other.slice start length := by
  apply List.map_congr_left
  intro i hi
  have hlt : i < length := List.mem_range.mp hi
  exact h (start + i) (by omega) (by omega)

/-- The same cells up to a limit. -/
def SameBelow (n : Nat) (buffer other : Buffer α) : Prop := ∀ i < n, buffer i = other i

theorem SameBelow.mono {m n : Nat} {buffer other : Buffer α} (h : SameBelow n buffer other)
    (hm : m ≤ n) : SameBelow m buffer other :=
  fun i hi => h i (hi.trans_le hm)

theorem SameBelow.shift {m n : Nat} {buffer other : Buffer α} (h : SameBelow n buffer other)
    (start : Nat) (hm : start + m ≤ n) : SameBelow m (buffer.shift start) (other.shift start) :=
  fun i hi => h (start + i) (by omega)

theorem SameBelow.slice_eq {n start length : Nat} {buffer other : Buffer α}
    (h : SameBelow n buffer other) (hlength : start + length ≤ n) :
    buffer.slice start length = other.slice start length :=
  slice_congr fun i _ hi => h i (by omega)

theorem write_of_lt (buffer : Buffer α) {start i : Nat} (values : List α) (hi : i < start) :
    buffer.write start values i = buffer i := by
  simp [write, hi]

theorem write_of_ge (buffer : Buffer α) {start i : Nat} (values : List α)
    (hi : start + values.length ≤ i) : buffer.write start values i = buffer i := by
  have hnot : ¬ i < start := by omega
  have hnone : values[i - start]? = none := List.getElem?_eq_none (by omega)
  simp [write, hnot, hnone]

@[simp] theorem write_nil (buffer : Buffer α) (start : Nat) : buffer.write start [] = buffer := by
  funext i
  simp [write]

/-- What is written right after is written in one go. -/
theorem write_append (buffer : Buffer α) (start : Nat) (first second : List α) :
    (buffer.write start first).write (start + first.length) second =
      buffer.write start (first ++ second) := by
  funext i
  by_cases hbefore : i < start
  · rw [write_of_lt _ _ (by omega), write_of_lt _ _ hbefore, write_of_lt _ _ hbefore]
  · by_cases hfirst : i - start < first.length
    · rw [write_of_lt _ _ (by omega)]
      simp [write, hbefore, List.getElem?_append_left hfirst]
    · have hoffset : i - (start + first.length) = i - start - first.length := by omega
      have hnot : ¬ i < start + first.length := by omega
      have hpast : first.length ≤ i - start := by omega
      simp only [write, if_neg hbefore, if_neg hnot, hoffset, List.getElem?_append_right hpast,
        List.getElem?_eq_none hpast, Option.getD_none]

/-- Single values written one after the other, each at its place. -/
def write_each (buffer : Buffer α) (writes : List (Nat × α)) : Buffer α :=
  writes.foldl (fun buffer place => buffer.write place.1 [place.2]) buffer

theorem write_each_append (buffer : Buffer α) (first second : List (Nat × α)) :
    buffer.write_each (first ++ second) = (buffer.write_each first).write_each second :=
  List.foldl_append

theorem write_each_zip (buffer : Buffer α) (start : Nat) (values : List α) :
    buffer.write_each ((List.range' start values.length).zip values) =
      buffer.write start values := by
  induction values generalizing buffer start with
  | nil => exact (write_nil buffer start).symm
  | cons value values ih =>
    have hfirst := write_append buffer start [value] values
    rw [List.length_singleton, List.singleton_append] at hfirst
    rw [← hfirst, ← ih]
    rfl

theorem slice_write_same (buffer : Buffer α) (start : Nat) (values : List α) :
    (buffer.write start values).slice start values.length = values := by
  apply List.ext_getElem?
  intro i
  by_cases hi : i < values.length
  · rw [getElem?_slice _ hi]
    simp [write, hi]
  · rw [List.getElem?_eq_none (by simp; omega), List.getElem?_eq_none (by omega)]

theorem slice_write_before (buffer : Buffer α) {start length offset : Nat} (values : List α)
    (h : start + length ≤ offset) :
    (buffer.write offset values).slice start length = buffer.slice start length :=
  slice_congr fun _ _ _ => write_of_lt buffer values (by omega)

theorem slice_write_after (buffer : Buffer α) {start length offset : Nat} (values : List α)
    (h : offset + values.length ≤ start) :
    (buffer.write offset values).slice start length = buffer.slice start length :=
  slice_congr fun _ _ _ => write_of_ge buffer values (by omega)

/-- Writing at the end of what was written so far appends. -/
theorem slice_write_append (buffer : Buffer α) (start length : Nat) (values : List α) :
    (buffer.write (start + length) values).slice start (length + values.length) =
      buffer.slice start length ++ values := by
  rw [slice_add, slice_write_before _ _ (Nat.le_refl _), slice_write_same]

end Buffer

end foundation
