import Scrutiny.Datalogging.Entries

open foundation

namespace scrutiny.datalogging

namespace RawFormatEncoder

variable [Platform]

/-- The encoder with its reader at another place. -/
def set_reader (self : RawFormatEncoder) (m_reader : RawFormatReader) : RawFormatEncoder :=
  { self with m_reader }

omit [Platform] in
@[simp] theorem set_reader_m_reader (self : RawFormatEncoder) (m_reader : RawFormatReader) :
    (self.set_reader m_reader).m_reader = m_reader := rfl

@[simp] theorem set_reader_reset_reader (self : RawFormatEncoder) (m_reader : RawFormatReader) :
    (self.set_reader m_reader).reset_reader = self.reset_reader := rfl

/-- An encoder that holds an acquisition. -/
structure Holds (encoder : RawFormatEncoder) : Prop where
  sound : encoder.Sound
  no_error : encoder.m_error = false
  not_empty : 0 < encoder.get_entry_count

namespace Holds

variable {self : RawFormatEncoder}

theorem ring (h : self.Holds) : self.Ring := h.sound.ring h.no_error

/-- Reading does not change what is held. -/
theorem set_reader (h : self.Holds) (m_reader : RawFormatReader) :
    (self.set_reader m_reader).Holds :=
  ⟨⟨h.sound.size_lt, fun _ => ⟨h.ring.entry_size_pos, h.ring.max_entries_pos, h.ring.fits,
    h.ring.next_lt, h.ring.first⟩, h.sound.counter⟩, h.no_error, h.not_empty⟩

theorem stored_eq (h : self.Holds) :
    self.stored = self.content.around (self.m_max_entries * self.m_entry_size.toNat)
      (self.m_first_valid_entry_index * self.m_entry_size.toNat)
      (self.get_entry_count * self.m_entry_size.toNat) :=
  Buffer.blocks_around self.content _ _ h.ring.max_entries_pos

theorem length_stored (h : self.Holds) :
    self.stored.length = self.get_entry_count * self.m_entry_size.toNat := by
  rw [h.stored_eq, Buffer.length_around]

theorem stored_pos (h : self.Holds) : 0 < self.stored.length := by
  rw [h.length_stored]
  exact Nat.mul_pos h.not_empty h.ring.entry_size_pos

theorem stored_le (h : self.Holds) :
    self.stored.length ≤ self.m_max_entries * self.m_entry_size.toNat := by
  rw [h.length_stored]
  exact Nat.mul_le_mul_right _ h.ring.entry_count_le

theorem total_size (h : self.Holds) :
    RawFormatReader.get_total_size_char self = self.stored.length := by
  have hle := h.stored_le
  have hfits := h.ring.fits
  have hsize := h.sound.size_lt
  rw [h.length_stored] at hle ⊢
  rw [RawFormatReader.get_total_size_char, error, if_neg (by simp [h.no_error])]
  exact buffer_size_of_lt (by omega)

theorem first_lt (h : self.Holds) :
    self.m_first_valid_entry_index * self.m_entry_size.toNat <
      self.m_max_entries * self.m_entry_size.toNat := by
  refine Nat.mul_lt_mul_of_pos_right ?_ h.ring.entry_size_pos
  have hnext := h.ring.next_lt
  have hpos := h.ring.max_entries_pos
  rw [h.ring.first]
  split <;> omega

/-- The next entry is written after the newest one. -/
theorem write_cursor (h : self.Holds) :
    self.get_write_cursor =
      (self.m_first_valid_entry_index * self.m_entry_size.toNat + self.stored.length) %
        (self.m_max_entries * self.m_entry_size.toNat) := by
  have hentry := Ring.index_mul_le h.ring.next_lt
  have hpos := h.ring.entry_size_pos
  rw [h.ring.write_cursor h.sound.size_lt, h.length_stored, get_entry_count, h.ring.first]
  split
  · rw [Nat.add_mod_right, Nat.mod_eq_of_lt (by omega)]
  · rw [Nat.zero_mul, Nat.zero_add, Nat.mod_eq_of_lt (by omega)]

end Holds

/-- The reader once it has read some of the bytes. -/
def reader_at (self : RawFormatEncoder) (position : Nat) : RawFormatReader where
  m_read_cursor := (self.m_first_valid_entry_index * self.m_entry_size.toNat + position) %
    (self.m_max_entries * self.m_entry_size.toNat)
  m_finished := decide (position = self.stored.length)
  m_read_started := decide (0 < position)

end RawFormatEncoder

namespace RawFormatReader

variable [Platform]

open RawFormatEncoder

omit [Platform] in
/-- The place right after the newest byte is only reached at the end. -/
theorem position_eq_total {first size total position : Nat} (hfirst : first < size)
    (htotal : total ≤ size) (hpos : 0 < position) (hposition : position ≤ total) :
    (first + position) % size = (first + total) % size ↔ position = total := by
  rw [mod_of_lt_two_mul (by omega), mod_of_lt_two_mul (by omega)]
  split_ifs <;> omega

omit [Platform] in
/-- One turn of the loop of `read_dilate_8bits`: how much is contiguous from a position on,
and where a transfer of no more than that leads to. -/
theorem read_turn {first size total position : Nat} (hfirst : first < size) (htotal : total ≤ size)
    (hposition : position < total) :
    let write_cursor := (first + total) % size
    let read_cursor := (first + position) % size
    let right_hand_start_point := if write_cursor > read_cursor then write_cursor else size
    read_cursor < right_hand_start_point ∧ right_hand_start_point ≤ size ∧
      right_hand_start_point - read_cursor ≤ total - position ∧
      ∀ transfer, 0 < transfer → transfer ≤ right_hand_start_point - read_cursor →
        (if read_cursor + transfer > write_cursor ∧ read_cursor + transfer ≥ size then
          read_cursor + transfer - size else read_cursor + transfer) =
            (first + (position + transfer)) % size := by
  have hpositions (n : Nat) (hn : n ≤ total) :
      (first + n) % size = if first + n < size then first + n else first + n - size :=
    mod_of_lt_two_mul (by omega)
  have hread := hpositions position (by omega)
  have hwrite := hpositions total (by omega)
  intro write_cursor read_cursor right_hand_start_point
  have hright : read_cursor < right_hand_start_point ∧ right_hand_start_point ≤ size ∧
      right_hand_start_point - read_cursor ≤ total - position := by
    simp only [right_hand_start_point, read_cursor, write_cursor, hread, hwrite]
    split_ifs <;> omega
  refine ⟨hright.1, hright.2.1, hright.2.2, fun transfer hpos hle => ?_⟩
  have hnext := hpositions (position + transfer) (by omega)
  rw [hnext]
  simp only [right_hand_start_point, read_cursor, write_cursor, hread, hwrite] at hle ⊢
  split_ifs at * <;> omega

variable {self : RawFormatEncoder}

theorem reader_at_end (h : self.Holds) {position : Nat} (hpos : 0 < position)
    (hposition : position ≤ self.stored.length) :
    (self.reader_at position).m_read_cursor = self.get_write_cursor ↔
      position = self.stored.length := by
  rw [h.write_cursor]
  exact position_eq_total h.first_lt h.stored_le hpos hposition

/-- What is contiguous from the cursor of the reader on. -/
def contiguous (self : RawFormatEncoder) (read_cursor : Nat) : Nat :=
  (if self.get_write_cursor > read_cursor then self.get_write_cursor
    else self.get_buffer_effective_size) - read_cursor

/-- A transfer of contiguous bytes takes the reader to a later position. -/
theorem read_transfer (h : self.Holds) {position : Nat} (hposition : position < self.stored.length) :
    let read_cursor := (self.reader_at position).m_read_cursor
    0 < contiguous self read_cursor ∧
      contiguous self read_cursor ≤ self.stored.length - position ∧
      read_cursor + contiguous self read_cursor < 2 ^ Platform.buffer_size_bits ∧
      ∀ transfer, 0 < transfer → transfer ≤ contiguous self read_cursor →
        self.content.slice read_cursor transfer = (self.stored.drop position).take transfer ∧
        (if read_cursor + transfer > self.get_write_cursor ∧
            read_cursor + transfer ≥ self.get_buffer_effective_size then
          buffer_size_sub (read_cursor + transfer) self.get_buffer_effective_size
          else read_cursor + transfer) = (self.reader_at (position + transfer)).m_read_cursor := by
  have hsize := h.sound.size_lt
  have hfits := h.ring.fits
  obtain ⟨hcursor, hright, havailable, hnext⟩ := read_turn h.first_lt h.stored_le hposition
  simp only [contiguous, reader_at, h.write_cursor, h.ring.effective_size hsize]
  refine ⟨by omega, havailable, by omega, fun transfer hpos hle => ⟨?_, ?_⟩⟩
  · rw [h.stored_eq, Buffer.drop_around, Buffer.take_around, ← h.length_stored,
      Nat.min_eq_left (by omega), ← Buffer.around_mod, Buffer.around_eq_slice]
    omega
  · rw [← hnext transfer hpos hle]
    split
    · rename_i hpast
      exact buffer_size_sub_of_le hpast.2 (by omega)
    · rfl

/-- The loop reads on from where it is, up to the room there is or the end of the data. -/
theorem read_loop_reads (h : self.Holds) {max_size_8bits : Nat} :
    ∀ (fuel position : Nat) (output : List uint8_t), position < self.stored.length →
      max_size_8bits < output.length + fuel →
      read_loop self self.get_write_cursor self.get_buffer_effective_size max_size_8bits fuel
          (self.reader_at position) output =
        (self.reader_at (position +
            min (max_size_8bits - output.length) (self.stored.length - position)),
          output ++ (self.stored.drop position).take (max_size_8bits - output.length))
  | 0, position, output, hposition, hfuel => by
    have hroom : max_size_8bits - output.length = 0 := by omega
    simp [read_loop, hroom]
  | fuel + 1, position, output, hposition, hfuel => by
    rw [read_loop]
    split
    · rename_i hroom
      obtain ⟨hpos, hle, hlt, htransfer⟩ := read_transfer h hposition
      have hsize := h.sound.size_lt
      generalize hcursor : (self.reader_at position).m_read_cursor = read_cursor at *
      have havailable : buffer_size_sub (if self.get_write_cursor > read_cursor then
          self.get_write_cursor else self.get_buffer_effective_size) read_cursor =
          contiguous self read_cursor := by
        rw [contiguous] at hpos hlt ⊢
        exact buffer_size_sub_of_le (by omega) (by omega)
      simp only [havailable]
      generalize htransferred : (if contiguous self read_cursor < max_size_8bits - output.length then
        contiguous self read_cursor else max_size_8bits - output.length) = transfer
      have hmin : 0 < transfer ∧ transfer ≤ contiguous self read_cursor ∧
          transfer ≤ max_size_8bits - output.length := by
        rw [← htransferred]
        split <;> omega
      obtain ⟨hbytes, hnext⟩ := htransfer transfer hmin.1 hmin.2.1
      have hfinished := reader_at_end h (Nat.add_pos_right position hmin.1) (by omega)
      rw [buffer_size_of_lt (by omega), hbytes, hnext]
      have hread : (output ++ (self.stored.drop position).take transfer).length =
          output.length + transfer := by
        rw [List.length_append, List.length_take, List.length_drop]
        omega
      split
      · rename_i hlast
        have hend := hfinished.mp hlast
        have hrest : (self.stored.drop position).length = transfer := by
          rw [List.length_drop]
          omega
        rw [Nat.min_eq_right (by omega), Nat.add_sub_cancel' hposition.le, ← hend,
          List.take_of_length_le hrest.le, List.take_of_length_le (by omega)]
        simp [reader_at, hend, h.stored_pos]
      · rename_i hmore
        have hunread : position + transfer < self.stored.length := by
          have hne := mt hfinished.mpr hmore
          omega
        have hreader : RawFormatReader.mk (self.reader_at (position + transfer)).m_read_cursor
            (self.reader_at position).m_finished true = self.reader_at (position + transfer) := by
          simp [reader_at, hposition.ne, hunread.ne, hmin.1]
        have hrest : max_size_8bits - output.length =
            transfer + (max_size_8bits - (output.length + transfer)) := by omega
        rw [hreader, read_loop_reads h fuel (position + transfer) _ hunread (by omega), hread,
          List.append_assoc, hrest, List.take_add, List.drop_drop]
        congr 2
        omega
    · rename_i hfull
      have hroom : max_size_8bits - output.length = 0 := by omega
      simp [hroom]

/-- A call of `read_dilate_8bits` gives the next bytes of the acquisition. -/
theorem read_dilate_8bits_reads (h : self.Holds) {position max_size_8bits : Nat}
    (hposition : position ≤ self.stored.length) (hroom : 0 < max_size_8bits) :
    read_dilate_8bits (self.set_reader (self.reader_at position)) max_size_8bits =
      (self.set_reader (self.reader_at (min (position + max_size_8bits) self.stored.length)),
        (self.stored.drop position).take max_size_8bits) := by
  rw [read_dilate_8bits, if_neg (by simp [error, set_reader, h.no_error])]
  change (if (self.reader_at position).m_read_cursor = self.get_write_cursor ∧
    (self.reader_at position).m_read_started = true then _ else _) = _
  split
  · rename_i hread
    have hend := (reader_at_end h (of_decide_eq_true hread.2) hposition).mp hread.1
    rw [hend, Nat.min_eq_right (by omega), List.drop_length, List.take_nil]
    simp [reader_at, set_reader]
  · rename_i hunread
    have hlt : position < self.stored.length := by
      refine Nat.lt_of_le_of_ne hposition fun hend => hunread ?_
      rw [hend]
      exact ⟨(reader_at_end h h.stored_pos (Nat.le_refl _)).mpr rfl, decide_eq_true h.stored_pos⟩
    have hfuel : max_size_8bits < ([] : List uint8_t).length + (max_size_8bits + 1) := by simp
    have hloop := read_loop_reads (h.set_reader (self.reader_at position))
      (max_size_8bits + 1) position [] hlt hfuel
    have hnext : position + min max_size_8bits (self.stored.length - position) =
        min (position + max_size_8bits) self.stored.length := by omega
    rw [← hnext]
    exact congrArg (fun result : RawFormatReader × List uint8_t =>
      (self.set_reader result.1, result.2)) hloop

theorem reset_reader_eq (h : self.Holds) :
    self.reset_reader = self.set_reader (self.reader_at 0) := by
  have hfirst := h.first_lt
  have hfits := h.ring.fits
  have hsize := h.sound.size_lt
  have hcursor : self.get_read_cursor = self.m_first_valid_entry_index * self.m_entry_size.toNat :=
    buffer_size_of_lt (by omega)
  rw [reset_reader, set_reader, reader_at, hcursor, Nat.add_zero, Nat.mod_eq_of_lt hfirst]
  simp [h.stored_pos.ne]

end RawFormatReader

end scrutiny.datalogging
