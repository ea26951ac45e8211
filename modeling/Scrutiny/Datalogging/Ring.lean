import Scrutiny.Datalogging.RawEncoder

open foundation

namespace scrutiny

section

variable [Platform]

theorem buffer_size_of_lt {n : Nat} (h : n < 2 ^ Platform.buffer_size_bits) : buffer_size n = n :=
  Nat.mod_eq_of_lt h

theorem buffer_size_sub_of_le {n m : Nat} (hle : m ≤ n)
    (hn : n < 2 ^ Platform.buffer_size_bits) : buffer_size_sub n m = n - m := by
  have hsplit : n + 2 ^ Platform.buffer_size_bits - m =
      (n - m) + 2 ^ Platform.buffer_size_bits := by omega
  rw [buffer_size_sub, hsplit, buffer_size, Nat.add_mod_right]
  exact Nat.mod_eq_of_lt (by omega)

end

namespace datalogging.RawFormatEncoder

/-- The entries lie in the buffer one after the other, in a ring that starts again from the
first when there is no room for another one. -/
structure Ring (encoder : RawFormatEncoder) : Prop where
  entry_size_pos : 0 < encoder.m_entry_size.toNat
  max_entries_pos : 0 < encoder.m_max_entries
  fits : encoder.m_max_entries * encoder.m_entry_size.toNat ≤ encoder.m_buffer_size
  next_lt : encoder.m_next_entry_write_index < encoder.m_max_entries
  first : encoder.m_first_valid_entry_index =
    if encoder.m_full then encoder.m_next_entry_write_index else 0

variable [Platform]

/-- What holds of an encoder at any time. -/
structure Sound (encoder : RawFormatEncoder) : Prop where
  size_lt : encoder.m_buffer_size < 2 ^ Platform.buffer_size_bits
  ring : encoder.m_error = false → encoder.Ring
  counter : encoder.m_full = false → encoder.m_entry_write_counter ≤ encoder.m_next_entry_write_index

variable {self : RawFormatEncoder}

namespace Ring

theorem effective_size (h : self.Ring) (hsize : self.m_buffer_size < 2 ^ Platform.buffer_size_bits) :
    self.get_buffer_effective_size = self.m_max_entries * self.m_entry_size.toNat := by
  rw [get_buffer_effective_size, Nat.mul_comm]
  exact buffer_size_of_lt (h.fits.trans_lt hsize)

omit [Platform] in
/-- An entry of the ring ends in the part of the buffer that is used. -/
theorem index_mul_le {i : Nat} (hi : i < self.m_max_entries) :
    i * self.m_entry_size.toNat + self.m_entry_size.toNat ≤
      self.m_max_entries * self.m_entry_size.toNat := by
  rw [← Nat.succ_mul]
  exact Nat.mul_le_mul_right _ hi

theorem write_cursor (h : self.Ring) (hsize : self.m_buffer_size < 2 ^ Platform.buffer_size_bits) :
    self.get_write_cursor = self.m_next_entry_write_index * self.m_entry_size.toNat := by
  have hentry := index_mul_le h.next_lt
  have hfits := h.fits
  exact buffer_size_of_lt (by omega)

theorem max_entries_lt (h : self.Ring)
    (hsize : self.m_buffer_size < 2 ^ Platform.buffer_size_bits) :
    self.m_max_entries < 2 ^ Platform.buffer_size_bits := by
  have hle := Nat.le_mul_of_pos_right self.m_max_entries h.entry_size_pos
  have hfits := h.fits
  omega

omit [Platform] in
theorem entry_count_le (h : self.Ring) : self.get_entry_count ≤ self.m_max_entries := by
  have hnext := h.next_lt
  rw [get_entry_count]
  split <;> omega

/-- There is room for an entry as long as the ring is not full. -/
theorem remaining_pos (h : self.Ring)
    (hsize : self.m_buffer_size < 2 ^ Platform.buffer_size_bits) (hroom : self.m_full = false) :
    0 < self.remaining_bytes_to_full := by
  have hentry := index_mul_le h.next_lt
  have hfits := h.fits
  have hpos := h.entry_size_pos
  rw [remaining_bytes_to_full, if_neg (by simp [hroom]), h.effective_size hsize,
    h.write_cursor hsize, buffer_size_sub_of_le (by omega) (by omega)]
  omega

end Ring

/-- The items only say how large an entry is. -/
theorem measure_items_frame (handler : Config) (items : List LoggableItem)
    (self : RawFormatEncoder) :
    ∃ m_entry_size m_error, items.foldl (measure_item handler) self =
      { self with m_entry_size := m_entry_size, m_error := m_error } := by
  induction items generalizing self with
  | nil => exact ⟨_, _, rfl⟩
  | cons item items ih =>
    have hitem : ∃ m_entry_size m_error, measure_item handler self item =
        { self with m_entry_size := m_entry_size, m_error := m_error } := by
      unfold measure_item
      repeat' split
      all_goals exact ⟨_, _, rfl⟩
    obtain ⟨m_entry_size, m_error, hitem⟩ := hitem
    obtain ⟨m_entry_size', m_error', hrest⟩ := ih (measure_item handler self item)
    rw [List.foldl_cons, hrest, hitem]
    exact ⟨_, _, rfl⟩

theorem reset_buffer_size (self : RawFormatEncoder) (handler : Config) (config : Configuration) :
    (self.reset handler config).m_buffer_size = self.m_buffer_size := by
  unfold reset
  simp only
  obtain ⟨m_entry_size, m_error, hmeasured⟩ := measure_items_frame handler config.item_list
    { self.reset_write_counter with
      m_error := self.m_buffer.isNone || self.m_buffer_size == 0
      m_next_entry_write_index := 0
      m_first_valid_entry_index := 0
      m_entry_size := 0
      m_full := false
      m_max_entries := 0 }
  rw [hmeasured]
  split <;> split <;> rfl

theorem reset_sound (hsize : self.m_buffer_size < 2 ^ Platform.buffer_size_bits)
    (handler : Config) (config : Configuration) : (self.reset handler config).Sound := by
  unfold reset
  simp only
  obtain ⟨m_entry_size, m_error, hmeasured⟩ := measure_items_frame handler config.item_list
    { self.reset_write_counter with
      m_error := self.m_buffer.isNone || self.m_buffer_size == 0
      m_next_entry_write_index := 0
      m_first_valid_entry_index := 0
      m_entry_size := 0
      m_full := false
      m_max_entries := 0 }
  rw [hmeasured]
  by_cases hpos : m_entry_size > 0
  · simp only [if_pos hpos]
    have hentry : 0 < m_entry_size.toNat := by bv_omega
    split
    · exact ⟨hsize, fun herror => Bool.noConfusion herror, fun _ => Nat.le_refl 0⟩
    · rename_i hentries
      have hmax : 0 < self.m_buffer_size / m_entry_size.toNat := Nat.pos_of_ne_zero hentries
      exact ⟨hsize, fun _ => ⟨hentry, hmax, Nat.div_mul_le_self _ _, hmax, rfl⟩,
        fun _ => Nat.le_refl 0⟩
  · simp only [if_neg hpos]
    exact ⟨hsize, fun herror => Bool.noConfusion herror, fun _ => Nat.le_refl 0⟩

theorem Sound.reset_write_counter (h : self.Sound) : self.reset_write_counter.Sound :=
  ⟨h.size_lt, fun herror => ⟨(h.ring herror).entry_size_pos, (h.ring herror).max_entries_pos,
    (h.ring herror).fits, (h.ring herror).next_lt, (h.ring herror).first⟩, fun _ => Nat.zero_le _⟩

/-- The place of the entry after the one at a place. -/
def next_index (self : RawFormatEncoder) (i : Nat) : Nat :=
  if i + 1 = self.m_max_entries then 0 else i + 1

/-- What a new entry does to the cursors, the content apart. -/
theorem encode_next_entry_cursors (h : self.Sound) (herror : self.m_error = false)
    (handler : Config) (config : Configuration) (timebase : Timebase) (caller : Option LoopId)
    (memory : Memory) :
    ∃ m_buffer, (self.encode_next_entry handler config timebase caller memory).1 = { self with
      m_buffer := m_buffer
      m_first_valid_entry_index :=
        if self.m_full then self.next_index self.m_next_entry_write_index else 0
      m_next_entry_write_index := self.next_index self.m_next_entry_write_index
      m_full := self.m_full || decide (self.m_next_entry_write_index + 1 = self.m_max_entries)
      m_entry_write_counter := buffer_size (self.m_entry_write_counter + 1) } := by
  have hring := h.ring herror
  have hnext := hring.next_lt
  have hmax := hring.max_entries_lt h.size_lt
  have hfirst := hring.first
  have hindex : buffer_size (self.m_next_entry_write_index + 1) =
      self.m_next_entry_write_index + 1 := buffer_size_of_lt (by omega)
  have hwraps : self.m_next_entry_write_index + 1 ≥ self.m_max_entries ↔
      self.m_next_entry_write_index + 1 = self.m_max_entries := by omega
  rw [encode_next_entry, if_neg (by simp [herror])]
  cases hfull : self.m_full with
  | true =>
    rw [hfull, if_pos rfl] at hfirst
    have hadvance : self.advance_first_valid = { self with
        m_first_valid_entry_index := self.next_index self.m_next_entry_write_index } := by
      rw [advance_first_valid, if_pos ⟨hfirst.symm, hfull⟩, hfirst]
      simp only [hindex, hwraps]
      rfl
    simp only [hadvance, hindex, hwraps, hfull, ite_self, Bool.true_or, if_true]
    exact ⟨_, rfl⟩
  | false =>
    rw [hfull] at hfirst
    have hadvance : self.advance_first_valid = self := by
      rw [advance_first_valid, if_neg (by simp [hfull])]
    have hstays : (if self.m_next_entry_write_index + 1 = self.m_max_entries then true
        else self.m_full) = decide (self.m_next_entry_write_index + 1 = self.m_max_entries) := by
      rw [hfull]
      split <;> rename_i hlast <;> simp [hlast]
    have hzero : self.m_first_valid_entry_index = 0 := hfirst
    simp only [hadvance, hindex, hwraps, hstays, hzero, Bool.false_or, Bool.false_eq_true, if_false]
    exact ⟨_, rfl⟩

omit [Platform] in
theorem Ring.next_index_lt (h : self.Ring) :
    self.next_index self.m_next_entry_write_index < self.m_max_entries := by
  have hnext := h.next_lt
  have hpos := h.max_entries_pos
  rw [next_index]
  split <;> omega

theorem encode_next_entry_buffer_size (self : RawFormatEncoder) (handler : Config)
    (config : Configuration) (timebase : Timebase) (caller : Option LoopId) (memory : Memory) :
    (self.encode_next_entry handler config timebase caller memory).1.m_buffer_size =
      self.m_buffer_size := by
  unfold encode_next_entry advance_first_valid
  split
  · rfl
  · simp only
    split <;> rfl

theorem Sound.encode_next_entry (h : self.Sound) (handler : Config) (config : Configuration)
    (timebase : Timebase) (caller : Option LoopId) (memory : Memory) :
    (self.encode_next_entry handler config timebase caller memory).1.Sound := by
  cases herror : self.m_error with
  | true =>
    rw [RawFormatEncoder.encode_next_entry, if_pos herror]
    exact h
  | false =>
    have hring := h.ring herror
    obtain ⟨m_buffer, hcursors⟩ :=
      encode_next_entry_cursors h herror handler config timebase caller memory
    rw [hcursors]
    refine ⟨h.size_lt, fun _ => ⟨hring.entry_size_pos, hring.max_entries_pos, hring.fits,
      hring.next_index_lt, ?_⟩, fun hroom => ?_⟩
    · cases hfull : self.m_full with
      | true => rfl
      | false =>
        simp only [Bool.false_or, Bool.false_eq_true, if_false, decide_eq_true_eq, next_index]
        split <;> simp
    · simp only [Bool.or_eq_false_iff, decide_eq_false_iff_not] at hroom
      have hcounter := h.counter hroom.1
      have hnext := hring.next_lt
      have hmax := hring.max_entries_lt h.size_lt
      simp only [next_index, if_neg hroom.2]
      rw [buffer_size_of_lt (by omega)]
      omega

end datalogging.RawFormatEncoder

end scrutiny
