import Scrutiny.Datalogging.Ring
import Scrutiny.Foundation.Circular

open foundation

namespace scrutiny.datalogging.RawFormatEncoder

variable [Platform]

/-- The entry of the ring at a place counted from the oldest. -/
def entry (self : RawFormatEncoder) (i : Nat) : List uint8_t :=
  self.content.slice
    ((self.m_first_valid_entry_index + i) % self.m_max_entries * self.m_entry_size.toNat)
    self.m_entry_size.toNat

/-- The entries from the oldest to the newest. -/
def entries (self : RawFormatEncoder) : List (List uint8_t) :=
  (List.range self.get_entry_count).map self.entry

/-- The bytes of an acquisition. -/
def stored (self : RawFormatEncoder) : List uint8_t := self.entries.flatten

/-- The bytes of an entry, and the memory after they were read. -/
def entry_bytes (handler : Config) (timebase : Timebase) (caller : Option LoopId) :
    List LoggableItem → Memory → List uint8_t × Memory
  | [], memory => ([], memory)
  | item :: items, memory =>
    let (bytes, memory) := encode_item handler timebase caller item memory
    let (rest, memory) := entry_bytes handler timebase caller items memory
    (bytes ++ rest, memory)

theorem encode_items_eq (handler : Config) (timebase : Timebase) (caller : Option LoopId)
    (items : List LoggableItem) {cursor : Nat} (buffer : ByteBuffer) {memory : Memory}
    (hend : cursor + (entry_bytes handler timebase caller items memory).1.length <
      2 ^ Platform.buffer_size_bits) :
    encode_items handler timebase caller items cursor buffer memory =
      (buffer.write cursor (entry_bytes handler timebase caller items memory).1,
        (entry_bytes handler timebase caller items memory).2) := by
  induction items generalizing cursor buffer memory with
  | nil => simp [encode_items, entry_bytes]
  | cons item items ih =>
    simp only [encode_items, entry_bytes, List.length_append] at hend ⊢
    rw [buffer_size_of_lt (by omega), ih _ (by omega), Buffer.write_append]

variable {self : RawFormatEncoder}

/-- A new entry is written where the cursor is. -/
theorem encode_next_entry_content (h : self.Sound) (herror : self.m_error = false)
    {handler : Config} {config : Configuration} {timebase : Timebase} {caller : Option LoopId}
    {memory : Memory}
    (hlength : (entry_bytes handler timebase caller config.item_list memory).1.length =
      self.m_entry_size.toNat) :
    (self.encode_next_entry handler config timebase caller memory).1.content =
      self.content.write (self.m_next_entry_write_index * self.m_entry_size.toNat)
        (entry_bytes handler timebase caller config.item_list memory).1 := by
  have hring := h.ring herror
  have hentry := Ring.index_mul_le hring.next_lt
  have hfits := hring.fits
  have hsize := h.size_lt
  have hadvance : self.advance_first_valid.get_write_cursor = self.get_write_cursor ∧
      self.advance_first_valid.content = self.content := by
    unfold advance_first_valid
    split <;> exact ⟨rfl, rfl⟩
  rw [encode_next_entry, if_neg (by simp [herror]), content]
  simp only [hadvance, Option.getD_some]
  rw [hring.write_cursor hsize, encode_items_eq _ _ _ _ _ (by omega)]

/-- A new entry is the newest, and takes the place of the oldest when the ring is full. -/
theorem encode_next_entry_entries (h : self.Sound) (herror : self.m_error = false)
    {handler : Config} {config : Configuration} {timebase : Timebase} {caller : Option LoopId}
    {memory : Memory}
    (hlength : (entry_bytes handler timebase caller config.item_list memory).1.length =
      self.m_entry_size.toNat) :
    (self.encode_next_entry handler config timebase caller memory).1.entries =
      (self.entries ++ [(entry_bytes handler timebase caller config.item_list memory).1]).drop
        (if self.m_full then 1 else 0) := by
  have hring := h.ring herror
  have hnext := hring.next_lt
  have hcontent := encode_next_entry_content h herror hlength
  obtain ⟨m_buffer, hcursors⟩ :=
    encode_next_entry_cursors h herror handler config timebase caller memory
  generalize (self.encode_next_entry handler config timebase caller memory).1 = after at *
  generalize (entry_bytes handler timebase caller config.item_list memory).1 = bytes at *
  have hkept (i : Nat) (hi : i ≠ self.m_next_entry_write_index) :
      after.content.slice (i * self.m_entry_size.toNat) self.m_entry_size.toNat =
        self.content.slice (i * self.m_entry_size.toNat) self.m_entry_size.toNat := by
    rw [hcontent, Buffer.slice_write_block _ hi hlength]
  have hwritten : after.content.slice (self.m_next_entry_write_index * self.m_entry_size.toNat)
      self.m_entry_size.toNat = bytes := by
    rw [hcontent, ← hlength, Buffer.slice_write_same]
  have hsize : after.m_entry_size = self.m_entry_size := by rw [hcursors]
  have hmax : after.m_max_entries = self.m_max_entries := by rw [hcursors]
  have hentry (i : Nat) : after.entry i = after.content.slice
      ((after.m_first_valid_entry_index + i) % self.m_max_entries * self.m_entry_size.toNat)
      self.m_entry_size.toNat := by rw [entry, hsize, hmax]
  cases hfull : self.m_full with
  | false =>
    have hfirst : self.m_first_valid_entry_index = 0 := by
      rw [hring.first, hfull, if_neg Bool.false_ne_true]
    have hfirst' : after.m_first_valid_entry_index = 0 := by
      rw [hcursors, hfull, if_neg Bool.false_ne_true]
    have hbefore : self.get_entry_count = self.m_next_entry_write_index := by
      rw [get_entry_count, hfull, if_neg Bool.false_ne_true]
    have hcount : after.get_entry_count = self.m_next_entry_write_index + 1 := by
      rw [hcursors]
      simp only [get_entry_count, hfull, Bool.false_or, decide_eq_true_eq, next_index]
      split <;> omega
    rw [if_neg Bool.false_ne_true, List.drop_zero, entries, entries, hcount, hbefore,
      List.range_succ, List.map_append, List.map_singleton]
    congr 1
    · apply List.map_congr_left
      intro i hi
      have hlt : i < self.m_next_entry_write_index := List.mem_range.mp hi
      rw [hentry, entry, hfirst, hfirst', Nat.zero_add, Nat.mod_eq_of_lt (by omega),
        hkept i (by omega)]
    · rw [hentry, hfirst', Nat.zero_add, Nat.mod_eq_of_lt hnext, hwritten]
  | true =>
    have hfirst : self.m_first_valid_entry_index = self.m_next_entry_write_index := by
      rw [hring.first, hfull, if_pos rfl]
    have hfirst' (i : Nat) : (after.m_first_valid_entry_index + i) % self.m_max_entries =
        (self.m_next_entry_write_index + (i + 1)) % self.m_max_entries := by
      rw [hcursors]
      simp only [hfull, if_true, next_index]
      split
      · rename_i hwraps
        rw [Nat.zero_add, ← Nat.add_assoc, Nat.add_right_comm, hwraps, Nat.add_mod_left]
      · rw [Nat.add_assoc, Nat.add_comm 1]
    obtain ⟨others, hothers⟩ := Nat.exists_eq_succ_of_ne_zero hring.max_entries_pos.ne'
    have hbefore : self.get_entry_count = others + 1 := by
      rw [get_entry_count, hfull, if_pos rfl, hothers]
    have hcount : after.get_entry_count = others + 1 := by
      rw [hcursors]
      simp only [get_entry_count, hfull, Bool.true_or, if_true, hothers]
    have hold : self.entries = self.entry 0 ::
        (List.range others).map fun i => self.entry (i + 1) := by
      rw [entries, hbefore, List.range_succ_eq_map, List.map_cons, List.map_map]
      rfl
    rw [hold, entries, hcount, List.range_succ, List.map_append, List.map_singleton, if_pos rfl,
      List.cons_append, List.drop_succ_cons, List.drop_zero]
    congr 1
    · apply List.map_congr_left
      intro i hi
      have hlt : i < others := List.mem_range.mp hi
      have hother : (self.m_next_entry_write_index + (i + 1)) % self.m_max_entries ≠
          self.m_next_entry_write_index := by
        rw [mod_of_lt_two_mul (by omega)]
        split <;> omega
      rw [hentry, hfirst', entry, hfirst, hkept _ hother]
    · rw [hentry, hfirst', ← Nat.succ_eq_add_one, ← hothers, Nat.add_mod_right,
        Nat.mod_eq_of_lt hnext, hwritten]

end scrutiny.datalogging.RawFormatEncoder
