import Scrutiny.Datalogging.Agreement
import Scrutiny.MemoryControl.RoundTrip

open foundation

namespace scrutiny.datalogging.RawFormatEncoder

section

variable [Platform]

/-- The writes of `encode_items`, byte by byte in the order in which it does them. -/
def item_writes (handler : Config) (timebase : Timebase) (caller : Option LoopId) :
    List LoggableItem → Nat → Memory → List (Nat × uint8_t)
  | [], _, _ => []
  | item :: items, cursor, memory =>
    let (bytes, memory) := encode_item handler timebase caller item memory
    (List.range' cursor bytes.length).zip bytes ++
      item_writes handler timebase caller items (buffer_size (cursor + bytes.length)) memory

theorem encode_items_writes (handler : Config) (timebase : Timebase) (caller : Option LoopId)
    (items : List LoggableItem) (cursor : Nat) (buffer : ByteBuffer) (memory : Memory) :
    (encode_items handler timebase caller items cursor buffer memory).1 =
      buffer.write_each (item_writes handler timebase caller items cursor memory) := by
  induction items generalizing cursor buffer memory with
  | nil => rfl
  | cons item items ih =>
    rw [encode_items, item_writes, Buffer.write_each_append, Buffer.write_each_zip]
    exact ih _ _ _

theorem item_writes_eq (handler : Config) (timebase : Timebase) (caller : Option LoopId)
    (items : List LoggableItem) {cursor : Nat} {memory : Memory}
    (hend : cursor + (entry_bytes handler timebase caller items memory).1.length <
      2 ^ Platform.buffer_size_bits) :
    item_writes handler timebase caller items cursor memory =
      (List.range' cursor (entry_bytes handler timebase caller items memory).1.length).zip
        (entry_bytes handler timebase caller items memory).1 := by
  induction items generalizing cursor memory with
  | nil => rfl
  | cons item items ih =>
    simp only [item_writes, entry_bytes, List.length_append] at hend ⊢
    rw [buffer_size_of_lt (by omega), ih (by omega), ← List.range'_append_1,
      List.zip_append List.length_range']

/-- The writes of a call of `encode_next_entry`. -/
def slot_writes (self : RawFormatEncoder) (handler : Config) (config : Configuration)
    (sample : Sample) : List (Nat × uint8_t) :=
  if self.m_error then []
  else item_writes handler sample.timebase sample.caller config.item_list
    self.advance_first_valid.get_write_cursor sample.memory

theorem encode_next_entry_writes (self : RawFormatEncoder) (handler : Config)
    (config : Configuration) (sample : Sample) :
    (self.encode_next_entry handler config sample.timebase sample.caller
      sample.memory).1.content =
        self.content.write_each (self.slot_writes handler config sample) := by
  unfold encode_next_entry slot_writes
  split
  · rfl
  · have hcontent : self.advance_first_valid.content = self.content := by
      unfold advance_first_valid
      split <;> rfl
    rw [← hcontent, ← encode_items_writes]
    rfl

/-- An item that could be measured is valid, as the types of all RPVs are supported. -/
theorem Measurable.valid {handler : Config} {item : LoggableItem} (h : Measurable handler item)
    (hbool : codecs.encodable Platform.sizeof_bool)
    (hrpvs : ∀ rpv ∈ handler.get_rpvs_array, tools.is_supported_type rpv.type = true) :
    item.Valid handler := by
  obtain ⟨size, hsize, hpos⟩ := h
  unfold elem_size at hsize
  split_ifs at hsize with hmemory hrpv htime
  · rw [Option.some.injEq] at hsize
    exact .memory hmemory (hsize ▸ hpos)
  · cases hfound : MainHandler.get_rpv handler item.id with
    | none =>
      rw [hfound] at hsize
      cases hsize
    | some rpv =>
      have hmem := (MainHandler.get_rpv_some hfound).2
      have hencodable := tools.supported_encodable hbool (hrpvs rpv hmem)
      rw [← BitVec.udiv_one (x := tools.get_type_size_8bits rpv.type)] at hencodable
      exact .rpv hrpv hfound hencodable
  · exact .time htime
  · rw [Option.some.injEq] at hsize
    exact absurd hsize.symm hpos

/-- What an entry does to the ring: the bytes of its sample are written in its slot, each once
and in order, nothing else is written, and the indices go on to the next slot. -/
structure EncodesInSlot (handler : Config) (config : Configuration) (encoder : RawFormatEncoder) :
    Prop where
  next_lt : encoder.m_next_entry_write_index < encoder.m_max_entries
  first_lt : encoder.m_first_valid_entry_index < encoder.m_max_entries
  first_eq : encoder.m_full = true →
    encoder.m_first_valid_entry_index = encoder.m_next_entry_write_index
  slot_le : (encoder.m_next_entry_write_index + 1) * encoder.m_entry_size.toNat ≤
    encoder.m_buffer_size
  length : ∀ sample, (encoded handler config sample).length = encoder.m_entry_size.toNat
  writes : ∀ sample, encoder.slot_writes handler config sample =
    (List.range' (encoder.m_next_entry_write_index * encoder.m_entry_size.toNat)
      encoder.m_entry_size.toNat).zip (encoded handler config sample)
  written : ∀ sample : Sample, (encoder.encode_next_entry handler config sample.timebase
    sample.caller sample.memory).1.content =
      encoder.content.write_each (encoder.slot_writes handler config sample)
  content : ∀ sample : Sample, (encoder.encode_next_entry handler config sample.timebase
    sample.caller sample.memory).1.content = encoder.content.write
      (encoder.m_next_entry_write_index * encoder.m_entry_size.toNat)
      (encoded handler config sample)
  cursors : ∀ sample : Sample, ∃ m_buffer, (encoder.encode_next_entry handler config
    sample.timebase sample.caller sample.memory).1 = { encoder with
      m_buffer := m_buffer
      m_next_entry_write_index := encoder.next_index encoder.m_next_entry_write_index
      m_first_valid_entry_index :=
        if encoder.m_full then encoder.next_index encoder.m_next_entry_write_index else 0
      m_full := encoder.m_full ||
        decide (encoder.m_next_entry_write_index + 1 = encoder.m_max_entries)
      m_entry_write_counter := buffer_size (encoder.m_entry_write_counter + 1) }

theorem Logged.encodes_in_slot {handler : Config} {config : Configuration}
    {encoder : RawFormatEncoder} {max : Nat} {log : List (List uint8_t)}
    (h : Logged max (RawFormatEncoder.entry_size handler config) log encoder)
    (hitems : ∀ item ∈ config.item_list, item.Valid handler) :
    EncodesInSlot handler config encoder := by
  have hring := h.sound.ring h.no_error
  have hnext := hring.next_lt
  have hentry := Ring.index_mul_le hring.next_lt
  have hfits := hring.fits
  have hsize := h.sound.size_lt
  have hlength (sample : Sample) :
      (encoded handler config sample).length = encoder.m_entry_size.toNat :=
    (length_entry_bytes hitems _ _ _).trans h.entry_size.symm
  have hcursor : encoder.advance_first_valid.get_write_cursor =
      encoder.m_next_entry_write_index * encoder.m_entry_size.toNat := by
    rw [← hring.write_cursor hsize, advance_first_valid]
    split <;> rfl
  refine ⟨hnext, ?_, fun hfull => ?_, ?_, hlength, fun sample => ?_,
    encode_next_entry_writes encoder handler config, fun sample => ?_, fun sample => ?_⟩
  · rw [hring.first]
    split
    · exact hnext
    · exact hring.max_entries_pos
  · rw [hring.first, if_pos hfull]
  · rw [Nat.succ_mul]
    omega
  · have hbytes := hlength sample
    rw [encoded] at hbytes
    rw [slot_writes, if_neg (by simp [h.no_error]), hcursor,
      item_writes_eq _ _ _ _ (by omega), hbytes]
    rfl
  · exact encode_next_entry_content h.sound h.no_error (hlength sample)
  · exact encode_next_entry_cursors h.sound h.no_error handler config sample.timebase
      sample.caller sample.memory

theorem encode_all_buffer_size (self : RawFormatEncoder) (handler : Config)
    (config : Configuration) (samples : List Sample) :
    (self.encode_all handler config samples).m_buffer_size = self.m_buffer_size := by
  induction samples generalizing self with
  | nil => rfl
  | cons sample samples ih =>
    exact (ih _).trans (encode_next_entry_buffer_size self handler config _ _ _)

/-- After any number of entries, the next one is written in its slot. -/
theorem encode_stays_in_slot (hbool : codecs.encodable Platform.sizeof_bool)
    {encoder : RawFormatEncoder} {handler : Config} {config : Configuration}
    (hsize : encoder.m_buffer_size < 2 ^ Platform.buffer_size_bits)
    (hrpvs : ∀ rpv ∈ handler.get_rpvs_array, tools.is_supported_type rpv.type = true)
    (hreset : (encoder.reset handler config).m_error = false) (samples : List Sample) :
    let written := (encoder.reset handler config).encode_all handler config samples
    EncodesInSlot handler config written ∧
      written.m_entry_size = (encoder.reset handler config).m_entry_size ∧
      written.m_max_entries = (encoder.reset handler config).m_max_entries ∧
      written.m_buffer_size = encoder.m_buffer_size := by
  intro written
  obtain ⟨hbuffer, hfits⟩ := (reset_no_error_iff encoder handler config).mp hreset
  have hitems : ∀ item ∈ config.item_list, item.Valid handler :=
    fun item hmem => (hfits.measurable item hmem).valid hbool hrpvs
  have hstart := reset_logged hsize hbuffer hfits
  have hlogged := hstart.encode_all hitems samples
  refine ⟨hlogged.encodes_in_slot hitems, ?_, ?_, ?_⟩
  · exact BitVec.eq_of_toNat_eq (hlogged.entry_size.trans hstart.entry_size.symm)
  · exact hlogged.max_entries.trans hstart.max_entries.symm
  · exact (encode_all_buffer_size _ handler config samples).trans
      (reset_buffer_size encoder handler config)

end

section

attribute [local instance] host.platform

/-- The configuration of the tests with an RPV of two bytes. -/
def rpv_config : Config :=
  { host.config 256 [] host.none_forbidden with m_rpvs := some ⟨[⟨0x100, 0x11⟩], by decide⟩ }

/-- The time and an RPV. -/
def time_and_rpv : Configuration :=
  { time_and_byte with
    items_to_log := fun i => if i = 0 then ⟨LoggableType.Time, 0, 0, 0⟩
      else ⟨LoggableType.Rpv, 0, 0, 0x100⟩ }

/-- Three entries of six bytes in a buffer for two of them. -/
theorem encode_stays_in_slot_of_three :
    EncodesInSlot rpv_config time_and_rpv ((small_encoder.reset rpv_config time_and_rpv).encode_all
      rpv_config time_and_rpv three_samples) :=
  (encode_stays_in_slot (.inl rfl) (by decide) (by decide +kernel) (by decide +kernel)
    three_samples).1

end

end scrutiny.datalogging.RawFormatEncoder
