import Scrutiny.Datalogging.Layout
import Scrutiny.Datalogging.Reading
import Scrutiny.MemoryAccess
import Scrutiny.Host

open foundation

namespace scrutiny.datalogging

section

variable [Platform]

/-- An item that can be logged. An RPV has to exist, and its values to be of a size that
is encoded. -/
inductive LoggableItem.Valid (handler : Config) (item : LoggableItem) : Prop
  | memory (htype : item.type = LoggableType.Memory) (hsize : item.size ≠ 0)
  | rpv (htype : item.type = LoggableType.Rpv) {rpv : RuntimePublishedValue}
      (hfound : MainHandler.get_rpv handler item.id = some rpv)
      (hsize : codecs.encodable (tools.get_type_size_char rpv.type))
  | time (htype : item.type = LoggableType.Time)

namespace RawFormatEncoder

/-- A valid item takes as many bytes as were counted for it. -/
theorem length_encode_item {handler : Config} {item : LoggableItem} (h : item.Valid handler)
    (timebase : Timebase) (caller : Option LoopId) (memory : Memory) :
    Measurable handler item ∧
      (encode_item handler timebase caller item memory).1.length = item_size handler item := by
  have hrpv : LoggableType.Rpv ≠ LoggableType.Memory := by decide
  have htime : LoggableType.Time ≠ LoggableType.Memory ∧ LoggableType.Time ≠ LoggableType.Rpv := by
    decide
  cases h with
  | memory htype hsize =>
    have helem : elem_size handler item = some item.size := if_pos htype
    refine ⟨⟨item.size, helem, hsize⟩, ?_⟩
    rw [encode_item, if_pos htype, Memory.length_copy_out, item_size, helem, Option.getD_some]
  | @rpv htype rpv hfound hsize =>
    have helem : elem_size handler item = some (tools.get_type_size_char rpv.type) := by
      rw [elem_size, htype, if_neg hrpv, if_pos rfl, hfound, Option.map_some]
    refine ⟨⟨_, helem, ?_⟩, ?_⟩
    · rcases hsize with h | h | h | h <;> rw [h] <;> decide
    · rw [encode_item, htype, if_neg hrpv, if_pos rfl, hfound, item_size, helem, Option.getD_some]
      exact codecs.length_encode_anytype _ hsize
  | time htype =>
    have helem : elem_size handler item = some 4 := by
      rw [elem_size, htype, if_neg htime.1, if_neg htime.2, if_pos rfl]
    refine ⟨⟨4, helem, by decide⟩, ?_⟩
    rw [encode_item, htype, if_neg htime.1, if_neg htime.2, if_pos rfl, item_size, helem]
    rfl

theorem length_entry_bytes {handler : Config} {items : List LoggableItem}
    (hitems : ∀ item ∈ items, item.Valid handler) (timebase : Timebase) (caller : Option LoopId)
    (memory : Memory) :
    (entry_bytes handler timebase caller items memory).1.length =
      (items.map (item_size handler)).sum := by
  induction items generalizing memory with
  | nil => rfl
  | cons item items ih =>
    have hitem := (length_encode_item (hitems item List.mem_cons_self) timebase caller memory).2
    simp only [entry_bytes, List.length_append, List.map_cons, List.sum_cons]
    rw [hitem, ih fun i hi => hitems i (List.mem_cons_of_mem _ hi)]

/-- The time, the loop and the memory that an entry is made from. -/
structure Sample where
  timebase : Timebase
  caller : Option LoopId
  memory : Memory

/-- The bytes that a sample is encoded in. -/
def encoded (handler : Config) (config : Configuration) (sample : Sample) : List uint8_t :=
  (entry_bytes handler sample.timebase sample.caller config.item_list sample.memory).1

/-- Calls of `encode_next_entry`. The memory may change in any way between two of them. -/
def encode_all (self : RawFormatEncoder) (handler : Config) (config : Configuration)
    (samples : List Sample) : RawFormatEncoder :=
  samples.foldl (fun self sample =>
    (self.encode_next_entry handler config sample.timebase sample.caller sample.memory).1) self

/-- The last entries of a log, as many as there is room for. -/
def latest (max_entries : Nat) (log : List (List uint8_t)) : List (List uint8_t) :=
  log.drop (log.length - max_entries)

/-- The ring holds the latest entries of a log. -/
structure Logged (max size : Nat) (log : List (List uint8_t)) (encoder : RawFormatEncoder) :
    Prop where
  sound : encoder.Sound
  no_error : encoder.m_error = false
  max_entries : encoder.m_max_entries = max
  entry_size : encoder.m_entry_size.toNat = size
  entries : encoder.entries = latest max log
  full : encoder.m_full = decide (max ≤ log.length)

namespace Logged

variable {max size : Nat} {log : List (List uint8_t)} {encoder : RawFormatEncoder}

theorem entry_count (h : Logged max size log encoder) :
    encoder.get_entry_count = min log.length max := by
  have hlength : encoder.entries.length = encoder.get_entry_count := by
    simp [RawFormatEncoder.entries]
  rw [← hlength, h.entries, latest, List.length_drop]
  omega

/-- One more entry. -/
theorem encode_next_entry (h : Logged max size log encoder) {handler : Config}
    {config : Configuration} (sample : Sample)
    (hlength : (encoded handler config sample).length = size) :
    Logged max size (log ++ [encoded handler config sample])
      (encoder.encode_next_entry handler config sample.timebase sample.caller sample.memory).1 := by
  have hring := h.sound.ring h.no_error
  have hcount := h.entry_count
  have hentries := encode_next_entry_entries h.sound h.no_error
    (hlength.trans h.entry_size.symm)
  obtain ⟨m_buffer, hcursors⟩ := encode_next_entry_cursors h.sound h.no_error handler config
    sample.timebase sample.caller sample.memory
  refine ⟨h.sound.encode_next_entry _ _ _ _ _, ?_, ?_, ?_, ?_, ?_⟩
  · rw [hcursors]
    exact h.no_error
  · rw [hcursors]
    exact h.max_entries
  · rw [hcursors]
    exact h.entry_size
  · rw [hentries, h.entries, h.full]
    simp only [latest, List.length_append, List.length_singleton, decide_eq_true_eq]
    split
    · rename_i hfull
      have hsplit : log.length + 1 - max = log.length - max + 1 := by omega
      have hdrop : (log.drop (log.length - max) ++ [encoded handler config sample]) =
          (log ++ [encoded handler config sample]).drop (log.length - max) := by
        rw [List.drop_append_of_le_length (Nat.sub_le _ _)]
      rw [hsplit]
      change (_ ++ [encoded handler config sample]).drop 1 = _
      rw [hdrop, List.drop_drop]
    · rename_i hroom
      have hnone : log.length - max = 0 := by omega
      have hnone' : log.length + 1 - max = 0 := by omega
      rw [hnone, hnone', List.drop_zero, List.drop_zero, List.drop_zero]
      rfl
  · rw [hcursors]
    simp only [List.length_append, List.length_singleton]
    cases hfull : encoder.m_full with
    | true =>
      have hpast := of_decide_eq_true (h.full.symm.trans hfull)
      rw [Bool.true_or, decide_eq_true (by omega)]
    | false =>
      have hroom := of_decide_eq_false (h.full.symm.trans hfull)
      rw [get_entry_count, hfull, if_neg Bool.false_ne_true] at hcount
      rw [Bool.false_or, decide_eq_decide, hcount, h.max_entries]
      omega

theorem encode_all {handler : Config} {config : Configuration}
    (hitems : ∀ item ∈ config.item_list, item.Valid handler) (samples : List Sample) :
    ∀ {log : List (List uint8_t)} {encoder : RawFormatEncoder},
      Logged max (RawFormatEncoder.entry_size handler config) log encoder →
        Logged max (RawFormatEncoder.entry_size handler config)
          (log ++ samples.map (encoded handler config))
          (encoder.encode_all handler config samples) := by
  induction samples with
  | nil =>
    intro log encoder h
    rw [List.map_nil, List.append_nil]
    exact h
  | cons sample samples ih =>
    intro log encoder h
    have hnext := h.encode_next_entry sample (length_entry_bytes hitems _ _ _)
    rw [List.map_cons, List.append_cons]
    exact ih hnext

end Logged

/-- A valid list of items, in a buffer with room for one entry of them. -/
theorem fits_of_valid {handler : Config} {config : Configuration} {m_buffer_size : Nat}
    (hitems : ∀ item ∈ config.item_list, item.Valid handler) (hlist : config.item_list ≠ [])
    (hroom : 1 ≤ m_buffer_size / entry_size handler config) :
    Fits handler config m_buffer_size where
  measurable item hitem :=
    (length_encode_item (hitems item hitem) ⟨0⟩ none ⟨fun _ => 0, []⟩).1
  not_empty := hlist
  entry_le := by
    by_contra hlarge
    rw [Nat.div_eq_of_lt (Nat.lt_of_not_le hlarge)] at hroom
    omega

theorem reset_logged {self : RawFormatEncoder} {handler : Config} {config : Configuration}
    (hsize : self.m_buffer_size < 2 ^ Platform.buffer_size_bits)
    (hbuffer : self.m_buffer.isSome = true) (hfits : Fits handler config self.m_buffer_size) :
    Logged (self.m_buffer_size / entry_size handler config) (entry_size handler config) []
      (self.reset handler config) := by
  have hreset := reset_of_fits hbuffer hfits
  have hpos := Nat.div_pos hfits.entry_le hfits.entry_size_pos
  refine ⟨reset_sound hsize handler config, hreset.no_error, hreset.max_entries,
    hreset.entry_size, ?_, ?_⟩
  · rw [entries, get_entry_count, hreset.not_full, hreset.next, if_neg Bool.false_ne_true]
    simp [latest]
  · rw [hreset.not_full, List.length_nil, decide_eq_false (by omega)]

end RawFormatEncoder

namespace RawFormatReader

open RawFormatEncoder

def get_total_size_8bits (encoder : RawFormatEncoder) : Nat :=
  buffer_size (get_total_size_char encoder * 1)

/-- Calls of `read_dilate_8bits` with room for some bytes each, and all they read. -/
def read_all (encoder : RawFormatEncoder) : List Nat → RawFormatEncoder × List uint8_t
  | [] => (encoder, [])
  | max_size_8bits :: sizes =>
    let (encoder, bytes) := read_dilate_8bits encoder max_size_8bits
    let (encoder, rest) := read_all encoder sizes
    (encoder, bytes ++ rest)

theorem read_all_reads {self : RawFormatEncoder} (h : self.Holds) {sizes : List Nat}
    (hsizes : ∀ max_size_8bits ∈ sizes, 0 < max_size_8bits) {position : Nat}
    (hposition : position ≤ self.stored.length) :
    read_all (self.set_reader (self.reader_at position)) sizes =
      (self.set_reader (self.reader_at (min (position + sizes.sum) self.stored.length)),
        (self.stored.drop position).take sizes.sum) := by
  induction sizes generalizing position with
  | nil =>
    rw [List.sum_nil, Nat.add_zero, Nat.min_eq_left hposition, List.take_zero]
    rfl
  | cons max_size_8bits sizes ih =>
    have hfirst := read_dilate_8bits_reads h hposition (hsizes _ List.mem_cons_self)
    have hrest := ih (fun size hsize => hsizes size (List.mem_cons_of_mem _ hsize))
      (Nat.min_le_right (position + max_size_8bits) self.stored.length)
    have hend : min (min (position + max_size_8bits) self.stored.length + sizes.sum)
        self.stored.length = min (position + (max_size_8bits + sizes.sum)) self.stored.length := by
      omega
    have hdrop : self.stored.drop (min (position + max_size_8bits) self.stored.length) =
        (self.stored.drop position).drop max_size_8bits := by
      rw [List.drop_drop]
      rcases Nat.le_total (position + max_size_8bits) self.stored.length with hle | hge
      · rw [Nat.min_eq_left hle]
      · rw [Nat.min_eq_right hge, List.drop_length, List.drop_eq_nil_of_le hge]
    simp only [read_all, hfirst, hrest, hend, hdrop, List.sum_cons, List.take_add]

/-- Once everything is read there is nothing more. -/
theorem read_dilate_8bits_end {self : RawFormatEncoder} (h : self.Holds) (max_size_8bits : Nat) :
    read_dilate_8bits (self.set_reader (self.reader_at self.stored.length)) max_size_8bits =
      (self.set_reader (self.reader_at self.stored.length), []) := by
  have hend := (reader_at_end h h.stored_pos (Nat.le_refl _)).mpr rfl
  have hstarted : (self.reader_at self.stored.length).m_read_started = true :=
    decide_eq_true h.stored_pos
  have hfinished : (self.reader_at self.stored.length).m_finished = true := decide_eq_true rfl
  rw [read_dilate_8bits, if_neg (by simp [error, set_reader, h.no_error])]
  refine (if_pos ⟨hend, hstarted⟩).trans ?_
  simp [set_reader, reader_at]

/-- After a reset and some entries, the buffer holds the latest of them, as many as it has
room for, and they are read back from the oldest to the newest, however the reading is cut. -/
theorem read_back (encoder : RawFormatEncoder) (handler : Config) (config : Configuration)
    (hsize : encoder.m_buffer_size < 2 ^ Platform.buffer_size_bits)
    (hbuffer : encoder.m_buffer.isSome = true)
    (hitems : ∀ item ∈ config.item_list, item.Valid handler) (hlist : config.item_list ≠ [])
    (hroom : 1 ≤ encoder.m_buffer_size / entry_size handler config) (samples : List Sample)
    (hsamples : samples ≠ []) :
    let max := encoder.m_buffer_size / entry_size handler config
    let written := (encoder.reset handler config).encode_all handler config samples
    let data := (latest max (samples.map (encoded handler config))).flatten
    written.get_entry_count = min samples.length max ∧
      get_total_size_8bits written = data.length ∧
      ∀ sizes : List Nat, (∀ max_size_8bits ∈ sizes, 0 < max_size_8bits) →
        let reading := read_all written.reset_reader sizes
        reading.2 = data.take sizes.sum ∧
          (reading.1.m_reader.m_finished = true ↔ data.length ≤ sizes.sum) ∧
          (reading.1.m_reader.m_finished = true → reading.2 = data ∧
            ∀ max_size_8bits, read_dilate_8bits reading.1 max_size_8bits = (reading.1, [])) := by
  intro max written data
  have hlogged : Logged max (entry_size handler config) (samples.map (encoded handler config))
      written := by
    have hfits := fits_of_valid hitems hlist hroom
    exact (reset_logged hsize hbuffer hfits).encode_all hitems samples
  have hcount := hlogged.entry_count
  rw [List.length_map] at hcount
  have hholds : written.Holds := by
    refine ⟨hlogged.sound, hlogged.no_error, ?_⟩
    have hpos := List.length_pos_iff.mpr hsamples
    rw [hcount]
    exact Nat.lt_min.mpr ⟨hpos, hroom⟩
  have hdata : written.stored = data := by rw [stored, hlogged.entries]
  have htotal : get_total_size_8bits written = data.length := by
    have hle := hholds.stored_le
    have hfits := hholds.ring.fits
    have hlt := hholds.sound.size_lt
    rw [get_total_size_8bits, hholds.total_size, Nat.mul_one, ← hdata]
    exact buffer_size_of_lt (by omega)
  refine ⟨hcount, htotal, fun sizes hsizes => ?_⟩
  have hread := read_all_reads hholds hsizes (Nat.zero_le _)
  intro reading
  have hreading : reading = (written.set_reader (written.reader_at (min sizes.sum data.length)),
      data.take sizes.sum) := by
    rw [← hdata]
    change read_all written.reset_reader sizes = _
    rw [reset_reader_eq hholds, hread, Nat.zero_add, List.drop_zero]
  rw [hreading]
  have hfinished : (written.reader_at (min sizes.sum data.length)).m_finished = true ↔
      data.length ≤ sizes.sum := by
    rw [reader_at, hdata, decide_eq_true_eq]
    omega
  refine ⟨rfl, hfinished, fun hend => ?_⟩
  have hall := hfinished.mp hend
  rw [Nat.min_eq_right hall, List.take_of_length_le hall, ← hdata]
  exact ⟨rfl, read_dilate_8bits_end hholds⟩

end RawFormatReader

end

section

attribute [local instance] host.platform

/-- The configuration of the tests: the time, a byte of memory and nothing else. -/
def time_and_byte : Configuration :=
  { host.datalogger.m_config with
    items_to_log := fun i => if i = 0 then ⟨LoggableType.Time, 0, 0, 0⟩
      else ⟨LoggableType.Memory, 0x1000, 1, 0⟩
    items_count := 2 }

def small_encoder : RawFormatEncoder :=
  { host.datalogger.m_encoder with
    m_buffer := some fun _ => 0
    m_buffer_size := 12 }

def three_samples : List RawFormatEncoder.Sample :=
  [⟨⟨1⟩, none, ⟨fun _ => 7, []⟩⟩, ⟨⟨2⟩, none, ⟨fun _ => 8, []⟩⟩, ⟨⟨3⟩, none, ⟨fun _ => 9, []⟩⟩]

def three_entries : RawFormatEncoder :=
  (small_encoder.reset (host.config 256 [] host.none_forbidden) time_and_byte).encode_all
    (host.config 256 [] host.none_forbidden) time_and_byte three_samples

/-- Three entries of five bytes in a buffer for two of them. -/
theorem read_back_of_three :
    three_entries.get_entry_count = 2 ∧
      (RawFormatReader.read_all three_entries.reset_reader [4, 3, 9]).2 =
        [0, 0, 0, 2, 8, 0, 0, 0, 3, 9] := by
  have hitems : ∀ item ∈ time_and_byte.item_list, item.Valid (host.config 256 [] (by decide)) := by
    intro item hitem
    have hcases : item = ⟨LoggableType.Time, 0, 0, 0⟩ ∨
        item = ⟨LoggableType.Memory, 0x1000, 1, 0⟩ := by
      simpa [Configuration.item_list, time_and_byte, List.range_succ] using hitem
    rcases hcases with rfl | rfl
    · exact .time rfl
    · exact .memory rfl (by decide)
  obtain ⟨hcount, _, hread⟩ := RawFormatReader.read_back small_encoder
    (host.config 256 [] (by decide)) time_and_byte (by decide) rfl hitems (by decide +kernel)
    (by decide +kernel) three_samples (by simp [three_samples])
  refine ⟨hcount.trans (by decide +kernel), ?_⟩
  exact (hread [4, 3, 9] (by decide)).1.trans (by decide +kernel)

end

end scrutiny.datalogging
