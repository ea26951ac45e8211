import Scrutiny.Datalogging.Entries
import Scrutiny.Protocol.Wire

open foundation

namespace scrutiny.datalogging.RawFormatEncoder

variable [Platform]

/-- An item whose size is known when the encoder is reset. -/
def Measurable (handler : Config) (item : LoggableItem) : Prop :=
  ∃ size, elem_size handler item = some size ∧ size ≠ 0

/-- The bytes an item takes in an entry. -/
def item_size (handler : Config) (item : LoggableItem) : Nat :=
  ((elem_size handler item).getD 0).toNat

def entry_size (handler : Config) (config : Configuration) : Nat :=
  (config.item_list.map (item_size handler)).sum

theorem Measurable.item_size_pos {handler : Config} {item : LoggableItem}
    (h : Measurable handler item) : 0 < item_size handler item := by
  obtain ⟨size, hsize, hpos⟩ := h
  rw [item_size, hsize, Option.getD_some]
  bv_omega

/-- No list of items makes the 16 bits of the size of an entry overflow. -/
theorem entry_size_lt (handler : Config) (config : Configuration) :
    entry_size handler config < 2 ^ 16 := by
  have hitem : ∀ size ∈ config.item_list.map (item_size handler), size ≤ 255 := by
    intro size hsize
    obtain ⟨item, _, rfl⟩ := List.mem_map.mp hsize
    exact Nat.le_of_lt_succ (BitVec.isLt _)
  have hsum := List.sum_le_card_nsmul _ _ hitem
  have hcount := config.items_count.isLt
  rw [List.length_map, Configuration.item_list, List.length_map, List.length_range,
    smul_eq_mul] at hsum
  rw [entry_size]
  have hmost := Nat.mul_le_mul_right 255 (Nat.le_of_lt_succ hcount)
  exact Nat.lt_of_le_of_lt hsum (Nat.lt_of_le_of_lt hmost (by decide))

/-- The encoder once it has counted more bytes in an entry. -/
def count_bytes (self : RawFormatEncoder) (size : uint16_t) : RawFormatEncoder :=
  { self with m_entry_size := self.m_entry_size + size }

omit [Platform] in
theorem count_bytes_add (self : RawFormatEncoder) (first second : uint16_t) :
    (self.count_bytes first).count_bytes second = self.count_bytes (first + second) := by
  simp only [count_bytes, BitVec.add_assoc]

theorem measure_items_of_measurable {handler : Config} {items : List LoggableItem}
    (hitems : ∀ item ∈ items, Measurable handler item) {self : RawFormatEncoder}
    (herror : self.m_error = false) :
    items.foldl (measure_item handler) self =
      self.count_bytes (BitVec.ofNat 16 (items.map (item_size handler)).sum) := by
  induction items generalizing self with
  | nil => simp [count_bytes]
  | cons item items ih =>
    obtain ⟨size, hsize, hpos⟩ := hitems item List.mem_cons_self
    have hitem : BitVec.ofNat 16 (item_size handler item) = size.setWidth 16 := by
      rw [item_size, hsize, Option.getD_some, BitVec.ofNat_toNat]
    have hmeasured : measure_item handler self item =
        self.count_bytes (BitVec.ofNat 16 (item_size handler item)) := by
      rw [measure_item, if_neg (by simp [herror]), hsize, hitem]
      exact if_neg hpos
    have hcounted : (self.count_bytes
        (BitVec.ofNat 16 (item_size handler item))).m_error = false := herror
    have hrest := ih (fun i hi => hitems i (List.mem_cons_of_mem _ hi)) hcounted
    rw [List.foldl_cons, hmeasured, hrest, count_bytes_add, List.map_cons, List.sum_cons,
      BitVec.ofNat_add]

theorem measure_items_of_error (handler : Config) {items : List LoggableItem}
    {self : RawFormatEncoder} (herror : self.m_error = true) :
    items.foldl (measure_item handler) self = self := by
  induction items with
  | nil => rfl
  | cons item items ih =>
    have hmeasured : measure_item handler self item = self := by simp [measure_item, herror]
    rw [List.foldl_cons, hmeasured, ih]

/-- An item of unknown or zero size is found. -/
theorem measure_items_of_not_measurable {handler : Config} {items : List LoggableItem}
    {item : LoggableItem} (hitem : item ∈ items) (hnot : ¬ Measurable handler item)
    (self : RawFormatEncoder) : (items.foldl (measure_item handler) self).m_error = true := by
  induction items generalizing self with
  | nil => cases hitem
  | cons first items ih =>
    rw [List.foldl_cons]
    rcases List.mem_cons.mp hitem with rfl | hrest
    · have hfound : (measure_item handler self item).m_error = true := by
        unfold measure_item
        split
        · assumption
        · split
          · rfl
          · rename_i size hsize
            split
            · rfl
            · rename_i hpos
              exact absurd ⟨size, hsize, hpos⟩ hnot
      rw [measure_items_of_error handler hfound, hfound]
    · exact ih hrest _

/-- What the encoder needs of a configuration. -/
structure Fits (handler : Config) (config : Configuration) (m_buffer_size : Nat) : Prop where
  measurable : ∀ item ∈ config.item_list, Measurable handler item
  not_empty : config.item_list ≠ []
  entry_le : entry_size handler config ≤ m_buffer_size

theorem Fits.entry_size_pos {handler : Config} {config : Configuration} {m_buffer_size : Nat}
    (h : Fits handler config m_buffer_size) : 0 < entry_size handler config := by
  obtain ⟨item, items, hitems⟩ := List.exists_cons_of_ne_nil h.not_empty
  have hpos := (h.measurable item (by rw [hitems]; exact List.mem_cons_self)).item_size_pos
  rw [entry_size, hitems, List.map_cons, List.sum_cons]
  omega

/-- The encoder before its items are measured. -/
def emptied (self : RawFormatEncoder) : RawFormatEncoder :=
  { self.reset_write_counter with
    m_error := self.m_buffer.isNone || self.m_buffer_size == 0
    m_next_entry_write_index := 0
    m_first_valid_entry_index := 0
    m_entry_size := 0
    m_full := false
    m_max_entries := 0 }

/-- The last part of `reset`, before its reader is. -/
def divide_buffer (self : RawFormatEncoder) : RawFormatEncoder :=
  let self :=
    if self.m_entry_size > 0 then
      { self with m_max_entries := self.m_buffer_size / self.m_entry_size.toNat }
    else { self with m_error := true }
  if self.m_max_entries = 0 then { self with m_error := true } else self

theorem reset_eq (self : RawFormatEncoder) (handler : Config) (config : Configuration) :
    self.reset handler config =
      (config.item_list.foldl (measure_item handler) self.emptied).divide_buffer.reset_reader := rfl

omit [Platform] in
theorem divide_buffer_of_le (self : RawFormatEncoder) (hpos : 0 < self.m_entry_size.toNat)
    (hle : self.m_entry_size.toNat ≤ self.m_buffer_size) :
    self.divide_buffer =
      { self with m_max_entries := self.m_buffer_size / self.m_entry_size.toNat } := by
  have hentry : self.m_entry_size > 0 := by bv_omega
  have hmax : self.m_buffer_size / self.m_entry_size.toNat ≠ 0 := (Nat.div_pos hle hpos).ne'
  simp only [divide_buffer, if_pos hentry, if_neg hmax]

omit [Platform] in
/-- An entry that is empty or larger than the buffer is an error. -/
theorem divide_buffer_error {self : RawFormatEncoder} (hmax : self.m_max_entries = 0)
    (h : self.m_entry_size.toNat = 0 ∨ self.m_buffer_size < self.m_entry_size.toNat) :
    self.divide_buffer.m_error = true := by
  unfold divide_buffer
  by_cases hentry : self.m_entry_size > 0
  · have hlt : self.m_buffer_size < self.m_entry_size.toNat := by
      rcases h with hzero | hlt
      · bv_omega
      · exact hlt
    simp only [if_pos hentry, Nat.div_eq_of_lt hlt, if_true]
  · simp only [if_neg hentry]
    split <;> rfl

omit [Platform] in
theorem divide_buffer_of_error {self : RawFormatEncoder} (herror : self.m_error = true) :
    self.divide_buffer.m_error = true := by
  unfold divide_buffer
  by_cases hentry : self.m_entry_size > 0
  · simp only [if_pos hentry]
    split
    · rfl
    · exact herror
  · simp only [if_neg hentry]
    split <;> rfl

/-- What `reset` makes of an encoder, when its configuration fits in the buffer. -/
structure Emptied (handler : Config) (config : Configuration) (before after : RawFormatEncoder) :
    Prop where
  no_error : after.m_error = false
  entry_size : after.m_entry_size.toNat = entry_size handler config
  max_entries : after.m_max_entries = before.m_buffer_size / RawFormatEncoder.entry_size handler config
  next : after.m_next_entry_write_index = 0
  not_full : after.m_full = false

omit [Platform] in
theorem emptied_error {self : RawFormatEncoder} :
    self.emptied.m_error = false ↔ self.m_buffer.isSome = true ∧ self.m_buffer_size ≠ 0 := by
  cases hbuffer : self.m_buffer <;> simp [emptied, hbuffer]

/-- The encoder once the items of a configuration are measured. -/
def measured (self : RawFormatEncoder) (handler : Config) (config : Configuration) :
    RawFormatEncoder :=
  self.emptied.count_bytes (BitVec.ofNat 16 (entry_size handler config))

theorem measured_entry_size (self : RawFormatEncoder) (handler : Config) (config : Configuration) :
    (self.measured handler config).m_entry_size.toNat = entry_size handler config := by
  have hlt := entry_size_lt handler config
  have hzero : (0#16 + BitVec.ofNat 16 (entry_size handler config)).toNat =
      entry_size handler config := by
    rw [BitVec.zero_add, BitVec.toNat_ofNat, Nat.mod_eq_of_lt hlt]
  exact hzero

theorem reset_of_measurable {self : RawFormatEncoder} {handler : Config} {config : Configuration}
    (hbuffer : self.m_buffer.isSome = true) (hsize : self.m_buffer_size ≠ 0)
    (hitems : ∀ item ∈ config.item_list, Measurable handler item) :
    self.reset handler config = (self.measured handler config).divide_buffer.reset_reader := by
  rw [reset_eq, measure_items_of_measurable hitems (emptied_error.mpr ⟨hbuffer, hsize⟩)]
  rfl

theorem reset_of_fits {self : RawFormatEncoder} {handler : Config} {config : Configuration}
    (hbuffer : self.m_buffer.isSome = true) (hfits : Fits handler config self.m_buffer_size) :
    Emptied handler config self (self.reset handler config) := by
  have hpos := hfits.entry_size_pos
  have hle := hfits.entry_le
  have hsize : self.m_buffer_size ≠ 0 := by omega
  have hentry := self.measured_entry_size handler config
  have hdivided := divide_buffer_of_le (self.measured handler config) (by omega)
    (by rw [hentry]; exact hle)
  rw [reset_of_measurable hbuffer hsize hfits.measurable, hdivided, hentry]
  exact ⟨emptied_error.mpr ⟨hbuffer, hsize⟩, hentry, rfl, rfl, rfl⟩

/-- The encoder is without error just when its configuration fits in the buffer. -/
theorem reset_no_error_iff (self : RawFormatEncoder) (handler : Config) (config : Configuration) :
    (self.reset handler config).m_error = false ↔
      self.m_buffer.isSome = true ∧ Fits handler config self.m_buffer_size := by
  constructor
  · intro hreset
    have hstarted : self.emptied.m_error = false := by
      by_contra herror
      have hstopped := Bool.eq_true_of_not_eq_false herror
      rw [reset_eq, measure_items_of_error handler hstopped] at hreset
      exact Bool.noConfusion (hreset.symm.trans (divide_buffer_of_error hstopped))
    obtain ⟨hbuffer, hsize⟩ := emptied_error.mp hstarted
    have hitems : ∀ item ∈ config.item_list, Measurable handler item := by
      intro item hitem
      by_contra hnot
      have herror := measure_items_of_not_measurable hitem hnot self.emptied
      rw [reset_eq] at hreset
      exact Bool.noConfusion (hreset.symm.trans (divide_buffer_of_error herror))
    have hentry := self.measured_entry_size handler config
    rw [reset_of_measurable hbuffer hsize hitems] at hreset
    have hroom : ¬ (entry_size handler config = 0 ∨
        self.m_buffer_size < entry_size handler config) := by
      intro hnone
      rw [← hentry] at hnone
      exact Bool.noConfusion (hreset.symm.trans (divide_buffer_error rfl hnone))
    refine ⟨hbuffer, hitems, ?_, by omega⟩
    intro hnone
    exact hroom (.inl (by rw [entry_size, hnone]; rfl))
  · rintro ⟨hbuffer, hfits⟩
    exact (reset_of_fits hbuffer hfits).no_error

end scrutiny.datalogging.RawFormatEncoder
