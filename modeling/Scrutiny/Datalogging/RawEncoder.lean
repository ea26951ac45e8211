import Scrutiny.Datalogging.Types
import Scrutiny.CommonCodecs

open foundation

namespace scrutiny.datalogging

structure RawFormatReader where
  m_read_cursor : Nat
  m_finished : Bool
  m_read_started : Bool
  deriving DecidableEq, Repr

/-- The quantities of type `buffer_size_t` are numbers below its bound. -/
structure RawFormatEncoder where
  m_buffer : Option ByteBuffer
  m_buffer_size : Nat
  m_reader : RawFormatReader
  m_timebase : Option LoopId
  m_max_entries : Nat
  m_next_entry_write_index : Nat
  m_first_valid_entry_index : Nat
  m_entry_write_counter : Nat
  m_entry_size : uint16_t
  m_full : Bool
  m_error : Bool

namespace RawFormatEncoder

variable [Platform]

/-- The content of the datalogging buffer. -/
def content (self : RawFormatEncoder) : ByteBuffer := self.m_buffer.getD fun _ => 0

def reset_write_counter (self : RawFormatEncoder) : RawFormatEncoder :=
  { self with m_entry_write_counter := 0 }

def set_timebase (self : RawFormatEncoder) (timebase : Option LoopId) : RawFormatEncoder :=
  { self with m_timebase := timebase }

def get_entry_write_counter (self : RawFormatEncoder) : Nat := self.m_entry_write_counter

def get_data_write_counter (self : RawFormatEncoder) : Nat :=
  buffer_size (self.m_entry_write_counter * self.m_entry_size.toNat)

def get_read_cursor (self : RawFormatEncoder) : Nat :=
  buffer_size (self.m_first_valid_entry_index * self.m_entry_size.toNat)

def get_write_cursor (self : RawFormatEncoder) : Nat :=
  buffer_size (self.m_next_entry_write_index * self.m_entry_size.toNat)

def error (self : RawFormatEncoder) : Bool := self.m_error

def get_entry_count (self : RawFormatEncoder) : Nat :=
  if self.m_full then self.m_max_entries else self.m_next_entry_write_index

def get_buffer_effective_size (self : RawFormatEncoder) : Nat :=
  buffer_size (self.m_entry_size.toNat * self.m_max_entries)

def buffer_full (self : RawFormatEncoder) : Bool := self.m_full

def remaining_bytes_to_full (self : RawFormatEncoder) : Nat :=
  if self.m_full then 0
  else buffer_size_sub self.get_buffer_effective_size self.get_write_cursor

/-- `RawFormatReader::reset`. -/
def reset_reader (self : RawFormatEncoder) : RawFormatEncoder :=
  { self with
    m_reader := {
      m_read_started := false
      m_finished := false
      m_read_cursor := self.get_read_cursor } }

/-- The size of an item in the buffer, or `none` when its RPV does not exist. -/
def elem_size (handler : Config) (item : LoggableItem) : Option uint8_t :=
  if item.type = LoggableType.Memory then some item.size
  else if item.type = LoggableType.Rpv then
    (MainHandler.get_rpv handler item.id).map fun rpv => tools.get_type_size_char rpv.type
  else if item.type = LoggableType.Time then some 4
  else some 0

/-- One turn of the loop of `reset` over the items. -/
def measure_item (handler : Config) (self : RawFormatEncoder) (item : LoggableItem) :
    RawFormatEncoder :=
  if self.m_error then self
  else
    match elem_size handler item with
    | none => { self with m_error := true }
    | some size =>
      if size = 0 then { self with m_error := true }
      else { self with m_entry_size := self.m_entry_size + size.setWidth 16 }

def reset (self : RawFormatEncoder) (handler : Config) (config : Configuration) :
    RawFormatEncoder :=
  let self := { self.reset_write_counter with
    m_error := self.m_buffer.isNone || self.m_buffer_size == 0
    m_next_entry_write_index := 0
    m_first_valid_entry_index := 0
    m_entry_size := 0
    m_full := false
    m_max_entries := 0 }
  let self := config.item_list.foldl (measure_item handler) self
  let self :=
    if self.m_entry_size > 0 then
      { self with m_max_entries := self.m_buffer_size / self.m_entry_size.toNat }
    else { self with m_error := true }
  let self := if self.m_max_entries = 0 then { self with m_error := true } else self
  self.reset_reader

def init (self : RawFormatEncoder) (handler : Config) (config : Configuration)
    (buffer : Option ByteBuffer) (buffer_size : Nat) : RawFormatEncoder :=
  { self with m_buffer := buffer, m_buffer_size := buffer_size }.reset handler config

/-- The bytes an item contributes to an entry. -/
def encode_item (handler : Config) (timebase : Timebase) (caller : Option LoopId)
    (item : LoggableItem) (memory : Memory) : List uint8_t × Memory :=
  if item.type = LoggableType.Memory then memory.copy_out item.address item.size.toNat
  else if item.type = LoggableType.Rpv then
    -- Found, as the configuration was validated.
    let rpv := (MainHandler.get_rpv handler item.id).getD ⟨item.id, VariableType.unknown⟩
    let ((success, outval), memory) := MainHandler.read_rpv handler rpv caller memory
    let outval := if success then outval else 0
    (codecs.encode_anytype_big_endian_char outval rpv.type, memory)
  else if item.type = LoggableType.Time then
    (codecs.encode_32_bits_big_endian_8bits timebase.get_timestamp, memory)
  else ([], memory)

/-- Writes the items in order from a cursor on. -/
def encode_items (handler : Config) (timebase : Timebase) (caller : Option LoopId) :
    List LoggableItem → Nat → ByteBuffer → Memory → ByteBuffer × Memory
  | [], _, buffer, memory => (buffer, memory)
  | item :: items, cursor, buffer, memory =>
    let (bytes, memory) := encode_item handler timebase caller item memory
    encode_items handler timebase caller items (buffer_size (cursor + bytes.length))
      (buffer.write cursor bytes) memory

/-- Drops the oldest entry when the next one is written over it. -/
def advance_first_valid (self : RawFormatEncoder) : RawFormatEncoder :=
  if self.m_next_entry_write_index = self.m_first_valid_entry_index ∧ self.m_full then
    let index := buffer_size (self.m_first_valid_entry_index + 1)
    { self with m_first_valid_entry_index := if index ≥ self.m_max_entries then 0 else index }
  else self

def encode_next_entry (self : RawFormatEncoder) (handler : Config) (config : Configuration)
    (timebase : Timebase) (caller : Option LoopId) (memory : Memory) :
    RawFormatEncoder × Memory :=
  if self.m_error then (self, memory)
  else
    let self := self.advance_first_valid
    let (buffer, memory) := encode_items handler timebase caller config.item_list
      self.get_write_cursor self.content memory
    let index := buffer_size (self.m_next_entry_write_index + 1)
    ({ self with
      m_buffer := some buffer
      m_next_entry_write_index := if index ≥ self.m_max_entries then 0 else index
      m_full := if index ≥ self.m_max_entries then true else self.m_full
      m_entry_write_counter := buffer_size (self.m_entry_write_counter + 1) }, memory)

end RawFormatEncoder

-- The reader is part of the encoder it reads, so its functions are given the encoder.
namespace RawFormatReader

variable [Platform]

def get_total_size_char (encoder : RawFormatEncoder) : Nat :=
  if encoder.error then 0
  else buffer_size (encoder.get_entry_count * encoder.m_entry_size.toNat)

/-- The loop of `read_dilate_8bits`, with the bytes already read. It turns twice at
most, since only the end of the buffer splits a transfer. -/
def read_loop (encoder : RawFormatEncoder) (write_cursor buffer_end max_size_8bits : Nat) :
    Nat → RawFormatReader → List uint8_t → RawFormatReader × List uint8_t
  | 0, self, output => (self, output)
  | fuel + 1, self, output =>
    if output.length < max_size_8bits then
      let new_max_8bits := max_size_8bits - output.length
      let right_hand_start_point :=
        if write_cursor > self.m_read_cursor then write_cursor else buffer_end
      let available := buffer_size_sub right_hand_start_point self.m_read_cursor
      let transfer_size_8bits := if available < new_max_8bits then available else new_max_8bits
      let output := output ++ encoder.content.slice self.m_read_cursor transfer_size_8bits
      let cursor := buffer_size (self.m_read_cursor + transfer_size_8bits)
      let cursor :=
        if cursor > write_cursor ∧ cursor ≥ buffer_end then buffer_size_sub cursor buffer_end
        else cursor
      let self := { self with m_read_cursor := cursor, m_read_started := true }
      if self.m_read_cursor = write_cursor then ({ self with m_finished := true }, output)
      else read_loop encoder write_cursor buffer_end max_size_8bits fuel self output
    else (self, output)

def read_dilate_8bits (encoder : RawFormatEncoder) (max_size_8bits : Nat) :
    RawFormatEncoder × List uint8_t :=
  if encoder.error then (encoder, [])
  else
    let self := encoder.m_reader
    let write_cursor := encoder.get_write_cursor
    let buffer_end := encoder.get_buffer_effective_size
    if self.m_read_cursor = write_cursor ∧ self.m_read_started then
      ({ encoder with m_reader := { self with m_finished := true } }, [])
    else
      let (self, output) :=
        read_loop encoder write_cursor buffer_end max_size_8bits (max_size_8bits + 1) self []
      ({ encoder with m_reader := self }, output)

end RawFormatReader

end scrutiny.datalogging
