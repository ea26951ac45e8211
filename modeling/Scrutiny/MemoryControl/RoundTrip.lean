import Scrutiny.Protocol.Wire
import Scrutiny.MainHandler.Process
import Scrutiny.Host

open foundation

namespace scrutiny

open protocol protocol.MemoryControl

section

variable [Platform]

/-- A supported type has a size that values are encoded in, when `bool` has one. -/
theorem tools.supported_encodable (hbool : codecs.encodable Platform.sizeof_bool)
    {vt : VariableType} (hsupported : tools.is_supported_type vt = true) :
    codecs.encodable (tools.get_type_size_8bits vt) := by
  by_cases hboolean : vt = VariableType.boolean
  · have hsize : tools.get_type_size_8bits vt = Platform.sizeof_bool := by
      rw [hboolean]
      rfl
    rw [hsize]
    exact hbool
  · have hexponent : ∀ exponent : BitVec 8, (BitVec.ofNat 8 (1 <<< (exponent &&& 0xF).toNat)) ≠ 0 →
        ¬BitVec.ofNat 8 (1 <<< (exponent &&& 0xF).toNat) > 8 →
          codecs.encodable (BitVec.ofNat 8 (1 <<< (exponent &&& 0xF).toNat)) := by
      decide
    unfold tools.is_supported_type at hsupported
    simp only [if_neg hboolean] at hsupported
    split at hsupported
    · cases hsupported
    · rename_i hzero
      split at hsupported
      · cases hsupported
      · rename_i hlarge
        unfold tools.get_type_size_8bits at hzero hlarge ⊢
        by_cases hunknown : vt = VariableType.unknown
        · simp only [if_pos hunknown] at hzero
          exact absurd trivial hzero
        · simp only [if_neg hboolean, if_neg hunknown] at hzero hlarge ⊢
          exact hexponent vt hzero hlarge

/-- A published value, and what it is in a memory request. -/
abbrev PublishedValue := RuntimePublishedValue × AnyType

namespace PublishedValue

def typesize (self : PublishedValue) : uint8_t := tools.get_type_size_8bits self.1.type

def encode (self : PublishedValue) : List uint8_t :=
  codecs.encode_16_bits_big_endian_8bits self.1.id ++
    codecs.encode_anytype_big_endian_8bits self.2 self.typesize

theorem length_encode {self : PublishedValue} (hsize : codecs.encodable self.typesize) :
    self.encode.length = 2 + self.typesize.toNat := by
  have hvalue : (codecs.encode_anytype_big_endian_8bits self.2 self.typesize).length =
      self.typesize.toNat := codecs.length_encode_anytype self.2 hsize
  rw [encode, List.length_append, codecs.length_encode_16_bits, hvalue]

end PublishedValue

/-- The union after a value of some size was put in it. -/
def AnyType.set (v : AnyType) (typesize : uint8_t) (value : AnyType) : AnyType :=
  if typesize = 1 then v.set_uint8 value.uint8
  else if typesize = 2 then v.set_uint16 value.uint16
  else if typesize = 4 then v.set_uint32 value.uint32
  else value

namespace protocol

namespace ReadRPVRequestParser

/-- The bytes of the request that are not read yet. -/
def rest (self : ReadRPVRequestParser) : List uint8_t :=
  self.m_buffer.slice self.m_bytes_read.toNat (self.m_request_len.toNat - self.m_bytes_read.toNat)

omit [Platform] in
/-- An identifier that is given is the first of what is left of the request. -/
theorem next_some {self after : ReadRPVRequestParser} {id : uint16_t}
    (hnext : self.next = (after, some id)) :
    self.rest = codecs.encode_16_bits_big_endian_8bits id ++ after.rest ∧
      (after.m_finished = true → after.rest = []) := by
  unfold next at hnext
  split at hnext
  · simp at hnext
  · split at hnext
    · simp at hnext
    · rename_i hroom
      simp only [Prod.mk.injEq, Option.some.injEq] at hnext
      obtain ⟨rfl, hid⟩ := hnext
      have hend : (self.m_bytes_read + 2).toNat = self.m_bytes_read.toNat + 2 := by bv_omega
      have hslice := (codecs.slice_eq_encode_16_iff _ id).mpr hid
      rw [Buffer.slice_shift, Nat.add_zero] at hslice
      refine ⟨?_, fun hlast => ?_⟩
      · have hsplit : self.m_request_len.toNat - self.m_bytes_read.toNat =
            2 + (self.m_request_len.toNat - (self.m_bytes_read.toNat + 2)) := by
          omega
        rw [rest, hsplit, Buffer.slice_add, hslice]
        simp only [rest, hend]
      · have hlast : self.m_bytes_read + 2 = self.m_request_len := of_decide_eq_true hlast
        simp only [rest]
        rw [hlast, Nat.sub_self]
        rfl

end ReadRPVRequestParser

namespace WriteRPVRequestParser

/-- The bytes of the request that are not read yet. -/
def rest (self : WriteRPVRequestParser) : List uint8_t :=
  self.m_buffer.slice self.m_bytes_read.toNat (self.m_request_len.toNat - self.m_bytes_read.toNat)

/-- The parser in the course of a request. -/
structure Open (parser : WriteRPVRequestParser) : Prop where
  not_finished : parser.m_finished = false
  valid : parser.m_invalid = false
  in_request : parser.m_bytes_read ≤ parser.m_request_len

end WriteRPVRequestParser

end protocol

namespace MainHandler

/-- The callback, called for some identifiers in turn, gives these values. -/
inductive Reads (m_config : Config) : List uint16_t → Memory → List PublishedValue → Prop
  | nil (memory : Memory) : Reads m_config [] memory []
  | cons {id : uint16_t} {rpv : RuntimePublishedValue} {v : AnyType} {memory after : Memory}
      {ids : List uint16_t} {values : List PublishedValue} (hfound : get_rpv m_config id = some rpv)
      (hread : read_rpv m_config rpv none memory = ((true, v), after))
      (hrest : Reads m_config ids after values) :
      Reads m_config (id :: ids) memory ((rpv, v) :: values)

theorem get_rpv_some {m_config : Config} {id : uint16_t} {rpv : RuntimePublishedValue}
    (hfound : get_rpv m_config id = some rpv) :
    rpv.id = id ∧ rpv ∈ m_config.get_rpvs_array := by
  unfold get_rpv at hfound
  have hid := List.find?_some hfound
  exact ⟨beq_iff_eq.mp hid, List.mem_of_find?_eq_some hfound⟩

/-- The memory after the write callback was called with some values. -/
def written (m_config : Config) (values : List PublishedValue) (memory : Memory) : Memory :=
  values.foldl (fun memory value => (write_rpv m_config value.1 value.2 none memory).2) memory

/-- Each of the calls, made in turn, is a success. -/
def Succeeds (m_config : Config) : List PublishedValue → Memory → Prop
  | [], _ => True
  | value :: values, memory =>
    (write_rpv m_config value.1 value.2 none memory).1 = true ∧
      Succeeds m_config values (write_rpv m_config value.1 value.2 none memory).2

/-- There is a callback where some call is a success. -/
theorem Succeeds.callback {m_config : Config} {value : PublishedValue}
    {values : List PublishedValue} {memory : Memory}
    (h : Succeeds m_config (value :: values) memory) : m_config.m_rpv_write_callback.isSome := by
  have hfirst := h.1
  rw [write_rpv] at hfirst
  cases hcallback : m_config.m_rpv_write_callback with
  | none =>
    rw [hcallback] at hfirst
    cases hfirst
  | some callback => rfl

end MainHandler

end

namespace MainHandler

attribute [local instance] host.platform

/-- A target with a number and a native boolean to publish. -/
def publishing : MainHandler :=
  { host.start.main with
    m_config := { host.config 256 [] host.none_forbidden with
      m_rpvs := some ⟨[⟨1, VariableType.uint16⟩, ⟨2, VariableType.boolean⟩], by decide⟩
      m_rpv_read_callback := some fun _ _ bytes => ((true, 0x1234), bytes)
      m_rpv_write_callback := some fun _ v _ bytes => (true, Function.update bytes 0 v.uint8) } }

/-- Both values, the first one twice. -/
def three_values : List uint8_t := [0, 1, 0x12, 0x34, 0, 2, 0x34, 0, 1, 0x12, 0x34]

end MainHandler

end scrutiny
