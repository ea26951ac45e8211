import Scrutiny.MemoryControl.Header
import Scrutiny.MemoryControl.Regions
import Scrutiny.MemoryControl.Acknowledgement

open foundation

namespace scrutiny

open protocol protocol.MemoryControl

section

variable [Platform]

namespace protocol

/-- The size of a response with some blocks. -/
def total_size (headers : List BlockHeader) : Nat := (headers.map BlockHeader.size).sum

/-- The block that a header starts, as it is given by the parser of a read request. -/
def BlockHeader.block (self : BlockHeader) (buffer : ByteBuffer) : MemoryBlock8Bits where
  start_address := self.start_address
  length := self.length
  source_data := buffer
  mask := none

@[simp] theorem total_size_cons (header : BlockHeader) (headers : List BlockHeader) :
    total_size (header :: headers) = header.size + total_size headers := by
  simp [total_size]

theorem total_size_dropLast_le (headers : List BlockHeader) :
    total_size headers.dropLast ≤ total_size headers :=
  ((List.dropLast_sublist headers).map BlockHeader.size).sum_le_sum fun _ _ => Nat.zero_le _

theorem size_le_total_size {header : BlockHeader} {headers : List BlockHeader}
    (hheader : header ∈ headers) : header.size ≤ total_size headers :=
  List.single_le_sum (fun _ _ => Nat.zero_le _) _ (List.mem_map_of_mem hheader)

namespace ReadMemoryBlocksRequestParser

/-- The bytes of the request that are not read yet. -/
def rest (self : ReadMemoryBlocksRequestParser) : List uint8_t :=
  self.m_buffer.slice self.m_bytes_read.toNat
    (self.m_request_datasize.toNat - self.m_bytes_read.toNat)

/-- The header that comes next. -/
def header (self : ReadMemoryBlocksRequestParser) : BlockHeader :=
  header_at self.m_buffer self.m_bytes_read.toNat

/-- The size allowed to a block. -/
def room (self : ReadMemoryBlocksRequestParser) : Nat :=
  (MAXIMUM_TX_BUFFER_SIZE - self.m_required_tx_buffer_size).toNat

/-- The parser after a header. -/
def advanced (self : ReadMemoryBlocksRequestParser) : ReadMemoryBlocksRequestParser :=
  { self with
    m_bytes_read := self.length_position + 2
    m_finished := decide (self.length_position + 2 = self.m_request_datasize) }

/-- The parser at a header of the request, or at its start. -/
structure Open (parser : ReadMemoryBlocksRequestParser) : Prop where
  not_finished : parser.m_finished = false
  valid : parser.m_invalid = false
  in_request : parser.m_bytes_read ≤ parser.m_request_datasize

omit [Platform] in
theorem length_rest (self : ReadMemoryBlocksRequestParser) :
    self.rest.length = self.m_request_datasize.toNat - self.m_bytes_read.toNat :=
  Buffer.length_slice _ _ _

theorem next_refused {self : ReadMemoryBlocksRequestParser} (hopen : Open self)
    (hrefused : self.rest.length < block_header_size ∨ self.room < self.header.size) :
    ∃ after, self.next = (after, none) ∧ after.m_invalid = true := by
  have hin := hopen.in_request
  have hremaining : (self.m_request_datasize - self.m_bytes_read).toNat = self.rest.length := by
    rw [length_rest]
    bv_omega
  unfold next
  rw [hopen.not_finished, hopen.valid, hremaining]
  simp only [Bool.or_self, Bool.false_eq_true, if_false]
  split
  · exact ⟨_, rfl, rfl⟩
  · rename_i hroom
    have hlong : block_header_size + self.next_length.toNat >
        (MAXIMUM_TX_BUFFER_SIZE - self.m_required_tx_buffer_size).toNat := by
      have hposition : self.length_position.toNat =
          self.m_bytes_read.toNat + Platform.addr_size := by
        have haddr := addr_size_le
        rw [length_rest, block_header_size] at hroom
        unfold length_position
        bv_omega
      rw [next_length, hposition]
      exact hrefused.resolve_left hroom
    rw [if_pos hlong]
    exact ⟨_, rfl, rfl⟩

/-- A header that is there and allowed is read. -/
theorem next_accepted {self : ReadMemoryBlocksRequestParser} (hopen : Open self)
    (hthere : block_header_size ≤ self.rest.length) (hallowed : self.header.size ≤ self.room) :
    self.next = (self.advanced, some (self.header.block self.m_buffer)) ∧
      self.rest = self.header.encode ++ self.advanced.rest ∧
      self.advanced.m_bytes_read ≤ self.advanced.m_request_datasize ∧
      (self.advanced.m_finished = true ↔ self.advanced.rest = []) := by
  have hin := hopen.in_request
  have haddr := addr_size_le
  have hremaining : (self.m_request_datasize - self.m_bytes_read).toNat = self.rest.length := by
    rw [length_rest]
    bv_omega
  have hthere' := hthere
  rw [length_rest, block_header_size] at hthere'
  have hposition : self.length_position.toNat = self.m_bytes_read.toNat + Platform.addr_size := by
    unfold length_position
    bv_omega
  have hend : (self.length_position + 2).toNat = self.m_bytes_read.toNat + block_header_size := by
    rw [block_header_size]
    bv_omega
  refine ⟨?_, ?_, ?_, ?_⟩
  · have hlength : self.next_length = self.header.length := by
      rw [next_length, hposition]
      rfl
    have hclosed : ¬(self.m_finished || self.m_invalid) = true := by
      rw [hopen.not_finished, hopen.valid]
      exact Bool.false_ne_true
    have hshort : ¬block_header_size + self.header.length.toNat >
        (MAXIMUM_TX_BUFFER_SIZE - self.m_required_tx_buffer_size).toNat := Nat.not_lt.mpr hallowed
    rw [ReadMemoryBlocksRequestParser.next, hremaining, hlength, if_neg hclosed,
      if_neg (Nat.not_lt.mpr hthere), if_neg hshort]
    rfl
  · have hsplit : self.m_request_datasize.toNat - self.m_bytes_read.toNat = block_header_size +
        (self.m_request_datasize.toNat - (self.m_bytes_read.toNat + block_header_size)) := by
      rw [block_header_size]
      omega
    rw [rest, hsplit, Buffer.slice_add, BlockHeader.slice_header]
    simp only [rest, advanced, hend]
    rfl
  · change (self.length_position + 2).toNat ≤ self.m_request_datasize.toNat
    rw [hend, block_header_size]
    omega
  · have hfinished : self.length_position + 2 = self.m_request_datasize ↔
        self.m_bytes_read.toNat + block_header_size = self.m_request_datasize.toNat := by
      rw [← BitVec.toNat_inj, hend]
    rw [← List.length_eq_zero_iff, length_rest]
    simp only [advanced, decide_eq_true_eq, hfinished, hend]
    rw [block_header_size]
    omega

/-- The parser comes to some headers, and the request ends with the last. -/
structure Holds (parser : ReadMemoryBlocksRequestParser) (headers : List BlockHeader) : Prop
    extends Open parser where
  rest_eq : parser.rest = headers.flatMap BlockHeader.encode

theorem Holds.header_eq {self : ReadMemoryBlocksRequestParser} {header : BlockHeader}
    {headers : List BlockHeader} (h : Holds self (header :: headers)) :
    self.header = header ∧ block_header_size ≤ self.rest.length := by
  have hrest := h.rest_eq
  rw [List.flatMap_cons] at hrest
  refine ⟨BlockHeader.header_at_of_slice hrest, ?_⟩
  rw [hrest, List.length_append, BlockHeader.length_encode]
  omega

/-- One turn of a loop over the headers. -/
theorem Holds.next {self : ReadMemoryBlocksRequestParser} {header : BlockHeader}
    {headers : List BlockHeader} (h : Holds self (header :: headers))
    (hallowed : header.size ≤ self.room) :
    self.next = (self.advanced, some (header.block self.m_buffer)) ∧
      (headers = [] ∧ self.advanced.m_finished = true ∧
          self.advanced.m_bytes_read = self.m_request_datasize ∨
        headers ≠ [] ∧ Holds self.advanced headers) := by
  obtain ⟨hheader, hthere⟩ := h.header_eq
  rw [← hheader] at hallowed
  obtain ⟨hnext, hrest, hin, hfinished⟩ := next_accepted h.toOpen hthere hallowed
  rw [hheader] at hnext hrest
  have hafter : self.advanced.rest = headers.flatMap BlockHeader.encode := by
    rw [h.rest_eq, List.flatMap_cons] at hrest
    exact (List.append_cancel_left hrest).symm
  refine ⟨hnext, ?_⟩
  cases headers with
  | nil =>
    have hend : self.advanced.m_finished = true := hfinished.mpr hafter
    exact .inl ⟨rfl, hend, of_decide_eq_true hend⟩
  | cons second headers =>
    refine .inr ⟨List.cons_ne_nil _ _, ⟨⟨?_, h.valid, hin⟩, hafter⟩⟩
    rw [Bool.eq_false_iff, ne_eq, hfinished, hafter, List.flatMap_cons]
    intro hempty
    have hlength := congrArg List.length hempty
    have hheader := block_header_size_bounds.1
    simp only [List.length_append, BlockHeader.length_encode, List.length_nil] at hlength
    omega

theorem Holds.set_required {self : ReadMemoryBlocksRequestParser} {headers : List BlockHeader}
    (h : Holds self headers) (required : uint16_t) : Holds (self.set_required required) headers :=
  ⟨⟨h.not_finished, h.valid, h.in_request⟩, h.rest_eq⟩

/-- The traversal of headers whose blocks fit counts all of them but the last. -/
theorem traverse_of_holds {self : ReadMemoryBlocksRequestParser} {headers : List BlockHeader}
    (h : Holds self headers) (hheaders : headers ≠ [])
    (hfits : self.m_required_tx_buffer_size.toNat + total_size headers ≤
      MAXIMUM_TX_BUFFER_SIZE.toNat) {fuel : Nat} (hfuel : headers.length ≤ fuel) :
    traverse fuel self = { self with
      m_bytes_read := self.m_request_datasize
      m_required_tx_buffer_size := self.m_required_tx_buffer_size +
        BitVec.ofNat 16 (total_size headers.dropLast)
      m_finished := true } := by
  induction headers generalizing self fuel with
  | nil => exact absurd rfl hheaders
  | cons header headers ih =>
    obtain ⟨fuel, rfl⟩ : ∃ n, fuel = n + 1 := ⟨fuel - 1, by simp at hfuel; omega⟩
    rw [total_size_cons] at hfits
    have hallowed : header.size ≤ self.room := by
      rw [room]
      bv_omega
    obtain ⟨hnext, hafter⟩ := h.next hallowed
    have hvalid : self.advanced.m_invalid = false := h.valid
    rcases hafter with ⟨rfl, hfinished, hend⟩ | ⟨hmore, hholds⟩
    · have hlast : traverse (fuel + 1) self = self.advanced := by
        simp only [traverse, hnext, hfinished, Bool.or_true, if_true]
      have hnothing : total_size [header].dropLast = 0 := rfl
      rw [hlast, hnothing, BitVec.add_zero]
      simp only [advanced] at hfinished hend ⊢
      rw [hfinished, hend]
    · have hcounted : self.m_required_tx_buffer_size + BitVec.ofNat 16 header.size =
          self.m_required_tx_buffer_size + BitVec.ofNat 16 header.size := rfl
      have hless := MAXIMUM_TX_BUFFER_SIZE.isLt
      have hrequired : (self.m_required_tx_buffer_size + BitVec.ofNat 16 header.size).toNat =
          self.m_required_tx_buffer_size.toNat + header.size := by
        bv_omega
      have hmore' : traverse (fuel + 1) self = traverse fuel (self.advanced.set_required
          (self.m_required_tx_buffer_size + BitVec.ofNat 16 header.size)) := by
        simp only [traverse, hnext, hholds.not_finished, hvalid, Bool.or_false,
          Bool.false_eq_true, if_false]
        rfl
      have hrest := ih (hholds.set_required (self.m_required_tx_buffer_size +
        BitVec.ofNat 16 header.size)) hmore (by
          change (self.m_required_tx_buffer_size + BitVec.ofNat 16 header.size).toNat + _ ≤ _
          rw [hrequired]
          omega) (by simpa using hfuel)
      rw [hmore', hrest, List.dropLast_cons_of_ne_nil hmore, total_size_cons, BitVec.ofNat_add,
        ← BitVec.add_assoc]
      rfl

/-- A traversal that finds no error has gone through headers. -/
theorem holds_of_traverse {self : ReadMemoryBlocksRequestParser} (hopen : Open self) {fuel : Nat}
    (hfuel : self.rest.length < fuel) (hvalid : (traverse fuel self).m_invalid = false) :
    ∃ headers, headers ≠ [] ∧ Holds self headers := by
  induction fuel generalizing self with
  | zero => omega
  | succ fuel ih =>
    by_cases hrefused : self.rest.length < block_header_size ∨ self.room < self.header.size
    · obtain ⟨after, hnext, hinvalid⟩ := next_refused hopen hrefused
      rw [traverse, hnext] at hvalid
      rw [hinvalid] at hvalid
      cases hvalid
    · obtain ⟨hthere, hallowed⟩ := not_or.mp hrefused
      obtain ⟨hnext, hrest, hin, hfinished⟩ :=
        next_accepted hopen (Nat.not_lt.mp hthere) (Nat.not_lt.mp hallowed)
      cases hlast : self.advanced.m_finished with
      | true =>
        refine ⟨[self.header], List.cons_ne_nil _ _, hopen, ?_⟩
        rw [hrest, hfinished.mp hlast]
        simp
      | false =>
        have hvalid' : self.advanced.m_invalid = false := hopen.valid
        simp only [traverse, hnext, hlast, hvalid', Bool.or_false, Bool.false_eq_true,
          if_false] at hvalid
        have hopen' (required : uint16_t) : Open (self.advanced.set_required required) :=
          ⟨hlast, hvalid', hin⟩
        have hshorter : self.advanced.rest.length < fuel := by
          have hheader := block_header_size_bounds.1
          rw [hrest, List.length_append, BlockHeader.length_encode] at hfuel
          omega
        obtain ⟨headers, _, hholds⟩ := ih (hopen' (self.advanced.m_required_tx_buffer_size +
          BitVec.ofNat 16 self.header.size)) hshorter hvalid
        refine ⟨self.header :: headers, List.cons_ne_nil _ _, hopen, ?_⟩
        rw [hrest, List.flatMap_cons]
        exact congrArg (self.header.encode ++ ·) hholds.rest_eq

/-- The parser of a request before the traversal. -/
def start (request : Request) : ReadMemoryBlocksRequestParser where
  m_buffer := request.data
  m_bytes_read := 0
  m_request_datasize := request.data_length
  m_required_tx_buffer_size := 0
  m_finished := false
  m_invalid := false

omit [Platform] in
theorem start_open (request : Request) : Open (start request) := ⟨rfl, rfl, Nat.zero_le _⟩

omit [Platform] in
theorem start_rest (request : Request) : (start request).rest = request.payload := rfl

theorem length_le_payload (headers : List BlockHeader) :
    headers.length ≤ (headers.flatMap BlockHeader.encode).length := by
  have hheader := block_header_size_bounds.1
  induction headers with
  | nil => exact Nat.le_refl 0
  | cons header headers ih =>
    simp only [List.flatMap_cons, List.length_append, List.length_cons, BlockHeader.length_encode]
    omega

/-- The parser of a request whose blocks fit starts over with them, and with the size of all
of them but the last. -/
theorem init_of_headers {request : Request} {headers : List BlockHeader}
    (hpayload : request.payload = headers.flatMap BlockHeader.encode) (hheaders : headers ≠ [])
    (hfits : total_size headers ≤ MAXIMUM_TX_BUFFER_SIZE.toNat) :
    Holds (init request) headers ∧
      (init request).m_required_tx_buffer_size.toNat = total_size headers.dropLast := by
  have hholds : Holds (start request) headers := ⟨start_open request, hpayload⟩
  have hlength : headers.length ≤ request.data_length.toNat + 1 := by
    have hle := length_le_payload headers
    rw [← hpayload, Request.payload, Buffer.length_slice] at hle
    omega
  have hzero : (start request).m_required_tx_buffer_size.toNat + total_size headers ≤
      MAXIMUM_TX_BUFFER_SIZE.toNat := by
    change 0 + total_size headers ≤ _
    omega
  have htraverse := traverse_of_holds hholds hheaders hzero hlength
  have hinit : init request = (start request).set_required
      ((start request).m_required_tx_buffer_size + BitVec.ofNat 16 (total_size headers.dropLast)) := by
    change { traverse (request.data_length.toNat + 1) (start request) with
      m_bytes_read := 0, m_finished := false } = _
    rw [htraverse]
    rfl
  rw [hinit]
  refine ⟨hholds.set_required _, ?_⟩
  have hless := total_size_dropLast_le headers
  have hlimit := MAXIMUM_TX_BUFFER_SIZE.isLt
  change (0#16 + BitVec.ofNat 16 (total_size headers.dropLast)).toNat = _
  rw [BitVec.zero_add, BitVec.toNat_ofNat, Nat.mod_eq_of_lt (by omega)]

/-- A request found valid is made of headers. -/
theorem headers_of_init {request : Request} (hvalid : (init request).m_invalid = false) :
    ∃ headers, headers ≠ [] ∧ request.payload = headers.flatMap BlockHeader.encode := by
  have hfuel : (start request).rest.length < request.data_length.toNat + 1 := by
    rw [start_rest, Request.payload, Buffer.length_slice]
    omega
  obtain ⟨headers, hheaders, hholds⟩ := holds_of_traverse (start_open request) hfuel hvalid
  exact ⟨headers, hheaders, hholds.rest_eq⟩

end ReadMemoryBlocksRequestParser

end protocol

namespace MainHandler

open ReadMemoryBlocksRequestParser

/-- A block of the response: its header, and its bytes in memory. -/
def read_out (bytes : Nat → uint8_t) (header : BlockHeader) : List uint8_t :=
  header.encode ++
    (List.range header.length.toNat).map fun i => bytes (uintptr (header.start_address + i))

/-- The permission to read a block. -/
def permits_read (m_config : Config) (header : BlockHeader) : Bool :=
  !touches_forbidden_region m_config header.start_address header.length.toNat

theorem permits_read_block {m_config : Config} {header : BlockHeader} {buffer : ByteBuffer} :
    block_touches_forbidden_region m_config (header.block buffer) =
      !permits_read m_config header := by
  have hlength : (header.block buffer).length_char = header.length := BitVec.udiv_one
  rw [block_touches_forbidden_region, hlength, permits_read, Bool.not_not]
  rfl

/-- No byte of the block is in a forbidden region. -/
def NoForbiddenByte (m_config : Config) (header : BlockHeader) : Prop :=
  ∀ i < header.length.toNat, m_config.forbidden_byte (uintptr (header.start_address + i)) = false

/-- The check finds the block in a region where it has no byte: it has none at all, or the region
ends before it starts. -/
def StoppedInVain (m_config : Config) (header : BlockHeader) : Prop :=
  ∃ range ∈ m_config.forbidden_ranges,
    (header.length = 0 ∨ range.end_addr < range.start) ∧
      header.start_address ≤ range.end_addr ∧
        range.start ≤ block_end header.start_address header.length.toNat

instance (m_config : Config) (header : BlockHeader) : Decidable (StoppedInVain m_config header) :=
  inferInstanceAs (Decidable (∃ range ∈ m_config.forbidden_ranges, _ ∧ _))

/-- A block that has bytes, and is found in a region that has some, has one of them. -/
theorem byte_in_region {range : AddressRange} {start length : Nat} (hstart : start < address_space)
    (hlength : 0 < length) (hrange : range.start ≤ range.end_addr)
    (hbefore : start ≤ range.end_addr) (hafter : range.start ≤ block_end start length) :
    ∃ i < length, range.start ≤ uintptr (start + i) ∧ uintptr (start + i) ≤ range.end_addr := by
  have hsum : start + length + address_space - 1 = start + length - 1 + address_space := by omega
  have hend : block_end start length = (start + length - 1) % address_space := by
    rw [block_end, hsum, uintptr, Nat.add_mod_right]
  rw [hend] at hafter
  by_cases htop : start + length ≤ address_space
  · rw [Nat.mod_eq_of_lt (by omega)] at hafter
    have hbyte : uintptr (start + (max start range.start - start)) = max start range.start := by
      have hfirst : start + (max start range.start - start) = max start range.start := by omega
      rw [hfirst]
      exact uintptr_of_lt (by omega)
    refine ⟨max start range.start - start, by omega, ?_⟩
    rw [hbyte]
    omega
  · -- The block goes on at the bottom of the address space, up to the start of the region at least.
    have hlast := Nat.mod_lt (start + length - 1) address_space_pos
    by_cases hlow : start ≤ range.start
    · have hbyte : uintptr (start + (range.start - start)) = range.start := by
        rw [Nat.add_sub_cancel' hlow]
        exact uintptr_of_lt (by omega)
      refine ⟨range.start - start, by omega, ?_⟩
      rw [hbyte]
      omega
    · have hbyte : uintptr (start + (range.start + address_space - start)) = range.start := by
        have haround : start + (range.start + address_space - start) =
            range.start + address_space := by
          omega
        rw [haround, uintptr, Nat.add_mod_right]
        exact Nat.mod_eq_of_lt (by omega)
      have hroom : range.start + address_space - start < length := by
        by_cases hwhole : address_space ≤ length
        · omega
        · have hwrapped : (start + length - 1) % address_space =
              start + length - 1 - address_space := by
            rw [Nat.mod_eq_sub_mod (by omega), Nat.mod_eq_of_lt (by omega)]
          omega
      refine ⟨range.start + address_space - start, hroom, ?_⟩
      rw [hbyte]
      omega

/-- Of the blocks with no forbidden byte, the check lets through all that it does not stop in
vain. -/
theorem permits_read_iff {m_config : Config} {header : BlockHeader}
    (hfree : NoForbiddenByte m_config header) :
    permits_read m_config header = true ↔ ¬ StoppedInVain m_config header := by
  rw [permits_read, touches_forbidden_region_eq, Bool.not_eq_true', touches_region,
    List.any_eq_false]
  simp only [Bool.and_eq_true, decide_eq_true_eq]
  constructor
  · rintro hpasses ⟨range, hmem, _, hfound⟩
    exact hpasses range hmem hfound
  · intro hvain range hmem hfound
    by_cases hsome : 0 < header.length.toNat ∧ range.start ≤ range.end_addr
    · obtain ⟨i, hi, hbyte⟩ :=
        byte_in_region header.in_space hsome.1 hsome.2 hfound.1 hfound.2
      have hforbidden : m_config.forbidden_byte (uintptr (header.start_address + i)) = true :=
        List.any_eq_true.mpr ⟨range, hmem, decide_eq_true hbyte⟩
      exact absurd (hfree i hi) (by simp [hforbidden])
    · refine hvain ⟨range, hmem, ?_, hfound⟩
      have hzero : header.length = 0 ↔ header.length.toNat = 0 := by
        rw [← BitVec.toNat_inj]
        rfl
      rw [hzero]
      omega

theorem read_blocks_finished {m_config : Config} {parser : ReadMemoryBlocksRequestParser}
    (hfin : parser.m_finished = true) (fuel : Nat) (encoder : ResponseEncoderBase)
    (memory : Memory) :
    read_blocks m_config fuel parser encoder memory = ((.OK, encoder.m_response), memory) := by
  cases fuel with
  | zero => rfl
  | succ fuel => simp only [read_blocks, hfin, if_true]

/-- One turn of the loop on a block that is permitted and fits. -/
theorem read_blocks_next {m_config : Config} {parser after : ReadMemoryBlocksRequestParser}
    {header : BlockHeader} {buffer : ByteBuffer} (hopen : parser.m_finished = false)
    (hnext : parser.next = (after, some (header.block buffer)))
    (hpermitted : permits_read m_config header = true) {encoder : ResponseEncoderBase}
    (hflow : encoder.m_overflow = false) (hlong : header.size ≤ MAXIMUM_TX_BUFFER_SIZE.toNat)
    (hfits : header.size ≤ encoder.remaining) (fuel : Nat) (memory : Memory) :
    read_blocks m_config (fuel + 1) parser encoder memory =
      read_blocks m_config fuel after (encoder.append (read_out memory.bytes header))
        (memory.copy_out header.start_address header.length.toNat).2 := by
  have hforbidden : block_touches_forbidden_region m_config (header.block buffer) = false := by
    rw [permits_read_block, hpermitted, Bool.not_true]
  have haccepted : ¬((header.block buffer).length.toNat >
      MAXIMUM_TX_BUFFER_SIZE.toNat - block_header_size ∨
        block_header_size + (header.block buffer).length.toNat > encoder.remaining) := by
    have hsize : header.size = block_header_size + (header.block buffer).length.toNat := rfl
    omega
  have hwrite : ReadMemoryBlocksResponseEncoder.write encoder (header.block buffer) memory =
      (encoder.append (read_out memory.bytes header),
        (memory.copy_out header.start_address header.length.toNat).2) := by
    rw [read_write_accepted haccepted, Memory.copy_out_eq]
    rfl
  have hflow' : (encoder.append (read_out memory.bytes header)).overflow = false := hflow
  simp only [read_blocks, hopen, hnext, hforbidden, hwrite, hflow', Bool.false_eq_true, if_false]

/-- The loop over blocks that fit in the response reads them in order, unless one of them is not
permitted or larger than what the parser allows. -/
theorem read_blocks_of_holds (m_config : Config) {parser : ReadMemoryBlocksRequestParser}
    {headers : List BlockHeader} (h : Holds parser headers) (hheaders : headers ≠ [])
    (hlong : total_size headers ≤ MAXIMUM_TX_BUFFER_SIZE.toNat) {encoder : ResponseEncoderBase}
    (hwf : encoder.WellFormed) (hflow : encoder.m_overflow = false)
    (hfits : total_size headers ≤ encoder.remaining) {fuel : Nat}
    (hfuel : headers.length ≤ fuel) (memory : Memory) :
    if ∀ header ∈ headers, permits_read m_config header = true ∧ header.size ≤ parser.room then
      (read_blocks m_config fuel parser encoder memory).1.1 = .OK ∧
        (read_blocks m_config fuel parser encoder memory).1.2.payload =
          encoder.m_response.payload ++ headers.flatMap (read_out memory.bytes)
    else (read_blocks m_config fuel parser encoder memory).1.1 ≠ .OK := by
  induction headers generalizing parser encoder fuel memory with
  | nil => exact absurd rfl hheaders
  | cons header headers ih =>
    obtain ⟨fuel, rfl⟩ : ∃ n, fuel = n + 1 := ⟨fuel - 1, by simp at hfuel; omega⟩
    rw [total_size_cons] at hlong hfits
    by_cases hallowed : header.size ≤ parser.room
    · obtain ⟨hnext, hafter⟩ := h.next hallowed
      by_cases hpermitted : permits_read m_config header = true
      · have hturn := read_blocks_next h.not_finished hnext hpermitted hflow (by omega) (by omega)
          fuel memory
        have hlength : (read_out memory.bytes header).length = header.size := by
          simp [read_out, BlockHeader.size]
        have hroom : (read_out memory.bytes header).length ≤ encoder.remaining := by omega
        obtain ⟨hwf', hpayload, hremaining⟩ := ResponseEncoderBase.append_of_fits hwf hroom
        rw [hturn]
        simp only [List.forall_mem_cons, hallowed, hpermitted, true_and]
        rcases hafter with ⟨rfl, hfinished, _⟩ | ⟨hmore, hholds⟩
        · simp only [List.not_mem_nil, false_implies, implies_true, if_true]
          rw [read_blocks_finished hfinished, hpayload]
          simp
        · have hrest := ih hholds hmore (by omega) hwf' hflow (by omega) (by simpa using hfuel)
            (memory.copy_out header.start_address header.length.toNat).2
          rw [Memory.copy_out_bytes, hpayload, List.append_assoc, ← List.flatMap_cons] at hrest
          exact hrest
      · have hforbidden : block_touches_forbidden_region m_config (header.block parser.m_buffer) =
            true := by
          rw [permits_read_block, Bool.eq_false_of_not_eq_true hpermitted, Bool.not_false]
        have hcode : (read_blocks m_config (fuel + 1) parser encoder memory).1.1 = .Forbidden := by
          simp only [read_blocks, h.not_finished, hnext, hforbidden, Bool.false_eq_true, if_false,
            if_true]
        rw [if_neg fun hall => hpermitted (hall header (by simp)).1, hcode]
        exact ResponseCode.noConfusion
    · have hrefused := next_refused h.toOpen (.inr (by rw [h.header_eq.1]; omega))
      obtain ⟨after, hnext, _⟩ := hrefused
      have hcode : (read_blocks m_config (fuel + 1) parser encoder memory).1.1 =
          .InvalidRequest := by
        simp only [read_blocks, h.not_finished, hnext, Bool.false_eq_true, if_false]
      rw [if_neg fun hall => hallowed (hall header (by simp)).2, hcode]
      exact ResponseCode.noConfusion

/-- The request is to read some blocks, one at least, that have no forbidden byte and fit in the
response. -/
structure AsksFor (handler : MainHandler) (request : Request) (headers : List BlockHeader) :
    Prop where
  some_block : headers ≠ []
  payload : request.payload = headers.flatMap BlockHeader.encode
  permitted : ∀ header ∈ headers, NoForbiddenByte handler.m_config header
  fits : total_size headers ≤ handler.m_comm_handler.tx_buffer_size.toNat

/-- A read gives the bytes of all the blocks in order, or refuses what is not made of blocks. -/
def ReadsExactly (self : MainHandler) (stack : Stack) (request : Request) (response : Response)
    (memory : Memory) : Prop :=
  let result := (self.process_memory_control stack request response memory).1
  (∀ headers, self.AsksFor request headers →
    result.1 = .OK ∧ result.2.payload = headers.flatMap (read_out memory.bytes)) ∧
  ((¬∃ headers, headers ≠ [] ∧ request.payload = headers.flatMap BlockHeader.encode) →
    result.1 = .InvalidRequest)

/-- No block is stopped in vain, and none is larger than what the others, the last one left out,
leave of the largest response there can be: they are counted once more when the blocks are read. -/
def LeavesRoom (self : MainHandler) (request : Request) : Prop :=
  ∀ headers, self.AsksFor request headers → ∀ header ∈ headers,
    ¬ StoppedInVain self.m_config header ∧
      total_size headers.dropLast + header.size ≤ MAXIMUM_TX_BUFFER_SIZE.toNat

/-- What is answered to a read of blocks that have no forbidden byte and fit. -/
theorem memory_read_of_asks {self : MainHandler} {request : Request} {headers : List BlockHeader}
    (hasks : self.AsksFor request headers)
    (htx : self.m_comm_handler.tx_buffer_size ≤ MAXIMUM_TX_BUFFER_SIZE) (response : Response)
    (memory : Memory) :
    if ∀ header ∈ headers, ¬ StoppedInVain self.m_config header ∧
        total_size headers.dropLast + header.size ≤ MAXIMUM_TX_BUFFER_SIZE.toNat then
      (self.memory_read request response memory).1.1 = .OK ∧
        (self.memory_read request response memory).1.2.payload =
          headers.flatMap (read_out memory.bytes)
    else (self.memory_read request response memory).1.1 ≠ .OK := by
  have hfits := hasks.fits
  have hlong : total_size headers ≤ MAXIMUM_TX_BUFFER_SIZE.toNat := hfits.trans htx
  have hless := total_size_dropLast_le headers
  obtain ⟨hholds, hrequired⟩ := init_of_headers hasks.payload hasks.some_block hlong
  have hroom (header : BlockHeader) : header.size ≤ (ReadMemoryBlocksRequestParser.init request).room ↔
      total_size headers.dropLast + header.size ≤ MAXIMUM_TX_BUFFER_SIZE.toNat := by
    rw [ReadMemoryBlocksRequestParser.room]
    bv_omega
  have hlength : headers.length ≤ request.data_length.toNat + 1 := by
    have hle := length_le_payload headers
    rw [← hasks.payload, Request.payload, Buffer.length_slice] at hle
    omega
  have hremaining := ResponseEncoderBase.remaining_init response
    self.m_comm_handler.tx_buffer_size
  have hall : (∀ header ∈ headers, permits_read self.m_config header = true ∧
      header.size ≤ (ReadMemoryBlocksRequestParser.init request).room) ↔
        ∀ header ∈ headers, ¬ StoppedInVain self.m_config header ∧
          total_size headers.dropLast + header.size ≤ MAXIMUM_TX_BUFFER_SIZE.toNat := by
    refine forall₂_congr fun header hheader => ?_
    rw [permits_read_iff (hasks.permitted header hheader), hroom]
  have hblocks := read_blocks_of_holds self.m_config hholds hasks.some_block hlong
    (ResponseEncoderBase.wellFormed_init response self.m_comm_handler.tx_buffer_size) rfl
    (hremaining ▸ hfits) hlength memory
  have hread : self.memory_read request response memory =
      read_blocks self.m_config (request.data_length.toNat + 1) (ReadMemoryBlocksRequestParser.init request)
        (ResponseEncoderBase.init response self.m_comm_handler.tx_buffer_size) memory := by
    have hsmall : ¬(ReadMemoryBlocksRequestParser.init request).m_required_tx_buffer_size >
        self.m_comm_handler.tx_buffer_size := by
      bv_omega
    simp only [memory_read, hholds.valid, if_neg hsmall, Bool.false_eq_true, if_false]
  simp only [hall] at hblocks
  rw [hread]
  exact hblocks

theorem memory_read_of_malformed {self : MainHandler} {request : Request}
    (hmalformed : ¬∃ headers, headers ≠ [] ∧
      request.payload = headers.flatMap BlockHeader.encode) (response : Response)
    (memory : Memory) : (self.memory_read request response memory).1.1 = .InvalidRequest := by
  have hinvalid : (ReadMemoryBlocksRequestParser.init request).m_invalid = true := by
    by_contra hvalid
    exact hmalformed (headers_of_init (Bool.eq_false_of_not_eq_true hvalid))
  simp only [memory_read, hinvalid, if_true]

/-- A read is exact just when the check of the regions stops no block in vain, and no block is
larger than what the size of the others, which the parser does not set back, leaves to it. -/
theorem reads_exactly_iff {request : Request}
    (hread : Subfunction.cast request.subfunction_id = some .Read) (self : MainHandler)
    (htx : self.m_comm_handler.tx_buffer_size ≤ MAXIMUM_TX_BUFFER_SIZE) (stack : Stack)
    (response : Response) (memory : Memory) :
    self.ReadsExactly stack request response memory ↔ self.LeavesRoom request := by
  have hprocess : self.process_memory_control stack request response memory =
      self.memory_read request response memory := by
    simp only [process_memory_control, hread]
  rw [ReadsExactly, hprocess]
  constructor
  · rintro ⟨hexact, _⟩ headers hasks
    by_contra hstopped
    have hanswer := memory_read_of_asks hasks htx response memory
    rw [if_neg hstopped] at hanswer
    exact hanswer (hexact headers hasks).1
  · intro hroom
    refine ⟨fun headers hasks => ?_, fun hmalformed => memory_read_of_malformed hmalformed _ _⟩
    have hanswer := memory_read_of_asks hasks htx response memory
    rwa [if_pos (hroom headers hasks)] at hanswer

/-- There is always room with a transmission buffer of half the largest size. -/
theorem leavesRoom_of_small {self : MainHandler}
    (hsmall : 2 * self.m_comm_handler.tx_buffer_size.toNat ≤ MAXIMUM_TX_BUFFER_SIZE.toNat)
    (hfree : self.m_config.forbidden_ranges = []) (request : Request) :
    self.LeavesRoom request := by
  intro headers hasks header hheader
  have hfits := hasks.fits
  have hless := total_size_dropLast_le headers
  have hsize := size_le_total_size hheader
  refine ⟨?_, by omega⟩
  rintro ⟨range, hmem, _⟩
  rw [hfree] at hmem
  cases hmem

end MainHandler

end

namespace MainHandler

attribute [local instance] host.platform

/-- The read of two blocks, from a target with the largest transmission buffer. -/
def two_blocks (first second : uint16_t) : Request :=
  host.memory_request 1 (host.block_header 0x1000 first ++ host.block_header 0x2000 second)

def largest : MainHandler := (host.initialized 65519 [] host.none_forbidden).main

/-- Both blocks fit in the response, and the second traversal finds the first too large. -/
theorem large_block_refused :
    (¬ largest.ReadsExactly host.stack (two_blocks 40000 10) host.response ⟨fun _ => 0, []⟩) ∧
      (largest.process_memory_control host.stack (two_blocks 40000 10) host.response
        ⟨fun _ => 0, []⟩).1.1 = .InvalidRequest := by
  have hrefused : (largest.process_memory_control host.stack (two_blocks 40000 10) host.response
      ⟨fun _ => 0, []⟩).1.1 = .InvalidRequest := by
    decide +kernel
  refine ⟨fun hexact => ?_, hrefused⟩
  have hasks : largest.AsksFor (two_blocks 40000 10)
      [⟨0x1000, 40000, by decide⟩, ⟨0x2000, 10, by decide⟩] :=
    ⟨List.cons_ne_nil _ _, by decide +kernel, fun _ _ _ _ => rfl, by decide +kernel⟩
  have hok := (hexact.1 _ hasks).1
  rw [hrefused] at hok
  cases hok

theorem small_blocks_read :
    smallest.ReadsExactly host.stack (two_blocks 5 2) host.response ⟨fun a => BitVec.ofNat 8 a, []⟩ :=
  (reads_exactly_iff (by decide +kernel) smallest (by decide +kernel) host.stack host.response
    ⟨fun a => BitVec.ofNat 8 a, []⟩).mpr (leavesRoom_of_small (by decide +kernel) rfl
      (two_blocks 5 2))

end MainHandler

end scrutiny
