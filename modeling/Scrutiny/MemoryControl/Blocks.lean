import Scrutiny.MainHandler.MemoryControl

open foundation

namespace scrutiny.protocol

variable [Platform]

theorem block_header_size_bounds : 3 ≤ block_header_size ∧ block_header_size ≤ 10 := by
  have hpos := addr_size_pos
  have hle := addr_size_le
  simp only [block_header_size]
  omega

@[simp] theorem length_encode_block_header (block : MemoryBlock8Bits) :
    (encode_block_header block).length = block_header_size := by
  simp [encode_block_header, block_header_size]

namespace WriteMemoryBlocksRequestParser

/-- The blocks that `next` gives one after the other. -/
def blocks : Nat → WriteMemoryBlocksRequestParser → List MemoryBlock8Bits
  | 0, _ => []
  | fuel + 1, self =>
    match self.next with
    | (_, none) => []
    | (self, some block) => block :: blocks fuel self

/-- The blocks of a request, up to the first that is not well formed. -/
def request_blocks (request : Request) (masked_write : Bool) : List MemoryBlock8Bits :=
  blocks (request.data_length.toNat + 1) (init request masked_write)

/-- The bytes of the request that are not read yet. -/
def unread (self : WriteMemoryBlocksRequestParser) : Nat :=
  self.m_size_limit.toNat - self.m_bytes_read.toNat

theorem next_of_finished {self : WriteMemoryBlocksRequestParser} (hfin : self.m_finished = true) :
    self.next = (self, none) := by
  simp [next, hfin]

theorem data_position_toNat {self : WriteMemoryBlocksRequestParser}
    (hread : self.m_bytes_read ≤ self.m_size_limit)
    (hroom : block_header_size ≤ (self.m_size_limit - self.m_bytes_read).toNat) :
    self.data_position.toNat = self.m_bytes_read.toNat + block_header_size := by
  have haddr := addr_size_le
  unfold data_position length_position
  unfold block_header_size at hroom ⊢
  bv_omega

theorem half_remaining_toNat {self : WriteMemoryBlocksRequestParser}
    (hposition : self.data_position ≤ self.m_size_limit) :
    self.half_remaining.toNat = (self.m_size_limit.toNat - self.data_position.toNat) / 2 := by
  have hnonneg : (self.m_size_limit.setWidth 32 - self.data_position.setWidth 32).msb = false := by
    rw [BitVec.msb_eq_decide, decide_eq_false_iff_not]
    bv_omega
  unfold half_remaining
  rw [BitVec.sshiftRight_eq_of_msb_false hnonneg]
  bv_omega

/-- Two states of the parser in the course of the same request. -/
structure SameRequest (before after : WriteMemoryBlocksRequestParser) : Prop where
  buffer : after.m_buffer = before.m_buffer
  size_limit : after.m_size_limit = before.m_size_limit
  masked_write : after.m_masked_write = before.m_masked_write

omit [Platform] in
theorem SameRequest.trans {first second third : WriteMemoryBlocksRequestParser}
    (h : SameRequest first second) (h' : SameRequest second third) : SameRequest first third :=
  ⟨h'.buffer.trans h.buffer, h'.size_limit.trans h.size_limit,
    h'.masked_write.trans h.masked_write⟩

/-- What `next` does when it gives a block: it moves past the block, which lies in
the request. -/
structure Advances (before after : WriteMemoryBlocksRequestParser) : Prop where
  same_request : SameRequest before after
  was_valid : before.m_invalid = false
  valid : after.m_invalid = false
  required : after.m_required_tx_buffer_size = before.m_required_tx_buffer_size
  in_request : after.m_bytes_read ≤ after.m_size_limit
  unread_le : after.unread + block_header_size ≤ before.unread

theorem next_some {self after : WriteMemoryBlocksRequestParser} {block : MemoryBlock8Bits}
    (hnext : self.next = (after, some block)) (hread : self.m_bytes_read ≤ self.m_size_limit) :
    Advances self after := by
  obtain ⟨_, hheader⟩ := block_header_size_bounds
  unfold next at hnext
  split at hnext
  · simp at hnext
  · rename_i hopen
    split at hnext
    · simp at hnext
    · rename_i hroom
      split at hnext
      · simp at hnext
      · rename_i hlength
        simp only at hnext
        split at hnext
        · simp at hnext
        · rename_i hbound
          simp only [Prod.mk.injEq, Option.some.injEq] at hnext
          obtain ⟨hafter, _⟩ := hnext
          simp only [Bool.or_eq_true, not_or, Bool.not_eq_true] at hopen
          have hposition := data_position_toNat hread (Nat.le_of_not_lt hroom)
          have hle : self.data_position ≤ self.m_size_limit := by bv_omega
          have hhalf := half_remaining_toNat hle
          subst hafter
          refine ⟨⟨rfl, rfl, rfl⟩, hopen.2, hopen.2, rfl, ?_, ?_⟩
          · cases hmask : self.m_masked_write <;> simp [hmask] at hlength ⊢ <;> bv_omega
          · simp only [WriteMemoryBlocksRequestParser.unread]
            cases hmask : self.m_masked_write <;> simp [hmask] at hlength ⊢ <;> bv_omega

theorem next_none {self after : WriteMemoryBlocksRequestParser}
    (hnext : self.next = (after, none)) (hopen : self.m_finished = false) :
    after.m_invalid = true := by
  unfold next at hnext
  split at hnext
  · rename_i hclosed
    simp only [Prod.mk.injEq, and_true] at hnext
    subst hnext
    simpa [hopen] using hclosed
  · split at hnext
    · simp only [Prod.mk.injEq, and_true] at hnext
      rw [← hnext]
    · split at hnext
      · simp only [Prod.mk.injEq, and_true] at hnext
        rw [← hnext]
      · simp only at hnext
        split at hnext
        · simp only [Prod.mk.injEq, and_true] at hnext
          rw [← hnext]
        · simp at hnext

/-- The size required of the response does not take part in the decoding. -/
theorem next_set_required (self : WriteMemoryBlocksRequestParser) (required : uint16_t) :
    (self.set_required required).next = (self.next.1.set_required required, self.next.2) := by
  have hlength : (self.set_required required).next_length = self.next_length := rfl
  have hposition : (self.set_required required).data_position = self.data_position := rfl
  have hhalf : (self.set_required required).half_remaining = self.half_remaining := rfl
  have haddress : (self.set_required required).next_address = self.next_address := rfl
  unfold next
  rw [hlength, hposition, hhalf, haddress]
  simp only [set_required]
  by_cases hclosed : (self.m_finished || self.m_invalid) = true
  · simp only [hclosed, if_true]
  · by_cases hroom : block_header_size > (self.m_size_limit - self.m_bytes_read).toNat
    · simp only [hclosed, hroom, Bool.false_eq_true, if_true, if_false]
    · by_cases hlong : self.next_length > self.m_size_limit - self.data_position ∨
          (self.m_masked_write = true ∧ self.next_length > self.half_remaining)
      · simp only [hclosed, hroom, hlong, Bool.false_eq_true, if_true, if_false]
      · by_cases hend : self.data_position + self.next_length > self.m_size_limit
        · simp only [hclosed, hroom, hlong, hend, Bool.false_eq_true, if_true, if_false]
        · simp only [hclosed, hroom, hlong, hend, Bool.false_eq_true, if_false]
          rfl

/-- The parser gives these blocks and reaches the end of the request with the last. -/
inductive Parses : WriteMemoryBlocksRequestParser → List MemoryBlock8Bits → Prop where
  | last {self after : WriteMemoryBlocksRequestParser} {block : MemoryBlock8Bits}
      (hnext : self.next = (after, some block)) (hfin : after.m_finished = true) :
      Parses self [block]
  | more {self after : WriteMemoryBlocksRequestParser} {block : MemoryBlock8Bits}
      {blocks : List MemoryBlock8Bits} (hnext : self.next = (after, some block))
      (hfin : after.m_finished = false) (hrest : Parses after blocks) :
      Parses self (block :: blocks)

theorem Parses.blocks_eq {self : WriteMemoryBlocksRequestParser} {list : List MemoryBlock8Bits}
    (hparses : Parses self list) {fuel : Nat} (hfuel : list.length ≤ fuel) :
    blocks fuel self = list := by
  induction hparses generalizing fuel with
  | last hnext hfin =>
    obtain ⟨fuel, rfl⟩ : ∃ n, fuel = n + 1 := ⟨fuel - 1, by simp at hfuel; omega⟩
    simp only [blocks, hnext]
    cases fuel with
    | zero => rfl
    | succ fuel => simp [blocks, next_of_finished hfin]
  | more hnext hfin hrest ih =>
    obtain ⟨fuel, rfl⟩ : ∃ n, fuel = n + 1 := ⟨fuel - 1, by simp at hfuel; omega⟩
    simp only [blocks, hnext]
    rw [ih (by simpa using hfuel)]

theorem Parses.set_required {self : WriteMemoryBlocksRequestParser}
    {list : List MemoryBlock8Bits} (hparses : Parses self list) (required : uint16_t) :
    Parses (self.set_required required) list := by
  induction hparses with
  | @last self after block hnext hfin =>
    have hnext' : (self.set_required required).next = (after.set_required required, some block) := by
      rw [next_set_required, hnext]
    exact .last hnext' hfin
  | @more self after block list hnext hfin hrest ih =>
    have hnext' : (self.set_required required).next = (after.set_required required, some block) := by
      rw [next_set_required, hnext]
    exact .more hnext' hfin ih

theorem Parses.length_le {self : WriteMemoryBlocksRequestParser} {list : List MemoryBlock8Bits}
    (hparses : Parses self list) (hread : self.m_bytes_read ≤ self.m_size_limit) :
    1 ≤ list.length ∧ list.length * block_header_size ≤ self.unread := by
  induction hparses with
  | last hnext hfin =>
    have hunread := (next_some hnext hread).unread_le
    simp only [List.length_singleton, Nat.one_mul]
    omega
  | more hnext hfin hrest ih =>
    have hadvances := next_some hnext hread
    have hunread := hadvances.unread_le
    obtain ⟨_, hrest⟩ := ih hadvances.in_request
    simp only [List.length_cons, Nat.add_mul, Nat.one_mul]
    omega

/-- A traversal that finds no error has seen all the blocks, and has counted every
one but the last in the size required of the response. -/
theorem traverse_valid {fuel : Nat} {self : WriteMemoryBlocksRequestParser}
    (hread : self.m_bytes_read ≤ self.m_size_limit) (hfuel : self.unread < fuel)
    (hopen : self.m_finished = false) (hvalid : (traverse fuel self).m_invalid = false) :
    ∃ list, Parses self list ∧ SameRequest self (traverse fuel self) ∧
      (traverse fuel self).m_required_tx_buffer_size = self.m_required_tx_buffer_size +
        BitVec.ofNat 16 ((list.length - 1) * block_header_size) := by
  induction fuel generalizing self with
  | zero => omega
  | succ fuel ih =>
    match hnext : self.next with
    | (after, none) =>
      have htraverse : traverse (fuel + 1) self = after := by rw [traverse, hnext]
      rw [htraverse, next_none hnext hopen] at hvalid
      cases hvalid
    | (after, some block) =>
      have hadvances := next_some hnext hread
      have hvalidAfter := hadvances.valid
      cases hfin : after.m_finished with
      | true =>
        have htraverse : traverse (fuel + 1) self = after := by
          simp only [traverse, hnext, hfin, Bool.or_true, if_true]
        refine ⟨[block], .last hnext hfin, ?_⟩
        rw [htraverse]
        exact ⟨hadvances.same_request, by simp [hadvances.required]⟩
      | false =>
        let counted := after.set_required
          (after.m_required_tx_buffer_size + BitVec.ofNat 16 block_header_size)
        have htraverse : traverse (fuel + 1) self = traverse fuel counted := by
          simp only [traverse, hnext, hfin, hvalidAfter, Bool.or_false, Bool.false_eq_true,
            if_false, counted]
        have hread' : counted.m_bytes_read ≤ counted.m_size_limit := hadvances.in_request
        have hfuel' : counted.unread < fuel := by
          have hheader := block_header_size_bounds.1
          have hunread := hadvances.unread_le
          have hsame : counted.unread = after.unread := rfl
          omega
        rw [htraverse] at hvalid ⊢
        obtain ⟨list, hparses, hrequest, hrequired⟩ := ih hread' hfuel' hfin hvalid
        have hlength : 1 ≤ list.length := (hparses.length_le hread').1
        refine ⟨block :: list, .more hnext hfin
          (hparses.set_required after.m_required_tx_buffer_size), ?_, ?_⟩
        · exact hadvances.same_request.trans ⟨hrequest.1, hrequest.2, hrequest.3⟩
        · have hcount : block_header_size + (list.length - 1) * block_header_size =
              ((block :: list).length - 1) * block_header_size := by
            rw [List.length_cons, Nat.add_sub_cancel, Nat.add_comm, ← Nat.succ_mul]
            congr 1
            omega
          rw [hrequired, ← hcount, BitVec.ofNat_add, ← BitVec.add_assoc, ← hadvances.required]
          rfl

/-- A request found valid consists of blocks, and its parser starts over with them. -/
theorem init_valid {request : Request} {masked_write : Bool}
    (hvalid : (init request masked_write).m_invalid = false) :
    Parses (init request masked_write) (request_blocks request masked_write) ∧
      1 ≤ (request_blocks request masked_write).length ∧
      (request_blocks request masked_write).length * block_header_size ≤
        request.data_length.toNat ∧
      (init request masked_write).m_required_tx_buffer_size.toNat =
        ((request_blocks request masked_write).length - 1) * block_header_size := by
  let start : WriteMemoryBlocksRequestParser := {
    m_buffer := request.data
    m_bytes_read := 0
    m_size_limit := request.data_length
    m_required_tx_buffer_size := 0
    m_finished := false
    m_invalid := false
    m_masked_write := masked_write }
  have hread : start.m_bytes_read ≤ start.m_size_limit := Nat.zero_le _
  have hunread : start.unread = request.data_length.toNat := by simp [start, unread]
  have hfuel : start.unread < request.data_length.toNat + 1 := by omega
  obtain ⟨list, hparses, hrequest, hrequired⟩ := traverse_valid hread hfuel rfl hvalid
  obtain ⟨hlength, hsize⟩ := hparses.length_le hread
  have hheader := block_header_size_bounds.1
  have hcount : list.length ≤ list.length * block_header_size := Nat.le_mul_of_pos_right _ (by omega)
  have hinit : init request masked_write =
      start.set_required (init request masked_write).m_required_tx_buffer_size := by
    have hfinal : (traverse (request.data_length.toNat + 1) start).m_invalid = false := hvalid
    simp only [init, set_required, start, mk.injEq, true_and]
    exact ⟨hrequest.buffer, hrequest.size_limit, hfinal, hrequest.masked_write⟩
  have hparses' : Parses (init request masked_write) list := by
    rw [hinit]
    exact hparses.set_required _
  have hblocks : request_blocks request masked_write = list :=
    hparses'.blocks_eq (by omega)
  rw [hblocks]
  refine ⟨hparses', hlength, by omega, ?_⟩
  have hsum : (init request masked_write).m_required_tx_buffer_size =
      BitVec.ofNat 16 ((list.length - 1) * block_header_size) := by
    exact hrequired.trans (BitVec.zero_add _)
  have hless : (list.length - 1) * block_header_size ≤ list.length * block_header_size :=
    Nat.mul_le_mul_right _ (Nat.sub_le _ _)
  rw [hsum, BitVec.toNat_ofNat, Nat.mod_eq_of_lt]
  have hlimit := request.data_length.isLt
  omega

end WriteMemoryBlocksRequestParser

end scrutiny.protocol
