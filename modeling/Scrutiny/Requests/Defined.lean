import Scrutiny.Requests.Payload
import Scrutiny.MemoryControl.RoundTrip

open foundation

namespace scrutiny

open datalogging protocol

namespace protocol

/-- The answers of two executions, as they are sent. -/
def Response.SameAnswer (response other : Response) : Prop :=
  response.response_code = other.response_code ∧ response.payload = other.payload

instance (response other : Response) : Decidable (response.SameAnswer other) :=
  inferInstanceAs (Decidable (_ ∧ _))

namespace CodecV1_0

/-- The encoder of a loop definition fails for lack of room only. -/
theorem encode_loop_definition_code
    (response_data : ResponseData.GetInfo.GetLoopDefinition) {type : LoopType}
    (htype : LoopType.cast response_data.loop_type = some type) (response : Response) :
    (encode_response_get_loop_definition response_data response).1 = .OK ∨
      (encode_response_get_loop_definition response_data response).1 = .Overflow := by
  rw [encode_response_get_loop_definition]
  split
  · exact .inr rfl
  · generalize (if response_data.support_datalogging = true then 0x80#8 else 0) = attributes
    simp only [htype]
    cases type with
    | FIXED_FREQ =>
      simp only
      split
      · exact .inr rfl
      · split
        · exact .inr rfl
        · exact .inl rfl
    | VARIABLE_FREQ =>
      simp only
      split
      · exact .inr rfl
      · exact .inl rfl

end CodecV1_0

end protocol

theorem LoopType.cast_code (type : LoopType) : LoopType.cast type.code = some type := by
  cases type <;> rfl

namespace MainHandler

section

variable [Platform]

/-- Two executions of a request give the same answer, whatever the stack and the
reception buffer hold past the end of its payload. -/
def AnswerDefined (s : System) (request : Request) : Prop :=
  ∀ (stack stack' : Stack) (other : Request) (response : Response),
    Request.Alike request other →
      (process_request s stack request response).1.SameAnswer
        (process_request s stack' other response).1

theorem process_request_congr {request other : Request} (h : Request.Alike request other)
    (s : System) {stack stack' : Stack} (response : Response)
    (hloop : stack.loop_id = stack'.loop_id ∨
      ¬ (CommandId.cast request.command_id = some .GetInfo ∧ ReadsLoopId s request))
    (hcallback : stack.v = stack'.v ∨ WritesByType s.main.m_config) :
    process_request s stack' other response = process_request s stack request response := by
  simp only [process_request, h.command_id, h.subfunction_id,
    process_command_congr h s _ hloop hcallback]

/-- The answer to a GetLoopDefinition request without a loop identifier. -/
theorem get_loop_definition_undefined {s : System} {request : Request}
    (hreads : ReadsLoopId s request) (stack : Stack) (response : Response) :
    (get_loop_definition s stack request response).1 = .FailureToProceed ↔
      stack.loop_id ≥ s.main.m_config.m_loop_count := by
  obtain ⟨-, hlength, hset⟩ := hreads
  have hdecode : CodecV1_0.decode_request_get_loop_definition request = none := if_pos hlength
  rw [get_loop_definition]
  simp only [hdecode, Option.getD_none, hset, Bool.not_true, Bool.false_or, decide_eq_true_eq]
  split
  · rename_i hid
    exact iff_of_true rfl hid
  · rename_i hid
    refine iff_of_false ?_ hid
    obtain hcode | hcode := CodecV1_0.encode_loop_definition_code
      { loop_id := stack.loop_id
        loop_type := (s.loops stack.loop_id.toNat).loop_type.code
        support_datalogging := (s.loops stack.loop_id.toNat).datalogging_allowed
        timestep_100ns := (s.loops stack.loop_id.toNat).get_timestep_100ns
        loop_name_length := BitVec.ofNat 8
          (tools.strnlen (s.loops stack.loop_id.toNat).m_name MAX_LOOP_NAME_LENGTH)
        loop_name := (s.loops stack.loop_id.toNat).m_name }
      (LoopType.cast_code _) response
    all_goals
      rw [hcode]
      intro hfailed
      cases hfailed

/-- The answer to a request is defined by its payload, unless it asks for the
definition of a loop without naming one. -/
theorem answer_defined_iff (s : System) (request : Request)
    (hcallback : WritesByType s.main.m_config) :
    AnswerDefined s request ↔
      ¬ (CommandId.cast request.command_id = some .GetInfo ∧ ReadsLoopId s request) := by
  constructor
  · rintro hdefined ⟨hcommand, hreads⟩
    have hset := hreads.2.2
    simp only [Config.is_loop_handlers_configured, Bool.and_eq_true, decide_eq_true_eq] at hset
    -- The identifier of the stack is that of the first loop, or of no loop.
    have hsame := (hdefined ⟨0, 0⟩ ⟨0xFF, 0⟩ request s.comm.m_active_response
      ⟨rfl, rfl, rfl, fun _ _ => rfl⟩).1
    simp only [process_request, process_command, hcommand, process_get_info, hreads.1] at hsame
    have hcodes := ResponseCode.code_injective hsame
    rw [(get_loop_definition_undefined hreads ⟨0xFF, 0⟩ _).mpr (by bv_omega),
      get_loop_definition_undefined hreads] at hcodes
    exact absurd hset.2 (BitVec.not_lt.mpr hcodes)
  · intro hnot stack stack' other response halike
    rw [process_request_congr halike s response (.inr hnot) (.inr hcallback)]
    exact ⟨rfl, rfl⟩

end

attribute [local instance] host.platform

/-- The callback of the target uses the first byte of the value. -/
theorem publishing_writes_by_type : WritesByType publishing.m_config := by
  rintro callback hset rpv hrpv v v' hsame
  cases hset
  have hsize : 8 ≤ 8 * (tools.get_type_size_8bits rpv.type).toNat := by
    obtain rfl | rfl : rpv = ⟨1, VariableType.uint16⟩ ∨ rpv = ⟨2, VariableType.boolean⟩ := by
      simpa [publishing, Config.get_rpvs_array] using hrpv
    all_goals decide
  funext caller bytes
  have hbyte : v.uint8 = v'.uint8 := hsame.setWidth_eq hsize
  simp only [hbyte]

theorem values_answer_defined :
    AnswerDefined { host.start with main := publishing } (host.memory_request 5 three_values) :=
  (answer_defined_iff _ _ publishing_writes_by_type).mpr fun h => absurd h.1 (by decide)

/-- A request for the definition of a loop that names none. -/
def unnamed_loop : Request where
  command_id := 1
  subfunction_id := 9
  data_length := 0
  data_max_length := 128
  data := fun _ => 0
  crc := 0

theorem unnamed_loop_answer_undefined : ¬ AnswerDefined host.start unnamed_loop := by
  intro hdefined
  have hsame := hdefined ⟨0, 0⟩ ⟨0xFF, 0⟩ unnamed_loop host.response ⟨rfl, rfl, rfl, fun _ _ => rfl⟩
  exact absurd hsame (by decide +kernel)

end MainHandler

end scrutiny
