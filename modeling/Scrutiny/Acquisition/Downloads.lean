import Scrutiny.Acquisition.History
import Scrutiny.Acquisition.ReadSession
import Scrutiny.MainHandler.Download

open foundation

namespace scrutiny

open datalogging protocol

section

variable [Platform]

open MainHandler LoopHandler RawFormatEncoder

/-- Where a reading session is in its acquisition. -/
structure Bookmark where
  m_reader : RawFormatReader
  crc : uint32_t
  rolling_counter : uint8_t

def Datalogging.bookmark (self : Datalogging) : Bookmark :=
  ⟨self.datalogger.m_encoder.m_reader, self.read_acquisition_crc,
    self.read_acquisition_rolling_counter⟩

/-- A session that is in progress was so before, and is where it was. -/
def Stays (before after : Datalogging) : Prop :=
  after.reading_in_progress = true →
    before.reading_in_progress = true ∧ after.bookmark = before.bookmark

namespace Stays

variable {first second third : Datalogging}

omit [Platform] in
theorem refl (d : Datalogging) : Stays d d := fun h => ⟨h, rfl⟩

omit [Platform] in
theorem trans (h : Stays first second) (h' : Stays second third) : Stays first third := by
  intro hreading
  obtain ⟨hbetween, hmark'⟩ := h' hreading
  obtain ⟨hbefore, hmark⟩ := h hbetween
  exact ⟨hbefore, hmark'.trans hmark⟩

omit [Platform] in
theorem of_idle (hidle : second.reading_in_progress = false) : Stays first second := by
  intro hreading
  cases hidle.symm.trans hreading

end Stays

namespace MainHandler

theorem process_loop_stays (s : System) (id : LoopId) :
    Stays s.datalogging (process_loop s id).datalogging := by
  cases hmsg : s.loop2main id with
  | none =>
    rw [process_loop_of_empty hmsg]
    exact .refl _
  | some msg =>
    rw [process_loop_of_message hmsg, System.set_datalogging_datalogging]
    cases msg with
    | DATALOGGER_STATUS_UPDATE update =>
      by_cases hstate : update.state ≠ .AcquisitionCompleted
      · exact .of_idle (if_pos hstate)
      · intro hreading
        have hkept : (if update.state ≠ .AcquisitionCompleted then false
          else s.datalogging.reading_in_progress) = true := hreading
        rw [if_neg hstate] at hkept
        exact ⟨hkept, rfl⟩
    | DATALOGGER_OWNERSHIP_TAKEN => exact fun h => ⟨h, rfl⟩
    | DATALOGGER_OWNERSHIP_RELEASED => exact fun h => ⟨h, rfl⟩
    | DATALOGGER_DATA_ACQUIRED => exact .refl _

theorem process_datalogging_logic_stays (s : System) :
    Stays s.datalogging (process_datalogging_logic s).datalogging := by
  unfold process_datalogging_logic offer_ownership send_commands
  simp only
  repeat' split
  all_goals exact fun h => ⟨h, rfl⟩

theorem stays_exchanges (d : Datalogging) : System.Exchanges fun s => Stays d s.datalogging where
  frame s s' hframe h := by
    rw [hframe.datalogging]
    exact h
  message s id _ h := h.trans (process_loop_stays s id)
  logic s _ h := h.trans (process_datalogging_logic_stays s)

/-- A request to read that is not answered leaves the session where it was, or ends it. -/
theorem read_acquisition_stays {d : Datalogging} {response : Response}
    (hcode : (read_acquisition d response).1.1 ≠ .OK) :
    Stays d (read_acquisition d response).2 := by
  unfold read_acquisition at hcode ⊢
  split
  · exact .refl d
  · rename_i howner
    rw [if_neg howner] at hcode
    split
    · rename_i havailable
      rw [if_pos havailable] at hcode
      refine .of_idle ?_
      simp only [decide_eq_false hcode, Bool.false_and]
    · exact .of_idle rfl

/-- Only an answer to a request to read moves the bookmark of a session. -/
theorem serve_request_stays {s : System} {stack : Stack} (hunread : read_response s stack = none) :
    Stays s.datalogging (serve_request s stack).datalogging := by
  by_cases hread : served s = some .ReadAcquisition
  · rw [serve_request_read hread]
    refine read_acquisition_stays fun hok => ?_
    obtain ⟨_, hresponse⟩ := execute_request_read hread stack
    have hcode : (execute_request s stack).comm.m_active_response.response_code =
        ResponseCode.OK.code := by
      rw [hresponse, hok]
    rw [read_response, if_pos ⟨hread, hcode⟩] at hunread
    cases hunread
  · obtain ⟨response, hdatalogging⟩ := serve_request_datalogging s stack
    rw [hdatalogging]
    cases hserved : served s with
    | none => exact .refl _
    | some subfunction =>
      cases subfunction with
      | ReadAcquisition => exact absurd hserved hread
      | ConfigureDatalog => exact .of_idle (reading_of_configure _ _ _)
      | ArmTrigger =>
        unfold arm_trigger
        simp only
        split <;> exact fun h => ⟨h, rfl⟩
      | DisarmTrigger =>
        unfold disarm_trigger
        simp only
        split <;> exact fun h => ⟨h, rfl⟩
      | ResetDatalogger =>
        unfold reset_datalogger request_release
        simp only
        split
        · split <;> exact fun h => ⟨h, rfl⟩
        · exact fun h => ⟨h, rfl⟩
      | GetSetup => exact .refl _
      | GetStatus => exact .refl _
      | GetAcquisitionMetadata => exact .refl _

end MainHandler

namespace LoopHandler

/-- Logging does not move the reader. -/
theorem process_reader (d : DataLogger) (handler : Config) (timebases : LoopId → Timebase)
    (memory : Memory) :
    (d.process handler timebases memory).1.m_encoder.m_reader = d.m_encoder.m_reader := by
  have hencode (encoder : RawFormatEncoder) (config : Configuration) (timebase : Timebase)
      (caller : Option LoopId) : (encoder.encode_next_entry handler config timebase caller
        memory).1.m_reader = encoder.m_reader := by
    have hadvance : encoder.advance_first_valid.m_reader = encoder.m_reader := by
      unfold advance_first_valid
      split <;> rfl
    unfold encode_next_entry
    split
    · rfl
    · exact hadvance
  obtain ⟨acquired, hacquired, hencoder⟩ := d.process_encoder handler timebases memory
  have hkept : acquired.m_reader = d.m_encoder.m_reader := by
    rcases hacquired with rfl | ⟨timebase, rfl⟩
    · rfl
    · exact hencode _ _ _ _
  rcases hencoder with hsame | hreset
  · rw [hsame, hkept]
  · rw [hreset, ← hkept]
    rfl

theorem process_common_stays (s : System) (id : LoopId) (timestep_100ns : timediff_t) :
    Stays s.datalogging (process_common s id timestep_100ns).datalogging := by
  have hreader : (process_common s id timestep_100ns).datalogger.m_encoder.m_reader =
      s.datalogger.m_encoder.m_reader := by
    have hdatalogger := congrArg Datalogging.datalogger
      (run_datalogger_datalogging (informed s id timestep_100ns) id)
    change (process_common s id timestep_100ns).datalogger = _ at hdatalogger
    rw [hdatalogger, ← informed_encoder s id timestep_100ns]
    simp only
    split
    · exact process_reader _ _ _ _
    · rfl
  rw [process_common_datalogging]
  refine fun h => ⟨h, ?_⟩
  simp only [Datalogging.bookmark, hreader]
  rfl

end LoopHandler

namespace System

variable {s : System}

/-- A call that answers no request to read leaves the session where it was, or ends it. -/
theorem step_stays (hready : s.main.Ready) {e : Event} (hunread : answered_read s e = none) :
    Stays s.datalogging (step s e).datalogging := by
  have hexchanges := stays_exchanges s.datalogging
  cases e with
  | receive_data data len => exact .refl _
  | pop_data len => exact hexchanges.pop_data (.refl _) len
  | process timestep_100ns stack =>
    have hbegun := hexchanges.begin_process (.refl _) timestep_100ns
    rw [step, process_eq hready.enabled]
    exact hexchanges.end_process (hbegun.trans (serve_request_stays hunread))
  | loop_process id timestep_100ns =>
    rw [step]
    split
    · exact process_common_stays s id timestep_100ns
    · exact .refl _
  | application bytes => exact .refl _

end System

namespace MainHandler

/-- The session is over with the last response. -/
theorem read_acquisition_reading {encoder : RawFormatEncoder} (h : encoder.Holds)
    {d : Datalogging} {response : Response} {room i : Nat}
    (hroom : CodecV1_0.data_room response = room)
    (hi : i < response_count encoder.stored.length room) (hat : AtResponse encoder room i d)
    (hmin : MINIMUM_TX_BUFFER_SIZE ≤ response.data_max_length)
    (hmax : response.data_max_length ≤ MAXIMUM_TX_BUFFER_SIZE)
    (howner : d.owner ≠ none) (havailable : datalogging_data_available d = true)
    (hreading : (read_acquisition d response).2.reading_in_progress = true) :
    i + 1 < response_count encoder.stored.length room := by
  have hmin' : 32 ≤ response.data_max_length.toNat := hmin
  have hsize : 4 ≤ room := by
    rw [← hroom, CodecV1_0.data_room]
    omega
  have hlast := last_response_iff hsize hi
  obtain ⟨filled, hencoded, _⟩ := CodecV1_0.encode_read_acquisition h
    (Nat.min_le_right (i * room) encoder.stored.length)
    { acquisition_id := (start_reading d).datalogger.get_acquisition_id
      rolling_counter := BitVec.ofNat 8 i }
    (tools.crc32 (encoder.stored.take (i * room)) 0) hmin hmax
  rw [read_acquisition, if_neg howner, if_pos havailable] at hreading
  simp only [hat.rolling_counter, hat.reader, hat.crc, hencoded, hroom, hlast] at hreading
  simp only [decide_true, Bool.true_and, Bool.not_eq_true', decide_eq_false_iff_not] at hreading
  omega

/-- How far a session in progress is in its acquisition. -/
def Placed (encoder : RawFormatEncoder) (room i : Nat) (d : Datalogging) : Prop :=
  d.reading_in_progress = true → i < response_count encoder.stored.length room ∧
    d.bookmark = ⟨encoder.reader_at (min (i * room) encoder.stored.length),
      tools.crc32 (encoder.stored.take (i * room)) 0, BitVec.ofNat 8 i⟩

omit [Platform] in
theorem Placed.stays {encoder : RawFormatEncoder} {room i : Nat} {before after : Datalogging}
    (h : Placed encoder room i before) (hstays : Stays before after) :
    Placed encoder room i after := by
  intro hreading
  obtain ⟨hbefore, hmark⟩ := hstays hreading
  rw [hmark]
  exact h hbefore

omit [Platform] in
/-- The encoder that has an acquisition, but for where its reader is. -/
theorem encoder_of_acquisition {d : DataLogger} {acquisition : Acquisition}
    (hsame : d.acquisition = acquisition) :
    d.m_encoder = acquisition.encoder.set_reader d.m_encoder.m_reader := by
  rw [← hsame]
  rfl

theorem Placed.at_response {acquisition : Acquisition} {room i : Nat} {d : Datalogging}
    (h : Placed acquisition.encoder room i d) (hsame : d.datalogger.acquisition = acquisition)
    (hreading : d.reading_in_progress = true) : AtResponse acquisition.encoder room i d := by
  obtain ⟨_, hmark⟩ := h hreading
  simp only [Datalogging.bookmark, Bookmark.mk.injEq] at hmark
  obtain ⟨hreader, hcrc, hcounter⟩ := hmark
  refine in_progress_at_response hreading ?_ hcrc hcounter
  rw [← hreader]
  exact encoder_of_acquisition hsame

theorem placed_of_at_response {encoder : RawFormatEncoder} {room i : Nat} {d : Datalogging}
    (hat : AtResponse encoder room i d)
    (hmore : d.reading_in_progress = true → i < response_count encoder.stored.length room) :
    Placed encoder room i d := by
  intro hreading
  have hstarted : start_reading d = d := if_pos hreading
  obtain ⟨hreader, hcrc, hcounter⟩ := hat
  rw [hstarted] at hreader hcrc hcounter
  refine ⟨hmore hreading, ?_⟩
  rw [Datalogging.bookmark, hreader, hcrc, hcounter, set_reader_m_reader]

/-- The response object of a target that can send what it answers. -/
structure Equipped (tx_buffer_size : uint16_t) (s : System) : Prop where
  ready : s.main.Ready
  roomy : s.comm.Roomy
  callback : RespectsLength s.main.m_config
  tx_buffer_size : s.comm.m_tx_buffer_size = tx_buffer_size

theorem Equipped.step {tx_buffer_size : uint16_t} {s : System} (h : Equipped tx_buffer_size s)
    (e : Event) : Equipped tx_buffer_size (System.step s e) := by
  have hsame := System.step_same_buffers h.ready h.roomy h.callback e
  refine ⟨System.step_ready h.ready e, hsame.roomy h.roomy, ?_, ?_⟩
  · rw [System.step_config]
    exact h.callback
  · rw [hsame.tx_buffer_size]
    exact h.tx_buffer_size

theorem Equipped.begin_process {tx_buffer_size : uint16_t} {s : System}
    (h : Equipped tx_buffer_size s) (timestep_100ns : timediff_t) :
    Equipped tx_buffer_size (MainHandler.begin_process s timestep_100ns) := by
  have hsame := begin_process_same_buffers s timestep_100ns
  have hconfig : (MainHandler.begin_process s timestep_100ns).main.m_config = s.main.m_config := by
    rw [begin_process_main]
  refine ⟨begin_process_ready h.ready timestep_100ns, hsame.roomy h.roomy, ?_, ?_⟩
  · rw [hconfig]
    exact h.callback
  · rw [hsame.tx_buffer_size]
    exact h.tx_buffer_size

/-- The payload that a request to read is answered with, and where this leaves the session. -/
theorem serve_request_reads {acquisition : Acquisition} (hholds : acquisition.encoder.Holds)
    {tx_buffer_size : uint16_t} {s : System} (hequipped : Equipped tx_buffer_size s)
    (hsame : s.datalogger.acquisition = acquisition) {stack : Stack} {response : Response}
    (hread : read_response s stack = some response) {i : Nat}
    (hi : i < response_count acquisition.encoder.stored.length (tx_buffer_size.toNat - 4))
    (hat : AtResponse acquisition.encoder (tx_buffer_size.toNat - 4) i s.datalogging) :
    response.payload = session_payload acquisition.acquisition_id
        (chunks acquisition.encoder.stored (tx_buffer_size.toNat - 4)
          (response_count acquisition.encoder.stored.length (tx_buffer_size.toNat - 4))) i ∧
      Placed acquisition.encoder (tx_buffer_size.toNat - 4) (i + 1)
        (serve_request s stack).datalogging := by
  obtain ⟨hserved, howner, havailable, _⟩ := read_response_spec hread
  have hmax_length : (blank_response s).data_max_length = tx_buffer_size :=
    hequipped.roomy.room.trans hequipped.tx_buffer_size
  have hroom : CodecV1_0.data_room (blank_response s) = tx_buffer_size.toNat - 4 := by
    rw [CodecV1_0.data_room, hmax_length]
  have hmin : MINIMUM_TX_BUFFER_SIZE ≤ (blank_response s).data_max_length := by
    rw [hmax_length, ← hequipped.tx_buffer_size]
    exact hequipped.roomy.min
  have hmax : (blank_response s).data_max_length ≤ MAXIMUM_TX_BUFFER_SIZE := by
    rw [hmax_length, ← hequipped.tx_buffer_size]
    exact hequipped.ready.comm.tx_buffer_size_le
  obtain ⟨hcode, hpayload, hnext⟩ :=
    read_acquisition_step hholds hroom hi hat hmin hmax howner havailable
  obtain ⟨_, hresponse⟩ := execute_request_read hserved stack
  constructor
  · unfold read_response at hread
    simp only at hread
    split at hread
    · obtain rfl := Option.some.inj hread
      rw [hresponse, hcode]
      have hid : acquisition.acquisition_id = s.datalogging.datalogger.get_acquisition_id := by
        rw [← hsame]
        rfl
      rw [hid]
      exact hpayload
    · cases hread
  · rw [serve_request_read hserved]
    have hmore := read_acquisition_reading hholds hroom hi hat hmin hmax howner havailable
    intro hreading
    have hlt := hmore hreading
    rw [Nat.mod_eq_of_lt hlt] at hnext
    exact placed_of_at_response hnext (fun _ => hlt) hreading

end MainHandler

namespace System

/-- The parts of an acquisition that the call gives, each with what it is sent with. -/
def read_parts (s : System) (e : Event) : List (List uint8_t) :=
  ((answered_read s e).map Response.payload).toList

/-- The responses of a session, as its acquisition is cut to fit in them. -/
def session_parts (acquisition : Acquisition) (tx_buffer_size : uint16_t) : List (List uint8_t) :=
  chunks acquisition.encoder.stored (tx_buffer_size.toNat - 4)
    (response_count acquisition.encoder.stored.length (tx_buffer_size.toNat - 4))

/-- A session that goes on has its acquisition, and some of its responses were given. -/
def Downloading (acquisition : Acquisition) (tx_buffer_size : uint16_t) (i : Nat) (s : System) :
    Prop :=
  Over s ∨ Holding acquisition s ∧
    Placed acquisition.encoder (tx_buffer_size.toNat - 4) i s.datalogging

variable {s : System} {acquisition : Acquisition} {tx_buffer_size : uint16_t} {i : Nat}

theorem Over.unread (h : Over s) {e : Event} (hnot : ¬StartsSession s e) :
    answered_read s e = none := by
  cases e with
  | receive_data | pop_data | loop_process | application => rfl
  | process timestep_100ns stack =>
    have hidle := (Over.exchanges.begin_process h timestep_100ns).idle
      (begin_process_silent s timestep_100ns)
    by_contra hread
    exact hnot ⟨Option.isSome_iff_ne_none.mpr hread, hidle⟩

/-- A call that gives no response leaves the session where it was. -/
theorem Downloading.step (h : Downloading acquisition tx_buffer_size i s) (hready : s.main.Ready)
    {e : Event} (hnot : ¬StartsSession s e) (hrespects : RespectsSession s e)
    (hunread : answered_read s e = none) :
    Downloading acquisition tx_buffer_size i (System.step s e) := by
  rcases h with hover | ⟨hholding, hplaced⟩
  · exact .inl (hover.step hready hnot)
  · have hsession : InSession acquisition s := .inr hholding
    exact (hsession.step hready hnot hrespects).imp_right fun hholding =>
      ⟨hholding, hplaced.stays (step_stays hready hunread)⟩

/-- A call that gives a response gives the next one. -/
theorem Downloading.reads (hholds : acquisition.encoder.Holds)
    (h : Downloading acquisition tx_buffer_size i s) (hequipped : Equipped tx_buffer_size s)
    {e : Event} (hnot : ¬StartsSession s e) (hrespects : RespectsSession s e)
    {response : Response} (hread : answered_read s e = some response) :
    i < (session_parts acquisition tx_buffer_size).length ∧
      response.payload = session_payload acquisition.acquisition_id
        (session_parts acquisition tx_buffer_size) i ∧
      Downloading acquisition tx_buffer_size (i + 1) (System.step s e) := by
  cases e with
  | receive_data | pop_data | loop_process | application => cases hread
  | process timestep_100ns stack =>
    rcases h with hover | ⟨hholding, hplaced⟩
    · cases (hover.unread hnot).symm.trans hread
    · have hready := hequipped.ready
      have hsession : InSession acquisition s := .inr hholding
      have hbegun := (Holding.exchanges acquisition).begin_process hholding timestep_100ns
      have hmarked := hplaced.stays
        ((stays_exchanges s.datalogging).begin_process (.refl _) timestep_100ns)
      have hreading : (begin_process s timestep_100ns).datalogging.reading_in_progress = true := by
        by_contra hidle
        exact hnot ⟨Option.isSome_iff_exists.mpr ⟨response, hread⟩,
          Bool.eq_false_of_not_eq_true hidle⟩
      obtain ⟨hi, _⟩ := hmarked hreading
      obtain ⟨hpayload, hserved⟩ := serve_request_reads hholds
        (hequipped.begin_process timestep_100ns) hbegun.same hread hi
        (hmarked.at_response hbegun.same hreading)
      refine ⟨?_, hpayload, ?_⟩
      · rw [session_parts, length_chunks]
        exact hi
      · have hafter := (stays_exchanges
          (serve_request (begin_process s timestep_100ns) stack).datalogging).end_process (.refl _)
        have hstep := hsession.step hready hnot hrespects
        rw [System.step, process_eq hready.enabled] at hstep ⊢
        exact hstep.imp_right fun hholding => ⟨hholding, hserved.stays hafter⟩

/-- The responses of a session are given one after the other, whatever else happens. -/
theorem Downloading.run (hholds : acquisition.encoder.Holds)
    (h : Downloading acquisition tx_buffer_size i s) (hequipped : Equipped tx_buffer_size s)
    (hi : i ≤ (session_parts acquisition tx_buffer_size).length) {events : List Event}
    (hsession : Along System.step (fun s e => ¬StartsSession s e) s events)
    (hrespects : Along System.step RespectsSession s events) :
    ∃ n, i + n ≤ (session_parts acquisition tx_buffer_size).length ∧
      trace System.step read_parts s events = (List.range n).map fun k =>
        session_payload acquisition.acquisition_id
          (session_parts acquisition tx_buffer_size) (i + k) := by
  induction events generalizing s i with
  | nil => exact ⟨0, hi, rfl⟩
  | cons e events ih =>
    have hnext := hequipped.step e
    cases hread : answered_read s e with
    | none =>
      have hnothing : read_parts s e = [] := by rw [read_parts, hread]; rfl
      rw [trace, hnothing, List.nil_append]
      exact ih (h.step hequipped.ready hsession.1 hrespects.1 hread) hnext hi hsession.2
        hrespects.2
    | some response =>
      obtain ⟨hlt, hpayload, hafter⟩ := h.reads hholds hequipped hsession.1 hrespects.1 hread
      obtain ⟨n, hn, hrest⟩ := ih hafter hnext hlt hsession.2 hrespects.2
      have hpart : read_parts s e = [session_payload acquisition.acquisition_id
          (session_parts acquisition tx_buffer_size) i] := by
        rw [read_parts, hread, Option.map_some, hpayload]
        rfl
      refine ⟨n + 1, by omega, ?_⟩
      rw [trace, hpart, hrest, List.range_succ_eq_map, List.map_cons, List.map_map]
      refine congrArg (List.cons _) (List.map_congr_left fun k _ => ?_)
      rw [Function.comp_apply, Nat.succ_eq_add_one, Nat.add_right_comm, Nat.add_assoc]

omit [Platform] in
/-- The responses of a session have all of its acquisition. -/
theorem session_parts_flatten (hmin : MINIMUM_TX_BUFFER_SIZE ≤ tx_buffer_size) :
    (session_parts acquisition tx_buffer_size).flatten = acquisition.encoder.stored := by
  have hmin' : 32 ≤ tx_buffer_size.toNat := hmin
  have hroom : 0 < tx_buffer_size.toNat - 4 := by omega
  have hdiv : acquisition.encoder.stored.length + 3 <
      (acquisition.encoder.stored.length + 3) / (tx_buffer_size.toNat - 4) *
        (tx_buffer_size.toNat - 4) + (tx_buffer_size.toNat - 4) := Nat.lt_div_mul_add hroom
  rw [session_parts, flatten_chunks]
  apply List.take_of_length_le
  rw [response_count, Nat.succ_mul]
  omega

/-- A session starts with the first response. -/
theorem StartsSession.downloading (hreachable : Reachable s)
    (hequipped : Equipped tx_buffer_size s) {e : Event} (hstart : StartsSession s e)
    (hacquisition : (handled s e).datalogger.acquisition = acquisition)
    (hholds : acquisition.encoder.Holds) :
    read_parts s e = [session_payload acquisition.acquisition_id
        (session_parts acquisition tx_buffer_size) 0] ∧
      Downloading acquisition tx_buffer_size 1 (System.step s e) := by
  cases e with
  | receive_data | pop_data | loop_process | application => cases hstart.1
  | process timestep_100ns stack =>
    have hholding := hstart.holding hreachable
    obtain ⟨response, hread⟩ := Option.isSome_iff_exists.mp hstart.1
    have hsame : (begin_process s timestep_100ns).datalogger.acquisition = acquisition :=
      hacquisition
    have hat := at_first_response hholds _ (tx_buffer_size.toNat - 4)
      (encoder_of_acquisition hsame) hstart.2
    obtain ⟨hpayload, hserved⟩ := serve_request_reads hholds
      (hequipped.begin_process timestep_100ns) hsame hread (Nat.succ_pos _) hat
    have hafter := (stays_exchanges
      (serve_request (begin_process s timestep_100ns) stack).datalogging).end_process (.refl _)
    constructor
    · rw [read_parts, hread, Option.map_some, hpayload]
      rfl
    · rw [hsame, System.step, process_eq hequipped.ready.enabled] at hholding
      rw [System.step, process_eq hequipped.ready.enabled]
      exact .inr ⟨hholding, hserved.stays hafter⟩

theorem Reachable.run (h : Reachable s) (events : List Event) :
    Reachable (foundation.run System.step s events) := by
  induction events generalizing s with
  | nil => exact h
  | cons e events ih => exact ih (h.step e)

theorem run_equipped (h : Equipped tx_buffer_size s) (events : List Event) :
    Equipped tx_buffer_size (foundation.run System.step s events) := by
  induction events generalizing s with
  | nil => exact h
  | cons e events ih => exact ih (h.step e)

/-- The entries that the samples acquired since a configuration leave in the ring. -/
def recorded (s : System) (e : Event) (events : List Event) : List (List uint8_t) :=
  latest (s.main.m_config.m_datalogger_buffer_size /
      entry_size s.main.m_config (configuration s e))
    (DataLogger.log_of s.main.m_config (configuration s e)
      (trace System.step acquires (System.step s e) events))

/-- What a client reads in a session is what the loop sampled: the latest entries since the
configuration, cut in parts that are numbered, and the CRC of all of them with the last. -/
theorem samples_downloaded (hbool : codecs.encodable Platform.sizeof_bool)
    (hreachable : Reachable s) (hcallback : RespectsLength s.main.m_config) {e : Event}
    (hconfigures : Configures s e) {sampling : List Event}
    (hkept : Along System.step (fun s e => ¬Configures s e) (System.step s e) sampling)
    (hrecorded : (recorded s e sampling).flatten ≠ []) {e' : Event}
    (hstart : StartsSession (foundation.run System.step (System.step s e) sampling) e')
    {reading : List Event}
    (hsession : Along System.step (fun s e => ¬StartsSession s e)
      (System.step (foundation.run System.step (System.step s e) sampling) e') reading)
    (hrespects : Along System.step RespectsSession
      (System.step (foundation.run System.step (System.step s e) sampling) e') reading) :
    let start := foundation.run System.step (System.step s e) sampling
    let data := (recorded s e sampling).flatten
    let room := s.comm.m_tx_buffer_size.toNat - 4
    let parts := chunks data room (response_count data.length room)
    parts.flatten = data ∧ ∃ n, 0 < n ∧ n ≤ parts.length ∧
      trace System.step read_parts start (e' :: reading) = (List.range n).map
        (session_payload (handled start e').datalogger.get_acquisition_id parts) := by
  intro start data room parts
  obtain ⟨hready, _⟩ := hreachable.attached
  have hequipped : Equipped s.comm.m_tx_buffer_size s :=
    ⟨hready, hreachable.roomy hcallback, hcallback, rfl⟩
  have hbegun : Equipped s.comm.m_tx_buffer_size start := run_equipped (hequipped.step e) sampling
  obtain ⟨hpos, hfirst⟩ := hconfigures.recorded hbool hreachable
  rw [← step_config s e] at hfirst
  have hlast := run_recorded (step_ready hready e) hpos hfirst hkept
  rw [step_config, List.nil_append] at hlast
  cases e' with
  | receive_data | pop_data | loop_process | application => cases hstart.1
  | process timestep_100ns stack =>
    let acquisition := (begin_process start timestep_100ns).datalogger.acquisition
    have hheld := hlast.kept ((kept_exchanges start.datalogger).begin_process
      (.refl _) timestep_100ns)
    have hentries : acquisition.encoder.entries = recorded s e sampling := hheld.entries
    have hdata : acquisition.encoder.stored = data := by rw [stored, hentries]
    have hholds : acquisition.encoder.Holds := by
      cases herror : (begin_process start timestep_100ns).datalogger.m_encoder.m_error with
      | true =>
        have hnone := (hheld.failed herror).1
        exact absurd (hdata.symm.trans (congrArg List.flatten hnone)) hrecorded
      | false =>
        obtain ⟨_, hlogged⟩ := hheld.logged herror
        refine ⟨(hlogged.set_reader _).sound, herror, Nat.pos_of_ne_zero fun hzero => ?_⟩
        apply hrecorded
        rw [← hentries, entries, hzero]
        rfl
    have hacquisition : (handled start (.process timestep_100ns stack)).datalogger.acquisition =
        acquisition := rfl
    obtain ⟨hpart, hdownloading⟩ :=
      hstart.downloading ((hreachable.step e).run sampling) hbegun hacquisition hholds
    have hparts : session_parts acquisition s.comm.m_tx_buffer_size = parts := by
      rw [session_parts, hdata]
    obtain ⟨n, hn, hrest⟩ := hdownloading.run hholds (hbegun.step _)
      (by rw [session_parts, length_chunks]; exact Nat.succ_pos _) hsession hrespects
    have hflatten : (session_parts acquisition s.comm.m_tx_buffer_size).flatten =
        acquisition.encoder.stored := session_parts_flatten hequipped.roomy.min
    rw [hparts, hdata] at hflatten
    rw [hparts] at hn hrest hpart
    refine ⟨hflatten, n + 1, Nat.succ_pos n, by omega, ?_⟩
    rw [trace, hpart, hrest, List.range_succ_eq_map, List.map_cons, List.map_map]
    refine congrArg (List.cons _) (List.map_congr_left fun k _ => ?_)
    rw [Function.comp_apply, Nat.succ_eq_add_one, Nat.add_comm 1]
    rfl

end System

end

section

attribute [local instance] host.platform

/-- A target that is about to configure its datalogger for entries of 16 bytes. -/
def before_sampling : System := run System.step (MainHandler.init host.zeroed two_responses).2
  (host.connect ++ [host.receive (host.frame 5 2 before_trigger)])

theorem reachable_before_sampling : System.Reachable before_sampling :=
  ⟨_, _, ⟨host.zeroed, two_responses, Prod.ext (by decide +kernel) rfl⟩, rfl⟩

/-- The loop samples a memory that counts its bytes, and the client asks for the acquisition. -/
def sampled : List Event :=
  [.pop_data 0xFFFF, .application fun i => BitVec.ofNat 8 i] ++ loop_turn ++ loop_turn ++ loop_turn ++
    host.exchange 5 3 [] ++ loop_turn ++ loop_turn ++ [host.receive (host.frame 5 7 [])]

theorem before_sampling_respects_length :
    MainHandler.RespectsLength before_sampling.main.m_config := by
  have hnone : before_sampling.main.m_config.m_user_command_callback.isNone = true := by
    decide +kernel
  intro callback hcallback
  rw [hcallback] at hnone
  cases hnone

/-- The client asks for what was sampled. -/
def asked : System :=
  run System.step (System.step before_sampling (.process 0 host.stack)) sampled

def sampled_parts : List (List uint8_t) :=
  [(List.range 28).map fun i => BitVec.ofNat 8 (i % 16), [12, 13, 14, 15]]

/-- Two entries are read in two responses. -/
theorem sampled_downloaded :
    ∃ n, 0 < n ∧ n ≤ 2 ∧
      trace System.step System.read_parts asked
          (.process 0 host.stack :: (read_on ++ [.process 0 host.stack])) =
        (List.range n).map (MainHandler.session_payload 1 sampled_parts) := by
  have hkept : Along System.step (fun s e => ¬System.Configures s e)
      (System.step before_sampling (.process 0 host.stack)) sampled := by
    decide +kernel
  have hstart : System.StartsSession asked (.process 0 host.stack) := by decide +kernel
  have hsession : Along System.step (fun s e => ¬System.StartsSession s e)
      (System.step asked (.process 0 host.stack)) (read_on ++ [.process 0 host.stack]) := by
    decide +kernel
  have hrespects : Along System.step System.RespectsSession
      (System.step asked (.process 0 host.stack)) (read_on ++ [.process 0 host.stack]) := by
    decide +kernel
  have hid : (System.handled asked (.process 0 host.stack)).datalogger.get_acquisition_id = 1 := by
    decide +kernel
  have hdata : (System.recorded before_sampling (.process 0 host.stack) sampled).flatten =
      sampled_parts.flatten := by
    decide +kernel
  have hroom : before_sampling.comm.m_tx_buffer_size.toNat - 4 = 28 := by decide +kernel
  have hcut : chunks sampled_parts.flatten 28 (response_count sampled_parts.flatten.length 28) =
      sampled_parts := by
    decide +kernel
  obtain ⟨_, n, hpos, hn, hparts⟩ := System.samples_downloaded (.inl rfl)
    reachable_before_sampling before_sampling_respects_length (by decide +kernel) hkept
    (by rw [hdata]; decide) hstart hsession hrespects
  rw [hdata, hroom, hcut] at hn hparts
  refine ⟨n, hpos, hn, hparts.trans ?_⟩
  exact congrArg (fun id => (List.range n).map (MainHandler.session_payload id sampled_parts)) hid

end

end scrutiny
