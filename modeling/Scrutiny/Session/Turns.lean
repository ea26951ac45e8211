import Scrutiny.Comm.Pending
import Scrutiny.Comm.Popping
import Scrutiny.Comm.Queries
import Scrutiny.Foundation.Dialogue
import Scrutiny.Session.Buffers
import Scrutiny.Session.Retry

open foundation

namespace scrutiny

open protocol protocol.CommHandler

/-- The bytes that a call is given. -/
def Event.bytes : Event → List uint8_t
  | .receive_data data len => data.slice 0 len.toNat
  | .pop_data _ | .process _ _ | .loop_process _ _ | .application _ => []

section

variable [Platform]

namespace MainHandler

/-- A request that is to be executed again stays where it is. -/
theorem finish_request_again {s : System}
    (hcode : ResponseCode.cast s.comm.m_active_response.response_code = some .ProcessAgain)
    (hfinal : final_response s = none) :
    (finish_request s).comm = s.comm ∧ (finish_request s).main.m_processing_request = false := by
  unfold final_response at hfinal
  simp only [hcode] at hfinal
  split at hfinal
  · cases hfinal
  · rename_i hwaits
    unfold finish_request
    simp only [hcode]
    split
    · exact ⟨rfl, rfl⟩
    · rename_i htaken
      split
      · rename_i hexpired
        exact absurd (Bool.and_eq_true_iff.mpr ⟨Bool.eq_true_of_not_eq_false htaken, hexpired⟩)
          hwaits
      · exact ⟨rfl, rfl⟩

end MainHandler

namespace System

open MainHandler

/-- The link to a client, for queries that fit in the reception buffer. A query may be given
no reply at all. -/
def link (rx_buffer_size : uint16_t) : Link uint8_t Query (Option Response) where
  frame := Query.frame
  reply response := response.elim [] response_frame
  Hears query := query.Fits rx_buffer_size
  Answers query response := ∀ r, response = some r →
    r.command_id = query.command_id ∧ r.subfunction_id = query.subfunction_id

/-- What a call does over the link. -/
def actions (s : System) : Event → List (Action uint8_t Query (Option Response))
  | .receive_data data len => (data.slice 0 len.toNat).map .took
  | .pop_data len => (MainHandler.pop_data s len).2.map .gave
  | .process timestep_100ns stack =>
    if Concludes s (.process timestep_100ns stack) then
      [.served s.comm.m_active_request.query (answer s timestep_100ns stack)]
    else []
  | .loop_process _ _ | .application _ => []

/-- Where the target is with a query. -/
inductive Shows : Turn uint8_t Query (Option Response) → System → Prop
  | listening {s : System} {taken : List uint8_t}
      (reads : Represents s.comm (.reading .None taken)) (free : s.comm.m_state ≠ .Transmitting)
      (idle : s.main.m_processing_request = false) : Shows (.listening taken) s
  | serving {s : System} {query : Query} (received : s.comm.request_received = true)
      (request : s.comm.m_active_request.query = query) (state : s.comm.m_state = .Idle)
      (idle : s.main.m_processing_request = false) : Shows (.serving query) s
  | answering {s : System} {query : Query} {response : Response} {given : List uint8_t}
      (popped : Popped (response_frame response) given.length s.comm)
      (part : given <+: response_frame response) (sending : s.comm.m_state = .Transmitting)
      (busy : s.main.m_processing_request = true) : Shows (.answering query (some response) given) s

/-- What the calls keep, besides. -/
structure Talks (rx_buffer_size : uint16_t) (s : System) : Prop where
  ready : s.main.Ready
  roomy : s.comm.Roomy
  callback : RespectsLength s.main.m_config
  rx_buffer_size : s.comm.m_rx_buffer_size = rx_buffer_size

theorem Talks.step {rx_buffer_size : uint16_t} {s : System} (h : Talks rx_buffer_size s)
    (e : Event) : Talks rx_buffer_size (step s e) := by
  have hsame := step_same_buffers h.ready h.roomy h.callback e
  refine ⟨step_ready h.ready e, hsame.roomy h.roomy, ?_, ?_⟩
  · rw [step_config]
    exact h.callback
  · rw [hsame.rx_buffer_size]
    exact h.rx_buffer_size

/-- The client sends the queries that are left in turn and in time: it waits for the end of a
reply before the next frame, which it cuts where it likes and sends without a silence in it. Without
a session, the query under way is one that is let in. The heartbeats go on. -/
def InTurn (queries : List Query) (s : System) : Event → Prop
  | .receive_data data len => len ≠ 0 →
    s.comm.m_state ≠ .Transmitting ∧ s.comm.request_received = false ∧
      (s.comm.m_rx_state ≠ .WaitForCommand →
        s.comm.reception_timed_out s.main.m_timebase = false) ∧
      (s.comm.receive_data s.main.m_timebase data (len - 1)).request_received = false ∧
      (s.comm.is_connected = true ∨ ∀ query ∈ queries.head?, query.Opening)
  | .process timestep_100ns stack => ¬Expires s (.process timestep_100ns stack)
  | .pop_data _ | .loop_process _ _ | .application _ => True

instance (queries : List Query) (s : System) (e : Event) : Decidable (InTurn queries s e) :=
  match e with
  | .receive_data data len => inferInstanceAs (Decidable (len ≠ 0 →
    s.comm.m_state ≠ .Transmitting ∧ s.comm.request_received = false ∧
      (s.comm.m_rx_state ≠ .WaitForCommand →
        s.comm.reception_timed_out s.main.m_timebase = false) ∧
      (s.comm.receive_data s.main.m_timebase data (len - 1)).request_received = false ∧
      (s.comm.is_connected = true ∨ ∀ query ∈ queries.head?, query.Opening)))
  | .process timestep_100ns stack =>
    inferInstanceAs (Decidable (¬Expires s (.process timestep_100ns stack)))
  | .pop_data _ | .loop_process _ _ | .application _ => inferInstanceAs (Decidable True)

/-- The queries whose frames are not whole after a call. -/
def left (queries : List Query) (s : System) : Event → List Query
  | .receive_data data len =>
    if s.comm.request_received = false ∧
        (s.comm.receive_data s.main.m_timebase data len).request_received = true then queries.tail
    else queries
  | .pop_data _ | .process _ _ | .loop_process _ _ | .application _ => queries

/-- All the calls of a run are in turn, for the queries that are left when they are made. -/
def KeepsTurn : List Query → System → List Event → Prop
  | _, _, [] => True
  | queries, s, e :: events => InTurn queries s e ∧ KeepsTurn (left queries s e) (step s e) events

instance KeepsTurn.decidable : (queries : List Query) → (s : System) → (events : List Event) →
    Decidable (KeepsTurn queries s events)
  | _, _, [] => inferInstanceAs (Decidable True)
  | queries, s, e :: events =>
    have := KeepsTurn.decidable (left queries s e) (step s e) events
    inferInstanceAs (Decidable (InTurn queries s e ∧
      KeepsTurn (left queries s e) (step s e) events))

/-- No query is under way. -/
structure Available (s : System) : Prop where
  rx_state : s.comm.m_rx_state = .WaitForCommand
  rx_error : s.comm.m_rx_error = .None
  free : s.comm.m_state ≠ .Transmitting
  idle : s.main.m_processing_request = false

instance (s : System) : Decidable (Available s) :=
  decidable_of_iff (s.comm.m_rx_state = .WaitForCommand ∧ s.comm.m_rx_error = .None ∧
      s.comm.m_state ≠ .Transmitting ∧ s.main.m_processing_request = false)
    ⟨fun h => ⟨h.1, h.2.1, h.2.2.1, h.2.2.2⟩,
      fun h => ⟨h.rx_state, h.rx_error, h.free, h.idle⟩⟩

variable {rx_buffer_size : uint16_t} {s : System}

theorem Shows.congr {turn : Turn uint8_t Query (Option Response)} {s' : System}
    (h : Shows turn s) (hcomm : s'.comm = s.comm)
    (hprocessing : s'.main.m_processing_request = s.main.m_processing_request) : Shows turn s' := by
  cases h with
  | listening reads free idle =>
    exact .listening (hcomm ▸ reads) (hcomm ▸ free) (hprocessing.trans idle)
  | serving received request state idle =>
    exact .serving (hcomm ▸ received) (hcomm ▸ request) (hcomm ▸ state) (hprocessing.trans idle)
  | answering popped part sending busy =>
    exact .answering (hcomm ▸ popped) part (hcomm ▸ sending) (hprocessing.trans busy)

/-- Once the reply is sent, or there is none, the next frame is listened to. -/
theorem shows_finished {s s' : System} (hprocessing : s.main.m_processing_request = true)
    (hfree : s.comm.m_state ≠ .Transmitting)
    (hcomm : s'.comm = (check_finished_sending s.main).m_comm_handler)
    (hmain : s'.main.m_processing_request =
      (check_finished_sending s.main).m_processing_request) : Shows (.listening []) s' := by
  have hsent : (!s.main.m_comm_handler.transmitting) = true := by
    simpa [CommHandler.transmitting, comm] using hfree
  have hnot := check_finished_sending_of_sent hprocessing hfree
  rw [check_finished_sending, if_pos hprocessing, if_pos hsent] at hcomm hmain hnot
  simp only at hcomm hmain hnot
  split at hcomm
  · rename_i hpending
    rw [if_pos hpending] at hmain hnot
    refine .listening ?_ ?_ hmain
    · rw [hcomm]
      exact (represents_reset _ s.main.m_timebase).congr rfl rfl rfl rfl rfl rfl rfl
    · rw [hcomm]
      exact hnot
  · rename_i hpending
    rw [if_neg hpending] at hmain hnot
    refine .listening ?_ ?_ hmain
    · rw [hcomm]
      exact represents_reset _ s.main.m_timebase
    · rw [hcomm]
      exact hnot

theorem end_process_shows {turn : Turn uint8_t Query (Option Response)} (h : Shows turn s)
    (hwaits : check_finished_sending s.main = s.main) : Shows turn (end_process s) := by
  have hmain := end_process_main s
  rw [hwaits] at hmain
  refine h.congr ?_ ?_
  · rw [comm, hmain]
    rfl
  · rw [hmain]

theorem Shows.waits {turn : Turn uint8_t Query (Option Response)} (h : Shows turn s) :
    check_finished_sending s.main = s.main := by
  cases h with
  | listening reads free idle => exact check_finished_sending_idle idle
  | serving received request state idle => exact check_finished_sending_idle idle
  | answering popped part sending busy => exact check_finished_sending_of_answered ⟨busy, sending⟩

/-- A request waits just when a query is there that was not served. -/
theorem Shows.has_request {turn : Turn uint8_t Query (Option Response)} (h : Shows turn s)
    (hrequest : has_request s = true) : ∃ query, turn = .serving query := by
  simp only [MainHandler.has_request, Bool.and_eq_true, Bool.not_eq_true'] at hrequest
  cases h with
  | listening reads free idle => cases hrequest.1.symm.trans reads.request_received
  | serving received request state idle => exact ⟨_, rfl⟩
  | answering popped part sending busy => cases hrequest.2.symm.trans busy

/-- A response that is accepted is being transmitted from its first byte on. -/
theorem finish_request_answers (h : s.main.Ready) (hidle : s.comm.m_state = .Idle)
    {response : Response} (hfinal : final_response s = some response)
    (hfits : response.data_length ≤ s.comm.m_tx_buffer_size) (query : Query) :
    Shows (.answering query (some response) []) (end_process (finish_request s)) := by
  let filled : CommHandler := { s.comm with m_active_response := response }
  have hcomm : (finish_request s).comm = (filled.send_response response).1 := by
    rw [finish_request_some hfinal]
    rfl
  have hbusy : (finish_request s).main.m_processing_request = true := by
    rw [finish_request_some hfinal]
    rfl
  have hready : filled.Ready := ⟨h.comm.enabled, h.comm.tx_buffer_size_le, h.comm.nothing_sent⟩
  have hfree : filled.m_state = .Idle := hidle
  have hroom : response.data_length ≤ filled.m_tx_buffer_size := hfits
  have hnothing : filled.m_nbytes_sent = 0 := by
    apply hready.nothing_sent
    rw [hfree]
    exact State.noConfusion
  have haccepted : (filled.send_response response).2 = true := by
    rw [send_response_accepted hready.enabled hfree hroom]
  obtain ⟨hsending, hframe⟩ := send_response_sending haccepted hready.tx_buffer_size_le hnothing
  have henabled := (hready.send_response response).enabled
  have hshows : Shows (.answering query (some response) []) (finish_request s) := by
    refine .answering ?_ List.nil_prefix ?_ hbusy
    · rw [hcomm]
      exact .transmitting hsending hframe henabled
    · rw [hcomm]
      exact hsending.state
  exact end_process_shows hshows hshows.waits

theorem execute_request_idle (hidle : s.comm.m_state = .Idle) (stack : Stack) :
    (execute_request s stack).comm.m_state = .Idle := by
  rw [execute_request_state]
  split
  · rfl
  · exact hidle

/-- A request to execute again is still there. -/
theorem execute_request_waits (stack : Stack)
    (hrefused : accepts_connect s.comm s.comm.m_active_request = false) :
    (execute_request s stack).comm.request_received = s.comm.request_received ∧
      (execute_request s stack).comm.m_active_request = s.comm.m_active_request := by
  obtain ⟨response, hcomm⟩ := execute_request_comm s stack
  rw [hrefused] at hcomm
  obtain ⟨timestamp, challenge, received, hcomm⟩ := hcomm
  rw [hcomm]
  exact ⟨rfl, rfl⟩

/-- The execution of a query, with what came before in the same call. -/
theorem serving_process (rx_buffer_size : uint16_t) {begun : System} (hready : begun.main.Ready)
    (hroomy : begun.comm.Roomy) (hcallback : RespectsLength begun.main.m_config) {query : Query}
    (h : Shows (.serving query) begun) (stack : Stack) :
    ∃ turn, Path (link rx_buffer_size).Step (.serving query)
        (if executed_code begun stack ≠ some .ProcessAgain ∨
            (final_response (execute_request begun stack)).isSome = true then
          [.served query (final_response (execute_request begun stack))] else []) turn ∧
      Shows turn (end_process (finish_request (execute_request begun stack))) ∧
      Link.taken_part turn = [] := by
  obtain _ | ⟨received, request, state, idle⟩ := h
  have hstate := execute_request_idle state stack
  have hexecuted := execute_request_ready hready stack
  cases hfinal : final_response (execute_request begun stack) with
  | some response =>
    have hresponse := final_response_executed hfinal
    have hfits : response.data_length ≤ (execute_request begun stack).comm.m_tx_buffer_size := by
      rw [hresponse, execute_request_tx_buffer_size]
      exact executed_length_le hroomy hcallback stack
    refine ⟨.answering query (some response) [], ?_, ?_, rfl⟩
    · rw [if_pos (.inr rfl)]
      refine .single (.serve fun r hr => ?_)
      cases hr
      have hsame := executed_same_request begun stack
      rw [hresponse, ← request]
      exact hsame
    · exact finish_request_answers hexecuted hstate hfinal hfits query
  | none =>
    by_cases hcode : executed_code begun stack = some .ProcessAgain
    · obtain ⟨hcomm, hidle⟩ := finish_request_again hcode hfinal
      have hrefused : accepts_connect begun.comm begun.comm.m_active_request = false := by
        by_contra haccepts
        exact executed_code_of_accepts stack (Bool.eq_true_of_not_eq_false haccepts) hcode
      obtain ⟨hwaits, hsame⟩ := execute_request_waits stack hrefused
      refine ⟨.serving query, ?_, ?_, rfl⟩
      · rw [if_neg (by simp [hcode])]
        exact .refl _
      · have hshows : Shows (.serving query) (finish_request (execute_request begun stack)) := by
          refine .serving ?_ ?_ ?_ hidle
          · rw [hcomm, hwaits]
            exact received
          · rw [hcomm, hsame]
            exact request
          · rw [hcomm]
            exact hstate
        exact end_process_shows hshows hshows.waits
    · have hprocessing := finish_request_processing
        (s := execute_request begun stack) (.inl hcode)
      have hfree : (finish_request (execute_request begun stack)).comm.m_state ≠
          .Transmitting := by
        obtain ⟨timestamp, processing, taken, hfinish⟩ := finish_request_none hfinal
        rw [hfinish]
        change (execute_request begun stack).comm.m_state ≠ .Transmitting
        rw [hstate]
        exact State.noConfusion
      refine ⟨.listening [], ?_, ?_, rfl⟩
      · rw [if_pos (.inl hcode)]
        have hserve : (link rx_buffer_size).Step (.serving query) [.served query none]
            (.answering query none []) := .serve nofun
        have hfinish : (link rx_buffer_size).Step (.answering query none []) []
            (.listening []) := .finish query none
        exact (Path.single hserve).trans (Path.single hfinish)
      · refine shows_finished hprocessing hfree (end_process_comm _) ?_
        rw [end_process_main]

theorem Talks.process (h : Talks rx_buffer_size s) {turn : Turn uint8_t Query (Option Response)}
    (hshows : Shows turn s) {timestep_100ns : timediff_t} {stack : Stack}
    (hexpires : ¬Expires s (.process timestep_100ns stack)) :
    ∃ turn', Path (link rx_buffer_size).Step turn (actions s (.process timestep_100ns stack))
        turn' ∧ Shows turn' (System.step s (.process timestep_100ns stack)) ∧
      Link.taken_part turn' = Link.taken_part turn := by
  let begun := begin_process s timestep_100ns
  have hcomm : begun.comm = s.comm :=
    (begin_process_session s timestep_100ns stack).resolve_right fun hexpired =>
      hexpires hexpired.1
  have hbegun : Shows turn begun := hshows.congr hcomm (begin_process_processing s timestep_100ns)
  have hstep : System.step s (.process timestep_100ns stack) =
      end_process (serve_request begun stack) := process_eq h.ready.enabled timestep_100ns stack
  by_cases hrequest : has_request begun = true
  · obtain ⟨query, rfl⟩ := hbegun.has_request hrequest
    have hconfig : begun.main.m_config = s.main.m_config := by
      simp only [begun]
      rw [begin_process_main]
    have hroomy : begun.comm.Roomy := by
      rw [hcomm]
      exact h.roomy
    obtain ⟨turn, hpath, hafter, htaken⟩ := serving_process rx_buffer_size
      (begin_process_ready h.ready timestep_100ns) hroomy (hconfig ▸ h.callback) hbegun stack
    have hserved : serve_request begun stack = finish_request (execute_request begun stack) :=
      if_pos hrequest
    have hanswer : answer s timestep_100ns stack =
        final_response (execute_request begun stack) := if_pos hrequest
    have hquery : s.comm.m_active_request.query = query := by
      cases hshows with
      | serving received request state idle => exact request
    have hactions : actions s (.process timestep_100ns stack) =
        if executed_code begun stack ≠ some .ProcessAgain ∨
            (final_response (execute_request begun stack)).isSome = true then
          [.served query (final_response (execute_request begun stack))] else [] := by
      simp only [actions, Concludes, hanswer, hquery]
      exact if_congr (and_iff_right hrequest) rfl rfl
    rw [hstep, hserved, hactions]
    exact ⟨turn, hpath, hafter, htaken⟩
  · have hserved : serve_request begun stack = begun := if_neg hrequest
    have hactions : actions s (.process timestep_100ns stack) = [] :=
      if_neg fun hconcludes => hrequest hconcludes.1
    rw [hstep, hserved, hactions]
    exact ⟨turn, .refl turn, end_process_shows hbegun hbegun.waits, rfl⟩

omit [Platform] in
/-- The next bytes of a frame go on from those that were given. -/
theorem given_prefix {frame given : List uint8_t} (h : given <+: frame) (n : Nat) :
    given ++ (frame.drop given.length).take n <+: frame := by
  obtain ⟨rest, rfl⟩ := h
  rw [List.drop_left, List.prefix_append_right_inj]
  exact List.take_prefix n rest

theorem Shows.pop_data (rx_buffer_size : uint16_t) {turn : Turn uint8_t Query (Option Response)}
    (hshows : Shows turn s) (len : uint16_t) :
    ∃ turn', Path (link rx_buffer_size).Step turn (actions s (.pop_data len)) turn' ∧
      Shows turn' (System.step s (.pop_data len)) ∧
      Link.taken_part turn' = Link.taken_part turn := by
  let popped := s.set_comm (s.comm.pop_data s.main.m_timebase len).1
  have hstep : System.step s (.pop_data len) =
      { popped with main := popped.main.check_finished_sending } := rfl
  have hactions : actions s (.pop_data len) =
      (s.comm.pop_data s.main.m_timebase len).2.map .gave := rfl
  have hkept {turn : Turn uint8_t Query (Option Response)} (h : Shows turn popped) :
      Shows turn (System.step s (.pop_data len)) := by
    rw [hstep, h.waits]
    exact h
  have hnothing (hfree : s.comm.m_state ≠ .Transmitting) :
      s.comm.pop_data s.main.m_timebase len = (s.comm, []) := by
    rw [CommHandler.pop_data, if_pos hfree]
  cases hshows with
  | listening reads free idle =>
    have hsame := hnothing free
    have hpopped : popped.comm = s.comm := congrArg Prod.fst hsame
    rw [hactions, hsame]
    exact ⟨_, .refl _, hkept (Shows.congr (.listening reads free idle) hpopped rfl), rfl⟩
  | serving received request state idle =>
    have hsame := hnothing (by rw [state]; exact State.noConfusion)
    have hpopped : popped.comm = s.comm := congrArg Prod.fst hsame
    rw [hactions, hsame]
    exact ⟨_, .refl _, hkept (Shows.congr (.serving received request state idle) hpopped rfl), rfl⟩
  | @answering _ query response given hsent part sending busy =>
    obtain ⟨hbytes, hafter⟩ := hsent.pop_data s.main.m_timebase len
    have hpart := given_prefix part len.toNat
    rw [← hbytes] at hpart
    have hgive : Path (link rx_buffer_size).Step (.answering query (some response) given)
        (actions s (.pop_data len)) (.answering query (some response)
          (given ++ (s.comm.pop_data s.main.m_timebase len).2)) := .single (.give _ _ _ _)
    by_cases hend : given.length + (s.comm.pop_data s.main.m_timebase len).2.length =
        (response_frame response).length
    · have hall : given ++ (s.comm.pop_data s.main.m_timebase len).2 =
          response_frame response := by
        apply hpart.eq_of_length
        rw [List.length_append, hend]
      have hfinish : (link rx_buffer_size).Step
          (.answering query (some response) (response_frame response)) [] (.listening []) :=
        .finish query (some response)
      rw [hall] at hgive
      have hpath := hgive.trans (.single hfinish)
      rw [List.append_nil] at hpath
      have hfree : popped.comm.m_state ≠ .Transmitting := by
        have hidle : popped.comm.m_state = .Idle := (hafter.receptive hend).idle
        rw [hidle]
        exact State.noConfusion
      exact ⟨.listening [], hpath, shows_finished (s := popped) busy hfree rfl rfl, rfl⟩
    · rw [← List.length_append] at hafter
      have hsending := (hafter.unfinished (by rw [List.length_append]; exact hend)).1
      exact ⟨_, hgive, hkept (.answering hafter hpart hsending busy), rfl⟩

end System

end

end scrutiny
