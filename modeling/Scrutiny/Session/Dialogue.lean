import Scrutiny.Host
import Scrutiny.Session.Turns

open foundation

namespace scrutiny

open protocol protocol.CommHandler

section

variable [Platform]

namespace System

open MainHandler

variable {rx_buffer_size : uint16_t} {s : System}

/-- What the client sent starts the queries that are left, and the frame under way is not whole. -/
structure Awaits (turn : Turn uint8_t Query (Option Response)) (queries : List Query)
    (bytes : List uint8_t) : Prop where
  sent : Link.taken_part turn ++ bytes <+: queries.flatMap Query.frame
  part : ∀ query, queries.head? = some query →
    (Link.taken_part turn).length < query.frame.length

omit [Platform] in
theorem Awaits.congr {turn turn' : Turn uint8_t Query (Option Response)} {queries : List Query}
    {bytes : List uint8_t} (h : Awaits turn queries bytes)
    (htaken : Link.taken_part turn' = Link.taken_part turn) : Awaits turn' queries bytes := by
  refine ⟨?_, ?_⟩
  · rw [htaken]
    exact h.sent
  · rw [htaken]
    exact h.part

/-- Nothing comes in with no bytes. -/
theorem receive_nothing (h : s.main.Ready) (data : ByteBuffer) :
    System.step s (.receive_data data 0) = s := by
  have henabled : s.comm.m_enabled = true := h.comm.enabled
  have hsame : s.comm.receive_data s.main.m_timebase data 0 = s.comm := by
    rw [CommHandler.receive_data, if_neg (by rw [henabled]; decide)]
    split
    · rfl
    · rfl
  change s.set_comm (s.comm.receive_data s.main.m_timebase data 0) = s
  rw [hsame]
  rfl

/-- A chunk comes in when a part of the frame of a query was taken. -/
structure TakesChunk (s : System) (taken : List uint8_t) (query : Query) (len : uint16_t) :
    Prop where
  enabled : s.comm.m_enabled = true
  reads : Represents s.comm (.reading .None taken)
  free : s.comm.m_state ≠ .Transmitting
  in_time : taken = [] ∨ s.main.m_timebase.has_expired s.comm.m_last_rx_timestamp
    (Platform.comm_rx_timeout_us * 10) = false
  fits : query.Fits s.comm.m_rx_buffer_size
  part : taken.length < query.frame.length
  leading : taken <+: query.frame
  let_in : s.comm.is_connected = true ∨ query.Opening
  some_byte : len ≠ 0

namespace TakesChunk

variable {taken : List uint8_t} {query : Query} {len : uint16_t} {data : ByteBuffer}

theorem represents (h : TakesChunk s taken query len) (data : ByteBuffer) :
    Represents (s.comm.receive_data s.main.m_timebase data len)
      (Parser.empty.parse s.comm.gate (taken ++ data.slice 0 len.toNat)) :=
  h.reads.receive_part h.enabled h.free h.fits h.in_time data h.some_byte h.part h.leading

theorem received_of_whole (h : TakesChunk s taken query len)
    (hwhole : query.frame <+: taken ++ data.slice 0 len.toNat) :
    (s.comm.receive_data s.main.m_timebase data len).request_received = true := by
  obtain ⟨extra, hextra⟩ := hwhole
  have hafter := h.represents data
  have haccepted : (Parser.empty.parse s.comm.gate query.frame).accepted = true :=
    Parser.parse_frame h.fits h.let_in
  rw [← hextra, Parser.parse_append, Parser.parse_ended _ (.inl haccepted)] at hafter
  exact hafter.request_received.trans haccepted

/-- A chunk brings no byte past the end of the frame. -/
theorem ends_frame (h : TakesChunk s taken query len)
    (hbefore : (s.comm.receive_data s.main.m_timebase data (len - 1)).request_received = false)
    (hwhole : query.frame <+: taken ++ data.slice 0 len.toNat) :
    taken ++ data.slice 0 len.toNat = query.frame := by
  have hpos : 0 < len.toNat :=
    Nat.pos_of_ne_zero fun hzero => h.some_byte (BitVec.eq_of_toNat_eq hzero)
  have hless : (len - 1).toNat = len.toNat - 1 := by bv_omega
  obtain ⟨extra, hextra⟩ := hwhole
  rcases List.eq_nil_or_concat extra with rfl | ⟨first, last, rfl⟩
  · rw [List.append_nil] at hextra
    exact hextra.symm
  · -- all the frame is there before the last byte
    have hsplit : data.slice 0 len.toNat = data.slice 0 (len - 1).toNat ++
        [data (len - 1).toNat] := by
      have hslice := data.slice_add 0 (len - 1).toNat 1
      rw [hless, Nat.sub_add_cancel hpos, Nat.zero_add, Buffer.slice_succ,
        Buffer.slice_zero] at hslice
      rw [hless]
      exact hslice
    have hframe : query.frame ++ first = taken ++ data.slice 0 (len - 1).toNat := by
      rw [hsplit, List.concat_eq_append, ← List.append_assoc, ← List.append_assoc] at hextra
      exact (List.append_inj' hextra rfl).1
    have hsome : len - 1 ≠ 0 := by
      intro hzero
      have hlength := congrArg List.length hframe
      have hnone : (0 : uint16_t).toNat = 0 := rfl
      have hpart := h.part
      rw [hzero, hnone, Buffer.slice_zero, List.append_nil, List.length_append] at hlength
      omega
    have hreceived := received_of_whole { h with some_byte := hsome } ⟨first, hframe⟩
    cases hbefore.symm.trans hreceived

end TakesChunk

/-- The target reads the frame of the first query that is left. -/
theorem Talks.takes_chunk (h : Talks rx_buffer_size s) {taken : List uint8_t}
    (hreads : Represents s.comm (.reading .None taken)) {queries : List Query}
    (hqueries : ∀ query ∈ queries, query.Fits rx_buffer_size) {data : ByteBuffer} {len : uint16_t}
    (hlen : len ≠ 0) (hturn : InTurn queries s (.receive_data data len)) {rest : List uint8_t}
    (hawaits : Awaits (.listening taken) queries (data.slice 0 len.toNat ++ rest)) :
    ∃ query others, queries = query :: others ∧ TakesChunk s taken query len ∧
      (taken ++ data.slice 0 len.toNat) ++ rest <+:
        query.frame ++ others.flatMap Query.frame := by
  obtain ⟨hfree, -, hintime, -, hgate⟩ := hturn hlen
  have hpos : 0 < len.toNat := Nat.pos_of_ne_zero fun hzero => hlen (BitVec.eq_of_toNat_eq hzero)
  have hbytes : data.slice 0 len.toNat ≠ [] :=
    List.ne_nil_of_length_pos (by rw [Buffer.length_slice]; exact hpos)
  have hsent : (taken ++ data.slice 0 len.toNat) ++ rest <+: queries.flatMap Query.frame := by
    rw [List.append_assoc]
    exact hawaits.sent
  cases queries with
  | nil =>
    have hnone := List.prefix_nil.mp hsent
    simp only [List.append_eq_nil_iff] at hnone
    exact absurd hnone.1.2 hbytes
  | cons query others =>
    have hpart : taken.length < query.frame.length := hawaits.part query rfl
    rw [List.flatMap_cons] at hsent
    have hfirst : taken <+: query.frame ++ others.flatMap Query.frame :=
      ((List.prefix_append _ _).trans (List.prefix_append _ _)).trans hsent
    refine ⟨query, others, rfl, ⟨h.ready.comm.enabled, hreads, hfree, ?_, ?_, hpart, ?_, ?_, hlen⟩,
      hsent⟩
    · by_cases hempty : taken = []
      · exact .inl hempty
      · refine .inr (hintime fun hstate => hempty ?_)
        rw [hreads.rx_state] at hstate
        exact (Parser.nothing_received hstate).1
    · rw [h.rx_buffer_size]
      exact hqueries query List.mem_cons_self
    · exact List.prefix_of_prefix_length_le hfirst (List.prefix_append _ _) hpart.le
    · exact hgate.imp_right fun hfirst => hfirst query rfl

theorem Talks.receive_data (h : Talks rx_buffer_size s)
    {turn : Turn uint8_t Query (Option Response)} (hshows : Shows turn s) {queries : List Query}
    (hqueries : ∀ query ∈ queries, query.Fits rx_buffer_size) {data : ByteBuffer} {len : uint16_t}
    (hturn : InTurn queries s (.receive_data data len)) {rest : List uint8_t}
    (hawaits : Awaits turn queries (data.slice 0 len.toNat ++ rest)) :
    ∃ turn', Path (link rx_buffer_size).Step turn (actions s (.receive_data data len)) turn' ∧
      Shows turn' (System.step s (.receive_data data len)) ∧
      Awaits turn' (left queries s (.receive_data data len)) rest := by
  have hreceives : (System.step s (.receive_data data len)).comm =
      s.comm.receive_data s.main.m_timebase data len := rfl
  by_cases hlen : len = 0
  · subst hlen
    have hnone : left queries s (.receive_data data 0) = queries := by
      refine if_neg fun hnew => ?_
      rw [← hreceives, receive_nothing h.ready] at hnew
      cases hnew.1.symm.trans hnew.2
    rw [receive_nothing h.ready, hnone]
    exact ⟨turn, .refl turn, hshows, hawaits⟩
  obtain ⟨hfree, hwaiting, -, hbefore, -⟩ := hturn hlen
  obtain ⟨taken, rfl⟩ : ∃ taken, turn = .listening taken := by
    cases hshows with
    | listening reads free idle => exact ⟨_, rfl⟩
    | serving received request state idle => cases hwaiting.symm.trans received
    | answering popped part sending busy => exact absurd sending hfree
  obtain ⟨reads, free, idle⟩ := hshows
  obtain ⟨query, others, rfl, htakes, hsent⟩ := h.takes_chunk reads hqueries hlen hturn hawaits
  have hafter := htakes.represents data
  have htotal := (List.prefix_append _ _).trans hsent
  have htake : (link rx_buffer_size).Step (.listening taken)
      ((data.slice 0 len.toNat).map .took) (.listening (taken ++ data.slice 0 len.toNat)) :=
    .take taken _
  by_cases hmore : (taken ++ data.slice 0 len.toNat).length < query.frame.length
  · have hleading := List.prefix_of_prefix_length_le htotal (List.prefix_append _ _) hmore.le
    rw [Parser.parse_part htakes.fits hleading hmore] at hafter
    have hnone : left (query :: others) s (.receive_data data len) = query :: others := by
      refine if_neg fun hnew => ?_
      cases hafter.request_received.symm.trans hnew.2
    have hkept := receive_data_frame s.comm s.main.m_timebase data len
    rw [hnone]
    refine ⟨.listening (taken ++ data.slice 0 len.toNat), .single htake,
      .listening hafter (hkept.not_transmitting hfree) idle, hsent, ?_⟩
    intro first hfirst
    cases hfirst
    exact hmore
  · have hwhole : query.frame <+: taken ++ data.slice 0 len.toNat :=
      List.prefix_of_prefix_length_le (List.prefix_append _ _) htotal (Nat.le_of_not_lt hmore)
    rw [htakes.ends_frame hbefore hwhole] at hafter hsent htake
    obtain ⟨hreceived, hquery⟩ := hafter.query htakes.fits htakes.let_in
    have hidle : (s.comm.receive_data s.main.m_timebase data len).m_state = .Idle :=
      receive_data_rests hwaiting s.main.m_timebase data len hreceived
    have hhear : (link rx_buffer_size).Step (.listening query.frame) [] (.serving query) :=
      .hear (hqueries query List.mem_cons_self)
    have hpath := (Path.single htake).trans (.single hhear)
    have hone : left (query :: others) s (.receive_data data len) = others :=
      if_pos ⟨hwaiting, hreceived⟩
    rw [List.append_nil] at hpath
    rw [hone]
    refine ⟨.serving query, hpath, .serving hreceived hquery hidle idle, ?_, fun first _ => ?_⟩
    · rw [List.prefix_append_right_inj] at hsent
      exact hsent
    · exact List.length_pos_of_ne_nil first.frame_ne_nil

theorem Talks.exchange (h : Talks rx_buffer_size s) {turn : Turn uint8_t Query (Option Response)}
    (hshows : Shows turn s) {queries : List Query}
    (hqueries : ∀ query ∈ queries, query.Fits rx_buffer_size) {e : Event}
    (hturn : InTurn queries s e) {rest : List uint8_t}
    (hawaits : Awaits turn queries (e.bytes ++ rest)) :
    ∃ turn', Path (link rx_buffer_size).Step turn (actions s e) turn' ∧
      Shows turn' (System.step s e) ∧ Awaits turn' (left queries s e) rest := by
  cases e with
  | receive_data data len => exact h.receive_data hshows hqueries hturn hawaits
  | pop_data len =>
    obtain ⟨turn', hpath, hafter, htaken⟩ := hshows.pop_data rx_buffer_size len
    exact ⟨turn', hpath, hafter, hawaits.congr htaken⟩
  | process timestep_100ns stack =>
    obtain ⟨turn', hpath, hafter, htaken⟩ := h.process hshows hturn
    exact ⟨turn', hpath, hafter, hawaits.congr htaken⟩
  | loop_process id timestep_100ns =>
    obtain ⟨m_datalogging, hmain⟩ := loop_process_main s id timestep_100ns
    have hafter : Shows turn (System.step s (.loop_process id timestep_100ns)) := by
      refine hshows.congr ?_ ?_
      · rw [comm, hmain]
        rfl
      · rw [hmain]
    exact ⟨turn, .refl turn, hafter, hawaits⟩
  | application bytes => exact ⟨turn, .refl turn, hshows.congr rfl rfl, hawaits⟩

theorem left_subset {queries : List Query} {e : Event} {query : Query}
    (hmem : query ∈ left queries s e) : query ∈ queries := by
  cases e with
  | receive_data data len =>
    rw [left] at hmem
    split at hmem
    · exact List.mem_of_mem_tail hmem
    · exact hmem
  | pop_data len => exact hmem
  | process timestep_100ns stack => exact hmem
  | loop_process id timestep_100ns => exact hmem
  | application bytes => exact hmem

/-- A run in turn is a path of the link. -/
theorem Talks.run (h : Talks rx_buffer_size s) {turn : Turn uint8_t Query (Option Response)}
    (hshows : Shows turn s) {queries : List Query}
    (hqueries : ∀ query ∈ queries, query.Fits rx_buffer_size) {events : List Event}
    (hturn : KeepsTurn queries s events)
    (hawaits : Awaits turn queries (events.flatMap Event.bytes)) :
    ∃ turn', Path (link rx_buffer_size).Step turn (trace System.step actions s events) turn' ∧
      Shows turn' (foundation.run System.step s events) := by
  induction events generalizing s turn queries with
  | nil => exact ⟨turn, .refl turn, hshows⟩
  | cons e events ih =>
    rw [List.flatMap_cons] at hawaits
    obtain ⟨next, hpath, hafter, hlater⟩ := h.exchange hshows hqueries hturn.1 hawaits
    obtain ⟨turn', hrest, hlast⟩ := ih (h.step e) hafter
      (fun query hquery => hqueries query (left_subset hquery)) hturn.2 hlater
    exact ⟨turn', hpath.trans hrest, hlast⟩

/-- The reception of a frame, or of a part of it. -/
def Reads (comm : CommHandler) : Prop := ∃ parser, Represents comm parser

theorem Reads.call {comm : CommHandler} (h : Reads comm) (timebase : Timebase) (c : Call) :
    Reads (comm.call (timebase, c)) := by
  obtain ⟨parser, hparser⟩ := h
  exact call_represents hparser timebase c

theorem check_finished_sending_reads {self : MainHandler} (h : Reads self.m_comm_handler) :
    Reads self.check_finished_sending.m_comm_handler := by
  unfold check_finished_sending
  split
  · split
    · have hwaits := h.call self.m_timebase .wait_next_request
      simp only
      split
      · exact hwaits.call self.m_timebase .disconnect
      · exact hwaits
    · exact h
  · exact h

omit [Platform] in
theorem Reads.active_response {comm : CommHandler} (h : Reads comm) (response : Response) :
    Reads { comm with m_active_response := response } := by
  obtain ⟨parser, hparser⟩ := h
  exact ⟨parser, hparser.congr rfl rfl rfl rfl rfl rfl rfl⟩

theorem serve_request_reads (h : Reads s.comm) (stack : Stack) :
    Reads (serve_request s stack).comm := by
  have hexecuted : Reads (execute_request s stack).comm := by
    obtain ⟨response, hcomm⟩ := execute_request_comm s stack
    split at hcomm
    · rw [hcomm]
      exact (h.call s.main.m_timebase .connect).active_response response
    · obtain ⟨timestamp, challenge, received, hcomm⟩ := hcomm
      obtain ⟨parser, hparser⟩ := h
      rw [hcomm]
      exact ⟨parser, hparser.congr rfl rfl rfl rfl rfl rfl rfl⟩
  unfold serve_request
  split
  · cases hfinal : final_response (execute_request s stack) with
    | none =>
      obtain ⟨timestamp, processing, taken, hfinish⟩ := finish_request_none hfinal
      rw [hfinish]
      exact hexecuted
    | some response =>
      rw [finish_request_some hfinal]
      exact (hexecuted.active_response response).call s.main.m_timebase (.send_response response)
  · exact h

theorem step_reads (h : s.main.Ready) (hreads : Reads s.comm) (e : Event) :
    Reads (System.step s e).comm := by
  cases e with
  | receive_data data len => exact hreads.call s.main.m_timebase (.receive_data data len)
  | pop_data len =>
    let popped := s.set_comm (s.comm.pop_data s.main.m_timebase len).1
    have hpopped : Reads popped.main.m_comm_handler :=
      hreads.call s.main.m_timebase (.pop_data len)
    exact check_finished_sending_reads hpopped
  | process timestep_100ns stack =>
    have hbegun : Reads (begin_process s timestep_100ns).comm := by
      rw [comm, begin_process_main]
      exact hreads.call _ .process
    rw [step, process_eq h.enabled, end_process_comm]
    exact check_finished_sending_reads (serve_request_reads hbegun stack)
  | loop_process id timestep_100ns =>
    obtain ⟨m_datalogging, hmain⟩ := loop_process_main s id timestep_100ns
    rw [comm, hmain]
    exact hreads
  | application bytes => exact hreads

theorem initial_reads (hinitial : Initial s) : Reads s.comm := by
  have hready := initial_ready hinitial
  obtain ⟨before, m_config, hinit⟩ := hinitial
  unfold MainHandler.init at hinit
  simp only at hinit
  split at hinit
  · simp at hinit
  · split at hinit
    · simp at hinit
    · rename_i henabled
      simp only [Prod.mk.injEq, true_and] at hinit
      subst hinit
      have henabled := Bool.eq_true_of_not_eq_false henabled
      rw [CommHandler.init, is_enabled, reset_enabled] at henabled
      exact ⟨_, represents_reset_all henabled _⟩

theorem run_reads (h : s.main.Ready) (hreads : Reads s.comm) (events : List Event) :
    (foundation.run System.step s events).main.Ready ∧
      Reads (foundation.run System.step s events).comm := by
  have hstep (s : System) (e : Event) (h : s.main.Ready ∧ Reads s.comm) :
      (System.step s e).main.Ready ∧ Reads (System.step s e).comm :=
    ⟨step_ready h.1 e, step_reads h.1 h.2 e⟩
  exact (always_of_step hstep ⟨h, hreads⟩ events).last

theorem Reachable.reads (h : Reachable s) : s.main.Ready ∧ Reads s.comm := by
  obtain ⟨start, events, hinitial, rfl⟩ := h
  exact run_reads (initial_ready hinitial) (initial_reads hinitial) events

/-- Between two exchanges, the next frame is listened to from its first byte. -/
theorem Available.shows (h : Available s) (hreads : Reads s.comm) : Shows (.listening []) s := by
  obtain ⟨⟨received, rx_error, stopped, accepted⟩, hparser⟩ := hreads
  obtain rfl : rx_error = .None := hparser.rx_error.symm.trans h.rx_error
  have hstate := hparser.rx_state.symm.trans h.rx_state
  obtain ⟨rfl, rfl, rfl⟩ := Parser.nothing_received hstate
  exact .listening hparser h.free h.idle

theorem Shows.available {turn : Turn uint8_t Query (Option Response)} (h : Shows turn s)
    (hreads : Reads s.comm) (havailable : Available s) : turn = .listening [] := by
  cases h with
  | @listening _ taken reads free idle =>
    have hstate := reads.rx_state.symm.trans havailable.rx_state
    obtain ⟨hempty, -, -⟩ := Parser.nothing_received hstate
    exact congrArg Turn.listening hempty
  | serving received request state idle =>
    obtain ⟨parser, hparser⟩ := hreads
    have haccepted : parser.accepted = true := hparser.request_received.symm.trans received
    have hstate := hparser.rx_state.symm.trans havailable.rx_state
    rw [Parser.rx_state, if_pos haccepted] at hstate
    cases hstate
  | answering popped part sending busy => exact absurd sending havailable.free

theorem taken_actions (s : System) (e : Event) :
    (actions s e).filterMap Action.taken = e.bytes := by
  cases e with
  | receive_data data len => exact Action.filterMap_taken_took _
  | pop_data len =>
    rw [actions, List.filterMap_map]
    exact List.filterMap_eq_nil_iff.mpr fun _ _ => rfl
  | process timestep_100ns stack =>
    rw [actions]
    split
    · rfl
    · rfl
  | loop_process id timestep_100ns => rfl
  | application bytes => rfl

theorem taken_trace (s : System) (events : List Event) :
    (trace System.step actions s events).filterMap Action.taken = events.flatMap Event.bytes := by
  induction events generalizing s with
  | nil => rfl
  | cons e events ih =>
    rw [trace, List.filterMap_append, taken_actions, ih, List.flatMap_cons]

/-- However the bytes are cut, and whatever else happens in between, the target and a client that
takes its turn have a dialogue: every query is answered once, whole and in order, before the
next one is listened to. -/
theorem dialogue_exact (hreachable : Reachable s) (hcallback : RespectsLength s.main.m_config)
    (havailable : Available s) {queries : List Query}
    (hfits : ∀ query ∈ queries, query.Fits s.comm.m_rx_buffer_size) {events : List Event}
    (hsent : events.flatMap Event.bytes <+: queries.flatMap Query.frame)
    (hturn : KeepsTurn queries s events) :
    ∃ (exchanges : List (Query × Option Response)) (turn : Turn uint8_t Query (Option Response)),
      trace System.step actions s events = (link s.comm.m_rx_buffer_size).dialogue exchanges ++
          (link s.comm.m_rx_buffer_size).begun turn ∧
        (∀ served ∈ exchanges, (link s.comm.m_rx_buffer_size).Answers served.1 served.2) ∧
        exchanges.map Prod.fst ++ Link.current turn <+: queries ∧
        Shows turn (foundation.run System.step s events) ∧
        (Available (foundation.run System.step s events) → turn = .listening [] ∧
          (events.flatMap Event.bytes = queries.flatMap Query.frame →
            exchanges.map Prod.fst = queries)) := by
  obtain ⟨hready, hreads⟩ := hreachable.reads
  have htalks : Talks s.comm.m_rx_buffer_size s :=
    ⟨hready, hreachable.roomy hcallback, hcallback, rfl⟩
  have hawaits : Awaits (.listening []) queries (events.flatMap Event.bytes) :=
    ⟨hsent, fun query _ => List.length_pos_of_ne_nil query.frame_ne_nil⟩
  obtain ⟨turn, hpath, hshows⟩ := htalks.run (havailable.shows hreads) hfits hturn hawaits
  obtain ⟨hsound, exchanges, hexchanges, hdone⟩ := Link.Path.exchanges hpath trivial
  have htrace : trace System.step actions s events =
      (link s.comm.m_rx_buffer_size).dialogue exchanges ++
        (link s.comm.m_rx_buffer_size).begun turn := hdone
  have htaken := congrArg (List.filterMap Action.taken) htrace
  rw [taken_trace, List.filterMap_append, Link.taken_dialogue, Link.taken_begun,
    ← List.append_assoc, ← List.flatMap_append] at htaken
  have hleading : exchanges.map Prod.fst ++ Link.current turn <+: queries := by
    rw [htaken] at hsent
    refine Link.prefix_of_frames (link s.comm.m_rx_buffer_size) ?_ Query.frame_ne_nil ?_ hfits
      hsent
    · intro query query' hquery hquery' rest rest' hsame
      exact Query.eq_of_frame (Query.length_lt hquery) (Query.length_lt hquery') hsame
    · intro query hquery
      rcases List.mem_append.mp hquery with hbefore | hcurrent
      · obtain ⟨served, hserved, rfl⟩ := List.mem_map.mp hbefore
        exact (hexchanges served hserved).1
      · cases turn with
        | listening taken => cases hcurrent
        | serving _ =>
          rw [List.mem_singleton.mp hcurrent]
          exact hsound
        | answering _ _ _ =>
          rw [List.mem_singleton.mp hcurrent]
          exact hsound.1
  refine ⟨exchanges, turn, htrace, fun served hserved => (hexchanges served hserved).2, hleading,
    hshows, fun hlast => ?_⟩
  obtain rfl := hshows.available (run_reads hready hreads events).2 hlast
  refine ⟨rfl, fun hall => ?_⟩
  simp only [Link.current, Link.taken_part, List.append_nil] at htaken hleading
  exact Link.all_of_frames (link s.comm.m_rx_buffer_size) Query.frame_ne_nil hleading
    (htaken.symm.trans hall)

end System

end

section

attribute [local instance] host.platform

/-- A client connects, then asks for the version and for the parameters. -/
def connect_then_ask : List Query :=
  [⟨2, 4, CommControl.CONNECT_MAGIC⟩, ⟨1, 1, []⟩, ⟨2, 3, []⟩]

/-- Frames and replies in pieces, with calls in between. -/
def in_pieces : List Event :=
  [host.receive ((host.frame 2 4 CommControl.CONNECT_MAGIC).take 6), .process 10 host.stack,
    host.receive ((host.frame 2 4 CommControl.CONNECT_MAGIC).drop 6), .process 10 host.stack,
    .pop_data 0xFFFF, host.receive ((host.frame 1 1 []).take 3), .loop_process 0 10,
    .process 10 host.stack, host.receive ((host.frame 1 1 []).drop 3), .process 10 host.stack,
    .pop_data 2, .process 10 host.stack, .pop_data 0xFFFF, host.receive (host.frame 2 3 []),
    .pop_data 1, .process 10 host.stack, .pop_data 0xFFFF]

theorem start_reachable : System.Reachable host.start := host.reachable_run []

theorem start_respects_length : MainHandler.RespectsLength host.start.main.m_config := by
  have hnone : host.start.main.m_config.m_user_command_callback.isNone = true := by decide +kernel
  intro callback hcallback
  rw [hcallback] at hnone
  cases hnone

/-- From no session on. -/
theorem dialogue_in_pieces :
    host.start.comm.is_connected = false ∧ ∃ exchanges : List (Query × Option Response),
      trace System.step System.actions host.start in_pieces =
        (System.link host.start.comm.m_rx_buffer_size).dialogue exchanges ∧
      exchanges.map Prod.fst = connect_then_ask := by
  have hfits : ∀ query ∈ connect_then_ask, query.Fits host.start.comm.m_rx_buffer_size := by
    decide +kernel
  have hturn : System.KeepsTurn connect_then_ask host.start in_pieces := by
    decide +kernel
  have hbytes : in_pieces.flatMap Event.bytes = connect_then_ask.flatMap Query.frame := by
    decide +kernel
  obtain ⟨exchanges, turn, htrace, -, -, -, hlast⟩ := System.dialogue_exact
    start_reachable start_respects_length (by decide +kernel) hfits
    (hbytes ▸ List.prefix_rfl) hturn
  obtain ⟨rfl, hqueries⟩ := hlast (by decide +kernel)
  refine ⟨by decide +kernel, exchanges, ?_, hqueries hbytes⟩
  rw [htrace, Link.begun, List.map_nil, List.append_nil]

end

end scrutiny
