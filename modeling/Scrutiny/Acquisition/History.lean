import Scrutiny.Acquisition.Recording

open foundation

namespace scrutiny

open datalogging protocol

section

variable [Platform]

namespace System

open MainHandler LoopHandler DataLogger RawFormatEncoder

/-- The samples that the datalogger acquires in a call. -/
def acquires (s : System) : Event → List Sample
  | .loop_process id timestep_100ns =>
    if id < s.loop_count then
      let s := informed s id timestep_100ns
      if owns_datalogger id s.datalogger && s.datalogger.acquiring then
        [s.datalogger.sample (timebases s) s.memory]
      else []
    else []
  | .receive_data _ _ | .pop_data _ | .process _ _ | .application _ => []

variable {s : System} {config : Configuration} {max : Nat} {samples : List Sample}

/-- A loop that owns the datalogger records a sample when it runs it. -/
theorem process_common_recorded (hpos : 0 < config.decimation.toNat)
    (h : Recorded s.main.m_config config max samples s.datalogger) {id : LoopId}
    (hid : id < s.loop_count) (timestep_100ns : timediff_t) :
    Recorded s.main.m_config config max
      (samples ++ s.acquires (.loop_process id timestep_100ns))
      (process_common s id timestep_100ns).datalogger := by
  have hinformed := h.kept (informed_kept s id timestep_100ns)
  have hdatalogger := congrArg Datalogging.datalogger
    (run_datalogger_datalogging (informed s id timestep_100ns) id)
  change (process_common s id timestep_100ns).datalogger = _ at hdatalogger
  rw [hdatalogger, acquires, if_pos hid]
  cases howns : owns_datalogger id (informed s id timestep_100ns).datalogger with
  | false =>
    simp only [howns, Bool.false_and, Bool.false_eq_true, if_false, List.append_nil]
    exact hinformed
  | true =>
    simp only [howns, Bool.true_and, if_true]
    exact hinformed.process hpos _ _

/-- A call records what it acquires, unless it configures the datalogger anew. -/
theorem step_recorded (hready : s.main.Ready) (hpos : 0 < config.decimation.toNat)
    (h : Recorded s.main.m_config config max samples s.datalogger) {e : Event}
    (hkept : ¬Configures s e) :
    Recorded (step s e).main.m_config config max (samples ++ s.acquires e)
      (step s e).datalogger := by
  have hexchanges := kept_exchanges s.datalogger
  have hrefl := Retained.refl s.datalogger
  rw [step_config]
  cases e with
  | receive_data data len =>
    rw [acquires, List.append_nil]
    exact h
  | pop_data len =>
    rw [acquires, List.append_nil]
    exact h.kept (hexchanges.pop_data hrefl len)
  | process timestep_100ns stack =>
    rw [acquires, List.append_nil, step, process_eq hready.enabled]
    have hbegun := hexchanges.begin_process hrefl timestep_100ns
    exact h.kept (hexchanges.end_process (hbegun.trans (serve_request_kept hkept)))
  | loop_process id timestep_100ns =>
    rw [step]
    split
    · rename_i hid
      exact process_common_recorded hpos h hid timestep_100ns
    · rename_i hid
      rw [acquires, if_neg hid, List.append_nil]
      exact h
  | application bytes =>
    rw [acquires, List.append_nil]
    exact h

theorem run_recorded (hready : s.main.Ready) (hpos : 0 < config.decimation.toNat)
    (h : Recorded s.main.m_config config max samples s.datalogger) {events : List Event}
    (hkept : Along step (fun s e => ¬Configures s e) s events) :
    Recorded s.main.m_config config max (samples ++ trace step acquires s events)
      (run step s events).datalogger := by
  induction events generalizing s samples with
  | nil =>
    rw [trace, List.append_nil]
    exact h
  | cons e events ih =>
    have hnext := step_recorded hready hpos h hkept.1
    have hrest := ih (step_ready hready e) hnext hkept.2
    rw [step_config, List.append_assoc] at hrest
    exact hrest

/-- An accepted configuration has nothing recorded yet. -/
theorem Configures.recorded (hbool : codecs.encodable Platform.sizeof_bool)
    (hreachable : Reachable s) {e : Event} (h : Configures s e) :
    0 < (configuration s e).decimation.toNat ∧
      Recorded s.main.m_config (configuration s e) (s.main.m_config.m_datalogger_buffer_size /
        entry_size s.main.m_config (configuration s e)) [] (step s e).datalogger := by
  obtain ⟨hready, hattached⟩ := hreachable.attached
  cases e with
  | process timestep_100ns stack =>
    obtain ⟨haccepted, hdatalogger⟩ := h.accepted hready
    obtain ⟨timebase, config_id, hresult⟩ := haccepted.datalogger
    have hvalid := haccepted.valid
    rw [hresult] at hvalid
    have hvalidated := (configure_valid hvalid).1
    have hconfig : (begin_process s timestep_100ns).main.m_config = s.main.m_config :=
      (exchange_frame (ticked s timestep_100ns)).config
    have hbegun := attached_inductive.begin_process hattached timestep_100ns
    have hsize : (begin_process s timestep_100ns).datalogger.m_encoder.m_buffer_size =
        s.main.m_config.m_datalogger_buffer_size := by
      rw [hbegun.buffer_size, hconfig]
    have hchecked := hreachable.checked
    simp only [check_config, Bool.and_eq_true, List.all_eq_true] at hchecked
    constructor
    · exact Nat.pos_of_ne_zero fun hzero => hvalidated.decimation (BitVec.eq_of_toNat_eq hzero)
    · have hrecorded := configure_recorded hbool (by rw [hconfig]; exact hchecked.2)
        (by
          change (begin_process s timestep_100ns).datalogger.m_encoder.m_buffer_size < _
          rw [hsize]
          exact s.main.m_config.m_datalogger_buffer_size_lt) hvalid
      rw [hdatalogger, hresult, ← hsize, ← hconfig]
      exact hrecorded
  | receive_data _ _ => exact h.elim
  | pop_data _ => exact h.elim
  | loop_process _ _ => exact h.elim
  | application _ => exact h.elim

/-- Whatever happens until the next configuration that is accepted, the datalogger has the latest
of the entries made from the samples acquired since the last one: each is the encoding of what the
memory held when its loop ran, and every `decimation`-th of them was logged. -/
theorem acquisition_of_samples (hbool : codecs.encodable Platform.sizeof_bool)
    (hreachable : Reachable s) {e : Event} (hconfigures : Configures s e) {events : List Event}
    (hkept : Along step (fun s e => ¬Configures s e) (step s e) events) :
    (run step (step s e) events).datalogger.m_encoder.entries =
      latest (s.main.m_config.m_datalogger_buffer_size /
          entry_size s.main.m_config (configuration s e))
        ((every (configuration s e).decimation.toNat (trace step acquires (step s e) events)).map
          (encoded s.main.m_config (configuration s e))) := by
  obtain ⟨hpos, hrecorded⟩ := hconfigures.recorded hbool hreachable
  have hready := step_ready hreachable.attached.1 e
  rw [← step_config s e] at hrecorded
  have hlast := run_recorded hready hpos hrecorded hkept
  rw [step_config, List.nil_append] at hlast
  exact hlast.entries

end System

end

section

attribute [local instance] host.platform

/-- A configuration that logs one byte of memory every second time is received. -/
def configuring : System :=
  run System.step host.start (host.connect ++ [host.receive (host.frame 5 2
    ([0, 0, 1, 0, 2] ++ (host.configuration 0 128).drop 5))])

theorem reachable_configuring : System.Reachable configuring := host.reachable_run _

/-- The byte counts the calls of the loop. -/
def counted_calls (count : Nat) : List Event :=
  (List.range count).flatMap fun i => [.application fun _ => BitVec.ofNat 8 i, .loop_process 0 10]

/-- Eleven calls leave five entries, and there is room for four of them. -/
theorem counted_calls_history :
    (run System.step (System.step configuring (.process 0 host.stack))
      (counted_calls 11)).datalogger.m_encoder.entries = [[3], [5], [7], [9]] :=
  (System.acquisition_of_samples (.inl rfl) reachable_configuring (by decide +kernel)
    (by decide +kernel)).trans (by decide +kernel)

end

end scrutiny
