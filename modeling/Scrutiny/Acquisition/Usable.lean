import Scrutiny.Acquisition.Configuration
import Scrutiny.Datalogging.Calls
import Scrutiny.Datalogging.Layout
import Scrutiny.Host

open foundation

namespace scrutiny

open datalogging protocol

section

variable [Platform]

namespace datalogging

namespace DataLogger

/-- The calls made on a datalogger that keeps its configuration. -/
def Call.Drives : Call → Prop
  | arm_trigger | disarm_trigger | process _ _ _ => True
  | configure _ _ _ _ | reset _ | force_trigger => False

/-- A datalogger that can log with its configuration. -/
structure Usable (handler : Config) (d : DataLogger) : Prop where
  no_error : d.m_encoder.error = false
  sizes : ∀ item ∈ d.m_config.item_list, RawFormatEncoder.item_size handler item ≠ 0
  room : 1 ≤ d.m_encoder.m_max_entries
  never_fails : ∀ calls : List Call, (∀ c ∈ calls, c.Drives) →
    (run call d calls).m_state ≠ .Error

theorem process_no_error {d : DataLogger} (herror : d.m_encoder.error = false)
    (hstate : d.m_state ≠ .Error) (handler : Config) (timebases : LoopId → Timebase)
    (memory : Memory) :
    (d.process handler timebases memory).1.m_encoder.error = false ∧
      (d.process handler timebases memory).1.m_state ≠ .Error := by
  constructor
  · obtain ⟨acquired, hacquired, hencoder⟩ := d.process_encoder handler timebases memory
    have hkept : acquired.m_error = false := by
      rcases hacquired with rfl | ⟨timebase, rfl⟩
      · exact herror
      · have hbefore : d.m_encoder.m_error = false := herror
        have hadvance : d.m_encoder.advance_first_valid.m_error = d.m_encoder.m_error := by
          unfold RawFormatEncoder.advance_first_valid
          split <;> rfl
        rw [RawFormatEncoder.encode_next_entry, if_neg (by simp [hbefore])]
        exact hadvance.trans hbefore
    rcases hencoder with hsame | hcounted
    · rw [hsame]
      exact hkept
    · rw [hcounted]
      exact hkept
  · rcases process_state herror handler timebases memory with
      hsame | ⟨_, hfires | hcompleted⟩ | ⟨_, hcompleted⟩
    · rwa [hsame]
    · simp [hfires]
    · simp [hcompleted]
    · simp [hcompleted]

/-- Without an error of the encoder, no call that keeps the configuration ends in one. -/
theorem run_no_error {d : DataLogger} (herror : d.m_encoder.error = false)
    (hstate : d.m_state ≠ .Error) {calls : List Call} (hcalls : ∀ c ∈ calls, c.Drives) :
    (run call d calls).m_state ≠ .Error := by
  induction calls generalizing d with
  | nil => exact hstate
  | cons c calls ih =>
    have hdrives := hcalls c List.mem_cons_self
    have hnext : (d.call c).m_encoder.error = false ∧ (d.call c).m_state ≠ .Error := by
      cases c with
      | arm_trigger =>
        rw [DataLogger.call, DataLogger.arm_trigger]
        split
        · exact ⟨herror, by simp⟩
        · exact ⟨herror, hstate⟩
      | disarm_trigger =>
        rw [DataLogger.call, DataLogger.disarm_trigger]
        split
        · exact ⟨herror, by simp⟩
        · exact ⟨herror, hstate⟩
      | process handler timebases memory => exact process_no_error herror hstate _ _ _
      | configure _ _ _ _ => exact hdrives.elim
      | reset _ => exact hdrives.elim
      | force_trigger => exact hdrives.elim
    exact ih hnext.1 hnext.2 fun c hc => hcalls c (List.mem_cons_of_mem _ hc)

/-- The items of a configuration all have a size, and there is room for an entry of them. -/
structure FitsIn (handler : Config) (config : Configuration) (buffer_size : Nat) : Prop where
  sizes : ∀ item ∈ config.item_list, RawFormatEncoder.item_size handler item ≠ 0
  entry_le : RawFormatEncoder.entry_size handler config ≤ buffer_size

theorem measurable_iff {handler : Config} {item : LoggableItem} :
    RawFormatEncoder.Measurable handler item ↔ RawFormatEncoder.item_size handler item ≠ 0 := by
  unfold RawFormatEncoder.Measurable RawFormatEncoder.item_size
  cases RawFormatEncoder.elem_size handler item with
  | none => simp
  | some size =>
    simp only [Option.some.injEq, exists_eq_left', Option.getD_some]
    exact not_congr (by rw [← BitVec.toNat_inj]; rfl)

/-- A valid configuration is usable just when it fits in the buffer. -/
theorem configured_usable_iff {d : DataLogger} {handler : Config} {timebase : Option LoopId}
    {config_id : uint16_t} (hbuffer : d.m_encoder.m_buffer.isSome = true)
    (hvalid : (d.configure handler timebase config_id).m_config_valid = true) :
    Usable handler (d.configure handler timebase config_id) ↔
      FitsIn handler d.m_config d.m_encoder.m_buffer_size := by
  obtain ⟨hvalidated, hstate, hconfig, hencoder⟩ := configure_valid hvalid
  have hlist : d.m_config.item_list ≠ [] := by
    have hcount := hvalidated.items_count
    rw [Configuration.item_list, ne_eq, List.map_eq_nil_iff, List.range_eq_nil]
    bv_omega
  have hreset := RawFormatEncoder.reset_no_error_iff (d.m_encoder.set_timebase timebase) handler
    d.m_config
  constructor
  · intro h
    have herror := h.no_error
    rw [hencoder] at herror
    have hfits := (hreset.mp herror).2
    exact ⟨fun item hitem => measurable_iff.mp (hfits.measurable item hitem), hfits.entry_le⟩
  · intro h
    have hfits : RawFormatEncoder.Fits handler d.m_config d.m_encoder.m_buffer_size :=
      ⟨fun item hitem => measurable_iff.mpr (h.sizes item hitem), hlist, h.entry_le⟩
    have hemptied : RawFormatEncoder.Emptied handler d.m_config
        (d.m_encoder.set_timebase timebase)
        ((d.m_encoder.set_timebase timebase).reset handler d.m_config) :=
      RawFormatEncoder.reset_of_fits hbuffer hfits
    have herror : (d.configure handler timebase config_id).m_encoder.error = false := by
      rw [hencoder]
      exact hemptied.no_error
    refine ⟨herror, by rw [hconfig]; exact h.sizes, ?_, ?_⟩
    · rw [hencoder, hemptied.max_entries]
      exact Nat.div_pos h.entry_le hfits.entry_size_pos
    · intro calls hcalls
      exact run_no_error herror (by rw [hstate]; simp) hcalls

end DataLogger

/-- The encoder writes in the buffer of the configuration. -/
structure RawFormatEncoder.Attached (handler : Config) (encoder : RawFormatEncoder) : Prop where
  buffer : handler.m_datalogger_buffer.isSome = true → encoder.m_buffer.isSome = true
  buffer_size : encoder.m_buffer_size = handler.m_datalogger_buffer_size

theorem RawFormatEncoder.reset_buffer (encoder : RawFormatEncoder) (handler : Config)
    (config : Configuration) : (encoder.reset handler config).m_buffer = encoder.m_buffer := by
  obtain ⟨m_entry_size, m_error, hmeasured⟩ := measure_items_frame handler config.item_list
    encoder.emptied
  rw [reset_eq, hmeasured, divide_buffer]
  simp only
  split <;> split <;> rfl

theorem DataLogger.attached_invariant (handler : Config) :
    EncoderInvariant (RawFormatEncoder.Attached handler) where
  reset encoder timebase handler' config h := by
    refine ⟨fun hset => ?_, ?_⟩
    · rw [RawFormatEncoder.reset_buffer]
      exact h.buffer hset
    · rw [RawFormatEncoder.reset_buffer_size]
      exact h.buffer_size
  encode encoder handler' config timebase caller memory h := by
    refine ⟨fun hset => ?_, ?_⟩
    · unfold RawFormatEncoder.encode_next_entry
      split
      · exact h.buffer hset
      · rfl
    · rw [RawFormatEncoder.encode_next_entry_buffer_size]
      exact h.buffer_size
  reset_write_counter _ h := ⟨h.buffer, h.buffer_size⟩

end datalogging

namespace System

open MainHandler

/-- The encoder of a datalogger that is run by the handler keeps the buffer it was given. -/
theorem attached_inductive : System.Inductive
    (fun s => s.datalogger.m_encoder.Attached s.main.m_config) fun _ => True := by
  have hencoder := DataLogger.attached_invariant
  have hinvariant : DataloggerInvariant fun handler d => d.m_encoder.Attached handler := by
    refine ⟨fun _ _ _ h => h, fun handler d m_config timebase config_id h => ?_,
      fun _ _ _ h => ⟨h.buffer, h.buffer_size⟩, fun _ _ _ h => h, fun handler d h => ?_,
      fun handler d h => ?_, fun handler d timebases memory h => ?_⟩
    · have hconfigured : ({ d with m_config } : DataLogger).m_encoder.Attached handler := h
      exact (hencoder handler).configure hconfigured handler timebase config_id
    · exact (hencoder handler).call h .arm_trigger
    · exact (hencoder handler).call h .disarm_trigger
    · exact (hencoder handler).process h handler timebases memory
  refine hinvariant.inductive_of fun s _ h hserved hcode => ?_
  cases configure_datalog_attempts s.main s.loops s.comm.m_active_request with
  | waits hwaits _ => cases hcode.symm.trans hwaits
  | fails hfails _ => exact absurd hcode hfails
  | refused hrefused _ _ _ => exact absurd hcode hrefused
  | accepted _ haccepted =>
    obtain ⟨timebase, config_id, hdatalogger⟩ := haccepted.datalogger
    rw [configuration_result, hdatalogger]
    have hconfigured : ({ s.main.m_datalogging.datalogger with
        m_config := s.main.requested s.comm.m_active_request } : DataLogger).m_encoder.Attached
          s.main.m_config := h
    exact (hencoder s.main.m_config).configure hconfigured s.main.m_config timebase config_id

theorem initial_attached {s : System} (hinitial : Initial s) :
    s.datalogger.m_encoder.Attached s.main.m_config := by
  obtain ⟨before, m_config, hinit⟩ := hinitial
  unfold MainHandler.init at hinit
  simp only at hinit
  split at hinit
  · simp at hinit
  · split at hinit
    · simp at hinit
    · simp only [Prod.mk.injEq, true_and] at hinit
      subst hinit
      refine ⟨fun hset => ?_, RawFormatEncoder.reset_buffer_size _ _ _⟩
      have hbuffer := RawFormatEncoder.reset_buffer
        { before.datalogger.m_encoder with
          m_buffer := m_config.m_datalogger_buffer
          m_buffer_size := m_config.m_datalogger_buffer_size } m_config before.datalogger.m_config
      exact (congrArg Option.isSome hbuffer).trans hset

theorem Reachable.attached {s : System} (h : Reachable s) :
    s.main.Ready ∧ s.datalogger.m_encoder.Attached s.main.m_config :=
  attached_inductive.reachable (fun _ hinitial => initial_attached hinitial) h

/-- The call answers OK to a ConfigureDatalog request. -/
def Configures (s : System) : Event → Prop
  | .process timestep_100ns _ =>
    served (begin_process s timestep_100ns) = some .ConfigureDatalog ∧
      (configuration_result (begin_process s timestep_100ns)).1 = .OK
  | _ => False

/-- The configuration that is requested. -/
def configuration (s : System) : Event → Configuration
  | .process timestep_100ns _ =>
    let s := begin_process s timestep_100ns
    s.main.requested s.comm.m_active_request
  | _ => s.datalogger.m_config

instance (s : System) (e : Event) : Decidable (Configures s e) :=
  match e with
  | .process timestep_100ns _ => inferInstanceAs (Decidable
    (served (begin_process s timestep_100ns) = some .ConfigureDatalog ∧
      (configuration_result (begin_process s timestep_100ns)).1 = .OK))
  | .receive_data _ _ | .pop_data _ | .loop_process _ _ | .application _ =>
    inferInstanceAs (Decidable False)

/-- Of the datalogger, the call leaves what the request made of it. -/
theorem process_datalogger {s : System} (hready : s.main.Ready) (timestep_100ns : timediff_t)
    (stack : Stack) :
    (step s (.process timestep_100ns stack)).datalogger =
      (serve_request (begin_process s timestep_100ns) stack).datalogger := by
  have hframe := finished_frame (serve_request (begin_process s timestep_100ns) stack)
  have hquiet : process_loops (finished (serve_request (begin_process s timestep_100ns) stack)) =
      finished (serve_request (begin_process s timestep_100ns) stack) := by
    refine process_loops_of_empty fun i hi => ?_
    rw [hframe.loop2main, serve_request_loop2main, begin_process_loop2main]
    rw [hframe.loop_count, serve_request_loop_count, begin_process_loop_count] at hi
    exact if_pos hi
  rw [step, process_eq hready.enabled, end_process_eq, hquiet,
    process_datalogging_logic_datalogger, hframe.datalogger]

/-- An accepted configuration was decoded from the request, checked and set. -/
theorem Configures.accepted {s : System} (hready : s.main.Ready) {timestep_100ns : timediff_t}
    {stack : Stack} (h : Configures s (.process timestep_100ns stack)) :
    Accepted (begin_process s timestep_100ns).main
        (begin_process s timestep_100ns).comm.m_active_request
        (configuration_result (begin_process s timestep_100ns)) ∧
      (step s (.process timestep_100ns stack)).datalogger =
        (configuration_result (begin_process s timestep_100ns)).2.datalogger := by
  constructor
  · cases configure_datalog_attempts (begin_process s timestep_100ns).main
      (begin_process s timestep_100ns).loops
      (begin_process s timestep_100ns).comm.m_active_request with
    | waits hwaits _ => cases h.2.symm.trans hwaits
    | fails hfails _ => exact absurd h.2 hfails
    | refused hrefused _ _ _ => exact absurd h.2 hrefused
    | accepted _ haccepted => exact haccepted
  · obtain ⟨response, hdatalogging⟩ :=
      serve_request_datalogging (begin_process s timestep_100ns) stack
    rw [h.1] at hdatalogging
    rw [process_datalogger hready]
    exact congrArg Datalogging.datalogger hdatalogging

/-- A configuration that is accepted can be used just when each of its items has a size and
the buffer has room for an entry of them. -/
theorem accepted_usable_iff {s : System} (hreachable : Reachable s) {e : Event}
    (hconfigures : Configures s e) :
    (step s e).datalogger.Usable s.main.m_config ↔
      DataLogger.FitsIn s.main.m_config (configuration s e)
        s.main.m_config.m_datalogger_buffer_size := by
  obtain ⟨hready, hattached⟩ := hreachable.attached
  cases e with
  | process timestep_100ns stack =>
    obtain ⟨haccepted, hdatalogger⟩ := hconfigures.accepted hready
    obtain ⟨timebase, config_id, hresult⟩ := haccepted.datalogger
    have hconfig : (begin_process s timestep_100ns).main.m_config = s.main.m_config :=
      (exchange_frame (ticked s timestep_100ns)).config
    have hbegun : (begin_process s timestep_100ns).datalogger.m_encoder.Attached
        (begin_process s timestep_100ns).main.m_config :=
      attached_inductive.begin_process hattached timestep_100ns
    have hset : s.main.m_config.is_datalogging_configured = true := by
      have hserved := hconfigures.1
      unfold served at hserved
      split at hserved
      · rename_i hrequest
        rw [← hconfig]
        exact hrequest.2.2
      · cases hserved
    simp only [Config.is_datalogging_configured, Bool.and_eq_true] at hset
    have hbuffer := hbegun.buffer (by rw [hconfig]; exact hset.1)
    have hvalid := haccepted.valid
    rw [hresult] at hvalid
    have husable : (step s (.process timestep_100ns stack)).datalogger.Usable
        (begin_process s timestep_100ns).main.m_config ↔
          DataLogger.FitsIn (begin_process s timestep_100ns).main.m_config
            (configuration s (.process timestep_100ns stack))
            (begin_process s timestep_100ns).main.m_config.m_datalogger_buffer_size := by
      rw [hdatalogger, hresult, ← hbegun.buffer_size]
      exact DataLogger.configured_usable_iff hbuffer hvalid
    rw [hconfig] at husable
    exact husable
  | receive_data _ _ => exact hconfigures.elim
  | pop_data _ => exact hconfigures.elim
  | loop_process _ _ => exact hconfigures.elim
  | application _ => exact hconfigures.elim

end System

end

section

attribute [local instance] host.platform

/-- The reception of a configuration with one item, of the given size. -/
def sized (size : uint8_t) : List Event :=
  host.connect ++
    [host.receive (host.frame 5 2 ((host.configuration 0 0).dropLast ++ [size]))]

/-- A byte of memory is logged in the four bytes of the buffer. -/
theorem one_byte_usable :
    let s := run System.step host.start (sized 1)
    (System.step s (.process 0 host.stack)).datalogger.Usable s.main.m_config :=
  (System.accepted_usable_iff (host.reachable_run (sized 1)) (by decide +kernel)).mpr
    ⟨by decide +kernel, by decide +kernel⟩

/-- An item without a size is accepted, and the loop finds the encoder in error. -/
theorem empty_item_accepted :
    (¬∀ s e, System.Reachable s → System.Configures s e →
      (System.step s e).datalogger.Usable s.main.m_config) ∧
    (run System.step host.start (sized 0 ++ [.process 0 host.stack, .loop_process 0 0,
      .loop_process 0 0])).datalogger.m_state = .Error := by
  refine ⟨fun husable => ?_, by decide +kernel⟩
  have herror := (husable (run System.step host.start (sized 0)) (.process 0 host.stack)
    (host.reachable_run (sized 0)) (by decide +kernel)).no_error
  exact absurd herror (by decide +kernel)

end

end scrutiny
