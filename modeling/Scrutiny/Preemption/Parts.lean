import Scrutiny.Foundation.Parts
import Scrutiny.Ownership.Step

open foundation

namespace scrutiny

/-- A call of the context that the main handler runs in. -/
inductive MainCall where
  | receive_data (data : ByteBuffer) (len : uint16_t)
  | pop_data (len : uint16_t)
  | process (timestep_100ns : timediff_t) (stack : Stack)

/-- What may happen between two parts of `process`. -/
inductive Interrupt where
  | loop_process (id : LoopId) (timestep_100ns : timediff_t)
  | application (bytes : Nat → uint8_t)

def MainCall.event : MainCall → Event
  | .receive_data data len => .receive_data data len
  | .pop_data len => .pop_data len
  | .process timestep_100ns stack => .process timestep_100ns stack

def Interrupt.event : Interrupt → Event
  | .loop_process id timestep_100ns => .loop_process id timestep_100ns
  | .application bytes => .application bytes

/-- `process` goes through the loops twice: before the request, with what is on its stack
then, and after it. -/
inductive Pass where
  | before (stack : Stack)
  | after

/-- The parts of `process`. Each one reads or writes the slots of one loop at most, and the
rest of what it touches is only used by the owner of the datalogger besides. -/
inductive Part where
  | loop (pass : Pass) (id : LoopId)
  | logic (pass : Pass)
  | request (stack : Stack)
  | response
  | finish

namespace MainHandler

variable [Platform]

/-- The condition of the loop of `process_loops`. -/
def next_turn (s : System) (pass : Pass) (id : LoopId) : Part :=
  if id < s.loop_count then .loop pass id else .logic pass

/-- What comes once the loops were told. -/
def Pass.next : Pass → Option Part
  | .before stack => some (.request stack)
  | .after => none

def execute_part (s : System) : Part → System × Option Part
  | .loop pass id =>
    let s := process_loop s id
    (s, some (next_turn s pass (id + 1)))
  | .logic pass => (process_datalogging_logic s, Pass.next pass)
  | .request stack =>
    if has_request s then (execute_request s stack, some .response) else (s, some .finish)
  | .response => (finish_request s, some .finish)
  | .finish =>
    let s := { s with main := check_finished_sending s.main }
    (s, some (next_turn s .after 0))

def start_call (s : System) : MainCall → System × Option Part
  | .process timestep_100ns stack =>
    if s.main.m_enabled = false then ({ s with main := process_disabled s.main }, none)
    else (ticked s timestep_100ns, some (next_turn s (.before stack) 0))
  | call => (System.step s call.event, none)

end MainHandler

/-- The calls of the main handler, with the loops and the application between their parts. -/
def preemptible [Platform] : Interruptible System MainCall Part Interrupt where
  start := MainHandler.start_call
  resume := MainHandler.execute_part
  interrupt s i := System.step s i.event

namespace MainHandler

variable [Platform]

/-- The turns of `process_loops` that are left. -/
theorem completes_loops {pass : Pass} {last s' : System} {count : Nat} (s : System) (id : LoopId)
    (hcount : s.loop_count = id + count)
    (hlast : (List.range' id count).foldl process_loop s = last)
    (hrest : preemptible.Completes last (some (.logic pass)) s') :
    preemptible.Completes s (some (next_turn s pass id)) s' := by
  induction count generalizing s id with
  | zero =>
    rw [next_turn, if_neg (hcount ▸ Nat.lt_irrefl id)]
    rw [List.range'_zero, List.foldl_nil] at hlast
    rwa [hlast]
  | succ count ih =>
    rw [next_turn, if_pos (hcount ▸ Nat.lt_add_of_pos_right count.succ_pos)]
    apply Interruptible.Completes.part
    refine ih (process_loop s id) (id + 1) ?_ hlast
    rw [(process_loop_frame s id).loop_count, hcount, Nat.add_assoc, Nat.add_comm 1]

theorem completes_exchange {pass : Pass} {s s' : System}
    (hrest : preemptible.Completes (process_datalogging_logic (process_loops s))
      (Pass.next pass) s') :
    preemptible.Completes s (some (next_turn s pass 0)) s' := by
  apply completes_loops s 0 (Nat.zero_add _).symm rfl
  rw [← List.range_eq_range']
  exact .part hrest

theorem completes_process (s : System) (timestep_100ns : timediff_t) (stack : Stack) :
    preemptible.Completes (start_call s (.process timestep_100ns stack)).1
      (start_call s (.process timestep_100ns stack)).2 (process s timestep_100ns stack) := by
  rw [start_call]
  split
  · rename_i hdisabled
    rw [process, if_pos hdisabled]
    exact .done _
  · rename_i henabled
    rw [process_eq (Bool.eq_true_of_not_eq_false henabled)]
    have hend (served : System) :
        preemptible.Completes served (some .finish) (end_process served) := by
      apply Interruptible.Completes.part
      apply completes_exchange
      exact .done _
    change preemptible.Completes (ticked s timestep_100ns)
      (some (next_turn (ticked s timestep_100ns) (.before stack) 0)) _
    apply completes_exchange
    rw [← begin_process_eq, Pass.next]
    apply Interruptible.Completes.part
    change preemptible.Completes
      (execute_part (begin_process s timestep_100ns) (.request stack)).1
      (execute_part (begin_process s timestep_100ns) (.request stack)).2 _
    rw [execute_part, serve_request]
    split
    · exact .part (hend _)
    · exact hend _

end MainHandler

/-- Without interrupts in the middle of `process`, the parts make up the steps of the
system: none of its runs is lost. -/
theorem System.run_in_parts [Platform] (s : System) (events : List Event) :
    ∃ acts, run preemptible.step ⟨s, none⟩ acts = ⟨run System.step s events, none⟩ := by
  refine Interruptible.run_uninterrupted (fun s e => ?_) s events
  cases e with
  | receive_data data len => exact .inl ⟨.receive_data data len, .done _⟩
  | pop_data len => exact .inl ⟨.pop_data len, .done _⟩
  | process timestep_100ns stack =>
    exact .inl ⟨.process timestep_100ns stack,
      MainHandler.completes_process s timestep_100ns stack⟩
  | loop_process id timestep_100ns => exact .inr ⟨.loop_process id timestep_100ns, rfl⟩
  | application bytes => exact .inr ⟨.application bytes, rfl⟩

end scrutiny
