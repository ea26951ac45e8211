import Scrutiny.MainHandler.Process
import Scrutiny.Foundation.Run

open foundation

namespace scrutiny

/-- A call of the application into the library, or a change that the application
makes to its own memory between two calls. -/
inductive Event where
  | receive_data (data : ByteBuffer) (len : uint16_t)
  | pop_data (len : uint16_t)
  | process (timestep_100ns : timediff_t) (stack : Stack)
  | loop_process (id : LoopId) (timestep_100ns : timediff_t)
  | application (bytes : Nat → uint8_t)

namespace System

variable [Platform]

/-- Loops that are not configured have no datalogger, and their calls are left out. -/
def step (s : System) : Event → System
  | .receive_data data len => MainHandler.receive_data s data len
  | .pop_data len => (MainHandler.pop_data s len).1
  | .process timestep_100ns stack => MainHandler.process s timestep_100ns stack
  | .loop_process id timestep_100ns =>
    if id < s.loop_count then LoopHandler.process_common s id timestep_100ns else s
  | .application bytes => { s with memory := { s.memory with bytes } }

/-- The states right after a successful initialization, from whatever was there before. -/
def Initial (s : System) : Prop :=
  ∃ (before : System) (m_config : Config), MainHandler.init before m_config = (.SUCCESS, s)

def Reachable (s : System) : Prop :=
  ∃ (start : System) (events : List Event), Initial start ∧ s = run step start events

theorem Reachable.step {s : System} (h : Reachable s) (e : Event) : Reachable (step s e) := by
  obtain ⟨start, events, hinitial, rfl⟩ := h
  exact ⟨start, events ++ [e], hinitial, by rw [run_append]; rfl⟩

end System

end scrutiny
