import Scrutiny.Ownership.Exchange
import Scrutiny.Ownership.Loop
import Scrutiny.Ownership.Requests
import Scrutiny.Comm.Delivery
import Scrutiny.Foundation.Past

open foundation

namespace scrutiny

variable [Platform]

open MainHandler

theorem MainHandler.serve_request_loop_count (s : System) (stack : Stack) :
    (serve_request s stack).loop_count = s.loop_count :=
  congrArg (fun m_config : Config => m_config.m_loop_count.toNat) (serve_request_config s stack)

theorem MainHandler.serve_request_main2loop (s : System) (stack : Stack) :
    (serve_request s stack).main2loop = s.main2loop := by
  unfold System.main2loop
  rw [serve_request_loops]

theorem MainHandler.serve_request_loop2main (s : System) (stack : Stack) :
    (serve_request s stack).loop2main = s.loop2main := by
  unfold System.loop2main
  rw [serve_request_loops]

/-- An invariant that is kept by each turn of the loop of `process_loops` is kept by all. -/
theorem MainHandler.process_loops_induction {Inv : System → Prop} {s : System}
    (hturn : ∀ s id, id < s.loop_count → Inv s → Inv (process_loop s id)) (h : Inv s) :
    Inv (process_loops s) := by
  have hfold (ids : List LoopId) (s : System) (hids : ∀ id ∈ ids, id < s.loop_count)
      (h : Inv s) : Inv (ids.foldl process_loop s) := by
    induction ids generalizing s with
    | nil => exact h
    | cons id ids ih =>
      refine ih (process_loop s id) ?_ (hturn s id (hids id List.mem_cons_self) h)
      intro i hi
      rw [(process_loop_frame s id).loop_count]
      exact hids i (List.mem_cons_of_mem _ hi)
  exact hfold _ s (fun id hid => List.mem_range.mp hid) h

namespace System

/-- An invariant of the datalogging and of the loops, with what each part of a step has to
do to keep it. -/
structure Inductive (Inv : System → Prop) (Guard : System → Prop) : Prop where
  frame : ∀ s s', DataloggingFrame s s' → Inv s → Inv s'
  message : ∀ s id, id < s.loop_count → Inv s → Inv (process_loop s id)
  logic : ∀ s, (∀ i < s.loop_count, s.loop2main i = none) → Inv s →
    Inv (process_datalogging_logic s)
  request : ∀ s stack, Guard s → (∀ i < s.loop_count, s.loop2main i = none) → Inv s →
    Inv (serve_request s stack)
  loop : ∀ s id timestep_100ns, id < s.loop_count → Inv s →
    Inv (LoopHandler.process_common s id timestep_100ns)

/-- What has to keep an invariant for a call of `process` to keep it, apart from its request. -/
structure Exchanges (Inv : System → Prop) : Prop where
  frame : ∀ s s', DataloggingFrame s s' → Inv s → Inv s'
  message : ∀ s id, id < s.loop_count → Inv s → Inv (process_loop s id)
  logic : ∀ s, (∀ i < s.loop_count, s.loop2main i = none) → Inv s →
    Inv (process_datalogging_logic s)

namespace Exchanges

variable {Inv : System → Prop}

theorem exchange (hinv : Exchanges Inv) {s : System} (h : Inv s) :
    Inv (process_datalogging_logic (process_loops s)) := by
  refine hinv.logic _ ?_ (process_loops_induction hinv.message h)
  intro i hi
  rw [(process_loops_frame s).loop_count] at hi
  rw [process_loops_loop2main, if_pos hi]

theorem begin_process (hinv : Exchanges Inv) {s : System} (h : Inv s)
    (timestep_100ns : timediff_t) : Inv (MainHandler.begin_process s timestep_100ns) :=
  hinv.exchange (hinv.frame s _ (ticked_frame s timestep_100ns) h)

theorem end_process (hinv : Exchanges Inv) {s : System} (h : Inv s) :
    Inv (MainHandler.end_process s) :=
  hinv.exchange (hinv.frame s _ (finished_frame s) h)

theorem pop_data (hinv : Exchanges Inv) {s : System} (h : Inv s) (len : uint16_t) :
    Inv (System.step s (.pop_data len)) := by
  have hpopped : Inv (s.set_comm (s.comm.pop_data s.main.m_timebase len).1) :=
    hinv.frame s _ ⟨rfl, rfl, rfl⟩ h
  exact hinv.frame _ _ (finished_frame _) hpopped

end Exchanges

/-- The condition on a step, in the state that a request is handled in. -/
def OnRequest (Guard : System → Prop) (s : System) : Event → Prop
  | .process timestep_100ns _ => Guard (begin_process s timestep_100ns)
  | _ => True

namespace Inductive

variable {Inv Guard : System → Prop}

theorem exchanges (hinv : Inductive Inv Guard) : Exchanges Inv :=
  ⟨hinv.frame, hinv.message, hinv.logic⟩

theorem begin_process (hinv : Inductive Inv Guard) {s : System} (h : Inv s)
    (timestep_100ns : timediff_t) : Inv (MainHandler.begin_process s timestep_100ns) :=
  hinv.exchanges.begin_process h timestep_100ns

theorem end_process (hinv : Inductive Inv Guard) {s : System} (h : Inv s) :
    Inv (MainHandler.end_process s) :=
  hinv.exchanges.end_process h

theorem step (hinv : Inductive Inv Guard) {s : System} (hready : s.main.Ready) (h : Inv s)
    {e : Event} (hguard : OnRequest Guard s e) : Inv (System.step s e) := by
  cases e with
  | receive_data data len => exact hinv.frame s _ ⟨rfl, rfl, rfl⟩ h
  | pop_data len => exact hinv.exchanges.pop_data h len
  | process timestep_100ns stack =>
    rw [System.step, process_eq hready.enabled]
    have hbegun := hinv.begin_process h timestep_100ns
    refine hinv.end_process (hinv.request _ stack hguard ?_ hbegun)
    intro i hi
    rw [begin_process_loop2main, if_pos (begin_process_loop_count s timestep_100ns ▸ hi)]
  | loop_process id timestep_100ns =>
    rw [System.step]
    split
    · rename_i hid
      exact hinv.loop s id timestep_100ns hid h
    · exact h
  | application bytes => exact hinv.frame s _ ⟨rfl, rfl, rfl⟩ h

/-- An invariant that no request can break holds in every reachable state. -/
theorem reachable (hinv : Inductive Inv fun _ => True) (hinit : ∀ s, Initial s → Inv s)
    {s : System} (h : Reachable s) : s.main.Ready ∧ Inv s := by
  obtain ⟨start, events, hinitial, rfl⟩ := h
  have hstep (s : System) (e : Event) (h : s.main.Ready ∧ Inv s) :
      (System.step s e).main.Ready ∧ Inv (System.step s e) := by
    refine ⟨step_ready h.1 e, hinv.step h.1 h.2 ?_⟩
    cases e <;> trivial
  exact (always_of_step hstep ⟨initial_ready hinitial, hinit start hinitial⟩ events).last

end Inductive

end System

end scrutiny
