import Scrutiny.Foundation.Trace
import Scrutiny.Foundation.Past

open foundation

namespace scrutiny

variable {size : Nat} {W : Type}

/-- A message to another time domain: the words that make it up, and the atomic flag that
hands them over. -/
structure IPCMessage (size : Nat) (W : Type) where
  data : Fin size → W
  m_written : Bool

namespace IPCMessage

def has_content (self : IPCMessage size W) : Bool := self.m_written

def commit (self : IPCMessage size W) : IPCMessage size W := { self with m_written := true }

def clear (self : IPCMessage size W) : IPCMessage size W := { self with m_written := false }

def send (self : IPCMessage size W) (indata : Fin size → W) : IPCMessage size W :=
  commit { self with data := indata }

def pop (self : IPCMessage size W) : (Fin size → W) × IPCMessage size W :=
  (self.data, self.clear)

/-- The assignment of one word, of those that `send` is made of. -/
def store (self : IPCMessage size W) (k : Fin size) (word : W) : IPCMessage size W :=
  { self with data := Function.update self.data k word }

/-- The message that the receiver can see. -/
def content (self : IPCMessage size W) : Option (Fin size → W) :=
  if self.has_content then some self.data else none

end IPCMessage

/-- The sender looks for room before it copies its message. -/
inductive Sender (size : Nat) (W : Type) where
  | idle
  | ready
  | copying (indata : Fin size → W) (count : Nat)

inductive Receiver (W : Type) where
  | idle
  | copying (outdata : List W)

/-- A sender and a receiver on the two sides of a message. -/
structure Exchange (size : Nat) (W : Type) where
  message : IPCMessage size W
  sender : Sender size W
  receiver : Receiver W

/-- Who goes on, and the message that a sender with none has next. -/
inductive IPCTurn (size : Nat) (W : Type) where
  | sender (indata : Fin size → W)
  | receiver

namespace Exchange

/-- One access of the sender to the flag or to one word. -/
def sender_turn (e : Exchange size W) (indata : Fin size → W) : Exchange size W :=
  match e.sender with
  | .idle => if e.message.has_content then e else { e with sender := .ready }
  | .ready => { e with sender := .copying indata 0 }
  | .copying indata count =>
    if h : count < size then
      { e with
        message := e.message.store ⟨count, h⟩ (indata ⟨count, h⟩)
        sender := .copying indata (count + 1) }
    else { e with message := e.message.commit, sender := .idle }

/-- One access of the receiver to the flag or to one word. -/
def receiver_turn (e : Exchange size W) : Exchange size W :=
  match e.receiver with
  | .idle => if e.message.has_content then { e with receiver := .copying [] } else e
  | .copying outdata =>
    if h : outdata.length < size then
      { e with receiver := .copying (outdata ++ [e.message.data ⟨outdata.length, h⟩]) }
    else { e with message := e.message.clear, receiver := .idle }

def step (e : Exchange size W) : IPCTurn size W → Exchange size W
  | .sender indata => e.sender_turn indata
  | .receiver => e.receiver_turn

/-- The message that is handed over by the turn. -/
def sent (e : Exchange size W) : IPCTurn size W → List (List W)
  | .sender _ =>
    match e.sender with
    | .copying indata count => if count < size then [] else [List.ofFn indata]
    | .idle | .ready => []
  | .receiver => []

/-- The message that `pop` returns at the end of the turn. -/
def received (e : Exchange size W) : IPCTurn size W → List (List W)
  | .sender _ => []
  | .receiver =>
    match e.receiver with
    | .copying outdata => if outdata.length < size then [] else [outdata]
    | .idle => []

def pending (e : Exchange size W) : List (List W) :=
  (e.message.content.map List.ofFn).toList

/-- The two sides are at the words of the message at the same time. -/
def Races (e : Exchange size W) : Prop :=
  (∃ indata count, e.sender = .copying indata count) ∧ ∃ outdata, e.receiver = .copying outdata

/-- The flag tells whose the words are. -/
structure Consistent (e : Exchange size W) : Prop where
  ready : e.sender = .ready → e.message.m_written = false
  stored : ∀ indata count, e.sender = .copying indata count → e.message.m_written = false ∧
    ∀ k : Fin size, k.val < count → e.message.data k = indata k
  loaded : ∀ outdata, e.receiver = .copying outdata → e.message.m_written = true ∧
    outdata = (List.ofFn e.message.data).take outdata.length

variable {e : Exchange size W}

theorem Consistent.no_race (h : Consistent e) : ¬ e.Races := by
  rintro ⟨⟨indata, count, hsender⟩, outdata, hreceiver⟩
  cases (h.stored indata count hsender).1.symm.trans (h.loaded outdata hreceiver).1

/-- While the receiver is at the words, the sender sees no room. -/
theorem Consistent.idle_of_written (h : Consistent e) (hwritten : e.message.m_written = true) :
    e.sender = .idle := by
  cases hsender : e.sender with
  | idle => rfl
  | ready => cases (h.ready hsender).symm.trans hwritten
  | copying indata count => cases (h.stored indata count hsender).1.symm.trans hwritten

/-- While the sender is at the words, there is nothing to receive. -/
theorem Consistent.idle_of_clear (h : Consistent e) (hclear : e.message.m_written = false) :
    e.receiver = .idle := by
  cases hreceiver : e.receiver with
  | idle => rfl
  | copying outdata => cases hclear.symm.trans (h.loaded outdata hreceiver).1

theorem Consistent.sender_turn (h : Consistent e) (indata : Fin size → W) :
    Consistent (e.sender_turn indata) := by
  unfold Exchange.sender_turn
  cases hsender : e.sender with
  | idle =>
    simp only
    split
    · exact h
    · rename_i hroom
      refine ⟨fun _ => Bool.eq_false_iff.mpr hroom, ?_, h.loaded⟩
      intro indata count hcopying
      cases hcopying
  | ready =>
    have hclear := h.ready hsender
    refine ⟨?_, ?_, h.loaded⟩
    · intro hready
      cases hready
    · intro indata' count hcopying
      cases hcopying
      exact ⟨hclear, fun k hk => absurd hk (Nat.not_lt_zero _)⟩
  | copying indata count =>
    obtain ⟨hclear, hstored⟩ := h.stored indata count hsender
    have hidle := h.idle_of_clear hclear
    simp only
    split
    · rename_i hcount
      refine ⟨?_, ?_, ?_⟩
      · intro hready
        cases hready
      · intro indata' count' hcopying
        cases hcopying
        refine ⟨hclear, fun k hk => ?_⟩
        simp only [IPCMessage.store, Function.update_apply]
        split
        · rename_i hlast
          rw [hlast]
        · rename_i hother
          apply hstored
          have hne : k.val ≠ count := fun heq => hother (Fin.ext heq)
          omega
      · intro outdata hcopying
        cases hidle.symm.trans hcopying
    · refine ⟨?_, ?_, ?_⟩
      · intro hready
        cases hready
      · intro indata' count' hcopying
        cases hcopying
      · intro outdata hcopying
        cases hidle.symm.trans hcopying

theorem Consistent.receiver_turn (h : Consistent e) : Consistent e.receiver_turn := by
  unfold Exchange.receiver_turn
  cases hreceiver : e.receiver with
  | idle =>
    simp only
    split
    · rename_i hcontent
      refine ⟨h.ready, h.stored, ?_⟩
      intro outdata hcopying
      cases hcopying
      exact ⟨hcontent, rfl⟩
    · exact h
  | copying outdata =>
    obtain ⟨hwritten, hloaded⟩ := h.loaded outdata hreceiver
    simp only
    split
    · rename_i hlength
      refine ⟨h.ready, h.stored, ?_⟩
      intro outdata' hcopying
      cases hcopying
      refine ⟨hwritten, ?_⟩
      rw [List.length_append, List.length_singleton, List.take_add_one, ← hloaded]
      simp [hlength]
    · have hidle := h.idle_of_written hwritten
      refine ⟨fun _ => rfl, ?_, ?_⟩
      · intro indata count hcopying
        cases hidle.symm.trans hcopying
      · intro outdata' hcopying
        cases hcopying

theorem Consistent.step (h : Consistent e) (turn : IPCTurn size W) : Consistent (e.step turn) := by
  cases turn with
  | sender indata => exact h.sender_turn indata
  | receiver => exact h.receiver_turn

/-- At the end of its copy, the sender has done what `send` does, in one go. -/
theorem Consistent.send_of_copied (h : Consistent e) {indata : Fin size → W} {count : Nat}
    (hsender : e.sender = .copying indata count) (hcount : ¬ count < size) :
    e.message.commit = e.message.send indata := by
  have hdata : e.message.data = indata := by
    funext k
    exact (h.stored indata count hsender).2 k (k.isLt.trans_le (Nat.le_of_not_lt hcount))
  rw [IPCMessage.send, ← hdata]

/-- At the end of its copy, the receiver has what `pop` returns. -/
theorem Consistent.pop_of_copied (h : Consistent e) {outdata : List W}
    (hreceiver : e.receiver = .copying outdata) (hlength : ¬ outdata.length < size) :
    outdata = List.ofFn e.message.pop.1 := by
  have hloaded := (h.loaded outdata hreceiver).2
  rw [List.take_of_length_le (by rw [List.length_ofFn]; exact Nat.le_of_not_lt hlength)] at hloaded
  exact hloaded

theorem pending_of_clear (hclear : e.message.m_written = false) : e.pending = [] := by
  rw [pending, IPCMessage.content, IPCMessage.has_content, hclear]
  rfl

theorem pending_of_written (hwritten : e.message.m_written = true) :
    e.pending = [List.ofFn e.message.data] := by
  rw [pending, IPCMessage.content, IPCMessage.has_content, hwritten]
  rfl

theorem Consistent.sender_balance (h : Consistent e) (indata : Fin size → W) :
    e.pending ++ e.sent (.sender indata) = (e.sender_turn indata).pending := by
  cases hsender : e.sender with
  | idle =>
    simp only [sent, Exchange.sender_turn, hsender, List.append_nil]
    split
    · rfl
    · rfl
  | ready =>
    simp only [sent, Exchange.sender_turn, hsender, List.append_nil]
    rfl
  | copying indata count =>
    have hclear := (h.stored indata count hsender).1
    rw [pending_of_clear hclear, List.nil_append]
    simp only [sent, Exchange.sender_turn, hsender]
    by_cases hcount : count < size
    · rw [if_pos hcount, dif_pos hcount]
      refine Eq.symm (pending_of_clear ?_)
      exact hclear
    · rw [if_neg hcount, dif_neg hcount, h.send_of_copied hsender hcount]
      rfl

theorem Consistent.receiver_balance (h : Consistent e) :
    e.pending = e.received .receiver ++ e.receiver_turn.pending := by
  cases hreceiver : e.receiver with
  | idle =>
    simp only [received, Exchange.receiver_turn, hreceiver, List.nil_append]
    split
    · rfl
    · rfl
  | copying outdata =>
    have hwritten := (h.loaded outdata hreceiver).1
    simp only [received, Exchange.receiver_turn, hreceiver]
    by_cases hlength : outdata.length < size
    · rw [if_pos hlength, dif_pos hlength]
      rfl
    · rw [if_neg hlength, dif_neg hlength, pending_of_written hwritten]
      exact congrArg (fun bytes => [bytes]) (h.pop_of_copied hreceiver hlength).symm

theorem Consistent.balance (h : Consistent e) (turn : IPCTurn size W) :
    e.pending ++ e.sent turn = e.received turn ++ (e.step turn).pending := by
  cases turn with
  | sender indata => exact h.sender_balance indata
  | receiver => exact (List.append_nil _).trans h.receiver_balance

/-- A message that was cleared, whatever its words are. -/
def cleared (data : Fin size → W) : Exchange size W := ⟨⟨data, false⟩, .idle, .idle⟩

theorem consistent_cleared (data : Fin size → W) : Consistent (cleared data) := by
  refine ⟨?_, ?_, ?_⟩
  · intro hready
    cases hready
  · intro indata count hcopying
    cases hcopying
  · intro outdata hcopying
    cases hcopying

/-- However the two sides alternate, word by word, each message is received once, whole and
in its order, and no word is written while it may be read. -/
theorem messages_exact (data : Fin size → W) (turns : List (IPCTurn size W)) :
    trace step sent (cleared data) turns = trace step received (cleared data) turns ++
        (run step (cleared data) turns).pending ∧
      Always step (fun e => ¬ e.Races) (cleared data) turns := by
  have hstep := fun (e : Exchange size W) turn (h : Consistent e) => h.step turn
  have hinit := consistent_cleared data
  constructor
  · exact trace_balance hstep (fun e turn h => h.balance turn) hinit turns
  · exact (always_of_step hstep hinit turns).mono fun e h => h.no_race

end Exchange

end scrutiny
