import Scrutiny.Foundation.Trace

namespace foundation

section

variable {S L : Type}

/-- Steps of an abstract machine, with all that they emit. -/
inductive Path (Step : S → List L → S → Prop) : S → List L → S → Prop
  | refl (s : S) : Path Step s [] s
  | cons {first second third : S} {emitted rest : List L} (hstep : Step first emitted second)
      (hpath : Path Step second rest third) : Path Step first (emitted ++ rest) third

namespace Path

variable {Step : S → List L → S → Prop} {first second third : S} {emitted rest : List L}

theorem single (hstep : Step first emitted second) : Path Step first emitted second := by
  have hpath := Path.cons hstep (.refl second)
  rw [List.append_nil] at hpath
  exact hpath

theorem trans (h : Path Step first emitted second) (h' : Path Step second rest third) :
    Path Step first (emitted ++ rest) third := by
  induction h with
  | refl => exact h'
  | cons hstep _ ih =>
    rw [List.append_assoc]
    exact .cons hstep (ih h')

end Path

end

/-- What the serving end of a link does. -/
inductive Action (B Q R : Type) where
  | took (byte : B)
  | served (query : Q) (reply : R)
  | gave (byte : B)
  deriving DecidableEq

/-- A link over which queries come in and replies go out, byte by byte and in turn. -/
structure Link (B Q R : Type) where
  frame : Q → List B
  reply : R → List B
  /-- The queries that are understood. -/
  Hears : Q → Prop
  /-- The replies that a query may be given. -/
  Answers : Q → R → Prop

/-- How far the serving end is with a query. -/
inductive Turn (B Q R : Type) where
  | listening (taken : List B)
  | serving (query : Q)
  | answering (query : Q) (reply : R) (given : List B)

namespace Link

variable {B Q R : Type} (self : Link B Q R)

/-- A query is served when all of its frame is there, and the next one is only listened to when
all of its reply is given. -/
inductive Step : Turn B Q R → List (Action B Q R) → Turn B Q R → Prop
  | take (taken bytes : List B) :
      Step (.listening taken) (bytes.map .took) (.listening (taken ++ bytes))
  | hear {query : Q} (hhears : self.Hears query) :
      Step (.listening (self.frame query)) [] (.serving query)
  | serve {query : Q} {reply : R} (hanswers : self.Answers query reply) :
      Step (.serving query) [.served query reply] (.answering query reply [])
  | give (query : Q) (reply : R) (given bytes : List B) :
      Step (.answering query reply given) (bytes.map .gave) (.answering query reply (given ++ bytes))
  | finish (query : Q) (reply : R) :
      Step (.answering query reply (self.reply reply)) [] (.listening [])

/-- All that is done for one query. -/
def exchange (served : Q × R) : List (Action B Q R) :=
  (self.frame served.1).map .took ++ .served served.1 served.2 :: (self.reply served.2).map .gave

def dialogue (exchanges : List (Q × R)) : List (Action B Q R) := exchanges.flatMap self.exchange

/-- What is done of the exchange under way. -/
def begun : Turn B Q R → List (Action B Q R)
  | .listening taken => taken.map .took
  | .serving query => (self.frame query).map .took
  | .answering query reply given =>
    (self.frame query).map .took ++ .served query reply :: given.map .gave

/-- The query of the exchange under way, once it is there. -/
def current : Turn B Q R → List Q
  | .listening _ => []
  | .serving query | .answering query _ _ => [query]

/-- The queries of the turn were understood, and its reply is one of theirs. -/
def Sound : Turn B Q R → Prop
  | .listening _ => True
  | .serving query => self.Hears query
  | .answering query reply _ => self.Hears query ∧ self.Answers query reply

variable {self} {turn turn' : Turn B Q R} {actions : List (Action B Q R)}

/-- The exchange under way goes on, or it is complete. -/
theorem Step.exchanges (h : self.Step turn actions turn') (hsound : self.Sound turn) :
    self.Sound turn' ∧ ∃ exchanges : List (Q × R),
      (∀ served ∈ exchanges, self.Hears served.1 ∧ self.Answers served.1 served.2) ∧
        self.begun turn ++ actions = self.dialogue exchanges ++ self.begun turn' := by
  cases h with
  | take taken bytes =>
    refine ⟨trivial, [], nofun, ?_⟩
    simp [begun, dialogue]
  | hear hhears =>
    refine ⟨hhears, [], nofun, ?_⟩
    simp [begun, dialogue]
  | serve hanswers =>
    refine ⟨⟨hsound, hanswers⟩, [], nofun, ?_⟩
    simp [begun, dialogue]
  | give query reply given bytes =>
    refine ⟨hsound, [], nofun, ?_⟩
    simp [begun, dialogue]
  | finish query reply =>
    refine ⟨trivial, [(query, reply)], ?_, ?_⟩
    · intro served hserved
      rw [List.mem_singleton] at hserved
      rw [hserved]
      exact hsound
    · simp [begun, dialogue, exchange]

/-- Whatever is done over the link, it is one exchange after the other. -/
theorem Path.exchanges (h : Path self.Step turn actions turn') (hsound : self.Sound turn) :
    self.Sound turn' ∧ ∃ exchanges : List (Q × R),
      (∀ served ∈ exchanges, self.Hears served.1 ∧ self.Answers served.1 served.2) ∧
        self.begun turn ++ actions = self.dialogue exchanges ++ self.begun turn' := by
  induction h with
  | refl turn => exact ⟨hsound, [], nofun, by simp [dialogue]⟩
  | cons hstep _ ih =>
    obtain ⟨hsound, first, hfirst, hbegun⟩ := hstep.exchanges hsound
    obtain ⟨hlast, rest, hrest, hdone⟩ := ih hsound
    refine ⟨hlast, first ++ rest, ?_, ?_⟩
    · intro served hserved
      exact (List.mem_append.mp hserved).elim (hfirst served) (hrest served)
    · rw [← List.append_assoc, hbegun, List.append_assoc, hdone, dialogue, dialogue, dialogue,
        List.flatMap_append, List.append_assoc]

end Link

namespace Action

variable {B Q R : Type}

/-- The byte that comes in, if any. -/
def taken : Action B Q R → Option B
  | took byte => some byte
  | served _ _ | gave _ => none

theorem filterMap_taken_took (bytes : List B) :
    (bytes.map (took : B → Action B Q R)).filterMap taken = bytes := by
  rw [List.filterMap_map]
  exact List.filterMap_some

theorem filterMap_taken_exchange (frame : List B) (query : Q) (reply : R) (bytes : List B) :
    (frame.map took ++ served query reply :: bytes.map gave).filterMap taken = frame := by
  have hgave : (bytes.map (gave : B → Action B Q R)).filterMap taken = [] := by
    rw [List.filterMap_map]
    exact List.filterMap_eq_nil_iff.mpr fun _ _ => rfl
  rw [List.filterMap_append, filterMap_taken_took, List.filterMap_cons_none rfl, hgave,
    List.append_nil]

end Action

namespace Link

variable {B Q R : Type} (self : Link B Q R)

theorem taken_dialogue (exchanges : List (Q × R)) :
    (self.dialogue exchanges).filterMap Action.taken =
      (exchanges.map Prod.fst).flatMap self.frame := by
  induction exchanges with
  | nil => rfl
  | cons served exchanges ih =>
    have hfirst : (self.exchange served).filterMap Action.taken = self.frame served.1 :=
      Action.filterMap_taken_exchange _ _ _ _
    rw [dialogue, List.flatMap_cons, List.filterMap_append, hfirst, List.map_cons,
      List.flatMap_cons, ← ih]
    rfl

/-- The bytes taken for the exchange under way: a part of a frame, or all of it. -/
def taken_part : Turn B Q R → List B
  | .listening taken => taken
  | .serving _ | .answering _ _ _ => []

theorem taken_begun (turn : Turn B Q R) :
    (self.begun turn).filterMap Action.taken =
      (current turn).flatMap self.frame ++ taken_part turn := by
  cases turn with
  | listening taken => exact Action.filterMap_taken_took taken
  | serving query =>
    simp only [begun, current, taken_part, List.flatMap_singleton, List.append_nil]
    exact Action.filterMap_taken_took _
  | answering query reply given =>
    simp only [begun, current, taken_part, List.flatMap_singleton, List.append_nil]
    exact Action.filterMap_taken_exchange _ _ _ _

/-- Frames that can be told apart by their first bytes are heard as they were sent. -/
theorem prefix_of_frames (hcode : ∀ query query', self.Hears query → self.Hears query' →
      ∀ rest rest', self.frame query ++ rest = self.frame query' ++ rest' → query = query')
    (hbytes : ∀ query, self.frame query ≠ []) {heard sent : List Q} {rest : List B}
    (hheard : ∀ query ∈ heard, self.Hears query) (hsent : ∀ query ∈ sent, self.Hears query)
    (h : heard.flatMap self.frame ++ rest <+: sent.flatMap self.frame) : heard <+: sent := by
  induction heard generalizing sent with
  | nil => exact List.nil_prefix
  | cons query heard ih =>
    obtain ⟨after, h⟩ := h
    cases sent with
    | nil =>
      simp only [List.flatMap_cons, List.flatMap_nil, List.append_eq_nil_iff] at h
      exact absurd h.1.1.1 (hbytes query)
    | cons query' sent =>
      simp only [List.flatMap_cons, List.append_assoc] at h
      have hsame : query = query' := hcode _ _ (hheard _ List.mem_cons_self)
        (hsent _ List.mem_cons_self) _ _ h
      subst hsame
      rw [List.append_cancel_left_eq, ← List.append_assoc] at h
      exact List.cons_prefix_cons.mpr ⟨rfl, ih
        (fun query hquery => hheard query (List.mem_cons_of_mem _ hquery))
        (fun query hquery => hsent query (List.mem_cons_of_mem _ hquery)) ⟨after, h⟩⟩

/-- No query is left when all the bytes are heard. -/
theorem all_of_frames (hbytes : ∀ query, self.frame query ≠ []) {heard sent : List Q}
    (hleading : heard <+: sent) (h : heard.flatMap self.frame = sent.flatMap self.frame) :
    heard = sent := by
  obtain ⟨rest, rfl⟩ := hleading
  rw [List.flatMap_append, List.self_eq_append_right] at h
  cases rest with
  | nil => rw [List.append_nil]
  | cons query rest =>
    rw [List.flatMap_cons, List.append_eq_nil_iff] at h
    exact absurd h.1 (hbytes query)

end Link

end foundation
