import Scrutiny.Foundation.Buffer

namespace foundation

/-- How values of some type are laid out in a buffer. Any value found at a position is the one
that is written there. -/
structure Format (B T : Type) where
  encode : T → List B
  read : Buffer B → Nat → Option T
  slice_iff : ∀ buffer position value,
    buffer.slice position (encode value).length = encode value ↔
      read buffer position = some value

namespace Format

variable {B S T : Type}

/-- Nothing at all. -/
def empty : Format B Unit where
  encode _ := []
  read _ _ := some ()
  slice_iff _ _ _ := iff_of_true rfl rfl

/-- A single cell. -/
def cell : Format B B where
  encode value := [value]
  read buffer position := some (buffer position)
  slice_iff buffer position value := by
    have hslice : buffer.slice position 1 = [buffer position] := rfl
    rw [List.length_singleton, hslice, List.singleton_inj, Option.some.injEq]

/-- Two values, one after the other. -/
def pair (first : Format B S) (second : Format B T) : Format B (S × T) where
  encode value := first.encode value.1 ++ second.encode value.2
  read buffer position :=
    (first.read buffer position).bind fun s =>
      (second.read buffer (position + (first.encode s).length)).map fun t => (s, t)
  slice_iff buffer position value := by
    obtain ⟨s, t⟩ := value
    rw [List.length_append, Buffer.slice_add, Option.bind_eq_some_iff]
    constructor
    · intro hslice
      obtain ⟨hs, ht⟩ := List.append_inj hslice (Buffer.length_slice _ _ _)
      refine ⟨s, (first.slice_iff buffer position s).mp hs, ?_⟩
      rw [(second.slice_iff buffer _ t).mp ht]
      rfl
    · rintro ⟨s', hs, hmap⟩
      obtain ⟨t', ht, hpair⟩ := Option.map_eq_some_iff.mp hmap
      obtain ⟨rfl, rfl⟩ := Prod.mk.inj hpair
      rw [(first.slice_iff buffer position s').mpr hs, (second.slice_iff buffer _ t').mpr ht]

/-- The values of another type, given as those of the first. -/
def of_equiv (format : Format B S) (e : S ≃ T) : Format B T where
  encode value := format.encode (e.symm value)
  read buffer position := (format.read buffer position).map e
  slice_iff buffer position value := by
    rw [format.slice_iff, Option.map_eq_some_iff]
    constructor
    · exact fun h => ⟨e.symm value, h, e.apply_symm_apply value⟩
    · rintro ⟨s, hs, rfl⟩
      rwa [e.symm_apply_apply]

/-- A value after a cell that says what it is. -/
theorem slice_tagged_iff (format : Format B T) (buffer : Buffer B) (position : Nat) (tag : B)
    (value : T) :
    buffer.slice position (tag :: format.encode value).length = tag :: format.encode value ↔
      buffer position = tag ∧ format.read buffer (position + 1) = some value := by
  rw [List.length_cons, Buffer.slice_succ, List.cons.injEq, format.slice_iff]

theorem length_flatMap_le (format : Format B T) {bound : Nat}
    (hbound : ∀ value, (format.encode value).length ≤ bound) (values : List T) :
    (values.flatMap format.encode).length ≤ values.length * bound := by
  induction values with
  | nil => exact Nat.zero_le _
  | cons value values ih =>
    have hfirst := hbound value
    rw [List.flatMap_cons, List.length_append, List.length_cons, Nat.succ_mul]
    omega

/-- Reads a value that ends before the limit, and gives the position after it. -/
def parse (format : Format B T) (buffer : Buffer B) (limit position : Nat) : Option (T × Nat) :=
  (format.read buffer position).bind fun value =>
    let next := position + (format.encode value).length
    if limit < next then none else some (value, next)

/-- A value is parsed just when the cells up to the limit start with it. -/
theorem parse_iff (format : Format B T) {buffer : Buffer B} {limit position next : Nat}
    {value : T} :
    format.parse buffer limit position = some (value, next) ↔
      position ≤ next ∧ next ≤ limit ∧
        buffer.slice position (limit - position) =
          format.encode value ++ buffer.slice next (limit - next) := by
  rw [parse, Option.bind_eq_some_iff]
  constructor
  · rintro ⟨value', hread, hparse⟩
    simp only at hparse
    split at hparse
    · cases hparse
    · obtain ⟨rfl, rfl⟩ := Prod.mk.inj (Option.some.inj hparse)
      have hsplit : limit - position = (format.encode value').length +
          (limit - (position + (format.encode value').length)) := by
        omega
      refine ⟨by omega, by omega, ?_⟩
      rw [hsplit, Buffer.slice_add, (format.slice_iff buffer position value').mpr hread]
  · rintro ⟨hle, hlimit, hslice⟩
    obtain ⟨hlength, hvalue, _⟩ := Buffer.slice_eq_append hslice
    rw [Buffer.length_slice] at hlength
    refine ⟨value, (format.slice_iff buffer position value).mp hvalue, ?_⟩
    have hnext : position + (format.encode value).length = next := by omega
    simp only [hnext]
    rw [if_neg (by omega)]

/-- Reads as many values one after the other. -/
def parse_many (format : Format B T) (buffer : Buffer B) (limit : Nat) :
    Nat → Nat → Option (List T × Nat)
  | 0, position => some ([], position)
  | n + 1, position =>
    (format.parse buffer limit position).bind fun first =>
      (format.parse_many buffer limit n first.2).map fun others =>
        (first.1 :: others.1, others.2)

theorem parse_many_iff (format : Format B T) {buffer : Buffer B} {limit n position next : Nat}
    (hposition : position ≤ limit) {values : List T} :
    format.parse_many buffer limit n position = some (values, next) ↔
      values.length = n ∧ position ≤ next ∧ next ≤ limit ∧
        buffer.slice position (limit - position) =
          values.flatMap format.encode ++ buffer.slice next (limit - next) := by
  induction n generalizing position values with
  | zero =>
    rw [parse_many, Option.some.injEq, Prod.mk.injEq, List.length_eq_zero_iff]
    constructor
    · rintro ⟨rfl, rfl⟩
      exact ⟨rfl, Nat.le_refl _, hposition, rfl⟩
    · rintro ⟨rfl, hle, hlimit, hslice⟩
      have hlength := congrArg List.length hslice
      simp only [List.flatMap_nil, List.nil_append, Buffer.length_slice] at hlength
      exact ⟨rfl, by omega⟩
  | succ n ih =>
    rw [parse_many, Option.bind_eq_some_iff]
    constructor
    · rintro ⟨⟨value, middle⟩, hfirst, hmap⟩
      obtain ⟨⟨others, next'⟩, hothers, hvalues⟩ := Option.map_eq_some_iff.mp hmap
      obtain ⟨rfl, rfl⟩ := Prod.mk.inj hvalues
      obtain ⟨hle, hlimit, hslice⟩ := format.parse_iff.mp hfirst
      obtain ⟨hlength, hle', hlimit', hslice'⟩ := (ih hlimit).mp hothers
      refine ⟨congrArg (· + 1) hlength, hle.trans hle', hlimit', ?_⟩
      rw [hslice, hslice', List.flatMap_cons, List.append_assoc]
    · rintro ⟨hlength, hle, hlimit, hslice⟩
      cases values with
      | nil => cases hlength
      | cons value values =>
        rw [List.flatMap_cons, List.append_assoc] at hslice
        obtain ⟨hsum, _, hrest⟩ := Buffer.slice_eq_append hslice
        rw [List.length_append, Buffer.length_slice] at hsum
        have hmiddle : position + (format.encode value).length ≤ limit := by omega
        have hremaining : limit - position - (format.encode value).length =
            limit - (position + (format.encode value).length) := by
          omega
        rw [hremaining] at hrest
        refine ⟨(value, position + (format.encode value).length),
          format.parse_iff.mpr ⟨Nat.le_add_right _ _, hmiddle, ?_⟩, ?_⟩
        · rw [hslice, hrest]
        · have hothers := (ih hmiddle).mpr ⟨Nat.succ.inj hlength, by omega, hlimit, hrest⟩
          rw [hothers]
          rfl

/-- What decoding a value over an old entry gives: nothing where none is parsed, or an entry
that holds the value and the position after it. -/
def Decodes {A : Type} (format : Format B T) (buffer : Buffer B) (limit position : Nat)
    (Holds : A → T → Prop) (decoded : A × Option Nat) : Prop :=
  match format.parse buffer limit position with
  | none => decoded.2 = none
  | some (value, next) => decoded.2 = some next ∧ Holds decoded.1 value

section

variable {A : Type} {format : Format B T} {buffer : Buffer B} {limit position : Nat}
variable {Holds : A → T → Prop}

theorem decodes_of_read_none (entry : A) (hread : format.read buffer position = none) :
    format.Decodes buffer limit position Holds (entry, none) := by
  rw [Decodes, parse, hread]
  rfl

theorem decodes_of_read_le {value : T} {next : Nat} {entry : A}
    (hread : format.read buffer position = some value)
    (hnext : position + (format.encode value).length = next) (hle : next ≤ limit)
    (hholds : Holds entry value) :
    format.Decodes buffer limit position Holds (entry, some next) := by
  rw [Decodes, parse, hread]
  simp only [Option.bind_some, hnext]
  rw [if_neg (Nat.not_lt.mpr hle)]
  exact ⟨rfl, hholds⟩

/-- The value that is read is held where it ends before the limit. -/
theorem decodes_of_read {value : T} {next : Nat} {entry : A} (rejected : A)
    (hread : format.read buffer position = some value)
    (hnext : position + (format.encode value).length = next) (hholds : Holds entry value) :
    format.Decodes buffer limit position Holds
      (if limit < next then (rejected, none) else (entry, some next)) := by
  by_cases hlimit : limit < next
  · rw [if_pos hlimit, Decodes, parse, hread]
    simp only [Option.bind_some, hnext]
    rw [if_pos hlimit]
    trivial
  · rw [if_neg hlimit]
    exact decodes_of_read_le hread hnext (Nat.le_of_not_lt hlimit) hholds

end

end Format

/-- A loop that decodes the entries of a table in place, one after the other. -/
structure TableDecoder {B T : Type} (format : Format B T) (buffer : Buffer B) (limit : Nat)
    (C A : Type) where
  table : C → Nat → A
  set : C → (Nat → A) → C
  set_table : ∀ c, set c (table c) = c
  table_set : ∀ c entries, table (set c entries) = entries
  set_set : ∀ c entries others, set (set c entries) others = set c others
  /-- The entry at a position over an old one, and the position after it. -/
  decode : Nat → A → A × Option Nat
  Holds : A → T → Prop
  decodes : ∀ position entry, position < limit →
    format.Decodes buffer limit position Holds (decode position entry)
  encode_pos : ∀ value, 0 < (format.encode value).length
  /-- The loop over so many entries, from an index and a position on. -/
  loop : Nat → Nat → Nat → C → C × Option Nat
  loop_zero : ∀ i position c, loop 0 i position c = (c, some position)
  loop_succ : ∀ n i position c, loop (n + 1) i position c =
    if limit < position + 1 then (c, none)
    else
      let (entry, next) := decode position (table c i)
      let c := set c (Function.update (table c) i entry)
      match next with
      | some position => loop n (i + 1) position c
      | none => (c, none)

namespace TableDecoder

variable {B T C A : Type} {format : Format B T} {buffer : Buffer B} {limit : Nat}

/-- Where no value is parsed, the loop stops. -/
theorem loop_succ_of_none (self : TableDecoder format buffer limit C A) (n i : Nat)
    {position : Nat} (c : C) (hparse : format.parse buffer limit position = none) :
    (self.loop (n + 1) i position c).2 = none := by
  rw [self.loop_succ]
  split
  · rfl
  · have hdecodes := self.decodes position (self.table c i) (by omega)
    rw [Format.Decodes, hparse] at hdecodes
    simp only [hdecodes]

/-- Where a value is parsed, the loop goes on after it with an entry that holds it. -/
theorem loop_succ_of_some (self : TableDecoder format buffer limit C A) (n i : Nat)
    {position next : Nat} (c : C) {value : T}
    (hparse : format.parse buffer limit position = some (value, next)) :
    ∃ entry, self.Holds entry value ∧ self.loop (n + 1) i position c =
      self.loop n (i + 1) next (self.set c (Function.update (self.table c) i entry)) := by
  obtain ⟨_, _, hslice⟩ := format.parse_iff.mp hparse
  obtain ⟨hlength, _⟩ := Buffer.slice_eq_append hslice
  have hpos := self.encode_pos value
  have hinside : position < limit := by omega
  have hdecodes := self.decodes position (self.table c i) hinside
  rw [Format.Decodes, hparse] at hdecodes
  obtain ⟨hnext, hholds⟩ := hdecodes
  refine ⟨_, hholds, ?_⟩
  rw [self.loop_succ, if_neg (by omega)]
  simp only [hnext]

theorem loop_of_parse_none (self : TableDecoder format buffer limit C A) {n i position : Nat}
    {c : C} (hparse : format.parse_many buffer limit n position = none) :
    (self.loop n i position c).2 = none := by
  induction n generalizing i position c with
  | zero => cases hparse
  | succ n ih =>
    cases hfirst : format.parse buffer limit position with
    | none => exact self.loop_succ_of_none n i c hfirst
    | some first =>
      obtain ⟨entry, _, hloop⟩ := self.loop_succ_of_some n i c hfirst
      rw [Format.parse_many, hfirst, Option.bind_some, Option.map_eq_none_iff] at hparse
      rw [hloop]
      exact ih hparse

/-- The entries of the table hold what is parsed, and the rest is left alone. -/
theorem loop_of_parse_some (self : TableDecoder format buffer limit C A) {n i position last : Nat}
    {c : C} {values : List T}
    (hparse : format.parse_many buffer limit n position = some (values, last)) :
    ∃ entries, self.loop n i position c = (self.set c entries, some last) ∧
      (∀ k < i, entries k = self.table c k) ∧
      List.Forall₂ self.Holds ((List.range' i n).map entries) values := by
  induction n generalizing i position c values with
  | zero =>
    obtain ⟨rfl, rfl⟩ := Prod.mk.inj (Option.some.inj hparse)
    exact ⟨self.table c, by rw [self.loop_zero, self.set_table], fun _ _ => rfl, .nil⟩
  | succ n ih =>
    rw [Format.parse_many, Option.bind_eq_some_iff] at hparse
    obtain ⟨⟨value, middle⟩, hfirst, hmap⟩ := hparse
    obtain ⟨⟨others, _⟩, hothers, hvalues⟩ := Option.map_eq_some_iff.mp hmap
    obtain ⟨rfl, rfl⟩ := Prod.mk.inj hvalues
    obtain ⟨entry, hholds, hloop⟩ := self.loop_succ_of_some n i c hfirst
    let next := self.set c (Function.update (self.table c) i entry)
    have hrest : ∃ entries, self.loop n (i + 1) middle next = (self.set next entries, some _) ∧
        (∀ k < i + 1, entries k = self.table next k) ∧
        List.Forall₂ self.Holds ((List.range' (i + 1) n).map entries) others := ih hothers
    obtain ⟨entries, hstored, hbefore, hentries⟩ := hrest
    rw [self.set_set] at hstored
    rw [self.table_set] at hbefore
    refine ⟨entries, hloop.trans hstored, fun k hk => ?_, ?_⟩
    · rw [hbefore k (by omega), Function.update_of_ne (by omega)]
    · rw [List.range'_succ, List.map_cons]
      refine .cons ?_ hentries
      rw [hbefore i (by omega), Function.update_self]
      exact hholds

/-- The loop gets to the end just when the values are parsed. -/
theorem loop_eq_some_iff (self : TableDecoder format buffer limit C A) {n i position last : Nat}
    {c : C} : (self.loop n i position c).2 = some last ↔
      ∃ values, format.parse_many buffer limit n position = some (values, last) := by
  constructor
  · intro hloop
    cases hparse : format.parse_many buffer limit n position with
    | none =>
      rw [self.loop_of_parse_none hparse] at hloop
      cases hloop
    | some parsed =>
      obtain ⟨entries, hstored, _⟩ := self.loop_of_parse_some hparse
      rw [hstored] at hloop
      cases hloop
      exact ⟨_, rfl⟩
  · rintro ⟨values, hparse⟩
    obtain ⟨entries, hstored, _⟩ := self.loop_of_parse_some hparse
    rw [hstored]

end TableDecoder

end foundation
