import Mathlib.Data.List.GetD
import Mathlib.Logic.Basic

/-
  The engine of `parser.c`: states with their transitions, and
  an event for every byte.

  Main declarations:
    * `ParserEvent`, `StateTransition`, `ParserDefinition`
    * `EventParser`, `parserFeed`, `parserFeedAll`
    * `ParserDefinition.WellFormed`
    * `event_parser_runs_iff`
-/

------------------------------------------------------------
-- Definitions And Events
------------------------------------------------------------

namespace Socks5d

/-
  `struct parser_event`; `next` tells whether it leads to the
  second event.
-/
structure ParserEvent where
  type : Nat := 0
  data : List UInt8 := [0, 0, 0]
  n : UInt8 := 0
  next : Bool := false
deriving DecidableEq

/- What an action makes of an event, for a byte. -/
abbrev ParserAction := ParserEvent → UInt8 → ParserEvent

/-
  `struct parser_state_transition`; `none` is a null pointer.
-/
structure StateTransition where
  when : Int := 0
  dest : Nat := 0
  act1 : Option ParserAction := none
  act2 : Option ParserAction := none

/- `ANY` -/
def anyByte : Int := 1 <<< 9

/-
  `struct parser_definition`: for each state the transitions
  from its pointer on, and how many of them are its own.
-/
structure ParserDefinition where
  statesCount : Nat
  states : List (List StateTransition)
  statesN : List Nat
  startState : Nat

/- `struct parser` of `parser.c` -/
structure EventParser where
  classes : List Nat
  definition : ParserDefinition
  state : Nat
  e1 : ParserEvent
  e2 : ParserEvent

namespace EventParser

/- `parser_init` with the memory that it asks for -/
def parserInit
    (classes : List Nat)
    (definition : ParserDefinition) : EventParser where
  classes := classes
  definition := definition
  state := definition.startState
  e1 := {}
  e2 := {}

/- `parser_reset` -/
def parserReset (p : EventParser) : EventParser :=
  { p with state := p.definition.startState }

/- `parser_no_classes`: the array has 0xFF elements. -/
def parserNoClasses : List Nat :=
  List.replicate 0xFF 0

end EventParser

------------------------------------------------------------
-- Feeding
------------------------------------------------------------

/- A transition against a byte and its class -/
def StateTransition.matched
    (t : StateTransition)
    (type : Nat)
    (c : UInt8) : Bool :=
  if t.when ≤ 0xFF then decide ((c.toNat : Int) = t.when)
  else if t.when = anyByte then true
  else decide (type &&& t.when.toNat ≠ 0)

/-
  The loop of `parser_feed` up to the first match; the outer
  `none` is a read behind the transitions.
-/
def matchLoop
    (state : List StateTransition)
    (type : Nat)
    (c : UInt8) :
    Nat → Nat → Option (Option StateTransition)
| 0, _ => some none
| turns + 1, i =>
    match state[i]? with
    | none => none
    | some t =>
        if t.matched type c then some (some t)
        else matchLoop state type c turns (i + 1)

/- What a match does; its first action is not checked. -/
def StateTransition.fire
    (t : StateTransition)
    (c : UInt8)
    (p : EventParser) : Option EventParser :=
  t.act1.map fun act1 =>
    match t.act2 with
    | none =>
        { p with
          e1 := act1 p.e1 c
          state := t.dest }
    | some act2 =>
        { p with
          e1 := { act1 p.e1 c with next := true }
          e2 := act2 p.e2 c
          state := t.dest }

namespace EventParser

/-
  `parser_feed`; `none` is a read outside of an array. With
  no match the events keep what they had.
-/
def parserFeed
    (p : EventParser)
    (c : UInt8) : Option EventParser :=
  match p.classes[c.toNat]?, p.definition.states[p.state]?,
      p.definition.statesN[p.state]? with
  | some type, some state, some n =>
      let p := { p with
        e1.next := false
        e2.next := false }
      (matchLoop state type c n 0).bind fun
        | none => some p
        | some t => t.fire c p
  | _, _, _ => none

/- The list of events that `parser_feed` returns -/
def events (p : EventParser) : List ParserEvent :=
  if p.e1.next then [p.e1, p.e2] else [p.e1]

/- A parser that is fed byte after byte, and its events -/
def parserFeedAll :
    List UInt8 → EventParser →
      Option (EventParser × List (List ParserEvent))
| [], p => some (p, [])
| c :: rest, p =>
    (parserFeed p c).bind fun next =>
      (parserFeedAll rest next).map fun r =>
        (r.1, next.events :: r.2)

end EventParser

------------------------------------------------------------
-- Well Formed Definitions
------------------------------------------------------------

/- The transitions that a state has -/
def ParserDefinition.transitions
    (d : ParserDefinition)
    (i : Nat) : List StateTransition :=
  (d.states.getD i []).take (d.statesN.getD i 0)

/-
  Every state has the transitions that it counts, and these
  have an action and lead to a state.
-/
structure ParserDefinition.WellFormed
    (d : ParserDefinition) : Prop where
  start : d.startState < d.statesCount
  states : d.states.length = d.statesCount
  statesN : d.statesN.length = d.statesCount
  within : ∀ i < d.statesCount,
    d.statesN.getD i 0 ≤ (d.states.getD i []).length
  acts : ∀ i < d.statesCount, ∀ t ∈ d.transitions i,
    t.act1 ≠ none
  leads : ∀ i < d.statesCount, ∀ t ∈ d.transitions i,
    t.dest < d.statesCount

section Engine

variable {p q : EventParser}
variable {d : ParserDefinition}
variable {classes : List Nat}
variable {c : UInt8}

/-
  The loop stays within the transitions and finds the first
  of the rest that matches, by induction on the turns.
-/
theorem matchLoop_eq
    (state : List StateTransition)
    (type : Nat)
    (c : UInt8)
    (turns i : Nat)
    (hIn : i + turns ≤ state.length) :
    matchLoop state type c turns i =
      some (((state.drop i).take turns).find? fun t =>
        t.matched type c) := by
  induction turns generalizing i with
  | zero => simp [matchLoop]
  | succ turns ih =>
      have hLt : i < state.length := by omega
      unfold matchLoop
      rw [List.getElem?_eq_getElem hLt,
        List.drop_eq_getElem_cons hLt, List.take_succ_cons,
        List.find?_cons]
      cases hMatch : state[i].matched type c with
      | true => simp [hMatch]
      | false => simp [hMatch, ih (i + 1) (by omega)]

/- What a byte does in a state of a well formed definition -/
theorem ParserDefinition.WellFormed.feed
    (h : d.WellFormed)
    (hDefinition : p.definition = d)
    (hState : p.state < d.statesCount)
    {type : Nat}
    (hClass : p.classes[c.toNat]? = some type) :
    p.parserFeed c =
      match (d.transitions p.state).find? fun t =>
        t.matched type c with
      | none => some { p with
          e1.next := false
          e2.next := false }
      | some t => t.fire c { p with
          e1.next := false
          e2.next := false } := by
  subst hDefinition
  have hStates : p.state < p.definition.states.length :=
    h.states ▸ hState
  have hN : p.state < p.definition.statesN.length :=
    h.statesN ▸ hState
  have hWithin := h.within p.state hState
  unfold ParserDefinition.transitions
  rw [List.getD_eq_getElem _ _ hStates,
    List.getD_eq_getElem _ _ hN] at hWithin ⊢
  unfold EventParser.parserFeed
  simp only [hClass, List.getElem?_eq_getElem hStates,
    List.getElem?_eq_getElem hN]
  rw [matchLoop_eq _ _ _ _ _ (by omega), List.drop_zero,
    Option.bind_some]

/- The parser goes on, to a state that there is. -/
theorem ParserDefinition.WellFormed.feeds
    (h : d.WellFormed)
    (hDefinition : p.definition = d)
    (hState : p.state < d.statesCount)
    (hClass : c.toNat < p.classes.length) :
    ∃ q, p.parserFeed c = some q ∧ q.definition = d ∧
      q.classes = p.classes ∧ q.state < d.statesCount := by
  rw [h.feed hDefinition hState
    (List.getElem?_eq_getElem hClass)]
  split
  · exact ⟨_, rfl, hDefinition, rfl, hState⟩
  · rename_i t hFound
    have hMem := List.mem_of_find?_eq_some hFound
    rcases Option.ne_none_iff_exists'.mp
      (h.acts _ hState t hMem) with ⟨act1, hAct⟩
    have hDest := h.leads _ hState t hMem
    unfold StateTransition.fire
    rw [hAct]
    cases t.act2 with
    | none => exact ⟨_, rfl, hDefinition, rfl, hDest⟩
    | some act2 => exact ⟨_, rfl, hDefinition, rfl, hDest⟩

/- A byte that has no class is read behind the array. -/
theorem EventParser.parserFeed_outside
    (hClass : p.classes.length ≤ c.toNat) :
    p.parserFeed c = none := by
  unfold EventParser.parserFeed
  rw [List.getElem?_eq_none hClass]

theorem ParserDefinition.WellFormed.runs_iff
    (h : d.WellFormed)
    (hDefinition : p.definition = d)
    (hState : p.state < d.statesCount)
    (bytes : List UInt8) :
    (EventParser.parserFeedAll bytes p).isSome = true ↔
      ∀ c ∈ bytes, c.toNat < p.classes.length := by
  induction bytes generalizing p with
  | nil => simp [EventParser.parserFeedAll]
  | cons c rest ih =>
      unfold EventParser.parserFeedAll
      by_cases hClass : c.toNat < p.classes.length
      · rcases h.feeds hDefinition hState hClass with
          ⟨q, hFeed, hSame, hClasses, hNext⟩
        rw [hFeed, Option.bind_some, Option.isSome_map,
          ih hSame hNext, hClasses, List.forall_mem_cons]
        exact (and_iff_right hClass).symm
      · rw [EventParser.parserFeed_outside (Nat.not_lt.mp hClass)]
        simp [hClass]

end Engine

/-
  For every well formed definition, every array of classes and
  every stream: `parser_feed` stays within all arrays exactly
  when each byte has a class. The array of
  `parser_no_classes` has none for 0xFF.
-/
theorem event_parser_runs_iff
    (d : ParserDefinition)
    (classes : List Nat)
    (bytes : List UInt8)
    (h : d.WellFormed) :
    ((EventParser.parserFeedAll bytes
        (.parserInit classes d)).isSome = true ↔
      ∀ c ∈ bytes, c.toNat < classes.length) ∧
    ((EventParser.parserFeedAll bytes (.parserInit
        EventParser.parserNoClasses d)).isSome = true ↔
      0xFF ∉ bytes) := by
  refine ⟨h.runs_iff rfl h.start bytes, ?_⟩
  rw [h.runs_iff rfl h.start bytes]
  have hSize : (EventParser.parserInit
      EventParser.parserNoClasses d).classes.length = 255 :=
    List.length_replicate
  rw [hSize]
  constructor
  · intro hAll hIn
    exact Nat.lt_irrefl 255 (hAll 0xFF hIn)
  · intro hOut c hC
    have hNe : c ≠ 0xFF := fun hEq => hOut (hEq ▸ hC)
    have hNat : c.toNat ≠ 255 := fun hEq =>
      hNe (UInt8.toNat_inj.mp hEq)
    have hLt := c.toNat_lt
    omega

/- The transitions of `parser_test.c`: a letter and all others -/
def fooTransitions : List StateTransition :=
  let act (type : Nat) : ParserAction := fun ret c =>
    { ret with
      type := type
      n := 1
      data := ret.data.set 0 c }
  [{ when := 0x46, dest := 0, act1 := some (act 0) },
   { when := 0x66, dest := 0, act1 := some (act 0) },
   { when := anyByte, dest := 1, act1 := some (act 1) }]

/- The definition of `parser_test.c` -/
def fooDefinition : ParserDefinition where
  statesCount := 2
  states := [fooTransitions, fooTransitions]
  statesN := [3, 3]
  startState := 0

theorem fooDefinition_wellFormed :
    fooDefinition.WellFormed := by
  have hEach : ∀ i < 2, ∀ t ∈ fooDefinition.transitions i,
      t.act1 ≠ none ∧ t.dest < 2 := by
    intro i hLt t hT
    have hRow : fooDefinition.transitions i =
        fooTransitions := by
      rcases i with _ | _ | i
      · rfl
      · rfl
      · omega
    rw [hRow] at hT
    simp only [fooTransitions, List.mem_cons,
      List.not_mem_nil, or_false] at hT
    rcases hT with rfl | rfl | rfl <;> simp
  refine ⟨by decide, rfl, rfl, by decide, ?_, ?_⟩
  · exact fun i hLt t hT => (hEach i hLt t hT).1
  · exact fun i hLt t hT => (hEach i hLt t hT).2

theorem event_parser_runs_foo :
    ((EventParser.parserFeedAll [0x66, 0xFF]
        (.parserInit [0, 0] fooDefinition)).isSome = true ↔
      ∀ c ∈ [(0x66 : UInt8), 0xFF], c.toNat < 2) ∧
    ((EventParser.parserFeedAll [0x66, 0xFF] (.parserInit
        EventParser.parserNoClasses
          fooDefinition)).isSome = true ↔
      0xFF ∉ [(0x66 : UInt8), 0xFF]) :=
  event_parser_runs_iff fooDefinition [0, 0] [0x66, 0xFF]
    fooDefinition_wellFormed

end Socks5d
