import Socks5d.Buffer

/-
  The length-driven parser of `new_parser.c`.

  A parser runs through an array of substates. A `longRead`
  substate stores a fixed number of bytes and may check them;
  a `readN` substate reads the length of the `longRead`
  substate that follows it.

  Main declarations:
    * `Substate`, `Parser`
    * `parserInit`, `parserFeed`, `isDone`, `consume`
-/

------------------------------------------------------------
-- Data
------------------------------------------------------------

namespace Socks5d

/- `enum parser_state` -/
inductive ParserState where
  | singleRead
  | readN
  | longRead
  | doneRead
  | errorRead
deriving DecidableEq, Inhabited

/-
  The type `check`: from the stored bytes and their number
  to the verdict and the error code written, if any.
-/
abbrev Check :=
  List UInt8 → UInt8 → Bool × Option UInt8

/- `struct parser_substate`; a null pointer is `none`. -/
structure Substate where
  state : ParserState
  result : Option (List UInt8) := none
  check : Option Check := none
  size : UInt8 := 0
  remaining : UInt8 := 0
deriving Inhabited

/- `struct parser` -/
structure Parser where
  index : Nat
  size : Nat
  current : ParserState
  states : List Substate
  error : UInt8
deriving Inhabited

namespace Parser

/- The substate at the current index. -/
def substate (p : Parser) : Substate :=
  p.states.getD p.index default

/- Replace the substate at the current index. -/
def setSubstate
    (p : Parser)
    (substate : Substate) : Parser :=
  { p with states := p.states.set p.index substate }

/- Step to the next substate, or be done after the last. -/
def advance (p : Parser) : Parser :=
  let p := { p with index := p.index + 1 }
  if p.size ≤ p.index then
    { p with current := .doneRead }
  else
    { p with current := p.substate.state }

/- Record the error code that a check wrote. -/
def noteError
    (p : Parser)
    (written : Option UInt8) : Parser :=
  { p with error := written.getD p.error }

end Parser

------------------------------------------------------------
-- Operations
------------------------------------------------------------

/- `parser_init`, over an array of substates -/
def parserInit (states : List Substate) : Parser where
  index := 0
  size := states.length
  current := (states.getD 0 default).state
  states := states
  error := 0

/- `result[i] = b` through the substate's pointer -/
def store
    (result : Option (List UInt8))
    (i b : UInt8) : Option (List UInt8) :=
  result.map fun bytes => bytes.set i.toNat b

/- The `single_read` case of `parser_feed`. -/
def feedSingleRead
    (p : Parser)
    (b : UInt8) : Parser :=
  let substate := { p.substate with
    result := store p.substate.result 0 b }
  let p := p.setSubstate substate
  match substate.check with
  | none => p.advance
  | some check =>
      let verdict := check (substate.result.getD []) 1
      let p := p.noteError verdict.2
      if verdict.1 then p.advance
      else p.setSubstate { substate with state := .errorRead }

/- The `read_N` case of `parser_feed`. -/
def feedReadN
    (p : Parser)
    (b : UInt8) : Parser :=
  let p := { p with index := p.index + 1 }
  if p.size ≤ p.index then
    { p with current := .errorRead }
  else
    let substate := { p.substate with
      remaining := b, size := b }
    let p := { p with current := substate.state }
    if b = 0 then
      -- an empty string, and the long_read is skipped
      (p.setSubstate
        { substate with result := some [0] }).advance
    else
      p.setSubstate { substate with
        result := some (List.replicate (b.toNat + 1) 0) }

/- The `long_read` case of `parser_feed`. -/
def feedLongRead
    (p : Parser)
    (b : UInt8) : Parser :=
  let s := p.substate
  let substate := { s with
    result := store s.result (s.size - s.remaining) b
    remaining := s.remaining - 1 }
  if substate.remaining = (0 : UInt8) then
    let substate := { substate with
      result := store substate.result s.size 0 }
    let p := p.setSubstate substate
    match substate.check with
    | none => p.advance
    | some check =>
        let verdict :=
          check (substate.result.getD []) substate.size
        let p := p.noteError verdict.2
        if verdict.1 then p.advance
        else { p with current := .errorRead }
  else
    p.setSubstate substate

/- `parser_feed` -/
def parserFeed
    (p : Parser)
    (b : UInt8) : Parser :=
  match p.current with
  | .singleRead => feedSingleRead p b
  | .readN => feedReadN p b
  | .longRead => feedLongRead p b
  | .doneRead => p
  | .errorRead => p

/- `is_done` -/
def isDone : ParserState → Bool
| .errorRead => true
| .doneRead => true
| _ => false

/- The parser as an incremental reader. -/
def Parser.reader : Incremental.Reader Parser UInt8 where
  feed := parserFeed
  stop := fun p => isDone p.current

/- What `consume` returns, leaves behind and says of errors. -/
structure Consumed (limit : Nat) where
  parser : Parser
  buffer : Buffer limit
  state : ParserState
  error : Bool

/-
  `consume`, with the flag that its callers clear before: the
  last `is_done` sets it in the error state.
-/
def consume
    {limit : Nat}
    (b : Buffer limit)
    (p : Parser) : Consumed limit :=
  let fed := b.feed Parser.reader p
  { parser := fed.1
    buffer := fed.2
    state :=
      if b.canRead then fed.1.current
      else (p.states.getD 0 default).state
    error := b.canRead &&
      decide (fed.1.current = .errorRead) }

/- With a byte to read, `consume` returns the new state. -/
theorem consume_state
    {limit : Nat}
    {b : Buffer limit}
    (hSome : b.pending ≠ [])
    (p : Parser) :
    (consume b p).state = (consume b p).parser.current := by
  simp only [consume, (b.canRead_eq_true_iff).mpr hSome,
    if_true]

/- The flag says that it is the error state. -/
theorem consume_error
    {limit : Nat}
    {b : Buffer limit}
    (hSome : b.pending ≠ [])
    (p : Parser) :
    (consume b p).error =
      decide ((consume b p).parser.current = .errorRead) := by
  simp only [consume, (b.canRead_eq_true_iff).mpr hSome,
    Bool.true_and]

theorem consume_fine
    {limit : Nat}
    {b : Buffer limit}
    {p : Parser}
    (h : (consume b p).state ≠ .errorRead) :
    (consume b p).error = false := by
  unfold consume at h ⊢
  dsimp only at h ⊢
  cases hRead : b.canRead with
  | true =>
      rw [hRead, if_pos rfl] at h
      rw [Bool.true_and]
      exact decide_eq_false h
  | false => rfl

end Socks5d
