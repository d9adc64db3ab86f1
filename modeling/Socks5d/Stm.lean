import Socks5d.State

/-
  The state machine engine: `stm.c`.

  Main declarations:
    * `StateDefinition`
    * `handleFirst`, `jump`, `stmHandler`
-/

namespace Socks5d

/- An event handler: the state it returns comes second. -/
abbrev Handler := Key → Answers → St → St × Nat

/- `struct state_definition`; a null pointer is `none`. -/
structure StateDefinition where
  onArrival : Option (Key → Answers → St → St) := none
  onDeparture : Option (Key → St → St) := none
  onReadReady : Option Handler := none
  onWriteReady : Option Handler := none
  onBlockReady : Option Handler := none

/- The machine enters a state and runs `on_arrival`. -/
def arrive
    (states : Nat → StateDefinition)
    (next : Nat)
    (key : Key)
    (a : Answers)
    (s : St) : St :=
  let s := St.note { s with conn.current := some next }
    (.enter next)
  match (states next).onArrival with
  | none => s
  | some onArrival => onArrival key a s

/- `on_departure` of the current state. -/
def depart
    (states : Nat → StateDefinition)
    (key : Key)
    (s : St) : St :=
  match s.conn.current.bind fun current =>
      (states current).onDeparture with
  | none => s
  | some onDeparture => onDeparture key s

/- `handle_first`; the initial state is 0 in both tables. -/
def handleFirst
    (states : Nat → StateDefinition)
    (key : Key)
    (a : Answers)
    (s : St) : St :=
  if s.conn.current = none then
    arrive states HELLO_READ key a s
  else s

/- `jump` -/
def jump
    (states : Nat → StateDefinition)
    (next : Nat)
    (key : Key)
    (a : Answers)
    (s : St) : St :=
  if next > s.conn.maxState then s.crash .abort
  else if s.conn.current = some next then s
  else arrive states next key a (depart states key s)

/-
  `stm_handler_read`, `stm_handler_write` and
  `stm_handler_block`: `ready` selects the handler.
-/
def stmHandler
    (ready : StateDefinition → Option Handler)
    (states : Nat → StateDefinition)
    (key : Key)
    (a : Answers)
    (s : St) : St × Nat :=
  let s := handleFirst states key a s
  match ready (states (s.conn.current.getD HELLO_READ)) with
  | none => (s.crash .abort, HELLO_READ)
  | some onReady =>
      let handled := onReady key a s
      (jump states handled.2 key a handled.1, handled.2)

end Socks5d
