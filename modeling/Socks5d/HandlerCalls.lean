import Socks5d.State

/-
  The calls of one handler while its connection stays in one
  state, and what a reading state makes of the bytes that
  arrive in them.

  Main declarations:
    * `Calls`, `received`
    * `Calls.last_call`
    * `Feeds` and `Calls.fed`
-/

------------------------------------------------------------
-- Calls
------------------------------------------------------------

namespace Socks5d

/- The descriptor of the key has its slot. -/
def St.Slotted
    (key : Key)
    (t : St) : Prop :=
  ∃ interest attached,
    t.srv.sel.Has key.fd interest attached

/-
  The calls of a handler from its state on, each with what it
  found and with the answers of the system, and the result of
  the last one. Other connections may change what is shared
  in between.
-/
inductive Calls
    (handler : Key → Answers → St → St × Nat)
    (state : Nat)
    (key : Key) :
    St → List (St × Answers) → St × Nat → Prop where
  | last
      (s t : St)
      (a : Answers)
      (hSame : t.conn = s.conn)
      (hSlot : t.Slotted key) :
      Calls handler state key s [(t, a)] (handler key a t)
  | again
      (s t : St)
      (a : Answers)
      (hSame : t.conn = s.conn)
      (hSlot : t.Slotted key)
      (hStays : (handler key a t).2 = state)
      (rest : List (St × Answers))
      (r : St × Nat)
      (hRest : Calls handler state key (handler key a t).1
        rest r) :
      Calls handler state key s ((t, a) :: rest) r

/- The bytes that `recv` has for the calls. -/
def received (calls : List (St × Answers)) : List UInt8 :=
  calls.flatMap fun call => call.1.recvBytes call.2

section Running

variable {handler : Key → Answers → St → St × Nat}
variable {state : Nat}
variable {key : Key}
variable {s : St}
variable {calls : List (St × Answers)}
variable {r : St × Nat}

/-
  What every call that stays keeps of the connection holds
  when the last call begins.
-/
theorem Calls.last_call
    {P : Conn → Prop}
    (h : Calls handler state key s calls r)
    (hStart : P s.conn)
    (hKeep : ∀ t a, t.Slotted key → P t.conn →
      (t, a) ∈ calls → (handler key a t).2 = state →
        P (handler key a t).1.conn) :
    ∃ t a, calls.getLast? = some (t, a) ∧
      t.Slotted key ∧ P t.conn ∧ r = handler key a t := by
  induction h with
  | last s t a hSame hSlot =>
      refine ⟨t, a, rfl, hSlot, ?_, rfl⟩
      rw [hSame]
      exact hStart
  | again s t a hSame hSlot hStays rest r hRest ih =>
      have hHere : P t.conn := by
        rw [hSame]
        exact hStart
      have hNext := hKeep t a hSlot hHere
        List.mem_cons_self hStays
      rcases ih hNext fun t a hT hP hMem hStay =>
          hKeep t a hT hP (List.mem_cons_of_mem _ hMem) hStay
        with ⟨u, b, hLast, hU, hP, hR⟩
      refine ⟨u, b, ?_, hU, hP, hR⟩
      rw [List.getLast?_cons, hLast]
      rfl

/- The last call is one of them. -/
theorem mem_of_last
    {call : St × Answers}
    (h : calls.getLast? = some call) : call ∈ calls :=
  List.mem_of_getLast? h

end Running

end Socks5d

------------------------------------------------------------
-- Reading States
------------------------------------------------------------

namespace Socks5d

/-
  A handler feeds what `recv` returns to a reader that the
  connection holds, and leaves its state when it stops.
-/
structure Feeds
    {σ : Type}
    (R : Incremental.Reader σ UInt8)
    (parser : Conn → σ)
    (Ready : Conn → Prop)
    (handler : Key → Answers → St → St × Nat)
    (state : Nat) : Prop where
  fed : ∀ key a t, t.Slotted key → Ready t.conn →
    t.recvBytes a ≠ [] →
      let after := R.consume (parser t.conn)
        (t.conn.readBuffer.pending ++ t.recvBytes a)
      parser (handler key a t).1.conn = after.1 ∧
        (handler key a t).1.conn.readBuffer.pending = after.2
  stays : ∀ key a t, t.Slotted key → Ready t.conn →
    t.recvBytes a ≠ [] →
      ((handler key a t).2 = state ↔
        R.stop (parser (handler key a t).1.conn) = false)
  ready : ∀ key a t, t.Slotted key → Ready t.conn →
    t.recvBytes a ≠ [] → (handler key a t).2 = state →
      Ready (handler key a t).1.conn

section Reading

variable {σ : Type}
variable {R : Incremental.Reader σ UInt8}
variable {parser : Conn → σ}
variable {Ready : Conn → Prop}
variable {handler : Key → Answers → St → St × Nat}
variable {state : Nat}
variable {key : Key}
variable {s : St}
variable {calls : List (St × Answers)}
variable {r : St × Nat}

/-
  However the bytes are spread over the calls, the reader is
  where it would be had they come at once, and the state is
  left when it stops.
-/
theorem Calls.fed
    (hFeeds : Feeds R parser Ready handler state)
    (h : Calls handler state key s calls r)
    (hReady : Ready s.conn)
    (hEmpty : s.conn.readBuffer.pending = [])
    (hSome : ∀ call ∈ calls, call.1.recvBytes call.2 ≠ []) :
    let after := R.consume (parser s.conn) (received calls)
    parser r.1.conn = after.1 ∧
      r.1.conn.readBuffer.pending = after.2 ∧
      (r.2 = state ↔
        R.stop (parser r.1.conn) = false) := by
  induction h with
  | last s t a hSame hSlot =>
      have hBytes := hSome _ List.mem_cons_self
      have hHere : Ready t.conn := by
        rw [hSame]
        exact hReady
      have hFed := hFeeds.fed key a t hSlot hHere hBytes
      have hAll : received [(t, a)] = t.recvBytes a :=
        List.append_nil _
      rw [hSame, hEmpty, List.nil_append] at hFed
      rw [hAll]
      exact ⟨hFed.1, hFed.2,
        hFeeds.stays key a t hSlot hHere hBytes⟩
  | again s t a hSame hSlot hStays rest r hRest ih =>
      have hBytes := hSome _ List.mem_cons_self
      have hHere : Ready t.conn := by
        rw [hSame]
        exact hReady
      have hFed := hFeeds.fed key a t hSlot hHere hBytes
      have hGoing := (hFeeds.stays key a t hSlot hHere
        hBytes).1 hStays
      have hNext := hFeeds.ready key a t hSlot hHere hBytes
        hStays
      rw [hSame, hEmpty, List.nil_append] at hFed
      have hAll : received ((t, a) :: rest) =
          t.recvBytes a ++ received rest := rfl
      rcases R.consume_cases (parser s.conn) (t.recvBytes a)
        with ⟨hLive, hEq⟩ | ⟨used, left, _, hStops, hEq⟩
      · rw [hEq] at hFed
        have hRead := ih hNext hFed.2
          (fun call hMem =>
            hSome call (List.mem_cons_of_mem _ hMem))
        rw [hFed.1] at hRead
        rw [hAll, R.consume_append_of_live hLive]
        exact hRead
      · -- a reader that has stopped would have left the state
        rw [hEq] at hFed
        rw [hFed.1, hStops.stop_feedAll] at hGoing
        nomatch hGoing

end Reading

end Socks5d
