import Socks5d.Attribution

/-
  What `password_consume` is given: the bytes that are read
  while relaying, and not those that wait in the buffer when
  relaying begins.

  Main declarations:
    * `Conn.fed`, `Conn.madeAvailable`
    * `unfed_preserved`, `Relay.matched`
    * `Relays`, `KeptByRelay.run`
    * `Dissecting`, `dissected_iff`
-/

------------------------------------------------------------
-- Bytes Read And Bytes Searched
------------------------------------------------------------

namespace Socks5d

/- The bytes that `password_consume` is given. -/
def Ev.fed : Ev → List UInt8
| .consumed bytes => bytes
| _ => []

/- The bytes that `recv` returns. -/
def Ev.received : Ev → List UInt8
| .recv _ bytes => bytes
| _ => []

/- All bytes that the dissector has been given, in order. -/
def Conn.fed (c : Conn) : List UInt8 :=
  c.log.flatMap Ev.fed

/- `COPY` has just been entered. -/
def Conn.CopyBegins (c : Conn) : Prop :=
  c.current = some COPY ∧ c.log.getLast? = some (.enter COPY)

/-
  The bytes that can be relayed, in the order in which the
  proxy has got them: what waits in the buffer of the client
  when relaying begins in `c`, and what has been read from
  both sides up to `d`.
-/
def Conn.madeAvailable (c d : Conn) : List UInt8 :=
  c.readBuffer.pending ++
    (d.log.drop c.log.length).flatMap Ev.received

/- A growth that feeds what it reads. -/
def Conn.Matched (c d : Conn) : Prop :=
  ∃ events, d.log = c.log ++ events ∧
    events.flatMap Ev.fed = events.flatMap Ev.received

/- Neither read nor fed. -/
def Ev.Idle (event : Ev) : Prop :=
  event.fed = [] ∧ event.received = []

section Matching

variable {k : ConnId}
variable {key : Key}
variable {a : Answers}
variable {s t u : St}
variable {c d e : Conn}
variable {r : St × Nat}

theorem Conn.Matched.trans
    (h : c.Matched d)
    (h' : d.Matched e) : c.Matched e := by
  rcases h with ⟨first, hFirst, hSame⟩
  rcases h' with ⟨second, hSecond, hSame'⟩
  refine ⟨first ++ second, ?_, ?_⟩
  · rw [hSecond, hFirst, List.append_assoc]
  · rw [List.flatMap_append, List.flatMap_append, hSame,
      hSame']

theorem flatMap_nil
    {f : Ev → List UInt8}
    {events : List Ev}
    (h : ∀ event ∈ events, f event = []) :
    events.flatMap f = [] :=
  List.flatMap_eq_nil_iff.mpr h

theorem Conn.Matched.of_idle
    (h : c.Grows Ev.Idle d) : c.Matched d := by
  rcases h with ⟨events, hLog, hIdle⟩
  refine ⟨events, hLog, ?_⟩
  rw [flatMap_nil fun event hEvent =>
      (hIdle event hEvent).1,
    flatMap_nil fun event hEvent => (hIdle event hEvent).2]

/- With the dissectors on, what is read is searched. -/
theorem Relay.matched
    {side : Side}
    (h : Relay side s t)
    (hOn : s.srv.passwordDissectors = 0x00) :
    s.conn.Matched t.conn := by
  cases h with
  | ended =>
      have hLog := copyEnded_log side s
      exact ⟨_, hLog, rfl⟩
  | got bytes hSome hRoom =>
      let found := (passwordConsume bytes
        s.conn.passwordParser).2
      let user :=
        (s.srv.users.entry s.conn.userIndex).name.getD []
      have hDissected : (dissect bytes
          (s.note (.recv side bytes))).conn.log =
            (s.conn.log ++ [.recv side bytes]) ++
              .consumed bytes ::
                found.map (Ev.captured user) := by
        unfold dissect
        rw [if_pos (show (s.note
          (.recv side bytes)).srv.passwordDissectors = 0x00
            from hOn)]
        rfl
      have hLog : (copyGot side bytes s).conn.log =
          s.conn.log ++ .recv side bytes :: .consumed bytes ::
            found.map (Ev.captured user) := by
        have hSame : (copyGot side bytes s).conn.log =
            (dissect bytes
              (s.note (.recv side bytes))).conn.log := by
          cases side <;> rfl
        rw [hSame, hDissected, List.append_assoc]
        rfl
      have hFound : ∀ f : Ev → List UInt8,
          (∀ what, f (.captured user what) = []) →
            (found.map (Ev.captured user)).flatMap f = [] := by
        intro f hCaptured
        apply flatMap_nil
        intro event hEvent
        rcases List.mem_map.mp hEvent with ⟨what, _, hEq⟩
        rw [← hEq]
        exact hCaptured what
      refine ⟨_, hLog, ?_⟩
      rw [List.flatMap_cons, List.flatMap_cons,
        List.flatMap_cons, List.flatMap_cons,
        hFound Ev.fed fun _ => rfl,
        hFound Ev.received fun _ => rfl]
      show [] ++ (bytes ++ []) = bytes ++ ([] ++ [])
      rfl
  | sendFailed =>
      have hLog := copySendFailed_log side s
      exact ⟨_, hLog, rfl⟩
  | sent n =>
      have hLog := copySent_log side n s
      exact ⟨_, hLog, rfl⟩

/- The event that notes a state. -/
def Ev.isEnter : Ev → Bool
| .enter _ => true
| _ => false

/- Nothing is read or searched while connecting. -/
theorem Ev.ofConnecting_idle
    {event : Ev}
    (h : event.ofConnecting) :
    event.Idle ∧ event.isEnter = false := by
  unfold Ev.ofConnecting at h
  split at h
  all_goals first
    | exact ⟨⟨rfl, rfl⟩, rfl⟩
    | exact h.elim

/- Outside `COPY` nothing is searched. -/
theorem Ev.ofState_fed
    {state : Nat}
    {event : Ev}
    (h : event.ofState state)
    (hCopy : state ≠ COPY) : event.fed = [] := by
  unfold Ev.ofState at h
  split at h
  all_goals first
    | rfl
    | exact absurd rfl hCopy
    | exact (Ev.ofConnecting_idle h).1.1
    | exact h.elim

/- No call notes that a state is entered. -/
theorem Ev.ofState_isEnter
    {state : Nat}
    {event : Ev}
    (h : event.ofState state) : event.isEnter = false := by
  unfold Ev.ofState at h
  split at h
  all_goals first
    | rfl
    | exact (Ev.ofConnecting_idle h).2
    | exact h.elim

/- What follows a state's entry neither reads nor searches. -/
theorem Ev.ofArrival_idle
    {state : Nat}
    {event : Ev}
    (h : event.ofArrival state) :
    event.Idle ∧ event.isEnter = false := by
  unfold Ev.ofArrival at h
  split at h
  all_goals first
    | exact ⟨⟨rfl, rfl⟩, rfl⟩
    | exact Ev.ofConnecting_idle h
    | exact h.elim

/- An entry that is new is the one of the jump. -/
theorem enter_new
    {state target : Nat}
    (hGrows : s.conn.Grows (Ev.ofState state) r.1.conn)
    (hJump : SocksJump k key a r.1 r.2 u)
    (hFresh : Ev.enter target ∉ s.conn.log)
    (hIn : Ev.enter target ∈ u.conn.log) :
    r.2 = target ∧ r.1.conn.current ≠ some target := by
  have hCalled : Ev.enter target ∉ r.1.conn.log := by
    intro hBad
    rcases hGrows.new hBad with hOld | hNew
    · exact hFresh hOld
    · nomatch Ev.ofState_isEnter hNew
  rcases hJump.logs with ⟨_, hSame⟩ | ⟨hOther, hEnters⟩
  · rw [hSame] at hIn
    exact absurd hIn hCalled
  · rcases hEnters.new hIn with hOld | hNew
    · have hEntered : (entered r.2 r.1).conn.log =
          r.1.conn.log ++ [.enter r.2] := rfl
      rw [hEntered] at hOld
      rcases List.mem_append.mp hOld with hBefore | hEnter
      · exact absurd hBefore hCalled
      · have hTarget : target = r.2 := by
          injection List.mem_singleton.mp hEnter
        rw [← hTarget] at hOther ⊢
        exact ⟨rfl, hOther⟩
    · nomatch (Ev.ofArrival_idle hNew).2

theorem Conn.fed_eq
    (h : c.Grows (fun event => event.fed = []) d) :
    d.fed = c.fed := by
  rcases h with ⟨events, hLog, hNone⟩
  unfold Conn.fed
  rw [hLog, List.flatMap_append, flatMap_nil hNone,
    List.append_nil]

end Matching

end Socks5d

------------------------------------------------------------
-- Before Relaying
------------------------------------------------------------

namespace Socks5d

/-
  Nothing has been searched yet, if the connection has not
  come to `COPY` or has just entered it.
-/
def Conn.Unfed (c : Conn) : Prop :=
  c.isSocks = true →
    ((∀ state, c.current = some state → state < COPY) ∨
      c.log.getLast? = some (.enter COPY)) →
    c.fed = []

section Before

variable {k : ConnId}
variable {key : Key}
variable {a : Answers}
variable {s u : St}
variable {c d : Conn}
variable {r : St × Nat}

/- A history that ends with an event of some kind. -/
theorem getLast?_append_cases
    {log events : List Ev}
    {last : Ev}
    (h : (log ++ events).getLast? = some last) :
    (events = [] ∧ log.getLast? = some last) ∨
      last ∈ events := by
  cases hEvents : events.getLast? with
  | none =>
      have hNil := List.getLast?_eq_none_iff.mp hEvents
      rw [hNil, List.append_nil] at h
      exact Or.inl ⟨hNil, h⟩
  | some other =>
      rw [List.getLast?_append, hEvents] at h
      right
      rw [← Option.some.inj h]
      exact List.mem_of_getLast? hEvents

/- A call and a jump of a SOCKS connection. -/
theorem unfed_turn
    (hSocks : s.conn.isSocks = true)
    (hSound : s.srv.sel.Sound)
    (hOwns : Owns k s.srv.sel s.conn)
    (hTurn : SocksTurn k key a s r)
    (hJump : SocksJump k key a r.1 r.2 u)
    (hBefore : s.conn.Unfed) : u.conn.Unfed := by
  intro _ hEarly
  rcases hTurn.logs hSound hOwns with
    ⟨state, hState, hGrows⟩
  have hCurrent := (hTurn.current hSound hOwns).trans hState
  have hHeading := (hTurn.heading hSound hOwns hSocks).2
  have hNow : u.conn.current = some r.2 := hJump.enters
  have hCalled : state < COPY → r.1.conn.fed = [] := by
    intro hLt
    rw [Conn.fed_eq (hGrows.mono fun event hEvent =>
      Ev.ofState_fed hEvent (Nat.ne_of_lt hLt))]
    refine hBefore hSocks (Or.inl ?_)
    intro other hOther
    rw [Option.some.inj (hOther.symm.trans hState)]
    exact hLt
  have hLeft : (∀ next, u.conn.current = some next →
      next < COPY) → state < COPY := by
    intro hAll
    have hLt := hAll r.2 hNow
    exact Nat.lt_of_le_of_lt (hHeading.forward hCurrent
      (Nat.le_of_lt hLt)) hLt
  rcases hJump.logs with ⟨_, hSame⟩ | ⟨hOther, hEnters⟩
  · rw [hSame] at hEarly hLeft ⊢
    rcases hEarly with hAll | hLast
    · exact hCalled (hLeft hAll)
    · rcases hGrows with ⟨events, hLog, hKind⟩
      rw [hLog] at hLast
      rcases getLast?_append_cases hLast with
        ⟨hNil, hLast'⟩ | hMem
      · unfold Conn.fed
        rw [hLog, hNil, List.append_nil]
        exact hBefore hSocks (Or.inr hLast')
      · nomatch Ev.ofState_isEnter (hKind _ hMem)
  · have hLt : state < COPY := by
      rcases hEarly with hAll | hLast
      · exact hLeft hAll
      · rcases hEnters with ⟨events, hLog, hKind⟩
        rw [hLog] at hLast
        rcases getLast?_append_cases hLast with
          ⟨_, hLast'⟩ | hMem
        · have hEntered : (entered r.2 r.1).conn.log =
              r.1.conn.log ++ [.enter r.2] := rfl
          rw [hEntered, List.getLast?_append,
            List.getLast?_singleton] at hLast'
          have hCopy : r.2 = COPY := by
            injection Option.some.inj hLast'
          rw [hCopy] at hOther hHeading
          refine Nat.lt_of_le_of_ne (hHeading.forward hCurrent
            (Nat.le_refl _)) ?_
          intro hEq
          rw [hCurrent, hEq] at hOther
          exact hOther rfl
        · nomatch (Ev.ofArrival_idle (hKind _ hMem)).2
    have hEntered : (entered r.2 r.1).conn.fed =
        r.1.conn.fed :=
      Conn.fed_eq (.single rfl rfl)
    rw [Conn.fed_eq (hEnters.mono fun event hEvent =>
      (Ev.ofArrival_idle hEvent).1.1), hEntered]
    exact hCalled hLt

theorem unfed_preserved :
    Preserved fun _ _ c => c.Unfed := by
  constructor
  · intro admins k isSocks client _ _
    rfl
  · intro admins k c addresses _ hBefore
    exact hBefore
  · intro k s request hState hBefore hSocks _
    have hNoted : (s.note (.notified k request)).conn.fed =
        s.conn.fed := Conn.fed_eq (.single rfl rfl)
    rw [hNoted]
    refine hBefore hSocks (Or.inl ?_)
    intro state hHere
    rw [Option.some.inj (hHere.symm.trans hState)]
    decide
  · intro k key a s hState hBefore hSocks _
    have hEntered : (entered HELLO_READ s).conn.fed =
        s.conn.fed := Conn.fed_eq (.single rfl rfl)
    have hService : s.conn.isSocks = true := by
      unfold helloReadInit at hSocks
      split at hSocks
      · exact hSocks
      · exact hSocks
    have hStarted : (helloReadInit key a
        (entered HELLO_READ s)).conn.fed =
          (entered HELLO_READ s).conn.fed := by
      unfold helloReadInit
      split
      · exact Conn.fed_eq (.single rfl rfl)
      · exact Conn.fed_eq (.single rfl rfl)
    rw [hStarted, hEntered]
    refine hBefore hService (Or.inl ?_)
    intro state hHere
    rw [hState] at hHere
    nomatch hHere
  · intro k key a s r u hSocks hSound hOwns hTurn hJump hBefore
    exact unfed_turn hSocks hSound hOwns hTurn hJump hBefore
  · intro k key a s r u hMng hTurn hJump _ hSocks
    have hService := hJump.service.trans hTurn.service
    rw [hService, hMng] at hSocks
    nomatch hSocks

end Before

end Socks5d

------------------------------------------------------------
-- While Relaying
------------------------------------------------------------

namespace Socks5d

/-
  A connection that was relaying at some moment still relays
  or is closed, and some property has been kept since then.
-/
structure Relays
    (P : Conn → Prop)
    (d : Conn) : Prop where
  service : d.isSocks = true
  state : d.current = some COPY ∨ d.Closed
  kept : P d

/-
  What `copy_read` and `copy_write` keep, on the sides that
  ask for them and with the dissectors set in a certain way,
  and what the entry into another state keeps.
-/
structure KeptByRelay
    (on : UInt8 → Prop)
    (P : Conn → Prop) : Prop where
  relay : ∀ side s t, on s.srv.passwordDissectors →
    Copying s.conn → s.conn.fdOf side ≠ -1 →
      Relay side s t → RelayAsked side s t →
        P s.conn → P t.conn
  enters : ∀ next (s : St) parser, P s.conn →
    P (entered next
      { s with conn.request.parser := parser }).conn

/- A step of the server with the dissectors set so. -/
def StepWith
    (on : UInt8 → Prop)
    (w w' : World) : Prop :=
  on w.srv.passwordDissectors ∧ ∃ l, server.step w l w'

section Relaying

variable {w w' : World}
variable {k : ConnId}
variable {key : Key}
variable {a : Answers}
variable {s t u : St}
variable {on : UInt8 → Prop}
variable {P : Conn → Prop}
variable {r : St × Nat}

/- A call while relaying, and the jump after it. -/
theorem KeptByRelay.turn
    (h : KeptByRelay on P)
    (hCopy : s.conn.current = some COPY)
    (hOn : on s.srv.passwordDissectors)
    (hSound : s.srv.sel.Sound)
    (hOwns : Owns k s.srv.sel s.conn)
    (hTurn : SocksTurn k key a s r)
    (hJump : SocksJump k key a r.1 r.2 u)
    (hBefore : P s.conn) : P u.conn := by
  have hHere := (hTurn.current hSound hOwns).trans hCopy
  have hCalled : P r.1.conn := by
    cases hTurn with
    | relay _ hCopying hSlots side hSide hFd t hRelay hAsked =>
        have hReady :=
          hRelay.ready hSound hOwns hCopying hSlots
        rw [copyFinish_conn hReady.1.fds hReady.2]
        exact h.relay side s t hOn hCopying hSide hRelay
          hAsked hBefore
    | helloRead hBad => nomatch hCopy.symm.trans hBad
    | helloWrite hBad => nomatch hCopy.symm.trans hBad
    | authRead hBad => nomatch hCopy.symm.trans hBad
    | authWrite hBad => nomatch hCopy.symm.trans hBad
    | requestRead hBad => nomatch hCopy.symm.trans hBad
    | requestResolvDone hBad => nomatch hCopy.symm.trans hBad
    | connectingWrite hBad => nomatch hCopy.symm.trans hBad
    | requestWrite hBad => nomatch hCopy.symm.trans hBad
  generalize hNext : r.2 = next at hJump
  cases hJump with
  | stay => exact hCalled
  | plain => exact h.enters _ _ _ hCalled
  | userpassRead hBad => nomatch hHere.symm.trans hBad
  | requestRead hBad =>
      rcases hBad with hBad | hBad
      · nomatch hHere.symm.trans hBad
      · nomatch hHere.symm.trans hBad
  | connecting hBad =>
      rcases hBad with hBad | hBad
      · nomatch hHere.symm.trans hBad
      · nomatch hHere.symm.trans hBad
  | copy hBad => nomatch hHere.symm.trans hBad

/- An event of a connection that is relaying. -/
theorem Relays.event
    (h : Relays P s.conn)
    (hKept : KeptByRelay on P)
    (hCopy : s.conn.current = some COPY)
    (hOn : on s.srv.passwordDissectors)
    (hSound : s.srv.sel.Sound)
    (hOwns : Owns k s.srv.sel s.conn)
    (hEvent : SocksEvent k key a s t) :
    Relays P t.conn := by
  have hTurned : ∀ r u, SocksTurn k key a s r →
      SocksJump k key a r.1 r.2 u →
        P u.conn ∧ u.conn.isSocks = true := by
    intro r u hTurn hJump
    exact ⟨hKept.turn hCopy hOn hSound hOwns hTurn hJump h.kept,
      hJump.service.trans
        ((hTurn.service hSound hOwns).trans h.service)⟩
  cases hEvent with
  | going r _ hTurn hJump hNext =>
      rcases hTurned r t hTurn hJump with ⟨hAfter, hSocks⟩
      have hHere := (hTurn.current hSound hOwns).trans hCopy
      have hForward := (hTurn.heading hSound hOwns
        h.service).2.forward hHere hNext
      have hStays : r.2 = COPY :=
        Nat.le_antisymm hNext hForward
      refine ⟨hSocks, Or.inl ?_, hAfter⟩
      rw [← hStays]
      exact hJump.enters
  | ends r u hTurn hJump hNext =>
      rcases hTurned r u hTurn hJump with ⟨hAfter, hSocks⟩
      rw [socksv5Done_conn]
      refine ⟨hSocks, Or.inr ?_, hAfter⟩
      unfold Conn.Closed Conn.doneState Conn.errorState
      rw [hSocks, hJump.enters]
      rcases hNext with hDone | hError
      · left
        rw [hDone]
        rfl
      · right
        rw [hError]
        rfl
  | stuck hWhy => exact h

/- What happens to a connection that is relaying. -/
theorem Relays.change
    (h : Relays P (w.conn k))
    (hKept : KeptByRelay on P)
    (hInv : Inv w)
    (hOld : k < w.next)
    (hOn : on w.srv.passwordDissectors)
    (hChange : Change w k w') :
    Relays P (w'.conn k) := by
  have hNot : (w.conn k).current ≠ some REQUEST_RESOLV := by
    intro hBad
    rcases h.state with hCopy | hClosed
    · nomatch hBad.symm.trans hCopy
    · exact not_closed_of_le h.service hBad (by decide)
        hClosed
  cases hChange with
  | same _ hConn =>
      rw [hConn]
      exact h
  | born isSocks client hNew hConn =>
      rw [hNew] at hOld
      exact absurd hOld (Nat.lt_irrefl _)
  | resolution addresses _ hState hConn =>
      exact absurd hState hNot
  | socks key a t hLive hSocks hEvent hConn =>
      rw [hConn]
      have hCopy := h.state.resolve_right hLive.2
      have hStart : handleFirst clientStatbl key a
          (w.view k) = w.view k := by
        rw [handleFirst_eq rfl, if_neg]
        intro hNone
        nomatch hCopy.symm.trans hNone
      rw [hStart] at hEvent
      have hOwns := (hInv.wired _ hLive).owns
      exact Relays.event (s := w.view k) h hKept hCopy hOn
        hInv.sound hOwns hEvent
  | mng key a t hLive hMng hEvent hConn =>
      nomatch hMng.symm.trans h.service
  | block job rest a t hStarter hWaits hEvent hConn =>
      subst hStarter
      exact absurd hWaits.state hNot

/- Such a step, for a connection that is relaying. -/
theorem Relays.step
    (h : Relays P (w.conn k))
    (hKept : KeptByRelay on P)
    (hReach : server.Reachable w)
    (hOld : k < w.next)
    (hStep : StepWith on w w') :
    k < w'.next ∧ Relays P (w'.conn k) := by
  rcases hStep with ⟨hOn, l, hEnabled, hEq⟩
  have hInv := reachable_inv hReach
  have hReading : ∀ j < w.next, MngReading (w.conn j) :=
    fun j hLt => conn_invariant mngReading_preserved hReach hLt
  rw [hEq]
  rcases hInv.exec_cases hReading hEnabled with hSame |
    hMicro | hQuiet
  · rw [hSame]
    exact ⟨hOld, h⟩
  · have hLt := Nat.lt_of_lt_of_le hOld hMicro.next_le
    exact ⟨hLt, h.change hKept hInv hOld hOn
      (hMicro.change hLt)⟩
  · have hAll := hInv.quiet_keeps (P := fun w =>
      on w.srv.passwordDissectors ∧ k < w.next ∧
        Relays P (w.conn k)) ?_ hQuiet
      ⟨hOn, hOld, h⟩
    · exact hAll.2.2
    · rintro w w' hInv hMicro hSame ⟨hOn, hOld, hHere⟩
      have hLt := Nat.lt_of_lt_of_le hOld hMicro.next_le
      refine ⟨?_, hLt, hHere.change hKept hInv hOld hOn
        (hMicro.change hLt)⟩
      have hDissectors : w'.srv.passwordDissectors =
          w.srv.passwordDissectors :=
        congrArg (fun x => x.2.2) hSame
      rw [hDissectors]
      exact hOn

theorem StepWith.reachable
    (hReach : server.Reachable w)
    (hRun : Relation.ReflTransGen (StepWith on) w w') :
    server.Reachable w' := by
  induction hRun with
  | refl => exact hReach
  | tail _ hStep ih =>
      rcases hStep with ⟨_, l, hNext⟩
      exact ih.step hNext

/- From a moment of relaying on, what is kept holds. -/
theorem KeptByRelay.run
    (h : KeptByRelay on P)
    (hReach : server.Reachable w)
    (hOld : k < w.next)
    (hSocks : (w.conn k).isSocks = true)
    (hCopy : (w.conn k).current = some COPY)
    (hHere : P (w.conn k))
    (hRun : Relation.ReflTransGen (StepWith on) w w') :
    k < w'.next ∧ Relays P (w'.conn k) := by
  induction hRun with
  | refl => exact ⟨hOld, hSocks, Or.inl hCopy, hHere⟩
  | tail hPrefix hStep ih =>
      exact ih.2.step h (StepWith.reachable hReach hPrefix)
        ih.1 hStep

end Relaying

end Socks5d

------------------------------------------------------------
-- The Dissector And The Relay
------------------------------------------------------------

namespace Socks5d

/- A step of the server with the dissectors enabled. -/
def Dissecting (w w' : World) : Prop :=
  w.srv.passwordDissectors = 0x00 ∧
    ∃ l, server.step w l w'

/-
  Since the connection was as in `c`, it has been relaying,
  and everything that was read has been searched.
-/
structure Dissected (c d : Conn) : Prop where
  service : d.isSocks = true
  state : d.current = some COPY ∨ d.Closed
  matched : c.Matched d

section Runs

variable {w w' : World}
variable {k : ConnId}

/- With the dissectors on, relaying feeds what it reads. -/
theorem matched_kept
    (c : Conn) :
    KeptByRelay (· = 0x00) c.Matched where
  relay _ _ _ hOn _ _ hRelay _ hBefore :=
    hBefore.trans (hRelay.matched hOn)
  enters _ _ _ hBefore :=
    hBefore.trans (.of_idle (.single rfl ⟨rfl, rfl⟩))

/- Since relaying has begun, what is read is searched. -/
theorem Dissecting.run
    (hReach : server.Reachable w)
    (hOld : k < w.next)
    (hSocks : (w.conn k).isSocks = true)
    (hCopy : (w.conn k).current = some COPY)
    (hRun : Relation.ReflTransGen Dissecting w w') :
    k < w'.next ∧
      Dissected (w.conn k) (w'.conn k) := by
  have hKept := (matched_kept (w.conn k)).run hReach hOld
    hSocks hCopy (.of_idle (.of_eq rfl)) hRun
  exact ⟨hKept.1, hKept.2.service, hKept.2.state,
    hKept.2.kept⟩

/-
  From the moment at which relaying begins, with the
  dissectors enabled throughout: what the dissector has been
  given is what could be relayed if and only if no bytes of
  the client were waiting then.
-/
theorem dissected_iff
    (hReach : server.Reachable w)
    (hOld : k < w.next)
    (hSocks : (w.conn k).isSocks = true)
    (hBegins : (w.conn k).CopyBegins)
    (hRun : Relation.ReflTransGen Dissecting w w') :
    (w'.conn k).fed =
        (w.conn k).madeAvailable (w'.conn k) ↔
      (w.conn k).readBuffer.pending = [] := by
  have hUnfed : (w.conn k).fed = [] :=
    conn_invariant unfed_preserved hReach hOld hSocks
      (Or.inr hBegins.2)
  rcases (Dissecting.run hReach hOld hSocks hBegins.1
    hRun).2.matched with ⟨events, hLog, hSame⟩
  have hFed : (w'.conn k).fed =
      events.flatMap Ev.received := by
    unfold Conn.fed at hUnfed ⊢
    rw [hLog, List.flatMap_append, hUnfed, hSame,
      List.nil_append]
  have hAvailable : (w.conn k).madeAvailable (w'.conn k) =
      (w.conn k).readBuffer.pending ++
        events.flatMap Ev.received := by
    unfold Conn.madeAvailable
    rw [hLog, List.drop_left]
  rw [hFed, hAvailable]
  exact List.self_eq_append_left

end Runs

end Socks5d

------------------------------------------------------------
-- A Run
------------------------------------------------------------

namespace Socks5d

/- A server that searches for passwords. -/
def searchingServer : World :=
  let w := smallServer 0 ⟨fun _ => {}, 0⟩ ⟨fun _ => {}, 0⟩
  { w with srv.passwordDissectors := 0x00 }

theorem searchingServer_initial :
    Initial searchingServer := by
  have h : Initial (smallServer 0 ⟨fun _ => {}, 0⟩
      ⟨fun _ => {}, 0⟩) :=
    smallServer_initial _ _ (by decide) (Or.inl rfl)
  exact ⟨h.next, h.slots, h.valid, h.opened, h.users,
    h.authMethod, h.handedBack, h.metrics, h.threads, h.jobs,
    h.lost, h.fault⟩

/- A request with some bytes behind it, up to `COPY`. -/
def requestRun (behind : List UInt8) : List Label := [
  .read 3 { accept := some 5 },
  .read 5 { recv := some [5, 1, 0] },
  .write 5 { send := some 100 },
  .read 5 {
    recv := some ([5, 1, 0, 1, 127, 0, 0, 1, 0, 80] ++ behind)
    socket := some 6 },
  .write 6 {},
  .write 5 { send := some 100 }]

def relayingWorld (behind : List UInt8) : World :=
  runTo (requestRun behind) searchingServer

theorem relayingWorld_reachable
    (behind : List UInt8) :
    server.Reachable (relayingWorld behind) :=
  reachable_runTo _ (.init searchingServer_initial)

/- The client goes on with three bytes. -/
def relayedLabel : Label :=
  .read 5 { recv := some [1, 2, 3] }

theorem dissected_iff_alone :
    let w := relayingWorld []
    let w' := exec w relayedLabel
    (w'.conn 0).fed = [1, 2, 3] ∧
      ((w'.conn 0).fed =
          (w.conn 0).madeAvailable (w'.conn 0) ↔
        (w.conn 0).readBuffer.pending = []) := by
  intro w w'
  have hBegins : (w.conn 0).CopyBegins := by
    unfold Conn.CopyBegins
    decide +kernel
  have hStep : Dissecting w w' :=
    ⟨by decide +kernel, relayedLabel, by decide +kernel, rfl⟩
  refine ⟨by decide +kernel, ?_⟩
  exact dissected_iff (relayingWorld_reachable [])
    (by decide +kernel) (by decide +kernel) hBegins
    (.single hStep)

/- A byte behind the request is relayed, but not searched. -/
theorem dissected_misses :
    let w := relayingWorld [0x61]
    let w' := exec w relayedLabel
    server.Reachable w ∧ (w.conn 0).isSocks = true ∧
      (w.conn 0).CopyBegins ∧
      Relation.ReflTransGen Dissecting w w' ∧
      (w.conn 0).madeAvailable (w'.conn 0) =
        [0x61, 1, 2, 3] ∧
      (w'.conn 0).fed = [1, 2, 3] := by
  intro w w'
  have hStep : Dissecting w w' :=
    ⟨by decide +kernel, relayedLabel, by decide +kernel, rfl⟩
  refine ⟨relayingWorld_reachable [0x61], by decide +kernel,
    ?_, .single hStep, by decide +kernel, by decide +kernel⟩
  unfold Conn.CopyBegins
  decide +kernel

end Socks5d
