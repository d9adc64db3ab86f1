import Socks5d.Counters
import Socks5d.Streams

/-
  The transfers of the relay over a run of the server: the
  sizes of the calls of `recv` and `send` in `COPY` that
  succeeded, over all connections in order, and the counters
  that `copy_read` and `copy_write` keep of them.

  Main declarations:
    * `Transfer`, `Conn.relayed`, `transfers`
    * `Moves`, `SocksEvent.moves`
    * `step_transfers`
    * `transfers_counted`
-/

------------------------------------------------------------
-- What Is Transferred
------------------------------------------------------------

namespace Socks5d

/- The size of one call that succeeded. -/
inductive Transfer where
  | read (n : Nat)
  | write (n : Nat)
deriving DecidableEq

namespace Transfer

def size : Transfer → Nat
| .read n => n
| .write n => n

def read? : Transfer → Option Nat
| .read n => some n
| .write _ => none

def write? : Transfer → Option Nat
| .read _ => none
| .write n => some n

/- What is counted for a transfer. -/
def count
    (m : Metrics) :
    Transfer → Metrics
| .read n => countRead (UInt64.ofNat n) m
| .write n => countWrite (UInt64.ofNat n) m

end Transfer

def Ev.transfer? : Ev → Option Transfer
| .recv _ bytes => some (.read bytes.length)
| .send _ bytes => some (.write bytes.length)
| _ => none

/- The transfers of a connection since it is in `COPY`. -/
def relayedBy (log : List Ev) : List Transfer :=
  (log.dropWhile (· ≠ .enter COPY)).filterMap Ev.transfer?

def Conn.relayed (c : Conn) : List Transfer :=
  if c.isSocks then relayedBy c.log else []

/- The transfers that a world has and an earlier one had not. -/
def World.fresh (w w' : World) : List Transfer :=
  (List.range w'.next).flatMap fun k =>
    (w'.conn k).relayed.drop (w.conn k).relayed.length

/- The transfers of a run, in order. -/
def transfers :
    List Label → World → List Transfer
| [], _ => []
| l :: rest, w =>
    let w' := if Enabled w l then exec w l else w
    w.fresh w' ++ transfers rest w'

/- The counters of the transfers. -/
def Metrics.transferred
    (m : Metrics) :
    UInt64 × UInt64 × UInt64 × UInt64 × UInt64 :=
  (m.historicByteTransfer, m.averageBytesPerRead,
    m.totalReads, m.averageBytesPerWrite, m.totalWrites)

/- What an event adds to the history and to the counters. -/
structure Moves
    (s t : St)
    (moved : List Transfer) : Prop where
  relayed : t.conn.relayed = s.conn.relayed ++ moved
  metrics : t.srv.metrics.transferred =
    (moved.foldl Transfer.count s.srv.metrics).transferred
  one : moved.length ≤ 1

section Counting

variable {m m' : Metrics}

/- Counting only depends on the counters of transfers. -/
theorem count_congr
    (h : m'.transferred = m.transferred)
    (t : Transfer) :
    (Transfer.count m' t).transferred =
      (Transfer.count m t).transferred := by
  unfold Metrics.transferred at h
  simp only [Prod.mk.injEq] at h
  rcases h with ⟨hBytes, hReadAverage, hReads,
    hWriteAverage, hWrites⟩
  cases t with
  | read n =>
      unfold Transfer.count countRead Metrics.transferred
      simp only [hBytes, hReadAverage, hReads,
        hWriteAverage, hWrites]
  | write n =>
      unfold Transfer.count countWrite Metrics.transferred
      simp only [hBytes, hReadAverage, hReads,
        hWriteAverage, hWrites]

theorem counts_congr
    (h : m'.transferred = m.transferred)
    (moved : List Transfer) :
    (moved.foldl Transfer.count m').transferred =
      (moved.foldl Transfer.count m).transferred := by
  induction moved generalizing m m' with
  | nil => exact h
  | cons t rest ih => exact ih (count_congr h t)

end Counting

end Socks5d

------------------------------------------------------------
-- Calls That Transfer Nothing
------------------------------------------------------------

namespace Socks5d

section Still

variable {k : ConnId}
variable {key : Key}
variable {a : Answers}
variable {s t u : St}
variable {attached : Attachment}
variable {m : Metrics}

theorem replied_metrics
    (s : St)
    (status : SocksReplyStatus) :
    (replied s status).srv.metrics = s.srv.metrics := by
  rw [replied_srv]

theorem idleOrigin_metrics
    (s : St) :
    (idleOrigin s).srv.metrics = s.srv.metrics := by
  rcases idleOrigin_cases s with ⟨hSame, _⟩ |
    ⟨_, _, _, hIdle⟩
  · rw [hSame]
  · rw [hIdle]
    rfl

theorem answeredWith_metrics
    (s : St)
    (attached : Attachment)
    (status : SocksReplyStatus) :
    (answeredWith s attached status).srv.metrics =
      s.srv.metrics :=
  (idleOrigin_metrics _).trans (replied_metrics s status)

theorem refusedWith_metrics
    (s : St)
    (attached : Attachment)
    (status : SocksReplyStatus) :
    (refusedWith s attached status).srv.metrics =
      s.srv.metrics :=
  answeredWith_metrics { s with conn.connStatus := status }
    attached status

theorem unregisterFd_metrics
    (srv : Server)
    (fd : Fd) :
    (unregisterFd srv fd).1.metrics = srv.metrics := by
  unfold unregisterFd
  cases srv.sel.registered? fd with
  | none => rfl
  | some item =>
      cases hData : item.attached.data? with
      | none =>
          simp only [hData]
      | some data =>
          simp only [hData, destroy]
          split
          · rfl
          · rfl

theorem doneFd_metrics
    (fd : Fd)
    (s : St) :
    (doneFd fd s).srv.metrics = s.srv.metrics := by
  have hSame := unregisterFd_metrics s.srv fd
  unfold doneFd
  split
  · rfl
  · simp only []
    split
    · exact hSame
    · exact hSame

/- An attempt counts, but it transfers nothing. -/
theorem Connection.transferred
    {r : St × SocksReplyStatus}
    (h : Connection key a s attached r) :
    r.1.srv.metrics.transferred =
      s.srv.metrics.transferred := by
  cases h with
  | refused errno hAnswer =>
      exact (congrArg Metrics.transferred
        (refusedWith_metrics _ attached _)).trans rfl
  | underway hAnswer hFree => rfl
  | blocked hAnswer hTaken =>
      exact (congrArg Metrics.transferred
        (refusedWith_metrics
          ((attempted a s).arm key.fd opNoop attached) attached
          .generalSocksServerFailure)).trans rfl
  | atOnce hAnswer hFree => rfl
  | atOnceBlocked hAnswer hTaken =>
      exact (congrArg Metrics.transferred
        (refusedWith_metrics _ attached _)).trans rfl

theorem ConnectingWrite.transferred
    {r : St × Nat}
    (h : ConnectingWrite key a s attached r) :
    r.1.srv.metrics.transferred =
      s.srv.metrics.transferred := by
  cases h with
  | nextAfterFailure next rest hStatus hNext result hResult =>
      refine hResult.transferred.trans ?_
      rw [aimNext_srv]
  | gaveUp hStatus hNone =>
      refine congrArg _
        ((answeredWith_metrics _ attached _).trans ?_)
      exact unregisterFd_metrics s.srv s.conn.originFd
  | noAnswer hStatus hError =>
      exact congrArg _ (answeredWith_metrics _ attached _)
  | established hStatus hError hRoom =>
      exact (congrArg Metrics.transferred
        (replied_metrics (Socks5d.established (s.note
          (.soError (some none) (nextAddresses s).length)))
          .succeeded)).trans rfl
  | full hStatus hError hRoom => rfl
  | nextAfterError errno next rest hStatus hError hNext
      result hResult =>
      refine hResult.transferred.trans ?_
      rw [aimNext_srv]
      rfl
  | failed errno hStatus hError hNone =>
      exact congrArg _ (answeredWith_metrics _ attached _)

theorem ConnectingInit.transferred
    (h : ConnectingInit key a s attached u) :
    u.srv.metrics.transferred =
      s.srv.metrics.transferred := by
  cases h with
  | noSocket hNone =>
      exact congrArg _ (refusedWith_metrics _ attached _)
  | notSet fd hSome hNio =>
      exact congrArg _ (refusedWith_metrics _ attached _)
  | connected fd hSome hNio result hResult =>
      exact hResult.transferred

theorem HelloRead.metrics
    {r : St × Nat}
    (h : HelloRead key a s attached r) :
    r.1.srv.metrics = s.srv.metrics := by
  cases h <;> rfl

theorem HelloWrite.metrics
    {r : St × Nat}
    (h : HelloWrite key a s attached r) :
    r.1.srv.metrics = s.srv.metrics := by
  cases h <;> rfl

theorem AuthProcess.transferred
    {r : St × Nat}
    (h : AuthProcess s r) :
    r.1.srv.metrics.transferred =
      s.srv.metrics.transferred := by
  cases h <;> rfl

theorem AuthRead.transferred
    {r : St × Nat}
    (h : AuthRead key a s attached r) :
    r.1.srv.metrics.transferred =
      s.srv.metrics.transferred := by
  cases h with
  | failed hFailed => rfl
  | ended hBytes => rfl
  | more bytes hBytes hSome hGoing => rfl
  | rejected bytes hBytes processed hProcess =>
      exact hProcess.transferred
  | answered bytes hBytes hSome hDone processed hProcess =>
      exact hProcess.transferred

theorem AuthWrite.metrics
    {r : St × Nat}
    (h : AuthWrite key a s attached r) :
    r.1.srv.metrics = s.srv.metrics := by
  rcases authReply_eq s with ⟨wb, hReply⟩
  cases h <;> (rw [hReply]; rfl)

theorem RequestProcess.metrics
    {request : Request}
    {r : St × Nat}
    (h : RequestProcess key a request s attached r) :
    r.1.srv.metrics = s.srv.metrics := by
  cases h with
  | refused status addrFamily hRequest =>
      exact replied_metrics _ _
  | direct addrFamily domain len hType => rfl
  | noMemory hAlloc => exact replied_metrics _ _
  | noThread hThread => exact replied_metrics _ _
  | resolving hType hThread => rfl
  | waiting hType hThread => rfl

theorem RequestResolvDone.metrics
    {r : St × Nat}
    (h : RequestResolvDone key s attached r) :
    r.1.srv.metrics = s.srv.metrics := by
  cases h with
  | failed hList => exact replied_metrics _ _
  | first address rest hList =>
      rcases takeAddress_eq address
          { s.note (.resolved s.conn.originResolution) with
            conn.resolutionCurrent := address :: rest } with
        ⟨_, _, _, hEq⟩
      rw [hEq]
      rfl

/- Only `COPY` transfers. -/
theorem SocksTurn.transferred
    {r : St × Nat}
    (h : SocksTurn k key a s r)
    (hState : s.conn.current ≠ some COPY) :
    r.1.srv.metrics.transferred =
      s.srv.metrics.transferred := by
  cases h with
  | helloRead _ _ _ _ _ _ hCall =>
      exact congrArg _ hCall.metrics
  | helloWrite _ _ _ _ _ _ hCall =>
      exact congrArg _ hCall.metrics
  | authRead _ _ _ _ _ hCall => exact hCall.transferred
  | authWrite _ _ _ _ _ hCall =>
      exact congrArg _ hCall.metrics
  | requestRead _ _ _ _ _ p _ _ hCall =>
      cases hCall with
      | ended hBytes => rfl
      | more bytes hBytes hSome hGoing => rfl
      | processed bytes hBytes hSome hDone _ hResult =>
          exact congrArg _ hResult.metrics
  | requestResolvDone _ _ _ _ _ _ _ hCall =>
      exact congrArg _ hCall.metrics
  | connectingWrite _ _ _ _ _ _ _ hCall =>
      exact hCall.transferred
  | requestWrite _ _ _ _ _ hCall =>
      cases hCall <;> rfl
  | relay hCopy => exact absurd hCopy hState

theorem SocksJump.transferred
    {next : Nat}
    (h : SocksJump k key a s next u) :
    u.srv.metrics.transferred =
      s.srv.metrics.transferred := by
  cases h with
  | stay _ hState hNext => rfl
  | plain _ hNext hState parser hParser => rfl
  | userpassRead hState =>
      unfold authReadInit
      split
      · rfl
      · rfl
  | requestRead hState _ hInit =>
      cases hInit with
      | ready => rfl
      | starved wb site log fault hSite hLog hFault => rfl
  | connecting hState parser _ hInit => exact hInit.transferred
  | copy hState => rfl

theorem MngTurn.transferred
    {r : St × Nat}
    (h : MngTurn k key a s r) :
    r.1.srv.metrics.transferred =
      s.srv.metrics.transferred := by
  cases h with
  | helloRead _ _ _ _ _ hCall => exact congrArg _ hCall.metrics
  | helloWrite _ _ _ _ _ hCall =>
      exact congrArg _ hCall.metrics
  | authRead _ _ _ hCall => exact hCall.transferred
  | authWrite _ _ _ hCall => exact congrArg _ hCall.metrics
  | request state hState hRequest hShape _ hCall =>
      refine congrArg _ ?_
      cases hCall with
      | stay t next hFrame => exact hFrame.metrics
      | writes t hFrame => exact hFrame.metrics
      | reads t hFrame => exact hFrame.metrics
      | ends t next hNext hFrame => exact hFrame.metrics

theorem MngJump.metrics
    {next : Nat}
    (h : MngJump key a s next u) :
    u.srv.metrics = s.srv.metrics := by
  cases h with
  | stay _ hState hNext => rfl
  | plain _ hNext hState => rfl
  | userpassRead hState =>
      unfold authReadInit
      split
      · rfl
      · rfl
  | request _ hNext hState _ hFrame => exact hFrame.metrics

theorem MngEvent.transferred
    (h : MngEvent k key a s t) :
    t.srv.metrics.transferred =
      s.srv.metrics.transferred := by
  cases h with
  | going r _ hTurn hJump hNext =>
      exact (congrArg _ hJump.metrics).trans hTurn.transferred
  | ends r u hTurn hJump hNext =>
      exact (congrArg _ ((doneFd_metrics _ u).trans
        hJump.metrics)).trans hTurn.transferred

end Still

end Socks5d

------------------------------------------------------------
-- What An Event Transfers
------------------------------------------------------------

namespace Socks5d

section Events

variable {k : ConnId}
variable {key : Key}
variable {a : Answers}
variable {s t u : St}
variable {r : St × Nat}
variable {side : Side}
variable {log events : List Ev}
variable {moved : List Transfer}

/- Nothing is relayed before `COPY` is entered. -/
theorem relayedBy_none
    (h : Ev.enter COPY ∉ log) : relayedBy log = [] := by
  unfold relayedBy
  rw [List.dropWhile_eq_nil_iff.mpr]
  · rfl
  · intro event hMem
    exact decide_eq_true fun hIs => h (hIs ▸ hMem)

/- Nor by entering it. -/
theorem relayedBy_enter
    (h : Ev.enter COPY ∉ log) :
    relayedBy (log ++ [.enter COPY]) = [] := by
  unfold relayedBy
  rw [List.dropWhile_append_of_pos]
  · rfl
  · intro event hMem
    exact decide_eq_true fun hIs => h (hIs ▸ hMem)

/- Afterwards every event counts. -/
theorem relayedBy_append
    (h : Ev.enter COPY ∈ log)
    (events : List Ev) :
    relayedBy (log ++ events) =
      relayedBy log ++ events.filterMap Ev.transfer? := by
  have hSome : (log.dropWhile (· ≠ .enter COPY)).isEmpty =
      false := by
    rw [List.isEmpty_eq_false_iff]
    intro hNone
    have hOther := List.dropWhile_eq_nil_iff.mp hNone _ h
    exact of_decide_eq_true hOther rfl
  unfold relayedBy
  rw [List.dropWhile_append, hSome, if_neg Bool.false_ne_true,
    List.filterMap_append]

/- What a call in `COPY` adds. -/
structure Passes
    (s t : St)
    (moved : List Transfer) : Prop where
  log : ∃ events, t.conn.log = s.conn.log ++ events ∧
    events.filterMap Ev.transfer? = moved
  metrics : t.srv.metrics.transferred =
    (moved.foldl Transfer.count s.srv.metrics).transferred
  one : moved.length ≤ 1

theorem Relay.passes
    (h : Relay side s t) : ∃ moved, Passes s t moved := by
  cases h with
  | ended =>
      exact ⟨[], ⟨_, copyEnded_log side s, rfl⟩, rfl,
        Nat.zero_le _⟩
  | got bytes hSome hRoom =>
      rcases dissect_eq bytes (s.note (.recv side bytes)) with
        ⟨parser, found, hEq, hFound⟩
      refine ⟨[.read bytes.length],
        ⟨.recv side bytes :: found, ?_, ?_⟩, ?_, Nat.le_refl _⟩
      · unfold copyGot
        rw [hEq]
        cases side <;> simp [Conn.setRb, St.note]
      · have hNone : found.filterMap Ev.transfer? = [] := by
          rw [List.filterMap_eq_nil_iff]
          intro event hMem
          have hKind := hFound event hMem
          cases event <;> first | rfl | exact hKind.elim
        show Transfer.read bytes.length :: _ = _
        rw [hNone]
      · unfold copyGot
        rw [hEq]
        rfl
  | sendFailed =>
      exact ⟨[], ⟨_, copySendFailed_log side s, rfl⟩, rfl,
        Nat.zero_le _⟩
  | sent n =>
      exact ⟨[.write ((s.conn.wb side).pending.take
        n).length], ⟨_, copySent_log side n s, rfl⟩, rfl,
          Nat.le_refl _⟩

theorem copyComputeInterests_metrics
    (side : Side)
    (s : St) :
    (copyComputeInterests side s).srv.metrics =
      s.srv.metrics := by
  unfold copyComputeInterests
  dsimp only
  split
  · split
    · rfl
    · rfl
  · rfl

/- The end of a call transfers nothing more. -/
theorem copyFinish_transferred
    (side : Side)
    (s : St) :
    (copyFinish side s).1.srv.metrics.transferred =
      s.srv.metrics.transferred := by
  have hSame := (copyComputeInterests_metrics side.other
    (copyComputeInterests side s)).trans
      (copyComputeInterests_metrics side s)
  unfold copyFinish
  dsimp only
  split
  · refine Eq.trans ?_ (congrArg Metrics.transferred hSame)
    rfl
  · exact congrArg Metrics.transferred hSame

/- A call in `COPY`, with the jump behind it. -/
theorem SocksTurn.passes
    (h : SocksTurn k key a s r)
    (hJump : SocksJump k key a r.1 r.2 u)
    (hSound : s.srv.sel.Sound)
    (hOwns : Owns k s.srv.sel s.conn)
    (hCopy : s.conn.current = some COPY) :
    ∃ moved, Passes s u moved := by
  have hHere := (h.current hSound hOwns).trans hCopy
  have hMetrics := hJump.transferred
  have hEntered : ∃ events, u.conn.log =
      r.1.conn.log ++ events ∧
        events.filterMap Ev.transfer? = [] := by
    generalize r.2 = next at hJump
    cases hJump with
    | stay => exact ⟨[], (List.append_nil _).symm, rfl⟩
    | plain next => exact ⟨[.enter next], rfl, rfl⟩
    | userpassRead hBad => nomatch hHere.symm.trans hBad
    | requestRead hBad =>
        rcases hBad with hBad | hBad
        · nomatch hHere.symm.trans hBad
        · nomatch hHere.symm.trans hBad
    | connecting hBad =>
        rcases hBad with hBad | hBad
        · nomatch hHere.symm.trans hBad
        · nomatch hHere.symm.trans hBad
    | copy hBad => nomatch hHere.symm.trans hBad
  cases h with
  | relay _ hCopying hSlots side hSide hFd t hRelay =>
      have hReady :=
        hRelay.ready hSound hOwns hCopying hSlots
      rcases hRelay.passes with ⟨moved, hPasses⟩
      rcases hPasses.log with ⟨events, hLog, hMoved⟩
      rcases hEntered with ⟨more, hMore, hNone⟩
      refine ⟨moved, ⟨events ++ more, ?_, ?_⟩, ?_,
        hPasses.one⟩
      · rw [hMore, copyFinish_conn hReady.1.fds hReady.2,
          hLog, List.append_assoc]
      · rw [List.filterMap_append, hMoved, hNone,
          List.append_nil]
      · exact (hMetrics.trans
          (copyFinish_transferred side t)).trans
            hPasses.metrics
  | helloRead hBad => nomatch hCopy.symm.trans hBad
  | helloWrite hBad => nomatch hCopy.symm.trans hBad
  | authRead hBad => nomatch hCopy.symm.trans hBad
  | authWrite hBad => nomatch hCopy.symm.trans hBad
  | requestRead hBad => nomatch hCopy.symm.trans hBad
  | requestResolvDone hBad => nomatch hCopy.symm.trans hBad
  | connectingWrite hBad => nomatch hCopy.symm.trans hBad
  | requestWrite hBad => nomatch hCopy.symm.trans hBad

/- A call before `COPY`, with the jump behind it. -/
theorem SocksTurn.early
    (h : SocksTurn k key a s r)
    (hJump : SocksJump k key a r.1 r.2 u)
    (hSound : s.srv.sel.Sound)
    (hOwns : Owns k s.srv.sel s.conn)
    (hFresh : Ev.enter COPY ∉ s.conn.log) :
    relayedBy u.conn.log = [] := by
  rcases h.logs hSound hOwns with ⟨state, _, hGrows⟩
  by_cases hIn : Ev.enter COPY ∈ u.conn.log
  · rcases enter_new hGrows hJump hFresh hIn with
      ⟨hNext, hOther⟩
    have hCalled : Ev.enter COPY ∉ r.1.conn.log := by
      intro hBad
      rcases hGrows.new hBad with hOld | hNew
      · exact hFresh hOld
      · nomatch Ev.ofState_isEnter hNew
    rw [hNext] at hJump
    generalize hTarget : COPY = target at hJump
    cases hJump with
    | stay _ hState =>
        rw [← hTarget] at hState
        exact absurd hState hOther
    | plain _ hNext =>
        rw [← hTarget] at hNext
        exact absurd hNext (by decide)
    | userpassRead => exact absurd hTarget (by decide)
    | requestRead => exact absurd hTarget (by decide)
    | connecting => exact absurd hTarget (by decide)
    | copy => exact relayedBy_enter hCalled
  · exact relayedBy_none hIn

/- What a call and the jump behind it transfer. -/
theorem SocksTurn.moves
    (h : SocksTurn k key a s r)
    (hJump : SocksJump k key a r.1 r.2 u)
    (hSocks : s.conn.isSocks = true)
    (hSound : s.srv.sel.Sound)
    (hOwns : Owns k s.srv.sel s.conn)
    (hStreams : Streams s.conn) :
    ∃ moved, Moves s u moved ∧
      (s.conn.current ≠ some COPY → moved = []) := by
  have hService : u.conn.isSocks = true :=
    (hJump.service.trans (h.service hSound hOwns)).trans hSocks
  have hBefore : s.conn.relayed = relayedBy s.conn.log :=
    if_pos hSocks
  have hAfter : u.conn.relayed = relayedBy u.conn.log :=
    if_pos hService
  by_cases hCopy : s.conn.current = some COPY
  · rcases h.passes hJump hSound hOwns hCopy with
      ⟨moved, hPasses⟩
    rcases hPasses.log with ⟨events, hLog, hMoved⟩
    refine ⟨moved, ⟨?_, hPasses.metrics, hPasses.one⟩,
      fun hOther => absurd hCopy hOther⟩
    rw [hAfter, hBefore, hLog,
      relayedBy_append (hStreams.copying hCopy), hMoved]
  · rcases h.state with ⟨state, hState, hLe⟩
    have hFresh := (hStreams.fresh (by
      intro other hOther
      rw [Option.some.inj (hOther.symm.trans hState)]
      refine Nat.lt_of_le_of_ne hLe fun hBad => ?_
      exact hCopy (hBad ▸ hState))).1
    refine ⟨[], ⟨?_, ?_, Nat.zero_le _⟩, fun _ => rfl⟩
    · rw [hAfter, hBefore, relayedBy_none hFresh,
        h.early hJump hSound hOwns hFresh]
      rfl
    · exact hJump.transferred.trans (h.transferred hCopy)

theorem SocksEvent.moves
    (h : SocksEvent k key a s t)
    (hSocks : s.conn.isSocks = true)
    (hSound : s.srv.sel.Sound)
    (hOwns : Owns k s.srv.sel s.conn)
    (hStreams : Streams s.conn) :
    ∃ moved, Moves s t moved ∧
      (s.conn.current ≠ some COPY → moved = []) := by
  cases h with
  | going r u hTurn hJump hNext =>
      exact hTurn.moves hJump hSocks hSound hOwns hStreams
  | ends r u hTurn hJump hNext =>
      rcases hTurn.moves hJump hSocks hSound hOwns hStreams
        with ⟨moved, hMoves, hOther⟩
      refine ⟨moved, ⟨?_, ?_, hMoves.one⟩, hOther⟩
      · rw [socksv5Done_conn]
        exact hMoves.relayed
      · unfold socksv5Done
        rw [doneFd_metrics, doneFd_metrics]
        exact hMoves.metrics
  | stuck hWhy =>
      exact ⟨[], ⟨(List.append_nil _).symm, rfl,
        Nat.zero_le _⟩, fun _ => rfl⟩

/- Starting a connection transfers nothing. -/
theorem first_relayed
    (states : Nat → StateDefinition)
    (hStates : states HELLO_READ =
      { onArrival := some helloReadInit
        onReadReady := some helloRead })
    (key : Key)
    (a : Answers)
    (s : St)
    (hBefore : s.conn.isSocks = true → Streams s.conn) :
    (handleFirst states key a s).conn.relayed =
      s.conn.relayed := by
  have hAfter := streams_preserved.started (k := 0) key a
    states hStates hBefore
  have hService := first_conn states hStates key a s
  unfold Conn.relayed
  rw [hService]
  split
  · rename_i hSocks
    have hSecond := hAfter (hService.trans hSocks)
    rw [handleFirst_eq hStates] at hSecond ⊢
    split at hSecond
    · rename_i hState
      rw [if_pos hState]
      have hFirst := ((hBefore hSocks).fresh (by
        intro other hOther
        nomatch hState.symm.trans hOther)).1
      have hLater := (hSecond.fresh (by
        intro other hOther
        rw [(helloStarted_conn key a s).2] at hOther
        rw [← Option.some.inj hOther]
        decide)).1
      rw [relayedBy_none hFirst, relayedBy_none hLater]
    · rename_i hState
      rw [if_neg hState]
  · rfl

end Events

end Socks5d

------------------------------------------------------------
-- Steps Of The Server
------------------------------------------------------------

namespace Socks5d

/- A step of the server, with what it transfers. -/
structure WorldMoves
    (w w' : World)
    (moved : List Transfer) : Prop where
  fresh : w.fresh w' = moved
  metrics : w'.srv.metrics.transferred =
    (moved.foldl Transfer.count w.srv.metrics).transferred
  one : moved.length ≤ 1

/- Nothing is transferred. -/
structure Still (w w' : World) : Prop where
  next : w.next ≤ w'.next
  old : ∀ k < w.next,
    (w'.conn k).relayed = (w.conn k).relayed
  new : ∀ k < w'.next, w.next ≤ k →
    (w'.conn k).relayed = []
  metrics : w'.srv.metrics.transferred =
    w.srv.metrics.transferred

/- All SOCKS connections keep the account of their bytes. -/
def Streaming (w : World) : Prop :=
  ∀ k < w.next, (w.conn k).isSocks = true →
    Streams (w.conn k)

section Worlds

variable {w w' w'' : World}
variable {k : ConnId}
variable {key : Key}
variable {a : Answers}
variable {t : St}
variable {l : Label}
variable {moved : List Transfer}

theorem Still.refl
    (w : World) : Still w w where
  next := Nat.le_refl _
  old _ _ := rfl
  new _ hLt hLe := absurd hLt (Nat.not_lt.mpr hLe)
  metrics := rfl

theorem Still.trans
    (h : Still w w')
    (h' : Still w' w'') : Still w w'' where
  next := Nat.le_trans h.next h'.next
  old k hLt := (h'.old k (Nat.lt_of_lt_of_le hLt h.next)).trans
    (h.old k hLt)
  new k hLt hLe := by
    by_cases hOld : k < w'.next
    · exact (h'.old k hOld).trans (h.new k hOld hLe)
    · exact h'.new k hLt (Nat.not_lt.mp hOld)
  metrics := h'.metrics.trans h.metrics

theorem Still.moves
    (h : Still w w') : WorldMoves w w' [] := by
  refine ⟨?_, h.metrics, Nat.zero_le _⟩
  unfold World.fresh
  rw [List.flatMap_eq_nil_iff]
  intro k hMem
  have hLt := List.mem_range.mp hMem
  by_cases hOld : k < w.next
  · rw [h.old k hOld, List.drop_length]
  · rw [h.new k hLt (Nat.not_lt.mp hOld), List.drop_nil]

/- Only one index contributes. -/
theorem flatMap_range_single
    {α : Type}
    {f : Nat → List α}
    {n : Nat}
    (hLt : k < n)
    (hOther : ∀ j, j ≠ k → f j = []) :
    (List.range n).flatMap f = f k := by
  rcases List.append_of_mem (List.mem_range.mpr hLt) with
    ⟨before, after, hSplit⟩
  have hNodup := List.nodup_range (n := n)
  rw [hSplit] at hNodup ⊢
  have hApart := List.nodup_middle.mp hNodup
  have hFront : before.flatMap f = [] := by
    rw [List.flatMap_eq_nil_iff]
    intro j hMem
    refine hOther j fun hBad => ?_
    exact (List.nodup_cons.mp hApart).1
      (List.mem_append_left _ (hBad ▸ hMem))
  have hBehind : after.flatMap f = [] := by
    rw [List.flatMap_eq_nil_iff]
    intro j hMem
    refine hOther j fun hBad => ?_
    exact (List.nodup_cons.mp hApart).1
      (List.mem_append_right _ (hBad ▸ hMem))
  rw [List.flatMap_append, List.flatMap_cons, hFront, hBehind,
    List.nil_append, List.append_nil]

/- An event of one connection. -/
theorem Moves.put
    (h : Moves (w.view k) t moved)
    (hOld : k < w.next) :
    WorldMoves w (w.put k t) moved := by
  refine ⟨?_, h.metrics, h.one⟩
  have hSelf : ((w.put k t).conn k).relayed =
      (w.conn k).relayed ++ moved := by
    unfold World.put
    dsimp only
    rw [Function.update_self]
    exact h.relayed
  refine (flatMap_range_single hOld ?_).trans ?_
  · intro j hNe
    have hSame : (w.put k t).conn j = w.conn j :=
      Function.update_of_ne hNe _ _
    rw [hSame, List.drop_length]
  · rw [hSelf, List.drop_left]

theorem Moves.still
    (h : Moves (w.view k) t []) : Still w (w.put k t) := by
  refine ⟨Nat.le_refl _, ?_, ?_, h.metrics⟩
  · intro j _
    unfold World.put
    dsimp only
    by_cases hEq : j = k
    · rw [hEq, Function.update_self]
      exact h.relayed.trans (List.append_nil _)
    · rw [Function.update_of_ne hEq]
  · intro j hLt hLe
    exact absurd hLt (Nat.not_lt.mpr hLe)

/- A job that waits is handed over in `REQUEST_RESOLV`. -/
theorem notified_moves
    {job : BlockingJob}
    {rest : List BlockingJob}
    (hInv : Inv w)
    (hStreams : Streaming w)
    (hWaits : Waits w job.starter job.fd job.request)
    (hEvent : SocksEvent job.starter
      ⟨job.fd, job.starter⟩ a (w.notified job rest) t) :
    Moves (w.view job.starter) t [] := by
  have hHere : (w.conn job.starter).current =
      some REQUEST_RESOLV := hWaits.state
  have hOther : (w.notified job rest).conn.current ≠
      some COPY := by
    show (w.conn job.starter).current ≠ some COPY
    rw [hHere]
    decide
  have hBefore := hStreams _ hWaits.accepted hWaits.service
  have hNoted := streams_preserved.notified job.starter
    (w.view job.starter) job.request hHere
    (fun _ => hBefore) hWaits.service
  rcases hEvent.moves (s := w.notified job rest)
    hWaits.service hInv.sound
    ((hInv.wired _ hWaits.live).owns.of_eq rfl rfl rfl)
    hNoted with ⟨moved, hMoves, hNone⟩
  have hEarly : ∀ state, (w.conn job.starter).current =
      some state → state < COPY := by
    intro state hState
    rw [Option.some.inj (hState.symm.trans hHere)]
    decide
  have hFirst : (w.view job.starter).conn.relayed = [] :=
    (if_pos hWaits.service).trans
      (relayedBy_none (hBefore.fresh hEarly).1)
  have hSecond : (w.notified job rest).conn.relayed = [] :=
    (if_pos hWaits.service).trans
      (relayedBy_none (hNoted.fresh hEarly).1)
  have hEmpty := hNone hOther
  rw [hEmpty] at hMoves
  refine ⟨?_, hMoves.metrics, Nat.zero_le _⟩
  rw [hMoves.relayed, hFirst, hSecond]

theorem World.accept_still
    (w : World)
    (isSocks : Bool)
    (client : Fd) : Still w (w.accept isSocks client) := by
  refine ⟨Nat.le_succ _, ?_, ?_, rfl⟩
  · intro k hLt
    have hSame : (w.accept isSocks client).conn k =
        w.conn k :=
      Function.update_of_ne (Nat.ne_of_lt hLt) _ _
    rw [hSame]
  · intro k hLt hLe
    have hIs : k = w.next :=
      Nat.le_antisymm (Nat.le_of_lt_succ hLt) hLe
    have hNew : (w.accept isSocks client).conn k =
        { isSocks, clientFd := client } := by
      rw [hIs]
      exact Function.update_self _ _ _
    rw [hNew]
    unfold Conn.relayed
    split
    · rfl
    · rfl

/- What happens to a world at once. -/
theorem Micro.moves
    (h : Micro w w')
    (hInv : Inv w)
    (hStreams : Streaming w) :
    ∃ moved, WorldMoves w w' moved := by
  cases h with
  | accepted isSocks client =>
      exact ⟨[], (w.accept_still isSocks client).moves⟩
  | socks k key a interest t hLive hSocks hKey hArmed hEvent
      hAftermath =>
      rcases hInv.first hLive clientStatbl rfl key a with
        ⟨hSrv, hSound, hOwns⟩
      have hBefore := hStreams k hLive.1
      have hService := (first_conn clientStatbl rfl key a
        (w.view k)).trans hSocks
      have hStarted := streams_preserved.started
        (k := k) (s := w.view k) key a clientStatbl rfl hBefore
        hService
      have hFirst := first_relayed clientStatbl rfl key a
        (w.view k) hBefore
      rcases hEvent.moves hService hSound hOwns hStarted with
        ⟨moved, hMoves, _⟩
      refine ⟨moved, Moves.put ⟨?_, ?_, hMoves.one⟩ hLive.1⟩
      · rw [hMoves.relayed, hFirst]
      · rw [hMoves.metrics, hSrv]
        rfl
  | mng k key a t hLive hMng hEvent hAftermath =>
      rcases hInv.first hLive clientMng rfl key a with
        ⟨hSrv, _, _⟩
      have hService : t.conn.isSocks = false :=
        (hEvent.service.trans (first_conn clientMng rfl key a
          (w.view k))).trans hMng
      have hNone : ∀ c : Conn, c.isSocks = false →
          c.relayed = [] := by
        intro c hOther
        unfold Conn.relayed
        rw [hOther]
        exact if_neg Bool.false_ne_true
      refine ⟨[], Moves.put ⟨?_, ?_, Nat.zero_le _⟩ hLive.1⟩
      · show t.conn.relayed = (w.conn k).relayed ++ []
        rw [hNone _ hService, hNone _ hMng]
        rfl
      · rw [hEvent.transferred, hSrv]
        rfl
  | block job rest a t hJobs hWaits hEvent hAftermath =>
      exact ⟨[], (notified_moves hInv hStreams hWaits
        hEvent).put hWaits.accepted⟩
  | threadStart i thread p hThread hWaits hParser hRequest =>
      refine ⟨[], Still.moves ⟨Nat.le_refl _, ?_, ?_, rfl⟩⟩
      · intro k _
        dsimp only
        by_cases hEq : k = thread.data
        · rw [hEq, Function.update_self]
          rfl
        · rw [Function.update_of_ne hEq]
      · intro k hLt hLe
        exact absurd hLt (Nat.not_lt.mpr hLe)
  | threadDone i thread addresses a hThread hWaits =>
      refine ⟨[], Still.moves ⟨Nat.le_refl _, ?_, ?_, rfl⟩⟩
      · intro k _
        dsimp only
        by_cases hEq : k = thread.data
        · rw [hEq, Function.update_self]
          rfl
        · rw [Function.update_of_ne hEq]
      · intro k hLt hLe
        exact absurd hLt (Nat.not_lt.mpr hLe)

theorem Micro.streaming
    (h : Micro w w')
    (hInv : Inv w)
    (hStreams : Streaming w) : Streaming w' :=
  fun _ hLt => streams_preserved.change hInv hStreams
    (h.change hLt)

/- A turn of the notification loop transfers nothing. -/
theorem Inv.block_still
    (h : Inv w)
    (hStreams : Streaming w)
    {job : BlockingJob}
    {rest : List BlockingJob}
    (hJobs : w.srv.jobs = job :: rest)
    (a : Answers) :
    Still w (handleBlockTurn a w) := by
  rcases h.block_event hJobs a with
    ⟨t, hTurn, hWaits, hEvent, _⟩
  rw [hTurn]
  exact (notified_moves h hStreams hWaits hEvent).still

theorem Inv.loop_still
    (h : Inv w)
    (hStreams : Streaming w)
    (a : Nat → Answers)
    (turns : Nat) :
    Still w (notificationLoop a turns w) := by
  refine Inv.loop_rule (P := Streaming) Still.refl ?_ h
    hStreams a turns
  intro v job rest answers hInv hBefore hJobs
  have hTurn := hInv.block_micro hJobs answers
  exact ⟨hTurn.streaming hInv hBefore, fun u hRest =>
    (hInv.block_still hBefore hJobs answers).trans hRest⟩

/- Every step transfers at most once, and counts it. -/
theorem step_transfers
    (hReach : server.Reachable w)
    (hEnabled : Enabled w l = true) :
    WorldMoves w (exec w l) (w.fresh (exec w l)) := by
  have hInv := reachable_inv hReach
  have hStreams : Streaming w := fun k hLt hSocks =>
    conn_invariant streams_preserved hReach hLt hSocks
  have hOf : ∀ w', (∃ moved, WorldMoves w w' moved) →
      WorldMoves w w' (w.fresh w') := by
    rintro w' ⟨moved, hMoves⟩
    rw [hMoves.fresh]
    exact hMoves
  rcases hInv.exec_micro hEnabled with
    ⟨a, rfl⟩ | hSame | hStep
  · exact hOf _ ⟨[], (hInv.loop_still hStreams a _).moves⟩
  · rw [hSame]
    exact hOf w ⟨[], (Still.refl w).moves⟩
  · exact hOf _ (hStep.moves hInv hStreams)

/- A label that is not enabled changes nothing. -/
theorem label_transfers
    (hReach : server.Reachable w)
    (l : Label) :
    let w' := if Enabled w l then exec w l else w
    server.Reachable w' ∧ WorldMoves w w' (w.fresh w') := by
  dsimp only
  split
  · rename_i hEnabled
    exact ⟨hReach.step ⟨hEnabled, rfl⟩,
      step_transfers hReach hEnabled⟩
  · have hMoves := (Still.refl w).moves
    refine ⟨hReach, ?_⟩
    rw [hMoves.fresh]
    exact hMoves

/- The counters of a run are those of its transfers. -/
theorem transfers_counted
    (hReach : server.Reachable w)
    (labels : List Label) :
    (runTo labels w).srv.metrics.transferred =
      ((transfers labels w).foldl Transfer.count
        w.srv.metrics).transferred := by
  induction labels generalizing w with
  | nil => rfl
  | cons l rest ih =>
      rcases label_transfers hReach l with ⟨hNext, hMoves⟩
      unfold runTo transfers
      rw [ih hNext]
      dsimp only
      rw [List.foldl_append]
      exact counts_congr hMoves.metrics _

/- The transfers of a run that goes on. -/
theorem transfers_append
    (labels more : List Label)
    (w : World) :
    transfers (labels ++ more) w =
      transfers labels w ++
        transfers more (runTo labels w) := by
  induction labels generalizing w with
  | nil => rfl
  | cons l rest ih =>
      let next := if Enabled w l then exec w l else w
      show w.fresh next ++ transfers (rest ++ more) next =
        (w.fresh next ++ transfers rest next) ++
          transfers more (runTo rest next)
      rw [ih, List.append_assoc]

end Worlds

end Socks5d
