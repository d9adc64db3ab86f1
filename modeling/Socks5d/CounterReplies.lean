import Mathlib.Data.Nat.Digits.Defs
import Socks5d.MngClient
import Socks5d.Replies
import Socks5d.Transfers

/-
  The historic counters on their way to the management
  client: `uint_mng_request_marshall` sends four bytes of a
  `size_t`, and `cast_uint32` of `client_utils.c` reads them.

  Main declarations:
    * `Client.castUint32`
    * `Metrics.historic`, `AsksIndex`
    * `AsksIndex.answered`
    * `counters_decoded`
-/

------------------------------------------------------------
-- Four Bytes Of A Counter
------------------------------------------------------------

namespace Socks5d

/- `cast_uint32`: the bytes after the first, as x86 does. -/
def Client.castUint32 (buffer : List UInt8) : UInt32 :=
  UInt32.ofNat (Nat.ofDigits 256
    (((buffer.drop 1).take 4).map UInt8.toNat))

/- Only the lower half of the counter is sent. -/
theorem castUint32_reply
    (value : UInt64)
    (first : UInt8) :
    (Client.castUint32
        (first :: uint32Bytes value)).toNat =
      value.toNat % 2 ^ 32 := by
  have hDigits : Nat.ofDigits 256
      ((uint32Bytes value).map UInt8.toNat) =
        value.toNat % 2 ^ 32 := by
    simp only [uint32Bytes, List.map_cons, List.map_nil,
      Nat.ofDigits_cons, Nat.ofDigits_nil,
      UInt64.toNat_toUInt8, UInt64.toNat_shiftRight]
    have hEight : (8 : UInt64).toNat % 64 = 8 := rfl
    have hSixteen : (16 : UInt64).toNat % 64 = 16 := rfl
    have hMost : (24 : UInt64).toNat % 64 = 24 := rfl
    rw [hEight, hSixteen, hMost, Nat.shiftRight_eq_div_pow,
      Nat.shiftRight_eq_div_pow, Nat.shiftRight_eq_div_pow]
    omega
  have hLt := Nat.mod_lt value.toNat
    (show 0 < 2 ^ 32 by decide)
  show (UInt32.ofNat (Nat.ofDigits 256
    ((uint32Bytes value).map UInt8.toNat))).toNat = _
  rw [hDigits, UInt32.toNat_ofNat']
  exact Nat.mod_eq_of_lt hLt

end Socks5d

------------------------------------------------------------
-- The Request And Its Reply
------------------------------------------------------------

namespace Socks5d

/- The counters that the indexes 0x05 to 0x07 name. -/
def Metrics.historic
    (m : Metrics) :
    MngIndex → Option UInt64
| MngIndex.historicBytesTransferred =>
    some m.historicByteTransfer
| MngIndex.historicAuthAttempts =>
    some m.historicAuthAttempts
| MngIndex.historicConnectionsAttempts =>
    some m.historicConnectionsAttempts
| _ => none

/-
  `select` reports the socket of a management client, which
  has sent the byte of an index; there was memory for the
  parser, and there is room for the byte.
-/
structure AsksIndex
    (w : World)
    (fd : Fd)
    (a : Answers)
    (k : ConnId)
    (index : MngIndex) : Prop where
  slot : ∃ item, w.srv.sel.fds fd = some item ∧
    item.attached = .mng k ∧ item.interest.read = true
  current : (w.conn k).current = some MNG_REQUEST_READ_INDEX
  memory : (w.conn k).mngRequest.status = .succeeded
  room : (w.conn k).readBuffer.room ≠ 0
  received : a.recv.getD [] ≠ []
  index : ((w.conn k).readBuffer.pending ++
    (a.recv.getD []).take 1).head? = some index

/- What the server has done once it has the index. -/
structure CounterReplied
    (k : ConnId)
    (counter : UInt64)
    (w w' : World) : Prop where
  current : (w'.conn k).current = some MNG_REQUEST_WRITE
  metrics : w'.srv.metrics = w.srv.metrics
  wire : (w'.conn k).wire = (w.conn k).wire
  reply : (w'.conn k).writeBuffer.pending =
    0x00 :: uint32Bytes counter

section Requests

variable {rb : Buffer rawBuffSize}
variable {index : MngIndex}
variable {counter : UInt64}
variable {bytes more : List UInt8}
variable {m : Metrics}
variable {key : Key}
variable {a : Answers}
variable {s : St}
variable {interest : Interest}
variable {attached : Attachment}

/- These are indexes that `checkIndex` lets through. -/
theorem historic_cases
    (h : m.historic index = some counter) :
    index = MngIndex.historicBytesTransferred ∧
        counter = m.historicByteTransfer ∨
      index = MngIndex.historicAuthAttempts ∧
        counter = m.historicAuthAttempts ∨
      index = MngIndex.historicConnectionsAttempts ∧
        counter = m.historicConnectionsAttempts := by
  unfold Metrics.historic at h
  split at h
  · exact Or.inl ⟨rfl, (Option.some.inj h).symm⟩
  · exact Or.inr (Or.inl ⟨rfl, (Option.some.inj h).symm⟩)
  · exact Or.inr (Or.inr ⟨rfl, (Option.some.inj h).symm⟩)
  · nomatch h

/- The parser is done with the first byte. -/
theorem historic_fed
    (hIndex : m.historic index = some counter)
    (hPending : rb.pending = index :: more) :
    (consume rb (blockParser mngRequestIndexBlocks)).state =
        .doneRead ∧
      (consume rb (blockParser
        mngRequestIndexBlocks)).parser.resultAt 0 =
          some [index, 0] := by
  have hStops : Parser.reader.Stops
      (blockParser mngRequestIndexBlocks) [index] := by
    rcases historic_cases hIndex with ⟨rfl, _⟩ | ⟨rfl, _⟩ |
      ⟨rfl, _⟩
    · rfl
    · rfl
    · rfl
  have hFed : (consume rb (blockParser
      mngRequestIndexBlocks)).parser =
        Parser.reader.feedAll
          (blockParser mngRequestIndexBlocks) [index] := by
    have hConsumed := Parser.reader.consume_of_stops hStops
      more
    show (rb.feed Parser.reader _).1 = _
    rw [(Buffer.feed_eq _ _ _).1, hPending]
    exact congrArg Prod.fst hConsumed
  have hSome : rb.pending ≠ [] := by
    rw [hPending]
    exact List.cons_ne_nil _ _
  rw [consume_state hSome, hFed]
  rcases historic_cases hIndex with ⟨rfl, _⟩ | ⟨rfl, _⟩ |
    ⟨rfl, _⟩
  · exact ⟨rfl, rfl⟩
  · exact ⟨rfl, rfl⟩
  · exact ⟨rfl, rfl⟩

/- All three counters are marshalled in the same way. -/
theorem processMngIndex_historic
    (hIndex : s.srv.metrics.historic index = some counter) :
    processMngIndex s index =
      (uintMngRequestMarshall s counter,
        MNG_REQUEST_WRITE) := by
  rcases historic_cases hIndex with ⟨rfl, rfl⟩ | ⟨rfl, rfl⟩ |
    ⟨rfl, rfl⟩
  · rfl
  · rfl
  · rfl

/- The reply fits into the empty buffer. -/
theorem uintMngRequestMarshall_empty
    (hEmpty : s.conn.writeBuffer.pending = [])
    (value : UInt64) :
    ∃ wb : Buffer rawBuffSize,
      wb.pending = 0x00 :: uint32Bytes value ∧
      uintMngRequestMarshall s value =
        { s with conn.writeBuffer := wb } := by
  have hRoom := Buffer.room_of_pending_nil hEmpty
  refine ⟨s.conn.writeBuffer.writeAdv
    (0x00 :: uint32Bytes value), ?_, ?_⟩
  · rw [Buffer.writeAdv_pending_of_fits, hEmpty]
    · rfl
    · rw [hRoom]
      exact (by decide : 5 ≤ rawBuffSize)
  · unfold uintMngRequestMarshall marshal
    rw [hRoom]
    rfl

/- The index is taken, and the counter is the answer. -/
theorem mngRequestIndexRead_historic
    (h : AwaitsIndex s.conn)
    (hStatus : s.conn.mngRequest.status = .succeeded)
    (hRoom : s.conn.readBuffer.room ≠ 0)
    (hHas : s.srv.sel.Has key.fd interest attached)
    (hReceived : a.recv.getD [] ≠ [])
    (hAsked : (s.conn.readBuffer.pending ++
      (a.recv.getD []).take 1).head? = some index)
    (hIndex : s.srv.metrics.historic index = some counter) :
    ∃ t : St, mngRequestIndexRead key a s =
        (t, MNG_REQUEST_WRITE) ∧
      t.conn.isSocks = s.conn.isSocks ∧
      t.conn.current = s.conn.current ∧
      t.srv.metrics = s.srv.metrics ∧
      t.conn.wire = s.conn.wire ∧
      t.conn.writeBuffer.pending =
        0x00 :: uint32Bytes counter := by
  have hSome : (a.recv.getD []).take 1 ≠ [] := by
    intro hNone
    rcases List.take_eq_nil_iff.mp hNone with hZero | hNil
    · nomatch hZero
    · exact hReceived hNil
  have hOne := List.length_take_le 1 (a.recv.getD [])
  rcases List.head?_eq_some_iff.mp hAsked with ⟨more, hMore⟩
  have hPending : (s.conn.readBuffer.writeAdv
      ((a.recv.getD []).take 1)).pending = index :: more := by
    rw [Buffer.writeAdv_pending_of_fits, hMore]
    omega
  have hParser : s.conn.mngRequest.parser =
      blockParser mngRequestIndexBlocks := by
    rcases h.parser with ⟨_, hFresh⟩ | hBad
    · exact hFresh
    · nomatch hStatus.symm.trans hBad
  rcases historic_fed hIndex hPending with ⟨hState, hResult⟩
  have hFine := consume_fine (by
    rw [hState]
    exact fun hBad => nomatch hBad)
  generalize hOut : consume
    (s.conn.readBuffer.writeAdv ((a.recv.getD []).take 1))
    (blockParser mngRequestIndexBlocks) = out
    at hState hResult hFine
  let side := s.conn.sideOf key.fd
  let fed : St := St.note { s with
      conn.readBuffer := out.buffer
      conn.mngRequest.parser := out.parser }
    (.recv side ((a.recv.getD []).take 1))
  let asked : St := { fed with
    conn.mngRequest.index := index }
  rcases uintMngRequestMarshall_empty (s := asked) h.written
    counter with ⟨wb, hReply, hMarshal⟩
  let replied : St := { asked with conn.writeBuffer := wb }
  have hDone : isDone .doneRead = true := rfl
  have hProcess : processMngIndex asked index =
      (replied, MNG_REQUEST_WRITE) := by
    rw [processMngIndex_historic (s := asked) hIndex, hMarshal]
  have hSet := setInterestKey_eq (s := s) (t := replied) hHas
    rfl opWrite MNG_REQUEST_WRITE
  refine ⟨replied.arm key.fd opWrite attached, ?_, ?_⟩
  · unfold mngRequestIndexRead
    rw [if_neg (not_not.mpr hStatus), if_neg hRoom]
    simp only [hSome, if_false, hParser, hOut, hState, hDone,
      if_true, hFine, Bool.false_eq_true, hResult,
      Option.getD_some, List.getD_cons_zero]
    rw [show processMngIndex _ index = _ from hProcess]
    exact hSet
  · refine ⟨rfl, rfl, rfl, ?_, hReply⟩
    exact St.note_wire _ rfl

end Requests

section Runs

variable {w : World}
variable {fd : Fd}
variable {a : Answers}
variable {k : ConnId}
variable {index : MngIndex}
variable {counter : UInt64}

/- A management client that asks is answered. -/
theorem AsksIndex.answered
    (h : AsksIndex w fd a k index)
    (hReach : server.Reachable w)
    (hIndex : w.srv.metrics.historic index = some counter) :
    CounterReplied k counter w (exec w (.read fd a)) := by
  have hInv := reachable_inv hReach
  rcases h.slot with ⟨item, hItem, hAttached, hReady⟩
  have hArmed : item.interest ≠ opNoop := by
    intro hEq
    rw [hEq] at hReady
    nomatch hReady
  cases hInv.armed hItem hArmed with
  | listener hNone =>
      rw [hAttached] at hNone
      nomatch hNone
  | socks j hLive hSocks hBad =>
      nomatch hAttached.symm.trans hBad
  | mng j hLive hMng hSame hFd hHas =>
      have hEq : k = j :=
        Attachment.mng.inj (hAttached.symm.trans hSame)
      subst hEq
      have hAwaits : AwaitsIndex (w.view k).conn :=
        conn_invariant indexAwaited_preserved hReach hLive.1
          hMng h.current
      let key : Key := ⟨fd, k⟩
      have hSlot : (w.view k).srv.sel.Has key.fd item.interest
          (.mng k) := hHas
      rcases mngRequestIndexRead_historic hAwaits h.memory
        h.room hSlot h.received h.index hIndex with
        ⟨t, hCall, hService, hCurrent, hMetrics, hWire,
          hReply⟩
      have hEvent := mngEvent_read (s := w.view k) h.current
        rfl hCall (hService.trans hMng) (Nat.le_refl _)
      have hOther : t.conn.current ≠
          some MNG_REQUEST_WRITE := by
        rw [hCurrent, show (w.view k).conn.current = _ from
          h.current]
        decide
      have hFrom : t.conn.current ≠ some USERPASS_READ ∧
          t.conn.current ≠ some MNG_REQUEST_READ := by
        rw [hCurrent, show (w.view k).conn.current = _ from
          h.current]
        decide
      rw [if_neg hOther, depart_mng_same key hFrom] at hEvent
      have hExec : exec w (.read fd a) =
          w.put k (entered MNG_REQUEST_WRITE t) := by
        unfold exec
        simp only [hItem]
        unfold handleRead
        rw [hAttached]
        exact congrArg (w.put k) hEvent
      have hConn : (exec w (.read fd a)).conn k =
          (entered MNG_REQUEST_WRITE t).conn := by
        rw [hExec]
        exact w.put_conn_self k _
      constructor
      · rw [hConn]
        rfl
      · rw [hExec]
        exact hMetrics
      · rw [hConn]
        exact (St.note_wire _ rfl).trans hWire
      · rw [hConn]
        exact hReply

/- Every byte that was transferred is counted once. -/
theorem count_bytes
    (ts : List Transfer) :
    ((ts.foldl Transfer.count
        {}).historicByteTransfer).toNat =
      (ts.map Transfer.size).sum % 2 ^ 64 := by
  induction ts using List.reverseRecOn with
  | nil => rfl
  | append_singleton ts t ih =>
      have hStep : ∀ m : Metrics,
          (t.count m).historicByteTransfer =
            m.historicByteTransfer + UInt64.ofNat t.size := by
        intro m
        cases t <;> rfl
      rw [List.foldl_append, List.map_append, List.sum_append]
      show ((t.count _).historicByteTransfer).toNat =
        ((ts.map Transfer.size).sum + t.size) % 2 ^ 64
      rw [hStep, UInt64.toNat_add, UInt64.toNat_ofNat', ih,
        ← Nat.add_mod]

/- So is every byte of a run from the start. -/
theorem run_bytes
    (hInit : Initial w)
    (labels : List Label) :
    (runTo labels w).srv.metrics.historicByteTransfer.toNat =
      ((transfers labels w).map Transfer.size).sum %
        2 ^ 64 := by
  have hCounted := transfers_counted (.init hInit) labels
  rw [hInit.metrics] at hCounted
  rw [← count_bytes]
  exact congrArg (fun m => m.1.toNat) hCounted

end Runs

/-
  A management client that asks for a historic counter, at any
  moment of a run from the start, is sent five bytes of which
  `cast_uint32` decodes the counter modulo 2^32; the counter
  of the bytes is the sum of all sizes transferred in `COPY`,
  modulo 2^64.
-/
theorem counters_decoded
    (w : World)
    (hInit : Initial w)
    (labels : List Label)
    (fd : Fd)
    (a : Answers)
    (k : ConnId)
    (index : MngIndex)
    (counter : UInt64)
    (hAsks : AsksIndex (runTo labels w) fd a k index)
    (hIndex : (runTo labels w).srv.metrics.historic index =
      some counter) :
    let asked := runTo labels w
    let replied := exec asked (.read fd a)
    let reply := (replied.conn k).writeBuffer.pending
    (replied.conn k).current = some MNG_REQUEST_WRITE ∧
      replied.srv.metrics = asked.srv.metrics ∧
      reply.length = 5 ∧
      (∀ key answers u,
        Answering .mngRequest key (replied.view k) answers u →
          u.conn.wire = (asked.conn k).wire ++ reply) ∧
      (Client.castUint32 reply).toNat =
        counter.toNat % 2 ^ 32 ∧
      (index = MngIndex.historicBytesTransferred →
        counter.toNat =
          ((transfers labels w).map Transfer.size).sum %
            2 ^ 64) := by
  intro asked replied reply
  have hReplied : CounterReplied k counter asked replied :=
    hAsks.answered (reachable_runTo labels (.init hInit))
      hIndex
  have hReply : reply = 0x00 :: uint32Bytes counter :=
    hReplied.reply
  refine ⟨hReplied.current, hReplied.metrics, ?_, ?_, ?_, ?_⟩
  · rw [hReply]
    rfl
  · intro key answers u hAnswering
    rcases hAnswering.total with ⟨more, hWire, hNone⟩
    have hPlain : more = [] := hNone (fun hBad => nomatch hBad)
    rw [hPlain, List.append_nil] at hWire
    rw [hWire, ← hReplied.wire]
    rfl
  · rw [hReply]
    exact castUint32_reply counter 0x00
  · intro hBytes
    rw [hBytes] at hIndex
    rw [← Option.some.inj hIndex]
    exact run_bytes hInit labels

end Socks5d

------------------------------------------------------------
-- A Byte Through An Idle Relay
------------------------------------------------------------

namespace Socks5d

/-
  A relay with both directions open; `waiting` are the bytes
  that the client has sent and the origin has not received.
-/
structure OpenRelay
    (waiting : List UInt8)
    (c : Conn) : Prop where
  service : c.isSocks = true
  current : c.current = some COPY
  client : c.clientFd = 5
  origin : c.originFd = 6
  copies : ∀ side,
    c.copySt side = ⟨c.fdOf side, opReadWrite⟩
  read : c.readBuffer.pending = waiting
  written : c.writeBuffer.pending = []

/- The slots of such a relay. -/
structure RelaySlots
    (origin : Interest)
    (sel : Selector) : Prop where
  client : sel.Has 5 opRead (.socks 0)
  origin : sel.Has 6 origin (.socks 0)

section Relaying

variable {s t : St}
variable {a : Answers}
variable {fd : Fd}
variable {k : ConnId}
variable {interest : Interest}
variable {waiting : List UInt8}
variable {handler : Handler}
variable {ready : StateDefinition → Option Handler}

theorem OpenRelay.slotted
    (h : OpenRelay waiting s.conn)
    (hSlots : RelaySlots interest s.srv.sel) :
    s.conn.Slotted (.socks 0) s.srv.sel := by
  intro side _
  cases side with
  | client =>
      refine ⟨opRead, ?_⟩
      rw [show s.conn.fdOf .client = 5 from h.client]
      exact hSlots.client
  | origin =>
      refine ⟨interest, ?_⟩
      rw [show s.conn.fdOf .origin = 6 from h.origin]
      exact hSlots.origin

/- A call that goes on with both directions open. -/
theorem OpenRelay.finish
    (h : OpenRelay waiting s.conn)
    (hSlots : RelaySlots interest s.srv.sel)
    (side : Side) :
    copyFinish side s =
      (settled (.socks 0) side s, COPY) := by
  have hFds : ∀ at_,
      (s.conn.copySt at_).fd = s.conn.fdOf at_ := by
    intro at_
    rw [h.copies]
  have hSlotted := h.slotted hSlots
  have hFirst := copyComputeInterests_eq hFds hSlotted side
  have hSecond := copyComputeInterests_eq
    (s := { s with srv.sel :=
      s.conn.settle (.socks 0) side s.srv.sel })
    hFds (hSlotted.settle side) side.other
  have hOpen : (s.conn.copySt side).interest ≠ opNoop := by
    rw [h.copies]
    show opReadWrite ≠ opNoop
    decide
  unfold copyFinish
  simp only [hFirst, hSecond, if_neg hOpen]
  rfl

/- The slots wait for what the buffers allow. -/
theorem OpenRelay.settled_slots
    (h : OpenRelay waiting s.conn)
    (hSlots : RelaySlots interest s.srv.sel)
    (hRoom : 0 < s.conn.readBuffer.room)
    (side : Side) :
    RelaySlots ⟨true, s.conn.readBuffer.canRead⟩
        (settled (.socks 0) side s).srv.sel ∧
      ∀ fd, fd ≠ 5 → fd ≠ 6 →
        (settled (.socks 0) side s).srv.sel.fds fd =
          s.srv.sel.fds fd := by
  have hFive : s.conn.fdOf .client = 5 := h.client
  have hSix : s.conn.fdOf .origin = 6 := h.origin
  have hClient : s.conn.copyInterest .client = opRead := by
    unfold Conn.copyInterest
    rw [h.copies]
    have hNone : (s.conn.wb .client).canRead = false := by
      unfold Buffer.canRead
      rw [show (s.conn.wb .client).pending = [] from
        h.written]
      rfl
    have hSome : (s.conn.rb .client).canWrite = true :=
      decide_eq_true hRoom
    rw [hNone, hSome]
    rfl
  have hOrigin : s.conn.copyInterest .origin =
      ⟨true, s.conn.readBuffer.canRead⟩ := by
    unfold Conn.copyInterest
    rw [h.copies]
    have hSome : (s.conn.rb .origin).canWrite = true := by
      apply decide_eq_true
      rw [show s.conn.rb .origin = s.conn.writeBuffer from rfl,
        Buffer.room_of_pending_nil h.written]
      decide
    rw [hSome]
    rfl
  have hBoth : s.conn.Slotted (.socks 0) s.srv.sel :=
    h.slotted hSlots
  have hNe : s.conn.clientFd ≠ s.conn.originFd := by
    rw [h.client, h.origin]
    decide
  have hFd : ∀ at_, s.conn.fdOf at_ ≠ -1 := by
    intro at_
    cases at_ with
    | client =>
        rw [hFive]
        decide
    | origin =>
        rw [hSix]
        decide
  have hOwn := Conn.settle_keeps hNe
    (hBoth.settle_has (hFd side))
  have hOther := (hBoth.settle side).settle_has
    (hFd side.other)
  constructor
  · cases side with
    | client =>
        rw [hFive, hClient] at hOwn
        rw [show s.conn.fdOf (Side.other .client) = 6 from hSix,
          show s.conn.copyInterest (Side.other .client) = _
            from hOrigin] at hOther
        exact ⟨hOwn, hOther⟩
    | origin =>
        rw [hSix, hOrigin] at hOwn
        rw [show s.conn.fdOf (Side.other .origin) = 5 from
            hFive,
          show s.conn.copyInterest (Side.other .origin) = _
            from hClient] at hOther
        exact ⟨hOther, hOwn⟩
  · intro fd hNotFive hNotSix
    have hNot : ∀ at_, fd ≠ s.conn.fdOf at_ := by
      intro at_
      cases at_ with
      | client =>
          rw [hFive]
          exact hNotFive
      | origin =>
          rw [hSix]
          exact hNotSix
    show (s.conn.settle (.socks 0) side.other
      (s.conn.settle (.socks 0) side s.srv.sel)).fds fd = _
    unfold Conn.settle
    rw [if_pos (hFd side), if_pos (hFd side.other),
      Selector.put_fds_of_ne _ (hNot side.other),
      Selector.put_fds_of_ne _ (hNot side)]

/- Such a call is the whole event. -/
theorem copyEvent_going
    (hCurrent : s.conn.current = some COPY)
    (hReady : ready (clientStatbl COPY) = some handler)
    (hCall : handler ⟨fd, k⟩ a s = (t, COPY))
    (hSocks : t.conn.isSocks = true)
    (hStays : t.conn.current = some COPY) :
    socksv5Event ready ⟨fd, k⟩ a s = t := by
  have hFirst : handleFirst clientStatbl ⟨fd, k⟩ a s = s := by
    unfold handleFirst
    rw [hCurrent]
    rfl
  have hNot : ¬ (COPY = ERROR ∨ COPY = DONE) := by decide
  unfold socksv5Event stmHandler
  simp only [hFirst, hCurrent, Option.getD_some, hReady,
    hCall, if_neg hNot]
  exact jump_stays hSocks (by decide) hStays

/- The client sends a byte. -/
theorem OpenRelay.reads
    (h : OpenRelay [] s.conn)
    (hSlots : RelaySlots opRead s.srv.sel)
    (hQuiet : s.srv.passwordDissectors ≠ 0x00)
    (byte : UInt8) :
    ∃ t, socksv5Event StateDefinition.onReadReady ⟨5, 0⟩
        { recv := some [byte] } s = t ∧
      OpenRelay [byte] t.conn ∧
      RelaySlots opReadWrite t.srv.sel ∧
      (∀ fd, fd ≠ 5 → fd ≠ 6 →
        t.srv.sel.fds fd = s.srv.sel.fds fd) ∧
      t.srv.fault = s.srv.fault ∧
      t.srv.passwordDissectors = s.srv.passwordDissectors ∧
      t.srv.metrics = countRead 1 s.srv.metrics := by
  let got := copyGot .client [byte] s
  have hSearched : dissect [byte]
      (s.note (.recv .client [byte])) =
        s.note (.recv .client [byte]) := if_neg hQuiet
  have hGot : got = { s.note (.recv .client [byte]) with
      srv.metrics := countRead 1 s.srv.metrics
      conn := (s.note (.recv .client [byte])).conn.setRb
        .client (s.conn.readBuffer.writeAdv [byte]) } := by
    show copyGot .client [byte] s = _
    unfold copyGot
    rw [hSearched]
    rfl
  have hRoom := Buffer.room_of_pending_nil h.read
  have hRead : (s.conn.readBuffer.writeAdv
      [byte]).pending = [byte] := by
    rw [Buffer.writeAdv_pending_of_fits, h.read]
    · rfl
    · rw [hRoom]
      exact (by decide : 1 ≤ rawBuffSize)
  have hOpen : OpenRelay [byte] got.conn := by
    rw [hGot]
    exact ⟨h.service, h.current, h.client, h.origin, h.copies,
      hRead, h.written⟩
  have hSame : got.srv.sel = s.srv.sel := by rw [hGot]; rfl
  have hHere : RelaySlots opRead got.srv.sel := by
    rw [hSame]
    exact hSlots
  have hLeft : 0 < got.conn.readBuffer.room := by
    have hStart : got.conn.readBuffer.read = 0 := by
      rw [hGot]
      exact s.conn.readBuffer.compacted h.read
    unfold Buffer.room
    rw [hStart, hOpen.read]
    exact (by decide : 0 < rawBuffSize - 1)
  have hCan : got.conn.readBuffer.canRead = true :=
    (Buffer.canRead_eq_true_iff _).mpr (by
      rw [hOpen.read]
      exact List.cons_ne_nil _ _)
  rcases hOpen.settled_slots hHere hLeft .client with
    ⟨hAfter, hOthers⟩
  rw [hCan] at hAfter
  have hCall : copyRead ⟨5, 0⟩ { recv := some [byte] } s =
      (settled (.socks 0) .client got, COPY) := by
    have hPtr : s.conn.copyPtr 5 = some .client := by
      unfold Conn.copyPtr
      rw [h.client, h.origin]
      rfl
    have hFd : (s.conn.copySt .client).fd = 5 := by
      rw [h.copies]
      exact h.client
    have hTaken : [byte].take (s.conn.rb .client).room =
        [byte] := by
      rw [show (s.conn.rb .client).room = rawBuffSize from
        hRoom]
      rfl
    unfold copyRead
    simp only [hPtr, hFd, ne_eq, not_true_eq_false, if_false,
      Option.getD_some, hTaken, List.cons_ne_nil]
    exact hOpen.finish hHere .client
  refine ⟨settled (.socks 0) .client got,
    copyEvent_going h.current rfl hCall hOpen.service
      hOpen.current, ⟨hOpen.service, hOpen.current,
      hOpen.client, hOpen.origin, hOpen.copies, hOpen.read,
      hOpen.written⟩, hAfter, ?_, ?_, ?_, ?_⟩
  · intro fd hFive hSix
    rw [hOthers fd hFive hSix, hSame]
  · show got.srv.fault = _
    rw [hGot]
    rfl
  · show got.srv.passwordDissectors = _
    rw [hGot]
    rfl
  · show got.srv.metrics = _
    rw [hGot]

/- The origin receives the byte. -/
theorem OpenRelay.writes
    {byte : UInt8}
    (h : OpenRelay [byte] s.conn)
    (hSlots : RelaySlots opReadWrite s.srv.sel) :
    ∃ t, socksv5Event StateDefinition.onWriteReady ⟨6, 0⟩
        { send := some 1 } s = t ∧
      OpenRelay [] t.conn ∧
      RelaySlots opRead t.srv.sel ∧
      (∀ fd, fd ≠ 5 → fd ≠ 6 →
        t.srv.sel.fds fd = s.srv.sel.fds fd) ∧
      t.srv.fault = s.srv.fault ∧
      t.srv.passwordDissectors = s.srv.passwordDissectors ∧
      t.srv.metrics = countWrite 1 s.srv.metrics := by
  let sent := copySent .origin 1 s
  have hTaken : (s.conn.wb .origin).pending.take 1 =
      [byte] := by
    rw [show (s.conn.wb .origin).pending = [byte] from h.read]
    rfl
  have hRead : (s.conn.readBuffer.readAdv 1).pending = [] := by
    rw [Buffer.readAdv_pending, h.read]
    rfl
  have hSent : sent = St.note { s with
      srv.metrics := countWrite 1 s.srv.metrics
      conn := s.conn.setWb .origin
        ((s.conn.wb .origin).readAdv 1) }
      (.send .origin [byte]) := by
    show copySent .origin 1 s = _
    unfold copySent
    rw [hTaken]
    rfl
  have hOpen : OpenRelay [] sent.conn := by
    rw [hSent]
    exact ⟨h.service, h.current, h.client, h.origin, h.copies,
      hRead, h.written⟩
  have hSame : sent.srv.sel = s.srv.sel := by rw [hSent]; rfl
  have hHere : RelaySlots opReadWrite sent.srv.sel := by
    rw [hSame]
    exact hSlots
  have hLeft : 0 < sent.conn.readBuffer.room := by
    rw [Buffer.room_of_pending_nil hOpen.read]
    decide
  have hCannot : sent.conn.readBuffer.canRead = false := by
    unfold Buffer.canRead
    rw [hOpen.read]
    rfl
  rcases hOpen.settled_slots hHere hLeft .origin with
    ⟨hAfter, hOthers⟩
  rw [hCannot] at hAfter
  have hCall : copyWrite ⟨6, 0⟩ { send := some 1 } s =
      (settled (.socks 0) .origin sent, COPY) := by
    have hPtr : s.conn.copyPtr 6 = some .origin := by
      unfold Conn.copyPtr
      rw [h.origin]
      rfl
    have hFd : (s.conn.copySt .origin).fd = 6 := by
      rw [h.copies]
      exact h.origin
    unfold copyWrite
    simp only [hPtr, hFd, ne_eq, not_true_eq_false, if_false]
    exact hOpen.finish hHere .origin
  refine ⟨settled (.socks 0) .origin sent,
    copyEvent_going h.current rfl hCall hOpen.service
      hOpen.current, ⟨hOpen.service, hOpen.current,
      hOpen.client, hOpen.origin, hOpen.copies, hOpen.read,
      hOpen.written⟩, hAfter, ?_, ?_, ?_, ?_⟩
  · intro fd hFive hSix
    rw [hOthers fd hFive hSix, hSame]
  · show sent.srv.fault = _
    rw [hSent]
    rfl
  · show sent.srv.passwordDissectors = _
    rw [hSent]
    rfl
  · show sent.srv.metrics = _
    rw [hSent]
    rfl

end Relaying

end Socks5d

------------------------------------------------------------
-- A Counter That Does Not Fit
------------------------------------------------------------

namespace Socks5d

/- A server with the administrator `a` and no users. -/
def adminServer : World :=
  smallServer 0 ⟨fun _ => {}, 0⟩
    (addUser ⟨fun _ => {}, 0⟩ [0x61] [0x62])

theorem adminServer_initial : Initial adminServer :=
  smallServer_initial _ _ (by decide) (Or.inl rfl)

/- A relay on 5 and 6; the administrator is on 7. -/
def adminRun : List Label :=
  copyRun.take 6 ++ [
    .read 4 { accept := some 7 },
    .read 7 { recv := some [1, 1, 2] },
    .write 7 { send := some 100 },
    .read 7 { recv := some [1, 1, 0x61, 1, 0x62] },
    .write 7 { send := some 100 }]

/- One byte from the client to the origin. -/
def relayByte : List Label := [
  .read 5 { recv := some [0] },
  .write 6 { send := some 1 }]

def relayBytes (n : Nat) : List Label :=
  (List.replicate n relayByte).flatten

/- The administrator asks for the bytes transferred. -/
def askBytes : Answers :=
  { recv := some [MngIndex.historicBytesTransferred] }

/- The server after `n` bytes have been relayed. -/
structure AfterBytes
    (n : Nat)
    (w : World) : Prop where
  fault : w.srv.fault = none
  quiet : w.srv.passwordDissectors ≠ 0x00
  relay : OpenRelay [] (w.conn 0)
  slots : RelaySlots opRead w.srv.sel
  asks : AsksIndex w 7 askBytes 1
    MngIndex.historicBytesTransferred
  bytes : w.srv.metrics.historicByteTransfer =
    UInt64.ofNat (2 * n)

theorem adminRun_relayed :
    AfterBytes 0 (runTo adminRun adminServer) := by
  have hSlot : (runTo adminRun adminServer).srv.sel.fds 7 =
      some ⟨opRead, .mng 1⟩ := by
    decide +kernel
  constructor
  · decide +kernel
  · decide +kernel
  · refine ⟨by decide +kernel, by decide +kernel,
      by decide +kernel, by decide +kernel, ?_,
      by decide +kernel, by decide +kernel⟩
    intro side
    cases side with
    | client => decide +kernel
    | origin => decide +kernel
  · exact ⟨⟨rfl, by decide +kernel⟩, ⟨rfl, by decide +kernel⟩⟩
  · exact ⟨⟨_, hSlot, rfl, rfl⟩, by decide +kernel,
      by decide +kernel, by decide +kernel, by decide,
      by decide +kernel⟩
  · decide +kernel

/- An event of the relay leaves the administrator waiting. -/
theorem AsksIndex.put
    {w : World}
    {t : St}
    (h : AsksIndex w 7 askBytes 1
      MngIndex.historicBytesTransferred)
    (hSlot : t.srv.sel.fds 7 = w.srv.sel.fds 7) :
    AsksIndex (w.put 0 t) 7 askBytes 1
      MngIndex.historicBytesTransferred := by
  have hConn : (w.put 0 t).conn 1 = w.conn 1 :=
    w.put_conn_of_ne t (by decide)
  rcases h with ⟨⟨item, hItem, hRest⟩, hCurrent, hMemory,
    hRoom, hReceived, hIndex⟩
  rw [← hConn] at hCurrent hMemory hRoom hIndex
  exact ⟨⟨item, hSlot.trans hItem, hRest⟩, hCurrent, hMemory,
    hRoom, hReceived, hIndex⟩

/- One more byte is relayed. -/
theorem AfterBytes.next
    {n : Nat}
    {w : World}
    (h : AfterBytes n w) :
    AfterBytes (n + 1) (runTo relayByte w) := by
  rcases OpenRelay.reads (s := w.view 0) h.relay h.slots
    h.quiet 0 with ⟨t, hRead, hOpen, hSlots, hOthers, hFault,
      hQuiet, hMetrics⟩
  let w₁ := w.put 0 t
  have hConn : w₁.conn 0 = t.conn := w.put_conn_self 0 t
  have hFirst : Enabled w (.read 5 { recv := some [0] }) =
      true ∧ exec w (.read 5 { recv := some [0] }) = w₁ := by
    unfold Enabled exec
    simp only [h.fault, h.slots.client.2]
    refine ⟨rfl, ?_⟩
    exact congrArg (w.put 0) hRead
  have hHere : OpenRelay [0] (w₁.view 0).conn := by
    rw [show (w₁.view 0).conn = t.conn from hConn]
    exact hOpen
  rcases OpenRelay.writes (s := w₁.view 0) hHere hSlots with
    ⟨u, hWrite, hOpen', hSlots', hOthers', hFault', hQuiet',
      hMetrics'⟩
  have hSecond : Enabled w₁ (.write 6 { send := some 1 }) =
      true ∧ exec w₁ (.write 6 { send := some 1 }) =
        w₁.put 0 u := by
    have hGoing : w₁.srv.fault = none := hFault.trans h.fault
    have hSix : w₁.srv.sel.fds 6 =
        some ⟨opReadWrite, .socks 0⟩ := hSlots.origin.2
    unfold Enabled exec
    simp only [hGoing, hSix]
    refine ⟨rfl, ?_⟩
    exact congrArg (w₁.put 0) hWrite
  have hRun : runTo relayByte w = w₁.put 0 u := by
    unfold relayByte runTo
    rw [if_pos hFirst.1, hFirst.2]
    unfold runTo
    rw [if_pos hSecond.1, hSecond.2]
    rfl
  rw [hRun]
  constructor
  · exact hFault'.trans (hFault.trans h.fault)
  · show u.srv.passwordDissectors ≠ 0x00
    rw [hQuiet', show (w₁.view 0).srv.passwordDissectors = _
      from hQuiet]
    exact h.quiet
  · rw [w₁.put_conn_self 0 u]
    exact hOpen'
  · exact hSlots'
  · refine (h.asks.put ?_).put ?_
    · exact hOthers 7 (by decide) (by decide)
    · exact hOthers' 7 (by decide) (by decide)
  · show u.srv.metrics.historicByteTransfer = _
    rw [hMetrics', show (w₁.view 0).srv.metrics = _ from
      hMetrics]
    show w.srv.metrics.historicByteTransfer + 1 + 1 = _
    rw [h.bytes, Nat.mul_add, UInt64.ofNat_add,
      UInt64.add_assoc]
    rfl

/- The server once `n` bytes have been relayed. -/
def busyServer (n : Nat) : World :=
  runTo (adminRun ++ relayBytes n) adminServer

theorem busyServer_after
    (n : Nat) :
    AfterBytes n (busyServer n) := by
  unfold busyServer
  induction n with
  | zero =>
      show AfterBytes 0 (runTo (adminRun ++ []) adminServer)
      rw [List.append_nil]
      exact adminRun_relayed
  | succ n ih =>
      have hMore : adminRun ++ relayBytes (n + 1) =
          adminRun ++ relayBytes n ++ relayByte := by
        unfold relayBytes
        rw [List.replicate_succ', List.flatten_append,
          List.flatten_singleton, List.append_assoc]
      rw [hMore, runTo_append]
      exact ih.next

theorem busyServer_counter
    (n : Nat) :
    (busyServer n).srv.metrics.historic
        MngIndex.historicBytesTransferred =
      some (UInt64.ofNat (2 * n)) :=
  congrArg some (busyServer_after n).bytes

/- The reply that the administrator gets then. -/
theorem busyServer_reply
    (n : Nat) :
    ((exec (busyServer n)
        (.read 7 askBytes)).conn 1).writeBuffer.pending =
      0x00 :: uint32Bytes (UInt64.ofNat (2 * n)) := by
  have hReach : server.Reachable (busyServer n) :=
    reachable_runTo _ (.init adminServer_initial)
  exact ((busyServer_after n).asks.answered hReach
    (busyServer_counter n)).reply

/- With the counter at 2, the administrator is told 2. -/
theorem counters_decoded_two :
    (busyServer 1).srv.metrics.historic
        MngIndex.historicBytesTransferred = some 2 ∧
      (Client.castUint32 ((exec (busyServer 1)
        (.read 7 askBytes)).conn 1).writeBuffer.pending).toNat =
          2 := by
  have hTwo := busyServer_counter 1
  rw [show UInt64.ofNat (2 * 1) = 2 from rfl] at hTwo
  have hDecoded := counters_decoded adminServer
    adminServer_initial (adminRun ++ relayBytes 1) 7 askBytes 1
    MngIndex.historicBytesTransferred 2
    (busyServer_after 1).asks hTwo
  refine ⟨hTwo, ?_⟩
  unfold busyServer
  exact hDecoded.2.2.2.2.1

/-
  After 2^31 bytes that were received and sent the counter is
  2^32, and the administrator is told 0.
-/
theorem counter_truncated :
    Initial adminServer ∧
      AsksIndex (busyServer (2 ^ 31)) 7 askBytes 1
        MngIndex.historicBytesTransferred ∧
      (busyServer (2 ^ 31)).srv.metrics.historic
        MngIndex.historicBytesTransferred =
          some (UInt64.ofNat (2 ^ 32)) ∧
      (Client.castUint32 ((exec (busyServer (2 ^ 31))
        (.read 7 askBytes)).conn 1).writeBuffer.pending).toNat =
          0 := by
  have hTwice : 2 * 2 ^ 31 = 2 ^ 32 := by norm_num
  have hCounter := busyServer_counter (2 ^ 31)
  have hReply := busyServer_reply (2 ^ 31)
  rw [hTwice] at hCounter hReply
  refine ⟨adminServer_initial, (busyServer_after _).asks,
    hCounter, ?_⟩
  rw [hReply, castUint32_reply]
  rfl

end Socks5d
