import Socks5d.HandlerCalls
import Socks5d.Replies
import Socks5d.Streams

/-
  What method negotiation makes of a stream: where the hello
  ends, which method is answered, and how the connection ends
  when there is none.

  Main declarations:
    * `hello_stops`, `hello_cases`
    * `Negotiated`, `hello_negotiated`
    * `helloRead_feeds`
    * `hello_exact`
-/

------------------------------------------------------------
-- Streams Of A Hello
------------------------------------------------------------

namespace Socks5d

/- The parser that `hello_read_init` leaves. -/
def helloStart
    (version method : UInt8) : HelloParser where
  version
  method
  data := methodNoAcceptableMethods

/- The method that is answered to an offer. -/
def answered
    (method : UInt8)
    (methods : List UInt8) : UInt8 :=
  if method ∈ methods then method else methodNoAcceptableMethods

section Parsing

variable {version method : UInt8}
variable {methods stream : List UInt8}

/- The method bytes are a field of the announced length. -/
theorem methods_field
    (version method size : UInt8) :
    HelloParser.reader.Field size.toNat
      (fun seen => helloAt version method size seen .methods)
      (fun seen => helloAt version method size seen .done)
    where
  going := fun _ => rfl
  more := by
    intro seen b hMore
    have hSeen : seen.length < size.toNat := by omega
    have hFeed := helloAt_feed version method size hSeen b
    rw [if_neg (Nat.ne_of_lt hMore)] at hFeed
    exact hFeed
  last := by
    intro seen b hLast
    have hSeen : seen.length < size.toNat := by omega
    have hFeed := helloAt_feed version method size hSeen b
    rw [if_pos hLast] at hFeed
    exact hFeed

theorem helloStart_version
    (version method : UInt8) :
    helloParserFeed (helloStart version method) version =
      { helloStart version method with state := .nmethods } :=
  if_pos rfl

theorem helloStart_other
    {first : UInt8}
    (hOther : first ≠ version) :
    helloParserFeed (helloStart version method) first =
      { helloStart version method with
        state := .errorUnsupportedVersion } :=
  if_neg hOther

theorem nmethods_feed
    (version method size : UInt8) :
    helloParserFeed
        { helloStart version method with state := .nmethods }
        size =
      helloAt version method size []
        (if size = 0 then .done else .methods) := by
  unfold helloParserFeed helloAt helloStart
  simp

/-
  The parser stops at the last byte of a hello, and at no
  earlier one.
-/
theorem hello_stops
    (version method : UInt8)
    (hLength : methods.length ≤ 255) :
    HelloParser.reader.Stops (helloStart version method)
        (helloMessage version methods) ∧
      HelloParser.reader.feedAll (helloStart version method)
          (helloMessage version methods) =
        helloAt version method (UInt8.ofNat methods.length)
          methods .done := by
  have hSize : (UInt8.ofNat methods.length).toNat =
      methods.length :=
    ofNat_toNat (Nat.lt_succ_of_le hLength)
  have hFirst := helloStart_version version method
  have hSecond := nmethods_feed version method
    (UInt8.ofNat methods.length)
  have hHead : HelloParser.reader.feedAll
      (helloStart version method)
        [version, UInt8.ofNat methods.length] =
      helloAt version method (UInt8.ofNat methods.length) []
        (if UInt8.ofNat methods.length = 0 then .done
          else .methods) :=
    (congrArg (fun p => helloParserFeed p
      (UInt8.ofNat methods.length)) hFirst).trans hSecond
  have hLive : HelloParser.reader.Live
      (helloStart version method) [version] := by
    refine ⟨?_, trivial⟩
    exact congrArg (fun p => helloIsDone p.state) hFirst
  have hSplit : helloMessage version methods =
      [version, UInt8.ofNat methods.length] ++ methods := rfl
  cases methods with
  | nil =>
      refine ⟨?_, hHead⟩
      have hStop : HelloParser.reader.stop
          (HelloParser.reader.feedAll
            (helloStart version method)
              [version, UInt8.ofNat ([] : List UInt8).length]) =
          true := by
        rw [hHead]
        rfl
      apply (HelloParser.reader.stops_append_of_live
        hLive).2
      exact (if_pos hStop).mpr rfl
  | cons m more =>
      have hPos : 0 < (m :: more).length :=
        Nat.succ_pos _
      have hSome : UInt8.ofNat (m :: more).length ≠ 0 := by
        intro hZero
        rw [hZero] at hSize
        exact Nat.ne_of_lt hPos hSize
      rw [if_neg hSome] at hHead
      have hField := (methods_field version method
        (UInt8.ofNat (m :: more).length)).read hSize.symm
          (hSize.symm ▸ hPos)
      have hBoth : HelloParser.reader.Live
          (helloStart version method)
            [version, UInt8.ofNat (m :: more).length] := by
        refine ⟨hLive.1, ?_, trivial⟩
        exact congrArg (fun p => helloIsDone p.state) hHead
      rw [hSplit]
      constructor
      · apply (HelloParser.reader.stops_append_of_live
          hBoth).2
        rw [hHead]
        exact hField.2.2 rfl
      · rw [HelloParser.reader.feedAll_append, hHead]
        exact hField.1

/-
  A stream is empty, or starts with another version, or with
  a whole hello, or is the beginning of one.
-/
theorem hello_cases
    (version : UInt8)
    (stream : List UInt8) :
    stream = [] ∨
      (∃ first rest, stream = first :: rest ∧
        first ≠ version) ∨
      (∃ methods trailing, methods.length ≤ 255 ∧
        stream = helloMessage version methods ++ trailing) ∨
      ∃ methods more, methods.length ≤ 255 ∧ more ≠ [] ∧
        stream ≠ [] ∧
        stream ++ more = helloMessage version methods := by
  cases stream with
  | nil => exact Or.inl rfl
  | cons first rest =>
      right
      by_cases hOther : first ≠ version
      · exact Or.inl ⟨first, rest, rfl, hOther⟩
      rw [not_not] at hOther
      subst hOther
      right
      cases rest with
      | nil =>
          right
          exact ⟨[], [0], Nat.zero_le _, List.cons_ne_nil _ _,
            List.cons_ne_nil _ _, rfl⟩
      | cons size tail =>
          have hSize := size.toNat_lt
          by_cases hWhole : size.toNat ≤ tail.length
          · left
            have hTake : (tail.take size.toNat).length =
                size.toNat := by
              rw [List.length_take]
              exact Nat.min_eq_left hWhole
            refine ⟨tail.take size.toNat,
              tail.drop size.toNat, by omega, ?_⟩
            unfold helloMessage
            rw [hTake, UInt8.ofNat_toNat, List.cons_append,
              List.cons_append, List.take_append_drop]
          · right
            let more := List.replicate
              (size.toNat - tail.length) (0 : UInt8)
            have hAll : (tail ++ more).length =
                size.toNat := by
              rw [List.length_append, List.length_replicate]
              omega
            refine ⟨tail ++ more, more, by omega, ?_,
              List.cons_ne_nil _ _, ?_⟩
            · intro hNone
              have hZero := congrArg List.length hNone
              rw [List.length_replicate,
                List.length_nil] at hZero
              omega
            · unfold helloMessage
              rw [hAll, UInt8.ofNat_toNat]
              rfl

end Parsing

end Socks5d

------------------------------------------------------------
-- What The Parser Makes Of A Stream
------------------------------------------------------------

namespace Socks5d

/-
  What a hello parser and the bytes it leaves should be,
  given all the bytes it was offered.
-/
structure Negotiated
    (version method : UInt8)
    (stream : List UInt8)
    (p : HelloParser)
    (left : List UInt8) : Prop where
  done : p.state = .done ↔
    ∃ methods trailing, methods.length ≤ 255 ∧
      stream = helloMessage version methods ++ trailing
  unsupported : p.state = .errorUnsupportedVersion ↔
    ∃ first rest, stream = first :: rest ∧ first ≠ version
  taken : ∀ methods trailing, methods.length ≤ 255 →
    stream = helloMessage version methods ++ trailing →
      left = trailing ∧ p.data = answered method methods

section Parsing

variable {version method : UInt8}
variable {methods trailing stream : List UInt8}

theorem hello_consumed
    (version method : UInt8)
    (hLength : methods.length ≤ 255)
    (hStream : stream =
      helloMessage version methods ++ trailing) :
    HelloParser.reader.consume (helloStart version method)
        stream =
      (helloAt version method (UInt8.ofNat methods.length)
        methods .done, trailing) := by
  rcases hello_stops version method hLength with
    ⟨hStops, hAll⟩
  have hConsume := HelloParser.reader.consume_of_stops
    hStops trailing
  rw [hStream, hConsume, hAll]

theorem hello_refused
    {first : UInt8}
    (hOther : first ≠ version)
    (rest : List UInt8) :
    HelloParser.reader.consume (helloStart version method)
        (first :: rest) =
      ({ helloStart version method with
          state := .errorUnsupportedVersion }, rest) := by
  have hFeed : HelloParser.reader.feed
      (helloStart version method) first = _ :=
    helloStart_other hOther
  unfold Incremental.Reader.consume
  rw [hFeed]
  exact if_pos rfl

/- A hello that has not ended keeps the parser going. -/
theorem hello_pending
    (version method : UInt8)
    {more : List UInt8}
    (hLength : methods.length ≤ 255)
    (hMore : more ≠ [])
    (hSome : stream ≠ [])
    (hStream : stream ++ more =
      helloMessage version methods) :
    helloIsDone (HelloParser.reader.consume
      (helloStart version method) stream).1.state = false := by
  have hStops := (hello_stops version method hLength).1
  rw [← hStream] at hStops
  have hLive := hStops.live_of_append _ hMore
  rw [HelloParser.reader.consume_of_live hLive]
  exact hLive.going_feedAll _ hSome

theorem hello_negotiated
    (version method : UInt8)
    (stream : List UInt8) :
    let after := HelloParser.reader.consume
      (helloStart version method) stream
    Negotiated version method stream after.1 after.2 := by
  intro after
  have hTaken : ∀ methods trailing, methods.length ≤ 255 →
      stream = helloMessage version methods ++ trailing →
        after = (helloAt version method
          (UInt8.ofNat methods.length) methods .done,
            trailing) :=
    fun methods trailing hLength hStream =>
      hello_consumed version method hLength hStream
  have hRefused : ∀ first rest, stream = first :: rest →
      first ≠ version →
        after = ({ helloStart version method with
          state := .errorUnsupportedVersion }, rest) := by
    intro first rest hStream hOther
    show HelloParser.reader.consume _ stream = _
    rw [hStream]
    exact hello_refused hOther rest
  constructor
  · constructor
    · intro hDone
      rcases hello_cases version stream with hNil |
        ⟨first, rest, hStream, hOther⟩ | hWhole |
        ⟨methods, more, hLength, hMore, hSome, hStream⟩
      · subst hNil
        nomatch hDone
      · rw [hRefused first rest hStream hOther] at hDone
        nomatch hDone
      · exact hWhole
      · have hGoing := hello_pending version method hLength
          hMore hSome hStream
        have hStopped : helloIsDone after.1.state = true := by
          rw [hDone]
          rfl
        nomatch hStopped.symm.trans hGoing
    · rintro ⟨methods, trailing, hLength, hStream⟩
      rw [hTaken methods trailing hLength hStream]
      rfl
  · constructor
    · intro hError
      rcases hello_cases version stream with hNil |
        hOther | ⟨methods, trailing, hLength, hStream⟩ |
        ⟨methods, more, hLength, hMore, hSome, hStream⟩
      · subst hNil
        nomatch hError
      · exact hOther
      · rw [hTaken methods trailing hLength hStream]
          at hError
        nomatch hError
      · have hGoing := hello_pending version method hLength
          hMore hSome hStream
        have hStopped : helloIsDone after.1.state = true := by
          rw [hError]
          rfl
        nomatch hStopped.symm.trans hGoing
    · rintro ⟨first, rest, hStream, hOther⟩
      rw [hRefused first rest hStream hOther]
  · intro methods trailing hLength hStream
    rw [hTaken methods trailing hLength hStream]
    exact ⟨rfl, rfl⟩

end Parsing

end Socks5d

------------------------------------------------------------
-- The State That Reads A Hello
------------------------------------------------------------

namespace Socks5d

/- What `hello_read` finds while it reads one hello. -/
structure HelloReady
    (isSocks : Bool)
    (c : Conn) : Prop where
  fine : c.hello.failed = false
  service : c.isSocks = isSocks
  unanswered : c.writeBuffer.pending = []

section Reading

variable {key : Key}
variable {a : Answers}
variable {s t : St}
variable {isSocks : Bool}

theorem helloFed_consumed
    (key : Key)
    (a : Answers)
    (t : St) :
    let after := HelloParser.reader.consume
      t.conn.hello.parser
      (t.conn.readBuffer.pending ++ t.recvBytes a)
    (helloFed key (t.recvBytes a) t).conn.hello.parser =
        after.1 ∧
      (helloFed key (t.recvBytes a)
        t).conn.readBuffer.pending = after.2 := by
  have hFeed := (t.conn.readBuffer.writeAdv
    (t.recvBytes a)).feed_eq HelloParser.reader
      t.conn.hello.parser
  rw [Buffer.writeAdv_pending, St.take_recvBytes rfl] at hFeed
  exact hFeed

/- An empty write buffer has room for a reply. -/
theorem HelloReady.room
    {c : Conn}
    (h : HelloReady isSocks c) :
    2 ≤ c.writeBuffer.room := by
  rw [Buffer.room_of_pending_nil h.unanswered]
  decide

/-
  A call that gets bytes waits for more, or answers; the
  answer to an unsupported version is not sent.
-/
theorem helloRead_turn
    (hReady : HelloReady isSocks t.conn)
    (hSlot : t.Slotted key)
    (hSome : t.recvBytes a ≠ []) :
    let fed := helloFed key (t.recvBytes a) t
    let state := fed.conn.hello.parser.state
    (helloIsDone state = false ∧
        helloRead key a t = (fed, HELLO_READ)) ∨
      (helloIsDone state = true ∧
        ∃ attached, helloRead key a t =
          ({ fed.arm key.fd opWrite attached with
              conn.writeBuffer :=
                t.conn.writeBuffer.writeAdv
                  fed.conn.helloReply },
            if state = .errorUnsupportedVersion then
              t.conn.errorState
            else HELLO_WRITE)) := by
  intro fed state
  rcases hSlot with ⟨interest, attached, hHas⟩
  have hFed : fed.srv.sel.Has key.fd interest attached :=
    hHas
  have hRead : helloRead key a t =
      if helloIsDone state then
        let processed := helloProcess
          (fed.arm key.fd opWrite attached)
            fed.conn.helloVersion
        if state = .errorUnsupportedVersion then
          (processed.1, t.conn.errorState)
        else
          (processed.1,
            processed.2.getD t.conn.errorState)
      else (fed, HELLO_READ) := by
    unfold helloRead
    rw [hReady.fine]
    simp only [Bool.false_eq_true, if_false, hSome]
    show (if helloIsDone state then
      if (fed.setInterest key.fd opWrite).2 then _
      else _ else _) = _
    rw [St.setInterest_of_has hFed opWrite]
    rfl
  rcases helloProcess_cases
      (fed.arm key.fd opWrite attached)
      fed.conn.helloVersion with hFull | ⟨_, hStored⟩
  · exfalso
    have hNone := congrArg Prod.snd hFull
    unfold helloProcess marshalPair at hNone
    have hRoom : ¬ (fed.arm key.fd opWrite
        attached).conn.writeBuffer.room < 2 :=
      Nat.not_lt.mpr hReady.room
    rw [if_neg hRoom] at hNone
    nomatch hNone
  · rw [hStored] at hRead
    cases hDone : helloIsDone state with
    | false =>
        rw [hDone] at hRead
        exact Or.inl ⟨rfl, hRead⟩
    | true =>
        rw [hDone] at hRead
        refine Or.inr ⟨rfl, attached, ?_⟩
        rw [hRead]
        by_cases hError : state = .errorUnsupportedVersion
        · simp only [if_true, hError]
          rfl
        · simp only [if_true, if_neg hError]
          rfl

theorem helloRead_feeds
    (isSocks : Bool) :
    Feeds HelloParser.reader
      (fun c : Conn => c.hello.parser)
      (HelloReady isSocks) helloRead HELLO_READ where
  fed := by
    intro key a t hSlot hReady hSome
    rcases helloRead_turn hReady hSlot hSome with
      ⟨_, hRead⟩ | ⟨_, attached, hRead⟩
    · rw [hRead]
      exact helloFed_consumed key a t
    · rw [hRead]
      exact helloFed_consumed key a t
  stays := by
    intro key a t hSlot hReady hSome
    have hLeaves := t.conn.leaves_ne
      (by decide : HELLO_READ < MNG_DONE)
      (by decide : HELLO_WRITE ≠ HELLO_READ)
    rcases helloRead_turn hReady hSlot hSome with
      ⟨hGoing, hRead⟩ | ⟨hDone, attached, hRead⟩
    · rw [hRead]
      exact ⟨fun _ => hGoing, fun _ => rfl⟩
    · rw [hRead]
      constructor
      · intro hStays
        exact absurd hStays (hLeaves _)
      · intro hGoing
        nomatch hDone.symm.trans hGoing
  ready := by
    intro key a t hSlot hReady hSome hStays
    have hLeaves := t.conn.leaves_ne
      (by decide : HELLO_READ < MNG_DONE)
      (by decide : HELLO_WRITE ≠ HELLO_READ)
    rcases helloRead_turn hReady hSlot hSome with
      ⟨_, hRead⟩ | ⟨_, attached, hRead⟩
    · rw [hRead]
      exact ⟨hReady.fine, hReady.service, hReady.unanswered⟩
    · rw [hRead] at hStays
      exact absurd hStays (hLeaves _)

end Reading

end Socks5d

------------------------------------------------------------
-- The State That Answers A Hello
------------------------------------------------------------

namespace Socks5d

/- The write event of either service. -/
def writeEvent
    (key : Key)
    (a : Answers)
    (s : St) : St :=
  if s.conn.isSocks then
    socksv5Event StateDefinition.onWriteReady key a s
  else mngEvent StateDefinition.onWriteReady key a s

section Closing

variable {key : Key}
variable {a : Answers}
variable {s t u : St}
variable {fd : Fd}

/- A turn of the closing loop closes its descriptor. -/
theorem doneFd_closes
    (hSlot : ∃ interest attached,
      s.srv.sel.Has fd interest attached) :
    (doneFd fd s).srv.sel.opened fd = none := by
  rcases hSlot with ⟨interest, attached, hHas⟩
  have hValid : fd ≠ -1 := by
    intro hNone
    have hFd := hHas.1
    rw [hNone] at hFd
    nomatch hFd
  unfold doneFd
  rw [if_neg hValid]
  rcases unregisterFd_cases s.srv fd with
    ⟨_, hMissing⟩ | ⟨_, _, _, hDone, _⟩
  · exact absurd hHas (hMissing interest attached)
  · simp only [hDone, if_true]
    exact Selector.close_opened_self _ _

/- It opens none. -/
theorem doneFd_opened
    (other : Fd)
    (hClosed : s.srv.sel.opened fd = none) :
    (doneFd other s).srv.sel.opened fd = none := by
  unfold doneFd
  split
  · exact hClosed
  · rcases unregisterFd_cases s.srv other with
      ⟨hFailed, _⟩ | ⟨_, _, _, hDone, hClear⟩
    · rw [hFailed]
      exact hClosed
    · simp only [hDone, if_true]
      show ((unregisterFd s.srv other).1.sel.close
        other).opened fd = none
      by_cases hSame : fd = other
      · rw [hSame]
        exact Selector.close_opened_self _ _
      · rw [Selector.close_opened_of_ne hSame, hClear]
        exact hClosed

/- The event in which `hello_write` is done closes the client. -/
theorem writeEvent_closes
    (hState : t.conn.current = some HELLO_WRITE)
    (hKey : t.conn.clientFd = key.fd)
    (hSlot : t.Slotted key)
    (hCall : helloWrite key a t = (u, t.conn.doneState))
    (hConn : u.conn.current = t.conn.current ∧
      u.conn.clientFd = t.conn.clientFd ∧
      u.conn.isSocks = t.conn.isSocks)
    (hSel : u.srv.sel = t.srv.sel) :
    (writeEvent key a t).srv.sel.opened key.fd = none := by
  rcases hConn with ⟨hCurrent, hClient, hService⟩
  rw [hState] at hCurrent
  have hOpen : ∃ interest attached, u.srv.sel.Has
      u.conn.clientFd interest attached := by
    rw [hSel, hClient, hKey]
    exact hSlot
  have hHere : key.fd = u.conn.clientFd := by
    rw [hClient, hKey]
  have hDone : ∀ next, (doneFd u.conn.clientFd
      (entered next u)).srv.sel.opened u.conn.clientFd =
        none := fun next => doneFd_closes hOpen
  have hStart : ∀ states, handleFirst states key a t = t := by
    intro states
    unfold handleFirst
    rw [hState]
    rfl
  unfold writeEvent
  split
  · rename_i hSocks
    have hNext : t.conn.doneState = DONE := if_pos hSocks
    rw [hNext] at hCall
    have hHandled : stmHandler StateDefinition.onWriteReady
        clientStatbl key a t = (entered DONE u, DONE) := by
      unfold stmHandler
      simp only [hStart, hState]
      show (jump clientStatbl (helloWrite key a t).2 key a
        (helloWrite key a t).1, (helloWrite key a t).2) = _
      rw [hCall]
      have hOther : u.conn.current ≠ some DONE := by
        rw [hCurrent]
        nofun
      rw [jump_enters (hService.trans hSocks) (by decide)
        hOther]
      unfold depart
      rw [hCurrent]
      rfl
    unfold socksv5Event
    rw [hHandled, if_pos (Or.inr rfl), hHere]
    exact doneFd_opened _ (hDone DONE)
  · rename_i hMng
    have hNext : t.conn.doneState = MNG_DONE := if_neg hMng
    rw [hNext] at hCall
    have hHandled : stmHandler StateDefinition.onWriteReady
        clientMng key a t = (entered MNG_DONE u, MNG_DONE) := by
      unfold stmHandler
      simp only [hStart, hState]
      show (jump clientMng (helloWrite key a t).2 key a
        (helloWrite key a t).1, (helloWrite key a t).2) = _
      rw [hCall]
      have hOther : u.conn.current ≠ some MNG_DONE := by
        rw [hCurrent]
        nofun
      rw [Bool.not_eq_true] at hMng
      have hBound : MNG_DONE ≤ MNG_ERROR := by decide
      have hFrom : u.conn.current ≠ some USERPASS_READ ∧
          u.conn.current ≠ some MNG_REQUEST_READ := by
        rw [hCurrent]
        decide
      rw [jump_mng (hService.trans hMng) hBound,
        if_neg hOther, depart_mng_same key hFrom]
      rfl
    unfold mngEvent
    rw [hHandled, if_pos (Or.inr rfl), hHere]
    exact hDone MNG_DONE

end Closing

end Socks5d

------------------------------------------------------------
-- The Whole Negotiation
------------------------------------------------------------

namespace Socks5d

/- The method that `hello_read_init` looks for. -/
def St.helloMethod (s : St) : UInt8 :=
  if s.conn.isSocks then s.srv.authMethod else mngAuthMethod

/-
  The calls of `hello_write` that send a refusal: they go on
  only when `send` takes fewer bytes than are pending, and
  then the connection is closed; `wire` is what was sent
  before the reply.
-/
inductive Refused
    (key : Key)
    (c : Conn)
    (wire reply : List UInt8)
    (t : St)
    (a : Answers)
    (u : St × Nat) : Prop where
  | sending
      (n : Nat)
      (hSend : a.send = some n)
      (hState : u.2 = HELLO_WRITE)
      (hReply : t.conn.wire ++ t.conn.writeBuffer.pending =
        wire ++ reply)
      (hShort : ShortSend t.conn.wire
        t.conn.writeBuffer.pending n u.1.conn)
  | failed
      (hSend : a.send = none)
      (hState : u.2 = c.errorState)
  | closed
      (n : Nat)
      (hSend : a.send = some n)
      (hState : u.2 = c.doneState)
      (hWire : u.1.conn.wire = wire ++ reply)
      (hClosed :
        (writeEvent key a t).srv.sel.opened key.fd = none)

/- What `hello_write` finds while it sends a refusal. -/
structure Refusing
    (c : Conn)
    (all : List UInt8)
    (d : Conn) : Prop where
  state : d.current = some HELLO_WRITE
  client : d.clientFd = c.clientFd
  service : d.isSocks = c.isSocks
  method : d.hello.method = methodNoAcceptableMethods
  replied : d.replied = all

section Negotiating

variable {key : Key}
variable {a : Answers}
variable {s t : St}
variable {c : Conn}
variable {wire reply all : List UInt8}

/- One call with the method 0xFF. -/
theorem helloWrite_turn
    (key : Key)
    (a : Answers)
    (hMethod : t.conn.hello.method =
      methodNoAcceptableMethods) :
    (a.send = none ∧
        (helloWrite key a t).2 = t.conn.errorState) ∨
      ∃ n, a.send = some n ∧
        (((sendPending key n
            t).conn.writeBuffer.pending ≠ [] ∧
          helloWrite key a t =
            (sendPending key n t, HELLO_WRITE)) ∨
        ((sendPending key n
            t).conn.writeBuffer.pending = [] ∧
          helloWrite key a t =
            (sendPending key n t, t.conn.doneState))) := by
  have hSame : ∀ n, (sendPending key n t).conn.hello.method =
      methodNoAcceptableMethods := fun _ => hMethod
  unfold helloWrite
  cases hSend : a.send with
  | none => exact Or.inl ⟨rfl, rfl⟩
  | some n =>
      right
      refine ⟨n, rfl, ?_⟩
      simp only [hSame, if_true]
      cases hLeft : (sendPending key n
          t).conn.writeBuffer.canRead with
      | true =>
          left
          exact ⟨(Buffer.canRead_eq_true_iff _).1 hLeft, rfl⟩
      | false =>
          right
          exact ⟨(Buffer.canRead_eq_false_iff _).1 hLeft, rfl⟩

theorem Refusing.sent
    (h : Refusing c all t.conn)
    (key : Key)
    (n : Nat) :
    Refusing c all (sendPending key n t).conn where
  state := h.state
  client := h.client
  service := h.service
  method := h.method
  replied := (sendPending_replied key n t).trans h.replied

/- A call that stays keeps the refusal on its way. -/
theorem Refusing.stays
    (h : Refusing c all t.conn)
    (hStays : (helloWrite key a t).2 = HELLO_WRITE) :
    Refusing c all (helloWrite key a t).1.conn := by
  have hOver := t.conn.over_ne HELLO_WRITE (by decide)
  rcases helloWrite_turn key a h.method with
    ⟨_, hError⟩ | ⟨n, _, ⟨_, hCall⟩ | ⟨_, hCall⟩⟩
  · exact absurd (hError.symm.trans hStays) hOver.1
  · rw [hCall]
    exact h.sent key n
  · rw [hCall] at hStays
    exact absurd hStays hOver.2

/- The last call of a refusal. -/
theorem Refusing.last
    (h : Refusing c (wire ++ reply) t.conn)
    (hKey : c.clientFd = key.fd)
    (hSlot : t.Slotted key) :
    Refused key c wire reply t a (helloWrite key a t) := by
  rcases Conn.ends_of_service h.service with ⟨hError, hDone⟩
  rcases helloWrite_turn key a h.method with
    ⟨hSend, hState⟩ |
      ⟨n, hSend, ⟨hLeft, hCall⟩ | ⟨hSent, hCall⟩⟩
  · exact .failed hSend (hState.trans hError)
  · rw [hCall]
    exact .sending n hSend rfl h.replied
      (sendPending_short hLeft)
  · have hClosed := writeEvent_closes h.state
      (h.client.trans hKey) hSlot hCall ⟨rfl, rfl, rfl⟩ rfl
    rw [hCall]
    refine .closed n hSend hDone ?_ hClosed
    have hAll := (sendPending_replied key n t).trans h.replied
    unfold Conn.replied at hAll
    rw [hSent, List.append_nil] at hAll
    exact hAll

/- A state that has just been read out of its hello. -/
theorem helloReadInit_ready
    (key : Key)
    (hAlloc : a.alloc .hello = true)
    (hUnanswered : s.conn.writeBuffer.pending = []) :
    HelloReady s.conn.isSocks
        (helloReadInit key a s).conn ∧
      (helloReadInit key a s).conn.hello.parser =
        helloStart s.conn.helloVersion s.helloMethod ∧
      (helloReadInit key a s).conn.readBuffer =
        s.conn.readBuffer ∧
      (helloReadInit key a s).conn.clientFd =
        s.conn.clientFd := by
  unfold helloReadInit
  rw [if_pos hAlloc]
  exact ⟨⟨rfl, rfl, hUnanswered⟩, rfl, rfl, rfl⟩

/- The connection is the one that started to read. -/
structure HelloOf
    (s : St)
    (c : Conn) : Prop where
  ready : HelloReady s.conn.isSocks c
  client : c.clientFd = s.conn.clientFd

/- What the last call of `hello_read` leaves. -/
theorem HelloOf.last
    (h : HelloOf s t.conn)
    (hSlot : t.Slotted key)
    (hSome : t.recvBytes a ≠ []) :
    let r := helloRead key a t
    let state := r.1.conn.hello.parser.state
    r.1.conn.isSocks = s.conn.isSocks ∧
      r.1.conn.clientFd = s.conn.clientFd ∧
      (state = .errorUnsupportedVersion →
        r.2 = s.conn.errorState) ∧
      (state = .done →
        r.2 = HELLO_WRITE ∧
          r.1.conn.writeBuffer.pending =
            [s.conn.helloVersion, r.1.conn.hello.method]) := by
  have hError := (Conn.ends_of_service h.ready.service).1
  have hVersion : t.conn.helloVersion =
      s.conn.helloVersion := by
    unfold Conn.helloVersion
    rw [h.ready.service]
  intro r state
  rcases helloRead_turn h.ready hSlot hSome with
    ⟨hGoing, hCall⟩ | ⟨_, attached, hCall⟩
  · have hState : helloIsDone state = false := by
      show helloIsDone (helloRead key a
        t).1.conn.hello.parser.state = false
      rw [hCall]
      exact hGoing
    have hR : r = (helloFed key (t.recvBytes a) t,
        HELLO_READ) := hCall
    refine ⟨?_, ?_, ?_, ?_⟩
    · rw [hR]
      exact h.ready.service
    · rw [hR]
      exact h.client
    · intro hBad
      rw [hBad] at hState
      nomatch hState
    · intro hBad
      rw [hBad] at hState
      nomatch hState
  · have hR : r = _ := hCall
    have hState : state = (helloFed key (t.recvBytes a)
        t).conn.hello.parser.state := by
      show r.1.conn.hello.parser.state = _
      rw [hR]
      rfl
    refine ⟨?_, ?_, ?_, ?_⟩
    · rw [hR]
      exact h.ready.service
    · rw [hR]
      exact h.client
    · intro hUnsupported
      rw [hState] at hUnsupported
      rw [hR, ← hError]
      exact if_pos hUnsupported
    · intro hDone
      rw [hState] at hDone
      have hFine : ¬ (helloFed key (t.recvBytes a)
          t).conn.hello.parser.state =
            .errorUnsupportedVersion := by
        rw [hDone]
        nofun
      rw [hR]
      refine ⟨if_neg hFine, ?_⟩
      show (t.conn.writeBuffer.writeAdv _).pending = _
      rw [Buffer.writeAdv_pending, h.ready.unanswered,
        List.nil_append,
        List.take_of_length_le h.ready.room, ← hVersion]
      rfl

/-
  Negotiation is exact: `hello_consume` stops where the hello
  does, in any buffers; and however the calls of `hello_read`
  and `hello_write` cut the bytes, the reply says whether the
  method was offered, and a refusal ends the connection.
-/
theorem hello_exact :
    (∀ (version method : UInt8) (limit : Nat)
      (buffers : List (Buffer limit)),
      let fed := Buffer.feedBuffers HelloParser.reader
        (helloStart version method) buffers
      Negotiated version method (Buffer.pendingAll buffers)
        fed.1 (Buffer.pendingAll fed.2)) ∧
    ∀ (key : Key) (a : Answers) (s : St)
      (calls : List (St × Answers)) (r : St × Nat),
      a.alloc .hello = true →
      s.conn.readBuffer.pending = [] →
      s.conn.writeBuffer.pending = [] →
      s.conn.clientFd = key.fd →
      Calls helloRead HELLO_READ key (helloReadInit key a s)
        calls r →
      (∀ call ∈ calls, call.1.recvBytes call.2 ≠ []) →
      let state := r.1.conn.hello.parser.state
      Negotiated s.conn.helloVersion s.helloMethod
          (received calls) r.1.conn.hello.parser
          r.1.conn.readBuffer.pending ∧
        (r.2 = HELLO_READ ↔ state ≠ .done ∧
          state ≠ .errorUnsupportedVersion) ∧
        (state = .errorUnsupportedVersion →
          r.2 = s.conn.errorState) ∧
        ∀ methods trailing, methods.length ≤ 255 →
          received calls = helloMessage
            s.conn.helloVersion methods ++ trailing →
          let reply := [s.conn.helloVersion,
            answered s.helloMethod methods]
          r.2 = HELLO_WRITE ∧
            r.1.conn.writeBuffer.pending = reply ∧
            (s.helloMethod ∉ methods →
              ∀ writes u,
                Calls helloWrite HELLO_WRITE key
                  (entered HELLO_WRITE r.1) writes u →
                ∃ t b, writes.getLast? = some (t, b) ∧
                  Refused key s.conn r.1.conn.wire
                    [s.conn.helloVersion,
                      methodNoAcceptableMethods] t b u) := by
  constructor
  · intro version method limit buffers fed
    have hFed := Buffer.feedBuffers_eq
      (R := HelloParser.reader)
      (p := helloStart version method) rfl buffers
    have hAll := hello_negotiated version method
      (Buffer.pendingAll buffers)
    dsimp only at hAll
    rw [← hFed.1, ← hFed.2] at hAll
    exact hAll
  · intro key a s calls r hAlloc hRead hWrite hKey hRun hSome
      state
    rcases helloReadInit_ready key hAlloc hWrite
      with ⟨hReady, hParser, hBuffer, hClient⟩
    rw [← hBuffer] at hRead
    have hFed := hRun.fed (helloRead_feeds _) hReady hRead
      hSome
    rw [hParser] at hFed
    rcases hFed with ⟨hAfter, hLeft, hStays⟩
    have hAll := hello_negotiated s.conn.helloVersion
      s.helloMethod (received calls)
    dsimp only at hAll hAfter hLeft
    rw [← hAfter, ← hLeft] at hAll
    have hLast := hRun.last_call (P := HelloOf s)
      ⟨hReady, hClient⟩ (by
        intro t b hSlot hOf hMem hStay
        have hBytes := hSome _ hMem
        have hKept := hOf.last (a := b) hSlot hBytes
        exact ⟨(helloRead_feeds _).ready key b t hSlot
          hOf.ready hBytes hStay, hKept.2.1⟩)
    rcases hLast with ⟨t, b, hEnd, hSlot, hOf, hResult⟩
    have hBytes := hSome _ (mem_of_last hEnd)
    have hKept := hOf.last (a := b) hSlot hBytes
    rw [← hResult] at hKept
    rcases hKept with ⟨hService, hSame, hError, hDone⟩
    refine ⟨hAll, ?_, hError, ?_⟩
    · rw [hStays]
      show helloIsDone state = false ↔ _
      cases state with
      | version => exact ⟨fun _ => ⟨nofun, nofun⟩,
          fun _ => rfl⟩
      | nmethods => exact ⟨fun _ => ⟨nofun, nofun⟩,
          fun _ => rfl⟩
      | methods => exact ⟨fun _ => ⟨nofun, nofun⟩,
          fun _ => rfl⟩
      | done => exact ⟨nofun, fun hBad => absurd rfl hBad.1⟩
      | errorUnsupportedVersion =>
          exact ⟨nofun, fun hBad => absurd rfl hBad.2⟩
    · intro methods trailing hLength hStream reply
      have hWhole := hAll.done.2
        ⟨methods, trailing, hLength, hStream⟩
      have hMethod : r.1.conn.hello.method =
          answered s.helloMethod methods :=
        (hAll.taken methods trailing hLength hStream).2
      rcases hDone hWhole with ⟨hNext, hReply⟩
      rw [hMethod] at hReply
      refine ⟨hNext, hReply, ?_⟩
      intro hNone writes u hWrites
      have hRefuse : answered s.helloMethod methods =
          methodNoAcceptableMethods := if_neg hNone
      rw [hRefuse] at hReply hMethod
      have hWire : (entered HELLO_WRITE r.1).conn.wire =
          r.1.conn.wire := St.note_wire _ rfl
      have hStart : Refusing s.conn (r.1.conn.wire ++
          [s.conn.helloVersion, methodNoAcceptableMethods])
          (entered HELLO_WRITE r.1).conn := by
        refine ⟨rfl, hSame, hService, hMethod, ?_⟩
        unfold Conn.replied
        rw [hWire]
        exact congrArg _ hReply
      rcases hWrites.last_call hStart
          (fun t b _ hRefusing _ hStay =>
            hRefusing.stays hStay) with
        ⟨t, b, hEnd, hSlot, hRefusing, hU⟩
      refine ⟨t, b, hEnd, ?_⟩
      rw [hU]
      exact hRefusing.last hKey hSlot

end Negotiating

end Socks5d

------------------------------------------------------------
-- A Refusal
------------------------------------------------------------

namespace Socks5d

/- A client of a server that asks for a password. -/
def helloClient : St where
  srv := authServer
  conn := { isSocks := true, clientFd := 5 }

def helloFresh : St :=
  helloReadInit ⟨5, 0⟩ {} helloClient

/- It has sent the version and the number of methods. -/
def helloHalf : St :=
  (helloRead ⟨5, 0⟩ { recv := some [5, 1] } helloFresh).1

/- Offered only the method 0x00, the server refuses. -/
theorem hello_exact_refused :
    (helloRead ⟨5, 0⟩ { recv := some [0, 9] }
      helloHalf).1.conn.writeBuffer.pending = [5, 0xFF] :=
  have hRun : Calls helloRead HELLO_READ ⟨5, 0⟩ helloFresh
      [(helloFresh, { recv := some [5, 1] }),
        (helloHalf, { recv := some [0, 9] })]
      (helloRead ⟨5, 0⟩ { recv := some [0, 9] }
        helloHalf) :=
    .again _ _ _ rfl ⟨opRead, .socks 0, rfl, rfl⟩
      (by decide +kernel) _ _
      (.last _ _ _ rfl ⟨opRead, .socks 0, rfl, rfl⟩)
  have hAll := hello_exact.2 ⟨5, 0⟩ {} helloClient _ _ rfl
    rfl rfl rfl hRun (by
      intro call hMem
      rcases List.mem_cons.1 hMem with rfl | hMore
      · decide +kernel
      · rw [List.mem_singleton.1 hMore]
        decide +kernel)
  (hAll.2.2.2 [0] [9] (by decide) (by decide +kernel)).2.1

end Socks5d
