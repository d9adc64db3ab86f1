import Socks5d.HandlerCalls
import Socks5d.ParserEngine
import Socks5d.Replies
import Socks5d.Streams

/-
  User/password authentication from the first byte of the
  message to the state after the reply.

  Main declarations:
    * `UserTable.MatchesAt`, `UserTable.find?_least`
    * `login_stops`
    * `authRead_turn`, `authRead_feeds`
    * `Decided`, `ReplyLeads`
    * `auth_decides`
-/

------------------------------------------------------------
-- The First Entry That Matches
------------------------------------------------------------

namespace Socks5d

namespace UserTable

/- An entry has the name and the password, as C strings. -/
def MatchesAt
    (t : UserTable)
    (username password : List UInt8)
    (i : Nat) : Prop :=
  ∃ name pass, (t.entry i).name = some name ∧
    (t.entry i).pass = some pass ∧
    cString name = cString username ∧
    cString pass = cString password

section Searching

variable {t : UserTable}
variable {username password : List UInt8}

theorem matchesAt_iff
    (i : Nat) :
    (strcmpEq username (t.entry i).name &&
        strcmpEq password (t.entry i).pass) = true ↔
      t.MatchesAt username password i := by
  unfold MatchesAt
  cases (t.entry i).name with
  | none => simp [strcmpEq]
  | some name =>
      cases (t.entry i).pass with
      | none => simp [strcmpEq]
      | some pass => simp [strcmpEq]

/-
  The loop goes on past entries with the right name and the
  wrong password, to the first with both.
-/
theorem find?_least
    (i : Nat) :
    t.find? username password = some i ↔
      i < t.count ∧ t.MatchesAt username password i ∧
        ∀ j < i, ¬ t.MatchesAt username password j := by
  unfold find?
  rw [List.find?_range_eq_some, List.mem_range,
    matchesAt_iff]
  constructor
  · rintro ⟨hMatch, hLt, hEarlier⟩
    refine ⟨hLt, hMatch, ?_⟩
    intro j hJ hBad
    have hNot := hEarlier j hJ
    rw [(matchesAt_iff j).2 hBad] at hNot
    nomatch hNot
  · rintro ⟨hLt, hMatch, hEarlier⟩
    refine ⟨hMatch, hLt, ?_⟩
    intro j hJ
    rw [Bool.not_eq_true', Bool.eq_false_iff]
    exact fun hBad => hEarlier j hJ ((matchesAt_iff j).1 hBad)

theorem find?_none_iff :
    t.find? username password = none ↔
      ∀ i < t.count, ¬ t.MatchesAt username password i := by
  unfold find?
  rw [List.find?_range_eq_none]
  constructor
  · intro hNone i hLt hBad
    have hNot := hNone i hLt
    rw [(matchesAt_iff i).2 hBad] at hNot
    nomatch hNot
  · intro hNone i hLt
    rw [Bool.not_eq_true', Bool.eq_false_iff]
    exact fun hBad => hNone i hLt ((matchesAt_iff i).1 hBad)

/- The terminators of the two results are no part of them. -/
theorem matchesAt_terminated
    (name pass : List UInt8)
    (i : Nat) :
    t.MatchesAt (name ++ [0]) (pass ++ [0]) i ↔
      t.MatchesAt name pass i := by
  unfold MatchesAt
  rw [cString_append, cString_append]

end Searching

end UserTable

end Socks5d

------------------------------------------------------------
-- A Login Message
------------------------------------------------------------

namespace Socks5d

/- The fields of a login message. -/
def loginFields (name pass : List UInt8) :
    List (Block × List UInt8) :=
  [(.fixed 1 (some checkVersion), [0x01]), (.counted, name),
    (.counted, pass)]

section Login

variable {name pass : List UInt8}

theorem login_complete
    (hName : name.length ≤ 255)
    (hPass : pass.length ≤ 255) :
    Complete authBlocks (loginFields name pass) := by
  refine ⟨rfl, ?_⟩
  intro entry hMem
  rcases List.mem_cons.1 hMem with rfl | hMore
  · refine ⟨rfl, ?_⟩
    intro c hC
    rw [← Option.some.inj hC]
    exact (checkVersion_iff 0x01).2 rfl
  · rcases List.mem_cons.1 hMore with rfl | hLast
    · exact Nat.lt_succ_of_le hName
    · rw [List.mem_singleton.1 hLast]
      exact Nat.lt_succ_of_le hPass

/- The parser stops at the end of a login message. -/
theorem login_stops
    (hName : name.length ≤ 255)
    (hPass : pass.length ≤ 255) :
    Parser.reader.Stops authParser (loginMessage name pass) ∧
      let after := Parser.reader.feedAll authParser
        (loginMessage name pass)
      after.current = .doneRead ∧
        after.resultAt 2 = some (name ++ [0]) ∧
        after.resultAt 4 = some (pass ++ [0]) := by
  rcases message_stops authBlocks_wellFormed
      (List.cons_ne_nil _ _) (login_complete hName hPass)
    with ⟨hStops, error, hFed⟩
  have hBytes : encodeAll (loginFields name pass) =
      loginMessage name pass := by
    simp [encodeAll, loginFields, loginMessage, Block.encode]
  rw [hBytes] at hStops hFed
  refine ⟨hStops, ?_⟩
  have hAfter : Parser.reader.feedAll authParser
      (loginMessage name pass) = _ := hFed
  rw [hAfter]
  exact ⟨rfl, rfl, rfl⟩

/-
  A part of a stream that starts with a login message: the
  whole of it, or a part of the message.
-/
theorem login_cases
    {stream later trailing : List UInt8}
    (hName : name.length ≤ 255)
    (hPass : pass.length ≤ 255)
    (hStream : stream ++ later =
      loginMessage name pass ++ trailing) :
    ((loginMessage name pass).length ≤ stream.length ∧
        ∃ rest, stream = loginMessage name pass ++ rest ∧
          Parser.reader.consume authParser stream =
            (Parser.reader.feedAll authParser
              (loginMessage name pass), rest)) ∨
      (stream.length < (loginMessage name pass).length ∧
        isDone (Parser.reader.consume authParser
          stream).1.current = false) := by
  have hStops := (login_stops hName hPass).1
  rcases List.append_eq_append_iff.1 hStream with
    ⟨more, hMessage, _⟩ | ⟨rest, hWhole, _⟩
  · by_cases hMore : more = []
    · left
      rw [hMore, List.append_nil] at hMessage
      refine ⟨Nat.le_of_eq (congrArg _ hMessage), [], ?_, ?_⟩
      · rw [List.append_nil]
        exact hMessage.symm
      · have hConsume := Parser.reader.consume_of_stops
          hStops []
        rw [List.append_nil] at hConsume
        rw [← hMessage]
        exact hConsume
    · right
      have hPos := List.length_pos_iff.2 hMore
      have hLength := congrArg List.length hMessage
      rw [List.length_append] at hLength
      rw [hMessage] at hStops
      have hLive := hStops.live_of_append _ hMore
      refine ⟨by omega, ?_⟩
      rw [Parser.reader.consume_of_live hLive]
      by_cases hNil : stream = []
      · rw [hNil]
        rfl
      · exact hLive.going_feedAll _ hNil
  · left
    refine ⟨?_, rest, hWhole, ?_⟩
    · rw [hWhole, List.length_append]
      exact Nat.le_add_right _ _
    · rw [hWhole]
      exact Parser.reader.consume_of_stops hStops rest

end Login

end Socks5d

------------------------------------------------------------
-- The State That Reads The Message
------------------------------------------------------------

namespace Socks5d

/- What `auth_read` finds while it reads one message. -/
structure AuthReady
    (c d : Conn) : Prop where
  fine : d.userpass.failed = false
  service : d.isSocks = c.isSocks
  written : d.writeBuffer = c.writeBuffer
  wire : d.wire = c.wire

section Reading

variable {key : Key}
variable {a : Answers}
variable {s t : St}
variable {c : Conn}

theorem authFed_consumed
    (key : Key)
    (a : Answers)
    (t : St) :
    let after := Parser.reader.consume t.conn.userpass.parser
      (t.conn.readBuffer.pending ++ t.recvBytes a)
    (authFed key (t.recvBytes a) t).1.conn.userpass.parser =
        after.1 ∧
      (authFed key (t.recvBytes a)
        t).1.conn.readBuffer.pending = after.2 := by
  have hFeed := (t.conn.readBuffer.writeAdv
    (t.recvBytes a)).feed_eq Parser.reader
      t.conn.userpass.parser
  rw [Buffer.writeAdv_pending, St.take_recvBytes rfl] at hFeed
  exact hFeed

theorem AuthReady.fed
    (h : AuthReady c t.conn)
    (key : Key)
    (bytes : List UInt8) :
    AuthReady c (authFed key bytes t).1.conn where
  fine := h.fine
  service := h.service
  written := h.written
  wire := (St.note_wire _ rfl).trans h.wire

/- A call that gets bytes waits for more, or it compares. -/
theorem authRead_turn
    (hReady : AuthReady c t.conn)
    (hSlot : t.Slotted key)
    (hSome : t.recvBytes a ≠ []) :
    let fed := (authFed key (t.recvBytes a) t).1
    let state := fed.conn.userpass.parser.current
    (isDone state = false ∧
        authRead key a t = (fed, USERPASS_READ)) ∨
      (isDone state = true ∧
        ∃ attached,
          let processed := authProcess
            (fed.arm key.fd opWrite attached)
          authRead key a t = (processed.1,
            if state = .errorRead then t.conn.errorState
            else processed.2)) := by
  intro fed state
  rcases hSlot with ⟨interest, attached, hHas⟩
  have hFed : fed.srv.sel.Has key.fd interest attached :=
    hHas
  have hState := authFed_state (s := t) key rfl hSome
  have hRead : authRead key a t =
      if isDone state then
        let processed := authProcess
          (fed.arm key.fd opWrite attached)
        if state = .errorRead then
          (processed.1, t.conn.errorState)
        else processed
      else (fed, USERPASS_READ) := by
    unfold authRead
    rw [hReady.fine]
    simp only [Bool.false_eq_true, if_false, hSome]
    rw [hState]
    have hSet : (authFed key (t.recvBytes a)
        t).1.setInterest key.fd opWrite =
          (fed.arm key.fd opWrite attached, true) :=
      St.setInterest_of_has hFed opWrite
    simp only [hSet, decide_eq_true_eq, if_true]
    rfl
  cases hDone : isDone state with
  | false =>
      rw [hDone] at hRead
      exact Or.inl ⟨rfl, hRead⟩
  | true =>
      rw [hDone] at hRead
      refine Or.inr ⟨rfl, attached, ?_⟩
      rw [hRead]
      by_cases hError : state = .errorRead
      · simp only [if_true, hError]
      · simp only [if_true, if_neg hError]

/- The comparison leaves the parser and the buffers alone. -/
theorem AuthProcess.kept
    {r : St × Nat}
    (h : AuthProcess s r) :
    r.1.conn.userpass = s.conn.userpass ∧
      r.1.conn.readBuffer = s.conn.readBuffer ∧
      r.1.conn.writeBuffer = s.conn.writeBuffer ∧
      r.1.conn.isSocks = s.conn.isSocks ∧
      r.1.conn.wire = s.conn.wire ∧
      r.2 = USERPASS_WRITE := by
  cases h with
  | accepted =>
      exact ⟨rfl, rfl, rfl, rfl, St.note_wire _ rfl, rfl⟩
  | denied =>
      exact ⟨rfl, rfl, rfl, rfl, St.note_wire _ rfl, rfl⟩
  | noEntries => exact ⟨rfl, rfl, rfl, rfl, rfl, rfl⟩
  | crashed => exact ⟨rfl, rfl, rfl, rfl, rfl, rfl⟩

theorem authRead_feeds
    (c : Conn) :
    Feeds Parser.reader (fun d : Conn => d.userpass.parser)
      (AuthReady c) authRead USERPASS_READ where
  fed := by
    intro key a t hSlot hReady hSome
    rcases authRead_turn hReady hSlot hSome with
      ⟨_, hRead⟩ | ⟨_, attached, hRead⟩
    · rw [hRead]
      exact authFed_consumed key a t
    · have hKept := (authProcess_outcome
        ((authFed key (t.recvBytes a) t).1.arm key.fd opWrite
          attached)).kept
      rw [hRead]
      dsimp only
      rw [hKept.1, hKept.2.1]
      exact authFed_consumed key a t
  stays := by
    intro key a t hSlot hReady hSome
    have hLeaves := t.conn.leaves_ne
      (by decide : USERPASS_READ < MNG_DONE)
      (by decide : USERPASS_WRITE ≠ USERPASS_READ)
    rcases authRead_turn hReady hSlot hSome with
      ⟨hGoing, hRead⟩ | ⟨hDone, attached, hRead⟩
    · rw [hRead]
      exact ⟨fun _ => hGoing, fun _ => rfl⟩
    · have hKept := (authProcess_outcome
        ((authFed key (t.recvBytes a) t).1.arm key.fd opWrite
          attached)).kept
      rw [hRead]
      dsimp only
      rw [hKept.1, hKept.2.2.2.2.2]
      constructor
      · intro hStays
        exact absurd hStays (hLeaves _)
      · intro hGoing
        nomatch hDone.symm.trans hGoing
  ready := by
    intro key a t hSlot hReady hSome hStays
    have hLeaves := t.conn.leaves_ne
      (by decide : USERPASS_READ < MNG_DONE)
      (by decide : USERPASS_WRITE ≠ USERPASS_READ)
    rcases authRead_turn hReady hSlot hSome with
      ⟨_, hRead⟩ | ⟨_, attached, hRead⟩
    · rw [hRead]
      exact hReady.fed key _
    · have hKept := (authProcess_outcome
        ((authFed key (t.recvBytes a) t).1.arm key.fd opWrite
          attached)).kept
      rw [hRead] at hStays
      dsimp only at hStays
      rw [hKept.2.2.2.2.2] at hStays
      exact absurd hStays (hLeaves _)

end Reading

end Socks5d

------------------------------------------------------------
-- The Decision
------------------------------------------------------------

namespace Socks5d

/-
  The stored result of the comparison with a table: 0x00 for
  credentials that some entry has, and for a SOCKS client the
  index of the first such entry.
-/
structure Decided
    (table : UserTable)
    (name pass : List UInt8)
    (c : Conn) : Prop where
  verdict : c.authentication = 0x00 ↔
    ∃ i < table.count, table.MatchesAt name pass i
  least : c.isSocks = true → c.authentication = 0x00 →
    c.userIndex < table.count ∧
      table.MatchesAt name pass c.userIndex ∧
      ∀ j < c.userIndex, ¬ table.MatchesAt name pass j

section Deciding

variable {s : St}
variable {name pass : List UInt8}

theorem authProcess_decided
    (hName : s.conn.userpass.parser.resultAt 2 =
      some (name ++ [0]))
    (hPass : s.conn.userpass.parser.resultAt 4 =
      some (pass ++ [0])) :
    Decided (credentialTable s) name pass
      (authProcess s).1.conn := by
  unfold authProcess
  simp only [hName, hPass]
  cases hFound : (credentialTable s).find? (name ++ [0])
      (pass ++ [0]) with
  | none =>
      have hNone := UserTable.find?_none_iff.1 hFound
      constructor
      · constructor
        · intro hBad
          nomatch hBad
        · rintro ⟨i, hLt, hMatch⟩
          exact absurd
            ((UserTable.matchesAt_terminated name pass i).2
              hMatch) (hNone i hLt)
      · intro _ hBad
        nomatch hBad
  | some i =>
      rcases (UserTable.find?_least i).1 hFound with
        ⟨hLt, hMatch, hEarlier⟩
      rw [UserTable.matchesAt_terminated] at hMatch
      constructor
      · exact ⟨fun _ => ⟨i, hLt, hMatch⟩, fun _ => rfl⟩
      · intro hSocks _
        have hService : s.conn.isSocks = true := hSocks
        have hIndex : (if s.conn.isSocks then i
            else s.conn.userIndex) = i := if_pos hService
        show (if s.conn.isSocks then i
            else s.conn.userIndex) < _ ∧
          (credentialTable s).MatchesAt name pass
            (if s.conn.isSocks then i
              else s.conn.userIndex) ∧
          ∀ j < (if s.conn.isSocks then i
            else s.conn.userIndex), _
        rw [hIndex]
        refine ⟨hLt, hMatch, ?_⟩
        intro j hJ hBad
        exact hEarlier j hJ
          ((UserTable.matchesAt_terminated name pass j).2 hBad)

end Deciding

/-
  What a call of `auth_write` leads to: it stays only when
  `send` takes fewer bytes than are pending, and once the
  reply is sent only the result 0x00 leads on to the request.
-/
inductive ReplyLeads
    (c : Conn)
    (verdict : UInt8)
    (t : St)
    (a : Answers)
    (u : St × Nat) : Prop where
  | sending
      (n : Nat)
      (pending : List UInt8)
      (hSend : a.send = some n)
      (hState : u.2 = USERPASS_WRITE)
      (hShort : ShortSend t.conn.wire pending n u.1.conn)
      (hReply : c.writeBuffer.pending = [] →
        ∃ more, t.conn.wire ++ pending = c.wire ++
          [userpassMethodVersion, verdict] ++ more)
  | failed
      (hSend : a.send = none)
      (hState : u.2 = c.errorState)
  | refused
      (n : Nat)
      (hSend : a.send = some n)
      (hVerdict : verdict ≠ 0x00)
      (hState : u.2 = c.doneState)
      (hSent : u.1.conn.writeBuffer.pending = [])
      (hWire : c.writeBuffer.pending = [] →
        ∃ more, u.1.conn.wire = c.wire ++
          [userpassMethodVersion, verdict] ++ more)
  | admitted
      (n : Nat)
      (hSend : a.send = some n)
      (hVerdict : verdict = 0x00)
      (hState : u.2 = REQUEST_READ)
      (hSent : u.1.conn.writeBuffer.pending = [])
      (hWire : c.writeBuffer.pending = [] →
        ∃ more, u.1.conn.wire = c.wire ++
          [userpassMethodVersion, verdict] ++ more)

/- The reply is not yet begun, or some of it is on its way. -/
structure AuthReplying
    (c : Conn)
    (verdict : UInt8)
    (d : Conn) : Prop where
  service : d.isSocks = c.isSocks
  stored : d.authentication = verdict
  replied : c.writeBuffer.pending = [] →
    (d.writeBuffer.pending = [] ∧ d.wire = c.wire) ∨
      ∃ more, d.replied = c.wire ++
        [userpassMethodVersion, verdict] ++ more

section Answers

variable {key : Key}
variable {a : Answers}
variable {t : St}
variable {c : Conn}
variable {verdict : UInt8}

/- Every call has the reply in what it sends. -/
theorem AuthReplying.begun
    (h : AuthReplying c verdict t.conn)
    (hFresh : c.writeBuffer.pending = []) :
    ∃ more, (authReply t).conn.replied = c.wire ++
      [userpassMethodVersion, verdict] ++ more := by
  rcases h.replied hFresh with ⟨hEmpty, hWire⟩ | ⟨more, hMore⟩
  · have hRoom : 2 ≤ t.conn.writeBuffer.room := by
      rw [Buffer.room_of_pending_nil hEmpty]
      decide
    refine ⟨[], ?_⟩
    unfold Conn.replied
    rw [(authReply_wire t).1, authReply_pending hRoom, hEmpty,
      hWire, h.stored, List.nil_append, List.append_nil]
  · rcases authReply_replied t with ⟨again, hAgain⟩
    refine ⟨more ++ again, ?_⟩
    rw [hAgain, hMore, List.append_assoc]

theorem authReply_service
    (t : St) :
    (authReply t).conn.isSocks = t.conn.isSocks := by
  rcases authReply_eq t with ⟨wb, hReply⟩
  rw [hReply]

theorem AuthReplying.stays
    (h : AuthReplying c verdict t.conn)
    (hSlot : t.Slotted key)
    (hStays : (authWrite key a t).2 = USERPASS_WRITE) :
    AuthReplying c verdict
      (authWrite key a t).1.conn := by
  have hOver := (authReply t).conn.over_ne USERPASS_WRITE
    (by decide)
  rcases hSlot with ⟨interest, attached, hHas⟩
  have hWrite := authWrite_outcome hHas a
  generalize authWrite key a t = r at hWrite hStays ⊢
  cases hWrite with
  | failed => exact absurd hStays hOver.1
  | refused => exact absurd hStays hOver.2
  | passed => nomatch hStays
  | more n hSend hLeft =>
      have hVerdict := (sendPending_wire key n
        (authReply t)).2.2.1.trans (authReply_wire t).2
      refine ⟨(authReply_service t).trans h.service,
        hVerdict.trans h.stored, fun hFresh => Or.inr ?_⟩
      rw [sendPending_replied]
      exact h.begun hFresh

/- What the last call of `auth_write` leads to. -/
theorem AuthReplying.last
    (h : AuthReplying c verdict t.conn)
    (hSlot : t.Slotted key) :
    ReplyLeads c verdict t a (authWrite key a t) := by
  have hSame := authReply_service t
  rcases Conn.ends_of_service (hSame.trans h.service) with
    ⟨hError, hDone⟩
  have hWire : ∀ n,
      (sendPending key n
        (authReply t)).conn.writeBuffer.pending = [] →
      c.writeBuffer.pending = [] →
      ∃ more, (sendPending key n (authReply t)).conn.wire =
        c.wire ++ [userpassMethodVersion, verdict] ++
          more := by
    intro n hEmpty hFresh
    rcases h.begun hFresh with ⟨more, hMore⟩
    rw [← sendPending_replied key n] at hMore
    unfold Conn.replied at hMore
    rw [hEmpty, List.append_nil] at hMore
    exact ⟨more, hMore⟩
  rcases hSlot with ⟨interest, attached, hHas⟩
  have hWrite := authWrite_outcome hHas a
  generalize authWrite key a t = r at hWrite ⊢
  cases hWrite with
  | failed hSend => exact .failed hSend hError
  | more n hSend hLeft =>
      have hShort := sendPending_short hLeft
      have hBegun := h.begun
      unfold Conn.replied at hBegun
      rw [(authReply_wire t).1] at hShort hBegun
      exact .sending n _ hSend rfl hShort hBegun
  | refused n hSend hEmpty hDenied =>
      exact .refused n hSend (h.stored ▸ hDenied) hDone
        hEmpty (hWire n hEmpty)
  | passed n hSend hEmpty hPassed =>
      exact .admitted n hSend (h.stored.symm.trans hPassed) rfl
        hEmpty (hWire n hEmpty)

end Answers

end Socks5d

------------------------------------------------------------
-- From The First Byte To The Next State
------------------------------------------------------------

namespace Socks5d

section Authenticating

variable {key : Key}
variable {a : Answers}
variable {s : St}

theorem authReadInit_ready
    (key : Key)
    (hAlloc : a.alloc .userpass = true) :
    AuthReady s.conn (authReadInit key a s).conn ∧
      (authReadInit key a s).conn.userpass.parser =
        authParser ∧
      (authReadInit key a s).conn.readBuffer =
        s.conn.readBuffer := by
  unfold authReadInit
  rw [if_pos hAlloc]
  exact ⟨⟨rfl, rfl, rfl, rfl⟩, rfl, rfl⟩

/-
  Authentication decides correctly: the state is left exactly
  when the last byte of the message has come, with the result
  that the table of that moment has for the name and the
  password; and only the result 0x00 leads to the request.
-/
theorem auth_decides
    (hAlloc : a.alloc .userpass = true)
    (hRead : s.conn.readBuffer.pending = [])
    {name pass : List UInt8}
    (hName : name.length ≤ 255)
    (hPass : pass.length ≤ 255)
    {calls : List (St × Answers)}
    {r : St × Nat}
    (hRun : Calls authRead USERPASS_READ key
      (authReadInit key a s) calls r)
    (hSome : ∀ call ∈ calls,
      call.1.recvBytes call.2 ≠ [])
    {later trailing : List UInt8}
    (hStream : received calls ++ later =
      loginMessage name pass ++ trailing) :
    (r.2 ≠ USERPASS_READ ↔
        (loginMessage name pass).length ≤
          (received calls).length) ∧
      (r.2 ≠ USERPASS_READ →
        r.2 = USERPASS_WRITE ∧
          r.1.conn.isSocks = s.conn.isSocks ∧
          loginMessage name pass ++
              r.1.conn.readBuffer.pending =
            received calls ∧
          (∃ t b, calls.getLast? = some (t, b) ∧
            Decided (if s.conn.isSocks then t.srv.users
              else t.srv.admins) name pass r.1.conn) ∧
          ∀ writes u,
            Calls authWrite USERPASS_WRITE key
              (entered USERPASS_WRITE r.1) writes u →
            ∃ t b, writes.getLast? = some (t, b) ∧
              ReplyLeads s.conn r.1.conn.authentication
                t b u) := by
  rcases authReadInit_ready (s := s) key hAlloc with
    ⟨hReady, hParser, hBuffer⟩
  rw [← hBuffer] at hRead
  have hFed := hRun.fed (authRead_feeds s.conn) hReady hRead
    hSome
  rw [hParser] at hFed
  rcases hFed with ⟨hAfter, hLeft, hStays⟩
  rcases hRun.last_call hReady
      (fun t b hSlot hOf hMem hStay =>
        (authRead_feeds s.conn).ready key b t hSlot hOf
          (hSome _ hMem) hStay) with
    ⟨t, b, hEnd, hSlot, hOf, hResult⟩
  have hBytes := hSome _ (mem_of_last hEnd)
  rcases login_cases hName hPass hStream with
    ⟨hWhole, rest, hSplit, hConsume⟩ | ⟨hPart, hGoing⟩
  · rcases (login_stops hName hPass).2 with
      ⟨hDone, hUser, hPassword⟩
    rw [hConsume] at hAfter hLeft
    have hCurrent : r.1.conn.userpass.parser.current =
        .doneRead := by
      rw [hAfter]
      exact hDone
    rcases authRead_turn hOf hSlot hBytes with
      ⟨hStill, hCall⟩ | ⟨_, attached, hCall⟩
    · rw [hResult, hCall] at hCurrent
      dsimp only at hCurrent
      rw [hCurrent] at hStill
      nomatch hStill
    · have hKept := (authProcess_outcome
        ((authFed key (t.recvBytes b) t).1.arm key.fd opWrite
          attached)).kept
      have hFedReady := hOf.fed key (t.recvBytes b)
      rw [← hResult] at hCall
      generalize hEntry : (authFed key (t.recvBytes b)
        t).1.arm key.fd opWrite attached = fed
          at hCall hKept
      have hTable : credentialTable fed =
          if s.conn.isSocks then t.srv.users
          else t.srv.admins := by
        rw [← hEntry, ← hOf.service]
        rfl
      have hOwn : AuthReady s.conn fed.conn := by
        rw [← hEntry]
        exact hFedReady
      have hFirst := congrArg Prod.fst hCall
      dsimp only at hFirst
      rw [← hFirst] at hKept
      have hSame : fed.conn.userpass.parser =
          Parser.reader.feedAll authParser
            (loginMessage name pass) := by
        rw [← hKept.1]
        exact hAfter
      rw [← hSame] at hDone hUser hPassword
      have hDecided := authProcess_decided hUser hPassword
      rw [← hFirst, hTable] at hDecided
      have hNext : r.2 = USERPASS_WRITE := by
        have hFine : ¬ (authFed key (t.recvBytes b)
            t).1.conn.userpass.parser.current =
              .errorRead := by
          have hCurrent' : (authFed key (t.recvBytes b)
              t).1.conn.userpass.parser.current =
                .doneRead := by
            rw [← hDone, ← hEntry]
            rfl
          rw [hCurrent']
          nofun
        have hSecond := congrArg Prod.snd hCall
        dsimp only at hSecond
        rw [if_neg hFine, hKept.2.2.2.2.2] at hSecond
        exact hSecond
      have hService : r.1.conn.isSocks = s.conn.isSocks :=
        hKept.2.2.2.1.trans hOwn.service
      have hLeaves : r.2 ≠ USERPASS_READ := by
        rw [hNext]
        nofun
      refine ⟨⟨fun _ => hWhole, fun _ => hLeaves⟩, fun _ => ?_⟩
      refine ⟨hNext, hService, ?_, ⟨t, b, hEnd, hDecided⟩, ?_⟩
      · rw [hSplit, hLeft]
      · intro writes u hWrites
        have hStart : AuthReplying s.conn
            r.1.conn.authentication
            (entered USERPASS_WRITE r.1).conn := by
          refine ⟨hService, rfl, fun hFresh =>
            Or.inl ⟨?_, ?_⟩⟩
          · show r.1.conn.writeBuffer.pending = []
            rw [hKept.2.2.1, hOwn.written]
            exact hFresh
          · exact (St.note_wire _ rfl).trans
              (hKept.2.2.2.2.1.trans hOwn.wire)
        rcases hWrites.last_call hStart
            (fun t b hSlot hOn _ hStay =>
              hOn.stays hSlot hStay) with
          ⟨t, b, hLast, hSlot, hOn, hU⟩
        refine ⟨t, b, hLast, ?_⟩
        rw [hU]
        exact hOn.last hSlot
  · have hStill : r.2 = USERPASS_READ := by
      apply hStays.2
      rw [hAfter]
      exact hGoing
    refine ⟨⟨fun hBad => absurd hStill hBad, ?_⟩,
      fun hBad => absurd hStill hBad⟩
    intro hBad
    exact absurd hPart (Nat.not_lt.mpr hBad)

end Authenticating

end Socks5d

------------------------------------------------------------
-- Two Entries Of One Name
------------------------------------------------------------

namespace Socks5d

/- The name `a` with the password `x`, then with `b`. -/
def twinUsers : UserTable :=
  addUser (addUser { entry := fun _ => {}, count := 0 }
    [0x61] [0x78]) [0x61] [0x62]

def twinServer : Server :=
  { authServer with users := twinUsers }

def twinFresh : St :=
  authReadInit ⟨5, 0⟩ {}
    { srv := twinServer
      conn := { isSocks := true, clientFd := 5 } }

/- The version and the length of the name have come. -/
def twinHalf : St :=
  (authRead ⟨5, 0⟩ { recv := some [1, 1] } twinFresh).1

/- The second password is looked for behind the first. -/
theorem auth_decides_twin :
    let r := authRead ⟨5, 0⟩
      { recv := some [0x61, 1, 0x62, 5] } twinHalf
    r.2 = USERPASS_WRITE ∧
      Decided twinUsers [0x61] [0x62] r.1.conn := by
  intro r
  have hRun : Calls authRead USERPASS_READ ⟨5, 0⟩ twinFresh
      [(twinFresh, { recv := some [1, 1] }),
        (twinHalf, { recv := some [0x61, 1, 0x62, 5] })]
      r :=
    .again _ _ _ rfl ⟨opRead, .socks 0, rfl, rfl⟩
      (by decide +kernel) _ _
      (.last _ _ _ rfl ⟨opRead, .socks 0, rfl, rfl⟩)
  have hBytes : ∀ call ∈
      [(twinFresh, ({ recv := some [1, 1] } : Answers)),
        (twinHalf, { recv := some [0x61, 1, 0x62, 5] })],
      call.1.recvBytes call.2 ≠ [] := by
    intro call hMem
    rcases List.mem_cons.1 hMem with rfl | hMore
    · decide +kernel
    · rw [List.mem_singleton.1 hMore]
      decide +kernel
  have hStream : received
      [(twinFresh, { recv := some [1, 1] }),
        (twinHalf, { recv := some [0x61, 1, 0x62, 5] })] ++
        [] = loginMessage [0x61] [0x62] ++ [5] := by
    decide +kernel
  have hAll := auth_decides
    (s := { srv := twinServer
            conn := { isSocks := true, clientFd := 5 } })
    rfl rfl (by decide) (by decide) hRun hBytes hStream
  have hLeaves : r.2 ≠ USERPASS_READ := by decide +kernel
  rcases hAll.2 hLeaves with
    ⟨hNext, _, _, ⟨t, b, hLast, hDecided⟩, _⟩
  have hEnd : t = twinHalf :=
    (congrArg Prod.fst (Option.some.inj hLast)).symm
  rw [hEnd] at hDecided
  exact ⟨hNext, hDecided⟩

end Socks5d
