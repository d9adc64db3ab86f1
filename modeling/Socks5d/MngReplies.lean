import Socks5d.Adjustments
import Socks5d.Replies

/-
  What is said on a management connection: which calls say
  nothing, and the status that a request is answered with.

  Main declarations:
    * `Silent`, `MngJump.silent`
    * `Policy.status`, `StatusSaid`
    * `processMngParamsRequest_replied`
    * `mngRequestWrite_said`
-/

------------------------------------------------------------
-- What Is Said
------------------------------------------------------------

namespace Socks5d

/- Nothing is sent, and nothing is stored to be sent. -/
structure Silent (c d : Conn) : Prop where
  sent : d.wire = c.wire
  buffer : d.writeBuffer = c.writeBuffer

section Saying

variable {key : Key}
variable {a : Answers}
variable {s t u : St}
variable {c d e : Conn}
variable {next : Nat}

theorem Silent.trans
    (h : Silent c d)
    (h' : Silent d e) : Silent c e :=
  ⟨h'.sent.trans h.sent, h'.buffer.trans h.buffer⟩

/- One event that sends nothing. -/
theorem Silent.single
    {event : Ev}
    (hLog : d.log = c.log ++ [event])
    (hQuiet : event.sent = [])
    (hBuffer : d.writeBuffer = c.writeBuffer) :
    Silent c d := by
  refine ⟨?_, hBuffer⟩
  unfold Conn.wire
  rw [hLog, List.flatMap_append, List.flatMap_singleton,
    hQuiet, List.append_nil]

theorem Silent.replied
    (h : Silent c d) : d.replied = c.replied := by
  unfold Conn.replied
  rw [h.sent, h.buffer]

/- Bytes that are stored for the client. -/
theorem said_stored
    {part : List UInt8}
    (hLog : d.log = c.log)
    (hBuffer : d.writeBuffer.pending =
      c.writeBuffer.pending ++ part) :
    d.replied = c.replied ++ part := by
  unfold Conn.replied Conn.wire
  rw [hLog, hBuffer, List.append_assoc]

/- The start of an answer is stored, or nothing. -/
theorem marshal_replied
    (s : St)
    (need : Nat)
    (bytes : List UInt8) :
    ∃ part, part <+: bytes ∧
      (marshal s need bytes).conn.replied =
        s.conn.replied ++ part := by
  unfold marshal
  split
  · exact ⟨[], List.nil_prefix, (List.append_nil _).symm⟩
  · exact ⟨_, List.take_prefix _ _, said_stored rfl rfl⟩

theorem processMngIndex_replied
    (s : St)
    (index : MngIndex) :
    ∃ part, (processMngIndex s index).1.conn.replied =
      s.conn.replied ++ part := by
  have hMarshal : ∀ need bytes, ∃ part,
      (marshal s need bytes).conn.replied =
        s.conn.replied ++ part := by
    intro need bytes
    rcases marshal_replied s need bytes with ⟨part, _, hSaid⟩
    exact ⟨part, hSaid⟩
  have hNone : ∃ part,
      s.conn.replied = s.conn.replied ++ part :=
    ⟨[], (List.append_nil _).symm⟩
  have hList : ∃ part,
      (listUsersMngRequestMarshall s).conn.replied =
        s.conn.replied ++ part := by
    unfold listUsersMngRequestMarshall
    dsimp only
    split
    · split
      · exact hNone
      · exact hMarshal _ _
    · exact hNone
  unfold processMngIndex
  dsimp only
  split
  · exact hMarshal _ _
  · exact hList
  all_goals first
    | exact hMarshal _ _
    | exact hNone

/- A refusal says its status, or nothing. -/
theorem mngRefuse_replied
    (key : Key)
    (status : MngReplyStatus)
    (s : St) :
    ∃ part, part <+: [status.code] ∧
      (mngRefuse key status s).1.conn.replied =
        s.conn.replied ++ part :=
  marshal_replied _ _ _

theorem wire_replied
    (c : Conn) : c.wire <+: c.replied :=
  List.prefix_append _ _

theorem Silent.only
    (h : Silent c d) : d.wire <+: c.replied := by
  rw [h.sent]
  exact wire_replied c

/- Only what was said before has been sent. -/
theorem sendPending_sent
    (key : Key)
    (n : Nat)
    (s : St) :
    (sendPending key n s).conn.wire <+:
      s.conn.replied := by
  rw [← sendPending_replied key n s]
  exact wire_replied _

theorem entered_silent
    (state : Nat)
    (s : St) : Silent s.conn (entered state s).conn :=
  .single rfl rfl rfl

theorem eof_silent
    (s : St)
    (side : Side)
    (unsent : List UInt8) :
    Silent s.conn (s.note (.eof side unsent)).conn :=
  .single rfl rfl rfl

theorem sendError_silent
    (s : St)
    (side : Side) :
    Silent s.conn (s.note (.sendError side)).conn :=
  .single rfl rfl rfl

theorem mngParserInit_silent
    (a : Answers)
    (site : AllocSite)
    (blocks : List Block)
    (s : St) :
    Silent s.conn (mngParserInit a site blocks s).conn := by
  unfold mngParserInit
  split
  · exact ⟨rfl, rfl⟩
  · exact .single rfl rfl rfl

/- No jump says anything. -/
theorem MngJump.silent
    (h : MngJump key a s next u) :
    Silent s.conn u.conn := by
  cases h with
  | stay => exact ⟨rfl, rfl⟩
  | plain => exact entered_silent _ _
  | userpassRead =>
      apply (entered_silent USERPASS_READ s).trans
      unfold authReadInit
      split
      · exact ⟨rfl, rfl⟩
      · exact .single rfl rfl rfl
  | request _ _ _ _ _ _ hInit =>
      apply (entered_silent next s).trans
      cases hInit with
      | index => exact mngParserInit_silent _ _ _ _
      | params =>
          unfold mngRequestInit
          split
          all_goals first
            | exact mngParserInit_silent _ _ _ _
            | exact ⟨rfl, rfl⟩

end Saying

end Socks5d

------------------------------------------------------------
-- The Answer To A Request
------------------------------------------------------------

namespace Socks5d

/-
  The status that a request is answered with, if the process
  does not end before.
-/
def Policy.status
    (p : Policy) : Adjustment → Option MngReplyStatus
| .addUser _ _ =>
    if p.users.length = maxUsers then some .maxUsersReached
    else some .succeeded
| .deleteUser username =>
    if freesOwn p.users username then some .succeeded
    else none
| _ => some .succeeded

/- The answer to a request: its status. -/
def Policy.answer
    (p : Policy)
    (r : Adjustment) : List UInt8 :=
  match p.status r with
  | none => []
  | some status => [status.code]

theorem Policy.answer_eq
    {p : Policy}
    {r : Adjustment}
    {status : MngReplyStatus}
    (h : p.status r = some status) :
    p.answer r = [status.code] := by
  unfold Policy.answer
  rw [h]

/- The request is done, and its status is all that is said. -/
structure StatusSaid
    (p : Policy)
    (r : Adjustment)
    (c d : Conn) : Prop where
  reading : c.current = some MNG_REQUEST_READ
  answering : d.current = some MNG_REQUEST_WRITE
  said : ∃ part, part <+: p.answer r ∧
    d.replied = c.replied ++ part

section Answering

variable {key : Key}
variable {a : Answers}
variable {s : St}
variable {r : Adjustment}

theorem processMngParamsRequest_replied
    (hIndex : s.conn.mngRequest.index = r.index)
    {error : UInt8}
    (hParser : s.conn.mngRequest.parser =
      parserAt r.fields [] 0 [] .doneRead error) :
    ∃ part, part <+: s.srv.policy.answer r ∧
      (processMngParamsRequest s).conn.replied =
        s.conn.replied ++ part := by
  have hMarshal : ∀ (t : St) (status : MngReplyStatus),
      t.conn = s.conn → ∃ part, part <+: [status.code] ∧
        (statusMngMarshal t status).conn.replied =
          s.conn.replied ++ part := by
    intro t status hSame
    rw [← hSame]
    exact marshal_replied t 1 [status.code]
  cases r with
  | addUser username password =>
      unfold processMngParamsRequest
      rw [hIndex, hParser]
      have hLength : s.srv.policy.users.length =
          s.srv.users.count := s.srv.users.length_list
      by_cases hFull : s.srv.users.count = maxUsers
      · have hStatus : s.srv.policy.status
            (.addUser username password) =
              some .maxUsersReached :=
          if_pos (hLength.trans hFull)
        rw [Policy.answer_eq hStatus]
        show ∃ part, _ ∧ (if s.srv.users.count = maxUsers then
          statusMngMarshal s .maxUsersReached
            else _).conn.replied = _
        rw [if_pos hFull]
        exact hMarshal _ _ rfl
      · have hStatus : s.srv.policy.status
            (.addUser username password) =
              some .succeeded :=
          if_neg fun hBad => hFull (hLength.symm.trans hBad)
        rw [Policy.answer_eq hStatus]
        show ∃ part, _ ∧ (if s.srv.users.count = maxUsers then
          statusMngMarshal s .maxUsersReached
            else statusMngMarshal _ _).conn.replied = _
        rw [if_neg hFull]
        exact hMarshal _ _ rfl
  | deleteUser username =>
      have hFirst : ((parserAt
          (Adjustment.deleteUser username).fields [] 0
            [] .doneRead error).resultAt 1) =
              some (username ++ [0]) := rfl
      have hSame := freesOwn_terminated s.srv.users.list username
      rw [← hParser] at hFirst
      cases hDeleted : deleteUser s.srv.users
          (username ++ [0]) with
      | none =>
          rw [processMngParamsRequest_given hIndex hFirst
            hDeleted]
          exact ⟨[], List.nil_prefix, by simp [St.crash]⟩
      | some users =>
          rw [processMngParamsRequest_deleted hIndex hFirst
            hDeleted]
          have hOwn := deleteUser_isSome s.srv.users
            (username ++ [0])
          rw [hDeleted, hSame] at hOwn
          have hStatus : s.srv.policy.status
              (.deleteUser username) = some .succeeded :=
            if_pos hOwn.symm
          rw [Policy.answer_eq hStatus]
          exact hMarshal _ _ rfl
  | disableAuth option =>
      unfold processMngParamsRequest
      rw [hIndex]
      exact hMarshal _ _ rfl
  | disablePasswordDissectors value =>
      unfold processMngParamsRequest
      rw [hIndex]
      exact hMarshal _ _ rfl

/- What is sent of an answer is some of what was stored. -/
theorem mngRequestWrite_said
    (key : Key)
    (a : Answers)
    (s : St) :
    MNG_REQUEST_WRITE ≤ (mngRequestWrite key a s).2 ∧
      (mngRequestWrite key a s).1.conn.wire <+:
        s.conn.replied ∧
      ((mngRequestWrite key a s).2 = MNG_REQUEST_WRITE →
        (mngRequestWrite key a s).1.conn.replied =
          s.conn.replied) := by
  unfold mngRequestWrite
  split
  · exact ⟨(by decide : MNG_REQUEST_WRITE ≤ MNG_ERROR),
      (sendError_silent s _).only, fun hBad => nomatch hBad⟩
  · rename_i n _
    dsimp only
    split
    · exact ⟨Nat.le_refl _, sendPending_sent key n s,
        fun _ => sendPending_replied key n s⟩
    · exact ⟨(by decide : MNG_REQUEST_WRITE ≤ MNG_DONE),
        sendPending_sent key n s, fun hBad => nomatch hBad⟩

end Answering

end Socks5d
