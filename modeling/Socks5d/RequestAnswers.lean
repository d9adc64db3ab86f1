import Socks5d.Dissection

/-
  How many replies a request gets: every place that answers a
  failed attempt stores a reply of its own.

  Main declarations:
    * `Conn.stored`, `Conn.OneReply`
    * `Ev.Refuses`
    * `Due`, `AnswerAccount`
    * `one_reply_iff`
-/

------------------------------------------------------------
-- Replies And Refusals
------------------------------------------------------------

namespace Socks5d

/- The status of a reply that was stored. -/
def Ev.status? : Ev → Option SocksReplyStatus
| .reply status => some status
| _ => none

/- The replies stored so far, in order. -/
def Conn.stored (c : Conn) : List SocksReplyStatus :=
  c.log.filterMap Ev.status?

/-
  What `request_marshall` has appended to the write buffer is
  one reply.
-/
def Conn.OneReply (c : Conn) : Prop :=
  ∃ status, c.stored.flatMap replyBytes = replyBytes status

/-
  An attempt that fails before it is under way: there is no
  socket, it cannot be made nonblocking, `connect` fails at
  once, or the selector does not take the descriptor.
-/
def Ev.Refuses : Ev → Prop
| .socket _ fd => fd = none
| .nonblocking ok => ok = false
| .connect attempt =>
    (∃ errno, attempt.answer = .failed errno) ∨
      attempt.registrable = false
| _ => False

/- No attempt has failed so. -/
def Conn.Unrefused (c : Conn) : Prop :=
  ∀ event ∈ c.log, ¬ event.Refuses

/- Neither a reply, nor a refusal, nor the entry. -/
def Ev.Aside (event : Ev) : Prop :=
  event.status? = none ∧ ¬ event.Refuses ∧
    event ≠ .enter REQUEST_WRITE

section Ledgers

variable {c d : Conn}
variable {s : St}

theorem replyBytes_length
    (status : SocksReplyStatus) :
    (replyBytes status).length = 10 := rfl

/- Replies are counted by their bytes. -/
theorem Conn.oneReply_iff
    (c : Conn) :
    c.OneReply ↔ c.stored.length = 1 := by
  have hBytes : ∀ replies : List SocksReplyStatus,
      (replies.flatMap replyBytes).length =
        10 * replies.length := by
    intro replies
    induction replies with
    | nil => rfl
    | cons status rest ih =>
        rw [List.flatMap_cons, List.length_append, ih,
          replyBytes_length, List.length_cons]
        omega
  constructor
  · rintro ⟨status, hEq⟩
    have hLength := hBytes c.stored
    rw [hEq, replyBytes_length] at hLength
    omega
  · intro hOne
    rcases List.length_eq_one_iff.mp hOne with ⟨status, hEq⟩
    refine ⟨status, ?_⟩
    rw [hEq, List.flatMap_singleton]

/- Other events leave the replies and the refusals. -/
theorem Conn.Grows.aside
    (h : c.Grows Ev.Aside d) :
    d.stored = c.stored ∧ (d.Unrefused ↔ c.Unrefused) ∧
      (.enter REQUEST_WRITE ∈ d.log ↔
        .enter REQUEST_WRITE ∈ c.log) := by
  refine ⟨h.filterMap _ fun event hEvent => hEvent.1, ?_, ?_⟩
  · constructor
    · intro hAll event hEvent
      exact hAll event (h.mem hEvent)
    · intro hAll event hEvent
      rcases h.new hEvent with hOld | hNew
      · exact hAll event hOld
      · exact hNew.2.1
  · constructor
    · intro hIn
      rcases h.new hIn with hOld | hNew
      · exact hOld
      · exact absurd rfl hNew.2.2
    · exact fun hIn => h.mem hIn

/- A reply is stored when there is room for it. -/
theorem replied_stored
    (status : SocksReplyStatus)
    (hRoom : 10 ≤ s.conn.writeBuffer.room) :
    (replied s status).conn.stored =
        s.conn.stored ++ [status] ∧
      s.conn.writeBuffer.room ≤
        (replied s status).conn.writeBuffer.room + 10 := by
  unfold replied
  rcases requestMarshall_cases s status with
    ⟨hFull, _⟩ | ⟨_, hStored⟩
  · omega
  · rw [hStored]
    constructor
    · show (s.conn.log ++ [Ev.reply status]).filterMap
        Ev.status? = _
      rw [List.filterMap_append]
      rfl
    · show s.conn.writeBuffer.room ≤
        (s.conn.writeBuffer.writeAdv
          (replyBytes status)).room + 10
      unfold Buffer.room
      show _ ≤ rawBuffSize - (s.conn.writeBuffer.read +
        (s.conn.writeBuffer.writeAdv
          (replyBytes status)).pending.length) + 10
      rw [Buffer.writeAdv_pending, List.length_append,
        List.length_take, replyBytes_length]
      omega

/- Otherwise nothing changes. -/
theorem replied_full
    (status : SocksReplyStatus)
    (hFull : s.conn.writeBuffer.room < 10) :
    replied s status = s := by
  unfold replied
  rcases requestMarshall_cases s status with
    ⟨_, hSame⟩ | ⟨hRoom, _⟩
  · rw [hSame]
  · omega

/- A reply is no refusal. -/
theorem replied_refusals
    (s : St)
    (status : SocksReplyStatus) :
    ((replied s status).conn.Unrefused ↔ s.conn.Unrefused) ∧
      (.enter REQUEST_WRITE ∈ (replied s status).conn.log ↔
        .enter REQUEST_WRITE ∈ s.conn.log) := by
  rcases replied_eq s status with ⟨wb, log, hEq, hLog⟩
  rw [hEq]
  constructor
  · constructor
    · intro hAll event hEvent
      exact hAll event (List.mem_append_left _ hEvent)
    · intro hAll event hEvent
      rcases List.mem_append.mp hEvent with hOld | hNew
      · exact hAll event hOld
      · rw [hLog event hNew]
        exact id
  · constructor
    · intro hIn
      rcases List.mem_append.mp hIn with hOld | hNew
      · exact hOld
      · nomatch hLog _ hNew
    · exact fun hIn => List.mem_append_left _ hIn

end Ledgers

end Socks5d

------------------------------------------------------------
-- The Account Of A Request
------------------------------------------------------------

namespace Socks5d

/-
  A refusal that is answered: its reply is stored, unless
  there is no room for it.
-/
structure Struck (c d : Conn) : Prop where
  refused : ¬ d.Unrefused
  entered : .enter REQUEST_WRITE ∈ d.log ↔
    .enter REQUEST_WRITE ∈ c.log
  room : 10 ≤ c.writeBuffer.room →
    d.stored.length = c.stored.length + 1 ∧
      c.writeBuffer.room ≤ d.writeBuffer.room + 10
  full : c.writeBuffer.room < 10 →
    d.stored = c.stored ∧ d.writeBuffer = c.writeBuffer

/- Nothing is stored, and nothing was refused. -/
structure Unanswered (c : Conn) : Prop where
  none : c.stored = []
  clean : c.Unrefused
  empty : c.writeBuffer.pending = []

/-
  The replies and the refusals of a connection in each state
  up to `REQUEST_CONNECTING`: there are none, or an attempt
  was refused and has its reply already.
-/
inductive Due (c : Conn) : Nat → Prop where
  | early
      (state : Nat)
      (hState : state < REQUEST_READ)
      (hNone : c.stored = [])
      (hClean : c.Unrefused) :
      Due c state
  | request
      (state : Nat)
      (hState : state = REQUEST_READ ∨ state = REQUEST_RESOLV)
      (hNothing : Unanswered c) :
      Due c state
  | starved
      (hStatus : c.request.status ≠ .succeeded) :
      Due c REQUEST_READ
  | attempt
      (hStatus : c.connStatus = .succeeded)
      (hNothing : Unanswered c) :
      Due c REQUEST_CONNECTING
  | refused
      (hStatus : c.connStatus ≠ .succeeded)
      (hRefused : ¬ c.Unrefused)
      (hSome : 1 ≤ c.stored.length)
      (hRoom : c.stored.length = 1 →
        10 ≤ c.writeBuffer.room) :
      Due c REQUEST_CONNECTING

section Attempts

variable {key : Key}
variable {a : Answers}
variable {s t : St}
variable {c d : Conn}
variable {attached : Attachment}
variable {result : St × SocksReplyStatus}

/- The first refusal. -/
theorem Struck.due
    (h : Struck c d)
    (hStatus : d.connStatus ≠ .succeeded)
    (hNothing : Unanswered c) :
    Due d REQUEST_CONNECTING := by
  have hRoom : c.writeBuffer.room = 2048 :=
    Buffer.room_of_pending_nil hNothing.empty
  rcases h.room (by omega) with ⟨hLength, hLeft⟩
  rw [hNothing.none, List.length_nil] at hLength
  exact .refused hStatus h.refused (by omega)
    (fun _ => by omega)

/- One more refusal. -/
theorem Struck.due_again
    (h : Struck c d)
    (hStatus : d.connStatus ≠ .succeeded)
    (hSome : 1 ≤ c.stored.length)
    (hRoom : c.stored.length = 1 →
      10 ≤ c.writeBuffer.room) :
    Due d REQUEST_CONNECTING := by
  by_cases hFits : 10 ≤ c.writeBuffer.room
  · rcases h.room hFits with ⟨hLength, _⟩
    exact .refused hStatus h.refused (by omega)
      (fun hOne => by omega)
  · rcases h.full (by omega) with ⟨hSame, hBuffer⟩
    rw [← hSame] at hSome hRoom
    rw [← hBuffer] at hRoom
    exact .refused hStatus h.refused hSome hRoom

/- A reply to a refusal that has just been noted. -/
theorem refusedWith_struck
    {event : Ev}
    (hLog : t.conn.log = s.conn.log ++ [event])
    (hBuffer : t.conn.writeBuffer = s.conn.writeBuffer)
    (hEvent : event.Refuses)
    (attached : Attachment)
    (status : SocksReplyStatus) :
    Struck s.conn (refusedWith t attached status).conn := by
  have hPlain : event.status? = none ∧
      event ≠ .enter REQUEST_WRITE := by
    unfold Ev.Refuses at hEvent
    split at hEvent
    · exact ⟨rfl, fun hBad => nomatch hBad⟩
    · exact ⟨rfl, fun hBad => nomatch hBad⟩
    · exact ⟨rfl, fun hBad => nomatch hBad⟩
    · exact hEvent.elim
  let u : St := { t with conn.connStatus := status }
  have hRefusals := replied_refusals u status
  have hStored : u.conn.stored = s.conn.stored := by
    unfold Conn.stored
    show t.conn.log.filterMap Ev.status? = _
    rw [hLog, List.filterMap_append,
      List.filterMap_cons_none hPlain.1]
    exact List.append_nil _
  have hRoom : u.conn.writeBuffer = s.conn.writeBuffer :=
    hBuffer
  rw [refusedWith_conn]
  refine ⟨?_, ?_, ?_, ?_⟩
  · rw [hRefusals.1]
    intro hBad
    refine hBad event ?_ hEvent
    show event ∈ t.conn.log
    rw [hLog]
    exact List.mem_append_right _ (List.mem_singleton.mpr rfl)
  · rw [hRefusals.2]
    show .enter REQUEST_WRITE ∈ t.conn.log ↔ _
    rw [hLog, List.mem_append, List.mem_singleton]
    exact or_iff_left (Ne.symm hPlain.2)
  · intro hFits
    rw [← hRoom] at hFits ⊢
    rcases replied_stored (s := u) status hFits
      with ⟨hMore, hLeft⟩
    refine ⟨?_, hLeft⟩
    rw [hMore, hStored, List.length_append,
      List.length_singleton]
  · intro hFull
    rw [← hRoom] at hFull ⊢
    have hSame := replied_full (s := u) status hFull
    unfold u at hSame hStored hRoom ⊢
    rw [hSame]
    exact ⟨hStored, rfl⟩

/-
  An attempt is noted and nothing else happens, or it is
  refused and answered.
-/
theorem Connection.strikes
    (h : Connection key a s attached result) :
    (result.2 = .succeeded ∧
        (connectAttempt a s).registrable = true ∧
        result.1.conn.connStatus = s.conn.connStatus ∧
        result.1.conn.writeBuffer = s.conn.writeBuffer ∧
        s.conn.Grows Ev.Aside result.1.conn) ∨
      (result.2 ≠ .succeeded ∧
        result.1.conn.connStatus ≠ .succeeded ∧
        Struck s.conn result.1.conn) := by
  have hGeneral : SocksReplyStatus.generalSocksServerFailure ≠
      .succeeded := by decide
  have hFree : (∀ errno, (connectAttempt a s).answer ≠
      .failed errno) →
        (connectAttempt a s).registrable = true →
          Ev.Aside (.connect (connectAttempt a s)) := by
    intro hAnswer hSlot
    refine ⟨rfl, ?_, fun hBad => nomatch hBad⟩
    rintro (⟨errno, hBad⟩ | hBad)
    · exact hAnswer errno hBad
    · nomatch hSlot.symm.trans hBad
  cases h with
  | refused errno hAnswer =>
      right
      refine ⟨errnoToSocks_ne errno, ?_, ?_⟩
      · rw [refusedWith_connStatus]
        exact errnoToSocks_ne errno
      · have hEvent : Ev.Refuses
            (.connect (connectAttempt a s)) :=
          Or.inl ⟨errno, hAnswer⟩
        exact refusedWith_struck (s := s)
          (t := { attempted a s with
            conn.request.status :=
              errnoToSocks (some errno) })
          rfl rfl hEvent _ _
  | underway hAnswer hSlot =>
      left
      refine ⟨rfl, hSlot, rfl, rfl,
        .single rfl (hFree ?_ hSlot)⟩
      intro errno hBad
      nomatch hAnswer.symm.trans hBad
  | blocked hAnswer hTaken =>
      right
      refine ⟨hGeneral, ?_, ?_⟩
      · show (refusedWith _ _ _).conn.connStatus ≠ _
        rw [refusedWith_connStatus]
        exact hGeneral
      · have hEvent : Ev.Refuses
            (.connect (connectAttempt a s)) := Or.inr hTaken
        have hStruck := refusedWith_struck (s := s)
          (t := (attempted a s).arm key.fd opNoop attached)
          rfl rfl hEvent attached .generalSocksServerFailure
        exact ⟨hStruck.refused, hStruck.entered,
          hStruck.room, hStruck.full⟩
  | atOnce hAnswer hSlot =>
      left
      refine ⟨rfl, hSlot, rfl, rfl,
        .single rfl (hFree ?_ hSlot)⟩
      intro errno hBad
      nomatch hAnswer.symm.trans hBad
  | atOnceBlocked hAnswer hTaken =>
      right
      refine ⟨hGeneral, ?_, ?_⟩
      · rw [refusedWith_connStatus]
        exact hGeneral
      · have hEvent : Ev.Refuses
            (.connect (connectAttempt a s)) := Or.inr hTaken
        exact refusedWith_struck (s := s)
          (t := (takeReference key (attempted a s)).arm
            key.fd opRead attached) rfl rfl hEvent _ _

end Attempts

end Socks5d

------------------------------------------------------------
-- Calls
------------------------------------------------------------

namespace Socks5d

/- What a call leaves, before the next state is entered. -/
inductive Owed (c : Conn) : Nat → Prop where
  | kept
      (next : Nat)
      (hState : c.current = some next)
      (hDue : Due c next) :
      Owed c next
  | early
      (next : Nat)
      (hNext : next < REQUEST_READ)
      (hNone : c.stored = [])
      (hClean : c.Unrefused) :
      Owed c next
  | request
      (next : Nat)
      (hNext : next = REQUEST_READ ∨ next = REQUEST_RESOLV ∨
        next = REQUEST_CONNECTING)
      (hOther : c.current ≠ some next)
      (hNothing : Unanswered c) :
      Owed c next
  | answered
      (hIff : c.stored.length = 1 ↔ c.Unrefused) :
      Owed c REQUEST_WRITE
  | late
      (next : Nat)
      (hNext : REQUEST_WRITE < next) :
      Owed c next

section Calls

variable {k : ConnId}
variable {key : Key}
variable {a : Answers}
variable {s t : St}
variable {c d : Conn}
variable {r : St × Nat}
variable {interest : Interest}
variable {attached : Attachment}

theorem Unanswered.grows
    (h : Unanswered c)
    (hGrows : c.Grows Ev.Aside d)
    (hBuffer : d.writeBuffer = c.writeBuffer) :
    Unanswered d where
  none := hGrows.aside.1.trans h.none
  clean := hGrows.aside.2.1.mpr h.clean
  empty := by
    rw [hBuffer]
    exact h.empty

/- The first reply, with no refusal before it. -/
theorem Unanswered.replied
    (h : Unanswered s.conn)
    (status : SocksReplyStatus) :
    Owed (replied s status).conn REQUEST_WRITE := by
  have hRoom : s.conn.writeBuffer.room = 2048 :=
    Buffer.room_of_pending_nil h.empty
  have hStored := (replied_stored (s := s) status
    (by omega)).1
  apply Owed.answered
  rw [hStored, h.none]
  exact ⟨fun _ => (replied_refusals s status).1.mpr h.clean,
    fun _ => rfl⟩

/- The last reply, after a refusal that has its own. -/
theorem replied_refused
    (hRefused : ¬ s.conn.Unrefused)
    (hSome : 1 ≤ s.conn.stored.length)
    (hRoom : s.conn.stored.length = 1 →
      10 ≤ s.conn.writeBuffer.room)
    (status : SocksReplyStatus) :
    Owed (replied s status).conn REQUEST_WRITE := by
  have hStill : ¬ (replied s status).conn.Unrefused := by
    rw [(replied_refusals s status).1]
    exact hRefused
  have hMore : (replied s status).conn.stored.length ≠ 1 := by
    by_cases hFits : 10 ≤ s.conn.writeBuffer.room
    · rw [(replied_stored status hFits).1, List.length_append,
        List.length_singleton]
      omega
    · rw [replied_full status (by omega)]
      intro hOne
      exact hFits (hRoom hOne)
  exact .answered ⟨fun hBad => absurd hBad hMore,
    fun hBad => absurd hBad hStill⟩

/- One attempt more, after a refusal or without one. -/
theorem Connection.owed
    {result : St × SocksReplyStatus}
    (h : Connection key a s attached result)
    (hState : s.conn.current = some REQUEST_CONNECTING)
    (hStatus : s.conn.connStatus ≠ .succeeded)
    (hBefore : (Unanswered s.conn ∧
        (connectAttempt a s).registrable = false) ∨
      (¬ s.conn.Unrefused ∧ 1 ≤ s.conn.stored.length ∧
        (s.conn.stored.length = 1 →
          10 ≤ s.conn.writeBuffer.room))) :
    Owed result.1.conn REQUEST_CONNECTING := by
  have hCurrent : result.1.conn.current =
      some REQUEST_CONNECTING :=
    (h.aside (Conn.Aside.refl _)).current.trans hState
  refine .kept _ hCurrent ?_
  rcases h.strikes with ⟨_, hSlot, hSame, hBuffer, hGrows⟩ |
    ⟨_, hFailed, hStruck⟩
  · rcases hBefore with ⟨_, hTaken⟩ | ⟨hRefused, hSome, hRoom⟩
    · nomatch hSlot.symm.trans hTaken
    · rcases hGrows.aside with ⟨hStored, hClean, _⟩
      rw [← hSame] at hStatus
      rw [← hStored] at hSome hRoom
      rw [← hBuffer] at hRoom
      exact .refused hStatus (fun hBad => hRefused
        (hClean.mp hBad)) hSome hRoom
  · rcases hBefore with ⟨hNothing, _⟩ | ⟨_, hSome, hRoom⟩
    · exact hStruck.due hFailed hNothing
    · exact hStruck.due_again hFailed hSome hRoom

theorem Ev.soError_aside
    (result : Option (Option Errno))
    (left : Nat) :
    Ev.Aside (.soError result left) :=
  ⟨rfl, id, fun hBad => nomatch hBad⟩

theorem Ev.access_aside
    (user : List UInt8)
    (status : SocksReplyStatus) :
    Ev.Aside (.access user status) :=
  ⟨rfl, id, fun hBad => nomatch hBad⟩

theorem ConnectingWrite.owed
    (h : ConnectingWrite key a s attached r)
    (hState : s.conn.current = some REQUEST_CONNECTING)
    (hSlot : s.srv.sel.Has key.fd interest attached)
    (hFd : s.conn.connStatus = .succeeded →
      key.fd = s.conn.originFd)
    (hDue : Due s.conn REQUEST_CONNECTING) :
    Owed r.1.conn r.2 := by
  have hNothing : s.conn.connStatus = .succeeded →
      Unanswered s.conn := by
    intro hStatus
    cases hDue with
    | early _ hBad => nomatch hBad
    | request _ hBad => rcases hBad with h | h <;> nomatch h
    | attempt _ hNothing => exact hNothing
    | refused hBad => exact absurd hStatus hBad
  have hBefore : s.conn.connStatus ≠ .succeeded →
      ¬ s.conn.Unrefused ∧ 1 ≤ s.conn.stored.length ∧
        (s.conn.stored.length = 1 →
          10 ≤ s.conn.writeBuffer.room) := by
    intro hStatus
    cases hDue with
    | early _ hBad => nomatch hBad
    | request _ hBad => rcases hBad with h | h <;> nomatch h
    | attempt hBad => exact absurd hBad hStatus
    | refused _ hRefused hSome hRoom =>
        exact ⟨hRefused, hSome, hRoom⟩
  have hNoted : s.conn.connStatus = .succeeded →
      ∀ result left, Unanswered
        (s.note (.soError result left)).conn := by
    intro hStatus result left
    exact (hNothing hStatus).grows
      (.single rfl (Ev.soError_aside result left)) rfl
  -- an answer that prints the line of the attempt first
  have hFailed : s.conn.connStatus = .succeeded →
      ∀ result left status, Owed (answeredWith
        (failedNoted (s.note (.soError result left)) status)
          attached status).conn REQUEST_WRITE := by
    intro hStatus result left status
    rw [answeredWith_conn]
    apply Unanswered.replied
    exact (hNoted hStatus result left).grows
      (.single rfl (Ev.access_aside _ _)) rfl
  cases h with
  | nextAfterFailure next rest hStatus hNext result hResult =>
      rcases aimNext_eq next rest s with ⟨addr, hEq⟩
      rw [hEq] at hResult
      exact hResult.owed hState hStatus
        (Or.inr (hBefore hStatus))
  | gaveUp hStatus hNone =>
      rcases hBefore hStatus with ⟨hRefused, hSome, hRoom⟩
      rw [answeredWith_conn]
      have hConn := dropOrigin_conn s
      apply replied_refused
      · rw [hConn]
        exact hRefused
      · rw [hConn]
        exact hSome
      · rw [hConn]
        exact hRoom
  | noAnswer hStatus hError => exact hFailed hStatus _ _ _
  | established hStatus hError hRoom =>
      show Owed (replied _ _).conn REQUEST_WRITE
      apply Unanswered.replied
      exact (hNoted hStatus _ _).grows
        (.single rfl (Ev.access_aside _ _)) rfl
  | full hStatus hError hRoom =>
      exact .late _ (show REQUEST_WRITE < ERROR by decide)
  | nextAfterError errno next rest hStatus hError hNext result
      hResult =>
      have hTaken := hSlot.not_canRegister
      rw [hFd hStatus] at hTaken
      rcases aimNext_eq next rest
        { s.note (.soError (some (some errno))
            (nextAddresses s).length) with
          conn.connStatus := errnoToSocks (some errno) }
        with ⟨addr, hEq⟩
      rw [hEq] at hResult
      refine hResult.owed hState (errnoToSocks_ne errno)
        (Or.inl ⟨?_, hTaken⟩)
      exact (hNoted hStatus _ _).grows (.of_eq rfl) rfl
  | failed errno hStatus hError hNone =>
      exact hFailed hStatus _ _ _

end Calls

end Socks5d

------------------------------------------------------------
-- Calls Of The Other States
------------------------------------------------------------

namespace Socks5d

section States

variable {k : ConnId}
variable {key : Key}
variable {a : Answers}
variable {s t u : St}
variable {c d : Conn}
variable {r : St × Nat}
variable {attached : Attachment}

/- Most states neither answer nor try to connect. -/
theorem Ev.ofState_aside
    {state : Nat}
    {event : Ev}
    (h : event.ofState state)
    (hState : state < REQUEST_READ ∨ REQUEST_WRITE ≤ state) :
    event.Aside := by
  unfold Ev.ofState at h
  split at h
  all_goals first
    | exact ⟨rfl, id, fun hBad => nomatch hBad⟩
    | exact absurd hState (by decide)
    | exact h.elim

theorem Ev.ofArrival_aside
    {state : Nat}
    {event : Ev}
    (h : event.ofArrival state)
    (hState : REQUEST_WRITE ≤ state) : event.Aside := by
  unfold Ev.ofArrival at h
  split at h
  all_goals first
    | exact absurd hState (by decide)
    | exact h.elim

/- The client's request has come, and nothing was tried. -/
theorem RequestProcess.owed
    {request : Request}
    (h : RequestProcess key a request s attached r)
    (hState : s.conn.current = some REQUEST_READ)
    (hNothing : Unanswered s.conn) :
    Owed r.1.conn r.2 := by
  have hOther : ∀ next, next ≠ REQUEST_READ →
      s.conn.current ≠ some next := by
    intro next hNext hBad
    exact hNext (Option.some.inj (hBad.symm.trans hState))
  have hSame : ∀ d : Conn, d.log = s.conn.log →
      d.writeBuffer = s.conn.writeBuffer → Unanswered d :=
    fun d hLog hBuffer => hNothing.grows (.of_eq hLog) hBuffer
  cases h with
  | refused status addrFamily hRequest =>
      show Owed (replied _ _).conn REQUEST_WRITE
      apply Unanswered.replied
      exact hSame _ rfl rfl
  | direct addrFamily domain len hType =>
      exact .request REQUEST_CONNECTING (Or.inr (Or.inr rfl))
        (hOther REQUEST_CONNECTING (by decide))
        (hSame _ rfl rfl)
  | noMemory hAlloc =>
      show Owed (replied _ _).conn REQUEST_WRITE
      apply Unanswered.replied
      refine hNothing.grows (.single rfl ?_) rfl
      exact ⟨rfl, id, fun hBad => nomatch hBad⟩
  | noThread hThread =>
      show Owed (replied _ _).conn REQUEST_WRITE
      apply Unanswered.replied
      exact hSame _ rfl rfl
  | resolving hType hThread =>
      refine .request REQUEST_RESOLV (Or.inr (Or.inl rfl))
        (hOther REQUEST_RESOLV (by decide)) ?_
      refine hNothing.grows (.single rfl ?_) rfl
      exact ⟨rfl, id, fun hBad => nomatch hBad⟩
  | waiting hType hThread =>
      exact .request REQUEST_RESOLV (Or.inr (Or.inl rfl))
        (hOther REQUEST_RESOLV (by decide))
        (hSame _ rfl rfl)

theorem RequestRead.owed
    {p : RequestParser}
    (h : RequestRead key a s p attached r)
    (hState : s.conn.current = some REQUEST_READ)
    (hStatus : s.conn.request.status = .succeeded)
    (hDue : Due s.conn REQUEST_READ) :
    Owed r.1.conn r.2 := by
  have hNothing : Unanswered s.conn := by
    cases hDue with
    | early _ hBad => exact absurd hBad (Nat.lt_irrefl _)
    | request _ _ hNothing => exact hNothing
    | starved hBad => exact absurd hStatus hBad
  have hFed : ∀ bytes,
      Unanswered (requestFed key bytes p s).1.conn := by
    intro bytes
    refine hNothing.grows (.single rfl ?_) rfl
    exact ⟨rfl, id, fun hBad => nomatch hBad⟩
  cases h with
  | ended hBytes =>
      exact .late _ (show REQUEST_WRITE < ERROR by decide)
  | more bytes hBytes hSome hGoing =>
      exact .kept _ hState (.request _ (Or.inl rfl) (hFed bytes))
  | processed bytes hBytes hSome hDone _ hResult =>
      exact hResult.owed hState (hFed bytes)

theorem takeAddress_same
    (address : Addrinfo)
    (s : St) :
    (takeAddress address s).conn.log = s.conn.log ∧
      (takeAddress address s).conn.writeBuffer =
        s.conn.writeBuffer ∧
      (takeAddress address s).conn.current =
        s.conn.current := by
  unfold takeAddress
  split
  · exact ⟨rfl, rfl, rfl⟩
  · exact ⟨rfl, rfl, rfl⟩
  · exact ⟨rfl, rfl, rfl⟩

theorem RequestResolvDone.owed
    (h : RequestResolvDone key s attached r)
    (hState : s.conn.current = some REQUEST_RESOLV)
    (hDue : Due s.conn REQUEST_RESOLV) :
    Owed r.1.conn r.2 := by
  have hNothing : Unanswered s.conn := by
    cases hDue with
    | early _ hBad => nomatch hBad
    | request _ _ hNothing => exact hNothing
  have hResolved : Ev.Aside
      (.resolved s.conn.originResolution) :=
    ⟨rfl, id, fun hBad => nomatch hBad⟩
  cases h with
  | failed hList =>
      show Owed (replied _ _).conn REQUEST_WRITE
      apply Unanswered.replied
      exact hNothing.grows (.single rfl hResolved) rfl
  | first address rest hList =>
      rcases takeAddress_same address
        { s.note (.resolved s.conn.originResolution) with
          conn.resolutionCurrent := address :: rest } with
        ⟨hLog, hBuffer, hCurrent⟩
      refine .request _ (Or.inr (Or.inr rfl)) ?_ ?_
      · rw [hCurrent]
        intro hBad
        nomatch hState.symm.trans hBad
      · exact hNothing.grows (.single hLog hResolved) hBuffer

/- Before the request, the states only go on when drained. -/
theorem SocksTurn.owed
    (h : SocksTurn k key a s r)
    (hSocks : s.conn.isSocks = true)
    (hSound : s.srv.sel.Sound)
    (hOwns : Owns k s.srv.sel s.conn)
    {state : Nat}
    (hState : s.conn.current = some state)
    (hBefore : state < REQUEST_WRITE)
    (hDue : Due s.conn state) : Owed r.1.conn r.2 := by
  have hCurrent := (h.current hSound hOwns).trans hState
  have hIs : ∀ other, s.conn.current = some other →
      state = other := fun other hOther =>
    Option.some.inj (hState.symm.trans hOther)
  have hEarly : state < REQUEST_READ →
      r.1.conn.stored = [] ∧ r.1.conn.Unrefused := by
    intro hLt
    rcases h.logs hSound hOwns with ⟨here, hHere, hGrows⟩
    rw [← hIs here hHere] at hGrows
    have hAside := (hGrows.mono fun event hEvent =>
      Ev.ofState_aside hEvent (Or.inl hLt)).aside
    cases hDue with
    | early _ _ hNone hClean =>
        exact ⟨hAside.1.trans hNone, hAside.2.1.mpr hClean⟩
    | request _ hBad =>
        rcases hBad with hBad | hBad
        all_goals rw [hBad] at hLt; nomatch hLt
    | starved => exact absurd hLt (Nat.lt_irrefl _)
    | attempt => nomatch hLt
    | refused => nomatch hLt
  have hEnds : ∀ d : Conn, d.isSocks = true →
      Owed r.1.conn d.errorState ∧
        Owed r.1.conn d.doneState := by
    intro d hService
    rw [(Conn.ends_socks hService).1,
      (Conn.ends_socks hService).2]
    exact ⟨.late _ (by decide), .late _ (by decide)⟩
  have hReply : (authReply s).conn.isSocks = true := by
    rcases authReply_eq s with ⟨wb, hReply⟩
    rw [hReply]
    exact hSocks
  -- a handshake state goes on to another one
  have hOn : ∀ next, state < REQUEST_READ →
      next < REQUEST_READ → Owed r.1.conn next :=
    fun next hLt hNext =>
      .early next hNext (hEarly hLt).1 (hEarly hLt).2
  -- it goes on to the request when all has been sent
  have hRequest : state < REQUEST_READ →
      r.1.conn.writeBuffer.pending = [] →
        Owed r.1.conn REQUEST_READ := by
    intro hLt hEmpty
    refine .request _ (Or.inl rfl) ?_
      ⟨(hEarly hLt).1, (hEarly hLt).2, hEmpty⟩
    rw [hCurrent]
    intro hBad
    exact absurd hLt (Nat.not_lt.mpr
      (Nat.le_of_eq (Option.some.inj hBad).symm))
  cases h with
  | helloRead hHere _ _ _ _ _ hCall =>
      have hLt : state < REQUEST_READ := by
        rw [hIs _ hHere]
        decide
      cases hCall with
      | failed => exact (hEnds _ hSocks).1
      | ended => exact (hEnds _ hSocks).1
      | refused => exact (hEnds _ hSocks).1
      | more => exact hOn HELLO_READ hLt (by decide)
      | answered => exact hOn HELLO_WRITE hLt (by decide)
  | helloWrite hHere _ _ _ _ _ hCall =>
      have hLt : state < REQUEST_READ := by
        rw [hIs _ hHere]
        decide
      cases hCall with
      | failed => exact (hEnds _ hSocks).1
      | refused => exact (hEnds _ hSocks).2
      | more => exact hOn HELLO_WRITE hLt (by decide)
      | userpass => exact hOn USERPASS_READ hLt (by decide)
      | request n hSend hSent => exact hRequest hLt hSent
  | authRead hHere _ _ _ _ hCall =>
      have hLt : state < REQUEST_READ := by
        rw [hIs _ hHere]
        decide
      cases hCall with
      | failed => exact (hEnds _ hSocks).1
      | ended => exact (hEnds _ hSocks).1
      | rejected => exact (hEnds _ hSocks).1
      | more => exact hOn USERPASS_READ hLt (by decide)
      | answered bytes _ _ _ _ hProcess =>
          cases hProcess with
          | _ => exact hOn USERPASS_WRITE hLt (by decide)
  | authWrite hHere _ _ _ _ hCall =>
      have hLt : state < REQUEST_READ := by
        rw [hIs _ hHere]
        decide
      cases hCall with
      | failed => exact (hEnds _ hReply).1
      | refused => exact (hEnds _ hReply).2
      | more => exact hOn USERPASS_WRITE hLt (by decide)
      | passed n hSend hSent => exact hRequest hLt hSent
  | requestRead hHere _ _ _ hStatus p _ _ hCall =>
      rw [hIs _ hHere] at hDue
      exact hCall.owed hHere hStatus hDue
  | requestResolvDone hHere _ _ _ p _ _ hCall =>
      rw [hIs _ hHere] at hDue
      exact hCall.owed hHere hDue
  | connectingWrite hHere interest _ hKey _ hFd _ hCall =>
      rw [hIs _ hHere] at hDue
      exact hCall.owed hHere hKey.slot hFd hDue
  | requestWrite hHere =>
      rw [hIs _ hHere] at hBefore
      exact absurd hBefore (Nat.lt_irrefl _)
  | relay hHere =>
      rw [hIs _ hHere] at hBefore
      nomatch hBefore

end States

end Socks5d

------------------------------------------------------------
-- Entering The Next State
------------------------------------------------------------

namespace Socks5d

/-
  The replies and the refusals of a SOCKS connection in every
  state.
-/
structure AnswerAccount (c : Conn) : Prop where
  before : ∀ state, c.current = some state →
    state < REQUEST_WRITE → Due c state
  fresh : (∀ state, c.current = some state →
    state < REQUEST_WRITE) → Ev.enter REQUEST_WRITE ∉ c.log
  start : c.current = none → c.stored = [] ∧ c.Unrefused
  answered : Ev.enter REQUEST_WRITE ∈ c.log →
    (c.stored.length = 1 ↔ c.Unrefused)

section Entering

variable {k : ConnId}
variable {key : Key}
variable {a : Answers}
variable {s u : St}
variable {c d : Conn}
variable {r : St × Nat}
variable {attached : Attachment}

/- Entering a state only notes it. -/
theorem entered_aside
    {next : Nat}
    (hNext : next ≠ REQUEST_WRITE)
    (s : St) :
    s.conn.Grows Ev.Aside (entered next s).conn := by
  refine .single rfl ⟨rfl, id, ?_⟩
  intro hBad
  injection hBad with hBad
  exact hNext hBad

/- The request is read with nothing answered, or starved. -/
theorem RequestInit.due
    (h : RequestInit key attached s u)
    (hNothing : Unanswered s.conn) :
    Due u.conn REQUEST_READ := by
  cases h with
  | ready =>
      exact .request _ (Or.inl rfl)
        (hNothing.grows (.of_eq rfl) rfl)
  | starved =>
      refine .starved ?_
      show SocksReplyStatus.generalSocksServerFailure ≠ _
      decide

/- The first attempt is under way, or refused and answered. -/
theorem ConnectingInit.due
    (h : ConnectingInit key a s attached u)
    (hNothing : Unanswered s.conn) :
    Due u.conn REQUEST_CONNECTING := by
  have hGeneral : SocksReplyStatus.generalSocksServerFailure ≠
      .succeeded := by decide
  have hSocket : ∀ fd, Ev.Aside
      (.socket s.conn.originDomain (some fd)) := by
    intro fd
    refine ⟨rfl, ?_, fun hBad => nomatch hBad⟩
    exact Option.some_ne_none fd
  have hStarted : ∀ fd,
      Unanswered (connectingStarted (some fd) s).conn :=
    fun fd => hNothing.grows (.single rfl (hSocket fd)) rfl
  cases h with
  | noSocket hNone =>
      have hEvent : Ev.Refuses
          (.socket s.conn.originDomain none) := rfl
      have hStruck := refusedWith_struck (s := s)
        (t := { connectingStarted none s with
          conn.originFd := -1 })
        rfl rfl hEvent attached .generalSocksServerFailure
      refine hStruck.due ?_ hNothing
      rw [refusedWith_connStatus]
      exact hGeneral
  | notSet fd hSome hNio =>
      have hEvent : Ev.Refuses (.nonblocking a.nio) := hNio
      have hStruck := refusedWith_struck
        (s := connectingStarted (some fd) s)
        (t := withSocket key a fd
          (connectingStarted (some fd) s))
        rfl rfl hEvent attached .generalSocksServerFailure
      refine hStruck.due ?_ (hStarted fd)
      rw [refusedWith_connStatus]
      exact hGeneral
  | connected fd hSome hNio result hResult =>
      have hSet : Ev.Aside (.nonblocking a.nio) := by
        refine ⟨rfl, ?_, fun hBad => nomatch hBad⟩
        intro hBad
        nomatch hNio.symm.trans hBad
      have hOpen : Unanswered (withSocket key a fd
          (connectingStarted (some fd) s)).conn :=
        (hStarted fd).grows (.single rfl hSet) rfl
      rcases hResult.strikes with
        ⟨hStatus, _, _, hBuffer, hGrows⟩ |
          ⟨hFailed, _, hStruck⟩
      · exact .attempt hStatus (hOpen.grows hGrows hBuffer)
      · have hSame : Struck (withSocket key a fd
            (connectingStarted (some fd) s)).conn
              { result.1.conn with connStatus := result.2 } :=
          ⟨hStruck.refused, hStruck.entered, hStruck.room,
            hStruck.full⟩
        exact hSame.due hFailed hOpen

/- What a call has left is due in the next state. -/
theorem Owed.due
    (h : Owed s.conn r.2)
    (hJump : SocksJump k key a s r.2 u)
    (hNext : r.2 < REQUEST_WRITE) :
    Due u.conn r.2 := by
  have hNever : ∀ next other, s.conn.current = some next →
      next ≠ other → s.conn.current ≠ some other := by
    intro next other hState hNe hBad
    exact hNe (Option.some.inj (hState.symm.trans hBad))
  generalize r.2 = next at h hJump hNext
  cases hJump with
  | stay _ hState =>
      cases h with
      | kept _ _ hDue => exact hDue
      | early _ hLt hNone hClean =>
          exact .early _ hLt hNone hClean
      | request _ _ hOther => exact absurd hState hOther
      | answered => exact absurd hNext (Nat.lt_irrefl _)
      | late _ hOver =>
          exact absurd hNext (Nat.lt_asymm hOver)
  | plain _ hPlain hOther parser =>
      have hGrows : s.conn.Grows Ev.Aside (entered next
          { s with conn.request.parser := parser }).conn := by
        have hFirst : s.conn.Grows Ev.Aside
            { s.conn with request.parser := parser } :=
          .of_eq rfl
        exact hFirst.trans (entered_aside (Nat.ne_of_lt hNext)
          { s with conn.request.parser := parser })
      cases h with
      | kept _ hState => exact absurd hState hOther
      | early _ hLt hNone hClean =>
          exact .early _ hLt (hGrows.aside.1.trans hNone)
            (hGrows.aside.2.1.mpr hClean)
      | request _ hKind _ hNothing =>
          refine .request _ ?_ (hNothing.grows hGrows rfl)
          rcases hKind with hKind | hKind | hKind
          · exact Or.inl hKind
          · exact Or.inr hKind
          · rw [hKind] at hPlain
            rcases hPlain with h | h | h | h | h | h
            all_goals nomatch h
      | answered => exact absurd hNext (Nat.lt_irrefl _)
      | late _ hOver =>
          exact absurd hNext (Nat.lt_asymm hOver)
  | userpassRead hState =>
      have hGrows : s.conn.Grows Ev.Aside (authReadInit key a
          (entered USERPASS_READ s)).conn := by
        refine (entered_aside (show USERPASS_READ ≠
          REQUEST_WRITE by decide) s).trans ?_
        unfold authReadInit
        split
        · exact .of_eq rfl
        · refine .single rfl ⟨rfl, id, ?_⟩
          exact fun hBad => nomatch hBad
      cases h with
      | kept _ hBad =>
          exact absurd hBad
            (hNever _ USERPASS_READ hState (by decide))
      | early _ hLt hNone hClean =>
          exact .early _ hLt (hGrows.aside.1.trans hNone)
            (hGrows.aside.2.1.mpr hClean)
      | request _ hKind =>
          rcases hKind with h | h | h <;> nomatch h
      | late _ hOver => nomatch hOver
  | requestRead hState _ hInit =>
      cases h with
      | kept _ hBad =>
          exfalso
          rcases hState with hState | hState
          · exact hNever _ REQUEST_READ hState (by decide) hBad
          · exact hNever _ REQUEST_READ hState (by decide) hBad
      | early _ hLt => exact absurd hLt (Nat.lt_irrefl _)
      | request _ _ _ hNothing =>
          exact hInit.due (hNothing.grows (entered_aside
            (show REQUEST_READ ≠ REQUEST_WRITE by decide) s)
              rfl)
      | late _ hOver => nomatch hOver
  | connecting hState parser _ hInit =>
      cases h with
      | kept _ hBad =>
          exfalso
          rcases hState with hState | hState
          · exact hNever _ REQUEST_CONNECTING hState
              (by decide) hBad
          · exact hNever _ REQUEST_CONNECTING hState
              (by decide) hBad
      | early _ hLt => nomatch hLt
      | request _ _ _ hNothing =>
          have hSame : Unanswered
              { s.conn with request.parser := parser } :=
            hNothing.grows (.of_eq rfl) rfl
          exact hInit.due (hSame.grows (entered_aside
            (show REQUEST_CONNECTING ≠ REQUEST_WRITE by decide)
              { s with conn.request.parser := parser }) rfl)
      | late _ hOver => nomatch hOver
  | copy => nomatch hNext

end Entering

end Socks5d

------------------------------------------------------------
-- Whole Runs
------------------------------------------------------------

namespace Socks5d

section Runs

variable {k : ConnId}
variable {key : Key}
variable {a : Answers}
variable {s t u : St}
variable {c d : Conn}
variable {r : St × Nat}
variable {w : World}

/- A call and a jump up to `REQUEST_CONNECTING`. -/
theorem AnswerAccount.early
    (h : AnswerAccount s.conn)
    (hSocks : s.conn.isSocks = true)
    (hSound : s.srv.sel.Sound)
    (hOwns : Owns k s.srv.sel s.conn)
    {state : Nat}
    (hState : s.conn.current = some state)
    (hBefore : state < REQUEST_WRITE)
    (hTurn : SocksTurn k key a s r)
    (hJump : SocksJump k key a r.1 r.2 u) :
    AnswerAccount u.conn := by
  have hNow : u.conn.current = some r.2 := hJump.enters
  have hIs : ∀ other, u.conn.current = some other →
      other = r.2 := fun other hOther =>
    Option.some.inj (hOther.symm.trans hNow)
  have hHere := (hTurn.current hSound hOwns).trans hState
  have hOwed := hTurn.owed hSocks hSound hOwns hState hBefore
    (h.before state hState hBefore)
  have hFresh := h.fresh (by
    intro other hOther
    rw [Option.some.inj (hOther.symm.trans hState)]
    exact hBefore)
  rcases hTurn.logs hSound hOwns with ⟨here, _, hGrows⟩
  have hNew : Ev.enter REQUEST_WRITE ∈ u.conn.log →
      r.2 = REQUEST_WRITE ∧
        r.1.conn.current ≠ some REQUEST_WRITE :=
    enter_new hGrows hJump hFresh
  constructor
  · intro other hOther hLt
    rw [hIs other hOther] at hLt ⊢
    exact hOwed.due hJump hLt
  · intro hAll hIn
    have hLt := hAll r.2 hNow
    rw [(hNew hIn).1] at hLt
    exact absurd hLt (Nat.lt_irrefl _)
  · intro hNone
    nomatch hNone.symm.trans hNow
  · intro hIn
    rcases hNew hIn with ⟨hNext, hOther⟩
    rw [hNext] at hOwed hJump
    cases hOwed with
    | kept _ hBad => exact absurd hBad hOther
    | early _ hBad => nomatch hBad
    | request _ hBad => rcases hBad with h | h | h <;> nomatch h
    | late _ hBad => exact absurd hBad (Nat.lt_irrefl _)
    | answered hIff =>
        cases hJump with
        | stay _ hBad => exact absurd hBad hOther
        | plain _ _ _ parser _ fault =>
            let left : St := { r.1 with
              srv.fault := fault
              conn.request.parser := parser }
            have hSame : (entered REQUEST_WRITE
                left).conn.stored = r.1.conn.stored := by
              refine Conn.Grows.filterMap
                (P := fun event => event.status? = none)
                (.single rfl rfl) _ fun _ hEvent => hEvent
            have hClean : (entered REQUEST_WRITE
                left).conn.Unrefused ↔ r.1.conn.Unrefused := by
              constructor
              · intro hAll event hEvent
                exact hAll event
                  (List.mem_append_left _ hEvent)
              · intro hAll event hEvent
                rcases List.mem_append.mp hEvent with hOld | hLast
                · exact hAll event hOld
                · rw [List.mem_singleton.mp hLast]
                  exact id
            rw [hSame, hClean]
            exact hIff

/- Afterwards no reply is stored and nothing is tried. -/
theorem AnswerAccount.late
    (h : AnswerAccount s.conn)
    (hSocks : s.conn.isSocks = true)
    (hSound : s.srv.sel.Sound)
    (hOwns : Owns k s.srv.sel s.conn)
    {state : Nat}
    (hState : s.conn.current = some state)
    (hAfter : REQUEST_WRITE ≤ state)
    (hTurn : SocksTurn k key a s r)
    (hJump : SocksJump k key a r.1 r.2 u) :
    AnswerAccount u.conn := by
  have hNow : u.conn.current = some r.2 := hJump.enters
  have hHere := (hTurn.current hSound hOwns).trans hState
  have hHeading := (hTurn.heading hSound hOwns hSocks).2
  have hLate : REQUEST_WRITE ≤ r.2 := by
    by_contra hNot
    have hLt : r.2 < REQUEST_WRITE := Nat.not_le.mp hNot
    have hForward := hHeading.forward hHere
      (Nat.le_trans (Nat.le_of_lt hLt) (by decide))
    exact hNot (Nat.le_trans hAfter hForward)
  have hNot : ¬ ∀ other, u.conn.current = some other →
      other < REQUEST_WRITE := fun hAll =>
    absurd (hAll r.2 hNow) (Nat.not_lt.mpr hLate)
  have hCall : s.conn.Grows Ev.Aside r.1.conn := by
    rcases hTurn.logs hSound hOwns with ⟨here, hIs, hGrows⟩
    rw [← Option.some.inj (hState.symm.trans hIs)] at hGrows
    exact hGrows.mono fun event hEvent =>
      Ev.ofState_aside hEvent (Or.inr hAfter)
  have hEntry : r.1.conn.Grows Ev.Aside u.conn := by
    rcases hJump.logs with ⟨_, hSame⟩ | ⟨hOther, hEnters⟩
    · rw [hSame]
      exact .of_eq rfl
    · have hNext : r.2 ≠ REQUEST_WRITE := by
        intro hBad
        have hForward := hHeading.forward hHere
          (by rw [hBad]; decide)
        have hSame := Nat.le_antisymm
          (Nat.le_trans hForward (Nat.le_of_eq hBad)) hAfter
        rw [hBad, hHere, hSame] at hOther
        exact hOther rfl
      refine (entered_aside hNext r.1).trans
        (hEnters.mono fun event hEvent => ?_)
      exact Ev.ofArrival_aside hEvent hLate
  have hAside := (hCall.trans hEntry).aside
  constructor
  · intro other hOther hLt
    rw [Option.some.inj (hOther.symm.trans hNow)] at hLt
    exact absurd hLt (Nat.not_lt.mpr hLate)
  · exact fun hAll => absurd hAll hNot
  · intro hNone
    nomatch hNone.symm.trans hNow
  · intro hIn
    rw [hAside.1, hAside.2.1]
    exact h.answered (hAside.2.2.mp hIn)

/- What a thread or a job adds while a name is resolved. -/
theorem AnswerAccount.waiting
    (h : AnswerAccount c)
    (hState : c.current = some REQUEST_RESOLV)
    (hSame : d.current = c.current)
    (hBuffer : d.writeBuffer = c.writeBuffer)
    (hGrows : c.Grows Ev.Aside d) : AnswerAccount d := by
  have hAside := hGrows.aside
  have hNow := hSame.trans hState
  constructor
  · intro state hHere _
    rw [Option.some.inj (hHere.symm.trans hNow)]
    cases h.before _ hState (by decide) with
    | early _ hBad => nomatch hBad
    | request _ hKind hNothing =>
        exact .request _ hKind (hNothing.grows hGrows hBuffer)
  · intro hAll hIn
    refine h.fresh ?_ (hAside.2.2.mp hIn)
    intro state hHere
    rw [Option.some.inj (hHere.symm.trans hState)]
    decide
  · intro hNone
    nomatch hNone.symm.trans hNow
  · intro hIn
    rw [hAside.1, hAside.2.1]
    exact h.answered (hAside.2.2.mp hIn)

/- The first event of a connection. -/
theorem AnswerAccount.first
    (h : AnswerAccount s.conn)
    (hState : s.conn.current = none)
    (key : Key)
    (a : Answers) :
    AnswerAccount (helloReadInit key a
      (entered HELLO_READ s)).conn := by
  rcases h.start hState with ⟨hNone, hClean⟩
  have hFresh := h.fresh (by
    intro state hHere
    nomatch hState.symm.trans hHere)
  have hGrows : s.conn.Grows Ev.Aside (helloReadInit key a
      (entered HELLO_READ s)).conn := by
    refine (entered_aside (show HELLO_READ ≠ REQUEST_WRITE
      by decide) s).trans ?_
    unfold helloReadInit
    split
    · refine .single rfl ⟨rfl, id, ?_⟩
      exact fun hBad => nomatch hBad
    · refine .single rfl ⟨rfl, id, ?_⟩
      exact fun hBad => nomatch hBad
  have hNow : (helloReadInit key a
      (entered HELLO_READ s)).conn.current =
        some HELLO_READ := by
    unfold helloReadInit
    split
    · rfl
    · rfl
  have hAside := hGrows.aside
  constructor
  · intro state hHere _
    rw [Option.some.inj (hHere.symm.trans hNow)]
    exact .early _ (by decide) (hAside.1.trans hNone)
      (hAside.2.1.mpr hClean)
  · exact fun _ hIn => hFresh (hAside.2.2.mp hIn)
  · intro hBad
    nomatch hBad.symm.trans hNow
  · exact fun hIn => absurd (hAside.2.2.mp hIn) hFresh

/- Every event keeps the account of the replies. -/
theorem answerAccount_preserved :
    Preserved fun _ _ c => c.isSocks = true →
      AnswerAccount c := by
  constructor
  · intro admins k isSocks client hSocks
    constructor
    · intro state hState
      nomatch hState
    · intro _
      exact List.not_mem_nil
    · intro _
      exact ⟨rfl, fun _ hBad => absurd hBad List.not_mem_nil⟩
    · intro hBad
      exact absurd hBad List.not_mem_nil
  · intro admins k c addresses hState hBefore hSocks
    exact (hBefore hSocks).waiting hState rfl rfl (.of_eq rfl)
  · intro k s request hState hBefore hSocks
    refine (hBefore hSocks).waiting hState rfl rfl ?_
    refine .single rfl ⟨rfl, id, ?_⟩
    exact fun hBad => nomatch hBad
  · intro k key a s hState hBefore hSocks
    have hService : s.conn.isSocks = true := by
      unfold helloReadInit at hSocks
      split at hSocks
      · exact hSocks
      · exact hSocks
    exact (hBefore hService).first hState key a
  · intro k key a s r u hSocks hSound hOwns hTurn hJump
      hBefore _
    have hHere := hBefore hSocks
    rcases hTurn.logs hSound hOwns with ⟨state, hState, _⟩
    rcases Nat.lt_or_ge state REQUEST_WRITE with hLt | hGe
    · exact hHere.early hSocks hSound hOwns hState hLt hTurn
        hJump
    · exact hHere.late hSocks hSound hOwns hState hGe hTurn
        hJump
  · intro k key a s r u hMng hTurn hJump _ hSocks
    have hService := hJump.service.trans hTurn.service
    rw [hService, hMng] at hSocks
    nomatch hSocks

/-
  From the moment at which a connection comes to
  `REQUEST_WRITE`: what was appended for its request is one
  reply if and only if no attempt was refused.
-/
theorem one_reply_iff
    (hReach : server.Reachable w)
    (hOld : k < w.next)
    (hSocks : (w.conn k).isSocks = true)
    (hAnswered : .enter REQUEST_WRITE ∈ (w.conn k).log) :
    (w.conn k).OneReply ↔ (w.conn k).Unrefused := by
  rw [Conn.oneReply_iff]
  exact (conn_invariant answerAccount_preserved hReach hOld
    hSocks).answered hAnswered

end Runs

theorem one_reply_iff_relaying :
    ((relayingWorld []).conn 0).stored = [.succeeded] ∧
      (((relayingWorld []).conn 0).OneReply ↔
        ((relayingWorld []).conn 0).Unrefused) :=
  ⟨by decide +kernel,
    one_reply_iff (relayingWorld_reachable [])
      (by decide +kernel) (by decide +kernel)
      (by decide +kernel)⟩

/- A request for an address that cannot be reached. -/
def unreachableRun : List Label := [
  .read 3 { accept := some 5 },
  .read 5 { recv := some [5, 1, 0] },
  .write 5 { send := some 100 },
  .read 5 {
    recv := some [5, 1, 0, 1, 127, 0, 0, 1, 0, 80]
    socket := some 6
    connect := .failed .enetunreach },
  .write 5 {}]

/- `connection` answers, and so does `connecting_write`. -/
theorem one_reply_iff_unreachable :
    let w := runTo unreachableRun searchingServer
    server.Reachable w ∧ (w.conn 0).isSocks = true ∧
      (w.conn 0).current = some REQUEST_WRITE ∧
      .enter REQUEST_WRITE ∈ (w.conn 0).log ∧
      (w.conn 0).writeBuffer.pending =
        replyBytes .networkUnreachable ++
          replyBytes .networkUnreachable ∧
      ¬ (w.conn 0).OneReply := by
  intro w
  refine ⟨reachable_runTo _ (.init searchingServer_initial),
    by decide +kernel, by decide +kernel, by decide +kernel,
    by decide +kernel, ?_⟩
  rw [Conn.oneReply_iff]
  decide +kernel

end Socks5d
