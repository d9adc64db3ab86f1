import Socks5d.Hello
import Socks5d.ParserBlocks

/-
  The user/password sub-negotiation: `authentication.c`, used
  by the SOCKS and the management service.

  Main declarations:
    * `authParser`
    * `authReadInit`, `authRead`, `authReadClose`
    * `authProcess`, `authWrite`
-/

------------------------------------------------------------
-- Reading The Credentials
------------------------------------------------------------

namespace Socks5d

/- `USERPASS_METHOD_VERSION` and `VERSION_ERROR` -/
abbrev userpassMethodVersion : UInt8 := 0x01
abbrev versionError : UInt8 := 32

/- `checkVersion` -/
def checkVersion : Check := fun ptr size =>
  if size ≠ 1 ∨ ptr.head? ≠ some userpassMethodVersion then
    (false, some versionError)
  else
    (true, none)

/- Version, then user name, then password. -/
def authBlocks : List Block :=
  [.fixed 1 (some checkVersion), .counted, .counted]

/- The parser that `auth_read_init` builds. -/
def authParser : Parser :=
  blockParser authBlocks

/- The string a `longRead` substate has stored. -/
def Parser.resultAt
    (p : Parser)
    (i : Nat) : Option (List UInt8) :=
  (p.states.getD i default).result

/-
  `auth_read_init`. Where a `malloc` fails it returns at once,
  and leaves the states behind as they are.
-/
def authReadInit
    (_ : Key)
    (a : Answers)
    (s : St) : St :=
  if a.alloc .userpass then
    { s with conn.userpass := { parser := authParser } }
  else
    St.note { s with conn.userpass := {
        failed := true
        torn := a.unset .userpass } }
      (.outOfMemory .userpass)

/-
  `auth_read_close`: what it frees is not read again, but it
  follows a state that was never written.
-/
def authReadClose
    (_ : Key)
    (s : St) : St :=
  if s.conn.userpass.torn then s.crash .segv else s

/- The table `auth_process` looks into. -/
def credentialTable (s : St) : UserTable :=
  if s.conn.isSocks then s.srv.users else s.srv.admins

/-
  `auth_process`, with `checkCredentials` and
  `checkMngCredentials`. A missing user name or password is a
  null pointer for `strcmp`, once there is an entry to
  compare it with.
-/
def authProcess (s : St) : St × Nat :=
  let table := credentialTable s
  let s := { s with
    srv.metrics.historicAuthAttempts :=
      s.srv.metrics.historicAuthAttempts + 1 }
  match s.conn.userpass.parser.resultAt 2,
      s.conn.userpass.parser.resultAt 4 with
  | some username, some password =>
      let found := table.find? username password
      let s := s.note (.credentials (cString username)
        (cString password) table.entries found.isSome)
      match found with
      | some i =>
          ({ s with
              conn.authentication := 0x00
              conn.userIndex :=
                if s.conn.isSocks then i
                else s.conn.userIndex },
            USERPASS_WRITE)
      | none =>
          ({ s with conn.authentication := 0x01 },
            USERPASS_WRITE)
  | _, _ =>
      if table.count = 0 then
        ({ s with conn.authentication := 0x01 },
          USERPASS_WRITE)
      else
        (s.crash .segv, USERPASS_WRITE)

/- `recv`, `buffer_write_adv` and `consume` -/
def authFed
    (key : Key)
    (bytes : List UInt8)
    (s : St) : St × ParserState × Bool :=
  let rb := s.conn.readBuffer.writeAdv bytes
  let fed := consume rb s.conn.userpass.parser
  (St.note { s with
      conn.readBuffer := fed.buffer
      conn.userpass.parser := fed.parser }
    (.recv (s.conn.sideOf key.fd) bytes),
    fed.state, fed.error)

/- `auth_read` -/
def authRead
    (key : Key)
    (a : Answers)
    (s : St) : St × Nat :=
  if s.conn.userpass.failed then (s, s.conn.errorState)
  else
    let bytes := s.recvBytes a
    if bytes = [] then
      (s.note (.eof (s.conn.sideOf key.fd) []),
        s.conn.errorState)
    else
      let fed := authFed key bytes s
      if isDone fed.2.1 then
        let set := fed.1.setInterest key.fd opWrite
        if set.2 then
          let processed := authProcess set.1
          if fed.2.2 then
            (processed.1, s.conn.errorState)
          else processed
        else
          (set.1, s.conn.errorState)
      else
        (fed.1, USERPASS_READ)

------------------------------------------------------------
-- Answering
------------------------------------------------------------

/- `auth_reply`, with the version and the verdict -/
def authReply (s : St) : St :=
  (marshalPair s userpassMethodVersion
    s.conn.authentication).1

/-
  `auth_write`. The reply is appended again on every call.
-/
def authWrite
    (key : Key)
    (a : Answers)
    (s : St) : St × Nat :=
  let s := authReply s
  match a.send with
  | none =>
      (s.note (.sendError (s.conn.sideOf key.fd)),
        s.conn.errorState)
  | some n =>
      let s := sendPending key n s
      if s.conn.writeBuffer.canRead then (s, USERPASS_WRITE)
      else if s.conn.authentication ≠ 0x00 then
        (s, s.conn.doneState)
      else
        let set := s.setInterest key.fd opRead
        if set.2 then (set.1, REQUEST_READ)
        else (set.1, s.conn.errorState)

end Socks5d

------------------------------------------------------------
-- What One Call Does
------------------------------------------------------------

namespace Socks5d

/- The state in which `auth_process` counts an attempt. -/
def St.countAttempt (s : St) : St :=
  { s with
    srv.metrics.historicAuthAttempts :=
      s.srv.metrics.historicAuthAttempts + 1 }

/- The record of a comparison with the table. -/
def credentialsOf
    (s : St)
    (username password : List UInt8)
    (accepted : Bool) : Ev :=
  .credentials (cString username) (cString password)
    (credentialTable s).entries accepted

/- The outcomes of `auth_process`. -/
inductive AuthProcess
    (s : St) : St × Nat → Prop where
  | accepted
      (username password : List UInt8)
      (i userIndex : Nat)
      (hUser : s.conn.userpass.parser.resultAt 2 =
        some username)
      (hPass : s.conn.userpass.parser.resultAt 4 =
        some password)
      (hFound : (credentialTable s).find? username password =
        some i)
      (hIndex : s.conn.isSocks = true → userIndex = i) :
      AuthProcess s
        ({ s.countAttempt.note
              (credentialsOf s username password true) with
            conn.authentication := 0x00
            conn.userIndex := userIndex },
          USERPASS_WRITE)
  | denied
      (username password : List UInt8) :
      AuthProcess s
        ({ s.countAttempt.note
              (credentialsOf s username password false) with
            conn.authentication := 0x01 },
          USERPASS_WRITE)
  | noEntries :
      AuthProcess s
        ({ s.countAttempt with
            conn.authentication := 0x01 },
          USERPASS_WRITE)
  | crashed
      (hMissing : s.conn.userpass.parser.resultAt 2 = none ∨
        s.conn.userpass.parser.resultAt 4 = none) :
      AuthProcess s
        (s.countAttempt.crash .segv, USERPASS_WRITE)

theorem authProcess_outcome
    (s : St) :
    AuthProcess s (authProcess s) := by
  cases hUser : s.conn.userpass.parser.resultAt 2 with
  | none =>
      simp only [authProcess, hUser]
      split
      · exact .noEntries
      · exact .crashed (Or.inl hUser)
  | some username =>
      cases hPass : s.conn.userpass.parser.resultAt 4 with
      | none =>
          simp only [authProcess, hUser, hPass]
          split
          · exact .noEntries
          · exact .crashed (Or.inr hPass)
      | some password =>
          simp only [authProcess, hUser, hPass]
          cases hFound : (credentialTable s).find? username
              password with
          | none => exact .denied username password
          | some i =>
              exact .accepted username password i _ hUser
                hPass hFound fun hSocks => if_pos hSocks

/- The outcomes of `auth_read` on a registered client. -/
inductive AuthRead
    (key : Key)
    (a : Answers)
    (s : St)
    (attached : Attachment) : St × Nat → Prop where
  | failed
      (hFailed : s.conn.userpass.failed = true) :
      AuthRead key a s attached (s, s.conn.errorState)
  | ended
      (hBytes : s.recvBytes a = []) :
      AuthRead key a s attached
        (s.note (.eof (s.conn.sideOf key.fd) []),
          s.conn.errorState)
  | more
      (bytes : List UInt8)
      (hBytes : s.recvBytes a = bytes)
      (hSome : bytes ≠ [])
      (hGoing : isDone (authFed key bytes
        s).1.conn.userpass.parser.current = false)
      (hFine : s.conn.userpass.failed = false) :
      AuthRead key a s attached
        ((authFed key bytes s).1, USERPASS_READ)
  | rejected
      (bytes : List UInt8)
      (hBytes : s.recvBytes a = bytes)
      (processed : St × Nat)
      (hProcess : AuthProcess
        ((authFed key bytes s).1.arm key.fd opWrite attached)
        processed)
      (hSome : bytes ≠ [])
      (hError : (authFed key bytes
        s).1.conn.userpass.parser.current = .errorRead) :
      AuthRead key a s attached
        (processed.1, s.conn.errorState)
  | answered
      (bytes : List UInt8)
      (hBytes : s.recvBytes a = bytes)
      (hSome : bytes ≠ [])
      (hDone : (authFed key bytes
        s).1.conn.userpass.parser.current = .doneRead)
      (processed : St × Nat)
      (hProcess : AuthProcess
        ((authFed key bytes s).1.arm key.fd opWrite attached)
        processed)
      (hFine : s.conn.userpass.failed = false) :
      AuthRead key a s attached processed

/- What `auth_read` looks at is the parser's own state. -/
theorem authFed_state
    (key : Key)
    {s : St}
    {a : Answers}
    {bytes : List UInt8}
    (hBytes : s.recvBytes a = bytes)
    (hSome : bytes ≠ []) :
    let state :=
      (authFed key bytes s).1.conn.userpass.parser.current
    (authFed key bytes s).2 =
      (state, decide (state = .errorRead)) := by
  have hPending : (s.conn.readBuffer.writeAdv
      bytes).pending ≠ [] := by
    rw [Buffer.writeAdv_pending, St.take_recvBytes hBytes]
    intro hNil
    exact hSome (List.append_eq_nil_iff.mp hNil).2
  exact Prod.ext (consume_state hPending _)
    (consume_error hPending _)

theorem authRead_outcome
    {key : Key}
    {s : St}
    {interest : Interest}
    {attached : Attachment}
    (hHas : s.srv.sel.Has key.fd interest attached)
    (a : Answers) :
    AuthRead key a s attached (authRead key a s) := by
  unfold authRead
  by_cases hFailed : s.conn.userpass.failed = true
  · rw [if_pos hFailed]
    exact .failed hFailed
  rw [if_neg hFailed]
  rw [Bool.not_eq_true] at hFailed
  by_cases hNone : s.recvBytes a = []
  · simp only [hNone, if_true]
    exact .ended hNone
  simp only [hNone, if_false]
  have hState := authFed_state key rfl hNone
  have hFed : (authFed key (s.recvBytes a) s).1.srv.sel.Has
      key.fd interest attached := hHas
  rw [St.setInterest_of_has hFed opWrite, hState]
  cases hCurrent : (authFed key (s.recvBytes a)
      s).1.conn.userpass.parser.current with
  | singleRead => exact .more _ rfl hNone (by rw [hCurrent]; rfl) hFailed
  | readN => exact .more _ rfl hNone (by rw [hCurrent]; rfl) hFailed
  | longRead => exact .more _ rfl hNone (by rw [hCurrent]; rfl) hFailed
  | doneRead =>
      exact .answered _ rfl hNone hCurrent _
        (authProcess_outcome _) hFailed
  | errorRead =>
      exact .rejected _ rfl _ (authProcess_outcome _) hNone
        hCurrent

/- The outcomes of `auth_write` on a registered client. -/
inductive AuthWrite
    (key : Key)
    (a : Answers)
    (s : St)
    (attached : Attachment) : St × Nat → Prop where
  | failed
      (hSend : a.send = none) :
      AuthWrite key a s attached
        ((authReply s).note
            (.sendError ((authReply s).conn.sideOf key.fd)),
          (authReply s).conn.errorState)
  | more
      (n : Nat)
      (hSend : a.send = some n)
      (hLeft : (sendPending key n
        (authReply s)).conn.writeBuffer.pending ≠ []) :
      AuthWrite key a s attached
        (sendPending key n (authReply s), USERPASS_WRITE)
  | refused
      (n : Nat)
      (hSend : a.send = some n)
      (hSent : (sendPending key n
        (authReply s)).conn.writeBuffer.pending = [])
      (hDenied : s.conn.authentication ≠ 0x00) :
      AuthWrite key a s attached
        (sendPending key n (authReply s),
          (authReply s).conn.doneState)
  | passed
      (n : Nat)
      (hSend : a.send = some n)
      (hSent : (sendPending key n
        (authReply s)).conn.writeBuffer.pending = [])
      (hPassed : s.conn.authentication = 0x00) :
      AuthWrite key a s attached
        ((sendPending key n (authReply s)).arm key.fd opRead
            attached, REQUEST_READ)

/- The reply only changes the write buffer. -/
theorem authReply_eq
    (s : St) :
    ∃ wb, authReply s = { s with conn.writeBuffer := wb } := by
  unfold authReply
  rcases marshalPair_cases s userpassMethodVersion
      s.conn.authentication with hFull | ⟨_, hStored⟩
  · exact ⟨s.conn.writeBuffer, by rw [hFull]⟩
  · exact ⟨_, by rw [hStored]⟩

theorem authWrite_outcome
    {key : Key}
    {s : St}
    {interest : Interest}
    {attached : Attachment}
    (hHas : s.srv.sel.Has key.fd interest attached)
    (a : Answers) :
    AuthWrite key a s attached (authWrite key a s) := by
  rcases authReply_eq s with ⟨wb, hReply⟩
  have hSel : (authReply s).srv.sel.Has key.fd interest
      attached := by
    rw [hReply]
    exact hHas
  have hVerdict : (authReply s).conn.authentication =
      s.conn.authentication := by
    rw [hReply]
  unfold authWrite
  cases hSend : a.send with
  | none => exact .failed hSend
  | some n =>
      have hMine : (sendPending key n
          (authReply s)).srv.sel.Has key.fd interest
          attached := hSel
      have hSame : (sendPending key n
          (authReply s)).conn.authentication =
          s.conn.authentication := hVerdict
      simp only [St.setInterest_of_has hMine, hSame]
      cases hLeft : (sendPending key n
          (authReply s)).conn.writeBuffer.canRead with
      | true =>
          exact .more n hSend
            ((Buffer.canRead_eq_true_iff _).mp hLeft)
      | false =>
          have hSent :=
            (Buffer.canRead_eq_false_iff _).mp hLeft
          by_cases hDenied : s.conn.authentication ≠ 0x00
          · rw [if_neg Bool.false_ne_true, if_pos hDenied]
            exact .refused n hSend hSent hDenied
          · rw [if_neg Bool.false_ne_true, if_neg hDenied]
            exact .passed n hSend hSent (not_not.mp hDenied)

/- The state, the service and the origin are the same. -/
structure Stays (c d : Conn) : Prop where
  current : d.current = c.current
  service : d.isSocks = c.isSocks
  origin : d.originFd = c.originFd

theorem AuthRead.stays
    {key : Key}
    {a : Answers}
    {s : St}
    {attached : Attachment}
    {r : St × Nat}
    (h : AuthRead key a s attached r) :
    Stays s.conn r.1.conn := by
  cases h with
  | failed hFailed => exact ⟨rfl, rfl, rfl⟩
  | ended hBytes => exact ⟨rfl, rfl, rfl⟩
  | more bytes hBytes hSome hGoing => exact ⟨rfl, rfl, rfl⟩
  | rejected bytes hBytes processed hProcess =>
      cases hProcess <;> exact ⟨rfl, rfl, rfl⟩
  | answered bytes hBytes hSome hDone processed hProcess =>
      cases hProcess <;> exact ⟨rfl, rfl, rfl⟩

theorem AuthWrite.stays
    {key : Key}
    {a : Answers}
    {s : St}
    {attached : Attachment}
    {r : St × Nat}
    (h : AuthWrite key a s attached r) :
    Stays s.conn r.1.conn := by
  rcases authReply_eq s with ⟨wb, hReply⟩
  cases h <;> (rw [hReply]; exact ⟨rfl, rfl, rfl⟩)

end Socks5d
