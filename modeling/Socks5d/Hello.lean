import Socks5d.State

/-
  Method negotiation: `hello.c`, used by the SOCKS and the
  management service.

  Main declarations:
    * `helloParserFeed`, `helloConsume`
    * `helloReadInit`, `helloRead`, `helloWrite`
-/

------------------------------------------------------------
-- The Hello Parser
------------------------------------------------------------

namespace Socks5d

/- `SOCKS_VERSION`, `MNG_VERSION`, `MNG_AUTH_METHOD` -/
abbrev socksVersion : UInt8 := 0x05
abbrev mngVersion : UInt8 := 0x01
abbrev mngAuthMethod : UInt8 := 0x02

abbrev methodNoAuthenticationRequired : UInt8 := 0x00
abbrev methodUsernamePassword : UInt8 := 0x02
abbrev methodNoAcceptableMethods : UInt8 := 0xFF

/- `on_hello_method` -/
def onHelloMethod
    (p : HelloParser)
    (method : UInt8) : HelloParser :=
  if p.method = method then { p with data := method } else p

/- `hello_parser_feed` -/
def helloParserFeed
    (p : HelloParser)
    (b : UInt8) : HelloParser :=
  match p.state with
  | .version =>
      if b = p.version then { p with state := .nmethods }
      else { p with state := .errorUnsupportedVersion }
  | .nmethods =>
      { p with
        remaining := b
        state := if b = 0 then .done else .methods }
  | .methods =>
      let p := onHelloMethod p b
      { p with
        remaining := p.remaining - 1
        state := if p.remaining - 1 = 0 then .done
          else .methods }
  | .done => p
  | .errorUnsupportedVersion => p

/- `hello_is_done` -/
def helloIsDone : HelloState → Bool
| .errorUnsupportedVersion => true
| .done => true
| _ => false

/- The parser as an incremental reader. -/
def HelloParser.reader :
    Incremental.Reader HelloParser UInt8 where
  feed := helloParserFeed
  stop := fun p => helloIsDone p.state

/- `hello_consume` -/
def helloConsume
    {limit : Nat}
    (b : Buffer limit)
    (p : HelloParser) : HelloParser × Buffer limit :=
  b.feed HelloParser.reader p

end Socks5d

------------------------------------------------------------
-- The Hello States
------------------------------------------------------------

namespace Socks5d

/- `hello_read_init` -/
def helloReadInit
    (_ : Key)
    (a : Answers)
    (s : St) : St :=
  if a.alloc .hello then
    let version :=
      if s.conn.isSocks then socksVersion else mngVersion
    let method :=
      if s.conn.isSocks then s.srv.authMethod
      else mngAuthMethod
    St.note { s with conn.hello :=
        { parser := { version, method, data := 0xFF } } }
      (.helloInit s.srv.authMethod)
  else
    St.note { s with conn.hello :=
        { parser := { data := 0xFF }, failed := true } }
      (.outOfMemory .hello)

/- `hello_marshal` and `auth_reply`: a two-byte reply -/
def marshalPair
    (s : St)
    (first second : UInt8) : St × Bool :=
  if s.conn.writeBuffer.room < 2 then (s, false)
  else
    ({ s with conn.writeBuffer :=
        s.conn.writeBuffer.writeAdv [first, second] }, true)

/- `hello_process` -/
def helloProcess
    (s : St)
    (version : UInt8) : St × Option Nat :=
  let marshalled :=
    marshalPair s version s.conn.hello.method
  (marshalled.1,
    if marshalled.2 then some HELLO_WRITE else none)

/- `recv`, `buffer_write_adv` and `hello_consume` -/
def helloFed
    (key : Key)
    (bytes : List UInt8)
    (s : St) : St :=
  let rb := s.conn.readBuffer.writeAdv bytes
  let fed := helloConsume rb s.conn.hello.parser
  St.note { s with
      conn.readBuffer := fed.2
      conn.hello.parser := fed.1 }
    (.recv (s.conn.sideOf key.fd) bytes)

/- `hello_read` -/
def helloRead
    (key : Key)
    (a : Answers)
    (s : St) : St × Nat :=
  if s.conn.hello.failed then (s, s.conn.errorState)
  else
    let bytes := s.recvBytes a
    if bytes = [] then
      (s.note (.eof (s.conn.sideOf key.fd) []),
        s.conn.errorState)
    else
      let s := helloFed key bytes s
      let state := s.conn.hello.parser.state
      if helloIsDone state then
        let set := s.setInterest key.fd opWrite
        if set.2 then
          let version :=
            if s.conn.isSocks then socksVersion
            else mngVersion
          let processed := helloProcess set.1 version
          -- an unsupported version was flagged by the parser
          if state = .errorUnsupportedVersion then
            (processed.1, s.conn.errorState)
          else
            (processed.1,
              processed.2.getD s.conn.errorState)
        else
          (set.1, s.conn.errorState)
      else
        (s, HELLO_READ)

/- `hello_read_close` and `hello_write_close` free nothing
   that is read again, and `hello_write_init` stores the same
   buffers once more. -/

/-
  The `send` of the reply states: the bytes the peer took,
  and the buffer after `buffer_read_adv`.
-/
def sendPending
    (key : Key)
    (n : Nat)
    (s : St) : St :=
  let taken := s.conn.writeBuffer.pending.take n
  St.note { s with conn.writeBuffer :=
      s.conn.writeBuffer.readAdv taken.length }
    (.send (s.conn.sideOf key.fd) taken)

/- `hello_write` -/
def helloWrite
    (key : Key)
    (a : Answers)
    (s : St) : St × Nat :=
  match a.send with
  | none =>
      (s.note (.sendError (s.conn.sideOf key.fd)),
        s.conn.errorState)
  | some n =>
      let s := sendPending key n s
      if s.conn.writeBuffer.canRead then (s, HELLO_WRITE)
      else if s.conn.hello.method =
          methodNoAcceptableMethods then
        (s, s.conn.doneState)
      else
        let set := s.setInterest key.fd opRead
        if set.2 then
          if s.conn.hello.method =
              methodUsernamePassword then
            (set.1, USERPASS_READ)
          else if s.conn.hello.method =
              methodNoAuthenticationRequired then
            (set.1, REQUEST_READ)
          else (set.1, HELLO_WRITE)
        else (set.1, s.conn.errorState)

end Socks5d

------------------------------------------------------------
-- What One Call Does
------------------------------------------------------------

namespace Socks5d

/- The version that a service speaks. -/
def Conn.helloVersion (c : Conn) : UInt8 :=
  if c.isSocks then socksVersion else mngVersion

/- The answer to a hello. -/
def Conn.helloReply (c : Conn) : List UInt8 :=
  [c.helloVersion, c.hello.method]

/- A call of `marshalPair` stores both bytes or none. -/
theorem marshalPair_cases
    (s : St)
    (first second : UInt8) :
    marshalPair s first second = (s, false) ∨
      (2 ≤ s.conn.writeBuffer.room ∧
        marshalPair s first second =
          ({ s with
              conn.writeBuffer := s.conn.writeBuffer.writeAdv
                [first, second] }, true)) := by
  unfold marshalPair
  by_cases hRoom : s.conn.writeBuffer.room < 2
  · exact Or.inl (if_pos hRoom)
  · exact Or.inr ⟨by omega, if_neg hRoom⟩

theorem helloProcess_cases
    (s : St)
    (version : UInt8) :
    helloProcess s version = (s, none) ∨
      (2 ≤ s.conn.writeBuffer.room ∧
        helloProcess s version =
          ({ s with
              conn.writeBuffer := s.conn.writeBuffer.writeAdv
                [version, s.conn.hello.method] },
            some HELLO_WRITE)) := by
  unfold helloProcess
  rcases marshalPair_cases s version s.conn.hello.method with
    hFull | ⟨hRoom, hStored⟩
  · left
    rw [hFull]
    rfl
  · right
    refine ⟨hRoom, ?_⟩
    rw [hStored]
    rfl

/- The outcomes of `hello_read` on a registered client. -/
inductive HelloRead
    (key : Key)
    (a : Answers)
    (s : St)
    (attached : Attachment) : St × Nat → Prop where
  | failed
      (hFailed : s.conn.hello.failed = true) :
      HelloRead key a s attached (s, s.conn.errorState)
  | ended
      (hBytes : s.recvBytes a = []) :
      HelloRead key a s attached
        (s.note (.eof (s.conn.sideOf key.fd) []),
          s.conn.errorState)
  | more
      (bytes : List UInt8)
      (hBytes : s.recvBytes a = bytes)
      (hSome : bytes ≠ [])
      (hGoing : helloIsDone (helloFed key bytes
        s).conn.hello.parser.state = false)
      (hFine : s.conn.hello.failed = false) :
      HelloRead key a s attached
        (helloFed key bytes s, HELLO_READ)
  | refused
      (bytes : List UInt8)
      (hBytes : s.recvBytes a = bytes)
      (wb : Buffer rawBuffSize) :
      HelloRead key a s attached
        ({ (helloFed key bytes s).arm key.fd opWrite
              attached with
            conn.writeBuffer := wb }, s.conn.errorState)
  | answered
      (bytes : List UInt8)
      (hBytes : s.recvBytes a = bytes)
      (hSome : bytes ≠ [])
      (hDone : (helloFed key bytes
        s).conn.hello.parser.state = .done)
      (hRoom : 2 ≤ s.conn.writeBuffer.room)
      (hFine : s.conn.hello.failed = false) :
      HelloRead key a s attached
        ({ (helloFed key bytes s).arm key.fd opWrite
              attached with
            conn.writeBuffer :=
              s.conn.writeBuffer.writeAdv
                (helloFed key bytes s).conn.helloReply },
          HELLO_WRITE)

theorem helloRead_outcome
    {key : Key}
    {s : St}
    {interest : Interest}
    {attached : Attachment}
    (hHas : s.srv.sel.Has key.fd interest attached)
    (a : Answers) :
    HelloRead key a s attached (helloRead key a s) := by
  unfold helloRead
  by_cases hFailed : s.conn.hello.failed = true
  · rw [if_pos hFailed]
    exact .failed hFailed
  rw [if_neg hFailed]
  rw [Bool.not_eq_true] at hFailed
  by_cases hNone : s.recvBytes a = []
  · simp only [hNone, if_true]
    exact .ended hNone
  simp only [hNone, if_false]
  have hFed : (helloFed key (s.recvBytes a) s).srv.sel.Has
      key.fd interest attached := hHas
  rw [St.setInterest_of_has hFed opWrite]
  cases hDone : helloIsDone (helloFed key (s.recvBytes a)
      s).conn.hello.parser.state with
  | false => exact .more _ rfl hNone hDone hFailed
  | true =>
      simp only [if_true]
      rcases helloProcess_cases
          ((helloFed key (s.recvBytes a) s).arm key.fd
            opWrite attached)
          (helloFed key (s.recvBytes a) s).conn.helloVersion
        with hFull | ⟨hRoom, hStored⟩
      · rw [Conn.helloVersion] at hFull
        rw [hFull]
        simp only [Option.getD_none, ite_self]
        exact .refused _ rfl s.conn.writeBuffer
      · rw [Conn.helloVersion] at hStored
        rw [hStored]
        simp only [Option.getD_some]
        split
        · exact .refused _ rfl _
        · rename_i hVersion
          refine .answered _ rfl hNone ?_ hRoom hFailed
          revert hDone hVersion
          cases (helloFed key (s.recvBytes a)
            s).conn.hello.parser.state <;> simp [helloIsDone]

/- The outcomes of `hello_write` on a registered client. -/
inductive HelloWrite
    (key : Key)
    (a : Answers)
    (s : St)
    (attached : Attachment) : St × Nat → Prop where
  | failed
      (hSend : a.send = none) :
      HelloWrite key a s attached
        (s.note (.sendError (s.conn.sideOf key.fd)),
          s.conn.errorState)
  | more
      (n : Nat)
      (hSend : a.send = some n)
      (hLeft : (sendPending key n
        s).conn.writeBuffer.pending ≠ []) :
      HelloWrite key a s attached
        (sendPending key n s, HELLO_WRITE)
  | refused
      (n : Nat)
      (hSend : a.send = some n)
      (hSent : (sendPending key n
        s).conn.writeBuffer.pending = [])
      (hMethod : s.conn.hello.method =
        methodNoAcceptableMethods) :
      HelloWrite key a s attached
        (sendPending key n s, s.conn.doneState)
  | userpass
      (n : Nat)
      (hSend : a.send = some n)
      (hSent : (sendPending key n
        s).conn.writeBuffer.pending = [])
      (hMethod : s.conn.hello.method =
        methodUsernamePassword) :
      HelloWrite key a s attached
        ((sendPending key n s).arm key.fd opRead attached,
          USERPASS_READ)
  | request
      (n : Nat)
      (hSend : a.send = some n)
      (hSent : (sendPending key n
        s).conn.writeBuffer.pending = [])
      (hMethod : s.conn.hello.method =
        methodNoAuthenticationRequired) :
      HelloWrite key a s attached
        ((sendPending key n s).arm key.fd opRead attached,
          REQUEST_READ)

theorem helloWrite_outcome
    {key : Key}
    {s : St}
    {interest : Interest}
    {attached : Attachment}
    (hHas : s.srv.sel.Has key.fd interest attached)
    (hMethod : s.conn.hello.method =
        methodNoAcceptableMethods ∨
      s.conn.hello.method = methodUsernamePassword ∨
      s.conn.hello.method = methodNoAuthenticationRequired)
    (a : Answers) :
    HelloWrite key a s attached (helloWrite key a s) := by
  unfold helloWrite
  cases hSend : a.send with
  | none => exact .failed hSend
  | some n =>
      have hMine : (sendPending key n s).srv.sel.Has key.fd
          interest attached := hHas
      have hSame : (sendPending key n s).conn.hello.method =
          s.conn.hello.method := rfl
      simp only [St.setInterest_of_has hMine, hSame]
      cases hLeft : (sendPending key n
          s).conn.writeBuffer.canRead with
      | true =>
          exact .more n hSend
            ((Buffer.canRead_eq_true_iff _).mp hLeft)
      | false =>
          have hSent :=
            (Buffer.canRead_eq_false_iff _).mp hLeft
          rcases hMethod with hNone | hUser | hOpen
          · rw [hNone]
            exact .refused n hSend hSent hNone
          · rw [hUser]
            exact .userpass n hSend hSent hUser
          · rw [hOpen]
            exact .request n hSend hSent hOpen

end Socks5d
