import Socks5d.NewParser
import Socks5d.RequestParser
import Socks5d.PasswordParser
import Socks5d.Descriptors
import Socks5d.Users

/-
  The state that the handlers of the server work on: the
  connection (`struct socks5`), what all connections share,
  and the answers of the system calls a handler makes.

  Main declarations:
    * `SocksReplyStatus`, `errnoToSocks`
    * `Answers`
    * `Ev`, what a connection's system calls did
    * `Conn`, `Server`, `St`, `Key`
-/

------------------------------------------------------------
-- Numbers Of The States
------------------------------------------------------------

namespace Socks5d

/- `enum socks_v5state` -/
@[match_pattern] abbrev HELLO_READ : Nat := 0
@[match_pattern] abbrev HELLO_WRITE : Nat := 1
@[match_pattern] abbrev USERPASS_READ : Nat := 2
@[match_pattern] abbrev USERPASS_WRITE : Nat := 3
@[match_pattern] abbrev REQUEST_READ : Nat := 4
@[match_pattern] abbrev REQUEST_RESOLV : Nat := 5
@[match_pattern] abbrev REQUEST_CONNECTING : Nat := 6
@[match_pattern] abbrev REQUEST_WRITE : Nat := 7
@[match_pattern] abbrev COPY : Nat := 8
@[match_pattern] abbrev DONE : Nat := 9
@[match_pattern] abbrev ERROR : Nat := 10

/- `enum mng_state`, from where it differs -/
@[match_pattern] abbrev MNG_REQUEST_READ_INDEX : Nat := 4
@[match_pattern] abbrev MNG_REQUEST_READ : Nat := 5
@[match_pattern] abbrev MNG_REQUEST_WRITE : Nat := 6
@[match_pattern] abbrev MNG_DONE : Nat := 7
@[match_pattern] abbrev MNG_ERROR : Nat := 8

------------------------------------------------------------
-- Reply Codes And Errors
------------------------------------------------------------

/- The `errno` values that the code tells apart. -/
inductive Errno where
  | econnrefused
  | ehostunreach
  | enetunreach
  | etimedout
  | other
deriving DecidableEq, Inhabited

/- `enum socks_reply_status` -/
inductive SocksReplyStatus where
  | succeeded
  | generalSocksServerFailure
  | connectionNotAllowedByRuleset
  | networkUnreachable
  | hostUnreachable
  | connectionRefused
  | ttlExpired
  | commandNotSupported
  | addressTypeNotSupported
deriving DecidableEq, Inhabited

def SocksReplyStatus.code : SocksReplyStatus → UInt8
| succeeded => 0x00
| generalSocksServerFailure => 0x01
| connectionNotAllowedByRuleset => 0x02
| networkUnreachable => 0x03
| hostUnreachable => 0x04
| connectionRefused => 0x05
| ttlExpired => 0x06
| commandNotSupported => 0x07
| addressTypeNotSupported => 0x08

/- `errno_to_socks`; the value 0 is `none` -/
def errnoToSocks : Option Errno → SocksReplyStatus
| none => .succeeded
| some .econnrefused => .connectionRefused
| some .ehostunreach => .hostUnreachable
| some .enetunreach => .networkUnreachable
| some .etimedout => .ttlExpired
| some .other => .generalSocksServerFailure

/- `enum mng_reply_status` -/
inductive MngReplyStatus where
  | succeeded
  | serverError
  | indexNotSupported
  | maxUsersReached
deriving DecidableEq, Inhabited

def MngReplyStatus.code : MngReplyStatus → UInt8
| succeeded => 0x00
| serverError => 0x01
| indexNotSupported => 0x02
| maxUsersReached => 0x03

/-
  How the process can end inside a handler; `free` ends it
  when it is given what `malloc` has not returned.
-/
inductive Fault where
  | abort
  | segv
  | exit
  | assertion
  | invalidFree
deriving DecidableEq

------------------------------------------------------------
-- Answers Of The System
------------------------------------------------------------

/- `connect` on a non-blocking socket -/
inductive ConnectAnswer where
  | connected
  | inProgress
  | failed (errno : Errno)
deriving DecidableEq, Inhabited

/- The places whose `malloc` the program checks. -/
inductive AllocSite where
  | connection
  | hello
  | userpass
  | requestParser
  | requestFirst
  | requestSecond
  | resolvKey
  | mngIndex
  | mngRequest
  | blockingJob
deriving DecidableEq

/- One address of the list `getaddrinfo` returns. -/
structure Addrinfo where
  family : Family
  addr : Sockaddr
deriving DecidableEq, Inhabited

/-
  What the system answers during one event. Each call is
  made at most once while an event is handled.
-/
structure Answers where
  /- descriptor for `accept`, `none` for -1 -/
  accept : Option Fd := none
  /- bytes that wait in the socket; `none` is an error and
     no bytes is the end of the stream -/
  recv : Option (List UInt8) := none
  /- how many bytes `send` would take; `none` is -1 -/
  send : Option Nat := none
  /- descriptor for `socket`, `none` for -1 -/
  socket : Option Fd := none
  /- `selector_fd_set_nio` succeeds -/
  nio : Bool := true
  connect : ConnectAnswer := .inProgress
  /- `SO_ERROR`: `none` if `getsockopt` fails, `some none`
     for the value 0 -/
  soError : Option (Option Errno) := some none
  /- the `malloc`s of a place succeed -/
  alloc : AllocSite → Bool := fun _ => true
  /- the one that failed stands between that of the states of
     a parser and that of the last of them, and a pointer that
     was not written yet happens not to be null -/
  unset : AllocSite → Bool := fun _ => false
  /- the return value of `pthread_create` -/
  pthreadCreate : Int := 0

------------------------------------------------------------
-- Observations
------------------------------------------------------------

/- The two peers of a connection. -/
inductive Side where
  | client
  | origin
deriving DecidableEq, Inhabited

def Side.other : Side → Side
| client => origin
| origin => client

/- One call of `connect`. -/
structure Attempt where
  fd : Fd
  domain : Option Family
  addr : Sockaddr
  addrLen : Nat
  answer : ConnectAnswer
  /- `selector_register` would take the descriptor -/
  registrable : Bool
deriving DecidableEq

/-
  What the handlers of a connection did, in order: a history
  for stating properties, which no handler reads.
-/
inductive Ev where
  | helloInit (authMethod : UInt8)
  /- a checked `malloc` returned no memory -/
  | outOfMemory (site : AllocSite)
  | recv (side : Side) (bytes : List UInt8)
  /- `recv` returned 0 or -1 while the bytes read before it
     and not yet sent on were `unsent` -/
  | eof (side : Side) (unsent : List UInt8)
  | send (side : Side) (bytes : List UInt8)
  | sendError (side : Side)
  /- a parsed user/password message was compared with a
     table -/
  | credentials (username password : List UInt8)
      (table : List (List UInt8 × List UInt8))
      (accepted : Bool)
  /- `request_marshall` stored a reply -/
  | reply (status : SocksReplyStatus)
  | resolve (request : Request)
  | notified (starter : ConnId) (request : Request)
  | resolved (addresses : List Addrinfo)
  | socket (domain : Family) (fd : Option Fd)
  | nonblocking (ok : Bool)
  | connect (attempt : Attempt)
  /- `SO_ERROR` was read with `left` more addresses to try -/
  | soError (result : Option (Option Errno)) (left : Nat)
  | access (user : List UInt8) (status : SocksReplyStatus)
  /- `password_consume` was given the bytes -/
  | consumed (bytes : List UInt8)
  | captured (user : List UInt8) (what : Captured)
  | enter (state : Nat)
deriving DecidableEq

------------------------------------------------------------
-- Connections
------------------------------------------------------------

/- The capacity of `raw_buff_a` and `raw_buff_b`. -/
abbrev rawBuffSize : Nat := 2048

/- `enum hello_state` -/
inductive HelloState where
  | version
  | nmethods
  | methods
  | done
  | errorUnsupportedVersion
deriving DecidableEq, Inhabited

/-
  `struct hello_parser`; `data` is the method cell of the
  `hello_st` that its data pointer names
-/
structure HelloParser where
  version : UInt8 := 0
  method : UInt8 := 0
  state : HelloState := .version
  remaining : UInt8 := 0
  data : UInt8 := 0
deriving DecidableEq, Inhabited

/-
  `struct hello_st`; its method is the cell that the parser
  writes
-/
structure HelloSt where
  parser : HelloParser := {}
  failed : Bool := false
deriving DecidableEq, Inhabited

def HelloSt.method (d : HelloSt) : UInt8 :=
  d.parser.data

/-
  `struct userpass_st`; `torn` says that a state of its parser
  was never written and is not null
-/
structure UserpassSt where
  parser : Parser := default
  failed : Bool := false
  torn : Bool := false
deriving Inhabited

/- `struct request_st` -/
structure RequestSt where
  parser : Option RequestParser := none
  status : SocksReplyStatus := .succeeded
  addrFamily : UInt8 := 0
deriving DecidableEq, Inhabited

/- `struct mng_request_st`; `torn` is as in `UserpassSt` -/
structure MngRequestSt where
  parser : Parser := default
  torn : Bool := false
  status : MngReplyStatus := .succeeded
  index : UInt8 := 0
deriving Inhabited

/- `struct copy_st`; its buffers follow from its side -/
structure CopySt where
  fd : Fd := 0
  interest : Interest := opNoop
deriving DecidableEq, Inhabited

/-
  `struct socks5`. No member of its two unions is read after
  another one was written, so they are kept side by side.
  The field `log` is the history; the counter `references`
  is kept with the server, where `selector_unregister_fd`
  reaches it.
-/
structure Conn where
  isSocks : Bool
  clientFd : Fd
  originFd : Fd := -1
  /- `stm.current` -/
  current : Option Nat := none
  originResolution : List Addrinfo := []
  /- the list from `origin_resolution_current` on -/
  resolutionCurrent : List Addrinfo := []
  originAddr : Sockaddr := {}
  originAddrLen : Nat := 0
  originDomain : Family := .unspec
  hello : HelloSt := {}
  userpass : UserpassSt := {}
  request : RequestSt := {}
  mngRequest : MngRequestSt := {}
  clientCopy : CopySt := {}
  /- `orig.conn.status` -/
  connStatus : SocksReplyStatus := .succeeded
  origCopy : CopySt := {}
  readBuffer : Buffer rawBuffSize := Buffer.init _
  writeBuffer : Buffer rawBuffSize := Buffer.init _
  authentication : UInt8 := 0
  userIndex : Nat := 0
  passwordParser : PasswordParser := passwordParserInit
  log : List Ev := []
deriving Inhabited

namespace Conn

variable (c : Conn)

/- `error_state`, `done_state` and `stm.max_state` -/
def errorState : Nat :=
  if c.isSocks then ERROR else MNG_ERROR

def doneState : Nat :=
  if c.isSocks then DONE else MNG_DONE

def maxState : Nat :=
  if c.isSocks then ERROR else MNG_ERROR

/- The peer behind a descriptor of the connection. -/
def sideOf (fd : Fd) : Side :=
  if fd = c.originFd then .origin else .client

/- `socksv5_done` or `mng_done` has been run. -/
def Closed : Prop :=
  c.current = some c.doneState ∨
    c.current = some c.errorState

instance : Decidable c.Closed := by
  unfold Closed
  infer_instance

/- The end of a connection is none of the earlier states. -/
theorem over_ne
    (state : Nat)
    (hState : state < MNG_DONE) :
    c.errorState ≠ state ∧ c.doneState ≠ state := by
  have hDone : MNG_DONE < DONE := by decide
  unfold errorState doneState
  split
  · constructor
    · exact Nat.ne_of_gt (Nat.lt_trans hState (by decide))
    · exact Nat.ne_of_gt (Nat.lt_trans hState hDone)
  · constructor
    · exact Nat.ne_of_gt (Nat.lt_trans hState (by decide))
    · exact Nat.ne_of_gt hState

/- Leaving a state, in error or not, is no staying. -/
theorem leaves_ne
    {state next : Nat}
    (hState : state < MNG_DONE)
    (hNext : next ≠ state)
    (P : Prop)
    [Decidable P] :
    (if P then c.errorState else next) ≠ state := by
  split
  · exact (c.over_ne state hState).1
  · exact hNext

/- Connections of one service end in the same states. -/
theorem ends_of_service
    {c d : Conn}
    (hService : d.isSocks = c.isSocks) :
    d.errorState = c.errorState ∧
      d.doneState = c.doneState := by
  unfold errorState doneState
  rw [hService]
  exact ⟨rfl, rfl⟩

theorem ends_socks
    {c : Conn}
    (hSocks : c.isSocks = true) :
    c.errorState = ERROR ∧ c.doneState = DONE :=
  ⟨if_pos hSocks, if_pos hSocks⟩

theorem ends_mng
    {c : Conn}
    (hMng : c.isSocks = false) :
    c.errorState = MNG_ERROR ∧ c.doneState = MNG_DONE := by
  unfold errorState doneState
  rw [hMng]
  exact ⟨rfl, rfl⟩

end Conn

------------------------------------------------------------
-- The Server
------------------------------------------------------------

/- The counters of `main.c`; `size_t` is 64 bits wide. -/
structure Metrics where
  historicConnections : UInt64 := 0
  concurrentConnections : UInt64 := 0
  maxConcurrentConnections : UInt64 := 0
  historicByteTransfer : UInt64 := 0
  historicAuthAttempts : UInt64 := 0
  historicConnectionsAttempts : UInt64 := 0
  totalReads : UInt64 := 0
  averageBytesPerRead : UInt64 := 0
  totalWrites : UInt64 := 0
  averageBytesPerWrite : UInt64 := 0
deriving DecidableEq, Inhabited

/-
  A resolver thread with the key it was given. `host` is what
  it has copied from the request when it has started;
  `request` remembers the request at its creation.
-/
structure Thread where
  fd : Fd
  data : ConnId
  host : Option (List UInt8 × List UInt8) := none
  request : Request
deriving DecidableEq

/-
  `struct blocking_job`: it names only a descriptor.
  `starter` and `request` remember its thread.
-/
structure BlockingJob where
  fd : Fd
  starter : ConnId
  request : Request
deriving DecidableEq

/- Everything that connections share. -/
structure Server where
  users : UserTable
  admins : UserTable
  authMethod : UInt8
  passwordDissectors : UInt8
  metrics : Metrics
  sel : Selector
  references : ConnId → Nat
  /- how often a `struct socks5` went to its pool or `free` -/
  handedBack : ConnId → Nat
  threads : List Thread
  jobs : List BlockingJob
  /- the jobs for which there was no memory: a history -/
  lost : List BlockingJob
  fault : Option Fault

/- `struct selector_key` -/
structure Key where
  fd : Fd
  data : ConnId

/- What one handler call reads and changes. -/
structure St where
  srv : Server
  conn : Conn

------------------------------------------------------------
-- Small Operations
------------------------------------------------------------

namespace St

variable (s : St)

/- Append to the history. -/
def note (event : Ev) : St :=
  { s with conn.log := s.conn.log ++ [event] }

/- The process ends here, if it has not ended before. -/
def crash (fault : Fault) : St :=
  { s with srv.fault := some (s.srv.fault.getD fault) }

/- `selector_set_interest` -/
def setInterest
    (fd : Fd)
    (interest : Interest) : St × Bool :=
  let set := s.srv.sel.setInterest fd interest
  ({ s with srv.sel := set.1 }, set.2)

/- `selector_register` -/
def register
    (fd : Fd)
    (interest : Interest)
    (attached : Attachment) : St × Bool :=
  let set := s.srv.sel.register fd interest attached
  ({ s with srv.sel := set.1 }, set.2)

/- `close` -/
def close (fd : Fd) : St :=
  { s with srv.sel := s.srv.sel.close fd }

/-
  What `recv` into the read buffer stores, as the handshake
  states call it; no bytes stand for `n <= 0`.
-/
def recvBytes (a : Answers) : List UInt8 :=
  (a.recv.getD []).take s.conn.readBuffer.room

/- The bytes received fit into the read buffer. -/
theorem take_recvBytes
    {s : St}
    {a : Answers}
    {bytes : List UInt8}
    (hBytes : s.recvBytes a = bytes) :
    bytes.take s.conn.readBuffer.room = bytes := by
  rw [← hBytes]
  simp [recvBytes]

/- The slot of a descriptor gets this interest. -/
def arm
    (fd : Fd)
    (interest : Interest)
    (attached : Attachment) : St :=
  { s with srv.sel :=
      s.srv.sel.put fd ⟨interest, attached⟩ }

@[simp] theorem arm_conn
    (fd : Fd)
    (interest : Interest)
    (attached : Attachment) :
    (s.arm fd interest attached).conn = s.conn := rfl

@[simp] theorem arm_sel
    (fd : Fd)
    (interest : Interest)
    (attached : Attachment) :
    (s.arm fd interest attached).srv.sel =
      s.srv.sel.put fd ⟨interest, attached⟩ := rfl

/- A free slot can be filled. -/
theorem register_eq
    (fd : Fd)
    (interest : Interest)
    (attached : Attachment) :
    s.register fd interest attached =
      if s.srv.sel.canRegister fd then
        (s.arm fd interest attached, true)
      else (s, false) := by
  unfold register
  rw [Selector.register_eq]
  split
  · rfl
  · rfl

/- The interest of a descriptor with a slot can be set. -/
theorem setInterest_at
    {s : St}
    {sel : Selector}
    {fd : Fd}
    {interest : Interest}
    {attached : Attachment}
    (h : sel.Has fd interest attached)
    (wanted : Interest)
    (hSel : s.srv.sel = sel) :
    s.setInterest fd wanted =
      (s.arm fd wanted attached, true) := by
  subst hSel
  simp [setInterest, h.setInterest, arm]

theorem setInterest_of_has
    {s : St}
    {fd : Fd}
    {interest : Interest}
    {attached : Attachment}
    (h : s.srv.sel.Has fd interest attached)
    (wanted : Interest) :
    s.setInterest fd wanted =
      (s.arm fd wanted attached, true) :=
  setInterest_at h wanted rfl

end St

/- `socks5_destroy` and `mng_destroy` -/
def destroy
    (srv : Server)
    (data : ConnId) : Server :=
  if srv.references data = 1 then
    { srv with
      handedBack := Function.update srv.handedBack data
        (srv.handedBack data + 1) }
  else
    { srv with
      references := Function.update srv.references data
        (srv.references data - 1) }

/- `selector_unregister_fd`, with whether it succeeded -/
def unregisterFd
    (srv : Server)
    (fd : Fd) : Server × Bool :=
  match srv.sel.registered? fd with
  | none => (srv, false)
  | some item =>
      -- handle_close comes before the slot is released
      let srv :=
        match item.attached.data? with
        | none => srv
        | some data => destroy srv data
      ({ srv with sel := srv.sel.clear fd }, true)

/- Destroying changes the counters and nothing else. -/
theorem destroy_sel
    (srv : Server)
    (data : ConnId) :
    (destroy srv data).sel = srv.sel := by
  unfold destroy
  split
  · rfl
  · rfl

theorem destroy_fault
    (srv : Server)
    (data : ConnId) :
    (destroy srv data).fault = srv.fault := by
  unfold destroy
  split
  · rfl
  · rfl

theorem unregisterFd_fault
    (srv : Server)
    (fd : Fd) :
    (unregisterFd srv fd).1.fault = srv.fault := by
  unfold unregisterFd
  cases srv.sel.registered? fd with
  | none => rfl
  | some item =>
      cases hData : item.attached.data? with
      | none => simp only [hData]
      | some data => simp only [hData, destroy_fault]

/- Unregistering fails or clears the slot. -/
theorem unregisterFd_cases
    (srv : Server)
    (fd : Fd) :
    (unregisterFd srv fd = (srv, false) ∧
        ∀ interest attached,
          ¬ srv.sel.Has fd interest attached) ∨
      ∃ interest attached,
        srv.sel.Has fd interest attached ∧
        (unregisterFd srv fd).2 = true ∧
        (unregisterFd srv fd).1.sel = srv.sel.clear fd := by
  unfold unregisterFd
  by_cases hHas : ∃ interest attached,
      srv.sel.Has fd interest attached
  · right
    rcases hHas with ⟨interest, attached, hHas⟩
    refine ⟨interest, attached, hHas, ?_, ?_⟩
    · rw [hHas.registered]
    · rw [hHas.registered]
      cases attached with
      | socksListener => rfl
      | mngListener => rfl
      | socks data =>
          simp only [Attachment.data?, destroy_sel]
      | mng data =>
          simp only [Attachment.data?, destroy_sel]
  · left
    have hNone : ∀ interest attached,
        ¬ srv.sel.Has fd interest attached :=
      fun interest attached h => hHas ⟨_, _, h⟩
    refine ⟨?_, hNone⟩
    have hSlot : srv.sel.registered? fd = none := by
      unfold Selector.registered?
      split
      · rename_i hValid
        cases hItem : srv.sel.fds fd with
        | none => rfl
        | some item =>
            exact absurd ⟨hValid, hItem⟩
              (hNone item.interest item.attached)
      · rfl
    rw [hSlot]

end Socks5d
