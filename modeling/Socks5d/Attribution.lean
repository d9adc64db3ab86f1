import Socks5d.Counters
import Socks5d.MngClient

/-
  Whose name the records of a connection carry: the access
  records and the captured passwords name an entry of the
  user table by its index.

  Main declarations:
    * `Ev.RecordedFor`, `SocksTurn.records`
    * `Attributed`, `Spares`, `sparing`
    * `sparing_attributed`
-/

------------------------------------------------------------
-- Records
------------------------------------------------------------

namespace Socks5d

/- `users[userIndex].name`, as a record has it -/
def St.userName (s : St) : List UInt8 :=
  (s.srv.users.entry s.conn.userIndex).name.getD []

/- The user name that a record carries. -/
def Ev.recordOf : Ev → Option (List UInt8)
| .access user _ => some user
| .captured user _ => some user
| _ => none

/- The user name of a successful authentication -/
def Ev.loginOf : Ev → Option (List UInt8)
| .credentials user _ _ true => some user
| _ => none

/- Not an authentication, and no record of someone else. -/
def Ev.RecordedFor
    (name : List UInt8)
    (event : Ev) : Prop :=
  event.loginOf = none ∧
    ∀ user ∈ event.recordOf, user = name

/- Neither an authentication nor a record. -/
def Ev.Silent (event : Ev) : Prop :=
  event.loginOf = none ∧ event.recordOf = none

theorem Ev.Silent.recordedFor
    {event : Ev}
    (h : event.Silent)
    (name : List UInt8) : event.RecordedFor name := by
  refine ⟨h.1, ?_⟩
  intro user hUser
  rw [h.2] at hUser
  nomatch hUser

/- Only three states deal with names. -/
theorem Ev.ofState_silent
    {state : Nat}
    {event : Ev}
    (h : event.ofState state)
    (hAuth : state ≠ USERPASS_READ)
    (hConnecting : state ≠ REQUEST_CONNECTING)
    (hCopy : state ≠ COPY) : event.Silent := by
  unfold Ev.ofState at h
  split at h
  all_goals first
    | exact ⟨rfl, rfl⟩
    | exact absurd rfl hAuth
    | exact absurd rfl hConnecting
    | exact absurd rfl hCopy
    | exact h.elim

section Records

variable {k : ConnId}
variable {key : Key}
variable {a : Answers}
variable {s t u : St}
variable {c : Conn}
variable {attached : Attachment}
variable {r : St × Nat}
variable {P : Ev → Prop}

theorem replied_records
    (hQuiet : ∀ event, Ev.Silent event → P event)
    (h : c.Grows P s.conn)
    (status : SocksReplyStatus) :
    c.Grows P
      (replied s status).conn := by
  rcases replied_eq s status with ⟨wb, log, hEq, hLog⟩
  rw [hEq]
  refine h.trans ⟨log, rfl, ?_⟩
  intro event hEvent
  rw [hLog event hEvent]
  exact hQuiet _ ⟨rfl, rfl⟩

theorem answeredWith_records
    (hQuiet : ∀ event, Ev.Silent event → P event)
    (h : c.Grows P s.conn)
    (attached : Attachment)
    (status : SocksReplyStatus) :
    c.Grows P
      (answeredWith s attached status).conn := by
  rw [answeredWith_conn]
  exact replied_records hQuiet h status

theorem refusedWith_records
    (hQuiet : ∀ event, Ev.Silent event → P event)
    (h : c.Grows P s.conn)
    (attached : Attachment)
    (status : SocksReplyStatus) :
    c.Grows P
      (refusedWith s attached status).conn := by
  rw [refusedWith_conn]
  exact replied_records (s := { s with
    conn.connStatus := status }) hQuiet h status

theorem note_records
    (hQuiet : ∀ event, Ev.Silent event → P event)
    (h : c.Grows P s.conn)
    (event : Ev)
    (hEvent : event.Silent) :
    c.Grows P (s.note event).conn :=
  h.trans (.single rfl (hQuiet _ hEvent))

theorem Connection.records
    {result : St × SocksReplyStatus}
    (h : Connection key a s attached result)
    (hQuiet : ∀ event, Ev.Silent event → P event)
    (hBefore : c.Grows P s.conn) :
    c.Grows P result.1.conn := by
  have hTried : c.Grows P
      (attempted a s).conn :=
    note_records hQuiet hBefore _ ⟨rfl, rfl⟩
  cases h with
  | refused errno hAnswer =>
      exact refusedWith_records (s := { attempted a s with
        conn.request.status := errnoToSocks (some errno) })
        hQuiet hTried _ _
  | underway hAnswer hFree => exact hTried
  | blocked hAnswer hTaken =>
      exact refusedWith_records
        (s := (attempted a s).arm key.fd opNoop attached)
        hQuiet hTried attached .generalSocksServerFailure
  | atOnce hAnswer hFree => exact hTried
  | atOnceBlocked hAnswer hTaken =>
      exact refusedWith_records
        (s := (takeReference key (attempted a s)).arm key.fd
          opRead attached) hQuiet hTried attached _

theorem aimNext_records
    (h : c.Grows P s.conn)
    (next : Addrinfo)
    (rest : List Addrinfo) :
    c.Grows P
      (aimNext next rest s).conn := by
  rcases aimNext_eq next rest s with ⟨addr, hEq⟩
  rw [hEq]
  exact h

/- A record names the entry that the index points to. -/
theorem noteAccess_records
    (h : c.Grows (Ev.RecordedFor s.userName) s.conn) :
    c.Grows (Ev.RecordedFor s.userName)
      (noteAccess s).conn := by
  refine h.trans (.single rfl ⟨rfl, ?_⟩)
  intro user hUser
  exact (Option.some.inj hUser).symm

theorem ConnectingWrite.records
    (h : ConnectingWrite key a s attached r) :
    s.conn.Grows (Ev.RecordedFor s.userName) r.1.conn := by
  have hSelf : s.conn.Grows (Ev.RecordedFor s.userName)
      s.conn := .of_eq rfl
  have hQuiet : ∀ event : Ev, event.Silent →
      event.RecordedFor s.userName := fun _ hEvent =>
    hEvent.recordedFor _
  have hNoted : ∀ result left, s.conn.Grows
      (Ev.RecordedFor s.userName)
        (s.note (.soError result left)).conn := fun _ _ =>
    note_records hQuiet hSelf _ ⟨rfl, rfl⟩
  cases h with
  | nextAfterFailure next rest hStatus hNext result hResult =>
      exact hResult.records hQuiet (aimNext_records hSelf next rest)
  | gaveUp hStatus hNone =>
      refine answeredWith_records hQuiet ?_ _ _
      rw [dropOrigin_conn]
      exact .of_eq rfl
  | noAnswer hStatus hError =>
      refine answeredWith_records hQuiet ?_ _ _
      exact noteAccess_records (hNoted none _)
  | established hStatus hError hRoom =>
      refine replied_records (s := Socks5d.established (s.note
        (.soError (some none) (nextAddresses s).length)))
        hQuiet ?_ _
      exact noteAccess_records (hNoted (some none) _)
  | full hStatus hError hRoom =>
      exact noteAccess_records (hNoted (some none) _)
  | nextAfterError errno next rest hStatus hError hNext
      result hResult =>
      refine hResult.records hQuiet (aimNext_records ?_ next rest)
      exact hNoted (some (some errno)) _
  | failed errno hStatus hError hNone =>
      refine answeredWith_records hQuiet ?_ _ _
      exact noteAccess_records (hNoted (some (some errno)) _)

/- Entering `REQUEST_CONNECTING` records nothing. -/
theorem ConnectingInit.silent
    (h : ConnectingInit key a s attached u) :
    s.conn.Grows Ev.Silent u.conn := by
  have hSelf : s.conn.Grows Ev.Silent s.conn :=
    .of_eq rfl
  have hQuiet : ∀ event : Ev, event.Silent →
      event.Silent := fun _ hEvent => hEvent
  have hStarted : ∀ granted, s.conn.Grows
      Ev.Silent
        (connectingStarted granted s).conn := fun _ =>
    note_records hQuiet hSelf _ ⟨rfl, rfl⟩
  have hOpened : ∀ fd, s.conn.Grows Ev.Silent
      (withSocket key a fd
        (connectingStarted (some fd) s)).conn := fun fd =>
    (hStarted (some fd)).trans
      (.single rfl ⟨rfl, rfl⟩)
  cases h with
  | noSocket hNone =>
      exact refusedWith_records (s := { connectingStarted none
        s with conn.originFd := -1 }) hQuiet (hStarted none) _ _
  | notSet fd hSome hNio =>
      exact refusedWith_records hQuiet (hOpened fd) _ _
  | connected fd hSome hNio result hResult =>
      exact hResult.records hQuiet (hOpened fd)

/- What `copy_read` prints names the same entry. -/
theorem copyGot_records
    (side : Side)
    (bytes : List UInt8)
    (s : St) :
    s.conn.Grows (Ev.RecordedFor s.userName)
      (copyGot side bytes s).conn := by
  let noted := s.note (.recv side bytes)
  have hNoted : s.conn.Grows (Ev.RecordedFor s.userName)
      noted.conn :=
    .single rfl (Ev.Silent.recordedFor ⟨rfl, rfl⟩ _)
  have hDissected : s.conn.Grows (Ev.RecordedFor s.userName)
      (dissect bytes noted).conn := by
    unfold dissect
    split
    · refine hNoted.trans ⟨_, rfl, ?_⟩
      intro event hEvent
      rcases List.mem_cons.mp hEvent with hFirst | hRest
      · rw [hFirst]
        exact Ev.Silent.recordedFor ⟨rfl, rfl⟩ _
      · rcases List.mem_map.mp hRest with ⟨what, _, hEq⟩
        rw [← hEq]
        refine ⟨rfl, ?_⟩
        intro user hUser
        exact (Option.some.inj hUser).symm
    · exact hNoted
  have hLog : (copyGot side bytes s).conn.log =
      (dissect bytes noted).conn.log := by
    cases side <;> rfl
  exact hDissected.trans (.of_eq hLog)

theorem Relay.records
    {side : Side}
    (h : Relay side s t) :
    s.conn.Grows (Ev.RecordedFor s.userName) t.conn := by
  cases h with
  | ended =>
      have hLog := copyEnded_log side s
      exact .single hLog
        (Ev.Silent.recordedFor ⟨rfl, rfl⟩ _)
  | got bytes hSome hRoom => exact copyGot_records side bytes s
  | sendFailed =>
      have hLog := copySendFailed_log side s
      exact .single hLog
        (Ev.Silent.recordedFor ⟨rfl, rfl⟩ _)
  | sent n =>
      have hLog := copySent_log side n s
      exact .single hLog
        (Ev.Silent.recordedFor ⟨rfl, rfl⟩ _)

/- Calls after the authentication record for the entry. -/
theorem SocksTurn.records
    (h : SocksTurn k key a s r)
    (hSound : s.srv.sel.Sound)
    (hOwns : Owns k s.srv.sel s.conn)
    (hState : s.conn.current ≠ some USERPASS_READ) :
    s.conn.Grows (Ev.RecordedFor s.userName) r.1.conn := by
  cases h with
  | helloRead _ _ _ _ _ _ hCall =>
      exact hCall.logs.mono fun event hEvent =>
        (Ev.ofState_silent hEvent (by decide) (by decide)
          (by decide)).recordedFor _
  | helloWrite _ _ _ _ _ _ hCall =>
      exact hCall.logs.mono fun event hEvent =>
        (Ev.ofState_silent hEvent (by decide) (by decide)
          (by decide)).recordedFor _
  | authRead hHere => exact absurd hHere hState
  | authWrite _ _ _ _ _ hCall =>
      exact hCall.logs.mono fun event hEvent =>
        (Ev.ofState_silent hEvent (by decide) (by decide)
          (by decide)).recordedFor _
  | requestRead _ _ _ _ _ p _ _ hCall =>
      exact hCall.logs.mono fun event hEvent =>
        (Ev.ofState_silent hEvent (by decide) (by decide)
          (by decide)).recordedFor _
  | requestResolvDone _ _ _ _ p _ _ hCall =>
      exact hCall.logs.mono fun event hEvent =>
        (Ev.ofState_silent hEvent (by decide) (by decide)
          (by decide)).recordedFor _
  | connectingWrite _ _ _ _ _ _ _ hCall => exact hCall.records
  | requestWrite _ _ _ _ _ hCall =>
      exact hCall.logs.mono fun event hEvent =>
        (Ev.ofState_silent hEvent (by decide) (by decide)
          (by decide)).recordedFor _
  | relay _ hCopy hSlots side hSide hFd t hRelay =>
      have hReady := hRelay.ready hSound hOwns hCopy hSlots
      rw [copyFinish_conn hReady.1.fds hReady.2]
      exact hRelay.records

/- Before the authentication nothing is recorded. -/
theorem SocksTurn.silent
    (h : SocksTurn k key a s r)
    (hSound : s.srv.sel.Sound)
    (hOwns : Owns k s.srv.sel s.conn)
    (hState : ∀ state, s.conn.current = some state →
      state < USERPASS_READ) :
    s.conn.Grows Ev.Silent r.1.conn := by
  rcases h.logs hSound hOwns with ⟨state, hHere, hGrows⟩
  have hLt := hState state hHere
  refine hGrows.mono ?_
  intro event hEvent
  apply Ev.ofState_silent hEvent
  · exact Nat.ne_of_lt hLt
  · exact Nat.ne_of_lt (Nat.lt_trans hLt (by decide))
  · exact Nat.ne_of_lt (Nat.lt_trans hLt (by decide))

/- Entering a state records nothing. -/
theorem SocksJump.silent
    {next : Nat}
    (h : SocksJump k key a s next u) :
    s.conn.Grows Ev.Silent u.conn := by
  have hEntered : ∀ (t : St) state, t.conn.log = s.conn.log →
      s.conn.Grows Ev.Silent (entered state t).conn := by
    intro t state hLog
    have hNow : (entered state t).conn.log =
        s.conn.log ++ [.enter state] :=
      congrArg (· ++ _) hLog
    exact .single hNow ⟨rfl, rfl⟩
  cases h with
  | stay _ hState hNext => exact .of_eq rfl
  | plain _ hNext hState parser hParser => exact hEntered _ _ rfl
  | userpassRead hState =>
      refine (hEntered s USERPASS_READ rfl).trans ?_
      unfold authReadInit
      split
      · exact .of_eq rfl
      · refine .single rfl ?_
        exact ⟨rfl, rfl⟩
  | requestRead hState _ hInit =>
      refine (hEntered s REQUEST_READ rfl).trans ?_
      cases hInit with
      | ready => exact .of_eq rfl
      | starved wb site log fault hSite hLog hFault =>
          refine ⟨.outOfMemory site :: log, rfl, ?_⟩
          intro event hEvent
          rcases List.mem_cons.mp hEvent with hNew | hRest
          · rw [hNew]
            exact ⟨rfl, rfl⟩
          · rcases hLog event hRest with
              ⟨status, hEq⟩ | ⟨other, hEq⟩
            · rw [hEq]
              exact ⟨rfl, rfl⟩
            · rw [hEq]
              exact ⟨rfl, rfl⟩
  | connecting hState parser _ hInit =>
      exact (hEntered _ REQUEST_CONNECTING rfl).trans
        hInit.silent
  | copy hState =>
      exact (hEntered s COPY rfl).trans (.of_eq rfl)

end Records

end Socks5d

------------------------------------------------------------
-- Authenticated Connections
------------------------------------------------------------

namespace Socks5d

/- The connection has authenticated with the user name. -/
def Conn.LoggedIn
    (c : Conn)
    (user : List UInt8) : Prop :=
  ∃ event ∈ c.log, event.loginOf = some user

/- The index points to an entry with the user name. -/
def UserTable.HasAt
    (users : UserTable)
    (i : Nat)
    (user : List UInt8) : Prop :=
  ∃ entry, users.list[i]? = some entry ∧
    entry.name.map cString = some user

/- The connection has not got past its authentication. -/
def Conn.Early (c : Conn) : Prop :=
  ∀ state, c.current = some state → state ≤ USERPASS_READ

/-
  The records of a connection name the user that it has
  authenticated with, and later ones will: until it is closed
  its index points to that user.
-/
structure Attributed
    (users : UserTable)
    (c : Conn) : Prop where
  early : c.Early → ∀ event ∈ c.log, event.Silent
  held : ∀ user, c.LoggedIn user → ¬ c.Closed →
    users.HasAt c.userIndex user
  named : ∀ user, c.LoggedIn user →
    ∀ event ∈ c.log, ∀ other ∈ event.recordOf,
      cString other = user

section Tables

variable {users : UserTable}
variable {user : List UInt8}
variable {i : Nat}

/- An entry below the count, and its place in the list. -/
theorem UserTable.list_getElem?
    (users : UserTable)
    (i : Nat) :
    users.list[i]? =
      if i < users.count then some (users.entry i)
      else none := by
  unfold UserTable.list
  rw [List.getElem?_map]
  split
  · rename_i hLt
    rw [List.getElem?_range hLt]
    rfl
  · rename_i hNot
    rw [List.getElem?_eq_none (by
      rw [List.length_range]
      exact Nat.not_lt.mp hNot)]
    rfl

/- The entry that is pointed to is the one a record prints. -/
theorem UserTable.HasAt.name
    (h : users.HasAt i user) :
    cString ((users.entry i).name.getD []) = user := by
  rcases h with ⟨entry, hEntry, hName⟩
  rw [users.list_getElem? i] at hEntry
  split at hEntry
  · rw [Option.some.inj hEntry]
    cases hField : entry.name with
    | none =>
        rw [hField] at hName
        nomatch hName
    | some name =>
        rw [hField] at hName
        exact Option.some.inj hName
  · nomatch hEntry

/- What `checkCredentials` finds has the name. -/
theorem UserTable.HasAt.of_find
    {username password : List UInt8}
    (h : users.find? username password = some i) :
    users.HasAt i (cString username) := by
  rcases UserTable.find?_some h with ⟨hLt, hName, _⟩
  refine ⟨users.entry i, ?_, of_decide_eq_true hName⟩
  rw [users.list_getElem? i, if_pos hLt]

/- A new user is put behind the others. -/
theorem UserTable.HasAt.addUser
    (h : users.HasAt i user)
    (username password : List UInt8) :
    (addUser users username password).HasAt i user := by
  rcases h with ⟨entry, hEntry, hName⟩
  refine ⟨entry, ?_, hName⟩
  by_cases hRoom : users.count < maxUsers
  · rw [addUser_list hRoom, List.getElem?_append_left]
    · exact hEntry
    · exact (List.getElem?_eq_some_iff.mp hEntry).1
  · have hSame : Socks5d.addUser users username password =
        users := if_pos (Nat.not_lt.mp hRoom)
    rw [hSame]
    exact hEntry

/- A deletion behind an entry leaves it where it is. -/
theorem UserTable.HasAt.deleteUser
    (h : users.HasAt i user)
    {username : List UInt8}
    {users' : UserTable}
    (hDeleted : deleteUser users username = some users')
    (hSpared : ∀ entry ∈ users.list.take (i + 1),
      strcmpEq username entry.name = false) :
    users'.HasAt i user := by
  rcases h with ⟨entry, hEntry, hName⟩
  refine ⟨entry, ?_, hName⟩
  have hLt := (List.getElem?_eq_some_iff.mp hEntry).1
  have hSplit := List.take_append_drop (i + 1) users.list
  have hKept : users'.list =
      users.list.take (i + 1) ++
        (users.list.drop (i + 1)).eraseP fun entry =>
          strcmpEq username entry.name := by
    rw [deleteUser_list hDeleted]
    conv_lhs => rw [← hSplit]
    apply List.eraseP_append_right
    intro entry hMem hBad
    rw [hSpared entry hMem] at hBad
    nomatch hBad
  rw [hKept, List.getElem?_append_left, List.getElem?_take,
    if_pos (Nat.lt_succ_self i)]
  · exact hEntry
  · rw [List.length_take]
    omega

/- Only the deletion of a missing user changes nothing. -/
theorem deleteUser_missing
    {username : List UInt8}
    (h : deleteUser users username = some users) :
    ∀ entry ∈ users.list,
      strcmpEq username entry.name = false := by
  intro entry hMem
  by_contra hFound
  have hLength := congrArg List.length (deleteUser_list h)
  rw [List.length_eraseP_of_mem hMem
    (Bool.eq_true_of_not_eq_false hFound)] at hLength
  have hPos := List.length_pos_of_mem hMem
  omega

end Tables

end Socks5d

------------------------------------------------------------
-- Events Of A Connection
------------------------------------------------------------

namespace Socks5d

section Keeping

variable {k : ConnId}
variable {key : Key}
variable {a : Answers}
variable {s t u : St}
variable {c d : Conn}
variable {attached : Attachment}
variable {r : St × Nat}
variable {users : UserTable}
variable {name : List UInt8}

/- An authentication that is new has the name of the user. -/
theorem Conn.LoggedIn.before
    {user : List UInt8}
    (hGrows : c.Grows (Ev.RecordedFor name) d)
    (h : d.LoggedIn user) : c.LoggedIn user := by
  rcases h with ⟨event, hEvent, hLogin⟩
  rcases hGrows with ⟨events, hLog, hNew⟩
  rw [hLog] at hEvent
  rcases List.mem_append.mp hEvent with hOld | hAdded
  · exact ⟨event, hOld, hLogin⟩
  · rw [(hNew event hAdded).1] at hLogin
    nomatch hLogin

/- Records of the user that the index points to. -/
theorem Attributed.recorded
    (h : Attributed users c)
    (hOpen : ¬ c.Closed)
    (hGrows : c.Grows (Ev.RecordedFor name) d)
    (hName : ∀ user, users.HasAt c.userIndex user →
      cString name = user)
    (hIndex : d.userIndex = c.userIndex)
    (hEarly : d.Early → c.Early ∧ c.Grows Ev.Silent d) :
    Attributed users d := by
  constructor
  · intro hNow event hEvent
    rcases hEarly hNow with ⟨hBefore, events, hLog, hNew⟩
    rw [hLog] at hEvent
    rcases List.mem_append.mp hEvent with hOld | hAdded
    · exact h.early hBefore event hOld
    · exact hNew event hAdded
  · intro user hLogged _
    rw [hIndex]
    exact h.held user (hLogged.before hGrows) hOpen
  · intro user hLogged event hEvent other hOther
    have hBefore := hLogged.before hGrows
    rcases hGrows with ⟨events, hLog, hNew⟩
    rw [hLog] at hEvent
    rcases List.mem_append.mp hEvent with hOld | hAdded
    · exact h.named user hBefore event hOld other hOther
    · rw [(hNew event hAdded).2 other hOther]
      exact hName user (h.held user hBefore hOpen)

/- Events that record nothing. -/
theorem Attributed.quiet
    (h : Attributed users c)
    (hOpen : ¬ c.Closed)
    (hGrows : c.Grows Ev.Silent d)
    (hIndex : d.userIndex = c.userIndex)
    (hEarly : d.Early → c.Early) : Attributed users d := by
  have hNamed : c.Grows (Ev.RecordedFor
      ((users.entry c.userIndex).name.getD [])) d :=
    hGrows.mono fun event hEvent => hEvent.recordedFor _
  refine h.recorded hOpen hNamed ?_ hIndex ?_
  · intro user hAt
    exact hAt.name
  · intro hNow
    exact ⟨hEarly hNow, hGrows⟩

/- An event of an authentication with the user. -/
def Ev.LogsIn
    (user : List UInt8)
    (event : Ev) : Prop :=
  event.recordOf = none ∧
    ∀ other ∈ event.loginOf, other = user

theorem Ev.Silent.logsIn
    {event : Ev}
    (h : event.Silent)
    (user : List UInt8) : event.LogsIn user := by
  refine ⟨h.2, ?_⟩
  intro other hOther
  rw [h.1] at hOther
  nomatch hOther

/- A first authentication. -/
theorem Attributed.login
    {user : List UInt8}
    (h : Attributed users c)
    (hEarly : c.Early)
    (hGrows : c.Grows (Ev.LogsIn user) d)
    (hAt : users.HasAt d.userIndex user)
    (hLate : ¬ d.Early) : Attributed users d := by
  have hAll : ∀ event ∈ d.log, event.LogsIn user := by
    intro event hEvent
    rcases hGrows with ⟨events, hLog, hNew⟩
    rw [hLog] at hEvent
    rcases List.mem_append.mp hEvent with hOld | hAdded
    · exact (h.early hEarly event hOld).logsIn user
    · exact hNew event hAdded
  constructor
  · intro hBad
    exact absurd hBad hLate
  · intro other hLogged _
    rcases hLogged with ⟨event, hEvent, hLogin⟩
    rw [(hAll event hEvent).2 other hLogin]
    exact hAt
  · intro other _ event hEvent record hRecord
    rw [(hAll event hEvent).1] at hRecord
    nomatch hRecord

/- What the comparison with the table leaves. -/
theorem AuthProcess.attribution
    (h : AuthProcess s r)
    (hSocks : s.conn.isSocks = true) :
    (s.conn.Grows Ev.Silent r.1.conn ∧
        r.1.conn.userIndex = s.conn.userIndex) ∨
      (r.2 = USERPASS_WRITE ∧ ∃ user,
        s.conn.Grows (Ev.LogsIn user) r.1.conn ∧
          s.srv.users.HasAt r.1.conn.userIndex user) := by
  cases h with
  | accepted username password i userIndex hUser hPass hFound
      hIndex =>
      have hTable : credentialTable s = s.srv.users :=
        if_pos hSocks
      rw [hTable] at hFound
      right
      refine ⟨rfl, cString username, ?_, ?_⟩
      · refine .single rfl ⟨rfl, ?_⟩
        intro other hOther
        exact (Option.some.inj hOther).symm
      · show s.srv.users.HasAt userIndex _
        rw [hIndex hSocks]
        exact .of_find hFound
  | denied username password =>
      left
      refine ⟨.single rfl ?_, rfl⟩
      exact ⟨rfl, rfl⟩
  | noEntries => exact Or.inl ⟨.of_eq rfl, rfl⟩
  | crashed hMissing => exact Or.inl ⟨.of_eq rfl, rfl⟩

/- What `auth_read` leaves: nothing, or an authentication. -/
theorem AuthRead.attribution
    (h : AuthRead key a s attached r)
    (hSocks : s.conn.isSocks = true) :
    (s.conn.Grows Ev.Silent r.1.conn ∧
        r.1.conn.userIndex = s.conn.userIndex) ∨
      (USERPASS_READ < r.2 ∧ ∃ user,
        s.conn.Grows (Ev.LogsIn user) r.1.conn ∧
          s.srv.users.HasAt r.1.conn.userIndex user) := by
  have hError : USERPASS_READ < s.conn.errorState := by
    rw [(Conn.ends_socks hSocks).1]
    decide
  have hFed : ∀ bytes, s.conn.Grows Ev.Silent
      ((authFed key bytes s).1.arm key.fd opWrite
        attached).conn := by
    intro bytes
    refine .single rfl ?_
    exact ⟨rfl, rfl⟩
  have hAsked : ∀ bytes (processed : St × Nat),
      AuthProcess ((authFed key bytes s).1.arm key.fd opWrite
        attached) processed →
      (s.conn.Grows Ev.Silent processed.1.conn ∧
          processed.1.conn.userIndex = s.conn.userIndex) ∨
        (processed.2 = USERPASS_WRITE ∧ ∃ user,
          s.conn.Grows (Ev.LogsIn user) processed.1.conn ∧
            s.srv.users.HasAt processed.1.conn.userIndex
              user) := by
    intro bytes processed hProcess
    rcases hProcess.attribution hSocks with
      ⟨hQuiet, hIndex⟩ | ⟨hNext, user, hLogin, hAt⟩
    · exact Or.inl ⟨(hFed bytes).trans hQuiet, hIndex⟩
    · refine Or.inr ⟨hNext, user, ?_, hAt⟩
      exact ((hFed bytes).mono fun event hEvent =>
        hEvent.logsIn user).trans hLogin
  cases h with
  | failed hFailed => exact Or.inl ⟨.of_eq rfl, rfl⟩
  | ended hBytes =>
      left
      refine ⟨.single rfl ?_, rfl⟩
      exact ⟨rfl, rfl⟩
  | more bytes hBytes hSome hGoing =>
      left
      refine ⟨.single rfl ?_, rfl⟩
      exact ⟨rfl, rfl⟩
  | rejected bytes hBytes processed hProcess =>
      rcases hAsked bytes processed hProcess with
        hQuiet | ⟨_, hLogin⟩
      · exact Or.inl hQuiet
      · exact Or.inr ⟨hError, hLogin⟩
  | answered bytes hBytes hSome hDone processed hProcess =>
      rcases hAsked bytes _ hProcess with
        hQuiet | ⟨hNext, hLogin⟩
      · exact Or.inl hQuiet
      · rw [hNext]
        exact Or.inr ⟨by decide, hLogin⟩

/- Only the authentication sets the index. -/
theorem SocksTurn.userIndex
    (h : SocksTurn k key a s r)
    (hSound : s.srv.sel.Sound)
    (hOwns : Owns k s.srv.sel s.conn)
    (hState : s.conn.current ≠ some USERPASS_READ) :
    r.1.conn.userIndex = s.conn.userIndex := by
  cases h with
  | helloRead _ _ _ _ _ _ hCall => cases hCall <;> rfl
  | helloWrite _ _ _ _ _ _ hCall => cases hCall <;> rfl
  | authRead hHere => exact absurd hHere hState
  | authWrite _ _ _ _ _ hCall =>
      rcases authReply_eq s with ⟨wb, hReply⟩
      cases hCall <;> (rw [hReply]; rfl)
  | requestRead _ _ _ _ _ p _ _ hCall =>
      cases hCall with
      | ended hBytes => rfl
      | more bytes hBytes hSome hGoing => rfl
      | processed bytes hBytes hSome hDone _ hResult =>
          exact hResult.steady.userIndex
  | requestResolvDone _ _ _ _ p _ _ hCall =>
      exact hCall.steady.userIndex
  | connectingWrite _ _ _ _ _ _ _ hCall =>
      exact hCall.steady.userIndex
  | requestWrite _ _ _ _ _ hCall =>
      exact hCall.steady.userIndex
  | relay _ hCopy hSlots side hSide hFd t hRelay =>
      have hReady := hRelay.ready hSound hOwns hCopy hSlots
      rw [copyFinish_conn hReady.1.fds hReady.2]
      have hShut : ∀ own theirs : Interest → Interest,
          (copyShut own theirs side s.conn).userIndex =
            s.conn.userIndex := by
        intro own theirs
        rcases copyShut_eq side s.conn own theirs with
          ⟨_, _, hEq⟩
        rw [hEq]
      cases hRelay with
      | ended => exact hShut _ _
      | got bytes hSome hRoom =>
          have hDissected : (dissect bytes
              (s.note (.recv side bytes))).conn.userIndex =
                s.conn.userIndex := by
            unfold dissect
            split
            · rfl
            · rfl
          cases side with
          | client => exact hDissected
          | origin => exact hDissected
      | sendFailed => exact hShut _ _
      | sent n =>
          cases side with
          | client => rfl
          | origin => rfl

theorem SocksJump.userIndex
    {next : Nat}
    (h : SocksJump k key a s next u) :
    u.conn.userIndex = s.conn.userIndex := by
  cases h with
  | stay _ hState hNext => rfl
  | plain _ hNext hState parser hParser => rfl
  | userpassRead hState =>
      unfold authReadInit
      split
      · rfl
      · rfl
  | requestRead hState _ hInit =>
      exact hInit.steady.userIndex
  | connecting hState parser _ hInit =>
      exact hInit.steady.userIndex
  | copy hState => rfl

/- A connection only moves on to later states. -/
theorem SocksHeading.forward
    {sel : Selector}
    {next state : Nat}
    (h : SocksHeading k sel c next)
    (hState : c.current = some state)
    (hNext : next ≤ COPY) : state ≤ next := by
  have hIs : ∀ other, c.current = some other →
      state = other := fun other hOther =>
    Option.some.inj (hState.symm.trans hOther)
  cases h with
  | stay _ hHere => exact Nat.le_of_eq (hIs _ hHere)
  | helloWrite hHere => rw [hIs _ hHere]; decide
  | userpassRead hHere => rw [hIs _ hHere]; decide
  | userpassWrite hHere => rw [hIs _ hHere]; decide
  | requestRead hHere =>
      rcases hHere with hHello | hUser
      · rw [hIs _ hHello]
        decide
      · rw [hIs _ hUser]
        decide
  | resolving hHere => rw [hIs _ hHere]; decide
  | connecting hHere =>
      rcases hHere with hRead | hResolv
      · rw [hIs _ hRead]
        decide
      · rw [hIs _ hResolv]
        decide
  | requestWrite hHere =>
      rcases hHere with hRead | hResolv | hConnecting
      · rw [hIs _ hRead]
        decide
      · rw [hIs _ hResolv]
        decide
      · rw [hIs _ hConnecting]
        decide
  | copy hHere => rw [hIs _ hHere]; decide
  | ends _ hOver =>
      rcases hOver with hDone | hError
      · rw [hDone] at hNext
        exact absurd hNext (by decide)
      · rw [hError] at hNext
        exact absurd hNext (by decide)

/- A call and the jump that follows it. -/
theorem Attributed.turn
    (h : Attributed s.srv.users s.conn)
    (hSocks : s.conn.isSocks = true)
    (hOpen : ¬ s.conn.Closed)
    (hSound : s.srv.sel.Sound)
    (hOwns : Owns k s.srv.sel s.conn)
    (hTurn : SocksTurn k key a s r)
    (hJump : SocksJump k key a r.1 r.2 u) :
    Attributed s.srv.users u.conn := by
  have hCurrent := hTurn.current hSound hOwns
  have hHeading := (hTurn.heading hSound hOwns hSocks).2
  have hJumped := hJump.silent
  have hEarly : u.conn.Early →
      r.2 ≤ USERPASS_READ ∧ s.conn.Early := by
    intro hNow
    have hLe := hNow r.2 hJump.enters
    refine ⟨hLe, ?_⟩
    intro state hState
    exact Nat.le_trans (hHeading.forward
      (hCurrent.trans hState)
        (Nat.le_trans hLe (by decide))) hLe
  by_cases hAuth : s.conn.current = some USERPASS_READ
  · have hHere : s.conn.Early := by
      intro state hState
      rw [hAuth] at hState
      exact Nat.le_of_eq (Option.some.inj hState).symm
    have hRead : AuthRead key a s (.socks k) r := by
      cases hTurn with
      | authRead _ _ _ _ _ hCall => exact hCall
      | helloRead hBad => nomatch hAuth.symm.trans hBad
      | helloWrite hBad => nomatch hAuth.symm.trans hBad
      | authWrite hBad => nomatch hAuth.symm.trans hBad
      | requestRead hBad => nomatch hAuth.symm.trans hBad
      | requestResolvDone hBad =>
          nomatch hAuth.symm.trans hBad
      | connectingWrite hBad => nomatch hAuth.symm.trans hBad
      | requestWrite hBad => nomatch hAuth.symm.trans hBad
      | relay hBad => nomatch hAuth.symm.trans hBad
    rcases hRead.attribution hSocks with
      ⟨hQuiet, hIndex⟩ | ⟨hLater, user, hLogin, hAt⟩
    · exact h.quiet hOpen (hQuiet.trans hJumped)
        (hJump.userIndex.trans hIndex) fun _ => hHere
    · refine h.login hHere (hLogin.trans (hJumped.mono
        fun event hEvent => hEvent.logsIn user)) ?_ ?_
      · rw [hJump.userIndex]
        exact hAt
      · intro hNow
        exact absurd (hEarly hNow).1 (Nat.not_le.mpr hLater)
  · refine h.recorded hOpen
      ((hTurn.records hSound hOwns hAuth).trans (hJumped.mono
        fun event hEvent => hEvent.recordedFor _))
      (fun user hAt => hAt.name)
      (hJump.userIndex.trans
        (hTurn.userIndex hSound hOwns hAuth)) ?_
    intro hNow
    rcases hEarly hNow with ⟨_, hBefore⟩
    refine ⟨hBefore, (hTurn.silent hSound hOwns ?_).trans
      hJumped⟩
    intro state hState
    refine Nat.lt_of_le_of_ne (hBefore state hState) ?_
    intro hEq
    rw [hEq] at hState
    exact hAuth hState

/- An event of a SOCKS connection. -/
theorem Attributed.socksEvent
    (h : Attributed s.srv.users s.conn)
    (hSocks : s.conn.isSocks = true)
    (hOpen : ¬ s.conn.Closed)
    (hSound : s.srv.sel.Sound)
    (hOwns : Owns k s.srv.sel s.conn)
    (hEvent : SocksEvent k key a s t) :
    Attributed s.srv.users t.conn := by
  cases hEvent with
  | going r u hTurn hJump hNext =>
      exact h.turn hSocks hOpen hSound hOwns hTurn hJump
  | ends r u hTurn hJump hNext =>
      rw [socksv5Done_conn]
      exact h.turn hSocks hOpen hSound hOwns hTurn hJump
  | stuck hWhy => exact h

/- Starting the machine records nothing. -/
theorem first_open
    (hOpen : ¬ s.conn.Closed)
    (hSocks : s.conn.isSocks = true)
    (key : Key)
    (a : Answers) :
    ¬ (handleFirst clientStatbl key a s).conn.Closed := by
  have hService := (first_conn clientStatbl rfl key a
    s).trans hSocks
  rw [handleFirst_eq rfl] at hService ⊢
  split at hService
  · rename_i hNone
    rw [if_pos hNone]
    have hState : (helloReadInit key a
        (entered HELLO_READ s)).conn.current =
          some HELLO_READ := by
      unfold helloReadInit
      split
      · rfl
      · rfl
    exact not_closed_of_le hService hState (by decide)
  · rename_i hSome
    rw [if_neg hSome]
    exact hOpen

theorem Attributed.first
    (h : Attributed users s.conn)
    (hOpen : ¬ s.conn.Closed)
    (key : Key)
    (a : Answers) :
    Attributed users
      (handleFirst clientStatbl key a s).conn := by
  rw [handleFirst_eq rfl]
  split
  · rename_i hNone
    refine h.quiet hOpen ?_ ?_ ?_
    · have hEntered : s.conn.Grows Ev.Silent
          (entered HELLO_READ s).conn :=
        .single rfl ⟨rfl, rfl⟩
      refine hEntered.trans ?_
      unfold helloReadInit
      split
      · refine .single rfl ?_
        exact ⟨rfl, rfl⟩
      · refine .single rfl ?_
        exact ⟨rfl, rfl⟩
    · unfold helloReadInit
      split
      · rfl
      · rfl
    · intro _ state hState
      rw [hNone] at hState
      nomatch hState
  · exact h

end Keeping

end Socks5d

------------------------------------------------------------
-- Changes Of The Table
------------------------------------------------------------

namespace Socks5d

/- What one request can do to the table. -/
def UserTable.Edits (t t' : UserTable) : Prop :=
  t' = t ∨
    (∃ username password, t' = addUser t username password) ∨
    ∃ username, deleteUser t username = some t'

section Editing

variable {k : ConnId}
variable {key : Key}
variable {a : Answers}
variable {s t u : St}
variable {r : St × Nat}

theorem statusMngMarshal_users
    (s : St)
    (status : MngReplyStatus) :
    (statusMngMarshal s status).srv.users = s.srv.users :=
  congrArg Prod.fst (marshal_settings s 1 [status.code])

theorem processMngParamsRequest_users
    (s : St) :
    s.srv.users.Edits
      (processMngParamsRequest s).srv.users := by
  unfold processMngParamsRequest
  simp only []
  split
  · split
    · exact Or.inl (statusMngMarshal_users _ _)
    · right
      left
      exact ⟨_, _, statusMngMarshal_users _ _⟩
  · split
    · exact Or.inl rfl
    · rename_i users hDeleted
      right
      right
      rw [statusMngMarshal_users]
      exact ⟨_, hDeleted⟩
  · exact Or.inl (statusMngMarshal_users _ _)
  · exact Or.inl (statusMngMarshal_users _ _)
  · exact Or.inl (statusMngMarshal_users _ _)

theorem MngTurn.users
    (h : MngTurn k key a s r) :
    s.srv.users.Edits r.1.srv.users := by
  cases h with
  | helloRead _ _ _ _ _ hCall =>
      left
      cases hCall <;> rfl
  | helloWrite _ _ _ _ _ hCall =>
      left
      cases hCall <;> rfl
  | authRead _ _ _ hCall =>
      left
      cases hCall with
      | failed hFailed => rfl
      | ended hBytes => rfl
      | more bytes hBytes hSome hGoing => rfl
      | rejected bytes hBytes processed hProcess =>
          exact hProcess.shared.users
      | answered bytes hBytes hSome hDone processed
          hProcess =>
          exact hProcess.shared.users
  | authWrite _ _ _ hCall =>
      left
      rcases authReply_eq s with ⟨wb, hReply⟩
      cases hCall <;> (rw [hReply]; rfl)
  | request state hState _ hShape _ _ hHandled hFd =>
      cases hHandled with
      | index =>
          exact Or.inl (congrArg Prod.fst
            (mngRequestIndexRead_settings _ _ _))
      | answer =>
          exact Or.inl (congrArg Prod.fst
            (mngRequestWrite_settings _ _ _))
      | params =>
          rcases hShape.client_has with ⟨interest, hClient⟩
          rw [← hFd] at hClient
          have hOutcome := mngRequestRead_outcome hClient a
          generalize mngRequestRead key a s = result
            at hOutcome
          cases hOutcome with
          | refused =>
              exact Or.inl (congrArg Prod.fst
                (mngRefuse_settings key _ s))
          | ended => exact Or.inl rfl
          | more => exact Or.inl rfl
          | failed => exact Or.inl rfl
          | applied =>
              exact processMngParamsRequest_users
                ((mngFed key (s.recvBytes a) s).arm key.fd
                  opWrite (.mng k))

/- A management event edits the table once at most. -/
theorem MngEvent.users
    (h : MngEvent k key a s t) :
    s.srv.users.Edits t.srv.users := by
  cases h with
  | going r _ hTurn hJump hNext =>
      have hSame : t.srv.users = r.1.srv.users :=
        congrArg Prod.fst hJump.settings
      rw [hSame]
      exact hTurn.users
  | ends r u hTurn hJump hNext =>
      have hDone : (mngDone u).srv.users = u.srv.users :=
        (doneFd_shared u.conn.clientFd u).users
      have hSame : u.srv.users = r.1.srv.users :=
        congrArg Prod.fst hJump.settings
      rw [hDone, hSame]
      exact hTurn.users

end Editing

/-
  The step does not delete a user at or in front of an entry
  that a connection is using: one that has authenticated and
  is not closed.
-/
def Spares (w w' : World) : Prop :=
  ∀ username,
    deleteUser w.srv.users username = some w'.srv.users →
      ∀ k < w.next, (w.conn k).isSocks = true →
        ¬ (w.conn k).Closed →
          (∃ user, (w.conn k).LoggedIn user) →
            ∀ entry ∈ w.srv.users.list.take
                ((w.conn k).userIndex + 1),
              strcmpEq username entry.name = false

/- The server in runs whose deletions spare such entries. -/
def sparing : Machine World Label where
  init := Initial
  step w l w' := server.step w l w' ∧ Spares w w'

end Socks5d

------------------------------------------------------------
-- Runs
------------------------------------------------------------

namespace Socks5d

/- Every SOCKS connection is attributed. -/
def World.AllAttributed (w : World) : Prop :=
  ∀ k < w.next, (w.conn k).isSocks = true →
    Attributed w.srv.users (w.conn k)

section Runs

variable {w w' : World}
variable {k : ConnId}

/- A step that leaves the table alone spares everyone. -/
theorem Spares.of_same
    (h : w'.srv.users = w.srv.users) : Spares w w' := by
  intro username hDeleted k _ _ _ _ entry hEntry
  rw [h] at hDeleted
  exact deleteUser_missing hDeleted entry
    (List.mem_of_mem_take hEntry)

/- What happens to a connection, with the table as it was. -/
theorem Attributed.change
    (hInv : Inv w)
    (hBefore : w.AllAttributed)
    (hChange : Change w k w')
    (hSocks : (w'.conn k).isSocks = true) :
    Attributed w.srv.users (w'.conn k) := by
  cases hChange with
  | same hOld hConn =>
      rw [hConn] at hSocks ⊢
      exact hBefore k hOld hSocks
  | born isSocks client hNew hConn =>
      rw [hConn]
      constructor
      · intro _ event hEvent
        nomatch hEvent
      · intro user hLogged
        rcases hLogged with ⟨event, hEvent, _⟩
        nomatch hEvent
      · intro user _ event hEvent
        nomatch hEvent
  | resolution addresses hOld hState hConn =>
      rw [hConn] at hSocks ⊢
      have hHere := hBefore k hOld hSocks
      exact ⟨hHere.early, hHere.held, hHere.named⟩
  | socks key a t hLive hIsSocks hEvent hConn =>
      rcases hInv.first hLive clientStatbl rfl key
        a with ⟨hSrv, hSound, hOwns⟩
      have hHere := (hBefore k hLive.1 hIsSocks).first
        (s := w.view k) hLive.2 key a
      have hService := (first_conn clientStatbl rfl key a
        (w.view k)).trans hIsSocks
      rw [hConn]
      rw [← hSrv] at hHere ⊢
      exact hHere.socksEvent hService
        (first_open (s := w.view k) hLive.2 hIsSocks key a)
        hSound hOwns hEvent
  | mng key a t hLive hMng hEvent hConn =>
      have hService := hEvent.service.trans
        (first_conn clientMng rfl key a (w.view k))
      rw [hConn, hService] at hSocks
      exact absurd (hMng.symm.trans hSocks) (by decide)
  | block job rest a t hStarter hWaits hEvent hConn =>
      rw [hConn]
      subst hStarter
      have hHere := hBefore _ hWaits.accepted hWaits.service
      have hOpen := hWaits.live.2
      have hNoted : Attributed w.srv.users
          (w.notified job rest).conn :=
        hHere.quiet hOpen (.single rfl ⟨rfl, rfl⟩) rfl id
      exact Attributed.socksEvent (s := w.notified job rest)
        hNoted hWaits.service hOpen hInv.sound
        ((hInv.wired _ hWaits.live).owns.of_eq rfl rfl rfl)
        hEvent

/- A small step changes one connection, or edits the table. -/
theorem Micro.edits
    (h : Micro w w')
    (hInv : Inv w) :
    w'.srv.users = w.srv.users ∨
      (w.srv.users.Edits w'.srv.users ∧
        ∀ k < w'.next, (w'.conn k).isSocks = true →
          k < w.next ∧ w'.conn k = w.conn k) := by
  cases h with
  | accepted => exact Or.inl rfl
  | socks k key a interest t hLive hSocks hKey hArmed hEvent
      hAfter =>
      left
      rcases hInv.first hLive clientStatbl rfl key
        a with ⟨hSrv, hSound, hOwns⟩
      show t.srv.users = w.srv.users
      rw [← hSrv]
      cases hEvent.threads hSound hOwns with
      | same hSame => exact hSame.users
      | started request hSame => exact hSame.users
  | mng k key a t hLive hMng hEvent hAfter =>
      right
      rcases hInv.first hLive clientMng rfl key a
        with ⟨hSrv, _⟩
      refine ⟨?_, ?_⟩
      · rw [← hSrv]
        exact hEvent.users
      · intro j hLt hSocks
        refine ⟨hLt, w.put_conn_of_ne t ?_⟩
        intro hEq
        have hService := hEvent.service.trans
          (first_conn clientMng rfl key a (w.view k))
        rw [hEq, w.put_conn_self k t, hService] at hSocks
        exact absurd (hMng.symm.trans hSocks) (by decide)
  | block job rest a t hJobs hWaits hEvent hAfter =>
      left
      have hOwns := (hInv.wired _ hWaits.live).owns
      show t.srv.users = w.srv.users
      cases hEvent.threads hInv.sound
          (hOwns.of_eq rfl rfl rfl) with
      | same hSame => exact hSame.users
      | started request hSame => exact hSame.users
  | threadStart => exact Or.inl rfl
  | threadDone => exact Or.inl rfl

/- An edit that spares the entry of the connection. -/
theorem Attributed.edit
    (h : Attributed w.srv.users (w.conn k))
    (hOld : k < w.next)
    (hSocks : (w.conn k).isSocks = true)
    (hEdits : w.srv.users.Edits w'.srv.users)
    (hSpares : Spares w w') :
    Attributed w'.srv.users (w.conn k) := by
  refine ⟨h.early, ?_, h.named⟩
  intro user hLogged hOpen
  have hHere := h.held user hLogged hOpen
  rcases hEdits with hSame | ⟨username, password, hAdded⟩ |
    ⟨username, hDeleted⟩
  · rw [hSame]
    exact hHere
  · rw [hAdded]
    exact hHere.addUser username password
  · exact hHere.deleteUser hDeleted (hSpares username hDeleted
      k hOld hSocks hOpen ⟨user, hLogged⟩)

theorem Micro.attributed
    (h : Micro w w')
    (hInv : Inv w)
    (hSpares : Spares w w')
    (hBefore : w.AllAttributed) : w'.AllAttributed := by
  intro k hLt hSocks
  rcases h.edits hInv with hSame | ⟨hEdits, hOthers⟩
  · rw [hSame]
    exact Attributed.change hInv hBefore (h.change hLt) hSocks
  · rcases hOthers k hLt hSocks with ⟨hOld, hConn⟩
    rw [hConn] at hSocks ⊢
    exact (hBefore k hOld hSocks).edit hOld hSocks hEdits
      hSpares

/- A step of the server that spares the entries in use. -/
theorem Inv.exec_attributed
    (h : Inv w)
    (hReading : ∀ k < w.next, MngReading (w.conn k))
    (hBefore : w.AllAttributed)
    {l : Label}
    (hEnabled : Enabled w l = true)
    (hSpares : Spares w (exec w l)) :
    (exec w l).AllAttributed := by
  rcases h.exec_cases hReading hEnabled with hSame | hMicro |
    hQuiet
  · rw [hSame]
    exact hBefore
  · exact hMicro.attributed h hSpares hBefore
  · refine (h.quiet_keeps ?_ hQuiet hBefore).2
    intro w w' hInv hMicro hSame hHere
    exact hMicro.attributed hInv
      (.of_same (congrArg Prod.fst hSame)) hHere

/- A sparing run is a run. -/
theorem sparing_reachable
    (h : sparing.Reachable w) : server.Reachable w := by
  induction h with
  | init hInit => exact .init hInit
  | step _ hStep ih => exact ih.step hStep.1

/-
  In a run that never deletes a user at or in front of an
  entry in use, the records of a SOCKS connection name the
  user that it has authenticated with.
-/
theorem sparing_attributed
    (h : sparing.Reachable w)
    (hOld : k < w.next)
    (hSocks : (w.conn k).isSocks = true)
    {user : List UInt8}
    (hLogged : (w.conn k).LoggedIn user)
    {event : Ev}
    (hEvent : event ∈ (w.conn k).log)
    {other : List UInt8}
    (hRecord : event.recordOf = some other) :
    cString other = user := by
  have hAll := Machine.Reachable.strengthen
    (P := fun w => w.AllAttributed)
    (fun _ hReach => sparing_reachable hReach) ?_ ?_ h
  · exact (hAll k hOld hSocks).named user hLogged event hEvent
      other hRecord
  · intro w hInit k hLt
    rw [hInit.next] at hLt
    exact absurd hLt (Nat.not_lt_zero _)
  · rintro w l w' hReach hBefore
      ⟨⟨hEnabled, hEq⟩, hSpares⟩
    rw [hEq] at hSpares ⊢
    refine (reachable_inv hReach).exec_attributed ?_ hBefore
      hEnabled hSpares
    intro j hLt
    exact conn_invariant mngReading_preserved hReach hLt

end Runs

end Socks5d

------------------------------------------------------------
-- A Run
------------------------------------------------------------

namespace Socks5d

/- Two users that were given with `-u`, and an administrator. -/
def namedServer : World :=
  smallServer methodUsernamePassword
    ((UserTable.push ⟨fun _ => {}, 0⟩
      { name := some [0x61], pass := some [0x70] }).push
      { name := some [0x62], pass := some [0x70] })
    (addUser ⟨fun _ => {}, 0⟩ [0x61] [0x62])

/- A user authenticates. -/
def loginRun (name : UInt8) : List Label := [
  .read 3 { accept := some 5 },
  .read 5 { recv := some [5, 1, 2] },
  .write 5 { send := some 100 },
  .read 5 { recv := some [1, 1, name, 1, 0x70] },
  .write 5 { send := some 100 }]

/- The connection gets to its origin. -/
def accessRun : List Label := [
  .read 5 {
    recv := some [5, 1, 0, 1, 127, 0, 0, 1, 0, 80]
    socket := some 7 },
  .write 7 {}]

/- The administrator changes the users, over a socket. -/
def editRun
    (fd : Fd)
    (index : UInt8)
    (params : List UInt8) : List Label := [
  .read 4 { accept := some fd },
  .read fd { recv := some [1, 1, 2] },
  .write fd { send := some 100 },
  .read fd { recv := some [1, 1, 0x61, 1, 0x62] },
  .write fd { send := some 100 },
  .read fd { recv := some [index] },
  .read fd { recv := some params }]

/- Three users are added behind the first two. -/
def enrolRun : List Label :=
  editRun 6 MngIndex.addUser [1, 0x63, 1, 0x70] ++
    editRun 8 MngIndex.addUser [1, 0x64, 1, 0x70] ++
      editRun 9 MngIndex.addUser [1, 0x65, 1, 0x70]

/- The first one of these is deleted. -/
def deletionRun : List Label :=
  editRun 10 MngIndex.deleteUser [1, 0x63]

theorem namedServer_initial : Initial namedServer :=
  smallServer_initial _ _ (by decide) (Or.inr rfl)

/-
  No two entries of the table are equal, and those up to the
  index of any SOCKS connection stay as they are.
-/
def World.KeepsUsed (w w' : World) : Prop :=
  w.srv.users.list.Nodup ∧
    ∀ k < w.next, (w.conn k).isSocks = true →
      w'.srv.users.list.take ((w.conn k).userIndex + 1) =
        w.srv.users.list.take ((w.conn k).userIndex + 1)

/- An entry that is deleted is not among those that stay. -/
theorem World.KeepsUsed.spares
    {w w' : World}
    (h : w.KeepsUsed w') : Spares w w' := by
  intro username hDeleted k hOld hSocks _ _ entry hEntry
  by_contra hNamed
  rw [Bool.not_eq_false] at hNamed
  have hSame := h.2 k hOld hSocks
  have hNodup := h.1
  generalize (w.conn k).userIndex + 1 = n at hEntry hSame
  rw [deleteUser_list hDeleted] at hSame
  generalize w.srv.users.list = entries at *
  rcases List.exists_of_eraseP (p := fun entry =>
      strcmpEq username entry.name) hEntry hNamed with
    ⟨gone, front, behind, _, _, hTake, hErased⟩
  have hSplit : entries =
      front ++ gone :: (behind ++ entries.drop n) := by
    rw [← List.cons_append, ← List.append_assoc, ← hTake,
      List.take_append_drop]
  have hLeft : entries.eraseP (fun entry =>
      strcmpEq username entry.name) =
        front ++ (behind ++ entries.drop n) := by
    have hWhole := List.eraseP_append_left
      (p := fun entry => strcmpEq username entry.name)
      hNamed (entries.drop n) hEntry
    rw [List.take_append_drop, hErased,
      List.append_assoc] at hWhole
    exact hWhole
  have hStays : gone ∈ front ++ (behind ++ entries.drop n) := by
    rw [← hLeft]
    apply List.mem_of_mem_take (i := n)
    rw [hSame, hTake]
    exact List.mem_append_right _ List.mem_cons_self
  rw [hSplit] at hNodup
  exact (List.nodup_middle.mp hNodup).notMem hStays

/- A run whose steps keep what is in use is a sparing one. -/
theorem sparing_runTo
    (labels : List Label)
    {w : World}
    (h : sparing.Reachable w)
    (hKept : ∀ n < labels.length,
      (runTo (labels.take n) w).KeepsUsed
        (runTo (labels.take (n + 1)) w)) :
    sparing.Reachable (runTo labels w) := by
  induction labels generalizing w with
  | nil => exact h
  | cons l rest ih =>
      have hRest : ∀ n < rest.length,
          (runTo (rest.take n) (runTo [l] w)).KeepsUsed
            (runTo (rest.take (n + 1)) (runTo [l] w)) :=
        fun n hLt => hKept (n + 1) (Nat.succ_lt_succ hLt)
      refine ih (w := runTo [l] w) ?_ hRest
      have hFirst := (hKept 0 (Nat.succ_pos _)).spares
      show sparing.Reachable
        (if Enabled w l then exec w l else w)
      split
      · rename_i hEnabled
        refine h.step (l := l) ⟨⟨hEnabled, rfl⟩, ?_⟩
        have hNext : runTo [l] w = exec w l := if_pos hEnabled
        rw [← hNext]
        exact hFirst
      · exact h

/-
  Users are added behind the index and one of them is deleted,
  and the second user gets an access record.
-/
theorem sparing_attributed_login :
    let w := runTo (loginRun 0x62 ++ enrolRun ++
      deletionRun ++ accessRun) namedServer
    w.srv.users ≠ namedServer.srv.users ∧
      (∃ event ∈ (w.conn 0).log, ∃ other,
        event.recordOf = some other) ∧
      ∀ event ∈ (w.conn 0).log, ∀ other,
        event.recordOf = some other →
          cString other = [0x62] := by
  intro w
  have hReach : sparing.Reachable w := by
    refine sparing_runTo _ (.init namedServer_initial) ?_
    unfold World.KeepsUsed
    decide +kernel
  have hLogged : (w.conn 0).LoggedIn [0x62] := by
    unfold Conn.LoggedIn
    decide +kernel
  refine ⟨?_, ?_, ?_⟩
  · intro hSame
    have hLists := congrArg UserTable.list hSame
    revert hLists
    decide +kernel
  · have hRecord : ∃ event ∈ (w.conn 0).log,
        event.recordOf = some [0x62] := by
      decide +kernel
    rcases hRecord with ⟨event, hEvent, hSome⟩
    exact ⟨event, hEvent, [0x62], hSome⟩
  · intro event hEvent other hRecord
    exact sparing_attributed hReach (by decide +kernel)
      (by decide +kernel) hLogged hEvent hRecord

/-
  After the deletion the record of the fourth user names the
  fifth.
-/
theorem deletion_misattributes :
    let w := runTo (enrolRun ++ loginRun 0x64 ++
      deletionRun ++ accessRun) namedServer
    server.Reachable w ∧ (w.conn 3).isSocks = true ∧
      (w.conn 3).LoggedIn [0x64] ∧
        ∃ event ∈ (w.conn 3).log,
          event.recordOf = some [0x65] := by
  intro w
  refine ⟨reachable_runTo _ (.init namedServer_initial), ?_⟩
  unfold Conn.LoggedIn
  decide +kernel

end Socks5d
