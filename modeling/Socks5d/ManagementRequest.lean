import Socks5d.Authentication

/-
  The requests of the management service:
  `management_request.c`.

  Main declarations:
    * `MngIndex`, `processMngIndex`
    * `mngRequestIndexInit`, `mngRequestIndexRead`
    * `mngRequestInit`, `mngRequestRead`, `mngRequestClose`
    * `mngRequestWrite`
    * `processMngParamsRequest`
-/

------------------------------------------------------------
-- Indexes
------------------------------------------------------------

namespace Socks5d

/- `enum mng_request_indexes`, as the client sends it -/
abbrev MngIndex := UInt8

namespace MngIndex

@[match_pattern] abbrev supportedIndexes : MngIndex := 0x00
@[match_pattern] abbrev listUsers : MngIndex := 0x01
@[match_pattern] abbrev historicConnections :
    MngIndex := 0x02
@[match_pattern] abbrev concurrentConnections :
    MngIndex := 0x03
@[match_pattern] abbrev maxConcurrentConnections :
    MngIndex := 0x04
@[match_pattern] abbrev historicBytesTransferred :
    MngIndex := 0x05
@[match_pattern] abbrev historicAuthAttempts :
    MngIndex := 0x06
@[match_pattern] abbrev historicConnectionsAttempts :
    MngIndex := 0x07
@[match_pattern] abbrev averageBytesPerRead :
    MngIndex := 0x08
@[match_pattern] abbrev averageBytesPerWrite :
    MngIndex := 0x09
@[match_pattern] abbrev addUser : MngIndex := 0x0A
@[match_pattern] abbrev deleteUser : MngIndex := 0x0B
@[match_pattern] abbrev disableAuth : MngIndex := 0x0C
@[match_pattern] abbrev disablePasswordDissectors :
    MngIndex := 0x0D

end MngIndex

/- `checkIndex` -/
def checkIndex : Check := fun ptr _ =>
  if ptr.getD 0 0 ≤ MngIndex.disablePasswordDissectors then
    (true, none)
  else
    (false, some MngReplyStatus.indexNotSupported.code)

/- The substates of the four parsers. -/
def mngRequestIndexBlocks : List Block :=
  [.fixed 1 (some checkIndex)]

def mngRequestIndexAddUserBlocks : List Block :=
  [.counted, .counted]

def mngRequestIndexDeleteUserBlocks : List Block :=
  [.counted]

def mngRequestIndexYesNoValueBlocks : List Block :=
  [.fixed 1 none]

------------------------------------------------------------
-- Answers
------------------------------------------------------------

/- Bytes for the client, if `need` bytes would fit. -/
def marshal
    (s : St)
    (need : Nat)
    (bytes : List UInt8) : St :=
  if s.conn.writeBuffer.room < need then s
  else
    { s with
      conn.writeBuffer := s.conn.writeBuffer.writeAdv bytes }

/- `status_mng_marshal` -/
def statusMngMarshal
    (s : St)
    (status : MngReplyStatus) : St :=
  marshal s 1 [status.code]

/- The four bytes of a `uint32_t`, as x86 stores them. -/
def uint32Bytes (value : UInt64) : List UInt8 :=
  [value.toUInt8, (value >>> 8).toUInt8,
   (value >>> 16).toUInt8, (value >>> 24).toUInt8]

/- `uint_mng_request_marshall` -/
def uintMngRequestMarshall
    (s : St)
    (value : UInt64) : St :=
  marshal s 5 (0x00 :: uint32Bytes value)

/- `supported_indexes_mng_request_marshall` -/
def supportedIndexesMngRequestMarshall (s : St) : St :=
  marshal s 18
    [0x00, 0x0E, 0x00, 0x01, 0x02, 0x03, 0x04, 0x05, 0x06,
     0x07, 0x08, 0x09, 0x0A, 0x0B, 0x0C, 0x0D]

/- The check of the lengths; the length bytes are missed. -/
def usersFit :
    Nat → List Nat → Bool
| _, [] => true
| aux, length :: rest =>
    decide (length ≤ aux) && usersFit (aux - length) rest

/-
  `list_users_mng_request_marshall`. The names may fit where
  the names with their lengths do not: then the assertion of
  `buffer_write_adv` fails.
-/
def listUsersMngRequestMarshall (s : St) : St :=
  let names := s.srv.users.entries.map fun entry =>
    cString entry.1
  let n := s.conn.writeBuffer.room
  -- `aux` is a `size_t`
  let aux := (n + 2 ^ 64 - 2) % 2 ^ 64
  if usersFit aux (names.map List.length) then
    let bytes := [0x00, UInt8.ofNat s.srv.users.count] ++
      names.flatMap fun name =>
        UInt8.ofNat name.length :: name
    if n < bytes.length then s.crash .assertion
    else marshal s 0 bytes
  else s

------------------------------------------------------------
-- Reading The Index
------------------------------------------------------------

/- `process_mng_index` -/
def processMngIndex
    (s : St)
    (index : MngIndex) : St × Nat :=
  let m := s.srv.metrics
  let uint (value : UInt64) : St × Nat :=
    (uintMngRequestMarshall s value, MNG_REQUEST_WRITE)
  match index with
  | MngIndex.supportedIndexes =>
      (supportedIndexesMngRequestMarshall s,
        MNG_REQUEST_WRITE)
  | MngIndex.listUsers =>
      (listUsersMngRequestMarshall s, MNG_REQUEST_WRITE)
  | MngIndex.historicConnections =>
      uint m.historicConnections
  | MngIndex.concurrentConnections =>
      uint m.concurrentConnections
  | MngIndex.maxConcurrentConnections =>
      uint m.maxConcurrentConnections
  | MngIndex.historicBytesTransferred =>
      uint m.historicByteTransfer
  | MngIndex.historicAuthAttempts =>
      uint m.historicAuthAttempts
  | MngIndex.historicConnectionsAttempts =>
      uint m.historicConnectionsAttempts
  | MngIndex.averageBytesPerRead =>
      uint m.averageBytesPerRead
  | MngIndex.averageBytesPerWrite =>
      uint m.averageBytesPerWrite
  | MngIndex.addUser => (s, MNG_REQUEST_READ)
  | MngIndex.deleteUser => (s, MNG_REQUEST_READ)
  | MngIndex.disableAuth => (s, MNG_REQUEST_READ)
  | MngIndex.disablePasswordDissectors =>
      (s, MNG_REQUEST_READ)
  | _ => (s, MNG_ERROR)

/-
  A state of this service reads with a fresh parser. Where a
  `malloc` fails, the states behind are left as they are: a
  parser with one state has none.
-/
def mngParserInit
    (a : Answers)
    (site : AllocSite)
    (blocks : List Block)
    (s : St) : St :=
  if a.alloc site then
    { s with
      conn.mngRequest.status := .succeeded
      conn.mngRequest.torn := false
      conn.mngRequest.parser := blockParser blocks }
  else
    St.note { s with
        conn.mngRequest.status := .serverError
        conn.mngRequest.torn := a.unset site &&
          decide (1 < (blockParser blocks).states.length) }
      (.outOfMemory site)

/- `mng_request_index_init` -/
def mngRequestIndexInit
    (_ : Key)
    (a : Answers)
    (s : St) : St :=
  mngParserInit a .mngIndex mngRequestIndexBlocks s

/- Go on to `next` once the interest is set. -/
def setInterestKey
    (key : Key)
    (interest : Interest)
    (next : Nat)
    (s : St) : St × Nat :=
  let set := s.setInterest key.fd interest
  (set.1, if set.2 then next else MNG_ERROR)

/- The status is answered and the request is over. -/
def mngRefuse
    (key : Key)
    (status : MngReplyStatus)
    (s : St) : St × Nat :=
  setInterestKey key opWrite MNG_REQUEST_WRITE
    (statusMngMarshal
      { s with conn.mngRequest.status := status } status)

/-
  `mng_request_index_read`. One byte is taken from the
  socket, and all that the buffer holds is parsed.
-/
def mngRequestIndexRead
    (key : Key)
    (a : Answers)
    (s : St) : St × Nat :=
  if s.conn.mngRequest.status ≠ .succeeded then
    mngRefuse key s.conn.mngRequest.status s
  else if s.conn.readBuffer.room = 0 then
    mngRefuse key .serverError s
  else
    let bytes := (a.recv.getD []).take 1
    if bytes = [] then
      (s.note (.eof (s.conn.sideOf key.fd) []), MNG_ERROR)
    else
      let rb := s.conn.readBuffer.writeAdv bytes
      let fed := consume rb s.conn.mngRequest.parser
      let s := St.note { s with
          conn.readBuffer := fed.buffer
          conn.mngRequest.parser := fed.parser }
        (.recv (s.conn.sideOf key.fd) bytes)
      if isDone fed.state then
        if fed.error then
          mngRefuse key .indexNotSupported s
        else
          let index :=
            ((fed.parser.resultAt 0).getD []).getD 0 0
          let processed := processMngIndex
            { s with conn.mngRequest.index := index } index
          if processed.2 = MNG_REQUEST_WRITE then
            setInterestKey key opWrite processed.2
              processed.1
          else if processed.2 = MNG_REQUEST_READ then
            setInterestKey key opRead processed.2
              processed.1
          else processed
      else
        (s, MNG_REQUEST_READ_INDEX)

------------------------------------------------------------
-- Reading The Parameters
------------------------------------------------------------

/- `mng_request_init` -/
def mngRequestInit
    (_ : Key)
    (a : Answers)
    (s : St) : St :=
  match s.conn.mngRequest.index with
  | MngIndex.addUser =>
      mngParserInit a .mngRequest
        mngRequestIndexAddUserBlocks s
  | MngIndex.deleteUser =>
      mngParserInit a .mngRequest
        mngRequestIndexDeleteUserBlocks s
  | MngIndex.disableAuth =>
      mngParserInit a .mngRequest
        mngRequestIndexYesNoValueBlocks s
  | MngIndex.disablePasswordDissectors =>
      mngParserInit a .mngRequest
        mngRequestIndexYesNoValueBlocks s
  | _ => s.crash .abort

/- `disableAuth` -/
def disableAuth (option : UInt8) : UInt8 :=
  if option = 0x00 then methodUsernamePassword
  else methodNoAuthenticationRequired

/- `process_mng_params_request` -/
def processMngParamsRequest (s : St) : St :=
  let p := s.conn.mngRequest.parser
  let result (i : Nat) : List UInt8 :=
    (p.resultAt i).getD []
  match s.conn.mngRequest.index with
  | MngIndex.addUser =>
      if s.srv.users.count = maxUsers then
        statusMngMarshal s .maxUsersReached
      else
        statusMngMarshal
          { s with
            srv.users := addUser s.srv.users (result 1)
              (result 3) }
          .succeeded
  | MngIndex.deleteUser =>
      match deleteUser s.srv.users (result 1) with
      | none => s.crash .invalidFree
      | some users =>
          statusMngMarshal { s with srv.users := users }
            .succeeded
  | MngIndex.disableAuth =>
      statusMngMarshal
        { s with
          srv.authMethod := disableAuth ((result 0).getD 0 0) }
        .succeeded
  | MngIndex.disablePasswordDissectors =>
      statusMngMarshal
        { s with
          srv.passwordDissectors := (result 0).getD 0 0 }
        .succeeded
  | _ => statusMngMarshal s .serverError

section Deleting

variable {s : St}
variable {username : List UInt8}

/- A deletion that returns is answered with a success. -/
theorem processMngParamsRequest_deleted
    {users : UserTable}
    (hIndex : s.conn.mngRequest.index = MngIndex.deleteUser)
    (hName : s.conn.mngRequest.parser.resultAt 1 =
      some username)
    (hDeleted : deleteUser s.srv.users username =
      some users) :
    processMngParamsRequest s =
      statusMngMarshal { s with srv.users := users }
        .succeeded := by
  unfold processMngParamsRequest
  simp only [hIndex, hName, Option.getD_some, hDeleted]
  rfl

/- One that does not return ends the process. -/
theorem processMngParamsRequest_given
    (hIndex : s.conn.mngRequest.index = MngIndex.deleteUser)
    (hName : s.conn.mngRequest.parser.resultAt 1 =
      some username)
    (hNone : deleteUser s.srv.users username = none) :
    processMngParamsRequest s = s.crash .invalidFree := by
  unfold processMngParamsRequest
  simp only [hIndex, hName, Option.getD_some, hNone]
  rfl

end Deleting

/- `mng_request_read` -/
def mngRequestRead
    (key : Key)
    (a : Answers)
    (s : St) : St × Nat :=
  if s.conn.mngRequest.status ≠ .succeeded then
    mngRefuse key s.conn.mngRequest.status s
  else
    let bytes := s.recvBytes a
    if bytes = [] then
      (s.note (.eof (s.conn.sideOf key.fd) []), MNG_ERROR)
    else
      let rb := s.conn.readBuffer.writeAdv bytes
      let fed := consume rb s.conn.mngRequest.parser
      let s := St.note { s with
          conn.readBuffer := fed.buffer
          conn.mngRequest.parser := fed.parser }
        (.recv (s.conn.sideOf key.fd) bytes)
      if isDone fed.state then
        let set := s.setInterest key.fd opWrite
        if set.2 then
          if fed.error then (set.1, MNG_ERROR)
          else
            (processMngParamsRequest set.1,
              MNG_REQUEST_WRITE)
        else (set.1, MNG_ERROR)
      else
        (s, MNG_REQUEST_READ)

/- `mng_request_close`, like `auth_read_close` -/
def mngRequestClose
    (_ : Key)
    (s : St) : St :=
  if s.conn.mngRequest.torn then s.crash .segv else s

/- `mng_request_write` -/
def mngRequestWrite
    (key : Key)
    (a : Answers)
    (s : St) : St × Nat :=
  match a.send with
  | none =>
      (s.note (.sendError (s.conn.sideOf key.fd)), MNG_ERROR)
  | some n =>
      let s := sendPending key n s
      if s.conn.writeBuffer.canRead then
        (s, MNG_REQUEST_WRITE)
      else (s, MNG_DONE)

end Socks5d
