import Socks5d.MngRequests

/-
  The requests of the management client that change the user
  table (`client_utils.c`), and what the server makes of them
  in any segmentation.

  Main declarations:
    * `UserEdit`, `Client.addUser`, `Client.deleteUser`
    * `Client.sendRequest_eq`
    * `Arrival`, `Delivers`, `AwaitsIndex`
    * `UserEdit.Done`, `userEdit_agrees`
-/

------------------------------------------------------------
-- Requests
------------------------------------------------------------

namespace Socks5d

/- What the client is asked to do with the user table. -/
inductive UserEdit where
  | add (username password : List UInt8)
  | delete (username : List UInt8)
deriving DecidableEq

namespace UserEdit

def index : UserEdit → MngIndex
| add _ _ => MngIndex.addUser
| delete _ => MngIndex.deleteUser

/- The fields that follow the index. -/
def fields : UserEdit → List (Block × List UInt8)
| add username password =>
    [(.counted, username), (.counted, password)]
| delete username => [(.counted, username)]

def blocks : UserEdit → List Block
| add _ _ => mngRequestIndexAddUserBlocks
| delete _ => mngRequestIndexDeleteUserBlocks

/- The names and passwords that the client can send. -/
def WellFormed (edit : UserEdit) : Prop :=
  ∀ entry ∈ edit.fields, 1 ≤ entry.2.length ∧
    entry.2.length ≤ 254 ∧ (0 : UInt8) ∉ entry.2

theorem blocks_eq
    (edit : UserEdit) :
    edit.fields.map Prod.fst = edit.blocks := by
  cases edit with
  | add username password => rfl
  | delete username => rfl

theorem params
    (edit : UserEdit) :
    mngParamsBlocks edit.index = some edit.blocks := by
  cases edit with
  | add username password => rfl
  | delete username => rfl

theorem WellFormed.accepts
    {edit : UserEdit}
    (h : edit.WellFormed) :
    ∀ entry ∈ edit.fields, entry.1.Accepts entry.2 := by
  intro entry hMem
  have hShort : entry.2.length < 256 :=
    Nat.lt_of_le_of_lt (h entry hMem).2.1 (by decide)
  have hCounted : entry.1 = .counted := by
    cases edit with
    | add username password =>
        rcases List.mem_cons.mp hMem with hEq | hMem
        · rw [hEq]
        · rw [List.mem_singleton.mp hMem]
    | delete username => rw [List.mem_singleton.mp hMem]
  rw [hCounted]
  exact hShort

end UserEdit

------------------------------------------------------------
-- The Client's Buffer
------------------------------------------------------------

namespace Client

/- `buffer[offset] = b`; nothing outside of the array -/
def storeAt
    (buffer : List UInt8)
    (offset : Nat)
    (b : UInt8) : Option (List UInt8) :=
  if offset < buffer.length then some (buffer.set offset b)
  else none

/- `strcpy(buffer + offset, string)`, with the terminator -/
def strcpyAt
    (buffer : List UInt8)
    (offset : Nat)
    (string : List UInt8) : Option (List UInt8) :=
  let bytes := cString string
  let stop := offset + bytes.length + 1
  if stop ≤ buffer.length then
    some (buffer.take offset ++ (bytes ++ 0 ::
      buffer.drop stop))
  else none

/- `add_user`, once both strings have been typed -/
def addUser
    (username password : List UInt8)
    (buffer : List UInt8) : Option (List UInt8 × Nat) := do
  let nusername := (cString username).length
  let npassword := (cString password).length
  let buffer ← storeAt buffer 1 (UInt8.ofNat nusername)
  let buffer ← strcpyAt buffer 2 username
  let buffer ← storeAt buffer (nusername + 2)
    (UInt8.ofNat npassword)
  let buffer ← strcpyAt buffer (nusername + 3) password
  return (buffer, nusername + npassword + 3)

/- `delete_user` -/
def deleteUser
    (username : List UInt8)
    (buffer : List UInt8) : Option (List UInt8 × Nat) := do
  let nusername := (cString username).length
  let buffer ← storeAt buffer 1 (UInt8.ofNat nusername)
  let buffer ← strcpyAt buffer 2 username
  return (buffer, nusername + 2)

/- The `switch` of `send_request`, for the two indexes -/
def fill
    (edit : UserEdit)
    (buffer : List UInt8) : Option (List UInt8 × Nat) :=
  match edit with
  | .add username password =>
      addUser username password buffer
  | .delete username => deleteUser username buffer

/-
  `send_request` for the two indexes: the bytes for `send`,
  from whatever the stack had in the 512 bytes of `buffer`.
-/
def sendRequest
    (edit : UserEdit)
    (buffer : List UInt8) : Option (List UInt8) := do
  let buffer ← storeAt buffer 0 edit.index
  let filled ← fill edit buffer
  return filled.1.take filled.2

theorem storeAt_append
    (before : List UInt8)
    {after : List UInt8}
    (h : 0 < after.length)
    (b : UInt8) :
    storeAt (before ++ after) before.length b =
      some (before ++ b :: after.tail) := by
  cases after with
  | nil => exact absurd h (Nat.lt_irrefl 0)
  | cons first after =>
      unfold storeAt
      rw [if_pos (by rw [List.length_append]; omega)]
      simp

theorem strcpyAt_append
    (before : List UInt8)
    {after string : List UInt8}
    (hString : (0 : UInt8) ∉ string)
    (h : string.length < after.length) :
    strcpyAt (before ++ after) before.length string =
      some (before ++ (string ++ 0 ::
        after.drop (string.length + 1))) := by
  have hDrop : (before ++ after).drop
      (before.length + (string.length + 1)) =
        after.drop (string.length + 1) := by
    rw [List.drop_append, Nat.add_sub_cancel_left,
      List.drop_of_length_le (Nat.le_add_right _ _)]
    rfl
  unfold strcpyAt
  rw [cString_of_notMem hString]
  dsimp only
  rw [if_pos (by rw [List.length_append]; omega),
    List.take_left' rfl, Nat.add_assoc, hDrop]

section Built

variable {rest username password : List UInt8}
variable (index : UInt8)

/- The length and the bytes of the name, after the index. -/
theorem store_name
    (hName : (0 : UInt8) ∉ username)
    (hRoom : username.length + 2 ≤ rest.length) :
    (do
      let buffer ← storeAt ([index] ++ rest) 1
        (UInt8.ofNat username.length)
      strcpyAt buffer 2 username) =
      some ([index, UInt8.ofNat username.length] ++
        (username ++ 0 ::
          rest.tail.drop (username.length + 1))) := by
  have hTail : rest.tail.length = rest.length - 1 :=
    List.length_tail
  have hSize : storeAt ([index] ++ rest) 1
      (UInt8.ofNat username.length) =
        some ([index, UInt8.ofNat username.length] ++
          rest.tail) :=
    storeAt_append [index] (by omega) _
  have hCopy : strcpyAt ([index,
      UInt8.ofNat username.length] ++ rest.tail) 2 username =
        some ([index, UInt8.ofNat username.length] ++
          (username ++ 0 ::
            rest.tail.drop (username.length + 1))) :=
    strcpyAt_append [index, UInt8.ofNat username.length] hName
      (by omega)
  rw [hSize]
  exact hCopy

theorem deleteUser_eq
    (hName : (0 : UInt8) ∉ username)
    (hRoom : username.length + 2 ≤ rest.length) :
    deleteUser username ([index] ++ rest) =
      some ([index, UInt8.ofNat username.length] ++
        (username ++ 0 ::
          rest.tail.drop (username.length + 1)),
        username.length + 2) := by
  have hStored := store_name index hName hRoom
  unfold deleteUser
  rw [cString_of_notMem hName]
  dsimp only
  rw [← bind_assoc, hStored]
  rfl

/-
  The length of the password takes the place of the
  terminator of the name.
-/
theorem addUser_eq
    (hName : (0 : UInt8) ∉ username)
    (hPass : (0 : UInt8) ∉ password)
    (hRoom : username.length + password.length + 3 ≤
      rest.length) :
    ∃ left, addUser username password ([index] ++ rest) =
      some (([index, UInt8.ofNat username.length] ++
          username ++ [UInt8.ofNat password.length]) ++
          (password ++ 0 :: left),
        username.length + password.length + 3) := by
  have hStored := store_name index hName
    (show username.length + 2 ≤ rest.length by omega)
  let upto := [index, UInt8.ofNat username.length] ++ username
  let left := rest.tail.drop (username.length + 1)
  have hUpto : upto.length = username.length + 2 := by
    rw [List.length_append, Nat.add_comm]
    rfl
  have hLeft : password.length < left.length := by
    rw [List.length_drop, List.length_tail]
    omega
  have hSize : storeAt ([index, UInt8.ofNat username.length] ++
      (username ++ 0 :: left)) (username.length + 2)
        (UInt8.ofNat password.length) =
      some ((upto ++ [UInt8.ofNat password.length]) ++
        left) := by
    have hStore := storeAt_append upto
      (show 0 < (0 :: left).length from Nat.succ_pos _)
      (UInt8.ofNat password.length)
    rw [hUpto] at hStore
    rw [← List.append_assoc, hStore, List.append_cons]
    rfl
  have hCopy : strcpyAt ((upto ++
        [UInt8.ofNat password.length]) ++ left)
      (username.length + 3) password =
        some ((upto ++ [UInt8.ofNat password.length]) ++
          (password ++ 0 ::
            left.drop (password.length + 1))) := by
    have hStrcpy := strcpyAt_append
      (upto ++ [UInt8.ofNat password.length]) hPass hLeft
    rw [List.length_append, hUpto] at hStrcpy
    exact hStrcpy
  refine ⟨left.drop (password.length + 1), ?_⟩
  unfold addUser
  rw [cString_of_notMem hName, cString_of_notMem hPass]
  dsimp only
  rw [← bind_assoc, hStored]
  dsimp only [Option.bind_eq_bind, Option.bind_some]
  rw [hSize]
  dsimp only [Option.bind_some]
  rw [hCopy]
  rfl

end Built

/-
  The 512 bytes are enough, and what is sent is the index
  with the fields in the form that the server parses.
-/
theorem sendRequest_eq
    {edit : UserEdit}
    (hEdit : edit.WellFormed)
    {stack : List UInt8}
    (hStack : stack.length = 512) :
    sendRequest edit stack =
      some (edit.index :: encodeAll edit.fields) := by
  have hFirst : storeAt stack 0 edit.index =
      some ([edit.index] ++ stack.tail) :=
    storeAt_append [] (by omega) edit.index
  have hRoom : stack.tail.length = 511 := by
    rw [List.length_tail, hStack]
  unfold sendRequest
  rw [hFirst]
  cases edit with
  | add username password =>
      rcases hEdit _ List.mem_cons_self with
        ⟨_, hName, hNameText⟩
      rcases hEdit _ (List.mem_cons_of_mem _
        List.mem_cons_self) with ⟨_, hPass, hPassText⟩
      dsimp only at hName hNameText hPass hPassText
      rcases addUser_eq MngIndex.addUser hNameText hPassText
        (show _ ≤ stack.tail.length by omega) with
        ⟨left, hBuilt⟩
      show (addUser username password
        ([MngIndex.addUser] ++ stack.tail)).bind _ = _
      rw [hBuilt]
      show some (List.take _ _) = some _
      rw [← List.append_assoc, List.take_left']
      · simp [encodeAll, UserEdit.fields, UserEdit.index,
          Block.encode]
      · simp
        omega
  | delete username =>
      rcases hEdit _ List.mem_cons_self with
        ⟨_, hName, hNameText⟩
      dsimp only at hName hNameText
      have hBuilt := deleteUser_eq MngIndex.deleteUser
        hNameText (show _ ≤ stack.tail.length by omega)
      show (deleteUser username
        ([MngIndex.deleteUser] ++ stack.tail)).bind _ = _
      rw [hBuilt]
      show some (List.take _ _) = some _
      rw [← List.append_assoc, List.take_left']
      · simp [encodeAll, UserEdit.fields, UserEdit.index,
          Block.encode]
      · simp

end Client

end Socks5d

------------------------------------------------------------
-- Arrivals At The Server
------------------------------------------------------------

namespace Socks5d

/-
  A readable event of the connection: the server as the
  others have left it, the bytes that wait in the socket, and
  the other answers of the system.
-/
structure Arrival where
  srv : Server
  waiting : List UInt8
  answers : Answers

def Arrival.event
    (key : Key)
    (c : Arrival)
    (s : St) : St :=
  mngEvent StateDefinition.onReadReady key
    { c.answers with recv := some c.waiting }
    { s with srv := c.srv }

/- One event after the other. -/
def arrivals
    (key : Key)
    (calls : List Arrival)
    (s : St) : St :=
  calls.foldl (fun s c => c.event key s) s

/- What `recv` returns of the bytes that wait. -/
def Conn.takes
    (c : Conn)
    (waiting : List UInt8) : List UInt8 :=
  if c.current = some MNG_REQUEST_READ_INDEX then
    waiting.take 1
  else waiting.take c.readBuffer.room

/-
  The events deliver the message: each finds the next bytes
  of it waiting, as many as have arrived by then.
-/
def Delivers
    (key : Key) :
    List UInt8 → List Arrival → St → Prop
| message, [], _ => message = []
| message, c :: rest, s =>
    c.waiting ≠ [] ∧ c.waiting <+: message ∧
      c.srv.sel.Has key.fd opRead (.mng key.data) ∧
      Delivers key
        (message.drop (s.conn.takes c.waiting).length) rest
        (c.event key s)

instance
    (sel : Selector)
    (fd : Fd)
    (interest : Interest)
    (attached : Attachment) :
    Decidable (sel.Has fd interest attached) :=
  inferInstanceAs (Decidable (_ ∧ _))

instance decidableDelivers
    (key : Key) :
    (message : List UInt8) → (calls : List Arrival) →
      (s : St) → Decidable (Delivers key message calls s)
| message, [], _ =>
    inferInstanceAs (Decidable (message = []))
| message, c :: rest, s =>
    have := decidableDelivers key
      (message.drop (s.conn.takes c.waiting).length) rest
      (c.event key s)
    inferInstanceAs (Decidable (_ ∧ _ ∧ _ ∧ _))

/- The one byte is the reply, and is all that is sent. -/
structure Replies
    (key : Key)
    (status : MngReplyStatus)
    (s : St) : Prop where
  state : s.conn.current = some MNG_REQUEST_WRITE
  slot : s.srv.sel.Has key.fd opWrite (.mng key.data)
  reply : s.conn.writeBuffer.pending = [status.code]

/-
  What the server has done once the message is there, with
  the table that it found.
-/
def UserEdit.Done
    (edit : UserEdit)
    (key : Key)
    (before : UserTable)
    (s : St) : Prop :=
  match edit with
  | .add username password =>
      (before.count < maxUsers →
        s.srv.users.list = before.list ++
          [{ name := some username
             pass := some password
             held := true }] ∧
        Replies key .succeeded s) ∧
      (before.count = maxUsers →
        s.srv.users = before ∧
        Replies key .maxUsersReached s)
  | .delete username =>
      freesOwn before.list username = true →
        s.srv.users.list = (before.list.eraseP fun entry =>
          entry.name.map cString = some username) ∧
        Replies key .succeeded s

/- A management connection that waits for an index. -/
structure AwaitsIndex (c : Conn) : Prop where
  service : c.isSocks = false
  current : c.current = some MNG_REQUEST_READ_INDEX
  parser : c.mngRequest.status = .succeeded ∧
      c.mngRequest.parser =
        blockParser mngRequestIndexBlocks ∨
    c.mngRequest.status = .serverError
  written : c.writeBuffer.pending = []

/- One that has the index and waits for the parameters. -/
structure AwaitsParams
    (edit : UserEdit)
    (c : Conn) : Prop where
  service : c.isSocks = false
  current : c.current = some MNG_REQUEST_READ
  index : c.mngRequest.index = edit.index
  whole : c.mngRequest.status = .succeeded →
    c.mngRequest.torn = false
  read : c.readBuffer.pending = []
  written : c.writeBuffer.pending = []

section Events

variable {key : Key}
variable {a : Answers}
variable {s t : St}
variable {edit : UserEdit}
variable {c : Arrival}

/- An event whose handler does not end the connection. -/
theorem mngEvent_read
    {state next : Nat}
    {handler : Handler}
    (hState : s.conn.current = some state)
    (hReady : (clientMng state).onReadReady = some handler)
    (hCall : handler key a s = (t, next))
    (hMng : t.conn.isSocks = false)
    (hNext : next ≤ MNG_REQUEST_WRITE) :
    mngEvent StateDefinition.onReadReady key a s =
      if t.conn.current = some next then t
      else arrive clientMng next key a
        (depart clientMng key t) := by
  have hFirst : handleFirst clientMng key a s = s := by
    unfold handleFirst
    rw [hState]
    rfl
  have hNot : ¬ (next = MNG_ERROR ∨ next = MNG_DONE) := by
    rintro (hBad | hBad)
    · rw [hBad] at hNext
      exact absurd hNext (by decide)
    · rw [hBad] at hNext
      exact absurd hNext (by decide)
  have hLe : next ≤ MNG_ERROR :=
    Nat.le_trans hNext (by decide)
  unfold mngEvent stmHandler
  simp only [hFirst, hState, Option.getD_some, hReady, hCall,
    if_neg hNot]
  exact jump_mng hMng hLe

/-
  The next bytes of a message go to the parser: it wants more
  as long as some are left, and then has all the fields.
-/
theorem message_fed
    {blocks : List Block}
    {fields : List (Block × List UInt8)}
    {fed bytes left : List UInt8}
    {p : Parser}
    {rb : Buffer rawBuffSize}
    (hWell : ∀ block ∈ blocks, block.WellFormed)
    (hProgress : Progress blocks fed p)
    (hGoing : isDone p.current = false)
    (hBlocks : fields.map Prod.fst = blocks)
    (hFields : ∀ entry ∈ fields, entry.1.Accepts entry.2)
    (hEmpty : rb.pending = [])
    (hSome : bytes ≠ [])
    (hFits : bytes.length ≤ rawBuffSize)
    (hMessage : fed ++ bytes ++ left = encodeAll fields) :
    let out := consume (rb.writeAdv bytes) p
    out.buffer.pending = [] ∧
      out.state = out.parser.current ∧
      ((left ≠ [] ∧
        Progress blocks (fed ++ bytes) out.parser ∧
        isDone out.parser.current = false) ∨
      (left = [] ∧ ∃ error,
        out.parser = parserAt fields [] 0 [] .doneRead
          error)) := by
  intro out
  have hStored : (rb.writeAdv bytes).pending = bytes := by
    rw [Buffer.writeAdv_pending_of_fits, hEmpty]
    · rfl
    · rw [Buffer.room_of_pending_nil hEmpty]
      exact hFits
  have hState : out.state = out.parser.current := by
    apply consume_state
    rw [hStored]
    exact hSome
  rcases Progress.of_consume hWell hProgress hGoing
    (rb.writeAdv bytes) with ⟨used, hSplit, hUsed, hEnd⟩
  rw [hStored] at hSplit
  have hRest : (fed ++ used) ++
      (out.buffer.pending ++ left) = encodeAll fields := by
    rw [← hMessage, hSplit]
    simp only [List.append_assoc]
    rfl
  rcases hUsed.message hBlocks hFields hRest with
    ⟨hMore, hLeft⟩ | ⟨hLeft, error, hParser⟩
  · -- the parser goes on, so it has used every byte
    have hNil : out.buffer.pending = [] := by
      rcases hEnd with hBad | hNil
      · rw [hMore] at hBad
        nomatch hBad
      · exact hNil
    rw [hNil, List.nil_append] at hLeft
    have hAll : used = bytes := by
      have hPending : (consume (rb.writeAdv bytes)
          p).buffer.pending = [] := hNil
      rw [hPending, List.append_nil] at hSplit
      exact hSplit.symm
    rw [hAll] at hUsed
    exact ⟨hNil, hState, Or.inl ⟨hLeft, hUsed, hMore⟩⟩
  · rcases List.append_eq_nil_iff.mp hLeft with ⟨hNil, hNone⟩
    exact ⟨hNil, hState, Or.inr ⟨hNone, error, hParser⟩⟩

/- The index, as its parser takes it. -/
theorem index_fed
    {rb : Buffer rawBuffSize}
    (hEmpty : rb.pending = [])
    (edit : UserEdit) :
    let out := consume (rb.writeAdv [edit.index])
      (blockParser mngRequestIndexBlocks)
    out.buffer.pending = [] ∧ out.state = .doneRead ∧
      out.parser.resultAt 0 = some [edit.index, 0] := by
  intro out
  let fields : List (Block × List UInt8) :=
    [(.fixed 1 (some checkIndex), [edit.index])]
  have hWell : ∀ block ∈ mngRequestIndexBlocks,
      block.WellFormed := by
    intro block hMem
    rw [List.mem_singleton.mp hMem]
    exact Nat.one_pos
  have hFields : ∀ entry ∈ fields,
      entry.1.Accepts entry.2 := by
    intro entry hMem
    rw [List.mem_singleton.mp hMem]
    refine ⟨rfl, ?_⟩
    intro check hCheck
    rw [← Option.some.inj hCheck]
    cases edit with
    | add username password => rfl
    | delete username => rfl
  have hMessage : [] ++ [edit.index] ++ [] =
      encodeAll fields := rfl
  rcases message_fed hWell
    (Progress.start hWell (List.cons_ne_nil _ _)) rfl rfl
    hFields hEmpty (List.cons_ne_nil edit.index [])
    (show 1 ≤ rawBuffSize by decide) hMessage with
    ⟨hNil, hState, ⟨hBad, _⟩ | ⟨_, error, hParser⟩⟩
  · exact absurd rfl hBad
  · refine ⟨hNil, ?_, ?_⟩
    · rw [hState, hParser]
      rfl
    · rw [hParser]
      rfl

/- The index is taken, and the state changes. -/
theorem mngRequestIndexRead_edit
    {attached : Attachment}
    {interest : Interest}
    (h : AwaitsIndex s.conn)
    (hStatus : s.conn.mngRequest.status = .succeeded)
    (hEmpty : s.conn.readBuffer.pending = [])
    (hHas : s.srv.sel.Has key.fd interest attached)
    (hIndex : (a.recv.getD []).take 1 = [edit.index]) :
    ∃ fed : Buffer rawBuffSize, ∃ parser,
      fed.pending = [] ∧
      mngRequestIndexRead key a s =
        ((St.note { s with
            conn.readBuffer := fed
            conn.mngRequest.parser := parser
            conn.mngRequest.index := edit.index }
          (.recv (s.conn.sideOf key.fd)
            [edit.index])).arm key.fd opRead attached,
          MNG_REQUEST_READ) := by
  have hRoom : s.conn.readBuffer.room ≠ 0 := by
    rw [Buffer.room_of_pending_nil hEmpty]
    decide
  rcases index_fed hEmpty edit with ⟨hNil, hState, hResult⟩
  have hProcess : ∀ t : St,
      processMngIndex t edit.index = (t, MNG_REQUEST_READ) := by
    intro t
    cases edit with
    | add username password => rfl
    | delete username => rfl
  have hParser : s.conn.mngRequest.parser =
      blockParser mngRequestIndexBlocks := by
    rcases h.parser with ⟨_, hFresh⟩ | hBad
    · exact hFresh
    · nomatch hStatus.symm.trans hBad
  have hFine := consume_fine (by
    rw [hState]
    exact fun hBad => nomatch hBad)
  generalize hOut : consume
    (s.conn.readBuffer.writeAdv [edit.index])
    (blockParser mngRequestIndexBlocks) = out
    at hNil hState hResult hFine
  refine ⟨out.buffer, out.parser, hNil, ?_⟩
  have hDone : isDone .doneRead = true := rfl
  have hOther : ¬ MNG_REQUEST_READ = MNG_REQUEST_WRITE := by
    decide
  unfold mngRequestIndexRead
  rw [if_neg (not_not.mpr hStatus), if_neg hRoom]
  simp only [hIndex, List.cons_ne_nil, if_false,
    hParser, hOut, hState, hDone, if_true, hFine,
    Bool.false_eq_true, hResult, Option.getD_some, List.getD_cons_zero, hProcess,
    hOther]
  refine (setInterestKey_eq hHas ?_ _ _).trans ?_
  · rfl
  · rfl

/- What the event of the index leaves. -/
theorem AwaitsIndex.event
    (h : AwaitsIndex s.conn)
    (hStatus : s.conn.mngRequest.status = .succeeded)
    (hEmpty : s.conn.readBuffer.pending = [])
    (hHas : c.srv.sel.Has key.fd opRead (.mng key.data))
    (hIndex : c.waiting.take 1 = [edit.index]) :
    AwaitsParams edit (c.event key s).conn ∧
      (c.event key s).srv.users = c.srv.users ∧
      if c.answers.alloc .mngRequest then
        (c.event key s).conn.mngRequest.status = .succeeded ∧
          (c.event key s).conn.mngRequest.parser =
            blockParser edit.blocks
      else
        (c.event key s).conn.mngRequest.status =
          .serverError := by
  let a : Answers := { c.answers with recv := some c.waiting }
  let start : St := { s with srv := c.srv }
  have hStart : AwaitsIndex start.conn := h
  rcases mngRequestIndexRead_edit (a := a) hStart hStatus
    hEmpty hHas hIndex with ⟨fed, parser, hNil, hCall⟩
  have hReady : (clientMng
      MNG_REQUEST_READ_INDEX).onReadReady =
        some mngRequestIndexRead := rfl
  have hEvent := mngEvent_read hStart.current hReady hCall
    h.service (Nat.le_succ MNG_REQUEST_READ)
  have hOther : s.conn.current ≠ some MNG_REQUEST_READ := by
    rw [h.current]
    decide
  have hFrom : s.conn.current ≠ some USERPASS_READ ∧
      s.conn.current ≠ some MNG_REQUEST_READ := by
    rw [h.current]
    decide
  have hParams : c.event key s = mngRequestInit key a
      (entered MNG_REQUEST_READ _) :=
    (hEvent.trans (if_neg hOther)).trans
      (congrArg (arrive clientMng MNG_REQUEST_READ key a)
        (depart_mng_same key hFrom))
  rw [mngRequestInit_eq edit.params] at hParams
  unfold mngParserInit at hParams
  rw [hParams]
  by_cases hAlloc : c.answers.alloc .mngRequest = true
  · rw [if_pos (show a.alloc .mngRequest = true from hAlloc),
      if_pos hAlloc]
    exact ⟨⟨h.service, rfl, rfl, fun _ => rfl, hNil,
      h.written⟩, rfl, rfl, rfl⟩
  · rw [if_neg (show ¬ a.alloc .mngRequest = true from hAlloc),
      if_neg hAlloc]
    exact ⟨⟨h.service, rfl, rfl, (fun hBad => nomatch hBad),
      hNil, h.written⟩, rfl, rfl⟩

/- One byte for the client fits into the empty buffer. -/
theorem statusMngMarshal_empty
    (hEmpty : s.conn.writeBuffer.pending = [])
    (status : MngReplyStatus) :
    ∃ wb : Buffer rawBuffSize, wb.pending = [status.code] ∧
      statusMngMarshal s status =
        { s with conn.writeBuffer := wb } := by
  have hRoom := Buffer.room_of_pending_nil hEmpty
  refine ⟨s.conn.writeBuffer.writeAdv [status.code], ?_, ?_⟩
  · rw [Buffer.writeAdv_pending_of_fits, hEmpty]
    · rfl
    · rw [hRoom]
      exact (by decide : 1 ≤ rawBuffSize)
  · unfold statusMngMarshal marshal
    rw [hRoom]
    rfl

/- The request is carried out once its fields are there. -/
theorem processMngParamsRequest_edit
    (hEdit : edit.WellFormed)
    (hIndex : s.conn.mngRequest.index = edit.index)
    {error : UInt8}
    (hParser : s.conn.mngRequest.parser =
      parserAt edit.fields [] 0 [] .doneRead error)
    (hWritten : s.conn.writeBuffer.pending = [])
    (hSlot : s.srv.sel.Has key.fd opWrite (.mng key.data)) :
    edit.Done key s.srv.users
      (entered MNG_REQUEST_WRITE (processMngParamsRequest s)) ∧
    (processMngParamsRequest s).conn.isSocks =
      s.conn.isSocks ∧
    (processMngParamsRequest s).conn.current =
      s.conn.current ∧
    (processMngParamsRequest s).conn.mngRequest =
      s.conn.mngRequest := by
  cases edit with
  | add username password =>
      have hName : (0 : UInt8) ∉ username :=
        (hEdit _ List.mem_cons_self).2.2
      have hPass : (0 : UInt8) ∉ password :=
        (hEdit _ (List.mem_cons_of_mem _
          List.mem_cons_self)).2.2
      have hFirst : s.conn.mngRequest.parser.resultAt 1 =
          some (username ++ [0]) := by
        rw [hParser]
        rfl
      have hSecond : s.conn.mngRequest.parser.resultAt 3 =
          some (password ++ [0]) := by
        rw [hParser]
        rfl
      have hIs : s.conn.mngRequest.index = MngIndex.addUser :=
        hIndex
      have hEq : processMngParamsRequest s =
          if s.srv.users.count = maxUsers then
            statusMngMarshal s .maxUsersReached
          else statusMngMarshal
            { s with
              srv.users := addUser s.srv.users
                (username ++ [0]) (password ++ [0]) }
            .succeeded := by
        unfold processMngParamsRequest
        simp only [hIs, hFirst, hSecond, Option.getD_some]
        rfl
      rw [hEq]
      by_cases hFull : s.srv.users.count = maxUsers
      · rw [if_pos hFull]
        rcases statusMngMarshal_empty hWritten
          .maxUsersReached with ⟨wb, hReply, hState⟩
        rw [hState]
        refine ⟨⟨?_, ?_⟩, rfl, rfl, rfl⟩
        · intro hRoom
          exact absurd hFull (Nat.ne_of_lt hRoom)
        · intro _
          exact ⟨rfl, ⟨rfl, hSlot, hReply⟩⟩
      · rw [if_neg hFull]
        let added : St := { s with
          srv.users := addUser s.srv.users
            (username ++ [0]) (password ++ [0]) }
        have hStill : added.conn.writeBuffer.pending = [] :=
          hWritten
        rcases statusMngMarshal_empty hStill .succeeded with
          ⟨wb, hReply, hState⟩
        rw [hState]
        refine ⟨⟨?_, ?_⟩, rfl, rfl, rfl⟩
        · intro hRoom
          refine ⟨?_, ⟨rfl, hSlot, hReply⟩⟩
          have hList := addUser_list hRoom (username ++ [0])
            (password ++ [0])
          rw [cString_stored hName, cString_stored hPass]
            at hList
          exact hList
        · intro hBad
          exact absurd hBad hFull
  | delete username =>
      have hName : (0 : UInt8) ∉ username :=
        (hEdit _ List.mem_cons_self).2.2
      have hFirst : s.conn.mngRequest.parser.resultAt 1 =
          some (username ++ [0]) := by
        rw [hParser]
        rfl
      have hIs : s.conn.mngRequest.index =
          MngIndex.deleteUser := hIndex
      have hSame := freesOwn_terminated s.srv.users.list username
      cases hDeleted : deleteUser s.srv.users
          (username ++ [0]) with
      | none =>
          rw [processMngParamsRequest_given hIs hFirst hDeleted]
          refine ⟨fun hOwn => ?_, rfl, rfl, rfl⟩
          rcases deleteUser_some (hSame.trans hOwn) with
            ⟨users, hBad⟩
          nomatch hDeleted.symm.trans hBad
      | some users =>
          let deleted : St := { s with srv.users := users }
          have hStill : deleted.conn.writeBuffer.pending =
              [] := hWritten
          rcases statusMngMarshal_empty hStill .succeeded with
            ⟨wb, hReply, hState⟩
          rw [processMngParamsRequest_deleted hIs hFirst
            hDeleted, hState]
          refine ⟨fun _ => ⟨?_, ⟨rfl, hSlot, hReply⟩⟩, rfl,
            rfl, rfl⟩
          have hList := deleteUser_list hDeleted
          unfold strcmpEq at hList
          rw [cString_stored hName] at hList
          exact hList

/- The parameters go on, and `recv` has brought some bytes. -/
theorem mngRequestRead_more
    (hHas : s.srv.sel.Has key.fd opRead (.mng key.data))
    (hStatus : s.conn.mngRequest.status = .succeeded)
    (hBytes : s.recvBytes a ≠ [])
    (hGoing : isDone (mngFed key (s.recvBytes a)
      s).conn.mngRequest.parser.current = false) :
    mngRequestRead key a s =
      (mngFed key (s.recvBytes a) s, MNG_REQUEST_READ) := by
  have hRead := mngRequestRead_outcome hHas a
  generalize mngRequestRead key a s = r at hRead
  cases hRead with
  | refused hBad => exact absurd hStatus hBad
  | ended _ hBad => exact absurd hBad hBytes
  | more => rfl
  | failed _ hError =>
      rw [hError] at hGoing
      nomatch hGoing
  | applied _ _ hDone =>
      rw [hDone] at hGoing
      nomatch hGoing

/- They are complete, and the request is carried out. -/
theorem mngRequestRead_whole
    (hHas : s.srv.sel.Has key.fd opRead (.mng key.data))
    (hStatus : s.conn.mngRequest.status = .succeeded)
    (hBytes : s.recvBytes a ≠ [])
    (hDone : (mngFed key (s.recvBytes a)
      s).conn.mngRequest.parser.current = .doneRead) :
    mngRequestRead key a s =
      (processMngParamsRequest ((mngFed key (s.recvBytes a)
        s).arm key.fd opWrite (.mng key.data)),
          MNG_REQUEST_WRITE) := by
  have hRead := mngRequestRead_outcome hHas a
  generalize mngRequestRead key a s = r at hRead
  cases hRead with
  | refused hBad => exact absurd hStatus hBad
  | ended _ hBad => exact absurd hBad hBytes
  | more _ _ hBad =>
      rw [hDone] at hBad
      nomatch hBad
  | failed _ hError => nomatch hError.symm.trans hDone
  | applied => rfl

/-
  The event in which they are complete: the connection is in
  `MNG_REQUEST_WRITE` with what was carried out.
-/
theorem AwaitsParams.applied
    {error : UInt8}
    (h : AwaitsParams edit s.conn)
    (hEdit : edit.WellFormed)
    (hStatus : s.conn.mngRequest.status = .succeeded)
    (hHas : s.srv.sel.Has key.fd opRead (.mng key.data))
    (hBytes : s.recvBytes a ≠ [])
    (hParser : (mngFed key (s.recvBytes a)
      s).conn.mngRequest.parser =
        parserAt edit.fields [] 0 [] .doneRead error) :
    edit.Done key s.srv.users
      (mngEvent StateDefinition.onReadReady key a s) := by
  let armed := (mngFed key (s.recvBytes a) s).arm key.fd
    opWrite (.mng key.data)
  have hCall := mngRequestRead_whole hHas hStatus hBytes (by
    rw [hParser]
    rfl)
  have hSlot : armed.srv.sel.Has key.fd opWrite
      (.mng key.data) :=
    Selector.Has.put_self hHas.1 _
  rcases processMngParamsRequest_edit (s := armed) hEdit
    h.index hParser h.written hSlot with
    ⟨hDone, hService, hCurrent, hRequest⟩
  have hStill : (processMngParamsRequest armed).conn.current =
      some MNG_REQUEST_READ := hCurrent.trans h.current
  have hOther : (processMngParamsRequest
      armed).conn.current ≠ some MNG_REQUEST_WRITE := by
    rw [hStill]
    decide
  have hUser : (processMngParamsRequest
      armed).conn.current ≠ some USERPASS_READ := by
    rw [hStill]
    decide
  have hWhole : (processMngParamsRequest
      armed).conn.mngRequest.torn = false := by
    rw [hRequest]
    exact h.whole hStatus
  have hEvent : mngEvent StateDefinition.onReadReady key a s =
      entered MNG_REQUEST_WRITE
        (processMngParamsRequest armed) := by
    refine ((mngEvent_read h.current rfl hCall
      (hService.trans h.service) (Nat.le_refl _)).trans
        (if_neg hOther)).trans ?_
    rw [depart_mng_whole key hUser hWhole]
    rfl
  rw [hEvent]
  exact hDone

/- What the next bytes of the parameters leave. -/
theorem AwaitsParams.event
    {fed left : List UInt8}
    (h : AwaitsParams edit s.conn)
    (hEdit : edit.WellFormed)
    (hStatus : s.conn.mngRequest.status = .succeeded)
    (hProgress : Progress edit.blocks fed
      s.conn.mngRequest.parser)
    (hGoing : isDone s.conn.mngRequest.parser.current = false)
    (hHas : c.srv.sel.Has key.fd opRead (.mng key.data))
    (hSome : c.waiting ≠ [])
    (hMessage : fed ++ s.conn.takes c.waiting ++ left =
      encodeAll edit.fields) :
    (left ≠ [] ∧ AwaitsParams edit (c.event key s).conn ∧
      (c.event key s).conn.mngRequest.status = .succeeded ∧
      Progress edit.blocks (fed ++ s.conn.takes c.waiting)
        (c.event key s).conn.mngRequest.parser ∧
      isDone (c.event key s).conn.mngRequest.parser.current =
        false) ∨
    (left = [] ∧ edit.Done key c.srv.users
      (c.event key s)) := by
  let a : Answers := { c.answers with recv := some c.waiting }
  let start : St := { s with srv := c.srv }
  have hTakes : s.conn.takes c.waiting =
      start.recvBytes a := by
    unfold Conn.takes
    rw [h.current, if_neg (by decide)]
    rfl
  rw [hTakes] at hMessage ⊢
  have hRoom : s.conn.readBuffer.room = rawBuffSize :=
    Buffer.room_of_pending_nil h.read
  have hBytes : start.recvBytes a ≠ [] := by
    show c.waiting.take s.conn.readBuffer.room ≠ []
    rw [hRoom]
    intro hNil
    rcases List.take_eq_nil_iff.mp hNil with hBad | hBad
    · exact absurd hBad (by decide)
    · exact hSome hBad
  have hFits : (start.recvBytes a).length ≤ rawBuffSize := by
    show (c.waiting.take s.conn.readBuffer.room).length ≤ _
    rw [hRoom]
    exact List.length_take_le _ _
  rcases message_fed (mngParamsBlocks_wellFormed edit.params)
    hProgress hGoing edit.blocks_eq hEdit.accepts h.read
    hBytes hFits hMessage with ⟨hNil, hState, hOutcome⟩
  have hStart : start.conn.current = some MNG_REQUEST_READ :=
    h.current
  rcases hOutcome with ⟨hLeft, hMore, hStill⟩ |
    ⟨hLeft, error, hParser⟩
  · left
    have hCall : mngRequestRead key a start =
        (mngFed key (start.recvBytes a) start,
          MNG_REQUEST_READ) :=
      mngRequestRead_more hHas hStatus hBytes hStill
    have hEvent : c.event key s =
        mngFed key (start.recvBytes a) start :=
      (mngEvent_read hStart rfl hCall h.service
        (Nat.le_succ MNG_REQUEST_READ)).trans (if_pos hStart)
    rw [hEvent]
    exact ⟨hLeft, ⟨h.service, h.current, h.index, h.whole,
      hNil, h.written⟩, hStatus, hMore, hStill⟩
  · right
    have hHere : AwaitsParams edit start.conn := h
    exact ⟨hLeft, hHere.applied hEdit hStatus hHas hBytes
      hParser⟩

end Events

end Socks5d

------------------------------------------------------------
-- Whole Requests
------------------------------------------------------------

namespace Socks5d

section Runs

variable {key : Key}
variable {s : St}
variable {edit : UserEdit}

/- What is taken is the start of what is still to come. -/
theorem takes_prefix
    {c : Conn}
    {waiting message : List UInt8}
    (h : waiting <+: message) :
    c.takes waiting ++ message.drop (c.takes waiting).length =
      message := by
  have hTakes : c.takes waiting <+: waiting := by
    unfold Conn.takes
    split
    · exact List.take_prefix _ _
    · exact List.take_prefix _ _
  exact List.prefix_iff_eq_append.mp (hTakes.trans h)

/- Nothing is delivered after the whole message. -/
theorem Delivers.nil
    {calls : List Arrival}
    {last : Arrival}
    (h : Delivers key [] (calls ++ [last]) s) : False := by
  cases calls with
  | nil => exact h.1 (List.prefix_nil.mp h.2.1)
  | cons c rest => exact h.1 (List.prefix_nil.mp h.2.1)

/- The parameters, in whatever parts they arrive. -/
theorem AwaitsParams.run
    {fed left : List UInt8}
    {calls : List Arrival}
    {last : Arrival}
    (h : AwaitsParams edit s.conn)
    (hEdit : edit.WellFormed)
    (hStatus : s.conn.mngRequest.status = .succeeded)
    (hProgress : Progress edit.blocks fed
      s.conn.mngRequest.parser)
    (hGoing : isDone s.conn.mngRequest.parser.current = false)
    (hMessage : fed ++ left = encodeAll edit.fields)
    (hDelivers : Delivers key left (calls ++ [last]) s) :
    edit.Done key last.srv.users
      (last.event key (arrivals key calls s)) := by
  induction calls generalizing s fed left with
  | nil =>
      rcases hDelivers with ⟨hSome, hPrefix, hHas, hRest⟩
      have hSplit := takes_prefix (c := s.conn) hPrefix
      rw [← hSplit, ← List.append_assoc] at hMessage
      rcases h.event hEdit hStatus hProgress hGoing hHas hSome
        hMessage with ⟨hLeft, _⟩ | ⟨_, hDone⟩
      · exact absurd hRest hLeft
      · exact hDone
  | cons c rest ih =>
      rcases hDelivers with ⟨hSome, hPrefix, hHas, hRest⟩
      have hSplit := takes_prefix (c := s.conn) hPrefix
      rw [← hSplit, ← List.append_assoc] at hMessage
      rcases h.event hEdit hStatus hProgress hGoing hHas hSome
        hMessage with ⟨_, hNext, hStill, hFed, hMore⟩ |
          ⟨hLeft, _⟩
      · exact ih hNext hStill hFed hMore hMessage hRest
      · rw [hLeft] at hRest
        exact hRest.nil.elim

/- The first event takes the index and nothing else. -/
theorem AwaitsIndex.takes
    {c : Arrival}
    {params : List UInt8}
    (h : AwaitsIndex s.conn)
    (hSome : c.waiting ≠ [])
    (hPrefix : c.waiting <+: edit.index :: params) :
    s.conn.takes c.waiting = [edit.index] ∧
      c.waiting.take 1 = [edit.index] := by
  have hOne : c.waiting.take 1 = [edit.index] := by
    cases hWaiting : c.waiting with
    | nil => exact absurd hWaiting hSome
    | cons b more =>
        rw [hWaiting] at hPrefix
        rw [(List.cons_prefix_cons.mp hPrefix).1]
        rfl
  refine ⟨?_, hOne⟩
  unfold Conn.takes
  rw [if_pos h.current]
  exact hOne

/- The index and then the parameters. -/
theorem AwaitsIndex.run
    {calls : List Arrival}
    {last : Arrival}
    (h : AwaitsIndex s.conn)
    (hStatus : s.conn.mngRequest.status = .succeeded)
    (hEmpty : s.conn.readBuffer.pending = [])
    (hEdit : edit.WellFormed)
    (hMemory : ∀ c ∈ calls,
      c.answers.alloc .mngRequest = true)
    (hDelivers : Delivers key
      (edit.index :: encodeAll edit.fields)
      (calls ++ [last]) s) :
    edit.Done key last.srv.users
      (last.event key (arrivals key calls s)) := by
  have hFields : encodeAll edit.fields ≠ [] := by
    cases edit with
    | add username password => exact List.cons_ne_nil _ _
    | delete username => exact List.cons_ne_nil _ _
  cases calls with
  | nil =>
      rcases hDelivers with ⟨hSome, hPrefix, hHas, hRest⟩
      rw [(h.takes hSome hPrefix).1] at hRest
      exact absurd hRest hFields
  | cons c rest =>
      rcases hDelivers with ⟨hSome, hPrefix, hHas, hRest⟩
      rcases h.takes hSome hPrefix with ⟨hTaken, hIndex⟩
      rw [hTaken] at hRest
      rcases h.event hStatus hEmpty hHas hIndex with
        ⟨hNext, _, hParser⟩
      rw [if_pos (hMemory c List.mem_cons_self)] at hParser
      have hBlocks := mngParams_start edit.params
        hNext.index hParser.2
      have hStart : Progress edit.blocks []
          (c.event key s).conn.mngRequest.parser := by
        rw [hParser.2]
        apply Progress.start
          (mngParamsBlocks_wellFormed edit.params)
        cases edit with
        | add username password => exact List.cons_ne_nil _ _
        | delete username => exact List.cons_ne_nil _ _
      exact hNext.run hEdit hParser.1 hStart hBlocks.going rfl
        hRest

/- The event is answered with an error, and that is all. -/
structure Refuses
    (key : Key)
    (c : Arrival)
    (s : St) : Prop where
  users : (c.event key s).srv.users = c.srv.users
  replies : Replies key .serverError (c.event key s)

theorem mngRefuse_eq
    {interest : Interest}
    {attached : Attachment}
    (hWritten : s.conn.writeBuffer.pending = [])
    (hHas : s.srv.sel.Has key.fd interest attached)
    (status : MngReplyStatus) :
    ∃ wb : Buffer rawBuffSize, wb.pending = [status.code] ∧
      mngRefuse key status s =
        (St.arm { s with
            conn.mngRequest.status := status
            conn.writeBuffer := wb } key.fd opWrite attached,
          MNG_REQUEST_WRITE) := by
  let set : St := { s with conn.mngRequest.status := status }
  have hSet : set.conn.writeBuffer.pending = [] := hWritten
  rcases statusMngMarshal_empty hSet status with
    ⟨wb, hReply, hState⟩
  refine ⟨wb, hReply, ?_⟩
  unfold mngRefuse
  rw [hState]
  refine (setInterestKey_eq hHas ?_ _ _).trans ?_
  · rfl
  · rfl

/- Without its parser the state refuses what arrives. -/
theorem event_refuses
    {c : Arrival}
    (hMng : s.conn.isSocks = false)
    (hState : s.conn.current = some MNG_REQUEST_READ_INDEX)
    (hStatus : s.conn.mngRequest.status = .serverError)
    (hWritten : s.conn.writeBuffer.pending = [])
    (hHas : c.srv.sel.Has key.fd opRead (.mng key.data)) :
    Refuses key c s := by
  let a : Answers := { c.answers with recv := some c.waiting }
  let start : St := { s with srv := c.srv }
  have hStart : start.conn.writeBuffer.pending = [] := hWritten
  have hNot : start.conn.mngRequest.status ≠ .succeeded := by
    intro hBad
    nomatch hBad.symm.trans hStatus
  rcases mngRefuse_eq hStart
    (show start.srv.sel.Has key.fd _ _ from hHas)
    .serverError with ⟨wb, hReply, hRefuse⟩
  have hOther : s.conn.current ≠ some MNG_REQUEST_WRITE := by
    rw [hState]
    decide
  have hFrom : s.conn.current ≠ some USERPASS_READ ∧
      s.conn.current ≠ some MNG_REQUEST_READ := by
    rw [hState]
    decide
  have hEvent : c.event key s = entered MNG_REQUEST_WRITE
      (St.arm { start with
          conn.mngRequest.status := .serverError
          conn.writeBuffer := wb } key.fd opWrite
        (.mng key.data)) := by
    have hReady : (clientMng
        MNG_REQUEST_READ_INDEX).onReadReady =
          some mngRequestIndexRead := rfl
    have hStart' : start.conn.current =
        some MNG_REQUEST_READ_INDEX := hState
    have hCall : mngRequestIndexRead key a start =
        mngRefuse key .serverError start := by
      unfold mngRequestIndexRead
      rw [if_pos hNot]
      exact congrArg (fun x => mngRefuse key x start) hStatus
    refine ((mngEvent_read hStart' hReady
      (hCall.trans hRefuse) hMng (Nat.le_refl _)).trans
        (if_neg hOther)).trans ?_
    exact congrArg (arrive clientMng MNG_REQUEST_WRITE key a)
      (depart_mng_same key hFrom)
  constructor
  · rw [hEvent]
    rfl
  · rw [hEvent]
    exact ⟨rfl, Selector.Has.put_self hHas.1 _, hReply⟩

end Runs

end Socks5d

------------------------------------------------------------
-- Connections That Wait For An Index
------------------------------------------------------------

namespace Socks5d

/- Between two events such a connection waits as it began. -/
def IndexAwaited (c : Conn) : Prop :=
  c.isSocks = false →
    c.current = some MNG_REQUEST_READ_INDEX → AwaitsIndex c

section Waiting

variable {k : ConnId}
variable {key : Key}
variable {a : Answers}
variable {s u : St}
variable {r : St × Nat}

/- A byte is enough for the parser of the index. -/
theorem index_done
    {fed : List UInt8}
    {p : Parser}
    (h : Progress mngRequestIndexBlocks fed p)
    (hFed : fed ≠ []) : isDone p.current = true := by
  have hOne : ∀ (done : List (Block × List UInt8)) size check
      rest, mngRequestIndexBlocks =
        done.map Prod.fst ++ Block.fixed size check :: rest →
          done = [] ∧ size = 1 := by
    intro done size check rest hBlocks
    rcases done with _ | ⟨first, _ | ⟨second, more⟩⟩
    · have hSame := (List.cons.inj hBlocks).1
      exact ⟨rfl, (Block.fixed.inj hSame).1.symm⟩
    · nomatch (List.cons.inj hBlocks).2
    · nomatch (List.cons.inj hBlocks).2
  have hNoCount : ∀ (done : List (Block × List UInt8)) rest,
      mngRequestIndexBlocks ≠
        done.map Prod.fst ++ Block.counted :: rest := by
    intro done rest hBlocks
    rcases done with _ | ⟨first, _ | ⟨second, more⟩⟩
    · nomatch (List.cons.inj hBlocks).1
    · nomatch (List.cons.inj hBlocks).2
    · nomatch (List.cons.inj hBlocks).2
  cases h with
  | inFixed done size check rest field error hBlocks hDone
      hField =>
      rcases hOne done size check rest hBlocks with ⟨rfl, rfl⟩
      have hNil : field = [] :=
        List.length_eq_zero_iff.mp (Nat.lt_one_iff.mp hField)
      rw [hNil] at hFed
      exact absurd rfl hFed
  | atCounted done rest error hBlocks =>
      exact absurd hBlocks (hNoCount done rest)
  | inCounted done size rest field error hBlocks =>
      exact absurd hBlocks (hNoCount done rest)
  | finished => rfl
  | rejected => rfl

theorem setInterestKey_next
    (key : Key)
    (interest : Interest)
    (next : Nat)
    (s : St) :
    (setInterestKey key interest next s).2 = next ∨
      (setInterestKey key interest next s).2 = MNG_ERROR := by
  unfold setInterestKey
  dsimp only
  split
  · exact Or.inl rfl
  · exact Or.inr rfl

/- What was there with the byte is enough as well. -/
theorem index_fed_done
    {rb : Buffer rawBuffSize}
    {bytes : List UInt8}
    (hRoom : rb.room ≠ 0)
    (hBytes : bytes.length = 1) :
    isDone (consume (rb.writeAdv bytes)
      (blockParser mngRequestIndexBlocks)).state = true := by
  have hWell : ∀ block ∈ mngRequestIndexBlocks,
      block.WellFormed := by
    intro block hMem
    rw [List.mem_singleton.mp hMem]
    exact Nat.one_pos
  have hStored : (rb.writeAdv bytes).pending =
      rb.pending ++ bytes := by
    apply Buffer.writeAdv_pending_of_fits
    omega
  have hSome : (rb.writeAdv bytes).pending ≠ [] := by
    rw [hStored]
    intro hNil
    rw [(List.append_eq_nil_iff.mp hNil).2] at hBytes
    nomatch hBytes
  rw [consume_state hSome]
  rcases Progress.of_consume hWell
    (Progress.start hWell (List.cons_ne_nil _ _)) rfl
    (rb.writeAdv bytes) with ⟨used, hSplit, hUsed, hEnd⟩
  rcases hEnd with hDone | hNil
  · exact hDone
  · rw [hNil, List.append_nil] at hSplit
    rw [List.nil_append] at hUsed
    rw [hSplit] at hSome
    exact index_done hUsed hSome

/- So no call stays in the state. -/
theorem mngRequestIndexRead_leaves
    (h : AwaitsIndex s.conn) :
    (mngRequestIndexRead key a s).2 ≠
      MNG_REQUEST_READ_INDEX := by
  have hSet : ∀ interest next t,
      next ≠ MNG_REQUEST_READ_INDEX →
        (setInterestKey key interest next t).2 ≠
          MNG_REQUEST_READ_INDEX := by
    intro interest next t hNext hEq
    rcases setInterestKey_next key interest next t with
      hSame | hError
    · exact hNext (hSame.symm.trans hEq)
    · exact absurd (hError.symm.trans hEq) (by decide)
  have hRefuse : ∀ status t,
      (mngRefuse key status t).2 ≠
        MNG_REQUEST_READ_INDEX := by
    intro status t
    exact hSet _ _ _ (by decide)
  unfold mngRequestIndexRead
  by_cases hStatus : s.conn.mngRequest.status ≠ .succeeded
  · rw [if_pos hStatus]
    exact hRefuse _ _
  rw [if_neg hStatus]
  have hParser : s.conn.mngRequest.parser =
      blockParser mngRequestIndexBlocks := by
    rcases h.parser with ⟨_, hFresh⟩ | hBad
    · exact hFresh
    · rw [hBad] at hStatus
      exact absurd (fun hSame => nomatch hSame) hStatus
  by_cases hRoom : s.conn.readBuffer.room = 0
  · rw [if_pos hRoom]
    exact hRefuse _ _
  rw [if_neg hRoom]
  dsimp only
  by_cases hBytes : (a.recv.getD []).take 1 = []
  · rw [if_pos hBytes]
    exact (by decide : MNG_ERROR ≠ MNG_REQUEST_READ_INDEX)
  rw [if_neg hBytes]
  have hOne : ((a.recv.getD []).take 1).length = 1 := by
    have hPos := List.length_pos_iff.mpr hBytes
    have hLe := List.length_take_le 1 (a.recv.getD [])
    omega
  have hDone := index_fed_done hRoom hOne
  rw [← hParser] at hDone
  rw [if_pos hDone]
  split
  · exact hRefuse _ _
  split
  · rename_i hWrite
    rw [hWrite]
    exact hSet _ _ _ (by decide)
  split
  · rename_i hReads
    rw [hReads]
    exact hSet _ _ _ (by decide)
  · rename_i hWrite hReads
    intro hIndex
    rcases (processMngIndex_frame _ _).2.2.2 with
      hEq | ⟨hEq, _⟩ | hEq
    · exact hWrite hEq
    · exact hReads hEq
    · exact absurd (hEq.symm.trans hIndex) (by decide)

/- Entering the state builds the parser, or fails to. -/
theorem mngRequestIndexInit_awaits
    (hMng : s.conn.isSocks = false)
    (hSent : s.conn.writeBuffer.pending = []) :
    AwaitsIndex (mngRequestIndexInit key a
      (entered MNG_REQUEST_READ_INDEX s)).conn := by
  unfold mngRequestIndexInit mngParserInit
  by_cases hAlloc : a.alloc .mngIndex = true
  · rw [if_pos hAlloc]
    exact ⟨hMng, rfl, Or.inl ⟨rfl, rfl⟩, hSent⟩
  · rw [if_neg hAlloc]
    exact ⟨hMng, rfl, Or.inr rfl, hSent⟩

theorem indexAwaited_preserved :
    Preserved fun _ _ c => IndexAwaited c := by
  refine preserved_reading (P := AwaitsIndex) (Or.inl rfl) ?_
    ?_ ?_
  · intro c addresses log h
    exact ⟨h.service, h.current, h.parser, h.written⟩
  · intro k key a s r _ hHandled _ hNext hBefore
    cases hHandled with
    | index =>
        exact absurd hNext (mngRequestIndexRead_leaves hBefore)
  · intro k key a s r u hMng hTurn hNext hNot hInit
    rcases hTurn.heads (Or.inl hNext) hNot with
      ⟨_, hSent⟩ | ⟨hOther, _⟩
    · cases hInit with
      | index =>
          exact mngRequestIndexInit_awaits
            (hTurn.service.trans hMng) hSent
    · nomatch hNext.symm.trans hOther

end Waiting

end Socks5d

------------------------------------------------------------
-- Agreement
------------------------------------------------------------

namespace Socks5d

/-
  What the client sends to add or delete a user fits into its
  buffer, and the server carries it out and answers, however
  it arrives and whatever the other connections do meanwhile;
  without memory for the parser of the index it refuses.
-/
theorem userEdit_agrees
    (w : World)
    (k : ConnId)
    (edit : UserEdit)
    (stack : List UInt8)
    (hReach : server.Reachable w)
    (hAccepted : k < w.next)
    (hMng : (w.conn k).isSocks = false)
    (hState : (w.conn k).current =
      some MNG_REQUEST_READ_INDEX)
    (hEmpty : (w.conn k).readBuffer.pending = [])
    (hEdit : edit.WellFormed)
    (hStack : stack.length = 512) :
    let key : Key := ⟨(w.conn k).clientFd, k⟩
    let s := w.view k
    ∃ message, Client.sendRequest edit stack = some message ∧
      (s.conn.mngRequest.status = .succeeded →
        ∀ calls last,
          Delivers key message (calls ++ [last]) s →
          (∀ c ∈ calls,
            c.answers.alloc .mngRequest = true) →
            edit.Done key last.srv.users
              (last.event key (arrivals key calls s))) ∧
      (s.conn.mngRequest.status ≠ .succeeded →
        ∀ first rest,
          Delivers key message (first :: rest) s →
            Refuses key first s) := by
  intro key s
  have hAwaits : AwaitsIndex s.conn :=
    conn_invariant indexAwaited_preserved hReach hAccepted
      hMng hState
  refine ⟨_, Client.sendRequest_eq hEdit hStack, ?_, ?_⟩
  · intro hStatus calls last hDelivers hMemory
    exact hAwaits.run hStatus hEmpty hEdit hMemory hDelivers
  · intro hStatus first rest hDelivers
    have hServer : s.conn.mngRequest.status =
        .serverError := by
      rcases hAwaits.parser with ⟨hBad, _⟩ | hServer
      · exact absurd hBad hStatus
      · exact hServer
    exact event_refuses hMng hState hServer hAwaits.written
      hDelivers.2.2.1

/- An administrator `a` has logged in on descriptor 5. -/
def editWorld : World :=
  runTo [
      .read 4 { accept := some 5 },
      .read 5 { recv := some [1, 1, 2] },
      .write 5 { send := some 100 },
      .read 5 { recv := some [1, 1, 0x61, 1, 0x62] },
      .write 5 { send := some 100 }]
    (smallServer methodUsernamePassword ⟨fun _ => {}, 0⟩
      (addUser ⟨fun _ => {}, 0⟩ [0x61] [0x62]))

/- The user `x` with the password `y` is to be added. -/
def addX : UserEdit := .add [0x78] [0x79]

/- The index comes with the first byte that follows. -/
def firstArrival (memory : Bool) : Arrival where
  srv := editWorld.srv
  waiting := [MngIndex.addUser, 1]
  answers := { alloc := fun _ => memory }

def lastArrival (memory : Bool) : Arrival where
  srv := ((firstArrival memory).event ⟨5, 0⟩
    (editWorld.view 0)).srv
  waiting := [1, 0x78, 1, 0x79]
  answers := {}

theorem editWorld_reachable : server.Reachable editWorld :=
  reachable_runTo _
    (.init (smallServer_initial _ _ (by decide) (Or.inr rfl)))

theorem addX_wellFormed : addX.WellFormed := by
  unfold UserEdit.WellFormed
  decide

theorem addX_delivered
    (memory : Bool) :
    Delivers ⟨5, 0⟩ (addX.index :: encodeAll addX.fields)
      ([firstArrival memory] ++ [lastArrival memory])
      (editWorld.view 0) := by
  cases memory with
  | true => decide +kernel
  | false => decide +kernel

/- With memory for the parser `x` is added. -/
theorem addX_agrees :
    addX.Done ⟨5, 0⟩ (lastArrival true).srv.users
      ((lastArrival true).event ⟨5, 0⟩
        ((firstArrival true).event ⟨5, 0⟩
          (editWorld.view 0))) := by
  rcases userEdit_agrees editWorld 0 addX
    (List.replicate 512 0) editWorld_reachable
    (by decide +kernel) (by decide +kernel)
    (by decide +kernel) (by decide +kernel) addX_wellFormed
    List.length_replicate with ⟨message, hSent, hDone, _⟩
  have hMessage : message =
      addX.index :: encodeAll addX.fields :=
    Option.some.inj (hSent.symm.trans
      (Client.sendRequest_eq addX_wellFormed
        List.length_replicate))
  rw [hMessage] at hDone
  refine hDone (by decide +kernel) [firstArrival true]
    (lastArrival true) (addX_delivered true) ?_
  intro c hMem
  rw [List.mem_singleton.mp hMem]
  rfl

/- Without it the server answers 0x01 and adds no one. -/
theorem addX_without_memory :
    server.Reachable editWorld ∧
      (editWorld.conn 0).current =
        some MNG_REQUEST_READ_INDEX ∧
      (editWorld.conn 0).readBuffer.pending = [] ∧
      Client.sendRequest addX (List.replicate 512 0) =
        some (addX.index :: encodeAll addX.fields) ∧
      Delivers ⟨5, 0⟩ (addX.index :: encodeAll addX.fields)
        ([firstArrival false] ++ [lastArrival false])
        (editWorld.view 0) ∧
      (lastArrival false).srv.users.count < maxUsers ∧
      ¬ addX.Done ⟨5, 0⟩ (lastArrival false).srv.users
        ((lastArrival false).event ⟨5, 0⟩
          ((firstArrival false).event ⟨5, 0⟩
            (editWorld.view 0))) := by
  refine ⟨editWorld_reachable, by decide +kernel,
    by decide +kernel, Client.sendRequest_eq addX_wellFormed
      List.length_replicate, addX_delivered false,
    by decide +kernel, ?_⟩
  intro hDone
  have hRoom : (lastArrival false).srv.users.count <
      maxUsers := by decide +kernel
  exact absurd (hDone.1 hRoom).2.reply (by decide +kernel)

end Socks5d
