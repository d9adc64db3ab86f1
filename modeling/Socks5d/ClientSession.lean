import Socks5d.ClientCredentials
import Socks5d.CounterReplies
import Socks5d.Grants
import Socks5d.ListUsers
import Socks5d.StringCompare

/-
  A session of the management client (`client.c`,
  `client_utils.c`) and the server: what the client prints
  as done has been done, exactly as it was typed.

  Main declarations:
    * `Client.User`, `Client.Typed`, `Client.Socket`
    * `Client.sendTypedRequest`, `Client.requestResponse`
    * `Client.main`, `Client.Typed.adjustment`
    * `client_told_truth`
-/

------------------------------------------------------------
-- The Client
------------------------------------------------------------

namespace Socks5d

namespace Client

/- `struct user`; without `-u` the memory is not set. -/
structure User where
  username : List UInt8
  password : List UInt8
  credentials : Bool

/- A word that `scanf("%s")` reads, up to its terminator. -/
structure Word where
  bytes : List UInt8
  some : bytes ≠ []
  text : (0 : UInt8) ∉ bytes

/- What is typed; each index asks for some of the words. -/
structure Typed where
  index : Int
  username : Word
  password : Word
  onOff : Word

/- What the arrays on the stack hold before they are set. -/
structure Arrays where
  credentials : Nat → UInt8
  request : List UInt8
  response : List UInt8
  aux : List UInt8
  requestSize : request.length = 512
  responseSize : response.length = 500
  auxSize : aux.length = 256

/-
  What `send` and `recv` do in the order of the calls:
  whether the bytes are taken, and the bytes that come; none
  come at the end of the stream or on an error.
-/
structure Socket where
  sendHandshake : Bool
  recvHandshake : List UInt8
  sendCredentials : Bool
  recvCredentials : List UInt8
  sendRequest : Bool
  recvResponse : List UInt8

/- Why there are no bytes to send. -/
inductive Refusal where
  | overrun
  | invalidOption
deriving DecidableEq

/- What the client prints of a response. -/
inductive Printed where
  | indexes (supported : List UInt8)
  | users (names : List (List UInt8))
  | stats (label : String) (value : UInt32)
  | success (text : String)
deriving DecidableEq

/- `handshake` -/
def handshake (user : User) : List UInt8 :=
  if user.credentials then [0x01, 0x02, 0x00, 0x02]
  else [0x01, 0x01, 0x00]

/- `handshake_response` and `credentials_response` -/
def pairResponse (received : List UInt8) : UInt8 :=
  if received.length = 2 then received.getD 1 0 else 0xFF

/- `send_credentials`; nothing keeps it inside its buffer. -/
def sendCredentials
    (arrays : Arrays)
    (user : User) : List UInt8 :=
  credentialsSent arrays.credentials user.username
    user.password

/-
  The string that `scanf("%s", array)` stores, however long
  it is: nothing keeps it inside the array.
-/
def scanf (word : Word) : List UInt8 :=
  word.bytes

/- `disable_enable`, the byte after the index -/
def disableEnable
    (word : Word) : Except Refusal UInt8 :=
  let onOff := scanf word
  let lowered := onOff.map asciiLower
  if lowered = [0x6F, 0x6E] then
    return 0x00
  else if lowered = [0x6F, 0x66, 0x66] then
    return 0x01
  else
    throw .invalidOption

/- The bytes of an array that was not overrun. -/
def ofArray :
    Option (List UInt8) → Except Refusal (List UInt8)
| some bytes => .ok bytes
| none => .error .overrun

/- `send_request` -/
def sendTypedRequest
    (arrays : Arrays)
    (typed : Typed) : Except Refusal (List UInt8) :=
  if typed.index = 10 then
    let username := scanf typed.username
    let password := scanf typed.password
    ofArray (sendRequest (.add username password)
      arrays.request)
  else if typed.index = 11 then
    let username := scanf typed.username
    ofArray (sendRequest (.delete username) arrays.request)
  else if typed.index = 12 then do
    let value ← disableEnable typed.onOff
    return [MngIndex.disableAuth, value]
  else if typed.index = 13 then do
    let value ← disableEnable typed.onOff
    return [MngIndex.disablePasswordDissectors, value]
  else if 0 ≤ typed.index ∧ typed.index ≤ 9 then
    return [UInt8.ofNat typed.index.toNat]
  else
    return [0xFF]

/- `supported_indexes` -/
def supportedIndexes (buffer : List UInt8) : List UInt8 :=
  (List.range (buffer.getD 1 0).toNat).map fun i =>
    buffer.getD (2 + i) 0

/- What is printed in front of a counter. -/
def statsLabel (reqIndex : Int) : String :=
  if reqIndex = 2 then
    "Amount of historic connections to the server"
  else if reqIndex = 3 then
    "Amount of actual concurrent connections to the server"
  else if reqIndex = 4 then
    "Max concurrent connections to the server"
  else if reqIndex = 5 then
    "Amount of historic byte transferred by the server"
  else if reqIndex = 6 then
    "Amount of historic authentication attempts to the server"
  else if reqIndex = 7 then
    "Amount of historic connections attempts to the server"
  else if reqIndex = 8 then
    "Average bytes per single server read"
  else "Average bytes per single server write"

/- What is printed of a request that was carried out. -/
def successText (reqIndex : Int) : String :=
  if reqIndex = 10 then "Added user successfully"
  else if reqIndex = 11 then "Deleted user successfully"
  else if reqIndex = 12 then
    "Disabled/enabled server authentication successfully"
  else "Disabled/enabled password dissectors successfully"

/- What is printed of a status that is not a success. -/
def statusText (status : UInt8) : String :=
  if status = MngReplyStatus.indexNotSupported.code then
    "Index not supported"
  else if status = MngReplyStatus.serverError.code then
    "Server error"
  else if status = MngReplyStatus.maxUsersReached.code then
    "Max users reached"
  else ""

/-
  `request_response`. The result of `recv` is not looked at:
  what it does not store is what was in the array.
-/
def requestResponse
    (arrays : Arrays)
    (reqIndex : Int)
    (received : List UInt8) : Except String Printed :=
  let buffer :=
    received ++ arrays.response.drop received.length
  let status := buffer.getD 0 0
  if status ≠ 0x00 then .error (statusText status)
  else if reqIndex = 0 then
    .ok (.indexes (supportedIndexes buffer))
  else if reqIndex = 1 then
    .ok (.users (ListUsers.run arrays.aux buffer).printed)
  else if 2 ≤ reqIndex ∧ reqIndex ≤ 9 then
    .ok (.stats (statsLabel reqIndex) (castUint32 buffer))
  else if 10 ≤ reqIndex ∧ reqIndex ≤ 13 then
    .ok (.success (successText reqIndex))
  else .error ""

/- What a session sends, receives and prints at its end. -/
structure Session where
  sent : List UInt8
  received : List UInt8
  printed : Option Printed

/-
  `main`, once the socket is connected; every `goto end`
  prints no result.
-/
def main
    (user : User)
    (typed : Typed)
    (arrays : Arrays)
    (socket : Socket) : Session :=
  let hello := handshake user
  if socket.sendHandshake = false then ⟨[], [], none⟩
  else
    let answer := socket.recvHandshake.take 2
    let response := pairResponse answer
    if response = 0xFF then ⟨hello, answer, none⟩
    else
      let login :=
        if response = 0x02 then sendCredentials arrays user
        else []
      if response = 0x02 ∧ socket.sendCredentials = false then
        ⟨hello, answer, none⟩
      else
        let verdict := socket.recvCredentials.take 2
        if pairResponse verdict ≠ 0x00 then
          ⟨hello ++ login, answer ++ verdict, none⟩
        else
          match sendTypedRequest arrays typed with
          | .error _ =>
              ⟨hello ++ login, answer ++ verdict, none⟩
          | .ok request =>
              if socket.sendRequest = false then
                ⟨hello ++ login, answer ++ verdict, none⟩
              else
                let reply := socket.recvResponse.take 500
                ⟨hello ++ login ++ request,
                  answer ++ verdict ++ reply,
                  (requestResponse arrays typed.index
                    reply).toOption⟩

end Client

end Socks5d

------------------------------------------------------------
-- What Was Typed
------------------------------------------------------------

namespace Socks5d

namespace Client

namespace Typed

/- What `on` and `off` stand for, in any case of letters. -/
def switch (typed : Typed) : Option UInt8 :=
  if EqualUpToCase typed.onOff.bytes [0x6F, 0x6E] then
    some 0x00
  else if EqualUpToCase typed.onOff.bytes
      [0x6F, 0x66, 0x66] then
    some 0x01
  else none

/- The change of the settings that the user asks for. -/
def adjustment (typed : Typed) : Option Adjustment :=
  if typed.index = 10 then
    some (.addUser typed.username.bytes typed.password.bytes)
  else if typed.index = 11 then
    some (.deleteUser typed.username.bytes)
  else if typed.index = 12 then
    typed.switch.map .disableAuth
  else if typed.index = 13 then
    typed.switch.map .disablePasswordDissectors
  else none

/-
  The typed words stay inside the arrays that `scanf` stores
  them in, with their terminators.
-/
structure Fits (typed : Typed) : Prop where
  username : typed.index = 10 ∨ typed.index = 11 →
    typed.username.bytes.length + 1 ≤ 255
  password : typed.index = 10 →
    typed.password.bytes.length + 1 ≤ 255
  onOff : typed.index = 12 ∨ typed.index = 13 →
    typed.onOff.bytes.length + 1 ≤ 50

end Typed

/-
  The user and the password of `-u` stay inside the buffer of
  `send_credentials`, and each length is one byte.
-/
structure User.Fits (user : User) : Prop where
  buffer : CredentialsFit user.username user.password
  username : user.username.length < 256
  password : user.password.length < 256

section Sending

variable {user : User}
variable {typed : Typed}
variable {arrays : Arrays}
variable {socket : Socket}
variable {word : Word}
variable {value : UInt8}
variable {bytes : List UInt8}

/- A step that may fail, and what comes after it. -/
theorem bind_ok
    {α β : Type}
    {first : Except Refusal α}
    {after : α → Except Refusal β}
    {result : β}
    (h : first >>= after = .ok result) :
    ∃ value, first = .ok value ∧ after value = .ok result := by
  cases first with
  | error refusal => nomatch h
  | ok value => exact ⟨value, rfl, h⟩

/- Only the two words are taken, in any case of letters. -/
theorem disableEnable_ok
    (h : disableEnable typed.onOff = .ok value) :
    typed.switch = some value := by
  have hOn : EqualUpToCase typed.onOff.bytes [0x6F, 0x6E] ↔
      typed.onOff.bytes.map asciiLower = [0x6F, 0x6E] :=
    Iff.rfl
  have hOff : EqualUpToCase typed.onOff.bytes
      [0x6F, 0x66, 0x66] ↔
        typed.onOff.bytes.map asciiLower =
          [0x6F, 0x66, 0x66] :=
    Iff.rfl
  unfold disableEnable scanf at h
  unfold Typed.switch
  dsimp only at h
  split at h
  · rename_i hIs
    rw [if_pos (hOn.mpr hIs)]
    exact congrArg some (Except.ok.inj h)
  rename_i hNotOn
  rw [if_neg fun hBad => hNotOn (hOn.mp hBad)]
  split at h
  · rename_i hIs
    rw [if_pos (hOff.mpr hIs)]
    exact congrArg some (Except.ok.inj h)
  · nomatch h

/- The request that holds a word that was taken. -/
theorem switch_ok
    {index : MngIndex}
    (h : (do
      let value ← disableEnable typed.onOff
      return [index, value]) = .ok bytes) :
    ∃ value, typed.switch = some value ∧
      bytes = [index, value] := by
  rcases bind_ok h with ⟨value, hValue, hBytes⟩
  exact ⟨value, disableEnable_ok hValue,
    (Except.ok.inj hBytes).symm⟩

/- The words of an edit that fit into their arrays. -/
theorem ofArray_ok
    {edit : UserEdit}
    (hEdit : edit.WellFormed)
    (h : ofArray (sendRequest edit arrays.request) =
      .ok bytes) :
    bytes = edit.index :: encodeAll edit.fields := by
  rw [sendRequest_eq hEdit arrays.requestSize] at h
  exact (Except.ok.inj h).symm

theorem Word.short
    (h : word.bytes.length + 1 ≤ 255) :
    1 ≤ word.bytes.length ∧ word.bytes.length ≤ 254 ∧
      (0 : UInt8) ∉ word.bytes :=
  ⟨List.length_pos_iff.mpr word.some, by omega, word.text⟩

/-
  What is sent for an index that changes the settings is the
  request that was typed.
-/
theorem sendTypedRequest_ok
    (hFits : typed.Fits)
    (hChange : 10 ≤ typed.index ∧ typed.index ≤ 13)
    (h : sendTypedRequest arrays typed = .ok bytes) :
    ∃ r, typed.adjustment = some r ∧ r.WellFormed ∧
      bytes = r.bytes := by
  have hFixed : ∀ {switched : Adjustment} {value : UInt8},
      switched.fields = [(Block.fixed 1 none, [value])] →
        switched.WellFormed := by
    intro switched value hFields entry hIn
    rw [hFields] at hIn
    rw [List.mem_singleton.mp hIn]
    exact ⟨rfl, fun _ hBad => nomatch hBad⟩
  unfold sendTypedRequest at h
  unfold Typed.adjustment
  split at h
  · rename_i hIs
    rw [if_pos hIs]
    have hShort := hFits.username (Or.inl hIs)
    have hBrief := hFits.password hIs
    have hEdit : (UserEdit.add typed.username.bytes
        typed.password.bytes).WellFormed := by
      intro entry hIn
      rcases List.mem_cons.mp hIn with rfl | hLast
      · exact Word.short hShort
      · rw [List.mem_singleton.mp hLast]
        exact Word.short hBrief
    exact ⟨_, rfl, hEdit.accepts, ofArray_ok hEdit h⟩
  rename_i hNotAdd
  rw [if_neg hNotAdd]
  split at h
  · rename_i hIs
    rw [if_pos hIs]
    have hShort := hFits.username (Or.inr hIs)
    have hEdit : (UserEdit.delete
        typed.username.bytes).WellFormed := by
      intro entry hIn
      rw [List.mem_singleton.mp hIn]
      exact Word.short hShort
    exact ⟨_, rfl, hEdit.accepts, ofArray_ok hEdit h⟩
  rename_i hNotDelete
  rw [if_neg hNotDelete]
  split at h
  · rename_i hIs
    rw [if_pos hIs]
    rcases switch_ok h with ⟨value, hSwitch, hBytes⟩
    rw [hSwitch]
    exact ⟨.disableAuth value, rfl, hFixed rfl, hBytes⟩
  rename_i hNotAuth
  rw [if_neg hNotAuth]
  split at h
  · rename_i hIs
    rw [if_pos hIs]
    rcases switch_ok h with ⟨value, hSwitch, hBytes⟩
    rw [hSwitch]
    exact ⟨.disablePasswordDissectors value, rfl, hFixed rfl,
      hBytes⟩
  · omega

end Sending

end Client

end Socks5d

------------------------------------------------------------
-- What The Server Reads Of It
------------------------------------------------------------

namespace Socks5d

section Reading

variable {x y : List UInt8}
variable {r other : Adjustment}

theorem Adjustment.eq_of_fields
    (hIndex : other.index = r.index)
    (hFields : other.fields = r.fields) : other = r := by
  cases other with
  | addUser username password =>
      cases r with
      | addUser _ _ =>
          injection hFields with hUser hRest
          injection hRest with hPass _
          rw [(Prod.mk.inj hUser).2, (Prod.mk.inj hPass).2]
      | _ => nomatch hIndex
  | deleteUser username =>
      cases r with
      | deleteUser _ =>
          injection hFields with hUser _
          rw [(Prod.mk.inj hUser).2]
      | _ => nomatch hIndex
  | disableAuth option =>
      cases r with
      | disableAuth _ =>
          injection hFields with hOption _
          rw [(List.cons.inj (Prod.mk.inj hOption).2).1]
      | _ => nomatch hIndex
  | disablePasswordDissectors value =>
      cases r with
      | disablePasswordDissectors _ =>
          injection hFields with hValue _
          rw [(List.cons.inj (Prod.mk.inj hValue).2).1]
      | _ => nomatch hIndex

/- A request says where it ends and what it asks for. -/
theorem Adjustment.bytes_append
    (h : other.WellFormed)
    (hSent : r.WellFormed)
    (hBytes : other.bytes ++ x = r.bytes) : other = r := by
  have hBoth := List.cons.inj hBytes
  have hBlocks : r.fields.map Prod.fst =
      other.fields.map Prod.fst := by
    cases other <;> cases r <;> first
      | rfl
      | nomatch hBoth.1
  rcases encodeAll_append
    (hBlocks.trans (List.append_nil _).symm) h hSent hBoth.2
    with ⟨more, hFields, _, hNone⟩
  rw [List.map_eq_nil_iff.mp hNone, List.append_nil]
    at hFields
  exact eq_of_fields hBoth.1 hFields.symm

/- An index without parameters starts no such request. -/
theorem Adjustment.index_append
    {index : MngIndex}
    (hParams : mngParamsBlocks index = none)
    (hBytes : [index] ++ x = r.bytes) : False := by
  have hIs : index = r.index := (List.cons.inj hBytes).1
  rw [hIs] at hParams
  cases r <;> nomatch hParams

/- What follows the same hello and login is the same. -/
theorem greeting_append
    {methods offered name pass username password : List UInt8}
    (hMethods : methods.length ≤ 255)
    (hOffered : offered.length ≤ 255)
    (hLengths : name.length < 256 ∧ pass.length < 256)
    (hUser : username.length < 256)
    (hPass : password.length < 256)
    (hBytes : helloMessage mngVersion methods ++
        loginMessage name pass ++ x =
      helloMessage mngVersion offered ++
        loginMessage username password ++ y) : x = y := by
  rw [List.append_assoc, List.append_assoc] at hBytes
  have hCounted : ∀ {field more : List UInt8} {u v},
      field.length < 256 → more.length < 256 →
      UInt8.ofNat field.length :: field ++ u =
        UInt8.ofNat more.length :: more ++ v → u = v := by
    intro field more u v hField hMore hSame
    have hAccepts : Block.counted.Accepts field := hField
    exact (Block.encode_append hAccepts hMore hSame).2
  have hLogin := hCounted (Nat.lt_succ_of_le hMethods)
    (Nat.lt_succ_of_le hOffered) (List.cons.inj hBytes).2
  unfold loginMessage at hLogin
  simp only [List.cons_append, List.append_assoc] at hLogin
  have hNames := hCounted hLengths.1 hUser
    (List.cons.inj hLogin).2
  exact hCounted hLengths.2 hPass hNames

end Reading

end Socks5d

------------------------------------------------------------
-- Client And Server
------------------------------------------------------------

namespace Socks5d

section Sessions

variable {w : World}
variable {k : ConnId}
variable {user : Client.User}
variable {typed : Client.Typed}
variable {arrays : Client.Arrays}
variable {socket : Client.Socket}
variable {text : String}

/- How a session goes that ends with a success. -/
structure Succeeds
    (user : Client.User)
    (typed : Client.Typed)
    (arrays : Client.Arrays)
    (socket : Client.Socket)
    (session : Client.Session) : Prop where
  change : 10 ≤ typed.index ∧ typed.index ≤ 13
  goes : ∃ first method second login request,
    session.sent =
        Client.handshake user ++ login ++ request ∧
      session.received = [first, method, second, 0x00] ++
        socket.recvResponse.take 500 ∧
      (method = 0x02 → login =
        loginMessage user.username user.password) ∧
      Client.sendTypedRequest arrays typed = .ok request
  status : socket.recvResponse ≠ [] →
    ∃ rest, socket.recvResponse.take 500 = 0x00 :: rest

/- The second of two bytes, or the byte of an error. -/
theorem pairResponse_eq
    {received : List UInt8}
    (h : Client.pairResponse (received.take 2) ≠ 0xFF) :
    ∃ first, received.take 2 =
      [first, Client.pairResponse (received.take 2)] := by
  unfold Client.pairResponse at h ⊢
  split
  · rename_i hTwo
    rcases List.length_eq_two.mp hTwo with ⟨x, y, hBoth⟩
    rw [hBoth]
    exact ⟨x, rfl⟩
  · rename_i hOther
    rw [if_neg hOther] at h
    exact absurd rfl h

/- Only a status of zero is printed as a success. -/
theorem requestResponse_success
    {reqIndex : Int}
    {reply : List UInt8}
    (h : (Client.requestResponse arrays reqIndex
      reply).toOption = some (.success text)) :
    (10 ≤ reqIndex ∧ reqIndex ≤ 13) ∧
      (reply ≠ [] → ∃ rest, reply = 0x00 :: rest) := by
  unfold Client.requestResponse at h
  dsimp only at h
  split at h
  · nomatch h
  rename_i hStatus
  rw [not_not] at hStatus
  constructor
  · split at h
    · nomatch h
    split at h
    · nomatch h
    split at h
    · nomatch h
    split at h
    · assumption
    · nomatch h
  · intro hSome
    rcases reply with _ | ⟨first, rest⟩
    · exact absurd rfl hSome
    · exact ⟨rest, by rw [← hStatus]; rfl⟩

/- A session that ends with a success has gone all the way. -/
theorem main_success
    (h : (Client.main user typed arrays socket).printed =
      some (.success text)) :
    Succeeds user typed arrays socket
      (Client.main user typed arrays socket) := by
  unfold Client.main at h ⊢
  dsimp only at h ⊢
  split at h
  · nomatch h
  rename_i hHandshake
  rw [if_neg hHandshake]
  split at h
  · nomatch h
  rename_i hResponse
  rw [if_neg hResponse]
  rcases pairResponse_eq hResponse with ⟨first, hAnswer⟩
  split at h
  · nomatch h
  rename_i hSent
  rw [if_neg hSent]
  split at h
  · nomatch h
  rename_i hVerdict
  rw [if_neg hVerdict]
  split at h
  · nomatch h
  rename_i request hRequest
  split at h
  · nomatch h
  rename_i hTaken
  rw [if_neg hTaken]
  rw [not_not] at hVerdict
  have hAnswered : Client.pairResponse
      (socket.recvCredentials.take 2) ≠ 0xFF := by
    rw [hVerdict]
    decide
  rcases pairResponse_eq hAnswered with ⟨second, hPair⟩
  rcases requestResponse_success h with ⟨hChange, hStatus⟩
  refine ⟨hChange, ⟨first,
    Client.pairResponse (socket.recvHandshake.take 2), second,
    _, request, rfl, ?_, ?_, hRequest⟩, ?_⟩
  · rw [hPair, hVerdict, hAnswer]
    rfl
  · intro hMethod
    rw [if_pos hMethod]
    exact credentialsSent_eq _ _ _
  · intro hSome
    apply hStatus
    intro hNone
    rcases List.take_eq_nil_iff.mp hNone with hBad | hBad
    · nomatch hBad
    · exact hSome hBad

theorem handshake_eq
    (user : Client.User) :
    ∃ offered, offered.length ≤ 255 ∧
      Client.handshake user =
        helloMessage mngVersion offered := by
  unfold Client.handshake
  split
  · exact ⟨[0x00, 0x02], by decide, rfl⟩
  · exact ⟨[0x00], by decide, rfl⟩

/-
  In every run of the server, a client on a management
  connection that prints that a change of the settings was
  made is right: the server has completed exactly the change
  that was typed, and no other one on this connection, and
  it could be made when its turn came. The client's arrays
  hold what it is given, and all that is asked of the network
  is that neither side receives what the other has not sent,
  and that a response came.
-/
theorem client_told_truth
    (hInit : Initial w)
    (hRoom : w.srv.users.count ≤ maxUsers)
    (labels : List Label)
    (hOld : k < (runTo labels w).next)
    (hMng : ((runTo labels w).conn k).isSocks = false)
    (hUser : user.Fits)
    (hTyped : typed.Fits)
    (hSent : bytesRead ((runTo labels w).conn k).log <+:
      (Client.main user typed arrays socket).sent)
    (hReceived :
      (Client.main user typed arrays socket).received <+:
        ((runTo labels w).conn k).wire)
    (hCame : socket.recvResponse ≠ [])
    (hPrinted :
      (Client.main user typed arrays socket).printed =
        some (.success text)) :
    ∃ r before after, typed.adjustment = some r ∧
      adjustments labels w = before ++ (k, r) :: after ∧
      (w.srv.policy.applyAll before).Grants r ∧
      ∀ other, (k, other) ∈ adjustments labels w →
        other = r := by
  rcases main_success hPrinted with ⟨hChange, ⟨first, method,
    second, login, request, hOut, hIn, hLogin, hRequest⟩,
    hStatus⟩
  rcases hStatus hCame with ⟨rest, hZero⟩
  rw [hIn, hZero] at hReceived
  -- the first five bytes tell of a success
  have hTold := reachable_truthful
    (reachable_runTo labels (.init hInit)) hOld hMng first
      method second
  have hFive : [first, method, second, 0x00, 0x00] <+:
      ((runTo labels w).conn k).wire := by
    refine List.IsPrefix.trans ⟨rest, ?_⟩ hReceived
    rfl
  rcases hTold hFive with ⟨hMethod, greeting, message, unread,
    hGreeting, hRead, hMessage⟩
  rcases Client.sendTypedRequest_ok hTyped hChange hRequest
    with ⟨r, hAsked, hWhole, hBytes⟩
  rcases handshake_eq user with ⟨offered, hOffered, hHello⟩
  rw [hOut, hHello, hLogin hMethod, hBytes, hRead] at hSent
  rcases hSent with ⟨later, hLater⟩
  cases hGreeting with
  | login methods name pass hMethods hLengths =>
      rw [List.append_assoc, List.append_assoc
        (helloMessage _ _ ++ _)] at hLater
      have hRest := greeting_append hMethods hOffered hLengths
        hUser.username hUser.password hLater
      have hIs : ∃ asked,
          ((runTo labels w).conn k).carriedOut = some asked ∧
            asked = r := by
        rcases hMessage with
          ⟨index, hParams, hOnly⟩ |
            ⟨asked, hMade, hForm, hAll⟩
        · rw [hOnly] at hRest
          exact (Adjustment.index_append hParams hRest).elim
        · rw [hAll] at hRest
          exact ⟨asked, hMade,
            Adjustment.bytes_append hForm hWhole hRest⟩
      rcases hIs with ⟨asked, hCarried, rfl⟩
      have hDone := (mem_adjustments hInit labels k
        asked).mpr ⟨hOld, hCarried⟩
      rcases adjustment_granted hInit hRoom hDone hFive with
        ⟨before, after, hAll, hGranted⟩
      refine ⟨asked, before, after, hAsked, hAll, hGranted, ?_⟩
      intro other hOther
      have hAlso := ((mem_adjustments hInit labels k
        other).mp hOther).2
      exact Option.some.inj (hAlso.symm.trans hCarried)

/- The administrator `a` turns authentication off. -/
def offSession : List Label := [
  .read 4 { accept := some 5 },
  .read 5 { recv := some [1, 2, 0, 2] },
  .write 5 { send := some 100 },
  .read 5 { recv := some [1, 1, 0x61, 1, 0x62] },
  .write 5 { send := some 100 },
  .read 5 { recv := some [0x0C] },
  .read 5 { recv := some [0x01] },
  .write 5 { send := some 100 }]

/- The words `a` and `OFF`. -/
def letterA : Client.Word := ⟨[0x61], by decide, by decide⟩

def typesOff : Client.Typed :=
  ⟨12, letterA, letterA,
    ⟨[0x4F, 0x46, 0x46], by decide, by decide⟩⟩

def emptyArrays : Client.Arrays where
  credentials := fun _ => 0
  request := List.replicate 512 0
  response := List.replicate 500 0
  aux := List.replicate 256 0
  requestSize := List.length_replicate
  responseSize := List.length_replicate
  auxSize := List.length_replicate

def offSocket : Client.Socket :=
  ⟨true, [1, 2], true, [1, 0], true, [0]⟩

theorem client_told_truth_off :
    ∃ r before after, typesOff.adjustment = some r ∧
      adjustments offSession oneAdminServer =
        before ++ (0, r) :: after ∧
      (oneAdminServer.srv.policy.applyAll before).Grants r ∧
      ∀ other,
        (0, other) ∈ adjustments offSession oneAdminServer →
          other = r := by
  have hPrinted : (Client.main ⟨[0x61], [0x62], true⟩ typesOff
      emptyArrays offSocket).printed =
        some (.success (Client.successText 12)) := by
    decide +kernel
  exact client_told_truth
    (smallServer_initial _ _ (by decide) (Or.inr rfl)) (by decide)
    offSession (by decide +kernel) (by decide +kernel)
    ⟨credentialsFit_iff.mpr (by decide), by decide,
      by decide⟩
    ⟨fun _ => by decide, fun _ => by decide,
      fun _ => by decide⟩
    (by decide +kernel) (by decide +kernel) (by decide)
    hPrinted

end Sessions

end Socks5d
