import Socks5d.MngClient
import Socks5d.Streams

/-
  Requests that change the settings: what they are for, what
  the parser has of them, and what a management connection
  reads of the bytes it receives.

  Main declarations:
    * `Adjustment`, `Policy`, `Policy.apply`
    * `Conn.carriedOut`
    * `processMngParamsRequest_policy`
    * `Reads`, `IndexCall`, `IndexRead`
-/

------------------------------------------------------------
-- Requests That Change The Settings
------------------------------------------------------------

namespace Socks5d

/- A request with parameters, with the bytes of its fields. -/
inductive Adjustment where
  | addUser (username password : List UInt8)
  | deleteUser (username : List UInt8)
  | disableAuth (option : UInt8)
  | disablePasswordDissectors (value : UInt8)
deriving DecidableEq

namespace Adjustment

def index : Adjustment → MngIndex
| addUser _ _ => MngIndex.addUser
| deleteUser _ => MngIndex.deleteUser
| disableAuth _ => MngIndex.disableAuth
| disablePasswordDissectors _ =>
    MngIndex.disablePasswordDissectors

def fields : Adjustment → List (Block × List UInt8)
| addUser username password =>
    [(.counted, username), (.counted, password)]
| deleteUser username => [(.counted, username)]
| disableAuth option => [(.fixed 1 none, [option])]
| disablePasswordDissectors value => [(.fixed 1 none, [value])]

/- The request as it is sent. -/
def bytes (r : Adjustment) : List UInt8 :=
  r.index :: encodeAll r.fields

/- Every field has a length that can be sent. -/
def WellFormed (r : Adjustment) : Prop :=
  ∀ entry ∈ r.fields, entry.1.Accepts entry.2

end Adjustment

/- What the requests are about. -/
structure Policy where
  users : List UserEntry
  authMethod : UInt8
  dissectors : UInt8
deriving DecidableEq

/- What a request is for. -/
def Policy.apply (p : Policy) : Adjustment → Policy
| .addUser username password =>
    if p.users.length < maxUsers then
      { p with users := p.users ++
          [{ name := some (cString username)
             pass := some (cString password)
             held := true }] }
    else p
| .deleteUser username =>
    -- the process ends where the user was given with `-u`
    if freesOwn p.users username then
      { p with users := p.users.eraseP fun entry =>
          entry.name.map cString = some (cString username) }
    else p
| .disableAuth option =>
    { p with authMethod :=
        if option = 0x00 then methodUsernamePassword
        else methodNoAuthenticationRequired }
| .disablePasswordDissectors value =>
    { p with dissectors := value }

/- The policy that the server follows. -/
def Server.policy (srv : Server) : Policy where
  users := srv.users.list
  authMethod := srv.authMethod
  dissectors := srv.passwordDissectors

theorem Server.policy_of_settings
    {x y : Server}
    (h : y.settings = x.settings) : y.policy = x.policy := by
  unfold Server.settings at h
  unfold Server.policy
  injection h with hUsers hRest
  injection hRest with hMethod hDissectors
  rw [hUsers, hMethod, hDissectors]

/-
  The request whose parameters have been parsed; every result
  has a terminator behind its field.
-/
def MngRequestSt.asked (m : MngRequestSt) :
    Option Adjustment :=
  let field (i : Nat) : List UInt8 :=
    ((m.parser.resultAt i).getD []).dropLast
  match m.index with
  | MngIndex.addUser => some (.addUser (field 1) (field 3))
  | MngIndex.deleteUser => some (.deleteUser (field 1))
  | MngIndex.disableAuth =>
      some (.disableAuth ((field 0).headD 0))
  | MngIndex.disablePasswordDissectors =>
      some (.disablePasswordDissectors ((field 0).headD 0))
  | _ => none

/-
  The request of a management connection that has been
  carried out: the parser took it, and the answer was entered.
-/
def Conn.carriedOut (c : Conn) : Option Adjustment :=
  if c.isSocks = false ∧ c.mngRequest.status = .succeeded ∧
      .enter MNG_REQUEST_WRITE ∈ c.log then
    c.mngRequest.asked
  else none

section Asking

variable {m : MngRequestSt}
variable {r : Adjustment}
variable {fed : List UInt8}
variable {s : St}

/- Only the four indexes with parameters ask for something. -/
theorem asked_of_params_none
    (h : mngParamsBlocks m.index = none) : m.asked = none := by
  unfold mngParamsBlocks at h
  unfold MngRequestSt.asked
  dsimp only
  split at h
  · nomatch h
  · nomatch h
  · nomatch h
  · nomatch h
  · rename_i hAdd hDelete hAuth hDissectors
    split
    · rename_i hIs
      exact absurd hIs hAdd
    · rename_i hIs
      exact absurd hIs hDelete
    · rename_i hIs
      exact absurd hIs hAuth
    · rename_i hIs
      exact absurd hIs hDissectors
    · rfl

/- The fields are read back from the parser that has them. -/
theorem asked_of_parserAt
    (hIndex : m.index = r.index)
    {error : UInt8}
    (hParser : m.parser =
      parserAt r.fields [] 0 [] .doneRead error) :
    m.asked = some r := by
  unfold MngRequestSt.asked
  rw [hIndex, hParser]
  cases r with
  | addUser username password =>
      have hFirst : ((parserAt
          (Adjustment.addUser username password).fields [] 0
            [] .doneRead error).resultAt 1) =
              some (username ++ [0]) := rfl
      have hSecond : ((parserAt
          (Adjustment.addUser username password).fields [] 0
            [] .doneRead error).resultAt 3) =
              some (password ++ [0]) := rfl
      simp only [hFirst, hSecond, Option.getD_some,
        List.dropLast_concat]
      rfl
  | deleteUser username =>
      have hFirst : ((parserAt
          (Adjustment.deleteUser username).fields [] 0
            [] .doneRead error).resultAt 1) =
              some (username ++ [0]) := rfl
      simp only [hFirst, Option.getD_some,
        List.dropLast_concat]
      rfl
  | disableAuth option => rfl
  | disablePasswordDissectors value => rfl

/- A message of one field. -/
theorem single_field
    {block : Block}
    {done : List (Block × List UInt8)}
    (h : [block] = done.map Prod.fst) :
    ∃ field, done = [(block, field)] := by
  rcases done with _ | ⟨⟨_, field⟩, _ | _⟩
  · nomatch h
  · rcases List.cons.inj h with ⟨rfl, _⟩
    exact ⟨field, rfl⟩
  · nomatch (List.cons.inj h).2

/- A field of one byte. -/
theorem single_byte
    {check : Option Check}
    {field : List UInt8}
    (h : (Block.fixed 1 check).Accepts field) :
    ∃ b, field = [b] :=
  List.length_eq_one_iff.mp h.1

/- A whole message is one of the requests. -/
theorem asked_of_message
    {blocks : List Block}
    (hBlocks : mngParamsBlocks m.index = some blocks)
    (hProgress : Progress blocks fed m.parser)
    (hDone : m.parser.current = .doneRead) :
    ∃ r : Adjustment, r.index = m.index ∧
      fed = encodeAll r.fields ∧ r.WellFormed ∧
      ∃ error, m.parser =
        parserAt r.fields [] 0 [] .doneRead error := by
  have hTwo : ∀ done : List (Block × List UInt8),
      [Block.counted, .counted] = done.map Prod.fst →
        ∃ u p, done = [(.counted, u), (.counted, p)] := by
    intro done hMap
    rcases done with _ | ⟨⟨_, u⟩, _ | ⟨⟨_, p⟩, _ | _⟩⟩
    · nomatch hMap
    · nomatch (List.cons.inj hMap).2
    · rcases List.cons.inj hMap with ⟨rfl, hRest⟩
      rcases List.cons.inj hRest with ⟨rfl, _⟩
      exact ⟨u, p, rfl⟩
    · nomatch (List.cons.inj (List.cons.inj hMap).2).2
  generalize hParser : m.parser = p at hProgress hDone
  cases hProgress with
  | inFixed => nomatch hDone
  | atCounted => nomatch hDone
  | inCounted => nomatch hDone
  | rejected => nomatch hDone
  | finished done error hMap hAccepts =>
      unfold mngParamsBlocks at hBlocks
      split at hBlocks
      · rename_i hIs
        rw [← Option.some.inj hBlocks] at hMap
        rcases hTwo done hMap with ⟨u, p, rfl⟩
        exact ⟨.addUser u p, hIs.symm, rfl, hAccepts, error, rfl⟩
      · rename_i hIs
        rw [← Option.some.inj hBlocks] at hMap
        rcases single_field hMap with ⟨u, rfl⟩
        exact ⟨.deleteUser u, hIs.symm, rfl, hAccepts, error, rfl⟩
      · rename_i hIs
        rw [← Option.some.inj hBlocks] at hMap
        rcases single_field hMap with ⟨u, rfl⟩
        rcases single_byte (hAccepts _ List.mem_cons_self) with
          ⟨b, rfl⟩
        exact ⟨.disableAuth b, hIs.symm, rfl, hAccepts, error,
          rfl⟩
      · rename_i hIs
        rw [← Option.some.inj hBlocks] at hMap
        rcases single_field hMap with ⟨u, rfl⟩
        rcases single_byte (hAccepts _ List.mem_cons_self) with
          ⟨b, rfl⟩
        exact ⟨.disablePasswordDissectors b, hIs.symm, rfl,
          hAccepts, error, rfl⟩
      · nomatch hBlocks

/- Answering does not touch what the policy is about. -/
theorem statusMngMarshal_policy
    (s : St)
    (status : MngReplyStatus) :
    (statusMngMarshal s status).srv.policy =
      s.srv.policy :=
  Server.policy_of_settings (marshal_settings _ _ _)

/- Carrying a request out applies it to the policy. -/
theorem processMngParamsRequest_policy
    (hIndex : s.conn.mngRequest.index = r.index)
    {error : UInt8}
    (hParser : s.conn.mngRequest.parser =
      parserAt r.fields [] 0 [] .doneRead error) :
    (processMngParamsRequest s).srv.policy =
      s.srv.policy.apply r := by
  cases r with
  | addUser username password =>
      unfold processMngParamsRequest
      rw [hIndex, hParser]
      have hFirst : ((parserAt
          (Adjustment.addUser username password).fields [] 0
            [] .doneRead error).resultAt 1) =
              some (username ++ [0]) := rfl
      have hSecond : ((parserAt
          (Adjustment.addUser username password).fields [] 0
            [] .doneRead error).resultAt 3) =
              some (password ++ [0]) := rfl
      simp only [hFirst, hSecond, Option.getD_some]
      show (if s.srv.users.count = maxUsers then
          statusMngMarshal s .maxUsersReached
        else statusMngMarshal _ _).srv.policy = if _ then _
          else _
      have hLength := s.srv.users.length_list
      by_cases hFull : s.srv.users.count = maxUsers
      · rw [if_pos hFull, statusMngMarshal_policy, if_neg]
        show ¬ s.srv.users.list.length < maxUsers
        omega
      · rw [if_neg hFull, statusMngMarshal_policy]
        by_cases hRoom : s.srv.users.count < maxUsers
        · rw [if_pos (show s.srv.policy.users.length <
            maxUsers from hLength ▸ hRoom)]
          unfold Server.policy
          dsimp only
          rw [addUser_list hRoom, cString_append,
            cString_append]
        · rw [if_neg (show ¬ s.srv.policy.users.length <
            maxUsers from hLength ▸ hRoom)]
          unfold Server.policy addUser
          dsimp only
          rw [if_pos (Nat.not_lt.mp hRoom)]
  | deleteUser username =>
      have hFirst : ((parserAt
          (Adjustment.deleteUser username).fields [] 0
            [] .doneRead error).resultAt 1) =
              some (username ++ [0]) := rfl
      have hSame := freesOwn_terminated s.srv.users.list username
      rw [← hParser] at hFirst
      show _ = if freesOwn s.srv.users.list username then _
        else _
      cases hOwn : freesOwn s.srv.users.list username with
      | true =>
          rcases deleteUser_some (hSame.trans hOwn) with
            ⟨users, hDeleted⟩
          have hList := deleteUser_list hDeleted
          unfold strcmpEq at hList
          rw [cString_append] at hList
          rw [processMngParamsRequest_deleted hIndex hFirst
            hDeleted, if_pos rfl, statusMngMarshal_policy]
          unfold Server.policy
          dsimp only
          rw [hList]
      | false =>
          rw [processMngParamsRequest_given hIndex hFirst
            (deleteUser_none (hSame.trans hOwn))]
          rfl
  | disableAuth option =>
      unfold processMngParamsRequest
      rw [hIndex, hParser]
      show (statusMngMarshal _ _).srv.policy = _
      rw [statusMngMarshal_policy]
      rfl
  | disablePasswordDissectors value =>
      unfold processMngParamsRequest
      rw [hIndex, hParser]
      show (statusMngMarshal _ _).srv.policy = _
      rw [statusMngMarshal_policy]
      rfl

end Asking

end Socks5d

------------------------------------------------------------
-- What A Management Connection Has Read
------------------------------------------------------------

namespace Socks5d

/- The bytes of a call of `recv`. -/
def Ev.read : Ev → List UInt8
| .recv _ bytes => bytes
| _ => []

/- All that was received on a connection. -/
def bytesRead (log : List Ev) : List UInt8 :=
  log.flatMap Ev.read

/- Some bytes are read, and some of what is unread is used. -/
structure Reads
    (c d : Conn)
    (used : List UInt8) : Prop where
  log : ∃ events, d.log = c.log ++ events ∧
    (∀ state, .enter state ∉ events) ∧
      c.readBuffer.pending ++ bytesRead events =
        used ++ d.readBuffer.pending

section Reading

variable {k : ConnId}
variable {key : Key}
variable {a : Answers}
variable {s t u : St}
variable {c d e : Conn}
variable {r : St × Nat}
variable {used more : List UInt8}

theorem bytesRead_append
    (first second : List Ev) :
    bytesRead (first ++ second) =
      bytesRead first ++ bytesRead second :=
  List.flatMap_append

/- Events that read nothing and enter nothing. -/
theorem Reads.quiet
    (events : List Ev)
    (hLog : d.log = c.log ++ events)
    (hQuiet : ∀ event ∈ events,
      event.read = [] ∧ ∀ state, event ≠ .enter state)
    (hBuffer : d.readBuffer = c.readBuffer) :
    Reads c d [] := by
  refine ⟨events, hLog, ?_, ?_⟩
  · intro state hIn
    exact (hQuiet _ hIn).2 state rfl
  · have hNone : bytesRead events = [] :=
      flatMap_nil fun event hEvent => (hQuiet event hEvent).1
    rw [hNone, hBuffer, List.append_nil, List.nil_append]

theorem Reads.refl
    (c : Conn) : Reads c c [] :=
  .quiet [] (List.append_nil _).symm
    (fun _ hEvent => nomatch hEvent) rfl

theorem Reads.trans
    (h : Reads c d used)
    (h' : Reads d e more) : Reads c e (used ++ more) := by
  rcases h.log with ⟨first, hFirst, hEnter, hUsed⟩
  rcases h'.log with ⟨second, hSecond, hEnter', hMore⟩
  refine ⟨first ++ second, ?_, ?_, ?_⟩
  · rw [hSecond, hFirst, List.append_assoc]
  · intro state hIn
    rcases List.mem_append.mp hIn with hOld | hNew
    · exact hEnter state hOld
    · exact hEnter' state hNew
  · rw [bytesRead_append, ← List.append_assoc, hUsed,
      List.append_assoc, hMore, List.append_assoc]

/- One `recv`, of which a parser uses some. -/
theorem Reads.recv
    {side : Side}
    {bytes : List UInt8}
    (hLog : d.log = c.log ++ [.recv side bytes])
    (hSplit : c.readBuffer.pending ++ bytes =
      used ++ d.readBuffer.pending) : Reads c d used := by
  refine ⟨[.recv side bytes], hLog, ?_, ?_⟩
  · intro state hIn
    nomatch List.mem_singleton.mp hIn
  · rw [← hSplit]
    exact congrArg _ (List.append_nil _)

/- What is kept at the end of the bytes read stays there. -/
theorem Reads.suffix
    (h : Reads c d used)
    (kept : List UInt8)
    (hBefore : kept ++ c.readBuffer.pending <:+
      bytesRead c.log) :
    (kept ++ used) ++ d.readBuffer.pending <:+
      bytesRead d.log := by
  rcases h.log with ⟨events, hLog, _, hSplit⟩
  rcases hBefore with ⟨front, hFront⟩
  refine ⟨front, ?_⟩
  rw [hLog, bytesRead_append, ← hFront, List.append_assoc kept,
    ← hSplit]
  simp only [List.append_assoc]

theorem Reads.unread
    (h : Reads c d used)
    (hBefore : c.readBuffer.pending <:+ bytesRead c.log) :
    d.readBuffer.pending <:+ bytesRead d.log :=
  (List.suffix_append used _).trans
    (h.suffix [] hBefore)

/- No state is entered by a call. -/
theorem Reads.enter
    (h : Reads c d used)
    (state : Nat) :
    .enter state ∈ d.log ↔ .enter state ∈ c.log := by
  rcases h.log with ⟨events, hLog, hNone, _⟩
  rw [hLog, List.mem_append]
  exact or_iff_left (hNone state)

theorem Reads.mem
    (h : Reads c d used)
    {event : Ev}
    (hEvent : event ∈ c.log) : event ∈ d.log := by
  rcases h.log with ⟨events, hLog, _⟩
  rw [hLog]
  exact List.mem_append_left _ hEvent

/- Whatever a reader does, it uses what is in front. -/
theorem feed_split
    {σ : Type}
    {limit : Nat}
    (R : Incremental.Reader σ UInt8)
    (b : Buffer limit)
    (p : σ) :
    ∃ used, b.pending = used ++ (b.feed R p).2.pending := by
  rw [(b.feed_eq R p).2]
  rcases R.consume_cases p b.pending with
    ⟨_, hEq⟩ | ⟨used, rest, hSplit, _, hEq⟩
  · refine ⟨b.pending, ?_⟩
    rw [hEq]
    exact (List.append_nil _).symm
  · refine ⟨used, ?_⟩
    rw [hEq]
    exact hSplit

/- The bytes that fit come behind the unread ones. -/
theorem recv_split
    {σ : Type}
    (R : Incremental.Reader σ UInt8)
    (p : σ)
    {bytes : List UInt8}
    (hBytes : s.recvBytes a = bytes) :
    ∃ used, s.conn.readBuffer.pending ++ bytes = used ++
      ((s.conn.readBuffer.writeAdv bytes).feed R
        p).2.pending := by
  rcases feed_split R (s.conn.readBuffer.writeAdv bytes) p
    with ⟨used, hSplit⟩
  rw [Buffer.writeAdv_pending, St.take_recvBytes hBytes]
    at hSplit
  exact ⟨used, hSplit⟩

theorem helloFed_reads
    (key : Key)
    {bytes : List UInt8}
    (hBytes : s.recvBytes a = bytes) :
    ∃ used, Reads s.conn (helloFed key bytes s).conn used := by
  rcases recv_split HelloParser.reader s.conn.hello.parser
    hBytes with ⟨used, hSplit⟩
  exact ⟨used, .recv rfl hSplit⟩

theorem authFed_reads
    (key : Key)
    {bytes : List UInt8}
    (hBytes : s.recvBytes a = bytes) :
    ∃ used, Reads s.conn (authFed key bytes s).1.conn
      used := by
  rcases recv_split Parser.reader s.conn.userpass.parser
    hBytes with ⟨used, hSplit⟩
  exact ⟨used, .recv rfl hSplit⟩

theorem sendPending_reads
    (key : Key)
    (n : Nat)
    (s : St) : Reads s.conn (sendPending key n s).conn [] := by
  refine .quiet [_] rfl ?_ rfl
  intro event hEvent
  rw [List.mem_singleton.mp hEvent]
  exact ⟨rfl, fun _ hBad => nomatch hBad⟩

theorem eof_reads
    (s : St)
    (side : Side)
    (unsent : List UInt8) :
    Reads s.conn (s.note (.eof side unsent)).conn [] := by
  refine .quiet [_] rfl ?_ rfl
  intro event hEvent
  rw [List.mem_singleton.mp hEvent]
  exact ⟨rfl, fun _ hBad => nomatch hBad⟩

theorem sendError_reads
    (s : St)
    (side : Side) :
    Reads s.conn (s.note (.sendError side)).conn [] := by
  refine .quiet [_] rfl ?_ rfl
  intro event hEvent
  rw [List.mem_singleton.mp hEvent]
  exact ⟨rfl, fun _ hBad => nomatch hBad⟩

theorem AuthProcess.reads
    (h : AuthProcess s r) : Reads s.conn r.1.conn [] := by
  have hOne : ∀ d : Conn, ∀ username password table accepted,
      d.log = s.conn.log ++
        [.credentials username password table accepted] →
      d.readBuffer = s.conn.readBuffer →
        Reads s.conn d [] := by
    intro d username password table accepted hLog hBuffer
    refine .quiet [_] hLog ?_ hBuffer
    intro event hEvent
    rw [List.mem_singleton.mp hEvent]
    exact ⟨rfl, fun _ hBad => nomatch hBad⟩
  cases h with
  | accepted => exact hOne _ _ _ _ _ rfl rfl
  | denied => exact hOne _ _ _ _ _ rfl rfl
  | noEntries =>
      exact .quiet [] (List.append_nil _).symm
        (fun _ hEvent => nomatch hEvent) rfl
  | crashed => exact .refl _

/- A record that differs in what reading does not touch. -/
theorem Reads.of_eq
    (h : Reads c d used)
    (hLog : e.log = d.log)
    (hBuffer : e.readBuffer = d.readBuffer) :
    Reads c e used := by
  rcases h.log with ⟨events, hEvents, hEnter, hSplit⟩
  refine ⟨events, hLog.trans hEvents, hEnter, ?_⟩
  rw [hBuffer]
  exact hSplit

/- An answer only changes the write buffer. -/
theorem marshal_conn
    (s : St)
    (need : Nat)
    (bytes : List UInt8) :
    ∃ wb, (marshal s need bytes).conn =
      { s.conn with writeBuffer := wb } := by
  unfold marshal
  split
  · exact ⟨_, rfl⟩
  · exact ⟨_, rfl⟩

/- So does an index. -/
theorem processMngIndex_conn
    (s : St)
    (index : MngIndex) :
    ∃ wb, (processMngIndex s index).1.conn =
      { s.conn with writeBuffer := wb } := by
  have hList : ∃ wb, (listUsersMngRequestMarshall s).conn =
      { s.conn with writeBuffer := wb } := by
    unfold listUsersMngRequestMarshall
    dsimp only
    split
    · split
      · exact ⟨_, rfl⟩
      · exact marshal_conn _ _ _
    · exact ⟨_, rfl⟩
  unfold processMngIndex
  dsimp only
  split
  · exact marshal_conn _ _ _
  · exact hList
  all_goals first
    | exact marshal_conn _ _ _
    | exact ⟨_, rfl⟩

/- The parser of the index uses one byte, the index. -/
theorem index_used
    {rb : Buffer rawBuffSize}
    (hDone : (consume rb (blockParser
      mngRequestIndexBlocks)).parser.current = .doneRead) :
    ∃ b, rb.pending = [b] ++ (consume rb (blockParser
        mngRequestIndexBlocks)).buffer.pending ∧
      (consume rb (blockParser
        mngRequestIndexBlocks)).parser.resultAt 0 =
          some [b, 0] := by
  have hWell : ∀ block ∈ mngRequestIndexBlocks,
      block.WellFormed := by
    intro block hMem
    rw [List.mem_singleton.mp hMem]
    exact Nat.one_pos
  rcases Progress.of_consume hWell
    (Progress.start hWell (List.cons_ne_nil _ _)) rfl rb with
    ⟨used, hSplit, hUsed, _⟩
  rw [List.nil_append] at hUsed
  generalize consume rb (blockParser mngRequestIndexBlocks) =
    out at hDone hSplit hUsed ⊢
  generalize hParser : out.parser = p at hUsed hDone ⊢
  cases hUsed with
  | inFixed => nomatch hDone
  | atCounted => nomatch hDone
  | inCounted => nomatch hDone
  | rejected => nomatch hDone
  | finished done error hMap hAccepts =>
      rcases single_field hMap with ⟨field, rfl⟩
      rcases single_byte (hAccepts _ List.mem_cons_self) with
        ⟨b, rfl⟩
      exact ⟨b, hSplit, rfl⟩

/- The outcomes of `mng_request_index_read`. -/
inductive IndexCall
    (key : Key)
    (s : St) : St × Nat → Prop where
  | refused
      (status : MngReplyStatus)
      (hStatus : status ≠ .succeeded) :
      IndexCall key s (mngRefuse key status s)
  | ended :
      IndexCall key s
        (s.note (.eof (s.conn.sideOf key.fd) []), MNG_ERROR)
  | rejected
      (bytes used : List UInt8)
      (hUsed : s.conn.readBuffer.pending ++ bytes = used ++
        (mngFed key bytes s).conn.readBuffer.pending) :
      IndexCall key s
        (mngRefuse key .indexNotSupported
          (mngFed key bytes s))
  | taken
      (bytes : List UInt8)
      (index : MngIndex)
      (hUsed : s.conn.readBuffer.pending ++ bytes = [index] ++
        (mngFed key bytes s).conn.readBuffer.pending)
      (r : St × Nat)
      (hConn : r.1.conn = (processMngIndex
        { mngFed key bytes s with
          conn.mngRequest.index := index } index).1.conn)
      (hNext : r.2 = (processMngIndex
          { mngFed key bytes s with
            conn.mngRequest.index := index } index).2 ∨
        r.2 = MNG_ERROR) :
      IndexCall key s r

/-
  What `mng_request_index_read` reads: to go on it uses the
  index alone, and what it answers itself has no parameters.
-/
structure IndexRead
    (c : Conn)
    (r : St × Nat) : Prop where
  reads : ∃ used, Reads c r.1.conn used ∧
    (r.2 = MNG_REQUEST_READ →
      used = [r.1.conn.mngRequest.index])
  answers : r.2 = MNG_REQUEST_WRITE →
    r.1.conn.mngRequest.status = .succeeded →
      mngParamsBlocks r.1.conn.mngRequest.index = none

/- The refusal of a request, as the connection sees it. -/
theorem mngRefuse_conn
    (key : Key)
    (status : MngReplyStatus)
    (s : St) :
    (∃ wb, (mngRefuse key status s).1.conn =
      { s.conn with
        mngRequest.status := status
        writeBuffer := wb }) ∧
      ((mngRefuse key status s).2 = MNG_REQUEST_WRITE ∨
        (mngRefuse key status s).2 = MNG_ERROR) :=
  ⟨marshal_conn _ _ _, setInterestKey_next _ _ _ _⟩

/- A refused request is answered, or ends. -/
theorem Reads.refuse
    {status : MngReplyStatus}
    (h : Reads c s.conn used)
    (hStatus : status ≠ .succeeded) :
    IndexRead c (mngRefuse key status s) := by
  rcases mngRefuse_conn key status s with
    ⟨⟨wb, hRefused⟩, hNext⟩
  constructor
  · refine ⟨used, h.of_eq ?_ ?_, ?_⟩
    · rw [hRefused]
    · rw [hRefused]
    · intro hRead
      rw [hRead] at hNext
      rcases hNext with hBad | hBad
      · nomatch hBad
      · nomatch hBad
  · intro _ hSucceeded
    rw [hRefused] at hSucceeded
    exact absurd hSucceeded hStatus

/- With its parser the state takes one byte, the index. -/
theorem mngRequestIndexRead_outcome
    (h : AwaitsIndex s.conn) :
    IndexCall key s (mngRequestIndexRead key a s) := by
  unfold mngRequestIndexRead
  by_cases hStatus : s.conn.mngRequest.status ≠ .succeeded
  · rw [if_pos hStatus]
    exact .refused _ hStatus
  rw [if_neg hStatus]
  by_cases hRoom : s.conn.readBuffer.room = 0
  · rw [if_pos hRoom]
    exact .refused _ (fun hBad => nomatch hBad)
  rw [if_neg hRoom]
  have hParser : s.conn.mngRequest.parser =
      blockParser mngRequestIndexBlocks := by
    rcases h.parser with ⟨_, hFresh⟩ | hBad
    · exact hFresh
    · rw [hBad] at hStatus
      exact absurd (fun hSame => nomatch hSame) hStatus
  dsimp only
  by_cases hNone : (a.recv.getD []).take 1 = []
  · rw [if_pos hNone]
    exact .ended
  rw [if_neg hNone]
  have hOne : ((a.recv.getD []).take 1).length = 1 := by
    have hPos := List.length_pos_iff.mpr hNone
    have hLe := List.length_take_le 1 (a.recv.getD [])
    omega
  generalize (a.recv.getD []).take 1 = bytes at hOne hNone ⊢
  have hStored : (s.conn.readBuffer.writeAdv bytes).pending =
      s.conn.readBuffer.pending ++ bytes := by
    apply Buffer.writeAdv_pending_of_fits
    omega
  have hPending : (s.conn.readBuffer.writeAdv
      bytes).pending ≠ [] := by
    rw [hStored]
    exact fun hNil =>
      hNone (List.append_eq_nil_iff.mp hNil).2
  have hState := consume_state hPending
    s.conn.mngRequest.parser
  have hFlag := consume_error hPending
    s.conn.mngRequest.parser
  have hDone := index_fed_done hRoom hOne
  have hTaken := @index_used
    (s.conn.readBuffer.writeAdv bytes)
  rcases feed_split Parser.reader
    (s.conn.readBuffer.writeAdv bytes)
      s.conn.mngRequest.parser with ⟨used, hUsed⟩
  rw [hStored] at hTaken hUsed
  rw [← hParser] at hTaken hDone
  rw [if_pos hDone]
  rw [hState] at hDone
  rw [hFlag]
  by_cases hError : (consume
    (s.conn.readBuffer.writeAdv bytes)
      s.conn.mngRequest.parser).parser.current = .errorRead
  · rw [if_pos (decide_eq_true hError)]
    exact .rejected bytes used hUsed
  rw [if_neg (by rwa [decide_eq_true_eq])]
  have hFinished : (consume
      (s.conn.readBuffer.writeAdv bytes)
        s.conn.mngRequest.parser).parser.current =
          .doneRead := by
    cases hIs : (consume
      (s.conn.readBuffer.writeAdv bytes)
        s.conn.mngRequest.parser).parser.current with
    | doneRead => rfl
    | errorRead => exact absurd hIs hError
    | _ =>
        rw [hIs] at hDone
        nomatch hDone
  rcases hTaken hFinished with ⟨index, hByte, hResult⟩
  rw [hResult]
  apply IndexCall.taken bytes index hByte
  · split
    · rfl
    · split
      · rfl
      · rfl
  · split
    · exact setInterestKey_next _ _ _ _
    · split
      · exact setInterestKey_next _ _ _ _
      · exact Or.inl rfl

/- A byte is an index with parameters or it is none. -/
theorem processMngIndex_next
    (s : St)
    (index : MngIndex) :
    (mngParamsBlocks index = none ∧
        ((processMngIndex s index).2 = MNG_REQUEST_WRITE ∨
          (processMngIndex s index).2 = MNG_ERROR)) ∨
      ∃ blocks, mngParamsBlocks index = some blocks ∧
        processMngIndex s index = (s, MNG_REQUEST_READ) := by
  unfold mngParamsBlocks
  split
  · exact Or.inr ⟨_, rfl, rfl⟩
  · exact Or.inr ⟨_, rfl, rfl⟩
  · exact Or.inr ⟨_, rfl, rfl⟩
  · exact Or.inr ⟨_, rfl, rfl⟩
  · rename_i hAdd hDelete hAuth hDissectors
    refine Or.inl ⟨rfl, ?_⟩
    unfold processMngIndex
    dsimp only
    split
    all_goals first
      | exact Or.inl rfl
      | exact Or.inr rfl
      | exact absurd rfl hAdd
      | exact absurd rfl hDelete
      | exact absurd rfl hAuth
      | exact absurd rfl hDissectors

theorem mngRequestIndexRead_index
    (h : AwaitsIndex s.conn) :
    IndexRead s.conn (mngRequestIndexRead key a s) := by
  have hFed : ∀ bytes used, s.conn.readBuffer.pending ++
        bytes = used ++
          (mngFed key bytes s).conn.readBuffer.pending →
      Reads s.conn (mngFed key bytes s).conn used :=
    fun _ _ hUsed => .recv rfl hUsed
  have hCall : IndexCall key s (mngRequestIndexRead key a s) :=
    mngRequestIndexRead_outcome h
  generalize mngRequestIndexRead key a s = r at hCall ⊢
  cases hCall with
  | refused status hStatus =>
      exact (Reads.refl s.conn).refuse hStatus
  | ended =>
      exact ⟨⟨[], eof_reads s _ _, fun hBad => nomatch hBad⟩,
        fun hBad => nomatch hBad⟩
  | rejected bytes used hUsed =>
      exact (hFed _ _ hUsed).refuse (fun hBad => nomatch hBad)
  | taken bytes index hUsed _ hConn hNext =>
      rcases processMngIndex_conn
        { mngFed key bytes s with
          conn.mngRequest.index := index } index with ⟨wb, hIs⟩
      rw [hIs] at hConn
      constructor
      · refine ⟨[index], (hFed _ _ hUsed).of_eq ?_ ?_, ?_⟩
        · rw [hConn]
        · rw [hConn]
        · intro _
          rw [hConn]
      · intro hWrite _
        rw [hConn]
        rcases processMngIndex_next
          { mngFed key bytes s with
            conn.mngRequest.index := index } index with
          ⟨hNone, _⟩ | ⟨blocks, _, hParams⟩
        · exact hNone
        · rw [hParams, hWrite] at hNext
          rcases hNext with hBad | hBad <;> nomatch hBad

end Reading

end Socks5d
