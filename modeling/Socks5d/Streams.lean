import Socks5d.AuthRuns
import Socks5d.Dissection
import Socks5d.RequestMessages

/-
  The bytes of a SOCKS connection: each state of the
  handshake takes exactly its message out of what the client
  has sent, and relaying passes on all the rest.

  Main declarations:
    * `HelloProgress`, `Opening`, `RequestMessage`
    * `Account`, `Relaying`, `Streams`
    * `streams_preserved`, `relayed_streams`
-/

------------------------------------------------------------
-- Hello Messages
------------------------------------------------------------

namespace Socks5d

/- A hello with the methods that a client offers. -/
def helloMessage
    (version : UInt8)
    (methods : List UInt8) : List UInt8 :=
  version :: UInt8.ofNat methods.length :: methods

/- The parser after the version, the count and some methods. -/
def helloAt
    (version method size : UInt8)
    (seen : List UInt8)
    (state : HelloState) : HelloParser where
  version
  method
  state
  remaining := size - UInt8.ofNat seen.length
  data :=
    if method ∈ seen then method else methodNoAcceptableMethods

/- The bytes fed so far and the parser they lead to. -/
inductive HelloProgress :
    List UInt8 → HelloParser → Prop where
  | version
      (version method : UInt8) :
      HelloProgress []
        { version, method, data := methodNoAcceptableMethods }
  | nmethods
      (version method : UInt8) :
      HelloProgress [version]
        { version, method, state := .nmethods
          data := methodNoAcceptableMethods }
  | methods
      (version method size : UInt8)
      (seen : List UInt8)
      (hSeen : seen.length < size.toNat) :
      HelloProgress (version :: size :: seen)
        (helloAt version method size seen .methods)
  | done
      (version method size : UInt8)
      (seen : List UInt8)
      (hSeen : seen.length = size.toNat) :
      HelloProgress (version :: size :: seen)
        (helloAt version method size seen .done)
  | failed
      (fed : List UInt8)
      (p : HelloParser)
      (hState : p.state = .errorUnsupportedVersion) :
      HelloProgress fed p

section Hello

variable {fed : List UInt8}
variable {p : HelloParser}

/- A method byte, with more to come or not. -/
theorem helloAt_feed
    (version method size : UInt8)
    {seen : List UInt8}
    (hSeen : seen.length < size.toNat)
    (b : UInt8) :
    helloParserFeed
        (helloAt version method size seen .methods) b =
      helloAt version method size (seen ++ [b])
        (if seen.length + 1 = size.toNat then .done
          else .methods) := by
  have hLeft : size - UInt8.ofNat seen.length - 1 =
      size - UInt8.ofNat (seen ++ [b]).length := by
    rw [List.length_append, List.length_singleton]
    exact remaining_pred size seen.length
  have hZero : size - (UInt8.ofNat seen.length + 1) = 0 ↔
      seen.length + 1 = size.toNat := by
    rw [count_succ]
    exact remaining_eq_zero_iff size hSeen
  have hMember : method ∈ seen ++ [b] ↔
      method ∈ seen ∨ method = b := by
    rw [List.mem_append, List.mem_singleton]
  unfold helloParserFeed helloAt onHelloMethod
  by_cases hIs : method = b
  · simp [hIs, hLeft, hZero]
  · simp [hIs, hMember, hLeft, hZero]

/- Every byte of a hello that goes on is progress. -/
theorem HelloProgress.step
    (h : HelloProgress fed p)
    (hGoing : helloIsDone p.state = false)
    (b : UInt8) :
    HelloProgress (fed ++ [b]) (helloParserFeed p b) := by
  cases h with
  | version version method =>
      by_cases hSame : b = version
      · subst hSame
        have hFeed : helloParserFeed
            { version := b, method
              data := methodNoAcceptableMethods } b =
            { version := b, method, state := .nmethods
              data := methodNoAcceptableMethods } := if_pos rfl
        rw [hFeed]
        exact .nmethods b method
      · refine .failed _ _ ?_
        have hFeed : helloParserFeed
            { version, method
              data := methodNoAcceptableMethods } b =
            { version, method
              state := .errorUnsupportedVersion
              data := methodNoAcceptableMethods } :=
          if_neg hSame
        rw [hFeed]
  | nmethods version method =>
      have hFeed : helloParserFeed
          { version, method, state := .nmethods
            data := methodNoAcceptableMethods } b =
          helloAt version method b []
            (if b = 0 then .done else .methods) := by
        unfold helloParserFeed helloAt
        simp
      rw [hFeed]
      by_cases hZero : b = 0
      · rw [if_pos hZero, hZero]
        exact .done version method 0 [] rfl
      · rw [if_neg hZero]
        refine .methods version method b [] ?_
        exact Nat.pos_of_ne_zero fun hNone =>
          hZero (UInt8.toNat_inj.mp hNone)
  | methods version method size seen hSeen =>
      rw [helloAt_feed version method size hSeen b]
      have hLength : (seen ++ [b]).length =
          seen.length + 1 := by
        rw [List.length_append, List.length_singleton]
      by_cases hLast : seen.length + 1 = size.toNat
      · rw [if_pos hLast]
        exact .done version method size (seen ++ [b])
          (hLength.trans hLast)
      · rw [if_neg hLast]
        refine .methods version method size (seen ++ [b]) ?_
        rw [hLength]
        omega
  | done => nomatch hGoing
  | failed fed p hState =>
      rw [hState] at hGoing
      nomatch hGoing

/- A parser that is done was fed a whole hello. -/
theorem HelloProgress.whole
    (h : HelloProgress fed p)
    (hDone : p.state = .done) :
    ∃ methods, methods.length ≤ 255 ∧
      fed = helloMessage p.version methods ∧
      (p.data = methodNoAcceptableMethods ∨
        (p.data = p.method ∧ p.method ∈ methods)) := by
  cases h with
  | version => nomatch hDone
  | nmethods => nomatch hDone
  | methods => nomatch hDone
  | failed fed p hState =>
      rw [hState] at hDone
      nomatch hDone
  | done version method size seen hSeen =>
      have hSize := size.toNat_lt
      refine ⟨seen, by omega, ?_, ?_⟩
      · unfold helloMessage
        rw [hSeen, UInt8.ofNat_toNat]
        rfl
      · unfold helloAt
        by_cases hIn : method ∈ seen
        · right
          exact ⟨if_pos hIn, hIn⟩
        · left
          exact if_neg hIn

/- What `hello_consume` does to a parser in progress. -/
theorem helloConsume_progress
    (h : HelloProgress fed p)
    (hGoing : helloIsDone p.state = false)
    {limit : Nat}
    (b : Buffer limit) :
    ∃ used,
      b.pending = used ++ (helloConsume b p).2.pending ∧
        HelloProgress (fed ++ used) (helloConsume b p).1 := by
  have hFeed := b.feed_eq HelloParser.reader p
  rcases HelloParser.reader.consume_progress
      (P := HelloProgress)
      (fun fed s a hFed hStop =>
        HelloProgress.step hFed hStop a)
      h hGoing b.pending with
    ⟨used, hSplit, hUsed, _⟩
  refine ⟨used, ?_, ?_⟩
  · simpa [helloConsume, hFeed.2] using hSplit
  · simpa [helloConsume, hFeed.1] using hUsed

/- The version and the method stay what they were. -/
theorem helloConsume_fixed
    {limit : Nat}
    (b : Buffer limit)
    (p : HelloParser) :
    (helloConsume b p).1.version = p.version ∧
      (helloConsume b p).1.method = p.method := by
  have hFeed := b.feed_eq HelloParser.reader p
  unfold helloConsume
  rw [hFeed.1]
  refine HelloParser.reader.consume_invariant
    (P := fun q => q.version = p.version ∧
      q.method = p.method) ?_ ⟨rfl, rfl⟩ _
  intro q a hSame
  refine ⟨?_, (helloParserFeed_method q a).trans hSame.2⟩
  refine Eq.trans ?_ hSame.1
  show (helloParserFeed q a).version = q.version
  unfold helloParserFeed onHelloMethod
  cases q.state with
  | version => simp only []; split <;> rfl
  | nmethods => rfl
  | methods => simp only []; split <;> rfl
  | done => rfl
  | errorUnsupportedVersion => rfl

end Hello

end Socks5d

------------------------------------------------------------
-- What A History Says Of The Bytes
------------------------------------------------------------

namespace Socks5d

/- The bytes that `recv` returned on the socket of a peer. -/
def Ev.readFrom (peer : Side) : Ev → List UInt8
| .recv side bytes => if side = peer then bytes else []
| _ => []

/- The bytes that `send` took on the socket of a peer. -/
def Ev.sentTo (peer : Side) : Ev → List UInt8
| .send side bytes => if side = peer then bytes else []
| _ => []

def bytesFrom
    (peer : Side)
    (log : List Ev) : List UInt8 :=
  log.flatMap (Ev.readFrom peer)

def bytesTo
    (peer : Side)
    (log : List Ev) : List UInt8 :=
  log.flatMap (Ev.sentTo peer)

/- Neither `recv` nor `send`. -/
def Ev.Mute (event : Ev) : Prop :=
  ∀ peer, event.readFrom peer = [] ∧ event.sentTo peer = []

/- The bytes read from the client, and none sent elsewhere. -/
structure Heard
    (c d : Conn)
    (bytes : List UInt8) : Prop where
  grows : ∀ event ∈ c.log, event ∈ d.log
  client : bytesFrom .client d.log =
    bytesFrom .client c.log ++ bytes
  origin : bytesTo .origin d.log = bytesTo .origin c.log

section Hearing

variable {c d e : Conn}
variable {bytes : List UInt8}

theorem bytesFrom_append
    (peer : Side)
    (first second : List Ev) :
    bytesFrom peer (first ++ second) =
      bytesFrom peer first ++ bytesFrom peer second :=
  List.flatMap_append

theorem bytesTo_append
    (peer : Side)
    (first second : List Ev) :
    bytesTo peer (first ++ second) =
      bytesTo peer first ++ bytesTo peer second :=
  List.flatMap_append

theorem bytesFrom_mute
    {events : List Ev}
    (h : ∀ event ∈ events, event.Mute)
    (peer : Side) : bytesFrom peer events = [] :=
  flatMap_nil fun event hEvent => (h event hEvent peer).1

theorem bytesTo_mute
    {events : List Ev}
    (h : ∀ event ∈ events, event.Mute)
    (peer : Side) : bytesTo peer events = [] :=
  flatMap_nil fun event hEvent => (h event hEvent peer).2

theorem Heard.of_mute
    (h : c.Grows Ev.Mute d) : Heard c d [] := by
  rcases h with ⟨events, hLog, hMute⟩
  refine ⟨?_, ?_, ?_⟩
  · intro event hEvent
    rw [hLog]
    exact List.mem_append_left _ hEvent
  · rw [hLog, bytesFrom_append, bytesFrom_mute hMute]
  · rw [hLog, bytesTo_append, bytesTo_mute hMute,
      List.append_nil]

theorem Heard.trans
    {more : List UInt8}
    (h : Heard c d bytes)
    (h' : Heard d e more) : Heard c e (bytes ++ more) where
  grows event hEvent := h'.grows event (h.grows event hEvent)
  client := by
    rw [h'.client, h.client, List.append_assoc]
  origin := h'.origin.trans h.origin

/- A `recv` on the socket of the client. -/
theorem Heard.recv
    (h : d.log = c.log ++ [.recv .client bytes]) :
    Heard c d bytes := by
  refine ⟨?_, ?_, ?_⟩
  · intro event hEvent
    rw [h]
    exact List.mem_append_left _ hEvent
  · rw [h, bytesFrom_append]
    exact congrArg _ (List.append_nil _)
  · rw [h, bytesTo_append]
    exact List.append_nil _

/- A `send` on the socket of the client. -/
theorem Heard.send
    (h : d.log = c.log ++ [.send .client bytes]) :
    Heard c d [] := by
  refine ⟨?_, ?_, ?_⟩
  · intro event hEvent
    rw [h]
    exact List.mem_append_left _ hEvent
  · rw [h, bytesFrom_append]
    rfl
  · rw [h, bytesTo_append]
    exact List.append_nil _

theorem Ev.ofConnecting_mute
    {event : Ev}
    (h : event.ofConnecting) : event.Mute := by
  unfold Ev.ofConnecting at h
  split at h
  all_goals first
    | exact fun _ => ⟨rfl, rfl⟩
    | exact h.elim

theorem Ev.ofArrival_mute
    {state : Nat}
    {event : Ev}
    (h : event.ofArrival state) : event.Mute := by
  unfold Ev.ofArrival at h
  split at h
  all_goals first
    | exact fun _ => ⟨rfl, rfl⟩
    | exact Ev.ofConnecting_mute h
    | exact h.elim

/- Resolving neither reads nor sends. -/
theorem Ev.ofResolv_mute
    {state : Nat}
    {event : Ev}
    (h : event.ofState state)
    (hState : state = REQUEST_RESOLV) : event.Mute := by
  unfold Ev.ofState at h
  split at h
  all_goals first
    | exact absurd hState (by decide)
    | exact fun _ => ⟨rfl, rfl⟩
    | exact h.elim

end Hearing

end Socks5d

------------------------------------------------------------
-- The Account Of A Handshake
------------------------------------------------------------

namespace Socks5d

/- A user/password message. -/
def loginMessage (name pass : List UInt8) : List UInt8 :=
  0x01 :: UInt8.ofNat name.length :: name ++
    UInt8.ofNat pass.length :: pass

/-
  The name and the password were compared with a table, as C
  strings, and one entry had both.
-/
def Accepted
    (log : List Ev)
    (name pass : List UInt8)
    (table : List (List UInt8 × List UInt8)) : Prop :=
  .credentials (cString name) (cString pass) table true ∈
      log ∧
    ∃ entry ∈ table, cString entry.1 = cString name ∧
      cString entry.2 = cString pass

/-
  What comes before the request: a hello that offers to go
  without authentication, to a server that allows it, or a
  hello and a user/password message that was accepted.
-/
inductive Opening
    (log : List Ev) : List UInt8 → Prop where
  | free
      (methods : List UInt8)
      (hMethods : methods.length ≤ 255)
      (hOffered : methodNoAuthenticationRequired ∈ methods)
      (hInit : Ev.helloInit methodNoAuthenticationRequired ∈
        log) :
      Opening log (helloMessage socksVersion methods)
  | login
      (methods : List UInt8)
      (hMethods : methods.length ≤ 255)
      (name pass : List UInt8)
      (hLengths : name.length < 256 ∧ pass.length < 256)
      (table : List (List UInt8 × List UInt8))
      (hAccepted : Accepted log name pass table) :
      Opening log (helloMessage socksVersion methods ++
        loginMessage name pass)

/- A request that the parser takes, up to its last byte. -/
def RequestMessage (message : List UInt8) : Prop :=
  ∃ head request a b, RequestHead head request ∧
    message = head ++ [a, b]

/-
  Where the bytes of the client are, in each state before
  relaying: in the messages taken so far, or pending.
-/
inductive Account (c : Conn) : Nat → Prop where
  | helloRead
      (fed : List UInt8)
      (hProgress : HelloProgress fed c.hello.parser)
      (hGoing : helloIsDone c.hello.parser.state = false)
      (hVersion : c.hello.parser.version = socksVersion)
      (hInit : .helloInit c.hello.parser.method ∈ c.log)
      (hBytes : bytesFrom .client c.log =
        fed ++ c.readBuffer.pending) :
      Account c HELLO_READ
  | helloFailed
      (hFailed : c.hello.failed = true) :
      Account c HELLO_READ
  | helloWrite
      (methods : List UInt8)
      (hMethods : methods.length ≤ 255)
      (hFound : c.hello.method = methodNoAcceptableMethods ∨
        (c.hello.method ∈ methods ∧
          .helloInit c.hello.method ∈ c.log))
      (hBytes : bytesFrom .client c.log =
        helloMessage socksVersion methods ++
          c.readBuffer.pending) :
      Account c HELLO_WRITE
  | userpassRead
      (methods fed : List UInt8)
      (hMethods : methods.length ≤ 255)
      (hProgress : Progress authBlocks fed c.userpass.parser)
      (hGoing : isDone c.userpass.parser.current = false)
      (hBytes : bytesFrom .client c.log =
        helloMessage socksVersion methods ++ fed ++
          c.readBuffer.pending) :
      Account c USERPASS_READ
  | userpassFailed
      (hFailed : c.userpass.failed = true) :
      Account c USERPASS_READ
  | userpassWrite
      (methods name pass : List UInt8)
      (hMethods : methods.length ≤ 255)
      (hLengths : name.length < 256 ∧ pass.length < 256)
      (hAccepted : c.authentication = 0x00 →
        ∃ table, Accepted c.log name pass table)
      (hBytes : bytesFrom .client c.log =
        helloMessage socksVersion methods ++
          loginMessage name pass ++ c.readBuffer.pending) :
      Account c USERPASS_WRITE
  | requestRead
      (opening fed : List UInt8)
      (hOpening : Opening c.log opening)
      (p : RequestParser)
      (hParser : c.request.parser = some p)
      (hProgress : RequestProgress fed p)
      (hGoing : p.state ≠ .done)
      (hBytes : p.state.Failed ∨
        bytesFrom .client c.log =
          opening ++ fed ++ c.readBuffer.pending) :
      Account c REQUEST_READ
  | request
      (state : Nat)
      (hState : state = REQUEST_RESOLV ∨
        state = REQUEST_CONNECTING ∨ state = REQUEST_WRITE)
      (opening message : List UInt8)
      (hOpening : Opening c.log opening)
      (hMessage : RequestMessage message)
      (hBytes : bytesFrom .client c.log =
        opening ++ message ++ c.readBuffer.pending) :
      Account c state

/-
  The bytes of a connection that has come to `COPY`: the
  history splits at the entry, in front of it the client has
  sent its messages and some early bytes, and since then
  nothing is lost, added or reordered.
-/
structure Relaying (c : Conn) : Prop where
  streams : ∃ before after opening message early,
    c.log = before ++ .enter COPY :: after ∧
    Opening before opening ∧
    RequestMessage message ∧
    bytesFrom .client before = opening ++ message ++ early ∧
    bytesTo .origin c.log ++ c.readBuffer.pending =
      early ++ bytesFrom .client after ∧
    bytesTo .client after ++ c.writeBuffer.pending =
      bytesFrom .origin after

/- The bytes of a SOCKS connection in every state. -/
structure Streams (c : Conn) : Prop where
  fresh : (∀ state, c.current = some state →
    state < COPY) →
      Ev.enter COPY ∉ c.log ∧ bytesTo .origin c.log = []
  handshake : ∀ state, c.current = some state →
    state < COPY → Account c state
  start : c.current = none →
    bytesFrom .client c.log = [] ∧
      c.readBuffer.pending = []
  copying : c.current = some COPY → Ev.enter COPY ∈ c.log
  relaying : Ev.enter COPY ∈ c.log → Relaying c

end Socks5d

------------------------------------------------------------
-- Calls Before Relaying
------------------------------------------------------------

namespace Socks5d

/- What a call leaves, before the next state is entered. -/
inductive Bound (c : Conn) : Nat → Prop where
  | account
      (state : Nat)
      (hPlain : c.current = some state ∨
        state = HELLO_WRITE ∨ state = USERPASS_WRITE ∨
        state = REQUEST_RESOLV ∨
        state = REQUEST_CONNECTING ∨ state = REQUEST_WRITE)
      (hAccount : Account c state) :
      Bound c state
  | userpassRead
      (hState : c.current ≠ some USERPASS_READ)
      (methods : List UInt8)
      (hMethods : methods.length ≤ 255)
      (hBytes : bytesFrom .client c.log =
        helloMessage socksVersion methods ++
          c.readBuffer.pending) :
      Bound c USERPASS_READ
  | requestRead
      (hState : c.current ≠ some REQUEST_READ)
      (opening : List UInt8)
      (hOpening : Opening c.log opening)
      (hBytes : bytesFrom .client c.log =
        opening ++ c.readBuffer.pending) :
      Bound c REQUEST_READ
  | copy
      (hState : c.current ≠ some COPY)
      (opening message : List UInt8)
      (hOpening : Opening c.log opening)
      (hMessage : RequestMessage message)
      (hBytes : bytesFrom .client c.log =
        opening ++ message ++ c.readBuffer.pending)
      (hEmpty : c.writeBuffer.pending = []) :
      Bound c COPY
  | ends
      (state : Nat)
      (hState : COPY < state) :
      Bound c state

section Calls

variable {k : ConnId}
variable {key : Key}
variable {a : Answers}
variable {s t u : St}
variable {c d : Conn}
variable {attached : Attachment}
variable {r : St × Nat}
variable {bytes opening : List UInt8}

theorem Accepted.mono
    {log more : List Ev}
    {name pass : List UInt8}
    {table : List (List UInt8 × List UInt8)}
    (h : Accepted log name pass table)
    (hMore : ∀ event ∈ log, event ∈ more) :
    Accepted more name pass table :=
  ⟨hMore _ h.1, h.2⟩

theorem Opening.mono
    {log more : List Ev}
    (h : Opening log opening)
    (hMore : ∀ event ∈ log, event ∈ more) :
    Opening more opening := by
  cases h with
  | free methods hMethods hOffered hInit =>
      exact .free methods hMethods hOffered (hMore _ hInit)
  | login methods hMethods name pass hLengths table
      hAccepted =>
      exact .login methods hMethods name pass hLengths table
        (hAccepted.mono hMore)

/- An entry that is found is in the table, with the strings. -/
theorem UserTable.entries_of_find
    {t : UserTable}
    {username password : List UInt8}
    {i : Nat}
    (h : t.find? username password = some i) :
    ∃ entry ∈ t.entries, cString entry.1 = cString username ∧
      cString entry.2 = cString password := by
  rcases UserTable.matches_of_find?_some h with
    ⟨j, hLt, name, pass, hFirst, hSecond, hName, hPass⟩
  refine ⟨(name, pass), ?_, hName, hPass⟩
  unfold UserTable.entries
  refine List.mem_map.mpr ⟨j, List.mem_range.mpr hLt, ?_⟩
  rw [hFirst, hSecond]
  rfl

/-
  The comparison of a whole message: a success is recorded
  with the strings of the message.
-/
theorem AuthProcess.accepts
    {name pass : List UInt8}
    (h : AuthProcess s r)
    (hName : s.conn.userpass.parser.resultAt 2 =
      some (name ++ [0]))
    (hPass : s.conn.userpass.parser.resultAt 4 =
      some (pass ++ [0]))
    (hSocks : r.1.conn.authentication = 0x00) :
    Accepted r.1.conn.log name pass
      (credentialTable s).entries := by
  cases h with
  | accepted username password i userIndex hUser hPassword
      hFound =>
      rw [hName] at hUser
      rw [hPass] at hPassword
      rw [← Option.some.inj hUser,
        ← Option.some.inj hPassword] at hFound ⊢
      have hEntry := UserTable.entries_of_find hFound
      rw [cString_append, cString_append] at hEntry
      refine ⟨List.mem_append_right _ ?_, hEntry⟩
      rw [← cString_append name [], ← cString_append pass []]
      exact List.mem_singleton.mpr rfl
  | denied username password => nomatch hSocks
  | noEntries => nomatch hSocks
  | crashed hMissing =>
      rcases hMissing with hNone | hNone
      · rw [hName] at hNone
        nomatch hNone
      · rw [hPass] at hNone
        nomatch hNone

theorem AuthProcess.mute
    (h : AuthProcess s r) :
    s.conn.Grows Ev.Mute r.1.conn := by
  cases h with
  | accepted =>
      refine .single rfl ?_
      exact fun _ => ⟨rfl, rfl⟩
  | denied =>
      refine .single rfl ?_
      exact fun _ => ⟨rfl, rfl⟩
  | noEntries => exact .of_eq rfl
  | crashed hMissing => exact .of_eq rfl

theorem AuthProcess.readBuffer
    (h : AuthProcess s r) :
    r.1.conn.readBuffer = s.conn.readBuffer := by
  cases h <;> rfl

theorem replied_mute
    (s : St)
    (status : SocksReplyStatus) :
    s.conn.Grows Ev.Mute (replied s status).conn := by
  rcases replied_eq s status with ⟨wb, log, hEq, hLog⟩
  rw [hEq]
  refine ⟨log, rfl, ?_⟩
  intro event hEvent
  rw [hLog event hEvent]
  exact fun _ => ⟨rfl, rfl⟩

/- Processing a request neither reads nor sends. -/
theorem RequestProcess.mute
    {request : Request}
    (h : RequestProcess key a request s attached r) :
    s.conn.Grows Ev.Mute r.1.conn ∧
      (r.2 = REQUEST_RESOLV ∨ r.2 = REQUEST_CONNECTING ∨
        r.2 = REQUEST_WRITE) := by
  cases h with
  | refused status addrFamily hRequest =>
      refine ⟨?_, Or.inr (Or.inr rfl)⟩
      exact replied_mute { s with
        conn.request.addrFamily := addrFamily
        conn.request.status := status } status
  | direct addrFamily domain len hType =>
      exact ⟨.of_eq rfl, Or.inr (Or.inl rfl)⟩
  | noMemory hAlloc =>
      refine ⟨?_, Or.inr (Or.inr rfl)⟩
      have hNoted : s.conn.Grows Ev.Mute
          (St.note { s with
            conn.request.addrFamily := socksReqAddrtypeDomain
            conn.request.status :=
              .generalSocksServerFailure }
            (.outOfMemory .resolvKey)).conn := by
        refine .single rfl ?_
        exact fun _ => ⟨rfl, rfl⟩
      exact hNoted.trans (replied_mute _ _)
  | noThread hThread =>
      refine ⟨?_, Or.inr (Or.inr rfl)⟩
      exact replied_mute { s with
        conn.request.addrFamily := socksReqAddrtypeDomain
        conn.request.status := .generalSocksServerFailure } _
  | resolving hType hThread =>
      refine ⟨.single rfl ?_, Or.inl rfl⟩
      exact fun _ => ⟨rfl, rfl⟩
  | waiting hType hThread =>
      exact ⟨.of_eq rfl, Or.inl rfl⟩

/- A failed parser stays failed. -/
theorem requestConsume_failed
    {p : RequestParser}
    (h : p.state.Failed)
    {limit : Nat}
    (b : Buffer limit) :
    (requestConsume b p).1.state.Failed := by
  have hFeed := b.feed_eq RequestParser.reader p
  unfold requestConsume
  rw [hFeed.1]
  refine RequestParser.reader.consume_invariant
    (P := fun q => q.state.Failed) ?_ h _
  intro q byte hFailed
  show (requestParserFeed q byte).state.Failed
  unfold requestParserFeed
  cases hIs : q.state <;> rw [hIs] at hFailed <;>
    first | exact hFailed.elim | trivial

/- The socket that the handshake uses is the client's. -/
theorem Owns.sideOf_client
    (h : Owns k s.srv.sel s.conn)
    (hSound : s.srv.sel.Sound)
    (hFd : key.fd = s.conn.clientFd) :
    s.conn.sideOf key.fd = .client := by
  rw [hFd]
  exact Conn.sideOf_fdOf _ (h.ne hSound) .client

/- `hello_read` takes its message and leaves the rest. -/
theorem helloFed_heard
    {fed : List UInt8}
    (hSide : s.conn.sideOf key.fd = .client)
    (hProgress : HelloProgress fed s.conn.hello.parser)
    (hGoing : helloIsDone s.conn.hello.parser.state = false)
    (hOld : bytesFrom .client s.conn.log =
      fed ++ s.conn.readBuffer.pending)
    (hBytes : s.recvBytes a = bytes) :
    Heard s.conn (helloFed key bytes s).conn bytes ∧
      ∃ now, HelloProgress now
          (helloFed key bytes s).conn.hello.parser ∧
        bytesFrom .client (helloFed key bytes s).conn.log =
          now ++
            (helloFed key bytes s).conn.readBuffer.pending := by
  have hLog : (helloFed key bytes s).conn.log =
      s.conn.log ++ [.recv .client bytes] := by
    rw [← hSide]
    rfl
  have hHeard : Heard s.conn (helloFed key bytes s).conn
      bytes := .recv hLog
  rcases helloConsume_progress hProgress hGoing
    (s.conn.readBuffer.writeAdv bytes) with
    ⟨used, hSplit, hUsed⟩
  rw [Buffer.writeAdv_pending,
    St.take_recvBytes hBytes] at hSplit
  refine ⟨hHeard, fed ++ used, hUsed, ?_⟩
  rw [hHeard.client, hOld, List.append_assoc, hSplit,
    List.append_assoc]
  rfl

/- So does `auth_read`. -/
theorem authFed_heard
    {before fed : List UInt8}
    (hSide : s.conn.sideOf key.fd = .client)
    (hProgress : Progress authBlocks fed
      s.conn.userpass.parser)
    (hGoing : isDone s.conn.userpass.parser.current = false)
    (hOld : bytesFrom .client s.conn.log =
      before ++ fed ++ s.conn.readBuffer.pending)
    (hBytes : s.recvBytes a = bytes) :
    Heard s.conn (authFed key bytes s).1.conn bytes ∧
      ∃ now, Progress authBlocks now
          (authFed key bytes s).1.conn.userpass.parser ∧
        bytesFrom .client (authFed key bytes s).1.conn.log =
          before ++ now ++ (authFed key bytes
            s).1.conn.readBuffer.pending := by
  have hLog : (authFed key bytes s).1.conn.log =
      s.conn.log ++ [.recv .client bytes] := by
    rw [← hSide]
    rfl
  have hHeard : Heard s.conn (authFed key bytes s).1.conn
      bytes := .recv hLog
  rcases authFed_progress key (a := a) hProgress hGoing with
    ⟨used, hSplit, hUsed, _⟩
  rw [hBytes] at hSplit hUsed
  refine ⟨hHeard, fed ++ used, hUsed, ?_⟩
  rw [hHeard.client, hOld, List.append_assoc, hSplit]
  simp only [List.append_assoc]

/- So does `request_read`, until the parser fails. -/
theorem requestFed_heard
    {before fed : List UInt8}
    {p : RequestParser}
    (hSide : s.conn.sideOf key.fd = .client)
    (hProgress : RequestProgress fed p)
    (hGoing : p.state ≠ .done)
    (hOld : p.state.Failed ∨ bytesFrom .client s.conn.log =
      before ++ fed ++ s.conn.readBuffer.pending)
    (hBytes : s.recvBytes a = bytes) :
    Heard s.conn (requestFed key bytes p s).1.conn bytes ∧
      ∃ now, RequestProgress now
          (requestFed key bytes p s).2 ∧
        ((requestFed key bytes p s).2.state.Failed ∨
          bytesFrom .client
              (requestFed key bytes p s).1.conn.log =
            before ++ now ++ (requestFed key bytes p
              s).1.conn.readBuffer.pending) := by
  have hLog : (requestFed key bytes p s).1.conn.log =
      s.conn.log ++ [.recv .client bytes] := by
    rw [← hSide]
    rfl
  have hHeard : Heard s.conn
      (requestFed key bytes p s).1.conn bytes := .recv hLog
  refine ⟨hHeard, ?_⟩
  rcases hOld with hFailed | hOld
  · have hStill := requestConsume_failed hFailed
      (s.conn.readBuffer.writeAdv bytes)
    exact ⟨fed, .failed _ _ hStill, Or.inl hStill⟩
  · cases hDone : requestIsDone p.state with
    | true =>
        have hFailed : p.state.Failed := by
          cases hIs : p.state with
          | done => exact absurd hIs hGoing
          | error => trivial
          | errorUnsupportedCmd => trivial
          | errorUnsupportedType => trivial
          | errorUnsupportedVersion => trivial
          | _ =>
              rw [hIs] at hDone
              nomatch hDone
        have hStill := requestConsume_failed hFailed
          (s.conn.readBuffer.writeAdv bytes)
        exact ⟨fed, .failed _ _ hStill, Or.inl hStill⟩
    | false =>
        rcases requestConsume_progress hProgress hDone
          (s.conn.readBuffer.writeAdv bytes) with
          ⟨used, hSplit, hUsed, _⟩
        rw [Buffer.writeAdv_pending,
          St.take_recvBytes hBytes] at hSplit
        refine ⟨fed ++ used, hUsed, Or.inr ?_⟩
        rw [hHeard.client, hOld, List.append_assoc, hSplit]
        simp only [List.append_assoc]
        rfl

end Calls

end Socks5d

------------------------------------------------------------
-- The Account Of Each Call
------------------------------------------------------------

namespace Socks5d

section Accounts

variable {k : ConnId}
variable {key : Key}
variable {a : Answers}
variable {s t u : St}
variable {c d : Conn}
variable {attached : Attachment}
variable {r : St × Nat}
variable {bytes : List UInt8}

/- What a call reads and where it leads. -/
def Accounted (s : St) (r : St × Nat) : Prop :=
  Bound r.1.conn r.2 ∧
    (COPY < r.2 ∨ ∃ bytes, Heard s.conn r.1.conn bytes)

theorem error_over
    (hSocks : s.conn.isSocks = true) :
    COPY < s.conn.errorState := by
  rw [(Conn.ends_socks hSocks).1]
  decide

theorem done_over
    (hSocks : s.conn.isSocks = true) :
    COPY < s.conn.doneState := by
  rw [(Conn.ends_socks hSocks).2]
  decide

theorem Accounted.ends
    (h : COPY < r.2) : Accounted s r :=
  ⟨.ends _ h, Or.inl h⟩

/- A `send` of a reply to the client. -/
theorem sendPending_heard
    (hSide : s.conn.sideOf key.fd = .client)
    (n : Nat) :
    Heard s.conn (sendPending key n s).conn [] := by
  have hLog : (sendPending key n s).conn.log = s.conn.log ++
      [.send .client (s.conn.writeBuffer.pending.take n)] := by
    rw [← hSide]
    rfl
  exact .send hLog

/- The client's bytes, after a call that reads none. -/
theorem Heard.same
    (h : Heard c d []) :
    bytesFrom .client d.log = bytesFrom .client c.log := by
  rw [h.client, List.append_nil]

theorem HelloRead.accounted
    (h : HelloRead key a s attached r)
    (hSocks : s.conn.isSocks = true)
    (hSide : s.conn.sideOf key.fd = .client)
    (hState : s.conn.current = some HELLO_READ)
    (hAccount : Account s.conn HELLO_READ) :
    Accounted s r := by
  cases h with
  | failed hFailed => exact .ends (error_over hSocks)
  | ended hBytes => exact .ends (error_over hSocks)
  | refused bytes hBytes wb => exact .ends (error_over hSocks)
  | more bytes hBytes hSome hGoing hFine =>
      cases hAccount with
      | request _ hBad => rcases hBad with h | h | h <;> nomatch h
      | helloFailed hFailed =>
          nomatch hFine.symm.trans hFailed
      | helloRead fed hProgress hBefore hVersion hInit hOld =>
          rcases helloFed_heard hSide hProgress hBefore hOld
            hBytes with ⟨hHeard, now, hNow, hSplit⟩
          have hFixed := helloConsume_fixed
            (s.conn.readBuffer.writeAdv bytes)
            s.conn.hello.parser
          refine ⟨.account _ (Or.inl hState) ?_,
            Or.inr ⟨bytes, hHeard⟩⟩
          refine .helloRead now hNow hGoing
            (hFixed.1.trans hVersion) ?_ hSplit
          have hMethod : (helloFed key bytes
              s).conn.hello.parser.method =
                s.conn.hello.parser.method := hFixed.2
          rw [hMethod]
          exact hHeard.grows _ hInit
  | answered bytes hBytes hSome hDone hRoom hFine =>
      cases hAccount with
      | request _ hBad => rcases hBad with h | h | h <;> nomatch h
      | helloFailed hFailed =>
          nomatch hFine.symm.trans hFailed
      | helloRead fed hProgress hBefore hVersion hInit hOld =>
          rcases helloFed_heard hSide hProgress hBefore hOld
            hBytes with ⟨hHeard, now, hNow, hSplit⟩
          have hFixed := helloConsume_fixed
            (s.conn.readBuffer.writeAdv bytes)
            s.conn.hello.parser
          have hMethod : (helloFed key bytes
              s).conn.hello.parser.method =
                s.conn.hello.parser.method := hFixed.2
          rcases hNow.whole hDone with
            ⟨methods, hMethods, hMessage, hData⟩
          have hSpeaks : (helloFed key bytes
              s).conn.hello.parser.version = socksVersion :=
            hFixed.1.trans hVersion
          rw [hMessage, hSpeaks] at hSplit
          refine ⟨.account _ (Or.inr (Or.inl rfl)) ?_,
            Or.inr ⟨bytes, hHeard.grows, hHeard.client,
              hHeard.origin⟩⟩
          refine .helloWrite methods hMethods ?_ hSplit
          rcases hData with hNone | ⟨hFound, hIn⟩
          · exact Or.inl hNone
          · right
            have hIs : (helloFed key bytes
                s).conn.hello.method =
                  s.conn.hello.parser.method :=
              hFound.trans hMethod
            show (helloFed key bytes s).conn.hello.method ∈
                methods ∧
              .helloInit (helloFed key bytes
                s).conn.hello.method ∈
                  (helloFed key bytes s).conn.log
            rw [hIs]
            rw [hMethod] at hIn
            exact ⟨hIn, hHeard.grows _ hInit⟩

theorem HelloWrite.accounted
    (h : HelloWrite key a s attached r)
    (hSocks : s.conn.isSocks = true)
    (hSide : s.conn.sideOf key.fd = .client)
    (hState : s.conn.current = some HELLO_WRITE)
    (hAccount : Account s.conn HELLO_WRITE) :
    Accounted s r := by
  cases hAccount with
  | request _ hBad => rcases hBad with h | h | h <;> nomatch h
  | helloWrite methods hMethods hFound hOld =>
      cases h with
      | failed hSend => exact .ends (error_over hSocks)
      | refused n hSend hSent hMethod =>
          exact .ends (done_over hSocks)
      | more n hSend hLeft =>
          have hHeard := sendPending_heard hSide n
          refine ⟨.account _ (Or.inl hState) ?_,
            Or.inr ⟨[], hHeard⟩⟩
          refine .helloWrite methods hMethods ?_
            (hHeard.same.trans hOld)
          rcases hFound with hNone | ⟨hIn, hInit⟩
          · exact Or.inl hNone
          · exact Or.inr ⟨hIn, hHeard.grows _ hInit⟩
      | userpass n hSend hSent hMethod =>
          have hHeard := sendPending_heard hSide n
          refine ⟨.userpassRead ?_ methods hMethods
            (hHeard.same.trans hOld), Or.inr ⟨[], hHeard⟩⟩
          show s.conn.current ≠ some USERPASS_READ
          rw [hState]
          decide
      | request n hSend hSent hMethod =>
          have hHeard := sendPending_heard hSide n
          rcases hFound with hNone | ⟨hIn, hInit⟩
          · rw [hMethod] at hNone
            nomatch hNone
          rw [hMethod] at hIn hInit
          refine ⟨.requestRead ?_ _ (.free methods hMethods hIn
            (hHeard.grows _ hInit))
            (hHeard.same.trans hOld), Or.inr ⟨[], hHeard⟩⟩
          show s.conn.current ≠ some REQUEST_READ
          rw [hState]
          decide

theorem AuthRead.accounted
    (h : AuthRead key a s attached r)
    (hSocks : s.conn.isSocks = true)
    (hSide : s.conn.sideOf key.fd = .client)
    (hState : s.conn.current = some USERPASS_READ)
    (hAccount : Account s.conn USERPASS_READ) :
    Accounted s r := by
  cases h with
  | failed hFailed => exact .ends (error_over hSocks)
  | ended hBytes => exact .ends (error_over hSocks)
  | rejected bytes hBytes processed hProcess hSome hError =>
      exact .ends (error_over hSocks)
  | more bytes hBytes hSome hGoing hFine =>
      cases hAccount with
      | request _ hBad => rcases hBad with h | h | h <;> nomatch h
      | userpassFailed hFailed =>
          nomatch hFine.symm.trans hFailed
      | userpassRead methods fed hMethods hProgress hBefore
          hOld =>
          rcases authFed_heard hSide hProgress hBefore hOld
            hBytes with ⟨hHeard, now, hNow, hSplit⟩
          refine ⟨.account _ (Or.inl hState) ?_,
            Or.inr ⟨bytes, hHeard⟩⟩
          exact .userpassRead methods now hMethods hNow hGoing
            hSplit
  | answered bytes hBytes hSome hDone _ hProcess hFine =>
      cases hAccount with
      | request _ hBad => rcases hBad with h | h | h <;> nomatch h
      | userpassFailed hFailed =>
          nomatch hFine.symm.trans hFailed
      | userpassRead methods fed hMethods hProgress hBefore
          hOld =>
          rcases authFed_heard hSide hProgress hBefore hOld
            hBytes with ⟨hHeard, now, hNow, hSplit⟩
          rcases hNow.auth_whole hDone with
            ⟨name, pass, hMessage, hName, hPass, hUser,
              hPassword⟩
          have hMute := Heard.of_mute hProcess.mute
          have hAll : Heard s.conn r.1.conn (bytes ++ []) :=
            hHeard.trans hMute
          have hNext : r.2 = USERPASS_WRITE := by
            cases hProcess <;> rfl
          have hAccept := hProcess.accepts hUser hPassword
          refine ⟨?_, Or.inr ⟨_, hAll⟩⟩
          rw [hNext]
          refine .account _ (Or.inr (Or.inr (Or.inl rfl))) ?_
          refine .userpassWrite methods name pass hMethods
            ⟨hName, hPass⟩ ?_ ?_
          · intro hZero
            exact ⟨_, hAccept hZero⟩
          · have hBuffer := hProcess.readBuffer
            rw [hBuffer, hMute.same]
            rw [hMessage] at hSplit
            exact hSplit

theorem AuthWrite.accounted
    (h : AuthWrite key a s attached r)
    (hSocks : s.conn.isSocks = true)
    (hSide : s.conn.sideOf key.fd = .client)
    (hState : s.conn.current = some USERPASS_WRITE)
    (hAccount : Account s.conn USERPASS_WRITE) :
    Accounted s r := by
  rcases authReply_eq s with ⟨wb, hReply⟩
  have hSame : (authReply s).conn.sideOf key.fd =
      .client := by
    rw [hReply]
    exact hSide
  have hError : COPY < (authReply s).conn.errorState := by
    rw [hReply]
    exact error_over hSocks
  have hDone : COPY < (authReply s).conn.doneState := by
    rw [hReply]
    exact done_over hSocks
  have hSent : ∀ n, Heard s.conn
      (sendPending key n (authReply s)).conn [] := by
    intro n
    have hHeard := sendPending_heard hSame n
    have hLog : (authReply s).conn.log = s.conn.log := by
      rw [hReply]
    exact ⟨hLog ▸ hHeard.grows, hLog ▸ hHeard.client,
      hLog ▸ hHeard.origin⟩
  have hBuffer : ∀ n, (sendPending key n
      (authReply s)).conn.readBuffer = s.conn.readBuffer := by
    intro n
    rw [hReply]
    rfl
  have hAuth : ∀ n, (sendPending key n
      (authReply s)).conn.authentication =
        s.conn.authentication := by
    intro n
    rw [hReply]
    rfl
  have hCurrent : ∀ n, (sendPending key n
      (authReply s)).conn.current = some USERPASS_WRITE := by
    intro n
    rw [hReply]
    exact hState
  cases hAccount with
  | request _ hBad => rcases hBad with h | h | h <;> nomatch h
  | userpassWrite methods name pass hMethods hLengths
      hAccepted hOld =>
      cases h with
      | failed hSend => exact .ends hError
      | refused n hSend hAll hDenied => exact .ends hDone
      | more n hSend hLeft =>
          have hHeard := hSent n
          refine ⟨.account _ (Or.inl (hCurrent n)) ?_,
            Or.inr ⟨[], hHeard⟩⟩
          refine .userpassWrite methods name pass hMethods
            hLengths ?_ ?_
          · intro hZero
            rcases hAccepted ((hAuth n).symm.trans hZero) with
              ⟨table, hTable⟩
            exact ⟨table, hTable.mono hHeard.grows⟩
          · show bytesFrom .client (sendPending key n
              (authReply s)).conn.log = _ ++ (sendPending key n
                (authReply s)).conn.readBuffer.pending
            rw [hBuffer n]
            exact hHeard.same.trans hOld
      | passed n hSend hAll hPassed =>
          have hHeard := hSent n
          rcases hAccepted hPassed with ⟨table, hTable⟩
          refine ⟨.requestRead ?_ _ (.login methods hMethods
            name pass hLengths table
            (hTable.mono hHeard.grows)) ?_,
            Or.inr ⟨[], hHeard⟩⟩
          · show (sendPending key n (authReply
              s)).conn.current ≠ some REQUEST_READ
            rw [hCurrent n]
            decide
          · show bytesFrom .client (sendPending key n
              (authReply s)).conn.log = _ ++ (sendPending key n
                (authReply s)).conn.readBuffer.pending
            rw [hBuffer n]
            exact hHeard.same.trans hOld

/- The states after the request take no more messages. -/
theorem Account.request_kept
    {state next : Nat}
    (h : Account c state)
    (hState : state = REQUEST_RESOLV ∨
      state = REQUEST_CONNECTING ∨ state = REQUEST_WRITE)
    (hNext : next = REQUEST_RESOLV ∨
      next = REQUEST_CONNECTING ∨ next = REQUEST_WRITE)
    (hHeard : Heard c d [])
    (hBuffer : d.readBuffer = c.readBuffer) :
    Account d next := by
  cases h with
  | request _ _ opening message hOpening hMessage hBytes =>
      refine .request next hNext opening message
        (hOpening.mono hHeard.grows) hMessage ?_
      rw [hBuffer, hHeard.same, hBytes]
  | helloRead => rcases hState with h | h | h <;> nomatch h
  | helloFailed => rcases hState with h | h | h <;> nomatch h
  | helloWrite => rcases hState with h | h | h <;> nomatch h
  | userpassRead => rcases hState with h | h | h <;> nomatch h
  | userpassFailed =>
      rcases hState with h | h | h <;> nomatch h
  | userpassWrite => rcases hState with h | h | h <;> nomatch h
  | requestRead => rcases hState with h | h | h <;> nomatch h

/- The states that may follow a request. -/
theorem Bound.of_request
    {next : Nat}
    (hNext : next = REQUEST_RESOLV ∨
      next = REQUEST_CONNECTING ∨ next = REQUEST_WRITE)
    (hAccount : Account c next) : Bound c next := by
  refine .account next (Or.inr (Or.inr (Or.inr ?_))) hAccount
  exact hNext

theorem RequestRead.accounted
    {p : RequestParser}
    (h : RequestRead key a s p attached r)
    (hSide : s.conn.sideOf key.fd = .client)
    (hState : s.conn.current = some REQUEST_READ)
    (hParser : s.conn.request.parser = some p)
    (hAccount : Account s.conn REQUEST_READ) :
    Accounted s r := by
  cases hAccount with
  | request _ hBad => rcases hBad with h | h | h <;> nomatch h
  | requestRead opening fed hOpening q hSome hProgress hGoing
      hOld =>
      have hSame : q = p :=
        Option.some.inj (hSome.symm.trans hParser)
      subst hSame
      cases h with
      | ended hBytes => exact .ends (show COPY < ERROR by decide)
      | more bytes hBytes hNonempty hMore =>
          rcases requestFed_heard hSide hProgress hGoing hOld
            hBytes with ⟨hHeard, now, hNow, hSplit⟩
          refine ⟨.account _ (Or.inl hState) ?_,
            Or.inr ⟨bytes, hHeard⟩⟩
          exact .requestRead opening now
            (hOpening.mono hHeard.grows) _ rfl hNow hMore
            hSplit
      | processed bytes hBytes hNonempty hDone _ hResult =>
          rcases requestFed_heard hSide hProgress hGoing hOld
            hBytes with ⟨hHeard, now, hNow, hSplit⟩
          rcases hResult.mute with ⟨hQuiet, hNext⟩
          have hMute := Heard.of_mute hQuiet
          have hAll : Heard s.conn r.1.conn (bytes ++ []) :=
            hHeard.trans hMute
          have hFine : ¬ (requestFed key bytes q
              s).2.state.Failed := by
            rw [hDone]
            exact id
          have hMessage : RequestMessage now := by
            generalize (requestFed key bytes q s).2 = after
              at hNow hDone
            cases hNow with
            | version => nomatch hDone
            | cmd => nomatch hDone
            | rsv => nomatch hDone
            | atyp => nomatch hDone
            | fqdn => nomatch hDone
            | addr => nomatch hDone
            | name => nomatch hDone
            | port => nomatch hDone
            | done head request hHead a b =>
                exact ⟨head, request, a, b, hHead, rfl⟩
            | failed _ _ hFailed =>
                rw [hDone] at hFailed
                exact hFailed.elim
          refine ⟨.of_request hNext ?_, Or.inr ⟨_, hAll⟩⟩
          refine .request r.2 hNext opening now
            (hOpening.mono hAll.grows) hMessage ?_
          rw [hResult.steady.readBuffer, hMute.same]
          exact hSplit.resolve_left hFine

theorem RequestResolvDone.accounted
    (h : RequestResolvDone key s attached r)
    (hAccount : Account s.conn REQUEST_RESOLV) :
    Accounted s r := by
  have hQuiet : s.conn.Grows Ev.Mute r.1.conn :=
    h.logs.mono fun event hEvent =>
      Ev.ofResolv_mute hEvent rfl
  have hHeard := Heard.of_mute hQuiet
  have hNext : r.2 = REQUEST_RESOLV ∨
      r.2 = REQUEST_CONNECTING ∨ r.2 = REQUEST_WRITE := by
    cases h with
    | failed => exact Or.inr (Or.inr rfl)
    | first => exact Or.inr (Or.inl rfl)
  exact ⟨.of_request hNext (hAccount.request_kept (Or.inl rfl)
    hNext hHeard h.steady.readBuffer), Or.inr ⟨_, hHeard⟩⟩

theorem ConnectingWrite.accounted
    (h : ConnectingWrite key a s attached r)
    (hAccount : Account s.conn REQUEST_CONNECTING) :
    Accounted s r := by
  have hQuiet : s.conn.Grows Ev.Mute r.1.conn :=
    h.aside.grows.mono fun event hEvent =>
      Ev.ofConnecting_mute hEvent
  have hHeard := Heard.of_mute hQuiet
  have hBuffer := h.steady.readBuffer
  have hKept : ∀ next, next = REQUEST_RESOLV ∨
      next = REQUEST_CONNECTING ∨ next = REQUEST_WRITE →
        r.2 = next → Accounted s r := by
    intro next hNext hIs
    rw [← hIs] at hNext
    exact ⟨.of_request hNext (hAccount.request_kept
      (Or.inr (Or.inl rfl)) hNext hHeard hBuffer),
      Or.inr ⟨_, hHeard⟩⟩
  cases h with
  | nextAfterFailure =>
      exact hKept _ (Or.inr (Or.inl rfl)) rfl
  | gaveUp => exact hKept _ (Or.inr (Or.inr rfl)) rfl
  | noAnswer => exact hKept _ (Or.inr (Or.inr rfl)) rfl
  | established => exact hKept _ (Or.inr (Or.inr rfl)) rfl
  | full => exact .ends (show COPY < ERROR by decide)
  | nextAfterError =>
      exact hKept _ (Or.inr (Or.inl rfl)) rfl
  | failed => exact hKept _ (Or.inr (Or.inr rfl)) rfl

theorem RequestWrite.accounted
    (h : RequestWrite key a s attached r)
    (hSide : s.conn.sideOf key.fd = .client)
    (hState : s.conn.current = some REQUEST_WRITE)
    (hAccount : Account s.conn REQUEST_WRITE) :
    Accounted s r := by
  have hSent : ∀ n, Account (sendPending key n s).conn
      REQUEST_WRITE := fun n =>
    hAccount.request_kept (Or.inr (Or.inr rfl))
      (Or.inr (Or.inr rfl)) (sendPending_heard hSide n) rfl
  have hCopy : s.conn.current ≠ some COPY := by
    rw [hState]
    decide
  have hBound : ∀ n (t : St),
      t.conn = (sendPending key n s).conn →
        t.conn.writeBuffer.pending = [] →
          Accounted s (t, COPY) := by
    intro n t hConn hEmpty
    have hHere := hSent n
    rw [← hConn] at hHere
    have hHeard := sendPending_heard hSide n
    rw [← hConn] at hHeard
    cases hHere with
    | request _ _ opening message hOpening hMessage hBytes =>
        refine ⟨.copy ?_ opening message hOpening hMessage
          hBytes hEmpty, Or.inr ⟨_, hHeard⟩⟩
        show t.conn.current ≠ some COPY
        rw [hConn]
        exact hCopy
  cases h with
  | failed hSend => exact .ends (show COPY < ERROR by decide)
  | more n hSend hLeft =>
      exact ⟨.account _ (Or.inl hState) (hSent n),
        Or.inr ⟨_, sendPending_heard hSide n⟩⟩
  | alone n hSend hAll hStatus hOrigin =>
      exact hBound n _ rfl hAll
  | relay n hSend hAll hStatus hOrigin =>
      exact hBound n _ rfl hAll
  | done n hSend hAll hStatus =>
      exact .ends (show COPY < DONE by decide)

/- The call of any state before relaying. -/
theorem SocksTurn.accounted
    (h : SocksTurn k key a s r)
    (hSocks : s.conn.isSocks = true)
    (hSound : s.srv.sel.Sound)
    (hOwns : Owns k s.srv.sel s.conn)
    {state : Nat}
    (hState : s.conn.current = some state)
    (hBefore : state < COPY)
    (hAccount : Account s.conn state) : Accounted s r := by
  have hIs : ∀ other, s.conn.current = some other →
      Account s.conn other := by
    intro other hOther
    rw [Option.some.inj (hOther.symm.trans hState)]
    exact hAccount
  cases h with
  | helloRead hHere hFd _ _ _ _ hCall =>
      exact hCall.accounted hSocks
        (hOwns.sideOf_client hSound hFd) hHere (hIs _ hHere)
  | helloWrite hHere hFd _ _ _ _ hCall =>
      exact hCall.accounted hSocks
        (hOwns.sideOf_client hSound hFd) hHere (hIs _ hHere)
  | authRead hHere hFd _ _ _ hCall =>
      exact hCall.accounted hSocks
        (hOwns.sideOf_client hSound hFd) hHere (hIs _ hHere)
  | authWrite hHere hFd _ _ _ hCall =>
      exact hCall.accounted hSocks
        (hOwns.sideOf_client hSound hFd) hHere (hIs _ hHere)
  | requestRead hHere hFd _ _ _ p hParser _ hCall =>
      exact hCall.accounted (hOwns.sideOf_client hSound hFd)
        hHere hParser (hIs _ hHere)
  | requestResolvDone hHere _ _ _ p _ _ hCall =>
      exact hCall.accounted (hIs _ hHere)
  | connectingWrite hHere _ _ _ _ _ _ hCall =>
      exact hCall.accounted (hIs _ hHere)
  | requestWrite hHere hFd _ _ _ hCall =>
      exact hCall.accounted (hOwns.sideOf_client hSound hFd)
        hHere (hIs _ hHere)
  | relay hHere =>
      rw [Option.some.inj (hState.symm.trans hHere)] at hBefore
      exact absurd hBefore (Nat.lt_irrefl _)

end Accounts

end Socks5d

------------------------------------------------------------
-- Entering The Next State
------------------------------------------------------------

namespace Socks5d

/-
  What two buffers hold, and what has been read and sent
  since then, agree in both directions.
-/
def Passed (c d : Conn) : Prop :=
  ∃ events, d.log = c.log ++ events ∧
    bytesTo .origin events ++ d.readBuffer.pending =
      c.readBuffer.pending ++ bytesFrom .client events ∧
    bytesTo .client events ++ d.writeBuffer.pending =
      c.writeBuffer.pending ++ bytesFrom .origin events

section Entering

variable {k : ConnId}
variable {key : Key}
variable {a : Answers}
variable {s t u : St}
variable {c d : Conn}
variable {r : St × Nat}
variable {next : Nat}

/- The account only looks at what the handshake has stored. -/
theorem Account.moved
    (h : Account c next)
    (hNext : next = HELLO_WRITE ∨ next = USERPASS_WRITE ∨
      next = REQUEST_RESOLV ∨ next = REQUEST_CONNECTING ∨
      next = REQUEST_WRITE)
    (hHeard : Heard c d [])
    (hBuffer : d.readBuffer = c.readBuffer)
    (hHello : d.hello = c.hello)
    (hAuth : d.authentication = c.authentication) :
    Account d next := by
  have hBytes : ∀ bytes, bytesFrom .client c.log =
      bytes ++ c.readBuffer.pending →
        bytesFrom .client d.log =
          bytes ++ d.readBuffer.pending := by
    intro bytes hOld
    rw [hBuffer, hHeard.same, hOld]
  cases h with
  | helloWrite methods hMethods hFound hOld =>
      refine .helloWrite methods hMethods ?_ (hBytes _ hOld)
      rw [hHello]
      rcases hFound with hNone | ⟨hIn, hInit⟩
      · exact Or.inl hNone
      · exact Or.inr ⟨hIn, hHeard.grows _ hInit⟩
  | userpassWrite methods name pass hMethods hLengths
      hAccepted hOld =>
      refine .userpassWrite methods name pass hMethods
        hLengths ?_ (hBytes _ hOld)
      intro hZero
      rcases hAccepted (hAuth.symm.trans hZero) with
        ⟨table, hTable⟩
      exact ⟨table, hTable.mono hHeard.grows⟩
  | request _ hState opening message hOpening hMessage hOld =>
      exact .request next hState opening message
        (hOpening.mono hHeard.grows) hMessage (hBytes _ hOld)
  | helloRead => rcases hNext with h | h | h | h | h <;> nomatch h
  | helloFailed =>
      rcases hNext with h | h | h | h | h <;> nomatch h
  | userpassRead =>
      rcases hNext with h | h | h | h | h <;> nomatch h
  | userpassFailed =>
      rcases hNext with h | h | h | h | h <;> nomatch h
  | requestRead =>
      rcases hNext with h | h | h | h | h <;> nomatch h

theorem entered_heard
    (state : Nat)
    (s : St) : Heard s.conn (entered state s).conn [] := by
  refine .of_mute (.single rfl ?_)
  exact fun _ => ⟨rfl, rfl⟩

/- `request_init` neither hears nor takes bytes. -/
theorem RequestInit.mute
    {attached : Attachment}
    (h : RequestInit key attached s u) :
    s.conn.Grows Ev.Mute u.conn ∧
      u.conn.readBuffer = s.conn.readBuffer ∧
      u.conn.request.parser = some requestParserInit := by
  cases h with
  | ready => exact ⟨.of_eq rfl, rfl, rfl⟩
  | starved wb site log fault hSite hLog hFault =>
      refine ⟨⟨.outOfMemory site :: log, rfl, ?_⟩, rfl, rfl⟩
      intro event hEvent
      rcases List.mem_cons.mp hEvent with hNew | hRest
      · rw [hNew]
        exact fun _ => ⟨rfl, rfl⟩
      · rcases hLog event hRest with
          ⟨status, hEq⟩ | ⟨other, hEq⟩
        · rw [hEq]
          exact fun _ => ⟨rfl, rfl⟩
        · rw [hEq]
          exact fun _ => ⟨rfl, rfl⟩

/- `USERPASS_READ` starts with a fresh parser. -/
theorem Account.userpass
    {methods : List UInt8}
    (hMethods : methods.length ≤ 255)
    (hOld : bytesFrom .client s.conn.log =
      helloMessage socksVersion methods ++
        s.conn.readBuffer.pending) :
    Account (authReadInit key a
      (entered USERPASS_READ s)).conn USERPASS_READ := by
  have hHeard := entered_heard USERPASS_READ s
  unfold authReadInit
  split
  · have hStart : Progress authBlocks [] authParser :=
      Progress.start authBlocks_wellFormed (by decide)
    refine .userpassRead methods [] hMethods hStart rfl ?_
    rw [List.append_nil]
    exact hHeard.same.trans hOld
  · exact .userpassFailed rfl

/- A state before relaying that is entered, or stayed in. -/
theorem Bound.enter
    (h : Bound s.conn next)
    (hJump : SocksJump k key a s next u)
    (hNext : next < COPY) : Account u.conn next := by
  cases hJump with
  | stay _ hState =>
      cases h with
      | account _ _ hAccount => exact hAccount
      | userpassRead hOther => exact absurd hState hOther
      | requestRead hOther => exact absurd hState hOther
      | copy hOther => exact absurd hState hOther
      | ends _ hOver =>
          exact absurd (Nat.lt_trans hOver hNext)
            (Nat.lt_irrefl _)
  | plain _ hPlain hState parser =>
      have hEntered := entered_heard next
        { s with conn.request.parser := parser }
      have hHeard : Heard s.conn (entered next
          { s with conn.request.parser := parser }).conn [] :=
        ⟨hEntered.grows, hEntered.client, hEntered.origin⟩
      have hKinds : next = HELLO_WRITE ∨
          next = USERPASS_WRITE ∨ next = REQUEST_RESOLV ∨
          next = REQUEST_CONNECTING ∨
          next = REQUEST_WRITE := by
        rcases hPlain with hIs | hIs | hIs | hIs | hIs | hIs
        · exact Or.inl hIs
        · exact Or.inr (Or.inl hIs)
        · exact Or.inr (Or.inr (Or.inl hIs))
        · exact Or.inr (Or.inr (Or.inr (Or.inr hIs)))
        · rw [hIs] at hNext
          exact absurd hNext (by decide)
        · rw [hIs] at hNext
          exact absurd hNext (by decide)
      cases h with
      | account _ _ hAccount =>
          exact hAccount.moved hKinds hHeard rfl rfl rfl
      | userpassRead =>
          rcases hKinds with h | h | h | h | h <;> nomatch h
      | requestRead =>
          rcases hKinds with h | h | h | h | h <;> nomatch h
      | copy => exact absurd hNext (Nat.lt_irrefl _)
      | ends _ hOver =>
          exact absurd (Nat.lt_trans hOver hNext)
            (Nat.lt_irrefl _)
  | userpassRead hState =>
      cases h with
      | account _ hPlain =>
          exfalso
          rcases hPlain with hHere | h | h | h | h | h
          · nomatch hState.symm.trans hHere
          all_goals nomatch h
      | ends _ hOver =>
          exact absurd (Nat.lt_trans hOver hNext)
            (Nat.lt_irrefl _)
      | userpassRead hOther methods hMethods hOld =>
          exact .userpass hMethods hOld
  | requestRead hState _ hInit =>
      cases h with
      | account _ hPlain =>
          exfalso
          rcases hPlain with hHere | h | h | h | h | h
          · rcases hState with hHello | hUser
            · nomatch hHello.symm.trans hHere
            · nomatch hUser.symm.trans hHere
          all_goals nomatch h
      | ends _ hOver =>
          exact absurd (Nat.lt_trans hOver hNext)
            (Nat.lt_irrefl _)
      | requestRead hOther opening hOpening hOld =>
          have hHeard := entered_heard REQUEST_READ s
          rcases hInit.mute with ⟨hMute, hBuffer, hParser⟩
          have hAll := hHeard.trans (.of_mute hMute)
          refine .requestRead opening []
            (hOpening.mono hAll.grows) requestParserInit
            hParser .version (by decide) (Or.inr ?_)
          rw [List.append_nil, hBuffer]
          exact hAll.same.trans hOld
  | connecting hState parser _ hInit =>
      have hHeard := entered_heard REQUEST_CONNECTING
        { s with conn.request.parser := parser }
      have hMute := hInit.aside.grows.mono
        fun event hEvent => Ev.ofConnecting_mute hEvent
      have hAll := hHeard.trans (.of_mute hMute)
      cases h with
      | account _ _ hAccount =>
          exact hAccount.request_kept (Or.inr (Or.inl rfl))
            (Or.inr (Or.inl rfl))
            ⟨hAll.grows, hAll.client, hAll.origin⟩
            hInit.steady.readBuffer
      | ends _ hOver =>
          exact absurd (Nat.lt_trans hOver hNext)
            (Nat.lt_irrefl _)
  | copy => exact absurd hNext (Nat.lt_irrefl _)

/- `COPY` is entered with the messages taken. -/
theorem Bound.relaying
    (h : Bound s.conn COPY)
    (hOther : s.conn.current ≠ some COPY)
    (hNone : bytesTo .origin s.conn.log = [])
    (hJump : SocksJump k key a s COPY u) :
    Relaying u.conn := by
  cases h with
  | account _ hPlain =>
      exfalso
      rcases hPlain with hHere | h | h | h | h | h
      · exact hOther hHere
      all_goals nomatch h
  | ends _ hOver => exact absurd hOver (Nat.lt_irrefl _)
  | copy _ opening message hOpening hMessage hOld hEmpty =>
      cases hJump with
      | stay _ hState => exact absurd hState hOther
      | plain _ hPlain =>
          rcases hPlain with h | h | h | h | h | h <;> nomatch h
      | copy hState =>
          refine ⟨s.conn.log, [], opening, message,
            s.conn.readBuffer.pending, rfl, hOpening, hMessage,
            hOld, ?_, ?_⟩
          · show bytesTo .origin (s.conn.log ++
              [.enter COPY]) ++ s.conn.readBuffer.pending = _
            rw [bytesTo_append, hNone]
            exact (List.append_nil _).symm
          · exact hEmpty

/- Relaying goes on. -/
theorem Relaying.passed
    (h : Relaying c)
    (hPassed : Passed c d) : Relaying d := by
  rcases h with ⟨before, after, opening, message, early, hLog,
    hOpening, hMessage, hEarly, hUp, hDown⟩
  rcases hPassed with ⟨events, hMore, hUp', hDown'⟩
  refine ⟨before, after ++ events, opening, message, early,
    ?_, hOpening, hMessage, hEarly, ?_, ?_⟩
  · rw [hMore, hLog, List.append_assoc]
    rfl
  · rw [hMore, bytesTo_append, List.append_assoc, hUp',
      ← List.append_assoc, hUp, bytesFrom_append,
      List.append_assoc]
  · rw [bytesTo_append, List.append_assoc, hDown',
      ← List.append_assoc, hDown, bytesFrom_append]

theorem Passed.of_mute
    (h : c.Grows Ev.Mute d)
    (hRead : d.readBuffer = c.readBuffer)
    (hWrite : d.writeBuffer = c.writeBuffer) :
    Passed c d := by
  rcases h with ⟨events, hLog, hMute⟩
  refine ⟨events, hLog, ?_, ?_⟩
  · rw [bytesTo_mute hMute, bytesFrom_mute hMute, hRead,
      List.append_nil, List.nil_append]
  · rw [bytesTo_mute hMute, bytesFrom_mute hMute, hWrite,
      List.append_nil, List.nil_append]

/- One `recv` or `send` of a relay. -/
theorem Relay.passed
    {side : Side}
    (h : Relay side s t) : Passed s.conn t.conn := by
  have hShut : ∀ own theirs : Interest → Interest, ∀ event,
      event.Mute → Passed s.conn (St.note { s with
        conn := copyShut own theirs side s.conn }
          event).conn := by
    intro own theirs event hMute
    rcases copyShut_eq side s.conn own theirs with
      ⟨client, origin, hEq⟩
    rw [hEq]
    exact .of_mute (.single rfl hMute) rfl rfl
  cases h with
  | ended =>
      refine hShut _ _ _ ?_
      exact fun _ => ⟨rfl, rfl⟩
  | sendFailed =>
      refine hShut _ _ _ ?_
      exact fun _ => ⟨rfl, rfl⟩
  | got bytes hSome hRoom =>
      rcases copyGot_eq side bytes s with
        ⟨m, parser, found, hEq, hFound⟩
      have hMute : ∀ event ∈ found, event.Mute := by
        intro event hEvent
        have hKind := hFound event hEvent
        unfold Ev.ofDissect at hKind
        split at hKind
        · exact fun _ => ⟨rfl, rfl⟩
        · exact fun _ => ⟨rfl, rfl⟩
        · exact hKind.elim
      have hStored : ((s.conn.rb side).writeAdv
          bytes).pending = (s.conn.rb side).pending ++
            bytes := by
        rw [Buffer.writeAdv_pending,
          List.take_of_length_le hRoom]
      have hFrom : ∀ peer, bytesFrom peer
          (.recv side bytes :: found) =
            if side = peer then bytes else [] := by
        intro peer
        show (if side = peer then bytes else []) ++
          bytesFrom peer found = _
        rw [bytesFrom_mute hMute, List.append_nil]
      have hTo : ∀ peer, bytesTo peer
          (.recv side bytes :: found) = [] := by
        intro peer
        show [] ++ bytesTo peer found = _
        rw [bytesTo_mute hMute, List.append_nil]
      rw [hEq]
      refine ⟨_, rfl, ?_, ?_⟩
      · rw [hTo, hFrom, List.nil_append]
        cases side with
        | client => exact hStored
        | origin => exact (List.append_nil _).symm
      · rw [hTo, hFrom, List.nil_append]
        cases side with
        | client => exact (List.append_nil _).symm
        | origin => exact hStored
  | sent n =>
      let taken := (s.conn.wb side).pending.take n
      have hTo : ∀ peer, bytesTo peer
          [.send side taken] =
            if side = peer then taken else [] := by
        intro peer
        exact List.append_nil _
      have hLeft : taken ++ ((s.conn.wb side).readAdv
          taken.length).pending = (s.conn.wb side).pending := by
        rw [Buffer.readAdv_pending, List.length_take]
        conv_rhs => rw [← List.take_append_drop n
          (s.conn.wb side).pending]
        congr 1
        by_cases hLe : n ≤ (s.conn.wb side).pending.length
        · rw [Nat.min_eq_left hLe]
        · rw [Nat.min_eq_right (Nat.le_of_not_le hLe),
            List.drop_length, List.drop_of_length_le
              (Nat.le_of_not_le hLe)]
      have hLog : (copySent side n s).conn.log =
          s.conn.log ++ [.send side taken] := by
        cases side <;> rfl
      refine ⟨_, hLog, ?_, ?_⟩
      · rw [hTo]
        cases side with
        | client => exact (List.append_nil _).symm
        | origin =>
            exact hLeft.trans (List.append_nil _).symm
      · rw [hTo]
        cases side with
        | client =>
            exact hLeft.trans (List.append_nil _).symm
        | origin => exact (List.append_nil _).symm

end Entering

end Socks5d

------------------------------------------------------------
-- Every Event
------------------------------------------------------------

namespace Socks5d

section Runs

variable {k : ConnId}
variable {key : Key}
variable {a : Answers}
variable {s t u : St}
variable {c d : Conn}
variable {r : St × Nat}
variable {w : World}

/- The states that are called. -/
theorem SocksTurn.state
    (h : SocksTurn k key a s r) :
    ∃ state, s.conn.current = some state ∧
      state ≤ COPY := by
  cases h with
  | helloRead hHere => exact ⟨_, hHere, by decide⟩
  | helloWrite hHere => exact ⟨_, hHere, by decide⟩
  | authRead hHere => exact ⟨_, hHere, by decide⟩
  | authWrite hHere => exact ⟨_, hHere, by decide⟩
  | requestRead hHere => exact ⟨_, hHere, by decide⟩
  | requestResolvDone hHere => exact ⟨_, hHere, by decide⟩
  | connectingWrite hHere => exact ⟨_, hHere, by decide⟩
  | requestWrite hHere => exact ⟨_, hHere, by decide⟩
  | relay hHere => exact ⟨_, hHere, Nat.le_refl _⟩

/- A jump neither reads nor sends. -/
theorem SocksJump.mute
    {next : Nat}
    (h : SocksJump k key a s next u) :
    s.conn.Grows Ev.Mute u.conn := by
  rcases h.logs with ⟨_, hSame⟩ | ⟨_, hEnters⟩
  · rw [hSame]
    exact .of_eq rfl
  · have hFirst : s.conn.Grows Ev.Mute
        (entered next s).conn := by
      refine .single rfl ?_
      exact fun _ => ⟨rfl, rfl⟩
    exact hFirst.trans (hEnters.mono fun event hEvent =>
      Ev.ofArrival_mute hEvent)

/- A call and a jump before relaying. -/
theorem Streams.early
    (h : Streams s.conn)
    (hSocks : s.conn.isSocks = true)
    (hSound : s.srv.sel.Sound)
    (hOwns : Owns k s.srv.sel s.conn)
    {state : Nat}
    (hState : s.conn.current = some state)
    (hBefore : state < COPY)
    (hTurn : SocksTurn k key a s r)
    (hJump : SocksJump k key a r.1 r.2 u) :
    Streams u.conn := by
  have hNow : u.conn.current = some r.2 := hJump.enters
  have hIs : ∀ other, u.conn.current = some other →
      other = r.2 := fun other hOther =>
    Option.some.inj (hOther.symm.trans hNow)
  have hFresh := h.fresh (by
    intro other hOther
    rw [Option.some.inj (hOther.symm.trans hState)]
    exact hBefore)
  rcases hTurn.accounted hSocks hSound hOwns hState hBefore
    (h.handshake state hState hBefore) with
    ⟨hBound, hHeard⟩
  rcases hTurn.logs hSound hOwns with
    ⟨here, hHere, hGrows⟩
  have hNew : Ev.enter COPY ∈ u.conn.log →
      r.2 = COPY ∧ r.1.conn.current ≠ some COPY :=
    enter_new hGrows hJump hFresh.1
  have hSent : r.2 ≤ COPY →
      bytesTo .origin r.1.conn.log = [] := by
    intro hLe
    rcases hHeard with hOver | ⟨bytes, hHeard⟩
    · exact absurd hOver (Nat.not_lt.mpr hLe)
    · exact hHeard.origin.trans hFresh.2
  constructor
  · intro hAll
    have hLt := hAll r.2 hNow
    refine ⟨?_, ?_⟩
    · intro hIn
      rw [(hNew hIn).1] at hLt
      exact absurd hLt (Nat.lt_irrefl _)
    · exact (Heard.of_mute hJump.mute).origin.trans
        (hSent (Nat.le_of_lt hLt))
  · intro other hOther hLt
    rw [hIs other hOther] at hLt ⊢
    exact hBound.enter hJump hLt
  · intro hNone
    nomatch hNone.symm.trans hNow
  · intro hCopy
    have hNext : r.2 = COPY := (hIs COPY hCopy).symm
    rcases hJump.logs with ⟨hStay, _⟩ | ⟨_, hEnters⟩
    · have hCurrent := (hTurn.current hSound hOwns).trans
        hState
      rw [hStay, hNext] at hCurrent
      rw [← Option.some.inj hCurrent] at hBefore
      exact absurd hBefore (Nat.lt_irrefl _)
    · refine hEnters.mem ?_
      rw [hNext]
      exact List.mem_append_right _ (List.mem_singleton.mpr rfl)
  · intro hIn
    rcases hNew hIn with ⟨hNext, hOther⟩
    have hNone := hSent (Nat.le_of_eq hNext)
    rw [hNext] at hBound hJump
    exact hBound.relaying hOther hNone hJump

/- A call and a jump while relaying. -/
theorem Streams.relay
    (h : Streams s.conn)
    (hSocks : s.conn.isSocks = true)
    (hSound : s.srv.sel.Sound)
    (hOwns : Owns k s.srv.sel s.conn)
    (hCopy : s.conn.current = some COPY)
    (hTurn : SocksTurn k key a s r)
    (hJump : SocksJump k key a r.1 r.2 u) :
    Streams u.conn := by
  have hNow : u.conn.current = some r.2 := hJump.enters
  have hHere := (hTurn.current hSound hOwns).trans hCopy
  have hHeading := (hTurn.heading hSound hOwns hSocks).2
  have hLate : ¬ r.2 < COPY := by
    intro hLt
    have hForward := hHeading.forward hHere (Nat.le_of_lt hLt)
    exact absurd hLt (Nat.not_lt.mpr hForward)
  have hIs : ∀ other, u.conn.current = some other →
      other = r.2 := fun other hOther =>
    Option.some.inj (hOther.symm.trans hNow)
  have hIn := h.copying hCopy
  have hCalled : Passed s.conn r.1.conn := by
    cases hTurn with
    | relay _ hCopying hSlots side hSide hFd t hRelay =>
        have hReady :=
          hRelay.ready hSound hOwns hCopying hSlots
        rw [copyFinish_conn hReady.1.fds hReady.2]
        exact hRelay.passed
    | helloRead hBad => nomatch hCopy.symm.trans hBad
    | helloWrite hBad => nomatch hCopy.symm.trans hBad
    | authRead hBad => nomatch hCopy.symm.trans hBad
    | authWrite hBad => nomatch hCopy.symm.trans hBad
    | requestRead hBad => nomatch hCopy.symm.trans hBad
    | requestResolvDone hBad => nomatch hCopy.symm.trans hBad
    | connectingWrite hBad => nomatch hCopy.symm.trans hBad
    | requestWrite hBad => nomatch hCopy.symm.trans hBad
  have hEntered : Passed r.1.conn u.conn := by
    have hMute := hJump.mute
    generalize hNext : r.2 = next at hJump
    cases hJump with
    | stay => exact .of_mute hMute rfl rfl
    | plain => exact .of_mute hMute rfl rfl
    | userpassRead hBad => nomatch hHere.symm.trans hBad
    | requestRead hBad =>
        rcases hBad with hBad | hBad
        · nomatch hHere.symm.trans hBad
        · nomatch hHere.symm.trans hBad
    | connecting hBad =>
        rcases hBad with hBad | hBad
        · nomatch hHere.symm.trans hBad
        · nomatch hHere.symm.trans hBad
    | copy hBad => nomatch hHere.symm.trans hBad
  have hRelaying : Relaying u.conn :=
    ((h.relaying hIn).passed hCalled).passed hEntered
  have hKept : Ev.enter COPY ∈ u.conn.log := by
    rcases hTurn.logs hSound hOwns with ⟨_, _, hGrows⟩
    exact hJump.mute.mem (hGrows.mem hIn)
  constructor
  · intro hAll
    exact absurd (hAll r.2 hNow) hLate
  · intro other hOther hLt
    rw [hIs other hOther] at hLt
    exact absurd hLt hLate
  · intro hNone
    nomatch hNone.symm.trans hNow
  · intro _
    exact hKept
  · intro _
    exact hRelaying

/- Events that a thread or a job adds before relaying. -/
theorem Streams.waiting
    (h : Streams c)
    (hState : c.current = some REQUEST_RESOLV)
    (hSame : d.current = c.current)
    (hBuffer : d.readBuffer = c.readBuffer)
    (hMute : c.Grows Ev.Mute d)
    (hEnter : Ev.enter COPY ∈ d.log → Ev.enter COPY ∈ c.log) :
    Streams d := by
  have hHeard := Heard.of_mute hMute
  have hNow := hSame.trans hState
  have hIs : ∀ state, c.current = some state →
      state < COPY := by
    intro state hHere
    rw [Option.some.inj (hHere.symm.trans hState)]
    decide
  have hFresh := h.fresh hIs
  constructor
  · intro _
    exact ⟨fun hIn => hFresh.1 (hEnter hIn),
      hHeard.origin.trans hFresh.2⟩
  · intro state hHere _
    rw [Option.some.inj (hHere.symm.trans hNow)]
    exact (h.handshake _ hState (by decide)).request_kept
      (Or.inl rfl) (Or.inl rfl) hHeard hBuffer
  · intro hNone
    nomatch hNone.symm.trans hNow
  · intro hCopy
    nomatch hCopy.symm.trans hNow
  · intro hIn
    exact absurd (hEnter hIn) hFresh.1

/- The first event of a connection. -/
theorem Streams.first
    (h : Streams s.conn)
    (hSocks : s.conn.isSocks = true)
    (hState : s.conn.current = none)
    (key : Key)
    (a : Answers) :
    Streams (helloReadInit key a
      (entered HELLO_READ s)).conn := by
  rcases h.start hState with ⟨hNone, hEmpty⟩
  have hFresh := h.fresh (by
    intro state hHere
    nomatch hState.symm.trans hHere)
  have hAll : ∀ event : Ev, event.Mute →
      event.isEnter = false → ∀ d : Conn,
        d.log = s.conn.log ++ [.enter HELLO_READ] ++ [event] →
          d.current = some HELLO_READ →
            Account d HELLO_READ → Streams d := by
    intro event hMute hPlain d hLog hNow hAccount
    have hEntered := entered_heard HELLO_READ s
    have hMore : Heard (entered HELLO_READ s).conn d [] :=
      .of_mute (.single hLog hMute)
    have hNot : Ev.enter COPY ∉ d.log := by
      rw [hLog]
      intro hBad
      rcases List.mem_append.mp hBad with hOld | hNew
      · rcases List.mem_append.mp hOld with hOld | hEnter
        · exact hFresh.1 hOld
        · have hCopy := List.mem_singleton.mp hEnter
          injection hCopy with hCopy
          nomatch hCopy
      · rw [← List.mem_singleton.mp hNew] at hPlain
        nomatch hPlain
    constructor
    · intro _
      exact ⟨hNot, hMore.origin.trans
        (hEntered.origin.trans hFresh.2)⟩
    · intro state hHere _
      rw [Option.some.inj (hHere.symm.trans hNow)]
      exact hAccount
    · intro hBad
      nomatch hBad.symm.trans hNow
    · intro hBad
      nomatch hBad.symm.trans hNow
    · intro hIn
      exact absurd hIn hNot
  have hMute : ∀ event : Ev, event.Mute →
      bytesFrom .client (s.conn.log ++ [.enter HELLO_READ] ++
        [event]) = [] := by
    intro event hEvent
    rw [bytesFrom_append, bytesFrom_append, hNone]
    show [] ++ (event.readFrom .client ++ []) = []
    rw [(hEvent .client).1]
    rfl
  unfold helloReadInit
  split
  · refine hAll (.helloInit s.srv.authMethod) ?_ rfl _ rfl rfl
      ?_
    · exact fun _ => ⟨rfl, rfl⟩
    refine .helloRead [] ?_ rfl ?_ ?_ ?_
    · exact .version _ _
    · exact if_pos hSocks
    · have hMethod : (if (entered HELLO_READ
          s).conn.isSocks = true then s.srv.authMethod
            else mngAuthMethod) = s.srv.authMethod :=
        if_pos hSocks
      show Ev.helloInit (if (entered HELLO_READ
        s).conn.isSocks = true then s.srv.authMethod
          else mngAuthMethod) ∈ _
      rw [hMethod]
      exact List.mem_append_right _ (List.mem_singleton.mpr rfl)
    · show bytesFrom .client (s.conn.log ++
        [.enter HELLO_READ] ++ [_]) =
          [] ++ s.conn.readBuffer.pending
      rw [hEmpty]
      exact hMute _ fun _ => ⟨rfl, rfl⟩
  · refine hAll (.outOfMemory .hello) ?_ rfl _ rfl rfl ?_
    · exact fun _ => ⟨rfl, rfl⟩
    exact .helloFailed rfl

/- Every event keeps the account of the bytes. -/
theorem streams_preserved :
    Preserved fun _ _ c => c.isSocks = true → Streams c := by
  constructor
  · intro admins k isSocks client hSocks
    constructor
    · intro _
      exact ⟨List.not_mem_nil, rfl⟩
    · intro state hState
      nomatch hState
    · intro _
      exact ⟨rfl, rfl⟩
    · intro hBad
      nomatch hBad
    · intro hBad
      exact absurd hBad List.not_mem_nil
  · intro admins k c addresses hState hBefore hSocks
    exact (hBefore hSocks).waiting hState rfl rfl (.of_eq rfl)
      id
  · intro k s request hState hBefore hSocks
    refine (hBefore hSocks).waiting hState rfl rfl ?_ ?_
    · refine .single rfl ?_
      exact fun _ => ⟨rfl, rfl⟩
    · intro hIn
      rcases List.mem_append.mp hIn with hOld | hNew
      · exact hOld
      · nomatch List.mem_singleton.mp hNew
  · intro k key a s hState hBefore hSocks
    have hService : s.conn.isSocks = true := by
      unfold helloReadInit at hSocks
      split at hSocks
      · exact hSocks
      · exact hSocks
    exact (hBefore hService).first hService hState key a
  · intro k key a s r u hSocks hSound hOwns hTurn hJump
      hBefore _
    have hHere := hBefore hSocks
    rcases hTurn.state with ⟨state, hState, hLe⟩
    rcases Nat.lt_or_eq_of_le hLe with hLt | hCopy
    · exact hHere.early hSocks hSound hOwns hState hLt hTurn
        hJump
    · rw [hCopy] at hState
      exact hHere.relay hSocks hSound hOwns hState hTurn hJump
  · intro k key a s r u hMng hTurn hJump _ hSocks
    have hService := hJump.service.trans hTurn.service
    rw [hService, hMng] at hSocks
    nomatch hSocks

/-
  At every moment of relaying: in front of the entry into
  `COPY` the client has sent a hello, perhaps a
  user/password message, a request and some early bytes, and
  what has been passed on in each direction or is pending is
  what has been read, with the early bytes first.
-/
theorem relayed_streams
    (hReach : server.Reachable w)
    (hOld : k < w.next)
    (hSocks : (w.conn k).isSocks = true)
    (hCopy : (w.conn k).current = some COPY) :
    ∃ before after opening message early,
      (w.conn k).log = before ++ .enter COPY :: after ∧
      Opening before opening ∧
      RequestMessage message ∧
      bytesFrom .client before = opening ++ message ++ early ∧
      bytesTo .origin (w.conn k).log ++
          (w.conn k).readBuffer.pending =
        early ++ bytesFrom .client after ∧
      bytesTo .client after ++
          (w.conn k).writeBuffer.pending =
        bytesFrom .origin after := by
  have hStreams := conn_invariant streams_preserved hReach
    hOld hSocks
  exact (hStreams.relaying (hStreams.copying hCopy)).streams

end Runs

/- A byte behind the request comes before the others. -/
theorem relayed_streams_early :
    let w := exec (relayingWorld [0x61]) relayedLabel
    (w.conn 0).readBuffer.pending = [0x61, 1, 2, 3] ∧
      ∃ before after opening message early,
        (w.conn 0).log = before ++ .enter COPY :: after ∧
        Opening before opening ∧
        RequestMessage message ∧
        bytesFrom .client before =
          opening ++ message ++ early ∧
        bytesTo .origin (w.conn 0).log ++
            (w.conn 0).readBuffer.pending =
          early ++ bytesFrom .client after ∧
        bytesTo .client after ++
            (w.conn 0).writeBuffer.pending =
          bytesFrom .origin after := by
  intro w
  have hReach : server.Reachable w :=
    (relayingWorld_reachable [0x61]).step
      (l := relayedLabel) ⟨by decide +kernel, rfl⟩
  exact ⟨by decide +kernel, relayed_streams hReach
    (by decide +kernel) (by decide +kernel)
    (by decide +kernel)⟩

end Socks5d
