import Socks5d.Administration

/-
  Both directions of a management connection: what has been
  read of it and what has been said on it, state by state,
  and what the first bytes of the answers therefore mean.

  Main declarations:
    * `authReplies`, `admission`
    * `Greeting`, `Honoured`, `Truthful`
    * `Dialogue`, `Departs`
    * `dialogue_preserved`, `reachable_truthful`
-/

------------------------------------------------------------
-- The Answers To A Login
------------------------------------------------------------

namespace Socks5d

/- The replies of some calls of `auth_write`. -/
def authReplies
    (status : UInt8)
    (n : Nat) : List UInt8 :=
  (List.replicate n
    [userpassMethodVersion, status]).flatten

section Saying

variable {s : St}
variable {r : St × Nat}

theorem authReplies_succ
    (status : UInt8)
    (n : Nat) :
    authReplies status (n + 1) =
      authReplies status n ++
        [userpassMethodVersion, status] := by
  unfold authReplies
  rw [List.replicate_succ', List.flatten_append,
    List.flatten_singleton]

/- The next two calls of `auth_write` say one reply each. -/
theorem authReply_repeats
    (s : St)
    (n : Nat)
    (opening : List UInt8)
    (hSaid : s.conn.replied =
      opening ++ authReplies s.conn.authentication n)
    (hFirst : n = 0 → s.conn.writeBuffer.pending = []) :
    ∃ m, (authReply s).conn.replied = opening ++
      authReplies s.conn.authentication (m + 1) := by
  unfold authReply
  unfold marshalPair
  split
  · rename_i hFull
    cases n with
    | zero =>
        rw [Buffer.room_of_pending_nil (hFirst rfl)] at hFull
        exact absurd hFull (by decide)
    | succ n => exact ⟨n, hSaid⟩
  · rename_i hRoom
    refine ⟨n, ?_⟩
    rw [authReplies_succ, ← List.append_assoc, ← hSaid]
    refine said_stored (c := s.conn) rfl ?_
    rw [Buffer.writeAdv_pending, List.take_of_length_le]
    exact Nat.not_lt.mp hRoom

theorem AuthProcess.silent
    (h : AuthProcess s r) : Silent s.conn r.1.conn := by
  cases h with
  | accepted => exact .single rfl rfl rfl
  | denied => exact .single rfl rfl rfl
  | noEntries => exact ⟨rfl, rfl⟩
  | crashed => exact ⟨rfl, rfl⟩

end Saying

end Socks5d

------------------------------------------------------------
-- The Dialogue
------------------------------------------------------------

namespace Socks5d

/- A hello and the user/password message after it. -/
inductive Greeting : List UInt8 → Prop where
  | login
      (methods name pass : List UInt8)
      (hMethods : methods.length ≤ 255)
      (hLengths : name.length < 256 ∧ pass.length < 256) :
      Greeting (helloMessage mngVersion methods ++
        loginMessage name pass)

/-
  What was read is a greeting and then a whole request: an
  index that has no parameters, or the request asked for.
-/
def Honoured
    (c : Conn)
    (asked : Option Adjustment) : Prop :=
  ∃ greeting message rest, Greeting greeting ∧
    bytesRead c.log = greeting ++ message ++ rest ∧
      ((∃ index, mngParamsBlocks index = none ∧
          message = [index]) ∨
        ∃ r, asked = some r ∧ r.WellFormed ∧
          message = r.bytes)

/- Whom the answers tell of a success has been served. -/
def Truthful
    (answers : List UInt8)
    (c : Conn)
    (asked : Option Adjustment) : Prop :=
  ∀ x m y, [x, m, y, 0x00, 0x00] <+: answers →
    m = mngAuthMethod ∧ Honoured c asked

/- What was said before the answer to a request. -/
def admission (n : Nat) : List UInt8 :=
  [mngVersion, mngAuthMethod] ++ authReplies 0x00 (n + 1)

/- What was read and what was said, in each state. -/
inductive Dialogue (c : Conn) : Nat → Prop where
  | helloRead
      (fed : List UInt8)
      (hProgress : HelloProgress fed c.hello.parser)
      (hGoing : helloIsDone c.hello.parser.state = false)
      (hVersion : c.hello.parser.version = mngVersion)
      (hSaid : c.replied = [])
      (hRead : bytesRead c.log =
        fed ++ c.readBuffer.pending) :
      Dialogue c HELLO_READ
  | helloFailed
      (hFailed : c.hello.failed = true)
      (hSaid : c.replied = []) :
      Dialogue c HELLO_READ
  | helloWrite
      (methods : List UInt8)
      (hMethods : methods.length ≤ 255)
      (hSaid : c.replied = [mngVersion, c.hello.method])
      (hRead : bytesRead c.log =
        helloMessage mngVersion methods ++
          c.readBuffer.pending) :
      Dialogue c HELLO_WRITE
  | userpassRead
      (methods fed : List UInt8)
      (hMethods : methods.length ≤ 255)
      (hProgress : Progress authBlocks fed c.userpass.parser)
      (hGoing : isDone c.userpass.parser.current = false)
      (hSaid : c.replied = [mngVersion, mngAuthMethod])
      (hEmpty : c.writeBuffer.pending = [])
      (hRead : bytesRead c.log =
        helloMessage mngVersion methods ++ fed ++
          c.readBuffer.pending) :
      Dialogue c USERPASS_READ
  | userpassFailed
      (hFailed : c.userpass.failed = true)
      (hSaid : c.replied = [mngVersion, mngAuthMethod]) :
      Dialogue c USERPASS_READ
  | userpassWrite
      (greeting : List UInt8)
      (hGreeting : Greeting greeting)
      (n : Nat)
      (hFirst : n = 0 → c.writeBuffer.pending = [])
      (hSaid : c.replied = [mngVersion, mngAuthMethod] ++
        authReplies c.authentication n)
      (hRead : bytesRead c.log =
        greeting ++ c.readBuffer.pending) :
      Dialogue c USERPASS_WRITE
  | index
      (greeting : List UInt8)
      (hGreeting : Greeting greeting)
      (n : Nat)
      (hSaid : c.replied = admission n)
      (hRead : bytesRead c.log =
        greeting ++ c.readBuffer.pending) :
      Dialogue c MNG_REQUEST_READ_INDEX
  | params
      (greeting : List UInt8)
      (hGreeting : Greeting greeting)
      (n : Nat)
      (hSaid : c.replied = admission n)
      (hRead : c.mngRequest.status = .succeeded →
        ∃ fed, ParamsGoing fed c.mngRequest ∧
          bytesRead c.log = greeting ++
            (c.mngRequest.index :: fed) ++
              c.readBuffer.pending) :
      Dialogue c MNG_REQUEST_READ
  | answer
      (hTruth : Truthful c.replied c c.carriedOut) :
      Dialogue c MNG_REQUEST_WRITE
  | ended
      (state : Nat)
      (hState : MNG_REQUEST_WRITE < state)
      (hTruth : Truthful c.wire c c.carriedOut) :
      Dialogue c state

/- What a call leaves, before the next state is entered. -/
inductive Departs (c : Conn) : Nat → Prop where
  | stays
      (state : Nat)
      (hState : c.current = some state)
      (hDialogue : Dialogue c state) :
      Departs c state
  | helloWrite
      (hDialogue : Dialogue c HELLO_WRITE) :
      Departs c HELLO_WRITE
  | userpassRead
      (hState : c.current ≠ some USERPASS_READ)
      (methods : List UInt8)
      (hMethods : methods.length ≤ 255)
      (hSaid : c.replied = [mngVersion, mngAuthMethod])
      (hEmpty : c.writeBuffer.pending = [])
      (hRead : bytesRead c.log =
        helloMessage mngVersion methods ++
          c.readBuffer.pending) :
      Departs c USERPASS_READ
  | userpassWrite
      (hDialogue : Dialogue c USERPASS_WRITE) :
      Departs c USERPASS_WRITE
  | index
      (hDialogue : Dialogue c MNG_REQUEST_READ_INDEX) :
      Departs c MNG_REQUEST_READ_INDEX
  | params
      (hState : c.current ≠ some MNG_REQUEST_READ)
      (blocks : List Block)
      (hBlocks : mngParamsBlocks c.mngRequest.index =
        some blocks)
      (greeting : List UInt8)
      (hGreeting : Greeting greeting)
      (n : Nat)
      (hSaid : c.replied = admission n)
      (hRead : bytesRead c.log = greeting ++
        [c.mngRequest.index] ++ c.readBuffer.pending) :
      Departs c MNG_REQUEST_READ
  /- the answer is stored, and not entered yet -/
  | answer
      (hState : c.current ≠ some MNG_REQUEST_WRITE)
      (asked : Option Adjustment)
      (hAsked : ∀ r, asked = some r → c.isSocks = false ∧
        c.mngRequest.status = .succeeded ∧
          c.mngRequest.asked = some r)
      (hTruth : Truthful c.replied c asked) :
      Departs c MNG_REQUEST_WRITE
  | ended
      (state : Nat)
      (hState : MNG_REQUEST_WRITE < state)
      (hTruth : Truthful c.wire c c.carriedOut) :
      Departs c state

section Telling

variable {k : ConnId}
variable {key : Key}
variable {a : Answers}
variable {s t u : St}
variable {c d : Conn}
variable {r : St × Nat}
variable {used greeting part answers : List UInt8}
variable {asked : Option Adjustment}
variable {next n : Nat}

/- What is used comes right after what was used before. -/
theorem Reads.exact
    {front : List UInt8}
    (h : Reads c d used)
    (hBefore : bytesRead c.log =
      front ++ c.readBuffer.pending) :
    bytesRead d.log =
      front ++ used ++ d.readBuffer.pending := by
  rcases h.log with ⟨events, hLog, _, hSplit⟩
  rw [hLog, bytesRead_append, hBefore, List.append_assoc,
    hSplit, List.append_assoc]

/- Less than five bytes tell of no success. -/
theorem Truthful.of_short
    (h : answers.length < 5) : Truthful answers c asked := by
  intro x m y hPrefix
  exact absurd hPrefix.length_le (Nat.not_le.mpr h)

/- The fifth byte is the first one of the answer. -/
theorem told_after_admission
    {x m y : UInt8}
    (h : [x, m, y, 0x00, 0x00] <+: admission n ++ part) :
    m = mngAuthMethod ∧ ∃ rest, part = 0x00 :: rest := by
  rcases h with ⟨rest, hRest⟩
  cases n with
  | zero =>
      change [x, m, y, 0x00, 0x00] ++ rest =
        mngVersion :: mngAuthMethod ::
          userpassMethodVersion :: 0x00 :: part at hRest
      injection hRest with _ hRest
      injection hRest with hMethod hRest
      injection hRest with _ hRest
      injection hRest with _ hRest
      exact ⟨hMethod, rest, hRest.symm⟩
  | succ n =>
      -- the login was answered twice
      change [x, m, y, 0x00, 0x00] ++ rest =
        mngVersion :: mngAuthMethod ::
          userpassMethodVersion :: 0x00 ::
            userpassMethodVersion :: 0x00 :: _ at hRest
      injection hRest with _ hRest
      injection hRest with _ hRest
      injection hRest with _ hRest
      injection hRest with _ hRest
      injection hRest with hBad _
      nomatch hBad

theorem Truthful.of_answer
    (hSaid : answers = admission n ++ part)
    (hHonoured : ∀ rest, part = 0x00 :: rest →
      Honoured c asked) : Truthful answers c asked := by
  intro x m y hPrefix
  rw [hSaid] at hPrefix
  rcases told_after_admission hPrefix with
    ⟨hMethod, rest, hZero⟩
  exact ⟨hMethod, hHonoured rest hZero⟩

/- Without an answer nothing is told. -/
theorem Truthful.of_admission
    (hSaid : answers = admission n) :
    Truthful answers c asked := by
  apply Truthful.of_answer
    (hSaid.trans (List.append_nil _).symm)
  intro rest hBad
  nomatch hBad

theorem Truthful.of_replies
    {status : UInt8}
    (hSaid : answers = [mngVersion, mngAuthMethod] ++
      authReplies status n) : Truthful answers c asked := by
  intro x m y hPrefix
  rw [hSaid] at hPrefix
  rcases hPrefix with ⟨rest, hRest⟩
  rcases n with _ | _ | n
  · nomatch hRest
  · nomatch hRest
  · change [x, m, y, 0x00, 0x00] ++ rest =
      mngVersion :: mngAuthMethod ::
        userpassMethodVersion :: status ::
          userpassMethodVersion :: status :: _ at hRest
    injection hRest with _ hRest
    injection hRest with _ hRest
    injection hRest with _ hRest
    injection hRest with _ hRest
    injection hRest with hBad _
    nomatch hBad

/- Only one status starts with a zero. -/
theorem succeeded_of_zero
    {status : MngReplyStatus}
    {rest : List UInt8}
    (h : 0x00 :: rest <+: [status.code]) :
    status = .succeeded := by
  rcases h with ⟨more, hMore⟩
  injection hMore with hCode _
  cases status with
  | succeeded => rfl
  | _ => nomatch hCode

/- A refusal is never a success. -/
theorem Truthful.of_refusal
    {status : MngReplyStatus}
    (hSaid : answers = admission n ++ part)
    (hPart : part <+: [status.code])
    (hStatus : status ≠ .succeeded) :
    Truthful answers c asked := by
  apply Truthful.of_answer hSaid
  intro rest hZero
  rw [hZero] at hPart
  exact absurd (succeeded_of_zero hPart) hStatus

/- What is told stays told. -/
theorem Truthful.mono
    {fewer : List UInt8}
    {more : Option Adjustment}
    (h : Truthful answers c asked)
    (hFewer : fewer <+: answers)
    (hRead : bytesRead c.log <+: bytesRead d.log)
    (hAsked : ∀ r, asked = some r → more = some r) :
    Truthful fewer d more := by
  intro x m y hPrefix
  rcases h x m y (hPrefix.trans hFewer) with ⟨hMethod,
    greeting, message, rest, hGreeting, hBytes, hMessage⟩
  rcases hRead with ⟨later, hLater⟩
  refine ⟨hMethod, greeting, message, rest ++ later,
    hGreeting, ?_, ?_⟩
  · rw [← hLater, hBytes, List.append_assoc]
  · rcases hMessage with hIndex | ⟨r, hIs, hWhole⟩
    · exact Or.inl hIndex
    · exact Or.inr ⟨r, hAsked r hIs, hWhole⟩

/- In every state that is served a success is the truth. -/
theorem Dialogue.truthful
    (h : Dialogue c next)
    (hLive : next ≤ MNG_REQUEST_WRITE) :
    Truthful c.replied c c.carriedOut := by
  cases h with
  | helloRead _ _ _ _ hSaid =>
      apply Truthful.of_short
      rw [hSaid]
      exact Nat.succ_pos _
  | helloFailed _ hSaid =>
      apply Truthful.of_short
      rw [hSaid]
      exact Nat.succ_pos _
  | helloWrite _ _ hSaid =>
      apply Truthful.of_short
      rw [hSaid]
      exact (by decide : 2 < 5)
  | userpassRead _ _ _ _ _ hSaid =>
      apply Truthful.of_short
      rw [hSaid]
      exact (by decide : 2 < 5)
  | userpassFailed _ hSaid =>
      apply Truthful.of_short
      rw [hSaid]
      exact (by decide : 2 < 5)
  | userpassWrite _ _ _ _ hSaid => exact .of_replies hSaid
  | index _ _ _ hSaid => exact .of_admission hSaid
  | params _ _ _ hSaid => exact .of_admission hSaid
  | answer hTruth => exact hTruth
  | ended _ hOver => exact absurd hOver (Nat.not_lt.mpr hLive)

/- What was sent tells the truth, whatever the state. -/
theorem Dialogue.sent_truthful
    (h : Dialogue c next) :
    Truthful c.wire c c.carriedOut := by
  by_cases hLive : next ≤ MNG_REQUEST_WRITE
  · exact (h.truthful hLive).mono (wire_replied c)
      List.prefix_rfl fun _ hIs => hIs
  · cases h with
    | ended _ _ hTruth => exact hTruth
    | _ => exact absurd (by decide) hLive

/- Nothing that was carried out is undone. -/
theorem carriedOut_grows
    {asked : Adjustment}
    (hCarried : c.carriedOut = some asked)
    (hRequest : d.mngRequest = c.mngRequest)
    (hService : d.isSocks = c.isSocks)
    (hLog : ∀ event ∈ c.log, event ∈ d.log) :
    d.carriedOut = some asked := by
  unfold Conn.carriedOut at hCarried ⊢
  split at hCarried
  · rename_i hAll
    rw [hRequest, hService, if_pos ⟨hAll.1, hAll.2.1,
      hLog _ hAll.2.2⟩]
    exact hCarried
  · nomatch hCarried

/- The dialogue does not look at the rest of a connection. -/
theorem Dialogue.same
    (h : Dialogue c next)
    (hSilent : Silent c d)
    (hRead : bytesRead d.log = bytesRead c.log)
    (hBuffer : d.readBuffer = c.readBuffer)
    (hHello : d.hello = c.hello)
    (hUserpass : d.userpass = c.userpass)
    (hRequest : d.mngRequest = c.mngRequest)
    (hAuth : d.authentication = c.authentication)
    (hCarried : ∀ r, c.carriedOut = some r →
      d.carriedOut = some r) : Dialogue d next := by
  have hSaid := hSilent.replied
  have hBytes : bytesRead c.log <+: bytesRead d.log := by
    rw [hRead]
  cases h with
  | helloRead fed hProgress hGoing hVersion hNone hOld =>
      rw [← hHello] at hProgress hGoing hVersion
      refine .helloRead fed hProgress hGoing hVersion
        (hSaid.trans hNone) ?_
      rw [hRead, hBuffer]
      exact hOld
  | helloFailed hFailed hNone =>
      rw [← hHello] at hFailed
      exact .helloFailed hFailed (hSaid.trans hNone)
  | helloWrite methods hMethods hReply hOld =>
      rw [← hHello] at hReply
      refine .helloWrite methods hMethods
        (hSaid.trans hReply) ?_
      rw [hRead, hBuffer]
      exact hOld
  | userpassRead methods fed hMethods hProgress hGoing hReply
      hEmpty hOld =>
      rw [← hUserpass] at hProgress hGoing
      rw [← hSilent.buffer] at hEmpty
      refine .userpassRead methods fed hMethods hProgress
        hGoing (hSaid.trans hReply) hEmpty ?_
      rw [hRead, hBuffer]
      exact hOld
  | userpassFailed hFailed hReply =>
      rw [← hUserpass] at hFailed
      exact .userpassFailed hFailed (hSaid.trans hReply)
  | userpassWrite greeting hGreeting n hFirst hReply hOld =>
      rw [← hAuth] at hReply
      rw [← hSilent.buffer] at hFirst
      refine .userpassWrite greeting hGreeting n hFirst
        (hSaid.trans hReply) ?_
      rw [hRead, hBuffer]
      exact hOld
  | index greeting hGreeting n hReply hOld =>
      refine .index greeting hGreeting n
        (hSaid.trans hReply) ?_
      rw [hRead, hBuffer]
      exact hOld
  | params greeting hGreeting n hReply hOld =>
      rw [← hRequest] at hOld
      refine .params greeting hGreeting n
        (hSaid.trans hReply) ?_
      rw [hRead, hBuffer]
      exact hOld
  | answer hTruth =>
      refine .answer (hTruth.mono ?_ hBytes hCarried)
      rw [hSaid]
  | ended _ hOver hTruth =>
      refine .ended _ hOver (hTruth.mono ?_ hBytes hCarried)
      rw [hSilent.sent]

/- The next state is entered, or it is stayed in. -/
theorem Departs.enter
    (h : Departs s.conn next)
    (hJump : MngJump key a s next u) :
    Dialogue u.conn next := by
  have hJumped := hJump.jumped
  have hSilent := hJump.silent
  have hSaid := hSilent.replied
  have hBytes : bytesRead s.conn.log <+:
      bytesRead u.conn.log := by
    rw [hJumped.read]
  cases h with
  | stays _ hState hDialogue =>
      rw [hJump.stays hState]
      exact hDialogue
  | helloWrite hDialogue =>
      cases hJump with
      | stay => exact hDialogue
      | plain =>
          exact hDialogue.same hSilent hJumped.read rfl rfl rfl
            rfl rfl fun _ hIs =>
              carriedOut_grows hIs rfl rfl hJumped.kept
      | request _ hNext =>
          rcases hNext with hBad | hBad <;> nomatch hBad
  | userpassWrite hDialogue =>
      cases hJump with
      | stay => exact hDialogue
      | plain =>
          exact hDialogue.same hSilent hJumped.read rfl rfl rfl
            rfl rfl fun _ hIs =>
              carriedOut_grows hIs rfl rfl hJumped.kept
      | request _ hNext =>
          rcases hNext with hBad | hBad <;> nomatch hBad
  | userpassRead hState methods hMethods hOld hEmpty hRead =>
      cases hJump with
      | stay _ hBad => exact absurd hBad hState
      | plain _ hNext =>
          rcases hNext with h | h | h | h | h <;> nomatch h
      | request _ hNext =>
          rcases hNext with hBad | hBad <;> nomatch hBad
      | userpassRead =>
          have hStart : Progress authBlocks [] authParser :=
            Progress.start authBlocks_wellFormed (by decide)
          unfold authReadInit at hSaid hJumped ⊢
          split
          · rename_i hAlloc
            rw [if_pos hAlloc] at hSaid hJumped
            refine .userpassRead methods [] hMethods hStart
              rfl (hSaid.trans hOld) hEmpty ?_
            rw [List.append_nil]
            exact hJumped.read.trans hRead
          · rename_i hAlloc
            rw [if_neg hAlloc] at hSaid
            exact .userpassFailed rfl (hSaid.trans hOld)
  | index hDialogue =>
      cases hDialogue with
      | index greeting hGreeting n hOld hRead =>
          refine .index greeting hGreeting n
            (hSaid.trans hOld) ?_
          rw [hJumped.read, hJumped.buffer]
          exact hRead
      | ended _ hOver => exact absurd hOver (by decide)
  | params hState blocks hBlocks greeting hGreeting n hOld
      hRead =>
      rcases hJump.params_start rfl hState hBlocks with
        ⟨hIndex, hStart⟩
      refine .params greeting hGreeting n (hSaid.trans hOld) ?_
      intro hStatus
      refine ⟨[], hStart hStatus, ?_⟩
      rw [hJumped.read, hJumped.buffer, hIndex]
      exact hRead
  | answer hState asked hAsked hTruth =>
      refine .answer (hTruth.mono ?_ hBytes ?_)
      · rw [hSaid]
      · intro r hIs
        rcases hAsked r hIs with ⟨hMng, hStatus, hRequest⟩
        have hSame := hJumped.request (by decide) (by decide)
        unfold Conn.carriedOut
        rw [hSame, hJumped.service, if_pos ⟨hMng, hStatus,
          hJumped.entered rfl hState⟩]
        exact hRequest
  | ended _ hOver hTruth =>
      refine .ended _ hOver (hTruth.mono ?_ hBytes ?_)
      · rw [hSilent.sent]
      · intro r hIs
        have hSame := hJumped.request
          (fun hBad => absurd (hBad ▸ hOver) (by decide))
          (fun hBad => absurd (hBad ▸ hOver) (by decide))
        exact carriedOut_grows hIs hSame hJumped.service
          hJumped.kept

end Telling

end Socks5d

------------------------------------------------------------
-- What Each Call Leaves
------------------------------------------------------------

namespace Socks5d

section Calling

variable {admins : UserTable}
variable {k : ConnId}
variable {key : Key}
variable {a : Answers}
variable {s t u : St}
variable {c d : Conn}
variable {attached : Attachment}
variable {r : St × Nat}
variable {next state n : Nat}

theorem Reads.grows
    {used : List UInt8}
    (h : Reads c d used) :
    bytesRead c.log <+: bytesRead d.log := by
  rcases h.log with ⟨events, hLog, _⟩
  rw [hLog, bytesRead_append]
  exact List.prefix_append _ _

/- A call after which the connection is over. -/
theorem Dialogue.ends
    (h : Dialogue c state)
    (hLive : state ≤ MNG_REQUEST_WRITE)
    (hNone : c.carriedOut = none)
    (hSent : d.wire <+: c.replied)
    (hRead : bytesRead c.log <+: bytesRead d.log)
    (hOver : MNG_REQUEST_WRITE < next) : Departs d next := by
  refine .ended next hOver
    ((h.truthful hLive).mono hSent hRead ?_)
  intro r hBad
  rw [hNone] at hBad
  nomatch hBad

/- An answer that tells the truth, or the end. -/
theorem Departs.of_answer
    (hTruth : ∀ asked, Truthful c.replied c asked)
    (hState : c.current ≠ some MNG_REQUEST_WRITE)
    (hNext : next = MNG_REQUEST_WRITE ∨ next = MNG_ERROR) :
    Departs c next := by
  rcases hNext with rfl | rfl
  · exact .answer hState none (fun _ hBad => nomatch hBad)
      (hTruth none)
  · refine .ended _ (by decide) ((hTruth c.carriedOut).mono
      (wire_replied c) List.prefix_rfl fun _ hIs => hIs)

/- A request that is refused. -/
theorem Departs.of_refusal
    {status : MngReplyStatus}
    (hStatus : status ≠ .succeeded)
    (hSaid : s.conn.replied = admission n)
    (hState : s.conn.current ≠ some MNG_REQUEST_WRITE) :
    Departs (mngRefuse key status s).1.conn
      (mngRefuse key status s).2 := by
  rcases mngRefuse_conn key status s with ⟨⟨wb, hConn⟩, hNext⟩
  rcases mngRefuse_replied key status s with
    ⟨part, hPart, hMore⟩
  rw [hSaid] at hMore
  refine .of_answer (fun _ => .of_refusal hMore hPart hStatus)
    ?_ hNext
  rw [hConn]
  exact hState

theorem mng_error_over
    (hMng : s.conn.isSocks = false) :
    MNG_REQUEST_WRITE < s.conn.errorState := by
  rw [Conn.errorState, hMng]
  decide

theorem mng_done_over
    (hMng : s.conn.isSocks = false) :
    MNG_REQUEST_WRITE < s.conn.doneState := by
  rw [Conn.doneState, hMng]
  decide

/- The hello is read further, by the bytes that are used. -/
theorem helloFed_further
    (key : Key)
    {fed bytes : List UInt8}
    (hProgress : HelloProgress fed s.conn.hello.parser)
    (hGoing : helloIsDone s.conn.hello.parser.state = false)
    (hBytes : s.recvBytes a = bytes) :
    ∃ used, Reads s.conn (helloFed key bytes s).conn used ∧
      HelloProgress (fed ++ used)
        (helloFed key bytes s).conn.hello.parser := by
  rcases helloConsume_progress hProgress hGoing
    (s.conn.readBuffer.writeAdv bytes) with
    ⟨used, hSplit, hNow⟩
  rw [Buffer.writeAdv_pending, St.take_recvBytes hBytes]
    at hSplit
  exact ⟨used, .recv rfl hSplit, hNow⟩

theorem helloFed_version
    (key : Key)
    (bytes : List UInt8)
    (s : St) :
    (helloFed key bytes s).conn.hello.parser.version =
      s.conn.hello.parser.version :=
  (helloConsume_fixed (s.conn.readBuffer.writeAdv bytes)
    s.conn.hello.parser).1

/- The login is read further. -/
theorem authFed_further
    (key : Key)
    {fed bytes : List UInt8}
    (hProgress : Progress authBlocks fed s.conn.userpass.parser)
    (hGoing : isDone s.conn.userpass.parser.current = false)
    (hBytes : s.recvBytes a = bytes) :
    ∃ used, Reads s.conn (authFed key bytes s).1.conn used ∧
      Progress authBlocks (fed ++ used)
        (authFed key bytes s).1.conn.userpass.parser := by
  rcases authFed_progress key (a := a) hProgress hGoing with
    ⟨used, hSplit, hNow, _⟩
  rw [hBytes] at hSplit hNow
  exact ⟨used, .recv rfl hSplit, hNow⟩

theorem HelloRead.departs
    (h : HelloRead key a s attached r)
    (hMng : s.conn.isSocks = false)
    (hState : s.conn.current = some HELLO_READ)
    (hDialogue : Dialogue s.conn HELLO_READ)
    (hNone : s.conn.carriedOut = none) :
    Departs r.1.conn r.2 := by
  have hError := mng_error_over hMng
  have hFed : ∀ bytes, Silent s.conn
      (helloFed key bytes s).conn := fun _ =>
    .single rfl rfl rfl
  cases h with
  | failed hFailed =>
      exact hDialogue.ends (by decide) hNone (wire_replied _)
        List.prefix_rfl hError
  | ended hBytes =>
      exact hDialogue.ends (by decide) hNone
        (eof_silent s _ _).only (eof_reads s _ _).grows hError
  | refused bytes hBytes wb =>
      rcases helloFed_reads key hBytes with ⟨used, hReads⟩
      refine hDialogue.ends (by decide) hNone ?_ ?_ hError
      · exact (hFed bytes).only
      · exact hReads.grows
  | more bytes hBytes hSome hGoing hFine =>
      cases hDialogue with
      | helloFailed hFailed =>
          nomatch hFine.symm.trans hFailed
      | ended _ hOver => exact absurd hOver (by decide)
      | helloRead fed hProgress hBefore hVersion hSaid hOld =>
          rcases helloFed_further key hProgress hBefore
            hBytes with ⟨used, hReads, hNow⟩
          exact .stays _ hState (.helloRead _ hNow hGoing
            ((helloFed_version key bytes s).trans hVersion)
            ((hFed bytes).replied.trans hSaid)
            (hReads.exact hOld))
  | answered bytes hBytes hSome hDone hRoom hFine =>
      cases hDialogue with
      | helloFailed hFailed =>
          nomatch hFine.symm.trans hFailed
      | ended _ hOver => exact absurd hOver (by decide)
      | helloRead fed hProgress hBefore hVersion hSaid hOld =>
          rcases helloFed_further key hProgress hBefore
            hBytes with ⟨used, hReads, hNow⟩
          rcases HelloProgress.whole hNow hDone with
            ⟨methods, hMethods, hMessage, _⟩
          have hBytesRead := hReads.exact hOld
          rw [hMessage, helloFed_version, hVersion] at hBytesRead
          refine .helloWrite (.helloWrite methods hMethods ?_
            hBytesRead)
          have hReply : (helloFed key bytes
              s).conn.helloReply = [mngVersion,
                (helloFed key bytes s).conn.hello.method] := by
            unfold Conn.helloReply Conn.helloVersion
            rw [if_neg]
            rw [Bool.not_eq_true]
            exact hMng
          have hStored := said_stored (c := (helloFed key bytes
            s).conn) (d := { (helloFed key bytes s).conn with
              writeBuffer := s.conn.writeBuffer.writeAdv
                (helloFed key bytes s).conn.helloReply })
            rfl (by
              rw [Buffer.writeAdv_pending,
                List.take_of_length_le hRoom]
              rfl)
          rw [(hFed bytes).replied, hSaid] at hStored
          exact hStored.trans hReply

theorem HelloWrite.departs
    (h : HelloWrite key a s attached r)
    (hMng : s.conn.isSocks = false)
    (hState : s.conn.current = some HELLO_WRITE)
    (hMethod : s.conn.hello.method =
        methodNoAcceptableMethods ∨
      s.conn.hello.method = mngAuthMethod)
    (hDialogue : Dialogue s.conn HELLO_WRITE)
    (hNone : s.conn.carriedOut = none) :
    Departs r.1.conn r.2 := by
  cases h with
  | failed hSend =>
      exact hDialogue.ends (by decide) hNone
        (sendError_silent s _).only
        (sendError_reads s _).grows (mng_error_over hMng)
  | refused n =>
      exact hDialogue.ends (by decide) hNone
        (sendPending_sent key n s)
        (sendPending_reads key n s).grows
        (mng_done_over hMng)
  | more n hSend hLeft =>
      cases hDialogue with
      | ended _ hOver => exact absurd hOver (by decide)
      | helloWrite methods hMethods hSaid hOld =>
          have hRead := (sendPending_reads key n s).exact hOld
          rw [List.append_nil] at hRead
          exact .stays _ hState (.helloWrite methods hMethods
            ((sendPending_replied key n s).trans hSaid) hRead)
  | userpass n hSend hSent hIs =>
      cases hDialogue with
      | ended _ hOver => exact absurd hOver (by decide)
      | helloWrite methods hMethods hSaid hOld =>
          have hRead := (sendPending_reads key n s).exact hOld
          rw [List.append_nil] at hRead
          rw [hIs] at hSaid
          refine .userpassRead ?_ methods hMethods
            ((sendPending_replied key n s).trans hSaid) hSent
            hRead
          intro hBad
          nomatch hState.symm.trans hBad
  | request n hSend hSent hIs =>
      rw [hIs] at hMethod
      rcases hMethod with hBad | hBad <;> nomatch hBad

theorem AuthRead.departs
    (h : AuthRead key a s attached r)
    (hMng : s.conn.isSocks = false)
    (hState : s.conn.current = some USERPASS_READ)
    (hDialogue : Dialogue s.conn USERPASS_READ)
    (hNone : s.conn.carriedOut = none) :
    Departs r.1.conn r.2 := by
  have hError := mng_error_over hMng
  have hFed : ∀ bytes, Silent s.conn
      (authFed key bytes s).1.conn := fun _ =>
    .single rfl rfl rfl
  cases h with
  | failed hFailed =>
      exact hDialogue.ends (by decide) hNone (wire_replied _)
        List.prefix_rfl hError
  | ended hBytes =>
      exact hDialogue.ends (by decide) hNone
        (eof_silent s _ _).only (eof_reads s _ _).grows hError
  | rejected bytes hBytes processed hProcess =>
      rcases authFed_reads key hBytes with ⟨used, hReads⟩
      have hArmed : Reads s.conn ((authFed key bytes s).1.arm
          key.fd opWrite attached).conn used :=
        hReads.of_eq rfl rfl
      exact hDialogue.ends (by decide) hNone
        ((hFed bytes).trans hProcess.silent).only
        (hArmed.trans hProcess.reads).grows hError
  | more bytes hBytes hSome hGoing hFine =>
      cases hDialogue with
      | userpassFailed hFailed =>
          nomatch hFine.symm.trans hFailed
      | ended _ hOver => exact absurd hOver (by decide)
      | userpassRead methods fed hMethods hProgress hBefore
          hSaid hEmpty hOld =>
          rcases authFed_further key hProgress hBefore
            hBytes with ⟨used, hReads, hNow⟩
          have hRead := hReads.exact hOld
          rw [List.append_assoc (helloMessage _ _)] at hRead
          exact .stays _ hState (.userpassRead methods _
            hMethods hNow hGoing
            ((hFed bytes).replied.trans hSaid) hEmpty hRead)
  | answered bytes hBytes hSome hDone _ hProcess hFine =>
      cases hDialogue with
      | userpassFailed hFailed =>
          nomatch hFine.symm.trans hFailed
      | ended _ hOver => exact absurd hOver (by decide)
      | userpassRead methods fed hMethods hProgress hBefore
          hSaid hEmpty hOld =>
          rcases authFed_further key hProgress hBefore
            hBytes with ⟨used, hReads, hNow⟩
          rcases hNow.auth_whole hDone with
            ⟨name, pass, hMessage, hName, hPass, _⟩
          have hSilent := (hFed bytes).trans hProcess.silent
          have hRead := ((hReads.of_eq rfl rfl).trans
            hProcess.reads).exact hOld
          rw [List.append_nil,
            List.append_assoc (helloMessage _ _),
            hMessage] at hRead
          have hNext : r.2 = USERPASS_WRITE := by
            cases hProcess <;> rfl
          rw [hNext]
          refine .userpassWrite (.userpassWrite _
            (.login methods name pass hMethods ⟨hName, hPass⟩)
            0 (fun _ => ?_) ?_ hRead)
          · rw [hSilent.buffer]
            exact hEmpty
          · exact hSilent.replied.trans
              (hSaid.trans (List.append_nil _).symm)

theorem AuthWrite.departs
    (h : AuthWrite key a s attached r)
    (hMng : s.conn.isSocks = false)
    (hState : s.conn.current = some USERPASS_WRITE)
    (hDialogue : Dialogue s.conn USERPASS_WRITE) :
    Departs r.1.conn r.2 := by
  cases hDialogue with
  | ended _ hOver => exact absurd hOver (by decide)
  | userpassWrite greeting hGreeting n hFirst hOld hBytes =>
      rcases authReply_repeats s n _ hOld hFirst with ⟨m, hSaid⟩
      rcases authReply_eq s with ⟨wb, hReply⟩
      have hReads : ∀ n, Reads s.conn
          (sendPending key n (authReply s)).conn [] := by
        intro n
        rw [hReply]
        refine .quiet [_] rfl ?_ rfl
        intro event hEvent
        rw [List.mem_singleton.mp hEvent]
        exact ⟨rfl, fun _ hBad => nomatch hBad⟩
      have hError : MNG_REQUEST_WRITE <
          (authReply s).conn.errorState := by
        rw [hReply]
        exact mng_error_over hMng
      have hDone : MNG_REQUEST_WRITE <
          (authReply s).conn.doneState := by
        rw [hReply]
        exact mng_done_over hMng
      -- what is sent is some of the replies
      have hTruth : ∀ d : Conn, d.wire <+:
          (authReply s).conn.replied →
            Truthful d.wire d d.carriedOut := by
        intro d hSent
        have hReplies : Truthful (authReply s).conn.replied d
            d.carriedOut := .of_replies hSaid
        exact hReplies.mono hSent List.prefix_rfl
          fun _ hIs => hIs
      have hCurrent : ∀ n, (sendPending key n
          (authReply s)).conn.current =
            some USERPASS_WRITE := by
        intro n
        rw [hReply]
        exact hState
      have hAuth : ∀ n, (sendPending key n
          (authReply s)).conn.authentication =
            s.conn.authentication := by
        intro n
        rw [hReply]
        rfl
      have hRead : ∀ n, bytesRead (sendPending key n
          (authReply s)).conn.log = greeting ++ (sendPending
            key n (authReply s)).conn.readBuffer.pending := by
        intro n
        have hExact := (hReads n).exact hBytes
        rw [List.append_nil] at hExact
        exact hExact
      cases h with
      | failed hSend =>
          exact .ended _ hError
            (hTruth _ (sendError_silent (authReply s) _).only)
      | refused n hSend hAll hDenied =>
          exact .ended _ hDone
            (hTruth _ (sendPending_sent key n (authReply s)))
      | more n hSend hLeft =>
          refine .stays _ (hCurrent n) (.userpassWrite greeting
            hGreeting (m + 1) (fun hBad => nomatch hBad) ?_
            (hRead n))
          rw [hAuth n, sendPending_replied]
          exact hSaid
      | passed n hSend hAll hPassed =>
          refine .index (.index greeting hGreeting m ?_
            (hRead n))
          rw [hPassed] at hSaid
          exact (sendPending_replied key n (authReply s)).trans
            hSaid

/- The call that reads the index. -/
theorem IndexCall.departs
    (h : IndexCall key s r)
    (hState : s.conn.current = some MNG_REQUEST_READ_INDEX)
    (hDialogue : Dialogue s.conn MNG_REQUEST_READ_INDEX) :
    Departs r.1.conn r.2 := by
  have hFed : ∀ bytes, Silent s.conn
      (mngFed key bytes s).conn := fun _ =>
    .single rfl rfl rfl
  have hOther : ∀ c : Conn, c.current = s.conn.current →
      c.current ≠ some MNG_REQUEST_WRITE := by
    intro c hSame hBad
    rw [hSame, hState] at hBad
    nomatch hBad
  cases hDialogue with
  | ended _ hOver => exact absurd hOver (by decide)
  | index greeting hGreeting n hSaid hBytes =>
      cases h with
      | refused status hStatus =>
          exact .of_refusal hStatus hSaid (hOther _ rfl)
      | ended =>
          exact .of_answer (fun _ => .of_admission
            ((eof_silent s _ _).replied.trans hSaid))
            (hOther _ rfl) (Or.inr rfl)
      | rejected bytes used hUsed =>
          exact .of_refusal (s := mngFed key bytes s)
            (fun hBad => nomatch hBad)
            ((hFed bytes).replied.trans hSaid) (hOther _ rfl)
      | taken bytes index hUsed _ hConn hNext =>
          rcases processMngIndex_conn
            { mngFed key bytes s with
              conn.mngRequest.index := index } index with
            ⟨wb, hIs⟩
          have hReads : Reads s.conn r.1.conn [index] := by
            rw [hConn, hIs]
            exact .recv rfl hUsed
          have hCurrent : r.1.conn.current =
              s.conn.current := by
            rw [hConn, hIs]
            rfl
          have hRead := hReads.exact hBytes
          have hBefore : Conn.replied { (mngFed key bytes
              s).conn with mngRequest.index := index } =
                admission n :=
            (hFed bytes).replied.trans hSaid
          rcases processMngIndex_next
            { mngFed key bytes s with
              conn.mngRequest.index := index } index with
            ⟨hParams, hKind⟩ | ⟨blocks, hParams, hEq⟩
          · rcases processMngIndex_replied
              { mngFed key bytes s with
                conn.mngRequest.index := index } index with
              ⟨part, hPart⟩
            have hAll : r.1.conn.replied =
                admission n ++ part := by
              rw [hConn, hPart]
              exact congrArg (· ++ part) hBefore
            refine .of_answer (fun _ => .of_answer hAll
              fun _ _ => ⟨greeting, [index], _, hGreeting,
                hRead, Or.inl ⟨index, hParams, rfl⟩⟩)
              (hOther _ hCurrent) ?_
            rcases hNext with hSame | hError
            · rw [hSame]
              exact hKind
            · exact Or.inr hError
          · rw [hEq] at hConn hNext
            have hNow : r.1.conn.replied = admission n := by
              rw [hConn]
              exact hBefore
            rcases hNext with hReading | hError
            · rw [hReading]
              refine .params ?_ blocks ?_ greeting hGreeting n
                hNow ?_
              · rw [hCurrent, hState]
                exact fun hBad => nomatch hBad
              · rw [hConn]
                exact hParams
              · rw [hRead, hConn]
            · exact .of_answer (fun _ => .of_admission hNow)
                (hOther _ hCurrent) (Or.inr hError)

/- The call that reads the parameters. -/
theorem ParamsRead.departs
    (h : ParamsRead key a s attached r)
    (hMng : s.conn.isSocks = false)
    (hState : s.conn.current = some MNG_REQUEST_READ)
    (hDialogue : Dialogue s.conn MNG_REQUEST_READ) :
    Departs r.1.conn r.2 := by
  have hFed : Silent s.conn
      (mngFed key (s.recvBytes a) s).conn :=
    .single rfl rfl rfl
  have hOther : s.conn.current ≠ some MNG_REQUEST_WRITE := by
    intro hBad
    nomatch hState.symm.trans hBad
  cases hDialogue with
  | ended _ hOver => exact absurd hOver (by decide)
  | params greeting hGreeting n hSaid hBytes =>
      cases h with
      | refused hStatus =>
          exact .of_refusal hStatus hSaid hOther
      | ended hStatus hNone =>
          exact .of_answer (fun _ => .of_admission
            ((eof_silent s _ _).replied.trans hSaid)) hOther
            (Or.inr rfl)
      | failed hStatus hError =>
          exact .of_answer (fun _ => .of_admission
            (hFed.replied.trans hSaid)) hOther (Or.inr rfl)
      | more hStatus hSome hGoing =>
          rcases hBytes hStatus with ⟨fed, hParams, hOld⟩
          rcases hParams.fed key a with
            ⟨blocks, used, hBlocks, hSplit, hProgress⟩
          have hReads : Reads s.conn
              (mngFed key (s.recvBytes a) s).conn used :=
            .recv rfl hSplit
          refine .stays _ hState (.params greeting hGreeting n
            (hFed.replied.trans hSaid) fun _ =>
              ⟨fed ++ used, ⟨⟨blocks, hBlocks, hProgress⟩,
                hGoing⟩, ?_⟩)
          have hRead := hReads.exact hOld
          rw [List.append_assoc greeting] at hRead
          exact hRead
      | applied hStatus hSome hDone =>
          rcases hBytes hStatus with ⟨fed, hParams, hOld⟩
          rcases hParams.fed key a with
            ⟨blocks, used, hBlocks, hSplit, hProgress⟩
          let before : St := (mngFed key (s.recvBytes a)
            s).arm key.fd opWrite attached
          have hReads : Reads s.conn before.conn used :=
            .recv rfl hSplit
          have hRead := hReads.exact hOld
          rcases asked_of_message
            (m := before.conn.mngRequest) hBlocks hProgress
            hDone with
            ⟨asked, hAsked, hMessage, hWhole, error, hParser⟩
          rcases processMngParamsRequest_answers before with
            ⟨wb, hConn⟩
          rcases processMngParamsRequest_replied (s := before)
            hAsked.symm hParser with ⟨part, _, hPart⟩
          have hBefore : before.conn.replied = admission n :=
            hFed.replied.trans hSaid
          rw [hBefore] at hPart
          refine .answer ?_ (some asked) ?_
            (.of_answer hPart fun _ _ => ?_)
          · show (processMngParamsRequest
              before).conn.current ≠ _
            rw [hConn]
            exact hOther
          · intro other hOther
            show (processMngParamsRequest
                before).conn.isSocks = false ∧
              (processMngParamsRequest
                before).conn.mngRequest.status = .succeeded ∧
              (processMngParamsRequest
                before).conn.mngRequest.asked = some other
            rw [hConn, ← hOther]
            exact ⟨hMng, hStatus,
              asked_of_parserAt hAsked.symm hParser⟩
          · refine ⟨greeting, asked.bytes,
              before.conn.readBuffer.pending, hGreeting, ?_,
              Or.inr ⟨asked, rfl, hWhole, rfl⟩⟩
            show bytesRead (processMngParamsRequest
              before).conn.log = _
            rw [hConn]
            show bytesRead before.conn.log = _
            rw [hRead, List.append_assoc greeting]
            unfold Adjustment.bytes
            rw [hAsked, ← hMessage]
            rfl

/- The call that sends the answer. -/
theorem mngRequestWrite_departs
    (hState : s.conn.current = some MNG_REQUEST_WRITE)
    (hDialogue : Dialogue s.conn MNG_REQUEST_WRITE) :
    Departs (mngRequestWrite key a s).1.conn
      (mngRequestWrite key a s).2 := by
  cases hDialogue with
  | ended _ hOver => exact absurd hOver (by decide)
  | answer hTruth =>
      have hSame : ∀ (d : Conn) event,
          d.mngRequest = s.conn.mngRequest →
          d.isSocks = s.conn.isSocks →
          d.log = s.conn.log ++ [event] →
          ∀ r, s.conn.carriedOut = some r →
            d.carriedOut = some r := by
        intro d event hRequest hService hLog r hIs
        apply carriedOut_grows hIs hRequest hService
        intro other hIn
        rw [hLog]
        exact List.mem_append_left _ hIn
      unfold mngRequestWrite
      split
      · exact .ended _ (show MNG_REQUEST_WRITE < MNG_ERROR by
          decide) (hTruth.mono (sendError_silent s _).only
            (sendError_reads s _).grows (hSame _ _ rfl rfl rfl))
      · rename_i n _
        have hReads := (sendPending_reads key n s).grows
        dsimp only
        split
        · refine .stays _ hState (.answer (hTruth.mono ?_
            hReads (hSame _ _ rfl rfl rfl)))
          rw [sendPending_replied]
        · exact .ended _ (show MNG_REQUEST_WRITE < MNG_DONE by
            decide) (hTruth.mono (sendPending_sent key n s)
              hReads (hSame _ _ rfl rfl rfl))

/- Every call keeps to the dialogue. -/
theorem MngTurn.departs
    (h : MngTurn k key a s r)
    (hMng : s.conn.isSocks = false)
    (hKept : MngKept admins k s.conn)
    (hDialogue : ∀ state, s.conn.current = some state →
      Dialogue s.conn state) : Departs r.1.conn r.2 := by
  have hEarly : ∀ state, s.conn.current = some state →
      state < MNG_REQUEST_WRITE → s.conn.carriedOut = none :=
    fun state hState hLt => carriedOut_of_not_entered
      ((hKept.2.2 hMng).early hState hLt)
  cases h with
  | helloRead hState _ _ _ _ hCall =>
      exact hCall.departs hMng hState (hDialogue _ hState)
        (hEarly _ hState (by decide))
  | helloWrite hState _ hHello hMethod _ hCall =>
      refine hCall.departs hMng hState ?_
        (hDialogue _ hState) (hEarly _ hState (by decide))
      rcases hHello.2 with hNone | hOffered
      · exact Or.inl hNone
      · exact Or.inr (hOffered.trans hMethod)
  | authRead hState _ _ hCall =>
      exact hCall.departs hMng hState (hDialogue _ hState)
        (hEarly _ hState (by decide))
  | authWrite hState _ _ hCall =>
      exact hCall.departs hMng hState (hDialogue _ hState)
  | request state hState _ hShape _ _ hHandled hFd =>
      cases hHandled with
      | index =>
          exact (mngRequestIndexRead_outcome
            (hKept.1 hMng hState)).departs hState
              (hDialogue _ hState)
      | params =>
          rcases hShape.client_has with ⟨interest, hClient⟩
          rw [← hFd] at hClient
          exact (mngRequestRead_outcome hClient a).departs hMng
            hState (hDialogue _ hState)
      | answer =>
          exact mngRequestWrite_departs hState
            (hDialogue _ hState)

end Calling

end Socks5d

------------------------------------------------------------
-- Over Every Run
------------------------------------------------------------

namespace Socks5d

/-
  A management connection keeps to the dialogue, and nothing
  is said before it starts.
-/
structure Spoken (c : Conn) : Prop where
  start : c.current = none →
    bytesRead c.log = [] ∧ c.replied = [] ∧
      c.readBuffer.pending = []
  dialogue : ∀ state, c.current = some state →
    Dialogue c state

section Runs

variable {w : World}
variable {k : ConnId}
variable {key : Key}
variable {a : Answers}
variable {s : St}
variable {c d : Conn}

/- The first state is entered with nothing read or said. -/
theorem Spoken.first
    (h : Spoken s.conn)
    (hMng : s.conn.isSocks = false)
    (hState : s.conn.current = none) :
    Spoken (helloReadInit key a
      (entered HELLO_READ s)).conn := by
  rcases h.start hState with ⟨hRead, hSaid, hEmpty⟩
  have hNone : ∀ event : Ev, event.read = [] →
      bytesRead (s.conn.log ++ [.enter HELLO_READ] ++
        [event]) = [] := by
    intro event hEvent
    rw [bytesRead_append, bytesRead_append, hRead]
    show [] ++ [] ++ (event.read ++ []) = []
    rw [hEvent]
    rfl
  have hQuiet : ∀ (d : Conn) event,
      d.log = (entered HELLO_READ s).conn.log ++ [event] →
      event.sent = [] →
      d.writeBuffer = s.conn.writeBuffer → d.replied = [] := by
    intro d event hLog hEvent hBuffer
    have hSilent := (entered_silent HELLO_READ s).trans
      (.single hLog hEvent hBuffer)
    rw [hSilent.replied, hSaid]
  unfold helloReadInit
  split
  · constructor
    · intro hBad
      nomatch hBad
    · intro state hIs
      rw [← Option.some.inj hIs]
      refine .helloRead [] (.version _ _) rfl ?_
        (hQuiet _ _ rfl rfl rfl) ?_
      · exact if_neg (by
          rw [Bool.not_eq_true]
          exact hMng)
      · exact (hNone _ rfl).trans hEmpty.symm
  · constructor
    · intro hBad
      nomatch hBad
    · intro state hIs
      rw [← Option.some.inj hIs]
      exact .helloFailed rfl (hQuiet _ _ rfl rfl rfl)

/- What is kept, with what is said. -/
def MngSpoken
    (admins : UserTable)
    (k : ConnId)
    (c : Conn) : Prop :=
  MngKept admins k c ∧ (c.isSocks = false → Spoken c)

/- Every event of a connection keeps to the dialogue. -/
theorem dialogue_preserved : Preserved MngSpoken := by
  have hKept := mngKept_preserved
  constructor
  · intro admins k isSocks client
    refine ⟨hKept.born admins k isSocks client, fun _ => ?_⟩
    exact ⟨fun _ => ⟨rfl, rfl, rfl⟩,
      fun _ hBad => nomatch hBad⟩
  · intro admins k c addresses hState hBefore
    refine ⟨hKept.resolution admins k c addresses hState
      hBefore.1, fun hMng => ?_⟩
    have hSpoken := hBefore.2 hMng
    exact ⟨hSpoken.start, fun state hIs =>
      (hSpoken.dialogue state hIs).same ⟨rfl, rfl⟩ rfl rfl
        rfl rfl rfl rfl fun _ hCarried => hCarried⟩
  · intro k s request hState hBefore
    refine ⟨hKept.notified k s request hState hBefore.1,
      fun hMng => ?_⟩
    have hSpoken := hBefore.2 hMng
    constructor
    · intro hBad
      nomatch hState.symm.trans hBad
    · intro state hIs
      refine (hSpoken.dialogue state hIs).same
        (.single rfl rfl rfl) ?_ rfl rfl rfl rfl rfl ?_
      · exact (bytesRead_append s.conn.log [_]).trans
          (List.append_nil _)
      · intro r hCarried
        exact carriedOut_grows hCarried rfl rfl
          fun _ hIn => List.mem_append_left _ hIn
  · intro k key a s hState hBefore
    refine ⟨hKept.first k key a s hState hBefore.1,
      fun hMng => ?_⟩
    have hStill : s.conn.isSocks = false := by
      unfold helloReadInit at hMng
      split at hMng
      · exact hMng
      · exact hMng
    exact (hBefore.2 hStill).first hStill hState
  · intro k key a s r u hSocks hSound hOwns hTurn hJump hBefore
    refine ⟨hKept.socks k key a s r u hSocks hSound hOwns
      hTurn hJump hBefore.1, fun hMng => ?_⟩
    have hService := hJump.service.trans
      (hTurn.service hSound hOwns)
    rw [hMng, hSocks] at hService
    nomatch hService
  · intro k key a s r u hMng hTurn hJump hBefore
    refine ⟨hKept.mng k key a s r u hMng hTurn hJump hBefore.1,
      fun _ => ?_⟩
    have hDialogue := (hTurn.departs hMng hBefore.1
      (hBefore.2 hMng).dialogue).enter hJump
    have hCurrent := hJump.jumped.current
    constructor
    · intro hBad
      nomatch hCurrent.symm.trans hBad
    · intro state hIs
      rw [← Option.some.inj (hCurrent.symm.trans hIs)]
      exact hDialogue

/- In every run what was sent to a client is the truth. -/
theorem reachable_truthful
    (h : server.Reachable w)
    (hOld : k < w.next)
    (hMng : (w.conn k).isSocks = false) :
    Truthful (w.conn k).wire (w.conn k)
      (w.conn k).carriedOut := by
  have hSpoken := (conn_invariant dialogue_preserved h
    hOld).2 hMng
  cases hState : (w.conn k).current with
  | none =>
      apply Truthful.of_short
      have hNone := (wire_replied (w.conn k))
      rw [(hSpoken.start hState).2.1] at hNone
      rw [List.prefix_nil.mp hNone]
      exact Nat.succ_pos _
  | some state =>
      exact (hSpoken.dialogue state hState).sent_truthful

end Runs

end Socks5d
