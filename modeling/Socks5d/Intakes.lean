import Socks5d.Blindness

/-
  The reading states of the handshake under one hood: the
  parser that a state feeds, where it stops in the bytes, and
  what the state does with a message that is complete.

  Main declarations:
    * `Intake`, `Intake.Lawful`, `Intake.Known`
    * `helloIntake`, `loginIntake`, `requestIntake`
    * `Intake.Call`, `Intake.called`
    * `Intake.Taken`, `Intake.taken`
-/

------------------------------------------------------------
-- Reading States
------------------------------------------------------------

namespace Socks5d

/-
  A reading state of the handshake: the parser that it feeds
  and what it does when the parser has stopped.
-/
structure Intake where
  state : Nat
  P : Type
  reader : Incremental.Reader P UInt8
  parser? : St → Option P
  store : P → St → St
  read : Handler
  answer : Key → Answers → St → St × Nat

/- What every such state keeps to. -/
structure Intake.Lawful (S : Intake) : Prop where
  early : S.state < REQUEST_RESOLV
  ready : (clientStatbl S.state).onReadReady = some S.read
  parser_store : ∀ p s, S.parser? (S.store p s) = some p
  store_store : ∀ p q s,
    S.store p (S.store q s) = S.store p s
  store_swap : ∀ p s rb log,
    S.store p (St.swap s rb log) =
      (S.store p s).swap rb log
  parser_swap : ∀ s rb log,
    S.parser? (St.swap s rb log) = S.parser? s
  store_self : ∀ p s, S.parser? s = some p → S.store p s = s
  current : ∀ p s, (S.store p s).conn.current = s.conn.current
  srv : ∀ p s, (S.store p s).srv = s.srv
  clientFd : ∀ p s,
    (S.store p s).conn.clientFd = s.conn.clientFd
  readBuffer : ∀ p s,
    (S.store p s).conn.readBuffer = s.conn.readBuffer
  log : ∀ p s, (S.store p s).conn.log = s.conn.log
  answers : ∀ key a, BlindCall fun s => S.answer key a s
  answer_recv : ∀ key (a : Answers) chunk s,
    S.answer key { a with recv := chunk } s =
      S.answer key a s

def helloIntake : Intake where
  state := HELLO_READ
  P := HelloParser
  reader := HelloParser.reader
  parser? := fun s => some s.conn.hello.parser
  store := fun p s => { s with conn.hello.parser := p }
  read := helloRead
  answer := fun key _ s => helloAnswer key s

def loginIntake : Intake where
  state := USERPASS_READ
  P := Parser
  reader := Parser.reader
  parser? := fun s => some s.conn.userpass.parser
  store := fun p s => { s with conn.userpass.parser := p }
  read := authRead
  answer := fun key _ s => authAnswer key s

/- The end of `request_read`, when the parser is done. -/
def requestAnswer
    (key : Key)
    (a : Answers)
    (s : St) : St × Nat :=
  match s.conn.request.parser with
  | none => (s, REQUEST_READ)
  | some p => requestProcess key a p.request s

def requestIntake : Intake where
  state := REQUEST_READ
  P := RequestParser
  reader := RequestParser.reader
  parser? := fun s => s.conn.request.parser
  store := fun p s => { s with conn.request.parser := some p }
  read := requestRead
  answer := requestAnswer

section Intakes

theorem helloIntake_lawful : helloIntake.Lawful where
  early := by decide
  ready := rfl
  parser_store := fun _ _ => rfl
  store_store := fun _ _ _ => rfl
  store_swap := fun _ _ _ _ => rfl
  parser_swap := fun _ _ _ => rfl
  store_self := by
    intro p s hSome
    rw [← Option.some.inj hSome]
    rfl
  current := fun _ _ => rfl
  srv := fun _ _ => rfl
  clientFd := fun _ _ => rfl
  readBuffer := fun _ _ => rfl
  log := fun _ _ => rfl
  answers := fun _ _ => blind_helloAnswer
  answer_recv := fun _ _ _ _ => rfl

theorem loginIntake_lawful : loginIntake.Lawful where
  early := by decide
  ready := rfl
  parser_store := fun _ _ => rfl
  store_store := fun _ _ _ => rfl
  store_swap := fun _ _ _ _ => rfl
  parser_swap := fun _ _ _ => rfl
  store_self := by
    intro p s hSome
    rw [← Option.some.inj hSome]
    rfl
  current := fun _ _ => rfl
  srv := fun _ _ => rfl
  clientFd := fun _ _ => rfl
  readBuffer := fun _ _ => rfl
  log := fun _ _ => rfl
  answers := fun _ _ => blind_authAnswer
  answer_recv := fun _ _ _ _ => rfl

theorem blind_requestAnswer
    (key : Key)
    (a : Answers) :
    BlindCall fun s => requestAnswer key a s := by
  refine .choose fun s => ?_
  cases hParser : s.conn.request.parser with
  | none =>
      refine ⟨_, blind_return (fun _ => REQUEST_READ)
        fun _ _ _ => rfl, fun rb log => ?_⟩
      have hParser' : (s.swap rb log).conn.request.parser =
        none := hParser
      unfold requestAnswer
      simp only [hParser']
  | some p =>
      refine ⟨fun s => requestProcess key a p.request s,
        blind_requestProcess p.request, fun rb log => ?_⟩
      have hParser' : (s.swap rb log).conn.request.parser =
        some p := hParser
      unfold requestAnswer
      simp only [hParser']

theorem requestIntake_lawful : requestIntake.Lawful where
  early := by decide
  ready := rfl
  parser_store := fun _ _ => rfl
  store_store := fun _ _ _ => rfl
  store_swap := fun _ _ _ _ => rfl
  parser_swap := fun _ _ _ => rfl
  store_self := by
    intro p s hSome
    exact congrArg (fun q : Option RequestParser =>
      ({ s with conn.request.parser := q } : St)) hSome.symm
  current := fun _ _ => rfl
  srv := fun _ _ => rfl
  clientFd := fun _ _ => rfl
  readBuffer := fun _ _ => rfl
  log := fun _ _ => rfl
  answers := fun key a => blind_requestAnswer key a
  answer_recv := by
    intro key a chunk s
    show requestAnswer key { a with recv := chunk } s =
      requestAnswer key a s
    unfold requestAnswer
    cases s.conn.request.parser with
    | none => rfl
    | some p => rfl

/- The three reading states of the handshake. -/
def Intake.Known (S : Intake) : Prop :=
  S = helloIntake ∨ S = loginIntake ∨ S = requestIntake

theorem Intake.Known.lawful
    {S : Intake}
    (h : S.Known) : S.Lawful := by
  rcases h with rfl | rfl | rfl
  · exact helloIntake_lawful
  · exact loginIntake_lawful
  · exact requestIntake_lawful

end Intakes

end Socks5d

------------------------------------------------------------
-- Feeding A Parser
------------------------------------------------------------

namespace Socks5d

section Feeding

variable {S : Intake}
variable {key : Key}
variable {a : Answers}
variable {chunk bytes : List UInt8}
variable {s : St}

/- The bytes of a `recv` in the buffer and the parser. -/
def Intake.fed
    (S : Intake)
    (key : Key)
    (bytes : List UInt8)
    (p : S.P)
    (s : St) : S.P × St :=
  let fed :=
    (s.conn.readBuffer.writeAdv bytes).feed S.reader p
  (fed.1, (S.store fed.1 s).swap fed.2
    (s.conn.log ++ [.recv (s.conn.sideOf key.fd) bytes]))

/- What the handler of a reading state returns. -/
inductive Intake.Call
    (S : Intake)
    (key : Key)
    (a : Answers)
    (bytes : List UInt8)
    (p : S.P)
    (s : St) : St × Nat → Prop where
  | deaf
      (h : St → St × Nat)
      (hBlind : BlindCall h) :
      Call S key a bytes p s (h s)
  | more
      (hSome : bytes ≠ [])
      (hGoing : S.reader.stop (S.fed key bytes p s).1 =
        false) :
      Call S key a bytes p s
        ((S.fed key bytes p s).2, S.state)
  | whole
      (hSome : bytes ≠ [])
      (hStop : S.reader.stop (S.fed key bytes p s).1 =
        true) :
      Call S key a bytes p s
        (S.answer key a (S.fed key bytes p s).2)

/- The end of the stream. -/
theorem blind_eof
    (next : St → Nat)
    (hNext : ∀ s rb log, next (St.swap s rb log) = next s) :
    BlindCall fun s =>
      (s.note (.eof (s.conn.sideOf key.fd) []), next s) :=
  (Blind.note (fun s => .eof (s.conn.sideOf key.fd) [])
    (fun _ => rfl) fun _ _ _ => rfl).pair next hNext

theorem helloIntake_call
    (key : Key)
    (a : Answers)
    (s : St)
    (p : HelloParser)
    (hParser : s.conn.hello.parser = p) :
    helloIntake.Call key a (s.recvBytes a) p s
      (helloRead key a s) := by
  subst hParser
  unfold helloRead
  by_cases hFailed : s.conn.hello.failed = true
  · rw [if_pos hFailed]
    exact .deaf (fun s => (s, s.conn.errorState))
      (blind_return (fun s => s.conn.errorState)
        fun _ _ _ => rfl)
  rw [if_neg hFailed]
  by_cases hNone : s.recvBytes a = []
  · simp only [hNone, if_true]
    exact .deaf _ (blind_eof (fun s => s.conn.errorState)
      fun _ _ _ => rfl)
  simp only [hNone, if_false]
  cases hDone : helloIsDone (helloFed key (s.recvBytes a)
      s).conn.hello.parser.state with
  | false => exact .more hNone hDone
  | true => exact .whole hNone hDone

theorem loginIntake_call
    (key : Key)
    (a : Answers)
    (s : St)
    (p : Parser)
    (hParser : s.conn.userpass.parser = p) :
    loginIntake.Call key a (s.recvBytes a) p s
      (authRead key a s) := by
  subst hParser
  unfold authRead
  by_cases hFailed : s.conn.userpass.failed = true
  · rw [if_pos hFailed]
    exact .deaf (fun s => (s, s.conn.errorState))
      (blind_return (fun s => s.conn.errorState)
        fun _ _ _ => rfl)
  rw [if_neg hFailed]
  by_cases hNone : s.recvBytes a = []
  · simp only [hNone, if_true]
    exact .deaf _ (blind_eof (fun s => s.conn.errorState)
      fun _ _ _ => rfl)
  simp only [hNone, if_false]
  have hPending : (s.conn.readBuffer.writeAdv
      (s.recvBytes a)).pending ≠ [] := by
    rw [Buffer.writeAdv_pending, St.take_recvBytes rfl]
    exact fun hBad => hNone (List.append_eq_nil_iff.mp hBad).2
  have hState := consume_state hPending
    s.conn.userpass.parser
  have hError := consume_error hPending
    s.conn.userpass.parser
  have hFedState : (authFed key (s.recvBytes a) s).2.1 =
      (authFed key (s.recvBytes
        a) s).1.conn.userpass.parser.current := hState
  have hFedError : (authFed key (s.recvBytes a) s).2.2 =
      decide ((authFed key (s.recvBytes
        a) s).1.conn.userpass.parser.current = .errorRead) :=
    hError
  rw [hFedState, hFedError]
  cases hDone : isDone (authFed key (s.recvBytes
      a) s).1.conn.userpass.parser.current with
  | false => exact .more hNone hDone
  | true =>
      have hWhole : loginIntake.Call key a (s.recvBytes a)
          s.conn.userpass.parser s (authAnswer key
            (authFed key (s.recvBytes a) s).1) :=
        .whole hNone hDone
      simp only [decide_eq_true_eq]
      exact hWhole

theorem requestIntake_call
    (key : Key)
    (a : Answers)
    (s : St)
    (p : RequestParser)
    (hParser : s.conn.request.parser = some p) :
    requestIntake.Call key a (s.recvBytes a) p s
      (requestRead key a s) := by
  unfold requestRead
  by_cases hFailed : s.conn.request.status ≠ .succeeded
  · rw [if_pos hFailed]
    exact .deaf (fun s => (s, REQUEST_WRITE))
      (blind_return (fun _ => REQUEST_WRITE)
        fun _ _ _ => rfl)
  rw [if_neg hFailed]
  simp only [hParser]
  by_cases hNone : s.recvBytes a = []
  · simp only [hNone, if_true]
    exact .deaf _ (blind_eof (fun _ => ERROR)
      fun _ _ _ => rfl)
  simp only [hNone, if_false]
  cases hDone : requestIsDone (requestFed key
      (s.recvBytes a) p s).2.state with
  | false => exact .more hNone hDone
  | true => exact .whole hNone hDone

theorem Intake.called
    (hIntake : S.Known)
    (key : Key)
    (a : Answers)
    (s : St)
    (p : S.P)
    (hParser : S.parser? s = some p) :
    S.Call key a (s.recvBytes a) p s (S.read key a s) := by
  rcases hIntake with rfl | rfl | rfl
  · exact helloIntake_call key a s p (Option.some.inj hParser)
  · exact loginIntake_call key a s p (Option.some.inj hParser)
  · exact requestIntake_call key a s p hParser

end Feeding

end Socks5d

------------------------------------------------------------
-- One Chunk
------------------------------------------------------------

namespace Socks5d

section Reading

variable {S : Intake}
variable {key : Key}
variable {a : Answers}
variable {chunk : List UInt8}
variable {s u : St}
variable {p : S.P}
variable {h : St → St × Nat}

/- An event whose handler is blind reads nothing. -/
theorem BlindCall.finish_unread
    (hh : BlindCall h)
    (hNot : s.conn.current ≠ some COPY) :
    bytesFrom .client (finish key a (h s)).conn.log =
      bytesFrom .client s.conn.log := by
  have hCall := (hh.keeps s).2
  have hGoesOn : GoesOn s (h s).1 := (hh s).1
  show bytesFrom .client
    (finish key a ((h s).1, (h s).2)).conn.log = _
  by_cases hCopy : (h s).2 = COPY
  · rw [hCopy, finish_copy key a (hGoesOn.not_copy hNot),
      (copyInit_conn key a _).1]
    show bytesFrom .client ((depart clientStatbl key
      (h s).1).conn.log ++ [.enter COPY]) = _
    rw [bytesFrom_append]
    exact (List.append_nil _).trans ((blind_depart.keeps
      (f := fun u => depart clientStatbl key u) _).2.trans
        hCall)
  · have hBlind : Blind fun u =>
        finish key a (u, (h s).2) := blind_finish hCopy
    exact (hBlind.keeps _).2.trans hCall

/- A state that is kept ends the event. -/
theorem finish_stay
    (hEarly : S.state < REQUEST_RESOLV)
    (hState : s.conn.current = some S.state) :
    finish key a (s, S.state) = s := by
  have hEnd : ¬ (S.state = ERROR ∨ S.state = DONE) := by
    have hFirst : REQUEST_RESOLV < ERROR := by decide
    have hSecond : REQUEST_RESOLV < DONE := by decide
    omega
  have hMax : ¬ S.state > s.conn.maxState := by
    have hFirst : REQUEST_RESOLV < ERROR := by decide
    have hSecond : REQUEST_RESOLV < MNG_ERROR := by decide
    unfold Conn.maxState
    split
    · omega
    · omega
  unfold finish
  dsimp only
  rw [if_neg hEnd]
  unfold jump
  rw [if_neg hMax, if_pos hState]

/- A chunk that was taken, and where it left the message. -/
inductive Intake.Taken
    (S : Intake)
    (key : Key)
    (a : Answers)
    (chunk : List UInt8)
    (p : S.P)
    (s u : St) : Prop where
  | more
      (rb : Buffer rawBuffSize)
      (hLive : S.reader.Live p
        (s.conn.readBuffer.pending ++ chunk))
      (hEmpty : rb.pending = [])
      (hEq : u = (S.store (S.reader.feedAll p
          (s.conn.readBuffer.pending ++ chunk)) s).swap rb
        (s.conn.log ++ [.recv .client chunk]))
  | whole
      (used rest : List UInt8)
      (rb : Buffer rawBuffSize)
      (hSplit : s.conn.readBuffer.pending ++ chunk =
        used ++ rest)
      (hStops : S.reader.Stops p used)
      (hRest : rb.pending = rest)
      (hEq : u = finish key a (S.answer key a
        ((S.store (S.reader.feedAll p used) s).swap rb
          (s.conn.log ++ [.recv .client chunk]))))

/- Feeding is consuming what is pending. -/
theorem Intake.fed_eq
    (S : Intake)
    (key : Key)
    (bytes : List UInt8)
    (p : S.P)
    (s : St)
    (hFits : bytes.take s.conn.readBuffer.room = bytes) :
    (S.reader.Live p (s.conn.readBuffer.pending ++ bytes) ∧
        ∃ rb : Buffer rawBuffSize, rb.pending = [] ∧
          S.fed key bytes p s =
            (S.reader.feedAll p
              (s.conn.readBuffer.pending ++ bytes),
            (S.store (S.reader.feedAll p
                (s.conn.readBuffer.pending ++ bytes)) s).swap
              rb (s.conn.log ++
                [.recv (s.conn.sideOf key.fd) bytes]))) ∨
      ∃ used rest, ∃ rb : Buffer rawBuffSize,
        s.conn.readBuffer.pending ++ bytes = used ++ rest ∧
          S.reader.Stops p used ∧ rb.pending = rest ∧
          S.fed key bytes p s = (S.reader.feedAll p used,
            (S.store (S.reader.feedAll p used) s).swap rb
              (s.conn.log ++
                [.recv (s.conn.sideOf key.fd) bytes])) := by
  have hFeed := (s.conn.readBuffer.writeAdv bytes).feed_eq
    S.reader p
  rw [Buffer.writeAdv_pending, hFits] at hFeed
  rcases hFeed with ⟨hParser, hPending⟩
  rcases S.reader.consume_cases p
      (s.conn.readBuffer.pending ++ bytes) with
    ⟨hLive, hEq⟩ | ⟨used, rest, hSplit, hStops, hEq⟩
  · rw [hEq] at hParser hPending
    refine Or.inl ⟨hLive, _, hPending, ?_⟩
    unfold Intake.fed
    simp only [hParser]
  · rw [hEq] at hParser hPending
    refine Or.inr ⟨used, rest, _, hSplit, hStops, hPending,
      ?_⟩
    unfold Intake.fed
    simp only [hParser]

/- What was recorded is the `recv` of the chunk. -/
theorem recv_heard
    {side : Side}
    {bytes : List UInt8}
    {before after : List Ev}
    (hSome : chunk ≠ [])
    (hGot : bytesFrom .client after =
      bytesFrom .client before ++ chunk)
    (hLog : bytesFrom .client after =
      bytesFrom .client (before ++ [.recv side bytes])) :
    side = .client ∧ bytes = chunk := by
  rw [hLog, bytesFrom_append] at hGot
  have hBytes : (if side = .client then bytes else []) =
      chunk := by
    rw [← List.append_cancel_left hGot]
    unfold bytesFrom
    rw [List.flatMap_singleton]
    rfl
  by_cases hSide : side = .client
  · rw [if_pos hSide] at hBytes
    exact ⟨hSide, hBytes⟩
  · rw [if_neg hSide] at hBytes
    exact absurd hBytes.symm hSome

/-
  An event in a reading state that is recorded to have read
  the chunk.
-/
theorem Intake.taken
    (hIntake : S.Known)
    (hState : s.conn.current = some S.state)
    (hParser : S.parser? s = some p)
    (hSome : chunk ≠ [])
    (hEvent : u = socksv5Event StateDefinition.onReadReady
      key { a with recv := some chunk } s)
    (hGot : bytesFrom .client u.conn.log =
      bytesFrom .client s.conn.log ++ chunk) :
    S.Taken key a chunk p s u := by
  have hLawful := hIntake.lawful
  have hCall := S.called hIntake key
    { a with recv := some chunk } s p hParser
  have hNot : s.conn.current ≠ some COPY := by
    rw [hState]
    intro hBad
    have hEarly := hLawful.early
    rw [Option.some.inj hBad] at hEarly
    exact absurd hEarly (by decide)
  have hFits : (s.recvBytes
        { a with recv := some chunk }).take
      s.conn.readBuffer.room =
        s.recvBytes { a with recv := some chunk } :=
    St.take_recvBytes rfl
  rw [socksv5Event_eq hState hLawful.ready,
    finish_recv] at hEvent
  generalize s.recvBytes { a with recv := some chunk } =
    bytes at hCall hFits
  generalize S.read key { a with recv := some chunk } s =
    r at hCall hEvent
  cases hCall with
  | deaf h hBlind =>
      rw [hEvent, hBlind.finish_unread hNot] at hGot
      exact absurd (List.self_eq_append_right.mp hGot) hSome
  | more hBytes hGoing =>
      rcases S.fed_eq key bytes p s hFits with
        ⟨hLive, rb, hEmpty, hFed⟩ |
        ⟨used, rest, rb, hSplit, hStops, hRest, hFed⟩
      · rw [hFed] at hEvent
        have hStay := hEvent.trans (finish_stay hLawful.early
          ((hLawful.current _ s).trans hState))
        rcases recv_heard hSome hGot (by rw [hStay]; rfl) with
          ⟨hSide, rfl⟩
        rw [hSide] at hStay
        exact .more rb hLive hEmpty hStay
      · rw [hFed, hStops.stop_feedAll] at hGoing
        nomatch hGoing
  | whole hBytes hStop =>
      rcases S.fed_eq key bytes p s hFits with
        ⟨hLive, rb, hEmpty, hFed⟩ |
        ⟨used, rest, rb, hSplit, hStops, hRest, hFed⟩
      · rw [hFed, hLive.going_feedAll _ (fun hBad =>
          hBytes (List.append_eq_nil_iff.mp hBad).2)] at hStop
        nomatch hStop
      · rw [hFed, hLawful.answer_recv] at hEvent
        rcases recv_heard hSome hGot (by
          rw [hEvent, (hLawful.answers key a).finish_unread (by
            show (S.store _ s).conn.current ≠ some COPY
            rw [hLawful.current]
            exact hNot)]
          rfl) with ⟨hSide, rfl⟩
        rw [hSide] at hEvent
        exact .whole used rest rb hSplit hStops hRest hEvent

end Reading

end Socks5d
