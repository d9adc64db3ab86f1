import Socks5d.AddressAttempts
import Socks5d.Streams

/-
  What the handlers of a SOCKS connection do not look at. Up
  to the entry into `COPY`, the bytes that wait in the read
  buffer are seen by the reading states only, so two states
  that differ in nothing else go on in the same way.

  Main declarations:
    * `GoesOn`, `Blind`, `BlindCall`
    * `finish`, `socksv5Event_eq`
    * `Alike`, `SameOutcome`, `Together`
    * `BlindCall.together`
-/

------------------------------------------------------------
-- What A Handler Does Not Look At
------------------------------------------------------------

namespace Socks5d

/- The same state with another read buffer and history. -/
def St.swap
    (s : St)
    (rb : Buffer rawBuffSize)
    (log : List Ev) : St :=
  { s with
    conn.readBuffer := rb
    conn.log := log }

/- Nothing was read from the client. -/
def Unread (log : List Ev) : Prop :=
  bytesFrom .client log = []

/- The machine is not stopped, and does not enter `COPY`. -/
def GoesOn (s t : St) : Prop :=
  t.conn.current = s.conn.current ∨
    ∃ state, state ≠ COPY ∧ t.conn.current = some state

/-
  It does the same whatever the read buffer and the history
  are: the first is kept, the second grows by the same events,
  and none of them is a `recv` from the client.
-/
def Blind (f : St → St) : Prop :=
  ∀ s, GoesOn s (f s) ∧ ∃ more, Unread more ∧ ∀ rb log,
    f (s.swap rb log) = (f s).swap rb (log ++ more)

/- So does a call, and it returns the same. -/
def BlindCall
    {β : Type}
    (f : St → St × β) : Prop :=
  ∀ s, GoesOn s (f s).1 ∧ ∃ more, Unread more ∧ ∀ rb log,
    f (s.swap rb log) =
      ((f s).1.swap rb (log ++ more), (f s).2)

section Blindness

variable {β γ : Type}
variable {f g : St → St}
variable {h : St → St × β}

theorem GoesOn.refl
    (s : St) : GoesOn s s := Or.inl rfl

theorem GoesOn.trans
    {s t u : St}
    (hFirst : GoesOn s t)
    (hSecond : GoesOn t u) : GoesOn s u := by
  rcases hSecond with hSame | hOther
  · rcases hFirst with hKept | ⟨state, hNot, hState⟩
    · exact Or.inl (hSame.trans hKept)
    · exact Or.inr ⟨state, hNot, hSame.trans hState⟩
  · exact Or.inr hOther

theorem Unread.append
    {log more : List Ev}
    (hLog : Unread log)
    (hMore : Unread more) : Unread (log ++ more) := by
  unfold Unread
  rw [bytesFrom_append, hLog, hMore, List.append_nil]

theorem Unread.single
    {event : Ev}
    (hEvent : event.readFrom .client = []) :
    Unread [event] := by
  unfold Unread bytesFrom
  rw [List.flatMap_singleton, hEvent]

namespace Blind

theorem id : Blind fun s => s := fun s =>
  ⟨.refl s, [], rfl, fun rb log => by rw [List.append_nil]⟩

theorem comp
    (hf : Blind f)
    (hg : Blind g) : Blind fun s => g (f s) := by
  intro s
  rcases hf s with ⟨hGoesOn, first, hFirst, hOne⟩
  rcases hg (f s) with ⟨hGoesOn', second, hSecond, hTwo⟩
  refine ⟨hGoesOn.trans hGoesOn', first ++ second,
    hFirst.append hSecond, ?_⟩
  intro rb log
  show g (f (s.swap rb log)) = _
  rw [hOne, hTwo, List.append_assoc]

theorem pair
    (hf : Blind f)
    (r : St → β)
    (hr : ∀ s rb log, r (St.swap s rb log) = r s) :
    BlindCall fun s => (f s, r s) := by
  intro s
  rcases hf s with ⟨hGoesOn, more, hMore, hSame⟩
  refine ⟨hGoesOn, more, hMore, fun rb log => ?_⟩
  show (f (s.swap rb log), r (s.swap rb log)) = _
  rw [hSame, hr]

theorem ite
    (P : St → Prop)
    [DecidablePred P]
    (hP : ∀ s rb log, P (St.swap s rb log) ↔ P s)
    (hf : Blind f)
    (hg : Blind g) :
    Blind fun s => if P s then f s else g s := by
  intro s
  by_cases hIf : P s
  · rcases hf s with ⟨hGoesOn, more, hMore, hSame⟩
    refine ⟨?_, more, hMore, fun rb log => ?_⟩
    · show GoesOn s (if P s then _ else _)
      rw [if_pos hIf]
      exact hGoesOn
    show (if P _ then _ else _) =
      (if P s then _ else _ : St).swap _ _
    rw [if_pos hIf, if_pos ((hP s rb log).mpr hIf), hSame]
  · rcases hg s with ⟨hGoesOn, more, hMore, hSame⟩
    refine ⟨?_, more, hMore, fun rb log => ?_⟩
    · show GoesOn s (if P s then _ else _)
      rw [if_neg hIf]
      exact hGoesOn
    show (if P _ then _ else _) =
      (if P s then _ else _ : St).swap _ _
    rw [if_neg hIf, if_neg (mt (hP s rb log).mp hIf), hSame]

/- An update of other fields. -/
theorem update
    (hf : ∀ s rb log,
      f (St.swap s rb log) = (f s).swap rb log ∧
        (f s).conn.current = s.conn.current) : Blind f := by
  intro s
  refine ⟨Or.inl (hf s s.conn.readBuffer s.conn.log).2, [],
    rfl, fun rb log => ?_⟩
  rw [(hf s rb log).1, List.append_nil]

theorem note
    (event : St → Ev)
    (hRead : ∀ s, (event s).readFrom .client = [])
    (hSame : ∀ s rb log, event (St.swap s rb log) = event s) :
    Blind fun s => s.note (event s) := by
  intro s
  refine ⟨Or.inl rfl, [event s], .single (hRead s),
    fun rb log => ?_⟩
  show (s.swap rb log).note _ = _
  rw [hSame]
  rfl

end Blind

namespace BlindCall

theorem fst
    (hh : BlindCall h) : Blind fun s => (h s).1 := by
  intro s
  rcases hh s with ⟨hGoesOn, more, hMore, hSame⟩
  refine ⟨hGoesOn, more, hMore, fun rb log => ?_⟩
  show (h (s.swap rb log)).1 = _
  rw [hSame]

theorem bind
    {g : β → St → St × γ}
    (hh : BlindCall h)
    (hg : ∀ r, BlindCall (g r)) :
    BlindCall fun s => g (h s).2 (h s).1 := by
  intro s
  rcases hh s with ⟨hGoesOn, first, hFirst, hOne⟩
  rcases hg (h s).2 (h s).1 with
    ⟨hGoesOn', second, hSecond, hTwo⟩
  refine ⟨hGoesOn.trans hGoesOn', first ++ second,
    hFirst.append hSecond, ?_⟩
  intro rb log
  show g (h (s.swap rb log)).2 (h (s.swap rb log)).1 = _
  rw [hOne, hTwo, List.append_assoc]

/- A call with a verdict, and what follows from it. -/
theorem cond
    {call : St → St × Bool}
    {h' : St → St × β}
    (hCall : BlindCall call)
    (hh : BlindCall h)
    (hh' : BlindCall h') :
    BlindCall fun s =>
      if (call s).2 then h (call s).1
      else h' (call s).1 := by
  refine hCall.bind (g := fun r s =>
    if r then h s else h' s) (fun r => ?_)
  cases r with
  | true => exact hh
  | false => exact hh'

theorem after
    (hf : Blind f)
    (hh : BlindCall h) : BlindCall fun s => h (f s) := by
  intro s
  rcases hf s with ⟨hGoesOn, first, hFirst, hOne⟩
  rcases hh (f s) with ⟨hGoesOn', second, hSecond, hTwo⟩
  refine ⟨hGoesOn.trans hGoesOn', first ++ second,
    hFirst.append hSecond, ?_⟩
  intro rb log
  show h (f (s.swap rb log)) = _
  rw [hOne, hTwo, List.append_assoc]

theorem ite
    {h' : St → St × β}
    (P : St → Prop)
    [DecidablePred P]
    (hP : ∀ s rb log, P (St.swap s rb log) ↔ P s)
    (hh : BlindCall h)
    (hh' : BlindCall h') :
    BlindCall fun s => if P s then h s else h' s := by
  intro s
  by_cases hIf : P s
  · rcases hh s with ⟨hGoesOn, more, hMore, hSame⟩
    refine ⟨?_, more, hMore, fun rb log => ?_⟩
    · show GoesOn s (if P s then _ else _ : St × β).1
      rw [if_pos hIf]
      exact hGoesOn
    show (if P _ then _ else _) =
      (((if P s then _ else _) : St × β).1.swap _ _,
        ((if P s then _ else _) : St × β).2)
    rw [if_pos hIf, if_pos ((hP s rb log).mpr hIf), hSame]
  · rcases hh' s with ⟨hGoesOn, more, hMore, hSame⟩
    refine ⟨?_, more, hMore, fun rb log => ?_⟩
    · show GoesOn s (if P s then _ else _ : St × β).1
      rw [if_neg hIf]
      exact hGoesOn
    show (if P _ then _ else _) =
      (((if P s then _ else _) : St × β).1.swap _ _,
        ((if P s then _ else _) : St × β).2)
    rw [if_neg hIf, if_neg (mt (hP s rb log).mp hIf), hSame]

/- A case split on something that is seen in both. -/
theorem split
    {α : Type}
    (r : St → α)
    (hr : ∀ s rb log, r (St.swap s rb log) = r s)
    {g : α → St → St × β}
    (hg : ∀ v, BlindCall (g v)) :
    BlindCall fun s => g (r s) s := by
  intro s
  rcases hg (r s) s with ⟨hGoesOn, more, hMore, hSame⟩
  refine ⟨hGoesOn, more, hMore, fun rb log => ?_⟩
  show g (r (s.swap rb log)) (s.swap rb log) = _
  rw [hr, hSame]

/- In each state it does what some blind call does. -/
theorem choose
    (hEach : ∀ s, ∃ h', BlindCall h' ∧ ∀ rb log,
      h (St.swap s rb log) = h' (s.swap rb log)) :
    BlindCall h := by
  intro s
  rcases hEach s with ⟨h', hBlind, hEq⟩
  rcases hBlind s with ⟨hGoesOn, more, hMore, hSame⟩
  have hSelf : h s = h' s :=
    hEq s.conn.readBuffer s.conn.log
  refine ⟨?_, more, hMore, fun rb log => ?_⟩
  · rw [hSelf]
    exact hGoesOn
  · rw [hEq, hSame, hSelf]

end BlindCall

theorem Blind.choose
    (hEach : ∀ s, ∃ f', Blind f' ∧ ∀ rb log,
      f (St.swap s rb log) = f' (s.swap rb log)) :
    Blind f := by
  intro s
  rcases hEach s with ⟨f', hBlind, hEq⟩
  rcases hBlind s with ⟨hGoesOn, more, hMore, hSame⟩
  have hSelf : f s = f' s :=
    hEq s.conn.readBuffer s.conn.log
  refine ⟨?_, more, hMore, fun rb log => ?_⟩
  · rw [hSelf]
    exact hGoesOn
  · rw [hEq, hSame, hSelf]

end Blindness

end Socks5d

------------------------------------------------------------
-- Interests And Replies
------------------------------------------------------------

namespace Socks5d

section Handlers

variable {key : Key}
variable {a : Answers}
variable {fd : Fd}

theorem blind_setInterest
    (fd : St → Fd)
    (hFd : ∀ s rb log, fd (St.swap s rb log) = fd s)
    (interest : Interest) :
    BlindCall fun s => s.setInterest (fd s) interest := by
  intro s
  refine ⟨Or.inl rfl, [], rfl, fun rb log => ?_⟩
  show (s.swap rb log).setInterest _ interest = _
  rw [hFd, List.append_nil]
  rfl

theorem blind_crash
    (fault : Fault) : Blind fun s => s.crash fault :=
  .update fun _ _ _ => ⟨rfl, rfl⟩

theorem blind_requestMarshall
    (status : SocksReplyStatus) :
    BlindCall fun s => requestMarshall s status :=
  .ite (fun s => s.conn.writeBuffer.room < 10)
    (fun _ _ _ => Iff.rfl)
    (Blind.id.pair (fun _ => false) fun _ _ _ => rfl)
    (((Blind.update (f := fun s => { s with
        conn.writeBuffer := s.conn.writeBuffer.writeAdv
          (replyBytes status) }) fun _ _ _ => ⟨rfl, rfl⟩).comp
      (.note (fun _ => .reply status) (fun _ => rfl)
        fun _ _ _ => rfl)).pair (fun _ => true)
      fun _ _ _ => rfl)

theorem blind_errorHandler
    (status : SocksReplyStatus) :
    Blind fun s => errorHandler key s status :=
  (blind_requestMarshall status).fst.comp
    (blind_setInterest (fun _ => key.fd) (fun _ _ _ => rfl)
      opWrite).fst

theorem blind_errorHandlerToClient
    (status : SocksReplyStatus) :
    Blind fun s => errorHandlerToClient s status :=
  ((blind_requestMarshall status).fst.comp
    (blind_setInterest (fun s => s.conn.clientFd)
      (fun _ _ _ => rfl) opWrite).fst).comp
    (.ite (fun s => s.conn.originFd ≠ -1)
      (fun _ _ _ => Iff.rfl)
      (blind_setInterest (fun s => s.conn.originFd)
        (fun _ _ _ => rfl) opNoop).fst
      .id)

end Handlers

end Socks5d

------------------------------------------------------------
-- Hello
------------------------------------------------------------

namespace Socks5d

section Handshaking

variable {key : Key}
variable {a : Answers}

theorem blind_marshalPair
    (first second : St → UInt8)
    (hFirst : ∀ s rb log,
      first (St.swap s rb log) = first s)
    (hSecond : ∀ s rb log,
      second (St.swap s rb log) = second s) :
    BlindCall fun s => marshalPair s (first s) (second s) := by
  refine BlindCall.ite
    (fun s => s.conn.writeBuffer.room < 2)
    (fun _ _ _ => Iff.rfl)
    (Blind.id.pair (fun _ => false) fun _ _ _ => rfl)
    ((Blind.update (f := fun s => { s with
        conn.writeBuffer := s.conn.writeBuffer.writeAdv
          [first s, second s] }) ?_).pair (fun _ => true)
      fun _ _ _ => rfl)
  intro s rb log
  refine ⟨?_, rfl⟩
  show { s.swap rb log with
      conn.writeBuffer :=
        (s.swap rb log).conn.writeBuffer.writeAdv
          [first (s.swap rb log), second (s.swap rb log)] } = _
  rw [hFirst, hSecond]
  rfl

/- The end of `hello_read`, when the parser is done. -/
def helloAnswer
    (key : Key)
    (s : St) : St × Nat :=
  let set := s.setInterest key.fd opWrite
  if set.2 then
    let processed := helloProcess set.1 s.conn.helloVersion
    if s.conn.hello.parser.state =
        .errorUnsupportedVersion then
      (processed.1, s.conn.errorState)
    else
      (processed.1, processed.2.getD s.conn.errorState)
  else (set.1, s.conn.errorState)

theorem blind_helloProcess :
    BlindCall fun s => helloProcess s s.conn.helloVersion :=
  (blind_marshalPair (fun s => s.conn.helloVersion)
      (fun s => s.conn.hello.method)
      (fun _ _ _ => rfl) (fun _ _ _ => rfl)).bind
    (g := fun r s =>
      (s, if r then some HELLO_WRITE else none))
    fun _ => Blind.id.pair _ fun _ _ _ => rfl

/- The `send` of a reply. -/
theorem blind_sendPending
    (n : Nat) : Blind fun s => sendPending key n s :=
  (Blind.note (fun s => .send (s.conn.sideOf key.fd)
      (s.conn.writeBuffer.pending.take n))
    (fun _ => rfl) fun _ _ _ => rfl).comp
    (.update (f := fun s => { s with
      conn.writeBuffer := s.conn.writeBuffer.readAdv
        (s.conn.writeBuffer.pending.take n).length })
      fun _ _ _ => ⟨rfl, rfl⟩)

theorem blind_sendError
    (next : St → Nat)
    (hNext : ∀ s rb log, next (St.swap s rb log) = next s) :
    BlindCall fun s =>
      (s.note (.sendError (s.conn.sideOf key.fd)), next s) :=
  (Blind.note (fun s => .sendError (s.conn.sideOf key.fd))
    (fun _ => rfl) fun _ _ _ => rfl).pair next hNext

/- What follows a `selector_set_interest_key`. -/
theorem blind_armed
    {next : St → St × Nat}
    (interest : Interest)
    (hNext : BlindCall next) :
    BlindCall fun s =>
      if (s.setInterest key.fd interest).2 then
        next (s.setInterest key.fd interest).1
      else ((s.setInterest key.fd interest).1,
        s.conn.errorState) :=
  (blind_setInterest (fun _ => key.fd) (fun _ _ _ => rfl)
    interest).cond hNext
    (Blind.id.pair (fun s => s.conn.errorState)
      fun _ _ _ => rfl)

/- A call that leaves everything. -/
theorem blind_return
    (next : St → Nat)
    (hNext : ∀ s rb log, next (St.swap s rb log) = next s) :
    BlindCall fun s => (s, next s) :=
  Blind.id.pair next hNext

theorem blind_helloAnswer :
    BlindCall fun s => helloAnswer key s := by
  refine BlindCall.split
    (fun s => (s.conn.hello.parser.state, s.conn.errorState))
    (fun _ _ _ => rfl) (g := fun v s =>
      if (s.setInterest key.fd opWrite).2 then
        let s := (s.setInterest key.fd opWrite).1
        let processed := helloProcess s s.conn.helloVersion
        if v.1 = .errorUnsupportedVersion then
          (processed.1, v.2)
        else (processed.1, processed.2.getD v.2)
      else ((s.setInterest key.fd opWrite).1, v.2))
    (fun v => ?_)
  have hReturns : BlindCall fun s =>
      let processed := helloProcess s s.conn.helloVersion
      if v.1 = .errorUnsupportedVersion then
        (processed.1, v.2)
      else (processed.1, processed.2.getD v.2) :=
    .ite (fun _ => v.1 = .errorUnsupportedVersion)
      (fun _ _ _ => Iff.rfl)
      (blind_helloProcess.fst.pair (fun _ => v.2)
        fun _ _ _ => rfl)
      (blind_helloProcess.bind (g := fun (r : Option Nat) s =>
        (s, r.getD v.2)) fun r =>
          blind_return (fun _ => r.getD v.2) fun _ _ _ => rfl)
  exact (blind_setInterest (fun _ => key.fd)
    (fun _ _ _ => rfl) opWrite).cond hReturns
    (blind_return (fun _ => v.2) fun _ _ _ => rfl)

theorem blind_helloWrite :
    BlindCall fun s => helloWrite key a s := by
  unfold helloWrite
  cases a.send with
  | none =>
      exact blind_sendError (fun s => s.conn.errorState)
        fun _ _ _ => rfl
  | some n =>
      refine .after (blind_sendPending n) (.ite
        (fun s => s.conn.writeBuffer.canRead = true)
        (fun _ _ _ => Iff.rfl)
        (blind_return (fun _ => HELLO_WRITE) fun _ _ _ => rfl)
        (.ite (fun s => s.conn.hello.method =
            methodNoAcceptableMethods) (fun _ _ _ => Iff.rfl)
          (blind_return (fun s => s.conn.doneState)
            fun _ _ _ => rfl)
          (blind_armed opRead (.ite
            (fun s => s.conn.hello.method =
              methodUsernamePassword) (fun _ _ _ => Iff.rfl)
            (blind_return (fun _ => USERPASS_READ)
              fun _ _ _ => rfl)
            (.ite (fun s => s.conn.hello.method =
                methodNoAuthenticationRequired)
              (fun _ _ _ => Iff.rfl)
              (blind_return (fun _ => REQUEST_READ)
                fun _ _ _ => rfl)
              (blind_return (fun _ => HELLO_WRITE)
                fun _ _ _ => rfl))))))

end Handshaking

end Socks5d

------------------------------------------------------------
-- User And Password
------------------------------------------------------------

namespace Socks5d

section Logging

variable {key : Key}
variable {a : Answers}

/- The record of a comparison. -/
theorem blind_credentials
    (username password : List UInt8)
    (accepted : Bool) :
    Blind fun s =>
      s.note (credentialsOf s username password accepted) :=
  .note (fun s => credentialsOf s username password accepted)
    (fun _ => rfl) fun _ _ _ => rfl

/- The outcome of a comparison is stored. -/
theorem blind_stored
    (username password : List UInt8)
    (found : Option Nat) :
    BlindCall fun s =>
      ({ s.note (credentialsOf s username password
            found.isSome) with
          conn.authentication := if found.isSome then 0 else 1
          conn.userIndex :=
            if found.isSome && s.conn.isSocks then
              found.getD 0
            else s.conn.userIndex },
        USERPASS_WRITE) :=
  ((blind_credentials username password found.isSome).comp
    (.update (f := fun s => { s with
      conn.authentication := if found.isSome then 0 else 1
      conn.userIndex :=
        if found.isSome && s.conn.isSocks then found.getD 0
        else s.conn.userIndex }) fun _ _ _ => ⟨rfl, rfl⟩)).pair
    (fun _ => USERPASS_WRITE) fun _ _ _ => rfl

/- A null pointer is compared only with an entry. -/
theorem blind_unread :
    BlindCall fun s =>
      if (credentialTable s).count = 0 then
        ({ s with conn.authentication := 0x01 },
          USERPASS_WRITE)
      else (s.crash .segv, USERPASS_WRITE) :=
  .ite (fun s => (credentialTable s).count = 0)
    (fun _ _ _ => Iff.rfl)
    ((Blind.update (f := fun s => { s with
        conn.authentication := 0x01 })
      fun _ _ _ => ⟨rfl, rfl⟩).pair
      (fun _ => USERPASS_WRITE) fun _ _ _ => rfl)
    ((blind_crash .segv).pair (fun _ => USERPASS_WRITE)
      fun _ _ _ => rfl)

theorem blind_authProcess : BlindCall authProcess := by
  have hCount : Blind St.countAttempt :=
    .update fun _ _ _ => ⟨rfl, rfl⟩
  refine .choose fun s => ?_
  cases hUser : s.conn.userpass.parser.resultAt 2 with
  | none =>
      refine ⟨_, .after hCount blind_unread,
        fun rb log => ?_⟩
      have hUser' : (s.swap rb log).conn.userpass.parser.resultAt
          2 = none := hUser
      simp only [authProcess, hUser']
      rfl
  | some username =>
      cases hPass : s.conn.userpass.parser.resultAt 4 with
      | none =>
          refine ⟨_, .after hCount blind_unread,
            fun rb log => ?_⟩
          have hUser' : (s.swap rb
              log).conn.userpass.parser.resultAt 2 =
                some username := hUser
          have hPass' : (s.swap rb
              log).conn.userpass.parser.resultAt 4 = none :=
            hPass
          simp only [authProcess, hUser', hPass']
          rfl
      | some password =>
          refine ⟨_, .after hCount (blind_stored username
            password ((credentialTable s).find? username
              password)), fun rb log => ?_⟩
          have hUser' : (s.swap rb
              log).conn.userpass.parser.resultAt 2 =
                some username := hUser
          have hPass' : (s.swap rb
              log).conn.userpass.parser.resultAt 4 =
                some password := hPass
          have hTable : credentialTable (s.swap rb log) =
            credentialTable s := rfl
          simp only [authProcess, hUser', hPass', hTable]
          cases (credentialTable s).find? username
            password with
          | none => rfl
          | some i => rfl

/- The end of `auth_read`, when the parser is done. -/
def authAnswer
    (key : Key)
    (s : St) : St × Nat :=
  let set := s.setInterest key.fd opWrite
  if set.2 then
    let processed := authProcess set.1
    if s.conn.userpass.parser.current = .errorRead then
      (processed.1, s.conn.errorState)
    else processed
  else (set.1, s.conn.errorState)

theorem blind_authAnswer :
    BlindCall fun s => authAnswer key s := by
  refine BlindCall.split
    (fun s => (s.conn.userpass.parser.current,
      s.conn.errorState))
    (fun _ _ _ => rfl) (g := fun v s =>
      if (s.setInterest key.fd opWrite).2 then
        let s := (s.setInterest key.fd opWrite).1
        if v.1 = .errorRead then ((authProcess s).1, v.2)
        else authProcess s
      else ((s.setInterest key.fd opWrite).1, v.2))
    (fun v => ?_)
  have hReturns : BlindCall fun s =>
      if v.1 = .errorRead then ((authProcess s).1, v.2)
      else authProcess s :=
    .ite (fun _ => v.1 = .errorRead) (fun _ _ _ => Iff.rfl)
      (blind_authProcess.fst.pair (fun _ => v.2)
        fun _ _ _ => rfl) blind_authProcess
  exact (blind_setInterest (fun _ => key.fd)
    (fun _ _ _ => rfl) opWrite).cond hReturns
    (blind_return (fun _ => v.2) fun _ _ _ => rfl)

theorem blind_authReply : Blind authReply :=
  (blind_marshalPair (fun _ => userpassMethodVersion)
    (fun s => s.conn.authentication) (fun _ _ _ => rfl)
    fun _ _ _ => rfl).fst

theorem blind_authWrite :
    BlindCall fun s => authWrite key a s := by
  unfold authWrite
  cases a.send with
  | none =>
      exact .after (f := authReply) blind_authReply
        (blind_sendError (fun s => s.conn.errorState)
          fun _ _ _ => rfl)
  | some n =>
      exact .after (f := authReply) blind_authReply
        (.after (blind_sendPending n) (.ite
          (fun s => s.conn.writeBuffer.canRead = true)
          (fun _ _ _ => Iff.rfl)
          (blind_return (fun _ => USERPASS_WRITE)
            fun _ _ _ => rfl)
          (.ite (fun s => s.conn.authentication ≠ 0x00)
            (fun _ _ _ => Iff.rfl)
            (blind_return (fun s => s.conn.doneState)
              fun _ _ _ => rfl)
            (blind_armed opRead
              (blind_return (fun _ => REQUEST_READ)
                fun _ _ _ => rfl)))))

theorem blind_outOfMemory
    (site : AllocSite) :
    Blind fun s => s.note (.outOfMemory site) :=
  .note (fun _ => .outOfMemory site) (fun _ => rfl)
    fun _ _ _ => rfl

theorem blind_authReadInit :
    Blind fun s => authReadInit key a s := by
  unfold authReadInit
  split
  · exact .update fun _ _ _ => ⟨rfl, rfl⟩
  · exact (Blind.update (f := fun s => { s with
      conn.userpass := {
        failed := true
        torn := a.unset .userpass } })
      fun _ _ _ => ⟨rfl, rfl⟩).comp
      (blind_outOfMemory .userpass)

theorem blind_authReadClose :
    Blind fun s => authReadClose key s :=
  .ite (fun s => s.conn.userpass.torn = true)
    (fun _ _ _ => Iff.rfl) (blind_crash .segv) .id

end Logging

end Socks5d

------------------------------------------------------------
-- Request
------------------------------------------------------------

namespace Socks5d

section Requesting

variable {key : Key}
variable {a : Answers}

theorem blind_requestInitFailed
    (site : AllocSite) :
    Blind fun s => requestInitFailed key site s :=
  ((Blind.update (f := fun s => { s with
      conn.request.status := .generalSocksServerFailure })
    fun _ _ _ => ⟨rfl, rfl⟩).comp (blind_outOfMemory site)).comp
    (blind_errorHandler .generalSocksServerFailure)

theorem blind_requestInit :
    Blind fun s => requestInit key a s := by
  refine Blind.comp (f := fun s => { s with
      conn.request.parser := some requestParserInit
      conn.request.status := .succeeded })
    (g := fun s => if a.alloc .requestParser then
      let s :=
        if a.alloc .requestFirst then s
        else requestInitFailed key .requestFirst s
      if a.alloc .requestSecond then s
      else requestInitFailed key .requestSecond s
      else (requestInitFailed key .requestParser s).crash
        .segv) (.update fun _ _ _ => ⟨rfl, rfl⟩) ?_
  refine .ite (fun _ => a.alloc .requestParser = true)
    (fun _ _ _ => Iff.rfl) ?_
    ((blind_requestInitFailed .requestParser).comp
      (blind_crash .segv))
  refine Blind.comp (f := fun s =>
      if a.alloc .requestFirst then s
      else requestInitFailed key .requestFirst s)
    (g := fun s => if a.alloc .requestSecond then s
      else requestInitFailed key .requestSecond s) ?_ ?_
  · exact .ite (fun _ => a.alloc .requestFirst = true)
      (fun _ _ _ => Iff.rfl) .id
      (blind_requestInitFailed .requestFirst)
  · exact .ite (fun _ => a.alloc .requestSecond = true)
      (fun _ _ _ => Iff.rfl) .id
      (blind_requestInitFailed .requestSecond)

/- The parser of the request, if there is one. -/
theorem blind_requestClose :
    Blind fun s => requestClose key s := by
  refine .choose fun s => ?_
  cases hParser : s.conn.request.parser with
  | none =>
      refine ⟨_, blind_crash .segv, fun rb log => ?_⟩
      have hParser' : (s.swap rb log).conn.request.parser =
        none := hParser
      unfold requestClose
      simp only [hParser']
  | some p =>
      refine ⟨_, .ite (fun _ => p.request.destAddrType ≠
          socksReqAddrtypeDomain) (fun _ _ _ => Iff.rfl)
        (.update (f := fun s => { s with
          conn.request.parser := none })
          fun _ _ _ => ⟨rfl, rfl⟩) .id, fun rb log => ?_⟩
      have hParser' : (s.swap rb log).conn.request.parser =
        some p := hParser
      unfold requestClose
      simp only [hParser']

/- A request that is refused. -/
theorem blind_refused
    (key : Key)
    (status : SocksReplyStatus) :
    BlindCall fun s =>
      (errorHandler key { s with
          conn.request.status := status } status,
        REQUEST_WRITE) :=
  ((Blind.update (f := fun s => { s with
      conn.request.status := status })
    fun _ _ _ => ⟨rfl, rfl⟩).comp
      (blind_errorHandler status)).pair
    (fun _ => REQUEST_WRITE) fun _ _ _ => rfl

theorem blind_requestProcessDomain
    (request : Request) :
    BlindCall fun s =>
      requestProcessDomain key a request s := by
  have hFail := blind_refused key .generalSocksServerFailure
  refine .ite (fun _ => a.alloc .resolvKey = true)
    (fun _ _ _ => Iff.rfl) (.ite
      (fun _ => a.pthreadCreate = -1) (fun _ _ _ => Iff.rfl)
      hFail ?_) (.after (blind_outOfMemory .resolvKey) hFail)
  refine Blind.pair (f := fun s => ((
      if a.pthreadCreate = 0 then
        St.note { s with
            srv.threads := s.srv.threads ++
              [{ fd := key.fd, data := key.data,
                 request := request }] }
          (.resolve request)
      else s).setInterest key.fd opNoop).1) ?_
    (fun _ => REQUEST_RESOLV) fun _ _ _ => rfl
  refine Blind.comp (f := fun s =>
      if a.pthreadCreate = 0 then
        St.note { s with
            srv.threads := s.srv.threads ++
              [{ fd := key.fd, data := key.data,
                 request := request }] }
          (.resolve request)
      else s) ?_ (blind_setInterest (fun _ => key.fd)
        (fun _ _ _ => rfl) opNoop).fst
  refine .ite (fun _ => a.pthreadCreate = 0)
    (fun _ _ _ => Iff.rfl) ?_ .id
  exact (Blind.update (f := fun s => { s with
      srv.threads := s.srv.threads ++
        [{ fd := key.fd, data := key.data,
           request := request }] }) fun _ _ _ => ⟨rfl, rfl⟩).comp
    (.note (fun _ => .resolve request) (fun _ => rfl)
      fun _ _ _ => rfl)

theorem blind_requestProcess
    (request : Request) :
    BlindCall fun s => requestProcess key a request s := by
  refine .ite (fun _ => request.cmd ≠ socksReqCmdConnect)
    (fun _ _ _ => Iff.rfl)
    (blind_refused key .commandNotSupported) (.ite
      (fun _ => request.destAddrType = socksReqAddrtypeIpv4)
      (fun _ _ _ => Iff.rfl) ?_ (.ite
        (fun _ => request.destAddrType =
          socksReqAddrtypeIpv6) (fun _ _ _ => Iff.rfl) ?_
        (.ite (fun _ => request.destAddrType =
            socksReqAddrtypeDomain) (fun _ _ _ => Iff.rfl) ?_
          (blind_refused key .addressTypeNotSupported))))
  · exact (Blind.update (f := fun s => { s with
        conn.request.addrFamily := socksReqAddrtypeIpv4
        conn.originDomain := .inet
        conn.originAddrLen := sockaddrLen
        conn.originAddr := request.destAddr })
      fun _ _ _ => ⟨rfl, rfl⟩).pair (fun _ => REQUEST_CONNECTING)
        fun _ _ _ => rfl
  · exact (Blind.update (f := fun s => { s with
        conn.request.addrFamily := socksReqAddrtypeIpv6
        conn.originDomain := .inet6
        conn.originAddrLen := sockaddrIn6Len
        conn.originAddr := request.destAddr })
      fun _ _ _ => ⟨rfl, rfl⟩).pair (fun _ => REQUEST_CONNECTING)
        fun _ _ _ => rfl
  · exact .after (Blind.update (f := fun s => { s with
        conn.request.addrFamily := socksReqAddrtypeDomain })
      fun _ _ _ => ⟨rfl, rfl⟩)
        (blind_requestProcessDomain request)

theorem blind_requestWrite :
    BlindCall fun s => requestWrite key a s := by
  have hCopy : BlindCall fun s =>
      ((((s.setInterest s.conn.clientFd opRead).1).setInterest
        (s.setInterest s.conn.clientFd
          opRead).1.conn.originFd opRead).1, COPY) :=
    ((blind_setInterest (fun s => s.conn.clientFd)
        (fun _ _ _ => rfl) opRead).fst.comp
      (blind_setInterest (fun s => s.conn.originFd)
        (fun _ _ _ => rfl) opRead).fst).pair
      (fun _ => COPY) fun _ _ _ => rfl
  have hDone : BlindCall fun s =>
      let s := (s.setInterest s.conn.clientFd opNoop).1
      (if s.conn.originFd = -1 then
        (s.setInterest s.conn.originFd opNoop).1 else s,
        DONE) :=
    ((blind_setInterest (fun s => s.conn.clientFd)
        (fun _ _ _ => rfl) opNoop).fst.comp
      (.ite (fun s => s.conn.originFd = -1)
        (fun _ _ _ => Iff.rfl)
        (blind_setInterest (fun s => s.conn.originFd)
          (fun _ _ _ => rfl) opNoop).fst .id)).pair
      (fun _ => DONE) fun _ _ _ => rfl
  unfold requestWrite
  cases a.send with
  | none =>
      exact blind_sendError (fun _ => ERROR)
        fun _ _ _ => rfl
  | some n =>
      exact .after (blind_sendPending n) (.ite
        (fun s => s.conn.writeBuffer.canRead = true)
        (fun _ _ _ => Iff.rfl)
        (blind_return (fun _ => REQUEST_WRITE)
          fun _ _ _ => rfl)
        (.ite (fun s => s.conn.connStatus = .succeeded)
          (fun _ _ _ => Iff.rfl) hCopy hDone))

end Requesting

end Socks5d

------------------------------------------------------------
-- Connecting
------------------------------------------------------------

namespace Socks5d

section Connecting

variable {key : Key}
variable {a : Answers}

theorem blind_register
    (interest : Interest)
    (attached : Attachment) :
    BlindCall fun s =>
      s.register s.conn.originFd interest attached := by
  intro s
  refine ⟨Or.inl rfl, [], rfl, fun rb log => ?_⟩
  rw [List.append_nil]
  rfl

theorem blind_connectionFailed
    (status : SocksReplyStatus) :
    Blind fun s => connectionFailed s status :=
  (Blind.update (f := fun s => { s with
      conn.connStatus := status }) fun _ _ _ => ⟨rfl, rfl⟩).comp
    (blind_errorHandlerToClient status)

/- A failure of `connection`, with the status it returns. -/
theorem blind_failed
    (status : SocksReplyStatus) :
    BlindCall fun s => (connectionFailed s status, status) :=
  (blind_connectionFailed status).pair (fun _ => status)
    fun _ _ _ => rfl

theorem blind_takeReference :
    Blind fun s => takeReference key s :=
  .update fun _ _ _ => ⟨rfl, rfl⟩

theorem blind_connectionInProgress :
    BlindCall fun s => connectionInProgress key s := by
  have hStarted : BlindCall fun s =>
      (takeReference key s, SocksReplyStatus.succeeded) :=
    blind_takeReference.pair
      (fun _ => SocksReplyStatus.succeeded) fun _ _ _ => rfl
  have hClosed : BlindCall fun s =>
      let s := connectionFailed s .generalSocksServerFailure
      let s := s.close s.conn.originFd
      ({ s with conn.originFd := -1 },
        SocksReplyStatus.generalSocksServerFailure) :=
    ((blind_connectionFailed
        .generalSocksServerFailure).comp
      (.update (f := fun s =>
        { s.close s.conn.originFd with
          conn.originFd := -1 }) fun _ _ _ => ⟨rfl, rfl⟩)).pair
      (fun _ => SocksReplyStatus.generalSocksServerFailure)
      fun _ _ _ => rfl
  unfold connectionInProgress
  exact (blind_setInterest (fun _ => key.fd)
      (fun _ _ _ => rfl) opNoop).cond
    ((blind_register opWrite (.socks key.data)).cond hStarted
      hClosed)
    (blind_failed .generalSocksServerFailure)

theorem blind_connectionAtOnce :
    BlindCall fun s => connectionAtOnce key s := by
  have hStarted : BlindCall fun s =>
      (s, SocksReplyStatus.succeeded) :=
    Blind.id.pair (fun _ => SocksReplyStatus.succeeded)
      fun _ _ _ => rfl
  unfold connectionAtOnce
  exact .after (f := takeReference key) blind_takeReference
    ((blind_setInterest (fun _ => key.fd)
      (fun _ _ _ => rfl) opRead).cond
    ((blind_register opRead (.socks key.data)).cond hStarted
      (blind_failed .generalSocksServerFailure))
    (blind_failed .generalSocksServerFailure))

theorem blind_attempted :
    Blind fun s => attempted a s :=
  (Blind.note (fun s => .connect (connectAttempt a s))
    (fun _ => rfl) fun _ _ _ => rfl).comp
    (.update (f := fun s => { s with
      srv.metrics.historicConnectionsAttempts :=
        s.srv.metrics.historicConnectionsAttempts + 1 })
      fun _ _ _ => ⟨rfl, rfl⟩)

theorem blind_connection :
    BlindCall fun s => connection key a s := by
  refine .choose fun s => ?_
  cases hAnswer : (connectAttempt a s).answer with
  | inProgress =>
      refine ⟨fun s => connectionInProgress key
          (attempted a s), .after blind_attempted
        blind_connectionInProgress, fun rb log => ?_⟩
      have hAnswer' : (connectAttempt a
        (s.swap rb log)).answer = .inProgress := hAnswer
      unfold connection
      simp only [hAnswer']
  | connected =>
      refine ⟨fun s => connectionAtOnce key (attempted a s),
        .after blind_attempted blind_connectionAtOnce,
        fun rb log => ?_⟩
      have hAnswer' : (connectAttempt a
        (s.swap rb log)).answer = .connected := hAnswer
      unfold connection
      simp only [hAnswer']
  | failed errno =>
      have hRefused : BlindCall fun s =>
          connectionRefused errno s :=
        .after (f := fun s => { s with
            conn.request.status :=
              errnoToSocks (some errno) })
          (.update fun _ _ _ => ⟨rfl, rfl⟩)
          (blind_failed (errnoToSocks (some errno)))
      refine ⟨fun s => connectionRefused errno
          (attempted a s), .after blind_attempted hRefused,
        fun rb log => ?_⟩
      have hAnswer' : (connectAttempt a
        (s.swap rb log)).answer = .failed errno := hAnswer
      unfold connection
      simp only [hAnswer']

theorem blind_withSocket
    (fd : Fd) :
    Blind fun s => withSocket key a fd s :=
  (Blind.update (f := fun s => { s with
      conn.originFd := fd
      srv.sel := s.srv.sel.openFd fd
        (.origin key.data s.conn.originDomain) })
    fun _ _ _ => ⟨rfl, rfl⟩).comp
    (.note (fun _ => .nonblocking a.nio) (fun _ => rfl)
      fun _ _ _ => rfl)

theorem blind_connectingStarted
    (granted : Option Fd) :
    Blind fun s => connectingStarted granted s :=
  (Blind.update (f := fun s => { s with
      conn.connStatus := .succeeded })
    fun _ _ _ => ⟨rfl, rfl⟩).comp
    (.note (fun s => .socket s.conn.originDomain granted)
      (fun _ => rfl) fun _ _ _ => rfl)

/- The socket is open, and the address is tried. -/
theorem blind_connecting
    (key : Key)
    (a : Answers) :
    Blind fun s =>
      if a.nio then
        let connected := connection key a s
        { connected.1 with conn.connStatus := connected.2 }
      else
        connectionFailed s .generalSocksServerFailure := by
  refine .ite (fun _ => a.nio = true) (fun _ _ _ => Iff.rfl)
    ?_ (blind_connectionFailed .generalSocksServerFailure)
  exact (blind_connection.bind (g := fun r s =>
    ({ s with conn.connStatus := r }, ())) fun r =>
      (Blind.update (f := fun s => { s with
          conn.connStatus := r })
        fun _ _ _ => ⟨rfl, rfl⟩).pair
        (fun _ => ()) fun _ _ _ => rfl).fst

theorem blind_connectingInit :
    Blind fun s => connectingInit key a s := by
  refine .choose fun s => ?_
  cases hGrant : s.srv.sel.grant a.socket with
  | none =>
      refine ⟨_, ((blind_connectingStarted none).comp
        (.update (f := fun s => { s with
          conn.originFd := -1 }) fun _ _ _ => ⟨rfl, rfl⟩)).comp
        (blind_connectionFailed .generalSocksServerFailure),
        fun rb log => ?_⟩
      have hGrant' : (s.swap rb log).srv.sel.grant a.socket =
        none := hGrant
      unfold connectingInit
      simp only [hGrant']
  | some fd =>
      have hSocket : Blind fun s => withSocket key a fd s :=
        blind_withSocket fd
      refine ⟨_, ((blind_connectingStarted (some fd)).comp
        hSocket).comp (blind_connecting key a),
        fun rb log => ?_⟩
      have hGrant' : (s.swap rb log).srv.sel.grant a.socket =
        some fd := hGrant
      unfold connectingInit
      simp only [hGrant']

end Connecting

end Socks5d

------------------------------------------------------------
-- After The Connect
------------------------------------------------------------

namespace Socks5d

section Established

variable {key : Key}
variable {a : Answers}

theorem blind_aimNext
    (next : Addrinfo)
    (rest : List Addrinfo) :
    Blind fun s => aimNext next rest s :=
  (Blind.update (f := fun s => { s with
      conn.resolutionCurrent := next :: rest })
    fun _ _ _ => ⟨rfl, rfl⟩).comp
    (.ite (fun _ => next.family = .unspec)
      (fun _ _ _ => Iff.rfl) .id
      (.update (f := fun s => { s with
        conn.originAddr := next.addr }) fun _ _ _ => ⟨rfl, rfl⟩))

/- The next address, after which the state is the same. -/
theorem blind_retryNext
    (key : Key)
    (a : Answers)
    (next : Addrinfo)
    (rest : List Addrinfo) :
    BlindCall fun s =>
      (retryNext key a next rest s, REQUEST_CONNECTING) :=
  ((blind_aimNext next rest).comp
    blind_connection.fst).pair (fun _ => REQUEST_CONNECTING)
    fun _ _ _ => rfl

theorem blind_noteAccess : Blind noteAccess :=
  .note (fun s => .access
    ((s.srv.users.entry s.conn.userIndex).name.getD [])
    s.conn.connStatus) (fun _ => rfl) fun _ _ _ => rfl

theorem blind_connectingFailed
    (status : SocksReplyStatus) :
    BlindCall fun s => connectingFailed s status :=
  (((Blind.update (f := fun s => { s with
      conn.connStatus := status }) fun _ _ _ => ⟨rfl, rfl⟩).comp
    blind_noteAccess).comp
    (blind_errorHandlerToClient status)).pair
    (fun _ => REQUEST_WRITE) fun _ _ _ => rfl

theorem blind_established : Blind established :=
  ((Blind.update (f := fun s => { s with
      srv.metrics := countConnection s.srv.metrics })
    fun _ _ _ => ⟨rfl, rfl⟩).comp blind_noteAccess).comp
    (.update (f := fun s => { s with
      conn.connStatus := .succeeded }) fun _ _ _ => ⟨rfl, rfl⟩)

theorem blind_connectingEstablished
    (key : Key) :
    BlindCall fun s => connectingEstablished key s := by
  have hArmed : BlindCall fun s =>
      let client := s.setInterest s.conn.clientFd opWrite
      let origin := client.1.setInterest key.fd opNoop
      (origin.1,
        if client.2 && origin.2 then REQUEST_WRITE
        else ERROR) :=
    (blind_setInterest (fun s => s.conn.clientFd)
      (fun _ _ _ => rfl) opWrite).bind (g := fun r s =>
        ((s.setInterest key.fd opNoop).1,
          if r && (s.setInterest key.fd opNoop).2 then
            REQUEST_WRITE
          else ERROR)) fun r =>
        (blind_setInterest (fun _ => key.fd)
          (fun _ _ _ => rfl) opNoop).bind (g := fun r' s =>
            (s, if r && r' then REQUEST_WRITE else ERROR))
          fun r' => blind_return (fun _ =>
            if r && r' then REQUEST_WRITE else ERROR)
            fun _ _ _ => rfl
  unfold connectingEstablished
  exact .after (f := established) blind_established
    ((blind_requestMarshall .succeeded).cond hArmed
      (blind_return (fun _ => ERROR) fun _ _ _ => rfl))

theorem blind_dropOrigin : Blind dropOrigin :=
  .update fun _ _ _ => ⟨rfl, rfl⟩

theorem blind_connectingWriteFailed :
    BlindCall fun s => connectingWriteFailed key a s := by
  refine .choose fun s => ?_
  cases hNext : nextAddresses s with
  | cons next rest =>
      refine ⟨_, blind_retryNext key a next rest,
        fun rb log => ?_⟩
      have hNext' : nextAddresses (s.swap rb log) =
          next :: rest := hNext
      unfold connectingWriteFailed
      rw [hNext']
  | nil =>
      refine ⟨fun t => (errorHandlerToClient (dropOrigin t)
        s.conn.connStatus, REQUEST_WRITE),
        (blind_dropOrigin.comp (blind_errorHandlerToClient
          s.conn.connStatus)).pair (fun _ => REQUEST_WRITE)
          fun _ _ _ => rfl, fun rb log => ?_⟩
      have hNext' : nextAddresses (s.swap rb log) = [] :=
        hNext
      unfold connectingWriteFailed
      rw [hNext']
      rfl

/- `SO_ERROR` has been read. -/
theorem blind_soError
    (a : Answers) :
    Blind fun s => s.note (.soError a.soError
      (nextAddresses s).length) :=
  .note (fun s => .soError a.soError (nextAddresses s).length)
    (fun _ => rfl) fun _ _ _ => rfl

theorem blind_connectingWrite :
    BlindCall fun s => connectingWrite key a s := by
  refine .choose fun s => ?_
  by_cases hStatus : s.conn.connStatus ≠ .succeeded
  · exact ⟨_, blind_connectingWriteFailed,
      fun rb log => if_pos hStatus⟩
  cases hError : a.soError with
  | none =>
      refine ⟨_, .after (blind_soError a) (blind_connectingFailed
        .generalSocksServerFailure), fun rb log => ?_⟩
      refine (if_neg hStatus).trans ?_
      simp only [hError]
  | some result =>
      cases result with
      | none =>
          refine ⟨_, .after (blind_soError a)
            (blind_connectingEstablished key),
            fun rb log => ?_⟩
          refine (if_neg hStatus).trans ?_
          simp only [hError]
      | some errno =>
          cases hNext : nextAddresses s with
          | nil =>
              refine ⟨_, .after (blind_soError a)
                (blind_connectingFailed
                  (errnoToSocks (some errno))),
                fun rb log => ?_⟩
              refine (if_neg hStatus).trans ?_
              have hNext' : nextAddresses ((s.swap rb
                  log).note (.soError a.soError
                    (nextAddresses (s.swap rb
                      log)).length)) = [] := hNext
              simp only [hError] at hNext' ⊢
              rw [hNext']
          | cons next rest =>
              refine ⟨_, .after (blind_soError a) (.after
                (f := fun s => { s with conn.connStatus :=
                  (errnoToSocks (some errno)) })
                (.update fun _ _ _ => ⟨rfl, rfl⟩)
                (blind_retryNext key a next rest)),
                fun rb log => ?_⟩
              refine (if_neg hStatus).trans ?_
              have hNext' : nextAddresses ((s.swap rb
                  log).note (.soError a.soError
                    (nextAddresses (s.swap rb
                      log)).length)) = next :: rest := hNext
              simp only [hError] at hNext' ⊢
              rw [hNext']

theorem blind_connectingClose :
    Blind fun s => connectingClose key s :=
  .update fun _ _ _ => ⟨rfl, rfl⟩

end Established

theorem doneFd_swap
    (fd : Fd)
    (s : St)
    (rb : Buffer rawBuffSize)
    (log : List Ev) :
    doneFd fd (s.swap rb log) =
      (doneFd fd s).swap rb log := by
  unfold doneFd
  by_cases hNone : fd = -1
  · rw [if_pos hNone, if_pos hNone]
  · rw [if_neg hNone, if_neg hNone]
    cases hSet : (unregisterFd s.srv fd).2 with
    | true =>
        have hSet' : (unregisterFd (s.swap rb log).srv
            fd).2 = true := hSet
        simp only [hSet, hSet', if_true]
        rfl
    | false =>
        have hSet' : (unregisterFd (s.swap rb log).srv
            fd).2 = false := hSet
        simp only [hSet, hSet', Bool.false_eq_true, if_false]
        rfl

theorem blind_socksv5Done : Blind socksv5Done := by
  refine .update fun s rb log =>
    ⟨?_, congrArg Conn.current (socksv5Done_conn s)⟩
  show doneFd s.conn.originFd
    (doneFd s.conn.clientFd (s.swap rb log)) = _
  rw [doneFd_swap, doneFd_swap]
  rfl

end Socks5d

------------------------------------------------------------
-- The State Machine
------------------------------------------------------------

namespace Socks5d

section Machine

variable {key : Key}
variable {a : Answers}
variable {next : Nat}

theorem blind_helloReadInit :
    Blind fun s => helloReadInit key a s := by
  unfold helloReadInit
  split
  · exact (Blind.update (f := fun s => { s with conn.hello :=
      { parser := {
          version :=
            if s.conn.isSocks then socksVersion
            else mngVersion
          method :=
            if s.conn.isSocks then s.srv.authMethod
            else mngAuthMethod
          data := 0xFF } } }) fun _ _ _ => ⟨rfl, rfl⟩).comp
      (.note (fun s => .helloInit s.srv.authMethod)
        (fun _ => rfl) fun _ _ _ => rfl)
  · exact (Blind.update (f := fun s => { s with conn.hello :=
        { parser := { data := 0xFF }, failed := true } })
      fun _ _ _ => ⟨rfl, rfl⟩).comp (blind_outOfMemory .hello)

/- The `on_arrival` of every state but `COPY`. -/
theorem blind_onArrival
    {onArrival : Key → Answers → St → St}
    (hCopy : next ≠ COPY)
    (hSome : (clientStatbl next).onArrival =
      some onArrival) :
    Blind fun s => onArrival key a s := by
  unfold clientStatbl at hSome
  split at hSome
  · cases hSome
    exact blind_helloReadInit
  · nomatch hSome
  · cases hSome
    exact blind_authReadInit
  · nomatch hSome
  · cases hSome
    exact blind_requestInit
  · nomatch hSome
  · cases hSome
    exact blind_connectingInit
  · nomatch hSome
  · exact absurd rfl hCopy
  · nomatch hSome

theorem blind_enter
    (hCopy : next ≠ COPY) :
    Blind fun s => entered next s := fun _ =>
  ⟨Or.inr ⟨next, hCopy, rfl⟩, [.enter next], .single rfl,
    fun _ _ => rfl⟩

theorem blind_arrive
    (hCopy : next ≠ COPY) :
    Blind fun s => arrive clientStatbl next key a s := by
  cases hArrival : (clientStatbl next).onArrival with
  | none =>
      have hEq : (fun s => arrive clientStatbl next key a s) =
          fun s => entered next s := by
        funext s
        unfold arrive
        simp only [hArrival]
        rfl
      rw [hEq]
      exact blind_enter hCopy
  | some onArrival =>
      have hEq : (fun s => arrive clientStatbl next key a s) =
          fun s => onArrival key a (entered next s) := by
        funext s
        unfold arrive
        simp only [hArrival]
        rfl
      rw [hEq]
      exact (blind_enter hCopy).comp
        (blind_onArrival hCopy hArrival)

theorem blind_onDeparture
    {current : Nat}
    {onDeparture : Key → St → St}
    (hSome : (clientStatbl current).onDeparture =
      some onDeparture) :
    Blind fun s => onDeparture key s := by
  unfold clientStatbl at hSome
  split at hSome
  · nomatch hSome
  · nomatch hSome
  · cases hSome
    exact blind_authReadClose
  · nomatch hSome
  · cases hSome
    exact blind_requestClose
  · nomatch hSome
  · cases hSome
    exact blind_connectingClose
  · nomatch hSome
  · nomatch hSome
  · nomatch hSome

theorem blind_depart :
    Blind fun s => depart clientStatbl key s := by
  refine .choose fun s => ?_
  cases hSome : s.conn.current.bind fun state =>
      (clientStatbl state).onDeparture with
  | none =>
      refine ⟨_, .id, fun rb log => ?_⟩
      have hSome' : ((s.swap rb log).conn.current.bind
          fun state => (clientStatbl state).onDeparture) =
        none := hSome
      unfold depart
      simp only [hSome']
  | some onDeparture =>
      rcases Option.bind_eq_some_iff.mp hSome with
        ⟨state, _, hState⟩
      refine ⟨fun s => onDeparture key s,
        blind_onDeparture hState, fun rb log => ?_⟩
      have hSome' : ((s.swap rb log).conn.current.bind
          fun state => (clientStatbl state).onDeparture) =
        some onDeparture := hSome
      unfold depart
      simp only [hSome']

theorem blind_jump
    (hCopy : next ≠ COPY) :
    Blind fun s => jump clientStatbl next key a s :=
  .ite (fun s => next > s.conn.maxState)
    (fun _ _ _ => Iff.rfl) (blind_crash .abort)
    (.ite (fun s => s.conn.current = some next)
      (fun _ _ _ => Iff.rfl) .id
      (blind_depart.comp (blind_arrive hCopy)))

/- The end of an event, after its handler has returned. -/
def finish
    (key : Key)
    (a : Answers)
    (r : St × Nat) : St :=
  if r.2 = ERROR ∨ r.2 = DONE then
    socksv5Done (jump clientStatbl r.2 key a r.1)
  else jump clientStatbl r.2 key a r.1

theorem blind_finish
    (hCopy : next ≠ COPY) :
    Blind fun s => finish key a (s, next) :=
  .ite (fun _ => next = ERROR ∨ next = DONE)
    (fun _ _ _ => Iff.rfl)
    ((blind_jump hCopy).comp blind_socksv5Done)
    (blind_jump hCopy)

theorem blind_handleFirst :
    Blind fun s => handleFirst clientStatbl key a s :=
  .ite (fun s => s.conn.current = none)
    (fun _ _ _ => Iff.rfl) (blind_arrive (by decide)) .id

/- An event is its handler, the jump and the end. -/
theorem socksv5Event_eq
    {ready : StateDefinition → Option Handler}
    {handler : Handler}
    {s : St}
    {state : Nat}
    (hState : s.conn.current = some state)
    (hReady : ready (clientStatbl state) = some handler) :
    socksv5Event ready key a s =
      finish key a (handler key a s) := by
  have hFirst : handleFirst clientStatbl key a s = s := by
    unfold handleFirst
    rw [hState]
    exact if_neg (fun hBad => nomatch hBad)
  unfold socksv5Event stmHandler
  simp only [hFirst, hState, Option.getD_some, hReady]
  rfl

/- What `recv` would return is not asked for again. -/
theorem onArrival_recv
    {onArrival : Key → Answers → St → St}
    (hSome : (clientStatbl next).onArrival = some onArrival)
    (chunk : Option (List UInt8))
    (s : St) :
    onArrival key { a with recv := chunk } s =
      onArrival key a s := by
  unfold clientStatbl at hSome
  split at hSome
  · cases hSome
    rfl
  · nomatch hSome
  · cases hSome
    rfl
  · nomatch hSome
  · cases hSome
    rfl
  · nomatch hSome
  · cases hSome
    rfl
  · nomatch hSome
  · cases hSome
    rfl
  · nomatch hSome

theorem arrive_recv
    (chunk : Option (List UInt8))
    (s : St) :
    arrive clientStatbl next key { a with recv := chunk } s =
      arrive clientStatbl next key a s := by
  unfold arrive
  cases hArrival : (clientStatbl next).onArrival with
  | none => rfl
  | some onArrival => exact onArrival_recv hArrival chunk _

theorem finish_recv
    (chunk : Option (List UInt8))
    (r : St × Nat) :
    finish key { a with recv := chunk } r =
      finish key a r := by
  unfold finish jump
  simp only [arrive_recv]

theorem handleFirst_recv
    (chunk : Option (List UInt8))
    (s : St) :
    handleFirst clientStatbl key { a with recv := chunk } s =
      handleFirst clientStatbl key a s := by
  unfold handleFirst
  simp only [arrive_recv]

end Machine

end Socks5d

------------------------------------------------------------
-- Resolving And Sending
------------------------------------------------------------

namespace Socks5d

section Waiting

variable {key : Key}
variable {a : Answers}
variable {state : Nat}
variable {handler : Handler}

theorem blind_takeAddress
    (address : Addrinfo) :
    Blind fun s => takeAddress address s := by
  unfold takeAddress
  cases address.family with
  | inet => exact .update fun _ _ _ => ⟨rfl, rfl⟩
  | inet6 => exact .update fun _ _ _ => ⟨rfl, rfl⟩
  | unspec => exact .id

theorem blind_requestResolvDone :
    BlindCall fun s => requestResolvDone key a s := by
  have hNoted : Blind fun s =>
      s.note (.resolved s.conn.originResolution) :=
    .note (fun s => .resolved s.conn.originResolution)
      (fun _ => rfl) fun _ _ _ => rfl
  refine .choose fun s => ?_
  cases hList : s.conn.originResolution with
  | nil =>
      refine ⟨_, .after hNoted (.after (Blind.update
        (f := fun s => { s with
          conn.connStatus := .generalSocksServerFailure })
        fun _ _ _ => ⟨rfl, rfl⟩)
        (blind_refused key .generalSocksServerFailure)),
        fun rb log => ?_⟩
      have hList' : (s.swap rb log).conn.originResolution =
        [] := hList
      unfold requestResolvDone St.note
      simp only [hList']
  | cons first rest =>
      refine ⟨_, .after hNoted (((Blind.update
        (f := fun s => { s with
          conn.resolutionCurrent := first :: rest })
        fun _ _ _ => ⟨rfl, rfl⟩).comp
        (blind_takeAddress first)).pair
          (fun _ => REQUEST_CONNECTING) fun _ _ _ => rfl),
        fun rb log => ?_⟩
      have hList' : (s.swap rb log).conn.originResolution =
        first :: rest := hList
      unfold requestResolvDone St.note
      simp only [hList']

/- The `on_write_ready` of every state but `COPY`. -/
theorem blind_onWriteReady
    (hCopy : state ≠ COPY)
    (hSome : (clientStatbl state).onWriteReady =
      some handler) :
    BlindCall fun s => handler key a s := by
  unfold clientStatbl at hSome
  split at hSome
  · nomatch hSome
  · cases hSome
    exact blind_helloWrite
  · nomatch hSome
  · cases hSome
    exact blind_authWrite
  · nomatch hSome
  · nomatch hSome
  · cases hSome
    exact blind_connectingWrite
  · cases hSome
    exact blind_requestWrite
  · exact absurd rfl hCopy
  · nomatch hSome

theorem blind_onBlockReady
    (hSome : (clientStatbl state).onBlockReady =
      some handler) :
    BlindCall fun s => handler key a s := by
  unfold clientStatbl at hSome
  split at hSome
  · nomatch hSome
  · nomatch hSome
  · nomatch hSome
  · nomatch hSome
  · nomatch hSome
  · cases hSome
    exact blind_requestResolvDone
  · nomatch hSome
  · nomatch hSome
  · nomatch hSome
  · nomatch hSome

/- An event that its state does not expect. -/
theorem socksv5Event_none
    {ready : StateDefinition → Option Handler}
    {s : St}
    (hState : s.conn.current = some state)
    (hReady : ready (clientStatbl state) = none) :
    socksv5Event ready key a s = s.crash .abort := by
  have hFirst : handleFirst clientStatbl key a s = s := by
    unfold handleFirst
    rw [hState]
    exact if_neg (fun hBad => nomatch hBad)
  unfold socksv5Event stmHandler
  simp only [hFirst, hState, Option.getD_some, hReady]
  rfl

end Waiting

end Socks5d

------------------------------------------------------------
-- States That Agree
------------------------------------------------------------

namespace Socks5d

/-
  Two states that differ in the read buffer and the history
  only, and the histories tell the same of replies and calls
  of `connect`.
-/
structure Alike (s t : St) : Prop where
  same : t = s.swap t.conn.readBuffer t.conn.log
  sent : bytesTo .client t.conn.log =
    bytesTo .client s.conn.log
  tries : t.conn.tries = s.conn.tries

/- The outcome of a handshake, as a client can tell it. -/
structure SameOutcome (s t : St) : Prop where
  current : t.conn.current = s.conn.current
  sent : bytesTo .client t.conn.log =
    bytesTo .client s.conn.log
  tries : t.conn.tries = s.conn.tries
  threads : t.srv.threads = s.srv.threads

section Agreeing

variable {key : Key}
variable {a : Answers}
variable {s t : St}
variable {f : St → St}
variable {h : St → St × Nat}

theorem St.swap_self
    (s : St) : s.swap s.conn.readBuffer s.conn.log = s := rfl

theorem Alike.refl
    (s : St) : Alike s s := ⟨rfl, rfl, rfl⟩

theorem Alike.srv
    (h : Alike s t) : t.srv = s.srv := by
  rw [h.same]
  rfl

theorem Alike.current
    (h : Alike s t) : t.conn.current = s.conn.current := by
  rw [h.same]
  rfl

theorem Alike.clientFd
    (h : Alike s t) : t.conn.clientFd = s.conn.clientFd := by
  rw [h.same]
  rfl

theorem Alike.outcome
    (h : Alike s t) : SameOutcome s t :=
  ⟨h.current, h.sent, h.tries, by rw [h.srv]⟩

/- What a blind call keeps of its own state. -/
theorem BlindCall.keeps
    (hh : BlindCall h)
    (s : St) :
    (h s).1.conn.readBuffer = s.conn.readBuffer ∧
      bytesFrom .client (h s).1.conn.log =
        bytesFrom .client s.conn.log := by
  rcases hh s with ⟨_, more, hMore, hSame⟩
  have hSelf := hSame s.conn.readBuffer s.conn.log
  rw [St.swap_self] at hSelf
  have hState := congrArg Prod.fst hSelf
  dsimp only at hState
  rw [hState]
  refine ⟨rfl, ?_⟩
  show bytesFrom .client (s.conn.log ++ more) = _
  rw [bytesFrom_append, hMore, List.append_nil]

theorem BlindCall.alike
    (hh : BlindCall h)
    (hAlike : Alike s t) :
    Alike (h s).1 (h t).1 ∧ (h t).2 = (h s).2 := by
  rcases hh s with ⟨_, more, _, hSame⟩
  have hSelf := hSame s.conn.readBuffer s.conn.log
  rw [St.swap_self] at hSelf
  have hThere := hSame t.conn.readBuffer t.conn.log
  rw [← hAlike.same] at hThere
  have hLog : (h s).1.conn.log = s.conn.log ++ more := by
    have hState := congrArg (fun r => r.1.conn.log) hSelf
    exact hState
  rw [hThere]
  refine ⟨⟨rfl, ?_, ?_⟩, rfl⟩
  · show bytesTo .client (t.conn.log ++ more) = _
    rw [hLog, bytesTo_append, bytesTo_append, hAlike.sent]
  · have hTries := hAlike.tries
    unfold Conn.tries at hTries ⊢
    show (t.conn.log ++ more).filterMap _ = _
    rw [hLog, List.filterMap_append, List.filterMap_append,
      hTries]

theorem Blind.call
    (hf : Blind f) : BlindCall fun s => (f s, 0) :=
  hf.pair (fun _ => 0) fun _ _ _ => rfl

theorem Blind.alike
    (hf : Blind f)
    (hAlike : Alike s t) : Alike (f s) (f t) :=
  (hf.call.alike hAlike).1

theorem Blind.keeps
    (hf : Blind f)
    (s : St) :
    (f s).conn.readBuffer = s.conn.readBuffer ∧
      bytesFrom .client (f s).conn.log =
        bytesFrom .client s.conn.log :=
  hf.call.keeps s

/- New interests are nothing to a connection. -/
theorem copyComputeInterests_conn
    (side : Side)
    (s : St) :
    (copyComputeInterests side s).conn = s.conn ∧
      (copyComputeInterests side s).srv.threads =
        s.srv.threads := by
  unfold copyComputeInterests
  dsimp only
  split
  · split
    · exact ⟨rfl, rfl⟩
    · exact ⟨rfl, rfl⟩
  · exact ⟨rfl, rfl⟩

/- Entering `COPY` sets up the two ends. -/
theorem copyInit_conn
    (key : Key)
    (a : Answers)
    (s : St) :
    (copyInit key a s).conn = copyStart s.conn ∧
      (copyInit key a s).srv.threads = s.srv.threads := by
  have hFirst := copyComputeInterests_conn .origin
    { s with conn := copyStart s.conn }
  have hSecond := copyComputeInterests_conn .client
    (copyComputeInterests .origin
      { s with conn := copyStart s.conn })
  exact ⟨hSecond.1.trans hFirst.1,
    hSecond.2.trans hFirst.2⟩

end Agreeing

end Socks5d

------------------------------------------------------------
-- Events Side By Side
------------------------------------------------------------

namespace Socks5d

/- In `COPY`, with both ends read and written. -/
structure St.Relays (s : St) : Prop where
  current : s.conn.current = some COPY
  both : ∀ side, (s.conn.copySt side).interest = opReadWrite

/-
  What an event leaves of two states that agree: they agree
  and keep their read buffers, or both have entered `COPY`.
-/
inductive Together (s t u v : St) : Prop where
  | alike
      (hAlike : Alike u v)
      (hGoesOn : GoesOn s u)
      (hFirst : u.conn.readBuffer = s.conn.readBuffer)
      (hSecond : v.conn.readBuffer = t.conn.readBuffer)
  | relaying
      (hOutcome : SameOutcome u v)
      (hFirst : u.Relays)
      (hSecond : v.Relays)

section Finishing

variable {key : Key}
variable {a : Answers}
variable {s t : St}
variable {h : St → St × Nat}

theorem GoesOn.not_copy
    (h : GoesOn s t)
    (hNot : s.conn.current ≠ some COPY) :
    t.conn.current ≠ some COPY := by
  rcases h with hSame | ⟨state, hOther, hState⟩
  · rw [hSame]
    exact hNot
  · rw [hState]
    exact fun hBad => hOther (Option.some.inj hBad)

theorem GoesOn.not_none
    (h : GoesOn s t)
    (hNot : s.conn.current ≠ none) :
    t.conn.current ≠ none := by
  rcases h with hSame | ⟨state, hOther, hState⟩
  · rw [hSame]
    exact hNot
  · rw [hState]
    exact Option.some_ne_none state

/- A jump to `COPY` enters it. -/
theorem finish_copy
    (key : Key)
    (a : Answers)
    (hNot : s.conn.current ≠ some COPY) :
    finish key a (s, COPY) =
      copyInit key a
        (entered COPY (depart clientStatbl key s)) := by
  have hEnd : ¬ (COPY = ERROR ∨ COPY = DONE) := by decide
  have hMax : ¬ COPY > s.conn.maxState := by
    unfold Conn.maxState
    split
    · decide
    · decide
  unfold finish
  dsimp only
  rw [if_neg hEnd]
  unfold jump
  rw [if_neg hMax, if_neg hNot]
  rfl

theorem Alike.enter
    (h : Alike s t)
    (next : Nat) :
    Alike (entered next s) (entered next t) where
  same := by
    rw [h.same]
    rfl
  sent := by
    show bytesTo .client (t.conn.log ++ [.enter next]) =
      bytesTo .client (s.conn.log ++ [.enter next])
    rw [bytesTo_append, bytesTo_append, h.sent]
  tries := by
    have hTries := h.tries
    unfold Conn.tries at hTries ⊢
    show (t.conn.log ++ [Ev.enter next]).filterMap _ =
      (s.conn.log ++ [Ev.enter next]).filterMap _
    rw [List.filterMap_append, List.filterMap_append, hTries]

theorem finish_relays
    (key : Key)
    (a : Answers)
    (hNot : s.conn.current ≠ some COPY) :
    (finish key a (s, COPY)).Relays := by
  rw [finish_copy key a hNot]
  refine ⟨?_, ?_⟩
  · rw [(copyInit_conn key a _).1]
    rfl
  · intro side
    rw [(copyInit_conn key a _).1]
    cases side with
    | client => rfl
    | origin => rfl

theorem finish_copies
    (key : Key)
    (a : Answers)
    (hAlike : Alike s t)
    (hNot : s.conn.current ≠ some COPY) :
    SameOutcome (finish key a (s, COPY))
      (finish key a (t, COPY)) := by
  have hNot' : t.conn.current ≠ some COPY := by
    rw [hAlike.current]
    exact hNot
  rw [finish_copy key a hNot, finish_copy key a hNot']
  have hEntered :=
    (blind_depart.alike (f := fun s =>
      depart clientStatbl key s) hAlike).enter COPY
  rcases copyInit_conn key a
    (entered COPY (depart clientStatbl key s)) with
    ⟨hConn, hThreads⟩
  rcases copyInit_conn key a
    (entered COPY (depart clientStatbl key t)) with
    ⟨hConn', hThreads'⟩
  refine ⟨?_, ?_, ?_, ?_⟩
  · rw [hConn, hConn']
    exact hEntered.current
  · rw [hConn, hConn']
    exact hEntered.sent
  · rw [hConn, hConn']
    exact hEntered.tries
  · rw [hThreads, hThreads', hEntered.srv]

/- An event whose handler is blind. -/
theorem BlindCall.together
    (hh : BlindCall h)
    (hAlike : Alike s t)
    (hNot : s.conn.current ≠ some COPY) :
    Together s t (finish key a (h s))
      (finish key a (h t)) := by
  rcases hh.alike hAlike with ⟨hBoth, hNext⟩
  have hGoesOn : GoesOn s (h s).1 := (hh s).1
  have hFirst := (hh.keeps s).1
  have hSecond := (hh.keeps t).1
  have hSplit : h t = ((h t).1, (h s).2) := by
    rw [← hNext]
  rw [hSplit]
  show Together s t (finish key a ((h s).1, (h s).2)) _
  by_cases hCopy : (h s).2 = COPY
  · rw [hCopy]
    have hThere := hGoesOn.not_copy hNot
    have hThere' : (h t).1.conn.current ≠ some COPY := by
      rw [hBoth.current]
      exact hThere
    exact .relaying (finish_copies key a hBoth hThere)
      (finish_relays key a hThere)
      (finish_relays key a hThere')
  · have hBlind : Blind fun u =>
        finish key a (u, (h s).2) := blind_finish hCopy
    exact .alike (hBlind.alike hBoth)
      (hGoesOn.trans (hBlind _).1)
      ((hBlind.keeps _).1.trans hFirst)
      ((hBlind.keeps _).1.trans hSecond)

end Finishing

end Socks5d
