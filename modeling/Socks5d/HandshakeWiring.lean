import Socks5d.Wiring

/-
  The handlers before the connection to the origin: what they
  leave for the next state.

  Main declarations:
    * `socks_helloRead`, `socks_helloWrite`
    * `socks_authRead`, `socks_authWrite`
    * `socks_requestRead`, `socks_requestResolvDone`
-/

------------------------------------------------------------
-- The Offer Of A Hello
------------------------------------------------------------

namespace Socks5d

/- Feeding keeps the method that is looked for. -/
theorem helloParserFeed_method
    (p : HelloParser)
    (b : UInt8) :
    (helloParserFeed p b).method = p.method := by
  unfold helloParserFeed onHelloMethod
  cases p.state with
  | version => simp only []; split <;> rfl
  | nmethods => rfl
  | methods => simp only []; split <;> rfl
  | done => rfl
  | errorUnsupportedVersion => rfl

theorem HelloParser.Offers.feed
    {p : HelloParser}
    (h : p.Offers)
    (b : UInt8) :
    (helloParserFeed p b).Offers := by
  rcases h with ⟨hMethod, hData⟩
  refine ⟨by rw [helloParserFeed_method]; exact hMethod, ?_⟩
  rw [helloParserFeed_method]
  unfold helloParserFeed onHelloMethod
  cases p.state with
  | version => simp only []; split <;> exact hData
  | nmethods => exact hData
  | methods =>
      simp only []
      split
      · rename_i hFound
        exact Or.inr hFound.symm
      · exact hData
  | done => exact hData
  | errorUnsupportedVersion => exact hData

/- A hello that has been fed offers what it did before. -/
theorem helloFed_feeds
    (key : Key)
    (bytes : List UInt8)
    (s : St) :
    (helloFed key bytes s).conn.hello.parser =
      (HelloParser.reader.consume s.conn.hello.parser
        (s.conn.readBuffer.writeAdv bytes).pending).1 :=
  (Buffer.feed_eq _ _ _).1

theorem helloFed_offers
    (key : Key)
    (bytes : List UInt8)
    {s : St}
    (h : s.conn.hello.parser.Offers) :
    (helloFed key bytes s).conn.hello.parser.Offers := by
  rw [helloFed_feeds]
  exact HelloParser.reader.consume_invariant
    (P := HelloParser.Offers)
    (fun p b hOffer => hOffer.feed b) h _

theorem helloFed_method
    (key : Key)
    (bytes : List UInt8)
    (s : St) :
    (helloFed key bytes s).conn.hello.parser.method =
      s.conn.hello.parser.method := by
  rw [helloFed_feeds]
  exact HelloParser.reader.consume_invariant
    (P := fun p => p.method = s.conn.hello.parser.method)
    (fun p b hSame => (helloParserFeed_method p b).trans
      hSame) rfl _

/- The method found is one that `hello_write` knows. -/
theorem HelloParser.Offers.known
    {c : Conn}
    (h : c.hello.parser.Offers) :
    c.hello.method = methodNoAcceptableMethods ∨
      c.hello.method = methodUsernamePassword ∨
      c.hello.method = methodNoAuthenticationRequired := by
  rcases h with ⟨hMethod, hNone | hFound⟩
  · exact Or.inl hNone
  · right
    rcases hMethod with hOpen | hUser
    · exact Or.inr (hFound.trans hOpen)
    · exact Or.inl (hFound.trans hUser)

end Socks5d

------------------------------------------------------------
-- Hello
------------------------------------------------------------

namespace Socks5d

section Steps

variable {k : ConnId}
variable {s t : St}
variable {interest : Interest}
variable {attached : Attachment}

theorem note_handled
    (hOwns : Owns k s.srv.sel s.conn)
    (event : Ev) :
    Handled k s (s.note event) :=
  (Handled.refl hOwns).of_eq rfl rfl rfl rfl id

theorem helloFed_handled
    (hOwns : Owns k s.srv.sel s.conn)
    (key : Key)
    (bytes : List UInt8) :
    Handled k s (helloFed key bytes s) :=
  (Handled.refl hOwns).of_eq rfl rfl rfl rfl id

theorem sendPending_handled
    (hOwns : Owns k s.srv.sel s.conn)
    (key : Key)
    (n : Nat) :
    Handled k s (sendPending key n s) :=
  (Handled.refl hOwns).of_eq rfl rfl rfl rfl id

/- The client is armed after a change that moved nothing. -/
theorem armed_handled
    (h : Handled k s t)
    (hSound : s.srv.sel.Sound)
    (hSel : t.srv.sel = s.srv.sel)
    (hClient : s.srv.sel.Has s.conn.clientFd interest
      attached)
    (wanted : Interest) :
    Handled k s (t.arm s.conn.clientFd wanted attached) ∧
      (t.arm s.conn.clientFd wanted attached).srv.sel.Has
        s.conn.clientFd wanted attached := by
  constructor
  · rw [← h.client]
    apply h.arm_client hSound
    rw [h.client, hSel]
    exact hClient
  · exact Selector.Has.put_self hClient.1 _

/- The one slot of a connection without an origin. -/
theorem slotted_alone
    {c : Conn}
    {sel : Selector}
    (hOrigin : c.originFd = -1)
    (hClient : sel.Has c.clientFd interest attached) :
    c.Slotted attached sel := by
  intro side hFd
  cases side with
  | client => exact ⟨interest, hClient⟩
  | origin => exact absurd hOrigin hFd

/- A handler before the request ends the connection. -/
theorem SocksHeading.over_alone
    {c : Conn}
    {sel : Selector}
    {state next : Nat}
    (hNext : next = DONE ∨ next = ERROR)
    (hState : c.current = some state)
    (hBefore : state < REQUEST_READ)
    (hOrigin : c.originFd = -1)
    (hClient : sel.Has c.clientFd interest (.socks k)) :
    SocksHeading k sel c next := by
  refine .ends next hNext ?_ ?_
    (slotted_alone hOrigin hClient)
  · rw [hState]
    constructor
    · intro hEq
      rw [Option.some.inj hEq] at hBefore
      exact absurd hBefore (by decide)
    · intro hEq
      rw [Option.some.inj hEq] at hBefore
      exact absurd hBefore (by decide)
  · rw [hState]
    intro hEq
    rw [Option.some.inj hEq] at hBefore
    exact absurd hBefore (by decide)

theorem MngHeading.over_client
    {c : Conn}
    {sel : Selector}
    {state next : Nat}
    (hNext : next = MNG_DONE ∨ next = MNG_ERROR)
    (hState : c.current = some state)
    (hBefore : state < MNG_DONE)
    (hClient : sel.Has c.clientFd interest (.mng k)) :
    MngHeading k sel c next := by
  refine .ends next hNext ?_ interest hClient
  rw [hState]
  constructor
  · intro hEq
    rw [Option.some.inj hEq] at hBefore
    exact absurd hBefore (by decide)
  · intro hEq
    rw [Option.some.inj hEq] at hBefore
    exact absurd hBefore (by decide)

end Steps

section Hello

variable {k : ConnId}
variable {s : St}

theorem socks_helloRead
    (hSound : s.srv.sel.Sound)
    (hOwns : Owns k s.srv.sel s.conn)
    (hSocks : s.conn.isSocks = true)
    (hState : s.conn.current = some HELLO_READ)
    (hOrigin : s.conn.originFd = -1)
    (hClient : s.srv.sel.Has s.conn.clientFd opRead
      (.socks k))
    (hHello : s.conn.hello.parser.Offers)
    {data : ConnId}
    {a : Answers}
    {r : St × Nat}
    (hRead : HelloRead ⟨s.conn.clientFd, data⟩ a s (.socks k)
      r) :
    Handled k s r.1 ∧
      SocksHeading k r.1.srv.sel r.1.conn r.2 := by
  have hError : s.conn.errorState = ERROR := by
    simp [Conn.errorState, hSocks]
  cases hRead with
  | failed hFailed =>
      rw [hError]
      exact ⟨.refl hOwns, .over_alone (Or.inr rfl) hState
        (by decide) hOrigin hClient⟩
  | ended hBytes =>
      rw [hError]
      exact ⟨note_handled hOwns _, .over_alone (Or.inr rfl)
        hState (by decide) hOrigin hClient⟩
  | more bytes hBytes hSome hGoing =>
      refine ⟨helloFed_handled hOwns _ bytes, ?_⟩
      exact .stay HELLO_READ hState (by decide)
        (.helloRead hState hOrigin hClient
          (helloFed_offers _ bytes hHello))
  | refused bytes hBytes wb =>
      have hFed := helloFed_handled hOwns
        ⟨s.conn.clientFd, data⟩ bytes
      have hArmed := armed_handled hFed hSound rfl hClient
        opWrite
      rw [hError]
      exact ⟨hArmed.1.of_eq rfl rfl rfl rfl id,
        .over_alone (Or.inr rfl) hState (by decide) hOrigin
          hArmed.2⟩
  | answered bytes hBytes hSome hDone hRoom =>
      have hFed := helloFed_handled hOwns
        ⟨s.conn.clientFd, data⟩ bytes
      have hArmed := armed_handled hFed hSound rfl hClient
        opWrite
      exact ⟨hArmed.1.of_eq rfl rfl rfl rfl id,
        .helloWrite hState hOrigin hArmed.2
          (helloFed_offers ⟨s.conn.clientFd, data⟩ bytes
            hHello)⟩

theorem socks_helloWrite
    (hSound : s.srv.sel.Sound)
    (hOwns : Owns k s.srv.sel s.conn)
    (hSocks : s.conn.isSocks = true)
    (hState : s.conn.current = some HELLO_WRITE)
    (hOrigin : s.conn.originFd = -1)
    (hClient : s.srv.sel.Has s.conn.clientFd opWrite
      (.socks k))
    (hHello : s.conn.hello.parser.Offers)
    {data : ConnId}
    {a : Answers}
    {r : St × Nat}
    (hWrite : HelloWrite ⟨s.conn.clientFd, data⟩ a s
      (.socks k) r) :
    Handled k s r.1 ∧
      SocksHeading k r.1.srv.sel r.1.conn r.2 := by
  cases hWrite with
  | failed hSend =>
      rw [show s.conn.errorState = ERROR by
        simp [Conn.errorState, hSocks]]
      exact ⟨note_handled hOwns _, .over_alone (Or.inr rfl)
        hState (by decide) hOrigin hClient⟩
  | more n hSend hLeft =>
      refine ⟨sendPending_handled hOwns _ n, ?_⟩
      exact .stay HELLO_WRITE hState (by decide)
        (.helloWrite hState hOrigin hClient hHello)
  | refused n hSend hSent hMethod =>
      rw [show s.conn.doneState = DONE by
        simp [Conn.doneState, hSocks]]
      exact ⟨sendPending_handled hOwns _ n, .over_alone
        (Or.inl rfl) hState (by decide) hOrigin hClient⟩
  | userpass n hSend hSent hMethod =>
      have hFed := sendPending_handled hOwns
        ⟨s.conn.clientFd, data⟩ n
      have hArmed := armed_handled hFed hSound rfl hClient
        opRead
      exact ⟨hArmed.1, .userpassRead hState hOrigin hArmed.2⟩
  | request n hSend hSent hMethod =>
      have hFed := sendPending_handled hOwns
        ⟨s.conn.clientFd, data⟩ n
      have hArmed := armed_handled hFed hSound rfl hClient
        opRead
      exact ⟨hArmed.1, .requestRead (Or.inl hState) hOrigin
        hArmed.2⟩

end Hello

end Socks5d

------------------------------------------------------------
-- User And Password
------------------------------------------------------------

namespace Socks5d

section Auth

variable {k data : ConnId}
variable {s t : St}

theorem authFed_handled
    (hOwns : Owns k s.srv.sel s.conn)
    (key : Key)
    (bytes : List UInt8) :
    Handled k s (authFed key bytes s).1 :=
  (Handled.refl hOwns).of_eq rfl rfl rfl rfl id

/- `auth_process` changes neither tables nor state. -/
theorem AuthProcess.frame
    {r : St × Nat}
    (h : AuthProcess t r) :
    r.1.srv.sel = t.srv.sel ∧
      r.1.conn.clientFd = t.conn.clientFd ∧
      r.1.conn.originFd = t.conn.originFd ∧
      r.1.conn.isSocks = t.conn.isSocks ∧
      r.1.conn.current = t.conn.current ∧
      r.1.conn.hello = t.conn.hello ∧
      Calm t r.1 ∧ r.2 = USERPASS_WRITE := by
  cases h with
  | accepted username password i userIndex hUser hPass
      hFound =>
      exact ⟨rfl, rfl, rfl, rfl, rfl, rfl, id, rfl⟩
  | denied username password =>
      exact ⟨rfl, rfl, rfl, rfl, rfl, rfl, id, rfl⟩
  | noEntries =>
      exact ⟨rfl, rfl, rfl, rfl, rfl, rfl, id, rfl⟩
  | crashed hMissing =>
      refine ⟨rfl, rfl, rfl, rfl, rfl, rfl, ?_, rfl⟩
      exact calm_crash t.countAttempt (by decide)

/- Once the credentials are checked, the client is armed. -/
theorem authProcess_handled
    (hSound : s.srv.sel.Sound)
    (hOwns : Owns k s.srv.sel s.conn)
    {interest : Interest}
    {attached : Attachment}
    (hClient : s.srv.sel.Has s.conn.clientFd interest
      attached)
    (bytes : List UInt8)
    {r : St × Nat}
    (h : AuthProcess
      ((authFed ⟨s.conn.clientFd, data⟩ bytes s).1.arm
        s.conn.clientFd opWrite attached) r) :
    Handled k s r.1 ∧
      r.1.srv.sel.Has r.1.conn.clientFd opWrite attached ∧
      r.1.conn.current = s.conn.current ∧
      r.1.conn.originFd = s.conn.originFd ∧
      r.2 = USERPASS_WRITE := by
  have hFed := authFed_handled hOwns
    ⟨s.conn.clientFd, data⟩ bytes
  have hArmed := armed_handled hFed hSound rfl hClient
    opWrite
  rcases h.frame with
    ⟨hSel, hFd, hOrigin, hSocks, hState, _, hCalm, hNext⟩
  refine ⟨hArmed.1.of_eq hSel hFd hOrigin hSocks hCalm, ?_,
    hState, hOrigin, hNext⟩
  rw [hSel, hFd]
  exact hArmed.2

theorem socks_authRead
    (hSound : s.srv.sel.Sound)
    (hOwns : Owns k s.srv.sel s.conn)
    (hSocks : s.conn.isSocks = true)
    (hState : s.conn.current = some USERPASS_READ)
    (hOrigin : s.conn.originFd = -1)
    (hClient : s.srv.sel.Has s.conn.clientFd opRead
      (.socks k))
    {a : Answers}
    {r : St × Nat}
    (hRead : AuthRead ⟨s.conn.clientFd, data⟩ a s (.socks k)
      r) :
    Handled k s r.1 ∧
      SocksHeading k r.1.srv.sel r.1.conn r.2 := by
  have hError : s.conn.errorState = ERROR := by
    simp [Conn.errorState, hSocks]
  cases hRead with
  | failed hFailed =>
      rw [hError]
      exact ⟨.refl hOwns, .over_alone (Or.inr rfl) hState
        (by decide) hOrigin hClient⟩
  | ended hBytes =>
      rw [hError]
      exact ⟨note_handled hOwns _, .over_alone (Or.inr rfl)
        hState (by decide) hOrigin hClient⟩
  | more bytes hBytes hSome hGoing =>
      refine ⟨authFed_handled hOwns _ bytes, ?_⟩
      exact .stay USERPASS_READ hState (by decide)
        (.userpassRead hState hOrigin hClient)
  | rejected bytes hBytes processed hProcess =>
      rcases authProcess_handled hSound hOwns hClient bytes
          hProcess with ⟨hKept, hHas, hSame, hFd, _⟩
      rw [hError]
      exact ⟨hKept, .over_alone (Or.inr rfl)
        (hSame.trans hState) (by decide)
        (hFd.trans hOrigin) hHas⟩
  | answered bytes hBytes hSome hDone processed hProcess =>
      rcases authProcess_handled hSound hOwns hClient bytes
          hProcess with ⟨hKept, hHas, hSame, hFd, hNext⟩
      rw [hNext]
      exact ⟨hKept, .userpassWrite (hSame.trans hState)
        (hFd.trans hOrigin) hHas⟩

/- A stored reply moves no descriptor. -/
theorem authReply_handled
    (hOwns : Owns k s.srv.sel s.conn) :
    Handled k s (authReply s) := by
  rcases authReply_eq s with ⟨wb, hEq⟩
  rw [hEq]
  exact (Handled.refl hOwns).of_eq rfl rfl rfl rfl id

theorem socks_authWrite
    (hSound : s.srv.sel.Sound)
    (hOwns : Owns k s.srv.sel s.conn)
    (hSocks : s.conn.isSocks = true)
    (hState : s.conn.current = some USERPASS_WRITE)
    (hOrigin : s.conn.originFd = -1)
    (hClient : s.srv.sel.Has s.conn.clientFd opWrite
      (.socks k))
    {a : Answers}
    {r : St × Nat}
    (hWrite : AuthWrite ⟨s.conn.clientFd, data⟩ a s
      (.socks k) r) :
    Handled k s r.1 ∧
      SocksHeading k r.1.srv.sel r.1.conn r.2 := by
  rcases authReply_eq s with ⟨wb, hReply⟩
  have hKept := authReply_handled hOwns
  cases hWrite with
  | failed hSend =>
      rw [hReply] at hKept ⊢
      rw [show Conn.errorState _ = ERROR by
        simp [Conn.errorState, hSocks]]
      exact ⟨hKept.of_eq rfl rfl rfl rfl id, .over_alone
        (Or.inr rfl) hState (by decide) hOrigin hClient⟩
  | more n hSend hLeft =>
      rw [hReply] at hKept ⊢
      refine ⟨hKept.of_eq rfl rfl rfl rfl id, ?_⟩
      exact .stay USERPASS_WRITE hState (by decide)
        (.userpassWrite hState hOrigin hClient)
  | refused n hSend hSent hDenied =>
      rw [hReply] at hKept ⊢
      rw [show Conn.doneState _ = DONE by
        simp [Conn.doneState, hSocks]]
      exact ⟨hKept.of_eq rfl rfl rfl rfl id, .over_alone
        (Or.inl rfl) hState (by decide) hOrigin hClient⟩
  | passed n hSend hSent hPassed =>
      rw [hReply] at hKept ⊢
      have hFed : Handled k s (sendPending
          ⟨s.conn.clientFd, data⟩ n
          { s with conn.writeBuffer := wb }) :=
        hKept.of_eq rfl rfl rfl rfl id
      have hArmed := armed_handled hFed hSound rfl hClient
        opRead
      exact ⟨hArmed.1, .requestRead (Or.inr hState) hOrigin
        hArmed.2⟩

end Auth

end Socks5d

------------------------------------------------------------
-- The Request
------------------------------------------------------------

namespace Socks5d

section Request

variable {k data : ConnId}
variable {s t : St}

theorem requestFed_handled
    (hOwns : Owns k s.srv.sel s.conn)
    (key : Key)
    (bytes : List UInt8)
    (p : RequestParser) :
    Handled k s (requestFed key bytes p s).1 :=
  (Handled.refl hOwns).of_eq rfl rfl rfl rfl id

/- A reply moves no descriptor and changes no state. -/
theorem replied_handled
    (h : Handled k s t)
    (status : SocksReplyStatus) :
    Handled k s (replied t status) := by
  rcases replied_eq t status with ⟨wb, log, hEq, _⟩
  rw [hEq]
  exact h.of_eq rfl rfl rfl rfl id

/-
  The client is told of a failure: the reply is stored and
  the client armed for writing.
-/
theorem replied_arm_handled
    (h : Handled k s t)
    (hSound : s.srv.sel.Sound)
    (hSel : t.srv.sel = s.srv.sel)
    {interest : Interest}
    {attached : Attachment}
    (hClient : s.srv.sel.Has s.conn.clientFd interest
      attached)
    (status : SocksReplyStatus) :
    Handled k s ((replied t status).arm s.conn.clientFd
        opWrite attached) ∧
      ((replied t status).arm s.conn.clientFd opWrite
        attached).srv.sel.Has s.conn.clientFd opWrite
          attached := by
  apply armed_handled (replied_handled h status) hSound
  · rw [replied_srv]
    exact hSel
  · exact hClient

/- The fields that a reply leaves as they are. -/
theorem replied_fields
    (t : St)
    (status : SocksReplyStatus) :
    (replied t status).conn.current = t.conn.current ∧
      (replied t status).conn.originFd = t.conn.originFd ∧
      (replied t status).conn.clientFd = t.conn.clientFd ∧
      (replied t status).conn.request = t.conn.request ∧
      (replied t status).conn.connStatus =
        t.conn.connStatus := by
  rcases replied_eq t status with ⟨wb, log, hEq, _⟩
  rw [hEq]
  exact ⟨rfl, rfl, rfl, rfl, rfl⟩

/- A request is refused: its answer heads for the client. -/
theorem refused_heading
    (h : Handled k s t)
    (hSound : s.srv.sel.Sound)
    (hSel : t.srv.sel = s.srv.sel)
    {interest : Interest}
    (hClient : s.srv.sel.Has s.conn.clientFd interest
      (.socks k))
    (hState : t.conn.current = some REQUEST_READ ∨
      t.conn.current = some REQUEST_RESOLV)
    (hParser : ∃ p, t.conn.request.parser = some p)
    (hOrigin : t.conn.originFd = -1)
    (status : SocksReplyStatus) :
    Handled k s ((replied t status).arm s.conn.clientFd
        opWrite (.socks k)) ∧
      SocksHeading k
        ((replied t status).arm s.conn.clientFd opWrite
          (.socks k)).srv.sel
        (replied t status).conn REQUEST_WRITE := by
  have hArmed := replied_arm_handled h hSound hSel hClient
    status
  rcases replied_fields t status with
    ⟨hCurrent, hFd, hFdClient, hRequest, _⟩
  refine ⟨hArmed.1, .requestWrite ?_ ?_ ?_ ?_⟩
  · rw [hCurrent]
    exact hState.imp_right Or.inl
  · intro _
    rw [hRequest]
    exact hParser
  · rw [hFdClient, h.client]
    exact hArmed.2
  · rw [hFd]
    exact Or.inl hOrigin

/- What a processed request leaves. -/
theorem socks_requestProcess
    (h : Handled k s t)
    (hSound : s.srv.sel.Sound)
    (hSel : t.srv.sel = s.srv.sel)
    (hClient : s.srv.sel.Has s.conn.clientFd opRead
      (.socks k))
    (hState : t.conn.current = some REQUEST_READ)
    (hOrigin : t.conn.originFd = -1)
    {p : RequestParser}
    (hParser : t.conn.request.parser = some p)
    {a : Answers}
    {r : St × Nat}
    (hProcess : RequestProcess ⟨s.conn.clientFd, data⟩ a
      p.request t (.socks k) r) :
    Handled k s r.1 ∧
      SocksHeading k r.1.srv.sel r.1.conn r.2 := by
  cases hProcess with
  | refused status addrFamily hRequest =>
      refine refused_heading ?_ hSound ?_ hClient ?_ ?_ ?_ _
      · exact h.of_eq rfl rfl rfl rfl id
      · exact hSel
      · exact Or.inl hState
      · exact ⟨p, hParser⟩
      · exact hOrigin
  | noMemory hAlloc =>
      refine refused_heading ?_ hSound ?_ hClient ?_ ?_ ?_ _
      · exact h.of_eq rfl rfl rfl rfl id
      · exact hSel
      · exact Or.inl hState
      · exact ⟨p, hParser⟩
      · exact hOrigin
  | noThread hThread =>
      refine refused_heading ?_ hSound ?_ hClient ?_ ?_ ?_ _
      · exact h.of_eq rfl rfl rfl rfl id
      · exact hSel
      · exact Or.inl hState
      · exact ⟨p, hParser⟩
      · exact hOrigin
  | direct addrFamily domain len hType =>
      refine ⟨h.of_eq rfl rfl rfl rfl id, ?_⟩
      refine .connecting (Or.inl hState) ⟨p, hParser⟩
        hOrigin opRead ?_
      show t.srv.sel.Has t.conn.clientFd opRead (.socks k)
      rw [hSel, h.client]
      exact hClient
  | resolving hType hThread =>
      have hFed : Handled k s (St.note { t with
            conn.request.addrFamily :=
              socksReqAddrtypeDomain
            srv.threads := t.srv.threads ++
              [{ fd := s.conn.clientFd, data := data,
                 request := p.request }] }
          (.resolve p.request)) :=
        h.of_eq rfl rfl rfl rfl id
      have hArmed := armed_handled hFed hSound hSel hClient
        opNoop
      refine ⟨hArmed.1, .resolving hState hOrigin ?_ p
        hParser hType⟩
      show Selector.Has _ t.conn.clientFd opNoop (.socks k)
      rw [h.client]
      exact hArmed.2
  | waiting hType hThread =>
      have hFed : Handled k s { t with
          conn.request.addrFamily :=
            socksReqAddrtypeDomain } :=
        h.of_eq rfl rfl rfl rfl id
      have hArmed := armed_handled hFed hSound hSel hClient
        opNoop
      refine ⟨hArmed.1, .resolving hState hOrigin ?_ p
        hParser hType⟩
      show Selector.Has _ t.conn.clientFd opNoop (.socks k)
      rw [h.client]
      exact hArmed.2

theorem socks_requestRead
    (hSound : s.srv.sel.Sound)
    (hOwns : Owns k s.srv.sel s.conn)
    (hState : s.conn.current = some REQUEST_READ)
    (hOrigin : s.conn.originFd = -1)
    (hClient : s.srv.sel.Has s.conn.clientFd opRead
      (.socks k))
    (hStatus : s.conn.request.status = .succeeded)
    {p : RequestParser}
    (hParser : s.conn.request.parser = some p)
    {a : Answers}
    {r : St × Nat}
    (hRead : RequestRead ⟨s.conn.clientFd, data⟩ a s p
      (.socks k) r) :
    Handled k s r.1 ∧
      SocksHeading k r.1.srv.sel r.1.conn r.2 := by
  cases hRead with
  | ended hBytes =>
      refine ⟨note_handled hOwns _, .ends ERROR (Or.inr rfl)
        ?_ ?_ (slotted_alone hOrigin hClient)⟩
      · show s.conn.current ≠ _ ∧ s.conn.current ≠ _
        rw [hState]
        decide
      · intro _
        exact ⟨p, hParser⟩
  | more bytes hBytes hSome hGoing =>
      refine ⟨requestFed_handled hOwns _ bytes p, ?_⟩
      exact .stay REQUEST_READ hState (by decide)
        (.requestRead hState hOrigin hClient hStatus _ rfl)
  | processed bytes hBytes hSome hDone result hResult =>
      exact socks_requestProcess
        (requestFed_handled hOwns _ bytes p) hSound rfl
        hClient hState hOrigin rfl hResult

/- Taking an address moves no descriptor. -/
theorem takeAddress_handled
    (h : Handled k s t)
    (address : Addrinfo) :
    Handled k s (takeAddress address t) := by
  rcases takeAddress_eq address t with ⟨_, _, _, hEq⟩
  rw [hEq]
  exact h.of_eq rfl rfl rfl rfl id

theorem socks_requestResolvDone
    (hSound : s.srv.sel.Sound)
    (hOwns : Owns k s.srv.sel s.conn)
    (hState : s.conn.current = some REQUEST_RESOLV)
    (hOrigin : s.conn.originFd = -1)
    (hClient : s.srv.sel.Has s.conn.clientFd opNoop
      (.socks k))
    {p : RequestParser}
    (hParser : s.conn.request.parser = some p)
    {r : St × Nat}
    (hBlock : RequestResolvDone ⟨s.conn.clientFd, data⟩ s
      (.socks k) r) :
    Handled k s r.1 ∧
      SocksHeading k r.1.srv.sel r.1.conn r.2 := by
  cases hBlock with
  | failed hList =>
      refine refused_heading ?_ hSound ?_ hClient ?_ ?_ ?_ _
      · exact (Handled.refl hOwns).of_eq rfl rfl rfl rfl id
      · rfl
      · exact Or.inr hState
      · exact ⟨p, hParser⟩
      · exact hOrigin
  | first address rest hList =>
      refine ⟨takeAddress_handled ?_ address, ?_⟩
      · exact (Handled.refl hOwns).of_eq rfl rfl rfl rfl id
      rcases takeAddress_eq address
          { s.note (.resolved s.conn.originResolution) with
            conn.resolutionCurrent := address :: rest } with
        ⟨_, _, _, hEq⟩
      rw [hEq]
      exact .connecting (Or.inr hState) ⟨p, hParser⟩ hOrigin
        opNoop hClient

end Request

end Socks5d
