import Socks5d.Admission
import Socks5d.Fallback
import Socks5d.Library.Precedence
import Socks5d.Notifications

/-
  Where the server connects to: the addresses that it tries
  are those of the request that the client has sent, or those
  that the name in it was resolved to.

  Main declarations:
    * `Asked`, `Sought`, `Named`, `Lookups`
    * `Aimed`, `TargetAccount`
    * `targetAccount_preserved`
    * `Micro.looked`, `targets_asked`
-/

------------------------------------------------------------
-- What Was Asked For
------------------------------------------------------------

namespace Socks5d

/- The client has opened and sent all of the request. -/
def Asked
    (request : Request)
    (log : List Ev) : Prop :=
  ∃ opening head decoded a b, Opening log opening ∧
    RequestHead head decoded ∧
    request = (atEnd decoded [a, b]).request ∧
    opening ++ head ++ [a, b] <+: bytesFrom .client log

/-
  The addresses to try for a request: its own, or those of
  the list that its name was resolved to.
-/
inductive Targets
    (request : Request)
    (log : List Ev) : List Sockaddr → Prop where
  | numeric
      (hType : request.destAddrType ≠
        socksReqAddrtypeDomain) :
      Targets request log [request.destAddr]
  | named
      (hType : request.destAddrType = socksReqAddrtypeDomain)
      (hStarted : .resolve request ∈ log)
      (addresses : List Addrinfo)
      (hResolved : .resolved addresses ∈ log) :
      Targets request log (addresses.map Addrinfo.addr)

/- The request was sent, and these are its addresses. -/
def Sought
    (request : Request)
    (targets : List Sockaddr)
    (log : List Ev) : Prop :=
  Asked request log ∧ Targets request log targets

/-
  Lists of addresses come from a resolver that was started,
  and their entries have a family.
-/
structure Lookups (log : List Ev) : Prop where
  started : Preceded
    (fun before => ∃ request, .resolve request ∈ before)
    (fun event => event.list? ≠ none) log
  known : ∀ addresses, .resolved addresses ∈ log →
    ∀ x ∈ addresses, x.family ≠ .unspec

/-
  The connection tries the targets of the request in order
  and each at most once, and has not called `connect` before
  it was asked to.
-/
structure Aimed
    (request : Request)
    (targets : List Sockaddr)
    (c : Conn) : Prop where
  sought : Sought request targets c.log
  before : Preceded (Sought request targets)
    (fun event => event.attempt? ≠ none) c.log
  order : (c.tries.map Attempt.addr).Sublist targets

/- Those up to the current one may have been tried. -/
structure Aiming
    (request : Request)
    (targets : List Sockaddr)
    (c : Conn) : Prop where
  aimed : Aimed request targets c
  split : ∃ earlier,
    targets = earlier ++
      c.resolutionCurrent.tail.map Addrinfo.addr ∧
    (c.tries.map Attempt.addr).Sublist earlier
  known : ∀ x ∈ c.resolutionCurrent.tail,
    x.family ≠ .unspec

/- No name is looked up that the client has not sent. -/
def Named (log : List Ev) : Prop :=
  ∀ request, Preceded (Asked request)
    (fun event => event.resolve? = some request) log

/- The targets of a SOCKS connection in every state. -/
structure TargetAccount (c : Conn) : Prop where
  unasked : (∀ state, c.current = some state →
    state ≤ REQUEST_READ) → c.resolves = []
  unaimed : (∀ state, c.current = some state →
    state ≤ REQUEST_RESOLV) →
      c.tries = [] ∧ c.resolutionCurrent = []
  waiting : c.current = some REQUEST_RESOLV →
    ∀ p, c.request.parser = some p →
      Asked p.request c.log ∧
        p.request.destAddrType = socksReqAddrtypeDomain ∧
        ∀ request ∈ c.resolves, request = p.request
  aiming : c.current = some REQUEST_CONNECTING →
    ∃ request targets, Aiming request targets c
  aimed : c.tries ≠ [] →
    ∃ request targets, Aimed request targets c

section Asking

variable {request : Request}
variable {targets : List Sockaddr}
variable {c d : Conn}
variable {P : Ev → Prop}

theorem asked_lasting
    (request : Request) : Lasting (Asked request) := by
  intro log events h
  rcases h with ⟨opening, head, decoded, a, b, hOpening,
    hHead, hRequest, hPrefix⟩
  refine ⟨opening, head, decoded, a, b, ?_, hHead, hRequest,
    ?_⟩
  · apply hOpening.mono
    intro event hEvent
    exact List.mem_append_left _ hEvent
  · rw [bytesFrom_append]
    exact hPrefix.trans (List.prefix_append _ _)

theorem sought_lasting
    (request : Request)
    (targets : List Sockaddr) :
    Lasting (Sought request targets) := by
  intro log events h
  refine ⟨asked_lasting request log events h.1, ?_⟩
  cases h.2 with
  | numeric hType => exact .numeric hType
  | named hType hStarted addresses hResolved =>
      exact .named hType (List.mem_append_left _ hStarted)
        addresses (List.mem_append_left _ hResolved)

/- Whatever lasts holds of a history that has grown. -/
theorem Conn.Grows.lasting
    {R : List Ev → Prop}
    (h : c.Grows P d)
    (hLasting : Lasting R)
    (hBefore : R c.log) : R d.log := by
  rcases h with ⟨events, hLog, _⟩
  rw [hLog]
  exact hLasting c.log events hBefore

theorem Lookups.earlier
    (h : Lookups d.log)
    (hGrows : c.Grows P d) : Lookups c.log := by
  constructor
  · rcases hGrows with ⟨events, hLog, _⟩
    have hAll := h.started
    rw [hLog] at hAll
    exact hAll.before
  · intro addresses hIn
    exact h.known addresses (hGrows.mem hIn)

/- Attempts that keep to the targets. -/
theorem Aimed.onwards
    (h : Aimed request targets c)
    (hGrows : c.Grows P d)
    (hOrder : (d.tries.map Attempt.addr).Sublist targets) :
    Aimed request targets d where
  sought := hGrows.lasting (sought_lasting _ _) h.sought
  before := by
    rcases hGrows with ⟨events, hLog, _⟩
    rw [hLog]
    exact h.before.onwards (sought_lasting _ _) h.sought
  order := hOrder

/- No attempt is made. -/
theorem Aimed.quiet
    (h : Aimed request targets c)
    (hGrows : c.Grows (fun event => event.attempt? = none)
      d) : Aimed request targets d := by
  apply h.onwards hGrows
  rw [hGrows.tries_eq]
  exact h.order

theorem Aiming.quiet
    (h : Aiming request targets c)
    (hGrows : c.Grows (fun event => event.attempt? = none) d)
    (hList : d.resolutionCurrent = c.resolutionCurrent) :
    Aiming request targets d := by
  refine ⟨h.aimed.quiet hGrows, ?_, ?_⟩
  · rw [hList, hGrows.tries_eq]
    exact h.split
  · rw [hList]
    exact h.known

theorem Named.quiet
    (h : Named c.log)
    (hGrows : c.Grows (fun event => event.resolve? = none)
      d) : Named d.log := by
  rcases hGrows with ⟨events, hLog, hNone⟩
  intro request
  rw [hLog]
  apply (h request).quiet
  intro event hEvent hBad
  nomatch (hNone event hEvent).symm.trans hBad

end Asking

end Socks5d

------------------------------------------------------------
-- One More Attempt
------------------------------------------------------------

namespace Socks5d

section Attempts

variable {key : Key}
variable {a : Answers}
variable {s u : St}
variable {attached : Attachment}
variable {result : St × SocksReplyStatus}
variable {request : Request}
variable {targets : List Sockaddr}

/- A refusal makes no attempt and keeps the list. -/
theorem refusedWith_kept
    (s : St)
    (attached : Attachment)
    (status : SocksReplyStatus) :
    s.conn.Grows (fun event => event.attempt? = none)
        (refusedWith s attached status).conn ∧
      (refusedWith s attached status).conn.resolutionCurrent =
        s.conn.resolutionCurrent := by
  rw [refusedWith_conn]
  rcases replied_eq { s with conn.connStatus := status }
    status with ⟨wb, log, hEq, hLog⟩
  rw [hEq]
  refine ⟨⟨log, rfl, ?_⟩, rfl⟩
  intro event hEvent
  rw [hLog event hEvent]
  rfl

/- The next address of the list is tried. -/
theorem Aiming.retry
    {next : Addrinfo}
    {rest : List Addrinfo}
    (h : Aiming request targets s.conn)
    (hNext : nextAddresses s = next :: rest)
    (hResult : Connection key a (aimNext next rest s) attached
      result) :
    Aiming request targets result.1.conn := by
  have hKnown : ∀ x ∈ next :: rest, x.family ≠ .unspec := by
    rw [← hNext]
    exact h.known
  rw [aimNext_known (hKnown next List.mem_cons_self)]
    at hResult
  have hMakes := hResult.makes
  have hTries : result.1.conn.tries = s.conn.tries ++ [_] :=
    hMakes.tries
  have hGrows : s.conn.Grows (Ev.ofAttempt _)
      result.1.conn := hMakes.grows
  have hList : result.1.conn.resolutionCurrent =
      next :: rest := hMakes.list
  rcases h.split with ⟨earlier, hTargets, hEarlier⟩
  have hSplit : targets = (earlier ++ [next.addr]) ++
      rest.map Addrinfo.addr := by
    unfold nextAddresses at hNext
    rw [hTargets, hNext, List.map_cons, List.append_assoc]
    rfl
  have hAll : (result.1.conn.tries.map Attempt.addr).Sublist
      (earlier ++ [next.addr]) := by
    rw [hTries, List.map_append]
    exact hEarlier.append (List.Sublist.refl _)
  refine ⟨h.aimed.onwards hGrows ?_,
    ⟨earlier ++ [next.addr], ?_, hAll⟩, ?_⟩
  · rw [hSplit]
    exact hAll.trans (List.sublist_append_left _ _)
  · rw [hList, List.tail_cons]
    exact hSplit
  · rw [hList, List.tail_cons]
    exact fun x hX => hKnown x (List.mem_cons_of_mem _ hX)

/- A call of `connecting_write`. -/
theorem Aiming.connectingWrite
    {r : St × Nat}
    (h : Aiming request targets s.conn)
    (hCall : ConnectingWrite key a s attached r)
    (hNext : r.2 = REQUEST_CONNECTING) :
    Aiming request targets r.1.conn := by
  cases hCall with
  | nextAfterFailure next rest hStatus hList result hResult =>
      exact h.retry hList hResult
  | nextAfterError errno next rest hStatus hError hList
      result hResult =>
      have hNoted : Aiming request targets
          { s.note (.soError (some (some errno))
                (nextAddresses s).length) with
            conn.connStatus :=
              errnoToSocks (some errno) }.conn :=
        h.quiet (.single rfl rfl) rfl
      exact hNoted.retry hList hResult
  | gaveUp => nomatch hNext
  | noAnswer => nomatch hNext
  | established => nomatch hNext
  | full => nomatch hNext
  | failed => nomatch hNext

/- The first target is tried, if there is a socket for it. -/
theorem ConnectingInit.aiming
    (h : ConnectingInit key a s attached u)
    (hSought : Sought request targets s.conn.log)
    (hTries : s.conn.tries = [])
    (hTargets : targets = s.conn.originAddr ::
      s.conn.resolutionCurrent.tail.map Addrinfo.addr)
    (hKnown : ∀ x ∈ s.conn.resolutionCurrent.tail,
      x.family ≠ .unspec) :
    Aiming request targets u.conn := by
  have hFresh : Preceded (Sought request targets)
      (fun event => event.attempt? ≠ none) s.conn.log := by
    intro before event after hKind hEq
    refine absurd ?_ hKind
    apply List.filterMap_eq_nil_iff.mp hTries event
    rw [hEq]
    exact List.mem_append_right _ List.mem_cons_self
  have hStart : Aiming request targets s.conn := by
    refine ⟨⟨hSought, hFresh, ?_⟩, ⟨[s.conn.originAddr],
      hTargets, ?_⟩, hKnown⟩
    · rw [hTries]
      exact List.nil_sublist _
    · rw [hTries]
      exact List.nil_sublist _
  cases h with
  | noSocket hNone =>
      have hStarted : Aiming request targets
          { connectingStarted none s with
            conn.originFd := -1 }.conn :=
        hStart.quiet (.single rfl rfl) rfl
      rcases refusedWith_kept
        { connectingStarted none s with conn.originFd := -1 }
        attached .generalSocksServerFailure
        with ⟨hGrows, hList⟩
      exact hStarted.quiet hGrows hList
  | notSet fd hSome hNio =>
      have hStarted : Aiming request targets
          (connectingStarted (some fd) s).conn :=
        hStart.quiet (.single rfl rfl) rfl
      have hOpen : Aiming request targets (withSocket key a fd
          (connectingStarted (some fd) s)).conn :=
        hStarted.quiet (.single rfl rfl) rfl
      rcases refusedWith_kept (withSocket key a fd
        (connectingStarted (some fd) s)) attached
        .generalSocksServerFailure with ⟨hGrows, hList⟩
      exact hOpen.quiet hGrows hList
  | connected fd hSome hNio result hResult =>
      have hStarted : Aiming request targets
          (connectingStarted (some fd) s).conn :=
        hStart.quiet (.single rfl rfl) rfl
      have hOpen : Aiming request targets (withSocket key a fd
          (connectingStarted (some fd) s)).conn :=
        hStarted.quiet (.single rfl rfl) rfl
      have hNone : (withSocket key a fd
          (connectingStarted (some fd) s)).conn.tries = [] := by
        have hFirst : s.conn.Grows
            (fun event => event.attempt? = none)
            (connectingStarted (some fd) s).conn :=
          .single rfl rfl
        have hSecond : (connectingStarted (some fd)
              s).conn.Grows (fun event => event.attempt? = none)
            (withSocket key a fd
              (connectingStarted (some fd) s)).conn :=
          .single rfl rfl
        exact (hFirst.trans hSecond).tries_eq.trans hTries
      have hMakes := hResult.makes
      have hOne : result.1.conn.tries.map Attempt.addr =
          [s.conn.originAddr] := by
        rw [hMakes.tries, hNone]
        rfl
      have hList : result.1.conn.resolutionCurrent =
          s.conn.resolutionCurrent := hMakes.list
      refine ⟨?_, ⟨[s.conn.originAddr], ?_, ?_⟩, ?_⟩
      · have hGrows : (withSocket key a fd
            (connectingStarted (some fd) s)).conn.Grows
              (Ev.ofAttempt _)
              { result.1.conn with connStatus := result.2 } :=
          hMakes.grows
        apply hOpen.aimed.onwards hGrows
        show (result.1.conn.tries.map Attempt.addr).Sublist _
        rw [hOne, hTargets]
        exact List.sublist_append_left [s.conn.originAddr] _
      · show targets = _ ++
          result.1.conn.resolutionCurrent.tail.map
            Addrinfo.addr
        rw [hList]
        exact hTargets
      · show (result.1.conn.tries.map Attempt.addr).Sublist _
        rw [hOne]
      · show ∀ x ∈ result.1.conn.resolutionCurrent.tail, _
        rw [hList]
        exact hKnown

end Attempts

end Socks5d

------------------------------------------------------------
-- Calls Before Connecting
------------------------------------------------------------

namespace Socks5d

/- What is known of the target when a call ends. -/
inductive Found (c : Conn) : Nat → Prop where
  | early
      (next : Nat)
      (hNext : next ≤ REQUEST_READ)
      (hNone : c.resolves = [])
      (hList : c.resolutionCurrent = []) :
      Found c next
  | name
      (p : RequestParser)
      (hParser : c.request.parser = some p)
      (hAsked : Asked p.request c.log)
      (hType : p.request.destAddrType =
        socksReqAddrtypeDomain)
      (hNames : ∀ request ∈ c.resolves, request = p.request)
      (hList : c.resolutionCurrent = []) :
      Found c REQUEST_RESOLV
  | target
      (request : Request)
      (targets : List Sockaddr)
      (hSought : Sought request targets c.log)
      (hTargets : targets = c.originAddr ::
        c.resolutionCurrent.tail.map Addrinfo.addr)
      (hKnown : ∀ x ∈ c.resolutionCurrent.tail,
        x.family ≠ .unspec) :
      Found c REQUEST_CONNECTING
  | ended
      (next : Nat)
      (hNext : REQUEST_CONNECTING < next) :
      Found c next

section Calls

variable {k : ConnId}
variable {key : Key}
variable {a : Answers}
variable {s t u : St}
variable {c d : Conn}
variable {attached : Attachment}
variable {r : St × Nat}
variable {p : RequestParser}
variable {bytes : List UInt8}

/- The handshake leads to the request at most. -/
theorem SocksTurn.opens
    {state : Nat}
    (h : SocksTurn k key a s r)
    (hSocks : s.conn.isSocks = true)
    (hState : s.conn.current = some state)
    (hEarly : state < REQUEST_READ) :
    r.1.conn.resolutionCurrent = s.conn.resolutionCurrent ∧
      (r.2 ≤ REQUEST_READ ∨ REQUEST_CONNECTING < r.2) := by
  have hIs : ∀ other, s.conn.current = some other →
      other < REQUEST_READ := by
    intro other hOther
    rw [← Option.some.inj (hState.symm.trans hOther)]
    exact hEarly
  have hEnds : ∀ d : Conn, d.isSocks = true →
      REQUEST_CONNECTING < d.errorState ∧
        REQUEST_CONNECTING < d.doneState := by
    intro d hService
    rw [(Conn.ends_socks hService).1,
      (Conn.ends_socks hService).2]
    decide
  have hMeet : HELLO_READ ≤ REQUEST_READ := by decide
  have hGreet : HELLO_WRITE ≤ REQUEST_READ := by decide
  have hLogin : USERPASS_READ ≤ REQUEST_READ := by decide
  have hReply : USERPASS_WRITE ≤ REQUEST_READ := by decide
  cases h with
  | helloRead _ _ _ _ _ _ hCall =>
      cases hCall with
      | failed => exact ⟨rfl, Or.inr (hEnds _ hSocks).1⟩
      | ended => exact ⟨rfl, Or.inr (hEnds _ hSocks).1⟩
      | refused => exact ⟨rfl, Or.inr (hEnds _ hSocks).1⟩
      | more => exact ⟨rfl, Or.inl hMeet⟩
      | answered => exact ⟨rfl, Or.inl hGreet⟩
  | helloWrite _ _ _ _ _ _ hCall =>
      cases hCall with
      | failed => exact ⟨rfl, Or.inr (hEnds _ hSocks).1⟩
      | refused => exact ⟨rfl, Or.inr (hEnds _ hSocks).2⟩
      | more => exact ⟨rfl, Or.inl hGreet⟩
      | userpass => exact ⟨rfl, Or.inl hLogin⟩
      | request => exact ⟨rfl, Or.inl (Nat.le_refl _)⟩
  | authRead _ _ _ _ _ hCall =>
      cases hCall with
      | failed => exact ⟨rfl, Or.inr (hEnds _ hSocks).1⟩
      | ended => exact ⟨rfl, Or.inr (hEnds _ hSocks).1⟩
      | more => exact ⟨rfl, Or.inl hLogin⟩
      | rejected _ _ _ hProcess =>
          refine ⟨?_, Or.inr (hEnds _ hSocks).1⟩
          cases hProcess <;> rfl
      | answered _ _ _ _ _ hProcess =>
          cases hProcess
          all_goals exact ⟨rfl, Or.inl hReply⟩
  | authWrite _ _ _ _ _ hCall =>
      rcases authReply_eq s with ⟨wb, hStored⟩
      have hSame : (authReply s).conn.resolutionCurrent =
          s.conn.resolutionCurrent := by
        rw [hStored]
      have hService : (authReply s).conn.isSocks = true := by
        rw [hStored]
        exact hSocks
      cases hCall with
      | failed => exact ⟨hSame, Or.inr (hEnds _ hService).1⟩
      | refused => exact ⟨hSame, Or.inr (hEnds _ hService).2⟩
      | more => exact ⟨hSame, Or.inl hReply⟩
      | passed => exact ⟨hSame, Or.inl (Nat.le_refl _)⟩
  | requestRead hHere => exact absurd (hIs _ hHere) (by decide)
  | requestResolvDone hHere =>
      exact absurd (hIs _ hHere) (by decide)
  | connectingWrite hHere =>
      exact absurd (hIs _ hHere) (by decide)
  | requestWrite hHere => exact absurd (hIs _ hHere) (by decide)
  | relay hHere => exact absurd (hIs _ hHere) (by decide)

/- A request that is complete has been asked for. -/
theorem requestFed_asked
    {opening fed : List UInt8}
    (hSide : s.conn.sideOf key.fd = .client)
    (hOpening : Opening s.conn.log opening)
    (hProgress : RequestProgress fed p)
    (hGoing : p.state ≠ .done)
    (hOld : p.state.Failed ∨ bytesFrom .client s.conn.log =
      opening ++ fed ++ s.conn.readBuffer.pending)
    (hBytes : s.recvBytes a = bytes)
    (hDone : (requestFed key bytes p s).2.state = .done) :
    Asked (requestFed key bytes p s).2.request
      (requestFed key bytes p s).1.conn.log := by
  rcases requestFed_heard hSide hProgress hGoing hOld hBytes
    with ⟨hHeard, now, hNow, hSplit⟩
  have hWhole : ∃ head decoded b c,
      RequestHead head decoded ∧ now = head ++ [b, c] ∧
        (requestFed key bytes p s).2 =
          atEnd decoded [b, c] := by
    generalize (requestFed key bytes p s).2 = after
      at hNow hDone
    cases hNow with
    | done head decoded hHead b c =>
        exact ⟨head, decoded, b, c, hHead, rfl, rfl⟩
    | failed _ _ hFailed =>
        rw [hDone] at hFailed
        exact hFailed.elim
    | version => nomatch hDone
    | cmd => nomatch hDone
    | rsv => nomatch hDone
    | atyp => nomatch hDone
    | fqdn => nomatch hDone
    | addr => nomatch hDone
    | name => nomatch hDone
    | port => nomatch hDone
  rcases hWhole with ⟨head, decoded, b, c, hHead, hIs, hEnd⟩
  have hFine : ¬ (requestFed key bytes p s).2.state.Failed := by
    rw [hDone]
    exact id
  refine ⟨opening, head, decoded, b, c,
    hOpening.mono hHeard.grows, hHead, ?_, ?_⟩
  · rw [hEnd]
  · rw [hSplit.resolve_left hFine, hIs,
      ← List.append_assoc]
    exact List.prefix_append _ _

/- A request for an address or for a name, or an answer. -/
theorem RequestProcess.finds
    {request : Request}
    (h : RequestProcess key a request s attached r)
    (hParser : s.conn.request.parser = some p)
    (hRequest : p.request = request)
    (hAsked : Asked request s.conn.log)
    (hNone : s.conn.resolves = [])
    (hList : s.conn.resolutionCurrent = []) :
    Found r.1.conn r.2 := by
  subst hRequest
  have hAnswer : REQUEST_CONNECTING < REQUEST_WRITE := by decide
  cases h with
  | refused => exact .ended _ hAnswer
  | noMemory => exact .ended _ hAnswer
  | noThread => exact .ended _ hAnswer
  | direct addrFamily domain len hType =>
      refine .target p.request [p.request.destAddr]
        ⟨hAsked, .numeric hType⟩ ?_ ?_
      · show _ = _ :: s.conn.resolutionCurrent.tail.map _
        rw [hList]
        rfl
      · show ∀ x ∈ s.conn.resolutionCurrent.tail, _
        rw [hList]
        exact fun x hX => nomatch hX
  | resolving hType hThread =>
      refine .name p hParser
        (asked_lasting _ _ [.resolve p.request] hAsked) hType
          ?_ hList
      intro other hOther
      have hAll : (St.note { s with
          conn.request.addrFamily := socksReqAddrtypeDomain
          srv.threads := s.srv.threads ++
            [{ fd := key.fd, data := key.data,
               request := p.request }] }
          (.resolve p.request)).conn.resolves =
            s.conn.resolves ++ [p.request] := by
        show (s.conn.log ++ [_]).filterMap Ev.resolve? = _
        rw [List.filterMap_append]
        rfl
      have hOther' : other ∈ s.conn.resolves ++
          [p.request] := by
        rw [← hAll]
        exact hOther
      rw [hNone] at hOther'
      exact List.mem_singleton.mp hOther'
  | waiting hType hThread =>
      refine .name p hParser hAsked hType ?_ hList
      intro other hOther
      have hOther' : other ∈ s.conn.resolves := hOther
      rw [hNone] at hOther'
      nomatch hOther'

theorem RequestProcess.named
    {request : Request}
    (h : RequestProcess key a request s attached r)
    (hAsked : Asked request s.conn.log)
    (hNamed : Named s.conn.log) : Named r.1.conn.log := by
  have hReplied : ∀ (t : St) status, Named t.conn.log →
      Named (replied t status).conn.log := by
    intro t status hBefore
    rcases replied_eq t status with ⟨wb, log, hEq, hLog⟩
    have hGrows : t.conn.Grows
        (fun event => event.resolve? = none)
        (replied t status).conn := by
      rw [hEq]
      refine ⟨log, rfl, ?_⟩
      intro event hEvent
      rw [hLog event hEvent]
      rfl
    exact hBefore.quiet hGrows
  cases h with
  | refused => exact hReplied _ _ hNamed
  | direct => exact hNamed
  | noMemory =>
      exact hReplied _ _ (hNamed.quiet (.single rfl rfl))
  | noThread => exact hReplied _ _ hNamed
  | resolving hType hThread =>
      intro other
      show Preceded _ _ (s.conn.log ++ [_])
      by_cases hSame : request = other
      · rw [← hSame]
        exact (hNamed request).onwards (asked_lasting request)
          hAsked
      · apply (hNamed other).quiet
        intro event hEvent hBad
        rw [List.mem_singleton.mp hEvent] at hBad
        exact hSame (Option.some.inj hBad)
  | waiting => exact hNamed

theorem RequestRead.finds
    (h : RequestRead key a s p attached r)
    (hSide : s.conn.sideOf key.fd = .client)
    (hParser : s.conn.request.parser = some p)
    (hAccount : Account s.conn REQUEST_READ)
    (hNone : s.conn.resolves = [])
    (hList : s.conn.resolutionCurrent = []) :
    Found r.1.conn r.2 := by
  have hFed : ∀ bytes, (requestFed key bytes p
      s).1.conn.resolves = [] := by
    intro bytes
    refine Eq.trans ?_ hNone
    show (s.conn.log ++ [_]).filterMap Ev.resolve? = _
    rw [List.filterMap_append]
    exact List.append_nil _
  cases h with
  | ended hBytes =>
      exact .ended _ (show REQUEST_CONNECTING < ERROR by decide)
  | more bytes hBytes hSome hGoing =>
      exact .early _ (Nat.le_refl _) (hFed bytes) hList
  | processed bytes hBytes hSome hDone _ hResult =>
      cases hAccount with
      | request _ hBad =>
          rcases hBad with h | h | h <;> nomatch h
      | requestRead opening fed hOpening q hQ hProgress hGoing
          hOld =>
          rw [Option.some.inj (hQ.symm.trans hParser)]
            at hProgress hGoing hOld
          have hAsked := requestFed_asked hSide hOpening
            hProgress hGoing hOld hBytes hDone
          exact hResult.finds rfl rfl hAsked (hFed bytes) hList

/- A name is looked up right after it was asked for. -/
theorem RequestRead.named
    (h : RequestRead key a s p attached r)
    (hSide : s.conn.sideOf key.fd = .client)
    (hParser : s.conn.request.parser = some p)
    (hAccount : Account s.conn REQUEST_READ)
    (hNamed : Named s.conn.log) : Named r.1.conn.log := by
  have hFed : ∀ bytes, Named (requestFed key bytes p
      s).1.conn.log := by
    intro bytes
    exact hNamed.quiet (.single rfl rfl)
  cases h with
  | ended hBytes => exact hNamed.quiet (.single rfl rfl)
  | more bytes hBytes hSome hGoing => exact hFed bytes
  | processed bytes hBytes hSome hDone _ hResult =>
      cases hAccount with
      | request _ hBad =>
          rcases hBad with h | h | h <;> nomatch h
      | requestRead opening fed hOpening q hQ hProgress hGoing
          hOld =>
          rw [Option.some.inj (hQ.symm.trans hParser)]
            at hProgress hGoing hOld
          have hAsked := requestFed_asked hSide hOpening
            hProgress hGoing hOld hBytes hDone
          exact hResult.named hAsked (hFed bytes)

/- The list that a name was resolved to. -/
theorem RequestResolvDone.finds
    (h : RequestResolvDone key s attached r)
    (hAsked : Asked p.request s.conn.log)
    (hType : p.request.destAddrType = socksReqAddrtypeDomain)
    (hNames : ∀ request ∈ s.conn.resolves,
      request = p.request)
    (hLookups : Lookups r.1.conn.log) :
    Found r.1.conn r.2 := by
  cases h with
  | failed hList =>
      refine .ended _ ?_
      exact (show REQUEST_CONNECTING < REQUEST_WRITE by decide)
  | first first rest hList =>
      have hLog := takeAddress_log first
        { s.note (.resolved s.conn.originResolution) with
          conn.resolutionCurrent := first :: rest }
      have hNoted : (takeAddress first
          { s.note (.resolved s.conn.originResolution) with
            conn.resolutionCurrent :=
              first :: rest }).conn.log =
            s.conn.log ++ [.resolved (first :: rest)] := by
        rw [hLog, ← hList]
        rfl
      have hEntries : Lookups
          (s.conn.log ++ [.resolved (first :: rest)]) := by
        rw [← hNoted]
        exact hLookups
      have hIn : .resolved (first :: rest) ∈
          s.conn.log ++ [.resolved (first :: rest)] :=
        List.mem_append_right _ (List.mem_singleton.mpr rfl)
      -- the list comes from a thread for this very name
      have hStarted : .resolve p.request ∈ s.conn.log := by
        rcases hEntries.started s.conn.log
          (.resolved (first :: rest)) [] (by simp [Ev.list?])
          rfl with ⟨request, hRequest⟩
        have hName := hNames request
          (List.mem_filterMap.mpr ⟨_, hRequest, rfl⟩)
        rw [← hName]
        exact hRequest
      have hKnown := hEntries.known _ hIn
      have hSought : Sought p.request
          ((first :: rest).map Addrinfo.addr)
          (s.conn.log ++ [.resolved (first :: rest)]) :=
        ⟨asked_lasting _ _ _ hAsked, .named hType
          (List.mem_append_left _ hStarted) _ hIn⟩
      refine .target p.request
        ((first :: rest).map Addrinfo.addr) ?_ ?_ ?_
      · rw [hNoted]
        exact hSought
      · rw [takeAddress_known (hKnown first
          List.mem_cons_self)]
        rfl
      · rw [takeAddress_known (hKnown first
          List.mem_cons_self)]
        exact fun x hX => hKnown x (List.mem_cons_of_mem _ hX)

end Calls

end Socks5d

------------------------------------------------------------
-- Every Event
------------------------------------------------------------

namespace Socks5d

section Events

variable {k : ConnId}
variable {key : Key}
variable {a : Answers}
variable {s u : St}
variable {c d : Conn}
variable {attached : Attachment}
variable {r : St × Nat}

/- A state that ends the attempts makes no more. -/
theorem ConnectingWrite.leaves
    (h : ConnectingWrite key a s attached r)
    (hNext : r.2 ≠ REQUEST_CONNECTING) :
    s.conn.Grows (fun event => event.attempt? = none)
      r.1.conn := by
  have hReplied : ∀ (t : St) status,
      s.conn.Grows (fun event => event.attempt? = none)
        t.conn →
      s.conn.Grows (fun event => event.attempt? = none)
        (replied t status).conn := by
    intro t status hGrows
    rcases replied_eq t status with ⟨wb, log, hEq, hLog⟩
    rw [hEq]
    refine hGrows.trans ⟨log, rfl, ?_⟩
    intro event hEvent
    rw [hLog event hEvent]
    rfl
  have hAnswered : ∀ (t : St) status,
      s.conn.Grows (fun event => event.attempt? = none)
        t.conn →
      s.conn.Grows (fun event => event.attempt? = none)
        (answeredWith t attached status).conn := by
    intro t status hGrows
    unfold answeredWith
    rw [idleOrigin_conn]
    exact hReplied t status hGrows
  have hTwo : ∀ (t : St) (first second : Ev),
      t.conn.log = (s.conn.log ++ [first]) ++ [second] →
      first.attempt? = none → second.attempt? = none →
      s.conn.Grows (fun event => event.attempt? = none)
        t.conn := by
    intro t first second hLog hFirst hSecond
    refine ⟨[first, second], ?_, ?_⟩
    · rw [hLog, List.append_assoc]
      rfl
    · intro event hEvent
      rcases List.mem_cons.mp hEvent with hIs | hRest
      · rw [hIs]
        exact hFirst
      · rw [List.mem_singleton.mp hRest]
        exact hSecond
  cases h with
  | nextAfterFailure => exact absurd rfl hNext
  | nextAfterError => exact absurd rfl hNext
  | gaveUp => exact hAnswered _ _ (.of_eq rfl)
  | noAnswer =>
      exact hAnswered _ _ (hTwo _ _ _ rfl rfl rfl)
  | established =>
      exact hReplied _ _ (hTwo _ _ _ rfl rfl rfl)
  | full => exact hTwo _ _ _ rfl rfl rfl
  | failed => exact hAnswered _ _ (hTwo _ _ _ rfl rfl rfl)

/- After the attempts only what was tried matters. -/
theorem TargetAccount.late
    {state : Nat}
    (hNow : c.current = some state)
    (hLate : REQUEST_CONNECTING < state)
    (hAimed : c.tries ≠ [] →
      ∃ request targets, Aimed request targets c) :
    TargetAccount c := by
  have hNever : ∀ other, other ≤ REQUEST_CONNECTING →
      c.current ≠ some other := by
    intro other hLe hBad
    rw [Option.some.inj (hNow.symm.trans hBad)] at hLate
    exact absurd hLate (Nat.not_lt.mpr hLe)
  constructor
  · intro hAll
    have hLe := hAll state hNow
    exact absurd hNow (hNever state (Nat.le_trans hLe
      (by decide)))
  · intro hAll
    have hLe := hAll state hNow
    exact absurd hNow (hNever state (Nat.le_trans hLe
      (by decide)))
  · intro hBad
    exact absurd hBad (hNever _ (by decide))
  · intro hBad
    exact absurd hBad (hNever _ (by decide))
  · exact hAimed

/- What was found when a call ends is kept by the jump. -/
theorem Found.enter
    (h : Found s.conn r.2)
    (hTries : s.conn.tries = [])
    (hOther : s.conn.current ≠ some REQUEST_CONNECTING)
    (hJump : SocksJump k key a s r.2 u) :
    TargetAccount u.conn := by
  have hNow : u.conn.current = some r.2 := hJump.enters
  have hResolves := hJump.resolves
  generalize r.2 = next at h hJump hNow
  have hIs : ∀ other, u.conn.current = some other →
      other = next := fun other hOther =>
    Option.some.inj (hOther.symm.trans hNow)
  have hQuiet : next ≠ REQUEST_CONNECTING →
      s.conn.Grows (fun event => event.attempt? = none)
          u.conn ∧ u.conn.tries = [] := by
    intro hNext
    have hGrows := event_grows (s := s) (r := (s, next))
      (P := fun event => event.attempt? = none) (.of_eq rfl)
      hJump rfl fun _ hEvent =>
        Ev.ofArrival_attempt hEvent hNext
    exact ⟨hGrows, hGrows.tries_eq.trans hTries⟩
  have hList : next ≠ REQUEST_CONNECTING →
      u.conn.resolutionCurrent =
        s.conn.resolutionCurrent := by
    intro hNext
    cases hJump with
    | stay => rfl
    | plain => rfl
    | userpassRead =>
        unfold authReadInit
        split
        · rfl
        · rfl
    | requestRead _ _ hInit => cases hInit <;> rfl
    | connecting => exact absurd rfl hNext
    | copy => rfl
  cases h with
  | early _ hLe hNone hEmpty =>
      have hNext : next ≠ REQUEST_CONNECTING := by
        intro hBad
        rw [hBad] at hLe
        exact absurd hLe (by decide)
      rcases hQuiet hNext with ⟨_, hStill⟩
      constructor
      · exact fun _ => hResolves.trans hNone
      · exact fun _ => ⟨hStill, (hList hNext).trans hEmpty⟩
      · intro hBad
        rw [← hIs _ hBad] at hLe
        exact absurd hLe (by decide)
      · intro hBad
        exact absurd (hIs _ hBad).symm hNext
      · exact fun hSome => absurd hStill hSome
  | name p hParser hAsked hType hNames hEmpty =>
      have hNext : REQUEST_RESOLV ≠ REQUEST_CONNECTING := by
        decide
      rcases hQuiet hNext with ⟨hGrows, hStill⟩
      have hSame : u.conn.request.parser =
          s.conn.request.parser := by
        cases hJump with
        | stay => rfl
        | plain _ _ _ parser hKept => exact hKept rfl
      constructor
      · intro hAll
        exact absurd (hAll _ hNow) (by decide)
      · exact fun _ => ⟨hStill, (hList hNext).trans hEmpty⟩
      · intro _ q hQ
        have hEq : p = q := by
          rw [hSame, hParser] at hQ
          exact Option.some.inj hQ
        rw [← hEq, hResolves]
        exact ⟨hGrows.lasting (asked_lasting _) hAsked, hType,
          hNames⟩
      · intro hBad
        exact absurd (hIs _ hBad).symm hNext
      · exact fun hSome => absurd hStill hSome
  | target request targets hSought hTargets hKnown =>
      have hAiming : Aiming request targets u.conn := by
        cases hJump with
        | stay _ hBad => exact absurd hBad hOther
        | plain _ hBad =>
            rcases hBad with h | h | h | h | h | h <;> nomatch h
        | connecting _ parser _ hInit =>
            have hGrows : s.conn.Grows
                (fun event => event.attempt? = none)
                (entered REQUEST_CONNECTING { s with
                  conn.request.parser := parser }).conn :=
              .single rfl rfl
            refine hInit.aiming ?_ ?_ hTargets hKnown
            · exact hGrows.lasting (sought_lasting _ _) hSought
            · exact hGrows.tries_eq.trans hTries
      constructor
      · intro hAll
        exact absurd (hAll _ hNow) (by decide)
      · intro hAll
        exact absurd (hAll _ hNow) (by decide)
      · intro hBad
        exact absurd (hIs _ hBad) (by decide)
      · exact fun _ => ⟨request, targets, hAiming⟩
      · exact fun _ => ⟨request, targets, hAiming.aimed⟩
  | ended _ hLate =>
      apply TargetAccount.late hNow hLate
      exact fun hSome =>
        absurd (hQuiet (Nat.ne_of_gt hLate)).2 hSome

/- What a call before `REQUEST_CONNECTING` has found. -/
theorem SocksTurn.finds
    {state : Nat}
    (h : SocksTurn k key a s r)
    (hSocks : s.conn.isSocks = true)
    (hSound : s.srv.sel.Sound)
    (hOwns : Owns k s.srv.sel s.conn)
    (hState : s.conn.current = some state)
    (hBefore : state ≤ REQUEST_RESOLV)
    (hStreams : Streams s.conn)
    (hAccount : TargetAccount s.conn)
    (hLookups : Lookups r.1.conn.log) :
    Found r.1.conn r.2 := by
  have hIs : ∀ {P : Nat → Prop}, P state →
      ∀ other, s.conn.current = some other → P other := by
    intro P hP other hOther
    rw [← Option.some.inj (hState.symm.trans hOther)]
    exact hP
  rcases Nat.lt_trichotomy state REQUEST_READ with
    hEarly | hRead | hLater
  · rcases h.opens hSocks hState hEarly with ⟨hList, hNext⟩
    have hNone := hAccount.unasked
      (hIs (Nat.le_of_lt hEarly))
    have hEmpty := (hAccount.unaimed (hIs hBefore)).2
    have hResolves : r.1.conn.resolves = [] := by
      rcases h.shared hSound hOwns with ⟨_, hSame⟩ |
        ⟨_, _, _, hBad, _⟩
      · exact hSame.trans hNone
      · rw [Option.some.inj (hState.symm.trans hBad)] at hEarly
        exact absurd hEarly (Nat.lt_irrefl _)
    rcases hNext with hLe | hOver
    · exact .early _ hLe hResolves (hList.trans hEmpty)
    · exact .ended _ hOver
  · rw [hRead] at hState
    have hNone := hAccount.unasked
      (hIs (Nat.le_of_eq hRead))
    have hEmpty := (hAccount.unaimed (hIs hBefore)).2
    cases h with
    | requestRead _ hFd _ _ _ p hParser _ hCall =>
        exact hCall.finds (hOwns.sideOf_client hSound hFd)
          hParser (hStreams.handshake _ hState (by decide))
            hNone hEmpty
    | helloRead hBad => nomatch hState.symm.trans hBad
    | helloWrite hBad => nomatch hState.symm.trans hBad
    | authRead hBad => nomatch hState.symm.trans hBad
    | authWrite hBad => nomatch hState.symm.trans hBad
    | requestResolvDone hBad => nomatch hState.symm.trans hBad
    | connectingWrite hBad => nomatch hState.symm.trans hBad
    | requestWrite hBad => nomatch hState.symm.trans hBad
    | relay hBad => nomatch hState.symm.trans hBad
  · have hResolv : state = REQUEST_RESOLV :=
      Nat.le_antisymm hBefore hLater
    rw [hResolv] at hState
    cases h with
    | requestResolvDone _ _ _ _ p hParser _ hCall =>
        rcases hAccount.waiting hState p hParser with
          ⟨hAsked, hType, hNames⟩
        exact hCall.finds hAsked hType hNames hLookups
    | helloRead hBad => nomatch hState.symm.trans hBad
    | helloWrite hBad => nomatch hState.symm.trans hBad
    | authRead hBad => nomatch hState.symm.trans hBad
    | authWrite hBad => nomatch hState.symm.trans hBad
    | requestRead hBad => nomatch hState.symm.trans hBad
    | connectingWrite hBad => nomatch hState.symm.trans hBad
    | requestWrite hBad => nomatch hState.symm.trans hBad
    | relay hBad => nomatch hState.symm.trans hBad

/- No name is looked up on arrival in a state. -/
theorem Ev.resolve?_ofArrival
    {state : Nat}
    {event : Ev}
    (h : event.ofArrival state) : event.resolve? = none := by
  cases event with
  | resolve request =>
      unfold Ev.ofArrival at h
      split at h
      all_goals first
        | exact absurd h id
        | simp_all
  | _ => rfl

/- Every call, and every jump, keeps to the names. -/
theorem Named.turn
    (h : Named s.conn.log)
    (hStreams : Streams s.conn)
    (hSound : s.srv.sel.Sound)
    (hOwns : Owns k s.srv.sel s.conn)
    (hTurn : SocksTurn k key a s r)
    (hJump : SocksJump k key a r.1 r.2 u) :
    Named u.conn.log := by
  have hCall : Named r.1.conn.log := by
    rcases hTurn.logs hSound hOwns with ⟨state, hState, hGrows⟩
    by_cases hRead : state = REQUEST_READ
    · rw [hRead] at hState
      cases hTurn with
      | requestRead _ hFd _ _ _ p hParser _ hCall =>
          exact hCall.named (hOwns.sideOf_client hSound hFd)
            hParser (hStreams.handshake _ hState (by decide)) h
      | helloRead hBad => nomatch hState.symm.trans hBad
      | helloWrite hBad => nomatch hState.symm.trans hBad
      | authRead hBad => nomatch hState.symm.trans hBad
      | authWrite hBad => nomatch hState.symm.trans hBad
      | requestResolvDone hBad =>
          nomatch hState.symm.trans hBad
      | connectingWrite hBad => nomatch hState.symm.trans hBad
      | requestWrite hBad => nomatch hState.symm.trans hBad
      | relay hBad => nomatch hState.symm.trans hBad
    · exact h.quiet (hGrows.mono fun event hEvent =>
        Ev.resolve?_ofState hRead event hEvent)
  apply hCall.quiet
  apply event_grows (s := r.1) (r := r)
    (P := fun event => event.resolve? = none) (.of_eq rfl)
      hJump rfl
  exact fun event hEvent => Ev.resolve?_ofArrival hEvent

/- A call of `connecting_write` and the jump after it. -/
theorem TargetAccount.connecting
    (h : TargetAccount s.conn)
    (hState : s.conn.current = some REQUEST_CONNECTING)
    (hCurrent : r.1.conn.current = s.conn.current)
    (hForward : r.2 ≤ COPY → REQUEST_CONNECTING ≤ r.2)
    (hCall : ConnectingWrite key a s (.socks k) r)
    (hJump : SocksJump k key a r.1 r.2 u) :
    TargetAccount u.conn := by
  have hNow : u.conn.current = some r.2 := hJump.enters
  rcases h.aiming hState with ⟨request, targets, hAiming⟩
  by_cases hStays : r.2 = REQUEST_CONNECTING
  · have hNext := hAiming.connectingWrite hCall hStays
    have hSame : u = r.1 := by
      rcases hJump.logs with ⟨_, hSame⟩ | ⟨hOther, _⟩
      · exact hSame
      · rw [hStays] at hOther
        exact absurd (hCurrent.trans hState) hOther
    have hHere : u.conn.current = some REQUEST_CONNECTING := by
      rw [hNow, hStays]
    rw [hSame] at hHere ⊢
    constructor
    · intro hAll
      exact absurd (hAll _ hHere) (by decide)
    · intro hAll
      exact absurd (hAll _ hHere) (by decide)
    · intro hBad
      nomatch hHere.symm.trans hBad
    · exact fun _ => ⟨request, targets, hNext⟩
    · exact fun _ => ⟨request, targets, hNext.aimed⟩
  · have hLate : REQUEST_CONNECTING < r.2 := by
      rcases Nat.lt_or_ge COPY r.2 with hOver | hLe
      · exact Nat.lt_trans (by decide) hOver
      · exact Nat.lt_of_le_of_ne (hForward hLe)
          (Ne.symm hStays)
    have hGrows := event_grows (hCall.leaves hStays) hJump rfl
      fun _ hEvent => Ev.ofArrival_attempt hEvent hStays
    apply TargetAccount.late hNow hLate
    exact fun _ => ⟨request, targets,
      hAiming.aimed.quiet hGrows⟩

/- An event of a SOCKS connection. -/
theorem TargetAccount.event
    (h : TargetAccount s.conn)
    (hStreams : Streams s.conn)
    (hSocks : s.conn.isSocks = true)
    (hSound : s.srv.sel.Sound)
    (hOwns : Owns k s.srv.sel s.conn)
    (hTurn : SocksTurn k key a s r)
    (hJump : SocksJump k key a r.1 r.2 u)
    (hLookups : Lookups u.conn.log) :
    TargetAccount u.conn := by
  have hNow : u.conn.current = some r.2 := hJump.enters
  rcases hTurn.logs hSound hOwns with ⟨state, hState, hCall⟩
  have hCurrent := hTurn.current hSound hOwns
  have hHere := hCurrent.trans hState
  have hForward : r.2 ≤ COPY → state ≤ r.2 :=
    (hTurn.heading hSound hOwns hSocks).2.forward hHere
  rcases Nat.lt_trichotomy state REQUEST_CONNECTING with
    hBefore | hConnecting | hAfter
  · have hLe : state ≤ REQUEST_RESOLV :=
      Nat.le_of_lt_succ hBefore
    have hNone := (h.unaimed (by
      intro other hOther
      rw [← Option.some.inj (hState.symm.trans hOther)]
      exact hLe)).1
    have hTries : r.1.conn.tries = [] := by
      have hQuiet := hCall.mono fun _ hEvent =>
        Ev.ofState_attempt hEvent (Nat.ne_of_lt hBefore)
      exact hQuiet.tries_eq.trans hNone
    have hLater : r.1.conn.Grows (fun _ => True) u.conn :=
      event_grows (s := r.1) (.of_eq rfl) hJump trivial
        fun _ _ => trivial
    have hFound := hTurn.finds hSocks hSound hOwns hState hLe
      hStreams h (hLookups.earlier hLater)
    apply hFound.enter hTries _ hJump
    rw [hHere]
    intro hBad
    rw [Option.some.inj hBad] at hBefore
    exact absurd hBefore (Nat.lt_irrefl _)
  · rw [hConnecting] at hState hForward
    exact h.connecting hState hCurrent hForward
      (hTurn.called.2 hState) hJump
  · have hLate : REQUEST_CONNECTING < r.2 := by
      rcases Nat.lt_or_ge COPY r.2 with hOver | hLe
      · exact Nat.lt_trans (by decide) hOver
      · exact Nat.lt_of_lt_of_le hAfter (hForward hLe)
    have hGrows : s.conn.Grows
        (fun event => event.attempt? = none) u.conn :=
      event_grows (hCall.mono fun _ hEvent =>
        Ev.ofState_attempt hEvent (Nat.ne_of_gt hAfter)) hJump
          rfl fun _ hEvent => Ev.ofArrival_attempt hEvent
            (Nat.ne_of_gt hLate)
    apply TargetAccount.late hNow hLate
    intro hSome
    rw [hGrows.tries_eq] at hSome
    rcases h.aimed hSome with ⟨request, targets, hAimed⟩
    exact ⟨request, targets, hAimed.quiet hGrows⟩

/- What happens while a name is resolved, or at the start. -/
theorem TargetAccount.idle
    (h : TargetAccount c)
    (hBefore : ∀ state, c.current = some state →
      state ≤ REQUEST_RESOLV)
    (hSame : d.current = c.current ∨
      d.current = some HELLO_READ ∧ c.current = none)
    (hParser : d.request.parser = c.request.parser)
    (hList : d.resolutionCurrent = c.resolutionCurrent)
    (hGrows : c.Grows (fun event => event.attempt? = none ∧
      event.resolve? = none) d) : TargetAccount d := by
  have hQuiet := hGrows.mono fun _ hEvent => hEvent.1
  have hResolves : d.resolves = c.resolves :=
    hGrows.filterMap _ fun _ hEvent => hEvent.2
  have hNone := (h.unaimed hBefore).1
  have hTries := hQuiet.tries_eq.trans hNone
  have hNever : d.current ≠ some REQUEST_CONNECTING := by
    rcases hSame with hSame | ⟨hHello, _⟩
    · rw [hSame]
      intro hBad
      exact absurd (hBefore _ hBad) (by decide)
    · rw [hHello]
      decide
  constructor
  · intro hAll
    rw [hResolves]
    apply h.unasked
    rcases hSame with hSame | ⟨_, hFresh⟩
    · rw [← hSame]
      exact hAll
    · intro state hBad
      nomatch hFresh.symm.trans hBad
  · intro _
    exact ⟨hTries, hList.trans (h.unaimed hBefore).2⟩
  · intro hState p hP
    rcases hSame with hSame | ⟨hHello, _⟩
    · rw [hSame] at hState
      rw [hParser] at hP
      rcases h.waiting hState p hP with
        ⟨hAsked, hType, hNames⟩
      rw [hResolves]
      exact ⟨hGrows.lasting (asked_lasting _) hAsked, hType,
        hNames⟩
    · nomatch hHello.symm.trans hState
  · exact fun hBad => absurd hBad hNever
  · exact fun hSome => absurd hTries hSome

/- Every event keeps the account of the targets. -/
theorem targetAccount_preserved :
    Preserved fun _ _ c => c.isSocks = true →
      Streams c ∧ Named c.log ∧
        (Lookups c.log → TargetAccount c) := by
  have hResolv : ∀ {c : Conn},
      c.current = some REQUEST_RESOLV → ∀ state,
        c.current = some state → state ≤ REQUEST_RESOLV := by
    intro c hHere state hState
    rw [Option.some.inj (hState.symm.trans hHere)]
  constructor
  · intro admins k isSocks client hSocks
    refine ⟨streams_preserved.born admins k isSocks client
      hSocks, fun _ => .nil, fun _ => ?_⟩
    constructor
    · exact fun _ => rfl
    · exact fun _ => ⟨rfl, rfl⟩
    · intro hBad
      nomatch hBad
    · intro hBad
      nomatch hBad
    · exact fun hSome => absurd rfl hSome
  · intro admins k c addresses hState hBefore hSocks
    have hHere := hBefore hSocks
    refine ⟨streams_preserved.resolution admins k c addresses
      hState (fun _ => hHere.1) hSocks, hHere.2.1,
      fun hLookups => ?_⟩
    exact (hHere.2.2 hLookups).idle (hResolv hState)
      (Or.inl rfl) rfl rfl (.of_eq rfl)
  · intro k s request hState hBefore hSocks
    have hHere := hBefore hSocks
    have hGrows : s.conn.Grows (fun event =>
        event.attempt? = none ∧ event.resolve? = none)
        (s.note (.notified k request)).conn :=
      .single rfl ⟨rfl, rfl⟩
    refine ⟨streams_preserved.notified k s request hState
      (fun _ => hHere.1) hSocks,
      hHere.2.1.quiet (hGrows.mono fun _ h => h.2),
      fun hLookups => ?_⟩
    exact (hHere.2.2 (hLookups.earlier hGrows)).idle
      (hResolv hState) (Or.inl rfl) rfl rfl hGrows
  · intro k key a s hState hBefore hSocks
    have hService : s.conn.isSocks = true := by
      unfold helloReadInit at hSocks
      split at hSocks
      · exact hSocks
      · exact hSocks
    have hHere := hBefore hService
    have hGrows : s.conn.Grows (fun event =>
        event.attempt? = none ∧ event.resolve? = none)
        (helloReadInit key a (entered HELLO_READ s)).conn := by
      have hEntry : s.conn.Grows (fun event =>
          event.attempt? = none ∧ event.resolve? = none)
          (entered HELLO_READ s).conn := .single rfl ⟨rfl, rfl⟩
      apply hEntry.trans
      unfold helloReadInit
      split
      · exact .single rfl ⟨rfl, rfl⟩
      · exact .single rfl ⟨rfl, rfl⟩
    refine ⟨streams_preserved.first k key a s hState
      (fun _ => hHere.1) hSocks,
      hHere.2.1.quiet (hGrows.mono fun _ h => h.2),
      fun hLookups => ?_⟩
    have hKept : (helloReadInit key a (entered HELLO_READ
          s)).conn.current = some HELLO_READ ∧
        (helloReadInit key a (entered HELLO_READ
          s)).conn.request.parser = s.conn.request.parser ∧
        (helloReadInit key a (entered HELLO_READ
          s)).conn.resolutionCurrent =
            s.conn.resolutionCurrent := by
      unfold helloReadInit
      split
      · exact ⟨rfl, rfl, rfl⟩
      · exact ⟨rfl, rfl, rfl⟩
    apply (hHere.2.2 (hLookups.earlier hGrows)).idle _
      (Or.inr ⟨hKept.1, hState⟩) hKept.2.1 hKept.2.2 hGrows
    intro state hBad
    nomatch hState.symm.trans hBad
  · intro k key a s r u hSocks hSound hOwns hTurn hJump
      hBefore hNow
    have hHere := hBefore hSocks
    refine ⟨streams_preserved.socks k key a s r u hSocks hSound
      hOwns hTurn hJump (fun _ => hHere.1) hNow,
      hHere.2.1.turn hHere.1 hSound hOwns hTurn hJump,
      fun hLookups => ?_⟩
    rcases hTurn.logs hSound hOwns with ⟨_, _, hCall⟩
    have hGrows : s.conn.Grows (fun _ => True) u.conn :=
      event_grows (hCall.mono fun _ _ => trivial) hJump trivial
        fun _ _ => trivial
    exact (hHere.2.2 (hLookups.earlier hGrows)).event hHere.1
      hSocks hSound hOwns hTurn hJump hLookups
  · intro k key a s r u hMng hTurn hJump _ hSocks
    have hService := hJump.service.trans hTurn.service
    rw [hService, hMng] at hSocks
    nomatch hSocks

end Events

end Socks5d

------------------------------------------------------------
-- Whole Runs
------------------------------------------------------------

namespace Socks5d

section Runs

variable {w w' : World}
variable {k : ConnId}
variable {key : Key}
variable {a : Answers}
variable {s t : St}
variable {c d : Conn}

/- Lists of addresses come from resolvers that were started. -/
def Looked (log : List Ev) : Prop :=
  Preceded
    (fun before => ∃ request, .resolve request ∈ before)
    (fun event => event.list? ≠ none) log

def World.Looked (w : World) : Prop :=
  ∀ k < w.next, Socks5d.Looked (w.conn k).log

theorem Looked.quiet
    (h : Looked c.log)
    (hGrows : c.Grows (fun event => event.list? = none) d) :
    Looked d.log := by
  rcases hGrows with ⟨events, hLog, hNone⟩
  show Preceded _ _ _
  rw [hLog]
  apply Preceded.quiet h
  intro event hEvent hBad
  exact hBad (hNone event hEvent)

/- A resolver has been started already. -/
theorem Looked.onwards
    {P : Ev → Prop}
    {request : Request}
    (h : Looked c.log)
    (hGrows : c.Grows P d)
    (hStarted : .resolve request ∈ c.log) :
    Looked d.log := by
  rcases hGrows with ⟨events, hLog, _⟩
  show Preceded _ _ _
  rw [hLog]
  apply Preceded.onwards h
  · intro history more hBefore
    rcases hBefore with ⟨other, hIn⟩
    exact ⟨other, List.mem_append_left _ hIn⟩
  · exact ⟨request, hStarted⟩

/- Starting the machine lists nothing. -/
theorem first_lists
    (states : Nat → StateDefinition)
    (hStates : states HELLO_READ =
      { onArrival := some helloReadInit
        onReadReady := some helloRead })
    (key : Key)
    (a : Answers)
    (s : St) :
    s.conn.Grows (fun event => event.list? = none)
      (handleFirst states key a s).conn := by
  rw [handleFirst_eq hStates]
  split
  · have hEntry : s.conn.Grows
        (fun event => event.list? = none)
        (entered HELLO_READ s).conn := .single rfl rfl
    apply hEntry.trans
    unfold helloReadInit
    split
    · exact .single rfl rfl
    · exact .single rfl rfl
  · exact .of_eq rfl

/- Only a connection that waits is told of a list. -/
theorem SocksEvent.lists
    (h : SocksEvent k key a s t)
    (hSound : s.srv.sel.Sound)
    (hOwns : Owns k s.srv.sel s.conn)
    (hNot : s.conn.current ≠ some REQUEST_RESOLV) :
    s.conn.Grows (fun event => event.list? = none) t.conn := by
  have hBoth : ∀ r u, SocksTurn k key a s r →
      SocksJump k key a r.1 r.2 u →
        s.conn.Grows (fun event => event.list? = none)
          u.conn := by
    intro r u hTurn hJump
    rcases hTurn.logs hSound hOwns with ⟨state, hState, hCall⟩
    apply list_old hCall hJump
    intro hBad
    rw [hBad] at hState
    exact hNot hState
  cases h with
  | going r u hTurn hJump hNext => exact hBoth r _ hTurn hJump
  | ends r u hTurn hJump hNext =>
      rw [socksv5Done_conn]
      exact hBoth r u hTurn hJump
  | stuck hWhy => exact .of_eq rfl

/- Management connections list nothing. -/
theorem MngEvent.lists
    (h : MngEvent k key a s t) :
    s.conn.Grows (fun event => event.list? = none) t.conn := by
  have hMng : ∀ event : Ev, event.ofMng →
      event.list? = none := by
    intro event hEvent
    cases event with
    | resolved addresses => exact hEvent.elim
    | _ => rfl
  have hState : ∀ state (event : Ev), event.ofMngState state →
      event.list? = none := by
    intro state event hEvent
    unfold Ev.ofMngState at hEvent
    cases event with
    | resolved addresses => split at hEvent <;> exact hEvent.elim
    | _ => rfl
  have hBoth : ∀ r u, MngTurn k key a s r →
      MngJump key a r.1 r.2 u →
        s.conn.Grows (fun event => event.list? = none)
          u.conn := by
    intro r u hTurn hJump
    rcases hTurn.logs with ⟨state, _, hCall⟩
    have hCalled := hCall.mono fun event hEvent =>
      hState state event hEvent
    rcases hJump.logs with ⟨_, hSame⟩ | ⟨_, hArrival⟩
    · rw [hSame]
      exact hCalled
    · have hEntry : r.1.conn.Grows
          (fun event => event.list? = none)
          (entered r.2 r.1).conn := .single rfl rfl
      exact (hCalled.trans hEntry).trans (hArrival.mono hMng)
  cases h with
  | going r u hTurn hJump hNext => exact hBoth r _ hTurn hJump
  | ends r u hTurn hJump hNext =>
      rw [mngDone_conn]
      exact hBoth r u hTurn hJump

/- A small step lists only what was looked up. -/
theorem Micro.looked
    (hStep : Micro w w')
    (hInv : Inv w)
    (hBooked : w.Booked)
    (h : w.Looked) : w'.Looked := by
  have hGrows : ∀ j < w.next, (w.conn j).Grows
      (fun _ => True) (w'.conn j) :=
    fun j hOld => hStep.grows hInv hOld
  have hPut : ∀ k (t : St), Looked t.conn.log →
      (w.put k t).Looked := by
    intro k t hNew j hLt
    by_cases hEq : j = k
    · rw [hEq, w.put_conn_self]
      exact hNew
    · rw [w.put_conn_of_ne t hEq]
      exact h j hLt
  cases hStep with
  | accepted isSocks client hNonneg hFree hUnused =>
      intro j hLt
      by_cases hEq : j = w.next
      · have hSelf : (w.accept isSocks client).conn j =
            { isSocks, clientFd := client } := by
          rw [hEq]
          exact Function.update_self _ _ _
        rw [hSelf]
        exact .nil
      · have hOther : (w.accept isSocks client).conn j =
            w.conn j := Function.update_of_ne hEq _ _
        rw [hOther]
        exact h j ((Nat.lt_succ_iff_lt_or_eq.mp
          hLt).resolve_right hEq)
  | socks k key a interest t hLive hSocks hKey hArmed hEvent
      hAfter =>
      rcases hInv.first hLive clientStatbl rfl key a
        with ⟨hSrv, hSound, hOwns⟩
      apply hPut
      have hFirst := first_lists clientStatbl rfl key a
        (w.view k)
      apply Looked.quiet (h k hLive.1)
      apply hFirst.trans (hEvent.lists hSound hOwns _)
      -- the selector does not wait for who waits for a list
      intro hState
      have hHere : (w.conn k).current =
          some REQUEST_RESOLV := by
        rw [handleFirst_eq (by rfl)] at hState
        split at hState
        · unfold helloReadInit at hState
          split at hState <;> nomatch hState
        · exact hState
      have hShape := (hInv.wired k hLive).socks hSocks
      rcases hShape.of_resolving hHere with
        ⟨hOrigin, hClient, _⟩
      exact hArmed (hKey.interest_alone hOrigin hClient)
  | mng k key a t hLive hMng hEvent hAfter =>
      apply hPut
      have hFirst := first_lists clientMng rfl key a (w.view k)
      exact Looked.quiet (h k hLive.1)
        (hFirst.trans hEvent.lists)
  | block job rest a t hJobs hWaits hEvent hAfter =>
      have hBooks := hBooked.1 _ hWaits.accepted
      have hOnce := hInv.once
      rw [← w.srv.started_fst] at hOnce
      have hStarter : (job.starter, job.request) ∈
          w.srv.started := by
        unfold Server.started Server.owed
        rw [hJobs]
        exact List.mem_append_right _ List.mem_cons_self
      have hIn : job.request ∈
          (w.conn job.starter).resolves := by
        rw [hBooks.balance,
          pendingOf_eq_single hOnce hStarter]
        exact List.mem_append_right _
          (List.mem_singleton.mpr rfl)
      have hStarted : .resolve job.request ∈
          (w.conn job.starter).log := by
        rcases List.mem_filterMap.mp hIn with
          ⟨event, hEvent', hSome⟩
        cases event with
        | resolve request =>
            rw [← Option.some.inj hSome]
            exact hEvent'
        | _ => nomatch hSome
      apply hPut
      have hMine := hGrows job.starter hWaits.accepted
      rw [w.put_conn_self] at hMine
      exact Looked.onwards (h _ hWaits.accepted) hMine hStarted
  | threadStart i t p hThread hWaits hParser hRequest =>
      intro j hLt
      by_cases hEq : j = t.data
      · subst hEq
        show Socks5d.Looked (Function.update w.conn t.data _
          t.data).log
        rw [Function.update_self]
        exact h _ hLt
      · show Socks5d.Looked (Function.update w.conn t.data _
          j).log
        rw [Function.update_of_ne hEq]
        exact h _ hLt
  | threadDone i t addresses a hThread hWaits =>
      intro j hLt
      by_cases hEq : j = t.data
      · subst hEq
        show Socks5d.Looked (Function.update w.conn t.data _
          t.data).log
        rw [Function.update_self]
        exact h _ hLt
      · show Socks5d.Looked (Function.update w.conn t.data _
          j).log
        rw [Function.update_of_ne hEq]
        exact h _ hLt

theorem reachable_looked
    (hReach : server.Reachable w) : w.Looked := by
  have hAll := micro_invariant
    (P := fun w => w.Booked ∧ w.Looked) ?_ ?_ hReach
  · exact hAll.2.2
  · intro w hInit
    refine ⟨(reachable_booked (.init hInit)).2, ?_⟩
    intro k hLt
    rw [hInit.next] at hLt
    exact absurd hLt (Nat.not_lt_zero _)
  · intro w w' hInv hBefore hStep
    exact ⟨hStep.booked hInv hBefore.1,
      hStep.looked hInv hBefore.1 hBefore.2⟩

/-
  In every reachable world, as long as the resolver gives its
  addresses a family: no name is looked up before the client
  has sent a whole request with it, and once there is a call
  of `connect`, all calls are for the addresses of one request
  that the client had sent before the first of them, in order
  and each at most once. These are the address in the request,
  or the list that its name was resolved to.
-/
theorem targets_asked
    (hReach : server.Reachable w)
    (hOld : k < w.next)
    (hSocks : (w.conn k).isSocks = true)
    (hKnown : ∀ addresses,
      .resolved addresses ∈ (w.conn k).log →
        ∀ x ∈ addresses, x.family ≠ .unspec) :
    (∀ before request after,
      (w.conn k).log = before ++ .resolve request :: after →
        Asked request before) ∧
    ((w.conn k).tries ≠ [] → ∃ request targets,
      ((w.conn k).tries.map Attempt.addr).Sublist targets ∧
      ∀ before attempt after,
        (w.conn k).log = before ++ .connect attempt :: after →
          Asked request before ∧
            Targets request before targets) := by
  rcases conn_invariant targetAccount_preserved hReach hOld
    hSocks with ⟨_, hNamed, hAccount⟩
  have hLookups : Lookups (w.conn k).log :=
    ⟨reachable_looked hReach k hOld, hKnown⟩
  constructor
  · intro before request after hLog
    exact hNamed request before _ after rfl hLog
  · intro hSome
    rcases (hAccount hLookups).aimed hSome with
      ⟨request, targets, hAimed⟩
    refine ⟨request, targets, hAimed.order, ?_⟩
    intro before attempt after hLog
    exact hAimed.before before (.connect attempt) after
      (Option.some_ne_none attempt) hLog

end Runs

/- Both addresses of the name are tried, and nothing else. -/
theorem targets_asked_unnoticed :
    (unnoticedWorld.conn 0).tries.length = 2 ∧
      ∃ request targets,
        ((unnoticedWorld.conn 0).tries.map
          Attempt.addr).Sublist targets ∧
        ∀ before attempt after,
          (unnoticedWorld.conn 0).log =
            before ++ .connect attempt :: after →
              Asked request before ∧
                Targets request before targets := by
  have hTwo : (unnoticedWorld.conn 0).tries.length = 2 := by
    decide +kernel
  have hAll : ((unnoticedWorld.conn 0).log.filterMap
      Ev.list?).all (fun addresses => addresses.all
        fun x => x.family ≠ .unspec) = true := by
    decide +kernel
  refine ⟨hTwo, (targets_asked
    (reachable_runTo _ (.init searchingServer_initial))
    (by decide +kernel) (by decide +kernel) ?_).2 ?_⟩
  · intro addresses hIn x hX
    have hList := List.all_eq_true.mp hAll addresses
      (List.mem_filterMap.mpr ⟨_, hIn, rfl⟩)
    exact of_decide_eq_true (List.all_eq_true.mp hList x hX)
  · intro hNil
    have hBad : (unnoticedWorld.conn 0).tries.length = 0 :=
      congrArg List.length hNil
    nomatch hTwo.symm.trans hBad

end Socks5d
