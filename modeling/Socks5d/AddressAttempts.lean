import Socks5d.ReplyDecisions

/-
  The addresses of a domain name: what becomes of each, when
  they are tried as they should be, and the attempts that
  `connecting_init` and `connecting_write` make.

  Main declarations:
    * `Outcome`, `Conn.Follows`, `Conn.Served`, `Favourable`
    * `Conn.FallsBack`
    * `Trying`, `Trying.retry`, `ConnectingInit.trying`
-/

------------------------------------------------------------
-- Attempts And Outcomes
------------------------------------------------------------

namespace Socks5d

def Ev.attempt? : Ev → Option Attempt
| .connect attempt => some attempt
| _ => none

/- The calls of `connect`, in order. -/
def Conn.tries (c : Conn) : List Attempt :=
  c.log.filterMap Ev.attempt?

/- The length of a socket address of the family. -/
def Family.addrLen : Family → Nat
| .inet => sockaddrLen
| .inet6 => sockaddrIn6Len
| .unspec => 0

/-
  The attempt is for the address, with its length, on an open
  descriptor that `socket` returned for its family.
-/
structure Conn.Aims
    (c : Conn)
    (attempt : Attempt)
    (address : Addrinfo) : Prop where
  addr : attempt.addr = address.addr
  addrLen : attempt.addrLen = address.family.addrLen
  opened : attempt.domain ≠ none
  socket : .socket address.family (some attempt.fd) ∈ c.log

/- What connecting to an address comes to. -/
inductive Outcome where
  | refused
  | refusedLater
  | accepted
deriving DecidableEq

/- What `connect` answers for the address. -/
def Outcome.connects : Outcome → ConnectAnswer → Bool
| refused, .failed _ => true
| refusedLater, .inProgress => true
| accepted, .inProgress => true
| accepted, .connected => true
| _, _ => false

/- What `SO_ERROR` is after that. -/
def Outcome.reads : Outcome → Option (Option Errno) → Bool
| refusedLater, some (some _) => true
| accepted, some none => true
| _, _ => false

/-
  The system answers as the outcomes of the addresses say:
  with `left` more of them to try, `SO_ERROR` is read for the
  one before these.
-/
structure Conn.Follows
    (c : Conn)
    (outcomes : List Outcome) : Prop where
  connects : ∀ (i : Nat) attempt outcome,
    c.tries[i]? = some attempt →
      outcomes[i]? = some outcome →
        outcome.connects attempt.answer = true
  reads : ∀ result left outcome,
    .soError result left ∈ c.log →
      outcomes.reverse[left]? = some outcome →
        outcome.reads result = true

/- `EINPROGRESS` -/
def Attempt.pending (attempt : Attempt) : Bool :=
  attempt.answer = .inProgress

/-
  The socket is there and nonblocking, `connect` never
  succeeds at once, and the selector has a slot for the socket
  when the first attempt gets under way.
-/
structure Conn.Served (c : Conn) : Prop where
  socket : ∀ domain, .socket domain none ∉ c.log
  nonblocking : .nonblocking false ∉ c.log
  later : ∀ attempt ∈ c.tries, attempt.answer ≠ .connected
  slot : ∀ attempt ∈ c.tries.find? Attempt.pending,
    attempt.registrable = true

/-
  The first address accepts; or none does, all are of one
  family, and at most one before the last is refused later.
-/
def Favourable
    (addresses : List Addrinfo)
    (outcomes : List Outcome) : Prop :=
  outcomes.head? = some .accepted ∨
    (.accepted ∉ outcomes ∧
      (∀ x ∈ addresses, ∀ y ∈ addresses,
        x.family = y.family) ∧
      outcomes.dropLast.count .refusedLater ≤ 1)

/-
  The addresses are tried in order up to the first that
  accepts, which is answered and relayed; a failure is the
  answer when all of them were tried and none accepts.
-/
structure Conn.FallsBack
    (c : Conn)
    (addresses : List Addrinfo)
    (outcomes : List Outcome) : Prop where
  order : ∃ tried, tried <+: addresses ∧
    List.Forall₂ c.Aims c.tries tried
  stops : ∀ i, i + 1 < c.tries.length →
    outcomes[i]? ≠ some .accepted
  leaves : ∀ state, c.current = some state →
    REQUEST_CONNECTING < state →
      .enter REQUEST_WRITE ∈ c.log
  answers : .enter REQUEST_WRITE ∈ c.log →
    (c.stored = [.succeeded] ∧
        ∃ i, c.tries.length = i + 1 ∧
          outcomes[i]? = some .accepted) ∨
      (c.stored ≠ [] ∧ .succeeded ∉ c.stored ∧
        c.tries.length = addresses.length ∧
        .accepted ∉ outcomes)
  relays : .enter COPY ∈ c.log → .accepted ∈ outcomes
  carries : c.current = some COPY →
    ∃ attempt, c.tries.getLast? = some attempt ∧
      attempt.fd = c.originFd
  ends : .enter DONE ∈ c.log → .accepted ∈ outcomes →
    .enter COPY ∈ c.log

end Socks5d

namespace Socks5d

section Ledgers

variable {c d : Conn}
variable {addresses : List Addrinfo}
variable {outcomes : List Outcome}

/- The calls of `connect` in two histories. -/
theorem Conn.Grows.tries
    {P : Ev → Prop}
    (h : c.Grows P d) : c.tries <+: d.tries := by
  rcases h with ⟨events, hEq, _⟩
  unfold Conn.tries
  rw [hEq, List.filterMap_append]
  exact List.prefix_append _ _

theorem Conn.Grows.tries_eq
    (h : c.Grows (fun event => event.attempt? = none) d) :
    d.tries = c.tries :=
  h.filterMap _ fun _ hEvent => hEvent

/- A shorter history follows the same outcomes. -/
theorem Conn.Follows.before
    {P : Ev → Prop}
    (h : d.Follows outcomes)
    (hGrows : c.Grows P d) : c.Follows outcomes where
  connects := by
    intro i attempt outcome hTry
    apply h.connects i attempt outcome
    rcases hGrows.tries with ⟨more, hMore⟩
    have hLt := (List.getElem?_eq_some_iff.mp hTry).1
    rw [← hMore, List.getElem?_append_left hLt, hTry]
  reads := fun result left outcome hRead =>
    h.reads result left outcome (hGrows.mem hRead)

theorem Conn.Served.before
    {P : Ev → Prop}
    (h : d.Served)
    (hGrows : c.Grows P d) : c.Served where
  socket := fun domain hBad =>
    h.socket domain (hGrows.mem hBad)
  nonblocking := fun hBad => h.nonblocking (hGrows.mem hBad)
  later := fun attempt hTry =>
    h.later attempt (hGrows.tries.subset hTry)
  slot := by
    intro attempt hFirst
    rcases hGrows.tries with ⟨more, hMore⟩
    apply h.slot attempt
    rw [← hMore, List.find?_append, hFirst]
    rfl

/- An attempt stays aimed as it was. -/
theorem Conn.Grows.aims
    {P : Ev → Prop}
    (h : c.Grows P d)
    {tries : List Attempt}
    (hAims : List.Forall₂ c.Aims tries addresses) :
    List.Forall₂ d.Aims tries addresses :=
  hAims.imp fun _ _ hAim =>
    ⟨hAim.addr, hAim.addrLen, hAim.opened, h.mem hAim.socket⟩

/- An outcome is that of the answer. -/
theorem Outcome.pending
    {outcome : Outcome}
    {attempt : Attempt}
    (h : outcome.connects attempt.answer = true)
    (hNot : outcome ≠ .accepted) :
    attempt.pending = true ↔ outcome = .refusedLater := by
  unfold Attempt.pending
  cases outcome with
  | refused =>
      cases hAnswer : attempt.answer with
      | failed errno =>
          exact ⟨fun hBad => (nomatch hBad), fun hBad =>
            (nomatch hBad)⟩
      | inProgress => rw [hAnswer] at h; nomatch h
      | connected => rw [hAnswer] at h; nomatch h
  | refusedLater =>
      cases hAnswer : attempt.answer with
      | failed errno => rw [hAnswer] at h; nomatch h
      | inProgress => decide
      | connected => rw [hAnswer] at h; nomatch h
  | accepted => exact absurd rfl hNot

/- Attempts under way are for addresses that refuse later. -/
theorem pending_le
    (tries : List Attempt)
    (outcomes : List Outcome)
    (hLength : tries.length ≤ outcomes.length)
    (hNot : .accepted ∉ outcomes)
    (hConnects : ∀ (i : Nat) attempt outcome,
      tries[i]? = some attempt →
        outcomes[i]? = some outcome →
          outcome.connects attempt.answer = true) :
    tries.countP Attempt.pending ≤
      (outcomes.take tries.length).count .refusedLater := by
  induction tries generalizing outcomes with
  | nil => exact Nat.zero_le _
  | cons attempt rest ih =>
      cases outcomes with
      | nil => nomatch hLength
      | cons outcome others =>
          rw [List.mem_cons, not_or] at hNot
          have hRest := ih others
            (Nat.le_of_succ_le_succ hLength) hNot.2
            (fun i => hConnects (i + 1))
          have hHead := Outcome.pending
            (hConnects 0 attempt outcome rfl rfl)
            (Ne.symm hNot.1)
          rw [List.length_cons, List.take_succ_cons,
            List.countP_cons, List.count_cons]
          by_cases hPending : attempt.pending = true
          · rw [if_pos hPending, if_pos (by
              rw [hHead.mp hPending]; decide)]
            omega
          · rw [if_neg hPending]
            omega

end Ledgers

end Socks5d

------------------------------------------------------------
-- One Attempt
------------------------------------------------------------

namespace Socks5d

/- Events of one attempt. -/
def Ev.ofAttempt (attempt : Attempt) : Ev → Prop
| .connect other => other = attempt
| .reply status => status ≠ .succeeded
| _ => False

/-
  One call of `connection`: the socket is kept unless it was
  under way and had no slot.
-/
structure Conn.Makes
    (c : Conn)
    (attempt : Attempt)
    (d : Conn) : Prop where
  tries : d.tries = c.tries ++ [attempt]
  grows : c.Grows (Ev.ofAttempt attempt) d
  list : d.resolutionCurrent = c.resolutionCurrent
  addrLen : d.originAddrLen = c.originAddrLen
  fd : d.originFd = c.originFd ∨
    (d.originFd = -1 ∧ attempt.pending = true ∧
      attempt.registrable = false)

section Attempts

variable {key : Key}
variable {a : Answers}
variable {s t : St}
variable {c d : Conn}
variable {attached : Attachment}
variable {attempt : Attempt}
variable {result : St × SocksReplyStatus}

/- A reply of a failure is no attempt. -/
theorem Conn.Makes.refused
    (h : c.Makes attempt t.conn)
    (attached : Attachment)
    {status : SocksReplyStatus}
    (hStatus : status ≠ .succeeded) :
    c.Makes attempt
      (refusedWith t attached status).conn := by
  rw [refusedWith_conn]
  rcases replied_eq { t with conn.connStatus := status }
    status with ⟨wb, log, hEq, hLog⟩
  rw [hEq]
  have hMore : t.conn.Grows (Ev.ofAttempt attempt)
      { t.conn with
        connStatus := status
        writeBuffer := wb
        log := t.conn.log ++ log } := by
    refine ⟨log, rfl, ?_⟩
    intro event hEvent
    rw [hLog event hEvent]
    exact hStatus
  have hPlain : t.conn.Grows
      (fun event => event.attempt? = none)
      { t.conn with
        connStatus := status
        writeBuffer := wb
        log := t.conn.log ++ log } := by
    refine ⟨log, rfl, ?_⟩
    intro event hEvent
    rw [hLog event hEvent]
    rfl
  exact ⟨hPlain.tries_eq.trans h.tries, h.grows.trans hMore,
    h.list, h.addrLen, h.fd⟩

theorem attempted_makes
    (s : St)
    (a : Answers) :
    s.conn.Makes (connectAttempt a s)
      (attempted a s).conn where
  tries := by
    show (s.conn.log ++ [Ev.connect _]).filterMap
      Ev.attempt? = _
    rw [List.filterMap_append]
    rfl
  grows := .single rfl rfl
  list := rfl
  addrLen := rfl
  fd := Or.inl rfl

theorem Connection.makes
    (h : Connection key a s attached result) :
    s.conn.Makes (connectAttempt a s) result.1.conn := by
  have hTried := attempted_makes s a
  have hGeneral : SocksReplyStatus.generalSocksServerFailure ≠
      .succeeded := by decide
  cases h with
  | refused errno hAnswer =>
      refine Conn.Makes.refused (t := { attempted a s with
        conn.request.status := errnoToSocks (some errno) })
        ?_ attached (errnoToSocks_ne errno)
      exact ⟨hTried.tries, hTried.grows, rfl, rfl, Or.inl rfl⟩
  | underway hAnswer hFree => exact hTried
  | blocked hAnswer hTaken =>
      have hRefused := Conn.Makes.refused
        (t := (attempted a s).arm key.fd opNoop attached)
        hTried attached hGeneral
      refine ⟨hRefused.tries, hRefused.grows, hRefused.list,
        hRefused.addrLen, Or.inr ⟨rfl, ?_, hTaken⟩⟩
      unfold Attempt.pending
      rw [hAnswer]
      rfl
  | atOnce hAnswer hFree => exact hTried
  | atOnceBlocked hAnswer hTaken =>
      exact Conn.Makes.refused
        (t := (takeReference key (attempted a s)).arm key.fd
          opRead attached) hTried attached hGeneral

/- No success is answered. -/
theorem Conn.Makes.replies
    (h : c.Makes attempt d)
    (hNone : .succeeded ∉ c.stored) :
    .succeeded ∉ d.stored := by
  intro hBad
  rcases List.mem_filterMap.mp hBad with ⟨event, hIn, hReply⟩
  rcases h.grows.new hIn with hOld | hNew
  · exact hNone (List.mem_filterMap.mpr ⟨event, hOld, hReply⟩)
  · cases event with
    | reply status =>
        exact hNew (Option.some.inj hReply)
    | _ => nomatch hReply

end Attempts

end Socks5d

------------------------------------------------------------
-- The Next Address
------------------------------------------------------------

namespace Socks5d

/-
  The attempts that were made so far: one for each address up
  to the current one, with a socket for the first one.
-/
structure Trying
    (addresses : List Addrinfo)
    (outcomes : List Outcome)
    (c : Conn) : Prop where
  placed : ∃ earlier current rest,
    addresses = earlier ++ current :: rest ∧
      List.Forall₂ c.Aims c.tries (earlier ++ [current]) ∧
      c.resolutionCurrent = current :: rest
  addrLen : ∀ first, addresses.head? = some first →
    c.originAddrLen = first.family.addrLen
  socket : ∀ first, addresses.head? = some first →
    c.originFd ≠ -1 →
      .socket first.family (some c.originFd) ∈ c.log
  kept : c.originFd = -1 →
    2 ≤ c.tries.countP Attempt.pending
  going : (c.connStatus = .succeeded ∧ c.tries.length = 1) ∨
    (c.connStatus ≠ .succeeded ∧ .accepted ∉ outcomes ∧
      .succeeded ∉ c.stored)
  carried : c.connStatus = .succeeded →
    ∀ attempt ∈ c.tries, attempt.fd = c.originFd

/- None accepts, and one socket does for all. -/
def Hopeless
    (addresses : List Addrinfo)
    (outcomes : List Outcome) : Prop :=
  .accepted ∉ outcomes ∧
    (∀ x ∈ addresses, ∀ y ∈ addresses,
      x.family = y.family) ∧
    outcomes.dropLast.count .refusedLater ≤ 1

section Retries

variable {k : ConnId}
variable {key : Key}
variable {a : Answers}
variable {s t : St}
variable {c d : Conn}
variable {attached : Attachment}
variable {result : St × SocksReplyStatus}
variable {addresses : List Addrinfo}
variable {outcomes : List Outcome}

theorem aimNext_known
    {next : Addrinfo}
    (hKnown : next.family ≠ .unspec)
    (rest : List Addrinfo)
    (s : St) :
    aimNext next rest s =
      { s with
        conn.resolutionCurrent := next :: rest
        conn.originAddr := next.addr } := by
  unfold aimNext
  rw [if_neg hKnown]

/- The socket is still open while there are addresses. -/
theorem Trying.open
    (h : Trying addresses outcomes c)
    (hLength : outcomes.length = addresses.length)
    (hHopeless : Hopeless addresses outcomes)
    (hFollows : c.Follows outcomes)
    (hMore : c.resolutionCurrent.tail ≠ []) :
    c.originFd ≠ -1 := by
  intro hClosed
  rcases h.placed with ⟨earlier, current, rest, hList, hAims,
    hRest⟩
  have hTries : c.tries.length = earlier.length + 1 := by
    rw [hAims.length_eq, List.length_append,
      List.length_singleton]
  have hSome : 0 < rest.length := by
    rw [hRest, List.tail_cons] at hMore
    exact List.length_pos_iff.mpr hMore
  have hAll : addresses.length =
      earlier.length + rest.length + 1 := by
    rw [hList, List.length_append, List.length_cons]
    omega
  have hPending := pending_le c.tries outcomes (by omega)
    hHopeless.1 hFollows.connects
  have hLast : (outcomes.take c.tries.length).count
      .refusedLater ≤ outcomes.dropLast.count
        .refusedLater := by
    apply List.Sublist.count_le
    rw [List.dropLast_eq_take]
    exact (List.take_prefix_take_left
      (by omega)).sublist
  have hKept := h.kept hClosed
  have hOne := hHopeless.2.2
  omega

/- One more address is tried. -/
theorem Trying.retry
    {next : Addrinfo}
    {rest : List Addrinfo}
    (h : Trying addresses outcomes s.conn)
    (hStatus : s.conn.connStatus ≠ .succeeded)
    (hLength : outcomes.length = addresses.length)
    (hKnown : ∀ x ∈ addresses, x.family ≠ .unspec)
    (hHopeless : Hopeless addresses outcomes)
    (hOwns : Owns k s.srv.sel s.conn)
    (hNext : nextAddresses s = next :: rest)
    (hResult : Connection key a (aimNext next rest s) attached
      result)
    (hFollows : result.1.conn.Follows outcomes)
    (hServed : result.1.conn.Served) :
    Trying addresses outcomes result.1.conn := by
  rcases h.placed with ⟨earlier, current, others, hList,
    hAims, hRest⟩
  have hOthers : others = next :: rest := by
    unfold nextAddresses at hNext
    rw [hRest, List.tail_cons] at hNext
    exact hNext
  rw [hOthers] at hList hRest
  have hIn : next ∈ addresses := by
    rw [hList]
    simp
  rw [aimNext_known (hKnown next hIn)] at hResult
  have hMakes := hResult.makes
  have hTries : result.1.conn.tries = s.conn.tries ++ [_] :=
    hMakes.tries
  have hGrows : s.conn.Grows (Ev.ofAttempt _)
      result.1.conn := hMakes.grows
  have hBefore : s.conn.Follows outcomes :=
    hFollows.before hGrows
  have hOpen := h.open hLength hHopeless hBefore (by
    rw [hRest]
    exact List.cons_ne_nil _ _)
  rcases h.going with ⟨hBad, _⟩ | ⟨_, hNot, hNone⟩
  · exact absurd hBad hStatus
  have hStill : result.1.conn.connStatus ≠ .succeeded := by
    rcases hResult.strikes with ⟨_, _, hSame, _⟩ |
      ⟨_, hFailed, _⟩
    · rw [hSame]
      exact hStatus
    · exact hFailed
  -- the first address has the family of all of them
  have hFirst : ∃ first, addresses.head? = some first ∧
      first.family = next.family := by
    cases hHead : addresses.head? with
    | none =>
        rw [List.head?_eq_none_iff.mp hHead] at hIn
        nomatch hIn
    | some first =>
        refine ⟨first, rfl, ?_⟩
        exact hHopeless.2.1 first (List.mem_of_head? hHead)
          next hIn
  rcases hFirst with ⟨first, hHead, hFamily⟩
  have hSocket : .socket next.family (some s.conn.originFd) ∈
      s.conn.log := by
    rw [← hFamily]
    exact h.socket first hHead hOpen
  refine ⟨⟨earlier ++ [current], next, rest, ?_, ?_,
    hMakes.list⟩, ?_, ?_, ?_, Or.inr ⟨?_, hNot,
      hMakes.replies hNone⟩, ?_⟩
  · rw [hList, List.append_assoc]
    rfl
  · rw [hTries]
    refine List.rel_append (hGrows.aims hAims)
      (.cons ⟨rfl, ?_, ?_, hGrows.mem hSocket⟩ .nil)
    · show s.conn.originAddrLen = _
      rw [h.addrLen first hHead, hFamily]
    · rcases hOwns.origin with hBad | ⟨domain, hDomain⟩
      · exact absurd hBad hOpen
      · show (s.srv.sel.opened s.conn.originFd).bind
          Holder.domain? ≠ none
        rw [hDomain]
        exact Option.some_ne_none domain
  · intro x hX
    rw [hMakes.addrLen]
    exact h.addrLen x hX
  · intro x hX hFd
    rcases hMakes.fd with hSame | ⟨hBad, _⟩
    · rw [hSame]
      exact hGrows.mem (h.socket x hX hOpen)
    · exact absurd hBad hFd
  · intro hClosed
    rcases hMakes.fd with hSame | ⟨_, hPending, hTaken⟩
    · exact absurd (hSame.symm.trans hClosed) hOpen
    · -- the first attempt under way has had its slot
      have hEarlier : 0 < s.conn.tries.countP
          Attempt.pending := by
        rw [List.countP_pos_iff]
        by_contra hNever
        push Not at hNever
        have hFind := hServed.slot _ (by
          rw [hTries, List.find?_append,
            List.find?_eq_none.mpr hNever,
            List.find?_singleton, if_pos hPending]
          rfl)
        nomatch hFind.symm.trans hTaken
      rw [hTries, List.countP_append,
        List.countP_singleton, if_pos hPending]
      exact Nat.succ_le_succ hEarlier
  · exact hStill
  · exact fun hBad => absurd hBad hStill

end Retries

end Socks5d

------------------------------------------------------------
-- The First Address
------------------------------------------------------------

namespace Socks5d

section Starting

variable {key : Key}
variable {a : Answers}
variable {s t u : St}
variable {attached : Attachment}
variable {result : St × SocksReplyStatus}
variable {first : Addrinfo}
variable {others : List Addrinfo}
variable {outcomes : List Outcome}

/- The first address does not accept. -/
theorem Favourable.hopeless
    {addresses : List Addrinfo}
    (h : Favourable addresses outcomes)
    (hFirst : outcomes.head? ≠ some .accepted) :
    Hopeless addresses outcomes := by
  rcases h with hBad | hHopeless
  · exact absurd hBad hFirst
  · exact hHopeless

theorem takeAddress_known
    (hKnown : first.family ≠ .unspec)
    (s : St) :
    takeAddress first s =
      { s with
        conn.originDomain := first.family
        conn.originAddrLen := first.family.addrLen
        conn.originAddr := first.addr } := by
  unfold takeAddress
  cases hFamily : first.family with
  | unspec => exact absurd hFamily hKnown
  | inet => rfl
  | inet6 => rfl

/- The socket is there, and `connect` is called on it. -/
theorem ConnectingInit.connects
    (h : ConnectingInit key a s attached u)
    (hServed : u.conn.Served) :
    ∃ fd result, s.srv.sel.grant a.socket = some fd ∧
      Connection key a
        (withSocket key a fd (connectingStarted (some fd) s))
        attached result ∧
      u = { result.1 with conn.connStatus := result.2 } := by
  cases h with
  | noSocket hNone =>
      have hAside := refusedWith_aside
        (s := { connectingStarted none s with
          conn.originFd := -1 })
        (Conn.Aside.refl _) attached
          .generalSocksServerFailure
      refine absurd (hAside.grows.mem ?_)
        (hServed.socket s.conn.originDomain)
      exact List.mem_append_right _
        (List.mem_singleton.mpr rfl)
  | notSet fd hSome hNio =>
      have hAside := refusedWith_aside
        (s := withSocket key a fd
          (connectingStarted (some fd) s))
        (Conn.Aside.refl _) attached
          .generalSocksServerFailure
      refine absurd (hAside.grows.mem ?_) hServed.nonblocking
      rw [← hNio]
      exact List.mem_append_right _
        (List.mem_singleton.mpr rfl)
  | connected fd hSome hNio result hResult =>
      exact ⟨fd, result, hSome, hResult, rfl⟩

/- The call of `socket` is no attempt and no answer. -/
theorem withSocket_ledgers
    (key : Key)
    (a : Answers)
    (fd : Fd)
    (s : St) :
    (withSocket key a fd
        (connectingStarted (some fd) s)).conn.tries =
        s.conn.tries ∧
      (withSocket key a fd
        (connectingStarted (some fd) s)).conn.stored =
        s.conn.stored := by
  have hPlain : ∀ {α : Type} (f : Ev → Option α),
      f (.socket s.conn.originDomain (some fd)) = none →
        f (.nonblocking a.nio) = none →
          (withSocket key a fd (connectingStarted (some fd)
            s)).conn.log.filterMap f =
              s.conn.log.filterMap f := by
    intro α f hSocket hNio
    show ((s.conn.log ++ [_]) ++ [_]).filterMap f = _
    rw [List.filterMap_append, List.filterMap_append,
      List.filterMap_cons_none hSocket,
      List.filterMap_cons_none hNio]
    exact (List.append_nil _).trans (List.append_nil _)
  exact ⟨hPlain Ev.attempt? rfl rfl, hPlain Ev.status? rfl rfl⟩

theorem Connection.first_try
    (hResult : Connection key a t attached result)
    (hTries : t.conn.tries = []) :
    result.1.conn.tries = [connectAttempt a t] := by
  rw [hResult.makes.tries, hTries]
  rfl

/- The selector had a slot for the first attempt. -/
theorem Connection.first_slot
    (hResult : Connection key a t attached result)
    (hTries : t.conn.tries = [])
    (hServed : result.1.conn.Served)
    (hPending : (connectAttempt a t).pending = true) :
    (connectAttempt a t).registrable = true := by
  apply hServed.slot
  show result.1.conn.tries.find? _ = _
  rw [hResult.first_try hTries, List.find?_singleton,
    if_pos hPending]

/- So its socket is kept. -/
theorem Connection.first_kept
    (hResult : Connection key a t attached result)
    (hTries : t.conn.tries = [])
    (hServed : result.1.conn.Served) :
    result.1.conn.originFd = t.conn.originFd := by
  rcases hResult.makes.fd with hSame | ⟨_, hPending, hTaken⟩
  · exact hSame
  · have hFree := hResult.first_slot hTries hServed hPending
    nomatch hFree.symm.trans hTaken

/- It fails only if it is refused. -/
theorem Connection.first_failed
    (hResult : Connection key a t attached result)
    (hTries : t.conn.tries = [])
    (hServed : result.1.conn.Served)
    (hStatus : result.2 ≠ .succeeded) :
    Outcome.accepted.connects (connectAttempt a t).answer =
      false := by
  have hFree := hResult.first_slot hTries hServed
  have hOne := hResult.first_try hTries
  cases hResult with
  | refused errno hFailed => rw [hFailed]; rfl
  | underway => exact absurd rfl hStatus
  | blocked hPending hTaken =>
      have hBad := hFree (by
        unfold Attempt.pending
        rw [hPending]
        rfl)
      nomatch hBad.symm.trans hTaken
  | atOnce => exact absurd rfl hStatus
  | atOnceBlocked hConnected =>
      refine absurd hConnected (hServed.later _ ?_)
      exact hOne ▸ List.mem_singleton.mpr rfl

/- The first attempt is made, and fails only if refused. -/
theorem ConnectingInit.trying
    (h : ConnectingInit key a s attached u)
    (hTries : s.conn.tries = [])
    (hStored : s.conn.stored = [])
    (hList : s.conn.resolutionCurrent = first :: others)
    (hAddr : s.conn.originAddr = first.addr)
    (hLen : s.conn.originAddrLen = first.family.addrLen)
    (hDomain : s.conn.originDomain = first.family)
    (hFavourable : Favourable (first :: others) outcomes)
    (hFollows : u.conn.Follows outcomes)
    (hServed : u.conn.Served) :
    Trying (first :: others) outcomes u.conn := by
  rcases h.connects hServed with
    ⟨fd, result, hSome, hResult, rfl⟩
  have hWell : result.1.conn.Served :=
    ⟨hServed.socket, hServed.nonblocking, hServed.later,
      hServed.slot⟩
  rcases withSocket_ledgers key a fd s with
    ⟨hSameTries, hSameStored⟩
  rw [hTries] at hSameTries
  rw [hStored] at hSameStored
  have hMakes := hResult.makes
  have hOne := hResult.first_try hSameTries
  have hKept : result.1.conn.originFd = fd :=
    hResult.first_kept hSameTries hWell
  have hSocket : .socket first.family (some fd) ∈
      result.1.conn.log := by
    rw [← hDomain]
    refine hMakes.grows.mem ?_
    exact List.mem_append_left _ (List.mem_append_right _
      (List.mem_singleton.mpr rfl))
  refine ⟨⟨[], first, others, rfl, ?_, ?_⟩, ?_, ?_, ?_, ?_,
    ?_⟩
  · show List.Forall₂ _ result.1.conn.tries _
    rw [hOne]
    refine .cons ⟨hAddr, hLen, ?_, hSocket⟩ .nil
    show ((Function.update s.srv.sel.opened fd (some
      (.origin key.data s.conn.originDomain))) fd).bind
        Holder.domain? ≠ none
    rw [Function.update_self]
    exact Option.some_ne_none _
  · exact hMakes.list.trans hList
  · intro x hX
    rw [← Option.some.inj hX]
    exact hMakes.addrLen.trans hLen
  · intro x hX _
    rw [← Option.some.inj hX]
    show .socket _ (some result.1.conn.originFd) ∈
      result.1.conn.log
    rw [hKept]
    exact hSocket
  · intro hClosed
    have hValid := (Selector.grant_eq_some hSome).1
    have hBad : fd = -1 := hKept.symm.trans hClosed
    rw [hBad] at hValid
    exact absurd hValid (by decide)
  · by_cases hStatus : result.2 = .succeeded
    · refine Or.inl ⟨hStatus, ?_⟩
      show result.1.conn.tries.length = 1
      rw [hOne]
      rfl
    · have hNone : .succeeded ∉ result.1.conn.stored := by
        apply hMakes.replies
        rw [hSameStored]
        exact List.not_mem_nil
      refine Or.inr ⟨hStatus, ?_, hNone⟩
      refine (hFavourable.hopeless ?_).1
      intro hAccepted
      rw [List.head?_eq_getElem?] at hAccepted
      have hAnswer := hFollows.connects 0 _ _ (by
        show result.1.conn.tries[0]? = _
        rw [hOne]
        rfl) hAccepted
      rw [hResult.first_failed hSameTries hWell hStatus]
        at hAnswer
      nomatch hAnswer
  · intro _ attempt hTry
    have hTry' : attempt ∈ result.1.conn.tries := hTry
    rw [hOne, List.mem_singleton] at hTry'
    rw [hTry']
    exact hKept.symm

end Starting

end Socks5d
