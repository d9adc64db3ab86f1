import Socks5d.AddressAttempts

/-
  The answer to a request for a domain name, after the
  attempts at its addresses, in every reachable state.

  Main declarations:
    * `Settled`, `Trying.failed`
    * `ConnectingWrite.settles`
    * `Concluded`, `FallbackAccount`
    * `falls_back`
-/

------------------------------------------------------------
-- The Answer
------------------------------------------------------------

namespace Socks5d

/- What is answered, before `REQUEST_WRITE` is entered. -/
structure Settled
    (addresses : List Addrinfo)
    (outcomes : List Outcome)
    (c : Conn) : Prop where
  order : ∃ tried, tried <+: addresses ∧
    List.Forall₂ c.Aims c.tries tried
  answers :
    (c.stored = [.succeeded] ∧ c.tries.length = 1 ∧
        outcomes.head? = some .accepted) ∨
      (c.stored ≠ [] ∧ .succeeded ∉ c.stored ∧
        c.tries.length = addresses.length ∧
        .accepted ∉ outcomes)
  status : c.connStatus = .succeeded ↔ .accepted ∈ outcomes
  carried : .accepted ∈ outcomes →
    ∀ attempt ∈ c.tries, attempt.fd = c.originFd

section Answering

variable {k : ConnId}
variable {key : Key}
variable {a : Answers}
variable {s t : St}
variable {c d : Conn}
variable {attached : Attachment}
variable {r : St × Nat}
variable {addresses : List Addrinfo}
variable {outcomes : List Outcome}

theorem Trying.order
    (h : Trying addresses outcomes c) :
    ∃ tried, tried <+: addresses ∧
      List.Forall₂ c.Aims c.tries tried := by
  rcases h.placed with ⟨earlier, current, rest, hList, hAims,
    _⟩
  refine ⟨earlier ++ [current], ⟨rest, ?_⟩, hAims⟩
  rw [hList, List.append_assoc]
  rfl

/- The order stays when nothing more is tried. -/
theorem Conn.Grows.order
    (h : c.Grows (fun event => event.attempt? = none) d)
    (hOrder : ∃ tried, tried <+: addresses ∧
      List.Forall₂ c.Aims c.tries tried) :
    ∃ tried, tried <+: addresses ∧
      List.Forall₂ d.Aims d.tries tried := by
  rcases hOrder with ⟨tried, hPrefix, hAims⟩
  refine ⟨tried, hPrefix, ?_⟩
  rw [h.tries_eq]
  exact h.aims hAims

/- At the last address all were tried. -/
theorem Trying.all
    (h : Trying addresses outcomes s.conn)
    (hNone : nextAddresses s = []) :
    s.conn.tries.length = addresses.length := by
  rcases h.placed with ⟨earlier, current, rest, hList, hAims,
    hRest⟩
  unfold nextAddresses at hNone
  rw [hRest, List.tail_cons] at hNone
  rw [hList, hAims.length_eq, hNone]

/- `SO_ERROR` is read for the first address only. -/
theorem Trying.reads
    (h : Trying addresses outcomes s.conn)
    (hLength : outcomes.length = addresses.length)
    (hOne : s.conn.tries.length = 1) :
    outcomes.reverse[(nextAddresses s).length]? =
      outcomes.head? := by
  rcases h.placed with ⟨earlier, current, rest, hList, hAims,
    hRest⟩
  have hTried := hAims.length_eq
  rw [hOne, List.length_append, List.length_singleton]
    at hTried
  have hAll : outcomes.length = rest.length + 1 := by
    rw [hLength, hList, List.length_append, List.length_cons]
    omega
  unfold nextAddresses
  rw [hRest, List.tail_cons,
    List.getElem?_reverse (by omega),
    List.head?_eq_getElem?]
  congr 1
  omega

/- A reply is the only thing that `replied` notes. -/
theorem replied_notes
    (s : St)
    (status : SocksReplyStatus) :
    s.conn.Grows (fun event => event.attempt? = none)
        (replied s status).conn ∧
      (replied s status).conn.connStatus =
        s.conn.connStatus := by
  rcases replied_eq s status with ⟨wb, log, hEq, hLog⟩
  rw [hEq]
  refine ⟨⟨log, rfl, ?_⟩, rfl⟩
  intro event hEvent
  rw [hLog event hEvent]
  rfl

/- A failure is answered when all the addresses were tried. -/
theorem Settled.failed
    {status : SocksReplyStatus}
    (hOrder : ∃ tried, tried <+: addresses ∧
      List.Forall₂ t.conn.Aims t.conn.tries tried)
    (hAll : t.conn.tries.length = addresses.length)
    (hNot : .accepted ∉ outcomes)
    (hNone : .succeeded ∉ t.conn.stored)
    (hSome : t.conn.stored ≠ [] ∨
      10 ≤ t.conn.writeBuffer.room)
    (hStatus : t.conn.connStatus = status)
    (hFailure : status ≠ .succeeded)
    (attached : Attachment) :
    Settled addresses outcomes
      (answeredWith t attached status).conn := by
  rw [answeredWith_conn]
  rcases replied_notes t status with ⟨hGrows, hKept⟩
  refine ⟨hGrows.order hOrder, Or.inr ⟨?_, ?_, ?_, hNot⟩, ?_,
    fun hBad => absurd hBad hNot⟩
  · by_cases hRoom : 10 ≤ t.conn.writeBuffer.room
    · rw [(replied_stored status hRoom).1]
      simp
    · rw [replied_full status (Nat.not_le.mp hRoom)]
      exact hSome.resolve_right hRoom
  · by_cases hRoom : 10 ≤ t.conn.writeBuffer.room
    · rw [(replied_stored status hRoom).1, List.mem_append,
        List.mem_singleton, not_or]
      exact ⟨hNone, hFailure.symm⟩
    · rw [replied_full status (Nat.not_le.mp hRoom)]
      exact hNone
  · rw [hGrows.tries_eq]
    exact hAll
  · rw [hKept, hStatus]
    exact ⟨fun hBad => absurd hBad hFailure, fun hBad =>
      absurd hBad hNot⟩

/- The first address refuses later. -/
theorem Trying.refusedLater
    (h : Trying addresses outcomes s.conn)
    (hGrows : s.conn.Grows
      (fun event => event.attempt? = none) t.conn)
    (hList : t.conn.resolutionCurrent =
      s.conn.resolutionCurrent)
    (hLen : t.conn.originAddrLen = s.conn.originAddrLen)
    (hFd : t.conn.originFd = s.conn.originFd)
    (hStatus : t.conn.connStatus ≠ .succeeded)
    (hNot : .accepted ∉ outcomes)
    (hNone : .succeeded ∉ t.conn.stored) :
    Trying addresses outcomes t.conn := by
  rcases h.placed with ⟨earlier, current, rest, hAll, hAims,
    hRest⟩
  refine ⟨⟨earlier, current, rest, hAll, ?_, ?_⟩, ?_, ?_, ?_,
    Or.inr ⟨hStatus, hNot, hNone⟩,
    fun hBad => absurd hBad hStatus⟩
  · rw [hGrows.tries_eq]
    exact hGrows.aims hAims
  · exact hList.trans hRest
  · intro first hFirst
    exact hLen.trans (h.addrLen first hFirst)
  · intro first hFirst hOpen
    rw [hFd] at hOpen ⊢
    exact hGrows.mem (h.socket first hFirst hOpen)
  · intro hClosed
    rw [hGrows.tries_eq]
    exact h.kept (hFd.symm.trans hClosed)

/- The attempt is known to have failed, which was answered. -/
theorem Trying.refused
    (h : Trying addresses outcomes s.conn)
    (hDue : Due s.conn REQUEST_CONNECTING)
    (hStatus : s.conn.connStatus ≠ .succeeded) :
    .accepted ∉ outcomes ∧ .succeeded ∉ s.conn.stored ∧
      s.conn.stored ≠ [] := by
  rcases h.going with ⟨hBad, _⟩ | ⟨_, hNot, hNone⟩
  · exact absurd hBad hStatus
  · refine ⟨hNot, hNone, ?_⟩
    cases hDue with
    | early _ hBad => nomatch hBad
    | request _ hBad => rcases hBad with h | h <;> nomatch h
    | attempt hBad => exact absurd hBad hStatus
    | refused _ _ hSome =>
        intro hNil
        rw [hNil] at hSome
        nomatch hSome

/- The attempt is under way, the first and only one. -/
theorem Trying.waits
    (h : Trying addresses outcomes s.conn)
    (hDue : Due s.conn REQUEST_CONNECTING)
    (hStatus : s.conn.connStatus = .succeeded) :
    s.conn.tries.length = 1 ∧ Unanswered s.conn := by
  rcases h.going with ⟨_, hOne⟩ | ⟨hBad, _⟩
  · refine ⟨hOne, ?_⟩
    cases hDue with
    | early _ hBad => nomatch hBad
    | request _ hBad => rcases hBad with h | h <;> nomatch h
    | attempt _ hNothing => exact hNothing
    | refused hBad => exact absurd hStatus hBad
  · exact absurd hStatus hBad

/- What `SO_ERROR` says of the first address. -/
theorem Trying.heard
    {result : Option (Option Errno)}
    (h : Trying addresses outcomes s.conn)
    (hLength : outcomes.length = addresses.length)
    (hOne : s.conn.tries.length = 1)
    (hFollows : c.Follows outcomes)
    (hIn : .soError result (nextAddresses s).length ∈ c.log) :
    ∃ outcome, outcomes.head? = some outcome ∧
      outcome.reads result = true := by
  have hIndex := h.reads hLength hOne
  cases hHead : outcomes.head? with
  | none =>
      have hBound : s.conn.tries.length ≤
          addresses.length := by
        rcases h.order with ⟨tried, hPrefix, hAims⟩
        rw [hAims.length_eq]
        exact hPrefix.length_le
      rw [List.head?_eq_none_iff.mp hHead] at hLength
      rw [hOne, ← hLength] at hBound
      nomatch hBound
  | some outcome =>
      refine ⟨outcome, rfl, ?_⟩
      exact hFollows.reads result _ outcome hIn
        (hIndex.trans hHead)

/- An error of the first address leaves no address. -/
theorem Trying.hopeless
    {errno : Errno}
    (h : Trying addresses outcomes s.conn)
    (hLength : outcomes.length = addresses.length)
    (hFavourable : Favourable addresses outcomes)
    (hOne : s.conn.tries.length = 1)
    (hFollows : c.Follows outcomes)
    (hIn : .soError (some (some errno))
      (nextAddresses s).length ∈ c.log) :
    Hopeless addresses outcomes := by
  rcases h.heard hLength hOne hFollows hIn with
    ⟨outcome, hHead, hRead⟩
  refine hFavourable.hopeless ?_
  intro hBad
  rw [hHead] at hBad
  rw [Option.some.inj hBad] at hRead
  nomatch hRead

/- `SO_ERROR` is read as one of the two later outcomes. -/
theorem Trying.never_unanswered
    (h : Trying addresses outcomes s.conn)
    (hLength : outcomes.length = addresses.length)
    (hOne : s.conn.tries.length = 1)
    (hFollows : (answeredWith
      (failedNoted
        (s.note (.soError none (nextAddresses s).length))
        .generalSocksServerFailure)
      attached .generalSocksServerFailure).conn.Follows
        outcomes) : False := by
  let t : St := failedNoted (s.note (.soError none
    (nextAddresses s).length)) .generalSocksServerFailure
  have hIn : .soError none (nextAddresses s).length ∈
      (answeredWith t attached
        .generalSocksServerFailure).conn.log := by
    refine (answeredWith_aside (Conn.Aside.refl t.conn)
      attached _).grows.mem ?_
    exact List.mem_append_left _
      (List.mem_append_right _
        (List.mem_singleton.mpr rfl))
  rcases h.heard hLength hOne hFollows hIn with
    ⟨outcome, _, hRead⟩
  cases outcome <;> nomatch hRead

/- The first address has accepted, which is the answer. -/
theorem Trying.established
    (h : Trying addresses outcomes s.conn)
    (hLength : outcomes.length = addresses.length)
    (hStatus : s.conn.connStatus = .succeeded)
    (hOne : s.conn.tries.length = 1)
    (hNothing : Unanswered s.conn)
    (hRoom : 10 ≤ s.conn.writeBuffer.room)
    (hFollows : (replied (Socks5d.established (s.note (.soError
      (some none) (nextAddresses s).length)))
        .succeeded).conn.Follows outcomes) :
    Settled addresses outcomes
      (replied (Socks5d.established (s.note (.soError
        (some none) (nextAddresses s).length)))
          .succeeded).conn := by
  let t : St := Socks5d.established (s.note (.soError
    (some none) (nextAddresses s).length))
  have hNoted : s.conn.Grows
      (fun event => event.attempt? = none) t.conn := by
    refine Conn.Grows.trans
      (d := (s.note (.soError (some none)
        (nextAddresses s).length)).conn)
      (.single rfl rfl) (.single rfl rfl)
  rcases replied_notes t .succeeded with ⟨hGrows, hKept⟩
  have hAll := hNoted.trans hGrows
  have hIn : .soError (some none)
      (nextAddresses s).length ∈
        (replied t .succeeded).conn.log :=
    hGrows.mem (List.mem_append_left _
      (List.mem_append_right _
        (List.mem_singleton.mpr rfl)))
  rcases h.heard hLength hOne hFollows hIn with
    ⟨outcome, hHead, hRead⟩
  have hAccepted : outcome = .accepted := by
    cases outcome with
    | refused => nomatch hRead
    | refusedLater => nomatch hRead
    | accepted => rfl
  rw [hAccepted] at hHead
  refine ⟨hAll.order h.order, Or.inl ⟨?_, ?_, hHead⟩, ?_, ?_⟩
  · show (replied _ _).conn.stored = _
    rw [(replied_stored (s := t) .succeeded hRoom).1]
    have hNil : t.conn.stored = [] := by
      rw [← hNothing.none]
      show ((s.conn.log ++ [_]) ++ [_]).filterMap
        Ev.status? = _
      rw [List.filterMap_append, List.filterMap_append]
      exact (List.append_nil _).trans
        (List.append_nil _)
    rw [hNil]
    rfl
  · show (replied _ _).conn.tries.length = 1
    rw [hAll.tries_eq]
    exact hOne
  · exact ⟨fun _ => List.mem_of_head? hHead,
      fun _ => hKept⟩
  · intro _ attempt hTry
    have hTry' : attempt ∈ s.conn.tries := by
      rw [← hAll.tries_eq]
      exact hTry
    have hFd : (replied t .succeeded).conn.originFd =
        s.conn.originFd := by
      rcases replied_eq t .succeeded with ⟨_, _, hEq, _⟩
      rw [hEq]
      rfl
    exact (h.carried hStatus attempt hTry').trans hFd.symm

/- The first address refuses, and the next one is tried. -/
theorem Trying.nextAfterError
    {errno : Errno}
    {next : Addrinfo}
    {rest : List Addrinfo}
    {result : St × SocksReplyStatus}
    (h : Trying addresses outcomes s.conn)
    (hOwns : Owns k s.srv.sel s.conn)
    (hLength : outcomes.length = addresses.length)
    (hKnown : ∀ x ∈ addresses, x.family ≠ .unspec)
    (hFavourable : Favourable addresses outcomes)
    (hOne : s.conn.tries.length = 1)
    (hNothing : Unanswered s.conn)
    (hNext : nextAddresses s = next :: rest)
    (hResult : Connection key a
      (aimNext next rest
        { s.note (.soError (some (some errno))
              (nextAddresses s).length) with
          conn.connStatus := errnoToSocks (some errno) })
      attached result)
    (hFollows : result.1.conn.Follows outcomes)
    (hServed : result.1.conn.Served) :
    Trying addresses outcomes result.1.conn := by
  let t : St := { s.note (.soError (some (some errno))
      (nextAddresses s).length) with
    conn.connStatus := errnoToSocks (some errno) }
  have hNoted : s.conn.Grows
      (fun event => event.attempt? = none) t.conn :=
    .single rfl rfl
  have hIn : .soError (some (some errno))
      (nextAddresses s).length ∈ result.1.conn.log := by
    have hLog := (hResult.aside (aimNext_aside
      (Conn.Aside.refl t.conn) next rest)).grows
    exact hLog.mem (List.mem_append_right _
      (List.mem_singleton.mpr rfl))
  have hHopeless := h.hopeless hLength hFavourable hOne
    hFollows hIn
  have hNever : .succeeded ∉ t.conn.stored := by
    have hSame : t.conn.stored = s.conn.stored := by
      show (s.conn.log ++ [_]).filterMap Ev.status? = _
      rw [List.filterMap_append]
      exact List.append_nil _
    rw [hSame, hNothing.none]
    exact List.not_mem_nil
  have hTried := h.refusedLater (t := t) hNoted rfl
    rfl rfl (errnoToSocks_ne errno) hHopeless.1 hNever
  exact hTried.retry (s := t) (errnoToSocks_ne errno)
    hLength hKnown hHopeless (hOwns.of_eq rfl rfl rfl)
    hNext hResult hFollows hServed

/- The only address refuses, and that is answered. -/
theorem Trying.failed
    {errno : Errno}
    (h : Trying addresses outcomes s.conn)
    (hLength : outcomes.length = addresses.length)
    (hFavourable : Favourable addresses outcomes)
    (hOne : s.conn.tries.length = 1)
    (hNothing : Unanswered s.conn)
    (hNone : nextAddresses s = [])
    (hFollows : (answeredWith
      (failedNoted
        (s.note (.soError (some (some errno))
          (nextAddresses s).length))
        (errnoToSocks (some errno)))
      attached (errnoToSocks (some errno))).conn.Follows
        outcomes) :
    Settled addresses outcomes
      (answeredWith
        (failedNoted
          (s.note (.soError (some (some errno))
            (nextAddresses s).length))
          (errnoToSocks (some errno)))
        attached (errnoToSocks (some errno))).conn := by
  let t : St := failedNoted (s.note (.soError
    (some (some errno)) (nextAddresses s).length))
      (errnoToSocks (some errno))
  have hNoted : s.conn.Grows
      (fun event => event.attempt? = none) t.conn := by
    refine Conn.Grows.trans
      (d := (s.note (.soError (some (some errno))
        (nextAddresses s).length)).conn)
      (.single rfl rfl) (.single rfl rfl)
  have hIn : .soError (some (some errno))
      (nextAddresses s).length ∈
        (answeredWith t attached
          (errnoToSocks (some errno))).conn.log := by
    refine (answeredWith_aside (Conn.Aside.refl t.conn)
      attached _).grows.mem ?_
    exact List.mem_append_left _
      (List.mem_append_right _
        (List.mem_singleton.mpr rfl))
  have hHopeless := h.hopeless hLength hFavourable hOne
    hFollows hIn
  have hWide : t.conn.writeBuffer.room = 2048 :=
    Buffer.room_of_pending_nil hNothing.empty
  have hNever : .succeeded ∉ t.conn.stored := by
    have hSame : t.conn.stored = s.conn.stored := by
      show ((s.conn.log ++ [_]) ++ [_]).filterMap
        Ev.status? = _
      rw [List.filterMap_append, List.filterMap_append]
      exact (List.append_nil _).trans
        (List.append_nil _)
    rw [hSame, hNothing.none]
    exact List.not_mem_nil
  have hAll : t.conn.tries.length = addresses.length := by
    rw [hNoted.tries_eq]
    exact h.all hNone
  exact .failed (hNoted.order h.order) hAll
    hHopeless.1 hNever (Or.inr (by omega)) rfl
    (errnoToSocks_ne errno) attached

/- `connecting_write` tries the next address or answers. -/
theorem ConnectingWrite.settles
    (h : ConnectingWrite key a s attached r)
    (hTrying : Trying addresses outcomes s.conn)
    (hDue : Due s.conn REQUEST_CONNECTING)
    (hOwns : Owns k s.srv.sel s.conn)
    (hLength : outcomes.length = addresses.length)
    (hKnown : ∀ x ∈ addresses, x.family ≠ .unspec)
    (hFavourable : Favourable addresses outcomes)
    (hFollows : r.1.conn.Follows outcomes)
    (hServed : r.1.conn.Served) :
    (r.2 = REQUEST_CONNECTING ∧
        Trying addresses outcomes r.1.conn) ∨
      (r.2 = REQUEST_WRITE ∧
        Settled addresses outcomes r.1.conn) := by
  cases h with
  | nextAfterFailure next rest hStatus hNext result hResult =>
      rcases hTrying.refused hDue hStatus with ⟨hNot, _, _⟩
      have hHopeless := hFavourable.hopeless (by
        intro hBad
        exact hNot (List.mem_of_head? hBad))
      exact Or.inl ⟨rfl, hTrying.retry hStatus hLength hKnown
        hHopeless hOwns hNext hResult hFollows hServed⟩
  | gaveUp hStatus hNone =>
      rcases hTrying.refused hDue hStatus with
        ⟨hNot, hNever, hSome⟩
      have hDropped : s.conn.Grows
          (fun event => event.attempt? = none)
          (dropOrigin s).conn := .of_eq rfl
      exact Or.inr ⟨rfl, .failed (t := dropOrigin s)
        (hDropped.order hTrying.order) (hTrying.all hNone)
        hNot hNever (Or.inl hSome) rfl hStatus attached⟩
  | noAnswer hStatus hError =>
      exact (hTrying.never_unanswered hLength
        (hTrying.waits hDue hStatus).1 hFollows).elim
  | established hStatus hError hRoom =>
      rcases hTrying.waits hDue hStatus with ⟨hOne, hNothing⟩
      exact Or.inr ⟨rfl, hTrying.established hLength hStatus
        hOne hNothing hRoom hFollows⟩
  | full hStatus hError hRoom =>
      have hWide : s.conn.writeBuffer.room = 2048 :=
        Buffer.room_of_pending_nil
          (hTrying.waits hDue hStatus).2.empty
      omega
  | nextAfterError errno next rest hStatus hError hNext result
      hResult =>
      rcases hTrying.waits hDue hStatus with ⟨hOne, hNothing⟩
      exact Or.inl ⟨rfl, hTrying.nextAfterError hOwns hLength
        hKnown hFavourable hOne hNothing hNext hResult hFollows
        hServed⟩
  | failed errno hStatus hError hNone =>
      rcases hTrying.waits hDue hStatus with ⟨hOne, hNothing⟩
      exact Or.inr ⟨rfl, hTrying.failed hLength hFavourable
        hOne hNothing hNone hFollows⟩

end Answering

end Socks5d

------------------------------------------------------------
-- After The Answer
------------------------------------------------------------

namespace Socks5d

/- The request has its answer. -/
structure Concluded
    (addresses : List Addrinfo)
    (outcomes : List Outcome)
    (c : Conn) : Prop where
  order : ∃ tried, tried <+: addresses ∧
    List.Forall₂ c.Aims c.tries tried
  answers :
    (c.stored = [.succeeded] ∧ c.tries.length = 1 ∧
        outcomes.head? = some .accepted) ∨
      (c.stored ≠ [] ∧ .succeeded ∉ c.stored ∧
        c.tries.length = addresses.length ∧
        .accepted ∉ outcomes)
  current : ∃ state, c.current = some state ∧
    REQUEST_WRITE ≤ state
  entered : .enter REQUEST_WRITE ∈ c.log
  writing : c.current = some REQUEST_WRITE →
    (c.connStatus = .succeeded ↔ .accepted ∈ outcomes) ∧
      .enter COPY ∉ c.log ∧ .enter DONE ∉ c.log
  relaying : c.current = some COPY →
    .enter COPY ∈ c.log ∧ .accepted ∈ outcomes
  relays : .enter COPY ∈ c.log → .accepted ∈ outcomes
  carried : .accepted ∈ outcomes →
    (∀ state, c.current = some state → state ≤ COPY) →
      ∀ attempt ∈ c.tries, attempt.fd = c.originFd
  ends : .enter DONE ∈ c.log → .accepted ∈ outcomes →
    .enter COPY ∈ c.log

/- Neither an attempt nor a reply, and one entry at most. -/
def Ev.ofLate (next : Nat) (event : Ev) : Prop :=
  event.status? = none ∧ event.attempt? = none ∧
    ∀ state, event = .enter state → state = next

section Afterwards

variable {k : ConnId}
variable {key : Key}
variable {a : Answers}
variable {s u : St}
variable {c d : Conn}
variable {r : St × Nat}
variable {next : Nat}
variable {addresses : List Addrinfo}
variable {outcomes : List Outcome}

theorem Ev.ofState_late
    {state : Nat}
    {event : Ev}
    (h : event.ofState state)
    (hState : REQUEST_WRITE ≤ state) :
    event.ofLate next := by
  refine ⟨(Ev.ofState_aside h (Or.inr hState)).1, ?_, ?_⟩
  · unfold Ev.ofState at h
    split at h
    all_goals first
      | rfl
      | exact absurd hState (by decide)
      | exact h.elim
  · intro other hEnter
    rw [hEnter] at h
    nomatch Ev.ofState_isEnter h

/- The states after the answer have no `on_arrival` to log. -/
theorem Ev.ofArrival_late
    {state : Nat}
    {event : Ev}
    (h : event.ofArrival state)
    (hState : REQUEST_WRITE ≤ state) : False := by
  unfold Ev.ofArrival at h
  split at h
  all_goals first
    | exact absurd hState (by decide)
    | exact h

/- A call, the entry of the next state and its arrival. -/
theorem event_grows
    {P : Ev → Prop}
    (hCall : s.conn.Grows P r.1.conn)
    (hJump : SocksJump k key a r.1 r.2 u)
    (hEnter : P (.enter r.2))
    (hArrival : ∀ event : Ev, event.ofArrival r.2 → P event) :
    s.conn.Grows P u.conn := by
  rcases hJump.logs with ⟨_, hSame⟩ | ⟨_, hEnters⟩
  · rw [hSame]
    exact hCall
  · have hEntry : r.1.conn.Grows P (entered r.2 r.1).conn :=
      .single rfl hEnter
    exact (hCall.trans hEntry).trans (hEnters.mono hArrival)

/- What an event adds after the answer. -/
theorem late_grows
    {state : Nat}
    (hCall : s.conn.Grows (Ev.ofState state) r.1.conn)
    (hJump : SocksJump k key a r.1 r.2 u)
    (hState : REQUEST_WRITE ≤ state)
    (hNext : REQUEST_WRITE ≤ r.2) :
    s.conn.Grows (Ev.ofLate r.2) u.conn := by
  refine event_grows
    (hCall.mono fun _ hEvent => Ev.ofState_late hEvent hState)
    hJump ⟨rfl, rfl, ?_⟩ ?_
  · intro other hEq
    injection hEq with hEq
    exact hEq.symm
  · intro event hEvent
    exact (Ev.ofArrival_late hEvent hNext).elim

/- A state that is not the current one is entered. -/
theorem SocksJump.noted
    (h : SocksJump k key a s next u)
    (hOther : s.conn.current ≠ some next) :
    .enter next ∈ u.conn.log := by
  rcases h.logs with ⟨hSame, _⟩ | ⟨_, hEnters⟩
  · exact absurd hSame hOther
  · exact hEnters.mem (List.mem_append_right _
      (List.mem_singleton.mpr rfl))

/- The attempts and the replies stay. -/
theorem Concluded.goes
    (h : Concluded addresses outcomes c)
    (hGrows : c.Grows (Ev.ofLate next) d)
    (hNow : d.current = some next)
    (hNext : REQUEST_WRITE ≤ next)
    (hWriting : next = REQUEST_WRITE →
      (d.connStatus = .succeeded ↔ .accepted ∈ outcomes) ∧
        .enter COPY ∉ d.log ∧ .enter DONE ∉ d.log)
    (hRelaying : next = COPY →
      .enter COPY ∈ d.log ∧ .accepted ∈ outcomes)
    (hEnds : next = DONE → .accepted ∈ outcomes →
      .enter COPY ∈ c.log)
    (hOld : ∀ state, c.current = some state → state ≤ COPY)
    (hOrigin : d.originFd = c.originFd) :
    Concluded addresses outcomes d := by
  have hTries : c.Grows
      (fun event => event.attempt? = none) d :=
    hGrows.mono fun _ hEvent => hEvent.2.1
  have hStored : d.stored = c.stored :=
    hGrows.filterMap _ fun _ hEvent => hEvent.1
  have hIs : ∀ state, d.current = some state →
      next = state := fun state hState =>
    Option.some.inj (hNow.symm.trans hState)
  have hNew : ∀ state, .enter state ∈ d.log →
      .enter state ∈ c.log ∨ state = next := by
    intro state hIn
    exact (hGrows.new hIn).imp_right fun hEvent =>
      hEvent.2.2 state rfl
  constructor
  · exact hTries.order h.order
  · rw [hStored, hTries.tries_eq]
    exact h.answers
  · exact ⟨next, hNow, hNext⟩
  · exact hGrows.mem h.entered
  · exact fun hState => hWriting (hIs _ hState)
  · exact fun hState => hRelaying (hIs _ hState)
  · intro hIn
    rcases hNew _ hIn with hOld | hEq
    · exact h.relays hOld
    · exact (hRelaying hEq.symm).2
  · intro hAccepted _ attempt hTry
    rw [hTries.tries_eq] at hTry
    rw [hOrigin]
    exact h.carried hAccepted hOld attempt hTry
  · intro hIn hAccepted
    rcases hNew _ hIn with hOld | hEq
    · exact hGrows.mem (h.ends hOld hAccepted)
    · exact hGrows.mem (hEnds hEq.symm hAccepted)

/- What `request_write` and a relay return. -/
theorem SocksTurn.late
    (h : SocksTurn k key a s r)
    (hSound : s.srv.sel.Sound)
    (hOwns : Owns k s.srv.sel s.conn)
    {state : Nat}
    (hState : s.conn.current = some state)
    (hLate : REQUEST_WRITE ≤ state) :
    r.1.conn.originFd = s.conn.originFd ∧
      ((state = REQUEST_WRITE ∧
          r.1.conn.connStatus = s.conn.connStatus ∧
          (r.2 = COPY → s.conn.connStatus = .succeeded) ∧
          (r.2 = DONE → s.conn.connStatus ≠ .succeeded)) ∨
        (state = COPY ∧ (r.2 = COPY ∨ r.2 = DONE))) := by
  have hEarly : ∀ other, s.conn.current = some other →
      REQUEST_WRITE ≤ other := by
    intro other hOther
    rw [Option.some.inj (hOther.symm.trans hState)]
    exact hLate
  cases h with
  | helloRead hHere => exact absurd (hEarly _ hHere) (by decide)
  | helloWrite hHere =>
      exact absurd (hEarly _ hHere) (by decide)
  | authRead hHere => exact absurd (hEarly _ hHere) (by decide)
  | authWrite hHere => exact absurd (hEarly _ hHere) (by decide)
  | requestRead hHere =>
      exact absurd (hEarly _ hHere) (by decide)
  | requestResolvDone hHere =>
      exact absurd (hEarly _ hHere) (by decide)
  | connectingWrite hHere =>
      exact absurd (hEarly _ hHere) (by decide)
  | requestWrite hHere _ _ _ _ hCall =>
      refine ⟨?_, Or.inl
        ⟨Option.some.inj (hState.symm.trans hHere), ?_⟩⟩
      · cases hCall <;> rfl
      cases hCall with
      | failed hSend => exact ⟨rfl, nofun, nofun⟩
      | more n hSend hLeft => exact ⟨rfl, nofun, nofun⟩
      | alone n hSend hSent hStatus hOrigin =>
          exact ⟨rfl, fun _ => hStatus, nofun⟩
      | relay n hSend hSent hStatus hOrigin =>
          exact ⟨rfl, fun _ => hStatus, nofun⟩
      | done n hSend hSent hStatus =>
          exact ⟨rfl, nofun, fun _ => hStatus⟩
  | relay hHere hCopy hSlots side _ _ t hRelay =>
      refine ⟨?_, Or.inr
        ⟨Option.some.inj (hState.symm.trans hHere), ?_⟩⟩
      · have hReady := hRelay.ready hSound hOwns hCopy hSlots
        rw [copyFinish_conn hReady.1.fds hReady.2]
        exact hRelay.relayed.fds .origin
      · unfold copyFinish
        dsimp only
        split
        · exact Or.inr rfl
        · exact Or.inl rfl

/- Only an attempt changes the descriptor. -/
theorem SocksJump.kept_origin
    (h : SocksJump k key a s next u)
    (hNext : REQUEST_WRITE ≤ next) :
    u.conn.originFd = s.conn.originFd := by
  cases h with
  | stay => rfl
  | plain => rfl
  | userpassRead => exact absurd hNext (by decide)
  | requestRead => exact absurd hNext (by decide)
  | connecting => exact absurd hNext (by decide)
  | copy => rfl

/- An event after the answer. -/
theorem Concluded.keeps
    (h : Concluded addresses outcomes s.conn)
    (hSocks : s.conn.isSocks = true)
    (hSound : s.srv.sel.Sound)
    (hOwns : Owns k s.srv.sel s.conn)
    (hTurn : SocksTurn k key a s r)
    (hJump : SocksJump k key a r.1 r.2 u) :
    Concluded addresses outcomes u.conn := by
  rcases h.current with ⟨state, hState, hLate⟩
  rcases hTurn.logs hSound hOwns with ⟨here, hHere, hCall⟩
  have hEq : here = state :=
    Option.some.inj (hHere.symm.trans hState)
  rw [hEq] at hCall
  have hCurrent := (hTurn.current hSound hOwns).trans hState
  have hHeading := (hTurn.heading hSound hOwns hSocks).2
  have hNext : REQUEST_WRITE ≤ r.2 := by
    by_contra hNot
    have hLt : r.2 < REQUEST_WRITE := Nat.not_le.mp hNot
    have hForward := hHeading.forward hCurrent
      (Nat.le_trans (Nat.le_of_lt hLt) (by decide))
    exact hNot (Nat.le_trans hLate hForward)
  have hGrows := late_grows hCall hJump hLate hNext
  have hNone : ∀ other, .enter other ∉ s.conn.log →
      r.2 ≠ other → .enter other ∉ u.conn.log := by
    intro other hOld hOther hIn
    rcases hGrows.new hIn with hBad | hNew
    · exact hOld hBad
    · exact hOther (hNew.2.2 _ rfl).symm
  rcases hTurn.late hSound hOwns hState hLate with
    ⟨hOrigin, hCases⟩
  have hFd := (hJump.kept_origin hNext).trans hOrigin
  have hOld : state ≤ COPY → ∀ other,
      s.conn.current = some other → other ≤ COPY := by
    intro hLe other hOther
    rw [Option.some.inj (hOther.symm.trans hState)]
    exact hLe
  rcases hCases with
    ⟨hWrite, hSame, hCopy, hDone⟩ | ⟨hRelay, hStays⟩
  · have hLe := hOld (by rw [hWrite]; decide)
    rw [hWrite] at hState hCurrent
    rcases h.writing hState with ⟨hIff, hNoCopy, hNoDone⟩
    refine h.goes hGrows hJump.enters hNext ?_ ?_ ?_ hLe hFd
    · intro hTo
      have hKept := hJump.connStatus (by rw [hTo]; decide)
      rw [hKept, hSame]
      exact ⟨hIff, hNone _ hNoCopy (by rw [hTo]; decide),
        hNone _ hNoDone (by rw [hTo]; decide)⟩
    · intro hTo
      refine ⟨?_, hIff.mp (hCopy hTo)⟩
      rw [← hTo]
      apply hJump.noted
      rw [hCurrent, hTo]
      decide
    · intro hTo hAccepted
      exact absurd (hIff.mpr hAccepted) (hDone hTo)
  · have hLe := hOld (by rw [hRelay])
    rw [hRelay] at hState
    rcases h.relaying hState with ⟨hIn, hAccepted⟩
    refine h.goes hGrows hJump.enters hNext ?_ ?_ ?_ hLe hFd
    · intro hTo
      rw [hTo] at hStays
      exact absurd hStays (by decide)
    · exact fun _ => ⟨hGrows.mem hIn, hAccepted⟩
    · exact fun _ _ => hIn

/- `REQUEST_WRITE` is entered with the answer. -/
theorem Settled.concludes
    (h : Settled addresses outcomes s.conn)
    (hCopy : .enter COPY ∉ s.conn.log)
    (hDone : .enter DONE ∉ s.conn.log)
    (hOther : s.conn.current ≠ some REQUEST_WRITE)
    (hJump : SocksJump k key a s REQUEST_WRITE u) :
    Concluded addresses outcomes u.conn := by
  have hGrows : s.conn.Grows (Ev.ofLate REQUEST_WRITE)
      u.conn := by
    refine event_grows (r := (s, REQUEST_WRITE)) (.of_eq rfl)
      hJump ⟨rfl, rfl, ?_⟩ ?_
    · intro other hEq
      injection hEq with hEq
      exact hEq.symm
    · intro event hEvent
      exact (Ev.ofArrival_late hEvent (Nat.le_refl _)).elim
  have hTries : s.conn.Grows
      (fun event => event.attempt? = none) u.conn :=
    hGrows.mono fun _ hEvent => hEvent.2.1
  have hStored : u.conn.stored = s.conn.stored :=
    hGrows.filterMap _ fun _ hEvent => hEvent.1
  have hNone : ∀ other, .enter other ∉ s.conn.log →
      REQUEST_WRITE ≠ other → .enter other ∉ u.conn.log := by
    intro other hOld hDiffers hIn
    rcases hGrows.new hIn with hBad | hNew
    · exact hOld hBad
    · exact hDiffers (hNew.2.2 _ rfl).symm
  have hNoCopy := hNone COPY hCopy (by decide)
  have hNoDone := hNone DONE hDone (by decide)
  constructor
  · exact hTries.order h.order
  · rw [hStored, hTries.tries_eq]
    exact h.answers
  · exact ⟨_, hJump.enters, Nat.le_refl _⟩
  · exact hJump.noted hOther
  · intro _
    rw [hJump.connStatus (by decide)]
    exact ⟨h.status, hNoCopy, hNoDone⟩
  · intro hBad
    nomatch hJump.enters.symm.trans hBad
  · exact fun hIn => absurd hIn hNoCopy
  · intro hAccepted _ attempt hTry
    rw [hTries.tries_eq] at hTry
    rw [hJump.kept_origin (Nat.le_refl _)]
    exact h.carried hAccepted attempt hTry
  · exact fun hIn => absurd hIn hNoDone

end Afterwards

end Socks5d

------------------------------------------------------------
-- Every Event
------------------------------------------------------------

namespace Socks5d

def Ev.list? : Ev → Option (List Addrinfo)
| .resolved addresses => some addresses
| _ => none

/-
  A name was resolved to the addresses, and the system answers
  as their outcomes say.
-/
structure Conn.Resolves
    (c : Conn)
    (addresses : List Addrinfo)
    (outcomes : List Outcome) : Prop where
  resolved : .resolved addresses ∈ c.log
  nonempty : addresses ≠ []
  known : ∀ x ∈ addresses, x.family ≠ .unspec
  length : outcomes.length = addresses.length
  follows : c.Follows outcomes

/- The attempts go on, or the request has its answer. -/
def Staged
    (addresses : List Addrinfo)
    (outcomes : List Outcome)
    (c : Conn) : Prop :=
  (c.current = some REQUEST_CONNECTING ∧
      Trying addresses outcomes c) ∨
    Concluded addresses outcomes c

/- The addresses of a connection in every state. -/
structure FallbackAccount (c : Conn) : Prop where
  unresolved : (∀ state, c.current = some state →
    state ≤ REQUEST_RESOLV) →
      c.tries = [] ∧ ∀ addresses, .resolved addresses ∉ c.log
  unanswered : (∀ state, c.current = some state →
    state < REQUEST_WRITE) →
      .enter COPY ∉ c.log ∧ .enter DONE ∉ c.log
  staged : ∀ addresses outcomes,
    c.Resolves addresses outcomes → c.Served →
      Favourable addresses outcomes →
        Staged addresses outcomes c

section Events

variable {k : ConnId}
variable {key : Key}
variable {a : Answers}
variable {s u : St}
variable {c d : Conn}
variable {r : St × Nat}
variable {state : Nat}
variable {addresses : List Addrinfo}
variable {outcomes : List Outcome}

theorem Ev.ofConnecting_list
    {event : Ev}
    (h : event.ofConnecting) : event.list? = none := by
  unfold Ev.ofConnecting at h
  split at h
  all_goals first
    | rfl
    | exact h.elim

/- Only `request_resolv_done` notes a list of addresses. -/
theorem Ev.ofState_list
    {event : Ev}
    (h : event.ofState state)
    (hState : state ≠ REQUEST_RESOLV) :
    event.list? = none := by
  unfold Ev.ofState at h
  split at h
  all_goals first
    | rfl
    | exact absurd rfl hState
    | exact Ev.ofConnecting_list h
    | exact h.elim

theorem Ev.ofArrival_list
    {event : Ev}
    (h : event.ofArrival state) : event.list? = none := by
  unfold Ev.ofArrival at h
  split at h
  all_goals first
    | rfl
    | exact Ev.ofConnecting_list h
    | exact h.elim

/- Only in `REQUEST_CONNECTING` an address is tried. -/
theorem Ev.ofState_attempt
    {event : Ev}
    (h : event.ofState state)
    (hState : state ≠ REQUEST_CONNECTING) :
    event.attempt? = none := by
  unfold Ev.ofState at h
  split at h
  all_goals first
    | rfl
    | exact absurd rfl hState
    | exact h.elim

theorem Ev.ofArrival_attempt
    {event : Ev}
    (h : event.ofArrival state)
    (hState : state ≠ REQUEST_CONNECTING) :
    event.attempt? = none := by
  unfold Ev.ofArrival at h
  split at h
  all_goals first
    | rfl
    | exact absurd rfl hState
    | exact h.elim

/- The list was noted before, or by the call. -/
theorem list_old
    (hCall : s.conn.Grows (Ev.ofState state) r.1.conn)
    (hJump : SocksJump k key a r.1 r.2 u)
    (hState : state ≠ REQUEST_RESOLV) :
    s.conn.Grows (fun event => event.list? = none) u.conn :=
  event_grows (hCall.mono fun _ hEvent =>
    Ev.ofState_list hEvent hState) hJump rfl
      fun _ hEvent => Ev.ofArrival_list hEvent

theorem Conn.Grows.resolved
    (h : c.Grows (fun event => event.list? = none) d)
    (hIn : .resolved addresses ∈ d.log) :
    .resolved addresses ∈ c.log := by
  rcases h.new hIn with hOld | hNew
  · exact hOld
  · nomatch hNew

/- What was noted of a longer history holds of a shorter. -/
theorem Conn.Resolves.before
    {P : Ev → Prop}
    (h : d.Resolves addresses outcomes)
    (hGrows : c.Grows P d)
    (hIn : .resolved addresses ∈ c.log) :
    c.Resolves addresses outcomes :=
  ⟨hIn, h.nonempty, h.known, h.length,
    h.follows.before hGrows⟩

/- The calls of the two states that look at addresses. -/
theorem SocksTurn.called
    (h : SocksTurn k key a s r) :
    (s.conn.current = some REQUEST_RESOLV →
        RequestResolvDone key s (.socks k) r) ∧
      (s.conn.current = some REQUEST_CONNECTING →
        ConnectingWrite key a s (.socks k) r) := by
  have hNever : ∀ {P Q : Prop} (other : Nat),
      s.conn.current = some other → other ≠ REQUEST_RESOLV →
        other ≠ REQUEST_CONNECTING →
          (s.conn.current = some REQUEST_RESOLV → P) ∧
            (s.conn.current = some REQUEST_CONNECTING →
              Q) := by
    intro P Q other hOther hResolv hConnecting
    constructor
    · exact fun hBad => absurd
        (Option.some.inj (hOther.symm.trans hBad)) hResolv
    · exact fun hBad => absurd
        (Option.some.inj (hOther.symm.trans hBad)) hConnecting
  cases h with
  | helloRead hHere =>
      exact hNever _ hHere (by decide) (by decide)
  | helloWrite hHere =>
      exact hNever _ hHere (by decide) (by decide)
  | authRead hHere =>
      exact hNever _ hHere (by decide) (by decide)
  | authWrite hHere =>
      exact hNever _ hHere (by decide) (by decide)
  | requestRead hHere =>
      exact hNever _ hHere (by decide) (by decide)
  | requestResolvDone hHere _ _ _ _ _ _ hCall =>
      refine ⟨fun _ => hCall, ?_⟩
      intro hBad
      nomatch hHere.symm.trans hBad
  | connectingWrite hHere _ _ _ _ _ _ hCall =>
      refine ⟨?_, fun _ => hCall⟩
      intro hBad
      nomatch hHere.symm.trans hBad
  | requestWrite hHere =>
      exact hNever _ hHere (by decide) (by decide)
  | relay hHere =>
      exact hNever _ hHere (by decide) (by decide)

/- The first address of the list is tried. -/
theorem FallbackAccount.resolving
    (h : FallbackAccount s.conn)
    (hState : s.conn.current = some REQUEST_RESOLV)
    (hNothing : s.conn.stored = [])
    (hCall : RequestResolvDone key s (.socks k) r)
    (hJump : SocksJump k key a r.1 r.2 u)
    (hResolves : u.conn.Resolves addresses outcomes)
    (hServed : u.conn.Served)
    (hFavourable : Favourable addresses outcomes) :
    Staged addresses outcomes u.conn := by
  rcases h.unresolved (by
    intro state hHere
    rw [Option.some.inj (hHere.symm.trans hState)])
    with ⟨hTries, hNone⟩
  -- the list is the one that the call notes
  have hList : s.conn.Grows (fun event =>
      ∀ list, event = .resolved list →
        list = s.conn.originResolution) u.conn := by
    refine event_grows ?_ hJump nofun ?_
    · have hNoted : s.conn.Grows (fun event =>
          ∀ list, event = .resolved list →
            list = s.conn.originResolution)
          (s.note (.resolved
            s.conn.originResolution)).conn := by
        refine .single rfl ?_
        intro list hEq
        injection hEq with hEq
        exact hEq.symm
      cases hCall with
      | failed hEmpty =>
          refine hNoted.trans ?_
          rcases replied_eq
            { s.note (.resolved s.conn.originResolution) with
              conn.connStatus := .generalSocksServerFailure
              conn.request.status :=
                .generalSocksServerFailure }
              .generalSocksServerFailure with
            ⟨wb, log, hEq, hLog⟩
          refine ⟨log, ?_, ?_⟩
          · show (replied _ _).conn.log = _
            rw [hEq]
          · intro event hEvent list hBad
            rw [hLog event hEvent] at hBad
            nomatch hBad
      | first address rest hList =>
          rcases takeAddress_eq address
            { s.note (.resolved s.conn.originResolution) with
              conn.resolutionCurrent := address :: rest }
            with ⟨_, _, _, hEq⟩
          rw [hEq]
          exact hNoted.trans (.of_eq rfl)
    · intro event hEvent list hBad
      have hPlain := Ev.ofArrival_list hEvent
      rw [hBad] at hPlain
      nomatch hPlain
  have hSame : addresses = s.conn.originResolution := by
    rcases hList.new hResolves.resolved with hOld | hNew
    · exact absurd hOld (hNone addresses)
    · exact hNew addresses rfl
  cases hCall with
  | failed hEmpty =>
      exact absurd (hSame.trans hEmpty) hResolves.nonempty
  | first address rest hFirst =>
      have hEq := hSame.trans hFirst
      rw [hEq] at hResolves hFavourable
      have hKnown := hResolves.known address
        List.mem_cons_self
      refine Or.inl ⟨hJump.enters, ?_⟩
      rw [hEq]
      rw [takeAddress_known hKnown] at hJump
      cases hJump with
      | stay _ hBad => nomatch hState.symm.trans hBad
      | plain _ hBad =>
          rcases hBad with h | h | h | h | h | h <;> nomatch h
      | connecting _ parser _ hInit =>
          refine hInit.trying ?_ ?_ rfl rfl rfl rfl
            hFavourable hResolves.follows hServed
          · rw [← hTries]
            show ((s.conn.log ++ [_]) ++ [_]).filterMap
              Ev.attempt? = _
            rw [List.filterMap_append, List.filterMap_append]
            exact (List.append_nil _).trans (List.append_nil _)
          · rw [← hNothing]
            show ((s.conn.log ++ [_]) ++ [_]).filterMap
              Ev.status? = _
            rw [List.filterMap_append, List.filterMap_append]
            exact (List.append_nil _).trans (List.append_nil _)

/- The next address is tried, or the request is answered. -/
theorem FallbackAccount.connecting
    (h : FallbackAccount s.conn)
    (hOwns : Owns k s.srv.sel s.conn)
    (hState : s.conn.current = some REQUEST_CONNECTING)
    (hCurrent : r.1.conn.current = s.conn.current)
    (hDue : Due s.conn REQUEST_CONNECTING)
    (hTrying : Trying addresses outcomes s.conn)
    (hCall : ConnectingWrite key a s (.socks k) r)
    (hLogs : s.conn.Grows (Ev.ofState REQUEST_CONNECTING)
      r.1.conn)
    (hJump : SocksJump k key a r.1 r.2 u)
    (hResolves : u.conn.Resolves addresses outcomes)
    (hServed : u.conn.Served)
    (hFavourable : Favourable addresses outcomes) :
    Staged addresses outcomes u.conn := by
  have hAfter : r.1.conn.Grows (fun _ => True) u.conn := by
    refine event_grows (s := r.1) (.of_eq rfl) hJump trivial
      fun _ _ => trivial
  have hHere := hCurrent.trans hState
  rcases h.unanswered (by
    intro state hIs
    rw [Option.some.inj (hIs.symm.trans hState)]
    decide) with ⟨hCopy, hDone⟩
  have hNever : ∀ state, .enter state ∉ s.conn.log →
      .enter state ∉ r.1.conn.log := by
    intro state hOld hIn
    rcases hLogs.new hIn with hBad | hNew
    · exact hOld hBad
    · nomatch Ev.ofState_isEnter hNew
  rcases hCall.settles hTrying hDue hOwns hResolves.length
    hResolves.known hFavourable
    (hResolves.follows.before hAfter)
    (hServed.before hAfter) with
      ⟨hNext, hStill⟩ | ⟨hNext, hSettled⟩
  · rw [hNext] at hJump
    rcases hJump.logs with ⟨_, hSame⟩ | ⟨hOther, _⟩
    · rw [hSame]
      exact Or.inl ⟨hHere, hStill⟩
    · exact absurd hHere hOther
  · rw [hNext] at hJump
    refine Or.inr (hSettled.concludes (hNever _ hCopy)
      (hNever _ hDone) ?_ hJump)
    rw [hHere]
    decide

/- An event of a SOCKS connection. -/
theorem FallbackAccount.event
    (h : FallbackAccount s.conn)
    (hAnswers : AnswerAccount s.conn)
    (hSocks : s.conn.isSocks = true)
    (hSound : s.srv.sel.Sound)
    (hOwns : Owns k s.srv.sel s.conn)
    (hTurn : SocksTurn k key a s r)
    (hJump : SocksJump k key a r.1 r.2 u) :
    FallbackAccount u.conn := by
  have hNow : u.conn.current = some r.2 := hJump.enters
  rcases hTurn.logs hSound hOwns with ⟨state, hState, hCall⟩
  have hCurrent := hTurn.current hSound hOwns
  have hHere := hCurrent.trans hState
  have hHeading := (hTurn.heading hSound hOwns hSocks).2
  have hForward : r.2 ≤ COPY → state ≤ r.2 :=
    hHeading.forward hHere
  have hIs : ∀ {P : Nat → Prop}, P state →
      ∀ other, s.conn.current = some other → P other := by
    intro P hP other hOther
    rw [← Option.some.inj (hState.symm.trans hOther)]
    exact hP
  constructor
  · intro hAll
    have hNext : r.2 ≤ REQUEST_RESOLV := hAll r.2 hNow
    have hLe : state ≤ r.2 :=
      hForward (Nat.le_trans hNext (by decide))
    have hOther : state ≠ REQUEST_RESOLV := by
      intro hEq
      rw [hEq] at hState
      cases hTurn.called.1 hState with
      | failed =>
          exact absurd (show REQUEST_WRITE ≤ REQUEST_RESOLV
            from hNext) (by decide)
      | first =>
          exact absurd (show REQUEST_CONNECTING ≤
            REQUEST_RESOLV from hNext) (by decide)
    have hBefore : state ≤ REQUEST_RESOLV :=
      Nat.le_trans hLe hNext
    rcases h.unresolved (hIs hBefore) with ⟨hTries, hNone⟩
    have hNot : ∀ other, other ≤ REQUEST_RESOLV →
        other ≠ REQUEST_CONNECTING := by
      intro other hLe hBad
      rw [hBad] at hLe
      exact absurd hLe (by decide)
    have hAttempts : s.conn.Grows
        (fun event => event.attempt? = none) u.conn :=
      event_grows (hCall.mono fun _ hEvent =>
        Ev.ofState_attempt hEvent (hNot _ hBefore)) hJump rfl
          fun _ hEvent => Ev.ofArrival_attempt hEvent
            (hNot _ hNext)
    refine ⟨hAttempts.tries_eq.trans hTries, ?_⟩
    intro addresses hIn
    exact hNone addresses
      ((list_old hCall hJump hOther).resolved hIn)
  · intro hAll
    have hNext : r.2 < REQUEST_WRITE := hAll r.2 hNow
    have hLe : state ≤ r.2 := hForward
      (Nat.le_trans (Nat.le_of_lt hNext) (by decide))
    rcases h.unanswered (hIs (Nat.lt_of_le_of_lt hLe hNext))
      with ⟨hCopy, hDone⟩
    constructor
    · intro hIn
      rw [(enter_new hCall hJump hCopy hIn).1] at hNext
      exact absurd hNext (by decide)
    · intro hIn
      rw [(enter_new hCall hJump hDone hIn).1] at hNext
      exact absurd hNext (by decide)
  · intro addresses outcomes hResolves hServed hFavourable
    by_cases hEq : state = REQUEST_RESOLV
    · rw [hEq] at hState
      refine h.resolving hState ?_ (hTurn.called.1 hState)
        hJump hResolves hServed hFavourable
      cases hAnswers.before _ hState (by decide) with
      | early _ hBad => nomatch hBad
      | request _ _ hNothing => exact hNothing.none
    have hGrows := list_old hCall hJump hEq
    have hOld := hGrows.resolved hResolves.resolved
    rcases h.staged addresses outcomes
      (hResolves.before hGrows hOld)
      (hServed.before hGrows) hFavourable with
        ⟨hConnecting, hTrying⟩ | hConcluded
    · rw [Option.some.inj (hState.symm.trans hConnecting)]
        at hCall
      exact h.connecting hOwns hConnecting hCurrent
        (hAnswers.before _ hConnecting (by decide)) hTrying
        (hTurn.called.2 hConnecting) hCall hJump hResolves
        hServed hFavourable
    · exact Or.inr (hConcluded.keeps hSocks hSound hOwns
        hTurn hJump)

/- What happens before a name is resolved. -/
theorem FallbackAccount.early
    (h : FallbackAccount c)
    (hBefore : ∀ state, c.current = some state →
      state ≤ REQUEST_RESOLV)
    (hGrows : c.Grows (fun event => event.attempt? = none ∧
      event.list? = none ∧ event ≠ .enter COPY ∧
        event ≠ .enter DONE) d) :
    FallbackAccount d := by
  rcases h.unresolved hBefore with ⟨hTries, hNone⟩
  rcases h.unanswered (fun state hState => Nat.lt_of_le_of_lt
    (hBefore state hState) (by decide)) with ⟨hCopy, hDone⟩
  have hLists : ∀ addresses, .resolved addresses ∉ d.log := by
    intro addresses hIn
    exact hNone addresses ((hGrows.mono fun _ hEvent =>
      hEvent.2.1).resolved hIn)
  refine ⟨fun _ => ⟨?_, hLists⟩, fun _ => ⟨?_, ?_⟩, ?_⟩
  · exact (hGrows.mono fun _ hEvent =>
      hEvent.1).tries_eq.trans hTries
  · intro hIn
    rcases hGrows.new hIn with hOld | hNew
    · exact hCopy hOld
    · exact hNew.2.2.1 rfl
  · intro hIn
    rcases hGrows.new hIn with hOld | hNew
    · exact hDone hOld
    · exact hNew.2.2.2 rfl
  · intro addresses outcomes hResolves
    exact absurd hResolves.resolved (hLists addresses)

/- Every event keeps the account of the addresses. -/
theorem fallbackAccount_preserved :
    Preserved fun _ _ c => c.isSocks = true →
      AnswerAccount c ∧ FallbackAccount c := by
  have hResolv : ∀ {c : Conn},
      c.current = some REQUEST_RESOLV → ∀ state,
        c.current = some state → state ≤ REQUEST_RESOLV := by
    intro c hHere state hState
    rw [Option.some.inj (hState.symm.trans hHere)]
  constructor
  · intro admins k isSocks client hSocks
    refine ⟨answerAccount_preserved.born admins k isSocks
      client hSocks, ⟨fun _ => ⟨rfl, ?_⟩, fun _ => ?_, ?_⟩⟩
    · exact fun addresses => List.not_mem_nil
    · exact ⟨List.not_mem_nil, List.not_mem_nil⟩
    · intro addresses outcomes hResolves
      exact absurd hResolves.resolved List.not_mem_nil
  · intro admins k c addresses hState hBefore hSocks
    refine ⟨answerAccount_preserved.resolution admins k c
      addresses hState (fun h => (hBefore h).1) hSocks, ?_⟩
    exact (hBefore hSocks).2.early (hResolv hState)
      (.of_eq rfl)
  · intro k s request hState hBefore hSocks
    refine ⟨answerAccount_preserved.notified k s request
      hState (fun h => (hBefore h).1) hSocks, ?_⟩
    exact (hBefore hSocks).2.early (hResolv hState)
      (.single rfl ⟨rfl, rfl, nofun, nofun⟩)
  · intro k key a s hState hBefore hSocks
    have hService : s.conn.isSocks = true := by
      unfold helloReadInit at hSocks
      split at hSocks
      · exact hSocks
      · exact hSocks
    refine ⟨answerAccount_preserved.first k key a s hState
      (fun h => (hBefore h).1) hSocks, ?_⟩
    refine (hBefore hService).2.early ?_ ?_
    · intro state hBad
      nomatch hState.symm.trans hBad
    · have hEntry : s.conn.Grows (fun event =>
          event.attempt? = none ∧ event.list? = none ∧
            event ≠ .enter COPY ∧ event ≠ .enter DONE)
          (entered HELLO_READ s).conn :=
        .single rfl ⟨rfl, rfl, nofun, nofun⟩
      refine hEntry.trans ?_
      unfold helloReadInit
      split
      · exact .single rfl ⟨rfl, rfl, nofun, nofun⟩
      · exact .single rfl ⟨rfl, rfl, nofun, nofun⟩
  · intro k key a s r u hSocks hSound hOwns hTurn hJump
      hBefore hAfter
    have h := hBefore hSocks
    exact ⟨answerAccount_preserved.socks k key a s r u hSocks
      hSound hOwns hTurn hJump (fun h => (hBefore h).1)
        hAfter, h.2.event h.1 hSocks hSound hOwns hTurn hJump⟩
  · intro k key a s r u hMng hTurn hJump _ hSocks
    have hService := hJump.service.trans hTurn.service
    rw [hService, hMng] at hSocks
    nomatch hSocks

/- The attempts have nothing to do with the answer yet. -/
theorem Trying.fallsBack
    (h : Trying addresses outcomes c)
    (hState : c.current = some REQUEST_CONNECTING)
    (hAnswers : AnswerAccount c)
    (hAccount : FallbackAccount c) :
    c.FallsBack addresses outcomes := by
  have hBefore : ∀ state, c.current = some state →
      state < REQUEST_WRITE := by
    intro state hHere
    rw [Option.some.inj (hHere.symm.trans hState)]
    decide
  rcases hAccount.unanswered hBefore with ⟨hCopy, hDone⟩
  constructor
  · exact h.order
  · intro i hLt hAccepted
    rcases h.going with ⟨_, hOne⟩ | ⟨_, hNot, _⟩
    · omega
    · exact hNot (List.mem_of_getElem? hAccepted)
  · intro state hHere hLate
    rw [Option.some.inj (hHere.symm.trans hState)] at hLate
    exact absurd hLate (Nat.lt_irrefl _)
  · exact fun hIn => absurd hIn (hAnswers.fresh hBefore)
  · exact fun hIn => absurd hIn hCopy
  · intro hBad
    nomatch hState.symm.trans hBad
  · exact fun hIn => absurd hIn hDone

theorem Concluded.fallsBack
    (h : Concluded addresses outcomes c) :
    c.FallsBack addresses outcomes := by
  constructor
  · exact h.order
  · intro i hLt hAccepted
    rcases h.answers with ⟨_, hOne, _⟩ | ⟨_, _, _, hNot⟩
    · omega
    · exact hNot (List.mem_of_getElem? hAccepted)
  · exact fun _ _ _ => h.entered
  · intro _
    rcases h.answers with ⟨hStored, hOne, hHead⟩ | hFailed
    · rw [List.head?_eq_getElem?] at hHead
      exact Or.inl ⟨hStored, 0, hOne, hHead⟩
    · exact Or.inr hFailed
  · exact h.relays
  · intro hState
    rcases h.relaying hState with ⟨_, hAccepted⟩
    rcases h.answers with ⟨_, hOne, _⟩ | ⟨_, _, _, hNot⟩
    · rcases List.length_eq_one_iff.mp hOne with
        ⟨attempt, hTries⟩
      refine ⟨attempt, by rw [hTries]; rfl, ?_⟩
      refine h.carried hAccepted ?_ attempt (by
        rw [hTries]
        exact List.mem_singleton_self _)
      intro state hHere
      rw [Option.some.inj (hHere.symm.trans hState)]
    · exact absurd hAccepted hNot
  · exact h.ends

/-
  In every reachable state of a connection whose name was
  resolved, with a socket and a slot for it: if the first
  address accepts, or none does, all have one family and one
  at most is refused later before the last, then the addresses
  are tried and answered as they should be.
-/
theorem falls_back
    {w : World}
    (hReach : server.Reachable w)
    (hOld : k < w.next)
    (hSocks : (w.conn k).isSocks = true)
    (hResolves : (w.conn k).Resolves addresses outcomes)
    (hServed : (w.conn k).Served)
    (hFavourable : Favourable addresses outcomes) :
    (w.conn k).FallsBack addresses outcomes := by
  rcases conn_invariant fallbackAccount_preserved hReach hOld
    hSocks with ⟨hAnswers, hAccount⟩
  rcases hAccount.staged addresses outcomes hResolves hServed
    hFavourable with ⟨hState, hTrying⟩ | hConcluded
  · exact hTrying.fallsBack hState hAnswers hAccount
  · exact hConcluded.fallsBack

end Events

/- What `SO_ERROR` says fits the outcome. -/
def Ev.readsAs
    (outcomes : List Outcome) :
    Ev → Bool
| .soError result left =>
    (outcomes.reverse[left]?).all fun outcome =>
      outcome.reads result
| _ => true

theorem Conn.follows_of_all
    {c : Conn}
    {outcomes : List Outcome}
    (hConnects : ∀ pair ∈ c.tries.zip outcomes,
      pair.2.connects pair.1.answer = true)
    (hReads : ∀ event ∈ c.log,
      event.readsAs outcomes = true) :
    c.Follows outcomes := by
  constructor
  · intro i attempt outcome hTry hOutcome
    refine hConnects (attempt, outcome) ?_
    apply List.mem_of_getElem? (i := i)
    rw [List.getElem?_zip_eq_some]
    exact ⟨hTry, hOutcome⟩
  · intro result left outcome hIn hOutcome
    have hEvent : (outcomes.reverse[left]?).all
        (fun outcome => outcome.reads result) = true :=
      hReads _ hIn
    rw [hOutcome] at hEvent
    exact hEvent

/- A name with an IPv4 and an IPv6 address. -/
def mixedAddresses : List Addrinfo := [
  { family := .inet
    addr := {
      family := .inet
      addr := [127, 0, 0, 1]
      port := [0, 80] } },
  { family := .inet6
    addr := {
      family := .inet6
      addr := [0, 0, 0, 0, 0, 0, 0, 0,
        0, 0, 0, 0, 0, 0, 0, 1]
      port := [0, 80] } }]

/- A client asks for a name, and a list of addresses comes. -/
def namedRun
    (addresses : List Addrinfo)
    (rest : List Label) : List Label := [
  .read 3 { accept := some 5 },
  .read 5 { recv := some [5, 1, 0] },
  .write 5 { send := some 100 },
  .read 5 { recv := some [5, 1, 0, 3, 1, 0x61, 0, 80] },
  .threadStart 0,
  .threadDone 0 addresses {}] ++ rest

/- The first address accepts. -/
def acceptedWorld : World :=
  runTo (namedRun mixedAddresses [
    .notify fun _ => { socket := some 6 },
    .write 6 { soError := some none },
    .write 5 { send := some 100 }]) searchingServer

/- Two addresses of one host. -/
def twoAddresses : List Addrinfo := [
  { family := .inet
    addr := {
      family := .inet
      addr := [127, 0, 0, 1]
      port := [0, 80] } },
  { family := .inet
    addr := {
      family := .inet
      addr := [127, 0, 0, 2]
      port := [0, 80] } }]

/- The first address refuses at once, the second later. -/
def refusedWorld : World :=
  runTo (namedRun twoAddresses [
    .notify fun _ => {
      socket := some 6
      connect := .failed .econnrefused },
    .write 5 { connect := .inProgress },
    .write 6 { soError := some (some .econnrefused) },
    .write 5 { send := some 100 }]) searchingServer

theorem falls_back_both :
    ((acceptedWorld.conn 0).current = some COPY ∧
      (acceptedWorld.conn 0).FallsBack mixedAddresses
        [.accepted, .refused]) ∧
      (refusedWorld.conn 0).current = some DONE ∧
        (refusedWorld.conn 0).FallsBack twoAddresses
          [.refused, .refusedLater] := by
  refine ⟨⟨by decide +kernel, falls_back
    (reachable_runTo _ (.init searchingServer_initial))
    (by decide +kernel) (by decide +kernel)
    ⟨by decide +kernel, by decide, by decide, rfl,
      Conn.follows_of_all (by decide +kernel)
        (by decide +kernel)⟩
    ⟨?_, by decide +kernel, by decide +kernel,
      by decide +kernel⟩ (Or.inl rfl)⟩,
    by decide +kernel, falls_back
    (reachable_runTo _ (.init searchingServer_initial))
    (by decide +kernel) (by decide +kernel)
    ⟨by decide +kernel, by decide, by decide, rfl,
      Conn.follows_of_all (by decide +kernel)
        (by decide +kernel)⟩
    ⟨?_, by decide +kernel, by decide +kernel,
      by decide +kernel⟩ (Or.inr ⟨by decide, by decide,
        by decide⟩)⟩
  · intro domain
    cases domain <;> decide +kernel
  · intro domain
    cases domain <;> decide +kernel

/- The second address accepts, which is not noticed. -/
def unnoticedWorld : World :=
  runTo (namedRun twoAddresses [
    .notify fun _ => {
      socket := some 6
      connect := .failed .econnrefused },
    .write 5 { connect := .inProgress },
    .write 6 {}]) searchingServer

theorem acceptance_unnoticed :
    server.Reachable unnoticedWorld ∧
      (unnoticedWorld.conn 0).isSocks = true ∧
      (unnoticedWorld.conn 0).Resolves twoAddresses
        [.refused, .accepted] ∧
      (unnoticedWorld.conn 0).Served ∧
      (unnoticedWorld.conn 0).stored =
        [.connectionRefused, .connectionRefused] ∧
      ¬ (unnoticedWorld.conn 0).FallsBack twoAddresses
        [.refused, .accepted] := by
  have hStored : (unnoticedWorld.conn 0).stored =
      [.connectionRefused, .connectionRefused] := by
    decide +kernel
  have hAnswered : .enter REQUEST_WRITE ∈
      (unnoticedWorld.conn 0).log := by
    decide +kernel
  refine ⟨reachable_runTo _ (.init searchingServer_initial),
    by decide +kernel, ⟨by decide +kernel, by decide,
      by decide, rfl, Conn.follows_of_all (by decide +kernel)
        (by decide +kernel)⟩,
    ⟨?_, by decide +kernel, by decide +kernel,
      by decide +kernel⟩, hStored, ?_⟩
  · intro domain
    cases domain <;> decide +kernel
  · intro hBad
    rcases hBad.answers hAnswered with
      ⟨hOnce, _⟩ | ⟨_, _, _, hNot⟩
    · rw [hStored] at hOnce
      nomatch hOnce
    · exact hNot (by decide)

end Socks5d
