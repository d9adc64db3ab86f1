import Socks5d.ServerWiring

/-
  From single events to whole runs: what every event keeps of
  a connection holds of it in every reachable world.

  Main declarations:
    * `MngTurn.logs`, `MngJump.logs`
    * `Change`, `Micro.change`
    * `Preserved`, `conn_invariant`
    * `Micro.grows`
-/

------------------------------------------------------------
-- Histories Of Management Connections
------------------------------------------------------------

namespace Socks5d

/- Events that the call of a management state may add. -/
def Ev.ofMngState : Nat → Ev → Prop
| HELLO_READ, event => event.ofState HELLO_READ
| HELLO_WRITE, event => event.ofState HELLO_WRITE
| USERPASS_READ, event => event.ofState USERPASS_READ
| USERPASS_WRITE, event => event.ofState USERPASS_WRITE
| _, event => event.ofMng

section Histories

variable {k : ConnId}
variable {key : Key}
variable {a : Answers}
variable {s u : St}
variable {r : St × Nat}

theorem MngFrame.grows
    (h : MngFrame s u) :
    s.conn.Grows Ev.ofMng u.conn := h.log

theorem MngTurn.logs
    (h : MngTurn k key a s r) :
    ∃ state, s.conn.current = some state ∧
      s.conn.Grows (Ev.ofMngState state) r.1.conn := by
  cases h with
  | helloRead hState _ _ _ _ hCall =>
      exact ⟨_, hState, hCall.logs⟩
  | helloWrite hState _ _ _ _ hCall =>
      exact ⟨_, hState, hCall.logs⟩
  | authRead hState _ _ hCall =>
      exact ⟨_, hState, hCall.logs⟩
  | authWrite hState _ _ hCall =>
      exact ⟨_, hState, hCall.logs⟩
  | request state hState hRequest _ _ hCall =>
      have hGrows : s.conn.Grows Ev.ofMng r.1.conn := by
        cases hCall with
        | stay t next hFrame => exact hFrame.log
        | writes t hFrame => exact hFrame.log
        | reads t hFrame => exact hFrame.log
        | ends t next hNext hFrame => exact hFrame.log
      refine ⟨state, hState, ?_⟩
      rcases hRequest with rfl | rfl | rfl
      all_goals exact hGrows

/- A jump that enters a state notes it first. -/
theorem MngJump.logs
    {next : Nat}
    (h : MngJump key a s next u) :
    (s.conn.current = some next ∧ u = s) ∨
      (s.conn.current ≠ some next ∧
        (entered next s).conn.Grows Ev.ofMng u.conn) := by
  cases h with
  | stay _ hState hNext => exact Or.inl ⟨hState, rfl⟩
  | plain _ hNext hState => exact Or.inr ⟨hState, .of_eq rfl⟩
  | userpassRead hState =>
      refine Or.inr ⟨hState, ?_⟩
      unfold authReadInit
      split
      · exact .of_eq rfl
      · exact .single rfl trivial
  | request _ hNext hState _ hFrame hSel =>
      exact Or.inr ⟨hState, hFrame.log⟩

theorem mngDone_conn
    (s : St) : (mngDone s).conn = s.conn :=
  doneFd_conn _ s

end Histories

end Socks5d

------------------------------------------------------------
-- What Happens To One Connection
------------------------------------------------------------

namespace Socks5d

/- What a small step can do to connection `j`. -/
inductive Change
    (w : World)
    (j : ConnId)
    (w' : World) : Prop where
  | same
      (hOld : j < w.next)
      (hConn : w'.conn j = w.conn j)
  | born
      (isSocks : Bool)
      (client : Fd)
      (hNew : j = w.next)
      (hConn : w'.conn j = { isSocks, clientFd := client })
  | resolution
      (addresses : List Addrinfo)
      (hOld : j < w.next)
      (hState : (w.conn j).current = some REQUEST_RESOLV)
      (hConn : w'.conn j = { w.conn j with
        originResolution := addresses })
  | socks
      (key : Key)
      (a : Answers)
      (t : St)
      (hLive : w.Live j)
      (hSocks : (w.conn j).isSocks = true)
      (hEvent : SocksEvent j key a
        (handleFirst clientStatbl key a (w.view j)) t)
      (hConn : w'.conn j = t.conn)
  | mng
      (key : Key)
      (a : Answers)
      (t : St)
      (hLive : w.Live j)
      (hMng : (w.conn j).isSocks = false)
      (hEvent : MngEvent j key a
        (handleFirst clientMng key a (w.view j)) t)
      (hConn : w'.conn j = t.conn)
  | block
      (job : BlockingJob)
      (rest : List BlockingJob)
      (a : Answers)
      (t : St)
      (hStarter : job.starter = j)
      (hWaits : Waits w j job.fd job.request)
      (hEvent : SocksEvent j ⟨job.fd, j⟩ a
        (w.notified job rest) t)
      (hConn : w'.conn j = t.conn)

section Changes

variable {w w' : World}
variable {k : ConnId}

theorem change_put
    (s : St)
    (j : ConnId)
    (hOld : j < w.next)
    (h : Change w k (w.put k s)) :
    Change w j (w.put k s) := by
  by_cases hEq : j = k
  · rw [hEq]
    exact h
  · exact .same hOld (w.put_conn_of_ne s hEq)

theorem Micro.change
    (h : Micro w w')
    {j : ConnId}
    (hLt : j < w'.next) : Change w j w' := by
  cases h with
  | accepted isSocks client hNonneg hFree hUnused =>
      by_cases hEq : j = w.next
      · refine .born isSocks client hEq ?_
        rw [hEq]
        exact Function.update_self _ _ _
      · have hOld := (Nat.lt_succ_iff_lt_or_eq.mp
          hLt).resolve_right hEq
        exact .same hOld (Function.update_of_ne hEq _ _)
  | socks k key a interest t hLive hSocks hKey hArmed hEvent
      hAfter =>
      exact change_put t j hLt (.socks key a t hLive hSocks
        hEvent (w.put_conn_self k t))
  | mng k key a t hLive hMng hEvent hAfter =>
      exact change_put t j hLt (.mng key a t hLive hMng hEvent
        (w.put_conn_self k t))
  | block job rest a t hJobs hWaits hEvent hAfter =>
      exact change_put t j hLt (.block job rest a t rfl hWaits
        hEvent (w.put_conn_self _ t))
  | threadStart i t p hThread hWaits hParser hRequest =>
      by_cases hEq : j = t.data
      · subst hEq
        exact .resolution [] hLt hWaits.state
          (Function.update_self _ _ _)
      · exact .same hLt (Function.update_of_ne hEq _ _)
  | threadDone i t addresses a hThread hWaits =>
      by_cases hEq : j = t.data
      · subst hEq
        exact .resolution addresses hLt hWaits.state
          (Function.update_self _ _ _)
      · exact .same hLt (Function.update_of_ne hEq _ _)

/- Connections are never taken back. -/
theorem Micro.next_le
    (h : Micro w w') : w.next ≤ w'.next := by
  cases h with
  | accepted => exact Nat.le_succ _
  | socks => exact Nat.le_refl _
  | mng => exact Nat.le_refl _
  | block => exact Nat.le_refl _
  | threadStart => exact Nat.le_refl _
  | threadDone => exact Nat.le_refl _

end Changes

end Socks5d

------------------------------------------------------------
-- Whole Runs
------------------------------------------------------------

namespace Socks5d

/-
  A property of a connection, given the administrators, that
  everything that can happen to the connection keeps.
-/
structure Preserved
    (P : UserTable → ConnId → Conn → Prop) : Prop where
  born : ∀ admins k isSocks client,
    P admins k { isSocks, clientFd := client }
  resolution : ∀ admins k c addresses,
    c.current = some REQUEST_RESOLV → P admins k c →
      P admins k { c with originResolution := addresses }
  notified : ∀ k (s : St) request,
    s.conn.current = some REQUEST_RESOLV →
      P s.srv.admins k s.conn →
        P s.srv.admins k (s.note (.notified k request)).conn
  first : ∀ k key a (s : St), s.conn.current = none →
    P s.srv.admins k s.conn →
      P s.srv.admins k
        (helloReadInit key a (entered HELLO_READ s)).conn
  socks : ∀ k key a (s : St) r u, s.conn.isSocks = true →
    s.srv.sel.Sound → Owns k s.srv.sel s.conn →
    SocksTurn k key a s r → SocksJump k key a r.1 r.2 u →
      P s.srv.admins k s.conn → P s.srv.admins k u.conn
  mng : ∀ k key a (s : St) r u, s.conn.isSocks = false →
    MngTurn k key a s r → MngJump key a r.1 r.2 u →
      P s.srv.admins k s.conn → P s.srv.admins k u.conn

section Keeping

variable {P : UserTable → ConnId → Conn → Prop}
variable {w w' : World}
variable {k : ConnId}
variable {key : Key}
variable {a : Answers}
variable {s t : St}

/- Only the first event of a connection starts it. -/
theorem Preserved.started
    (h : Preserved P)
    (key : Key)
    (a : Answers)
    (states : Nat → StateDefinition)
    (hStates : states HELLO_READ =
      { onArrival := some helloReadInit
        onReadReady := some helloRead })
    (hBefore : P s.srv.admins k s.conn) :
    P s.srv.admins k (handleFirst states key a s).conn := by
  rw [handleFirst_eq hStates]
  split
  · rename_i hState
    exact h.first k key a s hState hBefore
  · exact hBefore

theorem Preserved.socksEvent
    (h : Preserved P)
    (hSocks : s.conn.isSocks = true)
    (hSound : s.srv.sel.Sound)
    (hOwns : Owns k s.srv.sel s.conn)
    (hEvent : SocksEvent k key a s t)
    (hBefore : P s.srv.admins k s.conn) :
    P s.srv.admins k t.conn := by
  cases hEvent with
  | going r u hTurn hJump hNext =>
      exact h.socks k key a s r _ hSocks hSound hOwns hTurn
        hJump hBefore
  | ends r u hTurn hJump hNext =>
      rw [socksv5Done_conn]
      exact h.socks k key a s r u hSocks hSound hOwns hTurn
        hJump hBefore
  | stuck hWhy => exact hBefore

theorem Preserved.mngEvent
    (h : Preserved P)
    (hMng : s.conn.isSocks = false)
    (hEvent : MngEvent k key a s t)
    (hBefore : P s.srv.admins k s.conn) :
    P s.srv.admins k t.conn := by
  cases hEvent with
  | going r u hTurn hJump hNext =>
      exact h.mng k key a s r _ hMng hTurn hJump hBefore
  | ends r u hTurn hJump hNext =>
      rw [mngDone_conn]
      exact h.mng k key a s r u hMng hTurn hJump hBefore

/- Starting the machine keeps the service. -/
theorem first_conn
    (states : Nat → StateDefinition)
    (hStates : states HELLO_READ =
      { onArrival := some helloReadInit
        onReadReady := some helloRead })
    (key : Key)
    (a : Answers)
    (s : St) :
    (handleFirst states key a s).conn.isSocks =
      s.conn.isSocks := by
  rw [handleFirst_eq hStates]
  split
  · unfold helloReadInit
    split
    · rfl
    · rfl
  · rfl

/- What happens to a connection keeps the property. -/
theorem Preserved.change
    (h : Preserved P)
    (hInv : Inv w)
    (hBefore : ∀ k < w.next, P w.srv.admins k (w.conn k))
    (hChange : Change w k w') :
    P w.srv.admins k (w'.conn k) := by
  cases hChange with
  | same hOld hConn =>
      rw [hConn]
      exact hBefore k hOld
  | born isSocks client hNew hConn =>
      rw [hConn]
      exact h.born _ _ _ _
  | resolution addresses hOld hState hConn =>
      rw [hConn]
      exact h.resolution _ _ _ _ hState (hBefore k hOld)
  | socks key a t hLive hSocks hEvent hConn =>
      rw [hConn]
      rcases hInv.first hLive clientStatbl rfl key
        a with ⟨hSrv, hSound, hOwns⟩
      have hStarted := h.started (s := w.view k) key a
        clientStatbl rfl (hBefore k hLive.1)
      have hSocks' := (first_conn clientStatbl rfl key a
        (w.view k)).trans hSocks
      have hAfter := h.socksEvent hSocks' hSound hOwns hEvent
      rw [hSrv] at hAfter
      exact hAfter hStarted
  | mng key a t hLive hMng hEvent hConn =>
      rw [hConn]
      rcases hInv.first hLive clientMng rfl key a
        with ⟨hSrv, _⟩
      have hStarted := h.started (s := w.view k) key a
        clientMng rfl (hBefore k hLive.1)
      have hMng' := (first_conn clientMng rfl key a
        (w.view k)).trans hMng
      have hAfter := h.mngEvent hMng' hEvent
      rw [hSrv] at hAfter
      exact hAfter hStarted
  | block job rest a t hStarter hWaits hEvent hConn =>
      rw [hConn]
      subst hStarter
      have hNoted := h.notified job.starter (w.view job.starter)
        job.request hWaits.state (hBefore _ hWaits.accepted)
      exact h.socksEvent (s := w.notified job rest)
        hWaits.service hInv.sound
        ((hInv.wired _ hWaits.live).owns.of_eq rfl rfl rfl)
        hEvent hNoted

/- The administrators stay the same. -/
theorem Micro.admins
    (h : Micro w w')
    (hInv : Inv w) : w'.srv.admins = w.srv.admins := by
  cases h with
  | accepted => rfl
  | socks k key a interest t hLive hSocks hKey hArmed hEvent
      hAfter =>
      rcases hInv.first hLive clientStatbl rfl key
        a with ⟨hSrv, hSound, hOwns⟩
      show t.srv.admins = w.srv.admins
      cases hEvent.threads hSound hOwns with
      | same hSame => rw [hSame.admins, hSrv]
      | started request hSame => rw [hSame.admins, hSrv]
  | mng k key a t hLive hMng hEvent hAfter =>
      rcases hInv.first hLive clientMng rfl key a
        with ⟨hSrv, _⟩
      show t.srv.admins = w.srv.admins
      rw [hEvent.shared.admins, hSrv]
  | block job rest a t hJobs hWaits hEvent hAfter =>
      have hOwns := (hInv.wired _ hWaits.live).owns
      show t.srv.admins = w.srv.admins
      cases hEvent.threads hInv.sound
          (hOwns.of_eq rfl rfl rfl) with
      | same hSame => exact hSame.admins
      | started request hSame => exact hSame.admins
  | threadStart => rfl
  | threadDone => rfl

/- A property that is kept holds of every connection. -/
theorem conn_invariant
    (h : Preserved P)
    (hReach : server.Reachable w)
    (hAccepted : k < w.next) :
    P w.srv.admins k (w.conn k) := by
  have hAll := micro_invariant
    (P := fun w => ∀ k < w.next, P w.srv.admins k (w.conn k))
    ?_ ?_ hReach
  · exact hAll.2 k hAccepted
  · intro w hInit k hLt
    rw [hInit.next] at hLt
    exact absurd hLt (Nat.not_lt_zero _)
  · intro w w' hInv hBefore hStep k hLt
    rw [hStep.admins hInv]
    exact h.change hInv hBefore (hStep.change hLt)

end Keeping

end Socks5d

------------------------------------------------------------
-- Histories Only Grow
------------------------------------------------------------

namespace Socks5d

section Growing

variable {w w' : World}
variable {k : ConnId}
variable {key : Key}
variable {a : Answers}
variable {s t u : St}

/- Entering a state and what follows is growth. -/
theorem Conn.Grows.enter
    {c : Conn}
    {P : Ev → Prop}
    (next : Nat)
    (h : c.Grows (fun _ => True) s.conn)
    (h' : (entered next s).conn.Grows P u.conn) :
    c.Grows (fun _ => True) u.conn := by
  have hEnter : s.conn.Grows (fun _ => True)
      (entered next s).conn := .single rfl trivial
  exact (h.trans hEnter).trans (h'.mono fun _ _ => trivial)

theorem SocksEvent.grows
    (h : SocksEvent k key a s t)
    (hSound : s.srv.sel.Sound)
    (hOwns : Owns k s.srv.sel s.conn) :
    s.conn.Grows (fun _ => True) t.conn := by
  have hBoth : ∀ r u, SocksTurn k key a s r →
      SocksJump k key a r.1 r.2 u →
        s.conn.Grows (fun _ => True) u.conn := by
    intro r u hTurn hJump
    rcases hTurn.logs hSound hOwns with ⟨state, _, hCall⟩
    have hCall' : s.conn.Grows (fun _ => True) r.1.conn :=
      hCall.mono fun _ _ => trivial
    rcases hJump.logs with ⟨_, hSame⟩ | ⟨_, hArrival⟩
    · rw [hSame]
      exact hCall'
    · exact hCall'.enter _ hArrival
  cases h with
  | going r u hTurn hJump hNext => exact hBoth r _ hTurn hJump
  | ends r u hTurn hJump hNext =>
      rw [socksv5Done_conn]
      exact hBoth r u hTurn hJump
  | stuck hWhy => exact .of_eq rfl

theorem MngEvent.grows
    (h : MngEvent k key a s t) :
    s.conn.Grows (fun _ => True) t.conn := by
  have hBoth : ∀ r u, MngTurn k key a s r →
      MngJump key a r.1 r.2 u →
        s.conn.Grows (fun _ => True) u.conn := by
    intro r u hTurn hJump
    rcases hTurn.logs with ⟨state, _, hCall⟩
    have hCall' : s.conn.Grows (fun _ => True) r.1.conn :=
      hCall.mono fun _ _ => trivial
    rcases hJump.logs with ⟨_, hSame⟩ | ⟨_, hArrival⟩
    · rw [hSame]
      exact hCall'
    · exact hCall'.enter _ hArrival
  cases h with
  | going r u hTurn hJump hNext => exact hBoth r _ hTurn hJump
  | ends r u hTurn hJump hNext =>
      rw [mngDone_conn]
      exact hBoth r u hTurn hJump

theorem first_grows
    (states : Nat → StateDefinition)
    (hStates : states HELLO_READ =
      { onArrival := some helloReadInit
        onReadReady := some helloRead })
    (key : Key)
    (a : Answers)
    (s : St) :
    s.conn.Grows (fun _ => True)
      (handleFirst states key a s).conn := by
  have hSelf : s.conn.Grows (fun _ => True) s.conn :=
    .of_eq rfl
  rw [handleFirst_eq hStates]
  split
  · refine hSelf.enter HELLO_READ (P := fun _ => True) ?_
    unfold helloReadInit
    split
    · exact .single rfl trivial
    · exact .single rfl trivial
  · exact hSelf

/- No small step removes an event from a history. -/
theorem Micro.grows
    (h : Micro w w')
    (hInv : Inv w)
    (hOld : k < w.next) :
    (w.conn k).Grows (fun _ => True) (w'.conn k) := by
  cases h.change (Nat.lt_of_lt_of_le hOld h.next_le) with
  | same _ hConn => exact .of_eq (by rw [hConn])
  | born isSocks client hNew =>
      exact absurd hOld (by rw [hNew]; exact Nat.lt_irrefl _)
  | resolution addresses _ hState hConn =>
      exact .of_eq (by rw [hConn])
  | socks key a t hLive hSocks hEvent hConn =>
      rcases hInv.first hLive clientStatbl rfl key
        a with ⟨_, hSound, hOwns⟩
      rw [hConn]
      exact (first_grows clientStatbl rfl key a
        (w.view k)).trans (hEvent.grows hSound hOwns)
  | mng key a t hLive hMng hEvent hConn =>
      rw [hConn]
      exact (first_grows clientMng rfl key a
        (w.view k)).trans hEvent.grows
  | block job rest a t hStarter hWaits hEvent hConn =>
      rw [hConn]
      subst hStarter
      have hNoted : (w.conn job.starter).Grows
          (fun _ => True) (w.notified job rest).conn :=
        .single rfl trivial
      exact hNoted.trans (hEvent.grows hInv.sound
        ((hInv.wired _ hWaits.live).owns.of_eq rfl rfl rfl))

end Growing

end Socks5d
