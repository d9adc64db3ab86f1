import Socks5d.ConnRuns

/-
  Which slots of the selector have which connection as data,
  and what each call of a handler does to them and to the
  counters of references.

  Main declarations:
    * `Selector.owner?`, `SameLinks`, `Apart`, `Arms`
    * `SocksTurn.links`, `SocksJump.links`
    * `unregisterFd_owned`, `unregisterFd_apart`
    * `Linking`, `Connection.linking`
-/

------------------------------------------------------------
-- Owners Of Slots
------------------------------------------------------------

namespace Socks5d

/- The connection that the item of the descriptor names. -/
def Selector.owner?
    (sel : Selector)
    (fd : Fd) : Option ConnId :=
  (sel.fds fd).bind fun item => item.attached.data?

/- `connect` has not failed. -/
def Attempt.started (attempt : Attempt) : Bool :=
  match attempt.answer with
  | .failed _ => false
  | _ => true

/- Owners, counters and descriptors are the same. -/
structure SameLinks (s t : St) : Prop where
  owner : ∀ fd,
    t.srv.sel.owner? fd = s.srv.sel.owner? fd
  references : t.srv.references = s.srv.references
  handedBack : t.srv.handedBack = s.srv.handedBack
  client : t.conn.clientFd = s.conn.clientFd
  origin : t.conn.originFd = s.conn.originFd

/- Connection `c` gets no slot and its counters stay. -/
structure Apart
    (c : ConnId)
    (x y : Server) : Prop where
  slots : ∀ fd, y.sel.owner? fd = some c →
    x.sel.owner? fd = some c
  references : y.references c = x.references c
  handedBack : y.handedBack c = x.handedBack c

/-
  Only the slot of the descriptor is set, for its owner, and
  to wait for something.
-/
structure Arms
    (fd : Fd)
    (attached : Attachment)
    (s t : St) : Prop where
  sel : t.srv.sel = s.srv.sel ∨ ∃ wanted, wanted ≠ opNoop ∧
    t.srv.sel = s.srv.sel.put fd ⟨wanted, attached⟩
  references : t.srv.references = s.srv.references
  handedBack : t.srv.handedBack = s.srv.handedBack
  client : t.conn.clientFd = s.conn.clientFd
  origin : t.conn.originFd = s.conn.originFd

section Links

variable {k : ConnId}
variable {key : Key}
variable {a : Answers}
variable {s t u : St}
variable {x : St}
variable {fd other : Fd}
variable {attached : Attachment}
variable {r : St × Nat}
variable {next : Nat}

@[simp] theorem Selector.owner?_put_self
    (sel : Selector)
    (fd : Fd)
    (item : Item) :
    (sel.put fd item).owner? fd = item.attached.data? := by
  unfold Selector.owner?
  rw [put_fds_self]
  rfl

theorem Selector.owner?_put_of_ne
    (sel : Selector)
    (item : Item)
    (h : other ≠ fd) :
    (sel.put fd item).owner? other = sel.owner? other := by
  unfold Selector.owner?
  rw [put_fds_of_ne item h]

@[simp] theorem Selector.owner?_clear_self
    (sel : Selector)
    (fd : Fd) : (sel.clear fd).owner? fd = none := by
  unfold Selector.owner?
  rw [clear_fds_self]
  rfl

theorem Selector.owner?_clear_of_ne
    (sel : Selector)
    (h : other ≠ fd) :
    (sel.clear fd).owner? other = sel.owner? other := by
  unfold Selector.owner?
  rw [clear_fds_of_ne h]

theorem Selector.Has.owner
    {sel : Selector}
    {interest : Interest}
    (h : sel.Has fd interest attached) :
    sel.owner? fd = attached.data? := by
  unfold Selector.owner?
  rw [h.2]
  rfl

/- Putting an item of the same owner changes no owner. -/
theorem Selector.owner?_put
    {sel : Selector}
    {item : Item}
    (h : sel.owner? fd = item.attached.data?) :
    (sel.put fd item).owner? other = sel.owner? other := by
  by_cases hEq : other = fd
  · rw [hEq, owner?_put_self, h]
  · exact owner?_put_of_ne sel item hEq

namespace SameLinks

theorem refl
    (s : St) : SameLinks s s :=
  ⟨fun _ => rfl, rfl, rfl, rfl, rfl⟩

theorem trans
    (h : SameLinks s t)
    (h' : SameLinks t u) : SameLinks s u where
  owner := fun fd => (h'.owner fd).trans (h.owner fd)
  references := h'.references.trans h.references
  handedBack := h'.handedBack.trans h.handedBack
  client := h'.client.trans h.client
  origin := h'.origin.trans h.origin

/- Only other fields have changed. -/
theorem of_sel
    (hSel : t.srv.sel = s.srv.sel)
    (hReferences : t.srv.references = s.srv.references)
    (hBack : t.srv.handedBack = s.srv.handedBack)
    (hClient : t.conn.clientFd = s.conn.clientFd)
    (hOrigin : t.conn.originFd = s.conn.originFd) :
    SameLinks s t := by
  refine ⟨?_, hReferences, hBack, hClient, hOrigin⟩
  intro fd
  rw [hSel]

theorem of_sel_put
    {wanted : Interest}
    (hOwner : s.srv.sel.owner? fd = attached.data?)
    (hSel : t.srv.sel = s.srv.sel.put fd ⟨wanted, attached⟩)
    (hReferences : t.srv.references = s.srv.references)
    (hBack : t.srv.handedBack = s.srv.handedBack)
    (hClient : t.conn.clientFd = s.conn.clientFd)
    (hOrigin : t.conn.originFd = s.conn.originFd) :
    SameLinks s t := by
  refine ⟨?_, hReferences, hBack, hClient, hOrigin⟩
  intro other
  rw [hSel, Selector.owner?_put hOwner]

theorem arm
    (h : SameLinks x s)
    (wanted : Interest)
    (hOwner : x.srv.sel.owner? fd = attached.data?) :
    SameLinks x (s.arm fd wanted attached) where
  owner := by
    intro other
    rw [← h.owner other]
    exact Selector.owner?_put ((h.owner fd).trans hOwner)
  references := h.references
  handedBack := h.handedBack
  client := h.client
  origin := h.origin

theorem replied
    (h : SameLinks x s)
    (status : SocksReplyStatus) :
    SameLinks x (replied s status) := by
  rcases replied_eq s status with ⟨wb, log, hEq, _⟩
  rw [hEq]
  exact ⟨h.owner, h.references, h.handedBack, h.client,
    h.origin⟩

theorem idleOrigin
    (h : SameLinks x s) : SameLinks x (idleOrigin s) := by
  rcases idleOrigin_cases s with
    ⟨hSame, _⟩ | ⟨interest, attached, hHas, hIdle⟩
  · rw [hSame]
    exact h
  · rw [hIdle]
    exact h.arm _ ((h.owner _).symm.trans hHas.owner)

theorem answeredWith
    (h : SameLinks x s)
    (hClient : x.srv.sel.owner? x.conn.clientFd =
      attached.data?)
    (status : SocksReplyStatus) :
    SameLinks x (answeredWith s attached status) := by
  have hReplied := h.replied status
  refine SameLinks.idleOrigin (hReplied.arm _ ?_)
  rw [show s.conn.clientFd = x.conn.clientFd from h.client]
  exact hClient

theorem refusedWith
    (h : SameLinks x s)
    (hClient : x.srv.sel.owner? x.conn.clientFd =
      attached.data?)
    (status : SocksReplyStatus) :
    SameLinks x (refusedWith s attached status) := by
  refine answeredWith ?_ hClient status
  exact ⟨h.owner, h.references, h.handedBack, h.client,
    h.origin⟩

end SameLinks

/- Settling a side of a relay keeps the owners. -/
theorem SameLinks.settled
    (h : SameLinks x s)
    (hSlots : ∀ side, s.conn.fdOf side ≠ -1 →
      x.srv.sel.owner? (s.conn.fdOf side) = attached.data?)
    (side : Side) :
    SameLinks x (settled attached side s) := by
  have hSettle : ∀ (sel : Selector) at_,
      (∀ fd, sel.owner? fd = x.srv.sel.owner? fd) →
        ∀ fd, (s.conn.settle attached at_ sel).owner? fd =
          x.srv.sel.owner? fd := by
    intro sel at_ hSame fd
    unfold Conn.settle
    split
    · rename_i hFd
      rw [Selector.owner?_put ((hSame _).trans
        (hSlots at_ hFd)), hSame]
    · exact hSame fd
  exact ⟨hSettle _ _ (hSettle _ _ h.owner), h.references,
    h.handedBack, h.client, h.origin⟩

theorem Arms.links
    (h : Arms fd attached s t)
    (hOwner : s.srv.sel.owner? fd = attached.data?) :
    SameLinks s t := by
  refine ⟨?_, h.references, h.handedBack, h.client, h.origin⟩
  intro other
  rcases h.sel with hSel | ⟨wanted, _, hSel⟩
  · rw [hSel]
  · rw [hSel, Selector.owner?_put hOwner]

theorem Arms.apart
    {c : ConnId}
    (h : Arms fd attached s t)
    (hOther : attached.data? ≠ some c) :
    Apart c s.srv t.srv := by
  refine ⟨?_, by rw [h.references], by rw [h.handedBack]⟩
  intro other hOwned
  rcases h.sel with hSel | ⟨wanted, _, hSel⟩
  · rwa [hSel] at hOwned
  · by_cases hEq : other = fd
    · rw [hSel, hEq, Selector.owner?_put_self] at hOwned
      exact absurd hOwned hOther
    · rwa [hSel, Selector.owner?_put_of_ne _ _ hEq] at hOwned

theorem SameLinks.apart
    {c : ConnId}
    (h : SameLinks s t) : Apart c s.srv t.srv := by
  refine ⟨?_, by rw [h.references], by rw [h.handedBack]⟩
  intro fd hOwned
  rw [← h.owner fd]
  exact hOwned

theorem Apart.trans
    {c : ConnId}
    {x y z : Server}
    (h : Apart c x y)
    (h' : Apart c y z) : Apart c x z where
  slots := fun fd hOwned => h.slots fd (h'.slots fd hOwned)
  references := h'.references.trans h.references
  handedBack := h'.handedBack.trans h.handedBack

end Links

end Socks5d

------------------------------------------------------------
-- Calls That Keep The Slots
------------------------------------------------------------

namespace Socks5d

section Calls

variable {k : ConnId}
variable {key : Key}
variable {a : Answers}
variable {s t u : St}
variable {attached : Attachment}
variable {r : St × Nat}
variable {next : Nat}

theorem RequestProcess.links
    {request : Request}
    (h : RequestProcess key a request s attached r)
    (hKey : s.srv.sel.owner? key.fd = attached.data?) :
    SameLinks s r.1 := by
  cases h with
  | refused status addrFamily hRequest =>
      refine SameLinks.arm (.replied ?_ _) _ hKey
      exact .of_sel rfl rfl rfl rfl rfl
  | direct addrFamily domain len hType =>
      exact .of_sel rfl rfl rfl rfl rfl
  | noMemory hAlloc =>
      refine SameLinks.arm (.replied ?_ _) _ hKey
      exact .of_sel rfl rfl rfl rfl rfl
  | noThread hThread =>
      refine SameLinks.arm (.replied ?_ _) _ hKey
      exact .of_sel rfl rfl rfl rfl rfl
  | resolving hType hThread =>
      refine SameLinks.arm ?_ _ hKey
      exact .of_sel rfl rfl rfl rfl rfl
  | waiting hType hThread =>
      refine SameLinks.arm ?_ _ hKey
      exact .of_sel rfl rfl rfl rfl rfl

theorem Relay.links
    {side : Side}
    (h : Relay side s t) : SameLinks s t := by
  cases h with
  | ended =>
      rcases copyShut_eq side s.conn Interest.clearRead
        Interest.clearWrite with ⟨_, _, hEq⟩
      unfold copyEnded copyShutRead
      rw [hEq]
      exact .of_sel rfl rfl rfl rfl rfl
  | got bytes hSome hRoom =>
      rcases copyGot_eq side bytes s with
        ⟨m, parser, found, hEq, _⟩
      rw [hEq]
      cases side <;> exact .of_sel rfl rfl rfl rfl rfl
  | sendFailed =>
      rcases copyShut_eq side s.conn Interest.clearWrite
        Interest.clearRead with ⟨_, _, hEq⟩
      unfold copySendFailed copyShutWrite
      rw [hEq]
      exact .of_sel rfl rfl rfl rfl rfl
  | sent n =>
      cases side <;> exact .of_sel rfl rfl rfl rfl rfl

theorem HelloRead.arms
    (h : HelloRead key a s attached r) :
    Arms key.fd attached s r.1 := by
  cases h with
  | failed => exact ⟨Or.inl rfl, rfl, rfl, rfl, rfl⟩
  | ended => exact ⟨Or.inl rfl, rfl, rfl, rfl, rfl⟩
  | more => exact ⟨Or.inl rfl, rfl, rfl, rfl, rfl⟩
  | refused =>
      exact ⟨Or.inr ⟨opWrite, by decide, rfl⟩, rfl, rfl, rfl,
        rfl⟩
  | answered =>
      exact ⟨Or.inr ⟨opWrite, by decide, rfl⟩, rfl, rfl, rfl,
        rfl⟩

theorem HelloWrite.arms
    (h : HelloWrite key a s attached r) :
    Arms key.fd attached s r.1 := by
  cases h with
  | failed => exact ⟨Or.inl rfl, rfl, rfl, rfl, rfl⟩
  | more => exact ⟨Or.inl rfl, rfl, rfl, rfl, rfl⟩
  | refused => exact ⟨Or.inl rfl, rfl, rfl, rfl, rfl⟩
  | userpass =>
      exact ⟨Or.inr ⟨opRead, by decide, rfl⟩, rfl, rfl, rfl,
        rfl⟩
  | request =>
      exact ⟨Or.inr ⟨opRead, by decide, rfl⟩, rfl, rfl, rfl,
        rfl⟩

theorem AuthRead.arms
    (h : AuthRead key a s attached r) :
    Arms key.fd attached s r.1 := by
  have hWrites : ∀ bytes (processed : St × Nat),
      AuthProcess ((authFed key bytes s).1.arm key.fd opWrite
        attached) processed →
          Arms key.fd attached s processed.1 := by
    intro bytes processed hProcess
    cases hProcess <;>
      exact ⟨Or.inr ⟨opWrite, by decide, rfl⟩, rfl, rfl, rfl,
        rfl⟩
  cases h with
  | failed => exact ⟨Or.inl rfl, rfl, rfl, rfl, rfl⟩
  | ended => exact ⟨Or.inl rfl, rfl, rfl, rfl, rfl⟩
  | more => exact ⟨Or.inl rfl, rfl, rfl, rfl, rfl⟩
  | rejected bytes _ processed hProcess =>
      exact hWrites bytes processed hProcess
  | answered bytes _ _ _ processed hProcess =>
      exact hWrites bytes _ hProcess

theorem AuthWrite.arms
    (h : AuthWrite key a s attached r) :
    Arms key.fd attached s r.1 := by
  rcases authReply_eq s with ⟨wb, hReply⟩
  cases h with
  | failed =>
      rw [hReply]
      exact ⟨Or.inl rfl, rfl, rfl, rfl, rfl⟩
  | more =>
      rw [hReply]
      exact ⟨Or.inl rfl, rfl, rfl, rfl, rfl⟩
  | refused =>
      rw [hReply]
      exact ⟨Or.inl rfl, rfl, rfl, rfl, rfl⟩
  | passed =>
      rw [hReply]
      exact ⟨Or.inr ⟨opRead, by decide, rfl⟩, rfl, rfl, rfl,
        rfl⟩

/- Only `connecting_write` changes the slots. -/
theorem SocksTurn.links
    (h : SocksTurn k key a s r)
    (hSound : s.srv.sel.Sound)
    (hOwns : Owns k s.srv.sel s.conn)
    (hKey : s.srv.sel.owner? key.fd = some k)
    (hState : s.conn.current ≠ some REQUEST_CONNECTING) :
    SameLinks s r.1 := by
  cases h with
  | helloRead _ _ _ _ _ _ hCall =>
      exact hCall.arms.links hKey
  | helloWrite _ _ _ _ _ _ hCall =>
      exact hCall.arms.links hKey
  | authRead _ _ _ _ _ hCall =>
      exact hCall.arms.links hKey
  | authWrite _ _ _ _ _ hCall =>
      exact hCall.arms.links hKey
  | requestRead _ _ _ _ _ p _ _ hCall =>
      cases hCall with
      | ended => exact .of_sel rfl rfl rfl rfl rfl
      | more => exact .of_sel rfl rfl rfl rfl rfl
      | processed bytes _ _ _ _ hResult =>
          have hFed : SameLinks s (requestFed key bytes p s).1 :=
            .of_sel rfl rfl rfl rfl rfl
          exact hFed.trans (hResult.links hKey)
  | requestResolvDone _ _ _ _ p _ _ hCall =>
      cases hCall with
      | failed hList =>
          refine SameLinks.arm (.replied ?_ _) _ hKey
          exact .of_sel rfl rfl rfl rfl rfl
      | first address rest hList =>
          rcases takeAddress_eq address
              { s.note (.resolved s.conn.originResolution)
                with
                conn.resolutionCurrent := address :: rest }
            with ⟨_, _, _, hEq⟩
          rw [hEq]
          exact .of_sel rfl rfl rfl rfl rfl
  | connectingWrite hHere => exact absurd hHere hState
  | requestWrite _ _ hClient hOrigin _ hCall =>
      cases hCall with
      | failed => exact .of_sel rfl rfl rfl rfl rfl
      | more => exact .of_sel rfl rfl rfl rfl rfl
      | alone =>
          refine SameLinks.arm ?_ _ hClient.owner
          exact .of_sel rfl rfl rfl rfl rfl
      | relay n _ _ _ hOpen =>
          have hSlot := hOrigin.resolve_left hOpen
          refine SameLinks.arm (.arm ?_ _ hClient.owner) _
            hSlot.owner
          exact .of_sel rfl rfl rfl rfl rfl
      | done =>
          refine SameLinks.arm ?_ _ hClient.owner
          exact .of_sel rfl rfl rfl rfl rfl
  | relay _ hCopy hSlots side _ _ t hRelay =>
      have hReady := hRelay.ready hSound hOwns hCopy hSlots
      rcases copyFinish_eq hReady.1.fds hReady.2 side with
        ⟨m, hEq⟩
      rw [hEq]
      have hSettled : SameLinks s
          (settled (.socks k) side t) := by
        refine hRelay.links.settled ?_ side
        intro at_ hFd
        rw [hRelay.relayed.fds at_] at hFd ⊢
        exact (hSlots at_ hFd).owner
      exact ⟨hSettled.owner, hSettled.references,
        hSettled.handedBack, hSettled.client, hSettled.origin⟩

/- Only entering `REQUEST_CONNECTING` changes the slots. -/
theorem SocksJump.links
    (h : SocksJump k key a s next u)
    (hKey : s.srv.sel.owner? key.fd = some k)
    (hSlots : next = COPY → s.conn.current ≠ some COPY →
      s.conn.Slotted (.socks k) s.srv.sel)
    (hNext : next ≠ REQUEST_CONNECTING) : SameLinks s u := by
  cases h with
  | stay => exact .refl s
  | plain => exact .of_sel rfl rfl rfl rfl rfl
  | userpassRead =>
      unfold authReadInit
      split
      · exact .of_sel rfl rfl rfl rfl rfl
      · exact .of_sel rfl rfl rfl rfl rfl
  | requestRead _ _ hInit =>
      cases hInit with
      | ready => exact .of_sel rfl rfl rfl rfl rfl
      | starved =>
          exact .of_sel_put hKey rfl rfl rfl rfl rfl
  | connecting => exact absurd rfl hNext
  | copy hState =>
      have hBoth := hSlots rfl (by rw [hState]; decide)
      have hStarted : SameLinks s { entered COPY s with
          conn := copyStart (entered COPY s).conn } :=
        .of_sel rfl rfl rfl rfl rfl
      refine hStarted.settled ?_ .origin
      intro side hFd
      have hFds : ∀ at_, (copyStart (entered COPY
          s).conn).fdOf at_ = s.conn.fdOf at_ := by
        intro at_
        cases at_ <;> rfl
      rw [hFds] at hFd ⊢
      rcases hBoth side hFd with ⟨_, hHas⟩
      exact hHas.owner

end Calls

end Socks5d

------------------------------------------------------------
-- Unregistering
------------------------------------------------------------

namespace Socks5d

section Unregistering

variable {c k : ConnId}
variable {s t : St}
variable {fd : Fd}

/- The slot is released, after its owner has been destroyed. -/
theorem unregisterFd_owned
    {srv : Server}
    (hValid : validFd fd = true)
    (hOwner : srv.sel.owner? fd = some k) :
    unregisterFd srv fd =
      ({ destroy srv k with sel := srv.sel.clear fd },
        true) := by
  unfold unregisterFd Selector.registered?
  unfold Selector.owner? at hOwner
  rw [if_pos hValid]
  cases hItem : srv.sel.fds fd with
  | none =>
      rw [hItem] at hOwner
      nomatch hOwner
  | some item =>
      rw [hItem, Option.bind_some] at hOwner
      simp only [hOwner, destroy_sel]

/- Whoever does not own the slot is not concerned. -/
theorem unregisterFd_apart
    {srv : Server}
    (hOther : srv.sel.owner? fd ≠ some c) :
    Apart c srv (unregisterFd srv fd).1 := by
  unfold unregisterFd Selector.registered?
  unfold Selector.owner? at hOther
  split
  · exact ⟨fun _ h => h, rfl, rfl⟩
  · rename_i item hItem
    have hSlot : srv.sel.fds fd = some item := by
      split at hItem
      · exact hItem
      · nomatch hItem
    rw [hSlot, Option.bind_some] at hOther
    have hCleared : ∀ other,
        (srv.sel.clear fd).owner? other = some c →
          srv.sel.owner? other = some c := by
      intro other hOwned
      by_cases hEq : other = fd
      · rw [hEq, Selector.owner?_clear_self] at hOwned
        nomatch hOwned
      · rwa [Selector.owner?_clear_of_ne _ hEq] at hOwned
    cases hData : item.attached.data? with
    | none => exact ⟨hCleared, rfl, rfl⟩
    | some data =>
        have hNe : c ≠ data := by
          intro hEq
          exact hOther (hData.trans (congrArg some hEq.symm))
        simp only [destroy_sel]
        unfold destroy
        split
        · exact ⟨hCleared, rfl,
            Function.update_of_ne hNe _ _⟩
        · exact ⟨hCleared,
            Function.update_of_ne hNe _ _, rfl⟩

theorem doneFd_apart
    (hOther : s.srv.sel.owner? fd ≠ some c) :
    Apart c s.srv (doneFd fd s).srv := by
  have hApart := unregisterFd_apart hOther
  unfold doneFd
  split
  · exact ⟨fun _ h => h, rfl, rfl⟩
  · simp only []
    split
    · exact ⟨hApart.slots, hApart.references,
        hApart.handedBack⟩
    · exact ⟨hApart.slots, hApart.references,
        hApart.handedBack⟩

end Unregistering

end Socks5d

------------------------------------------------------------
-- One Attempt
------------------------------------------------------------

namespace Socks5d

/- What one call of `connection` does to the slots. -/
inductive Linking
    (k : ConnId)
    (attempt : Attempt)
    (s t : St) : Prop where
  | same
      (hSame : SameLinks s t)
  | linked
      (hStarted : attempt.started = true)
      (hFree : s.srv.sel.owner? s.conn.originFd = none)
      (hSelf : t.srv.sel.owner? s.conn.originFd = some k)
      (hOwner : ∀ fd, fd ≠ s.conn.originFd →
        t.srv.sel.owner? fd = s.srv.sel.owner? fd)
      (hReferences : t.srv.references =
        Function.update s.srv.references k
          (s.srv.references k + 1))
      (hBack : t.srv.handedBack = s.srv.handedBack)
      (hClient : t.conn.clientFd = s.conn.clientFd)
      (hOrigin : t.conn.originFd = s.conn.originFd)
  /- the descriptor is closed; a slot of it would stay -/
  | blocked
      (hStarted : attempt.started = true)
      (hOwner : ∀ fd,
        t.srv.sel.owner? fd = s.srv.sel.owner? fd)
      (hReferences : t.srv.references = s.srv.references)
      (hBack : t.srv.handedBack = s.srv.handedBack)
      (hClient : t.conn.clientFd = s.conn.clientFd)
      (hOrigin : t.conn.originFd = -1)
  /- the reference was taken, but there is no slot for it -/
  | leaked
      (hAnswer : attempt.answer = .connected)
      (hTaken : attempt.registrable = false)
      (hOwner : ∀ fd,
        t.srv.sel.owner? fd = s.srv.sel.owner? fd)
      (hReferences : t.srv.references =
        Function.update s.srv.references k
          (s.srv.references k + 1))
      (hBack : t.srv.handedBack = s.srv.handedBack)

section Attempts

variable {c k : ConnId}
variable {key : Key}
variable {a : Answers}
variable {s t : St}
variable {attempt : Attempt}
variable {r : St × SocksReplyStatus}

/- A free slot has no owner. -/
theorem Selector.owner?_of_canRegister
    {sel : Selector}
    {fd : Fd}
    (h : sel.canRegister fd = true) :
    sel.owner? fd = none := by
  unfold owner?
  rw [(canRegister_iff.mp h).2]
  rfl

theorem Connection.linking
    (h : Connection key a s (.socks k) r)
    (hData : key.data = k)
    (hKey : s.srv.sel.owner? key.fd = some k)
    (hClient : s.srv.sel.owner? s.conn.clientFd = some k) :
    Linking k (connectAttempt a s) s r.1 := by
  have hTried : SameLinks s (attempted a s) :=
    .of_sel rfl rfl rfl rfl rfl
  have hStarted : ∀ answer, (∀ e, answer ≠ .failed e) →
      (connectAttempt a s).answer = answer →
        (connectAttempt a s).started = true := by
    intro answer hNot hAnswer
    unfold Attempt.started
    rw [hAnswer]
    cases answer with
    | failed errno => exact absurd rfl (hNot errno)
    | inProgress => rfl
    | connected => rfl
  subst hData
  have hSlot : s.srv.sel.owner? key.fd =
      (Attachment.socks key.data).data? := hKey
  have hFirst : s.srv.sel.owner? s.conn.clientFd =
      (Attachment.socks key.data).data? := hClient
  cases h with
  | refused errno hAnswer =>
      refine .same (.refusedWith ?_ hFirst _)
      exact .of_sel rfl rfl rfl rfl rfl
  | underway hAnswer hFree =>
      have hNone := Selector.owner?_of_canRegister hFree
      have hArmed := hTried.arm opNoop hSlot
      have hUnderway := hStarted .inProgress
        (fun _ h => nomatch h) hAnswer
      refine .linked hUnderway hNone ?_ ?_ rfl rfl rfl rfl
      · exact Selector.owner?_put_self _ _ _
      · intro fd hNe
        exact (Selector.owner?_put_of_ne _ _ hNe).trans
          (hArmed.owner fd)
  | blocked hAnswer hTaken =>
      have hRefused := (hTried.arm opNoop hSlot).refusedWith
        hFirst .generalSocksServerFailure
      have hUnderway := hStarted .inProgress
        (fun _ h => nomatch h) hAnswer
      exact .blocked hUnderway hRefused.owner
        hRefused.references hRefused.handedBack
        hRefused.client rfl
  | atOnce hAnswer hFree =>
      have hNone := Selector.owner?_of_canRegister hFree
      have hArmed := hTried.arm opRead hSlot
      have hUnderway := hStarted .connected
        (fun _ h => nomatch h) hAnswer
      refine .linked hUnderway hNone ?_ ?_ rfl rfl rfl rfl
      · exact Selector.owner?_put_self _ _ _
      · intro fd hNe
        exact (Selector.owner?_put_of_ne _ _ hNe).trans
          (hArmed.owner fd)
  | atOnceBlocked hAnswer hTaken =>
      let taken : St := takeReference key (attempted a s)
      have hSelf : SameLinks taken
          (taken.arm key.fd opRead (.socks key.data)) :=
        (SameLinks.refl taken).arm opRead hSlot
      have hStill : taken.srv.sel.owner? taken.conn.clientFd =
          (Attachment.socks key.data).data? := hFirst
      have hRefused := hSelf.refusedWith hStill
        .generalSocksServerFailure
      exact .leaked hAnswer hTaken hRefused.owner
        hRefused.references hRefused.handedBack

/- An attempt of another connection is none of its business. -/
theorem Linking.apart
    (h : Linking k attempt s t)
    (hNe : c ≠ k) : Apart c s.srv t.srv := by
  cases h with
  | same hSame => exact hSame.apart
  | linked _ _ hSelf hOwner hReferences hBack =>
      refine ⟨?_, ?_, by rw [hBack]⟩
      · intro fd hOwned
        by_cases hEq : fd = s.conn.originFd
        · rw [hEq, hSelf] at hOwned
          exact absurd (Option.some.inj hOwned).symm hNe
        · rwa [hOwner fd hEq] at hOwned
      · rw [hReferences, Function.update_of_ne hNe]
  | blocked _ hOwner hReferences hBack =>
      refine ⟨?_, by rw [hReferences], by rw [hBack]⟩
      intro fd hOwned
      rwa [hOwner fd] at hOwned
  | leaked _ _ hOwner hReferences hBack =>
      refine ⟨?_, ?_, by rw [hBack]⟩
      · intro fd hOwned
        rwa [hOwner fd] at hOwned
      · rw [hReferences, Function.update_of_ne hNe]

end Attempts

end Socks5d
