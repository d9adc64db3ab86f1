import Socks5d.ConnRuns

/-
  When the server calls `abort`: only after a `connect` that
  succeeds at once or an allocation of `request_init` that
  fails.

  Main declarations:
    * `World.Smooth`
    * `SafeReturn`, `World.Serves`, `World.Orderly`
    * `smooth_orderly`
-/

------------------------------------------------------------
-- Runs Without The Two Causes
------------------------------------------------------------

namespace Socks5d

instance (c : Conn) : Decidable (RequestStarved c) :=
  decidable_of_iff
    (c.log.any (fun
      | .outOfMemory .requestParser => true
      | .outOfMemory .requestFirst => true
      | .outOfMemory .requestSecond => true
      | _ => false) = true) (by
    rw [List.any_eq_true]
    constructor
    · rintro ⟨event, hEvent, hSite⟩
      split at hSite
      · exact ⟨_, hEvent, Or.inl rfl⟩
      · exact ⟨_, hEvent, Or.inr (Or.inl rfl)⟩
      · exact ⟨_, hEvent, Or.inr (Or.inr rfl)⟩
      · cases hSite
    · rintro ⟨site, hEvent, rfl | rfl | rfl⟩
      all_goals exact ⟨_, hEvent, rfl⟩)

instance (c : Conn) : Decidable (ConnectedAtOnce c) :=
  decidable_of_iff
    (c.log.any (fun
      | .connect attempt => decide
          (attempt.answer = .connected ∧
            attempt.registrable = true)
      | _ => false) = true) (by
    rw [List.any_eq_true]
    constructor
    · rintro ⟨event, hEvent, hAttempt⟩
      split at hAttempt
      · exact ⟨_, hEvent, of_decide_eq_true hAttempt⟩
      · cases hAttempt
    · rintro ⟨attempt, hEvent, hAttempt⟩
      exact ⟨_, hEvent, decide_eq_true hAttempt⟩)

namespace World

variable (w : World)

/-
  No allocation of `request_init` has failed and no `connect`
  has succeeded at once on a socket that could be registered.
-/
def Smooth : Prop :=
  ∀ k < w.next,
    ¬ RequestStarved (w.conn k) ∧
      ¬ ConnectedAtOnce (w.conn k)

end World

/-
  A state number is in range, and the descriptors that the
  closing handler unregisters have a slot.
-/
structure SafeReturn (r : St × Nat) : Prop where
  inRange : r.2 ≤ r.1.conn.maxState
  registered : r.2 = r.1.conn.doneState ∨
    r.2 = r.1.conn.errorState →
      ∀ fd, fd = r.1.conn.clientFd ∨
        fd = r.1.conn.originFd → fd ≠ -1 →
          ∃ item, r.1.srv.sel.registered? fd = some item

namespace World

variable (w : World)

/- The state has a handler for the event, which returns. -/
def Serves
    (ready : StateDefinition → Option Handler)
    (states : Nat → StateDefinition)
    (key : Key)
    (s : St) : Prop :=
  ready (states (s.conn.current.getD HELLO_READ)) ≠ none ∧
    ∀ a, SafeReturn (stmHandler ready states key a s)

/- What keeps every `abort` of the server out of reach. -/
structure Orderly : Prop where
  socksRead : ∀ fd item k,
    w.srv.sel.registered? fd = some item →
    item.attached = .socks k → item.interest.read = true →
      Serves StateDefinition.onReadReady clientStatbl
        ⟨fd, k⟩ (w.view k)
  socksWrite : ∀ fd item k,
    w.srv.sel.registered? fd = some item →
    item.attached = .socks k → item.interest.write = true →
      Serves StateDefinition.onWriteReady clientStatbl
        ⟨fd, k⟩ (w.view k)
  mngRead : ∀ fd item k,
    w.srv.sel.registered? fd = some item →
    item.attached = .mng k → item.interest.read = true →
      Serves StateDefinition.onReadReady clientMng
        ⟨fd, k⟩ (w.view k)
  mngWrite : ∀ fd item k,
    w.srv.sel.registered? fd = some item →
    item.attached = .mng k → item.interest.write = true →
      Serves StateDefinition.onWriteReady clientMng
        ⟨fd, k⟩ (w.view k)
  block : ∀ job rest, w.srv.jobs = job :: rest →
    ∃ interest, w.srv.sel.registered? job.fd =
        some ⟨interest, .socks job.starter⟩ ∧
      Serves StateDefinition.onBlockReady clientStatbl
        ⟨job.fd, job.starter⟩ (w.notified job rest)
  fault : w.srv.fault ≠ some .abort

end World

end Socks5d

------------------------------------------------------------
-- Single Events
------------------------------------------------------------

namespace Socks5d

section Events

variable {w w' : World}
variable {k : ConnId}
variable {key : Key}
variable {a : Answers}
variable {s : St}
variable {ready : StateDefinition → Option Handler}

/- The state after the start is the one looked up before. -/
theorem first_getD
    {states : Nat → StateDefinition}
    (hStates : states HELLO_READ =
      { onArrival := some helloReadInit
        onReadReady := some helloRead })
    (key : Key)
    (a : Answers)
    (s : St) :
    (handleFirst states key a s).conn.current.getD
        HELLO_READ = s.conn.current.getD HELLO_READ := by
  rw [handleFirst_eq hStates]
  split
  · rename_i hNone
    rw [hNone]
    unfold helloReadInit
    split
    · rfl
    · rfl
  · rfl

/- A jump of a SOCKS connection lands in range. -/
theorem Landed.safe
    {r : St × Nat}
    (h : Landed k r.1 r.2)
    (hSocks : r.1.conn.isSocks = true) : SafeReturn r := by
  have hMax : r.1.conn.maxState = ERROR := if_pos hSocks
  have hDone : r.1.conn.doneState = DONE := if_pos hSocks
  have hError : r.1.conn.errorState = ERROR := if_pos hSocks
  rcases h with ⟨hLe, _⟩ | ⟨hEnd, _, hSlots⟩
  · constructor
    · rw [hMax]
      exact Nat.le_trans hLe (by decide)
    · rw [hDone, hError]
      rintro (hBad | hBad)
      all_goals
        rw [hBad] at hLe
        exact absurd hLe (by decide)
  · constructor
    · rw [hMax]
      rcases hEnd with hIs | hIs
      · rw [hIs]
        decide
      · exact Nat.le_of_eq hIs
    · intro _ fd hFd hSome
      rcases hFd with hClient | hOrigin
      · subst hClient
        rcases hSlots .client hSome with ⟨interest, hHas⟩
        exact ⟨_, hHas.registered⟩
      · subst hOrigin
        rcases hSlots .origin hSome with ⟨interest, hHas⟩
        exact ⟨_, hHas.registered⟩

theorem MngLanded.safe
    {r : St × Nat}
    (h : MngLanded k r.1 r.2)
    (hMng : r.1.conn.isSocks = false)
    (hOrigin : r.1.conn.originFd = -1) : SafeReturn r := by
  have hNot : ¬ r.1.conn.isSocks = true :=
    ne_true_of_eq_false hMng
  have hMax : r.1.conn.maxState = MNG_ERROR := if_neg hNot
  have hDone : r.1.conn.doneState = MNG_DONE := if_neg hNot
  have hError : r.1.conn.errorState = MNG_ERROR :=
    if_neg hNot
  rcases h with ⟨hLe, _⟩ | ⟨hEnd, _, interest, hSlot⟩
  · constructor
    · rw [hMax]
      exact Nat.le_trans hLe (by decide)
    · rw [hDone, hError]
      rintro (hBad | hBad)
      all_goals
        rw [hBad] at hLe
        exact absurd hLe (by decide)
  · constructor
    · rw [hMax]
      rcases hEnd with hIs | hIs
      · rw [hIs]
        decide
      · exact Nat.le_of_eq hIs
    · intro _ fd hFd hSome
      rcases hFd with hIs | hIs
      · rw [hIs]
        exact ⟨_, hSlot.registered⟩
      · exact absurd (hIs.trans hOrigin) hSome

/- An event that is served is one the state is ready for. -/
theorem Served.serves
    (h : ∀ a, Served ready k key a s)
    (hSound : s.srv.sel.Sound)
    (hSocks : s.conn.isSocks = true)
    (hData : key.data = k)
    (hSmooth : ¬ RequestStarved s.conn ∧
      ¬ ConnectedAtOnce s.conn) :
    World.Serves ready clientStatbl key s := by
  have hPicks : ∀ a, Handled k s
      (handleFirst clientStatbl key a s) ∧
        Picks ready k key a
          (handleFirst clientStatbl key a s) := by
    intro a
    cases h a with
    | picks hKept hPicks => exact ⟨hKept, hPicks⟩
    | stuck hSame hStuck =>
        rcases hStuck.2 with hStarved | hAtOnce
        · exact absurd hStarved hSmooth.1
        · exact absurd hAtOnce hSmooth.2
  constructor
  · rcases (hPicks {}).2 with ⟨onReady, hReady, _⟩
    rw [first_getD rfl] at hReady
    rw [hReady]
    exact Option.some_ne_none _
  · intro a
    rcases (hPicks a).2.handled hSound hSocks hData
        (hPicks a).1 with ⟨r, _, _, hEq, hLeft, hLanded⟩
    rw [← hEq] at hLanded
    exact hLanded.safe (hLeft.service.trans hSocks)

theorem MngServed.serves
    (h : ∀ a, MngServed ready k key a s)
    (hSound : s.srv.sel.Sound)
    (hMng : s.conn.isSocks = false)
    (hOrigin : s.conn.originFd = -1) :
    World.Serves ready clientMng key s := by
  constructor
  · rcases (h {}).picks with ⟨onReady, hReady, _⟩
    rw [first_getD rfl] at hReady
    rw [hReady]
    exact Option.some_ne_none _
  · intro a
    rcases (h a).handled hSound hMng with
      ⟨r, hTurn, hJump, hEq, hLeft, hLanded⟩
    rw [← hEq] at hLanded
    refine hLanded.safe (hLeft.service.trans hMng) ?_
    rw [hJump.originFd, hTurn.originFd, (h a).origin]
    exact hOrigin

/- A smooth world was smooth one step earlier. -/
theorem World.Smooth.before
    (h : w'.Smooth)
    (hInv : Inv w)
    (hStep : Micro w w') : w.Smooth := by
  intro k hLt
  have hGrows := hStep.grows hInv hLt
  have hNow := h k (Nat.lt_of_lt_of_le hLt hStep.next_le)
  constructor
  · rintro ⟨site, hEvent, hSite⟩
    exact hNow.1 ⟨site, hGrows.mem hEvent, hSite⟩
  · rintro ⟨attempt, hEvent, hAnswer⟩
    exact hNow.2 ⟨attempt, hGrows.mem hEvent, hAnswer⟩

/- A notification is neither of the two causes. -/
theorem notified_smooth
    {job : BlockingJob}
    {rest : List BlockingJob}
    (h : ¬ RequestStarved (w.conn job.starter) ∧
      ¬ ConnectedAtOnce (w.conn job.starter)) :
    ¬ RequestStarved (w.notified job rest).conn ∧
      ¬ ConnectedAtOnce (w.notified job rest).conn := by
  constructor
  · rintro ⟨site, hEvent, hSite⟩
    rcases List.mem_append.mp hEvent with hOld | hNew
    · exact h.1 ⟨site, hOld, hSite⟩
    · exact absurd (List.mem_singleton.mp hNew)
        (fun hBad => nomatch hBad)
  · rintro ⟨attempt, hEvent, hAnswer⟩
    rcases List.mem_append.mp hEvent with hOld | hNew
    · exact h.2 ⟨attempt, hOld, hAnswer⟩
    · exact absurd (List.mem_singleton.mp hNew)
        (fun hBad => nomatch hBad)

theorem Aftermath.calm
    {t : St}
    (h : Aftermath k s t)
    (hSmooth : ¬ RequestStarved s.conn ∧
      ¬ ConnectedAtOnce s.conn) : Calm s t := by
  cases h with
  | going hKept => exact hKept.calm
  | ends hReleased => exact hReleased.calm
  | stuck hEq hWhy =>
      rcases hWhy with hStarved | hAtOnce
      · exact absurd hStarved hSmooth.1
      · exact absurd hAtOnce hSmooth.2

/- A small step of a smooth world does not run into one. -/
theorem Micro.calm
    (hSmooth : w.Smooth)
    (hStep : Micro w w')
    (hBefore : w.srv.fault ≠ some .abort) :
    w'.srv.fault ≠ some .abort := by
  cases hStep with
  | accepted => exact hBefore
  | socks k key a interest t hLive hSocks hKey hArmed hEvent
      hAfter =>
      intro hBad
      exact hBefore (hAfter.calm (hSmooth k hLive.1) hBad)
  | mng k key a t hLive hMng hEvent hAfter =>
      intro hBad
      exact hBefore (hAfter.calm (hSmooth k hLive.1) hBad)
  | block job rest a t hJobs hWaits hEvent hAfter =>
      intro hBad
      exact hBefore (hAfter.calm
        (notified_smooth (hSmooth _ hWaits.accepted)) hBad)
  | threadStart => exact hBefore
  | threadDone => exact hBefore

end Events

end Socks5d

------------------------------------------------------------
-- Whole Runs
------------------------------------------------------------

namespace Socks5d

section Runs

variable {w : World}
variable {fd : Fd}
variable {item : Item}
variable {k : ConnId}

/- The live owner of a slot that waits for something. -/
theorem Inv.armed_socks
    (h : Inv w)
    (hItem : w.srv.sel.registered? fd = some item)
    (hOwner : item.attached = .socks k)
    (hArmed : item.interest ≠ opNoop) :
    w.Live k ∧ (w.conn k).isSocks = true ∧
      Keyed k ⟨fd, k⟩ (w.view k) item.interest := by
  have hSlot : w.srv.sel.fds fd = some item := by
    unfold Selector.registered? at hItem
    split at hItem
    · exact hItem
    · cases hItem
  cases h.armed hSlot hArmed with
  | listener hNone =>
      rw [hOwner] at hNone
      cases hNone
  | socks j hLive hSocks hAttached hKey =>
      rw [hOwner] at hAttached
      cases hAttached
      exact ⟨hLive, hSocks, hKey⟩
  | mng j hLive hMng hAttached =>
      rw [hOwner] at hAttached
      cases hAttached

theorem Inv.armed_mng
    (h : Inv w)
    (hItem : w.srv.sel.registered? fd = some item)
    (hOwner : item.attached = .mng k)
    (hArmed : item.interest ≠ opNoop) :
    w.Live k ∧ (w.conn k).isSocks = false ∧
      fd = (w.conn k).clientFd ∧
      w.srv.sel.Has fd item.interest (.mng k) := by
  have hSlot : w.srv.sel.fds fd = some item := by
    unfold Selector.registered? at hItem
    split at hItem
    · exact hItem
    · cases hItem
  cases h.armed hSlot hArmed with
  | listener hNone =>
      rw [hOwner] at hNone
      cases hNone
  | socks j hLive hSocks hAttached =>
      rw [hOwner] at hAttached
      cases hAttached
  | mng j hLive hMng hAttached hFd hHas =>
      rw [hOwner] at hAttached
      cases hAttached
      exact ⟨hLive, hMng, hFd, hHas⟩

/-
  In a run that has met neither of the two causes, every slot
  waits only for events that its state can handle, and no
  `abort` has been reached.
-/
theorem smooth_orderly
    (hReach : server.Reachable w)
    (hSmooth : w.Smooth) : w.Orderly := by
  have hRun := micro_invariant
    (P := fun w => w.Smooth → w.srv.fault ≠ some .abort)
    (fun w hInit _ => by
      rw [hInit.fault]
      exact fun hBad => nomatch hBad)
    (fun w w' hInv hBefore hStep hNow => by
      have hEarlier := hNow.before hInv hStep
      exact hStep.calm hEarlier (hBefore hEarlier)) hReach
  have hInv := hRun.1
  refine ⟨?_, ?_, ?_, ?_, ?_, hRun.2 hSmooth⟩
  · intro fd item k hItem hOwner hRead
    rcases hInv.armed_socks hItem hOwner (by
      intro hBad
      rw [hBad] at hRead
      cases hRead) with ⟨hLive, hSocks, hKey⟩
    have hWired := hInv.wired k hLive
    exact Served.serves (fun a => socks_read hInv.sound
      hWired.owns hSocks (hWired.socks hSocks) hInv.auth hKey
      hRead a) hInv.sound hSocks rfl (hSmooth k hLive.1)
  · intro fd item k hItem hOwner hWrite
    rcases hInv.armed_socks hItem hOwner (by
      intro hBad
      rw [hBad] at hWrite
      cases hWrite) with ⟨hLive, hSocks, hKey⟩
    have hWired := hInv.wired k hLive
    exact Served.serves (fun a => socks_write hInv.sound
      hWired.owns hSocks (hWired.socks hSocks) hInv.auth hKey
      hWrite a) hInv.sound hSocks rfl (hSmooth k hLive.1)
  · intro fd item k hItem hOwner hRead
    rcases hInv.armed_mng hItem hOwner (by
      intro hBad
      rw [hBad] at hRead
      cases hRead) with ⟨hLive, hMng, hFd, hHas⟩
    have hWired := hInv.wired k hLive
    rcases hWired.mng hMng with ⟨hOrigin, hShape⟩
    exact MngServed.serves (s := w.view k) (fun a =>
      mng_read hWired.owns hMng hShape hFd hHas hRead a)
      hInv.sound hMng hOrigin
  · intro fd item k hItem hOwner hWrite
    rcases hInv.armed_mng hItem hOwner (by
      intro hBad
      rw [hBad] at hWrite
      cases hWrite) with ⟨hLive, hMng, hFd, hHas⟩
    have hWired := hInv.wired k hLive
    rcases hWired.mng hMng with ⟨hOrigin, hShape⟩
    exact MngServed.serves (s := w.view k) (fun a =>
      mng_write hWired.owns hMng hShape hFd hHas hWrite a)
      hInv.sound hMng hOrigin
  · intro job rest hJobs
    have hWaits := hInv.jobs job (by
      rw [hJobs]
      exact List.mem_cons_self)
    have hWired := hInv.wired _ hWaits.live
    rcases (hWired.socks hWaits.service).of_resolving
      hWaits.state with ⟨hOrigin, hClient, p, hParser⟩
    refine ⟨_, hInv.job_item hWaits, ?_⟩
    refine Served.serves (fun a => (socks_block
      (s := w.notified job rest)
      (hWired.owns.of_eq rfl rfl rfl)
      (.resolving hWaits.state hOrigin hClient p hParser)
      hWaits.state hWaits.client.symm a).2) hInv.sound
      hWaits.service rfl
      (notified_smooth (hSmooth _ hWaits.accepted))

end Runs

theorem copyWorld_orderly : copyWorld.Orderly :=
  smooth_orderly copyWorld_reachable (by
    intro k hLt
    have hOne : copyWorld.next = 1 := by decide +kernel
    rw [hOne] at hLt
    rw [Nat.lt_one_iff.mp hLt]
    decide +kernel)

/- The server answers of a `connect` that succeeds at once. -/
def atOnceRun : List Label := [
  .read 3 { accept := some 5 },
  .read 5 { recv := some [5, 1, 0] },
  .write 5 { send := some 100 },
  .read 5 {
    recv := some [5, 1, 0, 1, 127, 0, 0, 1, 0, 80]
    socket := some 6
    connect := .connected },
  .read 6 { recv := some [] }]

/- The origin waits for reading, and reading it aborts. -/
theorem atOnceRun_aborts :
    ¬ ∀ w, server.Reachable w → w.Orderly := by
  intro hAll
  have hReach := reachable_runTo atOnceRun
    (.init (smallServer_initial ⟨fun _ => {}, 0⟩
      ⟨fun _ => {}, 0⟩ (by decide) (Or.inl rfl)))
  exact (hAll _ hReach).fault (by decide +kernel)

end Socks5d
