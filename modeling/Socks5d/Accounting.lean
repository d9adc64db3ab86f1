import Mathlib.Data.Set.Card
import Socks5d.ServerWiring

/-
  Which descriptors the process has open: those of main and
  the one or two of each connection that is not closed.

  Main declarations:
    * `World.live`, `World.linked`, `World.connFds`
    * `World.Accounted`, `descriptors_accounted`
    * `World.Listens`, `listening_forever`
-/

------------------------------------------------------------
-- Open Descriptors
------------------------------------------------------------

namespace Socks5d

namespace World

variable (w : World)

/- Accepted connections that are not closed -/
def live : Set ConnId :=
  fun k => w.Live k

/- Those of them that have a socket to their origin -/
def linked : Set ConnId :=
  fun k => w.Live k ∧ (w.conn k).originFd ≠ -1

/- The descriptors that are open for some connection -/
def connFds : Set Fd :=
  fun fd => ∃ holder k, w.srv.sel.opened fd = some holder ∧
    holder.conn? = some k

/-
  Nothing is open but the descriptors of the process and
  those that a live connection names, and these are open.
-/
structure Accounted : Prop where
  held : ∀ fd holder, w.srv.sel.opened fd = some holder →
    holder = .process ∨
    ∃ k, w.Live k ∧
      ((holder = .client k ∧ fd = (w.conn k).clientFd) ∨
        ∃ domain, holder = .origin k domain ∧
          fd = (w.conn k).originFd ∧
          (w.conn k).isSocks = true)
  client : ∀ k, w.Live k →
    w.srv.sel.opened (w.conn k).clientFd = some (.client k)
  origin : ∀ k, w.Live k → (w.conn k).originFd ≠ -1 →
    ∃ domain, w.srv.sel.opened (w.conn k).originFd =
      some (.origin k domain)
  counted : w.connFds.ncard = w.live.ncard + w.linked.ncard

end World

section Accounts

variable {w : World}
variable {k : ConnId}
variable {fd : Fd}
variable {holder : Holder}

/- The holder of a descriptor says which one it is. -/
theorem Inv.held
    (h : Inv w)
    (hOpen : w.srv.sel.opened fd = some holder)
    (hConn : holder.conn? = some k) :
    (holder = .client k ∧ fd = (w.conn k).clientFd) ∨
      ∃ domain, holder = .origin k domain ∧
        fd = (w.conn k).originFd ∧
        (w.conn k).isSocks = true := by
  have hLive := h.holders fd holder k hOpen hConn
  have hWired := h.wired k hLive
  rcases hWired.owns.only fd holder hOpen hConn with
    hFd | hFd
  · refine Or.inl ⟨?_, hFd⟩
    rw [hFd, hWired.owns.client] at hOpen
    exact (Option.some.inj hOpen).symm
  · have hNe : (w.conn k).originFd ≠ -1 := by
      intro hNone
      have hNonneg := h.sound.nonneg _ _ hOpen
      rw [hFd, hNone] at hNonneg
      exact absurd hNonneg (by decide)
    rcases hWired.owns.origin with hNone | ⟨domain, hHeld⟩
    · exact absurd hNone hNe
    · refine Or.inr ⟨domain, ?_, hFd, ?_⟩
      · rw [hFd, hHeld] at hOpen
        exact (Option.some.inj hOpen).symm
      · cases hService : (w.conn k).isSocks with
        | true => rfl
        | false => exact absurd (hWired.mng hService).1 hNe

theorem Inv.origin
    (h : Inv w)
    (hLive : w.Live k)
    (hNe : (w.conn k).originFd ≠ -1) :
    ∃ domain, w.srv.sel.opened (w.conn k).originFd =
      some (.origin k domain) :=
  (h.wired k hLive).owns.origin.resolve_left hNe

/- Each connection has its own client descriptor. -/
theorem Inv.clients_injOn
    (h : Inv w) :
    Set.InjOn (fun k => (w.conn k).clientFd) w.live := by
  intro j hJ k hK hEq
  have hFirst := (h.wired j hJ).owns.client
  have hSecond := (h.wired k hK).owns.client
  have hSame : (w.conn j).clientFd = (w.conn k).clientFd := hEq
  rw [hSame, hSecond] at hFirst
  cases hFirst
  rfl

theorem Inv.origins_injOn
    (h : Inv w) :
    Set.InjOn (fun k => (w.conn k).originFd) w.linked := by
  intro j hJ k hK hEq
  rcases h.origin hJ.1 hJ.2 with ⟨_, hFirst⟩
  rcases h.origin hK.1 hK.2 with ⟨_, hSecond⟩
  have hSame : (w.conn j).originFd = (w.conn k).originFd := hEq
  rw [hSame, hSecond] at hFirst
  cases hFirst
  rfl

theorem Inv.connFds_eq
    (h : Inv w) :
    w.connFds =
      (fun k => (w.conn k).clientFd) '' w.live ∪
        (fun k => (w.conn k).originFd) '' w.linked := by
  ext fd
  constructor
  · rintro ⟨holder, k, hOpen, hConn⟩
    have hLive := h.holders fd holder k hOpen hConn
    rcases h.held hOpen hConn with
      ⟨_, hFd⟩ | ⟨_, _, hFd, _⟩
    · exact Or.inl ⟨k, hLive, hFd.symm⟩
    · refine Or.inr ⟨k, ⟨hLive, ?_⟩, hFd.symm⟩
      intro hNone
      have hNonneg := h.sound.nonneg _ _ hOpen
      rw [hFd, hNone] at hNonneg
      exact absurd hNonneg (by decide)
  · rintro (⟨k, hLive, rfl⟩ | ⟨k, ⟨hLive, hNe⟩, rfl⟩)
    · exact ⟨_, k, (h.wired k hLive).owns.client, rfl⟩
    · rcases h.origin hLive hNe with ⟨domain, hOpen⟩
      exact ⟨_, k, hOpen, rfl⟩

/- A descriptor is not both a client and an origin. -/
theorem Inv.client_ne_origin
    {j : ConnId}
    (h : Inv w)
    (hJ : w.Live j)
    (hK : w.Live k)
    (hNe : (w.conn k).originFd ≠ -1) :
    (w.conn j).clientFd ≠ (w.conn k).originFd := by
  intro hSame
  rcases h.origin hK hNe with ⟨domain, hOpen⟩
  have hClient := (h.wired j hJ).owns.client
  rw [hSame, hOpen] at hClient
  cases hClient

theorem World.finite_live
    (w : World) : w.live.Finite :=
  (Set.finite_lt_nat w.next).subset fun _ hLive => hLive.1

/-
  In every reachable world no descriptor is left open, and
  none is shared between two connections.
-/
theorem descriptors_accounted
    (h : server.Reachable w) : w.Accounted := by
  have hInv := reachable_inv h
  have hLive := w.finite_live
  have hLinked : w.linked.Finite :=
    hLive.subset fun _ hBoth => hBoth.1
  refine ⟨?_, fun k hK => (hInv.wired k hK).owns.client,
    fun k hK hNe => hInv.origin hK hNe, ?_⟩
  · intro fd holder hOpen
    cases hConn : holder.conn? with
    | none =>
        left
        cases holder with
        | process => rfl
        | client => nomatch hConn
        | origin => nomatch hConn
    | some k =>
        right
        exact ⟨k, hInv.holders fd holder k hOpen hConn,
          hInv.held hOpen hConn⟩
  · rw [hInv.connFds_eq, Set.ncard_union_eq ?_
      (hLive.image _) (hLinked.image _),
      hInv.clients_injOn.ncard_image,
      hInv.origins_injOn.ncard_image]
    apply Set.disjoint_left.mpr
    rintro _ ⟨j, hJ, rfl⟩ ⟨k, hK, hSame⟩
    exact hInv.client_ne_origin hJ hK.1 hK.2 hSame.symm

/- The client and the origin of a relay are open. -/
theorem copyWorld_accounted :
    copyWorld.Accounted :=
  descriptors_accounted copyWorld_reachable

end Accounts

end Socks5d

------------------------------------------------------------
-- Passive Sockets
------------------------------------------------------------

namespace Socks5d

/- The descriptor has its slot and stays with the process. -/
structure World.Listens
    (w : World)
    (fd : Fd)
    (item : Item) : Prop where
  slot : w.srv.sel.fds fd = some item
  opened : w.srv.sel.opened fd = some .process

section Listening

variable {w v : World}
variable {fd : Fd}
variable {item : Item}

/- What is the process's is left alone by a connection. -/
theorem World.Listens.moves
    {k : ConnId}
    (h : w.Listens fd item)
    (hMoves : w.srv.sel.Moves k v.srv.sel) :
    v.Listens fd item := by
  rcases hMoves.frame fd .process h.opened
    (fun hBad => nomatch hBad) with ⟨hOpened, hSlot⟩
  exact ⟨hSlot.trans h.slot, hOpened⟩

theorem Micro.listens
    (hStep : Micro w v)
    (hInv : Inv w)
    (h : w.Listens fd item) : v.Listens fd item := by
  cases hStep with
  | accepted isSocks client hNonneg hFree hUnused =>
      exact h.moves (accept_moves isSocks hNonneg hFree
        hUnused)
  | socks k key a interest t hLive hSocks hKey hArmed hEvent
      hAfter =>
      exact h.moves (v := w.put k t) (hAfter.tables hLive.2
        (hInv.wired k hLive)).1
  | mng k key a t hLive hMng hEvent hAfter =>
      exact h.moves (v := w.put k t) (hAfter.tables hLive.2
        (hInv.wired k hLive)).1
  | block job rest a t hJobs hWaits hEvent hAfter =>
      have hMoves : w.srv.sel.Moves job.starter t.srv.sel := by
        cases hAfter with
        | going hKept => exact hKept.moves
        | ends hReleased => exact hReleased.moves
        | stuck hEq =>
            rw [hEq]
            exact .refl _ _
      exact h.moves (v := w.put job.starter t) hMoves
  | threadStart => exact ⟨h.slot, h.opened⟩
  | threadDone => exact ⟨h.slot, h.opened⟩

end Listening

/-
  From any reachable world on, whatever happens: a passive
  socket is never closed, released or disarmed, so a client
  that connects can always be accepted.
-/
theorem listening_forever
    {w : World}
    {fd : Fd}
    {item : Item}
    (hReach : server.Reachable w)
    (hListens : w.Listens fd item)
    (labels : List Label)
    (a : Answers)
    (hRuns : (runTo labels w).srv.fault = none) :
    (runTo labels w).Listens fd item ∧
      Enabled (runTo labels w) (.read fd a) = true := by
  have hMicros : ∀ x y, Relation.ReflTransGen Micro x y →
      Inv x → x.Listens fd item →
        Inv y ∧ y.Listens fd item := by
    intro x y hSteps hInv hBefore
    induction hSteps with
    | refl => exact ⟨hInv, hBefore⟩
    | tail _ hLast ih =>
        exact ⟨hLast.inv ih.1, hLast.listens ih.1 ih.2⟩
  have hRun : ∀ labels x, Inv x → x.Listens fd item →
      Inv (runTo labels x) ∧
        (runTo labels x).Listens fd item := by
    intro labels
    induction labels with
    | nil => exact fun x hInv hBefore => ⟨hInv, hBefore⟩
    | cons l rest ih =>
        intro x hInv hBefore
        unfold runTo
        by_cases hEnabled : Enabled x l = true
        · rw [if_pos hEnabled]
          rcases hMicros _ _ (hInv.micros hEnabled) hInv
            hBefore with ⟨hNext, hAfter⟩
          exact ih _ hNext hAfter
        · rw [if_neg hEnabled]
          exact ih x hInv hBefore
  rcases hRun labels w (reachable_inv hReach) hListens with
    ⟨hInv, hEnd⟩
  refine ⟨hEnd, ?_⟩
  have hRead := (hInv.listeners fd item hEnd.opened
    hEnd.slot).2
  simp [Enabled, hRuns, hEnd.slot, hRead]

/- The passive socket of the proxy after a relay. -/
theorem copyRun_listens :
    (runTo copyRun (smallServer 0 ⟨fun _ => {}, 0⟩
        ⟨fun _ => {}, 0⟩)).Listens 3
          ⟨opRead, .socksListener⟩ ∧
      Enabled (runTo copyRun (smallServer 0 ⟨fun _ => {}, 0⟩
        ⟨fun _ => {}, 0⟩)) (.read 3 {}) = true :=
  listening_forever
    (.init (smallServer_initial _ _ (by decide) (Or.inl rfl)))
    ⟨rfl, rfl⟩ copyRun {} (by decide +kernel)

end Socks5d
