import Mathlib.Data.Set.Card
import Socks5d.Fallback
import Socks5d.Slots

/-
  The slots of a connection against its counter `references`,
  from the moment it is accepted until `socksv5_done` or
  `mng_done` has handed it back.

  Main declarations:
    * `World.slots`, `World.Lifecycle`, `Conn.OneUnderway`
    * `Referenced`, `HandedBack`
    * `Course`, `SocksTurn.course`
    * `Arms.owned`, `MngEvent.referenced`
    * `Tended`, `Lifecycles`, `lifecycle_holds`
    * `World.Accounts`, `slots_accounted`
-/

------------------------------------------------------------
-- Slots And References
------------------------------------------------------------

namespace Socks5d

/- The descriptors whose slot has the connection as data. -/
def World.slots
    (w : World)
    (k : ConnId) : Set Fd :=
  fun fd => w.srv.sel.owner? fd = some k

/-
  While a connection is not closed its slots are those of its
  own open descriptors, and are counted by `references`; it
  is closed by `socksv5_done`, which leaves no slot of it and
  hands it back once.
-/
structure World.Lifecycle
    (w : World)
    (k : ConnId) : Prop where
  slots : ¬ (w.conn k).Closed → ∀ fd ∈ w.slots k,
    (fd = (w.conn k).clientFd ∨ fd = (w.conn k).originFd) ∧
      w.srv.sel.opened fd ≠ none
  references : ¬ (w.conn k).Closed →
    w.srv.references k = (w.slots k).ncard
  held : ¬ (w.conn k).Closed → w.srv.handedBack k = 0
  done : (w.conn k).Closed →
    w.slots k = ∅ ∧ w.srv.handedBack k = 1

/-
  At most one attempt gets under way, and one that succeeds
  at once finds its slot free.
-/
structure Conn.OneUnderway (c : Conn) : Prop where
  once : c.tries.countP Attempt.started ≤ 1
  free : ∀ attempt ∈ c.tries, attempt.answer = .connected →
    attempt.registrable = true

end Socks5d

------------------------------------------------------------
-- Counted Slots
------------------------------------------------------------

namespace Socks5d

/-
  The slots of a connection that is not closed are those of
  its client and, once an attempt is under way, of its
  origin; each is a reference.
-/
structure Referenced
    (k : ConnId)
    (s : St) : Prop where
  own : ∀ fd, s.srv.sel.owner? fd = some k →
    fd = s.conn.clientFd ∨ fd = s.conn.originFd
  client : s.srv.sel.owner? s.conn.clientFd = some k
  linked : s.srv.sel.owner? s.conn.originFd = some k →
    s.srv.references k = 2 ∧
      1 ≤ s.conn.tries.countP Attempt.started
  alone : s.srv.sel.owner? s.conn.originFd ≠ some k →
    s.srv.references k = 1
  handedBack : s.srv.handedBack k = 0

/- It has no slot left and was handed back once. -/
structure HandedBack
    (k : ConnId)
    (srv : Server) : Prop where
  slots : ∀ fd, srv.sel.owner? fd ≠ some k
  once : srv.handedBack k = 1

section Counting

variable {k : ConnId}
variable {key : Key}
variable {a : Answers}
variable {s t u : St}
variable {fd other : Fd}
variable {attempt : Attempt}

theorem Selector.Sound.valid_of_owner
    {sel : Selector}
    (h : sel.Sound)
    (hOwner : sel.owner? fd = some k) :
    validFd fd = true := by
  unfold Selector.owner? at hOwner
  cases hItem : sel.fds fd with
  | none =>
      rw [hItem] at hOwner
      nomatch hOwner
  | some item => exact h.valid fd item hItem

theorem Selector.Sound.ne_of_owner
    {sel : Selector}
    (h : sel.Sound)
    (hOwner : sel.owner? fd = some k) : fd ≠ -1 := by
  intro hEq
  have hValid := h.valid_of_owner hOwner
  rw [hEq] at hValid
  exact absurd hValid (by decide)

/- A history only has more attempts under way later. -/
theorem Conn.Grows.started_le
    {c d : Conn}
    {P : Ev → Prop}
    (h : c.Grows P d) :
    c.tries.countP Attempt.started ≤
      d.tries.countP Attempt.started :=
  h.tries.sublist.countP_le

theorem Conn.OneUnderway.before
    {c d : Conn}
    {P : Ev → Prop}
    (h : d.OneUnderway)
    (hGrows : c.Grows P d) : c.OneUnderway where
  once := Nat.le_trans hGrows.started_le h.once
  free := fun attempt hTry =>
    h.free attempt (hGrows.tries.subset hTry)

namespace Referenced

theorem of_links
    {P : Ev → Prop}
    (h : Referenced k s)
    (hSame : SameLinks s t)
    (hGrows : s.conn.Grows P t.conn) : Referenced k t where
  own := by
    intro fd hOwned
    rw [hSame.owner] at hOwned
    rw [hSame.client, hSame.origin]
    exact h.own fd hOwned
  client := by
    rw [hSame.client, hSame.owner]
    exact h.client
  linked := by
    intro hLinked
    rw [hSame.origin, hSame.owner] at hLinked
    rw [hSame.references]
    rcases h.linked hLinked with ⟨hTwo, hStarted⟩
    exact ⟨hTwo, Nat.le_trans hStarted hGrows.started_le⟩
  alone := by
    intro hAlone
    rw [hSame.origin, hSame.owner] at hAlone
    rw [hSame.references]
    exact h.alone hAlone
  handedBack := by
    rw [hSame.handedBack]
    exact h.handedBack

/- One attempt, if it is the only one to get under way. -/
theorem connection
    (h : Referenced k s)
    (hSound : s.srv.sel.Sound)
    (hLinking : Linking k attempt s t)
    (hTries : t.conn.tries = s.conn.tries ++ [attempt])
    (hOne : t.conn.OneUnderway) : Referenced k t := by
  have hOnce := hOne.once
  rw [hTries, List.countP_append] at hOnce
  cases hLinking with
  | same hSame =>
      refine ⟨?_, ?_, ?_, ?_, ?_⟩
      · intro fd hOwned
        rw [hSame.owner] at hOwned
        rw [hSame.client, hSame.origin]
        exact h.own fd hOwned
      · rw [hSame.client, hSame.owner]
        exact h.client
      · intro hLinked
        rw [hSame.origin, hSame.owner] at hLinked
        rcases h.linked hLinked with ⟨hTwo, hStarted⟩
        rw [hSame.references, hTries, List.countP_append]
        exact ⟨hTwo, Nat.le_add_right_of_le hStarted⟩
      · intro hAlone
        rw [hSame.origin, hSame.owner] at hAlone
        rw [hSame.references]
        exact h.alone hAlone
      · rw [hSame.handedBack]
        exact h.handedBack
  | linked hStarted hFree hSelf hOwner hReferences hBack
      hClient hOrigin =>
      have hOpen : s.conn.clientFd ≠ s.conn.originFd := by
        intro hEq
        rw [← hEq, h.client] at hFree
        nomatch hFree
      have hBefore := h.alone (by
        rw [hFree]
        exact fun hBad => nomatch hBad)
      refine ⟨?_, ?_, ?_, ?_, ?_⟩
      · intro fd hOwned
        rw [hClient, hOrigin]
        by_cases hEq : fd = s.conn.originFd
        · exact Or.inr hEq
        · rw [hOwner fd hEq] at hOwned
          exact h.own fd hOwned
      · rw [hClient, hOwner _ hOpen]
        exact h.client
      · intro _
        rw [hReferences, Function.update_self, hBefore,
          hTries, List.countP_append, List.countP_singleton,
          if_pos hStarted]
        exact ⟨rfl, Nat.le_add_left _ _⟩
      · intro hAlone
        rw [hOrigin, hSelf] at hAlone
        exact absurd rfl hAlone
      · rw [hBack]
        exact h.handedBack
  | blocked hStarted hOwner hReferences hBack hClient
      hOrigin =>
      -- no attempt before had got under way
      have hAlone : s.srv.sel.owner? s.conn.originFd ≠
          some k := by
        intro hLinked
        have hBefore := (h.linked hLinked).2
        rw [List.countP_singleton, if_pos hStarted] at hOnce
        omega
      have hClosed : t.srv.sel.owner? (-1) ≠ some k := by
        intro hBad
        rw [hOwner] at hBad
        exact hSound.ne_of_owner hBad rfl
      refine ⟨?_, ?_, ?_, ?_, ?_⟩
      · intro fd hOwned
        rw [hOwner] at hOwned
        rw [hClient]
        rcases h.own fd hOwned with hFd | hFd
        · exact Or.inl hFd
        · rw [hFd] at hOwned
          exact absurd hOwned hAlone
      · rw [hClient, hOwner]
        exact h.client
      · intro hLinked
        rw [hOrigin] at hLinked
        exact absurd hLinked hClosed
      · intro _
        rw [hReferences]
        exact h.alone hAlone
      · rw [hBack]
        exact h.handedBack
  | leaked hAnswer hTaken =>
      have hFree := hOne.free attempt (by
        rw [hTries]
        exact List.mem_append_right _
          (List.mem_singleton.mpr rfl)) hAnswer
      nomatch hFree.symm.trans hTaken

end Referenced

/- Unregistering a descriptor leaves the other slots. -/
theorem unregisterFd_kept
    {srv : Server}
    (hNe : other ≠ fd) :
    (unregisterFd srv fd).1.sel.owner? other =
      srv.sel.owner? other := by
  rcases unregisterFd_cases srv fd with
    ⟨hSame, _⟩ | ⟨_, _, _, _, hClear⟩
  · rw [hSame]
  · rw [hClear, Selector.owner?_clear_of_ne _ hNe]

theorem Referenced.dropOrigin
    (h : Referenced k s)
    (hSound : s.srv.sel.Sound)
    (hNe : s.conn.clientFd ≠ s.conn.originFd) :
    Referenced k (dropOrigin s) := by
  have hSel : ∀ fd, (Socks5d.dropOrigin s).srv.sel.owner? fd =
      (unregisterFd s.srv s.conn.originFd).1.sel.owner? fd :=
    fun fd => rfl
  have hClosed : ∀ fd, fd ≠ s.conn.originFd →
      (Socks5d.dropOrigin s).srv.sel.owner? fd =
        s.srv.sel.owner? fd :=
    fun fd hFd => (hSel fd).trans (unregisterFd_kept hFd)
  -- its slot, if there is one, is released
  have hNone : (Socks5d.dropOrigin s).srv.sel.owner?
        s.conn.originFd ≠ some k ∧
      (Socks5d.dropOrigin s).srv.references k = 1 ∧
      (Socks5d.dropOrigin s).srv.handedBack k = 0 := by
    by_cases hLinked : s.srv.sel.owner? s.conn.originFd =
        some k
    · have hTwo := (h.linked hLinked).1
      have hEq := unregisterFd_owned
        (hSound.valid_of_owner hLinked) hLinked
      have hDestroy : destroy s.srv k = { s.srv with
          references := Function.update s.srv.references k
            1 } := by
        unfold destroy
        rw [if_neg (by rw [hTwo]; decide), hTwo]
      unfold Socks5d.dropOrigin
      simp only [hEq, hDestroy]
      refine ⟨?_, Function.update_self _ _ _, h.handedBack⟩
      show (s.srv.sel.clear s.conn.originFd).owner? _ ≠ _
      rw [Selector.owner?_clear_self]
      exact fun hBad => nomatch hBad
    · have hApart := unregisterFd_apart hLinked
      refine ⟨?_, hApart.references.trans (h.alone hLinked),
        hApart.handedBack.trans h.handedBack⟩
      intro hBad
      exact hLinked (hApart.slots _ hBad)
  rcases hNone with ⟨hFree, hOne, hBack⟩
  refine ⟨?_, ?_, ?_, ?_, hBack⟩
  · intro fd hOwned
    have hFd : fd ≠ s.conn.originFd := by
      intro hEq
      exact hFree (hEq ▸ hOwned)
    rw [hClosed fd hFd] at hOwned
    exact Or.inl ((h.own fd hOwned).resolve_right hFd)
  · exact (hClosed _ hNe).trans h.client
  · intro hLinked
    have hLinked' : (Socks5d.dropOrigin s).srv.sel.owner?
        (-1) = some k := hLinked
    by_cases hEq : s.conn.originFd = -1
    · rw [hEq] at hFree
      exact absurd hLinked' hFree
    · rw [hClosed _ (Ne.symm hEq)] at hLinked'
      exact absurd rfl (hSound.ne_of_owner hLinked')
  · exact fun _ => hOne

/- `socksv5_done` releases the slots and hands it back. -/
theorem doneFd_owned
    (hValid : validFd fd = true)
    (hOwner : s.srv.sel.owner? fd = some k) :
    (doneFd fd s).srv = { destroy s.srv k with
      sel := (s.srv.sel.clear fd).close fd } := by
  have hNe : fd ≠ -1 := by
    intro hEq
    rw [hEq] at hValid
    exact absurd hValid (by decide)
  unfold doneFd
  rw [if_neg hNe, unregisterFd_owned hValid hOwner]
  rfl

theorem Referenced.done
    (h : Referenced k u)
    (hSound : u.srv.sel.Sound)
    (hNe : u.conn.clientFd ≠ u.conn.originFd) :
    HandedBack k (socksv5Done u).srv := by
  have hFirst := doneFd_owned
    (hSound.valid_of_owner h.client) h.client
  let v : St := doneFd u.conn.clientFd u
  have hSelf : v.srv.sel.owner? u.conn.clientFd = none := by
    show (doneFd u.conn.clientFd u).srv.sel.owner? _ = none
    rw [hFirst]
    exact Selector.owner?_clear_self _ _
  have hKept : ∀ fd, fd ≠ u.conn.clientFd →
      v.srv.sel.owner? fd = u.srv.sel.owner? fd := by
    intro fd hFd
    show (doneFd u.conn.clientFd u).srv.sel.owner? _ = _
    rw [hFirst]
    exact Selector.owner?_clear_of_ne _ hFd
  have hOrigin : v.srv.sel.owner? u.conn.originFd =
      u.srv.sel.owner? u.conn.originFd :=
    hKept _ (Ne.symm hNe)
  -- only the slot of the origin can be left
  have hLeft : ∀ fd, fd ≠ u.conn.originFd →
      v.srv.sel.owner? fd ≠ some k := by
    intro fd hFd hOwned
    by_cases hEq : fd = u.conn.clientFd
    · rw [hEq, hSelf] at hOwned
      nomatch hOwned
    · rw [hKept fd hEq] at hOwned
      rcases h.own fd hOwned with hBad | hBad
      · exact hEq hBad
      · exact hFd hBad
  have hDone : socksv5Done u = doneFd u.conn.originFd v := rfl
  rw [hDone]
  by_cases hLinked : u.srv.sel.owner? u.conn.originFd =
      some k
  · have hTwo := (h.linked hLinked).1
    have hOne : v.srv.references k = 1 ∧
        v.srv.handedBack k = 0 := by
      show (doneFd u.conn.clientFd u).srv.references k = 1 ∧
        (doneFd u.conn.clientFd u).srv.handedBack k = 0
      rw [hFirst]
      unfold destroy
      rw [if_neg (by rw [hTwo]; decide)]
      refine ⟨?_, h.handedBack⟩
      show Function.update _ _ _ _ = _
      rw [Function.update_self, hTwo]
    have hSecond := doneFd_owned
      (hSound.valid_of_owner hLinked)
      (hOrigin.trans hLinked)
    refine ⟨?_, ?_⟩
    · intro fd hOwned
      rw [hSecond] at hOwned
      by_cases hFd : fd = u.conn.originFd
      · rw [hFd] at hOwned
        exact Option.some_ne_none _ (hOwned.symm.trans
          (Selector.owner?_clear_self _ _))
      · exact hLeft fd hFd ((Selector.owner?_clear_of_ne _
          hFd).symm.trans hOwned)
    · rw [hSecond]
      unfold destroy
      rw [if_pos hOne.1]
      show Function.update _ _ _ _ = _
      rw [Function.update_self, hOne.2]
  · have hOnce : v.srv.handedBack k = 1 := by
      show (doneFd u.conn.clientFd u).srv.handedBack k = 1
      rw [hFirst]
      unfold destroy
      rw [if_pos (h.alone hLinked)]
      show Function.update _ _ _ _ = _
      rw [Function.update_self, h.handedBack]
    have hNot : v.srv.sel.owner? u.conn.originFd ≠ some k := by
      rw [hOrigin]
      exact hLinked
    have hApart := doneFd_apart hNot
    refine ⟨?_, hApart.handedBack.trans hOnce⟩
    intro fd hOwned
    have hBefore := hApart.slots fd hOwned
    by_cases hFd : fd = u.conn.originFd
    · exact hNot (hFd ▸ hBefore)
    · exact hLeft fd hFd hBefore

end Counting

end Socks5d

------------------------------------------------------------
-- Connecting
------------------------------------------------------------

namespace Socks5d

/- The slots of a connection are on descriptors it has. -/
def Selector.Holds
    (sel : Selector)
    (c : ConnId) : Prop :=
  ∀ fd, sel.owner? fd = some c →
    ∃ holder, sel.opened fd = some holder ∧
      holder.conn? = some c

/- What a call in `REQUEST_CONNECTING` does to the slots. -/
inductive ConnectTurn
    (k : ConnId)
    (s : St) : St → Prop where
  | same
      (t : St)
      (hSame : SameLinks s t) :
      ConnectTurn k s t
  | tried
      (attempt : Attempt)
      (u t : St)
      (hSame : SameLinks s u)
      (hSel : u.srv.sel = s.srv.sel)
      (hGrows : s.conn.Grows (fun _ => True) u.conn)
      (hLinking : Linking k attempt u t)
      (hTries : t.conn.tries = u.conn.tries ++ [attempt]) :
      ConnectTurn k s t
  | gaveUp
      (t : St)
      (hSame : SameLinks (dropOrigin s) t) :
      ConnectTurn k s t

section Connecting

variable {c k : ConnId}
variable {key : Key}
variable {a : Answers}
variable {s t u : St}
variable {fd : Fd}
variable {r : St × Nat}
variable {addresses : List Addrinfo}

theorem aimNext_links
    (next : Addrinfo)
    (rest : List Addrinfo)
    (s : St) : SameLinks s (aimNext next rest s) := by
  rcases aimNext_eq next rest s with ⟨addr, hEq⟩
  rw [hEq]
  exact .of_sel rfl rfl rfl rfl rfl

/- The next address is one more attempt. -/
theorem ConnectTurn.retry
    {next : Addrinfo}
    {rest : List Addrinfo}
    {result : St × SocksReplyStatus}
    (hSame : SameLinks s t)
    (hSel : t.srv.sel = s.srv.sel)
    (hGrows : s.conn.Grows (fun _ => True) t.conn)
    (hCall : Connection key a (aimNext next rest t)
      (.socks k) result)
    (hData : key.data = k)
    (hKey : s.srv.sel.owner? key.fd = some k)
    (hClient : s.srv.sel.owner? s.conn.clientFd = some k) :
    ConnectTurn k s result.1 := by
  have hAimed := hSame.trans (aimNext_links next rest t)
  have hTables : (aimNext next rest t).srv.sel = s.srv.sel := by
    rw [aimNext_srv, hSel]
  have hLog : (aimNext next rest t).conn.log =
      t.conn.log := by
    rcases aimNext_eq next rest t with ⟨addr, hEq⟩
    rw [hEq]
  refine .tried _ _ _ hAimed hTables
    (hGrows.trans (.of_eq hLog))
    (hCall.linking hData ?_ ?_) hCall.makes.tries
  · rw [hTables]
    exact hKey
  · rw [hAimed.client, hTables]
    exact hClient

theorem ConnectingWrite.connects
    (h : ConnectingWrite key a s (.socks k) r)
    (hData : key.data = k)
    (hKey : s.srv.sel.owner? key.fd = some k)
    (hClient : s.srv.sel.owner? s.conn.clientFd = some k)
    (hNe : s.conn.clientFd ≠ s.conn.originFd) :
    ConnectTurn k s r.1 := by
  have hFirst : s.srv.sel.owner? s.conn.clientFd =
      (Attachment.socks k).data? := hClient
  cases h with
  | nextAfterFailure next rest hStatus hNext result hResult =>
      exact .retry (.refl s) rfl (.of_eq rfl) hResult hData
        hKey hClient
  | gaveUp hStatus hNone =>
      refine .gaveUp _ ((SameLinks.refl _).answeredWith ?_ _)
      exact (unregisterFd_kept hNe).trans hFirst
  | noAnswer hStatus hError =>
      refine .same _ (SameLinks.answeredWith ?_ hFirst _)
      exact .of_sel rfl rfl rfl rfl rfl
  | established hStatus hError hRoom =>
      refine .same _ (((SameLinks.replied ?_ _).arm _
        hFirst).arm _ hKey)
      exact .of_sel rfl rfl rfl rfl rfl
  | full hStatus hError hRoom =>
      exact .same _ (.of_sel rfl rfl rfl rfl rfl)
  | nextAfterError errno next rest hStatus hError hNext
      result hResult =>
      refine .retry ?_ ?_ ?_ hResult hData hKey hClient
      · exact .of_sel rfl rfl rfl rfl rfl
      · rfl
      · exact .single rfl trivial
  | failed errno hStatus hError hNone =>
      refine .same _ (SameLinks.answeredWith ?_ hFirst _)
      exact .of_sel rfl rfl rfl rfl rfl

/- What others hold is not touched. -/
theorem ConnectTurn.apart
    (h : ConnectTurn k s t)
    (hNe : c ≠ k)
    (hNot : s.srv.sel.owner? s.conn.originFd ≠ some c) :
    Apart c s.srv t.srv := by
  cases h with
  | same _ hSame => exact hSame.apart
  | tried _ _ _ hSame _ _ hLinking =>
      exact hSame.apart.trans (hLinking.apart hNe)
  | gaveUp _ hSame =>
      have hDropped := unregisterFd_apart hNot
      refine Apart.trans (y := (dropOrigin s).srv) ?_
        hSame.apart
      exact ⟨hDropped.slots, hDropped.references,
        hDropped.handedBack⟩

theorem ConnectTurn.referenced
    (h : ConnectTurn k s t)
    (hRef : Referenced k s)
    (hSound : s.srv.sel.Sound)
    (hNe : s.conn.clientFd ≠ s.conn.originFd)
    (hGrows : s.conn.Grows (fun _ => True) t.conn)
    (hOne : t.conn.OneUnderway) : Referenced k t := by
  cases h with
  | same _ hSame => exact hRef.of_links hSame hGrows
  | tried _ u _ hSame hSel hMore hLinking hTries =>
      refine (hRef.of_links hSame hMore).connection ?_
        hLinking hTries hOne
      rw [hSel]
      exact hSound
  | gaveUp _ hSame =>
      exact (hRef.dropOrigin hSound hNe).of_links hSame hGrows

/- The socket is new, so no slot of it is. -/
theorem Referenced.withSocket
    (h : Referenced k s)
    (hSound : s.srv.sel.Sound)
    (hOwns : Owns k s.srv.sel s.conn)
    (hOrigin : s.conn.originFd = -1)
    (hNew : s.srv.sel.opened fd = none)
    (key : Key)
    (a : Answers) :
    Referenced k (Socks5d.withSocket key a fd
      (connectingStarted (some fd) s)) := by
  have hClient : ∀ other, s.srv.sel.owner? other = some k →
      other = s.conn.clientFd := by
    intro other hOwned
    rcases h.own other hOwned with hFd | hFd
    · exact hFd
    · exact absurd (hFd.trans hOrigin)
        (hSound.ne_of_owner hOwned)
  have hFree : s.srv.sel.owner? fd ≠ some k := by
    intro hOwned
    have hOpen := hOwns.client
    rw [← hClient fd hOwned, hNew] at hOpen
    nomatch hOpen
  refine ⟨?_, h.client, ?_, ?_, h.handedBack⟩
  · exact fun other hOwned => Or.inl (hClient other hOwned)
  · exact fun hLinked => absurd hLinked hFree
  · intro _
    refine h.alone ?_
    rw [hOrigin]
    exact fun hBad => hSound.ne_of_owner hBad rfl

theorem ConnectingInit.referenced
    (h : ConnectingInit key a s (.socks k) u)
    (hRef : Referenced k s)
    (hData : key.data = k)
    (hKey : s.srv.sel.owner? key.fd = some k)
    (hSound : s.srv.sel.Sound)
    (hOwns : Owns k s.srv.sel s.conn)
    (hOrigin : s.conn.originFd = -1)
    (hOne : u.conn.OneUnderway) : Referenced k u := by
  have hFirst : s.srv.sel.owner? s.conn.clientFd =
      (Attachment.socks k).data? := hRef.client
  have hGrows := h.aside.grows
  cases h with
  | noSocket hNone =>
      refine hRef.of_links (.refusedWith ?_ hFirst _) hGrows
      exact .of_sel rfl rfl rfl rfl hOrigin.symm
  | notSet fd hSome hNio =>
      have hOpened := hRef.withSocket hSound hOwns hOrigin
        (Selector.grant_eq_some hSome).2 key a
      let v : St := Socks5d.withSocket key a fd
        (connectingStarted (some fd) s)
      have hAside := refusedWith_aside (Conn.Aside.refl
        v.conn) (.socks k) .generalSocksServerFailure
      have hRefused := (SameLinks.refl v).refusedWith hFirst
        .generalSocksServerFailure
      exact hOpened.of_links hRefused hAside.grows
  | connected fd hSome hNio result hResult =>
      rcases Selector.grant_eq_some hSome with ⟨hNonneg, hNew⟩
      have hOpened := hRef.withSocket hSound hOwns hOrigin
        hNew key a
      have hSound' : (Socks5d.withSocket key a fd
          (connectingStarted (some fd) s)).srv.sel.Sound :=
        (Selector.Moves.openFd (k := key.data) hNonneg hNew
          rfl).sound hSound
      have hDone := hOpened.connection hSound'
        (hResult.linking hData hKey hRef.client)
        hResult.makes.tries ⟨hOne.once, hOne.free⟩
      exact ⟨hDone.own, hDone.client, hDone.linked,
        hDone.alone, hDone.handedBack⟩

theorem ConnectingInit.apart
    (h : ConnectingInit key a s (.socks k) u)
    (hData : key.data = k)
    (hKey : s.srv.sel.owner? key.fd = some k)
    (hClient : s.srv.sel.owner? s.conn.clientFd = some k)
    (hOrigin : s.conn.originFd = -1)
    (hNe : c ≠ k) : Apart c s.srv u.srv := by
  have hFirst : s.srv.sel.owner? s.conn.clientFd =
      (Attachment.socks k).data? := hClient
  have hOpened : ∀ fd, Apart c s.srv (withSocket key a fd
      (connectingStarted (some fd) s)).srv :=
    fun fd => ⟨fun _ hOwned => hOwned, rfl, rfl⟩
  cases h with
  | noSocket hNone =>
      refine SameLinks.apart (s := s) (.refusedWith ?_
        hFirst _)
      exact .of_sel rfl rfl rfl rfl hOrigin.symm
  | notSet fd hSome hNio =>
      let v : St := withSocket key a fd
        (connectingStarted (some fd) s)
      have hRefused := (SameLinks.refl v).refusedWith hFirst
        .generalSocksServerFailure
      exact (hOpened fd).trans hRefused.apart
  | connected fd hSome hNio result hResult =>
      have hLinking := hResult.linking hData hKey hClient
      exact (hOpened fd).trans (hLinking.apart hNe)

end Connecting

end Socks5d

------------------------------------------------------------
-- Events
------------------------------------------------------------

namespace Socks5d

/-
  What an event does to the slots before `socksv5_done`: a
  call, or the socket that `connecting_init` opens after it.
-/
inductive Course
    (k : ConnId)
    (s u : St) : Prop where
  | called
      (t : St)
      (hCall : ConnectTurn k s t)
      (hSame : SameLinks t u)
      (hFirst : s.conn.Grows (fun _ => True) t.conn)
      (hThen : t.conn.Grows (fun _ => True) u.conn)
  | opened
      (t : St)
      (key : Key)
      (a : Answers)
      (hSame : SameLinks s t)
      (hFirst : s.conn.Grows (fun _ => True) t.conn)
      (hInit : ConnectingInit key a t (.socks k) u)
      (hData : key.data = k)
      (hKey : t.srv.sel.owner? key.fd = some k)
      (hClient : t.srv.sel.owner? t.conn.clientFd = some k)
      (hSound : t.srv.sel.Sound)
      (hOwns : Owns k t.srv.sel t.conn)
      (hOrigin : t.conn.originFd = -1)

section Eventing

variable {c k : ConnId}
variable {key : Key}
variable {a : Answers}
variable {s t u : St}
variable {r : St × Nat}
variable {next : Nat}

theorem SocksTurn.slots
    (h : SocksTurn k key a s r)
    (hSound : s.srv.sel.Sound)
    (hOwns : Owns k s.srv.sel s.conn)
    (hData : key.data = k)
    (hKey : s.srv.sel.owner? key.fd = some k) :
    ConnectTurn k s r.1 := by
  by_cases hState : s.conn.current = some REQUEST_CONNECTING
  · cases h with
    | connectingWrite _ _ _ _ hClient _ _ hCall =>
        exact hCall.connects hData hKey hClient.owner
          (hOwns.ne hSound)
    | helloRead hOther
    | helloWrite hOther
    | authRead hOther
    | authWrite hOther
    | requestRead hOther
    | requestResolvDone hOther
    | requestWrite hOther
    | relay hOther =>
        exact absurd (hOther.symm.trans hState) (by decide)
  · exact .same _ (h.links hSound hOwns hKey hState)

/- Nothing but the answer comes after `connecting_write`. -/
theorem SocksJump.links_after
    (h : SocksJump k key a s next u)
    (hState : s.conn.current = some REQUEST_CONNECTING) :
    SameLinks s u := by
  cases h with
  | stay => exact .refl s
  | plain => exact .of_sel rfl rfl rfl rfl rfl
  | userpassRead hOther =>
      exact absurd (hOther.symm.trans hState) (by decide)
  | requestRead hOther =>
      rcases hOther with hOther | hOther <;>
        exact absurd (hOther.symm.trans hState) (by decide)
  | connecting hOther =>
      rcases hOther with hOther | hOther <;>
        exact absurd (hOther.symm.trans hState) (by decide)
  | copy hOther =>
      exact absurd (hOther.symm.trans hState) (by decide)

theorem SocksJump.grows
    (h : SocksJump k key a s next u) :
    s.conn.Grows (fun _ => True) u.conn := by
  have hSelf : s.conn.Grows (fun _ => True) s.conn :=
    .of_eq rfl
  rcases h.logs with ⟨_, hSame⟩ | ⟨_, hArrival⟩
  · rw [hSame]
    exact hSelf
  · exact hSelf.enter _ hArrival

/- A call and the jump after it. -/
theorem SocksTurn.course
    (hTurn : SocksTurn k key a s r)
    (hJump : SocksJump k key a r.1 r.2 u)
    (hSound : s.srv.sel.Sound)
    (hOwns : Owns k s.srv.sel s.conn)
    (hSocks : s.conn.isSocks = true)
    (hData : key.data = k)
    (hKey : s.srv.sel.owner? key.fd = some k) :
    Course k s u := by
  rcases hTurn.heading hSound hOwns hSocks with
    ⟨hKept, hHeading⟩
  rcases hTurn.logs hSound hOwns with ⟨_, _, hLogs⟩
  have hCurrent := hTurn.current hSound hOwns
  have hCall := hTurn.slots hSound hOwns hData hKey
  have hFirst : s.conn.Grows (fun _ => True) r.1.conn :=
    hLogs.mono fun _ _ => trivial
  by_cases hState : s.conn.current = some REQUEST_CONNECTING
  · exact .called _ hCall
      (hJump.links_after (hCurrent.trans hState)) hFirst
      hJump.grows
  · have hLinks := hTurn.links hSound hOwns hKey hState
    have hKey' := (hLinks.owner key.fd).trans hKey
    rcases r with ⟨t, next⟩
    by_cases hNext : next = REQUEST_CONNECTING
    · subst hNext
      cases hJump with
      | stay _ hThere =>
          exact absurd (hCurrent.symm.trans hThere) hState
      | plain _ hBad =>
          dsimp only at hBad
          exact absurd hBad (by decide)
      | connecting hBefore parser _ hInit =>
          cases hHeading with
          | stay _ hThere =>
              exact absurd (hCurrent.symm.trans hThere) hState
          | connecting _ _ hOrigin interest hClient =>
              let v : St := entered REQUEST_CONNECTING
                { t with conn.request.parser := parser }
              have hEntered : SameLinks t v :=
                .of_sel rfl rfl rfl rfl rfl
              exact .opened v key a (hLinks.trans hEntered)
                (hFirst.trans (.single rfl trivial)) hInit
                hData hKey' hClient.owner
                (hKept.moves.sound hSound)
                (hKept.owns.of_eq rfl rfl rfl) hOrigin
          | ends _ hBad =>
              dsimp only at hBad
              exact absurd hBad (by decide)
    · refine .called _ hCall (hJump.links hKey' ?_ hNext)
        hFirst hJump.grows
      intro hCopy hNot
      subst hCopy
      cases hHeading with
      | stay _ hThere => exact absurd hThere hNot
      | copy _ hSlots => exact hSlots
      | ends _ hBad =>
          dsimp only at hBad
          exact absurd hBad (by decide)

namespace Course

theorem referenced
    (h : Course k s u)
    (hRef : Referenced k s)
    (hSound : s.srv.sel.Sound)
    (hOwns : Owns k s.srv.sel s.conn)
    (hOne : u.conn.OneUnderway) : Referenced k u := by
  cases h with
  | called t hCall hSame hFirst hThen =>
      exact (hCall.referenced hRef hSound (hOwns.ne hSound)
        hFirst (hOne.before hThen)).of_links hSame hThen
  | opened t key a hSame hFirst hInit hData hKey _ hSound'
      hOwns' hOrigin =>
      exact hInit.referenced (hRef.of_links hSame hFirst)
        hData hKey hSound' hOwns' hOrigin hOne

theorem apart
    (h : Course k s u)
    (hNe : c ≠ k)
    (hNot : s.srv.sel.owner? s.conn.originFd ≠ some c) :
    Apart c s.srv u.srv := by
  cases h with
  | called t hCall hSame =>
      exact (hCall.apart hNe hNot).trans hSame.apart
  | opened t key a hSame _ hInit hData hKey hClient _ _
      hOrigin =>
      exact hSame.apart.trans
        (hInit.apart hData hKey hClient hOrigin hNe)

end Course

/- Nobody else has a slot on a descriptor of `k`. -/
theorem Selector.Holds.not_owner
    {sel : Selector}
    {fd : Fd}
    (h : sel.Holds c)
    (hMine : sel.Mine k fd)
    (hNe : c ≠ k) : sel.owner? fd ≠ some c := by
  intro hOwned
  rcases h fd hOwned with ⟨holder, hOpen, hHolder⟩
  rw [hMine holder hOpen] at hHolder
  exact hNe (Option.some.inj hHolder).symm

/- Its slots stay held whatever connection `k` does. -/
theorem Selector.Holds.apart
    {x y : Server}
    (h : x.sel.Holds c)
    (hMoves : x.sel.Moves k y.sel)
    (hApart : Apart c x y)
    (hNe : c ≠ k) : y.sel.Holds c := by
  intro fd hOwned
  rcases h fd (hApart.slots fd hOwned) with
    ⟨holder, hOpen, hHolder⟩
  exact ⟨holder, (hMoves.keeps_slot hOpen hHolder hNe).1,
    hHolder⟩

/- A slot that is held is kept by the others. -/
theorem Selector.Holds.keeps
    {x y : Server}
    (h : x.sel.Holds c)
    (hMoves : x.sel.Moves k y.sel)
    (hNe : c ≠ k)
    {fd : Fd}
    (hOwned : x.sel.owner? fd = some c) :
    y.sel.owner? fd = some c := by
  rcases h fd hOwned with ⟨holder, hOpen, hHolder⟩
  have hKept := hMoves.keeps_slot hOpen hHolder hNe
  unfold Selector.owner? at hOwned ⊢
  rw [hKept.2]
  exact hOwned

end Eventing

end Socks5d

namespace Socks5d

section Ending

variable {c k : ConnId}
variable {key : Key}
variable {a : Answers}
variable {s t u : St}
variable {next : Nat}

/- Entering `DONE` or `ERROR` moves no descriptor. -/
theorem SocksJump.ended
    (h : SocksJump k key a s next u)
    (hNext : next = DONE ∨ next = ERROR) :
    u.srv.sel = s.srv.sel ∧
      u.conn.clientFd = s.conn.clientFd ∧
      u.conn.originFd = s.conn.originFd := by
  cases h with
  | stay _ _ hLe =>
      rcases hNext with hEq | hEq
      · rw [hEq] at hLe
        exact absurd hLe (by decide)
      · rw [hEq] at hLe
        exact absurd hLe (by decide)
  | plain => exact ⟨rfl, rfl, rfl⟩
  | userpassRead => exact absurd hNext (by decide)
  | requestRead => exact absurd hNext (by decide)
  | connecting => exact absurd hNext (by decide)
  | copy => exact absurd hNext (by decide)

/- The connection stays counted until it is closed. -/
theorem SocksEvent.referenced
    (h : SocksEvent k key a s t)
    (hRef : Referenced k s)
    (hSound : s.srv.sel.Sound)
    (hOwns : Owns k s.srv.sel s.conn)
    (hSocks : s.conn.isSocks = true)
    (hOpen : ¬ s.conn.Closed)
    (hData : key.data = k)
    (hKey : s.srv.sel.owner? key.fd = some k)
    (hOne : t.conn.OneUnderway) :
    (¬ t.conn.Closed → Referenced k t) ∧
      (t.conn.Closed → HandedBack k t.srv) := by
  have hService := (h.service hSound hOwns).trans hSocks
  cases h with
  | going r _ hTurn hJump hNext =>
      have hGoing := not_closed_of_le hService hJump.enters
        hNext
      refine ⟨fun _ => ?_, fun hBad => absurd hBad hGoing⟩
      exact (hTurn.course hJump hSound hOwns hSocks hData
        hKey).referenced hRef hSound hOwns hOne
  | ends r u hTurn hJump hNext =>
      rcases hTurn.heading hSound hOwns hSocks with
        ⟨hKept, _⟩
      rcases hJump.ended hNext with ⟨hSrv, hClient, hOrigin⟩
      have hSound' : u.srv.sel.Sound := by
        rw [hSrv]
        exact hKept.moves.sound hSound
      have hOwns' := hKept.owns.of_eq
        (show u.srv.sel.opened = _ by rw [hSrv]) hClient
        hOrigin
      rw [socksv5Done_conn] at hOne hService ⊢
      have hDone := ((hTurn.course hJump hSound hOwns hSocks
        hData hKey).referenced hRef hSound hOwns hOne).done
          hSound' (hOwns'.ne hSound')
      refine ⟨fun hBad => absurd ?_ hBad, fun _ => hDone⟩
      unfold Conn.Closed Conn.doneState Conn.errorState
      rw [hJump.enters, hService]
      rcases hNext with hEq | hEq
      · rw [hEq]
        exact Or.inl rfl
      · rw [hEq]
        exact Or.inr rfl
  | stuck hWhy =>
      refine ⟨fun _ => ?_, fun hBad => absurd hBad hOpen⟩
      exact ⟨hRef.own, hRef.client, hRef.linked, hRef.alone,
        hRef.handedBack⟩

/- Closing `k` releases only slots of `k`. -/
theorem doneFds_apart
    (hNe : c ≠ k)
    (hSound : u.srv.sel.Sound)
    (hOwns : Owns k u.srv.sel u.conn)
    (hHolds : u.srv.sel.Holds c) :
    Apart c u.srv (doneFd u.conn.clientFd u).srv ∧
      Apart c u.srv (socksv5Done u).srv := by
  have hClient := doneFd_apart
    (hHolds.not_owner hOwns.mine_client hNe)
  refine ⟨hClient, hClient.trans (doneFd_apart ?_)⟩
  intro hOwned
  exact hHolds.not_owner (hOwns.mine_origin hSound) hNe
    (hClient.slots _ hOwned)

theorem SocksEvent.apart
    (h : SocksEvent k key a s t)
    (hNe : c ≠ k)
    (hHolds : s.srv.sel.Holds c)
    (hSound : s.srv.sel.Sound)
    (hOwns : Owns k s.srv.sel s.conn)
    (hSocks : s.conn.isSocks = true)
    (hData : key.data = k)
    (hKey : s.srv.sel.owner? key.fd = some k) :
    Apart c s.srv t.srv := by
  have hNot := hHolds.not_owner (hOwns.mine_origin hSound) hNe
  cases h with
  | going r _ hTurn hJump hNext =>
      exact (hTurn.course hJump hSound hOwns hSocks hData
        hKey).apart hNe hNot
  | ends r u hTurn hJump hNext =>
      have hApart := (hTurn.course hJump hSound hOwns hSocks
        hData hKey).apart hNe hNot
      rcases hTurn.heading hSound hOwns hSocks with
        ⟨hKept, _⟩
      rcases hJump.ended hNext with ⟨hSrv, hClient, hOrigin⟩
      have hMoves : s.srv.sel.Moves k u.srv.sel := by
        rw [hSrv]
        exact hKept.moves
      have hOwns' := hKept.owns.of_eq
        (show u.srv.sel.opened = _ by rw [hSrv]) hClient
        hOrigin
      exact hApart.trans (doneFds_apart hNe
        (hMoves.sound hSound) hOwns'
        (hHolds.apart hMoves hApart hNe)).2
  | stuck hWhy => exact ⟨fun _ hOwned => hOwned, rfl, rfl⟩

end Ending

end Socks5d

------------------------------------------------------------
-- Events Of Management Connections
------------------------------------------------------------

namespace Socks5d

section Management

variable {c k : ConnId}
variable {key : Key}
variable {a : Answers}
variable {s t u : St}
variable {fd : Fd}
variable {attached : Attachment}
variable {r : St × Nat}
variable {next : Nat}

theorem MngCall.arms
    (h : MngCall key attached s r) :
    Arms key.fd attached s r.1 := by
  cases h with
  | stay t next hFrame hSel =>
      exact ⟨Or.inl hSel, hFrame.references,
        hFrame.handedBack, hFrame.client, hFrame.origin⟩
  | writes t hFrame hSel =>
      exact ⟨Or.inr ⟨_, by decide, hSel⟩, hFrame.references,
        hFrame.handedBack, hFrame.client, hFrame.origin⟩
  | reads t hFrame hSel =>
      exact ⟨Or.inr ⟨_, by decide, hSel⟩, hFrame.references,
        hFrame.handedBack, hFrame.client, hFrame.origin⟩
  | ends t next hNext hFrame hSel =>
      refine ⟨hSel.imp_right fun hPut => ?_,
        hFrame.references, hFrame.handedBack, hFrame.client,
        hFrame.origin⟩
      exact ⟨_, by decide, hPut⟩

theorem MngTurn.arms
    (h : MngTurn k key a s r) :
    Arms key.fd (.mng k) s r.1 := by
  cases h with
  | helloRead _ _ _ _ _ hCall => exact hCall.arms
  | helloWrite _ _ _ _ _ hCall => exact hCall.arms
  | authRead _ _ _ hCall => exact hCall.arms
  | authWrite _ _ _ hCall => exact hCall.arms
  | request _ _ _ _ _ hCall => exact hCall.arms

theorem MngJump.arms
    (h : MngJump key a s next u) :
    Arms key.fd (.mng k) s u := by
  cases h with
  | stay => exact ⟨Or.inl rfl, rfl, rfl, rfl, rfl⟩
  | plain => exact ⟨Or.inl rfl, rfl, rfl, rfl, rfl⟩
  | userpassRead =>
      unfold authReadInit
      split
      · exact ⟨Or.inl rfl, rfl, rfl, rfl, rfl⟩
      · exact ⟨Or.inl rfl, rfl, rfl, rfl, rfl⟩
  | request _ _ _ _ hFrame hSel =>
      exact ⟨Or.inl hSel, hFrame.references,
        hFrame.handedBack, hFrame.client, hFrame.origin⟩

theorem MngEvent.apart
    (h : MngEvent k key a s t)
    (hNe : c ≠ k)
    (hNot : s.srv.sel.owner? s.conn.clientFd ≠ some c) :
    Apart c s.srv t.srv := by
  have hOther : (Attachment.mng k).data? ≠ some c := by
    intro hBad
    exact hNe (Option.some.inj hBad).symm
  cases h with
  | going r _ hTurn hJump hNext =>
      exact (hTurn.arms.apart hOther).trans
        (hJump.arms.apart hOther)
  | ends r u hTurn hJump hNext =>
      have hArmed := (hTurn.arms.apart hOther).trans
        (hJump.arms.apart hOther)
      refine hArmed.trans (doneFd_apart ?_)
      intro hOwned
      have hBefore := hArmed.slots _ hOwned
      rw [show u.conn.clientFd = s.conn.clientFd from
        (hJump.arms (k := k)).client.trans
          hTurn.arms.client] at hBefore
      exact hNot hBefore

theorem Arms.trans
    (h : Arms fd attached s t)
    (h' : Arms fd attached t u) : Arms fd attached s u := by
  refine ⟨?_, h'.references.trans h.references,
    h'.handedBack.trans h.handedBack,
    h'.client.trans h.client, h'.origin.trans h.origin⟩
  rcases h'.sel with hSel | ⟨wanted, hWanted, hSel⟩
  · rw [hSel]
    exact h.sel
  · refine Or.inr ⟨wanted, hWanted, ?_⟩
    rcases h.sel with hBefore | ⟨first, _, hBefore⟩
    · rw [hSel, hBefore]
    · rw [hSel, hBefore]
      simp [Selector.put]

/- Only the slots change. -/
theorem Arms.opened
    (h : Arms fd attached s t) :
    t.srv.sel.opened = s.srv.sel.opened := by
  rcases h.sel with hSel | ⟨wanted, _, hSel⟩
  · rw [hSel]
  · rw [hSel]
    rfl

/-
  A slot that waits for something is on an open descriptor:
  the slot that is armed was this connection's before.
-/
theorem Arms.owned
    {sel : Selector}
    (h : Arms fd (.mng k) s u)
    (hSound : s.srv.sel.Sound)
    (hOwns : Owns k s.srv.sel s.conn)
    (hOrigin : s.conn.originFd = -1)
    (hClient : s.srv.sel.owner? s.conn.clientFd = some k)
    (hMoves : s.srv.sel.Moves k sel)
    (hAfter : fd ≠ s.conn.clientFd →
      sel.fds fd = u.srv.sel.fds fd ∧
        sel.opened fd = u.srv.sel.opened fd) :
    SameLinks s u := by
  by_cases hFd : fd = s.conn.clientFd
  · exact h.links (hFd ▸ hClient)
  · rcases h.sel with hSel | ⟨wanted, hWanted, hSel⟩
    · exact .of_sel hSel h.references h.handedBack h.client
        h.origin
    · rcases hAfter hFd with ⟨hFds, hOpened⟩
      rw [hSel, Selector.put_fds_self] at hFds
      rw [h.opened] at hOpened
      apply h.links
      cases hHeld : s.srv.sel.opened fd with
      | none =>
          have hIdle := (hMoves.sound hSound).idle fd _ hFds
            (hOpened.trans hHeld)
          exact absurd hIdle hWanted
      | some holder =>
          by_cases hMine : holder.conn? = some k
          · exfalso
            rcases hOwns.only fd holder hHeld hMine with
              hBad | hBad
            · exact hFd hBad
            · have hNonneg := hSound.nonneg _ _ hHeld
              rw [hBad, hOrigin] at hNonneg
              exact absurd hNonneg (by decide)
          · have hKept := (hMoves.frame fd holder hHeld
              hMine).2
            unfold Selector.owner?
            rw [← hKept, hFds]
            rfl

theorem MngJump.enters
    (h : MngJump key a s next u) :
    u.conn.current = some next := by
  cases h with
  | stay _ hState => exact hState
  | plain => rfl
  | userpassRead =>
      unfold authReadInit
      split
      · rfl
      · rfl
  | request _ _ _ _ hFrame => exact hFrame.current

/- Another descriptor keeps its slot and stays open. -/
theorem doneFd_away
    {other : Fd}
    (hNe : fd ≠ other) :
    (doneFd other s).srv.sel.fds fd = s.srv.sel.fds fd ∧
      (doneFd other s).srv.sel.opened fd =
        s.srv.sel.opened fd := by
  unfold doneFd
  split
  · exact ⟨rfl, rfl⟩
  · rcases unregisterFd_cases s.srv other with
      ⟨hFailed, _⟩ | ⟨_, _, _, hDone, hClear⟩
    · rw [hFailed]
      exact ⟨rfl, rfl⟩
    · simp only [hDone, if_true]
      show ((unregisterFd s.srv other).1.sel.close
          other).fds fd = _ ∧
        ((unregisterFd s.srv other).1.sel.close
          other).opened fd = _
      rw [hClear, Selector.close_opened_of_ne hNe]
      exact ⟨Selector.clear_fds_of_ne hNe, rfl⟩

/- `mng_done` releases the slot and hands it back. -/
theorem Referenced.mngDone
    (h : Referenced k u)
    (hValid : ∀ fd, u.srv.sel.owner? fd = some k →
      validFd fd = true)
    (hOrigin : u.conn.originFd = -1) :
    HandedBack k (mngDone u).srv := by
  have hDone := doneFd_owned (hValid _ h.client) h.client
  have hNone : u.srv.sel.owner? u.conn.originFd ≠ some k := by
    intro hBad
    have hFd := hValid _ hBad
    rw [hOrigin] at hFd
    nomatch hFd
  unfold Socks5d.mngDone
  rw [hDone]
  refine ⟨?_, ?_⟩
  · intro fd hOwned
    by_cases hFd : fd = u.conn.clientFd
    · rw [hFd] at hOwned
      exact Option.some_ne_none _ (hOwned.symm.trans
        (Selector.owner?_clear_self _ _))
    · have hBefore : u.srv.sel.owner? fd = some k :=
        (Selector.owner?_clear_of_ne _ hFd).symm.trans hOwned
      rcases h.own fd hBefore with hBad | hBad
      · exact hFd hBad
      · exact hNone (hBad ▸ hBefore)
  · unfold destroy
    rw [if_pos (h.alone hNone)]
    show Function.update _ _ _ _ = _
    rw [Function.update_self, h.handedBack]

/- The connection stays counted until it is closed. -/
theorem MngEvent.referenced
    (h : MngEvent k key a s t)
    (hRef : Referenced k s)
    (hSound : s.srv.sel.Sound)
    (hOwns : Owns k s.srv.sel s.conn)
    (hOrigin : s.conn.originFd = -1)
    (hMng : s.conn.isSocks = false)
    (hMoves : s.srv.sel.Moves k t.srv.sel) :
    (¬ t.conn.Closed → Referenced k t) ∧
      (t.conn.Closed → HandedBack k t.srv) := by
  have hService := h.service.trans hMng
  have hGrows := h.grows
  cases h with
  | going r _ hTurn hJump hNext =>
      have hGoing := mng_not_closed_of_le hService
        hJump.enters hNext
      refine ⟨fun _ => ?_, fun hBad => absurd hBad hGoing⟩
      have hArms := hTurn.arms.trans hJump.arms
      exact hRef.of_links (hArms.owned hSound hOwns hOrigin
        hRef.client hMoves fun _ => ⟨rfl, rfl⟩) hGrows
  | ends r u hTurn hJump hNext =>
      have hArms := hTurn.arms.trans (hJump.arms (k := k))
      have hConn : (mngDone u).conn = u.conn :=
        doneFd_conn _ _
      have hAway : ∀ fd, fd ≠ s.conn.clientFd →
          (mngDone u).srv.sel.fds fd = u.srv.sel.fds fd ∧
            (mngDone u).srv.sel.opened fd =
              u.srv.sel.opened fd := by
        intro fd hFd
        exact doneFd_away (hArms.client ▸ hFd)
      have hSame := hArms.owned hSound hOwns hOrigin
        hRef.client hMoves (hAway key.fd)
      have hOrigin' := hArms.origin.trans hOrigin
      rw [hConn] at hService hGrows ⊢
      have hDone := (hRef.of_links hSame hGrows).mngDone
        (fun fd hOwned => hSound.valid_of_owner
          ((hSame.owner fd).symm.trans hOwned)) hOrigin'
      refine ⟨fun hBad => absurd ?_ hBad, fun _ => hDone⟩
      unfold Conn.Closed Conn.doneState Conn.errorState
      rw [hJump.enters, hService]
      rcases hNext with hEq | hEq
      · rw [hEq]
        exact Or.inl rfl
      · rw [hEq]
        exact Or.inr rfl

end Management

end Socks5d

------------------------------------------------------------
-- Every Run
------------------------------------------------------------

namespace Socks5d

/- The counters and slots of connection `k` are right. -/
structure Tended
    (w : World)
    (k : ConnId) : Prop where
  going : ¬ (w.conn k).Closed → Referenced k (w.view k)
  done : (w.conn k).Closed → HandedBack k w.srv

/-
  It holds of management connections, and of SOCKS ones while
  at most one attempt gets under way; who is still to come
  has no slot.
-/
structure Lifecycles (w : World) : Prop where
  tended : ∀ k < w.next,
    ((w.conn k).isSocks = true → (w.conn k).OneUnderway) →
      Tended w k
  fresh : ∀ k, w.next ≤ k →
    (∀ fd, w.srv.sel.owner? fd ≠ some k) ∧
      w.srv.handedBack k = 0

section Runs

variable {w w' : World}
variable {c k : ConnId}
variable {key : Key}
variable {a : Answers}
variable {t : St}

/- Its slots are on its own open descriptors. -/
theorem Tended.holds
    (h : Tended w k)
    (hInv : Inv w)
    (hOld : k < w.next) : w.srv.sel.Holds k := by
  intro fd hOwned
  by_cases hClosed : (w.conn k).Closed
  · exact absurd hOwned ((h.done hClosed).slots fd)
  · have hOwns := (hInv.wired k ⟨hOld, hClosed⟩).owns
    rcases (h.going hClosed).own fd hOwned with hFd | hFd
    · rw [hFd]
      exact ⟨_, hOwns.client, rfl⟩
    · rcases hOwns.origin with hNone | ⟨domain, hOpen⟩
      · exact absurd (hFd.trans hNone)
          (hInv.sound.ne_of_owner hOwned)
      · rw [hFd]
        exact ⟨_, hOpen, rfl⟩

/- What another connection does keeps it so. -/
theorem Tended.apart
    (h : Tended w k)
    (hApart : Apart k w.srv w'.srv)
    (hKeeps : ∀ fd, w.srv.sel.owner? fd = some k →
      w'.srv.sel.owner? fd = some k)
    (hClosed : (w'.conn k).Closed ↔ (w.conn k).Closed)
    (hClient : (w'.conn k).clientFd = (w.conn k).clientFd)
    (hOrigin : (w'.conn k).originFd = (w.conn k).originFd)
    (hLog : (w'.conn k).log = (w.conn k).log) :
    Tended w' k where
  going := by
    intro hOpen
    have hRef := h.going (fun hBad =>
      hOpen (hClosed.mpr hBad))
    refine ⟨?_, ?_, ?_, ?_, ?_⟩
    · intro fd hOwned
      show fd = (w'.conn k).clientFd ∨
        fd = (w'.conn k).originFd
      rw [hClient, hOrigin]
      exact hRef.own fd (hApart.slots fd hOwned)
    · show w'.srv.sel.owner? (w'.conn k).clientFd = _
      rw [hClient]
      exact hKeeps _ hRef.client
    · intro hLinked
      have hBefore : w.srv.sel.owner? (w.conn k).originFd =
          some k := by
        rw [← hOrigin]
        exact hApart.slots _ hLinked
      rcases hRef.linked hBefore with ⟨hTwo, hStarted⟩
      refine ⟨hApart.references.trans hTwo, ?_⟩
      show 1 ≤ (w'.conn k).tries.countP Attempt.started
      unfold Conn.tries
      rw [hLog]
      exact hStarted
    · intro hAlone
      refine hApart.references.trans (hRef.alone ?_)
      intro hLinked
      apply hAlone
      show w'.srv.sel.owner? (w'.conn k).originFd = _
      rw [hOrigin]
      exact hKeeps _ hLinked
    · exact hApart.handedBack.trans hRef.handedBack
  done := by
    intro hEnded
    have hDone := h.done (hClosed.mp hEnded)
    refine ⟨?_, hApart.handedBack.trans hDone.once⟩
    exact fun fd hOwned =>
      hDone.slots fd (hApart.slots fd hOwned)

/-
  A step of connection `k`: it keeps its own slots right, and
  every other connection is apart from it.
-/
theorem Lifecycles.put
    (h : Lifecycles w)
    (hInv : Inv w)
    (hLive : w.Live k)
    (hMoves : w.srv.sel.Moves k t.srv.sel)
    (hService : t.conn.isSocks = (w.conn k).isSocks)
    (hGrows : (w.conn k).Grows (fun _ => True) t.conn)
    (hSelf : Referenced k (w.view k) →
      (t.conn.isSocks = true → t.conn.OneUnderway) →
        (¬ t.conn.Closed → Referenced k t) ∧
          (t.conn.Closed → HandedBack k t.srv))
    (hOthers : ∀ c, c ≠ k → w.srv.sel.Holds c →
      Apart c w.srv t.srv) : Lifecycles (w.put k t) where
  tended := by
    intro j hJ hOne
    by_cases hEq : j = k
    · subst hEq
      have hConn := w.put_conn_self j t
      rw [hConn] at hOne
      have hBefore := h.tended j hLive.1 fun hSocks =>
        (hOne (hService.trans hSocks)).before hGrows
      have hAfter := hSelf (hBefore.going hLive.2) hOne
      refine ⟨?_, ?_⟩
      · intro hOpen
        rw [hConn] at hOpen
        have hRef := hAfter.1 hOpen
        have hView : (w.put j t).view j = t := by
          unfold World.view
          rw [hConn]
          rfl
        rw [hView]
        exact hRef
      · intro hClosed
        rw [hConn] at hClosed
        exact hAfter.2 hClosed
    · have hConn := w.put_conn_of_ne t hEq
      rw [hConn] at hOne
      have hBefore := h.tended j hJ hOne
      have hHolds := hBefore.holds hInv hJ
      exact hBefore.apart (hOthers j hEq hHolds)
        (fun fd hOwned => hHolds.keeps hMoves hEq hOwned)
        (by rw [hConn]) (by rw [hConn]) (by rw [hConn])
        (by rw [hConn])
  fresh := by
    intro j hJ
    have hNe : j ≠ k := by
      intro hEq
      exact Nat.lt_irrefl _ (Nat.lt_of_lt_of_le
        (hEq ▸ hLive.1) hJ)
    rcases h.fresh j hJ with ⟨hSlots, hBack⟩
    have hApart := hOthers j hNe
      (fun fd hOwned => absurd hOwned (hSlots fd))
    exact ⟨fun fd hOwned =>
      hSlots fd (hApart.slots fd hOwned),
      hApart.handedBack.trans hBack⟩

/- The slots, counters and descriptors do not change. -/
theorem Lifecycles.resolution
    (h : Lifecycles w)
    {threads : List Thread}
    {jobs lost : List BlockingJob}
    {addresses : List Addrinfo} :
    Lifecycles { w with
      srv.threads := threads
      srv.jobs := jobs
      srv.lost := lost
      conn := Function.update w.conn k
        { w.conn k with
          originResolution := addresses } } where
  tended := by
    intro j hJ hOne
    by_cases hEq : j = k
    · subst hEq
      simp only [Function.update_self] at hOne
      have hBefore := h.tended j hJ fun hSocks =>
        ⟨(hOne hSocks).once, (hOne hSocks).free⟩
      refine hBefore.apart ⟨fun _ hOwned => hOwned, rfl, rfl⟩
        (fun _ hOwned => hOwned) ?_ ?_ ?_ ?_
      · simp only [Function.update_self]
        exact Iff.rfl
      · simp only [Function.update_self]
      · simp only [Function.update_self]
      · simp only [Function.update_self]
    · simp only [Function.update_of_ne hEq] at hOne
      have hBefore := h.tended j hJ hOne
      refine hBefore.apart ⟨fun _ hOwned => hOwned, rfl, rfl⟩
        (fun _ hOwned => hOwned) ?_ ?_ ?_ ?_
      · simp only [Function.update_of_ne hEq]
      · simp only [Function.update_of_ne hEq]
      · simp only [Function.update_of_ne hEq]
      · simp only [Function.update_of_ne hEq]
  fresh := h.fresh

/- A new connection has one slot. -/
theorem Lifecycles.accept
    (h : Lifecycles w)
    (hInv : Inv w)
    (isSocks : Bool)
    {client : Fd}
    (hNonneg : 0 ≤ client)
    (hFree : w.srv.sel.opened client = none)
    (hUnused : w.srv.sel.canRegister client = true) :
    Lifecycles (w.accept isSocks client) := by
  have hMoves := accept_moves isSocks hNonneg hFree hUnused
  have hSound := hMoves.sound hInv.sound
  have hSelf : (w.accept isSocks client).conn w.next =
      { isSocks, clientFd := client } :=
    Function.update_self _ _ _
  have hData : (Attachment.ofService isSocks w.next).data? =
      some w.next := by
    cases isSocks <;> rfl
  have hOwner : (w.accept isSocks client).srv.sel.owner?
      client = some w.next :=
    (Selector.owner?_put_self _ _ _).trans hData
  have hRest : ∀ fd, fd ≠ client →
      (w.accept isSocks client).srv.sel.owner? fd =
        w.srv.sel.owner? fd := fun fd hNe =>
    Selector.owner?_put_of_ne _ _ hNe
  have hApart : ∀ j, j ≠ w.next → Apart j w.srv
      (w.accept isSocks client).srv := by
    intro j hNe
    refine ⟨?_, Function.update_of_ne hNe _ _, rfl⟩
    intro fd hOwned
    by_cases hFd : fd = client
    · rw [hFd, hOwner] at hOwned
      exact absurd (Option.some.inj hOwned).symm hNe
    · rwa [hRest fd hFd] at hOwned
  rcases h.fresh w.next (Nat.le_refl _) with ⟨hSlots, hBack⟩
  refine ⟨?_, ?_⟩
  · intro j hJ hOne
    by_cases hEq : j = w.next
    · subst hEq
      have hOpen : ¬ ((w.accept isSocks client).conn
          w.next).Closed := by
        rw [hSelf]
        rintro (hBad | hBad)
        · nomatch hBad
        · nomatch hBad
      refine ⟨fun _ => ?_, fun hBad => absurd hBad hOpen⟩
      have hView : (w.accept isSocks client).view w.next =
          { srv := (w.accept isSocks client).srv
            conn := { isSocks, clientFd := client } } := by
        unfold World.view
        rw [hSelf]
      rw [hView]
      have hAlone : (w.accept isSocks
          client).srv.sel.owner? (-1) ≠ some w.next :=
        fun hBad => hSound.ne_of_owner hBad rfl
      refine ⟨?_, hOwner, fun hBad => absurd hBad hAlone,
        fun _ => Function.update_self _ _ _, hBack⟩
      intro fd hOwned
      by_cases hFd : fd = client
      · exact Or.inl hFd
      · have hBefore : w.srv.sel.owner? fd = some w.next :=
          (hRest fd hFd).symm.trans hOwned
        exact absurd hBefore (hSlots fd)
    · have hConn : (w.accept isSocks client).conn j =
          w.conn j := Function.update_of_ne hEq _ _
      rw [hConn] at hOne
      have hOld : j < w.next :=
        (Nat.lt_succ_iff_lt_or_eq.mp hJ).resolve_right hEq
      have hBefore := h.tended j hOld hOne
      have hHolds := hBefore.holds hInv hOld
      exact hBefore.apart (hApart j hEq)
        (fun fd hOwned => hHolds.keeps hMoves hEq hOwned)
        (by rw [hConn]) (by rw [hConn]) (by rw [hConn])
        (by rw [hConn])
  · intro j hJ
    have hNe : j ≠ w.next := Ne.symm (Nat.ne_of_lt hJ)
    rcases h.fresh j (Nat.le_of_lt hJ) with ⟨hNone, hNever⟩
    have hOther := hApart j hNe
    exact ⟨fun fd hOwned => hNone fd (hOther.slots fd hOwned),
      hOther.handedBack.trans hNever⟩

/- The first handler leaves the slots alone. -/
theorem first_links
    (states : Nat → StateDefinition)
    (hStates : states HELLO_READ =
      { onArrival := some helloReadInit
        onReadReady := some helloRead })
    (key : Key)
    (a : Answers)
    (s : St) : SameLinks s (handleFirst states key a s) := by
  rcases first_srv states hStates key a s with
    ⟨hSame, hClient, hOrigin, _⟩
  exact .of_sel (by rw [hSame]) (by rw [hSame])
    (by rw [hSame]) hClient hOrigin

/- An event on a slot of a SOCKS connection. -/
theorem Lifecycles.socks
    {interest : Interest}
    (h : Lifecycles w)
    (hInv : Inv w)
    (hLive : w.Live k)
    (hSocks : (w.conn k).isSocks = true)
    (hKey : Keyed k key (w.view k) interest)
    (hEvent : SocksEvent k key a
      (handleFirst clientStatbl key a (w.view k)) t)
    (hAfter : Aftermath k (w.view k) t) :
    Lifecycles (w.put k t) := by
  rcases hInv.first hLive clientStatbl rfl key a with
    ⟨hSrv, hSound, hOwns⟩
  have hService := first_conn clientStatbl rfl key a
    (w.view k)
  have hSocks' := hService.trans hSocks
  have hGrows := first_grows clientStatbl rfl key a
    (w.view k)
  have hOwner : (handleFirst clientStatbl key a
      (w.view k)).srv.sel.owner? key.fd = some k := by
    rw [hSrv]
    exact hKey.slot.owner
  have hLinks := first_links clientStatbl rfl key a (w.view k)
  have hOpen := first_open (s := w.view k) hLive.2 hSocks
    key a
  refine h.put hInv hLive (hAfter.tables hLive.2
    (hInv.wired k hLive)).1
    ((hEvent.service hSound hOwns).trans hService)
    (hGrows.trans (hEvent.grows hSound hOwns)) ?_ ?_
  · intro hRef hOne
    exact hEvent.referenced (hRef.of_links hLinks hGrows)
      hSound hOwns hSocks' hOpen hKey.data hOwner
      (hOne ((hEvent.service hSound hOwns).trans hSocks'))
  · intro c hNe hHolds
    have hApart := hEvent.apart hNe (by
      rw [hSrv]
      exact hHolds) hSound hOwns hSocks' hKey.data hOwner
    rw [hSrv] at hApart
    exact hApart

/- An event on the slot of a management connection. -/
theorem Lifecycles.mng
    (h : Lifecycles w)
    (hInv : Inv w)
    (hLive : w.Live k)
    (hMng : (w.conn k).isSocks = false)
    (hEvent : MngEvent k key a
      (handleFirst clientMng key a (w.view k)) t)
    (hAfter : Aftermath k (w.view k) t) :
    Lifecycles (w.put k t) := by
  rcases hInv.first hLive clientMng rfl key a with
    ⟨hSrv, hSound, hOwns⟩
  have hFirst := first_conn clientMng rfl key a (w.view k)
  have hGrows := first_grows clientMng rfl key a
    (w.view k)
  have hMoves := (hAfter.tables hLive.2
    (hInv.wired k hLive)).1
  have hLinks := first_links clientMng rfl key a (w.view k)
  have hOrigin :=
    (first_srv clientMng rfl key a (w.view k)).2.2.1
  refine h.put hInv hLive hMoves
    (hEvent.service.trans hFirst)
    (hGrows.trans hEvent.grows) ?_ ?_
  · intro hRef _
    refine hEvent.referenced (hRef.of_links hLinks hGrows)
      hSound hOwns (hOrigin.trans ((hInv.wired k hLive).mng
        hMng).1) (hFirst.trans hMng) ?_
    rw [hSrv]
    exact hMoves
  · intro c hNe hHolds
    have hApart := hEvent.apart hNe (by
      rw [hSrv] at hOwns ⊢
      exact hHolds.not_owner hOwns.mine_client hNe)
    rw [hSrv] at hApart
    exact hApart

/- A notification, after which the job is gone. -/
theorem Lifecycles.block
    {job : BlockingJob}
    {rest : List BlockingJob}
    (h : Lifecycles w)
    (hInv : Inv w)
    (hWaits : Waits w job.starter job.fd job.request)
    (hEvent : SocksEvent job.starter ⟨job.fd, job.starter⟩ a
      (w.notified job rest) t)
    (hAfter : Aftermath job.starter (w.notified job rest) t) :
    Lifecycles (w.put job.starter t) := by
  have hLive := hWaits.live
  have hWired := hInv.wired _ hLive
  have hOwns : Owns job.starter
      (w.notified job rest).srv.sel
      (w.notified job rest).conn :=
    hWired.owns.of_eq rfl rfl rfl
  have hItem := hInv.job_item hWaits
  have hOwner : (w.notified job rest).srv.sel.owner?
      job.fd = some job.starter := by
    show w.srv.sel.owner? job.fd = _
    unfold Selector.registered? at hItem
    unfold Selector.owner?
    split at hItem
    · rw [hItem]
      rfl
    · nomatch hItem
  have hLinks : SameLinks (w.view job.starter)
      (w.notified job rest) := .of_sel rfl rfl rfl rfl rfl
  have hGrows : (w.view job.starter).conn.Grows
      (fun _ => True) (w.notified job rest).conn :=
    .single rfl trivial
  have hMoves : w.srv.sel.Moves job.starter t.srv.sel := by
    cases hAfter with
    | going hKept => exact hKept.moves
    | ends hReleased => exact hReleased.moves
    | stuck hEq =>
        rw [hEq]
        exact .refl _ _
  refine h.put hInv hLive hMoves
    (hEvent.service hInv.sound hOwns)
    (hGrows.trans (hEvent.grows hInv.sound hOwns)) ?_ ?_
  · intro hRef hOne
    exact hEvent.referenced (hRef.of_links hLinks hGrows)
      hInv.sound hOwns hWaits.service hLive.2 rfl hOwner
      (hOne ((hEvent.service hInv.sound hOwns).trans
        hWaits.service))
  · intro c hNe hHolds
    have hApart := hEvent.apart hNe hHolds hInv.sound hOwns
      hWaits.service rfl hOwner
    exact ⟨hApart.slots, hApart.references,
      hApart.handedBack⟩

theorem Micro.lifecycles
    (hStep : Micro w w')
    (hInv : Inv w)
    (h : Lifecycles w) : Lifecycles w' := by
  cases hStep with
  | accepted isSocks client hNonneg hFree hUnused =>
      exact h.accept hInv isSocks hNonneg hFree hUnused
  | socks k key a interest t hLive hSocks hKey hArmed hEvent
      hAfter =>
      exact h.socks hInv hLive hSocks hKey hEvent hAfter
  | mng k key a t hLive hMng hEvent hAfter =>
      exact h.mng hInv hLive hMng hEvent hAfter
  | block job rest a t hJobs hWaits hEvent hAfter =>
      exact h.block hInv hWaits hEvent hAfter
  | threadStart i t p hThread hWaits hParser hRequest =>
      exact h.resolution
  | threadDone i t addresses a hThread hWaits =>
      exact h.resolution

theorem Initial.lifecycles
    (h : Initial w) : Lifecycles w where
  tended := by
    intro k hK
    rw [h.next] at hK
    exact absurd hK (Nat.not_lt_zero _)
  fresh := by
    intro k _
    refine ⟨?_, h.handedBack k⟩
    intro fd hOwned
    unfold Selector.owner? at hOwned
    cases hItem : w.srv.sel.fds fd with
    | none =>
        rw [hItem] at hOwned
        nomatch hOwned
    | some item =>
        rw [hItem, Option.bind_some,
          (h.slots fd item hItem).1] at hOwned
        nomatch hOwned

theorem reachable_lifecycles
    (h : server.Reachable w) : Inv w ∧ Lifecycles w :=
  micro_invariant (fun _ hInit => hInit.lifecycles)
    (fun _ _ hInv hBefore hStep =>
      hStep.lifecycles hInv hBefore) h

/- Tended connections have the slots that they count. -/
theorem Tended.lifecycle
    (h : Tended w k)
    (hInv : Inv w)
    (hOld : k < w.next) : w.Lifecycle k := by
  refine ⟨?_, ?_, fun hOpen => (h.going hOpen).handedBack, ?_⟩
  · intro hOpen fd hOwned
    refine ⟨(h.going hOpen).own fd hOwned, ?_⟩
    rcases h.holds hInv hOld fd hOwned with ⟨_, hSome, _⟩
    rw [hSome]
    exact Option.some_ne_none _
  · intro hOpen
    have hRef := h.going hOpen
    have hNe := (hInv.wired k ⟨hOld, hOpen⟩).owns.ne
      hInv.sound
    by_cases hLinked : w.srv.sel.owner? (w.conn k).originFd =
        some k
    · have hBoth : w.slots k =
          {(w.conn k).clientFd, (w.conn k).originFd} := by
        ext fd
        constructor
        · exact fun hOwned => hRef.own fd hOwned
        · rintro (hFd | hFd)
          · rw [hFd]
            exact hRef.client
          · rw [hFd]
            exact hLinked
      rw [hBoth, Set.ncard_pair hNe]
      exact (hRef.linked hLinked).1
    · have hOne : w.slots k = {(w.conn k).clientFd} := by
        ext fd
        constructor
        · intro hOwned
          rcases hRef.own fd hOwned with hFd | hFd
          · exact hFd
          · exact absurd (hFd ▸ hOwned) hLinked
        · intro hFd
          rw [hFd]
          exact hRef.client
      rw [hOne, Set.ncard_singleton]
      exact hRef.alone hLinked
  · intro hClosed
    refine ⟨?_, (h.done hClosed).once⟩
    ext fd
    exact ⟨fun hOwned => (h.done hClosed).slots fd hOwned,
      fun hBad => absurd hBad (Set.notMem_empty fd)⟩

end Runs

/-
  A management connection, and a SOCKS connection of which at
  most one attempt gets under way, keeps its slots and its
  counter right in every run.
-/
theorem lifecycle_holds
    {w : World}
    {k : ConnId}
    (h : server.Reachable w)
    (hOld : k < w.next)
    (hOne : (w.conn k).isSocks = true →
      (w.conn k).OneUnderway) : w.Lifecycle k := by
  rcases reachable_lifecycles h with ⟨hInv, hAll⟩
  exact (hAll.tended k hOld hOne).lifecycle hInv hOld

/- The connection of this run relays, with two slots. -/
theorem copyWorld_lifecycle :
    copyWorld.Lifecycle 0 ∧ copyWorld.srv.references 0 = 2 :=
  ⟨lifecycle_holds copyWorld_reachable (by decide +kernel)
    fun _ => ⟨by decide +kernel, by decide +kernel⟩,
    by decide +kernel⟩

end Socks5d

------------------------------------------------------------
-- Slots, References And Descriptors
------------------------------------------------------------

namespace Socks5d

/-
  Every slot of the connection is on its client or origin
  descriptor, which is open and its own; `references` is the
  number of the slots; and once `socksv5_done` has returned
  there are none and it has been handed back once.
-/
structure World.Accounts
    (w : World)
    (k : ConnId) : Prop where
  own : ∀ fd ∈ w.slots k,
    (fd = (w.conn k).clientFd ∨ fd = (w.conn k).originFd) ∧
      ∃ holder, w.srv.sel.opened fd = some holder ∧
        holder.conn? = some k
  references : ¬ (w.conn k).Closed →
    w.srv.references k = (w.slots k).ncard
  done : (w.conn k).Closed →
    w.slots k = ∅ ∧ w.srv.handedBack k = 1

/-
  In every run: as long as at most one attempt of a
  connection has got under way, and one that succeeded at
  once found its slot free, all of this agrees.
-/
theorem slots_accounted
    {w : World}
    {k : ConnId}
    (hReach : server.Reachable w)
    (hOld : k < w.next)
    (hOne : (w.conn k).OneUnderway) : w.Accounts k := by
  rcases reachable_lifecycles hReach with ⟨hInv, hAll⟩
  have hTended := hAll.tended k hOld fun _ => hOne
  have hLife := hTended.lifecycle hInv hOld
  refine ⟨?_, hLife.references, hLife.done⟩
  intro fd hOwned
  have hOpen : ¬ (w.conn k).Closed := by
    intro hBad
    rw [(hLife.done hBad).1] at hOwned
    exact absurd hOwned (Set.notMem_empty fd)
  exact ⟨(hLife.slots hOpen fd hOwned).1,
    hTended.holds hInv hOld fd hOwned⟩

/- The client leaves, and then the origin cannot be written. -/
def endedWorld : World :=
  runTo [.read 5 { recv := some [] },
    .write 6 { send := none }] copyWorld

/- Two slots while it relays, and none when it has ended. -/
theorem endedWorld_accounts :
    (copyWorld.srv.references 0 = 2 ∧ copyWorld.Accounts 0) ∧
      (endedWorld.conn 0).Closed ∧ endedWorld.Accounts 0 :=
  ⟨⟨by decide +kernel, slots_accounted copyWorld_reachable
      (by decide +kernel)
      ⟨by decide +kernel, by decide +kernel⟩⟩,
    by decide +kernel,
    slots_accounted (reachable_runTo _ copyWorld_reachable)
      (by decide +kernel)
      ⟨by decide +kernel, by decide +kernel⟩⟩

/-
  Both addresses get under way, on one socket: the first is
  refused later, and the second finds the slot in use.
-/
def retriedRun : List Label :=
  namedRun twoAddresses [
    .notify fun _ => { socket := some 6 },
    .write 6 { soError := some (some .econnrefused) }]

/-
  The slot of the socket is left behind when that is closed,
  and still there when `socksv5_done` has returned, with the
  connection not handed back.
-/
theorem retriedRun_accounts :
    let w := runTo retriedRun searchingServer
    let w' := runTo [.write 5 {},
      .write 5 { send := some 100 }] w
    server.Reachable w ∧ (w.conn 0).isSocks = true ∧
      w.srv.sel.owner? 6 = some 0 ∧
      w.srv.sel.opened 6 = none ∧
      (w.conn 0).originFd = -1 ∧ ¬ w.Accounts 0 ∧
      server.Reachable w' ∧ (w'.conn 0).Closed ∧
      w'.srv.sel.owner? 6 = some 0 ∧
      w'.srv.handedBack 0 = 0 ∧ ¬ w'.Accounts 0 := by
  intro w w'
  have hReach : server.Reachable w :=
    reachable_runTo _ (.init searchingServer_initial)
  have hSlot : w.srv.sel.owner? 6 = some 0 := by
    decide +kernel
  have hShut : w.srv.sel.opened 6 = none := by
    decide +kernel
  have hClosed : (w'.conn 0).Closed := by decide +kernel
  have hBack : w'.srv.handedBack 0 = 0 := by decide +kernel
  refine ⟨hReach, by decide +kernel, hSlot, hShut,
    by decide +kernel, ?_, reachable_runTo _ hReach, hClosed,
    by decide +kernel, hBack, ?_⟩
  · intro hBad
    rcases (hBad.own 6 hSlot).2 with ⟨_, hOpen, _⟩
    rw [hShut] at hOpen
    nomatch hOpen
  · intro hBad
    have hOnce := (hBad.done hClosed).2
    rw [hBack] at hOnce
    nomatch hOnce

end Socks5d
