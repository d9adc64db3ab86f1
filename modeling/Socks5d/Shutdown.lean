import Mathlib.Data.List.Count
import Socks5d.Lifecycle
import Socks5d.SelectorTable

/-
  The end of `main`: `selector_destroy`, at whatever point the
  signal finds the connections.

  Main declarations:
    * `closeAll`, `shutdown`
    * `closeAll_handsBack`, `Tabled.count_dataFrom`
    * `shutdown_hands_back`
-/

------------------------------------------------------------
-- Closing Everything
------------------------------------------------------------

namespace Socks5d

/-
  `handle_close` of each slot that is released: `socksv5_close`
  and `mng_close` destroy their connection, the passive
  sockets have none.
-/
def closeAll :
    List (Option ConnId) → Server → Server
| [], srv => srv
| none :: rest, srv => closeAll rest srv
| some data :: rest, srv => closeAll rest (destroy srv data)

/-
  What `main` does with the selector under `finally`. The
  handlers do not look at the table, so they can follow it.
-/
def shutdown
    (T : FdSelector)
    (w : World) : Option (FdSelector × Server) :=
  (selectorDestroy T).map fun r =>
    (r.1, closeAll r.2 w.srv)

section Closing

variable {srv : Server}
variable {j k : ConnId}
variable {data : List (Option ConnId)}

/- Destroying another connection. -/
theorem destroy_apart
    (hNe : k ≠ j) :
    (destroy srv j).references k = srv.references k ∧
      (destroy srv j).handedBack k = srv.handedBack k := by
  unfold destroy
  split
  · exact ⟨rfl, Function.update_of_ne hNe _ _⟩
  · exact ⟨Function.update_of_ne hNe _ _, rfl⟩

theorem closeAll_apart
    (hNone : some k ∉ data) :
    (closeAll data srv).handedBack k = srv.handedBack k := by
  induction data generalizing srv with
  | nil => rfl
  | cons first rest ih =>
      have hRest : some k ∉ rest := fun hIn =>
        hNone (List.mem_cons_of_mem first hIn)
      cases first with
      | none => exact ih hRest
      | some j =>
          have hNe : k ≠ j := by
            rintro rfl
            exact hNone List.mem_cons_self
          exact (ih hRest).trans (destroy_apart hNe).2

/-
  Who has as many slots as references is handed back with the
  last of them, by induction on the slots.
-/
theorem closeAll_handsBack
    (hSome : 1 ≤ srv.references k)
    (hCount : data.count (some k) = srv.references k) :
    (closeAll data srv).handedBack k =
      srv.handedBack k + 1 := by
  induction data generalizing srv with
  | nil =>
      rw [List.count_nil] at hCount
      omega
  | cons first rest ih =>
      by_cases hEq : first = some k
      · subst hEq
        rw [List.count_cons_self] at hCount
        show (closeAll rest (destroy srv k)).handedBack k = _
        by_cases hLast : srv.references k = 1
        · have hNone : some k ∉ rest := by
            apply List.count_eq_zero.mp
            omega
          rw [closeAll_apart hNone]
          unfold destroy
          rw [if_pos hLast]
          simp
        · have hLess : (destroy srv k).references k =
              srv.references k - 1 := by
            unfold destroy
            rw [if_neg hLast]
            simp
          have hSame : (destroy srv k).handedBack k =
              srv.handedBack k := by
            unfold destroy
            rw [if_neg hLast]
          rw [ih (by omega) (by omega), hSame]
      · rw [List.count_cons_of_ne hEq] at hCount
        cases first with
        | none => exact ih hSome hCount
        | some j =>
            have hNe : k ≠ j := by
              rintro rfl
              exact hEq rfl
            have hApart := @destroy_apart srv j k hNe
            rcases hApart with ⟨hReferences, hBack⟩
            show (closeAll rest (destroy srv j)).handedBack
              k = _
            rw [ih (hReferences ▸ hSome)
              (hCount.trans hReferences.symm), hBack]

end Closing

end Socks5d

------------------------------------------------------------
-- The Table Of A World
------------------------------------------------------------

namespace Socks5d

section Tables

variable {w : World}
variable {k : ConnId}
variable {T : FdSelector}
variable {sel : Selector}

/- The slots of a connection are counted once each. -/
theorem Tabled.count_dataFrom
    (h : Tabled T w.srv.sel)
    (k : ConnId) :
    (w.srv.sel.dataFrom 0 T.fds.length).count (some k) =
      (w.slots k).ncard := by
  let mine : Nat → Bool := fun n =>
    w.srv.sel.owner? n == some k
  have hCount : (w.srv.sel.dataFrom 0 T.fds.length).count
      (some k) = (List.range T.fds.length).countP mine := by
    unfold Selector.dataFrom
    rw [List.count_filterMap, List.range_eq_range']
    apply List.countP_congr
    intro n _
    simp only [mine, Selector.owner?]
    cases hItem : w.srv.sel.fds n with
    | none => simp
    | some item => simp
  have hSlots : w.slots k = Nat.cast ''
      (((List.range T.fds.length).filter mine).toFinset :
        Set Nat) := by
    ext fd
    simp only [Set.mem_image, Finset.mem_coe,
      List.mem_toFinset, List.mem_filter, List.mem_range]
    constructor
    · intro hOwned
      have hOwner : w.srv.sel.owner? fd = some k := hOwned
      unfold Selector.owner? at hOwner
      cases hItem : w.srv.sel.fds fd with
      | none =>
          rw [hItem] at hOwner
          nomatch hOwner
      | some item =>
          rcases h.inside fd item hItem with ⟨hValid, hIn⟩
          rcases validFd_iff.mp hValid with ⟨n, rfl, _⟩
          exact ⟨n, ⟨hIn, beq_iff_eq.mpr hOwned⟩, rfl⟩
    · rintro ⟨n, ⟨_, hMine⟩, rfl⟩
      exact beq_iff_eq.mp hMine
  rw [hCount, hSlots, Set.ncard_image_of_injective _
    Nat.cast_injective, Set.ncard_coe_finset,
    List.toFinset_card_of_nodup
      (List.nodup_range.filter _),
    List.countP_eq_length_filter]

/- Slots of valid descriptors have a table. -/
theorem Selector.Sound.tabled
    (h : sel.Sound) : ∃ T, Tabled T sel := by
  let item : Nat → TableItem := fun n =>
    (sel.fds n).elim TableItem.zeroed.init fun slot =>
      ⟨n, slot.interest, some slot.attached⟩
  refine ⟨{
    fds := (List.range 1025).map item
    maxFd := sel.maxFd
    masterR := fun fd =>
      (sel.fds fd).any fun slot => slot.interest.read
    masterW := fun fd =>
      (sel.fds fd).any fun slot => slot.interest.write },
    ?_, ?_, ?_, rfl, fun _ => rfl, fun _ => rfl⟩
  · simp
  · intro i found hFound
    have hItem : found = item i := by
      simp only [List.getElem?_map] at hFound
      rcases Option.map_eq_some_iff.mp hFound with
        ⟨n, hN, hEq⟩
      rcases List.getElem?_eq_some_iff.mp hN with ⟨_, hAt⟩
      rw [List.getElem_range] at hAt
      rw [hAt, hEq]
    rw [hItem]
    simp only [item]
    cases hSlot : sel.fds i with
    | none => exact .unused rfl
    | some slot => exact .used slot.attached rfl rfl
  · intro fd slot hSlot
    have hValid := h.valid fd slot hSlot
    rcases validFd_iff.mp hValid with ⟨n, hN, hLt⟩
    refine ⟨hValid, ?_⟩
    rw [hN, Int.toNat_natCast, List.length_map,
      List.length_range]
    omega

/- A table is left without a used item. -/
theorem Tabled.unused
    (h : Tabled T sel)
    (hNone : ∀ n : Nat, sel.fds n = none) :
    ∀ item ∈ T.fds, item.used = false := by
  intro item hItem
  rcases List.getElem?_of_mem hItem with ⟨i, hAt⟩
  rcases h.slot hAt with ⟨hUnused, _⟩ | ⟨_, _, _, _, hSome⟩
  · exact hUnused
  · rw [hNone i] at hSome
    nomatch hSome

/-
  `selector_destroy` at any moment: every connection that was
  accepted has been handed back exactly once, before or now,
  and no item is in use.
-/
theorem shutdown_hands_back
    (h : server.Reachable w)
    (hTable : Tabled T w.srv.sel)
    (hOld : k < w.next)
    (hOne : (w.conn k).isSocks = true →
      (w.conn k).OneUnderway) :
    ∃ T' srv', shutdown T w = some (T', srv') ∧
      srv'.handedBack k = 1 ∧
      ∀ item ∈ T'.fds, item.used = false := by
  rcases reachable_lifecycles h with ⟨hInv, hAll⟩
  have hTended := hAll.tended k hOld hOne
  have hLifecycle := hTended.lifecycle hInv hOld
  rcases hTable.destroyLoop T.fds.length 0 (by omega) with
    ⟨T', sel', hLoop, hAfter, hSlots⟩
  have hCount := hTable.count_dataFrom k
  refine ⟨T', _, congrArg (Option.map _) hLoop, ?_,
    hAfter.unused fun n => ?_⟩
  · by_cases hClosed : (w.conn k).Closed
    · rcases hLifecycle.done hClosed with ⟨hEmpty, hBack⟩
      rw [hEmpty, Set.ncard_empty] at hCount
      exact (closeAll_apart
        (List.count_eq_zero.mp hCount)).trans hBack
    · have hReferences := hLifecycle.references hClosed
      have hSome : 1 ≤ w.srv.references k := by
        have hRef := hTended.going hClosed
        by_cases hLinked : (w.view k).srv.sel.owner?
            (w.view k).conn.originFd = some k
        · rw [show w.srv.references k = 2 from
            (hRef.linked hLinked).1]
          decide
        · rw [show w.srv.references k = 1 from
            hRef.alone hLinked]
      have hBack := closeAll_handsBack hSome
        (hCount.trans hReferences.symm)
      rw [hLifecycle.held hClosed] at hBack
      exact hBack
  · rw [hSlots]
    split
    · rfl
    · cases hSlot : w.srv.sel.fds n with
      | none => rfl
      | some slot =>
          have hIn := (hTable.inside n slot hSlot).2
          rw [Int.toNat_natCast] at hIn
          omega

end Tables

/- The signal comes while this connection relays. -/
theorem copyWorld_handed_back :
    ∃ T, Tabled T copyWorld.srv.sel ∧
      ∃ T' srv', shutdown T copyWorld = some (T', srv') ∧
        srv'.handedBack 0 = 1 ∧
        ∀ item ∈ T'.fds, item.used = false := by
  rcases (reachable_inv copyWorld_reachable).sound.tabled with
    ⟨T, hTable⟩
  exact ⟨T, hTable, shutdown_hands_back copyWorld_reachable
    hTable (by decide +kernel)
    fun _ => ⟨by decide +kernel, by decide +kernel⟩⟩

end Socks5d
