import Mathlib.Data.Nat.Size
import Socks5d.Iteration
import Socks5d.Library.Component

/-
  The table of `selector.c` as it lies in memory: an array of
  items that grows, the greatest descriptor in use and the two
  sets for `select`. It refines the table by descriptors.

  Main declarations:
    * `TableItem`, `FdSelector`, `selectorNew`
    * `FdSelector.register`, `.unregister`, `.setInterest`
    * `Tabled`, `table_refines`, `table_realizes`
    * `selector_table`, `selector_destroy_closes`
    * `Tabled.reported`
-/

------------------------------------------------------------
-- The Array
------------------------------------------------------------

namespace Socks5d

/- `selector_status` -/
inductive SelectorStatus where
  | success
  | enomem
  | maxfd
  | iargs
  | fdinuse
  | io
deriving DecidableEq

/- `FD_UNUSED` -/
def fdUnused : Fd := -1

/- `ITEMS_MAX_SIZE`, which is `FD_SETSIZE` -/
def itemsMaxSize : Nat := 1024

/- `SIZE_MAX` and `sizeof(struct item)` -/
def sizeMax : Nat := 2 ^ 64 - 1
def elementSize : Nat := 24

/- `struct item`; a handler comes with its data pointer. -/
structure TableItem where
  fd : Fd
  interest : Interest
  handler : Option Attachment
deriving DecidableEq, Inhabited

namespace TableItem

variable (item : TableItem)

/- `ITEM_USED` -/
def used : Bool :=
  decide (item.fd ≠ fdUnused)

/- `item_init` -/
def init : TableItem :=
  { item with fd := fdUnused }

/- An item after `calloc` or `memset` -/
def zeroed : TableItem :=
  ⟨0, opNoop, none⟩

end TableItem

/-
  The answer of `calloc` or `realloc`, and what the bytes that
  `realloc` adds contain.
-/
structure Memory where
  granted : Bool := true
  junk : Nat → TableItem := fun _ => TableItem.zeroed

/-
  `struct fdselector`. The array is empty as long as `fds` is
  NULL; `fd_size` is its length.
-/
structure FdSelector where
  fds : List TableItem
  maxFd : Int
  masterR : Fd → Bool
  masterW : Fd → Bool

/- The loop of `next_capacity`, over the bits of a `size_t` -/
def bitsLoop :
    Nat → Nat → Nat → Nat
| 0, _, bits => bits
| turns + 1, tmp, bits =>
    if tmp ≠ 0 then bitsLoop turns (tmp >>> 1) (bits + 1)
    else bits

/- `next_capacity` -/
def nextCapacity (n : Nat) : Nat :=
  let tmp := 1 <<< bitsLoop 64 n 0
  (if itemsMaxSize < tmp then itemsMaxSize else tmp) + 1

namespace FdSelector

variable (s : FdSelector)

/- `items_init` -/
def itemsInit (last : Nat) : FdSelector :=
  { s with fds := s.fds.take last ++
      (s.fds.drop last).map TableItem.init }

/- The loop of `items_max_fd`; `none` is beyond the array. -/
def maxFdLoop (fds : List TableItem) :
    Nat → Nat → Int → Option Int
| 0, _, max => some max
| turns + 1, i, max =>
    match fds[i]? with
    | none => none
    | some item =>
        maxFdLoop fds turns (i + 1)
          (if item.used ∧ item.fd > max then item.fd else max)

/- `items_max_fd` -/
def itemsMaxFd : Option Int :=
  maxFdLoop s.fds (s.maxFd + 1).toNat 0 0

/-
  `items_update_fdset_for_fd`; `none` is a bit outside of the
  sets.
-/
def updateFdset (item : TableItem) : Option FdSelector :=
  if validFd item.fd then
    let r := Function.update s.masterR item.fd false
    let w := Function.update s.masterW item.fd false
    if item.used then
      some { s with
        masterR :=
          if item.interest.read then
            Function.update r item.fd true
          else r
        masterW :=
          if item.interest.write then
            Function.update w item.fd true
          else w }
    else
      some { s with masterR := r, masterW := w }
  else
    none

/- `ensure_capacity` -/
def ensureCapacity
    (n : Nat)
    (mem : Memory) : FdSelector × SelectorStatus :=
  if n < s.fds.length then
    (s, .success)
  else if itemsMaxSize < n then
    (s, .maxfd)
  else
    let newSize := nextCapacity n
    if s.fds = [] then
      if mem.granted then
        (itemsInit { s with
            fds := List.replicate newSize .zeroed } 0,
          .success)
      else
        (s, .enomem)
    else if sizeMax / elementSize < newSize then
      (s, .enomem)
    else if mem.granted then
      let added := newSize - s.fds.length
      (itemsInit { s with
          fds := s.fds.take newSize ++
            (List.range added).map mem.junk } s.fds.length,
        .success)
    else
      (s, .enomem)

/- `selector_register`; `none` is beyond the array. -/
def register
    (fd : Fd)
    (handler : Option Attachment)
    (interest : Interest)
    (mem : Memory) : Option (FdSelector × SelectorStatus) :=
  if ¬ validFd fd ∨ handler = none then
    some (s, .iargs)
  else
    let ufd := fd.toNat
    -- the element at fd_size is not asked for
    let r :=
      if s.fds.length < ufd then s.ensureCapacity ufd mem
      else (s, .success)
    if r.2 ≠ .success then
      some r
    else
      match r.1.fds[ufd]? with
      | none => none
      | some item =>
          if item.used then
            some (r.1, .fdinuse)
          else
            let item := ⟨fd, interest, handler⟩
            (updateFdset { r.1 with
                fds := r.1.fds.set ufd item
                maxFd :=
                  if fd > r.1.maxFd then fd
                  else r.1.maxFd } item).map
              fun s => (s, .success)

/-
  `selector_unregister_fd`, with the connection that
  `handle_close` is called for; the handlers of the listeners
  have none. `none` is beyond the array, or a NULL handler.
-/
def unregister (fd : Fd) :
    Option (FdSelector × SelectorStatus × Option ConnId) :=
  if ¬ validFd fd then
    some (s, .iargs, none)
  else
    match s.fds[fd.toNat]? with
    | none => none
    | some item =>
        if ¬ item.used then
          some (s, .iargs, none)
        else
          item.handler.bind fun attached =>
            (s.updateFdset { item with
                interest := opNoop }).bind fun s =>
              let s := { s with
                fds := s.fds.set fd.toNat
                  TableItem.zeroed.init }
              s.itemsMaxFd.map fun max =>
                ({ s with maxFd := max }, .success,
                  attached.data?)

/- `selector_set_interest` -/
def setInterest
    (fd : Fd)
    (interest : Interest) :
    Option (FdSelector × SelectorStatus) :=
  if ¬ validFd fd then
    some (s, .iargs)
  else
    match s.fds[fd.toNat]? with
    | none => none
    | some item =>
        if ¬ item.used then
          some (s, .iargs)
        else
          let item := { item with interest := interest }
          (updateFdset { s with
              fds := s.fds.set fd.toNat item } item).map
            fun s => (s, .success)

end FdSelector

/- The memory of a selector after the `memset` to zero -/
def FdSelector.zeroed : FdSelector where
  fds := []
  maxFd := 0
  masterR := fun _ => false
  masterW := fun _ => false

/- `selector_new`, with the memory that there is -/
def selectorNew
    (initialElements : Nat)
    (mem : Memory) : Option FdSelector :=
  let r := FdSelector.zeroed.ensureCapacity initialElements mem
  if r.2 = .success then some r.1 else none

end Socks5d

------------------------------------------------------------
-- Capacity
------------------------------------------------------------

namespace Socks5d

/- The bits that are counted are enough for the number. -/
theorem bitsLoop_le
    (turns tmp bits : Nat)
    (hLt : tmp < 2 ^ turns) :
    (tmp + 1) * 2 ^ bits ≤ 2 ^ bitsLoop turns tmp bits := by
  induction turns generalizing tmp bits with
  | zero =>
      have hZero : tmp = 0 := by simpa using hLt
      subst hZero
      simp [bitsLoop]
  | succ turns ih =>
      unfold bitsLoop
      by_cases hZero : tmp = 0
      · subst hZero
        simp
      · rw [if_pos hZero, Nat.shiftRight_one]
        have hHalf : tmp / 2 < 2 ^ turns := by
          rw [Nat.pow_succ] at hLt
          omega
        have hNext := ih (tmp / 2) (bits + 1) hHalf
        have hDouble : tmp + 1 ≤ (tmp / 2 + 1) * 2 := by
          omega
        calc (tmp + 1) * 2 ^ bits
            ≤ (tmp / 2 + 1) * 2 * 2 ^ bits :=
              Nat.mul_le_mul_right _ hDouble
          _ = (tmp / 2 + 1) * 2 ^ (bits + 1) := by
              rw [Nat.pow_succ, Nat.mul_assoc,
                Nat.mul_comm 2]
          _ ≤ 2 ^ bitsLoop turns (tmp / 2) (bits + 1) := hNext

/- There is room for the element, and never for too many. -/
theorem nextCapacity_bounds
    {n : Nat}
    (hLe : n ≤ itemsMaxSize) :
    n < nextCapacity n ∧ nextCapacity n ≤ 1025 := by
  have hBits := bitsLoop_le 64 n 0
    (Nat.lt_of_le_of_lt hLe (by decide))
  rw [Nat.pow_zero, Nat.mul_one] at hBits
  have hMax : itemsMaxSize = 1024 := rfl
  unfold nextCapacity
  simp only [Nat.one_shiftLeft]
  split <;> omega

/- From 512 elements on there is room for all. -/
theorem nextCapacity_all
    {n : Nat}
    (hLe : n ≤ itemsMaxSize)
    (hGe : 512 ≤ n) : nextCapacity n = 1025 := by
  have hBits := bitsLoop_le 64 n 0
    (Nat.lt_of_le_of_lt hLe (by decide))
  rw [Nat.pow_zero, Nat.mul_one] at hBits
  have hMany : 2 ^ 10 ≤ 2 ^ bitsLoop 64 n 0 := by
    apply Nat.pow_le_pow_right (by decide)
    by_contra hFew
    have hSmall : 2 ^ bitsLoop 64 n 0 ≤ 2 ^ 9 :=
      Nat.pow_le_pow_right (by decide) (by omega)
    omega
  have hMax : itemsMaxSize = 1024 := rfl
  unfold nextCapacity
  simp only [Nat.one_shiftLeft]
  split <;> omega

/-
  Growing keeps the items that there are; the new ones are not
  in use, whatever `realloc` has left in them.
-/
theorem FdSelector.ensureCapacity_grows
    (s : FdSelector)
    {n : Nat}
    {mem : Memory}
    (hLe : n ≤ itemsMaxSize)
    (hSize : s.fds.length ≤ n)
    (hGranted : mem.granted = true) :
    ∃ added, s.ensureCapacity n mem =
        ({ s with fds := s.fds ++ added }, .success) ∧
      (∀ item ∈ added, item.fd = fdUnused) ∧
      (s.fds ++ added).length = nextCapacity n := by
  rcases nextCapacity_bounds hLe with ⟨hGt, hMost⟩
  have hInit : ∀ items : List TableItem,
      ∀ item ∈ items.map TableItem.init,
        item.fd = fdUnused := by
    intro items item hItem
    rcases List.mem_map.mp hItem with ⟨_, _, hEq⟩
    rw [← hEq]
    rfl
  have hRoom : ¬ sizeMax / elementSize < nextCapacity n :=
    Nat.not_lt.mpr (Nat.le_trans hMost (by decide))
  unfold ensureCapacity
  rw [if_neg (Nat.not_lt.mpr hSize),
    if_neg (Nat.not_lt.mpr hLe)]
  simp only [hGranted, if_true, if_neg hRoom]
  by_cases hNull : s.fds = []
  · rw [if_pos hNull, hNull]
    refine ⟨_, rfl, hInit _, ?_⟩
    rw [List.nil_append, List.drop_zero, List.length_map,
      List.length_replicate]
  · rw [if_neg hNull]
    have hTake : s.fds.take (nextCapacity n) = s.fds :=
      List.take_of_length_le (by omega)
    unfold itemsInit
    dsimp only
    rw [hTake, List.take_left, List.drop_left]
    refine ⟨_, rfl, hInit _, ?_⟩
    simp only [List.length_append, List.length_map,
      List.length_range]
    omega

end Socks5d

------------------------------------------------------------
-- The Greatest Descriptor
------------------------------------------------------------

namespace Socks5d

/- The greatest number with the property, or zero. -/
def Greatest
    (P : Nat → Prop)
    (m : Nat) : Prop :=
  (∀ n, P n → n ≤ m) ∧ (m = 0 ∨ P m)

theorem Greatest.unique
    {P : Nat → Prop}
    {m n : Nat}
    (h : Greatest P m)
    (h' : Greatest P n) : m = n := by
  have hLe : ∀ {i j}, Greatest P i → Greatest P j →
      i ≤ j := by
    intro i j hI hJ
    rcases hI.2 with hZero | hIn
    · rw [hZero]
      exact Nat.zero_le j
    · exact hJ.1 i hIn
  exact Nat.le_antisymm (hLe h h') (hLe h' h)

/- The last one of a range that has the property. -/
theorem greatest_last
    (p : Nat → Bool)
    (size : Nat) :
    Greatest (fun n => n < size ∧ p n = true)
      (((List.range size).filter p).getLast?.getD 0) := by
  induction size with
  | zero => exact ⟨fun n h => absurd h.1 n.not_lt_zero,
      Or.inl rfl⟩
  | succ size ih =>
      rw [List.range_succ, List.filter_append]
      cases hLast : p size with
      | true =>
          rw [List.filter_cons_of_pos hLast,
            List.filter_nil, List.getLast?_concat,
            Option.getD_some]
          exact ⟨fun n h => Nat.lt_succ_iff.mp h.1,
            Or.inr ⟨Nat.lt_succ_self size, hLast⟩⟩
      | false =>
          have hNot : ¬ p size = true := by
            rw [hLast]
            exact Bool.false_ne_true
          rw [List.filter_cons_of_neg hNot,
            List.filter_nil, List.append_nil]
          constructor
          · rintro n ⟨hLt, hP⟩
            rcases Nat.lt_succ_iff_lt_or_eq.mp hLt with
              hOld | hEq
            · exact ih.1 n ⟨hOld, hP⟩
            · rw [hEq, hLast] at hP
              cases hP
          · exact ih.2.imp_right fun h =>
              ⟨Nat.lt_succ_of_lt h.1, h.2⟩

/- The registered descriptors, as numbers -/
def Selector.InUse
    (sel : Selector)
    (n : Nat) : Prop :=
  n < 1024 ∧ (sel.fds n).isSome = true

theorem Selector.maxFd_greatest
    (sel : Selector) : Greatest sel.InUse sel.maxFd :=
  greatest_last (fun fd => (sel.fds fd).isSome) 1024

/- Valid descriptors are indices of the greatest array. -/
theorem validFd_iff
    {fd : Fd} :
    validFd fd = true ↔ ∃ n : Nat, fd = n ∧ n < 1024 := by
  unfold validFd
  rw [decide_eq_true_iff]
  constructor
  · rintro ⟨hNonneg, hLt⟩
    rcases Int.eq_ofNat_of_zero_le hNonneg with ⟨n, hEq⟩
    rw [hEq] at hLt
    exact ⟨n, hEq, Int.ofNat_lt.mp hLt⟩
  · rintro ⟨n, rfl, hLt⟩
    exact ⟨Int.natCast_nonneg n, Int.ofNat_lt.mpr hLt⟩

/- A slot that is filled moves the greatest descriptor up. -/
theorem Selector.maxFd_put
    (sel : Selector)
    {n : Nat}
    (hLt : n < 1024)
    (item : Item) :
    (sel.put n item).maxFd = max sel.maxFd n := by
  have hOld := sel.maxFd_greatest
  have hFds : ∀ other : Nat, other ≠ n →
      (sel.put n item).fds other = sel.fds other := by
    intro other hNe
    exact Selector.put_fds_of_ne _ (by exact_mod_cast hNe)
  have hHere : (sel.put n item).InUse n := by
    refine ⟨hLt, ?_⟩
    rw [Selector.put_fds_self]
    rfl
  apply (sel.put n item).maxFd_greatest.unique
  constructor
  · rintro other ⟨hOther, hIn⟩
    by_cases hEq : other = n
    · exact le_max_of_le_right (Nat.le_of_eq hEq)
    · rw [hFds other hEq] at hIn
      exact le_max_of_le_left (hOld.1 other ⟨hOther, hIn⟩)
  · rcases Nat.le_total n sel.maxFd with hLe | hGe
    · rw [max_eq_left hLe]
      refine hOld.2.imp_right ?_
      rintro ⟨hOther, hIn⟩
      by_cases hEq : sel.maxFd = n
      · rw [hEq]
        exact hHere
      · refine ⟨hOther, ?_⟩
        rwa [hFds _ hEq]
    · rw [max_eq_right hGe]
      exact Or.inr hHere

end Socks5d

------------------------------------------------------------
-- The Array And The Slots
------------------------------------------------------------

namespace Socks5d

/- What the item at an index says about the slot there. -/
inductive TableItem.Stands
    (item : TableItem)
    (i : Nat) : Option Item → Prop where
  | unused
      (hFd : item.fd = fdUnused) :
      TableItem.Stands item i none
  | used
      (attached : Attachment)
      (hFd : item.fd = i)
      (hHandler : item.handler = some attached) :
      TableItem.Stands item i
        (some ⟨item.interest, attached⟩)

/- The array, the maximum and the sets agree with the slots. -/
structure Tabled
    (T : FdSelector)
    (sel : Selector) : Prop where
  size : T.fds.length ≤ 1025
  items : ∀ (i : Nat) (item : TableItem),
    T.fds[i]? = some item → item.Stands i (sel.fds i)
  inside : ∀ fd slot, sel.fds fd = some slot →
    validFd fd = true ∧ fd.toNat < T.fds.length
  maxFd : T.maxFd = sel.maxFd
  masterR : ∀ fd, T.masterR fd =
    (sel.fds fd).any fun slot => slot.interest.read
  masterW : ∀ fd, T.masterW fd =
    (sel.fds fd).any fun slot => slot.interest.write

section Tables

variable {T : FdSelector}
variable {sel : Selector}
variable {n i : Nat}
variable {item : TableItem}
variable {interest : Interest}
variable {attached : Attachment}

theorem TableItem.used_eq_false
    (h : item.fd = fdUnused) : item.used = false := by
  unfold TableItem.used
  rw [h]
  rfl

theorem TableItem.used_of_index
    (h : item.fd = i) : item.used = true := by
  have hNonneg : (0 : Int) ≤ i := Int.natCast_nonneg i
  unfold TableItem.used
  rw [h, decide_eq_true_iff]
  intro hBad
  rw [show (i : Int) = -1 from hBad] at hNonneg
  exact absurd hNonneg (by decide)

/- The bits of an item are those of its interest. -/
theorem FdSelector.updateFdset_eq
    (s : FdSelector)
    (hLt : n < 1024)
    (hFd : item.fd = n) :
    s.updateFdset item = some { s with
      masterR := Function.update s.masterR n
        item.interest.read
      masterW := Function.update s.masterW n
        item.interest.write } := by
  have hValid : validFd n = true :=
    validFd_iff.mpr ⟨n, rfl, hLt⟩
  have hUsed := TableItem.used_of_index hFd
  have hBits : ∀ (set : Fd → Bool) (bit : Bool),
      (if bit = true then Function.update
          (Function.update set n false) n true
        else Function.update set n false) =
          Function.update set n bit := by
    intro set bit
    cases bit <;> simp
  unfold updateFdset
  simp only [hFd, hValid, hUsed, if_true, hBits]

/- The loop finds the greatest descriptor that it sees. -/
theorem FdSelector.maxFdLoop_eq
    (fds : List TableItem)
    (turns i : Nat)
    (max : Int)
    (hIn : i + turns ≤ fds.length) :
    ∃ m, maxFdLoop fds turns i max = some m ∧ max ≤ m ∧
      (∀ j item, i ≤ j → j < i + turns →
        fds[j]? = some item → item.used = true →
          item.fd ≤ m) ∧
      (m = max ∨ ∃ j item, i ≤ j ∧ j < i + turns ∧
        fds[j]? = some item ∧ item.used = true ∧
          item.fd = m) := by
  induction turns generalizing i max with
  | zero =>
      refine ⟨max, rfl, Int.le_refl max, ?_, Or.inl rfl⟩
      intro j item hGe hLt
      exact absurd hLt (Nat.not_lt.mpr hGe)
  | succ turns ih =>
      have hHere : i < fds.length := by omega
      have hItem := List.getElem?_eq_getElem hHere
      generalize fds[i] = item at hItem
      unfold maxFdLoop
      simp only [hItem]
      generalize hNext : (if item.used = true ∧ item.fd > max
        then item.fd else max) = next
      rcases ih (i + 1) next (by omega) with
        ⟨m, hLoop, hGe, hAll, hSome⟩
      have hNextGe : max ≤ next ∧
          (item.used = true → item.fd ≤ next) ∧
          (next = max ∨
            (item.used = true ∧ item.fd = next)) := by
        rw [← hNext]
        split
        · rename_i hBoth
          exact ⟨Int.le_of_lt hBoth.2,
            fun _ => Int.le_refl _, Or.inr ⟨hBoth.1, rfl⟩⟩
        · rename_i hNot
          refine ⟨Int.le_refl max, ?_, Or.inl rfl⟩
          intro hUsed
          exact Int.not_lt.mp fun hGt => hNot ⟨hUsed, hGt⟩
      refine ⟨m, hLoop, Int.le_trans hNextGe.1 hGe, ?_, ?_⟩
      · intro j other hFrom hTo hOther hUsed
        by_cases hEq : j = i
        · subst hEq
          rw [hItem] at hOther
          rw [← Option.some.inj hOther] at hUsed ⊢
          exact Int.le_trans (hNextGe.2.1 hUsed) hGe
        · exact hAll j other (by omega) (by omega) hOther
            hUsed
      · rcases hSome with hSame | ⟨j, other, hFrom, hTo,
          hOther, hUsed, hFd⟩
        · rcases hNextGe.2.2 with hOld | ⟨hUsed, hFd⟩
          · exact Or.inl (hSame.trans hOld)
          · exact Or.inr ⟨i, item, Nat.le_refl i, by omega,
              hItem, hUsed, hFd.trans hSame.symm⟩
        · exact Or.inr ⟨j, other, by omega, by omega, hOther,
            hUsed, hFd⟩

namespace Tabled

/- Only the slots of the selector matter. -/
theorem of_fds
    (h : Tabled T sel)
    {other : Selector}
    (hFds : other.fds = sel.fds) : Tabled T other := by
  rcases sel with ⟨fds, opened⟩
  rcases other with ⟨_, others⟩
  subst hFds
  exact ⟨h.size, h.items, h.inside, h.maxFd, h.masterR,
    h.masterW⟩

/- What is found at the index of a valid descriptor. -/
theorem slot
    (h : Tabled T sel)
    (hItem : T.fds[n]? = some item) :
    (item.used = false ∧ sel.fds n = none) ∨
      ∃ attached, item.used = true ∧ item.fd = n ∧
        item.handler = some attached ∧
        sel.fds n = some ⟨item.interest, attached⟩ := by
  have hStands := h.items n item hItem
  generalize sel.fds n = slot at hStands
  cases hStands with
  | unused hFd =>
      exact Or.inl ⟨TableItem.used_eq_false hFd, rfl⟩
  | used attached hFd hHandler =>
      exact Or.inr ⟨attached, TableItem.used_of_index hFd,
        hFd, hHandler, rfl⟩

/- New items at the end stand for empty slots. -/
theorem grow
    (h : Tabled T sel)
    (added : List TableItem)
    (hUnused : ∀ item ∈ added, item.fd = fdUnused)
    (hSize : (T.fds ++ added).length ≤ 1025) :
    Tabled { T with fds := T.fds ++ added } sel where
  size := hSize
  items := by
    intro i item hItem
    dsimp only at hItem
    by_cases hLt : i < T.fds.length
    · rw [List.getElem?_append_left hLt] at hItem
      exact h.items i item hItem
    · rw [List.getElem?_append_right
        (Nat.not_lt.mp hLt)] at hItem
      have hNone : sel.fds i = none := by
        cases hSlot : sel.fds i with
        | none => rfl
        | some slot =>
            have hIn := (h.inside i slot hSlot).2
            rw [Int.toNat_natCast] at hIn
            exact absurd hIn hLt
      rw [hNone]
      exact .unused (hUnused item
        (List.mem_of_getElem? hItem))
  inside := by
    intro fd slot hSlot
    rcases h.inside fd slot hSlot with ⟨hValid, hIn⟩
    exact ⟨hValid, by
      rw [List.length_append]
      exact Nat.lt_add_right _ hIn⟩
  maxFd := h.maxFd
  masterR := h.masterR
  masterW := h.masterW

/- An item is written, with the bits of its interest. -/
theorem put
    (h : Tabled T sel)
    (hLt : n < 1024)
    (hIn : n < T.fds.length)
    (interest : Interest)
    (attached : Attachment) :
    Tabled
      { fds := T.fds.set n ⟨n, interest, some attached⟩
        maxFd := if (n : Int) > T.maxFd then n else T.maxFd
        masterR := Function.update T.masterR n interest.read
        masterW :=
          Function.update T.masterW n interest.write }
      (sel.put n ⟨interest, attached⟩) where
  size := by
    rw [List.length_set]
    exact h.size
  items := by
    intro i item hItem
    dsimp only at hItem
    by_cases hEq : i = n
    · subst hEq
      rw [List.getElem?_set_self hIn] at hItem
      rw [← Option.some.inj hItem, Selector.put_fds_self]
      exact .used attached rfl rfl
    · rw [List.getElem?_set_ne (Ne.symm hEq)] at hItem
      rw [Selector.put_fds_of_ne _ (by exact_mod_cast hEq)]
      exact h.items i item hItem
  inside := by
    intro fd slot hSlot
    rw [List.length_set]
    by_cases hEq : fd = n
    · rw [hEq, Int.toNat_natCast]
      exact ⟨validFd_iff.mpr ⟨n, rfl, hLt⟩, hIn⟩
    · rw [Selector.put_fds_of_ne _ hEq] at hSlot
      exact h.inside fd slot hSlot
  maxFd := by
    dsimp only
    rw [h.maxFd, Selector.maxFd_put sel hLt]
    split
    · rename_i hGt
      rw [max_eq_right (by omega)]
    · rw [max_eq_left (by omega)]
  masterR := by
    intro fd
    dsimp only
    by_cases hEq : fd = n
    · rw [hEq, Function.update_self, Selector.put_fds_self]
      rfl
    · rw [Function.update_of_ne hEq,
        Selector.put_fds_of_ne _ hEq]
      exact h.masterR fd
  masterW := by
    intro fd
    dsimp only
    by_cases hEq : fd = n
    · rw [hEq, Function.update_self, Selector.put_fds_self]
      rfl
    · rw [Function.update_of_ne hEq,
        Selector.put_fds_of_ne _ hEq]
      exact h.masterW fd

/- Which items are left when one is marked unused. -/
theorem items_clear
    (h : Tabled T sel)
    (hIn : n < T.fds.length)
    {i : Nat}
    {item : TableItem}
    (hItem : (T.fds.set n TableItem.zeroed.init)[i]? =
      some item) : item.Stands i ((sel.clear n).fds i) := by
  by_cases hEq : i = n
  · subst hEq
    rw [List.getElem?_set_self hIn] at hItem
    rw [← Option.some.inj hItem, Selector.clear_fds_self]
    exact .unused rfl
  · rw [List.getElem?_set_ne (Ne.symm hEq)] at hItem
    rw [Selector.clear_fds_of_ne (by exact_mod_cast hEq)]
    exact h.items i item hItem

/- The loop of `items_max_fd` stays within the array. -/
theorem maxFd_clear
    (h : Tabled T sel)
    (hIn : n < T.fds.length) :
    FdSelector.maxFdLoop
        (T.fds.set n TableItem.zeroed.init)
        (T.maxFd + 1).toNat 0 0 =
      some ((sel.clear n).maxFd : Int) := by
  have hOld := sel.maxFd_greatest
  have hInside : sel.maxFd < T.fds.length := by
    rcases hOld.2 with hZero | hUse
    · rw [hZero]
      exact Nat.zero_lt_of_lt hIn
    · rcases Option.isSome_iff_exists.mp hUse.2 with
        ⟨slot, hSlot⟩
      have hLt := (h.inside _ slot hSlot).2
      rwa [Int.toNat_natCast] at hLt
  have hTurns : (T.maxFd + 1).toNat = sel.maxFd + 1 := by
    rw [h.maxFd]
    rfl
  rcases FdSelector.maxFdLoop_eq
    (T.fds.set n TableItem.zeroed.init) (sel.maxFd + 1) 0 0
    (by rw [List.length_set, Nat.zero_add]; exact hInside)
    with ⟨m, hLoop, hNonneg, hAll, hSome⟩
  rcases Int.eq_ofNat_of_zero_le hNonneg with ⟨k, rfl⟩
  have hLeft : ∀ j, (sel.clear n).InUse j → j ≤ k := by
    rintro j ⟨hLt, hUse⟩
    have hNe : j ≠ n := by
      intro hEq
      rw [hEq, Selector.clear_fds_self] at hUse
      cases hUse
    rw [Selector.clear_fds_of_ne (by exact_mod_cast hNe)]
      at hUse
    rcases Option.isSome_iff_exists.mp hUse with
      ⟨slot, hSlot⟩
    have hJ := (h.inside _ slot hSlot).2
    rw [Int.toNat_natCast] at hJ
    have hItem := List.getElem?_eq_getElem hJ
    generalize T.fds[j] = item at hItem
    have hLe := hOld.1 j ⟨hLt, hUse⟩
    rcases h.slot hItem with
      ⟨_, hNone⟩ | ⟨_, hUsed, hFd, _⟩
    · rw [hSlot] at hNone
      cases hNone
    · have hMost := hAll j item (Nat.zero_le j) (by omega)
        (by rw [List.getElem?_set_ne (Ne.symm hNe)]
            exact hItem) hUsed
      rw [hFd] at hMost
      exact Int.ofNat_le.mp hMost
  have hGreatest : Greatest (sel.clear n).InUse k := by
    refine ⟨hLeft, ?_⟩
    rcases hSome with hZero | ⟨j, item, _, hTo, hItem, hUsed,
      hFd⟩
    · exact Or.inl (Int.ofNat_eq_zero.mp hZero)
    · have hStands := h.items_clear hIn hItem
      generalize hSlot : (sel.clear n).fds j = slot at hStands
      cases hStands with
      | unused hUnused =>
          rw [TableItem.used_eq_false hUnused] at hUsed
          cases hUsed
      | used attached hIndex hHandler =>
          have hEq : j = k :=
            Int.ofNat_inj.mp (hIndex.symm.trans hFd)
          rw [← hEq]
          refine Or.inr ⟨?_, by rw [hSlot]; rfl⟩
          have hLe := hOld.2
          rcases hLe with hZero | hUse
          · omega
          · exact Nat.lt_of_le_of_lt (by omega) hUse.1
  rw [hTurns, hLoop,
    (sel.clear n).maxFd_greatest.unique hGreatest]

/- An item is released, with its bits. -/
theorem clear
    (h : Tabled T sel)
    (hIn : n < T.fds.length) :
    Tabled
      { fds := T.fds.set n TableItem.zeroed.init
        maxFd := (sel.clear n).maxFd
        masterR := Function.update T.masterR n false
        masterW := Function.update T.masterW n false }
      (sel.clear n) where
  size := by
    rw [List.length_set]
    exact h.size
  items := fun i item hItem => h.items_clear hIn hItem
  inside := by
    intro fd slot hSlot
    rw [List.length_set]
    by_cases hEq : fd = n
    · rw [hEq, Selector.clear_fds_self] at hSlot
      cases hSlot
    · rw [Selector.clear_fds_of_ne hEq] at hSlot
      exact h.inside fd slot hSlot
  maxFd := rfl
  masterR := by
    intro fd
    dsimp only
    by_cases hEq : fd = n
    · rw [hEq, Function.update_self, Selector.clear_fds_self]
      rfl
    · rw [Function.update_of_ne hEq,
        Selector.clear_fds_of_ne hEq]
      exact h.masterR fd
  masterW := by
    intro fd
    dsimp only
    by_cases hEq : fd = n
    · rw [hEq, Function.update_self, Selector.clear_fds_self]
      rfl
    · rw [Function.update_of_ne hEq,
        Selector.clear_fds_of_ne hEq]
      exact h.masterW fd

end Tabled

end Tables

end Socks5d

------------------------------------------------------------
-- Operations
------------------------------------------------------------

namespace Socks5d

/-
  What the program asks a selector. A new item finds whatever
  `realloc` has left in the memory, if the array has to grow.
-/
inductive SelectorOp where
  | register
      (fd : Fd)
      (handler : Option Attachment)
      (interest : Interest)
      (junk : Nat → TableItem)
  | unregister (fd : Fd)
  | setInterest (fd : Fd) (interest : Interest)

/- The status, and whose `handle_close` is called. -/
structure SelectorAnswer where
  status : SelectorStatus
  closing : Option ConnId := none
deriving DecidableEq

/- The operations on the array -/
def selectorTable :
    Component FdSelector SelectorOp SelectorAnswer where
  step s
    | .register fd handler interest junk =>
        (s.register fd handler interest { junk }).map
          fun r => (r.1, ⟨r.2, none⟩)
    | .unregister fd =>
        (s.unregister fd).map
          fun r => (r.1, ⟨r.2.1, r.2.2⟩)
    | .setInterest fd interest =>
        (s.setInterest fd interest).map
          fun r => (r.1, ⟨r.2, none⟩)

theorem selectorTable_register
    (T : FdSelector)
    (fd : Fd)
    (handler : Option Attachment)
    (interest : Interest)
    (junk : Nat → TableItem) :
    selectorTable.step T
        (.register fd handler interest junk) =
      (T.register fd handler interest { junk }).map
        fun r => (r.1, ⟨r.2, none⟩) := rfl

theorem selectorTable_unregister
    (T : FdSelector)
    (fd : Fd) :
    selectorTable.step T (.unregister fd) =
      (T.unregister fd).map
        fun r => (r.1, ⟨r.2.1, r.2.2⟩) := rfl

/- The operations on the slots, which all have an answer -/
def selectorSlots :
    Component Selector SelectorOp SelectorAnswer where
  step sel
    | .register fd handler interest _ =>
        match handler with
        | none => some (sel, ⟨.iargs, none⟩)
        | some attached =>
            if validFd fd then
              let r := sel.register fd interest attached
              some (r.1,
                ⟨if r.2 then .success else .fdinuse, none⟩)
            else
              some (sel, ⟨.iargs, none⟩)
    | .unregister fd =>
        match sel.registered? fd with
        | none => some (sel, ⟨.iargs, none⟩)
        | some item =>
            some (sel.clear fd,
              ⟨.success, item.attached.data?⟩)
    | .setInterest fd interest =>
        let r := sel.setInterest fd interest
        some (r.1,
          ⟨if r.2 then .success else .iargs, none⟩)

/-
  The operations that read an item beyond the array: the
  element at `fd_size` is registered without growing, and the
  others never look at the size.
-/
def SelectorOp.Outside
    (op : SelectorOp)
    (size : Nat) : Prop :=
  match op with
  | .register fd handler _ _ =>
      validFd fd = true ∧ handler ≠ none ∧ fd.toNat = size
  | .unregister fd => validFd fd = true ∧ size ≤ fd.toNat
  | .setInterest fd _ => validFd fd = true ∧ size ≤ fd.toNat

section Operations

variable {T : FdSelector}
variable {sel : Selector}
variable {n : Nat}
variable {fd : Fd}
variable {interest : Interest}
variable {attached : Attachment}

/-
  An operation answers as the slots do, and leaves a table of
  theirs that is no smaller.
-/
def FdSelector.Answers
    (T : FdSelector)
    (sel : Selector)
    (op : SelectorOp) : Prop :=
  ∃ T' sel' out, selectorTable.step T op = some (T', out) ∧
    selectorSlots.step sel op = some (sel', out) ∧
    Tabled T' sel' ∧ T.fds.length ≤ T'.fds.length

namespace Tabled

/- The table after `ensure_capacity`, where there is memory. -/
theorem ensured
    (h : Tabled T sel)
    (hLt : n < 1024)
    (hBelow : T.fds.length < n)
    (junk : Nat → TableItem) :
    ∃ T', T.ensureCapacity n { junk } = (T', .success) ∧
      Tabled T' sel ∧ n < T'.fds.length ∧
      T.fds.length ≤ T'.fds.length := by
  have hMost : n ≤ itemsMaxSize := Nat.le_of_lt hLt
  rcases T.ensureCapacity_grows hMost (Nat.le_of_lt hBelow)
    (show Memory.granted { junk } = true from rfl) with
    ⟨added, hEq, hUnused, hSize⟩
  rcases nextCapacity_bounds hMost with ⟨hGt, hLe⟩
  refine ⟨_, hEq, h.grow added hUnused (hSize ▸ hLe), ?_,
    ?_⟩
  · exact hSize ▸ hGt
  · rw [List.length_append]
    exact Nat.le_add_right _ _

/- A descriptor whose item is there is registered. -/
theorem registers
    (h : Tabled T sel)
    (hLt : n < 1024)
    (hIn : n < T.fds.length)
    (interest : Interest)
    (attached : Attachment)
    (junk : Nat → TableItem) :
    T.Answers sel
      (.register n (some attached) interest junk) := by
  have hValid : validFd n = true :=
    validFd_iff.mpr ⟨n, rfl, hLt⟩
  have hNoGrow : ¬ T.fds.length < n := Nat.not_lt.mpr
    (Nat.le_of_lt hIn)
  have hItem := List.getElem?_eq_getElem hIn
  generalize T.fds[n] = item at hItem
  unfold FdSelector.Answers selectorTable selectorSlots
    FdSelector.register
  simp only [hValid, hNoGrow, hItem, Int.toNat_natCast,
    not_true_eq_false, reduceCtorEq, or_self, if_false,
    if_true, ne_eq, Selector.register_eq]
  rcases h.slot hItem with
    ⟨hFree, hNone⟩ | ⟨old, hUsed, _, _, hSome⟩
  · have hCan : sel.canRegister n = true :=
      Selector.canRegister_iff.mpr ⟨hValid, hNone⟩
    simp only [hFree, hCan, Bool.false_eq_true, if_false,
      if_true]
    rw [FdSelector.updateFdset_eq _ hLt rfl]
    refine ⟨_, _, _, rfl, rfl,
      h.put hLt hIn interest attached, ?_⟩
    exact Nat.le_of_eq (List.length_set ..).symm
  · have hCan : sel.canRegister n = false := by
      simp [Selector.canRegister, hSome]
    simp only [hUsed, hCan, Bool.false_eq_true, if_false,
      if_true]
    exact ⟨_, _, _, rfl, rfl, h, Nat.le_refl _⟩

/- A descriptor is released, if its item is there. -/
theorem unregisters
    (h : Tabled T sel)
    (hLt : n < 1024)
    (hIn : n < T.fds.length) :
    T.Answers sel (.unregister n) := by
  have hValid : validFd n = true :=
    validFd_iff.mpr ⟨n, rfl, hLt⟩
  have hItem := List.getElem?_eq_getElem hIn
  generalize T.fds[n] = item at hItem
  unfold FdSelector.Answers selectorTable selectorSlots
    FdSelector.unregister Selector.registered?
  simp only [hValid, hItem, Int.toNat_natCast,
    not_true_eq_false, if_false, if_true]
  rcases h.slot hItem with ⟨hFree, hNone⟩ |
    ⟨attached, hUsed, hFd, hHandler, hSome⟩
  · simp only [hFree, hNone, Bool.false_eq_true,
      not_false_eq_true, if_true]
    exact ⟨_, _, _, rfl, rfl, h, Nat.le_refl _⟩
  · rcases item with ⟨fd, old, handler⟩
    subst hFd hHandler
    simp only [hUsed, hSome, not_true_eq_false, if_false,
      Option.bind_some]
    rw [FdSelector.updateFdset_eq _ hLt rfl]
    simp only [Option.bind_some, FdSelector.itemsMaxFd,
      h.maxFd_clear hIn, Option.map_some]
    refine ⟨_, _, _, rfl, rfl, h.clear hIn, ?_⟩
    exact Nat.le_of_eq (List.length_set ..).symm

/- The interest of an item is changed, if it is there. -/
theorem setsInterest
    (h : Tabled T sel)
    (hLt : n < 1024)
    (hIn : n < T.fds.length)
    (interest : Interest) :
    T.Answers sel (.setInterest n interest) := by
  have hValid : validFd n = true :=
    validFd_iff.mpr ⟨n, rfl, hLt⟩
  have hItem := List.getElem?_eq_getElem hIn
  generalize T.fds[n] = item at hItem
  unfold FdSelector.Answers selectorTable selectorSlots
    FdSelector.setInterest
  simp only [hValid, hItem, Int.toNat_natCast,
    not_true_eq_false, if_false]
  rcases h.slot hItem with ⟨hFree, hNone⟩ |
    ⟨attached, hUsed, hFd, hHandler, hSome⟩
  · have hSame : sel.setInterest n interest =
        (sel, false) := by
      unfold Selector.setInterest
      rw [if_pos hValid, hNone]
    simp only [hFree, hSame, Bool.false_eq_true,
      not_false_eq_true, if_true, if_false]
    exact ⟨_, _, _, rfl, rfl, h, Nat.le_refl _⟩
  · have hHas : sel.Has n item.interest attached :=
      ⟨hValid, hSome⟩
    rcases item with ⟨fd, old, handler⟩
    subst hFd hHandler
    simp only [hUsed, hHas.setInterest, not_true_eq_false,
      if_false, if_true]
    rw [FdSelector.updateFdset_eq _ hLt rfl]
    have hPut := h.put hLt hIn interest attached
    -- the maximum is where it was
    have hMax : (if (n : Int) > T.maxFd then (n : Int)
        else T.maxFd) = T.maxFd := by
      have hLe := sel.maxFd_greatest.1 n
        ⟨hLt, by rw [hSome]; rfl⟩
      rw [h.maxFd, if_neg (by omega)]
    rw [hMax] at hPut
    refine ⟨_, _, _, rfl, rfl, hPut, ?_⟩
    exact Nat.le_of_eq (List.length_set ..).symm

/-
  Every operation answers as the slots do, unless it reads an
  item beyond the array.
-/
theorem answers
    (h : Tabled T sel)
    (op : SelectorOp)
    (hInside : ¬ op.Outside T.fds.length) :
    T.Answers sel op := by
  cases op with
  | register fd handler interest junk =>
      cases handler with
      | none =>
          refine ⟨T, sel, ⟨.iargs, none⟩, ?_, rfl, h,
            Nat.le_refl _⟩
          show Option.map _ (T.register fd none interest _) = _
          unfold FdSelector.register
          rw [if_pos (Or.inr rfl)]
          rfl
      | some attached =>
          by_cases hValid : validFd fd = true
          · rcases validFd_iff.mp hValid with ⟨n, rfl, hLt⟩
            have hOther : n ≠ T.fds.length := fun hEq =>
              hInside ⟨hValid, nofun, by
                rw [Int.toNat_natCast]
                exact hEq⟩
            by_cases hBelow : T.fds.length < n
            · rcases h.ensured hLt hBelow junk with
                ⟨T', hEq, hTabled, hIn, hLe⟩
              rcases hTabled.registers hLt hIn interest
                attached junk with
                ⟨T'', sel', out, hStep, hSlots, hAfter, hMore⟩
              refine ⟨T'', sel', out, ?_, hSlots, hAfter,
                Nat.le_trans hLe hMore⟩
              have hNoGrow : ¬ T'.fds.length < n :=
                Nat.not_lt.mpr (Nat.le_of_lt hIn)
              have hSame : T.register n (some attached)
                  interest { junk } =
                  T'.register n (some attached) interest
                    { junk } := by
                unfold FdSelector.register
                simp only [hEq, hNoGrow, hBelow, hValid,
                  if_true, if_false, Int.toNat_natCast,
                  not_true_eq_false, reduceCtorEq, or_self]
              rw [selectorTable_register, hSame,
                ← selectorTable_register]
              exact hStep
            · exact h.registers hLt (by omega) interest
                attached junk
          · refine ⟨T, sel, ⟨.iargs, none⟩, ?_, ?_, h,
              Nat.le_refl _⟩
            · unfold selectorTable FdSelector.register
              simp [hValid]
            · unfold selectorSlots
              simp [hValid]
  | unregister fd =>
      by_cases hValid : validFd fd = true
      · rcases validFd_iff.mp hValid with ⟨n, rfl, hLt⟩
        refine h.unregisters hLt (Nat.lt_of_not_le ?_)
        intro hOut
        exact hInside ⟨hValid, hOut⟩
      · refine ⟨T, sel, ⟨.iargs, none⟩, ?_, ?_, h,
          Nat.le_refl _⟩
        · unfold selectorTable FdSelector.unregister
          simp [hValid]
        · unfold selectorSlots Selector.registered?
          simp [hValid]
  | setInterest fd interest =>
      by_cases hValid : validFd fd = true
      · rcases validFd_iff.mp hValid with ⟨n, rfl, hLt⟩
        refine h.setsInterest hLt (Nat.lt_of_not_le ?_)
          interest
        intro hOut
        exact hInside ⟨hValid, hOut⟩
      · refine ⟨T, sel, ⟨.iargs, none⟩, ?_, ?_, h,
          Nat.le_refl _⟩
        · unfold selectorTable FdSelector.setInterest
          simp [hValid]
        · unfold selectorSlots Selector.setInterest
          simp [hValid]

/- What is beyond the array has no answer. -/
theorem outside_iff
    (h : Tabled T sel)
    (op : SelectorOp) :
    selectorTable.step T op = none ↔
      op.Outside T.fds.length := by
  constructor
  · intro hNone
    by_contra hInside
    rcases h.answers op hInside with ⟨T', sel', out, hSome, _⟩
    rw [hNone] at hSome
    cases hSome
  · intro hOutside
    cases op with
    | register fd handler interest junk =>
        rcases hOutside with ⟨hValid, hHandler, hEnd⟩
        have hItem : T.fds[T.fds.length]? = none :=
          List.getElem?_eq_none (Nat.le_refl _)
        rw [selectorTable_register]
        unfold FdSelector.register
        simp only [hValid, hHandler, hEnd, hItem,
          Nat.lt_irrefl, not_true_eq_false, or_self, ne_eq,
          if_false, Option.map_none]
    | unregister fd =>
        rcases hOutside with ⟨hValid, hEnd⟩
        have hItem := List.getElem?_eq_none hEnd
        unfold selectorTable FdSelector.unregister
        simp only [hValid, hItem, not_true_eq_false, if_false,
          Option.map_none]
    | setInterest fd interest =>
        rcases hOutside with ⟨hValid, hEnd⟩
        have hItem := List.getElem?_eq_none hEnd
        unfold selectorTable FdSelector.setInterest
        simp only [hValid, hItem, not_true_eq_false, if_false,
          Option.map_none]

end Tabled

/- The array does what the slots do, or leaves its bounds. -/
theorem table_refines :
    selectorTable.Refines selectorSlots Tabled := by
  intro T sel op T' out hTabled hStep
  have hInside : ¬ op.Outside T.fds.length := by
    intro hOutside
    rw [(hTabled.outside_iff op).mpr hOutside] at hStep
    cases hStep
  rcases hTabled.answers op hInside with
    ⟨T'', sel', out', hSame, hSlots, hAfter, _⟩
  rw [hStep] at hSame
  cases hSame
  exact ⟨sel', hSlots, hAfter⟩

/- The greatest array is never left. -/
theorem SelectorOp.inside_all
    (op : SelectorOp) : ¬ op.Outside 1025 := by
  have hValid : ∀ fd, validFd fd = true →
      fd.toNat < 1024 := by
    intro fd hFd
    rcases validFd_iff.mp hFd with ⟨n, rfl, hLt⟩
    rwa [Int.toNat_natCast]
  intro hOutside
  cases op with
  | register fd handler interest junk =>
      have hLt := hValid fd hOutside.1
      rw [hOutside.2.2] at hLt
      exact absurd hLt (by decide)
  | unregister fd =>
      exact absurd (Nat.lt_of_le_of_lt hOutside.2
        (hValid fd hOutside.1)) (by decide)
  | setInterest fd interest =>
      exact absurd (Nat.lt_of_le_of_lt hOutside.2
        (hValid fd hOutside.1)) (by decide)

theorem table_realizes :
    selectorTable.Realizes selectorSlots fun T sel =>
      Tabled T sel ∧ T.fds.length = 1025 := by
  rintro T sel op sel' out ⟨hTabled, hSize⟩ hSlots
  have hInside : ¬ op.Outside T.fds.length :=
    hSize ▸ op.inside_all
  rcases hTabled.answers op hInside with
    ⟨T', sel'', out', hStep, hSame, hAfter, hLe⟩
  rw [hSlots] at hSame
  cases hSame
  exact ⟨T', hStep, hAfter,
    Nat.le_antisymm hAfter.size (hSize ▸ hLe)⟩

/- The slots have an answer to everything. -/
theorem selectorSlots_total
    (sel : Selector)
    (op : SelectorOp) :
    ∃ r, selectorSlots.step sel op = some r := by
  unfold selectorSlots
  dsimp only
  repeat' split
  all_goals exact ⟨_, rfl⟩

end Operations

end Socks5d

------------------------------------------------------------
-- From The First Allocation On
------------------------------------------------------------

namespace Socks5d

/- No slot is in use. -/
def Selector.unused
    (opened : Fd → Option Holder) : Selector where
  fds := fun _ => none
  opened := opened

section Creating

variable {n : Nat}
variable {T : FdSelector}
variable {sel : Selector}

theorem Selector.unused_maxFd
    (opened : Fd → Option Holder) :
    (Selector.unused opened).maxFd = 0 :=
  (Selector.unused opened).maxFd_greatest.unique
    ⟨fun _ hUse => (nomatch hUse.2), Or.inl rfl⟩

theorem FdSelector.zeroed_tabled
    (opened : Fd → Option Holder) :
    Tabled .zeroed (Selector.unused opened) where
  size := Nat.zero_le _
  items := fun _ _ hItem => nomatch hItem
  inside := fun _ _ hSlot => nomatch hSlot
  maxFd := by
    rw [Selector.unused_maxFd]
    rfl
  masterR := fun _ => rfl
  masterW := fun _ => rfl

/- `selector_new` gives an empty table with a known size. -/
theorem selectorNew_tabled
    (hLe : n ≤ 1024)
    (opened : Fd → Option Holder) :
    ∃ T, selectorNew n {} = some T ∧
      Tabled T (Selector.unused opened) ∧
      T.fds.length = nextCapacity n := by
  rcases FdSelector.zeroed.ensureCapacity_grows hLe
    (Nat.zero_le n) (show Memory.granted {} = true from rfl)
    with
    ⟨added, hEq, hUnused, hSize⟩
  unfold selectorNew
  simp only [hEq, if_true]
  refine ⟨_, rfl, ?_, hSize⟩
  exact (FdSelector.zeroed_tabled opened).grow added hUnused
    (hSize ▸ (nextCapacity_bounds hLe).2)

/-
  Whatever is asked of a new selector: as long as no item
  beyond the array is read, the array answers as the slots do;
  which operations read beyond it is known; and an array for
  512 elements or more, as `main` asks for, is never left.
-/
theorem selector_table
    (n : Nat)
    (hLe : n ≤ 1024)
    (opened : Fd → Option Holder) :
    ∃ T, selectorNew n {} = some T ∧
      (∀ ops T' outs,
        selectorTable.run ops T = some (T', outs) →
          (∃ sel', selectorSlots.run ops
              (Selector.unused opened) = some (sel', outs) ∧
            Tabled T' sel') ∧
          ∀ op, selectorTable.step T' op = none ↔
            op.Outside T'.fds.length) ∧
      (512 ≤ n → ∀ ops, ∃ T' outs,
        selectorTable.run ops T = some (T', outs)) := by
  rcases selectorNew_tabled hLe opened with
    ⟨T, hNew, hTabled, hSize⟩
  refine ⟨T, hNew, ?_, ?_⟩
  · intro ops T' outs hRun
    rcases table_refines.run hTabled hRun with
      ⟨sel', hSlots, hAfter⟩
    exact ⟨⟨sel', hSlots, hAfter⟩, hAfter.outside_iff⟩
  · intro hMany ops
    have hAll : T.fds.length = 1025 :=
      hSize.trans (nextCapacity_all hLe hMany)
    rcases Component.run_total selectorSlots_total ops
      (Selector.unused opened) with ⟨⟨sel', outs⟩, hSlots⟩
    rcases table_realizes.run ⟨hTabled, hAll⟩ hSlots with
      ⟨T', hRun, _⟩
    exact ⟨T', outs, hRun⟩

end Creating

/- The selector of `main` -/
theorem selector_table_main :
    ∃ T, selectorNew 1024 {} = some T ∧
      (∀ ops T' outs,
        selectorTable.run ops T = some (T', outs) →
          (∃ sel', selectorSlots.run ops
              (Selector.unused fun _ => none) =
                some (sel', outs) ∧
            Tabled T' sel') ∧
          ∀ op, selectorTable.step T' op = none ↔
            op.Outside T'.fds.length) ∧
      (512 ≤ 1024 → ∀ ops, ∃ T' outs,
        selectorTable.run ops T = some (T', outs)) :=
  selector_table 1024 (Nat.le_refl _) fun _ => none

end Socks5d

------------------------------------------------------------
-- Select And Destroy
------------------------------------------------------------

namespace Socks5d

/- The loop of `selector_destroy` -/
def FdSelector.destroyLoop :
    Nat → Nat → FdSelector →
      Option (FdSelector × List (Option ConnId))
| 0, _, s => some (s, [])
| turns + 1, i, s =>
    match s.fds[i]? with
    | none => none
    | some item =>
        if item.used then
          (s.unregister i).bind fun r =>
            (destroyLoop turns (i + 1) r.1).map fun u =>
              (u.1, r.2.2 :: u.2)
        else
          destroyLoop turns (i + 1) s

/-
  `selector_destroy` up to freeing the array, with whom
  `handle_close` is called for
-/
def selectorDestroy
    (s : FdSelector) :
    Option (FdSelector × List (Option ConnId)) :=
  s.destroyLoop s.fds.length 0

/- The data of the slots from one descriptor on -/
def Selector.dataFrom
    (sel : Selector)
    (i turns : Nat) : List (Option ConnId) :=
  (List.range' i turns).filterMap fun j : Nat =>
    (sel.fds j).map fun item => item.attached.data?

section Ending

variable {T : FdSelector}
variable {sel : Selector}

/-
  `select` reports some of what the sets ask for, and with
  them what the slots ask for, up to the same descriptor.
-/
theorem Tabled.reported
    {w : World}
    (h : Tabled T w.srv.sel)
    {ready : Ready}
    (hRead : ∀ fd, ready.read fd = true →
      T.masterR fd = true)
    (hWrite : ∀ fd, ready.write fd = true →
      T.masterW fd = true) :
    Reported w ready ∧ T.maxFd = w.srv.sel.maxFd := by
  have hBits : ∀ (fd : Fd) (bit : Item → Bool),
      (w.srv.sel.fds fd).any bit = true →
        ∃ item, w.srv.sel.fds fd = some item ∧
          bit item = true := by
    intro fd bit hAny
    cases hItem : w.srv.sel.fds fd with
    | none =>
        rw [hItem] at hAny
        cases hAny
    | some item =>
        rw [hItem] at hAny
        exact ⟨item, rfl, hAny⟩
  refine ⟨⟨?_, ?_⟩, h.maxFd⟩
  · intro fd hReady
    have hBit := hRead fd hReady
    rw [h.masterR] at hBit
    exact hBits fd (fun item => item.interest.read) hBit
  · intro fd hReady
    have hBit := hWrite fd hReady
    rw [h.masterW] at hBit
    exact hBits fd (fun item => item.interest.write) hBit

/- What is released does not change the data further up. -/
theorem Selector.dataFrom_clear
    (sel : Selector)
    {n i : Nat}
    (hLt : n < i)
    (turns : Nat) :
    (sel.clear n).dataFrom i turns = sel.dataFrom i turns := by
  apply List.filterMap_congr
  intro j hJ
  have hGe := (List.mem_range'_1.mp hJ).1
  rw [Selector.clear_fds_of_ne (by
    have hNe : j ≠ n := by omega
    exact_mod_cast hNe)]

/- By induction on the items that are left. -/
theorem Tabled.destroyLoop
    (h : Tabled T sel)
    (turns i : Nat)
    (hIn : i + turns ≤ T.fds.length) :
    ∃ T' sel', T.destroyLoop turns i =
        some (T', sel.dataFrom i turns) ∧
      Tabled T' sel' ∧
      ∀ n : Nat, sel'.fds n =
        if i ≤ n ∧ n < i + turns then none
        else sel.fds n := by
  induction turns generalizing T sel i with
  | zero =>
      refine ⟨T, sel, rfl, h, fun n => ?_⟩
      rw [if_neg (by omega)]
  | succ turns ih =>
      have hHere : i < T.fds.length := by omega
      have hItem := List.getElem?_eq_getElem hHere
      generalize T.fds[i] = item at hItem
      have hCons : sel.dataFrom i (turns + 1) =
          ((sel.fds i).map fun item =>
            item.attached.data?).toList ++
              sel.dataFrom (i + 1) turns := by
        unfold Selector.dataFrom
        rw [List.range'_succ]
        cases hSlot : sel.fds i with
        | none => simp [hSlot]
        | some slot => simp [hSlot]
      unfold FdSelector.destroyLoop
      rw [hCons]
      simp only [hItem]
      rcases h.slot hItem with ⟨hFree, hNone⟩ |
        ⟨attached, hUsed, hFd, hHandler, hSome⟩
      · rcases ih h (i + 1) (by omega) with
          ⟨T', sel', hLoop, hAfter, hSlots⟩
        refine ⟨T', sel', ?_, hAfter, fun n => ?_⟩
        · simp only [hFree, hNone, Bool.false_eq_true,
            if_false, hLoop, Option.map_none,
            Option.toList_none, List.nil_append]
        · rw [hSlots]
          by_cases hEq : n = i
          · subst hEq
            rw [hNone]
            simp
          · exact if_congr (by omega) rfl rfl
      · have hLt : i < 1024 := by
          rcases validFd_iff.mp (h.inside _ _ hSome).1 with
            ⟨m, hM, hM'⟩
          rw [Int.ofNat_inj.mp hM]
          exact hM'
        rcases h.unregisters hLt hHere with
          ⟨mid, below, out, hStep, hClear, hMid, hLe⟩
        rw [selectorTable_unregister] at hStep
        rcases Option.map_eq_some_iff.mp hStep with
          ⟨r, hUnregister, hR⟩
        have hValid := (h.inside _ _ hSome).1
        have hBelow : (sel.clear i, (⟨.success,
            attached.data?⟩ : SelectorAnswer)) =
              (below, out) := by
          apply Option.some.inj
          rw [← hClear]
          unfold selectorSlots Selector.registered?
          simp only [hValid, hSome, if_true]
        rcases Prod.mk.inj hR with ⟨rfl, hOut⟩
        rcases Prod.mk.inj hBelow with ⟨rfl, rfl⟩
        have hData : r.2.2 = attached.data? :=
          congrArg SelectorAnswer.closing hOut
        rcases ih hMid (i + 1) (by omega) with
          ⟨T', sel', hLoop, hAfter, hSlots⟩
        rw [sel.dataFrom_clear (Nat.lt_succ_self i)] at hLoop
        refine ⟨T', sel', ?_, hAfter, fun n => ?_⟩
        · simp only [hUsed, hSome, if_true, hUnregister,
            Option.bind_some, hLoop, Option.map_some,
            Option.toList_some, List.singleton_append, hData]
        · rw [hSlots]
          by_cases hEq : n = i
          · subst hEq
            rw [Selector.clear_fds_self]
            simp
          · rw [Selector.clear_fds_of_ne
              (by exact_mod_cast hEq)]
            exact if_congr (by omega) rfl rfl

/-
  `selector_destroy` stays within the array, calls
  `handle_close` once for each slot in use, in their order,
  and leaves none in use.
-/
theorem selector_destroy_closes
    (h : Tabled T sel) :
    ∃ T', selectorDestroy T =
        some (T', sel.dataFrom 0 T.fds.length) ∧
      Tabled T' (Selector.unused sel.opened) := by
  rcases h.destroyLoop T.fds.length 0 (by omega) with
    ⟨T', sel', hLoop, hAfter, hSlots⟩
  refine ⟨T', hLoop, hAfter.of_fds ?_⟩
  funext fd
  cases hSlot : sel'.fds fd with
  | none => rfl
  | some item =>
      rcases validFd_iff.mp (hAfter.inside fd item hSlot).1
        with ⟨n, rfl, _⟩
      rw [hSlots n] at hSlot
      split at hSlot
      · cases hSlot
      · rename_i hOut
        have hIn := (h.inside _ _ hSlot).2
        rw [Int.toNat_natCast] at hIn
        omega

end Ending

/- A table for a few elements with one connection -/
def smallTable : FdSelector where
  fds := (List.replicate 9 TableItem.zeroed.init).set 5
    ⟨5, opRead, some (.socks 7)⟩
  maxFd := 5
  masterR := Function.update (fun _ => false) 5 true
  masterW := Function.update (fun _ => false) 5 false

def smallSlots : Selector :=
  (Selector.unused fun _ => none).put 5 ⟨opRead, .socks 7⟩

theorem smallTable_tabled : Tabled smallTable smallSlots := by
  have hNew := (FdSelector.zeroed_tabled fun _ => none).grow
    (List.replicate 9 TableItem.zeroed.init)
    (fun item hItem => by
      rw [List.eq_of_mem_replicate hItem]
      rfl) (by decide)
  exact hNew.put (n := 5) (by decide) (by decide) opRead
    (.socks 7)

theorem smallTable_closes :
    ∃ T', selectorDestroy smallTable =
        some (T', smallSlots.dataFrom 0
          smallTable.fds.length) ∧
      Tabled T' (Selector.unused smallSlots.opened) :=
  selector_destroy_closes smallTable_tabled

example : smallSlots.dataFrom 0 9 = [some 7] := by
  decide

end Socks5d
