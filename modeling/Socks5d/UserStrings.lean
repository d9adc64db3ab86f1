import Mathlib.Data.List.Count
import Mathlib.Data.List.Perm.Basic
import Socks5d.UserHistory

/-
  Who owns the strings of the `users` table: `addUser` stores
  copies from the heap, `-u` parts of an argument, and
  `deleteUser` passes to `free` what it finds.

  Main declarations:
    * `Origin`, `StringTable`
    * `StringTable.passed`, `ReleasesOwn`
    * `StringTable.deleteUser_view`
    * `Accounts`, `run_accounts`
    * `releases_own_iff`
-/

------------------------------------------------------------
-- The Table With Its Pointers
------------------------------------------------------------

namespace Socks5d

/-
  What a pointer of the table points to: a heap copy, numbered
  in the order of the calls of `malloc`, or an argument.
-/
inductive Origin where
  | copy (id : Nat)
  | argument
deriving DecidableEq

structure OwnedString where
  bytes : List UInt8
  origin : Origin
deriving DecidableEq

/- `struct users` -/
structure StringEntry where
  name : Option OwnedString := none
  pass : Option OwnedString := none
deriving DecidableEq

/-
  `users[MAX_USERS]` with `nusers`, the number of copies that
  were made, and the strings that were passed to `free`.
-/
structure StringTable where
  entry : Nat → StringEntry
  count : Nat
  copies : Nat
  released : List Origin

/- The strings of an entry that are not null pointers. -/
def StringEntry.origins (e : StringEntry) : List Origin :=
  [e.name, e.pass].filterMap fun s => s.map OwnedString.origin

/- `strcmp(username, users[i].name) == 0` -/
def StringEntry.named
    (username : List UInt8)
    (e : StringEntry) : Bool :=
  strcmpEq username (e.name.map OwnedString.bytes)

namespace StringTable

/- Before the arguments are parsed. -/
def empty : StringTable where
  entry _ := {}
  count := 0
  copies := 0
  released := []

/- The store at `users[nusers]`, and `nusers++`. -/
def push
    (t : StringTable)
    (name pass : OwnedString) : StringTable :=
  { t with
    entry := Function.update t.entry t.count
      { name := some name, pass := some pass }
    count := t.count + 1 }

/- `parse_args` at `-u` -/
def option
    (t : StringTable)
    (arg : List UInt8) : StringTable :=
  if t.count ≥ maxUsers then t
  else
    match user arg with
    | none => t
    | some (name, pass) =>
        t.push ⟨name, .argument⟩ ⟨pass, .argument⟩

/- `addUser` -/
def addUser
    (t : StringTable)
    (username password : List UInt8) : StringTable :=
  if t.count ≥ maxUsers then t
  else
    { t with copies := t.copies + 2 }.push
      ⟨cString username, .copy t.copies⟩
      ⟨cString password, .copy (t.copies + 1)⟩

/- The loop of `deleteUser`, with the entry that it found. -/
def search
    (t : StringTable)
    (username : List UInt8) :
    Option StringEntry × (Nat → StringEntry) :=
  EraseFirst.loop (StringEntry.named username) {} t.count
    t.entry

/- The strings that `deleteUser` passes to `free`, in order. -/
def passed
    (t : StringTable)
    (username : List UInt8) : List Origin :=
  match (t.search username).1 with
  | none => []
  | some e => e.origins

/- `deleteUser`, as if `free` took every string -/
def deleteUser
    (t : StringTable)
    (username : List UInt8) : StringTable where
  entry := (t.search username).2
  count :=
    if (t.search username).1.isSome then t.count - 1
    else t.count
  copies := t.copies
  released := t.released ++ t.passed username

/- `parse_args` and `process_mng_params_request` -/
def step
    (t : StringTable) :
    UserOp → StringTable
| .option arg => t.option arg
| .add username password =>
    if t.count = maxUsers then t
    else t.addUser username password
| .delete username => t.deleteUser username

def run (ops : List UserOp) : StringTable :=
  ops.foldl step empty

/-
  Every string that a deletion would pass to `free` is a heap
  copy that was not passed to it before.
-/
def ReleasesOwn
    (t : StringTable)
    (username : List UInt8) : Prop :=
  ∀ before s after,
    t.passed username = before ++ s :: after →
      (∃ id, s = .copy id) ∧ s ∉ t.released ++ before

end StringTable

end Socks5d

------------------------------------------------------------
-- The Ledger
------------------------------------------------------------

namespace Socks5d

def Origin.id? : Origin → Option Nat
| .copy id => some id
| .argument => none

/- The heap copies among some strings. -/
def copyIds (strings : List Origin) : List Nat :=
  strings.filterMap Origin.id?

theorem copyIds_append
    (strings others : List Origin) :
    copyIds (strings ++ others) =
      copyIds strings ++ copyIds others :=
  List.filterMap_append

/- The strings of the entries below the count. -/
def StringTable.live (t : StringTable) : List Origin :=
  (EraseFirst.front t.count t.entry).flatMap
    StringEntry.origins

/- Both strings of an entry are of the same kind. -/
inductive StringEntry.Uniform : StringEntry → Prop where
  | copies
      (name pass : List UInt8)
      (i j : Nat) :
      Uniform {
        name := some ⟨name, .copy i⟩
        pass := some ⟨pass, .copy j⟩ }
  | arguments
      (name pass : List UInt8) :
      Uniform {
        name := some ⟨name, .argument⟩
        pass := some ⟨pass, .argument⟩ }

/- The entry without its pointers. -/
def StringEntry.view (e : StringEntry) : UserEntry where
  name := e.name.map OwnedString.bytes
  pass := e.pass.map OwnedString.bytes
  held := e.origins.head?.any fun s => s.id?.isSome

def StringTable.view (t : StringTable) : UserTable where
  entry i := (t.entry i).view
  count := t.count

/-
  The table follows the list, and every copy that was made is
  either in the table or was passed to `free`, once.
-/
structure StringTable.Accounts
    (t : StringTable)
    (all : List Added) : Prop where
  holds : t.view.Holds all
  uniform : ∀ e ∈ EraseFirst.front t.count t.entry, e.Uniform
  ledger : (copyIds t.live ++ copyIds t.released).Perm
    (List.range t.copies)

section Steps

variable {t : StringTable}
variable {all : List Added}
variable {op : UserOp}
variable {name pass : OwnedString}
variable {username : List UInt8}

theorem StringTable.Accounts.empty :
    StringTable.empty.Accounts [] := by
  refine ⟨.empty, ?_, List.Perm.refl _⟩
  intro e hMem
  nomatch hMem

/- What a deletion does to the entries below the count. -/
theorem StringTable.deleteUser_front
    (t : StringTable)
    (username : List UInt8) :
    EraseFirst.front (t.deleteUser username).count
        (t.deleteUser username).entry =
      (EraseFirst.front t.count t.entry).eraseP
        (StringEntry.named username) := by
  have hLoop := EraseFirst.loop_cases
    (StringEntry.named username) {} t.entry t.count
  unfold StringTable.deleteUser StringTable.search
  dsimp only
  generalize EraseFirst.loop _ _ _ _ = looped at hLoop
  cases hLoop with
  | missing hOther =>
      symm
      apply List.eraseP_of_forall_not
      intro e hMem hBad
      nomatch (hOther e hMem).symm.trans hBad
  | erased e now hPos hIn hNamed hFound hErased hKept =>
      exact hErased

/- What it frees belongs to the first entry with the name. -/
theorem StringTable.passed_eq
    (t : StringTable)
    (username : List UInt8) :
    t.passed username =
      match (EraseFirst.front t.count t.entry).find?
        (StringEntry.named username) with
      | none => []
      | some e => e.origins := by
  have hLoop := EraseFirst.loop_cases
    (StringEntry.named username) {} t.entry t.count
  unfold StringTable.passed StringTable.search
  generalize EraseFirst.loop _ _ _ _ = looped at hLoop
  cases hLoop with
  | missing hOther =>
      have hNone : (EraseFirst.front t.count t.entry).find?
          (StringEntry.named username) = none := by
        rw [List.find?_eq_none]
        intro e hMem hBad
        nomatch (hOther e hMem).symm.trans hBad
      rw [hNone]
  | erased e now hPos hIn hNamed hFound hErased hKept =>
      rw [hFound]

/- The entry that is found has a name. -/
theorem StringEntry.held_of_named
    {e : StringEntry}
    (h : e.named username = true) :
    e.view.held =
      e.origins.head?.all fun s => s.id?.isSome := by
  rcases e with ⟨_ | name, pass⟩
  · unfold StringEntry.named strcmpEq at h
    nomatch of_decide_eq_true h
  · rfl

/-
  Without its pointers, the table is changed like the one of
  the server, which has no table any more where `free` is
  given a string of an argument.
-/
theorem StringTable.deleteUser_view
    (t : StringTable)
    (username : List UInt8) :
    Socks5d.deleteUser t.view username =
      if (t.passed username).head?.all fun s =>
          s.id?.isSome then
        some (t.deleteUser username).view
      else none := by
  have hMap := EraseFirst.loop_map StringEntry.view
    (StringEntry.named username)
    (fun entry => strcmpEq username entry.name)
    (fun _ => rfl) {} t.entry t.count
  have hLoop := EraseFirst.loop_cases
    (StringEntry.named username) {} t.entry t.count
  unfold Socks5d.deleteUser StringTable.passed
    StringTable.deleteUser StringTable.search
  rw [deleteUser_loop]
  change EraseFirst.loop _ {} t.view.count t.view.entry = _
    at hMap
  rw [hMap]
  generalize EraseFirst.loop _ _ _ _ = looped at hLoop
  cases hLoop with
  | missing hOther => rfl
  | erased e now hPos hIn hNamed hFound hErased hKept =>
      dsimp only
      rw [← StringEntry.held_of_named hNamed]
      rfl

theorem StringTable.view_front
    (t : StringTable) :
    EraseFirst.front t.view.count t.view.entry =
      (EraseFirst.front t.count t.entry).map
        StringEntry.view :=
  EraseFirst.front_map StringEntry.view t.count t.entry

/- The count is the number of entries. -/
theorem StringTable.deleteUser_count
    (t : StringTable)
    (username : List UInt8) :
    (t.deleteUser username).count ≤ t.count := by
  unfold StringTable.deleteUser
  dsimp only
  split
  · exact Nat.sub_le _ _
  · exact Nat.le_refl _

/- A deletion moves two copies out of the table, or none. -/
theorem StringTable.deleteUser_ledger
    (t : StringTable)
    (username : List UInt8) :
    (copyIds (t.deleteUser username).live ++
        copyIds (t.deleteUser username).released).Perm
      (copyIds t.live ++ copyIds t.released) := by
  have hReleased : (t.deleteUser username).released =
      t.released ++ t.passed username := rfl
  have hFront := t.deleteUser_front username
  unfold StringTable.live
  rw [hReleased, t.passed_eq, hFront, copyIds_append]
  cases hFound : (EraseFirst.front t.count t.entry).find?
      (StringEntry.named username) with
  | none =>
      rw [List.eraseP_of_forall_not
        (List.find?_eq_none.mp hFound)]
      exact (List.append_nil _ ▸ List.Perm.refl _)
  | some e =>
      rcases List.find?_eq_some_iff_append.mp hFound with
        ⟨hNamed, before, after, hSplit, hOther⟩
      have hNone : ∀ x ∈ before,
          ¬ StringEntry.named username x = true := by
        intro x hMem hBad
        have hMiss := hOther x hMem
        rw [hBad] at hMiss
        nomatch hMiss
      rw [hSplit, List.eraseP_append_right _ hNone,
        List.eraseP_cons_of_pos hNamed, List.perm_iff_count]
      intro id
      simp only [List.flatMap_append, List.flatMap_cons,
        copyIds_append, List.count_append]
      omega

theorem StringTable.Accounts.delete
    (h : t.Accounts all)
    (username : List UInt8) :
    (t.deleteUser username).Accounts
      (listStep all (.delete username)) := by
  have hFront := t.deleteUser_front username
  refine ⟨⟨?_, ?_, ?_⟩, ?_, ?_⟩
  · rw [StringTable.view_front, hFront]
    have hErase := h.holds.erase username
    rw [StringTable.view_front, List.eraseP_map] at hErase
    exact hErase
  · exact Nat.le_trans (t.deleteUser_count username)
      h.holds.bound
  · intro x hMem
    exact h.holds.names x (List.mem_of_mem_eraseP hMem)
  · intro e hMem
    rw [hFront] at hMem
    exact h.uniform e (List.mem_of_mem_eraseP hMem)
  · exact (t.deleteUser_ledger username).trans h.ledger

theorem StringTable.push_front
    (t : StringTable)
    (name pass : OwnedString) :
    EraseFirst.front (t.push name pass).count
        (t.push name pass).entry =
      EraseFirst.front t.count t.entry ++
        [{ name := some name, pass := some pass }] :=
  EraseFirst.front_push t.count t.entry _

/- An entry is added at the end. -/
theorem StringTable.Accounts.push
    {t' : StringTable}
    {x : Added}
    {e : StringEntry}
    (h : t.Accounts all)
    (hRoom : t.count < maxUsers)
    (hFront : EraseFirst.front t'.count t'.entry =
      EraseFirst.front t.count t.entry ++ [e])
    (hCount : t'.count = t.count + 1)
    (hReleased : t'.released = t.released)
    (hView : e.view = x.stored)
    (hName : cString x.name = x.name)
    (hUniform : e.Uniform)
    (hCopies : (copyIds e.origins ++
      List.range t.copies).Perm (List.range t'.copies)) :
    t'.Accounts (all ++ [x]) := by
  refine ⟨⟨?_, ?_, ?_⟩, ?_, ?_⟩
  · rw [StringTable.view_front, hFront, List.map_append,
      ← StringTable.view_front, h.holds.front,
      List.map_append, List.map_singleton, hView]
    rfl
  · show t'.count ≤ maxUsers
    rw [hCount]
    exact hRoom
  · intro y hMem
    rcases List.mem_append.mp hMem with hOld | hNew
    · exact h.holds.names y hOld
    · rw [List.mem_singleton.mp hNew]
      exact hName
  · intro other hMem
    rw [hFront] at hMem
    rcases List.mem_append.mp hMem with hOld | hNew
    · exact h.uniform other hOld
    · rw [List.mem_singleton.mp hNew]
      exact hUniform
  · have hLive : t'.live = t.live ++ e.origins := by
      unfold StringTable.live
      rw [hFront, List.flatMap_append, List.flatMap_singleton]
    refine List.Perm.trans ?_ hCopies
    refine List.Perm.trans ?_ (h.ledger.append_left _)
    rw [hLive, hReleased, copyIds_append, List.perm_iff_count]
    intro id
    simp only [List.count_append]
    omega

theorem StringTable.Accounts.option
    (h : t.Accounts all)
    (arg : List UInt8) :
    (t.option arg).Accounts (listStep all (.option arg)) := by
  have hCount : t.count = all.length := h.holds.count
  unfold StringTable.option
  cases hUser : user arg with
  | none =>
      have hPair : UserOp.pair (.option arg) = none := by
        unfold UserOp.pair
        simp only [hUser, Option.map_none]
      have hList : listStep all (.option arg) = all := by
        unfold listStep
        rw [hPair]
      rw [hList]
      split <;> exact h
  | some pair =>
      have hPair : UserOp.pair (.option arg) =
          some ⟨pair.1, pair.2, false⟩ :=
        congrArg (Option.map _) hUser
      have hList : listStep all (.option arg) =
          if all.length < maxUsers then
            all ++ [⟨pair.1, pair.2, false⟩]
          else all := by
        unfold listStep
        rw [hPair]
      rw [hList, ← hCount]
      by_cases hRoom : t.count < maxUsers
      · rw [if_pos hRoom, if_neg (Nat.not_le.mpr hRoom)]
        exact h.push hRoom (t.push_front _ _) rfl rfl rfl
          (UserOp.pair_name hPair) (.arguments pair.1 pair.2)
          (List.Perm.refl _)
      · rw [if_neg hRoom, if_pos (Nat.not_lt.mp hRoom)]
        exact h

theorem StringTable.Accounts.add
    (h : t.Accounts all)
    (username password : List UInt8) :
    (t.step (.add username password)).Accounts
      (listStep all (.add username password)) := by
  have hCount : t.count = all.length := h.holds.count
  have hBound : t.count ≤ maxUsers := h.holds.bound
  have hList : listStep all (.add username password) =
      if all.length < maxUsers then
        all ++ [⟨cString username, cString password, true⟩]
      else all := rfl
  have hStep : t.step (.add username password) =
      if t.count = maxUsers then t
      else t.addUser username password := rfl
  rw [hList, hStep, ← hCount]
  by_cases hRoom : t.count < maxUsers
  · rw [if_pos hRoom, if_neg (Nat.ne_of_lt hRoom)]
    unfold StringTable.addUser
    rw [if_neg (Nat.not_le.mpr hRoom)]
    refine h.push hRoom (StringTable.push_front _ _ _) rfl rfl
      rfl (cString_idem username) (.copies _ _ _ _) ?_
    show ([t.copies, t.copies + 1] ++
      List.range t.copies).Perm (List.range (t.copies + 2))
    rw [List.range_succ, List.range_succ, List.append_assoc]
    exact List.perm_append_comm
  · rw [if_neg hRoom, if_pos (by omega)]
    exact h

/- Every change keeps the accounts. -/
theorem StringTable.Accounts.step
    (h : t.Accounts all)
    (op : UserOp) :
    (t.step op).Accounts (listStep all op) := by
  cases op with
  | option arg => exact h.option arg
  | add username password => exact h.add username password
  | delete username => exact h.delete username

/- So does every sequence of changes. -/
theorem StringTable.run_accounts
    (ops : List UserOp) :
    (StringTable.run ops).Accounts (listed ops) := by
  induction ops using List.reverseRecOn with
  | nil => exact .empty
  | append_singleton ops op ih =>
      have hRun : StringTable.run (ops ++ [op]) =
          (StringTable.run ops).step op := by
        unfold StringTable.run
        rw [List.foldl_append]
        rfl
      rw [hRun, listed_concat]
      exact ih.step op

/- A copy in the table is there once and was not freed. -/
theorem StringTable.Accounts.nodup
    (h : t.Accounts all) :
    (copyIds t.live ++ copyIds t.released).Nodup :=
  h.ledger.nodup_iff.mpr List.nodup_range

/- The entry that a deletion finds, with its pair. -/
theorem StringTable.Accounts.find
    (h : t.Accounts all)
    (username : List UInt8) :
    ((EraseFirst.front t.count t.entry).find?
        (StringEntry.named username)).map StringEntry.view =
      (all.find? fun x => x.name = cString username).map
        Added.stored := by
  have hFind := h.holds.find username
  rw [StringTable.view_front, List.find?_map] at hFind
  exact hFind

/- Two copies of an entry of the table can be freed. -/
theorem StringTable.Accounts.copies
    {i j : Nat}
    {e : StringEntry}
    (h : t.Accounts all)
    (hIn : e ∈ EraseFirst.front t.count t.entry)
    (hOrigins : e.origins = [.copy i, .copy j]) :
    i ≠ j ∧ .copy i ∉ t.released ∧ .copy j ∉ t.released := by
  rcases List.append_of_mem hIn with ⟨before, after, hSplit⟩
  have hLive : t.live = before.flatMap StringEntry.origins ++
      ([.copy i, .copy j] ++
        after.flatMap StringEntry.origins) := by
    unfold StringTable.live
    rw [hSplit, List.flatMap_append, List.flatMap_cons,
      hOrigins]
  have hTwo : copyIds [.copy i, .copy j] = [i, j] := rfl
  have hNodup := h.nodup
  rw [hLive, copyIds_append, copyIds_append, hTwo] at hNodup
  rcases List.nodup_append.mp hNodup with
    ⟨hTable, _, hApart⟩
  have hPair : [i, j].Nodup :=
    (List.nodup_append.mp
      (List.nodup_append.mp hTable).2.1).1
  have hKept : ∀ id ∈ [i, j], .copy id ∉ t.released := by
    intro id hMem hBad
    refine hApart id ?_ id ?_ rfl
    · exact List.mem_append_right _
        (List.mem_append_left _ hMem)
    · exact List.mem_filterMap.mpr ⟨_, hBad, rfl⟩
  exact ⟨List.pairwise_pair.mp hPair,
    hKept i List.mem_cons_self,
    hKept j (List.mem_cons_of_mem _ List.mem_cons_self)⟩

end Steps

/-
  A deletion frees only copies, and none of them again, if and
  only if the first entry with the name was not given with
  `-u`.
-/
theorem releases_own_iff
    (ops : List UserOp)
    (username : List UInt8) :
    (StringTable.run ops).ReleasesOwn username ↔
      ∀ x, (listed ops).find? (fun x =>
        x.name = cString username) = some x →
          x.held = true := by
  have hAccounts := StringTable.run_accounts ops
  generalize StringTable.run ops = t at hAccounts
  have hFind := hAccounts.find username
  unfold StringTable.ReleasesOwn
  rw [t.passed_eq username]
  cases hFound : (EraseFirst.front t.count t.entry).find?
      (StringEntry.named username) with
  | none =>
      rw [hFound] at hFind
      have hNone := Option.map_eq_none_iff.mp hFind.symm
      constructor
      · intro _ x hBad
        nomatch hNone.symm.trans hBad
      · intro _ before s after hBad
        nomatch List.append_eq_nil_iff.mp hBad.symm
  | some e =>
      have hIn := List.mem_of_find?_eq_some hFound
      rw [hFound] at hFind
      rcases Option.map_eq_some_iff.mp hFind.symm with
        ⟨x, hFirst, hView⟩
      have hOnly : (∀ y, (listed ops).find? (fun x =>
          x.name = cString username) = some y →
            y.held = true) ↔ e.view.held = true := by
        rw [hFirst, ← hView]
        constructor
        · intro hAll
          exact hAll x rfl
        · intro hHeld y hIs
          rw [← Option.some.inj hIs]
          exact hHeld
      rw [hOnly]
      have hUniform := hAccounts.uniform e hIn
      cases hUniform with
      | copies name pass i j =>
          rcases hAccounts.copies hIn rfl with
            ⟨hApart, hFirstKept, hLastKept⟩
          refine ⟨fun _ => rfl, fun _ => ?_⟩
          intro before s after hSplit
          replace hSplit : [Origin.copy i, .copy j] =
              before ++ s :: after := hSplit
          match before, hSplit with
          | [], hSplit =>
              injection hSplit with hIs _
              rw [← hIs, List.append_nil]
              exact ⟨⟨i, rfl⟩, hFirstKept⟩
          | [first], hSplit =>
              injection hSplit with hBefore hSplit
              injection hSplit with hIs _
              rw [← hIs, ← hBefore]
              refine ⟨⟨j, rfl⟩, fun hBad => ?_⟩
              rcases List.mem_append.mp hBad with hOld | hNew
              · exact hLastKept hOld
              · injection List.mem_singleton.mp hNew with hSame
                exact hApart hSame.symm
          | _ :: _ :: rest, hSplit =>
              injection hSplit with _ hSplit
              injection hSplit with _ hSplit
              nomatch List.append_eq_nil_iff.mp hSplit.symm
      | arguments name pass =>
          constructor
          · intro hOwn
            rcases (hOwn [] .argument [.argument] rfl).1 with
              ⟨id, hBad⟩
            nomatch hBad
          · intro hBad
            nomatch hBad

/- The user of an option. -/
theorem releases_argument :
    ¬ (StringTable.run
      [.option [0x61, 0x3A, 0x62]]).ReleasesOwn [0x61] := by
  intro hOwn
  have hPassed : (StringTable.run
      [.option [0x61, 0x3A, 0x62]]).passed [0x61] =
        [] ++ .argument :: [.argument] := by
    decide +kernel
  rcases (hOwn _ _ _ hPassed).1 with ⟨id, hBad⟩
  nomatch hBad

end Socks5d
