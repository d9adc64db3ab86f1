import Mathlib.Data.List.Find
import Mathlib.Data.List.TakeWhile
import Socks5d.ManagementRequest

/-
  What the `users` table holds after any sequence of `-u`
  options and of requests that add and delete users.

  The strings of an option belong to the arguments of the
  program, and those of a request to the heap; `deleteUser`
  frees both alike.

  Main declarations:
    * `UserOp`, `UserTable.step`, `UserTable.run`
    * `UserTable.step_asked`
    * `listed`, `Releasable`
    * `users_refine_iff`
    * `revoked_iff`
-/

------------------------------------------------------------
-- The Changes Of The Table
------------------------------------------------------------

namespace Socks5d

/- The changes of the table. -/
inductive UserOp where
  /- `-u` and its argument -/
  | option (arg : List UInt8)
  | add (username password : List UInt8)
  | delete (username : List UInt8)
deriving DecidableEq

/-
  `user`: the argument is cut at its first colon; without a
  colon there is no password.
-/
def user
    (arg : List UInt8) :
    Option (List UInt8 × List UInt8) :=
  match (cString arg).dropWhile (· ≠ 0x3A) with
  | [] => none
  | _ :: pass =>
      some ((cString arg).takeWhile (· ≠ 0x3A), pass)

namespace UserTable

/- Before the arguments are parsed. -/
def empty : UserTable where
  entry := fun _ => {}
  count := 0

/-
  `parse_args` at `-u`: a table that is full and an argument
  without a password end the program.
-/
def option
    (t : UserTable)
    (arg : List UInt8) : UserTable :=
  if t.count ≥ maxUsers then t
  else
    match user arg with
    | none => t
    | some (name, pass) =>
        t.push { name := some name, pass := some pass }

/- `parse_args` and `process_mng_params_request` -/
def step
    (t : UserTable) :
    UserOp → Option UserTable
| .option arg => some (t.option arg)
| .add username password =>
    if t.count = maxUsers then some t
    else some (addUser t username password)
| .delete username => deleteUser t username

/- A sequence of changes, up to an invalid `free`. -/
def run
    (t : UserTable) :
    List UserOp → Option UserTable
| [] => some t
| op :: rest => (t.step op).bind fun next => next.run rest

end UserTable

end Socks5d

------------------------------------------------------------
-- The Requests
------------------------------------------------------------

namespace Socks5d

/- The request whose parameters have been read. -/
def UserOp.Asked
    (s : St) : UserOp → Prop
| .option _ => False
| .add username password =>
    s.conn.mngRequest.index = MngIndex.addUser ∧
      s.conn.mngRequest.parser.resultAt 1 = some username ∧
      s.conn.mngRequest.parser.resultAt 3 = some password
| .delete username =>
    s.conn.mngRequest.index = MngIndex.deleteUser ∧
      s.conn.mngRequest.parser.resultAt 1 = some username

section Requests

variable {s : St}
variable {op : UserOp}

/-
  `process_mng_params_request` changes the table as asked, or
  ends the process.
-/
theorem UserTable.step_asked
    (hAsked : op.Asked s) :
    s.srv.users.step op =
        some (processMngParamsRequest s).srv.users ∨
      (s.srv.users.step op = none ∧
        processMngParamsRequest s =
          s.crash .invalidFree) := by
  have hReply : ∀ (u : St) (status : MngReplyStatus),
      (statusMngMarshal u status).srv = u.srv := by
    intro u status
    unfold statusMngMarshal marshal
    split
    · rfl
    · rfl
  cases op with
  | option arg => exact absurd hAsked id
  | add username password =>
      rcases hAsked with ⟨hIndex, hName, hPass⟩
      left
      have hEq : processMngParamsRequest s =
          if s.srv.users.count = maxUsers then
            statusMngMarshal s .maxUsersReached
          else
            statusMngMarshal
              { s with
                srv.users := addUser s.srv.users
                  username password }
              .succeeded := by
        unfold processMngParamsRequest
        simp only [hIndex, hName, hPass, Option.getD_some]
        rfl
      rw [hEq]
      unfold UserTable.step
      dsimp only
      split
      · rw [hReply]
      · rw [hReply]
  | delete username =>
      rcases hAsked with ⟨hIndex, hName⟩
      have hStep : s.srv.users.step (.delete username) =
          deleteUser s.srv.users username := rfl
      rw [hStep]
      cases hDeleted : deleteUser s.srv.users username with
      | none =>
          exact Or.inr ⟨rfl, processMngParamsRequest_given
            hIndex hName hDeleted⟩
      | some users =>
          left
          rw [processMngParamsRequest_deleted hIndex hName
            hDeleted, hReply]

end Requests

end Socks5d

------------------------------------------------------------
-- The List It Stands For
------------------------------------------------------------

namespace Socks5d

/- A user that was added, and whether by a request. -/
structure Added where
  name : List UInt8
  pass : List UInt8
  held : Bool
deriving DecidableEq

/- The pair is the first thing that is added. -/
def UserOp.pair : UserOp → Option Added
| .option arg =>
    (user arg).map fun pair => ⟨pair.1, pair.2, false⟩
| .add username password =>
    some ⟨cString username, cString password, true⟩
| .delete _ => none

/-
  The list after one more change: a pair is appended while
  there is room, and the first one with the name is erased.
-/
def listStep
    (all : List Added)
    (op : UserOp) : List Added :=
  match op, op.pair with
  | .delete username, _ =>
      all.eraseP fun x => x.name = cString username
  | _, some x =>
      if all.length < maxUsers then all ++ [x] else all
  | _, none => all

/- The list after a sequence of changes. -/
def listed (ops : List UserOp) : List Added :=
  ops.foldl listStep []

/-
  No deletion finds, as the first pair with its name, one
  that was given with `-u`.
-/
def Releasable (ops : List UserOp) : Prop :=
  ∀ before username after,
    ops = before ++ .delete username :: after →
      ∀ x, (listed before).find? (fun x =>
        x.name = cString username) = some x → x.held = true

/- An entry of the table for a pair of the list. -/
def Added.stored (x : Added) : UserEntry where
  name := some x.name
  pass := some x.pass
  held := x.held

/- The table holds exactly the list. -/
structure UserTable.Holds
    (t : UserTable)
    (all : List Added) : Prop where
  front : EraseFirst.front t.count t.entry =
    all.map Added.stored
  bound : t.count ≤ maxUsers
  names : ∀ x ∈ all, cString x.name = x.name

section Steps

variable {t t' : UserTable}
variable {all : List Added}
variable {x : Added}
variable {op : UserOp}
variable {ops more : List UserOp}
variable {username : List UInt8}

theorem UserTable.Holds.count
    (h : t.Holds all) : t.count = all.length := by
  have hLength := congrArg List.length h.front
  rw [EraseFirst.length_front, List.length_map] at hLength
  exact hLength

theorem UserTable.Holds.empty :
    UserTable.empty.Holds [] := by
  constructor
  · rfl
  · exact Nat.zero_le _
  · intro x hMem
    nomatch hMem

/- Comparing with an entry is comparing with its pair. -/
theorem Added.named
    (hName : cString x.name = x.name)
    (username : List UInt8) :
    strcmpEq username x.stored.name =
      decide (x.name = cString username) := by
  unfold strcmpEq Added.stored
  rw [Option.map_some, hName]
  simp only [Option.some.injEq]

theorem UserTable.Holds.push
    (h : t.Holds all)
    (hRoom : t.count < maxUsers)
    (hName : cString x.name = x.name) :
    (t.push x.stored).Holds (all ++ [x]) := by
  constructor
  · rw [List.map_append, ← h.front]
    exact EraseFirst.front_push t.count t.entry x.stored
  · exact hRoom
  · intro y hMem
    rcases List.mem_append.mp hMem with hOld | hNew
    · exact h.names y hOld
    · rw [List.mem_singleton.mp hNew]
      exact hName

/- The names of a sequence of changes are C strings. -/
theorem cString_idem
    (bytes : List UInt8) :
    cString (cString bytes) = cString bytes := by
  unfold cString
  rw [List.takeWhile_takeWhile]
  simp only [and_self, decide_eq_true_eq]

theorem cString_takeWhile
    (f : UInt8 → Bool)
    (bytes : List UInt8) :
    cString ((cString bytes).takeWhile f) =
      (cString bytes).takeWhile f := by
  unfold cString
  rw [List.takeWhile_eq_self_iff]
  intro b hMem
  have hOld := (List.takeWhile_prefix f).subset hMem
  exact List.mem_takeWhile_imp
    (p := fun x : UInt8 => decide (x ≠ 0)) hOld

theorem UserOp.pair_name
    (h : op.pair = some x) : cString x.name = x.name := by
  cases op with
  | option arg =>
      rcases Option.map_eq_some_iff.mp h with
        ⟨pair, hUser, hPair⟩
      unfold user at hUser
      split at hUser
      · nomatch hUser
      · rw [← hPair, ← Option.some.inj hUser]
        exact cString_takeWhile _ arg
  | add username password =>
      rw [← Option.some.inj h]
      exact cString_idem username
  | delete username => nomatch h

/- A pair is added, or there is no room for it. -/
theorem UserTable.Holds.append
    (h : t.Holds all)
    (hPair : op.pair = some x) :
    ∃ t', t.step op = some t' ∧ t'.Holds (listStep all op) := by
  have hName := UserOp.pair_name hPair
  have hList : listStep all op =
      if all.length < maxUsers then all ++ [x] else all := by
    cases op with
    | option arg =>
        unfold listStep
        rw [hPair]
    | add username password =>
        unfold listStep
        rw [hPair]
    | delete username => nomatch hPair
  rw [hList, ← h.count]
  have hAdded : t.count < maxUsers →
      t.step op = some (t.push x.stored) := by
    intro hRoom
    have hSome : ¬ t.count ≥ maxUsers := Nat.not_le.mpr hRoom
    cases op with
    | option arg =>
        rcases Option.map_eq_some_iff.mp hPair with
          ⟨pair, hUser, hIs⟩
        have hStep : t.step (.option arg) =
            some (t.option arg) := rfl
        rw [hStep]
        unfold UserTable.option
        rw [if_neg hSome, hUser, ← hIs]
        rfl
    | add username password =>
        have hStep : t.step (.add username password) =
            some (addUser t username password) :=
          if_neg (Nat.ne_of_lt hRoom)
        rw [hStep]
        unfold addUser
        rw [if_neg hSome, ← Option.some.inj hPair]
        rfl
    | delete username => nomatch hPair
  have hFull : ¬ t.count < maxUsers → t.step op = some t := by
    intro hNone
    have hIs : t.count = maxUsers :=
      Nat.le_antisymm h.bound (Nat.not_lt.mp hNone)
    cases op with
    | option arg =>
        have hStep : t.step (.option arg) =
            some (t.option arg) := rfl
        rw [hStep]
        unfold UserTable.option
        rw [if_pos (Nat.le_of_eq hIs.symm)]
    | add username password =>
        exact if_pos hIs
    | delete username => nomatch hPair
  by_cases hRoom : t.count < maxUsers
  · rw [if_pos hRoom]
    exact ⟨_, hAdded hRoom, h.push hRoom hName⟩
  · rw [if_neg hRoom]
    exact ⟨t, hFull hRoom, h⟩

/- An option without a password adds nothing. -/
theorem UserTable.Holds.refuse
    (h : t.Holds all)
    {arg : List UInt8}
    (hUser : user arg = none) :
    ∃ t', t.step (.option arg) = some t' ∧
      t'.Holds (listStep all (.option arg)) := by
  have hList : listStep all (.option arg) = all := by
    have hPair : UserOp.pair (.option arg) = none := by
      unfold UserOp.pair
      simp only [hUser, Option.map_none]
    unfold listStep
    rw [hPair]
  rw [hList]
  have hSame : t.option arg = t := by
    unfold UserTable.option
    rw [hUser]
    split
    · rfl
    · rfl
  exact ⟨t, congrArg some hSame, h⟩

/- The first pair with the name, in the list and the table. -/
theorem UserTable.Holds.find
    (h : t.Holds all)
    (username : List UInt8) :
    (EraseFirst.front t.count t.entry).find? (fun e =>
        strcmpEq username e.name) =
      (all.find? fun x => x.name = cString username).map
        Added.stored := by
  rw [h.front, List.find?_map]
  congr 1
  apply List.find?_congr
  intro x hMem
  exact Added.named (h.names x hMem) username

theorem UserTable.Holds.erase
    (h : t.Holds all)
    (username : List UInt8) :
    (EraseFirst.front t.count t.entry).eraseP (fun e =>
        strcmpEq username e.name) =
      (all.eraseP fun x => x.name = cString username).map
        Added.stored := by
  rw [h.front, List.eraseP_map]
  congr 1
  apply EraseFirst.eraseP_congr
  intro x hMem
  exact Added.named (h.names x hMem) username

/-
  A deletion erases the first pair with the name, or has
  given to `free` what is not on the heap.
-/
theorem UserTable.Holds.delete
    (h : t.Holds all)
    (username : List UInt8) :
    (∃ t', t.step (.delete username) = some t' ∧
        t'.Holds (listStep all (.delete username)) ∧
        ∀ x, all.find? (fun x =>
          x.name = cString username) = some x →
            x.held = true) ∨
      (t.step (.delete username) = none ∧
        ∃ x, all.find? (fun x =>
          x.name = cString username) = some x ∧
            x.held = false) := by
  have hFind := h.find username
  have hErase := h.erase username
  have hList : listStep all (.delete username) =
      all.eraseP fun x => x.name = cString username := rfl
  have hNames : ∀ x ∈ listStep all (.delete username),
      cString x.name = x.name := by
    intro x hMem
    exact h.names x (List.mem_of_mem_eraseP hMem)
  have hStep : t.step (.delete username) =
      deleteUser t username := rfl
  have hCases := deleteUser_cases t username
  rw [hStep]
  generalize deleteUser t username = after at hCases
  cases hCases with
  | missing hNone =>
      left
      refine ⟨t, rfl, ⟨?_, h.bound, hNames⟩, ?_⟩
      · rw [hList, ← hErase]
        exact (List.eraseP_of_forall_not
          (List.find?_eq_none.mp hNone)).symm
      · intro x hBad
        rw [hBad] at hFind
        nomatch hNone.symm.trans hFind
  | erased e t' hFound hHeld hPos hCount hErased =>
      rcases Option.map_eq_some_iff.mp
        (hFind.symm.trans hFound) with ⟨x, hFirst, hStored⟩
      left
      refine ⟨t', rfl, ⟨?_, ?_, hNames⟩, ?_⟩
      · rw [hList, ← hErase]
        exact hErased
      · rw [hCount]
        exact Nat.le_trans (Nat.sub_le _ _) h.bound
      · intro y hOther
        rw [← Option.some.inj (hFirst.symm.trans hOther)]
        rw [← hStored] at hHeld
        exact hHeld
  | given e hFound hHeld =>
      rcases Option.map_eq_some_iff.mp
        (hFind.symm.trans hFound) with ⟨x, hFirst, hStored⟩
      right
      rw [← hStored] at hHeld
      exact ⟨rfl, x, hFirst, hHeld⟩

/- Any change: the table follows the list, or `free` fails. -/
theorem UserTable.Holds.step
    (h : t.Holds all)
    (op : UserOp) :
    (∃ t', t.step op = some t' ∧ t'.Holds (listStep all op) ∧
        ∀ username, op = .delete username →
          ∀ x, all.find? (fun x =>
            x.name = cString username) = some x →
              x.held = true) ∨
      (t.step op = none ∧
        ∃ username x, op = .delete username ∧
          all.find? (fun x =>
            x.name = cString username) = some x ∧
              x.held = false) := by
  cases op with
  | option arg =>
      left
      cases hUser : user arg with
      | none =>
          rcases h.refuse hUser with ⟨t', hStep, hHolds⟩
          exact ⟨t', hStep, hHolds, fun _ hBad => nomatch hBad⟩
      | some pair =>
          have hPair : UserOp.pair (.option arg) =
              some ⟨pair.1, pair.2, false⟩ :=
            congrArg (Option.map _) hUser
          rcases h.append hPair with ⟨t', hStep, hHolds⟩
          exact ⟨t', hStep, hHolds, fun _ hBad => nomatch hBad⟩
  | add username password =>
      left
      have hPair : UserOp.pair (.add username password) =
          some ⟨cString username, cString password, true⟩ :=
        rfl
      rcases h.append hPair with ⟨t', hStep, hHolds⟩
      exact ⟨t', hStep, hHolds, fun _ hBad => nomatch hBad⟩
  | delete username =>
      rcases h.delete username with
        ⟨t', hStep, hHolds, hHeld⟩ | ⟨hStep, x, hFound, hFree⟩
      · left
        refine ⟨t', hStep, hHolds, ?_⟩
        intro name hName
        rw [← UserOp.delete.inj hName]
        exact hHeld
      · exact Or.inr ⟨hStep, username, x, rfl, hFound, hFree⟩

end Steps

end Socks5d

------------------------------------------------------------
-- Whole Histories
------------------------------------------------------------

namespace Socks5d

section Histories

variable {t t' : UserTable}
variable {ops more : List UserOp}
variable {op : UserOp}

theorem UserTable.run_append
    (t : UserTable)
    (ops more : List UserOp) :
    t.run (ops ++ more) =
      (t.run ops).bind fun next => next.run more := by
  induction ops generalizing t with
  | nil => rfl
  | cons op rest ih =>
      show (t.step op).bind _ = ((t.step op).bind _).bind _
      rw [Option.bind_assoc]
      congr 1
      funext next
      exact ih next

theorem listed_concat
    (ops : List UserOp)
    (op : UserOp) :
    listed (ops ++ [op]) = listStep (listed ops) op := by
  unfold listed
  rw [List.foldl_append]
  rfl

/- A history that has come to its end follows the list. -/
theorem UserTable.run_holds
    (h : UserTable.empty.run ops = some t) :
    t.Holds (listed ops) := by
  induction ops using List.reverseRecOn generalizing t with
  | nil =>
      rw [← Option.some.inj h]
      exact .empty
  | append_singleton ops op ih =>
      rw [UserTable.run_append] at h
      rcases Option.bind_eq_some_iff.mp h with
        ⟨before, hBefore, hLast⟩
      have hStep : before.step op = some t := by
        rcases Option.bind_eq_some_iff.mp hLast with
          ⟨next, hNext, hEnd⟩
        rw [← Option.some.inj hEnd]
        exact hNext
      rw [listed_concat]
      rcases (ih hBefore).step op with
        ⟨t', hIs, hHolds, _⟩ | ⟨hNone, _⟩
      · rw [Option.some.inj (hStep.symm.trans hIs)]
        exact hHolds
      · nomatch hNone.symm.trans hStep

/- A history comes to its end when it frees only its own. -/
theorem UserTable.run_iff
    (ops : List UserOp) :
    (∃ t, UserTable.empty.run ops = some t) ↔
      Releasable ops := by
  induction ops using List.reverseRecOn with
  | nil =>
      constructor
      · intro _ before username after hSplit
        nomatch List.append_eq_nil_iff.mp hSplit.symm
      · intro _
        exact ⟨_, rfl⟩
  | append_singleton ops op ih =>
      constructor
      · rintro ⟨t, hRun⟩
        rw [UserTable.run_append] at hRun
        rcases Option.bind_eq_some_iff.mp hRun with
          ⟨middle, hMiddle, hLast⟩
        intro before username after hSplit
        rcases List.eq_nil_or_concat after with
          hNil | ⟨front, last, hConcat⟩
        · rw [hNil] at hSplit
          have hParts := List.append_inj' hSplit rfl
          rw [← hParts.1]
          have hHolds := UserTable.run_holds hMiddle
          rcases hHolds.step op with
            ⟨t', _, _, hHeld⟩ | ⟨hNone, _⟩
          · exact hHeld username (List.cons.inj hParts.2).1
          · have hBad : (middle.step op).bind
                (fun next => next.run []) = some t := hLast
            rw [hNone] at hBad
            nomatch hBad
        · have hFront : ops =
              before ++ .delete username :: front := by
            rw [hConcat, List.concat_eq_append,
              ← List.cons_append, ← List.append_assoc]
              at hSplit
            exact (List.append_inj' hSplit rfl).1
          exact ih.mp ⟨middle, hMiddle⟩ before username front
            hFront
      · intro hSafe
        have hEarlier : Releasable ops := by
          intro before username after hSplit
          apply hSafe before username (after ++ [op])
          rw [hSplit, List.append_assoc]
          rfl
        rcases ih.mpr hEarlier with ⟨middle, hMiddle⟩
        have hHolds := UserTable.run_holds hMiddle
        rcases hHolds.step op with
          ⟨t', hStep, _⟩ | ⟨_, username, x, hIs, hFound, hFree⟩
        · refine ⟨t', ?_⟩
          rw [UserTable.run_append, hMiddle]
          show (middle.step op).bind _ = _
          rw [hStep]
          rfl
        · exfalso
          have hHeld := hSafe ops username [] (by rw [hIs]) x
            hFound
          nomatch hFree.symm.trans hHeld

/-
  The table is the list at every moment of a history, with
  no more than `MAX_USERS` entries and no null pointer below
  `nusers`, if and only if no deletion meets an entry given
  with `-u`: the strings of such an entry are no heap blocks.
-/
theorem users_refine_iff
    (ops : List UserOp) :
    (∀ before after, ops = before ++ after →
      ∃ t, UserTable.empty.run before = some t ∧
        t.list = (listed before).map (fun x =>
          { name := some x.name
            pass := some x.pass
            held := x.held }) ∧
        t.count ≤ maxUsers ∧
        ∀ i < t.count,
          (t.entry i).name ≠ none ∧
            (t.entry i).pass ≠ none) ↔
      Releasable ops := by
  constructor
  · intro hAll
    rcases hAll ops [] (List.append_nil ops).symm with
      ⟨t, hRun, _⟩
    exact (UserTable.run_iff ops).mp ⟨t, hRun⟩
  · intro hSafe before after hSplit
    have hEarlier : Releasable before := by
      intro front username rest hFront
      apply hSafe front username (rest ++ after)
      rw [hSplit, hFront, List.append_assoc]
      rfl
    rcases (UserTable.run_iff before).mpr hEarlier with
      ⟨t, hRun⟩
    have hHolds := UserTable.run_holds hRun
    refine ⟨t, hRun, hHolds.front, hHolds.bound, ?_⟩
    intro i hLt
    have hMem : t.entry i ∈ t.list :=
      EraseFirst.mem_front.mpr ⟨i, hLt, rfl⟩
    rw [show t.list = _ from hHolds.front] at hMem
    rcases List.mem_map.mp hMem with ⟨x, _, hIs⟩
    rw [← hIs]
    constructor
    · intro hBad
      nomatch hBad
    · intro hBad
      nomatch hBad

/- The user of an option is deleted by a request. -/
theorem option_deleted :
    listed [.option [0x61, 0x3A, 0x62], .delete [0x61]] = [] ∧
      UserTable.empty.run
        [.option [0x61, 0x3A, 0x62], .delete [0x61]] =
          none := by
  decide +kernel

end Histories

end Socks5d

------------------------------------------------------------
-- Access After A Deletion
------------------------------------------------------------

namespace Socks5d

/- How often a name is in a list. -/
def named
    (username : List UInt8)
    (all : List Added) : Nat :=
  all.countP fun x => x.name = cString username

/- The change adds a user with the name. -/
def UserOp.Adds
    (op : UserOp)
    (username : List UInt8) : Prop :=
  ∃ x, op.pair = some x ∧ x.name = cString username

section Revoking

variable {t : UserTable}
variable {all : List Added}
variable {ops more : List UserOp}
variable {op : UserOp}
variable {username : List UInt8}

/- `checkCredentials` refuses every password of a name. -/
theorem UserTable.Holds.refuses_iff
    (h : t.Holds all)
    (username : List UInt8) :
    (∀ password, t.find? username password = none) ↔
      named username all = 0 := by
  have hEntry : ∀ x ∈ all, ∃ i < t.count,
      t.entry i = x.stored := by
    intro x hMem
    apply EraseFirst.mem_front.mp
    rw [h.front]
    exact List.mem_map_of_mem hMem
  constructor
  · intro hNone
    unfold named
    rw [List.countP_eq_zero]
    intro x hMem hName
    rcases hEntry x hMem with ⟨i, hLt, hIs⟩
    have hMiss := List.find?_eq_none.mp (hNone x.pass) i
      (List.mem_range.mpr hLt)
    apply hMiss
    have hFirst : strcmpEq username
        (t.entry i).name = true := by
      show strcmpEq username (t.entry i).name = true
      rw [hIs, Added.named (h.names x hMem)]
      exact hName
    have hSecond : strcmpEq x.pass
        (t.entry i).pass = true := by
      show strcmpEq x.pass (t.entry i).pass = true
      rw [hIs]
      exact decide_eq_true rfl
    rw [hFirst, hSecond]
    rfl
  · intro hZero password
    unfold named at hZero
    rw [List.countP_eq_zero] at hZero
    unfold UserTable.find?
    rw [List.find?_eq_none]
    intro i hIn hBad
    have hMem : t.entry i ∈
        EraseFirst.front t.count t.entry :=
      EraseFirst.mem_front.mpr
        ⟨i, List.mem_range.mp hIn, rfl⟩
    rw [h.front] at hMem
    rcases List.mem_map.mp hMem with ⟨x, hOld, hIs⟩
    have hName : strcmpEq username (t.entry i).name =
        true := (Bool.and_eq_true_iff.mp hBad).1
    rw [← hIs, Added.named (h.names x hOld)] at hName
    exact hZero x hOld hName

/- A deletion takes one pair with the name away. -/
theorem named_delete
    (username : List UInt8)
    (all : List Added) :
    named username (listStep all (.delete username)) =
      named username all - 1 := by
  have hList : listStep all (.delete username) =
      all.eraseP fun x => x.name = cString username := rfl
  rw [hList]
  unfold named
  generalize hIs : (fun x : Added =>
    decide (x.name = cString username)) = f
  rcases List.exists_or_eq_self_of_eraseP f all with
    hSame | ⟨x, front, rest, _, hName, hSplit, hErased⟩
  · have hNone : all.countP f = 0 := by
      rw [List.countP_eq_zero]
      intro x hMem hBad
      have hLess := List.length_eraseP_of_mem hMem hBad
      rw [hSame] at hLess
      have hPos := List.length_pos_of_mem hMem
      omega
    rw [hSame, hNone]
  · rw [hErased, hSplit, List.countP_append,
      List.countP_append, List.countP_cons_of_pos hName]
    omega

/- Other changes add no pair with the name. -/
theorem named_listStep
    (hOther : ¬ op.Adds username)
    (all : List Added) :
    named username (listStep all op) ≤
      named username all := by
  unfold named
  have hAppend : ∀ x, op.pair = some x →
      List.countP (fun x => x.name = cString username)
          (if all.length < maxUsers then all ++ [x]
            else all) ≤
        List.countP (fun x => x.name = cString username)
          all := by
    intro x hPair
    split
    · rw [List.countP_append, List.countP_singleton,
        if_neg]
      · exact Nat.le_refl _
      · intro hBad
        exact hOther ⟨x, hPair, of_decide_eq_true hBad⟩
    · exact Nat.le_refl _
  cases op with
  | option arg =>
      cases hPair : UserOp.pair (.option arg) with
      | none =>
          unfold listStep
          rw [hPair]
      | some x =>
          have hStep := hAppend x hPair
          unfold listStep
          rw [hPair]
          exact hStep
  | add username password => exact hAppend _ rfl
  | delete other =>
      exact List.Sublist.countP_le List.eraseP_sublist

theorem named_listed
    (hOther : ∀ op ∈ more, ¬ op.Adds username)
    (ops : List UserOp) :
    named username (listed (ops ++ more)) ≤
      named username (listed ops) := by
  induction more using List.reverseRecOn with
  | nil =>
      rw [List.append_nil]
  | append_singleton more op ih =>
      have hLast := hOther op
        (List.mem_append_right _ (List.mem_singleton.mpr rfl))
      have hFront := ih fun x hMem =>
        hOther x (List.mem_append_left _ hMem)
      rw [← List.append_assoc, listed_concat]
      exact Nat.le_trans (named_listStep hLast _) hFront

/-
  A name that has been deleted, by a request that the server
  answered, is refused with every password until it is added
  again, if and only if the table had it at most once.
-/
theorem revoked_iff
    (ops : List UserOp)
    (username : List UInt8)
    (more : List UserOp)
    (hAnswered : ∃ t, UserTable.empty.run
      (ops ++ [.delete username]) = some t)
    (hOther : ∀ op ∈ more, ¬ op.Adds username) :
    (∀ before after t, more = before ++ after →
      UserTable.empty.run
          (ops ++ [.delete username] ++ before) = some t →
        ∀ password,
          t.find? username password = none) ↔
      (listed ops).countP (fun x =>
        x.name = cString username) ≤ 1 := by
  have hDeleted : named username
      (listed (ops ++ [.delete username])) =
        named username (listed ops) - 1 := by
    rw [listed_concat]
    exact named_delete username (listed ops)
  have hCount : (listed ops).countP (fun x =>
      x.name = cString username) =
        named username (listed ops) := rfl
  rw [hCount]
  constructor
  · intro hAll
    rcases hAnswered with ⟨t, hRun⟩
    have hNone := hAll [] more t rfl (by
      rw [List.append_nil]
      exact hRun)
    have hZero := ((UserTable.run_holds hRun).refuses_iff
      username).mp hNone
    omega
  · intro hOnce before after t hSplit hRun
    have hHolds := UserTable.run_holds hRun
    apply (hHolds.refuses_iff username).mpr
    have hThese : ∀ op ∈ before, ¬ op.Adds username := by
      intro op hMem
      apply hOther
      rw [hSplit]
      exact List.mem_append_left _ hMem
    have hLess := named_listed hThese
      (ops ++ [.delete username])
    omega

/- A user is added, deleted, and another one comes. -/
theorem revoked_once :
    (∀ before after t, [UserOp.add [0x63] [0x64]] =
        before ++ after →
      UserTable.empty.run ([.add [0x61] [0x62]] ++
          [.delete [0x61]] ++ before) = some t →
        ∀ password,
          t.find? [0x61] password = none) ↔
      (listed [.add [0x61] [0x62]]).countP (fun x =>
        x.name = cString [0x61]) ≤ 1 := by
  apply revoked_iff
  · exact Option.isSome_iff_exists.mp (by decide +kernel)
  · intro op hMem
    rw [List.mem_singleton.mp hMem]
    rintro ⟨x, hPair, hName⟩
    rw [← Option.some.inj hPair] at hName
    exact absurd hName (by decide)

/-
  The same name is added with two passwords: after the
  deletion the second one still opens the door.
-/
theorem deletion_keeps :
    (UserTable.empty.run
        [.add [0x61] [0x62], .add [0x61] [0x63],
          .delete [0x61]]).map (fun t =>
      t.find? [0x61] [0x63]) = some (some 0) := by
  decide +kernel

end Revoking

end Socks5d
