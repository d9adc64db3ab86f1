import Mathlib.Data.List.TakeWhile
import Socks5d.Library.EraseFirst

/-
  The `users` and `admins` tables (`socks5nio.h`) and the
  functions that search and change them
  (`authentication.c`, `management_request.c`).

  A C string is the list of bytes before its terminator; a
  null pointer is `none`.

  Main declarations:
    * `UserTable`, `UserTable.entries`
    * `UserTable.find?`, the loop of `checkCredentials`
    * `addUser`, `deleteUser`
    * `UserTable.find?_some`
    * `addUser_list`, `deleteUser_cases`
-/

------------------------------------------------------------
-- Tables
------------------------------------------------------------

namespace Socks5d

/- `MAX_USERS` -/
abbrev maxUsers : Nat := 255

/- The bytes of a C string stored in an array. -/
def cString (bytes : List UInt8) : List UInt8 :=
  bytes.takeWhile (· ≠ 0)

/- What is behind a zero byte is no part of the string. -/
theorem cString_append
    (text rest : List UInt8) :
    cString (text ++ 0 :: rest) = cString text := by
  unfold cString
  induction text with
  | nil => rfl
  | cons b text ih =>
      rw [List.cons_append]
      by_cases hZero : b = 0
      · rw [List.takeWhile_cons_of_neg (by simp [hZero]),
          List.takeWhile_cons_of_neg (by simp [hZero])]
      · rw [List.takeWhile_cons_of_pos (by simp [hZero]),
          List.takeWhile_cons_of_pos (by simp [hZero]), ih]

/- A string without a zero byte is its own C string. -/
theorem cString_of_notMem
    {bytes : List UInt8}
    (h : (0 : UInt8) ∉ bytes) : cString bytes = bytes := by
  unfold cString
  rw [List.takeWhile_eq_self_iff]
  intro b hMem
  apply decide_eq_true
  intro hZero
  rw [hZero] at hMem
  exact h hMem

/- Stored with its terminator, such a string is read back. -/
theorem cString_stored
    {bytes : List UInt8}
    (h : (0 : UInt8) ∉ bytes)
    (rest : List UInt8) :
    cString (bytes ++ 0 :: rest) = bytes :=
  (cString_append bytes rest).trans (cString_of_notMem h)

/- `strcmp(s, t) == 0`; comparing with `NULL` never holds -/
def strcmpEq
    (s : List UInt8)
    (t : Option (List UInt8)) : Bool :=
  decide (t.map cString = some (cString s))

/-
  `struct users`, and whether its strings came from `malloc`;
  those of `-u` belong to the arguments of the program.
-/
structure UserEntry where
  name : Option (List UInt8) := none
  pass : Option (List UInt8) := none
  held : Bool := false
deriving DecidableEq, Inhabited

/- `users[MAX_USERS]` with `nusers` -/
structure UserTable where
  entry : Nat → UserEntry
  count : Nat

namespace UserTable

/- The names and passwords below the count. -/
def entries
    (t : UserTable) :
    List (List UInt8 × List UInt8) :=
  (List.range t.count).map fun i =>
    ((t.entry i).name.getD [], (t.entry i).pass.getD [])

/-
  The loop of `checkCredentials` and `checkMngCredentials`:
  the first entry whose name and password both match.
-/
def find?
    (t : UserTable)
    (username password : List UInt8) : Option Nat :=
  (List.range t.count).find? fun i =>
    strcmpEq username (t.entry i).name &&
      strcmpEq password (t.entry i).pass

/- An entry that is found lies below the count and matches. -/
theorem find?_some
    {t : UserTable}
    {username password : List UInt8}
    {i : Nat}
    (h : t.find? username password = some i) :
    i < t.count ∧
      strcmpEq username (t.entry i).name = true ∧
      strcmpEq password (t.entry i).pass = true := by
  have hMatch := List.find?_some h
  have hMember := List.mem_of_find?_eq_some h
  simp only [Bool.and_eq_true] at hMatch
  exact ⟨List.mem_range.mp hMember, hMatch.1, hMatch.2⟩

/- The credentials of a matching entry, as C strings. -/
def Matches
    (t : UserTable)
    (username password : List UInt8) : Prop :=
  ∃ i < t.count, ∃ name pass,
    (t.entry i).name = some name ∧
      (t.entry i).pass = some pass ∧
      cString name = cString username ∧
      cString pass = cString password

theorem matches_of_find?_some
    {t : UserTable}
    {username password : List UInt8}
    {i : Nat}
    (h : t.find? username password = some i) :
    t.Matches username password := by
  rcases find?_some h with ⟨hBound, hName, hPass⟩
  refine ⟨i, hBound, ?_⟩
  cases hFirst : (t.entry i).name with
  | none => simp [strcmpEq, hFirst] at hName
  | some name =>
      cases hSecond : (t.entry i).pass with
      | none => simp [strcmpEq, hSecond] at hPass
      | some pass =>
          rw [hFirst] at hName
          rw [hSecond] at hPass
          refine ⟨name, pass, rfl, rfl, ?_, ?_⟩
          · simpa [strcmpEq] using hName
          · simpa [strcmpEq] using hPass

end UserTable

------------------------------------------------------------
-- Changes
------------------------------------------------------------

/- The store of an entry at `[count]`, and `count++`. -/
def UserTable.push
    (t : UserTable)
    (entry : UserEntry) : UserTable where
  entry := Function.update t.entry t.count entry
  count := t.count + 1

/- `addUser`; both strings are copied up to their end -/
def addUser
    (t : UserTable)
    (username password : List UInt8) : UserTable :=
  if t.count ≥ maxUsers then t
  else
    t.push {
      name := some (cString username)
      pass := some (cString password)
      held := true }

/-
  One turn of the loop of `deleteUser`: the entry whose
  strings were given to `free`, if any, and the array.
-/
def deleteUserStep
    (username : List UInt8)
    (state : Option UserEntry × (Nat → UserEntry))
    (i : Nat) : Option UserEntry × (Nat → UserEntry) :=
  let users :=
    if state.1.isSome then
      Function.update state.2 (i - 1) (state.2 i)
    else state.2
  if !state.1.isSome && strcmpEq username (users i).name then
    (some (users i), Function.update users i {})
  else
    (state.1, users)

/-
  `deleteUser`; there is no table any more where `free` was
  given what `malloc` had not returned.
-/
def deleteUser
    (t : UserTable)
    (username : List UInt8) : Option UserTable :=
  let looped := (List.range t.count).foldl
    (deleteUserStep username) (none, t.entry)
  match looped.1 with
  | none => some { entry := looped.2, count := t.count }
  | some freed =>
      if freed.held then
        some { entry := looped.2, count := t.count - 1 }
      else none

/- The entries below the count. -/
def UserTable.list (t : UserTable) : List UserEntry :=
  (List.range t.count).map t.entry

theorem UserTable.push_list
    (t : UserTable)
    (entry : UserEntry) :
    (t.push entry).list = t.list ++ [entry] :=
  EraseFirst.front_push t.count t.entry entry

theorem UserTable.length_list
    (t : UserTable) : t.list.length = t.count :=
  EraseFirst.length_front _ _

/- A user is added at the end of a table with room. -/
theorem addUser_list
    {t : UserTable}
    (h : t.count < maxUsers)
    (username password : List UInt8) :
    (addUser t username password).list = t.list ++
      [{ name := some (cString username)
         pass := some (cString password)
         held := true }] := by
  unfold addUser
  rw [if_neg (Nat.not_le.mpr h)]
  exact t.push_list _

/-
  The loop of `deleteUser` is the pass that erases the first
  match.
-/
theorem deleteUser_loop
    (username : List UInt8)
    (users : Nat → UserEntry)
    (n : Nat) :
    (List.range n).foldl (deleteUserStep username)
        (none, users) =
      EraseFirst.loop
        (fun entry => strcmpEq username entry.name) {} n
        users :=
  rfl

/-
  What a deletion does to the list: nothing, it erases the
  first entry with the name, or it ends the process there.
-/
inductive Deleted
    (t : UserTable)
    (username : List UInt8) : Option UserTable → Prop where
  | missing
      (hNone : t.list.find? (fun entry =>
        strcmpEq username entry.name) = none) :
      Deleted t username (some t)
  | erased
      (entry : UserEntry)
      (t' : UserTable)
      (hFound : t.list.find? (fun entry =>
        strcmpEq username entry.name) = some entry)
      (hHeld : entry.held = true)
      (hPos : 0 < t.count)
      (hCount : t'.count = t.count - 1)
      (hList : t'.list = t.list.eraseP fun entry =>
        strcmpEq username entry.name) :
      Deleted t username (some t')
  | given
      (entry : UserEntry)
      (hFound : t.list.find? (fun entry =>
        strcmpEq username entry.name) = some entry)
      (hHeld : entry.held = false) :
      Deleted t username none

theorem deleteUser_cases
    (t : UserTable)
    (username : List UInt8) :
    Deleted t username (deleteUser t username) := by
  have hLoop := EraseFirst.loop_cases (fun entry =>
    strcmpEq username entry.name) {} t.entry t.count
  unfold deleteUser
  rw [deleteUser_loop]
  generalize EraseFirst.loop _ _ _ _ = looped at hLoop
  cases hLoop with
  | missing hOther =>
      apply Deleted.missing
      rw [List.find?_eq_none]
      intro entry hMem hBad
      rw [hOther entry hMem] at hBad
      nomatch hBad
  | erased entry now hPos hIn hNamed hFound hErased hKept =>
      cases hHeld : entry.held with
      | true =>
          dsimp only
          rw [if_pos hHeld]
          exact .erased entry _ hFound hHeld hPos rfl hErased
      | false =>
          dsimp only
          rw [hHeld]
          exact .given entry hFound hHeld

/- What a deletion gives to `free` came from `malloc`. -/
def freesOwn
    (users : List UserEntry)
    (username : List UInt8) : Bool :=
  (users.find? fun entry =>
    strcmpEq username entry.name).all UserEntry.held

/- The terminator of the name plays no part. -/
theorem freesOwn_terminated
    (users : List UserEntry)
    (username : List UInt8) :
    freesOwn users (username ++ [0]) =
      freesOwn users username := by
  unfold freesOwn strcmpEq
  rw [cString_append]

/- Then it returns, and it does not otherwise. -/
theorem deleteUser_isSome
    (t : UserTable)
    (username : List UInt8) :
    (deleteUser t username).isSome =
      freesOwn t.list username := by
  have hCases := deleteUser_cases t username
  unfold freesOwn
  generalize deleteUser t username = after at hCases
  cases hCases with
  | missing hNone =>
      rw [hNone]
      rfl
  | erased entry _ hFound hHeld hPos hCount hList =>
      rw [hFound]
      exact hHeld.symm
  | given entry hFound hHeld =>
      rw [hFound]
      exact hHeld.symm

theorem deleteUser_some
    {t : UserTable}
    {username : List UInt8}
    (h : freesOwn t.list username = true) :
    ∃ t', deleteUser t username = some t' :=
  Option.isSome_iff_exists.mp
    ((deleteUser_isSome t username).trans h)

theorem deleteUser_none
    {t : UserTable}
    {username : List UInt8}
    (h : freesOwn t.list username = false) :
    deleteUser t username = none :=
  Option.isNone_iff_eq_none.mp
    (Option.isSome_eq_false_iff.mp
      ((deleteUser_isSome t username).trans h))

/- A deletion that returns erases the first match, if any. -/
theorem deleteUser_list
    {t t' : UserTable}
    {username : List UInt8}
    (h : deleteUser t username = some t') :
    t'.list = t.list.eraseP fun entry =>
      strcmpEq username entry.name := by
  have hCases := deleteUser_cases t username
  rw [h] at hCases
  cases hCases with
  | missing hNone =>
      exact (List.eraseP_of_forall_not
        (List.find?_eq_none.mp hNone)).symm
  | erased entry _ hFound hHeld hPos hCount hList =>
      exact hList

end Socks5d
