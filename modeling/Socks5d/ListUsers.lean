import Mathlib.Algebra.Order.BigOperators.Group.List
import Socks5d.ManagementRequest

/-
  The reply that lists the users, and the client that prints
  it: `list_users_mng_request_marshall` and `list_users`
  (`client_utils.c`).

  Main declarations:
    * `usersReply`, `listUsersStores`
    * `listUsers_answered_iff`
    * `ListUsers.run`
    * `listUsers_roundTrip`
-/

------------------------------------------------------------
-- The Reply
------------------------------------------------------------

namespace Socks5d

/- A name as it is sent, behind its length. -/
def sentName (name : List UInt8) : List UInt8 :=
  UInt8.ofNat name.length :: name

/- Status, number of users, and their names. -/
def usersReply (names : List (List UInt8)) : List UInt8 :=
  [0x00, UInt8.ofNat names.length] ++ names.flatMap sentName

/- The names of a table, as `strlen` sees them. -/
def UserTable.names (t : UserTable) : List (List UInt8) :=
  t.entries.map fun entry => cString entry.1

/- `aux -= 2` on a `size_t` -/
def afterHeader (n : Nat) : Nat :=
  (n + 2 ^ 64 - 2) % 2 ^ 64

/-
  The bytes that the second loop stores from `buf` on; the
  first loop has let them through or has returned.
-/
def listUsersStores (s : St) : List UInt8 :=
  if usersFit (afterHeader s.conn.writeBuffer.room)
      (s.srv.users.names.map List.length) then
    usersReply s.srv.users.names
  else []

/- A C string of at most 255 bytes below every index. -/
def UserTable.Named (t : UserTable) : Prop :=
  ∀ i < t.count, ∃ name, (t.entry i).name = some name ∧
    (0 : UInt8) ∉ name ∧ name.length ≤ 255

section Replying

variable {s : St}
variable {t : UserTable}

theorem UserTable.length_names
    (t : UserTable) : t.names.length = t.count := by
  unfold UserTable.names UserTable.entries
  rw [List.length_map, List.length_map, List.length_range]

theorem UserTable.Named.entries
    (h : t.Named)
    {entry : List UInt8 × List UInt8}
    (hEntry : entry ∈ t.entries) :
    (0 : UInt8) ∉ entry.1 ∧ entry.1.length ≤ 255 := by
  unfold UserTable.entries at hEntry
  rcases List.mem_map.mp hEntry with ⟨i, hIn, hIs⟩
  rcases h i (List.mem_range.mp hIn) with
    ⟨name, hName, hFree, hLength⟩
  rw [← hIs, hName]
  exact ⟨hFree, hLength⟩

/- The names of such a table are stored as they are. -/
theorem UserTable.Named.names
    (h : t.Named) :
    t.names = t.entries.map Prod.fst := by
  apply List.map_congr_left
  intro entry hEntry
  exact cString_of_notMem (h.entries hEntry).1

theorem UserTable.Named.of_names
    (h : t.Named)
    {name : List UInt8}
    (hName : name ∈ t.names) :
    (0 : UInt8) ∉ name ∧ name.length ≤ 255 := by
  rw [h.names] at hName
  rcases List.mem_map.mp hName with ⟨entry, hEntry, hIs⟩
  rw [← hIs]
  exact h.entries hEntry

theorem length_flatMap_sentName
    (names : List (List UInt8)) :
    (names.flatMap sentName).length =
      (names.map fun name => 1 + name.length).sum := by
  induction names with
  | nil => rfl
  | cons name rest ih =>
      rw [List.flatMap_cons, List.length_append, ih,
        List.map_cons, List.sum_cons]
      unfold sentName
      rw [List.length_cons, Nat.add_comm name.length 1]

theorem length_usersReply
    (names : List (List UInt8)) :
    (usersReply names).length =
      2 + (names.map fun name => 1 + name.length).sum := by
  unfold usersReply
  rw [List.length_append, length_flatMap_sentName]
  rfl

/- The first loop adds up the names, and not their lengths. -/
theorem usersFit_iff
    (aux : Nat)
    (lengths : List Nat) :
    usersFit aux lengths = true ↔ lengths.sum ≤ aux := by
  induction lengths generalizing aux with
  | nil =>
      constructor
      · intro _
        exact Nat.zero_le aux
      · intro _
        rfl
  | cons length rest ih =>
      unfold usersFit
      rw [Bool.and_eq_true, decide_eq_true_eq, ih,
        List.sum_cons]
      omega

theorem sum_le_sum_succ
    (names : List (List UInt8)) :
    (names.map List.length).sum ≤
      (names.map fun name => 1 + name.length).sum := by
  apply List.sum_le_sum
  intro name _
  exact Nat.le_add_left _ _

/- A reply that fits passes the first loop. -/
theorem usersFit_of_fits
    (hFits : (usersReply s.srv.users.names).length ≤
      s.conn.writeBuffer.room) :
    usersFit (afterHeader s.conn.writeBuffer.room)
      (s.srv.users.names.map List.length) = true := by
  have hRoom : s.conn.writeBuffer.room ≤ rawBuffSize :=
    Nat.sub_le _ _
  have hSmall : rawBuffSize < 2 ^ 64 := by decide
  have hSum := sum_le_sum_succ s.srv.users.names
  rw [length_usersReply] at hFits
  rw [usersFit_iff]
  unfold afterHeader
  omega

/- What the function does to the buffer and the program. -/
theorem listUsers_cases
    (s : St) :
    listUsersMngRequestMarshall s =
      if s.conn.writeBuffer.room <
          (listUsersStores s).length then s.crash .assertion
      else marshal s 0 (listUsersStores s) := by
  have hNames : s.srv.users.entries.map (fun entry =>
      cString entry.1) = s.srv.users.names := rfl
  have hCount := s.srv.users.length_names
  have hReply : [0x00, UInt8.ofNat s.srv.users.count] ++
      s.srv.users.names.flatMap (fun name =>
        UInt8.ofNat name.length :: name) =
      usersReply s.srv.users.names := by
    unfold usersReply
    rw [hCount]
    rfl
  have hAux : (s.conn.writeBuffer.room + 2 ^ 64 - 2) %
      2 ^ 64 = afterHeader s.conn.writeBuffer.room := rfl
  unfold listUsersMngRequestMarshall listUsersStores
  dsimp only
  rw [hNames, hReply, hAux]
  split
  · rfl
  · have hNone : marshal s 0 [] = s := by
      have hSame : s.conn.writeBuffer.writeAdv [] =
          s.conn.writeBuffer := by
        apply Buffer.ext_of
        · rfl
        · rw [Buffer.writeAdv_pending, List.take_nil,
            List.append_nil]
      unfold marshal
      rw [if_neg (Nat.not_lt_zero _), hSame]
    have hShort : ¬ s.conn.writeBuffer.room <
        ([] : List UInt8).length := Nat.not_lt_zero _
    rw [if_neg hShort, hNone]

/-
  What is asked of an answer: no byte is stored behind the
  space that was reported, no assertion fails, and a reply is
  appended, the whole one if it fits, and a status otherwise.
-/
structure ListUsersAnswered (s : St) : Prop where
  bounded : (listUsersStores s).length ≤
    s.conn.writeBuffer.room
  calm : (listUsersMngRequestMarshall s).srv.fault =
    s.srv.fault
  replied : ∃ reply, reply ≠ [] ∧
    (listUsersMngRequestMarshall s).conn.writeBuffer.pending =
      s.conn.writeBuffer.pending ++ reply ∧
    if (usersReply s.srv.users.names).length ≤
        s.conn.writeBuffer.room then
      reply = usersReply s.srv.users.names
    else ∃ status : MngReplyStatus, status ≠ .succeeded ∧
      reply = [status.code]

/- The whole reply, when it fits. -/
theorem listUsers_reply
    (hFits : (usersReply s.srv.users.names).length ≤
      s.conn.writeBuffer.room) :
    listUsersStores s = usersReply s.srv.users.names ∧
      listUsersMngRequestMarshall s =
        marshal s 0 (usersReply s.srv.users.names) ∧
      (listUsersMngRequestMarshall
          s).conn.writeBuffer.pending =
        s.conn.writeBuffer.pending ++
          usersReply s.srv.users.names := by
  have hStores : listUsersStores s =
      usersReply s.srv.users.names :=
    if_pos (usersFit_of_fits hFits)
  have hEq := listUsers_cases s
  rw [hStores, if_neg (Nat.not_lt.mpr hFits)] at hEq
  refine ⟨hStores, hEq, ?_⟩
  rw [hEq]
  unfold marshal
  rw [if_neg (Nat.not_lt_zero _), Buffer.writeAdv_pending,
    List.take_of_length_le hFits]

/-
  The answer is as it should be if and only if the whole
  reply fits: a longer one is cut off by nothing, or nothing
  is sent.
-/
theorem listUsers_answered_iff
    (s : St)
    (hNamed : s.srv.users.Named) :
    ListUsersAnswered s ↔
      2 + (s.srv.users.entries.map fun entry =>
          1 + entry.1.length).sum ≤
        s.conn.writeBuffer.room := by
  have hLength : (usersReply s.srv.users.names).length =
      2 + (s.srv.users.entries.map fun entry =>
        1 + entry.1.length).sum := by
    rw [length_usersReply, hNamed.names, List.map_map]
    rfl
  rw [← hLength]
  constructor
  · intro hAnswered
    have hBound := hAnswered.bounded
    rcases hAnswered.replied with ⟨reply, hSome, hReply, _⟩
    by_cases hFit : usersFit
        (afterHeader s.conn.writeBuffer.room)
        (s.srv.users.names.map List.length) = true
    · have hStores : listUsersStores s =
          usersReply s.srv.users.names := if_pos hFit
      rw [hStores] at hBound
      exact hBound
    · -- the first loop returns, and nothing is appended
      exfalso
      have hStores : listUsersStores s = [] := if_neg hFit
      have hShort : ¬ s.conn.writeBuffer.room <
          ([] : List UInt8).length := Nat.not_lt_zero _
      rw [listUsers_cases, hStores, if_neg hShort] at hReply
      unfold marshal at hReply
      rw [if_neg (Nat.not_lt_zero _), Buffer.writeAdv_pending,
        List.take_nil] at hReply
      exact hSome (List.append_cancel_left hReply).symm
  · intro hFits
    rcases listUsers_reply hFits with ⟨hStores, hEq, hReply⟩
    constructor
    · rw [hStores]
      exact hFits
    · rw [hEq]
      unfold marshal
      rw [if_neg (Nat.not_lt_zero _)]
    · refine ⟨usersReply s.srv.users.names, ?_, hReply, ?_⟩
      · intro hBad
        nomatch hBad
      · rw [if_pos hFits]

end Replying

end Socks5d

------------------------------------------------------------
-- Two Tables
------------------------------------------------------------

namespace Socks5d

/- A connection that lists the users of a table. -/
def listing (users : UserTable) : St where
  srv := {
    users
    admins := ⟨fun _ => {}, 0⟩
    authMethod := methodUsernamePassword
    passwordDissectors := 0
    metrics := {}
    sel := { fds := fun _ => none, opened := fun _ => none }
    references := fun _ => 0
    handedBack := fun _ => 0
    threads := []
    jobs := []
    lost := []
    fault := none }
  conn := { isSocks := false, clientFd := 5 }

/- One user. -/
def oneUser : UserTable :=
  addUser ⟨fun _ => {}, 0⟩ [0x61] [0x62]

theorem oneUser_named : oneUser.Named := by
  intro i hLt
  have hZero : i = 0 := Nat.lt_one_iff.mp hLt
  rw [hZero]
  exact ⟨[0x61], rfl, by decide, by decide⟩

theorem listUsers_answered_one :
    ListUsersAnswered (listing oneUser) :=
  (listUsers_answered_iff (listing oneUser)
    oneUser_named).mpr (by decide)

/- Eight users with names as long as they may be. -/
def longNames : UserTable where
  entry := fun _ => {
    name := some (List.replicate 255 0x61)
    pass := some [0x62] }
  count := 8

/- Two bytes more than there is room for are stored. -/
theorem listUsers_overflows :
    (listing longNames).conn.writeBuffer.room = 2048 ∧
      (listUsersStores (listing longNames)).length = 2050 ∧
      (listUsersMngRequestMarshall
        (listing longNames)).srv.fault = some .assertion ∧
      ¬ ListUsersAnswered (listing longNames) := by
  have hStores : (listUsersStores (listing
      longNames)).length = 2050 := by decide +kernel
  refine ⟨by decide, hStores, by decide +kernel, ?_⟩
  intro hBad
  have hBound := hBad.bounded
  rw [hStores] at hBound
  exact absurd hBound (by decide)

end Socks5d

------------------------------------------------------------
-- The Client
------------------------------------------------------------

namespace Socks5d

/-
  The variables of `list_users`, the lines that `printf` has
  written, and the positions of the buffer that were read.
-/
structure ListUsers where
  index : Nat := 2
  aux : List UInt8
  printed : List (List UInt8) := []
  reads : List Nat := [1]

namespace ListUsers

/-
  `strncpy`: up to `n` bytes, padded with zeros after the
  terminator, at the front of the destination.
-/
def strncpy
    (dest src : List UInt8)
    (n : Nat) : List UInt8 :=
  let text := cString (src.take n)
  text ++ List.replicate (n - text.length) 0 ++ dest.drop n

/- How many bytes of the source `strncpy` looks at. -/
def strncpyReads
    (src : List UInt8)
    (n : Nat) : Nat :=
  min n ((cString (src.take n)).length + 1)

/- One turn; `user_len` is an unsigned byte again. -/
def turn
    (buffer : List UInt8)
    (s : ListUsers) : ListUsers :=
  let userLen := (buffer.getD s.index 0).toNat
  let index := s.index + 1
  let src := buffer.drop index
  let aux := (strncpy s.aux src userLen).set userLen 0
  { index := index + userLen
    aux := aux
    printed := s.printed ++ [cString aux]
    reads := s.reads ++ s.index ::
      (List.range (strncpyReads src userLen)).map
        (index + ·) }

/- As many turns as there are users. -/
def turns
    (buffer : List UInt8) :
    Nat → ListUsers → ListUsers
| 0, s => s
| n + 1, s => turns buffer n (turn buffer s)

/-
  `list_users`, on what `aux` holds before; an 8-bit counter
  gets to the number of users.
-/
def run
    (aux buffer : List UInt8) : ListUsers :=
  turns buffer (buffer.getD 1 0).toNat { aux }

section Printing

variable {aux buffer front rest : List UInt8}
variable {name : List UInt8}
variable {names : List (List UInt8)}
variable {s : ListUsers}

/-
  A turn at a record prints its name and comes to the next
  record; only the record is read.
-/
theorem turn_record
    (hBuffer : buffer = front ++ sentName name ++ rest)
    (hIndex : s.index = front.length)
    (hFree : (0 : UInt8) ∉ name)
    (hLength : name.length ≤ 255)
    (hAux : s.aux.length = 256) :
    (turn buffer s).index =
        (front ++ sentName name).length ∧
      (turn buffer s).aux.length = 256 ∧
      (turn buffer s).printed = s.printed ++ [name] ∧
      ∀ i ∈ (turn buffer s).reads, i ∈ s.reads ∨
        i < (front ++ sentName name).length := by
  have hSplit : buffer = front ++
      (UInt8.ofNat name.length :: (name ++ rest)) := by
    rw [hBuffer, List.append_assoc]
    rfl
  have hByte : (buffer.getD s.index 0).toNat =
      name.length := by
    rw [hSplit, hIndex, List.getD_eq_getElem?_getD,
      List.getElem?_append_right (Nat.le_refl _),
      Nat.sub_self]
    exact UInt8.toNat_ofNat_of_lt' (Nat.lt_succ_of_le hLength)
  have hSrc : buffer.drop (s.index + 1) = name ++ rest := by
    rw [hSplit, hIndex, ← List.drop_drop, List.drop_left]
    rfl
  have hText : cString ((name ++ rest).take name.length) =
      name := by
    rw [List.take_left]
    exact cString_of_notMem hFree
  have hCopied : strncpy s.aux (name ++ rest) name.length =
      name ++ s.aux.drop name.length := by
    unfold strncpy
    simp only [hText, Nat.sub_self, List.replicate_zero,
      List.append_nil]
  have hTail : (s.aux.drop name.length).set 0 0 =
      0 :: s.aux.drop (name.length + 1) := by
    rw [List.drop_eq_getElem_cons (by omega)]
    rfl
  have hEnded : (strncpy s.aux (name ++ rest)
      name.length).set name.length 0 =
        name ++ 0 :: s.aux.drop (name.length + 1) := by
    rw [hCopied, List.set_append_right _ _ (Nat.le_refl _),
      Nat.sub_self, hTail]
  have hSent : (front ++ sentName name).length =
      front.length + 1 + name.length := by
    rw [List.length_append]
    unfold sentName
    rw [List.length_cons]
    omega
  unfold turn
  dsimp only
  rw [hByte, hSrc, hEnded, hSent]
  refine ⟨?_, ?_, ?_, ?_⟩
  · rw [hIndex]
  · rw [List.length_append, List.length_cons,
      List.length_drop, hAux]
    omega
  · rw [cString_stored hFree]
  · intro i hMem
    rcases List.mem_append.mp hMem with hOld | hNew
    · exact Or.inl hOld
    · right
      rcases List.mem_cons.mp hNew with hHere | hCopy
      · omega
      · rcases List.mem_map.mp hCopy with ⟨j, hJ, hIs⟩
        have hLess : j < strncpyReads (name ++ rest)
            name.length := List.mem_range.mp hJ
        unfold strncpyReads at hLess
        omega

/-
  The turns for a list of records print all of its names. The
  induction is on the records; what is in front of them and
  behind them is free.
-/
theorem turns_records
    (hBuffer : buffer =
      front ++ names.flatMap sentName ++ rest)
    (hIndex : s.index = front.length)
    (hNames : ∀ name ∈ names,
      (0 : UInt8) ∉ name ∧ name.length ≤ 255)
    (hAux : s.aux.length = 256) :
    (turns buffer names.length s).printed =
        s.printed ++ names ∧
      ∀ i ∈ (turns buffer names.length s).reads,
        i ∈ s.reads ∨
          i < (front ++ names.flatMap sentName).length := by
  induction names generalizing front s with
  | nil =>
      constructor
      · rw [List.append_nil]
        rfl
      · intro i hMem
        exact Or.inl hMem
  | cons name more ih =>
      have hName := hNames name List.mem_cons_self
      rw [List.flatMap_cons, ← List.append_assoc] at hBuffer
      have hFirst : buffer = front ++ sentName name ++
          (more.flatMap sentName ++ rest) := by
        rw [hBuffer, List.append_assoc]
      rcases turn_record hFirst hIndex hName.1 hName.2 hAux with
        ⟨hNext, hStill, hPrinted, hReads⟩
      rcases ih hBuffer hNext (fun other hMem =>
        hNames other (List.mem_cons_of_mem _ hMem)) hStill with
        ⟨hAll, hLater⟩
      have hTurns : turns buffer (name :: more).length s =
          turns buffer more.length (turn buffer s) := rfl
      rw [hTurns, List.flatMap_cons, ← List.append_assoc]
      constructor
      · rw [hAll, hPrinted, List.append_assoc]
        rfl
      · intro i hMem
        rcases hLater i hMem with hHere | hBound
        · rcases hReads i hHere with hOld | hLess
          · exact Or.inl hOld
          · right
            rw [List.length_append]
            exact Nat.lt_of_lt_of_le hLess
              (Nat.le_add_right _ _)
        · exact Or.inr hBound

/- The client prints the names of a whole reply. -/
theorem run_usersReply
    (hCount : names.length ≤ 255)
    (hNames : ∀ name ∈ names,
      (0 : UInt8) ∉ name ∧ name.length ≤ 255)
    (hAux : aux.length = 256)
    (rest : List UInt8) :
    (run aux (usersReply names ++ rest)).printed = names ∧
      ∀ i ∈ (run aux (usersReply names ++ rest)).reads,
        i < (usersReply names).length := by
  have hByte : ((usersReply names ++ rest).getD 1 0).toNat =
      names.length :=
    UInt8.toNat_ofNat_of_lt' (Nat.lt_succ_of_le hCount)
  have hBuffer : usersReply names ++ rest =
      [0x00, UInt8.ofNat names.length] ++
        names.flatMap sentName ++ rest := rfl
  have hStart : ({ aux } : ListUsers).index =
      [0x00, UInt8.ofNat names.length].length := rfl
  have hTurns := turns_records hBuffer hStart hNames hAux
  unfold run
  rw [hByte]
  constructor
  · exact hTurns.1
  · intro i hMem
    rcases hTurns.2 i hMem with hFirst | hLess
    · rw [List.mem_singleton.mp hFirst]
      rw [length_usersReply]
      omega
    · exact hLess

end Printing

end ListUsers

/-
  A table whose encoding fits the space of the server and the
  500 bytes of the client is printed as it is: every name,
  in the order of the table, and nothing behind the reply is
  read, whatever the arrays of the client hold.
-/
theorem listUsers_roundTrip
    (s : St)
    (hCount : s.srv.users.count ≤ maxUsers)
    (hNamed : s.srv.users.Named)
    (hServer : 2 + (s.srv.users.entries.map fun entry =>
      1 + entry.1.length).sum ≤ s.conn.writeBuffer.room)
    (hClient : 2 + (s.srv.users.entries.map fun entry =>
      1 + entry.1.length).sum ≤ 500) :
    ∃ reply,
      (listUsersMngRequestMarshall
          s).conn.writeBuffer.pending =
        s.conn.writeBuffer.pending ++ reply ∧
      reply.length ≤ 500 ∧
      ∀ aux rest : List UInt8, aux.length = 256 →
        (reply ++ rest).length = 500 →
          (ListUsers.run aux (reply ++ rest)).printed =
            s.srv.users.entries.map Prod.fst ∧
          ∀ i ∈ (ListUsers.run aux (reply ++ rest)).reads,
            i < reply.length := by
  have hLength : (usersReply s.srv.users.names).length =
      2 + (s.srv.users.entries.map fun entry =>
        1 + entry.1.length).sum := by
    rw [length_usersReply, hNamed.names, List.map_map]
    rfl
  rw [← hLength] at hServer hClient
  rcases listUsers_reply hServer with ⟨_, _, hReply⟩
  refine ⟨_, hReply, hClient, ?_⟩
  intro aux rest hAux _
  rw [← hNamed.names]
  apply ListUsers.run_usersReply
  · rw [s.srv.users.length_names]
    exact hCount
  · intro name hName
    exact hNamed.of_names hName
  · exact hAux

theorem listUsers_roundTrip_one :
    ∃ reply,
      (listUsersMngRequestMarshall
          (listing oneUser)).conn.writeBuffer.pending =
        [] ++ reply ∧
      reply.length ≤ 500 ∧
      ∀ aux rest : List UInt8, aux.length = 256 →
        (reply ++ rest).length = 500 →
          (ListUsers.run aux (reply ++ rest)).printed =
            oneUser.entries.map Prod.fst ∧
          ∀ i ∈ (ListUsers.run aux (reply ++ rest)).reads,
            i < reply.length :=
  listUsers_roundTrip (listing oneUser) (by decide)
    oneUser_named (by decide) (by decide)

end Socks5d
