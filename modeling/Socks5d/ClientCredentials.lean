import Socks5d.AuthDecisions

/-
  The credentials that the management client sends:
  `send_credentials` of `client_utils.c`, and what the server
  reads of them.

  A string of the client is the list of its bytes before the
  terminator.

  Main declarations:
    * `sendCredentialsStores`, `credentialsSent`
    * `ServerReads`
    * `credentials_agree_iff`
-/

------------------------------------------------------------
-- The Client's Buffer
------------------------------------------------------------

namespace Socks5d

/- The size of `buffer` in `send_credentials`. -/
abbrev credentialsSize : Nat := 510

/- `buffer[i] = byte` -/
structure ByteStore where
  index : Nat
  byte : UInt8
deriving DecidableEq

/- The stores of `strcpy` at an index. -/
def strcpyStores : Nat → List UInt8 → List ByteStore
| i, [] => [⟨i, 0⟩]
| i, b :: rest => ⟨i, b⟩ :: strcpyStores (i + 1) rest

/- The stores of `send_credentials`, in order. -/
def sendCredentialsStores
    (username password : List UInt8) : List ByteStore :=
  let userlen := username.length
  let passlen := password.length
  [⟨0, 0x01⟩, ⟨1, UInt8.ofNat userlen⟩] ++
    strcpyStores 2 username ++
    [⟨2 + userlen, UInt8.ofNat passlen⟩] ++
    strcpyStores (3 + userlen) password

/- The memory from the buffer on after some stores. -/
def storeAll
    (memory : Nat → UInt8)
    (stores : List ByteStore) : Nat → UInt8 :=
  stores.foldl
    (fun memory store =>
      Function.update memory store.index store.byte)
    memory

/- The bytes that `send` is given. -/
def credentialsSent
    (memory : Nat → UInt8)
    (username password : List UInt8) : List UInt8 :=
  (List.range (username.length + password.length + 3)).map
    (storeAll memory (sendCredentialsStores username password))

/- Every store is in the buffer. -/
def CredentialsFit (username password : List UInt8) : Prop :=
  ∀ store ∈ sendCredentialsStores username password,
    store.index < credentialsSize

/-
  However the bytes are cut, `auth_read` leaves its state with
  the last of them, and has then read the two strings.
-/
def ServerReads (username password bytes : List UInt8) : Prop :=
  ∀ key a s calls r later,
    a.alloc .userpass = true →
    s.conn.readBuffer.pending = [] →
    Calls authRead USERPASS_READ key (authReadInit key a s)
      calls r →
    (∀ call ∈ calls, call.1.recvBytes call.2 ≠ []) →
    received calls ++ later = bytes →
      (r.2 ≠ USERPASS_READ ↔ later = []) ∧
        (later = [] →
          r.1.conn.userpass.parser.current = .doneRead ∧
          r.1.conn.userpass.parser.resultAt 2 =
            some (username ++ [0]) ∧
          r.1.conn.userpass.parser.resultAt 4 =
            some (password ++ [0]) ∧
          r.1.conn.readBuffer.pending = [])

section Copying

variable {memory : Nat → UInt8}
variable {username password text : List UInt8}
variable {i j : Nat}

theorem storeAll_append
    (memory : Nat → UInt8)
    (first second : List ByteStore) :
    storeAll memory (first ++ second) =
      storeAll (storeAll memory first) second := by
  unfold storeAll
  rw [List.foldl_append]

/- What every address holds after a copy. -/
theorem storeAll_strcpy
    (memory : Nat → UInt8)
    (i : Nat)
    (text : List UInt8)
    (j : Nat) :
    storeAll memory (strcpyStores i text) j =
      if i ≤ j then
        ((text ++ [0])[j - i]?).getD (memory j)
      else memory j := by
  induction text generalizing memory i with
  | nil =>
      show Function.update memory i 0 j = _
      by_cases hHere : j = i
      · subst hHere
        simp
      · rw [Function.update_of_ne hHere]
        split
        · rename_i hLe
          have hLt : j - i ≠ 0 := by omega
          simp [hLt]
        · rfl
  | cons b rest ih =>
      show storeAll (Function.update memory i b)
        (strcpyStores (i + 1) rest) j = _
      rw [ih]
      by_cases hHere : j = i
      · subst hHere
        simp
      · rw [Function.update_of_ne hHere]
        by_cases hLe : i ≤ j
        · have hNext : i + 1 ≤ j := by omega
          have hIndex : j - i = j - (i + 1) + 1 := by omega
          rw [if_pos hLe, if_pos hNext, hIndex,
            List.cons_append, List.getElem?_cons_succ]
        · have hNext : ¬ i + 1 ≤ j := by omega
          rw [if_neg hLe, if_neg hNext]

/- Where a copy stores. -/
theorem strcpyStores_index
    {n : Nat} :
    (∀ store ∈ strcpyStores i text, store.index < n) ↔
      i + text.length < n := by
  induction text generalizing i with
  | nil => simp [strcpyStores]
  | cons b rest ih =>
      rw [strcpyStores, List.forall_mem_cons, ih,
        List.length_cons]
      dsimp only
      omega

/- All stores are inside when the two strings are short. -/
theorem credentialsFit_iff :
    CredentialsFit username password ↔
      username.length + password.length ≤ 506 := by
  have hSize : credentialsSize = 510 := rfl
  unfold CredentialsFit sendCredentialsStores
  simp only [List.forall_mem_append, strcpyStores_index,
    List.forall_mem_cons, List.not_mem_nil, false_implies,
    implies_true, and_true]
  omega

/- What the client's buffer holds at every index. -/
theorem storeAll_credentials
    (memory : Nat → UInt8)
    (username password : List UInt8)
    (j : Nat)
    (hIn : j < username.length + password.length + 3) :
    storeAll memory
        (sendCredentialsStores username password) j =
      if 3 + username.length ≤ j then
        (password[j - (3 + username.length)]?).getD 0
      else if j = 2 + username.length then
        UInt8.ofNat password.length
      else if 2 ≤ j then (username[j - 2]?).getD 0
      else if j = 1 then UInt8.ofNat username.length
      else 0x01 := by
  have hText : ∀ (text : List UInt8) n other,
      n < text.length →
        ((text ++ [0])[n]?).getD other =
          (text[n]?).getD 0 := by
    intro text n other hLt
    rw [List.getElem?_append_left hLt,
      List.getElem?_eq_getElem hLt]
    rfl
  unfold sendCredentialsStores
  simp only [storeAll_append, storeAll_strcpy]
  split
  · apply hText
    omega
  · rename_i hFront
    show Function.update _ (2 + username.length) _ j = _
    split
    · rename_i hHere
      rw [hHere, Function.update_self]
    · rename_i hOther
      rw [Function.update_of_ne hOther, storeAll_strcpy]
      split
      · apply hText
        omega
      · show Function.update (Function.update memory 0 _) 1
          _ j = _
        split
        · rename_i hOne
          rw [hOne, Function.update_self]
        · rename_i hNot
          have hZero : j = 0 := by omega
          rw [Function.update_of_ne hNot, hZero,
            Function.update_self]

/- What is sent is a login message. -/
theorem credentialsSent_eq
    (memory : Nat → UInt8)
    (username password : List UInt8) :
    credentialsSent memory username password =
      loginMessage username password := by
  apply List.ext_getElem?
  intro j
  unfold credentialsSent loginMessage
  rw [List.getElem?_map]
  by_cases hIn : j < username.length + password.length + 3
  · rw [List.getElem?_range hIn, Option.map_some,
      storeAll_credentials memory username password j hIn]
    rcases j with _ | _ | j
    · have hFar : ¬ 3 + username.length ≤ 0 := by omega
      have hOther : ¬ 0 = 2 + username.length := by omega
      rw [if_neg hFar, if_neg hOther]
      rfl
    · have hFar : ¬ 3 + username.length ≤ 1 := by omega
      have hOther : ¬ 1 = 2 + username.length := by omega
      simp [hFar, hOther]
    · show _ = (username ++ UInt8.ofNat password.length ::
        password)[j]?
      by_cases hUser : j < username.length
      · have hFar : ¬ 3 + username.length ≤ j + 1 + 1 := by
          omega
        have hOther : ¬ j + 1 + 1 = 2 + username.length := by
          omega
        rw [if_neg hFar, if_neg hOther, if_pos (by omega),
          List.getElem?_append_left hUser]
        simp [hUser]
      · have hRest : username.length ≤ j := by omega
        rw [List.getElem?_append_right hRest]
        by_cases hHere : j = username.length
        · subst hHere
          have hFar : ¬ 3 + username.length ≤
              username.length + 1 + 1 := by omega
          have hEq : username.length + 1 + 1 =
              2 + username.length := by omega
          rw [if_neg hFar, if_pos hEq]
          simp
        · have hFar : 3 + username.length ≤ j + 1 + 1 := by
            omega
          have hIndex : j - username.length =
              j + 1 + 1 - (3 + username.length) + 1 := by
            omega
          have hLt : j + 1 + 1 - (3 + username.length) <
              password.length := by omega
          rw [if_pos hFar, hIndex, List.getElem?_cons_succ]
          simp [hLt]
  · have hLong : (0x01 :: UInt8.ofNat username.length ::
        username ++ UInt8.ofNat password.length ::
          password).length ≤ j := by
      simp only [List.length_append, List.length_cons]
      omega
    rw [List.getElem?_eq_none hLong,
      List.getElem?_eq_none (by
        rw [List.length_range]
        omega)]
    rfl

end Copying

end Socks5d

------------------------------------------------------------
-- What The Server Reads
------------------------------------------------------------

namespace Socks5d

section Reading

variable {username password : List UInt8}

theorem login_serverReads
    (hUser : username.length ≤ 255)
    (hPass : password.length ≤ 255) :
    ServerReads username password
      (loginMessage username password) := by
  intro key a s calls r later hAlloc hRead hRun hSome hBytes
  rcases authReadInit_ready (s := s) key hAlloc with
    ⟨hReady, hParser, hBuffer⟩
  rw [← hBuffer] at hRead
  have hFed := hRun.fed (authRead_feeds s.conn) hReady hRead
    hSome
  rw [hParser] at hFed
  rcases hFed with ⟨hAfter, hLeft, hStays⟩
  have hLength := congrArg List.length hBytes
  rw [List.length_append] at hLength
  have hStream : received calls ++ later =
      loginMessage username password ++ [] := by
    rw [hBytes, List.append_nil]
  rcases login_cases hUser hPass hStream with
    ⟨hWhole, rest, hSplit, hConsume⟩ | ⟨hPart, hGoing⟩
  · have hLast : later = [] := by
      apply List.eq_nil_of_length_eq_zero
      omega
    have hRest : rest = [] := by
      apply List.eq_nil_of_length_eq_zero
      have hSum := congrArg List.length hSplit
      rw [List.length_append] at hSum
      omega
    rcases (login_stops hUser hPass).2 with
      ⟨hDone, hName, hWord⟩
    rw [hConsume] at hAfter hLeft
    refine ⟨⟨fun _ => hLast, fun _ hStay => ?_⟩, fun _ => ?_⟩
    · have hGoing := hStays.1 hStay
      rw [hAfter] at hGoing
      change isDone _ = false at hGoing
      rw [hDone] at hGoing
      nomatch hGoing
    · rw [hAfter]
      exact ⟨hDone, hName, hWord, hLeft.trans hRest⟩
  · have hMore : later ≠ [] := by
      intro hNil
      rw [hNil, List.length_nil] at hLength
      omega
    have hStill : r.2 = USERPASS_READ := by
      apply hStays.2
      rw [hAfter]
      exact hGoing
    exact ⟨⟨fun hBad => absurd hStill hBad, fun hBad =>
      absurd hBad hMore⟩, fun hBad => absurd hBad hMore⟩

/-
  The stores of the client stay in its buffer and the server
  reads what was meant, if and only if the two strings have
  at most 506 bytes together.
-/
theorem credentials_agree_iff
    (memory : Nat → UInt8)
    (username password : List UInt8)
    (hUser : username.length ≤ 255)
    (hPass : password.length ≤ 255) :
    CredentialsFit username password ∧
        ServerReads username password
          (credentialsSent memory username password) ↔
      username.length + password.length ≤ 506 := by
  rw [credentialsSent_eq, credentialsFit_iff]
  exact and_iff_left (login_serverReads hUser hPass)

theorem credentials_agree_iff_admin :
    CredentialsFit [0x61] [0x62] ∧
        ServerReads [0x61] [0x62]
          (credentialsSent (fun _ => 0) [0x61] [0x62]) ↔
      1 + 1 ≤ 506 :=
  credentials_agree_iff (fun _ => 0) [0x61] [0x62]
    (by decide) (by decide)

/- The longest name and password do not fit. -/
theorem credentials_overflow :
    ¬ CredentialsFit (List.replicate 255 0x61)
      (List.replicate 255 0x62) := by
  rw [credentialsFit_iff, List.length_replicate,
    List.length_replicate]
  decide

end Reading

end Socks5d
