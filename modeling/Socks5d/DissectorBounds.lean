import Socks5d.PasswordParser

/-
  The arrays of the dissector: which elements of the reserved
  words a byte reads, which elements of the two heap blocks it
  stores into, and why all of them lie inside.

  Main declarations:
    * `Lookup`, `passwordParserLookups`
    * `userReadHandler_lookups` and its siblings
    * `BlockStore`, `passwordParserStores`
    * `PasswordParser.Bounded`
    * `dissector_bounds`
-/

------------------------------------------------------------
-- What One Byte Touches
------------------------------------------------------------

namespace Socks5d

/- An element of a reserved word that is read. -/
structure Lookup where
  word : List UInt8
  index : Nat
deriving DecidableEq

def Lookup.Inside (lookup : Lookup) : Prop :=
  lookup.index < lookup.word.length

/-
  A store into the block that a pointer names, after
  `checkSize` has been called for the index.
-/
structure BlockStore where
  block : Option HeapBlock
  index : Nat
  byte : UInt8
deriving DecidableEq

namespace BlockStore

variable (store : BlockStore)

/- The block after `checkSize`. -/
def checked : Option HeapBlock :=
  checkSize store.block store.index

/- The block after the store. -/
def stored : Option HeapBlock :=
  store.checked.map (·.put store.index store.byte)

/- The capacity before; a text starts with a new block. -/
def capacity : Nat :=
  if store.index = 0 then 0
  else (store.block.map HeapBlock.capacity).getD 0

/-
  The block is there, and its capacity is beyond the index;
  it has grown exactly at the multiples of `BUFFER_SIZE`.
-/
def Inside : Prop :=
  ∃ block, store.checked = some block ∧
    store.index < block.capacity ∧
    block.capacity = store.capacity +
      if store.index % passwordBufferSize = 0 then
        passwordBufferSize
      else 0

end BlockStore

/- The first byte of a user line, as all restarts read it. -/
def restartLookup : Lookup where
  word := userReservedPop3Word
  index := 0

/- A byte of a reserved word, and the restart without it. -/
def wordLookups
    (word : List UInt8)
    (p : PasswordParser)
    (b : UInt8) : List Lookup :=
  ⟨word, p.currentIndex⟩ ::
    if word[p.currentIndex]? = some b then []
    else [restartLookup]

/- The restarts of `user_read_handler`. -/
def userReadLookups
    (p : PasswordParser)
    (b : UInt8) : List Lookup :=
  if p.currentIndex ≥ 255 then [restartLookup]
  else if p.last && b != 0x0A then [restartLookup]
  else if b = 0x0D then []
  else if b = 0x0A then []
  else if isascii b then []
  else [restartLookup]

/- The restarts of `pass_read_handler`. -/
def passReadLookups
    (p : PasswordParser)
    (b : UInt8) : List Lookup :=
  if p.currentIndex ≥ 255 then [restartLookup]
  else if p.last && b != 0x0A then [restartLookup]
  else if b = 0x0D then []
  else if b = 0x0A then [restartLookup]
  else if isascii b then []
  else [restartLookup]

/- The stores of the two handlers that read a line. -/
def lineStores
    (block : Option HeapBlock)
    (p : PasswordParser)
    (b : UInt8) : List BlockStore :=
  let i := p.currentIndex
  if i ≥ 255 then []
  else if p.last && b != 0x0A then []
  else if b = 0x0D then []
  else if b = 0x0A then [⟨block, i, 0⟩]
  else if isascii b then [⟨block, i, b⟩]
  else []

def userReadStores
    (p : PasswordParser)
    (b : UInt8) : List BlockStore :=
  lineStores p.username p b

def passReadStores
    (p : PasswordParser)
    (b : UInt8) : List BlockStore :=
  lineStores p.password p b

/- What `password_parser_feed` reads of the two words. -/
def passwordParserLookups
    (p : PasswordParser)
    (b : UInt8) : List Lookup :=
  match p.current with
  | .userWordSearch => wordLookups userReservedPop3Word p b
  | .userRead => userReadLookups p b
  | .passWordSearch => wordLookups passReservedPop3Word p b
  | .passRead => passReadLookups p b

/- What it stores into `username` and `password`. -/
def passwordParserStores
    (p : PasswordParser)
    (b : UInt8) : List BlockStore :=
  match p.current with
  | .userRead => userReadStores p b
  | .passRead => passReadStores p b
  | _ => []

/-
  A search for the user word goes on exactly where its only
  look is at the word.
-/
theorem userWordSearchHandler_lookups
    (p : PasswordParser)
    (b : UInt8) :
    wordLookups userReservedPop3Word p b =
        [⟨userReservedPop3Word, p.currentIndex⟩] ↔
      (userWordSearchHandler p b).current = .userRead ∨
        (userWordSearchHandler p b).currentIndex =
          p.currentIndex + 1 := by
  unfold wordLookups userWordSearchHandler restartUserWord
  by_cases hMatch :
      userReservedPop3Word[p.currentIndex]? = some b
  · simp only [if_pos hMatch, true_iff]
    split
    · exact Or.inl rfl
    · exact Or.inr rfl
  · simp only [if_neg hMatch]
    constructor
    · intro hBad
      nomatch (List.cons.inj hBad).2
    · rintro (hBad | hIndex)
      · nomatch hBad
      · exfalso
        by_cases hZero : p.currentIndex = 0
        · rw [hZero] at hMatch hIndex
          rw [if_neg hMatch] at hIndex
          nomatch hIndex
        · split at hIndex
          · omega
          · nomatch hIndex

/-
  The other handlers look at the first byte of a user line
  exactly where they begin to search for one.
-/
theorem passWordSearchHandler_lookups
    (p : PasswordParser)
    (b : UInt8) :
    restartLookup ∈ wordLookups passReservedPop3Word p b ↔
      (passWordSearchHandler p b).current =
        .userWordSearch := by
  have hFirst : restartLookup ≠
      ⟨passReservedPop3Word, p.currentIndex⟩ := by
    intro hBad
    nomatch (Lookup.mk.inj hBad).1
  unfold wordLookups passWordSearchHandler restartUserWord
  by_cases hMatch :
      passReservedPop3Word[p.currentIndex]? = some b
  · simp only [if_pos hMatch, List.mem_singleton, hFirst,
      false_iff]
    split
    · exact fun hBad => nomatch hBad
    · exact fun hBad => nomatch hBad
  · simp only [if_neg hMatch, List.mem_cons, or_true,
      true_or]

theorem userReadHandler_lookups
    (p : PasswordParser)
    (b : UInt8) :
    restartLookup ∈ userReadLookups p b ↔
      (userReadHandler p b).current = .userWordSearch := by
  unfold userReadLookups userReadHandler userReadReset
    restartUserWord
  dsimp only
  split_ifs
  all_goals simp

theorem passReadHandler_lookups
    (p : PasswordParser)
    (b : UInt8) :
    restartLookup ∈ passReadLookups p b ↔
      (passReadHandler p b).1.current = .userWordSearch := by
  unfold passReadLookups passReadHandler userReadReset
    passReadReset restartUserWord
  dsimp only
  split_ifs
  all_goals simp

/- The block that the stores of a byte leave. -/
def storedBlock
    (block : Option HeapBlock)
    (stores : List BlockStore) : Option HeapBlock :=
  stores.foldl (fun _ store => store.stored) block

/- The user name is what the stores leave. -/
theorem userReadHandler_username
    (p : PasswordParser)
    (b : UInt8) :
    (userReadHandler p b).username =
      storedBlock p.username (userReadStores p b) := by
  unfold userReadHandler userReadStores lineStores
  dsimp only
  split_ifs
  all_goals rfl

/- The password is, too, until a restart releases it. -/
theorem passReadHandler_password
    (p : PasswordParser)
    (b : UInt8) :
    (passReadHandler p b).1.password =
        storedBlock p.password (passReadStores p b) ∨
      (passReadHandler p b).1.password = none := by
  unfold passReadHandler passReadStores lineStores
    passReadReset restartUserWord
  dsimp only
  split_ifs
  all_goals first
    | exact Or.inl rfl
    | exact Or.inr rfl

end Socks5d

------------------------------------------------------------
-- Blocks That Grow
------------------------------------------------------------

namespace Socks5d

/- The block after the stores below the index. -/
def Grown
    (block : Option HeapBlock)
    (i : Nat) : Prop :=
  i ≠ 0 → ∃ bytes, block = some ⟨bytes, 5 * ((i + 4) / 5)⟩

/-
  The index into a reserved word is inside it, and the block
  that is being filled has grown with the index.
-/
def PasswordParser.Bounded (p : PasswordParser) : Prop :=
  match p.current with
  | .userWordSearch => p.currentIndex < 5
  | .userRead => Grown p.username p.currentIndex
  | .passWordSearch => p.currentIndex < 10
  | .passRead => Grown p.password p.currentIndex

section Growing

variable {block : Option HeapBlock}
variable {i : Nat}
variable {p : PasswordParser}

/- `checkSize` leaves room for the index. -/
theorem Grown.checkSize
    (h : Grown block i) :
    ∃ bytes, checkSize block i =
      some ⟨bytes, 5 * ((i + 5) / 5)⟩ := by
  unfold Socks5d.checkSize
  by_cases hZero : i = 0
  · subst hZero
    exact ⟨[], rfl⟩
  rcases h hZero with ⟨bytes, hBlock⟩
  refine ⟨bytes, ?_⟩
  rw [hBlock]
  by_cases hFull : i % passwordBufferSize = 0
  · have hSize : 5 * ((i + 5) / 5) =
        i + passwordBufferSize := by
      have hRest : i % 5 = 0 := hFull
      show _ = i + 5
      omega
    rw [if_pos hFull, if_neg hZero, hSize]
    rfl
  · have hSame : (i + 5) / 5 = (i + 4) / 5 := by
      have hRest : i % 5 ≠ 0 := hFull
      omega
    rw [if_neg hFull, hSame]

theorem Grown.inside
    (h : Grown block i)
    (b : UInt8) : (BlockStore.mk block i b).Inside := by
  rcases h.checkSize with ⟨bytes, hChecked⟩
  refine ⟨_, hChecked, ?_, ?_⟩
  · show i < 5 * ((i + 5) / 5)
    omega
  · show 5 * ((i + 5) / 5) = BlockStore.capacity _ + _
    unfold BlockStore.capacity
    by_cases hZero : i = 0
    · subst hZero
      rfl
    · rcases h hZero with ⟨before, hBlock⟩
      rw [if_neg hZero, hBlock]
      show _ = 5 * ((i + 4) / 5) + if i % 5 = 0 then 5 else 0
      split
      · omega
      · omega

/- The store makes the block ready for the next index. -/
theorem Grown.put
    (h : Grown block i)
    (b : UInt8) :
    Grown ((Socks5d.checkSize block i).map (·.put i b))
      (i + 1) := by
  intro _
  rcases h.checkSize with ⟨bytes, hChecked⟩
  exact ⟨bytes.take i ++ [b], by rw [hChecked]; rfl⟩

theorem restartUserWord_bounded
    (p : PasswordParser)
    (b : UInt8) : (restartUserWord p b).Bounded := by
  show (if _ then 1 else 0) < 5
  split
  · decide
  · decide

theorem userWordSearchHandler_bounded
    (hIndex : p.currentIndex < 5)
    (b : UInt8) : (userWordSearchHandler p b).Bounded := by
  unfold userWordSearchHandler
  split
  · split
    · exact fun hBad => absurd rfl hBad
    · rename_i hNot
      show p.currentIndex + 1 < 5
      have hLength : userReservedPop3Word.length = 5 := rfl
      omega
  · exact restartUserWord_bounded p b

theorem passWordSearchHandler_bounded
    (hIndex : p.currentIndex < 10)
    (b : UInt8) : (passWordSearchHandler p b).Bounded := by
  unfold passWordSearchHandler
  split
  · split
    · exact fun hBad => absurd rfl hBad
    · rename_i hNot
      show p.currentIndex + 1 < 10
      have hLength : passReservedPop3Word.length = 10 := rfl
      omega
  · exact restartUserWord_bounded _ b

theorem passReadReset_bounded
    (p : PasswordParser)
    (b : UInt8) : (passReadReset p b).Bounded :=
  restartUserWord_bounded _ b

theorem userReadHandler_bounded
    (hGrown : Grown p.username p.currentIndex)
    (b : UInt8) : (userReadHandler p b).Bounded := by
  unfold userReadHandler userReadReset
  dsimp only
  split_ifs
  · exact restartUserWord_bounded _ b
  · exact restartUserWord_bounded _ b
  · exact hGrown
  · show 0 < 10
    decide
  · exact hGrown.put b
  · exact restartUserWord_bounded _ b

theorem passReadHandler_bounded
    (hGrown : Grown p.password p.currentIndex)
    (b : UInt8) : (passReadHandler p b).1.Bounded := by
  unfold passReadHandler userReadReset
  dsimp only
  split_ifs
  · exact passReadReset_bounded p b
  · exact passReadReset_bounded p b
  · exact hGrown
  · exact passReadReset_bounded _ b
  · exact hGrown.put b
  · exact restartUserWord_bounded _ b

/- Every byte keeps the bounds. -/
theorem PasswordParser.Bounded.feed
    (h : p.Bounded)
    (b : UInt8) : (passwordParserFeed p b).1.Bounded := by
  unfold PasswordParser.Bounded at h
  unfold passwordParserFeed
  split
  · rename_i hState
    rw [hState] at h
    exact userWordSearchHandler_bounded h b
  · rename_i hState
    rw [hState] at h
    exact userReadHandler_bounded h b
  · rename_i hState
    rw [hState] at h
    exact passWordSearchHandler_bounded h b
  · rename_i hState
    rw [hState] at h
    exact passReadHandler_bounded h b

theorem PasswordParser.Bounded.consume
    (h : p.Bounded)
    (bytes : List UInt8) :
    (passwordConsume bytes p).1.Bounded := by
  induction bytes generalizing p with
  | nil => exact h
  | cons b rest ih => exact ih (h.feed b)

end Growing

end Socks5d

------------------------------------------------------------
-- Every Element Inside
------------------------------------------------------------

namespace Socks5d

section Inside

variable {p : PasswordParser}
variable {block : Option HeapBlock}
variable {lookup : Lookup}
variable {store : BlockStore}

theorem restartLookup_inside : restartLookup.Inside := by
  show 0 < 5
  decide

theorem wordLookups_inside
    {word : List UInt8}
    {b : UInt8}
    (hIndex : p.currentIndex < word.length)
    (hIn : lookup ∈ wordLookups word p b) :
    lookup.Inside := by
  unfold wordLookups at hIn
  rcases List.mem_cons.mp hIn with rfl | hRestart
  · exact hIndex
  · split at hRestart
    · nomatch hRestart
    · rw [List.mem_singleton.mp hRestart]
      exact restartLookup_inside

theorem userReadLookups_inside
    {b : UInt8}
    (hIn : lookup ∈ userReadLookups p b) :
    lookup.Inside := by
  have hRestart : lookup ∈ [restartLookup] := by
    unfold userReadLookups at hIn
    split_ifs at hIn
    all_goals first
      | exact hIn
      | nomatch hIn
  rw [List.mem_singleton.mp hRestart]
  exact restartLookup_inside

theorem passReadLookups_inside
    {b : UInt8}
    (hIn : lookup ∈ passReadLookups p b) :
    lookup.Inside := by
  have hRestart : lookup ∈ [restartLookup] := by
    unfold passReadLookups at hIn
    split_ifs at hIn
    all_goals first
      | exact hIn
      | nomatch hIn
  rw [List.mem_singleton.mp hRestart]
  exact restartLookup_inside

theorem lineStores_inside
    {b : UInt8}
    (hGrown : Grown block p.currentIndex)
    (hIn : store ∈ lineStores block p b) :
    store.Inside := by
  have hOne : store = ⟨block, p.currentIndex, 0⟩ ∨
      store = ⟨block, p.currentIndex, b⟩ := by
    unfold lineStores at hIn
    dsimp only at hIn
    split_ifs at hIn
    all_goals first
      | exact absurd hIn List.not_mem_nil
      | exact Or.inl (List.mem_singleton.mp hIn)
      | exact Or.inr (List.mem_singleton.mp hIn)
  rcases hOne with rfl | rfl
  · exact hGrown.inside 0
  · exact hGrown.inside b

theorem PasswordParser.Bounded.lookups
    {b : UInt8}
    (h : p.Bounded)
    (hIn : lookup ∈ passwordParserLookups p b) :
    lookup.Inside := by
  unfold PasswordParser.Bounded at h
  unfold passwordParserLookups at hIn
  split at hIn
  · rename_i hState
    rw [hState] at h
    exact wordLookups_inside h hIn
  · exact userReadLookups_inside hIn
  · rename_i hState
    rw [hState] at h
    exact wordLookups_inside h hIn
  · exact passReadLookups_inside hIn

theorem PasswordParser.Bounded.stores
    {b : UInt8}
    (h : p.Bounded)
    (hIn : store ∈ passwordParserStores p b) :
    store.Inside := by
  unfold PasswordParser.Bounded at h
  unfold passwordParserStores at hIn
  split at hIn
  · rename_i hState
    rw [hState] at h
    exact lineStores_inside h hIn
  · rename_i hState
    rw [hState] at h
    exact lineStores_inside h hIn
  · nomatch hIn

end Inside

/-
  Whatever was fed before, the next byte reads inside the
  reserved words and stores inside blocks that are there.
-/
theorem dissector_bounds
    (bytes : List UInt8)
    (b : UInt8) :
    (∀ lookup ∈ passwordParserLookups
        (passwordConsume bytes passwordParserInit).1 b,
      lookup.Inside) ∧
      ∀ store ∈ passwordParserStores
          (passwordConsume bytes passwordParserInit).1 b,
        store.Inside := by
  have hInit : passwordParserInit.Bounded := by
    show 0 < 5
    decide
  have hBounded := hInit.consume bytes
  exact ⟨fun _ hIn => hBounded.lookups hIn,
    fun _ hIn => hBounded.stores hIn⟩

end Socks5d
