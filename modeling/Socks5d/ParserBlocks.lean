import Socks5d.NewParser

/-
  What the length-driven parser does on the substate arrays
  the source builds: a preset `longRead`, or a `readN` and
  the `longRead` it measures.

  `Progress` relates the bytes fed so far to the parser they
  lead to; every feed keeps it.

  Main declarations:
    * `Block`, `blockParser`
    * `Progress` and `Progress.step`
    * `Progress.of_consume`
-/

------------------------------------------------------------
-- Blocks
------------------------------------------------------------

namespace Socks5d

/-
  The two shapes the source builds substate arrays from: a
  preset `longRead`, or a `readN` and the `longRead` it
  measures.
-/
inductive Block where
  | fixed (size : UInt8) (check : Option Check)
  | counted

namespace Block

/- A `longRead` substate that has stored `field` so far. -/
def reading
    (size : UInt8)
    (check : Option Check)
    (field : List UInt8) : Substate where
  state := .longRead
  result := some (field ++
    List.replicate (size.toNat + 1 - field.length) 0)
  check := check
  size := size
  remaining := size - UInt8.ofNat field.length

/- A `longRead` substate whose field is complete. -/
def stored
    (size : UInt8)
    (check : Option Check)
    (field : List UInt8) : Substate where
  state := .longRead
  result := some (field ++ [0])
  check := check
  size := size
  remaining := 0

/- The substates of a block before any byte is read. -/
def fresh : Block → List Substate
| .fixed size check => [reading size check []]
| .counted =>
    [{ state := .readN }, { state := .longRead }]

/- The substates of a block once its field is stored. -/
def filled :
    Block → List UInt8 → List Substate
| .fixed size check, field => [stored size check field]
| .counted, field =>
    [{ state := .readN },
     stored (UInt8.ofNat field.length) none field]

/- The bytes on the wire for a field of the block. -/
def encode :
    Block → List UInt8 → List UInt8
| .fixed _ _, field => field
| .counted, field => UInt8.ofNat field.length :: field

/- A field the block stores and its check accepts. -/
def Accepts :
    Block → List UInt8 → Prop
| .fixed size check, field =>
    field.length = size.toNat ∧
      ∀ c ∈ check, (c (field ++ [0]) size).1 = true
| .counted, field => field.length < 256

end Block

/- A parser over the substates of a list of blocks. -/
def blockParser (blocks : List Block) : Parser :=
  parserInit (blocks.flatMap Block.fresh)

/- The wire bytes of fields already stored. -/
def encodeAll (done : List (Block × List UInt8)) :
    List UInt8 :=
  done.flatMap fun entry => entry.1.encode entry.2

/- The substates of fields already stored. -/
def filledAll (done : List (Block × List UInt8)) :
    List Substate :=
  done.flatMap fun entry => entry.1.filled entry.2

/- The substates of blocks not reached yet. -/
def freshAll (rest : List Block) : List Substate :=
  rest.flatMap Block.fresh

/-
  A parser in the middle of its substate array: what is
  stored, the substates of the block being read with the
  offset of the current one, and what is still to come.
-/
def parserAt
    (done : List (Block × List UInt8))
    (here : List Substate)
    (offset : Nat)
    (rest : List Block)
    (current : ParserState)
    (error : UInt8) : Parser where
  index := (filledAll done).length + offset
  size := (filledAll done ++ here ++ freshAll rest).length
  current := current
  states := filledAll done ++ here ++ freshAll rest
  error := error

/-
  The bytes fed so far and the parser they lead to, for a
  parser over `blocks`.
-/
inductive Progress (blocks : List Block) :
    List UInt8 → Parser → Prop where
  /- reading a preset block; `field` is what it has so far -/
  | inFixed
      (done : List (Block × List UInt8))
      (size : UInt8) (check : Option Check)
      (rest : List Block) (field : List UInt8)
      (error : UInt8)
      (hBlocks : blocks =
        done.map Prod.fst ++ .fixed size check :: rest)
      (hDone : ∀ entry ∈ done, entry.1.Accepts entry.2)
      (hField : field.length < size.toNat) :
      Progress blocks (encodeAll done ++ field)
        (parserAt done [Block.reading size check field]
          0 rest .longRead error)
  /- waiting for the length byte of a counted block -/
  | atCounted
      (done : List (Block × List UInt8))
      (rest : List Block)
      (error : UInt8)
      (hBlocks : blocks =
        done.map Prod.fst ++ .counted :: rest)
      (hDone : ∀ entry ∈ done, entry.1.Accepts entry.2) :
      Progress blocks (encodeAll done)
        (parserAt done (Block.fresh .counted)
          0 rest .readN error)
  /- inside a counted block of `size` bytes -/
  | inCounted
      (done : List (Block × List UInt8))
      (size : UInt8) (rest : List Block)
      (field : List UInt8) (error : UInt8)
      (hBlocks : blocks =
        done.map Prod.fst ++ .counted :: rest)
      (hDone : ∀ entry ∈ done, entry.1.Accepts entry.2)
      (hField : field.length < size.toNat) :
      Progress blocks (encodeAll done ++ size :: field)
        (parserAt done
          [{ state := .readN },
           Block.reading size none field]
          1 rest .longRead error)
  /- every field is stored -/
  | finished
      (done : List (Block × List UInt8))
      (error : UInt8)
      (hBlocks : blocks = done.map Prod.fst)
      (hDone : ∀ entry ∈ done, entry.1.Accepts entry.2) :
      Progress blocks (encodeAll done)
        (parserAt done [] 0 [] .doneRead error)
  /- a preset block was complete and its check refused it -/
  | rejected
      (done : List (Block × List UInt8))
      (size : UInt8) (check : Check)
      (rest : List Block) (field : List UInt8)
      (error : UInt8)
      (hBlocks : blocks =
        done.map Prod.fst ++ .fixed size (some check) :: rest)
      (hDone : ∀ entry ∈ done, entry.1.Accepts entry.2)
      (hField : field.length = size.toNat)
      (hCheck : (check (field ++ [0]) size).1 = false) :
      Progress blocks (encodeAll done ++ field)
        (parserAt done
          (Block.filled (.fixed size (some check)) field)
          0 rest .errorRead error)

end Socks5d

------------------------------------------------------------
-- Arithmetic Of The Two Counters
------------------------------------------------------------

namespace Socks5d

/- The store index is the number of bytes stored so far. -/
theorem size_sub_remaining
    (size : UInt8)
    {n : Nat}
    (h : n < size.toNat) :
    (size - (size - UInt8.ofNat n)).toNat = n := by
  have hSize := size.toNat_lt
  have hEq :
      size - (size - UInt8.ofNat n) = UInt8.ofNat n := by
    grind
  rw [hEq, UInt8.toNat_ofNat']
  omega

theorem remaining_pred
    (size : UInt8)
    (n : Nat) :
    size - UInt8.ofNat n - 1 =
      size - UInt8.ofNat (n + 1) := by
  have hSucc : UInt8.ofNat (n + 1) = UInt8.ofNat n + 1 :=
    UInt8.ofNat_add n 1
  rw [hSucc]
  grind

/- Nothing remains exactly after the last byte. -/
theorem remaining_eq_zero_iff
    (size : UInt8)
    {n : Nat}
    (h : n < size.toNat) :
    size - UInt8.ofNat (n + 1) = 0 ↔
      n + 1 = size.toNat := by
  have hSize := size.toNat_lt
  constructor
  · intro hZero
    have hEq : size = UInt8.ofNat (n + 1) := by grind
    rw [hEq, UInt8.toNat_ofNat']
    omega
  · intro hLast
    rw [hLast]
    simp

/- Storing one more byte into a partly filled array. -/
theorem set_partial
    (field : List UInt8)
    (b : UInt8)
    {k : Nat}
    (h : field.length < k) :
    (field ++ List.replicate (k + 1 - field.length) 0).set
        field.length b =
      (field ++ [b]) ++
        List.replicate (k + 1 - (field ++ [b]).length) 0 := by
  have hSplit : k + 1 - field.length =
      (k + 1 - (field.length + 1)) + 1 := by omega
  rw [List.set_append_right _ _ (Nat.le_refl _)]
  rw [hSplit, List.replicate_succ]
  simp

/- Storing the terminator of a filled array. -/
theorem set_terminator
    (field : List UInt8) :
    (field ++ List.replicate (field.length + 1 -
        field.length) 0).set field.length 0 =
      field ++ [0] := by
  rw [List.set_append_right _ _ (Nat.le_refl _)]
  simp

end Socks5d

------------------------------------------------------------
-- Stepping From Block To Block
------------------------------------------------------------

namespace Socks5d

/- A preset block must have at least one byte to read. -/
def Block.WellFormed : Block → Prop
| .fixed size _ => 0 < size.toNat
| .counted => True

/- The state in which a block starts. -/
def Block.startState : Block → ParserState
| .fixed _ _ => .longRead
| .counted => .readN

/- The parser standing before the blocks in `rest`. -/
def parserBefore
    (done : List (Block × List UInt8))
    (rest : List Block)
    (error : UInt8) : Parser where
  index := (filledAll done).length
  size := (filledAll done ++ freshAll rest).length
  current :=
    match rest with
    | [] => .doneRead
    | block :: _ => block.startState
  states := filledAll done ++ freshAll rest
  error := error

theorem filledAll_concat
    (done : List (Block × List UInt8))
    (block : Block)
    (field : List UInt8) :
    filledAll (done ++ [(block, field)]) =
      filledAll done ++ block.filled field := by
  simp [filledAll]

theorem encodeAll_concat
    (done : List (Block × List UInt8))
    (block : Block)
    (field : List UInt8) :
    encodeAll (done ++ [(block, field)]) =
      encodeAll done ++ block.encode field := by
  simp [encodeAll]

theorem freshAll_cons
    (block : Block)
    (rest : List Block) :
    freshAll (block :: rest) =
      block.fresh ++ freshAll rest := by
  simp [freshAll]

/- A parser standing before its blocks makes progress. -/
theorem Progress.before
    {blocks : List Block}
    (done : List (Block × List UInt8))
    (rest : List Block)
    (hWell : ∀ block ∈ blocks, block.WellFormed)
    (hBlocks : blocks = done.map Prod.fst ++ rest)
    (hDone : ∀ entry ∈ done, entry.1.Accepts entry.2)
    (error : UInt8) :
    Progress blocks (encodeAll done)
      (parserBefore done rest error) := by
  cases rest with
  | nil =>
      have hFinished : Progress blocks _ _ :=
        Progress.finished done error
          (by simpa using hBlocks) hDone
      simpa [parserAt, parserBefore, freshAll]
        using hFinished
  | cons block tail =>
      cases block with
      | fixed size check =>
          have hSize : 0 < size.toNat := by
            have hMember :
                Block.fixed size check ∈ blocks := by
              rw [hBlocks]
              simp
            exact hWell _ hMember
          have hReading : Progress blocks _ _ :=
            Progress.inFixed done size check tail []
              error hBlocks hDone (by simpa using hSize)
          simpa [parserAt, parserBefore, freshAll_cons,
            Block.fresh, Block.startState] using hReading
      | counted =>
          have hWaiting : Progress blocks _ _ :=
            Progress.atCounted done tail error hBlocks hDone
          simpa [parserAt, parserBefore, freshAll_cons,
            Block.startState] using hWaiting

/- Reading the element just after a prefix. -/
theorem getD_append_length
    {α : Type}
    (before : List α)
    (a : α)
    (after : List α)
    (default : α) :
    (before ++ a :: after).getD before.length default =
      a := by
  simp [List.getD]

/- The first substate of a block is in its start state. -/
theorem Block.fresh_cons
    (block : Block) :
    ∃ first more,
      block.fresh = first :: more ∧
        first.state = block.startState := by
  cases block <;> exact ⟨_, _, rfl, rfl⟩

/-
  Advancing past the last substate of a filled block stands
  before the next one.
-/
theorem advance_filled
    {done : List (Block × List UInt8)}
    {block : Block}
    {field : List UInt8}
    {rest : List Block}
    {p : Parser}
    (hIndex : p.index + 1 =
      (filledAll done ++ block.filled field).length)
    (hSize : p.size = p.states.length)
    (hStates : p.states =
      filledAll done ++ block.filled field ++
        freshAll rest) :
    p.advance =
      parserBefore (done ++ [(block, field)]) rest
        p.error := by
  have hLength : p.size =
      p.index + 1 + (freshAll rest).length := by
    rw [hSize, hStates, List.length_append, ← hIndex]
  unfold Parser.advance parserBefore
  rw [filledAll_concat, ← hStates, ← hIndex, ← hSize]
  cases rest with
  | nil =>
      have hEnd : p.size ≤ p.index + 1 := by
        simp [hLength, freshAll]
      simp [hEnd]
  | cons next tail =>
      rcases next.fresh_cons with ⟨first, more, hFresh, hStart⟩
      have hNext :
          p.states.getD (p.index + 1) default = first := by
        rw [hStates, hIndex, freshAll_cons, hFresh,
          List.cons_append]
        exact getD_append_length _ _ _ _
      have hMore : ¬ p.size ≤ p.index + 1 := by
        rw [hLength, freshAll_cons, hFresh]
        simp
      simp only [hMore, if_false, Parser.substate, hNext,
        hStart]

end Socks5d

------------------------------------------------------------
-- One Feed
------------------------------------------------------------

namespace Socks5d

/- A byte that does not complete the field. -/
theorem feedLongRead_more
    {p : Parser}
    {size : UInt8}
    {check : Option Check}
    {field : List UInt8}
    (hHere : p.substate = Block.reading size check field)
    (hField : field.length + 1 < size.toNat)
    (b : UInt8) :
    feedLongRead p b =
      p.setSubstate
        (Block.reading size check (field ++ [b])) := by
  have hIndex := size_sub_remaining size
    (n := field.length) (by omega)
  have hGoing :
      size - UInt8.ofNat field.length - 1 ≠ 0 := by
    rw [remaining_pred]
    intro hZero
    have hLast := (remaining_eq_zero_iff size
      (n := field.length)
      (by omega)).mp hZero
    omega
  have hSet := set_partial field b
    (k := size.toNat) (by omega)
  have hStored :
      store (some (field ++ List.replicate
          (size.toNat + 1 - field.length) 0))
          (size - (size - UInt8.ofNat field.length)) b =
        some (field ++ [b] ++ List.replicate
          (size.toNat + 1 - (field ++ [b]).length) 0) := by
    simp only [store, Option.map_some, hIndex, hSet]
  have hLeft : size - UInt8.ofNat field.length - 1 =
      size - UInt8.ofNat (field ++ [b]).length := by
    rw [List.length_append, List.length_singleton]
    exact remaining_pred size field.length
  unfold feedLongRead
  simp only [hHere, Block.reading, hGoing, if_false]
  rw [hStored, hLeft]

/- The byte that completes the field. -/
theorem feedLongRead_last
    {p : Parser}
    {size : UInt8}
    {check : Option Check}
    {field : List UInt8}
    (hHere : p.substate = Block.reading size check field)
    (hField : field.length + 1 = size.toNat)
    (b : UInt8) :
    feedLongRead p b =
      let filled := p.setSubstate
        (Block.stored size check (field ++ [b]))
      match check with
      | none => filled.advance
      | some c =>
          let verdict := c (field ++ [b] ++ [0]) size
          let noted := filled.noteError verdict.2
          if verdict.1 then noted.advance
          else { noted with current := .errorRead } := by
  have hIndex := size_sub_remaining size
    (n := field.length) (by omega)
  have hZero : size - UInt8.ofNat field.length - 1 = 0 := by
    rw [remaining_pred]
    exact (remaining_eq_zero_iff size (by omega)).mpr hField
  have hSet := set_partial field b
    (k := size.toNat) (by omega)
  have hEnd : field.length + 1 =
      (field ++ [b]).length := by simp
  have hTerm :
      (field ++ [b] ++ List.replicate
          (size.toNat + 1 - (field ++ [b]).length)
          (0 : UInt8)).set size.toNat 0 =
        field ++ [b] ++ [0] := by
    rw [← hField, hEnd]
    exact set_terminator (field ++ [b])
  have hStored :
      store (store (some (field ++ List.replicate
          (size.toNat + 1 - field.length) 0))
          (size - (size - UInt8.ofNat field.length)) b)
          size 0 =
        some (field ++ [b] ++ [0]) := by
    simp only [store, Option.map_some, hIndex, hSet, hTerm]
  unfold feedLongRead
  simp only [hHere, Block.reading, hZero, if_true,
    hStored, Block.stored]
  cases check <;> rfl

end Socks5d

------------------------------------------------------------
-- Progress
------------------------------------------------------------

namespace Socks5d

@[simp] theorem parserAt_substate_zero
    (done : List (Block × List UInt8))
    (here : Substate)
    (more : List Substate)
    (rest : List Block)
    (current : ParserState)
    (error : UInt8) :
    (parserAt done (here :: more) 0 rest
      current error).substate = here := by
  unfold Parser.substate parserAt
  simp only [Nat.add_zero, List.append_assoc,
    List.cons_append]
  exact getD_append_length _ _ _ _

@[simp] theorem parserAt_substate_one
    (done : List (Block × List UInt8))
    (first here : Substate)
    (more : List Substate)
    (rest : List Block)
    (current : ParserState)
    (error : UInt8) :
    (parserAt done (first :: here :: more) 1 rest
      current error).substate = here := by
  unfold Parser.substate parserAt
  have hLength : (filledAll done).length + 1 =
      (filledAll done ++ [first]).length := by simp
  rw [hLength]
  have hGet := getD_append_length
    (filledAll done ++ [first]) here
    (more ++ freshAll rest) default
  simp only [List.append_assoc, List.cons_append,
    List.nil_append] at hGet ⊢
  exact hGet

@[simp] theorem parserAt_setSubstate_zero
    (done : List (Block × List UInt8))
    (here new : Substate)
    (more : List Substate)
    (rest : List Block)
    (current : ParserState)
    (error : UInt8) :
    (parserAt done (here :: more) 0 rest
        current error).setSubstate new =
      parserAt done (new :: more) 0 rest
        current error := by
  simp [Parser.setSubstate, parserAt]

@[simp] theorem parserAt_setSubstate_one
    (done : List (Block × List UInt8))
    (first here new : Substate)
    (more : List Substate)
    (rest : List Block)
    (current : ParserState)
    (error : UInt8) :
    (parserAt done (first :: here :: more) 1 rest
        current error).setSubstate new =
      parserAt done (first :: new :: more) 1 rest
        current error := by
  simp [Parser.setSubstate, parserAt]

@[simp] theorem parserAt_noteError
    (done : List (Block × List UInt8))
    (here : List Substate)
    (offset : Nat)
    (rest : List Block)
    (current : ParserState)
    (error : UInt8)
    (written : Option UInt8) :
    (parserAt done here offset rest current
        error).noteError written =
      parserAt done here offset rest current
        (written.getD error) := rfl

/- Advancing out of a preset block that is filled. -/
theorem parserAt_advance_fixed
    (done : List (Block × List UInt8))
    (size : UInt8)
    (check : Option Check)
    (field : List UInt8)
    (rest : List Block)
    (current : ParserState)
    (error : UInt8) :
    (parserAt done [Block.stored size check field] 0 rest
        current error).advance =
      parserBefore (done ++ [(.fixed size check, field)])
        rest error :=
  advance_filled (p := parserAt done _ 0 rest current error)
    (by simp [parserAt, Block.filled]) rfl rfl

/- Advancing out of a counted block that is filled. -/
theorem parserAt_advance_counted
    (done : List (Block × List UInt8))
    {size : UInt8}
    {field : List UInt8}
    (hSize : field.length = size.toNat)
    (rest : List Block)
    (current : ParserState)
    (error : UInt8) :
    (parserAt done
        [{ state := .readN }, Block.stored size none field]
        1 rest current error).advance =
      parserBefore (done ++ [(.counted, field)])
        rest error := by
  have hOf : UInt8.ofNat field.length = size := by
    rw [hSize]
    simp
  exact advance_filled
    (p := parserAt done _ 1 rest current error)
    (by simp [parserAt, Block.filled]) rfl
    (by simp [parserAt, Block.filled, hOf])

/- A newly accepted field joins the accepted ones. -/
theorem accepts_concat
    {done : List (Block × List UInt8)}
    {block : Block}
    {field : List UInt8}
    (hDone : ∀ entry ∈ done, entry.1.Accepts entry.2)
    (hField : block.Accepts field) :
    ∀ entry ∈ done ++ [(block, field)],
      entry.1.Accepts entry.2 := by
  intro entry hEntry
  rcases List.mem_append.mp hEntry with hOld | hNew
  · exact hDone entry hOld
  · rw [List.mem_singleton.mp hNew]
    exact hField

/- A length byte moves on to the substate it measures. -/
theorem feedReadN_longRead
    {p : Parser}
    (hMore : p.index + 1 < p.size)
    (hNext :
      ({ p with index := p.index + 1 } : Parser).substate =
        { state := .longRead })
    (b : UInt8) :
    feedReadN p b =
      let moved : Parser := { p with
        index := p.index + 1, current := .longRead }
      if b = 0 then
        (moved.setSubstate
          (Block.stored 0 none [])).advance
      else
        moved.setSubstate (Block.reading b none []) := by
  unfold feedReadN
  simp only [Nat.not_le.mpr hMore, if_false, hNext]
  by_cases hZero : b = 0
  · subst hZero
    rfl
  · simp only [hZero, if_false]
    simp [Block.reading]

/- The length byte of a counted block. -/
theorem Progress.feed_count
    {blocks rest : List Block}
    {done : List (Block × List UInt8)}
    (hWell : ∀ block ∈ blocks, block.WellFormed)
    (hBlocks : blocks =
      done.map Prod.fst ++ .counted :: rest)
    (hDone : ∀ entry ∈ done, entry.1.Accepts entry.2)
    (error b : UInt8) :
    Progress blocks (encodeAll done ++ [b])
      (feedReadN
        (parserAt done (Block.fresh .counted) 0 rest
          .readN error) b) := by
  have hMoved := feedReadN_longRead
    (p := parserAt done (Block.fresh .counted) 0 rest
      .readN error)
    (by simp [parserAt, Block.fresh])
    (parserAt_substate_one done { state := .readN }
      { state := .longRead } [] rest .readN error) b
  simp only at hMoved
  rw [show ({ parserAt done (Block.fresh .counted) 0 rest
        .readN error with
          index := (parserAt done (Block.fresh .counted) 0
            rest .readN error).index + 1
          current := .longRead } : Parser) =
      parserAt done (Block.fresh .counted) 1 rest
        .longRead error from rfl, Block.fresh,
    parserAt_setSubstate_one,
    parserAt_setSubstate_one] at hMoved
  rw [Block.fresh, hMoved]
  by_cases hZero : b = 0
  · subst hZero
    rw [if_pos rfl, parserAt_advance_counted done rfl]
    have hNext := Progress.before
      (done ++ [(.counted, [])]) rest hWell
      (by simpa using hBlocks)
      (accepts_concat hDone (by simp [Block.Accepts])) error
    simpa [encodeAll_concat, Block.encode] using hNext
  · rw [if_neg hZero]
    have hPos : 0 < b.toNat := by
      rcases Nat.eq_zero_or_pos b.toNat with h | h
      · exact absurd (UInt8.toNat_inj.mp (by simpa using h))
          hZero
      · exact h
    exact Progress.inCounted done b rest [] error hBlocks
      hDone (by simpa using hPos)

/- A byte of a counted block. -/
theorem Progress.feed_counted
    {blocks rest : List Block}
    {done : List (Block × List UInt8)}
    {size : UInt8}
    {field : List UInt8}
    (hWell : ∀ block ∈ blocks, block.WellFormed)
    (hBlocks : blocks =
      done.map Prod.fst ++ .counted :: rest)
    (hDone : ∀ entry ∈ done, entry.1.Accepts entry.2)
    (hField : field.length < size.toNat)
    (error b : UInt8) :
    Progress blocks (encodeAll done ++ size :: field ++ [b])
      (feedLongRead
        (parserAt done
          [{ state := .readN },
           Block.reading size none field]
          1 rest .longRead error) b) := by
  have hHere := parserAt_substate_one done
    { state := .readN } (Block.reading size none field) []
    rest .longRead error
  by_cases hLast : field.length + 1 = size.toNat
  · have hLength : (field ++ [b]).length = size.toNat := by
      simpa using hLast
    rw [feedLongRead_last hHere hLast,
      parserAt_setSubstate_one]
    simp only
    rw [parserAt_advance_counted done hLength]
    have hAccepts : Block.counted.Accepts (field ++ [b]) := by
      have hSize := size.toNat_lt
      simp only [Block.Accepts, hLength]
      omega
    have hNext := Progress.before
      (done ++ [(.counted, field ++ [b])]) rest hWell
      (by simpa using hBlocks)
      (accepts_concat hDone hAccepts) error
    have hOf : UInt8.ofNat (field ++ [b]).length = size := by
      rw [hLength]
      simp
    have hBytes :
        encodeAll (done ++ [(.counted, field ++ [b])]) =
          encodeAll done ++ size :: field ++ [b] := by
      rw [encodeAll_concat, Block.encode, hOf]
      simp
    rwa [hBytes] at hNext
  · rw [feedLongRead_more hHere (by omega),
      parserAt_setSubstate_one]
    have hNext : Progress blocks _ _ := Progress.inCounted
      done size rest (field ++ [b]) error hBlocks hDone
      (by simp only [List.length_append,
            List.length_singleton]; omega)
    simpa using hNext

/- A byte of a preset block. -/
theorem Progress.feed_fixed
    {blocks rest : List Block}
    {done : List (Block × List UInt8)}
    {size : UInt8}
    {check : Option Check}
    {field : List UInt8}
    (hWell : ∀ block ∈ blocks, block.WellFormed)
    (hBlocks : blocks =
      done.map Prod.fst ++ .fixed size check :: rest)
    (hDone : ∀ entry ∈ done, entry.1.Accepts entry.2)
    (hField : field.length < size.toNat)
    (error b : UInt8) :
    Progress blocks (encodeAll done ++ field ++ [b])
      (feedLongRead
        (parserAt done [Block.reading size check field]
          0 rest .longRead error) b) := by
  have hHere := parserAt_substate_zero done
    (Block.reading size check field) [] rest .longRead error
  by_cases hLast : field.length + 1 = size.toNat
  · have hLength : (field ++ [b]).length = size.toNat := by
      simpa using hLast
    have hAccepted :
        (∀ c ∈ check,
          (c (field ++ [b] ++ [0]) size).1 = true) →
        ∀ code, Progress blocks
          (encodeAll done ++ field ++ [b])
          (parserBefore (done ++
            [(.fixed size check, field ++ [b])])
            rest code) := by
      intro hCheck code
      have hNext := Progress.before
        (done ++ [(.fixed size check, field ++ [b])]) rest
        hWell (by simpa using hBlocks)
        (accepts_concat hDone
          (show Block.Accepts (.fixed size check)
            (field ++ [b]) from ⟨hLength, hCheck⟩)) code
      simpa [encodeAll_concat, Block.encode] using hNext
    rw [feedLongRead_last hHere hLast,
      parserAt_setSubstate_zero]
    cases check with
    | none =>
        simp only
        rw [parserAt_advance_fixed]
        exact hAccepted (by simp) error
    | some c =>
        simp only [parserAt_noteError]
        by_cases hCheck :
            (c (field ++ [b] ++ [0]) size).1 = true
        · rw [if_pos hCheck, parserAt_advance_fixed]
          exact hAccepted (by simpa using hCheck) _
        · rw [if_neg hCheck]
          have hFalse :
              (c (field ++ [b] ++ [0]) size).1 = false := by
            simpa using hCheck
          have hNext : Progress blocks _ _ := Progress.rejected
            done size c rest (field ++ [b])
            ((c (field ++ [b] ++ [0]) size).2.getD error)
            hBlocks hDone hLength hFalse
          rw [← List.append_assoc] at hNext
          exact hNext
  · rw [feedLongRead_more hHere (by omega),
      parserAt_setSubstate_zero]
    have hNext : Progress blocks _ _ := Progress.inFixed
      done size check rest (field ++ [b]) error hBlocks
      hDone (by simp only [List.length_append,
                  List.length_singleton]; omega)
    simpa using hNext

/- Every feed of a parser that is not done keeps `Progress`. -/
theorem Progress.step
    {blocks : List Block}
    (hWell : ∀ block ∈ blocks, block.WellFormed)
    {fed : List UInt8}
    {p : Parser}
    (h : Progress blocks fed p)
    (hGoing : isDone p.current = false)
    (b : UInt8) :
    Progress blocks (fed ++ [b]) (parserFeed p b) := by
  cases h with
  | inFixed done size check rest field error hBlocks hDone
      hField =>
      exact Progress.feed_fixed hWell hBlocks hDone hField
        error b
  | atCounted done rest error hBlocks hDone =>
      exact Progress.feed_count hWell hBlocks hDone error b
  | inCounted done size rest field error hBlocks hDone
      hField =>
      exact Progress.feed_counted hWell hBlocks hDone hField
        error b
  | finished done error hBlocks hDone =>
      simp [parserAt, isDone] at hGoing
  | rejected done size check rest field error hBlocks hDone
      hField hCheck =>
      simp [parserAt, isDone] at hGoing

/- The parser that `blockParser` builds has read nothing. -/
theorem Progress.start
    {blocks : List Block}
    (hWell : ∀ block ∈ blocks, block.WellFormed)
    (hSome : blocks ≠ []) :
    Progress blocks [] (blockParser blocks) := by
  have hBefore := Progress.before [] blocks hWell rfl
    (by simp) 0
  have hEq : blockParser blocks =
      parserBefore [] blocks 0 := by
    cases blocks with
    | nil => exact absurd rfl hSome
    | cons block tail =>
        cases block <;> rfl
  rw [hEq]
  exact hBefore

/-
  What `consume` does to a parser in progress: it stops at
  the last byte of the message or uses every byte.
-/
theorem Progress.of_consume
    {blocks : List Block}
    (hWell : ∀ block ∈ blocks, block.WellFormed)
    {fed : List UInt8}
    {p : Parser}
    (h : Progress blocks fed p)
    (hGoing : isDone p.current = false)
    {limit : Nat}
    (b : Buffer limit) :
    ∃ used,
      b.pending = used ++ (consume b p).buffer.pending ∧
        Progress blocks (fed ++ used) (consume b p).parser ∧
        (isDone (consume b p).parser.current = true ∨
          (consume b p).buffer.pending = []) := by
  have hFeed := b.feed_eq Parser.reader p
  rcases Parser.reader.consume_progress
      (P := Progress blocks)
      (fun fed s a hFed hStop =>
        Progress.step hWell hFed hStop a)
      h hGoing b.pending with
    ⟨used, hSplit, hUsed, hEnd⟩
  refine ⟨used, ?_, ?_, ?_⟩
  · simpa [consume, hFeed.2] using hSplit
  · simpa [consume, hFeed.1] using hUsed
  · rw [← hFeed.1, ← hFeed.2] at hEnd
    exact hEnd

end Socks5d

------------------------------------------------------------
-- Whole Messages
------------------------------------------------------------

namespace Socks5d

/- The wire bytes of a block say where its field ends. -/
theorem Block.encode_append
    {block : Block}
    {field other x y : List UInt8}
    (hField : block.Accepts field)
    (hOther : block.Accepts other)
    (h : block.encode field ++ x = block.encode other ++ y) :
    field = other ∧ x = y := by
  cases block with
  | fixed size check =>
      have hLength : field.length = other.length :=
        hField.1.trans hOther.1.symm
      exact List.append_inj h hLength
  | counted =>
      have hBoth := List.cons.inj h
      have hSize := congrArg UInt8.toNat hBoth.1
      have hFieldLt : field.length < 256 := hField
      have hOtherLt : other.length < 256 := hOther
      rw [UInt8.toNat_ofNat_of_lt' hFieldLt,
        UInt8.toNat_ofNat_of_lt' hOtherLt] at hSize
      exact List.append_inj hBoth.2 hSize

theorem encodeAll_cons
    (block : Block)
    (field : List UInt8)
    (rest : List (Block × List UInt8)) :
    encodeAll ((block, field) :: rest) =
      block.encode field ++ encodeAll rest := rfl

/-
  Fields at the front of a message are its first ones. The
  induction is on these fields; the rest of both is free.
-/
theorem encodeAll_append
    {done fields : List (Block × List UInt8)}
    {rest : List Block}
    {x : List UInt8}
    (hBlocks : fields.map Prod.fst =
      done.map Prod.fst ++ rest)
    (hDone : ∀ entry ∈ done, entry.1.Accepts entry.2)
    (hFields : ∀ entry ∈ fields, entry.1.Accepts entry.2)
    (h : encodeAll done ++ x = encodeAll fields) :
    ∃ more, fields = done ++ more ∧ x = encodeAll more ∧
      more.map Prod.fst = rest := by
  induction done generalizing fields with
  | nil => exact ⟨fields, rfl, h, hBlocks⟩
  | cons entry done ih =>
      cases fields with
      | nil => nomatch hBlocks
      | cons first fields =>
          rcases entry with ⟨block, field⟩
          rcases first with ⟨block', field'⟩
          rw [List.map_cons, List.map_cons, List.cons_append,
            List.cons.injEq] at hBlocks
          have hSame : block' = block := hBlocks.1
          subst hSame
          have hSplit : block'.encode field ++
              (encodeAll done ++ x) =
                block'.encode field' ++ encodeAll fields := by
            rw [encodeAll_cons, encodeAll_cons,
              List.append_assoc] at h
            exact h
          have hOne : block'.Accepts field :=
            hDone _ List.mem_cons_self
          have hOther : block'.Accepts field' :=
            hFields _ List.mem_cons_self
          rcases Block.encode_append hOne hOther hSplit with
            ⟨hField, hRest⟩
          rcases ih hBlocks.2
            (fun e hE => hDone e (List.mem_cons_of_mem _ hE))
            (fun e hE => hFields e (List.mem_cons_of_mem _ hE))
            hRest with ⟨more, hMore, hX, hMap⟩
          refine ⟨more, ?_, hX, hMap⟩
          rw [hField, hMore]
          rfl

/-
  A parser that was fed the start of a message is done when
  it has the whole message, with the fields of the message,
  and reads on before.
-/
theorem Progress.message
    {blocks : List Block}
    {fields : List (Block × List UInt8)}
    {fed left : List UInt8}
    {p : Parser}
    (h : Progress blocks fed p)
    (hBlocks : fields.map Prod.fst = blocks)
    (hFields : ∀ entry ∈ fields, entry.1.Accepts entry.2)
    (hPrefix : fed ++ left = encodeAll fields) :
    (isDone p.current = false ∧ left ≠ []) ∨
      (left = [] ∧ ∃ error,
        p = parserAt fields [] 0 [] .doneRead error) := by
  cases h with
  | inFixed done size check rest field error hAll hDone
      hField =>
      left
      refine ⟨rfl, ?_⟩
      intro hNil
      rw [List.append_assoc] at hPrefix
      rcases encodeAll_append (hBlocks.trans hAll) hDone
        hFields hPrefix with ⟨more, hEq, hRest, hMap⟩
      rcases more with _ | ⟨⟨block, value⟩, more⟩
      · nomatch hMap
      · have hBlock : block = .fixed size check :=
          (List.cons.inj hMap).1
        subst hBlock
        have hValue := hFields (.fixed size check, value)
          (by rw [hEq]; simp)
        rw [hNil, List.append_nil, encodeAll_cons] at hRest
        have hLength := congrArg List.length hRest
        rw [List.length_append] at hLength
        have hSize : value.length = size.toNat := hValue.1
        have hLong : (Block.fixed size check).encode value =
            value := rfl
        rw [hLong] at hLength
        omega
  | atCounted done rest error hAll hDone =>
      left
      refine ⟨rfl, ?_⟩
      intro hNil
      rcases encodeAll_append (hBlocks.trans hAll) hDone
        hFields hPrefix with ⟨more, hEq, hRest, hMap⟩
      rcases more with _ | ⟨⟨block, value⟩, more⟩
      · nomatch hMap
      · have hBlock : block = .counted :=
          (List.cons.inj hMap).1
        subst hBlock
        rw [hNil] at hRest
        nomatch hRest
  | inCounted done size rest field error hAll hDone hField =>
      left
      refine ⟨rfl, ?_⟩
      intro hNil
      rw [List.append_assoc] at hPrefix
      rcases encodeAll_append (hBlocks.trans hAll) hDone
        hFields hPrefix with ⟨more, hEq, hRest, hMap⟩
      rcases more with _ | ⟨⟨block, value⟩, more⟩
      · nomatch hMap
      · have hBlock : block = .counted :=
          (List.cons.inj hMap).1
        subst hBlock
        have hValue : value.length < 256 :=
          hFields (.counted, value) (by rw [hEq]; simp)
        have hBoth : size = UInt8.ofNat value.length ∧
            field = value ++ encodeAll more := by
          rw [hNil, List.append_nil, encodeAll_cons] at hRest
          exact List.cons.inj hRest
        have hSize := congrArg UInt8.toNat hBoth.1
        rw [UInt8.toNat_ofNat_of_lt' hValue] at hSize
        have hLength := congrArg List.length hBoth.2
        rw [List.length_append] at hLength
        omega
  | finished done error hAll hDone =>
      right
      have hAll' : blocks = done.map Prod.fst ++ [] := by
        rw [List.append_nil]
        exact hAll
      rcases encodeAll_append (hBlocks.trans hAll') hDone
        hFields hPrefix with ⟨more, hEq, hRest, hMap⟩
      have hMore : more = [] := List.map_eq_nil_iff.mp hMap
      rw [hMore] at hRest hEq
      rw [List.append_nil] at hEq
      refine ⟨hRest, error, ?_⟩
      rw [hEq]
  | rejected done size check rest field error hAll hDone
      hField hCheck =>
      exfalso
      rw [List.append_assoc] at hPrefix
      rcases encodeAll_append (hBlocks.trans hAll) hDone
        hFields hPrefix with ⟨more, hEq, hRest, hMap⟩
      rcases more with _ | ⟨⟨block, value⟩, more⟩
      · nomatch hMap
      · have hBlock : block = .fixed size (some check) :=
          (List.cons.inj hMap).1
        subst hBlock
        have hValue := hFields (.fixed size (some check), value)
          (by rw [hEq]; simp)
        have hSplit : field ++ left =
            value ++ encodeAll more := hRest
        have hSame := (List.append_inj hSplit
          (hField.trans hValue.1.symm)).1
        have hPassed := hValue.2 check rfl
        rw [← hSame, hCheck] at hPassed
        nomatch hPassed

end Socks5d
