import Mathlib.Data.List.Induction
import Socks5d.ParserBlocks

/-
  The length-driven parser over any list of blocks: where a
  message ends, what is stored of it, and which message is
  refused, however its bytes are cut.

  Main declarations:
    * `consumeAll`
    * `writes`, `FeedsInside`
    * `Block.reads`, `blocks_read`
    * `message_stops`, `refusal_stops`
    * `Parsed`, `parser_exact`
-/

------------------------------------------------------------
-- Reports Of The Parser
------------------------------------------------------------

namespace Socks5d

/-
  The calls of `consume` on one buffer after the other, each
  with its own flag, until one reports an end; the buffers
  that were not passed are returned.
-/
def consumeAll
    {limit : Nat}
    (p : Parser)
    (b : Buffer limit) :
    List (Buffer limit) →
      Consumed limit × List (Buffer limit)
| [] => (consume b p, [])
| next :: rest =>
    let r := consume b p
    if isDone r.state then (r, next :: rest)
    else consumeAll r.parser next rest

/-
  The places of `result` that `parser_feed` writes, each with
  the size of its array.
-/
def writes
    (p : Parser)
    (b : UInt8) : List (Int × Nat) :=
  let substate := p.substate
  let capacity := (substate.result.getD []).length
  match p.current with
  | .singleRead => [(0, capacity)]
  | .readN =>
      if p.index + 1 < p.size ∧ b = 0 then [(0, 1)] else []
  | .longRead =>
      ((substate.size.toNat : Int) -
          substate.remaining.toNat, capacity) ::
        if substate.remaining - 1 = 0 then
          [((substate.size.toNat : Int), capacity)]
        else []
  | .doneRead => []
  | .errorRead => []

/-
  A feed looks at a substate that there is, and every index
  it uses on a result lies inside it.
-/
structure FeedsInside
    (p : Parser)
    (b : UInt8) : Prop where
  index : p.index < p.size ∧ p.size = p.states.length
  result : ∀ place ∈ writes p b,
    0 ≤ place.1 ∧ place.1 < place.2

/- The results of the `longRead` substates. -/
def Parser.results (p : Parser) :
    List (Option (List UInt8)) :=
  (p.states.filter fun substate =>
    substate.state = .longRead).map Substate.result

end Socks5d

------------------------------------------------------------
-- Substates And Indices
------------------------------------------------------------

namespace Socks5d

section Indices

variable {blocks : List Block}
variable {fed : List UInt8}
variable {p : Parser}

theorem length_filled
    (block : Block)
    (field : List UInt8) :
    (block.filled field).length = block.fresh.length := by
  cases block with
  | fixed size check => rfl
  | counted => rfl

/- Storing fields does not change the number of substates. -/
theorem length_filledAll
    (done : List (Block × List UInt8)) :
    (filledAll done).length =
      (freshAll (done.map Prod.fst)).length := by
  induction done with
  | nil => rfl
  | cons entry done ih =>
      have hFilled : filledAll (entry :: done) =
          entry.1.filled entry.2 ++ filledAll done := rfl
      rw [hFilled, List.map_cons, freshAll_cons,
        List.length_append, List.length_append, ih,
        length_filled]

theorem length_freshAll_append
    (first second : List Block) :
    (freshAll (first ++ second)).length =
      (freshAll first).length + (freshAll second).length := by
  unfold freshAll
  rw [List.flatMap_append, List.length_append]

/- The size of a parser in progress is that of its array. -/
theorem Progress.size
    (h : Progress blocks fed p) :
    p.size = (freshAll blocks).length ∧
      p.size = p.states.length ∧
      p.index ≤ p.size ∧
      (isDone p.current = false → p.index < p.size) := by
  have hSize : ∀ (done : List (Block × List UInt8))
      (here : List Substate) (block : Block)
      (rest : List Block), here.length = block.fresh.length →
      blocks = done.map Prod.fst ++ block :: rest →
      (filledAll done ++ here ++ freshAll rest).length =
        (freshAll blocks).length := by
    intro done here block rest hHere hBlocks
    rw [hBlocks, length_freshAll_append, freshAll_cons,
      List.length_append, List.length_append,
      List.length_append, length_filledAll, hHere,
      Nat.add_assoc]
  cases h with
  | inFixed done size check rest field error hBlocks _ _ =>
      refine ⟨hSize done _ _ rest rfl hBlocks, rfl, ?_,
        fun _ => ?_⟩
      · unfold parserAt
        simp only [List.length_append, List.length_singleton]
        omega
      · unfold parserAt
        simp only [List.length_append, List.length_singleton]
        omega
  | atCounted done rest error hBlocks _ =>
      refine ⟨hSize done _ _ rest rfl hBlocks, rfl, ?_,
        fun _ => ?_⟩
      · unfold parserAt Block.fresh
        simp only [List.length_append, List.length_cons,
          List.length_nil]
        omega
      · unfold parserAt Block.fresh
        simp only [List.length_append, List.length_cons,
          List.length_nil]
        omega
  | inCounted done size rest field error hBlocks _ _ =>
      refine ⟨hSize done _ _ rest rfl hBlocks, rfl, ?_,
        fun _ => ?_⟩
      · unfold parserAt
        simp only [List.length_append, List.length_cons,
          List.length_nil]
        omega
      · unfold parserAt
        simp only [List.length_append, List.length_cons,
          List.length_nil]
        omega
  | finished done error hBlocks _ =>
      have hAll : (filledAll done ++ [] ++ freshAll []).length =
          (freshAll blocks).length := by
        rw [hBlocks, ← length_filledAll, List.append_nil]
        exact congrArg _ (List.append_nil _)
      refine ⟨hAll, rfl, ?_, fun hBad => nomatch hBad⟩
      unfold parserAt
      simp only [List.length_append, List.length_nil]
      omega
  | rejected done size check rest field error hBlocks _ _ _ =>
      refine ⟨hSize done _ _ rest rfl hBlocks, rfl, ?_,
        fun hBad => nomatch hBad⟩
      unfold parserAt Block.filled
      simp only [List.length_append, List.length_singleton]
      omega

/- A substate of a block array waits for bytes. -/
def Substate.Waits (substate : Substate) : Prop :=
  substate.state = .longRead ∨ substate.state = .readN

/- The substates of a preset block, and of a counted one. -/
theorem waits_fixed
    {substate : Substate}
    (hState : substate.state = .longRead) :
    ∀ other ∈ [substate], other.Waits := by
  intro other hMem
  rw [List.mem_singleton.1 hMem]
  exact Or.inl hState

theorem waits_counted
    {substate : Substate}
    (hState : substate.state = .longRead) :
    ∀ other ∈ [{ state := .readN }, substate],
      other.Waits := by
  intro other hMem
  rcases List.mem_cons.1 hMem with rfl | hSecond
  · exact Or.inr rfl
  · exact waits_fixed hState other hSecond

theorem filledAll_waits
    (done : List (Block × List UInt8)) :
    ∀ substate ∈ filledAll done, substate.Waits := by
  intro substate hMem
  rcases List.mem_flatMap.1 hMem with ⟨⟨block, field⟩, _, hIn⟩
  cases block with
  | fixed size check => exact waits_fixed rfl substate hIn
  | counted => exact waits_counted rfl substate hIn

theorem freshAll_waits
    (rest : List Block) :
    ∀ substate ∈ freshAll rest, substate.Waits := by
  intro substate hMem
  rcases List.mem_flatMap.1 hMem with ⟨block, _, hIn⟩
  cases block with
  | fixed size check => exact waits_fixed rfl substate hIn
  | counted => exact waits_counted rfl substate hIn

theorem Progress.waits
    (h : Progress blocks fed p) :
    ∀ substate ∈ p.states, substate.Waits := by
  have hAll : ∀ (done : List (Block × List UInt8))
      (here : List Substate) (rest : List Block),
      (∀ substate ∈ here, substate.Waits) →
      ∀ substate ∈ filledAll done ++ here ++ freshAll rest,
        substate.Waits := by
    intro done here rest hHere substate hMem
    rcases List.mem_append.1 hMem with hFirst | hRest
    · rcases List.mem_append.1 hFirst with hDone | hIn
      · exact filledAll_waits done substate hDone
      · exact hHere substate hIn
    · exact freshAll_waits rest substate hRest
  cases h with
  | inFixed done size check rest field error _ _ _ =>
      exact hAll done _ rest (waits_fixed rfl)
  | atCounted done rest error _ _ =>
      exact hAll done _ rest (waits_counted rfl)
  | inCounted done size rest field error _ _ _ =>
      exact hAll done _ rest (waits_counted rfl)
  | finished done error _ _ =>
      exact hAll done _ [] fun _ hMem => nomatch hMem
  | rejected done size check rest field error _ _ _ _ =>
      exact hAll done _ rest (waits_fixed rfl)

/- What `consume` returns for an empty buffer is no end. -/
theorem Progress.first_going
    (h : Progress blocks fed p) :
    isDone (p.states.getD 0 default).state = false := by
  cases hStates : p.states with
  | nil => rfl
  | cons first more =>
      have hWaits := h.waits first (by
        rw [hStates]
        exact List.mem_cons_self)
      show isDone first.state = false
      rcases hWaits with hLong | hCount
      · rw [hLong]
        rfl
      · rw [hCount]
        rfl

/- The bytes of a field are written inside its array. -/
theorem reading_inside
    {size : UInt8}
    {check : Option Check}
    {field : List UInt8}
    (hHere : p.substate = Block.reading size check field)
    (hCurrent : p.current = .longRead)
    (hField : field.length < size.toNat)
    (b : UInt8) :
    ∀ place ∈ writes p b, 0 ≤ place.1 ∧ place.1 < place.2 := by
  have hSize := size.toNat_lt
  have hCapacity : ((Block.reading size check
      field).result.getD []).length = size.toNat + 1 := by
    unfold Block.reading
    simp only [Option.getD_some, List.length_append,
      List.length_replicate]
    omega
  have hCount : (UInt8.ofNat field.length).toNat =
      field.length := by
    rw [UInt8.toNat_ofNat']
    omega
  have hLess : UInt8.ofNat field.length ≤ size := by
    rw [UInt8.le_iff_toNat_le, hCount]
    exact Nat.le_of_lt hField
  have hLeft : (Block.reading size check
      field).remaining.toNat = size.toNat - field.length := by
    show (size - UInt8.ofNat field.length).toNat = _
    rw [UInt8.toNat_sub_of_le _ _ hLess, hCount]
  intro place hMem
  unfold writes at hMem
  rw [hCurrent, hHere] at hMem
  dsimp only at hMem
  rw [hCapacity, hLeft] at hMem
  have hOwn : (Block.reading size check field).size =
      size := rfl
  rw [hOwn] at hMem
  rcases List.mem_cons.1 hMem with rfl | hLast
  · dsimp only
    omega
  · split at hLast
    · rw [List.mem_singleton.1 hLast]
      dsimp only
      omega
    · nomatch hLast

/- A parser in progress writes inside its results. -/
theorem Progress.inside
    (h : Progress blocks fed p)
    (hGoing : isDone p.current = false)
    (b : UInt8) : FeedsInside p b := by
  have hSize := h.size
  refine ⟨⟨hSize.2.2.2 hGoing, hSize.2.1⟩, ?_⟩
  cases h with
  | inFixed done size check rest field error _ _ hField =>
      exact reading_inside
        (parserAt_substate_zero _ _ _ _ _ _) rfl hField b
  | atCounted done rest error _ _ =>
      intro place hMem
      have hPlaces : writes (parserAt done
          (Block.fresh .counted) 0 rest .readN error) b =
          if _ then [(0, 1)] else [] := rfl
      rw [hPlaces] at hMem
      split at hMem
      · rw [List.mem_singleton.1 hMem]
        exact ⟨Int.le_refl 0, Int.one_pos⟩
      · nomatch hMem
  | inCounted done size rest field error _ _ hField =>
      exact reading_inside
        (parserAt_substate_one _ _ _ _ _ _ _) rfl hField b
  | finished => nomatch hGoing
  | rejected => nomatch hGoing

end Indices

end Socks5d

------------------------------------------------------------
-- Reading A Block
------------------------------------------------------------

namespace Socks5d

/- The parser once a preset block has all its bytes. -/
def afterFixed
    (done : List (Block × List UInt8))
    (size : UInt8)
    (check : Option Check)
    (rest : List Block)
    (error : UInt8)
    (field : List UInt8) : Parser :=
  match check with
  | none =>
      parserBefore (done ++ [(.fixed size none, field)])
        rest error
  | some c =>
      let verdict := c (field ++ [0]) size
      let error := verdict.2.getD error
      if verdict.1 then
        parserBefore (done ++ [(.fixed size (some c), field)])
          rest error
      else
        parserAt done
          [Block.stored size (some c) field] 0 rest
          .errorRead error

section Reading

variable {done : List (Block × List UInt8)}
variable {block : Block}
variable {rest : List Block}
variable {field : List UInt8}

theorem fixed_field
    (done : List (Block × List UInt8))
    (size : UInt8)
    (check : Option Check)
    (rest : List Block)
    (error : UInt8) :
    Parser.reader.Field size.toNat
      (fun field => parserAt done
        [Block.reading size check field] 0 rest
        .longRead error)
      (afterFixed done size check rest error) where
  going := fun _ => rfl
  more := by
    intro field b hMore
    have hFeed := feedLongRead_more
      (parserAt_substate_zero done
        (Block.reading size check field) [] rest
        .longRead error) hMore b
    rw [parserAt_setSubstate_zero] at hFeed
    exact hFeed
  last := by
    intro field b hLast
    have hFeed := feedLongRead_last
      (parserAt_substate_zero done
        (Block.reading size check field) [] rest
        .longRead error) hLast b
    refine hFeed.trans ?_
    rw [parserAt_setSubstate_zero]
    unfold afterFixed
    cases check with
    | none => exact parserAt_advance_fixed _ _ _ _ _ _ _
    | some c =>
        simp only [parserAt_noteError,
          parserAt_advance_fixed]
        rfl

theorem counted_field
    (done : List (Block × List UInt8))
    (size : UInt8)
    (rest : List Block)
    (error : UInt8) :
    Parser.reader.Field size.toNat
      (fun field => parserAt done
        [{ state := .readN }, Block.reading size none field]
        1 rest .longRead error)
      (fun field => parserBefore
        (done ++ [(.counted, field)]) rest error) where
  going := fun _ => rfl
  more := by
    intro field b hMore
    have hFeed := feedLongRead_more
      (parserAt_substate_one done { state := .readN }
        (Block.reading size none field) [] rest
        .longRead error) hMore b
    rw [parserAt_setSubstate_one] at hFeed
    exact hFeed
  last := by
    intro field b hLast
    have hFeed := feedLongRead_last
      (parserAt_substate_one done { state := .readN }
        (Block.reading size none field) [] rest
        .longRead error) hLast b
    have hLength : (field ++ [b]).length = size.toNat := by
      rw [List.length_append, List.length_singleton]
      exact hLast
    refine hFeed.trans ?_
    rw [parserAt_setSubstate_one]
    exact parserAt_advance_counted done hLength rest _ error

/- The length byte of a counted block. -/
theorem count_feed
    (done : List (Block × List UInt8))
    (rest : List Block)
    (error b : UInt8) :
    parserFeed (parserBefore done (.counted :: rest) error)
        b =
      if b = 0 then
        parserBefore (done ++ [(.counted, [])]) rest error
      else
        parserAt done
          [{ state := .readN }, Block.reading b none []]
          1 rest .longRead error := by
  have hHere : parserBefore done (.counted :: rest) error =
      parserAt done (Block.fresh .counted) 0 rest
        .readN error := by
    unfold parserBefore parserAt
    rw [freshAll_cons, List.append_assoc]
    rfl
  have hMore : (parserAt done (Block.fresh .counted) 0 rest
      .readN error).index + 1 <
        (parserAt done (Block.fresh .counted) 0 rest
          .readN error).size := by
    unfold parserAt Block.fresh
    simp only [List.length_append, List.length_cons,
      List.length_nil]
    omega
  have hMoved := feedReadN_longRead hMore
    (parserAt_substate_one done { state := .readN }
      { state := .longRead } [] rest .readN error) b
  rw [hHere]
  refine hMoved.trans ?_
  show (if b = 0 then
      ((parserAt done (Block.fresh .counted) 1 rest
        .longRead error).setSubstate
          (Block.stored 0 none [])).advance
    else (parserAt done (Block.fresh .counted) 1 rest
        .longRead error).setSubstate
          (Block.reading b none [])) = _
  unfold Block.fresh
  rw [parserAt_setSubstate_one, parserAt_setSubstate_one]
  by_cases hZero : b = 0
  · rw [if_pos hZero, if_pos hZero]
    exact parserAt_advance_counted done rfl rest _ error
  · rw [if_neg hZero, if_neg hZero]

/- Before a preset block, none of its bytes is stored. -/
theorem parserBefore_fixed
    (done : List (Block × List UInt8))
    (size : UInt8)
    (check : Option Check)
    (rest : List Block)
    (error : UInt8) :
    parserBefore done (.fixed size check :: rest) error =
      parserAt done [Block.reading size check []] 0 rest
        .longRead error := by
  unfold parserBefore parserAt
  rw [freshAll_cons, List.append_assoc]
  rfl

/- The parser stands before blocks, or it is done. -/
theorem parserBefore_stop
    (done : List (Block × List UInt8))
    (rest : List Block)
    (error : UInt8) :
    Parser.reader.stop (parserBefore done rest error) = true ↔
      rest = [] := by
  cases rest with
  | nil => exact ⟨fun _ => rfl, fun _ => rfl⟩
  | cons block rest =>
      cases block with
      | fixed size check => exact ⟨nofun, nofun⟩
      | counted => exact ⟨nofun, nofun⟩

/-
  From before a block, its bytes lead to before the next one,
  or to the end of the message.
-/
theorem Block.reads
    (hWell : block.WellFormed)
    (hField : block.Accepts field)
    (done : List (Block × List UInt8))
    (rest : List Block)
    (error : UInt8) :
    let p := parserBefore done (block :: rest) error
    let bytes := block.encode field
    (∃ after, Parser.reader.feedAll p bytes =
        parserBefore (done ++ [(block, field)]) rest after) ∧
      (rest ≠ [] → Parser.reader.Live p bytes) ∧
      (rest = [] → Parser.reader.Stops p bytes) := by
  cases block with
  | fixed size check =>
      rcases hField with ⟨hLength, hCheck⟩
      intro p bytes
      have hRead := (fixed_field done size check rest
        error).read hLength hWell
      have hAfter : ∃ after,
          afterFixed done size check rest error field =
            parserBefore (done ++
              [(.fixed size check, field)]) rest after := by
        unfold afterFixed
        cases check with
        | none => exact ⟨error, rfl⟩
        | some c =>
            exact ⟨_, if_pos (hCheck c rfl)⟩
      have hStart : p = parserAt done
          [Block.reading size check []] 0 rest .longRead
            error := parserBefore_fixed _ _ _ _ _
      rcases hAfter with ⟨after, hAfter⟩
      rw [hAfter] at hRead
      have hStop := parserBefore_stop
        (done ++ [(.fixed size check, field)]) rest after
      rw [hStart]
      refine ⟨⟨after, hRead.1⟩, ?_, ?_⟩
      · intro hRest
        apply hRead.2.1
        rw [Bool.eq_false_iff]
        exact fun hBad => hRest (hStop.1 hBad)
      · intro hRest
        exact hRead.2.2 (hStop.2 hRest)
  | counted =>
      have hLength : (UInt8.ofNat field.length).toNat =
          field.length := UInt8.toNat_ofNat_of_lt' hField
      have hCount := count_feed done rest error
        (UInt8.ofNat field.length)
      intro p bytes
      have hBytes : bytes =
          UInt8.ofNat field.length :: field := rfl
      cases field with
      | nil =>
          have hEnd : Parser.reader.feed p 0 =
              parserBefore (done ++ [(.counted, [])]) rest
                error := hCount
          have hStop := parserBefore_stop
            (done ++ [(.counted, [])]) rest error
          rw [← hEnd] at hStop
          refine ⟨⟨error, hEnd⟩, ?_, ?_⟩
          · intro hRest
            refine ⟨?_, trivial⟩
            rw [Bool.eq_false_iff]
            exact fun hBad => hRest (hStop.1 hBad)
          · intro hRest
            exact (if_pos (hStop.2 hRest)).mpr rfl
      | cons first more =>
          have hPos : 0 < (first :: more).length :=
            Nat.succ_pos _
          have hSome : UInt8.ofNat (first :: more).length ≠
              0 := by
            intro hZero
            rw [hZero] at hLength
            exact Nat.ne_of_lt hPos hLength
          rw [if_neg hSome] at hCount
          have hRead := (counted_field done
            (UInt8.ofNat (first :: more).length) rest
              error).read hLength.symm (hLength.symm ▸ hPos)
          have hStop := parserBefore_stop
            (done ++ [(.counted, first :: more)]) rest error
          have hHead : Parser.reader.Live p
              [UInt8.ofNat (first :: more).length] := by
            refine ⟨?_, trivial⟩
            show isDone (parserFeed p _).current = false
            rw [hCount]
            rfl
          have hFirst : Parser.reader.feedAll p
              [UInt8.ofNat (first :: more).length] = _ :=
            hCount
          have hSplit : bytes =
              [UInt8.ofNat (first :: more).length] ++
                (first :: more) := rfl
          rw [hSplit, Parser.reader.feedAll_append,
            Parser.reader.live_append,
            Parser.reader.stops_append_of_live hHead, hFirst]
          refine ⟨⟨error, hRead.1⟩, ?_, ?_⟩
          · intro hRest
            refine ⟨hHead, hRead.2.1 ?_⟩
            rw [Bool.eq_false_iff]
            exact fun hBad => hRest (hStop.1 hBad)
          · intro hRest
            exact hRead.2.2 (hStop.2 hRest)

/- A refused preset block stops the parser at its last byte. -/
theorem fixed_refused
    {size : UInt8}
    {check : Check}
    (hPos : 0 < size.toNat)
    (hLength : field.length = size.toNat)
    (hCheck : (check (field ++ [0]) size).1 = false)
    (done : List (Block × List UInt8))
    (rest : List Block)
    (error : UInt8) :
    let p := parserBefore done
      (.fixed size (some check) :: rest) error
    Parser.reader.Stops p field ∧
      (Parser.reader.feedAll p field).current =
        .errorRead := by
  have hRead := (fixed_field done size (some check) rest
    error).read hLength hPos
  have hAfter : (afterFixed done size (some check) rest
      error field).current = .errorRead := by
    unfold afterFixed
    dsimp only
    rw [hCheck]
    rfl
  have hStop : Parser.reader.stop (afterFixed done size
      (some check) rest error field) = true := by
    show isDone (afterFixed done size (some check) rest error
      field).current = true
    rw [hAfter]
    rfl
  intro p
  have hStart : p = parserAt done
      [Block.reading size (some check) []] 0 rest .longRead
        error := parserBefore_fixed _ _ _ _ _
  rw [hStart]
  refine ⟨hRead.2.2 hStop, ?_⟩
  rw [hRead.1]
  exact hAfter

end Reading

end Socks5d

------------------------------------------------------------
-- Messages
------------------------------------------------------------

namespace Socks5d

/- One accepted field for each block. -/
structure Complete
    (blocks : List Block)
    (fields : List (Block × List UInt8)) : Prop where
  blocks : fields.map Prod.fst = blocks
  accepts : ∀ entry ∈ fields, entry.1.Accepts entry.2

/-
  Accepted fields for the first blocks, and one that the
  check of the next block refuses.
-/
structure RefusesBlock
    (blocks : List Block)
    (done : List (Block × List UInt8))
    (field : List UInt8) : Prop where
  accepts : ∀ entry ∈ done, entry.1.Accepts entry.2
  refused : ∃ size check rest,
    blocks = done.map Prod.fst ++
        .fixed size (some check) :: rest ∧
      field.length = size.toNat ∧
      (check (field ++ [0]) size).1 = false

section Messages

variable {blocks : List Block}
variable {fields done : List (Block × List UInt8)}
variable {field stream : List UInt8}

theorem blockParser_before
    (hSome : blocks ≠ []) :
    blockParser blocks = parserBefore [] blocks 0 := by
  cases blocks with
  | nil => exact absurd rfl hSome
  | cons block rest =>
      cases block with
      | fixed size check => rfl
      | counted => rfl

/-
  Accepted fields lead to before the next block. The
  induction adds a field at the end.
-/
theorem blocks_read
    (hWell : ∀ block ∈ blocks, block.WellFormed)
    (done : List (Block × List UInt8))
    (hDone : ∀ entry ∈ done, entry.1.Accepts entry.2)
    (rest : List Block)
    (hBlocks : blocks = done.map Prod.fst ++ rest)
    (hRest : rest ≠ []) :
    Parser.reader.Live (blockParser blocks)
        (encodeAll done) ∧
      ∃ error, Parser.reader.feedAll (blockParser blocks)
        (encodeAll done) = parserBefore done rest error := by
  induction done using List.reverseRecOn generalizing rest with
  | nil =>
      have hAll : blocks = rest := hBlocks
      subst hAll
      exact ⟨trivial, 0, blockParser_before hRest⟩
  | append_singleton done entry ih =>
      rcases entry with ⟨block, field⟩
      rw [List.map_append, List.append_assoc] at hBlocks
      have hBefore := ih
        (fun entry hMem =>
          hDone entry (List.mem_append_left _ hMem))
        (block :: rest) hBlocks (List.cons_ne_nil _ _)
      rcases hBefore with ⟨hLive, error, hFed⟩
      have hBlock : block ∈ blocks := by
        rw [hBlocks]
        exact List.mem_append_right _ List.mem_cons_self
      have hField : block.Accepts field :=
        hDone (block, field)
          (List.mem_append_right _ List.mem_cons_self)
      rcases Block.reads (hWell block hBlock) hField done rest
        error with ⟨⟨after, hAfter⟩, hMore, _⟩
      rw [encodeAll_concat, Parser.reader.live_append,
        Parser.reader.feedAll_append, hFed]
      exact ⟨⟨hLive, hMore hRest⟩, after, hAfter⟩

/- The parser stops at the last byte of a message. -/
theorem message_stops
    (hWell : ∀ block ∈ blocks, block.WellFormed)
    (hSome : blocks ≠ [])
    (h : Complete blocks fields) :
    Parser.reader.Stops (blockParser blocks)
        (encodeAll fields) ∧
      ∃ error, Parser.reader.feedAll (blockParser blocks)
        (encodeAll fields) =
          parserBefore fields [] error := by
  rcases h with ⟨hBlocks, hAccepts⟩
  rcases List.eq_nil_or_concat fields with
    rfl | ⟨done, ⟨block, field⟩, hEq⟩
  · exact absurd hBlocks.symm hSome
  · rw [List.concat_eq_append] at hEq
    subst hEq
    rw [List.map_append] at hBlocks
    have hBlock : block ∈ blocks := by
      rw [← hBlocks]
      exact List.mem_append_right _ List.mem_cons_self
    have hField : block.Accepts field :=
      hAccepts (block, field)
        (List.mem_append_right _ List.mem_cons_self)
    rcases blocks_read hWell done
        (fun entry hMem =>
          hAccepts entry (List.mem_append_left _ hMem))
        [block] hBlocks.symm (List.cons_ne_nil _ _) with
      ⟨hLive, error, hFed⟩
    rcases Block.reads (hWell block hBlock) hField done []
      error with ⟨⟨after, hAfter⟩, _, hStops⟩
    rw [encodeAll_concat, Parser.reader.feedAll_append,
      Parser.reader.stops_append_of_live hLive, hFed]
    exact ⟨hStops rfl, after, hAfter⟩

/- It stops at the last byte of a field that is refused. -/
theorem refusal_stops
    (hWell : ∀ block ∈ blocks, block.WellFormed)
    (h : RefusesBlock blocks done field) :
    Parser.reader.Stops (blockParser blocks)
        (encodeAll done ++ field) ∧
      (Parser.reader.feedAll (blockParser blocks)
        (encodeAll done ++ field)).current =
          .errorRead := by
  rcases h with ⟨hAccepts, size, check, rest, hBlocks,
    hLength, hCheck⟩
  rcases blocks_read hWell done hAccepts _ hBlocks
    (List.cons_ne_nil _ _) with ⟨hLive, error, hFed⟩
  have hBlock : Block.fixed size (some check) ∈ blocks := by
    rw [hBlocks]
    exact List.mem_append_right _ List.mem_cons_self
  have hStops := fixed_refused (hWell _ hBlock) hLength hCheck
    done rest error
  rw [Parser.reader.feedAll_append,
    Parser.reader.stops_append_of_live hLive, hFed]
  exact hStops

/- What the parser has made of a stream. -/
theorem blocks_progress
    (hWell : ∀ block ∈ blocks, block.WellFormed)
    (hSome : blocks ≠ [])
    (stream : List UInt8) :
    let after := Parser.reader.consume (blockParser blocks)
      stream
    ∃ used, stream = used ++ after.2 ∧
      Progress blocks used after.1 := by
  have hStart := Progress.start hWell hSome
  have hGoing : Parser.reader.stop (blockParser blocks) =
      false := by
    rw [blockParser_before hSome, Bool.eq_false_iff]
    exact fun hBad => hSome ((parserBefore_stop _ _ _).1 hBad)
  rcases Parser.reader.consume_progress
      (P := Progress blocks)
      (fun fed s a hFed hStop =>
        Progress.step hWell hFed hStop a)
      hStart hGoing stream with ⟨used, hSplit, hUsed, _⟩
  exact ⟨used, hSplit, hUsed⟩

/- Done after a message, and only then. -/
theorem done_iff
    (hWell : ∀ block ∈ blocks, block.WellFormed)
    (hSome : blocks ≠ [])
    (stream : List UInt8) :
    (Parser.reader.consume (blockParser blocks)
        stream).1.current = .doneRead ↔
      ∃ fields trailing, Complete blocks fields ∧
        stream = encodeAll fields ++ trailing := by
  constructor
  · intro hDone
    rcases blocks_progress hWell hSome stream with
      ⟨used, hSplit, hUsed⟩
    generalize Parser.reader.consume (blockParser blocks)
      stream = after at hDone hSplit hUsed
    rcases after with ⟨p, left⟩
    cases hUsed with
    | inFixed => nomatch hDone
    | atCounted => nomatch hDone
    | inCounted => nomatch hDone
    | rejected => nomatch hDone
    | finished done error hBlocks hAccepts =>
        exact ⟨done, left, ⟨hBlocks.symm, hAccepts⟩, hSplit⟩
  · rintro ⟨fields, trailing, hComplete, hStream⟩
    rcases message_stops hWell hSome hComplete with
      ⟨hStops, error, hFed⟩
    rw [hStream, Parser.reader.consume_of_stops hStops, hFed]
    rfl

/- In error after a refused field, and only then. -/
theorem error_iff
    (hWell : ∀ block ∈ blocks, block.WellFormed)
    (hSome : blocks ≠ [])
    (stream : List UInt8) :
    (Parser.reader.consume (blockParser blocks)
        stream).1.current = .errorRead ↔
      ∃ done field trailing, RefusesBlock blocks done field ∧
        stream = encodeAll done ++ field ++ trailing := by
  constructor
  · intro hError
    rcases blocks_progress hWell hSome stream with
      ⟨used, hSplit, hUsed⟩
    generalize Parser.reader.consume (blockParser blocks)
      stream = after at hError hSplit hUsed
    rcases after with ⟨p, left⟩
    cases hUsed with
    | inFixed => nomatch hError
    | atCounted => nomatch hError
    | inCounted => nomatch hError
    | finished => nomatch hError
    | rejected done size check rest field error hBlocks
        hAccepts hLength hCheck =>
        exact ⟨done, field, left,
          ⟨hAccepts, size, check, rest, hBlocks, hLength,
            hCheck⟩, hSplit⟩
  · rintro ⟨done, field, trailing, hRefuses, hStream⟩
    rcases refusal_stops hWell hRefuses with ⟨hStops, hFed⟩
    rw [hStream, Parser.reader.consume_of_stops hStops]
    exact hFed

/- The results of a message are its fields, terminated. -/
theorem results_filledAll
    (fields : List (Block × List UInt8))
    (error : UInt8) :
    (parserBefore fields [] error).results =
      fields.map fun entry => some (entry.2 ++ [0]) := by
  unfold Parser.results parserBefore
  have hNone : freshAll [] = [] := rfl
  rw [hNone, List.append_nil]
  induction fields with
  | nil => rfl
  | cons entry fields ih =>
      rcases entry with ⟨block, field⟩
      have hSplit : filledAll ((block, field) :: fields) =
          block.filled field ++ filledAll fields := rfl
      rw [hSplit, List.filter_append, List.map_append, ih]
      cases block with
      | fixed size check => rfl
      | counted => rfl

end Messages

end Socks5d

------------------------------------------------------------
-- Calls On Any Buffers
------------------------------------------------------------

namespace Socks5d

section Reports

variable {blocks : List Block}
variable {limit : Nat}

variable {fed : List UInt8}
variable {p : Parser}

/- The report of one call on a parser in progress. -/
structure ReportOf
    (r : Consumed limit)
    (after : Parser) : Prop where
  parser : r.parser = after
  ended : isDone after.current = true →
    r.state = after.current
  going : isDone after.current = false →
    isDone r.state = false
  flag : r.error = true ↔ after.current = .errorRead

theorem consume_reported
    (h : Progress blocks fed p)
    (hGoing : isDone p.current = false)
    (b : Buffer limit) :
    ReportOf (consume b p) (b.feed Parser.reader p).1 ∧
      (consume b p).buffer = (b.feed Parser.reader p).2 := by
  have hFirst := h.first_going
  unfold consume
  cases hRead : b.canRead with
  | true =>
      refine ⟨⟨rfl, fun _ => rfl, fun hEnd => hEnd, ?_⟩, rfl⟩
      dsimp only
      rw [Bool.true_and]
      exact decide_eq_true_iff
  | false =>
      have hEmpty := (Buffer.canRead_eq_false_iff b).1 hRead
      have hSame : b.feed Parser.reader p = (p, b) := by
        unfold Buffer.feed
        rw [hEmpty]
        rfl
      rw [hSame]
      refine ⟨⟨rfl, ?_, fun _ => hFirst, ?_⟩, rfl⟩
      · intro hBad
        nomatch hBad.symm.trans hGoing
      · constructor
        · intro hBad
          nomatch hBad
        · intro hError
          have hBad : p.current = .errorRead := hError
          rw [hBad] at hGoing
          nomatch hGoing

/- A buffer that does not end the message is used up. -/
theorem feed_used
    {b : Buffer limit}
    (hStill : isDone (b.feed Parser.reader p).1.current =
      false) :
    (b.feed Parser.reader p).2.pending = [] := by
  have hFed := b.feed_eq Parser.reader p
  rcases Parser.reader.consume_cases p b.pending with
    ⟨_, hEq⟩ | ⟨used, left, _, hStops, hEq⟩
  · rw [hFed.2, hEq]
  · have hEnd : isDone (b.feed Parser.reader p).1.current =
        true := by
      rw [hFed.1, hEq]
      exact hStops.stop_feedAll
    nomatch hEnd.symm.trans hStill

/- The last report is that of the parser fed all bytes. -/
theorem consumeAll_reported
    (hWell : ∀ block ∈ blocks, block.WellFormed)
    (h : Progress blocks fed p)
    (hGoing : isDone p.current = false)
    (b : Buffer limit)
    (rest : List (Buffer limit)) :
    let r := consumeAll p b rest
    let after := Buffer.feedBuffers Parser.reader p
      (b :: rest)
    ReportOf r.1 after.1 ∧
      r.1.buffer.pending ++ Buffer.pendingAll r.2 =
        Buffer.pendingAll after.2 := by
  induction rest generalizing fed p b with
  | nil =>
      rcases consume_reported h hGoing b with
        ⟨hReport, hBuffer⟩
      unfold consumeAll Buffer.feedBuffers
      dsimp only
      rw [hBuffer]
      split
      · exact ⟨hReport, rfl⟩
      · rename_i hStill
        have hUsed := feed_used (Bool.not_eq_true _ ▸ hStill)
        rw [hUsed]
        exact ⟨hReport, rfl⟩
  | cons next rest ih =>
      rcases consume_reported h hGoing b with
        ⟨hReport, hBuffer⟩
      rcases Progress.of_consume hWell h hGoing b with
        ⟨used, _, hNext, _⟩
      unfold consumeAll Buffer.feedBuffers
      dsimp only
      cases hEnd : isDone
          (b.feed Parser.reader p).1.current with
      | true =>
          have hState := hReport.ended hEnd
          have hStop : Parser.reader.stop
              (b.feed Parser.reader p).1 = true := hEnd
          rw [hState, hEnd, hStop, if_pos rfl, if_pos rfl,
            hBuffer]
          exact ⟨hReport, rfl⟩
      | false =>
          have hState := hReport.going hEnd
          have hStop : Parser.reader.stop
              (b.feed Parser.reader p).1 = false := hEnd
          rw [hState, hStop, if_neg Bool.false_ne_true,
            if_neg Bool.false_ne_true, hReport.parser]
          exact ih hNext hEnd next

end Reports

/-
  What the calls of `consume` report and leave of a stream:
  the end of the first message with its fields, or the end of
  the first field that a check refuses, or neither.
-/
structure Parsed
    {limit : Nat}
    (blocks : List Block)
    (stream : List UInt8)
    (r : Consumed limit)
    (left : List UInt8) : Prop where
  done : r.state = .doneRead ↔
    ∃ fields trailing, Complete blocks fields ∧
      stream = encodeAll fields ++ trailing
  error : r.state = .errorRead ↔
    ∃ done field trailing, RefusesBlock blocks done field ∧
      stream = encodeAll done ++ field ++ trailing
  flag : r.error = true ↔ r.state = .errorRead
  stored : ∀ fields trailing, Complete blocks fields →
    stream = encodeAll fields ++ trailing →
      left = trailing ∧
        r.parser.results =
          fields.map fun entry => some (entry.2 ++ [0])
  refused : ∀ done field trailing,
    RefusesBlock blocks done field →
      stream = encodeAll done ++ field ++ trailing →
        left = trailing

/-
  The parser over any blocks is exact on every stream and for
  every cut of it into buffers. Each byte that it is fed, and
  so each live `fed` before one, finds it inside its array
  and its results, and no index outgrows one byte.
-/
theorem parser_exact
    {blocks : List Block}
    (hWell : ∀ block ∈ blocks, block.WellFormed)
    (hSome : blocks ≠ [])
    (hFits : (freshAll blocks).length < 256)
    {limit : Nat}
    (b : Buffer limit)
    (rest : List (Buffer limit)) :
    let start := blockParser blocks
    let r := consumeAll start b rest
    Parsed blocks (Buffer.pendingAll (b :: rest)) r.1
        (r.1.buffer.pending ++ Buffer.pendingAll r.2) ∧
      (∀ fed next, Parser.reader.Live start fed →
        FeedsInside (Parser.reader.feedAll start fed) next) ∧
      ∀ fed, Parser.reader.Live start fed ∨
          Parser.reader.Stops start fed →
        (Parser.reader.feedAll start fed).index ≤
            (Parser.reader.feedAll start fed).size ∧
          (Parser.reader.feedAll start fed).size < 256 := by
  intro start r
  have hStart : Progress blocks [] start :=
    Progress.start hWell hSome
  have hGoing : Parser.reader.stop start = false := by
    show Parser.reader.stop (blockParser blocks) = false
    rw [blockParser_before hSome, Bool.eq_false_iff]
    exact fun hBad => hSome ((parserBefore_stop _ _ _).1 hBad)
  have hStep : ∀ fed p next, Progress blocks fed p →
      Parser.reader.stop p = false →
        Progress blocks (fed ++ [next])
          (Parser.reader.feed p next) :=
    fun fed p next hFed hStop =>
      Progress.step hWell hFed hStop next
  have hLive : ∀ fed, Parser.reader.Live start fed →
      Progress blocks fed (Parser.reader.feedAll start fed) :=
    fun fed hLive => Parser.reader.progress_of_live hStep
      hStart hGoing hLive
  refine ⟨?_, ?_, ?_⟩
  · rcases consumeAll_reported hWell hStart hGoing b rest with
      ⟨hReport, hLeft⟩
    have hFed := Buffer.feedBuffers_eq hGoing (b :: rest)
    generalize Buffer.pendingAll (b :: rest) = stream at hFed ⊢
    have hDone := done_iff hWell hSome stream
    have hError := error_iff hWell hSome stream
    rw [← hFed.1] at hDone hError
    rw [hLeft, hFed.2]
    have hState : ∀ state, isDone state = true →
        (r.1.state = state ↔
          (Buffer.feedBuffers Parser.reader start
            (b :: rest)).1.current = state) := by
      intro state hEnd
      constructor
      · intro hSame
        rw [← hReport.ended]
        · exact hSame
        · by_contra hBad
          rw [Bool.not_eq_true] at hBad
          have hOpen := hReport.going hBad
          rw [hSame, hEnd] at hOpen
          nomatch hOpen
      · intro hSame
        rw [← hSame] at hEnd
        exact (hReport.ended hEnd).trans hSame
    refine ⟨(hState _ rfl).trans hDone,
      (hState _ rfl).trans hError,
      hReport.flag.trans (hState _ rfl).symm, ?_, ?_⟩
    · intro fields trailing hComplete hStream
      rcases message_stops hWell hSome hComplete with
        ⟨hStops, error, hAll⟩
      rw [hReport.parser, hFed.1, hStream,
        Parser.reader.consume_of_stops hStops, hAll]
      exact ⟨rfl, results_filledAll fields error⟩
    · intro done field trailing hRefuses hStream
      have hStops := (refusal_stops hWell hRefuses).1
      rw [hStream, Parser.reader.consume_of_stops hStops]
  · intro fed next hFed
    have hHere := hLive fed hFed
    refine hHere.inside ?_ next
    by_cases hNil : fed = []
    · rw [hNil]
      exact hGoing
    · exact hFed.going_feedAll _ hNil
  · intro fed hFed
    have hHere : Progress blocks fed
        (Parser.reader.feedAll start fed) := by
      rcases hFed with hLiveFed | hStops
      · exact hLive fed hLiveFed
      · exact Parser.reader.progress_of_stops hStep hStart
          hGoing hStops
    have hSize := hHere.size
    rw [hSize.1]
    exact ⟨hSize.1 ▸ hSize.2.2.1, hFits⟩

/- A buffer that holds these bytes. -/
def bufferOf (bytes : List UInt8) : Buffer 16 :=
  (Buffer.init 16).writeAdv bytes

/- The name `a` and no password, in three buffers. -/
theorem parser_exact_credentials :
    (consumeAll (blockParser
        [.fixed 1 none, .counted, .counted])
      (bufferOf [1, 1]) [bufferOf [], bufferOf [0x61, 0, 5]]
        ).1.parser.results =
      [some [1, 0], some [0x61, 0], some [0]] := by
  have hWell : ∀ block ∈
      ([.fixed 1 none, .counted, .counted] : List Block),
      block.WellFormed := by
    intro block hMem
    rcases List.mem_cons.1 hMem with rfl | hMore
    · exact Nat.one_pos
    · rcases List.mem_cons.1 hMore with rfl | hLast
      · trivial
      · rw [List.mem_singleton.1 hLast]
        trivial
  have hFields : ∀ entry ∈
      ([(.fixed 1 none, [1]), (.counted, [0x61]),
        (.counted, [])] : List (Block × List UInt8)),
      entry.1.Accepts entry.2 := by
    intro entry hMem
    rcases List.mem_cons.1 hMem with rfl | hMore
    · exact ⟨rfl, nofun⟩
    · rcases List.mem_cons.1 hMore with rfl | hLast
      · exact (by decide : 1 < 256)
      · rw [List.mem_singleton.1 hLast]
        exact (by decide : 0 < 256)
  have hStream : Buffer.pendingAll [bufferOf [1, 1],
      bufferOf [], bufferOf [0x61, 0, 5]] =
        encodeAll [(.fixed 1 none, [1]), (.counted, [0x61]),
          (.counted, [])] ++ [5] := by
    decide +kernel
  exact ((parser_exact hWell (List.cons_ne_nil _ _)
    (by decide) (bufferOf [1, 1])
    [bufferOf [], bufferOf [0x61, 0, 5]]).1.stored
      _ [5] ⟨rfl, hFields⟩ hStream).2

end Socks5d
