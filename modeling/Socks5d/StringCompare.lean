import Mathlib.Data.List.Range
import Socks5d.EventParser

/-
  The parser that `parser_utils.c` builds for a string: its
  events say whether what has been fed so far may still be the
  string, is the string, or cannot be it.

  Main declarations:
    * `StringCmp`, `parserUtilsStrcmpi`
    * `EqualUpToCase`, `StringCmp.verdict`
    * `strcmpi_wellFormed`, `Compared.feed`
    * `strcmpi_exact`
-/

------------------------------------------------------------
-- Building The Definition
------------------------------------------------------------

namespace Socks5d

/- `enum string_cmp_event_types` -/
inductive StringCmp where
  | mayeq
  | eq
  | neq
deriving DecidableEq

namespace StringCmp

def code : StringCmp → Nat
| mayeq => 0
| eq => 1
| neq => 2

/- `may_eq`, `eq` and `neq` -/
def act (kind : StringCmp) : ParserAction := fun ret c =>
  { ret with
    type := kind.code
    n := 1
    data := ret.data.set 0 c }

end StringCmp

/- A `char` as an `int`: it is signed. -/
def charInt (b : UInt8) : Int :=
  if b.toNat < 128 then b.toNat else b.toNat - 256

/-
  `tolower` of glibc in the C locale: its table starts at -128
  and has the values of 128 to 254 there, and -1, which is
  `EOF`, for itself.
-/
def tolower (c : Int) : Int :=
  if 65 ≤ c ∧ c ≤ 90 then c + 32
  else if -128 ≤ c ∧ c < -1 then c + 256
  else c

/- `toupper`, with a table of the same shape -/
def toupper (c : Int) : Int :=
  if 97 ≤ c ∧ c ≤ 122 then c - 32
  else if -128 ≤ c ∧ c < -1 then c + 256
  else c

/- The three transitions of a position in the string -/
def letterTransitions
    (s : List UInt8)
    (i : Nat) : List StateTransition :=
  let n := s.length
  let b := charInt (s.getD i 0)
  let dest := if i + 1 = n then n else i + 1
  let kind : StringCmp := if i + 1 = n then .eq else .mayeq
  [{ when := tolower b, dest, act1 := some kind.act },
   { when := toupper b, dest, act1 := some kind.act },
   { when := anyByte
     dest := n + 1
     act1 := some StringCmp.neq.act }]

/- The last two states have one transition each. -/
def sinkTransitions (s : List UInt8) : List StateTransition :=
  [{ when := anyByte
     dest := s.length + 1
     act1 := some StringCmp.neq.act }, {}, {}]

/-
  `parser_utils_strcmpi`: an array of three transitions for
  each state, and a pointer into it for each state; without
  memory there is no state.
-/
def parserUtilsStrcmpi
    (granted : Bool)
    (s : List UInt8) : ParserDefinition :=
  let n := s.length
  let transitions :=
    (List.range n).flatMap (letterTransitions s) ++
      sinkTransitions s ++ sinkTransitions s
  if granted then
    { statesCount := n + 2
      states := (List.range (n + 2)).map fun i =>
        transitions.drop (i * 3)
      statesN := List.replicate n 3 ++ [1, 1]
      startState := 0 }
  else
    { statesCount := 0
      states := []
      statesN := []
      startState := 0 }

------------------------------------------------------------
-- What Is Compared
------------------------------------------------------------

/- A letter of ASCII in lower case, any other byte as it is -/
def asciiLower (b : UInt8) : UInt8 :=
  if 65 ≤ b.toNat ∧ b.toNat ≤ 90 then b + 32 else b

/- The same text up to the case of its letters -/
def EqualUpToCase (fed s : List UInt8) : Prop :=
  fed.map asciiLower = s.map asciiLower

instance (fed s : List UInt8) :
    Decidable (EqualUpToCase fed s) :=
  inferInstanceAs (Decidable (_ = _))

/- What the last byte of `fed` should report. -/
def StringCmp.verdict (s fed : List UInt8) : StringCmp :=
  if EqualUpToCase fed (s.take fed.length) then
    if fed.length = s.length then .eq else .mayeq
  else .neq

section Letters

variable {s fed : List UInt8}
variable {b c : UInt8}
variable {i : Nat}

/-
  One of the first two transitions of a position matches. A
  byte outside of ASCII is a negative `char`, and matches
  itself; only 0xFF is not in the table.
-/
theorem letter_iff
    (b : UInt8)
    (hByte : c ≠ 0xFF) :
    ((c.toNat : Int) = tolower (charInt b) ∨
        (c.toNat : Int) = toupper (charInt b)) ↔
      asciiLower c = asciiLower b := by
  have hB := b.toNat_lt
  have hC := c.toNat_lt
  have hNot : c.toNat ≠ 255 := fun hEq =>
    hByte (UInt8.toNat_inj.mp hEq)
  have hLower : ∀ x : UInt8, (asciiLower x).toNat =
      if 65 ≤ x.toNat ∧ x.toNat ≤ 90 then x.toNat + 32
      else x.toNat := by
    intro x
    unfold asciiLower
    split
    · rw [UInt8.toNat_add]
      show (x.toNat + 32) % 256 = _
      omega
    · rfl
  rw [← UInt8.toNat_inj, hLower, hLower]
  unfold tolower toupper charInt
  split_ifs <;> omega

theorem equalUpToCase_nil :
    EqualUpToCase [] (s.take ([] : List UInt8).length) := by
  simp [EqualUpToCase]

/- One more byte, where the string has one more. -/
theorem equalUpToCase_snoc
    (hLt : fed.length < s.length) :
    EqualUpToCase (fed ++ [c])
        (s.take (fed ++ [c]).length) ↔
      EqualUpToCase fed (s.take fed.length) ∧
        asciiLower c = asciiLower (s.getD fed.length 0) := by
  have hTake : s.take (fed ++ [c]).length =
      s.take fed.length ++ [s.getD fed.length 0] := by
    rw [List.length_append, List.length_singleton,
      List.take_add_one, List.getElem?_eq_getElem hLt,
      List.getD_eq_getElem _ _ hLt]
    rfl
  have hLength : (fed.map asciiLower).length =
      ((s.take fed.length).map asciiLower).length := by
    simp [Nat.le_of_lt hLt]
  unfold EqualUpToCase
  rw [hTake, List.map_append, List.map_append,
    List.append_eq_append_iff_of_size_eq_left hLength]
  simp only [List.map_cons, List.map_nil, List.cons.injEq,
    and_true]

/- No text is equal to a shorter one. -/
theorem not_equalUpToCase
    (hLe : s.length < fed.length) :
    ¬ EqualUpToCase fed (s.take fed.length) := by
  intro hEq
  have hLength := congrArg List.length hEq
  simp only [List.length_map, List.length_take] at hLength
  omega

end Letters

end Socks5d

------------------------------------------------------------
-- The Transitions Of A State
------------------------------------------------------------

namespace Socks5d

section Tables

variable {s : List UInt8}
variable {i : Nat}

/- Rows of three, and where the row of an index begins. -/
theorem rows_drop
    {α : Type}
    {row : Nat → List α}
    (hThree : ∀ i, (row i).length = 3)
    (rest : List α)
    {i n : Nat}
    (first : Nat)
    (hLe : i ≤ n) :
    ((List.range' first n).flatMap row ++ rest).drop (i * 3) =
      (List.range' (first + i) (n - i)).flatMap row ++
        rest := by
  induction i generalizing first n with
  | zero => simp
  | succ i ih =>
      rcases n with _ | n
      · omega
      · rw [List.range'_succ, List.flatMap_cons,
          List.append_assoc, Nat.succ_mul, Nat.add_comm,
          ← List.drop_drop, List.drop_left' (hThree first),
          ih (first + 1) (by omega), Nat.add_sub_add_right,
          Nat.add_assoc, Nat.add_comm 1 i]

/- Three transitions for each position, then one. -/
theorem strcmpi_statesN
    (s : List UInt8)
    (hLt : i < s.length + 2) :
    (parserUtilsStrcmpi true s).statesN.getD i 0 =
      if i < s.length then 3 else 1 := by
  simp only [parserUtilsStrcmpi, if_true,
    List.getD_eq_getElem?_getD]
  split
  · rename_i hIn
    simp [List.getElem?_append_left, hIn]
  · rename_i hOut
    rw [List.getElem?_append_right (by simpa using hOut),
      List.length_replicate]
    rcases Nat.lt_or_ge i (s.length + 1) with hEq | hEq
    · rw [show i - s.length = 0 by omega]
      rfl
    · rw [show i - s.length = 1 by omega]
      rfl

/- The transitions of the positions, and of the last two. -/
theorem strcmpi_transitions
    (s : List UInt8)
    (hLt : i < s.length + 2) :
    (parserUtilsStrcmpi true s).transitions i =
      if i < s.length then letterTransitions s i
      else (sinkTransitions s).take 1 := by
  have hRows : ∀ j ≤ s.length,
      ((List.range s.length).flatMap (letterTransitions s) ++
        sinkTransitions s ++ sinkTransitions s).drop
          (j * 3) =
        (List.range' j (s.length - j)).flatMap
          (letterTransitions s) ++
            (sinkTransitions s ++ sinkTransitions s) := by
    intro j hJ
    rw [List.append_assoc, List.range_eq_range',
      rows_drop (fun _ => rfl) _ 0 hJ, Nat.zero_add]
  have hState : (parserUtilsStrcmpi true s).states.getD i [] =
      ((List.range s.length).flatMap (letterTransitions s) ++
        sinkTransitions s ++ sinkTransitions s).drop
          (i * 3) := by
    simp [parserUtilsStrcmpi, List.getD_eq_getElem?_getD,
      List.getElem?_range hLt]
  unfold ParserDefinition.transitions
  rw [hState, strcmpi_statesN s hLt]
  split
  · rename_i hIn
    rw [hRows i (Nat.le_of_lt hIn)]
    rcases Nat.exists_eq_add_of_lt hIn with ⟨m, hM⟩
    rw [show s.length - i = m + 1 by omega,
      List.range'_succ, List.flatMap_cons, List.append_assoc]
    rfl
  · rename_i hOut
    rcases Nat.lt_or_ge i (s.length + 1) with hEq | hEq
    · rw [hRows i (by omega),
        show s.length - i = 0 by omega]
      rfl
    · rw [show i * 3 = s.length * 3 + 3 by omega,
        ← List.drop_drop, hRows s.length (Nat.le_refl _),
        Nat.sub_self]
      rfl

theorem strcmpi_acts
    (hLt : i < s.length + 2)
    {t : StateTransition}
    (hT : t ∈ (parserUtilsStrcmpi true s).transitions i) :
    t.act1 ≠ none ∧ t.dest < s.length + 2 := by
  rw [strcmpi_transitions s hLt] at hT
  split at hT
  · rename_i hIn
    simp only [letterTransitions, List.mem_cons,
      List.not_mem_nil, or_false] at hT
    have hDest : (if i + 1 = s.length then s.length
        else i + 1) < s.length + 2 := by
      split <;> omega
    rcases hT with rfl | rfl | rfl
    · exact ⟨Option.some_ne_none _, hDest⟩
    · exact ⟨Option.some_ne_none _, hDest⟩
    · exact ⟨Option.some_ne_none _, Nat.lt_succ_self _⟩
  · have hEq := List.mem_singleton.mp hT
    rw [hEq]
    exact ⟨Option.some_ne_none _, Nat.lt_succ_self _⟩

/- The definition is one that the engine can run. -/
theorem strcmpi_wellFormed
    (s : List UInt8) :
    (parserUtilsStrcmpi true s).WellFormed := by
  refine ⟨Nat.succ_pos _, ?_, ?_, ?_, ?_, ?_⟩
  · simp [parserUtilsStrcmpi]
  · simp [parserUtilsStrcmpi]
  · intro i hLt
    have hLength : i < s.length + 2 := hLt
    have hCount := congrArg List.length
      (strcmpi_transitions s hLength)
    unfold ParserDefinition.transitions at hCount
    rw [strcmpi_statesN s hLength] at hCount ⊢
    rw [List.length_take] at hCount
    have hThree : (letterTransitions s i).length = 3 := rfl
    have hOne : ((sinkTransitions s).take 1).length = 1 := rfl
    split at hCount
    · rename_i hIn
      rw [if_pos hIn]
      omega
    · rename_i hOut
      rw [if_neg hOut]
      omega
  · exact fun i hLt t hT => (strcmpi_acts hLt hT).1
  · exact fun i hLt t hT => (strcmpi_acts hLt hT).2

end Tables

end Socks5d

------------------------------------------------------------
-- Every Stream
------------------------------------------------------------

namespace Socks5d

/- The event for the last byte of what has been fed -/
def StringCmp.event
    (kind : StringCmp)
    (c : UInt8) : ParserEvent where
  type := kind.code
  data := [c, 0, 0]
  n := 1

/- The parser of `s` after the bytes `fed` -/
structure Compared
    (s fed : List UInt8)
    (p : EventParser) : Prop where
  definition : p.definition = parserUtilsStrcmpi true s
  classes : p.classes = EventParser.parserNoClasses
  state : p.state =
    if EqualUpToCase fed (s.take fed.length) then fed.length
    else s.length + 1
  data : p.e1.data.drop 1 = [0, 0]

section Streams

variable {s fed : List UInt8}
variable {p : EventParser}
variable {c : UInt8}

theorem parserInit_compared
    (s : List UInt8) :
    Compared s [] (.parserInit EventParser.parserNoClasses
      (parserUtilsStrcmpi true s)) := by
  refine ⟨rfl, rfl, ?_, rfl⟩
  rw [if_pos equalUpToCase_nil]
  rfl

/- The last transition of a state matches every byte. -/
theorem anyByte_matched
    (dest : Nat)
    (act1 act2 : Option ParserAction)
    (type : Nat)
    (c : UInt8) :
    (StateTransition.mk anyByte dest act1 act2).matched
      type c = true :=
  rfl

/- The first two transitions of a position look at a byte. -/
theorem letter_matched
    {wanted : Int}
    (hWhen : wanted ≤ 0xFF)
    (dest : Nat)
    (act1 act2 : Option ParserAction)
    (type : Nat)
    (c : UInt8) :
    (StateTransition.mk wanted dest act1 act2).matched
      type c = decide ((c.toNat : Int) = wanted) :=
  if_pos hWhen

theorem tolower_le
    (b : UInt8) :
    tolower (charInt b) ≤ 0xFF ∧
      toupper (charInt b) ≤ 0xFF := by
  have hB := b.toNat_lt
  unfold tolower toupper charInt
  split_ifs <;> omega

theorem find_three
    {α : Type}
    (f : α → Bool)
    (x y z : α) :
    [x, y, z].find? f =
      if f x = true then some x
      else if f y = true then some y
      else if f z = true then some z else none := by
  cases hX : f x <;> cases hY : f y <;> cases hZ : f z <;>
    simp [hX, hY, hZ]

/- What a byte finds at a position of the string. -/
theorem letterTransitions_find
    (s : List UInt8)
    (i type : Nat)
    (hByte : c ≠ 0xFF) :
    ∃ t, (letterTransitions s i).find?
        (fun t => t.matched type c) = some t ∧
      (if asciiLower c = asciiLower (s.getD i 0) then
        t.dest = i + 1 ∧ t.act1 =
          some (StringCmp.act (if i + 1 = s.length then .eq
            else .mayeq))
      else t.dest = s.length + 1 ∧
        t.act1 = some StringCmp.neq.act) ∧
      t.act2 = none := by
  have hLe := tolower_le (s.getD i 0)
  have hDest : (if i + 1 = s.length then s.length
      else i + 1) = i + 1 := by
    split
    · rename_i hEq
      exact hEq.symm
    · rfl
  unfold letterTransitions
  simp only [find_three, hDest, decide_eq_true_eq,
    letter_matched hLe.1, letter_matched hLe.2,
    anyByte_matched, if_true]
  by_cases hLow : (c.toNat : Int) =
      tolower (charInt (s.getD i 0))
  · refine ⟨_, if_pos hLow, ?_, rfl⟩
    rw [if_pos ((letter_iff _ hByte).mp (Or.inl hLow))]
    exact ⟨rfl, rfl⟩
  · rw [if_neg hLow]
    by_cases hUp : (c.toNat : Int) =
        toupper (charInt (s.getD i 0))
    · refine ⟨_, if_pos hUp, ?_, rfl⟩
      rw [if_pos ((letter_iff _ hByte).mp (Or.inr hUp))]
      exact ⟨rfl, rfl⟩
    · refine ⟨_, if_neg hUp, ?_, rfl⟩
      rw [if_neg (fun hBad => ((letter_iff _ hByte).mpr
        hBad).elim hLow hUp)]
      exact ⟨rfl, rfl⟩

/- The event that a transition of this parser leaves -/
theorem Compared.fire
    (h : Compared s fed p)
    {t : StateTransition}
    {kind : StringCmp}
    (hAct : t.act1 = some kind.act)
    (hOnly : t.act2 = none)
    (c : UInt8) :
    ∃ q, t.fire c { p with
          e1.next := false
          e2.next := false } = some q ∧
      q.events = [kind.event c] ∧
      q.definition = p.definition ∧ q.classes = p.classes ∧
      q.state = t.dest ∧ q.e1.data.drop 1 = [0, 0] := by
  unfold StateTransition.fire
  rw [hAct, hOnly]
  have hData := h.data
  cases hCells : p.e1.data with
  | nil =>
      rw [hCells] at hData
      nomatch hData
  | cons x rest =>
      rw [hCells, List.drop_one, List.tail_cons] at hData
      refine ⟨_, rfl, ?_, rfl, rfl, rfl, ?_⟩
      · simp [EventParser.events, StringCmp.act,
          StringCmp.event, hCells, hData]
      · simp [StringCmp.act, hCells, hData]

/- The state is one of the definition. -/
theorem Compared.state_lt
    (h : Compared s fed p) : p.state < s.length + 2 := by
  rw [h.state]
  split
  · rename_i hEqual
    by_contra hGe
    exact not_equalUpToCase (by omega) hEqual
  · omega

/- One byte more reports the verdict about all of them. -/
theorem Compared.feed
    (h : Compared s fed p)
    (hByte : c ≠ 0xFF) :
    ∃ q, p.parserFeed c = some q ∧
      q.events = [(StringCmp.verdict s (fed ++ [c])).event
        c] ∧
      Compared s (fed ++ [c]) q := by
  have hLt := h.state_lt
  have hClass : p.classes[c.toNat]? = some 0 := by
    have hNat : c.toNat ≠ 255 := fun hEq =>
      hByte (UInt8.toNat_inj.mp hEq)
    have hBound := c.toNat_lt
    rw [h.classes]
    exact List.getElem?_replicate_of_lt (by omega)
  rw [(strcmpi_wellFormed s).feed h.definition hLt hClass,
    strcmpi_transitions s hLt]
  -- a position of the string, or one of the last two states
  by_cases hIn : p.state < s.length
  · have hEqual : EqualUpToCase fed
        (s.take fed.length) := by
      by_contra hNot
      have hState := h.state
      rw [if_neg hNot] at hState
      omega
    have hState : p.state = fed.length :=
      h.state.trans (if_pos hEqual)
    rw [if_pos hIn]
    rcases letterTransitions_find s p.state 0 hByte with
      ⟨t, hFind, hThen, hOnly⟩
    rw [hFind]
    have hSnoc := equalUpToCase_snoc (c := c)
      (hState ▸ hIn)
    rw [← hState] at hSnoc
    unfold StringCmp.verdict
    by_cases hSame : asciiLower c =
        asciiLower (s.getD p.state 0)
    · rw [if_pos hSame] at hThen
      have hLonger := hSnoc.mpr ⟨hState ▸ hEqual, hSame⟩
      rcases h.fire hThen.2 hOnly c with
        ⟨q, hFire, hEvents, hDef, hClasses, hDest, hData⟩
      refine ⟨q, hFire, ?_, hDef.trans h.definition,
        hClasses.trans h.classes, ?_, hData⟩
      · rw [hEvents, if_pos hLonger, List.length_append,
          List.length_singleton, hState]
      · rw [if_pos hLonger, hDest, hThen.1, hState,
          List.length_append, List.length_singleton]
    · rw [if_neg hSame] at hThen
      have hOther : ¬ EqualUpToCase (fed ++ [c])
          (s.take (fed ++ [c]).length) :=
        fun hBad => hSame (hSnoc.mp hBad).2
      rcases h.fire hThen.2 hOnly c with
        ⟨q, hFire, hEvents, hDef, hClasses, hDest, hData⟩
      refine ⟨q, hFire, ?_, hDef.trans h.definition,
        hClasses.trans h.classes, ?_, hData⟩
      · rw [hEvents, if_neg hOther]
      · rw [if_neg hOther, hDest, hThen.1]
  · rw [if_neg hIn]
    have hOther : ¬ EqualUpToCase (fed ++ [c])
        (s.take (fed ++ [c]).length) := by
      intro hBad
      by_cases hShort : fed.length < s.length
      · have hState := h.state
        rw [if_pos ((equalUpToCase_snoc hShort).mp
          hBad).1] at hState
        omega
      · refine not_equalUpToCase ?_ hBad
        rw [List.length_append, List.length_singleton]
        omega
    unfold StringCmp.verdict
    rw [if_neg hOther]
    let t : StateTransition := {
      when := anyByte
      dest := s.length + 1
      act1 := some StringCmp.neq.act }
    have hAct : t.act1 = some StringCmp.neq.act := rfl
    rcases h.fire hAct rfl c with
      ⟨q, hFire, hEvents, hDef, hClasses, hDest, hData⟩
    refine ⟨q, hFire, hEvents, hDef.trans h.definition,
      hClasses.trans h.classes, ?_, hData⟩
    rw [if_neg hOther, hDest]

/- All bytes, by induction on what is left of them. -/
theorem Compared.feedAll
    (h : Compared s fed p)
    (bytes : List UInt8)
    (hBytes : 0xFF ∉ bytes) :
    ∃ q events,
      EventParser.parserFeedAll bytes p = some (q, events) ∧
      events.length = bytes.length ∧
      ∀ i (hLt : i < bytes.length), events[i]? =
        some [(StringCmp.verdict s
          (fed ++ bytes.take (i + 1))).event bytes[i]] := by
  induction bytes generalizing fed p with
  | nil =>
      refine ⟨p, [], rfl, rfl, ?_⟩
      intro i hLt
      exact absurd hLt (Nat.not_lt_zero i)
  | cons c rest ih =>
      have hByte : c ≠ 0xFF := by
        rintro rfl
        exact hBytes List.mem_cons_self
      rcases h.feed hByte with ⟨q, hFeed, hEvents, hNext⟩
      rcases ih hNext (fun hIn =>
          hBytes (List.mem_cons_of_mem c hIn)) with
        ⟨last, events, hRest, hLength, hAll⟩
      refine ⟨last, q.events :: events, ?_, ?_, ?_⟩
      · unfold EventParser.parserFeedAll
        rw [hFeed, Option.bind_some, hRest]
        rfl
      · rw [List.length_cons, List.length_cons, hLength]
      · intro i hLt
        rcases i with _ | i
        · simp [hEvents]
        · have hHere := hAll i (Nat.lt_of_succ_lt_succ hLt)
          rw [List.append_assoc] at hHere
          exact hHere

end Streams

/-
  For every string and every stream without the byte 0xFF:
  each byte has one event, which says whether the bytes so far
  are the string, may become it, or are not the beginning of
  it, up to the case of letters.
-/
theorem strcmpi_exact
    (s bytes : List UInt8)
    (hBytes : 0xFF ∉ bytes) :
    ∃ p events,
      EventParser.parserFeedAll bytes (.parserInit
          EventParser.parserNoClasses
          (parserUtilsStrcmpi true s)) = some (p, events) ∧
      events.length = bytes.length ∧
      ∀ i (hLt : i < bytes.length), events[i]? =
        some [(StringCmp.verdict s
          (bytes.take (i + 1))).event bytes[i]] :=
  (parserInit_compared s).feedAll bytes hBytes

/- The stream of `parser_utils_test.c` -/
theorem strcmpi_foo :
    ∃ p events,
      EventParser.parserFeedAll [0x66, 0x4F, 0x6F, 0x58]
        (.parserInit EventParser.parserNoClasses
          (parserUtilsStrcmpi true [0x66, 0x6F, 0x6F])) =
            some (p, events) ∧
      events.length = 4 ∧
      ∀ i (hLt : i < 4), events[i]? =
        some [(StringCmp.verdict [0x66, 0x6F, 0x6F]
          ([0x66, 0x4F, 0x6F, 0x58].take (i + 1))).event
            ([0x66, 0x4F, 0x6F, 0x58].get ⟨i, hLt⟩)] :=
  strcmpi_exact [0x66, 0x6F, 0x6F] [0x66, 0x4F, 0x6F, 0x58]
    (by decide)

end Socks5d
