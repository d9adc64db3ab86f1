import Socks5d.Users

/-
  The credentials of the administrators: the loop of `main`
  that reads the file of `-f`.

  Main declarations:
    * `fgets`, `loadLine`, `loadAdmins`
    * `fileLines`, `fileCredentials`, `LoadsExactly`
    * `loads_exactly_iff`
-/

------------------------------------------------------------
-- The Loop
------------------------------------------------------------

namespace Socks5d

abbrev newline : UInt8 := 0x0A

abbrev space : UInt8 := 0x20

/- `bufferLength` -/
abbrev bufferLength : Nat := 255

/-
  Up to `n` bytes, no further than a newline, and what is
  behind them.
-/
def readUpTo :
    Nat → List UInt8 → List UInt8 × List UInt8
| 0, file => ([], file)
| _ + 1, [] => ([], [])
| n + 1, b :: file =>
    if b = newline then ([b], file)
    else
      (b :: (readUpTo n file).1, (readUpTo n file).2)

/- `fgets`, which keeps one byte for the terminator. -/
def fgets
    (size : Nat)
    (file : List UInt8) :
    Option (List UInt8 × List UInt8) :=
  if file = [] then none else some (readUpTo (size - 1) file)

/- `strchr`, as an index -/
def strchr
    (line : List UInt8)
    (b : UInt8) : Option Nat :=
  (cString line).findIdx? (· = b)

/-
  One turn of the loop: the copies that it stores, or `none`
  where it writes through the null pointer of `strchr`.
-/
def loadLine (bytes : List UInt8) : Option UserEntry :=
  let line := bytes ++ [0]
  match strchr line space with
  | none => none
  | some i =>
      let line := line.set i 0
      let aux := (cString (line.drop (i + 1))).length
      -- `pass[aux-1]` is the byte before an empty password
      let line :=
        if (line)[i + aux]? = some newline then
          line.set (i + aux) 0
        else line
      some {
        name := some (cString line)
        pass := some (cString (line.drop (i + 1)))
        held := true }

/- How the loop ends. -/
inductive Loading where
  | noSeparator
  | outOfBounds
  | ended (admins : UserTable)

/- Reading never leaves more than there was. -/
theorem readUpTo_length
    (n : Nat)
    (file : List UInt8) :
    (readUpTo n file).2.length ≤ file.length := by
  induction n generalizing file with
  | zero => exact Nat.le_refl _
  | succ n ih =>
      cases file with
      | nil => exact Nat.le_refl _
      | cons b file =>
          unfold readUpTo
          split_ifs
          · exact Nat.le_succ _
          · exact Nat.le_succ_of_le (ih file)

theorem fgets_length
    {n : Nat}
    {file line rest : List UInt8}
    (h : fgets (n + 2) file = some (line, rest)) :
    rest.length < file.length := by
  unfold fgets at h
  split_ifs at h with hFile
  cases file with
  | nil => exact absurd rfl hFile
  | cons b file =>
      have hRest :
          (readUpTo (n + 1) (b :: file)).2 = rest :=
        congrArg Prod.snd (Option.some.inj h)
      rw [← hRest]
      unfold readUpTo
      split_ifs
      · exact Nat.lt_succ_self _
      · exact Nat.lt_succ_of_le (readUpTo_length n file)

/- `while(fgets(line, bufferLength, filePointer))` -/
def loadAdmins
    (file : List UInt8)
    (admins : UserTable) : Loading :=
  match _hRead : fgets bufferLength file with
  | none => .ended admins
  | some (line, rest) =>
      match loadLine line with
      | none => .noSeparator
      | some entry =>
          if admins.count < maxUsers then
            loadAdmins rest (admins.push entry)
          else .outOfBounds
termination_by file.length
decreasing_by exact fgets_length _hRead

end Socks5d

------------------------------------------------------------
-- What The File Says
------------------------------------------------------------

namespace Socks5d

/- The lines of a file, each with its newline. -/
def fileLines : List UInt8 → List (List UInt8)
| [] => []
| b :: file =>
    if b = newline then [b] :: fileLines file
    else
      match fileLines file with
      | [] => [[b]]
      | line :: lines => (b :: line) :: lines

def stripNewline (line : List UInt8) : List UInt8 :=
  if line.getLast? = some newline then line.dropLast else line

/-
  The text before the first space and the text after it, if
  there is a space.
-/
def credential? (line : List UInt8) : Option UserEntry :=
  let text := stripNewline line
  if space ∈ text then
    some {
      name := some (text.takeWhile (· ≠ space))
      pass := some (text.dropWhile (· ≠ space)).tail
      held := true }
  else none

/- The first `MAX_USERS` credentials of a file. -/
def fileCredentials (file : List UInt8) : List UserEntry :=
  ((fileLines file).filterMap credential?).take maxUsers

/- `admins` and `nadmins` before the loop. -/
def noAdmins : UserTable where
  entry _ := {}
  count := 0

/- The loop ends with the credentials of the file. -/
def LoadsExactly (file : List UInt8) : Prop :=
  ∃ admins, loadAdmins file noAdmins = .ended admins ∧
    admins.list = fileCredentials file

/-
  Every line has a space and no zero byte and fits into the
  buffer, and there are at most `MAX_USERS` of them.
-/
structure Loadable (file : List UInt8) : Prop where
  space : ∀ line ∈ fileLines file, space ∈ line
  zero : ∀ line ∈ fileLines file, (0 : UInt8) ∉ line
  fits : ∀ line ∈ fileLines file, line.length < bufferLength
  room : (fileLines file).length ≤ maxUsers

end Socks5d

------------------------------------------------------------
-- Lines
------------------------------------------------------------

namespace Socks5d

section Lines

variable {n : Nat}
variable {b : UInt8}
variable {file line rest : List UInt8}
variable {lines : List (List UInt8)}

theorem fileLines_newline
    (file : List UInt8) :
    fileLines (newline :: file) =
      [newline] :: fileLines file := by
  rw [fileLines, if_pos rfl]

theorem fileLines_last
    (hByte : b ≠ newline)
    (h : fileLines file = []) :
    fileLines (b :: file) = [[b]] := by
  rw [fileLines, if_neg hByte, h]

theorem fileLines_more
    (hByte : b ≠ newline)
    (h : fileLines file = line :: lines) :
    fileLines (b :: file) = (b :: line) :: lines := by
  rw [fileLines, if_neg hByte, h]

/- Only the empty file has no lines. -/
theorem fileLines_cons
    (b : UInt8)
    (file : List UInt8) :
    ∃ line lines, fileLines (b :: file) =
      (b :: line) :: lines := by
  by_cases hByte : b = newline
  · rw [hByte]
    exact ⟨[], fileLines file, fileLines_newline file⟩
  · cases hLines : fileLines file with
    | nil => exact ⟨[], [], fileLines_last hByte hLines⟩
    | cons line lines =>
        exact ⟨line, lines, fileLines_more hByte hLines⟩

theorem eq_nil_of_fileLines
    (h : fileLines file = []) : file = [] := by
  cases file with
  | nil => rfl
  | cons b file =>
      rcases fileLines_cons b file with ⟨line, lines, hLines⟩
      nomatch h.symm.trans hLines

/- The lines that are left behind `n` bytes of the first. -/
def linesBehind
    (n : Nat)
    (line : List UInt8)
    (lines : List (List UInt8)) : List (List UInt8) :=
  if line.length ≤ n then lines else line.drop n :: lines

/- A read takes bytes of the first line only. -/
theorem readUpTo_lines
    (h : fileLines file = line :: lines) :
    (readUpTo n file).1 = line.take n ∧
      fileLines (readUpTo n file).2 =
        linesBehind n line lines := by
  induction n generalizing file line lines with
  | zero =>
      cases file with
      | nil => nomatch h
      | cons b file =>
          rcases fileLines_cons b file with
            ⟨first, others, hFirst⟩
          injection h.symm.trans hFirst with hLine hOthers
          refine ⟨rfl, h.trans ?_⟩
          rw [hLine]
          rfl
  | succ n ih =>
      cases file with
      | nil => nomatch h
      | cons b file =>
          unfold readUpTo
          by_cases hByte : b = newline
          · rw [if_pos hByte]
            rw [hByte, fileLines_newline] at h
            injection h with hLine hLines
            rw [← hLine, ← hLines, hByte]
            refine ⟨(List.take_of_length_le ?_).symm,
              (if_pos ?_).symm⟩
            · exact Nat.succ_le_succ (Nat.zero_le n)
            · exact Nat.succ_le_succ (Nat.zero_le n)
          · rw [if_neg hByte]
            cases hRest : fileLines file with
            | nil =>
                rw [fileLines_last hByte hRest] at h
                injection h with hLine hLines
                rw [← hLine, ← hLines,
                  eq_nil_of_fileLines hRest]
                have hShort : [b].length ≤ n + 1 :=
                  Nat.succ_le_succ (Nat.zero_le n)
                unfold linesBehind
                rw [if_pos hShort]
                cases n <;> exact ⟨rfl, rfl⟩
            | cons first others =>
                rw [fileLines_more hByte hRest] at h
                injection h with hLine hLines
                rw [← hLine, ← hLines]
                rcases ih hRest with ⟨hTaken, hLeft⟩
                refine ⟨?_, hLeft.trans ?_⟩
                · rw [hTaken]
                  rfl
                · unfold linesBehind
                  simp only [List.length_cons,
                    Nat.add_le_add_iff_right,
                    List.drop_succ_cons]

/- What `fgets` takes of a file with lines. -/
theorem fgets_lines
    (h : fileLines file = line :: lines) :
    ∃ rest,
      fgets bufferLength file =
          some (line.take (bufferLength - 1), rest) ∧
        fileLines rest =
          linesBehind (bufferLength - 1) line lines := by
  have hFile : file ≠ [] := by
    rintro rfl
    nomatch h
  rcases readUpTo_lines (n := bufferLength - 1) h with
    ⟨hTaken, hLeft⟩
  refine ⟨_, ?_, hLeft⟩
  unfold fgets
  rw [if_neg hFile, ← hTaken]

end Lines

end Socks5d

------------------------------------------------------------
-- One Line
------------------------------------------------------------

namespace Socks5d

section Line

variable {before after line tail : List UInt8}
variable {entry : UserEntry}

/- The terminator of `fgets` ends the C string at the latest. -/
theorem cString_terminated
    (bytes : List UInt8) :
    ∃ tail, bytes ++ [0] = cString bytes ++ 0 :: tail := by
  induction bytes with
  | nil => exact ⟨[], rfl⟩
  | cons b bytes ih =>
      rcases ih with ⟨tail, hTail⟩
      unfold cString at hTail ⊢
      by_cases hZero : b = 0
      · refine ⟨bytes ++ [0], ?_⟩
        rw [List.takeWhile_cons_of_neg (by simp [hZero]),
          hZero]
        rfl
      · refine ⟨tail, ?_⟩
        rw [List.takeWhile_cons_of_pos (by simp [hZero]),
          List.cons_append, hTail]
        rfl

theorem notMem_cString
    (bytes : List UInt8) : (0 : UInt8) ∉ cString bytes := by
  intro hMem
  have hNonzero := List.mem_takeWhile_imp hMem
  simp at hNonzero

/- Cutting at the first space. -/
theorem takeWhile_space
    (hBefore : space ∉ before)
    (after : List UInt8) :
    (before ++ space :: after).takeWhile (· ≠ space) =
      before := by
  rw [List.takeWhile_append_of_pos,
    List.takeWhile_cons_of_neg (by simp), List.append_nil]
  intro b hMem
  exact decide_eq_true fun hSpace => hBefore (hSpace ▸ hMem)

theorem dropWhile_space
    (hBefore : space ∉ before)
    (after : List UInt8) :
    (before ++ space :: after).dropWhile (· ≠ space) =
      space :: after := by
  rw [List.dropWhile_append_of_pos,
    List.dropWhile_cons_of_neg (by simp)]
  intro b hMem
  exact decide_eq_true fun hSpace => hBefore (hSpace ▸ hMem)

theorem stripNewline_newline
    (init : List UInt8) :
    stripNewline (init ++ [newline]) = init := by
  unfold stripNewline
  rw [if_pos List.getLast?_concat, List.dropLast_concat]

theorem stripNewline_other
    {b : UInt8}
    (hByte : b ≠ newline)
    (init : List UInt8) :
    stripNewline (init ++ [b]) = init ++ [b] := by
  unfold stripNewline
  rw [if_neg]
  rw [List.getLast?_concat, Option.some.injEq]
  exact hByte

/- The newline is behind the space. -/
theorem stripNewline_space
    (before after : List UInt8) :
    stripNewline (before ++ space :: after) =
      before ++ space :: stripNewline after := by
  rcases List.eq_nil_or_concat after with rfl | ⟨init, b, rfl⟩
  · exact stripNewline_other (by decide) before
  · rw [List.concat_eq_append, ← List.cons_append,
      ← List.append_assoc]
    by_cases hByte : b = newline
    · rw [hByte, stripNewline_newline, stripNewline_newline]
    · rw [stripNewline_other hByte, stripNewline_other hByte,
        List.append_assoc, List.cons_append]

/- Only a newline is taken from a line. -/
theorem mem_stripNewline
    {b : UInt8}
    (hByte : b ≠ newline) :
    b ∈ stripNewline line ↔ b ∈ line := by
  rcases List.eq_nil_or_concat line with rfl | ⟨init, c, rfl⟩
  · rfl
  · rw [List.concat_eq_append]
    by_cases hLast : c = newline
    · rw [hLast, stripNewline_newline, List.mem_append,
        List.mem_singleton, or_iff_left hByte]
    · rw [stripNewline_other hLast]

/- The credential of a line with a space. -/
theorem credential_space
    (hBefore : space ∉ before)
    (after : List UInt8) :
    credential? (before ++ space :: after) =
      some {
        name := some before
        pass := some (stripNewline after)
        held := true } := by
  unfold credential?
  dsimp only
  rw [stripNewline_space,
    if_pos (List.mem_append_right _ List.mem_cons_self),
    takeWhile_space hBefore, dropWhile_space hBefore]
  rfl

theorem credential_isSome_iff :
    (credential? line).isSome ↔ space ∈ line := by
  have hText : space ∈ stripNewline line ↔ space ∈ line :=
    mem_stripNewline (by decide)
  unfold credential?
  dsimp only
  rw [← hText]
  split_ifs with hSpace
  · exact ⟨fun _ => hSpace, fun _ => rfl⟩
  · exact ⟨fun hBad => (nomatch hBad),
      fun hBad => absurd hBad hSpace⟩

/- What is behind the separator. -/
theorem drop_behind
    (before : List UInt8)
    (b : UInt8)
    (after : List UInt8) :
    (before ++ b :: after).drop (before.length + 1) =
      after := by
  rw [List.drop_append, List.drop_eq_nil_of_le (by omega)]
  simp

theorem getElem?_behind
    (before : List UInt8)
    (b : UInt8)
    (after : List UInt8) :
    (before ++ b :: after)[before.length]? = some b := by
  rw [List.getElem?_append_right (Nat.le_refl _),
    Nat.sub_self]
  rfl

theorem strchr_space
    (hText : cString line = before ++ space :: after)
    (hBefore : space ∉ before) :
    strchr line space = some before.length := by
  unfold strchr
  have hNone : before.findIdx? (· = space) = none :=
    List.findIdx?_eq_none_iff.mpr fun b hMem =>
      decide_eq_false fun hSpace => hBefore (hSpace ▸ hMem)
  rw [hText, List.findIdx?_append, hNone]
  simp [List.findIdx?_cons]

/- The newline before the terminator is overwritten. -/
theorem cutNewline
    (before after tail : List UInt8) :
    ∃ rest,
      (if (before ++ 0 :: (after ++ 0 :: tail))[
          before.length + after.length]? = some newline then
        (before ++ 0 :: (after ++ 0 :: tail)).set
          (before.length + after.length) 0
      else before ++ 0 :: (after ++ 0 :: tail)) =
        before ++ 0 :: (stripNewline after ++ 0 :: rest) := by
  rcases List.eq_nil_or_concat after with rfl | ⟨init, b, rfl⟩
  · refine ⟨tail, if_neg ?_⟩
    rw [List.length_nil, Nat.add_zero, getElem?_behind]
    decide
  · have hSplit :
        before ++ 0 :: (init ++ [b] ++ 0 :: tail) =
          (before ++ 0 :: init) ++ b :: 0 :: tail := by
      simp
    have hLength : before.length + (init ++ [b]).length =
        (before ++ 0 :: init).length := by
      simp
    rw [List.concat_eq_append, hSplit, hLength]
    by_cases hByte : b = newline
    · refine ⟨0 :: tail, ?_⟩
      rw [if_pos (hByte ▸ getElem?_behind _ b _),
        List.set_append_right _ _ (Nat.le_refl _),
        Nat.sub_self, List.set_cons_zero, hByte,
        stripNewline_newline, List.append_assoc,
        List.cons_append]
    · refine ⟨tail, ?_⟩
      rw [if_neg, stripNewline_other hByte, hSplit]
      rw [getElem?_behind, Option.some.injEq]
      exact hByte

/- What a turn stores, with the buffer in its parts. -/
theorem loadLine_space
    (hLine : cString line = before ++ space :: after)
    (hBefore : space ∉ before) :
    loadLine line =
      some {
        name := some before
        pass := some (stripNewline after)
        held := true } := by
  have hZero : (0 : UInt8) ∉ before ++ space :: after :=
    hLine ▸ notMem_cString line
  have hFront : (0 : UInt8) ∉ before := fun hMem =>
    hZero (List.mem_append_left _ hMem)
  have hBehind : (0 : UInt8) ∉ after := fun hMem =>
    hZero (List.mem_append_right _
      (List.mem_cons_of_mem _ hMem))
  rcases cString_terminated line with ⟨tail, hBuffer⟩
  rw [hLine, List.append_assoc, List.cons_append] at hBuffer
  have hText :
      cString (before ++ space :: (after ++ 0 :: tail)) =
        before ++ space :: after := by
    rw [← List.cons_append, ← List.append_assoc]
    exact cString_stored hZero tail
  unfold loadLine
  dsimp only
  rw [hBuffer, strchr_space hText hBefore]
  dsimp only
  rw [List.set_append_right _ _ (Nat.le_refl _),
    Nat.sub_self, List.set_cons_zero, drop_behind,
    cString_stored hBehind]
  rcases cutNewline before after tail with ⟨rest, hCut⟩
  have hPass : (0 : UInt8) ∉ stripNewline after := fun hMem =>
    hBehind ((mem_stripNewline (by decide)).mp hMem)
  rw [hCut, cString_stored hFront, drop_behind,
    cString_stored hPass]

theorem loadLine_none
    (h : space ∉ cString line) : loadLine line = none := by
  have hNone : strchr (line ++ [0]) space = none := by
    unfold strchr
    rw [cString_append, List.findIdx?_eq_none_iff]
    intro b hMem
    exact decide_eq_false fun hSpace => h (hSpace ▸ hMem)
  unfold loadLine
  dsimp only
  rw [hNone]

/- Without a zero byte a turn stores the credential. -/
theorem loadLine_eq
    (hZero : (0 : UInt8) ∉ line) :
    loadLine line = credential? line := by
  have hLine := cString_of_notMem hZero
  by_cases hSpace : space ∈ line
  · rcases List.eq_append_cons_of_mem hSpace with
      ⟨before, after, rfl, hBefore⟩
    rw [loadLine_space hLine hBefore,
      credential_space hBefore]
  · rw [loadLine_none (by rw [hLine]; exact hSpace), Eq.comm,
      ← Option.not_isSome_iff_eq_none, credential_isSome_iff]
    exact hSpace

/- A turn that stores the credential met no zero byte. -/
theorem notMem_of_loadLine
    (hLoad : loadLine line = some entry)
    (hSame : credential? line = some entry) :
    (0 : UInt8) ∉ line := by
  have hSpace : space ∈ cString line := by
    by_contra hNone
    nomatch (loadLine_none hNone).symm.trans hLoad
  rcases List.eq_append_cons_of_mem hSpace with
    ⟨before, after, hLine, hBefore⟩
  rw [loadLine_space hLine hBefore] at hLoad
  have hCut : ∃ rest, line = before ++ space :: rest := by
    rcases List.takeWhile_prefix (l := line) (· ≠ 0) with
      ⟨rest, hRest⟩
    refine ⟨after ++ rest, ?_⟩
    rw [← hRest]
    show cString line ++ rest = _
    rw [hLine, List.append_assoc, List.cons_append]
  rcases hCut with ⟨rest, rfl⟩
  rw [credential_space hBefore, ← hLoad] at hSame
  have hRest : stripNewline rest = stripNewline after := by
    injection hSame with hSame
    injection hSame with _ hPass
    exact Option.some.inj hPass
  have hText : (0 : UInt8) ∉ before ++ space :: after :=
    hLine ▸ notMem_cString _
  intro hMem
  apply hText
  rw [← mem_stripNewline (by decide), stripNewline_space]
    at hMem ⊢
  rw [← hRest]
  exact hMem

end Line

end Socks5d

------------------------------------------------------------
-- The Whole File
------------------------------------------------------------

namespace Socks5d

section Loop

variable {file rest line : List UInt8}
variable {lines : List (List UInt8)}
variable {entry : UserEntry}
variable {entries : List UserEntry}
variable {admins after : UserTable}

theorem loadAdmins_nil
    (admins : UserTable) :
    loadAdmins [] admins = .ended admins := by
  unfold loadAdmins
  rfl

theorem loadAdmins_cons
    (hRead : fgets bufferLength file = some (line, rest)) :
    loadAdmins file admins =
      match loadLine line with
      | none => .noSeparator
      | some entry =>
          if admins.count < maxUsers then
            loadAdmins rest (admins.push entry)
          else .outOfBounds := by
  rw [loadAdmins]
  split
  · rename_i hNone
    nomatch hNone.symm.trans hRead
  · rename_i first others hSome
    injection Option.some.inj (hSome.symm.trans hRead) with
      hLine hRest
    rw [hLine, hRest]

/-
  The entries that the loop stores: no fewer than lines, and
  as many only if every line was read at once.
-/
structure Stored
    (lines : List (List UInt8))
    (entries : List UserEntry) : Prop where
  length : lines.length ≤ entries.length
  fits : entries.length = lines.length →
    ∀ line ∈ lines, line.length < bufferLength
  exact : entries.length = lines.length →
    lines.map loadLine = entries.map some

theorem Stored.nil : Stored [] [] :=
  ⟨Nat.le_refl _, fun _ _ hBad => absurd hBad List.not_mem_nil,
    fun _ => rfl⟩

/- A line that was read at once. -/
theorem Stored.whole
    (hLoad : loadLine line = some entry)
    (hFits : line.length < bufferLength)
    (h : Stored lines entries) :
    Stored (line :: lines) (entry :: entries) := by
  refine ⟨Nat.succ_le_succ h.length, ?_, ?_⟩
  · intro hLength other hMem
    rcases List.mem_cons.mp hMem with rfl | hMem
    · exact hFits
    · exact h.fits (Nat.succ.inj hLength) other hMem
  · intro hLength
    rw [List.map_cons, List.map_cons, hLoad,
      h.exact (Nat.succ.inj hLength)]

/- A part of a line counts as one entry more. -/
theorem Stored.part
    (other : List UInt8)
    (entry : UserEntry)
    (h : Stored (line :: lines) entries) :
    Stored (other :: lines) (entry :: entries) := by
  have hMore : (other :: lines).length <
      (entry :: entries).length :=
    Nat.lt_succ_of_le h.length
  exact ⟨hMore.le, fun hBad => absurd hBad hMore.ne',
    fun hBad => absurd hBad hMore.ne'⟩

/- With the credentials of the lines, nothing was cut. -/
theorem Stored.loadable
    (h : Stored (fileLines file) entries)
    (hRoom : entries.length ≤ maxUsers)
    (hSame : entries = fileCredentials file) :
    Loadable file := by
  have hTaken : entries.length ≤
      ((fileLines file).filterMap credential?).length := by
    rw [hSame]
    exact List.length_take_le' _ _
  have hKept := List.length_filterMap_le credential?
    (fileLines file)
  have hAll : entries.length = (fileLines file).length :=
    Nat.le_antisymm (Nat.le_trans hTaken hKept) h.length
  have hSome := List.filterMap_length_eq_length.mp
    (Nat.le_antisymm hKept (hAll ▸ hTaken))
  have hEntries : entries =
      (fileLines file).filterMap credential? := by
    rw [hSame]
    refine List.take_of_length_le ?_
    exact Nat.le_trans hKept (hAll ▸ hRoom)
  refine ⟨?_, ?_, h.fits hAll, hAll ▸ hRoom⟩
  · intro line hMem
    exact credential_isSome_iff.mp (hSome line hMem)
  · intro line hMem
    rcases Option.isSome_iff_exists.mp (hSome line hMem) with
      ⟨entry, hEntry⟩
    have hLoads : (fileLines file).map loadLine =
        (fileLines file).map credential? := by
      rw [h.exact hAll, hEntries,
        List.map_filterMap_some_eq_filter_map_isSome]
      exact List.filter_eq_self.mpr fun found hFound => by
        rcases List.mem_map.mp hFound with ⟨other, hOther, rfl⟩
        exact hSome other hOther
    have hLoad := List.map_inj_left.mp hLoads line hMem
    exact notMem_of_loadLine (hLoad.trans hEntry) hEntry

/- What the loop has stored when it ends. -/
theorem loadAdmins_stored
    {file : List UInt8}
    {admins after : UserTable}
    (hCount : admins.count ≤ maxUsers)
    (h : loadAdmins file admins = .ended after) :
    ∃ entries, after.list = admins.list ++ entries ∧
      after.count ≤ maxUsers ∧
      Stored (fileLines file) entries := by
  cases hLines : fileLines file with
  | nil =>
      rw [eq_nil_of_fileLines hLines, loadAdmins_nil] at h
      injection h with h
      rw [← h]
      exact ⟨[], (List.append_nil _).symm, hCount, .nil⟩
  | cons line lines =>
      rcases fgets_lines hLines with ⟨rest, hRead, hRest⟩
      rw [loadAdmins_cons hRead] at h
      cases hLoad : loadLine (line.take (bufferLength - 1)) with
      | none =>
          rw [hLoad] at h
          nomatch h
      | some entry =>
          rw [hLoad] at h
          dsimp only at h
          split_ifs at h with hRoom
          have hNext : (admins.push entry).count ≤ maxUsers :=
            hRoom
          rcases loadAdmins_stored hNext h with
            ⟨entries, hList, hAfter, hStored⟩
          refine ⟨entry :: entries, ?_, hAfter, ?_⟩
          · rw [hList, UserTable.push_list, List.append_assoc,
              List.singleton_append]
          · rw [hRest] at hStored
            unfold linesBehind at hStored
            split_ifs at hStored with hFits
            · rw [List.take_of_length_le hFits] at hLoad
              exact .whole hLoad (Nat.lt_succ_of_le hFits)
                hStored
            · exact .part line entry hStored
termination_by file.length
decreasing_by exact fgets_length hRead

/- Lines that fit are all stored. -/
theorem loadAdmins_loads
    (hLines : fileLines file = lines)
    (hSpace : ∀ line ∈ lines, space ∈ line)
    (hZero : ∀ line ∈ lines, (0 : UInt8) ∉ line)
    (hFits : ∀ line ∈ lines, line.length < bufferLength)
    (hRoom : admins.count + lines.length ≤ maxUsers) :
    ∃ after, loadAdmins file admins = .ended after ∧
      after.list = admins.list ++
        lines.filterMap credential? := by
  induction lines generalizing file admins with
  | nil =>
      rw [eq_nil_of_fileLines hLines]
      exact ⟨admins, loadAdmins_nil admins,
        (List.append_nil _).symm⟩
  | cons line lines ih =>
      rcases fgets_lines hLines with ⟨rest, hRead, hRest⟩
      rw [List.forall_mem_cons] at hSpace hZero hFits
      have hWhole : line.length ≤ bufferLength - 1 :=
        Nat.le_of_lt_succ hFits.1
      unfold linesBehind at hRest
      rw [if_pos hWhole] at hRest
      rw [List.take_of_length_le hWhole] at hRead
      rcases Option.isSome_iff_exists.mp
          (credential_isSome_iff.mpr hSpace.1) with
        ⟨entry, hEntry⟩
      rw [List.length_cons] at hRoom
      have hNext : (admins.push entry).count + lines.length ≤
          maxUsers := by
        show admins.count + 1 + lines.length ≤ maxUsers
        omega
      rcases ih hRest hSpace.2 hZero.2 hFits.2 hNext with
        ⟨after, hEnd, hList⟩
      refine ⟨after, ?_, ?_⟩
      · rw [loadAdmins_cons hRead, loadLine_eq hZero.1, hEntry]
        dsimp only
        rw [if_pos (by omega), hEnd]
      · rw [hList, UserTable.push_list,
          List.filterMap_cons_some hEntry, List.append_assoc,
          List.singleton_append]

end Loop

/-
  The loop loads exactly the credentials of the file if and
  only if its lines are as it expects them.
-/
theorem loads_exactly_iff
    (file : List UInt8) :
    LoadsExactly file ↔ Loadable file := by
  constructor
  · rintro ⟨admins, hEnd, hList⟩
    rcases loadAdmins_stored (Nat.zero_le _) hEnd with
      ⟨entries, hEntries, hCount, hStored⟩
    have hSame : entries = fileCredentials file :=
      hEntries.symm.trans hList
    have hLength := congrArg List.length hEntries
    rw [UserTable.length_list] at hLength
    have hRoom : entries.length ≤ maxUsers :=
      Nat.le_trans hLength.symm.le hCount
    exact hStored.loadable hRoom hSame
  · intro hLoadable
    have hRoom : noAdmins.count + (fileLines file).length ≤
        maxUsers :=
      Nat.le_trans (Nat.zero_add _).le hLoadable.room
    rcases loadAdmins_loads rfl hLoadable.space hLoadable.zero
        hLoadable.fits hRoom with
      ⟨admins, hEnd, hList⟩
    refine ⟨admins, hEnd, hList.trans ?_⟩
    exact (List.take_of_length_le (Nat.le_trans
      (List.length_filterMap_le _ _) hLoadable.room)).symm

/- A line without a space. -/
theorem loads_noSeparator :
    ¬ LoadsExactly [0x61, newline] := by
  rintro ⟨admins, hEnd, _⟩
  have hRead : fgets bufferLength [0x61, newline] =
      some ([0x61, newline], []) := by
    decide
  rw [loadAdmins_cons hRead] at hEnd
  nomatch hEnd

end Socks5d
