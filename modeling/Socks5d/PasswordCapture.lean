import Mathlib.Tactic.IntervalCases
import Socks5d.PasswordParser
import Socks5d.Users

/-
  What the POP3 dissector reports: the credentials of every
  login it is fed, and nothing else.

  The blocks of the parser are first replaced by the texts
  they hold (`Stage`); both directions are proved there.

  Main declarations:
    * `IsText`, `IsEol`, `loginExchange`
    * `Stage`, `Stage.step`, `Stage.At`, `Stage.step_at`
    * `Stage.Saw`, `Stage.step_saw`
    * `password_capture`
-/

------------------------------------------------------------
-- Logins
------------------------------------------------------------

namespace Socks5d

/- A byte of a user name or of a password. -/
def TextByte (b : UInt8) : Prop :=
  isascii b = true ∧ b ≠ 0x0D ∧ b ≠ 0x0A

instance (b : UInt8) : Decidable (TextByte b) := by
  unfold TextByte
  infer_instance

/- A user name or password that fits. -/
def IsText (text : List UInt8) : Prop :=
  text.length ≤ 254 ∧ ∀ b ∈ text, TextByte b

instance (text : List UInt8) : Decidable (IsText text) :=
  have : Decidable (∀ b ∈ text, TextByte b) :=
    List.decidableBAll TextByte text
  inferInstanceAs (Decidable
    (text.length ≤ 254 ∧ ∀ b ∈ text, TextByte b))

/- LF, or CR LF. -/
def IsEol (eol : List UInt8) : Prop :=
  eol = [0x0A] ∨ eol = [0x0D, 0x0A]

instance (eol : List UInt8) : Decidable (IsEol eol) := by
  unfold IsEol
  infer_instance

/- What the client and the server say in a login. -/
def loginExchange
    (user first pass second : List UInt8) : List UInt8 :=
  userReservedPop3Word ++ user ++ first ++
    passReservedPop3Word ++ pass ++ second

end Socks5d

------------------------------------------------------------
-- Stages
------------------------------------------------------------

namespace Socks5d

/- What the parser has read, without its memory. -/
inductive Stage where
  | userWord (matched : Nat)
  | user (text : List UInt8) (cr : Bool)
  | passWord (name : List UInt8) (matched : Nat)
  | pass (name text : List UInt8) (cr : Bool)
deriving DecidableEq

/- What one byte does to a line of text. -/
inductive LineStep where
  | more (text : List UInt8) (cr : Bool)
  | ended
  | broken
deriving DecidableEq

def lineStep
    (text : List UInt8)
    (cr : Bool)
    (b : UInt8) : LineStep :=
  if text.length ≥ 255 then .broken
  else if cr && b != 0x0A then .broken
  else if b = 0x0D then .more text true
  else if b = 0x0A then .ended
  else if isascii b then .more (text ++ [b]) cr
  else .broken

namespace Stage

/- The search for a login starts again with a byte. -/
def restart (b : UInt8) : Stage :=
  .userWord (if userReservedPop3Word[0]? = some b then 1
    else 0)

/- What one byte does, and what it makes the parser print. -/
def step
    (st : Stage)
    (b : UInt8) : Stage × Option Captured :=
  match st with
  | .userWord matched =>
      if userReservedPop3Word[matched]? = some b then
        (if matched + 1 = userReservedPop3Word.length then
          .user [] false
        else .userWord (matched + 1), none)
      else (restart b, none)
  | .user text cr =>
      match lineStep text cr b with
      | .more text cr => (.user text cr, none)
      | .ended => (.passWord text 0, none)
      | .broken => (restart b, none)
  | .passWord name matched =>
      if passReservedPop3Word[matched]? = some b then
        (if matched + 1 = passReservedPop3Word.length then
          .pass name [] false
        else .passWord name (matched + 1), none)
      else (restart b, none)
  | .pass name text cr =>
      match lineStep text cr b with
      | .more text cr => (.pass name text cr, none)
      | .ended =>
          (restart b,
            some { username := cString name
                   password := cString text })
      | .broken => (restart b, none)

end Stage

end Socks5d

------------------------------------------------------------
-- The Parser Follows The Stages
------------------------------------------------------------

namespace Socks5d

/- The bytes written to a block. -/
def HeapBlock.Holds
    (block : Option HeapBlock)
    (text : List UInt8) : Prop :=
  ∃ capacity, block = some ⟨text, capacity⟩

/- The parser's memory is that of a stage. -/
def Stage.At
    (st : Stage)
    (p : PasswordParser) : Prop :=
  match st with
  | .userWord matched =>
      p.current = .userWordSearch ∧
        p.currentIndex = matched ∧ p.last = false
  | .user text cr =>
      p.current = .userRead ∧
        p.currentIndex = text.length ∧ p.last = cr ∧
        (text ≠ [] → HeapBlock.Holds p.username text)
  | .passWord name matched =>
      p.current = .passWordSearch ∧
        p.currentIndex = matched ∧ p.last = false ∧
        HeapBlock.Holds p.username (name ++ [0])
  | .pass name text cr =>
      p.current = .passRead ∧
        p.currentIndex = text.length ∧ p.last = cr ∧
        HeapBlock.Holds p.username (name ++ [0]) ∧
        (text ≠ [] → HeapBlock.Holds p.password text)

/- A block that was checked takes the next byte. -/
theorem checkSize_put
    {block : Option HeapBlock}
    {text : List UInt8}
    (h : text ≠ [] → HeapBlock.Holds block text)
    (b : UInt8) :
    HeapBlock.Holds
      ((checkSize block text.length).map
        (·.put text.length b)) (text ++ [b]) := by
  by_cases hNil : text = []
  · subst hNil
    exact ⟨passwordBufferSize, rfl⟩
  · rcases h hNil with ⟨capacity, hBlock⟩
    have hLength : text.length ≠ 0 :=
      fun hZero => hNil (List.length_eq_zero_iff.1 hZero)
    subst hBlock
    unfold checkSize
    rw [if_neg hLength]
    split
    · refine ⟨text.length + passwordBufferSize, ?_⟩
      simp [HeapBlock.put]
    · refine ⟨capacity, ?_⟩
      simp [HeapBlock.put]

/- The text of a block that ends in a zero. -/
theorem HeapBlock.Holds.text_eq
    {block : Option HeapBlock}
    {text : List UInt8}
    (h : HeapBlock.Holds block (text ++ [0])) :
    HeapBlock.text block = cString text := by
  rcases h with ⟨capacity, rfl⟩
  show (text ++ [0]).takeWhile _ = text.takeWhile _
  induction text with
  | nil => rfl
  | cons a rest ih =>
      rw [List.cons_append, List.takeWhile_cons,
        List.takeWhile_cons, ih]

theorem restartUserWord_at
    {p : PasswordParser}
    (hLast : p.last = false)
    (b : UInt8) :
    (Stage.restart b).At (restartUserWord p b) :=
  ⟨rfl, rfl, hLast⟩

/- One byte of a user name. -/
theorem Stage.step_at_user
    {text : List UInt8}
    {cr : Bool}
    {p : PasswordParser}
    (h : (Stage.user text cr).At p)
    (b : UInt8) :
    ((Stage.user text cr).step b).1.At
        (userReadHandler p b) ∧
      ((Stage.user text cr).step b).2 = none := by
  rcases h with ⟨_, hIndex, hLast, hName⟩
  have hReset : (Stage.restart b).At (userReadReset p b) :=
    restartUserWord_at rfl b
  unfold Stage.step userReadHandler lineStep
  simp only [hIndex, hLast]
  by_cases hFull : text.length ≥ 255
  · rw [if_pos hFull, if_pos hFull]
    exact ⟨hReset, rfl⟩
  · rw [if_neg hFull, if_neg hFull]
    by_cases hAlone : (cr && b != 0x0A) = true
    · rw [if_pos hAlone, if_pos hAlone]
      exact ⟨hReset, rfl⟩
    · rw [if_neg hAlone, if_neg hAlone]
      by_cases hCr : b = 0x0D
      · rw [if_pos hCr, if_pos hCr]
        exact ⟨⟨rfl, rfl, rfl, hName⟩, rfl⟩
      · rw [if_neg hCr, if_neg hCr]
        by_cases hLf : b = 0x0A
        · rw [if_pos hLf, if_pos hLf]
          exact ⟨⟨rfl, rfl, rfl, checkSize_put hName 0⟩, rfl⟩
        · rw [if_neg hLf, if_neg hLf]
          by_cases hText : isascii b = true
          · rw [if_pos hText, if_pos hText]
            refine ⟨⟨rfl, ?_, rfl, ?_⟩, rfl⟩
            · rw [List.length_append]
              rfl
            · exact fun _ => checkSize_put hName b
          · rw [if_neg hText, if_neg hText]
            exact ⟨hReset, rfl⟩

/- One byte of a password. -/
theorem Stage.step_at_pass
    {name text : List UInt8}
    {cr : Bool}
    {p : PasswordParser}
    (h : (Stage.pass name text cr).At p)
    (b : UInt8) :
    ((Stage.pass name text cr).step b).1.At
        (passReadHandler p b).1 ∧
      (passReadHandler p b).2 =
        ((Stage.pass name text cr).step b).2 := by
  rcases h with ⟨_, hIndex, hLast, hName, hPass⟩
  have hReset (q : PasswordParser) :
      (Stage.restart b).At (passReadReset q b) :=
    restartUserWord_at rfl b
  unfold Stage.step passReadHandler lineStep
  simp only [hIndex, hLast]
  by_cases hFull : text.length ≥ 255
  · rw [if_pos hFull, if_pos hFull]
    exact ⟨hReset p, rfl⟩
  · rw [if_neg hFull, if_neg hFull]
    by_cases hAlone : (cr && b != 0x0A) = true
    · rw [if_pos hAlone, if_pos hAlone]
      exact ⟨hReset p, rfl⟩
    · rw [if_neg hAlone, if_neg hAlone]
      by_cases hCr : b = 0x0D
      · rw [if_pos hCr, if_pos hCr]
        exact ⟨⟨rfl, rfl, rfl, hName, hPass⟩, rfl⟩
      · rw [if_neg hCr, if_neg hCr]
        by_cases hLf : b = 0x0A
        · rw [if_pos hLf, if_pos hLf]
          refine ⟨hReset _, ?_⟩
          simp only [hName.text_eq,
            (checkSize_put hPass 0).text_eq]
        · rw [if_neg hLf, if_neg hLf]
          by_cases hText : isascii b = true
          · rw [if_pos hText, if_pos hText]
            refine ⟨⟨rfl, ?_, rfl, hName, ?_⟩, rfl⟩
            · rw [List.length_append]
              rfl
            · exact fun _ => checkSize_put hPass b
          · rw [if_neg hText, if_neg hText]
            exact ⟨restartUserWord_at rfl b, rfl⟩

/- One byte: the parser goes where the stage goes. -/
theorem Stage.step_at
    {st : Stage}
    {p : PasswordParser}
    (h : st.At p)
    (b : UInt8) :
    (st.step b).1.At (passwordParserFeed p b).1 ∧
      (passwordParserFeed p b).2 = (st.step b).2 := by
  cases st with
  | userWord matched =>
      rcases h with ⟨hCurrent, hIndex, hLast⟩
      unfold passwordParserFeed userWordSearchHandler
        Stage.step
      simp only [hCurrent, hIndex]
      split
      · split
        · refine ⟨⟨rfl, rfl, hLast, ?_⟩, rfl⟩
          exact fun hBad => absurd rfl hBad
        · exact ⟨⟨rfl, rfl, hLast⟩, rfl⟩
      · exact ⟨restartUserWord_at hLast b, rfl⟩
  | user text cr =>
      have hStep := Stage.step_at_user h b
      unfold passwordParserFeed
      rw [h.1]
      exact ⟨hStep.1, hStep.2.symm⟩
  | passWord name matched =>
      rcases h with ⟨hCurrent, hIndex, hLast, hName⟩
      unfold passwordParserFeed passWordSearchHandler
        Stage.step
      simp only [hCurrent, hIndex]
      split
      · split
        · refine ⟨⟨rfl, rfl, hLast, hName, ?_⟩, rfl⟩
          exact fun hBad => absurd rfl hBad
        · exact ⟨⟨rfl, rfl, hLast, hName⟩, rfl⟩
      · exact ⟨restartUserWord_at rfl b, rfl⟩
  | pass name text cr =>
      have hStep := Stage.step_at_pass h b
      unfold passwordParserFeed
      rw [h.1]
      exact hStep

/- The stage after a stream. -/
def Stage.after
    (st : Stage)
    (stream : List UInt8) : Stage :=
  stream.foldl (fun st b => (st.step b).1) st

theorem Stage.after_append
    (st : Stage)
    (first second : List UInt8) :
    st.after (first ++ second) =
      (st.after first).after second :=
  List.foldl_append

/- A stream: the parser ends where the stage ends. -/
theorem Stage.after_at
    {st : Stage}
    {p : PasswordParser}
    (h : st.At p)
    (stream : List UInt8) :
    (st.after stream).At (passwordConsume stream p).1 := by
  induction stream generalizing st p with
  | nil => exact h
  | cons b rest ih => exact ih (Stage.step_at h b).1

/- What a byte after a stream makes the parser print. -/
theorem report_eq
    (stream : List UInt8)
    (b : UInt8) :
    (passwordParserFeed
        (passwordConsume stream passwordParserInit).1 b).2 =
      (((Stage.userWord 0).after stream).step b).2 := by
  have hStart : (Stage.userWord 0).At passwordParserInit :=
    ⟨rfl, rfl, rfl⟩
  exact (Stage.step_at (Stage.after_at hStart stream) b).2

end Socks5d

------------------------------------------------------------
-- Soundness
------------------------------------------------------------

namespace Socks5d

/- What a line of text can do with a byte. -/
theorem lineStep_cases
    (text : List UInt8)
    (cr : Bool)
    (b : UInt8) :
    lineStep text cr b = .broken ∨
      (lineStep text cr b = .ended ∧ b = 0x0A ∧
        text.length ≤ 254) ∨
      (lineStep text cr b = .more text true ∧ b = 0x0D ∧
        cr = false) ∨
      (lineStep text cr b = .more (text ++ [b]) false ∧
        TextByte b ∧ cr = false) := by
  unfold lineStep
  by_cases hFull : text.length ≥ 255
  · rw [if_pos hFull]
    exact Or.inl rfl
  · rw [if_neg hFull]
    by_cases hAlone : (cr && b != 0x0A) = true
    · rw [if_pos hAlone]
      exact Or.inl rfl
    · rw [if_neg hAlone]
      by_cases hLf : b = 0x0A
      · rw [hLf]
        exact Or.inr (Or.inl ⟨rfl, rfl, by omega⟩)
      · have hCr : cr = false := by
          simpa [hLf] using hAlone
        rw [hCr, if_neg hLf]
        by_cases hReturn : b = 0x0D
        · rw [if_pos hReturn]
          exact Or.inr (Or.inr (Or.inl ⟨rfl, hReturn, rfl⟩))
        · rw [if_neg hReturn]
          by_cases hText : isascii b = true
          · rw [if_pos hText]
            exact Or.inr (Or.inr (Or.inr
              ⟨rfl, ⟨hText, hReturn, hLf⟩, rfl⟩))
          · rw [if_neg hText]
            exact Or.inl rfl

/- A CR that waits for its LF. -/
def crBytes (cr : Bool) : List UInt8 :=
  if cr then [0x0D] else []

/- What a stage says of the bytes that led to it. -/
def Stage.Saw
    (st : Stage)
    (seen : List UInt8) : Prop :=
  match st with
  | .userWord matched =>
      matched < 5 ∧
        userReservedPop3Word.take matched <:+ seen
  | .user text cr =>
      (∀ b ∈ text, TextByte b) ∧
        userReservedPop3Word ++ text ++ crBytes cr <:+ seen
  | .passWord name matched =>
      IsText name ∧ matched < 10 ∧
        ∃ eol, IsEol eol ∧
          userReservedPop3Word ++ name ++ eol ++
            passReservedPop3Word.take matched <:+ seen
  | .pass name text cr =>
      IsText name ∧ (∀ b ∈ text, TextByte b) ∧
        ∃ eol, IsEol eol ∧
          userReservedPop3Word ++ name ++ eol ++
            passReservedPop3Word ++ text ++
              crBytes cr <:+ seen

/- A login that ends with the bytes fed so far. -/
def LoginSeen
    (r : Captured)
    (seen : List UInt8) : Prop :=
  ∃ user first pass second,
    IsText user ∧ IsText pass ∧ IsEol first ∧ IsEol second ∧
      loginExchange user first pass second <:+ seen ∧
      r = { username := cString user
            password := cString pass }

theorem suffix_concat
    {l seen : List UInt8}
    (h : l <:+ seen)
    (b : UInt8) : l ++ [b] <:+ seen ++ [b] := by
  rcases h with ⟨before, rfl⟩
  exact ⟨before, (List.append_assoc _ _ _).symm⟩

/- The word matched so far, and one more byte of it. -/
theorem take_concat
    {word : List UInt8}
    {matched : Nat}
    {b : UInt8}
    (h : word[matched]? = some b) :
    word.take (matched + 1) = word.take matched ++ [b] := by
  rw [List.take_add_one, h]
  rfl

theorem restart_saw
    (seen : List UInt8)
    (b : UInt8) :
    (Stage.restart b).Saw (seen ++ [b]) := by
  by_cases hFirst : userReservedPop3Word[0]? = some b
  · have hStage : Stage.restart b = .userWord 1 := by
      unfold Stage.restart
      rw [if_pos hFirst]
    rw [hStage]
    refine ⟨by decide, ?_⟩
    rw [take_concat hFirst]
    exact suffix_concat (List.nil_suffix) b
  · have hStage : Stage.restart b = .userWord 0 := by
      unfold Stage.restart
      rw [if_neg hFirst]
    rw [hStage]
    exact ⟨by decide, List.nil_suffix⟩

/- The line a CR or a byte of text goes on with. -/
theorem text_concat
    {text : List UInt8}
    (h : ∀ b ∈ text, TextByte b)
    {a : UInt8}
    (ha : TextByte a) :
    ∀ b ∈ text ++ [a], TextByte b := by
  intro b hMem
  rcases List.mem_append.1 hMem with hOld | hNew
  · exact h b hOld
  · rw [List.mem_singleton.1 hNew]
    exact ha

/- The line break that an LF completes. -/
theorem eol_of_cr
    (cr : Bool) : IsEol (crBytes cr ++ [0x0A]) := by
  cases cr with
  | false => exact Or.inl rfl
  | true => exact Or.inr rfl

/-
  One byte: the next stage tells the truth about the bytes,
  and what is printed is a login that just ended.
-/
theorem Stage.step_saw
    {st : Stage}
    {seen : List UInt8}
    (h : st.Saw seen)
    (b : UInt8) :
    (st.step b).1.Saw (seen ++ [b]) ∧
      ∀ r, (st.step b).2 = some r →
        LoginSeen r (seen ++ [b]) := by
  cases st with
  | userWord matched =>
      rcases h with ⟨_, hSuffix⟩
      unfold Stage.step
      simp only []
      split
      · rename_i hByte
        have hNext := suffix_concat hSuffix b
        rw [← take_concat hByte] at hNext
        refine ⟨?_, fun r hBad => nomatch hBad⟩
        split
        · rename_i hAll
          rw [hAll] at hNext
          exact ⟨List.forall_mem_nil _, hNext⟩
        · rename_i hSome
          have hBound := List.getElem?_eq_some_iff.1 hByte
          have hLess : matched < 5 := hBound.1
          have hNot : matched + 1 ≠ 5 := hSome
          exact ⟨by omega, hNext⟩
      · exact ⟨restart_saw seen b, fun r hBad => nomatch hBad⟩
  | user text cr =>
      rcases h with ⟨hText, hSuffix⟩
      have hNext := suffix_concat hSuffix b
      unfold Stage.step
      rcases lineStep_cases text cr b with
        hStep | ⟨hStep, hByte, hLength⟩ |
          ⟨hStep, hByte, hCr⟩ | ⟨hStep, hByte, hCr⟩
      · simp only [hStep]
        exact ⟨restart_saw seen b, fun r hBad => nomatch hBad⟩
      · simp only [hStep]
        refine ⟨⟨⟨hLength, hText⟩, by decide, ?_⟩,
          fun r hBad => nomatch hBad⟩
        refine ⟨crBytes cr ++ [0x0A], eol_of_cr cr, ?_⟩
        rw [hByte] at hNext ⊢
        simpa using hNext
      · simp only [hStep]
        refine ⟨⟨hText, ?_⟩, fun r hBad => nomatch hBad⟩
        rw [hByte] at hNext ⊢
        rw [hCr] at hNext
        simpa [crBytes] using hNext
      · simp only [hStep]
        refine ⟨⟨text_concat hText hByte, ?_⟩,
          fun r hBad => nomatch hBad⟩
        rw [hCr] at hNext
        simpa [crBytes] using hNext
  | passWord name matched =>
      rcases h with ⟨hName, _, eol, hEol, hSuffix⟩
      unfold Stage.step
      simp only []
      split
      · rename_i hByte
        have hNext := suffix_concat hSuffix b
        rw [List.append_assoc, ← take_concat hByte] at hNext
        refine ⟨?_, fun r hBad => nomatch hBad⟩
        split
        · rename_i hAll
          rw [hAll] at hNext
          refine ⟨hName, List.forall_mem_nil _, eol, hEol, ?_⟩
          simpa [crBytes, passReservedPop3Word] using hNext
        · rename_i hSome
          have hBound := List.getElem?_eq_some_iff.1 hByte
          have hLess : matched < 10 := hBound.1
          have hNot : matched + 1 ≠ 10 := hSome
          exact ⟨hName, by omega, eol, hEol, hNext⟩
      · exact ⟨restart_saw seen b, fun r hBad => nomatch hBad⟩
  | pass name text cr =>
      rcases h with ⟨hName, hText, eol, hEol, hSuffix⟩
      have hNext := suffix_concat hSuffix b
      unfold Stage.step
      rcases lineStep_cases text cr b with
        hStep | ⟨hStep, hByte, hLength⟩ |
          ⟨hStep, hByte, hCr⟩ | ⟨hStep, hByte, hCr⟩
      · simp only [hStep]
        exact ⟨restart_saw seen b, fun r hBad => nomatch hBad⟩
      · simp only [hStep]
        refine ⟨restart_saw seen b, ?_⟩
        intro r hReport
        refine ⟨name, eol, text, crBytes cr ++ [0x0A], hName,
          ⟨hLength, hText⟩, hEol, eol_of_cr cr, ?_,
          (Option.some.inj hReport).symm⟩
        rw [hByte] at hNext ⊢
        simpa [loginExchange] using hNext
      · simp only [hStep]
        refine ⟨⟨hName, hText, eol, hEol, ?_⟩,
          fun r hBad => nomatch hBad⟩
        rw [hByte] at hNext ⊢
        rw [hCr] at hNext
        simpa [crBytes] using hNext
      · simp only [hStep]
        refine ⟨⟨hName, text_concat hText hByte, eol, hEol,
          ?_⟩, fun r hBad => nomatch hBad⟩
        rw [hCr] at hNext
        simpa [crBytes] using hNext

/- A stream: the stage tells the truth about its bytes. -/
theorem Stage.after_saw
    {st : Stage}
    {seen : List UInt8}
    (h : st.Saw seen)
    (stream : List UInt8) :
    (st.after stream).Saw (seen ++ stream) := by
  induction stream generalizing st seen with
  | nil =>
      rw [List.append_nil]
      exact h
  | cons b rest ih =>
      have hRest := ih (Stage.step_saw h b).1
      rw [List.append_assoc] at hRest
      exact hRest

end Socks5d

------------------------------------------------------------
-- Completeness
------------------------------------------------------------

namespace Socks5d

/-
  After a line feed, or at the start, the first byte of a
  login begins the search afresh.
-/
theorem Stage.fresh_search
    {st : Stage}
    {seen : List UInt8}
    (h : st.Saw seen) :
    ((st.step 0x0A).1.step 0x75).1 = .userWord 1 := by
  cases st with
  | userWord matched =>
      have hLess : matched < 5 := h.1
      interval_cases matched <;> rfl
  | user text cr =>
      unfold Stage.step
      rcases lineStep_cases text cr 0x0A with
        hStep | ⟨hStep, _⟩ | ⟨_, hByte, _⟩ | ⟨_, hByte, _⟩
      · simp only [hStep]
        rfl
      · simp only [hStep]
        rfl
      · exact absurd hByte (by decide)
      · exact absurd hByte (by decide)
  | passWord name matched =>
      have hLess : matched < 10 := h.2.1
      interval_cases matched <;> rfl
  | pass name text cr =>
      unfold Stage.step
      rcases lineStep_cases text cr 0x0A with
        hStep | ⟨hStep, _⟩ | ⟨_, hByte, _⟩ | ⟨_, hByte, _⟩
      · simp only [hStep]
        rfl
      · simp only [hStep]
        rfl
      · exact absurd hByte (by decide)
      · exact absurd hByte (by decide)

/- A byte of text that fits makes the line longer. -/
theorem lineStep_text
    {text : List UInt8}
    {b : UInt8}
    (hLength : text.length < 255)
    (hText : TextByte b) :
    lineStep text false b = .more (text ++ [b]) false := by
  unfold lineStep
  rw [if_neg (by omega), if_neg (by simp),
    if_neg hText.2.1, if_neg hText.2.2, if_pos hText.1]

theorem lineStep_lf
    {text : List UInt8}
    (hLength : text.length < 255)
    (cr : Bool) :
    lineStep text cr 0x0A = .ended := by
  unfold lineStep
  rw [if_neg (by omega), if_neg (by simp)]
  rfl

theorem lineStep_cr
    {text : List UInt8}
    (hLength : text.length < 255) :
    lineStep text false 0x0D = .more text true := by
  unfold lineStep
  rw [if_neg (by omega)]
  rfl

/-
  Reading a line: its text, and then all of its line break
  but the line feed.
-/
theorem read_line
    {start : List UInt8 → Bool → Stage}
    (hStep : ∀ text cr b more next,
      lineStep text cr b = .more more next →
        ((start text cr).step b).1 = start more next)
    {line eol : List UInt8}
    (hLine : IsText line)
    (hEol : IsEol eol) :
    ∃ cr, (start [] false).after (line ++ eol.dropLast) =
      start line cr := by
  -- the text, from any part of it that was read
  have hRead : ∀ rest text : List UInt8,
      (∀ b ∈ rest, TextByte b) →
        text.length + rest.length ≤ 254 →
          (start text false).after rest =
            start (text ++ rest) false := by
    intro rest
    induction rest with
    | nil =>
        intro text _ _
        rw [List.append_nil]
        rfl
    | cons b rest ih =>
        intro text hRest hLength
        rw [List.length_cons] at hLength
        have hByte := hRest b List.mem_cons_self
        have hMore := hStep text false b _ _
          (lineStep_text (by omega) hByte)
        have hNext := ih (text ++ [b])
          (fun a hMem => hRest a (List.mem_cons_of_mem _ hMem))
          (by
            rw [List.length_append, List.length_singleton]
            omega)
        rw [List.append_assoc] at hNext
        refine Eq.trans ?_ hNext
        rw [← hMore]
        rfl
  have hAll := hRead line [] hLine.2 (by
    rw [List.length_nil, Nat.zero_add]
    exact hLine.1)
  have hFits : line.length < 255 :=
    Nat.lt_succ_of_le hLine.1
  rcases hEol with rfl | rfl
  · refine ⟨false, ?_⟩
    rw [Stage.after_append, hAll]
    rfl
  · refine ⟨true, ?_⟩
    rw [Stage.after_append, hAll]
    exact hStep line false 0x0D _ _ (lineStep_cr hFits)

/- Both line breaks end in a line feed. -/
theorem IsEol.split
    {eol : List UInt8}
    (h : IsEol eol) : eol = eol.dropLast ++ [0x0A] := by
  rcases h with rfl | rfl <;> rfl

/- From a fresh search, a login is reported at its end. -/
theorem Stage.login_reported
    {user first pass second : List UInt8}
    (hUser : IsText user)
    (hFirst : IsEol first)
    (hPass : IsText pass)
    (hSecond : IsEol second) :
    (((Stage.userWord 1).after
        ([0x73, 0x65, 0x72, 0x20] ++ (user ++ first) ++
          (passReservedPop3Word ++
            (pass ++ second.dropLast)))).step 0x0A).2 =
      some { username := cString user
             password := cString pass } := by
  have hName : ∀ text cr b more next,
      lineStep text cr b = .more more next →
        ((Stage.user text cr).step b).1 =
          .user more next := by
    intro text cr b more next hMore
    unfold Stage.step
    simp only [hMore]
  have hWord : ∀ text cr b more next,
      lineStep text cr b = .more more next →
        ((Stage.pass user text cr).step b).1 =
          .pass user more next := by
    intro text cr b more next hMore
    unfold Stage.step
    simp only [hMore]
  rcases read_line hName hUser hFirst with ⟨cr, hLine⟩
  rcases read_line hWord hPass hSecond with ⟨cr', hLine'⟩
  have hEnd : ((Stage.user user cr).step 0x0A).1 =
      .passWord user 0 := by
    unfold Stage.step
    simp only [lineStep_lf (Nat.lt_succ_of_le hUser.1)]
  have hUserLine : (Stage.user [] false).after
      (user ++ first) = .passWord user 0 := by
    rw [hFirst.split, ← List.append_assoc,
      Stage.after_append, hLine]
    exact hEnd
  have hAfter : (Stage.userWord 1).after
      ([0x73, 0x65, 0x72, 0x20] ++ (user ++ first) ++
        (passReservedPop3Word ++
          (pass ++ second.dropLast))) =
      .pass user pass cr' := by
    have hWordRead : (Stage.passWord user 0).after
        passReservedPop3Word = .pass user [] false := rfl
    have hSer : (Stage.userWord 1).after
        [0x73, 0x65, 0x72, 0x20] = .user [] false := rfl
    rw [Stage.after_append, Stage.after_append,
      Stage.after_append _ _ (user ++ first), hSer,
      hUserLine, hWordRead]
    exact hLine'
  rw [hAfter]
  unfold Stage.step
  simp only [lineStep_lf (Nat.lt_succ_of_le hPass.1)]

/- A login after any line feed leads to its last byte. -/
theorem Stage.login_after
    {before : List UInt8}
    (hBefore : before = [] ∨ ∃ rest, before = rest ++ [0x0A])
    (rest : List UInt8) :
    (Stage.userWord 0).after (before ++ 0x75 :: rest) =
      (Stage.userWord 1).after rest := by
  rcases hBefore with rfl | ⟨seen, rfl⟩
  · rfl
  · have hStart : (Stage.userWord 0).Saw [] :=
      ⟨by decide, List.nil_suffix⟩
    have hFresh := Stage.fresh_search
      (Stage.after_saw hStart seen)
    have hSplit : seen ++ [0x0A] ++ 0x75 :: rest =
        seen ++ ([0x0A, 0x75] ++ rest) := by
      simp
    rw [hSplit, Stage.after_append, Stage.after_append]
    exact congrArg (fun st => Stage.after st rest) hFresh

end Socks5d

------------------------------------------------------------
-- Soundness And Completeness
------------------------------------------------------------

namespace Socks5d

/- What the parser prints at a byte after a stream. -/
def reportAt
    (stream : List UInt8)
    (b : UInt8) : Option Captured :=
  (passwordParserFeed
    (passwordConsume stream passwordParserInit).1 b).2

/-
  Every report is that of a login which has just ended, and
  every login after a line feed is reported at its last
  byte. Names and passwords are printed as C strings.
-/
theorem password_capture :
    (∀ stream b r, reportAt stream b = some r →
      LoginSeen r (stream ++ [b])) ∧
    ∀ before user first pass second,
      (before = [] ∨ ∃ rest, before = rest ++ [0x0A]) →
      IsText user → IsEol first →
      IsText pass → IsEol second →
        ∃ stream b,
          before ++ loginExchange user first pass second =
              stream ++ [b] ∧
            reportAt stream b =
              some { username := cString user
                     password := cString pass } := by
  constructor
  · intro stream b r hReport
    have hStart : (Stage.userWord 0).Saw [] :=
      ⟨by decide, List.nil_suffix⟩
    have hSaw := Stage.after_saw hStart stream
    unfold reportAt at hReport
    rw [report_eq] at hReport
    exact (Stage.step_saw hSaw b).2 r hReport
  · intro before user first pass second hBefore hUser
      hFirst hPass hSecond
    refine ⟨before ++ 0x75 ::
      ([0x73, 0x65, 0x72, 0x20] ++ (user ++ first) ++
        (passReservedPop3Word ++
          (pass ++ second.dropLast))), 0x0A, ?_, ?_⟩
    · conv_lhs => rw [hSecond.split]
      simp [loginExchange, userReservedPop3Word]
    · unfold reportAt
      rw [report_eq, Stage.login_after hBefore]
      exact Stage.login_reported hUser hFirst hPass hSecond

/- A login as `a` with the password `b`. -/
theorem password_capture_login :
    ∃ stream b,
      [0x0A] ++ loginExchange [0x61] [0x0A] [0x62]
          [0x0D, 0x0A] = stream ++ [b] ∧
        reportAt stream b =
          some { username := [0x61]
                 password := [0x62] } :=
  password_capture.2 [0x0A] [0x61] [0x0A] [0x62]
    [0x0D, 0x0A] (Or.inr ⟨[], rfl⟩) (by decide +kernel)
    (by decide +kernel) (by decide +kernel)
    (by decide +kernel)

/-
  A user name with a zero byte inside is cut there, so what
  is printed is not what was fed.
-/
theorem zero_byte_cut :
    ¬ ((∀ stream b r, reportAt stream b = some r →
        ∃ user first pass second,
          IsText user ∧ IsText pass ∧
            IsEol first ∧ IsEol second ∧
            loginExchange user first pass second <:+
              stream ++ [b] ∧
            r = { username := user, password := pass }) ∧
      ∀ before user first pass second,
        (before = [] ∨ ∃ rest, before = rest ++ [0x0A]) →
        IsText user → IsEol first →
        IsText pass → IsEol second →
          ∃ stream b,
            before ++ loginExchange user first pass second =
                stream ++ [b] ∧
              reportAt stream b =
                some { username := user
                       password := pass }) := by
  intro hClaim
  rcases hClaim.2 [] [0x61, 0x00, 0x62] [0x0A] [0x70]
    [0x0A] (Or.inl rfl) (by decide +kernel)
    (by decide +kernel) (by decide +kernel)
    (by decide +kernel) with ⟨stream, b, hSplit, hReport⟩
  have hEnds := List.append_inj'
    (show (loginExchange [0x61, 0x00, 0x62] [0x0A] [0x70]
      [0x0A]).dropLast ++ [0x0A] = stream ++ [b] from hSplit)
    rfl
  rw [← hEnds.1, ← List.singleton_inj.1 hEnds.2] at hReport
  exact absurd hReport (by decide +kernel)

end Socks5d
