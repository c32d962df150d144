import BasicLex.Proofs.Progress

namespace BasicLex
open Text

namespace Text

def splitAt? : List Char → Nat → Option (List Char × List Char)
  | text,0 => some ([],text)
  | [],_ + 1 => none
  | c :: rest,bytes + 1 =>
    if c.utf8Size ≤ bytes + 1 then
      (splitAt? rest (bytes + 1 - c.utf8Size)).map fun cut => (c :: cut.1,cut.2)
    else none

theorem splitAt?_complete (left right : List Char) :
    splitAt? (left ++ right) (byteLength left) = some (left,right) := by
  induction left with
  | nil => cases right <;> rfl
  | cons c left ih =>
    obtain ⟨bytes,size⟩ := Nat.exists_eq_add_one_of_ne_zero (Nat.ne_of_gt c.utf8Size_pos)
    have fits : c.utf8Size ≤ bytes + byteLength left + 1 := by omega
    have left_over : bytes + byteLength left + 1 - c.utf8Size = byteLength left := by omega
    rw [byteLength_cons,show c.utf8Size + byteLength left = bytes + byteLength left + 1 by omega,
      List.cons_append,splitAt?,if_pos fits,left_over,ih]
    rfl

theorem splitAt?_sound {text left right : List Char} {bytes : Nat}
    (cut : splitAt? text bytes = some (left,right)) : text = left ++ right ∧ byteLength left = bytes := by
  induction text generalizing bytes left with
  | nil =>
    cases bytes with
    | zero => cases cut; exact ⟨rfl,rfl⟩
    | succ bytes => cases cut
  | cons c rest ih =>
    cases bytes with
    | zero => cases cut; exact ⟨rfl,rfl⟩
    | succ bytes =>
      rw [splitAt?] at cut
      split at cut
      · rename_i fits
        obtain ⟨⟨inner,outer⟩,found,same⟩ := Option.map_eq_some_iff.mp cut
        obtain ⟨rfl,rfl⟩ := Prod.mk.inj same
        obtain ⟨rfl,size⟩ := ih found
        refine ⟨rfl,?_⟩
        rw [byteLength_cons,size]
        omega
      · cases cut

theorem splitAt?_exact {text left right : List Char} {bytes : Nat} :
    splitAt? text bytes = some (left,right) ↔ text = left ++ right ∧ byteLength left = bytes := by
  constructor
  · exact splitAt?_sound
  · rintro ⟨rfl,rfl⟩
    exact splitAt?_complete left right

end Text

-- A reader that keeps an offset into its source and nothing else. It sees the text only
-- through slices, which fail where there is no cut, and every move that would leave the
-- source fails too.
namespace Sliced
variable (source : List Char)

def remainder? (offset : Nat) : Option (List Char) := (splitAt? source offset).map Prod.snd

def advance? (offset bytes : Nat) : Option Nat :=
  if offset + bytes ≤ byteLength source then some (offset + bytes) else none

def matched (first later : Char → Bool) : List Char → List Char
  | [] => []
  | c :: rest => if first c then c :: rest.takeWhile later else []

def emit? (offset bytes : Nat) (token : Token) : Option (Token × Nat) :=
  (advance? source offset bytes).map fun after => (token,after)

def readStatementEnd? (offset : Nat) : Option (Token × Nat) := do
  let rest ← remainder? source offset
  emit? source offset (if rest[1]? = some '\n' then 2 else 1) ⟨.endOfStatement,""⟩

def readRun? (first later : Char → Bool) (kind : List Char → Kind) (offset : Nat) :
    Option (Token × Nat) := do
  let rest ← remainder? source offset
  let run := matched first later rest
  emit? source offset (byteLength run) ⟨kind run,String.ofList run⟩

def readString? (offset : Nat) : Option (Token × Nat) := do
  let inside ← advance? source offset 1
  let rest ← remainder? source inside
  let (value,_) ← splitAt? rest (byteLength (rest.takeWhile (!isQuote ·)))
  let closing ← advance? source inside (byteLength value)
  emit? source closing (if byteLength source ≤ closing then 0 else 1) ⟨.string,String.ofList value⟩

def readToken? (offset : Nat) (c : Char) : Option (Token × Nat) :=
  if c = '\n' then emit? source offset 1 ⟨.endOfStatement,""⟩
  else if c = '\r' then readStatementEnd? source offset
  else if isWordStart c then readRun? source isWordStart isWordPart Piece.wordKind offset
  else if c.isDigit then readRun? source Char.isDigit Char.isDigit (fun _ => .number) offset
  else if isQuote c then readString? source offset
  else match Symbol.ofChar? c with
    | some mark =>
      emit? source offset (String.ofList [mark.char]).utf8ByteSize ⟨.symbol mark,String.ofList [mark.char]⟩
    | none => emit? source offset c.utf8Size ⟨.unknown,String.ofList [c]⟩

def read? (offset : Nat) : Option (Token × Nat) :=
  match remainder? source offset with
  | none => none
  | some [] => some (Token.eof,offset)
  | some (c :: _) =>
    if isBlank c then
      match _moved : advance? source offset 1 with
      | none => none
      | some after => read? after
    else readToken? source offset c
termination_by byteLength source - offset
decreasing_by
  rw [advance?] at _moved
  split at _moved
  · cases _moved
    omega
  · cases _moved

theorem remainder?_behind (passed rest : List Char) :
    remainder? (passed ++ rest) (byteLength passed) = some rest := by
  simp [remainder?,splitAt?_complete]

theorem advance?_over (passed taken left : List Char) :
    advance? (passed ++ (taken ++ left)) (byteLength passed) (byteLength taken) =
      some (byteLength (passed ++ taken)) := by
  have inside : byteLength passed + byteLength taken ≤ byteLength (passed ++ (taken ++ left)) := by
    simp only [byteLength_append]
    omega
  rw [advance?,if_pos inside,byteLength_append]

theorem emit?_over (passed taken left : List Char) (token : Token) :
    emit? (passed ++ (taken ++ left)) (byteLength passed) (byteLength taken) token =
      some (token,byteLength passed + byteLength taken) := by
  rw [emit?,advance?_over,byteLength_append]
  rfl

theorem readStatementEnd?_exact (passed rest : List Char) :
    readStatementEnd? (passed ++ '\r' :: rest) (byteLength passed) =
      some ((Piece.cut (byteLength passed) '\r' rest).1.token,
        (Piece.cut (byteLength passed) '\r' rest).1.stop) := by
  rw [readStatementEnd?,remainder?_behind]
  by_cases paired : rest.head? = some '\n'
  · obtain ⟨after,rfl⟩ := List.head?_eq_some_iff.mp paired
    exact emit?_over passed ['\r','\n'] after _
  · have lone : ('\r' :: rest)[1]? ≠ some '\n' := by simpa [List.head?_eq_getElem?] using paired
    rw [Piece.cut_carriageReturn paired]
    simp only [Option.bind_eq_bind,Option.bind_some,if_neg lone]
    exact emit?_over passed ['\r'] rest _

theorem readRun?_exact {first later : Char → Bool} {kind : List Char → Kind} {c : Char}
    (passed rest : List Char) (begins : first c = true) :
    readRun? (passed ++ c :: rest) first later kind (byteLength passed) =
      some (⟨kind (c :: rest.takeWhile later),String.ofList (c :: rest.takeWhile later)⟩,
        byteLength passed + byteLength (c :: rest.takeWhile later)) := by
  have run : matched first later (c :: rest) = c :: rest.takeWhile later := by simp [matched,begins]
  have whole : c :: rest = (c :: rest.takeWhile later) ++ rest.dropWhile later := by simp
  rw [readRun?,remainder?_behind]
  simp only [Option.bind_eq_bind,Option.bind_some,run]
  rw [whole]
  exact emit?_over passed _ _ _

theorem closing_width (inside closing : List Char) (stops : ∀ c ∈ closing.head?, isQuote c = true) :
    (if byteLength (inside ++ closing) ≤ byteLength inside then 0 else 1) =
      byteLength (closing.take 1) := by
  cases closing with
  | nil => simp
  | cons d after =>
    obtain rfl : d = '"' := by simpa [isQuote] using stops d rfl
    have beyond : ¬byteLength (inside ++ '"' :: after) ≤ byteLength inside := by
      have size := Char.utf8Size_pos '"'
      rw [byteLength_append,byteLength_cons]
      omega
    rw [if_neg beyond]
    rfl

theorem readString?_over (passed : List Char) {body closing : List Char}
    (free : ∀ c ∈ body, isQuote c = false) (stops : ∀ c ∈ closing.head?, isQuote c = true) :
    readString? (passed ++ '"' :: (body ++ closing)) (byteLength passed) =
      some (⟨.string,String.ofList body⟩,
        byteLength (passed ++ ['"'] ++ body) + byteLength (closing.take 1)) := by
  have behind : passed ++ '"' :: (body ++ closing) = passed ++ ['"'] ++ (body ++ closing) := by simp
  have opened : advance? (passed ++ '"' :: (body ++ closing)) (byteLength passed) 1 =
      some (byteLength (passed ++ ['"'])) := advance?_over passed ['"'] (body ++ closing)
  have searched := (until_bounded free stops).1
  have cut : splitAt? (body ++ closing) (byteLength body) = some (body,closing) :=
    splitAt?_exact.mpr ⟨rfl,rfl⟩
  have whole : passed ++ ['"'] ++ (body ++ closing) =
      passed ++ ['"'] ++ body ++ (closing.take 1 ++ closing.drop 1) := by
    rw [List.take_append_drop,List.append_assoc _ body]
  have width := closing_width (passed ++ ['"'] ++ body) closing stops
  rw [List.append_assoc] at width
  simp only [readString?,Option.bind_eq_bind,opened,Option.bind_some]
  simp only [behind,remainder?_behind,Option.bind_some,searched,cut,advance?_over,width]
  rw [whole,emit?_over]

theorem readString?_exact (passed rest : List Char) :
    readString? (passed ++ '"' :: rest) (byteLength passed) =
      some ((Piece.cut (byteLength passed) '"' rest).1.token,
        (Piece.cut (byteLength passed) '"' rest).1.stop) := by
  have read := readString?_over passed (until_free rest) (until_stop rest)
  rw [List.takeWhile_append_dropWhile] at read
  rw [read,Piece.cut_quote,Piece.stop]
  simp [Nat.add_assoc]

theorem readToken?_exact (passed : List Char) (c : Char) (rest : List Char) :
    readToken? (passed ++ c :: rest) (byteLength passed) c =
      some ((Piece.cut (byteLength passed) c rest).1.token,
        (Piece.cut (byteLength passed) c rest).1.stop) := by
  unfold readToken?
  split
  · subst c
    exact emit?_over passed ['\n'] rest _
  split
  · subst c
    exact readStatementEnd?_exact passed rest
  split
  · rename_i starts
    rw [readRun?_exact passed rest starts,Piece.cut_word starts]
    rfl
  split
  · rename_i digit
    rw [readRun?_exact passed rest digit,Piece.cut_number digit]
    rfl
  split
  · rename_i quote
    obtain rfl : c = '"' := by simpa [isQuote] using quote
    exact readString?_exact passed rest
  · rename_i feed carriage letter digit quote
    have ends : Text.isLineEnd c = false := lineEnd_exact.mpr ⟨feed,carriage⟩
    rw [Piece.cut_mark ends (by simpa using letter) (by simpa using digit) (by simpa using quote),
      Piece.verbatim,Piece.markKind,Piece.stop]
    cases found : Symbol.ofChar? c with
    | some mark =>
      obtain rfl := Symbol.ofChar?_exact.mp found
      simp only [byteLength_ofList]
      exact emit?_over passed [mark.char] rest _
    | none => exact emit?_over passed [c] rest _

theorem read?_exact {source passed : List Char} {cursor : Cursor} (stands : Stands source passed cursor) :
    read? source cursor.offset = some (cursor.next.1,cursor.next.2.offset) := by
  obtain ⟨offset,rest⟩ := cursor
  obtain ⟨whole,place⟩ := stands
  simp only at whole place
  subst whole place
  induction rest generalizing passed with
  | nil =>
    rw [read?,remainder?_behind]
    simp [Cursor.next,Cursor.next?,Cursor.skipBlanks,Cursor.finish]
  | cons c rest ih =>
    rw [read?,remainder?_behind]
    by_cases blank : isBlank c = true
    · have moved : advance? (passed ++ c :: rest) (byteLength passed) 1 = some (byteLength (passed ++ [c])) := by
        rcases blank_cases blank with rfl | rfl
        · exact advance?_over passed [' '] rest
        · exact advance?_over passed ['\t'] rest
      have behind : passed ++ c :: rest = (passed ++ [c]) ++ rest := by simp
      have place : byteLength (passed ++ [c]) = byteLength passed + c.utf8Size := by simp
      simp only [if_pos blank]
      split
      · rename_i stuck
        rw [moved] at stuck
        cases stuck
      · rename_i after again
        rw [moved] at again
        obtain rfl := Option.some.inj again
        rw [Cursor.next_blank blank,← place,behind]
        exact ih
    · simp only [if_neg blank]
      rw [readToken?_exact,Cursor.next,Cursor.next?_visible (by simpa using blank)]

end Sliced

end BasicLex
