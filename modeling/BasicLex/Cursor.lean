import BasicLex.Piece

namespace BasicLex

-- A place in a source: how many bytes lie before it and which characters lie
-- after it. The source itself is not kept, so whatever a cursor answers later
-- depends on the remaining text and on the offset alone.
structure Cursor where
  offset : Nat
  rest : List Char
deriving DecidableEq

namespace Cursor

def ofSource (source : String) : Cursor := ⟨0,source.toList⟩

def atEnd (cursor : Cursor) : Bool := cursor.rest.isEmpty

def peek (cursor : Cursor) : Option Char := cursor.rest[1]?

def finish (cursor : Cursor) : Cursor := ⟨cursor.offset + Text.byteLength cursor.rest,[]⟩

def skipBlanks (cursor : Cursor) : Cursor :=
  ⟨cursor.offset + Text.byteLength (cursor.rest.takeWhile isBlank),cursor.rest.dropWhile isBlank⟩

def next? (cursor : Cursor) : Option (Piece × Cursor) :=
  match cursor.skipBlanks.rest with
  | [] => none
  | c :: rest =>
    let cut := Piece.cut cursor.skipBlanks.offset c rest
    some (cut.1,⟨cut.1.stop,cut.2⟩)

-- Total reading: past the last token every call answers the end marker, and
-- the first such call also passes over the trailing blanks.
def next (cursor : Cursor) : Token × Cursor :=
  match cursor.next? with
  | some (piece,after) => (piece.token,after)
  | none => (Token.eof,cursor.finish)

theorem next?_exact {cursor after : Cursor} {piece : Piece} :
    cursor.next? = some (piece,after) ↔ ∃ c rest, cursor.skipBlanks.rest = c :: rest ∧
      Piece.cut cursor.skipBlanks.offset c rest = (piece,after.rest) ∧ after.offset = piece.stop := by
  unfold next?
  rcases after with ⟨offset,tail⟩
  cases left : cursor.skipBlanks.rest with
  | nil => simp
  | cons c rest =>
    simp only [Option.some.injEq,Prod.mk.injEq,mk.injEq,List.cons.injEq]
    constructor
    · rintro ⟨rfl,rfl,rfl⟩; exact ⟨c,rest,⟨rfl,rfl⟩,rfl,rfl⟩
    · rintro ⟨_,_,⟨rfl,rfl⟩,cut,rfl⟩; rw [cut]; exact ⟨rfl,rfl,rfl⟩

theorem next?_none {cursor : Cursor} : cursor.next? = none ↔ cursor.skipBlanks.rest = [] := by
  unfold next?
  cases cursor.skipBlanks.rest <;> simp

theorem skipBlanks_rest_length (cursor : Cursor) : cursor.skipBlanks.rest.length ≤ cursor.rest.length :=
  (List.dropWhile_suffix isBlank).length_le

theorem next?_shorter {cursor after : Cursor} {piece : Piece}
    (found : cursor.next? = some (piece,after)) : after.rest.length < cursor.rest.length := by
  obtain ⟨c,rest,left,cut,_⟩ := next?_exact.mp found
  have skipped := cursor.skipBlanks_rest_length
  have shorter := Piece.cut_shorter cursor.skipBlanks.offset c rest
  rw [left,List.length_cons] at skipped
  rw [cut] at shorter
  exact Nat.lt_of_lt_of_le (Nat.lt_succ_of_le shorter) skipped

theorem run_induction {motive : Cursor → Prop}
    (ended : ∀ cursor, cursor.next? = none → motive cursor)
    (step : ∀ cursor piece after, cursor.next? = some (piece,after) → motive after → motive cursor)
    (cursor : Cursor) : motive cursor := by
  cases found : cursor.next? with
  | none => exact ended cursor found
  | some pair =>
    obtain ⟨piece,after⟩ := pair
    exact step cursor piece after found (run_induction ended step after)
termination_by cursor.rest.length
decreasing_by exact next?_shorter found

theorem finish_skipBlanks (cursor : Cursor) : cursor.skipBlanks.finish = cursor.finish := by
  have whole : cursor.rest.takeWhile isBlank ++ cursor.rest.dropWhile isBlank = cursor.rest :=
    List.takeWhile_append_dropWhile
  have bytes := congrArg Text.byteLength whole
  rw [Text.byteLength_append] at bytes
  rw [finish,finish,skipBlanks,← bytes,Nat.add_assoc]

theorem finish_after {cursor after : Cursor} {piece : Piece}
    (found : cursor.next? = some (piece,after)) : after.finish = cursor.finish := by
  obtain ⟨c,rest,left,cut,stop⟩ := next?_exact.mp found
  have whole := Piece.cut_lossless cursor.skipBlanks.offset c rest
  have begins := Piece.cut_start cursor.skipBlanks.offset c rest
  rw [cut] at whole begins
  rw [← cursor.finish_skipBlanks,finish,finish,left,← whole,stop,Piece.stop,begins,Text.byteLength_append,
    Nat.add_assoc]

theorem finish_next? (cursor : Cursor) : cursor.finish.next? = none :=
  next?_none.mpr rfl

theorem finish_finish (cursor : Cursor) : cursor.finish.finish = cursor.finish := rfl

def steps (cursor : Cursor) : List (Piece × Cursor) :=
  match _found : cursor.next? with
  | none => []
  | some (piece,after) => (piece,after) :: after.steps
termination_by cursor.rest.length
decreasing_by exact next?_shorter _found

theorem steps_end {cursor : Cursor} (ended : cursor.next? = none) : cursor.steps = [] := by
  rw [steps]
  split
  · rfl
  · rename_i found; rw [ended] at found; cases found

theorem steps_step {cursor after : Cursor} {piece : Piece} (found : cursor.next? = some (piece,after)) :
    cursor.steps = (piece,after) :: after.steps := by
  rw [steps]
  split
  · rename_i ended; rw [ended] at found; cases found
  · rename_i again; rw [found] at again; cases again; rfl

def pieces (cursor : Cursor) : List Piece := cursor.steps.map Prod.fst

theorem pieces_end {cursor : Cursor} (ended : cursor.next? = none) : cursor.pieces = [] := by
  rw [pieces,steps_end ended]
  rfl

theorem pieces_step {cursor after : Cursor} {piece : Piece} (found : cursor.next? = some (piece,after)) :
    cursor.pieces = piece :: after.pieces := by
  rw [pieces,steps_step found]
  rfl

def tokens (cursor : Cursor) : List Token := cursor.pieces.map Piece.token

theorem tokens_end {cursor : Cursor} (ended : cursor.next? = none) : cursor.tokens = [] := by
  rw [tokens,pieces_end ended]
  rfl

theorem tokens_step {cursor after : Cursor} {piece : Piece} (found : cursor.next? = some (piece,after)) :
    cursor.tokens = piece.token :: after.tokens := by
  rw [tokens,pieces_step found]
  rfl

def calls : Nat → Cursor → List (Token × Cursor)
  | 0,_ => []
  | count + 1,cursor => cursor.next :: calls count cursor.next.2

end Cursor

end BasicLex
