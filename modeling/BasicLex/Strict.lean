import BasicLex.Diagnostic
import BasicLex.Log

namespace BasicLex

structure StrictRun where
  events : List Event
  outcome : Except Piece (List Token)

namespace StrictRun

def prepend (piece : Piece) (run : StrictRun) : StrictRun :=
  ⟨Event.ofPiece piece :: run.events,run.outcome.map (piece.token :: ·)⟩

def ofCursor (cursor : Cursor) : StrictRun :=
  match _found : cursor.next? with
  | none => ⟨[.reachedEnd cursor.finish.offset],.ok [Token.eof]⟩
  | some (piece,after) =>
    if piece.token.kind = .unknown then ⟨[Event.ofPiece piece],.error piece⟩
    else (ofCursor after).prepend piece
termination_by cursor.rest.length
decreasing_by exact Cursor.next?_shorter _found

theorem ofCursor_end {cursor : Cursor} (ended : cursor.next? = none) :
    ofCursor cursor = ⟨[.reachedEnd cursor.finish.offset],.ok [Token.eof]⟩ := by
  rw [ofCursor]
  split
  · rfl
  · rename_i found; rw [ended] at found; cases found

theorem ofCursor_step {cursor after : Cursor} {piece : Piece} (found : cursor.next? = some (piece,after)) :
    ofCursor cursor = if piece.token.kind = .unknown then ⟨[Event.ofPiece piece],.error piece⟩
      else (ofCursor after).prepend piece := by
  rw [ofCursor]
  split
  · rename_i ended; rw [ended] at found; cases found
  · rename_i again; rw [found] at again; cases again; rfl

def ofSource (source : String) : StrictRun := ofCursor (.ofSource source)

def report (run : StrictRun) : List Event :=
  match run.outcome with
  | .ok tokens => run.events ++ [.completed tokens.length]
  | .error _ => run.events

end StrictRun

def unnamedSource : String := "shell"

-- The place of a rejected token is found backwards, from where its piece stops.
def rejection (file : String) (piece : Piece) : Diagnostic :=
  ⟨.unrecognisedToken piece.token.lexeme,
    .saturate (piece.stop - piece.token.lexeme.utf8ByteSize) file⟩

def tokenize (source : String) (file : Option String) : Except Diagnostic (List Token) :=
  (StrictRun.ofSource source).outcome.mapError (rejection (file.getD unnamedSource))

end BasicLex
