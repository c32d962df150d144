import BasicLex.Stream

namespace BasicLex

inductive Level where
  | trace | debug
deriving DecidableEq

def Level.name : Level → String
  | .trace => "trace"
  | .debug => "debug"

inductive Event where
  | tokenized (token : Token) (stop : Nat)
  | reachedEnd (offset : Nat)
  | completed (count : Nat)
deriving DecidableEq

namespace Event

def level : Event → Level
  | .completed _ => .debug
  | _ => .trace

def message : Event → String
  | .tokenized token stop => "Tokenized: " ++ token.display ++ " ending at " ++ Nat.repr stop
  | .reachedEnd offset => "Reached end of input at " ++ Nat.repr offset
  | .completed count => "Tokenization complete. Total tokens: " ++ Nat.repr count

def ofPiece (piece : Piece) : Event := .tokenized piece.token piece.stop

end Event

namespace Cursor

def drainEvents (cursor : Cursor) : List Event :=
  (cursor.pulls.1.map fun pulled => .tokenized pulled.1 pulled.2.offset) ++
    [.reachedEnd cursor.pulls.2.offset]

theorem drainEvents_end {cursor : Cursor} (ended : cursor.next? = none) :
    cursor.drainEvents = [.reachedEnd cursor.finish.offset] := by
  rw [drainEvents,pulls_end (pull_end ended)]
  rfl

theorem drainEvents_step {cursor after : Cursor} {piece : Piece}
    (found : cursor.next? = some (piece,after)) :
    cursor.drainEvents = Event.ofPiece piece :: after.drainEvents := by
  obtain ⟨_,_,_,_,stop⟩ := next?_exact.mp found
  rw [drainEvents,pulls_step (pull_step found),List.map_cons,stop]
  rfl

end Cursor

end BasicLex
