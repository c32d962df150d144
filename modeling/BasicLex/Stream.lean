import BasicLex.Cursor

namespace BasicLex.Cursor

-- Reading as a stream withholds the end marker. A stream has no state besides
-- its cursor, so a drained one stays drained.
def pull (cursor : Cursor) : Option Token × Cursor :=
  match cursor.next? with
  | some (piece,after) => (some piece.token,after)
  | none => (none,cursor.finish)

theorem pull_end {cursor : Cursor} (ended : cursor.next? = none) : cursor.pull = (none,cursor.finish) := by
  rw [pull,ended]

theorem pull_step {cursor after : Cursor} {piece : Piece} (found : cursor.next? = some (piece,after)) :
    cursor.pull = (some piece.token,after) := by
  rw [pull,found]

theorem pull_shorter {cursor after : Cursor} {token : Token} (pulled : cursor.pull = (some token,after)) :
    after.rest.length < cursor.rest.length := by
  unfold pull at pulled
  split at pulled
  · rename_i found
    cases pulled
    exact next?_shorter found
  · cases pulled

def take : Nat → Cursor → List Token × Cursor
  | 0,cursor => ([],cursor)
  | count + 1,cursor =>
    match cursor.pull with
    | (some token,after) => (token :: (take count after).1,(take count after).2)
    | (none,after) => ([],after)

def nth (skipped : Nat) (cursor : Cursor) : Option Token × Cursor := (take skipped cursor).2.pull

-- All pulls up to the first that gives nothing, and where that one leaves the stream.
def pulls (cursor : Cursor) : List (Token × Cursor) × Cursor :=
  match _pulled : cursor.pull with
  | (some token,after) => ((token,after) :: after.pulls.1,after.pulls.2)
  | (none,after) => ([],after)
termination_by cursor.rest.length
decreasing_by all_goals exact pull_shorter _pulled

theorem pulls_end {cursor after : Cursor} (pulled : cursor.pull = (none,after)) : cursor.pulls = ([],after) := by
  rw [pulls]
  split
  · rename_i again; rw [pulled] at again; cases again
  · rename_i again; rw [pulled] at again; cases again; rfl

theorem pulls_step {cursor after : Cursor} {token : Token} (pulled : cursor.pull = (some token,after)) :
    cursor.pulls = ((token,after) :: after.pulls.1,after.pulls.2) := by
  rw [pulls]
  split
  · rename_i again; rw [pulled] at again; cases again; rfl
  · rename_i again; rw [pulled] at again; cases again

theorem pulls_exact (cursor : Cursor) : cursor.pulls =
    (cursor.steps.map fun step => (step.1.token,step.2),cursor.finish) := by
  induction cursor using run_induction with
  | ended cursor ended =>
    rw [pulls_end (pull_end ended),steps_end ended]
    rfl
  | step cursor piece after found ih =>
    rw [pulls_step (pull_step found),ih,steps_step found,finish_after found]
    rfl

def drain (cursor : Cursor) : List Token × Cursor := (cursor.pulls.1.map Prod.fst,cursor.pulls.2)

theorem drain_exact (cursor : Cursor) : cursor.drain = (cursor.tokens,cursor.finish) := by
  rw [drain,pulls_exact,tokens,pieces,List.map_map,List.map_map]
  rfl

def untilStatementEnd (cursor : Cursor) : List Token × Cursor :=
  match _pulled : cursor.pull with
  | (none,after) => ([],after)
  | (some token,after) =>
    if token.kind = .endOfStatement then ([],after)
    else (token :: after.untilStatementEnd.1,after.untilStatementEnd.2)
termination_by cursor.rest.length
decreasing_by all_goals exact pull_shorter _pulled

theorem untilStatementEnd_end {cursor after : Cursor} (pulled : cursor.pull = (none,after)) :
    cursor.untilStatementEnd = ([],after) := by
  rw [untilStatementEnd]
  split
  · rename_i again; rw [pulled] at again; cases again; rfl
  · rename_i again; rw [pulled] at again; cases again

theorem untilStatementEnd_step {cursor after : Cursor} {token : Token}
    (pulled : cursor.pull = (some token,after)) :
    cursor.untilStatementEnd = if token.kind = .endOfStatement then ([],after)
      else (token :: after.untilStatementEnd.1,after.untilStatementEnd.2) := by
  rw [untilStatementEnd]
  split
  · rename_i again; rw [pulled] at again; cases again
  · rename_i again; rw [pulled] at again; cases again; rfl

end BasicLex.Cursor
