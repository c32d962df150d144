import BasicLex.Stream

namespace BasicLex

-- One source being read: token by token, or as a stream once the reader has
-- been given up for one.
inductive Slot where
  | reader (cursor : Cursor)
  | stream (cursor : Cursor)
deriving DecidableEq

inductive Operation where
  | next | peek | atEnd | offset | toStream
  | nth (skipped : Nat)
  | take (count : Nat)
  | collect | count | last | untilStatementEnd
deriving DecidableEq

inductive Answer where
  | token (answer : Option Token)
  | character (answer : Option Char)
  | flag (answer : Bool)
  | number (answer : Nat)
  | tokens (answer : List Token)
  | nothing
deriving DecidableEq

structure Reply where
  answer : Answer
  offset : Nat
deriving DecidableEq

namespace Slot

def cursor : Slot → Cursor
  | .reader cursor => cursor
  | .stream cursor => cursor

def perform : Slot → Operation → Option (Answer × Slot)
  | .reader cursor,.next => some (.token (some cursor.next.1),.reader cursor.next.2)
  | .reader cursor,.peek => some (.character cursor.peek,.reader cursor)
  | .reader cursor,.atEnd => some (.flag cursor.atEnd,.reader cursor)
  | .reader cursor,.toStream => some (.nothing,.stream cursor)
  | .stream cursor,.next => some (.token cursor.pull.1,.stream cursor.pull.2)
  | .stream cursor,.nth skipped => some (.token (cursor.nth skipped).1,.stream (cursor.nth skipped).2)
  | .stream cursor,.take count => some (.tokens (cursor.take count).1,.stream (cursor.take count).2)
  | .stream cursor,.collect => some (.tokens cursor.drain.1,.stream cursor.drain.2)
  | .stream cursor,.count => some (.number cursor.drain.1.length,.stream cursor.drain.2)
  | .stream cursor,.last => some (.token cursor.drain.1.getLast?,.stream cursor.drain.2)
  | .stream cursor,.untilStatementEnd =>
    some (.tokens cursor.untilStatementEnd.1,.stream cursor.untilStatementEnd.2)
  | slot,.offset => some (.number slot.cursor.offset,slot)
  | _,_ => none

end Slot

abbrev Session := List Slot

namespace Session

def ofSources (sources : List String) : Session := sources.map fun source => .reader (.ofSource source)

def perform (session : Session) (index : Nat) (operation : Operation) : Option (Reply × Session) := do
  let slot ← session[index]?
  let (answer,after) ← slot.perform operation
  return (⟨answer,after.cursor.offset⟩,session.set index after)

def run : Session → List (Nat × Operation) → Option (List Reply × Session)
  | session,[] => some ([],session)
  | session,(index,operation) :: rest => do
    let (reply,after) ← session.perform index operation
    let (replies,final) ← run after rest
    return (reply :: replies,final)

end Session

end BasicLex
