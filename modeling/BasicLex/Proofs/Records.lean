import BasicLex.Proofs.Progress
import BasicLex.Proofs.Strictness

namespace BasicLex

namespace Event

def ofCall (token : Token) (offset : Nat) : Event :=
  if token.kind = .endOfFile then .reachedEnd offset else .tokenized token offset

def entry (event : Event) : Level × String := (event.level,event.message)

def OfUnknown (event : Event) : Prop := ∃ token stop, event = .tokenized token stop ∧ token.kind = .unknown

end Event

def tokenEntry (stop : Token × Nat) : Level × String :=
  (.trace,"Tokenized: " ++ stop.1.display ++ " ending at " ++ Nat.repr stop.2)

def EndsUnknown (records : List Event) : Prop :=
  ∃ last, records.getLast? = some last ∧ last.OfUnknown

-- The records of reading a text to its end. Each call left one, and the last call was the
-- first that found no token.
structure FullRecords (source : String) (records : List Event) : Prop where
  called : records =
    (Cursor.calls ((Cursor.ofSource source).tokens.length + 1) (.ofSource source)).map
      fun call => .ofCall call.1 call.2.offset
  entries : records.map Event.entry = (Cursor.ofSource source).stops.map tokenEntry ++
    [(.trace,"Reached end of input at " ++ Nat.repr source.utf8ByteSize)]
  rising : ((Cursor.ofSource source).stops.map Prod.snd).Pairwise (· < ·)

structure CutRecords (source : String) (records all : List Event) : Prop where
  begins : records <+: all
  ends : EndsUnknown records
  shortest : ∀ other, other <+: all → EndsUnknown other → records.length ≤ other.length
  first : ∃ known token stop others, (Cursor.ofSource source).stops = known ++ (token,stop) :: others ∧
    (∀ earlier ∈ known, earlier.1.kind ≠ .unknown) ∧ token.kind = .unknown ∧
    records.map Event.entry = (known ++ [(token,stop)]).map tokenEntry
  traces : ∀ record ∈ records, record.level = .trace

namespace Cursor

theorem drainEvents_stops (cursor : Cursor) : cursor.drainEvents =
    (cursor.stops.map fun stop => .tokenized stop.1 stop.2) ++ [.reachedEnd cursor.finish.offset] := by
  rw [drainEvents,pulls_exact,stops,List.map_map,List.map_map]
  rfl

theorem drainEvents_pieces (cursor : Cursor) : cursor.drainEvents =
    cursor.pieces.map Event.ofPiece ++ [.reachedEnd cursor.finish.offset] := by
  rw [drainEvents_stops,stops_pieces,List.map_map]
  rfl

theorem drainEvents_calls (cursor : Cursor) : cursor.drainEvents =
    (calls (cursor.tokens.length + 1) cursor).map fun call => .ofCall call.1 call.2.offset := by
  have called := congrArg (List.map fun stop => Event.ofCall stop.1 stop.2) cursor.calls_stops
  have count : cursor.stops.length = cursor.tokens.length := by
    rw [← stops_tokens,List.length_map]
  rw [List.map_map,count,List.map_append] at called
  rw [drainEvents_stops]
  refine Eq.trans ?_ called.symm
  apply congrArg (· ++ [Event.reachedEnd cursor.finish.offset])
  apply List.map_congr_left
  intro stop member
  have token : stop.1.kind ≠ .endOfFile := by
    apply cursor.tokens_not_eof
    rw [← stops_tokens]
    exact List.mem_map_of_mem member
  rw [Event.ofCall,if_neg token]

theorem drainEvents_entries (cursor : Cursor) : cursor.drainEvents.map Event.entry =
    cursor.stops.map tokenEntry ++
      [(.trace,"Reached end of input at " ++ Nat.repr cursor.finish.offset)] := by
  rw [drainEvents_stops,List.map_append,List.map_map]
  rfl

end Cursor

theorem StrictRun.ofCursor_unknown {cursor : Cursor} {known others : List Piece} {piece : Piece}
    (run : cursor.pieces = known ++ piece :: others)
    (familiar : ∀ earlier ∈ known, earlier.token.kind ≠ .unknown) (strange : piece.token.kind = .unknown) :
    StrictRun.ofCursor cursor = ⟨(known ++ [piece]).map Event.ofPiece,.error piece⟩ := by
  -- Every known token is one more record in front of those of the rest.
  induction known generalizing cursor with
  | nil =>
    obtain ⟨gap,after,read,_⟩ := Cursor.pieces_cons run
    rw [StrictRun.ofCursor_step read.next?,if_pos strange]
    rfl
  | cons first known ih =>
    obtain ⟨familiar_first,familiar⟩ := List.forall_mem_cons.mp familiar
    obtain ⟨gap,after,read,rest⟩ := Cursor.pieces_cons run
    rw [StrictRun.ofCursor_step read.next?,if_neg familiar_first,ih rest familiar]
    rfl

theorem shortest_beginning {α : Type} {p : α → Prop} {before rest other : List α} {value last : α}
    (none : ∀ earlier ∈ before, ¬p earlier) (begins : other <+: before ++ value :: rest)
    (final : other.getLast? = some last) (member : p last) : before.length < other.length := by
  apply Nat.lt_of_not_le
  intro short
  have inside : other <+: before :=
    List.prefix_of_prefix_length_le begins (List.prefix_append before (value :: rest)) short
  exact none last (inside.subset (List.mem_of_getLast? final)) member

theorem fullRecords (source : String) : FullRecords source (Cursor.ofSource source).drainEvents := by
  have size : (Cursor.ofSource source).finish.offset = source.utf8ByteSize := by
    rw [← Text.byteLength_toList]
    exact Nat.zero_add _
  have entries := (Cursor.ofSource source).drainEvents_entries
  rw [size] at entries
  exact ⟨Cursor.drainEvents_calls _,entries,Cursor.stops_rising _⟩

theorem cutRecords {source : String} {known others : List Piece} {piece : Piece}
    (run : (Cursor.ofSource source).pieces = known ++ piece :: others)
    (familiar : ∀ earlier ∈ known, earlier.token.kind ≠ .unknown) (strange : piece.token.kind = .unknown) :
    CutRecords source (StrictRun.ofSource source).report (Cursor.ofSource source).drainEvents := by
  have records : (StrictRun.ofSource source).report = known.map Event.ofPiece ++ [Event.ofPiece piece] := by
    rw [StrictRun.report,StrictRun.ofSource,StrictRun.ofCursor_unknown run familiar strange]
    simp
  have all : (Cursor.ofSource source).drainEvents = known.map Event.ofPiece ++ Event.ofPiece piece ::
      (others.map Event.ofPiece ++ [.reachedEnd (Cursor.ofSource source).finish.offset]) := by
    rw [Cursor.drainEvents_pieces,run]
    simp
  have plain : ∀ record ∈ known.map Event.ofPiece, ¬record.OfUnknown := by
    rintro record member ⟨token,stop,same,unknown⟩
    obtain ⟨earlier,inside,rfl⟩ := List.mem_map.mp member
    cases same
    exact familiar earlier inside unknown
  rw [records,all]
  refine ⟨?_,?_,?_,?_,?_⟩
  · exact ⟨_,List.append_assoc _ _ _⟩
  · exact ⟨_,List.getLast?_concat,piece.token,piece.stop,rfl,strange⟩
  · rintro other begins ⟨last,final,unknown⟩
    rw [List.length_append]
    exact shortest_beginning plain begins final unknown
  · refine ⟨known.map fun earlier => (earlier.token,earlier.stop),piece.token,piece.stop,
      others.map fun later => (later.token,later.stop),?_,?_,strange,?_⟩
    · rw [Cursor.stops_pieces,run,List.map_append,List.map_cons]
    · exact List.forall_mem_map.mpr familiar
    · simp only [List.map_append,List.map_map]
      rfl
  · intro record member
    rw [← List.map_singleton,← List.map_append] at member
    obtain ⟨piece,_,rfl⟩ := List.mem_map.mp member
    rfl

-- A strict reading leaves the records of a lazy one, up to the first unknown token if there
-- is one, and else with a count of them all at the end.
theorem records_agree (source : String) :
    let all := (Cursor.ofSource source).drainEvents
    let strict := (StrictRun.ofSource source).report
    FullRecords source all ∧
    (((∀ token ∈ (Cursor.ofSource source).tokens, token.kind ≠ .unknown) ∧
        strict = all ++ [.completed all.length] ∧
        strict.map Event.entry = all.map Event.entry ++
          [(.debug,"Tokenization complete. Total tokens: " ++ Nat.repr all.length)] ∧
        ∃ tokens, tokenize source none = .ok tokens ∧ tokens.length = all.length) ∨
      ((∃ token ∈ (Cursor.ofSource source).tokens, token.kind = .unknown) ∧
        CutRecords source strict all)) := by
  intro all strict
  refine ⟨fullRecords source,?_⟩
  cases search : (Cursor.ofSource source).pieces.find? fun piece => piece.token.is .unknown with
  | none =>
    left
    have known : ∀ token ∈ (Cursor.ofSource source).tokens, token.kind ≠ .unknown := by
      intro token member
      obtain ⟨piece,inside,rfl⟩ := List.mem_map.mp member
      simpa [Token.is] using List.find?_eq_none.mp search piece inside
    have read := StrictRun.ofCursor_known known
    have count : ((Cursor.ofSource source).tokens ++ [Token.eof]).length = all.length := by
      simp [all,Cursor.drainEvents_pieces,Cursor.tokens]
    have report : strict = all ++ [.completed all.length] := by
      rw [← count]
      simp only [strict,StrictRun.ofSource,StrictRun.report,read]
      rfl
    refine ⟨known,report,?_,_,tokenize_known none known,count⟩
    rw [report,List.map_append]
    rfl
  | some piece =>
    right
    obtain ⟨found,known,others,run,familiar⟩ := List.find?_eq_some_iff_append.mp search
    have strange : piece.token.kind = .unknown := Token.is_exact.mp found
    have earlier_known : ∀ earlier ∈ known, earlier.token.kind ≠ .unknown := by
      intro earlier member
      simpa [Token.is] using familiar earlier member
    refine ⟨⟨piece.token,?_,strange⟩,cutRecords run earlier_known strange⟩
    rw [Cursor.tokens,run]
    simp

end BasicLex
