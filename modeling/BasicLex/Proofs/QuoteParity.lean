import BasicLex.Proofs.Slices

namespace BasicLex
open Text

def quotes (text : List Char) : Nat := text.count '"'

-- A string that is never closed: from its opening quote on, the source holds the text of the
-- string and nothing else.
def Unterminated (source : String) (piece : Piece) : Prop :=
  piece.token.kind = .string ∧ ∃ passed,
    source.toList = passed ++ '"' :: piece.token.lexeme.toList ∧ byteLength passed = piece.start

theorem quotes_append (left right : List Char) : quotes (left ++ right) = quotes left + quotes right :=
  List.count_append

theorem quotes_free {text : List Char} (free : ∀ c ∈ text, isQuote c = false) : quotes text = 0 := by
  apply List.count_eq_zero.mpr
  intro member
  exact absurd (free '"' member) (by decide)

theorem quotes_class {p : Char → Bool} {text : List Char} (other : p '"' = false)
    (all : ∀ c ∈ text, p c = true) : quotes text = 0 := by
  apply List.count_eq_zero.mpr
  intro member
  have quoted := all '"' member
  rw [other] at quoted
  cases quoted

theorem Spells.quotes {token : Token} {spelling : List Char} (spelled : Spells token spelling) :
    quotes spelling = if token.kind = .string then 2 else 0 := by
  cases spelled with
  | number written all => exact quotes_class (by decide) all
  | identifier starts parts free =>
    exact quotes_class (by decide) (List.forall_mem_cons.mpr ⟨isWordStart_part starts,parts⟩)
  | keyword starts parts reserved =>
    exact quotes_class (by decide) (List.forall_mem_cons.mpr ⟨isWordStart_part starts,parts⟩)
  | @string body inside =>
    have split : '"' :: (body ++ ['"']) = ['"'] ++ (body ++ ['"']) := rfl
    rw [split,quotes_append,quotes_append,quotes_free inside]
    rfl
  | symbol mark => cases mark <;> decide
  | @unknown c strange =>
    obtain ⟨_,_,_,_,other,_⟩ := unrecognised_exact.mp strange
    exact quotes_free (by simpa using other)
  | lineFeed => decide
  | carriageReturn => decide
  | pair => decide

theorem SpellsOpen.quotes {token : Token} {spelling : List Char} (opened : SpellsOpen token spelling) :
    token.kind = .string ∧ quotes spelling = 1 := by
  obtain ⟨body,inside,rfl,rfl⟩ := opened
  refine ⟨rfl,?_⟩
  have split : '"' :: body = ['"'] ++ body := rfl
  rw [split,quotes_append,quotes_free inside]
  rfl

theorem Reads.quotes {cursor after : Cursor} {gap : List Char} {piece : Piece}
    (read : Reads cursor gap piece after) :
    quotes cursor.rest = BasicLex.quotes piece.spelling + BasicLex.quotes after.rest := by
  rw [read.text,quotes_append,quotes_append,quotes_class (by decide) read.blank,Nat.zero_add]

namespace Cursor

def strings (cursor : Cursor) : Nat := cursor.tokens.countP fun token => token.is .string

theorem strings_end {cursor : Cursor} (ended : cursor.next? = none) : cursor.strings = 0 := by
  rw [strings,tokens_end ended]
  rfl

theorem strings_step {cursor after : Cursor} {piece : Piece} (found : cursor.next? = some (piece,after)) :
    cursor.strings = after.strings + if piece.token.kind = .string then 1 else 0 := by
  rw [strings,tokens_step found,List.countP_cons]
  simp only [Token.is_exact]
  rfl

def Paired (cursor : Cursor) : Prop :=
  quotes cursor.rest = 2 * cursor.strings ∧ ∀ piece ∈ cursor.pieces, Spells piece.token piece.spelling

def Unpaired (cursor : Cursor) : Prop :=
  quotes cursor.rest + 1 = 2 * cursor.strings ∧ ∃ earlier last, cursor.pieces = earlier ++ [last] ∧
    (∀ piece ∈ earlier, Spells piece.token piece.spelling) ∧ SpellsOpen last.token last.spelling

theorem Paired.before {cursor after : Cursor} {gap : List Char} {piece : Piece} (paired : after.Paired)
    (read : Reads cursor gap piece after) (closed : Spells piece.token piece.spelling) : cursor.Paired := by
  obtain ⟨count,all⟩ := paired
  constructor
  · rw [read.quotes,closed.quotes,strings_step read.next?,count]
    split <;> omega
  · rw [pieces_step read.next?]
    exact List.forall_mem_cons.mpr ⟨closed,all⟩

theorem Unpaired.before {cursor after : Cursor} {gap : List Char} {piece : Piece} (unpaired : after.Unpaired)
    (read : Reads cursor gap piece after) (closed : Spells piece.token piece.spelling) : cursor.Unpaired := by
  obtain ⟨count,earlier,last,split,all,opened⟩ := unpaired
  refine ⟨?_,piece :: earlier,last,?_,List.forall_mem_cons.mpr ⟨closed,all⟩,opened⟩
  · rw [read.quotes,closed.quotes,strings_step read.next?,Nat.add_assoc,count]
    split <;> omega
  · rw [pieces_step read.next?,split]
    rfl

theorem Unpaired.opened {cursor after : Cursor} {gap : List Char} {piece : Piece}
    (read : Reads cursor gap piece after) (opened : SpellsOpen piece.token piece.spelling)
    (rest : after.rest = []) : cursor.Unpaired := by
  have ended : after.next? = none := by
    rw [next?_none,skipBlanks,rest]
    rfl
  obtain ⟨string,one⟩ := opened.quotes
  refine ⟨?_,[],piece,?_,by simp,opened⟩
  · rw [read.quotes,one,rest,strings_step read.next?,strings_end ended,if_pos string]
    rfl
  · rw [pieces_step read.next?,pieces_end ended]
    rfl

theorem paired_cases (cursor : Cursor) : cursor.Paired ∨ cursor.Unpaired := by
  induction cursor using run_induction with
  | ended cursor ended =>
    left
    have blank : IsGap cursor.rest := List.dropWhile_eq_nil_iff.mp (next?_none.mp ended)
    refine ⟨?_,by simp [pieces_end ended]⟩
    rw [quotes_class (by decide) blank,strings_end ended]
  | step cursor piece after found ih =>
    have read := next?_sound found
    cases read.spelled with
    | inl closed => exact ih.imp (·.before read closed) (·.before read closed)
    | inr opened => exact .inr (.opened read opened.1 opened.2)

end Cursor

theorem Stands.placed {text passed : List Char} {cursor : Cursor} (stands : Stands text passed cursor) :
    ∀ piece ∈ cursor.pieces, ∃ before after, text = before ++ (piece.spelling ++ after) ∧
      piece.start = byteLength before ∧
      (Spells piece.token piece.spelling ∨ (SpellsOpen piece.token piece.spelling ∧ after = [])) := by
  induction cursor using Cursor.run_induction generalizing passed with
  | ended cursor ended => simp [Cursor.pieces_end ended]
  | step cursor piece after found ih =>
    have read := Cursor.next?_sound found
    rw [Cursor.pieces_step found]
    refine List.forall_mem_cons.mpr ⟨?_,ih (stands.step read)⟩
    obtain ⟨whole,start⟩ := stands.piece read
    exact ⟨_,after.rest,whole,start,read.spelled⟩

theorem Spells.closing {token : Token} {spelling : List Char} (spelled : Spells token spelling)
    (string : token.kind = .string) : spelling = '"' :: (token.lexeme.toList ++ ['"']) := by
  cases spelled with
  | @string body inside => rw [String.toList_ofList]
  | _ => cases string

theorem SpellsOpen.not_closed {token : Token} {spelling : List Char} (opened : SpellsOpen token spelling) :
    ¬Spells token spelling := by
  intro closed
  have two := closed.quotes
  rw [if_pos opened.quotes.1,opened.quotes.2] at two
  cases two

theorem SpellsOpen.at_end {source : String} {piece : Piece} (opened : SpellsOpen piece.token piece.spelling)
    (member : piece ∈ (Cursor.ofSource source).pieces) :
    ∃ before, source.toList = before ++ piece.spelling ∧ piece.start = byteLength before := by
  obtain ⟨before,after,whole,start,spelled⟩ := (Stands.ofSource source).placed piece member
  obtain ⟨_,ended⟩ := spelled.resolve_left opened.not_closed
  rw [ended,List.append_nil] at whole
  exact ⟨before,whole,start⟩

theorem unterminated_exact {source : String} {piece : Piece} (member : piece ∈ (Cursor.ofSource source).pieces) :
    Unterminated source piece ↔ SpellsOpen piece.token piece.spelling := by
  constructor
  · rintro ⟨string,passed,tail,place⟩
    obtain ⟨before,after,whole,start,spelled⟩ := (Stands.ofSource source).placed piece member
    cases spelled with
    | inr opened => exact opened.1
    | inl closed =>
      -- Both are cuts at the start of the token, and only one has room for a closing quote.
      have here := splitAt?_exact.mpr ⟨whole,start.symm⟩
      rw [splitAt?_exact.mpr ⟨tail,place⟩,closed.closing string] at here
      have lengths := congrArg List.length (Prod.mk.inj (Option.some.inj here)).2
      simp only [List.length_append,List.length_cons] at lengths
      omega
  · intro opened
    obtain ⟨before,whole,start⟩ := opened.at_end member
    refine ⟨opened.quotes.1,before,?_,start.symm⟩
    obtain ⟨body,inside,token,spelling⟩ := opened
    rw [whole,spelling,token,String.toList_ofList]

theorem Cursor.Unpaired.calls {source : String} (unpaired : (ofSource source).Unpaired) :
    ∃ earlier last, (ofSource source).pieces = earlier ++ [last] ∧ Unterminated source last ∧
      (∀ piece ∈ earlier, ¬Unterminated source piece) ∧
      (Cursor.calls (earlier.length + 2) (ofSource source)).map (fun call => (call.1,call.2.offset)) =
        earlier.map (fun piece => (piece.token,piece.stop)) ++
          [(last.token,source.utf8ByteSize),(Token.eof,source.utf8ByteSize)] := by
  obtain ⟨_,earlier,last,split,closed,opened⟩ := unpaired
  have size : (ofSource source).finish.offset = source.utf8ByteSize := by
    rw [← byteLength_toList]
    exact Nat.zero_add _
  have final : last ∈ (ofSource source).pieces := by simp [split]
  have stop : last.stop = source.utf8ByteSize := by
    obtain ⟨before,whole,start⟩ := opened.at_end final
    rw [Piece.stop,start,← byteLength_append,← whole,byteLength_toList]
  refine ⟨earlier,last,split,(unterminated_exact final).mpr opened,?_,?_⟩
  · intro piece member tail
    have inside : piece ∈ (ofSource source).pieces := by simp [split,member]
    exact ((unterminated_exact inside).mp tail).not_closed (closed piece member)
  · have called := (ofSource source).calls_stops
    rw [stops_pieces,split,size] at called
    simpa [stop] using called

theorem quote_parity (source : String) :
    let cursor := Cursor.ofSource source
    (cursor.tokens.countP fun token => token.is .string) = (quotes source.toList + 1) / 2 ∧
    ((∃ piece ∈ cursor.pieces, Unterminated source piece) ↔ quotes source.toList % 2 = 1) ∧
    (quotes source.toList % 2 = 1 →
      ∃ earlier last, cursor.pieces = earlier ++ [last] ∧ Unterminated source last ∧
        (∀ piece ∈ earlier, ¬Unterminated source piece) ∧
        (Cursor.calls (earlier.length + 2) cursor).map (fun call => (call.1,call.2.offset)) =
          earlier.map (fun piece => (piece.token,piece.stop)) ++
            [(last.token,source.utf8ByteSize),(Token.eof,source.utf8ByteSize)]) := by
  intro cursor
  have text : cursor.rest = source.toList := rfl
  cases cursor.paired_cases with
  | inl paired =>
    obtain ⟨count,closed⟩ := paired
    rw [text,Cursor.strings] at count
    have none : ¬∃ piece ∈ cursor.pieces, Unterminated source piece := by
      rintro ⟨piece,member,tail⟩
      exact ((unterminated_exact member).mp tail).not_closed (closed piece member)
    exact ⟨by omega,iff_of_false none (by omega),fun odd => by omega⟩
  | inr unpaired =>
    have count := unpaired.1
    rw [text,Cursor.strings] at count
    obtain ⟨earlier,last,split,tail,closed,called⟩ := unpaired.calls
    have member : last ∈ cursor.pieces := by simp [cursor,split]
    exact ⟨by omega,iff_of_true ⟨last,member,tail⟩ (by omega),
      fun _ => ⟨earlier,last,split,tail,closed,called⟩⟩

theorem quote_parity_left_over :
    let source := "\"é\"#\"\" \""
    let cursor := Cursor.ofSource source
    quotes source.toList % 2 = 1 ∧ (cursor.tokens.countP fun token => token.is .string) = 3 ∧
      ∃ earlier last, cursor.pieces = earlier ++ [last] ∧ Unterminated source last ∧
        (∀ piece ∈ earlier, ¬Unterminated source piece) ∧
        (Cursor.calls (earlier.length + 2) cursor).map (fun call => (call.1,call.2.offset)) =
          earlier.map (fun piece => (piece.token,piece.stop)) ++ [(last.token,9),(Token.eof,9)] := by
  intro source cursor
  have count : quotes source.toList = 5 := by decide +kernel
  have size : source.utf8ByteSize = 9 := by decide +kernel
  obtain ⟨strings,_,left_over⟩ := quote_parity source
  rw [count] at strings left_over
  rw [size] at left_over
  exact ⟨by rw [count],strings,left_over rfl⟩

end BasicLex
