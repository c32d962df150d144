import BasicLex.Proofs.LineTable
import BasicLex.Proofs.Progress

namespace BasicLex
open Text

namespace Text

-- A line feed always ends a line. A carriage return leaves it to a line feed that
-- stands right behind it.
def lineEnds : List Char → Nat
  | [] => 0
  | c :: rest => (if c = '\n' ∨ (c = '\r' ∧ rest.head? ≠ some '\n') then 1 else 0) + lineEnds rest

theorem lineEnds_cons (c : Char) (rest : List Char) : lineEnds (c :: rest) =
    (if c = '\n' ∨ (c = '\r' ∧ rest.head? ≠ some '\n') then 1 else 0) + lineEnds rest := rfl

def Apart (above rest : List Char) : Prop := above.getLast? = some '\r' → rest.head? ≠ some '\n'

theorem Breaks.apart {above rest : List Char} (breaks : Breaks above rest) : Apart above rest :=
  fun last => (breaks '\r' last).2 rfl

theorem Apart.of_absent {above : List Char} (rest : List Char) (absent : '\r' ∉ above) :
    Apart above rest := fun last => absurd (List.mem_of_getLast? last) absent

theorem Apart.suffix {above more rest : List Char} (apart : Apart (above ++ more) rest) :
    Apart more rest := by
  intro last
  apply apart
  simp [List.getLast?_append,last]

theorem lineEnds_append {left right : List Char} (apart : Apart left right) :
    lineEnds (left ++ right) = lineEnds left + lineEnds right := by
  induction left with
  | nil => simp [lineEnds]
  | cons c left ih =>
    have behind : Apart ([c] ++ left) right := apart
    have rest := ih behind.suffix
    cases left with
    | nil =>
      -- Only here does what follows decide whether the carriage return counts.
      by_cases carriage : c = '\r'
      · subst c
        simp [lineEnds,apart rfl]
      · simp [lineEnds,carriage]
    | cons d left =>
      have first : (d :: left ++ right).head? = (d :: left).head? := rfl
      rw [List.cons_append,lineEnds_cons c,lineEnds_cons c,first,rest,Nat.add_assoc]

theorem lineEnds_plain {body : List Char} (inner : ∀ c ∈ body, isLineEnd c = false) : lineEnds body = 0 := by
  induction body with
  | nil => rfl
  | cons c body ih =>
    obtain ⟨plain,inner⟩ := List.forall_mem_cons.mp inner
    obtain ⟨feed,carriage⟩ := lineEnd_exact.mp plain
    simp [lineEnds,feed,carriage,ih inner]

theorem IsTerminator.lineEnds_one {terminator : List Char} (ends : IsTerminator terminator) :
    lineEnds terminator = 1 := by
  rcases ends with rfl | rfl | rfl <;> rfl

theorem lines_first (body : List Char) {rest : List Char} (inner : ∀ c ∈ body, isLineEnd c = false)
    (some_left : rest ≠ []) :
    ∃ line later, lines (body ++ rest) = line :: later ∧ byteLength body < line.byteLength := by
  have bytes {more : List Char} (some_more : more ≠ []) : byteLength body < byteLength (body ++ more) := by
    have size : byteLength more ≠ 0 := fun none => some_more (byteLength_zero.mp none)
    rw [byteLength_append]
    omega
  rcases line_cases rest with plain | ⟨more,terminator,after,rfl,plain,ends,breaks⟩
  · have whole : ∀ c ∈ body ++ rest, isLineEnd c = false := List.forall_mem_append.mpr ⟨inner,plain⟩
    refine ⟨⟨body ++ rest,[]⟩,[],lines_plain whole (by simp [some_left]),?_⟩
    simpa [Line.byteLength,Line.chars] using bytes some_left
  · have whole : ∀ c ∈ body ++ more, isLineEnd c = false := List.forall_mem_append.mpr ⟨inner,plain⟩
    refine ⟨⟨body ++ more,terminator⟩,lines after,?_,?_⟩
    · rw [← List.append_assoc]
      exact lines_ended whole ends breaks
    · rw [Line.byteLength,Line.chars,List.append_assoc]
      exact bytes (by simp [ends.nonempty])

theorem locateIn_number (number : Nat) {before rest : List Char} (apart : Apart before rest)
    (some_left : rest ≠ []) :
    ∃ location, locateIn number (lines (before ++ rest)) (byteLength before) = some location ∧
      location.number = number + lineEnds before := by
  -- Line by line; the last line before the place goes on behind it.
  induction before using lines_induction generalizing number with
  | plain body inner =>
    obtain ⟨line,later,cut,reached⟩ := lines_first body inner some_left
    refine ⟨_,by rw [cut,locateIn,if_pos reached],?_⟩
    simp [lineEnds_plain inner]
  | ended body terminator after inner ends breaks ih =>
    have later : Apart (terminator ++ after) rest := apart.suffix
    have breaks_on : Breaks terminator (after ++ rest) := by
      cases after with
      | nil =>
        intro c last
        refine ⟨(breaks c last).1,?_⟩
        rintro rfl
        exact later (by simpa using last)
      | cons c after => exact breaks
    obtain ⟨location,found,counted⟩ := ih (number + 1) later.suffix
    have whole : lineEnds (body ++ (terminator ++ after)) = 1 + lineEnds after := by
      rw [lineEnds_append (.of_absent _ fun member => absurd (inner _ member) (by decide)),
        lineEnds_append breaks.apart,lineEnds_plain inner,ends.lineEnds_one,Nat.zero_add]
    refine ⟨location,?_,by omega⟩
    have skip := locateIn_skip number [⟨body,terminator⟩] (lines (after ++ rest)) (byteLength after)
    simp only [List.flatMap_cons,List.flatMap_nil,List.append_nil,Line.chars,List.length_singleton,
      List.singleton_append] at skip
    rw [List.append_assoc,List.append_assoc,lines_ended inner ends breaks_on,← List.append_assoc body,
      byteLength_append,skip,found]

theorem locate_number {before rest : List Char} (apart : Apart before rest) (some_left : rest ≠ []) :
    ∃ location, locate (before ++ rest) (byteLength before) = some location ∧
      location.number = 1 + lineEnds before := locateIn_number 1 apart some_left

end Text

def Token.lineEnds (token : Token) : Nat :=
  match token.kind with
  | .endOfStatement => 1
  | .string => Text.lineEnds token.lexeme.toList
  | _ => 0

theorem plain_class {p : Char → Bool} {run : List Char} (all : ∀ c ∈ run, p c = true)
    (feed : p '\n' = false) (carriage : p '\r' = false) : ∀ c ∈ run, isLineEnd c = false :=
  fun c member => lineEnd_exact.mpr ⟨ne_of_class (all c member) feed,ne_of_class (all c member) carriage⟩

theorem IsGap.plain {gap : List Char} (blank : IsGap gap) : ∀ c ∈ gap, isLineEnd c = false :=
  plain_class blank rfl rfl

theorem word_parts {c : Char} {more : List Char} (starts : isWordStart c = true)
    (parts : ∀ d ∈ more, isWordPart d = true) : ∀ d ∈ c :: more, isWordPart d = true :=
  List.forall_mem_cons.mpr ⟨isWordStart_part starts,parts⟩

theorem Spells.lineEnds_cases {token : Token} {spelling : List Char} (spelled : Spells token spelling) :
    ((∀ c ∈ spelling, isLineEnd c = false) ∧ token.lineEnds = 0) ∨
    (∃ body, spelling = '"' :: (body ++ ['"']) ∧ token.lineEnds = Text.lineEnds body) ∨
    (IsTerminator spelling ∧ token.kind = .endOfStatement) := by
  cases spelled with
  | number written all => exact .inl ⟨plain_class all rfl rfl,rfl⟩
  | identifier starts parts free =>
    exact .inl ⟨plain_class (word_parts starts parts) rfl rfl,rfl⟩
  | keyword starts parts reserved =>
    exact .inl ⟨plain_class (word_parts starts parts) rfl rfl,rfl⟩
  | string inside => exact .inr (.inl ⟨_,rfl,by simp [Token.lineEnds]⟩)
  | symbol mark => exact .inl ⟨by cases mark <;> simp [isLineEnd,Symbol.char],rfl⟩
  | unknown strange => exact .inl ⟨by simpa using (unrecognised_exact.mp strange).2.1,rfl⟩
  | lineFeed => exact .inr (.inr ⟨.inl rfl,rfl⟩)
  | carriageReturn => exact .inr (.inr ⟨.inr (.inl rfl),rfl⟩)
  | pair => exact .inr (.inr ⟨.inr (.inr rfl),rfl⟩)

theorem lineEnds_quote (text : List Char) : Text.lineEnds ('"' :: text) = Text.lineEnds text := by
  simp [Text.lineEnds]

theorem Spells.lineEnds_eq {token : Token} {spelling : List Char} (spelled : Spells token spelling) :
    Text.lineEnds spelling = token.lineEnds := by
  rcases spelled.lineEnds_cases with ⟨plain,none⟩ | ⟨body,rfl,inside⟩ | ⟨ends,kind⟩
  · rw [lineEnds_plain plain,none]
  · have apart : Apart body ['"'] := fun _ => by simp
    rw [lineEnds_quote,lineEnds_append apart,lineEnds_quote,inside]
    rfl
  · rw [ends.lineEnds_one,Token.lineEnds,kind]

theorem Spells.apart {token : Token} {spelling rest : List Char} (spelled : Spells token spelling)
    (bounded : ∀ c ∈ rest.head?, absorbs token spelling c = false) : Apart spelling rest := by
  rcases spelled.lineEnds_cases with ⟨plain,_⟩ | ⟨body,rfl,_⟩ | ⟨ends,kind⟩
  · exact .of_absent _ fun member => absurd (plain _ member) (by decide)
  · intro last
    simp [List.getLast?_cons] at last
  · intro last feed
    rcases ends with rfl | rfl | rfl
    · simp at last
    · simpa [absorbs,kind] using bounded '\n' feed
    · simp at last

theorem Reads.lineEnds_eq {cursor after : Cursor} {gap : List Char} {piece : Piece}
    (read : Reads cursor gap piece after) : Text.lineEnds piece.spelling = piece.token.lineEnds := by
  rcases read.spelled with spelled | ⟨⟨body,_,token,spelling⟩,_⟩
  · exact spelled.lineEnds_eq
  · rw [spelling,lineEnds_quote,token]
    simp [Token.lineEnds]

theorem Reads.apart {cursor after : Cursor} {gap : List Char} {piece : Piece}
    (read : Reads cursor gap piece after) : Apart piece.spelling after.rest := by
  rcases read.spelled with spelled | ⟨_,ended⟩
  · exact spelled.apart read.bounded
  · rw [ended]
    exact fun _ => by simp

-- Before a token's blanks and after them a text has ended as many lines, and neither
-- place is the middle of a pair.
theorem Reads.lineEnds_gap {cursor after : Cursor} {gap : List Char} {piece : Piece}
    (read : Reads cursor gap piece after) {passed : List Char} (apart : Apart passed cursor.rest) :
    Apart (passed ++ gap) (piece.spelling ++ after.rest) ∧
      Text.lineEnds (passed ++ gap) = Text.lineEnds passed := by
  have plain := read.blank.plain
  refine ⟨?_,?_⟩
  · cases gap with
    | nil => simpa [read.text] using apart
    | cons blank more =>
      rw [Apart,List.getLast?_append_of_ne_nil _ (List.cons_ne_nil _ _)]
      exact Apart.of_absent _ fun member => absurd (plain _ member) (by decide)
  · rw [lineEnds_append,lineEnds_plain plain,Nat.add_zero]
    intro _ feed
    exact absurd (plain '\n' (List.mem_of_head? feed)) (by decide)

theorem Reads.lineEnds_step {cursor after : Cursor} {gap : List Char} {piece : Piece}
    (read : Reads cursor gap piece after) {passed : List Char} (apart : Apart passed cursor.rest) :
    Apart (passed ++ gap ++ piece.spelling) after.rest ∧
      Text.lineEnds (passed ++ gap ++ piece.spelling) = Text.lineEnds passed + piece.token.lineEnds := by
  obtain ⟨begins,counted⟩ := read.lineEnds_gap apart
  refine ⟨?_,?_⟩
  · rw [Apart,List.getLast?_append_of_ne_nil _ read.nonempty]
    exact read.apart
  · rw [Apart,List.head?_append_of_ne_nil _ read.nonempty] at begins
    rw [lineEnds_append begins,counted,read.lineEnds_eq]

def statementEnds (tokens : List Token) : Nat := tokens.countP (·.is .endOfStatement)

def stringLineEnds (tokens : List Token) : Nat :=
  (tokens.filter (·.is .string)).foldr (fun token count => Text.lineEnds token.lexeme.toList + count) 0

theorem lineEnds_tokens (token : Token) (rest : List Token) :
    statementEnds (token :: rest) + stringLineEnds (token :: rest) =
      token.lineEnds + (statementEnds rest + stringLineEnds rest) := by
  obtain ⟨kind,lexeme⟩ := token
  cases kind with
  | endOfStatement => simp [statementEnds,stringLineEnds,Token.lineEnds,Token.is]; omega
  | string => simp [statementEnds,stringLineEnds,Token.lineEnds,Token.is]; omega
  | _ => simp [statementEnds,stringLineEnds,Token.lineEnds,Token.is]

theorem Stands.lineEnds_run {text passed : List Char} {cursor : Cursor} {before after : List Piece}
    {piece : Piece} (stands : Stands text passed cursor) (apart : Apart passed cursor.rest)
    (run : cursor.pieces = before ++ piece :: after) :
    ∃ left right, text = left ++ (piece.spelling ++ right) ∧ piece.start = byteLength left ∧
      piece.spelling ≠ [] ∧ Apart left (piece.spelling ++ right) ∧
      Text.lineEnds left = Text.lineEnds passed +
        (statementEnds (before.map Piece.token) + stringLineEnds (before.map Piece.token)) := by
  induction before generalizing cursor passed with
  | nil =>
    obtain ⟨gap,next,read,_⟩ := Cursor.pieces_cons run
    obtain ⟨whole,start⟩ := stands.piece read
    obtain ⟨begins,counted⟩ := read.lineEnds_gap apart
    exact ⟨_,_,whole,start,read.nonempty,begins,counted⟩
  | cons first before ih =>
    obtain ⟨gap,next,read,later⟩ := Cursor.pieces_cons run
    obtain ⟨behind,counted⟩ := read.lineEnds_step apart
    obtain ⟨left,right,whole,start,written,begins,total⟩ := ih (stands.step read) behind later
    refine ⟨left,right,whole,start,written,begins,?_⟩
    rw [total,counted,List.map_cons,lineEnds_tokens,Nat.add_assoc]

-- Reading and locating agree on what ends a line: the line of a token is known from the
-- tokens before it. Offsets are words of 32 bits.
theorem token_line_number {source : String} {before after : List Piece} {piece : Piece}
    (short : source.utf8ByteSize < UInt32.size)
    (run : (Cursor.ofSource source).pieces = before ++ piece :: after) :
    ∃ (left right : List Char) (position : UInt32) (location : Location),
      source.toList = left ++ (piece.spelling ++ right) ∧ byteLength left = position.toNat ∧
      position.toNat = piece.start ∧ locate source.toList position.toNat = some location ∧
      location.number = 1 + statementEnds (before.map Piece.token) +
        stringLineEnds (before.map Piece.token) := by
  have apart : Apart [] (Cursor.ofSource source).rest := .of_absent _ (by simp)
  obtain ⟨left,right,whole,start,written,begins,total⟩ := (Stands.ofSource source).lineEnds_run apart run
  have inside : byteLength left < UInt32.size := by
    have bytes := congrArg byteLength whole
    rw [byteLength_toList,byteLength_append] at bytes
    omega
  have fits : (UInt32.ofNat piece.start).toNat = piece.start := by
    rw [start]
    exact UInt32.toNat_ofNat_of_lt inside
  have some_left : piece.spelling ++ right ≠ [] := by simp [written]
  obtain ⟨location,found,counted⟩ := locate_number begins some_left
  refine ⟨left,right,UInt32.ofNat piece.start,location,whole,?_,fits,?_,?_⟩
  · rw [fits,start]
  · rw [fits,whole,start,found]
  · rw [counted,total]
    simp [Text.lineEnds,Nat.add_assoc]

theorem token_line_number_mixed :
    let source := "\"a\r\r\n\"\r\r\n\n\t\"\r\" é"
    let before : List Piece := [
      ⟨0,['"','a','\r','\r','\n','"'],⟨.string,"a\r\r\n"⟩⟩,⟨6,['\r'],⟨.endOfStatement,""⟩⟩,
      ⟨7,['\r','\n'],⟨.endOfStatement,""⟩⟩,⟨9,['\n'],⟨.endOfStatement,""⟩⟩,
      ⟨11,['"','\r','"'],⟨.string,"\r"⟩⟩]
    let piece : Piece := ⟨15,['é'],⟨.unknown,"é"⟩⟩
    source.utf8ByteSize < UInt32.size ∧ (Cursor.ofSource source).pieces = before ++ piece :: [] ∧
      statementEnds (before.map Piece.token) = 3 ∧ stringLineEnds (before.map Piece.token) = 3 ∧
      ∃ (left right : List Char) (position : UInt32) (location : Location),
        source.toList = left ++ (piece.spelling ++ right) ∧ byteLength left = position.toNat ∧
        position.toNat = piece.start ∧ locate source.toList position.toNat = some location ∧
        location.number = 1 + statementEnds (before.map Piece.token) +
          stringLineEnds (before.map Piece.token) := by
  intro source before piece
  have short : source.utf8ByteSize < UInt32.size := by decide +kernel
  have run : (Cursor.ofSource source).pieces = before ++ piece :: [] := by decide +kernel
  exact ⟨short,run,by decide +kernel,by decide +kernel,token_line_number short run⟩

end BasicLex
