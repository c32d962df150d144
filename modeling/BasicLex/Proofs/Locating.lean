import BasicLex.Proofs.ByteLoop

namespace BasicLex.Text

-- A text cut into lines, told without cutting it: every line has its terminator, a carriage
-- return alone is one only where no line feed follows, and the last line may have none.
structure IsTable (text : List Char) (table : List Line) : Prop where
  whole : table.flatMap Line.chars = text
  bodies : ∀ line ∈ table, ∀ c ∈ line.body, isLineEnd c = false
  ended : ∀ before line after, table = before ++ line :: after →
    (IsTerminator line.terminator ∧
      (line.terminator = ['\r'] → (after.flatMap Line.chars).head? ≠ some '\n')) ∨
    (line.terminator = [] ∧ line.body ≠ [] ∧ after = [])

structure Holding (table : List Line) (offset : Nat) (before : List Line) (line : Line)
    (after : List Line) : Prop where
  split : table = before ++ line :: after
  reached : byteLength (before.flatMap Line.chars) ≤ offset
  inside : offset < byteLength (before.flatMap Line.chars) + line.byteLength

-- What is told about a byte, given the line that holds it and the lines before. The column
-- of a byte that begins a character counts the characters from the start of the line.
structure Located (text : List Char) (offset : Nat) (before : List Line) (line : Line)
    (location : Location) : Prop where
  number : location.number = before.length + 1
  body : location.text = line.body
  plain : ∀ c ∈ location.text, c ≠ '\n' ∧ c ≠ '\r'
  column : ∀ left right, text = left ++ right → byteLength left = offset →
    left.length = (before.flatMap Line.chars).length + location.column
  terminator : offset = byteLength (before.flatMap Line.chars ++ line.body) →
    location.column = line.body.length
  pair : offset = byteLength (before.flatMap Line.chars ++ line.body) + 1 →
    line.terminator = ['\r','\n'] ∧ location.column = line.body.length + 1

theorem IsTerminator.breaks_iff {terminator : List Char} (ends : IsTerminator terminator)
    (after : List Char) : Breaks terminator after ↔ (terminator = ['\r'] → after.head? ≠ some '\n') := by
  rcases ends with rfl | rfl | rfl <;> simp [Breaks,isLineEnd]

theorem isTable_cons {text : List Char} {line : Line} {rest : List Line} :
    IsTable text (line :: rest) ↔
      text = line.chars ++ rest.flatMap Line.chars ∧ (∀ c ∈ line.body, isLineEnd c = false) ∧
      ((IsTerminator line.terminator ∧ Breaks line.terminator (rest.flatMap Line.chars)) ∨
        (line.terminator = [] ∧ line.body ≠ [] ∧ rest = [])) ∧
      IsTable (rest.flatMap Line.chars) rest := by
  constructor
  · rintro ⟨whole,bodies,ended⟩
    obtain ⟨inner,later⟩ := List.forall_mem_cons.mp bodies
    refine ⟨whole.symm,inner,?_,rfl,later,?_⟩
    · cases ended [] line rest rfl with
      | inl ends => exact .inl ⟨ends.1,(ends.1.breaks_iff _).mpr ends.2⟩
      | inr last => exact .inr last
    · intro before other after split
      exact ended (line :: before) other after (congrArg (line :: ·) split)
  · rintro ⟨whole,inner,ends,_,later,ended⟩
    refine ⟨whole.symm,List.forall_mem_cons.mpr ⟨inner,later⟩,?_⟩
    intro before other after split
    cases before with
    | nil =>
      obtain ⟨rfl,rfl⟩ := List.cons.inj split
      cases ends with
      | inl ends => exact .inl ⟨ends.1,(ends.1.breaks_iff _).mp ends.2⟩
      | inr last => exact .inr last
    | cons first before => exact ended before other after (List.cons.inj split).2

theorem isTable_nil {text : List Char} : IsTable text [] ↔ text = [] := by
  constructor
  · intro table
    exact table.whole.symm
  · rintro rfl
    refine ⟨rfl,by simp,?_⟩
    intro before line after split
    simp at split

theorem isTable_exact {text : List Char} {table : List Line} : IsTable text table ↔ table = lines text := by
  constructor
  · intro cut
    induction table generalizing text with
    | nil => rw [isTable_nil.mp cut,lines_nil]
    | cons line rest ih =>
      obtain ⟨rfl,inner,ends,later⟩ := isTable_cons.mp cut
      rcases ends with ⟨ends,breaks⟩ | ⟨open_end,some_body,rfl⟩
      · rw [Line.chars,List.append_assoc,lines_ended inner ends breaks,← ih later]
      · obtain ⟨body,terminator⟩ := line
        subst open_end
        simp only [Line.chars,List.append_nil,List.flatMap_nil]
        rw [lines_plain inner some_body]
  · rintro rfl
    induction text using lines_induction with
    | plain body inner =>
      cases body with
      | nil => rw [lines_nil]; exact isTable_nil.mpr rfl
      | cons c body =>
        rw [lines_plain inner (List.cons_ne_nil c body)]
        refine isTable_cons.mpr ⟨?_,inner,.inr ⟨rfl,List.cons_ne_nil c body,rfl⟩,isTable_nil.mpr rfl⟩
        simp [Line.chars]
    | ended body terminator after inner ends breaks ih =>
      rw [lines_ended inner ends breaks]
      refine isTable_cons.mpr ⟨?_,inner,.inl ⟨ends,?_⟩,?_⟩
      · rw [lines_lossless,Line.chars,List.append_assoc]
      · rwa [lines_lossless]
      · rwa [lines_lossless]

theorem IsTable.pair {text : List Char} {table before after : List Line} {line : Line}
    (cut : IsTable text table) (split : table = before ++ line :: after)
    (wide : 1 < byteLength line.terminator) : line.terminator = ['\r','\n'] := by
  cases cut.ended before line after split with
  | inl ends =>
    rcases ends.1 with feed | carriage | pair
    · rw [feed] at wide
      exact absurd wide (by decide)
    · rw [carriage] at wide
      exact absurd wide (by decide)
    · exact pair
  | inr last =>
    rw [last.1] at wide
    exact absurd wide (by decide)

theorem Holding.passed {table : List Line} {offset : Nat} {before after : List Line} {line : Line}
    (held : Holding table offset before line after) (more : List Line) :
    offset < byteLength ((before ++ line :: more).flatMap Line.chars) := by
  have inside := held.inside
  simp only [List.flatMap_append,List.flatMap_cons,byteLength_append]
  unfold Line.byteLength at inside
  omega

theorem Holding.unique {table : List Line} {offset : Nat} {before after earlier later : List Line}
    {line other : Line} (held : Holding table offset before line after)
    (again : Holding table offset earlier other later) : earlier = before ∧ other = line ∧ later = after := by
  cases List.append_eq_append_iff.mp (held.split.symm.trans again.split) with
  | inl further =>
    obtain ⟨more,longer,rest⟩ := further
    cases more with
    | nil =>
      obtain ⟨rfl,rfl⟩ := List.cons.inj rest
      exact ⟨by simpa using longer,rfl,rfl⟩
    | cons first more =>
      obtain ⟨rfl,_⟩ := List.cons.inj rest
      exact absurd (longer ▸ again.reached) (Nat.not_le_of_lt (held.passed more))
  | inr further =>
    obtain ⟨more,longer,rest⟩ := further
    cases more with
    | nil =>
      obtain ⟨rfl,rfl⟩ := List.cons.inj rest
      exact ⟨by simpa using longer.symm,rfl,rfl⟩
    | cons first more =>
      obtain ⟨rfl,_⟩ := List.cons.inj rest
      exact absurd (longer ▸ held.reached) (Nat.not_le_of_lt (again.passed more))

theorem locateIn_holding {number : Nat} {table : List Line} {offset : Nat} {location : Location}
    (found : locateIn number table offset = some location) : ∃ before line after,
      Holding table offset before line after ∧ location = ⟨number + before.length,line.body,
        columnAt line.chars (offset - byteLength (before.flatMap Line.chars))⟩ := by
  induction table generalizing number offset with
  | nil => cases found
  | cons line rest ih =>
    rw [locateIn] at found
    split at found
    · rename_i inside
      cases found
      refine ⟨[],line,rest,⟨rfl,Nat.zero_le _,?_⟩,rfl⟩
      simpa using inside
    · rename_i beyond
      obtain ⟨before,other,after,held,rfl⟩ := ih found
      obtain ⟨split,reached,inside⟩ := held
      have width : byteLength ((line :: before).flatMap Line.chars) =
          line.byteLength + byteLength (before.flatMap Line.chars) := by
        rw [List.flatMap_cons,byteLength_append]
        rfl
      have remaining : offset - line.byteLength - byteLength (before.flatMap Line.chars) =
          offset - byteLength ((line :: before).flatMap Line.chars) := by omega
      refine ⟨line :: before,other,after,⟨by rw [split]; rfl,by omega,by omega⟩,?_⟩
      rw [remaining,List.length_cons,Nat.add_right_comm,Nat.add_assoc]

section
variable {text : List Char} {offset : Nat} {before after : List Line} {line : Line}

theorem Holding.text_split {table : List Line} (held : Holding table offset before line after) :
    table.flatMap Line.chars =
      before.flatMap Line.chars ++ (line.chars ++ after.flatMap Line.chars) := by
  rw [held.split,List.flatMap_append,List.flatMap_cons]

theorem Holding.cut {table : List Line} (held : Holding table offset before line after)
    {left right : List Char} (whole : table.flatMap Line.chars = left ++ right)
    (place : byteLength left = offset) : ∃ passed ahead, line.chars = passed ++ ahead ∧
      left = before.flatMap Line.chars ++ passed ∧
      byteLength passed = offset - byteLength (before.flatMap Line.chars) := by
  have reached := held.reached
  have inside := held.inside
  have same := held.text_split.symm.trans whole
  rw [← place] at reached inside
  obtain ⟨passed,rfl,behind⟩ := append_later same reached
  rw [byteLength_append] at inside place
  obtain ⟨ahead,split,_⟩ := append_later behind.symm (Nat.le_of_lt (Nat.lt_of_add_lt_add_left inside))
  exact ⟨passed,ahead,split,rfl,by omega⟩

theorem Holding.located (held : Holding (lines text) offset before line after) :
    Located text offset before line ⟨before.length + 1,line.body,
      columnAt line.chars (offset - byteLength (before.flatMap Line.chars))⟩ := by
  have table : IsTable text (lines text) := isTable_exact.mpr rfl
  have member : line ∈ lines text := by
    rw [held.split]
    simp
  have inner := table.bodies line member
  have inside := held.inside
  rw [Line.byteLength,Line.chars,byteLength_append] at inside
  refine ⟨rfl,rfl,fun c inside => lineEnd_exact.mp (inner c inside),?_,?_,?_⟩
  · intro left right whole place
    obtain ⟨passed,ahead,split,rfl,bytes⟩ := held.cut (table.whole.trans whole) place
    rw [split,← bytes,columnAt_left,List.length_append]
  · intro place
    have behind : offset - byteLength (before.flatMap Line.chars) = byteLength line.body := by
      rw [place,byteLength_append,Nat.add_sub_cancel_left]
    rw [behind,Line.chars]
    exact columnAt_left line.body line.terminator
  · intro place
    rw [byteLength_append] at place
    have behind : offset - byteLength (before.flatMap Line.chars) = byteLength (line.body ++ ['\r']) := by
      have one : byteLength ['\r'] = 1 := rfl
      rw [byteLength_append,one]
      omega
    have paired : line.terminator = ['\r','\n'] := table.pair held.split (by omega)
    have split : line.chars = (line.body ++ ['\r']) ++ ['\n'] := by
      rw [Line.chars,paired]
      simp
    refine ⟨paired,?_⟩
    rw [behind,split]
    exact (columnAt_left (line.body ++ ['\r']) ['\n']).trans (by simp)

theorem locate_holding {location : Location} (found : locate text offset = some location) :
    ∃ before line after, Holding (lines text) offset before line after ∧
      location = ⟨before.length + 1,line.body,
        columnAt line.chars (offset - byteLength (before.flatMap Line.chars))⟩ := by
  obtain ⟨before,line,after,held,same⟩ := locateIn_holding found
  exact ⟨before,line,after,held,by rw [same,Nat.add_comm]⟩

end

-- A byte is looked for in the one table of the lines, and one line of it holds the byte. The
-- loop over the bytes of the text comes to the same answer, and nothing in it can fail.
theorem locate_line_table (content : String) (position : UInt32) :
    ByteLoop.locate content.toList position.toNat = .ok (locate content.toList position.toNat) ∧
    ((content.utf8ByteSize ≤ position.toNat ∧ locate content.toList position.toNat = none) ∨
      (position.toNat < content.utf8ByteSize ∧ ∃ table before line after location,
        (IsTable content.toList table ∧ ∀ other, IsTable content.toList other → other = table) ∧
        (Holding table position.toNat before line after ∧
          ∀ earlier other later, Holding table position.toNat earlier other later →
            earlier = before ∧ other = line ∧ later = after) ∧
        locate content.toList position.toNat = some location ∧
        Located content.toList position.toNat before line location)) := by
  refine ⟨ByteLoop.locate_exact _ _,?_⟩
  rw [← byteLength_toList]
  cases found : locate content.toList position.toNat with
  | none => exact .inl ⟨locate_none.mp found,rfl⟩
  | some location =>
    right
    have inside : ¬byteLength content.toList ≤ position.toNat := by
      intro beyond
      rw [locate_none.mpr beyond] at found
      cases found
    obtain ⟨before,line,after,held,rfl⟩ := locate_holding found
    exact ⟨Nat.lt_of_not_le inside,lines content.toList,before,line,after,_,
      ⟨isTable_exact.mpr rfl,fun _ cut => isTable_exact.mp cut⟩,
      ⟨held,fun _ _ _ again => held.unique again⟩,rfl,held.located⟩

end BasicLex.Text
