import BasicLex.Proofs.Locating

namespace BasicLex.Text

def OnBoundary (text : List Char) (offset : Nat) : Prop :=
  ∃ left right, text = left ++ right ∧ byteLength left = offset

def lineStart (text : List Char) (number : Nat) : Nat :=
  byteLength (((lines text).take (number - 1)).flatMap Line.chars)

theorem length_bound (text : List Char) : text.length ≤ byteLength text := by
  induction text with
  | nil => exact Nat.le_refl _
  | cons c text ih =>
    have width := c.utf8Size_pos
    rw [List.length_cons,byteLength_cons]
    omega

section
variable {text : List Char} {offset first second : Nat}

theorem columnAt_boundary (between : OnBoundary text offset) : ∃ left right,
    text = left ++ right ∧ byteLength left = offset ∧ columnAt text offset = left.length := by
  obtain ⟨left,right,rfl,rfl⟩ := between
  exact ⟨left,right,rfl,rfl,columnAt_left left right⟩

theorem columnAt_inside (within : ¬OnBoundary text offset) : columnAt text offset = offset := by
  rw [columnAt_splitAt?]
  cases found : splitAt? text offset with
  | none => rfl
  | some cut => exact absurd ⟨cut.1,cut.2,splitAt?_exact.mp found⟩ within

theorem columnAt_bound (text : List Char) (offset : Nat) : columnAt text offset ≤ offset := by
  by_cases between : OnBoundary text offset
  · obtain ⟨left,right,_,rfl,column⟩ := columnAt_boundary between
    rw [column]
    exact length_bound left
  · exact Nat.le_of_eq (columnAt_inside between)

theorem columnAt_boundaries (order : first ≤ second) (here : OnBoundary text first)
    (there : OnBoundary text second) : columnAt text first ≤ columnAt text second := by
  obtain ⟨left,rest,whole,rfl,column⟩ := columnAt_boundary here
  obtain ⟨longer,right,again,rfl,behind⟩ := columnAt_boundary there
  obtain ⟨more,rfl,_⟩ := append_later (whole.symm.trans again) order
  rw [column,behind,List.length_append]
  exact Nat.le_add_right _ _

-- A count of bytes is never below a count of characters of the same part, so columns can fall
-- only from the first count to the second.
theorem columnAt_rises (order : first ≤ second) : columnAt text first ≤ columnAt text second ↔
    OnBoundary text first ∨ ¬OnBoundary text second ∨ first ≤ columnAt text second := by
  constructor
  · intro rises
    by_cases here : OnBoundary text first
    · exact .inl here
    · rw [columnAt_inside here] at rises
      exact .inr (.inr rises)
  · intro shape
    have bound := columnAt_bound text first
    by_cases there : OnBoundary text second
    · rcases shape with here | within | enough
      · exact columnAt_boundaries order here there
      · exact absurd there within
      · exact bound.trans enough
    · rw [columnAt_inside there]
      exact bound.trans order

end

section
variable {text : List Char} {offset : Nat} {before after : List Line} {line : Line}

theorem Holding.boundary (held : Holding (lines text) offset before line after) :
    OnBoundary line.chars (offset - byteLength (before.flatMap Line.chars)) ↔ OnBoundary text offset := by
  constructor
  · rintro ⟨passed,ahead,split,bytes⟩
    refine ⟨before.flatMap Line.chars ++ passed,ahead ++ after.flatMap Line.chars,?_,?_⟩
    · rw [← lines_lossless text,held.text_split,split]
      simp only [List.append_assoc]
    · rw [byteLength_append,bytes]
      exact Nat.add_sub_cancel' held.reached
  · rintro ⟨left,right,whole,place⟩
    obtain ⟨passed,ahead,split,_,bytes⟩ := held.cut ((lines_lossless text).trans whole) place
    exact ⟨passed,ahead,split,bytes⟩

theorem Holding.start (held : Holding (lines text) offset before line after) :
    lineStart text (before.length + 1) = byteLength (before.flatMap Line.chars) := by
  rw [lineStart,held.split,Nat.add_sub_cancel,List.take_left]

end

theorem locate_some {text : List Char} {offset : Nat} (inside : offset < byteLength text) :
    ∃ location, locate text offset = some location := by
  cases found : locate text offset with
  | none => exact absurd (locate_none.mp found) (Nat.not_le_of_lt inside)
  | some location => exact ⟨location,rfl⟩

-- Along one line the columns rise from every byte that begins a character and to every byte
-- that does not. From a byte inside a character to one that begins a character they rise only
-- if there are at least as many characters before the second as bytes before the first.
theorem columns_rise (content : String) {first second : UInt32} (order : first ≤ second)
    (inside : second.toNat < content.utf8ByteSize) : ∃ left right,
    locate content.toList first.toNat = some left ∧ locate content.toList second.toNat = some right ∧
    (left.number = right.number → (left.column ≤ right.column ↔
      OnBoundary content.toList first.toNat ∨ ¬OnBoundary content.toList second.toNat ∨
        first.toNat - lineStart content.toList left.number ≤ right.column)) := by
  have sorted : first.toNat ≤ second.toNat := UInt32.le_iff_toNat_le.mp order
  rw [← byteLength_toList] at inside
  obtain ⟨left,here⟩ := locate_some (Nat.lt_of_le_of_lt sorted inside)
  obtain ⟨right,there⟩ := locate_some inside
  refine ⟨left,right,here,there,?_⟩
  obtain ⟨before,line,after,held,rfl⟩ := locate_holding here
  obtain ⟨earlier,other,later,again,rfl⟩ := locate_holding there
  intro same
  have level : before.length = earlier.length := Nat.succ.inj same
  obtain ⟨rfl,rest⟩ := List.append_inj (held.split.symm.trans again.split) level
  obtain ⟨rfl,rfl⟩ := List.cons.inj rest
  rw [← held.boundary,← again.boundary,held.start]
  exact columnAt_rises (Nat.sub_le_sub_right sorted _)

theorem columns_rise_second_line :
    let content := "é\r\nñ€x"
    (5 : UInt32) ≤ 6 ∧ (6 : UInt32).toNat < content.utf8ByteSize ∧ ∃ left right,
      locate content.toList (5 : UInt32).toNat = some left ∧
      locate content.toList (6 : UInt32).toNat = some right ∧
      left.number = right.number ∧ left.column ≤ right.column := by
  intro content
  have order : (5 : UInt32) ≤ 6 := by decide
  have inside : (6 : UInt32).toNat < content.utf8ByteSize := by decide +kernel
  have first : locate content.toList (5 : UInt32).toNat = some ⟨2,['ñ','€','x'],1⟩ := by decide +kernel
  have second : locate content.toList (6 : UInt32).toNat = some ⟨2,['ñ','€','x'],1⟩ := by decide +kernel
  have start : lineStart content.toList 2 = 4 := by decide +kernel
  obtain ⟨left,right,here,there,rises⟩ := columns_rise content order inside
  cases first.symm.trans here
  cases second.symm.trans there
  refine ⟨order,inside,_,_,here,there,rfl,(rises rfl).mpr (.inr (.inr ?_))⟩
  rw [start]
  decide

-- Three bytes are before the second byte of the second letter, and two letters before the third.
theorem columns_fall_second_letter :
    let content := "ééx"
    (3 : UInt32) ≤ 4 ∧ (4 : UInt32).toNat < content.utf8ByteSize ∧ ∃ left right,
      locate content.toList (3 : UInt32).toNat = some left ∧
      locate content.toList (4 : UInt32).toNat = some right ∧
      left.number = right.number ∧ ¬left.column ≤ right.column := by
  refine ⟨by decide,by decide +kernel,⟨1,['é','é','x'],3⟩,⟨1,['é','é','x'],2⟩,?_,?_,rfl,by decide⟩
  · decide +kernel
  · decide +kernel

end BasicLex.Text
