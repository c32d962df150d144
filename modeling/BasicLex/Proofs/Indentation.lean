import BasicLex.Diagnostic.Rendering
import BasicLex.Proofs.Columns
import BasicLex.Proofs.LineNumber
import BasicLex.Proofs.Spacing

namespace BasicLex
open Text

namespace Text

def Line.indent (blanks : List Char) (line : Line) : Line := ⟨blanks ++ line.body,line.terminator⟩

theorem Line.indent_chars (blanks : List Char) (line : Line) :
    (line.indent blanks).chars = blanks ++ line.chars := List.append_assoc _ _ _

section
variable {blanks : List Char} {before after : List Line} {line : Line}

theorem indent_feed (blank : IsGap blanks) (before after : List Line) (line : Line)
    (feed : ((before ++ line.indent blanks :: after).flatMap Line.chars).head? = some '\n') :
    ((before ++ line :: after).flatMap Line.chars).head? = some '\n' := by
  simp only [List.flatMap_append,List.flatMap_cons,Line.indent_chars] at feed ⊢
  cases above : before.flatMap Line.chars with
  | cons c rest => simpa [above] using feed
  | nil =>
    cases blanks with
    | nil => simpa [above] using feed
    | cons c blanks =>
      obtain rfl : c = '\n' := by simpa [above] using feed
      exact absurd (blank.plain '\n' List.mem_cons_self) (by decide)

-- Blanks in front of a line change this line alone. A carriage return above it stays a line
-- end by itself, for no line feed comes up behind it.
theorem IsTable.indented {text : List Char} {table : List Line} (cut : IsTable text table)
    (split : table = before ++ line :: after) (blank : IsGap blanks) :
    IsTable (before.flatMap Line.chars ++ (blanks ++ (line.chars ++ after.flatMap Line.chars)))
      (before ++ line.indent blanks :: after) := by
  induction before generalizing text table with
  | nil =>
    obtain rfl : table = line :: after := split
    obtain ⟨_,inner,ends,later⟩ := isTable_cons.mp cut
    refine isTable_cons.mpr ⟨?_,?_,?_,later⟩
    · simp [Line.indent_chars]
    · exact List.forall_mem_append.mpr ⟨blank.plain,inner⟩
    · apply ends.imp id
      rintro ⟨open_end,some_body,last⟩
      exact ⟨open_end,by simp [Line.indent,some_body],last⟩
  | cons first before ih =>
    obtain rfl : table = first :: (before ++ line :: after) := split
    obtain ⟨_,inner,ends,later⟩ := isTable_cons.mp cut
    have rest := ih later rfl
    obtain ⟨ended,breaks⟩ := ends.resolve_right fun last => by simp at last
    have breaks_on := (ended.breaks_iff _).mp breaks
    rw [List.cons_append]
    refine isTable_cons.mpr ⟨?_,inner,.inl ⟨ended,?_⟩,?_⟩
    · rw [rest.whole,List.flatMap_cons,List.append_assoc]
    · apply (ended.breaks_iff _).mpr
      intro lone feed
      exact breaks_on lone (indent_feed blank before after line feed)
    · rw [rest.whole]
      exact rest

theorem Holding.locate {text : List Char} {offset : Nat} (held : Holding (lines text) offset before line after) :
    Text.locate text offset = some ⟨before.length + 1,line.body,
      columnAt line.chars (offset - byteLength (before.flatMap Line.chars))⟩ := by
  have inside := held.passed after
  rw [← held.split,lines_lossless] at inside
  obtain ⟨location,found⟩ := locate_some inside
  obtain ⟨earlier,other,later,again,same⟩ := locate_holding found
  obtain ⟨rfl,rfl,_⟩ := held.unique again
  rw [found,same]

theorem Holding.indented {text : List Char} {offset : Nat} (held : Holding (lines text) offset before line after)
    (blank : IsGap blanks) :
    Holding (lines (before.flatMap Line.chars ++ (blanks ++ (line.chars ++ after.flatMap Line.chars))))
      (offset + blanks.length) before (line.indent blanks) after := by
  have table : IsTable text (lines text) := isTable_exact.mpr rfl
  have reached := held.reached
  have inside := held.inside
  refine ⟨(isTable_exact.mp (table.indented held.split blank)).symm,by omega,?_⟩
  unfold Line.byteLength at inside ⊢
  rw [Line.indent_chars,byteLength_append,blank.byteLength_eq]
  omega

-- Characters and bytes of blanks are the same in number, so the column moves by them whether
-- it counts the ones or the others.
theorem columnAt_behind (blank : IsGap blanks) (text : List Char) (offset : Nat) :
    columnAt (blanks ++ text) (blanks.length + offset) = blanks.length + columnAt text offset := by
  have width := blank.byteLength_eq
  by_cases between : OnBoundary text offset
  · obtain ⟨passed,ahead,rfl,rfl⟩ := between
    have here := columnAt_left (blanks ++ passed) ahead
    rw [byteLength_append,width,List.length_append,List.append_assoc] at here
    rw [here,columnAt_left]
  · have within : ¬OnBoundary (blanks ++ text) (blanks.length + offset) := by
      rintro ⟨left,right,whole,place⟩
      obtain ⟨passed,rfl,behind⟩ := append_later whole (by omega)
      rw [byteLength_append,width] at place
      exact between ⟨passed,right,behind,Nat.add_left_cancel place⟩
    rw [columnAt_inside between,columnAt_inside within]

end
end Text

namespace Diagnostic

theorem excerpt_indented {blanks : List Char} (blank : IsGap blanks) (number : Nat) (text : List Char)
    (column : Nat) :
    excerpt ⟨number,blanks ++ text,blanks.length + column⟩ = excerpt ⟨number,text,column⟩ := by
  have width : caretWidth ⟨number,blanks ++ text,blanks.length + column⟩ = caretWidth ⟨number,text,column⟩ := by
    simp only [caretWidth,indent,List.takeWhile_append_of_pos blank,List.length_append,Nat.add_sub_add_left]
  have shown : shownText (blanks ++ text) = shownText text := by
    simp only [shownText,List.dropWhile_append_of_pos blank]
  simp only [excerpt,width,shown]

end Diagnostic

theorem indentation_hidden {content : String} {offset : UInt32} (inside : offset.toNat < content.utf8ByteSize) :
    ∃ before line after, Holding (lines content.toList) offset.toNat before line after ∧
      content.toList = before.flatMap Line.chars ++ (line.chars ++ after.flatMap Line.chars) ∧
      ∀ (blanks : List Char) (token file : String), IsGap blanks →
        offset.toNat + blanks.length < UInt32.size →
        Diagnostic.render ⟨.unrecognisedToken token,⟨UInt32.ofNat (offset.toNat + blanks.length),file⟩⟩
            (String.ofList
              (before.flatMap Line.chars ++ (blanks ++ (line.chars ++ after.flatMap Line.chars)))) =
          Diagnostic.render ⟨.unrecognisedToken token,⟨offset,file⟩⟩ content := by
  rw [← byteLength_toList] at inside
  obtain ⟨location,found⟩ := locate_some inside
  obtain ⟨before,line,after,held,_⟩ := locate_holding found
  refine ⟨before,line,after,held,?_,?_⟩
  · rw [← held.text_split,lines_lossless]
  intro blanks token file blank fits
  have moved : (UInt32.ofNat (offset.toNat + blanks.length)).toNat = offset.toNat + blanks.length :=
    UInt32.toNat_ofNat_of_lt fits
  have reached := held.reached
  have behind : offset.toNat + blanks.length - byteLength (before.flatMap Line.chars) =
      blanks.length + (offset.toNat - byteLength (before.flatMap Line.chars)) := by omega
  have here := held.locate
  have there := (held.indented blank).locate
  rw [behind,Line.indent_chars,columnAt_behind blank] at there
  simp only [Diagnostic.render,moved,String.toList_ofList,here,there,Line.indent,
    Diagnostic.excerpt_indented blank]
  rfl

theorem indentation_hidden_inside :
    let content := "é\r\n \tñ€x\r"
    let deeper := "é\r\n\t   \tñ€x\r"
    let blanks := ['\t',' ',' ']
    let before : List Line := [⟨['é'],['\r','\n']⟩]
    let line : Line := ⟨[' ','\t','ñ','€','x'],['\r']⟩
    (9 : UInt32).toNat < content.utf8ByteSize ∧ Holding (lines content.toList) (9 : UInt32).toNat before line [] ∧
      IsGap blanks ∧ (9 : UInt32).toNat + blanks.length < UInt32.size ∧
      Diagnostic.render ⟨.unrecognisedToken "€",⟨12,"t.bas"⟩⟩ deeper =
        Diagnostic.render ⟨.unrecognisedToken "€",⟨9,"t.bas"⟩⟩ content := by
  intro content deeper blanks before line
  have inside : (9 : UInt32).toNat < content.utf8ByteSize := by decide +kernel
  have table : lines content.toList = before ++ line :: [] := by decide +kernel
  have holding : Holding (lines content.toList) (9 : UInt32).toNat before line [] :=
    ⟨table,by decide +kernel,by decide +kernel⟩
  have blank : IsGap blanks := by simp [IsGap,blanks,isBlank]
  have fits : (9 : UInt32).toNat + blanks.length < UInt32.size := by decide
  obtain ⟨earlier,other,later,held,_,hidden⟩ := indentation_hidden inside
  obtain ⟨rfl,rfl,rfl⟩ := holding.unique held
  have same := hidden blanks "€" "t.bas" blank fits
  have text : String.ofList (before.flatMap Line.chars ++ (blanks ++ (line.chars ++ [].flatMap Line.chars))) =
      deeper := by decide +kernel
  rw [text] at same
  exact ⟨inside,holding,blank,fits,same⟩

end BasicLex
