import BasicLex.Diagnostic.Rendering
import BasicLex.Proofs.Columns
import BasicLex.Proofs.Strictness

namespace BasicLex
open Text

namespace Diagnostic

inductive RenderFault where
  | search (fault : ByteLoop.Fault)
  | blanks
  | bar
  | caret
deriving DecidableEq

-- A rendering that looks before each of these steps. Its fields are as wide as their numbers
-- say, so the ones that hold the bars could fail as well as the one that holds the caret.
namespace Checked

def field (fault : RenderFault) (width : Nat) (filler mark : Char) : Except RenderFault (List Char) :=
  if largestCaretWidth < width then .error fault
  else .ok (List.replicate (width - 1) filler ++ [mark])

def withoutIndent (line : List Char) : Except RenderFault (List Char × Nat) :=
  let visible := line.dropWhile isBlank
  if line.length < visible.length then .error .blanks else .ok (visible,line.length - visible.length)

def excerpt (location : Location) : Except RenderFault String := do
  let number := Nat.toDigits 10 location.number
  let bar ← field .bar (number.length + 2) ' ' '|'
  let (visible,removed) ← withoutIndent location.text
  let below ← field .bar (number.length + 2) ' ' '|'
  let pointer ← field .caret (location.column - removed + 1) '-' '^'
  return String.ofList (bar ++ ['\n'] ++ number ++ [' ','|',' '] ++ trimEnd visible ++ ['\n'] ++
    below ++ [' '] ++ pointer ++ ['\n'])

def render (diagnostic : Diagnostic) (content : String) : Except RenderFault String := do
  if diagnostic.cause.hasSourcePosition then
    let opening := diagnostic.headline ++ "-> " ++ diagnostic.position.file ++ "\n"
    match ← (ByteLoop.locate content.toList diagnostic.position.offset.toNat).mapError .search with
    | none => return opening
    | some location => return opening ++ (← excerpt location)
  else return diagnostic.headline

end Checked
end Diagnostic

namespace Text

theorem lines_nonempty {text : List Char} : ∀ line ∈ lines text, line.chars ≠ [] := by
  have table : IsTable text (lines text) := isTable_exact.mpr rfl
  intro line member
  obtain ⟨before,after,split⟩ := List.append_of_mem member
  unfold Line.chars
  cases table.ended before line after split with
  | inl ends => simp [ends.1.nonempty]
  | inr last => simp [last.2.1]

theorem length_lines {found : List Line} (written : ∀ line ∈ found, line.chars ≠ []) :
    found.length ≤ byteLength (found.flatMap Line.chars) := by
  induction found with
  | nil => exact Nat.zero_le _
  | cons line found ih =>
    obtain ⟨first,later⟩ := List.forall_mem_cons.mp written
    have some_bytes : byteLength line.chars ≠ 0 := fun none => first (byteLength_zero.mp none)
    have rest := ih later
    simp only [List.length_cons,List.flatMap_cons,byteLength_append]
    omega

theorem locate_number_bound {text : List Char} {offset : Nat} {location : Location}
    (found : locate text offset = some location) : location.number ≤ offset + 1 := by
  obtain ⟨before,line,after,held,rfl⟩ := locate_holding found
  have written : ∀ earlier ∈ before, earlier.chars ≠ [] := by
    intro earlier member
    have listed : earlier ∈ lines text := by simp [held.split,member]
    exact lines_nonempty earlier listed
  exact Nat.succ_le_succ (Nat.le_trans (length_lines written) held.reached)

theorem locate_inside {text : List Char} {offset : Nat} {location : Location}
    (found : locate text offset = some location) : offset < byteLength text := by
  apply Nat.lt_of_not_le
  intro beyond
  rw [locate_none.mpr beyond] at found
  cases found

end Text

theorem map_error {α β ε : Type} {result : Except ε α} {f : α → β} {fault : ε} :
    result.map f = .error fault ↔ result = .error fault := by
  cases result <;> simp [Except.map]

namespace Diagnostic

theorem indent_length (line : List Char) :
    line.length = indent line + (line.dropWhile isBlank).length := by
  rw [indent,← List.length_append,List.takeWhile_append_dropWhile]

namespace Checked

theorem field_fits {width : Nat} (fits : width ≤ largestCaretWidth) (fault : RenderFault) (filler mark : Char) :
    field fault width filler mark = .ok (List.replicate (width - 1) filler ++ [mark]) := by
  rw [field,if_neg (Nat.not_lt.mpr fits)]

theorem withoutIndent_exact (line : List Char) :
    withoutIndent line = .ok (line.dropWhile isBlank,indent line) := by
  have whole := indent_length line
  have shorter : ¬line.length < (line.dropWhile isBlank).length := by omega
  have removed : line.length - (line.dropWhile isBlank).length = indent line := by omega
  simp only [withoutIndent,if_neg shorter,removed]

-- A word of 32 bits has no more than ten digits, so the bars have all the room they need.
theorem bar_fits {location : Location} (bound : location.number ≤ UInt32.size) :
    (Nat.toDigits 10 location.number).length + 2 ≤ largestCaretWidth := by
  have digits : (Nat.toDigits 10 location.number).length ≤ 10 := by
    apply (Nat.length_toDigits_le_iff (by decide) (by decide)).mpr
    exact Nat.lt_of_le_of_lt bound (by decide)
  exact Nat.le_trans (Nat.add_le_add_right digits 2) (by decide)

theorem excerpt_exact {location : Location} (bound : location.number ≤ UInt32.size) :
    excerpt location = (Diagnostic.excerpt location).mapError fun _ => .caret := by
  unfold excerpt Diagnostic.excerpt
  simp only [field_fits (bar_fits bound),withoutIndent_exact,bind,Except.bind,pure,Except.pure]
  have width : location.column - indent location.text + 1 = caretWidth location := rfl
  rw [width]
  by_cases wide : largestCaretWidth < caretWidth location
  · rw [if_pos wide,field,if_pos wide]
    rfl
  · rw [if_neg wide,field,if_neg wide]
    apply congrArg Except.ok
    apply String.toList_inj.mp
    simp [margin,caretWidth,shownText,String.toList_append,Nat.toList_repr]

theorem render_exact (diagnostic : Diagnostic) (content : String) :
    render diagnostic content = (diagnostic.render content).mapError fun _ => .caret := by
  unfold render Diagnostic.render
  split
  · rw [ByteLoop.locate_exact]
    simp only [Except.mapError,bind,Except.bind,pure,Except.pure]
    cases found : locate content.toList diagnostic.position.offset.toNat with
    | none => rfl
    | some location =>
      have bound : location.number ≤ UInt32.size :=
        Nat.le_trans (locate_number_bound found) diagnostic.position.offset.toNat_lt
      simp only [excerpt_exact bound]
      cases Diagnostic.excerpt location <;> rfl
  · rfl

end Checked

theorem source_position_exact {cause : Cause} :
    cause.hasSourcePosition = true ↔ ∃ token, cause = .unrecognisedToken token := by
  cases cause <;> simp [Cause.hasSourcePosition]

theorem excerpt_error {location : Location} : excerpt location = .error .caretTooWide ↔
    largestCaretWidth ≤ location.column - indent location.text := by
  unfold excerpt caretWidth
  split
  · rename_i wide
    simp only [true_iff]
    exact Nat.le_of_lt_succ wide
  · rename_i fits
    simp only [reduceCtorEq,false_iff]
    exact fun wide => fits (Nat.lt_succ_of_le wide)

theorem render_error {diagnostic : Diagnostic} {content : String} :
    diagnostic.render content = .error .caretTooWide ↔ diagnostic.cause.hasSourcePosition = true ∧
      ∃ location, locate content.toList diagnostic.position.offset.toNat = some location ∧
        largestCaretWidth ≤ location.column - indent location.text := by
  unfold render
  by_cases faulty : diagnostic.cause.hasSourcePosition = true
  · rw [if_pos faulty]
    cases found : locate content.toList diagnostic.position.offset.toNat with
    | none => simp
    | some location =>
      simp only [map_error,excerpt_error]
      simp [faulty]
  · simp [faulty]

end Diagnostic

theorem Position.saturate_kept {offset : Nat} (fits : offset < UInt32.size) (file : String) :
    (saturate offset file).offset.toNat = offset := by
  rw [saturate_offset]
  exact Nat.min_eq_left (Nat.le_of_lt_succ fits)

theorem rejected_within {source : String} {file : Option String} {diagnostic : Diagnostic} {location : Location}
    (short : source.utf8ByteSize < UInt32.size) (failed : tokenize source file = .error diagnostic)
    (found : locate source.toList diagnostic.position.offset.toNat = some location) :
    location.column < location.text.length := by
  obtain ⟨before,c,after,whole,strange,rfl⟩ := tokenize_error failed
  have fits : byteLength before < UInt32.size := by
    have bytes := congrArg byteLength whole
    rw [byteLength_toList,byteLength_append] at bytes
    omega
  obtain ⟨above,left,right,below,rfl,rfl,around⟩ := line_around before after (unrecognised_exact.mp strange).2.1
  have split : source.toList = above ++ (left ++ c :: right) ++ below := by simp [whole]
  rw [Position.saturate_kept fits,split,locate_line around (.inl (List.cons_ne_nil _ _))] at found
  obtain rfl := Option.some.inj found
  simp

theorem rejected_caret {source : String} {file : Option String} {diagnostic : Diagnostic} {location : Location}
    {width : Nat} (short : source.utf8ByteSize < UInt32.size)
    (narrow : ∀ line ∈ lines source.toList, line.body.length ≤ width)
    (failed : tokenize source file = .error diagnostic)
    (found : locate source.toList diagnostic.position.offset.toNat = some location) :
    Diagnostic.caretWidth location ≤ width := by
  have within := rejected_within short failed found
  obtain ⟨before,line,after,held,rfl⟩ := locate_holding found
  have bound : line.body.length ≤ width := by
    apply narrow line
    simp [held.split]
  unfold Diagnostic.caretWidth
  simp only at within ⊢
  omega

theorem locate_run (count : Nat) :
    locate (List.replicate count '(' ++ ['#']) count = some ⟨1,List.replicate count '(' ++ ['#'],count⟩ ∧
      (List.replicate count '(' ++ ['#']).takeWhile isBlank = [] := by
  have bytes : byteLength (List.replicate count '(') = count := by
    induction count with
    | zero => rfl
    | succ count ih => rw [List.replicate_succ,byteLength_cons,ih,Nat.add_comm]; rfl
  have line : IsLine [] (List.replicate count '(' ++ ['#']) [] := by
    refine ⟨?_,by simp [Breaks],by simp⟩
    intro c member
    rcases List.mem_append.mp member with run | last
    · rw [List.eq_of_mem_replicate run]
      rfl
    · rw [List.mem_singleton.mp last]
      rfl
  have found := locate_line line (.inl (List.cons_ne_nil '#' []))
  rw [List.nil_append,List.nil_append,List.append_nil,bytes,List.length_replicate,lines_nil] at found
  refine ⟨found,?_⟩
  cases count <;> rfl

-- Of all that is cut, subtracted and padded to show an error only the caret can fail, and it
-- does where it stands further right than a field is wide.
theorem rendering_limit :
    (∀ (diagnostic : Diagnostic) (content : String),
      Diagnostic.Checked.render diagnostic content = (diagnostic.render content).mapError (fun _ => .caret) ∧
      (diagnostic.render content = .error .caretTooWide ↔
        (∃ token, diagnostic.cause = .unrecognisedToken token) ∧
        diagnostic.position.offset.toNat < content.utf8ByteSize ∧
        ∃ location, locate content.toList diagnostic.position.offset.toNat = some location ∧
          65535 ≤ location.column - (location.text.takeWhile isBlank).length)) ∧
    ∀ (source : String) (file : Option String) (diagnostic : Diagnostic),
      source.utf8ByteSize < UInt32.size → (∀ line ∈ lines source.toList, line.body.length ≤ 65535) →
      tokenize source file = .error diagnostic → ∃ rendered, diagnostic.render source = .ok rendered := by
  constructor
  · intro diagnostic content
    refine ⟨Diagnostic.Checked.render_exact diagnostic content,?_⟩
    rw [Diagnostic.render_error,Diagnostic.source_position_exact,← byteLength_toList]
    refine and_congr_right fun _ => ⟨?_,fun failed => failed.2⟩
    rintro ⟨location,found,wide⟩
    exact ⟨locate_inside found,location,found,wide⟩
  · intro source file diagnostic short narrow failed
    cases drawn : diagnostic.render source with
    | ok rendered => exact ⟨rendered,rfl⟩
    | error failure =>
      obtain ⟨_,location,found,wide⟩ := Diagnostic.render_error.mp drawn
      have fits := rejected_caret short narrow failed found
      exact absurd fits (Nat.not_le_of_lt (Nat.lt_succ_of_le wide))

theorem rendering_limit_both_sides :
    let content := String.ofList (List.replicate 65535 '(' ++ ['#'])
    let wide : Diagnostic := ⟨.unrecognisedToken "#",⟨65535,"t.bas"⟩⟩
    let source := "\"é\"\r\n\t #ñ"
    let diagnostic : Diagnostic := ⟨.unrecognisedToken "#",⟨8,"shell"⟩⟩
    wide.render content = .error .caretTooWide ∧
      Diagnostic.Checked.render wide content = .error .caret ∧
      source.utf8ByteSize < UInt32.size ∧ (∀ line ∈ lines source.toList, line.body.length ≤ 65535) ∧
      tokenize source none = .error diagnostic ∧ ∃ rendered, diagnostic.render source = .ok rendered := by
  intro content wide source diagnostic
  obtain ⟨exact_failure,narrow_lines⟩ := rendering_limit
  obtain ⟨found,indented⟩ := locate_run 65535
  have located : locate content.toList 65535 = some ⟨1,content.toList,65535⟩ := by
    rw [String.toList_ofList]
    exact found
  have inside : (65535 : Nat) < content.utf8ByteSize := by
    rw [← byteLength_toList]
    exact locate_inside located
  obtain ⟨checked,failure⟩ := exact_failure wide content
  have failed : wide.render content = .error .caretTooWide := by
    refine failure.mpr ⟨⟨_,rfl⟩,inside,_,located,?_⟩
    simp only [content,String.toList_ofList,indented]
    exact Nat.le_refl _
  have short : source.utf8ByteSize < UInt32.size := by decide +kernel
  have narrow : ∀ line ∈ lines source.toList, line.body.length ≤ 65535 := by
    have all : ((lines source.toList).all fun line => line.body.length ≤ 65535) = true := by decide +kernel
    simpa using all
  have rejected : tokenize source none = .error diagnostic := by decide +kernel
  refine ⟨failed,?_,short,narrow,rejected,narrow_lines source none diagnostic short narrow rejected⟩
  rw [checked,failed]
  rfl

end BasicLex
