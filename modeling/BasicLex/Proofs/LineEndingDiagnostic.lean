import BasicLex.Diagnostic.Rendering
import BasicLex.Proofs.LineEnding
import BasicLex.Proofs.Strictness

namespace BasicLex
open Text

namespace Text

theorem byteLength_unifyEnds (text : List Char) : byteLength (unifyEnds text) ≤ byteLength text := by
  induction text with
  | nil => exact Nat.le_refl _
  | cons c text ih =>
    rw [unifyEnds_cons,byteLength_cons]
    split
    · rename_i carriage
      subst c
      have one : ('\r').utf8Size = 1 ∧ ('\n').utf8Size = 1 := by decide
      split
      · omega
      · rw [byteLength_cons]
        omega
    · rw [byteLength_cons]
      omega

theorem lines_unifyEnds (text : List Char) : lines (unifyEnds text) =
    (lines text).map fun line => ⟨line.body,unifyEnds line.terminator⟩ := by
  induction text using lines_induction with
  | plain body inner =>
    rw [unifyEnds_plain inner]
    by_cases none : body = []
    · subst body
      rw [lines_nil]
      rfl
    · rw [lines_plain inner none]
      rfl
  | ended body terminator after inner ends breaks ih =>
    have body_apart : Apart body (terminator ++ after) :=
      .of_absent _ fun member => absurd (inner _ member) (by decide)
    have feed : Breaks ['\n'] (unifyEnds after) := by simp [Breaks,isLineEnd]
    rw [lines_ended inner ends breaks,unifyEnds_append body_apart,unifyEnds_append breaks.apart,
      unifyEnds_plain inner,ends.unifyEnds_feed,lines_ended inner (.inl rfl) feed,ih,List.map_cons,
      ends.unifyEnds_feed]

theorem Breaks.unifyEnds {above rest : List Char} (breaks : Breaks above rest) (other : List Char) :
    Breaks (unifyEnds above) other := by
  intro c last
  have no_carriage : c ≠ '\r' := by
    rintro rfl
    exact unifyEnds_carriage above (List.mem_of_getLast? last)
  rw [unifyEnds_last] at last
  obtain ⟨d,found,rfl⟩ := Option.map_eq_some_iff.mp last
  refine ⟨?_,fun carriage => absurd carriage no_carriage⟩
  rw [feedFor_lineEnd]
  exact (breaks d found).1

theorem IsLine.unifyEnds {above line below : List Char} (around : IsLine above line below) :
    IsLine (unifyEnds above) line (unifyEnds below) := by
  refine ⟨around.inner,around.opened.unifyEnds _,?_⟩
  intro c first
  rw [unifyEnds_head] at first
  obtain ⟨d,found,rfl⟩ := Option.map_eq_some_iff.mp first
  rw [feedFor_lineEnd]
  exact around.closed d found

-- A character that ends no line is found in the same line and column, though not at the same
-- byte: each pair above it has become one byte shorter.
theorem locate_unifyEnds (before after : List Char) {c : Char} (inside : isLineEnd c = false) :
    locate (unifyEnds (before ++ c :: after)) (byteLength (unifyEnds before)) =
      locate (before ++ c :: after) (byteLength before) := by
  obtain ⟨above,left,right,below,rfl,rfl,around⟩ := line_around before after inside
  have left_plain : ∀ d ∈ left, isLineEnd d = false := fun d member =>
    around.inner d (List.mem_append_left _ member)
  have above_apart : Apart above left := by
    intro last feed
    exact absurd (left_plain '\n' (List.mem_of_head? feed)) (by decide)
  have below_apart : Apart (left ++ c :: right) below :=
    .of_absent _ fun member => absurd (around.inner _ member) (by decide)
  have whole : above ++ left ++ c :: (right ++ below) = above ++ (left ++ c :: right) ++ below := by simp
  have unified_left : Text.unifyEnds (above ++ left) = Text.unifyEnds above ++ left := by
    rw [unifyEnds_append above_apart,unifyEnds_plain left_plain]
  have unified_whole : Text.unifyEnds (above ++ (left ++ c :: right) ++ below) =
      Text.unifyEnds above ++ (left ++ c :: right) ++ Text.unifyEnds below := by
    rw [List.append_assoc,unifyEnds_append around.opened.apart,unifyEnds_append below_apart,
      unifyEnds_plain around.inner]
    exact (List.append_assoc _ _ _).symm
  rw [whole,unified_whole,unified_left,locate_line around.unifyEnds (.inl (List.cons_ne_nil _ _)),
    locate_line around (.inl (List.cons_ne_nil _ _)),lines_unifyEnds,List.length_map]

end Text

theorem Diagnostic.render_located {left right : Diagnostic} {content other : String}
    (cause : left.cause = right.cause) (file : left.position.file = right.position.file)
    (located : locate content.toList left.position.offset.toNat =
      locate other.toList right.position.offset.toNat) : left.render content = right.render other := by
  simp only [render,headline,cause,file,located]

theorem tokenize_unified (source : String) (file : Option String) :
    ((∃ tokens, tokenize source file = .ok tokens) ∧ ∃ tokens, tokenize (unified source) file = .ok tokens) ∨
    ∃ before c after, source.toList = before ++ c :: after ∧ isLineEnd c = false ∧
      tokenize source file = .error ⟨.unrecognisedToken (String.ofList [c]),
        .saturate (byteLength before) (file.getD unnamedSource)⟩ ∧
      tokenize (unified source) file = .error ⟨.unrecognisedToken (String.ofList [c]),
        .saturate (byteLength (unifyEnds before)) (file.getD unnamedSource)⟩ := by
  rcases tokenize_cases source file with ⟨known,read⟩ |
    ⟨before,gap,c,after,trailing,formed,whole,known,strange,rejected⟩
  · left
    have familiar : ∀ token ∈ (Cursor.ofSource (unified source)).tokens, token.kind ≠ .unknown := by
      obtain ⟨layout,formed,whole⟩ := Layout.exists_layout source
      rw [formed.source_tokens whole] at known
      rw [formed.unified_tokens whole]
      intro token member
      obtain ⟨original,inside,rfl⟩ := List.mem_map.mp member
      rw [original.unifyEnds_kind]
      exact known original inside
    exact ⟨⟨_,read⟩,⟨_,tokenize_known file familiar⟩⟩
  · right
    have plain := (unrecognised_exact.mp strange).2.1
    have items : Layout.unifyEnds ⟨before ++ ⟨gap,[c],⟨.unknown,String.ofList [c]⟩⟩ :: after,trailing⟩ =
        ⟨before.map Item.unifyEnds ++ ⟨gap,[c],⟨.unknown,String.ofList [c]⟩⟩ :: after.map Item.unifyEnds,
          trailing⟩ := by
      rw [Layout.unifyEnds,List.map_append,List.map_cons,Item.unifyEnds_unknown gap plain]
    have text := formed.unifyEnds_text
    have unified_formed := formed.unifyEnds
    rw [items,whole] at text
    rw [items] at unified_formed
    have unified_whole : unifyEnds source.toList = (unified source).toList := String.toList_ofList.symm
    have place : (before.map Item.unifyEnds).flatMap Item.chars ++ gap =
        unifyEnds (before.flatMap Item.chars ++ gap) := formed.before.unifyEnds_text
    have unified_rejected := unified_formed.tokenize_unknown (text.trans unified_whole)
      (Item.unifyEnds_kinds known) file
    rw [place] at unified_rejected
    refine ⟨_,c,Layout.text ⟨after,trailing⟩,?_,plain,rejected,unified_rejected⟩
    rw [← whole,Layout.text_split]
    rfl

theorem diagnostic_unified {source : String} (file : Option String)
    (short : source.utf8ByteSize < UInt32.size) :
    ((∃ diagnostic, tokenize source file = .error diagnostic) ↔
      ∃ other, tokenize (unified source) file = .error other) ∧
    ∀ diagnostic other, tokenize source file = .error diagnostic →
      tokenize (unified source) file = .error other →
      (∃ token, diagnostic.cause = .unrecognisedToken token ∧ other.cause = .unrecognisedToken token) ∧
      diagnostic.render source = other.render (unified source) := by
  rcases tokenize_unified source file with ⟨⟨_,read⟩,_,unified_read⟩ |
    ⟨before,c,after,whole,inside,rejected,unified_rejected⟩
  · simp [read,unified_read]
  · refine ⟨⟨fun _ => ⟨_,unified_rejected⟩,fun _ => ⟨_,rejected⟩⟩,?_⟩
    intro diagnostic other failed unified_failed
    obtain rfl := Except.error.inj (rejected.symm.trans failed)
    obtain rfl := Except.error.inj (unified_rejected.symm.trans unified_failed)
    refine ⟨⟨_,rfl,rfl⟩,Diagnostic.render_located rfl rfl ?_⟩
    have fits : byteLength before ≤ Position.largest := by
      have bytes := congrArg byteLength whole
      rw [byteLength_toList,byteLength_append] at bytes
      rw [UInt32.size] at short
      rw [Position.largest]
      omega
    have shorter := byteLength_unifyEnds before
    rw [Position.saturate_offset,Position.saturate_offset,Nat.min_eq_left fits,
      Nat.min_eq_left (Nat.le_trans shorter fits),unified,String.toList_ofList,whole]
    exact (locate_unifyEnds before after inside).symm

theorem diagnostic_unified_mixed :
    let source := "a\r\r\n\t\"\r\n\" é #\r"
    let diagnostic : Diagnostic := ⟨.unrecognisedToken "é",⟨10,"t.bas"⟩⟩
    let other : Diagnostic := ⟨.unrecognisedToken "é",⟨8,"t.bas"⟩⟩
    source.utf8ByteSize < UInt32.size ∧ tokenize source (some "t.bas") = .error diagnostic ∧
      tokenize (unified source) (some "t.bas") = .error other ∧
      diagnostic.render source = other.render (unified source) := by
  intro source diagnostic other
  have short : source.utf8ByteSize < UInt32.size := by decide +kernel
  have rejected : tokenize source (some "t.bas") = .error diagnostic := by decide +kernel
  have unified_rejected : tokenize (unified source) (some "t.bas") = .error other := by decide +kernel
  have same := (diagnostic_unified (some "t.bas") short).2 diagnostic other rejected unified_rejected
  exact ⟨short,rejected,unified_rejected,same.2⟩

end BasicLex
