import BasicLex.Diagnostic.Rendering
import BasicLex.Proofs.LineTable
import BasicLex.Proofs.Strictness

namespace BasicLex
open Text Unicode

structure Spot where
  above : List Char
  indentation : List Char
  left : List Char
  character : Char
  right : List Char
  below : List Char
deriving DecidableEq

namespace Spot

def indented (spot : Spot) : List Char := spot.left ++ spot.character :: spot.right

def line (spot : Spot) : List Char := spot.indentation ++ spot.indented

def text (spot : Spot) : List Char := spot.above ++ spot.line ++ spot.below

def offset (spot : Spot) : Nat := byteLength (spot.above ++ (spot.indentation ++ spot.left))

def number (spot : Spot) : Nat := (lines spot.above).length + 1

structure WellFormed (spot : Spot) : Prop where
  line : IsLine spot.above spot.line spot.below
  indentation : IsGap spot.indentation
  bounded : ∀ c ∈ spot.indented.head?, isBlank c = false

end Spot

structure Trimmed (line shown : List Char) : Prop where
  hidden : ∃ hidden, line = shown ++ hidden ∧ ∀ c ∈ hidden, isWhiteSpace c = true
  last : ∀ c ∈ shown.getLast?, isWhiteSpace c = false

structure Excerpt where
  bar : List Char
  numbered : List Char
  pointer : List Char
deriving DecidableEq

namespace Excerpt

def Ends (excerpt : Excerpt) (rendered : String) : Prop :=
  ∃ earlier, lines rendered.toList =
    earlier ++ [⟨excerpt.bar,['\n']⟩,⟨excerpt.numbered,['\n']⟩,⟨excerpt.pointer,['\n']⟩]

def caret (excerpt : Excerpt) : Nat := excerpt.pointer.idxOf '^'

-- The bars are below each other and the caret is below the character, which may
-- only be missing there as a part of the white space at the end of its line.
structure PointsAt (excerpt : Excerpt) (spot : Spot) : Prop where
  bar : ∃ width, excerpt.bar = List.replicate width ' ' ++ ['|']
  numbered : ∃ shown, Trimmed spot.indented shown ∧
    excerpt.numbered = Nat.toDigits 10 spot.number ++ [' ','|',' '] ++ shown
  pointer : ∃ width, excerpt.pointer =
    List.replicate width ' ' ++ ['|',' '] ++ List.replicate spot.left.length '-' ++ ['^']
  aligned : excerpt.numbered.idxOf '|' = excerpt.bar.idxOf '|' ∧
    excerpt.pointer.idxOf '|' = excerpt.bar.idxOf '|'
  column : excerpt.caret = excerpt.bar.idxOf '|' + 2 + spot.left.length
  under : (∃ c ∈ spot.character :: spot.right, isWhiteSpace c = false) →
    excerpt.numbered[excerpt.caret]? = some spot.character
  beyond : (∀ c ∈ spot.character :: spot.right, isWhiteSpace c = true) →
    excerpt.numbered.length ≤ excerpt.caret

end Excerpt

theorem Diagnostic.trimEnd_trimmed (line : List Char) : Trimmed line (trimEnd line) := by
  refine ⟨⟨line.rtakeWhile isWhiteSpace,List.rdropWhile_append_rtakeWhile.symm,
    fun c member => List.mem_rtakeWhile_imp member⟩,?_⟩
  intro c last
  rw [trimEnd,List.getLast?_reverse] at last
  exact dropWhile_head _ _ c last

theorem Trimmed.cases {left right shown : List Char} (trimmed : Trimmed (left ++ right) shown) :
    (∃ more hidden, shown = left ++ more ∧ more ≠ [] ∧ right = more ++ hidden ∧
      ∃ c ∈ right, isWhiteSpace c = false) ∨
    (shown.length ≤ left.length ∧ ∀ c ∈ right, isWhiteSpace c = true) := by
  obtain ⟨⟨hidden,whole,white⟩,last⟩ := trimmed
  rcases List.append_eq_append_iff.mp whole with ⟨more,rfl,rfl⟩ | ⟨more,rfl,rfl⟩
  · by_cases none : more = []
    · subst more
      right
      exact ⟨by simp,by simpa using white⟩
    · left
      refine ⟨more,hidden,rfl,none,rfl,more.getLast none,by simp,?_⟩
      exact last _ (by rw [List.getLast?_append_of_ne_nil _ none,List.getLast?_eq_some_getLast none]; rfl)
  · right
    refine ⟨by simp,?_⟩
    intro c member
    exact white c (List.mem_append_right _ member)

theorem idxOf_behind {c : Char} {front : List Char} (rest : List Char) (absent : c ∉ front) :
    (front ++ c :: rest).idxOf c = front.length := by
  rw [List.idxOf_append,if_neg absent,List.idxOf_cons_self,Nat.zero_add]

namespace Spot

def excerpt (spot : Spot) : Excerpt :=
  let width := (Nat.toDigits 10 spot.number).length + 1
  ⟨List.replicate width ' ' ++ ['|'],
    Nat.toDigits 10 spot.number ++ [' ','|',' '] ++ Diagnostic.trimEnd spot.indented,
    List.replicate width ' ' ++ ['|',' '] ++ List.replicate spot.left.length '-' ++ ['^']⟩

theorem excerpt_bar (spot : Spot) :
    spot.excerpt.bar.idxOf '|' = (Nat.toDigits 10 spot.number).length + 1 := by
  rw [excerpt,idxOf_behind [] (by simp),List.length_replicate]

theorem excerpt_numbered (spot : Spot) :
    spot.excerpt.numbered.idxOf '|' = (Nat.toDigits 10 spot.number).length + 1 := by
  have split : spot.excerpt.numbered =
      (Nat.toDigits 10 spot.number ++ [' ']) ++ '|' :: (' ' :: Diagnostic.trimEnd spot.indented) := by
    simp [excerpt]
  have absent : '|' ∉ Nat.toDigits 10 spot.number ++ [' '] := by
    intro member
    rcases List.mem_append.mp member with digit | blank
    · exact ne_of_class (Nat.isDigit_of_mem_toDigits (by decide) (by decide) digit) rfl rfl
    · exact absurd (List.mem_singleton.mp blank) (by decide)
  rw [split,idxOf_behind _ absent]
  simp

theorem excerpt_pointer (spot : Spot) :
    spot.excerpt.pointer.idxOf '|' = (Nat.toDigits 10 spot.number).length + 1 := by
  have split : spot.excerpt.pointer = List.replicate ((Nat.toDigits 10 spot.number).length + 1) ' ' ++
      '|' :: (' ' :: (List.replicate spot.left.length '-' ++ ['^'])) := by
    simp [excerpt]
  rw [split,idxOf_behind _ (by simp),List.length_replicate]

theorem excerpt_caret (spot : Spot) :
    spot.excerpt.caret = (Nat.toDigits 10 spot.number).length + 1 + 2 + spot.left.length := by
  rw [Excerpt.caret,excerpt,idxOf_behind [] (by simp)]
  simp only [List.length_append,List.length_replicate,List.length_cons,List.length_nil]

theorem excerpt_points (spot : Spot) : spot.excerpt.PointsAt spot := by
  have trimmed : Trimmed spot.indented (Diagnostic.trimEnd spot.indented) := Diagnostic.trimEnd_trimmed _
  have front : (Nat.toDigits 10 spot.number ++ [' ','|',' ']).length =
      (Nat.toDigits 10 spot.number).length + 1 + 2 := by simp
  refine ⟨⟨_,rfl⟩,⟨_,trimmed,rfl⟩,⟨_,rfl⟩,⟨?_,?_⟩,?_,?_,?_⟩
  · rw [excerpt_numbered,excerpt_bar]
  · rw [excerpt_pointer,excerpt_bar]
  · rw [excerpt_caret,excerpt_bar]
  · rintro ⟨d,member,visible⟩
    rcases trimmed.cases with ⟨more,hidden,shown,some_shown,right,_⟩ | ⟨_,white⟩
    · obtain ⟨c,more,rfl⟩ := List.exists_cons_of_ne_nil some_shown
      obtain ⟨rfl,_⟩ := List.cons.inj right
      rw [excerpt_caret,excerpt,← front,List.getElem?_append_right (Nat.le_add_right _ _),
        Nat.add_sub_cancel_left,shown]
      simp
    · rw [white d member] at visible
      cases visible
  · intro white
    rcases trimmed.cases with ⟨_,_,_,_,_,c,member,visible⟩ | ⟨short,_⟩
    · rw [white c member] at visible
      cases visible
    · rw [excerpt_caret,excerpt,List.length_append,front]
      exact Nat.add_le_add_left short _

theorem excerpt_inner {spot : Spot} (formed : spot.WellFormed) :
    (∀ c ∈ spot.excerpt.bar, isLineEnd c = false) ∧
    (∀ c ∈ spot.excerpt.numbered, isLineEnd c = false) ∧
    (∀ c ∈ spot.excerpt.pointer, isLineEnd c = false) := by
  have run (width : Nat) (c : Char) (plain : isLineEnd c = false) :
      ∀ d ∈ List.replicate width c, isLineEnd d = false := by
    intro d member
    rwa [List.eq_of_mem_replicate member]
  have digits : ∀ c ∈ Nat.toDigits 10 spot.number, isLineEnd c = false := by
    intro c member
    have digit := Nat.isDigit_of_mem_toDigits (by decide) (by decide) member
    exact lineEnd_exact.mpr ⟨ne_of_class digit rfl,ne_of_class digit rfl⟩
  have shown : ∀ c ∈ Diagnostic.trimEnd spot.indented, isLineEnd c = false := by
    intro c member
    have inside : c ∈ spot.indented := (List.rdropWhile_prefix isWhiteSpace _).subset member
    exact formed.line.inner c (List.mem_append_right _ inside)
  have marks : ∀ c ∈ [' ','|','^'], isLineEnd c = false := by simp [isLineEnd]
  have among {text : List Char} (part : text ⊆ [' ','|','^']) : ∀ c ∈ text, isLineEnd c = false :=
    fun c member => marks c (part member)
  simp only [excerpt,List.forall_mem_append]
  refine ⟨⟨run _ ' ' rfl,among ?_⟩,⟨⟨digits,among ?_⟩,shown⟩,
    ⟨⟨run _ ' ' rfl,among ?_⟩,run _ '-' rfl⟩,among ?_⟩
  all_goals simp

theorem excerpt_ends {spot : Spot} (formed : spot.WellFormed) {rendered : String}
    (opening : List Char) (written : rendered.toList = (opening ++ ['\n']) ++ (spot.excerpt.bar ++ (['\n'] ++
      (spot.excerpt.numbered ++ (['\n'] ++ (spot.excerpt.pointer ++ (['\n'] ++ []))))))) :
    spot.excerpt.Ends rendered := by
  obtain ⟨bar,numbered,pointer⟩ := excerpt_inner formed
  have ends : IsTerminator ['\n'] := .inl rfl
  have feed (rest : List Char) : Breaks ['\n'] rest := by simp [Breaks,isLineEnd]
  have breaks (rest : List Char) : Breaks (opening ++ ['\n']) rest := by simp [Breaks,isLineEnd]
  refine ⟨lines (opening ++ ['\n']),?_⟩
  rw [written,lines_append (breaks _),lines_ended bar ends (feed _),lines_ended numbered ends (feed _),
    lines_ended pointer ends (feed _),lines_nil]

theorem around (before after : List Char) {c : Char} (inside : isLineEnd c = false)
    (visible : isBlank c = false) : ∃ spot : Spot, spot.WellFormed ∧ spot.character = c ∧
      before = spot.above ++ (spot.indentation ++ spot.left) ∧ after = spot.right ++ spot.below := by
  obtain ⟨above,left,right,below,rfl,rfl,line⟩ := line_around before after inside
  have whole := List.takeWhile_append_dropWhile (p := isBlank) (l := left)
  refine ⟨⟨above,left.takeWhile isBlank,left.dropWhile isBlank,c,right,below⟩,⟨?_,?_,?_⟩,rfl,?_,rfl⟩
  · rwa [Spot.line,indented,← List.append_assoc,whole]
  · intro d member
    exact List.mem_takeWhile_imp member
  · -- The first character that is shown stands in front of the spot or is the spot.
    intro d first
    cases rest : left.dropWhile isBlank with
    | nil =>
      obtain rfl : c = d := by simpa [indented,rest] using first
      exact visible
    | cons e more =>
      obtain rfl : e = d := by simpa [indented,rest] using first
      exact dropWhile_head isBlank left e (by rw [rest]; rfl)
  · rw [whole]

theorem locate_spot {spot : Spot} (formed : spot.WellFormed) :
    locate spot.text spot.offset =
      some ⟨spot.number,spot.line,(spot.indentation ++ spot.left).length⟩ := by
  have split : spot.line = spot.indentation ++ spot.left ++ spot.character :: spot.right :=
    (List.append_assoc _ _ _).symm
  have line := formed.line
  rw [split] at line
  rw [text,split,offset,number]
  exact locate_line line (.inl (List.cons_ne_nil _ _))

theorem caretWidth_spot {spot : Spot} (formed : spot.WellFormed) :
    Diagnostic.caretWidth ⟨spot.number,spot.line,(spot.indentation ++ spot.left).length⟩ =
      spot.left.length + 1 := by
  rw [Diagnostic.caretWidth,Diagnostic.indent,line,
    takeWhile_bounded formed.indentation formed.bounded,List.length_append,Nat.add_sub_cancel_left]

end Spot

theorem Diagnostic.excerpt_spot {spot : Spot} (formed : spot.WellFormed)
    (narrow : spot.left.length + 1 ≤ 65535) :
    ∃ rendered, excerpt ⟨spot.number,spot.line,(spot.indentation ++ spot.left).length⟩ = .ok rendered ∧
      rendered.toList = spot.excerpt.bar ++ (['\n'] ++
        (spot.excerpt.numbered ++ (['\n'] ++ (spot.excerpt.pointer ++ (['\n'] ++ []))))) := by
  have fits : ¬largestCaretWidth < spot.left.length + 1 := Nat.not_lt.mpr narrow
  have shown : shownText spot.line = trimEnd spot.indented := by
    rw [shownText,Spot.line,dropWhile_bounded formed.indentation formed.bounded]
  refine ⟨_,by rw [excerpt,Spot.caretWidth_spot formed,if_neg fits],?_⟩
  simp [shown,margin,Spot.excerpt,String.toList_append,Nat.toList_repr]

theorem Diagnostic.render_spot {spot : Spot} (formed : spot.WellFormed)
    (narrow : spot.left.length + 1 ≤ 65535) {diagnostic : Diagnostic} {source : String}
    (faulty : diagnostic.cause.hasSourcePosition = true) (whole : spot.text = source.toList)
    (place : diagnostic.position.offset.toNat = spot.offset) :
    ∃ rendered, diagnostic.render source = .ok rendered ∧ spot.excerpt.Ends rendered := by
  obtain ⟨shown,read,written⟩ := excerpt_spot formed narrow
  let opening := diagnostic.headline ++ "-> " ++ diagnostic.position.file
  refine ⟨opening ++ "\n" ++ shown,?_,?_⟩
  · rw [render,if_pos faulty,← whole,place,Spot.locate_spot formed]
    simp only [read]
    rfl
  · apply Spot.excerpt_ends formed opening.toList
    rw [String.toList_append,String.toList_append,written]
    rfl

-- Only a caret that is too wide for the layout keeps the excerpt from being shown.
-- The file name is free: what it puts above the excerpt does not reach into it.
theorem caret_under_rejected {source : String} {file : Option String} {diagnostic : Diagnostic}
    (short : source.utf8ByteSize < UInt32.size) (failed : tokenize source file = .error diagnostic) :
    ∃ spot : Spot, spot.WellFormed ∧ spot.text = source.toList ∧
      diagnostic.cause = .unrecognisedToken (String.ofList [spot.character]) ∧
      diagnostic.position.offset.toNat = spot.offset ∧
      (spot.left.length + 1 ≤ 65535 → ∃ rendered excerpt, diagnostic.render source = .ok rendered ∧
        Excerpt.Ends excerpt rendered ∧ excerpt.PointsAt spot) := by
  obtain ⟨before,c,after,whole,strange,same⟩ := tokenize_error failed
  obtain ⟨visible,inside,_⟩ := unrecognised_exact.mp strange
  obtain ⟨spot,formed,rfl,rfl,rfl⟩ := Spot.around before after inside visible
  have text : spot.text = source.toList := by
    rw [whole]
    simp [Spot.text,Spot.line,Spot.indented]
  have cause : diagnostic.cause = .unrecognisedToken (String.ofList [spot.character]) := by rw [same]
  have place : diagnostic.position.offset.toNat = spot.offset := by
    have bytes := congrArg byteLength whole
    rw [byteLength_toList,byteLength_append] at bytes
    rw [same,Position.saturate_offset]
    apply Nat.min_eq_left
    rw [Position.largest]
    rw [UInt32.size] at short
    omega
  refine ⟨spot,formed,text,cause,place,?_⟩
  intro narrow
  have faulty : diagnostic.cause.hasSourcePosition = true := by rw [cause]; rfl
  obtain ⟨rendered,read,ends⟩ := Diagnostic.render_spot formed narrow faulty text place
  exact ⟨rendered,spot.excerpt,read,ends,spot.excerpt_points⟩

theorem caret_under_rejected_tabbed :
    let source := "a\r\n\tDim \"é\" # 1"
    let diagnostic : Diagnostic := ⟨.unrecognisedToken "#",⟨13,"shell"⟩⟩
    source.utf8ByteSize < UInt32.size ∧ tokenize source none = .error diagnostic ∧
    ∃ spot : Spot, spot.WellFormed ∧ spot.text = source.toList ∧
      diagnostic.cause = .unrecognisedToken (String.ofList [spot.character]) ∧
      diagnostic.position.offset.toNat = spot.offset ∧ spot.left.length + 1 ≤ 65535 ∧
      ∃ rendered excerpt, diagnostic.render source = .ok rendered ∧
        Excerpt.Ends excerpt rendered ∧ excerpt.PointsAt spot := by
  intro source diagnostic
  have short : source.utf8ByteSize < UInt32.size := by decide +kernel
  have failed : tokenize source none = .error diagnostic := by decide +kernel
  obtain ⟨spot,formed,whole,cause,place,shown⟩ := caret_under_rejected short failed
  have narrow : spot.left.length + 1 ≤ 65535 := by
    have characters : spot.text.length = 15 := by rw [whole]; decide +kernel
    simp only [Spot.text,Spot.line,Spot.indented,List.length_append,List.length_cons] at characters
    omega
  exact ⟨short,failed,spot,formed,whole,cause,place,narrow,shown narrow⟩

end BasicLex
