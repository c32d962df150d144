import BasicLex.Proofs.Cut
import BasicLex.Stream

namespace BasicLex
open Text

-- One reading step told by its effect on the text. How the end of a token is
-- found does not matter here.
structure Reads (cursor : Cursor) (gap : List Char) (piece : Piece) (after : Cursor) : Prop where
  blank : IsGap gap
  text : cursor.rest = gap ++ (piece.spelling ++ after.rest)
  start : piece.start = cursor.offset + byteLength gap
  stop : after.offset = cursor.offset + byteLength gap + byteLength piece.spelling
  spelled : Spells piece.token piece.spelling ∨
    (SpellsOpen piece.token piece.spelling ∧ after.rest = [])
  bounded : ∀ c ∈ after.rest.head?, absorbs piece.token piece.spelling c = false

namespace Cursor

theorem next?_sound {cursor after : Cursor} {piece : Piece}
    (found : cursor.next? = some (piece,after)) :
    Reads cursor (cursor.rest.takeWhile isBlank) piece after := by
  obtain ⟨c,rest,left,cut,stop⟩ := next?_exact.mp found
  have visible : isBlank c = false := dropWhile_head _ cursor.rest c (by
    rw [show cursor.rest.dropWhile isBlank = c :: rest from left]; rfl)
  obtain ⟨spelled,bounded⟩ := Piece.cut_sound visible cut
  have begins : piece.start = cursor.offset + byteLength (cursor.rest.takeWhile isBlank) := by
    rw [show piece = (Piece.cut cursor.skipBlanks.offset c rest).1 by rw [cut],Piece.cut_start]
    rfl
  refine ⟨fun d member => List.mem_takeWhile_imp member,?_,begins,?_,spelled,bounded⟩
  · have whole := Piece.cut_lossless cursor.skipBlanks.offset c rest
    rw [cut] at whole
    rw [whole,← left]
    exact List.takeWhile_append_dropWhile.symm
  · rw [stop,Piece.stop,begins]

end Cursor

theorem Reads.visible {cursor after : Cursor} {gap : List Char} {piece : Piece}
    (read : Reads cursor gap piece after) :
    ∃ c more, piece.spelling = c :: more ∧ isBlank c = false ∧
      Piece.cut piece.start c (more ++ after.rest) = (piece,after.rest) := by
  obtain ⟨start,spelling,token⟩ := piece
  rcases read.spelled with spelled | ⟨opened,ended⟩
  · exact Piece.cut_complete start spelled read.bounded
  · obtain ⟨c,more,spelt,visible,cut⟩ := Piece.cut_open start opened
    exact ⟨c,more,spelt,visible,by simpa [ended] using cut⟩

theorem Reads.gap_exact {cursor after : Cursor} {gap : List Char} {piece : Piece}
    (read : Reads cursor gap piece after) : cursor.rest.takeWhile isBlank = gap ∧
      cursor.rest.dropWhile isBlank = piece.spelling ++ after.rest := by
  obtain ⟨c,more,spelt,visible,_⟩ := read.visible
  have bounded : ∀ d ∈ (piece.spelling ++ after.rest).head?, isBlank d = false := by
    intro d first
    obtain rfl : c = d := by simpa [spelt] using first
    exact visible
  rw [read.text]
  exact ⟨takeWhile_bounded read.blank bounded,dropWhile_bounded read.blank bounded⟩

theorem Reads.next? {cursor after : Cursor} {gap : List Char} {piece : Piece}
    (read : Reads cursor gap piece after) : cursor.next? = some (piece,after) := by
  obtain ⟨c,more,spelt,_,cut⟩ := read.visible
  obtain ⟨passed,left⟩ := read.gap_exact
  have begins : cursor.skipBlanks.offset = piece.start := by
    rw [read.start,← passed]
    rfl
  refine Cursor.next?_exact.mpr ⟨c,more ++ after.rest,?_,?_,?_⟩
  · rw [show cursor.skipBlanks.rest = piece.spelling ++ after.rest from left,spelt]
    rfl
  · rw [begins,cut]
  · rw [read.stop,Piece.stop,read.start]

theorem reads_exact {cursor after : Cursor} {piece : Piece} :
    cursor.next? = some (piece,after) ↔ ∃ gap, Reads cursor gap piece after :=
  ⟨fun found => ⟨_,Cursor.next?_sound found⟩,fun ⟨_,read⟩ => read.next?⟩

theorem Reads.longest {cursor after : Cursor} {gap : List Char} {piece : Piece}
    (read : Reads cursor gap piece after) : Longest piece.spelling after.rest := by
  intro token other spelled begins
  obtain ⟨c,more,spelt,_,cut⟩ := read.visible
  rw [spelt,List.cons_append] at begins
  have bound := Piece.cut_longest piece.start spelled begins
  rwa [cut] at bound

namespace Layout

def ofCursor (cursor : Cursor) : Layout :=
  match _found : cursor.next? with
  | none => ⟨[],cursor.rest⟩
  | some (piece,after) =>
    ⟨⟨cursor.rest.takeWhile isBlank,piece.spelling,piece.token⟩ :: (ofCursor after).items,
      (ofCursor after).trailing⟩
termination_by cursor.rest.length
decreasing_by all_goals exact Cursor.next?_shorter _found

theorem ofCursor_end {cursor : Cursor} (ended : cursor.next? = none) :
    ofCursor cursor = ⟨[],cursor.rest⟩ := by
  rw [ofCursor]
  split
  · rfl
  · rename_i found; rw [ended] at found; cases found

theorem ofCursor_read {cursor after : Cursor} {gap : List Char} {piece : Piece}
    (read : Reads cursor gap piece after) :
    ofCursor cursor = ⟨⟨gap,piece.spelling,piece.token⟩ :: (ofCursor after).items,
      (ofCursor after).trailing⟩ := by
  rw [ofCursor]
  split
  · rename_i ended; rw [read.next?] at ended; cases ended
  · rename_i again
    rw [read.next?] at again
    cases again
    rw [read.gap_exact.1]

theorem ofCursor_text (cursor : Cursor) : (ofCursor cursor).text = cursor.rest := by
  induction cursor using Cursor.run_induction with
  | ended cursor ended => simp [ofCursor_end ended,text]
  | step cursor piece after found ih =>
    have read := Cursor.next?_sound found
    rw [ofCursor_read read,text_cons,ih]
    exact read.text.symm

theorem ofCursor_wellFormed (cursor : Cursor) : (ofCursor cursor).WellFormed := by
  induction cursor using Cursor.run_induction with
  | ended cursor ended =>
    rw [ofCursor_end ended]
    exact .empty (List.dropWhile_eq_nil_iff.mp (Cursor.next?_none.mp ended))
  | step cursor piece after found ih =>
    have read := Cursor.next?_sound found
    rw [ofCursor_read read,wellFormed_cons]
    refine ⟨read.blank,?_,?_,ih⟩
    · rcases read.spelled with spelled | ⟨opened,rest⟩
      · exact .inl spelled
      · have ended : after.next? = none := by
          rw [Cursor.next?_none,Cursor.skipBlanks,rest]
          rfl
        exact .inr ⟨opened,by rw [ofCursor_end ended],by rw [ofCursor_end ended,rest]⟩
    · rw [ofCursor_text]
      exact read.bounded

theorem exists_layout (source : String) :
    ∃ layout : Layout, layout.WellFormed ∧ layout.text = source.toList :=
  ⟨ofCursor (.ofSource source),ofCursor_wellFormed _,ofCursor_text _⟩

theorem WellFormed.read {item : Item} {items : List Item} {trailing : List Char}
    (formed : WellFormed ⟨item :: items,trailing⟩) (start : Nat) :
    Reads ⟨start,text ⟨item :: items,trailing⟩⟩ item.gap
      ⟨start + byteLength item.gap,item.spelling,item.token⟩
      ⟨start + byteLength item.chars,text ⟨items,trailing⟩⟩ := by
  obtain ⟨blank,spelled,bounded,_⟩ := wellFormed_cons.mp formed
  refine ⟨blank,text_cons _ _ _,rfl,?_,?_,bounded⟩
  · simp [Item.chars,Nat.add_assoc]
  · rcases spelled with spelled | ⟨opened,rfl,rfl⟩
    · exact .inl spelled
    · exact .inr ⟨opened,rfl⟩

theorem WellFormed.ended {trailing : List Char} (formed : WellFormed ⟨[],trailing⟩) (start : Nat) :
    Cursor.next? ⟨start,text ⟨[],trailing⟩⟩ = none :=
  Cursor.next?_none.mpr (List.dropWhile_eq_nil_iff.mpr formed.trailing)

theorem WellFormed.ofCursor {layout : Layout} (formed : layout.WellFormed) (start : Nat) :
    ofCursor ⟨start,layout.text⟩ = layout := by
  -- Reading the first item leaves the text of the remaining layout.
  obtain ⟨items,trailing⟩ := layout
  induction items generalizing start with
  | nil => exact ofCursor_end (formed.ended start)
  | cons item items ih =>
    rw [ofCursor_read (formed.read start),ih _ (wellFormed_cons.mp formed).2.2.2]

theorem wellFormed_exact {layout : Layout} :
    layout.WellFormed ↔ Layout.ofCursor ⟨0,layout.text⟩ = layout :=
  ⟨fun formed => formed.ofCursor 0,fun same => same ▸ ofCursor_wellFormed _⟩

instance : DecidablePred WellFormed := fun _ => decidable_of_iff _ wellFormed_exact.symm

theorem WellFormed.steps {layout : Layout} (formed : layout.WellFormed) (start : Nat) :
    Cursor.steps ⟨start,layout.text⟩ = layout.steps start := by
  obtain ⟨items,trailing⟩ := layout
  induction items generalizing start with
  | nil => exact Cursor.steps_end (formed.ended start)
  | cons item items ih =>
    rw [Cursor.steps_step (formed.read start).next?,ih _ (wellFormed_cons.mp formed).2.2.2]
    rfl

theorem WellFormed.suffix {before items : List Item} {trailing : List Char}
    (formed : WellFormed ⟨before ++ items,trailing⟩) : WellFormed ⟨items,trailing⟩ := by
  obtain ⟨_,rest,_⟩ := (@wellFormed_append before ⟨items,trailing⟩).mp formed
  exact rest

theorem steps_length (layout : Layout) (start : Nat) :
    (layout.steps start).length = layout.items.length := by
  obtain ⟨items,trailing⟩ := layout
  unfold steps
  induction items generalizing start with
  | nil => rfl
  | cons item items ih => exact congrArg (· + 1) (ih _)

theorem steps_tokens (layout : Layout) (start : Nat) :
    (layout.steps start).map (fun step => step.1.token) = layout.tokens := by
  obtain ⟨items,trailing⟩ := layout
  unfold steps tokens
  induction items generalizing start with
  | nil => rfl
  | cons item items ih => exact congrArg (item.token :: ·) (ih _)

end Layout

namespace Cursor

theorem calls_finish (count : Nat) (cursor : Cursor) :
    calls count cursor.finish = List.replicate count (Token.eof,cursor.finish) := by
  induction count with
  | zero => rfl
  | succ count ih =>
    have stays : cursor.finish.next = (Token.eof,cursor.finish) := by
      rw [next,finish_next?,finish_finish]
    rw [calls,stays,ih,List.replicate_succ]

theorem calls_exact (cursor : Cursor) (extra : Nat) :
    calls (cursor.steps.length + extra) cursor =
      cursor.steps.map (fun step => (step.1.token,step.2)) ++
        List.replicate extra (Token.eof,cursor.finish) := by
  induction cursor using run_induction with
  | ended cursor ended =>
    rw [steps_end ended,List.length_nil,Nat.zero_add]
    cases extra with
    | zero => rfl
    | succ extra =>
      have ends : cursor.next = (Token.eof,cursor.finish) := by rw [next,ended]
      rw [calls,ends,calls_finish,List.replicate_succ]
      rfl
  | step cursor piece after found ih =>
    have answers : cursor.next = (piece.token,after) := by rw [next,found]
    rw [finish_after found] at ih
    rw [steps_step found,List.length_cons,Nat.add_right_comm,calls,answers,ih]
    rfl

end Cursor

namespace Layout

theorem WellFormed.calls {layout : Layout} (formed : layout.WellFormed) (start extra : Nat) :
    Cursor.calls (layout.items.length + extra) ⟨start,layout.text⟩ =
      (layout.steps start).map (fun step => (step.1.token,step.2)) ++
        List.replicate extra (Token.eof,⟨start + byteLength layout.text,[]⟩) := by
  have exact_calls := Cursor.calls_exact ⟨start,layout.text⟩ extra
  rw [formed.steps,steps_length] at exact_calls
  exact exact_calls

theorem WellFormed.next {item : Item} {items : List Item} {trailing : List Char}
    (formed : WellFormed ⟨item :: items,trailing⟩) (start : Nat) :
    Cursor.next ⟨start,text ⟨item :: items,trailing⟩⟩ =
      (item.token,⟨start + byteLength item.chars,text ⟨items,trailing⟩⟩) := by
  rw [Cursor.next,(formed.read start).next?]

theorem WellFormed.call_item {before after : List Item} {item : Item} {trailing : List Char}
    (formed : WellFormed ⟨before ++ item :: after,trailing⟩) (start extra : Nat) :
    (Cursor.calls (before.length + (extra + 1))
        ⟨start,text ⟨before ++ item :: after,trailing⟩⟩)[before.length]? =
      some (item.token,
        ⟨start + byteLength ((before ++ [item]).flatMap Item.chars),text ⟨after,trailing⟩⟩) := by
  induction before generalizing start with
  | nil =>
    rw [List.nil_append] at formed ⊢
    rw [List.length_nil,Nat.zero_add,Cursor.calls,formed.next,List.getElem?_cons_zero]
    simp
  | cons first before ih =>
    rw [List.cons_append] at formed ⊢
    rw [List.length_cons,Nat.add_right_comm,Cursor.calls,formed.next,List.getElem?_cons_succ,
      ih (wellFormed_cons.mp formed).2.2.2]
    simp [Nat.add_assoc]

theorem WellFormed.tokens {layout : Layout} (formed : layout.WellFormed) (start : Nat) :
    Cursor.tokens ⟨start,layout.text⟩ = layout.tokens := by
  unfold Cursor.tokens Cursor.pieces
  rw [formed.steps,List.map_map]
  exact steps_tokens layout start

theorem WellFormed.drain {layout : Layout} (formed : layout.WellFormed) (start : Nat) :
    Cursor.drain ⟨start,layout.text⟩ = (layout.tokens,⟨start + byteLength layout.text,[]⟩) := by
  rw [Cursor.drain_exact,formed.tokens]
  rfl

theorem WellFormed.source_tokens {layout : Layout} {source : String} (formed : layout.WellFormed)
    (whole : layout.text = source.toList) : (Cursor.ofSource source).tokens = layout.tokens := by
  rw [Cursor.ofSource,← whole,formed.tokens]

end Layout

-- The layout covers the text without a loss, a double or an overlap. The end marker
-- belongs to no item: it is first returned by the call after the last one.
theorem scan_lossless (source : String) :
    ∃ layout : Layout, layout.WellFormed ∧ layout.text = source.toList ∧
      (∀ before item after, layout.items = before ++ item :: after →
        item.token.kind ≠ .endOfFile ∧
        (Cursor.calls (layout.items.length + 1) (.ofSource source))[before.length]? =
          some (item.token,⟨byteLength ((before ++ [item]).flatMap Item.chars),
            Layout.text ⟨after,layout.trailing⟩⟩) ∧
        Longest item.spelling (Layout.text ⟨after,layout.trailing⟩)) ∧
      (Cursor.calls (layout.items.length + 1) (.ofSource source))[layout.items.length]? =
        some (Token.eof,⟨source.utf8ByteSize,[]⟩) := by
  obtain ⟨layout,formed,whole⟩ := Layout.exists_layout source
  refine ⟨layout,formed,whole,?_,?_⟩
  · intro before item after split
    obtain ⟨items,trailing⟩ := layout
    obtain rfl : items = before ++ item :: after := split
    refine ⟨?_,?_,(formed.suffix.read 0).longest⟩
    · rcases formed.spelled before item after rfl with spelled | ⟨opened,_,_⟩
      · exact spelled.not_eof
      · exact opened.not_eof
    · have answer := formed.call_item 0 (after.length + 1)
      rw [whole,Nat.zero_add] at answer
      rw [Cursor.ofSource,List.length_append,List.length_cons,Nat.add_assoc]
      exact answer
  · have answers := formed.calls 0 1
    rw [whole,byteLength_toList,Nat.zero_add] at answers
    rw [Cursor.ofSource,answers,List.getElem?_append_right (by simp [Layout.steps_length])]
    simp [Layout.steps_length]

theorem scan_printed {layout : Layout} (formed : layout.WellFormed) :
    (Cursor.ofSource (String.ofList layout.text)).drain =
      (layout.tokens,⟨byteLength layout.text,[]⟩) ∧
    ∀ other : Layout, other.WellFormed → other.text = layout.text → other = layout := by
  constructor
  · have drained := formed.drain 0
    rw [Nat.zero_add] at drained
    rwa [Cursor.ofSource,String.toList_ofList]
  · intro other otherFormed same
    have first := formed.ofCursor 0
    rw [← same,otherFormed.ofCursor 0] at first
    exact first

theorem scan_printed_crowded :
    let layout : Layout := ⟨[
      ⟨[],['1','2'],⟨.number,"12"⟩⟩,⟨[],['D','i','m'],⟨.keyword .dimKw,"Dim"⟩⟩,
      ⟨[' '],['x','_','é'],⟨.identifier,"x_é"⟩⟩,⟨[],['#'],⟨.unknown,"#"⟩⟩,⟨[],['é'],⟨.unknown,"é"⟩⟩,
      ⟨[],['\r'],⟨.endOfStatement,""⟩⟩,⟨[' '],['\n'],⟨.endOfStatement,""⟩⟩,
      ⟨[],['"','a',' ','"'],⟨.string,"a "⟩⟩,⟨[],['='],⟨.symbol .assign,"="⟩⟩,
      ⟨['\t'],['"','b',' '],⟨.string,"b "⟩⟩],[]⟩
    layout.WellFormed ∧
      (Cursor.ofSource (String.ofList layout.text)).drain =
        (layout.tokens,⟨byteLength layout.text,[]⟩) ∧
      ∀ other : Layout, other.WellFormed → other.text = layout.text → other = layout := by
  intro layout
  have formed : layout.WellFormed := by decide +kernel
  exact ⟨formed,scan_printed formed⟩

end BasicLex
