import BasicLex.Proofs.Progress

namespace BasicLex
open Text

structure Between (source : String) (left gap right : List Char) : Prop where
  whole : source.toList = left ++ gap ++ right
  blank : IsGap gap
  some_blank : gap ≠ []
  clear : ∀ piece ∈ (Cursor.ofSource source).pieces,
    piece.stop ≤ byteLength left ∨ byteLength (left ++ gap) ≤ piece.start

-- The places of a text where blanks may be added. There is none behind a string without
-- its closing quote, which would take them for its own.
inductive Seam (source : String) : List Char → List Char → Prop where
  | start : Seam source [] source.toList
  | behind {piece : Piece} {left right : List Char} (member : piece ∈ (Cursor.ofSource source).pieces)
      (closed : ¬SpellsOpen piece.token piece.spelling) (whole : source.toList = left ++ right)
      (stop : piece.stop = byteLength left) : Seam source left right
  | inside {left early late right : List Char} (gap : Between source left (early ++ late) right) :
      Seam source (left ++ early) (late ++ right)

def Piece.ClearOf (first last : Nat) (piece : Piece) : Prop :=
  last ≤ piece.start ∨ (piece.stop ≤ first ∧ Spells piece.token piece.spelling)

def respaced (place old new : Nat) (stop : Token × Nat) : Token × Nat :=
  (stop.1,if stop.2 ≤ place then stop.2 else stop.2 - old + new)

theorem IsGap.byteLength_eq {gap : List Char} (blank : IsGap gap) : byteLength gap = gap.length := by
  induction gap with
  | nil => rfl
  | cons c gap ih =>
    obtain ⟨first,blank⟩ := List.forall_mem_cons.mp blank
    have one : c.utf8Size = 1 := by
      cases blank_cases first with
      | inl space => rw [space]; rfl
      | inr tab => rw [tab]; rfl
    rw [byteLength_cons,List.length_cons,ih blank,one,Nat.add_comm]

theorem Reads.followed {cursor after : Cursor} {gap rest : List Char} {piece : Piece}
    (read : Reads cursor gap piece after) (closed : Spells piece.token piece.spelling)
    (bounded : ∀ c ∈ rest.head?, absorbs piece.token piece.spelling c = false) :
    Reads ⟨cursor.offset,gap ++ (piece.spelling ++ rest)⟩ gap piece ⟨after.offset,rest⟩ :=
  ⟨read.blank,rfl,read.start,read.stop,.inl closed,bounded⟩

namespace Cursor

theorem pieces_later (cursor : Cursor) : ∀ piece ∈ cursor.pieces, cursor.offset ≤ piece.start := by
  induction cursor using run_induction with
  | ended cursor ended => simp [pieces_end ended]
  | step cursor piece after found ih =>
    have read := next?_sound found
    rw [pieces_step found]
    refine List.forall_mem_cons.mpr ⟨?_,?_⟩
    · rw [read.start]
      exact Nat.le_add_right _ _
    · intro later member
      exact Nat.le_trans (Nat.le_of_lt read.forward) (ih later member)

theorem pieces_ordered (cursor : Cursor) : cursor.pieces.Pairwise fun earlier later =>
    earlier.stop ≤ later.start ∧ Spells earlier.token earlier.spelling := by
  induction cursor using run_induction with
  | ended cursor ended => simp [pieces_end ended]
  | step cursor piece after found ih =>
    have read := next?_sound found
    rw [pieces_step found]
    refine List.pairwise_cons.mpr ⟨?_,ih⟩
    intro later member
    constructor
    · rw [read.piece_stop]
      exact after.pieces_later later member
    · cases read.spelled with
      | inl closed => exact closed
      | inr opened =>
        have none : after.next? = none := next?_none.mpr (by rw [skipBlanks,opened.2]; rfl)
        rw [pieces_end none] at member
        cases member

theorem pieces_closed (cursor : Cursor) : ∀ piece ∈ cursor.pieces,
    Spells piece.token piece.spelling ∨
      (SpellsOpen piece.token piece.spelling ∧ piece.stop = cursor.finish.offset) := by
  induction cursor using run_induction with
  | ended cursor ended => simp [pieces_end ended]
  | step cursor piece after found ih =>
    have read := next?_sound found
    rw [← finish_after found,pieces_step found]
    refine List.forall_mem_cons.mpr ⟨?_,ih⟩
    cases read.spelled with
    | inl closed => exact .inl closed
    | inr opened =>
      refine .inr ⟨opened.1,?_⟩
      rw [read.piece_stop,finish,opened.2]
      rfl

end Cursor

section
variable {left old new right : List Char}

theorem Cursor.stops_respaced_ahead (start : Nat) (ahead : IsGap left) (old_blank : IsGap old)
    (new_blank : IsGap new) : stops ⟨start,left ++ (new ++ right)⟩ =
      (stops ⟨start,left ++ (old ++ right)⟩).map
        (respaced (start + byteLength left) old.length new.length) := by
  let behind : Cursor := ⟨start + byteLength left,right⟩
  have passed {blanks : List Char} (blank : IsGap blanks) :
      stops ⟨start,left ++ (blanks ++ right)⟩ = behind.stops.map fun stop => (stop.1,blanks.length + stop.2) := by
    have moved : behind.shift blanks.length = ⟨start + byteLength left + byteLength blanks,right⟩ := by
      rw [blank.byteLength_eq,shift,Nat.add_comm]
    rw [stops_gap ahead,stops_gap blank,← moved,stops_shift]
  rw [passed new_blank,passed old_blank,List.map_map]
  apply List.map_congr_left
  intro stop member
  have forward : start + byteLength left < stop.2 := behind.stops_forward stop member
  have beyond : ¬old.length + stop.2 ≤ start + byteLength left := by omega
  have grown : respaced (start + byteLength left) old.length new.length (stop.1,old.length + stop.2) =
      (stop.1,new.length + stop.2) := by
    simp only [respaced,if_neg beyond]
    rw [Nat.add_sub_cancel_left,Nat.add_comm]
  exact grown.symm

-- A closed token in front of the changed blanks is read as before, since a blank prolongs no
-- token. Where none is put in, none stood there either, and so nothing has changed.
theorem Reads.respaced {start : Nat} {gap : List Char} {piece : Piece} {after : Cursor}
    (read : Reads ⟨start,left ++ (old ++ right)⟩ gap piece after)
    (closed : Spells piece.token piece.spelling) (early : piece.stop ≤ start + byteLength left)
    (new_blank : IsGap new) (kept : new = [] → old = []) :
    ∃ more, left = gap ++ piece.spelling ++ more ∧ after.rest = more ++ (old ++ right) ∧
      after.offset + byteLength more = start + byteLength left ∧
      Reads ⟨start,left ++ (new ++ right)⟩ gap piece ⟨after.offset,more ++ (new ++ right)⟩ := by
  have stop : piece.stop = start + byteLength (gap ++ piece.spelling) := by
    rw [Piece.stop,read.start,byteLength_append,Nat.add_assoc]
  have same : (gap ++ piece.spelling) ++ after.rest = left ++ (old ++ right) := by
    rw [List.append_assoc]
    exact read.text.symm
  obtain ⟨more,rfl,rest⟩ := append_later same (by omega)
  have place : after.offset + byteLength more = start + byteLength (gap ++ piece.spelling ++ more) := by
    rw [← read.piece_stop,stop,byteLength_append (gap ++ piece.spelling),Nat.add_assoc]
  refine ⟨more,rfl,rest,place,?_⟩
  have bounded : ∀ c ∈ (more ++ (new ++ right)).head?, absorbs piece.token piece.spelling c = false := by
    have before := read.bounded
    rw [rest] at before
    cases more with
    | cons c more => exact before
    | nil =>
      cases new with
      | nil =>
        rw [kept rfl] at before
        exact before
      | cons blank new =>
        intro c first
        obtain rfl : blank = c := by simpa using first
        exact absorbs_blank _ _ (new_blank blank List.mem_cons_self)
  have whole : gap ++ piece.spelling ++ more ++ (new ++ right) =
      gap ++ (piece.spelling ++ (more ++ (new ++ right))) := by simp
  rw [whole]
  exact read.followed closed bounded

theorem Cursor.stops_respaced {left : List Char} (start : Nat) (old_blank : IsGap old) (new_blank : IsGap new)
    (kept : new = [] → old = [])
    (clear : ∀ piece ∈ pieces ⟨start,left ++ (old ++ right)⟩,
      piece.ClearOf (start + byteLength left) (start + byteLength (left ++ old))) :
    stops ⟨start,left ++ (new ++ right)⟩ = (stops ⟨start,left ++ (old ++ right)⟩).map
      (respaced (start + byteLength left) old.length new.length) := by
  by_cases ahead : IsGap left
  · exact stops_respaced_ahead start ahead old_blank new_blank
  cases found : next? ⟨start,left ++ (old ++ right)⟩ with
  | none =>
    have blank : IsGap (left ++ (old ++ right)) := List.dropWhile_eq_nil_iff.mp (next?_none.mp found)
    exact absurd (List.forall_mem_append.mp blank).1 ahead
  | some step =>
    obtain ⟨piece,⟨offset,rest⟩⟩ := step
    obtain ⟨gap,read⟩ := reads_exact.mp found
    rw [pieces_step found] at clear
    obtain ⟨first,later⟩ := List.forall_mem_cons.mp clear
    cases first with
    | inl late =>
      have begins : piece.start = start + byteLength gap := read.start
      have same : (left ++ old) ++ right = gap ++ (piece.spelling ++ rest) := by
        rw [List.append_assoc]
        exact read.text
      obtain ⟨more,longer,_⟩ := append_later same (by omega)
      have blank := read.blank
      rw [longer,List.append_assoc] at blank
      exact absurd (List.forall_mem_append.mp blank).1 ahead
    | inr early =>
      obtain ⟨more,split,behind,place,again⟩ := read.respaced early.2 early.1 new_blank kept
      simp only at behind place again
      subst behind
      have shorter : more.length < left.length := by
        have written := List.length_pos_iff.mpr read.nonempty
        rw [split]
        simp only [List.length_append]
        omega
      have reaches : offset + byteLength (more ++ old) = start + byteLength (left ++ old) := by
        rw [byteLength_append,byteLength_append,← Nat.add_assoc,place,Nat.add_assoc]
      rw [← place,← reaches] at later
      have tail := stops_respaced offset old_blank new_blank kept later
      have still : offset ≤ start + byteLength left := Nat.le.intro place
      rw [stops_step found,stops_step again.next?,List.map_cons,respaced,if_pos still,tail,place]
termination_by left.length

end

theorem Cursor.source_closed {source : String} {piece : Piece}
    (member : piece ∈ (ofSource source).pieces) (inside : piece.stop < byteLength source.toList) :
    Spells piece.token piece.spelling := by
  cases (ofSource source).pieces_closed piece member with
  | inl closed => exact closed
  | inr opened =>
    have last : piece.stop = 0 + byteLength source.toList := opened.2
    omega

theorem Between.clearOf {source : String} {left gap right : List Char} (between : Between source left gap right) :
    ∀ piece ∈ (Cursor.ofSource source).pieces,
      piece.ClearOf (byteLength left) (byteLength (left ++ gap)) := by
  intro piece member
  cases between.clear piece member with
  | inr late => exact .inl late
  | inl early =>
    have wide : byteLength gap ≠ 0 := fun none => between.some_blank (byteLength_zero.mp none)
    have inside : piece.stop < byteLength source.toList := by
      rw [between.whole,byteLength_append,byteLength_append]
      omega
    exact .inr ⟨early,Cursor.source_closed member inside⟩

theorem Seam.whole {source : String} {left right : List Char} (seam : Seam source left right) :
    source.toList = left ++ right := by
  cases seam with
  | start => rfl
  | behind member closed whole stop => exact whole
  | inside gap => simpa using gap.whole

theorem Seam.clearOf {source : String} {left right : List Char} (seam : Seam source left right) :
    ∀ piece ∈ (Cursor.ofSource source).pieces, piece.ClearOf (byteLength left) (byteLength left) := by
  intro other member
  cases seam with
  | start => exact .inl (Nat.zero_le _)
  | @behind piece left right found closed whole stop =>
    obtain ⟨before,after,split⟩ := List.append_of_mem found
    have ordered := (Cursor.ofSource source).pieces_ordered
    rw [split] at ordered member
    obtain ⟨_,later,across⟩ := List.pairwise_append.mp ordered
    have forward : piece.start ≤ piece.stop := Nat.le_add_right _ _
    rcases List.mem_append.mp member with earlier | here
    · obtain ⟨ends,spelled⟩ := across other earlier piece List.mem_cons_self
      exact .inr ⟨by omega,spelled⟩
    · cases List.mem_cons.mp here with
      | inl same =>
        subst same
        cases (Cursor.ofSource source).pieces_closed other found with
        | inl spelled => exact .inr ⟨Nat.le_of_eq stop,spelled⟩
        | inr opened => exact absurd opened.1 closed
      | inr behind =>
        have begins := ((List.pairwise_cons.mp later).1 other behind).1
        exact .inl (by omega)
  | @inside left early late right gap =>
    cases gap.clearOf other member with
    | inl later =>
      refine .inl (Nat.le_trans ?_ later)
      simp only [byteLength_append]
      omega
    | inr earlier =>
      refine .inr ⟨Nat.le_trans earlier.1 ?_,earlier.2⟩
      simp only [byteLength_append]
      omega

theorem Cursor.source_respaced {source : String} {left old new right : List Char}
    (whole : source.toList = left ++ (old ++ right)) (old_blank : IsGap old) (new_blank : IsGap new)
    (kept : new = [] → old = [])
    (clear : ∀ piece ∈ (ofSource source).pieces,
      piece.ClearOf (byteLength left) (byteLength (left ++ old))) :
    (ofSource (String.ofList (left ++ new ++ right))).tokens = (ofSource source).tokens ∧
    (ofSource (String.ofList (left ++ new ++ right))).stops =
      (ofSource source).stops.map (respaced (byteLength left) old.length new.length) := by
  have original : ofSource source = ⟨0,left ++ (old ++ right)⟩ := by rw [ofSource,whole]
  have changed : ofSource (String.ofList (left ++ new ++ right)) = ⟨0,left ++ (new ++ right)⟩ := by
    rw [ofSource,String.toList_ofList,List.append_assoc]
  rw [original] at clear
  have stops := stops_respaced 0 old_blank new_blank kept (by simpa only [Nat.zero_add] using clear)
  rw [← original,← changed,Nat.zero_add] at stops
  refine ⟨?_,stops⟩
  rw [← stops_tokens,stops,← stops_tokens,List.map_map]
  rfl

theorem blanks_meaningless (source : String) :
    (∀ left right blanks, Seam source left right → IsGap blanks →
      (Cursor.ofSource (String.ofList (left ++ blanks ++ right))).tokens = (Cursor.ofSource source).tokens ∧
      (Cursor.ofSource (String.ofList (left ++ blanks ++ right))).stops =
        (Cursor.ofSource source).stops.map fun stop =>
          (stop.1,if stop.2 ≤ byteLength left then stop.2 else stop.2 + blanks.length)) ∧
    ∀ left gap other right, Between source left gap right → IsGap other → other ≠ [] →
      (Cursor.ofSource (String.ofList (left ++ other ++ right))).tokens = (Cursor.ofSource source).tokens ∧
      (Cursor.ofSource (String.ofList (left ++ other ++ right))).stops =
        (Cursor.ofSource source).stops.map (respaced (byteLength left) gap.length other.length) := by
  constructor
  · intro left right blanks seam blank
    have clear := seam.clearOf
    rw [← List.append_nil left] at clear
    exact Cursor.source_respaced seam.whole (by simp [IsGap]) blank (fun _ => rfl) (by simpa using clear)
  · intro left gap other right between blank some_blank
    have whole : source.toList = left ++ (gap ++ right) := by rw [between.whole,List.append_assoc]
    exact Cursor.source_respaced whole between.blank blank (fun none => absurd none some_blank) between.clearOf

theorem blanks_meaningless_crowded :
    let source := "12abc\r \n\"x\"é"
    let wider := "12\t abc\r \n\"x\"é"
    let other := "12abc\r\t\t\n\"x\"é"
    Seam source "12".toList "abc\r \n\"x\"é".toList ∧
      (Cursor.ofSource wider).tokens = (Cursor.ofSource source).tokens ∧
      (Cursor.ofSource wider).stops = ((Cursor.ofSource source).stops.map fun stop =>
        (stop.1,if stop.2 ≤ 2 then stop.2 else stop.2 + 2)) ∧
      Between source "12abc\r".toList [' '] "\n\"x\"é".toList ∧
      (Cursor.ofSource other).tokens = (Cursor.ofSource source).tokens := by
  intro source wider other
  have run : (Cursor.ofSource source).pieces = [
      ⟨0,['1','2'],⟨.number,"12"⟩⟩,⟨2,['a','b','c'],⟨.identifier,"abc"⟩⟩,⟨5,['\r'],⟨.endOfStatement,""⟩⟩,
      ⟨7,['\n'],⟨.endOfStatement,""⟩⟩,⟨8,['"','x','"'],⟨.string,"x"⟩⟩,⟨11,['é'],⟨.unknown,"é"⟩⟩] := by
    decide +kernel
  have seam : Seam source "12".toList "abc\r \n\"x\"é".toList := by
    apply @Seam.behind source ⟨0,['1','2'],⟨.number,"12"⟩⟩
    · simp [run]
    · simp [SpellsOpen]
    · decide +kernel
    · decide +kernel
  have between : Between source "12abc\r".toList [' '] "\n\"x\"é".toList := by
    refine ⟨by decide +kernel,by simp [IsGap,isBlank],by simp,?_⟩
    have sides : (Cursor.ofSource source).pieces.all (fun piece =>
        decide (piece.stop ≤ 6 ∨ 7 ≤ piece.start)) = true := by decide +kernel
    intro piece member
    exact of_decide_eq_true (List.all_eq_true.mp sides piece member)
  have space : IsGap ['\t',' '] := by simp [IsGap,isBlank]
  have tabs : IsGap ['\t','\t'] := by simp [IsGap,isBlank]
  obtain ⟨widened,replaced⟩ := blanks_meaningless source
  have wide : String.ofList ("12".toList ++ ['\t',' '] ++ "abc\r \n\"x\"é".toList) = wider := by decide +kernel
  have changed : String.ofList ("12abc\r".toList ++ ['\t','\t'] ++ "\n\"x\"é".toList) = other := by decide +kernel
  have inserted := widened _ _ _ seam space
  have exchanged := replaced _ _ _ _ between tabs (by simp)
  rw [wide] at inserted
  rw [changed] at exchanged
  exact ⟨seam,inserted.1,inserted.2,between,exchanged.1⟩

end BasicLex
