import BasicLex.Proofs.LineTable
import BasicLex.Proofs.Slices

namespace BasicLex.Text

def utf8 (text : List Char) : List UInt8 := text.flatMap String.utf8EncodeChar

def slice? (text : List Char) (first last : Nat) : Option (List Char) := do
  if last < first then none
  let (_,behind) ← splitAt? text first
  let (between,_) ← splitAt? behind (last - first)
  return between

-- A search that looks at one byte after the other and keeps nothing but the offset where the
-- line begins, its number, and the offset of the byte. Its slices and its difference of
-- offsets can fail.
namespace ByteLoop

inductive Fault where
  | slice | underflow
deriving DecidableEq

def terminatorWidth (byte : UInt8) (next : Option UInt8) : Nat :=
  if byte = 10 then 1 else if byte = 13 then if next = some 10 then 2 else 1 else 0

-- The difference is taken before it is known to be needed.
def column (text : List Char) (start position : Nat) : Except Fault Nat :=
  if position < start then .error .underflow
  else match slice? text start position with
    | some before => .ok before.length
    | none => .ok (position - start)

def lineAt (text : List Char) (start stop position number : Nat) : Except Fault Location := do
  let column ← column text start position
  match slice? text start stop with
  | some line => .ok ⟨number,line,column⟩
  | none => .error .slice

def search (text : List Char) (position start number index : Nat) : Except Fault Location :=
  match _here : (utf8 text)[index]? with
  | none => lineAt text start (byteLength text) position number
  | some byte =>
    let width := terminatorWidth byte (utf8 text)[index + 1]?
    if width = 0 then search text position start number (index + 1)
    else if position < index + width then lineAt text start index position number
    else search text position (index + width) (number + 1) (index + width)
termination_by (utf8 text).length - index
decreasing_by
  all_goals have inside := (List.getElem?_eq_some_iff.mp _here).1
  all_goals omega

def locate (text : List Char) (position : Nat) : Except Fault (Option Location) :=
  if byteLength text ≤ position then .ok none else (search text position 0 1 0).map some

end ByteLoop

theorem utf8_append (left right : List Char) : utf8 (left ++ right) = utf8 left ++ utf8 right :=
  List.flatMap_append

theorem utf8_length (text : List Char) : (utf8 text).length = byteLength text := by
  induction text with
  | nil => rfl
  | cons c text ih =>
    rw [utf8,List.flatMap_cons,List.length_append,String.length_utf8EncodeChar,← utf8,ih,byteLength_cons]

theorem utf8EncodeChar_byte {c : Char} {byte : UInt8} (member : byte ∈ String.utf8EncodeChar c) :
    byte.toNat = c.toNat ∨ 0x80 ≤ byte.toNat := by
  have single : c.val.toNat ≤ 127 → (UInt8.ofNat c.val.toNat).toNat = c.toNat := by
    intro small
    exact Nat.mod_eq_of_lt (by omega)
  unfold String.utf8EncodeChar at member
  simp only at member
  split at member
  · rename_i small
    rw [List.mem_singleton.mp member]
    exact .inl (single small)
  right
  repeat' split at member
  all_goals simp only [List.mem_cons,List.not_mem_nil,or_false] at member
  · rcases member with rfl | rfl
    all_goals simp only [UInt8.toNat_ofNat']; omega
  · rcases member with rfl | rfl | rfl
    all_goals simp only [UInt8.toNat_ofNat']; omega
  · rcases member with rfl | rfl | rfl | rfl
    all_goals simp only [UInt8.toNat_ofNat']; omega

theorem utf8EncodeChar_alone {c d : Char} {byte : UInt8} (member : byte ∈ String.utf8EncodeChar c)
    (code : byte.toNat = d.toNat) (small : d.toNat < 0x80) : c = d := by
  cases utf8EncodeChar_byte member with
  | inl alone => exact Char.ext (UInt32.toNat_inj.mp (alone.symm.trans code))
  | inr high => omega

theorem utf8_plain {body : List Char} (inner : ∀ c ∈ body, isLineEnd c = false) :
    ∀ byte ∈ utf8 body, byte ≠ 10 ∧ byte ≠ 13 := by
  intro byte member
  obtain ⟨c,inside,encoded⟩ := List.mem_flatMap.mp member
  obtain ⟨feed,carriage⟩ := lineEnd_exact.mp (inner c inside)
  constructor
  · rintro rfl
    exact feed (utf8EncodeChar_alone encoded rfl (by decide))
  · rintro rfl
    exact carriage (utf8EncodeChar_alone encoded rfl (by decide))

theorem utf8_feed {text : List Char} (other : text.head? ≠ some '\n') : (utf8 text).head? ≠ some 10 := by
  intro first
  cases text with
  | nil => cases first
  | cons c text =>
    have written : String.utf8EncodeChar c ≠ [] := by
      intro none
      have width := String.length_utf8EncodeChar c
      rw [none] at width
      exact Nat.ne_of_lt c.utf8Size_pos width
    rw [utf8,List.flatMap_cons,List.head?_append_of_ne_nil _ written] at first
    have feed : c = '\n' := utf8EncodeChar_alone (List.mem_of_head? first) rfl (by decide)
    exact other (congrArg some feed)

theorem splitAt?_within {line : List Char} {bytes : Nat} (inside : bytes ≤ byteLength line) (rest : List Char) :
    splitAt? (line ++ rest) bytes = (splitAt? line bytes).map fun cut => (cut.1,cut.2 ++ rest) := by
  induction line generalizing bytes with
  | nil =>
    obtain rfl : bytes = 0 := Nat.le_zero.mp inside
    cases rest <;> rfl
  | cons c line ih =>
    cases bytes with
    | zero => rfl
    | succ bytes =>
      rw [byteLength_cons] at inside
      rw [List.cons_append,splitAt?,splitAt?]
      split
      · rw [ih (by omega),Option.map_map,Option.map_map]
        rfl
      · rfl

theorem charCount?_splitAt? (seen : Nat) (text : List Char) (bytes : Nat) :
    charCount? seen text bytes = (splitAt? text bytes).map fun cut => seen + cut.1.length := by
  induction text generalizing seen bytes with
  | nil => cases bytes <;> rfl
  | cons c text ih =>
    cases bytes with
    | zero => rfl
    | succ bytes =>
      rw [charCount?,splitAt?]
      split
      · rw [ih,Option.map_map]
        apply congrArg (Option.map · _)
        funext cut
        simp only [Function.comp,List.length_cons]
        omega
      · rfl

theorem columnAt_splitAt? (text : List Char) (bytes : Nat) :
    columnAt text bytes = ((splitAt? text bytes).map fun cut => cut.1.length).getD bytes := by
  rw [columnAt,charCount?_splitAt?]
  simp only [Nat.zero_add]

theorem slice?_behind {above : List Char} {position : Nat} (reached : byteLength above ≤ position)
    (rest : List Char) : slice? (above ++ rest) (byteLength above) position =
      (splitAt? rest (position - byteLength above)).map Prod.fst := by
  rw [slice?,if_neg (Nat.not_lt.mpr reached),splitAt?_complete]
  cases found : splitAt? rest (position - byteLength above) with
  | none => simp [found]
  | some cut => simp [found]

namespace ByteLoop

section
variable {text : List Char} {position start number index : Nat}

theorem search_end (ended : (utf8 text)[index]? = none) :
    search text position start number index = lineAt text start (byteLength text) position number := by
  rw [search]
  split
  · rfl
  · rename_i found; rw [ended] at found; cases found

theorem search_step {byte : UInt8} (found : (utf8 text)[index]? = some byte) :
    search text position start number index =
      if terminatorWidth byte (utf8 text)[index + 1]? = 0 then
        search text position start number (index + 1)
      else if position < index + terminatorWidth byte (utf8 text)[index + 1]? then
        lineAt text start index position number
      else search text position (index + terminatorWidth byte (utf8 text)[index + 1]?) (number + 1)
        (index + terminatorWidth byte (utf8 text)[index + 1]?) := by
  rw [search]
  split
  · rename_i ended; rw [ended] at found; cases found
  · rename_i again; rw [found] at again; cases again; rfl

end

theorem search_plain {text : List Char} {position start number : Nat} {before run rest : List UInt8}
    (bytes : utf8 text = before ++ (run ++ rest)) (plain : ∀ byte ∈ run, byte ≠ 10 ∧ byte ≠ 13) :
    search text position start number before.length =
      search text position start number (before.length + run.length) := by
  induction run generalizing before with
  | nil => rfl
  | cons byte run ih =>
    obtain ⟨⟨feed,carriage⟩,plain⟩ := List.forall_mem_cons.mp plain
    have found : (utf8 text)[before.length]? = some byte := by simp [bytes]
    have width (next : Option UInt8) : terminatorWidth byte next = 0 := by
      rw [terminatorWidth,if_neg feed,if_neg carriage]
    have later := @ih (before ++ [byte]) (by simp [bytes]) plain
    rw [List.length_append,List.length_singleton] at later
    rw [search_step found,if_pos (width _),later,List.length_cons]
    congr 1
    omega

theorem search_body {text above body rest : List Char} {position start number : Nat}
    (whole : text = above ++ (body ++ rest)) (inner : ∀ c ∈ body, isLineEnd c = false) :
    search text position start number (byteLength above) =
      search text position start number (byteLength (above ++ body)) := by
  have bytes : utf8 text = utf8 above ++ (utf8 body ++ utf8 rest) := by
    rw [whole,utf8_append,utf8_append]
  rw [byteLength_append,← utf8_length above,← utf8_length body]
  exact search_plain bytes (utf8_plain inner)

theorem terminatorWidth_exact {terminator after : List Char} (ends : IsTerminator terminator)
    (breaks : Breaks terminator after) : ∃ byte rest, utf8 (terminator ++ after) = byte :: rest ∧
      terminatorWidth byte rest.head? = byteLength terminator := by
  rcases ends with rfl | rfl | rfl
  · exact ⟨10,utf8 after,rfl,rfl⟩
  · have lone : (utf8 after).head? ≠ some 10 := utf8_feed ((breaks '\r' rfl).2 rfl)
    refine ⟨13,utf8 after,rfl,?_⟩
    simp only [terminatorWidth,if_neg lone]
    rfl
  · exact ⟨13,10 :: utf8 after,rfl,rfl⟩

theorem search_ended {text above body terminator after : List Char} {position start number : Nat}
    (whole : text = above ++ (body ++ (terminator ++ after))) (inner : ∀ c ∈ body, isLineEnd c = false)
    (ends : IsTerminator terminator) (breaks : Breaks terminator after) :
    search text position start number (byteLength above) =
      if position < byteLength (above ++ body ++ terminator) then
        lineAt text start (byteLength (above ++ body)) position number
      else search text position (byteLength (above ++ body ++ terminator)) (number + 1)
        (byteLength (above ++ body ++ terminator)) := by
  obtain ⟨byte,rest,read,width⟩ := terminatorWidth_exact ends breaks
  have bytes : utf8 text = utf8 (above ++ body) ++ byte :: rest := by
    rw [whole,← List.append_assoc,utf8_append,read]
  have found : (utf8 text)[byteLength (above ++ body)]? = some byte := by
    rw [bytes,← utf8_length,List.getElem?_append_right (Nat.le_refl _)]
    simp
  have next : (utf8 text)[byteLength (above ++ body) + 1]? = rest.head? := by
    rw [bytes,← utf8_length,List.getElem?_append_right (Nat.le_add_right _ _),List.head?_eq_getElem?]
    simp
  have some_bytes : byteLength terminator ≠ 0 := fun none => ends.nonempty (byteLength_zero.mp none)
  rw [search_body whole inner,search_step found,next,width,if_neg some_bytes,← byteLength_append]

theorem column_exact {above line below : List Char} {position : Nat} (reached : byteLength above ≤ position)
    (inside : position - byteLength above ≤ byteLength line) :
    column (above ++ (line ++ below)) (byteLength above) position =
      .ok (columnAt line (position - byteLength above)) := by
  rw [column,if_neg (Nat.not_lt.mpr reached),slice?_behind reached,splitAt?_within inside,Option.map_map,
    columnAt_splitAt?]
  cases splitAt? line (position - byteLength above) with
  | none => rfl
  | some cut => rfl

theorem lineAt_exact {above below : List Char} {line : Line} {position : Nat} (number : Nat)
    (reached : byteLength above ≤ position) (inside : position - byteLength above ≤ line.byteLength) :
    lineAt (above ++ (line.chars ++ below)) (byteLength above) (byteLength (above ++ line.body)) position number =
      .ok ⟨number,line.body,columnAt line.chars (position - byteLength above)⟩ := by
  have longer : byteLength above ≤ byteLength (above ++ line.body) := by
    rw [byteLength_append]
    exact Nat.le_add_right _ _
  have width : byteLength (above ++ line.body) - byteLength above = byteLength line.body := by
    rw [byteLength_append,Nat.add_sub_cancel_left]
  have body : slice? (above ++ (line.chars ++ below)) (byteLength above) (byteLength (above ++ line.body)) =
      some line.body := by
    rw [slice?_behind longer,width,Line.chars,List.append_assoc,splitAt?_complete]
    rfl
  rw [lineAt,column_exact reached inside]
  simp only [body]
  rfl

-- From the start of a line on, the loop finds what the table of the lines that are left says.
theorem search_exact {above rest : List Char} {position number : Nat} (reached : byteLength above ≤ position)
    (inside : position < byteLength (above ++ rest)) : ∃ location,
      search (above ++ rest) position (byteLength above) number (byteLength above) = .ok location ∧
      locateIn number (lines rest) (position - byteLength above) = some location := by
  induction rest using lines_induction generalizing above number with
  | plain body inner =>
    rw [byteLength_append] at inside
    have some_left : body ≠ [] := by
      rintro rfl
      rw [byteLength_nil] at inside
      omega
    let line : Line := ⟨body,[]⟩
    have chars : line.chars = body := List.append_nil body
    have within : position - byteLength above < line.byteLength := by
      rw [Line.byteLength,chars]
      omega
    have whole : above ++ body = above ++ (body ++ []) := by rw [List.append_nil]
    have past : (utf8 (above ++ body))[byteLength (above ++ body)]? = none := by
      rw [← utf8_length]
      exact List.getElem?_eq_none (Nat.le_refl _)
    have read := @lineAt_exact above [] line position number reached (Nat.le_of_lt within)
    rw [chars,List.append_nil] at read
    refine ⟨⟨number,body,columnAt body (position - byteLength above)⟩,?_,?_⟩
    · rw [search_body whole inner,search_end past]
      exact read
    · rw [lines_plain inner some_left,locateIn,if_pos within,chars]
  | ended body terminator after inner ends breaks ih =>
    let line : Line := ⟨body,terminator⟩
    have whole : above ++ (body ++ (terminator ++ after)) = above ++ (line.chars ++ after) := by
      rw [Line.chars,List.append_assoc]
    have width : byteLength (above ++ body ++ terminator) = byteLength above + line.byteLength := by
      rw [List.append_assoc,byteLength_append]
      rfl
    rw [lines_ended inner ends breaks,search_ended rfl inner ends breaks,width]
    by_cases here : position < byteLength above + line.byteLength
    · have within : position - byteLength above < line.byteLength := by omega
      refine ⟨_,?_,by rw [locateIn,if_pos within]⟩
      rw [if_pos here,whole]
      exact lineAt_exact number reached (Nat.le_of_lt within)
    · have beyond : ¬position - byteLength above < line.byteLength := by omega
      have behind : position - byteLength above - line.byteLength =
          position - byteLength (above ++ body ++ terminator) := by omega
      have passed : above ++ (body ++ (terminator ++ after)) = above ++ body ++ terminator ++ after := by simp
      rw [if_neg here,locateIn,if_neg beyond,behind,passed,← width]
      rw [passed] at inside
      exact ih (by omega) inside

theorem locate_exact (text : List Char) (position : Nat) :
    ByteLoop.locate text position = .ok (Text.locate text position) := by
  rw [ByteLoop.locate]
  by_cases beyond : byteLength text ≤ position
  · rw [if_pos beyond,locate_none.mpr beyond]
  · obtain ⟨location,found,listed⟩ := @search_exact [] text position 1 (Nat.zero_le _) (Nat.lt_of_not_le beyond)
    rw [if_neg beyond,Text.locate]
    simp only [List.nil_append,byteLength_nil,Nat.sub_zero] at found listed
    rw [found,listed]
    rfl

end ByteLoop

end BasicLex.Text
