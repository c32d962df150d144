import BasicLex.Proofs.Cut
import Mathlib.Data.List.DropRight

namespace BasicLex.Text

def IsTerminator (terminator : List Char) : Prop :=
  terminator = ['\n'] ∨ terminator = ['\r'] ∨ terminator = ['\r','\n']

-- A text whose last line is ended, where what comes next does not turn a final
-- carriage return into the first half of a pair.
def Breaks (above rest : List Char) : Prop :=
  ∀ c ∈ above.getLast?, isLineEnd c = true ∧ (c = '\r' → rest.head? ≠ some '\n')

structure IsLine (above line below : List Char) : Prop where
  inner : ∀ c ∈ line, isLineEnd c = false
  opened : Breaks above (line ++ below)
  closed : ∀ c ∈ below.head?, isLineEnd c = true

theorem line_cases (text : List Char) : (∀ c ∈ text, isLineEnd c = false) ∨
    ∃ body terminator after, text = body ++ (terminator ++ after) ∧
      (∀ c ∈ body, isLineEnd c = false) ∧ IsTerminator terminator ∧ Breaks terminator after := by
  have whole := List.takeWhile_append_dropWhile (p := (!isLineEnd ·)) (l := text)
  have inner : ∀ c ∈ text.takeWhile (!isLineEnd ·), isLineEnd c = false := until_free text
  cases left : text.dropWhile (!isLineEnd ·) with
  | nil =>
    left
    rw [left,List.append_nil] at whole
    rwa [whole] at inner
  | cons mark after =>
    right
    have ends : isLineEnd mark = true := until_stop text mark (by rw [left]; rfl)
    rw [left] at whole
    rcases (by simpa [isLineEnd] using ends : mark = '\n' ∨ mark = '\r') with rfl | rfl
    · exact ⟨_,['\n'],after,whole.symm,inner,.inl rfl,by simp [Breaks,isLineEnd]⟩
    · -- A pair is one terminator, so a carriage return alone decides nothing.
      by_cases paired : after.head? = some '\n'
      · obtain ⟨after,rfl⟩ := List.head?_eq_some_iff.mp paired
        exact ⟨_,['\r','\n'],after,whole.symm,inner,.inr (.inr rfl),by simp [Breaks,isLineEnd]⟩
      · exact ⟨_,['\r'],after,whole.symm,inner,.inr (.inl rfl),by simpa [Breaks,isLineEnd] using paired⟩

theorem IsTerminator.nonempty {terminator : List Char} (ends : IsTerminator terminator) :
    terminator ≠ [] := by
  rcases ends with rfl | rfl | rfl <;> simp

theorem IsTerminator.head {terminator after : List Char} (ends : IsTerminator terminator) :
    ∀ c ∈ (terminator ++ after).head?, isLineEnd c = true := by
  rcases ends with rfl | rfl | rfl <;> simp [isLineEnd]

theorem cut_plain {body : List Char} (inner : ∀ c ∈ body, isLineEnd c = false) :
    Line.cut body = (⟨body,[]⟩,[]) := by
  obtain ⟨taken,left⟩ := until_all inner
  rw [Line.cut,left,taken]

theorem cut_ended {body terminator after : List Char} (inner : ∀ c ∈ body, isLineEnd c = false)
    (ends : IsTerminator terminator) (breaks : Breaks terminator after) :
    Line.cut (body ++ (terminator ++ after)) = (⟨body,terminator⟩,after) := by
  obtain ⟨taken,left⟩ := until_bounded inner ends.head
  rw [Line.cut,taken,left]
  rcases ends with rfl | rfl | rfl
  · rfl
  · have lone := (breaks '\r' rfl).2 rfl
    cases after with
    | nil => rfl
    | cons c after =>
      have other : c ≠ '\n' := by simpa using lone
      simp [other]
  · rfl

theorem lines_plain {body : List Char} (inner : ∀ c ∈ body, isLineEnd c = false) (some_left : body ≠ []) :
    lines body = [⟨body,[]⟩] := by
  rw [lines_step some_left,cut_plain inner,lines_nil]

theorem lines_ended {body terminator after : List Char} (inner : ∀ c ∈ body, isLineEnd c = false)
    (ends : IsTerminator terminator) (breaks : Breaks terminator after) :
    lines (body ++ (terminator ++ after)) = ⟨body,terminator⟩ :: lines after := by
  rw [lines_step (by simp [ends.nonempty]),cut_ended inner ends breaks]

theorem lines_induction {motive : List Char → Prop}
    (plain : ∀ body, (∀ c ∈ body, isLineEnd c = false) → motive body)
    (ended : ∀ body terminator after, (∀ c ∈ body, isLineEnd c = false) → IsTerminator terminator →
      Breaks terminator after → motive after → motive (body ++ (terminator ++ after)))
    (text : List Char) : motive text := by
  rcases line_cases text with inner | ⟨body,terminator,after,whole,inner,ends,breaks⟩
  · exact plain text inner
  · rw [whole]
    exact ended body terminator after inner ends breaks (lines_induction plain ended after)
termination_by text.length
decreasing_by
  have taken := List.length_pos_iff.mpr ends.nonempty
  rw [whole,List.length_append,List.length_append]
  omega

theorem Breaks.suffix {above rest more : List Char} (breaks : Breaks (above ++ more) rest) :
    Breaks more rest := by
  intro c last
  exact breaks c (by
    rw [Option.mem_def] at last ⊢
    rw [List.getLast?_append,last]
    rfl)

theorem Breaks.extend {terminator above rest : List Char} (breaks : Breaks terminator above)
    (later : Breaks (terminator ++ above) rest) : Breaks terminator (above ++ rest) := by
  cases above with
  | nil => simpa using later
  | cons c above => exact breaks

theorem lines_append {above rest : List Char} (breaks : Breaks above rest) :
    lines (above ++ rest) = lines above ++ lines rest := by
  induction above using lines_induction with
  | plain body inner =>
    cases last : body.getLast? with
    | none =>
      obtain rfl := List.getLast?_eq_none_iff.mp last
      rw [lines_nil]
      rfl
    | some c =>
      have ends := (breaks c last).1
      rw [inner c (List.mem_of_getLast? last)] at ends
      cases ends
  | ended body terminator after inner ends apart ih =>
    -- Only the last line above meets what follows.
    have later : Breaks (terminator ++ after) rest := breaks.suffix
    rw [lines_ended inner ends apart,List.append_assoc,List.append_assoc,
      lines_ended inner ends (apart.extend later),ih later.suffix,List.cons_append]

theorem line_around (before after : List Char) {c : Char} (inside : isLineEnd c = false) :
    ∃ above left right below, before = above ++ left ∧ after = right ++ below ∧
      IsLine above (left ++ c :: right) below := by
  refine ⟨before.rdropWhile (!isLineEnd ·),before.rtakeWhile (!isLineEnd ·),
    after.takeWhile (!isLineEnd ·),after.dropWhile (!isLineEnd ·),
    List.rdropWhile_append_rtakeWhile.symm,List.takeWhile_append_dropWhile.symm,?_⟩
  have inner : ∀ d ∈ before.rtakeWhile (!isLineEnd ·) ++ c :: after.takeWhile (!isLineEnd ·),
      isLineEnd d = false := by
    intro d member
    rcases List.mem_append.mp member with left | right
    · simpa using List.mem_rtakeWhile_imp left
    rcases List.mem_cons.mp right with rfl | right
    · exact inside
    · exact until_free after d right
  refine ⟨inner,?_,until_stop after⟩
  · intro d last
    rw [List.rdropWhile,List.getLast?_reverse] at last
    refine ⟨until_stop before.reverse d last,?_⟩
    intro _ feed
    rw [List.head?_append_of_ne_nil _ (by simp)] at feed
    exact absurd (inner '\n' (List.mem_of_head? feed)) (by decide)

theorem plain_closed {body : List Char} (rest : List Char) (plain : ∀ c ∈ body, isLineEnd c = false)
    (closed : ∀ c ∈ (body ++ rest).head?, isLineEnd c = true) : body = [] := by
  cases body with
  | nil => rfl
  | cons c body =>
    have ends := closed c rfl
    rw [plain c List.mem_cons_self] at ends
    cases ends

theorem lines_body {line below : List Char} (inner : ∀ c ∈ line, isLineEnd c = false)
    (closed : ∀ c ∈ below.head?, isLineEnd c = true) (some_left : line ++ below ≠ []) :
    ∃ terminator later, lines (line ++ below) = ⟨line,terminator⟩ :: later ∧
      (below ≠ [] → terminator ≠ []) := by
  rcases line_cases below with plain | ⟨body,terminator,after,rfl,plain,ends,breaks⟩
  · obtain rfl : below = [] := plain_closed [] plain (by rwa [List.append_nil])
    rw [List.append_nil] at some_left ⊢
    exact ⟨[],[],lines_plain inner some_left,fun more => absurd rfl more⟩
  · obtain rfl : body = [] := plain_closed (terminator ++ after) plain closed
    exact ⟨terminator,lines after,lines_ended inner ends breaks,fun _ => ends.nonempty⟩

theorem locateIn_skip (number : Nat) (earlier later : List Line) (offset : Nat) :
    locateIn number (earlier ++ later) (byteLength (earlier.flatMap Line.chars) + offset) =
      locateIn (number + earlier.length) later offset := by
  induction earlier generalizing number with
  | nil => simp
  | cons line earlier ih =>
    have beyond : ¬line.byteLength + byteLength (earlier.flatMap Line.chars) + offset < line.byteLength := by
      omega
    rw [List.cons_append,List.flatMap_cons,byteLength_append,← Line.byteLength,locateIn,if_neg beyond,
      Nat.add_assoc,Nat.add_sub_cancel_left,ih,List.length_cons]
    congr 1
    omega

theorem locateIn_none {number : Nat} {found : List Line} {offset : Nat} :
    locateIn number found offset = none ↔ byteLength (found.flatMap Line.chars) ≤ offset := by
  induction found generalizing number offset with
  | nil => simp [locateIn]
  | cons line rest ih =>
    rw [locateIn,List.flatMap_cons,byteLength_append,← Line.byteLength]
    split
    · rename_i inside
      simp only [reduceCtorEq,false_iff]
      omega
    · rw [ih]
      omega

theorem locate_none {text : List Char} {offset : Nat} :
    locate text offset = none ↔ byteLength text ≤ offset := by
  rw [locate,locateIn_none,lines_lossless]

theorem charCount?_left (seen : Nat) (left right : List Char) :
    charCount? seen (left ++ right) (byteLength left) = some (seen + left.length) := by
  induction left generalizing seen with
  | nil => cases right <;> rfl
  | cons c left ih =>
    obtain ⟨bytes,size⟩ := Nat.exists_eq_add_one_of_ne_zero (Nat.ne_of_gt c.utf8Size_pos)
    have fits : c.utf8Size ≤ bytes + byteLength left + 1 := by omega
    have left_over : bytes + byteLength left + 1 - c.utf8Size = byteLength left := by omega
    rw [byteLength_cons,show c.utf8Size + byteLength left = bytes + byteLength left + 1 by omega,
      List.cons_append,charCount?,if_pos fits,left_over,ih,List.length_cons]
    congr 1
    omega

theorem columnAt_left (left right : List Char) :
    columnAt (left ++ right) (byteLength left) = left.length := by
  rw [columnAt,charCount?_left,Nat.zero_add]
  rfl

-- The place behind the last character of a line is on that line only when
-- something ends it.
theorem locate_line {above left right below : List Char} (line : IsLine above (left ++ right) below)
    (inside : right ≠ [] ∨ below ≠ []) :
    locate (above ++ (left ++ right) ++ below) (byteLength (above ++ left)) =
      some ⟨(lines above).length + 1,left ++ right,left.length⟩ := by
  have some_left : left ++ right ++ below ≠ [] := by
    rcases inside with more | more <;> simp [more]
  obtain ⟨terminator,later,cut,ended⟩ := lines_body line.inner line.closed some_left
  have reached : byteLength left < Line.byteLength ⟨left ++ right,terminator⟩ := by
    have behind : right ++ terminator ≠ [] := by
      rcases inside with more | more
      · simp [more]
      · simp [ended more]
    have bytes : byteLength (right ++ terminator) ≠ 0 := fun none => behind (byteLength_zero.mp none)
    have whole : Line.byteLength ⟨left ++ right,terminator⟩ =
        byteLength left + byteLength (right ++ terminator) := by
      rw [← byteLength_append,← List.append_assoc]
      rfl
    omega
  have skip := locateIn_skip 1 (lines above) (⟨left ++ right,terminator⟩ :: later) (byteLength left)
  rw [lines_lossless] at skip
  rw [locate,List.append_assoc,lines_append line.opened,cut,byteLength_append,skip,locateIn,if_pos reached,
    Nat.add_comm 1,Line.chars,List.append_assoc,columnAt_left]

end BasicLex.Text
