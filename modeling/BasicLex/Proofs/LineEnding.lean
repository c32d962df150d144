import BasicLex.Proofs.LineNumber

namespace BasicLex
open Text

namespace Text

def unifyEnds : List Char → List Char
  | [] => []
  | '\r' :: '\n' :: rest => '\n' :: unifyEnds rest
  | '\r' :: rest => '\n' :: unifyEnds rest
  | c :: rest => c :: unifyEnds rest

def unified (text : String) : String := String.ofList (unifyEnds text.toList)

theorem unifyEnds_cons (c : Char) (rest : List Char) : unifyEnds (c :: rest) =
    if c = '\r' then if rest.head? = some '\n' then unifyEnds rest else '\n' :: unifyEnds rest
    else c :: unifyEnds rest := by
  by_cases carriage : c = '\r'
  · subst c
    cases rest with
    | nil => rfl
    | cons d rest =>
      by_cases feed : d = '\n'
      · subst d
        simp [unifyEnds]
      · simp [unifyEnds,feed]
  · simp [unifyEnds,carriage]

example : unifyEnds ['\r','\r','\n','\n','\r'] = ['\n','\n','\n','\n'] := by decide

theorem unifyEnds_mem {text : List Char} {c : Char} (member : c ∈ unifyEnds text) :
    c = '\n' ∨ (c ∈ text ∧ c ≠ '\r') := by
  induction text with
  | nil => simp [unifyEnds] at member
  | cons d text ih =>
    have later : c ∈ unifyEnds text → c = '\n' ∨ (c ∈ d :: text ∧ c ≠ '\r') :=
      fun inside => (ih inside).imp id fun found => ⟨List.mem_cons_of_mem _ found.1,found.2⟩
    rw [unifyEnds_cons] at member
    split at member
    · split at member
      · exact later member
      · rcases List.mem_cons.mp member with feed | inside
        · exact .inl feed
        · exact later inside
    · rename_i other
      rcases List.mem_cons.mp member with rfl | inside
      · exact .inr ⟨List.mem_cons_self,other⟩
      · exact later inside

theorem unifyEnds_carriage (text : List Char) : '\r' ∉ unifyEnds text := by
  intro member
  rcases unifyEnds_mem member with feed | ⟨_,other⟩
  · exact absurd feed (by decide)
  · exact other rfl

theorem unifyEnds_plain {body : List Char} (inner : ∀ c ∈ body, isLineEnd c = false) :
    unifyEnds body = body := by
  induction body with
  | nil => rfl
  | cons c body ih =>
    obtain ⟨plain,inner⟩ := List.forall_mem_cons.mp inner
    rw [unifyEnds_cons,if_neg (lineEnd_exact.mp plain).2,ih inner]

theorem IsTerminator.unifyEnds_feed {terminator : List Char} (ends : IsTerminator terminator) :
    unifyEnds terminator = ['\n'] := by
  rcases ends with rfl | rfl | rfl <;> rfl

theorem unifyEnds_append {left right : List Char} (apart : Apart left right) :
    unifyEnds (left ++ right) = unifyEnds left ++ unifyEnds right := by
  induction left with
  | nil => rfl
  | cons c left ih =>
    have behind : Apart ([c] ++ left) right := apart
    have rest := ih behind.suffix
    cases left with
    | nil =>
      -- Only here does what follows decide what becomes of the carriage return.
      by_cases carriage : c = '\r'
      · subst c
        rw [List.singleton_append,unifyEnds_cons,if_pos rfl,if_neg (apart rfl)]
        rfl
      · rw [List.singleton_append,unifyEnds_cons,unifyEnds_cons,if_neg carriage,if_neg carriage]
        rfl
    | cons d left =>
      have first : (d :: left ++ right).head? = (d :: left).head? := rfl
      rw [List.cons_append,unifyEnds_cons c,unifyEnds_cons c,first,rest]
      repeat' split
      all_goals rfl

def feedFor (c : Char) : Char := if c = '\r' then '\n' else c

theorem feedFor_lineEnd (c : Char) : isLineEnd (feedFor c) = isLineEnd c := by
  unfold feedFor
  split
  · rename_i carriage
    subst c
    rfl
  · rfl

theorem unifyEnds_head (text : List Char) : (unifyEnds text).head? = text.head?.map feedFor := by
  induction text with
  | nil => rfl
  | cons c text ih =>
    rw [unifyEnds_cons]
    split
    · rename_i carriage
      subst c
      split
      · rename_i feed
        rw [ih,feed]
        rfl
      · rfl
    · rename_i other
      simp [feedFor,other]

theorem unifyEnds_last (text : List Char) : (unifyEnds text).getLast? = text.getLast?.map feedFor := by
  induction text with
  | nil => rfl
  | cons c text ih =>
    cases text with
    | nil =>
      by_cases carriage : c = '\r'
      · subst c
        rfl
      · simp [unifyEnds_cons,carriage,feedFor,unifyEnds]
    | cons d more =>
      have some_left : unifyEnds (d :: more) ≠ [] := by
        intro empty
        have first := unifyEnds_head (d :: more)
        simp [empty] at first
      have last (e : Char) : (e :: unifyEnds (d :: more)).getLast? = (d :: more).getLast?.map feedFor := by
        rw [← ih,← List.singleton_append,List.getLast?_append_of_ne_nil _ some_left]
      rw [unifyEnds_cons,List.getLast?_cons_cons]
      repeat' split
      · exact ih
      · exact last _
      · exact last _

end Text

def Token.unifyEnds (token : Token) : Token :=
  if token.kind = .string then ⟨.string,unified token.lexeme⟩ else token

theorem Token.unifyEnds_kind (token : Token) : token.unifyEnds.kind = token.kind := by
  unfold unifyEnds
  split
  · rename_i quoted
    exact quoted.symm
  · rfl

theorem Token.unifyEnds_string (body : List Char) :
    unifyEnds ⟨.string,String.ofList body⟩ = ⟨.string,String.ofList (Text.unifyEnds body)⟩ := by
  rw [unifyEnds,if_pos rfl,unified,String.toList_ofList]

theorem quote_unified {body : List Char} (inside : ∀ c ∈ body, isQuote c = false) :
    ∀ c ∈ unifyEnds body, isQuote c = false := by
  intro c member
  rcases unifyEnds_mem member with rfl | ⟨original,_⟩
  · rfl
  · exact inside c original

theorem unifyEnds_quote (text : List Char) : unifyEnds ('"' :: text) = '"' :: unifyEnds text := rfl

theorem Spells.unifyEnds {token : Token} {spelling : List Char} (spelled : Spells token spelling) :
    Spells token.unifyEnds (unifyEnds spelling) := by
  cases spelled with
  | number written all =>
    rw [unifyEnds_plain (plain_class all rfl rfl)]
    exact .number written all
  | identifier starts parts free =>
    rw [unifyEnds_plain (plain_class (word_parts starts parts) rfl rfl)]
    exact .identifier starts parts free
  | keyword starts parts reserved =>
    rw [unifyEnds_plain (plain_class (word_parts starts parts) rfl rfl)]
    exact .keyword starts parts reserved
  | @string body inside =>
    have apart : Apart body ['"'] := fun _ => by simp
    rw [unifyEnds_quote,unifyEnds_append apart,Token.unifyEnds_string]
    exact .string (quote_unified inside)
  | symbol mark =>
    have plain : ∀ c ∈ [mark.char], isLineEnd c = false := by cases mark <;> simp [isLineEnd,Symbol.char]
    rw [unifyEnds_plain plain]
    exact .symbol mark
  | @unknown c strange =>
    have plain : ∀ d ∈ [c], isLineEnd d = false := by simpa using (unrecognised_exact.mp strange).2.1
    rw [unifyEnds_plain plain]
    exact .unknown strange
  | lineFeed => exact .lineFeed
  | carriageReturn => exact .lineFeed
  | pair => exact .lineFeed

theorem SpellsOpen.unifyEnds {token : Token} {spelling : List Char} (opened : SpellsOpen token spelling) :
    SpellsOpen token.unifyEnds (unifyEnds spelling) := by
  obtain ⟨body,inside,rfl,rfl⟩ := opened
  exact ⟨Text.unifyEnds body,quote_unified inside,Token.unifyEnds_string body,unifyEnds_quote body⟩

theorem absorbs_unified {token : Token} {spelling : List Char} {c : Char}
    (bounded : absorbs token spelling c = false) :
    absorbs token.unifyEnds (unifyEnds spelling) (feedFor c) = false := by
  have lone : (unifyEnds spelling == ['\r']) = false := by
    apply beq_false_of_ne
    intro same
    exact unifyEnds_carriage spelling (by simp [same])
  unfold absorbs at bounded ⊢
  rw [token.unifyEnds_kind]
  by_cases carriage : c = '\r'
  · subst c
    cases token.kind <;> simp [feedFor,lone] <;> rfl
  · have same : feedFor c = c := if_neg carriage
    rw [same,lone]
    revert bounded
    cases token.kind <;> simp

def Item.unifyEnds (item : Item) : Item := ⟨item.gap,Text.unifyEnds item.spelling,item.token.unifyEnds⟩

theorem Item.unifyEnds_unknown (gap : List Char) {c : Char} (inside : isLineEnd c = false) :
    Item.unifyEnds ⟨gap,[c],⟨.unknown,String.ofList [c]⟩⟩ = ⟨gap,[c],⟨.unknown,String.ofList [c]⟩⟩ := by
  have single : ∀ d ∈ [c], isLineEnd d = false := by simpa using inside
  rw [unifyEnds,unifyEnds_plain single]
  rfl

theorem Item.unifyEnds_kinds {items : List Item} {kind : Kind} (absent : ∀ item ∈ items, item.token.kind ≠ kind) :
    ∀ item ∈ items.map unifyEnds, item.token.kind ≠ kind := by
  intro item member
  obtain ⟨original,inside,rfl⟩ := List.mem_map.mp member
  rw [unifyEnds,original.token.unifyEnds_kind]
  exact absent original inside

namespace Layout

def unifyEnds (layout : Layout) : Layout := ⟨layout.items.map Item.unifyEnds,layout.trailing⟩

theorem unifyEnds_tokens (layout : Layout) : layout.unifyEnds.tokens = layout.tokens.map Token.unifyEnds := by
  simp [unifyEnds,tokens,Item.unifyEnds]

-- No seam between two items or an item and a gap is the middle of a pair, so what is done to
-- the whole text is done to each part.
theorem WellFormed.unifyEnds_text {layout : Layout} (formed : layout.WellFormed) :
    layout.unifyEnds.text = Text.unifyEnds layout.text := by
  obtain ⟨items,trailing⟩ := layout
  induction items with
  | nil => exact (unifyEnds_plain formed.trailing.plain).symm
  | cons item items ih =>
    obtain ⟨blank,spelled,bounded,later⟩ := wellFormed_cons.mp formed
    have gap_apart : Apart item.gap (item.spelling ++ text ⟨items,trailing⟩) :=
      .of_absent _ fun member => absurd (blank.plain _ member) (by decide)
    have rest : text ⟨items.map Item.unifyEnds,trailing⟩ = Text.unifyEnds (text ⟨items,trailing⟩) := ih later
    rw [text_cons,unifyEnds_append gap_apart,unifyEnds_append (formed.read 0).apart,
      unifyEnds_plain blank.plain,← rest]
    exact text_cons _ _ _

theorem WellFormed.unifyEnds {layout : Layout} (formed : layout.WellFormed) :
    layout.unifyEnds.WellFormed := by
  obtain ⟨items,trailing⟩ := layout
  induction items with
  | nil => exact formed
  | cons item items ih =>
    obtain ⟨blank,spelled,bounded,later⟩ := wellFormed_cons.mp formed
    have rest : text ⟨items.map Item.unifyEnds,trailing⟩ = Text.unifyEnds (text ⟨items,trailing⟩) :=
      later.unifyEnds_text
    apply wellFormed_cons.mpr
    refine ⟨blank,?_,?_,ih later⟩
    · rcases spelled with closed | ⟨opened,none,ended⟩
      · exact .inl closed.unifyEnds
      · exact .inr ⟨opened.unifyEnds,by rw [none]; rfl,ended⟩
    · intro c first
      rw [rest,unifyEnds_head] at first
      obtain ⟨d,found,rfl⟩ := Option.map_eq_some_iff.mp first
      exact absorbs_unified (bounded d found)

theorem WellFormed.unified_tokens {layout : Layout} {source : String} (formed : layout.WellFormed)
    (whole : layout.text = source.toList) :
    (Cursor.ofSource (unified source)).tokens = layout.tokens.map Token.unifyEnds := by
  have text : layout.unifyEnds.text = (unified source).toList := by
    rw [formed.unifyEnds_text,whole,unified,String.toList_ofList]
  rw [formed.unifyEnds.source_tokens text,unifyEnds_tokens]

end Layout

theorem tokens_unified (source : String) :
    (Cursor.ofSource (unified source)).tokens = (Cursor.ofSource source).tokens.map Token.unifyEnds := by
  obtain ⟨layout,formed,whole⟩ := Layout.exists_layout source
  rw [formed.unified_tokens whole,formed.source_tokens whole]

end BasicLex
