import BasicLex.Cursor
import BasicLex.Text.Line
import Mathlib.Data.List.Chain
import Mathlib.Data.List.TakeWhile

namespace BasicLex

def IsGap (gap : List Char) : Prop := ∀ c ∈ gap, isBlank c = true

def isRecognised (c : Char) : Bool :=
  isBlank c || Text.isLineEnd c || isWordStart c || c.isDigit || isQuote c ||
    Symbol.all.any fun mark => mark.char == c

-- Which spellings a token has, told kind by kind and without reference to any
-- reading of a text.
inductive Spells : Token → List Char → Prop where
  | number {digits : List Char} (written : digits ≠ []) (all : ∀ c ∈ digits, c.isDigit = true) :
      Spells ⟨.number,String.ofList digits⟩ digits
  | identifier {c : Char} {more : List Char} (starts : isWordStart c = true)
      (parts : ∀ d ∈ more, isWordPart d = true) (free : Keyword.ofWord? (c :: more) = none) :
      Spells ⟨.identifier,String.ofList (c :: more)⟩ (c :: more)
  | keyword {c : Char} {more : List Char} {word : Keyword} (starts : isWordStart c = true)
      (parts : ∀ d ∈ more, isWordPart d = true) (reserved : Keyword.ofWord? (c :: more) = some word) :
      Spells ⟨.keyword word,String.ofList (c :: more)⟩ (c :: more)
  | string {body : List Char} (inside : ∀ c ∈ body, isQuote c = false) :
      Spells ⟨.string,String.ofList body⟩ ('"' :: (body ++ ['"']))
  | symbol (mark : Symbol) : Spells ⟨.symbol mark,String.ofList [mark.char]⟩ [mark.char]
  | unknown {c : Char} (strange : isRecognised c = false) : Spells ⟨.unknown,String.ofList [c]⟩ [c]
  | lineFeed : Spells ⟨.endOfStatement,""⟩ ['\n']
  | carriageReturn : Spells ⟨.endOfStatement,""⟩ ['\r']
  | pair : Spells ⟨.endOfStatement,""⟩ ['\r','\n']

def SpellsOpen (token : Token) (spelling : List Char) : Prop :=
  ∃ body, (∀ c ∈ body, isQuote c = false) ∧ token = ⟨.string,String.ofList body⟩ ∧ spelling = '"' :: body

def absorbs (token : Token) (spelling : List Char) (next : Char) : Bool :=
  match token.kind with
  | .identifier => isWordPart next
  | .keyword _ => isWordPart next
  | .number => next.isDigit
  | .endOfStatement => spelling == ['\r'] && next == '\n'
  | _ => false

def Longest (spelling following : List Char) : Prop :=
  ∀ token other, Spells token other ∨ SpellsOpen token other →
    other <+: spelling ++ following → other.length ≤ spelling.length

structure Item where
  gap : List Char
  spelling : List Char
  token : Token
deriving DecidableEq

def Item.chars (item : Item) : List Char := item.gap ++ item.spelling

def Item.MayTouch (left right : Item) : Prop :=
  ∀ c ∈ right.spelling.head?, absorbs left.token left.spelling c = false

structure Layout where
  items : List Item
  trailing : List Char
deriving DecidableEq

namespace Layout

def text (layout : Layout) : List Char := layout.items.flatMap Item.chars ++ layout.trailing

def tokens (layout : Layout) : List Token := layout.items.map Item.token

-- Only the very last characters of a text may be a string without its closing
-- quote, and a gap is needed only where two neighbours would run together.
structure WellFormed (layout : Layout) : Prop where
  gaps : ∀ item ∈ layout.items, IsGap item.gap
  trailing : IsGap layout.trailing
  spelled : ∀ before item after, layout.items = before ++ item :: after →
    Spells item.token item.spelling ∨
      (SpellsOpen item.token item.spelling ∧ after = [] ∧ layout.trailing = [])
  apart : layout.items.IsChain fun left right => right.gap = [] → left.MayTouch right

def stepsFrom (trailing : List Char) : Nat → List Item → List (Piece × Cursor)
  | _,[] => []
  | start,item :: rest =>
    (⟨start + Text.byteLength item.gap,item.spelling,item.token⟩,
      ⟨start + Text.byteLength item.chars,text ⟨rest,trailing⟩⟩) ::
      stepsFrom trailing (start + Text.byteLength item.chars) rest

def steps (layout : Layout) (start : Nat) : List (Piece × Cursor) :=
  stepsFrom layout.trailing start layout.items

end Layout

theorem blank_cases {c : Char} (blank : isBlank c = true) : c = ' ' ∨ c = '\t' := by
  simpa [isBlank] using blank

theorem absorbs_blank {c : Char} (token : Token) (spelling : List Char) (blank : isBlank c = true) :
    absorbs token spelling c = false := by
  have plain : isWordPart c = false ∧ c.isDigit = false ∧ c ≠ '\n' := by
    rcases blank_cases blank with rfl | rfl <;> decide
  unfold absorbs
  split
  · exact plain.1
  · exact plain.1
  · exact plain.2.1
  · simp [plain.2.2]
  · rfl

theorem Spells.nonempty {token : Token} {spelling : List Char} (spelled : Spells token spelling) :
    spelling ≠ [] := by
  cases spelled with
  | number written all => exact written
  | _ => simp

theorem SpellsOpen.nonempty {token : Token} {spelling : List Char} (opened : SpellsOpen token spelling) :
    spelling ≠ [] := by
  obtain ⟨body,_,_,rfl⟩ := opened
  simp

theorem Spells.not_eof {token : Token} {spelling : List Char} (spelled : Spells token spelling) :
    token.kind ≠ .endOfFile := by
  cases spelled <;> simp

theorem SpellsOpen.not_eof {token : Token} {spelling : List Char} (opened : SpellsOpen token spelling) :
    token.kind ≠ .endOfFile := by
  obtain ⟨body,_,rfl,_⟩ := opened
  simp

theorem Spells.unknown_exact {token : Token} {spelling : List Char} (spelled : Spells token spelling)
    (strange : token.kind = .unknown) :
    ∃ c, spelling = [c] ∧ token = ⟨.unknown,String.ofList [c]⟩ ∧ isRecognised c = false := by
  cases spelled with
  | unknown unrecognised => exact ⟨_,rfl,rfl,unrecognised⟩
  | _ => cases strange

section
variable {token : Token} {spelling : List Char} {ended : Prop}

theorem spelled_nonempty (spelled : Spells token spelling ∨ (SpellsOpen token spelling ∧ ended)) :
    spelling ≠ [] := by
  rcases spelled with spelled | ⟨opened,_⟩
  · exact spelled.nonempty
  · exact opened.nonempty

theorem spelled_not_eof (spelled : Spells token spelling ∨ (SpellsOpen token spelling ∧ ended)) :
    token.kind ≠ .endOfFile := by
  rcases spelled with spelled | ⟨opened,_⟩
  · exact spelled.not_eof
  · exact opened.not_eof

theorem spelled_unknown (spelled : Spells token spelling ∨ (SpellsOpen token spelling ∧ ended))
    (strange : token.kind = .unknown) :
    ∃ c, spelling = [c] ∧ token = ⟨.unknown,String.ofList [c]⟩ ∧ isRecognised c = false := by
  rcases spelled with spelled | ⟨⟨_,_,rfl,_⟩,_⟩
  · exact spelled.unknown_exact strange
  · cases strange

end

namespace Layout

theorem text_cons (item : Item) (items : List Item) (trailing : List Char) :
    text ⟨item :: items,trailing⟩ = item.gap ++ (item.spelling ++ text ⟨items,trailing⟩) := by
  simp [text,Item.chars]

theorem text_split (before : List Item) (item : Item) (after : List Item) (trailing : List Char) :
    text ⟨before ++ item :: after,trailing⟩ =
      before.flatMap Item.chars ++ item.gap ++ (item.spelling ++ text ⟨after,trailing⟩) := by
  simp [text,Item.chars]

theorem WellFormed.empty {trailing : List Char} (blank : IsGap trailing) : WellFormed ⟨[],trailing⟩ := by
  refine ⟨?_,blank,?_,.nil⟩
  · intro item member
    cases member
  · intro before item after split
    simp at split

theorem WellFormed.nonempty {layout : Layout} (formed : layout.WellFormed) {item : Item}
    (member : item ∈ layout.items) : item.spelling ≠ [] := by
  obtain ⟨before,after,split⟩ := List.append_of_mem member
  exact spelled_nonempty (formed.spelled before item after split)

-- Whether a spelling would run on into a layout is decided by the first item of
-- the layout alone: a blank never prolongs a token.
theorem WellFormed.bounds {layout : Layout} (formed : layout.WellFormed) (token : Token)
    (spelling : List Char) :
    (∀ c ∈ layout.text.head?, absorbs token spelling c = false) ↔
      ∀ next ∈ layout.items.head?, next.gap = [] →
        ∀ c ∈ next.spelling.head?, absorbs token spelling c = false := by
  obtain ⟨items,trailing⟩ := layout
  cases items with
  | nil =>
    constructor
    · intro _ next member
      cases member
    · intro _ c first
      have inside : c ∈ trailing := List.mem_of_head? (by simpa [text] using first)
      exact absorbs_blank token spelling (formed.trailing c inside)
  | cons next rest =>
    rw [text_cons]
    cases gap : next.gap with
    | nil =>
      have same : (next.spelling ++ text ⟨rest,trailing⟩).head? = next.spelling.head? :=
        List.head?_append_of_ne_nil _ (formed.nonempty List.mem_cons_self)
      simp [gap,same]
    | cons blank more =>
      have first : isBlank blank = true :=
        formed.gaps next List.mem_cons_self blank (gap ▸ List.mem_cons_self)
      simp [gap,absorbs_blank token spelling first]

theorem wellFormed_cons {item : Item} {items : List Item} {trailing : List Char} :
    WellFormed ⟨item :: items,trailing⟩ ↔
      IsGap item.gap ∧
      (Spells item.token item.spelling ∨
        (SpellsOpen item.token item.spelling ∧ items = [] ∧ trailing = [])) ∧
      (∀ c ∈ (text ⟨items,trailing⟩).head?, absorbs item.token item.spelling c = false) ∧
      WellFormed ⟨items,trailing⟩ := by
  constructor
  · intro formed
    obtain ⟨touching,chained⟩ := List.isChain_cons.mp formed.apart
    have rest : WellFormed ⟨items,trailing⟩ := by
      refine ⟨fun other member => formed.gaps other (List.mem_cons_of_mem _ member),
        formed.trailing,?_,chained⟩
      intro before other after split
      exact formed.spelled (item :: before) other after (congrArg (item :: ·) split)
    exact ⟨formed.gaps item List.mem_cons_self,formed.spelled [] item items rfl,
      (rest.bounds _ _).mpr touching,rest⟩
  · rintro ⟨blank,spelled,bounded,rest⟩
    refine ⟨?_,rest.trailing,?_,?_⟩
    · intro other member
      rcases List.mem_cons.mp member with rfl | later
      · exact blank
      · exact rest.gaps other later
    · intro before other after split
      cases before with
      | nil => obtain ⟨rfl,rfl⟩ := List.cons.inj split; exact spelled
      | cons first before =>
        obtain ⟨_,split⟩ := List.cons.inj split
        exact rest.spelled before other after split
    · exact List.isChain_cons.mpr ⟨(rest.bounds _ _).mp bounded,rest.apart⟩

theorem WellFormed.text_nil {layout : Layout} (formed : layout.WellFormed) :
    layout.text = [] ↔ layout.items = [] ∧ layout.trailing = [] := by
  obtain ⟨items,trailing⟩ := layout
  cases items with
  | nil => simp [text]
  | cons item items =>
    have written := formed.nonempty List.mem_cons_self
    simp [text_cons,written]

theorem text_append (before : List Item) (rest : Layout) :
    text ⟨before ++ rest.items,rest.trailing⟩ = text ⟨before,[]⟩ ++ rest.text := by
  simp [text]

theorem wellFormed_append {before : List Item} {rest : Layout} :
    WellFormed ⟨before ++ rest.items,rest.trailing⟩ ↔
      WellFormed ⟨before,[]⟩ ∧ rest.WellFormed ∧
      ∀ last ∈ before.getLast?, (Spells last.token last.spelling ∨ rest.text = []) ∧
        ∀ c ∈ rest.text.head?, absorbs last.token last.spelling c = false := by
  have blank : IsGap [] := by simp [IsGap]
  induction before with
  | nil => simp [WellFormed.empty blank]
  | cons item before ih =>
    constructor
    · intro formed
      rw [List.cons_append] at formed
      obtain ⟨gap,spelled,bounded,later⟩ := wellFormed_cons.mp formed
      obtain ⟨before_formed,rest_formed,meets⟩ := ih.mp later
      rw [text_append] at bounded
      cases before with
      | nil =>
        refine ⟨wellFormed_cons.mpr ⟨gap,?_,by simp [text],.empty blank⟩,rest_formed,?_⟩
        · exact spelled.imp id fun opened => ⟨opened.1,rfl,rfl⟩
        · intro last final
          obtain rfl : item = last := by simpa using final
          exact ⟨spelled.imp id fun opened => rest_formed.text_nil.mpr opened.2,bounded⟩
      | cons next more =>
        have some_text : text ⟨next :: more,[]⟩ ≠ [] := by simp [before_formed.text_nil]
        rw [List.head?_append_of_ne_nil _ some_text] at bounded
        have closed := spelled.resolve_right fun opened => by simpa using opened.2.1
        exact ⟨wellFormed_cons.mpr ⟨gap,.inl closed,bounded,before_formed⟩,rest_formed,by simpa using meets⟩
    · rintro ⟨formed,rest_formed,meets⟩
      obtain ⟨gap,spelled,bounded,before_formed⟩ := wellFormed_cons.mp formed
      rw [List.cons_append,wellFormed_cons,text_append]
      cases before with
      | nil =>
        obtain ⟨closed,meets⟩ := meets item rfl
        refine ⟨gap,?_,meets,rest_formed⟩
        rcases closed with closed | empty
        · exact .inl closed
        · exact spelled.imp id fun opened => ⟨opened.1,rest_formed.text_nil.mp empty⟩
      | cons next more =>
        have some_text : text ⟨next :: more,[]⟩ ≠ [] := by simp [before_formed.text_nil]
        rw [List.head?_append_of_ne_nil _ some_text]
        have closed := spelled.resolve_right fun opened => by simpa using opened.2.1
        exact ⟨gap,.inl closed,bounded,ih.mpr ⟨before_formed,rest_formed,by simpa using meets⟩⟩

theorem WellFormed.before {before after : List Item} {item : Item} {trailing : List Char}
    (formed : WellFormed ⟨before ++ item :: after,trailing⟩) : WellFormed ⟨before,item.gap⟩ := by
  obtain ⟨before_formed,rest_formed,meets⟩ := (@wellFormed_append before ⟨item :: after,trailing⟩).mp formed
  have blank : IsGap item.gap := rest_formed.gaps item List.mem_cons_self
  have some_text : text ⟨item :: after,trailing⟩ ≠ [] := by simp [rest_formed.text_nil]
  have joined := (@wellFormed_append before ⟨[],item.gap⟩).mpr ⟨before_formed,.empty blank,?_⟩
  · rwa [List.append_nil] at joined
  · intro last final
    refine ⟨.inl ((meets last final).1.resolve_right some_text),?_⟩
    intro c first
    exact absorbs_blank _ _ (blank c (List.mem_of_mem_head? (by simpa [text] using first)))

end Layout

end BasicLex
