import BasicLex.Proofs.Dump

namespace BasicLex
open Text

namespace Text

def hexDigit? (c : Char) : Option Nat := (List.range 16).find? fun digit => Nat.digitChar digit = c

def hexNumber? (digits : List Char) : Option Nat :=
  digits.foldlM (fun number c => (hexDigit? c).map (16 * number + ·)) 0

def charOfCode? (code : Nat) : Option Char :=
  if code.isValidChar then some (Char.ofNat code) else none

def ofLetter? : Char → Option Char
  | '0' => some '\x00'
  | 't' => some '\t'
  | 'n' => some '\n'
  | 'r' => some '\r'
  | '\\' => some '\\'
  | '"' => some '"'
  | '\'' => some '\''
  | _ => none

def readCode? : List Char → Option (Char × List Char)
  | '{' :: rest =>
    match rest.dropWhile (· != '}') with
    | [] => none
    | _ :: after => ((hexNumber? (rest.takeWhile (· != '}'))).bind charOfCode?).map fun c => (c,after)
  | _ => none

-- Takes what is written for one character off a text. This is told without a style and
-- without the tables: nothing here asks which characters had to be escaped.
def readChar? : List Char → Option (Char × List Char)
  | [] => none
  | c :: rest =>
    if c = '\\' then
      match rest with
      | [] => none
      | letter :: after =>
        if letter = 'u' then readCode? after else (ofLetter? letter).map fun c => (c,after)
    else some (c,rest)

theorem readCode?_shorter {text rest : List Char} {c : Char} (read : readCode? text = some (c,rest)) :
    rest.length < text.length := by
  unfold readCode? at read
  split at read
  · rename_i inside
    split at read
    · cases read
    · rename_i mark after left
      obtain ⟨_,_,same⟩ := Option.map_eq_some_iff.mp read
      cases same
      have shorter := (List.dropWhile_suffix (· != '}') (l := inside)).length_le
      rw [left,List.length_cons] at shorter
      rw [List.length_cons]
      omega
  · cases read

theorem readChar?_shorter {text rest : List Char} {c : Char} (read : readChar? text = some (c,rest)) :
    rest.length < text.length := by
  unfold readChar? at read
  split at read
  · cases read
  · split at read
    · split at read
      · cases read
      · split at read
        · have shorter := readCode?_shorter read
          simp only [List.length_cons]
          omega
        · obtain ⟨_,_,same⟩ := Option.map_eq_some_iff.mp read
          cases same
          simp only [List.length_cons]
          omega
    · cases read
      simp

def unescape? (text : List Char) : Option (List Char) :=
  match _found : readChar? text with
  | some (c,rest) => (unescape? rest).map (c :: ·)
  | none => if text.isEmpty then some [] else none
termination_by text.length
decreasing_by exact readChar?_shorter _found

theorem unescape?_step {text rest : List Char} {c : Char} (read : readChar? text = some (c,rest)) :
    unescape? text = (unescape? rest).map (c :: ·) := by
  rw [unescape?]
  split
  · rename_i again; rw [read] at again; cases again; rfl
  · rename_i ended; rw [read] at ended; cases ended

theorem unescape?_nil : unescape? [] = some [] := by
  rw [unescape?]
  rfl

theorem hexDigit?_digitChar : ∀ digit < 16, hexDigit? (Nat.digitChar digit) = some digit := by decide

theorem hexNumber?_toDigits (number : Nat) : hexNumber? (Nat.toDigits 16 number) = some number := by
  induction number using Nat.strongRecOn with
  | ind number ih =>
    by_cases small : number < 16
    · rw [Nat.toDigits_of_lt_base small]
      simp [hexNumber?,hexDigit?_digitChar number small]
    · have bound : 16 ≤ number := Nat.le_of_not_lt small
      have leading := ih (number / 16) (by omega)
      have last := hexDigit?_digitChar (number % 16) (Nat.mod_lt _ (by decide))
      rw [hexNumber?] at leading ⊢
      rw [Nat.toDigits_of_base_le (by decide) bound,List.foldlM_append,leading]
      simp [last,Nat.div_add_mod]

theorem charOfCode?_toNat (c : Char) : charOfCode? c.toNat = some c := by
  have valid : c.toNat.isValidChar := c.valid
  rw [charOfCode?,if_pos valid,Char.ofNat_toNat]

namespace EscapeStyle

theorem letter?_read {style : EscapeStyle} {c letter : Char} (found : style.letter? c = some letter) :
    letter ≠ 'u' ∧ ofLetter? letter = some c := by
  unfold letter? at found
  split at found
  case h_7 =>
    split at found
    · cases found
      decide
    · cases found
  all_goals cases found
  all_goals decide

theorem letter?_backslash {style : EscapeStyle} {c : Char} (plain : style.letter? c = none) : c ≠ '\\' := by
  rintro rfl
  cases plain

theorem readCode?_code (c : Char) (rest : List Char) :
    readChar? (code c ++ rest) = some (c,rest) := by
  have digits : ∀ d ∈ Nat.toDigits 16 c.toNat, (d != '}') = true := hexDigits_class (by decide) _
  have stops : ∀ d ∈ ('}' :: rest).head?, (d != '}') = false := by simp
  have inside : code c ++ rest = '\\' :: 'u' :: '{' :: (Nat.toDigits 16 c.toNat ++ '}' :: rest) := by
    simp [code]
  rw [inside,readChar?,if_pos rfl]
  simp only [if_true,readCode?,takeWhile_bounded digits stops,dropWhile_bounded digits stops,
    hexNumber?_toDigits,Option.bind_some,charOfCode?_toNat,Option.map_some]

-- What is written for a character says itself where it ends, whatever follows.
theorem readChar?_char (style : EscapeStyle) (leading : Bool) (c : Char) (rest : List Char) :
    readChar? (style.char leading c ++ rest) = some (c,rest) := by
  unfold char
  split
  · rename_i letter found
    obtain ⟨other,back⟩ := letter?_read found
    simp [readChar?,other,back]
  · rename_i plain
    split
    · exact readCode?_code c rest
    · simp [readChar?,letter?_backslash plain]

theorem unescape?_write (style : EscapeStyle) (text : List Char) :
    unescape? (style.write text) = some text := by
  have later (text : List Char) : unescape? (text.flatMap (style.char false)) = some text := by
    induction text with
    | nil => exact unescape?_nil
    | cons c text ih =>
      rw [List.flatMap_cons,unescape?_step (style.readChar?_char false c _),ih]
      rfl
  cases text with
  | nil => exact unescape?_nil
  | cons c text =>
    rw [write,unescape?_step (style.readChar?_char true c _),later]
    rfl

end EscapeStyle

def between? (opening closing text : List Char) : Option (List Char) :=
  let inner := (text.drop opening.length).take (text.length - opening.length - closing.length)
  if opening ++ inner ++ closing = text then some inner else none

theorem between?_exact {opening closing text inner : List Char} :
    between? opening closing text = some inner ↔ opening ++ inner ++ closing = text := by
  unfold between?
  constructor
  · intro found
    dsimp only at found
    split at found
    · rename_i whole
      cases found
      exact whole
    · cases found
  · rintro rfl
    have kept : ((opening ++ inner ++ closing).drop opening.length).take
        ((opening ++ inner ++ closing).length - opening.length - closing.length) = inner := by
      simp [List.append_assoc]
    simp only [kept,if_true]

end Text

namespace Token

def ofDisplay? (shown : String) : Option Token := do
  let kind ← Kind.ofName? (String.ofList (shown.toList.takeWhile (· != '(')))
  let written ← between? ['(','"'] ['"',')'] (shown.toList.dropWhile (· != '('))
  let lexeme ← unescape? written
  return ⟨kind,String.ofList lexeme⟩

theorem ofDisplay?_display (token : Token) : ofDisplay? token.display = some token := by
  have name : ∀ c ∈ token.kind.name.toList, (c != '(') = true := by
    intro c member
    simpa using (Kind.name_class token.kind c member).2
  have shown : token.display.toList = token.kind.name.toList ++
      (['(','"'] ++ EscapeStyle.quoted.write token.lexeme.toList ++ ['"',')']) := by
    simp [display_toList,quote]
  have stops : ∀ c ∈ (['(','"'] ++ EscapeStyle.quoted.write token.lexeme.toList ++ ['"',')']).head?,
      (c != '(') = false := by simp
  have kind : Kind.ofName? token.kind.name = some token.kind := Kind.ofName?_exact.mpr rfl
  rw [ofDisplay?,shown,takeWhile_bounded name stops,dropWhile_bounded name stops,String.ofList_toList,kind,
    between?_exact.mpr rfl]
  simp [EscapeStyle.unescape?_write]

theorem display_injective : Function.Injective display := by
  intro left right same
  have read := left.ofDisplay?_display
  rw [same,right.ofDisplay?_display] at read
  exact (Option.some.inj read).symm

end Token

namespace CommandLine

theorem shownLine_injective : Function.Injective shownLine := by
  intro left right same
  have shown : left.display.toList = right.display.toList := congrArg Line.body same
  exact Token.display_injective (String.toList_inj.mp shown)

theorem dump_injective : Function.Injective dump := by
  intro left right same
  have shown := congrArg (fun text => lines text.toList) same
  simp only [lines_dump] at shown
  exact shownLine_injective.list_map shown

theorem dump_feeds (tokens : List Token) : (dump tokens).toList.count '\n' = tokens.length := by
  rw [dump,String.toList_ofList]
  induction tokens with
  | nil => rfl
  | cons token tokens ih =>
    have none : token.display.toList.count '\n' = 0 := by
      apply List.count_eq_zero.mpr
      intro feed
      exact absurd (token.display_lineEnd '\n' feed) (by decide)
    rw [List.flatMap_cons,List.count_append,List.count_append,none,ih,List.length_cons]
    exact Nat.add_comm _ _

-- Nothing about a token is lost when it is displayed, and nothing about a list of tokens
-- when it is printed line by line. Of all marks only the sound marks stay as they are.
theorem dump_lossless :
    (∀ token : Token, Token.ofDisplay? token.display = some token) ∧
    Function.Injective Token.display ∧
    (∀ token : Token, ∀ c ∈ token.display.toList, c ≠ '\n' ∧ c ≠ '\r' ∧
      Unicode.isPrintable c = true ∧
      (Unicode.isGraphemeExtend c = true → c = '\uFF9E' ∨ c = '\uFF9F')) ∧
    (∀ tokens, (lines (dump tokens).toList).length = tokens.length ∧
      (dump tokens).toList.count '\n' = tokens.length) ∧
    Function.Injective dump := by
  refine ⟨Token.ofDisplay?_display,Token.display_injective,?_,?_,dump_injective⟩
  · intro token c member
    have shown := token.display_shown c member
    obtain ⟨feed,carriage⟩ := lineEnd_exact.mp (shown_lineEnd shown)
    obtain ⟨printable,plain⟩ := shown_exact.mp shown
    exact ⟨feed,carriage,printable,isMark_exact.mp plain⟩
  · intro tokens
    exact ⟨by rw [lines_dump,List.length_map],dump_feeds tokens⟩

theorem display_sound_mark : ¬∀ c ∈ (Token.display ⟨.identifier,"a\uFF9E"⟩).toList,
    c ≠ '\n' ∧ c ≠ '\r' ∧ Unicode.isPrintable c = true ∧ Unicode.isGraphemeExtend c = false := by
  intro plain
  have shown : '\uFF9E' ∈ (Token.display ⟨.identifier,"a\uFF9E"⟩).toList := by decide +kernel
  obtain ⟨_,_,_,joins⟩ := plain '\uFF9E' shown
  exact absurd joins (by decide +kernel)

end CommandLine

end BasicLex
