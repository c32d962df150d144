import BasicLex.Proofs.Readback
import BasicLex.Proofs.Strictness

namespace BasicLex
open Text Unicode

namespace Text

def outermost? (mark : Char) (text : List Char) : Option (List Char) :=
  match text.dropWhile (· != mark) with
  | [] => none
  | _ :: behind =>
    match behind.reverse.dropWhile (· != mark) with
    | [] => none
    | _ :: inner => some inner.reverse

theorem dropWhile_mark {mark : Char} {before : List Char} (free : mark ∉ before) (rest : List Char) :
    (before ++ mark :: rest).dropWhile (· != mark) = mark :: rest := by
  apply dropWhile_bounded
  · intro c member
    apply bne_iff_ne.mpr
    rintro rfl
    exact free member
  · simp

theorem outermost?_between {mark : Char} {before after : List Char} (first : mark ∉ before)
    (last : mark ∉ after) (inner : List Char) :
    outermost? mark (before ++ mark :: inner ++ mark :: after) = some inner := by
  have turned : (inner ++ mark :: after).reverse = after.reverse ++ mark :: inner.reverse := by simp
  have back : mark ∉ after.reverse := by simpa using last
  unfold outermost?
  rw [List.append_assoc,List.cons_append,dropWhile_mark first]
  simp only [turned,dropWhile_mark back,List.reverse_reverse]

namespace EscapeStyle

theorem char_printable (style : EscapeStyle) (leading : Bool) (c : Char) :
    ∀ d ∈ style.char leading c, isPrintable d = true := by
  have fixed : signs.all isPrintable = true := by decide
  apply char_class
  · exact List.all_eq_true.mp fixed
  · decide
  · intro passed
    simp only [needsCode,Bool.or_eq_false_iff,Bool.not_eq_false'] at passed
    exact passed.1

theorem write_printable (style : EscapeStyle) (text : List Char) :
    ∀ c ∈ style.write text, isPrintable c = true := by
  cases text with
  | nil => exact List.forall_mem_nil _
  | cons first rest =>
    intro c member
    rcases List.mem_append.mp member with written | later
    · exact style.char_printable true first c written
    · obtain ⟨d,_,written⟩ := List.mem_flatMap.mp later
      exact style.char_printable false d c written

-- Where two written texts agree, they agree character by character: each reads its own first
-- character off the same text, and no more than that.
theorem written_cons {style other : EscapeStyle} {leading : Bool} {c : Char} {rest more : List Char} :
    style.char leading c ++ rest = other.char leading c ++ more ↔
      style.char leading c = other.char leading c ∧ rest = more := by
  constructor
  · intro same
    have left := style.readChar?_char leading c rest
    rw [same,other.readChar?_char] at left
    obtain rfl : more = rest := congrArg Prod.snd (Option.some.inj left)
    exact ⟨List.append_cancel_right same,rfl⟩
  · rintro ⟨first,rfl⟩
    rw [first]

theorem code_not_plain {c : Char} (plain : c ≠ '\\') : code c ≠ [c] := by
  intro same
  have first : '\\' = c := congrArg (fun text => text.headD c) same
  exact plain first.symm

theorem letter?_plain {style : EscapeStyle} {c letter : Char} (found : style.letter? c = some letter) :
    isMark c = false := by
  unfold letter? at found
  split at found
  all_goals first | rfl | cases found

theorem letter?_agree {c : Char} (other : c ≠ '\'') : quoted.letter? c = bare.letter? c := by
  unfold letter?
  split
  case h_7 => exact absurd rfl other
  all_goals rfl

theorem char_agree {leading : Bool} {c : Char} : quoted.char leading c = bare.char leading c ↔
    c ≠ '\'' ∧ (leading = false → isPrintable c = true → isMark c = false) := by
  by_cases apostrophe : c = '\''
  · refine iff_of_false ?_ fun agreed => agreed.1 apostrophe
    rw [apostrophe]
    cases leading <;> decide
  · cases found : bare.letter? c with
    | some letter =>
      have same : quoted.char leading c = bare.char leading c := by
        simp only [char,letter?_agree apostrophe,found]
      exact iff_of_true same ⟨apostrophe,fun _ _ => letter?_plain found⟩
    | none =>
      have coded := code_not_plain (letter?_backslash found)
      simp only [char,letter?_agree apostrophe,found]
      by_cases printable : isPrintable c = true
      · cases leading <;> cases joins : isMark c <;>
          simp [needsCode,quoted,bare,printable,joins,apostrophe,coded]
      · simp [needsCode,printable,apostrophe]

theorem later_agree (text : List Char) :
    text.flatMap (quoted.char false) = text.flatMap (bare.char false) ↔
      ∀ c ∈ text, c ≠ '\'' ∧ (isPrintable c = true → isMark c = false) := by
  induction text with
  | nil => simp
  | cons c text ih =>
    rw [List.flatMap_cons,List.flatMap_cons,written_cons,char_agree,ih,List.forall_mem_cons]
    simp

-- The first character is not among those that may join a neighbour.
theorem write_agree (text : List Char) : quoted.write text = bare.write text ↔
    '\'' ∉ text ∧ ∀ c ∈ text.tail, isPrintable c = true → isMark c = false := by
  rw [← List.forall_mem_ne']
  cases text with
  | nil => simp [write]
  | cons c text =>
    rw [write,write,written_cons,char_agree,later_agree,List.forall_mem_cons,List.tail_cons]
    constructor
    · rintro ⟨⟨first,_⟩,later⟩
      exact ⟨⟨first,fun d member => (later d member).1⟩,fun d member => (later d member).2⟩
    · rintro ⟨⟨first,others⟩,marks⟩
      exact ⟨⟨first,by simp⟩,fun d member => ⟨others d member,marks d member⟩⟩

end EscapeStyle
end Text

namespace Cause

theorem message_outermost (token : String) :
    outermost? '"' (unrecognisedToken token).message.toList = some (EscapeStyle.quoted.write token.toList) := by
  have shown : (unrecognisedToken token).message = "unrecognised token: " ++ quote token := rfl
  have free : '"' ∉ "unrecognised token: ".toList := by simp
  rw [← outermost?_between free List.not_mem_nil]
  apply congrArg (outermost? '"')
  simp only [shown,quote,String.toList_append,String.toList_ofList,List.append_assoc]

theorem tip_outermost (token : String) :
    outermost? '\x60' (unrecognisedToken token).tip.display.toList = some (EscapeStyle.bare.write token.toList) := by
  have before : "Unrecognised character `".toList = "Unrecognised character ".toList ++ ['\x60'] := rfl
  have after : "`, it is not part of the language".toList = '\x60' :: ", it is not part of the language".toList := rfl
  have first : '\x60' ∉ "Unrecognised character ".toList := by simp
  have last : '\x60' ∉ ", it is not part of the language".toList := by simp
  rw [← outermost?_between first last]
  apply congrArg (outermost? '\x60')
  simp only [tip,Tip.display,Option.getD_some,escapeBare,String.toList_append,String.toList_ofList,before,after,
    List.append_assoc,List.cons_append,List.nil_append]

end Cause

theorem rejected_text_twice :
    (∀ token : String, ∃ quoted bare,
      outermost? '"' (Cause.unrecognisedToken token).message.toList = some quoted ∧
      outermost? '\x60' (Cause.unrecognisedToken token).tip.display.toList = some bare ∧
      unescape? quoted = some token.toList ∧ unescape? bare = some token.toList ∧
      (∀ c ∈ quoted ++ bare, isPrintable c = true ∧ c ≠ '\n' ∧ c ≠ '\r') ∧
      (quoted = bare ↔ '\'' ∉ token.toList ∧ ∀ c ∈ token.toList.tail, isPrintable c = true →
        isGraphemeExtend c = true → c = '\uFF9E' ∨ c = '\uFF9F')) ∧
    ∀ source file diagnostic, tokenize source file = .error diagnostic → ∃ c quoted bare,
      diagnostic.cause = .unrecognisedToken (String.ofList [c]) ∧
      outermost? '"' diagnostic.cause.message.toList = some quoted ∧
      outermost? '\x60' diagnostic.cause.tip.display.toList = some bare ∧
      (quoted = bare ↔ c ≠ '\'') := by
  constructor
  · intro token
    refine ⟨_,_,Cause.message_outermost token,Cause.tip_outermost token,
      EscapeStyle.unescape?_write _ _,EscapeStyle.unescape?_write _ _,?_,?_⟩
    · intro c member
      have printable : isPrintable c = true := by
        rcases List.mem_append.mp member with written | written
        · exact EscapeStyle.write_printable _ _ c written
        · exact EscapeStyle.write_printable _ _ c written
      exact ⟨printable,lineEnd_exact.mp (printable_lineEnd printable)⟩
    · simpa only [isMark_exact] using EscapeStyle.write_agree token.toList
  · intro source file diagnostic failed
    obtain ⟨_,c,_,_,_,rfl⟩ := tokenize_error failed
    refine ⟨c,_,_,rfl,Cause.message_outermost _,Cause.tip_outermost _,?_⟩
    rw [EscapeStyle.write_agree,String.toList_ofList,List.mem_singleton]
    exact ⟨fun agreed => Ne.symm agreed.1,fun other => ⟨Ne.symm other,nofun⟩⟩

theorem rejected_text_twice_apostrophe :
    let source := "Dim '"
    let diagnostic : Diagnostic := ⟨.unrecognisedToken "'",⟨4,"shell"⟩⟩
    let marked := "\u0301e\u0301`"
    tokenize source none = .error diagnostic ∧
      (∃ c quoted bare, diagnostic.cause = .unrecognisedToken (String.ofList [c]) ∧
        outermost? '"' diagnostic.cause.message.toList = some quoted ∧
        outermost? '\x60' diagnostic.cause.tip.display.toList = some bare ∧
        (quoted = bare ↔ c ≠ '\'')) ∧
      ∃ quoted bare, outermost? '"' (Cause.unrecognisedToken marked).message.toList = some quoted ∧
        outermost? '\x60' (Cause.unrecognisedToken marked).tip.display.toList = some bare ∧ quoted ≠ bare := by
  intro source diagnostic marked
  obtain ⟨shown,rejected⟩ := rejected_text_twice
  have failed : tokenize source none = .error diagnostic := by decide +kernel
  obtain ⟨quoted,bare,message,tip,_,_,_,agreed⟩ := shown marked
  refine ⟨failed,rejected source none diagnostic failed,quoted,bare,message,tip,?_⟩
  intro same
  have joined := (agreed.mp same).2 '\u0301' (by decide +kernel) (by decide +kernel) (by decide +kernel)
  exact absurd joined (by decide)

theorem rejected_sound_mark : ¬∃ quoted bare,
    outermost? '"' (Cause.unrecognisedToken "a\uFF9E").message.toList = some quoted ∧
    outermost? '\x60' (Cause.unrecognisedToken "a\uFF9E").tip.display.toList = some bare ∧
    (quoted = bare ↔ '\'' ∉ "a\uFF9E".toList ∧
      ∀ c ∈ "a\uFF9E".toList.tail, isPrintable c = true → isGraphemeExtend c = false) := by
  rintro ⟨quoted,bare,message,tip,agreed⟩
  have same : EscapeStyle.quoted.write "a\uFF9E".toList = EscapeStyle.bare.write "a\uFF9E".toList := by
    decide +kernel
  rw [Cause.message_outermost,same,← Cause.tip_outermost,tip] at message
  obtain ⟨_,plain⟩ := agreed.mp (Option.some.inj message).symm
  have joins := plain '\uFF9E' (by decide) (by decide +kernel)
  exact absurd joins (by decide +kernel)

end BasicLex
