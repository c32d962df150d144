import BasicLex.Proofs.StrictFlag

namespace BasicLex
open Text

namespace CommandLine

def Refused (arguments : List String) : Prop := ∃ fault, Options.parse arguments = .error fault

def Unreadable (reader : Reader) (arguments : List String) : Prop :=
  ∃ options path, Options.parse arguments = .ok options ∧ options.file = some path ∧
    ∀ text : String, reader path ≠ .ok text.toUTF8

def Rejected (reader : Reader) (arguments : List String) : Prop :=
  ∃ options source, Options.parse arguments = .ok options ∧ options.strict = true ∧
    Scans reader options source ∧ ∃ token ∈ (Cursor.ofSource source.text).tokens, token.kind = .unknown

-- How a run can end. Each failure shows one error and nothing else, but bad arguments are
-- also answered by the usage line.
inductive Ends (reader : Reader) (arguments : List String) : Outcome → Prop where
  | refused {fault : UsageFault} {rendered : String} (refused : Options.parse arguments = .error fault)
      (drawn : fault.diagnostic.render "" = .ok rendered) : Ends reader arguments ⟨1,"",rendered ++ usage⟩
  | unread {options : Options} {path : String} {failure : ReadFailure} {rendered : String}
      (parsed : Options.parse arguments = .ok options) (named : options.file = some path)
      (unread : reader.readText path = .error failure)
      (drawn : (failure.diagnostic path).render "" = .ok rendered) : Ends reader arguments ⟨1,"",rendered⟩
  | rejected {options : Options} {source : Source} {diagnostic : Diagnostic} {rendered : String}
      (parsed : Options.parse arguments = .ok options) (strict : options.strict = true)
      (scans : Scans reader options source)
      (strange : ∃ token ∈ (Cursor.ofSource source.text).tokens, token.kind = .unknown)
      (failed : tokenize source.text (some source.file) = .error diagnostic)
      (drawn : diagnostic.render source.text = .ok rendered) : Ends reader arguments ⟨1,"",rendered⟩
  | printed {options : Options} {source : Source} (parsed : Options.parse arguments = .ok options)
      (scans : Scans reader options source)
      (known : options.strict = true → ∀ token ∈ (Cursor.ofSource source.text).tokens, token.kind ≠ .unknown) :
      Ends reader arguments ⟨0,dump (Cursor.ofSource source.text).tokens,""⟩

variable {reader : Reader} {arguments : List String}

theorem scan_ends {options : Options} {source : Source} (parsed : Options.parse arguments = .ok options)
    (scans : Scans reader options source) (narrow : options.strict = true → Narrow source) :
    ∃ outcome, scan options.strict source = .ok outcome ∧ Ends reader arguments outcome := by
  cases strict : options.strict with
  | false =>
    refine ⟨_,scan_plain source,.printed parsed scans ?_⟩
    rw [strict]
    intro other
    cases other
  | true =>
    rcases scan_strict (narrow strict) with ⟨known,scanned⟩ |
      ⟨known,c,others,diagnostic,rendered,split,_,rejected,_,drawn,scanned⟩
    · exact ⟨_,scanned,.printed parsed scans fun _ => known⟩
    · have strange : ∃ token ∈ (Cursor.ofSource source.text).tokens, token.kind = .unknown :=
        ⟨⟨.unknown,String.ofList [c]⟩,by simp [split],rfl⟩
      exact ⟨_,scanned,.rejected parsed strict scans strange rejected drawn⟩

theorem run_ends (narrow : Options.strictFlag ∈ arguments → CaretsFit reader arguments) :
    ∃ outcome, run reader arguments = .ok outcome ∧ Ends reader arguments outcome := by
  cases parsed : Options.parse arguments with
  | error fault => exact ⟨_,run_usage parsed,.refused parsed rfl⟩
  | ok options =>
    cases read : options.source reader with
    | error diagnostic =>
      obtain ⟨path,failure,named,unread,rfl⟩ := source_unread read
      exact ⟨_,run_unread parsed read,.unread parsed named unread rfl⟩
    | ok source =>
      rw [run_scan parsed read]
      apply scan_ends parsed (source_exact.mp read)
      intro strict diagnostic location
      have flagged : Options.strictFlag ∈ arguments := by
        simpa [Options.parse_strict parsed] using strict
      exact narrow flagged options source diagnostic location parsed read

theorem Ends.fails {outcome : Outcome} (ends : Ends reader arguments outcome) :
    outcome.code = 1 ↔ Refused arguments ∨ Unreadable reader arguments ∨ Rejected reader arguments := by
  cases ends with
  | refused refused _ => exact iff_of_true rfl (.inl ⟨_,refused⟩)
  | @unread options path failure rendered parsed named unread _ =>
    refine iff_of_true rfl (.inr (.inl ⟨options,path,parsed,named,?_⟩))
    intro text fetched
    rw [Reader.readText_exact.mpr fetched] at unread
    cases unread
  | rejected parsed strict scans strange _ _ =>
    exact iff_of_true rfl (.inr (.inr ⟨_,_,parsed,strict,scans,strange⟩))
  | @printed options source parsed scans known =>
    refine iff_of_false (by simp) ?_
    rintro (⟨fault,refused⟩ | ⟨others,path,again,named,unread⟩ |
      ⟨others,other,again,strict,read,token,listed,strange⟩)
    · rw [parsed] at refused
      cases refused
    · obtain rfl := Except.ok.inj (parsed.symm.trans again)
      cases scans with
      | file fetched =>
        cases named
        exact unread _ fetched
      | demo => cases named
    · obtain rfl := Except.ok.inj (parsed.symm.trans again)
      obtain rfl := scans.unique read
      exact known strict token listed strange

theorem dump_join (tokens : List Token) :
    dump tokens = String.join (tokens.map fun token => token.display ++ "\n") := by
  apply String.toList_inj.mp
  rw [dump,String.toList_ofList,String.toList_join,List.flatMap_map]
  simp only [String.toList_append]
  rfl

end CommandLine

def ClosesWith (text : String) (c : Char) : Prop := ∃ front, text.toList = front ++ [c,'\n']

theorem ClosesWith.append {text : String} {c : Char} (closes : ClosesWith text c) (before : String) :
    ClosesWith (before ++ text) c := by
  obtain ⟨front,written⟩ := closes
  exact ⟨before.toList ++ front,by rw [String.toList_append,written,List.append_assoc]⟩

theorem ClosesWith.nonempty {text : String} {c : Char} (closes : ClosesWith text c) : text ≠ "" := by
  rintro rfl
  obtain ⟨front,written⟩ := closes
  simp at written

theorem ClosesWith.unique {text : String} {c d : Char} (closes : ClosesWith text c)
    (other : ClosesWith text d) : c = d := by
  obtain ⟨front,written⟩ := closes
  obtain ⟨more,again⟩ := other
  have ends := List.append_inj_right' (written.symm.trans again) rfl
  simpa using ends

theorem ClosesWith.of_suffix {text tail : String} {c : Char} (closes : ClosesWith tail c)
    (ends : tail.toList <:+ text.toList) : ClosesWith text c := by
  obtain ⟨before,whole⟩ := ends
  obtain ⟨front,written⟩ := closes
  exact ⟨before ++ front,by rw [← whole,written,List.append_assoc]⟩

namespace Diagnostic

theorem headline_closes (diagnostic : Diagnostic) : ClosesWith diagnostic.headline ')' := by
  have closing (detail : String) :
      ClosesWith ("Error: " ++ diagnostic.cause.name ++ " (" ++ detail ++ ")\n") ')' :=
    ClosesWith.append ⟨[],rfl⟩ _
  obtain ⟨cause,position⟩ := diagnostic
  cases cause with
  | unrecognisedToken token => exact closing _
  | fileRead path reason => exact closing _
  | usage message => exact closing _

theorem excerpt_closes {location : Location} {shown : String} (drawn : excerpt location = .ok shown) :
    ClosesWith shown '^' := by
  unfold excerpt at drawn
  split at drawn
  · cases drawn
  · let dashes := List.replicate (caretWidth location - 1) '-'
    have pointer : ClosesWith (String.ofList (dashes ++ ['^']) ++ "\n") '^' := ⟨dashes,by simp⟩
    rw [← Except.ok.inj drawn,String.append_assoc]
    exact pointer.append _

theorem render_closes {diagnostic : Diagnostic} {content rendered : String}
    (drawn : diagnostic.render content = .ok rendered)
    (inside : diagnostic.cause.hasSourcePosition = true →
      diagnostic.position.offset.toNat < byteLength content.toList) :
    ∃ c, ClosesWith rendered c ∧ c ≠ ']' := by
  unfold render at drawn
  split at drawn
  · rename_i faulty
    dsimp only at drawn
    split at drawn
    · rename_i beyond
      have bound := locate_none.mp beyond
      have offset := inside faulty
      omega
    · rename_i location found
      cases shown : excerpt location with
      | error failure => rw [shown] at drawn; cases drawn
      | ok text =>
        rw [shown] at drawn
        cases drawn
        exact ⟨'^',(excerpt_closes shown).append _,by decide⟩
  · cases drawn
    exact ⟨')',diagnostic.headline_closes,by decide⟩

end Diagnostic

theorem tokenize_inside {source : String} {file : Option String} {diagnostic : Diagnostic}
    (failed : tokenize source file = .error diagnostic) :
    diagnostic.position.offset.toNat < byteLength source.toList := by
  obtain ⟨before,c,after,whole,_,rfl⟩ := tokenize_error failed
  have some_bytes := c.utf8Size_pos
  have place := Position.saturate_offset (byteLength before) (file.getD unnamedSource)
  rw [place,whole,byteLength_append,byteLength_cons]
  omega

namespace CommandLine
variable {reader : Reader} {arguments : List String}

theorem usage_closes : ClosesWith usage ']' := ⟨"usage: lbc [--strict] [FILE".toList,rfl⟩

theorem Ends.silent {outcome : Outcome} (ends : Ends reader arguments outcome) (failed : outcome.code = 1) :
    outcome.stdout = "" ∧ outcome.stderr ≠ "" ∧
      (usage.toList <:+ outcome.stderr.toList ↔ Refused arguments) := by
  have alone {options : Options} {rendered : String} (parsed : Options.parse arguments = .ok options)
      (closes : ∃ c, ClosesWith rendered c ∧ c ≠ ']') :
      rendered ≠ "" ∧ (usage.toList <:+ rendered.toList ↔ Refused arguments) := by
    obtain ⟨c,closes,other⟩ := closes
    refine ⟨closes.nonempty,iff_of_false ?_ ?_⟩
    · exact fun suffix => other (closes.unique (usage_closes.of_suffix suffix))
    · rintro ⟨fault,refused⟩
      rw [parsed] at refused
      cases refused
  cases ends with
  | @refused fault rendered refused drawn =>
    have last : usage.toList <:+ (rendered ++ usage).toList := by simp
    exact ⟨rfl,(usage_closes.append rendered).nonempty,iff_of_true last ⟨fault,refused⟩⟩
  | unread parsed named unread drawn =>
    exact ⟨rfl,alone parsed (Diagnostic.render_closes drawn fun faulty => by cases faulty)⟩
  | rejected parsed strict scans strange refused drawn =>
    exact ⟨rfl,alone parsed (Diagnostic.render_closes drawn fun _ => tokenize_inside refused)⟩
  | printed parsed scans known => cases failed

theorem Ends.code_cases {outcome : Outcome} (ends : Ends reader arguments outcome) :
    outcome.code = 0 ∨ outcome.code = 1 := by
  cases ends with
  | printed parsed scans known => exact .inl rfl
  | _ => exact .inr rfl

theorem Ends.success {outcome : Outcome} (ends : Ends reader arguments outcome) (zero : outcome.code = 0) :
    outcome.stderr = "" ∧ ∃ options source tokens, Options.parse arguments = .ok options ∧
      Scans reader options source ∧
      (Cursor.calls (tokens.length + 1) (.ofSource source.text)).map Prod.fst = tokens ++ [Token.eof] ∧
      (∀ token ∈ tokens, token.kind ≠ .endOfFile) ∧
      outcome.stdout = String.join (tokens.map fun token => token.display ++ "\n") := by
  cases ends with
  | printed parsed scans known =>
    exact ⟨rfl,_,_,_,parsed,scans,Cursor.calls_tokens _,Cursor.tokens_not_eof _,dump_join _⟩
  | _ => cases zero

structure Settled (reader : Reader) (arguments : List String) (outcome : Outcome) : Prop where
  ran : run reader arguments = .ok outcome
  ends : Ends reader arguments outcome
  code : outcome.code = 0 ∨ outcome.code = 1
  fails : outcome.code = 1 ↔ Refused arguments ∨ Unreadable reader arguments ∨ Rejected reader arguments
  silent : outcome.code = 1 → outcome.stdout = "" ∧ outcome.stderr ≠ "" ∧
    (usage.toList <:+ outcome.stderr.toList ↔ Refused arguments)
  -- The tokens are those that the calls return before the first end marker.
  success : outcome.code = 0 → outcome.stderr = "" ∧
    ∃ options source tokens, Options.parse arguments = .ok options ∧ Scans reader options source ∧
      (Cursor.calls (tokens.length + 1) (.ofSource source.text)).map Prod.fst = tokens ++ [Token.eof] ∧
      (∀ token ∈ tokens, token.kind ≠ .endOfFile) ∧
      outcome.stdout = String.join (tokens.map fun token => token.display ++ "\n")

theorem run_settled (narrow : Options.strictFlag ∈ arguments → CaretsFit reader arguments) :
    ∃ outcome, Settled reader arguments outcome := by
  obtain ⟨outcome,ran,ends⟩ := run_ends narrow
  exact ⟨outcome,ran,ends,ends.code_cases,ends.fails,ends.silent,ends.success⟩

theorem run_settled_rejected :
    let reader := (Disk.ofListing [("d/t.bas","dim x\r\n\t\"]\" = é".toUTF8)] []).read
    let arguments := ["./d//t.bas","--strict"]
    (Options.strictFlag ∈ arguments → CaretsFit reader arguments) ∧
      run reader arguments = .ok (.failure ("Error: UnrecognisedToken " ++
        "(Unrecognised character `é`, it is not part of the language)\n" ++
        "-> t.bas\n  |\n2 | \"]\" = é\n  | ------^\n")) ∧
      ∃ outcome, Settled reader arguments outcome := by
  intro reader arguments
  have narrow : CaretsFit reader arguments := by
    have parsed : Options.parse arguments = .ok ⟨true,some "./d//t.bas"⟩ := by decide +kernel
    have read : Options.source ⟨true,some "./d//t.bas"⟩ reader =
      .ok ⟨"t.bas","dim x\r\n\t\"]\" = é"⟩ := by decide +kernel
    have rejected : tokenize "dim x\r\n\t\"]\" = é" (some "t.bas") =
      .error ⟨.unrecognisedToken "é",⟨14,"t.bas"⟩⟩ := by decide +kernel
    have found : locate "dim x\r\n\t\"]\" = é".toList 14 = some ⟨2,"\t\"]\" = é".toList,7⟩ := by
      decide +kernel
    exact .of_location parsed read rejected found (by decide +kernel)
  exact ⟨fun _ => narrow,by decide +kernel,run_settled fun _ => narrow⟩

end CommandLine

end BasicLex
