import BasicLex.Proofs.Arguments
import BasicLex.Proofs.Dump
import BasicLex.Proofs.Progress
import BasicLex.Proofs.SourceText
import BasicLex.Proofs.Strictness

namespace BasicLex
open Text

namespace Options

def withoutFlag (arguments : List String) : List String := arguments.filter (· ≠ strictFlag)

theorem accept_other {argument : String} (other : argument ≠ strictFlag) (options : Options) (strict : Bool) :
    accept ⟨strict,options.file⟩ argument =
      (options.accept argument).map fun next => ⟨strict,next.file⟩ := by
  unfold accept
  rw [if_neg other,if_neg other]
  by_cases flag : isFlag argument = true
  · rw [if_pos flag,if_pos flag]
    rfl
  · rw [if_neg flag,if_neg flag]
    cases options.file <;> rfl

theorem parse_flag (arguments : List String) :
    parse arguments = (parse (withoutFlag arguments)).map fun options =>
      ⟨decide (strictFlag ∈ arguments),options.file⟩ := by
  induction arguments using List.reverseRecOn with
  | nil => rfl
  | append_singleton before argument ih =>
    rw [parse_append,ih]
    by_cases flag : argument = strictFlag
    · have same : withoutFlag (before ++ [argument]) = withoutFlag before := by
        simp [withoutFlag,flag]
      rw [same]
      cases parse (withoutFlag before) with
      | error fault => rfl
      | ok options => simp [Except.map,Except.bind,accept,flag]
    · have kept : withoutFlag (before ++ [argument]) = withoutFlag before ++ [argument] := by
        simp [withoutFlag,flag]
      have member : decide (strictFlag ∈ before ++ [argument]) = decide (strictFlag ∈ before) := by
        simp [Ne.symm flag]
      rw [kept,member,parse_append]
      cases parse (withoutFlag before) with
      | error fault => rfl
      | ok options => exact accept_other flag options _

theorem parse_strict {arguments : List String} {options : Options}
    (parsed : parse arguments = .ok options) : options.strict = decide (strictFlag ∈ arguments) :=
  (parse_exact.mp parsed).strict

theorem parse_plain {arguments : List String} {options : Options} (absent : strictFlag ∉ arguments)
    (parsed : parse arguments = .ok options) : options.strict = false := by
  rw [parse_strict parsed]
  simpa using absent

end Options

namespace CommandLine
variable {reader : Reader} {arguments : List String} {options : Options}

theorem run_usage {fault : UsageFault} (refused : Options.parse arguments = .error fault) :
    run reader arguments = .ok (.failure (fault.diagnostic.headline ++ usage)) := by
  rw [run,refused]
  rfl

theorem run_unread {diagnostic : Diagnostic} (parsed : Options.parse arguments = .ok options)
    (failed : options.source reader = .error diagnostic) :
    run reader arguments = .ok (.failure diagnostic.headline) := by
  obtain ⟨path,failure,_,_,rfl⟩ := source_unread failed
  simp only [run,parsed,failed]
  rfl

theorem run_scan {source : Source} (parsed : Options.parse arguments = .ok options)
    (read : options.source reader = .ok source) :
    run reader arguments = scan options.strict source := by
  simp only [run,parsed,read]

end CommandLine

theorem Diagnostic.render_ok {diagnostic : Diagnostic} {content : String}
    (narrow : ∀ location, locate content.toList diagnostic.position.offset.toNat = some location →
      caretWidth location ≤ 65535) : ∃ rendered, diagnostic.render content = .ok rendered := by
  unfold render
  split
  · split
    · exact ⟨_,rfl⟩
    · rename_i location found
      have fits : ¬largestCaretWidth < caretWidth location := Nat.not_lt.mpr (narrow location found)
      rw [excerpt,if_neg fits]
      exact ⟨_,rfl⟩
  · exact ⟨_,rfl⟩

namespace CommandLine

def Narrow (source : Source) : Prop := ∀ diagnostic location,
  tokenize source.text (some source.file) = .error diagnostic →
  locate source.text.toList diagnostic.position.offset.toNat = some location →
  Diagnostic.caretWidth location ≤ 65535

def CaretsFit (reader : Reader) (arguments : List String) : Prop :=
  ∀ options source diagnostic location, Options.parse arguments = .ok options →
    options.source reader = .ok source → tokenize source.text (some source.file) = .error diagnostic →
    locate source.text.toList diagnostic.position.offset.toNat = some location →
    Diagnostic.caretWidth location ≤ 65535

theorem CaretsFit.of_location {reader : Reader} {arguments : List String} {options : Options}
    {source : Source} {diagnostic : Diagnostic} {location : Location}
    (parsed : Options.parse arguments = .ok options) (read : options.source reader = .ok source)
    (rejected : tokenize source.text (some source.file) = .error diagnostic)
    (found : locate source.text.toList diagnostic.position.offset.toNat = some location)
    (fits : Diagnostic.caretWidth location ≤ 65535) : CaretsFit reader arguments := by
  intro others other again place chosen opened failed line
  cases parsed.symm.trans chosen
  cases read.symm.trans opened
  cases rejected.symm.trans failed
  cases found.symm.trans line
  exact fits

def ShowsUnknown (line : Line) : Prop := "unknown(".toList <+: line.body

theorem shows_unknown (token : Token) : ShowsUnknown (shownLine token) ↔ token.kind = .unknown :=
  token.display_unknown

theorem dump_known (tokens : List Token) (listed : ∀ token ∈ tokens, token.kind ≠ .endOfFile) :
    dump ((tokens ++ [Token.eof]).filter fun token => !token.is .endOfFile) = dump tokens := by
  have inner : ∀ token ∈ tokens, (!token.is .endOfFile) = true := by
    intro token member
    simpa [Token.is] using listed token member
  rw [List.filter_append,List.filter_eq_self.mpr inner]
  simp [Token.is,Token.eof]

theorem tokenize_tokens (source : String) (file : Option String) :
    ((∀ token ∈ (Cursor.ofSource source).tokens, token.kind ≠ .unknown) ∧
      tokenize source file = .ok ((Cursor.ofSource source).tokens ++ [Token.eof])) ∨
    ∃ known c others diagnostic,
      (Cursor.ofSource source).tokens = known ++ ⟨.unknown,String.ofList [c]⟩ :: others ∧
      (∀ token ∈ known, token.kind ≠ .unknown) ∧ tokenize source file = .error diagnostic ∧
      diagnostic.cause = .unrecognisedToken (String.ofList [c]) := by
  rcases tokenize_cases source file with known |
    ⟨before,gap,c,after,trailing,formed,whole,known,_,rejected⟩
  · exact .inl known
  · right
    refine ⟨before.map Item.token,c,after.map Item.token,_,?_,List.forall_mem_map.mpr known,rejected,rfl⟩
    rw [formed.source_tokens whole]
    simp [Layout.tokens]

theorem lines_known {tokens : List Token} (known : ∀ token ∈ tokens, token.kind ≠ .unknown) :
    ∀ line ∈ tokens.map shownLine, ¬ShowsUnknown line := by
  intro line member strange
  obtain ⟨token,listed,rfl⟩ := List.mem_map.mp member
  exact known token listed ((shows_unknown token).mp strange)

theorem scan_strict {source : Source} (narrow : Narrow source) :
    ((∀ token ∈ (Cursor.ofSource source.text).tokens, token.kind ≠ .unknown) ∧
      scan true source = .ok (.success (dump (Cursor.ofSource source.text).tokens))) ∨
    ∃ known c others diagnostic rendered,
      (Cursor.ofSource source.text).tokens = known ++ ⟨.unknown,String.ofList [c]⟩ :: others ∧
      (∀ token ∈ known, token.kind ≠ .unknown) ∧
      tokenize source.text (some source.file) = .error diagnostic ∧
      diagnostic.cause = .unrecognisedToken (String.ofList [c]) ∧
      diagnostic.render source.text = .ok rendered ∧ scan true source = .ok (.failure rendered) := by
  rcases tokenize_tokens source.text (some source.file) with ⟨known,read⟩ |
    ⟨known,c,others,diagnostic,split,familiar,rejected,cause⟩
  · refine .inl ⟨known,?_⟩
    simp only [scan,if_true,read,dump_known _ (Cursor.tokens_not_eof _)]
  · have fits := fun location => narrow diagnostic location rejected
    obtain ⟨rendered,drawn⟩ := Diagnostic.render_ok fits
    refine .inr ⟨known,c,others,diagnostic,rendered,split,familiar,rejected,cause,drawn,?_⟩
    simp only [scan,if_true,rejected,drawn]
    rfl

theorem scan_agrees {source : Source} (narrow : Narrow source) :
    ((∀ line ∈ lines (dump (Cursor.ofSource source.text).tokens).toList, ¬ShowsUnknown line) →
      scan true source = scan false source) ∧
    ((∃ line ∈ lines (dump (Cursor.ofSource source.text).tokens).toList, ShowsUnknown line) →
      ∃ diagnostic rendered c earlier later,
        tokenize source.text (some source.file) = .error diagnostic ∧
        diagnostic.render source.text = .ok rendered ∧ scan true source = .ok ⟨1,"",rendered⟩ ∧
        lines (dump (Cursor.ofSource source.text).tokens).toList =
          earlier ++ shownLine ⟨.unknown,String.ofList [c]⟩ :: later ∧
        (∀ line ∈ earlier, ¬ShowsUnknown line) ∧
        diagnostic.cause = .unrecognisedToken (String.ofList [c])) := by
  rw [lines_dump,scan_plain]
  rcases scan_strict narrow with ⟨known,scanned⟩ |
    ⟨known,c,others,diagnostic,rendered,split,familiar,rejected,cause,drawn,scanned⟩
  · constructor
    · intro _
      exact scanned
    · rintro ⟨line,member,strange⟩
      exact absurd strange (lines_known known line member)
  · rw [split,List.map_append,List.map_cons]
    constructor
    · intro shown
      have strange : ShowsUnknown (shownLine ⟨.unknown,String.ofList [c]⟩) := (shows_unknown _).mpr rfl
      exact absurd strange (shown _ (by simp))
    · intro _
      exact ⟨diagnostic,rendered,c,_,_,rejected,drawn,scanned,rfl,lines_known familiar,cause⟩

structure StrictAgrees (reader : Reader) (plain strict : List String) (outcome : Outcome) : Prop where
  ran : run reader plain = .ok outcome
  code : outcome.code = 0 ∨ outcome.code = 1
  failed : outcome.code = 1 → run reader strict = .ok outcome
  known : outcome.code = 0 → (∀ line ∈ lines outcome.stdout.toList, ¬ShowsUnknown line) →
    run reader strict = .ok outcome
  -- The error is the one that the source of both runs gives under its file's name, and the
  -- first line for an unknown token shows its character.
  unknown : outcome.code = 0 → (∃ line ∈ lines outcome.stdout.toList, ShowsUnknown line) →
    ∃ options source diagnostic rendered c earlier later,
      Options.parse plain = .ok options ∧ options.source reader = .ok source ∧
      (∀ path ∈ options.file, source.file = Path.fileName path) ∧
      tokenize source.text (some source.file) = .error diagnostic ∧
      diagnostic.render source.text = .ok rendered ∧ run reader strict = .ok ⟨1,"",rendered⟩ ∧
      lines outcome.stdout.toList = earlier ++ shownLine ⟨.unknown,String.ofList [c]⟩ :: later ∧
      (∀ line ∈ earlier, ¬ShowsUnknown line) ∧
      diagnostic.cause = .unrecognisedToken (String.ofList [c])

variable {reader : Reader} {plain strict : List String}

theorem StrictAgrees.of_failure {message : String} (ran : run reader plain = .ok (.failure message))
    (strict_run : run reader strict = .ok (.failure message)) :
    StrictAgrees reader plain strict (.failure message) := by
  have failed : (Outcome.failure message).code ≠ 0 := by simp [Outcome.failure]
  refine ⟨ran,.inr rfl,fun _ => strict_run,?_,?_⟩
  · exact fun zero => absurd zero failed
  · exact fun zero => absurd zero failed

-- The second list is the first with the flag put in at some places, so the first has no
-- flag. The flag changes nothing but the answer to an unknown character.
theorem strict_run_agrees (inserted : strict.filter (· ≠ Options.strictFlag) = plain)
    (present : Options.strictFlag ∈ strict) (narrow : CaretsFit reader strict) :
    ∃ outcome, StrictAgrees reader plain strict outcome := by
  have absent : Options.strictFlag ∉ plain := by simp [← inserted]
  have parsed_strict := Options.parse_flag strict
  rw [show Options.withoutFlag strict = plain from inserted] at parsed_strict
  cases parsed : Options.parse plain with
  | error fault =>
    rw [parsed] at parsed_strict
    exact ⟨_,.of_failure (run_usage parsed) (run_usage parsed_strict)⟩
  | ok options =>
    have unflagged := Options.parse_plain absent parsed
    simp only [parsed,Except.map,present,decide_true] at parsed_strict
    have same : Options.source ⟨true,options.file⟩ reader = options.source reader := rfl
    cases read : options.source reader with
    | error diagnostic =>
      have strict_run := run_unread parsed_strict (same.trans read)
      exact ⟨_,.of_failure (run_unread parsed read) strict_run⟩
    | ok source =>
      have plain_run := run_scan parsed read
      have strict_run := run_scan parsed_strict (same.trans read)
      rw [unflagged,scan_plain] at plain_run
      obtain ⟨known,unknown⟩ := scan_agrees fun diagnostic location =>
        narrow _ source diagnostic location parsed_strict (same.trans read)
      refine ⟨_,plain_run,.inl rfl,?_,?_,?_⟩
      · intro one
        simp [Outcome.success] at one
      · intro _ shown
        rw [strict_run,known shown,scan_plain]
      · intro _ shown
        obtain ⟨diagnostic,rendered,c,earlier,later,rejected,drawn,scanned,split,familiar,cause⟩ :=
          unknown shown
        exact ⟨options,source,diagnostic,rendered,c,earlier,later,parsed,read,source_name read,rejected,
          drawn,strict_run.trans scanned,split,familiar,cause⟩

theorem strict_run_agrees_unknown :
    let reader := (Disk.ofListing [("d/t.bas","Dim\n \"#\" # b".toUTF8)] []).read
    let plain := ["d/t.bas"]
    let strict := ["--strict","d/t.bas","--strict"]
    let shown := "dim(\"Dim\")\neos(\"\")\nstring(\"#\")\nunknown(\"#\")\nidentifier(\"b\")\n"
    strict.filter (· ≠ Options.strictFlag) = plain ∧ Options.strictFlag ∈ strict ∧
      CaretsFit reader strict ∧ run reader plain = .ok ⟨0,shown,""⟩ ∧
      ∃ outcome, StrictAgrees reader plain strict outcome := by
  intro reader plain strict shown
  have inserted : strict.filter (· ≠ Options.strictFlag) = plain := by decide +kernel
  have present : Options.strictFlag ∈ strict := by decide +kernel
  have narrow : CaretsFit reader strict := by
    intro options source diagnostic location parsed read rejected found
    have chosen : Options.parse strict = .ok ⟨true,some "d/t.bas"⟩ := by decide +kernel
    cases chosen.symm.trans parsed
    have opened : Options.source ⟨true,some "d/t.bas"⟩ reader =
      .ok ⟨"t.bas","Dim\n \"#\" # b"⟩ := by decide +kernel
    cases opened.symm.trans read
    have failed : tokenize "Dim\n \"#\" # b" (some "t.bas") =
      .error ⟨.unrecognisedToken "#",⟨9,"t.bas"⟩⟩ := by decide +kernel
    cases failed.symm.trans rejected
    have line : locate "Dim\n \"#\" # b".toList 9 = some ⟨2," \"#\" # b".toList,5⟩ := by decide +kernel
    cases line.symm.trans found
    decide +kernel
  have plain_run : run reader plain = .ok ⟨0,shown,""⟩ := by decide +kernel
  exact ⟨inserted,present,narrow,plain_run,strict_run_agrees inserted present narrow⟩

end CommandLine

end BasicLex
