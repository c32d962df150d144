import BasicLex.CommandLine
import Mathlib.Data.List.Induction

namespace BasicLex
namespace Options

def Dashed (argument : String) : Prop := "--".toList <+: argument.toList

instance : DecidablePred Dashed := fun argument =>
  inferInstanceAs (Decidable ("--".toList <+: argument.toList))

theorem isFlag_exact {argument : String} : isFlag argument = true ↔ Dashed argument :=
  List.isPrefixOf_iff_prefix

theorem strictFlag_dashed : Dashed strictFlag := ⟨"strict".toList,rfl⟩

def files (arguments : List String) : List String := arguments.filter fun argument => ¬Dashed argument

theorem files_append (before after : List String) : files (before ++ after) = files before ++ files after :=
  List.filter_append before after

theorem files_dashed {argument : String} (dashed : Dashed argument) : files [argument] = [] := by
  simp [files,dashed]

theorem files_plain {argument : String} (plain : ¬Dashed argument) : files [argument] = [argument] := by
  simp [files,plain]

def Offends (arguments : List String) : Prop :=
  (∃ argument ∈ arguments, Dashed argument ∧ argument ≠ strictFlag) ∨ 2 ≤ (files arguments).length

structure Means (arguments : List String) (options : Options) : Prop where
  known : ∀ argument ∈ arguments, Dashed argument → argument = strictFlag
  strict : options.strict = decide (strictFlag ∈ arguments)
  file : files arguments = options.file.toList

-- Why an argument is refused behind others that are in order.
inductive Blames (before : List String) (argument : String) : UsageFault → Prop where
  | unknownFlag (dashed : Dashed argument) (strange : argument ≠ strictFlag) :
      Blames before argument (.unknownFlag argument)
  | secondFile (plain : ¬Dashed argument) (taken : (files before).length = 1) :
      Blames before argument .secondFile

section
variable {arguments before : List String} {argument : String} {options : Options} {fault : UsageFault}

theorem Means.settled (means : Means arguments options) : ¬Offends arguments := by
  intro offends
  cases offends with
  | inl flag =>
    obtain ⟨argument,member,dashed,strange⟩ := flag
    exact strange (means.known argument member dashed)
  | inr several =>
    have bound : (files arguments).length ≤ 1 := by
      rw [means.file]
      exact Option.length_toList_le
    omega

theorem exists_means (settled : ¬Offends arguments) : ∃ options, Means arguments options := by
  obtain ⟨known,single⟩ := not_or.mp settled
  refine ⟨⟨decide (strictFlag ∈ arguments),(files arguments).head?⟩,?_,rfl,?_⟩
  · intro argument member dashed
    apply Decidable.byContradiction
    exact fun strange => known ⟨argument,member,dashed,strange⟩
  · cases named : files arguments with
    | nil => rfl
    | cons first others =>
      have alone : others = [] := by
        rw [named,List.length_cons] at single
        exact List.length_eq_zero_iff.mp (by omega)
      rw [alone]
      rfl

theorem Means.perm {other : List String} (means : Means arguments options) (same : other.Perm arguments) :
    Means other options := by
  refine ⟨fun argument member => means.known argument (same.mem_iff.mp member),?_,?_⟩
  · exact means.strict.trans (by simp only [same.mem_iff])
  · have named : (files other).Perm options.file.toList := means.file ▸ same.filter _
    cases file : options.file with
    | none =>
      rw [file] at named
      exact List.perm_nil.mp named
    | some first =>
      rw [file] at named
      exact List.perm_singleton.mp named

theorem Means.unique {other : Options} (means : Means arguments options) (again : Means arguments other) :
    other = options := by
  have strict : other.strict = options.strict := again.strict.trans means.strict.symm
  have file : other.file = options.file := by
    have first := congrArg List.head? (again.file.symm.trans means.file)
    simpa only [Option.head?_toList] using first
  cases other
  cases options
  exact (Options.mk.injEq ..).mpr ⟨strict,file⟩

theorem Offends.append (offends : Offends before) (after : List String) : Offends (before ++ after) := by
  cases offends with
  | inl flag =>
    obtain ⟨argument,member,fault⟩ := flag
    exact .inl ⟨argument,List.mem_append_left after member,fault⟩
  | inr several =>
    apply Or.inr
    rw [files_append,List.length_append]
    exact Nat.le_add_right_of_le several

theorem Blames.offends (blames : Blames before argument fault) : Offends (before ++ [argument]) := by
  cases blames with
  | unknownFlag dashed strange => exact .inl ⟨argument,by simp,dashed,strange⟩
  | secondFile plain taken =>
    apply Or.inr
    rw [files_append,files_plain plain,List.length_append,taken]
    exact Nat.le_refl 2

theorem Blames.spoils (blames : Blames before argument fault) (after : List String) :
    Offends (before ++ argument :: after) := by
  have offends := blames.offends.append after
  rw [List.append_assoc] at offends
  exact offends

theorem accept_cases (options : Options) (argument : String) :
    (argument = strictFlag ∧ options.accept argument = .ok ⟨true,options.file⟩) ∨
    (Dashed argument ∧ argument ≠ strictFlag ∧ options.accept argument = .error (.unknownFlag argument)) ∨
    (¬Dashed argument ∧ options.file = none ∧
      options.accept argument = .ok ⟨options.strict,some argument⟩) ∨
    (¬Dashed argument ∧ options.file.isSome = true ∧ options.accept argument = .error .secondFile) := by
  unfold accept
  by_cases flag : argument = strictFlag
  · exact .inl ⟨flag,if_pos flag⟩
  · rw [if_neg flag]
    by_cases dashed : Dashed argument
    · exact .inr (.inl ⟨dashed,flag,if_pos (isFlag_exact.mpr dashed)⟩)
    · rw [if_neg (mt isFlag_exact.mp dashed)]
      cases options.file with
      | none => exact .inr (.inr (.inl ⟨dashed,rfl,rfl⟩))
      | some file => exact .inr (.inr (.inr ⟨dashed,rfl,rfl⟩))

theorem Means.accept (means : Means before options) (argument : String) :
    (∃ next, options.accept argument = .ok next ∧ Means (before ++ [argument]) next) ∨
    ∃ fault, options.accept argument = .error fault ∧ Blames before argument fault := by
  have known (familiar : Dashed argument → argument = strictFlag) :
      ∀ each ∈ before ++ [argument], Dashed each → each = strictFlag := by
    simpa [or_imp,forall_and] using ⟨means.known,familiar⟩
  rcases accept_cases options argument with ⟨rfl,accepted⟩ | ⟨dashed,strange,refused⟩ |
    ⟨plain,free,accepted⟩ | ⟨plain,taken,refused⟩
  · refine .inl ⟨_,accepted,known fun _ => rfl,?_,?_⟩
    · simp
    · rw [files_append,files_dashed strictFlag_dashed,List.append_nil]
      exact means.file
  · exact .inr ⟨_,refused,.unknownFlag dashed strange⟩
  · have other : strictFlag ≠ argument := by
      rintro rfl
      exact plain strictFlag_dashed
    refine .inl ⟨_,accepted,known fun dashed => absurd dashed plain,?_,?_⟩
    · simp [means.strict,other]
    · rw [files_append,files_plain plain,means.file,free]
      rfl
  · refine .inr ⟨_,refused,.secondFile plain ?_⟩
    obtain ⟨file,named⟩ := Option.isSome_iff_exists.mp taken
    rw [means.file,named]
    rfl

theorem parse_append (before : List String) (argument : String) :
    parse (before ++ [argument]) = (parse before).bind fun options => options.accept argument := by
  unfold parse
  rw [List.foldlM_append]
  exact bind_congr fun options => bind_pure (options.accept argument)

theorem parse_settles (arguments : List String) :
    (∃ options, parse arguments = .ok options ∧ Means arguments options) ∨
    ∃ before argument after options fault, arguments = before ++ argument :: after ∧
      Means before options ∧ Blames before argument fault ∧ parse arguments = .error fault := by
  induction arguments using List.reverseRecOn with
  | nil => exact .inl ⟨plain,rfl,by simp,rfl,rfl⟩
  | append_singleton before argument ih =>
    rw [parse_append]
    rcases ih with ⟨options,parsed,means⟩ | ⟨earlier,refused,later,options,fault,split,means,blames,failed⟩
    · rw [parsed]
      rcases means.accept argument with ⟨next,accepted,further⟩ | ⟨fault,failed,blames⟩
      · exact .inl ⟨next,accepted,further⟩
      · exact .inr ⟨before,argument,[],options,fault,rfl,means,blames,failed⟩
    · rw [failed]
      refine .inr ⟨earlier,refused,later ++ [argument],options,fault,?_,means,blames,rfl⟩
      rw [split,List.append_assoc,List.cons_append]

theorem parse_exact : parse arguments = .ok options ↔ Means arguments options := by
  constructor
  · intro parsed
    rcases parse_settles arguments with ⟨read,again,means⟩ | ⟨_,_,_,_,_,_,_,_,failed⟩
    · rw [Except.ok.inj (parsed.symm.trans again)]
      exact means
    · rw [parsed] at failed
      cases failed
  · intro means
    rcases parse_settles arguments with ⟨read,parsed,again⟩ | ⟨before,argument,after,_,_,rfl,_,blames,_⟩
    · rw [parsed,means.unique again]
    · exact absurd (blames.spoils after) means.settled

theorem parse_fails (failed : parse arguments = .error fault) : Offends arguments := by
  rcases parse_settles arguments with ⟨_,parsed,_⟩ | ⟨_,_,after,_,_,rfl,_,blames,_⟩
  · rw [parsed] at failed
    cases failed
  · exact blames.spoils after

theorem parse_refuses (offends : Offends arguments) : ∃ before argument after fault,
    arguments = before ++ argument :: after ∧ ¬Offends before ∧ Blames before argument fault ∧
      parse arguments = .error fault := by
  rcases parse_settles arguments with ⟨_,_,means⟩ |
    ⟨before,argument,after,_,fault,split,means,blames,failed⟩
  · exact absurd offends means.settled
  · exact ⟨before,argument,after,fault,split,means.settled,blames,failed⟩

end

-- The arguments are read in order, but only the choice of the offence depends on it: the
-- earliest argument with which the list goes wrong is the one that is reported.
theorem parse_grammar (arguments : List String) :
    ((∃ fault, parse arguments = .error fault) ↔ Offends arguments) ∧
    (Offends arguments → ∃ before argument after fault, arguments = before ++ argument :: after ∧
      ¬Offends before ∧ Offends (before ++ [argument]) ∧ parse arguments = .error fault ∧
      (Dashed argument ∧ argument ≠ "--strict" ∧
          fault.diagnostic = ⟨.usage ("unknown flag `" ++ argument ++ "`"),.null⟩ ∨
        ¬Dashed argument ∧ (files before).length = 1 ∧
          fault.diagnostic = ⟨.usage "expected at most one file",.null⟩)) ∧
    (¬Offends arguments → ∃ file, files arguments = file.toList ∧
      parse arguments = .ok ⟨decide ("--strict" ∈ arguments),file⟩ ∧
      ∀ other, other.Perm arguments → parse other = parse arguments) := by
  refine ⟨⟨?_,?_⟩,?_,?_⟩
  · rintro ⟨fault,failed⟩
    exact parse_fails failed
  · intro offends
    obtain ⟨_,_,_,fault,_,_,_,failed⟩ := parse_refuses offends
    exact ⟨fault,failed⟩
  · intro offends
    obtain ⟨before,argument,after,fault,split,settled,blames,failed⟩ := parse_refuses offends
    refine ⟨before,argument,after,fault,split,settled,blames.offends,failed,?_⟩
    cases blames with
    | unknownFlag dashed strange => exact .inl ⟨dashed,strange,rfl⟩
    | secondFile plain taken => exact .inr ⟨plain,taken,rfl⟩
  · intro settled
    obtain ⟨options,means⟩ := exists_means settled
    have parsed := parse_exact.mpr means
    refine ⟨options.file,means.file,?_,?_⟩
    · rw [parsed]
      exact congrArg Except.ok ((Options.mk.injEq ..).mpr ⟨means.strict,rfl⟩)
    · intro other same
      exact (parse_exact.mpr (means.perm same)).trans parsed.symm

theorem parse_grammar_orders :
    let accepted := ["--strict","","--strict"]
    let refused := ["-","--strict","--fast","b"]
    ¬Offends accepted ∧ parse accepted = .ok ⟨true,some ""⟩ ∧
      parse ["","--strict","--strict"] = parse accepted ∧
      Offends refused ∧ parse refused = .error (.unknownFlag "--fast") ∧
      ∃ before argument after fault, refused = before ++ argument :: after ∧ ¬Offends before ∧
        Offends (before ++ [argument]) ∧ parse refused = .error fault := by
  intro accepted refused
  have settled : ¬Offends accepted := by
    simp [accepted,Offends,Dashed,strictFlag,files]
  have offends : Offends refused := by
    simp [refused,Offends,Dashed,strictFlag,files]
  obtain ⟨_,_,taken⟩ := parse_grammar accepted
  obtain ⟨_,_,_,moved⟩ := taken settled
  obtain ⟨_,blamed,_⟩ := parse_grammar refused
  obtain ⟨before,argument,after,fault,split,earlier,here,failed,_⟩ := blamed offends
  have same : ["","--strict","--strict"].Perm accepted := .swap _ _ _
  exact ⟨settled,rfl,moved _ same,offends,rfl,before,argument,after,fault,split,earlier,here,failed⟩

end Options
end BasicLex
