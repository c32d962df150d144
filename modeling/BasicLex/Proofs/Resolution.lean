import BasicLex.Proofs.SourceText
import Mathlib.Data.List.Induction

namespace BasicLex

theorem bind_ok {α β ε : Type} {first : Except ε α} {next : α → Except ε β} {result : β} :
    first >>= next = .ok result ↔ ∃ value, first = .ok value ∧ next value = .ok result := by
  cases first with
  | error fault => exact iff_of_false nofun nofun
  | ok value => simp [bind,Except.bind]

namespace Path

theorem parts_last (path : List Char) : ∃ front before name, parts path = front ++ [name] ∧
    path = before ++ name ∧ separator ∉ name ∧
    (front = [] ∧ before = [] ∨ front ≠ [] ∧ before.getLast? = some separator) := by
  induction path with
  | nil => exact ⟨[],[],[],rfl,rfl,List.not_mem_nil,.inl ⟨rfl,rfl⟩⟩
  | cons c rest ih =>
    obtain ⟨front,before,name,split,whole,free,behind⟩ := ih
    rw [parts,split]
    by_cases cut : c = separator
    · rw [if_pos cut]
      refine ⟨[] :: front,c :: before,name,rfl,by rw [whole]; rfl,free,.inr ⟨List.cons_ne_nil _ _,?_⟩⟩
      cases behind with
      | inl only => rw [only.2,cut]; rfl
      | inr others => rw [List.getLast?_cons,others.2]; rfl
    · rw [if_neg cut]
      cases behind with
      | inl only =>
        obtain ⟨rfl,rfl⟩ := only
        exact ⟨[],[],c :: name,rfl,by rw [whole]; rfl,by simp [Ne.symm cut,free],.inl ⟨rfl,rfl⟩⟩
      | inr others =>
        obtain ⟨some_front,last⟩ := others
        obtain ⟨part,more,rfl⟩ := List.exists_cons_of_ne_nil some_front
        refine ⟨(c :: part) :: more,c :: before,name,rfl,by rw [whole]; rfl,free,.inr ⟨List.cons_ne_nil _ _,?_⟩⟩
        rw [List.getLast?_cons,last]
        rfl

section
variable {path : String} {front : List (List Char)} {name : List Char}

-- A walk always ends with a step for the last part, and for an empty one it stays in place.
theorem steps_last (split : parts path.toList = front ++ [name]) :
    ∃ earlier, steps path = earlier ++ [if name = [] then "." else String.ofList name] := by
  have last : ((parts path.toList).map String.ofList).getLast? = some (String.ofList name) := by
    simp [split]
  unfold steps
  dsimp only
  rw [last]
  by_cases empty : name = []
  · rw [if_pos empty,if_pos (by simp [empty])]
    exact ⟨_,rfl⟩
  · have written : String.ofList name ≠ "" := by simpa [← String.toList_inj] using empty
    rw [if_neg empty,if_neg (by simpa using written),List.append_nil,split]
    simp [written]

theorem names_last (split : parts path.toList = front ++ [name]) (written : String.ofList name ≠ "")
    (other : String.ofList name ≠ ".") : (names path).getLast? = some (String.ofList name) := by
  unfold names
  simp [split,written,other]

theorem fileName_last {name : String} (last : (names path).getLast? = some name) (forward : name ≠ "..") :
    fileName path = name := by
  unfold fileName
  rw [last]
  exact if_neg forward

end

end Path

namespace Disk

-- A walk along the parts of a path. Each part leads on from a directory to something that
-- exists; what it ends at may be a plain file.
inductive Walks (disk : Disk) (start : Place) : List String → Place → Prop where
  | here : Walks disk start [] start
  | on {parts : List String} {place : Place} {part : String} (walk : Walks disk start parts place)
      (directory : disk.entry? place = some .directory) (short : part.utf8ByteSize ≤ 255)
      (there : (disk.entry? (place.step part)).isSome = true) :
      Walks disk start (parts ++ [part]) (place.step part)

structure Resolves (disk : Disk) (path : String) (place : Place) : Prop where
  plain : '\x00' ∉ path.toList
  written : path ≠ ""
  short : path.utf8ByteSize ≤ 4095
  walk : Walks disk (Place.start path) (Path.steps path) place

def HoldsFile (disk : Disk) (path : String) (bytes : ByteArray) : Prop :=
  ∃ place, Resolves disk path place ∧ disk.entry? place = some (.file bytes)

section
variable {disk : Disk} {start place next : Place} {part path : String} {parts : List String}

theorem enter_exact : disk.enter place part = .ok next ↔ disk.entry? place = some .directory ∧
    part.utf8ByteSize ≤ 255 ∧ (disk.entry? next).isSome = true ∧ next = place.step part := by
  unfold enter
  split
  · rename_i missing
    simp [missing]
  · rename_i bytes file
    simp [file]
  · rename_i directory
    by_cases long : longestName < part.utf8ByteSize
    · have refused : ¬part.utf8ByteSize ≤ 255 := Nat.not_le.mpr long
      simp [long,refused]
    · rw [if_neg long]
      constructor
      · intro entered
        split at entered
        · rename_i there
          cases entered
          exact ⟨directory,Nat.not_lt.mp long,there,rfl⟩
        · cases entered
      · rintro ⟨_,_,there,rfl⟩
        exact if_pos there

theorem walks_nil : Walks disk start [] place ↔ place = start := by
  constructor
  · intro walk
    generalize nothing : ([] : List String) = parts at walk
    cases walk with
    | here => rfl
    | on => simp at nothing
  · rintro rfl
    exact .here

theorem walks_append : Walks disk start (parts ++ [part]) next ↔
    ∃ place, Walks disk start parts place ∧ disk.enter place part = .ok next := by
  constructor
  · intro walk
    generalize written : parts ++ [part] = whole at walk
    cases walk with
    | here => simp at written
    | @on earlier place last walk directory short there =>
      obtain ⟨rfl,same⟩ := List.append_inj' written rfl
      obtain rfl := List.singleton_inj.mp same
      exact ⟨place,walk,enter_exact.mpr ⟨directory,short,there,rfl⟩⟩
  · rintro ⟨place,walk,entered⟩
    obtain ⟨directory,short,there,rfl⟩ := enter_exact.mp entered
    exact walk.on directory short there

theorem walks_exact : parts.foldlM disk.enter start = .ok place ↔ Walks disk start parts place := by
  induction parts using List.reverseRecOn generalizing place with
  | nil =>
    rw [walks_nil]
    exact ⟨fun stays => (Except.ok.inj stays).symm,fun same => congrArg Except.ok same.symm⟩
  | append_singleton parts part ih =>
    have last (middle : Place) : [part].foldlM disk.enter middle = disk.enter middle part :=
      bind_pure (disk.enter middle part)
    rw [walks_append,List.foldlM_append,bind_ok]
    simp only [last,ih]

theorem resolve_exact : disk.resolve path = .ok place ↔ Resolves disk path place := by
  unfold resolve
  constructor
  · intro resolved
    split at resolved
    · cases resolved
    · rename_i plain
      split at resolved
      · cases resolved
      · rename_i written
        split at resolved
        · cases resolved
        · rename_i long
          exact ⟨by simpa using plain,written,Nat.not_lt.mp long,walks_exact.mp resolved⟩
  · rintro ⟨plain,written,short,walk⟩
    have fits : ¬longestPath < path.utf8ByteSize := Nat.not_lt.mpr short
    rw [if_neg (by simpa using plain),if_neg written,if_neg fits]
    exact walks_exact.mpr walk

theorem read_exact {bytes : ByteArray} : disk.read path = .ok bytes ↔ HoldsFile disk path bytes := by
  unfold read HoldsFile
  rw [bind_ok]
  apply exists_congr
  intro place
  rw [resolve_exact]
  apply and_congr_right
  intro _
  cases disk.entry? place with
  | none => simp
  | some entry => cases entry <;> simp

def Grounded (disk : Disk) (place : Place) : Prop :=
  ∀ count < place.names.length, disk.entry? ⟨place.base,place.names.take count⟩ = some .directory

theorem entry_base (disk : Disk) (base : Base) : disk.entry? ⟨base,[]⟩ = some .directory := rfl

theorem grounded_start (disk : Disk) (path : String) : Grounded disk (Place.start path) :=
  fun _ inside => absurd inside (Nat.not_lt_zero _)

theorem Grounded.parent (grounded : Grounded disk place) :
    Grounded disk place.parent ∧ disk.entry? place.parent = some .directory := by
  unfold Place.parent
  by_cases top : place.names = []
  · rw [if_pos top]
    exact ⟨fun _ inside => absurd inside (Nat.not_lt_zero _),entry_base disk _⟩
  · have some_names := List.length_pos_iff.mpr top
    rw [if_neg top,List.dropLast_eq_take]
    refine ⟨?_,grounded _ (by omega)⟩
    intro count inside
    have shorter : count < place.names.length - 1 := by
      simpa using inside
    rw [List.take_take,Nat.min_eq_left (Nat.le_of_lt shorter)]
    exact grounded count (by omega)

theorem Grounded.step (grounded : Grounded disk place) (directory : disk.entry? place = some .directory)
    (part : String) : Grounded disk (place.step part) := by
  unfold Place.step
  by_cases stays : part = "."
  · rw [if_pos stays]
    exact grounded
  · rw [if_neg stays]
    by_cases back : part = ".."
    · rw [if_pos back]
      exact grounded.parent.1
    · rw [if_neg back]
      intro count inside
      have bound : count ≤ place.names.length := by
        apply Nat.le_of_lt_succ
        simpa using inside
      rw [List.take_append_of_le_length bound]
      rcases Nat.lt_or_eq_of_le bound with above | here
      · exact grounded count above
      · rw [here,List.take_length]
        exact directory

theorem Walks.grounded (walk : Walks disk start parts place) (grounded : Grounded disk start) :
    Grounded disk place := by
  induction walk with
  | here => exact grounded
  | on _ directory _ _ ih => exact ih.step directory _

theorem Walks.last_named {bytes : ByteArray} (walk : Walks disk start (parts ++ [part]) place)
    (grounded : Grounded disk start) (file : disk.entry? place = some (.file bytes)) :
    part ≠ "." ∧ part ≠ ".." := by
  obtain ⟨middle,earlier,entered⟩ := walks_append.mp walk
  obtain ⟨directory,_,_,rfl⟩ := enter_exact.mp entered
  constructor
  · rintro rfl
    have same : middle.step "." = middle := rfl
    rw [same,directory] at file
    cases file
  · rintro rfl
    have above : middle.step ".." = middle.parent := rfl
    rw [above,(earlier.grounded grounded).parent.2] at file
    cases file

theorem HoldsFile.last_part {bytes : ByteArray} (holds : HoldsFile disk path bytes) :
    ∃ before name, path.toList = before ++ name.toList ∧
      (before = [] ∨ before.getLast? = some Path.separator) ∧ Path.separator ∉ name.toList ∧
      name ≠ "" ∧ name ≠ "." ∧ name ≠ ".." ∧ (Path.names path).getLast? = some name := by
  obtain ⟨place,resolves,file⟩ := holds
  obtain ⟨front,before,name,split,whole,free,behind⟩ := Path.parts_last path.toList
  obtain ⟨earlier,steps⟩ := Path.steps_last split
  have walk := resolves.walk
  rw [steps] at walk
  obtain ⟨stays,back⟩ := walk.last_named (grounded_start disk path) file
  have named : name ≠ [] := by
    intro empty
    exact stays (if_pos empty)
  rw [if_neg named] at stays back
  have written : String.ofList name ≠ "" := by simpa using named
  refine ⟨before,String.ofList name,by rw [String.toList_ofList]; exact whole,?_,
    by rw [String.toList_ofList]; exact free,written,stays,back,Path.names_last split written stays⟩
  cases behind with
  | inl only => exact .inl only.2
  | inr others => exact .inr others.2

end

end Disk

theorem exists_valid {p : ByteArray → Prop} :
    (∃ bytes, p bytes ∧ bytes.IsValidUTF8) ↔ ∃ text : String, p text.toUTF8 := by
  constructor
  · rintro ⟨bytes,holds,valid⟩
    exact ⟨⟨bytes,valid⟩,holds⟩
  · rintro ⟨text,holds⟩
    exact ⟨_,holds,text.isValidUTF8⟩

theorem Reader.readSource_cases (reader : Reader) (path : String) :
    (∃ text : String, reader path = .ok text.toUTF8 ∧
      reader.readSource path = .ok ⟨Path.fileName path,text⟩) ∨
    (∀ text : String, reader path ≠ .ok text.toUTF8) ∧
      ∃ failure : ReadFailure, reader.readSource path = .error (failure.diagnostic path) := by
  unfold Reader.readSource
  cases read : reader.readText path with
  | ok text => exact .inl ⟨text,readText_exact.mp read,rfl⟩
  | error failure =>
    refine .inr ⟨?_,failure,rfl⟩
    intro text fetched
    rw [readText_exact.mpr fetched] at read
    cases read

-- A source is read exactly where its path leads to a plain file of valid text, and it is then
-- called by the last part of that path: a path that has no such part leads to no file.
theorem source_resolved (disk : Disk) (path : String) :
    ((∃ source, Reader.readSource disk.read path = .ok source) ↔
      ∃ bytes, disk.HoldsFile path bytes ∧ bytes.IsValidUTF8) ∧
    (∀ source, Reader.readSource disk.read path = .ok source →
      disk.HoldsFile path source.text.toUTF8 ∧
      (∃ before, path.toList = before ++ source.file.toList ∧
        (before = [] ∨ before.getLast? = some '/')) ∧
      '/' ∉ source.file.toList ∧ source.file ≠ "" ∧ source.file ≠ "." ∧ source.file ≠ ".." ∧
      (Path.names path).getLast? = some source.file) ∧
    ((¬∃ bytes, disk.HoldsFile path bytes ∧ bytes.IsValidUTF8) →
      ∃ diagnostic reason, Reader.readSource disk.read path = .error diagnostic ∧
        diagnostic = ⟨.fileRead path reason,.null⟩ ∧
        diagnostic.cause.hasSourcePosition = false ∧ diagnostic.cause.tip = none) := by
  rw [exists_valid]
  rcases Reader.readSource_cases disk.read path with ⟨text,fetched,read⟩ | ⟨unread,failure,failed⟩
  · have holds := Disk.read_exact.mp fetched
    rw [read]
    refine ⟨iff_of_true ⟨_,rfl⟩ ⟨text,holds⟩,?_,fun none => absurd ⟨text,holds⟩ none⟩
    intro source same
    cases same
    obtain ⟨before,name,whole,behind,free,written,stays,back,last⟩ := holds.last_part
    rw [Path.fileName_last last back]
    exact ⟨holds,⟨before,whole,behind⟩,free,written,stays,back,last⟩
  · rw [failed]
    refine ⟨iff_of_false nofun ?_,nofun,fun _ => ⟨_,failure.message,rfl,rfl,rfl,rfl⟩⟩
    rintro ⟨text,holds⟩
    exact unread text (Disk.read_exact.mpr holds)

theorem source_resolved_roundabout :
    let disk := Disk.ofListing [("d/t.bas","é\n".toUTF8),("d/u",⟨#[0xFF]⟩)] ["e"]
    let path := "d/../e/..//d/./t.bas"
    Reader.readSource disk.read path = .ok ⟨"t.bas","é\n"⟩ ∧ disk.HoldsFile path "é\n".toUTF8 ∧
      (¬∃ bytes, disk.HoldsFile "d/u" bytes ∧ bytes.IsValidUTF8) ∧
      (¬∃ bytes, disk.HoldsFile "d/t.bas/." bytes ∧ bytes.IsValidUTF8) ∧
      ∃ diagnostic reason, Reader.readSource disk.read "d/t.bas/." = .error diagnostic ∧
        diagnostic = ⟨.fileRead "d/t.bas/." reason,.null⟩ := by
  intro disk path
  have read : Reader.readSource disk.read path = .ok ⟨"t.bas","é\n"⟩ := by decide +kernel
  obtain ⟨_,found,_⟩ := source_resolved disk path
  obtain ⟨garbled,_,_⟩ := source_resolved disk "d/u"
  obtain ⟨through,_,failed⟩ := source_resolved disk "d/t.bas/."
  have undecoded : Reader.readSource disk.read "d/u" =
    .error ⟨.fileRead "d/u" "stream did not contain valid UTF-8",.null⟩ := by decide +kernel
  have blocked : Reader.readSource disk.read "d/t.bas/." =
    .error ⟨.fileRead "d/t.bas/." "Not a directory (os error 20)",.null⟩ := by decide +kernel
  have absent : ¬∃ bytes, disk.HoldsFile "d/t.bas/." bytes ∧ bytes.IsValidUTF8 := by
    rw [← through,blocked]
    nofun
  refine ⟨read,(found _ read).1,?_,absent,?_⟩
  · rw [← garbled,undecoded]
    nofun
  · obtain ⟨diagnostic,reason,unread,same,_⟩ := failed absent
    exact ⟨diagnostic,reason,unread,same⟩

end BasicLex
