import BasicLex.CommandLine

namespace BasicLex

theorem fromUTF8?_exact {bytes : ByteArray} {text : String} :
    String.fromUTF8? bytes = some text ↔ bytes = text.toUTF8 := by
  unfold String.fromUTF8?
  constructor
  · intro read
    split at read
    · cases read
      rfl
    · cases read
  · rintro rfl
    exact dif_pos text.isValidUTF8

theorem Reader.readText_exact {reader : Reader} {path text : String} :
    reader.readText path = .ok text ↔ reader path = .ok text.toUTF8 := by
  unfold Reader.readText
  cases fetched : reader path with
  | error failure => exact iff_of_false nofun nofun
  | ok bytes =>
    rw [Except.ok.injEq,← fromUTF8?_exact]
    cases decoded : String.fromUTF8? bytes with
    | none => simp [bind,Except.bind,decoded]
    | some content => simp [bind,Except.bind,decoded]

namespace CommandLine

inductive Scans (reader : Reader) : Options → Source → Prop where
  | file {strict : Bool} {path text : String} (fetched : reader path = .ok text.toUTF8) :
      Scans reader ⟨strict,some path⟩ ⟨Path.fileName path,text⟩
  | demo {strict : Bool} : Scans reader ⟨strict,none⟩ .demo

variable {reader : Reader} {options : Options} {source : Source}

theorem source_exact : options.source reader = .ok source ↔ Scans reader options source := by
  obtain ⟨strict,file⟩ := options
  constructor
  · intro read
    cases file with
    | none => cases read; exact .demo
    | some path =>
      unfold Options.source Reader.readSource at read
      dsimp only at read
      split at read
      · rename_i text fetched
        cases read
        exact .file (Reader.readText_exact.mp fetched)
      · cases read
  · intro scans
    cases scans with
    | file fetched =>
      simp only [Options.source,Reader.readSource,Reader.readText_exact.mpr fetched]
    | demo => rfl

theorem source_unread {diagnostic : Diagnostic} (failed : options.source reader = .error diagnostic) :
    ∃ path failure, options.file = some path ∧ reader.readText path = .error failure ∧
      diagnostic = failure.diagnostic path := by
  obtain ⟨strict,file⟩ := options
  cases file with
  | none => cases failed
  | some path =>
    unfold Options.source Reader.readSource at failed
    dsimp only at failed
    split at failed
    · cases failed
    · rename_i failure unread
      cases failed
      exact ⟨path,failure,rfl,unread,rfl⟩

theorem Scans.unique {other : Source} (scans : Scans reader options source)
    (again : Scans reader options other) : source = other := by
  have read := source_exact.mpr scans
  rw [source_exact.mpr again] at read
  exact (Except.ok.inj read).symm

theorem source_name (read : options.source reader = .ok source) :
    ∀ path ∈ options.file, source.file = Path.fileName path := by
  intro path named
  cases source_exact.mp read with
  | file fetched =>
    cases named
    rfl
  | demo => cases named

end CommandLine

end BasicLex
