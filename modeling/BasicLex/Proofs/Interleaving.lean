import BasicLex.Proofs.ListCursor

namespace BasicLex

namespace Session

def asked (index : Nat) (operations : List (Nat × Operation)) : List Operation :=
  operations.filterMap fun entry => if entry.1 = index then some entry.2 else none

def answered (index : Nat) (operations : List (Nat × Operation)) (replies : List Reply) : List Reply :=
  (operations.zip replies).filterMap fun entry => if entry.1.1 = index then some entry.2 else none

section
variable {index place : Nat} {operation : Operation} {reply : Reply}
  {operations : List (Nat × Operation)} {replies : List Reply}

theorem asked_own : asked index ((index,operation) :: operations) = operation :: asked index operations := by
  simp [asked]

theorem asked_other (other : place ≠ index) :
    asked index ((place,operation) :: operations) = asked index operations := by
  simp [asked,other]

theorem answered_own : answered index ((index,operation) :: operations) (reply :: replies) =
    reply :: answered index operations replies := by
  simp [answered]

theorem answered_other (other : place ≠ index) :
    answered index ((place,operation) :: operations) (reply :: replies) = answered index operations replies := by
  simp [answered,other]

end

theorem perform_slot {session : Session} {index : Nat} {slot after : Slot} {operation : Operation}
    {answer : Answer} (here : session[index]? = some slot)
    (performed : slot.perform operation = some (answer,after)) :
    session.perform index operation = some (⟨answer,after.cursor.offset⟩,session.set index after) := by
  simp only [perform,here,performed,Option.bind_eq_bind,Option.bind_some]
  rfl

end Session

theorem Slot.run_cons {slot final : Slot} {operation : Operation} {rest : List Operation}
    {replies : List Reply} (ran : slot.run (operation :: rest) = some (replies,final)) :
    ∃ answer after later, slot.perform operation = some (answer,after) ∧
      after.run rest = some (later,final) ∧ replies = ⟨answer,after.cursor.offset⟩ :: later := by
  rw [Slot.run] at ran
  obtain ⟨⟨answer,after⟩,performed,ran⟩ := Option.bind_eq_some_iff.mp ran
  obtain ⟨⟨later,last⟩,continued,same⟩ := Option.bind_eq_some_iff.mp ran
  cases same
  exact ⟨answer,after,later,performed,continued,rfl⟩

namespace Session

-- If every slot by itself can do what it is asked, then all of them can side by side, and
-- none notices the others.
theorem run_slots {session : Session} {operations : List (Nat × Operation)}
    (inside : ∀ entry ∈ operations, entry.1 < session.length)
    (able : ∀ index (slot : Slot), session[index]? = some slot →
      ∃ result, slot.run (asked index operations) = some result) :
    ∃ replies final, session.run operations = some (replies,final) ∧ replies.length = operations.length ∧
      ∀ index (slot : Slot), session[index]? = some slot → ∃ last, final[index]? = some last ∧
        slot.run (asked index operations) = some (answered index operations replies,last) := by
  induction operations generalizing session with
  | nil => exact ⟨[],session,rfl,rfl,fun index slot here => ⟨slot,here,rfl⟩⟩
  | cons entry rest ih =>
    obtain ⟨place,operation⟩ := entry
    obtain ⟨bound,inside⟩ := List.forall_mem_cons.mp inside
    have here : session[place]? = some session[place] := List.getElem?_eq_getElem bound
    obtain ⟨⟨own,last⟩,ran⟩ := able place _ here
    rw [asked_own] at ran
    obtain ⟨answer,after,later,performed,continued,_⟩ := Slot.run_cons ran
    have able_after : ∀ index (slot : Slot), (session.set place after)[index]? = some slot →
        ∃ result, slot.run (asked index rest) = some result := by
      intro index slot found
      by_cases same : place = index
      · subst index
        rw [List.getElem?_set_self bound] at found
        cases found
        exact ⟨_,continued⟩
      · rw [List.getElem?_set_ne same] at found
        have unchanged := able index slot found
        rwa [asked_other same] at unchanged
    have inside_after : ∀ entry ∈ rest, entry.1 < (session.set place after).length := by
      simpa using inside
    obtain ⟨replies,final,ran_rest,count,each⟩ := ih inside_after able_after
    refine ⟨⟨answer,after.cursor.offset⟩ :: replies,final,?_,congrArg (· + 1) count,?_⟩
    · simp only [run,perform_slot here performed,Option.bind_eq_bind,Option.bind_some,ran_rest]
      rfl
    · intro index slot found
      by_cases same : place = index
      · subst index
        cases here.symm.trans found
        obtain ⟨last,kept,ran⟩ := each place after (List.getElem?_set_self bound)
        refine ⟨last,kept,?_⟩
        simp only [asked_own,answered_own,Slot.run,performed,Option.bind_eq_bind,Option.bind_some,ran]
        rfl
      · obtain ⟨last,kept,ran⟩ := each index slot (by rwa [List.getElem?_set_ne same])
        exact ⟨last,kept,by rwa [asked_other same,answered_other same]⟩

theorem run_alone (slot : Slot) (operations : List Operation) :
    run [slot] (operations.map (0,·)) =
      (slot.run operations).map fun result => (result.1,[result.2]) := by
  induction operations generalizing slot with
  | nil => rfl
  | cons operation rest ih =>
    rw [List.map_cons,run,Slot.run]
    cases performed : slot.perform operation with
    | none => simp [perform,performed]
    | some step =>
      obtain ⟨answer,after⟩ := step
      have here : ([slot] : Session)[0]? = some slot := rfl
      simp only [perform_slot here performed,Option.bind_eq_bind,Option.bind_some,List.set_cons_zero,ih]
      cases after.run rest with
      | none => rfl
      | some result => rfl

structure Refines (source : String) (operations : List Operation) (replies : List Reply) (slot : Slot) :
    Prop where
  alone : (ofSources [source]).run (operations.map (0,·)) = some (replies,[slot])
  replies : replies = (ListCursor.start.run source operations).1
  shows : Shows source (ListCursor.start.run source operations).2 slot
  drained : ∀ before after, operations = before ++ after →
    ListCursor.Drained source (ListCursor.start.run source before).2 →
    ListCursor.Drained source (ListCursor.start.run source operations).2

theorem refines_list {source : String} {operations : List Operation}
    (fits : Slot.fits false operations = true) : ∃ replies slot, Refines source operations replies slot ∧
      (Slot.reader (.ofSource source)).run operations = some (replies,slot) := by
  have shows : Shows source ListCursor.start (.reader (.ofSource source)) := .reader (.start source)
  obtain ⟨slot,ran,shows⟩ := shows.run fits
  refine ⟨_,slot,⟨?_,rfl,shows,?_⟩,ran⟩
  · rw [ofSources,List.map_cons,List.map_nil,run_alone,ran]
    rfl
  · rintro before after rfl drained
    rw [ListCursor.run_append]
    exact drained.run after

end Session

-- Any mix of operations on any number of slots is, slot by slot, what a cursor in the list
-- of that slot's tokens would do.
theorem session_refines {sources : List String} {operations : List (Nat × Operation)}
    (inside : ∀ entry ∈ operations, entry.1 < sources.length)
    (fits : ∀ index < sources.length, Slot.fits false (Session.asked index operations) = true) :
    ∃ replies final, (Session.ofSources sources).run operations = some (replies,final) ∧
      replies.length = operations.length ∧
      ∀ index source, sources[index]? = some source → ∃ slot, final[index]? = some slot ∧
        Session.Refines source (Session.asked index operations)
          (Session.answered index operations replies) slot := by
  have slot_of {index : Nat} {source : String} (named : sources[index]? = some source) :
      (Session.ofSources sources)[index]? = some (.reader (.ofSource source)) := by
    simp [Session.ofSources,named]
  have alone {index : Nat} {source : String} (named : sources[index]? = some source) :=
    @Session.refines_list source _ (fits index (List.getElem?_eq_some_iff.mp named).1)
  have able : ∀ index (slot : Slot), (Session.ofSources sources)[index]? = some slot →
      ∃ result, slot.run (Session.asked index operations) = some result := by
    intro index slot found
    obtain ⟨source,named,rfl⟩ : ∃ source,
        sources[index]? = some source ∧ .reader (.ofSource source) = slot := by
      simpa [Session.ofSources] using found
    obtain ⟨replies,last,_,ran⟩ := alone named
    exact ⟨_,ran⟩
  have inside : ∀ entry ∈ operations, entry.1 < (Session.ofSources sources).length := by
    simpa [Session.ofSources] using inside
  obtain ⟨replies,final,ran,count,each⟩ := Session.run_slots inside able
  refine ⟨replies,final,ran,count,?_⟩
  intro index source named
  obtain ⟨last,kept,ran_slot⟩ := each index _ (slot_of named)
  obtain ⟨own,slot,refines,ran_alone⟩ := alone named
  cases ran_alone.symm.trans ran_slot
  exact ⟨last,kept,refines⟩

theorem session_refines_mixed :
    let sources := ["a\t\"b\n\" 1\n= \t","# é"]
    let operations : List (Nat × Operation) := [(0,.next),(1,.toStream),(0,.peek),(0,.toStream),(1,.take 1),
      (0,.take 1),(1,.nth 0),(0,.untilStatementEnd),(1,.take 0),(0,.nth 0),(1,.last),(0,.count),(1,.next)]
    (∀ entry ∈ operations, entry.1 < sources.length) ∧
      (∀ index < sources.length, Slot.fits false (Session.asked index operations) = true) ∧
      ((Session.ofSources sources).run operations).map (·.1.map Reply.offset) =
        some [1,0,1,1,1,6,4,9,4,10,4,12,4] ∧
      ∃ replies final, (Session.ofSources sources).run operations = some (replies,final) ∧
        replies.length = operations.length ∧
        ∀ index source, sources[index]? = some source → ∃ slot, final[index]? = some slot ∧
          Session.Refines source (Session.asked index operations)
            (Session.answered index operations replies) slot := by
  intro sources operations
  have inside : ∀ entry ∈ operations, entry.1 < sources.length := by simp [operations,sources]
  have fits : ∀ index < sources.length, Slot.fits false (Session.asked index operations) = true := by decide
  exact ⟨inside,fits,by decide +kernel,session_refines inside fits⟩

end BasicLex
