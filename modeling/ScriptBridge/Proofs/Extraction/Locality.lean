import ScriptBridge.Proofs.Extraction.Faults

/-!
# Extraction looks at one slot for each parameter

What extracting a type gives depends on the answers at the cursor alone, and it moves the
cursor by at most one position.  Frames that agree at the cursor are therefore read alike
(`extract_congr`), by induction on the type: a table is its entries, which both frames give
alike, so that only optional types and unions look at the frame again, and at the same place.

For a whole signature this bounds what is looked at: the positions from the start on, one for
each parameter, and none after the one that a failure names (`InReach`).  Frames that agree
there give the same arguments or the same failure.
-/

namespace ScriptBridge

namespace Slots.AgreeAt

variable {slots other : Slots} {position : Nat}

theorem describe (agree : slots.AgreeAt other position) (registries : Registries) :
    slots.describe registries position = other.describe registries position := by
  simp only [Slots.describe, agree.kind, agree.number, agree.string, agree.boolean,
    agree.handle]

theorem matchesAt (agree : slots.AgreeAt other position) (type : ParamType) :
    type.matchesAt slots position = type.matchesAt other position := by
  simp only [ParamType.matchesAt, agree.kind]

theorem coerciblyMatchesAt (agree : slots.AgreeAt other position) (type : ParamType) :
    type.coerciblyMatchesAt slots position = type.coerciblyMatchesAt other position := by
  simp only [ParamType.coerciblyMatchesAt, agree.matchesAt, agree.number]

end Slots.AgreeAt

namespace CallSite

variable {site : CallSite}

/-! ## One parameter -/

theorem read_congr {slots other : Slots} {position : Nat}
    (agree : slots.AgreeAt other position) (type : ParamType) (argument : Nat)
    (state : FailureState) :
    site.read argument type slots position state =
      site.read argument type other position state := by
  induction type with
  | number kind => simp only [read, readNumber, reject, agree.number, agree.describe]
  | string => simp only [read, agree.string]
  | boolean => simp only [read, agree.boolean]
  | enumeration id => simp only [read, readEnumeration, reject, agree.string, agree.describe]
  | optional inner ih => simp only [read, agree.coerciblyMatchesAt, ih]
  | sequence element ih => simp only [read, agree.entries]
  | mapping key item ihKey ihItem => simp only [read, agree.entries]
  | union alternatives ih =>
      simp only [read, readFirst_eq,
        ParamType.firstFitting?_congr fun type _ => agree.matchesAt type]
      cases found : ParamType.firstFitting? alternatives 0 other position with
      | none => rfl
      | some entry =>
          have chosen := ih entry.1 (ParamType.mem_of_firstFitting? found)
          simp only [Option.map_some, chosen]
  | handle classId => simp only [read, readHandle, agree.handle]
  | callback => simp only [read, agree.function]
  | context => rfl
  | placeholder => rfl

/-- Frames that agree at the cursor give the same argument, cursor and failure. -/
theorem extract_congr {slots other : Slots} {cursor : Nat}
    (agree : slots.AgreeAt other cursor) (type : ParamType) (state : FailureState) :
    site.extract type slots cursor state = site.extract type other cursor state := by
  simp only [extract, matchesAt_checkPosition_congr (agree.matchesAt type), read_congr agree,
    agree.describe]

/-- Reading a type uses the slot at the position or leaves it. -/
theorem cursor_read (type : ParamType) (argument : Nat) (slots : Slots) (position : Nat)
    (state : FailureState) :
    (site.read argument type slots position state).cursor = position ∨
      (site.read argument type slots position state).cursor = position + 1 := by
  induction type with
  | optional inner ih =>
      simp only [read]
      split
      · exact ih
      · exact Or.inl rfl
  | union alternatives ih =>
      simp only [read, readFirst_eq]
      cases found : ParamType.firstFitting? alternatives 0 slots position with
      | none => exact Or.inl rfl
      | some entry => exact ih entry.1 (ParamType.mem_of_firstFitting? found)
  | context => exact Or.inl rfl
  | placeholder => exact Or.inl rfl
  | _ => exact Or.inr rfl

variable (site) in
theorem cursor_extract (type : ParamType) (slots : Slots) (cursor : Nat)
    (state : FailureState) :
    (site.extract type slots cursor state).cursor = cursor ∨
      (site.extract type slots cursor state).cursor = cursor + 1 := by
  simp only [extract]
  split
  · exact Or.inl rfl
  · split
    · exact cursor_read type cursor slots cursor state
    · exact Or.inl rfl

/-! ## Whole signatures -/

theorem extractAll_cons (type : ParamType) (rest : List ParamType) (slots : Slots)
    (start : Nat) :
    site.extractAll slots (type :: rest) start .clear =
      let reading := site.extract type slots start .clear
      if reading.state.isSet then ([reading.arg], reading.cursor, reading.state)
      else
        let restRead := site.extractAll slots rest reading.cursor .clear
        (reading.arg :: restRead.1, restRead.2) := by
  simp only [extractAll]
  split
  · rfl
  · rename_i notSet
    rw [FailureState.eq_clear_of_not_isSet notSet]

/-- A failure of a signature names a position that one of its parameters may have. -/
theorem argument?_of_extractAll {params : List ParamType} {slots : Slots} {start : Nat}
    {error : ArgumentError}
    (failed : (site.extractAll slots params start .clear).2.2.first = some error) :
    ∃ last, error.argument? = some last ∧ start ≤ last ∧ last < start + params.length := by
  induction params generalizing start with
  | nil => simp [extractAll, FailureState.clear] at failed
  | cons type rest ih =>
      rw [extractAll_cons] at failed
      dsimp only at failed
      rw [List.length_cons]
      split at failed
      · exact ⟨start, argument?_of_extract failed, by omega, by omega⟩
      · rcases ih failed with ⟨last, named, fromNext, within⟩
        have advanced := site.cursor_extract type slots start .clear
        exact ⟨last, named, by omega, by omega⟩

variable (site) in
/-- The positions that extracting a signature may look at: one for each parameter, and none
after the one that a failure names. -/
def InReach (slots : Slots) (params : List ParamType) (start position : Nat) : Prop :=
  start ≤ position ∧ position < start + params.length ∧
    ∀ error last, (site.extractAll slots params start .clear).2.2.first = some error →
      error.argument? = some last → position ≤ last

/-- Frames that agree within reach give the same arguments, or the same failure. -/
theorem extractAll_congr {slots other : Slots} {params : List ParamType} {start : Nat}
    (agree : ∀ position, site.InReach slots params start position →
      slots.AgreeAt other position) :
    site.extractAll slots params start .clear = site.extractAll other params start .clear := by
  induction params generalizing start with
  | nil => rfl
  | cons type rest ih =>
      have agreeHere : slots.AgreeAt other start := by
        apply agree
        refine ⟨by omega, by simp, ?_⟩
        intro error last failed named
        rcases argument?_of_extractAll failed with ⟨_, namedToo, fromStart, _⟩
        rw [namedToo] at named
        exact Option.some.inj named ▸ fromStart
      have advanced := site.cursor_extract type slots start .clear
      rw [extractAll_cons, extractAll_cons, ← extract_congr agreeHere]
      dsimp only
      split
      · rfl
      · rename_i notSet
        have restSame : site.extractAll slots rest (site.extract type slots start .clear).cursor
            .clear = site.extractAll other rest (site.extract type slots start .clear).cursor
            .clear := by
          apply ih
          intro position reached
          rcases reached with ⟨fromNext, within, beforeFailure⟩
          apply agree
          refine ⟨by omega, by simp only [List.length_cons]; omega, ?_⟩
          intro error last failed named
          rw [extractAll_cons] at failed
          simp only [notSet] at failed
          exact beforeFailure error last failed named
        rw [restSame]

end CallSite

end ScriptBridge
