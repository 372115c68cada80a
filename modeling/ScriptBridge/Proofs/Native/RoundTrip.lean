import ScriptBridge.Proofs.Arg.Map
import ScriptBridge.Proofs.Exception
import ScriptBridge.Proofs.Extraction.Matching
import ScriptBridge.Proofs.Extraction.Reference
import ScriptBridge.Proofs.Native.Conversion
import ScriptBridge.Proofs.Native.Marshal
import ScriptBridge.Proofs.Number.Rounding
import ScriptBridge.Proofs.Text.Utf8

/-!
# Marshalled values are read back

A native value that goes to a script and comes back as an argument is the same value: its
script value fits the parameter type that the native type declares, reading it records no
failure, and the argument that is read converts into the value.

The argument that is read is known beforehand (`NativeType.toArg`).  Reading gives it
because every entry of a table that stands for a list or a map fits, so that none is passed
over, and because different keys give different arguments, so that none is written over.
-/

namespace ScriptBridge.NativeType

/-! ## The argument of a native value -/

/-- The argument that stands for a native value. -/
def toArg : (type : NativeType) → type.Carrier → Arg
  | integer _, value => .integer value.val
  | single, number => .float number
  | double, number => .float number
  | text, content => .string (.ofString content)
  | bytes, content => .string content
  | boolean, flag => .boolean flag
  | handle, object => .handle (some object)
  | function, reference => .callback (some reference)
  | context, id => .context id
  | placeholder, _ => .placeholder
  | argument, arg => arg
  | option _, none => .optional none
  | option inner, some value => .optional (some (inner.toArg value))
  | list element, items => .sequence (items.map element.toArg)
  | map key item, pairs => .mapping (pairs.map fun pair => (key.toArg pair.1, item.toArg pair.2))

theorem convertItems_map {Result : Type} {convert : Arg → Except ConversionError Result}
    {argOf : Result → Arg} {results : List Result}
    (inverse : ∀ result ∈ results, convert (argOf result) = .ok result) (index : Nat) :
    convertItems convert index (results.map argOf) = .ok results := by
  induction results generalizing index with
  | nil => rfl
  | cons result rest ih =>
      rw [List.forall_mem_cons] at inverse
      simp only [List.map_cons, convertItems, inverse.1, ih inverse.2, Except.map]

theorem insertPair_of_absent {key item : NativeType} {newKey : key.Carrier}
    (newItem : item.Carrier) {pairs : List (key.Carrier × item.Carrier)}
    (absent : ∀ pair ∈ pairs, key.sameKey pair.1 newKey = false) :
    insertPair key item newKey newItem pairs = pairs ++ [(newKey, newItem)] := by
  induction pairs with
  | nil => rfl
  | cons pair rest ih =>
      rw [List.forall_mem_cons] at absent
      simp [insertPair, absent.1, ih absent.2]

/-- Converting the arguments of pairs with different keys puts every pair at the end. -/
theorem convertPairs_map {key item : NativeType}
    {convertKey : Arg → Except ConversionError key.Carrier}
    {convertItem : Arg → Except ConversionError item.Carrier}
    {argOfKey : key.Carrier → Arg} {argOfItem : item.Carrier → Arg}
    {pairs done : List (key.Carrier × item.Carrier)}
    (inverse : ∀ pair ∈ pairs, convertKey (argOfKey pair.1) = .ok pair.1 ∧
      convertItem (argOfItem pair.2) = .ok pair.2)
    (distinct : (done ++ pairs).Pairwise fun earlier later =>
      key.sameKey earlier.1 later.1 = false) :
    convertPairs convertKey convertItem
      (pairs.map fun pair => (argOfKey pair.1, argOfItem pair.2)) done =
        .ok (done ++ pairs) := by
  induction pairs generalizing done with
  | nil => rw [List.map_nil, convertPairs, List.append_nil]
  | cons pair rest ih =>
      rw [List.forall_mem_cons] at inverse
      have absent : ∀ old ∈ done, key.sameKey old.1 pair.1 = false := by
        intro old oldMem
        exact (List.pairwise_append.mp distinct).2.2 old oldMem pair List.mem_cons_self
      have regrouped : done ++ pair :: rest = done ++ [pair] ++ rest := by
        rw [List.append_assoc, List.singleton_append]
      rw [regrouped] at distinct ⊢
      simp only [List.map_cons, convertPairs, inverse.1.1, inverse.1.2]
      rw [insertPair_of_absent pair.2 absent]
      exact ih inverse.2 distinct

/-- The argument of a proper value converts into it. -/
theorem ofArg_toArg {type : NativeType} (marshalled : type.Marshalled) {value : type.Carrier}
    (proper : type.IsProper value) : type.ofArg (type.toArg value) = .ok value := by
  induction marshalled with
  | integer declared => exact IntegerWidth.ofInt_of_mem value.property
  | single => exact congrArg Except.ok proper.2
  | double => rfl
  | text => exact congrArg Except.ok (ByteString.toStringLossy_ofString value)
  | bytes => rfl
  | boolean => rfl
  | function => rfl
  | option required held ih =>
      cases value with
      | none => rfl
      | some held =>
          have converted := ih proper
          rw [toArg, ofArg_option_some, converted]
          rfl
  | list each ih =>
      apply convertItems_map
      intro item itemMem
      exact ih (proper item itemMem)
  | map keys eachKey eachItem ihKey ihItem =>
      rcases proper with ⟨distinct, each⟩
      apply convertPairs_map _ distinct
      intro pair pairMem
      rcases each pair pairMem with ⟨keyProper, itemProper⟩
      exact ⟨ihKey keyProper, ihItem itemProper⟩

theorem eq_of_sameItems {Item : Type} {argOf : Item → Arg}
    (injective : ∀ left right, (argOf left).same (argOf right) = true → left = right)
    {lefts rights : List Item}
    (same : Arg.sameItems (lefts.map argOf) (rights.map argOf) = true) : lefts = rights := by
  induction lefts generalizing rights with
  | nil =>
      cases rights with
      | nil => rfl
      | cons right rights => simp [Arg.sameItems] at same
  | cons left lefts ih =>
      cases rights with
      | nil => simp [Arg.sameItems] at same
      | cons right rights =>
          simp only [List.map_cons, Arg.sameItems, Bool.and_eq_true] at same
          rw [injective left right same.1, ih same.2]

/-- Different keys have different arguments. -/
theorem eq_of_same_toArg {type : NativeType} (marshalled : type.Marshalled)
    (keys : type.canKey = true) {left right : type.Carrier}
    (same : (type.toArg left).same (type.toArg right) = true) : left = right := by
  induction marshalled with
  | integer declared =>
      simp only [toArg, Arg.same, beq_iff_eq] at same
      exact Subtype.ext same
  | single => simp [canKey] at keys
  | double => simp [canKey] at keys
  | text =>
      simp only [toArg, Arg.same, beq_iff_eq] at same
      exact ByteString.ofString_injective same
  | bytes =>
      change ByteString at left right
      simp only [toArg, Arg.same, beq_iff_eq] at same
      exact same
  | boolean =>
      change Bool at left right
      simp only [toArg, Arg.same, beq_iff_eq] at same
      exact same
  | function =>
      simp only [toArg, Arg.same, beq_iff_eq] at same
      exact Option.some.inj same
  | option required held ih =>
      cases left with
      | none =>
          cases right with
          | none => rfl
          | some right => simp [toArg, Arg.same] at same
      | some left =>
          cases right with
          | none => simp [toArg, Arg.same] at same
          | some right =>
              simp only [toArg, Arg.same] at same
              rw [ih keys same]
  | list each ih =>
      simp only [toArg, Arg.same] at same
      apply eq_of_sameItems _ same
      intro left right itemSame
      exact ih keys itemSame
  | map itemKeys eachKey eachItem ihKey ihItem => simp [canKey] at keys

/-! ## Slots that hold a marshalled value -/

/-- Only a missing value is nil, and nil fits no other type. -/
theorem coerciblyMatchesAt_nil {type : NativeType} (marshalled : type.Marshalled)
    (required : type.isOption = false) {param : ParamType}
    (declared : type.paramType? = some param) {slots : Slots} {position : Nat}
    (holds : slots.HoldsAt position .nil) :
    param.coerciblyMatchesAt slots position = false := by
  have isNil : slots.kindAt position = .nil := holds.kind
  have unaccepted : param.accepts .nil position = false := by
    cases marshalled with
    | integer =>
        rcases Option.map_eq_some_iff.mp declared with ⟨kind, _, rfl⟩
        rfl
    | option => simp [isOption] at required
    | list =>
        rcases Option.map_eq_some_iff.mp declared with ⟨elementParam, _, rfl⟩
        rfl
    | map =>
        rcases paramType?_map declared with ⟨keyParam, itemParam, _, _, rfl⟩
        rfl
    | _ =>
        rw [← Option.some.inj declared]
        rfl
  simp only [ParamType.coerciblyMatchesAt, ParamType.matchesAt, isNil, unaccepted,
    Bool.false_and]

theorem coerciblyMatchesAt_number {slots : Slots} {position : Nat} {number : Number}
    (holds : slots.HoldsAt position (.number number)) (kind : NumberKind) :
    (ParamType.number kind).coerciblyMatchesAt slots position = true := by
  have isKind : slots.kindAt position = .number := holds.kind
  have reads : slots.numberAt position = some number := holds.number
  simp [ParamType.coerciblyMatchesAt, ParamType.matchesAt, ParamType.accepts, isKind, reads]

/-- A slot that holds a marshalled value fits the type that it is declared as. -/
theorem coerciblyMatchesAt_listed {type : NativeType} (marshalled : type.Marshalled)
    {param : ParamType} (declared : type.paramType? = some param) (value : type.Carrier)
    {slots : Slots} {position : Nat} (holds : slots.HoldsAt position (type.listed value)) :
    param.coerciblyMatchesAt slots position = true := by
  have isKind := holds.kind
  cases marshalled with
  | integer =>
      rcases Option.map_eq_some_iff.mp declared with ⟨kind, _, rfl⟩
      exact coerciblyMatchesAt_number holds kind
  | single =>
      rw [← Option.some.inj declared]
      exact coerciblyMatchesAt_number holds .single
  | double =>
      rw [← Option.some.inj declared]
      exact coerciblyMatchesAt_number holds .double
  | option =>
      rcases Option.map_eq_some_iff.mp declared with ⟨innerParam, _, rfl⟩
      rfl
  | list =>
      rcases Option.map_eq_some_iff.mp declared with ⟨elementParam, _, rfl⟩
      simp [ParamType.coerciblyMatchesAt, ParamType.matchesAt, isKind, listed, Value.sequence,
        Value.kind, ParamType.accepts, ParamType.isNumber]
  | map =>
      rcases paramType?_map declared with ⟨keyParam, itemParam, _, _, rfl⟩
      simp [ParamType.coerciblyMatchesAt, ParamType.matchesAt, isKind, listed, Value.kind,
        ParamType.accepts, ParamType.isNumber]
  | _ =>
      rw [← Option.some.inj declared]
      simp [ParamType.coerciblyMatchesAt, ParamType.matchesAt, isKind, listed, Value.kind,
        ParamType.accepts, ParamType.isNumber]

/-! ## Reading a marshalled value -/

theorem referenceNumber_ofInt (site : CallSite) (argument : Nat) {width : IntegerWidth}
    {kind : NumberKind} (isKind : width.numberKind? = some kind) (value : width.Carrier)
    {slots : Slots} {position : Nat}
    (reads : slots.numberAt position = some (.ofInt value.val)) :
    site.referenceNumber argument kind slots position = .ok (.integer value.val) := by
  have bounds := IntegerWidth.integerBounds_of_numberKind isKind
  have kept := Number.saturate_ofInt (IntegerWidth.natAbs_lt isKind value.property)
    value.property
  simp only [CallSite.referenceNumber, reads, Number.isNaN_ofInt, CallSite.numberArg, bounds, kept]
  rfl

theorem referenceNumber_float (site : CallSite) (argument : Nat) (kind : NumberKind)
    (floating : kind.integerBounds? = none) {number : Number} (defined : number.isNaN = false)
    (rounded : kind = .single → number.toSingle = number) {slots : Slots} {position : Nat}
    (reads : slots.numberAt position = some number) :
    site.referenceNumber argument kind slots position = .ok (.float number) := by
  simp only [CallSite.referenceNumber, reads, defined, CallSite.numberArg, floating]
  by_cases isSingle : kind = .single
  · rw [if_pos isSingle, rounded isSingle]
    rfl
  · rw [if_neg isSingle]
    rfl

/-- A loop over entries that all fit and all read gives what they read. -/
theorem mapM_filter_of_forall₂ {Entry : Type} {fits : Entry → Bool}
    {readEntry : Entry → Except ArgumentError Arg} {entries : List Entry} {args : List Arg}
    (each : List.Forall₂ (fun entry arg => fits entry = true ∧ readEntry entry = .ok arg)
      entries args) :
    (entries.filter fits).mapM readEntry = .ok args := by
  have allFit : ∀ entry ∈ entries, fits entry = true := by
    intro entry entryMem
    induction each with
    | nil => simp at entryMem
    | cons first _ ih =>
        rcases List.mem_cons.mp entryMem with rfl | later
        · exact first.1
        · exact ih later
  rw [List.filter_eq_self.mpr allFit, Exception.mapM_eq_ok_iff]
  exact each.imp fun entry arg readable => readable.2

/-- A loop that writes pairs with different keys gives all of them, in order. -/
theorem foldlM_writePair {Pair Entry : Type} (entryOf : Pair → Entry)
    (keyOf itemOf : Pair → Arg) (readKey readItem : Entry → Except ArgumentError Arg)
    {pairs : List Pair} (done : List Pair)
    (reads : ∀ pair ∈ pairs, readKey (entryOf pair) = .ok (keyOf pair) ∧
      readItem (entryOf pair) = .ok (itemOf pair))
    (distinct : (done ++ pairs).Pairwise fun earlier later =>
      (keyOf earlier).same (keyOf later) = false) :
    (pairs.map entryOf).foldlM (fun written entry => do
        let keyArg ← readKey entry
        let itemArg ← readItem entry
        pure (Arg.writePair keyArg itemArg written))
      (done.map fun pair => (keyOf pair, itemOf pair)) =
        .ok ((done ++ pairs).map fun pair => (keyOf pair, itemOf pair)) := by
  induction pairs generalizing done with
  | nil => rw [List.append_nil]; rfl
  | cons pair rest ih =>
      rw [List.forall_mem_cons] at reads
      have absent : ∀ old ∈ done.map fun pair => (keyOf pair, itemOf pair),
          old.1.same (keyOf pair) = false := by
        intro old oldMem
        rcases List.mem_map.mp oldMem with ⟨earlier, earlierMem, rfl⟩
        exact (List.pairwise_append.mp distinct).2.2 earlier earlierMem pair List.mem_cons_self
      have regrouped : done ++ pair :: rest = done ++ [pair] ++ rest := by
        rw [List.append_assoc, List.singleton_append]
      rw [regrouped] at distinct ⊢
      have restRead := ih (done ++ [pair]) reads.2 distinct
      rw [List.map_append] at restRead
      rw [List.map_cons, List.foldlM_cons, Exception.bind_eq_ok_iff]
      refine ⟨_, ?_, restRead⟩
      rw [reads.1.1, reads.1.2]
      exact congrArg Except.ok (Arg.writePair_of_forall_not_same _ absent)

/-- Reading a slot that holds a value of the type gives the argument of the value. -/
def ReadsBack (site : CallSite) (argument : Nat) (type : NativeType) (param : ParamType)
    (value : type.Carrier) : Prop :=
  ∀ slots : Slots, ∀ position, slots.HoldsAt position (type.listed value) →
    param.coerciblyMatchesAt slots position = true ∧
      ∃ next, site.reference argument param slots position = .ok (type.toArg value, next)

theorem ReadsBack.entry {site : CallSite} {argument : Nat} {type : NativeType}
    {param : ParamType} {value : type.Carrier} (reads : ReadsBack site argument type param value)
    {values : List Value} {position : Nat}
    (found : Slots.valueAt? values position = some (type.listed value)) :
    param.coerciblyMatchesAt (.ofValues values) position = true ∧
      Prod.fst <$> site.reference argument param (.ofValues values) position =
        .ok (type.toArg value) := by
  rcases reads _ _ (Slots.holdsAt_ofValues found) with ⟨fits, next, returned⟩
  exact ⟨fits, by rw [returned]; rfl⟩

/-- Every entry of the table of a list fits and is read. -/
theorem forall₂_sequenceFrom {site : CallSite} {argument : Nat} {element : NativeType}
    {param : ParamType} {items : List element.Carrier}
    (reads : ∀ item ∈ items, ReadsBack site argument element param item) (start : Nat) :
    List.Forall₂ (fun (entry : Value × Value) arg =>
      param.coerciblyMatchesAt (.ofValues [entry.2]) 1 = true ∧
        Prod.fst <$> site.reference argument param (.ofValues [entry.2]) 1 = .ok arg)
      (Value.sequenceFrom start (items.map element.listed)) (items.map element.toArg) := by
  induction items generalizing start with
  | nil => exact .nil
  | cons item rest ih =>
      rw [List.forall_mem_cons] at reads
      exact .cons (reads.1.entry rfl) (ih reads.2 (start + 1))

theorem reference_list {site : CallSite} {argument : Nat} {element : NativeType}
    {param : ParamType} {items : List element.Carrier}
    (reads : ∀ item ∈ items, ReadsBack site argument element param item) {slots : Slots}
    {position : Nat} (holds : slots.HoldsAt position ((list element).listed items)) :
    site.reference argument (.sequence param) slots position =
      .ok ((list element).toArg items, position + 1) := by
  have entries : slots.entriesAt position =
      Value.sequenceFrom 1 (items.map element.listed) :=
    holds.entries
  have read := mapM_filter_of_forall₂ (forall₂_sequenceFrom reads 1)
  simp only [CallSite.reference, entries, Exception.bind_eq_ok_iff]
  exact ⟨_, read, rfl⟩

theorem reference_map {site : CallSite} {argument : Nat} {key item : NativeType}
    {keyParam itemParam : ParamType} {pairs : List (key.Carrier × item.Carrier)}
    (readKeys : ∀ pair ∈ pairs, ReadsBack site argument key keyParam pair.1)
    (readItems : ∀ pair ∈ pairs, ReadsBack site argument item itemParam pair.2)
    (distinct : pairs.Pairwise fun earlier later =>
      (key.toArg earlier.1).same (key.toArg later.1) = false)
    {slots : Slots} {position : Nat}
    (holds : slots.HoldsAt position ((map key item).listed pairs)) :
    site.reference argument (.mapping keyParam itemParam) slots position =
      .ok ((map key item).toArg pairs, position + 1) := by
  have entries : slots.entriesAt position =
      pairs.map fun pair => (key.listed pair.1, item.listed pair.2) :=
    holds.entries
  have first (pair : key.Carrier × item.Carrier) :
      Slots.valueAt? [key.listed pair.1, item.listed pair.2] 1 = some (key.listed pair.1) :=
    rfl
  have second (pair : key.Carrier × item.Carrier) :
      Slots.valueAt? [key.listed pair.1, item.listed pair.2] 2 = some (item.listed pair.2) :=
    rfl
  have allFit : ∀ entry ∈ pairs.map fun pair => (key.listed pair.1, item.listed pair.2),
      (keyParam.coerciblyMatchesAt (.ofValues [entry.1, entry.2]) 1
        && itemParam.coerciblyMatchesAt (.ofValues [entry.1, entry.2]) 2) = true := by
    intro entry entryMem
    rcases List.mem_map.mp entryMem with ⟨pair, pairMem, rfl⟩
    have keyFits := ((readKeys pair pairMem).entry (first pair)).1
    have itemFits := ((readItems pair pairMem).entry (second pair)).1
    rw [keyFits, itemFits]
    rfl
  have readEach : ∀ pair ∈ pairs,
      Prod.fst <$> site.reference argument keyParam
          (.ofValues [key.listed pair.1, item.listed pair.2]) 1 = .ok (key.toArg pair.1) ∧
        Prod.fst <$> site.reference argument itemParam
          (.ofValues [key.listed pair.1, item.listed pair.2]) 2 = .ok (item.toArg pair.2) := by
    intro pair pairMem
    exact ⟨((readKeys pair pairMem).entry (first pair)).2,
      ((readItems pair pairMem).entry (second pair)).2⟩
  have written := foldlM_writePair
    (fun pair : key.Carrier × item.Carrier => (key.listed pair.1, item.listed pair.2))
    (fun pair => key.toArg pair.1) (fun pair => item.toArg pair.2)
    (fun entry => Prod.fst <$> site.reference argument keyParam
      (.ofValues [entry.1, entry.2]) 1)
    (fun entry => Prod.fst <$> site.reference argument itemParam
      (.ofValues [entry.1, entry.2]) 2) [] readEach distinct
  simp only [CallSite.reference, entries, List.filter_eq_self.mpr allFit,
    Exception.bind_eq_ok_iff]
  exact ⟨_, written, rfl⟩

theorem reference_option {site : CallSite} {argument : Nat} {inner : NativeType}
    (marshalled : inner.Marshalled) (required : inner.isOption = false) {param : ParamType}
    (declared : inner.paramType? = some param) {value : (option inner).Carrier}
    (reads : ∀ held, value = some held → ReadsBack site argument inner param held)
    {slots : Slots} {position : Nat}
    (holds : slots.HoldsAt position ((option inner).listed value)) :
    ∃ next, site.reference argument (.optional param) slots position =
      .ok ((option inner).toArg value, next) := by
  cases value with
  | none =>
      have passed := coerciblyMatchesAt_nil marshalled required declared holds
      simp only [CallSite.reference, passed]
      exact ⟨position, rfl⟩
  | some held =>
      rcases reads held rfl slots position holds with ⟨fits, next, returned⟩
      simp only [CallSite.reference, fits, if_true, returned]
      exact ⟨next, rfl⟩

theorem readsBack_of_returned {site : CallSite} {argument : Nat} {type : NativeType}
    (marshalled : type.Marshalled) {param : ParamType}
    (declared : type.paramType? = some param) {value : type.Carrier}
    (returned : ∀ slots : Slots, ∀ position, slots.HoldsAt position (type.listed value) →
      ∃ next, site.reference argument param slots position = .ok (type.toArg value, next)) :
    ReadsBack site argument type param value := by
  intro slots position holds
  exact ⟨coerciblyMatchesAt_listed marshalled declared value holds, returned slots position holds⟩

theorem distinct_toArg {key item : NativeType} (marshalled : key.Marshalled)
    (keys : key.canKey = true) {pairs : List (key.Carrier × item.Carrier)}
    (distinct : pairs.Pairwise fun earlier later => key.sameKey earlier.1 later.1 = false) :
    pairs.Pairwise fun earlier later =>
      (key.toArg earlier.1).same (key.toArg later.1) = false := by
  refine distinct.imp ?_
  intro earlier later different
  rw [← Bool.not_eq_true] at different ⊢
  intro same
  apply different
  rw [sameKey_eq_true_iff marshalled keys]
  exact eq_of_same_toArg marshalled keys same

/-- A slot that holds a proper value is read as the argument of the value. -/
theorem reference_listed (site : CallSite) (argument : Nat) {type : NativeType}
    (marshalled : type.Marshalled) {param : ParamType}
    (declared : type.paramType? = some param) {value : type.Carrier}
    (proper : type.IsProper value) (slots : Slots) (position : Nat)
    (holds : slots.HoldsAt position (type.listed value)) :
    ∃ next, site.reference argument param slots position = .ok (type.toArg value, next) := by
  induction marshalled generalizing param slots position with
  | integer =>
      rcases Option.map_eq_some_iff.mp declared with ⟨kind, isKind, rfl⟩
      have read := referenceNumber_ofInt site argument isKind value holds.number
      simp only [CallSite.reference, read]
      exact ⟨position + 1, rfl⟩
  | single =>
      rw [← Option.some.inj declared]
      have read := referenceNumber_float site argument .single rfl proper.1
        (fun _ => proper.2) holds.number
      simp only [CallSite.reference, read]
      exact ⟨position + 1, rfl⟩
  | double =>
      rw [← Option.some.inj declared]
      have notSingle : NumberKind.double = .single → Number.toSingle value = value := by
        intro impossible
        cases impossible
      have read := referenceNumber_float site argument .double rfl proper notSingle holds.number
      simp only [CallSite.reference, read]
      exact ⟨position + 1, rfl⟩
  | text =>
      rw [← Option.some.inj declared]
      simp only [CallSite.reference, holds.string]
      exact ⟨position + 1, rfl⟩
  | bytes =>
      rw [← Option.some.inj declared]
      simp only [CallSite.reference, holds.string]
      exact ⟨position + 1, rfl⟩
  | boolean =>
      rw [← Option.some.inj declared]
      simp only [CallSite.reference, holds.boolean]
      exact ⟨position + 1, rfl⟩
  | function =>
      rw [← Option.some.inj declared]
      simp only [CallSite.reference, holds.function]
      exact ⟨position + 1, rfl⟩
  | option required marshalled ih =>
      rcases Option.map_eq_some_iff.mp declared with ⟨innerParam, innerDeclared, rfl⟩
      apply reference_option marshalled required innerDeclared _ holds
      intro held isHeld
      subst isHeld
      apply readsBack_of_returned marshalled innerDeclared
      exact ih innerDeclared proper
  | @list element marshalled ih =>
      rcases Option.map_eq_some_iff.mp declared with ⟨elementParam, elementDeclared, rfl⟩
      change List element.Carrier at value
      have reads : ∀ item ∈ value, ReadsBack site argument element elementParam item := by
        intro item itemMem
        apply readsBack_of_returned marshalled elementDeclared
        exact ih elementDeclared (proper item itemMem)
      exact ⟨position + 1, reference_list reads holds⟩
  | @map key item keys keyMarshalled itemMarshalled ihKey ihItem =>
      rcases paramType?_map declared with ⟨keyParam, itemParam, keyDeclared, itemDeclared, rfl⟩
      change List (key.Carrier × item.Carrier) at value
      rcases proper with ⟨distinct, each⟩
      have readKeys : ∀ pair ∈ value, ReadsBack site argument key keyParam pair.1 := by
        intro pair pairMem
        apply readsBack_of_returned keyMarshalled keyDeclared
        exact ihKey keyDeclared (each pair pairMem).1
      have readItems : ∀ pair ∈ value, ReadsBack site argument item itemParam pair.2 := by
        intro pair pairMem
        apply readsBack_of_returned itemMarshalled itemDeclared
        exact ihItem itemDeclared (each pair pairMem).2
      have differ := distinct_toArg keyMarshalled keys distinct
      exact ⟨position + 1, reference_map readKeys readItems differ holds⟩

/-! ## The round trip -/

theorem exists_paramType? {type : NativeType} (marshalled : type.Marshalled) :
    ∃ param, type.paramType? = some param := by
  induction marshalled with
  | integer declared => exact ⟨_, by rw [paramType?, declared]; rfl⟩
  | option required held ih =>
      rcases ih with ⟨param, declared⟩
      exact ⟨.optional param, by rw [paramType?, declared]; rfl⟩
  | list each ih =>
      rcases ih with ⟨param, declared⟩
      exact ⟨.sequence param, by rw [paramType?, declared]; rfl⟩
  | map keys eachKey eachItem ihKey ihItem =>
      rcases ihKey with ⟨keyParam, keyDeclared⟩
      rcases ihItem with ⟨itemParam, itemDeclared⟩
      exact ⟨.mapping keyParam itemParam, by rw [paramType?, keyDeclared, itemDeclared]⟩
  | _ => exact ⟨_, rfl⟩

/-- A marshalled value comes back as it is.  The script value that it converts into stands
for it, and if a slot of a frame holds any script value that stands for it, then the slot is
extracted without a failure, and the argument converts into the same value.  Every slot of a
list of values holds one (`Slots.holdsAt_ofValues`). -/
theorem extract_marshalled {type : NativeType} (marshalled : type.Marshalled)
    {value : type.Carrier} (proper : type.IsProper value) :
    (∃ convert, type.toValue? = some convert ∧ type.Marshals value (convert value)) ∧
      ∃ param, type.paramType? = some param ∧
        ∀ (site : CallSite) (slots : Slots) (position : Nat) (script : Value),
          type.Marshals value script → slots.HoldsAt position script →
            ∃ arg next result,
              site.extract param slots position .clear = ⟨arg, next, .clear⟩ ∧
                type.ofArg arg = .ok result ∧ type.Same value result := by
  constructor
  · rcases exists_toValue? marshalled with ⟨convert, converts⟩
    exact ⟨convert, converts, marshals_of_toValue? converts value⟩
  · rcases exists_paramType? marshalled with ⟨param, declared⟩
    refine ⟨param, declared, ?_⟩
    intro site slots position script marshals holds
    rcases marshals with ⟨listing, same, rfl⟩
    have listingProper := isProper_of_same marshalled proper same
    rcases reference_listed site position marshalled declared listingProper slots position holds
      with ⟨next, returned⟩
    have fits := CallSite.matchesAt_checkPosition
      (ParamType.matchesAt_of_coerciblyMatchesAt
        (coerciblyMatchesAt_listed marshalled declared listing holds))
    have simulated := site.outcome_extract param slots position
    rw [CallSite.referenceParam, if_pos fits, returned] at simulated
    exact ⟨type.toArg listing, next, listing, Reading.eq_of_outcome_eq_ok simulated,
      ofArg_toArg marshalled listingProper, same⟩

/-- A map of two texts to lists with a gap, whose table lists the second pair first. -/
theorem extract_marshalled_switches :
    let type : NativeType := .map .text (.list (.option .boolean))
    let value : type.Carrier := [("a", [some true, none]), ("b", [])]
    let script : Value := .table
      [(.string (.ofString "b"), .sequence []),
        (.string (.ofString "a"), .sequence [.boolean true, .nil])]
    type.Marshalled ∧ type.IsProper value ∧ type.Marshals value script ∧
      ∃ arg next result,
        (⟨"setSwitches", ⟨0⟩, default⟩ : CallSite).extract
            (.mapping .string (.sequence (.optional .boolean))) (.ofValues [script]) 1 .clear =
          ⟨arg, next, .clear⟩ ∧
        type.ofArg arg = .ok result ∧ type.Same value result := by
  intro type value script
  have marshalled : type.Marshalled := .map rfl .text (.list (.option rfl .boolean))
  have proper : type.IsProper value := by
    constructor
    · exact List.pairwise_pair.mpr rfl
    · intro pair pairMem
      refine ⟨trivial, ?_⟩
      intro item itemMem
      cases item with
      | none => trivial
      | some flag => trivial
  have marshals : type.Marshals value script := by
    refine ⟨[("b", []), ("a", [some true, none])], ⟨_, List.Perm.swap _ _ _, ?_⟩, rfl⟩
    exact List.forall₂_same.mpr fun pair _ => ⟨same_refl .text pair.1, same_refl _ pair.2⟩
  rcases (extract_marshalled marshalled proper).2 with ⟨param, declared, readBack⟩
  rw [← Option.some.inj declared] at readBack
  exact ⟨marshalled, proper, marshals,
    readBack _ _ 1 script marshals (Slots.holdsAt_ofValues rfl)⟩

end ScriptBridge.NativeType
