import ScriptBridge.Proofs.Extraction.Classification
import ScriptBridge.Proofs.Native.Arguments
import ScriptBridge.Proofs.Native.Marshal
import ScriptBridge.Proofs.Native.Pairs
import ScriptBridge.Proofs.Text.Utf8

/-!
# Tables as maps with texts for keys

A table that is read as a map with texts for keys goes through two coercions.  Its keys are read
as strings of bytes, numbers as they are printed, and the strings become texts, with the
replacement character where the bytes spell none.  Several strings may become one text, and
each has an item of its own by then.  Of all entries that belong to a text, the one that decides
is the last entry of the string that was the last to come in for the first time
(`NativeType.itemAt?_textMap`).

That is the last entry of the text if this entry has that string for a key, in particular if
only one string becomes the text.  A text without a replacement character is spelled in one way.
-/

namespace ScriptBridge

/-! ## Keys -/

namespace Value

/-- The text that a key becomes. -/
def keyText? : Value → Option String
  | number value => some value.render
  | string bytes => some bytes.toStringLossy
  | _ => none

/-- The string that a key is read as. -/
def keyBytes (key : Value) : ByteString :=
  key.toString?.getD ⟨[]⟩

theorem keyText?_eq (key : Value) : key.keyText? = key.toString?.map ByteString.toStringLossy := by
  cases key with
  | number value => exact congrArg some (ByteString.toStringLossy_ofString _).symm
  | _ => rfl

end Value

/-- Bytes that become a text without a replacement character spell it. -/
theorem ByteString.eq_ofString_of_toStringLossy {string : ByteString} {text : String}
    (becomes : string.toStringLossy = text) (spelled : '\uFFFD' ∉ text.toList) :
    string = .ofString text := by
  subst becomes
  have undamaged : none ∉ Text.Utf8.decode string.bytes := by
    intro damaged
    apply spelled
    simp only [toStringLossy, String.toList_ofList, Text.Utf8.decodeLossy, List.mem_map]
    exact ⟨none, damaged, rfl⟩
  have decoded : Text.Utf8.decode string.bytes =
      (Text.Utf8.decodeLossy string.bytes).map some := by
    rw [Text.Utf8.decodeLossy, List.map_map]
    symm
    apply (List.map_congr_left _).trans (List.map_id _)
    intro character member
    cases character with
    | none => exact absurd member undamaged
    | some character => rfl
  rw [ofString, toStringLossy, String.toList_ofList,
    ← Text.Utf8.decode_eq_map_some_iff.mp decoded]

namespace ParamType

/-- The entries of a table that a map with texts for keys gets. -/
def fittingEntries (item : ParamType) (entries : List (Value × Value)) : List (Value × Value) :=
  entries.filter fun entry =>
    string.coerciblyMatchesAt (.ofValues [entry.1, entry.2]) 1 &&
      item.coerciblyMatchesAt (.ofValues [entry.1, entry.2]) 2

/-- Those of them whose keys become a text. -/
def entriesFor (item : ParamType) (entries : List (Value × Value)) (text : String) :
    List (Value × Value) :=
  (item.fittingEntries entries).filter fun entry => entry.1.keyText? = some text

theorem keyText?_of_mem_fittingEntries {item : ParamType} {entries : List (Value × Value)}
    {entry : Value × Value} (member : entry ∈ item.fittingEntries entries) :
    entry.1.keyText? = some entry.1.keyBytes.toStringLossy := by
  rcases entry with ⟨key, value⟩
  rcases List.mem_filter.mp member with ⟨-, fits⟩
  have keyFits := matchesAt_of_coerciblyMatchesAt (Bool.and_eq_true_iff.mp fits).1
  rw [Value.keyText?_eq, Value.keyBytes]
  cases key with
  | number value => rfl
  | string bytes => rfl
  | _ => cases keyFits

/-- The entries with a text's string for a key are entries of the text. -/
theorem filter_keyBytes_entriesFor {item : ParamType} {entries : List (Value × Value)}
    {text : String} {entry : Value × Value} (member : entry ∈ item.entriesFor entries text) :
    (item.entriesFor entries text).filter (fun other => other.1.keyBytes == entry.1.keyBytes) =
      (item.fittingEntries entries).filter fun other => other.1.keyBytes == entry.1.keyBytes := by
  rcases List.mem_filter.mp member with ⟨fitting, isText⟩
  rw [keyText?_of_mem_fittingEntries fitting, decide_eq_true_iff] at isText
  rw [entriesFor, List.filter_filter]
  apply List.filter_congr
  intro other otherFitting
  by_cases sameBytes : other.1.keyBytes = entry.1.keyBytes
  · simp [keyText?_of_mem_fittingEntries otherFitting, sameBytes, Option.some.inj isText]
  · simp [sameBytes]

end ParamType

/-! ## Mappings without a failure -/

namespace CallSite

variable {site : CallSite}

/-- If reading entries ends without a failure, then each key and each item was read without one,
and the map has got all of them. -/
theorem readPairs_of_clear {fits : Value → Value → Bool}
    {readKey readItem : Value → Value → FailureState → Arg × FailureState}
    (kept : ∀ key value state, state.isSet = true → (readItem key value state).2 = state)
    {entries : List (Value × Value)} {map : ArgMap}
    (unfailed : (readPairs fits readKey readItem entries map .clear).2 = .clear) :
    let fitting := entries.filter fun entry => fits entry.1 entry.2
    (readPairs fits readKey readItem entries map .clear).1 =
        (fitting.map fun entry =>
          ((readKey entry.1 entry.2 .clear).1, (readItem entry.1 entry.2 .clear).1)).foldl
            (fun map pair => map.insert pair.1 pair.2) map ∧
      ∀ entry ∈ fitting, (readKey entry.1 entry.2 .clear).2 = .clear ∧
        (readItem entry.1 entry.2 .clear).2 = .clear := by
  induction entries generalizing map with
  | nil => simp [readPairs]
  | cons entry rest ih =>
      rcases entry with ⟨key, value⟩
      simp only [readPairs] at unfailed ⊢
      cases fitsEntry : fits key value with
      | false =>
          simp only [fitsEntry, Bool.false_eq_true, if_false] at unfailed ⊢
          simpa [List.filter_cons, fitsEntry] using ih unfailed
      | true =>
          simp only [fitsEntry, if_true] at unfailed ⊢
          split at unfailed
          · rename_i itemSet
            dsimp only at unfailed
            rw [unfailed] at itemSet
            cases itemSet
          · rename_i itemClear
            -- A failure of the key would still be there after the item.
            have keyUnfailed : (readKey key value .clear).2 = .clear := by
              apply FailureState.eq_clear_of_not_isSet
              intro keySet
              rw [kept key value _ keySet] at itemClear
              exact itemClear keySet
            rw [keyUnfailed] at unfailed itemClear ⊢
            have itemUnfailed := FailureState.eq_clear_of_not_isSet itemClear
            rw [itemUnfailed] at unfailed ⊢
            rcases ih unfailed with ⟨restRead, restUnfailed⟩
            simp only [FailureState.isSet_clear, Bool.false_eq_true, if_false, List.filter_cons,
              fitsEntry, if_true, List.map_cons, List.foldl_cons, List.forall_mem_cons]
            exact ⟨restRead, ⟨keyUnfailed, itemUnfailed⟩, restUnfailed⟩

variable (site) in
/-- The argument that the item of an entry is read as. -/
def entryItem (argument : Nat) (item : ParamType) (entry : Value × Value) : Arg :=
  (site.read argument item (.ofValues [entry.1, entry.2]) 2 .clear).arg

/-- If a table is read as a map with strings for keys and no failure is recorded, then the map has
got the fitting entries in order, and each item was read without a failure. -/
theorem extract_mapping_of_clear {item : ParamType} {slots : Slots} {position : Nat}
    (unfailed : (site.extract (.mapping .string item) slots position .clear).state.isSet = false) :
    let fitting := item.fittingEntries (slots.entriesAt position)
    (site.extract (.mapping .string item) slots position .clear).arg =
        (ArgMap.ofList (fitting.map fun entry =>
          (.string entry.1.keyBytes, site.entryItem position item entry))).toArg ∧
      ∀ entry ∈ fitting,
        (site.read position item (.ofValues [entry.1, entry.2]) 2 .clear).state = .clear := by
  rcases extract_of_unfailed unfailed with ⟨isRead, isClear⟩
  have entriesRead := readPairs_of_clear
    (fun _ _ state alreadySet => state_read_of_isSet alreadySet item position _ _) isClear
  rw [isRead]
  exact ⟨congrArg ArgMap.toArg entriesRead.1,
    fun entry entryMem => (entriesRead.2 entry entryMem).2⟩

end CallSite

/-! ## The entry that decides -/

/-- The string, among the keys of several entries, that was the last to come in for the first
time. -/
def newestBytes? (written : List (Value × Value)) : Option ByteString :=
  (written.map fun entry => entry.1.keyBytes).eraseDups.getLast?

/-- Of the entries of one text, the one that decides. -/
def decisive? (written : List (Value × Value)) : Option (Value × Value) :=
  (newestBytes? written).bind fun newest =>
    (written.filter fun entry => entry.1.keyBytes == newest).getLast?

variable {written : List (Value × Value)}

theorem exists_of_newestBytes? {newest : ByteString}
    (isNewest : newestBytes? written = some newest) :
    ∃ entry ∈ written, entry.1.keyBytes = newest := by
  have listed := List.mem_of_getLast? isNewest
  rw [List.mem_eraseDups] at listed
  exact List.mem_map.mp listed

theorem keyBytes_of_decisive? {entry : Value × Value} (decides : decisive? written = some entry) :
    entry ∈ written ∧ newestBytes? written = some entry.1.keyBytes := by
  rcases Option.bind_eq_some_iff.mp decides with ⟨newest, isNewest, last⟩
  rcases List.mem_filter.mp (List.mem_of_getLast? last) with ⟨member, isSpelling⟩
  rw [isNewest, eq_of_beq isSpelling]
  exact ⟨member, rfl⟩

/-- If there are entries, one of them decides. -/
theorem exists_decisive? (nonempty : written ≠ []) : ∃ entry, decisive? written = some entry := by
  cases isNewest : newestBytes? written with
  | none =>
      exfalso
      have noSpellings := List.getLast?_eq_none_iff.mp isNewest
      rcases List.exists_mem_of_ne_nil written nonempty with ⟨entry, member⟩
      have listed : entry.1.keyBytes ∈ (written.map fun entry => entry.1.keyBytes).eraseDups :=
        List.mem_eraseDups.mpr (List.mem_map_of_mem member)
      rw [noSpellings] at listed
      cases listed
  | some newest =>
      rcases exists_of_newestBytes? isNewest with ⟨entry, member, isSpelling⟩
      have kept : entry ∈ written.filter fun entry => entry.1.keyBytes == newest :=
        List.mem_filter.mpr ⟨member, beq_iff_eq.mpr isSpelling⟩
      rw [decisive?, isNewest, Option.bind_some]
      exact ⟨_, List.getLast?_eq_some_getLast (List.ne_nil_of_mem kept)⟩

/-- The last entry decides exactly if its string was the last to come in for the first time. -/
theorem decisive?_eq_getLast?_iff :
    decisive? written = written.getLast? ↔
      newestBytes? written = written.getLast?.map fun entry => entry.1.keyBytes := by
  cases last : written.getLast? with
  | none =>
      rw [List.getLast?_eq_none_iff] at last
      subst last
      exact ⟨fun _ => rfl, fun _ => rfl⟩
  | some entry =>
      constructor
      · intro decides
        exact (keyBytes_of_decisive? decides).2
      · intro isNewest
        rcases List.getLast?_eq_some_iff.mp last with ⟨earlier, rfl⟩
        rw [decisive?, isNewest, Option.map_some, Option.bind_some, List.filter_append,
          List.filter_cons_of_pos (by simp), List.filter_nil, List.getLast?_concat]

theorem decisive?_of_one_spelling {spelling : ByteString}
    (spelled : ∀ entry ∈ written, entry.1.keyBytes = spelling) :
    decisive? written = written.getLast? := by
  cases last : written.getLast? with
  | none =>
      rw [List.getLast?_eq_none_iff] at last
      subst last
      rfl
  | some entry =>
      have member := List.mem_of_getLast? last
      rcases exists_decisive? (List.ne_nil_of_mem member) with ⟨deciding, decides⟩
      rcases keyBytes_of_decisive? decides with ⟨decidingMem, isNewest⟩
      rw [spelled deciding decidingMem, ← spelled entry member] at isNewest
      rw [← last, decisive?_eq_getLast?_iff, isNewest, last, Option.map_some]

/-! ## Maps with texts for keys -/

namespace Arg

/-- Does an argument become a text? -/
def becomes (text : String) : Arg → Bool
  | string bytes => decide (bytes.toStringLossy = text)
  | _ => false

theorem becomes_canonical (text : String) (arg : Arg) :
    arg.canonical.becomes text = arg.becomes text := by
  cases arg with
  | optional inner => cases inner <;> rfl
  | _ => rfl

theorem becomes_of_same (text : String) (left right : Arg) (same : left.same right = true) :
    left.becomes text = right.becomes text := by
  rw [← becomes_canonical text left, (same_iff left right).mp same, becomes_canonical]

end Arg

namespace NativeType

theorem exactKeys_text : text.ExactKeys :=
  fun _ _ => agree_eq_true_iff

theorem becomes_of_ofArg_text (query : String) (arg : Arg) (found : String)
    (converted : text.ofArg arg = .ok found) : arg.becomes query = text.sameKey found query := by
  cases arg with
  | string bytes =>
      cases converted
      rfl
  | _ => cases converted

/-- What a map has for a text comes from the entry of the text that decides. -/
theorem itemAt?_textMap {item : NativeType} {param : ParamType} {entries : List (Value × Value)}
    {itemOf : Value × Value → Arg} {pairs : List (String × item.Carrier)}
    (converted : (map text item).ofArg (ArgMap.ofList ((param.fittingEntries entries).map
      fun entry => (.string entry.1.keyBytes, itemOf entry))).toArg = .ok pairs) (query : String) :
    itemAt? text item query pairs =
      (decisive? (param.entriesFor entries query)).bind fun entry =>
        (item.ofArg (itemOf entry)).toOption := by
  rw [itemAt?_ofArg_map exactKeys_text (becomes_of_ofArg_text query)
    (Arg.becomes_of_same query) converted]
  have spellings : (((param.fittingEntries entries).map fun entry =>
      (Arg.string entry.1.keyBytes, itemOf entry)).map Prod.fst).filter (Arg.becomes query) =
        ((param.entriesFor entries query).map fun entry => entry.1.keyBytes).map Arg.string := by
    rw [List.map_map, List.map_map, List.filter_map, ParamType.entriesFor]
    apply congrArg
    apply List.filter_congr
    intro entry member
    simp [Arg.becomes, ParamType.keyText?_of_mem_fittingEntries member]
  have injective : ∀ left right : ByteString,
      (Arg.string left == Arg.string right) = (left == right) := fun _ _ => rfl
  rw [spellings, eraseDups_map injective, List.getLast?_map, Option.bind_map, decisive?,
    Option.bind_assoc]
  apply Option.bind_congr
  intro newest isNewest
  rcases exists_of_newestBytes? isNewest with ⟨entry, member, rfl⟩
  rw [ParamType.filter_keyBytes_entriesFor member, Function.comp_apply, List.filter_map,
    List.getLast?_map, Option.bind_map]
  rfl

/-- An item that fits and is read without a failure converts. -/
theorem ofArg_entryItem_isOk {site : CallSite} {item : NativeType} {param : ParamType}
    (declared : item.paramType? = some param) {argument : Nat} {entry : Value × Value}
    (fits : param.coerciblyMatchesAt (.ofValues [entry.1, entry.2]) 2 = true)
    (unfailed :
      (site.read argument param (.ofValues [entry.1, entry.2]) 2 .clear).state = .clear) :
    ∃ value, item.ofArg (site.entryItem argument param entry) = .ok value := by
  have valid := CallSite.validAt_of_reference (Slots.coherent_ofValues _)
    (CallSite.matchesAt_checkPosition (ParamType.matchesAt_of_coerciblyMatchesAt fits))
    (CallSite.reference_of_clear unfailed)
  exact ofArg_isOk_of_validAt declared valid

/-- A table that is read as a mapping without a failure converts into a map. -/
theorem ofArg_mapping_isOk {site : CallSite} {key item : NativeType} {param : ParamType}
    (declared : (map key item).paramType? = some param) {slots : Slots} {position : Nat}
    (unfailed : (site.extract param slots position .clear).state.isSet = false) :
    ∃ pairs, (map key item).ofArg (site.extract param slots position .clear).arg = .ok pairs := by
  rcases CallSite.extract_of_unfailed unfailed with ⟨isRead, isClear⟩
  rcases paramType?_map declared with ⟨keyParam, itemParam, -, -, rfl⟩
  have valid := CallSite.validAt_mapping_of_reference
    (fun _ _ _ _ => CallSite.validAt_of_reference) (fun _ _ _ _ => CallSite.validAt_of_reference)
    (CallSite.reference_of_clear isClear)
  rw [isRead]
  exact ofArg_isOk_of_validAt declared valid

/-- A table that is read without a failure becomes a map that lists the texts of its fitting
entries, each once, with the item of the entry that decides.  This is the last entry of the text
exactly if no other string for the text came in for the first time after the string of that
entry, and always if the text has no replacement character. -/
theorem textMap_of_table (site : CallSite) {item : NativeType} {param : ParamType}
    (declared : item.paramType? = some param) (slots : Slots) (position : Nat)
    (unfailed :
      (site.extract (.mapping .string param) slots position .clear).state.isSet = false) :
    (map text item).paramType? = some (.mapping .string param) ∧
      ∃ pairs : List (String × item.Carrier),
        (map text item).ofArg (site.extract (.mapping .string param) slots position .clear).arg =
            .ok pairs ∧
          (pairs.map Prod.fst).Nodup ∧
          ∀ key,
            let written := param.entriesFor (slots.entriesAt position) key
            ((∃ value, (key, value) ∈ pairs) ↔ written ≠ []) ∧
              (∀ value, (key, value) ∈ pairs ↔ ∃ entry, decisive? written = some entry ∧
                item.ofArg (site.entryItem position param entry) = .ok value) ∧
              (decisive? written = written.getLast? ↔
                newestBytes? written = written.getLast?.map fun entry => entry.1.keyBytes) ∧
              ('\uFFFD' ∉ key.toList → decisive? written = written.getLast?) := by
  have declaredMap : (map text item).paramType? = some (.mapping .string param) := by
    simp only [paramType?, declared]
  rcases ofArg_mapping_isOk declaredMap unfailed with ⟨pairs, converted⟩
  change List (String × item.Carrier) at pairs
  rcases CallSite.extract_mapping_of_clear unfailed with ⟨argRead, itemsRead⟩
  rw [argRead] at converted ⊢
  have distinct : (pairs.map Prod.fst).Nodup :=
    nodup_convertPairs exactKeys_text (by simp) converted
  refine ⟨declaredMap, pairs, converted, distinct, ?_⟩
  intro key written
  have listed (value : item.Carrier) : (key, value) ∈ pairs ↔
      ∃ entry, decisive? written = some entry ∧
        item.ofArg (site.entryItem position param entry) = .ok value := by
    refine (mem_iff_itemAt? exactKeys_text distinct).trans ?_
    rw [itemAt?_textMap converted, Option.bind_eq_some_iff]
    simp only [Exception.toOption_eq_some_iff, written]
  refine ⟨⟨?_, ?_⟩, listed, decisive?_eq_getLast?_iff, ?_⟩
  · rintro ⟨value, isListed⟩
    rcases (listed value).mp isListed with ⟨entry, decides, -⟩
    exact List.ne_nil_of_mem (keyBytes_of_decisive? decides).1
  · intro nonempty
    rcases exists_decisive? nonempty with ⟨entry, decides⟩
    have fitting := (List.mem_filter.mp (keyBytes_of_decisive? decides).1).1
    have fits := (Bool.and_eq_true_iff.mp (List.mem_filter.mp fitting).2).2
    rcases ofArg_entryItem_isOk declared fits (itemsRead entry fitting) with ⟨value, itemConverted⟩
    exact ⟨value, (listed value).mpr ⟨entry, decides, itemConverted⟩⟩
  · intro undamaged
    apply decisive?_of_one_spelling
    intro entry member
    rcases List.mem_filter.mp member with ⟨fitting, isText⟩
    rw [ParamType.keyText?_of_mem_fittingEntries fitting, decide_eq_true_iff] at isText
    exact ByteString.eq_ofString_of_toStringLossy (Option.some.inj isText) undamaged

/-- A key that comes as a number first and as a string later. -/
theorem textMap_of_table_numeral :
    let site : CallSite := ⟨"setFlags", ⟨0⟩, default⟩
    let first : Value × Value := (.number (.ofNat 1), .boolean true)
    let other : Value × Value := (.string (.ofString "a"), .boolean true)
    let last : Value × Value := (.string (.ofString "1"), .boolean false)
    let slots : Slots := .ofValues [.table [first, other, last]]
    let reading := site.extract (.mapping .string .boolean) slots 1 .clear
    boolean.paramType? = some .boolean ∧ reading.state.isSet = false ∧
      ParamType.boolean.entriesFor [first, other, last] "1" = [first, last] ∧
      ∃ pairs : List (String × Bool), (map text boolean).ofArg reading.arg = .ok pairs ∧
        (pairs.map Prod.fst).Nodup ∧ ("1", false) ∈ pairs := by
  intro site first other last slots reading
  have unfailed : reading.state.isSet = false := rfl
  have rendered : (Number.ofNat 1).render = "1" := by decide +kernel
  have written : ParamType.boolean.entriesFor [first, other, last] "1" = [first, last] := by
    have firstText : first.1.keyText? = some "1" := congrArg some rendered
    have otherText : other.1.keyText? = some "a" := by decide
    have lastText : last.1.keyText? = some "1" := by decide
    have fitting : ParamType.boolean.fittingEntries [first, other, last] =
        [first, other, last] := rfl
    simp [ParamType.entriesFor, fitting, firstText, otherText, lastText]
  rcases textMap_of_table site (rfl : boolean.paramType? = some .boolean) slots 1 unfailed with
    ⟨-, pairs, converted, distinct, each⟩
  rcases each "1" with ⟨-, listed, -, undamaged⟩
  have decides : decisive? (ParamType.boolean.entriesFor [first, other, last] "1") =
      some last := (undamaged (by decide)).trans (congrArg List.getLast? written)
  have isListed := (listed false).mpr ⟨last, decides, rfl⟩
  exact ⟨rfl, unfailed, written, pairs, converted, distinct, isListed⟩

/-- Two strings that become one text.  The last entry has the string that came in first, and the
entry before it decides. -/
theorem textMap_keeps_newest_spelling :
    let site : CallSite := ⟨"setFlags", ⟨0⟩, default⟩
    let first : Value := .string ⟨[0xff]⟩
    let second : Value := .string ⟨[0xfe]⟩
    let entries : List (Value × Value) :=
      [(first, .boolean true), (second, .boolean false), (first, .boolean true)]
    let reading := site.extract (.mapping .string .boolean) (.ofValues [.table entries]) 1 .clear
    reading.state.isSet = false ∧
      ParamType.boolean.entriesFor entries "\uFFFD" = entries ∧
      boolean.ofArg (site.entryItem 1 .boolean (first, .boolean true)) = .ok true ∧
      (map text boolean).ofArg reading.arg = .ok [("\uFFFD", false)] := by
  intro site first second entries reading
  have returned : site.referenceParam (.mapping .string .boolean) (.ofValues [.table entries]) 1 =
      .ok (.mapping [(.string ⟨[0xff]⟩, .boolean true), (.string ⟨[0xfe]⟩, .boolean false)], 2) :=
    rfl
  have isReading := Reading.eq_of_outcome_eq_ok ((site.outcome_extract _ _ _).trans returned)
  have firstText : first.keyText? = some "\uFFFD" := by decide
  have secondText : second.keyText? = some "\uFFFD" := by decide
  have fitting : ParamType.boolean.fittingEntries entries = entries := rfl
  refine ⟨rfl, ?_, rfl, ?_⟩
  · rw [ParamType.entriesFor, fitting]
    simp [entries, firstText, secondText]
  · rw [show reading = _ from isReading]
    rfl

end NativeType

end ScriptBridge
