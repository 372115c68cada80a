import ScriptBridge.Text.ByteString

/-!
# Reading back what is written in UTF-8

Started between two characters, the reading machine takes the bytes of a character to that
character and stands between two characters again.  So the bytes that spell a text are read
as that text and nothing in it is damaged.  Conversely, a character is read only from the bytes
that spell it, as the intervals leave out all others.  So bytes are read as a text exactly if they
are the bytes of that text.
-/

namespace ScriptBridge.Text.Utf8

/-! ## Steps of the machine -/

theorem decodeFrom_cons (state : State) {byte : Nat} (isByte : byte < 256)
    (rest : List UInt8) :
    decodeFrom state (UInt8.ofNat byte :: rest) =
      (step state byte).1 ++ decodeFrom (step state byte).2 rest := by
  have kept : (UInt8.ofNat byte).toNat = byte := UInt8.toNat_ofNat_of_lt' isByte
  simp only [decodeFrom, kept]

/-- A byte in the interval that owes nothing more finishes the character. -/
theorem step_last {value low high byte : Nat} (within : low ≤ byte ∧ byte ≤ high) :
    step (.inside value 1 low high) byte =
      ([some (Char.ofNat (value * 64 + (byte - 0x80)))], .start) := by
  simp [step, within]

theorem step_inside {value owed low high byte : Nat} (within : low ≤ byte ∧ byte ≤ high)
    (more : 1 < owed) :
    step (.inside value owed low high) byte =
      ([], .inside (value * 64 + (byte - 0x80)) (owed - 1) 0x80 0xbf) := by
  have notLast : ¬owed ≤ 1 := by
    omega
  simp [step, within, notLast]

theorem first_of_ascii {value : Nat} (ascii : value < 0x80) :
    first value = ([some (Char.ofNat value)], .start) := by
  simp only [first, if_pos ascii]

theorem first_of_two {lead : Nat} (low : 2 ≤ lead) (high : lead < 0x20) :
    first (lead + 0xc0) = ([], .inside lead 1 0x80 0xbf) := by
  unfold first
  rw [if_neg (by omega), if_neg (by omega), if_pos (by omega), Nat.add_sub_cancel]

/-- The interval after the first of three bytes leaves out what has a shorter spelling and
the surrogates. -/
theorem first_of_three {value : Nat} (low : 0x800 ≤ value) (high : value < 0x10000)
    (scalar : value < 0xd800 ∨ 0xdfff < value) :
    ∃ least most, first (value / 4096 + 0xe0) = ([], .inside (value / 4096) 2 least most) ∧
      least ≤ value / 64 % 64 + 0x80 ∧ value / 64 % 64 + 0x80 ≤ most := by
  unfold first
  rw [if_neg (by omega), if_neg (by omega), if_neg (by omega)]
  by_cases isLeast : value / 4096 + 0xe0 = 0xe0
  · refine ⟨0xa0, 0xbf, ?_, by omega, by omega⟩
    rw [if_pos isLeast, show value / 4096 = 0 by omega]
  · rw [if_neg isLeast]
    by_cases isSurrogate : value / 4096 + 0xe0 = 0xed
    · refine ⟨0x80, 0x9f, ?_, by omega, by omega⟩
      rw [if_pos isSurrogate, show value / 4096 = 0xd by omega]
    · refine ⟨0x80, 0xbf, ?_, by omega, by omega⟩
      rw [if_neg isSurrogate, if_pos (by omega), Nat.add_sub_cancel]

/-- The interval after the first of four bytes leaves out what has a shorter spelling and
what is past the last character. -/
theorem first_of_four {value : Nat} (low : 0x10000 ≤ value) (high : value < 0x110000) :
    ∃ least most, first (value / 262144 + 0xf0) =
        ([], .inside (value / 262144) 3 least most) ∧
      least ≤ value / 4096 % 64 + 0x80 ∧ value / 4096 % 64 + 0x80 ≤ most := by
  unfold first
  rw [if_neg (by omega), if_neg (by omega), if_neg (by omega), if_neg (by omega),
    if_neg (by omega), if_neg (by omega)]
  by_cases isLeast : value / 262144 + 0xf0 = 0xf0
  · refine ⟨0x90, 0xbf, ?_, by omega, by omega⟩
    rw [if_pos isLeast, show value / 262144 = 0 by omega]
  · rw [if_neg isLeast]
    by_cases isMost : value / 262144 + 0xf0 = 0xf4
    · refine ⟨0x80, 0x8f, ?_, by omega, by omega⟩
      rw [if_neg (by omega), if_pos isMost, show value / 262144 = 4 by omega]
    · refine ⟨0x80, 0xbf, ?_, by omega, by omega⟩
      rw [if_pos (by omega), Nat.add_sub_cancel]

/-! ## Characters -/

/-- Two bytes that spell a value are read as its character. -/
theorem decodeFrom_two {value : Nat} (low : 0x80 ≤ value) (high : value < 0x800)
    (rest : List UInt8) :
    decodeFrom .start (UInt8.ofNat (value / 64 % 0x20 + 0xc0) ::
        UInt8.ofNat (value % 0x40 + 0x80) :: rest) =
      some (Char.ofNat value) :: decodeFrom .start rest := by
  have lead : value / 64 % 0x20 = value / 64 := by
    omega
  have opened : first (value / 64 + 0xc0) = ([], .inside (value / 64) 1 0x80 0xbf) :=
    first_of_two (by omega) (by omega)
  have whole : value / 64 * 64 + (value % 0x40 + 0x80 - 0x80) = value := by
    omega
  rw [lead, decodeFrom_cons _ (by omega), decodeFrom_cons _ (by omega)]
  rw [step, opened, step_last (by omega), whole]
  rfl

/-- Three bytes that spell a value are read as its character. -/
theorem decodeFrom_three {value : Nat} (low : 0x800 ≤ value) (high : value < 0x10000)
    (scalar : value < 0xd800 ∨ 0xdfff < value) (rest : List UInt8) :
    decodeFrom .start (UInt8.ofNat (value / 4096 % 0x10 + 0xe0) ::
        UInt8.ofNat (value / 64 % 0x40 + 0x80) :: UInt8.ofNat (value % 0x40 + 0x80) :: rest) =
      some (Char.ofNat value) :: decodeFrom .start rest := by
  have lead : value / 4096 % 0x10 = value / 4096 := by
    omega
  rcases first_of_three low high scalar with ⟨least, most, opened, within⟩
  have whole : (value / 4096 * 64 + (value / 64 % 0x40 + 0x80 - 0x80)) * 64 +
      (value % 0x40 + 0x80 - 0x80) = value := by
    omega
  rw [lead, decodeFrom_cons _ (by omega), decodeFrom_cons _ (by omega),
    decodeFrom_cons _ (by omega)]
  rw [step, opened, step_inside within (by omega), step_last (by omega), whole]
  rfl

/-- Four bytes that spell a value are read as its character. -/
theorem decodeFrom_four {value : Nat} (low : 0x10000 ≤ value) (high : value < 0x110000)
    (rest : List UInt8) :
    decodeFrom .start (UInt8.ofNat (value / 262144 % 0x08 + 0xf0) ::
        UInt8.ofNat (value / 4096 % 0x40 + 0x80) :: UInt8.ofNat (value / 64 % 0x40 + 0x80) ::
        UInt8.ofNat (value % 0x40 + 0x80) :: rest) =
      some (Char.ofNat value) :: decodeFrom .start rest := by
  have lead : value / 262144 % 0x08 = value / 262144 := by
    omega
  rcases first_of_four low high with ⟨least, most, opened, within⟩
  have whole : ((value / 262144 * 64 + (value / 4096 % 0x40 + 0x80 - 0x80)) * 64 +
      (value / 64 % 0x40 + 0x80 - 0x80)) * 64 + (value % 0x40 + 0x80 - 0x80) = value := by
    omega
  rw [lead, decodeFrom_cons _ (by omega), decodeFrom_cons _ (by omega),
    decodeFrom_cons _ (by omega), decodeFrom_cons _ (by omega)]
  rw [step, opened, step_inside within (by omega), step_inside (by omega) (by omega),
    step_last (by omega), whole]
  rfl

/-- The bytes of a character are read as that character. -/
theorem decodeFrom_encodeChar (character : Char) (rest : List UInt8) :
    decodeFrom .start (String.utf8EncodeChar character ++ rest) =
      some character :: decodeFrom .start rest := by
  have scalar : character.val.toNat < 0xd800 ∨
      0xdfff < character.val.toNat ∧ character.val.toNat < 0x110000 :=
    character.valid
  have spelled : Char.ofNat character.val.toNat = character := Char.ofNat_toNat character
  by_cases one : character.val.toNat ≤ 0x7f
  · simp only [String.utf8EncodeChar, if_pos one, List.cons_append, List.nil_append]
    rw [decodeFrom_cons _ (by omega), step, first_of_ascii (by omega), spelled]
    rfl
  by_cases two : character.val.toNat ≤ 0x7ff
  · simp only [String.utf8EncodeChar, if_neg one, if_pos two, List.cons_append,
      List.nil_append]
    rw [decodeFrom_two (by omega) (by omega), spelled]
  by_cases three : character.val.toNat ≤ 0xffff
  · simp only [String.utf8EncodeChar, if_neg one, if_neg two, if_pos three, List.cons_append,
      List.nil_append]
    rw [decodeFrom_three (by omega) (by omega) (by omega), spelled]
  · simp only [String.utf8EncodeChar, if_neg one, if_neg two, if_neg three, List.cons_append,
      List.nil_append]
    rw [decodeFrom_four (by omega) (by omega), spelled]

/-! ## What the machine takes for a character -/

/-- What a first byte can do: finish a character of its own, be damaged, or open a character of
two, three or four bytes. -/
inductive Opens (byte : Nat) : List (Option Char) × State → Prop where
  | one (ascii : byte < 0x80) : Opens byte ([some (Char.ofNat byte)], .start)
  | damaged : Opens byte ([none], .start)
  | two (low : 0xc2 ≤ byte) (high : byte < 0xe0) :
      Opens byte ([], .inside (byte - 0xc0) 1 0x80 0xbf)
  | three {least most : Nat} (low : 0xe0 ≤ byte) (high : byte < 0xf0)
      (continues : 0x80 ≤ least ∧ most ≤ 0xbf) (shortest : byte = 0xe0 → 0xa0 ≤ least)
      (scalar : byte = 0xed → most ≤ 0x9f) :
      Opens byte ([], .inside (byte - 0xe0) 2 least most)
  | four {least most : Nat} (low : 0xf0 ≤ byte) (high : byte ≤ 0xf4)
      (continues : 0x80 ≤ least ∧ most ≤ 0xbf) (shortest : byte = 0xf0 → 0x90 ≤ least)
      (bounded : byte = 0xf4 → most ≤ 0x8f) :
      Opens byte ([], .inside (byte - 0xf0) 3 least most)

theorem opens_first (byte : Nat) : Opens byte (first byte) := by
  unfold first
  split
  · apply Opens.one
    assumption
  split
  · exact .damaged
  split
  · apply Opens.two <;> omega
  split
  · rename_i least
    subst least
    apply Opens.three <;> omega
  split
  · rename_i surrogate
    subst surrogate
    apply Opens.three <;> omega
  split
  · apply Opens.three <;> omega
  split
  · rename_i least
    subst least
    apply Opens.four <;> omega
  split
  · apply Opens.four <;> omega
  split
  · rename_i most
    subst most
    apply Opens.four <;> omega
  · exact .damaged

variable {value owed low high : Nat} {bytes : List UInt8} {character : Char}
  {tail : List (Option Char)}

theorem decodeFrom_inside_ne_nil (value owed low high : Nat) (bytes : List UInt8) :
    decodeFrom (.inside value owed low high) bytes ≠ [] := by
  induction bytes generalizing value owed low high with
  | nil => exact List.cons_ne_nil _ _
  | cons byte rest ih =>
      simp only [decodeFrom, step]
      split
      · split
        · exact List.cons_ne_nil _ _
        · exact ih _ _ _ _
      · exact List.cons_ne_nil _ _

/-- Inside a character only a byte in the interval continues it. -/
theorem exists_byte_of_inside
    (read : decodeFrom (.inside value owed low high) bytes = some character :: tail) :
    ∃ byte rest, bytes = byte :: rest ∧ low ≤ byte.toNat ∧ byte.toNat ≤ high ∧
      if owed ≤ 1 then
        character = Char.ofNat (value * 64 + (byte.toNat - 0x80)) ∧ decodeFrom .start rest = tail
      else
        decodeFrom (.inside (value * 64 + (byte.toNat - 0x80)) (owed - 1) 0x80 0xbf) rest =
          some character :: tail := by
  cases bytes with
  | nil => cases read
  | cons byte rest =>
      refine ⟨byte, rest, rfl, ?_⟩
      simp only [decodeFrom, step] at read
      split at read
      · rename_i within
        refine ⟨within.1, within.2, ?_⟩
        split
        · rename_i isLast
          rw [if_pos isLast] at read
          injection read with same rest
          injection same with same
          exact ⟨same.symm, rest⟩
        · rename_i more
          rwa [if_neg more] at read
      · cases read

theorem toNat_ofNat {value : Nat} (scalar : value.isValidChar) :
    (Char.ofNat value).val.toNat = value := by
  rw [Char.ofNat, dif_pos scalar]
  rfl

theorem encodeChar_two {value : Nat} {lead last : UInt8} (low : 0xc2 ≤ lead.toNat)
    (high : lead.toNat < 0xe0) (within : 0x80 ≤ last.toNat ∧ last.toNat ≤ 0xbf)
    (spelled : value = (lead.toNat - 0xc0) * 64 + (last.toNat - 0x80)) :
    String.utf8EncodeChar (Char.ofNat value) = [lead, last] := by
  have kept : (Char.ofNat value).val.toNat = value := toNat_ofNat (.inl (by omega))
  have first : value / 64 % 32 + 192 = lead.toNat := by
    omega
  have second : value % 64 + 128 = last.toNat := by
    omega
  simp only [String.utf8EncodeChar, kept]
  rw [if_neg (by omega), if_pos (by omega), first, second, UInt8.ofNat_toNat, UInt8.ofNat_toNat]

theorem encodeChar_three {value : Nat} {lead middle last : UInt8} (low : 0x800 ≤ value)
    (high : value < 0x10000) (scalar : value < 0xd800 ∨ 0xdfff < value)
    (opened : 0xe0 ≤ lead.toNat) (continued : 0x80 ≤ middle.toNat ∧ middle.toNat ≤ 0xbf)
    (within : 0x80 ≤ last.toNat ∧ last.toNat ≤ 0xbf)
    (spelled : value = ((lead.toNat - 0xe0) * 64 + (middle.toNat - 0x80)) * 64 +
      (last.toNat - 0x80)) :
    String.utf8EncodeChar (Char.ofNat value) = [lead, middle, last] := by
  have kept : (Char.ofNat value).val.toNat = value := by
    apply toNat_ofNat
    unfold Nat.isValidChar
    omega
  have first : value / 4096 % 16 + 224 = lead.toNat := by
    omega
  have second : value / 64 % 64 + 128 = middle.toNat := by
    omega
  have third : value % 64 + 128 = last.toNat := by
    omega
  simp only [String.utf8EncodeChar, kept]
  rw [if_neg (by omega), if_neg (by omega), if_pos (by omega), first, second, third]
  simp only [UInt8.ofNat_toNat]

theorem encodeChar_four {value : Nat} {lead middle later last : UInt8} (low : 0x10000 ≤ value)
    (high : value < 0x110000) (opened : 0xf0 ≤ lead.toNat)
    (continued : 0x80 ≤ middle.toNat ∧ middle.toNat ≤ 0xbf)
    (further : 0x80 ≤ later.toNat ∧ later.toNat ≤ 0xbf)
    (within : 0x80 ≤ last.toNat ∧ last.toNat ≤ 0xbf)
    (spelled : value = (((lead.toNat - 0xf0) * 64 + (middle.toNat - 0x80)) * 64 +
      (later.toNat - 0x80)) * 64 + (last.toNat - 0x80)) :
    String.utf8EncodeChar (Char.ofNat value) = [lead, middle, later, last] := by
  have kept : (Char.ofNat value).val.toNat = value := by
    apply toNat_ofNat
    unfold Nat.isValidChar
    omega
  have first : value / 262144 % 8 + 240 = lead.toNat := by
    omega
  have second : value / 4096 % 64 + 128 = middle.toNat := by
    omega
  have third : value / 64 % 64 + 128 = later.toNat := by
    omega
  have fourth : value % 64 + 128 = last.toNat := by
    omega
  simp only [String.utf8EncodeChar, kept]
  rw [if_neg (by omega), if_neg (by omega), if_neg (by omega), first, second, third, fourth]
  simp only [UInt8.ofNat_toNat]

/-- Whatever is read as a character are the bytes that spell it. -/
theorem exists_encodeChar_of_start
    (read : decodeFrom .start bytes = some character :: tail) :
    ∃ rest, bytes = String.utf8EncodeChar character ++ rest ∧ decodeFrom .start rest = tail := by
  cases bytes with
  | nil => cases read
  | cons lead bytes =>
      -- The first byte tells how many bytes follow, and each of them is in its interval.
      have opened := opens_first lead.toNat
      simp only [decodeFrom, step] at read
      generalize first lead.toNat = opening at read opened
      cases opened with
      | one ascii =>
          injection read with same rest
          injection same with same
          have kept : (Char.ofNat lead.toNat).val.toNat = lead.toNat :=
            toNat_ofNat (.inl (by omega))
          refine ⟨bytes, ?_, rest⟩
          rw [← same, String.utf8EncodeChar, kept]
          simp only [if_pos (Nat.le_of_lt_succ ascii), UInt8.ofNat_toNat]
          rfl
      | damaged => cases read
      | two low high =>
          rcases exists_byte_of_inside read with ⟨last, rest, rfl, least, most, spelled, after⟩
          have encoded : String.utf8EncodeChar character = [lead, last] := by
            rw [spelled]
            exact encodeChar_two low high ⟨least, most⟩ rfl
          exact ⟨rest, by rw [encoded]; rfl, after⟩
      | three low high continues shortest scalar =>
          rcases exists_byte_of_inside read with ⟨middle, rest, rfl, least, most, read⟩
          rcases exists_byte_of_inside read with ⟨last, rest, rfl, least', most', spelled, after⟩
          have encoded : String.utf8EncodeChar character = [lead, middle, last] := by
            rw [spelled]
            exact encodeChar_three (by omega) (by omega) (by omega) low (by omega)
              ⟨least', most'⟩ rfl
          exact ⟨rest, by rw [encoded]; rfl, after⟩
      | four low high continues shortest bounded =>
          rcases exists_byte_of_inside read with ⟨middle, rest, rfl, least, most, read⟩
          rcases exists_byte_of_inside read with ⟨later, rest, rfl, least', most', read⟩
          rcases exists_byte_of_inside read with
            ⟨last, rest, rfl, least'', most'', spelled, after⟩
          have encoded : String.utf8EncodeChar character = [lead, middle, later, last] := by
            rw [spelled]
            exact encodeChar_four (by omega) (by omega) low (by omega) ⟨least', most'⟩
              ⟨least'', most''⟩ rfl
          exact ⟨rest, by rw [encoded]; rfl, after⟩

/-! ## Texts -/

/-- The bytes that spell a text are read as that text. -/
theorem decode_encode (text : List Char) : decode (encode text) = text.map some := by
  induction text with
  | nil => rfl
  | cons character rest ih =>
      simp only [decode, encode, List.flatMap_cons, List.map_cons] at ih ⊢
      rw [decodeFrom_encodeChar, ih]

theorem decode_eq_map_some_iff {bytes : List UInt8} {text : List Char} :
    decode bytes = text.map some ↔ bytes = encode text := by
  constructor
  · intro read
    unfold decode at read
    induction text generalizing bytes with
    | nil =>
        cases bytes with
        | nil => rfl
        | cons lead bytes =>
            have opened := opens_first lead.toNat
            simp only [decodeFrom, step] at read
            generalize first lead.toNat = opening at read opened
            cases opened with
            | one | damaged => cases read
            -- What is begun is finished or damaged, but not forgotten.
            | two | three | four => exact absurd read (decodeFrom_inside_ne_nil _ _ _ _ _)
    | cons character text ih =>
        rcases exists_encodeChar_of_start read with ⟨rest, rfl, after⟩
        rw [ih after]
        rfl
  · rintro rfl
    exact decode_encode text

theorem mapM_id_eq_some_iff {α : Type} {values : List (Option α)} {found : List α} :
    values.mapM id = some found ↔ values = found.map some := by
  induction values generalizing found with
  | nil => cases found <;> simp
  | cons value values ih =>
      cases value with
      | none => cases found <;> simp
      | some value =>
          cases found with
          | nil => simp [Option.bind_eq_some_iff]
          | cons first rest =>
              simp only [List.mapM_cons, id, Option.bind_eq_bind, Option.bind_some,
                Option.bind_eq_some_iff, Option.pure_def, Option.some.injEq, List.cons.injEq,
                List.map_cons, ih]
              exact ⟨fun ⟨_, read, same, later⟩ => ⟨same, later ▸ read⟩,
                fun ⟨same, read⟩ => ⟨rest, read, same, rfl⟩⟩

/-- Bytes spell a text exactly if they are the text's bytes. -/
theorem decode?_eq_some_iff {bytes : List UInt8} {text : List Char} :
    decode? bytes = some text ↔ bytes = encode text :=
  mapM_id_eq_some_iff.trans decode_eq_map_some_iff

theorem decodeLossy_encode (text : List Char) : decodeLossy (encode text) = text := by
  simp only [decodeLossy, decode_encode, List.map_map]
  exact List.map_id text

end ScriptBridge.Text.Utf8

namespace ScriptBridge.ByteString

/-- A text is read back from the bytes that spell it. -/
theorem toStringLossy_ofString (text : String) : (ofString text).toStringLossy = text := by
  simp only [toStringLossy, ofString, Text.Utf8.decodeLossy_encode]
  exact String.ofList_toList

theorem ofString_injective {left right : String} (equal : ofString left = ofString right) :
    left = right := by
  rw [← toStringLossy_ofString left, equal, toStringLossy_ofString]

end ScriptBridge.ByteString
