import SourceAtlas.Json.Reading
import SourceAtlas.Json.Writing
import SourceAtlas.Proofs.Utf8
import Mathlib.Tactic.IntervalCases

/-! What readers do on bytes of a known form. A reader yields a value off the start of some
bytes, or fails for a cause; both are kept by the ways in which readers are put together.
Main result: what stands between the quotation marks of a written text is read as that text. -/
namespace SourceAtlas.Json.Reader

def runOn {α : Type} (reader : Reader α) (progress : Progress) : Except Fault α × Progress :=
  ExceptT.run reader progress

variable {α β : Type}

theorem runOn_bind (reader : Reader α) (next : α → Reader β) (progress : Progress) :
    runOn (reader >>= next) progress =
      match runOn reader progress with
      | (.ok value, after) => runOn (next value) after
      | (.error fault, after) => (.error fault, after) := by
  simp only [runOn, ExceptT.run_bind]
  show (ExceptT.run reader >>= _) progress = _
  simp only [bind, StateT.bind]
  rcases h : ExceptT.run reader progress with ⟨result, after⟩
  cases result <;> rfl

theorem runOn_pure (value : α) (progress : Progress) :
    runOn (pure value : Reader α) progress = (.ok value, progress) := rfl
theorem runOn_get (progress : Progress) :
    runOn (get : Reader Progress) progress = (.ok progress, progress) := rfl
theorem runOn_set (progress after : Progress) :
    runOn (set after : Reader PUnit) progress = (.ok ⟨⟩, after) := rfl
theorem runOn_modify (change : Progress → Progress) (progress : Progress) :
    runOn (modify change : Reader PUnit) progress = (.ok ⟨⟩, change progress) := rfl
theorem runOn_throw (fault : Fault) (progress : Progress) :
    runOn (throw fault : Reader α) progress = (.error fault, progress) := rfl
theorem runOn_tryCatch (reader : Reader α) (handle : Fault → Reader α) (progress : Progress) :
    runOn (tryCatch reader handle) progress =
      match runOn reader progress with
      | (.ok value, after) => (.ok value, after)
      | (.error fault, after) => runOn (handle fault) after := by
  simp only [runOn]
  show (ExceptT.run (tryCatch reader handle)) progress = _
  simp only [tryCatch, tryCatchThe, MonadExceptOf.tryCatch, ExceptT.tryCatch, ExceptT.run, ExceptT.mk, bind, StateT.bind]
  rcases h : (reader : StateM Progress _) progress with ⟨result, after⟩
  cases result <;> rfl


/-- A reader reads a value off some bytes and leaves others. Where it stands does not matter. -/
def Yields (reader : Reader α) (input : Bytes) (value : α) (rest : Bytes) : Prop :=
  ∀ place, ∃ after, runOn reader ⟨input, place⟩ = (.ok value, ⟨rest, after⟩)

def Fails (reader : Reader α) (input : Bytes) (cause : Cause) : Prop :=
  ∀ place, ∃ spot after, runOn reader ⟨input, place⟩ = (.error ⟨cause, some spot⟩, after)

def Moves (reader : Reader α) (input : Bytes) (later : Reader α) (rest : Bytes) : Prop :=
  ∀ place, ∃ after, runOn reader ⟨input, place⟩ = runOn later ⟨rest, after⟩

section Laws
variable {reader : Reader α} {next : α → Reader β} {input middle rest : Bytes} {value : α}
  {result : β} {cause : Cause}

theorem yields_pure (value : α) (input : Bytes) : Yields (pure value : Reader α) input value input :=
  fun place => ⟨place, rfl⟩

theorem Moves.trans {first second third : Reader α} (one : Moves first input second middle)
    (two : Moves second middle third rest) : Moves first input third rest := by
  intro place
  obtain ⟨between, moved⟩ := one place
  obtain ⟨after, done⟩ := two between
  exact ⟨after, moved.trans done⟩

theorem Moves.yields {later : Reader α} (moves : Moves reader input later middle)
    (yields : Yields later middle value rest) : Yields reader input value rest := by
  intro place
  obtain ⟨between, moved⟩ := moves place
  obtain ⟨after, done⟩ := yields between
  exact ⟨after, moved.trans done⟩

theorem Moves.fails {later : Reader α} (moves : Moves reader input later middle)
    (fails : Fails later middle cause) : Fails reader input cause := by
  intro place
  obtain ⟨between, moved⟩ := moves place
  obtain ⟨spot, after, done⟩ := fails between
  exact ⟨spot, after, moved.trans done⟩

theorem Yields.moves (first : Yields reader input value middle) :
    Moves (reader >>= next) input (next value) middle := by
  intro place
  obtain ⟨after, read⟩ := first place
  exact ⟨after, by simp only [runOn_bind, read]⟩

theorem Yields.bind (first : Yields reader input value middle)
    (second : Yields (next value) middle result rest) : Yields (reader >>= next) input result rest :=
  first.moves.yields second

theorem Fails.bind (first : Fails reader input cause) : Fails (reader >>= next) input cause := by
  intro place
  obtain ⟨spot, after, failed⟩ := first place
  exact ⟨spot, after, by simp only [runOn_bind, failed]⟩

theorem moves_get (use : Bytes → Reader β) (input : Bytes) :
    Moves (get >>= fun progress : Progress => use progress.rest) input (use input) input :=
  fun place => ⟨place, rfl⟩

theorem Yields.withPlace (read : Yields reader input value rest) :
    Yields (Reader.withPlace reader) input value rest := by
  intro place
  obtain ⟨after, done⟩ := read place
  exact ⟨after, by simp only [Reader.withPlace, runOn_tryCatch, done]⟩

theorem Fails.withPlace (failed : Fails reader input cause) :
    Fails (Reader.withPlace reader) input cause := by
  intro place
  obtain ⟨spot, after, done⟩ := failed place
  exact ⟨spot, after, by simp only [Reader.withPlace, runOn_tryCatch, done, runOn_throw]⟩

theorem runOn_observing (reader : Reader α) (progress : Progress) :
    runOn (observing reader) progress = (.ok (runOn reader progress).1, (runOn reader progress).2) := by
  simp only [observing, runOn_tryCatch, runOn_bind]
  rcases runOn reader progress with ⟨result, after⟩
  cases result <;> rfl

theorem Yields.endedBy {ending : Reader Unit} (read : Yields reader input value middle)
    (ended : Yields ending middle () rest) : Yields (Reader.endedBy reader ending) input value rest := by
  intro place
  obtain ⟨between, done⟩ := read place
  obtain ⟨after, last⟩ := ended between
  exact ⟨after, by simp only [Reader.endedBy, runOn_bind, runOn_observing, done, last, runOn_pure]⟩

theorem Fails.endedBy {ending : Reader Unit} (failed : Fails reader input cause) :
    Fails (Reader.endedBy reader ending) input cause := by
  intro place
  obtain ⟨spot, after, done⟩ := failed place
  refine ⟨spot, (runOn ending after).2, ?_⟩
  simp only [Reader.endedBy, runOn_bind, runOn_observing, done, runOn_throw]

theorem yields_skip (byte : UInt8) (rest : Bytes) : Yields skip (byte :: rest) () rest :=
  fun place => ⟨place + 1, rfl⟩

theorem yields_peek? (input : Bytes) : Yields peek? input input.head? input :=
  fun place => ⟨place, rfl⟩

theorem fails_failAtNext (cause : Cause) (input : Bytes) : Fails (failAtNext cause : Reader α) input cause :=
  fun _ => ⟨_, _, rfl⟩

theorem yields_skipWhile {kind : UInt8 → Bool} {taken : Bytes} {rest : Bytes}
    (all : ∀ byte ∈ taken, kind byte = true) (stops : rest.takeWhile kind = []) :
    Yields (skipWhile kind) (taken ++ rest) () rest := by
  intro place
  refine ⟨place + taken.length, ?_⟩
  have run : (taken ++ rest).takeWhile kind = taken := by
    rw [List.takeWhile_append_of_pos all, stops, List.append_nil]
  simp only [skipWhile, runOn_modify, run, List.drop_left]

end Laws

section Solid
variable {blanks rest : Bytes} {byte : UInt8}

theorem yields_peekSolid? (blank : ∀ byte ∈ blanks, isBlank byte = true) (solid : isBlank byte = false) :
    Yields peekSolid? (blanks ++ byte :: rest) (some byte) (byte :: rest) :=
  (yields_skipWhile blank (by simp [solid])).bind (yields_peek? _)

theorem yields_valueStart (blank : ∀ byte ∈ blanks, isBlank byte = true) (solid : isBlank byte = false) :
    Yields valueStart (blanks ++ byte :: rest) byte (byte :: rest) :=
  (yields_peekSolid? blank solid).bind (yields_pure _ _)

end Solid

section Strings

private theorem runOn_stringFrom_plain {byte : UInt8} (plain : isPlain byte = true) (fuel : Nat)
    (read rest : Bytes) (place : Nat) :
    runOn (stringFrom (fuel + 1) read) ⟨byte :: rest, place⟩ =
      runOn (stringFrom (fuel + 1) (byte :: read)) ⟨rest, place + 1⟩ := by
  have shift : place + 1 + (rest.takeWhile isPlain).length = place + ((rest.takeWhile isPlain).length + 1) := by
    omega
  simp only [stringFrom, runOn_bind, runOn_get, skipWhile, runOn_modify, List.takeWhile_cons, plain,
    if_true, List.length_cons, List.drop_succ_cons, List.reverse_cons, List.append_assoc,
    List.cons_append, List.nil_append, shift]

theorem Yields.stringFrom_plain {bytes : Bytes} (plain : ∀ byte ∈ bytes, isPlain byte = true)
    {fuel : Nat} {read input rest : Bytes} {text : String}
    (next : Yields (stringFrom (fuel + 1) (bytes.reverse ++ read)) input text rest) :
    Yields (stringFrom (fuel + 1) read) (bytes ++ input) text rest := by
  induction bytes generalizing read with
  | nil => exact next
  | cons byte bytes ih =>
    intro place
    rw [List.cons_append, runOn_stringFrom_plain (plain byte List.mem_cons_self)]
    apply ih (fun other member => plain other (List.mem_cons_of_mem _ member))
    simpa only [List.reverse_cons, List.append_assoc, List.cons_append, List.nil_append] using next

theorem Yields.stringFrom_escape {c : Char} {fuel : Nat} {read input middle rest : Bytes}
    {text : String} (first : Yields escape input c middle)
    (next : Yields (stringFrom fuel ((Bytes.ofText (String.singleton c)).reverse ++ read)) middle text rest) :
    Yields (stringFrom (fuel + 1) read) (0x5C :: input) text rest := by
  intro place
  obtain ⟨between, done⟩ := first (place + 1)
  obtain ⟨after, last⟩ := next between
  refine ⟨after, ?_⟩
  have stops : isPlain 0x5C = false := by decide
  have mark : ((0x5C : UInt8) == byteOf '"') = false := by decide
  have slash : ((0x5C : UInt8) == byteOf '\\') = true := by decide
  simp only [stringFrom, runOn_bind, runOn_get, skipWhile, runOn_modify, peek?, skip, runOn_pure,
    List.takeWhile_cons, stops, List.length_nil, List.drop_zero, List.head?_cons, mark, slash,
    Bool.false_eq_true, if_false, if_true, List.reverse_nil, List.nil_append, Nat.add_zero, done, last]

theorem yields_stringFrom_end (fuel : Nat) (read rest : Bytes) :
    Yields (stringFrom (fuel + 1) read) (0x22 :: rest) (Bytes.toText read.reverse) rest := by
  intro place
  refine ⟨place + 1, ?_⟩
  have stops : isPlain 0x22 = false := by decide
  have mark : ((0x22 : UInt8) == byteOf '"') = true := by decide
  simp only [stringFrom, runOn_bind, runOn_get, skipWhile, runOn_modify, peek?, skip, runOn_pure,
    List.takeWhile_cons, stops, List.length_nil, List.drop_zero, List.head?_cons, mark,
    Bool.false_eq_true, if_false, if_true, List.reverse_nil, List.nil_append, Nat.add_zero]

end Strings

section Escapes

inductive Escaped (c : Char) : Prop
  | plain (written : Value.escape c = [c]) (solid : 32 ≤ c.toNat) (mark : c ≠ '"') (slash : c ≠ '\\')
  | short (letter : Char) (written : Value.escape c = ['\\', letter]) (ascii : letter.toNat < 0x80)
      (read : shortEscape? (UInt8.ofNat letter.toNat) = some c)
  | number (written : Value.escape c =
      ['\\', 'u', '0', '0', Value.hexDigit (c.toNat / 16), Value.hexDigit (c.toNat % 16)])
      (control : c.toNat < 32)

theorem escaped (c : Char) : Escaped c := by
  by_cases mark : c = '"'
  · subst mark
    exact .short '"' (by decide) (by decide) (by decide)
  by_cases slash : c = '\\'
  · subst slash
    exact .short '\\' (by decide) (by decide) (by decide)
  by_cases backspace : c = '\x08'
  · subst backspace
    exact .short 'b' (by decide) (by decide) (by decide)
  by_cases formFeed : c = '\x0c'
  · subst formFeed
    exact .short 'f' (by decide) (by decide) (by decide)
  by_cases lineFeed : c = '\n'
  · subst lineFeed
    exact .short 'n' (by decide) (by decide) (by decide)
  by_cases carriageReturn : c = '\r'
  · subst carriageReturn
    exact .short 'r' (by decide) (by decide) (by decide)
  by_cases tab : c = '\t'
  · subst tab
    exact .short 't' (by decide) (by decide) (by decide)
  by_cases control : c.toNat < 32
  · refine .number ?_ control
    simp only [Value.escape, beq_iff_eq, mark, slash, backspace, formFeed, lineFeed, carriageReturn,
      tab, control, if_false, if_true]
  · refine .plain ?_ (by omega) mark slash
    simp only [Value.escape, beq_iff_eq, mark, slash, backspace, formFeed, lineFeed, carriageReturn,
      tab, control, if_false]

theorem yields_nextInString (byte : UInt8) (rest : Bytes) :
    Yields nextInString (byte :: rest) byte rest :=
  fun place => ⟨place + 1, rfl⟩

theorem yields_escape_short {byte : UInt8} {c : Char} (short : shortEscape? byte = some c) (rest : Bytes) :
    Yields escape (byte :: rest) c rest := by
  refine (yields_nextInString byte rest).bind ?_
  simp only [short]
  exact yields_pure c rest

theorem yields_hexEscape {a b c d : UInt8} {digits : List Nat}
    (read : [a, b, c, d].mapM hexValue? = some digits) (rest : Bytes) :
    Yields hexEscape (a :: b :: c :: d :: rest)
      (digits.foldl (fun value digit => 16 * value + digit) 0) rest := by
  intro place
  refine ⟨place + 4, ?_⟩
  simp only [hexEscape, runOn_bind, runOn_get, runOn_set, read, runOn_pure]

theorem hexDigit_lt {value : Nat} (small : value < 16) : (Value.hexDigit value).toNat < 0x80 := by
  interval_cases value <;> decide

theorem hexValue?_hexDigit {value : Nat} (small : value < 16) :
    hexValue? (UInt8.ofNat (Value.hexDigit value).toNat) = some value := by
  interval_cases value <;> decide

theorem yields_escape_number {c : Char} (control : c.toNat < 32) (rest : Bytes) :
    Yields escape (0x75 :: 0x30 :: 0x30 :: UInt8.ofNat (Value.hexDigit (c.toNat / 16)).toNat ::
      UInt8.ofNat (Value.hexDigit (c.toNat % 16)).toNat :: rest) c rest := by
  have digits : [0x30, 0x30, UInt8.ofNat (Value.hexDigit (c.toNat / 16)).toNat,
      UInt8.ofNat (Value.hexDigit (c.toNat % 16)).toNat].mapM hexValue? =
        some [0, 0, c.toNat / 16, c.toNat % 16] := by
    have zero : hexValue? 0x30 = some 0 := by decide
    have sixteens := hexValue?_hexDigit (show c.toNat / 16 < 16 by omega)
    have ones := hexValue?_hexDigit (show c.toNat % 16 < 16 by omega)
    simp [zero, sixteens, ones]
  have value : [0, 0, c.toNat / 16, c.toNat % 16].foldl (fun value digit => 16 * value + digit) 0 =
      c.toNat := by
    simp only [List.foldl_cons, List.foldl_nil]
    omega
  refine (yields_nextInString _ _).bind ?_
  have notShort : shortEscape? 0x75 = none := by decide
  have letter : ((0x75 : UInt8) == byteOf 'u') = true := by decide
  simp only [notShort, letter, if_true]
  refine (yields_hexEscape digits rest).bind ?_
  have notLow : (decide (0xDC00 ≤ c.toNat) && decide (c.toNat ≤ 0xDFFF)) = false := by
    simp only [Bool.and_eq_false_iff, decide_eq_false_iff_not]
    omega
  have single : (decide (c.toNat < 0xD800) || decide (0xDBFF < c.toNat)) = true := by
    simp only [Bool.or_eq_true, decide_eq_true_eq]
    omega
  simp only [value, notLow, single, if_true, Bool.false_eq_true, if_false, Char.ofNat_toNat]
  exact yields_pure c rest

private theorem isPlain_of_mem {c : Char} (solid : 32 ≤ c.toNat) (mark : c ≠ '"') (slash : c ≠ '\\')
    {byte : UInt8} (member : byte ∈ String.utf8EncodeChar c) : isPlain byte = true := by
  have same : c.toNat ≠ 34 ∧ c.toNat ≠ 92 :=
    ⟨fun equal => mark (Char.toNat_inj.mp equal), fun equal => slash (Char.toNat_inj.mp equal)⟩
  have large : 32 ≤ byte.toNat ∧ byte.toNat ≠ 34 ∧ byte.toNat ≠ 92 := by
    by_cases small : c.toNat < 0x80
    · rw [Bytes.encode_ascii small, List.mem_singleton] at member
      subst member
      rw [UInt8.toNat_ofNat_of_lt' (by simp only [UInt8.size]; omega)]
      omega
    · have := Bytes.le_of_mem_encode (by omega) member
      omega
  simp only [isPlain, Bool.and_eq_true, bne_iff_ne, ne_eq, decide_eq_true_eq, ← UInt8.toNat_inj,
    UInt8.le_iff_toNat_le]
  exact ⟨⟨large.2.1, large.2.2⟩, large.1⟩

def escapeAll (chars : List Char) : Bytes :=
  chars.flatMap fun c => (Value.escape c).flatMap String.utf8EncodeChar

theorem quoted_eq (text : String) : Value.quoted text = 0x22 :: (escapeAll text.toList ++ [0x22]) := by
  simp only [Value.quoted, Bytes.ofText, String.toList_ofList, List.flatMap_cons, List.flatMap_append,
    List.flatMap_assoc, List.flatMap_nil, List.append_nil, List.cons_append]
  rfl

private theorem escape_ne_nil (c : Char) : (Value.escape c).flatMap String.utf8EncodeChar ≠ [] := by
  have first : ∃ d rest, Value.escape c = d :: rest := by
    cases escaped c with
    | plain written => exact ⟨_, _, written⟩
    | short letter written => exact ⟨_, _, written⟩
    | number written => exact ⟨_, _, written⟩
  obtain ⟨d, rest, written⟩ := first
  obtain ⟨byte, tail, encoded, -⟩ := Bytes.decodeFirst_encode d []
  simp [written, encoded]

private theorem length_le_escapeAll (chars : List Char) : chars.length ≤ (escapeAll chars).length := by
  induction chars with
  | nil => exact Nat.zero_le _
  | cons c chars ih =>
    have nonempty := List.length_pos_iff.mpr (escape_ne_nil c)
    simp only [escapeAll, List.flatMap_cons, List.length_append, List.length_cons] at ih ⊢
    omega

theorem yields_stringFrom (chars : List Char) {fuel : Nat} (enough : chars.length < fuel)
    (read rest : Bytes) :
    Yields (stringFrom fuel read) (escapeAll chars ++ 0x22 :: rest)
      (Bytes.toText (read.reverse ++ chars.flatMap String.utf8EncodeChar)) rest := by
  -- Fuel is used up by escapes only, and there are no more of them than characters.
  induction chars generalizing fuel read with
  | nil =>
    obtain ⟨fuel, rfl⟩ := Nat.exists_eq_add_of_lt enough
    simpa [escapeAll] using yields_stringFrom_end _ read rest
  | cons c chars ih =>
    obtain ⟨fuel, rfl⟩ : ∃ less, fuel = less + 1 := ⟨fuel - 1, by omega⟩
    rw [List.length_cons] at enough
    have next (fuel) (enough : chars.length < fuel) :
        Yields (stringFrom fuel ((String.utf8EncodeChar c).reverse ++ read))
          (escapeAll chars ++ 0x22 :: rest)
          (Bytes.toText (read.reverse ++ (c :: chars).flatMap String.utf8EncodeChar)) rest := by
      simpa using ih enough ((String.utf8EncodeChar c).reverse ++ read)
    have single : Bytes.ofText (String.singleton c) = String.utf8EncodeChar c := by
      simp [Bytes.ofText]
    rw [escapeAll, List.flatMap_cons, List.append_assoc]
    cases escaped c with
    | plain written solid mark slash =>
      rw [written, List.flatMap_singleton]
      exact .stringFrom_plain (fun byte => isPlain_of_mem solid mark slash) (next _ (by omega))
    | short letter written ascii short =>
      have bytes : (Value.escape c).flatMap String.utf8EncodeChar = [0x5C, UInt8.ofNat letter.toNat] := by
        rw [written, List.flatMap_cons, List.flatMap_singleton, Bytes.encode_ascii ascii]
        rfl
      rw [bytes]
      refine .stringFrom_escape (yields_escape_short short _) ?_
      rw [single]
      exact next _ (by omega)
    | number written control =>
      have bytes : (Value.escape c).flatMap String.utf8EncodeChar =
          [0x5C, 0x75, 0x30, 0x30, UInt8.ofNat (Value.hexDigit (c.toNat / 16)).toNat,
            UInt8.ofNat (Value.hexDigit (c.toNat % 16)).toNat] := by
        simp only [written, List.flatMap_cons, List.flatMap_nil,
          Bytes.encode_ascii (hexDigit_lt (show c.toNat / 16 < 16 by omega)),
          Bytes.encode_ascii (hexDigit_lt (show c.toNat % 16 < 16 by omega))]
        rfl
      rw [bytes]
      refine .stringFrom_escape (yields_escape_number control _) ?_
      rw [single]
      exact next _ (by omega)

theorem yields_stringBody (text : String) (rest : Bytes) :
    Yields stringBody (escapeAll text.toList ++ 0x22 :: rest) text rest := by
  apply (moves_get (fun input => stringFrom (input.length + 1) []) _).yields
  have enough : text.toList.length < (escapeAll text.toList ++ 0x22 :: rest).length + 1 := by
    have := length_le_escapeAll text.toList
    rw [List.length_append]
    omega
  have read := yields_stringFrom text.toList enough [] rest
  have same : Bytes.toText (([] : Bytes).reverse ++ text.toList.flatMap String.utf8EncodeChar) = text :=
    Bytes.toText_ofText text
  rwa [same] at read

end Escapes

end SourceAtlas.Json.Reader
