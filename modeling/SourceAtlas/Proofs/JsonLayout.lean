import SourceAtlas.Proofs.JsonReading

/-! Lists and objects, laid out over several lines, as readers see them. Main results: lists of
texts and objects are read back when their values are, and an object is refused for the cause
for which the first of its unreadable values is. -/
namespace SourceAtlas.Json

namespace Value

def listed (start : Bytes) : (first : Bool) → List Bytes → Bytes
  | _, [] => []
  | first, line :: lines => (if first then [] else [0x2C]) ++ (start ++ (line ++ listed start false lines))

def lastStart (indent : Bytes) (level : Nat) (lines : List Bytes) : Bytes :=
  if lines.isEmpty then [] else lineStart indent level

def member (key : String) (value : Bytes) : Bytes :=
  quoted key ++ [0x3A, 0x20] ++ value

private theorem intersperse_flatten (start line : Bytes) (lines : List Bytes) :
    (List.intersperse [0x2C] ((line :: lines).map (start ++ ·))).flatten =
      start ++ (line ++ listed start false lines) := by
  induction lines generalizing line with
  | nil => simp [listed]
  | cons next lines ih =>
    rw [List.map_cons, List.map_cons, List.intersperse_cons_cons, ← List.map_cons, List.flatten_cons,
      List.flatten_cons, ih next]
    simp [listed]

theorem enclose_eq (opening closing : UInt8) (indent : Bytes) (level : Nat) (lines : List Bytes) :
    enclose opening closing indent level lines =
      opening :: (listed (lineStart indent (level + 1)) true lines ++
        (lastStart indent level lines ++ [closing])) := by
  cases lines with
  | nil => rfl
  | cons line lines =>
    simp only [enclose, List.isEmpty_cons, Bool.false_eq_true, if_false, intersperse_flatten, lastStart,
      listed, if_true, List.nil_append, List.cons_append, List.append_assoc]

theorem renderAll_eq (indent : Bytes) (level : Nat) (values : List Value) :
    renderAll indent level values = values.map (render indent level) := by
  induction values with
  | nil => rfl
  | cons value rest ih => rw [renderAll, ih, List.map_cons]

theorem renderMembers_eq (indent : Bytes) (level : Nat) (members : List (String × Value)) :
    renderMembers indent level members =
      members.map fun item => member item.1 (item.2.render indent level) := by
  induction members with
  | nil => rfl
  | cons item rest ih => rw [renderMembers, ih, List.map_cons, member]

theorem length_le_listed (indent : Bytes) (level : Nat) (first : Bool) (lines : List Bytes) :
    lines.length ≤ (listed (lineStart indent level) first lines).length := by
  induction lines generalizing first with
  | nil => exact Nat.zero_le _
  | cons line lines ih =>
    have tail := ih false
    simp only [listed, lineStart, List.length_append, List.length_cons] at tail ⊢
    omega

def IsBlank (bytes : Bytes) : Prop :=
  ∀ byte ∈ bytes, Reader.isBlank byte = true

instance : DecidablePred IsBlank := fun bytes =>
  decidable_of_iff (bytes.all Reader.isBlank = true) List.all_eq_true

theorem isBlank_nil : IsBlank [] := by
  intro byte member
  cases member

theorem isBlank_lineStart {indent : Bytes} (blank : IsBlank indent) (level : Nat) :
    IsBlank (lineStart indent level) := by
  intro byte member
  rw [lineStart, List.mem_cons, List.mem_flatten] at member
  obtain rfl | ⟨piece, repeated, inside⟩ := member
  · decide
  · rw [List.eq_of_mem_replicate repeated] at inside
    exact blank byte inside

theorem isBlank_lastStart {indent : Bytes} (blank : IsBlank indent) (level : Nat) (lines : List Bytes) :
    IsBlank (lastStart indent level lines) := by
  rw [lastStart]
  split
  · exact isBlank_nil
  · exact isBlank_lineStart blank level

section Texts
variable {indent : Bytes}

theorem IsBlank.isText {bytes : Bytes} (blank : IsBlank bytes) : Bytes.IsText bytes := by
  apply Bytes.isText_of_ascii
  intro byte member
  have kinds := blank byte member
  simp only [Reader.isBlank, Bool.or_eq_true, beq_iff_eq] at kinds
  rcases kinds with ((rfl | rfl) | rfl) | rfl <;> decide

private theorem isText_listed {start : Bytes} (blank : IsBlank start) (first : Bool) (lines : List Bytes)
    (texts : ∀ line ∈ lines, Bytes.IsText line) : Bytes.IsText (listed start first lines) := by
  induction lines generalizing first with
  | nil => exact ⟨"", rfl⟩
  | cons line lines ih =>
    have comma : Bytes.IsText (if first then [] else [0x2C]) := by
      cases first
      · exact ⟨",", by decide⟩
      · exact ⟨"", rfl⟩
    have tail := ih false fun other inside => texts other (List.mem_cons_of_mem _ inside)
    exact comma.append (blank.isText.append ((texts line List.mem_cons_self).append tail))

private theorem isText_quoted (text : String) : Bytes.IsText (quoted text) := ⟨_, rfl⟩

private theorem isText_enclose {opening closing : UInt8} (blank : IsBlank indent) (level : Nat) (lines : List Bytes)
    (brackets : opening.toNat < 0x80 ∧ closing.toNat < 0x80) (texts : ∀ line ∈ lines, Bytes.IsText line) :
    Bytes.IsText (enclose opening closing indent level lines) := by
  have single {byte : UInt8} (small : byte.toNat < 0x80) : Bytes.IsText [byte] := by
    apply Bytes.isText_of_ascii
    simpa using small
  rw [enclose_eq]
  exact (single brackets.1).append ((isText_listed (isBlank_lineStart blank _) true lines texts).append
    ((isBlank_lastStart blank level lines).isText.append (single brackets.2)))

mutual

theorem isText_render (blank : IsBlank indent) (level : Nat) : (value : Value) → Bytes.IsText (value.render indent level)
  | .text content => isText_quoted content
  | .list elements =>
    isText_enclose blank level _ (by decide) (isText_renderAll blank (level + 1) elements)
  | .object members =>
    isText_enclose blank level _ (by decide) (isText_renderMembers blank (level + 1) members)

private theorem isText_renderAll (blank : IsBlank indent) (level : Nat) : (values : List Value) →
    ∀ line ∈ renderAll indent level values, Bytes.IsText line
  | [] => by simp [renderAll]
  | value :: rest => by
    rw [renderAll, List.forall_mem_cons]
    exact ⟨isText_render blank level value, isText_renderAll blank level rest⟩

private theorem isText_renderMembers (blank : IsBlank indent) (level : Nat) :
    (members : List (String × Value)) → ∀ line ∈ renderMembers indent level members, Bytes.IsText line
  | [] => by simp [renderMembers]
  | (key, value) :: rest => by
    have colon : Bytes.IsText [0x3A, 0x20] := ⟨": ", by decide⟩
    rw [renderMembers, List.forall_mem_cons]
    exact ⟨((isText_quoted key).append colon).append (isText_render blank level value),
      isText_renderMembers blank level rest⟩

end

end Texts

end Value

namespace Reader
open Value

variable {α : Type}

/-- A reader reads a value off certain bytes, whatever follows them. Blanks may come first. -/
def Reads (reader : Reader α) (bytes : Bytes) (value : α) : Prop :=
  ∀ blanks rest, IsBlank blanks → Yields reader (blanks ++ (bytes ++ rest)) value rest

def Refuses (reader : Reader α) (bytes : Bytes) (cause : Cause) : Prop :=
  ∀ blanks rest, IsBlank blanks → Fails reader (blanks ++ (bytes ++ rest)) cause

theorem Reads.yields {reader : Reader α} {bytes : Bytes} {value : α} (reads : Reads reader bytes value)
    (rest : Bytes) :
    Yields reader (bytes ++ rest) value rest := by
  simpa only [List.nil_append] using reads [] rest isBlank_nil

theorem reads_string (text : String) : Reads string (quoted text) text := by
  intro blanks rest blank
  rw [quoted_eq, List.cons_append, List.append_assoc]
  refine (yields_valueStart blank (by decide)).bind ?_
  have mark : ((0x22 : UInt8) == byteOf '"') = true := by decide
  simp only [mark, if_true]
  exact (yields_skip _ _).bind (yields_stringBody text rest)

section Lists
variable {start ending rest : Bytes}

private theorem yields_hasElement (first : Bool) (blank : IsBlank start) (text : String) :
    Yields (hasElement first) ((if first then [] else [0x2C]) ++ (start ++ (quoted text ++ rest))) true
      (quoted text ++ rest) := by
  have notEnd : ((0x22 : UInt8) == byteOf ']') = false := by decide
  rw [quoted_eq, List.cons_append]
  cases first with
  | true =>
    refine (yields_peekSolid? blank (by decide)).bind ?_
    simp only [notEnd, Bool.false_eq_true, if_false, if_true]
    exact yields_pure _ _
  | false =>
    have comma : ((0x2C : UInt8) == byteOf ']') = false ∧ ((0x2C : UInt8) != byteOf ',') = false := by decide
    refine (yields_peekSolid? isBlank_nil (by decide)).bind ?_
    simp only [comma.1, comma.2, Bool.false_eq_true, if_false]
    refine (yields_skip _ _).bind ((yields_peekSolid? blank (by decide)).bind ?_)
    simp only [notEnd, Bool.false_eq_true, if_false]
    exact yields_pure _ _

private theorem yields_hasElement_end (first : Bool) (blank : IsBlank ending) :
    Yields (hasElement first) (ending ++ 0x5D :: rest) false (0x5D :: rest) := by
  have closing : ((0x5D : UInt8) == byteOf ']') = true := by decide
  refine (yields_peekSolid? blank (by decide)).bind ?_
  simp only [closing, if_true]
  exact yields_pure _ _

private theorem yields_elements (blank : IsBlank start) (blankEnding : IsBlank ending)
    (texts : List String) (first : Bool) {fuel : Nat} (enough : texts.length < fuel) :
    Yields (elements string fuel first)
      (listed start first (texts.map quoted) ++ (ending ++ 0x5D :: rest)) texts (0x5D :: rest) := by
  induction texts generalizing first fuel with
  | nil =>
    obtain ⟨fuel, rfl⟩ : ∃ less, fuel = less + 1 := ⟨fuel - 1, by omega⟩
    refine (yields_hasElement_end first blankEnding).bind ?_
    simp only [Bool.false_eq_true, if_false]
    exact yields_pure _ _
  | cons text texts ih =>
    obtain ⟨fuel, rfl⟩ : ∃ less, fuel = less + 1 := ⟨fuel - 1, by omega⟩
    rw [List.length_cons] at enough
    simp only [List.map_cons, listed, List.append_assoc]
    refine (yields_hasElement first blank text).bind ?_
    simp only [if_true]
    refine ((reads_string text).yields _).bind ?_
    exact (ih false (by omega)).bind (yields_pure _ _)

private theorem yields_endList (rest : Bytes) : Yields endList (0x5D :: rest) () rest := by
  have closing : ((0x5D : UInt8) == byteOf ']') = true := by decide
  refine (yields_peekSolid? isBlank_nil (by decide)).bind ?_
  simp only [closing, if_true]
  exact yields_skip _ _

theorem reads_list {indent : Bytes} (blank : IsBlank indent) (levels level : Nat) (texts : List String) :
    Reads (list (levels + 1) fun _ => string) (enclose 0x5B 0x5D indent level (texts.map quoted)) texts := by
  intro blanks rest blankFirst
  have opening : ((0x5B : UInt8) == byteOf '[') = true := by decide
  rw [enclose_eq, List.cons_append]
  refine (yields_valueStart blankFirst (by decide)).bind ?_
  simp only [opening, if_true, deeper]
  refine (yields_skip _ _).bind ?_
  apply (moves_get (fun input => withPlace (endedBy (elements string (input.length + 1) true) endList)) _).yields
  apply Yields.withPlace
  simp only [List.append_assoc, List.cons_append, List.nil_append]
  refine (yields_elements (isBlank_lineStart blank _) (isBlank_lastStart blank level _) texts true ?_).endedBy
    (yields_endList rest)
  have count := length_le_listed indent (level + 1) true (texts.map quoted)
  rw [List.length_map] at count
  rw [List.length_append]
  omega

end Lists

section Objects
variable {start ending : Bytes}

theorem yields_key? (first : Bool) (blank : IsBlank start) (key : String) (rest : Bytes) :
    Yields (key? first) ((if first then [] else [0x2C]) ++ (start ++ (quoted key ++ rest))) (some key) rest := by
  have notEnd : ((0x22 : UInt8) == byteOf '\x7d') = false := by decide
  have mark : ((0x22 : UInt8) != byteOf '"') = false := by decide
  have body : Yields (do skip; return some (← stringBody))
      (0x22 :: (escapeAll key.toList ++ 0x22 :: rest)) (some key) rest :=
    (yields_skip _ _).bind ((yields_stringBody key rest).bind (yields_pure _ _))
  rw [quoted_eq, List.cons_append, List.append_assoc]
  cases first with
  | true =>
    refine (yields_peekSolid? blank (by decide)).bind ?_
    simp only [notEnd, mark, Bool.false_eq_true, if_false, if_true]
    exact body
  | false =>
    have comma : ((0x2C : UInt8) == byteOf '\x7d') = false ∧ ((0x2C : UInt8) != byteOf ',') = false := by decide
    refine (yields_peekSolid? isBlank_nil (by decide)).bind ?_
    simp only [comma.1, comma.2, Bool.false_eq_true, if_false]
    refine (yields_skip _ _).bind ((yields_peekSolid? blank (by decide)).bind ?_)
    simp only [notEnd, mark, Bool.false_eq_true, if_false]
    exact body

theorem yields_key?_end (first : Bool) (blank : IsBlank ending) (rest : Bytes) :
    Yields (key? first) (ending ++ 0x7D :: rest) none (0x7D :: rest) := by
  have closing : ((0x7D : UInt8) == byteOf '\x7d') = true := by decide
  refine (yields_peekSolid? blank (by decide)).bind ?_
  simp only [closing, if_true]
  exact yields_pure _ _

theorem yields_colon (rest : Bytes) : Yields colon (0x3A :: rest) () rest := by
  have mark : ((0x3A : UInt8) == byteOf ':') = true := by decide
  refine (yields_peekSolid? isBlank_nil (by decide)).bind ?_
  simp only [mark, if_true]
  exact yields_skip _ _

theorem yields_endObject (rest : Bytes) : Yields endObject (0x7D :: rest) () rest := by
  have closing : ((0x7D : UInt8) == byteOf '\x7d') = true := by decide
  refine (yields_peekSolid? isBlank_nil (by decide)).bind ?_
  simp only [closing, if_true]
  exact yields_skip _ _

variable {value : Reader α} {bytes : α → Bytes} {cause : Cause}

private theorem moves_members {key : String} {item : α} {first : Bool} {fuel : Nat} (input : Bytes)
    (blank : IsBlank start) (reads : Reads value (bytes item) item) :
    Moves (members value (fuel + 1) first)
      ((if first then [] else [0x2C]) ++ (start ++ (member key (bytes item) ++ input)))
      (do return (key, item) :: (← members value fuel false)) input := by
  have space : IsBlank [0x20] := by decide
  simp only [member, List.append_assoc, List.cons_append, List.nil_append]
  exact (yields_key? first blank key _).moves.trans
    ((yields_colon _).moves.trans (reads [0x20] input space).moves)

private theorem fails_members_first {key : String} {item : α} {first : Bool} {fuel : Nat} (input : Bytes)
    (blank : IsBlank start) (refused : Refuses value (bytes item) cause) :
    Fails (members value (fuel + 1) first)
      ((if first then [] else [0x2C]) ++ (start ++ (member key (bytes item) ++ input))) cause := by
  have space : IsBlank [0x20] := by decide
  simp only [member, List.append_assoc, List.cons_append, List.nil_append]
  exact ((yields_key? first blank key _).moves.trans (yields_colon _).moves).fails
    (refused [0x20] input space).bind

private theorem yields_members (blank : IsBlank start) (blankEnding : IsBlank ending)
    (items : List (String × α)) (reads : ∀ item ∈ items, Reads value (bytes item.2) item.2)
    (first : Bool) {fuel : Nat} (enough : items.length < fuel) (rest : Bytes) :
    Yields (members value fuel first)
      (listed start first (items.map fun item => member item.1 (bytes item.2)) ++ (ending ++ 0x7D :: rest))
      items (0x7D :: rest) := by
  induction items generalizing first fuel with
  | nil =>
    obtain ⟨fuel, rfl⟩ : ∃ less, fuel = less + 1 := ⟨fuel - 1, by omega⟩
    exact (yields_key?_end first blankEnding rest).bind (yields_pure _ _)
  | cons item items ih =>
    obtain ⟨fuel, rfl⟩ : ∃ less, fuel = less + 1 := ⟨fuel - 1, by omega⟩
    rw [List.length_cons] at enough
    simp only [List.map_cons, listed, List.append_assoc]
    have next := ih (fun other inside => reads other (List.mem_cons_of_mem _ inside)) false
      (show items.length < fuel by omega)
    exact (moves_members _ blank (reads item List.mem_cons_self)).yields (next.bind (yields_pure _ _))

private theorem fails_members (blank : IsBlank start) (items : List (String × α)) (readable : α → Prop)
    (reads : ∀ item ∈ items, readable item.2 → Reads value (bytes item.2) item.2)
    (refused : ∀ item ∈ items, ¬ readable item.2 → Refuses value (bytes item.2) cause)
    (some : ∃ item ∈ items, ¬ readable item.2) (first : Bool) {fuel : Nat}
    (enough : items.length < fuel) (input : Bytes) :
    Fails (members value fuel first)
      (listed start first (items.map fun item => member item.1 (bytes item.2)) ++ input) cause := by
  induction items generalizing first fuel with
  | nil =>
    obtain ⟨item, inside, -⟩ := some
    cases inside
  | cons item items ih =>
    obtain ⟨fuel, rfl⟩ : ∃ less, fuel = less + 1 := ⟨fuel - 1, by omega⟩
    rw [List.length_cons] at enough
    simp only [List.map_cons, listed, List.append_assoc]
    -- Members up to the first that cannot be read are read, and that one decides.
    by_cases good : readable item.2
    · have later : ∃ item ∈ items, ¬ readable item.2 := by
        obtain ⟨other, inside, bad⟩ := some
        rcases List.mem_cons.mp inside with rfl | inside
        · exact absurd good bad
        · exact ⟨other, inside, bad⟩
      have next := ih (fun other inside => reads other (List.mem_cons_of_mem _ inside))
        (fun other inside => refused other (List.mem_cons_of_mem _ inside)) later false
        (show items.length < fuel by omega)
      exact (moves_members _ blank (reads item List.mem_cons_self good)).fails next.bind
    · exact fails_members_first _ blank (refused item List.mem_cons_self good)

theorem Yields.closed {body : Reader α} {input rest : Bytes} {result : α}
    (read : Yields body input result (0x7D :: rest)) :
    Yields (Reader.withPlace (Reader.endedBy body endObject)) input result rest :=
  (read.endedBy (yields_endObject rest)).withPlace

theorem Fails.closed {body : Reader α} {input : Bytes} (failed : Fails body input cause) :
    Fails (Reader.withPlace (Reader.endedBy body endObject)) input cause :=
  failed.endedBy.withPlace

section Whole
variable {indent : Bytes} (blank : IsBlank indent) (items : List (String × α)) (bytes : α → Bytes)
  (value : Nat → Reader α) (levels level : Nat)

private theorem moves_object {blanks : Bytes} (blank : IsBlank blanks) (lines : List Bytes) (rest : Bytes) :
    Moves (object (levels + 1) value) (blanks ++ (enclose 0x7B 0x7D indent level lines ++ rest))
      (get >>= fun progress : Progress =>
        withPlace (endedBy (members (value levels) (progress.rest.length + 1) true) endObject))
      (listed (lineStart indent (level + 1)) true lines ++ (lastStart indent level lines ++ 0x7D :: rest)) := by
  have opening : ((0x7B : UInt8) == byteOf '\x7b') = true := by decide
  rw [enclose_eq, List.cons_append]
  refine (yields_valueStart blank (by decide)).moves.trans ?_
  simp only [opening, if_true, deeper, List.append_assoc, List.cons_append, List.nil_append]
  exact (yields_skip _ _).moves

include blank

theorem reads_object (reads : ∀ item ∈ items, Reads (value levels) (bytes item.2) item.2) :
    Reads (object (levels + 1) value)
      (enclose 0x7B 0x7D indent level (items.map fun item => member item.1 (bytes item.2))) items := by
  intro blanks rest blankFirst
  apply (moves_object value levels level blankFirst _ rest).yields
  apply (moves_get (fun input => withPlace (endedBy (members (value levels) (input.length + 1) true) endObject)) _).yields
  apply Yields.closed
  apply yields_members (isBlank_lineStart blank _) (isBlank_lastStart blank level _) items reads
  have count := length_le_listed indent (level + 1) true (items.map fun item => member item.1 (bytes item.2))
  rw [List.length_map] at count
  rw [List.length_append]
  omega

theorem refuses_object (readable : α → Prop)
    (reads : ∀ item ∈ items, readable item.2 → Reads (value levels) (bytes item.2) item.2)
    (refused : ∀ item ∈ items, ¬ readable item.2 → Refuses (value levels) (bytes item.2) cause)
    (some : ∃ item ∈ items, ¬ readable item.2) :
    Refuses (object (levels + 1) value)
      (enclose 0x7B 0x7D indent level (items.map fun item => member item.1 (bytes item.2))) cause := by
  intro blanks rest blankFirst
  apply (moves_object value levels level blankFirst _ rest).fails
  apply (moves_get (fun input => withPlace (endedBy (members (value levels) (input.length + 1) true) endObject)) _).fails
  apply Fails.closed
  apply fails_members (isBlank_lineStart blank _) items readable reads refused some
  have count := length_le_listed indent (level + 1) true (items.map fun item => member item.1 (bytes item.2))
  rw [List.length_map] at count
  rw [List.length_append]
  omega

end Whole

theorem refuses_object_tooDeep (value : Nat → Reader α) (indent : Bytes) (level : Nat) (lines : List Bytes) :
    Refuses (object 0 value) (enclose 0x7B 0x7D indent level lines) .tooDeep := by
  intro blanks rest blank
  have opening : ((0x7B : UInt8) == byteOf '\x7b') = true := by decide
  rw [enclose_eq, List.cons_append]
  refine (yields_valueStart blank (by decide)).moves.fails ?_
  simp only [opening, if_true, deeper]
  exact fails_failAtNext _ _

end Objects

section Whole
variable {reader : Nat → Reader α} {text : String} {value : α} {rest : Bytes} {cause : Cause}

private theorem yields_finished (blank : IsBlank rest) : Yields finished rest () [] := by
  have solid : Yields peekSolid? (rest ++ []) none [] :=
    (yields_skipWhile blank rfl).bind (yields_peek? _)
  rw [List.append_nil] at solid
  exact solid.bind (yields_pure _ _)

theorem run_of_yields (read : Yields (reader maxLevels) (Bytes.ofText text) value rest) (blank : IsBlank rest) :
    run reader text = .ok value := by
  have whole : Yields (do let value ← reader maxLevels; finished; return value)
      (Bytes.ofText text) value [] :=
    read.bind ((yields_finished blank).bind (yields_pure _ _))
  obtain ⟨after, done⟩ := whole 0
  rw [runOn] at done
  rw [run, done]

theorem run_of_fails (failed : Fails (reader maxLevels) (Bytes.ofText text) cause) :
    ∃ line column, run reader text = .error ⟨cause, line, column⟩ := by
  have whole : Fails (do let value ← reader maxLevels; finished; return value) (Bytes.ofText text) cause :=
    failed.bind
  obtain ⟨spot, after, done⟩ := whole 0
  rw [runOn] at done
  rw [run, done]
  exact ⟨_, _, rfl⟩

end Whole

end Reader

end SourceAtlas.Json
