import SourceAtlas.Documentation
import Mathlib.Data.List.Infix

/-! Names of documentation files. Small letters of ASCII, but for two of them, come only from the same letters when a
text is written small, so a word without these two is found in the small form exactly where it stands in the text. -/
namespace SourceAtlas

namespace Unicode

section Letters

theorem smallIn?_eq_some_iff {point first small count step value : Nat} :
    smallIn? point (first, small, count, step) = some value ↔
      first ≤ point ∧ (point - first) % step = 0 ∧ (point - first) / step < count ∧ small + (point - first) = value := by
  simp only [smallIn?, Bool.and_eq_true, decide_eq_true_eq, Option.ite_none_right_eq_some, Option.some.injEq, and_assoc]

/-- Runs other than that of ASCII start beyond it, and of their small letters only the one of the Kelvin sign does not. -/
theorem runs_beyond : ∀ run ∈ capitalRuns.tail, 0x80 ≤ run.1 ∧ (0x80 ≤ run.2.1 ∨ run.2 = (0x6B, 1, 1)) := by
  decide +kernel

theorem capitalRuns_eq : capitalRuns = (0x41, 0x61, 26, 1) :: capitalRuns.tail := rfl

theorem findSome?_capital {point : Nat} (lower : 0x41 ≤ point) (upper : point ≤ 0x5A) :
    capitalRuns.findSome? (smallIn? point) = some (point + 32) := by
  have here : smallIn? point (0x41, 0x61, 26, 1) = some (point + 32) :=
    smallIn?_eq_some_iff.mpr ⟨lower, Nat.mod_one _, by omega, by omega⟩
  rw [capitalRuns_eq, List.findSome?_cons, here]

theorem findSome?_ascii {point : Nat} (small : point < 0x80) (other : point < 0x41 ∨ 0x5A < point) :
    capitalRuns.findSome? (smallIn? point) = none := by
  rw [List.findSome?_eq_none_iff, capitalRuns_eq]
  intro run member
  by_contra found
  obtain ⟨value, found⟩ := Option.ne_none_iff_exists'.mp found
  obtain ⟨start, -, within, -⟩ := smallIn?_eq_some_iff.mp found
  rcases List.mem_cons.mp member with rfl | later
  · simp only [Nat.div_one] at within
    omega
  · have beyond := (runs_beyond run later).1
    omega

/-- Small letters that are found are those of ASCII, or beyond it, or the one that is also that of the Kelvin sign. -/
theorem of_findSome? {point value : Nat} (found : capitalRuns.findSome? (smallIn? point) = some value) :
    (0x41 ≤ point ∧ point ≤ 0x5A ∧ value = point + 32) ∨ 0x80 ≤ value ∨ value = 0x6B := by
  obtain ⟨⟨first, small, count, step⟩, member, found⟩ := List.exists_of_findSome?_eq_some found
  obtain ⟨start, -, within, rfl⟩ := smallIn?_eq_some_iff.mp found
  rw [capitalRuns_eq] at member
  rcases List.mem_cons.mp member with ascii | later
  · obtain ⟨rfl, rfl, rfl, rfl⟩ : first = 0x41 ∧ small = 0x61 ∧ count = 26 ∧ step = 1 := by simpa using ascii
    rw [Nat.div_one] at within
    exact .inl ⟨start, by omega, by omega⟩
  · rcases (runs_beyond _ later).2 with beyond | kelvin
    · exact .inr (.inl (Nat.le_add_right_of_le beyond))
    · obtain ⟨rfl, rfl, rfl⟩ : small = 0x6B ∧ count = 1 ∧ step = 1 := by simpa using kelvin
      rw [Nat.div_one] at within
      exact .inr (.inr (by omega))

theorem toNat_toLower (c : Char) :
    c.toLower.toNat = if 0x41 ≤ c.toNat ∧ c.toNat ≤ 0x5A then c.toNat + 32 else c.toNat := by
  unfold Char.toLower
  by_cases capital : 0x41 ≤ c.toNat ∧ c.toNat ≤ 0x5A
  · have bounds : c.val ≥ 'A'.val ∧ c.val ≤ 'Z'.val := capital
    rw [if_pos capital, dif_pos bounds]
    have moved : (c.val + ('a'.val - 'A'.val)).toNat = (c.toNat + 32) % 2 ^ 32 := UInt32.toNat_add ..
    exact moved.trans (Nat.mod_eq_of_lt (by omega))
  · have bounds : ¬ (c.val ≥ 'A'.val ∧ c.val ≤ 'Z'.val) := capital
    rw [if_neg capital, dif_neg bounds]

/-- A letter of ASCII that is the small form only of itself and of its capital. -/
structure Steady (letter : Char) : Prop where
  ascii : letter.toNat < 0x80
  form : ∀ c : Char, c.toLower = letter → smallForm c = [letter]
  only : ∀ c : Char, letter ∈ smallForm c → c.toLower = letter

theorem steady_of_ascii {letter : Char} (lower : 0x61 ≤ letter.toNat) (upper : letter.toNat ≤ 0x7A)
    (dotted : letter ≠ 'i') (kelvin : letter ≠ 'k') : Steady letter where
  ascii := by omega
  form c same := by
    have number := toNat_toLower c
    rw [same] at number
    have plain : c ≠ 'İ' := by
      rintro rfl
      exact absurd upper (same ▸ by decide)
    rw [smallForm, if_neg plain]
    by_cases capital : 0x41 ≤ c.toNat ∧ c.toNat ≤ 0x5A
    · rw [if_pos capital] at number
      rw [findSome?_capital capital.1 capital.2, ← number]
      simp
    · rw [if_neg capital] at number
      rw [findSome?_ascii (by omega) (by omega)]
      simp [Char.toNat_inj.mp number]
  only c member := by
    have number := toNat_toLower c
    apply Char.toNat_inj.mp
    unfold smallForm at member
    split_ifs at member with special
    · have outside : letter ≠ '\u0307' := by
        rintro rfl
        exact absurd upper (by decide)
      simp [dotted, outside] at member
    cases found : capitalRuns.findSome? (smallIn? c.toNat) with
    | none =>
      rw [found] at member
      obtain rfl := List.mem_singleton.mp member
      rw [number, if_neg (by omega)]
    | some value =>
      rw [found] at member
      have is := List.mem_singleton.mp member
      have size : letter.toNat = value := by
        by_cases valid : value.isValidChar
        · rw [is, Char.ofNat, dif_pos valid]
          rfl
        · rw [is, Char.ofNat, dif_neg valid] at lower
          exact absurd lower (by decide)
      have other : value ≠ 0x6B := by
        rintro rfl
        exact kelvin is
      rcases of_findSome? found with ⟨low, high, rfl⟩ | beyond | same
      · rw [number, if_pos ⟨low, high⟩, size]
      · omega
      · exact absurd same other

end Letters

section Words
variable {word : List Char}

theorem smallForm_ne_nil (c : Char) : smallForm c ≠ [] := by
  unfold smallForm
  split_ifs
  · simp
  · split <;> simp

/-- One character of a text, as it is written small. It never becomes nothing, and what stands around it does not
matter for the letters of ASCII. -/
theorem lowercaseAfter_cons (letterBefore : Bool) (c : Char) (rest : List Char) : ∃ small letter,
    lowercaseAfter letterBefore (c :: rest) = small ++ lowercaseAfter letter rest ∧ small ≠ [] ∧
      ∀ d, Steady d → (c.toLower = d → small = [d]) ∧ (d ∈ small → c.toLower = d) := by
  refine ⟨_, _, rfl, ?_⟩
  by_cases sigma : c = 'Σ'
  · rw [if_pos sigma]
    refine ⟨List.cons_ne_nil _ _, fun d steady => ⟨fun same => ?_, fun member => ?_⟩⟩
    · have beyond : ¬ 'Σ'.toLower.toNat < 0x80 := by decide
      exact absurd steady.ascii (same ▸ sigma ▸ beyond)
    · have beyond : ¬ 'ς'.toNat < 0x80 ∧ ¬ 'σ'.toNat < 0x80 := by decide
      have ascii := steady.ascii
      rw [List.mem_singleton.mp member] at ascii
      split_ifs at ascii
      · exact absurd ascii beyond.1
      · exact absurd ascii beyond.2
  · rw [if_neg sigma]
    exact ⟨smallForm_ne_nil c, fun d steady => ⟨steady.form c, steady.only c⟩⟩

theorem prefix_lowercaseAfter_iff (steady : ∀ d ∈ word, Steady d) (letterBefore : Bool) (chars : List Char) :
    word <+: lowercaseAfter letterBefore chars ↔ word <+: chars.map Char.toLower := by
  induction chars generalizing word letterBefore with
  | nil => rfl
  | cons c rest ih =>
    cases word with
    | nil => simp
    | cons d more =>
      obtain ⟨small, letter, written, nonempty, forms⟩ := lowercaseAfter_cons letterBefore c rest
      obtain ⟨form, only⟩ := forms d (steady d List.mem_cons_self)
      rw [written, List.map_cons]
      by_cases same : c.toLower = d
      · rw [form same, same, List.singleton_append, List.cons_prefix_cons, List.cons_prefix_cons]
        exact and_congr_right fun _ => ih (fun other member => steady other (List.mem_cons_of_mem _ member)) letter
      · obtain ⟨first, others, rfl⟩ := List.exists_cons_of_ne_nil nonempty
        rw [List.cons_append, List.cons_prefix_cons, List.cons_prefix_cons]
        refine iff_of_false (fun both => same (only (both.1 ▸ List.mem_cons_self))) fun both => same both.1.symm

end Words

end Unicode

namespace Text

def occurrences (needle : List Char) : List Char → Nat
  | [] => needle.isEmpty.toNat
  | c :: rest => (needle.isPrefixOf (c :: rest)).toNat + occurrences needle rest

theorem occursIn_iff_pos {needle text : List Char} : occursIn needle text = true ↔ 0 < occurrences needle text := by
  induction text with
  | nil => cases needle <;> simp [occursIn, occurrences]
  | cons c rest ih =>
    rw [occursIn, occurrences, Bool.or_eq_true, ih, Nat.add_pos_iff_pos_or_pos]
    cases needle.isPrefixOf (c :: rest) <;> simp

theorem occursIn_iff_infix {needle text : List Char} : occursIn needle text = true ↔ needle <:+: text := by
  induction text with
  | nil => cases needle <;> simp [occursIn]
  | cons c rest ih => rw [occursIn, Bool.or_eq_true, ih, List.isPrefixOf_iff_prefix, List.infix_cons_iff]

theorem occurrences_append {first : Char} {more front : List Char} (absent : first ∉ front) (rest : List Char) :
    occurrences (first :: more) (front ++ rest) = occurrences (first :: more) rest := by
  induction front with
  | nil => rfl
  | cons c front ih =>
    rw [List.mem_cons, not_or] at absent
    have other : (first == c) = false := beq_false_of_ne absent.1
    rw [List.cons_append, occurrences, List.isPrefixOf_cons_cons, other, ih absent.2]
    simp

/-- A word of steady letters stands in the small form of a text as often as it does in the text, up to the case of
letters of ASCII. -/
theorem occurrences_lowercaseAfter {word : List Char} (nonempty : word ≠ []) (steady : ∀ d ∈ word, Unicode.Steady d)
    (letterBefore : Bool) (chars : List Char) :
    occurrences word (Unicode.lowercaseAfter letterBefore chars) = occurrences word (chars.map Char.toLower) := by
  obtain ⟨d, more, rfl⟩ := List.exists_cons_of_ne_nil nonempty
  induction chars generalizing letterBefore with
  | nil => rfl
  | cons c rest ih =>
    have begins := Unicode.prefix_lowercaseAfter_iff steady letterBefore (c :: rest)
    obtain ⟨small, letter, written, -, forms⟩ := Unicode.lowercaseAfter_cons letterBefore c rest
    obtain ⟨form, only⟩ := forms d (steady d List.mem_cons_self)
    by_cases same : c.toLower = d
    · rw [written, form same, List.singleton_append, List.map_cons, same] at begins
      rw [written, form same, List.singleton_append, List.map_cons, same, occurrences, occurrences, ih]
      rw [← List.isPrefixOf_iff_prefix, ← List.isPrefixOf_iff_prefix, ← Bool.eq_iff_iff] at begins
      rw [begins]
    · have absent : d ∉ [c.toLower] := by simpa using Ne.symm same
      rw [written, occurrences_append fun member => same (only member), ih, List.map_cons]
      exact (occurrences_append absent _).symm

end Text

namespace Documentation

theorem steady_marker : ∀ d ∈ marker.toList, Unicode.Steady d := by
  have letters : marker.toList.all (fun d => 0x61 ≤ d.toNat && d.toNat ≤ 0x7A && d != 'i' && d != 'k') = true := by
    decide
  intro d member
  have letter := List.all_eq_true.mp letters d member
  simp only [Bool.and_eq_true, decide_eq_true_eq, bne_iff_ne] at letter
  exact Unicode.steady_of_ascii letter.1.1.1 letter.1.1.2 letter.1.2 letter.2

/-- The name of a documentation file has the word in it, in any case of its six letters, and nothing else is taken for
one of them: the word stands in the small form of a name exactly as often as in the name. -/
theorem isDocumentation_iff (name : String) :
    (isDocumentation name = true ↔
      ∃ before word after, name.toList = before ++ word ++ after ∧ word.map Char.toLower = "readme".toList) ∧
    Text.occurrences "readme".toList (Unicode.lowercase name).toList =
      Text.occurrences "readme".toList (name.toList.map Char.toLower) := by
  have same : Text.occurrences marker.toList (Unicode.lowercase name).toList =
      Text.occurrences marker.toList (name.toList.map Char.toLower) := by
    rw [Unicode.lowercase, String.toList_ofList]
    exact Text.occurrences_lowercaseAfter (by decide) steady_marker false name.toList
  refine ⟨?_, same⟩
  rw [isDocumentation, Text.occursIn_iff_pos, same, ← Text.occursIn_iff_pos, Text.occursIn_iff_infix]
  constructor
  · rintro ⟨before, after, split⟩
    obtain ⟨front, rest, whole, lowered, -⟩ := List.map_eq_append_iff.mp split.symm
    obtain ⟨first, word, rfl, -, found⟩ := List.map_eq_append_iff.mp lowered
    exact ⟨first, word, rest, whole, found⟩
  · rintro ⟨before, word, after, split, found⟩
    refine ⟨before.map Char.toLower, after.map Char.toLower, ?_⟩
    rw [split, List.map_append, List.map_append, found]
    rfl

end Documentation

end SourceAtlas
