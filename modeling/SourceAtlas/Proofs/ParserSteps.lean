import SourceAtlas.Proofs.StackPaths
import Mathlib.Data.List.TakeWhile

/-! What the steps of the parser preserve: its stack is regular, what it has finished stands for a whole text,
and the token that it keeps was read off the text. -/
namespace SourceAtlas.Syntax
variable {σ : Type}

/-- The readers of tokens go forward and stay within the text. -/
structure Language.ReadsWithin (language : Language σ) (source : Source) : Prop where
  scanned : ∀ {expected place : Nat} {memory : Option σ} {scan : Scan σ}, place ≤ source.size →
    language.scan expected source place memory = some scan →
    place ≤ scan.lexeme.start ∧ scan.lexeme.start ≤ scan.lexeme.stop ∧ scan.lexeme.stop ≤ source.size
  read : ∀ {mode place : Nat} {lexeme : Lexeme}, place ≤ source.size → language.read mode source place = .found lexeme →
    place ≤ lexeme.start ∧ lexeme.start ≤ lexeme.stop ∧ lexeme.stop ≤ source.size
  stuck : ∀ {mode place start reached : Nat}, place ≤ source.size →
    language.read mode source place = .stuck start reached → place ≤ start ∧ start ≤ reached ∧ reached ≤ source.size
  word_ne : language.word ≠ 0
  layout : ∀ {expected place : Nat} {memory : Option σ} {scan : Scan σ},
    language.scan expected source place memory = some scan → scan.lexeme.symbol ≠ language.word
  keyword : ∀ {start stop keyword : Nat}, language.keyword source start stop = some keyword → keyword ≠ language.word

/-- A finished tree. Without errors it is a tree of the rules for a whole text, with the extras around it. -/
structure Whole (language : Language σ) (source : Source) (root : Nat) (tree : Tree σ) : Prop where
  measured : Measured source tree
  origin : tree.facts.origin = 0
  label : tree.label = .symbol root ∨ tree.label = .error
  derives : tree.cost = 0 → (∃ rule : Rule, rule.symbol = root ∧ Fills language rule tree.facts tree.children) ∧
    ∀ child ∈ tree.children, Derives language source child

namespace Parser
variable {α β : Type}

def Leaves (step : ParseM σ α) (parser : Parser σ) (post : α → Parser σ → Prop) : Prop :=
  post (step parser).1 (step parser).2

section Leaving
variable {parser : Parser σ} {post : α → Parser σ → Prop}

theorem Leaves.bind {first : ParseM σ β} {second : β → ParseM σ α}
    (leaves : Leaves first parser fun value next => Leaves (second value) next post) :
    Leaves (first >>= second) parser post := leaves

theorem Leaves.pure {value : α} (holds : post value parser) : Leaves (Pure.pure value) parser post := holds

theorem Leaves.get {post : Parser σ → Parser σ → Prop} (holds : post parser parser) :
    Leaves MonadState.get parser post := holds

theorem Leaves.ofStack {view : Stack σ → α} (holds : post (view parser.stack) parser) :
    Leaves (Parser.ofStack view) parser post := holds

theorem Leaves.modifyStack {change : Stack σ → Stack σ} {post : Unit → Parser σ → Prop}
    (holds : post () { parser with stack := change parser.stack }) :
    Leaves (Parser.modifyStack change) parser post := holds

theorem Leaves.ite {condition : Prop} [Decidable condition] {first second : ParseM σ α} (yes : Leaves first parser post)
    (no : Leaves second parser post) : Leaves (if condition then first else second) parser post := by
  split
  · exact yes
  · exact no

theorem Leaves.imp {step : ParseM σ α} {weaker : α → Parser σ → Prop} (leaves : Leaves step parser post)
    (implies : ∀ value next, post value next → weaker value next) : Leaves step parser weaker :=
  implies _ _ leaves

end Leaving

/-- The invariant of a parse. -/
structure Valid (setting : Setting σ) (root : Nat) (parser : Parser σ) : Prop where
  stack : parser.stack.Regular setting.language setting.source
  finished : ∀ tree, parser.finished = some tree → Whole setting.language setting.source root tree
  cache : ∀ cached, parser.cache = some cached → IsToken setting.language setting.source cached.place cached.token

structure Keeps (version : Nat) (old parser : Parser σ) : Prop where
  count : old.stack.heads.size ≤ parser.stack.heads.size
  others : ∀ other < old.stack.heads.size, other ≠ version → parser.stack.footing other = old.stack.footing other

theorem Keeps.refl (version : Nat) (parser : Parser σ) : Keeps version parser parser := ⟨Nat.le_refl _, fun _ _ _ => rfl⟩

theorem Keeps.trans {version : Nat} {first second third : Parser σ} (lower : Keeps version first second)
    (upper : Keeps version second third) : Keeps version first third where
  count := Nat.le_trans lower.count upper.count
  others other bound different := by
    rw [upper.others other (Nat.lt_of_lt_of_le bound lower.count) different, lower.others other bound different]

theorem Valid.of_stack {setting : Setting σ} {root : Nat} {parser : Parser σ} (valid : Valid setting root parser)
    {stack : Stack σ} (regular : stack.Regular setting.language setting.source) :
    Valid setting root { parser with stack } :=
  { valid with stack := regular }

section Merges
variable {setting : Setting σ} {root : Nat} {parser : Parser σ}

/-- One reading is gone, and everything else is as it was. -/
structure Without (setting : Setting σ) (root version : Nat) (old parser : Parser σ) : Prop where
  valid : Valid setting root parser
  footing : ∀ other, parser.stack.footing other = old.stack.footing (if other < version then other else other + 1)
  size : parser.stack.heads.size =
    if version < old.stack.heads.size then old.stack.heads.size - 1 else old.stack.heads.size

theorem Valid.remove (valid : Valid setting root parser) (version : Nat) :
    Leaves (modifyStack (·.remove version)) parser fun _ next => Without setting root version parser next :=
  ⟨valid.of_stack (valid.stack.remove version), fun other => parser.stack.footing_remove version other,
    parser.stack.size_remove version⟩

variable [BEq σ]

theorem Valid.tryMerge (valid : Valid setting root parser) (first second : Nat) :
    Leaves (tryMerge first second) parser fun merged next =>
      if merged then Without setting root second parser next else next = parser := by
  unfold Parser.tryMerge
  apply Leaves.bind
  apply Leaves.get
  split
  · rename_i merged done
    obtain ⟨regular, footing, size⟩ := valid.stack.merge done
    exact ⟨valid.of_stack regular, footing, size⟩
  · exact rfl

theorem Valid.mergeInto (valid : Valid setting root parser) (candidates : List Nat) (version : Nat) :
    Leaves (mergeInto candidates version) parser fun merged next =>
      if merged then Without setting root version parser next else next = parser := by
  induction candidates with
  | nil => exact rfl
  | cons candidate candidates ih =>
    unfold Parser.mergeInto
    rw [List.anyM]
    apply Leaves.bind
    refine (valid.tryMerge candidate version).imp fun merged next result => ?_
    cases merged with
    | true => exact result
    | false =>
      obtain rfl : next = parser := result
      exact ih

end Merges

section Tokens
variable {setting : Setting σ} {position : Length} {origin start stop state : Nat}

/-- What a reader has counted on its way over a token does not depend on where it began to count. -/
theorem measuredToken_eq (label : Label) : measuredToken setting label position origin start stop state =
    Tree.ofLexeme setting.language label origin start stop (setting.source.between origin start)
      (setting.source.between start stop) state := by
  unfold measuredToken
  simp only [Source.advance_eq, Length.add_sub_cancel_left]

theorem measured_token (label : Label) (state : Nat) (low : origin ≤ start) (long : start ≤ stop)
    (high : stop ≤ setting.source.size) :
    Measured setting.source (measuredToken setting label position origin start stop state) := by
  rw [measuredToken_eq]
  exact .leaf ⟨low, long, high, rfl, rfl⟩

theorem isToken_scanned {expected : Nat} {memory : Option σ} {scan : Scan σ}
    (readers : setting.language.ReadsWithin setting.source)
    (inside : origin ≤ setting.source.size) (renewed : Bool)
    (found : setting.language.scan expected setting.source origin memory = some scan) :
    IsToken setting.language setting.source origin (scannedToken setting position origin state scan renewed) := by
  obtain ⟨low, long, high⟩ := readers.scanned inside found
  exact {
    leaf := rfl
    free := rfl
    aliases := rfl
    origin := rfl
    measured := (measured_token (.symbol scan.lexeme.symbol) state low long high).of_facts rfl rfl
    ends := fun last => decide_eq_true last
    lexed := fun symbol label => by
      obtain rfl := Label.symbol.inj label
      exact .scanned found
    keyword := fun spelled => by cases spelled
    spelled := fun spelled => by cases spelled
    word := fun label => absurd (Label.symbol.inj label) (readers.layout found) }

theorem isToken_plain {mode : Nat} {lexeme : Lexeme} (readers : setting.language.ReadsWithin setting.source)
    (inside : origin ≤ setting.source.size) (found : setting.language.read mode setting.source origin = .found lexeme) :
    IsToken setting.language setting.source origin (plainToken setting position origin state lexeme) := by
  obtain ⟨low, long, high⟩ := readers.read inside found
  have built : ∀ {symbol : Nat} {keyword : Bool}, Lexed setting.language setting.source symbol lexeme.start lexeme.stop →
      (keyword = true → lexeme.symbol = setting.language.word ∧ (symbol = setting.language.word ∨
        setting.language.keyword setting.source lexeme.start lexeme.stop = some symbol)) →
      (symbol = setting.language.word → keyword = false →
        setting.language.keyword setting.source lexeme.start lexeme.stop = none) → ∀ {token : Tree σ},
      token = .mk { (measuredToken setting (.symbol symbol) position origin lexeme.start lexeme.stop
        state).facts with keyword } [] →
      IsToken setting.language setting.source origin token := by
    rintro symbol keyword lexed word plain token rfl
    exact {
      leaf := rfl
      free := rfl
      aliases := rfl
      origin := rfl
      measured := (measured_token (.symbol symbol) state low long high).of_facts rfl rfl
      ends := fun last => decide_eq_true last
      lexed := fun other label => by
        obtain rfl := Label.symbol.inj label
        exact lexed
      keyword := fun spelled => (word spelled).1 ▸ .read found
      spelled := fun spelled => (word spelled).2.imp (congrArg _) fun known => ⟨_, rfl, known⟩
      word := fun label => plain (Label.symbol.inj label) }
  unfold plainToken
  dsimp only
  split
  · rename_i word
    rw [beq_iff_eq] at word
    split
    · rename_i keyword spelled
      refine built ?_ (fun _ => ⟨word, ?_⟩) (fun _ plain => by cases plain) rfl
      · split
        · exact .keyword found word spelled
        · exact .read found
      · split
        · exact .inr spelled
        · exact .inl word
    · rename_i none
      exact built (.read found) (fun spelled => by cases spelled) (fun _ _ => none) rfl
  · rename_i other
    exact built (.read found) (fun spelled => by cases spelled) (fun word => absurd (beq_iff_eq.mpr word) other) rfl

theorem heeds_plain (readers : setting.language.ReadsWithin setting.source) (lexeme : Lexeme) :
    Heeds setting.language setting.source state (plainToken setting position origin state lexeme) := by
  have built {symbol : Nat} {spelled : Bool} (other : symbol = setting.language.word →
      ∀ keyword ∈ setting.language.keyword setting.source lexeme.start lexeme.stop,
        setting.language.accepts state keyword = false) {token : Tree σ}
      (made : token = .mk { (measuredToken setting (.symbol symbol) position origin lexeme.start lexeme.stop
        state).facts with keyword := spelled } []) : Heeds setting.language setting.source state token := by
    subst made
    intro label keyword known
    refine .inr fun target listed => ?_
    have idle := other (Label.symbol.inj label) keyword known
    unfold Language.accepts at idle
    rw [Bool.not_eq_false', List.isEmpty_iff] at idle
    rw [idle] at listed
    cases listed
  unfold plainToken
  dsimp only
  split
  · split
    · rename_i keyword known
      refine built (fun word other same => ?_) rfl
      obtain rfl := Option.some.inj (known.symm.trans same)
      split at word
      · exact absurd word (readers.keyword known)
      · rename_i idle
        exact Bool.eq_false_iff.mpr idle
    · rename_i none
      refine built (fun _ other same => ?_) rfl
      rw [none] at same
      cases same
  · rename_i other
    exact built (fun word => absurd (beq_iff_eq.mpr word) other) rfl

theorem isToken_error (low : origin ≤ start) (long : start ≤ stop) (high : stop ≤ setting.source.size) :
    IsToken setting.language setting.source origin (measuredToken setting .error position origin start stop state) where
  leaf := rfl
  free := rfl
  aliases := rfl
  origin := rfl
  measured := measured_token .error state low long high
  ends other := by cases other
  lexed symbol other := by cases other
  keyword spelled := by cases spelled
  spelled spelled := by cases spelled
  word other := by cases other

variable [BEq σ] {parser : Parser σ} {version : Nat}

theorem scanToken_leaves (expected place : Nat) (recovering : Bool) :
    Leaves (scanToken setting version expected place recovering) parser fun found next => next = parser ∧
      ∀ scan renewed, found = some (scan, renewed) →
        ∃ memory, setting.language.scan expected setting.source place memory = some scan := by
  unfold scanToken
  apply Leaves.bind
  apply Leaves.get
  dsimp only
  split
  · exact ⟨rfl, fun scan renewed none => by cases none⟩
  · rename_i scan found
    refine ⟨rfl, fun other renewed known => ?_⟩
    change (if _ then none else some (scan, _)) = some (other, renewed) at known
    split at known
    · cases known
    · obtain ⟨rfl, -⟩ := Prod.mk.inj (Option.some.inj known)
      exact ⟨_, found⟩

variable (readers : setting.language.ReadsWithin setting.source)
include readers

theorem skipToToken_leaves {fuel first last reached : Nat} (low : origin ≤ first) (long : first ≤ last)
    (ahead : last ≤ reached) (high : reached ≤ setting.source.size) :
    Leaves (skipToToken setting version position origin state first fuel last reached) parser fun token next =>
      next = parser ∧ IsToken setting.language setting.source origin token ∧
        Heeds setting.language setting.source state token := by
  induction fuel generalizing last reached with
  | zero => exact ⟨rfl, isToken_error low long (Nat.le_trans ahead high), fun word => by cases word⟩
  | succ fuel ih =>
    unfold skipToToken
    dsimp only
    split
    · exact ⟨rfl, isToken_error low long (Nat.le_trans ahead high), fun word => by cases word⟩
    · rename_i going
      have room : (if reached = last then reached + 1 else reached) ≤ setting.source.size := by
        split
        · rename_i same
          have notEnd : ¬ setting.source.chars.size ≤ reached := by
            simpa [same, Source.atEnd] using going
          unfold Source.size
          omega
        · exact high
      have further : first ≤ if reached = last then reached + 1 else reached := by split <;> omega
      apply Leaves.bind
      refine (scanToken_leaves _ _ _).imp fun found next ⟨same, _⟩ => ?_
      subst same
      split
      · exact ⟨rfl, isToken_error low further room, fun word => by cases word⟩
      · split
        · exact ⟨rfl, isToken_error low further room, fun word => by cases word⟩
        · rename_i stuck
          obtain ⟨after, before, within⟩ := readers.stuck room stuck
          exact ih further (Nat.le_trans after before) within

theorem attemptToken_leaves (regular : parser.stack.Regular setting.language setting.source) {mode expected : Nat}
    {recovering : Bool} :
    Leaves (attemptToken setting version state mode expected recovering) parser fun found next => next = parser ∧
      (∀ token, found = .ok token → IsToken setting.language setting.source (parser.stack.place version) token ∧
        Heeds setting.language setting.source state token) ∧
      ∀ start reached, found = .error (start, reached) →
        parser.stack.place version ≤ start ∧ start ≤ reached ∧ reached ≤ setting.source.size := by
  have inside := regular.place_le version
  unfold attemptToken
  apply Leaves.bind
  apply Leaves.ofStack
  apply Leaves.bind
  apply Leaves.ofStack
  apply Leaves.bind
  refine (scanToken_leaves _ _ _).imp ?_
  rintro found next ⟨rfl, scanned⟩
  split
  · rename_i scan renewed
    obtain ⟨memory, found⟩ := scanned scan renewed rfl
    refine ⟨rfl, fun token known => ?_, nofun⟩
    obtain rfl := Except.ok.inj known
    exact ⟨isToken_scanned readers inside renewed found, fun word => absurd (Label.symbol.inj word) (readers.layout found)⟩
  · split
    · rename_i lexeme found
      refine ⟨rfl, fun token known => ?_, nofun⟩
      obtain rfl := Except.ok.inj known
      exact ⟨isToken_plain readers inside found, heeds_plain readers lexeme⟩
    · rename_i stuck
      refine ⟨rfl, nofun, fun start reached known => ?_⟩
      obtain ⟨rfl, rfl⟩ := Prod.mk.inj (Except.error.inj known)
      exact readers.stuck inside stuck

theorem readToken_leaves (regular : parser.stack.Regular setting.language setting.source) :
    Leaves (readToken setting version state) parser fun token next => next = parser ∧
      IsToken setting.language setting.source (parser.stack.place version) token ∧
        Heeds setting.language setting.source state token := by
  unfold readToken
  dsimp only
  split
  on_goal 2 =>
    refine Leaves.bind ((attemptToken_leaves readers regular).imp ?_)
    rintro found next ⟨rfl, own, -⟩
    split
    · exact ⟨rfl, own _ rfl⟩
  -- In either case any token will do now.
  all_goals
    refine Leaves.bind ((attemptToken_leaves readers regular).imp ?_)
    rintro found next ⟨rfl, any, stuck⟩
    split
    · exact ⟨rfl, any _ rfl⟩
    · obtain ⟨low, ahead, high⟩ := stuck _ _ rfl
      apply Leaves.bind
      apply Leaves.ofStack
      apply Leaves.bind
      apply Leaves.ofStack
      exact skipToToken_leaves readers low (Nat.le_refl _) ahead high

theorem Valid.nextToken {root : Nat} (valid : Valid setting root parser) :
    Leaves (nextToken setting version state) parser fun token next => Valid setting root next ∧
      next.stack = parser.stack ∧ IsToken setting.language setting.source (parser.stack.place version) token ∧
        Heeds setting.language setting.source state token := by
  unfold Parser.nextToken
  apply Leaves.bind
  apply Leaves.get
  apply Leaves.bind
  apply Leaves.get
  dsimp only
  split
  · rename_i cached known
    obtain ⟨kept, same⟩ := Option.filter_eq_some_iff.mp known
    simp only [Bool.and_eq_true, beq_iff_eq] at same
    have place : cached.place = parser.stack.place version := same.1.1
    have token := valid.cache cached kept
    refine ⟨valid, rfl, place ▸ token, fun word keyword spelled => ?_⟩
    -- A word that was read before is used again only if it spells no keyword.
    have plain : cached.token.facts.keyword = false := by
      have again := same.2
      unfold reusable at again
      simp only [Bool.and_eq_true, Bool.or_eq_true, Bool.not_eq_true'] at again
      exact (again.2.resolve_left fun other => bne_iff_ne.mp other word).1
    cases spelled.symm.trans (token.word word plain)
  · apply Leaves.bind
    refine (readToken_leaves readers valid.stack).imp ?_
    rintro token next ⟨rfl, known, heeds⟩
    refine ⟨⟨valid.stack, valid.finished, fun cached new => ?_⟩, rfl, known, heeds⟩
    obtain rfl := Option.some.inj new
    exact known

end Tokens

section Reductions
variable {setting : Setting σ} {root final : Nat} {rule : Rule}

theorem splitExtras_eq (trees : List (Tree σ)) : ∃ parts extras, Tree.splitExtras trees = (parts, extras) ∧
    trees = parts ++ extras ∧ (∀ tree ∈ extras, tree.extra = true) ∧
    ∀ last, parts.getLast? = some last → last.extra = false := by
  let extras := (trees.reverse.takeWhile Tree.extra).reverse
  let parts := (trees.reverse.dropWhile Tree.extra).reverse
  have whole : trees = parts ++ extras := by
    rw [← List.reverse_append, List.takeWhile_append_dropWhile, List.reverse_reverse]
  have taken : trees.take (trees.length - extras.length) = parts := by
    have length : trees.length - extras.length = parts.length := by
      rw [congrArg List.length whole, List.length_append]
      omega
    rw [length]
    conv => lhs; rw [whole]
    exact List.take_left ..
  refine ⟨parts, extras, by rw [← taken]; rfl, whole, fun tree member => ?_, fun last known => ?_⟩
  · exact List.mem_takeWhile_imp (List.mem_reverse.mp member)
  · rw [List.getLast?_reverse] at known
    have stops := List.head?_dropWhile_not Tree.extra trees.reverse
    rw [known] at stops
    simpa using stops

variable (setting rule) in
theorem chooseChildren_eq (place : Nat) (first : List (Tree σ)) (others : List (List (Tree σ))) :
    ∃ trees ∈ first :: others, chooseChildren setting rule place first others = Tree.splitExtras trees := by
  unfold chooseChildren
  generalize start : Tree.splitExtras first = best
  have known : ∃ trees ∈ first :: others, best = Tree.splitExtras trees := ⟨first, List.mem_cons_self, start.symm⟩
  have listed : ∀ trees ∈ others, trees ∈ first :: others := fun _ => List.mem_cons_of_mem _
  clear start
  generalize first :: others = all at known listed
  induction others generalizing best with
  | nil => exact known
  | cons trees others ih =>
    obtain ⟨here, later⟩ := List.forall_mem_cons.mp listed
    rw [List.foldl_cons]
    refine ih _ ?_ later
    dsimp only
    split
    · exact ⟨trees, here, rfl⟩
    · exact known

/-- Some readings have been reduced and stand at a place again; for each of the others there is a group of slices
that lead up to that place. -/
structure Pending (setting : Setting σ) (base state place settled removed : Nat) (groups : List (List (Slice σ)))
    (parser : Parser σ) : Prop where
  low : base ≤ settled
  size : parser.stack.heads.size = settled + groups.length
  done : ∀ version, base ≤ version → version < settled →
    (parser.stack.footing version).live = true ∧ (parser.stack.footing version).place = place ∧
      setting.language.Lands (parser.stack.footing version).state
  live : ∀ index < groups.length, (parser.stack.footing (settled + index)).live = true
  filled : ∀ (index : Nat) (group : List (Slice σ)), groups[index]? = some group → group ≠ []
  climbs : ∀ (index : Nat) (group : List (Slice σ)), groups[index]? = some group → ∀ slice ∈ group,
    slice.head = removed + settled + index ∧
    Climb setting.language setting.source (parser.stack.footing (settled + index)).state
      (parser.stack.footing (settled + index)).place slice.trees state place

section Pending
variable {base state place settled removed : Nat} {group : List (Slice σ)} {groups : List (List (Slice σ))}
  {parser next : Parser σ}

theorem Pending.drop (pending : Pending setting base state place settled removed (group :: groups) parser)
    (without : Without setting root settled parser next) :
    Pending setting base state place settled (removed + 1) groups next := by
  have size := pending.size
  have footing : ∀ index, next.stack.footing (settled + index) = parser.stack.footing (settled + (index + 1)) := by
    intro index
    rw [without.footing, if_neg (by omega)]
    rfl
  rw [List.length_cons] at size
  refine ⟨pending.low, ?_, fun version low high => ?_, fun index bound => ?_, fun index other known => ?_,
    fun index other known slice member => ?_⟩
  · rw [without.size, if_pos (by omega), size]
    omega
  · rw [without.footing, if_pos high]
    exact pending.done version low high
  · rw [footing]
    exact pending.live (index + 1) (Nat.succ_lt_succ bound)
  · exact pending.filled (index + 1) other known
  · rw [footing]
    obtain ⟨head, climb⟩ := pending.climbs (index + 1) other known slice member
    exact ⟨by omega, climb⟩

theorem Pending.settle (pending : Pending setting base state place settled removed (group :: groups) parser)
    (size : next.stack.heads.size = parser.stack.heads.size)
    (own : (next.stack.footing settled).live = true ∧ (next.stack.footing settled).place = place ∧
      setting.language.Lands (next.stack.footing settled).state)
    (others : ∀ other, other ≠ settled → next.stack.footing other = parser.stack.footing other) :
    Pending setting base state place (settled + 1) removed groups next := by
  have footing : ∀ index, next.stack.footing (settled + 1 + index) = parser.stack.footing (settled + (index + 1)) := by
    intro index
    rw [others _ (by omega)]
    congr 1
    omega
  have total := pending.size
  rw [List.length_cons] at total
  refine ⟨Nat.le_succ_of_le pending.low, by omega, fun version low high => ?_, fun index bound => ?_,
    fun index other known => ?_,
    fun index other known slice member => ?_⟩
  · by_cases last : version = settled
    · exact last ▸ own
    · rw [others version last]
      exact pending.done version low (by omega)
  · rw [footing]
    exact pending.live (index + 1) (Nat.succ_lt_succ bound)
  · exact pending.filled (index + 1) other known
  · rw [footing]
    obtain ⟨head, climb⟩ := pending.climbs (index + 1) other known slice member
    exact ⟨by omega, climb⟩

end Pending

/-- The readings that were there are unchanged, and all behind them stand at a place, each with a rule just applied. -/
structure Reduced (setting : Setting σ) (root base place : Nat) (old parser : Parser σ) : Prop where
  valid : Valid setting root parser
  count : base ≤ parser.stack.heads.size
  kept : ∀ version < base, parser.stack.footing version = old.stack.footing version
  added : ∀ version, base ≤ version → version < parser.stack.heads.size →
    (parser.stack.footing version).live = true ∧ (parser.stack.footing version).place = place ∧
      setting.language.Lands (parser.stack.footing version).state

theorem Reduced.trans {base place : Nat} {first second third : Parser σ}
    (kept : ∀ version < base, second.stack.footing version = first.stack.footing version)
    (reduced : Reduced setting root base place second third) : Reduced setting root base place first third :=
  { reduced with kept := fun version bound => (reduced.kept version bound).trans (kept version bound) }

variable (orderly : setting.language.Orderly root final) (listed : setting.language.HasRule rule)
include orderly listed

theorem pushAll_rule {stack : Stack σ} (regular : stack.Regular setting.language setting.source)
    {version state place : Nat}
    {children extras : List (Tree σ)} (bound : version < stack.heads.size) (live : (stack.footing version).live = true)
    (climb : Climb setting.language setting.source (stack.footing version).state (stack.footing version).place
      (children ++ extras) state place) (alive : state ≠ 0) (aside : ∀ tree ∈ extras, tree.extra = true)
    (fits : Tree.fits rule.parts children = true) (precedence : Int) :
    let built := Tree.mk { (ruleTree setting rule children (stack.footing version).place).facts with precedence } children
    let next := setting.language.next (stack.footing version).state rule.symbol
    (stack.pushAll version (built :: extras) next).Regular setting.language setting.source ∧
      (stack.pushAll version (built :: extras) next).heads.size = stack.heads.size ∧
      (stack.pushAll version (built :: extras) next).footing version = ⟨next, place, true⟩ ∧
      ∀ other, other ≠ version → (stack.pushAll version (built :: extras) next).footing other = stack.footing other := by
  intro built next
  obtain ⟨middle, reached, lower, upper⟩ := climb.split
  have going : middle ≠ 0 := fun error => alive (upper.of_error orderly error)
  have step : Step setting.language setting.source (stack.footing version).state (stack.footing version).place
      built next reached :=
    (lower.step_rule orderly _ going (regular.place_le version) listed fits).of_precedence precedence
  have stop := step.stop
  have pushed : (stack.push version (some built) next).Regular setting.language setting.source :=
    regular.push_tree live (stop.symm ▸ step)
  have own := stack.footing_push_self (some built) next bound
  obtain ⟨done, size, last, others⟩ := pushed.pushAll (by rwa [Stack.size_push]) (by rw [own]) (by rw [own, live])
    (by rw [own]; exact stop.symm ▸ upper.aside aside)
  refine ⟨done, size.trans (stack.size_push ..), last, fun other different => ?_⟩
  exact (others other different).trans (regular.footing_push different)

variable [BEq σ] {base state place : Nat}

theorem Valid.reduceGroups {parser : Parser σ} (valid : Valid setting root parser) (alive : state ≠ 0) (version : Nat)
    {settled removed : Nat} {groups : List (List (Slice σ))}
    (pending : Pending setting base state place settled removed groups parser) :
    Leaves (reduceGroups setting version rule groups removed) parser fun _ next =>
      Reduced setting root base place parser next := by
  induction groups generalizing parser settled removed with
  | nil =>
    have size : parser.stack.heads.size = settled := pending.size
    exact ⟨valid, size ▸ pending.low, fun _ _ => rfl, fun version low high => pending.done version low (size ▸ high)⟩
  | cons group groups ih =>
    have low := pending.low
    have dropped : ∀ {next : Parser σ}, Without setting root settled parser next →
        Leaves (Parser.reduceGroups setting version rule groups (removed + 1)) next fun _ last =>
          Reduced setting root base place parser last := by
      intro next without
      refine (ih without.valid (pending.drop without)).imp fun _ last reduced => reduced.trans fun version bound => ?_
      rw [without.footing, if_pos (by omega)]
    unfold Parser.reduceGroups
    cases group with
    | nil => exact absurd rfl (pending.filled 0 [] rfl)
    | cons slice others =>
      have live := pending.live 0 (Nat.succ_pos _)
      have climbs := pending.climbs 0 _ rfl
      have bound : settled < parser.stack.heads.size := by
        rw [pending.size, List.length_cons]
        omega
      have target : slice.head - removed = settled := by
        have head := (climbs slice List.mem_cons_self).1
        omega
      dsimp only
      rw [target]
      apply Leaves.bind
      apply Leaves.ofStack
      obtain ⟨trees, member, chosen⟩ := chooseChildren_eq setting rule
        (parser.stack.place settled) slice.trees (others.map (·.trees))
      obtain ⟨children, extras, split, whole, aside, -⟩ := splitExtras_eq trees
      have climb : Climb setting.language setting.source (parser.stack.footing settled).state
          (parser.stack.footing settled).place (children ++ extras) state place := by
        rw [← whole]
        obtain ⟨other, listed, rfl⟩ : ∃ other ∈ slice :: others, other.trees = trees := by
          rcases List.mem_cons.mp member with rfl | later
          · exact ⟨slice, List.mem_cons_self, rfl⟩
          · obtain ⟨other, listed, same⟩ := List.mem_map.mp later
            exact ⟨other, List.mem_cons_of_mem _ listed, same⟩
        exact (climbs other listed).2
      rw [chosen, split]
      dsimp only
      split
      · apply Leaves.bind
        exact (valid.remove settled).imp fun _ next without => dropped without
      · rename_i fitting
        have fits : Tree.fits rule.parts children = true := by
          rw [Bool.or_eq_true, not_or] at fitting
          simpa using fitting.2
        obtain ⟨regular, size, own, others⟩ := pushAll_rule orderly listed valid.stack bound live climb alive aside fits
          ((ruleTree setting rule children (parser.stack.place settled)).facts.precedence + rule.precedence)
        apply Leaves.bind
        apply Leaves.ofStack
        apply Leaves.bind
        apply Leaves.modifyStack
        apply Leaves.bind
        refine ((valid.of_stack regular).mergeInto _ settled).imp fun merged next result => ?_
        cases merged with
        | true =>
          refine dropped ⟨result.valid, fun other => ?_, size ▸ result.size⟩
          exact (result.footing other).trans (others _ (by split <;> omega))
        | false =>
          obtain rfl := result
          have lands : setting.language.Lands (setting.language.next (parser.stack.footing settled).state rule.symbol) :=
            ⟨_, _, (if_neg (Nat.not_lt.mpr (orderly.rule_symbol listed))).symm⟩
          refine (ih (valid.of_stack regular) (pending.settle size (by rw [own]; exact ⟨rfl, rfl, lands⟩) others)).imp ?_
          exact fun _ last reduced => reduced.trans fun version below => others version (by omega)

/-- A reduction leaves the readings that were there and adds its results, all at the place that was reached. -/
theorem Valid.reduce {parser : Parser σ} (valid : Valid setting root parser) {version : Nat}
    (live : (parser.stack.footing version).live = true) (alive : (parser.stack.footing version).state ≠ 0) :
    Leaves (reduce setting version rule) parser fun result next =>
      Reduced setting root parser.stack.heads.size (parser.stack.footing version).place parser next ∧
      ∀ made, result = some made → made = parser.stack.heads.size ∧ parser.stack.heads.size < next.stack.heads.size := by
  unfold Parser.reduce
  apply Leaves.bind
  apply Leaves.ofStack
  apply Leaves.bind
  apply Leaves.ofStack
  have pop := valid.stack.popCount live rule.parts.length
  generalize parser.stack.popCount version rule.parts.length = result at pop
  obtain ⟨popped, slices⟩ := result
  have pending : Pending setting parser.stack.heads.size (parser.stack.footing version).state
      (parser.stack.footing version).place
      parser.stack.heads.size 0 (slices.splitBy fun a b => a.head == b.head) { parser with stack := popped } := by
    obtain ⟨size, groups⟩ := pop.groups
    refine ⟨Nat.le_refl _, size.symm, fun other low high => by omega, fun index bound => ?_,
      fun index group known => (groups index group known).1, fun index group known slice member => ?_⟩
    · exact pop.live _ (by omega) (by dsimp only at size ⊢; omega)
    · obtain ⟨listed, head⟩ := (groups index group known).2 slice member
      refine ⟨by omega, ?_⟩
      rw [← head]
      exact pop.climbs slice listed
  apply Leaves.bind
  apply Leaves.modifyStack
  apply Leaves.bind
  refine ((valid.of_stack pop.regular).reduceGroups orderly listed alive version pending).imp fun _ next reduced => ?_
  apply Leaves.bind
  apply Leaves.ofStack
  refine ⟨reduced.trans pop.kept, fun made known => ?_⟩
  change (if _ then some _ else none) = some made at known
  split at known
  · rename_i grown
    exact ⟨(Option.some.inj known).symm, grown⟩
  · cases known

end Reductions

section Ends
variable {setting : Setting σ} {root final : Nat}

/-- The root that is made of all trees of a reading: the last one that is no extra takes up the others. -/
def rootOf (before : List (Tree σ)) (tree : Tree σ) (after : List (Tree σ)) : Tree σ :=
  Tree.ofChildren tree.label tree.facts.visible tree.facts.aliases 0 (before ++ tree.children ++ after)

def Ends (setting : Setting σ) (root : Nat) (trees : List (Tree σ)) : Prop :=
  ∃ before tree after, trees = before ++ tree :: after ∧ tree.extra = false ∧ (∀ other ∈ after, other.extra = true) ∧
    Whole setting.language setting.source root (rootOf before tree after)

private theorem forall_parts {Holds : Tree σ → Prop} {before children after : List (Tree σ)} {last : Tree σ}
    (early : ∀ tree ∈ before, Holds tree) (inner : ∀ tree ∈ children, Holds tree) (late : ∀ tree ∈ after, Holds tree)
    (final : Holds last) : ∀ tree ∈ before ++ children ++ (after ++ [last]), Holds tree := by
  intro tree member
  simp only [List.mem_append, List.mem_singleton] at member
  rcases member with (member | member) | (member | rfl)
  · exact early tree member
  · exact inner tree member
  · exact late tree member
  · exact final

section Accepted
variable (orderly : setting.language.Orderly root final) {trees : List (Tree σ)} {place : Nat} {last : Tree σ}
include orderly

/-- The tree under the accepting state and the extras around it make a tree for the whole text. -/
theorem Climb.ends (climb : Climb setting.language setting.source 1 0 trees final place)
    (token : IsToken setting.language setting.source place last) (label : last.label = .symbol 0) :
    Ends setting root (trees ++ [last]) := by
  rcases climb.to_final orderly rfl with ⟨same, -⟩ | ⟨-, before, tree, after, rfl, early, plain, named, late⟩
  · exact absurd same.symm orderly.final_ne_start
  have sounds := climb.sound
  have sound := sounds tree (by simp)
  obtain ⟨ungathered, whole, inner⟩ := sound.rule root named orderly.root_rule
  have earlySound : ∀ other ∈ before, Sound setting.language setting.source other :=
    fun other member => sounds other (by simp [member])
  have lateSound : ∀ other ∈ after, Sound setting.language setting.source other :=
    fun other member => sounds other (by simp [member])
  have lateExtra : ∀ other ∈ after ++ [last], other.extra = true := by
    intro other member
    rcases List.mem_append.mp member with member | member
    · exact late other member
    · rw [List.mem_singleton.mp member]
      exact token.ends label
  have measured : ∀ child ∈ before ++ tree.children ++ (after ++ [last]), Measured setting.source child :=
    forall_parts (fun other member => (earlySound other member).measured) (fun other => sound.measured.child)
      (fun other member => (lateSound other member).measured) token.measured
  have chain : Chain 0 (before ++ tree.children ++ (after ++ [last])) last.facts.stop := by
    obtain ⟨middle, lower, upper⟩ := climb.chain.of_append
    cases upper with
    | cons origin rest => exact (lower.append (origin ▸ inner)).append (rest.append (.single token.origin))
  have aside : ∀ other, Sound setting.language setting.source other → other.extra = true → Overt other :=
    fun other sound extra => sound.overt fun gathered => by simp [(sound.gathered gathered).1] at extra
  have overt : ∀ child ∈ before ++ tree.children ++ (after ++ [last]), Overt child :=
    forall_parts (fun other member => aside other (earlySound other member) (early other member))
      (fun other => sound.measured.overt (by rw [named]; rfl))
      (fun other member => aside other (lateSound other member) (late other member))
      ⟨by simp [label], by simp [label]⟩
  refine ⟨before, tree, after ++ [last], by simp, plain, lateExtra,
    Tree.measured_ofChildren (Nat.zero_le _) chain (fun _ => overt) measured, Tree.origin_of_chain chain (fun _ => rfl),
    .inl (Tree.label_ofChildren.trans named), ?_⟩
  intro free
  have frees := Tree.cost_of_ofChildren free
  -- An extra is no gathered error, so that it costs nothing.
  have outer : ∀ other ∈ before ++ tree.children ++ (after ++ [last]), Sound setting.language setting.source other →
      other.extra = true → other.cost = 0 := by
    intro other member sound aside
    refine frees other member fun gathered => ?_
    rw [(sound.gathered gathered).1] at aside
    cases aside
  have earlyFree : ∀ other ∈ before, other.cost = 0 := fun other member =>
    outer other (by simp [member]) (earlySound other member) (early other member)
  have lateFree : ∀ other ∈ after, other.cost = 0 := fun other member =>
    outer other (by simp [member]) (lateSound other member) (late other member)
  have derives := sound.derives (whole fun child member => frees child (by simp [member]) (ungathered child member))
  obtain ⟨facts, children⟩ := tree
  cases derives with
  | token other small =>
    exact absurd (Label.symbol.inj (named.symm.trans other) ▸ orderly.root_rule) (Nat.not_le.mpr small)
  | @rule _ _ rule _ _ _ _ fills spans track each =>
    have skipped : ∀ other, Sound setting.language setting.source other → other.cost = 0 → other.extra = true →
        ∃ token, other.label = .symbol token ∧ (setting.language.SkipsToken token ∨ token = 0) := by
      intro other sound free aside
      obtain ⟨token, label, skips⟩ := sound.extra aside free
      exact ⟨token, label, .inl skips⟩
    refine ⟨⟨rule, Label.symbol.inj (fills.label.symm.trans named), fills.listed, ?_, ?_,
      Tree.fits_between_extras early lateExtra fills.fits, ?_⟩, ?_⟩
    · exact Tree.label_ofChildren.trans fills.label
    · exact Tree.aliases_ofChildren.trans fills.aliases
    · exact forall_parts (fun other member => skipped other (earlySound other member) (earlyFree other member))
        fills.extras
        (fun other member => skipped other (lateSound other member) (lateFree other member)) fun _ => ⟨0, label, .inr rfl⟩
    · exact forall_parts (fun other member => (earlySound other member).derives (earlyFree other member)) each
        (fun other member => (lateSound other member).derives (lateFree other member))
        (token.derives_self label orderly.ends)

end Accepted

private theorem last_part {trees before after : List (Tree σ)} {tree : Tree σ} (whole : trees = before ++ tree :: after)
    (plain : tree.extra = false) (aside : ∀ other ∈ after, other.extra = true) :
    (trees.reverse.takeWhile Tree.extra).reverse = after ∧
      trees.take (trees.length - after.length) = before ++ [tree] := by
  have run : trees.reverse.takeWhile Tree.extra = after.reverse := by
    rw [whole, List.reverse_append, List.reverse_cons, List.append_assoc, List.takeWhile_append_of_pos]
    · simp [plain]
    · simpa using aside
  refine ⟨by rw [run, List.reverse_reverse], ?_⟩
  have length : trees.length - after.length = (before ++ [tree]).length := by
    rw [whole]
    simp
    omega
  have shape : trees = before ++ [tree] ++ after := by rw [whole, List.append_assoc, List.singleton_append]
  rw [length, shape]
  exact List.take_left ..

theorem Leaves.forIn (Holds : Parser σ → Prop) {items : List β} {body : β → PUnit → ParseM σ (ForInStep PUnit)}
    (each : ∀ item ∈ items, ∀ parser, Holds parser →
      Leaves (body item ⟨⟩) parser fun result next => result = .yield ⟨⟩ ∧ Holds next)
    {parser : Parser σ} (start : Holds parser) :
    Leaves (ForIn.forIn items PUnit.unit body) parser fun _ next => Holds next := by
  induction items generalizing parser with
  | nil => exact start
  | cons item items ih =>
    obtain ⟨here, later⟩ := List.forall_mem_cons.mp each
    rw [List.forIn_cons]
    apply Leaves.bind
    refine (here parser start).imp ?_
    rintro result next ⟨rfl, holds⟩
    exact ih later holds

theorem accept_leaves {parser : Parser σ} {version state place : Nat} {tail : List (Tree σ)} {lookahead : Tree σ}
    (crowned : parser.stack.Crowned setting.language setting.source version state place tail)
    (bound : version < parser.stack.heads.size) (inside : lookahead.facts.stop ≤ setting.source.size)
    (finished : ∀ tree, parser.finished = some tree → Whole setting.language setting.source root tree)
    (cache : ∀ cached, parser.cache = some cached → IsToken setting.language setting.source cached.place cached.token)
    (ends : ∀ trees, Climb setting.language setting.source 1 0 trees state place →
      Ends setting root (trees ++ (tail ++ [lookahead]))) :
    Leaves (accept version lookahead) parser fun _ next =>
      Valid setting root next ∧ Keeps version parser next := by
  unfold accept
  apply Leaves.bind
  apply Leaves.modifyStack
  apply Leaves.bind
  apply Leaves.ofStack
  obtain ⟨pushed, footing⟩ := crowned.push 1 bound inside
  have size : (parser.stack.push version (some lookahead) 1).heads.size = parser.stack.heads.size := Stack.size_push ..
  obtain ⟨stack, slices, pop, crowned, count, kept, slice⟩ := pushed.popAll (size ▸ bound)
  rw [size] at count kept slice
  have others : ∀ other < parser.stack.heads.size, other ≠ version → stack.footing other = parser.stack.footing other :=
    fun other known different => (kept other known).trans (footing other different)
  dsimp only
  rw [pop]
  apply Leaves.bind
  apply Leaves.modifyStack
  apply Leaves.bind
  -- Every slice makes a finished tree, and the better one is kept.
  refine (Leaves.forIn (fun next => next.stack = stack ∧ next.cache = parser.cache ∧
    ∀ tree, next.finished = some tree → Whole setting.language setting.source root tree) ?_ ?_).imp ?_
  · rintro item member current ⟨sameStack, sameCache, sofar⟩
    obtain ⟨-, trees, whole, climb⟩ := slice item member
    obtain ⟨before, tree, after, split, plain, aside, made⟩ := ends trees climb
    obtain ⟨last, upTo⟩ := last_part (whole.trans split) plain aside
    rw [last, upTo, List.getLast?_concat, List.dropLast_concat]
    refine ⟨rfl, sameStack, sameCache, fun other known => ?_⟩
    obtain rfl := Option.some.inj known
    split
    · rename_i earlier found
      split
      · exact made
      · exact sofar earlier found
    · exact made
  · exact ⟨rfl, rfl, finished⟩
  · rintro - next ⟨sameStack, sameCache, sofar⟩
    have done : ∀ {left : Stack σ},
        left.Crowned setting.language setting.source version state place (tail ++ [lookahead]) →
        parser.stack.heads.size ≤ left.heads.size →
        (∀ other < parser.stack.heads.size, other ≠ version → left.footing other = parser.stack.footing other) →
        Valid setting root { next with stack := left.halt version } ∧
          Keeps version parser { next with stack := left.halt version } := by
      intro left crowned count others
      refine ⟨⟨crowned.halt (by omega), sofar, sameCache ▸ cache⟩, ?_, fun other known different => ?_⟩
      · exact count.trans (Nat.le_of_eq (left.size_modifyHead version).symm)
      · exact (left.footing_setHead version other different).trans (others other known different)
    cases slices with
    | nil =>
      apply Leaves.modifyStack
      rw [sameStack]
      exact done crowned count others
    | cons first rest =>
      obtain ⟨⟨low, high⟩, -⟩ := slice first List.mem_cons_self
      apply Leaves.bind
      apply Leaves.modifyStack
      apply Leaves.modifyStack
      rw [sameStack]
      refine done (crowned.remove (by omega)) ?_ fun other known different => ?_
      · rw [stack.size_remove, if_pos high]
        omega
      · rw [stack.footing_remove, if_pos (by omega)]
        exact others other known different

variable {parser : Parser σ} {version : Nat}

theorem Valid.accept (orderly : setting.language.Orderly root final) (valid : Valid setting root parser)
    (bound : version < parser.stack.heads.size) (live : (parser.stack.footing version).live = true)
    (accepts : (parser.stack.footing version).state = final) {token : Tree σ}
    (known : IsToken setting.language setting.source (parser.stack.footing version).place token)
    (label : token.label = .symbol 0) :
    Leaves (accept version token) parser fun _ next => Valid setting root next ∧ Keeps version parser next :=
  accept_leaves (valid.stack.crowned live) bound known.measured.stop valid.finished valid.cache fun _ climb =>
    Climb.ends orderly (accepts ▸ climb) known label

theorem Valid.acceptError (valid : Valid setting root parser) (bound : version < parser.stack.heads.size)
    (live : (parser.stack.footing version).live = true) {token : Tree σ}
    (waits : Stack.Waits setting.source (parser.stack.place version) token) (aside : token.extra = true) :
    Leaves (Parser.accept version token)
      { parser with
        stack := parser.stack.push version (some (Tree.error false (parser.stack.place version) [])) 1 }
      fun _ next => Valid setting root next ∧ Keeps version parser next := by
  have inside := valid.stack.place_le version
  generalize made : Tree.error false (parser.stack.place version) [] = error
  have stop : error.facts.stop ≤ setting.source.size := made ▸ inside
  have size := parser.stack.size_push version (some error) 1
  obtain ⟨crowned, others⟩ := (valid.stack.crowned live).push 1 bound stop
  have accepted : Leaves (Parser.accept version token)
      { parser with stack := parser.stack.push version (some error) 1 } fun _ next => Valid setting root next ∧
        Keeps version { parser with stack := parser.stack.push version (some error) 1 } next := by
    refine accept_leaves crowned (size.symm ▸ bound) waits.measured.stop valid.finished valid.cache fun trees climb => ?_
    subst made
    have chain : Chain 0 (trees ++ [] ++ [token]) token.facts.stop :=
      (climb.chain.append .nil).append (.single waits.origin)
    refine ⟨trees, _, [token], rfl, rfl, by simpa using aside,
      Tree.measured_ofChildren (Nat.zero_le _) chain (fun plain => ?_) ?_, Tree.origin_of_chain chain (fun _ => rfl),
      .inr Tree.label_ofChildren, fun free => ?_⟩
    · cases plain
    · intro child member
      rcases List.mem_append.mp member with member | member
      · exact (climb.sound child (by simpa [Tree.error, Tree.children_ofChildren] using member)).measured
      · rw [List.mem_singleton.mp member]
        exact waits.measured
    · exact absurd free (Nat.ne_of_gt (Tree.cost_ofChildren_pos rfl))
  refine accepted.imp fun _ next both => ⟨both.1, .trans ⟨Nat.le_of_eq size.symm, ?_⟩ both.2⟩
  exact fun other _ different => others other different

theorem Valid.shift (valid : Valid setting root parser) (live : (parser.stack.footing version).live = true)
    {target : Nat} {token : Tree σ} {extra : Bool}
    (step : Step setting.language setting.source (parser.stack.footing version).state (parser.stack.footing version).place
      (token.withExtra extra) target token.facts.stop) :
    Leaves (shift version target token extra) parser fun _ next =>
      Valid setting root next ∧ Keeps version parser next := by
  have stop := step.stop
  have pushed : (parser.stack.push version (some (token.withExtra extra)) target).Regular
      setting.language setting.source :=
    valid.stack.push_tree live (stop.symm ▸ step)
  have keeps : Keeps version parser
      { parser with stack := parser.stack.push version (some (token.withExtra extra)) target } :=
    ⟨Nat.le_of_eq (Stack.size_push ..).symm, fun other _ different => valid.stack.footing_push different⟩
  unfold Parser.shift
  apply Leaves.bind
  apply Leaves.modifyStack
  split
  · refine ⟨valid.of_stack (pushed.modifyHead ⟨rfl, .inl rfl⟩), keeps.trans ⟨?_, fun other _ different => ?_⟩⟩
    · exact Nat.le_of_eq (Stack.size_modifyHead ..).symm
    · exact Stack.footing_setHead _ _ _ different
  · exact ⟨valid.of_stack pushed, keeps⟩

end Ends

end Parser

end SourceAtlas.Syntax
