import SourceAtlas.Proofs.ParserSteps
import SourceAtlas.Syntax.Recovery

/-! Texts that leave the parser no choice. Where there is one thing to do with each token, a single reading is
followed, and what lies on the stack is a list of trees. Its moves are described by a few rules, and a run that is made
of them ends with the tree that they lead to. -/
namespace SourceAtlas.Syntax
variable {σ : Type}

structure Rung (σ : Type) where
  tree : Tree σ
  state : Nat

namespace Rung

/-- The state above some trees. A text begins in state 1. -/
def stateAbove : List (Rung σ) → Nat
  | [] => 1
  | rung :: _ => rung.state

def placeAbove : List (Rung σ) → Nat
  | [] => 0
  | rung :: _ => rung.tree.facts.stop

def trees (rungs : List (Rung σ)) : List (Tree σ) :=
  (rungs.map Rung.tree).reverse

theorem trees_cons (rung : Rung σ) (rungs : List (Rung σ)) : trees (rung :: rungs) = trees rungs ++ [rung.tree] := by
  rw [trees, List.map_cons, List.reverse_cons, trees]

theorem mem_trees {rungs : List (Rung σ)} {tree : Tree σ} : tree ∈ trees rungs ↔ ∃ rung ∈ rungs, rung.tree = tree := by
  rw [trees, List.mem_reverse, List.mem_map]

theorem getLast?_trees (top rest : List (Rung σ)) :
    ((trees top).getLast?.map (·.facts.stop)).getD (placeAbove rest) = placeAbove (top ++ rest) := by
  cases top with
  | nil => rfl
  | cons rung top =>
    rw [trees_cons, List.getLast?_concat]
    rfl

end Rung

open Rung

def Head.below (head : Head σ) (node : Nat) : Head σ :=
  { head with node, status := .active, landings := none }

namespace Stack

/-- Below a node there are some trees one above the other, and nothing else. -/
inductive Bears (nodes : Array (StackNode σ)) : List (Rung σ) → (id : Nat) → Prop
  | base {id : Nat} {node : StackNode σ} (known : nodes[id]? = some node) (state : node.state = 1)
      (place : node.place = 0) (free : node.cost = 0) (links : node.links = []) : Bears nodes [] id
  | rung {id below : Nat} {node : StackNode σ} {rung : Rung σ} {rungs : List (Rung σ)}
      (known : nodes[id]? = some node) (state : node.state = rung.state) (place : node.place = rung.tree.facts.stop)
      (free : node.cost = 0) (links : node.links = [⟨below, some rung.tree⟩]) (lower : below < id)
      (rest : Bears nodes rungs below) : Bears nodes (rung :: rungs) id

section Bears
variable {nodes : Array (StackNode σ)} {rungs : List (Rung σ)} {id : Nat}

theorem Bears.exists_node (bears : Bears nodes rungs id) : ∃ node, nodes[id]? = some node ∧
    node.state = stateAbove rungs ∧ node.place = placeAbove rungs ∧ node.cost = 0 := by
  cases bears with
  | base known state place free => exact ⟨_, known, state, place, free⟩
  | rung known state place free => exact ⟨_, known, state, place, free⟩

theorem Bears.lt_size (bears : Bears nodes rungs id) : id < nodes.size := by
  obtain ⟨node, known, -⟩ := bears.exists_node
  exact (Array.getElem?_eq_some_iff.mp known).1

theorem Bears.length_le (bears : Bears nodes rungs id) : rungs.length ≤ id := by
  induction bears with
  | base => exact Nat.zero_le _
  | rung _ _ _ _ _ lower _ ih => exact Nat.succ_le_of_lt (Nat.lt_of_le_of_lt ih lower)

theorem Bears.push (bears : Bears nodes rungs id) (added : StackNode σ) : Bears (nodes.push added) rungs id := by
  have kept {id : Nat} {node : StackNode σ} (known : nodes[id]? = some node) : (nodes.push added)[id]? = some node := by
    rw [Array.getElem?_push_lt (Array.getElem?_eq_some_iff.mp known).1]
    exact congrArg some (Array.getElem?_eq_some_iff.mp known).2
  induction bears with
  | base known state place free links => exact .base (kept known) state place free links
  | rung known state place free links lower rest ih => exact .rung (kept known) state place free links lower ih

variable {stack : Stack σ}

theorem node_of_known {node : StackNode σ} (known : stack.nodes[id]? = some node) : stack.node id = node := by
  rw [Stack.node, Array.getD_eq_getD_getElem?, known]
  rfl

theorem Bears.pushTree (bears : Bears stack.nodes rungs id) {tree : Tree σ} (free : tree.cost = 0) (state : Nat) :
    Bears (stack.nodes.push (stack.nodeAbove id (some tree) state)) (⟨tree, state⟩ :: rungs) stack.nodes.size := by
  obtain ⟨node, known, -, -, cost⟩ := bears.exists_node
  refine .rung (Array.getElem?_push_size ..) rfl rfl ?_ rfl bears.lt_size (bears.push _)
  change (stack.node id).cost + tree.cost = 0
  rw [node_of_known known, cost, free]

end Bears

section Walks
variable {stack : Stack σ} {decide : Unit → Path σ → Unit × Verdict} {path : Path σ}

theorem walk_nil (fuel : Nat) (taken : List (Path σ)) : walk stack decide fuel [] () taken = ((), taken) := by
  cases fuel <;> rfl

theorem walk_take (fuel : Nat) (takes : decide () path = ((), .take)) :
    walk stack decide (fuel + 1) [path] () [] = ((), [path]) := by
  rw [walk]
  · simp only [walkRound, takes, List.reverse_nil, List.append_nil, List.nil_append]
    exact walk_nil fuel [path]
  · exact List.cons_ne_nil _ _

theorem walk_descend {below : Path σ} (fuel : Nat) (goes : decide () path = ((), .descend))
    (only : stack.pathsBelow path = [below]) :
    walk stack decide (fuel + 1) [path] () [] = walk stack decide fuel [below] () [] := by
  rw [walk]
  · simp [walkRound, goes, only]
  · exact List.cons_ne_nil _ _

theorem pathsBelow_rung {node : StackNode σ} {below : Nat} {tree : Tree σ} (known : stack.nodes[path.node]? = some node)
    (links : node.links = [⟨below, some tree⟩]) : stack.pathsBelow path =
      [⟨below, tree :: path.trees, if tree.extra then path.depth else path.depth + 1⟩] := by
  rw [pathsBelow, node_of_known known, links]
  rfl

theorem walk_count {top rest : List (Rung σ)} {count : Nat} (plain : ∀ rung ∈ top, rung.tree.extra = false)
    {id depth fuel : Nat} {above : List (Tree σ)} (bears : Bears stack.nodes (top ++ rest) id)
    (counted : count = depth + top.length) (long : top.length < fuel) :
    ∃ below, Bears stack.nodes rest below ∧
      (walk stack (fun _ path => ((), if path.depth = count then .take else .descend)) fuel
        [⟨id, above, depth⟩] () []).2 = [⟨below, trees top ++ above, count⟩] := by
  induction top generalizing id depth fuel above with
  | nil =>
    obtain ⟨fuel, rfl⟩ := Nat.exists_eq_add_of_lt long
    obtain rfl : count = depth := counted
    rw [List.length_nil, Nat.zero_add, walk_take fuel (by rw [if_pos rfl])]
    exact ⟨id, bears, rfl⟩
  | cons rung top ih =>
    obtain ⟨here, later⟩ := List.forall_mem_cons.mp plain
    rw [List.length_cons] at counted long
    obtain ⟨fuel, rfl⟩ := Nat.exists_eq_add_of_lt (Nat.zero_lt_of_lt long)
    cases bears with
    | rung known state place free links lower bears =>
      rw [Nat.zero_add, walk_descend fuel (by rw [if_neg (by dsimp only; omega)]) (pathsBelow_rung known links)]
      simp only [here, Bool.false_eq_true, if_false]
      obtain ⟨below, rest, taken⟩ := ih later bears (show count = depth + 1 + top.length by omega)
        (show top.length < fuel by omega)
      refine ⟨below, rest, taken.trans ?_⟩
      rw [trees_cons, List.append_assoc, List.singleton_append]

end Walks

section Popping
variable {stack : Stack σ} {head : Head σ}

theorem remove_second {nodes : Array (StackNode σ)} {first second : Head σ} :
    (Stack.mk nodes #[first, second]).remove 1 = ⟨nodes, #[first]⟩ := by
  simp [remove]

theorem renumber_second {nodes : Array (StackNode σ)} {first second : Head σ} :
    (Stack.mk nodes #[first, second]).renumber 1 0 =
      ⟨nodes, #[{ second with landings := second.landings <|> first.landings }]⟩ :=
  remove_second

theorem pop_single {decide : Unit → Path σ → Unit × Verdict} {below depth : Nat} {trees : List (Tree σ)}
    (heads : stack.heads = #[head]) (taken : (stack.walkFrom 0 decide ()).2 = [⟨below, trees, depth⟩]) :
    stack.pop 0 decide () = ({ stack with heads := #[head, head.below below] }, [⟨1, trees⟩]) := by
  have first : stack.head 0 = head := by rw [Stack.head, heads]; rfl
  simp only [pop, taken, addSlices, first, heads]
  rfl

theorem popCount_lone {top rest : List (Rung σ)} (heads : stack.heads = #[head])
    (bears : Bears stack.nodes (top ++ rest) head.node) (plain : ∀ rung ∈ top, rung.tree.extra = false) :
    ∃ below, Bears stack.nodes rest below ∧ stack.popCount 0 top.length =
      ({ stack with heads := #[head, head.below below] }, [⟨1, trees top⟩]) := by
  have first : stack.head 0 = head := by rw [Stack.head, heads]; rfl
  have long : top.length < stack.nodes.size + 1 := by
    have length := bears.length_le
    have size := bears.lt_size
    rw [List.length_append] at length
    omega
  obtain ⟨below, rest, taken⟩ := walk_count plain bears (Nat.zero_add _).symm long
  rw [List.append_nil] at taken
  have walked : (stack.walkFrom 0 (fun _ path => ((), if path.depth = top.length then Verdict.take else .descend)) ()).2 =
      [⟨below, trees top, top.length⟩] := by
    rw [walkFrom, first]
    exact taken
  exact ⟨below, rest, pop_single heads walked⟩

theorem popAll_whole {last whole : Rung σ} (heads : stack.heads = #[head])
    (bears : Bears stack.nodes [last, whole] head.node) : ∃ below, stack.popAll 0 =
      ({ stack with heads := #[head, head.below below] }, [⟨1, [whole.tree, last.tree]⟩]) := by
  have first : stack.head 0 = head := by rw [Stack.head, heads]; rfl
  have size := bears.lt_size
  have length := bears.length_le
  obtain ⟨fuel, enough⟩ : ∃ fuel, stack.nodes.size + 1 = fuel + 3 := ⟨stack.nodes.size - 2, by simp at length; omega⟩
  have walked : ∃ below depth, (stack.walkFrom 0 (fun _ path =>
      ((), if (stack.node path.node).links.isEmpty then Verdict.take else .descend)) ()).2 =
      [⟨below, [whole.tree, last.tree], depth⟩] := by
    cases bears with
    | rung lastKnown _ _ _ lastLinks _ bears =>
      cases bears with
      | rung wholeKnown _ _ _ wholeLinks _ bears =>
        cases bears with
        | base baseKnown _ _ _ baseLinks =>
          rw [walkFrom, first, enough,
            walk_descend _ (by simp [node_of_known lastKnown, lastLinks]) (pathsBelow_rung lastKnown lastLinks),
            walk_descend _ (by simp [node_of_known wholeKnown, wholeLinks]) (pathsBelow_rung wholeKnown wholeLinks),
            walk_take _ (by simp [node_of_known baseKnown, baseLinks])]
          exact ⟨_, _, rfl⟩
  obtain ⟨below, depth, walked⟩ := walked
  exact ⟨below, pop_single heads walked⟩

end Popping

end Stack

namespace Parser

/-- One reading is followed, with some trees below it. -/
structure Lone (parser : Parser σ) (rungs : List (Rung σ)) (memory : Option σ) : Prop where
  head : ∃ head, parser.stack.heads = #[head] ∧ head.status = .active ∧ head.memory = memory ∧
    Stack.Bears parser.stack.nodes rungs head.node
  unfinished : parser.finished = none

structure Over (parser : Parser σ) (root : Tree σ) : Prop where
  head : ∃ head, parser.stack.heads = #[head] ∧ head.status = .halted
  finished : parser.finished = some root

section Moves
variable {setting : Setting σ} {parser : Parser σ} {rungs : List (Rung σ)} {memory : Option σ} {token : Tree σ}

theorem Lone.shift (lone : parser.Lone rungs memory) (free : token.cost = 0) (target : Nat) :
    Leaves (shift 0 target token false) parser fun _ next =>
      next.Lone (⟨token.withExtra false, target⟩ :: rungs) (token.facts.memory <|> memory) ∧
        next.cache = parser.cache := by
  obtain ⟨⟨nodes, heads⟩, finished, count, cache⟩ := parser
  obtain ⟨⟨head, same, active, remembers, bears⟩, unfinished⟩ := lone
  obtain rfl : heads = #[head] := same
  replace bears : Stack.Bears (Stack.mk nodes #[head]).nodes rungs head.node := bears
  have pushed := bears.pushTree ((Tree.cost_withExtra token false).trans free) target
  unfold Parser.shift
  apply Leaves.bind
  apply Leaves.modifyStack
  cases known : token.facts.memory with
  | none => exact ⟨⟨⟨_, rfl, active, remembers, pushed⟩, unfinished⟩, rfl⟩
  | some learned => exact ⟨⟨⟨_, rfl, active, rfl, pushed⟩, unfinished⟩, rfl⟩

def builtTree (setting : Setting σ) (rule : Rule) (children : List (Tree σ)) (place : Nat) : Tree σ :=
  .mk { (ruleTree setting rule children place).facts with
    precedence := (ruleTree setting rule children place).facts.precedence + rule.precedence } children

theorem splitExtras_plain {trees : List (Tree σ)} (plain : ∀ tree ∈ trees, tree.extra = false) :
    Tree.splitExtras trees = (trees, []) := by
  have none : trees.reverse.takeWhile Tree.extra = [] := by
    rw [List.takeWhile_eq_nil_iff]
    intro known
    simpa using plain _ (List.mem_reverse.mp (List.getElem_mem known))
  simp [Tree.splitExtras, none]

theorem cost_builtTree {rule : Rule} {children : List (Tree σ)} {place : Nat}
    (free : ∀ child ∈ children, child.cost = 0) : (builtTree setting rule children place).cost = 0 := by
  have cost : (ruleTree setting rule children place).cost = 0 := Tree.cost_ofChildren_eq_zero rfl free
  exact cost

theorem stop_builtTree {rule : Rule} {top rest : List (Rung σ)} :
    (builtTree setting rule (trees top) (placeAbove rest)).facts.stop = placeAbove (top ++ rest) := by
  have stop : (ruleTree setting rule (trees top) (placeAbove rest)).facts.stop = _ := Tree.stop_ofChildren
  exact stop.trans (getLast?_trees top rest)

theorem plainToken_position (position : Length) (origin state : Nat) (lexeme : Lexeme) :
    plainToken setting position origin state lexeme = plainToken setting 0 origin state lexeme := by
  unfold plainToken
  simp only [measuredToken_eq]

theorem scannedToken_position (position : Length) (origin state : Nat) (scan : Scan σ) (renewed : Bool) :
    scannedToken setting position origin state scan renewed = scannedToken setting 0 origin state scan renewed := by
  unfold scannedToken
  simp only [measuredToken_eq]

variable [BEq σ]

theorem Lone.reduce {top rest : List (Rung σ)} {rule : Rule} (lone : parser.Lone (top ++ rest) memory)
    (length : top.length = rule.parts.length) (sound : ∀ rung ∈ top, rung.tree.extra = false ∧ rung.tree.cost = 0)
    (fits : Tree.fits rule.parts (trees top) = true) :
    Leaves (reduce setting 0 rule) parser fun made next => made = some 1 ∧ ∃ old new,
      next.stack.heads = #[old, new] ∧ new.status = .active ∧ new.memory = memory ∧
      Stack.Bears next.stack.nodes (⟨builtTree setting rule (trees top) (placeAbove rest),
        setting.language.next (stateAbove rest) rule.symbol⟩ :: rest) new.node ∧
      next.finished = none ∧ next.cache = parser.cache := by
  obtain ⟨⟨nodes, heads⟩, finished, count, cache⟩ := parser
  obtain ⟨⟨head, same, active, remembers, bears⟩, unfinished⟩ := lone
  obtain rfl : heads = #[head] := same
  replace bears : Stack.Bears (Stack.mk nodes #[head]).nodes (top ++ rest) head.node := bears
  have plain : ∀ tree ∈ trees top, tree.extra = false ∧ tree.cost = 0 := by
    intro tree member
    obtain ⟨rung, listed, rfl⟩ := mem_trees.mp member
    exact sound rung listed
  obtain ⟨below, lower, pop⟩ := Stack.popCount_lone rfl bears fun rung member => (sound rung member).1
  obtain ⟨node, known, state, place, -⟩ := lower.exists_node
  have chosen : chooseChildren setting rule (placeAbove rest) (trees top) [] = (trees top, []) :=
    splitExtras_plain fun tree member => (plain tree member).1
  have free : (builtTree setting rule (trees top) (placeAbove rest)).cost = 0 :=
    cost_builtTree fun tree member => (plain tree member).2
  unfold Parser.reduce
  apply Leaves.bind
  apply Leaves.ofStack
  apply Leaves.bind
  apply Leaves.ofStack
  rw [← length, pop]
  apply Leaves.bind
  apply Leaves.modifyStack
  apply Leaves.bind
  change Leaves (reduceGroups setting 0 rule [[⟨1, trees top⟩]] 0) _ _
  unfold reduceGroups
  apply Leaves.bind
  apply Leaves.ofStack
  have here : (Stack.mk nodes #[head, head.below below]).place 1 = placeAbove rest :=
    (congrArg StackNode.place (Stack.node_of_known known)).trans place
  have there : (Stack.mk nodes #[head, head.below below]).state 1 = stateAbove rest :=
    (congrArg StackNode.state (Stack.node_of_known known)).trans state
  dsimp only [Nat.sub_zero]
  rw [here, List.map_nil, chosen, if_neg (by simp [fits, stackLimits])]
  apply Leaves.bind
  apply Leaves.ofStack
  rw [there]
  have pushed := lower.pushTree free (setting.language.next (stateAbove rest) rule.symbol)
  exact ⟨rfl, _, _, rfl, rfl, remembers, pushed, unfinished, rfl⟩

omit [BEq σ] in
theorem Lone.accept {whole : Rung σ} (lone : parser.Lone [whole] memory) (plain : whole.tree.extra = false)
    (aside : token.extra = true) (free : token.cost = 0) :
    Leaves (accept 0 token) parser fun _ next => next.Over (rootOf [] whole.tree [token]) := by
  obtain ⟨⟨nodes, heads⟩, finished, count, cache⟩ := parser
  obtain ⟨⟨head, same, active, remembers, bears⟩, unfinished⟩ := lone
  obtain rfl : heads = #[head] := same
  obtain rfl : finished = none := unfinished
  replace bears : Stack.Bears (Stack.mk nodes #[head]).nodes [whole] head.node := bears
  let raised := (Stack.mk nodes #[head]).push 0 (some token) 1
  have pushed : Stack.Bears raised.nodes [⟨token, 1⟩, whole] (raised.head 0).node := bears.pushTree free 1
  obtain ⟨below, pop⟩ := Stack.popAll_whole (show raised.heads = #[raised.head 0] from rfl) pushed
  unfold Parser.accept
  apply Leaves.bind
  apply Leaves.modifyStack
  apply Leaves.bind
  apply Leaves.ofStack
  rw [pop]
  apply Leaves.bind
  apply Leaves.modifyStack
  have after : ([whole.tree, token].reverse.takeWhile Tree.extra).reverse = [token] := by
    simp [aside, plain]
  simp only [List.forIn_cons, List.forIn_nil, after]
  apply Leaves.bind
  suffices left : Leaves (modifyStack (·.remove 1) >>= fun _ => modifyStack (·.halt 0))
      ⟨⟨raised.nodes, #[raised.head 0, (raised.head 0).below below]⟩, some (rootOf [] whole.tree [token]),
        count + 1, cache⟩ fun _ next => next.Over (rootOf [] whole.tree [token]) from left
  apply Leaves.bind
  apply Leaves.modifyStack
  rw [Stack.remove_second]
  apply Leaves.modifyStack
  exact ⟨⟨_, rfl, rfl⟩, rfl⟩

/-- The token that is read in a state at a place. How far the text before it goes makes no difference. -/
inductive Reads (setting : Setting σ) (state place : Nat) (memory : Option σ) : Tree σ → Prop
  | plain {lexeme : Lexeme}
      (silent : setting.language.scan (setting.language.expected state) setting.source place memory = none)
      (found : setting.language.read (setting.language.mode state) setting.source place = .found lexeme) :
      Reads setting state place memory (plainToken setting 0 place state lexeme)
  | scanned {scan : Scan σ}
      (found : setting.language.scan (setting.language.expected state) setting.source place memory = some scan) :
      Reads setting state place memory (scannedToken setting 0 place state scan (!(memory == some scan.memory)))

def Fresh (parser : Parser σ) (place : Nat) (memory : Option σ) : Prop :=
  ∀ cached, parser.cache = some cached → (cached.place == place && cached.memory == memory) = false

theorem Reads.attemptToken {state : Nat} (reads : Reads setting state (parser.stack.place 0)
    (parser.stack.head 0).memory token) (moved : parser.stack.hasAdvanced 0 = true) :
    Leaves (attemptToken setting 0 state (setting.language.mode state) (setting.language.expected state) false) parser
      fun found next => found = .ok token ∧ next = parser := by
  unfold Parser.attemptToken scanToken
  apply Leaves.bind
  apply Leaves.ofStack
  apply Leaves.bind
  apply Leaves.ofStack
  apply Leaves.bind
  apply Leaves.bind
  apply Leaves.get
  dsimp only
  cases reads with
  | plain silent found =>
    rw [silent]
    apply Leaves.pure
    dsimp only
    rw [found]
    exact ⟨congrArg Except.ok (plainToken_position ..), rfl⟩
  | scanned found =>
    rw [found]
    apply Leaves.pure
    rw [moved]
    simp only [Bool.not_true, Bool.or_self, Bool.and_false, Bool.false_and, Bool.false_eq_true, if_false]
    exact ⟨congrArg Except.ok (scannedToken_position ..), rfl⟩

theorem Reads.readToken {state : Nat} (reads : Reads setting state (parser.stack.place 0)
    (parser.stack.head 0).memory token) (moved : parser.stack.hasAdvanced 0 = true) (alive : state ≠ 0) :
    Leaves (readToken setting 0 state) parser fun read next => read = token ∧ next = parser := by
  unfold Parser.readToken
  dsimp only
  rw [if_neg (by simpa using alive)]
  refine Leaves.bind ((reads.attemptToken moved).imp ?_)
  rintro found next ⟨rfl, rfl⟩
  exact ⟨rfl, rfl⟩

theorem Lone.nextToken (lone : parser.Lone rungs memory) (fresh : parser.Fresh (placeAbove rungs) memory)
    {state : Nat} (alive : state ≠ 0) (reads : Reads setting state (placeAbove rungs) memory token) :
    Leaves (nextToken setting 0 state) parser fun read next => read = token ∧ next.Lone rungs memory ∧
      ∃ token, next.cache = some ⟨placeAbove rungs, memory, token⟩ := by
  obtain ⟨⟨nodes, heads⟩, finished, count, cache⟩ := parser
  obtain ⟨⟨head, same, active, rfl, bears⟩, unfinished⟩ := lone
  obtain rfl : heads = #[head] := same
  obtain ⟨node, known, -, place, cost⟩ := bears.exists_node
  have here : (Stack.mk nodes #[head]).place 0 = placeAbove rungs :=
    (congrArg StackNode.place (Stack.node_of_known known)).trans place
  have moved : (Stack.mk nodes #[head]).hasAdvanced 0 = true := by
    have free : ((Stack.mk nodes #[head]).node head.node).cost = 0 :=
      (congrArg StackNode.cost (Stack.node_of_known known)).trans cost
    exact if_pos (beq_iff_eq.mpr free)
  unfold Parser.nextToken
  apply Leaves.bind
  apply Leaves.get
  apply Leaves.bind
  apply Leaves.get
  dsimp only
  have stale : (cache.filter fun cached => cached.place == (Stack.mk nodes #[head]).place 0 &&
      cached.memory == ((Stack.mk nodes #[head]).head 0).memory && reusable setting.language state cached.token) = none := by
    rw [here]
    cases cache with
    | none => rfl
    | some cached =>
      have other : (cached.place == placeAbove rungs && cached.memory == head.memory) = false := fresh cached rfl
      have first : ((Stack.mk nodes #[head]).head 0).memory = head.memory := rfl
      rw [Option.filter_some, first, other]
      rfl
  rw [stale]
  dsimp only
  apply Leaves.bind
  rw [← here] at reads ⊢
  refine (reads.readToken moved alive).imp ?_
  rintro read next ⟨rfl, rfl⟩
  exact ⟨rfl, ⟨⟨head, rfl, active, rfl, bears⟩, unfinished⟩, _, rfl⟩

end Moves

section Runs
variable [BEq σ] (setting : Setting σ) (Goal : Tree σ → Prop)

/-- From some trees, and with the token that is looked at if there is one, a single reading goes on to a tree with a
property. A token comes with a bound on the number of moves that are left to be made with it. -/
inductive Completes : List (Rung σ) → Option σ → Option (Nat × Tree σ) → Prop
  | read {count : Nat} {rungs : List (Rung σ)} {memory : Option σ} {token : Tree σ} (few : count ≤ 100)
      (alive : stateAbove rungs ≠ 0) (reads : Reads setting (stateAbove rungs) (placeAbove rungs) memory token)
      (further : Completes rungs memory (some (count, token))) : Completes rungs memory none
  | reduce {count : Nat} {memory : Option σ} {token : Tree σ} {rule : Rule} {more : List Action}
      (top rest : List (Rung σ))
      (listed : actionsFor setting.language (stateAbove (top ++ rest)) token = .reduce rule :: more)
      (alone : ∀ action ∈ more, ∃ target, action = .shift target true)
      (length : top.length = rule.parts.length) (sound : ∀ rung ∈ top, rung.tree.extra = false ∧ rung.tree.cost = 0)
      (fits : Tree.fits rule.parts (trees top) = true)
      (further : Completes (⟨builtTree setting rule (trees top) (placeAbove rest),
        setting.language.next (stateAbove rest) rule.symbol⟩ :: rest) memory (some (count, token))) :
      Completes (top ++ rest) memory (some (count + 1, token))
  | shift {count target : Nat} {rungs : List (Rung σ)} {memory : Option σ} {token : Tree σ}
      (listed : actionsFor setting.language (stateAbove rungs) token = [.shift target false]) (free : token.cost = 0)
      (inside : token.facts.stop ≤ setting.source.size)
      (moves : placeAbove rungs < token.facts.stop ∨
        placeAbove rungs = token.facts.stop ∧ memory = none ∧ token.facts.memory.isSome = true)
      (further : Completes (⟨token.withExtra false, target⟩ :: rungs) (token.facts.memory <|> memory) none) :
      Completes rungs memory (some (count + 1, token))
  | accept {count : Nat} {whole : Rung σ} {memory : Option σ} {token : Tree σ}
      (listed : actionsFor setting.language whole.state token = [.accept]) (plain : whole.tree.extra = false)
      (aside : token.extra = true) (free : token.cost = 0) (goal : Goal (rootOf [] whole.tree [token])) :
      Completes [whole] memory (some (count + 1, token))

structure Ready (parser : Parser σ) (rungs : List (Rung σ)) (memory : Option σ) : Prop where
  lone : parser.Lone rungs memory
  fresh : parser.Fresh (placeAbove rungs) memory

def Advances (fuel : Nat) : Nat → List (Rung σ) → Option σ → Prop
  | 0, _, _ => False
  | count + 1, rungs, memory => ∀ parser, Ready parser rungs memory →
    Leaves (advance setting 0 fuel) parser fun _ next => (∃ root, Goal root ∧ next.Over root) ∨
      ∃ rungs memory, next.Ready rungs memory ∧ Advances fuel count rungs memory

def Goes (fuel count : Nat) (parser : Parser σ) : Prop :=
  (∃ root, Goal root ∧ parser.Over root) ∨
    ∃ rungs memory, parser.Ready rungs memory ∧ Advances setting Goal fuel count rungs memory

def remaining (rungs : List (Rung σ)) (memory : Option σ) : Nat :=
  2 * (setting.source.size - placeAbove rungs) + if memory.isNone then 1 else 0

def Follows (fuel : Nat) (rungs : List (Rung σ)) (memory : Option σ) : Option (Nat × Tree σ) → Prop
  | none => ∃ count ≤ remaining setting rungs memory, Advances setting Goal fuel (count + 1) rungs memory
  | some (bound, token) => ∃ count ≤ remaining setting rungs memory, ∀ parser left, parser.Lone rungs memory →
    (∃ token, parser.cache = some ⟨placeAbove rungs, memory, token⟩) → bound ≤ left →
    Leaves (useToken setting 0 left token (actionsFor setting.language (stateAbove rungs) token)) parser
      fun _ next => Goes setting Goal fuel count next

variable {setting Goal} {parser : Parser σ} {rungs : List (Rung σ)} {memory : Option σ} {token : Tree σ}

omit [BEq σ] in
theorem Lone.state (lone : parser.Lone rungs memory) : parser.stack.state 0 = stateAbove rungs := by
  obtain ⟨head, heads, -, -, bears⟩ := lone.head
  obtain ⟨node, known, state, -⟩ := bears.exists_node
  have first : parser.stack.head 0 = head := by rw [Stack.head, heads]; rfl
  rw [Stack.state, Stack.top, first, Stack.node_of_known known, state]

theorem tryActions_repeating {state : Nat} {actions : List Action} {last : Option Nat}
    (repeating : ∀ action ∈ actions, ∃ target, action = .shift target true) :
    Leaves (tryActions setting 0 state token actions last) parser fun outcome next =>
      outcome = some last ∧ next = parser := by
  induction actions with
  | nil => exact ⟨rfl, rfl⟩
  | cons action actions ih =>
    obtain ⟨⟨target, rfl⟩, later⟩ := List.forall_mem_cons.mp repeating
    exact ih later

theorem Lone.useToken_reduce {top rest : List (Rung σ)} {rule : Rule} {more : List Action} {left : Nat}
    {post : Unit → Parser σ → Prop} (lone : parser.Lone (top ++ rest) memory)
    (alone : ∀ action ∈ more, ∃ target, action = .shift target true) (length : top.length = rule.parts.length)
    (sound : ∀ rung ∈ top, rung.tree.extra = false ∧ rung.tree.cost = 0)
    (fits : Tree.fits rule.parts (trees top) = true)
    (further : ∀ next : Parser σ, next.Lone (⟨builtTree setting rule (trees top) (placeAbove rest),
        setting.language.next (stateAbove rest) rule.symbol⟩ :: rest) memory → next.cache = parser.cache →
      Leaves (useToken setting 0 left token (actionsFor setting.language
        (setting.language.next (stateAbove rest) rule.symbol) token)) next post) :
    Leaves (useToken setting 0 (left + 1) token (.reduce rule :: more)) parser post := by
  unfold useToken
  apply Leaves.bind
  apply Leaves.ofStack
  apply Leaves.bind
  unfold tryActions
  apply Leaves.bind
  refine (lone.reduce length sound fits).imp ?_
  rintro made ⟨⟨nodes, heads⟩, finished, finishedCount, cache⟩
    ⟨rfl, old, new, same, active, remembers, bears, unfinished, kept⟩
  obtain rfl : heads = #[old, new] := same
  refine (tryActions_repeating alone).imp ?_
  rintro outcome next ⟨rfl, rfl⟩
  apply Leaves.bind
  apply Leaves.modifyStack
  dsimp only
  rw [Stack.renumber_second]
  have moved : Lone ⟨⟨nodes, #[{ new with landings := new.landings <|> old.landings }]⟩, finished, finishedCount, cache⟩
      (⟨builtTree setting rule (trees top) (placeAbove rest),
        setting.language.next (stateAbove rest) rule.symbol⟩ :: rest) memory :=
    ⟨⟨_, rfl, active, remembers, bears⟩, unfinished⟩
  apply Leaves.bind
  apply Leaves.ofStack
  rw [moved.state]
  exact further _ moved kept

theorem Completes.follows {fuel : Nat} (enough : 100 ≤ fuel) {pending : Option (Nat × Tree σ)}
    (completes : Completes setting Goal rungs memory pending) : Follows setting Goal fuel rungs memory pending := by
  induction completes with
  | @read bound rungs memory token few alive reads further ih =>
    obtain ⟨count, small, follows⟩ := ih
    refine ⟨count, small, fun parser ready => ?_⟩
    unfold advance
    apply Leaves.bind
    apply Leaves.ofStack
    rw [ready.lone.state]
    apply Leaves.bind
    refine (ready.lone.nextToken ready.fresh alive reads).imp ?_
    rintro read next ⟨rfl, lone, cached⟩
    exact follows next fuel lone cached (Nat.le_trans few enough)
  | @reduce bound memory token rule more top rest listed alone length sound fits further ih =>
    obtain ⟨count, small, follows⟩ := ih
    have place : placeAbove (⟨builtTree setting rule (trees top) (placeAbove rest),
        setting.language.next (stateAbove rest) rule.symbol⟩ :: rest) = placeAbove (top ++ rest) := stop_builtTree
    refine ⟨count, by rwa [remaining, ← place], fun parser left lone cached enough => ?_⟩
    obtain ⟨left, rfl⟩ := Nat.exists_eq_add_of_lt (Nat.lt_of_lt_of_le (Nat.succ_pos bound) enough)
    rw [Nat.zero_add] at enough ⊢
    rw [listed]
    refine lone.useToken_reduce alone length sound fits fun next lone kept => ?_
    exact follows next left lone (by rw [kept, place]; exact cached) (Nat.le_of_succ_le_succ enough)
  | @shift bound target rungs memory token listed free inside moves further ih =>
    obtain ⟨count, small, advances⟩ := ih
    have fewer : count + 1 ≤ remaining setting rungs memory := by
      have place : placeAbove (⟨token.withExtra false, target⟩ :: rungs) = token.facts.stop := Tree.stop_withExtra ..
      unfold remaining at small ⊢
      rw [place] at small
      rcases moves with moves | ⟨same, rfl, learned⟩
      · split at small <;> split <;> omega
      · obtain ⟨_, learned⟩ := Option.isSome_iff_exists.mp learned
        rw [learned, ← same] at small
        exact Nat.succ_le_succ small
    refine ⟨count + 1, fewer, fun parser left lone cached enough => ?_⟩
    obtain ⟨left, rfl⟩ := Nat.exists_eq_add_of_lt (Nat.lt_of_lt_of_le (Nat.succ_pos bound) enough)
    rw [listed]
    unfold useToken
    apply Leaves.bind
    apply Leaves.ofStack
    refine Leaves.bind (Leaves.bind ((lone.shift free target).imp ?_))
    rintro - next ⟨lone, kept⟩
    refine .inr ⟨_, _, ⟨lone, fun other known => ?_⟩, advances⟩
    obtain ⟨_, cached⟩ := cached
    obtain rfl := Option.some.inj ((kept.trans cached).symm.trans known)
    rw [Bool.and_eq_false_iff]
    rcases moves with moves | ⟨-, rfl, learned⟩
    · exact .inl (beq_eq_false_iff_ne.mpr (Nat.ne_of_lt (Nat.lt_of_lt_of_eq moves (Tree.stop_withExtra ..).symm)))
    · obtain ⟨_, learned⟩ := Option.isSome_iff_exists.mp learned
      rw [learned]
      exact .inr rfl
  | @accept bound whole memory token listed plain aside free goal =>
    refine ⟨0, Nat.zero_le _, fun parser left lone cached enough => ?_⟩
    obtain ⟨left, rfl⟩ := Nat.exists_eq_add_of_lt (Nat.lt_of_lt_of_le (Nat.succ_pos bound) enough)
    rw [stateAbove, listed]
    unfold useToken
    apply Leaves.bind
    apply Leaves.ofStack
    refine Leaves.bind (Leaves.bind ((lone.accept plain aside free).imp ?_))
    exact fun _ next done => .inl ⟨_, goal, done⟩

theorem Ready.standing (ready : parser.Ready rungs memory) :
    Leaves (standing 0) parser fun _ next => next.Ready rungs memory := by
  obtain ⟨⟨nodes, heads⟩, finished, count, cache⟩ := parser
  obtain ⟨⟨⟨head, same, active, remembers, bears⟩, unfinished⟩, fresh⟩ := ready
  obtain rfl : heads = #[head] := same
  exact ⟨⟨⟨_, rfl, active, remembers, bears⟩, unfinished⟩, fresh⟩

theorem Ready.size (ready : parser.Ready rungs memory) : parser.stack.heads.size = 1 := by
  obtain ⟨head, heads, -⟩ := ready.lone.head
  rw [heads]
  rfl

theorem Ready.condense (ready : parser.Ready rungs memory) :
    Leaves (condense setting) parser fun _ next => next.Ready rungs memory := by
  have thinned : Leaves (condenseFrom (999 + 1) 0 none) parser fun _ next => next.Ready rungs memory := by
    unfold condenseFrom
    apply Leaves.bind
    apply Leaves.get
    obtain ⟨head, heads, active, -⟩ := ready.lone.head
    have first : parser.stack.head 0 = head := by rw [Stack.head, heads]; rfl
    dsimp only
    have going : ¬ (Status.active : Status σ).isHalted = true := Bool.false_ne_true
    rw [ready.size, first, active, if_neg (by decide), if_neg going]
    apply Leaves.bind
    refine ready.standing.imp fun own next ready => ?_
    apply Leaves.bind
    unfold condenseFrom.against
    rw [if_pos (Nat.le_refl 0)]
    apply Leaves.pure
    unfold condenseFrom
    apply Leaves.bind
    apply Leaves.get
    dsimp only
    rw [ready.size, if_pos (by decide)]
    exact ready
  unfold Parser.condense
  apply Leaves.bind
  refine thinned.imp fun least next ready => ?_
  obtain ⟨⟨nodes, heads⟩, finished, count, cache⟩ := next
  obtain ⟨⟨⟨head, same, active, remembers, bears⟩, unfinished⟩, fresh⟩ := ready
  obtain rfl : heads = #[head] := same
  apply Leaves.bind
  apply Leaves.modifyStack
  apply Leaves.bind
  apply Leaves.ofStack
  change Leaves (resumeFrom setting 2 0 1 false least) ⟨⟨nodes, #[head]⟩, finished, count, cache⟩ _
  unfold resumeFrom
  rw [if_neg (by decide)]
  apply Leaves.bind
  apply Leaves.get
  have first : (Stack.mk nodes #[head]).head 0 = head := rfl
  dsimp only
  rw [first, active]
  exact ⟨⟨⟨head, rfl, active, remembers, bears⟩, unfinished⟩, fresh⟩

theorem Over.condense {root : Tree σ} (done : parser.Over root) :
    Leaves (condense setting) parser fun least next => least = none ∧ next.finished = some root := by
  obtain ⟨⟨nodes, heads⟩, finished, count, cache⟩ := parser
  obtain ⟨⟨head, same, halted⟩, known⟩ := done
  obtain rfl : heads = #[head] := same
  have gone : (Stack.mk nodes #[head]).remove 0 = ⟨nodes, #[]⟩ := by simp [Stack.remove]
  have first : (Stack.mk nodes #[head]).head 0 = head := rfl
  have thinned : Leaves (condenseFrom (999 + 1) 0 none) ⟨⟨nodes, #[head]⟩, finished, count, cache⟩ fun least next =>
      least = none ∧ next = ⟨⟨nodes, #[]⟩, finished, count, cache⟩ := by
    unfold condenseFrom
    apply Leaves.bind
    apply Leaves.get
    dsimp only
    rw [first, halted, if_neg (show ¬ #[head].size ≤ 0 from nofun),
      if_pos (show (Status.halted : Status σ).isHalted = true from rfl)]
    apply Leaves.bind
    apply Leaves.modifyStack
    dsimp only
    rw [gone]
    exact ⟨rfl, rfl⟩
  unfold Parser.condense
  apply Leaves.bind
  refine thinned.imp ?_
  rintro least next ⟨rfl, rfl⟩
  exact ⟨rfl, known⟩

theorem Ready.active (ready : parser.Ready rungs memory) : parser.stack.isActive 0 = true := by
  obtain ⟨head, heads, active, -⟩ := ready.lone.head
  have first : parser.stack.head 0 = head := by rw [Stack.head, heads]; rfl
  rw [Stack.isActive, first, active]
  rfl

omit [BEq σ] in
theorem Over.inactive {root : Tree σ} (done : parser.Over root) : parser.stack.isActive 0 = false := by
  obtain ⟨head, heads, halted⟩ := done.head
  have first : parser.stack.head 0 = head := by rw [Stack.head, heads]; rfl
  rw [Stack.isActive, first, halted]
  rfl

theorem Over.advanceReading {root : Tree σ} (done : parser.Over root) (fuel steps last : Nat) :
    Leaves (advanceReading setting fuel steps 0 last) parser fun _ next => next = parser := by
  cases steps with
  | zero => exact rfl
  | succ steps =>
    unfold Parser.advanceReading
    apply Leaves.bind
    apply Leaves.ofStack
    rw [done.inactive, if_neg Bool.false_ne_true]
    exact rfl

theorem Advances.advanceReading {fuel count steps : Nat} (advances : Advances setting Goal fuel count rungs memory)
    (ready : parser.Ready rungs memory) (some : 0 < steps) (last : Nat) :
    Leaves (advanceReading setting fuel steps 0 last) parser fun _ next =>
      ∃ less, less < count ∧ Goes setting Goal fuel less next := by
  induction steps generalizing count parser rungs memory last with
  | zero => exact absurd some (Nat.lt_irrefl 0)
  | succ steps ih =>
    cases count with
    | zero => exact advances.elim
    | succ count =>
      unfold Parser.advanceReading
      apply Leaves.bind
      apply Leaves.ofStack
      rw [ready.active, if_pos rfl]
      apply Leaves.bind
      refine (advances parser ready).imp fun _ next goes => ?_
      apply Leaves.bind
      apply Leaves.ofStack
      split
      · exact ⟨count, Nat.lt_succ_self count, goes⟩
      · rcases goes with ⟨root, goal, done⟩ | ⟨rungs, memory, ready, advances⟩
        · refine (done.advanceReading fuel steps last).imp ?_
          rintro _ _ rfl
          exact ⟨count, Nat.lt_succ_self count, .inl ⟨root, goal, done⟩⟩
        · rcases Nat.eq_zero_or_pos steps with rfl | more
          · exact ⟨count, Nat.lt_succ_self count, .inr ⟨rungs, memory, ready, advances⟩⟩
          · refine (ih advances ready more last).imp ?_
            rintro _ _ ⟨less, fewer, goes⟩
            exact ⟨less, Nat.lt_succ_of_lt fewer, goes⟩

theorem Goes.size {fuel count : Nat} (goes : Goes setting Goal fuel count parser) : parser.stack.heads.size = 1 := by
  rcases goes with ⟨root, -, done⟩ | ⟨rungs, memory, ready, -⟩
  · obtain ⟨head, heads, -⟩ := done.head
    rw [heads]
    rfl
  · exact ready.size

theorem Advances.rounds {fuel count steps : Nat} (advances : Advances setting Goal fuel count rungs memory)
    (ready : parser.Ready rungs memory) (enough : count ≤ steps) (some : 0 < fuel) (last : Nat) :
    Leaves (rounds setting fuel steps last) parser fun _ next => ∃ root, Goal root ∧ next.finished = .some root := by
  induction steps generalizing count parser rungs memory last with
  | zero =>
    obtain rfl : count = 0 := Nat.le_zero.mp enough
    exact advances.elim
  | succ steps ih =>
    have moved : Leaves (advanceAll setting fuel fuel 0 last) parser fun _ next =>
        ∃ less, less < count ∧ Goes setting Goal fuel less next := by
      obtain ⟨more, rfl⟩ : ∃ more, fuel = more + 1 := ⟨fuel - 1, by omega⟩
      unfold advanceAll
      apply Leaves.bind
      apply Leaves.ofStack
      rw [ready.size, if_pos Nat.one_pos]
      apply Leaves.bind
      refine (advances.advanceReading ready (Nat.succ_pos more) last).imp fun last next moved => ?_
      obtain ⟨less, fewer, goes⟩ := moved
      cases more with
      | zero => exact ⟨less, fewer, goes⟩
      | succ more =>
        unfold advanceAll
        apply Leaves.bind
        apply Leaves.ofStack
        rw [goes.size, if_neg (Nat.lt_irrefl 1)]
        exact ⟨less, fewer, goes⟩
    unfold Parser.rounds
    apply Leaves.bind
    refine moved.imp fun last next moved => ?_
    obtain ⟨less, fewer, goes⟩ := moved
    apply Leaves.bind
    apply Leaves.ofStack
    rw [goes.size]
    apply Leaves.bind
    rcases goes with ⟨root, goal, done⟩ | ⟨rungs, memory, ready, advances⟩
    · refine done.condense.imp ?_
      rintro least final ⟨rfl, finished⟩
      apply Leaves.bind
      apply Leaves.get
      rw [finished]
      exact ⟨root, goal, finished⟩
    · refine ready.condense.imp fun least thinned ready => ?_
      apply Leaves.bind
      apply Leaves.get
      rw [ready.lone.unfinished]
      exact ih advances ready (by omega) last

end Runs

theorem Completes.parse [BEq σ] {language : Language σ} {source : Source} {Goal : Tree σ → Prop}
    (completes : Completes ⟨language, source⟩ Goal [] none none) : Goal (Parser.parse language source) := by
  have size : fuelFor source = 1000 * (source.size + 100) := rfl
  unfold Parser.parse
  dsimp only
  generalize fuelFor source = fuel at size
  obtain ⟨count, small, advances⟩ := completes.follows (show 100 ≤ fuel by omega)
  have ready : Ready (Parser.start : Parser σ) [] none :=
    ⟨⟨⟨_, rfl, rfl, rfl, .base rfl rfl rfl rfl rfl⟩, rfl⟩, nofun⟩
  have enough : count + 1 ≤ fuel := by
    simp only [remaining, placeAbove, Option.isNone_none, if_true] at small
    omega
  obtain ⟨root, goal, finished⟩ := advances.rounds ready enough (by omega) 0
  have final : ((rounds ⟨language, source⟩ fuel fuel 0).run Parser.start).2.finished = some root := finished
  rw [final]
  exact goal

end Parser

end SourceAtlas.Syntax
