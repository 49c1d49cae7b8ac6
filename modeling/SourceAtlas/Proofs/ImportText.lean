import SourceAtlas.Python.Import
import Mathlib.Data.List.Basic

/-! The written form of an import is its content: names that have none of the characters used for
joining can be told apart again, in lists of any length, also where they are spelled like the words
of the form itself. -/
namespace SourceAtlas.Python
open SourceAtlas.Syntax

section Joining
variable {mark : Char} {gap : List Char}

theorem append_mark_inj {left right rest more : List Char} (free : mark ∉ left) (otherFree : mark ∉ right)
    (same : left ++ mark :: rest = right ++ mark :: more) : left = right ∧ rest = more := by
  induction left generalizing right with
  | nil =>
    cases right with
    | nil => exact ⟨rfl, (List.cons.inj same).2⟩
    | cons c right => exact absurd (List.cons.inj same).1 (List.ne_of_not_mem_cons otherFree)
  | cons c left ih =>
    cases right with
    | nil => exact absurd (List.cons.inj same).1.symm (List.ne_of_not_mem_cons free)
    | cons d right =>
      obtain ⟨rfl, tails⟩ := List.cons.inj same
      obtain ⟨rfl, rests⟩ := ih (List.not_mem_of_not_mem_cons free) (List.not_mem_of_not_mem_cons otherFree) tails
      exact ⟨rfl, rests⟩

theorem intercalate_mark_inj {parts others : List (List Char)} (nonempty : parts ≠ []) (otherNonempty : others ≠ [])
    (free : ∀ part ∈ parts, mark ∉ part) (otherFree : ∀ part ∈ others, mark ∉ part)
    (same : (mark :: gap).intercalate parts = (mark :: gap).intercalate others) : parts = others := by
  induction parts generalizing others with
  | nil => exact absurd rfl nonempty
  | cons part parts ih =>
    obtain ⟨other, others, rfl⟩ := List.exists_cons_of_ne_nil otherNonempty
    have partFree := free part List.mem_cons_self
    have otherPartFree := otherFree other List.mem_cons_self
    cases parts with
    | nil =>
      cases others with
      | nil => simpa using same
      | cons second rest =>
        rw [List.intercalate_singleton, List.intercalate_cons_cons] at same
        rw [same] at partFree
        exact absurd (by simp) partFree
    | cons second rest =>
      cases others with
      | nil =>
        rw [List.intercalate_singleton, List.intercalate_cons_cons] at same
        rw [← same] at otherPartFree
        exact absurd (by simp) otherPartFree
      | cons otherSecond otherRest =>
        simp only [List.intercalate_cons_cons, List.append_assoc, List.cons_append] at same
        obtain ⟨rfl, tails⟩ := append_mark_inj partFree otherPartFree same
        have later := ih (by simp) (by simp) (fun part inside => free part (List.mem_cons_of_mem _ inside))
          (fun part inside => otherFree part (List.mem_cons_of_mem _ inside)) (List.append_cancel_left tails)
        rw [later]

theorem mem_of_mem_intercalate {separator : List Char} {parts : List (List Char)} {c : Char}
    (member : c ∈ separator.intercalate parts) : c ∈ separator ∨ ∃ part ∈ parts, c ∈ part := by
  induction parts with
  | nil => cases member
  | cons part parts ih =>
    cases parts with
    | nil => exact .inr ⟨part, List.mem_cons_self, by simpa using member⟩
    | cons second rest =>
      rw [List.intercalate_cons_cons, List.mem_append, List.mem_append] at member
      rcases member with (here | between) | later
      · exact .inr ⟨part, List.mem_cons_self, here⟩
      · exact .inl between
      · obtain between | ⟨other, inside, there⟩ := ih later
        · exact .inl between
        · exact .inr ⟨other, List.mem_cons_of_mem _ inside, there⟩

end Joining

section Names

def joints : List Char := [' ', '.', ',', '*']

def Plain (name : String) : Prop :=
  name ≠ "" ∧ ∀ c ∈ joints, c ∉ name.toList

instance (name : String) : Decidable (Plain name) :=
  decidable_of_iff (name ≠ "" ∧ joints.all (fun c => !name.toList.contains c) = true) (by simp [Plain])

/-- All names of a target are plain, and it has one. -/
structure Target.WellNamed (target : Target) : Prop where
  nonempty : target.name ≠ []
  name : ∀ part ∈ target.name, Plain part
  localName : ∀ part ∈ target.localName, Plain part

structure AllWellNamed (targets : List Target) : Prop where
  nonempty : targets ≠ []
  each : ∀ target ∈ targets, target.WellNamed

def Selection.WellNamed : Selection → Prop
  | .everything => True
  | .targets chosen => AllWellNamed chosen

def Import.WellNamed : Import → Prop
  | .modules targets => AllWellNamed targets
  | .names _ module selection => (∀ part ∈ module, Plain part) ∧ selection.WellNamed

theorem toList_dotted (names : List String) :
    (dotted names).toList = ['.'].intercalate (names.map String.toList) := by
  simp [dotted, String.toList_intercalate]

theorem not_mem_dotted {names : List String} {c : Char} (joint : c ∈ joints) (other : c ≠ '.')
    (plain : ∀ name ∈ names, Plain name) : c ∉ (dotted names).toList := by
  rw [toList_dotted]
  intro member
  rcases mem_of_mem_intercalate member with between | ⟨part, inside, here⟩
  · exact other (List.mem_singleton.mp between)
  · obtain ⟨name, known, rfl⟩ := List.mem_map.mp inside
    exact (plain name known).2 c joint here

theorem dotted_inj {names others : List String} (nonempty : names ≠ []) (otherNonempty : others ≠ [])
    (plain : ∀ name ∈ names, Plain name) (otherPlain : ∀ name ∈ others, Plain name)
    (same : (dotted names).toList = (dotted others).toList) : names = others := by
  have free {names : List String} (plain : ∀ name ∈ names, Plain name) :
      ∀ part ∈ names.map String.toList, '.' ∉ part := by
    intro part inside
    obtain ⟨name, known, rfl⟩ := List.mem_map.mp inside
    exact (plain name known).2 '.' (by decide)
  rw [toList_dotted, toList_dotted] at same
  have lists := intercalate_mark_inj (by simpa using nonempty) (by simpa using otherNonempty) (free plain)
    (free otherPlain) same
  exact List.map_injective_iff.mpr (fun _ _ => String.toList_inj.mp) lists

theorem dotted_eq_cons {names : List String} (nonempty : names ≠ []) (plain : ∀ name ∈ names, Plain name) :
    ∃ c rest, (dotted names).toList = c :: rest ∧ c ≠ '.' := by
  obtain ⟨name, names, rfl⟩ := List.exists_cons_of_ne_nil nonempty
  obtain ⟨filled, free⟩ := plain name List.mem_cons_self
  obtain ⟨c, rest, chars⟩ := List.exists_cons_of_ne_nil (mt String.toList_eq_nil_iff.mp filled)
  have first : c ≠ '.' := by
    rintro rfl
    exact free '.' (by decide) (by simp [chars])
  cases names with
  | nil => exact ⟨c, rest, by simp [toList_dotted, chars], first⟩
  | cons second names =>
    exact ⟨c, _, by rw [toList_dotted, List.map_cons, List.map_cons, List.intercalate_cons_cons, chars]; rfl, first⟩

end Names

section Targets

def Target.renaming (target : Target) : List Char :=
  match target.localName with
  | none => []
  | some name => ' ' :: ("as ".toList ++ name.toList)

theorem Target.toList_render (target : Target) :
    target.render.toList = (dotted target.name).toList ++ target.renaming := by
  unfold Target.render Target.renaming
  cases target.localName with
  | none => simp
  | some name => simp [String.toList_append]

namespace Target.WellNamed
variable {target other : Target} (named : target.WellNamed)
include named

theorem not_mem_render {c : Char} (mark : c = ',' ∨ c = '*') : c ∉ target.render.toList := by
  have joint : c ∈ joints := by rcases mark with rfl | rfl <;> decide
  have dotless : c ≠ '.' := by rcases mark with rfl | rfl <;> decide
  have word : c ∉ " as ".toList := by rcases mark with rfl | rfl <;> decide
  rw [Target.toList_render, List.mem_append, not_or]
  refine ⟨not_mem_dotted joint dotless named.name, ?_⟩
  unfold Target.renaming
  cases known : target.localName with
  | none => simp
  | some name =>
    intro member
    rcases List.mem_append.mp (show c ∈ " as ".toList ++ name.toList from member) with inside | inside
    · exact word inside
    · exact (named.localName name known).2 c joint inside

theorem render_inj (otherNamed : other.WellNamed) (same : target.render.toList = other.render.toList) :
    target = other := by
  rw [Target.toList_render, Target.toList_render] at same
  have free := not_mem_dotted (c := ' ') (by decide) (by decide) named.name
  have otherFree := not_mem_dotted (c := ' ') (by decide) (by decide) otherNamed.name
  obtain ⟨name, localName⟩ := target
  obtain ⟨otherName, otherLocalName⟩ := other
  have names (same : (dotted name).toList = (dotted otherName).toList) : name = otherName :=
    dotted_inj named.nonempty otherNamed.nonempty named.name otherNamed.name same
  cases localName with
  | none =>
    cases otherLocalName with
    | none =>
      simp only [Target.renaming, List.append_nil] at same
      rw [names same]
    | some otherLocal =>
      simp only [Target.renaming, List.append_nil] at same
      rw [same] at free
      exact absurd (by simp) free
  | some own =>
    cases otherLocalName with
    | none =>
      simp only [Target.renaming, List.append_nil] at same
      rw [← same] at otherFree
      exact absurd (by simp) otherFree
    | some otherLocal =>
      obtain ⟨dots, locals⟩ := append_mark_inj free otherFree same
      rw [names dots, String.toList_inj.mp (List.append_cancel_left locals)]

end Target.WellNamed

theorem toList_renderAll (targets : List Target) :
    (Target.renderAll targets).toList = [',', ' '].intercalate (targets.map fun target => target.render.toList) := by
  simp [Target.renderAll, String.toList_intercalate, Function.comp_def]

theorem map_render_inj {targets others : List Target} (named : ∀ target ∈ targets, target.WellNamed)
    (otherNamed : ∀ target ∈ others, target.WellNamed)
    (same : targets.map (fun target => target.render.toList) = others.map fun target => target.render.toList) :
    targets = others := by
  induction targets generalizing others with
  | nil => exact (List.map_eq_nil_iff.mp same.symm).symm
  | cons target targets ih =>
    cases others with
    | nil => cases same
    | cons other others =>
      obtain ⟨first, rest⟩ := List.cons.inj same
      rw [(named target List.mem_cons_self).render_inj (otherNamed other List.mem_cons_self) first,
        ih (fun target inside => named target (List.mem_cons_of_mem _ inside))
          (fun target inside => otherNamed target (List.mem_cons_of_mem _ inside)) rest]

namespace AllWellNamed
variable {targets others : List Target} (named : AllWellNamed targets)
include named

theorem renderAll_inj (otherNamed : AllWellNamed others)
    (same : (Target.renderAll targets).toList = (Target.renderAll others).toList) : targets = others := by
  have free {targets : List Target} (named : AllWellNamed targets) :
      ∀ part ∈ targets.map fun target => target.render.toList, ',' ∉ part := by
    intro part inside
    obtain ⟨target, known, rfl⟩ := List.mem_map.mp inside
    exact (named.each target known).not_mem_render (.inl rfl)
  rw [toList_renderAll, toList_renderAll] at same
  have lists := intercalate_mark_inj (by simpa using named.nonempty) (by simpa using otherNamed.nonempty) (free named)
    (free otherNamed) same
  exact map_render_inj named.each otherNamed.each lists

theorem renderAll_ne_star : (Target.renderAll targets).toList ≠ ['*'] := by
  intro same
  have member : '*' ∈ (Target.renderAll targets).toList := by simp [same]
  rw [toList_renderAll] at member
  rcases mem_of_mem_intercalate member with between | ⟨part, inside, here⟩
  · simp at between
  · obtain ⟨target, known, rfl⟩ := List.mem_map.mp inside
    exact (named.each target known).not_mem_render (.inr rfl) here

end AllWellNamed

end Targets

section Imports

def Selection.render : Selection → String
  | .everything => "*"
  | .targets chosen => Target.renderAll chosen

theorem Selection.WellNamed.render_inj {selection other : Selection} (named : selection.WellNamed)
    (otherNamed : other.WellNamed) (same : selection.render.toList = other.render.toList) : selection = other := by
  cases selection with
  | everything =>
    cases other with
    | everything => rfl
    | targets others => exact absurd same.symm (AllWellNamed.renderAll_ne_star otherNamed)
  | targets chosen =>
    cases other with
    | everything => exact absurd same (AllWellNamed.renderAll_ne_star named)
    | targets others => rw [AllWellNamed.renderAll_inj named otherNamed same]

theorem leading_dots_inj {dots otherDots : Nat} {names others : List String} (plain : ∀ name ∈ names, Plain name)
    (otherPlain : ∀ name ∈ others, Plain name)
    (same : List.replicate dots '.' ++ (dotted names).toList = List.replicate otherDots '.' ++ (dotted others).toList) :
    dots = otherDots ∧ names = others := by
  have lead {dots : Nat} {names : List String} (plain : ∀ name ∈ names, Plain name) :
      (List.replicate dots '.' ++ (dotted names).toList).takeWhile (· = '.') = List.replicate dots '.' := by
    have none : (dotted names).toList.takeWhile (· = '.') = [] := by
      by_cases empty : names = []
      · subst names
        rfl
      · obtain ⟨c, rest, chars, other⟩ := dotted_eq_cons empty plain
        rw [chars, List.takeWhile_cons, if_neg (by simpa using other)]
    rw [List.takeWhile_append_of_pos (by simp +contextual [List.mem_replicate]), none, List.append_nil]
  have counts : dots = otherDots := by
    have leads := congrArg (fun chars => (List.takeWhile (· = '.') chars).length) same
    simpa [lead plain, lead otherPlain] using leads
  subst counts
  have rests := List.append_cancel_left same
  refine ⟨rfl, ?_⟩
  by_cases empty : names = []
  · subst names
    by_contra different
    obtain ⟨c, rest, chars, -⟩ := dotted_eq_cons (Ne.symm different) otherPlain
    rw [chars] at rests
    cases rests
  · by_cases otherEmpty : others = []
    · subst others
      obtain ⟨c, rest, chars, -⟩ := dotted_eq_cons empty plain
      rw [chars] at rests
      cases rests
    · exact dotted_inj empty otherEmpty plain otherPlain rests

theorem Import.toList_render_modules (targets : List Target) :
    (Import.modules targets).render.toList = 'i' :: ("mport ".toList ++ (Target.renderAll targets).toList) := by
  simp [Import.render, String.toList_append]

theorem Import.toList_render_names (dots : Nat) (module : List String) (selection : Selection) :
    (Import.names dots module selection).render.toList =
      'f' :: ("rom ".toList ++ ((List.replicate dots '.' ++ (dotted module).toList) ++
        ' ' :: ("import ".toList ++ selection.render.toList))) := by
  cases selection <;> simp [Import.render, Selection.render, String.toList_append]

theorem Import.WellNamed.render_inj {content other : Import} (named : content.WellNamed)
    (otherNamed : other.WellNamed) (same : content.render = other.render) : content = other := by
  have chars := congrArg String.toList same
  cases content with
  | modules targets =>
    cases other with
    | modules others =>
      rw [toList_render_modules, toList_render_modules] at chars
      rw [AllWellNamed.renderAll_inj named otherNamed (List.append_cancel_left (List.cons.inj chars).2)]
    | names otherDots otherModule otherSelection =>
      rw [toList_render_modules, toList_render_names] at chars
      exact absurd (List.cons.inj chars).1 (by decide)
  | names dots module selection =>
    cases other with
    | modules others =>
      rw [toList_render_modules, toList_render_names] at chars
      exact absurd (List.cons.inj chars).1 (by decide)
    | names otherDots otherModule otherSelection =>
      have free {dots : Nat} {module : List String} (plain : ∀ name ∈ module, Plain name) :
          ' ' ∉ List.replicate dots '.' ++ (dotted module).toList := by
        simp [List.mem_replicate, not_mem_dotted (c := ' ') (by decide) (by decide) plain]
      rw [toList_render_names, toList_render_names] at chars
      -- Neither dots nor names have a blank in them, so the first blank ends the module.
      obtain ⟨leads, rests⟩ := append_mark_inj (free named.1) (free otherNamed.1)
        (List.append_cancel_left (List.cons.inj chars).2)
      obtain ⟨rfl, rfl⟩ := leading_dots_inj named.1 otherNamed.1 leads
      rw [named.2.render_inj otherNamed.2 (List.append_cancel_left rests)]

end Imports

end SourceAtlas.Python
