import Mathlib.Data.List.ReduceOption
import TableExchange.Failure.Basic

/-!
The kind that a failure reports beside the kinds that it lists, for failures that are put together
from single ones by gathering lists of them, in any nesting. All single failures are listed in their
order. The reported kind is that of the first leaf, and a list of no failures is a leaf of unknown
kind: where one stands first it hides the single failures behind it.
-/
namespace TableExchange

inductive Assembly
  | single (kind : FailureKind) (description : String) (detail : Option String)
      (causes : List String)
  | gathered (parts : List Assembly)

namespace Assembly

mutual

def build : Assembly → Failure
  | .single k d t cs => .single k d t cs
  | .gathered parts => .ofList (buildAll parts)

def buildAll : List Assembly → List Failure
  | [] => []
  | a :: rest => build a :: buildAll rest

end

mutual

/-- The leaves from left to right: the kind of each single failure, and nothing for each list of no
failures. -/
def leaves : Assembly → List (Option FailureKind)
  | .single k _ _ _ => [some k]
  | .gathered [] => [none]
  | .gathered (a :: rest) => leaves a ++ leavesOf rest

def leavesOf : List Assembly → List (Option FailureKind)
  | [] => []
  | a :: rest => leaves a ++ leavesOf rest

end

theorem leaves_ne_nil (a : Assembly) : a.leaves ≠ [] := by
  match a with
  | .single k d t cs => exact List.cons_ne_nil _ _
  | .gathered [] => exact List.cons_ne_nil _ _
  | .gathered (a :: rest) =>
    rw [leaves]
    exact List.append_ne_nil_of_left_ne_nil a.leaves_ne_nil _

mutual

theorem kinds_build (a : Assembly) : a.build.kinds = a.leaves.reduceOption := by
  match a with
  | .single k d t cs => rfl
  | .gathered [] => rfl
  | .gathered (a :: rest) =>
    rw [build, Failure.kinds_ofList, leaves]
    exact kindsOf_buildAll (a :: rest)

theorem kindsOf_buildAll (parts : List Assembly) :
    Failure.kindsOf (buildAll parts) = (leavesOf parts).reduceOption := by
  match parts with
  | [] => rfl
  | a :: rest =>
    rw [buildAll, Failure.kindsOf, leavesOf, List.reduceOption_append, kinds_build a,
      kindsOf_buildAll rest]

end

/-- The first leaf decides, whatever it is. -/
theorem kind_build {a : Assembly} {leaf : Option FailureKind} {rest : List (Option FailureKind)}
    (h : a.leaves = leaf :: rest) : a.build.kind = leaf.getD .unknown := by
  match a with
  | .single k d t cs =>
    obtain ⟨rfl, -⟩ := List.cons.inj h
    rfl
  | .gathered [] =>
    obtain ⟨rfl, -⟩ := List.cons.inj h
    rfl
  | .gathered (a :: parts) =>
    obtain ⟨first, others, hfirst⟩ := List.exists_cons_of_ne_nil a.leaves_ne_nil
    rw [leaves, hfirst, List.cons_append] at h
    obtain ⟨rfl, -⟩ := List.cons.inj h
    rw [build, Failure.kind_ofList, buildAll, Failure.firstKind]
    exact kind_build hfirst

structure Reports (a : Assembly) : Prop where
  /-- The kinds are those of the single failures, from left to right. -/
  kinds : a.build.kinds = a.leaves.reduceOption
  /-- The first of them is reported if no list of no failures stands before it. -/
  first : ∀ k rest, a.leaves = some k :: rest →
    a.build.kinds.head? = some k ∧ a.build.kind = k ∧ a.build.category = k.category
  /-- A list of no failures that stands first is what is reported. -/
  hidden : ∀ rest, a.leaves = none :: rest →
    a.build.kind = .unknown ∧ a.build.category = FailureKind.unknown.category
  nothing : a.build.kinds = [] → a.build.kind = .unknown
  whole : none ∉ a.leaves → a.build.kinds.head? = some a.build.kind

/-- Whatever a failure is put together from, it lists all single failures and reports the first
leaf. -/
theorem kind_is_first_leaf (a : Assembly) : a.Reports := by
  have hfirst : ∀ k rest, a.leaves = some k :: rest →
      a.build.kinds.head? = some k ∧ a.build.kind = k ∧ a.build.category = k.category := by
    intro k rest h
    have hkind : a.build.kind = k := kind_build h
    refine ⟨?_, hkind, congrArg FailureKind.category hkind⟩
    rw [kinds_build, h, List.reduceOption_cons_of_some]
    rfl
  have hhidden : ∀ rest, a.leaves = none :: rest →
      a.build.kind = .unknown ∧ a.build.category = FailureKind.unknown.category := by
    intro rest h
    have hkind : a.build.kind = .unknown := kind_build h
    exact ⟨hkind, congrArg FailureKind.category hkind⟩
  obtain ⟨leaf, rest, hleaves⟩ := List.exists_cons_of_ne_nil a.leaves_ne_nil
  refine ⟨kinds_build a, hfirst, hhidden, fun hnone => ?_, fun hwhole => ?_⟩
  · cases leaf with
    | none => exact (hhidden rest hleaves).1
    | some k =>
      obtain ⟨hlisted, -⟩ := hfirst k rest hleaves
      rw [hnone] at hlisted
      contradiction
  · cases leaf with
    | none => exact absurd (hleaves ▸ List.mem_cons_self) hwhole
    | some k =>
      obtain ⟨hlisted, hkind, -⟩ := hfirst k rest hleaves
      rw [hlisted, hkind]

/-- An empty list in front of a failed request hides it, although its kind is listed. -/
theorem empty_list_hides_failure :
    let a : Assembly := .gathered [.gathered [], .single .requestFailed "Block open failed" none []]
    a.build.kinds = [.requestFailed] ∧ a.build.kind = .unknown ∧
      a.build.category ≠ FailureKind.requestFailed.category := by
  refine ⟨rfl, rfl, ?_⟩
  decide

end Assembly

end TableExchange
