import Mathlib.Data.List.Nodup
import Mathlib.Order.Bounds.Defs
import RecordSearch.Schema.Path

/-!
# The steps that paths share

The shared steps of some paths are their longest common beginning: what every
path begins with is exactly what the shared steps begin with.  So the number
of shared steps is the greatest up to which all of the paths agree, whatever
their order and however often each of them is listed.
-/

namespace RecordSearch

namespace Step

theorem prefix_shared_iff {beginning lefts rights : List Step} :
    beginning <+: shared lefts rights ↔ beginning <+: lefts ∧ beginning <+: rights := by
  induction lefts generalizing beginning rights with
  | nil =>
      simp only [shared, List.prefix_nil, iff_self_and]
      intro equal
      subst equal
      exact List.nil_prefix
  | cons left lefts induction =>
      cases rights with
      | nil =>
          simp only [shared, List.prefix_nil, iff_and_self]
          intro equal
          subst equal
          exact List.nil_prefix
      | cons right rights =>
          cases beginning with
          | nil => simp
          | cons step steps =>
              by_cases same : left = right
              · subst right
                simp only [shared, if_true, List.cons_prefix_cons, induction]
                constructor
                · intro begins
                  obtain ⟨rfl, first, second⟩ := begins
                  exact ⟨⟨rfl, first⟩, rfl, second⟩
                · intro both
                  obtain ⟨⟨rfl, first⟩, _, second⟩ := both
                  exact ⟨rfl, first, second⟩
              · simp only [shared, if_neg same, List.prefix_nil, List.cons_prefix_cons,
                  reduceCtorEq, false_iff]
                intro both
                obtain ⟨⟨rfl, _⟩, rfl, _⟩ := both
                exact same rfl

end Step

namespace FieldPath

/-- The steps are the longest with which all of the paths begin. -/
structure LongestShared (paths : List FieldPath) (steps : List Step) : Prop where
  common : ∀ path ∈ paths, steps <+: path.steps
  longest : ∀ other, (∀ path ∈ paths, other <+: path.steps) → other.length ≤ steps.length

theorem prefix_foldl_shared_iff {beginning steps : List Step} {paths : List FieldPath} :
    beginning <+: paths.foldl (fun steps other => Step.shared steps other.steps) steps ↔
      beginning <+: steps ∧ ∀ path ∈ paths, beginning <+: path.steps := by
  induction paths generalizing steps with
  | nil => simp
  | cons path paths induction =>
      rw [List.foldl_cons, induction, Step.prefix_shared_iff, List.forall_mem_cons, and_assoc]

theorem prefix_sharedSteps_iff {beginning : List Step} {paths : List FieldPath}
    (nonempty : paths ≠ []) :
    beginning <+: sharedSteps paths ↔ ∀ path ∈ paths, beginning <+: path.steps := by
  cases paths with
  | nil => exact absurd rfl nonempty
  | cons path paths =>
      rw [List.forall_mem_cons]
      exact prefix_foldl_shared_iff

theorem longestShared_sharedSteps {paths : List FieldPath} (nonempty : paths ≠ []) :
    LongestShared paths (sharedSteps paths) where
  common := (prefix_sharedSteps_iff nonempty).1 (List.prefix_refl _)
  longest _ common := ((prefix_sharedSteps_iff nonempty).2 common).length_le

theorem LongestShared.eq_sharedSteps {paths : List FieldPath} {steps : List Step}
    (longest : LongestShared paths steps) (nonempty : paths ≠ []) :
    steps = sharedSteps paths := by
  have begins : steps <+: sharedSteps paths :=
    (prefix_sharedSteps_iff nonempty).2 longest.common
  have sharedCommon := (longestShared_sharedSteps nonempty).common
  exact begins.eq_of_length
    (Nat.le_antisymm begins.length_le (longest.longest _ sharedCommon))

section Length

variable {paths others : List FieldPath} {path : FieldPath} {length : Nat}

/-- All paths have at least so many steps, and agree on their first ones up to there. -/
structure AgreeUpTo (paths : List FieldPath) (length : Nat) : Prop where
  within : ∀ path ∈ paths, length ≤ path.steps.length
  alike : ∀ path ∈ paths, ∀ other ∈ paths, path.steps.take length = other.steps.take length

theorem AgreeUpTo.subset (agree : AgreeUpTo others length) (among : paths ⊆ others) :
    AgreeUpTo paths length where
  within path member := agree.within path (among member)
  alike path member other otherMember := agree.alike path (among member) other (among otherMember)

theorem shared_append_drop (member : path ∈ paths) :
    sharedSteps paths ++ path.steps.drop (commonPrefixLength paths) = path.steps := by
  have nonempty : paths ≠ [] := List.ne_nil_of_mem member
  obtain ⟨behind, steps⟩ := (longestShared_sharedSteps nonempty).common path member
  rw [← steps, commonPrefixLength, List.drop_left]

theorem agreeUpTo_iff (nonempty : paths ≠ []) :
    AgreeUpTo paths length ↔ length ≤ commonPrefixLength paths := by
  constructor
  · intro agree
    obtain ⟨first, rest, rfl⟩ := List.exists_cons_of_ne_nil nonempty
    have begins : first.steps.take length <+: sharedSteps (first :: rest) := by
      refine (prefix_sharedSteps_iff nonempty).2 fun path member => ?_
      rw [agree.alike first List.mem_cons_self path member]
      exact List.take_prefix length path.steps
    have bound := begins.length_le
    rwa [List.length_take_of_le (agree.within first List.mem_cons_self)] at bound
  · intro bound
    have common := (longestShared_sharedSteps nonempty).common
    have steps {path : FieldPath} (member : path ∈ paths) :
        path.steps.take length = (sharedSteps paths).take length := by
      rw [← shared_append_drop member]
      exact List.take_append_of_le_length bound
    constructor
    · exact fun path member => Nat.le_trans bound (common path member).length_le
    · intro path member other otherMember
      rw [steps member, steps otherMember]

theorem isGreatest_commonPrefixLength (nonempty : paths ≠ []) :
    IsGreatest { length | AgreeUpTo paths length } (commonPrefixLength paths) :=
  ⟨(agreeUpTo_iff nonempty).2 (Nat.le_refl _), fun _ agree => (agreeUpTo_iff nonempty).1 agree⟩

theorem commonPrefixLength_le_of_subset (nonempty : paths ≠ []) (among : paths ⊆ others) :
    commonPrefixLength others ≤ commonPrefixLength paths := by
  have othersNonempty : others ≠ [] := fun none =>
    nonempty (List.eq_nil_of_subset_nil (none ▸ among))
  have agree := (agreeUpTo_iff othersNonempty).2 (Nat.le_refl (commonPrefixLength others))
  exact (agreeUpTo_iff nonempty).1 (agree.subset among)

theorem commonPrefixLength_eq_of_subset (nonempty : paths ≠ []) (among : paths ⊆ others)
    (back : others ⊆ paths) : commonPrefixLength others = commonPrefixLength paths := by
  have othersNonempty : others ≠ [] := fun none =>
    nonempty (List.eq_nil_of_subset_nil (none ▸ among))
  exact Nat.le_antisymm (commonPrefixLength_le_of_subset nonempty among)
    (commonPrefixLength_le_of_subset othersNonempty back)

theorem append_subset_insert (front back : List FieldPath) (path : FieldPath) :
    front ++ back ⊆ front ++ path :: back :=
  ((List.sublist_cons_self path back).append_left front).subset

/-- The number of shared steps is the greatest up to which all paths agree.  It depends neither on
the order of the paths nor on how often each is listed, no further path makes it greater, and every
path consists of the shared steps and of its own ones behind them. -/
theorem commonPrefixLength_greatest (nonempty : paths ≠ []) :
    IsGreatest { length | AgreeUpTo paths length } (commonPrefixLength paths) ∧
      (∀ others, others.Perm paths → commonPrefixLength others = commonPrefixLength paths) ∧
      (∀ front back path, front ++ back = paths → path ∈ paths →
        commonPrefixLength (front ++ path :: back) = commonPrefixLength paths) ∧
      (∀ front back path, front ++ back = paths →
        commonPrefixLength (front ++ path :: back) ≤ commonPrefixLength paths) ∧
      ∀ path ∈ paths, commonPrefixLength paths ≤ path.steps.length ∧
        sharedSteps paths ++ path.steps.drop (commonPrefixLength paths) = path.steps := by
  have greatest := isGreatest_commonPrefixLength nonempty
  refine ⟨greatest, fun others permuted => ?_, ?_, ?_, fun path member => ?_⟩
  · exact commonPrefixLength_eq_of_subset nonempty permuted.symm.subset permuted.subset
  · rintro front back path rfl member
    refine commonPrefixLength_eq_of_subset nonempty (append_subset_insert front back path) ?_
    obtain ⟨inFront, inBack⟩ := List.append_subset.1 (List.Subset.refl (front ++ back))
    exact List.append_subset.2 ⟨inFront, List.cons_subset.2 ⟨member, inBack⟩⟩
  · rintro front back path rfl
    exact commonPrefixLength_le_of_subset nonempty (append_subset_insert front back path)
  · exact ⟨greatest.1.within path member, shared_append_drop member⟩

end Length

end FieldPath

namespace Samples

def imageNamePath : FieldPath where
  steps := [.field "containers".toList, .list, .field "image".toList, .pointer,
    .field "name".toList]
  leaf := .string
  distinct := List.nodup_singleton _

def containerPortPath : FieldPath where
  steps := [.field "containers".toList, .list, .field "containerPorts".toList, .list]
  leaf := .number
  distinct := List.nodup_singleton _

theorem commonPrefixLength_greatest_container :
    IsGreatest { length | FieldPath.AgreeUpTo [imageNamePath, containerPortPath] length } 2 ∧
      FieldPath.commonPrefixLength [containerPortPath, imageNamePath] = 2 ∧
      FieldPath.commonPrefixLength [imageNamePath, containerPortPath, imageNamePath] = 2 ∧
      2 ≤ containerPortPath.steps.length := by
  obtain ⟨greatest, permuted, repeated, _, sliced⟩ :=
    FieldPath.commonPrefixLength_greatest (List.cons_ne_nil imageNamePath [containerPortPath])
  refine ⟨greatest, permuted _ (List.Perm.swap _ _ _), ?_, ?_⟩
  · exact repeated [imageNamePath, containerPortPath] [] imageNamePath rfl List.mem_cons_self
  · exact (sliced containerPortPath (List.mem_cons_of_mem _ List.mem_cons_self)).1

end Samples

end RecordSearch
