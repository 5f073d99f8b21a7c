import RecordSearch.Schema.Basic

/-!
# What registrations amount to

The schema of some registrations is described label by label: the first
registration for a label fixes its spelling and its steps, and the later ones
with the same steps add their kinds of leaves, each of them once.
-/

namespace RecordSearch

theorem eraseDups_concat {α : Type} [BEq α] [LawfulBEq α] (seen : List α) (item : α) :
    (seen ++ [item]).eraseDups =
      if item ∈ seen then seen.eraseDups else seen.eraseDups ++ [item] := by
  rw [List.eraseDups_append]
  by_cases known : item ∈ seen <;> simp [List.cons_removeAll, known, List.eraseDups_cons]

namespace FieldPath

theorem eraseDups_of_nodup {kinds : List LeafKind} (distinct : kinds.Nodup) :
    kinds.eraseDups = kinds := by
  induction kinds with
  | nil => rfl
  | cons kind kinds induction =>
      obtain ⟨fresh, restDistinct⟩ := List.nodup_cons.1 distinct
      have kept : (kinds.filter fun other => !other == kind) = kinds := by
        rw [List.filter_eq_self]
        intro other member
        have different : other ≠ kind := by
          intro equal
          subst equal
          exact fresh member
        simp [different]
      rw [List.eraseDups_cons, kept, induction restDistinct]

/-- Adding kinds to a path keeps the first occurrence of each. -/
theorem leaves_foldl_orLeaf {path : FieldPath} {seen : List LeafKind} (kinds : List LeafKind)
    (listed : path.leaves = seen.eraseDups) :
    (kinds.foldl orLeaf path).leaves = (seen ++ kinds).eraseDups := by
  induction kinds generalizing path seen with
  | nil => simpa using listed
  | cons kind kinds induction =>
      have extended : (path.orLeaf kind).leaves = (seen ++ [kind]).eraseDups := by
        rw [leaves_orLeaf, listed, eraseDups_concat]
        simp only [List.mem_eraseDups]
      rw [List.foldl_cons, induction extended, List.append_assoc, List.singleton_append]

theorem steps_foldl_orLeaf (path : FieldPath) (kinds : List LeafKind) :
    (kinds.foldl orLeaf path).steps = path.steps := by
  induction kinds generalizing path with
  | nil => rfl
  | cons kind kinds induction => rw [List.foldl_cons, induction, steps_orLeaf]

end FieldPath

namespace Registration

def isFor (label : Text) (registration : Registration) : Bool :=
  Text.lower registration.label == Text.lower label

def along (steps : List Step) (registration : Registration) : Bool :=
  registration.path.steps == steps

end Registration

namespace LabelEntry

def extend (entry : LabelEntry) (registrations : List Registration) : LabelEntry :=
  registrations.foldl (fun entry registration =>
    Schema.registered registration (some entry)) entry

variable (entry : LabelEntry) (registration : Registration)
  (registrations : List Registration)

theorem label_registered :
    (Schema.registered registration (some entry)).label = entry.label := by
  simp only [Schema.registered]
  split <;> rfl

@[simp]
theorem label_extend : (entry.extend registrations).label = entry.label := by
  induction registrations generalizing entry with
  | nil => rfl
  | cons registration registrations induction =>
      exact (induction _).trans (label_registered entry registration)

theorem steps_registered :
    (Schema.registered registration (some entry)).path.steps = entry.path.steps := by
  simp only [Schema.registered]
  split
  · exact FieldPath.steps_foldl_orLeaf _ _
  · rfl

@[simp]
theorem steps_extend : (entry.extend registrations).path.steps = entry.path.steps := by
  induction registrations generalizing entry with
  | nil => rfl
  | cons registration registrations induction =>
      exact (induction _).trans (steps_registered entry registration)

theorem leaves_extend {seen : List LeafKind} (listed : entry.path.leaves = seen.eraseDups) :
    (entry.extend registrations).path.leaves =
      (seen ++ (registrations.filter (·.along entry.path.steps)).flatMap
        (·.path.leaves)).eraseDups := by
  induction registrations generalizing entry seen with
  | nil => simpa [extend] using listed
  | cons registration registrations induction =>
      have steps := steps_registered entry registration
      by_cases same : registration.path.steps = entry.path.steps
      · have extended : (Schema.registered registration (some entry)).path.leaves =
            (seen ++ registration.path.leaves).eraseDups := by
          simp only [Schema.registered, same, if_true]
          exact FieldPath.leaves_foldl_orLeaf _ listed
        have kept : registration.along entry.path.steps = true := by
          simp [Registration.along, same]
        refine (induction _ extended).trans ?_
        rw [steps, List.filter_cons_of_pos kept, List.flatMap_cons, List.append_assoc]
      · have unchanged : Schema.registered registration (some entry) = entry := by
          simp [Schema.registered, Ne.symm same]
        have dropped : ¬registration.along entry.path.steps = true := by
          simp [Registration.along, same]
        rw [List.filter_cons_of_neg dropped, ← induction entry listed, extend,
          List.foldl_cons, unchanged, extend]

end LabelEntry

namespace Schema

variable (schema : Schema) (registrations : List Registration) (label : Text)

theorem lookup?_register (registration : Registration) :
    (schema.register registration).lookup? label =
      if registration.isFor label then
        some (registered registration (schema.lookup? label))
      else
        schema.lookup? label := by
  unfold Registration.isFor
  split
  · rename_i same
    rw [lookup?, register, lookup?, ← beq_iff_eq.1 same, SortedTable.find?_alter_self]
  · rename_i different
    refine SortedTable.find?_alter_of_ne schema.fields _ fun same => ?_
    exact different (beq_iff_eq.2 same.symm)

theorem lookup?_registerAll :
    (schema.registerAll registrations).lookup? label =
      (registrations.filter (·.isFor label)).foldl
        (fun entry registration => some (registered registration entry))
        (schema.lookup? label) := by
  induction registrations generalizing schema with
  | nil => rfl
  | cons registration registrations induction =>
      refine (induction (schema.register registration)).trans ?_
      rw [lookup?_register]
      by_cases concerned : registration.isFor label = true
      · rw [if_pos concerned, List.filter_cons_of_pos concerned, List.foldl_cons]
      · rw [if_neg concerned, List.filter_cons_of_neg concerned]

theorem foldl_registered_some (entry : LabelEntry) :
    registrations.foldl (fun entry registration => some (registered registration entry))
      (some entry) = some (entry.extend registrations) := by
  induction registrations generalizing entry with
  | nil => rfl
  | cons registration registrations induction => exact induction _

/-- The entry of a label is that of its first registration, extended by the later ones. -/
theorem lookup?_build (typeName : Text) :
    (build typeName registrations).lookup? label =
      match registrations.filter (·.isFor label) with
      | [] => none
      | first :: later =>
          some (LabelEntry.extend { label := first.label, path := first.path } later) := by
  rw [build, lookup?_registerAll]
  have nothing : ({ typeName } : Schema).lookup? label = none := rfl
  rw [nothing]
  cases registrations.filter (·.isFor label) with
  | nil => rfl
  | cons first later => exact foldl_registered_some later _

/-- The path of a label has the steps of its first registration, and the kinds of all of its
registrations along these steps. -/
theorem get?_build (typeName : Text) :
    ((build typeName registrations).get? label).map (fun path => (path.steps, path.leaves)) =
      (registrations.filter (·.isFor label)).head?.map fun first =>
        (first.path.steps, (((registrations.filter (·.isFor label)).filter
          (·.along first.path.steps)).flatMap (·.path.leaves)).eraseDups) := by
  rw [get?, lookup?_build]
  cases registrations.filter (·.isFor label) with
  | nil => rfl
  | cons first later =>
      have kept : first.along first.path.steps = true := by simp [Registration.along]
      simp only [Option.map_some, List.head?_cons, Option.some.injEq, Prod.mk.injEq,
        LabelEntry.steps_extend, true_and]
      rw [List.filter_cons_of_pos kept, List.flatMap_cons]
      exact LabelEntry.leaves_extend _ later
        (FieldPath.eraseDups_of_nodup first.path.distinct).symm

theorem exists_registration_of_get? {typeName : Text} {path : FieldPath}
    (known : (build typeName registrations).get? label = some path) :
    ∃ registration ∈ registrations, registration.isFor label = true ∧
      registration.path.steps = path.steps := by
  have described := get?_build registrations label typeName
  rw [known, Option.map_some] at described
  obtain ⟨first, found, equal⟩ := Option.map_eq_some_iff.1 described.symm
  obtain ⟨member, concerned⟩ := List.mem_filter.1 (List.mem_of_mem_head? found)
  exact ⟨first, member, concerned, (Prod.mk.inj equal).1⟩

end Schema

end RecordSearch
