import RecordSearch.Event
import RecordSearch.Proofs.Merging
import RecordSearch.Proofs.Registration

/-!
# The labels of a schema

Labels that are the same but for case are one label of a schema.  It is listed once, as it was
spelled first, and has the steps of its first registration.  A registration with other steps comes
too late: it changes nothing, and this is noted.
-/

namespace RecordSearch

theorem SortedTable.alter_eq_self {α : Type} {table : SortedTable α} {key : Text} {value : α}
    {change : Option α → α} (found : table.find? key = some value)
    (same : change (some value) = value) : table.alter key change = table := by
  refine eq_of_find?_eq fun other => ?_
  by_cases here : other = key
  · rw [here, find?_alter_self, found, same]
  · exact find?_alter_of_ne table change here

namespace Registration

/-- The label is registered with other steps already. -/
def ComesTooLate (registrations : List Registration) (registration : Registration) : Prop :=
  ∃ first, registrations.find? (·.isFor registration.label) = some first ∧
    first.path.steps ≠ registration.path.steps

end Registration

namespace Schema

variable {schema : Schema} {typeName label : Text} {registrations : List Registration}
  {registration first : Registration} {kept : FieldPath}

section Paths

theorem get?_build_eq_none_iff :
    (build typeName registrations).get? label = none ↔
      ∀ registration ∈ registrations, Text.lower registration.label ≠ Text.lower label := by
  rw [← Option.map_eq_none_iff, get?_build, Option.map_eq_none_iff, List.head?_eq_none_iff,
    List.filter_eq_nil_iff]
  simp [Registration.isFor]

theorem exists_get?_build (typeName : Text)
    (earliest : registrations.find? (·.isFor label) = some first) :
    ∃ path, (build typeName registrations).get? label = some path ∧
      path.steps = first.path.steps ∧
      path.leaves = (((registrations.filter (·.isFor label)).filter
        (·.along first.path.steps)).flatMap (·.path.leaves)).eraseDups := by
  have described := get?_build registrations label typeName
  rw [List.head?_filter, earliest, Option.map_some, Option.map_eq_some_iff] at described
  obtain ⟨path, known, same⟩ := described
  obtain ⟨steps, leaves⟩ := Prod.mk.inj same
  exact ⟨path, known, steps, leaves⟩

end Paths

section Labels

/-- Every label stands under its lowercase. -/
def Keyed (schema : Schema) : Prop :=
  ∀ key entry, schema.fields.find? key = some entry → Text.lower entry.label = key

theorem Keyed.register (keyed : schema.Keyed) (registration : Registration) :
    (schema.register registration).Keyed := by
  intro key entry found
  by_cases here : key = Text.lower registration.label
  · rw [Schema.register, here, SortedTable.find?_alter_self, Option.some.injEq] at found
    rw [here, ← found]
    cases held : schema.fields.find? (Text.lower registration.label) with
    | none => rfl
    | some earlier => rw [LabelEntry.label_registered, keyed _ earlier held]
  · rw [Schema.register, SortedTable.find?_alter_of_ne _ _ here] at found
    exact keyed key entry found

theorem keyed_registerAll (keyed : schema.Keyed) : (schema.registerAll registrations).Keyed := by
  induction registrations generalizing schema with
  | nil => exact keyed
  | cons registration registrations induction => exact induction (keyed.register registration)

theorem keyed_build : (build typeName registrations).Keyed :=
  keyed_registerAll nofun

/-- The labels are listed in the order of their lowercase, each lowercase once. -/
theorem Keyed.pairwise_labels (keyed : schema.Keyed) :
    schema.labels.Pairwise fun one other =>
      Text.precedes (Text.lower one) (Text.lower other) = true := by
  rw [labels, SortedTable.values, List.map_map, List.pairwise_map]
  refine schema.fields.sorted.imp_of_mem fun {one other} first second before => ?_
  have lowered {entry : Text × LabelEntry} (member : entry ∈ schema.fields.entries) :
      Text.lower entry.2.label = entry.1 :=
    keyed _ _ ((schema.fields.find?_eq_some_iff).2 member)
  simp only [Function.comp_apply, lowered first, lowered second]
  exact before

theorem Keyed.mem_labels_iff (keyed : schema.Keyed) :
    label ∈ schema.labels ↔ (schema.lookup? label).map (·.label) = some label := by
  simp only [labels, SortedTable.values, List.map_map, List.mem_map, Option.map_eq_some_iff,
    lookup?, Function.comp_apply]
  constructor
  · rintro ⟨⟨key, entry⟩, member, rfl⟩
    have found := (schema.fields.find?_eq_some_iff).2 member
    rw [← keyed key entry found] at found
    exact ⟨entry, found, rfl⟩
  · rintro ⟨entry, found, same⟩
    exact ⟨_, (schema.fields.find?_eq_some_iff).1 found, same⟩

theorem label_lookup?_build (typeName label : Text) (registrations : List Registration) :
    ((build typeName registrations).lookup? label).map (·.label) =
      (registrations.find? (·.isFor label)).map (·.label) := by
  rw [lookup?_build, ← List.head?_filter]
  cases registrations.filter (·.isFor label) with
  | nil => rfl
  | cons first later => exact congrArg some (LabelEntry.label_extend _ later)

end Labels

section Conflicts

theorem registerAll_append (earlier later : List Registration) :
    schema.registerAll (earlier ++ later) = (schema.registerAll earlier).registerAll later := by
  rw [registerAll, List.foldl_append]
  rfl

theorem buildEvents_append (earlier later : List Registration) :
    schema.buildEvents (earlier ++ later) =
      schema.buildEvents earlier ++ (schema.registerAll earlier).buildEvents later := by
  induction earlier generalizing schema with
  | nil => rfl
  | cons registration earlier induction =>
      rw [List.cons_append, buildEvents, buildEvents, induction, List.append_assoc]
      rfl

theorem typeName_registerAll : (schema.registerAll registrations).typeName = schema.typeName := by
  induction registrations generalizing schema with
  | nil => rfl
  | cons registration registrations induction => exact induction

theorem conflict?_eq_some_iff :
    schema.conflict? registration = some kept ↔
      schema.get? registration.label = some kept ∧ kept.steps ≠ registration.path.steps := by
  unfold conflict?
  cases schema.get? registration.label with
  | none => simp
  | some path =>
      by_cases same : path.steps = registration.path.steps
      · simp only [same, if_true, reduceCtorEq, Option.some.injEq, false_iff, not_and, not_not]
        rintro rfl
        exact same
      · simp only [same, if_false, Option.some.injEq]
        exact ⟨fun equal => ⟨equal, equal ▸ same⟩, And.left⟩

theorem register_eq_self (conflict : schema.conflict? registration = some kept) :
    schema.register registration = schema := by
  obtain ⟨known, apart⟩ := conflict?_eq_some_iff.1 conflict
  obtain ⟨entry, found, rfl⟩ := Option.map_eq_some_iff.1 known
  have same : registered registration (some entry) = entry := by
    rw [registered, if_neg apart]
  rw [register, SortedTable.alter_eq_self found same]

/-- The schema knows of the conflict, since the steps of a label are those of its first
registration. -/
theorem comesTooLate_iff :
    registration.ComesTooLate registrations ↔
      ∃ kept, (build typeName registrations).conflict? registration = some kept := by
  simp only [conflict?_eq_some_iff]
  constructor
  · rintro ⟨first, earliest, apart⟩
    obtain ⟨kept, known, steps, -⟩ := exists_get?_build typeName earliest
    exact ⟨kept, known, steps ▸ apart⟩
  · rintro ⟨kept, known, apart⟩
    obtain ⟨entry, found, -⟩ := Option.map_eq_some_iff.1 known
    have spelled := label_lookup?_build typeName registration.label registrations
    rw [found, Option.map_some] at spelled
    obtain ⟨first, earliest, -⟩ := Option.map_eq_some_iff.1 spelled.symm
    obtain ⟨path, same, steps, -⟩ := exists_get?_build typeName earliest
    obtain rfl := Option.some.inj (same.symm.trans known)
    exact ⟨first, earliest, steps ▸ apart⟩

theorem level_of_mem_buildEvents {event : Event}
    (noted : event ∈ schema.buildEvents registrations) : event.level = "WARN".toList := by
  induction registrations generalizing schema with
  | nil => cases noted
  | cons registration registrations induction =>
      rw [buildEvents, registrationEvents, List.mem_append] at noted
      rcases noted with own | later
      · cases conflict : schema.conflict? registration with
        | none =>
            rw [conflict] at own
            cases own
        | some kept =>
            rw [conflict] at own
            rw [List.mem_singleton.1 own, Event.level]
      · exact induction later

variable {earlier later : List Registration}

/-- Without a registration that comes too late the schema is the same, and the events lack
exactly the one that notes it. -/
theorem build_of_comesTooLate (late : registration.ComesTooLate earlier) :
    build typeName (earlier ++ registration :: later) = build typeName (earlier ++ later) ∧
      ∃ kept, (build typeName earlier).get? registration.label = some kept ∧
        ({ typeName } : Schema).buildEvents (earlier ++ registration :: later) =
          ({ typeName } : Schema).buildEvents earlier ++
            .labelConflict typeName registration.label kept registration.path ::
              (build typeName earlier).buildEvents later := by
  obtain ⟨kept, conflict⟩ := comesTooLate_iff.1 late
  have unchanged := register_eq_self conflict
  constructor
  · rw [build, registerAll_append, build, registerAll_append]
    exact congrArg (·.registerAll later) unchanged
  · refine ⟨kept, (conflict?_eq_some_iff.1 conflict).1, ?_⟩
    rw [buildEvents_append]
    change _ ++ ((build typeName earlier).registrationEvents registration ++
      ((build typeName earlier).register registration).buildEvents later) = _
    rw [unchanged, registrationEvents, conflict, build, typeName_registerAll]
    rfl

theorem buildEvents_of_not_comesTooLate (timely : ¬registration.ComesTooLate earlier) :
    ({ typeName } : Schema).buildEvents (earlier ++ registration :: later) =
      ({ typeName } : Schema).buildEvents earlier ++
        (build typeName (earlier ++ [registration])).buildEvents later := by
  have peaceful : (build typeName earlier).conflict? registration = none :=
    Option.eq_none_iff_forall_ne_some.2 fun kept conflict =>
      timely (comesTooLate_iff.2 ⟨kept, conflict⟩)
  rw [buildEvents_append, build, registerAll_append]
  change _ ++ ((build typeName earlier).registrationEvents registration ++ _) = _
  rw [registrationEvents, peaceful]
  rfl

end Conflicts

/-- A label is registered if any label of the same lowercase is.  It has the steps of the first
of these registrations and, each once, the kinds of all of them along these steps.  The labels
are listed by their lowercase as they were spelled first.  Of every run of registrations, the
ones that come too late, and no others, cause one warning each and change nothing. -/
theorem registers_by_first_of_label (typeName : Text) (registrations : List Registration) :
    (∀ label, (build typeName registrations).get? label = none ↔
      ∀ registration ∈ registrations, Text.lower registration.label ≠ Text.lower label) ∧
    (∀ label first, registrations.find? (·.isFor label) = some first →
      ∃ path, (build typeName registrations).get? label = some path ∧
        path.steps = first.path.steps ∧
        path.leaves = (((registrations.filter (·.isFor label)).filter
          (·.along first.path.steps)).flatMap (·.path.leaves)).eraseDups) ∧
    (build typeName registrations).labels.Pairwise (fun one other =>
      Text.precedes (Text.lower one) (Text.lower other) = true) ∧
    (∀ label, label ∈ (build typeName registrations).labels ↔
      ∃ first, registrations.find? (·.isFor label) = some first ∧ first.label = label) ∧
    (∀ earlier registration later, registrations = earlier ++ registration :: later →
      (registration.ComesTooLate earlier →
        build typeName registrations = build typeName (earlier ++ later) ∧
        ∃ kept, (build typeName earlier).get? registration.label = some kept ∧
          ({ typeName } : Schema).buildEvents registrations =
            ({ typeName } : Schema).buildEvents earlier ++
              .labelConflict typeName registration.label kept registration.path ::
                (build typeName earlier).buildEvents later) ∧
      (¬registration.ComesTooLate earlier →
        ({ typeName } : Schema).buildEvents registrations =
          ({ typeName } : Schema).buildEvents earlier ++
            (build typeName (earlier ++ [registration])).buildEvents later)) ∧
    ∀ event ∈ ({ typeName } : Schema).buildEvents registrations,
      event.level = "WARN".toList := by
  refine ⟨fun label => get?_build_eq_none_iff, fun label first => exists_get?_build typeName,
    keyed_build.pairwise_labels, fun label => ?_, ?_, fun event => level_of_mem_buildEvents⟩
  · rw [keyed_build.mem_labels_iff, label_lookup?_build, Option.map_eq_some_iff]
  · rintro earlier registration later rfl
    exact ⟨build_of_comesTooLate, buildEvents_of_not_comesTooLate⟩

end Schema

end RecordSearch
