import RecordSearch.Proofs.Enumeration
import RecordSearch.Proofs.Registration

/-!
# Schemas list the labelled routes

A walk enumerates the routes from a shape to its labelled leaves.  So the path
of a label is that of the first route for it, and the kinds of its leaves are
those of all routes for the label along the same steps.
-/

namespace RecordSearch

namespace TypeTable

variable {table : TypeTable} {opened : List Text} {carried : Option Text}

def typeNames (table : TypeTable) : List Text :=
  table.definitions.map (·.2.typeName)

theorem typeName_mem_typeNames {reference : Text} {definition : TypeDefinition}
    (found : table.find? reference = some definition) :
    definition.typeName ∈ table.typeNames := by
  obtain ⟨entry, entryFound, rfl⟩ := Option.map_eq_some_iff.1 found
  exact List.mem_map_of_mem (List.mem_of_find?_eq_some entryFound)

/-- A walk that has opened as many types as there are cannot open another one. -/
theorem opened_lt_size {reference : Text} {definition : TypeDefinition}
    (distinct : opened.Nodup) (declared : opened ⊆ table.typeNames)
    (found : table.find? reference = some definition) (fresh : definition.typeName ∉ opened) :
    opened.length < table.size := by
  have within : definition.typeName :: opened ⊆ table.typeNames :=
    List.cons_subset.2 ⟨typeName_mem_typeNames found, declared⟩
  have bound := (List.nodup_cons.2 ⟨fresh, distinct⟩).length_le_of_subset within
  simpa [typeNames, size, Nat.succ_le_iff] using bound

/-- What is found in a shape enumerates its routes, if that holds for the types it refers to. -/
theorem enumerates_findings {enter : Text → List Finding} (distinct : opened.Nodup)
    (enters : ∀ reference,
      Enumerates (enter reference) (table.RouteFrom opened carried (.named reference)))
    (shape : Shape) :
    Enumerates (shape.findings enter carried) (table.RouteFrom opened carried shape) := by
  induction shape with
  | leaf kind =>
      cases carried with
      | none =>
          refine .nothing rfl fun route continues => ?_
          obtain ⟨_, impossible, _⟩ := (routeFrom_leaf_iff distinct).1 continues
          cases impossible
      | some label =>
          refine (Enumerates.single label kind).congr fun route => ?_
          simp [routeFrom_leaf_iff distinct]
  | pointer target induction =>
      have behind := induction.after [.pointer] .pointer fun route _ =>
        Turn.steps_pointer route.turns
      exact behind.congr fun _ => routeFrom_pointer_iff.symm
  | list item induction =>
      have behind := induction.after [.list] .list fun route _ =>
        Turn.steps_list route.turns
      exact behind.congr fun _ => routeFrom_list_iff.symm
  | map key value keyInduction valueInduction =>
      have keys := keyInduction.after [.key] .map fun route _ =>
        Turn.steps_key route.turns
      have values := valueInduction.after [.value] .map fun route _ =>
        Turn.steps_value route.turns
      rw [Shape.findings, List.map_append]
      refine (keys.append values ?_).congr fun _ => routeFrom_map_iff.symm
      intro first second behindKey behindValue
      obtain ⟨route, _, rfl⟩ := behindKey
      obtain ⟨following, _, rfl⟩ := behindValue
      exact .rel .sides
  | named reference =>
      cases carried with
      | none => exact enters reference
      | some label => exact (enters reference).ignored rfl
  | hidden => exact .nothing rfl fun _ => not_routeFrom_hidden

theorem enumerates_record {enter : Text → List Finding} {reference typeName : Text}
    {fields : List FieldShape}
    (found : table.find? reference = some { typeName, body := .record fields })
    (distinct : (typeName :: opened).Nodup)
    (enters : ∀ carried reference, Enumerates (enter reference)
      (table.RouteFrom (typeName :: opened) carried (.named reference))) :
    Enumerates (fields.flatMap (fieldFindings enter))
      (table.RouteFrom opened carried (.named reference)) := by
  have each : ∀ position field, fields[position]? = some field →
      Enumerates (fieldFindings enter field) fun route =>
        ∃ inner, table.RouteFrom (typeName :: opened) field.label field.shape inner ∧
          route = inner.after [.field position field] := by
    intro position field _
    have inside := enumerates_findings distinct (enters field.label) field.shape
    apply inside.after
    intro route _
    exact Turn.steps_field position field route.turns
  refine (Enumerates.flatMap fields _ each ?_).congr fun _ => (routeFrom_record_iff found).symm
  intro first second field following _ _ before behindFirst behindSecond
  obtain ⟨route, _, rfl⟩ := behindFirst
  obtain ⟨other, _, rfl⟩ := behindSecond
  exact .rel (.field before)

/-- What is found in a variant enumerates the routes through its payload, if that is a record or
a pointer to one, and no route otherwise. -/
theorem enumerates_variant {enter : Text → List Finding}
    (enters : ∀ reference,
      Enumerates (enter reference) (table.RouteFrom opened none (.named reference)))
    (position : Nat) (variant : VariantShape) :
    Enumerates (table.variantFindings enter variant) fun route =>
      ∃ payload, variant.payload = some payload ∧ (table.record? payload.unwrapped).isSome ∧
        ∃ inner, table.RouteFrom opened none payload inner ∧
          route = inner.after [.variant position variant] := by
  unfold variantFindings
  cases carries : variant.payload with
  | none => exact .nothing rfl (by simp)
  | some payload =>
      simp only [Option.some.injEq, exists_eq_left']
      cases record : table.record? payload.unwrapped with
      | none => exact .nothing rfl (by simp)
      | some reference =>
          simp only [Option.isSome_some, true_and]
          have shape := (record?_eq_some_iff.1 record).1
          cases payload with
          | pointer target =>
              obtain rfl : target = .named reference := shape
              have inside := (enters reference).after [.variant position variant, .pointer]
                (.variant variant.name) fun route _ =>
                  Turn.steps_variant_pointer position variant route.turns
              refine inside.congr fun route => ⟨?_, ?_⟩
              · intro behind
                obtain ⟨inner, continues, rfl⟩ := behind
                exact ⟨_, routeFrom_pointer_iff.2 ⟨inner, continues, rfl⟩, rfl⟩
              · intro behind
                obtain ⟨_, continues, rfl⟩ := behind
                obtain ⟨inner, rest, rfl⟩ := routeFrom_pointer_iff.1 continues
                exact ⟨inner, rest, rfl⟩
          | named other =>
              cases shape
              apply (enters reference).after
              intro route continues
              exact Turn.steps_variant continues.direct
          | _ => cases shape

theorem enumerates_variants {enter : Text → List Finding} {reference typeName : Text}
    {variants : List VariantShape}
    (found : table.find? reference = some { typeName, body := .variants variants })
    (enters : ∀ reference, Enumerates (enter reference)
      (table.RouteFrom (typeName :: opened) none (.named reference))) :
    Enumerates (variants.flatMap (table.variantFindings enter))
      (table.RouteFrom opened carried (.named reference)) := by
  have through := Enumerates.flatMap variants _ fun position variant _ =>
    enumerates_variant enters position variant
  refine (through ?_).congr fun _ => (routeFrom_variants_iff found).symm
  intro first second variant following _ _ before behindFirst behindSecond
  obtain ⟨_, _, _, route, _, rfl⟩ := behindFirst
  obtain ⟨_, _, _, other, _, rfl⟩ := behindSecond
  exact .rel (.variant before)

/-- What is found in a type enumerates the routes through it, as long as the depth of the walk
bounds the number of types that can still be opened. -/
theorem enumerates_typeFindings {depth : Nat} (bound : table.size ≤ depth + opened.length)
    (distinct : opened.Nodup) (declared : opened ⊆ table.typeNames) (reference : Text) :
    Enumerates (table.typeFindings depth opened reference)
      (table.RouteFrom opened carried (.named reference)) := by
  induction depth generalizing opened carried reference with
  | zero =>
      refine .nothing rfl fun route continues => ?_
      obtain ⟨definition, found, fresh⟩ := continues.find?
      have room := opened_lt_size distinct declared found fresh
      omega
  | succ depth induction =>
      cases found : table.find? reference with
      | none =>
          rw [typeFindings_of_unknown found]
          refine .nothing rfl fun route continues => ?_
          obtain ⟨definition, foundToo, _⟩ := continues.find?
          cases found.symm.trans foundToo
      | some definition =>
          by_cases member : definition.typeName ∈ opened
          · rw [typeFindings_of_entered found member]
            refine .nothing rfl fun route continues => ?_
            obtain ⟨_, foundToo, fresh⟩ := continues.find?
            cases found.symm.trans foundToo
            exact fresh member
          · have openedDistinct := List.nodup_cons.2 ⟨member, distinct⟩
            have openedDeclared := List.cons_subset.2 ⟨typeName_mem_typeNames found, declared⟩
            have room : table.size ≤ depth + (definition.typeName :: opened).length := by
              rw [List.length_cons]
              omega
            have enters (carried : Option Text) (reference : Text) :
                Enumerates (table.typeFindings depth (definition.typeName :: opened) reference)
                  (table.RouteFrom (definition.typeName :: opened) carried (.named reference)) :=
              induction room openedDistinct openedDeclared reference
            rw [typeFindings_of_fresh found member]
            obtain ⟨typeName, body⟩ := definition
            cases body with
            | record fields => exact enumerates_record found openedDistinct enters
            | variants variants => exact enumerates_variants found (enters none)

theorem enumerates_walk (table : TypeTable) (shape : Shape) :
    Enumerates (table.walk shape) (table.IsRoute shape) :=
  enumerates_findings .nil (fun reference =>
    enumerates_typeFindings (by simp) .nil (List.nil_subset _) reference) shape

end TypeTable

namespace Route

theorem filter_isFor_registration (label : Text) (routes : List Route) :
    (routes.map registration).filter (·.isFor label) =
      (routes.filter (·.isFor label)).map registration :=
  List.filter_map

theorem filter_along_registration (steps : List Step) (routes : List Route) :
    (routes.map registration).filter (·.along steps) =
      (routes.filter (·.along steps)).map registration :=
  List.filter_map

theorem flatMap_leaves_registration (routes : List Route) :
    (routes.map registration).flatMap (·.path.leaves) = routes.map (·.kind) := by
  rw [List.flatMap_map, List.map_eq_flatMap]
  rfl

end Route

namespace Schema

/-- The schema of a shape consists of the routes to its labelled leaves, depth first in the order
of declaration.  A label has the steps of the first route for it, and the kinds of all routes for
it along these steps, each kind once. -/
theorem get?_ofShape_eq_first_route (typeName : Text) (table : TypeTable) (shape : Shape) :
    ∃ routes : List Route,
      (∀ route, route ∈ routes ↔ table.IsRoute shape route) ∧
      routes.Pairwise Route.Before ∧
      ∀ label,
        ((ofShape typeName table shape).get? label).map (fun path => (path.steps, path.leaves)) =
          (routes.find? (·.isFor label)).map fun first =>
            (first.steps, (((routes.filter (·.isFor label)).filter
              (·.along first.steps)).map (·.kind)).eraseDups) := by
  obtain ⟨routes, registered, members, ordered⟩ := table.enumerates_walk shape
  refine ⟨routes, members, ordered, fun label => ?_⟩
  rw [ofShape, get?_build, registered, Route.filter_isFor_registration, List.head?_map,
    List.head?_filter, Option.map_map]
  refine congrArg (Option.map · _) (funext fun first => ?_)
  simp only [Function.comp_apply, Route.filter_along_registration,
    Route.flatMap_leaves_registration]
  rfl

theorem exists_route_for_of_get? {typeName label : Text} {table : TypeTable} {shape : Shape}
    {path : FieldPath} (known : (ofShape typeName table shape).get? label = some path) :
    ∃ route, table.IsRoute shape route ∧ route.isFor label = true ∧ route.steps = path.steps := by
  obtain ⟨routes, registered, members, _⟩ := table.enumerates_walk shape
  obtain ⟨registration, member, concerned, along⟩ := exists_registration_of_get? _ _ known
  rw [registered] at member
  obtain ⟨route, routeMember, rfl⟩ := List.mem_map.1 member
  exact ⟨route, (members route).1 routeMember, concerned, along⟩

end Schema

end RecordSearch
