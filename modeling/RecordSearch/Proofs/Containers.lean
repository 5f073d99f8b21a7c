import RecordSearch.Proofs.Conformance
import RecordSearch.Proofs.LabelledRoutes

/-!
# Containers

A container is built from leaves by pointers, lists and maps.  The label of a
field applies to all leaves of its container, but registers only those behind
the steps to the first one, since a label has one list of steps.  The keys of a
map come before its values.
-/

namespace RecordSearch

namespace Shape

/-- The shape is built from leaves by pointers, lists and maps. -/
inductive IsContainer : Shape → Prop where
  | leaf {kind : LeafKind} : IsContainer (.leaf kind)
  | pointer {target : Shape} : IsContainer target → IsContainer (.pointer target)
  | list {item : Shape} : IsContainer item → IsContainer (.list item)
  | map {key value : Shape} : IsContainer key → IsContainer value → IsContainer (.map key value)

/-- The steps to the leaves of a container with the kinds of the leaves, keys before values. -/
def places : Shape → List (List Step × LeafKind)
  | .leaf kind => [([], kind)]
  | .pointer target => target.places.map fun place => (.pointer :: place.1, place.2)
  | .list item => item.places.map fun place => (.list :: place.1, place.2)
  | .map key value => (key.places ++ value.places).map fun place => (.map :: place.1, place.2)
  | .named _ => []
  | .hidden => []

def firstSteps : Shape → List Step
  | .leaf _ => []
  | .pointer target => .pointer :: target.firstSteps
  | .list item => .list :: item.firstSteps
  | .map key _ => .map :: key.firstSteps
  | .named _ => []
  | .hidden => []

theorem IsContainer.places_eq_cons {shape : Shape} (container : shape.IsContainer) :
    ∃ kind rest, shape.places = (shape.firstSteps, kind) :: rest := by
  induction container with
  | leaf => exact ⟨_, _, rfl⟩
  | pointer _ induction =>
      obtain ⟨kind, rest, equal⟩ := induction
      exact ⟨kind, _, by rw [places, equal, List.map_cons, firstSteps]⟩
  | list _ induction =>
      obtain ⟨kind, rest, equal⟩ := induction
      exact ⟨kind, _, by rw [places, equal, List.map_cons, firstSteps]⟩
  | map _ _ induction _ =>
      obtain ⟨kind, rest, equal⟩ := induction
      exact ⟨kind, _, by rw [places, equal, List.cons_append, List.map_cons, firstSteps]⟩

theorem IsContainer.registrations {shape : Shape} (container : shape.IsContainer)
    (enter : Text → List Finding) (label : Text) :
    (shape.findings enter (some label)).filterMap Finding.registration? =
      shape.places.map fun place => { label, path := { steps := place.1, leaf := place.2 } } := by
  induction container with
  | leaf => rfl
  | pointer _ induction =>
      rw [findings, Finding.filterMap_registration?_under, induction, places, List.map_map,
        List.map_map]
      rfl
  | list _ induction =>
      rw [findings, Finding.filterMap_registration?_under, induction, places, List.map_map,
        List.map_map]
      rfl
  | map _ _ keyInduction valueInduction =>
      rw [findings, Finding.filterMap_registration?_under, List.filterMap_append, keyInduction,
        valueInduction, places, ← List.map_append, List.map_map, List.map_map]
      rfl

end Shape

namespace TypeTable

variable {table : TypeTable} {shape : Shape} {node : Node} {turns : List Turn} {value : Value}

theorem LiesAt.entersRecords (lies : table.LiesAt shape node turns value)
    (container : shape.IsContainer) : Step.EntersRecords (Turn.steps turns) := by
  induction lies with
  | leaf => trivial
  | pointer _ induction =>
      cases container with
      | pointer container => exact induction container
  | list _ _ induction =>
      cases container with
      | list container => exact induction container
  | key _ _ induction =>
      cases container with
      | map container _ => exact induction container
  | value _ _ induction =>
      cases container with
      | map _ container => exact induction container
  | field => cases container
  | variant => cases container

theorem LiesAt.exists_mem_places (lies : table.LiesAt shape node turns value)
    (container : shape.IsContainer) : ∃ kind, (Turn.steps turns, kind) ∈ shape.places := by
  induction lies with
  | leaf => exact ⟨_, List.mem_singleton_self _⟩
  | pointer _ induction =>
      cases container with
      | pointer container =>
          obtain ⟨kind, member⟩ := induction container
          exact ⟨kind, List.mem_map.2 ⟨_, member, rfl⟩⟩
  | list _ _ induction =>
      cases container with
      | list container =>
          obtain ⟨kind, member⟩ := induction container
          exact ⟨kind, List.mem_map.2 ⟨_, member, rfl⟩⟩
  | key _ _ induction =>
      cases container with
      | map container _ =>
          obtain ⟨kind, member⟩ := induction container
          exact ⟨kind, List.mem_map.2 ⟨_, List.mem_append_left _ member, rfl⟩⟩
  | value _ _ induction =>
      cases container with
      | map _ container =>
          obtain ⟨kind, member⟩ := induction container
          exact ⟨kind, List.mem_map.2 ⟨_, List.mem_append_right _ member, rfl⟩⟩
  | field => cases container
  | variant => cases container

end TypeTable

end RecordSearch
