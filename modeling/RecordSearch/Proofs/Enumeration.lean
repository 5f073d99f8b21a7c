import RecordSearch.Proofs.Route
import Mathlib.Data.List.Lex

/-!
# Findings as lists of routes

What a walk finds in a part of a shape enumerates the routes that begin there.
The routes of a compound are enumerated by those of its parts.
-/

namespace RecordSearch

namespace Registration

def under (step : Step) (registration : Registration) : Registration :=
  { registration with path := { registration.path with steps := step :: registration.path.steps } }

end Registration

namespace Finding

theorem registration?_under (step : Step) (finding : Finding) :
    (finding.under step).registration? = finding.registration?.map (Registration.under step) := by
  cases finding <;> rfl

theorem filterMap_registration?_under (step : Step) (findings : List Finding) :
    (findings.map (Finding.under step)).filterMap registration? =
      (findings.filterMap registration?).map (Registration.under step) := by
  rw [List.filterMap_map, List.map_filterMap]
  exact congrArg (List.filterMap · findings) (funext (registration?_under step))

end Finding

/-- The leaves among some findings are those of the valid routes, one for each route and in the
order of declaration. -/
def Enumerates (findings : List Finding) (valid : Route → Prop) : Prop :=
  ∃ routes : List Route,
    findings.filterMap Finding.registration? = routes.map Route.registration ∧
    (∀ route, route ∈ routes ↔ valid route) ∧
    routes.Pairwise Route.Before

namespace Enumerates

variable {findings : List Finding} {valid other : Route → Prop}

theorem congr (enumerates : Enumerates findings valid)
    (same : ∀ route, valid route ↔ other route) : Enumerates findings other := by
  obtain ⟨routes, registered, members, ordered⟩ := enumerates
  exact ⟨routes, registered, fun route => (members route).trans (same route), ordered⟩

theorem nothing (silent : findings.filterMap Finding.registration? = [])
    (invalid : ∀ route, ¬valid route) : Enumerates findings valid := by
  refine ⟨[], silent, fun route => ?_, .nil⟩
  exact iff_of_false List.not_mem_nil (invalid route)

theorem single (label : Text) (kind : LeafKind) :
    Enumerates [.leaf label [] kind] fun route => route = { turns := [], label, kind } := by
  refine ⟨[{ turns := [], label, kind }], rfl, fun route => ?_, List.pairwise_singleton _ _⟩
  exact List.mem_singleton

theorem ignored {finding : Finding} (silent : finding.registration? = none)
    (enumerates : Enumerates findings valid) : Enumerates (finding :: findings) valid := by
  obtain ⟨routes, registered, members⟩ := enumerates
  exact ⟨routes, by rw [List.filterMap_cons_none silent, registered], members⟩

theorem after (enumerates : Enumerates findings valid) (front : List Turn) (step : Step)
    (taken : ∀ route, valid route → (route.after front).steps = step :: route.steps) :
    Enumerates (findings.map (.under step)) fun route =>
      ∃ inner, valid inner ∧ route = inner.after front := by
  obtain ⟨routes, registered, members, ordered⟩ := enumerates
  refine ⟨routes.map (·.after front), ?_, fun route => ?_, ?_⟩
  · rw [Finding.filterMap_registration?_under, registered, List.map_map, List.map_map]
    refine List.map_congr_left fun route member => ?_
    simp only [Function.comp_apply, Route.registration, Registration.under,
      taken route ((members route).1 member)]
    rfl
  · simp only [List.mem_map, members, eq_comm (b := route)]
  · refine List.pairwise_map.2 (ordered.imp fun before => ?_)
    exact List.Lex.append_left Turn.Before before front

theorem append {later : List Finding} (first : Enumerates findings valid)
    (second : Enumerates later other)
    (ordered : ∀ route following, valid route → other following → route.Before following) :
    Enumerates (findings ++ later) fun route => valid route ∨ other route := by
  obtain ⟨routes, registered, members, routesOrdered⟩ := first
  obtain ⟨followings, followingRegistered, followingMembers, followingsOrdered⟩ := second
  refine ⟨routes ++ followings, ?_, fun route => ?_, ?_⟩
  · rw [List.filterMap_append, registered, followingRegistered, List.map_append]
  · rw [List.mem_append, members, followingMembers]
  · refine List.pairwise_append.2 ⟨routesOrdered, followingsOrdered, ?_⟩
    intro route member following followingMember
    exact ordered route following ((members route).1 member)
      ((followingMembers following).1 followingMember)

/-- The findings in some items, one after the other, enumerate the routes through any of them. -/
theorem flatMap {Item : Type} (items : List Item) {found : Item → List Finding}
    (valid : Nat → Item → Route → Prop)
    (each : ∀ position item, items[position]? = some item →
      Enumerates (found item) (valid position item))
    (ordered : ∀ first second item following route other, first < second →
      valid first item route → valid second following other → route.Before other) :
    Enumerates (items.flatMap found) fun route =>
      ∃ position item, items[position]? = some item ∧ valid position item route := by
  induction items generalizing valid with
  | nil => exact nothing rfl (by simp)
  | cons head items induction =>
      have rest : Enumerates (items.flatMap found) fun route =>
          ∃ position item, items[position]? = some item ∧ valid (position + 1) item route := by
        refine induction (fun position => valid (position + 1))
          (fun position item declared => each (position + 1) item declared) ?_
        intro first second item following route other before
        exact ordered _ _ item following route other (Nat.succ_lt_succ before)
      have joined := (each 0 head rfl).append rest fun route other here =>
        fun ⟨position, item, _, there⟩ => ordered _ _ _ _ _ _ position.succ_pos here there
      refine joined.congr fun route => ⟨?_, ?_⟩
      · intro either
        rcases either with here | ⟨position, item, declared, there⟩
        · exact ⟨0, head, rfl, here⟩
        · exact ⟨position + 1, item, declared, there⟩
      · intro declared
        rcases declared with ⟨_ | position, item, declared, validThere⟩
        · cases declared
          exact .inl validThere
        · exact .inr ⟨position, item, declared, validThere⟩

end Enumerates

end RecordSearch
