import Mathlib.Data.List.Basic
import RecordSearch.Predicate.Compile
import RecordSearch.Proofs.Run

/-!
# Literals as tests

A literal compiles for every kind of leaf but texts, for which it may stand for
a pattern that is not accepted.  The test of a literal on the leaves of a path
has one matcher for each kind, in the order of the kinds.
-/

namespace RecordSearch

namespace Matcher

theorem ofNumber_eq (literal : Text) :
    ofNumber literal = (Number.read (Comparison.split literal).2).elim .never
      (.compared (Comparison.split literal).1) := by
  simp only [ofNumber]
  cases Number.read (Comparison.split literal).2 <;> rfl

theorem ofChoice_eq (table : List (Text × Int)) (literal : Text) :
    ofChoice table literal =
      if (Comparison.split literal).2 = [] then .never
      else if (Comparison.split literal).1 = .equal then
        .named (Text.lower (Comparison.split literal).2)
      else
        (table.find? fun entry =>
          Text.lowerAscii entry.1 == Text.lowerAscii (Comparison.split literal).2).elim .never
            fun entry => .ranked (Comparison.split literal).1 entry.2 := by
  simp only [ofChoice]
  cases table.find? fun entry =>
    Text.lowerAscii entry.1 == Text.lowerAscii (Comparison.split literal).2 <;> rfl

end Matcher

variable [PropertyTable]

namespace Matcher

/-- What is left of a literal without its negation marks and the blanks around it. -/
def bare (literal : Text) : Text :=
  Text.trimEnd (takeNegations literal).2

/-- The literal stands for a pattern that is not accepted: for an ill-formed or too large regular
expression, or for a glob that is too large. -/
inductive Malformed (literal : Text) : Prop where
  | expression {body : Text} :
      bare literal = regexMark ++ body →
      Regex.readWhole body = none →
      Malformed literal
  | glob :
      bare literal ≠ wildcard →
      '*' ∈ bare literal →
      (∀ body, bare literal ≠ regexMark ++ body) →
      quoted? (bare literal) = none →
      Regex.readGlob (bare literal) = none →
      Malformed literal

theorem compile_eq_map (kind : LeafKind) (literal : Text) :
    compile kind literal =
      (compilePlain kind (bare literal)).map (negateBy (takeNegations literal).1) :=
  rfl

theorem ofString_eq_none_iff {literal : Text} :
    ofString literal = none ↔
      (∃ body, literal = regexMark ++ body ∧ Regex.readWhole body = none) ∨
        ((∀ body, literal ≠ regexMark ++ body) ∧ quoted? literal = none ∧ '*' ∈ literal ∧
          Regex.readGlob literal = none) := by
  unfold ofString
  cases marked : regexMark.isPrefixOf? literal with
  | some body =>
      obtain rfl := List.isPrefixOf?_eq_some_iff_append_eq.1 marked
      simp
  | none =>
      have unmarked (body : Text) : literal ≠ regexMark ++ body := by
        intro equal
        rw [List.isPrefixOf?_eq_some_iff_append_eq.2 equal.symm] at marked
        cases marked
      cases quoted : quoted? literal with
      | some inner => simp [unmarked]
      | none => by_cases star : '*' ∈ literal <;> simp [unmarked, star]

theorem compile_eq_none_iff {kind : LeafKind} {literal : Text} :
    compile kind literal = none ↔ kind = .string ∧ Malformed literal := by
  rw [compile_eq_map, Option.map_eq_none_iff]
  unfold compilePlain
  by_cases everything : bare literal = wildcard
  · rw [if_pos everything]
    constructor
    · intro impossible
      cases impossible
    · intro malformed
      cases malformed.2 with
      | expression marked _ => cases everything.symm.trans marked
      | glob some _ _ _ _ => exact absurd everything some
  · rw [if_neg everything]
    cases kind with
    | string =>
        rw [ofString_eq_none_iff]
        constructor
        · intro either
          rcases either with ⟨body, marked, refused⟩ | ⟨unmarked, unquoted, star, refused⟩
          · exact ⟨rfl, .expression marked refused⟩
          · exact ⟨rfl, .glob everything star unmarked unquoted refused⟩
        · intro malformed
          cases malformed.2 with
          | expression marked refused => exact .inl ⟨_, marked, refused⟩
          | glob _ star unmarked unquoted refused =>
              exact .inr ⟨unmarked, unquoted, star, refused⟩
    | _ => simp

end Matcher

namespace FieldPath

variable {path : FieldPath} {literal : Text}

def kindTest (literal : Text) (kind : LeafKind) : Except SearchError (LeafKind × Matcher) :=
  match Matcher.compile kind literal with
  | some matcher => .ok (kind, matcher)
  | none => .error .malformedPattern

theorem kindTest_eq_error_iff {kind : LeafKind} {error : SearchError} :
    kindTest literal kind = .error error ↔
      (kind = .string ∧ Matcher.Malformed literal) ∧ error = .malformedPattern := by
  rw [← Matcher.compile_eq_none_iff, kindTest]
  cases Matcher.compile kind literal <;> simp [eq_comm]

theorem leafTest_eq_bind :
    path.leafTest literal = (do
      let matchers ← path.leaves.mapM (kindTest literal)
      return { key := path.wirePath, matchers }) :=
  rfl

theorem leafTest_eq_error_iff {error : SearchError} :
    path.leafTest literal = .error error ↔
      (.string ∈ path.leaves ∧ Matcher.Malformed literal) ∧ error = .malformedPattern := by
  have fails (kind : LeafKind) (other : SearchError) :
      kindTest literal kind = .error other ↔
        (kind = .string ∧ Matcher.Malformed literal) ∧ other = .malformedPattern :=
    kindTest_eq_error_iff
  rw [leafTest_eq_bind, Run.bind_eq_error_iff, Run.mapM_eq_error_iff, First.iff_of_single fails]
  simp [pure, Except.pure]

theorem kindTest_eq_ok_iff {kind : LeafKind} {entry : LeafKind × Matcher} :
    kindTest literal kind = .ok entry ↔
      entry.1 = kind ∧ Matcher.compile kind literal = some entry.2 := by
  unfold kindTest
  cases Matcher.compile kind literal <;> simp [Prod.ext_iff, eq_comm]

theorem leafTest_eq_ok_iff {test : LeafTest} :
    path.leafTest literal = .ok test ↔
      test.key = path.wirePath ∧ path.leaves.mapM (kindTest literal) = .ok test.matchers := by
  rw [leafTest_eq_bind, Run.bind_eq_ok_iff]
  simp only [Run.pure_eq_ok_iff]
  constructor
  · intro compiled
    obtain ⟨matchers, run, rfl⟩ := compiled
    exact ⟨rfl, run⟩
  · intro parts
    obtain ⟨key, run⟩ := parts
    exact ⟨test.matchers, run, by rw [← key]⟩

/-- The test for the first kind that accepts a value is the one of this kind. -/
theorem find?_kindTests {kinds : List LeafKind} {matchers : List (LeafKind × Matcher)}
    (run : kinds.mapM (kindTest literal) = .ok matchers) {kind : LeafKind} {value : Value}
    (first : kinds.find? (fun kind => kind.accepts value) = some kind) :
    (matchers.find? fun entry => entry.1.accepts value).map (·.2) =
      Matcher.compile kind literal := by
  induction kinds generalizing matchers with
  | nil => cases first
  | cons other kinds induction =>
      obtain ⟨entry, entries, compiled, rest, rfl⟩ := Run.mapM_cons_eq_ok_iff.1 run
      obtain ⟨rfl, compiled⟩ := kindTest_eq_ok_iff.1 compiled
      rw [List.find?_cons] at first ⊢
      cases accepted : entry.1.accepts value with
      | true =>
          rw [accepted] at first
          cases first
          exact compiled.symm
      | false =>
          rw [accepted] at first
          exact induction rest first

/-- A literal that compiles for the leaves of a path compiles for each kind of them. -/
theorem exists_compile {test : LeafTest} (compiled : path.leafTest literal = .ok test)
    {kind : LeafKind} (member : kind ∈ path.leaves) :
    ∃ matcher, Matcher.compile kind literal = some matcher := by
  obtain ⟨entry, entryCompiled⟩ :=
    Run.mapM_isOk_iff.1 ⟨_, (leafTest_eq_ok_iff.1 compiled).2⟩ kind member
  exact ⟨_, (kindTest_eq_ok_iff.1 entryCompiled).2⟩

/-- A value is tested by what the literal means for the first kind that accepts it. -/
theorem matcherFor_eq_compile {test : LeafTest} (compiled : path.leafTest literal = .ok test)
    {kind : LeafKind} {value : Value}
    (first : path.leaves.find? (fun kind => kind.accepts value) = some kind) :
    test.matcherFor value = Matcher.compile kind literal := by
  have chosen := find?_kindTests (leafTest_eq_ok_iff.1 compiled).2 first
  obtain ⟨matcher, means⟩ := exists_compile compiled (List.mem_of_find?_eq_some first)
  rw [means, Option.map_eq_some_iff] at chosen
  obtain ⟨entry, found, rfl⟩ := chosen
  rw [LeafTest.matcherFor, found, means]

/-- A value is accepted by what the literal means for the first kind that accepts it. -/
theorem accepts_iff {test : LeafTest} (compiled : path.leafTest literal = .ok test)
    {kind : LeafKind} {value : Value}
    (first : path.leaves.find? (fun kind => kind.accepts value) = some kind) :
    test.accepts value = true ↔
      ∃ matcher, Matcher.compile kind literal = some matcher ∧ matcher.accepts value = true := by
  rw [LeafTest.accepts, matcherFor_eq_compile compiled first, Option.any_eq_true]

theorem exists_leafTest
    (compiles : ∀ kind ∈ path.leaves, ∃ matcher, Matcher.compile kind literal = some matcher) :
    ∃ test, path.leafTest literal = .ok test := by
  have run : ∃ matchers, path.leaves.mapM (kindTest literal) = .ok matchers :=
    Run.mapM_isOk_iff.2 fun kind member => by
      obtain ⟨matcher, compiled⟩ := compiles kind member
      exact ⟨(kind, matcher), kindTest_eq_ok_iff.2 ⟨rfl, compiled⟩⟩
  obtain ⟨matchers, run⟩ := run
  exact ⟨{ key := path.wirePath, matchers }, leafTest_eq_ok_iff.2 ⟨rfl, run⟩⟩

end FieldPath

end RecordSearch
