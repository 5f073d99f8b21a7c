import Mathlib.Data.List.Forall2
import RecordSearch.Proofs.QueryMeaning
import RecordSearch.Query.Codec

/-!
# The spellings of a query in JSON

A query has many spellings: the parts of a field condition may stand in an object, in any order and
among members that mean nothing, or in an array, its mark may be missing, a name without data may
come with the value null, and a text may have the lists of a boolean query in an array.  `Spelled`
says which JSON values spell a query, beside the functions that read them.  Exactly one spelling of
a query is canonical, and it is the one that is written.
-/

namespace RecordSearch

section Lists

variable {α β : Type} {read : α → Option β} {Relation : α → β → Prop}

/-- Items are read one after the other where each of them is related to its value. -/
theorem mapM_eq_some_iff_forall₂ {items : List α} {values : List β}
    (reads : ∀ {item value}, read item = some value ↔ Relation item value) :
    items.mapM read = some values ↔ List.Forall₂ Relation items values := by
  induction items generalizing values with
  | nil => simp [eq_comm]
  | cons item items induction =>
      cases values with
      | nil => simp [List.mapM_cons, Option.bind_eq_some_iff]
      | cons value values =>
          rw [List.forall₂_cons, ← reads, ← induction]
          simp [List.mapM_cons, Option.bind_eq_some_iff]

theorem forall₂_imp_of_mem {Weaker : α → β → Prop} {items : List α} {values : List β}
    (related : List.Forall₂ Relation items values)
    (weaken : ∀ value ∈ values, ∀ {item}, Relation item value → Weaker item value) :
    List.Forall₂ Weaker items values := by
  induction related with
  | nil => exact .nil
  | cons first _ induction =>
      obtain ⟨weakenFirst, weakenRest⟩ := List.forall_mem_cons.1 weaken
      exact .cons (weakenFirst first) (induction weakenRest)

theorem eq_map_of_forall₂ {write : β → α} {Standard : α → Prop} {items : List α} {values : List β}
    (related : List.Forall₂ Relation items values) (standard : ∀ item ∈ items, Standard item)
    (same : ∀ value ∈ values, ∀ {item}, Relation item value → Standard item → item = write value) :
    items = values.map write := by
  rw [← List.forall₂_eq_eq_eq, List.forall₂_map_right_iff]
  have both := (List.forall₂_and_left items values).2 ⟨standard, related⟩
  exact forall₂_imp_of_mem both fun value member _ both => same value member both.2 both.1

end Lists

namespace Json

variable {json : Json}

theorem text?_eq_some_iff {text : Text} : json.text? = some text ↔ json = .string text := by
  cases json <;> simp [text?]

theorem bool?_eq_some_iff {truth : Bool} : json.bool? = some truth ↔ json = .bool truth := by
  cases json <;> simp [bool?]

theorem texts?_eq_some_iff {texts : List Text} :
    json.texts? = some texts ↔ json = .array (texts.map .string) := by
  cases json with
  | array items =>
      rw [texts?, mapM_eq_some_iff_forall₂ text?_eq_some_iff, Json.array.injEq,
        ← List.forall₂_eq_eq_eq, List.forall₂_map_right_iff]
  | _ => simp [texts?]

end Json

namespace FieldMatch

/-- The mark for highlighting, which is not set where it is missing. -/
inductive MarkSpelled : List Json → Bool → Prop
  | missing : MarkSpelled [] false
  | given (truth : Bool) : MarkSpelled [.bool truth] truth

inductive Spelled : Json → FieldMatch → Prop
  | members {members : List (Text × Json)} {label value : Text} {highlight : Bool} :
      Json.named "label".toList members = [.string label] →
      Json.named "value".toList members = [.string value] →
      MarkSpelled (Json.named "highlight".toList members) highlight →
      Spelled (.object members) ⟨label, value, highlight⟩
  | parts {label value : Text} {mark : List Json} {highlight : Bool} :
      MarkSpelled mark highlight →
      Spelled (.array (.string label :: .string value :: mark)) ⟨label, value, highlight⟩

/-- The canonical form of field conditions: an object of all three parts in their order. -/
inductive Canonical : Json → Prop
  | members (label value : Text) (highlight : Bool) :
      Canonical (.object [
        ("label".toList, .string label),
        ("value".toList, .string value),
        ("highlight".toList, .bool highlight)])

variable {json : Json} {field : FieldMatch}

theorem ofParts?_eq_some_iff {label value : Json} {mark : List Json} :
    ofParts? label value mark = some field ↔
      label = .string field.label ∧ value = .string field.value ∧
        MarkSpelled mark field.highlight := by
  obtain ⟨fieldLabel, fieldValue, highlight⟩ := field
  fun_cases ofParts? label value mark with
  | case1 =>
      have unset : MarkSpelled [] highlight ↔ false = highlight :=
        ⟨fun spelled => by cases spelled; rfl, fun same => same ▸ .missing⟩
      simp [Option.bind_eq_some_iff, Json.text?_eq_some_iff, unset]
  | case2 mark =>
      have given : MarkSpelled [mark] highlight ↔ mark = .bool highlight :=
        ⟨fun spelled => by cases spelled; rfl, fun same => same ▸ .given highlight⟩
      simp only [Option.bind_eq_bind, Option.bind_eq_some_iff, Json.text?_eq_some_iff,
        Json.bool?_eq_some_iff, Option.pure_def, Option.some.injEq, FieldMatch.mk.injEq, given]
      constructor
      · intro run
        obtain ⟨_, labelled, _, valued, _, marked, rfl, rfl, rfl⟩ := run
        exact ⟨labelled, valued, marked⟩
      · intro spelled
        obtain ⟨labelled, valued, marked⟩ := spelled
        exact ⟨_, labelled, _, valued, _, marked, rfl, rfl, rfl⟩
  | case3 mark several pair =>
      have unspelled : ¬MarkSpelled mark highlight := by
        intro spelled
        cases spelled with
        | missing => exact several rfl
        | given => exact pair _ rfl
      simp [unspelled]

theorem spelled_of_ofJson? (run : ofJson? json = some field) : Spelled json field := by
  revert run
  fun_cases ofJson? json with
  | case1 members label value valued labelled =>
      intro run
      obtain ⟨rfl, rfl, marked⟩ := ofParts?_eq_some_iff.1 run
      exact .members labelled valued marked
  | case3 label value mark =>
      intro run
      obtain ⟨rfl, rfl, marked⟩ := ofParts?_eq_some_iff.1 run
      exact .parts marked
  | case2 | case4 =>
      intro run
      cases run

theorem ofJson?_of_spelled (spelled : Spelled json field) : ofJson? json = some field := by
  cases spelled with
  | members labelled valued marked =>
      simp only [ofJson?, labelled, valued]
      exact ofParts?_eq_some_iff.2 ⟨rfl, rfl, marked⟩
  | parts marked => exact ofParts?_eq_some_iff.2 ⟨rfl, rfl, marked⟩

/-- A field condition is read off exactly its spellings. -/
theorem ofJson?_eq_some_iff : ofJson? json = some field ↔ Spelled json field :=
  ⟨spelled_of_ofJson?, ofJson?_of_spelled⟩

theorem spelled_toJson (field : FieldMatch) : Spelled field.toJson field :=
  .members rfl rfl (.given field.highlight)

theorem canonical_toJson (field : FieldMatch) : Canonical field.toJson :=
  .members field.label field.value field.highlight

theorem eq_toJson_of_canonical (spelled : Spelled json field) (canonical : Canonical json) :
    json = field.toJson := by
  cases canonical with
  | members label value highlight =>
      have written := ofJson?_of_spelled (spelled_toJson ⟨label, value, highlight⟩)
      have read := ofJson?_of_spelled spelled
      obtain rfl : ⟨label, value, highlight⟩ = field := Option.some.inj (written.symm.trans read)
      rfl

end FieldMatch

namespace Condition

inductive Spelled : Json → Condition → Prop
  | field {body : Json} {single : FieldMatch} :
      FieldMatch.Spelled body single →
      Spelled (.object [("match_field".toList, body)]) (.field single)
  | linked {items : List Json} {fields : List FieldMatch} :
      List.Forall₂ FieldMatch.Spelled items fields →
      Spelled (.object [("match_linked_fields".toList, .array items)]) (.linked fields)
  | documents (identifiers : List Text) :
      Spelled (.object [("doc_ids".toList, .array (identifiers.map .string))])
        (.documents identifiers)
  | nothing : Spelled (.string "match_none".toList) .nothing
  | nullNothing : Spelled (.object [("match_none".toList, .null)]) .nothing

/-- The canonical form of conditions: the conditions on fields in theirs, and no value null. -/
inductive Canonical : Json → Prop
  | field {body : Json} :
      FieldMatch.Canonical body → Canonical (.object [("match_field".toList, body)])
  | linked {items : List Json} :
      (∀ item ∈ items, FieldMatch.Canonical item) →
      Canonical (.object [("match_linked_fields".toList, .array items)])
  | documents (identifiers : List Text) :
      Canonical (.object [("doc_ids".toList, .array (identifiers.map .string))])
  | nothing : Canonical (.string "match_none".toList)

variable {json : Json} {condition : Condition}

theorem spelled_of_ofJson? (run : ofJson? json = some condition) : Spelled json condition := by
  revert run
  fun_cases ofJson? json with
  | case1 =>
      intro run
      cases run
      exact .nothing
  | case3 body =>
      intro mapped
      obtain ⟨single, run, rfl⟩ := Option.map_eq_some_iff.1 mapped
      exact .field (FieldMatch.spelled_of_ofJson? run)
  | case4 items =>
      intro mapped
      obtain ⟨fields, run, rfl⟩ := Option.map_eq_some_iff.1 mapped
      exact .linked
        ((mapM_eq_some_iff_forall₂ FieldMatch.ofJson?_eq_some_iff).1 run)
  | case6 body =>
      intro mapped
      obtain ⟨identifiers, run, rfl⟩ := Option.map_eq_some_iff.1 mapped
      obtain rfl := Json.texts?_eq_some_iff.1 run
      exact .documents identifiers
  | case7 =>
      intro run
      cases run
      exact .nullNothing
  | case2 | case5 | case8 | case9 | case10 =>
      intro run
      cases run

theorem ofJson?_of_spelled (spelled : Spelled json condition) :
    ofJson? json = some condition := by
  cases spelled with
  | field spelled => simp [ofJson?, FieldMatch.ofJson?_of_spelled spelled]
  | linked spelled =>
      have run := (mapM_eq_some_iff_forall₂ FieldMatch.ofJson?_eq_some_iff).2 spelled
      simp [ofJson?, run]
  | documents identifiers =>
      have run : (Json.array (identifiers.map .string)).texts? = some identifiers :=
        Json.texts?_eq_some_iff.2 rfl
      simp [ofJson?, run]
  | nothing => simp [ofJson?]
  | nullNothing => simp [ofJson?]

theorem ofJson?_eq_some_iff : ofJson? json = some condition ↔ Spelled json condition :=
  ⟨spelled_of_ofJson?, ofJson?_of_spelled⟩

theorem spelled_toJson (condition : Condition) : Spelled condition.toJson condition := by
  cases condition with
  | field single => exact .field single.spelled_toJson
  | linked fields =>
      exact .linked (List.forall₂_map_left_iff.2
        (List.forall₂_same.2 fun field _ => field.spelled_toJson))
  | documents identifiers => exact .documents identifiers
  | nothing => exact .nothing

theorem canonical_toJson (condition : Condition) : Canonical condition.toJson := by
  cases condition with
  | field single => exact .field single.canonical_toJson
  | linked fields =>
      exact .linked (List.forall_mem_map.2 fun field _ => field.canonical_toJson)
  | documents identifiers => exact .documents identifiers
  | nothing => exact .nothing

theorem eq_toJson_of_canonical (spelled : Spelled json condition) (canonical : Canonical json) :
    json = condition.toJson := by
  cases spelled with
  | field spelled =>
      generalize key : "match_field".toList = name at canonical
      cases canonical with
      | field canonical => rw [toJson, FieldMatch.eq_toJson_of_canonical spelled canonical]
      | linked _ | documents _ => simp at key
  | linked spelled =>
      generalize key : "match_linked_fields".toList = name at canonical
      cases canonical with
      | linked canonical =>
          rw [toJson, eq_map_of_forall₂ spelled canonical
            fun _ _ => FieldMatch.eq_toJson_of_canonical]
      | field _ | documents _ => simp at key
  | documents identifiers => rfl
  | nothing => rfl
  | nullNothing =>
      generalize key : "match_none".toList = name at canonical
      cases canonical with
      | field _ => simp at key

end Condition

namespace Query

variable (source : Json.Source)

/-- The JSON values that spell a query by its name, where `Member` tells what spells a member. -/
inductive Form (Member : Json → Query → Prop) : Json → Query → Prop
  | conjunction {items : List Json} {children : List Query} :
      List.Forall₂ Member items children →
      Form Member (.object [("conjunction".toList, .array items)]) (.conjunction children)
  | disjunction {items : List Json} {children : List Query} :
      List.Forall₂ Member items children →
      Form Member (.object [("disjunction".toList, .array items)]) (.disjunction children)
  | boolean {members : List (Text × Json)} {required excluded : List Json}
      {must mustNot : List Query} :
      Json.named "must".toList members = [.array required] →
      Json.named "must_not".toList members = [.array excluded] →
      List.Forall₂ Member required must →
      List.Forall₂ Member excluded mustNot →
      Form Member (.object [("boolean".toList, .object members)]) (.boolean must mustNot)
  | booleanParts {required excluded : List Json} {must mustNot : List Query} :
      source = .text →
      List.Forall₂ Member required must →
      List.Forall₂ Member excluded mustNot →
      Form Member (.object [("boolean".toList, .array [.array required, .array excluded])])
        (.boolean must mustNot)
  | base {body : Json} {condition : Condition} :
      Condition.Spelled body condition →
      Form Member (.object [("base".toList, body)]) (.base condition)
  | empty : Form Member (.string "empty".toList) .empty
  | nullEmpty : Form Member (.object [("empty".toList, .null)]) .empty

/-- The JSON values that spell a query. -/
inductive Spelled : Json → Query → Prop
  | form {json : Json} {query : Query} : Form source Spelled json query → Spelled json query

/-- The canonical form of queries: each under its name with its members in canonical form, and
nothing else beside the two lists of a boolean query. -/
inductive Canonical : Json → Prop
  | conjunction {items : List Json} :
      (∀ item ∈ items, Canonical item) →
      Canonical (.object [("conjunction".toList, .array items)])
  | disjunction {items : List Json} :
      (∀ item ∈ items, Canonical item) →
      Canonical (.object [("disjunction".toList, .array items)])
  | boolean {required excluded : List Json} :
      (∀ item ∈ required, Canonical item) →
      (∀ item ∈ excluded, Canonical item) →
      Canonical (.object [("boolean".toList, .object [
        ("must".toList, .array required),
        ("must_not".toList, .array excluded)])])
  | base {body : Json} :
      Condition.Canonical body → Canonical (.object [("base".toList, body)])
  | empty : Canonical (.string "empty".toList)

def Reads (json : Json) (query : Query) : Prop :=
  ofJson? source json = some query

variable {source : Json.Source} {json : Json} {query : Query} {Member : Json → Query → Prop}

theorem ofJsonArray?_eq_some_iff {queries : List Query} :
    ofJsonArray? source json = some queries ↔
      ∃ items, json = .array items ∧ List.Forall₂ (Reads source) items queries := by
  cases json with
  | array items =>
      have reads : items.mapM (ofJson? source) = some queries ↔
          List.Forall₂ (Reads source) items queries :=
        mapM_eq_some_iff_forall₂ Iff.rfl
      simp [ofJsonArray?, reads]
  | _ => simp [ofJsonArray?]

theorem bind_ofJsonArray?_eq_some_iff {must mustNot : Json} :
    (do return .boolean (← ofJsonArray? source must) (← ofJsonArray? source mustNot)) =
        some query ↔
      ∃ required excluded children others, must = .array required ∧ mustNot = .array excluded ∧
        List.Forall₂ (Reads source) required children ∧
        List.Forall₂ (Reads source) excluded others ∧ .boolean children others = query := by
  simp only [Option.bind_eq_bind, Option.bind_eq_some_iff, ofJsonArray?_eq_some_iff,
    Option.pure_def, Option.some.injEq]
  constructor
  · intro run
    obtain ⟨children, ⟨required, isRequired, reads⟩, others, excludes, whole⟩ := run
    obtain ⟨excluded, isExcluded, readsNot⟩ := excludes
    exact ⟨required, excluded, children, others, isRequired, isExcluded, reads, readsNot, whole⟩
  · intro parts
    obtain ⟨required, excluded, children, others, isRequired, isExcluded, reads, rest⟩ := parts
    exact ⟨children, ⟨required, isRequired, reads⟩, others, ⟨excluded, isExcluded, rest.1⟩, rest.2⟩

theorem form_of_ofJsonBoolean? (run : ofJsonBoolean? source json = some query) :
    Form source (Reads source) (.object [("boolean".toList, json)]) query := by
  revert run
  fun_cases ofJsonBoolean? source json with
  | case1 members required excluded isExcluded isRequired =>
      intro run
      simp only [ofJsonMembers_eq_map, List.map_eq_singleton_iff] at isRequired isExcluded
      obtain ⟨_, isRequired, rfl⟩ := isRequired
      obtain ⟨_, isExcluded, rfl⟩ := isExcluded
      obtain ⟨_, _, _, _, rfl, rfl, reads, readsNot, rfl⟩ := bind_ofJsonArray?_eq_some_iff.1 run
      exact .boolean isRequired isExcluded reads readsNot
  | case3 required excluded isText =>
      intro run
      obtain ⟨_, _, _, _, rfl, rfl, reads, readsNot, rfl⟩ := bind_ofJsonArray?_eq_some_iff.1 run
      exact .booleanParts isText reads readsNot
  | case2 | case4 | case5 =>
      intro run
      cases run

theorem form_of_ofJson? (run : ofJson? source json = some query) :
    Form source (Reads source) json query := by
  revert run
  fun_cases ofJson? source json with
  | case1 =>
      intro run
      cases run
      exact .empty
  | case3 body =>
      intro mapped
      obtain ⟨children, run, rfl⟩ := Option.map_eq_some_iff.1 mapped
      obtain ⟨items, rfl, reads⟩ := ofJsonArray?_eq_some_iff.1 run
      exact .conjunction reads
  | case4 body =>
      intro mapped
      obtain ⟨children, run, rfl⟩ := Option.map_eq_some_iff.1 mapped
      obtain ⟨items, rfl, reads⟩ := ofJsonArray?_eq_some_iff.1 run
      exact .disjunction reads
  | case5 body => exact form_of_ofJsonBoolean?
  | case6 body =>
      intro mapped
      obtain ⟨condition, run, rfl⟩ := Option.map_eq_some_iff.1 mapped
      exact .base (Condition.spelled_of_ofJson? run)
  | case7 =>
      intro run
      cases run
      exact .nullEmpty
  | case2 | case8 | case9 | case10 =>
      intro run
      cases run

theorem ofJson?_of_form (form : Form source (Reads source) json query) :
    ofJson? source json = some query := by
  cases form with
  | conjunction reads => simp [ofJson?, ofJsonArray?_eq_some_iff.2 ⟨_, rfl, reads⟩]
  | disjunction reads => simp [ofJson?, ofJsonArray?_eq_some_iff.2 ⟨_, rfl, reads⟩]
  | boolean isRequired isExcluded reads readsNot =>
      have parts := bind_ofJsonArray?_eq_some_iff.2 ⟨_, _, _, _, rfl, rfl, reads, readsNot, rfl⟩
      simp only [ofJson?, ofJsonBoolean?, ofJsonMembers_eq_map, isRequired, isExcluded, List.map]
      simpa using parts
  | booleanParts isText reads readsNot =>
      have parts := bind_ofJsonArray?_eq_some_iff.2 ⟨_, _, _, _, rfl, rfl, reads, readsNot, rfl⟩
      simp only [ofJson?, ofJsonBoolean?]
      simpa [isText] using parts
  | base spelled => simp [ofJson?, Condition.ofJson?_of_spelled spelled]
  | empty => simp [ofJson?]
  | nullEmpty => simp [ofJson?]

/-- Reading looks at the name, and reads the members for themselves. -/
theorem ofJson?_eq_some_iff_form :
    ofJson? source json = some query ↔ Form source (Reads source) json query :=
  ⟨form_of_ofJson?, ofJson?_of_form⟩

/-- The queries that stand directly in a query. -/
def members : Query → List Query
  | .conjunction children | .disjunction children => children
  | .boolean must mustNot => must ++ mustNot
  | .base _ | .empty => []

/-- Induction on a query tree, with the hypothesis for every query that stands directly in it. -/
theorem inductionOnMembers {motive : Query → Prop}
    (step : ∀ query : Query, (∀ child ∈ query.members, motive child) → motive query)
    (query : Query) : motive query := by
  induction query with
  | conjunction children induction => exact step _ induction
  | disjunction children induction => exact step _ induction
  | boolean must mustNot required excluded =>
      exact step _ (List.forall_mem_append.2 ⟨required, excluded⟩)
  | base condition => exact step _ (by simp [members])
  | empty => exact step _ (by simp [members])

theorem Form.imp {Weaker : Json → Query → Prop} (form : Form source Member json query)
    (weaken : ∀ child ∈ query.members, ∀ {item}, Member item child → Weaker item child) :
    Form source Weaker json query := by
  cases form with
  | conjunction spelled => exact .conjunction (forall₂_imp_of_mem spelled weaken)
  | disjunction spelled => exact .disjunction (forall₂_imp_of_mem spelled weaken)
  | boolean isRequired isExcluded spelled spelledNot =>
      obtain ⟨weakenMust, weakenNot⟩ := List.forall_mem_append.1 weaken
      exact .boolean isRequired isExcluded (forall₂_imp_of_mem spelled weakenMust)
        (forall₂_imp_of_mem spelledNot weakenNot)
  | booleanParts isText spelled spelledNot =>
      obtain ⟨weakenMust, weakenNot⟩ := List.forall_mem_append.1 weaken
      exact .booleanParts isText (forall₂_imp_of_mem spelled weakenMust)
        (forall₂_imp_of_mem spelledNot weakenNot)
  | base spelled => exact .base spelled
  | empty => exact .empty
  | nullEmpty => exact .nullEmpty

theorem ofJson?_eq_some_iff : ofJson? source json = some query ↔ Spelled source json query := by
  induction query using inductionOnMembers generalizing json with
  | step query induction =>
      rw [ofJson?_eq_some_iff_form]
      constructor
      · intro form
        exact .form (form.imp fun child member _ => (induction child member).1)
      · intro spelled
        obtain ⟨form⟩ := spelled
        exact form.imp fun child member _ => (induction child member).2

theorem Form.inText (form : Form source Member json query) : Form .text Member json query := by
  cases form with
  | conjunction spelled => exact .conjunction spelled
  | disjunction spelled => exact .disjunction spelled
  | boolean isRequired isExcluded spelled spelledNot =>
      exact .boolean isRequired isExcluded spelled spelledNot
  | booleanParts _ spelled spelledNot => exact .booleanParts rfl spelled spelledNot
  | base spelled => exact .base spelled
  | empty => exact .empty
  | nullEmpty => exact .nullEmpty

/-- What is read from a value is read from a text as well. -/
theorem ofJson?_text_of_ofJson? (run : ofJson? source json = some query) :
    ofJson? .text json = some query := by
  induction query using inductionOnMembers generalizing json with
  | step query induction =>
      have form := form_of_ofJson? run
      exact ofJson?_of_form (form.inText.imp fun child member _ => induction child member)

theorem spelled_toJson (query : Query) : Spelled source query.toJson query := by
  have spelled_map {queries : List Query}
      (spelled : ∀ child ∈ queries, Spelled source child.toJson child) :
      List.Forall₂ (Spelled source) (toJsonList queries) queries := by
    rw [toJsonList_eq_map]
    exact List.forall₂_map_left_iff.2 (List.forall₂_same.2 spelled)
  induction query with
  | conjunction children induction => exact .form (.conjunction (spelled_map induction))
  | disjunction children induction => exact .form (.disjunction (spelled_map induction))
  | boolean must mustNot required excluded =>
      exact .form (.boolean rfl rfl (spelled_map required) (spelled_map excluded))
  | base condition => exact .form (.base condition.spelled_toJson)
  | empty => exact .form .empty

theorem canonical_toJson (query : Query) : Canonical query.toJson := by
  induction query with
  | conjunction children induction =>
      rw [toJson, toJsonList_eq_map]
      exact .conjunction (List.forall_mem_map.2 induction)
  | disjunction children induction =>
      rw [toJson, toJsonList_eq_map]
      exact .disjunction (List.forall_mem_map.2 induction)
  | boolean must mustNot required excluded =>
      rw [toJson, toJsonList_eq_map, toJsonList_eq_map]
      exact .boolean (List.forall_mem_map.2 required) (List.forall_mem_map.2 excluded)
  | base condition => exact .base condition.canonical_toJson
  | empty => exact .empty

/-- No query has two spellings in canonical form. -/
theorem eq_toJson_of_canonical (spelled : Spelled source json query)
    (canonical : Canonical json) : json = query.toJson := by
  induction query generalizing json with
  | conjunction children induction =>
      obtain ⟨form⟩ := spelled
      cases form with
      | conjunction spelled =>
          generalize key : "conjunction".toList = name at canonical
          cases canonical with
          | conjunction canonical =>
              rw [toJson, toJsonList_eq_map, eq_map_of_forall₂ spelled canonical induction]
          | disjunction _ | base _ => simp at key
  | disjunction children induction =>
      obtain ⟨form⟩ := spelled
      cases form with
      | disjunction spelled =>
          generalize key : "disjunction".toList = name at canonical
          cases canonical with
          | disjunction canonical =>
              rw [toJson, toJsonList_eq_map, eq_map_of_forall₂ spelled canonical induction]
          | conjunction _ | base _ => simp at key
  | boolean must mustNot required excluded =>
      obtain ⟨form⟩ := spelled
      cases form with
      | boolean isRequired isExcluded spelled spelledNot =>
          generalize key : "boolean".toList = name at canonical
          cases canonical with
          | boolean canonical canonicalNot =>
              cases isRequired
              cases isExcluded
              rw [toJson, toJsonList_eq_map, toJsonList_eq_map,
                eq_map_of_forall₂ spelled canonical required,
                eq_map_of_forall₂ spelledNot canonicalNot excluded]
          | base _ => simp at key
      | booleanParts isText spelled spelledNot =>
          generalize key : "boolean".toList = name at canonical
          cases canonical with
          | conjunction _ | disjunction _ => simp at key
          | base canonical => cases canonical
  | base condition =>
      obtain ⟨form⟩ := spelled
      cases form with
      | base spelled =>
          generalize key : "base".toList = name at canonical
          cases canonical with
          | base canonical => rw [toJson, Condition.eq_toJson_of_canonical spelled canonical]
          | conjunction _ | disjunction _ | boolean _ => simp at key
  | empty =>
      obtain ⟨form⟩ := spelled
      cases form with
      | empty => rfl
      | nullEmpty =>
          generalize key : "empty".toList = name at canonical
          cases canonical with
          | base _ => simp at key

/-- A query is read back from what is written for it, from a value and from a text.  A JSON value is
read as a query where it is one of the spellings of the query; what is then written is its canonical
spelling, which is read as the same query and is the value itself only if that was canonical. -/
theorem reads_back_in_canonical_form (source : Json.Source) :
    (∀ query : Query, ofJson? source query.toJson = some query) ∧
      ∀ (json : Json) (query : Query),
        (ofJson? source json = some query ↔ Spelled source json query) ∧
        (ofJson? source json = some query →
          Canonical query.toJson ∧ ofJson? source query.toJson = some query ∧
            (Canonical json ↔ json = query.toJson)) := by
  have readBack (query : Query) : ofJson? source query.toJson = some query :=
    ofJson?_eq_some_iff.2 query.spelled_toJson
  refine ⟨readBack, fun json query => ⟨ofJson?_eq_some_iff, fun read => ?_⟩⟩
  refine ⟨query.canonical_toJson, readBack query, ?_, ?_⟩
  · exact eq_toJson_of_canonical (ofJson?_eq_some_iff.1 read)
  · intro same
    subst same
    exact query.canonical_toJson

end Query

namespace Samples

/-- A query in every spelling that is not canonical: members that mean nothing, parts in an array,
a missing mark, names without data before the value null, and the lists of a boolean query in an
array, which only a text may have. -/
def looseSpelling : Json :=
  .object [("boolean".toList, .object [
    ("note".toList, .number 1 0),
    ("must_not".toList, .array [
      .object [("boolean".toList, .array [
        .array [.object [("empty".toList, .null)]],
        .array []])],
      .object [("base".toList, .object [("match_none".toList, .null)])]]),
    ("must".toList, .array [
      .object [("base".toList, .object [("match_field".toList, .object [
        ("value".toList, .string "Ann".toList),
        ("unit".toList, .null),
        ("label".toList, .string "Name".toList)])])],
      .object [("base".toList, .object [("match_linked_fields".toList, .array [
        .array [.string "Host".toList, .string "web".toList],
        .array [.string "Port".toList, .string ">80".toList, .bool true]])])]])])]

def looseQuery : Query :=
  .boolean
    [.base (.field ⟨"Name".toList, "Ann".toList, false⟩),
      .base (.linked [⟨"Host".toList, "web".toList, false⟩, ⟨"Port".toList, ">80".toList, true⟩])]
    [.boolean [.empty] [], .base .nothing]

theorem reads_back_looseSpelling :
    Query.ofJson? .text looseSpelling = some looseQuery ∧ Query.Canonical looseQuery.toJson ∧
      Query.ofJson? .text looseQuery.toJson = some looseQuery ∧ ¬Query.Canonical looseSpelling ∧
      Query.ofJson? .value looseSpelling = none := by
  have read : Query.ofJson? .text looseSpelling = some looseQuery := by rfl
  obtain ⟨canonical, readBack, same⟩ :=
    ((Query.reads_back_in_canonical_form .text).2 looseSpelling looseQuery).2 read
  refine ⟨read, canonical, readBack, fun loose => ?_, by rfl⟩
  have written := same.1 loose
  simp [looseSpelling, looseQuery, Query.toJson] at written

end Samples

end RecordSearch
