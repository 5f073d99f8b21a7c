import RecordSearch.Derive.Views
import RecordSearch.Inspect
import RecordSearch.Proofs.DerivedNames
import RecordSearch.Proofs.NamesApart
import RecordSearch.Proofs.RegisteredLabels

/-!
# What a derived name selects

The name of a field selects the field in every record, and a label behind a variant is found only
while this variant is active, exactly if no name is derived twice.  Of two fields with one name the
first answers for both, and of two variants with one name each is taken for the other.
-/

namespace RecordSearch

namespace Derive

/-- Asked for the name of a field, every record of these fields returns what the field holds. -/
def SelectsFields (fields : List DerivedField) : Prop :=
  ∀ (shapeOf : Text → Shape) (α : Type) (views : List (FieldView α)) (record : α),
    views.map (·.described) = fields.map (·.described shapeOf) →
      ∀ view ∈ views, (FieldView.node views record).field view.described.name = view.view record

/-- The node shows a value with another active variant than the one at the position. -/
def ShowsOther (variants : List DerivedVariant) (position : Nat) (node : Node) : Prop :=
  ∃ place variant payload, variants[place]? = some variant ∧ place ≠ position ∧
    payload.isSome = variant.payload.isSome ∧ node = variant.view payload

/-- No condition on a label behind one of the variants holds at a node in which only other variants
are active where the label looks for this one. -/
def TellsVariants [PropertyTable] (variants : List DerivedVariant) : Prop :=
  ∀ (schema : Schema) (condition : FieldMatch) (path : FieldPath) (predicate : Predicate),
    schema.get? condition.label = some path →
    schema.compile (.base (.field condition)) = .ok predicate →
    ∀ position own front rest, variants[position]? = some own → own.payload.isSome = true →
      path.steps = front ++ .variant own.name :: rest →
      ∀ node, (∀ inner, Node.Reaches front node inner → ShowsOther variants position inner) →
        ¬predicate.HoldsAt node

section Fields

variable {fields : List DerivedField}

theorem selectsFields_of_nodup (distinct : (fields.map (·.name)).Nodup) : SelectsFields fields := by
  intro shapeOf α views record described view member
  have names : (views.map fun view => (view.described.name, view.view record)).map (·.1) =
      fields.map (·.name) := by
    have same := congrArg (List.map FieldShape.name) described
    rw [List.map_map, List.map_map] at same
    rw [List.map_map]
    exact same
  rw [← names] at distinct
  exact Node.fieldNamed_of_mem distinct (List.mem_map_of_mem member)

def positionView (shapeOf : Text → Shape) (field : DerivedField) (position : Nat) :
    FieldView (Nat → Node) where
  described := field.described shapeOf
  view record := record position

/-- A record whose positions all hold different texts shows which field answers to a name. -/
theorem nodup_of_selectsFields (selects : SelectsFields fields) :
    (fields.map (·.name)).Nodup := by
  let views := fields.zipIdx.map fun part => positionView (fun _ => .hidden) part.1 part.2
  let record : Nat → Node := fun position => .leaf (.string (List.replicate position ' '))
  have described : views.map (·.described) = fields.map (·.described fun _ => .hidden) := by
    calc views.map (·.described)
        = fields.zipIdx.map ((·.described fun _ => .hidden) ∘ Prod.fst) := List.map_map
      _ = fields.map (·.described fun _ => .hidden) := by
          rw [← List.map_map, List.zipIdx_map_fst]
  have answers {position : Nat} {field : DerivedField} (declared : fields[position]? = some field) :
      (FieldView.node views record).field field.name = record position := by
    have member : (field, position) ∈ fields.zipIdx := List.mem_zipIdx_iff_getElem?.2 declared
    exact selects _ _ views record described _ (List.mem_map_of_mem member)
  rw [List.nodup_iff_getElem?_ne_getElem?]
  intro one other before bound same
  rw [List.length_map] at bound
  rw [List.getElem?_map, List.getElem?_map, List.getElem?_eq_getElem bound,
    List.getElem?_eq_getElem (Nat.lt_trans before bound), Option.map_some, Option.map_some] at same
  have held : record one = record other :=
    calc record one
        = (FieldView.node views record).field fields[one].name :=
          (answers (List.getElem?_eq_getElem _)).symm
      _ = (FieldView.node views record).field fields[other].name := by
          rw [Option.some.inj same]
      _ = record other := answers (List.getElem?_eq_getElem _)
  have lengths : one = other := by simpa [record] using held
  exact Nat.ne_of_lt before lengths

theorem selectsFields_iff : SelectsFields fields ↔ (fields.map (·.name)).Nodup :=
  ⟨nodup_of_selectsFields, selectsFields_of_nodup⟩

end Fields

section Variants

variable {variants : List DerivedVariant}

/-- Variants that carry something have different names. -/
def PayloadsApart (variants : List DerivedVariant) : Prop :=
  ((variants.filter (·.payload.isSome)).map (·.name)).Nodup

theorem payloadsApart_iff :
    PayloadsApart variants ↔
      ∀ (position place : Nat) (bound : position < variants.length)
        (boundToo : place < variants.length), position < place →
        variants[position].payload.isSome = true → variants[place].payload.isSome = true →
        variants[position].name ≠ variants[place].name := by
  rw [PayloadsApart, List.Nodup, List.pairwise_map, List.pairwise_filter,
    List.pairwise_iff_getElem]

theorem PayloadsApart.eq_position (apart : PayloadsApart variants) {position place : Nat}
    {own other : DerivedVariant} (declared : variants[position]? = some own)
    (again : variants[place]? = some other) (carries : own.payload.isSome = true)
    (carriesToo : other.payload.isSome = true) (same : own.name = other.name) :
    position = place := by
  rw [payloadsApart_iff] at apart
  obtain ⟨bound, rfl⟩ := List.getElem?_eq_some_iff.1 declared
  obtain ⟨boundToo, rfl⟩ := List.getElem?_eq_some_iff.1 again
  rcases Nat.lt_trichotomy position place with before | equal | behind
  · exact absurd same (apart _ _ bound boundToo before carries carriesToo)
  · exact equal
  · exact absurd same.symm (apart _ _ boundToo bound behind carriesToo carries)

theorem exists_payload_of_leads {name active : Text} {payload : Option Node} {child : Node}
    (leads : Step.Leads (.variant name) (.variant active payload) child) :
    active = name ∧ payload.isSome = true := by
  cases leads <;> exact ⟨rfl, rfl⟩

variable [PropertyTable]

theorem tellsVariants_of_apart (apart : PayloadsApart variants) : TellsVariants variants := by
  intro schema condition path predicate known compiled position own front rest declared carries
    steps node others holds
  rw [Schema.compile_eq_compileNested rfl, Schema.compileNested, Schema.compileCondition]
    at compiled
  rcases Schema.compileField_eq_ok_iff.1 compiled with ⟨unknown, _⟩ | ⟨_, test, found, _, rfl⟩
  · cases known.symm.trans unknown
  · cases known.symm.trans found
    obtain ⟨value, reaches, _⟩ := Predicate.holdsAt_wrap_leaf_iff.1 holds
    rw [steps] at reaches
    obtain ⟨inner, toInner, reachesOn⟩ := Node.reaches_append_iff.1 reaches
    obtain ⟨child, leads, _⟩ := Node.reaches_cons_iff.1 reachesOn
    obtain ⟨place, active, payload, again, elsewhere, carried, rfl⟩ := others inner toInner
    obtain ⟨same, entered⟩ := exists_payload_of_leads leads
    exact elsewhere (apart.eq_position again declared (carried.symm.trans entered) carries same)

def payloadLabel (name : Text) : Registration where
  label := "x".toList
  path := {
    steps := [.variant name, .field "x".toList]
    leaf := .string
    distinct := List.nodup_singleton _ }

def payloadRecord : Node :=
  .record [("x".toList, .leaf (.string []))]

theorem exists_condition_payloadLabel (name : Text) :
    ∃ path predicate, (Schema.build [] [payloadLabel name]).get? "x".toList = some path ∧
      path.steps = [.variant name, .field "x".toList] ∧
      (Schema.build [] [payloadLabel name]).compile (.matchField "x".toList Matcher.wildcard) =
        .ok predicate ∧
      predicate.HoldsAt (.variant name (some payloadRecord)) := by
  have earliest : [payloadLabel name].find? (·.isFor "x".toList) = some (payloadLabel name) := rfl
  obtain ⟨path, known, steps, _⟩ := Schema.exists_get?_build [] earliest
  refine ⟨path, _, known, steps, Schema.compile_field false known path.leafTest_wildcard, ?_⟩
  rw [Predicate.holdsAt_wrap_leaf_iff, steps]
  exact ⟨_, .step .payload (.step (.field rfl) .here), path.accepts_wildcardTest _⟩

theorem apart_of_tellsVariants (tells : TellsVariants variants) : PayloadsApart variants := by
  rw [payloadsApart_iff]
  intro position place bound boundToo before carries carriesToo same
  obtain ⟨path, predicate, known, steps, compiled, holds⟩ :=
    exists_condition_payloadLabel variants[position].name
  refine tells _ _ _ _ known compiled position _ [] _ (List.getElem?_eq_getElem bound) carries steps
    _ ?_ holds
  rintro _ ⟨⟩
  refine ⟨place, _, some payloadRecord, List.getElem?_eq_getElem boundToo,
    (Nat.ne_of_lt before).symm, carriesToo.symm, ?_⟩
  rw [same]
  rfl

theorem tellsVariants_iff : TellsVariants variants ↔ PayloadsApart variants :=
  ⟨apart_of_tellsVariants, tellsVariants_of_apart⟩

end Variants

section Declarations

variable {declaration : Declaration}

theorem selectsFields_iff_of_deriveSearchable {fields : List DerivedField}
    (run : deriveSearchable declaration = .ok (.record fields)) :
    SelectsFields fields ↔ declaration.declared.wireNames.Nodup := by
  rw [selectsFields_iff, names_of_deriveSearchable_record run]

theorem tellsVariants_iff_of_deriveSearchable [PropertyTable] {variants : List DerivedVariant}
    (run : deriveSearchable declaration = .ok (.variants variants)) :
    TellsVariants variants ↔ declaration.declared.payloadNames.Nodup := by
  rw [tellsVariants_iff, PayloadsApart, (names_of_deriveSearchable_variants run).2]

theorem nodup_payloadNames {variants : List VariantDeclaration}
    (distinct : (Declared.enumeration variants).wireNames.Nodup) :
    (Declared.enumeration variants).payloadNames.Nodup :=
  distinct.sublist (List.filter_sublist.map _)

/-- What is derived has the names of the declaration.  They select the fields exactly if no two kept
fields have one name, and tell the variants exactly if no two that carry something have one name.
Without given names this is so for fields and for names without payload; for variants with payload
it is so in camel case. -/
theorem derived_names_select_iff [PropertyTable] (declaration : Declaration) :
    (∀ fields, deriveSearchable declaration = .ok (.record fields) →
      fields.map (·.name) = declaration.declared.wireNames ∧
        (SelectsFields fields ↔ declaration.declared.wireNames.Nodup) ∧
        (declaration.declared.NamedByIdentifiers → SelectsFields fields)) ∧
      (∀ variants, deriveSearchable declaration = .ok (.variants variants) →
        variants.map (·.name) = declaration.declared.wireNames ∧
          (TellsVariants variants ↔ declaration.declared.payloadNames.Nodup) ∧
          (declaration.declared.wireNames.Nodup → TellsVariants variants) ∧
          (declaration.declared.NamedByIdentifiers →
            (∀ identifier ∈ declaration.declared.identifiers, isCamelCase identifier = true) →
            declaration.declared.wireNames.Nodup)) ∧
      ∀ names, deriveNames declaration = .ok (.names names) →
        names.map (·.2) = declaration.declared.literalNames ∧
          (declaration.declared.NamedByIdentifiers → declaration.declared.literalNames.Nodup) := by
  refine ⟨fun fields run => ?_, fun variants run => ?_, fun names run => ?_⟩
  · have selects := selectsFields_iff_of_deriveSearchable run
    refine ⟨names_of_deriveSearchable_record run, selects, fun named => selects.2 ?_⟩
    obtain ⟨declared, same, _⟩ := deriveSearchable_eq_record_iff.1 run
    rw [same] at named ⊢
    exact named.nodup_fields
  · have tells := tellsVariants_iff_of_deriveSearchable run
    obtain ⟨declared, same, _⟩ := deriveSearchable_eq_variants_iff.1 run
    refine ⟨(names_of_deriveSearchable_variants run).1, tells, fun distinct => tells.2 ?_, ?_⟩
    · rw [same] at distinct ⊢
      exact nodup_payloadNames distinct
    · rw [same]
      exact fun named camel => named.nodup_variants camel
  · obtain ⟨declared, same, _⟩ := deriveNames_eq_names_iff.1 run
    refine ⟨names_of_deriveNames_names run, ?_⟩
    rw [same]
    exact fun named => named.nodup_literals

end Declarations

end Derive

namespace Samples

open Derive

def memberDeclaration : Declaration where
  name := "Member".toList
  declared := .record [
    { name := "name".toList, type := "String".toList },
    { name := "r#type".toList, type := "String".toList }]

def memberFields : List DerivedField := [
  { name := "name".toList, label := none, type := "String".toList },
  { name := "type".toList, label := none, type := "String".toList }]

def volumeDeclaration : Declaration where
  name := "Volume".toList
  declared := .enumeration [
    { name := "Empty".toList },
    { name := "HostPath".toList, payload := .tuple ["HostPath".toList] },
    { name := "Claim".toList, payload := .tuple ["Claim".toList] }]

def volumeVariants : List DerivedVariant := [
  { identifier := "Empty".toList, name := "empty".toList, payload := none },
  { identifier := "HostPath".toList, name := "host_path".toList,
    payload := some "HostPath".toList },
  { identifier := "Claim".toList, name := "claim".toList, payload := some "Claim".toList }]

def levelDeclaration : Declaration where
  name := "Level".toList
  declared := .enumeration [{ name := "Low".toList }, { name := "High".toList }]

def levelNames : List (Text × Text) := [
  ("Low".toList, "Low".toList), ("High".toList, "High".toList)]

theorem derived_names_select_iff_volume :
    deriveSearchable memberDeclaration = .ok (.record memberFields) ∧ SelectsFields memberFields ∧
      deriveSearchable volumeDeclaration = .ok (.variants volumeVariants) ∧
      TellsVariants volumeVariants ∧
      deriveNames levelDeclaration = .ok (.names levelNames) ∧
      levelDeclaration.declared.literalNames.Nodup := by
  have member : deriveSearchable memberDeclaration = .ok (.record memberFields) := by rfl
  have volume : deriveSearchable volumeDeclaration = .ok (.variants volumeVariants) := by rfl
  have level : deriveNames levelDeclaration = .ok (.names levelNames) := by rfl
  have memberNamed : memberDeclaration.declared.NamedByIdentifiers :=
    ⟨List.forall_mem_cons.2 ⟨rfl, List.forall_mem_singleton.2 rfl⟩, by decide⟩
  have levelNamed : levelDeclaration.declared.NamedByIdentifiers :=
    ⟨List.forall_mem_cons.2 ⟨rfl, List.forall_mem_singleton.2 rfl⟩, by decide⟩
  refine ⟨member, ((derived_names_select_iff _).1 _ member).2.2 memberNamed, volume, ?_, level,
    ((derived_names_select_iff _).2.2 _ level).2 levelNamed⟩
  exact ((derived_names_select_iff _).2.1 _ volume).2.1.2 (by decide)

/-- The second field is given the name of the first. -/
def serverDeclaration : Declaration where
  name := "Server".toList
  declared := .record [
    { name := "host".toList, type := "String".toList },
    { name := "address".toList, type := "String".toList
      attributes := [{
        path := "search".toList
        arguments := .list [.assignment "rename".toList (.string "host".toList)] }] }]

def serverFields : List DerivedField := [
  { name := "host".toList, label := none, type := "String".toList },
  { name := "host".toList, label := none, type := "String".toList }]

def sourceDeclaration : Declaration where
  name := "Source".toList
  declared := .enumeration [
    { name := "HTTP".toList, payload := .tuple ["Page".toList] },
    { name := "Http".toList, payload := .tuple ["Feed".toList] }]

def pageVariant : DerivedVariant where
  identifier := "HTTP".toList
  name := "http".toList
  payload := some "Page".toList

def feedVariant : DerivedVariant where
  identifier := "Http".toList
  name := "http".toList
  payload := some "Feed".toList

structure Page where
  title : Text

structure Feed where
  title : Text
  unread : UInt32

def Page.fields : List (FieldView Page) := [.labelled "title" "Title" (·.title)]

def Feed.fields : List (FieldView Feed) := [
  .labelled "title" "Headline" (·.title),
  .plain "unread" (·.unread)]

def sourceTable : TypeTable where
  definitions := [
    ("Source".toList, {
      typeName := "Source".toList
      body := .variants ([pageVariant, feedVariant].map (·.described .named)) }),
    FieldView.definition "Page" Page.fields,
    FieldView.definition "Feed" Feed.fields]

/-- A feed, while the variant for pages is not active. -/
def newsFeed : Node :=
  feedVariant.view (some (FieldView.node Feed.fields ⟨"news".toList, 3⟩))

/-- The second variant is given the name of the first. -/
def alarmDeclaration : Declaration where
  name := "Alarm".toList
  declared := .enumeration [
    { name := "Low".toList },
    { name := "High".toList
      attributes := [{
        path := "search".toList
        arguments := .list [.assignment "rename".toList (.string "Low".toList)] }] }]

def alarmNames : List (Text × Text) := [
  ("Low".toList, "Low".toList), ("High".toList, "Low".toList)]

/-- Names that are derived for two fields or two variants are accepted, and what one of them is
asked for is found in the other. -/
theorem derived_names_clash :
    (deriveSearchable serverDeclaration = .ok (.record serverFields) ∧
      ¬SelectsFields serverFields) ∧
      (deriveSearchable sourceDeclaration = .ok (.variants [pageVariant, feedVariant]) ∧
        pageVariant.name = feedVariant.name ∧
        ∃ path predicate,
          (Schema.ofShape [] sourceTable (.named "Source".toList)).get? "Title".toList = some path ∧
          path.steps = [.variant pageVariant.name, .field "title".toList] ∧
          (Schema.ofShape [] sourceTable (.named "Source".toList)).compile
            (.matchField "Title".toList "news".toList) = .ok predicate ∧
          predicate.HoldsAt newsFeed) ∧
      deriveNames alarmDeclaration = .ok (.names alarmNames) ∧
        ¬(alarmNames.map (·.2)).Nodup := by
  refine ⟨⟨rfl, ?_⟩, ⟨rfl, rfl, _, _, rfl, rfl, rfl, rfl⟩, rfl, by decide⟩
  rw [selectsFields_iff]
  decide

end Samples

end RecordSearch
