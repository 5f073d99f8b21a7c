import Mathlib.Data.List.Forall2
import RecordSearch.Pattern.Reader
import RecordSearch.Proofs.Spans

/-!
# Expressions that match at least as much

A sequence matches if its parts do one after the other, and an alternation, also one that is a
single set, if one of its branches does.  So an expression that is written around a part matches at
least as much if the part does, and repeating a part at will loses none of its matches.
-/

namespace RecordSearch.Regex

variable {text : Array Char} {start stop : Nat} {expression first second : Regex}
  {expressions front back rest narrow wide : List Regex}

/-- The expressions match one after the other. -/
def Chain (text : Array Char) : List Regex → Nat → Nat → Prop
  | [], start, stop => start = stop
  | expression :: expressions, start, stop =>
      ∃ middle, Spans text expression start middle ∧ Chain text expressions middle stop

/-- The second expression matches wherever the first one does. -/
def Wider (narrow wide : Regex) : Prop :=
  ∀ text start stop, Spans text narrow start stop → Spans text wide start stop

section Sequences

theorem spans_concatenation_iff :
    Spans text (concatenation expressions) start stop ↔ Chain text expressions start stop := by
  induction expressions generalizing start with
  | nil => exact spans_nothing_iff
  | cons expression expressions induction =>
      cases expressions with
      | nil => simp [concatenation, Chain]
      | cons next expressions =>
          rw [concatenation, spans_sequence_iff]
          · simp only [induction]
            rfl
          · exact nofun

theorem chain_append_iff :
    Chain text (front ++ back) start stop ↔
      ∃ middle, Chain text front start middle ∧ Chain text back middle stop := by
  induction front generalizing start with
  | nil => simp [Chain]
  | cons expression front induction =>
      simp only [List.cons_append, Chain, induction]
      constructor
      · rintro ⟨next, matched, middle, frontChain, backChain⟩
        exact ⟨middle, ⟨next, matched, frontChain⟩, backChain⟩
      · rintro ⟨middle, ⟨next, matched, frontChain⟩, backChain⟩
        exact ⟨next, matched, middle, frontChain, backChain⟩

theorem Chain.widen (chain : Chain text narrow start stop)
    (wider : List.Forall₂ Wider narrow wide) : Chain text wide start stop := by
  induction wider generalizing start with
  | nil => exact chain
  | cons first _ induction =>
      obtain ⟨middle, matched, rest⟩ := chain
      exact ⟨middle, first _ _ _ matched, induction rest⟩

end Sequences

section Alternatives

theorem spans_choice_iff :
    Spans text (choice first rest) start stop ↔
      ∃ expression ∈ first :: rest, Spans text expression start stop := by
  induction rest generalizing first with
  | nil => simp [choice]
  | cons second rest induction =>
      rw [choice, spans_either_iff, induction]
      simp only [List.exists_mem_cons_iff]

theorem has_foldl_union_iff {members : CharSet} {sets : List CharSet} {character : Char} :
    (sets.foldl .union members).has character = true ↔
      ∃ set ∈ members :: sets, set.has character = true := by
  induction sets generalizing members with
  | nil => simp
  | cons set sets induction => simp [induction, CharSet.has, or_assoc]

theorem eq_set_of_set? {characters : CharSet} (only : set? expression = some characters) :
    expression = .set characters := by
  cases expression <;> simp_all [set?]

theorem eq_map_set_of_mapM {sets : List CharSet} (only : rest.mapM set? = some sets) :
    rest = sets.map .set := by
  induction rest generalizing sets with
  | nil =>
      obtain rfl := Option.some.inj only
      rfl
  | cons expression rest induction =>
      simp only [List.mapM_cons, Option.bind_eq_bind, Option.bind_eq_some_iff] at only
      obtain ⟨characters, single, others, restOnly, equal⟩ := only
      obtain rfl := Option.some.inj equal
      rw [List.map_cons, ← induction restOnly, ← eq_set_of_set? single]

/-- A single set has the members of all branches. -/
theorem spans_alternation_iff :
    Spans text (alternation first rest) start stop ↔
      ∃ expression ∈ first :: rest, Spans text expression start stop := by
  unfold alternation
  split
  next members sets single restOnly =>
    rw [eq_set_of_set? single, eq_map_set_of_mapM restOnly, spans_set_iff]
    simp only [Option.any_eq_true, has_foldl_union_iff, ← List.map_cons, List.mem_map]
    constructor
    · rintro ⟨moved, character, present, set, member, has⟩
      refine ⟨_, ⟨set, member, rfl⟩, spans_set_iff.2 ⟨moved, ?_⟩⟩
      exact (Option.any_eq_true _ _).2 ⟨character, present, has⟩
    · rintro ⟨_, ⟨set, member, rfl⟩, spans⟩
      obtain ⟨moved, has⟩ := spans_set_iff.1 spans
      obtain ⟨character, present, has⟩ := (Option.any_eq_true _ _).1 has
      exact ⟨moved, character, present, set, member, has⟩
  next => exact spans_choice_iff

end Alternatives

section Wider

variable {body other : Regex}

theorem wider_refl (expression : Regex) : Wider expression expression :=
  fun _ _ _ spans => spans

theorem Wider.group (wider : Wider body other) : Wider (.group body) (.group other) :=
  fun _ _ _ spans => spans_group_iff.2 (wider _ _ _ (spans_group_iff.1 spans))

/-- A single turn is a repetition. -/
theorem wider_repeated (body : Regex) : Wider body (.repeated body 0 none) :=
  fun _ _ _ spans => .further nofun spans .done

theorem wider_concatenation (wider : List.Forall₂ Wider narrow wide) :
    Wider (concatenation narrow) (concatenation wide) :=
  fun _ _ _ spans => spans_concatenation_iff.2 ((spans_concatenation_iff.1 spans).widen wider)

theorem exists_spans_of_forall₂ (wider : List.Forall₂ Wider narrow wide)
    (matched : ∃ expression ∈ narrow, Spans text expression start stop) :
    ∃ expression ∈ wide, Spans text expression start stop := by
  induction wider with
  | nil => exact matched
  | cons first _ induction =>
      rw [List.exists_mem_cons_iff] at matched ⊢
      exact matched.imp (first _ _ _) induction

theorem wider_alternation {firstWide : Regex} {restWide : List Regex}
    (firsts : Wider first firstWide) (rests : List.Forall₂ Wider rest restWide) :
    Wider (alternation first rest) (alternation firstWide restWide) := by
  intro text start stop spans
  exact spans_alternation_iff.2
    (exists_spans_of_forall₂ (.cons firsts rests) (spans_alternation_iff.1 spans))

theorem Wider.matchesIn {text : Text} (wider : Wider body other)
    (matched : body.matchesIn text = true) : other.matchesIn text = true := by
  obtain ⟨start, inside, stop, spans⟩ := matchesIn_iff.1 matched
  exact matchesIn_iff.2 ⟨start, inside, stop, wider _ _ _ spans⟩

end Wider

/-- Each branch matches at least as much as the branch in its place. -/
structure Branches.Wider (narrow wide : Branches) : Prop where
  parts : List.Forall₂
    (fun narrow wide => Regex.Wider narrow.piece.expression wide.piece.expression)
    narrow.parts wide.parts
  finished : List.Forall₂ (fun narrow wide => Regex.Wider narrow.expression wide.expression)
    narrow.finished wide.finished

section Branches

variable {narrow wide : Branches}

theorem Branches.Wider.refl (branches : Branches) : branches.Wider branches :=
  ⟨List.forall₂_same.2 fun _ _ => wider_refl _, List.forall₂_same.2 fun _ _ => wider_refl _⟩

theorem Branches.Wider.add (wider : narrow.Wider wide) {piece other : Piece}
    (pieces : Regex.Wider piece.expression other.expression) :
    (narrow.add piece).Wider (wide.add other) :=
  ⟨.cons pieces wider.parts, wider.finished⟩

theorem Branches.Wider.current (wider : narrow.Wider wide) :
    Regex.Wider narrow.current.expression wide.current.expression := by
  apply wider_concatenation
  simp only [List.forall₂_map_left_iff, List.forall₂_map_right_iff]
  exact List.forall₂_reverse_iff.2 wider.parts

theorem Branches.close_expression (branches : Branches) :
    ∃ first rest, (branches.current :: branches.finished).reverse = first :: rest ∧
      branches.close.expression = alternation first.expression (rest.map (·.expression)) := by
  obtain ⟨first, rest, split⟩ := List.exists_cons_of_ne_nil
    (List.reverse_ne_nil_iff.2 (List.cons_ne_nil branches.current branches.finished))
  refine ⟨first, rest, split, ?_⟩
  rw [close, split]

theorem Branches.Wider.close (wider : narrow.Wider wide) :
    Regex.Wider narrow.close.expression wide.close.expression := by
  have all : List.Forall₂ (fun narrow wide => Regex.Wider narrow.expression wide.expression)
      (narrow.current :: narrow.finished).reverse (wide.current :: wide.finished).reverse :=
    List.forall₂_reverse_iff.2 (.cons wider.current wider.finished)
  obtain ⟨first, rest, split, narrowClosed⟩ := narrow.close_expression
  obtain ⟨firstWide, restWide, splitWide, wideClosed⟩ := wide.close_expression
  rw [split, splitWide] at all
  obtain ⟨firsts, rests⟩ := List.forall₂_cons.1 all
  rw [narrowClosed, wideClosed]
  apply wider_alternation firsts
  rw [List.forall₂_map_left_iff, List.forall₂_map_right_iff]
  exact rests

theorem Group.wider_enclose (group : Group) {piece other : Piece}
    (wider : Regex.Wider piece.expression other.expression) :
    Regex.Wider (group.enclose piece).expression (group.enclose other).expression := by
  unfold enclose
  cases group.numbered with
  | true => exact wider.group
  | false => exact wider

theorem Branches.wider_repeatLast {branches repeated : Branches}
    (run : branches.repeatLast 0 none = some repeated) : branches.Wider repeated := by
  obtain ⟨parts, finished⟩ := branches
  unfold repeatLast at run
  split at run
  next piece others equal =>
    obtain rfl := Option.some.inj run
    have same := Branches.Wider.refl ⟨others, finished⟩
    subst equal
    exact ⟨.cons (wider_repeated piece.expression) same.parts, same.finished⟩
  next => cases run

end Branches

end RecordSearch.Regex
