import Mathlib.Data.Nat.Basic
import Mathlib.Data.List.Basic
import RecordSearch.Pattern.Regex

/-!
# Where expressions match

`Spans` says from where to where an expression matches, and `ends` finds all places where a match
can end.  Both agree for every expression.  The only argument is about repetition: its turns are
steps from position to position, and no more steps than the text has characters are needed to get
anywhere, since a step that stays where it is can be left out.
-/

namespace RecordSearch.Regex

variable {Leads : Nat → Nat → Prop} {step : List Nat → List Nat} {count position start stop : Nat}
  {positions frontier known new : List Nat}

inductive Exactly (Leads : Nat → Nat → Prop) : Nat → Nat → Nat → Prop
  | here {position : Nat} : Exactly Leads 0 position position
  | step {count start middle stop : Nat} :
      Leads start middle → Exactly Leads count middle stop → Exactly Leads (count + 1) start stop

inductive Within (Leads : Nat → Nat → Prop) : Nat → Nat → Nat → Prop
  | here {count position : Nat} : Within Leads count position position
  | step {count start middle stop : Nat} :
      Leads start middle → Within Leads count middle stop → Within Leads (count + 1) start stop

/-- The function takes positions to those to which a single step leads from one of them. -/
def Carries (step : List Nat → List Nat) (Leads : Nat → Nat → Prop) : Prop :=
  ∀ starts stop, stop ∈ step starts ↔ ∃ start ∈ starts, Leads start stop

section Positions

@[simp]
theorem mem_insert_iff {other : Nat} :
    other ∈ insert position positions ↔ other = position ∨ other ∈ positions := by
  induction positions with
  | nil => simp [insert]
  | cons first rest induction =>
      unfold insert
      split
      · simp
      · split
        · simp_all
        · rw [List.mem_cons, induction, List.mem_cons]
          exact or_left_comm

@[simp]
theorem mem_gather_iff : position ∈ gather known new ↔ position ∈ known ∨ position ∈ new := by
  unfold gather
  induction new generalizing known with
  | nil => simp
  | cons first rest induction =>
      rw [List.foldl_cons, induction, mem_insert_iff, List.mem_cons,
        or_comm (a := position = first), or_assoc]

end Positions

section Steps

theorem exactly_zero_iff : Exactly Leads 0 start stop ↔ start = stop := by
  constructor
  · intro way
    cases way
    rfl
  · rintro rfl
    exact .here

theorem exactly_succ_iff :
    Exactly Leads (count + 1) start stop ↔
      ∃ middle, Leads start middle ∧ Exactly Leads count middle stop := by
  constructor
  · intro way
    cases way with
    | step first rest => exact ⟨_, first, rest⟩
  · intro way
    obtain ⟨_, first, rest⟩ := way
    exact .step first rest

theorem Within.mono {more : Nat} (way : Within Leads count start stop) (fewer : count ≤ more) :
    Within Leads more start stop := by
  induction way generalizing more with
  | here => exact .here
  | step first _ induction =>
      obtain ⟨more, rfl⟩ := Nat.exists_eq_succ_of_ne_zero (by omega : more ≠ 0)
      exact .step first (induction (by omega))

theorem Within.mem_of_closed (way : Within Leads count start stop)
    (closed : ∀ start ∈ positions, ∀ stop, Leads start stop → stop ∈ positions)
    (member : start ∈ positions) : stop ∈ positions := by
  induction way with
  | here => exact member
  | step first _ induction => exact induction (closed _ member _ first)

/-- Steps forward that stay within bounds: leaving out those that stay where they are, no more of
them are taken than there are positions between the two. -/
theorem Within.shorten {size : Nat}
    (forward : ∀ start stop, Leads start stop → start ≤ stop ∧ (start < stop → stop ≤ size))
    (way : Within Leads count start stop) :
    start ≤ stop ∧ (start < stop → stop ≤ size) ∧ Within Leads (stop - start) start stop := by
  induction way with
  | here => exact ⟨Nat.le_refl _, fun less => absurd less (Nat.lt_irrefl _), .here⟩
  | step first _ induction =>
      obtain ⟨firstLe, firstInside⟩ := forward _ _ first
      obtain ⟨restLe, restInside, rest⟩ := induction
      refine ⟨Nat.le_trans firstLe restLe, fun less => ?_, ?_⟩
      · rcases Nat.lt_or_eq_of_le restLe with further | rfl
        · exact restInside further
        · exact firstInside less
      · rcases Nat.lt_or_eq_of_le firstLe with further | rfl
        · exact (Within.step first rest).mono (by omega)
        · exact rest

theorem advance_succ :
    advance step (count + 1) positions = advance step count (step positions) := by
  have stable (fixed : step positions = positions) (count : Nat) :
      advance step count positions = positions := by
    cases count with
    | zero => rfl
    | succ count => simp only [advance, fixed, if_true]
  rw [advance]
  split
  next fixed => rw [fixed, stable fixed]
  next => rfl

theorem mem_advance_iff (carries : Carries step Leads) :
    stop ∈ advance step count positions ↔ ∃ start ∈ positions, Exactly Leads count start stop := by
  induction count generalizing positions with
  | zero => simp [advance, exactly_zero_iff]
  | succ count induction =>
      rw [advance_succ, induction]
      simp only [carries positions, exactly_succ_iff]
      constructor
      · intro way
        obtain ⟨middle, ⟨start, member, first⟩, rest⟩ := way
        exact ⟨start, member, middle, first, rest⟩
      · intro way
        obtain ⟨start, member, middle, first, rest⟩ := way
        exact ⟨middle, ⟨start, member, first⟩, rest⟩

/-- What is reached in some more steps, if all positions but those of the frontier lead to known
ones. -/
theorem mem_reach_iff (carries : Carries step Leads) (inside : ∀ start ∈ frontier, start ∈ known)
    (closed : ∀ start ∈ known, start ∉ frontier → ∀ stop, Leads start stop → stop ∈ known) :
    stop ∈ reach step count frontier known ↔ ∃ start ∈ known, Within Leads count start stop := by
  induction count generalizing frontier known with
  | zero =>
      constructor
      · intro member
        exact ⟨stop, member, .here⟩
      · intro way
        obtain ⟨start, member, steps⟩ := way
        cases steps
        exact member
  | succ count induction =>
      have next {start : Nat} (member : start ∈ known) {stop : Nat} (leads : Leads start stop) :
          stop ∈ known ∨ stop ∈ (step frontier).filter (· ∉ known) := by
        by_cases old : stop ∈ known
        · exact .inl old
        · refine .inr (List.mem_filter.2 ⟨?_, by simpa using old⟩)
          by_cases atFrontier : start ∈ frontier
          · exact (carries _ _).2 ⟨start, atFrontier, leads⟩
          · exact absurd (closed start member atFrontier stop leads) old
      rw [reach]
      split
      next none =>
        -- Nothing new: the known positions are closed under steps.
        rw [none] at next
        constructor
        · intro member
          exact ⟨stop, member, .here⟩
        · intro way
          obtain ⟨start, member, steps⟩ := way
          refine steps.mem_of_closed (fun start member stop leads => ?_) member
          exact (next member leads).resolve_right List.not_mem_nil
      next =>
        have mem {position : Nat} :
            position ∈ gather known ((step frontier).filter (· ∉ known)) ↔
              position ∈ known ∨ position ∈ (step frontier).filter (· ∉ known) :=
          mem_gather_iff
        rw [induction (fun start member => mem.2 (.inr member)) ?closed]
        case closed =>
          intro start member old stop leads
          rcases mem.1 member with inKnown | inNew
          · exact mem.2 (next inKnown leads)
          · exact absurd inNew old
        constructor
        · intro way
          obtain ⟨start, member, steps⟩ := way
          rcases mem.1 member with old | isNew
          · exact ⟨start, old, steps.mono (by omega)⟩
          · obtain ⟨before, atFrontier, first⟩ := (carries _ _).1 (List.mem_filter.1 isNew).1
            exact ⟨before, inside before atFrontier, .step first steps⟩
        · intro way
          obtain ⟨start, member, steps⟩ := way
          cases steps with
          | here => exact ⟨_, mem.2 (.inl member), .here⟩
          | step first rest => exact ⟨_, mem.2 (next member first), rest⟩

end Steps

section Spans

variable {text : Array Char} {expression body : Regex} {least : Nat} {most : Option Nat}

theorem spans_nothing_iff : Spans text .nothing start stop ↔ start = stop := by
  constructor
  · intro spans
    cases spans
    rfl
  · rintro rfl
    exact .nothing

theorem spans_set_iff {characters : CharSet} :
    Spans text (.set characters) start stop ↔
      stop = start + 1 ∧ text[start]?.any characters.has = true := by
  rw [Option.any_eq_true]
  constructor
  · intro spans
    cases spans with
    | set present member => exact ⟨rfl, _, present, member⟩
  · rintro ⟨rfl, character, present, member⟩
    exact .set present member

theorem spans_edge_iff {boundary : Boundary} :
    Spans text (.edge boundary) start stop ↔
      start = stop ∧ boundary.holds (before text start) text[start]? = true := by
  constructor
  · intro spans
    cases spans with
    | edge holds => exact ⟨rfl, holds⟩
  · rintro ⟨rfl, holds⟩
    exact .edge holds

theorem spans_sequence_iff {first second : Regex} :
    Spans text (.sequence first second) start stop ↔
      ∃ middle, Spans text first start middle ∧ Spans text second middle stop := by
  constructor
  · intro spans
    cases spans with
    | sequence matchFirst matchSecond => exact ⟨_, matchFirst, matchSecond⟩
  · rintro ⟨_, matchFirst, matchSecond⟩
    exact .sequence matchFirst matchSecond

theorem spans_either_iff {first second : Regex} :
    Spans text (.either first second) start stop ↔
      Spans text first start stop ∨ Spans text second start stop := by
  constructor
  · intro spans
    cases spans with
    | left matchFirst => exact .inl matchFirst
    | right matchSecond => exact .inr matchSecond
  · rintro (matchFirst | matchSecond)
    · exact .left matchFirst
    · exact .right matchSecond

theorem spans_group_iff : Spans text (.group body) start stop ↔ Spans text body start stop := by
  constructor
  · intro spans
    cases spans with
    | group matchBody => exact matchBody
  · exact .group

theorem exists_within_of_spans (spans : Spans text (.repeated body 0 most) start stop) :
    ∃ count, (∀ bound, most = some bound → count ≤ bound) ∧
      Within (Spans text body) count start stop := by
  generalize equal : Regex.repeated body 0 most = expression at spans
  induction spans generalizing most with
  | done =>
      cases equal
      exact ⟨0, fun _ _ => Nat.zero_le _, .here⟩
  | further allowed matchBody _ _ induction =>
      cases equal
      obtain ⟨count, bounded, rest⟩ := induction rfl
      refine ⟨count + 1, fun bound given => ?_, .step matchBody rest⟩
      subst given
      have fewer := bounded (bound - 1) rfl
      have some : bound ≠ 0 := fun none => allowed (by rw [none])
      omega
  | _ => cases equal

theorem spans_of_within (way : Within (Spans text body) count start stop)
    (bounded : ∀ bound, most = some bound → count ≤ bound) :
    Spans text (.repeated body 0 most) start stop := by
  induction way generalizing most with
  | here => exact .done
  | step first _ induction =>
      refine .further (fun none => ?_) first (induction fun bound given => ?_)
      · have fewer := bounded 0 none
        omega
      · obtain ⟨outer, outerGiven, rfl⟩ := Option.map_eq_some_iff.1 given
        have fewer := bounded outer outerGiven
        omega

theorem spans_repeated_zero_iff :
    Spans text (.repeated body 0 most) start stop ↔
      ∃ count, (∀ bound, most = some bound → count ≤ bound) ∧
        Within (Spans text body) count start stop := by
  constructor
  · exact exists_within_of_spans
  · rintro ⟨_, bounded, way⟩
    exact spans_of_within way bounded

/-- The required turns of a repetition come first. -/
theorem spans_repeated_iff :
    Spans text (.repeated body least most) start stop ↔
      ∃ middle, Exactly (Spans text body) least start middle ∧
        Spans text (.repeated body 0 (most.map (· - least))) middle stop := by
  induction least generalizing start most with
  | zero =>
      have same : most.map (· - 0) = most := Option.map_id'
      rw [same]
      simp only [exactly_zero_iff, exists_eq_left']
  | succ least induction =>
      have same : (most.map (· - 1)).map (· - least) = most.map (· - (least + 1)) := by
        rw [Option.map_map]
        congr 1
        funext bound
        rw [Function.comp_apply, Nat.sub_sub, Nat.add_comm]
      constructor
      · intro spans
        cases spans with
        | required matchBody matchRest =>
            obtain ⟨middle, turns, further⟩ := induction.1 matchRest
            rw [same] at further
            exact ⟨middle, .step matchBody turns, further⟩
      · intro parts
        obtain ⟨middle, turns, further⟩ := parts
        cases turns with
        | step matchBody turns =>
            rw [← same] at further
            exact .required matchBody (induction.2 ⟨middle, turns, further⟩)

/-- A match goes forward, and if it moves at all, it stays within the text. -/
theorem Spans.forward (spans : Spans text expression start stop) :
    start ≤ stop ∧ (start < stop → stop ≤ text.size) := by
  induction spans with
  | set present _ =>
      obtain ⟨inside, _⟩ := Array.getElem?_eq_some_iff.1 present
      omega
  | left _ induction => exact induction
  | right _ induction => exact induction
  | group _ induction => exact induction
  | sequence _ _ first second => omega
  | required _ _ first second => omega
  | further _ _ _ first second => omega
  | _ => omega

theorem spans_repeated_none_iff :
    Spans text (.repeated body 0 none) start stop ↔
      Within (Spans text body) text.size start stop := by
  constructor
  · intro spans
    obtain ⟨count, _, way⟩ := exists_within_of_spans spans
    obtain ⟨_, inside, short⟩ := way.shorten fun _ _ => Spans.forward
    rcases Nat.lt_or_ge start stop with further | stays
    · exact short.mono (by have := inside further; omega)
    · exact short.mono (by omega)
  · intro way
    exact spans_of_within way nofun

theorem spans_repeated_some_iff {bound : Nat} :
    Spans text (.repeated body 0 (some bound)) start stop ↔
      Within (Spans text body) bound start stop := by
  rw [spans_repeated_zero_iff]
  constructor
  · intro parts
    obtain ⟨count, bounded, way⟩ := parts
    exact way.mono (bounded bound rfl)
  · intro way
    exact ⟨bound, fun other given => Nat.le_of_eq (Option.some.inj given), way⟩

/-- The search finds the ends of the matches. -/
theorem carries_ends (text : Array Char) (expression : Regex) :
    Carries (expression.ends text) (Spans text expression) := by
  unfold Carries
  induction expression with
  | nothing => simp [ends, spans_nothing_iff]
  | set characters =>
      intro starts stop
      simp only [ends, List.mem_map, List.mem_filter, spans_set_iff]
      constructor
      · rintro ⟨start, ⟨member, present⟩, rfl⟩
        exact ⟨start, member, rfl, present⟩
      · rintro ⟨start, member, rfl, present⟩
        exact ⟨start, ⟨member, present⟩, rfl⟩
  | edge boundary =>
      intro starts stop
      simp only [ends, List.mem_filter, spans_edge_iff]
      constructor
      · rintro ⟨member, holds⟩
        exact ⟨stop, member, rfl, holds⟩
      · rintro ⟨start, member, rfl, holds⟩
        exact ⟨member, holds⟩
  | sequence first second firstCarries secondCarries =>
      intro starts stop
      simp only [ends, secondCarries, firstCarries, spans_sequence_iff]
      constructor
      · rintro ⟨middle, ⟨start, member, matchFirst⟩, matchSecond⟩
        exact ⟨start, member, middle, matchFirst, matchSecond⟩
      · rintro ⟨start, member, middle, matchFirst, matchSecond⟩
        exact ⟨middle, ⟨start, member, matchFirst⟩, matchSecond⟩
  | either first second firstCarries secondCarries =>
      intro starts stop
      simp only [ends, mem_gather_iff, firstCarries, secondCarries, spans_either_iff, and_or_left,
        exists_or]
  | group body carries =>
      intro starts stop
      simp only [ends, carries, spans_group_iff]
  | repeated body least most carries =>
      intro starts stop
      have reached (count : Nat) (known : List Nat) :
          stop ∈ reach (body.ends text) count known known ↔
            ∃ middle ∈ known, Within (Spans text body) count middle stop :=
        mem_reach_iff carries (fun _ member => member) fun start member old => absurd member old
      have turns : stop ∈ (repeated body least most).ends text starts ↔
          ∃ middle ∈ advance (body.ends text) least starts,
            Spans text (.repeated body 0 (most.map (· - least))) middle stop := by
        cases most with
        | none => simp only [ends, reached, Option.map_none, spans_repeated_none_iff]
        | some most => simp only [ends, reached, Option.map_some, spans_repeated_some_iff]
      rw [turns]
      simp only [mem_advance_iff carries]
      constructor
      · rintro ⟨middle, ⟨start, member, required⟩, further⟩
        exact ⟨start, member, spans_repeated_iff.2 ⟨middle, required, further⟩⟩
      · rintro ⟨start, member, spans⟩
        obtain ⟨middle, required, further⟩ := spans_repeated_iff.1 spans
        exact ⟨middle, ⟨start, member, required⟩, further⟩

/-- An expression matches in a text if it matches from some place of it to another. -/
theorem matchesIn_iff {text : Text} :
    expression.matchesIn text = true ↔
      ∃ start ≤ text.length, ∃ stop, Spans text.toArray expression start stop := by
  have ends := carries_ends text.toArray expression (List.range (text.length + 1))
  simp only [List.mem_range, Nat.lt_succ_iff] at ends
  rw [matchesIn, Bool.not_eq_true', List.isEmpty_eq_false_iff_exists_mem]
  simp only [ends]
  constructor
  · rintro ⟨stop, start, inside, spans⟩
    exact ⟨start, inside, stop, spans⟩
  · rintro ⟨start, inside, stop, spans⟩
    exact ⟨stop, start, inside, spans⟩

end Spans

end RecordSearch.Regex
