import RecordSearch.Proofs.WholeForms

/-!
# Escaped texts

With a backslash in front of every character that has a meaning of its own, a text is a written form
in which every character stands for itself.  The reader takes one step for each character and adds a
letter each time.  A glob is written with its pieces escaped and `.*` between them, and what is read
of that form matches where the glob does and takes as much memory.
-/

namespace RecordSearch.Regex

variable {reader : Reader} {text rest piece : Text} {character : Char} {bound : Nat}
  {characters : Array Char} {start stop : Nat} {settings : Settings}

/-- The text with a backslash in front of the characters that have a meaning of their own. -/
def escape (text : Text) : Text :=
  text.flatMap fun character =>
    if character ∈ metaCharacters then ['\\', character] else [character]

def globForm (glob : Text) : Text :=
  "(?is)^".toList ++ Text.join ".*".toList ((Text.splitAt '*' glob).map escape) ++ ['$']

def Reader.addAll (reader : Reader) (pieces : List Piece) : Reader :=
  { reader with
    branches := { reader.branches with
      parts := (pieces.map Part.term).reverse ++ reader.branches.parts } }

def Settings.letters (settings : Settings) (text : Text) : List Piece :=
  text.map fun character => { expression := settings.letter character }

section Steps

theorem addAll_append (reader : Reader) (front back : List Piece) :
    reader.addAll (front ++ back) = (reader.addAll front).addAll back := by
  simp [Reader.addAll]

theorem addAll_singleton (reader : Reader) (piece : Piece) :
    reader.addAll [piece] = reader.add piece :=
  rfl

theorem partMarks_subset : ∀ mark ∈ partMarks, mark ∈ metaCharacters := by
  have subset : partMarks.all (metaCharacters.contains ·) = true := rfl
  exact fun mark member => List.contains_iff_mem.1 (List.all_eq_true.1 subset mark member)

theorem escape_cons (character : Char) (text : Text) :
    escape (character :: text) =
      (if character ∈ metaCharacters then ['\\', character] else [character]) ++ escape text :=
  rfl

theorem escape_cons_ne_nil (character : Char) (text : Text) : escape (character :: text) ≠ [] := by
  rw [escape_cons]
  split <;> exact List.cons_ne_nil _ _

theorem length_le_escape (text : Text) : text.length ≤ (escape text).length := by
  induction text with
  | nil => exact Nat.le_refl _
  | cons character text induction =>
      rw [escape_cons, List.length_append, List.length_cons]
      split
      · rw [List.length_cons, List.length_singleton]
        omega
      · rw [List.length_singleton]
        omega

variable [PropertyTable]

theorem step_of_compact (outside : reader.brackets = [])
    (compact : reader.settings.spaced = false) (text : Text) :
    reader.step text = reader.readPart text := by
  rw [step_of_outside outside, Settings.skip, compact]
  rfl

theorem readEscape_meta (member : character ∈ metaCharacters) (settings : Settings)
    (rest : Text) :
    readEscape settings (character :: rest) = some (.letter character, rest) := by
  simp only [metaCharacters, List.mem_cons, List.not_mem_nil, or_false] at member
  rcases member with rfl | rfl | rfl | rfl | rfl | rfl | rfl | rfl | rfl | rfl | rfl | rfl | rfl |
    rfl | rfl | rfl | rfl | rfl <;> rfl

theorem step_escape_cons (outside : reader.brackets = [])
    (compact : reader.settings.spaced = false) (character : Char) (text rest : Text) :
    reader.step (escape (character :: text) ++ rest) =
      some (reader.add { expression := reader.settings.letter character },
        escape text ++ rest) := by
  rw [step_of_compact outside compact, escape_cons]
  by_cases member : character ∈ metaCharacters
  · rw [if_pos member]
    change (readEscape reader.settings (character :: (escape text ++ rest))).bind _ = _
    rw [readEscape_meta member]
    rfl
  · rw [if_neg member]
    exact readPart_letter (fun mark => member (partMarks_subset character mark)) _

theorem run_escape (outside : reader.brackets = []) (compact : reader.settings.spaced = false)
    (bound : Nat) (text rest : Text) :
    Reader.run (bound + text.length) reader (escape text ++ rest) =
      Reader.run bound (reader.addAll (reader.settings.letters text)) rest := by
  induction text generalizing reader with
  | nil => rfl
  | cons character text induction =>
      have nonempty : escape (character :: text) ++ rest ≠ [] :=
        List.append_ne_nil_of_left_ne_nil (escape_cons_ne_nil character text) _
      have further := @induction (reader.add { expression := reader.settings.letter character })
        outside compact
      rw [List.length_cons, ← Nat.add_assoc, run_succ_of_step nonempty
        (step_escape_cons outside compact character text rest), further, ← addAll_singleton]
      exact congrArg (Reader.run bound · rest) (addAll_append reader [_] _).symm

end Steps

section Closing

variable {depths : List Nat} {greatest : Nat}

theorem layered_le (bounded : ∀ depth ∈ depths, depth ≤ greatest) :
    layered depths ≤ greatest + 1 := by
  have folded {first : Nat} {rest : List Nat} (firstLe : first ≤ greatest)
      (restLe : ∀ depth ∈ rest, depth ≤ greatest) : rest.foldl max first ≤ greatest := by
    induction rest generalizing first with
    | nil => exact firstLe
    | cons second rest induction =>
        rw [List.forall_mem_cons] at restLe
        exact induction (Nat.max_le.2 ⟨firstLe, restLe.1⟩) restLe.2
  cases depths with
  | nil => exact Nat.zero_le _
  | cons first rest =>
      rw [List.forall_mem_cons] at bounded
      cases rest with
      | nil => exact Nat.le_succ_of_le bounded.1
      | cons second rest => exact Nat.succ_le_succ (folded bounded.1 bounded.2)

theorem close_of_parts (parts : List Part) :
    ({ parts := parts.reverse } : Branches).close =
      { expression := alternation (concatenation (parts.map (·.piece.expression))) []
        depth := layered (parts.map (·.piece.depth)) } := by
  simp only [Branches.close, Branches.current, List.reverse_reverse, List.map_map]
  rfl

end Closing

section Whole

theorem expression_letters (settings : Settings) (wide : settings.ascii = false)
    (ignores : settings.ignoreCase = true) (text : Text) :
    (settings.letters text).map (·.expression) = text.map (letter true) := by
  rw [Settings.letters, List.map_map]
  apply List.map_congr_left
  intro character _
  rw [Function.comp_apply, Settings.letter, Settings.fold, wide, ignores]
  rfl

theorem close_addAll_wholeStart (pieces : List Piece) :
    (wholeStart.addAll pieces).branches.close =
      { expression := alternation (concatenation (pieces.map (·.expression))) []
        depth := layered (pieces.map (·.depth)) } := by
  have parts :
      (wholeStart.addAll pieces).branches = { parts := (pieces.map Part.term).reverse } := by
    simp [Reader.addAll, wholeStart]
  rw [parts, close_of_parts, List.map_map, List.map_map]
  rfl

theorem readWhole_escape [PropertyTable] (text : Text) :
    readWhole (escape text) = (whole (alternation (literal text) [])).fit := by
  have enough : text.length ≤ (escape text).length := length_le_escape text
  obtain ⟨more, length⟩ := Nat.exists_eq_add_of_le enough
  have bound : (escape text).length + 7 = more + 5 + 2 + text.length := by omega
  let letters := wholeStart.settings.letters text
  have run : Reader.run ((escape text).length + 7) wholeStart (escape text ++ plainEnd) =
      some (wholeStart.addAll letters).closeWhole := by
    rw [bound, run_escape rfl rfl]
    exact run_plainEnd _ rfl rfl
  have shallow : (wholeStart.addAll letters).branches.close.depth + 2 ≤ depthLimit := by
    have level : layered (letters.map (·.depth)) ≤ 0 + 1 := by
      apply layered_le
      simp [letters, Settings.letters]
    rw [close_addAll_wholeStart]
    exact Nat.le_trans (Nat.add_le_add_right level 2) (by decide)
  rw [readWhole_eq, run, Option.bind_some, finish_closeWhole rfl, if_pos shallow,
    close_addAll_wholeStart, expression_letters _ rfl rfl, Option.bind_some, literal]

end Whole

def globSettings : Settings where
  ignoreCase := true
  dotAll := true

/-- The reader behind the circumflex of the written form of a glob. -/
def globStart : Reader where
  branches := { parts := [.term { expression := .edge .textStart }, .change] }
  settings := globSettings

def globPieces : List Text → List Piece
  | [] => []
  | [piece] => globSettings.letters piece
  | piece :: texts =>
      globSettings.letters piece ++ { expression := anything, depth := 1 } :: globPieces texts

theorem globPieces_cons_cons (piece next : Text) (texts : List Text) :
    globPieces (piece :: next :: texts) = globSettings.letters piece ++
      { expression := anything, depth := 1 } :: globPieces (next :: texts) :=
  rfl

/-- What is read of the written form of a glob. -/
def globExpression (glob : Text) : Regex :=
  concatenation (.nothing :: .edge .textStart ::
    ((globPieces (Text.splitAt '*' glob)).map (·.expression) ++ [.edge .textEnd]))

section GlobForms

variable {texts : List Text} {glob : Text}

theorem escape_append_ne (other : ∀ behind, rest ≠ '?' :: behind) (text behind : Text) :
    escape text ++ rest ≠ '?' :: behind := by
  cases text with
  | nil => exact other behind
  | cons character text =>
      rw [escape_cons]
      split
      next => exact nofun
      next plain =>
        intro equal
        obtain rfl : character = '?' := (List.cons.inj equal).1
        exact plain (by decide)

theorem cons_ne_question (apart : character ≠ '?') (text behind : Text) :
    character :: text ≠ '?' :: behind :=
  fun equal => apart (List.cons.inj equal).1

theorem join_escape_cons_cons (piece next : Text) (texts : List Text) (behind : Text) :
    Text.join ".*".toList ((piece :: next :: texts).map escape) ++ behind =
      escape piece ++ ('.' :: '*' ::
        (Text.join ".*".toList ((next :: texts).map escape) ++ behind)) := by
  simp [Text.join]

/-- Between the escaped pieces no question mark follows a star. -/
theorem join_append_ne (texts : List Text) (behind : Text) :
    Text.join ".*".toList (texts.map escape) ++ ['$'] ≠ '?' :: behind := by
  match texts with
  | [] => exact cons_ne_question (by decide) _ _
  | [piece] => exact escape_append_ne (cons_ne_question (by decide) _) piece behind
  | piece :: next :: texts =>
      rw [join_escape_cons_cons]
      exact escape_append_ne (cons_ne_question (by decide) _) piece behind

theorem depth_globPieces (texts : List Text) : ∀ piece ∈ globPieces texts, piece.depth ≤ 1 := by
  have letters (text : Text) : ∀ piece ∈ globSettings.letters text, piece.depth ≤ 1 := by
    simp [Settings.letters]
  induction texts with
  | nil => exact nofun
  | cons piece texts induction =>
      cases texts with
      | nil => exact letters piece
      | cons next texts =>
          exact List.forall_mem_append.2
            ⟨letters piece, List.forall_mem_cons.2 ⟨Nat.le_refl 1, induction⟩⟩

theorem branches_globForm (pieces : List Piece) :
    ((globStart.addAll pieces).add { expression := .edge .textEnd }).branches =
      { parts := (.change :: .term { expression := .edge .textStart } ::
          (pieces.map Part.term ++ [.term { expression := .edge .textEnd }])).reverse } := by
  simp [Reader.addAll, Reader.add, Branches.add, globStart]

variable [PropertyTable]

theorem run_globStart (bound : Nat) (rest : Text) :
    Reader.run (bound + 2) {} ("(?is)^".toList ++ rest) = Reader.run bound globStart rest :=
  rfl

theorem run_anything (outside : reader.brackets = []) (settings : reader.settings = globSettings)
    (other : ∀ behind, rest ≠ '?' :: behind) (bound : Nat) :
    Reader.run (bound + 2) reader ('.' :: '*' :: rest) =
      Reader.run bound (reader.add { expression := anything, depth := 1 }) rest := by
  have compact : reader.settings.spaced = false := by rw [settings]; rfl
  have dot : reader.step ('.' :: '*' :: rest) =
      some (reader.add { expression := .set CharSet.all }, '*' :: rest) := by
    rw [step_of_compact outside compact, Reader.readPart, settings]
    rfl
  have star : (reader.add { expression := .set CharSet.all }).step ('*' :: rest) =
      some (reader.add { expression := anything, depth := 1 }, rest) := by
    have stillOutside : (reader.add { expression := .set CharSet.all }).brackets = [] := outside
    have stillCompact : (reader.add { expression := .set CharSet.all }).settings.spaced = false :=
      compact
    rw [step_of_compact stillOutside stillCompact]
    change some (_, Reader.skipReluctant rest) = _
    rw [skipReluctant_of_ne other]
    rfl
  rw [run_succ_of_step (List.cons_ne_nil _ _) dot, run_succ_of_step (List.cons_ne_nil _ _) star]

theorem run_letters (outside : reader.brackets = []) (settings : reader.settings = globSettings)
    (bound : Nat) (text rest : Text) :
    Reader.run (bound + text.length) reader (escape text ++ rest) =
      Reader.run bound (reader.addAll (globSettings.letters text)) rest := by
  have compact : reader.settings.spaced = false := by rw [settings]; rfl
  rw [run_escape outside compact, settings]

/-- The pieces of a glob are read one after the other, in no more steps than characters. -/
theorem exists_run_globPieces (texts : List Text) :
    ∃ steps ≤ (Text.join ".*".toList (texts.map escape)).length,
      ∀ (reader : Reader) (bound : Nat), reader.brackets = [] → reader.settings = globSettings →
        Reader.run (bound + steps) reader
            (Text.join ".*".toList (texts.map escape) ++ ['$']) =
          Reader.run bound (reader.addAll (globPieces texts)) ['$'] := by
  induction texts with
  | nil => exact ⟨0, Nat.zero_le _, fun _ _ _ _ => rfl⟩
  | cons piece texts induction =>
      cases texts with
      | nil =>
          exact ⟨piece.length, length_le_escape piece, fun reader bound outside settings =>
            run_letters outside settings bound piece ['$']⟩
      | cons next texts =>
          obtain ⟨steps, fewer, further⟩ := induction
          refine ⟨steps + 2 + piece.length, ?_, fun reader bound outside settings => ?_⟩
          · have parts := congrArg List.length (join_escape_cons_cons piece next texts [])
            have pieceLe := length_le_escape piece
            simp only [List.append_nil, List.length_append, List.length_cons] at parts fewer
            rw [parts]
            omega
          · let read := reader.addAll (globSettings.letters piece)
            let starred := read.add { expression := anything, depth := 1 }
            have star := @run_anything read _ _ outside settings (join_append_ne (next :: texts))
            have behind := further starred bound outside settings
            have assoc : bound + (steps + 2 + piece.length) =
                bound + steps + 2 + piece.length := by
              omega
            have joined : reader.addAll (globPieces (piece :: next :: texts)) =
                starred.addAll (globPieces (next :: texts)) := by
              rw [globPieces_cons_cons, List.append_cons, addAll_append, addAll_append]
              rfl
            rw [assoc, join_escape_cons_cons, run_letters outside settings, star, behind, joined]

theorem read_globForm (glob : Text) : read (globForm glob) = some (globExpression glob) := by
  let pieces := globPieces (Text.splitAt '*' glob)
  let body := Text.join ".*".toList ((Text.splitAt '*' glob).map escape)
  let reader := (globStart.addAll pieces).add { expression := .edge .textEnd }
  have run : Reader.run (globForm glob).length {} (globForm glob) = some reader := by
    obtain ⟨steps, fewer, further⟩ := exists_run_globPieces (Text.splitAt '*' glob)
    obtain ⟨more, length⟩ : ∃ more, body.length = steps + more :=
      Nat.exists_eq_add_of_le fewer
    have bound : (globForm glob).length = more + 5 + steps + 2 := by
      have parts : (globForm glob).length = 6 + body.length + 1 :=
        List.length_append.trans (congrArg (· + 1) List.length_append)
      omega
    have dollar : (globStart.addAll pieces).step ['$'] = some (reader, []) := by
      rw [step_of_compact rfl rfl]
      rfl
    have written : globForm glob = "(?is)^".toList ++ (body ++ ['$']) := List.append_assoc _ _ _
    rw [bound, written, run_globStart, further globStart _ rfl rfl,
      run_succ_of_step (List.cons_ne_nil _ _) dollar, run_nil]
  have closed : reader.branches.close =
      { expression := globExpression glob
        depth := layered (0 :: 0 :: (pieces.map (·.depth) ++ [0])) } := by
    rw [branches_globForm, close_of_parts]
    simp only [List.map_cons, List.map_append, List.map_map, List.map_nil]
    rfl
  have shallow : layered (0 :: 0 :: (pieces.map (·.depth) ++ [0])) ≤ 1 + 1 := by
    apply layered_le
    intro depth member
    simp only [List.mem_cons, List.mem_append, List.mem_map, List.not_mem_nil, or_false] at member
    rcases member with rfl | rfl | ⟨piece, among, rfl⟩ | rfl
    · exact Nat.zero_le _
    · exact Nat.zero_le _
    · exact depth_globPieces _ piece among
    · exact Nat.zero_le _
  rw [read, run]
  refine finish_eq_some_iff.2 ⟨rfl, rfl, ?_, ?_⟩
  · rw [closed]
    exact Nat.le_trans shallow (by decide)
  · rw [closed]

end GlobForms

section SameGlobs

variable {expression : Regex} {expressions front back : List Regex}

theorem chain_concatenation_cons_iff :
    Chain characters (concatenation front :: back) start stop ↔
      Chain characters (front ++ back) start stop := by
  rw [Chain, chain_append_iff]
  simp only [spans_concatenation_iff]

theorem chain_globPieces_iff (texts : List Text) :
    Chain characters ((globPieces texts).map (·.expression) ++ back) start stop ↔
      Chain characters (pieces texts ++ back) start stop := by
  induction texts generalizing start with
  | nil => exact Iff.rfl
  | cons piece texts induction =>
      have letters : (globSettings.letters piece).map (·.expression) = piece.map (letter true) :=
        expression_letters globSettings rfl rfl piece
      cases texts with
      | nil =>
          rw [globPieces, letters]
          exact chain_concatenation_cons_iff.symm
      | cons next texts =>
          rw [globPieces_cons_cons, pieces_cons_cons, List.map_append, List.map_cons, letters,
            List.append_assoc, List.cons_append, List.cons_append, List.cons_append, literal,
            chain_concatenation_cons_iff, chain_append_iff, chain_append_iff]
          simp only [Chain, induction]

/-- What is read of the written form of a glob matches where the glob does. -/
theorem matchesIn_globExpression (glob text : Text) :
    (globExpression glob).matchesIn text = (ofGlob glob).matchesIn text := by
  have same {start stop : Nat} : Spans text.toArray (globExpression glob) start stop ↔
      Spans text.toArray (ofGlob glob) start stop := by
    rw [globExpression, ofGlob, spans_concatenation_iff, spans_concatenation_iff]
    simp only [Chain, chain_globPieces_iff, spans_nothing_iff, exists_eq_left']
  rw [Bool.eq_iff_iff, matchesIn_iff, matchesIn_iff]
  simp only [same]

theorem memory_concatenation_cons (direction : Direction) (expression : Regex)
    (expressions : List Regex) :
    (concatenation (expression :: expressions)).memory direction =
      expression.memory direction + (concatenation expressions).memory direction := by
  cases expressions <;> rfl

theorem memory_concatenation_append (direction : Direction) (front back : List Regex) :
    (concatenation (front ++ back)).memory direction =
      (concatenation front).memory direction + (concatenation back).memory direction := by
  induction front with
  | nil => exact (Nat.zero_add _).symm
  | cons expression front induction =>
      rw [List.cons_append, memory_concatenation_cons, memory_concatenation_cons, induction,
        Nat.add_assoc]

theorem memory_globPieces (direction : Direction) (texts : List Text) :
    (concatenation ((globPieces texts).map (·.expression))).memory direction =
      (concatenation (pieces texts)).memory direction := by
  induction texts with
  | nil => rfl
  | cons piece texts induction =>
      have letters : (globSettings.letters piece).map (·.expression) = piece.map (letter true) :=
        expression_letters globSettings rfl rfl piece
      cases texts with
      | nil =>
          rw [globPieces, letters]
          rfl
      | cons next texts =>
          rw [globPieces_cons_cons, pieces_cons_cons, List.map_append, List.map_cons, letters,
            memory_concatenation_append, memory_concatenation_cons, memory_concatenation_cons,
            memory_concatenation_cons, induction, literal]

theorem isVoid_concatenation_of_mem (member : expression ∈ expressions)
    (filled : expression.isVoid = false) : (concatenation expressions).isVoid = false := by
  induction expressions with
  | nil => cases member
  | cons first expressions induction =>
      cases expressions with
      | nil =>
          obtain rfl := List.mem_singleton.1 member
          exact filled
      | cons second expressions =>
          change (first.isVoid && (concatenation (second :: expressions)).isVoid) = false
          rw [Bool.and_eq_false_iff]
          rcases List.mem_cons.1 member with rfl | further
          · exact .inl filled
          · exact .inr (induction further)

/-- What is read of the written form of a glob takes as much memory as the glob. -/
theorem fit_globExpression_isSome (glob : Text) :
    (globExpression glob).fit.isSome = (ofGlob glob).fit.isSome := by
  have same (direction : Direction) :
      (globExpression glob).automaton direction = (ofGlob glob).automaton direction := by
    have read : (globExpression glob).isVoid = false :=
      isVoid_concatenation_of_mem (List.mem_cons_of_mem _ List.mem_cons_self) rfl
    have built : (ofGlob glob).isVoid = false :=
      isVoid_concatenation_of_mem List.mem_cons_self rfl
    have memory : (globExpression glob).memory direction = (ofGlob glob).memory direction := by
      simp only [globExpression, ofGlob, memory_concatenation_cons, memory_concatenation_append,
        memory_globPieces]
      exact Nat.zero_add _
    simp only [automaton, memoryAlone, read, built, memory]
  rw [fit, fit, same, same]
  split <;> rfl

end SameGlobs

end RecordSearch.Regex
