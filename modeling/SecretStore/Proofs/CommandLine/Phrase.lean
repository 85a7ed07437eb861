import SecretStore.CommandLine.Invocation
import SecretStore.Proofs.Text.Unencodable

/-!
Commands as they are written: an action, its operands, and then its options, each with a
text that does not look like an option. Whatever these texts are, the words are read as
the command that they write.
-/

namespace SecretStore.CommandLine

/-- A text that does not look like an option. -/
def Plain (s : Text) : Prop :=
  s.points.head? ≠ some (.char '-')

instance (s : Text) : Decidable (Plain s) :=
  inferInstanceAs (Decidable (_ ≠ _))

structure Choice where
  switch : Switch
  text : Operand

namespace Choice

def name (c : Choice) : Text :=
  c.switch.names.headD ""

def words (c : Choice) : List Text :=
  c.name :: c.text.toList

def pieces (c : Choice) : List Piece :=
  .switch ⟨c.name, some (c.name, c.switch), none⟩ :: c.text.toList.map .word

def given (c : Choice) : Given :=
  ⟨c.switch, c.text⟩

theorem name_ne_hyphens (c : Choice) : c.name ≠ "--" := by
  have names (s : Switch) : (s.names.headD "" : Text) ≠ "--" := by cases s <;> decide
  exact names c.switch

/-- An option that a form has, with a text exactly if it takes one. -/
structure Fits (f : Form) (c : Choice) : Prop where
  known : classify f c.name = .ok (.switch ⟨c.name, some (c.name, c.switch), none⟩)
  helpless : (c.switch == .help) = false
  takes : c.switch.takesText = c.text.isSome
  plain : ∀ text ∈ c.text, Plain text

end Choice

inductive Phrase
  | get (key : Text)
  | metadata (key : Text)
  | set (key value : Text) (label description : Option Text) (noSync : Bool)
  | remove (key : Text)
  | list
deriving DecidableEq, Repr

namespace Phrase

def action : Phrase → Action
  | .get _ => .get
  | .metadata _ => .metadata
  | .set _ _ _ _ _ => .set
  | .remove _ => .remove
  | .list => .list

def operands : Phrase → List Text
  | .get key | .metadata key | .remove key => [key]
  | .set key value _ _ _ => [key, value]
  | .list => []

def options : Phrase → List Choice
  | .set _ _ label description noSync =>
    label.toList.map (fun text => ⟨.label, some text⟩) ++
      description.toList.map (fun text => ⟨.description, some text⟩) ++
      if noSync then [⟨.noSync, none⟩] else []
  | _ => []

def words (p : Phrase) : List Text :=
  p.action.name :: (p.operands ++ p.options.flatMap Choice.words)

structure Plain (p : Phrase) : Prop where
  operands : ∀ s ∈ p.operands, CommandLine.Plain s
  options : ∀ c ∈ p.options, ∀ text ∈ c.text, CommandLine.Plain text

instance (p : Phrase) : Decidable p.Plain :=
  decidable_of_iff ((∀ s ∈ p.operands, CommandLine.Plain s) ∧
    ∀ c ∈ p.options, ∀ text ∈ c.text, CommandLine.Plain text)
    ⟨fun ⟨operands, options⟩ => ⟨operands, options⟩, fun ⟨operands, options⟩ => ⟨operands, options⟩⟩

def texts : Phrase → List Text
  | .get key | .metadata key | .remove key => [key]
  | .set key value label description _ => key :: value :: (label.toList ++ description.toList)
  | .list => []

def Whole (p : Phrase) : Prop :=
  ∀ text ∈ p.texts, text.IsWhole

instance (p : Phrase) : Decidable p.Whole :=
  inferInstanceAs (Decidable (∀ text ∈ p.texts, text.IsWhole))

/-- The command that is written; words that are not given are empty. -/
def command : Phrase → Command
  | .get key => .get key
  | .metadata key => .metadata key
  | .set key value label description noSync =>
    .set key (some value) (some (label.getD "")) (some (description.getD "")) noSync
  | .remove key => .remove key
  | .list => .list

end Phrase

variable {f : Form} {s : Text}

theorem Plain.classify (plain : Plain s) (f : Form) : classify f s = .ok (.word s) := by
  have unlike : startsWith s "-" = false := by
    rw [startsWith, Text.points_ofString]
    cases ps : s.points with
    | nil => rfl
    | cons p rest =>
      have other : p ≠ .char '-' := fun same => plain (by rw [ps, same]; rfl)
      simp [List.isPrefixOf, other.symm]
  rw [CommandLine.classify]
  simp only [unlike]
  rfl

theorem Plain.ne_hyphens (plain : Plain s) : s ≠ "--" := by
  rintro rfl
  exact plain rfl

theorem Plain.operandOf (plain : Plain s) : operandOf s = some s := by
  rw [CommandLine.operandOf, if_neg plain.ne_hyphens]

/-- A word that is one piece, whatever stands behind it. -/
theorem classifyAll_cons {piece : Piece} {pieces : List Piece} {rest : List Text}
    (other : s ≠ "--") (first : classify f s = .ok piece)
    (others : classifyAll f rest = .ok pieces) :
    classifyAll f (s :: rest) = .ok (piece :: pieces) := by
  rw [classifyAll, if_neg other, first, others]
  rfl

theorem Plain.classifyAll {pieces : List Piece} {rest : List Text} (plain : Plain s)
    (others : classifyAll f rest = .ok pieces) :
    classifyAll f (s :: rest) = .ok (.word s :: pieces) :=
  classifyAll_cons plain.ne_hyphens (plain.classify f) others

theorem classifyAll_written {words : List Text}
    (each : ∀ s ∈ words, s ≠ "--" ∧ ∃ piece, classify f s = .ok piece ∧
      piece.written = s) :
    ∃ pieces, classifyAll f words = .ok pieces ∧ pieces.map Piece.written = words := by
  induction words with
  | nil => exact ⟨[], rfl, rfl⟩
  | cons s rest ih =>
    rw [List.forall_mem_cons] at each
    obtain ⟨⟨other, piece, first, written⟩, others⟩ := each
    obtain ⟨pieces, classified, kept⟩ := ih others
    exact ⟨piece :: pieces, classifyAll_cons other first classified, by
      rw [List.map_cons, written, kept]⟩

theorem classifyAll_choices {cs : List Choice} (fits : ∀ c ∈ cs, c.Fits f) :
    classifyAll f (cs.flatMap Choice.words) = .ok (cs.flatMap Choice.pieces) := by
  induction cs with
  | nil => rfl
  | cons c rest ih =>
    rw [List.forall_mem_cons] at fits
    obtain ⟨⟨known, -, -, plain⟩, others⟩ := fits
    have behind := ih others
    rw [List.flatMap_cons, List.flatMap_cons, Choice.words, Choice.pieces]
    cases text : c.text with
    | none => exact classifyAll_cons c.name_ne_hyphens known behind
    | some s => exact classifyAll_cons c.name_ne_hyphens known ((plain s text).classifyAll behind)

theorem readPieces_end {fuel : Nat} {pieces : List Piece} {r : Reading}
    (bare : pieces.any Piece.isSwitch = false) :
    readPieces f (fuel + 1) pieces r =
      .ok { (readOperands f pieces r).1 with
        extras := (readOperands f pieces r).1.extras ++
          (readOperands f pieces r).2.map Piece.written } := by
  simp only [readPieces, bare, Bool.not_false, if_true]

theorem readPieces_operands {fuel : Nat} {first : Piece} {pieces : List Piece} {r : Reading}
    (operand : first.isSwitch = false)
    (more : (first :: pieces).any Piece.isSwitch = true)
    (takes : (readOperands f (first :: pieces) r).2.length < (first :: pieces).length) :
    readPieces f (fuel + 1) (first :: pieces) r =
      readPieces f fuel (readOperands f (first :: pieces) r).2
        (readOperands f (first :: pieces) r).1 := by
  cases first with
  | switch o => cases operand
  | hyphens | word =>
    simp only [readPieces, more, Bool.not_true, Bool.false_eq_true, if_false, takes, if_true]

theorem readPieces_choice {fuel : Nat} {c : Choice} (fits : c.Fits f) (rest : List Piece)
    (r : Reading) :
    readPieces f (fuel + 1) (c.pieces ++ rest) r =
      readPieces f fuel rest { r with given := r.given ++ [c.given] } := by
  obtain ⟨-, helpless, takes, plain⟩ := fits
  obtain ⟨switch, text⟩ := c
  cases text with
  | none =>
    simp only [readPieces, Choice.pieces, Choice.given, Option.toList_none, List.map_nil,
      List.cons_append, List.nil_append, List.any_cons, Piece.isSwitch, Bool.true_or, Bool.not_true,
      Bool.false_eq_true, if_false, takeSwitch, takeAlone, takes, Option.isSome_none,
      List.any_nil, Bool.or_false, helpless]
  | some text =>
    simp only [readPieces, Choice.pieces, Choice.given, Option.toList_some, List.map_cons,
      List.map_nil, List.cons_append, List.nil_append, List.any_cons, Piece.isSwitch, Bool.true_or,
      Bool.not_true, Bool.false_eq_true, if_false, takeSwitch, takeAlone, takes, Option.isSome_some,
      if_true, (plain text rfl).operandOf, List.any_nil, Bool.or_false, helpless]

theorem readPieces_choices {cs : List Choice} (fits : ∀ c ∈ cs, c.Fits f)
    (flat : f.takesCommand = false) {r : Reading} (full : r.operands.length = f.operands.length)
    (fuel : Nat) :
    readPieces f (cs.length + (fuel + 1)) (cs.flatMap Choice.pieces) r =
      .ok { r with given := r.given ++ cs.map Choice.given } := by
  induction cs generalizing r with
  | nil =>
    rw [List.length_nil, Nat.zero_add, List.flatMap_nil, readPieces_end rfl]
    simp [readOperands, flat, full, takeOperands]
  | cons c rest ih =>
    rw [List.forall_mem_cons] at fits
    rw [List.length_cons, Nat.add_right_comm, List.flatMap_cons, readPieces_choice fits.1,
      ih fits.2 (r := { r with given := r.given ++ [c.given] }) full, List.map_cons,
      List.append_assoc, List.singleton_append]

theorem length_le_pieces (cs : List Choice) : cs.length ≤ (cs.flatMap Choice.pieces).length := by
  induction cs with
  | nil => exact Nat.le_refl _
  | cons c rest ih =>
    rw [List.flatMap_cons, List.length_append, List.length_cons, Choice.pieces, List.length_cons]
    omega

theorem any_choices (cs : List Choice) :
    (cs.flatMap Choice.pieces).any Piece.isSwitch = !cs.isEmpty := by
  cases cs <;> simp [Choice.pieces, Piece.isSwitch]

theorem head_choices (cs : List Choice) :
    (cs.flatMap Choice.pieces).head? ≠ some .hyphens := by
  cases cs <;> simp [Choice.pieces]

theorem takeOperand_plain (plain : Plain s) {rest : List Piece}
    (other : rest.head? ≠ some .hyphens) :
    takeOperand (.word s :: rest) = some (some s, rest) := by
  rw [← plain.operandOf]
  rcases rest with _ | ⟨piece, rest⟩
  · rfl
  · cases piece with
    | hyphens => exact absurd rfl other
    | word | switch => rfl

theorem takeOperands_plain {operands : List Text} (plain : ∀ s ∈ operands, Plain s)
    {rest : List Piece} (other : rest.head? ≠ some .hyphens) :
    takeOperands operands.length (operands.map .word ++ rest) = (operands.map some, rest) := by
  induction operands with
  | nil => rfl
  | cons s operands ih =>
    rw [List.forall_mem_cons] at plain
    have next : (operands.map Piece.word ++ rest).head? ≠ some .hyphens := by
      cases operands with
      | nil => exact other
      | cons => nofun
    rw [List.length_cons, List.map_cons, List.cons_append, takeOperands,
      takeOperand_plain plain.1 next]
    simp only [ih plain.2, List.map_cons]

theorem classifyAll_operands {operands : List Text} (plain : ∀ s ∈ operands, Plain s)
    {words : List Text} {pieces : List Piece} (behind : classifyAll f words = .ok pieces) :
    classifyAll f (operands ++ words) = .ok (operands.map .word ++ pieces) := by
  induction operands with
  | nil => exact behind
  | cons s operands ih =>
    rw [List.forall_mem_cons] at plain
    exact plain.1.classifyAll (ih plain.2)

theorem readPieces_phrase {operands : List Text} {cs : List Choice}
    (plain : ∀ s ∈ operands, Plain s) (fits : ∀ c ∈ cs, c.Fits f) (flat : f.takesCommand = false)
    (full : operands.length = f.operands.length) :
    readPieces f ((operands.map Piece.word ++ cs.flatMap Choice.pieces).length + 1)
      (operands.map .word ++ cs.flatMap Choice.pieces) {} =
        .ok { given := cs.map Choice.given, operands := operands.map some } := by
  have taken : readOperands f (operands.map .word ++ cs.flatMap Choice.pieces) {} =
      ({ operands := operands.map some }, cs.flatMap Choice.pieces) := by
    have all := takeOperands_plain plain (head_choices cs)
    rw [full] at all
    simp [readOperands, flat, all]
  rcases cs with _ | ⟨c, cs⟩
  · have bare : (operands.map Piece.word ++ [].flatMap Choice.pieces).any Piece.isSwitch =
        false := by
      simp [Piece.isSwitch]
    rw [readPieces_end bare, taken]
    rfl
  · obtain ⟨fuel, count⟩ := Nat.exists_eq_add_of_le (length_le_pieces (c :: cs))
    have all_read : ({ operands := operands.map some } : Reading).operands.length =
        f.operands.length := by simp [full]
    rcases operands with _ | ⟨s, operands⟩
    · rw [List.map_nil, List.nil_append, count, Nat.add_assoc]
      exact readPieces_choices fits flat all_read fuel
    · -- The operands are taken before the options behind them are looked at.
      have more : ((s :: operands).map Piece.word ++ (c :: cs).flatMap Choice.pieces).any
          Piece.isSwitch = true := by
        rw [List.any_append, any_choices]
        simp
      rw [List.map_cons, List.cons_append] at taken more ⊢
      have shorter : (readOperands f (Piece.word s :: (operands.map Piece.word ++
          (c :: cs).flatMap Choice.pieces)) {}).2.length < (Piece.word s ::
            (operands.map Piece.word ++ (c :: cs).flatMap Choice.pieces)).length := by
        simp only [taken, List.length_cons, List.length_append, List.length_map]
        omega
      rw [readPieces_operands rfl more shorter, taken]
      rw [List.length_cons, List.length_append, List.length_map, count,
        show operands.length + ((c :: cs).length + fuel) + 1 =
          (c :: cs).length + (operands.length + fuel + 1) by omega]
      exact readPieces_choices fits flat all_read _

/-- The words of a command, read by its form: all its operands, and then options. -/
theorem read_choices {operands : List Text} {cs : List Choice}
    (plain : ∀ s ∈ operands, Plain s) (fits : ∀ c ∈ cs, c.Fits f) (flat : f.takesCommand = false)
    (full : operands.length = f.operands.length) :
    f.read (operands ++ cs.flatMap Choice.words) =
      .ok { given := cs.map Choice.given, operands := operands.map some } := by
  have classified : (classifyAll f (operands ++ cs.flatMap Choice.words)).mapError Stop.fault =
      .ok (operands.map .word ++ cs.flatMap Choice.pieces) :=
    congrArg (Except.mapError _) (classifyAll_operands plain (classifyAll_choices fits))
  simp only [Form.read, classified, bind, Except.bind, readPieces_phrase plain fits flat full, flat,
    Bool.false_eq_true, if_false, List.length_map, full, Nat.lt_irrefl]
  rfl

theorem readPieces_command (takes : f.takesCommand = true) {fuel : Nat} {rest : List Piece}
    {r : Reading} (none_yet : r.command = []) :
    readPieces f (fuel + 2) (.word s :: rest) r =
      .ok { r with command := s :: rest.map Piece.written } := by
  have taken : readOperands f (.word s :: rest) r =
      ({ r with command := s :: rest.map Piece.written }, []) := by
    simp [readOperands, takes, none_yet, startsWithOperand, Piece.written]
  have settled : readOperands f [] { r with command := s :: rest.map Piece.written } =
      ({ r with command := s :: rest.map Piece.written }, []) := by
    simp [readOperands, takes]
  cases more : (Piece.word s :: rest).any Piece.isSwitch with
  | false =>
    rw [readPieces_end more, taken]
    simp
  | true =>
    rw [readPieces_operands rfl more (by simp [taken]), taken, readPieces_end rfl, settled]
    simp

theorem read_whole {config name : Text} {words : List Text} (plain : Plain config)
    (named : Plain name)
    (each : ∀ s ∈ words, s ≠ "--" ∧ ∃ piece, classify .whole s = .ok piece ∧
      piece.written = s) :
    Form.whole.read ("--config" :: config :: name :: words) =
      .ok { given := [⟨.config, some config⟩], command := name :: words } := by
  have fits : (Choice.mk .config (some config)).Fits .whole := by
    have known : classify .whole "--config" =
        .ok (.switch ⟨"--config", some ("--config", .config), none⟩) := by rfl
    refine ⟨known, rfl, rfl, ?_⟩
    rintro text ⟨⟩
    exact plain
  obtain ⟨pieces, behind, written⟩ := classifyAll_written each
  have classified : (classifyAll .whole ("--config" :: config :: name :: words)).mapError
      Stop.fault = .ok ((Choice.mk .config (some config)).pieces ++ .word name :: pieces) :=
    congrArg (Except.mapError _) (classifyAll_cons (Choice.name_ne_hyphens _) fits.known
      (plain.classifyAll (named.classifyAll behind)))
  have count : ((Choice.mk .config (some config)).pieces ++ Piece.word name :: pieces).length + 1 =
      pieces.length + 1 + 2 + 1 := by
    simp [Choice.pieces]
  have read : readPieces .whole (pieces.length + 1 + 2 + 1)
      ((Choice.mk .config (some config)).pieces ++ .word name :: pieces) {} =
        .ok { given := [⟨.config, some config⟩], command := name :: words } := by
    rw [readPieces_choice fits, ← written]
    exact readPieces_command rfl rfl
  simp only [Form.read, classified, bind, Except.bind, count, read]
  have enough : ¬ min (name :: words).length 1 < 1 := by simp
  exact if_neg enough

namespace Phrase

variable {p : Phrase}

theorem flat (p : Phrase) : p.action.form.takesCommand = false := by
  cases p <;> rfl

theorem full (p : Phrase) : p.operands.length = p.action.form.operands.length := by
  cases p <;> rfl

theorem mem_options {c : Choice} (member : c ∈ p.options) :
    p.action = .set ∧ ((∃ text, c = ⟨.label, some text⟩) ∨ (∃ text, c = ⟨.description, some text⟩) ∨
      c = ⟨.noSync, none⟩) := by
  cases p with
  | set key value label description noSync =>
    refine ⟨rfl, ?_⟩
    rcases List.mem_append.mp member with words | last
    · rcases List.mem_append.mp words with first | second
      · obtain ⟨text, -, rfl⟩ := List.mem_map.mp first
        exact .inl ⟨text, rfl⟩
      · obtain ⟨text, -, rfl⟩ := List.mem_map.mp second
        exact .inr (.inl ⟨text, rfl⟩)
    · cases noSync with
      | false => cases last
      | true => exact .inr (.inr (List.mem_singleton.mp last))
  | _ => cases member

theorem Plain.fits (plain : p.Plain) : ∀ c ∈ p.options, c.Fits p.action.form := by
  intro c member
  obtain ⟨set, which⟩ := mem_options member
  have label : classify Action.setForm "--label" =
      .ok (.switch ⟨"--label", some ("--label", .label), none⟩) := by rfl
  have description : classify Action.setForm "--description" =
      .ok (.switch ⟨"--description", some ("--description", .description), none⟩) := by rfl
  have noSync : classify Action.setForm "--no-sync" =
      .ok (.switch ⟨"--no-sync", some ("--no-sync", .noSync), none⟩) := by rfl
  rw [set]
  rcases which with ⟨text, rfl⟩ | ⟨text, rfl⟩ | rfl
  · exact ⟨label, rfl, rfl, plain.options _ member⟩
  · exact ⟨description, rfl, rfl, plain.options _ member⟩
  · exact ⟨noSync, rfl, rfl, plain.options _ member⟩

theorem Plain.kept (plain : p.Plain) :
    ∀ s ∈ p.operands ++ p.options.flatMap Choice.words,
      s ≠ "--" ∧ ∃ piece, classify .whole s = .ok piece ∧ piece.written = s := by
  have word {s : Text} (plain : CommandLine.Plain s) : s ≠ "--" ∧
      ∃ piece, classify .whole s = .ok piece ∧ piece.written = s :=
    ⟨plain.ne_hyphens, _, plain.classify _, rfl⟩
  intro s member
  rcases List.mem_append.mp member with operand | option
  · exact word (plain.operands s operand)
  · obtain ⟨c, chosen, which⟩ := List.mem_flatMap.mp option
    rcases List.mem_cons.mp which with rfl | text
    · have label : classify .whole "--label" = .ok (.switch ⟨"--label", none, none⟩) := by rfl
      have description : classify .whole "--description" =
          .ok (.switch ⟨"--description", none, none⟩) := by rfl
      have noSync : classify .whole "--no-sync" = .ok (.switch ⟨"--no-sync", none, none⟩) := by rfl
      obtain ⟨-, ⟨text, rfl⟩ | ⟨text, rfl⟩ | rfl⟩ := mem_options chosen
      · exact ⟨Choice.name_ne_hyphens _, _, label, rfl⟩
      · exact ⟨Choice.name_ne_hyphens _, _, description, rfl⟩
      · exact ⟨Choice.name_ne_hyphens _, _, noSync, rfl⟩
    · exact word (plain.options c chosen s (Option.mem_toList.mp text))

theorem commandOf_choices (p : Phrase) :
    commandOf p.action { given := p.options.map Choice.given, operands := p.operands.map some } =
      p.command := by
  cases p with
  | set key value label description noSync =>
    cases label <;> cases description <;> cases noSync <;> rfl
  | _ => rfl

theorem read_words {config : Text} (named : CommandLine.Plain config) (plain : p.Plain) :
    Invocation.read ("--config" :: config :: p.words) =
      .ok ⟨some (some config), false, p.command⟩ := by
  have action : Action.ofName? p.action.name = some p.action := by
    cases p.action <;> decide
  have name : CommandLine.Plain p.action.name := by
    cases p.action <;> decide
  have outer : (Form.whole.read ("--config" :: config :: p.words)).mapError (Refusal.mk .whole) =
      .ok { given := [⟨.config, some config⟩], command := p.words } :=
    congrArg (Except.mapError _) (read_whole named name plain.kept)
  have inner : (p.action.form.read (p.operands ++ p.options.flatMap Choice.words)).mapError
      (Refusal.mk p.action.form) =
        .ok { given := p.options.map Choice.given, operands := p.operands.map some } :=
    congrArg (Except.mapError _) (read_choices plain.operands plain.fits p.flat p.full)
  simp only [Invocation.read, outer, bind, Except.bind]
  simp only [words, List.headD_cons, action, List.drop_succ_cons, List.drop_zero, inner,
    List.append_nil, List.isEmpty_nil, Bool.not_true, Bool.false_eq_true, if_false,
    commandOf_choices]
  rfl

end Phrase

end SecretStore.CommandLine
