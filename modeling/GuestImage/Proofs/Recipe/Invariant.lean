import GuestImage.Proofs.Recipe.Acceptance
import GuestImage.Proofs.Text.Trim

/-!
# What holds of every recipe

A recipe that was read from a text keeps what its commands were read from: arguments are trimmed
and stand on one line, and the lines of the commands grow. With the order that recipes have this
makes the first command the only origin, and divides the commands by their kinds.
-/

namespace GuestImage

/-- Commands as they are made: with a trimmed argument on one line and its fingerprint. -/
structure Command.WF (command : Command) : Prop where
  value_ne_empty : command.value ≠ ""
  trim_value : Text.trim command.value = command.value
  oneLine : '\n' ∉ command.value.toList
  fingerprinted : command.Fingerprinted

theorem Command.WF.trimList_value {command : Command} (wf : command.WF) :
    Text.trimList command.value.toList = command.value.toList := by
  rw [← Text.toList_trim, wf.trim_value]

namespace Recipe

/-! ## Commands of lines -/

theorem Piece.lineFeed_not_mem_meaning {piece : Piece} (wf : piece.WF) : '\n' ∉ piece.meaning := by
  cases piece with
  | plain letter => simpa [meaning] using wf.2.2.symm
  | escaped letter => simpa [meaning] using Ne.symm wf
  | continued carriage => simp [meaning]

theorem LogicalLine.lineFeed_not_mem_meaningOf {argument : List Piece}
    (wf : ∀ piece ∈ argument, piece.WF) : '\n' ∉ meaningOf argument := by
  rw [meaningOf, List.mem_flatMap]
  rintro ⟨piece, member, feed⟩
  exact Piece.lineFeed_not_mem_meaning (wf piece member) feed

theorem LogicalLine.WF.command_wf {line : LogicalLine} (wf : line.WF) {number : Nat}
    {command : Command} (made : line.command? number = some command) : command.WF := by
  have fingerprinted := fingerprinted_of_command? made
  cases line with
  | blank | comment => cases made
  | command spaces token gap argument remark? =>
      rcases wf with ⟨-, -, -, -, pieces, -, meant⟩
      rcases Option.map_eq_some_iff.mp made with ⟨kind, -, rfl⟩
      constructor
      · simpa using meant
      · simp [Text.trim]
      · intro feed
        apply lineFeed_not_mem_meaningOf pieces
        exact (Text.trimList_sublist _).subset (by simpa using feed)
      · exact fingerprinted

theorem LogicalLine.line_of_command? {line : LogicalLine} {number : Nat} {command : Command}
    (made : line.command? number = some command) : command.line = number := by
  cases line with
  | blank | comment => cases made
  | command spaces token gap argument remark? =>
      rcases Option.map_eq_some_iff.mp made with ⟨kind, -, rfl⟩
      rfl

/-- The commands of lines stand on physical lines that their text has. -/
theorem line_of_mem_commandsOf {number : Nat} {lines : List LogicalLine} {command : Command}
    (member : command ∈ commandsOf number lines) :
    number ≤ command.line ∧ command.line ≤ number + (textOf lines).count '\n' := by
  induction lines generalizing number with
  | nil => cases member
  | cons line lines ih =>
      rw [commandsOf, List.mem_append] at member
      rcases member with own | later
      · have := LogicalLine.line_of_command? (by simpa using own)
        omega
      · cases lines with
        | nil => cases later
        | cons next lines =>
            have := ih later
            simp only [textOf, List.count_append, List.count_cons_self]
            rw [LogicalLine.lineFeeds] at this
            omega

/-- A later command stands on a later line. -/
theorem pairwise_line_commandsOf (number : Nat) (lines : List LogicalLine) :
    (commandsOf number lines).Pairwise fun first second => first.line < second.line := by
  induction lines generalizing number with
  | nil => exact .nil
  | cons line lines ih =>
      rw [commandsOf, List.pairwise_append]
      refine ⟨?_, ih _, ?_⟩
      · cases line.command? number <;> simp
      · intro first own second later
        have := LogicalLine.line_of_command? (by simpa using own)
        have := line_of_mem_commandsOf later
        omega

/-! ## Recipes -/

/-- Recipes as they are read from a text with this many physical lines. -/
structure WF (recipe : Recipe) (lineCount : Nat) : Prop where
  ordered : WellOrdered recipe.commands
  commands : ∀ command ∈ recipe.commands, command.WF
  increasing : recipe.commands.Pairwise fun first second => first.line < second.line
  within : ∀ command ∈ recipe.commands, 1 ≤ command.line ∧ command.line ≤ lineCount

theorem wf_of_parse {text : String} {recipe : Recipe} (read : parse text = .ok recipe) :
    recipe.WF (1 + text.toList.count '\n') := by
  rcases parse_eq_ok.mp read with ⟨scanned, sound⟩
  rcases commands_eq_ok_iff.mp scanned with ⟨lines, spells, commands⟩
  constructor
  · exact documentError?_eq_none_iff.mp sound
  · rw [commands]
    intro command member
    rcases exists_line_of_mem_commandsOf member with ⟨line, present, start, made⟩
    exact (spells.wf line present).command_wf made
  · rw [commands]
    exact pairwise_line_commandsOf 1 lines
  · rw [commands, ← spells.text_eq]
    intro command member
    exact line_of_mem_commandsOf member

theorem ofKind_origin {recipe : Recipe} (ordered : WellOrdered recipe.commands) :
    recipe.ofKind .origin = recipe.origin?.toList := by
  rcases recipe with ⟨commands⟩
  cases commands with
  | nil => rfl
  | cons first rest =>
      rcases ordered with ⟨origin, others, -⟩
      have alone : rest.filter (fun command => command.kind = .origin) = [] := by
        simpa [List.filter_eq_nil_iff] using others
      simp [ofKind, origin?, origin, alone]

theorem countKind_entrypoint_le_one {commands : List Command} (ordered : WellOrdered commands) :
    countKind commands .entrypoint ≤ 1 := by
  cases commands with
  | nil => exact Nat.zero_le 1
  | cons first rest => exact ordered.2.2

theorem ofKind_entrypoint {recipe : Recipe} (ordered : WellOrdered recipe.commands) :
    recipe.ofKind .entrypoint = recipe.entrypoint?.toList := by
  have few := countKind_entrypoint_le_one ordered
  rw [countKind, List.countP_eq_length_filter] at few
  rw [entrypoint?]
  cases only : recipe.ofKind .entrypoint with
  | nil => rfl
  | cons first rest =>
      rw [ofKind] at only
      rw [only] at few
      have none : rest.length = 0 := Nat.le_zero.mp (Nat.le_of_succ_le_succ few)
      rw [List.length_eq_zero_iff.mp none]
      rfl

theorem mem_ofKind {recipe : Recipe} {kind : CommandKind} {command : Command} :
    command ∈ recipe.ofKind kind ↔ command ∈ recipe.commands ∧ command.kind = kind := by
  simp [ofKind]

theorem count_ofKind (recipe : Recipe) (kind : CommandKind) (command : Command) :
    (recipe.ofKind kind).count command =
      if command.kind = kind then recipe.commands.count command else 0 := by
  split
  · exact List.count_filter (by simpa)
  · rename_i other
    rw [List.count_eq_zero, mem_ofKind]
    exact fun member => other member.2

/-- Every command has one of the five kinds. -/
theorem flatMap_ofKind_perm (recipe : Recipe) :
    (CommandKind.all.flatMap recipe.ofKind).Perm recipe.commands := by
  rw [List.perm_iff_count]
  intro command
  simp only [CommandKind.all, List.flatMap_cons, List.flatMap_nil, List.count_append, count_ofKind]
  cases command.kind <;> simp

/-- A recipe that was read from a text is well formed. Its first command is the only origin and
its first entrypoint the only one; and the commands of the five kinds, each in the order of the
text, are all its commands, none of them twice. -/
theorem parse_wellFormed {text : String} {recipe : Recipe} (read : parse text = .ok recipe) :
    recipe.WF (1 + text.toList.count '\n') ∧
      recipe.ofKind .origin = recipe.origin?.toList ∧
      recipe.ofKind .entrypoint = recipe.entrypoint?.toList ∧
      (∀ kind, (recipe.ofKind kind).Sublist recipe.commands) ∧
      (∀ first second, first ≠ second → ∀ command ∈ recipe.ofKind first,
        command ∉ recipe.ofKind second) ∧
      (CommandKind.all.flatMap recipe.ofKind).Perm recipe.commands ∧
      recipe.commands.Nodup := by
  have wf := wf_of_parse read
  refine ⟨wf, ofKind_origin wf.ordered, ofKind_entrypoint wf.ordered, ?_, ?_,
    flatMap_ofKind_perm recipe, ?_⟩
  · intro kind
    exact List.filter_sublist
  · intro first second different command inFirst inSecond
    exact different ((mem_ofKind.mp inFirst).2.symm.trans (mem_ofKind.mp inSecond).2)
  · apply wf.increasing.imp
    intro first second before same
    rw [same] at before
    exact Nat.lt_irrefl _ before

/-- A command that runs over two lines, and an entrypoint below it. -/
theorem parse_wellFormed_continued :
    parse "FROM a\nRUN b \\\n c\nCMD d" =
        .ok ⟨[.of .origin "a" 1, .of .run "b  c" 2, .of .entrypoint "d" 4]⟩ ∧
      WF ⟨[.of .origin "a" 1, .of .run "b  c" 2, .of .entrypoint "d" 4]⟩ 4 ∧
      ofKind ⟨[.of .origin "a" 1, .of .run "b  c" 2, .of .entrypoint "d" 4]⟩ .entrypoint =
        [.of .entrypoint "d" 4] := by
  have spells : Spells [.command 0 "FROM".toList 1 [.plain 'a'] none,
      .command 0 "RUN".toList 1
        [.plain 'b', .plain ' ', .continued false, .plain ' ', .plain 'c'] none,
      .command 0 "CMD".toList 1 [.plain 'd'] none]
      "FROM a\nRUN b \\\n c\nCMD d".toList := by decide
  have read := parse_of_spells spells (by decide)
  rcases parse_wellFormed read with ⟨wf, -, entrypoints, -⟩
  exact ⟨read, wf, entrypoints⟩

end Recipe

end GuestImage
