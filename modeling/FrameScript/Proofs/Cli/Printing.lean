import FrameScript.Proofs.ActionLine.Rereading
import FrameScript.Proofs.Cli.Scripts
import FrameScript.Proofs.Console.Markup

/-!
# Laying out what a run shows

The texts that a run shows are escaped, with one exception: the path of a script is put into a
message as it is.  So the message that a script was formatted can be laid out exactly when its path
can stand between the tags of the message, whatever the number in it is.  A path without an opening
bracket always can, and one that closes a tag which it did not open never can.
-/

namespace FrameScript

open Markup

variable {styling : Styling}

namespace Markup

theorem isPlain_toDigits (number : Nat) : IsPlain (Nat.toDigits 10 number) := by
  intro char member
  have digit := Text.isDigit_of_mem_ofNat member
  constructor <;> rintro rfl <;> exact absurd digit (by decide)

theorem isPlain_ofInt (number : Int) : IsPlain (Text.ofInt number) := by
  cases number with
  | ofNat number => exact isPlain_toDigits number
  | negSucc number =>
      exact (by decide : IsPlain ['-']).append (isPlain_toDigits (number + 1))

theorem IsPlain.tags_eq {text : Text} (plain : IsPlain text) : tags 0 text = [] := by
  have whole := tags_append_of_plain plain []
  rwa [List.append_nil] at whole

theorem isPlain_intercalate {separator : Text} (plain : IsPlain separator) {texts : List Text}
    (each : ∀ text ∈ texts, IsPlain text) : IsPlain (separator.intercalate texts) := by
  induction texts with
  | nil => exact fun char member => absurd member List.not_mem_nil
  | cons first rest ih =>
      have later := ih fun text member => each text (List.mem_cons_of_mem _ member)
      have here := each first List.mem_cons_self
      cases rest with
      | nil => rwa [List.intercalate_singleton]
      | cons second others =>
          rw [List.intercalate_cons_cons]
          exact (here.append plain).append later

/-- A character that is no bracket and no backslash ends the backslashes before it. -/
theorem tags_cons_of_plain {first : Char} (plain : IsPlain [first]) (slashes : Nat) (rest : Text) :
    tags slashes (first :: rest) = tags 0 rest := by
  obtain ⟨noBracket, noBackslash⟩ := plain first List.mem_cons_self
  rw [tags, if_neg noBackslash, if_neg fun tag => noBracket tag.1]

theorem tags_error (rest : Text) :
    tags 0 ("[bold red]Error:[/bold red] ".toList ++ rest) =
      ⟨"bold red".toList, none⟩ :: ⟨"/bold red".toList, none⟩ :: tags 0 rest :=
  rfl

theorem tags_warning (rest : Text) :
    tags 0 ("[bold yellow]Warning:[/bold yellow] ".toList ++ rest) =
      ⟨"bold yellow".toList, none⟩ :: ⟨"/bold yellow".toList, none⟩ :: tags 0 rest :=
  rfl

theorem tags_success (rest : Text) :
    tags 0 ("[bold green]".toList ++ rest) = ⟨"bold green".toList, none⟩ :: tags 0 rest :=
  rfl

theorem tags_literal (text : Text) : tags 0 (literal text).toList = [] := by
  rw [literal, String.toList_ofList, tags_escape]

end Markup

namespace Styling

theorem lays_error (knows : styling.KnowsOwn) {message : String}
    (none : tags 0 message.toList = []) : styling.lays (.error message) = true := by
  change styling.isSound ("[bold red]Error:[/bold red] " ++ message).toList = true
  rw [String.toList_append]
  refine isSound_of_tags_pair "bold red".toList (by decide) knows ?_
  rw [tags_error, none]
  rfl

theorem lays_warning (knows : styling.KnowsOwn) {message : String}
    (none : tags 0 message.toList = []) : styling.lays (.warning message) = true := by
  change styling.isSound ("[bold yellow]Warning:[/bold yellow] " ++ message).toList = true
  rw [String.toList_append]
  refine isSound_of_tags_pair "bold yellow".toList (by decide) knows ?_
  rw [tags_warning, none]
  rfl

/-- Whether a path can stand between the tags of the message of a success. -/
def LaysPath (styling : Styling) (path : Text) : Prop :=
  styling.isSound ("[bold green]".toList ++ (path ++ "[/bold green]".toList)) = true

instance (path : Text) : Decidable (styling.LaysPath path) := inferInstanceAs (Decidable (_ = _))

theorem laysPath_of_notMem (knows : styling.KnowsOwn) {path : Text} (none : '[' ∉ path) :
    styling.LaysPath path := by
  obtain ⟨slashes, moved⟩ := exists_tags_append_of_notMem none 0 "[/bold green]".toList
  have own : "bold green".toList ∈ ownStyles := by decide
  -- An odd number of backslashes at the end of the path escapes the closing tag.
  rcases Nat.mod_two_eq_zero_or_one slashes with even | odd
  · refine isSound_of_tags_pair _ own knows ?_
    rw [tags_success, moved]
    change _ :: (if '[' = '[' ∧ true = true ∧ slashes % 2 = 0 then _ else _) = _
    rw [if_pos ⟨rfl, rfl, even⟩]
    rfl
  · refine isSound_of_tags_single own knows ?_
    rw [tags_success, moved]
    change _ :: (if '[' = '[' ∧ true = true ∧ slashes % 2 = 0 then _ else _) = _
    rw [if_neg (by omega)]
    rfl

/-- What stands before the path in a message of a success does not matter. -/
theorem isSound_success {before : Text} (plain : IsPlain before) (path : Text) :
    styling.isSound ("[bold green]".toList ++ (before ++ path ++ "[/bold green]".toList)) = true ↔
      styling.LaysPath path := by
  rw [LaysPath, isSound_congr]
  rw [tags_success, tags_success, List.append_assoc, tags_append_of_plain plain]

end Styling

namespace Cli

variable {path : Path}

theorem lays_formattedEntry (changed : Nat) (path : Path) :
    styling.lays (formattedEntry changed path) = true ↔ styling.LaysPath path := by
  have plain : IsPlain ("Formatted ".toList ++ changed.repr.toList ++ " line(s) in ".toList) := by
    rw [Nat.toList_repr]
    exact ((by decide : IsPlain _).append (isPlain_toDigits changed)).append (by decide)
  have same := styling.isSound_success plain path
  change styling.isSound ("[bold green]" ++ ("Formatted " ++ changed.repr ++ " line(s) in " ++
    String.ofList path) ++ "[/bold green]").toList = true ↔ _
  simpa only [String.toList_append, String.toList_ofList, List.append_assoc] using same

/-- The text behind a path has the tags that it has on its own, if a character that markup gives no
meaning to comes first. -/
theorem tags_path_append (none : '[' ∉ path) {first : Char} (plain : IsPlain [first])
    (rest : Text) : tags 0 (path ++ first :: rest) = tags 0 rest := by
  obtain ⟨slashes, moved⟩ := exists_tags_append_of_notMem none 0 (first :: rest)
  rw [moved, tags_cons_of_plain plain]

theorem tags_place (none : '[' ∉ path) (number : Nat) (rest : Text) :
    tags 0 ((String.ofList path ++ ":" ++ number.repr).toList ++ rest) = tags 0 rest := by
  simp only [String.toList_append, String.toList_ofList, Nat.toList_repr, List.append_assoc]
  calc tags 0 (path ++ ':' :: (Nat.toDigits 10 number ++ rest)) =
        tags 0 (Nat.toDigits 10 number ++ rest) := tags_path_append none (by decide) _
    _ = tags 0 rest := tags_append_of_plain (isPlain_toDigits number) rest

theorem tags_place_quotation (none : '[' ∉ path) (number : Nat) {message : String}
    (plain : IsPlain message.toList) (text : Text) :
    tags 0 (String.ofList path ++ ":" ++ number.repr ++ message ++
      Markup.quotation text).toList = [] := by
  rw [String.toList_append, String.toList_append, List.append_assoc, tags_place none,
    tags_append_of_plain plain, Markup.quotation, tags_literal]

theorem lays_findingEntry (knows : styling.KnowsOwn) (none : '[' ∉ path) (number : Nat)
    (finding : Script.Finding) : styling.lays (findingEntry path number finding) = true := by
  cases finding with
  | invalidNumber line =>
      exact Styling.lays_error knows (tags_place_quotation none number (by decide) line)
  | wideCount frames =>
      refine Styling.lays_warning knows ?_
      change tags 0 (String.ofList path ++ ":" ++ number.repr ++ ": frame count " ++
        String.ofList (Text.ofInt frames) ++ " exceeds " ++ ActionLine.maxFrames.repr).toList = []
      rw [String.toList_append, String.toList_append, String.toList_append, String.toList_append,
        List.append_assoc, List.append_assoc, List.append_assoc, tags_place none,
        tags_append_of_plain (by decide), String.toList_ofList,
        tags_append_of_plain (isPlain_ofInt frames)]
      decide
  | notCanonical expected =>
      exact Styling.lays_warning knows (tags_place_quotation none number (by decide) expected)

/-- The message of a check that finds no error. -/
theorem lays_checked (knows : styling.KnowsOwn) (none : '[' ∉ path) (warnings : Nat) :
    styling.lays (.success s!"{String.ofList path}: no errors ({warnings} warnings)") = true := by
  change styling.isSound ("[bold green]" ++ (String.ofList path ++ ": no errors (" ++
    warnings.repr ++ " warnings)") ++ "[/bold green]").toList = true
  refine Styling.isSound_of_tags_pair "bold green".toList (by decide) knows ?_
  have behind (rest : Text) : tags 0 (path ++ (": no errors (".toList ++ rest)) = tags 0 rest :=
    (tags_path_append none (by decide) _).trans (tags_append_of_plain (by decide) rest)
  simp only [String.toList_append, String.toList_ofList, Nat.toList_repr, List.append_assoc]
  rw [tags_success, behind, tags_append_of_plain (isPlain_toDigits warnings),
    tags_append_of_plain (by decide)]
  rfl

/-- The message that there is no script. -/
theorem lays_of_openScript {workspace : Workspace} (knows : styling.KnowsOwn) (none : '[' ∉ path)
    {message : Entry} (failed : openScript workspace path = .error message) :
    styling.lays message = true := by
  rw [openScript] at failed
  split at failed
  · cases failed
    refine Styling.lays_error knows (tags_of_notMem ?_ 0)
    change '[' ∉ ("Script not found: " ++ String.ofList path).toList
    simp [none]
  · split at failed
    · cases failed
    · rename_i problem _
      cases failed
      refine Styling.lays_error knows (tags_of_notMem ?_ 0)
      have digits : '[' ∉ Nat.toDigits 10 problem.offset := fun member =>
        (isPlain_toDigits problem.offset '[' member).1 rfl
      change '[' ∉ ("Script is not valid UTF-8: " ++ String.ofList path ++ " (" ++
        (problem.flaw.description ++ " at byte " ++ problem.offset.repr) ++ ")").toList
      simp only [String.toList_append, String.toList_ofList, Nat.toList_repr, List.mem_append]
      cases problem.flaw <;> simp [none, digits, Text.Utf8.Flaw.description]

end Cli

theorem ActionLine.isPlain_of_parsed {source : Text} {line : ActionLine}
    (parsed : line.Parsed source) :
    (∀ text, line.angle = some text → IsPlain text) ∧
      ∀ text, line.magnitude = some text → IsPlain text := by
  have numeral {text : Text} (chars : Number.NumeralText text) : IsPlain text := by
    intro char member
    have allowed := chars char member
    constructor <;> rintro rfl <;> exact absurd allowed (by decide)
  have kept {text : Text} (given : Kept text) : IsPlain text := by
    intro char member
    have allowed := given.2.2 char member
    constructor <;> rintro rfl <;> exact absurd allowed (by decide)
  constructor
  · intro text given
    exact (parsed.angle text given).elim (fun admitted => numeral admitted.numeral) kept
  · intro text given
    rcases parsed.magnitude text given with rfl | admitted | given
    · exact fun char member => absurd member List.not_mem_nil
    · exact numeral admitted.numeral
    · exact kept given

theorem Line.read_eq_action {tolerant : Bool} {line : Text} {record : ActionLine}
    (found : read tolerant line = .ok (.action (some record))) :
    ActionLine.read tolerant line = .ok record := by
  unfold read at found
  cases told : LineKind.of line with
  | error fault => simp [told, bind, Except.bind] at found
  | ok kind =>
      rw [told] at found
      cases kind with
      | action =>
          cases result : ActionLine.read tolerant line with
          | ok other =>
              rw [result] at found
              injection found with same
              injection same with same
              injection same with same
              rw [same]
          | error refusal =>
              rw [result] at found
              cases refusal <;> cases found
      | _ => cases found

namespace Cli

theorem tags_orDash {text : String} (none : tags 0 text.toList = []) :
    tags 0 (orDash text).toList = [] := by
  rw [orDash]
  split
  · decide
  · exact none

theorem isPlain_tag (tag : FrameScript.Tag) :
    IsPlain tag.letter.toString.toList ∧ IsPlain (Input.name tag).toList := by
  cases tag with
  | direction direction => cases direction <;> decide
  | button button => cases button <;> decide
  | only restriction => cases restriction <;> decide
  | keys => decide
  | feather => decide

/-- What is shown beside a tag has no tags of markup. -/
theorem tags_details {source : Text} {line : ActionLine} (parsed : line.Parsed source)
    (tag : FrameScript.Tag) : tags 0 (details line tag).toList = [] := by
  cases tag with
  | only restriction =>
      refine tags_orDash (IsPlain.tags_eq ?_)
      rw [String.toList_intercalate]
      refine isPlain_intercalate (by decide) fun text member => ?_
      obtain ⟨name, listed, rfl⟩ := List.mem_map.1 member
      obtain ⟨direction, _, rfl⟩ := List.mem_map.1 listed
      cases direction <;> decide
  | keys =>
      exact tags_orDash (tags_literal _)
  | feather =>
      obtain ⟨angle, magnitude⟩ := ActionLine.isPlain_of_parsed parsed
      have shown {number : Option Text} (plain : ∀ text, number = some text → IsPlain text) :
          IsPlain (number.getD ['-']) := by
        cases number with
        | none => exact (by decide : IsPlain ['-'])
        | some text => exact plain text rfl
      change tags 0 ("angle " ++ String.ofList (line.angle.getD ['-']) ++ ", magnitude " ++
        String.ofList (line.magnitude.getD ['-'])).toList = []
      simp only [String.toList_append, String.toList_ofList]
      exact IsPlain.tags_eq ((((by decide : IsPlain _).append (shown angle)).append
        (by decide)).append (shown magnitude))
  | direction direction => rfl
  | button button => rfl

/-- A table all of whose texts are without tags. -/
theorem lays_table {title : String} {columns : List String} {rows : List (List String)}
    (named : tags 0 title.toList = []) (headed : ∀ column ∈ columns, tags 0 column.toList = [])
    (filled : ∀ row ∈ rows, ∀ cell ∈ row, tags 0 cell.toList = []) :
    styling.lays (.table title columns rows) = true := by
  refine List.all_eq_true.2 fun text member => Styling.isSound_of_tags_nil ?_
  rcases List.mem_cons.1 member with rfl | member
  · exact named
  rcases List.mem_append.1 member with column | cell
  · exact headed text column
  · obtain ⟨row, listed, inside⟩ := List.mem_flatten.1 cell
    exact filled row listed text inside

theorem lays_quotation (knows : styling.KnowsOwn) {label : String}
    (own : ∀ rest, tags 0 (label.toList ++ rest) =
      ⟨"bold".toList, none⟩ :: ⟨"/bold".toList, none⟩ :: tags 0 rest) (text : Text) :
    styling.lays (.markup (label ++ Markup.quotation text)) = true := by
  change styling.isSound (label ++ Markup.quotation text).toList = true
  refine Styling.isSound_of_tags_pair "bold".toList (by decide) knows ?_
  rw [String.toList_append, own, Markup.quotation, tags_literal]
  rfl

theorem lays_actionEntries (knows : styling.KnowsOwn) {source : Text} {line : ActionLine}
    (parsed : line.Parsed source) : ∀ entry ∈ actionEntries line, styling.lays entry = true := by
  intro entry member
  rcases List.mem_cons.1 member with rfl | member
  · refine lays_table ?_ (by decide) fun row listed cell inside => ?_
    · change tags 0 ("Action Line (" ++ String.ofList (Text.ofInt line.frames) ++
        " frames)").toList = []
      simp only [String.toList_append, String.toList_ofList]
      exact IsPlain.tags_eq (((by decide : IsPlain _).append (isPlain_ofInt line.frames)).append
        (by decide))
    · obtain ⟨tag, _, rfl⟩ := List.mem_map.1 listed
      rcases List.mem_cons.1 inside with rfl | inside
      · exact (isPlain_tag tag).1.tags_eq
      rcases List.mem_cons.1 inside with rfl | inside
      · exact (isPlain_tag tag).2.tags_eq
      · rw [List.mem_singleton.1 inside]
        exact tags_details parsed tag
  · rw [List.mem_singleton.1 member]
    exact lays_quotation knows (fun _ => rfl) _

theorem lays_commandEntries (knows : styling.KnowsOwn) (line : CommandLine) :
    ∀ entry ∈ commandEntries line, styling.lays entry = true := by
  intro entry member
  rcases List.mem_cons.1 member with rfl | member
  · refine lays_table ?_ (by decide) fun row listed cell inside => ?_
    · change tags 0 ("Command: " ++ Markup.literal line.command).toList = []
      rw [String.toList_append, tags_append_of_plain (by decide), tags_literal]
    · obtain ⟨⟨argument, number⟩, _, rfl⟩ := List.mem_map.1 listed
      rcases List.mem_cons.1 inside with rfl | inside
      · refine IsPlain.tags_eq ?_
        change IsPlain number.repr.toList
        rw [Nat.toList_repr]
        exact isPlain_toDigits number
      · rw [List.mem_singleton.1 inside, tags_literal]
  · rw [List.mem_singleton.1 member]
    exact lays_quotation knows (fun _ => rfl) _

/-- Everything that an inspection shows can be laid out. -/
theorem lays_lineEntries (knows : styling.KnowsOwn) {tolerant : Bool} {text : Text}
    {content : Line} (found : Line.read tolerant text = .ok content) :
    ∀ entry ∈ (lineEntries content).2, styling.lays entry = true := by
  have info {kind : LineKind} :
      styling.lays (.info s!"{kind.name.capitalize} line") = true := by
    change styling.isSound ("[dim]" ++ (kind.name.capitalize ++ " line") ++ "[/dim]").toList = true
    refine Styling.isSound_of_tags_pair "dim".toList (by decide) knows ?_
    cases kind <;> decide +kernel
  have error {message : String} (none : '[' ∉ message.toList) :
      ∀ entry ∈ [Entry.error message], styling.lays entry = true := by
    intro entry member
    rw [List.mem_singleton.1 member]
    exact Styling.lays_error knows (tags_of_notMem none 0)
  cases content with
  | action line =>
      cases line with
      | none => exact error (by decide)
      | some line =>
          obtain ⟨⟨source, _, parsed⟩, _⟩ := ActionLine.parsed_of_read (Line.read_eq_action found)
          exact lays_actionEntries knows parsed
  | command line =>
      cases line with
      | none => exact error (by decide)
      | some line => exact lays_commandEntries knows line
  | _ => simp [lineEntries, info]

namespace Report

variable {report : Report}

theorem mem_console {entry : Entry} : entry ∈ report.console ↔ .shown entry ∈ report.events := by
  rw [console, List.mem_filterMap]
  constructor
  · rintro ⟨event, member, shown⟩
    cases event with
    | shown other =>
        cases shown
        exact member
    | _ => cases shown
  · exact fun member => ⟨_, member, rfl⟩

theorem laidOut_of_lays (laid : ∀ entry ∈ report.console, styling.lays entry = true) :
    report.laidOut styling = report := by
  have sound : (report.console.find? fun entry => !styling.lays entry) = none := by
    refine List.find?_eq_none.2 fun entry member => ?_
    simp [laid entry member]
  rw [laidOut, sound]

/-- Laying out cuts a run short or leaves it as it is. -/
theorem laidOut_cases (styling : Styling) (report : Report) :
    report.laidOut styling = report ∨
      (report.laidOut styling).exitCode = 1 ∧
        (report.laidOut styling).events = report.events.takeWhile (Event.goesWell styling) := by
  rw [laidOut]
  split
  · exact Or.inl rfl
  · exact Or.inr ⟨rfl, rfl⟩

theorem laidOut_before (styling : Styling) (report : Report) :
    (report.laidOut styling).before = report.before := by
  rw [laidOut]
  split <;> rfl

theorem console_withLog (report : Report) (logs : Bool) :
    (report.withLog logs).console = report.console := by
  rw [console, console, withLog, List.filterMap_filter]
  congr 1
  funext event
  cases logs <;> cases event <;> rfl

end Report

variable {workspace : Workspace} {tolerant : Bool}

theorem shown_notMem_logged {entry : Entry} {log : List Diagnostic} :
    .shown entry ∉ log.map Event.logged := by
  simp

theorem runInspect_lays (knows : styling.KnowsOwn) (line : Text) :
    ∀ entry ∈ (runInspect workspace tolerant line).console, styling.lays entry = true := by
  intro entry member
  rw [Report.mem_console, runInspect] at member
  split at member
  · exact absurd member shown_notMem_logged
  · rename_i content found
    rcases List.mem_append.1 member with logged | shown
    · exact absurd logged shown_notMem_logged
    · obtain ⟨other, inside, same⟩ := List.mem_map.1 shown
      cases same
      exact lays_lineEntries knows found entry inside

theorem exists_findingEntry_of_shown {seen : List Text} {found : List (List Script.Finding)}
    {entry : Entry} (member : .shown entry ∈ checkEvents path seen found) :
    ∃ number finding, findingEntry path number finding = entry := by
  obtain ⟨⟨⟨line, findings⟩, number⟩, _, inside⟩ := List.mem_flatMap.1 member
  rcases List.mem_append.1 inside with logged | shown
  · exact absurd logged shown_notMem_logged
  · obtain ⟨finding, _, same⟩ := List.mem_map.1 shown
    cases same
    exact ⟨number, finding, rfl⟩

theorem runCheck_lays (knows : styling.KnowsOwn) (none : '[' ∉ path) :
    ∀ entry ∈ (runCheck workspace path).console, styling.lays entry = true := by
  intro entry member
  have lineByLine {seen : List Text} {found : List (List Script.Finding)}
      (inside : .shown entry ∈ checkEvents path seen found) : styling.lays entry = true := by
    obtain ⟨number, finding, rfl⟩ := exists_findingEntry_of_shown inside
    exact lays_findingEntry knows none number finding
  rw [Report.mem_console, runCheck] at member
  split at member
  · rename_i failed
    cases List.mem_singleton.1 member
    exact lays_of_openScript knows none failed
  · dsimp only at member
    split at member
    · exact lineByLine member
    · split at member
      · rcases List.mem_append.1 member with before | last
        · rcases List.mem_append.1 before with inside | logged
          · exact lineByLine inside
          · cases List.mem_singleton.1 logged
        · cases List.mem_singleton.1 last
          exact lays_checked knows none _
      · rcases List.mem_append.1 member with inside | logged
        · exact lineByLine inside
        · cases List.mem_singleton.1 logged

theorem runFormat_lays (knows : styling.KnowsOwn) (none : '[' ∉ path) (write : Bool) :
    ∀ entry ∈ (runFormat workspace tolerant path write).console, styling.lays entry = true := by
  intro entry member
  rw [Report.mem_console, runFormat] at member
  split at member
  · rename_i failed
    cases List.mem_singleton.1 member
    exact lays_of_openScript knows none failed
  · dsimp only at member
    split at member
    · exact absurd member shown_notMem_logged
    · split at member
      · rcases List.mem_append.1 member with logged | last
        · exact absurd logged shown_notMem_logged
        · rcases List.mem_cons.1 last with same | same
          · cases same
          · cases List.mem_singleton.1 same
            exact (lays_formattedEntry _ _).2 (Styling.laysPath_of_notMem knows none)
      · rcases List.mem_append.1 member with logged | printed
        · exact absurd logged shown_notMem_logged
        · cases List.mem_singleton.1 printed

end Cli

end FrameScript
