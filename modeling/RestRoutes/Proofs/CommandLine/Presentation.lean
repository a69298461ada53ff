import RestRoutes.Proofs.CommandLine.Execution
import RestRoutes.Proofs.Machine

/-! What the flags before a command may change.  They say how listings and notices are shown, and
nothing else: whichever of them stand before `generate`, the same routes go to the same place, and the
command ends alike.  A quiet command leaves out the line that sums up what was generated; what it
warns of, or the error that stopped it, is told all the same. -/

namespace RestRoutes.CommandLine

/-! ### Flags in front of a command line -/

/-- The words that ask for a presentation, with the flags that they give. -/
def presentationFlags : List (String × FlagItem) :=
  [("--json", .json), ("--plain", .plain), ("--no-color", .noColour), ("--quiet", .quiet),
    ("-q", .quiet), ("--verbose", .verbose), ("-v", .verbose)]

def Flags.raise (f : Flags) : FlagItem → Flags
  | .json => { f with json := true }
  | .plain => { f with plain := true }
  | .noColour => { f with noColour := true }
  | .quiet => { f with quiet := true }
  | .verbose => { f with verbose := true }
  | .version | .help => f

def Flags.raised (f : Flags) (items : List FlagItem) : Flags :=
  items.foldr (fun item f => f.raise item) f

theorem Flags.ofItems_cons (item : FlagItem) (items : List FlagItem) :
    ofItems (item :: items) = (ofItems items).raise item := by
  cases item <;> simp [ofItems, raise]

/-- A word that gives a flag for the presentation. -/
structure Gives (word : String) (item : FlagItem) : Prop where
  dashes : word ≠ "--"
  option : isOption word = true
  said : said flagOptions word = some ⟨[item], none⟩
  presents : Invocation.instead? [item] = none

theorem gives_of_mem : ∀ e ∈ presentationFlags, Gives e.1 e.2 := by
  intro e he
  simp only [presentationFlags, List.mem_cons, List.not_mem_nil, or_false] at he
  rcases he with rfl | rfl | rfl | rfl | rfl | rfl | rfl <;> exact ⟨by decide, rfl, rfl, rfl⟩

theorem Gives.scan_cons {word : String} {item : FlagItem} (h : Gives word item) (interspersed : Bool)
    (words : List String) : scan flagOptions interspersed (word :: words) =
      (scan flagOptions interspersed words).map (·.withItem item) := by
  simp [scan, scanFrom, h.dashes, h.option, h.said, Scanned.withItem]

namespace Invocation

def mapFlags (g : Flags → Flags) : Invocation → Invocation
  | .run f command => .run (g f) command
  | .version => .version
  | .help => .help

section MapFlags

variable (g : Flags → Flags) (f : Flags) (words : List String)

/-- A command takes the flags before it as they are. -/
theorem generate_mapFlags : generate (g f) words = (generate f words).map (mapFlags g) := by
  unfold generate
  cases scan generateOptions true words with
  | none => rfl
  | some scanned =>
    simp only [Option.bind_eq_bind, Option.bind_some]
    split
    · rfl
    · split
      · rw [Option.map_bind]
        rfl
      · rfl

theorem operations_mapFlags : operations (g f) words = (operations f words).map (mapFlags g) := by
  unfold operations
  cases scan listOptions true words with
  | none => rfl
  | some scanned =>
    simp only [Option.bind_eq_bind, Option.bind_some]
    split
    · rfl
    · split <;> rfl

end MapFlags

theorem mapFlags_of_instead? {items : List FlagItem} {invocation : Invocation}
    (h : instead? items = some invocation) (g : Flags → Flags) : mapFlags g invocation = invocation := by
  obtain ⟨item, -, hItem⟩ := List.exists_of_findSome?_eq_some h
  cases item <;> cases hItem <;> rfl

theorem instead?_cons {item : FlagItem} (h : instead? [item] = none) (items : List FlagItem) :
    instead? (item :: items) = instead? items := by
  have hItem := List.findSome?_eq_none_iff.mp h item List.mem_cons_self
  rw [instead?, List.findSome?_cons, hItem]
  rfl

/-- A word for the presentation raises its flag, and leaves what is asked for as it is. -/
theorem ofWords_cons {word : String} {item : FlagItem} (h : Gives word item) (words : List String) :
    ofWords (word :: words) = (ofWords words).map (mapFlags (·.raise item)) := by
  rw [ofWords, ofWords, h.scan_cons]
  cases scan flagOptions false words with
  | none => rfl
  | some scanned =>
    simp only [Option.map_some, Option.bind_eq_bind, Option.bind_some, Scanned.withItem,
      instead?_cons h.presents, Flags.ofItems_cons]
    cases hInstead : instead? scanned.items with
    | some invocation => simp [mapFlags_of_instead? hInstead]
    | none =>
      -- The words after the flags are the same, and they are read for whichever flags stand before.
      dsimp only
      split
      · exact generate_mapFlags (·.raise item) _ _
      · exact operations_mapFlags (·.raise item) _ _
      · rfl

/-- Words for the presentation in front of a command line raise their flags. -/
theorem ofWords_append {extra : List (String × FlagItem)} (hExtra : extra ⊆ presentationFlags)
    {words : List String} {flags : Flags} {command : Command}
    (h : ofWords words = some (.run flags command)) :
    ofWords (extra.map Prod.fst ++ words) = some (.run (flags.raised (extra.map Prod.snd)) command) := by
  induction extra with
  | nil => exact h
  | cons e extra ih =>
    obtain ⟨hFirst, hRest⟩ := List.cons_subset.mp hExtra
    rw [List.map_cons, List.cons_append, ofWords_cons (gives_of_mem e hFirst), ih hRest]
    rfl

end Invocation

/-! ### What is left behind -/

/-- What a command leaves behind besides what is told of it. -/
structure Effect where
  exitCode : Nat
  output : String
  crash : Option Defect
  escaped : Option Defect
  tree : File.Tree

def Outcome.effect (out : Outcome) : Effect :=
  ⟨out.exitCode, out.output, out.crash, out.escaped, out.tree⟩

/-- The console has no part in what a result leaves behind. -/
theorem outcome_effect (m : Machine) (console console' : Console) (result : Logged Success) :
    (outcome m console result).effect = (outcome m console' result).effect := by
  unfold outcome
  cases result.outcome with
  | ok s => rfl
  | error e =>
    cases e with
    | refusal r => rfl
    | defect d =>
      dsimp only
      split <;> rfl

/-! ### What is told -/

/-- The line on the failure that stopped a command.  Where a defect cannot be recorded there is none. -/
inductive TellsFailure (m : Machine) : Failure → String → Prop
  | refusal (r : Refusal) : TellsFailure m (.refusal r) ("Error: " ++ r.message ++ "\n")
  | recorded {d : Defect} {p : File.Path} (h : ((recordCrash m d).run m.tree).1 = .ok p) :
    TellsFailure m (.defect d) ("Error: Unexpected error. Debug log: " ++ p.text ++ "\n")
  | unrecorded {d e : Defect} (h : ((recordCrash m d).run m.tree).1 = .error e) :
    TellsFailure m (.defect d) ""

theorem outcome_log (m : Machine) (console : Console) (result : Logged Success) :
    (outcome m console result).log = console.shown result.log := by
  unfold outcome
  split
  · rfl
  · rfl
  · dsimp only
    split <;> rfl

theorem notices_of_ok (m : Machine) (console : Console) {result : Logged Success} {s : Success}
    (h : result.outcome = .ok s) :
    (outcome m console result).notices = console.lines s.notices := by
  rw [outcome, h]

/-- The line on a failure is the same for every console. -/
theorem exists_tellsFailure (m : Machine) {result : Logged Success} {e : Failure}
    (h : result.outcome = .error e) :
    ∃ line, TellsFailure m e line ∧
      ∀ console : Console, (outcome m console result).notices = line := by
  unfold outcome
  rw [h]
  cases e with
  | refusal r => exact ⟨_, .refusal r, fun _ => rfl⟩
  | defect d =>
    dsimp only
    rcases hRun : (recordCrash m d).run m.tree with ⟨e | p, after⟩
    · exact ⟨_, .unrecorded (congrArg Prod.fst hRun), fun _ => rfl⟩
    · refine ⟨_, .recorded (congrArg Prod.fst hRun), fun _ => ?_⟩
      simp only [Console.line, ← String.append_assoc]
      rfl

def skippedLines (report : Report) : String :=
  String.join (report.failed.map fun (label, message) =>
    "Warning: Skipped " ++ label ++ ": " ++ message ++ "\n")

/-- A console shows what was skipped, and unless it is quiet what was generated. -/
theorem lines_generateNotices (console : Console) (report : Report) (file : Option String) :
    console.lines (generateNotices report file) =
      skippedLines report ++ (if console.quiet then "" else summary report file ++ "\n") := by
  have hSkipped : console.lines (report.failed.map fun (label, message) =>
      .warning ("Skipped " ++ label ++ ": " ++ message)) = skippedLines report := by
    rw [Console.lines, List.map_map, skippedLines]
    refine congrArg String.join (List.map_congr_left fun (label, message) _ => ?_)
    simp only [Function.comp_apply, Console.line, ← String.append_assoc]
    rfl
  rw [generateNotices, Console.lines, List.map_append, String.join_append, ← Console.lines, hSkipped]
  simp [Console.line]

/-- What a generating command tells: lines that warn of skipped operations, and a last one that sums up
the routes; or only the failure that stopped it. -/
inductive Tells (m : Machine) (o : GenerateOptions) : (lasting last : String) → Prop
  | generated {s : Success} {text : String} {report : Report} (hEnd : (generate m o).outcome = .ok s)
    (hGenerated : (generated m o).outcome = .ok (text, report)) :
    Tells m o (skippedLines report) (summary report o.file ++ "\n")
  | failed {e : Failure} {line : String} (hEnd : (generate m o).outcome = .error e)
    (hLine : TellsFailure m e line) : Tells m o line ""

theorem exists_tells (m : Machine) (o : GenerateOptions) :
    ∃ lasting last, Tells m o lasting last ∧ ∀ console : Console,
      (outcome m console (generate m o)).notices =
        lasting ++ if console.quiet then "" else last := by
  cases hEnd : (generate m o).outcome with
  | ok s =>
    obtain ⟨text, report, hGenerated, -, hNotices⟩ := generate_eq_ok hEnd
    refine ⟨_, _, .generated hEnd hGenerated, fun console => ?_⟩
    rw [notices_of_ok m console hEnd, hNotices, lines_generateNotices]
  | error e =>
    obtain ⟨line, hLine, hNotices⟩ := exists_tellsFailure m hEnd
    refine ⟨line, "", .failed hEnd hLine, fun console => ?_⟩
    rw [hNotices, ite_self, String.append_empty]

/-! ### Command lines -/

theorem presentation_ne_rich {m : Machine} (hColour : Console.refusesColour m = true) (flags : Flags)
    (terminal : Bool) : (flags.console m terminal).presentation ≠ .rich := by
  unfold Flags.console Console.automatic
  split
  · exact nofun
  · split
    · exact nofun
    · simp [hColour]

/-- Flags can be put before every command line for generating, which keeps what it asks for.  On a
machine that refuses colours it leaves the same behind whichever of them are given, and tells the same:
a quiet one leaves out the last line, which at most sums up the routes, and only a verbose one shows the
records for the search of errors. -/
theorem run_generate_presented {m : Machine} (hColour : Console.refusesColour m = true)
    {words : List String} {flags : Flags} {o : GenerateOptions}
    (h : Invocation.ofWords words = some (.run flags (.generate o))) (terminal : Bool) :
    (∀ extra ⊆ presentationFlags, Invocation.ofWords (extra.map Prod.fst ++ words) =
      some (.run (flags.raised (extra.map Prod.snd)) (.generate o))) ∧
    ∃ lasting last, Tells m o lasting last ∧
      ∀ words' flags', Invocation.ofWords words' = some (.run flags' (.generate o)) →
        let out := run m terminal words'
        (flags'.console m terminal).presentation ≠ .rich ∧
        out.effect = (run m terminal words).effect ∧
        (out.notices = lasting ++ if flags'.quiet then "" else last) ∧
        out.log = (generate m o).log.filter fun r => flags'.verbose || r.level != .debug := by
  obtain ⟨lasting, last, hTells, hNotices⟩ := exists_tells m o
  refine ⟨fun extra hExtra => Invocation.ofWords_append hExtra h, lasting, last, hTells,
    fun words' flags' h' => ?_⟩
  rw [run_of_command m terminal h, run_of_command m terminal h']
  exact ⟨presentation_ne_rich hColour flags' terminal, outcome_effect m _ _ _, hNotices _,
    outcome_log m _ _⟩

def rootedStore : Value :=
  .ofNamed [("swagger", .str "2.0"), ("paths", .ofNamed [
    ("/", .ofNamed [("get", .ofNamed [])]), ("/pets", .ofNamed [("get", .ofNamed [])])])]

/-- With three flags before it the command leaves the same behind.  It still tells of the operation that
was skipped, and no longer of the one that was generated. -/
theorem run_generate_presented_rootedStore :
    let m := { Machine.holding [] with
      environment := [("NO_COLOR", "1")], input := Json.render Json.compact rootedStore }
    let words := ["generate", "-", "--continue-on-error"]
    let warning := "Warning: Skipped GET /: Cannot derive a destination name from path '/'\n"
    let out := run m false words
    let hushed := run m false (["-q", "--json", "--verbose"] ++ words)
    hushed.effect = out.effect ∧ out.exitCode = 0 ∧ hushed.notices = warning ∧
      out.notices = warning ++ "Generated 1 operation(s)\n" := by
  intro m words warning out hushed
  let o : GenerateOptions := { GenerateOptions.ofSource "-" with continueOnError := some true }
  have hColour : Console.refusesColour m = true := by decide
  have hWords : Invocation.ofWords words = some (.run (.ofItems []) (.generate o)) := by
    decide +kernel
  have hReport : (generated m o).outcome.toOption.map Prod.snd = some ⟨["GET /pets"], [],
      [("GET /", "Cannot derive a destination name from path '/'")]⟩ := by decide +kernel
  have hDone : ∃ s, (generate m o).outcome = .ok s := by
    have hSome : (generate m o).outcome.toOption.isSome = true := by decide +kernel
    cases hEnd : (generate m o).outcome with
    | ok s => exact ⟨s, rfl⟩
    | error e =>
      rw [hEnd] at hSome
      cases hSome
  obtain ⟨s, hEnd⟩ := hDone
  have hCode : out.exitCode = 0 := by
    change (run m false words).exitCode = 0
    rw [run_of_command m false hWords, execute, outcome, hEnd]
  obtain ⟨hExtra, lasting, last, hTells, hAll⟩ := run_generate_presented hColour hWords false
  have hHushedWords : Invocation.ofWords (["-q", "--json", "--verbose"] ++ words) =
      some (.run ((Flags.ofItems []).raised [.quiet, .json, .verbose]) (.generate o)) :=
    hExtra [("-q", .quiet), ("--json", .json), ("--verbose", .verbose)] (by decide)
  obtain ⟨-, hEffect, hHushedNotices, -⟩ := hAll _ _ hHushedWords
  obtain ⟨-, -, hNotices, -⟩ := hAll _ _ hWords
  refine ⟨hEffect, hCode, ?_⟩
  change hushed.notices = _ at hHushedNotices
  change out.notices = _ at hNotices
  clear_value out hushed m
  cases hTells with
  | generated _ hGenerated =>
    rw [hGenerated] at hReport
    obtain rfl := Option.some.inj hReport
    exact ⟨hHushedNotices.trans (by decide +kernel), hNotices.trans (by decide +kernel)⟩
  | failed hFailed =>
    rw [hFailed] at hEnd
    cases hEnd

end RestRoutes.CommandLine
