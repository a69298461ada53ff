import RestRoutes.Proofs.Api.Listing
import RestRoutes.Proofs.CommandLine.Execution
import RestRoutes.Proofs.Console

/-! What a listing of operations can be read back to.  Both forms for machines are written from the
same rows.  The JSON form always gives them back; the lines do so unless the path or the id of an
operation has a tab or a line feed in it, which then parts a cell or a row in two. -/

namespace RestRoutes.CommandLine

open Api

/-- The flags ask for lines. -/
def Flags.AskPlain (f : Flags) : Prop := f.json = false ∧ f.plain = true

/-- A row shows an operation: its method, its path, its id if it has one, and whether it is included. -/
def Shows (filter : Filter) (e : Method × Operation) (row : List String) : Prop :=
  ∃ included, filter.accept e.2.id? = .ok included ∧
    row = [e.1.capitalName, e.2.path, e.2.name?.getD "-", if included then "yes" else "no"]

/-- The texts of an operation that a row shows stay one cell each. -/
def InCells (op : Operation) : Prop :=
  Table.OneCell op.path ∧ ∀ name ∈ op.name?, Table.OneCell name

instance (op : Operation) : Decidable (InCells op) := inferInstanceAs (Decidable (_ ∧ _))

section Rows

variable {filter : Filter} {e : Method × Operation} {row : List String}

theorem operationRow_eq_ok : operationRow filter e.1 e.2 = .ok row ↔ Shows filter e row := by
  constructor
  · intro h
    obtain ⟨included, hAccept, h⟩ := except_bind_eq_ok.mp h
    exact ⟨included, hAccept, (Except.ok.inj h).symm⟩
  · rintro ⟨included, hAccept, rfl⟩
    exact except_bind_eq_ok.mpr ⟨included, hAccept, rfl⟩

theorem Shows.length (h : Shows filter e row) : row.length = 4 := by
  obtain ⟨included, -, rfl⟩ := h
  rfl

theorem Shows.oneCell_iff (h : Shows filter e row) :
    (∀ cell ∈ row, Table.OneCell cell) ↔ InCells e.2 := by
  obtain ⟨included, -, rfl⟩ := h
  have hMethod : ∀ m : Method, Table.OneCell m.capitalName := by
    intro m
    cases m <;> decide
  have hIncluded : Table.OneCell (if included then "yes" else "no") := by cases included <;> decide
  have hName : Table.OneCell (e.2.name?.getD "-") ↔ ∀ name ∈ e.2.name?, Table.OneCell name := by
    cases e.2.name? with
    | none => exact ⟨fun _ _ h => (nomatch h), fun _ => by decide⟩
    | some name => simp
  simp [InCells, hMethod, hIncluded, hName]

end Rows

/-- The rows of a table show the operations of the document, in its order. -/
theorem rows_of_listed {document : Value} {version : Document.Version} {filter : Filter}
    {rows : List (List String)} (h : (operationRows document version filter).outcome = .ok rows) :
    List.Forall₂ (Shows filter) (Listing.operations document version).items rows := by
  obtain ⟨hWhole, rfl⟩ := operationRows_eq_ok.mp h
  exact (Listing.collect_collected hWhole).2.imp fun _ _ hRow => operationRow_eq_ok.mp hRow

theorem forall_mem_iff_of_forall₂ {α β : Type} {R : α → β → Prop} {P : α → Prop} {Q : β → Prop}
    (hR : ∀ a b, R a b → (P a ↔ Q b)) {as : List α} {bs : List β} (h : List.Forall₂ R as bs) :
    (∀ a ∈ as, P a) ↔ ∀ b ∈ bs, Q b := by
  induction h with
  | nil => simp
  | cons hFirst _ ih => rw [List.forall_mem_cons, List.forall_mem_cons, hR _ _ hFirst, ih]

section Table

variable {filter : Filter} {es : List (Method × Operation)} {rows : List (List String)}

theorem length_of_shown (h : List.Forall₂ (Shows filter) es rows) : ∀ row ∈ rows, row.length = 4 :=
  (forall_mem_iff_of_forall₂ (fun _ _ he => iff_of_true trivial he.length) h).mp fun _ _ => trivial

/-- The lines of a listing give back its rows exactly if the paths and ids stay in their cells. -/
theorem readPlain_shown_iff (h : List.Forall₂ (Shows filter) es rows) :
    Table.readPlain (Table.plain ⟨listHeaders, rows⟩) = listHeaders :: rows ↔
      ∀ e ∈ es, InCells e.2 := by
  have hHeaders : listHeaders ≠ [] ∧ ∀ cell ∈ listHeaders, Table.OneCell cell := by decide
  have hRow : ∀ e row, Shows filter e row →
      (InCells e.2 ↔ row ≠ [] ∧ ∀ cell ∈ row, Table.OneCell cell) := by
    intro e row he
    have hSome : row ≠ [] := List.ne_nil_of_length_pos (by rw [he.length]; decide)
    rw [← he.oneCell_iff, and_iff_right hSome]
  rw [Table.readPlain_plain_iff, List.forall_mem_cons, and_iff_right hHeaders]
  exact (forall_mem_iff_of_forall₂ hRow h).symm

end Table

/-! ### Commands -/

/-- Only what ends well ends with exit code 0: a refusal and a defect both have another. -/
theorem output_of_exitCode {m : Machine} {console : Console} {result : Logged Success}
    (h : (outcome m console result).exitCode = 0) :
    ∃ s, result.outcome = .ok s ∧ (outcome m console result).output = s.output := by
  cases hResult : result.outcome with
  | ok s =>
    rw [outcome, hResult]
    exact ⟨s, rfl, rfl⟩
  | error e =>
    cases e with
    | refusal r => exact absurd h (outcome_of_refusal m console hResult).failed
    | defect d =>
      have hCode : (outcome m console result).exitCode = 1 := by
        rcases outcome_of_defect m console hResult with hCrashed | hUnrecorded
        · exact hCrashed.exitCode
        · exact hUnrecorded.exitCode
      rw [hCode] at h
      cases h

section Runs

variable {words : List String} {flags : Flags} {o : ListOptions}

/-- A listing command ends well exactly if there is a table to show. -/
theorem run_operations_iff (m : Machine) (terminal : Bool)
    (h : Invocation.ofWords words = some (.run flags (.operations o))) (output : String) :
    (run m terminal words).exitCode = 0 ∧ (run m terminal words).output = output ↔
      ∃ table, (listed m o).outcome = .ok table ∧
        (flags.console m terminal).listing table = output := by
  have hRun : run m terminal words =
      outcome m (flags.console m terminal) (list m (flags.console m terminal) o) :=
    run_of_command m terminal h
  have hList : ∀ s, (list m (flags.console m terminal) o).outcome = .ok s ↔
      ∃ table, (listed m o).outcome = .ok table ∧
        s = ⟨m, (flags.console m terminal).listing table, []⟩ := by
    intro s
    refine Logged.bind_eq_ok.trans (exists_congr fun table => and_congr_right fun _ => ?_)
    exact ⟨fun hs => (Except.ok.inj hs).symm, fun hs => hs ▸ rfl⟩
  rw [hRun]
  constructor
  · rintro ⟨hExit, rfl⟩
    obtain ⟨s, hSuccess, hOutput⟩ := output_of_exitCode hExit
    obtain ⟨table, hTable, rfl⟩ := (hList s).mp hSuccess
    exact ⟨table, hTable, hOutput.symm⟩
  · rintro ⟨table, hTable, rfl⟩
    rw [outcome, (hList _).mpr ⟨table, hTable, rfl⟩]
    exact ⟨rfl, rfl⟩

theorem listing_of_askPlain (h : flags.AskPlain) (m : Machine) (terminal : Bool) (t : Table) :
    (flags.console m terminal).listing t = t.plain := by
  obtain ⟨hJson, hPlain⟩ := h
  simp [Flags.console, Console.listing, hJson, hPlain]

theorem listing_of_json (h : flags.json = true) (m : Machine) (terminal : Bool) (t : Table) :
    (flags.console m terminal).listing t = t.json := by
  simp [Flags.console, Console.listing, h]

/-- Lines and JSON are listed from the same rows, one for each operation, and a command that ends well
with one of the two flags does so with the other.  The JSON form always gives the rows back; the lines
give them back exactly if no path and no id has a tab or a line feed in it. -/
theorem run_operations_decoded {m : Machine} {terminal : Bool} {plainWords jsonWords : List String}
    {plainFlags jsonFlags : Flags}
    (hPlain : Invocation.ofWords plainWords = some (.run plainFlags (.operations o)))
    (hAskPlain : plainFlags.AskPlain)
    (hJson : Invocation.ofWords jsonWords = some (.run jsonFlags (.operations o)))
    (hAskJson : jsonFlags.json = true) (hWords : words = plainWords ∨ words = jsonWords)
    (hExit : (run m terminal words).exitCode = 0) :
    ∃ settings document version rows,
      Settings.resolve m [(.str "filter", Settings.optionalValue o.filter)] = .ok settings ∧
      Document.load m o.source = .ok document ∧ Document.version document = .ok version ∧
      List.Forall₂ (Shows (.ofSetting m.charNames settings.filter))
        (Listing.operations document version).items rows ∧
      (run m terminal plainWords).exitCode = 0 ∧ (run m terminal jsonWords).exitCode = 0 ∧
      Json.read (run m terminal jsonWords).output =
        .ok (.list (rows.map fun row => .ofNamed (listHeaders.zip (row.map .str)))) ∧
      (Table.readPlain (run m terminal plainWords).output = listHeaders :: rows ↔
        ∀ e ∈ (Listing.operations document version).items, InCells e.2) := by
  have hListed : ∃ table, (listed m o).outcome = .ok table := by
    obtain rfl | rfl := hWords
    · obtain ⟨table, hTable, -⟩ := (run_operations_iff m terminal hPlain _).mp ⟨hExit, rfl⟩
      exact ⟨table, hTable⟩
    · obtain ⟨table, hTable, -⟩ := (run_operations_iff m terminal hJson _).mp ⟨hExit, rfl⟩
      exact ⟨table, hTable⟩
  obtain ⟨table, hTable⟩ := hListed
  obtain ⟨hPlainExit, hPlainOutput⟩ := (run_operations_iff m terminal hPlain _).mpr ⟨table, hTable, rfl⟩
  obtain ⟨hJsonExit, hJsonOutput⟩ := (run_operations_iff m terminal hJson _).mpr ⟨table, hTable, rfl⟩
  rw [listing_of_askPlain hAskPlain] at hPlainOutput
  rw [listing_of_json hAskJson] at hJsonOutput
  obtain ⟨settings, document, version, rows, hSettings, hDocument, hVersion, hRows, rfl⟩ :=
    listed_eq_ok hTable
  have hShown := rows_of_listed hRows
  refine ⟨settings, document, version, rows, hSettings, hDocument, hVersion, hShown, hPlainExit,
    hJsonExit, ?_, ?_⟩
  · rw [hJsonOutput]
    have hHeaders : listHeaders.Nodup := by decide
    exact Table.read_json hHeaders fun row hRow => Nat.le_of_eq (length_of_shown hShown row hRow).symm
  · rw [hPlainOutput]
    exact readPlain_shown_iff hShown

end Runs

/-- A machine without settings whose standard input is a document. -/
def givenDocument (document : Value) : Machine where
  system := "Linux"
  environment := [("HOME", "/work/home")]
  accountHome := some "/"
  directory := ["work"]
  tree := ⟨[(["work"], .directory)]⟩
  input := Json.render Json.indented document
  fetch := fun _ => .unreachable "no network"
  moment := "20240101-120000"
  charNames := fun _ => none

def petStore : Value :=
  .ofNamed [("swagger", .str "2.0"), ("paths", .ofNamed [
    ("/pets", .ofNamed [("get", .ofNamed [("operationId", .str "findPets")]), ("post", .ofNamed [])])])]

def brokenStore : Value :=
  .ofNamed [("swagger", .str "2.0"), ("paths", .ofNamed [
    ("/pets\nall", .ofNamed [("get", .ofNamed [])])])]

def listInput : ListOptions := ⟨"-", none⟩

theorem ofWords_plain : Invocation.ofWords ["--plain", "operations", "-"] =
    some (.run (.ofItems [.plain]) (.operations listInput)) := by decide +kernel

theorem ofWords_json : Invocation.ofWords ["--json", "operations", "-"] =
    some (.run (.ofItems [.json]) (.operations listInput)) := by decide +kernel

theorem run_operations_decoded_petStore :
    let m := givenDocument petStore
    let plainOut := run m false ["--plain", "operations", "-"]
    let jsonOut := run m false ["--json", "operations", "-"]
    plainOut.exitCode = 0 ∧ jsonOut.exitCode = 0 ∧ ∃ rows, rows.length = 2 ∧
      Table.readPlain plainOut.output = listHeaders :: rows ∧
      Json.read jsonOut.output =
        .ok (.list (rows.map fun row => .ofNamed (listHeaders.zip (row.map .str)))) := by
  intro m plainOut jsonOut
  have hListed : (listed m listInput).outcome = .ok ⟨listHeaders,
      [["GET", "/pets", "findPets", "yes"], ["POST", "/pets", "-", "yes"]]⟩ := by decide +kernel
  have hVersion : (Document.load m "-" >>= Document.version) = .ok .swagger := by decide +kernel
  have hCells : ∀ document ∈ (Document.load m "-").toOption,
      (Listing.operations document .swagger).items.length = 2 ∧
        ∀ e ∈ (Listing.operations document .swagger).items, InCells e.2 := by decide +kernel
  obtain ⟨hExit, -⟩ := (run_operations_iff m false ofWords_plain _).mpr ⟨_, hListed, rfl⟩
  obtain ⟨settings, document, version, rows, -, hLoaded, hRead, hShown, hPlainExit, hJsonExit,
    hRecords, hLines⟩ := run_operations_decoded ofWords_plain ⟨rfl, rfl⟩ ofWords_json rfl (.inl rfl)
      hExit
  have hLoaded : Document.load m "-" = .ok document := hLoaded
  rw [hLoaded] at hVersion hCells
  obtain rfl := Except.ok.inj (hRead.symm.trans hVersion)
  obtain ⟨hLength, hCells⟩ := hCells document rfl
  exact ⟨hPlainExit, hJsonExit, rows, hShown.length_eq ▸ hLength, hLines.mpr hCells, hRecords⟩

/-- A line feed in a path breaks a row in two, though the JSON form has it as one. -/
theorem run_operations_brokenStore :
    let m := givenDocument brokenStore
    let plainOut := run m false ["--plain", "operations", "-"]
    let jsonOut := run m false ["--json", "operations", "-"]
    plainOut.exitCode = 0 ∧ jsonOut.exitCode = 0 ∧
      Json.read jsonOut.output = .ok (.list [.ofNamed [("Method", .str "GET"),
        ("Path", .str "/pets\nall"), ("Operation", .str "-"), ("Included", .str "yes")]]) ∧
      Table.readPlain plainOut.output =
        [listHeaders, ["GET", "/pets"], ["all", "-", "yes"]] := by
  intro m plainOut jsonOut
  have hListed : (listed m listInput).outcome =
      .ok ⟨listHeaders, [["GET", "/pets\nall", "-", "yes"]]⟩ := by decide +kernel
  obtain ⟨hPlainExit, hLines⟩ :=
    (run_operations_iff m false ofWords_plain _).mpr ⟨_, hListed, rfl⟩
  obtain ⟨hJsonExit, hRecords⟩ :=
    (run_operations_iff m false ofWords_json _).mpr ⟨_, hListed, rfl⟩
  refine ⟨hPlainExit, hJsonExit, ?_, ?_⟩
  · rw [hRecords]
    exact Table.read_json (by decide) (by decide)
  · rw [hLines]
    decide +kernel

end RestRoutes.CommandLine
