import TableLineage.Proofs.CommandLine.Directory
import TableLineage.Proofs.Lineage.Format

/-!
# What is shown is what is exported

`export-tables` lists the tables of just the records that `extract` shows for
the same input.  What cannot be read is shown as an error and has no tables, so
that it makes no difference to the list whether it is there.  Both commands
break down at the same inputs.
-/

namespace TableLineage.CommandLine

open Export Lineage

def recordsIn : Json.Value → List ResolvedRecord
  | .array items => items.filterMap ResolvedRecord.ofValue?
  | _ => []

/-- The values that are shown for inputs, in the order of their keys for a directory. -/
def shownValues : Bool → Json.Value → List Json.Value
  | false, value => [value]
  | true, .object members => members.map Prod.snd
  | true, _ => []

/-- The records that `extract` shows, which are resolved. -/
def shownRecords (directory : Bool) (value : Json.Value) : List ResolvedRecord :=
  (shownValues directory value).flatMap recordsIn

def errorValue (text : String) : Json.Value := .object [("error", .string text)]

def recordsOf (files : Files) (settings : Settings) (path : Path) : List ResolvedRecord :=
  recordsIn (reportOf files settings path).toValue

section Records

variable {env : Environment} {files files' : Files} {settings : Settings} {path : Path}

theorem recordsOf_congr (h : files'.content? path = files.content? path) :
    recordsOf files' settings path = recordsOf files settings path := by
  rw [recordsOf, recordsOf, reportOf_congr h]

theorem recordsOf_of_errorValue {text : String}
    (h : (reportOf files settings path).toValue = errorValue text) :
    recordsOf files settings path = [] := by
  rw [recordsOf, h]
  rfl

theorem exportedRecords_eq_map (hresolve : settings.resolve = true) :
    exportedRecords env settings path =
      (reportOn env settings path).map fun report => recordsIn report.toValue := by
  rw [exportedRecords, reportOn]
  cases readInput env.files settings.kind path with
  | error abort => rfl
  | ok read =>
      cases read with
      | error failure => rfl
      | ok records =>
          simp only [bind, Except.bind, if_pos hresolve]
          cases resolveInput env settings path records with
          | error abort => rfl
          | ok resolved =>
              simp only [Except.map, Report.toValue, recordsIn, List.filterMap_map]
              simp [ResolvedRecord.ofValue?_toValue]

theorem exportedRecords_eq (hresolve : settings.resolve = true)
    (hwhole : ¬ BreaksDownAt env.files settings path) :
    exportedRecords env settings path = .ok (recordsOf env.files settings path) := by
  rw [exportedRecords_eq_map hresolve, reportOn_eq_reportOf hwhole]
  rfl

theorem exportedRecords_broken (hresolve : settings.resolve = true)
    (hbroken : BreaksDownAt env.files settings path) :
    exportedRecords env settings path = .error .brokenDown := by
  rw [exportedRecords_eq_map hresolve, hbroken.reportOn_eq]
  rfl

end Records

inductive Inputs (files : Files) (kind : InputKind) (input : Path) : List Path → Prop
  | file : files.isDirectory input = false → Inputs files kind input [input]
  | directory {names : List Path} : Lists files input names →
      Inputs files kind input ((inputNames kind names).map input.join)

section Inputs

variable {env : Environment} {settings : Settings} {root input : Path} {paths : List Path}

theorem Inputs.inputPaths_eq {files : Files} {kind : InputKind}
    (h : Inputs files kind input paths) : inputPaths files kind input = .ok paths := by
  cases h with
  | file hfile => rw [inputPaths, hfile, if_neg Bool.false_ne_true]
  | directory hlists => rw [inputPaths, if_pos hlists.isDirectory, directoryInputs_listed hlists]

theorem exportText_unlisted {message : String} (hdirectory : env.files.isDirectory input = true)
    (hlisting : env.files.entryNames input = .error message) :
    exportText env settings input = .error (.failed message) := by
  rw [exportText, inputPaths, if_pos hdirectory, directoryInputs, hlisting]
  rfl

theorem Inputs.exportText_eq (h : Inputs env.files settings.kind input paths)
    (hresolve : settings.resolve = true)
    (hwhole : ∀ path ∈ paths, ¬ BreaksDownAt env.files settings path) :
    exportText env settings input =
      .ok (usedTables (paths.flatMap (recordsOf env.files settings))).csv := by
  rw [exportText, h.inputPaths_eq, List.flatMap_def]
  simp only [bind, Except.bind,
    mapM_eq_ok fun path hpath => exportedRecords_eq hresolve (hwhole path hpath)]

theorem Inputs.exportText_broken (h : Inputs env.files settings.kind input paths)
    (hresolve : settings.resolve = true)
    (hbroken : ∃ path ∈ paths, BreaksDownAt env.files settings path) :
    exportText env settings input = .error .brokenDown := by
  have hinput (path : Path) (_ : path ∈ paths) :
      exportedRecords env settings path = .error .brokenDown ∨
        exportedRecords env settings path = .ok (recordsOf env.files settings path) := by
    by_cases h : BreaksDownAt env.files settings path
    · exact .inl (exportedRecords_broken hresolve h)
    · exact .inr (exportedRecords_eq hresolve h)
  obtain ⟨path, hpath, hbroken⟩ := hbroken
  rw [exportText, h.inputPaths_eq]
  simp only [bind, Except.bind,
    mapM_eq_error hinput ⟨path, hpath, exportedRecords_broken hresolve hbroken⟩]

theorem Inputs.exists_value (h : Inputs env.files settings.kind input paths)
    (hroot : env.files.isDirectory input = true → env.root input = .ok root)
    (hwhole : ∀ path ∈ paths, ¬ BreaksDownAt env.files settings path) :
    ∃ value, extractValue env settings input = .ok value := by
  cases h with
  | file hfile =>
      rw [extractValue_file hfile, reportOn_eq_reportOf (hwhole input List.mem_cons_self)]
      exact ⟨_, rfl⟩
  | directory hlists =>
      rw [List.forall_mem_map] at hwhole
      exact ⟨_, extractValue_whole hlists (hroot hlists.isDirectory) hwhole⟩

/-- What is shown of inputs that are shown apart holds the records of each of them. -/
theorem Inputs.shownRecords_eq {value : Json.Value}
    (h : Inputs env.files settings.kind input paths) (happart : ShownApart paths)
    (hroot : env.files.isDirectory input = true → env.root input = .ok root)
    (hwhole : ∀ path ∈ paths, ¬ BreaksDownAt env.files settings path)
    (hvalue : extractValue env settings input = .ok value) :
    shownRecords (env.files.isDirectory input) value =
      paths.flatMap (recordsOf env.files settings) := by
  cases h with
  | file hfile =>
      rw [extractValue_file hfile, reportOn_eq_reportOf (hwhole input List.mem_cons_self)] at hvalue
      obtain rfl := Except.ok.inj hvalue
      rw [hfile, shownRecords, shownValues]
      rfl
  | directory hlists =>
      rw [List.forall_mem_map] at hwhole
      rw [shownApart_join] at happart
      rw [extractValue_directory hlists happart (hroot hlists.isDirectory) hwhole] at hvalue
      obtain rfl := Except.ok.inj hvalue
      rw [hlists.isDirectory, shownRecords, shownValues, directoryMembers, List.map_map,
        List.flatMap_map, List.flatMap_map]
      rfl

theorem Inputs.extractValue_broken (h : Inputs env.files settings.kind input paths)
    (hroot : env.files.isDirectory input = true → env.root input = .ok root)
    (hbroken : ∃ path ∈ paths, BreaksDownAt env.files settings path) :
    extractValue env settings input = .error .brokenDown := by
  obtain ⟨path, hpath, hbroken⟩ := hbroken
  cases h with
  | file hfile =>
      obtain rfl := List.mem_singleton.mp hpath
      rw [extractValue_file hfile, hbroken.reportOn_eq]
      rfl
  | directory hlists =>
      obtain ⟨name, hname, rfl⟩ := List.mem_map.mp hpath
      exact extractValue_directory_broken hlists (hroot hlists.isDirectory) ⟨name, hname, hbroken⟩

end Inputs

section Congruence

variable {settings settings' : Settings}

theorem extractValue_congr (h : settings.Alike settings') (env : Environment)
    (schedule : Path → Schedule) :
    extractValue { env with schedule } settings' = extractValue env settings := by
  have hmember : extractMember { env with schedule } settings' = extractMember env settings := by
    funext path
    rw [extractMember, extractMember, reportOn_congr h]
    rfl
  funext input
  simp only [extractValue, hmember, reportOn_congr h, h.kind]

theorem exportText_congr (h : settings.Alike settings') (env : Environment)
    (schedule : Path → Schedule) :
    exportText { env with schedule } settings' = exportText env settings := by
  have hrecords : exportedRecords { env with schedule } settings' =
      exportedRecords env settings := by
    funext path
    simp only [exportedRecords, resolveInput_congr h, h.kind]
  funext input
  simp only [exportText, hrecords, h.kind]

end Congruence

/-- Entries of a directory are deleted, and all others stay as they are. -/
structure Deletes (files files' : Files) (directory : Path) (names deleted : List Path) : Prop where
  isDirectory : files'.isDirectory directory = true
  listing : ∃ names', files'.entryNames directory = .ok names' ∧
    names'.Perm (names.filter (· ∉ deleted))
  content : ∀ name, name ∉ deleted →
    files'.content? (directory.join name) = files.content? (directory.join name)

theorem flatMap_filter_of_nil {α β : Type} {p : α → Bool} {f : α → List β} {items : List α}
    (h : ∀ a ∈ items, p a = false → f a = []) : (items.filter p).flatMap f = items.flatMap f := by
  induction items with
  | nil => rfl
  | cons a items ih =>
      have hrest := ih fun b hb => h b (List.mem_cons_of_mem a hb)
      cases hp : p a with
      | true => rw [List.filter_cons_of_pos hp, List.flatMap_cons, List.flatMap_cons, hrest]
      | false =>
          rw [List.filter_cons_of_neg (by simp [hp]), hrest, List.flatMap_cons,
            h a List.mem_cons_self hp, List.nil_append]

section Deletion

variable {files files' : Files} {settings : Settings} {kind : InputKind} {directory : Path}
  {names deleted : List Path}

theorem Deletes.exists_lists (h : Deletes files files' directory names deleted)
    (hlists : Lists files directory names) (kind : InputKind) :
    ∃ names', Lists files' directory names' ∧
      inputNames kind names' = (inputNames kind names).filter (· ∉ deleted) := by
  obtain ⟨names', hnames', hperm⟩ := h.listing
  refine ⟨names', ⟨h.isDirectory, hnames', fun name hname => ?_⟩, ?_⟩
  · exact hlists.isEntryName name (List.mem_filter.mp (hperm.mem_iff.mp hname)).1
  · rw [inputNames_perm hperm, inputNames_filter]

theorem Deletes.exportText_eq {env : Environment}
    (h : Deletes env.files files' directory names deleted)
    (hlists : Lists env.files directory names) (hresolve : settings.resolve = true)
    (hwhole : ∀ name ∈ inputNames settings.kind names,
      ¬ BreaksDownAt env.files settings (directory.join name))
    (herrors : ∀ name ∈ inputNames settings.kind names, name ∈ deleted →
      recordsOf env.files settings (directory.join name) = []) :
    exportText { env with files := files' } settings directory =
      exportText env settings directory := by
  obtain ⟨names', hlists', hinputs⟩ := h.exists_lists hlists settings.kind
  have hkept (name : Path) (hname : name ∈ inputNames settings.kind names') :
      name ∈ inputNames settings.kind names ∧ files'.content? (directory.join name) =
        env.files.content? (directory.join name) := by
    rw [hinputs, List.mem_filter, decide_eq_true_eq] at hname
    exact ⟨hname.1, h.content name hname.2⟩
  have hwhole' : ∀ path ∈ (inputNames settings.kind names').map directory.join,
      ¬ BreaksDownAt files' settings path := by
    rw [List.forall_mem_map]
    intro name hname hbroken
    exact hwhole name (hkept name hname).1 (hbroken.congr (hkept name hname).2.symm)
  have hafter : exportText { env with files := files' } settings directory = _ :=
    (Inputs.directory hlists').exportText_eq hresolve hwhole'
  rw [hafter, (Inputs.directory hlists).exportText_eq hresolve (List.forall_mem_map.mpr hwhole),
    List.flatMap_map, List.flatMap_map,
    List.flatMap_congr fun name hname => recordsOf_congr (hkept name hname).2, hinputs,
    flatMap_filter_of_nil]
  intro name hname hdeleted
  exact herrors name hname (by simpa using hdeleted)

theorem mem_directoryMembers_iff (hlists : Lists files directory names)
    (happart : ShownApart (inputNames settings.kind names)) (root : Path) {name : Path}
    {value : Json.Value} (hname : name ∈ inputNames settings.kind names) :
    (entryKey root directory name, value) ∈
        directoryMembers files settings root directory names ↔
      value = (reportOf files settings (directory.join name)).toValue := by
  rw [directoryMembers, List.mem_map]
  constructor
  · rintro ⟨name', hname', heq⟩
    rw [entryMember, Prod.mk.injEq] at heq
    obtain rfl := List.inj_on_of_nodup_map (hlists.entryKeys_nodup happart root) hname' hname heq.1
    exact heq.2.symm
  · rintro rfl
    exact ⟨name, hname, rfl⟩

theorem recordsOf_of_shown_error {env : Environment} {root name : Path} {value : Json.Value}
    {members : List (String × Json.Value)} {text : String}
    (hlists : Lists env.files directory names)
    (happart : ShownApart (inputNames settings.kind names)) (hroot : env.root directory = .ok root)
    (hwhole : ∀ name ∈ inputNames settings.kind names,
      ¬ BreaksDownAt env.files settings (directory.join name))
    (hvalue : extractValue env settings directory = .ok value) (hmembers : value = .object members)
    (hname : name ∈ inputNames settings.kind names)
    (hmember : (entryKey root directory name, errorValue text) ∈ members) :
    recordsOf env.files settings (directory.join name) = [] := by
  rw [extractValue_directory hlists happart hroot hwhole, Except.ok.injEq, hmembers,
    Json.Value.object.injEq] at hvalue
  rw [← hvalue] at hmember
  have hshown := (mem_directoryMembers_iff hlists happart root hname).mp hmember
  exact recordsOf_of_errorValue hshown.symm

end Deletion

/-! ## Main result -/

section Runs

variable {env : Environment} {config : Config}

theorem run_exportTables (options : InputOptions)
    (hconfig : configOf env.files options.config = .ok config) (output : Option Path) :
    run env (.exportTables options output) =
      (exportText env (settingsOf options false false config) options.input).map fun text =>
        output.elim (.printed text) fun path => .saved path text := by
  rw [run, Command.options, hconfig]
  cases htext : exportText env (settingsOf options false false config) options.input <;>
    cases output <;> simp only [bind, Except.bind, htext] <;> rfl

theorem resolve_settingsOf (options : InputOptions) (pretty : Bool)
    (h : config.resolve ≠ some false) :
    (settingsOf options false pretty config).resolve = true := by
  rw [settingsOf]
  dsimp only
  cases hresolve : config.resolve with
  | none => rfl
  | some resolve =>
      cases resolve with
      | false => exact absurd hresolve h
      | true => rfl

/-- Both commands work with settings that are alike, with and without `--sequential`. -/
theorem alike_settingsOf (options : InputOptions) (pretty pretty' sequential : Bool) :
    (settingsOf options false pretty config).Alike
      (settingsOf { options with sequential } false pretty' config) :=
  ⟨rfl, rfl, rfl⟩

theorem run_extract_alike (options : InputOptions) (pretty sequential : Bool)
    (schedule : Path → Schedule) (hconfig : configOf env.files options.config = .ok config) :
    run { env with schedule } (.extract { options with sequential } false pretty) =
      (extractValue env (settingsOf options false pretty config) options.input).map fun value =>
        .printed (printedValue (pretty || config.pretty.getD false) value ++ "\n") := by
  rw [← extractValue_congr (alike_settingsOf options pretty pretty sequential) env schedule]
  exact run_extract { options with sequential } false pretty hconfig

theorem run_exportTables_alike (options : InputOptions) (pretty sequential : Bool)
    (schedule : Path → Schedule) (hconfig : configOf env.files options.config = .ok config)
    (output : Option Path) :
    run { env with schedule } (.exportTables { options with sequential } output) =
      (exportText env (settingsOf options false pretty config) options.input).map fun text =>
        output.elim (.printed text) fun path => .saved path text := by
  rw [← exportText_congr (alike_settingsOf options pretty false sequential) env schedule]
  exact @run_exportTables { env with schedule } config { options with sequential } hconfig output

end Runs

theorem commands_agree {env : Environment} {config : Config} {root : Path} (options : InputOptions)
    (pretty : Bool) (hconfig : configOf env.files options.config = .ok config)
    (hresolve : config.resolve ≠ some false)
    (hroot : env.files.isDirectory options.input = true → env.root options.input = .ok root) :
    (∀ message, env.files.isDirectory options.input = true →
      env.files.entryNames options.input = .error message →
      ∀ sequential schedule,
        run { env with schedule } (.extract { options with sequential } false pretty) =
          .error (.failed message) ∧
        ∀ output, run { env with schedule } (.exportTables { options with sequential } output) =
          .error (.failed message)) ∧
    ∀ paths, Inputs env.files options.kind options.input paths →
      ((∃ path ∈ paths, BreaksDownAt env.files (settingsOf options false pretty config) path) →
        ∀ sequential schedule,
          run { env with schedule } (.extract { options with sequential } false pretty) =
            .error .brokenDown ∧
          ∀ output, run { env with schedule } (.exportTables { options with sequential } output) =
            .error .brokenDown) ∧
      ((∀ path ∈ paths, ¬ BreaksDownAt env.files (settingsOf options false pretty config) path) →
        ∃ value csv,
          extractValue env (settingsOf options false pretty config) options.input = .ok value ∧
          (ShownApart paths →
            csv = (usedTables (shownRecords (env.files.isDirectory options.input) value)).csv) ∧
          ∀ sequential schedule,
            run { env with schedule } (.extract { options with sequential } false pretty) =
              .ok (.printed (printedValue (pretty || config.pretty.getD false) value ++ "\n")) ∧
            run { env with schedule } (.exportTables { options with sequential } none) =
              .ok (.printed csv) ∧
            (∀ path, run { env with schedule }
              (.exportTables { options with sequential } (some path)) = .ok (.saved path csv)) ∧
            ∀ (files' : Files) (names deleted : List Path), ShownApart paths →
              Lists env.files options.input names →
              Deletes env.files files' options.input names deleted →
              configOf files' options.config = .ok config →
              (∀ name ∈ deleted, name ∈ inputNames options.kind names ∧
                ∃ members text, value = .object members ∧
                  (entryKey root options.input name, errorValue text) ∈ members) →
              ∀ output, run { env with files := files', schedule }
                  (.exportTables { options with sequential } output) =
                run { env with schedule } (.exportTables { options with sequential } output)) := by
  have hextract := fun sequential schedule =>
    run_extract_alike options pretty sequential schedule hconfig
  have hexport := fun sequential schedule =>
    run_exportTables_alike options pretty sequential schedule hconfig
  have hresolves := resolve_settingsOf options pretty hresolve
  refine ⟨fun message hdirectory hlisting sequential schedule => ?_, fun paths hinputs => ⟨?_, ?_⟩⟩
  · rw [hextract, extractValue_unlisted hdirectory hlisting]
    refine ⟨rfl, fun output => ?_⟩
    rw [hexport, exportText_unlisted hdirectory hlisting]
    rfl
  · intro hbroken sequential schedule
    rw [hextract, Inputs.extractValue_broken hinputs hroot hbroken]
    refine ⟨rfl, fun output => ?_⟩
    rw [hexport, Inputs.exportText_broken hinputs hresolves hbroken]
    rfl
  · intro hwhole
    obtain ⟨value, hvalue⟩ := Inputs.exists_value hinputs hroot hwhole
    obtain ⟨csv, hcsv, htext⟩ : ∃ csv, csv = (usedTables (paths.flatMap
        (recordsOf env.files (settingsOf options false pretty config)))).csv ∧
          exportText env (settingsOf options false pretty config) options.input = .ok csv :=
      ⟨_, rfl, Inputs.exportText_eq hinputs hresolves hwhole⟩
    refine ⟨value, csv, hvalue, fun happart => ?_, fun sequential schedule =>
      ⟨?_, ?_, fun path => ?_, ?_⟩⟩
    · rw [hcsv, Inputs.shownRecords_eq hinputs happart hroot hwhole hvalue]
    · rw [hextract, hvalue]
      rfl
    · rw [hexport, htext]
      rfl
    · rw [hexport, htext]
      rfl
    · intro files' names deleted happart hlists hdeletes hconfig' hshown output
      have hpaths : paths = (inputNames options.kind names).map options.input.join :=
        Except.ok.inj (hinputs.inputPaths_eq.symm.trans (Inputs.directory hlists).inputPaths_eq)
      rw [hpaths, List.forall_mem_map] at hwhole
      rw [hpaths, shownApart_join] at happart
      have hafter : exportText { env with files := files' } (settingsOf options false pretty config)
          options.input =
            exportText env (settingsOf options false pretty config) options.input := by
        refine hdeletes.exportText_eq hlists hresolves hwhole fun name hname hdeleted => ?_
        obtain ⟨-, members, text, hmembers, hmember⟩ := hshown name hdeleted
        exact recordsOf_of_shown_error hlists happart (hroot hlists.isDirectory) hwhole hvalue
          hmembers hname hmember
      have hexport' := @run_exportTables_alike { env with files := files' } config options pretty
        sequential schedule hconfig' output
      rw [hexport', hafter, hexport]

theorem inputNames_cutOffDirectory :
    inputNames .schema ["b.json", "a.json", "c.json"] = ["a.json", "b.json", "c.json"] :=
  inputNames_eq (by decide) (by decide)

def importRecord : ResolvedRecord :=
  ⟨⟨"P", "h", "d", " [Query=\"SELECT 1 FROM a\"])", "SELECT 1 FROM a", false⟩, some ["a"]⟩

theorem recordsOf_importFile {files : Files} {path : Path}
    (h : files.content? path = some (String.ofList (importText "SELECT 1 FROM a")).toUTF8) :
    recordsOf files { kind := .schema } path = [importRecord] := by
  have hread : readRecords files .schema path = .ok [importRecord.record] := by
    rw [readRecords_of_text h]
    decide +kernel
  have hresolve : resolveAll (sqlResolver .tsql) [importRecord.record] = [importRecord] := by
    decide +kernel
  rw [recordsOf, reportOf, hread]
  change recordsIn (Report.resolved (resolveAll (sqlResolver .tsql) _)).toValue = _
  rw [hresolve]
  simp [Report.toValue, recordsIn, ResolvedRecord.ofValue?_toValue]

theorem recordsOf_cutOffDirectory :
    ((inputNames .schema ["b.json", "a.json", "c.json"]).map (Path.ofString "d").join).flatMap
      (recordsOf cutOffDirectory.files { kind := .schema }) = [importRecord] := by
  have hfirst := @recordsOf_importFile cutOffDirectory.files ((Path.ofString "d").join "a.json") rfl
  have hother (name : Path) (h : name = "b.json" ∨ name = "c.json") : recordsOf
      cutOffDirectory.files { kind := .schema } ((Path.ofString "d").join name) = [] := by
    rcases h with rfl | rfl <;> decide +kernel
  rw [inputNames_cutOffDirectory]
  simp [hfirst, hother]

theorem commands_agree_cutOff :
    ∃ value csv,
      run (cutOffDirectory.environment "/w")
          (.extract { input := "d", schemaJson := true } false false) =
        .ok (.printed (printedValue false value ++ "\n")) ∧
      shownRecords true value = [importRecord] ∧
      csv = (usedTables (shownRecords true value)).csv ∧
      run (cutOffDirectory.environment "/w")
          (.exportTables { input := "d", schemaJson := true } none) = .ok (.printed csv) ∧
      run { cutOffDirectory.environment "/w" with
          files := { cutOffDirectory.files with entryNames := fun _ => .ok ["a.json"] } }
        (.exportTables { input := "d", schemaJson := true } none) = .ok (.printed csv) := by
  have hinputs : Inputs cutOffDirectory.files .schema "d" _ := .directory lists_cutOffDirectory
  have happart := @shownApart_of_text .schema ["b.json", "a.json", "c.json"] (by decide)
  have hpaths := (shownApart_join "d" _).mpr happart
  have hwhole (path : Path) : ¬ BreaksDownAt cutOffDirectory.files { kind := .schema } path :=
    not_breaksDownAt_schema rfl fun _ => by decide
  obtain ⟨value, csv, hvalue, hcsv, hruns⟩ :=
    ((@commands_agree (cutOffDirectory.environment "/w") {} "/w"
      { input := "d", schemaJson := true } false rfl (by decide) fun _ => rfl).2 _ hinputs).2
        fun path _ => hwhole path
  obtain ⟨hextract, hexport, -, hdeletion⟩ := hruns false fun _ => .inOrder
  have hshown : shownRecords true value = [importRecord] :=
    (@Inputs.shownRecords_eq (cutOffDirectory.environment "/w") { kind := .schema } "/w" "d" _ value
      hinputs hpaths (fun _ => rfl) (fun path _ => hwhole path) hvalue).trans
        recordsOf_cutOffDirectory
  refine ⟨value, csv, hextract, hshown, ?_, hexport, ?_⟩
  · rw [hcsv hpaths, FileTree.files_environment, lists_cutOffDirectory.isDirectory]
  · have hobject := @extractValue_directory (cutOffDirectory.environment "/w") { kind := .schema }
      "/w" "d" _ lists_cutOffDirectory happart rfl fun _ _ => hwhole _
    have hmembers := Except.ok.inj (hvalue.symm.trans hobject)
    have hinput {name : Path} (h : name ∈ (["a.json", "b.json", "c.json"] : List Path)) :
        name ∈ inputNames .schema ["b.json", "a.json", "c.json"] :=
      inputNames_cutOffDirectory ▸ h
    have hmember {name : Path} (h : name ∈ (["a.json", "b.json", "c.json"] : List Path)) :=
      (@mem_directoryMembers_iff cutOffDirectory.files { kind := .schema } "d" _
        lists_cutOffDirectory happart "/w" name _ (hinput h)).mpr rfl
    have hdeletes : Deletes cutOffDirectory.files
        { cutOffDirectory.files with entryNames := fun _ => .ok ["a.json"] } "d"
        ["b.json", "a.json", "c.json"] ["b.json", "c.json"] :=
      ⟨lists_cutOffDirectory.isDirectory, ⟨["a.json"], rfl, by decide⟩, fun _ _ => rfl⟩
    refine (hdeletion _ _ _ hpaths lists_cutOffDirectory hdeletes rfl ?_ none).trans hexport
    intro name hname
    simp only [List.mem_cons, List.not_mem_nil, or_false] at hname
    rcases hname with rfl | rfl
    · exact ⟨hinput (by decide), _, _, hmembers, hmember (by decide)⟩
    · exact ⟨hinput (by decide), _, _, hmembers, hmember (by decide)⟩

/-! ## Where the commands do not agree -/

def alikeName (byte : UInt8) : Path := ⟨byte :: (Path.ofString ".json").bytes⟩

/-- A directory of two documents whose names are no text and are shown alike. -/
def alikeDirectory : FileTree :=
  [(["d"], .directory), (["d", alikeName 0xFE], importFile "SELECT 1 FROM a"),
    (["d", alikeName 0xFF], .file "\x7b".toUTF8)]

theorem lists_alikeDirectory :
    Lists alikeDirectory.files "d" [alikeName 0xFE, alikeName 0xFF] :=
  ⟨by decide +kernel, by decide +kernel, by decide +kernel⟩

theorem inputNames_alikeDirectory :
    inputNames .schema [alikeName 0xFE, alikeName 0xFF] = [alikeName 0xFE, alikeName 0xFF] :=
  inputNames_eq (by decide) (by decide)

theorem extractValue_alikeDirectory :
    ∃ value, extractValue (alikeDirectory.environment "/w") { kind := .schema } "d" = .ok value ∧
      shownRecords true value = [] := by
  have hvalue := @extractValue_whole (alikeDirectory.environment "/w") { kind := .schema } "/w" "d"
    _ lists_alikeDirectory rfl fun _ _ => not_breaksDownAt_schema rfl fun _ => by decide
  have hkey : entryKey "/w" "d" (alikeName 0xFE) = entryKey "/w" "d" (alikeName 0xFF) :=
    (entryKey_inj (by decide) (by decide)).mpr (by decide)
  have hlast : recordsIn (reportOf alikeDirectory.files { kind := .schema }
      ((Path.ofString "d").join (alikeName 0xFF))).toValue = [] := by decide +kernel
  refine ⟨_, hvalue, ?_⟩
  rw [directoryMembers, inputNames_alikeDirectory]
  simp [Ordered.ofEntries, Ordered.put, Ordered.update, entryMember, hkey, shownRecords,
    shownValues, hlast]

theorem exportText_alikeDirectory :
    exportText (alikeDirectory.environment "/w") { kind := .schema } "d" =
      .ok (usedTables [importRecord]).csv := by
  have hinputs : Inputs alikeDirectory.files .schema "d" _ := .directory lists_alikeDirectory
  have hfirst := @recordsOf_importFile alikeDirectory.files
    ((Path.ofString "d").join (alikeName 0xFE)) rfl
  have hlast : recordsOf alikeDirectory.files { kind := .schema }
      ((Path.ofString "d").join (alikeName 0xFF)) = [] := by decide +kernel
  have htext := @Inputs.exportText_eq (alikeDirectory.environment "/w") { kind := .schema } "d" _
    hinputs rfl fun _ _ => not_breaksDownAt_schema rfl fun _ => by decide
  rw [htext, inputNames_alikeDirectory]
  simp [hfirst, hlast]

/-- A breakdown loses the tables of the other inputs, and of inputs that are shown alike only the
last is shown while all are exported. -/
theorem commands_disagree :
    (run (unmarkedDirectory.environment "/w") (.exportTables { input := "d/b.pbit" } none) =
        .ok (.printed "object,table\n") ∧
      ∀ output, run (unmarkedDirectory.environment "/w") (.exportTables { input := "d" } output) =
        .error .brokenDown) ∧
    ∃ value csv,
      run (alikeDirectory.environment "/w")
          (.extract { input := "d", schemaJson := true } false false) =
        .ok (.printed (printedValue false value ++ "\n")) ∧
      run (alikeDirectory.environment "/w")
          (.exportTables { input := "d", schemaJson := true } none) = .ok (.printed csv) ∧
      csv ≠ (usedTables (shownRecords true value)).csv := by
  constructor
  · refine ⟨by decide +kernel, fun output => ?_⟩
    have hinputs : Inputs unmarkedDirectory.files .template "d" _ :=
      .directory lists_unmarkedDirectory
    have hpath : (Path.ofString "d").join "a.pbit" ∈ (inputNames .template ["a.pbit", "b.pbit"]).map
        (Path.ofString "d").join :=
      List.mem_map_of_mem (mem_inputNames.mpr ⟨by decide, by decide⟩)
    have htext := @Inputs.exportText_broken (unmarkedDirectory.environment "/w") {} "d" _ hinputs
      rfl ⟨_, hpath, breaksDownAt_unmarked⟩
    exact (@run_exportTables (unmarkedDirectory.environment "/w") {} { input := "d" } rfl
      output).trans (congrArg (Except.map _) htext)
  · obtain ⟨value, hvalue, hshown⟩ := extractValue_alikeDirectory
    have hextract := @run_extract (alikeDirectory.environment "/w") {}
      { input := "d", schemaJson := true } false false rfl
    have hexport := @run_exportTables (alikeDirectory.environment "/w") {}
      { input := "d", schemaJson := true } rfl none
    refine ⟨value, _, hextract.trans (congrArg (Except.map _) hvalue),
      hexport.trans (congrArg (Except.map _) exportText_alikeDirectory), ?_⟩
    rw [hshown]
    decide +kernel

end TableLineage.CommandLine
