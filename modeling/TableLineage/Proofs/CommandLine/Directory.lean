import Mathlib.Data.List.Sort
import TableLineage.Proofs.CommandLine.Breakdown
import TableLineage.Proofs.CommandLine.Path
import TableLineage.Proofs.Ordered

/-!
# A directory is shown entry by entry

Of the entries of a directory those with the extension of the inputs are shown,
in the order of their paths.  What stands under the path of an entry is what the
entry is shown as by itself, so that one entry has no effect on another, unless
the run breaks down at it.  A directory that cannot be listed fails the run.
-/

namespace TableLineage.CommandLine

open Lineage

structure Lists (files : Files) (directory : Path) (names : List Path) : Prop where
  isDirectory : files.isDirectory directory = true
  entryNames : files.entryNames directory = .ok names
  isEntryName : ∀ name ∈ names, name.IsEntryName

def ShownApart (paths : List Path) : Prop := (paths.map Path.shown).Nodup

section Names

variable {kind : InputKind} {names names' : List Path}

theorem mem_inputNames {name : Path} :
    name ∈ inputNames kind names ↔
      name ∈ names ∧ name.extension? = some (kind.extension : Path) := by
  rw [inputNames, List.mem_mergeSort, List.mem_filter, hasExtension, decide_eq_true_eq]

theorem inputNames_pairwise (kind : InputKind) (names : List Path) :
    (inputNames kind names).Pairwise LE.le :=
  List.pairwise_mergeSort' LE.le _

/-- The order of the inputs does not depend on the order in which a directory lists them. -/
theorem inputNames_eq {sorted : List Path} (hsorted : sorted.Pairwise LE.le)
    (hperm : sorted.Perm (names.filter (hasExtension kind))) : inputNames kind names = sorted :=
  ((List.mergeSort_perm _ _).trans hperm.symm).eq_of_pairwise' (inputNames_pairwise kind names)
    hsorted

theorem inputNames_perm (h : names'.Perm names) :
    inputNames kind names' = inputNames kind names :=
  inputNames_eq (inputNames_pairwise kind names)
    ((List.mergeSort_perm _ _).trans (h.filter _).symm)

theorem inputNames_filter (p : Path → Bool) :
    inputNames kind (names.filter p) = (inputNames kind names).filter p := by
  refine inputNames_eq ((inputNames_pairwise kind names).filter p) ?_
  rw [List.filter_comm]
  exact (List.mergeSort_perm _ _).filter p

theorem shownApart_join (directory : Path) (names : List Path) :
    ShownApart (names.map directory.join) ↔ ShownApart names := by
  have hpairs (names : List Path) (f : Path → String) :
      (names.map f).Nodup ↔ names.Pairwise fun name name' => f name ≠ f name' := List.pairwise_map
  rw [ShownApart, ShownApart, List.map_map, hpairs, hpairs]
  simp only [Function.comp_apply, ne_eq, Path.shown_join_inj]

theorem shownApart_of_text {texts : List String} (h : texts.Nodup) :
    ShownApart (inputNames kind (texts.map Path.ofString)) := by
  have hinputs : (inputNames kind (texts.map Path.ofString)).Nodup :=
    (List.mergeSort_perm _ _).nodup_iff.mpr ((h.map Path.ofString_injective).filter _)
  refine hinputs.map_on fun name hname name' hname' heq => ?_
  obtain ⟨text, -, rfl⟩ := List.mem_map.mp (mem_inputNames.mp hname).1
  obtain ⟨text', -, rfl⟩ := List.mem_map.mp (mem_inputNames.mp hname').1
  rw [Path.shown_ofString, Path.shown_ofString] at heq
  rw [heq]

theorem ShownApart.pairwise_lt (h : ShownApart (inputNames kind names)) :
    (inputNames kind names).Pairwise (· < ·) :=
  ((inputNames_pairwise kind names).and h.of_map).imp fun hle =>
    Std.lt_of_le_of_ne hle.1 hle.2

end Names

section Traversal

variable {α β ε : Type} {f : α → Except ε β} {g : α → β} {items : List α}

theorem mapM_eq_ok (h : ∀ a ∈ items, f a = .ok (g a)) : items.mapM f = .ok (items.map g) := by
  induction items with
  | nil => rfl
  | cons a items ih =>
      rw [List.forall_mem_cons] at h
      rw [List.mapM_cons, h.1, ih h.2]
      rfl

theorem mapM_eq_error {e : ε} (h : ∀ a ∈ items, f a = .error e ∨ f a = .ok (g a))
    (herror : ∃ a ∈ items, f a = .error e) : items.mapM f = .error e := by
  induction items with
  | nil => simp at herror
  | cons a items ih =>
      rw [List.forall_mem_cons] at h
      rw [List.mapM_cons]
      obtain ⟨hfirst, hrest⟩ := h
      rcases hfirst with hfirst | hfirst
      · rw [hfirst]
        rfl
      · have hlater : ∃ a ∈ items, f a = .error e := by simpa [hfirst] using herror
        rw [hfirst, ih hrest hlater]
        rfl

end Traversal

/-- The path that an entry is shown under. -/
def entryKey (root directory name : Path) : String := ((directory.join name).below root).shown

def entryMember (files : Files) (settings : Settings) (root directory name : Path) :
    String × Json.Value :=
  (entryKey root directory name, (reportOf files settings (directory.join name)).toValue)

section Members

variable {env : Environment} {settings : Settings} {root directory : Path} {names : List Path}

theorem entryKey_inj {name name' : Path} (h : name.IsEntryName) (h' : name'.IsEntryName) :
    entryKey root directory name = entryKey root directory name' ↔ name.shown = name'.shown := by
  rw [entryKey, entryKey, Path.below_join root directory h, Path.below_join root directory h',
    Path.shown_join_inj]

theorem Lists.isEntryName_of_input {files : Files} {kind : InputKind}
    (h : Lists files directory names) {name : Path} (hname : name ∈ inputNames kind names) :
    name.IsEntryName :=
  h.isEntryName name (mem_inputNames.mp hname).1

theorem Lists.entryKeys_nodup {files : Files} {kind : InputKind} (h : Lists files directory names)
    (happart : ShownApart (inputNames kind names)) (root : Path) :
    ((inputNames kind names).map (entryKey root directory)).Nodup := by
  refine happart.of_map.map_on fun name hname name' hname' heq => ?_
  rw [entryKey_inj (h.isEntryName_of_input hname) (h.isEntryName_of_input hname')] at heq
  exact List.inj_on_of_nodup_map happart hname hname' heq

theorem absolute_join {name : Path} (hname : name.IsEntryName) :
    env.absolute (directory.join name) =
      (env.root directory).map fun root => (directory.join name).below root := by
  rw [Environment.absolute, Environment.root, Path.root?_join directory hname, ← Environment.root]

theorem extractMember_eq (hroot : env.root directory = .ok root) {name : Path}
    (hname : name.IsEntryName) :
    extractMember env settings (directory.join name) =
      (reportOn env settings (directory.join name)).map fun report =>
        (entryKey root directory name, report.toValue) := by
  rw [extractMember, absolute_join hname, hroot]
  cases reportOn env settings (directory.join name) <;> rfl

theorem extractMember_eq_member (hroot : env.root directory = .ok root) {name : Path}
    (hname : name.IsEntryName) (hwhole : ¬ BreaksDownAt env.files settings (directory.join name)) :
    extractMember env settings (directory.join name) =
      .ok (entryMember env.files settings root directory name) := by
  rw [extractMember_eq hroot hname, reportOn_eq_reportOf hwhole]
  rfl

theorem extractMember_broken (hroot : env.root directory = .ok root) {name : Path}
    (hname : name.IsEntryName) (hbroken : BreaksDownAt env.files settings (directory.join name)) :
    extractMember env settings (directory.join name) = .error .brokenDown := by
  rw [extractMember_eq hroot hname, hbroken.reportOn_eq]
  rfl

theorem extractValue_unlisted {message : String}
    (hdirectory : env.files.isDirectory directory = true)
    (hlisting : env.files.entryNames directory = .error message) :
    extractValue env settings directory = .error (.failed message) := by
  rw [extractValue, if_pos hdirectory, directoryInputs, hlisting]
  rfl

theorem directoryInputs_listed {files : Files} {kind : InputKind}
    (h : Lists files directory names) :
    directoryInputs files kind directory = .ok ((inputNames kind names).map directory.join) := by
  rw [directoryInputs, h.entryNames]

theorem extractValue_listed (hlists : Lists env.files directory names) :
    extractValue env settings directory =
      ((inputNames settings.kind names).mapM fun name =>
        extractMember env settings (directory.join name)).map fun members =>
          .object (Ordered.ofEntries members) := by
  rw [extractValue, if_pos hlists.isDirectory, directoryInputs_listed hlists]
  simp only [bind, Except.bind, List.mapM_map, Function.comp_def]
  cases (inputNames settings.kind names).mapM fun name =>
    extractMember env settings (directory.join name) <;> rfl

theorem extractValue_unrooted {message : String} {first : Path} {rest : List Path}
    (hlists : Lists env.files directory names) (hroot : env.root directory = .error message)
    (hinputs : inputNames settings.kind names = first :: rest)
    (hwhole : ¬ BreaksDownAt env.files settings (directory.join first)) :
    extractValue env settings directory = .error (.failed message) := by
  have hinput : first ∈ inputNames settings.kind names := hinputs ▸ List.mem_cons_self
  have hfirst : extractMember env settings (directory.join first) = .error (.failed message) := by
    rw [extractMember, absolute_join (hlists.isEntryName_of_input hinput), hroot,
      reportOn_eq_reportOf hwhole]
    rfl
  rw [extractValue_listed hlists, hinputs, List.mapM_cons, hfirst]
  rfl

def directoryMembers (files : Files) (settings : Settings) (root directory : Path)
    (names : List Path) : List (String × Json.Value) :=
  (inputNames settings.kind names).map (entryMember files settings root directory)

theorem extractValue_whole (hlists : Lists env.files directory names)
    (hroot : env.root directory = .ok root)
    (hwhole : ∀ name ∈ inputNames settings.kind names,
      ¬ BreaksDownAt env.files settings (directory.join name)) :
    extractValue env settings directory =
      .ok (.object
        (Ordered.ofEntries (directoryMembers env.files settings root directory names))) := by
  rw [extractValue_listed hlists, mapM_eq_ok fun name hname =>
    extractMember_eq_member hroot (hlists.isEntryName_of_input hname) (hwhole name hname)]
  rfl

theorem extractValue_directory (hlists : Lists env.files directory names)
    (happart : ShownApart (inputNames settings.kind names)) (hroot : env.root directory = .ok root)
    (hwhole : ∀ name ∈ inputNames settings.kind names,
      ¬ BreaksDownAt env.files settings (directory.join name)) :
    extractValue env settings directory =
      .ok (.object (directoryMembers env.files settings root directory names)) := by
  have hkeys : ((directoryMembers env.files settings root directory names).map Prod.fst).Nodup := by
    rw [directoryMembers, List.map_map]
    exact hlists.entryKeys_nodup happart root
  rw [extractValue_whole hlists hroot hwhole, Ordered.ofEntries_eq_self hkeys]

theorem extractValue_directory_broken (hlists : Lists env.files directory names)
    (hroot : env.root directory = .ok root)
    (hbroken : ∃ name ∈ inputNames settings.kind names,
      BreaksDownAt env.files settings (directory.join name)) :
    extractValue env settings directory = .error .brokenDown := by
  have hmember (name : Path) (hname : name ∈ inputNames settings.kind names) :
      extractMember env settings (directory.join name) = .error .brokenDown ∨
        extractMember env settings (directory.join name) =
          .ok (entryMember env.files settings root directory name) := by
    have hentry := hlists.isEntryName_of_input hname
    by_cases h : BreaksDownAt env.files settings (directory.join name)
    · exact .inl (extractMember_broken hroot hentry h)
    · exact .inr (extractMember_eq_member hroot hentry h)
  obtain ⟨name, hname, hbroken⟩ := hbroken
  rw [extractValue_listed hlists, mapM_eq_error hmember
    ⟨name, hname, extractMember_broken hroot (hlists.isEntryName_of_input hname) hbroken⟩]
  rfl

theorem extractValue_file {path : Path} (h : env.files.isDirectory path = false) :
    extractValue env settings path = (reportOn env settings path).map Report.toValue := by
  rw [extractValue, h, if_neg Bool.false_ne_true]
  cases reportOn env settings path <;> rfl

end Members

structure DiffersOnlyAt (files files' : Files) (directory : Path) (names names' : List Path)
    (name : Path) : Prop where
  names : (names'.filter (· ≠ name)).Perm (names.filter (· ≠ name))
  content : ∀ other, other ≠ name →
    files'.content? (directory.join other) = files.content? (directory.join other)

section Changes

variable {files files' : Files} {settings : Settings} {directory name : Path}
  {names names' : List Path}

theorem DiffersOnlyAt.mem_inputNames_iff
    (h : DiffersOnlyAt files files' directory names names' name) (kind : InputKind) {other : Path}
    (hne : other ≠ name) : other ∈ inputNames kind names' ↔ other ∈ inputNames kind names := by
  have hmem := h.names.mem_iff (a := other)
  simp only [List.mem_filter, hne, ne_eq, not_false_eq_true, decide_true, and_true] at hmem
  rw [mem_inputNames, mem_inputNames, hmem]

/-- Where nothing breaks down before the change, only the new entry can make the run break down. -/
theorem DiffersOnlyAt.whole (h : DiffersOnlyAt files files' directory names names' name)
    (hwhole : ∀ other ∈ inputNames settings.kind names,
      ¬ BreaksDownAt files settings (directory.join other))
    (hname : name ∈ inputNames settings.kind names' →
      ¬ BreaksDownAt files' settings (directory.join name)) :
    ∀ other ∈ inputNames settings.kind names',
      ¬ BreaksDownAt files' settings (directory.join other) := by
  intro other hother hbroken
  by_cases hne : other = name
  · subst hne
    exact hname hother hbroken
  · exact hwhole other ((h.mem_inputNames_iff settings.kind hne).mp hother)
      (hbroken.congr (h.content other hne).symm)

theorem DiffersOnlyAt.directoryMembers_eq
    (h : DiffersOnlyAt files files' directory names names' name) (root : Path) :
    (directoryMembers files' settings root directory names').filter
        (·.1 ≠ entryKey root directory name) =
      (directoryMembers files settings root directory names).filter
        (·.1 ≠ entryKey root directory name) := by
  -- What is shown under another path has another name, too.
  have hothers (files : Files) (names : List Path) :
      (directoryMembers files settings root directory names).filter
          (·.1 ≠ entryKey root directory name) =
        (((inputNames settings.kind names).filter (· ≠ name)).map
          (entryMember files settings root directory)).filter
            (·.1 ≠ entryKey root directory name) := by
    rw [directoryMembers, List.filter_map, List.filter_map, List.filter_filter]
    refine congrArg _ (List.filter_congr fun other _ => ?_)
    by_cases hname : other = name <;> simp [hname, entryMember]
  rw [hothers files', hothers files, ← inputNames_filter, ← inputNames_filter,
    inputNames_perm h.names]
  refine congrArg _ (List.map_congr_left fun other hmem => ?_)
  rw [inputNames_filter] at hmem
  have hne : other ≠ name := by simpa using (List.mem_filter.mp hmem).2
  rw [entryMember, entryMember, reportOf_congr (h.content other hne)]

end Changes

/-! ## Main result -/

theorem run_extract {env : Environment} {config : Config} (options : InputOptions)
    (noResolve pretty : Bool) (hconfig : configOf env.files options.config = .ok config) :
    run env (.extract options noResolve pretty) =
      (extractValue env (settingsOf options noResolve pretty config) options.input).map fun value =>
        .printed (printedValue (pretty || config.pretty.getD false) value ++ "\n") := by
  rw [run, Command.options, hconfig]
  cases hvalue : extractValue env (settingsOf options noResolve pretty config) options.input <;>
    simp only [bind, Except.bind, hvalue] <;> rfl

@[simp] theorem FileTree.files_environment (tree : FileTree) (workingDirectory : Path) :
    (tree.environment workingDirectory).files = tree.files := rfl

theorem FileTree.run_of_printed {tree : FileTree} {workingDirectory : Path} {text : String}
    {arguments : List String} {command : Command}
    (hcommand : Command.ofArguments arguments = .ok command)
    (hrun : CommandLine.run (tree.environment workingDirectory) command = .ok (.printed text)) :
    tree.run workingDirectory arguments = ({ exitCode := 0, output := text }, tree) := by
  rw [FileTree.run, hcommand]
  dsimp only
  rw [hrun]

theorem FileTree.run_of_abort {tree : FileTree} {workingDirectory : Path} {abort : Abort}
    {arguments : List String} {command : Command}
    (hcommand : Command.ofArguments arguments = .ok command)
    (hrun : CommandLine.run (tree.environment workingDirectory) command = .error abort) :
    tree.run workingDirectory arguments = (.ofAbort abort, tree) := by
  rw [FileTree.run, hcommand]
  dsimp only
  rw [hrun]

theorem run_extract_broken {env : Environment} {config : Config} {root : Path} {names : List Path}
    (options : InputOptions) (noResolve pretty : Bool)
    (hconfig : configOf env.files options.config = .ok config)
    (hlists : Lists env.files options.input names)
    (hroot : env.root options.input = .ok root)
    (hbroken : ∃ name ∈ inputNames options.kind names,
      BreaksDownAt env.files (settingsOf options noResolve pretty config)
        (options.input.join name)) :
    run env (.extract options noResolve pretty) = .error .brokenDown := by
  have hvalue : extractValue env (settingsOf options noResolve pretty config) options.input =
      .error .brokenDown := extractValue_directory_broken hlists hroot hbroken
  rw [run_extract options noResolve pretty hconfig, hvalue]
  rfl

theorem extract_directory {env : Environment} {config : Config} (options : InputOptions)
    (noResolve pretty : Bool) (hconfig : configOf env.files options.config = .ok config)
    (hdirectory : env.files.isDirectory options.input = true) :
    (∀ message, env.files.entryNames options.input = .error message →
      run env (.extract options noResolve pretty) = .error (.failed message)) ∧
    ∀ names, Lists env.files options.input names →
      (∀ message first rest, env.root options.input = .error message →
        inputNames options.kind names = first :: rest →
        ¬ BreaksDownAt env.files (settingsOf options noResolve pretty config)
          (options.input.join first) →
        run env (.extract options noResolve pretty) = .error (.failed message)) ∧
      ∀ root, env.root options.input = .ok root →
        (run env (.extract options noResolve pretty) = .error .brokenDown ↔
          ∃ name ∈ inputNames options.kind names,
            BreaksDownAt env.files (settingsOf options noResolve pretty config)
              (options.input.join name)) ∧
        (ShownApart (inputNames options.kind names) →
          (∀ name ∈ inputNames options.kind names,
            ¬ BreaksDownAt env.files (settingsOf options noResolve pretty config)
              (options.input.join name)) →
          ∃ (entries : List Path) (shown : Path → Json.Value) (text : String),
            entries.Pairwise (· < ·) ∧
            (∀ name, name ∈ entries ↔
              name ∈ names ∧ name.extension? = some (options.kind.extension : Path)) ∧
            (entries.map (entryKey root options.input)).Nodup ∧
            text = printedValue (pretty || config.pretty.getD false)
              (.object (entries.map fun name =>
                (entryKey root options.input name, shown name))) ++ "\n" ∧
            run env (.extract options noResolve pretty) = .ok (.printed text) ∧
            (∀ (tree : FileTree) (workingDirectory : Path) (arguments : List String),
              tree.environment workingDirectory = env →
              Command.ofArguments arguments = .ok (.extract options noResolve pretty) →
              tree.run workingDirectory arguments = ({ exitCode := 0, output := text }, tree)) ∧
            (∀ name ∈ entries, env.files.isDirectory (options.input.join name) = false →
              run env (.extract { options with input := options.input.join name } noResolve pretty) =
                .ok (.printed
                  (printedValue (pretty || config.pretty.getD false) (shown name) ++ "\n"))) ∧
            (∀ name ∈ entries,
              (∃ failure, readRecords env.files options.kind (options.input.join name) =
                  .error failure ∧
                shown name =
                  .object [("error", .string (failureText (options.input.join name) failure))]) ∨
              ∃ records items, readRecords env.files options.kind (options.input.join name) =
                  .ok records ∧ shown name = .array items) ∧
            ∀ (files' : Files) (names' : List Path) (changed : Path),
              Lists files' options.input names' → ShownApart (inputNames options.kind names') →
              DiffersOnlyAt env.files files' options.input names names' changed →
              configOf files' options.config = .ok config →
              (changed ∈ inputNames options.kind names' →
                ¬ BreaksDownAt files' (settingsOf options noResolve pretty config)
                  (options.input.join changed)) →
              ∃ members, run { env with files := files' } (.extract options noResolve pretty) =
                  .ok (.printed
                    (printedValue (pretty || config.pretty.getD false) (.object members) ++ "\n")) ∧
                members.filter (·.1 ≠ entryKey root options.input changed) =
                  (entries.map fun name => (entryKey root options.input name, shown name)).filter
                    (·.1 ≠ entryKey root options.input changed)) := by
  refine ⟨fun message hlisting => ?_, fun names hlists => ?_⟩
  · rw [run_extract options noResolve pretty hconfig, extractValue_unlisted hdirectory hlisting]
    rfl
  have hrun := run_extract options noResolve pretty hconfig
  have hkind : (settingsOf options noResolve pretty config).kind = options.kind := rfl
  rw [← hkind]
  refine ⟨fun message first rest hroot hinputs hfirst => ?_, fun root hroot => ⟨⟨?_, ?_⟩, ?_⟩⟩
  · rw [hrun, extractValue_unrooted hlists hroot hinputs hfirst]
    rfl
  · intro hbroken
    by_contra hnone
    rw [hrun, extractValue_whole hlists hroot fun name hname h => hnone ⟨name, hname, h⟩] at hbroken
    cases hbroken
  · exact run_extract_broken options noResolve pretty hconfig hlists hroot
  intro happart hwhole
  rw [extractValue_directory hlists happart hroot hwhole] at hrun
  refine ⟨inputNames (settingsOf options noResolve pretty config).kind names,
    fun name => (reportOf env.files (settingsOf options noResolve pretty config)
      (options.input.join name)).toValue, _, happart.pairwise_lt,
    fun name => mem_inputNames, hlists.entryKeys_nodup happart root, rfl, hrun, ?_, ?_, ?_, ?_⟩
  · rintro tree workingDirectory arguments rfl hcommand
    exact FileTree.run_of_printed hcommand hrun
  · intro name hname hfile
    have hsettings : settingsOf { options with input := options.input.join name } noResolve pretty
        config = settingsOf options noResolve pretty config := rfl
    rw [run_extract { options with input := options.input.join name } noResolve pretty hconfig,
      extractValue_file hfile, hsettings, reportOn_eq_reportOf (hwhole name hname)]
    rfl
  · intro name _
    exact toValue_reportOf env.files (settingsOf options noResolve pretty config)
      (options.input.join name)
  · intro files' names' changed hlists' happart' hdiffers hconfig' hchanged
    have hwhole' := hdiffers.whole hwhole hchanged
    have hrun' : run { env with files := files' } (.extract options noResolve pretty) = _ :=
      run_extract options noResolve pretty hconfig'
    have hvalue' : extractValue { env with files := files' }
        (settingsOf options noResolve pretty config) options.input = _ :=
      extractValue_directory hlists' happart' hroot hwhole'
    rw [hrun', hvalue']
    exact ⟨_, rfl, hdiffers.directoryMembers_eq root⟩

def importText (query : String) : List Char :=
  "\x7b\"model\":\x7b\"tables\":[\x7b\"name\":\"T\",\"partitions\":[\x7b".toList ++
    ("\"name\":\"P\",\"mode\":\"import\",\"source\":\x7b\"type\":\"m\",".toList ++
      ("\"expression\":[\"let\",\"S = Sql.Database(\\\"h\\\", \\\"d\\\", [Query=\\\"".toList ++
        (query.toList ++ "\\\"])\"]\x7d\x7d]\x7d]\x7d\x7d".toList)))

def importFile (query : String) : FileNode := .file (String.ofList (importText query)).toUTF8

/-- A directory of two documents, one of which is cut off, and a directory. -/
def cutOffDirectory : FileTree :=
  [(["d"], .directory), (["d", "b.json"], .file "\x7b".toUTF8),
    (["d", "a.json"], importFile "SELECT 1 FROM a"), (["d", "c.json"], .directory)]

theorem lists_cutOffDirectory : Lists cutOffDirectory.files "d" ["b.json", "a.json", "c.json"] :=
  ⟨by decide +kernel, by decide +kernel, by decide +kernel⟩

theorem extract_directory_cutOff :
    ∃ (entries : List Path) (shown : Path → Json.Value) (text : String),
      entries.Pairwise (· < ·) ∧
      (∀ name, name ∈ entries ↔ name ∈ (["b.json", "a.json", "c.json"] : List Path) ∧
        name.extension? = some "json") ∧
      text = printedValue false (.object (entries.map fun name =>
        (entryKey "/w" "d" name, shown name))) ++ "\n" ∧
      cutOffDirectory.run "/w" ["extract", "d", "--schema-json"] =
        ({ exitCode := 0, output := text }, cutOffDirectory) ∧
      run (cutOffDirectory.environment "/w")
          (.extract { input := (Path.ofString "d").join "a.json", schemaJson := true } false false) =
        .ok (.printed (printedValue false (shown "a.json") ++ "\n")) ∧
      ∃ members, run { cutOffDirectory.environment "/w" with
            files := { cutOffDirectory.files with entryNames := fun _ => .ok ["a.json", "c.json"] } }
          (.extract { input := "d", schemaJson := true } false false) =
            .ok (.printed (printedValue false (.object members) ++ "\n")) ∧
        members.filter (·.1 ≠ entryKey "/w" "d" "b.json") =
          (entries.map fun name => (entryKey "/w" "d" name, shown name)).filter
            (·.1 ≠ entryKey "/w" "d" "b.json") := by
  have hwhole (files : Files) (path : Path) : ¬ BreaksDownAt files { kind := .schema } path :=
    not_breaksDownAt_schema rfl fun _ => by decide
  have hdirectory := @extract_directory (cutOffDirectory.environment "/w") {}
    { input := "d", schemaJson := true } false false rfl lists_cutOffDirectory.isDirectory
  obtain ⟨entries, shown, text, hsorted, hmem, -, htext, -, hexit, hfile, -, hchange⟩ :=
    ((hdirectory.2 _ lists_cutOffDirectory).2 "/w" rfl).2
      (@shownApart_of_text .schema ["b.json", "a.json", "c.json"] (by decide)) fun _ _ => hwhole _ _
  have hcommand : Command.ofArguments ["extract", "d", "--schema-json"] =
      .ok (.extract { input := "d", schemaJson := true } false false) := by decide +kernel
  have hinput : (Path.ofString "a.json") ∈ entries := (hmem _).mpr ⟨by decide, by decide⟩
  have hremoved : DiffersOnlyAt cutOffDirectory.files
      { cutOffDirectory.files with entryNames := fun _ => .ok ["a.json", "c.json"] } "d"
      ["b.json", "a.json", "c.json"] ["a.json", "c.json"] "b.json" :=
    ⟨by decide, fun _ _ => rfl⟩
  exact ⟨entries, shown, text, hsorted, hmem, htext, hexit _ _ _ rfl hcommand,
    hfile _ hinput (by decide +kernel),
    hchange _ _ _ ⟨lists_cutOffDirectory.isDirectory, rfl, by decide⟩
      (@shownApart_of_text .schema ["a.json", "c.json"] (by decide)) hremoved rfl fun _ =>
        hwhole _ _⟩

/-! ## Where the run breaks down -/

/-- An archive whose schema entry has the details of a cipher and no mark that it is encrypted. -/
def unmarkedArchive : ByteArray where
  data := List.toArray <|
    -- a local header, the header in the directory and the end record
    [0x50, 0x4B, 3, 4] ++ List.replicate 26 0 ++
    [0x50, 0x4B, 1, 2] ++ List.replicate 24 0 ++ [15, 0, 11, 0] ++ List.replicate 14 0 ++
      "DataModelSchema".toUTF8.data.toList ++ [0x01, 0x99, 7, 0, 1, 0, 0x41, 0x45, 1, 0, 0] ++
    [0x50, 0x4B, 5, 6, 0, 0, 0, 0, 1, 0, 1, 0, 72, 0, 0, 0, 30, 0, 0, 0, 0, 0]

def unmarkedDirectory : FileTree :=
  [(["d"], .directory), (["d", "a.pbit"], .file unmarkedArchive),
    (["d", "b.pbit"], .file "x".toUTF8)]

theorem breaksDownAt_unmarked :
    BreaksDownAt unmarkedDirectory.files {} ((Path.ofString "d").join "a.pbit") :=
  .cipher rfl rfl (Archive.readSchema_eq_unmarkedCipher_iff.mp (by decide +kernel))

theorem lists_unmarkedDirectory : Lists unmarkedDirectory.files "d" ["a.pbit", "b.pbit"] :=
  ⟨by decide +kernel, by decide +kernel, by decide +kernel⟩

def dividingDirectory : FileTree :=
  [(["d"], .directory), (["d", "a.json"], importFile "SELECT 1 DIV")]

theorem lists_dividingDirectory : Lists dividingDirectory.files "d" ["a.json"] :=
  ⟨by decide +kernel, by decide +kernel, by decide +kernel⟩

theorem breaksDownAt_dividing :
    BreaksDownAt dividingDirectory.files { kind := .schema, dialect := .mysql }
      ((Path.ofString "d").join "a.json") := by
  have hread : readRecords dividingDirectory.files .schema ((Path.ofString "d").join "a.json") =
      .ok [⟨"P", "h", "d", " [Query=\"SELECT 1 DIV\"])", "SELECT 1 DIV", false⟩] := by
    rw [readRecords_of_text rfl]
    decide +kernel
  exact .division rfl rfl hread List.mem_cons_self (by decide) (by decide +kernel)

theorem extract_directory_brokenDown :
    (∃ text, run (unmarkedDirectory.environment "/w")
      (.extract { input := "d/b.pbit" } false false) = .ok (.printed text)) ∧
    run (unmarkedDirectory.environment "/w") (.extract { input := "d" } false false) =
      .error .brokenDown ∧
    (unmarkedDirectory.run "/w" ["extract", "d"]).1 = { exitCode := 101 } ∧
    (dividingDirectory.run "/w" ["extract", "d", "--schema-json", "--dialect", "mysql"]).1 =
      { exitCode := 101 } := by
  have hunmarked : run (unmarkedDirectory.environment "/w")
      (.extract { input := "d" } false false) = .error .brokenDown :=
    run_extract_broken { input := "d" } false false rfl lists_unmarkedDirectory rfl
      ⟨"a.pbit", mem_inputNames.mpr ⟨by decide, by decide⟩, breaksDownAt_unmarked⟩
  have hdividing : run (dividingDirectory.environment "/w")
      (.extract { input := "d", schemaJson := true, dialect := some .mysql } false false) =
        .error .brokenDown :=
    run_extract_broken { input := "d", schemaJson := true, dialect := some .mysql } false false rfl
      lists_dividingDirectory rfl
      ⟨"a.json", mem_inputNames.mpr ⟨by decide, by decide⟩, breaksDownAt_dividing⟩
  have hcommand : Command.ofArguments ["extract", "d"] =
      .ok (.extract { input := "d" } false false) := by decide +kernel
  have hcommand' : Command.ofArguments ["extract", "d", "--schema-json", "--dialect", "mysql"] =
      .ok (.extract { input := "d", schemaJson := true, dialect := some .mysql } false false) := by
    decide +kernel
  refine ⟨⟨_, rfl⟩, hunmarked, ?_, ?_⟩
  · rw [FileTree.run_of_abort hcommand hunmarked]
    rfl
  · rw [FileTree.run_of_abort hcommand' hdividing]
    rfl

end TableLineage.CommandLine
