import TableLineage.CommandLine.Run
import TableLineage.Proofs.Lineage.Schedule

/-!
# Inputs at which a run breaks down

There are two causes.  The schema entry of a template has the details of a
cipher and is not marked as encrypted, or a query that is to be resolved in the
dialect of MySQL cannot be read behind the operator `DIV`.  Every other input
has a report, be it of an error, and its records are resolved to the same end
whether one by one or side by side.
-/

namespace TableLineage.Archive

/-- Nothing keeps the schema entry from being unpacked but the details of a cipher, although the
entry is not marked as encrypted. -/
inductive UnmarkedCipher (archive : ByteArray) : Prop
  | intro {all : List Entry} {entry : Entry} {packed : Method × List UInt8} :
      entries archive = .ok all → findEntry? schemaEntryName all = some entry →
        entry.encrypted = false → packedData archive entry = .ok packed → entry.ciphered = true →
          UnmarkedCipher archive

theorem encrypted_of_packedData {archive : ByteArray} {entry : Entry}
    {packed : Method × List UInt8} (h : packedData archive entry = .ok packed) :
    entry.encrypted = false := by
  rw [← Bool.not_eq_true]
  intro hencrypted
  rw [packedData, if_pos hencrypted] at h
  cases h

theorem readEntry_eq_unmarkedCipher_iff {archive : ByteArray} {entry : Entry} :
    readEntry archive entry = .error .unmarkedCipher ↔
      (∃ packed, packedData archive entry = .ok packed) ∧ entry.ciphered = true := by
  rw [readEntry]
  cases packedData archive entry with
  | error fault => simp [Except.mapError, bind, Except.bind]
  | ok packed =>
      cases entry.ciphered with
      | true => simp [Except.mapError, bind, Except.bind]
      | false =>
          cases hbytes : packed.1.unpack packed.2 with
          | error flaw => simp [Except.mapError, bind, Except.bind, hbytes]
          | ok bytes =>
              by_cases hsum : (Crc32.ofBytes bytes).toNat = entry.checksum <;>
                simp [Except.mapError, bind, Except.bind, hbytes, hsum]

theorem readSchema_eq_unmarkedCipher_iff {archive : ByteArray} :
    readSchema archive = .error .unmarkedCipher ↔ UnmarkedCipher archive := by
  constructor
  · intro h
    rw [readSchema] at h
    split at h
    · cases h
    · next all hall =>
        split at h
        · cases h
        · next entry hentry =>
            split at h
            · next error herror =>
                cases h
                obtain ⟨⟨packed, hpacked⟩, hciphered⟩ := readEntry_eq_unmarkedCipher_iff.mp herror
                exact .intro hall hentry (encrypted_of_packedData hpacked) hpacked hciphered
            · next bytes _ =>
                cases hdecode : Text.Utf16.decode bytes <;> rw [hdecode] at h <;> cases h
  · rintro ⟨hall, hentry, -, hpacked, hciphered⟩
    have herror := readEntry_eq_unmarkedCipher_iff.mpr ⟨⟨_, hpacked⟩, hciphered⟩
    rw [readSchema, hall]
    dsimp only
    rw [hentry]
    dsimp only
    rw [herror]

end TableLineage.Archive

namespace TableLineage.CommandLine

open Lineage

inductive BreaksDownAt (files : Files) (settings : Settings) (path : Path) : Prop
  | cipher {archive : ByteArray} :
      settings.kind = .template → files.content? path = some archive →
        Archive.UnmarkedCipher archive → BreaksDownAt files settings path
  | division {records : List Record} {record : Record} :
      settings.resolve = true → settings.dialect = .mysql →
        readRecords files settings.kind path = .ok records → record ∈ records →
          isBlankText record.query = false → Sql.breaksDown .mysql record.query = true →
            BreaksDownAt files settings path

section Causes

variable {files : Files} {settings : Settings} {kind : InputKind} {path : Path}

theorem breaksDown_failure_iff {failure : InputFailure} :
    failure.breaksDown = true ↔ failure = .malformed (.template .unmarkedCipher) := by
  match failure with
  | .unreadable .. | .malformed (.document _) =>
      simp [InputFailure.breaksDown, InputError.breaksDown]
  | .malformed (.template error) =>
      cases error <;>
        simp [InputFailure.breaksDown, InputError.breaksDown, Archive.TemplateError.breaksDown]

theorem extractTemplate_eq_unmarkedCipher_iff {archive : ByteArray} :
    extractTemplate archive = .error (.template .unmarkedCipher) ↔
      Archive.UnmarkedCipher archive := by
  rw [← Archive.readSchema_eq_unmarkedCipher_iff, extractTemplate]
  cases Archive.readSchema archive with
  | error error => simp
  | ok text => cases hdocument : extractText text <;> simp [Except.mapError, hdocument]

theorem readTemplate_eq_unmarkedCipher_iff :
    readTemplate files path = .error (.malformed (.template .unmarkedCipher)) ↔
      ∃ archive, files.content? path = some archive ∧ Archive.UnmarkedCipher archive := by
  simp only [← extractTemplate_eq_unmarkedCipher_iff]
  rw [readTemplate]
  cases files.content? path with
  | none => simp
  | some archive => cases htemplate : extractTemplate archive <;> simp [Except.mapError, htemplate]

theorem readDocument_ne_unmarkedCipher :
    readDocument files path ≠ .error (.malformed (.template .unmarkedCipher)) := by
  rw [readDocument]
  cases files.content? path >>= String.fromUTF8? with
  | none => simp
  | some text => cases hdocument : extractText text.toList <;> simp [Except.mapError, hdocument]

theorem readRecords_eq_unmarkedCipher_iff :
    readRecords files kind path = .error (.malformed (.template .unmarkedCipher)) ↔
      kind = .template ∧
        ∃ archive, files.content? path = some archive ∧ Archive.UnmarkedCipher archive := by
  cases kind with
  | template =>
      rw [← readTemplate_eq_unmarkedCipher_iff, readRecords]
      cases readTemplate files path <;> simp [Except.map]
  | schema =>
      have hdocument : readDocument files path ≠ .error (.malformed (.template .unmarkedCipher)) :=
        readDocument_ne_unmarkedCipher
      rw [readRecords]
      cases hread : readDocument files path with
      | ok extraction => simp [Except.map]
      | error failure =>
          rw [hread] at hdocument
          simpa [Except.map] using hdocument

/-- The reading of SQL can only break down in a dialect that has the operator `DIV`. -/
theorem dialect_of_breaksDown {dialect : Sql.Dialect} {query : String}
    (h : Sql.breaksDown dialect query = true) : dialect = .mysql := by
  rw [Sql.breaksDown] at h
  split at h
  · next divides _ => exact eq_of_beq divides
  · cases h

theorem resolutionBreaksDown_iff {dialect : Sql.Dialect} {records : List Record} :
    resolutionBreaksDown dialect records = true ↔
      dialect = .mysql ∧ ∃ record ∈ records,
        isBlankText record.query = false ∧ Sql.breaksDown .mysql record.query = true := by
  rw [resolutionBreaksDown, List.any_eq_true]
  simp only [Bool.and_eq_true, Bool.not_eq_true']
  constructor
  · rintro ⟨record, hrecord, hblank, hbroken⟩
    obtain rfl := dialect_of_breaksDown hbroken
    exact ⟨rfl, record, hrecord, hblank, hbroken⟩
  · rintro ⟨rfl, hrecord⟩
    exact hrecord

/-- What is resolved in another dialect, or not at all, breaks down for its archive only. -/
theorem breaksDownAt_iff_cipher (h : settings.resolve = true → settings.dialect ≠ .mysql) :
    BreaksDownAt files settings path ↔ settings.kind = .template ∧
      ∃ archive, files.content? path = some archive ∧ Archive.UnmarkedCipher archive := by
  constructor
  · intro hbreaks
    cases hbreaks with
    | cipher hkind hcontent hcipher => exact ⟨hkind, _, hcontent, hcipher⟩
    | division hresolve hdialect => exact absurd hdialect (h hresolve)
  · rintro ⟨hkind, archive, hcontent, hcipher⟩
    exact .cipher hkind hcontent hcipher

theorem not_breaksDownAt_schema (hkind : settings.kind = .schema)
    (h : settings.resolve = true → settings.dialect ≠ .mysql) :
    ¬ BreaksDownAt files settings path := by
  rw [breaksDownAt_iff_cipher h, hkind]
  exact fun hbreaks => InputKind.noConfusion hbreaks.1

theorem readRecords_congr {files' : Files} (h : files'.content? path = files.content? path) :
    readRecords files' kind path = readRecords files kind path := by
  simp only [readRecords, readTemplate, readDocument, h]

theorem readRecords_of_text {text : List Char}
    (h : files.content? path = some (String.ofList text).toUTF8) :
    readRecords files .schema path =
      ((extractText text).mapError fun error => InputFailure.malformed (.document error)).map
        Extraction.records := by
  have htext : String.fromUTF8? (String.ofList text).toUTF8 = some (String.ofList text) :=
    dif_pos (String.ofList text).isValidUTF8
  rw [readRecords, readDocument, h]
  simp only [Option.bind_eq_bind, Option.bind_some, htext, String.toList_ofList]

theorem BreaksDownAt.congr {files' : Files} (h : BreaksDownAt files settings path)
    (hfile : files'.content? path = files.content? path) : BreaksDownAt files' settings path := by
  cases h with
  | cipher hkind hcontent hcipher => exact .cipher hkind (hfile.trans hcontent) hcipher
  | division hresolve hdialect hread hmem hblank hbroken =>
      exact .division hresolve hdialect ((readRecords_congr hfile).trans hread) hmem hblank hbroken

end Causes

/-! ## Reports -/

def reportOf (files : Files) (settings : Settings) (path : Path) : Report :=
  match readRecords files settings.kind path with
  | .error failure => .failed (failureText path failure)
  | .ok records =>
      if settings.resolve then .resolved (resolveAll (sqlResolver settings.dialect) records)
      else .unresolved records

section Reports

variable {files files' : Files} {settings : Settings} {path : Path}

theorem resolveInput_eq (env : Environment) (settings : Settings) (path : Path)
    (records : List Record) :
    resolveInput env settings path records =
      if resolutionBreaksDown settings.dialect records then .error .brokenDown
      else .ok (resolveAll (sqlResolver settings.dialect) records) := by
  rw [resolveInput]
  split
  · rfl
  · cases settings.parallel with
    | true => exact congrArg Except.ok (resolveSideBySide_eq ..)
    | false => rfl

/-- Settings that differ only in the layout and in the order of the work. -/
structure Settings.Alike (settings settings' : Settings) : Prop where
  kind : settings'.kind = settings.kind
  dialect : settings'.dialect = settings.dialect
  resolve : settings'.resolve = settings.resolve

theorem resolveInput_congr {settings' : Settings} (h : settings.Alike settings')
    (env : Environment) (schedule : Path → Schedule) :
    resolveInput { env with schedule } settings' = resolveInput env settings := by
  funext path records
  rw [resolveInput_eq, resolveInput_eq, h.dialect]

theorem reportOn_congr {settings' : Settings} (h : settings.Alike settings') (env : Environment)
    (schedule : Path → Schedule) :
    reportOn { env with schedule } settings' = reportOn env settings := by
  funext path
  simp only [reportOn, resolveInput_congr h, h.kind, h.resolve]

theorem BreaksDownAt.reportOn_eq {env : Environment}
    (h : BreaksDownAt env.files settings path) :
    reportOn env settings path = .error .brokenDown := by
  cases h with
  | cipher hkind hcontent hcipher =>
      have hread := readRecords_eq_unmarkedCipher_iff.mpr ⟨hkind, _, hcontent, hcipher⟩
      rw [reportOn, readInput, hread]
      rfl
  | @division records record hresolve hdialect hread hmem hblank hbroken =>
      have hbreaks : resolutionBreaksDown settings.dialect records = true :=
        resolutionBreaksDown_iff.mpr ⟨hdialect, record, hmem, hblank, hbroken⟩
      rw [reportOn, readInput, hread]
      simp [bind, Except.bind, hresolve, resolveInput_eq, hbreaks]

theorem reportOn_eq_reportOf {env : Environment} (h : ¬ BreaksDownAt env.files settings path) :
    reportOn env settings path = .ok (reportOf env.files settings path) := by
  rw [reportOn, readInput, reportOf]
  cases hread : readRecords env.files settings.kind path with
  | error failure =>
      have hfailure : failure.breaksDown = false := by
        rw [← Bool.not_eq_true, breaksDown_failure_iff]
        rintro rfl
        obtain ⟨hkind, archive, hcontent, hcipher⟩ := readRecords_eq_unmarkedCipher_iff.mp hread
        exact h (.cipher hkind hcontent hcipher)
      simp [bind, Except.bind, hfailure]
  | ok records =>
      cases hresolve : settings.resolve with
      | false => rfl
      | true =>
          have hbreaks : resolutionBreaksDown settings.dialect records = false := by
            rw [← Bool.not_eq_true, resolutionBreaksDown_iff]
            rintro ⟨hdialect, record, hmem, hblank, hbroken⟩
            exact h (.division hresolve hdialect hread hmem hblank hbroken)
          simp [bind, Except.bind, resolveInput_eq, hbreaks]

theorem reportOf_congr (h : files'.content? path = files.content? path) :
    reportOf files' settings path = reportOf files settings path := by
  rw [reportOf, reportOf, readRecords_congr h]

theorem toValue_reportOf (files : Files) (settings : Settings) (path : Path) :
    (∃ failure, readRecords files settings.kind path = .error failure ∧
      (reportOf files settings path).toValue =
        .object [("error", .string (failureText path failure))]) ∨
    ∃ records items, readRecords files settings.kind path = .ok records ∧
      (reportOf files settings path).toValue = .array items := by
  rw [reportOf]
  cases readRecords files settings.kind path with
  | error failure => exact .inl ⟨failure, rfl, rfl⟩
  | ok records =>
      dsimp only
      split <;> exact .inr ⟨records, _, rfl, rfl⟩

end Reports

end TableLineage.CommandLine
