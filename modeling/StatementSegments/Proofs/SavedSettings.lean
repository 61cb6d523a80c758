import StatementSegments.Proofs.WrittenDocuments
import StatementSegments.Settings.File
import StatementSegments.Settings.ToDocument

namespace StatementSegments

open Toml

namespace Toml.Section

/-- What is left of a written section when only the header and the entries of some keys are kept. -/
def writeKept (keep : String → Bool) (s : Section) : List Char :=
  ['['] ++ s.name.toList ++ [']', '\n'] ++
    s.entries.flatMap fun entry => if keep entry.1 then writeEntry entry else []

/-- A section with the entries of some keys only. -/
def keeping (keep : String → Bool) (s : Section) : Section :=
  { s with entries := s.entries.filter fun entry => keep entry.1 }

theorem write_keeping (keep : String → Bool) (s : Section) :
    (s.keeping keep).write = s.writeKept keep := by
  have hentries : (s.entries.filter fun entry => keep entry.1).flatMap writeEntry =
      s.entries.flatMap fun entry => if keep entry.1 then writeEntry entry else [] := by
    induction s.entries with
    | nil => rfl
    | cons entry entries ih =>
        rw [List.filter_cons, List.flatMap_cons, ← ih]
        cases keep entry.1 <;> rfl
  rw [write, writeKept, ← hentries]
  rfl

theorem IsPlain.keeping {s : Section} (h : s.IsPlain) (keep : String → Bool) :
    (s.keeping keep).IsPlain where
  name := h.name
  keys entry hentry := h.keys entry (List.mem_of_mem_filter hentry)
  held entry hentry := h.held entry (List.mem_of_mem_filter hentry)
  nodup := h.nodup.sublist (List.filter_sublist.map Prod.fst)

theorem lookup_keeping (keep : String → Bool) (s : Section) (key : String) :
    (s.keeping keep).values.lookup key = if keep key then s.values.lookup key else none := by
  rw [values, values, Section.keeping]
  dsimp only
  induction s.entries with
  | nil => simp
  | cons entry entries ih =>
      rw [List.filter_cons, List.map_cons]
      by_cases heq : key = entry.1
      · subst heq
        cases hkeep : keep entry.1 with
        | true => simp
        | false => simpa [hkeep] using ih
      · have hskip : (key == entry.1) = false := beq_eq_false_iff_ne.mpr heq
        rw [List.lookup_cons, hskip]
        split
        · rw [List.map_cons, List.lookup_cons, hskip]
          exact ih
        · exact ih

end Toml.Section

namespace Fields

variable {s : Section} (keep : String → Bool)

theorem read_keeping {α : Type} {key : String} {v : Value} (hv : s.values.lookup key = some v)
    {decode : Value → Option α} {a : α} (hdecode : decode v = some a) (position : Nat)
    (default : α) :
    (named (s.keeping keep).values).read position key default decode =
      some (if keep key then a else default) := by
  rw [read, get?, Section.lookup_keeping, hv]
  cases keep key
  · rfl
  · exact hdecode

theorem unknownUsable_keeping {known : List String} (h : ∀ entry ∈ s.entries, entry.1 ∈ known) :
    (named (s.keeping keep).values).unknownUsable known = true := by
  rw [unknownUsable, Section.values, Section.keeping, List.all_map, List.all_eq_true]
  intro entry hentry
  have := h entry (List.mem_of_mem_filter hentry)
  simp [this]

end Fields

namespace Decode

theorem string?_string (text : String) : string? (Plain.string text).toValue = some text :=
  rfl

theorem boolean?_boolean (b : Bool) : boolean? (Plain.boolean b).toValue = some b :=
  rfl

/-- The numbers of 64 bits are the integers that are accepted. -/
theorem number?_natural (n : UInt64) : number? (Plain.natural n.toNat).toValue = some n := by
  have hn := n.toNat_lt_size
  rw [Plain.toValue, number?, if_pos (by omega), Int.toNat_natCast, UInt64.ofNat_toNat]

theorem dialect?_key (d : Dialect) : dialect? (Plain.string d.key).toValue = some d :=
  Dialect.ofKey?_key d

end Decode

namespace Settings

/-- What is left of a saved document when only the headers and the entries of some keys are kept. -/
def documentKeeping (keep : String → Bool) (s : Settings) : String :=
  String.ofList ((s.sections.map (Section.writeKept keep)).intersperse ['\n']).flatten

/-- The settings of some keys, with defaults for all other keys. -/
def keeping (keep : String → Bool) (s : Settings) : Settings where
  log :=
    { level := if keep "level" then s.log.level else ({} : LogSettings).level
      dir := if keep "dir" then s.log.dir else ({} : LogSettings).dir
      file := if keep "file" then s.log.file else ({} : LogSettings).file
      maxFileSize :=
        if keep "max_file_size" then s.log.maxFileSize else ({} : LogSettings).maxFileSize
      maxFiles := if keep "max_files" then s.log.maxFiles else ({} : LogSettings).maxFiles
      toFile := if keep "to_file" then s.log.toFile else ({} : LogSettings).toFile }
  extract :=
    { dialect :=
        if keep "database_type" then s.extract.dialect else ({} : ExtractSettings).dialect }

theorem isPlain_logSection (s : LogSettings) : (logSection s).IsPlain where
  name := by simp [IsBareKey, isBareKeyChar, logSection]
  keys := by simp [IsBareKey, isBareKeyChar, logSection]
  held := by
    have hsize := s.maxFileSize.toNat_lt
    have hfiles := s.maxFiles.toNat_lt
    simp only [logSection, List.forall_mem_cons, List.not_mem_nil, Plain.IsHeld, true_and,
      IsEmpty.forall_iff, implies_true, and_true]
    omega
  nodup := by simp [logSection]

theorem isPlain_extractSection (s : ExtractSettings) : (extractSection s).IsPlain where
  name := by simp [IsBareKey, isBareKeyChar, extractSection]
  keys := by simp [IsBareKey, isBareKeyChar, extractSection]
  held := by simp [extractSection, Plain.IsHeld]
  nodup := by simp [extractSection]

theorem logSettings_keeping (keep : String → Bool) (s : Settings) :
    Decode.logSettings (.named ((logSection s.log).keeping keep).values) =
      some (s.keeping keep).log := by
  have hlevel : (logSection s.log).values.lookup "level" = some (Plain.string _).toValue := rfl
  have hdir : (logSection s.log).values.lookup "dir" = some (Plain.string _).toValue := rfl
  have hfile : (logSection s.log).values.lookup "file" = some (Plain.string _).toValue := rfl
  have hsize : (logSection s.log).values.lookup "max_file_size" =
      some (Plain.natural s.log.maxFileSize.toNat).toValue := rfl
  have hfiles : (logSection s.log).values.lookup "max_files" =
      some (Plain.natural s.log.maxFiles.toNat).toValue := rfl
  have htoFile : (logSection s.log).values.lookup "to_file" = some (Plain.boolean _).toValue := rfl
  have hknown : ∀ entry ∈ (logSection s.log).entries,
      entry.1 ∈ ["level", "dir", "file", "max_file_size", "max_files", "to_file"] := by
    simp [logSection]
  rw [Decode.logSettings, Fields.read_keeping keep hlevel (Decode.string?_string _),
    Fields.read_keeping keep hdir (Decode.string?_string _),
    Fields.read_keeping keep hfile (Decode.string?_string _),
    Fields.read_keeping keep hsize (Decode.number?_natural _),
    Fields.read_keeping keep hfiles (Decode.number?_natural _),
    Fields.read_keeping keep htoFile (Decode.boolean?_boolean _),
    Fields.unknownUsable_keeping keep hknown]
  rfl

theorem extractSettings_keeping (keep : String → Bool) (s : Settings) :
    Decode.extractSettings (.named ((extractSection s.extract).keeping keep).values) =
      some (s.keeping keep).extract := by
  have hdialect : (extractSection s.extract).values.lookup "database_type" =
      some (Plain.string s.extract.dialect.key).toValue := rfl
  have hknown : ∀ entry ∈ (extractSection s.extract).entries, entry.1 ∈ ["database_type"] := by
    simp [extractSection]
  rw [Decode.extractSettings, Fields.read_keeping keep hdialect (Decode.dialect?_key _),
    Fields.unknownUsable_keeping keep hknown]
  rfl

/-- What is left of a saved document holds its tables, each with the entries that are left. -/
theorem readDocument_documentKeeping (keep : String → Bool) (s : Settings) :
    readDocument (s.documentKeeping keep).toList =
      some [((logSection s.log).keeping keep).toTable,
        ((extractSection s.extract).keeping keep).toTable] := by
  have hplain : ∀ t ∈ s.sections.map (Section.keeping keep), t.IsPlain := by
    intro t ht
    simp only [sections, List.map_cons, List.map_nil, List.mem_cons, List.not_mem_nil,
      or_false] at ht
    rcases ht with rfl | rfl
    · exact (isPlain_logSection s.log).keeping keep
    · exact (isPlain_extractSection s.extract).keeping keep
  have hnames : ((s.sections.map (Section.keeping keep)).map Section.name).Nodup := by
    change ["log", "extract"].Nodup
    decide
  have hwrite : (s.documentKeeping keep).toList =
      writeSections (s.sections.map (Section.keeping keep)) := by
    rw [documentKeeping, String.toList_ofList, writeSections, List.map_map]
    simp only [Function.comp_def, Section.write_keeping]
  rw [hwrite, readDocument_writeSections hplain hnames]
  rfl

theorem parse_documentKeeping (keep : String → Bool) (s : Settings) :
    parse (s.documentKeeping keep) = .ok (s.keeping keep) := by
  have hlog := logSettings_keeping keep s
  have hextract := extractSettings_keeping keep s
  have hsettings : Decode.settings (.named [((logSection s.log).keeping keep).toTable,
      ((extractSection s.extract).keeping keep).toTable]) = some (s.keeping keep) := by
    -- Both tables are there under their names, so no group takes its defaults as a whole.
    change (Decode.logSettings _ >>= fun log => Decode.extractSettings _ >>= fun extract => _) = _
    rw [hlog, hextract]
    rfl
  rw [parse, ofDocument?, readDocument_documentKeeping, Option.bind_some, hsettings]

theorem keeping_all (s : Settings) : s.keeping (fun _ => true) = s :=
  rfl

theorem documentKeeping_all (s : Settings) : s.documentKeeping (fun _ => true) = s.toDocument := by
  rw [documentKeeping, toDocument, writeSections]
  rfl

theorem ofBytes_toUTF8 (document : String) : ofBytes document.toUTF8 = parse document := by
  have hread : String.fromUTF8? document.toUTF8 = some document :=
    dif_pos document.isValidUTF8
  rw [ofBytes, hread]

/-- Of a saved document, whichever entries are left in it give their settings, and all others take
their defaults. Bytes that are loaded as they were saved give back all settings. -/
theorem saved_loaded (s : Settings) :
    (∀ keep : String → Bool, parse (s.documentKeeping keep) = .ok (s.keeping keep)) ∧
      s.documentKeeping (fun _ => true) = s.toDocument ∧
      ofBytes s.toDocument.toUTF8 = .ok s := by
  refine ⟨fun keep => parse_documentKeeping keep s, documentKeeping_all s, ?_⟩
  rw [ofBytes_toUTF8, ← documentKeeping_all, parse_documentKeeping, keeping_all]

/-- A level that no form but a literal one over several lines shows as it is, left alone. -/
example : parse "[log]\nlevel = '''a\"\"\"\\b'''\n\n[extract]\n" =
    .ok { log := { level := "a\"\"\"\\b" } } := by
  rfl

end Settings

end StatementSegments
