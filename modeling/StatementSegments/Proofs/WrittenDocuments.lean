import StatementSegments.Proofs.PlainValues

namespace StatementSegments.Toml

/-- A key that needs no quotes. -/
def IsBareKey (key : String) : Prop :=
  key.toList ≠ [] ∧ ∀ c ∈ key.toList, isBareKeyChar c = true

namespace Section

/-- What can be written without quotes around keys and with each key once. -/
structure IsPlain (s : Section) : Prop where
  name : IsBareKey s.name
  keys : ∀ entry ∈ s.entries, IsBareKey entry.1
  held : ∀ entry ∈ s.entries, entry.2.IsHeld
  nodup : (s.entries.map Prod.fst).Nodup

def values (s : Section) : Entries :=
  s.entries.map fun entry => (entry.1, entry.2.toValue)

/-- The table that a section is read back as, under its name. -/
def toTable (s : Section) : String × Value :=
  (s.name, .table .header s.values)

/-- A header and an assignment for every entry. -/
def toEntries (s : Section) : List Entry :=
  .header ⟨[], s.name⟩ :: s.values.map fun entry => .assign ⟨[], entry.1⟩ entry.2

theorem keys_values (s : Section) : s.values.map Prod.fst = s.entries.map Prod.fst := by
  rw [values, List.map_map]
  rfl

end Section

/-! Tables that are filled -/

theorem lookup_eq_none_of_not_mem {entries : Entries} {key : String}
    (h : key ∉ entries.map Prod.fst) : entries.lookup key = none := by
  rw [List.lookup_eq_none_iff]
  intro entry hentry
  rw [bne_iff_ne]
  rintro rfl
  exact h (List.mem_map_of_mem hentry)

theorem lookup_concat {entries : Entries} {key : String} (h : key ∉ entries.map Prod.fst)
    (v : Value) : (entries ++ [(key, v)]).lookup key = some v := by
  rw [List.lookup_append, lookup_eq_none_of_not_mem h, List.lookup_cons_self]
  rfl

theorem replace_concat {entries : Entries} {key : String} (h : key ∉ entries.map Prod.fst)
    (v v' : Value) :
    Entries.replace (entries ++ [(key, v)]) key v' = entries ++ [(key, v')] := by
  rw [Entries.replace, List.map_append, List.map_singleton, if_pos rfl]
  congr 1
  refine (List.map_congr_left fun entry hentry => if_neg ?_).trans (List.map_id' entries)
  rintro rfl
  exact h (List.mem_map_of_mem hentry)

namespace Document

variable {before : Entries} {name : String}

theorem enter_header (h : name ∉ before.map Prod.fst) (origin : Origin) (current : List String) :
    enter ⟨⟨origin, before⟩, current⟩ (.header ⟨[], name⟩) =
      some ⟨⟨origin, before ++ [(name, .table .header [])]⟩, [name]⟩ := by
  simp only [enter, Table.modifyAt, Table.openTable, lookup_eq_none_of_not_mem h]
  rfl

theorem enter_assign (h : name ∉ before.map Prod.fst) {filled : Entries} {key : String}
    (hkey : key ∉ filled.map Prod.fst) (origin : Origin) (v : Value) :
    enter ⟨⟨origin, before ++ [(name, .table .header filled)]⟩, [name]⟩ (.assign ⟨[], key⟩ v) =
      some ⟨⟨origin, before ++ [(name, .table .header (filled ++ [(key, v)]))]⟩, [name]⟩ := by
  have hassign : Table.assign ⟨[], key⟩ v ⟨.header, filled⟩ =
      some ⟨.header, filled ++ [(key, v)]⟩ := by
    rw [Table.assign, Table.modifyAt, Table.assignHere, if_pos]
    · rfl
    · exact ⟨rfl, by rw [lookup_eq_none_of_not_mem hkey]; rfl⟩
  simp only [enter, Table.modifyAt, lookup_concat h]
  rw [hassign]
  simp [Table.canEnter, Table.replace, replace_concat h, Table.toValue]

theorem foldlM_assign (h : name ∉ before.map Prod.fst) (origin : Origin) (filled more : Entries)
    (hkeys : ((filled ++ more).map Prod.fst).Nodup) :
    (more.map fun entry => Entry.assign ⟨[], entry.1⟩ entry.2).foldlM enter
        ⟨⟨origin, before ++ [(name, .table .header filled)]⟩, [name]⟩ =
      some ⟨⟨origin, before ++ [(name, .table .header (filled ++ more))]⟩, [name]⟩ := by
  induction more generalizing filled with
  | nil => rw [List.append_nil]; rfl
  | cons entry more ih =>
      have hkey : entry.1 ∉ filled.map Prod.fst := by
        rw [List.map_append, List.map_cons, List.nodup_append] at hkeys
        intro hmem
        exact hkeys.2.2 _ hmem _ List.mem_cons_self rfl
      rw [List.append_cons filled entry more] at hkeys ⊢
      rw [List.map_cons, List.foldlM_cons, enter_assign h hkey]
      exact ih _ hkeys

theorem foldlM_section {s : Section} (hs : s.IsPlain) (h : s.name ∉ before.map Prod.fst)
    (origin : Origin) (current : List String) :
    s.toEntries.foldlM enter ⟨⟨origin, before⟩, current⟩ =
      some ⟨⟨origin, before ++ [s.toTable]⟩, [s.name]⟩ := by
  rw [Section.toEntries, List.foldlM_cons, enter_header h]
  refine foldlM_assign h origin [] s.values ?_
  rw [List.nil_append, s.keys_values]
  exact hs.nodup

theorem foldlM_sections {sections : List Section} (hplain : ∀ s ∈ sections, s.IsPlain)
    (hnames : (before.map Prod.fst ++ sections.map Section.name).Nodup) (origin : Origin)
    (current : List String) :
    ∃ last, (sections.flatMap Section.toEntries).foldlM enter ⟨⟨origin, before⟩, current⟩ =
      some ⟨⟨origin, before ++ sections.map Section.toTable⟩, last⟩ := by
  induction sections generalizing before current with
  | nil => exact ⟨current, by rw [List.map_nil, List.append_nil]; rfl⟩
  | cons s sections ih =>
      obtain ⟨hs, hplain⟩ := List.forall_mem_cons.mp hplain
      have hname : s.name ∉ before.map Prod.fst := by
        intro hmem
        rw [List.map_cons, List.nodup_append] at hnames
        exact hnames.2.2 _ hmem _ List.mem_cons_self rfl
      rw [List.flatMap_cons, List.foldlM_append, foldlM_section hs hname, List.map_cons,
        List.append_cons before s.toTable (sections.map Section.toTable)]
      refine ih hplain ?_ [s.name]
      rwa [List.map_append, List.map_singleton, List.append_assoc]

/-- Tables with different names are read into one document, in their order. -/
theorem ofEntries_sections {sections : List Section} (hplain : ∀ s ∈ sections, s.IsPlain)
    (hnames : (sections.map Section.name).Nodup) :
    ∃ last, ofEntries (sections.flatMap Section.toEntries) =
      some ⟨⟨.header, sections.map Section.toTable⟩, last⟩ :=
  foldlM_sections hplain (by simpa using hnames) .header []

end Document

/-! Keys, headers and assignments -/

theorem isSpace_of_isWordChar {c : Char} (h : isWordChar c = true) : isSpace c = false := by
  rw [isSpace, Bool.or_eq_false_iff, beq_eq_false_iff_ne, beq_eq_false_iff_ne]
  constructor <;> rintro rfl <;> nomatch h

theorem skipSpaces_cons {c : Char} (h : isSpace c = false) (cs : List Char) :
    skipSpaces (c :: cs) = c :: cs := by
  rw [skipSpaces, List.dropWhile_cons, h, if_neg Bool.false_ne_true]

/-- An entry starts with a key or with a bracket, so neither with a blank nor with a comment. -/
def StartsEntry (cs : List Char) : Prop :=
  ∃ c rest, cs = c :: rest ∧ (isWordChar c = true ∨ c = '[')

namespace StartsEntry

variable {cs : List Char} (h : StartsEntry cs)
include h

theorem append (rest : List Char) : StartsEntry (cs ++ rest) := by
  obtain ⟨c, tail, rfl, hc⟩ := h
  exact ⟨c, tail ++ rest, rfl, hc⟩

theorem skipSpaces_eq : skipSpaces cs = cs := by
  obtain ⟨c, rest, rfl, hc | rfl⟩ := h
  · exact skipSpaces_cons (isSpace_of_isWordChar hc) _
  · exact skipSpaces_cons rfl _

theorem readLineEnd_eq_none : readLineEnd false cs = none := by
  obtain ⟨c, rest, rfl, hc⟩ := h
  have hne : c ≠ '\n' ∧ c ≠ '\r' ∧ c ≠ '#' ∧ isSpace c = false := by
    refine ⟨?_, ?_, ?_, ?_⟩
    case refine_4 =>
      rcases hc with hc | rfl
      · exact isSpace_of_isWordChar hc
      · rfl
    all_goals
      rintro rfl
      rcases hc with hc | hc <;> nomatch hc
  rw [readLineEnd]
  all_goals simp [hne]

end StartsEntry

namespace IsBareKey

variable {key : String} (h : IsBareKey key)
include h

theorem exists_eq : ∃ c cs, key.toList = c :: cs ∧ isWordChar c = true := by
  obtain ⟨c, cs, hkey⟩ := List.exists_cons_of_ne_nil h.1
  exact ⟨c, cs, hkey, isWordChar_of_isBareKeyChar (h.2 c (hkey ▸ List.mem_cons_self))⟩

theorem startsEntry : StartsEntry key.toList := by
  obtain ⟨c, cs, hkey, hc⟩ := h.exists_eq
  exact ⟨c, cs, hkey, Or.inl hc⟩

theorem append_ne (cs cs' : List Char) : key.toList ++ cs ≠ '[' :: cs' := by
  obtain ⟨c, rest, hkey, hc⟩ := h.exists_eq
  rw [hkey]
  intro heq
  obtain ⟨rfl, -⟩ := List.cons.inj heq
  nomatch hc

end IsBareKey

theorem readKey_bare {key : String} (hkey : IsBareKey key) {c : Char}
    (hc : isBareKeyChar c = false) (cs : List Char) :
    readKey (key.toList ++ c :: cs) = some (key, c :: cs) := by
  have hspan : (key.toList ++ c :: cs).span isBareKeyChar = (key.toList, c :: cs) := by
    refine span_append hkey.2 ?_
    rintro _ ⟨⟩
    exact hc
  rw [readKey, hspan]
  split
  · next heq => exact absurd (congrArg Prod.fst heq) hkey.1
  · next heq =>
      obtain ⟨rfl, rfl⟩ := Prod.mk.inj heq
      rw [String.ofList_toList]

/-- A key that no dot follows is the whole path. -/
theorem readKeyPath_bare {key : String} (hkey : IsBareKey key) {c : Char}
    (hc : isBareKeyChar c = false) {cs : List Char}
    (hdot : ∀ rest, skipSpaces (c :: cs) ≠ '.' :: rest) :
    readKeyPath (key.toList ++ c :: cs) = some (⟨[], key⟩, skipSpaces (c :: cs)) := by
  rw [readKeyPath, readPath, readKey_bare hkey hc]
  simp only [Option.bind_eq_bind, Option.bind_some]
  rfl

theorem readEntry_header {name : String} (hname : IsBareKey name) (cs : List Char) :
    readEntry ('[' :: (name.toList ++ ']' :: cs)) = some (.header ⟨[], name⟩, cs) := by
  have hpath : readKeyPath (name.toList ++ ']' :: cs) = some (⟨[], name⟩, ']' :: cs) :=
    readKeyPath_bare hname rfl fun _ => by simp [skipSpaces, isSpace]
  rw [readEntry]
  · rw [readHeader, (hname.startsEntry.append _).skipSpaces_eq, hpath]
    simp
  · exact hname.append_ne _

theorem readEntry_assign {key : String} (hkey : IsBareKey key) {p : Plain} (hp : p.IsHeld)
    (cs : List Char) :
    readEntry (key.toList ++ ' ' :: '=' :: ' ' :: (p.write ++ '\n' :: cs)) =
      some (.assign ⟨[], key⟩ p.toValue, '\n' :: cs) := by
  have hpath : readKeyPath (key.toList ++ ' ' :: '=' :: ' ' :: (p.write ++ '\n' :: cs)) =
      some (⟨[], key⟩, '=' :: ' ' :: (p.write ++ '\n' :: cs)) :=
    readKeyPath_bare hkey rfl fun _ => by simp [skipSpaces, isSpace]
  have hskip : skipSpaces (' ' :: (p.write ++ '\n' :: cs)) = p.write ++ '\n' :: cs := by
    obtain ⟨d, ds, hwrite, hd⟩ := p.exists_write_eq
    rw [hwrite]
    exact skipSpaces_cons (isSpace_of_isWordChar hd) _
  have hassignment : readAssignment (fun cs => some (skipSpaces cs)) readValue
      (key.toList ++ ' ' :: '=' :: ' ' :: (p.write ++ '\n' :: cs)) =
        some ((⟨[], key⟩, p.toValue), '\n' :: cs) := by
    rw [readAssignment, hpath]
    simp only [Option.bind_eq_bind, Option.bind_some]
    rw [skipSpaces_cons rfl]
    simp only [Option.bind_some, hskip, Plain.readValue_write hp]
    rfl
  rw [readEntry, hassignment]
  · rfl
  · exact fun cs' => hkey.append_ne _ _
  · exact hkey.append_ne _

/-! Lines -/

/-- The lines of a text hold some entries, however many lines may be read at most. -/
def HoldsEntries (cs : List Char) (entries : List Entry) : Prop :=
  ∀ bound, cs.length ≤ bound → readLines bound cs = some entries

namespace HoldsEntries

variable {cs line : List Char} {entry : Entry} {entries : List Entry}

theorem nil : HoldsEntries [] [] := by
  intro bound _
  rw [readLines]

theorem blank (h : HoldsEntries cs entries) : HoldsEntries ('\n' :: cs) entries := by
  intro bound hbound
  obtain ⟨bound, rfl⟩ := Nat.exists_eq_add_one_of_ne_zero (Nat.ne_zero_of_lt hbound)
  rw [readLines, readLineEnd]
  · exact h bound (Nat.le_of_succ_le_succ hbound)
  · simp

theorem cons (hline : StartsEntry line)
    (hentry : readEntry (line ++ '\n' :: cs) = some (entry, '\n' :: cs))
    (h : HoldsEntries cs entries) : HoldsEntries (line ++ '\n' :: cs) (entry :: entries) := by
  intro bound hbound
  rw [List.length_append, List.length_cons] at hbound
  obtain ⟨bound, rfl⟩ : ∃ n, bound = n + 1 := Nat.exists_eq_add_one.mpr (by omega)
  have hrest : readLines bound cs = some entries := h bound (by omega)
  rw [readLines, (hline.append _).readLineEnd_eq_none]
  · simp only [(hline.append _).skipSpaces_eq, hentry, Option.bind_eq_bind, Option.bind_some,
      readLineEnd, hrest]
    rfl
  · simp

theorem entries_append {written : List (String × Plain)}
    (hkeys : ∀ entry ∈ written, IsBareKey entry.1) (hheld : ∀ entry ∈ written, entry.2.IsHeld)
    (h : HoldsEntries cs entries) :
    HoldsEntries (written.flatMap writeEntry ++ cs)
      (written.map (fun entry => .assign ⟨[], entry.1⟩ entry.2.toValue) ++ entries) := by
  induction written with
  | nil => exact h
  | cons entry written ih =>
      obtain ⟨hkey, hkeys⟩ := List.forall_mem_cons.mp hkeys
      obtain ⟨hvalue, hheld⟩ := List.forall_mem_cons.mp hheld
      have hentry := readEntry_assign hkey hvalue (written.flatMap writeEntry ++ cs)
      have hline : StartsEntry (entry.1.toList ++ [' ', '=', ' '] ++ entry.2.write) :=
        (hkey.startsEntry.append _).append _
      have := cons hline (by simpa using hentry) (ih hkeys hheld)
      simpa [writeEntry] using this

/-- The lines of a section: its header and its entries. -/
theorem section_append {s : Section} (hs : s.IsPlain) (h : HoldsEntries cs entries) :
    HoldsEntries (s.write ++ cs) (s.toEntries ++ entries) := by
  have hentries := h.entries_append hs.keys hs.held
  have hheader := readEntry_header hs.name ('\n' :: (s.entries.flatMap writeEntry ++ cs))
  have hline : StartsEntry (['['] ++ s.name.toList ++ [']']) := ⟨'[', _, rfl, Or.inr rfl⟩
  have := cons hline (by simpa using hheader) hentries
  simpa [Section.write, Section.toEntries, Section.values, Function.comp_def] using this

end HoldsEntries

theorem writeSections_cons (s : Section) (sections : List Section) :
    writeSections (s :: sections) =
      s.write ++ if sections = [] then [] else '\n' :: writeSections sections := by
  cases sections with
  | nil => simp [writeSections]
  | cons t sections => simp [writeSections, List.intersperse_cons_cons]

theorem holdsEntries_writeSections {sections : List Section} (h : ∀ s ∈ sections, s.IsPlain) :
    HoldsEntries (writeSections sections) (sections.flatMap Section.toEntries) := by
  induction sections with
  | nil => exact .nil
  | cons s sections ih =>
      obtain ⟨hs, hrest⟩ := List.forall_mem_cons.mp h
      rw [writeSections_cons, List.flatMap_cons]
      refine .section_append hs ?_
      split
      · next hnil =>
          subst hnil
          exact .nil
      · exact (ih hrest).blank

/-! Documents -/

theorem dropMark_writeSections (sections : List Section) :
    dropMark (writeSections sections) = writeSections sections := by
  cases sections with
  | nil => rfl
  | cons s sections =>
      rw [writeSections_cons]
      rfl

/-- What is written for tables is read back as these tables. -/
theorem readDocument_writeSections {sections : List Section} (hplain : ∀ s ∈ sections, s.IsPlain)
    (hnames : (sections.map Section.name).Nodup) :
    readDocument (writeSections sections) = some (sections.map Section.toTable) := by
  obtain ⟨last, hdocument⟩ := Document.ofEntries_sections hplain hnames
  have hentries := holdsEntries_writeSections hplain _ le_rfl
  rw [readDocument, dropMark_writeSections]
  simp only [hentries, hdocument, Option.bind_eq_bind, Option.bind_some]
  rfl

end StatementSegments.Toml
