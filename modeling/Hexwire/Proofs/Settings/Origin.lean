import Hexwire.Proofs.Files.Tree
import Hexwire.Settings.Configuration

/-! # Where a configuration comes from

A configuration is read under the full path of its file with slashes in place of backslashes. It
comes from the file that the path leads to exactly where this changes nothing and the full path is
not too long for the host (`Hexwire.Configuration.comes_from_iff`).
-/

namespace Hexwire

namespace FileTree

variable {tree : FileTree} {path : String}

/-- A text is read from a file that codes it. -/
theorem readText_eq_ok_iff {text : List Char} :
    tree.readText path = .ok text ↔ ∃ contents characters, tree.read path = .ok contents ∧
      Utf8.decode contents = .ok characters ∧ Document.plainLines characters = text := by
  unfold readText
  split
  · next refused => simp [refused]
  · next read =>
      split
      · next undecoded => simp [read, undecoded]
      · next decoded => simp [read, decoded]

/-- Paths that lead to the same give the same text. -/
theorem readText_congr {other : String} {text : List Char}
    (same : tree.locate path = tree.locate other) :
    tree.readText path = .ok text ↔ tree.readText other = .ok text := by
  have octets : tree.read path = tree.read other := by rw [read, read, same]
  rw [readText_eq_ok_iff, readText_eq_ok_iff, octets]

/-- What is read stands somewhere as no directory. -/
theorem read_eq_ok {contents : Bytes} (read : tree.read path = .ok contents) :
    ∃ place entry, tree.locate path = .ok (place, some entry) ∧ entry ≠ .directory := by
  unfold FileTree.read at read
  split at read
  · cases read
  · cases read
  · cases read
  · next place located => exact ⟨place, .sink, located, nofun⟩
  · next place contents located => exact ⟨place, .file contents, located, nofun⟩

end FileTree

namespace Configuration

variable {tree : FileTree} {path : String} {entries : List (Value × Value)}

/-- What is loaded is the mapping, not empty, that the file's document is. -/
theorem load_eq_ok_iff :
    load tree path = .ok entries ↔
      entries ≠ [] ∧ ∃ text, tree.readText path = .ok text ∧
        Document.parse text = .ok (.map entries) := by
  cases read : tree.readText path with
  | error fault =>
      have refused : load tree path ≠ .ok entries := by
        simp only [load, read]
        split <;> nofun
      simp [refused]
  | ok text =>
      simp only [load, read, Except.ok.injEq, exists_eq_left']
      split
      · next failed => simp [failed]
      · next malformed => simp [malformed]
      · next empty => simp [empty, eq_comm]
      · next others filled parsed =>
          rw [parsed]
          simp only [Except.ok.injEq, Value.map.injEq]
          refine ⟨?_, And.right⟩
          rintro rfl
          exact ⟨filled, rfl⟩
      · next value _ other parsed =>
          have noMap : value ≠ .map entries := other entries
          rw [parsed]
          simp only [Except.ok.injEq, noMap, and_false, iff_false]
          split <;> nofun

/-- A file whose octets are the characters of a mapping that is not empty is loaded as it. -/
theorem load_of_read {contents : Bytes} {characters : List Char}
    (read : tree.read path = .ok contents) (decoded : Utf8.decode contents = .ok characters)
    (parsed : Document.parse (Document.plainLines characters) = .ok (.map entries))
    (filled : entries ≠ []) : load tree path = .ok entries :=
  load_eq_ok_iff.mpr
    ⟨filled, _, FileTree.readText_eq_ok_iff.mpr ⟨_, _, read, decoded, rfl⟩, parsed⟩

/-- Paths that lead to the same place load the same. -/
theorem load_congr {other : String} (same : tree.locate path = tree.locate other) :
    load tree path = .ok entries ↔ load tree other = .ok entries := by
  simp only [load_eq_ok_iff, FileTree.readText_congr same]

/-- What is loaded is a file that is there. -/
theorem located_of_load (loaded : load tree path = .ok entries) :
    ∃ place entry, tree.locate path = .ok (place, some entry) ∧ entry ≠ .directory := by
  obtain ⟨-, text, read, -⟩ := load_eq_ok_iff.mp loaded
  obtain ⟨contents, -, octets, -⟩ := FileTree.readText_eq_ok_iff.mp read
  exact FileTree.read_eq_ok octets

/-- The path that a configuration's directory and name make up. -/
def filePath (configuration : Configuration) : String :=
  String.ofList (Path.append configuration.directory.toList configuration.name.toList)

/-- A configuration holds the entries of the file at a place, has the file's name and a path that
leads to it. -/
structure ComesFrom (tree : FileTree) (place : List String) (entries : List (Value × Value))
    (configuration : Configuration) : Prop where
  entries : configuration.entries = entries
  name : place.getLast? = some configuration.name
  path : ∃ entry, tree.locate configuration.filePath = .ok (place, some entry)

/-- A configuration is read from the directory and name of the path it is read under. -/
theorem ofFile_eq_ok_iff {configuration : Configuration} :
    ofFile tree path = .ok configuration ↔
      load tree (String.ofList (pathOf tree path)) = .ok configuration.entries ∧
        configuration.directory = String.ofList (Path.directory (pathOf tree path)) ∧
          configuration.name = String.ofList (Path.name (pathOf tree path)) := by
  obtain ⟨own, directory, name⟩ := configuration
  cases loaded : load tree (String.ofList (pathOf tree path)) with
  | error raised => simp [ofFile, loaded, Except.map]
  | ok entries => simp [ofFile, loaded, Except.map, eq_comm]

/-- A path without backslashes is opened as it is. -/
theorem pathOf_of_plain (plain : '\\' ∉ tree.fullPath path) :
    pathOf tree path = tree.fullPath path := by
  refine (List.map_congr_left fun c member => ?_).trans (List.map_id _)
  have other : c ≠ '\\' := fun same => plain (same ▸ member)
  exact if_neg other

/-- What is opened has no backslashes. -/
theorem backslash_notMem_pathOf : '\\' ∉ pathOf tree path := by
  intro member
  obtain ⟨c, -, replaced⟩ := List.mem_map.mp member
  split at replaced
  · cases replaced
  · next other => exact other replaced

section Proper

variable (proper : tree.Proper)
include proper

/-- A file is read again under its full path unless that holds a backslash or is too long. -/
theorem ofFile_of_plain {place : List String} {entry : Entry}
    (located : tree.locate path = .ok (place, some entry)) (below : place ≠ [])
    (loaded : load tree path = .ok entries) (plain : '\\' ∉ tree.fullPath path)
    (short : (String.ofList (tree.fullPath path)).utf8ByteSize < FileTree.pathLimit) :
    ∃ configuration, ofFile tree path = .ok configuration ∧
      ComesFrom tree place entries configuration := by
  obtain ⟨slashes, absolute, spelled⟩ := proper.fullPath_eq located
  have standing := (FileTree.place_eq_of_locate located).2.symm
  have again : tree.locate (String.ofList (tree.fullPath path)) = .ok (place, some entry) := by
    rw [spelled] at short ⊢
    exact proper.locate_spelled below standing absolute short
  obtain ⟨init, last, rfl⟩ := (List.eq_nil_or_concat' place).resolve_left below
  have names := FileTree.texts_of_names (proper.names standing)
  rw [List.map_append, List.map_singleton] at names spelled
  obtain ⟨name, whole⟩ := Path.directory_name_spelled absolute names
  rw [← spelled] at name whole
  refine ⟨⟨entries, String.ofList (Path.directory (tree.fullPath path)), last⟩,
    ofFile_eq_ok_iff.mpr ?_, rfl, List.getLast?_concat, entry, ?_⟩
  · rw [pathOf_of_plain plain, name, String.ofList_toList]
    exact ⟨(load_congr (again.trans located.symm)).mpr loaded, rfl, rfl⟩
  · rw [filePath, String.toList_ofList, whole]
    exact again

/-- What comes from the file that a path leads to is read under the path's full path. -/
theorem plain_of_comesFrom {place : List String} {entry : Entry} {configuration : Configuration}
    (located : tree.locate path = .ok (place, some entry))
    (read : ofFile tree path = .ok configuration)
    (comes : ComesFrom tree place entries configuration) : '\\' ∉ tree.fullPath path := by
  intro member
  obtain ⟨slashes, absolute, spelled⟩ := proper.fullPath_eq located
  obtain ⟨-, directory, name⟩ := ofFile_eq_ok_iff.mp read
  obtain ⟨standing, again⟩ := comes.path
  have made : configuration.filePath.toList =
      Path.append (Path.directory (pathOf tree path)) (Path.name (pathOf tree path)) := by
    rw [filePath, directory, name, String.toList_ofList, String.toList_ofList,
      String.toList_ofList]
  have starts : (pathOf tree path).head? = some '/' := by
    obtain rfl | rfl := absolute <;> rw [pathOf, spelled] <;> rfl
  have startsMade : configuration.filePath.toList.head? = some '/' :=
    made ▸ Path.head?_append_directory_name starts
  -- A name of the place holds the backslash, and all its characters would be in the path that the
  -- configuration is read under, where a slash stands for it.
  obtain ⟨part, listed, here⟩ : ∃ part ∈ place.map String.toList, '\\' ∈ part := by
    rw [spelled] at member
    obtain slash | inner := List.mem_append.mp member
    · obtain rfl | rfl := absolute <;> simp at slash
    · exact (Path.mem_join (by decide)).mp inner
  obtain ⟨other, named, rfl⟩ := List.mem_map.mp listed
  have kept := FileTree.mem_of_mem_place startsMade again named here (by decide)
  obtain slash | inner := Path.mem_append_directory_name (made ▸ kept)
  · cases slash
  · exact backslash_notMem_pathOf inner

/-- **A configuration comes from the file that its path leads to exactly where the full path of the
file holds no backslash and is not too long for the host.** -/
theorem comes_from_iff (loaded : load tree path = .ok entries) :
    ∃ place entry, tree.locate path = .ok (place, some entry) ∧ entry ≠ .directory ∧
      ((∃ configuration, ofFile tree path = .ok configuration ∧
          ComesFrom tree place entries configuration) ↔
        '\\' ∉ tree.fullPath path ∧
          (String.ofList (tree.fullPath path)).utf8ByteSize < FileTree.pathLimit) := by
  obtain ⟨place, entry, located, noDirectory⟩ := located_of_load loaded
  have below : place ≠ [] := by
    rintro rfl
    have top := (FileTree.place_eq_of_locate located).2
    exact noDirectory (Option.some_inj.mp top)
  refine ⟨place, entry, located, noDirectory, ?_, ?_⟩
  · rintro ⟨configuration, read, comes⟩
    have plain := plain_of_comesFrom proper located read comes
    obtain ⟨opened, -⟩ := ofFile_eq_ok_iff.mp read
    obtain ⟨_, _, again, -⟩ := located_of_load opened
    rw [pathOf_of_plain plain] at again
    exact ⟨plain, (FileTree.locate_eq_ok_iff.mp again).2.2.1⟩
  · rintro ⟨plain, short⟩
    exact ofFile_of_plain proper located below loaded plain short

end Proper

/-- A working directory with a file `d\a.json` and, in a directory `d`, a file `a.json`: the
documents `{"a": 1}` and `{"a": 2}`. -/
def twins : FileTree where
  entries := [(["work"], .directory), (["work", "d"], .directory),
    (["work", "d\\a.json"], .file [0x7B, 0x22, 0x61, 0x22, 0x3A, 0x20, 0x31, 0x7D]),
    (["work", "d", "a.json"], .file [0x7B, 0x22, 0x61, 0x22, 0x3A, 0x20, 0x32, 0x7D])]
  working := ["work"]

/-- The two files make a proper tree. -/
theorem proper_twins : twins.Proper := by
  refine ⟨fun placed member => ?_, rfl⟩
  simp only [twins, List.mem_cons, List.not_mem_nil, or_false] at member
  obtain rfl | rfl | rfl | rfl := member
  · exact ⟨[], "work", rfl, by constructor <;> decide, rfl⟩
  · exact ⟨["work"], "d", rfl, by constructor <;> decide, rfl⟩
  · exact ⟨["work"], "d\\a.json", rfl, by constructor <;> decide, rfl⟩
  · exact ⟨["work", "d"], "a.json", rfl, by constructor <;> decide, rfl⟩

/-- The file with a backslash in its name is loaded from the directory. -/
theorem load_outer : load twins "d\\a.json" = .ok [(.text "a", .int 1)] := by
  have read : twins.read "d\\a.json" = .ok [0x7B, 0x22, 0x61, 0x22, 0x3A, 0x20, 0x31, 0x7D] := by
    decide +kernel
  have decoded : Utf8.decode [0x7B, 0x22, 0x61, 0x22, 0x3A, 0x20, 0x31, 0x7D] =
      .ok ['{', '"', 'a', '"', ':', ' ', '1', '}'] := rfl
  exact load_of_read read decoded rfl (List.cons_ne_nil _ _)

/-- The file in the directory below is another one. -/
theorem load_inner
    (read : twins.read path = .ok [0x7B, 0x22, 0x61, 0x22, 0x3A, 0x20, 0x32, 0x7D]) :
    load twins path = .ok [(.text "a", .int 2)] := by
  have decoded : Utf8.decode [0x7B, 0x22, 0x61, 0x22, 0x3A, 0x20, 0x32, 0x7D] =
      .ok ['{', '"', 'a', '"', ':', ' ', '2', '}'] := rfl
  exact load_of_read read decoded rfl (List.cons_ne_nil _ _)

/-- A path with an empty component and a point leads to the file in the directory. -/
theorem comes_from_inner :
    load twins "d//./a.json" = .ok [(.text "a", .int 2)] ∧
      ∃ configuration, ofFile twins "d//./a.json" = .ok configuration ∧
        ComesFrom twins ["work", "d", "a.json"] [(.text "a", .int 2)] configuration := by
  have loaded : load twins "d//./a.json" = .ok [(.text "a", .int 2)] :=
    load_inner (by decide +kernel)
  have leads : twins.locate "d//./a.json" = .ok (["work", "d", "a.json"],
      some (.file [0x7B, 0x22, 0x61, 0x22, 0x3A, 0x20, 0x32, 0x7D])) := by
    decide +kernel
  obtain ⟨place, entry, located, -, faithful⟩ := comes_from_iff proper_twins loaded
  rw [leads] at located
  cases located
  exact ⟨loaded, faithful.mpr (by decide +kernel)⟩

/-- A backslash in a name makes the configuration come from the other file. -/
theorem comes_from_twin :
    twins.Proper ∧ load twins "d\\a.json" = .ok [(.text "a", .int 1)] ∧
      ofFile twins "d\\a.json" = .ok ⟨[(.text "a", .int 2)], "/work/d", "a.json"⟩ := by
  refine ⟨proper_twins, load_outer, ofFile_eq_ok_iff.mpr ⟨load_inner ?_, ?_, ?_⟩⟩
  · decide +kernel
  · decide +kernel
  · decide +kernel

end Configuration

end Hexwire
