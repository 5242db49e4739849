import Hexwire.Files.Tree
import Hexwire.Proofs.Files.Path
import Mathlib.Data.List.Induction

/-! # Where paths lead in a tree

In a proper tree (`Hexwire.FileTree.Proper`) every entry lies in a directory under a name. A path
that leads to an entry has a full path that spells the entry's place
(`Hexwire.FileTree.Proper.fullPath_eq`), and every such spelling that is short enough leads to the
entry (`Hexwire.FileTree.Proper.locate_spelled`).
-/

namespace Hexwire.FileTree

open Hexwire.Path (follow)

/-- What an entry can be called. -/
structure IsName (name : String) : Prop where
  filled : name ≠ ""
  notPoint : name ≠ "."
  notPoints : name ≠ ".."
  slashless : '/' ∉ name.toList
  nullless : '\x00' ∉ name.toList
  short : name.utf8ByteSize ≤ nameLimit

/-- A tree in which every entry lies in a directory under a name, and the working directory is a
directory. -/
structure Proper (tree : FileTree) : Prop where
  listed : ∀ placed ∈ tree.entries, ∃ above name, placed.1 = above ++ [name] ∧ IsName name ∧
    tree.entry? above = some .directory
  working : tree.entry? tree.working = some .directory

/-- Where the components of a path are followed from. -/
def origin (tree : FileTree) (path : String) : List String :=
  if path.toList.head? = some '/' then [] else tree.working

variable {tree : FileTree} {path : String} {place : List String} {entry : Entry}

/-- The root is a directory. -/
@[simp]
theorem entry?_nil : tree.entry? [] = some .directory := rfl

/-- An empty component leads nowhere from the top. -/
theorem walk_top (rest : List String) : tree.walk [] ("" :: rest) = tree.walk [] rest := by
  rw [walk, if_pos (.inl rfl), if_pos entry?_nil]

/-- What is found below the root is among the entries. -/
theorem entry?_eq_some (below : place ≠ []) (found : tree.entry? place = some entry) :
    ∃ placed ∈ tree.entries, placed.1 = place := by
  unfold entry? at found
  rw [if_neg (by simpa using below)] at found
  obtain ⟨placed, first, -⟩ := Option.map_eq_some_iff.mp found
  exact ⟨placed, List.mem_of_find?_eq_some first, by simpa using List.find?_some first⟩

namespace Proper

variable (proper : tree.Proper)
include proper

/-- An entry lies in a directory under a name. -/
theorem parent {name : String} (found : tree.entry? (place ++ [name]) = some entry) :
    IsName name ∧ tree.entry? place = some .directory := by
  obtain ⟨placed, member, same⟩ := entry?_eq_some (List.concat_ne_nil _ _) found
  obtain ⟨above, other, split, isName, directory⟩ := proper.listed placed member
  obtain ⟨rfl, last⟩ := List.append_inj' (split.symm.trans same) rfl
  cases List.singleton_inj.mp last
  exact ⟨isName, directory⟩

/-- What an entry lies under is names, and each place above it is a directory. -/
theorem above {rest : List String} (found : tree.entry? (place ++ rest) = some entry) :
    (∀ name ∈ rest, IsName name) ∧ (rest ≠ [] → tree.entry? place = some .directory) := by
  induction rest using List.reverseRecOn generalizing entry with
  | nil => exact ⟨fun _ member => absurd member List.not_mem_nil, fun empty => absurd rfl empty⟩
  | append_singleton rest last ih =>
      rw [← List.append_assoc] at found
      obtain ⟨isName, directory⟩ := proper.parent found
      obtain ⟨names, below⟩ := ih directory
      refine ⟨fun name member => ?_, fun _ => ?_⟩
      · obtain earlier | same := List.mem_append.mp member
        · exact names name earlier
        · exact List.mem_singleton.mp same ▸ isName
      · by_cases empty : rest = []
        · rwa [empty, List.append_nil] at directory
        · exact below empty

/-- The place of an entry is made of names. -/
theorem names (found : tree.entry? place = some entry) : ∀ name ∈ place, IsName name :=
  (above proper (List.nil_append place ▸ found)).1

/-- Following the names of an entry leads to it. -/
theorem walk_names {rest : List String} (found : tree.entry? (place ++ rest) = some entry) :
    tree.walk place rest = .ok (place ++ rest, some entry) := by
  induction rest generalizing place with
  | nil =>
      rw [List.append_nil] at found ⊢
      rw [walk, found]
  | cons name rest ih =>
      obtain ⟨names, directory⟩ := proper.above found
      have isName := names name List.mem_cons_self
      have stepped : tree.entry? (place ++ [name] ++ rest) = some entry := by
        rwa [List.append_assoc, List.singleton_append]
      obtain ⟨next, here⟩ : ∃ next, tree.entry? (place ++ [name]) = some next := by
        by_cases empty : rest = []
        · exact ⟨entry, by rwa [empty, List.append_nil] at stepped⟩
        · exact ⟨.directory, (proper.above stepped).2 empty⟩
      have child : tree.child place name = .ok (some next) := by
        rw [child, if_neg (Nat.not_lt.mpr isName.short), here]
      rw [walk, if_neg (not_or.mpr ⟨isName.filled, isName.notPoint⟩), if_neg isName.notPoints,
        if_neg (not_not.mpr (directory (List.cons_ne_nil _ _))), child]
      simpa using ih stepped

end Proper

/-- One point is the text for here. -/
theorem toList_eq_point {text : String} : text.toList = ['.'] ↔ text = "." :=
  @String.toList_inj text "."

/-- Two points are the text for above. -/
theorem toList_eq_points {text : String} : text.toList = ['.', '.'] ↔ text = ".." :=
  @String.toList_inj text ".."

/-- Where a component leads among texts. -/
theorem follow_toList (place : List String) (part : String) :
    follow (place.map String.toList) part.toList =
      (if part = "" ∨ part = "." then place else if part = ".." then place.dropLast
        else place ++ [part]).map String.toList := by
  simp only [follow, String.toList_eq_nil_iff, toList_eq_point, toList_eq_points]
  split
  · rfl
  · split
    · exact List.map_dropLast.symm
    · rw [List.map_append, List.map_singleton]

/-- What a directory has under a name is the entry at that place. -/
theorem child_eq_ok {name : String} {found : Option Entry}
    (here : tree.child place name = .ok found) : found = tree.entry? (place ++ [name]) := by
  unfold child at here
  split at here
  · cases here
  · cases here
    rfl

/-- A walk ends where its components lead, with what stands there. -/
theorem walk_eq_ok {parts place reached : List String} {found : Option Entry}
    (walked : tree.walk place parts = .ok (reached, found)) :
    reached.map String.toList = (parts.map String.toList).foldl follow (place.map String.toList) ∧
      found = tree.entry? reached := by
  induction parts generalizing place with
  | nil =>
      cases walked
      exact ⟨rfl, rfl⟩
  | cons part rest ih =>
      unfold walk at walked
      rw [List.map_cons, List.foldl_cons, follow_toList]
      split at walked
      · next staying =>
          rw [if_pos staying]
          split at walked
          · exact ih walked
          · cases walked
      · next moving =>
          rw [if_neg moving]
          split at walked
          · next rising =>
              rw [if_pos rising]
              split at walked
              · exact ih walked
              · cases walked
          · next sinking =>
              rw [if_neg sinking]
              split at walked
              · cases walked
              · split at walked
                · cases walked
                · next missing =>
                    -- Nothing is there, so only empty components may follow.
                    split at walked
                    · next empty =>
                        cases walked
                        refine ⟨?_, child_eq_ok missing⟩
                        refine (Path.foldl_follow_of_empty ?_ _).symm
                        simpa using empty
                    · cases walked
                · exact ih walked

/-- A path that leads somewhere can be followed from its origin. -/
theorem locate_eq_ok_iff {reached : List String × Option Entry} :
    tree.locate path = .ok reached ↔
      '\x00' ∉ path.toList ∧ path ≠ "" ∧ path.utf8ByteSize < pathLimit ∧
        tree.walk (tree.origin path) ((Path.components path.toList).map String.ofList) =
          .ok reached := by
  unfold locate origin
  by_cases null : '\x00' ∈ path.toList
  · simp [null]
  by_cases empty : path = ""
  · simp [empty]
  by_cases long : pathLimit ≤ path.utf8ByteSize
  · simp [null, empty, long, Nat.not_lt.mpr long]
  · simp only [List.contains_eq_mem, null, empty, long, decide_false, Bool.false_eq_true, if_false,
      String.isEmpty_iff, not_false_eq_true, ne_eq, Nat.not_le.mp long, true_and]
    split
    · next slash => simp [slash]
    · next relative =>
        rw [if_neg fun slash => ?_]
        obtain ⟨rest, absolute⟩ := List.head?_eq_some_iff.mp slash
        exact relative rest absolute

/-- Where a path leads is where its components lead from its origin. -/
theorem place_eq_of_locate {found : Option Entry}
    (located : tree.locate path = .ok (place, found)) :
    place.map String.toList =
        (Path.components path.toList).foldl follow ((tree.origin path).map String.toList) ∧
      found = tree.entry? place := by
  obtain ⟨-, -, -, walked⟩ := locate_eq_ok_iff.mp located
  obtain ⟨reached, standing⟩ := walk_eq_ok walked
  rw [List.map_map, String.toList_comp_ofList, List.map_id] at reached
  exact ⟨reached, standing⟩

/-- An absolute path leads to names of its own characters. -/
theorem mem_of_mem_place {found : Option Entry} (absolute : path.toList.head? = some '/')
    (located : tree.locate path = .ok (place, found)) {name : String} (member : name ∈ place)
    {c : Char} (here : c ∈ name.toList) (other : c ≠ '/') : c ∈ path.toList := by
  have reached := (place_eq_of_locate located).1
  rw [origin, if_pos absolute] at reached
  have listed : name.toList ∈ place.map String.toList := List.mem_map_of_mem member
  rw [reached] at listed
  obtain top | own := Path.mem_foldl_follow listed
  · exact absurd top List.not_mem_nil
  · exact (Path.mem_components other).mpr ⟨name.toList, own, here⟩

/-- Names are neither empty nor have slashes. -/
theorem texts_of_names (names : ∀ name ∈ place, IsName name) :
    ∀ part ∈ place.map String.toList, part ≠ [] ∧ '/' ∉ part := by
  intro part member
  obtain ⟨name, here, rfl⟩ := List.mem_map.mp member
  exact ⟨mt String.toList_eq_nil_iff.mp (names name here).filled, (names name here).slashless⟩

/-- Names that are joined to a path are its components. -/
theorem components_join_names (names : ∀ name ∈ place, IsName name) (below : place ≠ []) :
    Path.components (Path.join (place.map String.toList)) = place.map String.toList :=
  Path.components_join (fun part member => (texts_of_names names part member).2)
    (by simpa using below)

/-- Names lead down one by one. -/
theorem foldl_follow_names (names : ∀ name ∈ place, IsName name) (start : List (List Char)) :
    (place.map String.toList).foldl follow start = start ++ place.map String.toList := by
  refine Path.foldl_follow_of_names ?_ start
  intro part member
  obtain ⟨name, here, rfl⟩ := List.mem_map.mp member
  have isName := names name here
  exact ⟨mt String.toList_eq_nil_iff.mp isName.filled, mt toList_eq_point.mp isName.notPoint,
    mt toList_eq_points.mp isName.notPoints⟩

namespace Proper

variable (proper : tree.Proper)
include proper

/-- The components of a full path are those of the working directory and the path's own, or the
path's own alone if it is absolute. -/
theorem foldl_follow_fullPath (path : String) :
    ∃ rest, Path.append tree.workingPath path.toList = '/' :: rest ∧
      (Path.components ('/' :: rest)).foldl follow [] =
        (Path.components path.toList).foldl follow ((tree.origin path).map String.toList) := by
  unfold origin
  by_cases absolute : path.toList.head? = some '/'
  · obtain ⟨rest, split⟩ := List.head?_eq_some_iff.mp absolute
    refine ⟨rest, ?_, ?_⟩
    · rw [split]
      rfl
    · rw [if_pos absolute, split, List.map_nil]
  · rw [if_neg absolute, Path.append_of_relative absolute, workingPath]
    by_cases top : tree.working = []
    · refine ⟨path.toList, by simp [top, Path.join], ?_⟩
      rw [top]
      rfl
    · have names := proper.names proper.working
      have below : tree.working.map String.toList ≠ [] := by simpa using top
      obtain ⟨c, other, ends⟩ := Path.getLast?_join (texts_of_names names) below
      refine ⟨Path.join (tree.working.map String.toList) ++ '/' :: path.toList, ?_, ?_⟩
      · rw [if_neg, List.cons_append]
        simp [List.getLast?_cons, ends, other]
      · rw [Path.components, if_pos rfl, Path.components_append_slash,
          components_join_names names top, List.foldl_cons, List.foldl_append]
        exact congrArg (List.foldl follow · _) (foldl_follow_names names [])

/-- The full path of a path that leads somewhere spells the place. -/
theorem fullPath_eq {found : Option Entry} (located : tree.locate path = .ok (place, found)) :
    ∃ slashes, (slashes = ['/'] ∨ slashes = ['/', '/']) ∧
      tree.fullPath path = slashes ++ Path.join (place.map String.toList) := by
  obtain ⟨rest, appended, leads⟩ := proper.foldl_follow_fullPath path
  refine ⟨_, Path.root_slash rest, ?_⟩
  rw [fullPath, Path.absolute, appended, Path.normalize_slash, leads,
    (place_eq_of_locate located).1]

/-- The spelling of an entry's place leads to it if it is short enough. -/
theorem locate_spelled (below : place ≠ []) (found : tree.entry? place = some entry)
    {slashes : List Char} (absolute : slashes = ['/'] ∨ slashes = ['/', '/'])
    (short : (String.ofList (slashes ++ Path.join (place.map String.toList))).utf8ByteSize <
      pathLimit) :
    tree.locate (String.ofList (slashes ++ Path.join (place.map String.toList))) =
      .ok (place, some entry) := by
  have names := proper.names found
  have null : '\x00' ∉ slashes ++ Path.join (place.map String.toList) := by
    intro member
    obtain slash | inner := List.mem_append.mp member
    · obtain rfl | rfl := absolute <;> simp at slash
    · obtain ⟨part, listed, here⟩ := (Path.mem_join (by decide)).mp inner
      obtain ⟨name, named, rfl⟩ := List.mem_map.mp listed
      exact (names name named).nullless here
  have walked : tree.walk [] place = .ok (place, some entry) := proper.walk_names found
  have parts : (place.map String.toList).map String.ofList = place := by
    rw [List.map_map, String.ofList_comp_toList, List.map_id]
  rw [locate_eq_ok_iff, origin, String.toList_ofList]
  refine ⟨null, fun empty => ?_, short, ?_⟩
  · have nothing := String.ofList_eq_empty_iff.mp empty
    obtain rfl | rfl := absolute <;> cases nothing
  · obtain rfl | rfl := absolute
    · simp only [List.cons_append, List.nil_append, List.head?_cons, if_true, Path.components,
        components_join_names names below, List.map_cons, parts]
      exact (walk_top place).trans walked
    · simp only [List.cons_append, List.nil_append, List.head?_cons, if_true, Path.components,
        components_join_names names below, List.map_cons, parts]
      exact (walk_top _).trans ((walk_top place).trans walked)

end Proper

end Hexwire.FileTree
