import Hexwire.Proofs.Document.Assembling
import Hexwire.Proofs.Document.Json
import Hexwire.Proofs.Document.Literal
import Hexwire.Settings.Configuration

/-! # What loading a configuration fails with

Loading a configuration is documented to give a mapping that is not empty or to fail with a failure
of the package (`Hexwire.Configuration.Documented`). Files whose octets are no text and documents
that hold what becomes no value fail with failures of the host instead
(`Hexwire.Configuration.Escapes`), and nothing else does
(`Hexwire.Configuration.documented_unless_escapes`).
-/

namespace Hexwire

/-- Reading a document fails for good only with what it can hold. -/
theorem Document.settled_parse (text : List Char) : Settled Unbuildable (parse text) := by
  unfold parse
  cases strict : Json.parse text with
  | ok value => exact .ok _
  | error fault =>
      cases fault with
      | failed failure => exact .failed (Json.settled_parse text failure strict)
      | malformed => exact fun failure failed => Yaml.explained_parse failed

namespace PathFault

/-- Every fault of a path but a null character is a failure of the host's system. -/
theorem isHost_failure {fault : PathFault} (other : fault ≠ .nullCharacter) (path : String) :
    (fault.failure path).isHost .os := by
  cases fault with
  | nullCharacter => exact absurd rfl other
  | _ => rfl

end PathFault

namespace FileTree

/-- Looking into a directory never complains of a null character. -/
theorem child_ne_nullCharacter (tree : FileTree) (directory : List String) (name : String) :
    tree.child directory name ≠ .error .nullCharacter := by
  unfold child
  split
  · rintro ⟨⟩
  · rintro ⟨⟩

/-- Walking along a path never complains of a null character. -/
theorem walk_ne_nullCharacter (tree : FileTree) (parts : List String) :
    ∀ place, tree.walk place parts ≠ .error .nullCharacter := by
  induction parts with
  | nil => rintro place ⟨⟩
  | cons part rest ih =>
      intro place
      unfold walk
      split
      · split
        · exact ih _
        · rintro ⟨⟩
      · split
        · split
          · exact ih _
          · rintro ⟨⟩
        · split
          · rintro ⟨⟩
          · cases below : tree.child place part with
            | error fault =>
                rintro ⟨⟩
                exact child_ne_nullCharacter tree place part below
            | ok entry =>
                cases entry with
                | none =>
                    dsimp only
                    split
                    · rintro ⟨⟩
                    · rintro ⟨⟩
                | some entry => exact ih _

/-- A path is refused for a null character exactly if it has one. -/
theorem locate_eq_nullCharacter_iff {tree : FileTree} {path : String} :
    tree.locate path = .error .nullCharacter ↔ '\x00' ∈ path.toList := by
  unfold locate
  by_cases member : '\x00' ∈ path.toList
  · rw [if_pos (by simpa using member)]
    simp only [member]
  · rw [if_neg (by simpa using member)]
    refine iff_of_false ?_ member
    split
    · rintro ⟨⟩
    · split
      · rintro ⟨⟩
      · dsimp only
        split
        · exact walk_ne_nullCharacter tree _ _
        · exact walk_ne_nullCharacter tree _ _

/-- A path is refused for a null character exactly when it holds one. -/
theorem read_eq_nullCharacter_iff {tree : FileTree} {path : String} :
    tree.read path = .error .nullCharacter ↔ '\x00' ∈ path.toList := by
  have refused : tree.locate path = .error .nullCharacter ↔ '\x00' ∈ path.toList :=
    locate_eq_nullCharacter_iff
  rw [← refused]
  unfold read
  split <;> simp_all

end FileTree

namespace Configuration

open Document

/-- What loading a configuration is documented to end with. -/
def Documented : Except Raised (List (Value × Value)) → Prop
  | .ok entries => entries ≠ []
  | .error raised => ∃ text, raised.failure = .package .general (some text)

/-- What loading a configuration from a path lets through. -/
inductive Escapes (tree : FileTree) (path : String) : Failure → Prop where
  | nullCharacter (member : '\x00' ∈ path.toList) :
      Escapes tree path (.ofText .value "embedded null byte")
  | notText {contents : Bytes} {fault : Utf8.Fault} (read : tree.read path = .ok contents)
      (unread : Utf8.decode contents = .error fault) : Escapes tree path (fault.failure "utf-8")
  | unbuilt {contents : Bytes} {text : List Char} {failure : Failure}
      (read : tree.read path = .ok contents) (decoded : Utf8.decode contents = .ok text)
      (failed : parse (plainLines text) = .error (.failed failure)) : Escapes tree path failure

variable {tree : FileTree} {path : String} {failure : Failure}

/-- What escapes is raised as it is. -/
theorem Escapes.raised (escapes : Escapes tree path failure) :
    load tree path = .error failure.raised := by
  cases escapes with
  | nullCharacter member =>
      have refused : tree.read path = .error .nullCharacter :=
        FileTree.read_eq_nullCharacter_iff.mpr member
      simp only [load, FileTree.readText, refused]
      rfl
  | notText read unread =>
      simp only [load, FileTree.readText, read, unread]
      rfl
  | unbuilt read decoded failed =>
      simp only [load, FileTree.readText, read, decoded, failed]

/-- What escapes is one of the host's failures that take a text. -/
theorem Escapes.cases (escapes : Escapes tree path failure) :
    failure = .ofText .value "embedded null byte" ∨
      (∃ reason, failure = .ofText .unicodeDecode reason) ∨
      Unbuildable failure ∧ OfHost failure := by
  cases escapes with
  | nullCharacter _ => exact .inl rfl
  | notText _ _ => exact .inr (.inl ⟨_, rfl⟩)
  | unbuilt _ _ failed =>
      have unbuildable := settled_parse _ _ failed
      exact .inr (.inr ⟨unbuildable, unbuildable.ofHost⟩)

/-- What escapes is no failure of the package. -/
theorem Escapes.isPackage (escapes : Escapes tree path failure) : failure.isPackage = false := by
  obtain rfl | ⟨_, rfl⟩ | ⟨-, _, -, _, rfl⟩ := escapes.cases <;> rfl

/-- Where nothing escapes, loading ends as documented. -/
theorem documented_load (contained : ∀ failure, ¬ Escapes tree path failure) :
    Documented (load tree path) := by
  cases read : tree.read path with
  | error fault =>
      have other : fault ≠ .nullCharacter := by
        rintro rfl
        exact contained _ (.nullCharacter (FileTree.read_eq_nullCharacter_iff.mp read))
      have host : (fault.failure path).isHost .os := PathFault.isHost_failure other path
      simp only [load, FileTree.readText, read, if_pos host]
      exact ⟨_, rfl⟩
  | ok contents =>
      cases decoded : Utf8.decode contents with
      | error fault => exact absurd (.notText read decoded) (contained _)
      | ok text =>
          cases parsed : parse (plainLines text) with
          | error fault =>
              cases fault with
              | failed failure => exact absurd (.unbuilt read decoded parsed) (contained _)
              | malformed =>
                  simp only [load, FileTree.readText, read, decoded, parsed]
                  exact ⟨_, rfl⟩
          | ok value =>
              simp only [load, FileTree.readText, read, decoded, parsed]
              split
              · next failed => cases failed
              · next failed => cases failed
              · exact ⟨_, rfl⟩
              · next filled same =>
                  cases same
                  exact filled
              · split
                · exact ⟨_, rfl⟩
                · exact ⟨_, rfl⟩

/-- Raising a failure of the host is not documented. -/
theorem Escapes.undocumented (escapes : Escapes tree path failure) :
    ¬ Documented (load tree path) := by
  rw [escapes.raised]
  rintro ⟨text, package⟩
  have foreign : failure.isPackage = false := escapes.isPackage
  rw [show failure = .package .general (some text) from package] at foreign
  cases foreign

/-- **Loading ends as documented exactly where nothing escapes.** What escapes is a failure of the
host with a text, raised as it is: for a null character in the path, for octets that are no text,
or for what the document holds that becomes no value. -/
theorem documented_unless_escapes (tree : FileTree) (path : String) :
    (Documented (load tree path) ↔ ∀ failure, ¬ Escapes tree path failure) ∧
      ∀ failure, Escapes tree path failure →
        load tree path = .error failure.raised ∧ failure.isPackage = false ∧
          (failure = .ofText .value "embedded null byte" ∨
            (∃ reason, failure = .ofText .unicodeDecode reason) ∨
            Unbuildable failure ∧ OfHost failure) := by
  refine ⟨⟨?_, documented_load⟩, fun failure escapes =>
    ⟨escapes.raised, escapes.isPackage, escapes.cases⟩⟩
  intro documented failure escapes
  exact escapes.undocumented documented

/-- A working directory with one file in it. -/
def holding (contents : Bytes) : FileTree where
  entries := [(["work"], .directory), (["work", "a.json"], .file contents)]
  working := ["work"]

/-- The file that is held can be read. -/
theorem read_holding (contents : Bytes) : (holding contents).read "a.json" = .ok contents := by
  have parts : (Path.components "a.json".toList).map String.ofList = ["a.json"] := by
    decide +kernel
  have plain : "a.json".toList.contains '\x00' = false := by decide
  have whole : ¬ FileTree.pathLimit ≤ "a.json".utf8ByteSize := by decide
  have short : ¬ FileTree.nameLimit < "a.json".utf8ByteSize := by decide
  have relative : "a.json".toList = ['a', '.', 'j', 's', 'o', 'n'] := by decide
  have located : (holding contents).locate "a.json" =
      .ok (["work", "a.json"], some (.file contents)) := by
    simp only [FileTree.locate, plain, parts]
    simp [whole, short, relative, holding, FileTree.walk, FileTree.child, FileTree.entry?]
  simp only [FileTree.read, located]

/-- A file of octets that are no text escapes with their fault. -/
theorem escapes_holding {contents : Bytes} {fault : Utf8.Fault}
    (unread : Utf8.decode contents = .error fault) :
    Escapes (holding contents) "a.json" (fault.failure "utf-8") :=
  .notText (read_holding contents) unread

/-- A mapping with one entry, `{"a": 1}`, is loaded; an octet that starts no character escapes. -/
theorem documented_entry :
    Documented (load (holding [0x7B, 0x22, 0x61, 0x22, 0x3A, 0x20, 0x31, 0x7D]) "a.json") ∧
      ∃ reason, load (holding [0xC1]) "a.json" =
        .error (Failure.ofText .unicodeDecode reason).raised := by
  have loaded :
      (load (holding [0x7B, 0x22, 0x61, 0x22, 0x3A, 0x20, 0x31, 0x7D]) "a.json").isOk := by
    decide +kernel
  refine ⟨(documented_unless_escapes _ _).1.mpr fun failure escapes => ?_,
    _, ((documented_unless_escapes _ _).2 _ (escapes_holding rfl)).1⟩
  rw [((documented_unless_escapes _ _).2 _ escapes).1] at loaded
  cases loaded

/-- An octet that starts no character escapes. -/
theorem undocumented_octet :
    load (holding [0xFF]) "a.json" = .error (Failure.ofText .unicodeDecode
        "'utf-8' codec can't decode byte 0xff in position 0: invalid start byte").raised ∧
      ¬ Documented (load (holding [0xFF]) "a.json") := by
  have unread : Utf8.decode [0xFF] = .error ⟨.start, 0, 1, 0xFF⟩ := by rfl
  have escapes : Escapes (holding [0xFF]) "a.json" _ := escapes_holding unread
  have text : Utf8.Fault.failure "utf-8" ⟨.start, 0, 1, 0xFF⟩ = .ofText .unicodeDecode
      "'utf-8' codec can't decode byte 0xff in position 0: invalid start byte" := by rfl
  exact ⟨text ▸ escapes.raised, escapes.undocumented⟩

end Configuration

end Hexwire
