import Hexwire.Proofs.Document.Faults

/-! # Kinds of failures of documents

Whatever a document holds that becomes no value, the failure is one of the host, with a text and of
one of six kinds (`Hexwire.Document.Unbuildable.ofHost`). None of them is one that the host raises
for files.
-/

namespace Hexwire.Document

/-- The kinds of what documents fail with. -/
def hostKinds : List HostKind := [.value, .index, .key, .overflow, .missingAttribute, .type]

/-- A failure is one of the host that documents fail with. -/
def OfHost (failure : Failure) : Prop :=
  ∃ kind ∈ hostKinds, ∃ text, failure = .ofText kind text

/-- A failure with a text is the host's if its kind is one that scalars fail with. -/
theorem ofHost_ofText {kind : HostKind} (among : kind ∈ hostKinds) (text : String) :
    OfHost (.ofText kind text) := ⟨kind, among, text, rfl⟩

/-- A number of too many digits fails as the host says. -/
theorem ofHost_tooManyDigits (count : Nat) : OfHost (tooManyDigits count) :=
  ofHost_ofText (by decide) _

namespace Yaml.Literal

/-- A scalar may fail with a kind of the host. -/
theorem settled_failed {α : Type} {kind : HostKind} (among : kind ∈ hostKinds) (text : String) :
    Settled OfHost (failed kind text : Except Fault α) := .failed (ofHost_ofText among text)

theorem settled_tooShort {α : Type} : Settled OfHost (tooShort : Except Fault α) :=
  settled_failed (by decide) _

theorem settled_integerIn (base : Nat) (text : List Char) :
    Settled OfHost (integerIn base text) := by
  unfold integerIn
  cases Integer.parse base text with
  | ok n => exact .ok _
  | error fault =>
      cases fault with
      | malformed => exact .failed (ofHost_ofText (by decide) _)
      | tooManyDigits count => exact .failed (ofHost_tooManyDigits count)

theorem settled_magnitude (text : List Char) : Settled OfHost (magnitude text) := by
  unfold magnitude
  split
  · exact settled_tooShort
  · exact .ok _
  · exact settled_integerIn _ _
  · exact settled_integerIn _ _
  · exact settled_integerIn _ _
  · refine .ite ?_ (settled_integerIn _ _)
    have parts : Settled OfHost ((colonParts text).mapM (integerIn 10)) :=
      .mapM (settled_integerIn 10)
    cases read : (colonParts text).mapM (integerIn 10) with
    | ok parts => exact .ok _
    | error fault => exact parts.stop read

/-- An integer that cannot be read fails as the host says. -/
theorem settled_integer (text : List Char) : Settled OfHost (integer text) := by
  unfold integer
  split
  · exact settled_tooShort
  · exact .map _ (settled_magnitude _)
  · exact settled_magnitude _
  · exact settled_magnitude _

theorem settled_binaryIn (text : List Char) : Settled OfHost (binaryIn text) := by
  unfold binaryIn
  split
  · exact .ok _
  · exact settled_failed (by decide) _

/-- Sums to the base of sixty fail as the host says, however many parts there are. -/
theorem settled_sumSixties (parts : List Binary64) :
    ∀ power total, Settled OfHost (sumSixties power total parts) := by
  induction parts with
  | nil => exact fun _ _ => .ok _
  | cons part rest ih =>
      intro power total
      unfold sumSixties
      split
      · exact settled_failed (by decide) _
      · exact ih _ _

theorem settled_floatMagnitude (text : List Char) : Settled OfHost (floatMagnitude text) := by
  refine .ite (.ok _) (.ite (.ok _) (.ite ?_ (settled_binaryIn _)))
  have parts : Settled OfHost ((colonParts text).mapM binaryIn) := .mapM settled_binaryIn
  cases read : (colonParts text).mapM binaryIn with
  | ok parts => exact settled_sumSixties _ _ _
  | error fault => exact parts.stop read

/-- A number with a fraction that cannot be read fails as the host says. -/
theorem settled_float (text : List Char) : Settled OfHost (float text) := by
  unfold float
  split
  · exact settled_tooShort
  · exact .map _ (settled_floatMagnitude _)
  · exact settled_floatMagnitude _
  · exact settled_floatMagnitude _

/-- A truth value that cannot be read fails as the host says. -/
theorem settled_truth (text : List Char) : Settled OfHost (truth text) :=
  .ite (.ok _) (.ite (.ok _) (settled_failed (by decide) _))

theorem settled_ofWritten (written : WrittenMoment) : Settled OfHost (ofWritten written) := by
  unfold ofWritten
  split
  · split
    · exact .ok _
    · exact settled_failed (by decide) _
  · refine .ite (settled_failed (by decide) _) ?_
    split
    · exact .ok _
    · exact settled_failed (by decide) _

/-- A timestamp that cannot be read fails as the host says. -/
theorem settled_timestamp (text : List Char) : Settled OfHost (timestamp text) := by
  unfold timestamp
  split
  · exact settled_ofWritten _
  · exact settled_failed (by decide) _

/-- A scalar fails for good only with a failure of the host. -/
theorem settled_value (tag : Tag) (text : List Char) : Settled OfHost (value tag text) := by
  unfold value
  split
  · exact .ok _
  · exact .map _ (settled_truth _)
  · exact .map _ (settled_integer _)
  · exact .map _ (settled_float _)
  · refine .ite ?_ .malformed
    split
    · exact .ok _
    · exact .malformed
  · exact settled_timestamp _
  · exact .ok _
  · exact .malformed

end Yaml.Literal

/-- **What becomes no value is refused by the host**, with a text. -/
theorem Unbuildable.ofHost {failure : Failure} (unbuildable : Unbuildable failure) :
    OfHost failure := by
  cases unbuildable with
  | number long => exact ofHost_tooManyDigits _
  | character beyond =>
      unfold Yaml.Scan.beyondLast
      split
      · exact ofHost_ofText (by decide) _
      · exact ofHost_ofText (by decide) _
  | scalar unread => exact Yaml.Literal.settled_value _ _ _ unread
  | mapping => exact ofHost_ofText (by decide) _

end Hexwire.Document
