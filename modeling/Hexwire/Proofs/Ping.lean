import Hexwire.Ping
import Hexwire.Text.Escape

/-! # What a ping counts

A ping counts the positions at which what came back is what was sent. Where as much came back as was
sent, that is all of them exactly when the same came back (`Hexwire.Ping.succeeded_iff`), and for a
payload of one octet over and over it is the count of that octet in what came back
(`Hexwire.Ping.unchanged_replicate`).
-/

namespace Hexwire

/-- A text without an escape character has no controls to lose. -/
theorem Text.withoutControls_of_plain {text : String} (plain : '\x1b' ∉ text.toList) :
    withoutControls text = text := by
  have kept : dropRuns controlSize 0 text.toList = text.toList := by
    apply dropRuns_of_all_zero
    intro tail within
    unfold controlSize
    split
    · rename_i rest
      exact absurd (within.subset List.mem_cons_self) plain
    · rfl
  rw [withoutControls, kept, String.ofList_toList]

namespace Ping

/-- A size and a filler that a payload can have. -/
def Fits (size filler : Int) : Prop := 0 < size ∧ 0 ≤ filler ∧ filler ≤ 0xFF

/-- The octet of a filler. -/
def octet (filler : Int) : UInt8 := UInt8.ofNat filler.toNat

variable {memory size filler : Int} {sent received : Bytes}

/-- A size or a filler that does not fit ends the ping with code one. -/
theorem payload_of_unfit (unfit : ¬ Fits size filler) :
    ∃ text, payload memory size filler = .error (.application (some text) 1) := by
  unfold payload
  by_cases empty : size ≤ 0
  · rw [if_pos empty]
    exact ⟨_, rfl⟩
  · rw [if_neg empty, if_pos]
    · exact ⟨_, rfl⟩
    · unfold Fits at unfit
      omega

/-- There are sizes that fit, but that the host refuses. -/
theorem payload_of_fits (fits : Fits size filler) :
    payload memory size filler = .ok (List.replicate size.toNat (octet filler)) ∨
      ∃ failure, payload memory size filler = .error failure ∧
        (failure = .ofText .overflow "cannot fit 'int' into an index-sized integer" ∨
          failure = .host .memory []) := by
  obtain ⟨positive, least, most⟩ := fits
  unfold payload
  rw [if_neg (by omega), if_neg (by omega)]
  by_cases countless : countLimit ≤ size
  · rw [if_pos countless]
    exact .inr ⟨_, rfl, .inl rfl⟩
  · rw [if_neg countless]
    by_cases huge : memory ≤ size
    · rw [if_pos huge]
      exact .inr ⟨_, rfl, .inr rfl⟩
    · rw [if_neg huge]
      exact .inl rfl

/-- A ping succeeds exactly when what was sent has come back. -/
theorem succeeded_iff (sized : received.length = sent.length) :
    succeeded sent received ↔ received = sent := by
  have zipped : (sent.zip received).length = sent.length := by
    rw [List.length_zip, sized, Nat.min_self]
  unfold succeeded unchanged
  rw [decide_eq_true_iff, ← zipped, List.countP_eq_length]
  constructor
  · intro all
    apply List.ext_getElem sized
    intro index first second
    have place : index < (sent.zip received).length := zipped ▸ second
    have same := all _ (List.getElem_mem place)
    rw [List.getElem_zip] at same
    exact (of_decide_eq_true same).symm
  · rintro rfl pair member
    obtain ⟨index, place, rfl⟩ := List.getElem_of_mem member
    rw [List.getElem_zip]
    exact decide_eq_true rfl

/-- With one octet sent over and over, the positions that are unchanged are those that hold it. -/
theorem unchanged_replicate (octet : UInt8) (received : Bytes) :
    unchanged (List.replicate received.length octet) received = received.count octet := by
  induction received with
  | nil => rfl
  | cons first rest ih =>
      unfold unchanged at ih ⊢
      rw [List.length_cons, List.replicate_succ, List.zip_cons_cons, List.countP_cons, ih,
        List.count_cons]
      by_cases same : octet = first
      · simp only [same, decide_true, BEq.rfl]
      · have other : (first == octet) = false := beq_false_of_ne fun back => same back.symm
        simp only [same, other, decide_false]

/-- The report of a ping, where what came back is as long as what was sent. -/
theorem report_replicate (octet : UInt8) (received : Bytes) :
    report (List.replicate received.length octet) received =
      "Sent " ++ toString received.length ++ " bytes, " ++ toString (received.count octet) ++
        " bytes echoed back unchanged" := by
  rw [report, unchanged_replicate, List.length_replicate]

/-- A number is written without an escape character. -/
theorem escape_notMem_toString (n : Nat) : '\x1b' ∉ (toString n).toList := by
  rw [Nat.toString_eq_ofList_toDigits, String.toList_ofList]
  intro member
  have digit := Nat.isDigit_of_mem_toDigits (by decide) (by decide) member
  exact absurd digit (by decide)

/-- A report holds nothing that a terminal takes as a command. -/
theorem withoutControls_report (sent received : Bytes) :
    Text.withoutControls (report sent received ++ "\n") = report sent received ++ "\n" := by
  apply Text.withoutControls_of_plain
  simp only [report, String.toList_append, List.mem_append, not_or]
  refine ⟨⟨⟨⟨⟨by decide, ?_⟩, by decide⟩, ?_⟩, by decide⟩, by decide⟩
  · exact escape_notMem_toString _
  · exact escape_notMem_toString _

end Ping

end Hexwire
