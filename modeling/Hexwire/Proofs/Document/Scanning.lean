import Hexwire.Document.Yaml.Token
import Hexwire.Proofs.Document.Faults

/-! # What reading tokens fails with

No step of reading tokens fails for good but for a version of too many digits and an escape by a
code that no character has. A failure for good ends the tokens and stands among them as the last
(`Hexwire.Document.Yaml.Token.explained_ofText`).
-/

namespace Hexwire.Document.Yaml

/-- Reading explains its faults in whatever state it starts. -/
abbrev Steady {σ α : Type} (reading : StateT σ (Except Fault) α) : Prop :=
  Explains (fun _ => True) reading

namespace Steady

variable {σ : Type}

/-- A change of the state is steady, as it throws nothing. -/
theorem rewrite (change : σ → σ) : Steady (modify change : StateT σ (Except Fault) PUnit) :=
  fun _ _ => trivial

end Steady

namespace Scan

theorem steady_fail {α : Type} : Steady (fail : Scan α) := .throw trivial

theorem steady_require (condition : Bool) : Steady (require condition) :=
  .ite (.pure _) steady_fail

theorem steady_peek : Steady peek := .bind .get fun _ => .pure _

theorem steady_skip (count : Nat) : Steady (skip count) := .rewrite _

theorem steady_takeWhile (p : Char → Bool) : Steady (takeWhile p) :=
  .bind .get fun _ => .bind (steady_skip _) fun _ => .pure _

theorem steady_lineBreak : Steady lineBreak := by
  refine .bind steady_peek fun c => ?_
  cases c with
  | none => exact .pure _
  | some c => exact .ite (.bind (steady_skip _) fun _ => .pure _) (.pure _)

theorem steady_comment : Steady comment :=
  .bind (steady_takeWhile _) fun _ => .bind steady_peek fun _ =>
    .ite (.bind (steady_takeWhile _) fun _ => .pure _) (.pure _)

theorem steady_restOfLine : Steady restOfLine :=
  .bind steady_comment fun _ => .bind steady_peek fun _ => .bind (steady_require _) fun _ =>
    .bind steady_lineBreak fun _ => .pure _

theorem steady_gap (fuel : Nat) : Steady (gap fuel) := by
  induction fuel with
  | zero => exact .pure _
  | succ fuel ih =>
      refine .bind steady_comment fun _ => .bind steady_lineBreak fun broken => ?_
      cases broken with
      | nil => exact .pure _
      | cons _ _ => exact .bind ih fun _ => .pure _

theorem steady_name : Steady name :=
  .bind (steady_takeWhile _) fun _ => .bind (steady_require _) fun _ => .pure _

theorem steady_reference : Steady reference :=
  .bind (steady_skip _) fun _ => .bind steady_name fun _ => .bind steady_peek fun _ =>
    .bind (steady_require _) fun _ => .pure _

/-- An address is read steadily, however long it is. -/
theorem steady_uri (fuel : Nat) : Steady (uri fuel) := by
  induction fuel with
  | zero => exact .pure _
  | succ fuel ih =>
      refine .bind (steady_takeWhile _) fun _ => .bind steady_peek fun _ => .ite ?_ (.pure _)
      refine .bind .get fun cursor => ?_
      cases escapedOctets cursor.rest with
      | none => exact steady_fail
      | some octets =>
          dsimp only
          cases Utf8.decode octets with
          | error _ => exact steady_fail
          | ok _ => exact .bind (steady_skip _) fun _ => .bind ih fun _ => .pure _

theorem steady_tagText : Steady tagText :=
  .bind .get fun _ => .bind .get fun _ => .bind (steady_uri _) fun _ => .bind .get fun _ =>
    .bind (steady_require _) fun _ => .pure _

theorem steady_handle : Steady handle :=
  .bind steady_peek fun _ => .bind (steady_require _) fun _ => .bind .get fun _ =>
    .ite (.bind (steady_skip _) fun _ => .pure _)
      (.bind (steady_require _) fun _ => .bind (steady_skip _) fun _ => .pure _)

theorem steady_tag : Steady tag := by
  refine .bind .get fun cursor => ?_
  extract_lets second whole
  have finish (written : WrittenTag) : Steady (whole written) :=
    .bind steady_peek fun _ => .bind (steady_require _) fun _ => .pure _
  clear_value whole
  have handled (chosen : String) :
      Steady (tagText >>= fun text => pure ⟨some chosen, text⟩ >>= whole) :=
    .bind steady_tagText fun _ => .bind (.pure _) finish
  refine .ite ?_ (.ite ?_ (.bind .get fun word => .ite ?_ ?_))
  · exact .bind (steady_skip _) fun _ => .bind steady_tagText fun _ => .bind steady_peek fun _ =>
      .bind (steady_require _) fun _ => .bind (steady_skip _) fun _ => .bind (.pure _) fun _ =>
        finish _
  · exact .bind (steady_skip _) fun _ => .bind (.pure _) fun _ => finish _
  · exact .bind steady_handle handled
  · exact .bind (steady_skip _) fun _ => .bind (.pure _) handled

theorem steady_versionNumber : Steady versionNumber := by
  refine .bind (steady_takeWhile _) fun digits => .bind (steady_require _) fun _ => ?_
  by_cases long : Integer.digitLimit < digits.length
  · simp only [long, ↓reduceIte]
    exact .throw (.number long)
  · simp only [long, ↓reduceIte]
    exact .pure _

theorem steady_versionDirective : Steady versionDirective :=
  .bind (steady_takeWhile _) fun _ => .bind steady_versionNumber fun _ =>
    .bind steady_peek fun _ => .bind (steady_require _) fun _ => .bind (steady_skip _) fun _ =>
      .bind steady_versionNumber fun _ => .bind steady_peek fun _ =>
        .bind (steady_require _) fun _ => .pure _

theorem steady_handleDirective : Steady handleDirective :=
  .bind (steady_takeWhile _) fun _ => .bind steady_handle fun _ => .bind steady_peek fun _ =>
    .bind (steady_require _) fun _ => .bind (steady_takeWhile _) fun _ =>
      .bind steady_tagText fun _ => .bind steady_peek fun _ => .bind (steady_require _) fun _ =>
        .pure _

theorem steady_directive : Steady directive := by
  refine .bind (steady_skip _) fun _ => .bind steady_name fun kind => .bind steady_peek fun _ =>
    .bind (steady_require _) fun _ => ?_
  extract_lets whole
  have finish (found : Directive) : Steady (whole found) :=
    .bind steady_restOfLine fun _ => .pure _
  clear_value whole
  exact .ite (.bind steady_versionDirective finish)
    (.ite (.bind steady_handleDirective finish)
      (.bind (steady_takeWhile _) fun _ => .bind (.pure _) finish))

theorem steady_plainBreaks (fuel : Nat) : Steady (plainBreaks fuel) := by
  induction fuel with
  | zero => exact .pure _
  | succ fuel ih =>
      refine .bind steady_peek fun c => ?_
      cases c with
      | none => exact .pure _
      | some c =>
          refine .ite (.bind (steady_skip _) fun _ => ih) (.ite ?_ (.pure _))
          exact .bind steady_lineBreak fun _ => .bind .get fun _ =>
            .ite (.pure _) (.bind ih fun _ => .pure _)

theorem steady_plainGap : Steady plainGap := by
  refine .bind (steady_takeWhile _) fun _ => .bind steady_peek fun _ => .ite ?_ (.pure _)
  refine .bind steady_lineBreak fun _ => .bind .get fun _ => .ite (.pure _) ?_
  refine .bind .get fun _ => .bind (steady_plainBreaks _) fun others => ?_
  cases others with
  | none => exact .pure _
  | some _ => exact .pure _

/-- Plain words are read steadily, however many there are. -/
theorem steady_plainWords (inFlow : Bool) (indent : Int) (fuel : Nat) :
    ∀ separation broken, Steady (plainWords inFlow indent separation broken fuel) := by
  induction fuel with
  | zero => exact fun _ _ => .pure _
  | succ fuel ih =>
      intro separation broken
      refine .bind .get fun _ => .bind steady_peek fun _ => .ite (.pure _) ?_
      refine .bind (steady_skip _) fun _ => .bind steady_plainGap fun next => ?_
      exact .bind .get fun _ => .ite (.pure _) (.bind (ih _ _) fun _ => .pure _)

theorem steady_plain (inFlow : Bool) (indent : Int) : Steady (plain inFlow indent) :=
  .bind .get fun _ => steady_plainWords _ _ _ _ _

/-- A character by its code fails only beyond the last one. -/
theorem steady_ofCode (code : Nat) : Steady (ofCode code) := by
  unfold ofCode
  by_cases beyond : 0x10FFFF < code
  · simp only [beyond, ↓reduceIte]
    exact .throw (.character beyond)
  · simp only [beyond, ↓reduceIte]
    refine .ite (.bind .get fun cursor => ?_) (.ite (.pure _) (.pure _))
    split
    · split
      · exact .ite (.bind (steady_skip _) fun _ => .pure _) (.pure _)
      · exact .pure _
    · exact .pure _

theorem steady_quotedBreaks (fuel : Nat) : Steady (quotedBreaks fuel) := by
  induction fuel with
  | zero => exact steady_fail
  | succ fuel ih =>
      refine .bind .get fun _ => .bind (steady_require _) fun _ =>
        .bind (steady_takeWhile _) fun _ => .bind steady_lineBreak fun broken => ?_
      cases broken with
      | nil => exact .pure _
      | cons _ _ => exact .bind ih fun _ => .pure _

theorem steady_escape : Steady escape := by
  refine .bind steady_peek fun c => ?_
  cases c with
  | none => exact steady_fail
  | some c =>
      dsimp only
      split
      · exact .bind (steady_skip _) fun _ => .pure _
      · refine .bind (steady_skip _) fun _ => .bind .get fun _ => ?_
        split
        · exact steady_fail
        · exact .bind (steady_skip _) fun _ => .bind (steady_ofCode _) fun _ => .pure _
      · exact .ite (.bind steady_lineBreak fun _ => .bind .get fun _ => steady_quotedBreaks _)
          steady_fail

theorem steady_quotedRun (double : Bool) (fuel : Nat) : Steady (quotedRun double fuel) := by
  induction fuel with
  | zero => exact steady_fail
  | succ fuel ih =>
      have continuing (text : List Char) :
          Steady (do
            let others ← quotedRun double fuel
            pure (text ++ others) : Scan (List Char)) :=
        .bind ih fun _ => .pure _
      refine .bind steady_peek fun c => ?_
      cases c with
      | none => exact .pure _
      | some c =>
          refine .ite (.pure _) (.ite (.bind .get fun _ => ?_) (.ite (.pure _) (.ite ?_ ?_)))
          · exact .ite (.bind (steady_skip _) fun _ => continuing _) (.pure _)
          · exact .bind (steady_skip _) fun _ => .bind steady_escape fun _ => continuing _
          · exact .bind (steady_skip _) fun _ => continuing _

theorem steady_quotedGap : Steady quotedGap := by
  refine .bind (steady_takeWhile _) fun _ => .bind steady_peek fun c => ?_
  cases c with
  | none => exact steady_fail
  | some _ =>
      exact .ite (.bind steady_lineBreak fun _ => .bind .get fun _ =>
        .bind (steady_quotedBreaks _) fun _ => .pure _) (.pure _)

/-- Quoted words are read steadily, however many there are. -/
theorem steady_quotedWords (double : Bool) (fuel : Nat) : Steady (quotedWords double fuel) := by
  induction fuel with
  | zero => exact steady_fail
  | succ fuel ih =>
      exact .bind .get fun _ => .bind (steady_quotedRun _ _) fun _ => .bind steady_peek fun _ =>
        .ite (.bind (steady_skip _) fun _ => .pure _)
          (.bind steady_quotedGap fun _ => .bind ih fun _ => .pure _)

theorem steady_quoted (double : Bool) : Steady (quoted double) :=
  .bind (steady_skip _) fun _ => .bind .get fun _ => steady_quotedWords _ _

theorem steady_announcedIndent : Steady announcedIndent := by
  refine .bind steady_peek fun c => ?_
  cases c with
  | none => exact .pure _
  | some _ =>
      exact .ite (.bind (steady_require _) fun _ => .bind (steady_skip _) fun _ => .pure _)
        (.pure _)

theorem steady_blockHeader : Steady blockHeader := by
  refine .bind steady_peek fun c => ?_
  extract_lets whole
  have finish (header : Chomping × Option Nat) : Steady (whole header) :=
    .bind steady_peek fun _ => .bind (steady_require _) fun _ =>
      .bind steady_restOfLine fun _ => .pure _
  clear_value whole
  split
  · exact .bind (steady_skip _) fun _ => .bind steady_announcedIndent fun _ => finish _
  · refine .bind steady_announcedIndent fun announced => ?_
    cases announced with
    | none => exact finish _
    | some _ =>
        refine .bind steady_peek fun c => ?_
        split
        · exact .bind (steady_skip _) fun _ => finish _
        · exact finish _

theorem steady_leadingBreaks (fuel : Nat) : ∀ widest, Steady (leadingBreaks widest fuel) := by
  induction fuel with
  | zero => exact fun _ => .pure _
  | succ fuel ih =>
      refine fun _ => .bind steady_peek fun c => ?_
      cases c with
      | none => exact .pure _
      | some _ =>
          exact .ite (.bind (steady_skip _) fun _ => .bind .get fun _ => ih _)
            (.ite (.bind steady_lineBreak fun _ => .bind (ih _) fun _ => .pure _) (.pure _))

theorem steady_indentTo (column : Nat) : Steady (indentTo column) :=
  .bind .get fun _ => steady_skip _

theorem steady_blockBreaks (indent fuel : Nat) : Steady (blockBreaks indent fuel) := by
  induction fuel with
  | zero => exact .pure _
  | succ fuel ih =>
      refine .bind (steady_indentTo _) fun _ => .bind steady_lineBreak fun broken => ?_
      cases broken with
      | nil => exact .pure _
      | cons _ _ => exact .bind ih fun _ => .pure _

/-- The lines of a block are read steadily, however many there are. -/
theorem steady_blockLines (folded : Bool) (indent fuel : Nat) :
    ∀ before, Steady (blockLines folded indent before fuel) := by
  induction fuel with
  | zero => exact fun _ => .pure _
  | succ fuel ih =>
      refine fun _ => .bind .get fun _ => .ite (.bind (steady_takeWhile _) fun _ => ?_) (.pure _)
      exact .bind steady_lineBreak fun _ => .bind .get fun _ => .bind (steady_blockBreaks _ _)
        fun _ => .bind .get fun _ => .ite (.bind (ih _) fun _ => .pure _) (.pure _)

theorem steady_block (folded : Bool) (outer : Int) : Steady (block folded outer) := by
  refine .bind (steady_skip _) fun _ => .bind steady_blockHeader fun header => ?_
  obtain ⟨chomping, announced⟩ := header
  refine .bind .get fun _ => ?_
  extract_lets fuel lines
  have finish (start : Nat × List Char) : Steady (lines start) := by
    refine .bind (steady_blockLines _ _ _ _) fun _ => ?_
    cases chomping <;> exact .pure _
  clear_value lines
  cases announced with
  | none => exact .bind (steady_leadingBreaks _ _) fun _ => .bind (.pure _) finish
  | some _ => exact .bind (steady_blockBreaks _ _) fun _ => .bind (.pure _) finish

end Scan

/-- A token that stands for a failure stands for one of what a document can hold. -/
def Token.Explained : Token → Prop
  | broken failure => Unbuildable failure
  | _ => True

/-- Every token that has been read is explained. -/
def TokenStream.Explained (stream : TokenStream) : Prop :=
  ∀ token ∈ stream.tokens, token.Explained

namespace Tokenizer

/-- Reading of tokens explains its faults and its tokens. -/
abbrev Sound {α : Type} (reading : Tokenizer α) : Prop := Explains TokenStream.Explained reading

theorem sound_fail {α : Type} : Sound (fail : Tokenizer α) := .throw trivial

/-- A steady reading is a sound step of a tokenizer. -/
theorem sound_scan {α : Type} {reading : Scan α} (steady : Steady reading) :
    Sound (scan reading) := by
  refine .get_bind fun stream before => ?_
  have start := steady stream.cursor trivial
  cases ran : reading.run stream.cursor with
  | error fault =>
      rw [ran] at start
      exact .throw start
  | ok found => exact .bind (.set before) fun _ => .pure _

/-- A token that is explained may be emitted. -/
theorem sound_emit {token : Token} (explained : token.Explained) : Sound (emit token) := by
  refine .rewrite fun stream before => ?_
  intro other member
  rcases Array.mem_push.mp member with old | rfl
  · exact before other old
  · exact explained

theorem sound_emitAt (position : Nat) {token : Token} (explained : token.Explained) :
    Sound (emitAt position token) := by
  refine .rewrite fun stream before => ?_
  intro other member
  dsimp only at member
  unfold Array.insertIdxIfInBounds at member
  split at member
  · rcases Array.mem_insertIdx.mp member with rfl | old
    · exact explained
    · exact before other old
  · exact before other member

theorem sound_allowKey (allowed : Bool) : Sound (allowKey allowed) :=
  .rewrite fun _ before => before

theorem sound_inFlow : Sound inFlow := .bind .get fun _ => .pure _

theorem sound_dropCandidate : Sound dropCandidate := by
  refine .get_bind fun stream before => ?_
  split
  · exact .pure _
  · exact .ite sound_fail (.set before)

theorem sound_dropStale : Sound dropStale :=
  .get_bind fun _ before => .ite sound_fail (.set before)

theorem sound_saveCandidate : Sound saveCandidate :=
  .bind .get fun _ => .ite (.bind sound_dropCandidate fun _ =>
    .get_bind fun _ before => .set before) (.pure _)

/-- Leaving blocks emits ends of blocks only. -/
theorem sound_unwind (column : Int) : Sound (unwind column) := by
  refine .bind sound_inFlow fun _ => .ite (.get_bind fun stream before => .set ?_) (.pure _)
  intro token member
  rcases Array.mem_append.mp member with old | new
  · exact before token old
  · rw [(Array.mem_replicate.mp new).2]
    trivial

theorem sound_indentTo (column : Nat) : Sound (indentTo column) :=
  .get_bind fun _ before => .ite (.bind (.set before) fun _ => .pure _) (.pure _)

theorem sound_startBlock {start : Token} (explained : start.Explained) :
    Sound (startBlock start) := by
  refine .bind sound_inFlow fun _ => .ite (.bind .get fun _ => ?_) (.pure _)
  extract_lets begin
  have begun (allowed : Unit) : Sound (begin allowed) :=
    .bind (sound_indentTo _) fun _ => .ite (sound_emit explained) (.pure _)
  clear_value begin
  exact .ite (.bind sound_fail begun) (begun _)

theorem sound_mark {token : Token} (explained : token.Explained) : Sound (mark token) :=
  .bind (sound_scan (Scan.steady_skip 1)) fun _ => sound_emit explained

theorem sound_documentMark {token : Token} (explained : token.Explained) :
    Sound (documentMark token) :=
  .bind (sound_unwind _) fun _ => .bind sound_dropCandidate fun _ =>
    .bind (sound_allowKey _) fun _ => .bind (sound_scan (Scan.steady_skip 3)) fun _ =>
      sound_emit explained

theorem sound_directive : Sound directive :=
  .bind (sound_unwind _) fun _ => .bind sound_dropCandidate fun _ =>
    .bind (sound_allowKey _) fun _ => .bind (sound_scan Scan.steady_directive) fun _ =>
      sound_emit trivial

theorem sound_flowStart {token : Token} (explained : token.Explained) :
    Sound (flowStart token) :=
  .bind sound_saveCandidate fun _ => .bind (.rewrite fun _ before => before) fun _ =>
    .bind (sound_allowKey _) fun _ => sound_mark explained

theorem sound_flowEnd {token : Token} (explained : token.Explained) : Sound (flowEnd token) := by
  refine .bind sound_dropCandidate fun _ => .bind sound_inFlow fun _ => ?_
  extract_lets leave
  have left (opened : Unit) : Sound (leave opened) :=
    .bind (.rewrite fun _ before => before) fun _ => .bind (sound_allowKey _) fun _ =>
      sound_mark explained
  clear_value leave
  exact .ite (.bind sound_fail left) (left _)

theorem sound_flowEntry : Sound flowEntry :=
  .bind (sound_allowKey _) fun _ => .bind sound_dropCandidate fun _ => sound_mark trivial

theorem sound_blockEntry : Sound blockEntry :=
  .bind (sound_startBlock trivial) fun _ => .bind (sound_allowKey _) fun _ =>
    .bind sound_dropCandidate fun _ => sound_mark trivial

theorem sound_key : Sound key :=
  .bind (sound_startBlock trivial) fun _ => .bind sound_inFlow fun _ =>
    .bind (sound_allowKey _) fun _ => .bind sound_dropCandidate fun _ => sound_mark trivial

theorem sound_value : Sound value := by
  refine .get_bind fun stream before => ?_
  split
  · refine .bind (.set before) fun _ => .bind (sound_emitAt _ trivial) fun _ =>
      .bind sound_inFlow fun _ => ?_
    extract_lets close
    have closed (done : Unit) : Sound (close done) :=
      .bind (sound_allowKey _) fun _ => sound_mark trivial
    clear_value close
    exact .ite (.bind (sound_indentTo _) fun _ =>
        .ite (.bind (sound_emitAt _ trivial) closed) (closed _)) (closed _)
  · exact .bind (sound_startBlock trivial) fun _ => .bind sound_inFlow fun _ =>
      .bind (sound_allowKey _) fun _ => .bind sound_dropCandidate fun _ => sound_mark trivial

/-- A change of the value goes through a scan. -/
theorem scan_map {α β : Type} (change : α → β) (reading : Scan α) :
    scan (change <$> reading) = change <$> scan reading := by
  refine StateT.ext fun stream => ?_
  simp only [scan, StateT.run_map, StateT.run_bind, StateT.run_get, pure_bind]
  cases reading.run stream.cursor with
  | error fault => rfl
  | ok found => rfl

/-- A token that is made of what was read is explained where every such token is. -/
theorem sound_possibleKey {α : Type} {make : α → Token} {reading : Scan α}
    (steady : Steady reading) (explained : ∀ found, (make found).Explained) :
    Sound (possibleKey (make <$> reading)) := by
  unfold possibleKey
  rw [scan_map, bind_map_left]
  exact .bind sound_saveCandidate fun _ => .bind (sound_allowKey _) fun _ =>
    .bind (sound_scan steady) fun found => sound_emit (explained found)

theorem sound_blockScalar (folded : Bool) : Sound (blockScalar folded) :=
  .bind (sound_allowKey _) fun _ => .bind sound_dropCandidate fun _ => .bind .get fun _ =>
    .bind (sound_scan (Scan.steady_block _ _)) fun _ => sound_emit trivial

theorem sound_plain : Sound plain :=
  .bind sound_saveCandidate fun _ => .bind .get fun _ =>
    .bind (sound_scan (Scan.steady_plain _ _)) fun _ => .bind (sound_allowKey _) fun _ =>
      sound_emit trivial

/-- Whatever character a token starts with, it is read soundly. -/
theorem sound_tokenAt (c : Char) : Sound (tokenAt c) := by
  have named (make : String → Token) (explained : ∀ name, (make name).Explained) :
      Sound (possibleKey (make <$> Scan.reference)) :=
    sound_possibleKey Scan.steady_reference explained
  have quoted (double : Bool) :
      Sound (possibleKey (Token.scalar false <$> Scan.quoted double)) :=
    sound_possibleKey (Scan.steady_quoted double) fun _ => trivial
  refine .bind .get fun stream => ?_
  dsimp only
  exact .ite sound_directive <| .ite (sound_documentMark trivial) <|
    .ite (sound_documentMark trivial) <| .ite (sound_flowStart trivial) <|
    .ite (sound_flowStart trivial) <| .ite (sound_flowEnd trivial) <|
    .ite (sound_flowEnd trivial) <| .ite sound_flowEntry <| .ite sound_blockEntry <|
    .ite sound_key <| .ite sound_value <| .ite (named _ fun _ => trivial) <|
    .ite (named _ fun _ => trivial) <|
    .ite (sound_possibleKey Scan.steady_tag fun _ => trivial) <|
    .ite (sound_blockScalar _) <| .ite (sound_blockScalar _) <| .ite (quoted _) <|
    .ite (quoted _) <| .ite sound_plain sound_fail

/-- The next token is read soundly. -/
theorem sound_next : Sound next := by
  unfold next
  refine .bind .get fun stream => ?_
  extract_lets cursor token gap
  have found (begun : Unit) : Sound (token begun) := by
    refine .bind sound_dropStale fun _ => .bind .get fun _ => .bind (sound_unwind _) fun _ =>
      .bind .get fun stream => ?_
    split
    · exact .bind (sound_unwind _) fun _ => .bind sound_dropCandidate fun _ => .pure _
    · exact .bind (sound_tokenAt _) fun _ => .pure _
  clear_value token
  have read (begun : Unit) : Sound (gap begun) :=
    .bind (sound_scan (Scan.steady_gap _)) fun _ => .bind sound_inFlow fun _ =>
      .ite (.bind (sound_allowKey _) found) (found _)
  clear_value gap
  exact .ite (.bind (sound_scan (Scan.steady_skip 1)) read) (read _)

/-- A stream of tokens stays explained to its end, and so is the fault that ends it. -/
theorem sound_all {stream : TokenStream} (before : stream.Explained) (fuel : Nat) :
    (all stream fuel).1.Explained ∧ ∀ fault ∈ (all stream fuel).2, fault.Explained := by
  induction fuel generalizing stream with
  | zero => exact ⟨before, by rintro _ ⟨⟩⟩
  | succ fuel ih =>
      have step := sound_next stream before
      unfold all
      cases ran : next.run stream with
      | error fault =>
          rw [ran] at step
          refine ⟨before, ?_⟩
          rintro _ ⟨⟩
          exact step
      | ok reached =>
          rw [ran] at step
          obtain ⟨more, after⟩ := reached
          cases more with
          | true => exact ih step
          | false => exact ⟨step, by rintro _ ⟨⟩⟩

end Tokenizer

/-- Every token that is settled in a stream is explained. -/
theorem TokenStream.explained_of_mem_settled {stream : TokenStream} (explained : stream.Explained)
    {token : Token} (member : token ∈ stream.settled) : token.Explained := by
  unfold TokenStream.settled at member
  dsimp only at member
  rw [Array.take_eq_extract, Array.toList_extract] at member
  exact explained token (Array.mem_def.mpr (List.mem_of_mem_drop (List.mem_of_mem_take member)))

/-- **The tokens of a text** are explained, and a text without tokens is malformed. -/
theorem Token.explained_ofText (text : List Char) :
    match Token.ofText text with
    | .ok tokens => ∀ token ∈ tokens, token.Explained
    | .error fault => fault = .malformed := by
  have start : TokenStream.Explained { cursor := { rest := text } } := by
    rintro token ⟨⟨⟩⟩
  unfold Token.ofText
  by_cases proper : text.all isTextChar
  · have read := Tokenizer.sound_all start (text.length + 1)
    simp only [proper, Bool.not_true, Bool.false_eq_true, ↓reduceIte]
    generalize Tokenizer.all { cursor := { rest := text } } (text.length + 1) = result at read ⊢
    obtain ⟨tokens, faults⟩ := read
    rcases result with ⟨stream, _ | _ | failure⟩
    · exact fun token member => tokens token (Array.mem_def.mpr member)
    · rfl
    · intro token member
      rcases List.mem_append.mp member with settled | last
      · exact TokenStream.explained_of_mem_settled tokens settled
      · rw [List.mem_singleton.mp last]
        exact faults _ rfl
  · simp only [proper]
    rfl

end Hexwire.Document.Yaml
