import Hexwire.Proofs.Device.Emulation

/-! # The stream of host messages

A host sends the chip-select command and frames, and on the line nothing marks where one write ends
and the next begins. A message ends at its line feed and holds no other, so a listener that takes
the octets one by one knows at every octet which messages are complete
(`Hexwire.Message.Listener.hearAll_stream`) and recovers from the stream what was sent
(`Hexwire.Message.recovered_from_stream`).
-/

namespace Hexwire

/-- What a host sends in one write: the chip-select command or a frame. -/
inductive Message where
  | toggle
  | frame (sent : Frame)

namespace Message

/-- The octet that ends a line. -/
def lineFeed : UInt8 := 0x0A

/-- The octets that a message travels as. -/
def octets : Message → Bytes
  | toggle => chipSelectCommand
  | frame sent => sent.octets

/-- Messages as they travel, without a mark between them. -/
def stream (messages : List Message) : Bytes := messages.flatMap octets

/-- The message that a line is, its line feed included. -/
def ofLine? (line : Bytes) : Option Message :=
  if line = chipSelectCommand then some toggle
  else if Frame.terminator.isSuffixOf line then do
    let payload ← (Emulator.payloadOf (line.take (line.length - Frame.terminator.length))).toOption
    let frame ← (Frame.make payload).toOption
    some (.frame frame)
  else none

/-- A listener keeps the messages that it has heard and the octets of the line that it is in. -/
structure Listener where
  heard : List Message := []
  line : Bytes := []

namespace Listener

/-- One octet more: a line feed ends the line. -/
def hear (listener : Listener) (octet : UInt8) : Listener :=
  let line := listener.line ++ [octet]
  if octet = lineFeed then { heard := listener.heard ++ (ofLine? line).toList }
  else { listener with line := line }

/-- Octets more, one after another. -/
def hearAll (listener : Listener) (octets : Bytes) : Listener := octets.foldl hear listener

end Listener

/-- A line feed is no digit. -/
theorem digit_ne_lineFeed {octet : UInt8} (digit : Hex.isDigit (Hex.charOfOctet octet)) :
    octet ≠ lineFeed := by
  rintro rfl
  have none : Hex.isDigit (Hex.charOfOctet lineFeed) = false := by decide
  rw [none] at digit
  cases digit

/-- A message is a line: its only line feed is its last octet. -/
theorem exists_line (message : Message) :
    ∃ body, message.octets = body ++ [lineFeed] ∧ lineFeed ∉ body := by
  cases message with
  | toggle => exact ⟨[0x43, 0x53, 0x3D, 0x30], rfl, by decide⟩
  | frame sent =>
      refine ⟨Hex.encodeUpper sent.payload ++ [0x78], ?_, ?_⟩
      · simp only [octets, Frame.octets, Frame.encode, Frame.terminator, lineFeed,
          List.append_assoc, List.cons_append, List.nil_append]
      · intro member
        rcases List.mem_append.mp member with digit | mark
        · have digits := (Hex.denotes_encodeUpper sent.payload).isDigit
          exact digit_ne_lineFeed (digits _ digit) rfl
        · exact absurd (List.mem_singleton.mp mark) (by decide)

/-- A line is read as the message that it is. -/
theorem ofLine?_octets (message : Message) : ofLine? message.octets = some message := by
  cases message with
  | toggle => rfl
  | frame sent =>
      have made : Frame.make sent.payload = .ok sent := by
        rw [Frame.make, dif_pos sent.fits]
      simp only [ofLine?, octets, Frame.octets, Emulator.encode_ne_chipSelectCommand,
        Emulator.isSuffixOf_encode, ↓reduceIte, Emulator.take_encode,
        Emulator.payloadOf_encodeUpper, Except.toOption, Option.bind_eq_bind, Option.bind_some,
        made]

namespace Listener

variable (heard : List Message) (line : Bytes)

/-- Octets before the line feed are kept. -/
theorem hearAll_open {part : Bytes} (inside : lineFeed ∉ part) :
    hearAll ⟨heard, line⟩ part = ⟨heard, line ++ part⟩ := by
  induction part generalizing line with
  | nil => simp only [hearAll, List.foldl_nil, List.append_nil]
  | cons octet rest ih =>
      have other : octet ≠ lineFeed := fun same => inside (same ▸ List.mem_cons_self)
      have later : lineFeed ∉ rest := fun member => inside (List.mem_cons_of_mem _ member)
      have first : hear ⟨heard, line⟩ octet = ⟨heard, line ++ [octet]⟩ := by
        simp only [hear, if_neg other]
      calc hearAll ⟨heard, line⟩ (octet :: rest)
          = hearAll ⟨heard, line ++ [octet]⟩ rest := congrArg (hearAll · rest) first
        _ = ⟨heard, line ++ octet :: rest⟩ := by
            rw [ih _ later, List.append_assoc, List.singleton_append]

/-- A message is heard at its last octet. -/
theorem hearAll_message (message : Message) :
    hearAll ⟨heard, []⟩ message.octets = ⟨heard ++ [message], []⟩ := by
  obtain ⟨body, ended, inside⟩ := message.exists_line
  have whole : ofLine? (body ++ [lineFeed]) = some message := ended ▸ message.ofLine?_octets
  have before : hearAll ⟨heard, []⟩ body = ⟨heard, body⟩ := hearAll_open heard [] inside
  calc hearAll ⟨heard, []⟩ message.octets
      = hear (hearAll ⟨heard, []⟩ body) lineFeed := by
        rw [ended, hearAll, List.foldl_append]
        rfl
    _ = ⟨heard ++ [message], []⟩ := by
        rw [before]
        simp only [hear, ↓reduceIte, whole, Option.toList_some]

/-- **A stream is heard message by message.** The induction is on the messages, with those heard
before. -/
theorem hearAll_stream (messages : List Message) :
    hearAll ⟨heard, []⟩ (stream messages) = ⟨heard ++ messages, []⟩ := by
  induction messages generalizing heard with
  | nil => simp only [stream, List.flatMap_nil, hearAll, List.foldl_nil, List.append_nil]
  | cons first rest ih =>
      have now := hearAll_message heard first
      calc hearAll ⟨heard, []⟩ (stream (first :: rest))
          = hearAll (hearAll ⟨heard, []⟩ first.octets) (stream rest) := by
            rw [stream, List.flatMap_cons, hearAll, List.foldl_append]
            rfl
        _ = ⟨heard ++ first :: rest, []⟩ := by
            rw [now, ih, List.append_assoc, List.singleton_append]

/-- What is on the way does not disturb what was heard. -/
theorem hearAll_stream_append (messages : List Message) {part : Bytes} (inside : lineFeed ∉ part) :
    hearAll {} (stream messages ++ part) = ⟨messages, part⟩ := by
  calc hearAll {} (stream messages ++ part)
      = hearAll (hearAll {} (stream messages)) part := by
        rw [hearAll, List.foldl_append]
        rfl
    _ = ⟨messages, part⟩ := by
        rw [hearAll_stream [] messages]
        exact hearAll_open messages [] inside

end Listener

/-- A line feed comes at the end of a message only. -/
theorem lineFeed_not_mem_dropLast (message : Message) : lineFeed ∉ message.octets.dropLast := by
  obtain ⟨body, ended, inside⟩ := message.exists_line
  rw [ended, List.dropLast_concat]
  exact inside

/-- Different messages have different streams. -/
theorem stream_injective : Function.Injective stream := by
  intro sent other same
  have heard := Listener.hearAll_stream [] sent
  rw [same, Listener.hearAll_stream] at heard
  exact (congrArg Listener.heard heard).symm

/-- Different messages have different octets. -/
theorem octets_injective : Function.Injective octets := by
  intro message other same
  have lines : ofLine? message.octets = ofLine? other.octets := congrArg ofLine? same
  rw [ofLine?_octets, ofLine?_octets] at lines
  exact Option.some.inj lines

/-- **What was sent is recovered from the stream.** A listener that takes octet by octet what
arrives, the last message perhaps incomplete, has heard exactly the messages that are complete. No
two sequences of messages are the same stream, no frame is the chip-select command, and no two
frames have the same octets. -/
theorem recovered_from_stream :
    (∀ (messages : List Message) (next : Message) (count : Nat),
      let part := next.octets.dropLast.take count
      Listener.hearAll {} (stream messages ++ part) = ⟨messages, part⟩) ∧
      (∀ sent other : List Message, stream sent = stream other ↔ sent = other) ∧
        (∀ frame : Frame, frame.octets ≠ chipSelectCommand) ∧
          ∀ frame other : Frame, frame.octets = other.octets ↔ frame = other := by
  refine ⟨?_, fun _ _ => stream_injective.eq_iff, ?_, ?_⟩
  · intro messages next count part
    have inside : lineFeed ∉ part := fun member =>
      next.lineFeed_not_mem_dropLast (List.mem_of_mem_take member)
    exact Listener.hearAll_stream_append messages inside
  · intro frame
    exact Emulator.encode_ne_chipSelectCommand frame.payload
  · intro frame other
    have messages : (Message.frame frame).octets = (Message.frame other).octets ↔
        Message.frame frame = Message.frame other := octets_injective.eq_iff
    rw [Message.frame.injEq] at messages
    exact messages

/-- An empty frame, a command, a frame whose payload spells the command, and the head of another
frame. -/
theorem recovered_commandLike :
    let spelled : Frame := ⟨chipSelectCommand, by decide⟩
    let messages : List Message := [.frame ⟨[], by decide⟩, .toggle, .frame spelled]
    Listener.hearAll {} (stream messages ++ [0x43, 0x35]) = ⟨messages, [0x43, 0x35]⟩ := by
  intro spelled messages
  exact recovered_from_stream.1 messages (.frame ⟨[0xC5, 0x3D], by decide⟩) 2

end Message

end Hexwire
