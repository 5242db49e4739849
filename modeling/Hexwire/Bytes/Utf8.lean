import Hexwire.Bytes.Basic

/-! # Text encoded in UTF-8

Decoding is strict: overlong forms, surrogates and codes above U+10FFFF are faults. A fault names
the octets it covers and why they are not text: an octet that starts no character, a sequence broken
by an octet that cannot continue it, or a sequence cut off by the end of the input.
-/

namespace Hexwire.Utf8

/-- Why octets are not text. -/
inductive Reason where
  | start
  | continuation
  | truncated
  deriving DecidableEq, Repr

/-- A fault covers the octets from `first` up to but not including `stop`; `octet` is the first of
them. -/
structure Fault where
  reason : Reason
  first : Nat
  stop : Nat
  octet : UInt8
  deriving DecidableEq, Repr

/-- Whether an octet continues a character. -/
def continues (octet : UInt8) : Bool := 0x80 ≤ octet && octet < 0xC0

/-- Whether an octet may come second after a leading octet: besides continuing, it must not make an
overlong form, a surrogate or a code above U+10FFFF. -/
def seconds (lead octet : UInt8) : Bool :=
  continues octet &&
    (if lead = 0xE0 then 0xA0 ≤ octet
     else if lead = 0xED then octet < 0xA0
     else if lead = 0xF0 then 0x90 ≤ octet
     else if lead = 0xF4 then octet < 0x90
     else true)

/-- The low six bits that a continuing octet adds. -/
def payload (octet : UInt8) : Nat := octet.toNat % 64

/-- Characters of octets counted from `position`. -/
def decodeFrom (position : Nat) : Bytes → Except Fault (List Char)
  | [] => .ok []
  | lead :: rest =>
    let broken (width : Nat) : Except Fault (List Char) :=
      .error ⟨.continuation, position, position + width, lead⟩
    let truncated (width : Nat) : Except Fault (List Char) :=
      .error ⟨.truncated, position, position + width, lead⟩
    let prepend (code : Nat) (tail : Except Fault (List Char)) : Except Fault (List Char) :=
      match tail with
      | .ok chars => .ok (Char.ofNat code :: chars)
      | .error fault => .error fault
    if lead < 0x80 then prepend lead.toNat (decodeFrom (position + 1) rest)
    else if lead < 0xC2 ∨ 0xF5 ≤ lead then
      .error ⟨.start, position, position + 1, lead⟩
    else if lead < 0xE0 then
      match rest with
      | [] => truncated 1
      | second :: rest =>
        if continues second then
          prepend (64 * (lead.toNat % 32) + payload second) (decodeFrom (position + 2) rest)
        else broken 1
    else if lead < 0xF0 then
      match rest with
      | [] => truncated 1
      | second :: rest =>
        if !seconds lead second then broken 1
        else match rest with
          | [] => truncated 2
          | third :: rest =>
            if continues third then
              prepend (4096 * (lead.toNat % 16) + 64 * payload second + payload third)
                (decodeFrom (position + 3) rest)
            else broken 2
    else
      match rest with
      | [] => truncated 1
      | second :: rest =>
        if !seconds lead second then broken 1
        else match rest with
          | [] => truncated 2
          | third :: rest =>
            if !continues third then broken 2
            else match rest with
              | [] => truncated 3
              | fourth :: rest =>
                if continues fourth then
                  prepend (262144 * (lead.toNat % 8) + 4096 * payload second + 64 * payload third
                    + payload fourth) (decodeFrom (position + 4) rest)
                else broken 3

/-- The characters that octets encode. -/
def decode (data : Bytes) : Except Fault (List Char) := decodeFrom 0 data

/-- The octets of text. -/
def encode (text : String) : Bytes := text.toUTF8.toList

end Hexwire.Utf8
