import FrameScript.Text.Basic

/-!
# UTF-8

Texts are stored in files as UTF-8.  Reading refuses the shortest malformed sequence it meets and
says where that sequence starts and what is wrong with it: its first byte, a later byte, or the end
of the data in the middle of it.
-/

namespace FrameScript

abbrev Bytes := List UInt8

namespace Text.Utf8

inductive Flaw where
  | startByte
  | continuationByte
  | endOfData
  deriving DecidableEq, Repr

def Flaw.description : Flaw → String
  | .startByte => "invalid start byte"
  | .continuationByte => "invalid continuation byte"
  | .endOfData => "unexpected end of data"

/-- A malformed sequence: where it starts and what is wrong with it. -/
structure Malformed where
  offset : Nat
  flaw : Flaw
  deriving DecidableEq, Repr

def encode (text : Text) : Bytes := text.flatMap String.utf8EncodeChar

def isContinuation (byte : UInt8) : Bool := 0x80 ≤ byte.toNat && byte.toNat ≤ 0xBF

/-- The bytes that may follow a first byte: the first of them rules out overlong forms, surrogates
and numbers beyond the last code point. -/
def follows (lead second : UInt8) : Bool :=
  let low := if lead.toNat = 0xE0 then 0xA0 else if lead.toNat = 0xF0 then 0x90 else 0x80
  let high := if lead.toNat = 0xED then 0x9F else if lead.toNat = 0xF4 then 0x8F else 0xBF
  low ≤ second.toNat && second.toNat ≤ high

/-- The character whose sequence has the given payload bits, from the first byte on. -/
def assemble (lead : Nat) (following : List UInt8) : Char :=
  Char.ofNat (following.foldl (fun code byte => code * 64 + (byte.toNat - 0x80)) lead)

/-- Decodes the bytes from a given offset on. -/
def decodeFrom (offset : Nat) : Bytes → Except Malformed Text
  | [] => .ok []
  | lead :: rest =>
      if lead.toNat < 0x80 then (decodeFrom (offset + 1) rest).map (assemble lead.toNat [] :: ·)
      else if lead.toNat < 0xC2 ∨ 0xF4 < lead.toNat then .error ⟨offset, .startByte⟩
      else
        match rest with
        | [] => .error ⟨offset, .endOfData⟩
        | second :: rest =>
            if !follows lead second then .error ⟨offset, .continuationByte⟩
            else if lead.toNat < 0xE0 then
              (decodeFrom (offset + 2) rest).map (assemble (lead.toNat - 0xC0) [second] :: ·)
            else
              match rest with
              | [] => .error ⟨offset, .endOfData⟩
              | third :: rest =>
                  if !isContinuation third then .error ⟨offset, .continuationByte⟩
                  else if lead.toNat < 0xF0 then
                    (decodeFrom (offset + 3) rest).map
                      (assemble (lead.toNat - 0xE0) [second, third] :: ·)
                  else
                    match rest with
                    | [] => .error ⟨offset, .endOfData⟩
                    | fourth :: rest =>
                        if !isContinuation fourth then .error ⟨offset, .continuationByte⟩
                        else
                          (decodeFrom (offset + 4) rest).map
                            (assemble (lead.toNat - 0xF0) [second, third, fourth] :: ·)

def decode (bytes : Bytes) : Except Malformed Text := decodeFrom 0 bytes

end Text.Utf8

end FrameScript
