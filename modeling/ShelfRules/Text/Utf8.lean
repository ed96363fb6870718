import ShelfRules.Text.Character

/-!
# UTF-8

The decoder of files. Malformed bytes are reported with their place and the reason.
-/

namespace ShelfRules.Text

namespace Utf8

/-- Why bytes are not UTF-8. -/
inductive Reason where
  | invalidStart
  | invalidContinuation
  | unexpectedEnd
deriving DecidableEq, Repr

/-- The first bytes that are not UTF-8, and their place. -/
structure Error where
  reason : Reason
  position : Nat
  bytes : List UInt8
deriving DecidableEq, Repr

/-- The words for a reason. -/
def Reason.message : Reason → String
  | .invalidStart => "invalid start byte"
  | .invalidContinuation => "invalid continuation byte"
  | .unexpectedEnd => "unexpected end of data"

/-- The message for malformed bytes. -/
def Error.message (e : Error) : String :=
  match e.bytes with
  | [b] => "'utf-8' codec can't decode byte 0x" ++ String.ofList (hexDigits 2 b.toNat) ++
      s!" in position {e.position}: " ++ e.reason.message
  | bytes => s!"'utf-8' codec can't decode bytes in position {e.position}-" ++
      toString (e.position + bytes.length - 1) ++ ": " ++ e.reason.message

/-- The byte continues a character. -/
def isContinuation (b : UInt8) : Bool := 0x80 ≤ b && b ≤ 0xBF

/-- The byte may stand second behind a byte that starts three or four. The lowest and the highest
    starts allow fewer, so that no character has two forms and none is a surrogate or too large. -/
def isSecond (start b : UInt8) : Bool :=
  isContinuation b &&
    (if start = 0xE0 then 0xA0 ≤ b
     else if start = 0xED then b < 0xA0
     else if start = 0xF0 then 0x90 ≤ b
     else if start = 0xF4 then b < 0x90
     else true)

/-- The character with the given payload bits in its bytes. -/
def assemble (start : Nat) (continuations : List UInt8) : Char :=
  Char.ofNat (continuations.foldl (fun n b => n * 64 + b.toNat % 64) start)

/-- The text of bytes that start at a place. -/
def decodeFrom (position : Nat) : List UInt8 → Except Error (List Char)
  | [] => .ok []
  | a :: rest =>
    if a < 0x80 then (decodeFrom (position + 1) rest).map (Char.ofNat a.toNat :: ·)
    else if a < 0xC2 || 0xF4 < a then .error ⟨.invalidStart, position, [a]⟩
    else if a < 0xE0 then
      match rest with
      | [] => .error ⟨.unexpectedEnd, position, [a]⟩
      | b :: rest =>
        if isContinuation b then
          (decodeFrom (position + 2) rest).map (assemble (a.toNat % 32) [b] :: ·)
        else .error ⟨.invalidContinuation, position, [a]⟩
    else if a < 0xF0 then
      match rest with
      | [] => .error ⟨.unexpectedEnd, position, [a]⟩
      | [b] =>
        if isSecond a b then .error ⟨.unexpectedEnd, position, [a, b]⟩
        else .error ⟨.invalidContinuation, position, [a]⟩
      | b :: c :: rest =>
        if !isSecond a b then .error ⟨.invalidContinuation, position, [a]⟩
        else if !isContinuation c then .error ⟨.invalidContinuation, position, [a, b]⟩
        else (decodeFrom (position + 3) rest).map (assemble (a.toNat % 16) [b, c] :: ·)
    else
      match rest with
      | [] => .error ⟨.unexpectedEnd, position, [a]⟩
      | [b] =>
        if isSecond a b then .error ⟨.unexpectedEnd, position, [a, b]⟩
        else .error ⟨.invalidContinuation, position, [a]⟩
      | [b, c] =>
        if !isSecond a b then .error ⟨.invalidContinuation, position, [a]⟩
        else if !isContinuation c then .error ⟨.invalidContinuation, position, [a, b]⟩
        else .error ⟨.unexpectedEnd, position, [a, b, c]⟩
      | b :: c :: d :: rest =>
        if !isSecond a b then .error ⟨.invalidContinuation, position, [a]⟩
        else if !isContinuation c then .error ⟨.invalidContinuation, position, [a, b]⟩
        else if !isContinuation d then .error ⟨.invalidContinuation, position, [a, b, c]⟩
        else (decodeFrom (position + 4) rest).map (assemble (a.toNat % 8) [b, c, d] :: ·)

/-- The text of bytes. -/
def decode (bytes : List UInt8) : Except Error (List Char) := decodeFrom 0 bytes

/-- The bytes of a text. -/
def encode (s : String) : List UInt8 := s.toUTF8.toList

end Utf8

/-- The text with each carriage return, and each pair of one and a line feed, made a line feed. -/
def unifyLines : List Char → List Char
  | [] => []
  | '\r' :: '\n' :: s => '\n' :: unifyLines s
  | '\r' :: s => '\n' :: unifyLines s
  | c :: s => c :: unifyLines s

end ShelfRules.Text
