import Decksmith.Query.Token

/-! Structural tokens in the bytes of a text, where a span is known by its offsets. -/

namespace Decksmith

/-- The part of a text between two offsets in its bytes. There is none if an offset is inside a character or
beyond the end, or if the two are in the wrong order. -/
def Text.slice? (text : String) (start stop : Nat) : Option (List Char) := do
  let first ← text.pos? ⟨start⟩
  let last ← text.pos? ⟨stop⟩
  if ordered : first ≤ last then some (text.slice first last ordered).copy.toList else none

/-- A bracket or an operator that has been found in the bytes of a text, or a span between two offsets. -/
inductive ByteToken where
  | structural (token : Token)
  | span (start stop : Nat)
deriving DecidableEq, Repr

namespace ByteToken

/-- Scans bytes from an offset on, where the present span has started at another one. -/
def scanFrom (start offset : Nat) : List UInt8 → List ByteToken
  | [] => [span start offset]
  | 0x5b :: rest =>
    span start offset :: structural .opening :: scanFrom (offset + 1) (offset + 1) rest
  | 0x5d :: rest =>
    span start offset :: structural .closing :: scanFrom (offset + 1) (offset + 1) rest
  | 0x26 :: 0x26 :: rest =>
    span start offset :: structural .and :: scanFrom (offset + 2) (offset + 2) rest
  | 0x7c :: 0x7c :: rest =>
    span start offset :: structural .or :: scanFrom (offset + 2) (offset + 2) rest
  -- A byte of a longer character is passed over like any other.
  | _ :: rest => scanFrom start (offset + 1) rest

/-- Scans the bytes of a text for brackets and operators, and for the spans between them. -/
def scan (text : String) : List ByteToken :=
  scanFrom 0 0 text.toByteArray.data.toList

/-- The token in a text that has been found in its bytes, unless its span cannot be cut out. -/
def read? (text : String) : ByteToken → Option Token
  | structural token => some token
  | span start stop => (Text.slice? text start stop).map .expression

end ByteToken

end Decksmith
