/-! # Encoded recordings -/

namespace Viva

/-- The bytes that an encoder delivers at once. -/
abbrev Chunk := List UInt8

/-- A recording, or a part of one, with the kind of data it holds. -/
structure Blob where
  data : List UInt8
  mimeType : String
  deriving Repr, DecidableEq, Inhabited

namespace Blob

/-- Chunks joined in their order. -/
def concat (chunks : List Chunk) (mimeType : String) : Blob :=
  ⟨chunks.flatten, mimeType⟩

/-- How many bytes it has. -/
def size (blob : Blob) : Nat := blob.data.length

/-- It has no bytes. -/
def isEmpty (blob : Blob) : Bool := blob.data.isEmpty

end Blob

end Viva
