import LineBridge.Address

/-! Executable images: blocks of bytes for addresses on the target, and where to start. -/

namespace LineBridge

/-- Bytes for one address. -/
structure Segment where
  addr : Addr
  data : Bytes
deriving DecidableEq, Repr

namespace Segment

/-- The bytes, filled with zeros to whole lines. -/
def padded (s : Segment) : Bytes := s.data.padTo lineBytes

end Segment

/-- Segments in the order in which they are loaded, and the entry point. -/
structure Image where
  segments : List Segment
  entry : UInt32
deriving DecidableEq, Repr

namespace Image

/-- Bytes of all segments, without padding. -/
def totalBytes (image : Image) : Nat :=
  image.segments.foldr (fun s total => s.data.length + total) 0

end Image

end LineBridge
