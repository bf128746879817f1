import HandleBridge.Bridge.Object
import HandleBridge.Failure
import HandleBridge.Handle
import HandleBridge.Native.EntryPoints
import HandleBridge.Text.CString
import HandleBridge.Text.Quoted

/-!
# Bridge/Scratch — memory for arguments and results

Scratch memory is one row of places that all scopes share.  An allocation takes fresh cells at its
end, for the region of one scope, and a buffer is the stretch of cells that one allocation took, so
buffers never overlap.  A string is a stretch of bytes with a zero byte at the end; an array of
strings is a stretch of addresses of strings that were allocated before it.

A region has several owners: its scope, and every buffer in it that is in somebody's hands.  When it
has none left its cells are freed, all at once, and the places that they were at are not used again.
-/

namespace HandleBridge

/-- What a place in scratch memory holds. -/
inductive Cell where
  | byte (value : UInt8)
  | number (value : Int)
  | flag (value : Bool)
  /-- The address of a native object; zero is the null address. -/
  | address (value : Nat)
  /-- The address of a cell, where a string begins. -/
  | place (start : Nat)
  /-- The address of a string that the native library holds. -/
  | text (value : StringOut)
  deriving DecidableEq, Repr, Inhabited

/-- The words that a number can be kept in. -/
inductive Word where
  | u8 | i32 | u64 | i64
  deriving DecidableEq, Repr

/-- The words by their names. -/
def Word.ofName? : String → Option Word
  | "u8" => some .u8
  | "i32" => some .i32
  | "u64" => some .u64
  | "i64" => some .i64
  | _ => none

/-- A number as the word keeps it: what does not fit is cut off. -/
def Word.keep : Word → Int → Int
  | .u8, n => n % UInt8.size
  | .i32, n => n.bmod UInt32.size
  | .u64, n => n % UInt64.size
  | .i64, n => n.bmod UInt64.size

/-- A stretch of cells, in the region of a scope. -/
structure Buffer where
  region : Manager
  start : Nat
  length : Nat
  deriving DecidableEq, Repr, Inhabited

/-- A place in scratch memory. -/
structure Slot where
  /-- The scope for whose region it was taken. -/
  region : Manager
  /-- The cell, until it is freed. -/
  cell : Option Cell
  deriving DecidableEq, Repr, Inhabited

namespace Slot

/-- A place with a cell. -/
def ofCell (region : Manager) (cell : Cell) : Slot := ⟨region, some cell⟩

/-- The place after a write.  There is nothing to write to where the cell was freed. -/
def put (cell : Cell) (slot : Slot) : Slot := { slot with cell := slot.cell.map fun _ => cell }

@[simp] theorem region_put (cell : Cell) (slot : Slot) : (slot.put cell).region = slot.region := rfl

@[simp] theorem cell_put_eq_none (cell : Cell) (slot : Slot) :
    (slot.put cell).cell = none ↔ slot.cell = none := Option.map_eq_none_iff

/-- The place after a region was freed. -/
def free (region : Manager) (slot : Slot) : Slot :=
  if slot.region = region then { slot with cell := none } else slot

@[simp] theorem region_free (region : Manager) (slot : Slot) :
    (slot.free region).region = slot.region := by
  rw [free]
  split <;> rfl

end Slot

/-- Scratch memory. -/
structure Scratch where
  slots : List Slot
  /-- The buffers in somebody's hands. -/
  held : List Buffer
  deriving DecidableEq, Repr, Inhabited

namespace Scratch

/-- The memory with fresh cells for a region, and where they are. -/
def allocate (s : Scratch) (region : Manager) (cells : List Cell) : Buffer × Scratch :=
  (⟨region, s.slots.length, cells.length⟩,
    { s with slots := s.slots ++ cells.map (.ofCell region) })

/-- The memory with a buffer handed out. -/
def hold (s : Scratch) (b : Buffer) : Scratch := { s with held := b :: s.held }

/-- The memory with a buffer let go of. -/
def letGo (s : Scratch) (b : Buffer) : Scratch := { s with held := s.held.erase b }

/-- The memory with the cells of a region freed. -/
def free (s : Scratch) (region : Manager) : Scratch :=
  { s with slots := s.slots.map (.free region) }

/-- The cells of a buffer. -/
def slice (s : Scratch) (b : Buffer) : List Cell :=
  ((s.slots.drop b.start).take b.length).filterMap (·.cell)

/-- The first cell of a buffer; an empty one has none. -/
def first? (s : Scratch) (b : Buffer) : Option Cell := (s.slice b).head?

/-- What is said when the first cell of an empty buffer is read. -/
def nothingToRead : String := "read from empty scratch buffer"

/-- The memory with one cell of a buffer written.  There is nothing to write past its end. -/
def write (s : Scratch) (b : Buffer) (offset : Nat) (cell : Cell) : Scratch :=
  if offset < b.length then { s with slots := s.slots.modify (b.start + offset) (.put cell) } else s

/-- The byte that a cell holds. -/
def byte? : Cell → Option UInt8
  | .byte b => some b
  | _ => none

/-- The string that begins at a place, as far as the bytes reach. -/
def bytesAt (s : Scratch) (start : Nat) : List UInt8 :=
  (((s.slots.drop start).map (·.cell.bind byte?)).takeWhile (·.isSome)).filterMap id

/-- The text of the string that begins at a place. -/
def textAt (s : Scratch) (start : Nat) : String := CString.read (s.bytesAt start)

/-- The cells that spell a text. -/
def spell (text : String) : List Cell := (CString.ofText text).map .byte

/-- The text is refused: a zero character in it would end it early. -/
def unspellable (text : String) : Failure :=
  .argument ("string contains an interior NUL byte: " ++ Quoted.quote text)

/-- The memory with a text spelled in fresh cells. -/
def allocateText (s : Scratch) (region : Manager) (text : String) :
    Except Failure (Buffer × Scratch) :=
  if CString.spellable text then .ok (s.allocate region (spell text))
  else .error (unspellable text)

/-- The memory with texts spelled one after the other, as far as that is possible, and where each
begins. -/
def allocateTexts (region : Manager) : Scratch → List String → Except Failure (List Nat) × Scratch
  | s, [] => (.ok [], s)
  | s, text :: rest =>
    match s.allocateText region text with
    | .error failure => (.error failure, s)
    | .ok (b, s) =>
      let (starts, s) := allocateTexts region s rest
      (starts.map (b.start :: ·), s)

end Scratch

/-- The cell that holds a string, if one was written to it. -/
def Cell.ofString (s : Option StringOut) : Cell := .text s.join

/-- The cell that holds a handle. -/
def Cell.ofHandle (h : Option Handle) : Cell := .address ((h.map (·.address)).getD 0)

end HandleBridge
