import HandleBridge.Text.Hex

/-!
# Handle — the address of a native object

A handle is an opaque token that the bridge hands back to the native library and never looks behind.
The null address is no handle.
-/

namespace HandleBridge

/-- The address of a native object. -/
structure Handle where
  address : Nat
  address_pos : 0 < address
  deriving DecidableEq, Repr

namespace Handle

/-- The handle at an address; none at the null address. -/
def ofAddress? (address : Nat) : Option Handle :=
  if h : 0 < address then some ⟨address, h⟩ else none

/-- The handle of the object at a place in a table. -/
def ofIndex (index : Nat) : Handle := ⟨index + 1, Nat.succ_pos index⟩

/-- The place in a table of the object behind a handle. -/
def index (h : Handle) : Nat := h.address - 1

@[simp] theorem index_ofIndex (index : Nat) : (ofIndex index).index = index := rfl

/-- The address with its base, in hexadecimal. -/
def addressText (h : Handle) : String := "0x" ++ String.ofList (Hex.shortest h.address)

/-- The handle as it is shown to people who debug. -/
def debugText (h : Handle) : String := "RawHandle(" ++ h.addressText ++ ")"

instance : Inhabited Handle := ⟨ofIndex 0⟩

end Handle

end HandleBridge
