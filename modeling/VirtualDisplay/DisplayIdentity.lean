import VirtualDisplay.Protocol

/-!
# Display identities

The identity values derived from a display id (`display_identity.h`, `display_identity.cpp`): the
EDID product code and serial number, and the container GUID.

## What is here

* `permanentDisplayId`, `permanentProductCode` — what a permanent display gets from its index.
  Its id has the base `kPermanentDisplayIdBase` in front, so that the ids of temporary displays
  can be told from it.
* `productCodeFromDisplayId`, `serialNumberFromDisplayId` — the pair in the EDID of a display.  The
  product code keeps twelve bits of the id, and the serial number the two halves folded together, so
  the pair does not determine the id: two displays can collide, and the store looks for that.
* `containerGuidFromDisplayId` — the container, which does determine the id.

What can collide with what is settled in `LeaseStore/Identities.lean`, where the store's checks are.
-/

set_option autoImplicit false

namespace VirtualDisplay

/-- `"SDD"`. -/
def kSunshineDriverManufacturerId : Vector UInt8 3 := #v[0x53, 0x44, 0x44]

/-- Where the ids of permanent displays begin. -/
def kPermanentDisplayIdBase : UInt64 := 0x7000000000000000

/-- Product codes of permanent displays have this digit in front, and those of temporary ones the
next one below. -/
def kPermanentDisplayProductCodeBase : UInt16 := 0x4000
def kTemporaryDisplayProductCodeBase : UInt16 := 0x5000

/-- The id of a permanent display; those of different indices differ, and none is the base itself.
-/
def permanentDisplayId (index : UInt32) : UInt64 :=
  kPermanentDisplayIdBase ||| (index.toUInt64 + 1)

/-- The product code of a permanent display. -/
def permanentProductCode (index : UInt32) : UInt16 :=
  (kPermanentDisplayProductCodeBase.toUInt32 ||| (index &&& 0x0fff)).toUInt16

/-- The two halves of the id folded together; zero is not a serial number. -/
def serialNumberFromDisplayId (displayId : UInt64) : UInt32 :=
  let folded := displayId.toUInt32 ^^^ (displayId >>> 32).toUInt32
  if folded = 0 then 1 else folded

/-- The product code of a temporary display: the lowest twelve bits of its id. -/
def productCodeFromDisplayId (displayId : UInt64) : UInt16 :=
  (kTemporaryDisplayProductCodeBase.toUInt64 ||| (displayId &&& 0x0fff)).toUInt16

/-- The container of a display, under which Windows groups its devices: every byte of the id is in
it. -/
def containerGuidFromDisplayId (displayId : UInt64) : Guid where
  data1 := 0x9161d0d5
  data2 := (displayId >>> 48).toUInt16
  data3 := (displayId >>> 32).toUInt16
  data4 := #v[0x93, 0x7d, (displayId >>> 24).toUInt8, (displayId >>> 16).toUInt8,
    (displayId >>> 8).toUInt8, displayId.toUInt8, 0x53, 0x44]

end VirtualDisplay
