import StatusPage.Text.Utf8

/-!
The checksum CRC-32 with the reflected polynomial of IEEE 802.3.
-/

set_option autoImplicit false

namespace StatusPage.Crypto

open Text (Bytes)

namespace Crc32

def polynomial : UInt32 := 0xEDB88320

def step (state : UInt32) : UInt32 :=
  if state &&& 1 = 1 then (state >>> 1) ^^^ polynomial else state >>> 1

def update (state : UInt32) (b : UInt8) : UInt32 :=
  (List.range 8).foldl (fun state _ => step state) (state ^^^ b.toUInt32)

end Crc32

def crc32 (message : Bytes) : UInt32 :=
  message.foldl Crc32.update 0xFFFFFFFF ^^^ 0xFFFFFFFF

end StatusPage.Crypto
