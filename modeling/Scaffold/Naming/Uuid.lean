/-
# Identifiers derived from names

A UUID of version 5 is the start of the hash of a namespace and a name, with
version and variant written into it.  The same name always gives the same
identifier, so that files made again do not change.
-/
import Scaffold.Text.Hex
import Scaffold.Text.Utf8
import Scaffold.Digest.Sha1

namespace Scaffold

namespace Uuid

/-- The namespace of the identifiers in generated files. -/
def projectNamespace : List UInt8 := [
  0x32, 0xA8, 0x30, 0xAD, 0x42, 0x3F, 0x50, 0x0A,
  0x9F, 0x84, 0x58, 0x86, 0x5D, 0x6F, 0xDF, 0x2D]

/-- Writes version 5 and the variant of RFC 9562 into the first sixteen bytes of
a hash. -/
def stamp (hash : List UInt8) : List UInt8 :=
  (hash.take 16).mapIdx fun i b =>
    if i = 6 then (b &&& 0x0F) ||| 0x50
    else if i = 8 then (b &&& 0x3F) ||| 0x80
    else b

/-- Hexadecimal digits in groups of 8, 4, 4, 4 and 12. -/
def format (bytes : List UInt8) : Text :=
  (bytes.mapIdx fun i b =>
    let digits := Text.hexPair b.toNat
    if i = 4 || i = 6 || i = 8 || i = 10 then '-' :: digits else digits).flatten

/-- The identifier of a name. -/
def ofName (name : Text) : Text :=
  format (stamp (Digest.sha1 (projectNamespace ++ Utf8.encode name)))

end Uuid

end Scaffold
