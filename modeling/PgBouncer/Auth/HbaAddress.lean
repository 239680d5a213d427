/-
The address column of an HBA line: `parse_addr`, `parse_nmask` and what `parse_line` does
with them.

What `inet_pton` and `strtoul` make of a text is a parameter; the number of bytes of an
address is part of its type.  The mask is an array of zeroes to begin with, and
`parse_nmask` writes its first bytes.  The address is stored as it stands in the file:
`bad_mask` only writes a warning to the log if it has bits outside the mask.
-/
import PgBouncer.Auth.AccessFiles

namespace PgBouncer.Access

inductive Family
  | inet | inet6
  deriving DecidableEq

/-- The size of an address. -/
def Family.bytes : Family → Nat
  | .inet => 4
  | .inet6 => 16

def Family.pgAddr : Family → Bytes → PgAddr
  | .inet => .inet4
  | .inet6 => .inet6

def Family.hbaAddress : Family → Bytes → Bytes → HbaAddress
  | .inet => .inet4
  | .inet6 => .inet6

/-- The functions of the C library the column is read with. -/
structure Library where
  inetPton : (family : Family) → Bytes → Option (Vector UInt8 family.bytes)
  /-- Base 10; nothing if `errno` is set or something stands behind the number. -/
  strtoul : Bytes → Option Nat

namespace Library

variable (lib : Library)

def parseAddr (addr : Bytes) : Option ((family : Family) × Vector UInt8 family.bytes) :=
  match lib.inetPton .inet6 addr with
  | some bytes => some ⟨.inet6, bytes⟩
  | none => (lib.inetPton .inet addr).map (Sigma.mk .inet)

/-- The loop of `parse_nmask`, for a mask of `n` bytes. -/
def prefixMask (n bits : Nat) : Bytes :=
  let whole := List.replicate (bits / 8) (255 : UInt8)
  let part := if bits % 8 ≠ 0 then [255 <<< UInt8.ofNat (8 - bits % 8)] else []
  whole ++ part ++ List.replicate (n - (whole ++ part).length) 0

def parseNmask (family : Family) (nmask : Bytes) : Option Bytes :=
  (lib.strtoul nmask).bind fun bits =>
    if 8 * family.bytes < bits then none else some (prefixMask family.bytes bits)

/-- An address with a number of bits behind a slash. -/
def cidr (s : Bytes) : Option HbaAddress :=
  let addr := s.takeWhile (· ≠ ch '/')
  (lib.parseAddr addr).bind fun ⟨family, base⟩ =>
    (lib.parseNmask family (s.drop (addr.length + 1))).map (family.hbaAddress base.toList)

/-- An address and a mask. -/
def addressMask (addr mask : Bytes) : Option HbaAddress :=
  (lib.parseAddr addr).bind fun ⟨family, base⟩ =>
    (lib.inetPton family mask).map fun mask => family.hbaAddress base.toList mask.toList

/-- The parser of HBA lines, with these functions. -/
def outside (nameFile : Bytes → Option HbaName) : Outside :=
  { nameFile, cidr := lib.cidr, addressMask := lib.addressMask }

end Library

end PgBouncer.Access
