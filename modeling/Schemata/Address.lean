
namespace Schemata

/-- An address of version 4, four bytes. -/
structure AddressV4 where
  a : UInt8
  b : UInt8
  c : UInt8
  d : UInt8
  deriving Repr, DecidableEq

/-- An address of version 6, eight groups of sixteen bits. -/
structure AddressV6 where
  groups : List UInt16
  size : groups.length = 8
  deriving Repr, DecidableEq

inductive Address where
  | v4 (address : AddressV4)
  | v6 (address : AddressV6)
  deriving Repr, DecidableEq

namespace Address

def isV4 : Address → Bool
  | v4 _ => true
  | v6 _ => false

def isV6 : Address → Bool
  | v4 _ => false
  | v6 _ => true

end Address

end Schemata
