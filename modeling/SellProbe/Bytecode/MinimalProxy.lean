import SellProbe.Bytecode.Instruction

/-!
# Minimal proxies

The clone contracts of EIP-1167: ten fixed bytes, the address of the implementation, and fifteen
fixed bytes.
-/

namespace SellProbe.Bytecode

def proxyHead : Bytes := [0x36, 0x3d, 0x3d, 0x37, 0x3d, 0x3d, 0x3d, 0x36, 0x3d, 0x73]

def proxyTail : Bytes :=
  [0x5a, 0xf4, 0x3d, 0x82, 0x80, 0x3e, 0x90, 0x3d, 0x91, 0x60, 0x2b, 0x57, 0xfd, 0x5b, 0xf3]

/-- The implementation behind a minimal proxy, if the code is one. -/
def proxyTarget? (code : Bytes) : Option Address :=
  let head := code.take 10
  let tail := code.drop 30
  if head = proxyHead ∧ tail = proxyTail then FixedBytes.ofList? 20 ((code.drop 10).take 20)
  else none

end SellProbe.Bytecode
