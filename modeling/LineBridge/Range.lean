import LineBridge.Action

/-! Checks that a request makes before it touches a link. -/

namespace LineBridge.Addr

/-- The end of a request, which may not pass the end of the space. The end is formed in a
64-bit word, and a sum that leaves the word is not an end at all. -/
def requestEnd (a : Addr) (len : Nat) : Except Fault UInt64 :=
  let last := a.val.toNat + len
  if UInt64.size ≤ last then .error .overflow
  else if spaceBytes < last then .error (.outOfRange a.val.toNat len)
  else .ok (UInt64.ofNat last)

def requireLineAligned (a : Addr) (len : Nat) : Except Fault Unit :=
  if a.IsLineAligned then .ok () else .error (.misaligned a.val.toNat len .line)

def requireWordAligned (a : Addr) : Except Fault Unit :=
  if a.IsWordAligned then .ok () else .error (.misaligned a.val.toNat wordBytes .word)

/-- The sum is exact wherever there is one. -/
theorem requestEnd_eq_ok_iff {a : Addr} {len : Nat} :
    (∃ last, a.requestEnd len = .ok last) ↔ a.val.toNat + len ≤ spaceBytes := by
  have small : spaceBytes < UInt64.size := by decide
  simp only [requestEnd]
  split
  · simp
    omega
  · split
    · simp
      omega
    · simp
      omega

end LineBridge.Addr
