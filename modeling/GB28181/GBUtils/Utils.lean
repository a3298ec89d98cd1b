import GB28181.Base.CString

/-!
# String helpers (`GBUtils/GBUtils.cpp`)

* `stringCpy_s` — the part of a text that fits a buffer.
-/

set_option autoImplicit false

namespace GB28181.GBUtils

open GB28181.Base

/-- `CGBUtils::StringCpy_s`: the text in `pszDst` afterwards.  `Utils::StringCpy_s`, which comes with
another library, is taken to do the same. -/
def stringCpy_s (nDstBufLen : Nat) (pszSrc : CStr) : CStr :=
  if nDstBufLen > pszSrc.length then pszSrc else pszSrc.take (nDstBufLen - 1)

theorem stringCpy_s_succ (n : Nat) (pszSrc : CStr) :
    stringCpy_s (n + 1) pszSrc = pszSrc.take n := by
  unfold stringCpy_s
  split
  · rw [List.take_of_length_le (by omega)]
  · rfl

end GB28181.GBUtils
